import GraphQLTree.Tree.Node

/-!
The fields of nodes. Every node is described once, as the list of its slots in the order in which
they are written: what each holds, and the node with something else in it. The children of a node
and its updates are read off this list.
-/
namespace GraphQLTree

inductive FieldName
  | aliasName
  | argumentName
  | arguments
  | block
  | defaultValue
  | definitions
  | description
  | directives
  | elementType
  | fieldType
  | fields
  | innerType
  | interfaces
  | items
  | location
  | locations
  | memberName
  | name
  | namedType
  | ofDirective
  | operation
  | operationTypes
  | repeatable
  | selectionSet
  | selections
  | typeCondition
  | types
  | value
  | valueType
  | values
  | var
  | variableDefinitions
  | variableType
deriving DecidableEq, Repr

inductive Content
  | text (s : String)
  | integer (n : Int64)
  | number (x : Binary64)
  | flag (b : Bool)
  | operation (o : OperationType)
  | node (n : Node)
  | optional (n : Option Node)
  | list (ns : List Node)
  | location (l : Option Location)

namespace Content

def nodes : Content → List Node
  | node n => [n]
  | optional n => n.toList
  | list ns => ns
  | text _ | integer _ | number _ | flag _ | operation _ | location _ => []

def text? : Content → Option String
  | text s => some s
  | _ => none

def integer? : Content → Option Int64
  | integer n => some n
  | _ => none

def number? : Content → Option Binary64
  | number x => some x
  | _ => none

def flag? : Content → Option Bool
  | flag b => some b
  | _ => none

def operation? : Content → Option OperationType
  | operation o => some o
  | _ => none

def location? : Content → Option (Option Location)
  | location l => some l
  | _ => none

section Parts

variable {α : Type} [Part α]

def ofOne (a : α) : Content :=
  .node (Part.toNode a)

def ofOptional (a : Option α) : Content :=
  .optional (a.map Part.toNode)

def ofMany (as : List α) : Content :=
  .list (as.map Part.toNode)

def one? : Content → Option α
  | node n => Part.ofNode? n
  | _ => none

def optional? : Content → Option (Option α)
  | optional none => some none
  | optional (some n) => (Part.ofNode? n).map some
  | _ => none

def many? : Content → Option (List α)
  | list ns => ns.mapM Part.ofNode?
  | _ => none

theorem one?_ofOne (a : α) : (ofOne a).one? = some a :=
  Part.ofNode?_toNode a

theorem optional?_ofOptional (a : Option α) : (ofOptional a).optional? = some a := by
  cases a <;> simp [ofOptional, optional?, Part.ofNode?_toNode]

theorem many?_ofMany (as : List α) : (ofMany as).many? = some as := by
  simp only [ofMany, many?]
  induction as with
  | nil => rfl
  | cons a as ih => simp [Part.ofNode?_toNode, ih]

end Parts

end Content

/-- A field of a node: what it holds, and the node with other contents in it. There is no such node
when the contents are of another sort than the field holds, and an error when they break a rule. -/
structure Slot where
  field : FieldName
  content : Content
  replace : Content → Option (Except TreeError Node)

namespace Slot

variable {α : Type} [Part α]

def checkedText (field : FieldName) (s : String) (put : String → Except TreeError Node) : Slot :=
  ⟨field, .text s, fun c => c.text?.map put⟩

def checkedFlag (field : FieldName) (b : Bool) (put : Bool → Except TreeError Node) : Slot :=
  ⟨field, .flag b, fun c => c.flag?.map put⟩

def checkedOne (field : FieldName) (a : α) (put : α → Except TreeError Node) : Slot :=
  ⟨field, .ofOne a, fun c => c.one?.map put⟩

def checkedOptional (field : FieldName) (a : Option α) (put : Option α → Except TreeError Node) : Slot :=
  ⟨field, .ofOptional a, fun c => c.optional?.map put⟩

def text (field : FieldName) (s : String) (put : String → Node) : Slot :=
  checkedText field s fun v => .ok (put v)

def flag (field : FieldName) (b : Bool) (put : Bool → Node) : Slot :=
  checkedFlag field b fun v => .ok (put v)

def integer (field : FieldName) (n : Int64) (put : Int64 → Node) : Slot :=
  ⟨field, .integer n, fun c => c.integer?.map fun v => .ok (put v)⟩

def number (field : FieldName) (x : Binary64) (put : Binary64 → Node) : Slot :=
  ⟨field, .number x, fun c => c.number?.map fun v => .ok (put v)⟩

def operation (o : OperationType) (put : OperationType → Node) : Slot :=
  ⟨.operation, .operation o, fun c => c.operation?.map fun v => .ok (put v)⟩

def one (field : FieldName) (a : α) (put : α → Node) : Slot :=
  checkedOne field a fun v => .ok (put v)

def optional (field : FieldName) (a : Option α) (put : Option α → Node) : Slot :=
  checkedOptional field a fun v => .ok (put v)

def many (field : FieldName) (as : List α) (put : List α → Node) : Slot :=
  ⟨field, .ofMany as, fun c => c.many?.map fun v => .ok (put v)⟩

def place (l : Option Location) (put : Option Location → Node) : Slot :=
  ⟨.location, .location l, fun c => c.location?.map fun v => .ok (put v)⟩

end Slot

open Slot

def Name.slots (n : Name) : List Slot :=
  [checkedText .value n.value fun v => (n.withValue v).map .name,
    place n.location fun v => .name { n with location := v }]

def Document.slots (d : Document) : List Slot :=
  [many .definitions d.definitions fun v => .document { d with definitions := v },
    place d.location fun v => .document { d with location := v }]

def Variable.slots (d : Variable) : List Slot :=
  let put (v : Variable) : Node := .value (.var v)
  [one .name d.name fun v => put { d with name := v },
    place d.location fun v => put { d with location := v }]

def StringValue.slots (s : StringValue) : List Slot :=
  let put (v : StringValue) : Node := .value (.string v)
  [text .value s.value fun v => put { s with value := v },
    flag .block s.block fun v => put { s with block := v },
    place s.location fun v => put { s with location := v }]

def Value.slots : Value → List Slot
  | .var v => v.slots
  | .int n l =>
    [integer .value n fun v => .value (.int v l), place l fun v => .value (.int n v)]
  | .float x l =>
    [number .value x fun v => .value (.float v l), place l fun v => .value (.float x v)]
  | .string s => s.slots
  | .boolean b l =>
    [flag .value b fun v => .value (.boolean v l), place l fun v => .value (.boolean b v)]
  | .null l => [place l fun v => .value (.null v)]
  | .enum s l =>
    [text .value s fun v => .value (.enum v l), place l fun v => .value (.enum s v)]
  | .list items l =>
    [many .items items fun v => .value (.list v l), place l fun v => .value (.list items v)]
  | .object fields l =>
    [many .fields fields fun v => .value (.object v l), place l fun v => .value (.object fields v)]

def ObjectField.slots (f : ObjectField) : List Slot :=
  [one .name f.name fun v => .objectField { f with name := v },
    one .value f.value fun v => .objectField { f with value := v },
    place f.location fun v => .objectField { f with location := v }]

def Argument.slots (a : Argument) : List Slot :=
  [one .name a.name fun v => .argument { a with name := v },
    one .value a.value fun v => .argument { a with value := v },
    place a.location fun v => .argument { a with location := v }]

def Directive.slots (d : Directive) : List Slot :=
  [one .name d.name fun v => .directive { d with name := v },
    many .arguments d.arguments fun v => .directive { d with arguments := v },
    place d.location fun v => .directive { d with location := v }]

def TypeRef.slots : TypeRef → List Slot
  | .named t =>
    [one .name t.name fun v => .typeRef (.named { t with name := v }),
      place t.location fun v => .typeRef (.named { t with location := v })]
  | .list t l =>
    [one .elementType t fun v => .typeRef (.list v l), place l fun v => .typeRef (.list t v)]
  | .nonNull t l =>
    [checkedOne .innerType t fun v => (TypeRef.checkedNonNull v l).map .typeRef,
      place l fun v => .typeRef (.nonNull t v)]

def VariableDefinition.slots (d : VariableDefinition) : List Slot :=
  [one .var d.var fun v => .variableDefinition { d with var := v },
    one .variableType d.type fun v => .variableDefinition { d with type := v },
    optional .defaultValue d.defaultValue fun v => .variableDefinition { d with defaultValue := v },
    many .directives d.directives fun v => .variableDefinition { d with directives := v },
    place d.location fun v => .variableDefinition { d with location := v }]

def SelectionSet.slots (s : SelectionSet) : List Slot :=
  [many .selections s.selections fun v => .selectionSet { s with selections := v },
    place s.location fun v => .selectionSet { s with location := v }]

def Field.slots (f : Field) : List Slot :=
  let put (v : Field) : Node := .selection (.field v)
  [optional .aliasName f.aliasName fun v => put { f with aliasName := v },
    one .name f.name fun v => put { f with name := v },
    many .arguments f.arguments fun v => put { f with arguments := v },
    many .directives f.directives fun v => put { f with directives := v },
    optional .selectionSet f.selectionSet fun v => put { f with selectionSet := v },
    place f.location fun v => put { f with location := v }]

def FragmentSpread.slots (s : FragmentSpread) : List Slot :=
  let put (v : FragmentSpread) : Node := .selection (.spread v)
  [one .name s.name fun v => put { s with name := v },
    many .directives s.directives fun v => put { s with directives := v },
    place s.location fun v => put { s with location := v }]

def InlineFragment.slots (f : InlineFragment) : List Slot :=
  let put (v : InlineFragment) : Node := .selection (.inline v)
  [optional .typeCondition f.typeCondition fun v => put { f with typeCondition := v },
    many .directives f.directives fun v => put { f with directives := v },
    one .selectionSet f.selectionSet fun v => put { f with selectionSet := v },
    place f.location fun v => put { f with location := v }]

def Selection.slots : Selection → List Slot
  | .field f => f.slots
  | .spread s => s.slots
  | .inline f => f.slots

def OperationDefinition.slots (d : OperationDefinition) : List Slot :=
  let put (v : OperationDefinition) : Node := .definition (.operation v)
  [Slot.operation d.operation fun v => put { d with operation := v },
    optional .name d.name fun v => put { d with name := v },
    many .variableDefinitions d.variableDefinitions fun v => put { d with variableDefinitions := v },
    many .directives d.directives fun v => put { d with directives := v },
    one .selectionSet d.selectionSet fun v => put { d with selectionSet := v },
    place d.location fun v => put { d with location := v }]

def FragmentDefinition.slots (d : FragmentDefinition) : List Slot :=
  let put (v : FragmentDefinition) : Node := .definition (.fragment v)
  [one .name d.name fun v => put { d with name := v },
    many .variableDefinitions d.variableDefinitions fun v => put { d with variableDefinitions := v },
    one .typeCondition d.typeCondition fun v => put { d with typeCondition := v },
    many .directives d.directives fun v => put { d with directives := v },
    one .selectionSet d.selectionSet fun v => put { d with selectionSet := v },
    place d.location fun v => put { d with location := v }]

def OperationTypeDefinition.slots (d : OperationTypeDefinition) : List Slot :=
  [Slot.operation d.operation fun v => .operationTypeDefinition { d with operation := v },
    one .namedType d.type fun v => .operationTypeDefinition { d with type := v },
    place d.location fun v => .operationTypeDefinition { d with location := v }]

def InputValueDefinition.slots (d : InputValueDefinition) : List Slot :=
  [optional .description d.description fun v => .inputValueDefinition { d with description := v },
    one .name d.name fun v => .inputValueDefinition { d with name := v },
    one .valueType d.type fun v => .inputValueDefinition { d with type := v },
    optional .defaultValue d.defaultValue fun v => .inputValueDefinition { d with defaultValue := v },
    many .directives d.directives fun v => .inputValueDefinition { d with directives := v },
    place d.location fun v => .inputValueDefinition { d with location := v }]

def FieldDefinition.slots (d : FieldDefinition) : List Slot :=
  [optional .description d.description fun v => .fieldDefinition { d with description := v },
    one .name d.name fun v => .fieldDefinition { d with name := v },
    many .arguments d.arguments fun v => .fieldDefinition { d with arguments := v },
    one .fieldType d.type fun v => .fieldDefinition { d with type := v },
    many .directives d.directives fun v => .fieldDefinition { d with directives := v },
    place d.location fun v => .fieldDefinition { d with location := v }]

def EnumValueDefinition.slots (d : EnumValueDefinition) : List Slot :=
  [optional .description d.description fun v => .enumValueDefinition { d with description := v },
    one .name d.name fun v => .enumValueDefinition { d with name := v },
    many .directives d.directives fun v => .enumValueDefinition { d with directives := v },
    place d.location fun v => .enumValueDefinition { d with location := v }]

def TypeBody.interfaceSlots (b : TypeBody) (put : TypeBody → Node) : List Slot :=
  match b with
  | .object interfaces fields => [many .interfaces interfaces fun v => put (.object v fields)]
  | .interface interfaces fields => [many .interfaces interfaces fun v => put (.interface v fields)]
  | _ => []

def TypeBody.memberSlots (b : TypeBody) (put : TypeBody → Node) : List Slot :=
  match b with
  | .scalar => []
  | .object interfaces fields => [many .fields fields fun v => put (.object interfaces v)]
  | .interface interfaces fields => [many .fields fields fun v => put (.interface interfaces v)]
  | .union types => [many .types types fun v => put (.union v)]
  | .enum values => [many .values values fun v => put (.enum v)]
  | .inputObject fields => [many .fields fields fun v => put (.inputObject v)]

def TypeDefinition.slots (d : TypeDefinition) : List Slot :=
  let put (v : TypeDefinition) : Node := .definition (.type v)
  [optional .description d.description fun v => put { d with description := v },
    one .name d.name fun v => put { d with name := v }] ++
  d.body.interfaceSlots (fun v => put { d with body := v }) ++
  [many .directives d.directives fun v => put { d with directives := v }] ++
  d.body.memberSlots (fun v => put { d with body := v }) ++
  [place d.location fun v => put { d with location := v }]

def TypeExtension.slots (d : TypeExtension) : List Slot :=
  let put (v : TypeExtension) : Node := .definition (.typeExtension v)
  [one .name d.name fun v => put { d with name := v }] ++
  d.body.interfaceSlots (fun v => put { d with body := v }) ++
  [many .directives d.directives fun v => put { d with directives := v }] ++
  d.body.memberSlots (fun v => put { d with body := v }) ++
  [place d.location fun v => put { d with location := v }]

def DirectiveDefinition.slots (d : DirectiveDefinition) : List Slot :=
  let put (v : DirectiveDefinition) : Node := .definition (.directive v)
  [optional .description d.description fun v => put { d with description := v },
    one .name d.name fun v => put { d with name := v },
    many .arguments d.arguments fun v => put { d with arguments := v },
    flag .repeatable d.repeatable fun v => put { d with repeatable := v },
    many .locations d.locations fun v => put { d with locations := v },
    place d.location fun v => put { d with location := v }]

def SchemaDefinition.slots (d : SchemaDefinition) : List Slot :=
  let put (v : SchemaDefinition) : Node := .definition (.schema v)
  [optional .description d.description fun v => put { d with description := v },
    many .directives d.directives fun v => put { d with directives := v },
    many .operationTypes d.operationTypes fun v => put { d with operationTypes := v },
    place d.location fun v => put { d with location := v }]

def SchemaExtension.slots (d : SchemaExtension) : List Slot :=
  let put (v : SchemaExtension) : Node := .definition (.schemaExtension v)
  [many .directives d.directives fun v => put { d with directives := v },
    many .operationTypes d.operationTypes fun v => put { d with operationTypes := v },
    place d.location fun v => put { d with location := v }]

def Definition.slots : Definition → List Slot
  | .operation d => d.slots
  | .fragment d => d.slots
  | .schema d => d.slots
  | .type d => d.slots
  | .directive d => d.slots
  | .schemaExtension d => d.slots
  | .typeExtension d => d.slots

def SchemaCoordinate.slots (c : SchemaCoordinate) : List Slot :=
  [checkedFlag .ofDirective c.ofDirective
      fun v => (SchemaCoordinate.checked { c with ofDirective := v }).map .schemaCoordinate,
    -- another name keeps the shape, any other part may break it
    one .name c.name fun v => .schemaCoordinate { c with name := v },
    checkedOptional .memberName c.member
      fun v => (SchemaCoordinate.checked { c with member := v }).map .schemaCoordinate,
    checkedOptional .argumentName c.argument
      fun v => (SchemaCoordinate.checked { c with argument := v }).map .schemaCoordinate,
    place c.location fun v => .schemaCoordinate { c with location := v }]

namespace Node

def slots : Node → List Slot
  | name n => n.slots
  | document d => d.slots
  | definition d => d.slots
  | variableDefinition d => d.slots
  | selectionSet s => s.slots
  | selection s => s.slots
  | argument a => a.slots
  | value v => v.slots
  | objectField f => f.slots
  | directive d => d.slots
  | typeRef t => t.slots
  | operationTypeDefinition d => d.slots
  | fieldDefinition d => d.slots
  | inputValueDefinition d => d.slots
  | enumValueDefinition d => d.slots
  | schemaCoordinate c => c.slots

def slot? (n : Node) (field : FieldName) : Option Slot :=
  n.slots.find? (·.field = field)

def get? (n : Node) (field : FieldName) : Option Content :=
  (n.slot? field).map (·.content)

def update (n : Node) (field : FieldName) (c : Content) : Option (Except TreeError Node) :=
  (n.slot? field).bind (·.replace c)

def children (n : Node) : List Node :=
  n.slots.flatMap (·.content.nodes)

end Node

end GraphQLTree
