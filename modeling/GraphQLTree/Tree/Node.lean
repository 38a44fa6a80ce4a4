import GraphQLTree.Tree.Equality

namespace GraphQLTree

inductive Node
  | name (n : Name)
  | document (d : Document)
  | definition (d : Definition)
  | variableDefinition (d : VariableDefinition)
  | selectionSet (s : SelectionSet)
  | selection (s : Selection)
  | argument (a : Argument)
  | value (v : Value)
  | objectField (f : ObjectField)
  | directive (d : Directive)
  | typeRef (t : TypeRef)
  | operationTypeDefinition (d : OperationTypeDefinition)
  | fieldDefinition (d : FieldDefinition)
  | inputValueDefinition (d : InputValueDefinition)
  | enumValueDefinition (d : EnumValueDefinition)
  | schemaCoordinate (c : SchemaCoordinate)

def Value.kind : Value → Kind
  | .var _ => .variable
  | .int _ _ => .intValue
  | .float _ _ => .floatValue
  | .string _ => .stringValue
  | .boolean _ _ => .booleanValue
  | .null _ => .nullValue
  | .enum _ _ => .enumValue
  | .list _ _ => .listValue
  | .object _ _ => .objectValue

def Value.location : Value → Option Location
  | .var v => v.location
  | .string s => s.location
  | .int _ l | .float _ l | .boolean _ l | .null l | .enum _ l | .list _ l | .object _ l => l

def TypeRef.kind : TypeRef → Kind
  | named _ => .namedType
  | list _ _ => .listType
  | nonNull _ _ => .nonNullType

def TypeRef.location : TypeRef → Option Location
  | named t => t.location
  | list _ l | nonNull _ l => l

def Selection.kind : Selection → Kind
  | field _ => .field
  | spread _ => .fragmentSpread
  | inline _ => .inlineFragment

def Selection.location : Selection → Option Location
  | field f => f.location
  | spread s => s.location
  | inline f => f.location

def TypeBody.definitionKind : TypeBody → Kind
  | scalar => .scalarTypeDefinition
  | object _ _ => .objectTypeDefinition
  | interface _ _ => .interfaceTypeDefinition
  | union _ => .unionTypeDefinition
  | enum _ => .enumTypeDefinition
  | inputObject _ => .inputObjectTypeDefinition

def TypeBody.extensionKind : TypeBody → Kind
  | scalar => .scalarTypeExtension
  | object _ _ => .objectTypeExtension
  | interface _ _ => .interfaceTypeExtension
  | union _ => .unionTypeExtension
  | enum _ => .enumTypeExtension
  | inputObject _ => .inputObjectTypeExtension

def Definition.kind : Definition → Kind
  | operation _ => .operationDefinition
  | fragment _ => .fragmentDefinition
  | schema _ => .schemaDefinition
  | type t => t.body.definitionKind
  | directive _ => .directiveDefinition
  | schemaExtension _ => .schemaExtension
  | typeExtension t => t.body.extensionKind

def Definition.location : Definition → Option Location
  | operation d => d.location
  | fragment d => d.location
  | schema d => d.location
  | type d => d.location
  | directive d => d.location
  | schemaExtension d => d.location
  | typeExtension d => d.location

def Definition.declaredName? : Definition → Option Name
  | type d => some d.name
  | typeExtension d => some d.name
  | directive d => some d.name
  | _ => none

namespace Node

def kind : Node → Kind
  | name _ => .name
  | document _ => .document
  | definition d => d.kind
  | variableDefinition _ => .variableDefinition
  | selectionSet _ => .selectionSet
  | selection s => s.kind
  | argument _ => .argument
  | value v => v.kind
  | objectField _ => .objectField
  | directive _ => .directive
  | typeRef t => t.kind
  | operationTypeDefinition _ => .operationTypeDefinition
  | fieldDefinition _ => .fieldDefinition
  | inputValueDefinition _ => .inputValueDefinition
  | enumValueDefinition _ => .enumValueDefinition
  | schemaCoordinate _ => .schemaCoordinate

def location : Node → Option Location
  | name n => n.location
  | document d => d.location
  | definition d => d.location
  | variableDefinition d => d.location
  | selectionSet s => s.location
  | selection s => s.location
  | argument a => a.location
  | value v => v.location
  | objectField f => f.location
  | directive d => d.location
  | typeRef t => t.location
  | operationTypeDefinition d => d.location
  | fieldDefinition d => d.location
  | inputValueDefinition d => d.location
  | enumValueDefinition d => d.location
  | schemaCoordinate c => c.location

def declaredName? : Node → Option Name
  | definition d => d.declaredName?
  | fieldDefinition d => some d.name
  | inputValueDefinition d => some d.name
  | enumValueDefinition d => some d.name
  | typeRef (.named t) => some t.name
  | _ => none

def beq : Node → Node → Bool
  | name a, name b => a == b
  | document a, document b => a == b
  | definition a, definition b => a == b
  | variableDefinition a, variableDefinition b => a == b
  | selectionSet a, selectionSet b => a == b
  | selection a, selection b => a == b
  | argument a, argument b => a == b
  | value a, value b => a == b
  | objectField a, objectField b => a == b
  | directive a, directive b => a == b
  | typeRef a, typeRef b => a == b
  | operationTypeDefinition a, operationTypeDefinition b => a == b
  | fieldDefinition a, fieldDefinition b => a == b
  | inputValueDefinition a, inputValueDefinition b => a == b
  | enumValueDefinition a, enumValueDefinition b => a == b
  | schemaCoordinate a, schemaCoordinate b => a == b
  | _, _ => false

instance : BEq Node := ⟨beq⟩

end Node

class Part (α : Type) where
  toNode : α → Node
  ofNode? : Node → Option α
  ofNode?_toNode : ∀ a, ofNode? (toNode a) = some a

instance : Part Node := ⟨id, some, fun _ => rfl⟩

instance : Part Name := ⟨.name, fun | .name n => some n | _ => none, fun _ => rfl⟩

instance : Part Definition := ⟨.definition, fun | .definition d => some d | _ => none, fun _ => rfl⟩

instance : Part VariableDefinition :=
  ⟨.variableDefinition, fun | .variableDefinition d => some d | _ => none, fun _ => rfl⟩

instance : Part SelectionSet := ⟨.selectionSet, fun | .selectionSet s => some s | _ => none, fun _ => rfl⟩

instance : Part Selection := ⟨.selection, fun | .selection s => some s | _ => none, fun _ => rfl⟩

instance : Part Argument := ⟨.argument, fun | .argument a => some a | _ => none, fun _ => rfl⟩

instance : Part Value := ⟨.value, fun | .value v => some v | _ => none, fun _ => rfl⟩

instance : Part Variable :=
  ⟨fun v => .value (.var v), fun | .value (.var v) => some v | _ => none, fun _ => rfl⟩

instance : Part StringValue :=
  ⟨fun s => .value (.string s), fun | .value (.string s) => some s | _ => none, fun _ => rfl⟩

instance : Part ObjectField := ⟨.objectField, fun | .objectField f => some f | _ => none, fun _ => rfl⟩

instance : Part Directive := ⟨.directive, fun | .directive d => some d | _ => none, fun _ => rfl⟩

instance : Part TypeRef := ⟨.typeRef, fun | .typeRef t => some t | _ => none, fun _ => rfl⟩

instance : Part NamedType :=
  ⟨fun t => .typeRef (.named t), fun | .typeRef (.named t) => some t | _ => none, fun _ => rfl⟩

instance : Part OperationTypeDefinition :=
  ⟨.operationTypeDefinition, fun | .operationTypeDefinition d => some d | _ => none, fun _ => rfl⟩

instance : Part FieldDefinition :=
  ⟨.fieldDefinition, fun | .fieldDefinition d => some d | _ => none, fun _ => rfl⟩

instance : Part InputValueDefinition :=
  ⟨.inputValueDefinition, fun | .inputValueDefinition d => some d | _ => none, fun _ => rfl⟩

instance : Part EnumValueDefinition :=
  ⟨.enumValueDefinition, fun | .enumValueDefinition d => some d | _ => none, fun _ => rfl⟩

instance : Part SchemaCoordinate :=
  ⟨.schemaCoordinate, fun | .schemaCoordinate c => some c | _ => none, fun _ => rfl⟩

end GraphQLTree
