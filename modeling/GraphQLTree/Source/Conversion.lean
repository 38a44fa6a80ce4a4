import GraphQLTree.Source.Document
import GraphQLTree.Text.Offset
import GraphQLTree.Tree.Document

/-!
From documents as their text gives them to trees of nodes. A construct is located at its mark. The
name that a construct declares is located there too; a name that refers to something else has no
location, and neither have values, types, descriptions and arguments. Of several faults the one that
is met first is the answer, so the order of the steps below is part of the rule.
-/
namespace GraphQLTree.Source

/-- The starts of the lines of the text that the marks belong to; none when the text is not known,
and then every place is taken to be at byte 0. -/
abbrev Lines := List Text.LineStart

def Lines.ofText (s : String) : Lines :=
  Text.lineStarts s.toList

def Lines.unknown : Lines := []

def Mark.location (m : Mark) (lines : Lines) : Location :=
  let line := m.line - 1
  let column := m.column - 1
  .point ⟨line, column, Text.byteOffset lines line column⟩

abbrev Conversion := Except TreeError

def reference (s : String) : Conversion Name :=
  Name.new s

def declared (lines : Lines) (m : Mark) (s : String) : Conversion Name := do
  return { ← Name.new s with location := some (m.location lines) }

def typeReference (s : String) : Conversion NamedType := do
  return ⟨← reference s, none⟩

def describe (s : Option String) : Option StringValue :=
  s.map (⟨·, false, none⟩)

def TypeExpr.toTree : TypeExpr → Conversion TypeRef
  | named s => do return .named (← typeReference s)
  | list t => do return .list (← t.toTree) none
  | nonNull t => do TypeRef.newNonNull (← t.toTree)

mutual

def Value.toTree : Value → Conversion GraphQLTree.Value
  | .var s => do return .var ⟨← reference s, none⟩
  | .int n => return .int n none
  | .float x => return .float x none
  | .string s => return .string ⟨s, false, none⟩
  | .boolean b => return .boolean b none
  | .null => return .null none
  | .enum s => return .enum s none
  | .list items => do return .list (← Value.toTrees items) none
  | .object entries => do return .object (← Entry.toObjectFields entries) none

def Value.toTrees : List Value → Conversion (List GraphQLTree.Value)
  | [] => return []
  | v :: vs => do return (← v.toTree) :: (← Value.toTrees vs)

def Entry.toObjectFields : List Entry → Conversion (List ObjectField)
  | [] => return []
  | ⟨key, value⟩ :: es => do
    return ⟨← reference key, ← value.toTree, none⟩ :: (← Entry.toObjectFields es)

end

def Entry.toArgument (e : Entry) : Conversion Argument := do
  return ⟨← reference e.key, ← e.value.toTree, none⟩

def Directive.toTree (lines : Lines) (d : Directive) : Conversion GraphQLTree.Directive := do
  let name ← declared lines d.mark d.name
  return ⟨name, ← d.arguments.mapM Entry.toArgument, d.mark.location lines⟩

def VariableDefinition.toTree (lines : Lines) (d : VariableDefinition) :
    Conversion GraphQLTree.VariableDefinition := do
  let l := d.mark.location lines
  let name ← declared lines d.mark d.name
  let defaultValue ← d.defaultValue.mapM Value.toTree
  return ⟨⟨name, l⟩, ← d.type.toTree, defaultValue, [], l⟩

def FragmentSpread.toTree (lines : Lines) (s : FragmentSpread) : Conversion GraphQLTree.FragmentSpread := do
  let name ← reference s.name
  return ⟨name, ← s.directives.mapM (·.toTree lines), s.mark.location lines⟩

mutual

def Selection.toTree (lines : Lines) : Selection → Conversion GraphQLTree.Selection
  | .field f => do return .field (← f.toTree lines)
  | .spread s => do return .spread (← s.toTree lines)
  | .inline f => do return .inline (← f.toTree lines)

def Selection.toTrees (lines : Lines) : List Selection → Conversion (List GraphQLTree.Selection)
  | [] => return []
  | s :: ss => do return (← s.toTree lines) :: (← Selection.toTrees lines ss)

def Field.toTree (lines : Lines) : Field → Conversion GraphQLTree.Field
  | ⟨mark, aliasName, name, arguments, directives, set⟩ => do
    -- of two faults the one among the selections is told
    let selectionSet ← set.toTree? lines
    let aliasName ← aliasName.mapM (declared lines mark)
    let name ← declared lines mark name
    let arguments ← arguments.mapM Entry.toArgument
    return ⟨aliasName, name, arguments, ← directives.mapM (·.toTree lines), selectionSet, mark.location lines⟩

def InlineFragment.toTree (lines : Lines) : InlineFragment → Conversion GraphQLTree.InlineFragment
  | ⟨mark, typeCondition, directives, set⟩ => do
    let typeCondition ← typeCondition.mapM typeReference
    let selectionSet ← set.toTree lines
    return ⟨typeCondition, ← directives.mapM (·.toTree lines), selectionSet, mark.location lines⟩

def SelectionSet.toTree (lines : Lines) : SelectionSet → Conversion GraphQLTree.SelectionSet
  | ⟨mark, items⟩ => do return ⟨← Selection.toTrees lines items, mark.location lines⟩

def SelectionSet.toTree? (lines : Lines) : SelectionSet → Conversion (Option GraphQLTree.SelectionSet)
  | ⟨_, []⟩ => return none
  | ⟨mark, item :: items⟩ => do
    let item ← item.toTree lines
    return some ⟨item :: (← Selection.toTrees lines items), mark.location lines⟩

end

def Operation.toTree (lines : Lines) (o : Operation) : Conversion OperationDefinition := do
  let name ← o.name.mapM (declared lines o.mark)
  let variableDefinitions ← o.variableDefinitions.mapM (·.toTree lines)
  let selectionSet ← o.selectionSet.toTree lines
  return ⟨o.operation, name, variableDefinitions, ← o.directives.mapM (·.toTree lines), selectionSet,
    o.mark.location lines⟩

def Fragment.toTree (lines : Lines) (f : Fragment) : Conversion FragmentDefinition := do
  let name ← declared lines f.mark f.name
  let typeCondition ← typeReference f.typeCondition
  let selectionSet ← f.selectionSet.toTree lines
  return ⟨name, [], typeCondition, ← f.directives.mapM (·.toTree lines), selectionSet, f.mark.location lines⟩

def ExecutableDefinition.toTree (lines : Lines) : ExecutableDefinition → Conversion Definition
  | shorthand set => do
    return .operation ⟨.query, none, [], [], ← set.toTree lines, set.mark.location lines⟩
  | operation o => do return .operation (← o.toTree lines)
  | fragment f => do return .fragment (← f.toTree lines)

def InputValue.toTree (lines : Lines) (v : InputValue) : Conversion InputValueDefinition := do
  -- a fault in the default value hides one in the name
  let defaultValue ← v.defaultValue.mapM Value.toTree
  let name ← declared lines v.mark v.name
  let type ← v.type.toTree
  return ⟨describe v.description, name, type, defaultValue, ← v.directives.mapM (·.toTree lines),
    v.mark.location lines⟩

def FieldDefinition.toTree (lines : Lines) (f : FieldDefinition) :
    Conversion GraphQLTree.FieldDefinition := do
  let name ← declared lines f.mark f.name
  let type ← f.type.toTree
  let arguments ← f.arguments.mapM (·.toTree lines)
  return ⟨describe f.description, name, arguments, type, ← f.directives.mapM (·.toTree lines),
    f.mark.location lines⟩

def EnumValue.toTree (lines : Lines) (v : EnumValue) : Conversion EnumValueDefinition := do
  let name ← declared lines v.mark v.name
  return ⟨describe v.description, name, ← v.directives.mapM (·.toTree lines), v.mark.location lines⟩

def TypeBody.toTree (lines : Lines) (directives : List Directive) :
    TypeBody → Conversion (List GraphQLTree.Directive × GraphQLTree.TypeBody)
  | scalar => do return (← directives.mapM (·.toTree lines), .scalar)
  | object interfaces fields => do
    let interfaces ← interfaces.mapM typeReference
    let directives ← directives.mapM (·.toTree lines)
    return (directives, .object interfaces (← fields.mapM (·.toTree lines)))
  | interface interfaces fields => do
    let interfaces ← interfaces.mapM typeReference
    let directives ← directives.mapM (·.toTree lines)
    return (directives, .interface interfaces (← fields.mapM (·.toTree lines)))
  | union types => do
    let directives ← directives.mapM (·.toTree lines)
    return (directives, .union (← types.mapM typeReference))
  | enum values => do
    let directives ← directives.mapM (·.toTree lines)
    return (directives, .enum (← values.mapM (·.toTree lines)))
  | inputObject fields => do
    let directives ← directives.mapM (·.toTree lines)
    return (directives, .inputObject (← fields.mapM (·.toTree lines)))

def TypeDefinition.toTree (lines : Lines) (d : TypeDefinition) : Conversion GraphQLTree.TypeDefinition := do
  let name ← declared lines d.mark d.name
  let (directives, body) ← d.body.toTree lines d.directives
  return ⟨describe d.description, name, directives, body, d.mark.location lines⟩

def TypeExtension.toTree (lines : Lines) (d : TypeExtension) : Conversion GraphQLTree.TypeExtension := do
  let name ← declared lines d.mark d.name
  let (directives, body) ← d.body.toTree lines d.directives
  return ⟨name, directives, body, d.mark.location lines⟩

def DirectiveDefinition.toTree (lines : Lines) (d : DirectiveDefinition) :
    Conversion GraphQLTree.DirectiveDefinition := do
  let locations ← d.locations.mapM (reference ·.keyword)
  let name ← declared lines d.mark d.name
  return ⟨describe d.description, name, ← d.arguments.mapM (·.toTree lines), d.repeatable, locations,
    d.mark.location lines⟩

def SchemaDefinition.roots (d : SchemaDefinition) : List (OperationType × String) :=
  [(OperationType.query, d.query), (.mutation, d.mutation), (.subscription, d.subscription)].filterMap
    fun (o, type) => type.map (o, ·)

def SchemaDefinition.toTree (lines : Lines) (d : SchemaDefinition) :
    Conversion GraphQLTree.SchemaDefinition := do
  let operationTypes ← d.roots.mapM fun (o, type) => do return ⟨o, ← typeReference type, none⟩
  return ⟨none, ← d.directives.mapM (·.toTree lines), operationTypes, d.mark.location lines⟩

def SchemaItem.toTree (lines : Lines) : SchemaItem → Conversion Definition
  | schema d => do return .schema (← d.toTree lines)
  | type d => do return .type (← d.toTree lines)
  | extension d => do return .typeExtension (← d.toTree lines)
  | directive d => do return .directive (← d.toTree lines)

def schemaDocument (lines : Lines) (items : List SchemaItem) : Conversion Document := do
  return ⟨← items.mapM (·.toTree lines), none⟩

def executableDocument (lines : Lines) (definitions : List ExecutableDefinition) : Conversion Document := do
  return ⟨← definitions.mapM (·.toTree lines), none⟩

end GraphQLTree.Source
