import GraphQLTree.Tree.Document
import GraphQLTree.Tree.SchemaCoordinate

/-!
Equality of trees: the same kinds and the same parts at every depth. Locations are never compared,
and numbers are compared as numbers.
-/
namespace GraphQLTree

instance : BEq Name := ⟨fun a b => a.value == b.value⟩

instance : BEq NamedType := ⟨fun a b => a.name == b.name⟩

instance : BEq Variable := ⟨fun a b => a.name == b.name⟩

instance : BEq StringValue := ⟨fun a b => a.value == b.value && a.block == b.block⟩

def TypeRef.beq : TypeRef → TypeRef → Bool
  | .named a, .named b => a == b
  | .list a _, .list b _ => a.beq b
  | .nonNull a _, .nonNull b _ => a.beq b
  | _, _ => false

instance : BEq TypeRef := ⟨TypeRef.beq⟩

mutual

def Value.beq : Value → Value → Bool
  | .var a, .var b => a == b
  | .int a _, .int b _ => a == b
  | .float a _, .float b _ => a == b
  | .string a, .string b => a == b
  | .boolean a _, .boolean b _ => a == b
  | .null _, .null _ => true
  | .enum a _, .enum b _ => a == b
  | .list as _, .list bs _ => Value.beqList as bs
  | .object as _, .object bs _ => ObjectField.beqList as bs
  | _, _ => false

def Value.beqList : List Value → List Value → Bool
  | [], [] => true
  | a :: as, b :: bs => a.beq b && Value.beqList as bs
  | _, _ => false

def ObjectField.beq : ObjectField → ObjectField → Bool
  | ⟨name, value, _⟩, ⟨name', value', _⟩ => name == name' && value.beq value'

def ObjectField.beqList : List ObjectField → List ObjectField → Bool
  | [], [] => true
  | a :: as, b :: bs => a.beq b && ObjectField.beqList as bs
  | _, _ => false

end

instance : BEq Value := ⟨Value.beq⟩

instance : BEq ObjectField := ⟨ObjectField.beq⟩

instance : BEq Argument := ⟨fun a b => a.name == b.name && a.value == b.value⟩

instance : BEq Directive := ⟨fun a b => a.name == b.name && a.arguments == b.arguments⟩

instance : BEq VariableDefinition :=
  ⟨fun a b => a.var == b.var && a.type == b.type && a.defaultValue == b.defaultValue &&
    a.directives == b.directives⟩

instance : BEq FragmentSpread := ⟨fun a b => a.name == b.name && a.directives == b.directives⟩

mutual

def Selection.beq : Selection → Selection → Bool
  | .field a, .field b => a.beq b
  | .spread a, .spread b => a == b
  | .inline a, .inline b => a.beq b
  | _, _ => false

def Selection.beqList : List Selection → List Selection → Bool
  | [], [] => true
  | a :: as, b :: bs => a.beq b && Selection.beqList as bs
  | _, _ => false

def Field.beq : Field → Field → Bool
  | ⟨aliasName, name, arguments, directives, set, _⟩, ⟨aliasName', name', arguments', directives', set', _⟩ =>
    aliasName == aliasName' && name == name' && arguments == arguments' && directives == directives' &&
      SelectionSet.beqOption set set'

def InlineFragment.beq : InlineFragment → InlineFragment → Bool
  | ⟨condition, directives, set, _⟩, ⟨condition', directives', set', _⟩ =>
    condition == condition' && directives == directives' && set.beq set'

def SelectionSet.beq : SelectionSet → SelectionSet → Bool
  | ⟨selections, _⟩, ⟨selections', _⟩ => Selection.beqList selections selections'

def SelectionSet.beqOption : Option SelectionSet → Option SelectionSet → Bool
  | none, none => true
  | some a, some b => a.beq b
  | _, _ => false

end

instance : BEq Selection := ⟨Selection.beq⟩

instance : BEq Field := ⟨Field.beq⟩

instance : BEq InlineFragment := ⟨InlineFragment.beq⟩

instance : BEq SelectionSet := ⟨SelectionSet.beq⟩

instance : BEq OperationDefinition :=
  ⟨fun a b => a.operation == b.operation && a.name == b.name &&
    a.variableDefinitions == b.variableDefinitions && a.directives == b.directives &&
    a.selectionSet == b.selectionSet⟩

instance : BEq FragmentDefinition :=
  ⟨fun a b => a.name == b.name && a.variableDefinitions == b.variableDefinitions &&
    a.typeCondition == b.typeCondition && a.directives == b.directives &&
    a.selectionSet == b.selectionSet⟩

instance : BEq InputValueDefinition :=
  ⟨fun a b => a.description == b.description && a.name == b.name && a.type == b.type &&
    a.defaultValue == b.defaultValue && a.directives == b.directives⟩

instance : BEq FieldDefinition :=
  ⟨fun a b => a.description == b.description && a.name == b.name && a.arguments == b.arguments &&
    a.type == b.type && a.directives == b.directives⟩

instance : BEq EnumValueDefinition :=
  ⟨fun a b => a.description == b.description && a.name == b.name && a.directives == b.directives⟩

def TypeBody.beq : TypeBody → TypeBody → Bool
  | .scalar, .scalar => true
  | .object interfaces fields, .object interfaces' fields' => interfaces == interfaces' && fields == fields'
  | .interface interfaces fields, .interface interfaces' fields' =>
    interfaces == interfaces' && fields == fields'
  | .union types, .union types' => types == types'
  | .enum values, .enum values' => values == values'
  | .inputObject fields, .inputObject fields' => fields == fields'
  | _, _ => false

instance : BEq TypeBody := ⟨TypeBody.beq⟩

instance : BEq TypeDefinition :=
  ⟨fun a b => a.description == b.description && a.name == b.name && a.directives == b.directives &&
    a.body == b.body⟩

instance : BEq TypeExtension :=
  ⟨fun a b => a.name == b.name && a.directives == b.directives && a.body == b.body⟩

instance : BEq DirectiveDefinition :=
  ⟨fun a b => a.description == b.description && a.name == b.name && a.arguments == b.arguments &&
    a.repeatable == b.repeatable && a.locations == b.locations⟩

instance : BEq OperationTypeDefinition := ⟨fun a b => a.operation == b.operation && a.type == b.type⟩

instance : BEq SchemaDefinition :=
  ⟨fun a b => a.description == b.description && a.directives == b.directives &&
    a.operationTypes == b.operationTypes⟩

instance : BEq SchemaExtension :=
  ⟨fun a b => a.directives == b.directives && a.operationTypes == b.operationTypes⟩

def Definition.beq : Definition → Definition → Bool
  | .operation a, .operation b => a == b
  | .fragment a, .fragment b => a == b
  | .schema a, .schema b => a == b
  | .type a, .type b => a == b
  | .directive a, .directive b => a == b
  | .schemaExtension a, .schemaExtension b => a == b
  | .typeExtension a, .typeExtension b => a == b
  | _, _ => false

instance : BEq Definition := ⟨Definition.beq⟩

instance : BEq Document := ⟨fun a b => a.definitions == b.definitions⟩

instance : BEq SchemaCoordinate :=
  ⟨fun a b => a.ofDirective == b.ofDirective && a.name == b.name && a.member == b.member &&
    a.argument == b.argument⟩

end GraphQLTree
