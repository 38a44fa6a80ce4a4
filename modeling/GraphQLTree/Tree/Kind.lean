namespace GraphQLTree

inductive Kind
  | name
  | document
  | operationDefinition
  | variableDefinition
  | variable
  | selectionSet
  | field
  | argument
  | fragmentSpread
  | inlineFragment
  | fragmentDefinition
  | intValue
  | floatValue
  | stringValue
  | booleanValue
  | nullValue
  | enumValue
  | listValue
  | objectValue
  | objectField
  | directive
  | namedType
  | listType
  | nonNullType
  | schemaDefinition
  | operationTypeDefinition
  | scalarTypeDefinition
  | objectTypeDefinition
  | fieldDefinition
  | inputValueDefinition
  | interfaceTypeDefinition
  | unionTypeDefinition
  | enumTypeDefinition
  | enumValueDefinition
  | inputObjectTypeDefinition
  | directiveDefinition
  | schemaExtension
  | scalarTypeExtension
  | objectTypeExtension
  | interfaceTypeExtension
  | unionTypeExtension
  | enumTypeExtension
  | inputObjectTypeExtension
  | schemaCoordinate
deriving DecidableEq, Repr

namespace Kind

def all : List Kind :=
  [.name, .document, .operationDefinition, .variableDefinition, .variable, .selectionSet, .field,
    .argument, .fragmentSpread, .inlineFragment, .fragmentDefinition, .intValue, .floatValue,
    .stringValue, .booleanValue, .nullValue, .enumValue, .listValue, .objectValue, .objectField,
    .directive, .namedType, .listType, .nonNullType, .schemaDefinition, .operationTypeDefinition,
    .scalarTypeDefinition, .objectTypeDefinition, .fieldDefinition, .inputValueDefinition,
    .interfaceTypeDefinition, .unionTypeDefinition, .enumTypeDefinition, .enumValueDefinition,
    .inputObjectTypeDefinition, .directiveDefinition, .schemaExtension, .scalarTypeExtension,
    .objectTypeExtension, .interfaceTypeExtension, .unionTypeExtension, .enumTypeExtension,
    .inputObjectTypeExtension, .schemaCoordinate]

def label : Kind → String
  | .name => "Name"
  | .document => "Document"
  | .operationDefinition => "OperationDefinition"
  | .variableDefinition => "VariableDefinition"
  | .variable => "Variable"
  | .selectionSet => "SelectionSet"
  | .field => "Field"
  | .argument => "Argument"
  | .fragmentSpread => "FragmentSpread"
  | .inlineFragment => "InlineFragment"
  | .fragmentDefinition => "FragmentDefinition"
  | .intValue => "IntValue"
  | .floatValue => "FloatValue"
  | .stringValue => "StringValue"
  | .booleanValue => "BooleanValue"
  | .nullValue => "NullValue"
  | .enumValue => "EnumValue"
  | .listValue => "ListValue"
  | .objectValue => "ObjectValue"
  | .objectField => "ObjectField"
  | .directive => "Directive"
  | .namedType => "NamedType"
  | .listType => "ListType"
  | .nonNullType => "NonNullType"
  | .schemaDefinition => "SchemaDefinition"
  | .operationTypeDefinition => "OperationTypeDefinition"
  | .scalarTypeDefinition => "ScalarTypeDefinition"
  | .objectTypeDefinition => "ObjectTypeDefinition"
  | .fieldDefinition => "FieldDefinition"
  | .inputValueDefinition => "InputValueDefinition"
  | .interfaceTypeDefinition => "InterfaceTypeDefinition"
  | .unionTypeDefinition => "UnionTypeDefinition"
  | .enumTypeDefinition => "EnumTypeDefinition"
  | .enumValueDefinition => "EnumValueDefinition"
  | .inputObjectTypeDefinition => "InputObjectTypeDefinition"
  | .directiveDefinition => "DirectiveDefinition"
  | .schemaExtension => "SchemaExtension"
  | .scalarTypeExtension => "ScalarTypeExtension"
  | .objectTypeExtension => "ObjectTypeExtension"
  | .interfaceTypeExtension => "InterfaceTypeExtension"
  | .unionTypeExtension => "UnionTypeExtension"
  | .enumTypeExtension => "EnumTypeExtension"
  | .inputObjectTypeExtension => "InputObjectTypeExtension"
  | .schemaCoordinate => "SchemaCoordinate"

def ofLabel? (s : String) : Option Kind :=
  all.find? (·.label == s)

theorem mem_all (k : Kind) : k ∈ all := by
  cases k <;> decide

def isTypeDefinition : Kind → Bool
  | .scalarTypeDefinition | .objectTypeDefinition | .interfaceTypeDefinition | .unionTypeDefinition
  | .enumTypeDefinition | .inputObjectTypeDefinition => true
  | _ => false

def isTypeExtension : Kind → Bool
  | .scalarTypeExtension | .objectTypeExtension | .interfaceTypeExtension | .unionTypeExtension
  | .enumTypeExtension | .inputObjectTypeExtension => true
  | _ => false

def isValue : Kind → Bool
  | .variable | .intValue | .floatValue | .stringValue | .booleanValue | .nullValue | .enumValue
  | .listValue | .objectValue => true
  | _ => false

def isTypeReference : Kind → Bool
  | .namedType | .listType | .nonNullType => true
  | _ => false

end Kind

end GraphQLTree
