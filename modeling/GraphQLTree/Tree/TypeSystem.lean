import GraphQLTree.Tree.OperationType
import GraphQLTree.Tree.TypeRef
import GraphQLTree.Tree.Value

namespace GraphQLTree

structure InputValueDefinition where
  description : Option StringValue
  name : Name
  type : TypeRef
  defaultValue : Option Value
  directives : List Directive
  location : Option Location

structure FieldDefinition where
  description : Option StringValue
  name : Name
  arguments : List InputValueDefinition
  type : TypeRef
  directives : List Directive
  location : Option Location

structure EnumValueDefinition where
  description : Option StringValue
  name : Name
  directives : List Directive
  location : Option Location

inductive TypeBody
  | scalar
  | object (interfaces : List NamedType) (fields : List FieldDefinition)
  | interface (interfaces : List NamedType) (fields : List FieldDefinition)
  | union (types : List NamedType)
  | enum (values : List EnumValueDefinition)
  | inputObject (fields : List InputValueDefinition)

structure TypeDefinition where
  description : Option StringValue
  name : Name
  directives : List Directive
  body : TypeBody
  location : Option Location

structure TypeExtension where
  name : Name
  directives : List Directive
  body : TypeBody
  location : Option Location

structure DirectiveDefinition where
  description : Option StringValue
  name : Name
  arguments : List InputValueDefinition
  repeatable : Bool
  locations : List Name
  location : Option Location

structure OperationTypeDefinition where
  operation : OperationType
  type : NamedType
  location : Option Location

structure SchemaDefinition where
  description : Option StringValue
  directives : List Directive
  operationTypes : List OperationTypeDefinition
  location : Option Location

structure SchemaExtension where
  directives : List Directive
  operationTypes : List OperationTypeDefinition
  location : Option Location

end GraphQLTree
