import GraphQLTree.Tree.OperationType
import GraphQLTree.Tree.TypeRef
import GraphQLTree.Tree.Value

namespace GraphQLTree

structure VariableDefinition where
  var : Variable
  type : TypeRef
  defaultValue : Option Value
  directives : List Directive
  location : Option Location

structure FragmentSpread where
  name : Name
  directives : List Directive
  location : Option Location

mutual

inductive Selection
  | field (field : Field)
  | spread (spread : FragmentSpread)
  | inline (fragment : InlineFragment)

structure Field where
  aliasName : Option Name
  name : Name
  arguments : List Argument
  directives : List Directive
  selectionSet : Option SelectionSet
  location : Option Location

structure InlineFragment where
  typeCondition : Option NamedType
  directives : List Directive
  selectionSet : SelectionSet
  location : Option Location

structure SelectionSet where
  selections : List Selection
  location : Option Location

end

structure OperationDefinition where
  operation : OperationType
  name : Option Name
  variableDefinitions : List VariableDefinition
  directives : List Directive
  selectionSet : SelectionSet
  location : Option Location

structure FragmentDefinition where
  name : Name
  variableDefinitions : List VariableDefinition
  typeCondition : NamedType
  directives : List Directive
  selectionSet : SelectionSet
  location : Option Location

end GraphQLTree
