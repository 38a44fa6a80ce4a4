import GraphQLTree.Tree.Executable
import GraphQLTree.Tree.TypeSystem

namespace GraphQLTree

inductive Definition
  | operation (operation : OperationDefinition)
  | fragment (fragment : FragmentDefinition)
  | schema (schema : SchemaDefinition)
  | type (type : TypeDefinition)
  | directive (directive : DirectiveDefinition)
  | schemaExtension (extension : SchemaExtension)
  | typeExtension (extension : TypeExtension)

structure Document where
  definitions : List Definition
  location : Option Location

def Definition.isExecutable : Definition → Bool
  | operation _ | fragment _ => true
  | _ => false

end GraphQLTree
