import GraphQLTree.Tree.Document
import GraphQLTree.Tree.SchemaCoordinate

namespace GraphQLTree

def Variable.new (name : Name) : Variable :=
  ⟨name, none⟩

def StringValue.new (value : String) : StringValue :=
  ⟨value, false, none⟩

namespace Value

def newInt (value : Int64) : Value :=
  .int value none

def newFloat (value : Binary64) : Value :=
  .float value none

def newBoolean (value : Bool) : Value :=
  .boolean value none

def newNull : Value :=
  .null none

def newEnum (value : String) : Value :=
  .enum value none

def newList (items : List Value) : Value :=
  .list items none

def newObject (fields : List ObjectField) : Value :=
  .object fields none

end Value

def ObjectField.new (name : Name) (value : Value) : ObjectField :=
  ⟨name, value, none⟩

def Argument.new (name : Name) (value : Value) : Argument :=
  ⟨name, value, none⟩

def Directive.new (name : Name) : Directive :=
  ⟨name, [], none⟩

def NamedType.new (name : Name) : NamedType :=
  ⟨name, none⟩

def TypeRef.newList (element : TypeRef) : TypeRef :=
  .list element none

def VariableDefinition.new (var : Variable) (type : TypeRef) : VariableDefinition :=
  ⟨var, type, none, [], none⟩

def FragmentSpread.new (name : Name) : FragmentSpread :=
  ⟨name, [], none⟩

def Field.new (name : Name) : Field :=
  ⟨none, name, [], [], none, none⟩

def InlineFragment.new (selectionSet : SelectionSet) : InlineFragment :=
  ⟨none, [], selectionSet, none⟩

def SelectionSet.new (selections : List Selection) : SelectionSet :=
  ⟨selections, none⟩

def OperationDefinition.new (operation : OperationType) (selectionSet : SelectionSet) : OperationDefinition :=
  ⟨operation, none, [], [], selectionSet, none⟩

def FragmentDefinition.new (name : Name) (typeCondition : NamedType) (selectionSet : SelectionSet) :
    FragmentDefinition :=
  ⟨name, [], typeCondition, [], selectionSet, none⟩

def InputValueDefinition.new (name : Name) (type : TypeRef) : InputValueDefinition :=
  ⟨none, name, type, none, [], none⟩

def FieldDefinition.new (name : Name) (type : TypeRef) : FieldDefinition :=
  ⟨none, name, [], type, [], none⟩

def EnumValueDefinition.new (name : Name) : EnumValueDefinition :=
  ⟨none, name, [], none⟩

inductive TypeSort
  | scalar
  | object
  | interface
  | union
  | enum
  | inputObject
deriving DecidableEq, Repr

def TypeSort.body : TypeSort → TypeBody
  | scalar => .scalar
  | object => .object [] []
  | interface => .interface [] []
  | union => .union []
  | enum => .enum []
  | inputObject => .inputObject []

def TypeDefinition.new (sort : TypeSort) (name : Name) : TypeDefinition :=
  ⟨none, name, [], sort.body, none⟩

def TypeExtension.new (sort : TypeSort) (name : Name) : TypeExtension :=
  ⟨name, [], sort.body, none⟩

def DirectiveDefinition.new (name : Name) (locations : List Name) : DirectiveDefinition :=
  ⟨none, name, [], false, locations, none⟩

def OperationTypeDefinition.new (operation : OperationType) (type : NamedType) : OperationTypeDefinition :=
  ⟨operation, type, none⟩

def SchemaDefinition.new (operationTypes : List OperationTypeDefinition) : SchemaDefinition :=
  ⟨none, [], operationTypes, none⟩

def SchemaExtension.new : SchemaExtension :=
  ⟨[], [], none⟩

def Document.new (definitions : List Definition) : Document :=
  ⟨definitions, none⟩

end GraphQLTree
