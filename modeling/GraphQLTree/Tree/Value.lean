import GraphQLTree.Tree.Name
import GraphQLTree.Number.Binary64

namespace GraphQLTree

structure Variable where
  name : Name
  location : Option Location

structure StringValue where
  value : String
  block : Bool
  location : Option Location

mutual

inductive Value
  | var (v : Variable)
  | int (value : Int64) (location : Option Location)
  | float (value : Binary64) (location : Option Location)
  | string (s : StringValue)
  | boolean (value : Bool) (location : Option Location)
  | null (location : Option Location)
  | enum (value : String) (location : Option Location)
  | list (items : List Value) (location : Option Location)
  | object (fields : List ObjectField) (location : Option Location)

structure ObjectField where
  name : Name
  value : Value
  location : Option Location

end

structure Argument where
  name : Name
  value : Value
  location : Option Location

structure Directive where
  name : Name
  arguments : List Argument
  location : Option Location

end GraphQLTree
