import GraphQLTree.Tree.Slot

namespace GraphQLTree

structure Printer where
  render : Node → Bool → String

namespace Node

def toText (n : Node) (printer : Printer) (indented : Bool) : String :=
  printer.render n indented

def caption? : Node → Option String
  | name n => some n.value
  | n => n.declaredName?.map (·.value)

def brief (n : Node) : String :=
  match n.caption? with
  | some text => n.kind.label ++ "(" ++ text ++ ")"
  | none => n.kind.label

def display? : Node → Option String
  | name n => some n.value
  | schemaCoordinate c => some c.render
  | _ => none

end Node

def Printer.brief : Printer :=
  ⟨fun n indented => if indented then "  " ++ n.brief else n.brief⟩

end GraphQLTree
