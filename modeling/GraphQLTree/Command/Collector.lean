import GraphQLTree.Navigation.Coordinate
import GraphQLTree.Navigation.Walk
import GraphQLTree.Tree.Document

namespace GraphQLTree.Command

def isSchemaElement (k : Kind) : Bool :=
  k.isTypeDefinition || k.isTypeExtension ||
    match k with
    | .fieldDefinition | .inputValueDefinition | .enumValueDefinition | .directiveDefinition => true
    | _ => false

structure Collected where
  coordinate : SchemaCoordinate
  depth : Nat

structure Collector where
  -- the last one first
  found : List Collected
  fault : Option TreeError

namespace Collector

def enter (p : Placed) (nav : Navigator) (c : Collector) : Flow × Collector :=
  if isSchemaElement p.node.kind then
    match nav.schemaCoordinate with
    | .ok coordinate => (.next, { c with found := ⟨coordinate, nav.size⟩ :: c.found })
    | .error e => (.stop, { c with fault := some e })
  else (.next, c)

def visitor : Visitor Collector :=
  ⟨enter, fun _ _ c => (.next, c)⟩

def walk (d : Document) : Walked Collector :=
  Walk.down visitor (Placed.root 0 (.document d)) .empty ⟨[], none⟩

def collect (d : Document) : Except TreeError (List Collected) :=
  let c := (walk d).state
  match c.fault with
  | some e => .error e
  | none => .ok c.found.reverse

end Collector

end GraphQLTree.Command
