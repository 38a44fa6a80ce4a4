import GraphQLTree.Tree.Children

/-!
Nodes at their places. Two nodes of a forest can be equal and still be different ones; a place is
given by the way that leads to it, and tells them apart.
-/
namespace GraphQLTree

/-- A node, and the child numbers that lead to it, the last one first and the number of its tree
at the end. -/
structure Placed where
  address : List Nat
  node : Node

namespace Placed

def root (tree : Nat) (n : Node) : Placed :=
  ⟨[tree], n⟩

def same (p q : Placed) : Bool :=
  p.address == q.address

def children (p : Placed) : List Placed :=
  p.node.children.zipIdx.map fun (c, i) => ⟨i :: p.address, c⟩

def child? (p : Placed) (i : Nat) : Option Placed :=
  p.children[i]?

def descend? (p : Placed) : List Nat → Option Placed
  | [] => some p
  | i :: way => (p.child? i).bind (·.descend? way)

theorem map_node_children (p : Placed) : p.children.map (·.node) = p.node.children := by
  simp only [children, List.map_map]
  exact List.zipIdx_map_fst 0 p.node.children

theorem sizeOf_node_lt_of_mem_children {p c : Placed} (h : c ∈ p.children) :
    sizeOf c.node < sizeOf p.node := by
  apply Node.sizeOf_lt_of_mem_children
  rw [← map_node_children]
  exact List.mem_map_of_mem h

end Placed

end GraphQLTree
