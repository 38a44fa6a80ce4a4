import GraphQLTree.Text.Position
import GraphQLTree.Tree.Error

namespace GraphQLTree

structure Name where
  value : String
  location : Option Location

namespace Name

def checked (n : Name) : Except TreeError Name :=
  if n.value = "" then .error .emptyName else .ok n

def new (value : String) : Except TreeError Name :=
  checked ⟨value, none⟩

def withValue (n : Name) (value : String) : Except TreeError Name :=
  checked { n with value }

theorem checked_eq_ok_iff {n m : Name} : n.checked = .ok m ↔ n = m ∧ n.value ≠ "" := by
  unfold checked
  split <;> simp_all

theorem checked_eq_error_iff {n : Name} {e : TreeError} :
    n.checked = .error e ↔ n.value = "" ∧ .emptyName = e := by
  unfold checked
  split <;> simp_all

end Name

end GraphQLTree
