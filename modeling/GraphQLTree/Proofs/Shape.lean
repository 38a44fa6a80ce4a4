import GraphQLTree.Tree.Children
import Mathlib.Data.List.Forall2
import Mathlib.Tactic.Lemma

namespace GraphQLTree

def Node.at? (n : Node) : List Nat → Option Node
  | [] => some n
  | i :: way => n.children[i]?.bind (·.at? way)

lemma Node.at?_cons (n : Node) (i : Nat) (way : List Nat) :
    n.at? (i :: way) = n.children[i]?.bind (·.at? way) := rfl

/-- Two trees that have a node at the same places, with related nodes there. -/
def Matches (R : Node → Node → Prop) (n m : Node) : Prop :=
  ∀ way, Option.Rel R (n.at? way) (m.at? way)

lemma Node.forall_at?_iff {p : Node → Prop} {n : Node} :
    (∀ way m, n.at? way = some m → p m) ↔ p n ∧ ∀ c ∈ n.children, ∀ way m, c.at? way = some m → p m := by
  constructor
  · intro h
    refine ⟨h [] n rfl, fun c hc way m hm => ?_⟩
    obtain ⟨i, hi⟩ := List.mem_iff_getElem?.mp hc
    exact h (i :: way) m (by rw [at?_cons, hi]; exact hm)
  · rintro ⟨hn, hc⟩ (_ | ⟨i, way⟩) m hm
    · exact Option.some.inj hm ▸ hn
    · obtain ⟨c, hi, hm⟩ := Option.bind_eq_some_iff.mp hm
      exact hc c (List.mem_of_getElem? hi) way m hm

variable {R : Node → Node → Prop}

lemma Matches.of_children {n m : Node} (hr : R n m) (hc : List.Forall₂ (Matches R) n.children m.children) :
    Matches R n m := by
  intro way
  cases way with
  | nil => exact .some hr
  | cons i way =>
    simp only [Node.at?_cons]
    by_cases hi : i < n.children.length
    · have hi' : i < m.children.length := hc.length_eq ▸ hi
      rw [List.getElem?_eq_getElem hi, List.getElem?_eq_getElem hi']
      exact hc.get hi hi' way
    · have hi' : ¬ i < m.children.length := hc.length_eq ▸ hi
      rw [List.getElem?_eq_none (Nat.le_of_not_lt hi), List.getElem?_eq_none (Nat.le_of_not_lt hi')]
      exact .none

namespace Slot

def Matches (R : Node → Node → Prop) (s t : Slot) : Prop :=
  List.Forall₂ (GraphQLTree.Matches R) s.content.nodes t.content.nodes

section Parts

variable {α : Type} [Part α] {a b : α} {as bs : List α} {o p : Option α} {field field' : FieldName}

lemma Matches.one {put put' : α → Node} (h : GraphQLTree.Matches R (Part.toNode a) (Part.toNode b)) :
    Matches R (one field a put) (one field' b put') :=
  .cons h .nil

lemma Matches.checkedOne {put put' : α → Except TreeError Node}
    (h : GraphQLTree.Matches R (Part.toNode a) (Part.toNode b)) :
    Matches R (checkedOne field a put) (checkedOne field' b put') :=
  .cons h .nil

lemma Matches.optional {β : Type} {f g : β → α} {o : Option β} {put put' : Option α → Node}
    (h : ∀ b ∈ o, GraphQLTree.Matches R (Part.toNode (f b)) (Part.toNode (g b))) :
    Matches R (optional field (o.map f) put) (optional field' (o.map g) put') := by
  cases o with
  | none => exact .nil
  | some b => exact .cons (h b rfl) .nil

lemma Matches.many {β : Type} {f g : β → α} {bs : List β} {put put' : List α → Node}
    (h : ∀ b ∈ bs, GraphQLTree.Matches R (Part.toNode (f b)) (Part.toNode (g b))) :
    Matches R (many field (bs.map f) put) (many field' (bs.map g) put') := by
  change List.Forall₂ _ ((bs.map f).map Part.toNode) ((bs.map g).map Part.toNode)
  simpa only [List.forall₂_map_left_iff, List.forall₂_map_right_iff, List.forall₂_same] using h

end Parts

lemma Matches.empty {s t : Slot} (hs : s.content.nodes = []) (ht : t.content.nodes = []) : Matches R s t := by
  rw [Matches, hs, ht]
  exact .nil

end Slot

lemma Matches.of_slots {n m : Node} (hr : R n m) (hs : List.Forall₂ (Slot.Matches R) n.slots m.slots) :
    Matches R n m :=
  .of_children hr (List.rel_flatMap hs fun _ _ h => h)

end GraphQLTree
