import GraphQLTree.Navigation.Placed

namespace GraphQLTree

/-- The nodes of the way, the top first. -/
structure Navigator where
  nodes : List Placed

inductive KindPattern
  | any
  | only (k : Kind)
deriving DecidableEq, Repr

namespace KindPattern

def covers : KindPattern → Kind → Bool
  | any, _ => true
  | only k, k' => k == k'

def admits (p : KindPattern) (n : Node) : Bool :=
  p.covers n.kind

end KindPattern

structure Ancestors where
  pattern : KindPattern
  rest : List Placed

namespace Ancestors

def nextFrom (pattern : KindPattern) : List Placed → Option Placed × List Placed
  | [] => (none, [])
  | p :: ps => if pattern.admits p.node then (some p, ps) else nextFrom pattern ps

def next (a : Ancestors) : Option Placed × Ancestors :=
  let (found, rest) := nextFrom a.pattern a.rest
  (found, { a with rest })

def take : Nat → Ancestors → List Placed × Ancestors
  | 0, a => ([], a)
  | n + 1, a =>
    match a.next with
    | (none, a) => ([], a)
    | (some p, a) =>
      let (ps, a) := take n a
      (p :: ps, a)

def toList (a : Ancestors) : List Placed :=
  a.rest.filter (a.pattern.admits ·.node)

theorem next_cases (a : Ancestors) :
    (∃ after, a.next = (none, after) ∧ a.toList = []) ∨
      ∃ p after, a.next = (some p, after) ∧ a.toList = p :: after.toList := by
  rcases a with ⟨pattern, ps⟩
  induction ps with
  | nil => exact .inl ⟨_, rfl, rfl⟩
  | cons p ps ih =>
    cases hp : pattern.admits p.node with
    | true =>
      refine .inr ⟨p, ⟨pattern, ps⟩, ?_, ?_⟩
      · simp [next, nextFrom, hp]
      · simp [toList, hp]
    | false => simpa [next, nextFrom, toList, hp] using ih

theorem next_fst (a : Ancestors) : a.next.1 = a.toList.head? := by
  rcases a.next_cases with ⟨after, hn, ht⟩ | ⟨p, after, hn, ht⟩ <;> simp [hn, ht]

theorem take_fst (n : Nat) (a : Ancestors) : (take n a).1 = a.toList.take n := by
  induction n generalizing a with
  | zero => rfl
  | succ n ih =>
    rcases a.next_cases with ⟨after, hn, ht⟩ | ⟨p, after, hn, ht⟩
    · simp [take, hn, ht]
    · simp [take, hn, ht, ih]

end Ancestors

namespace Navigator

def empty : Navigator :=
  ⟨[]⟩

def push (nav : Navigator) (p : Placed) : Navigator :=
  ⟨p :: nav.nodes⟩

def pop (nav : Navigator) : Except TreeError (Placed × Navigator) :=
  match nav.nodes with
  | [] => .error (.emptyNavigator .pop)
  | p :: ps => .ok (p, ⟨ps⟩)

def parent? (nav : Navigator) : Option Placed :=
  nav.nodes.head?

def peek (nav : Navigator) : Except TreeError Placed :=
  match nav.parent? with
  | none => .error (.emptyNavigator .peek)
  | some p => .ok p

def size (nav : Navigator) : Nat :=
  nav.nodes.length

def isEmpty (nav : Navigator) : Bool :=
  nav.nodes.isEmpty

def peekAt (nav : Navigator) (index : Nat) : Except TreeError Placed :=
  match nav.nodes[index]? with
  | none => .error (.peekOutOfRange index nav.size)
  | some p => .ok p

def toList (nav : Navigator) : List Placed :=
  nav.nodes

def toListReversed (nav : Navigator) : List Placed :=
  nav.nodes.reverse

def clear (_ : Navigator) : Navigator :=
  empty

def ancestors (nav : Navigator) (pattern : KindPattern) : Ancestors :=
  ⟨pattern, nav.nodes⟩

def ancestor? (nav : Navigator) (pattern : KindPattern) : Option Placed :=
  (nav.ancestors pattern).next.1

theorem pop_push (nav : Navigator) (p : Placed) : (nav.push p).pop = .ok (p, nav) := rfl

end Navigator

end GraphQLTree
