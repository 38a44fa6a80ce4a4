import GraphQLTree.Navigation.Navigator

/-!
Walks: a visitor is led through a tree, each node before and after its children, while a navigator
holds the way from the root.
-/
namespace GraphQLTree

inductive Flow
  | next
  | skip
  | stop
deriving DecidableEq, Repr

structure Visitor (σ : Type) where
  enter : Placed → Navigator → σ → Flow × σ
  leave : Placed → Navigator → σ → Flow × σ

def Visitor.silent : Visitor σ :=
  ⟨fun _ _ s => (.next, s), fun _ _ s => (.next, s)⟩

structure Walked (σ : Type) where
  flow : Flow
  navigator : Navigator
  state : σ

namespace Walk

variable {σ : Type} {α : Type}

def each (step : α → Navigator → σ → Walked σ) : List α → Navigator → σ → Walked σ
  | [], nav, s => ⟨.next, nav, s⟩
  | a :: as, nav, s =>
    match step a nav s with
    | ⟨.stop, nav, s⟩ => ⟨.stop, nav, s⟩
    | ⟨_, nav, s⟩ => each step as nav s

theorem each_map {β : Type} (step : β → Navigator → σ → Walked σ) (f : α → β) (as : List α)
    (nav : Navigator) (s : σ) :
    each step (as.map f) nav s = each (fun a => step (f a)) as nav s := by
  induction as generalizing nav s with
  | nil => rfl
  | cons a as ih =>
    simp only [List.map_cons, each]
    split
    · rfl
    · exact ih ..

theorem each_attach (step : α → Navigator → σ → Walked σ) (as : List α) (nav : Navigator) (s : σ) :
    each (fun a => step a.1) as.attach nav s = each step as nav s := by
  rw [← each_map step Subtype.val, List.attach_map_subtype_val]

/-- The end of a visit. The node comes off the navigator whatever the visitor answers, and there
is nothing left to skip. -/
def depart (v : Visitor σ) (p : Placed) (nav : Navigator) (s : σ) : Walked σ :=
  let (flow, s) := v.leave p nav s
  let below := match nav.pop with
    | .ok (_, below) => below
    | .error _ => nav
  match flow with
  | .stop => ⟨.stop, below, s⟩
  | .next | .skip => ⟨.next, below, s⟩

/-- The walk from a node down, on top of what the navigator holds. When `enter` stops it, the way
to that node stays on the navigator. -/
def down (v : Visitor σ) (p : Placed) (nav : Navigator) (s : σ) : Walked σ :=
  let nav := nav.push p
  match v.enter p nav s with
  | (.stop, s) => ⟨.stop, nav, s⟩
  | (.skip, s) => depart v p nav s
  | (.next, s) =>
    match each (fun c nav s => Walk.down v c.1 nav s) p.children.attach nav s with
    | ⟨.stop, nav, s⟩ => ⟨.stop, nav, s⟩
    | ⟨_, nav, s⟩ => depart v p nav s
termination_by sizeOf p.node
decreasing_by exact Placed.sizeOf_node_lt_of_mem_children c.2

theorem down_eq (v : Visitor σ) (p : Placed) (nav : Navigator) (s : σ) :
    down v p nav s =
      match v.enter p (nav.push p) s with
      | (.stop, s) => ⟨.stop, nav.push p, s⟩
      | (.skip, s) => depart v p (nav.push p) s
      | (.next, s) =>
        match each (down v) p.children (nav.push p) s with
        | ⟨.stop, nav, s⟩ => ⟨.stop, nav, s⟩
        | ⟨_, nav, s⟩ => depart v p nav s := by
  rw [down]
  simp only [each_attach (down v)]

end Walk

end GraphQLTree
