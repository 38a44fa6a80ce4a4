import GraphQLTree.Navigation.Script
import Mathlib.Tactic.Lemma

/-! What a walk can do. A course is a run of a forest seen from outside: the calls with their
answers, and the path that stays on the navigator when one of them stops the walk. -/

namespace GraphQLTree

lemma Placed.induction {motive : Placed → Prop}
    (step : ∀ p, (∀ c ∈ p.children, motive c) → motive p) (p : Placed) : motive p :=
  step p fun c _ => Placed.induction step c
termination_by sizeOf p.node
decreasing_by exact Placed.sizeOf_node_lt_of_mem_children ‹_›

def Placed.entered (p : Placed) : Flow → List Placed
  | .next => p.children
  | .skip | .stop => []

/-- A call that a walk can make, with the nodes above its node up to the root of the walk. -/
structure Visit where
  moment : Moment
  place : Placed
  above : List Placed

structure Call where
  moment : Moment
  place : Placed
  navigator : Navigator
  answer : Flow

def Navigator.extend (nav : Navigator) (path : List Placed) : Navigator :=
  ⟨path ++ nav.nodes⟩

lemma Navigator.push_extend (nav : Navigator) (p : Placed) (above : List Placed) :
    (nav.extend above).push p = nav.extend (p :: above) := rfl

namespace Visit

def path (t : Visit) : List Placed :=
  t.place :: t.above

def call (nav : Navigator) (t : Visit) (answer : Flow) : Call :=
  ⟨t.moment, t.place, nav.extend t.path, answer⟩

end Visit

namespace Visitor

variable {σ : Type}

def recorded (v : Visitor σ) : Visitor (σ × List Call) where
  enter p nav s :=
    let answer := v.enter p nav s.1
    (answer.1, answer.2, s.2 ++ [⟨.enter, p, nav, answer.1⟩])
  leave p nav s :=
    let answer := v.leave p nav s.1
    (answer.1, answer.2, s.2 ++ [⟨.leave, p, nav, answer.1⟩])

end Visitor

inductive Course : List Placed → List Placed → List (Visit × Flow) → Option (List Placed) → Prop
  | done {above} : Course [] above [] none
  | stopEnter {p ps above} :
      Course (p :: ps) above [(⟨.enter, p, above⟩, .stop)] (some (p :: above))
  | stopBelow {p ps above answer log left} : answer ≠ .stop →
      Course (p.entered answer) (p :: above) log (some left) →
      Course (p :: ps) above ((⟨.enter, p, above⟩, answer) :: log) (some left)
  | stopLeave {p ps above answer log} : answer ≠ .stop →
      Course (p.entered answer) (p :: above) log none →
      Course (p :: ps) above
        ((⟨.enter, p, above⟩, answer) :: (log ++ [(⟨.leave, p, above⟩, .stop)])) (some above)
  | pass {p ps above answer answer' log rest left} : answer ≠ .stop → answer' ≠ .stop →
      Course (p.entered answer) (p :: above) log none → Course ps above rest left →
      Course (p :: ps) above
        ((⟨.enter, p, above⟩, answer) :: (log ++ (⟨.leave, p, above⟩, answer') :: rest)) left

namespace Course

variable {p : Placed} {ps above path : List Placed} {log rest : List (Visit × Flow)}
  {left : Option (List Placed)}

lemma cons_stopped (h : Course [p] above log (some path)) : Course (p :: ps) above log (some path) := by
  cases h with
  | stopEnter => exact .stopEnter
  | stopBelow ha hc => exact .stopBelow ha hc
  | stopLeave ha hc => exact .stopLeave ha hc
  | pass _ _ _ hr => cases hr

lemma cons_passed (h : Course [p] above log none) (hs : Course ps above rest left) :
    Course (p :: ps) above (log ++ rest) left := by
  cases h with
  | pass ha ha' hc hr =>
    cases hr
    simpa using pass ha ha' hc hs

end Course

namespace Walk

variable {σ : Type}

def calls (v : Visitor σ) (p : Placed) (nav : Navigator) (s : σ) : List Call :=
  (down v.recorded p nav (s, [])).state.2

def outcome (nav : Navigator) (above : List Placed) (left : Option (List Placed)) (s : σ) : Walked σ :=
  match left with
  | none => ⟨.next, nav.extend above, s⟩
  | some path => ⟨.stop, nav.extend path, s⟩

section Steps

variable {v : Visitor σ} {p : Placed} {nav : Navigator} {above path : List Placed} {s s₁ s₂ s₃ : σ}
  {answer answer' : Flow}

lemma each_cons_stopped {step : Placed → Navigator → σ → Walked σ} {ps : List Placed}
    (h : step p (nav.extend above) s = outcome nav above (some path) s₁) :
    each step (p :: ps) (nav.extend above) s = outcome nav above (some path) s₁ := by
  simp only [each, h, outcome]

lemma each_cons_passed {step : Placed → Navigator → σ → Walked σ} {ps : List Placed}
    (h : step p (nav.extend above) s = outcome nav above none s₁) :
    each step (p :: ps) (nav.extend above) s = each step ps (nav.extend above) s₁ := by
  simp only [each, h, outcome]

lemma down_of_stop (he : v.enter p (nav.extend (p :: above)) s = (.stop, s₁)) :
    down v p (nav.extend above) s = outcome nav above (some (p :: above)) s₁ := by
  rw [down_eq, nav.push_extend, he]
  rfl

lemma down_of_enter (he : v.enter p (nav.extend (p :: above)) s = (answer, s₁)) (ha : answer ≠ .stop) :
    down v p (nav.extend above) s =
      match each (down v) (p.entered answer) (nav.extend (p :: above)) s₁ with
      | ⟨.stop, nav, s⟩ => ⟨.stop, nav, s⟩
      | ⟨_, nav, s⟩ => depart v p nav s := by
  rw [down_eq, nav.push_extend, he]
  cases answer with
  | stop => exact (ha rfl).elim
  | next | skip => rfl

lemma down_of_below (he : v.enter p (nav.extend (p :: above)) s = (answer, s₁)) (ha : answer ≠ .stop)
    (hc : each (down v) (p.entered answer) (nav.extend (p :: above)) s₁ =
      outcome nav (p :: above) (some path) s₂) :
    down v p (nav.extend above) s = outcome nav above (some path) s₂ := by
  rw [down_of_enter he ha, hc]
  rfl

lemma down_of_leave (he : v.enter p (nav.extend (p :: above)) s = (answer, s₁)) (ha : answer ≠ .stop)
    (hc : each (down v) (p.entered answer) (nav.extend (p :: above)) s₁ = outcome nav (p :: above) none s₂)
    (hl : v.leave p (nav.extend (p :: above)) s₂ = (answer', s₃)) :
    down v p (nav.extend above) s =
      outcome nav above (if answer' = .stop then some above else none) s₃ := by
  have hd : depart v p (nav.extend (p :: above)) s₂ =
      outcome nav above (if answer' = .stop then some above else none) s₃ := by
    rw [depart, hl]
    cases answer' <;> rfl
  rw [down_of_enter he ha, hc]
  exact hd

end Steps

-- The record grows at its end, so that the statement is made for every record before it.
def Follows (nav : Navigator) (ps above : List Placed) (plain : Walked σ)
    (recorded : List Call → Walked (σ × List Call)) : Prop :=
  ∃ log left s, Course ps above log left ∧ plain = outcome nav above left s ∧
    ∀ calls, recorded calls =
      outcome nav above left (s, calls ++ log.map fun e => e.1.call nav e.2)

variable (v : Visitor σ) (nav : Navigator)

lemma each_follows (ps above : List Placed) (s : σ)
    (h : ∀ p ∈ ps, ∀ s, Follows nav [p] above (down v p (nav.extend above) s)
      fun calls => down v.recorded p (nav.extend above) (s, calls)) :
    Follows nav ps above (each (down v) ps (nav.extend above) s)
      fun calls => each (down v.recorded) ps (nav.extend above) (s, calls) := by
  induction ps generalizing s with
  | nil => exact ⟨[], none, s, .done, rfl, fun calls => by simp [each, outcome]⟩
  | cons p ps ih =>
    obtain ⟨log, left, s₁, hc, hp, hr⟩ := h p List.mem_cons_self s
    cases left with
    | some path =>
      exact ⟨log, some path, s₁, hc.cons_stopped, each_cons_stopped hp,
        fun calls => each_cons_stopped (hr calls)⟩
    | none =>
      obtain ⟨rest, left, s₂, hcs, hps, hrs⟩ := ih s₁ fun q hq => h q (List.mem_cons_of_mem _ hq)
      refine ⟨log ++ rest, left, s₂, hc.cons_passed hcs, (each_cons_passed hp).trans hps, fun calls => ?_⟩
      rw [List.map_append, ← List.append_assoc]
      exact (each_cons_passed (hr calls)).trans (hrs _)

lemma down_follows (p : Placed) (above : List Placed) (s : σ) :
    Follows nav [p] above (down v p (nav.extend above) s)
      fun calls => down v.recorded p (nav.extend above) (s, calls) := by
  induction p using Placed.induction generalizing above s with
  | step p ih =>
    obtain ⟨answer, s₁, he⟩ : ∃ answer s₁, v.enter p (nav.extend (p :: above)) s = (answer, s₁) := ⟨_, _, rfl⟩
    have her (calls : List Call) : v.recorded.enter p (nav.extend (p :: above)) (s, calls) =
        (answer, s₁, calls ++ [(⟨.enter, p, above⟩ : Visit).call nav answer]) := by
      simp only [Visitor.recorded, he]
      rfl
    by_cases ha : answer = .stop
    · subst ha
      exact ⟨_, _, s₁, .stopEnter, down_of_stop he, fun calls => down_of_stop (her calls)⟩
    have hm : ∀ c ∈ p.entered answer, c ∈ p.children := by
      cases answer <;> simp [Placed.entered]
    obtain ⟨log, left, s₂, hc, hp, hr⟩ := each_follows v nav (p.entered answer) (p :: above) s₁
      fun c hc s => ih c (hm c hc) (p :: above) s
    cases left with
    | some path =>
      refine ⟨_, some path, s₂, .stopBelow ha hc, down_of_below he ha hp, fun calls => ?_⟩
      rw [List.map_cons, List.append_cons]
      exact down_of_below (her calls) ha (hr _)
    | none =>
      obtain ⟨answer', s₃, hl⟩ : ∃ answer' s₃, v.leave p (nav.extend (p :: above)) s₂ = (answer', s₃) :=
        ⟨_, _, rfl⟩
      have hlr (calls : List Call) : v.recorded.leave p (nav.extend (p :: above)) (s₂, calls) =
          (answer', s₃, calls ++ [(⟨.leave, p, above⟩ : Visit).call nav answer']) := by
        simp only [Visitor.recorded, hl]
        rfl
      have hd := down_of_leave he ha hp hl
      have hdr (calls : List Call) := down_of_leave (her calls) ha (hr _) (hlr _)
      by_cases ha' : answer' = .stop
      · subst ha'
        refine ⟨_, some above, s₃, .stopLeave ha hc, hd, fun calls => (hdr calls).trans ?_⟩
        simp [outcome]
      · rw [if_neg ha'] at hd
        refine ⟨_, none, s₃, .pass ha ha' hc .done, hd, fun calls => (hdr calls).trans ?_⟩
        simp [outcome, ha']

lemma exists_course (root : Placed) (s : σ) :
    ∃ log left s', Course [root] [] log left ∧ calls v root nav s = log.map (fun e => e.1.call nav e.2) ∧
      down v root nav s = outcome nav [] left s' ∧
      down v.recorded root nav (s, []) = outcome nav [] left (s', calls v root nav s) := by
  obtain ⟨log, left, s', hc, hp, hr⟩ := down_follows v nav root [] s
  have hr : down v.recorded root nav (s, []) =
      outcome nav [] left (s', log.map fun e => e.1.call nav e.2) := hr []
  have hcalls : calls v root nav s = log.map (fun e => e.1.call nav e.2) := by
    rw [calls, hr]
    cases left <;> rfl
  exact ⟨log, left, s', hc, hcalls, hp, hcalls ▸ hr⟩

end Walk

end GraphQLTree
