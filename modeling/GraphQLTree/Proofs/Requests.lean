import GraphQLTree.Proofs.Elements

/-! Runs of requests to a navigator. What it holds after them is read off the pushes among them: a
node stays as long as the requests after it hold no clear, and no start of them more pops than
pushes. -/

namespace GraphQLTree

inductive Request
  | push (p : Placed)
  | pop
  | peek
  | peekAt (index : Nat)
  | parent
  | iter
  | iterReversed
  | ancestor (pattern : KindPattern)
  | ancestors (pattern : KindPattern) (count : Nat)
  | schemaCoordinate
  | size
  | isEmpty
  | clear

inductive Answer
  | done
  | absent
  | node (p : Placed)
  | nodes (ps : List Placed)
  | coordinate (c : SchemaCoordinate)
  | count (n : Nat)
  | flag (b : Bool)
  | refused (e : TreeError)

namespace Answer

def ofExcept {α : Type} (answer : α → Answer) : Except TreeError α → Answer
  | .ok a => answer a
  | .error e => refused e

def ofOption : Option Placed → Answer
  | some p => node p
  | none => absent

end Answer

namespace Navigator

def respond (nav : Navigator) : Request → Answer × Navigator
  | .push p => (.done, nav.push p)
  | .pop =>
    match nav.pop with
    | .ok (p, rest) => (.node p, rest)
    | .error e => (.refused e, nav)
  | .peek => (.ofExcept .node nav.peek, nav)
  | .peekAt index => (.ofExcept .node (nav.peekAt index), nav)
  | .parent => (.ofOption nav.parent?, nav)
  | .iter => (.nodes nav.toList, nav)
  | .iterReversed => (.nodes nav.toListReversed, nav)
  | .ancestor pattern => (.ofOption (nav.ancestor? pattern), nav)
  | .ancestors pattern count => (.nodes ((nav.ancestors pattern).take count).1, nav)
  | .schemaCoordinate => (.ofExcept .coordinate nav.schemaCoordinate, nav)
  | .size => (.count nav.size, nav)
  | .isEmpty => (.flag nav.isEmpty, nav)
  | .clear => (.done, nav.clear)

def run (nav : Navigator) : List Request → List Answer × Navigator
  | [] => ([], nav)
  | r :: later =>
    let (a, next) := nav.respond r
    let (as, last) := next.run later
    (a :: as, last)

end Navigator

namespace Request

def isPush : Request → Bool
  | push _ => true
  | _ => false

def isPop : Request → Bool
  | pop => true
  | _ => false

def isClear : Request → Bool
  | clear => true
  | _ => false

def isQuery (r : Request) : Bool :=
  !(r.isPush || r.isPop || r.isClear)

def needsNode? : Request → Option NavigatorRequest
  | pop => some .pop
  | peek => some .peek
  | schemaCoordinate => some .createSchemaCoordinate
  | _ => none

/-- Whether a node that was pushed right before some requests is still held after them. -/
def Outlasts (later : List Request) : Prop :=
  later.any isClear = false ∧
    ∀ start, start <+: later → start.countP isPop ≤ start.countP isPush

def taken : List Request → Nat
  | [] => 0
  | push _ :: later => taken later - 1
  | pop :: later => taken later + 1
  | _ :: later => taken later

lemma forall_prefix_cons {P : List Request → Prop} {r : Request} {later : List Request} :
    (∀ start, start <+: r :: later → P start) ↔ P [] ∧ ∀ start, start <+: later → P (r :: start) := by
  constructor
  · intro h
    exact ⟨h [] List.nil_prefix, fun start hs => h _ (List.cons_prefix_cons.mpr ⟨rfl, hs⟩)⟩
  · intro ⟨hnil, hcons⟩ start hs
    obtain rfl | ⟨rest, rfl, hr⟩ := List.prefix_cons_iff.mp hs
    · exact hnil
    · exact hcons rest hr

lemma taken_le_iff (later : List Request) (k : Nat) :
    taken later ≤ k ↔ ∀ start, start <+: later → start.countP isPop ≤ start.countP isPush + k := by
  induction later generalizing k with
  | nil => simp [taken]
  | cons r later ih =>
    rw [forall_prefix_cons]
    cases r with
    | push p =>
      rw [taken, Nat.sub_le_iff_le_add, ih (k + 1)]
      simp [List.countP_cons, isPop, isPush, Nat.add_right_comm _ 1 k, Nat.add_assoc]
    | pop =>
      cases k with
      | zero =>
        -- the pop alone is a start with more pops than pushes
        exact iff_of_false (Nat.not_succ_le_zero _) fun h => absurd (h.2 [] List.nil_prefix) (by decide)
      | succ k => simpa [taken, List.countP_cons, isPop, isPush, ← Nat.add_assoc] using ih k
    | _ => simpa [taken, List.countP_cons, isPop, isPush] using ih k

lemma outlasts_iff (later : List Request) :
    Outlasts later ↔ later.any isClear = false ∧ taken later = 0 := by
  rw [← Nat.le_zero, taken_le_iff]
  rfl

instance : DecidablePred Outlasts :=
  fun later => decidable_of_iff _ (outlasts_iff later).symm

/-- The pushed nodes that are neither popped nor cleared, the most recent first. -/
def standing : List Request → List Placed
  | [] => []
  | push p :: later => if Outlasts later then standing later ++ [p] else standing later
  | _ :: later => standing later

example (p q r : Placed) :
    standing [.pop, .push p, .push q, .pop, .peekAt 1, .push r, .peek] = [r, p] := rfl

def answer (stack : List Placed) : Request → Answer
  | push _ | clear => .done
  | pop =>
    match stack with
    | [] => .refused (.emptyNavigator .pop)
    | p :: _ => .node p
  | peek =>
    match stack with
    | [] => .refused (.emptyNavigator .peek)
    | p :: _ => .node p
  | peekAt index =>
    match stack[index]? with
    | none => .refused (.peekOutOfRange index stack.length)
    | some p => .node p
  | parent => .ofOption stack.head?
  | iter => .nodes stack
  | iterReversed => .nodes stack.reverse
  | ancestor pattern => .ofOption (stack.find? (pattern.admits ·.node))
  | ancestors pattern count => .nodes ((stack.filter (pattern.admits ·.node)).take count)
  | schemaCoordinate =>
    match stack with
    | [] => .refused (.emptyNavigator .createSchemaCoordinate)
    | _ :: _ =>
      .ofExcept .coordinate (Element.coordinate stack.length (stack.filterMap (·.node.element?)))
  | size => .count stack.length
  | isEmpty => .flag stack.isEmpty

section Refusals

variable {r : Request} {stack : List Placed}

lemma cases_of_answer_eq_refused {e : TreeError} (h : r.answer stack = .refused e) :
    (stack = [] ∧ ∃ request, r.needsNode? = some request ∧ e = .emptyNavigator request) ∨
      (∃ index, r = .peekAt index ∧ stack.length ≤ index ∧ e = .peekOutOfRange index stack.length) ∨
      ∃ fault, e = .unrecognizedPath fault := by
  cases r with
  | pop | peek =>
    cases stack with
    | nil =>
      cases h
      exact .inl ⟨rfl, _, rfl, rfl⟩
    | cons => cases h
  | peekAt index =>
    rw [answer] at h
    split at h <;> cases h
    next hp => exact .inr (.inl ⟨index, rfl, List.getElem?_eq_none_iff.mp hp, rfl⟩)
  | parent => cases stack <;> cases h
  | ancestor pattern =>
    rw [answer] at h
    cases hf : stack.find? (pattern.admits ·.node) <;> rw [hf] at h <;> cases h
  | schemaCoordinate =>
    cases stack with
    | nil =>
      cases h
      exact .inl ⟨rfl, _, rfl, rfl⟩
    | cons p ps =>
      rw [answer] at h
      cases hc : Element.coordinate (p :: ps).length ((p :: ps).filterMap (·.node.element?)) with
      | ok c =>
        rw [hc] at h
        cases h
      | error e' =>
        rw [hc] at h
        cases h
        exact .inr (.inr (Element.exists_of_coordinate_eq_error hc))
  | _ => cases h

lemma answer_eq_emptyNavigator_iff {request : NavigatorRequest} :
    r.answer stack = .refused (.emptyNavigator request) ↔ stack = [] ∧ r.needsNode? = some request := by
  constructor
  · intro h
    rcases cases_of_answer_eq_refused h with ⟨hs, _, hr, he⟩ | ⟨_, _, _, he⟩ | ⟨_, he⟩ <;> cases he
    exact ⟨hs, hr⟩
  · rintro ⟨rfl, hr⟩
    cases r <;> cases hr <;> rfl

lemma answer_eq_peekOutOfRange_iff {index depth : Nat} :
    r.answer stack = .refused (.peekOutOfRange index depth) ↔
      r = .peekAt index ∧ depth = stack.length ∧ depth ≤ index := by
  constructor
  · intro h
    rcases cases_of_answer_eq_refused h with ⟨_, _, _, he⟩ | ⟨_, hr, hi, he⟩ | ⟨_, he⟩ <;> cases he
    exact ⟨hr, rfl, hi⟩
  · rintro ⟨rfl, rfl, hi⟩
    rw [answer, List.getElem?_eq_none hi]

end Refusals

end Request

namespace Navigator

open Request

lemma respond_fst (nav : Navigator) (r : Request) : (nav.respond r).1 = r.answer nav.nodes := by
  cases r with
  | pop => rcases nav with ⟨_ | ⟨p, ps⟩⟩ <;> rfl
  | peek => rcases nav with ⟨_ | ⟨p, ps⟩⟩ <;> rfl
  | peekAt index =>
    simp only [respond, peekAt, answer]
    cases nav.nodes[index]? <;> rfl
  | ancestor pattern =>
    rw [respond, ancestor?, Ancestors.next_fst, Ancestors.toList, List.head?_filter]
    rfl
  | ancestors pattern count =>
    rw [respond, Ancestors.take_fst]
    rfl
  | schemaCoordinate =>
    rcases nav with ⟨_ | ⟨p, ps⟩⟩
    · rfl
    · exact congrArg (Answer.ofExcept .coordinate) (schemaCoordinate_push ⟨ps⟩ p)
  | _ => rfl

lemma run_append (nav : Navigator) (earlier later : List Request) :
    nav.run (earlier ++ later) =
      ((nav.run earlier).1 ++ ((nav.run earlier).2.run later).1, ((nav.run earlier).2.run later).2) := by
  induction earlier generalizing nav with
  | nil => rfl
  | cons r earlier ih => simp [run, ih]

lemma length_run (nav : Navigator) (rs : List Request) : (nav.run rs).1.length = rs.length := by
  induction rs generalizing nav with
  | nil => rfl
  | cons r rs ih => simp [run, ih]

lemma nodes_run (nav : Navigator) (rs : List Request) :
    (nav.run rs).2.nodes =
      standing rs ++ if rs.any isClear then [] else nav.nodes.drop (taken rs) := by
  induction rs generalizing nav with
  | nil => rfl
  | cons r rs ih =>
    rw [run, ih, List.any_cons]
    cases r with
    | push p =>
      -- the new node is the last of the standing ones, or the first one that the rest pops
      simp only [respond, push, standing, taken, isClear, Bool.false_or]
      cases hc : rs.any isClear with
      | true => simp [outlasts_iff, hc]
      | false =>
        cases ht : taken rs with
        | zero => simp [outlasts_iff, hc, ht]
        | succ k => simp [outlasts_iff, hc, ht]
    | pop =>
      rcases nav with ⟨_ | ⟨p, ps⟩⟩ <;> simp [respond, pop, standing, taken, isClear]
    | clear => simp [respond, clear, empty, standing, isClear]
    | _ => rfl

lemma nodes_run_empty (rs : List Request) : (empty.run rs).2.nodes = standing rs := by
  rw [nodes_run]
  simp [empty]

lemma run_cons (nav : Navigator) (r : Request) (later : List Request) :
    nav.run (r :: later) =
      ((nav.respond r).1 :: ((nav.respond r).2.run later).1, ((nav.respond r).2.run later).2) := rfl

lemma respond_snd_of_idle {r : Request} {nav : Navigator}
    (hr : r.isQuery = true ∨ ∃ e, (nav.respond r).1 = .refused e) : (nav.respond r).2 = nav := by
  cases r with
  | push | clear => simp [isQuery, isPush, isPop, isClear, respond] at hr
  | pop =>
    rcases nav with ⟨_ | ⟨p, ps⟩⟩
    · rfl
    · simp [isQuery, isPush, isPop, isClear, respond, pop] at hr
  | _ => rfl

lemma getElem?_run (nav : Navigator) (earlier later : List Request) (r : Request) :
    (nav.run (earlier ++ r :: later)).1[earlier.length]? =
      some (r.answer (nav.run earlier).2.nodes) := by
  rw [run_append, run_cons, respond_fst, ← length_run nav earlier, List.getElem?_append_right (Nat.le_refl _)]
  simp

/-- Every answer of a run is the one that the stack of the standing nodes gives. A request that is
only a question, or that is refused, has no effect on the answers after it. -/
theorem answers_of_run (earlier later : List Request) (r : Request) :
    let answers := (empty.run (earlier ++ r :: later)).1
    let stack := standing earlier
    answers.length = earlier.length + 1 + later.length ∧
      answers[earlier.length]? = some (r.answer stack) ∧
      (∀ request, answers[earlier.length]? = some (.refused (.emptyNavigator request)) ↔
        stack = [] ∧ r.needsNode? = some request) ∧
      (∀ index depth, answers[earlier.length]? = some (.refused (.peekOutOfRange index depth)) ↔
        r = .peekAt index ∧ depth = stack.length ∧ depth ≤ index) ∧
      (r.isQuery ∨ (∃ e, answers[earlier.length]? = some (.refused e)) →
        answers.drop (earlier.length + 1) =
          (empty.run (earlier ++ later)).1.drop earlier.length) := by
  intro answers stack
  have hlen := length_run empty earlier
  have hanswer : answers[earlier.length]? = some (r.answer stack) := by
    rw [getElem?_run, nodes_run_empty]
  refine ⟨?_, hanswer, ?_, ?_, ?_⟩
  · simp [answers, length_run, Nat.add_assoc, Nat.add_comm 1]
  · intro request
    rw [hanswer, Option.some.injEq, answer_eq_emptyNavigator_iff]
  · intro index depth
    rw [hanswer, Option.some.injEq, answer_eq_peekOutOfRange_iff]
  · intro hr
    have hidle : ((empty.run earlier).2.respond r).2 = (empty.run earlier).2 := by
      apply respond_snd_of_idle
      simpa [hanswer, respond_fst, nodes_run_empty] using hr
    simp only [answers]
    rw [run_append, run_append, run_cons, hidle, ← hlen, List.drop_left, List.drop_append]
    simp

end Navigator

end GraphQLTree
