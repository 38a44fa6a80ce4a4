import GraphQLTree.Command.Collector
import GraphQLTree.Proofs.Equality.Children
import GraphQLTree.Proofs.Equality.Coordinates
import GraphQLTree.Proofs.Walk.Course

namespace GraphQLTree

def Placed.Alike (p q : Placed) : Prop :=
  (p.node == q.node) = true

lemma Placed.Alike.children {p q : Placed} (h : p.Alike q) :
    List.Forall₂ Placed.Alike p.children q.children := by
  have hc := Node.children_of_beq h
  rwa [← p.map_node_children, ← q.map_node_children, List.forall₂_map_left_iff,
    List.forall₂_map_right_iff] at hc

lemma Placed.Alike.entered {p q : Placed} (h : p.Alike q) (answer : Flow) :
    List.Forall₂ Placed.Alike (p.entered answer) (q.entered answer) := by
  cases answer with
  | next => exact h.children
  | skip | stop => exact .nil

def Navigator.Alike (nav nav' : Navigator) : Prop :=
  List.Forall₂ Placed.Alike nav.nodes nav'.nodes

namespace Navigator.Alike

variable {nav nav' : Navigator} {p q : Placed}

lemma size_eq (h : nav.Alike nav') : nav.size = nav'.size :=
  h.length_eq

lemma push (h : nav.Alike nav') (hpq : p.Alike q) : (nav.push p).Alike (nav'.push q) :=
  .cons hpq h

lemma schemaCoordinate (h : nav.Alike nav') :
    (∃ c d, nav.schemaCoordinate = .ok c ∧ nav'.schemaCoordinate = .ok d ∧ (c == d) = true) ∨
      ∃ e, nav.schemaCoordinate = .error e ∧ nav'.schemaCoordinate = .error e := by
  have hn : (nav.nodes.map (·.node)).map (·.erased) = (nav'.nodes.map (·.node)).map (·.erased) := by
    rw [← List.forall₂_eq_eq_eq]
    simp only [List.forall₂_map_left_iff, List.forall₂_map_right_iff]
    exact h.imp fun _ _ hpq => (Node.beq_iff_erased.mp hpq).1
  have hc : nav.schemaCoordinate.map (·.erased) = nav'.schemaCoordinate.map (·.erased) := by
    rw [Navigator.schemaCoordinate, Navigator.schemaCoordinate, ← SchemaCoordinate.ofPath_erased,
      ← SchemaCoordinate.ofPath_erased, hn]
  cases hv : nav.schemaCoordinate <;> cases hw : nav'.schemaCoordinate <;> rw [hv, hw] at hc
  case ok.ok c d => exact .inl ⟨c, d, rfl, rfl, SchemaCoordinate.beq_iff_erased.mpr (Except.ok.inj hc)⟩
  case error.error e e' => exact .inr ⟨e, rfl, Except.error.inj hc ▸ rfl⟩
  all_goals cases hc

end Navigator.Alike

structure Call.Alike (c d : Call) : Prop where
  moment : c.moment = d.moment
  place : c.place.Alike d.place
  depth : c.navigator.size = d.navigator.size
  navigator : c.navigator.Alike d.navigator
  answer : c.answer = d.answer

structure Visit.Alike (x y : Visit) : Prop where
  moment : x.moment = y.moment
  place : x.place.Alike y.place
  above : List.Forall₂ Placed.Alike x.above y.above

lemma Visit.Alike.call {x y : Visit} {nav nav' : Navigator} {answer answer' : Flow} (h : x.Alike y)
    (hn : nav.Alike nav') (ha : answer = answer') : (x.call nav answer).Alike (y.call nav' answer') :=
  have he : (nav.extend x.path).Alike (nav'.extend y.path) := List.rel_append (.cons h.place h.above) hn
  ⟨h.moment, h.place, he.size_eq, he, ha⟩

namespace Course

/-- As far as both logs go, the answers are the same. -/
def AnswerAlike (log log' : List (Visit × Flow)) : Prop :=
  ∀ (i : Nat) (e e' : Visit × Flow), log[i]? = some e → log'[i]? = some e' → e.2 = e'.2

def EntryAlike (e e' : Visit × Flow) : Prop :=
  e.1.Alike e'.1 ∧ e.2 = e'.2

section AnswerAlike

variable {e e' : Visit × Flow} {log log' rest rest' : List (Visit × Flow)}

lemma AnswerAlike.head (h : AnswerAlike (e :: log) (e' :: log')) : e.2 = e'.2 :=
  h 0 e e' rfl rfl

lemma AnswerAlike.tail (h : AnswerAlike (e :: log) (e' :: log')) : AnswerAlike log log' :=
  fun i => h (i + 1)

lemma AnswerAlike.prefixes (h : AnswerAlike log log') (hr : rest <+: log) (hr' : rest' <+: log') :
    AnswerAlike rest rest' := by
  intro i x y hx hy
  obtain ⟨_, rfl⟩ := hr
  obtain ⟨_, rfl⟩ := hr'
  refine h i x y ?_ ?_
  · rw [List.getElem?_append_left (List.getElem?_eq_some_iff.mp hx).1, hx]
  · rw [List.getElem?_append_left (List.getElem?_eq_some_iff.mp hy).1, hy]

lemma AnswerAlike.rests (h : AnswerAlike (log ++ rest) (log' ++ rest')) (hl : log.length = log'.length) :
    AnswerAlike rest rest' := by
  intro i x y hx hy
  refine h (log.length + i) x y ?_ ?_
  · rwa [List.getElem?_append_right (Nat.le_add_right _ _), Nat.add_sub_cancel_left]
  · rwa [hl, List.getElem?_append_right (Nat.le_add_right _ _), Nat.add_sub_cancel_left]

end AnswerAlike

lemma alike {ps qs above above' : List Placed} {log log' : List (Visit × Flow)}
    {left left' : Option (List Placed)} (h : Course ps above log left) (h' : Course qs above' log' left')
    (hp : List.Forall₂ Placed.Alike ps qs) (ha : List.Forall₂ Placed.Alike above above')
    (hl : AnswerAlike log log') : List.Forall₂ EntryAlike log log' ∧ (left = none ↔ left' = none) := by
  -- Equal answers to `enter` lead into the same children; what the hypothesis says of these comes first,
  -- so that the answers to `leave` stand at the same place in both logs.
  induction h generalizing qs above' log' left' with
  | done =>
    cases hp
    cases h'
    exact ⟨.nil, .rfl⟩
  | @stopEnter p ps above =>
    cases hp with
    | cons hpq hp =>
    cases h' with
    | stopEnter => exact ⟨.cons ⟨⟨rfl, hpq, ha⟩, rfl⟩ .nil, by simp⟩
    | stopBelow hs | stopLeave hs | pass hs => exact (hs hl.head.symm).elim
  | @stopBelow p ps above answer log left hs hc ih =>
    cases hp with
    | cons hpq hp =>
    cases h' with
    | stopEnter => exact (hs hl.head).elim
    | stopBelow hs' hc' =>
      obtain rfl := hl.head
      obtain ⟨hlog, -⟩ := ih hc' (hpq.entered answer) (.cons hpq ha) hl.tail
      exact ⟨.cons ⟨⟨rfl, hpq, ha⟩, rfl⟩ hlog, by simp⟩
    | stopLeave hs' hc' | pass hs' _ hc' =>
      obtain rfl := hl.head
      have hb := ih hc' (hpq.entered answer) (.cons hpq ha) (hl.tail.prefixes (by simp) (by simp))
      exact (Option.some_ne_none _ (hb.2.mpr rfl)).elim
  | @stopLeave p ps above answer log hs hc ih =>
    cases hp with
    | cons hpq hp =>
    cases h' with
    | stopEnter => exact (hs hl.head).elim
    | stopBelow hs' hc' =>
      obtain rfl := hl.head
      have hb := ih hc' (hpq.entered answer) (.cons hpq ha) (hl.tail.prefixes (by simp) (by simp))
      exact (Option.some_ne_none _ (hb.2.mp rfl)).elim
    | stopLeave hs' hc' =>
      obtain rfl := hl.head
      have hb := ih hc' (hpq.entered answer) (.cons hpq ha) (hl.tail.prefixes (by simp) (by simp))
      exact ⟨.cons ⟨⟨rfl, hpq, ha⟩, rfl⟩ (List.rel_append hb.1 (.cons ⟨⟨rfl, hpq, ha⟩, rfl⟩ .nil)), by simp⟩
    | pass hs' hs'' hc' =>
      obtain rfl := hl.head
      have hb := ih hc' (hpq.entered answer) (.cons hpq ha) (hl.tail.prefixes (by simp) (by simp))
      exact (hs'' (hl.tail.rests hb.1.length_eq).head.symm).elim
  | @pass p ps above answer answer₂ log rest left hs hs₂ hc hr ih ihr =>
    cases hp with
    | cons hpq hp =>
    cases h' with
    | stopEnter => exact (hs hl.head).elim
    | stopBelow hs' hc' =>
      obtain rfl := hl.head
      have hb := ih hc' (hpq.entered answer) (.cons hpq ha) (hl.tail.prefixes (by simp) (by simp))
      exact (Option.some_ne_none _ (hb.2.mp rfl)).elim
    | stopLeave hs' hc' =>
      obtain rfl := hl.head
      have hb := ih hc' (hpq.entered answer) (.cons hpq ha) (hl.tail.prefixes (by simp) (by simp))
      exact (hs₂ (hl.tail.rests hb.1.length_eq).head).elim
    | pass hs' hs'' hc' hr' =>
      obtain rfl := hl.head
      have hb := ih hc' (hpq.entered answer) (.cons hpq ha) (hl.tail.prefixes (by simp) (by simp))
      have hrest := hl.tail.rests hb.1.length_eq
      obtain ⟨hrs, hleft⟩ := ihr hr' hp ha hrest.tail
      exact ⟨.cons ⟨⟨rfl, hpq, ha⟩, rfl⟩ (List.rel_append hb.1 (.cons ⟨⟨rfl, hpq, ha⟩, hrest.head⟩ hrs)), hleft⟩

end Course

structure Walked.Alike {σ τ : Type} (R : σ → τ → Prop) (a : Walked σ) (b : Walked τ) : Prop where
  flow : a.flow = b.flow
  navigator : a.navigator.Alike b.navigator
  state : R a.state b.state

/-- Visitors that answer alike. Their states are related by `R`: where these are, the answers on equal
nodes are the same, and the states after them are related again. -/
structure Visitor.Agree {σ τ : Type} (R : σ → τ → Prop) (v : Visitor σ) (w : Visitor τ) : Prop where
  enter : ∀ p q nav nav' s t, p.Alike q → nav.Alike nav' → R s t →
    (v.enter p nav s).1 = (w.enter q nav' t).1 ∧ R (v.enter p nav s).2 (w.enter q nav' t).2
  leave : ∀ p q nav nav' s t, p.Alike q → nav.Alike nav' → R s t →
    (v.leave p nav s).1 = (w.leave q nav' t).1 ∧ R (v.leave p nav s).2 (w.leave q nav' t).2

namespace Walk

variable {σ τ : Type} {R : σ → τ → Prop} {v : Visitor σ} {w : Visitor τ} {nav nav' : Navigator}

lemma each_alike {step : Placed → Navigator → σ → Walked σ} {step' : Placed → Navigator → τ → Walked τ}
    {ps qs : List Placed} {s : σ} {t : τ} (hpq : List.Forall₂ Placed.Alike ps qs)
    (h : ∀ p ∈ ps, ∀ q nav nav' s t, p.Alike q → nav.Alike nav' → R s t →
      (step p nav s).Alike R (step' q nav' t))
    (hn : nav.Alike nav') (hs : R s t) : (each step ps nav s).Alike R (each step' qs nav' t) := by
  induction hpq generalizing nav nav' s t with
  | nil => exact ⟨rfl, hn, hs⟩
  | @cons p q ps qs hpq _ ih =>
    have hp := h p List.mem_cons_self q nav nav' s t hpq hn hs
    rw [each, each]
    generalize step p nav s = a at hp ⊢
    generalize step' q nav' t = b at hp ⊢
    rcases a with ⟨flow, nav₁, s₁⟩
    rcases b with ⟨flow', nav₁', t₁⟩
    obtain rfl : flow = flow' := hp.flow
    cases flow with
    | stop => exact ⟨rfl, hp.navigator, hp.state⟩
    | next | skip => exact ih (fun p hp => h p (List.mem_cons_of_mem _ hp)) hp.navigator hp.state

lemma depart_alike {p q : Placed} {s : σ} {t : τ} (hv : v.Agree R w) (hpq : p.Alike q)
    (hn : nav.Alike nav') (hs : R s t) : (depart v p nav s).Alike R (depart w q nav' t) := by
  obtain ⟨ha, hs⟩ := hv.leave p q nav nav' s t hpq hn hs
  rw [depart, depart]
  generalize v.leave p nav s = a at ha hs ⊢
  generalize w.leave q nav' t = b at ha hs ⊢
  rcases a with ⟨flow, s₁⟩
  rcases b with ⟨flow', t₁⟩
  obtain rfl : flow = flow' := ha
  rcases nav with ⟨nodes⟩
  rcases nav' with ⟨nodes'⟩
  have hb : (⟨nodes.tail⟩ : Navigator).Alike ⟨nodes'.tail⟩ := by
    cases hn with
    | nil => exact .nil
    | cons _ hn => exact hn
  cases hn <;> cases flow <;> exact ⟨rfl, hb, hs⟩

lemma down_alike {p q : Placed} {s : σ} {t : τ} (hv : v.Agree R w) (hpq : p.Alike q)
    (hn : nav.Alike nav') (hs : R s t) : (down v p nav s).Alike R (down w q nav' t) := by
  induction p using Placed.induction generalizing q nav nav' s t with
  | step p ih =>
    have hn := hn.push hpq
    obtain ⟨ha, hs⟩ := hv.enter p q _ _ s t hpq hn hs
    rw [down_eq, down_eq]
    generalize v.enter p (nav.push p) s = a at ha hs ⊢
    generalize w.enter q (nav'.push q) t = b at ha hs ⊢
    rcases a with ⟨flow, s₁⟩
    rcases b with ⟨flow', t₁⟩
    obtain rfl : flow = flow' := ha
    cases flow with
    | stop => exact ⟨rfl, hn, hs⟩
    | skip => exact depart_alike hv hpq hn hs
    | next =>
      have hc : (each (down v) p.children (nav.push p) s₁).Alike R
          (each (down w) q.children (nav'.push q) t₁) :=
        each_alike hpq.children (fun c hc _ _ _ _ _ hcq => ih c hc hcq) hn hs
      simp only
      generalize each (down v) p.children (nav.push p) s₁ = a at hc ⊢
      generalize each (down w) q.children (nav'.push q) t₁ = b at hc ⊢
      rcases a with ⟨flow, nav₁, s₂⟩
      rcases b with ⟨flow', nav₁', t₂⟩
      obtain rfl : flow = flow' := hc.flow
      cases flow with
      | stop => exact ⟨rfl, hc.navigator, hc.state⟩
      | next | skip => exact depart_alike hv hpq hc.navigator hc.state

end Walk

namespace Visitor

variable {σ τ : Type} {R : σ → τ → Prop} {v : Visitor σ} {w : Visitor τ}

def Recorded (R : σ → τ → Prop) (a : σ × List Call) (b : τ × List Call) : Prop :=
  R a.1 b.1 ∧ List.Forall₂ Call.Alike a.2 b.2

lemma Agree.recorded (h : v.Agree R w) : v.recorded.Agree (Recorded R) w.recorded where
  enter p q nav nav' s t hpq hn hs := by
    obtain ⟨ha, hst⟩ := h.enter p q nav nav' s.1 t.1 hpq hn hs.1
    exact ⟨ha, hst, List.rel_append hs.2 (.cons ⟨rfl, hpq, hn.size_eq, hn, ha⟩ .nil)⟩
  leave p q nav nav' s t hpq hn hs := by
    obtain ⟨ha, hst⟩ := h.leave p q nav nav' s.1 t.1 hpq hn hs.1
    exact ⟨ha, hst, List.rel_append hs.2 (.cons ⟨rfl, hpq, hn.size_eq, hn, ha⟩ .nil)⟩

end Visitor

namespace Walk

variable {σ τ : Type}

lemma calls_alike_of_agree {R : σ → τ → Prop} {v : Visitor σ} {w : Visitor τ} {p q : Placed}
    {nav nav' : Navigator} {s : σ} {t : τ} (hv : v.Agree R w) (hpq : p.Alike q) (hn : nav.Alike nav')
    (hs : R s t) : List.Forall₂ Call.Alike (calls v p nav s) (calls w q nav' t) :=
  (down_alike hv.recorded hpq hn ⟨hs, .nil⟩).state.2

def AnswerAlike (cs ds : List Call) : Prop :=
  ∀ (i : Nat) (c d : Call), cs[i]? = some c → ds[i]? = some d → c.answer = d.answer

lemma calls_alike {v : Visitor σ} {w : Visitor τ} {p q : Placed} {nav nav' : Navigator} {s : σ} {t : τ}
    (hpq : p.Alike q) (hn : nav.Alike nav') (ha : AnswerAlike (calls v p nav s) (calls w q nav' t)) :
    List.Forall₂ Call.Alike (calls v p nav s) (calls w q nav' t) ∧
      (down v p nav s).flow = (down w q nav' t).flow := by
  obtain ⟨log, left, s', hc, hv, hd, -⟩ := exists_course v nav p s
  obtain ⟨log', left', t', hc', hw, hd', -⟩ := exists_course w nav' q t
  have hl : Course.AnswerAlike log log' := by
    intro i e e' he he'
    refine ha i (e.1.call nav e.2) (e'.1.call nav' e'.2) ?_ ?_
    · rw [hv, List.getElem?_map, he]
      rfl
    · rw [hw, List.getElem?_map, he']
      rfl
  obtain ⟨hlog, hleft⟩ := hc.alike hc' (.cons hpq .nil) .nil hl
  refine ⟨?_, ?_⟩
  · rw [hv, hw, List.forall₂_map_left_iff, List.forall₂_map_right_iff]
    exact hlog.imp fun e e' h => h.1.call hn h.2
  · rw [hd, hd']
    cases left <;> cases left' <;> simp_all [outcome]

end Walk

namespace Command.Collector

structure Alike (c d : Collector) : Prop where
  found : List.Forall₂ (fun x y => (x.coordinate == y.coordinate) = true ∧ x.depth = y.depth) c.found d.found
  fault : c.fault = d.fault

lemma enter_alike {p q : Placed} {nav nav' : Navigator} {c d : Collector} (hpq : p.Alike q)
    (hn : nav.Alike nav') (h : c.Alike d) :
    (enter p nav c).1 = (enter q nav' d).1 ∧ (enter p nav c).2.Alike (enter q nav' d).2 := by
  rw [enter, enter, Node.kind_eq_of_beq hpq]
  split
  · rcases hn.schemaCoordinate with ⟨x, y, hx, hy, hxy⟩ | ⟨e, hx, hy⟩
    · rw [hx, hy]
      exact ⟨rfl, .cons ⟨hxy, hn.size_eq⟩ h.found, h.fault⟩
    · rw [hx, hy]
      exact ⟨rfl, h.found, rfl⟩
  · exact ⟨rfl, h⟩

lemma visitor_agree : visitor.Agree Alike visitor where
  enter _ _ _ _ _ _ := enter_alike
  leave _ _ _ _ _ _ _ _ h := ⟨rfl, h⟩

lemma walk_alike {d d' : Document} (h : (d == d') = true) : (walk d).Alike Alike (walk d') :=
  Walk.down_alike visitor_agree h .nil ⟨.nil, rfl⟩

def shown (d : Document) : Except TreeError (List (String × Nat)) :=
  (collect d).map fun found => found.map fun x => (x.coordinate.render, x.depth)

lemma shown_congr {d d' : Document} (h : (d == d') = true) : shown d = shown d' := by
  have hw := (walk_alike h).state
  have hf : (walk d).state.found.map (fun x => (x.coordinate.render, x.depth)) =
      (walk d').state.found.map fun x => (x.coordinate.render, x.depth) := by
    rw [← List.forall₂_eq_eq_eq, List.forall₂_map_left_iff, List.forall₂_map_right_iff]
    exact hw.found.imp fun _ _ hxy => Prod.ext (SchemaCoordinate.render_of_beq hxy.1) hxy.2
  rw [shown, shown, collect, collect]
  simp only [hw.fault]
  cases (walk d').state.fault with
  | some e => rfl
  | none => simp only [Except.map, List.map_reverse, hf]

end Command.Collector

/-- Locations have no effect on coordinates and walks. Navigators that hold equal nodes lead to equal
coordinates or to the same error. Walks through equal trees make the same calls, on equal nodes and at
equal depths, when their visitors answer alike; where the answers follow from states that are related,
the walks end in related states. So equal documents have the same coordinates to show. -/
theorem Walk.unmoved_by_locations :
    (∀ nav nav' : Navigator, nav.Alike nav' →
      (∃ c d, nav.schemaCoordinate = .ok c ∧ nav'.schemaCoordinate = .ok d ∧ (c == d) = true) ∨
        ∃ e, nav.schemaCoordinate = .error e ∧ nav'.schemaCoordinate = .error e) ∧
    (∀ (σ τ : Type) (v : Visitor σ) (w : Visitor τ) (p q : Placed) (nav nav' : Navigator) (s : σ) (t : τ),
      (p.node == q.node) = true → nav.Alike nav' → AnswerAlike (calls v p nav s) (calls w q nav' t) →
        List.Forall₂ Call.Alike (calls v p nav s) (calls w q nav' t) ∧
          (down v p nav s).flow = (down w q nav' t).flow) ∧
    (∀ (σ τ : Type) (R : σ → τ → Prop) (v : Visitor σ) (w : Visitor τ), v.Agree R w →
      ∀ (p q : Placed) (nav nav' : Navigator) (s : σ) (t : τ),
        (p.node == q.node) = true → nav.Alike nav' → R s t →
          List.Forall₂ Call.Alike (calls v p nav s) (calls w q nav' t) ∧
            (down v p nav s).Alike R (down w q nav' t)) ∧
    ∀ d d' : Document, (d == d') = true → Command.Collector.shown d = Command.Collector.shown d' := by
  refine ⟨fun _ _ h => h.schemaCoordinate, ?_, ?_, fun _ _ => Command.Collector.shown_congr⟩
  · intro σ τ v w p q nav nav' s t hpq hn ha
    exact calls_alike hpq hn ha
  · intro σ τ R v w hv p q nav nav' s t hpq hn hs
    exact ⟨calls_alike_of_agree hv hpq hn hs, down_alike hv hpq hn hs⟩

section DocumentAt

def idFieldAt (l : Option Location) : FieldDefinition :=
  ⟨none, ⟨"id", l⟩, [], .named ⟨⟨"ID", none⟩, none⟩, [], l⟩

def queryTypeAt (l : Option Location) : TypeDefinition :=
  ⟨none, ⟨"Query", l⟩, [], .object [] [idFieldAt l], l⟩

def documentAt (l : Option Location) : Document :=
  ⟨[.type (queryTypeAt l)], none⟩

def wayToFieldAt (l : Option Location) : Navigator :=
  ⟨[⟨[1, 0], .fieldDefinition (idFieldAt l)⟩, ⟨[0], .definition (.type (queryTypeAt l))⟩]⟩

def countingUp : Visitor Nat :=
  ⟨fun _ _ n => (if n < 3 then .next else .stop, n + 1), fun _ _ n => (.next, n)⟩

def countingDown : Visitor Nat :=
  ⟨fun _ _ n => (if n = 0 then .stop else .next, n - 1), fun _ _ n => (.next, n)⟩

lemma countingUp_agree : countingUp.Agree (fun m n => n = 3 - m) countingDown where
  enter p q nav nav' m n _ _ hmn := by
    subst hmn
    have hstop : m < 3 ↔ ¬ 3 - m = 0 := by omega
    refine ⟨?_, by simp only [countingUp, countingDown]; omega⟩
    simp only [countingUp, countingDown, hstop, ite_not]
  leave _ _ _ _ _ _ _ _ hmn := ⟨rfl, hmn⟩

/-- Two walks that are stopped at their fourth node. -/
theorem Walk.unmoved_by_locations_documentAt :
    let here : Location := .point ⟨2, 4, 31⟩
    let p := Placed.root 0 (.document (documentAt none))
    let q := Placed.root 0 (.document (documentAt (some here)))
    (wayToFieldAt none).Alike (wayToFieldAt (some here)) ∧ (p.node == q.node) = true ∧
      (∃ c d, (wayToFieldAt none).schemaCoordinate = .ok c ∧ (wayToFieldAt (some here)).schemaCoordinate = .ok d ∧
        c.name.location = none ∧ d.name.location = some here ∧ (c == d) = true) ∧
      AnswerAlike (calls countingUp p .empty 0) (calls countingDown q .empty 3) ∧
      List.Forall₂ Call.Alike (calls countingUp p .empty 0) (calls countingDown q .empty 3) ∧
      (down countingUp p .empty 0).flow = (down countingDown q .empty 3).flow ∧
      Command.Collector.shown (documentAt none) = Command.Collector.shown (documentAt (some here)) := by
  intro here p q
  have hnav : (wayToFieldAt none).Alike (wayToFieldAt (some here)) := .cons rfl (.cons rfl .nil)
  have hdoc : (documentAt none == documentAt (some here)) = true := rfl
  obtain ⟨hcoordinates, hcalls, hagree, hshown⟩ := Walk.unmoved_by_locations
  obtain ⟨hboth, -⟩ := hagree Nat Nat _ _ _ countingUp_agree p q .empty .empty 0 3 hdoc .nil rfl
  have hanswers : AnswerAlike (calls countingUp p .empty 0) (calls countingDown q .empty 3) := by
    intro i c d hc hd
    obtain ⟨hi, rfl⟩ := List.getElem?_eq_some_iff.mp hc
    obtain ⟨hj, rfl⟩ := List.getElem?_eq_some_iff.mp hd
    exact (hboth.get hi hj).answer
  obtain ⟨-, hflow⟩ := hcalls Nat Nat countingUp countingDown p q .empty .empty 0 3 hdoc .nil hanswers
  refine ⟨hnav, hdoc, ?_, hanswers, hboth, hflow, hshown _ _ hdoc⟩
  obtain ⟨c, d, hc, hd, hcd⟩ | ⟨e, he, -⟩ := hcoordinates _ _ hnav
  · refine ⟨c, d, hc, hd, ?_, ?_, hcd⟩
    · cases hc
      rfl
    · cases hd
      rfl
  · cases he

end DocumentAt

end GraphQLTree
