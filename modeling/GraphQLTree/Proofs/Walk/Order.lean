import GraphQLTree.Proofs.Walk.Course
import Mathlib.Data.List.Nodup

/-! The order of a walk. The full sequence of calls goes depth first; the answers thin it out and
cut it off, and what remains is what the walk does. -/

namespace GraphQLTree

namespace Placed

def Apart (p q : Placed) : Prop :=
  ∀ address, p.address <:+ address → ¬ q.address <:+ address

lemma same_iff {p q : Placed} : p.same q = true ↔ p.address = q.address := by
  simp [same]

lemma address_of_mem_children {p c : Placed} (h : c ∈ p.children) : ∃ i, c.address = i :: p.address := by
  simp only [children, List.mem_map] at h
  obtain ⟨⟨_, i⟩, _, rfl⟩ := h
  exact ⟨i, rfl⟩

lemma children_apart (p : Placed) : p.children.Pairwise Apart := by
  have hi : p.node.children.zipIdx.Pairwise fun a b => a.2 ≠ b.2 := by
    rw [← List.pairwise_map (f := Prod.snd), List.zipIdx_map_snd]
    exact List.nodup_range'
  rw [children, List.pairwise_map]
  refine hi.imp fun {a b} hne address ha hb => hne ?_
  have hs := List.suffix_of_suffix_length_le ha hb (by simp)
  exact (List.cons.inj (hs.eq_of_length (by simp))).1

end Placed

namespace Visit

def tree (above : List Placed) (p : Placed) : List Visit :=
  ⟨.enter, p, above⟩ :: (p.children.attach.flatMap (fun c => tree (p :: above) c.1) ++ [⟨.leave, p, above⟩])
termination_by sizeOf p.node
decreasing_by exact Placed.sizeOf_node_lt_of_mem_children c.2

def forest (above ps : List Placed) : List Visit :=
  ps.flatMap (tree above)

lemma tree_eq (above : List Placed) (p : Placed) :
    tree above p = ⟨.enter, p, above⟩ :: (forest (p :: above) p.children ++ [⟨.leave, p, above⟩]) := by
  rw [tree, forest, ← List.flatMap_map Subtype.val, List.attach_map_subtype_val]

lemma forest_cons (above ps : List Placed) (p : Placed) :
    forest above (p :: ps) =
      ⟨.enter, p, above⟩ :: (forest (p :: above) p.children ++ ⟨.leave, p, above⟩ :: forest above ps) := by
  simp [forest, tree_eq]

lemma place_of_mem_tree {p : Placed} {above : List Placed} {t : Visit} (h : t ∈ tree above p) :
    p.address <:+ t.place.address ∧ above <:+ t.above := by
  induction p using Placed.induction generalizing above with
  | step p ih =>
    rw [tree_eq] at h
    simp only [List.mem_cons, List.mem_append, forest, List.mem_flatMap, List.not_mem_nil, or_false] at h
    rcases h with rfl | ⟨c, hc, ht⟩ | rfl
    · exact ⟨List.suffix_rfl, List.suffix_rfl⟩
    · obtain ⟨i, hi⟩ := Placed.address_of_mem_children hc
      obtain ⟨ha, hs⟩ := ih c hc ht
      rw [hi] at ha
      exact ⟨(List.suffix_cons i _).trans ha, (List.suffix_cons p _).trans hs⟩
    · exact ⟨List.suffix_rfl, List.suffix_rfl⟩

def key (t : Visit) : Moment × List Nat :=
  (t.moment, t.place.address)

lemma nodup_tree (above : List Placed) (p : Placed) : ((tree above p).map key).Nodup := by
  induction p using Placed.induction generalizing above with
  | step p ih =>
    have hf : ((forest (p :: above) p.children).map key).Nodup := by
      rw [forest, List.map_flatMap, List.nodup_flatMap]
      refine ⟨fun c hc => ih c hc _, p.children_apart.imp fun {c d} hcd k hc hd => ?_⟩
      obtain ⟨t, ht, rfl⟩ := List.mem_map.mp hc
      obtain ⟨u, hu, he⟩ := List.mem_map.mp hd
      have ha : u.place.address = t.place.address := congrArg Prod.snd he
      exact hcd _ (place_of_mem_tree ht).1 (ha ▸ (place_of_mem_tree hu).1)
    have hn (m : Moment) : (m, p.address) ∉ (forest (p :: above) p.children).map key := by
      intro h
      obtain ⟨t, ht, he⟩ := List.mem_map.mp h
      obtain ⟨c, hc, ht⟩ := List.mem_flatMap.mp ht
      obtain ⟨i, hi⟩ := Placed.address_of_mem_children hc
      have hl := (place_of_mem_tree ht).1.length_le
      have ha : t.place.address = p.address := congrArg Prod.snd he
      simp only [hi, ha, List.length_cons] at hl
      omega
    rw [tree_eq, List.map_cons, List.map_append, List.nodup_cons, List.nodup_append]
    refine ⟨?_, hf, by simp, ?_⟩
    · simpa [key] using hn .enter
    · rintro k hk _ hl rfl
      obtain rfl : k = (.leave, p.address) := by simpa [key] using hl
      exact hn .leave hk

section Selection

variable (answer? : Moment → Placed → Option Flow)

def due (t : Visit) : Bool :=
  t.above.all fun q => answer? .enter q != some .skip

def isLast (t : Visit) : Bool :=
  answer? t.moment t.place == some .stop

def cutOff : List Visit → List Visit
  | [] => []
  | t :: ts => if isLast answer? t then [t] else t :: cutOff ts

def order (root : Placed) : List Visit :=
  cutOff answer? ((tree [] root).filter (due answer?))

variable {answer?} {p : Placed} {ps above : List Placed} {answer : Flow} {log : List (Visit × Flow)}
  {left : Option (List Placed)}

lemma cutOff_cons_of_stop {t : Visit} (h : answer? t.moment t.place = some .stop) (ts : List Visit) :
    cutOff answer? (t :: ts) = [t] := by
  rw [cutOff, if_pos (by simp [isLast, h])]

lemma cutOff_cons_of_ne {t : Visit} (h : answer? t.moment t.place = some answer) (ha : answer ≠ .stop)
    (ts : List Visit) : cutOff answer? (t :: ts) = t :: cutOff answer? ts := by
  rw [cutOff, if_neg (by simp [isLast, h, ha])]

lemma due_of_above {t : Visit} (h : ∀ q ∈ t.above, answer? .enter q ≠ some .skip) : due answer? t = true := by
  simpa [due] using h

lemma filter_forest_of_skip (h : answer? .enter p = some .skip) (ps above : List Placed) :
    (forest (p :: above) ps).filter (due answer?) = [] := by
  rw [List.filter_eq_nil_iff]
  intro t ht hd
  obtain ⟨c, _, ht⟩ := List.mem_flatMap.mp ht
  have hp : p ∈ t.above := (place_of_mem_tree ht).2.subset List.mem_cons_self
  simp only [due, List.all_eq_true, bne_iff_ne] at hd
  exact hd p hp h

lemma filter_forest_cons (hdue : ∀ q ∈ above, answer? .enter q ≠ some .skip)
    (hp : answer? .enter p = some answer) (ha : answer ≠ .stop) :
    (forest above (p :: ps)).filter (due answer?) =
      ⟨.enter, p, above⟩ :: ((forest (p :: above) (p.entered answer)).filter (due answer?) ++
        ⟨.leave, p, above⟩ :: (forest above ps).filter (due answer?)) := by
  have hc : (forest (p :: above) p.children).filter (due answer?) =
      (forest (p :: above) (p.entered answer)).filter (due answer?) := by
    cases answer with
    | next => rfl
    | skip => rw [filter_forest_of_skip hp, filter_forest_of_skip hp]
    | stop => exact (ha rfl).elim
  rw [forest_cons, List.filter_cons_of_pos (due_of_above hdue), List.filter_append, hc,
    List.filter_cons_of_pos (due_of_above hdue)]

lemma cutOff_of_course (h : Course ps above log left)
    (hdue : ps ≠ [] → ∀ q ∈ above, answer? .enter q ≠ some .skip)
    (hans : ∀ t answer, (t, answer) ∈ log → answer? t.moment t.place = some answer) (rest : List Visit) :
    cutOff answer? ((forest above ps).filter (due answer?) ++ rest) =
      log.map Prod.fst ++ if left.isNone then cutOff answer? rest else [] := by
  -- The children are reached only when the node's answer is to go on, so that nothing above them skips.
  have hbelow {p : Placed} {above : List Placed} {answer : Flow}
      (hdue : ∀ q ∈ above, answer? .enter q ≠ some .skip) (hp : answer? .enter p = some answer) :
      p.entered answer ≠ [] → ∀ q ∈ p :: above, answer? .enter q ≠ some .skip := by
    intro hne
    have hn : answer = .next := by
      cases answer <;> simp_all [Placed.entered]
    simpa [hp, hn] using hdue
  induction h generalizing rest with
  | done => simp [forest]
  | @stopEnter p ps above =>
    have hp := hans _ _ List.mem_cons_self
    rw [forest_cons, List.filter_cons_of_pos (due_of_above (hdue (by simp))), List.cons_append,
      cutOff_cons_of_stop hp]
    rfl
  | @stopBelow p ps above answer log left ha _ ih =>
    have hd := hdue (by simp)
    have hp := hans _ _ List.mem_cons_self
    rw [filter_forest_cons hd hp ha, List.cons_append, List.append_assoc, cutOff_cons_of_ne hp ha,
      ih (hbelow hd hp) fun t f ht => hans t f (List.mem_cons_of_mem _ ht)]
    rfl
  | @stopLeave p ps above answer log ha _ ih =>
    have hd := hdue (by simp)
    have hp := hans _ _ List.mem_cons_self
    have hl := hans ⟨.leave, p, above⟩ .stop (by simp)
    rw [filter_forest_cons hd hp ha, List.cons_append, List.append_assoc, cutOff_cons_of_ne hp ha,
      ih (hbelow hd hp) fun t f ht => hans t f (by simp [ht]), List.cons_append, cutOff_cons_of_stop hl]
    simp
  | @pass p ps above answer answer' log later left ha ha' _ _ ih ihs =>
    have hd := hdue (by simp)
    have hp := hans _ _ List.mem_cons_self
    have hl := hans ⟨.leave, p, above⟩ answer' (by simp)
    rw [filter_forest_cons hd hp ha, List.cons_append, List.append_assoc, cutOff_cons_of_ne hp ha,
      ih (hbelow hd hp) fun t f ht => hans t f (by simp [ht]), List.cons_append, cutOff_cons_of_ne hl ha',
      ihs (fun _ => hd) fun t f ht => hans t f (by simp [ht])]
    simp

end Selection

end Visit

namespace Course

open Visit

variable {ps above : List Placed} {log : List (Visit × Flow)} {left : Option (List Placed)}

lemma forest_entered_sublist (p : Placed) (above : List Placed) (answer : Flow) :
    (forest (p :: above) (p.entered answer)).Sublist (forest (p :: above) p.children) := by
  cases answer with
  | next => exact List.Sublist.refl _
  | skip | stop => exact List.nil_sublist _

lemma sublist_forest (h : Course ps above log left) : (log.map Prod.fst).Sublist (forest above ps) := by
  induction h with
  | done => exact List.nil_sublist _
  | stopEnter =>
    rw [forest_cons]
    exact (List.nil_sublist _).cons_cons _
  | stopBelow _ _ ih =>
    rw [forest_cons]
    exact ((ih.trans (forest_entered_sublist ..)).trans (List.sublist_append_left ..)).cons_cons _
  | stopLeave _ _ ih =>
    rw [forest_cons, List.map_cons, List.map_append]
    exact ((ih.trans (forest_entered_sublist ..)).append ((List.nil_sublist _).cons_cons _)).cons_cons _
  | pass _ _ _ _ ih ihs =>
    rw [forest_cons, List.map_cons, List.map_append]
    exact ((ih.trans (forest_entered_sublist ..)).append (ihs.cons_cons _)).cons_cons _

lemma left_eq_none_iff (h : Course ps above log left) : left = none ↔ ∀ e ∈ log, e.2 ≠ .stop := by
  induction h with
  | done | stopEnter | stopLeave => simp
  | stopBelow ha _ ih => simpa [ha] using ih
  | pass ha ha' _ _ ih ihs =>
    have hlog := ih.mp rfl
    simp only [List.forall_mem_cons, List.forall_mem_append]
    exact ihs.trans ⟨fun h => ⟨ha, hlog, ha', h⟩, fun h => h.2.2.2⟩

end Course

namespace Walk

open Visit

variable {σ : Type}

def answer? (calls : List Call) (moment : Moment) (p : Placed) : Option Flow :=
  (calls.find? fun c => c.moment == moment && c.place.same p).map (·.answer)

lemma answer?_of_mem (nav : Navigator) {log : List (Visit × Flow)} {t : Visit} {answer : Flow}
    (hn : ((log.map Prod.fst).map key).Nodup) (h : (t, answer) ∈ log) :
    answer? (log.map fun e => e.1.call nav e.2) t.moment t.place = some answer := by
  induction log with
  | nil => cases h
  | cons e log ih =>
    rw [List.map_cons, List.map_cons, List.nodup_cons] at hn
    rcases List.mem_cons.mp h with rfl | h
    · simp [answer?, call, Placed.same]
    · have hk : e.1.key ≠ t.key := by
        intro he
        exact hn.1 (he ▸ List.mem_map_of_mem (List.mem_map_of_mem h))
      rw [answer?, List.map_cons, List.find?_cons_of_neg (by simpa [call, key, Placed.same_iff] using hk)]
      exact ih hn.2 h

/-- The walk makes the calls that its own answers leave of the full sequence, each with the way to
its node on the navigator. It is stopped when a call is answered so; else everything that it pushed
came off again. -/
theorem calls_eq_order (v : Visitor σ) (root : Placed) (nav : Navigator) (s : σ) :
    down v.recorded root nav (s, []) =
      ⟨(down v root nav s).flow, (down v root nav s).navigator, (down v root nav s).state,
        calls v root nav s⟩ ∧
    (calls v root nav s).map (fun c => (c.moment, c.place, c.navigator)) =
      (order (answer? (calls v root nav s)) root).map (fun t => (t.moment, t.place, nav.extend t.path)) ∧
    ((down v root nav s).flow = .stop ↔ ∃ c ∈ calls v root nav s, c.answer = .stop) ∧
    ((down v root nav s).flow = .stop ∨
      (down v root nav s).flow = .next ∧ (down v root nav s).navigator = nav) ∧
    ∀ c ∈ calls v root nav s, ∃ below, c.navigator.pop = .ok (c.place, below) := by
  obtain ⟨log, left, s', hc, hcalls, hp, hr⟩ := exists_course v nav root s
  have hn : ((log.map Prod.fst).map key).Nodup := by
    have hs := hc.sublist_forest.map key
    rw [forest, List.flatMap_singleton] at hs
    exact (nodup_tree [] root).sublist hs
  have ho : order (answer? (calls v root nav s)) root = log.map Prod.fst := by
    have hcut := cutOff_of_course hc (by simp) (fun t answer ht => answer?_of_mem nav hn ht) []
    rw [forest, List.flatMap_singleton, List.append_nil] at hcut
    rw [order, hcalls, hcut]
    cases left <;> simp [cutOff]
  have hstop : left ≠ none ↔ ∃ c ∈ calls v root nav s, c.answer = .stop := by
    rw [hcalls, ne_eq, hc.left_eq_none_iff]
    simp [call]
  refine ⟨?_, ?_, ?_, ?_, ?_⟩
  · rw [hr, hp]
    cases left <;> rfl
  · rw [ho, hcalls, List.map_map, List.map_map]
    rfl
  · rw [hp, ← hstop]
    cases left <;> simp [outcome]
  · rw [hp]
    cases left with
    | none => exact .inr ⟨rfl, rfl⟩
    | some path => exact .inl rfl
  · rw [hcalls]
    intro c hc
    obtain ⟨⟨t, answer⟩, _, rfl⟩ := List.mem_map.mp hc
    exact ⟨_, rfl⟩

end Walk

end GraphQLTree
