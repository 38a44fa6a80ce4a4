import GraphQLTree.Proofs.Walk.Order

namespace GraphQLTree

open Visit

def Visit.remainder (t : Visit) : List Placed :=
  match t.moment with
  | .enter => t.path
  | .leave => t.above

lemma Course.exists_stop {ps above path : List Placed} {log : List (Visit × Flow)}
    {left : Option (List Placed)} (h : Course ps above log left) (hl : left = some path) :
    ∃ earlier t, log = earlier ++ [(t, .stop)] ∧ t.remainder = path := by
  induction h with
  | done => cases hl
  | @stopEnter p ps above =>
    obtain rfl := Option.some.inj hl
    exact ⟨[], ⟨.enter, p, above⟩, rfl, rfl⟩
  | @stopBelow p ps above answer log left ha hc ih =>
    obtain ⟨earlier, t, rfl, ht⟩ := ih hl
    exact ⟨(⟨.enter, p, above⟩, answer) :: earlier, t, rfl, ht⟩
  | @stopLeave p ps above answer log ha hc ih =>
    obtain rfl := Option.some.inj hl
    exact ⟨(⟨.enter, p, above⟩, answer) :: log, ⟨.leave, p, above⟩, rfl, rfl⟩
  | @pass p ps above answer answer' log rest left ha ha' hc hs ih ihs =>
    obtain ⟨earlier, t, rfl, ht⟩ := ihs hl
    refine ⟨(⟨.enter, p, above⟩, answer) :: (log ++ (⟨.leave, p, above⟩, answer') :: earlier), t, ?_, ht⟩
    simp

namespace Walk

variable {σ : Type}

lemma extend_remainder_eq_iff (nav : Navigator) (t : Visit) :
    nav.extend t.remainder = nav.extend t.path ↔ t.moment = .enter := by
  rcases t with ⟨moment, p, above⟩
  cases moment with
  | enter => simp [remainder]
  | leave =>
    constructor
    · intro h
      have hn := congrArg (fun n : Navigator => n.nodes.length) h
      simp [remainder, path, Navigator.extend] at hn
    · nofun

/-- A stopped walk leaves the way to the node whose call stopped it, this node included, exactly
when that call was made on entering. -/
theorem stop_keeps_node_iff (v : Visitor σ) (root : Placed) (nav : Navigator) (s : σ)
    (h : (down v root nav s).flow = .stop) :
    ∃ t ∈ tree [] root, (calls v root nav s).getLast? = some (t.call nav .stop) ∧
      (down v root nav s).navigator = nav.extend t.remainder ∧
      ((down v root nav s).navigator = nav.extend t.path ↔ t.moment = .enter) := by
  obtain ⟨log, left, s', hc, hcalls, hp, _⟩ := exists_course v nav root s
  obtain ⟨path, rfl⟩ : ∃ path, left = some path := by
    cases left with
    | none =>
      rw [hp] at h
      cases h
    | some path => exact ⟨path, rfl⟩
  obtain ⟨earlier, t, rfl, rfl⟩ := hc.exists_stop rfl
  have ht : t ∈ tree [] root := by
    have hm := hc.sublist_forest.subset (a := t) (by simp)
    simpa [forest] using hm
  refine ⟨t, ht, ?_, ?_, ?_⟩
  · rw [hcalls]
    simp
  · rw [hp]
    rfl
  · rw [hp]
    exact extend_remainder_eq_iff nav t

def stopLeaving (k : Kind) : Visitor Unit :=
  ⟨fun _ _ s => (.next, s), fun p _ s => (if p.node.kind = k then .stop else .next, s)⟩

def namedString : Placed :=
  Placed.root 0 (.typeRef (.named ⟨⟨"String", none⟩, none⟩))

def nameOfString : Placed :=
  ⟨[0, 0], .name ⟨"String", none⟩⟩

lemma namedString_children : namedString.children = [nameOfString] := rfl

lemma down_stopLeaving_name :
    down (stopLeaving .name) namedString .empty () = ⟨.stop, ⟨[namedString]⟩, ()⟩ := by
  rw [down_eq, namedString_children]
  simp only [stopLeaving, each]
  rw [down_eq]
  rfl

lemma getLast?_calls_stopLeaving_name :
    (calls (stopLeaving .name) namedString .empty ()).getLast? =
      some ((⟨.leave, nameOfString, [namedString]⟩ : Visit).call .empty .stop) := by
  rw [calls, down_eq, namedString_children]
  simp only [Visitor.recorded, stopLeaving, each]
  rw [down_eq]
  rfl

theorem stop_on_leaving_name :
    (down (stopLeaving .name) namedString .empty ()).flow = .stop ∧
    (calls (stopLeaving .name) namedString .empty ()).getLast? =
      some ((⟨.leave, nameOfString, [namedString]⟩ : Visit).call .empty .stop) ∧
    (down (stopLeaving .name) namedString .empty ()).navigator ≠
      Navigator.empty.extend [nameOfString, namedString] := by
  refine ⟨?_, getLast?_calls_stopLeaving_name, ?_⟩
  · rw [down_stopLeaving_name]
  · rw [down_stopLeaving_name]
    intro h
    have hn := congrArg (fun n : Navigator => n.nodes.length) h
    simp [Navigator.extend] at hn

theorem stop_keeps_node_iff_namedString :
    (down (stopLeaving .name) namedString .empty ()).flow = .stop ∧
    ∃ t ∈ tree [] namedString,
      (calls (stopLeaving .name) namedString .empty ()).getLast? = some (t.call .empty .stop) ∧
      (down (stopLeaving .name) namedString .empty ()).navigator = Navigator.empty.extend t.remainder ∧
      ((down (stopLeaving .name) namedString .empty ()).navigator = Navigator.empty.extend t.path ↔
        t.moment = .enter) := by
  have h : (down (stopLeaving .name) namedString .empty ()).flow = .stop := by rw [down_stopLeaving_name]
  exact ⟨h, stop_keeps_node_iff _ _ _ _ h⟩

end Walk

end GraphQLTree
