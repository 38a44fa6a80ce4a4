import GraphQLTree.Navigation.Navigator
import Mathlib.Data.List.ReduceOption
import Mathlib.Tactic.Lemma

/-! Searches for ancestors that are asked in turn and copied at any moment. Each of them gives its own
matches one after the other, whatever is asked of the others. -/

namespace GraphQLTree

inductive SearchRequest
  | start (pattern : KindPattern)
  | copy (i : Nat)
  | next (i : Nat)
deriving DecidableEq

abbrev SearchLog := List (Nat × Option Placed)

namespace SearchLog

def answers (log : SearchLog) (i : Nat) : List (Option Placed) :=
  (log.filter (·.1 = i)).map (·.2)

def found (log : SearchLog) (i : Nat) : List Placed :=
  (log.answers i).reduceOption

lemma answers_append (log later : SearchLog) (i : Nat) :
    answers (log ++ later) i = log.answers i ++ later.answers i := by
  rw [answers, List.filter_append, List.map_append]
  rfl

end SearchLog

/-- The answers to `n` calls of a search that has `ps` to give: after the last of `ps` each call gets none. -/
def inTurn (ps : List Placed) (n : Nat) : List (Option Placed) :=
  (List.range n).map (ps[·]?)

section InTurn

variable (ps : List Placed) (n : Nat)

lemma inTurn_succ : inTurn ps (n + 1) = ps.head? :: inTurn ps.tail n := by
  rw [inTurn, List.range_succ_eq_map, List.map_cons, List.map_map, List.head?_eq_getElem?, inTurn]
  congr 1
  apply List.map_congr_left
  intro t _
  exact List.getElem?_tail.symm

lemma reduceOption_inTurn : (inTurn ps n).reduceOption = ps.take n := by
  induction n generalizing ps with
  | zero => rfl
  | succ n ih =>
    rw [inTurn_succ]
    cases ps with
    | nil => simp [ih]
    | cons p ps => simp [ih]

lemma eq_of_inTurn_eq {ps qs : List Placed} (h : ∀ n, inTurn ps n = inTurn qs n) : ps = qs := by
  apply List.ext_getElem?
  intro t
  have ht := congrArg (·[t]?) (h (t + 1))
  simpa [inTurn] using ht

end InTurn

lemma Ancestors.toList_next (a : Ancestors) : a.next.2.toList = a.toList.tail := by
  rcases a with ⟨pattern, ps⟩
  induction ps with
  | nil => rfl
  | cons p ps ih =>
    cases hp : pattern.admits p.node with
    | true => simp [next, nextFrom, toList, hp]
    | false => simpa [next, nextFrom, toList, hp] using ih

namespace Navigator

variable (nav : Navigator)

/-- The searches are numbered in the order in which they are started or copied. -/
def serve (searches : List Ancestors) : SearchRequest → SearchLog × List Ancestors
  | .start pattern => ([], searches ++ [nav.ancestors pattern])
  | .copy i => ([], searches ++ searches[i]?.toList)
  | .next i =>
    match searches[i]? with
    | none => ([], searches)
    | some a => ([(i, a.next.1)], searches.set i a.next.2)

def serveAll (searches : List Ancestors) : List SearchRequest → SearchLog × List Ancestors
  | [] => ([], searches)
  | r :: later =>
    let (log, next) := nav.serve searches r
    let (rest, last) := serveAll next later
    (log ++ rest, last)

section Serve

variable {searches : List Ancestors} {i : Nat} {a : Ancestors}

lemma serveAll_cons (r : SearchRequest) (later : List SearchRequest) :
    nav.serveAll searches (r :: later) =
      ((nav.serve searches r).1 ++ (nav.serveAll (nav.serve searches r).2 later).1,
        (nav.serveAll (nav.serve searches r).2 later).2) := rfl

lemma serveAll_append_snd (earlier later : List SearchRequest) :
    (nav.serveAll searches (earlier ++ later)).2 =
      (nav.serveAll (nav.serveAll searches earlier).2 later).2 := by
  induction earlier generalizing searches with
  | nil => rfl
  | cons r earlier ih => rw [List.cons_append, serveAll_cons, ih, serveAll_cons]

lemma serve_of_getElem? (h : searches[i]? = some a) (r : SearchRequest) :
    (nav.serve searches r).2[i]? = some (if r = .next i then a.next.2 else a) ∧
      (nav.serve searches r).1.answers i = if r = .next i then [a.next.1] else [] := by
  have hi : i < searches.length := (List.getElem?_eq_some_iff.mp h).1
  cases r with
  | start pattern => simp [serve, List.getElem?_append_left hi, h, SearchLog.answers]
  | copy j => simp [serve, List.getElem?_append_left hi, h, SearchLog.answers]
  | next j =>
    rw [serve]
    by_cases hj : j = i
    · subst hj
      rw [h]
      simp [hi, SearchLog.answers]
    · cases searches[j]? with
      | none => simp [h, hj, SearchLog.answers]
      | some b => simp [h, hj, SearchLog.answers]

lemma serveAll_of_getElem? (h : searches[i]? = some a) (rs : List SearchRequest) :
    ∃ b, (nav.serveAll searches rs).2[i]? = some b ∧
      b.toList = a.toList.drop (rs.count (.next i)) ∧
      (nav.serveAll searches rs).1.answers i = inTurn a.toList (rs.count (.next i)) := by
  induction rs generalizing searches a with
  | nil => exact ⟨a, h, rfl, rfl⟩
  | cons r rs ih =>
    obtain ⟨hnext, hlog⟩ := nav.serve_of_getElem? h r
    obtain ⟨b, hb, hrest, hanswers⟩ := ih hnext
    refine ⟨b, hb, ?_⟩
    rw [serveAll_cons, SearchLog.answers_append, hlog, hanswers, hrest, List.count_cons]
    by_cases hr : r = .next i
    · simp [hr, Ancestors.toList_next, Ancestors.next_fst, inTurn_succ]
    · simp [hr]

end Serve

def searchesAfter (rs : List SearchRequest) : List Ancestors :=
  (nav.serveAll [] rs).2

def logAfter (earlier later : List SearchRequest) : SearchLog :=
  (nav.serveAll (nav.searchesAfter earlier) later).1

/-- After some requests the search `i` has the nodes `ps` still to give: whatever is requested from then
on, its answers are these nodes one after the other, and then none for ever. -/
def Owes (earlier : List SearchRequest) (i : Nat) (ps : List Placed) : Prop :=
  ∀ later, (nav.logAfter earlier later).answers i = inTurn ps (later.count (.next i))

section Owes

variable {nav} {earlier : List SearchRequest} {i : Nat} {a : Ancestors} {ps : List Placed}

lemma searchesAfter_append (later : List SearchRequest) :
    nav.searchesAfter (earlier ++ later) = (nav.serveAll (nav.searchesAfter earlier) later).2 :=
  nav.serveAll_append_snd earlier later

lemma owes_toList (h : (nav.searchesAfter earlier)[i]? = some a) : nav.Owes earlier i a.toList := by
  intro later
  obtain ⟨-, -, -, hanswers⟩ := nav.serveAll_of_getElem? h later
  exact hanswers

lemma owes_start (pattern : KindPattern) :
    nav.Owes (earlier ++ [.start pattern]) (nav.searchesAfter earlier).length
      (nav.toList.filter (pattern.admits ·.node)) := by
  have hlast : (nav.searchesAfter (earlier ++ [.start pattern]))[(nav.searchesAfter earlier).length]? =
      some (nav.ancestors pattern) := by
    rw [searchesAfter_append]
    exact List.getElem?_concat_length
  exact owes_toList hlast

namespace Owes

lemma unique {qs : List Placed} (hp : nav.Owes earlier i ps) (hq : nav.Owes earlier i qs) : ps = qs := by
  apply eq_of_inTurn_eq
  intro n
  have hn := (hp (List.replicate n (.next i))).symm.trans (hq (List.replicate n (.next i)))
  rwa [List.count_replicate_self] at hn

lemma exists_search (h : nav.Owes earlier i ps) :
    ∃ a, (nav.searchesAfter earlier)[i]? = some a ∧ a.toList = ps := by
  cases ha : (nav.searchesAfter earlier)[i]? with
  | none =>
    -- a call of a search that there is not has no answer at all
    have hcall := h [.next i]
    simp [logAfter, serveAll, serve, ha, SearchLog.answers, inTurn] at hcall
  | some a => exact ⟨a, rfl, (owes_toList ha).unique h⟩

lemma copy (h : nav.Owes earlier i ps) :
    nav.Owes (earlier ++ [.copy i]) (nav.searchesAfter earlier).length ps := by
  obtain ⟨a, ha, rfl⟩ := h.exists_search
  apply owes_toList
  rw [searchesAfter_append, serveAll_cons, serve, ha]
  exact List.getElem?_concat_length

lemma drop (h : nav.Owes earlier i ps) (later : List SearchRequest) :
    nav.Owes (earlier ++ later) i (ps.drop (later.count (.next i))) := by
  obtain ⟨a, ha, rfl⟩ := h.exists_search
  obtain ⟨b, hb, hrest, -⟩ := nav.serveAll_of_getElem? ha later
  rw [← hrest]
  apply owes_toList
  rw [searchesAfter_append, hb]

lemma found_eq (h : nav.Owes earlier i ps) (later : List SearchRequest) :
    (nav.logAfter earlier later).found i = ps.take (later.count (.next i)) := by
  rw [SearchLog.found, h later, reduceOption_inTurn]

end Owes

end Owes

/-- A new search owes all the matches of its pattern. Whatever is requested, a search owes from then on
what it has not given yet, and so does a copy of it. -/
theorem searches_owe_matches (earlier : List SearchRequest) :
    (∀ pattern, nav.Owes (earlier ++ [.start pattern]) (nav.searchesAfter earlier).length
      (nav.toList.filter (pattern.admits ·.node))) ∧
    (∀ i < (nav.searchesAfter earlier).length, ∃! ps, nav.Owes earlier i ps) ∧
    (∀ i ps later, nav.Owes earlier i ps →
      ∃ rest, ps = (nav.logAfter earlier later).found i ++ rest ∧
        nav.Owes (earlier ++ later) i rest ∧
        nav.Owes (earlier ++ later ++ [.copy i]) (nav.searchesAfter (earlier ++ later)).length rest) ∧
    ∀ pattern, let i := (nav.searchesAfter earlier).length
      (nav.logAfter earlier [.start pattern, .next i]).answers i = [nav.ancestor? pattern] := by
  refine ⟨owes_start, ?_, ?_, ?_⟩
  · intro i hi
    have howes : nav.Owes earlier i _ := owes_toList (List.getElem?_eq_getElem hi)
    exact ⟨_, howes, fun ps hps => hps.unique howes⟩
  · intro i ps later h
    have hrest := h.drop later
    refine ⟨_, ?_, hrest, hrest.copy⟩
    rw [h.found_eq, List.take_append_drop]
  · intro pattern i
    have hlast : (nav.searchesAfter earlier ++ [nav.ancestors pattern])[i]? = some (nav.ancestors pattern) :=
      List.getElem?_concat_length
    simp [logAfter, serveAll, serve, hlast, SearchLog.answers, ancestor?]

def namedTwice : Navigator :=
  ⟨[⟨[1, 0], .name ⟨"b", none⟩⟩, ⟨[0], .value (.null none)⟩, ⟨[0, 1], .name ⟨"a", none⟩⟩]⟩

theorem searches_owe_matches_namedTwice :
    0 < (namedTwice.searchesAfter [.start (.only .name)]).length ∧
      (∃! ps, namedTwice.Owes [.start (.only .name)] 0 ps) ∧
      namedTwice.Owes [.start (.only .name)] 0
        [⟨[1, 0], .name ⟨"b", none⟩⟩, ⟨[0, 1], .name ⟨"a", none⟩⟩] ∧
      namedTwice.Owes [.start (.only .name), .next 0, .copy 0] 1 [⟨[0, 1], .name ⟨"a", none⟩⟩] := by
  obtain ⟨-, hone, hlater, -⟩ := searches_owe_matches namedTwice [.start (.only .name)]
  have hi : 0 < (namedTwice.searchesAfter [.start (.only .name)]).length := Nat.one_pos
  have hfresh : namedTwice.Owes [.start (.only .name)] 0
      [⟨[1, 0], .name ⟨"b", none⟩⟩, ⟨[0, 1], .name ⟨"a", none⟩⟩] :=
    (searches_owe_matches namedTwice []).1 (.only .name)
  obtain ⟨rest, heq, -, hcopy⟩ := hlater 0 _ [.next 0] hfresh
  obtain rfl : [⟨[0, 1], .name ⟨"a", none⟩⟩] = rest := (List.cons.inj heq).2
  exact ⟨hi, hone 0 hi, hfresh, hcopy⟩

end Navigator

end GraphQLTree
