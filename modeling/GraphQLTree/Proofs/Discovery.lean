import GraphQLTree.Command.Discovery
import Mathlib.Data.List.TakeWhile
import Mathlib.Tactic.Lemma

namespace GraphQLTree

namespace FilePath

variable {p : FilePath} {name e : List Char}

def HasExtension (p : FilePath) (e : List Char) : Prop :=
  ∃ stem, stem ≠ [] ∧ p.fileName? = some (stem ++ '.' :: e) ∧ '.' ∉ e

lemma exists_last_dot (h : '.' ∈ name) : ∃ stem e, name = stem ++ '.' :: e ∧ '.' ∉ e := by
  induction name with
  | nil => cases h
  | cons c name ih =>
    by_cases hn : '.' ∈ name
    · obtain ⟨stem, e, rfl, he⟩ := ih hn
      exact ⟨c :: stem, e, rfl, he⟩
    · obtain rfl : '.' = c := (List.mem_cons.mp h).resolve_right hn
      exact ⟨[], name, rfl, hn⟩

lemma takeWhile_reverse_last_dot (stem : List Char) (he : '.' ∉ e) :
    ((stem ++ '.' :: e).reverse.takeWhile (· ≠ '.')).reverse = e := by
  have hall : ∀ c ∈ e.reverse, decide (c ≠ '.') = true := by
    intro c hc
    exact decide_eq_true (ne_of_mem_of_not_mem (List.mem_reverse.mp hc) he)
  rw [List.reverse_append, List.reverse_cons, List.append_assoc, List.takeWhile_append_of_pos hall]
  simp

lemma extensionOf?_eq_some_iff :
    extensionOf? name = some e ↔ ∃ stem, stem ≠ [] ∧ name = stem ++ '.' :: e ∧ '.' ∉ e := by
  constructor
  · intro h
    rw [extensionOf?] at h
    split at h
    · next hdot =>
      obtain ⟨stem, e', rfl, he'⟩ := exists_last_dot (List.mem_of_mem_drop hdot)
      obtain rfl : e' = e := (takeWhile_reverse_last_dot stem he').symm.trans (Option.some.inj h)
      refine ⟨stem, ?_, rfl, he'⟩
      rintro rfl
      exact he' hdot
    · cases h
  · rintro ⟨stem, hstem, rfl, he⟩
    have hdot : '.' ∈ (stem ++ '.' :: e).drop 1 := by
      obtain ⟨c, stem, rfl⟩ := List.exists_cons_of_ne_nil hstem
      exact List.mem_append_right stem List.mem_cons_self
    rw [extensionOf?, if_pos hdot, takeWhile_reverse_last_dot stem he]

lemma extension?_eq_some_iff : p.extension? = some e ↔ p.HasExtension e := by
  rw [extension?, Option.bind_eq_some_iff]
  constructor
  · rintro ⟨name, hname, h⟩
    obtain ⟨stem, hstem, rfl, he⟩ := extensionOf?_eq_some_iff.mp h
    exact ⟨stem, hstem, hname, he⟩
  · rintro ⟨stem, hstem, hname, he⟩
    exact ⟨_, hname, extensionOf?_eq_some_iff.mpr ⟨stem, hstem, rfl, he⟩⟩

end FilePath

namespace Command

namespace Discovery

variable {given : List String} {p : FilePath} {s : String} {e : List Char}

def IsWanted (given : List String) (p : FilePath) : Prop :=
  ∃ e, p.HasExtension e ∧ ∃ g ∈ given, ∃ dots, g.toList = List.replicate dots '.' ++ e

lemma bareExtension_eq_iff (he : '.' ∉ e) :
    bareExtension s = .ofList e ↔ ∃ dots, s.toList = List.replicate dots '.' ++ e := by
  rw [bareExtension, String.ofList_inj]
  constructor
  · intro h
    have hdots : ∀ c ∈ s.toList.takeWhile (· == '.'), c = '.' := fun c hc => by
      simpa using List.mem_takeWhile_imp hc
    refine ⟨(s.toList.takeWhile (· == '.')).length, ?_⟩
    rw [← List.eq_replicate_of_mem hdots, ← h, List.takeWhile_append_dropWhile]
  · rintro ⟨dots, h⟩
    have hall : ∀ c ∈ List.replicate dots '.', (c == '.') = true := fun c hc => by
      simpa using (List.mem_replicate.mp hc).2
    rw [h, List.dropWhile_append_of_pos hall]
    cases e with
    | nil => rfl
    | cons c e =>
      have hc : (c == '.') = false := beq_eq_false_iff_ne.mpr fun hc => he (hc ▸ List.mem_cons_self)
      rw [List.dropWhile_cons_of_neg (by simp [hc])]

lemma wants_iff : wants (given.map bareExtension) p = true ↔ IsWanted given p := by
  rw [wants]
  split
  · next e he =>
    have hp : p.HasExtension e := FilePath.extension?_eq_some_iff.mp he
    have hdot : '.' ∉ e := by
      obtain ⟨-, -, -, hdot⟩ := hp
      exact hdot
    rw [List.contains_iff_mem, List.mem_map]
    constructor
    · rintro ⟨g, hg, hbare⟩
      exact ⟨e, hp, g, hg, (bareExtension_eq_iff hdot).mp hbare⟩
    · rintro ⟨e', hp', g, hg, hdots⟩
      -- A path has one extension.
      obtain rfl : e = e' := Option.some.inj (he.symm.trans (FilePath.extension?_eq_some_iff.mpr hp'))
      exact ⟨g, hg, (bareExtension_eq_iff hdot).mpr hdots⟩
  · next hnone =>
    refine iff_of_false Bool.false_ne_true ?_
    rintro ⟨e, he, -⟩
    exact nomatch hnone.symm.trans (FilePath.extension?_eq_some_iff.mpr he)

/-- What has been visited, gone through step by step: the files and the faults that come of it. -/
inductive Sifts (given : List String) : List Visit → List FilePath → List SearchFault → Prop
  | done : Sifts given [] [] []
  | wanted {p vs files faults} : IsWanted given p → Sifts given vs files faults →
      Sifts given (.file p :: vs) (p :: files) faults
  | unwanted {p vs files faults} : ¬ IsWanted given p → Sifts given vs files faults →
      Sifts given (.file p :: vs) files faults
  | other {p vs files faults} : Sifts given vs files faults → Sifts given (.other p :: vs) files faults
  | failure {p reason vs files faults} : Sifts given vs files faults →
      Sifts given (.failure p reason :: vs) files (⟨p, reason⟩ :: faults)

variable {vs : List Visit} {files : List FilePath} {faults : List SearchFault} {searches : List Search}

lemma selected_file (hp : IsWanted given p) : selected (given.map bareExtension) (.file p) = some p := by
  rw [selected, if_pos (wants_iff.mpr hp)]

lemma selected_file_of_not (hp : ¬ IsWanted given p) : selected (given.map bareExtension) (.file p) = none := by
  rw [selected, if_neg (wants_iff.not.mpr hp)]

lemma Sifts.eq (h : Sifts given vs files faults) :
    files = vs.filterMap (selected (given.map bareExtension)) ∧ faults = vs.filterMap fault? := by
  induction h with
  | done => exact ⟨rfl, rfl⟩
  | wanted hp _ ih =>
    rw [List.filterMap_cons_some (selected_file hp), ← ih.1]
    exact ⟨rfl, ih.2⟩
  | unwanted hp _ ih =>
    rw [List.filterMap_cons_none (selected_file_of_not hp)]
    exact ih
  | other _ ih => exact ih
  | failure _ ih => exact ⟨ih.1, congrArg _ ih.2⟩

lemma sifts_filterMap (given : List String) (vs : List Visit) :
    Sifts given vs (vs.filterMap (selected (given.map bareExtension))) (vs.filterMap fault?) := by
  induction vs with
  | nil => exact .done
  | cons v vs ih =>
    cases v with
    | file p =>
      by_cases hp : IsWanted given p
      · rw [List.filterMap_cons_some (selected_file hp)]
        exact .wanted hp ih
      · rw [List.filterMap_cons_none (selected_file_of_not hp)]
        exact .unwanted hp ih
    | other p => exact .other ih
    | failure p reason => exact .failure ih

def IsLoneFile (searches : List Search) (p : FilePath) : Prop :=
  ∃ search, searches = [search] ∧ search.rootIsFile = true ∧ search.root = p

lemma fallback?_eq_some_iff : fallback? searches files = some p ↔ files = [] ∧ IsLoneFile searches p := by
  constructor
  · fun_cases fallback? searches files with
    | case1 search hroot =>
      intro h
      exact ⟨rfl, search, rfl, hroot, Option.some.inj h⟩
    | case2 => exact nofun
    | case3 => exact nofun
  · rintro ⟨rfl, search, rfl, hroot, rfl⟩
    rw [fallback?, if_pos hroot]

lemma faults_ofSearches (given : List String) (searches : List Search) :
    (ofSearches given searches).faults = (searches.flatMap (·.visits)).filterMap fault? := by
  rw [List.filterMap_flatMap, ofSearches]
  split <;> rfl

lemma files_eq_fallback (given : List String) (searches : List Search) :
    let sifted := (searches.flatMap (·.visits)).filterMap (selected (given.map bareExtension))
    (ofSearches given searches).files = (fallback? searches sifted).elim sifted fun p => [p] := by
  intro sifted
  have hsifted : searches.flatMap (fun s => s.visits.filterMap (selected (given.map bareExtension))) = sifted :=
    List.filterMap_flatMap.symm
  rw [ofSearches]
  rw [hsifted]
  cases fallback? searches sifted <;> rfl

/-- The files of a run are what its visits sift to, and so are its faults; but when there are no such files and
a single file was named, it is that file. -/
theorem files_ofSearches (given : List String) (searches : List Search) :
    let d := ofSearches given searches
    ∃ sifted,
      (∀ files faults, Sifts given (searches.flatMap (·.visits)) files faults ↔
        files = sifted ∧ faults = d.faults) ∧
      (∀ p, sifted = [] → IsLoneFile searches p → d.files = [p]) ∧
      (¬ (sifted = [] ∧ ∃ p, IsLoneFile searches p) → d.files = sifted) := by
  intro d
  obtain ⟨sifted, hsifted⟩ : ∃ sifted,
      (searches.flatMap (·.visits)).filterMap (selected (given.map bareExtension)) = sifted := ⟨_, rfl⟩
  have hfiles : d.files = (fallback? searches sifted).elim sifted fun p => [p] :=
    hsifted ▸ files_eq_fallback given searches
  refine ⟨sifted, fun files faults => ?_, fun p hnone hp => ?_, fun hsome => ?_⟩
  · rw [← hsifted, faults_ofSearches given searches]
    constructor
    · exact Sifts.eq
    · rintro ⟨rfl, rfl⟩
      exact sifts_filterMap given _
  · rw [hfiles, fallback?_eq_some_iff.mpr ⟨hnone, hp⟩]
    rfl
  · have hfallback : fallback? searches sifted = none :=
      Option.eq_none_iff_forall_ne_some.mpr fun p hp =>
        hsome ((fallback?_eq_some_iff.mp hp).imp_right fun hlone => ⟨p, hlone⟩)
    rw [hfiles, hfallback]
    rfl

end Discovery

end Command

end GraphQLTree
