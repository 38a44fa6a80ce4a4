import GraphQLTree.Proofs.Parsing.Words
import GraphQLTree.Proofs.Reports

namespace GraphQLTree

def IsLine (s : String) : Prop :=
  s ≠ "" ∧ '\n' ∉ s.toList

section Lines

variable {s t : String}

lemma IsWord.isLine (h : IsWord s) : IsLine s :=
  ⟨h.1, fun hn => Bool.false_ne_true (h.2 _ hn)⟩

lemma IsLine.append (hs : IsLine s) (ht : '\n' ∉ t.toList) : IsLine (s ++ t) := by
  refine ⟨fun h => hs.1 (String.append_eq_empty_iff.mp h).1, ?_⟩
  rw [String.toList_append, List.mem_append, not_or]
  exact ⟨hs.2, ht⟩

lemma isLine_member {type member : String} (ht : IsLine type) (hm : IsWord member) :
    IsLine (type ++ "." ++ member) :=
  (ht.append (by decide)).append hm.isLine.2

lemma isLine_argument {owner argument : String} (ho : IsLine owner) (ha : IsWord argument) :
    IsLine (owner ++ "(" ++ argument ++ ":)") :=
  ((ho.append (by decide)).append ha.isLine.2).append (by decide)

end Lines

lemma isLine_field {d : FieldDefinition} {type : String} (h : (Node.fieldDefinition d).Worded) (ht : IsLine type) :
    ∀ c ∈ d.coordinateTexts type, IsLine c := by
  obtain ⟨hname, hargs, -, -⟩ := Node.worded_fieldDefinition.mp h
  refine List.forall_mem_cons.mpr ⟨isLine_member ht hname, List.forall_mem_map.mpr fun a ha => ?_⟩
  exact isLine_argument (isLine_member ht hname) (Node.worded_inputValue.mp (hargs a ha)).1

lemma TypeBody.Worded.isLine {b : TypeBody} {type : String} (h : b.Worded) (ht : IsLine type) :
    ∀ c ∈ b.coordinateTexts type, IsLine c := by
  cases b with
  | scalar | union => exact nofun
  | object _ fields | interface _ fields =>
    exact List.forall_mem_flatMap.mpr fun f hf => isLine_field (h.2 f hf) ht
  | enum values =>
    exact List.forall_mem_map.mpr fun v hv => isLine_member ht (Node.worded_enumValue.mp (h v hv)).1
  | inputObject fields =>
    exact List.forall_mem_map.mpr fun f hf => isLine_member ht (Node.worded_inputValue.mp (h f hf)).1

lemma isLine_definition {d : Definition} (h : (Node.definition d).Worded) : ∀ c ∈ d.coordinateTexts, IsLine c := by
  cases d with
  | type d =>
    obtain ⟨hname, -, hbody⟩ := Node.worded_type.mp h
    exact List.forall_mem_cons.mpr ⟨hname.isLine, hbody.isLine hname.isLine⟩
  | typeExtension d =>
    obtain ⟨hname, -, hbody⟩ := Node.worded_typeExtension.mp h
    exact List.forall_mem_cons.mpr ⟨hname.isLine, hbody.isLine hname.isLine⟩
  | directive d =>
    obtain ⟨hname, hargs, -⟩ := Node.worded_directiveDefinition.mp h
    have hd : IsLine ("@" ++ d.name.value) := IsLine.append ⟨by decide, by decide⟩ hname.isLine.2
    refine List.forall_mem_cons.mpr ⟨hd, List.forall_mem_map.mpr fun a ha => ?_⟩
    exact isLine_argument hd (Node.worded_inputValue.mp (hargs a ha)).1
  | operation | fragment | schema | schemaExtension => exact nofun

namespace Command

lemma FileReport.isLine_coordinates (said : String → String) (p : FilePath) (text : Except String String) :
    ∀ c ∈ (ofText said p text).coordinates, IsLine c := by
  cases text with
  | error reason => exact List.forall_mem_nil _
  | ok text =>
    rcases Document.parseSchema_cases text with ⟨items, -, hp⟩ | ⟨-, hp⟩ | ⟨-, hp⟩
    · rw [ofText.eq_2, hp, coordinates, result_ofDocument]
      have hw := Node.worded_document.mp (Document.worded_of_parseSchema hp)
      exact List.forall_mem_flatMap.mpr fun d hd => isLine_definition (hw d hd)
    all_goals
      rw [ofText.eq_2, hp]
      exact List.forall_mem_nil _

namespace Outcome

def collected (reports : List FileReport) : List String :=
  (reports.takeWhile (!·.breaksOff)).flatMap (·.coordinates)

lemma listing_eq_empty_iff {cs : List String} : listing cs = "" ↔ cs = [] := by
  cases cs with
  | nil => simp [listing]
  | cons c cs => simp [listing, line]

lemma intercalate_eq_empty_iff {cs : List String} (h : ∀ c ∈ cs, IsLine c) :
    String.intercalate "\n" cs = "" ↔ cs = [] := by
  cases cs with
  | nil => simp
  | cons c cs =>
    have hc : c ≠ "" := (h c List.mem_cons_self).1
    cases cs <;> simp [String.intercalate_cons_cons, hc]

lemma output_ofDiscovery {d : Discovery} {reports : List FileReport}
    (hd : d.files = [] ↔ reports = []) (h : ∀ c ∈ reports.flatMap (·.coordinates), IsLine c) :
    (CommandResult.ofDiscovery d reports).output.elim "" line =
      if (CommandResult.ofDiscovery d reports).success = true ∧ reports.flatMap (·.coordinates) = [] then "\n"
      else listing (reports.flatMap (·.coordinates)) := by
  have he := intercalate_eq_empty_iff h
  rw [CommandResult.ofDiscovery_eq rfl (by simpa using hd), CommandResult.printed_outcomes]
  generalize reports.flatMap (·.coordinates) = cs at he ⊢
  by_cases hcs : cs = []
  · subst hcs
    split <;> rfl
  · have hi : ¬ (String.intercalate "\n" cs).isEmpty = true := by
      rwa [String.isEmpty_iff, he]
    split <;> simp [CommandResult.succeeded, CommandResult.failedWithOutput, hcs, hi, line_intercalate hcs]

section Runs

variable {verbose : Bool} {setting : Option String} {d : Discovery} {reports : List FileReport}

lemma ofCommand_of_breaksOff (h : reports.any (·.breaksOff) = true) :
    (ofCommand verbose setting d reports).exit = 101 ∧ (ofCommand verbose setting d reports).output = "" := by
  simp [ofCommand, CommandResult.ofDiscovery?, h]

lemma ofCommand_of_not_breaksOff (h : ¬ reports.any (·.breaksOff) = true) (hd : d.files = [] ↔ reports = [])
    (hc : ∀ c ∈ collected reports, IsLine c) :
    (ofCommand verbose setting d reports).exit ≠ 101 ∧
      (ofCommand verbose setting d reports).output =
        if (ofCommand verbose setting d reports).exit = 0 ∧ collected reports = [] then "\n"
        else listing (collected reports) := by
  have hall : collected reports = reports.flatMap (·.coordinates) := by
    rw [collected, List.takeWhile_eq_self_iff.mpr (by simpa using h)]
  obtain ⟨he, ho, -⟩ := CommandResult.told_ofCommand verbose setting
    (CommandResult.ofDiscovery?_eq_some_iff.mpr ⟨by simpa using h, rfl⟩)
  rw [he, ho, output_ofDiscovery hd (hall ▸ hc), hall]
  cases (CommandResult.ofDiscovery d reports).success <;> simp

end Runs

/-- A run prints a line for each coordinate that it collected, and nothing else, unless it succeeds with
none, when it prints an empty line, or breaks off, when it prints nothing. -/
theorem output_eq_listing_iff (said : String → String) (verbose : Bool) (setting : Option String)
    (faults : List SearchFault) (log : List LogLine) (reads : List (FilePath × Except String String)) :
    let reports := reads.map fun r => FileReport.ofText said r.1 r.2
    let o := ofCommand verbose setting ⟨reads.map (·.1), faults, log⟩ reports
    (o.output = listing (collected reports) ↔ if collected reports = [] then o.exit ≠ 0 else o.exit ≠ 101) ∧
      (o.exit = 101 ↔ ∃ r ∈ reports, r.breaksOff = true) ∧
      (o.exit = 101 → o.output = "") ∧
      (o.exit = 0 → collected reports = [] → o.output = "\n") ∧
      ∀ c ∈ collected reports, c ≠ "" ∧ '\n' ∉ c.toList := by
  intro reports o
  have hlines : ∀ c ∈ collected reports, IsLine c := by
    refine List.forall_mem_flatMap.mpr fun r hr => ?_
    obtain ⟨read, -, rfl⟩ := List.mem_map.mp ((List.takeWhile_sublist _).mem hr)
    exact FileReport.isLine_coordinates said read.1 read.2
  have hnone : listing (collected reports) = "" ↔ collected reports = [] := listing_eq_empty_iff
  by_cases hb : reports.any (·.breaksOff) = true
  · obtain ⟨he, ho⟩ : o.exit = 101 ∧ o.output = "" := ofCommand_of_breaksOff hb
    refine ⟨?_, iff_of_true he (List.any_eq_true.mp hb), fun _ => ho, fun h => by simp [he] at h, hlines⟩
    rw [ho, he, eq_comm, hnone]
    split <;> simp_all
  · obtain ⟨he, ho⟩ : o.exit ≠ 101 ∧ o.output =
        if o.exit = 0 ∧ collected reports = [] then "\n" else listing (collected reports) :=
      ofCommand_of_not_breaksOff hb (by simp [reports]) hlines
    refine ⟨?_, iff_of_false he (List.any_eq_true.not.mp hb), fun h => (he h).elim, ?_, hlines⟩
    · rw [ho]
      by_cases hc : collected reports = []
      · by_cases h0 : o.exit = 0 <;> simp [hc, h0, listing]
      · simp [hc, he]
    · intro h0 hc
      rw [ho, if_pos ⟨h0, hc⟩]

def bareSchema : String :=
  "schema \x7b query: Q \x7d"

theorem output_ne_listing_of_bareSchema :
    ¬ ∀ (said : String → String) (verbose : Bool) (setting : Option String) (faults : List SearchFault)
        (log : List LogLine) (reads : List (FilePath × Except String String)),
      let reports := reads.map fun r => FileReport.ofText said r.1 r.2
      (ofCommand verbose setting ⟨reads.map (·.1), faults, log⟩ reports).output =
        listing (collected reports) := by
  intro h
  have h := h refusal false none [] [] [(⟨"a.graphql"⟩, .ok bareSchema)]
  exact absurd h (by decide +kernel)

end Outcome

end Command

end GraphQLTree
