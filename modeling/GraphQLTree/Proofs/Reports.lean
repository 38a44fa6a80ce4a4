import GraphQLTree.Command.Run
import GraphQLTree.Proofs.Collection
import GraphQLTree.Proofs.Refusals

namespace GraphQLTree.Command

lemma Collector.exists_of_collect (d : Document) :
    ∃ found, collect d = .ok found ∧ found.map (·.coordinate.render) = d.coordinateTexts := by
  obtain ⟨new, hw, ht⟩ := down_adds (Placed.root 0 (.document d)) .empty (.document d) ⟨[], none⟩
  refine ⟨new.reverse, ?_, ht⟩
  rw [collect, walk, hw]
  simp

namespace FileReport

lemma result_ofDocument (p : FilePath) (d : Document) : (ofDocument p d).result = .ok d.coordinateTexts := by
  obtain ⟨found, hc, ht⟩ := Collector.exists_of_collect d
  rw [ofDocument, hc, ← ht]

variable (said : String → String) (p : FilePath)

def outcome (r : FileReport) : List String × Option String :=
  (r.coordinates, r.fault?.map (·.entry))

end FileReport

namespace Outcome

def listing (cs : List String) : String :=
  String.join (cs.map line)

lemma line_intercalate {cs : List String} (h : cs ≠ []) : line (String.intercalate "\n" cs) = listing cs := by
  induction cs with
  | nil => exact (h rfl).elim
  | cons c cs ih =>
    cases cs with
    | nil => simp [listing]
    | cons d cs =>
      have ih := ih (List.cons_ne_nil d cs)
      rw [String.intercalate_cons_cons, listing, List.map_cons, String.join_cons, ← listing, ← ih]
      simp [line, String.append_assoc]

end Outcome

namespace CommandResult

def errors (faults : List SearchFault) (outcomes : List (List String × Option String)) : List String :=
  faults.map (fun f => "\u274C " ++ String.intercalate ": "
      ["IO error for operation on " ++ f.place.text ++ ": " ++ f.reason, f.reason]) ++
    outcomes.filterMap (·.2)

def entries (faults : List SearchFault) (outcomes : List (List String × Option String)) : List String :=
  if faults = [] ∧ outcomes = [] then ["\u274C No GraphQL files found at or under the given paths."]
  else errors faults outcomes

def printed (outcomes : List (List String × Option String)) : String :=
  String.intercalate "\n" (outcomes.flatMap (·.1))

section Reports

variable {d : Discovery} {reports : List FileReport} {outcomes : List (List String × Option String)}

lemma printed_outcomes : printed (reports.map (·.outcome)) = String.intercalate "\n" (reports.flatMap (·.coordinates)) := by
  rw [printed, List.flatMap_map]
  rfl

lemma ofReports_eq (ho : reports.map (·.outcome) = outcomes) (faults : List SearchFault) :
    ofReports faults reports =
      if errors faults outcomes = [] then succeeded (printed outcomes)
      else failedWithOutput (printed outcomes) (String.intercalate "\n" (errors faults outcomes)) := by
  subst ho
  have herrors : (faults.map RunFault.search ++ reports.filterMap FileReport.fault?).map RunFault.entry =
      errors faults (reports.map (·.outcome)) := by
    rw [List.map_append, List.map_map, List.map_filterMap, errors, List.filterMap_map]
    rfl
  rw [ofReports, ← herrors, printed_outcomes]
  simp only [List.map_eq_nil_iff, List.isEmpty_iff]

lemma ofDiscovery_eq (ho : reports.map (·.outcome) = outcomes) (hd : d.files = [] ↔ outcomes = []) :
    ofDiscovery d reports =
      if entries d.faults outcomes = [] then succeeded (printed outcomes)
      else failedWithOutput (printed outcomes) (String.intercalate "\n" (entries d.faults outcomes)) := by
  by_cases h : d.faults = [] ∧ outcomes = []
  · obtain ⟨hfaults, rfl⟩ := h
    rw [ofDiscovery, hd.mpr rfl, hfaults]
    rfl
  · have hsome : ¬ (d.files.isEmpty && d.faults.isEmpty) = true := by
      simpa [hd, and_comm] using h
    have hentries : entries d.faults outcomes = errors d.faults outcomes := if_neg h
    rw [ofDiscovery, if_neg hsome, ofReports_eq ho, hentries]

lemma ofDiscovery?_eq_some_iff {result : CommandResult} : ofDiscovery? d reports = some result ↔
    (∀ r ∈ reports, ¬ r.breaksOff = true) ∧ ofDiscovery d reports = result := by
  simp [ofDiscovery?]

lemma told_ofCommand (verbose : Bool) (setting : Option String) {result : CommandResult}
    (h : ofDiscovery? d reports = some result) :
    (Outcome.ofCommand verbose setting d reports).exit = (if result.success then 0 else 1) ∧
      (Outcome.ofCommand verbose setting d reports).output = result.output.elim "" Outcome.line ∧
      (Outcome.ofCommand verbose setting d reports).complaints = result.complaint.elim "" Outcome.line := by
  simp [Outcome.ofCommand, h]

end Reports

end CommandResult

end GraphQLTree.Command
