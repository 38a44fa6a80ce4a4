/-!
Sets of characters that are given by ranges of code points. Main statement: in an ascending list the
search, which goes no further than it has to, finds exactly the code points of the ranges.
-/
namespace GraphQLTree.Text

abbrev CodeRanges := List (Nat × Nat)

namespace CodeRanges

/-- Whether a code point is in a range; no range is looked at after the first one that ends at or
beyond it. -/
def covers : CodeRanges → Nat → Bool
  | [], _ => false
  | (first, last) :: ranges, n => if n ≤ last then first ≤ n else covers ranges n

def ascends (low : Nat) : CodeRanges → Bool
  | [] => true
  | (first, last) :: ranges => low ≤ first && first ≤ last && ascends (last + 1) ranges

theorem le_of_mem_of_ascends {low : Nat} {ranges : CodeRanges} (h : ascends low ranges = true)
    {r : Nat × Nat} (hr : r ∈ ranges) : low ≤ r.1 := by
  induction ranges generalizing low with
  | nil => cases hr
  | cons s ranges ih =>
    simp only [ascends, Bool.and_eq_true, decide_eq_true_eq] at h
    obtain ⟨⟨hlow, hs⟩, hrest⟩ := h
    rcases List.mem_cons.mp hr with rfl | hr
    · exact hlow
    · have := ih hrest hr
      omega

theorem covers_iff {low n : Nat} {ranges : CodeRanges} (h : ascends low ranges = true) :
    covers ranges n = true ↔ ∃ r ∈ ranges, r.1 ≤ n ∧ n ≤ r.2 := by
  induction ranges generalizing low with
  | nil => simp [covers]
  | cons s ranges ih =>
    simp only [ascends, Bool.and_eq_true, decide_eq_true_eq] at h
    obtain ⟨_, hrest⟩ := h
    by_cases hn : n ≤ s.2
    · simp only [covers, hn, if_true, decide_eq_true_eq]
      constructor
      · exact fun hs => ⟨s, List.mem_cons_self, hs, hn⟩
      · rintro ⟨r, hr, hlo, _⟩
        rcases List.mem_cons.mp hr with rfl | hr
        · exact hlo
        · have := le_of_mem_of_ascends hrest hr
          omega
    · simp only [covers, hn, if_false, ih hrest]
      constructor
      · rintro ⟨r, hr, hin⟩
        exact ⟨r, List.mem_cons_of_mem _ hr, hin⟩
      · rintro ⟨r, hr, hlo, hhi⟩
        rcases List.mem_cons.mp hr with rfl | hr
        · exact absurd hhi hn
        · exact ⟨r, hr, hlo, hhi⟩

end CodeRanges

end GraphQLTree.Text
