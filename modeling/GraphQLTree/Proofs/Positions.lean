import GraphQLTree.Text.Offset
import Mathlib.Data.List.Induction
import Mathlib.Data.List.TakeWhile
import Mathlib.Tactic.Lemma

namespace GraphQLTree

namespace Text

variable {before after cs : List Char}

def column (before : List Char) : Nat :=
  (before.reverse.takeWhile (· ≠ '\n')).length

lemma takeWhile_reverse_eq_self_iff :
    cs.reverse.takeWhile (· ≠ '\n') = cs.reverse ↔ '\n' ∉ cs := by
  simp only [List.takeWhile_eq_self_iff, List.mem_reverse, decide_eq_true_eq]
  exact ⟨fun h hn => h _ hn rfl, fun h c hc => ne_of_mem_of_not_mem hc h⟩

lemma column_append (before : List Char) (h : '\n' ∉ cs) : column (before ++ cs) = column before + cs.length := by
  rw [column, column, List.reverse_append, List.takeWhile_append, takeWhile_reverse_eq_self_iff.mpr h,
    if_pos rfl, List.length_append, List.length_reverse, Nat.add_comm]

lemma column_append_of_mem (before : List Char) (h : '\n' ∈ cs) : column (before ++ cs) = column cs := by
  have hcs : ¬ (cs.reverse.takeWhile (· ≠ '\n')).length = cs.reverse.length := fun hl =>
    takeWhile_reverse_eq_self_iff.mp ((List.takeWhile_prefix _).eq_of_length hl) h
  rw [column, column, List.reverse_append, List.takeWhile_append, if_neg hcs]

lemma column_le_length (before : List Char) : column before ≤ before.length :=
  (List.takeWhile_prefix _).length_le.trans_eq List.length_reverse

lemma column_newline (before : List Char) : column (before ++ ['\n']) = 0 :=
  column_append_of_mem before (List.mem_singleton_self _)

lemma column_of_not_mem (h : '\n' ∉ cs) : column cs = cs.length :=
  (column_append [] h).trans (Nat.zero_add _)

lemma column_cons_eq_zero {c : Char} (h : column (c :: cs) = 0) : column cs = 0 ∧ (c = '\n' ∨ '\n' ∈ cs) := by
  by_cases hcs : '\n' ∈ cs
  · exact ⟨column_append_of_mem [c] hcs ▸ h, .inr hcs⟩
  · have hl : column [c] + cs.length = 0 := column_append [c] hcs ▸ h
    obtain ⟨hc, hnil⟩ := Nat.add_eq_zero_iff.mp hl
    refine ⟨column_of_not_mem hcs ▸ hnil, .inl ?_⟩
    by_contra hne
    have h1 : column [c] = 1 := column_of_not_mem (by simpa using Ne.symm hne)
    omega

lemma exists_last_line (before : List Char) :
    ∃ lines last, before = lines ++ last ∧ column lines = 0 ∧ '\n' ∉ last := by
  induction before using List.reverseRecOn with
  | nil => exact ⟨[], [], rfl, rfl, List.not_mem_nil⟩
  | append_singleton before c ih =>
    obtain ⟨lines, last, rfl, hl, hn⟩ := ih
    by_cases hc : c = '\n'
    · exact ⟨_, [], (List.append_nil _).symm, hc ▸ column_newline _, List.not_mem_nil⟩
    · exact ⟨lines, last ++ [c], List.append_assoc .., hl, by simp [hn, Ne.symm hc]⟩

@[simp]
lemma byteLength_append (before after : List Char) :
    byteLength (before ++ after) = byteLength before + byteLength after := by
  induction before with
  | nil => simp [byteLength]
  | cons c cs ih => simp [byteLength, ih, Nat.add_assoc]

lemma advance_eq (column offset : Nat) (cs : List Char) :
    advance column offset cs = offset + byteLength (cs.take column) := by
  induction column generalizing offset cs with
  | zero => simp [advance, byteLength]
  | succ column ih =>
    cases cs with
    | nil => simp [advance, byteLength]
    | cons c cs => simp [advance, byteLength, ih, Nat.add_assoc]

lemma getElem?_lineStarts (h : column before = 0) :
    (lineStarts (before ++ after))[before.count '\n']? = some ⟨byteLength before, after⟩ := by
  suffices hs : ∀ offset,
      (⟨offset, before ++ after⟩ :: lineStartsAfter offset (before ++ after))[before.count '\n']? =
        some ⟨offset + byteLength before, after⟩ by
    simpa [lineStarts] using hs 0
  induction before with
  | nil => simp [byteLength]
  | cons c cs ih =>
    intro offset
    obtain ⟨h0, hn⟩ := column_cons_eq_zero h
    have hi := ih h0 (offset + c.utf8Size)
    by_cases hc : c = '\n'
    · subst hc
      rw [List.count_cons_self, List.getElem?_cons_succ, List.cons_append, lineStartsAfter, if_pos rfl, hi,
        byteLength, Nat.add_assoc]
    · -- The first line goes on, so the one that starts there is a later one.
      obtain ⟨k, hk⟩ := Nat.exists_eq_add_one.mpr (List.count_pos_iff.mpr (hn.resolve_left hc))
      rw [hk, List.getElem?_cons_succ] at hi
      rw [List.count_cons_of_ne hc, hk, List.getElem?_cons_succ, List.cons_append, lineStartsAfter,
        if_neg hc, hi, byteLength, Nat.add_assoc]

lemma of_mem_lineStarts {s : LineStart} (h : s ∈ lineStarts cs) :
    ∃ before, cs = before ++ s.rest ∧ s.offset = byteLength before := by
  suffices hs : ∀ offset, s ∈ lineStartsAfter offset cs →
      ∃ before, cs = before ++ s.rest ∧ s.offset = offset + byteLength before by
    rcases List.mem_cons.mp h with rfl | hm
    · exact ⟨[], rfl, rfl⟩
    · simpa using hs 0 hm
  clear h
  induction cs with
  | nil => simp [lineStartsAfter]
  | cons c cs ih =>
    intro offset hm
    have hlater : s ∈ lineStartsAfter (offset + c.utf8Size) cs →
        ∃ before, c :: cs = before ++ s.rest ∧ s.offset = offset + byteLength before := by
      intro hm
      obtain ⟨before, hcs, ho⟩ := ih _ hm
      exact ⟨c :: before, congrArg (c :: ·) hcs, by rw [ho, byteLength, Nat.add_assoc]⟩
    rw [lineStartsAfter] at hm
    split at hm
    · rcases List.mem_cons.mp hm with rfl | hm
      · exact ⟨[c], rfl, rfl⟩
      · exact hlater hm
    · exact hlater hm

def IsBoundary (text : List Char) (offset : Nat) : Prop :=
  ∃ before after, text = before ++ after ∧ offset = byteLength before

lemma isBoundary_byteOffset (text : List Char) (line column : Nat) :
    IsBoundary text (byteOffset (lineStarts text) line column) := by
  rw [byteOffset]
  split
  · next s hs =>
    obtain ⟨before, htext, ho⟩ := of_mem_lineStarts (List.mem_of_getElem? hs)
    refine ⟨before ++ s.rest.take column, s.rest.drop column, ?_, ?_⟩
    · rw [List.append_assoc, List.take_append_drop, htext]
    · rw [advance_eq, ho, byteLength_append]
  · exact ⟨[], text, rfl, rfl⟩

end Text

def Position.after (before : List Char) : Position :=
  ⟨before.count '\n', Text.column before, Text.byteLength before⟩

lemma Text.byteOffset_lineStarts (before after : List Char) :
    byteOffset (lineStarts (before ++ after)) (before.count '\n') (column before) = byteLength before := by
  obtain ⟨lines, last, rfl, hl, hn⟩ := exists_last_line before
  rw [List.count_append, List.count_eq_zero_of_not_mem hn, Nat.add_zero, column_append lines hn, hl,
    List.append_assoc, byteOffset, getElem?_lineStarts hl, Nat.zero_add]
  simp [advance_eq]

end GraphQLTree
