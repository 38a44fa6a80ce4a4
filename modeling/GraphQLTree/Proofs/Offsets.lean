import GraphQLTree.Proofs.Positions
import GraphQLTree.Source.Conversion
import Mathlib.Algebra.GroupWithZero.Nat
import Mathlib.Data.Prod.Lex

/-! The byte offsets of marks. The mark of a place in a line is read back from its offset. A column that
runs past the end of its line is counted on over the lines that follow, so that offsets keep the order of
their marks only as far as this count does. -/

namespace GraphQLTree

namespace Text

variable {text before after line : List Char} {k i j : Nat}

def lengthBefore (text : List Char) (k : Nat) : Nat :=
  (((splitOn '\n' text).take k).map (·.length + 1)).sum

lemma splitOn_cons_newline (cs : List Char) : splitOn '\n' ('\n' :: cs) = [] :: splitOn '\n' cs := by
  rw [splitOn, if_pos rfl]

lemma exists_splitOn_cons {c : Char} (hc : c ≠ '\n') (cs : List Char) :
    ∃ line lines, splitOn '\n' cs = line :: lines ∧ splitOn '\n' (c :: cs) = (c :: line) :: lines := by
  obtain ⟨line, lines, h⟩ := List.exists_cons_of_ne_nil (splitOn_ne_nil '\n' cs)
  refine ⟨line, lines, h, ?_⟩
  rw [splitOn, if_neg hc, h]

lemma lengthBefore_cons_newline (cs : List Char) (k : Nat) :
    lengthBefore ('\n' :: cs) (k + 1) = lengthBefore cs k + 1 := by
  rw [lengthBefore, splitOn_cons_newline, List.take_succ_cons, List.map_cons, List.sum_cons, lengthBefore]
  simp only [List.length_nil]
  omega

lemma lengthBefore_cons_of_ne {c : Char} (hc : c ≠ '\n') (cs : List Char) (k : Nat) :
    lengthBefore (c :: cs) (k + 1) = lengthBefore cs (k + 1) + 1 := by
  obtain ⟨line, lines, h, hs⟩ := exists_splitOn_cons hc cs
  simp only [lengthBefore, h, hs, List.take_succ_cons, List.map_cons, List.sum_cons, List.length_cons]
  omega

/-- The text divided at the ends of a line that has `k` newlines before it. -/
structure LineAt (text : List Char) (k : Nat) (before line after : List Char) : Prop where
  text_eq : text = before ++ (line ++ after)
  count_eq : before.count '\n' = k
  column_eq : column before = 0
  length_eq : before.length = lengthBefore text k
  not_mem : '\n' ∉ line

lemma column_cons_of_eq_zero (c : Char) (h : column before = 0) (hc : c = '\n' ∨ '\n' ∈ before) :
    column (c :: before) = 0 := by
  by_cases hb : '\n' ∈ before
  · exact (column_append_of_mem [c] hb).trans h
  · have hl : before.length = 0 := (column_of_not_mem hb).symm.trans h
    obtain rfl := List.eq_nil_of_length_eq_zero hl
    obtain rfl := hc.resolve_right hb
    rfl

namespace LineAt

variable {c : Char}

lemma empty (after : List Char) : LineAt after 0 [] [] after :=
  ⟨rfl, rfl, rfl, rfl, List.not_mem_nil⟩

lemma cons_newline (h : LineAt text k before line after) :
    LineAt ('\n' :: text) (k + 1) ('\n' :: before) line after where
  text_eq := congrArg _ h.text_eq
  count_eq := by rw [List.count_cons_self, h.count_eq]
  column_eq := column_cons_of_eq_zero '\n' h.column_eq (.inl rfl)
  length_eq := by rw [List.length_cons, h.length_eq, lengthBefore_cons_newline]
  not_mem := h.not_mem

lemma cons_first (hc : c ≠ '\n') (h : LineAt text 0 before line after) :
    LineAt (c :: text) 0 [] (c :: line) after := by
  obtain rfl : before = [] := List.eq_nil_of_length_eq_zero h.length_eq
  refine ⟨congrArg _ h.text_eq, rfl, rfl, rfl, ?_⟩
  exact List.not_mem_cons_of_ne_of_not_mem (Ne.symm hc) h.not_mem

lemma cons_later (hc : c ≠ '\n') (h : LineAt text (k + 1) before line after) :
    LineAt (c :: text) (k + 1) (c :: before) line after := by
  have hm : '\n' ∈ before := by
    apply List.count_pos_iff.mp
    rw [h.count_eq]
    exact k.succ_pos
  refine ⟨congrArg _ h.text_eq, ?_, ?_, ?_, h.not_mem⟩
  · rw [List.count_cons_of_ne hc, h.count_eq]
  · exact column_cons_of_eq_zero c h.column_eq (.inr hm)
  · rw [List.length_cons, h.length_eq, lengthBefore_cons_of_ne hc]

end LineAt

lemma exists_lineAt (h : (splitOn '\n' text)[k]? = some line) :
    ∃ before after, LineAt text k before line after := by
  induction text generalizing k line with
  | nil =>
    cases k with
    | zero =>
      obtain rfl : [] = line := Option.some.inj h
      exact ⟨[], [], .empty []⟩
    | succ k => simp [splitOn] at h
  | cons c cs ih =>
    by_cases hc : c = '\n'
    · subst hc
      rw [splitOn_cons_newline] at h
      cases k with
      | zero =>
        obtain rfl : [] = line := Option.some.inj h
        exact ⟨[], '\n' :: cs, .empty _⟩
      | succ k =>
        obtain ⟨before, after, ha⟩ := ih h
        exact ⟨'\n' :: before, after, ha.cons_newline⟩
    · obtain ⟨first, lines, hs, hcs⟩ := exists_splitOn_cons hc cs
      rw [hcs] at h
      cases k with
      | zero =>
        obtain rfl : c :: first = line := Option.some.inj h
        have h0 : (splitOn '\n' cs)[0]? = some first := by rw [hs]; rfl
        obtain ⟨before, after, ha⟩ := ih h0
        exact ⟨[], after, ha.cons_first hc⟩
      | succ k =>
        have hk : (splitOn '\n' cs)[k + 1]? = some line := by rw [hs]; exact h
        obtain ⟨before, after, ha⟩ := ih hk
        exact ⟨c :: before, after, ha.cons_later hc⟩

lemma byteOffset_eq_take (h : (splitOn '\n' text)[k]? = some line) (column : Nat) :
    byteOffset (lineStarts text) k column = byteLength (text.take (lengthBefore text k + column)) := by
  obtain ⟨before, after, ha⟩ := exists_lineAt h
  have hs : (lineStarts text)[k]? = some ⟨byteLength before, line ++ after⟩ := by
    rw [ha.text_eq, ← ha.count_eq]
    exact getElem?_lineStarts ha.column_eq
  have ht : text.take (lengthBefore text k + column) = before ++ (line ++ after).take column := by
    rw [← ha.length_eq, ha.text_eq]
    exact List.take_length_add_append column
  rw [byteOffset, hs, ht, byteLength_append]
  exact advance_eq ..

lemma byteLength_take_le_iff {cs : List Char} :
    byteLength (cs.take i) ≤ byteLength (cs.take j) ↔ i ≤ j ∨ cs.length ≤ j := by
  induction cs generalizing i j with
  | nil => simp
  | cons c cs ih =>
    have hc := c.utf8Size_pos
    cases i with
    | zero => simp [byteLength]
    | succ i =>
      cases j with
      | zero => simp [byteLength]; omega
      | succ j =>
        simp only [List.take_succ_cons, byteLength, Nat.add_le_add_iff_left, ih, List.length_cons,
          Nat.add_le_add_iff_right]

lemma lengthBefore_add_one (h : (splitOn '\n' text)[k]? = some line) :
    lengthBefore text (k + 1) = lengthBefore text k + (line.length + 1) := by
  simp [lengthBefore, List.take_add_one, h]

lemma monotone_lengthBefore (text : List Char) : Monotone (lengthBefore text) := by
  refine monotone_nat_of_le_succ fun k => ?_
  rw [lengthBefore, lengthBefore, List.take_add_one, List.map_append, List.sum_append]
  exact Nat.le_add_right _ _

lemma lengthBefore_length (text : List Char) :
    lengthBefore text (splitOn '\n' text).length = text.length + 1 := by
  induction text with
  | nil => rfl
  | cons c cs ih =>
    by_cases hc : c = '\n'
    · subst hc
      rw [splitOn_cons_newline, List.length_cons, lengthBefore_cons_newline, ih, List.length_cons]
    · obtain ⟨line, lines, h, hs⟩ := exists_splitOn_cons hc cs
      rw [h, List.length_cons] at ih
      rw [hs, List.length_cons, lengthBefore_cons_of_ne hc, ih, List.length_cons]

lemma length_le_lineEnd_iff (h : (splitOn '\n' text)[k]? = some line) :
    text.length ≤ lengthBefore text k + line.length ↔ k + 1 = (splitOn '\n' text).length := by
  have hl := lengthBefore_length text
  have hn := lengthBefore_add_one h
  constructor
  · intro hle
    obtain ⟨hk, -⟩ := List.getElem?_eq_some_iff.mp h
    by_contra hne
    -- Then there is a line after it, and what is in front of that line is longer than the text.
    obtain ⟨next, hnext⟩ : ∃ next, (splitOn '\n' text)[k + 1]? = some next :=
      ⟨_, List.getElem?_eq_getElem (by omega)⟩
    have hm := monotone_lengthBefore text (show k + 1 + 1 ≤ (splitOn '\n' text).length by omega)
    rw [lengthBefore_add_one hnext, hn, hl] at hm
    omega
  · intro hk
    rw [hk, hl] at hn
    omega

def upTo : Nat → List Char → List Char
  | _, [] => []
  | offset, c :: cs => if c.utf8Size ≤ offset then c :: upTo (offset - c.utf8Size) cs else []

lemma upTo_byteLength (before after : List Char) : upTo (byteLength before) (before ++ after) = before := by
  induction before with
  | nil =>
    cases after with
    | nil => rfl
    | cons c cs =>
      have hc : ¬ c.utf8Size ≤ 0 := Nat.not_le_of_gt c.utf8Size_pos
      rw [List.nil_append, byteLength, upTo, if_neg hc]
  | cons c cs ih =>
    have hc : c.utf8Size ≤ c.utf8Size + byteLength cs := Nat.le_add_right _ _
    rw [List.cons_append, byteLength, upTo, if_pos hc, Nat.add_sub_cancel_left, ih]

lemma utf8ByteSize_ofList (cs : List Char) : (String.ofList cs).utf8ByteSize = byteLength cs := by
  induction cs with
  | nil => rfl
  | cons c cs ih =>
    rw [byteLength, ← ih, ← List.singleton_append, String.ofList_append, String.utf8ByteSize_append,
      ← String.singleton_eq_ofList, String.utf8ByteSize_singleton]

lemma isValid_byteLength {s : String} (h : s.toList = before ++ after) :
    (⟨byteLength before⟩ : String.Pos.Raw).IsValid s := by
  apply String.Pos.Raw.isValid_iff_exists_append.mpr
  refine ⟨.ofList before, .ofList after, ?_, ?_⟩
  · rw [← String.ofList_append, ← h, String.ofList_toList]
  · exact String.Pos.Raw.ext (utf8ByteSize_ofList before).symm

end Text

namespace Source

variable {s : String} {m m' : Mark} {l l' : List Char}

def Mark.key (m : Mark) : ℕ ×ₗ ℕ :=
  toLex (m.line, m.column)

lemma Mark.key_le_key : m.key ≤ m'.key ↔ m.line < m'.line ∨ m.line = m'.line ∧ m.column ≤ m'.column :=
  Prod.Lex.toLex_le_toLex

def Mark.offset (s : String) (m : Mark) : Nat :=
  (m.location (.ofText s)).start.byteOffset

structure Mark.OnLine (s : String) (m : Mark) (l : List Char) : Prop where
  one_le_line : 1 ≤ m.line
  getElem?_eq : (Text.splitOn '\n' s.toList)[m.line - 1]? = some l

/-- The mark of a character of a line, or of the end of that line. -/
def Mark.Inside (s : String) (m : Mark) : Prop :=
  1 ≤ m.column ∧ ∃ l, m.OnLine s l ∧ m.column - 1 ≤ l.length

def Mark.ofOffset (s : String) (offset : Nat) : Mark :=
  let p := Position.after (Text.upTo offset s.toList)
  ⟨p.line + 1, p.column + 1⟩

structure Mark.Divides (m : Mark) (text before after : List Char) : Prop where
  text_eq : text = before ++ after
  line_eq : before.count '\n' = m.line - 1
  column_eq : Text.column before = m.column - 1

variable {before after : List Char}

lemma Mark.Inside.exists_divides (h : m.Inside s) : ∃ before after, m.Divides s.toList before after := by
  obtain ⟨-, l, hl, hc⟩ := h
  obtain ⟨before, after, ha⟩ := Text.exists_lineAt hl.getElem?_eq
  have hn : '\n' ∉ l.take (m.column - 1) := fun hm => ha.not_mem (List.mem_of_mem_take hm)
  refine ⟨before ++ l.take (m.column - 1), l.drop (m.column - 1) ++ after, ?_, ?_, ?_⟩
  · rw [ha.text_eq, List.append_assoc, ← List.append_assoc (l.take _), List.take_append_drop]
  · rw [List.count_append, ha.count_eq, List.count_eq_zero_of_not_mem hn, Nat.add_zero]
  · rw [Text.column_append before hn, ha.column_eq, List.length_take, Nat.min_eq_left hc, Nat.zero_add]

lemma Mark.Divides.offset_eq (h : m.Divides s.toList before after) : m.offset s = Text.byteLength before := by
  rw [Mark.offset, Mark.location, Lines.ofText, h.text_eq, ← h.line_eq, ← h.column_eq]
  exact Text.byteOffset_lineStarts before after

lemma Mark.Divides.ofOffset_eq (h : m.Divides s.toList before after) (hline : 1 ≤ m.line)
    (hcolumn : 1 ≤ m.column) : Mark.ofOffset s (m.offset s) = m := by
  have hp : Text.upTo (m.offset s) s.toList = before := by
    rw [h.offset_eq, h.text_eq, Text.upTo_byteLength]
  rw [Mark.ofOffset, hp, Position.after, h.line_eq, h.column_eq, Nat.sub_add_cancel hline,
    Nat.sub_add_cancel hcolumn]

lemma Mark.Inside.ofOffset_eq (h : m.Inside s) : Mark.ofOffset s (m.offset s) = m := by
  obtain ⟨before, after, hd⟩ := h.exists_divides
  obtain ⟨hcolumn, l, hl, -⟩ := h
  exact hd.ofOffset_eq hl.one_le_line hcolumn

/-- A mark in a text is the place that its byte offset decodes to, and no other mark has that offset. -/
theorem Mark.offset_of_inside (h : m.Inside s) :
    (⟨m.offset s⟩ : String.Pos.Raw).IsValid s ∧ m.offset s ≤ s.utf8ByteSize ∧
      (∃ before after, s.toList = before ++ after ∧ m.offset s = Text.byteLength before ∧
        before.count '\n' = m.line - 1 ∧ Text.column before = m.column - 1) ∧
      Mark.ofOffset s (m.offset s) = m ∧ ∀ m' : Mark, m'.Inside s → m'.offset s = m.offset s → m' = m := by
  obtain ⟨before, after, hd⟩ := h.exists_divides
  have hvalid : (⟨m.offset s⟩ : String.Pos.Raw).IsValid s := by
    rw [hd.offset_eq]
    exact Text.isValid_byteLength hd.text_eq
  refine ⟨hvalid, hvalid.le_rawEndPos, ⟨before, after, hd.text_eq, hd.offset_eq, hd.line_eq, hd.column_eq⟩,
    h.ofOffset_eq, fun m' h' he => ?_⟩
  calc m' = Mark.ofOffset s (m'.offset s) := h'.ofOffset_eq.symm
    _ = Mark.ofOffset s (m.offset s) := by rw [he]
    _ = m := h.ofOffset_eq

-- Characters of two, three and four bytes and an empty line.
def wideLines : String := "ä€\n\n😀b\n"

theorem Mark.offset_of_inside_wideLines :
    (⟨3, 2⟩ : Mark).Inside wideLines ∧ (⟨11⟩ : String.Pos.Raw).IsValid wideLines ∧
      Mark.ofOffset wideLines 11 = ⟨3, 2⟩ ∧
      ∀ m : Mark, m.Inside wideLines → m.offset wideLines = 11 → m = ⟨3, 2⟩ := by
  have h : (⟨3, 2⟩ : Mark).Inside wideLines := ⟨by decide, ['😀', 'b'], ⟨by decide, rfl⟩, by decide⟩
  obtain ⟨hvalid, -, -, hdecode, honly⟩ := Mark.offset_of_inside h
  exact ⟨h, hvalid, hdecode, honly⟩

/-- The characters in front of a mark when those of its column are counted on over the end of its line. -/
def Mark.index (s : String) (m : Mark) : Nat :=
  Text.lengthBefore s.toList (m.line - 1) + (m.column - 1)

def Mark.endOfLine (m : Mark) (l : List Char) : Mark :=
  ⟨m.line, l.length + 1⟩

namespace Mark.OnLine

lemma endOfLine (h : m.OnLine s l) : (m.endOfLine l).OnLine s l :=
  ⟨h.one_le_line, h.getElem?_eq⟩

lemma offset_eq (h : m.OnLine s l) : m.offset s = Text.byteLength (s.toList.take (m.index s)) :=
  Text.byteOffset_eq_take h.getElem?_eq _

lemma offset_le_iff (h : m.OnLine s l) (h' : m'.OnLine s l') :
    m.offset s ≤ m'.offset s ↔ m.index s ≤ m'.index s ∨ s.length ≤ m'.index s := by
  rw [h.offset_eq, h'.offset_eq, Text.byteLength_take_le_iff, String.length_toList]

lemma offset_le_endOfLine_iff (h : m.OnLine s l) :
    m.offset s ≤ (m.endOfLine l).offset s ↔
      m.column - 1 ≤ l.length ∨ m.line = (Text.splitOn '\n' s.toList).length := by
  have hend := Text.length_le_lineEnd_iff h.getElem?_eq
  rw [String.length_toList, Nat.sub_add_cancel h.one_le_line] at hend
  rw [h.offset_le_iff h.endOfLine, ← hend]
  simp only [index, Mark.endOfLine, Nat.add_sub_cancel, Nat.add_le_add_iff_left]

lemma index_le_index (h : m.OnLine s l) (hkey : m.key ≤ m'.key)
    (hc : m.line = m'.line ∨ m.column - 1 ≤ l.length) : m.index s ≤ m'.index s := by
  have hnext := Text.lengthBefore_add_one h.getElem?_eq
  rcases Mark.key_le_key.mp hkey with hlt | ⟨heq, hle⟩
  · have hcolumn : m.column - 1 ≤ l.length := hc.resolve_left hlt.ne
    have hline : m.line - 1 + 1 ≤ m'.line - 1 := by have := h.one_le_line; omega
    have hm := Text.monotone_lengthBefore s.toList hline
    rw [index, index]
    omega
  · rw [index, index, heq]
    omega

end Mark.OnLine

/-- The offsets of two marks are in order when the columns, counted on over the ends of their lines, are, and
when the second one is past the end of the text. Counted so, a column can lead into a later line. -/
theorem Mark.offset_le_offset_iff (h : m.OnLine s l) (h' : m'.OnLine s l') :
    (m.offset s ≤ m'.offset s ↔ m.index s ≤ m'.index s ∨ s.length ≤ m'.index s) ∧
      (m.offset s ≤ (m.endOfLine l).offset s ↔
        m.column - 1 ≤ l.length ∨ m.line = (Text.splitOn '\n' s.toList).length) ∧
      (m.key ≤ m'.key → m.line = m'.line ∨ m.column - 1 ≤ l.length → m.offset s ≤ m'.offset s) := by
  refine ⟨h.offset_le_iff h', h.offset_le_endOfLine_iff, fun hkey hc => ?_⟩
  exact (h.offset_le_iff h').mpr (.inl (h.index_le_index hkey hc))

-- Two fields; the first has its column counted with eight for each of the tabs.
def indented : String := "\x7b\t\ta\n b\x7d"

theorem Mark.offset_le_offset_iff_indented :
    (⟨1, 18⟩ : Mark).OnLine indented ['\x7b', '\t', '\t', 'a'] ∧
      (⟨2, 2⟩ : Mark).OnLine indented [' ', 'b', '\x7d'] ∧
      ¬ (⟨1, 18⟩ : Mark).offset indented ≤ (⟨2, 2⟩ : Mark).offset indented ∧
      ¬ (⟨1, 18⟩ : Mark).offset indented ≤ (⟨1, 5⟩ : Mark).offset indented ∧
      (⟨1, 5⟩ : Mark).offset indented ≤ (⟨2, 2⟩ : Mark).offset indented := by
  have htab : (⟨1, 18⟩ : Mark).OnLine indented ['\x7b', '\t', '\t', 'a'] := ⟨by decide, rfl⟩
  have hend : (⟨1, 5⟩ : Mark).OnLine indented ['\x7b', '\t', '\t', 'a'] := ⟨by decide, rfl⟩
  have hb : (⟨2, 2⟩ : Mark).OnLine indented [' ', 'b', '\x7d'] := ⟨by decide, rfl⟩
  obtain ⟨hle, hline, -⟩ := Mark.offset_le_offset_iff htab hb
  refine ⟨htab, hb, hle.not.mpr (by decide), hline.not.mpr (by decide), ?_⟩
  exact (Mark.offset_le_offset_iff hend hb).2.2 (by decide) (.inr (by decide))

theorem Mark.offsets_of_indented :
    ¬ ∀ (s : String) (m m' : Mark) (l l' : List Char), m.OnLine s l → m'.OnLine s l' → m.key ≤ m'.key →
      m.offset s ≤ m'.offset s ∧ m.offset s ≤ (m.endOfLine l).offset s := by
  intro h
  obtain ⟨hle, -⟩ := h indented ⟨1, 18⟩ ⟨2, 2⟩ _ _ ⟨by decide, rfl⟩ ⟨by decide, rfl⟩ (by decide)
  exact absurd hle (by decide)

end Source

end GraphQLTree
