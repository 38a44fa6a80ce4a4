import GraphQLTree.Proofs.Lexing.Pieces
import GraphQLTree.Proofs.Positions

/-! How far the mark of a token is off its place. A tab counts as eight columns, a byte order mark and a
carriage return as none, and a carriage return at the end of a comment as a newline. What columns are
off by this adds up until the next newline; a line too many stays. -/

namespace GraphQLTree.Source

/-- Lines and columns of a mark beyond those of its place. -/
structure Drift where
  lines : Nat
  columns : Int
deriving DecidableEq, Repr

namespace Drift

def skip (d : Drift) : List Char → Drift
  | '\t' :: _ => ⟨d.lines, d.columns + 7⟩
  | '\uFEFF' :: _ | '\r' :: _ => ⟨d.lines, d.columns - 1⟩
  | '\n' :: _ => ⟨d.lines, 0⟩
  -- A carriage return that ends a comment starts a line that the text does not have.
  | '#' :: comment => if comment.getLast? = some '\r' then ⟨d.lines + 1, d.columns⟩ else ⟨d.lines, 0⟩
  | _ => d

def take (d : Drift) (piece : List Char) : Drift :=
  if '\n' ∈ piece then ⟨d.lines, 0⟩ else d

end Drift

namespace Lexer

/-- Reading a text from its start comes to `rest`, with the text before it read and the mark off by a
drift. -/
inductive Reaches (text : List Char) : List Char → Drift → Rest → Prop
  | start : Reaches text [] ⟨0, 0⟩ ⟨.start, text⟩
  | skip {before piece cs : List Char} {d : Drift} {m : Mark} {c : Char} {rest : Rest} :
      Reaches text before d ⟨m, c :: cs⟩ → skip? m c cs = some rest → c :: cs = piece ++ rest.text →
      Reaches text (before ++ piece) (d.skip piece) rest
  | token {before piece cs : List Char} {d : Drift} {m : Mark} {c : Char} {t : Token} {rest : Rest} :
      Reaches text before d ⟨m, c :: cs⟩ → skip? m c cs = none → token? m c cs = some (t, rest) →
      c :: cs = piece ++ rest.text → Reaches text (before ++ piece) (d.take piece) rest

variable {text before piece cs : List Char} {d : Drift} {m : Mark} {c : Char} {rest : Rest}

lemma Reaches.text_eq (h : Reaches text before d rest) : text = before ++ rest.text := by
  induction h with
  | start => rfl
  | skip _ _ hp ih | token _ _ _ hp ih => rw [ih, hp, List.append_assoc]

lemma skipComment_eq (m : Mark) (cs : List Char) :
    (skipComment m cs).text = [] ∨
      ∃ comment stop, '\n' ∉ comment ∧ (stop = '\n' ∨ stop = '\r') ∧
        cs = comment ++ stop :: (skipComment m cs).text ∧ (skipComment m cs).mark = m.nextLine := by
  cases hd : cs.dropWhile (!endsComment ·) with
  | nil => exact .inl (by rw [skipComment, hd])
  | cons stop after =>
    refine .inr ⟨cs.takeWhile (!endsComment ·), stop, newline_not_mem_takeWhile (by decide) cs, ?_, ?_, ?_⟩
    · have hs : endsComment stop = true := by
        simpa [hd] using List.head?_dropWhile_not (!endsComment ·) cs
      simpa [endsComment] using hs
    · simp only [skipComment, hd]
      rw [← hd, List.takeWhile_append_dropWhile]
    · rw [skipComment, hd]

structure Fits (before : List Char) (d : Drift) (m : Mark) : Prop where
  line : m.line = before.count '\n' + 1 + d.lines
  column_pos : 0 < m.column
  -- Once there is a line too many, the columns of mark and place belong to different lines.
  column : d.lines = 0 → (m.column : Int) = Text.column before + 1 + d.columns

lemma Fits.start : Fits [] ⟨0, 0⟩ .start :=
  ⟨rfl, Nat.one_pos, fun _ => rfl⟩

lemma Fits.forward (hf : Fits before d m) (hn : '\n' ∉ piece) (width : Nat) {columns : Int}
    (hw : columns = d.columns + width - piece.length) :
    Fits (before ++ piece) ⟨d.lines, columns⟩ (m.forward width) where
  line := by rw [List.count_append, List.count_eq_zero_of_not_mem hn, Nat.add_zero]; exact hf.line
  column_pos := Nat.add_pos_left hf.column_pos width
  column h := by
    have hc := hf.column h
    rw [Text.column_append before hn]
    simp only [Mark.forward, Int.natCast_add]
    omega

lemma Fits.newline (hf : Fits before d m) (hn : '\n' ∈ piece) :
    Fits (before ++ piece) ⟨d.lines, 0⟩ ⟨m.line + piece.count '\n', Text.column piece + 1⟩ where
  line := by
    have hl := hf.line
    rw [List.count_append]
    simp only
    omega
  column_pos := Nat.succ_pos _
  column _ := by simp [Text.column_append_of_mem before hn]

lemma Fits.lineTooMany (hf : Fits before d m) (hn : '\n' ∉ piece) :
    Fits (before ++ piece) ⟨d.lines + 1, d.columns⟩ m.nextLine where
  line := by
    have hl := hf.line
    rw [List.count_append, List.count_eq_zero_of_not_mem hn]
    simp only [Mark.nextLine]
    omega
  column_pos := Nat.one_pos
  column h := absurd h (Nat.succ_ne_zero _)

lemma Fits.comment {comment : List Char} {stop : Char} (hf : Fits before d m) (hn : '\n' ∉ comment)
    (hs : stop = '\n' ∨ stop = '\r') :
    Fits (before ++ '#' :: (comment ++ [stop])) (d.skip ('#' :: (comment ++ [stop]))) m.nextLine := by
  simp only [Drift.skip, List.getLast?_concat]
  rcases hs with rfl | rfl
  · have hc : ('#' :: (comment ++ ['\n'])).count '\n' = 1 := by
      simp [List.count_eq_zero_of_not_mem hn]
    have hz : Text.column ('#' :: (comment ++ ['\n'])) = 0 := Text.column_newline ('#' :: comment)
    have hfits := hf.newline (List.count_pos_iff.mp (hc ▸ Nat.one_pos))
    rwa [hc, hz] at hfits
  · exact hf.lineTooMany (by simp [hn])

lemma Fits.skip (hf : Fits before d m) (hs : skip? m c cs = some rest) (hp : c :: cs = piece ++ rest.text)
    (hr : rest.text ≠ []) : Fits (before ++ piece) (d.skip piece) rest.mark := by
  -- All but a comment are pieces of one character.
  have single : rest.text = cs → piece = [c] := fun h =>
    List.append_cancel_right (hp.symm.trans (h ▸ List.singleton_append.symm))
  fun_cases skip? m c cs with
  | case1 | case2 =>
    obtain rfl := Option.some.inj hs
    obtain rfl := single rfl
    exact hf.forward (by decide) 0 (by simp)
  | case3 | case4 =>
    obtain rfl := Option.some.inj hs
    obtain rfl := single rfl
    exact hf.forward (by decide) 1 (by simp)
  | case5 =>
    obtain rfl := Option.some.inj hs
    obtain rfl := single rfl
    exact hf.forward (by decide) 8 (by simp; omega)
  | case6 =>
    obtain rfl := Option.some.inj hs
    obtain rfl := single rfl
    exact hf.newline (List.mem_singleton_self _)
  | case7 =>
    obtain rfl := Option.some.inj hs
    rcases skipComment_eq m cs with h | ⟨comment, stop, hn, hstop, hcs, hm⟩
    · exact absurd h hr
    · have hpiece : piece = '#' :: (comment ++ [stop]) := by
        refine List.append_cancel_right (hp.symm.trans ?_)
        simpa using congrArg ('#' :: ·) hcs
      rw [hpiece, hm]
      exact hf.comment hn hstop
  | case8 => simp_all [skip?]

lemma Fits.take (hf : Fits before d m) (piece : List Char) :
    Fits (before ++ piece) (d.take piece) (m.past piece) := by
  by_cases hn : '\n' ∈ piece
  · rw [Drift.take, Mark.past, if_pos hn, if_pos hn]
    exact hf.newline hn
  · rw [Drift.take, Mark.past, if_neg hn, if_neg hn]
    exact hf.forward hn piece.length (by omega)

lemma Reaches.fits (h : Reaches text before d rest) (hr : rest.text ≠ []) : Fits before d rest.mark := by
  -- After a comment that nothing ends there is no more text, so the mark may stay where it was.
  induction h with
  | start => exact .start
  | skip _ hs hp ih => exact (ih (List.cons_ne_nil _ _)).skip hs hp hr
  | token _ _ ht hp ih =>
    obtain ⟨piece, hpiece⟩ := token?_takes ht
    obtain rfl := List.append_cancel_right (hp.symm.trans hpiece.text)
    rw [hpiece.mark]
    exact (ih (List.cons_ne_nil _ _)).take _

def IsPlain (cs : List Char) : Prop :=
  ∀ c ∈ cs, c ≠ '\t' ∧ c ≠ '\uFEFF' ∧ c ≠ '\r'

lemma skip_zero_of_isPlain (h : IsPlain piece) : Drift.skip ⟨0, 0⟩ piece = ⟨0, 0⟩ := by
  fun_cases Drift.skip ⟨0, 0⟩ piece with
  | case1 => exact absurd rfl (h _ List.mem_cons_self).1
  | case2 => exact absurd rfl (h _ List.mem_cons_self).2.1
  | case3 => exact absurd rfl (h _ List.mem_cons_self).2.2
  | case5 comment hl => exact absurd rfl (h _ (List.mem_cons_of_mem _ (List.mem_of_getLast? hl))).2.2
  | case4 | case6 | case7 => rfl

lemma Reaches.drift_eq_zero (h : Reaches text before d rest) (hb : IsPlain before) : d = ⟨0, 0⟩ := by
  induction h with
  | start => rfl
  | skip _ _ _ ih =>
    obtain ⟨hb, hpiece⟩ := List.forall_mem_append.mp hb
    rw [ih hb]
    exact skip_zero_of_isPlain hpiece
  | token _ _ _ _ ih =>
    rw [ih (List.forall_mem_append.mp hb).1]
    exact ite_self _

lemma skip?_suffix (h : skip? m c cs = some rest) : ∃ piece, c :: cs = piece ++ rest.text := by
  fun_cases skip? m c cs with
  | case1 | case2 | case3 | case4 | case5 | case6 =>
    obtain rfl := Option.some.inj h
    exact ⟨[_], rfl⟩
  | case7 =>
    obtain rfl := Option.some.inj h
    rcases skipComment_eq m cs with h | ⟨comment, stop, -, -, hcs, -⟩
    · exact ⟨_, by rw [h, List.append_nil]⟩
    · exact ⟨'#' :: (comment ++ [stop]), by simpa using congrArg ('#' :: ·) hcs⟩
  | case8 => simp_all [skip?]

lemma Reaches.of_mem_scan {t : Lexeme} (fuel : Nat) (h : Reaches text before d rest) (ht : t ∈ scan fuel rest) :
    ∃ before d after, Reaches text before d ⟨t.mark, after⟩ ∧ after ≠ [] ∧
      ∀ w ∈ t.token.text?, w ≠ [] ∧ w <+: after := by
  -- One case for each way to go on or to end; an unknown token may be written in any way.
  fun_induction scan fuel rest generalizing before d with
  | case1 => exact absurd ht List.not_mem_nil
  | case2 m c cs =>
    obtain rfl := List.mem_singleton.mp ht
    exact ⟨before, d, c :: cs, h, List.cons_ne_nil _ _, nofun⟩
  | case3 fuel m c cs rest hs ih =>
    obtain ⟨piece, hp⟩ := skip?_suffix hs
    exact ih (h.skip hs hp) ht
  | case4 fuel m c cs hs token rest hk ih =>
    obtain ⟨piece, hp⟩ := token?_takes hk
    rcases List.mem_cons.mp ht with rfl | ht
    · refine ⟨before, d, c :: cs, h, List.cons_ne_nil _ _, fun w hw => ?_⟩
      rw [hp.written w hw, hp.text]
      exact ⟨hp.ne_nil, List.prefix_append _ _⟩
    · exact ih (h.token hs hk hp.text) ht
  | case5 fuel m c cs hs hk =>
    obtain rfl := List.mem_singleton.mp ht
    exact ⟨before, d, c :: cs, h, List.cons_ne_nil _ _, nofun⟩

end Lexer

end GraphQLTree.Source
