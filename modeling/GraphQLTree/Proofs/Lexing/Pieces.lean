import GraphQLTree.Source.Lexer
import Mathlib.Data.List.TakeDrop
import Mathlib.Data.List.TakeWhile
import Mathlib.Tactic.Lemma

namespace GraphQLTree.Source

namespace Quoted

lemma close?_eq_some {cs content rest : List Char} (h : close? cs = some (content, rest)) :
    cs = content ++ '"' :: rest ∧ '\n' ∉ content := by
  fun_induction close? cs generalizing content with
  | case1 | case3 | case4 => simp at h
  | case2 cs =>
    obtain ⟨rfl, rfl⟩ := Prod.mk.inj (Option.some.inj h)
    exact ⟨rfl, List.not_mem_nil⟩
  | case5 c cs hc ih =>
    obtain ⟨⟨inner, _⟩, hi, he⟩ := Option.map_eq_some_iff.mp h
    obtain ⟨rfl, rfl⟩ := Prod.mk.inj he
    obtain ⟨rfl, hn⟩ := ih hi
    exact ⟨rfl, by simp [hn, Ne.symm hc]⟩
  | case6 c cs _ hc _ _ ih =>
    obtain ⟨⟨inner, _⟩, hi, he⟩ := Option.map_eq_some_iff.mp h
    obtain ⟨rfl, rfl⟩ := Prod.mk.inj he
    obtain ⟨rfl, hn⟩ := ih hi
    exact ⟨rfl, by simp [hn, Ne.symm hc]⟩

lemma closeBlock?_eq_some {escaped : Bool} {cs content rest : List Char}
    (h : closeBlock? escaped cs = some (content, rest)) : cs = content ++ ['"', '"', '"'] ++ rest := by
  fun_induction closeBlock? escaped cs generalizing content with
  | case1 cs ih | case3 escaped c cs _ _ ih =>
    obtain ⟨⟨inner, _⟩, hi, he⟩ := Option.map_eq_some_iff.mp h
    obtain ⟨rfl, rfl⟩ := Prod.mk.inj he
    rw [ih hi]
    rfl
  | case2 cs =>
    obtain ⟨rfl, rfl⟩ := Prod.mk.inj (Option.some.inj h)
    rfl
  | case4 => simp at h

end Quoted

namespace Numeral

def IsNarrow (cs : List Char) : Prop :=
  ∀ c ∈ cs, c.utf8Size = 1

lemma IsNarrow.byteLength {cs : List Char} (h : IsNarrow cs) : Text.byteLength cs = cs.length := by
  induction cs with
  | nil => rfl
  | cons c cs ih =>
    obtain ⟨hc, hcs⟩ := List.forall_mem_cons.mp h
    rw [Text.byteLength, hc, ih hcs, List.length_cons, Nat.add_comm]

lemma IsNarrow.cons {c : Char} {cs : List Char} (hc : c.utf8Size = 1) (h : IsNarrow cs) : IsNarrow (c :: cs) :=
  List.forall_mem_cons.mpr ⟨hc, h⟩

lemma IsNarrow.append {cs ds : List Char} (hc : IsNarrow cs) (hd : IsNarrow ds) : IsNarrow (cs ++ ds) :=
  List.forall_mem_append.mpr ⟨hc, hd⟩

lemma utf8Size_of_isDigit {c : Char} (h : c.isDigit = true) : c.utf8Size = 1 := by
  simp only [Char.isDigit, ge_iff_le, Bool.and_eq_true, decide_eq_true_eq] at h
  exact Char.utf8Size_eq_one_iff.mpr (UInt32.le_trans h.2 (by decide))

lemma IsNarrow.of_digits {cs : List Char} (h : cs.all Char.isDigit = true) : IsNarrow cs :=
  fun c hc => utf8Size_of_isDigit (List.all_eq_true.mp h c hc)

lemma isNatural_narrow {cs : List Char} (h : isInt.isNatural cs = true) : IsNarrow cs := by
  fun_cases isInt.isNatural cs with
  | case1 | case3 => simp_all [isInt.isNatural]
  | case2 => exact .cons (by decide) nofun
  | case4 h1 h2 h3 => exact .of_digits (by simpa [isInt.isNatural] using h)

lemma isInt_narrow {cs : List Char} (h : isInt cs = true) : IsNarrow cs := by
  fun_cases isInt cs with
  | case1 cs => exact .cons (by decide) (isNatural_narrow h)
  | case2 => exact isNatural_narrow (by simpa [isInt] using h)

lemma splitLast?_eq_some {p : Char → Bool} {cs before after : List Char}
    (h : splitLast? p cs = some (before, after)) : ∃ c, p c = true ∧ cs = before ++ c :: after := by
  rw [splitLast?, List.span_eq_takeWhile_dropWhile] at h
  split at h
  · simp at h
  · next late c early hs =>
    obtain ⟨ht, hd⟩ := Prod.mk.inj hs
    obtain ⟨rfl, rfl⟩ := Prod.mk.inj (Option.some.inj h)
    refine ⟨c, ?_, ?_⟩
    · have hc := List.head?_dropWhile_not (!p ·) cs.reverse
      simpa [hd] using hc
    · have hcs : late ++ c :: early = cs.reverse := by rw [← ht, ← hd, List.takeWhile_append_dropWhile]
      simpa using (congrArg List.reverse hcs).symm

lemma exponent?_narrow {cs : List Char} {n : Int} (h : exponent? cs = some n) : IsNarrow cs := by
  cases cs with
  | nil => exact nofun
  | cons c cs =>
    rw [exponent?] at h
    split at h
    · next hc =>
      split at h
      · next hds =>
        refine .cons ?_ (.of_digits hds.2)
        rcases Bool.or_eq_true_iff.mp hc with hc | hc <;> rw [of_decide_eq_true hc] <;> decide
      · simp at h
    · split at h
      · next hds =>
        exact .cons (Char.utf8Size_eq_one_iff.mpr (UInt32.le_trans hds.2.1 (by decide))) (.of_digits hds.2.2)
      · simp at h

lemma mantissa?_narrow {cs whole fraction : List Char} (h : mantissa? cs = some (whole, fraction)) :
    IsNarrow cs := by
  rw [mantissa?] at h
  split at h
  · split at h
    · next hi => exact isInt_narrow hi
    · simp at h
  · next w f hs =>
    obtain ⟨c, hc, rfl⟩ := splitLast?_eq_some hs
    split at h
    · next hf => exact (isInt_narrow hf.1).append (.cons (by rw [eq_of_beq hc]; decide) (.of_digits hf.2.2))
    · simp at h

lemma decimal?_narrow {cs : List Char} {x : Number.Decimal} (h : decimal? cs = some x) : IsNarrow cs := by
  rw [decimal?] at h
  split at h
  · obtain ⟨⟨whole, fraction⟩, hm, -⟩ := Option.bind_eq_some_iff.mp ((Option.bind_some _ _).symm.trans h)
    exact mantissa?_narrow hm
  · next before after hs =>
    obtain ⟨c, hc, rfl⟩ := splitLast?_eq_some hs
    obtain ⟨_, he, h⟩ := Option.bind_eq_some_iff.mp h
    obtain ⟨n, ha, rfl⟩ := Option.map_eq_some_iff.mp he
    obtain ⟨⟨whole, fraction⟩, hm, -⟩ := Option.bind_eq_some_iff.mp h
    refine (mantissa?_narrow hm).append (.cons ?_ (exponent?_narrow ha))
    rcases (Bool.or_eq_true _ _).mp hc with hc | hc <;> rw [eq_of_beq hc] <;> decide

lemma token?_narrow {cs : List Char} {t : Token} (h : token? cs = some t) : IsNarrow cs := by
  rw [token?] at h
  split at h
  · obtain ⟨x, hx, -⟩ := Option.map_eq_some_iff.mp h
    exact decimal?_narrow hx
  · obtain ⟨n, hn, -⟩ := Option.map_eq_some_iff.mp h
    rw [int?] at hn
    split at hn
    · next hi => exact isInt_narrow hi
    · simp at hn

end Numeral

def Punctuator.char : Punctuator → Char
  | .parenOpen => '('
  | .parenClose => ')'
  | .bracketOpen => '['
  | .bracketClose => ']'
  | .braceOpen => '{'
  | .braceClose => '}'
  | .bang => '!'
  | .dollar => '$'
  | .colon => ':'
  | .equals => '='
  | .at => '@'
  | .bar => '|'
  | .ampersand => '&'

def Token.text? : Token → Option (List Char)
  | .punctuator p => some [p.char]
  | .spread => some ['.', '.', '.']
  | .name s => some s.toList
  | _ => none

lemma Punctuator.char_of_ofChar? {c : Char} {p : Punctuator} (h : ofChar? c = some p) : p.char = c := by
  fun_cases ofChar? c
  all_goals
    simp only [ofChar?, Option.some.injEq, reduceCtorEq] at h
    try exact h ▸ rfl

lemma Numeral.token?_text? {cs : List Char} {t : Token} (h : token? cs = some t) : t.text? = none := by
  rw [token?] at h
  split at h
  · obtain ⟨x, -, rfl⟩ := Option.map_eq_some_iff.mp h
    rfl
  · obtain ⟨n, -, rfl⟩ := Option.map_eq_some_iff.mp h
    rfl

namespace Lexer

structure Takes (m : Mark) (cs : List Char) (t : Token) (rest : Rest) (piece : List Char) : Prop where
  ne_nil : piece ≠ []
  text : cs = piece ++ rest.text
  mark : rest.mark = m.past piece
  written : ∀ w ∈ t.text?, w = piece

lemma newline_not_mem_takeWhile {p : Char → Bool} (h : p '\n' = false) (cs : List Char) :
    '\n' ∉ cs.takeWhile p :=
  fun hn => Bool.false_ne_true (h.symm.trans (List.mem_takeWhile_imp hn))

lemma name_takes {c : Char} (hc : startsName c = true) (m : Mark) (cs : List Char) :
    Takes m (c :: cs) (name m (c :: cs)).1 (name m (c :: cs)).2 ((c :: cs).takeWhile continuesName) where
  ne_nil := by simp [continuesName, hc]
  text := List.takeWhile_append_dropWhile.symm
  mark := (if_neg (newline_not_mem_takeWhile (by decide) _)).symm
  written := by simp [name, Token.text?]

lemma numeral?_takes {m : Mark} {cs : List Char} {t : Token} {rest : Rest}
    (h : numeral? m cs = some (t, rest)) : Takes m cs t rest (cs.takeWhile (!endsNumeral ·)) := by
  obtain ⟨token, ht, he⟩ := Option.bind_eq_some_iff.mp h
  obtain ⟨rfl, rfl⟩ := Prod.mk.inj (Option.some.inj he)
  -- The mark moves by bytes; in a numeral these are as many as the characters.
  refine ⟨fun hnil => ?_, List.takeWhile_append_dropWhile.symm, ?_, ?_⟩
  · rw [hnil] at ht
    nomatch ht
  · rw [Mark.past, if_neg (newline_not_mem_takeWhile (by decide) cs), (Numeral.token?_narrow ht).byteLength]
  · rw [Numeral.token?_text? ht]
    exact nofun

lemma quoted?_takes {m : Mark} {cs : List Char} {t : Token} {rest : Rest} (h : quoted? m cs = some (t, rest)) :
    ∃ piece, Takes m ('"' :: cs) t rest piece := by
  obtain ⟨⟨content, after⟩, hc, he⟩ := Option.bind_eq_some_iff.mp h
  obtain ⟨text, -, he⟩ := Option.bind_eq_some_iff.mp he
  obtain ⟨rfl, rfl⟩ := Prod.mk.inj (Option.some.inj he)
  obtain ⟨rfl, hn⟩ := Quoted.close?_eq_some hc
  refine ⟨'"' :: (content ++ ['"']), List.cons_ne_nil _ _, ?_, ?_, nofun⟩
  · simp
  · rw [Mark.past, if_neg (by simp [hn])]
    simp

lemma block?_takes {m : Mark} {cs : List Char} {t : Token} {rest : Rest} (h : block? m cs = some (t, rest)) :
    ∃ piece, Takes m ('"' :: '"' :: '"' :: cs) t rest piece := by
  obtain ⟨⟨content, after⟩, hc, he⟩ := Option.bind_eq_some_iff.mp h
  obtain ⟨rfl, rfl⟩ := Prod.mk.inj (Option.some.inj he)
  obtain rfl := Quoted.closeBlock?_eq_some hc
  exact ⟨['"', '"', '"'] ++ content ++ ['"', '"', '"'], List.cons_ne_nil _ _, by simp, rfl, nofun⟩

lemma token?_takes {m : Mark} {c : Char} {cs : List Char} {t : Token} {rest : Rest}
    (h : token? m c cs = some (t, rest)) : ∃ piece, Takes m (c :: cs) t rest piece := by
  fun_cases token? m c cs with
  | case1 after =>
    obtain ⟨rfl, rfl⟩ := Prod.mk.inj (Option.some.inj h)
    exact ⟨['.', '.', '.'], List.cons_ne_nil _ _, rfl, rfl, by simp [Token.text?]⟩
  | case2 after => exact block?_takes h
  | case3 after ht =>
    simp only [token?] at h
    exact quoted?_takes h
  | case4 c after hd hb hq p hp =>
    simp only [token?, hp] at h
    obtain ⟨rfl, rfl⟩ := Prod.mk.inj (Option.some.inj h)
    have hn : '\n' ∉ [c] := by
      intro hm
      simp [← List.mem_singleton.mp hm, Punctuator.ofChar?] at hp
    exact ⟨[c], List.cons_ne_nil _ _, rfl, (if_neg hn).symm,
      by simp [Token.text?, Punctuator.char_of_ofChar? hp]⟩
  | case5 c after hd hb hq hp hs =>
    simp only [token?, hp, hs, if_true] at h
    obtain ⟨rfl, rfl⟩ := Prod.mk.inj (Option.some.inj h)
    exact ⟨_, name_takes hs m _⟩
  | case6 c after hd hb hq hp hs hn =>
    simp only [token?, hp, hs, hn, if_true] at h
    exact ⟨_, numeral?_takes h⟩
  | case7 c after hd hb hq hp hs hn =>
    simp [token?, hp, hs, hn] at h

end Lexer

end GraphQLTree.Source
