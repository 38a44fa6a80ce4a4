import GraphQLTree.Command.Run
import Mathlib.Data.List.Induction
import Mathlib.Data.List.TakeWhile
import Mathlib.Tactic.Lemma
import Mathlib.Tactic.SplitIfs

namespace GraphQLTree

namespace Text

/-- The text `t` is what is left of `s` without the white space at its ends. -/
def Trims (s t : List Char) : Prop :=
  ∃ before after, s = before ++ t ++ after ∧
    (∀ c ∈ before, isBlank c = true) ∧ (∀ c ∈ after, isBlank c = true) ∧
    (∀ c ∈ t.head?, isBlank c = false) ∧ ∀ c ∈ t.getLast?, isBlank c = false

section Trim

variable {s t : List Char}

lemma not_isBlank_of_dropWhile {c : Char} (h : c ∈ (s.dropWhile isBlank).head?) : isBlank c = false := by
  have hhead := List.head?_dropWhile_not isBlank s
  rw [Option.mem_def.mp h] at hhead
  exact hhead

lemma dropWhile_eq_self (h : ∀ c ∈ t.head?, isBlank c = false) : t.dropWhile isBlank = t := by
  cases t with
  | nil => rfl
  | cons c cs => rw [List.dropWhile_cons_of_neg (by simp [h c rfl])]

lemma trims_trim (s : List Char) : Trims s (trim s) := by
  let rest := s.dropWhile isBlank
  let after := (rest.reverse.takeWhile isBlank).reverse
  have hs : s.takeWhile isBlank ++ rest = s := List.takeWhile_append_dropWhile
  have hrest : trim s ++ after = rest := by
    rw [trim, ← List.reverse_append, List.takeWhile_append_dropWhile, List.reverse_reverse]
  refine ⟨s.takeWhile isBlank, after, ?_, ?_, ?_, ?_, ?_⟩
  · rw [List.append_assoc, hrest, hs]
  · exact fun c hc => List.mem_takeWhile_imp hc
  · exact fun c hc => List.mem_takeWhile_imp (List.mem_reverse.mp hc)
  · intro c hc
    have hfirst : c ∈ rest.head? := by
      rw [← hrest, List.head?_append, Option.mem_def.mp hc]
      rfl
    exact not_isBlank_of_dropWhile hfirst
  · intro c hc
    rw [trim, List.getLast?_reverse] at hc
    exact not_isBlank_of_dropWhile hc

lemma Trims.eq (h : Trims s t) : trim s = t := by
  obtain ⟨before, after, rfl, hbefore, hafter, hhead, hlast⟩ := h
  rw [trim, List.append_assoc, List.dropWhile_append_of_pos hbefore]
  cases t with
  | nil =>
    rw [List.nil_append, List.dropWhile_eq_nil_iff.mpr hafter]
    rfl
  | cons c cs =>
    have hfront : (c :: cs ++ after).dropWhile isBlank = c :: cs ++ after := dropWhile_eq_self hhead
    have hback : (c :: cs).reverse.dropWhile isBlank = (c :: cs).reverse := by
      apply dropWhile_eq_self
      rwa [List.head?_reverse]
    have hend : ∀ c ∈ after.reverse, isBlank c = true := fun c hc => hafter c (List.mem_reverse.mp hc)
    rw [hfront, List.reverse_append, List.dropWhile_append_of_pos hend, hback, List.reverse_reverse]

lemma trims_iff : Trims s t ↔ t = trim s :=
  ⟨fun h => h.eq.symm, fun h => h ▸ trims_trim s⟩

end Trim

section LetterCase

variable {c d : Char}

lemma toNat_toLower (c : Char) :
    c.toLower.toNat = if 65 ≤ c.toNat ∧ c.toNat ≤ 90 then c.toNat + 32 else c.toNat := by
  have hval : c.val ≥ 'A'.val ∧ c.val ≤ 'Z'.val ↔ 65 ≤ c.toNat ∧ c.toNat ≤ 90 := by
    rw [ge_iff_le, UInt32.le_iff_toNat_le, UInt32.le_iff_toNat_le]
    rfl
  delta Char.toLower
  simp only [hval]
  split
  · next h =>
    have hadd : (c.val + ('a'.val - 'A'.val)).toNat = (c.toNat + 32) % 2 ^ 32 := UInt32.toNat_add _ _
    exact hadd.trans (Nat.mod_eq_of_lt (by omega))
  · rfl

lemma toNat_toUpper (c : Char) :
    c.toUpper.toNat = if 97 ≤ c.toNat ∧ c.toNat ≤ 122 then c.toNat - 32 else c.toNat := by
  have hval : 'a'.val ≤ c.val ∧ c.val ≤ 'z'.val ↔ 97 ≤ c.toNat ∧ c.toNat ≤ 122 := by
    rw [UInt32.le_iff_toNat_le, UInt32.le_iff_toNat_le]
    rfl
  delta Char.toUpper
  simp only [hval]
  split
  · next h =>
    have hadd : (c.val + ('A'.val - 'a'.val)).toNat = (c.toNat + (2 ^ 32 - 32)) % 2 ^ 32 := UInt32.toNat_add _ _
    exact hadd.trans (by omega)
  · rfl

lemma toUpper_eq_iff (hd : d.toUpper = d) : c.toUpper = d ↔ c.toLower = d.toLower := by
  rw [← Char.toNat_inj, toNat_toUpper] at hd
  rw [← Char.toNat_inj, ← Char.toNat_inj, toNat_toUpper, toNat_toLower, toNat_toLower]
  split_ifs at hd ⊢ <;> omega

end LetterCase

lemma map_toUpper_eq_iff {cs ds : List Char} (hd : ds.map Char.toUpper = ds) :
    cs.map Char.toUpper = ds ↔ cs.map Char.toLower = ds.map Char.toLower := by
  induction cs generalizing ds with
  | nil => cases ds <;> simp
  | cons c cs ih =>
    cases ds with
    | nil => simp
    | cons d ds =>
      obtain ⟨hd, hds⟩ := List.cons_eq_cons.mp hd
      rw [List.map_cons, List.map_cons, List.map_cons, List.cons_eq_cons, List.cons_eq_cons, toUpper_eq_iff hd, ih hds]

end Text

namespace Command.LogLevel

section Decimal

variable {cs : List Char}

lemma ofDigitChars_append_singleton (cs : List Char) (c : Char) :
    Nat.ofDigitChars 10 (cs ++ [c]) 0 = 10 * Nat.ofDigitChars 10 cs 0 + (c.toNat - 48) := by
  rw [Nat.ofDigitChars_append, Nat.ofDigitChars_cons, Nat.ofDigitChars_nil]
  rfl

lemma eq_replicate_of_ofDigitChars (hd : ∀ c ∈ cs, c.isDigit = true) (h : Nat.ofDigitChars 10 cs 0 = 0) :
    cs = List.replicate cs.length '0' := by
  induction cs using List.reverseRecOn with
  | nil => rfl
  | append_singleton cs c ih =>
    rw [List.forall_mem_append, List.forall_mem_singleton] at hd
    rw [ofDigitChars_append_singleton] at h
    have hc : 48 ≤ c.toNat ∧ c.toNat ≤ 57 := Char.isDigit_iff_toNat.mp hd.2
    have hnat : c.toNat = '0'.toNat := by
      change c.toNat = 48
      omega
    rw [List.length_append, List.length_singleton, List.replicate_succ', ← ih hd.1 (by omega),
      Char.toNat_inj.mp hnat]

lemma ofDigitChars_eq_iff {n : Nat} (hpos : 0 < n) (hlt : n < 10) :
    (∀ c ∈ cs, c.isDigit = true) ∧ Nat.ofDigitChars 10 cs 0 = n ↔
      ∃ zeros, cs = List.replicate zeros '0' ++ [n.digitChar] := by
  have hlast : n.digitChar.toNat = 48 + n := Nat.toNat_digitChar_of_lt_ten hlt
  constructor
  · rintro ⟨hd, h⟩
    cases cs using List.reverseRecOn with
    | nil => exact absurd h hpos.ne
    | append_singleton cs c =>
      rw [List.forall_mem_append, List.forall_mem_singleton] at hd
      rw [ofDigitChars_append_singleton] at h
      have hc : 48 ≤ c.toNat ∧ c.toNat ≤ 57 := Char.isDigit_iff_toNat.mp hd.2
      have hzeros := eq_replicate_of_ofDigitChars hd.1 (by omega)
      have hnat : c.toNat = n.digitChar.toNat := by omega
      exact ⟨cs.length, by rw [← hzeros, Char.toNat_inj.mp hnat]⟩
  · rintro ⟨zeros, rfl⟩
    rw [List.forall_mem_append, List.forall_mem_singleton, ofDigitChars_append_singleton,
      Nat.ofDigitChars_replicate_zero, hlast, Nat.isDigit_digitChar]
    exact ⟨⟨fun c hc => List.eq_of_mem_replicate hc ▸ rfl, decide_eq_true hlt⟩, by omega⟩

lemma count?_plus (cs : List Char) :
    count? ('+' :: cs) = if cs ≠ [] ∧ cs.all Char.isDigit then some (Nat.ofDigitChars 10 cs 0) else none := rfl

lemma count?_of_ne_plus (h : cs.head? ≠ some '+') :
    count? cs = if cs ≠ [] ∧ cs.all Char.isDigit then some (Nat.ofDigitChars 10 cs 0) else none := by
  cases cs with
  | nil => rfl
  | cons c cs =>
    have hc : c ≠ '+' := fun hc => h (congrArg some hc)
    rw [count?]
    · rfl
    · exact fun _ heq => hc (List.cons.inj heq).1

lemma count?_eq_some_iff {n : Nat} :
    count? cs = some n ↔ ∃ sign digits, (sign = [] ∨ sign = ['+']) ∧ cs = sign ++ digits ∧
      digits ≠ [] ∧ (∀ c ∈ digits, c.isDigit = true) ∧ Nat.ofDigitChars 10 digits 0 = n := by
  constructor
  · intro h
    by_cases hplus : cs.head? = some '+'
    · obtain ⟨digits, rfl⟩ := List.head?_eq_some_iff.mp hplus
      rw [count?_plus, Option.ite_none_right_eq_some, List.all_eq_true] at h
      exact ⟨['+'], digits, .inr rfl, rfl, h.1.1, h.1.2, Option.some.inj h.2⟩
    · rw [count?_of_ne_plus hplus, Option.ite_none_right_eq_some, List.all_eq_true] at h
      exact ⟨[], cs, .inl rfl, rfl, h.1.1, h.1.2, Option.some.inj h.2⟩
  · rintro ⟨sign, digits, hsign, rfl, hne, hd, rfl⟩
    rcases hsign with rfl | rfl
    · have hplus : digits.head? ≠ some '+' := by
        intro hplus
        have hdigit := hd '+' (List.mem_of_head? hplus)
        exact absurd hdigit (by decide)
      rw [List.nil_append, count?_of_ne_plus hplus, if_pos ⟨hne, List.all_eq_true.mpr hd⟩]
    · rw [List.singleton_append, count?_plus, if_pos ⟨hne, List.all_eq_true.mpr hd⟩]

end Decimal

section Search

lemma mem_all (level : LogLevel) : level ∈ all := by
  cases level <;> decide

lemma find?_all_eq_some_iff {α : Type} [BEq α] [LawfulBEq α] {f : LogLevel → α} (hf : f.Injective) {x : α}
    {level : LogLevel} : (all.find? fun l => f l == x) = some level ↔ f level = x := by
  constructor
  · intro h
    have hfound := List.find?_some h
    exact eq_of_beq hfound
  · rintro rfl
    cases hfind : all.find? fun l => f l == f level with
    | none => exact absurd (beq_self_eq_true (f level)) (List.find?_eq_none.mp hfind level (mem_all level))
    | some l =>
      have hfound := List.find?_some hfind
      exact congrArg some (hf (eq_of_beq hfound))

lemma rank_injective : rank.Injective := by
  have hall : ∀ a ∈ all, ∀ b ∈ all, a.rank = b.rank → a = b := by decide
  exact fun a b => hall a (mem_all a) b (mem_all b)

lemma label_injective : (fun l : LogLevel => l.label.toList).Injective := by
  have hall : ∀ a ∈ all, ∀ b ∈ all, a.label.toList = b.label.toList → a = b := by decide
  exact fun a b => hall a (mem_all a) b (mem_all b)

end Search

def HasName (level : LogLevel) (cs : List Char) : Prop :=
  cs.map Char.toLower = level.label.toList.map Char.toLower

def HasNumeral (level : LogLevel) (cs : List Char) : Prop :=
  ∃ sign zeros, (sign = [] ∨ sign = ['+']) ∧ cs = sign ++ List.replicate zeros '0' ++ [level.rank.digitChar]

section OfText

variable {cs : List Char} {level : LogLevel}

lemma find?_label_eq_some_iff :
    (all.find? fun l => l.label.toList == cs.map Char.toUpper) = some level ↔ level.HasName cs := by
  have hupper : level.label.toList.map Char.toUpper = level.label.toList := by cases level <;> decide
  rw [find?_all_eq_some_iff label_injective, HasName, ← Text.map_toUpper_eq_iff hupper]
  exact eq_comm

lemma count?_bind_ofRank?_eq_some_iff : (count? cs).bind ofRank? = some level ↔ level.HasNumeral cs := by
  have hrank : 0 < level.rank ∧ level.rank < 10 := by cases level <;> decide
  simp only [Option.bind_eq_some_iff, ofRank?, find?_all_eq_some_iff rank_injective, count?_eq_some_iff, HasNumeral]
  constructor
  · rintro ⟨_, ⟨sign, digits, hsign, rfl, -, hd, hn⟩, rfl⟩
    obtain ⟨zeros, rfl⟩ := (ofDigitChars_eq_iff hrank.1 hrank.2).mp ⟨hd, hn⟩
    exact ⟨sign, zeros, hsign, (List.append_assoc ..).symm⟩
  · rintro ⟨sign, zeros, hsign, rfl⟩
    obtain ⟨hd, hn⟩ := (ofDigitChars_eq_iff hrank.1 hrank.2).mpr ⟨zeros, rfl⟩
    exact ⟨_, ⟨sign, _, hsign, List.append_assoc .., by simp, hd, hn⟩, rfl⟩

lemma not_hasNumeral_of_hasName {other : LogLevel} (h : level.HasName cs) : ¬ other.HasNumeral cs := by
  rintro ⟨sign, zeros, -, rfl⟩
  have hletters : (level.label.toList.map Char.toLower).any Char.isDigit = false := by cases level <;> decide
  have hdigit : other.rank.digitChar.toLower.isDigit = true := by cases other <;> decide
  have hlast : other.rank.digitChar.toLower ∈ level.label.toList.map Char.toLower := by
    rw [← h]
    simp
  exact List.any_eq_false.mp hletters _ hlast hdigit

lemma ofText?_eq_some_iff : ofText? cs = some level ↔ level.HasName cs ∨ level.HasNumeral cs := by
  rw [ofText?]
  cases hcount : (count? cs).bind ofRank? with
  | none =>
    have hnone : ¬ level.HasNumeral cs := by
      rw [← count?_bind_ofRank?_eq_some_iff, hcount]
      exact nofun
    rw [or_iff_left hnone]
    exact find?_label_eq_some_iff
  | some l =>
    -- numerals are looked up first; no name is one of them
    have hl : l.HasNumeral cs := count?_bind_ofRank?_eq_some_iff.mp hcount
    rw [or_iff_right (fun hn => not_hasNumeral_of_hasName hn hl), ← count?_bind_ofRank?_eq_some_iff, hcount]

lemma ofText?_nil : ofText? [] = none := by decide

end OfText

section Setting

variable {s : String} {cs : List Char}

lemma ofSetting_some_eq_ok_iff {level : LogLevel} (h : Text.Trims s.toList cs) :
    ofSetting (some s) = .ok level ↔ (level = .default ∧ cs = []) ∨ ofText? cs = some level := by
  rw [ofSetting, Option.map_some, h.eq]
  cases cs with
  | nil => simp [ofText?_nil, eq_comm]
  | cons c cs => cases hl : ofText? (c :: cs) <;> simp [hl]

lemma ofSetting_some_eq_error_iff {text : String} (h : Text.Trims s.toList cs) :
    ofSetting (some s) = .error text ↔ cs ≠ [] ∧ ofText? cs = none ∧ String.ofList cs = text := by
  rw [ofSetting, Option.map_some, h.eq]
  cases cs with
  | nil => simp
  | cons c cs => cases hl : ofText? (c :: cs) <;> simp [hl]

end Setting

/-- A setting gives a level when it is absent or blank, or when it is the name of a level in any case or
its numeral, white space around it apart. Any other one is quoted in a warning without that space. -/
theorem ofSetting_eq_iff (setting : Option String) :
    (∀ level, ofSetting setting = .ok level ↔
      (level = .default ∧ ∀ s ∈ setting, Text.Trims s.toList []) ∨
        ∃ s ∈ setting, ∃ cs, Text.Trims s.toList cs ∧ (level.HasName cs ∨ level.HasNumeral cs)) ∧
    (∀ text, ofSetting setting = .error text ↔
      ∃ s ∈ setting, Text.Trims s.toList text.toList ∧ text ≠ "" ∧
        ∀ level : LogLevel, ¬ level.HasName text.toList ∧ ¬ level.HasNumeral text.toList) ∧
    ∀ message, ⟨.warn, .program, message⟩ ∈ (Outcome.start false setting).2 ↔
      ∃ text, ofSetting setting = .error text ∧
        message = "Invalid `LOG_LEVEL` environment variable value: `" ++ text ++ "`" := by
  refine ⟨fun level => ?_, fun text => ?_, fun message => ?_⟩
  · cases setting with
    | none => simp [ofSetting, eq_comm]
    | some s =>
      rw [ofSetting_some_eq_ok_iff (Text.trims_trim s.toList), eq_comm (a := Text.trim _)]
      simp only [Option.mem_some_iff, forall_eq', exists_eq_left', Text.trims_iff, exists_eq_left,
        ofText?_eq_some_iff]
  · cases setting with
    | none => simp [ofSetting]
    | some s =>
      have hs := Text.trims_trim s.toList
      rw [ofSetting_some_eq_error_iff hs]
      simp only [Option.mem_some_iff, exists_eq_left', ← not_or, ← ofText?_eq_some_iff]
      constructor
      · rintro ⟨hne, hnone, rfl⟩
        rw [String.toList_ofList, Ne, ← String.toList_eq_nil_iff, String.toList_ofList]
        exact ⟨hs, hne, by simp [hnone]⟩
      · rintro ⟨ht, hne, hnone⟩
        rw [ht.eq]
        exact ⟨String.toList_eq_nil_iff.not.mpr hne, Option.eq_none_iff_forall_ne_some.mpr hnone,
          String.ofList_toList⟩
  · cases hset : ofSetting setting <;> simp [Outcome.start, hset]

theorem levels_beyond_names :
    ¬ ∀ (setting : Option String) (level : LogLevel), ofSetting setting = .ok level ↔
      (level = .default ∧ ∀ s ∈ setting, Text.Trims s.toList []) ∨
        ∃ s ∈ setting, ∃ cs, Text.Trims s.toList cs ∧ level.HasName cs := by
  intro h
  have hlevel : ofSetting (some "1") = .ok .error := by decide
  obtain ⟨hdefault, -⟩ | ⟨s, hs, cs, hcs, hnamed⟩ := (h (some "1") .error).mp hlevel
  · cases hdefault
  · cases hs
    rw [← hcs.eq] at hnamed
    exact absurd (congrArg List.length hnamed) (by decide)

end Command.LogLevel

end GraphQLTree
