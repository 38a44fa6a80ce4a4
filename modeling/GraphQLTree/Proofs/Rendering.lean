import GraphQLTree.Proofs.Equality.Coordinates
import GraphQLTree.Proofs.Parsing.Words

namespace GraphQLTree.SchemaCoordinate

def isDelimiter (c : Char) : Bool :=
  c = '@' || c = '.' || c = '(' || c = ')' || c = ':'

def IsPlain (s : String) : Prop :=
  ∀ c ∈ s.toList, isDelimiter c = false

instance (s : String) : Decidable (IsPlain s) :=
  decidable_of_iff (s.toList.all (!isDelimiter ·) = true) (by simp [IsPlain])

def HasPlainNames (c : SchemaCoordinate) : Prop :=
  IsPlain c.name.value ∧ (∀ n ∈ c.member, IsPlain n.value) ∧ ∀ n ∈ c.argument, IsPlain n.value

structure Texts where
  ofDirective : Bool
  name : String
  member : Option String
  argument : Option String
deriving DecidableEq

def texts (c : SchemaCoordinate) : Texts :=
  ⟨c.ofDirective, c.name.value, c.member.map (·.value), c.argument.map (·.value)⟩

section Reading

def after? (c : Char) : List Char → Option (List Char)
  | [] => none
  | d :: cs => if d = c then some cs else none

def nameOf (cs : List Char) : String :=
  String.ofList (cs.takeWhile (!isDelimiter ·))

def afterName (cs : List Char) : List Char :=
  cs.dropWhile (!isDelimiter ·)

def read (s : String) : Texts :=
  let sign := after? '@' s.toList
  let text := sign.getD s.toList
  let member := after? '.' (afterName text)
  let tail := member.elim (afterName text) afterName
  ⟨sign.isSome, nameOf text, member.map nameOf, (after? '(' tail).map nameOf⟩

variable {s : String} {c : Char} {cs : List Char}

lemma head?_append_ne (hs : IsPlain s) (hcs : cs.head? ≠ some c) (hc : isDelimiter c = true) :
    (s.toList ++ cs).head? ≠ some c := by
  intro h
  cases hl : s.toList with
  | nil =>
    rw [hl] at h
    exact hcs h
  | cons a as =>
    rw [hl] at h
    obtain rfl : a = c := Option.some.inj h
    have ha : isDelimiter a = false := hs a (hl ▸ List.mem_cons_self)
    exact Bool.false_ne_true (ha.symm.trans hc)

lemma after?_eq_none (h : cs.head? ≠ some c) : after? c cs = none := by
  cases cs with
  | nil => rfl
  | cons d cs =>
    have hd : d ≠ c := fun hd => h (congrArg some hd)
    exact if_neg hd

lemma after?_cons : after? c (c :: cs) = some cs :=
  if_pos rfl

lemma read_name (hs : IsPlain s) (hcs : ∀ c ∈ cs.head?, isDelimiter c = true) :
    nameOf (s.toList ++ cs) = s ∧ afterName (s.toList ++ cs) = cs := by
  have hp : ∀ c ∈ s.toList, (!isDelimiter c) = true := fun c hc => by rw [hs c hc]; rfl
  have hstop : cs.takeWhile (!isDelimiter ·) = [] ∧ cs.dropWhile (!isDelimiter ·) = cs := by
    cases cs with
    | nil => exact ⟨rfl, rfl⟩
    | cons c cs =>
      have hc : isDelimiter c = true := hcs c rfl
      constructor <;> simp [hc]
  constructor
  · rw [nameOf, List.takeWhile_append_of_pos hp, hstop.1, List.append_nil, String.ofList_toList]
  · rw [afterName, List.dropWhile_append_of_pos hp, hstop.2]

end Reading

section Parts

variable {name : String} {member argument : Option Name}

lemma head_argumentText : ∀ c ∈ (argumentText argument).toList.head?, c = '(' := by
  cases argument with
  | none => exact nofun
  | some n => simp [argumentText]

lemma head_tail :
    ∀ c ∈ ((memberText member).toList ++ (argumentText argument).toList).head?, c = '.' ∨ c = '(' := by
  cases member with
  | none => exact fun c hc => .inr (head_argumentText c hc)
  | some n => simp [memberText]

lemma read_argument (h : ∀ n ∈ argument, IsPlain n.value) :
    (after? '(' (argumentText argument).toList).map nameOf = argument.map (·.value) := by
  cases argument with
  | none => rfl
  | some n =>
    have ht : (argumentText (some n)).toList = '(' :: (n.value.toList ++ [':', ')']) := by simp [argumentText]
    have hn : nameOf (n.value.toList ++ [':', ')']) = n.value :=
      (read_name (h n rfl) (by simp [isDelimiter])).1
    rw [ht, after?_cons, Option.map_some, hn]
    rfl

lemma read_member {tail : List Char} (hm : ∀ n ∈ member, IsPlain n.value) (ht : ∀ c ∈ tail.head?, c = '(') :
    let text := (memberText member).toList ++ tail
    (after? '.' text).map nameOf = member.map (·.value) ∧ (after? '.' text).elim text afterName = tail := by
  intro text
  cases member with
  | none =>
    have hdot : text.head? ≠ some '.' := fun h => absurd (ht '.' h) (by decide)
    rw [after?_eq_none hdot]
    exact ⟨rfl, rfl⟩
  | some n =>
    have htext : text = '.' :: (n.value.toList ++ tail) := by simp [text, memberText]
    have hdelimiter : ∀ c ∈ tail.head?, isDelimiter c = true := fun c hc => by
      rw [ht c hc]
      rfl
    obtain ⟨hname, hafter⟩ := read_name (hm n rfl) hdelimiter
    rw [htext, after?_cons]
    exact ⟨congrArg some hname, hafter⟩

end Parts

variable {c d : SchemaCoordinate}

lemma read_render (h : c.HasPlainNames) : read c.render = c.texts := by
  rcases c with ⟨ofDirective, name, member, argument, l⟩
  obtain ⟨hn, hm, ha⟩ := h
  let tail := (memberText member).toList ++ (argumentText argument).toList
  let text := name.value.toList ++ tail
  have htail : ∀ c ∈ tail.head?, isDelimiter c = true := by
    intro c hc
    rcases head_tail c hc with rfl | rfl <;> rfl
  -- What comes first is a name or the delimiter after it, never the sign of a directive.
  have hsign : text.head? ≠ some '@' := by
    refine head?_append_ne hn (fun hc => ?_) rfl
    rcases head_tail '@' hc with hc | hc <;> exact absurd hc (by decide)
  have htext : (render ⟨ofDirective, name, member, argument, l⟩).toList =
      if ofDirective then '@' :: text else text := by
    cases ofDirective <;> simp [render, text, tail]
  obtain ⟨hname, hrest⟩ : nameOf text = name.value ∧ afterName text = tail := read_name hn htail
  obtain ⟨hmember, hlast⟩ := read_member hm head_argumentText
  have hbody : ∀ sign, (⟨sign, nameOf text, (after? '.' (afterName text)).map nameOf,
      (after? '(' ((after? '.' (afterName text)).elim (afterName text) afterName)).map nameOf⟩ : Texts) =
      ⟨sign, name.value, member.map (·.value), argument.map (·.value)⟩ := by
    intro sign
    rw [hname, hrest, hmember, hlast, read_argument ha]
  rw [read, htext]
  cases ofDirective with
  | true =>
    rw [if_pos rfl, after?_cons]
    exact hbody true
  | false =>
    rw [if_neg Bool.false_ne_true, after?_eq_none hsign]
    exact hbody false

lemma beq_iff_texts : (c == d) = true ↔ c.texts = d.texts := by
  have hvalue (m n : Option Name) : (m == n) = true ↔ m.map (·.value) = n.map (·.value) := by
    rw [← option_map_beq (f := fun n : Name => n.value) (fun _ _ => rfl), beq_iff_eq]
  change (c.ofDirective == d.ofDirective && c.name.value == d.name.value && c.member == d.member &&
    c.argument == d.argument) = true ↔ _
  simp only [Bool.and_eq_true, beq_iff_eq, hvalue, texts, Texts.mk.injEq, and_assoc]

lemma isPlain_of_isWord {s : String} (h : IsWord s) : IsPlain s := by
  intro c hc
  have hword : Source.Lexer.continuesName c = true := h.2 c hc
  cases hd : isDelimiter c with
  | false => rfl
  | true =>
    simp only [isDelimiter, Bool.or_eq_true, decide_eq_true_eq] at hd
    rcases hd with (((rfl | rfl) | rfl) | rfl) | rfl <;> nomatch hword

/-- Coordinates whose names have no delimiter in them have one text just when they are equal, and each can be
read off its text. The names in the tree of a text are such names. -/
theorem render_determines :
    (∀ c d : SchemaCoordinate, c.HasPlainNames → d.HasPlainNames →
      (c.render = d.render ↔ (c == d) = true) ∧ read c.render = c.texts) ∧
    ∀ n : Name, n.IsRead → IsPlain n.value := by
  refine ⟨fun c d hc hd => ⟨⟨fun h => ?_, render_of_beq⟩, read_render hc⟩, fun n hn => isPlain_of_isWord hn.isWord⟩
  rw [beq_iff_texts, ← read_render hc, ← read_render hd, h]

def typeMember : SchemaCoordinate :=
  .ofMember ⟨"a", none⟩ ⟨"b", none⟩

def directiveArgument : SchemaCoordinate :=
  .ofDirectiveArgument ⟨"a", none⟩ ⟨"b", none⟩

theorem render_determines_member_argument :
    typeMember.HasPlainNames ∧ directiveArgument.HasPlainNames ∧ typeMember.render ≠ directiveArgument.render ∧
      read typeMember.render = ⟨false, "a", some "b", none⟩ ∧
      read directiveArgument.render = ⟨true, "a", none, some "b"⟩ ∧
      ∃ n : Name, n.IsRead ∧ n.value = "a" ∧ IsPlain n.value := by
  have hb : ∀ n ∈ some (⟨"b", none⟩ : Name), IsPlain n.value := by
    intro n hn
    obtain rfl := Option.some.inj hn
    decide
  have hm : typeMember.HasPlainNames := ⟨by decide, hb, nofun⟩
  have ha : directiveArgument.HasPlainNames := ⟨by decide, nofun, hb⟩
  obtain ⟨hiff, hread⟩ := render_determines.1 typeMember directiveArgument hm ha
  have hn : Name.IsRead ⟨"a", some (.point ⟨0, 1, 1⟩)⟩ := ⟨"\x7ba\x7d", _, [0, 0, 0, 0], .inr rfl, rfl⟩
  refine ⟨hm, ha, fun h => ?_, hread, (render_determines.1 _ typeMember ha hm).2, _, hn, rfl, ?_⟩
  · exact absurd (hiff.mp h) (by decide)
  · exact render_determines.2 _ hn

end GraphQLTree.SchemaCoordinate
