import GraphQLTree.Source.Grammar.Value
import Mathlib.Tactic.Lemma

namespace GraphQLTree.Source.Parser

variable {α β : Type} {L : Lexeme → Prop} {p : Parser α} {f : α → Parser β} {G : α → Prop} {H : β → Prop}

lemma bind_eq_ok {ts rest : List Lexeme} {b : β} (h : (p >>= f) ts = .ok (b, rest)) :
    ∃ a mid, p ts = .ok (a, mid) ∧ f a mid = .ok (b, rest) := by
  change Except.bind (p ts) (fun x => f x.1 x.2) = _ at h
  cases hp : p ts with
  | error r => simp [hp, Except.bind] at h
  | ok x => exact ⟨x.1, x.2, rfl, by simpa [hp, Except.bind] using h⟩

/-- Where `L` holds of all the tokens, `G` holds of the result, and `L` of the tokens that are left. -/
def Yields (L : Lexeme → Prop) (p : Parser α) (G : α → Prop) : Prop :=
  ∀ ts a rest, (∀ t ∈ ts, L t) → p ts = .ok (a, rest) → G a ∧ ∀ t ∈ rest, L t

namespace Yields

lemma pure {a : α} (ha : G a) : Yields L (Pure.pure a : Parser α) G := by
  intro ts _ _ hts h
  obtain ⟨rfl, rfl⟩ := Prod.mk.inj (Except.ok.inj h)
  exact ⟨ha, hts⟩

lemma bind (hp : Yields L p G) (hf : ∀ a, G a → Yields L (f a) H) : Yields L (p >>= f) H := by
  intro ts b rest hts h
  obtain ⟨a, mid, ha, hb⟩ := bind_eq_ok h
  obtain ⟨hG, hmid⟩ := hp ts a mid hts ha
  exact hf a hG mid b rest hmid hb

lemma mono {G' : α → Prop} (hp : Yields L p G) (h : ∀ a, G a → G' a) : Yields L p G' := by
  intro ts a rest hts hr
  obtain ⟨hG, hrest⟩ := hp ts a rest hts hr
  exact ⟨h a hG, hrest⟩

lemma map {g : α → β} (hp : Yields L p G) (hg : ∀ a, G a → H (g a)) : Yields L (g <$> p) H := by
  rw [map_eq_pure_bind]
  exact hp.bind fun a ha => .pure (hg a ha)

lemma fail : Yields L Parser.fail G :=
  fun _ _ _ _ h => nomatch h

lemma look : Yields L look fun _ => True := by
  intro ts _ _ hts h
  obtain ⟨-, rfl⟩ := Prod.mk.inj (Except.ok.inj h)
  exact ⟨trivial, hts⟩

lemma next : Yields L next L := by
  intro ts t rest hts h
  cases ts with
  | nil => nomatch h
  | cons head tail =>
    obtain ⟨rfl, rfl⟩ := Prod.mk.inj (Except.ok.inj h)
    exact List.forall_mem_cons.mp hts

lemma here : Yields L here fun m => ∃ t, L t ∧ t.mark = m := by
  intro ts m rest hts h
  cases ts with
  | nil => nomatch h
  | cons head tail =>
    obtain ⟨rfl, rfl⟩ := Prod.mk.inj (Except.ok.inj h)
    exact ⟨⟨head, (List.forall_mem_cons.mp hts).1, rfl⟩, hts⟩

lemma expect (token : Token) : Yields L (expect token) fun m => ∃ t, L t ∧ t.mark = m ∧ t.token = token := by
  refine next.bind fun t ht => ?_
  split
  · next hk => exact .pure ⟨t, ht, rfl, hk⟩
  · exact .fail

lemma punctuator (q : Punctuator) :
    Yields L (punctuator q) fun m => ∃ t, L t ∧ t.mark = m ∧ t.token = .punctuator q :=
  expect _

lemma keyword (s : String) : Yields L (keyword s) fun m => ∃ t, L t ∧ t.mark = m ∧ t.token = .name s :=
  expect _

lemma anyName : Yields L anyName fun s => ∃ t, L t ∧ t.token = .name s := by
  refine next.bind fun t ht => ?_
  split
  · next hk => exact .pure ⟨t, ht, hk⟩
  · exact .fail

lemma here_bind {g : Mark → α → Parser β} {K : Lexeme → α → Prop}
    (hp : ∀ t ts a rest, p (t :: ts) = .ok (a, rest) → K t a ∧ rest = ts)
    (hg : ∀ t a, L t → K t a → Yields L (g t.mark a) H) :
    Yields L (do let m ← Parser.here; let a ← p; g m a) H := by
  intro ts b rest hts h
  obtain ⟨m, mid, hm, hb⟩ := bind_eq_ok h
  cases ts with
  | nil => nomatch hm
  | cons t ts =>
    obtain ⟨rfl, rfl⟩ := Prod.mk.inj (Except.ok.inj hm)
    obtain ⟨a, after, ha, hr⟩ := bind_eq_ok hb
    obtain ⟨hK, rfl⟩ := hp t ts a after ha
    obtain ⟨ht, hafter⟩ := List.forall_mem_cons.mp hts
    exact hg t a ht hK after b rest hafter hr

lemma here_anyName {g : Mark → String → Parser β}
    (hg : ∀ t s, L t → t.token = .name s → Yields L (g t.mark s) H) :
    Yields L (do let m ← Parser.here; let s ← Parser.anyName; g m s) H := by
  refine here_bind (fun t ts s rest h => ?_) hg
  obtain ⟨_, _, hn, hs⟩ := bind_eq_ok h
  obtain ⟨rfl, rfl⟩ := Prod.mk.inj (Except.ok.inj hn)
  cases hk : t.token with
  | name s' =>
    rw [hk] at hs
    obtain ⟨rfl, rfl⟩ := Prod.mk.inj (Except.ok.inj hs)
    exact ⟨rfl, rfl⟩
  | _ =>
    rw [hk] at hs
    nomatch hs

lemma here_punctuator {q : Punctuator} {g : Mark → Mark → Parser β}
    (hg : ∀ t m, L t → t.token = .punctuator q → Yields L (g t.mark m) H) :
    Yields L (do let m ← Parser.here; let m' ← Parser.punctuator q; g m m') H := by
  refine here_bind (fun t ts m rest h => ?_) hg
  obtain ⟨_, _, hn, hs⟩ := bind_eq_ok h
  obtain ⟨rfl, rfl⟩ := Prod.mk.inj (Except.ok.inj hn)
  split at hs
  · next hk =>
    obtain ⟨rfl, rfl⟩ := Prod.mk.inj (Except.ok.inj hs)
    exact ⟨hk, rfl⟩
  · nomatch hs

lemma unblocked (content : List Char) : Yields L (unblocked content) fun _ => True := by
  rw [Parser.unblocked]
  split
  · exact .pure trivial
  · exact fun _ _ _ _ h => nomatch h

lemma accept (token : Token) : Yields L (accept token) fun _ => True := by
  refine look.bind fun o _ => ?_
  split
  · exact next.bind fun _ _ => .pure trivial
  · exact .pure trivial

lemma optional {starts : Token → Bool} (hp : Yields L p G) :
    Yields L (optional starts p) fun o => ∀ a ∈ o, G a := by
  refine look.bind fun o _ => ?_
  split
  · split
    · exact hp.map fun a ha _ h => Option.some.inj h ▸ ha
    · exact .pure nofun
  · exact .pure nofun

lemma repeated {starts : Token → Bool} (hp : Yields L p G) (fuel : Nat) :
    Yields L (repeated starts p fuel) fun as => ∀ a ∈ as, G a := by
  induction fuel with
  | zero => exact .pure nofun
  | succ fuel ih =>
    refine look.bind fun o _ => ?_
    split
    · exact .pure nofun
    · split
      · exact hp.bind fun a ha => ih.bind fun as has => .pure (List.forall_mem_cons.mpr ⟨ha, has⟩)
      · exact .pure nofun

lemma many {starts : Token → Bool} (hp : Yields L p G) : Yields L (many starts p) fun as => ∀ a ∈ as, G a :=
  fun ts => hp.repeated ts.length ts

lemma separated {separator : Punctuator} (hp : Yields L p G) :
    Yields L (separated separator p) fun as => ∀ a ∈ as, G a := by
  refine hp.bind fun first hfirst => ?_
  have hrest : Yields L (do let _ ← Parser.punctuator separator; p) G := (punctuator _).bind fun _ _ => hp
  exact hrest.many.bind fun others hothers => .pure (List.forall_mem_cons.mpr ⟨hfirst, hothers⟩)

lemma enclosed {opening closing : Punctuator} (hp : Yields L p G) :
    Yields L (enclosed opening closing p) fun as => ∀ a ∈ as, G a :=
  (punctuator _).bind fun _ _ => hp.many.bind fun _ has => (punctuator _).bind fun _ _ => .pure has

lemma enclosedSome {opening closing : Punctuator} (hp : Yields L p G) :
    Yields L (enclosedSome opening closing p) fun as => ∀ a ∈ as, G a := by
  refine hp.enclosed.bind fun as has => ?_
  split
  · exact .fail
  · exact .pure has

lemma here_enclosedSome {opening closing : Punctuator} {g : Mark → List α → Parser β} (hp : Yields L p G)
    (hg : ∀ t as, L t → t.token = .punctuator opening → (∀ a ∈ as, G a) → Yields L (g t.mark as) H) :
    Yields L (do let m ← Parser.here; let as ← Parser.enclosedSome opening closing p; g m as) H := by
  -- Taken apart, the brackets begin with the opening one, whose mark it is.
  simp only [Parser.enclosedSome, Parser.enclosed, bind_assoc, pure_bind]
  refine here_punctuator fun t _ ht hk => hp.many.bind fun as has => (punctuator _).bind fun _ _ => ?_
  refine Yields.bind (G := fun as => ∀ a ∈ as, G a) ?_ fun as has => hg t as ht hk has
  split
  · exact .fail
  · exact .pure has

lemma nested {p : Nat → Parser α} (hp : ∀ depth, Yields L (p depth) G) (depth : Nat) :
    Yields L (Grammar.nested depth p) G := by
  cases depth with
  | zero => exact .fail
  | succ depth => exact hp depth

lemma block {opening closing : Punctuator} {p : Nat → Parser α} (hp : ∀ depth, Yields L (p depth) G)
    (depth : Nat) : Yields L (Grammar.block opening closing depth p) fun as => ∀ a ∈ as, G a := by
  have hs : Yields L (Grammar.nested depth fun depth => Parser.enclosedSome opening closing (p depth))
      fun as => ∀ a ∈ as, G a := nested (fun depth => (hp depth).enclosedSome) depth
  refine hs.optional.bind fun as has => .pure ?_
  cases as with
  | none => exact nofun
  | some as => exact has as rfl

lemma of_runAll {ts : List Lexeme} {a : α} (hp : Yields L p G) (hts : ∀ t ∈ ts, L t) (h : runAll p ts = .ok a) :
    G a := by
  rw [runAll] at h
  split at h
  · next hr => exact Except.ok.inj h ▸ (hp ts _ _ hts hr).1
  · simp at h
  · simp at h

end Yields

end GraphQLTree.Source.Parser
