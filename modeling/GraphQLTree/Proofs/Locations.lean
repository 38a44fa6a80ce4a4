import GraphQLTree.Proofs.Conversion.Places
import GraphQLTree.Proofs.Lexing.Drift
import GraphQLTree.Proofs.Parsing.Executable
import GraphQLTree.Proofs.Parsing.Schema
import GraphQLTree.Source.Parse

namespace GraphQLTree

def Node.BeginsAt (after : List Char) : Node → Prop
  | .selectionSet _ => ['{'] <+: after
  | .directive _ => ['@'] <+: after
  | .selection (.field f) => (f.aliasName.getD f.name).value.toList <+: after
  | _ => True

namespace Source

open Lexer

variable {text before after : List Char} {d : Drift} {m : Mark}

lemma Lexer.Fits.line_sub_one (hf : Fits before d m) : m.line - 1 = before.count '\n' + d.lines := by
  have hl := hf.line
  omega

lemma Lexer.Fits.column_sub_one (hf : Fits before d m) (h : d.lines = 0) :
    ((m.column - 1 : Nat) : Int) = Text.column before + d.columns := by
  have hp := hf.column_pos
  have hc := hf.column h
  omega

lemma Lexer.Fits.location_eq_iff (hf : Fits before d m) (after : List Char) :
    m.location (Text.lineStarts (before ++ after)) = .point (.after before) ↔ d = ⟨0, 0⟩ := by
  constructor
  · intro h
    obtain ⟨hline, hcolumn, -⟩ := Position.mk.inj (Location.mk.inj h).1
    have h0 : d.lines = 0 := Nat.left_eq_add.mp (hline.symm.trans hf.line_sub_one)
    have hc := hf.column_sub_one h0
    rw [hcolumn] at hc
    have hcolumns : d.columns = 0 := by
      change (Text.column before : Int) = _ at hc
      omega
    exact congrArg₂ Drift.mk h0 hcolumns
  · -- Line and column are right, and the bytes are counted from them.
    rintro rfl
    have hline : m.line - 1 = before.count '\n' := hf.line_sub_one
    have hcolumn : m.column - 1 = Text.column before :=
      Int.ofNat_inj.mp ((hf.column_sub_one rfl).trans (Int.add_zero _))
    rw [Mark.location, hline, hcolumn, Text.byteOffset_lineStarts]
    rfl

lemma named_of_mem_lexemes {cs : List Char} {t : Lexeme} {s : String} (ht : t ∈ lexemes cs)
    (hs : t.token = .name s) : s ≠ "" := by
  obtain ⟨_, _, _, -, -, hw⟩ := Reaches.start.of_mem_scan _ ht
  obtain ⟨hne, -⟩ := hw s.toList (by rw [hs]; rfl)
  rintro rfl
  exact hne rfl

def LiesAtToken (cs : List Char) (lines : Lines) (n : Node) : Prop :=
  ∀ l, n.location = some l →
    ∃ t ∈ lexemes cs, l = t.mark.location lines ∧ ∀ token ∈ n.opening, t.token = token

lemma linked_liesAtToken {cs : List Char} {lines : Lines} {o : Opening} (ho : o.IsToken (· ∈ lexemes cs)) :
    Linked (fun n _ => LiesAtToken cs lines n) (·.location lines) (·.location lines) o := by
  intro n _ _ hn _ hopening _ l hl
  obtain ⟨t, ht, hm, hk⟩ := ho
  refine ⟨t, ht, ?_, fun token htoken => ?_⟩
  · rw [hm]
    exact Option.some.inj (hl.symm.trans hn)
  · rcases hopening with h | h
    · exact nomatch h ▸ htoken
    · exact hk token (h ▸ htoken)

lemma liesAtToken_of_bare {cs : List Char} {lines : Lines} (n m : Node) (_ : n.kind = m.kind)
    (hn : n.location = none) (_ : m.location = none) : LiesAtToken cs lines n :=
  fun _ hl => nomatch hn.symm.trans hl

end Source

namespace Document

open Source

lemma located_eq_ok {c : Conversion Document} {d : Document} (h : located c = .ok d) : c = .ok d := by
  cases c with
  | error e => nomatch h
  | ok d' => exact congrArg Except.ok (Except.ok.inj h)

lemma matches_of_parseSchema {text : String} {d : Document} (h : parseSchema text = .ok d) :
    Matches (fun n _ => LiesAtToken text.toList (.ofText text) n) (.document d) (.document d) := by
  rw [parseSchema] at h
  split at h
  · nomatch h
  · nomatch h
  · next items hitems =>
    have hg : ∀ item ∈ items, Grounded (· ∈ lexemes text.toList) item.check item.openings :=
      (Grammar.yields_schemaDocument fun _ _ => named_of_mem_lexemes).of_runAll (fun _ ht => ht) hitems
    have hd := located_eq_ok h
    rw [schemaDocument_eq, forM_list_eq_ok.mpr fun item hi => (hg item hi).checked] at hd
    obtain rfl := Except.ok.inj hd
    exact Source.matches_schemaDocument liesAtToken_of_bare items fun o ho =>
      linked_liesAtToken ((Grounded.list hg).opened o ho)

lemma matches_of_parseExecutable {text : String} {d : Document} (h : parseExecutable text = .ok d) :
    Matches (fun n _ => LiesAtToken text.toList (.ofText text) n) (.document d) (.document d) := by
  rw [parseExecutable] at h
  split at h
  · nomatch h
  · nomatch h
  · next definitions hdefinitions =>
    have hg : ∀ d ∈ definitions, Grounded (· ∈ lexemes text.toList) d.check d.openings :=
      (Grammar.yields_executableDocument fun _ _ => named_of_mem_lexemes).of_runAll (fun _ ht => ht) hdefinitions
    have hd := located_eq_ok h
    rw [executableDocument_eq, forM_list_eq_ok.mpr fun d hd => (hg d hd).checked] at hd
    obtain rfl := Except.ok.inj hd
    exact Source.matches_executableDocument liesAtToken_of_bare definitions fun o ho =>
      linked_liesAtToken ((Grounded.list hg).opened o ho)

end Document

lemma Node.beginsAt_of_opening {n : Node} {after : List Char}
    (h : ∀ token ∈ n.opening, ∀ w ∈ token.text?, w <+: after) : n.BeginsAt after := by
  cases n with
  | selectionSet | directive => exact h _ rfl _ rfl
  | selection s =>
    cases s with
    | field => exact h _ rfl _ rfl
    | spread | inline => trivial
  | _ => trivial

section Read

open Source

/-- Reading a text comes to a place between `before` and `after` where the mark is off by a drift, and a node
that begins there is located at that mark. -/
structure LocatedAt (text : List Char) (n : Node) (l : Location) (before after : List Char) (m : Mark)
    (drift : Drift) : Prop where
  text_eq : text = before ++ after
  reaches : Lexer.Reaches text before drift ⟨m, after⟩
  begins : n.BeginsAt after
  location_eq : l = m.location (Text.lineStarts text)
  line : l.start.line = before.count '\n' + drift.lines
  column : drift.lines = 0 → (l.start.column : Int) = Text.column before + drift.columns
  exact_iff : l = .point (.after before) ↔ drift = ⟨0, 0⟩
  plain : Lexer.IsPlain before → drift = ⟨0, 0⟩

/-- Whatever is located in a tree that was read from a text lies at the start of a character of it, and at
the mark of the token that it begins with. That is its place just when the mark is not off. -/
theorem location_of_read {text : String} {d : Document}
    (h : Document.parseSchema text = .ok d ∨ Document.parseExecutable text = .ok d) {way : List Nat} {n : Node}
    (hn : (Node.document d).at? way = some n) {l : Location} (hl : n.location = some l) :
    Text.IsBoundary text.toList l.start.byteOffset ∧
      ∃ before after m drift, LocatedAt text.toList n l before after m drift := by
  have hm : Matches (fun n _ => LiesAtToken text.toList (.ofText text) n) (.document d) (.document d) :=
    h.elim Document.matches_of_parseSchema Document.matches_of_parseExecutable
  have hlies : LiesAtToken text.toList (.ofText text) n := by
    have hw := hm way
    rw [hn] at hw
    cases hw with
    | some hr => exact hr
  obtain ⟨t, ht, rfl, hopening⟩ := hlies l hl
  obtain ⟨before, drift, after, hr, hne, hw⟩ := Lexer.Reaches.start.of_mem_scan _ ht
  have hf : Lexer.Fits before drift t.mark := hr.fits hne
  refine ⟨Text.isBoundary_byteOffset _ _ _, before, after, t.mark, drift, ?_⟩
  exact {
    text_eq := hr.text_eq
    reaches := hr
    begins := n.beginsAt_of_opening fun token htoken w hwritten =>
      (hw w (hopening token htoken ▸ hwritten)).2
    location_eq := rfl
    line := hf.line_sub_one
    column := hf.column_sub_one
    exact_iff := by
      rw [Lines.ofText, hr.text_eq]
      exact hf.location_eq_iff after
    plain := hr.drift_eq_zero }

def tabbed : String := "\x7b\ta\x7d"

theorem location_of_read_tabbed :
    ∃ d n l, Document.parseExecutable tabbed = .ok d ∧ (Node.document d).at? [0, 0, 0] = some n ∧
      n.location = some l ∧ l = .point ⟨0, 9, 4⟩ ∧ Text.IsBoundary tabbed.toList l.start.byteOffset ∧
      ∃ before after m drift, LocatedAt tabbed.toList n l before after m drift := by
  obtain ⟨d, n, l, hd, hn, hl, hv⟩ : ∃ d n l, Document.parseExecutable tabbed = .ok d ∧
      (Node.document d).at? [0, 0, 0] = some n ∧ n.location = some l ∧ l = .point ⟨0, 9, 4⟩ :=
    ⟨_, _, _, rfl, rfl, rfl, rfl⟩
  exact ⟨d, n, l, hd, hn, hl, hv, location_of_read (.inr hd) hn hl⟩

theorem no_place_of_tabbed :
    ∃ d n l, Document.parseExecutable tabbed = .ok d ∧ (Node.document d).at? [0, 0, 0] = some n ∧
      n.location = some l ∧ ∀ before after, tabbed.toList = before ++ after → l ≠ .point (.after before) := by
  refine ⟨_, _, _, rfl, rfl, rfl, fun before after ht he => ?_⟩
  have hcolumn : 9 = Text.column before := congrArg (·.start.column) he
  have hlength : 4 = before.length + after.length := by
    rw [← List.length_append, ← ht]
    rfl
  have hle : Text.column before ≤ before.length := Text.column_le_length before
  omega

end Read

end GraphQLTree
