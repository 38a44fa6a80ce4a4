import GraphQLTree.Source.Grammar.Schema
import Mathlib.Tactic.Lemma

namespace GraphQLTree.Source

def Token.isWhole : Token → Bool
  | .block content => (Quoted.unblock? content).isSome
  | _ => true

namespace Parser

variable {α β : Type} {p : Parser α} {f : α → Parser β} {starts : Token → Bool}

/-- With whole tokens only, the parser does not break off, and leaves whole tokens. -/
def Returns (p : Parser α) : Prop :=
  ∀ ts, (∀ t ∈ ts, t.token.isWhole = true) →
    p ts ≠ .error .splitCharacter ∧ ∀ a rest, p ts = .ok (a, rest) → ∀ t ∈ rest, t.token.isWhole = true

namespace Returns

lemma pure (a : α) : Returns (Pure.pure a : Parser α) := by
  refine fun ts hts => ⟨nofun, fun _ rest h => ?_⟩
  obtain ⟨-, rfl⟩ := Prod.mk.inj (Except.ok.inj h)
  exact hts

lemma fail : Returns (Parser.fail : Parser α) :=
  fun _ _ => ⟨nofun, nofun⟩

lemma bind (hp : Returns p) (hf : ∀ a, Returns (f a)) : Returns (p >>= f) := by
  intro ts hts
  change Except.bind (p ts) (fun x => f x.1 x.2) ≠ _ ∧
    ∀ b rest, Except.bind (p ts) (fun x => f x.1 x.2) = .ok (b, rest) → _
  cases hr : p ts with
  | error r => exact ⟨fun h => (hp ts hts).1 (hr.trans (congrArg _ (Except.error.inj h))), nofun⟩
  | ok x => exact hf x.1 x.2 ((hp ts hts).2 x.1 x.2 hr)

lemma map {g : α → β} (hp : Returns p) : Returns (g <$> p) := by
  rw [map_eq_pure_bind]
  exact hp.bind fun a => .pure (g a)

lemma look_bind {f : Option Token → Parser β} (hf : ∀ o, (∀ token ∈ o, token.isWhole = true) → Returns (f o)) :
    Returns (look >>= f) := by
  intro ts hts
  refine hf (ts.head?.map (·.token)) (fun token ht => ?_) ts hts
  obtain ⟨t, hh, rfl⟩ := Option.map_eq_some_iff.mp ht
  exact hts t (List.mem_of_mem_head? hh)

lemma next_bind {f : Lexeme → Parser β} (hf : ∀ t, t.token.isWhole = true → Returns (f t)) :
    Returns (next >>= f) := by
  intro ts hts
  cases ts with
  | nil => exact ⟨nofun, nofun⟩
  | cons t ts =>
    obtain ⟨ht, hts⟩ := List.forall_mem_cons.mp hts
    exact hf t ht ts hts

lemma here : Returns here := by
  intro ts hts
  cases ts with
  | nil => exact ⟨nofun, nofun⟩
  | cons t ts =>
    refine ⟨nofun, fun _ rest h => ?_⟩
    obtain ⟨-, rfl⟩ := Prod.mk.inj (Except.ok.inj h)
    exact hts

lemma expect (token : Token) : Returns (expect token) := by
  refine next_bind fun t _ => ?_
  split
  · exact .pure _
  · exact .fail

lemma punctuator (q : Punctuator) : Returns (punctuator q) :=
  expect _

lemma keyword (s : String) : Returns (keyword s) :=
  expect _

lemma anyName : Returns anyName := by
  refine next_bind fun t _ => ?_
  split
  · exact .pure _
  · exact .fail

lemma unblocked {content : List Char} (h : (Token.block content).isWhole = true) :
    Returns (unblocked content) := by
  obtain ⟨text, ht⟩ := Option.isSome_iff_exists.mp h
  rw [Parser.unblocked, ht]
  exact .pure _

lemma accept (token : Token) : Returns (accept token) := by
  refine look_bind fun o _ => ?_
  split
  · exact next_bind fun _ _ => .pure true
  · exact .pure false

lemma optional (hp : Returns p) : Returns (optional starts p) := by
  refine look_bind fun o _ => ?_
  split
  · split
    · exact hp.map
    · exact .pure none
  · exact .pure none

lemma repeated (hp : Returns p) (fuel : Nat) : Returns (repeated starts p fuel) := by
  induction fuel with
  | zero => exact .pure []
  | succ fuel ih =>
    refine look_bind fun o _ => ?_
    split
    · exact .pure []
    · split
      · exact hp.bind fun a => ih.bind fun as => .pure (a :: as)
      · exact .pure []

lemma many (hp : Returns p) : Returns (many starts p) :=
  fun ts => hp.repeated ts.length ts

lemma separated {separator : Punctuator} (hp : Returns p) : Returns (separated separator p) := by
  have hrest : Returns (do let _ ← Parser.punctuator separator; p) := (punctuator _).bind fun _ => hp
  exact hp.bind fun first => hrest.many.bind fun others => .pure (first :: others)

variable {opening closing : Punctuator}

lemma enclosed (hp : Returns p) : Returns (enclosed opening closing p) :=
  (punctuator _).bind fun _ => hp.many.bind fun as => (punctuator _).bind fun _ => .pure as

lemma enclosedSome (hp : Returns p) : Returns (enclosedSome opening closing p) := by
  refine hp.enclosed.bind fun as => ?_
  split
  · exact .fail
  · exact .pure as

lemma nested {p : Nat → Parser α} (hp : ∀ depth, Returns (p depth)) (depth : Nat) :
    Returns (Grammar.nested depth p) := by
  cases depth with
  | zero => exact .fail
  | succ depth => exact hp depth

lemma block {p : Nat → Parser α} (hp : ∀ depth, Returns (p depth)) (depth : Nat) :
    Returns (Grammar.block opening closing depth p) :=
  (nested (fun depth => (hp depth).enclosedSome) depth).optional.bind fun o => .pure (o.getD [])

lemma runAll_ne {ts : List Lexeme} (hp : Returns p) (hts : ∀ t ∈ ts, t.token.isWhole = true) :
    runAll p ts ≠ .error .splitCharacter := by
  rw [runAll]
  split
  · nofun
  · nofun
  · next hr => exact fun h => (hp ts hts).1 (hr.trans (congrArg _ (Except.error.inj h)))

end Returns

end Parser

namespace Grammar

open GraphQLTree.Source.Parser

lemma returns_scalar (constant : Bool) : Returns (scalar constant) := by
  refine .next_bind fun t ht => ?_
  split
  · split
    · exact .fail
    · exact Returns.anyName.map
  · exact .pure _
  · exact .pure _
  · exact .pure _
  · next content hk => exact (Returns.unblocked (hk ▸ ht)).map
  · exact .pure _
  · exact .pure _
  · exact .pure _
  · exact .pure _
  · exact .fail

lemma returns_entry {value : Parser Value} (hv : Returns value) : Returns (entry value) :=
  Returns.anyName.bind fun _ => (Returns.punctuator _).bind fun _ => hv.bind fun _ => .pure _

lemma returns_value (constant : Bool) (depth : Nat) : Returns (value constant depth) := by
  induction depth with
  | zero => exact returns_scalar constant
  | succ depth ih =>
    refine .look_bind fun o _ => ?_
    split
    · exact ih.enclosed.map
    · exact (returns_entry ih).enclosed.map
    · exact returns_scalar constant

lemma returns_defaultValue (depth : Nat) : Returns (defaultValue depth) :=
  ((Returns.punctuator _).bind fun _ => returns_value true depth).optional

lemma returns_marked (t : TypeExpr) : Returns (marked t) :=
  (Returns.accept _).bind fun _ => .pure _

lemma returns_typeExpr (depth : Nat) : Returns (typeExpr depth) := by
  have hnamed : Returns (do marked (.named (← anyName))) := Returns.anyName.bind fun _ => returns_marked _
  induction depth with
  | zero => exact hnamed
  | succ depth ih =>
    refine (Returns.accept _).bind fun b => ?_
    split
    · exact ih.bind fun t => (Returns.punctuator _).bind fun _ => returns_marked _
    · exact hnamed

lemma returns_arguments (depth : Nat) : Returns (arguments depth) :=
  .block (fun depth => returns_entry (returns_value false depth)) depth

lemma returns_directives (depth : Nat) : Returns (directives depth) := by
  have hd : Returns (directive depth) :=
    (Returns.punctuator _).bind fun _ => Returns.anyName.bind fun _ =>
      (returns_arguments depth).bind fun _ => .pure _
  exact hd.many

lemma returns_variableDefinition (depth : Nat) : Returns (variableDefinition depth) :=
  (Returns.punctuator _).bind fun _ => Returns.anyName.bind fun _ => (Returns.punctuator _).bind fun _ =>
    (returns_typeExpr depth).bind fun _ => (returns_defaultValue depth).bind fun _ => .pure _

section Selections

variable {set : Parser SelectionSet} (hset : Returns set)
include hset

lemma returns_field (depth : Nat) : Returns (field depth set) := by
  have hsecond : Returns (do let _ ← punctuator .colon; anyName) :=
    (Returns.punctuator _).bind fun _ => Returns.anyName
  refine Returns.here.bind fun mark => Returns.anyName.bind fun first => hsecond.optional.bind fun second => ?_
  refine (returns_arguments depth).bind fun args => (returns_directives depth).bind fun ds => ?_
  refine hset.optional.bind fun selections => ?_
  cases second <;> exact .pure _

lemma returns_inline (depth : Nat) (mark : Mark) : Returns (dotted.inline depth set mark) := by
  have hcondition : Returns condition := (Returns.keyword _).bind fun _ => Returns.anyName
  exact hcondition.optional.bind fun _ => (returns_directives depth).bind fun _ => hset.bind fun _ => .pure _

lemma returns_dotted (depth : Nat) : Returns (dotted depth set) := by
  refine Returns.here.bind fun mark => .look_bind fun o _ => ?_
  split
  · split
    · exact Returns.anyName.bind fun _ => (returns_directives depth).bind fun _ => .pure _
    · exact returns_inline hset depth mark
  · exact returns_inline hset depth mark

lemma returns_selection (depth : Nat) : Returns (selection depth set) := by
  refine (Returns.accept _).bind fun b => ?_
  split
  · exact returns_dotted hset depth
  · exact (returns_field hset depth).map

end Selections

lemma returns_selectionSet (depth : Nat) : Returns (selectionSet depth) := by
  induction depth with
  | zero => exact .fail
  | succ depth ih =>
    exact Returns.here.bind fun _ => (returns_selection ih depth).enclosedSome.bind fun _ => .pure _

lemma returns_operation (mark : Mark) (o : OperationType) : Returns (operation mark o) :=
  Returns.anyName.optional.bind fun _ => (Returns.block returns_variableDefinition _).bind fun _ =>
    (returns_directives _).bind fun _ => (returns_selectionSet _).bind fun _ => .pure _

lemma returns_fragment (mark : Mark) : Returns (fragment mark) := by
  have hcondition : Returns condition := (Returns.keyword _).bind fun _ => Returns.anyName
  exact Returns.anyName.bind fun _ => hcondition.bind fun _ => (returns_directives _).bind fun _ =>
    (returns_selectionSet _).bind fun _ => .pure _

lemma returns_executableDefinition : Returns executableDefinition := by
  refine .look_bind fun o _ => ?_
  split
  · refine (Returns.keyword _).bind fun mark => ?_
    split
    · exact (returns_operation mark _).map
    · split
      · exact (returns_fragment mark).map
      · exact .fail
  · exact (returns_selectionSet _).map

lemma returns_executableDocument : Returns executableDocument :=
  returns_executableDefinition.bind fun _ => returns_executableDefinition.many.bind fun _ => .pure _

lemma returns_description : Returns description := by
  refine .look_bind fun o ho => ?_
  split
  · exact .next_bind fun _ _ => .pure _
  · exact .next_bind fun _ _ => (Returns.unblocked (ho _ rfl)).bind fun _ => .pure _
  · exact .pure none

lemma returns_inputValue (depth : Nat) : Returns (inputValue depth) :=
  Returns.here.bind fun _ => returns_description.bind fun _ => Returns.anyName.bind fun _ =>
    (Returns.punctuator _).bind fun _ => (returns_typeExpr depth).bind fun _ =>
      (returns_defaultValue depth).bind fun _ => (returns_directives depth).bind fun _ => .pure _

lemma returns_inputValues (opening closing : Punctuator) (depth : Nat) :
    Returns (inputValues opening closing depth) :=
  .block returns_inputValue depth

lemma returns_fieldDefinition (depth : Nat) : Returns (fieldDefinition depth) :=
  Returns.here.bind fun _ => returns_description.bind fun _ => Returns.anyName.bind fun _ =>
    (returns_inputValues _ _ depth).bind fun _ => (Returns.punctuator _).bind fun _ =>
      (returns_typeExpr depth).bind fun _ => (returns_directives depth).bind fun _ => .pure _

lemma returns_enumValue (depth : Nat) : Returns (enumValue depth) :=
  Returns.here.bind fun _ => returns_description.bind fun _ => Returns.anyName.bind fun _ =>
    (returns_directives depth).bind fun _ => .pure _

lemma returns_typeBody (k : TypeKeyword) : Returns (typeBody k) := by
  have hinterfaces : Returns interfaces := by
    refine Returns.bind (Returns.optional ?_) fun _ => .pure _
    exact (Returns.keyword _).bind fun _ => (Returns.accept _).bind fun _ => Returns.anyName.separated
  have hmembers : Returns unionMembers := by
    refine Returns.bind (Returns.optional ?_) fun _ => .pure _
    exact (Returns.punctuator _).bind fun _ => (Returns.accept _).bind fun _ => Returns.anyName.separated
  have hds : Returns (directives maxDepth) := returns_directives _
  cases k with
  | scalar => exact hds.bind fun _ => .pure _
  | type | interface =>
    exact hinterfaces.bind fun _ => hds.bind fun _ =>
      (Returns.block returns_fieldDefinition _).bind fun _ => .pure _
  | union => exact hds.bind fun _ => hmembers.bind fun _ => .pure _
  | enum => exact hds.bind fun _ => (Returns.block returns_enumValue _).bind fun _ => .pure _
  | input => exact hds.bind fun _ => (returns_inputValues _ _ _).bind fun _ => .pure _

lemma returns_typeKeyword : Returns typeKeyword := by
  refine .next_bind fun t _ => ?_
  split
  · split
    · exact .pure _
    · exact .fail
  · exact .fail

lemma returns_typeDefinition (description : Option String) : Returns (typeDefinition description) :=
  returns_typeKeyword.bind fun (_, k) => Returns.anyName.bind fun _ => (returns_typeBody k).bind fun _ => .pure _

lemma returns_typeExtension : Returns typeExtension := by
  refine returns_typeKeyword.bind fun (_, k) => Returns.anyName.bind fun _ => (returns_typeBody k).bind fun _ => ?_
  dsimp only
  split
  · exact .pure _
  · exact .fail

lemma returns_directiveLocations : Returns directiveLocations := by
  have hlocation : Returns directiveLocation := by
    refine Returns.anyName.bind fun _ => ?_
    split
    · exact .pure _
    · exact .fail
  refine Returns.bind (Returns.optional ?_) fun _ => .pure _
  exact (Returns.accept _).bind fun _ => hlocation.separated

lemma returns_directiveDefinition (description : Option String) : Returns (directiveDefinition description) :=
  (Returns.keyword _).bind fun _ => (Returns.punctuator _).bind fun _ => Returns.anyName.bind fun _ =>
    (returns_inputValues _ _ _).bind fun _ => (Returns.accept _).bind fun _ => (Returns.keyword _).bind fun _ =>
      returns_directiveLocations.bind fun _ => .pure _

lemma returns_rootOf (o : OperationType) (roots : List (OperationType × String)) : Returns (rootOf o roots) := by
  rw [rootOf]
  split
  · exact .pure none
  · exact .pure _
  · exact .fail

lemma returns_schemaDefinition : Returns schemaDefinition := by
  have hroot : Returns rootType := by
    refine Returns.anyName.bind fun _ => ?_
    split
    · exact (Returns.punctuator _).bind fun _ => Returns.anyName.bind fun _ => .pure _
    · exact .fail
  exact (Returns.keyword _).bind fun _ => (returns_directives _).bind fun _ => hroot.enclosed.bind fun roots =>
    (returns_rootOf _ roots).bind fun _ => (returns_rootOf _ roots).bind fun _ =>
      (returns_rootOf _ roots).bind fun _ => .pure _

lemma returns_schemaItem : Returns schemaItem := by
  refine .look_bind fun o _ => ?_
  split
  · exact returns_schemaDefinition.map
  · exact (Returns.keyword _).bind fun _ => returns_typeExtension.map
  · refine returns_description.bind fun description => .look_bind fun o _ => ?_
    split
    · exact (returns_directiveDefinition description).map
    · exact (returns_typeDefinition description).map

lemma returns_schemaDocument : Returns schemaDocument :=
  returns_schemaItem.bind fun _ => returns_schemaItem.many.bind fun _ => .pure _

end Grammar

end GraphQLTree.Source
