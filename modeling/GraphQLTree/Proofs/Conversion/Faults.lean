import GraphQLTree.Proofs.Conversion.Split
import Mathlib.Tactic.Tauto

namespace GraphQLTree.Source

section Names

def TypeExpr.innermost : TypeExpr → String
  | named s => s
  | list t | nonNull t => t.innermost

def TypeExpr.isDoubled : TypeExpr → Bool
  | named _ => false
  | list t => t.isDoubled
  | nonNull t => t.isNonNull || t.isDoubled

mutual

def Value.names : Value → List String
  | .var s => [s]
  | .list items => Value.namesAll items
  | .object entries => Entry.namesAll entries
  | .int _ | .float _ | .string _ | .boolean _ | .null | .enum _ => []

def Value.namesAll : List Value → List String
  | [] => []
  | v :: vs => v.names ++ Value.namesAll vs

def Entry.namesAll : List Entry → List String
  | [] => []
  | ⟨key, value⟩ :: es => key :: (value.names ++ Entry.namesAll es)

end

def Entry.names (e : Entry) : List String :=
  e.key :: e.value.names

def Directive.names (d : Directive) : List String :=
  d.name :: d.arguments.flatMap (·.names)

def VariableDefinition.names (d : VariableDefinition) : List String :=
  d.name :: d.type.innermost :: d.defaultValue.toList.flatMap (·.names)

def FragmentSpread.names (s : FragmentSpread) : List String :=
  s.name :: s.directives.flatMap (·.names)

mutual

def Selection.names : Selection → List String
  | .field f => f.names
  | .spread s => s.names
  | .inline f => f.names

def Selection.namesAll : List Selection → List String
  | [] => []
  | s :: ss => s.names ++ Selection.namesAll ss

def Field.names : Field → List String
  | ⟨_, aliasName, name, arguments, directives, set⟩ =>
    aliasName.toList ++ name :: (arguments.flatMap (·.names) ++ directives.flatMap (·.names) ++ set.names)

def InlineFragment.names : InlineFragment → List String
  | ⟨_, typeCondition, directives, set⟩ => typeCondition.toList ++ directives.flatMap (·.names) ++ set.names

def SelectionSet.names : SelectionSet → List String
  | ⟨_, items⟩ => Selection.namesAll items

end

def Operation.names (o : Operation) : List String :=
  o.name.toList ++ o.variableDefinitions.flatMap (·.names) ++ o.directives.flatMap (·.names) ++
    o.selectionSet.names

def Fragment.names (f : Fragment) : List String :=
  f.name :: f.typeCondition :: (f.directives.flatMap (·.names) ++ f.selectionSet.names)

def ExecutableDefinition.names : ExecutableDefinition → List String
  | shorthand set => set.names
  | operation o => o.names
  | fragment f => f.names

def InputValue.names (v : InputValue) : List String :=
  v.name :: v.type.innermost :: (v.defaultValue.toList.flatMap (·.names) ++ v.directives.flatMap (·.names))

def FieldDefinition.names (f : FieldDefinition) : List String :=
  f.name :: (f.arguments.flatMap (·.names) ++ f.type.innermost :: f.directives.flatMap (·.names))

def EnumValue.names (v : EnumValue) : List String :=
  v.name :: v.directives.flatMap (·.names)

def TypeBody.names : TypeBody → List String
  | scalar => []
  | object interfaces fields | interface interfaces fields => interfaces ++ fields.flatMap (·.names)
  | union types => types
  | enum values => values.flatMap (·.names)
  | inputObject fields => fields.flatMap (·.names)

def TypeDefinition.names (d : TypeDefinition) : List String :=
  d.name :: (d.directives.flatMap (·.names) ++ d.body.names)

def TypeExtension.names (d : TypeExtension) : List String :=
  d.name :: (d.directives.flatMap (·.names) ++ d.body.names)

def DirectiveDefinition.names (d : DirectiveDefinition) : List String :=
  d.name :: d.arguments.flatMap (·.names)

def SchemaDefinition.names (d : SchemaDefinition) : List String :=
  d.directives.flatMap (·.names) ++ d.query.toList ++ d.mutation.toList ++ d.subscription.toList

def SchemaItem.names : SchemaItem → List String
  | schema d => d.names
  | type d => d.names
  | extension d => d.names
  | directive d => d.names

end Names

section Types

def ExecutableDefinition.types : ExecutableDefinition → List TypeExpr
  | operation o => o.variableDefinitions.map (·.type)
  | shorthand _ | fragment _ => []

def FieldDefinition.types (f : FieldDefinition) : List TypeExpr :=
  f.type :: f.arguments.map (·.type)

def TypeBody.types : TypeBody → List TypeExpr
  | object _ fields | interface _ fields => fields.flatMap (·.types)
  | inputObject fields => fields.map (·.type)
  | scalar | union _ | enum _ => []

def SchemaItem.types : SchemaItem → List TypeExpr
  | schema _ => []
  | type d => d.body.types
  | extension d => d.body.types
  | directive d => d.arguments.map (·.type)

end Types

/-- A check that passes when there is neither an empty name nor a doubled mark, and else tells one that
there is. -/
def Judges (empty doubled : Prop) : Check → Prop
  | .ok _ => ¬empty ∧ ¬doubled
  | .error e => e = .emptyName ∧ empty ∨ e = .nestedNonNull ∧ doubled

section Rules

variable {α : Type} {p p' q q' : Prop} {c c' : Check}

lemma Judges.congr (h : Judges p q c) (hp : p ↔ p') (hq : q ↔ q') : Judges p' q' c := by
  rwa [← propext hp, ← propext hq]

lemma judges_nothing : Judges False False (.ok ()) :=
  ⟨id, id⟩

lemma judges_name (s : String) : Judges ("" = s) False (checkName s) := by
  rw [checkName]
  split
  · next hs => exact .inl ⟨rfl, hs.symm⟩
  · next hs => exact ⟨fun h => hs h.symm, id⟩

lemma Judges.bind (h : Judges p q c) (h' : Judges p' q' c') : Judges (p ∨ p') (q ∨ q') (do c; c') := by
  cases c with
  | error e => exact h.imp (And.imp_right .inl) (And.imp_right .inl)
  | ok u =>
    obtain ⟨hp, hq⟩ := h
    exact Judges.congr h' (or_iff_right hp).symm (or_iff_right hq).symm

lemma Judges.list {as : List α} {check : α → Check} {p q : α → Prop} (h : ∀ a ∈ as, Judges (p a) (q a) (check a)) :
    Judges (∃ a ∈ as, p a) (∃ a ∈ as, q a) (as.forM check) := by
  induction as with
  | nil => exact judges_nothing.congr (by simp) (by simp)
  | cons a as ih =>
    obtain ⟨ha, has⟩ := List.forall_mem_cons.mp h
    exact (ha.bind (ih has)).congr (by simp) (by simp)

lemma Judges.option {o : Option α} {check : α → Check} {p q : α → Prop} (h : ∀ a ∈ o, Judges (p a) (q a) (check a)) :
    Judges (∃ a ∈ o, p a) (∃ a ∈ o, q a) (o.forM check) := by
  cases o with
  | none => exact judges_nothing.congr (by simp) (by simp)
  | some a => exact (h a rfl).congr (by simp) (by simp)

lemma exists_mem_flatMap {α β : Type} {f : α → List β} {as : List α} {p : β → Prop} :
    (∃ b ∈ as.flatMap f, p b) ↔ ∃ a ∈ as, ∃ b ∈ f a, p b := by
  constructor
  · rintro ⟨b, hb, hp⟩
    obtain ⟨a, ha, hb⟩ := List.mem_flatMap.mp hb
    exact ⟨a, ha, b, hb, hp⟩
  · rintro ⟨a, ha, b, hb, hp⟩
    exact ⟨b, List.mem_flatMap.mpr ⟨a, ha, hb⟩, hp⟩

end Rules

lemma TypeExpr.judges (t : TypeExpr) : Judges ("" = t.innermost) (t.isDoubled = true) t.check := by
  induction t with
  | named s => exact (judges_name s).congr Iff.rfl (by simp [isDoubled])
  | list t ih => exact ih
  | nonNull t ih =>
    have hmark : Judges False (t.isNonNull = true) t.checkNullable := by
      rw [checkNullable]
      split
      · next h => exact .inr ⟨rfl, h⟩
      · next h => exact ⟨id, h⟩
    exact (ih.bind hmark).congr (or_false _).to_iff (by simp [isDoubled, or_comm])

mutual

lemma Value.judges : ∀ v : Value, Judges ("" ∈ v.names) False v.check
  | .var s => by
    rw [Value.check, Value.names]
    exact (judges_name s).congr List.mem_singleton.symm Iff.rfl
  | .list items => by
    rw [Value.check, Value.names]
    exact Value.judges_all items
  | .object entries => by
    rw [Value.check, Value.names]
    exact Entry.judges_all entries
  | .int _ | .float _ | .string _ | .boolean _ | .null | .enum _ => by
    rw [Value.check, Value.names]
    exact judges_nothing.congr (by simp) Iff.rfl

lemma Value.judges_all : ∀ vs : List Value, Judges ("" ∈ Value.namesAll vs) False (Value.checkAll vs)
  | [] => by
    rw [Value.checkAll, Value.namesAll]
    exact judges_nothing.congr (by simp) Iff.rfl
  | v :: vs => by
    rw [Value.checkAll, Value.namesAll]
    exact ((Value.judges v).bind (Value.judges_all vs)).congr List.mem_append.symm (or_self_iff)

lemma Entry.judges_all : ∀ es : List Entry, Judges ("" ∈ Entry.namesAll es) False (Entry.checkAll es)
  | [] => by
    rw [Entry.checkAll, Entry.namesAll]
    exact judges_nothing.congr (by simp) Iff.rfl
  | ⟨key, value⟩ :: es => by
    rw [Entry.checkAll, Entry.namesAll]
    exact ((judges_name key).bind ((Value.judges value).bind (Entry.judges_all es))).congr (by simp) (by simp)

end

lemma Entry.judges (e : Entry) : Judges ("" ∈ e.names) False e.check :=
  ((judges_name e.key).bind e.value.judges).congr List.mem_cons.symm (or_self_iff)

lemma Directive.judges (d : Directive) : Judges ("" ∈ d.names) False d.check :=
  ((judges_name d.name).bind (.list fun e _ => e.judges)).congr (by simp [names]) (by simp)

lemma judges_directives (ds : List Directive) :
    Judges ("" ∈ ds.flatMap (·.names)) False (ds.forM Directive.check) :=
  (Judges.list fun d _ => d.judges).congr List.mem_flatMap.symm (by simp)

lemma VariableDefinition.judges (d : VariableDefinition) :
    Judges ("" ∈ d.names) (d.type.isDoubled = true) d.check := by
  refine ((judges_name d.name).bind ((Judges.option fun v _ => v.judges).bind d.type.judges)).congr ?_ (by simp)
  simp [names, or_comm]

lemma FragmentSpread.judges (s : FragmentSpread) : Judges ("" ∈ s.names) False s.check :=
  ((judges_name s.name).bind (judges_directives s.directives)).congr List.mem_cons.symm (or_self_iff)

mutual

lemma Selection.judges : ∀ s : Selection, Judges ("" ∈ s.names) False s.check
  | .field f => by
    rw [Selection.check, Selection.names]
    exact Field.judges f
  | .spread s => by
    rw [Selection.check, Selection.names]
    exact s.judges
  | .inline f => by
    rw [Selection.check, Selection.names]
    exact InlineFragment.judges f

lemma Selection.judges_all : ∀ ss : List Selection, Judges ("" ∈ Selection.namesAll ss) False (Selection.checkAll ss)
  | [] => by
    rw [Selection.checkAll, Selection.namesAll]
    exact judges_nothing.congr (by simp) Iff.rfl
  | s :: ss => by
    rw [Selection.checkAll, Selection.namesAll]
    exact ((Selection.judges s).bind (Selection.judges_all ss)).congr List.mem_append.symm (or_self_iff)

lemma Field.judges : ∀ f : Field, Judges ("" ∈ f.names) False f.check
  | ⟨mark, aliasName, name, arguments, directives, set⟩ => by
    rw [Field.check, Field.names]
    have hargs : Judges (∃ e ∈ arguments, "" ∈ e.names) (∃ e ∈ arguments, False) (arguments.forM Entry.check) :=
      .list fun e _ => e.judges
    have halias : Judges (∃ s ∈ aliasName, "" = s) (∃ s ∈ aliasName, False) (aliasName.forM checkName) :=
      .option fun s _ => judges_name s
    -- The set is checked first; among the names it comes last, where it is written.
    refine ((SelectionSet.judges set).bind (halias.bind ((judges_name name).bind
      (hargs.bind (judges_directives directives))))).congr ?_ (by simp)
    simp [or_assoc, or_comm, or_left_comm]

lemma InlineFragment.judges : ∀ f : InlineFragment, Judges ("" ∈ f.names) False f.check
  | ⟨mark, typeCondition, directives, set⟩ => by
    rw [InlineFragment.check, InlineFragment.names]
    have htype : Judges (∃ s ∈ typeCondition, "" = s) (∃ s ∈ typeCondition, False) (typeCondition.forM checkName) :=
      .option fun s _ => judges_name s
    refine (htype.bind ((SelectionSet.judges set).bind (judges_directives directives))).congr ?_ (by simp)
    simp [or_comm]

lemma SelectionSet.judges : ∀ set : SelectionSet, Judges ("" ∈ set.names) False set.check
  | ⟨mark, items⟩ => by
    rw [SelectionSet.check, SelectionSet.names]
    exact Selection.judges_all items

end

lemma Operation.judges (o : Operation) :
    Judges ("" ∈ o.names) (∃ d ∈ o.variableDefinitions, d.type.isDoubled = true) o.check := by
  have hname : Judges (∃ s ∈ o.name, "" = s) (∃ s ∈ o.name, False) (o.name.forM checkName) :=
    .option fun s _ => judges_name s
  have hvars : Judges (∃ d ∈ o.variableDefinitions, "" ∈ d.names)
      (∃ d ∈ o.variableDefinitions, d.type.isDoubled = true) (o.variableDefinitions.forM VariableDefinition.check) :=
    .list fun d _ => d.judges
  refine (hname.bind (hvars.bind (o.selectionSet.judges.bind (judges_directives o.directives)))).congr ?_ (by simp)
  simp [names, or_comm]

lemma Fragment.judges (f : Fragment) : Judges ("" ∈ f.names) False f.check := by
  refine ((judges_name f.name).bind ((judges_name f.typeCondition).bind
    (f.selectionSet.judges.bind (judges_directives f.directives)))).congr ?_ (by simp)
  simp [names, or_comm]

lemma ExecutableDefinition.judges (d : ExecutableDefinition) :
    Judges ("" ∈ d.names) (∃ t ∈ d.types, t.isDoubled = true) d.check := by
  cases d with
  | shorthand set => exact set.judges.congr Iff.rfl (by simp [types])
  | operation o => exact o.judges.congr Iff.rfl (by simp [types])
  | fragment f => exact f.judges.congr Iff.rfl (by simp [types])

lemma InputValue.judges (v : InputValue) : Judges ("" ∈ v.names) (v.type.isDoubled = true) v.check := by
  have hdefault : Judges (∃ w ∈ v.defaultValue, "" ∈ w.names) (∃ w ∈ v.defaultValue, False)
      (v.defaultValue.forM Value.check) := .option fun w _ => w.judges
  refine (hdefault.bind ((judges_name v.name).bind (v.type.judges.bind (judges_directives v.directives)))).congr
    ?_ (by simp)
  simp [names, or_assoc, or_comm]

lemma judges_inputValues (vs : List InputValue) :
    Judges ("" ∈ vs.flatMap (·.names)) (∃ t ∈ vs.map (·.type), t.isDoubled = true) (vs.forM InputValue.check) :=
  (Judges.list fun v _ => v.judges).congr List.mem_flatMap.symm (by simp)

lemma FieldDefinition.judges (f : FieldDefinition) :
    Judges ("" ∈ f.names) (∃ t ∈ f.types, t.isDoubled = true) f.check := by
  refine ((judges_name f.name).bind (f.type.judges.bind ((judges_inputValues f.arguments).bind
    (judges_directives f.directives)))).congr ?_ (by simp [types])
  simp [names, or_assoc, or_comm]

lemma EnumValue.judges (v : EnumValue) : Judges ("" ∈ v.names) False v.check :=
  ((judges_name v.name).bind (judges_directives v.directives)).congr List.mem_cons.symm (or_self_iff)

lemma TypeBody.judges (body : TypeBody) (directives : List Directive) :
    Judges ("" ∈ directives.flatMap (·.names) ∨ "" ∈ body.names) (∃ t ∈ body.types, t.isDoubled = true)
      (body.check directives) := by
  have hds := judges_directives directives
  have hnames (ss : List String) : Judges ("" ∈ ss) False (ss.forM checkName) :=
    (Judges.list fun s _ => judges_name s).congr (by simp) (by simp)
  cases body with
  | scalar => exact hds.congr (by simp [names]) (by simp [types])
  | object interfaces fields | interface interfaces fields =>
    refine ((hnames interfaces).bind (hds.bind (.list fun f _ => f.judges))).congr ?_ ?_
    · simp [names, or_left_comm]
    · simp [types, -List.mem_flatMap, exists_mem_flatMap]
  | union ss => exact (hds.bind (hnames ss)).congr Iff.rfl (by simp [types])
  | enum values => exact (hds.bind (.list fun v _ => v.judges)).congr (by simp [names]) (by simp [types])
  | inputObject fields => exact (hds.bind (judges_inputValues fields)).congr Iff.rfl (by simp [types])

lemma TypeDefinition.judges (d : TypeDefinition) :
    Judges ("" ∈ d.names) (∃ t ∈ d.body.types, t.isDoubled = true) d.check :=
  ((judges_name d.name).bind (d.body.judges d.directives)).congr (by simp [names]) (false_or _).to_iff

lemma TypeExtension.judges (d : TypeExtension) :
    Judges ("" ∈ d.names) (∃ t ∈ d.body.types, t.isDoubled = true) d.check :=
  ((judges_name d.name).bind (d.body.judges d.directives)).congr (by simp [names]) (false_or _).to_iff

lemma DirectiveDefinition.judges (d : DirectiveDefinition) :
    Judges ("" ∈ d.names) (∃ t ∈ d.arguments.map (·.type), t.isDoubled = true) d.check :=
  ((judges_name d.name).bind (judges_inputValues d.arguments)).congr List.mem_cons.symm (false_or _).to_iff

lemma SchemaDefinition.judges (d : SchemaDefinition) : Judges ("" ∈ d.names) False d.check := by
  have hroots : Judges (∃ root ∈ d.roots, "" = root.2) (∃ root ∈ d.roots, False)
      (d.roots.forM fun root => checkName root.2) := .list fun root _ => judges_name root.2
  refine (hroots.bind (judges_directives d.directives)).congr ?_ (by simp)
  simp [names, roots, exists_or, or_comm]

lemma SchemaItem.judges (item : SchemaItem) :
    Judges ("" ∈ item.names) (∃ t ∈ item.types, t.isDoubled = true) item.check := by
  cases item with
  | schema d => exact d.judges.congr Iff.rfl (by simp [types])
  | type d => exact d.judges
  | extension d => exact d.judges
  | directive d => exact d.judges

section Documents

structure FailsRightly (names : List String) (types : List TypeExpr) (r : Conversion Document) : Prop where
  fails_iff : (∃ e, r = .error e) ↔ "" ∈ names ∨ ∃ t ∈ types, t.isDoubled = true
  of_empty : "" ∈ names → (∀ t ∈ types, t.isDoubled = false) → r = .error .emptyName
  of_doubled : "" ∉ names → (∃ t ∈ types, t.isDoubled = true) → r = .error .nestedNonNull
  of_both : "" ∈ names → (∃ t ∈ types, t.isDoubled = true) → r = .error .emptyName ∨ r = .error .nestedNonNull

lemma Judges.failsRightly {names : List String} {types : List TypeExpr} {check : Check} {d : Document}
    (h : Judges ("" ∈ names) (∃ t ∈ types, t.isDoubled = true) check) :
    FailsRightly names types (do check; return d) := by
  cases check with
  | ok u =>
    obtain ⟨hn, ht⟩ := h
    exact ⟨iff_of_false nofun (not_or_intro hn ht), fun h => absurd h hn, fun _ h => absurd h ht,
      fun h => absurd h hn⟩
  | error e =>
    rcases h with ⟨rfl, hn⟩ | ⟨rfl, ht⟩
    · exact ⟨iff_of_true ⟨_, rfl⟩ (.inl hn), fun _ _ => rfl, fun h => absurd hn h, fun _ _ => .inl rfl⟩
    · refine ⟨iff_of_true ⟨_, rfl⟩ (.inr ht), fun _ h => ?_, fun _ _ => rfl, fun _ _ => .inr rfl⟩
      obtain ⟨t, ht, hd⟩ := ht
      exact absurd hd (Bool.eq_false_iff.mp (h t ht))

lemma judges_documents {α : Type} {items : List α} {check : α → Check} {names : α → List String}
    {types : α → List TypeExpr}
    (h : ∀ item, Judges ("" ∈ names item) (∃ t ∈ types item, t.isDoubled = true) (check item)) :
    Judges ("" ∈ items.flatMap names) (∃ t ∈ items.flatMap types, t.isDoubled = true) (items.forM check) :=
  (Judges.list fun item _ => h item).congr List.mem_flatMap.symm exists_mem_flatMap.symm

/-- A conversion fails just when a name is empty, wherever it stands, or a non-null mark stands directly
on another one. It tells a fault that there is. -/
theorem failsRightly_documents :
    (∀ (lines : Lines) (items : List SchemaItem),
      FailsRightly (items.flatMap (·.names)) (items.flatMap (·.types)) (schemaDocument lines items)) ∧
    ∀ (lines : Lines) (definitions : List ExecutableDefinition),
      FailsRightly (definitions.flatMap (·.names)) (definitions.flatMap (·.types))
        (executableDocument lines definitions) := by
  constructor
  · intro lines items
    rw [schemaDocument_eq]
    exact (judges_documents SchemaItem.judges).failsRightly
  · intro lines definitions
    rw [executableDocument_eq]
    exact (judges_documents ExecutableDefinition.judges).failsRightly

end Documents

end GraphQLTree.Source
