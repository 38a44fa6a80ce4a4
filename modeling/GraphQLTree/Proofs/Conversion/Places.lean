import GraphQLTree.Proofs.Conversion.Split
import GraphQLTree.Proofs.Shape
import GraphQLTree.Source.Token

/-! Where the nodes of a converted document lie. Every mark of a document opens a construct, and the
located nodes lie at those marks; two conversions of one document have one shape, and what links the
places of a mark links the nodes at it. -/

namespace GraphQLTree

open Source (Token)

def Node.opening : Node → Option Token
  | .selectionSet _ => some (.punctuator .braceOpen)
  | .directive _ => some (.punctuator .at)
  | .selection (.field f) => some (.name (f.aliasName.getD f.name).value)
  | _ => none

namespace Source

/-- A mark, and the token there, as far as the construct that is marked tells it. -/
structure Opening where
  mark : Mark
  token : Option Token

def Directive.openings (d : Directive) : List Opening :=
  [⟨d.mark, some (.punctuator .at)⟩]

def VariableDefinition.openings (d : VariableDefinition) : List Opening :=
  [⟨d.mark, none⟩]

def FragmentSpread.openings (s : FragmentSpread) : List Opening :=
  ⟨s.mark, none⟩ :: s.directives.flatMap (·.openings)

mutual

def Selection.openings : Selection → List Opening
  | .field f => f.openings
  | .spread s => s.openings
  | .inline f => f.openings

def Selection.openingsAll : List Selection → List Opening
  | [] => []
  | s :: ss => s.openings ++ Selection.openingsAll ss

def Field.openings : Field → List Opening
  | ⟨mark, aliasName, name, _, directives, set⟩ =>
    ⟨mark, some (.name (aliasName.getD name))⟩ :: (directives.flatMap (·.openings) ++ set.openings?)

def InlineFragment.openings : InlineFragment → List Opening
  | ⟨mark, _, directives, set⟩ => ⟨mark, none⟩ :: (directives.flatMap (·.openings) ++ set.openings)

def SelectionSet.openings : SelectionSet → List Opening
  | ⟨mark, items⟩ => ⟨mark, some (.punctuator .braceOpen)⟩ :: Selection.openingsAll items

def SelectionSet.openings? : SelectionSet → List Opening
  | ⟨_, []⟩ => []
  | ⟨mark, item :: items⟩ =>
    ⟨mark, some (.punctuator .braceOpen)⟩ :: (item.openings ++ Selection.openingsAll items)

end

def Operation.openings (o : Operation) : List Opening :=
  ⟨o.mark, none⟩ :: (o.variableDefinitions.flatMap (·.openings) ++ o.directives.flatMap (·.openings) ++
    o.selectionSet.openings)

def Fragment.openings (f : Fragment) : List Opening :=
  ⟨f.mark, none⟩ :: (f.directives.flatMap (·.openings) ++ f.selectionSet.openings)

def ExecutableDefinition.openings : ExecutableDefinition → List Opening
  | shorthand set => set.openings
  | operation o => o.openings
  | fragment f => f.openings

def InputValue.openings (v : InputValue) : List Opening :=
  ⟨v.mark, none⟩ :: v.directives.flatMap (·.openings)

def FieldDefinition.openings (f : FieldDefinition) : List Opening :=
  ⟨f.mark, none⟩ :: (f.arguments.flatMap (·.openings) ++ f.directives.flatMap (·.openings))

def EnumValue.openings (v : EnumValue) : List Opening :=
  ⟨v.mark, none⟩ :: v.directives.flatMap (·.openings)

def TypeBody.openings : TypeBody → List Opening
  | scalar | union _ => []
  | object _ fields | interface _ fields => fields.flatMap (·.openings)
  | enum values => values.flatMap (·.openings)
  | inputObject fields => fields.flatMap (·.openings)

def TypeDefinition.openings (d : TypeDefinition) : List Opening :=
  ⟨d.mark, none⟩ :: (d.directives.flatMap (·.openings) ++ d.body.openings)

def TypeExtension.openings (d : TypeExtension) : List Opening :=
  ⟨d.mark, none⟩ :: (d.directives.flatMap (·.openings) ++ d.body.openings)

def DirectiveDefinition.openings (d : DirectiveDefinition) : List Opening :=
  ⟨d.mark, none⟩ :: d.arguments.flatMap (·.openings)

def SchemaDefinition.openings (d : SchemaDefinition) : List Opening :=
  ⟨d.mark, none⟩ :: d.directives.flatMap (·.openings)

def SchemaItem.openings : SchemaItem → List Opening
  | schema d => d.openings
  | type d => d.openings
  | extension d => d.openings
  | directive d => d.openings

def Entry.objectField (e : Entry) : ObjectField :=
  ⟨referred e.key, e.value.tree, none⟩

lemma Value.trees_eq_map (vs : List Value) : Value.trees vs = vs.map Value.tree := by
  induction vs with
  | nil => simp [trees]
  | cons v vs ih => simp [trees, ih]

lemma Entry.objectFields_eq_map (es : List Entry) : Entry.objectFields es = es.map Entry.objectField := by
  induction es with
  | nil => simp [objectFields]
  | cons e es ih =>
    rcases e with ⟨key, value⟩
    simp [objectFields, objectField, ih]

lemma Selection.trees_eq_map (place : Mark → Location) (ss : List Selection) :
    Selection.trees place ss = ss.map (·.tree place) := by
  induction ss with
  | nil => simp [trees]
  | cons s ss ih => simp [trees, ih]

/-- What links the places of a mark in two conversions links the nodes at those places. -/
def Linked (R : Node → Node → Prop) (place place' : Mark → Location) (o : Opening) : Prop :=
  ∀ n m : Node, n.kind = m.kind → n.location = some (place o.mark) → m.location = some (place' o.mark) →
    (n.opening = none ∨ n.opening = o.token) → (m.opening = none ∨ m.opening = o.token) → R n m

section Shape

set_option linter.unusedSectionVars false

variable {R : Node → Node → Prop} {place place' : Mark → Location}

lemma Linked.name {o : Opening} (h : Linked R place place' o) (s : String) :
    Matches R (.name (o.mark.named place s)) (.name (o.mark.named place' s)) :=
  .of_slots (h _ _ rfl rfl rfl (.inl rfl) (.inl rfl)) (.cons (.empty rfl rfl) (.cons (.empty rfl rfl) .nil))

lemma Linked.of_none {m : Mark} {token : Option Token} (h : Linked R place place' ⟨m, token⟩) :
    Linked R place place' ⟨m, none⟩ := by
  intro n n' hk hn hn' ho ho'
  exact h n n' hk hn hn' (.inl (or_self_iff.mp ho)) (.inl (or_self_iff.mp ho'))

variable (bare : ∀ n m : Node, n.kind = m.kind → n.location = none → m.location = none → R n m)
include bare

lemma matches_referred (s : String) : Matches R (.name (referred s)) (.name (referred s)) :=
  .of_slots (bare _ _ rfl rfl rfl) (.cons (.empty rfl rfl) (.cons (.empty rfl rfl) .nil))

lemma matches_namedType (s : String) :
    Matches R (.typeRef (.named (namedType s))) (.typeRef (.named (namedType s))) :=
  .of_slots (bare _ _ rfl rfl rfl) (.cons (.one (matches_referred bare s)) (.cons (.empty rfl rfl) .nil))

lemma matches_string (s : String) :
    Matches R (.value (.string ⟨s, false, none⟩)) (.value (.string ⟨s, false, none⟩)) :=
  .of_slots (bare _ _ rfl rfl rfl)
    (.cons (.empty rfl rfl) (.cons (.empty rfl rfl) (.cons (.empty rfl rfl) .nil)))

lemma TypeExpr.matches_tree (t : TypeExpr) : Matches R (.typeRef t.tree) (.typeRef t.tree) := by
  induction t with
  | named s => exact matches_namedType bare s
  | list t ih =>
    exact .of_slots (bare _ _ rfl rfl rfl) (.cons (.one ih) (.cons (.empty rfl rfl) .nil))
  | nonNull t ih =>
    exact .of_slots (bare _ _ rfl rfl rfl) (.cons (.checkedOne ih) (.cons (.empty rfl rfl) .nil))

mutual

lemma Value.matches_tree : ∀ v : Value, Matches R (.value v.tree) (.value v.tree)
  | .var s => .of_slots (bare _ _ rfl rfl rfl)
      (.cons (.one (matches_referred bare s)) (.cons (.empty rfl rfl) .nil))
  | .int _ | .float _ | .boolean _ | .enum _ =>
    .of_slots (bare _ _ rfl rfl rfl) (.cons (.empty rfl rfl) (.cons (.empty rfl rfl) .nil))
  | .string s => matches_string bare s
  | .null => .of_slots (bare _ _ rfl rfl rfl) (.cons (.empty rfl rfl) .nil)
  | .list items => by
    rw [Value.tree, Value.trees_eq_map]
    exact .of_slots (bare _ _ rfl rfl rfl)
      (.cons (.many (Value.matches_trees items)) (.cons (.empty rfl rfl) .nil))
  | .object entries => by
    rw [Value.tree, Entry.objectFields_eq_map]
    exact .of_slots (bare _ _ rfl rfl rfl)
      (.cons (.many (Entry.matches_objectFields entries)) (.cons (.empty rfl rfl) .nil))

lemma Value.matches_trees : ∀ vs : List Value, ∀ v ∈ vs, Matches R (.value v.tree) (.value v.tree)
  | [] => nofun
  | v :: vs => List.forall_mem_cons.mpr ⟨Value.matches_tree v, Value.matches_trees vs⟩

lemma Entry.matches_objectFields :
    ∀ es : List Entry, ∀ e ∈ es, Matches R (.objectField e.objectField) (.objectField e.objectField)
  | [] => nofun
  | ⟨key, value⟩ :: es => by
    refine List.forall_mem_cons.mpr ⟨?_, Entry.matches_objectFields es⟩
    exact .of_slots (bare _ _ rfl rfl rfl)
      (.cons (.one (matches_referred bare key)) (.cons (.one (Value.matches_tree value))
        (.cons (.empty rfl rfl) .nil)))

end

lemma Entry.matches_argument (e : Entry) : Matches R (.argument e.argument) (.argument e.argument) :=
  .of_slots (bare _ _ rfl rfl rfl)
    (.cons (.one (matches_referred bare e.key)) (.cons (.one (e.value.matches_tree bare))
      (.cons (.empty rfl rfl) .nil)))

lemma Directive.matches_tree (d : Directive) (h : ∀ o ∈ d.openings, Linked R place place' o) :
    Matches R (.directive (d.tree place)) (.directive (d.tree place')) := by
  have hd : Linked R place place' ⟨d.mark, some (.punctuator .at)⟩ := h _ List.mem_cons_self
  exact .of_slots (hd _ _ rfl rfl rfl (.inr rfl) (.inr rfl))
    (.cons (.one (hd.name d.name)) (.cons (.many fun e _ => e.matches_argument bare)
      (.cons (.empty rfl rfl) .nil)))

lemma matches_directives (ds : List Directive) (h : ∀ o ∈ ds.flatMap (·.openings), Linked R place place' o) :
    ∀ d ∈ ds, Matches R (.directive (d.tree place)) (.directive (d.tree place')) :=
  fun d hd => d.matches_tree bare (List.forall_mem_flatMap.mp h d hd)

lemma VariableDefinition.matches_tree (d : VariableDefinition)
    (h : ∀ o ∈ d.openings, Linked R place place' o) :
    Matches R (.variableDefinition (d.tree place)) (.variableDefinition (d.tree place')) := by
  have hd : Linked R place place' ⟨d.mark, none⟩ := h _ List.mem_cons_self
  have hv : Matches R (.value (.var (d.tree place).var)) (.value (.var (d.tree place').var)) :=
    .of_slots (hd _ _ rfl rfl rfl (.inl rfl) (.inl rfl))
      (.cons (.one (hd.name d.name)) (.cons (.empty rfl rfl) .nil))
  exact .of_slots (hd _ _ rfl rfl rfl (.inl rfl) (.inl rfl))
    (.cons (.one hv) (.cons (.one (d.type.matches_tree bare))
      (.cons (.optional fun v _ => v.matches_tree bare) (.cons (.empty rfl rfl)
        (.cons (.empty rfl rfl) .nil)))))

lemma FragmentSpread.matches_tree (s : FragmentSpread) (h : ∀ o ∈ s.openings, Linked R place place' o) :
    Matches R (.selection (.spread (s.tree place))) (.selection (.spread (s.tree place'))) := by
  obtain ⟨hs, hd⟩ := List.forall_mem_cons.mp h
  exact .of_slots (hs _ _ rfl rfl rfl (.inl rfl) (.inl rfl))
    (.cons (.one (matches_referred bare s.name)) (.cons (.many (matches_directives bare _ hd))
      (.cons (.empty rfl rfl) .nil)))

mutual

lemma Selection.matches_tree : ∀ s : Selection, (∀ o ∈ s.openings, Linked R place place' o) →
    Matches R (.selection (s.tree place)) (.selection (s.tree place'))
  | .field f, h => by
    simp only [Selection.tree]
    exact Field.matches_tree f (by simpa only [Selection.openings] using h)
  | .spread s, h => by
    simp only [Selection.tree]
    exact s.matches_tree bare (by simpa only [Selection.openings] using h)
  | .inline f, h => by
    simp only [Selection.tree]
    exact InlineFragment.matches_tree f (by simpa only [Selection.openings] using h)

lemma Selection.matches_trees : ∀ ss : List Selection,
    (∀ o ∈ Selection.openingsAll ss, Linked R place place' o) →
      ∀ s ∈ ss, Matches R (.selection (s.tree place)) (.selection (s.tree place'))
  | [], _ => nofun
  | s :: ss, h => by
    rw [Selection.openingsAll, List.forall_mem_append] at h
    exact List.forall_mem_cons.mpr ⟨Selection.matches_tree s h.1, Selection.matches_trees ss h.2⟩

lemma Field.matches_tree : ∀ f : Field, (∀ o ∈ f.openings, Linked R place place' o) →
    Matches R (.selection (.field (f.tree place))) (.selection (.field (f.tree place')))
  | ⟨mark, aliasName, name, arguments, directives, set⟩, h => by
    rw [Field.openings, List.forall_mem_cons, List.forall_mem_append] at h
    obtain ⟨hf, hd, hs⟩ := h
    simp only [Field.tree]
    refine .of_slots (hf _ _ rfl rfl rfl (.inr ?_) (.inr ?_))
      (.cons (.optional fun s _ => hf.name s) (.cons (.one (hf.name name))
        (.cons (.many fun e _ => e.matches_argument bare) (.cons (.many (matches_directives bare _ hd))
          (.cons (SelectionSet.matches_tree? set hs) (.cons (.empty rfl rfl) .nil))))))
    -- A field begins with its alias, if it has one.
    all_goals cases aliasName <;> rfl

lemma InlineFragment.matches_tree : ∀ f : InlineFragment, (∀ o ∈ f.openings, Linked R place place' o) →
    Matches R (.selection (.inline (f.tree place))) (.selection (.inline (f.tree place')))
  | ⟨mark, typeCondition, directives, set⟩, h => by
    rw [InlineFragment.openings, List.forall_mem_cons, List.forall_mem_append] at h
    obtain ⟨hf, hd, hs⟩ := h
    simp only [InlineFragment.tree]
    exact .of_slots (hf _ _ rfl rfl rfl (.inl rfl) (.inl rfl))
      (.cons (.optional fun s _ => matches_namedType bare s) (.cons (.many (matches_directives bare _ hd))
        (.cons (.one (SelectionSet.matches_tree set hs)) (.cons (.empty rfl rfl) .nil))))

lemma SelectionSet.matches_tree : ∀ set : SelectionSet, (∀ o ∈ set.openings, Linked R place place' o) →
    Matches R (.selectionSet (set.tree place)) (.selectionSet (set.tree place'))
  | ⟨mark, items⟩, h => by
    rw [SelectionSet.openings, List.forall_mem_cons] at h
    simp only [SelectionSet.tree, Selection.trees_eq_map]
    exact .of_slots (h.1 _ _ rfl rfl rfl (.inr rfl) (.inr rfl))
      (.cons (.many (Selection.matches_trees items h.2)) (.cons (.empty rfl rfl) .nil))

lemma SelectionSet.matches_tree? {put put' : Option GraphQLTree.SelectionSet → Node} :
    ∀ set : SelectionSet, (∀ o ∈ set.openings?, Linked R place place' o) →
      Slot.Matches R (.optional .selectionSet (set.tree? place) put)
        (.optional .selectionSet (set.tree? place') put')
  | ⟨_, []⟩, _ => by
    simp only [SelectionSet.tree?]
    exact .empty rfl rfl
  | ⟨mark, item :: items⟩, h => by
    rw [SelectionSet.openings?, List.forall_mem_cons, List.forall_mem_append] at h
    obtain ⟨hs, hi, his⟩ := h
    simp only [SelectionSet.tree?, Selection.trees_eq_map, ← List.map_cons]
    have hm : ∀ s ∈ item :: items, Matches R (.selection (s.tree place)) (.selection (s.tree place')) :=
      List.forall_mem_cons.mpr ⟨Selection.matches_tree item hi, Selection.matches_trees items his⟩
    exact .cons (.of_slots (hs _ _ rfl rfl rfl (.inr rfl) (.inr rfl))
      (.cons (.many hm) (.cons (.empty rfl rfl) .nil))) .nil

end

lemma Operation.matches_tree (o : Operation) (h : ∀ p ∈ o.openings, Linked R place place' p) :
    Matches R (.definition (.operation (o.tree place))) (.definition (.operation (o.tree place'))) := by
  simp only [openings, List.forall_mem_cons, List.forall_mem_append, List.forall_mem_flatMap] at h
  obtain ⟨ho, ⟨hv, hd⟩, hs⟩ := h
  exact .of_slots (ho _ _ rfl rfl rfl (.inl rfl) (.inl rfl))
    (.cons (.empty rfl rfl) (.cons (.optional fun s _ => ho.name s)
      (.cons (.many fun v hv' => v.matches_tree bare (hv v hv'))
        (.cons (.many fun d hd' => d.matches_tree bare (hd d hd'))
          (.cons (.one (SelectionSet.matches_tree bare _ hs)) (.cons (.empty rfl rfl) .nil))))))

lemma Fragment.matches_tree (f : Fragment) (h : ∀ o ∈ f.openings, Linked R place place' o) :
    Matches R (.definition (.fragment (f.tree place))) (.definition (.fragment (f.tree place'))) := by
  rw [openings, List.forall_mem_cons, List.forall_mem_append] at h
  obtain ⟨hf, hd, hs⟩ := h
  exact .of_slots (hf _ _ rfl rfl rfl (.inl rfl) (.inl rfl))
    (.cons (.one (hf.name f.name)) (.cons (.empty rfl rfl) (.cons (.one (matches_namedType bare _))
      (.cons (.many (matches_directives bare _ hd)) (.cons (.one (SelectionSet.matches_tree bare _ hs))
        (.cons (.empty rfl rfl) .nil))))))

lemma ExecutableDefinition.matches_tree (d : ExecutableDefinition)
    (h : ∀ o ∈ d.openings, Linked R place place' o) :
    Matches R (.definition (d.tree place)) (.definition (d.tree place')) := by
  cases d with
  | shorthand set =>
    have hs : Linked R place place' ⟨set.mark, none⟩ := by
      rcases set with ⟨mark, items⟩
      rw [openings, SelectionSet.openings, List.forall_mem_cons] at h
      exact h.1.of_none
    exact .of_slots (hs _ _ rfl rfl rfl (.inl rfl) (.inl rfl))
      (.cons (.empty rfl rfl) (.cons (.empty rfl rfl) (.cons (.empty rfl rfl) (.cons (.empty rfl rfl)
        (.cons (.one (SelectionSet.matches_tree bare _ h)) (.cons (.empty rfl rfl) .nil))))))
  | operation o => exact o.matches_tree bare h
  | fragment f => exact f.matches_tree bare h

lemma InputValue.matches_tree (v : InputValue) (h : ∀ o ∈ v.openings, Linked R place place' o) :
    Matches R (.inputValueDefinition (v.tree place)) (.inputValueDefinition (v.tree place')) := by
  obtain ⟨hv, hd⟩ := List.forall_mem_cons.mp h
  exact .of_slots (hv _ _ rfl rfl rfl (.inl rfl) (.inl rfl))
    (.cons (.optional fun s _ => matches_string bare s) (.cons (.one (hv.name v.name))
      (.cons (.one (v.type.matches_tree bare)) (.cons (.optional fun w _ => w.matches_tree bare)
        (.cons (.many (matches_directives bare _ hd)) (.cons (.empty rfl rfl) .nil))))))

lemma matches_inputValues (vs : List InputValue) (h : ∀ o ∈ vs.flatMap (·.openings), Linked R place place' o) :
    ∀ v ∈ vs, Matches R (.inputValueDefinition (v.tree place)) (.inputValueDefinition (v.tree place')) :=
  fun v hv => v.matches_tree bare (List.forall_mem_flatMap.mp h v hv)

lemma FieldDefinition.matches_tree (f : FieldDefinition) (h : ∀ o ∈ f.openings, Linked R place place' o) :
    Matches R (.fieldDefinition (f.tree place)) (.fieldDefinition (f.tree place')) := by
  rw [openings, List.forall_mem_cons, List.forall_mem_append] at h
  obtain ⟨hf, ha, hd⟩ := h
  exact .of_slots (hf _ _ rfl rfl rfl (.inl rfl) (.inl rfl))
    (.cons (.optional fun s _ => matches_string bare s) (.cons (.one (hf.name f.name))
      (.cons (.many (matches_inputValues bare _ ha)) (.cons (.one (f.type.matches_tree bare))
        (.cons (.many (matches_directives bare _ hd)) (.cons (.empty rfl rfl) .nil))))))

lemma EnumValue.matches_tree (v : EnumValue) (h : ∀ o ∈ v.openings, Linked R place place' o) :
    Matches R (.enumValueDefinition (v.tree place)) (.enumValueDefinition (v.tree place')) := by
  obtain ⟨hv, hd⟩ := List.forall_mem_cons.mp h
  exact .of_slots (hv _ _ rfl rfl rfl (.inl rfl) (.inl rfl))
    (.cons (.optional fun s _ => matches_string bare s) (.cons (.one (hv.name v.name))
      (.cons (.many (matches_directives bare _ hd)) (.cons (.empty rfl rfl) .nil))))

lemma TypeBody.matches_interfaceSlots (b : TypeBody) (put put' : GraphQLTree.TypeBody → Node) :
    List.Forall₂ (Slot.Matches R) ((b.tree place).interfaceSlots put) ((b.tree place').interfaceSlots put') := by
  cases b with
  | object | interface => exact .cons (.many fun s _ => matches_namedType bare s) .nil
  | scalar | union | enum | inputObject => exact .nil

lemma TypeBody.matches_memberSlots (b : TypeBody) (put put' : GraphQLTree.TypeBody → Node)
    (h : ∀ o ∈ b.openings, Linked R place place' o) :
    List.Forall₂ (Slot.Matches R) ((b.tree place).memberSlots put) ((b.tree place').memberSlots put') := by
  cases b with
  | scalar => exact .nil
  | object _ fields | interface _ fields =>
    rw [openings, List.forall_mem_flatMap] at h
    exact .cons (.many fun f hf => f.matches_tree bare (h f hf)) .nil
  | union types => exact .cons (.many fun s _ => matches_namedType bare s) .nil
  | enum values =>
    rw [openings, List.forall_mem_flatMap] at h
    exact .cons (.many fun v hv => v.matches_tree bare (h v hv)) .nil
  | inputObject fields => exact .cons (.many (matches_inputValues bare _ h)) .nil

lemma TypeDefinition.matches_tree (d : TypeDefinition) (h : ∀ o ∈ d.openings, Linked R place place' o) :
    Matches R (.definition (.type (d.tree place))) (.definition (.type (d.tree place'))) := by
  rw [openings, List.forall_mem_cons, List.forall_mem_append] at h
  obtain ⟨hd, hds, hb⟩ := h
  have hk : (Node.definition (.type (d.tree place))).kind = (Node.definition (.type (d.tree place'))).kind := by
    rcases d with ⟨_, _, _, _, body⟩
    cases body <;> rfl
  refine .of_slots (hd _ _ hk rfl rfl (.inl rfl) (.inl rfl)) ?_
  refine List.rel_append (List.rel_append (List.rel_append (List.rel_append ?_ ?_) ?_) ?_) ?_
  · exact .cons (.optional fun s _ => matches_string bare s) (.cons (.one (hd.name d.name)) .nil)
  · exact d.body.matches_interfaceSlots bare _ _
  · exact .cons (.many (matches_directives bare _ hds)) .nil
  · exact d.body.matches_memberSlots bare _ _ hb
  · exact .cons (.empty rfl rfl) .nil

lemma TypeExtension.matches_tree (d : TypeExtension) (h : ∀ o ∈ d.openings, Linked R place place' o) :
    Matches R (.definition (.typeExtension (d.tree place))) (.definition (.typeExtension (d.tree place'))) := by
  rw [openings, List.forall_mem_cons, List.forall_mem_append] at h
  obtain ⟨hd, hds, hb⟩ := h
  have hk : (Node.definition (.typeExtension (d.tree place))).kind =
      (Node.definition (.typeExtension (d.tree place'))).kind := by
    rcases d with ⟨_, _, _, body⟩
    cases body <;> rfl
  refine .of_slots (hd _ _ hk rfl rfl (.inl rfl) (.inl rfl)) ?_
  refine List.rel_append (List.rel_append (List.rel_append (List.rel_append ?_ ?_) ?_) ?_) ?_
  · exact .cons (.one (hd.name d.name)) .nil
  · exact d.body.matches_interfaceSlots bare _ _
  · exact .cons (.many (matches_directives bare _ hds)) .nil
  · exact d.body.matches_memberSlots bare _ _ hb
  · exact .cons (.empty rfl rfl) .nil

lemma DirectiveDefinition.matches_tree (d : DirectiveDefinition)
    (h : ∀ o ∈ d.openings, Linked R place place' o) :
    Matches R (.definition (.directive (d.tree place))) (.definition (.directive (d.tree place'))) := by
  obtain ⟨hd, ha⟩ := List.forall_mem_cons.mp h
  exact .of_slots (hd _ _ rfl rfl rfl (.inl rfl) (.inl rfl))
    (.cons (.optional fun s _ => matches_string bare s) (.cons (.one (hd.name d.name))
      (.cons (.many (matches_inputValues bare _ ha)) (.cons (.empty rfl rfl)
        (.cons (.many fun l _ => matches_referred bare l.keyword) (.cons (.empty rfl rfl) .nil))))))

lemma matches_rootType (root : OperationType × String) :
    Matches R (.operationTypeDefinition ⟨root.1, namedType root.2, none⟩)
      (.operationTypeDefinition ⟨root.1, namedType root.2, none⟩) :=
  .of_slots (bare _ _ rfl rfl rfl)
    (.cons (.empty rfl rfl) (.cons (.one (matches_namedType bare root.2)) (.cons (.empty rfl rfl) .nil)))

lemma SchemaDefinition.matches_tree (d : SchemaDefinition) (h : ∀ o ∈ d.openings, Linked R place place' o) :
    Matches R (.definition (.schema (d.tree place))) (.definition (.schema (d.tree place'))) := by
  obtain ⟨hs, hd⟩ := List.forall_mem_cons.mp h
  exact .of_slots (hs _ _ rfl rfl rfl (.inl rfl) (.inl rfl))
    (.cons (.empty rfl rfl) (.cons (.many (matches_directives bare _ hd))
      (.cons (.many fun root _ => matches_rootType bare root) (.cons (.empty rfl rfl) .nil))))

lemma SchemaItem.matches_tree (item : SchemaItem) (h : ∀ o ∈ item.openings, Linked R place place' o) :
    Matches R (.definition (item.tree place)) (.definition (item.tree place')) := by
  cases item with
  | schema d => exact d.matches_tree bare h
  | type d => exact d.matches_tree bare h
  | extension d => exact d.matches_tree bare h
  | directive d => exact d.matches_tree bare h

lemma matches_schemaDocument (items : List SchemaItem)
    (h : ∀ o ∈ items.flatMap (·.openings), Linked R place place' o) :
    Matches R (.document ⟨items.map (·.tree place), none⟩) (.document ⟨items.map (·.tree place'), none⟩) :=
  .of_slots (bare _ _ rfl rfl rfl)
    (.cons (.many fun item hi => item.matches_tree bare (List.forall_mem_flatMap.mp h item hi))
      (.cons (.empty rfl rfl) .nil))

lemma matches_executableDocument (definitions : List ExecutableDefinition)
    (h : ∀ o ∈ definitions.flatMap (·.openings), Linked R place place' o) :
    Matches R (.document ⟨definitions.map (·.tree place), none⟩)
      (.document ⟨definitions.map (·.tree place'), none⟩) :=
  .of_slots (bare _ _ rfl rfl rfl)
    (.cons (.many fun d hd => d.matches_tree bare (List.forall_mem_flatMap.mp h d hd))
      (.cons (.empty rfl rfl) .nil))

end Shape

end Source

end GraphQLTree
