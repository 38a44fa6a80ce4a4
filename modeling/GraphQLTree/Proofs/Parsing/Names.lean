import GraphQLTree.Proofs.Lexing.Pieces
import GraphQLTree.Proofs.Nesting
import GraphQLTree.Proofs.Shape

namespace GraphQLTree

def IsWord (s : String) : Prop :=
  s ≠ "" ∧ ∀ c ∈ s.toList, Source.Lexer.continuesName c = true

instance (s : String) : Decidable (IsWord s) :=
  decidable_of_iff (s ≠ "" ∧ s.toList.all Source.Lexer.continuesName = true) (by rw [List.all_eq_true, IsWord])

namespace Source.Lexer

lemma isWord_of_token? {m : Mark} {c : Char} {cs : List Char} {s : String} {rest : Rest}
    (h : token? m c cs = some (.name s, rest)) : IsWord s := by
  fun_cases token? m c cs with
  | case1 => cases Option.some.inj h
  | case2 after =>
    obtain ⟨_, -, he⟩ := Option.bind_eq_some_iff.mp (show block? m after = _ from h)
    cases Option.some.inj he
  | case3 after =>
    simp only [token?] at h
    obtain ⟨_, -, he⟩ := Option.bind_eq_some_iff.mp h
    obtain ⟨_, -, he⟩ := Option.bind_eq_some_iff.mp he
    cases Option.some.inj he
  | case4 c after hd hb hq p hp =>
    simp only [token?, hp] at h
    cases Option.some.inj h
  | case5 c after hd hb hq hp hs =>
    simp only [token?, hp, hs, if_true] at h
    obtain rfl := Token.name.inj (Prod.mk.inj (Option.some.inj h)).1
    refine ⟨?_, ?_⟩
    · simp [continuesName, hs]
    · rw [String.toList_ofList]
      exact fun x hx => List.mem_takeWhile_imp hx
  | case6 c after hd hb hq hp hs hn =>
    simp only [token?, hp, hs, hn, if_true] at h
    obtain ⟨token, ht, he⟩ := Option.bind_eq_some_iff.mp h
    obtain rfl := (Prod.mk.inj (Option.some.inj he)).1
    cases Numeral.token?_text? ht
  | case7 c after hd hb hq hp hs hn => simp [token?, hp, hs, hn] at h

lemma isWord_of_mem_scan {t : Lexeme} {s : String} {rest : Rest} (fuel : Nat) (ht : t ∈ scan fuel rest)
    (hs : t.token = .name s) : IsWord s := by
  fun_induction scan fuel rest with
  | case1 => exact absurd ht List.not_mem_nil
  | case2 | case5 =>
    obtain rfl := List.mem_singleton.mp ht
    cases hs
  | case3 fuel m c cs rest hskip ih => exact ih ht
  | case4 fuel m c cs hskip token rest hk ih =>
    rcases List.mem_cons.mp ht with rfl | ht
    · obtain rfl : token = .name s := hs
      exact isWord_of_token? hk
    · exact ih ht

end Source.Lexer

namespace Node

def Worded (n : Node) : Prop :=
  ∀ way m, n.at? way = some m → ∀ s, m = .name s → IsWord s.value

lemma worded_iff_slots {n : Node} :
    n.Worded ↔ (∀ s, n = .name s → IsWord s.value) ∧ ∀ s ∈ n.slots, ∀ c ∈ s.content.nodes, c.Worded := by
  rw [Worded, forall_at?_iff, forall_children]
  rfl

section Parts

@[simp] lemma worded_name {n : Name} : (name n).Worded ↔ IsWord n.value := by
  rw [worded_iff_slots]
  simp [slots, Name.slots]

lemma worded_document {d : Document} : (document d).Worded ↔ ∀ e ∈ d.definitions, (definition e).Worded := by
  rw [worded_iff_slots]
  simp [slots, Document.slots, Part.toNode]

@[simp] lemma worded_var {v : Variable} : (value (.var v)).Worded ↔ IsWord v.name.value := by
  rw [worded_iff_slots]
  simp [slots, Value.slots, Variable.slots, Slot.one, Part.toNode]

lemma worded_list {items : List Value} {l : Option Location} :
    (value (.list items l)).Worded ↔ ∀ v ∈ items, (value v).Worded := by
  rw [worded_iff_slots]
  simp [slots, Value.slots, Part.toNode]

lemma worded_object {fields : List ObjectField} {l : Option Location} :
    (value (.object fields l)).Worded ↔ ∀ f ∈ fields, (objectField f).Worded := by
  rw [worded_iff_slots]
  simp [slots, Value.slots, Part.toNode]

lemma worded_scalar {v : Value} (h : v.slots.flatMap (·.content.nodes) = []) : (value v).Worded := by
  rw [worded_iff_slots]
  refine ⟨nofun, fun s hs c hc => ?_⟩
  have hm : c ∈ v.slots.flatMap (·.content.nodes) := List.mem_flatMap.mpr ⟨s, hs, hc⟩
  exact absurd (h ▸ hm) List.not_mem_nil

@[simp] lemma worded_string {s : StringValue} : (value (.string s)).Worded :=
  worded_scalar rfl

lemma worded_objectField {f : ObjectField} :
    (objectField f).Worded ↔ IsWord f.name.value ∧ (value f.value).Worded := by
  rw [worded_iff_slots]
  simp [slots, ObjectField.slots, Slot.one, Part.toNode]

lemma worded_argument {a : Argument} :
    (argument a).Worded ↔ IsWord a.name.value ∧ (value a.value).Worded := by
  rw [worded_iff_slots]
  simp [slots, Argument.slots, Slot.one, Part.toNode]

lemma worded_directive {d : Directive} :
    (directive d).Worded ↔ IsWord d.name.value ∧ ∀ a ∈ d.arguments, (argument a).Worded := by
  rw [worded_iff_slots]
  simp [slots, Directive.slots, Slot.one, Part.toNode]

@[simp] lemma worded_namedType {t : NamedType} : (typeRef (.named t)).Worded ↔ IsWord t.name.value := by
  rw [worded_iff_slots]
  simp [slots, TypeRef.slots, Slot.one, Part.toNode]

lemma worded_listType {t : TypeRef} {l : Option Location} :
    (typeRef (.list t l)).Worded ↔ (typeRef t).Worded := by
  rw [worded_iff_slots]
  simp [slots, TypeRef.slots, Slot.one, Part.toNode]

lemma worded_nonNullType {t : TypeRef} {l : Option Location} :
    (typeRef (.nonNull t l)).Worded ↔ (typeRef t).Worded := by
  rw [worded_iff_slots]
  simp [slots, TypeRef.slots, Part.toNode]

lemma worded_variableDefinition {d : VariableDefinition} :
    (variableDefinition d).Worded ↔ IsWord d.var.name.value ∧ (typeRef d.type).Worded ∧
      (∀ v ∈ d.defaultValue, (value v).Worded) ∧ ∀ e ∈ d.directives, (directive e).Worded := by
  rw [worded_iff_slots]
  simp [slots, VariableDefinition.slots, Slot.one, Slot.optional, Part.toNode]

lemma worded_selectionSet {s : SelectionSet} :
    (selectionSet s).Worded ↔ ∀ item ∈ s.selections, (selection item).Worded := by
  rw [worded_iff_slots]
  simp [slots, SelectionSet.slots, Part.toNode]

lemma worded_field {f : Field} :
    (selection (.field f)).Worded ↔ (∀ n ∈ f.aliasName, IsWord n.value) ∧ IsWord f.name.value ∧
      (∀ a ∈ f.arguments, (argument a).Worded) ∧ (∀ d ∈ f.directives, (directive d).Worded) ∧
        ∀ s ∈ f.selectionSet, (selectionSet s).Worded := by
  rw [worded_iff_slots]
  simp [slots, Selection.slots, Field.slots, Slot.one, Slot.optional, Part.toNode]

lemma worded_spread {s : FragmentSpread} :
    (selection (.spread s)).Worded ↔ IsWord s.name.value ∧ ∀ d ∈ s.directives, (directive d).Worded := by
  rw [worded_iff_slots]
  simp [slots, Selection.slots, FragmentSpread.slots, Slot.one, Part.toNode]

lemma worded_inline {f : InlineFragment} :
    (selection (.inline f)).Worded ↔ (∀ t ∈ f.typeCondition, IsWord t.name.value) ∧
      (∀ d ∈ f.directives, (directive d).Worded) ∧ (selectionSet f.selectionSet).Worded := by
  rw [worded_iff_slots]
  simp [slots, Selection.slots, InlineFragment.slots, Slot.one, Slot.optional, Part.toNode]

lemma worded_operation {d : OperationDefinition} :
    (definition (.operation d)).Worded ↔ (∀ n ∈ d.name, IsWord n.value) ∧
      (∀ v ∈ d.variableDefinitions, (variableDefinition v).Worded) ∧
        (∀ e ∈ d.directives, (directive e).Worded) ∧ (selectionSet d.selectionSet).Worded := by
  rw [worded_iff_slots]
  simp [slots, Definition.slots, OperationDefinition.slots, Slot.one, Slot.optional, Part.toNode]

lemma worded_fragment {d : FragmentDefinition} :
    (definition (.fragment d)).Worded ↔ IsWord d.name.value ∧
      (∀ v ∈ d.variableDefinitions, (variableDefinition v).Worded) ∧ IsWord d.typeCondition.name.value ∧
        (∀ e ∈ d.directives, (directive e).Worded) ∧ (selectionSet d.selectionSet).Worded := by
  rw [worded_iff_slots]
  simp [slots, Definition.slots, FragmentDefinition.slots, Slot.one, Part.toNode]

lemma worded_inputValue {d : InputValueDefinition} :
    (inputValueDefinition d).Worded ↔ IsWord d.name.value ∧ (typeRef d.type).Worded ∧
      (∀ v ∈ d.defaultValue, (value v).Worded) ∧ ∀ e ∈ d.directives, (directive e).Worded := by
  rw [worded_iff_slots]
  simp [slots, InputValueDefinition.slots, Slot.one, Slot.optional, Part.toNode]

lemma worded_fieldDefinition {d : FieldDefinition} :
    (fieldDefinition d).Worded ↔ IsWord d.name.value ∧ (∀ a ∈ d.arguments, (inputValueDefinition a).Worded) ∧
      (typeRef d.type).Worded ∧ ∀ e ∈ d.directives, (directive e).Worded := by
  rw [worded_iff_slots]
  simp [slots, FieldDefinition.slots, Slot.one, Slot.optional, Part.toNode]

lemma worded_enumValue {d : EnumValueDefinition} :
    (enumValueDefinition d).Worded ↔ IsWord d.name.value ∧ ∀ e ∈ d.directives, (directive e).Worded := by
  rw [worded_iff_slots]
  simp [slots, EnumValueDefinition.slots, Slot.one, Slot.optional, Part.toNode]

lemma worded_directiveDefinition {d : DirectiveDefinition} :
    (definition (.directive d)).Worded ↔ IsWord d.name.value ∧
      (∀ a ∈ d.arguments, (inputValueDefinition a).Worded) ∧ ∀ n ∈ d.locations, IsWord n.value := by
  rw [worded_iff_slots]
  simp [slots, Definition.slots, DirectiveDefinition.slots, Slot.one, Slot.optional, Slot.flag, Part.toNode]

@[simp] lemma worded_operationType {d : OperationTypeDefinition} :
    (operationTypeDefinition d).Worded ↔ IsWord d.type.name.value := by
  rw [worded_iff_slots]
  simp [slots, OperationTypeDefinition.slots, Slot.one, Part.toNode]

lemma worded_schema {d : SchemaDefinition} :
    (definition (.schema d)).Worded ↔ (∀ e ∈ d.directives, (directive e).Worded) ∧
      ∀ t ∈ d.operationTypes, IsWord t.type.name.value := by
  rw [worded_iff_slots]
  simp [slots, Definition.slots, SchemaDefinition.slots, Slot.optional, Part.toNode]

end Parts

end Node

def TypeBody.Worded : TypeBody → Prop
  | scalar => True
  | object interfaces fields | interface interfaces fields =>
    (∀ t ∈ interfaces, IsWord t.name.value) ∧ ∀ f ∈ fields, (Node.fieldDefinition f).Worded
  | union types => ∀ t ∈ types, IsWord t.name.value
  | enum values => ∀ v ∈ values, (Node.enumValueDefinition v).Worded
  | inputObject fields => ∀ f ∈ fields, (Node.inputValueDefinition f).Worded

lemma TypeBody.worded_iff_slots {b : TypeBody} (put : TypeBody → Node) :
    b.Worded ↔ (∀ s ∈ b.interfaceSlots put, ∀ c ∈ s.content.nodes, c.Worded) ∧
      ∀ s ∈ b.memberSlots put, ∀ c ∈ s.content.nodes, c.Worded := by
  cases b <;> simp [Worded, interfaceSlots, memberSlots, Part.toNode]

namespace Node

lemma worded_type {d : TypeDefinition} :
    (definition (.type d)).Worded ↔
      IsWord d.name.value ∧ (∀ e ∈ d.directives, (directive e).Worded) ∧ d.body.Worded := by
  rw [worded_iff_slots, d.body.worded_iff_slots fun b => .definition (.type { d with body := b })]
  simp only [slots, Definition.slots, TypeDefinition.slots, List.forall_mem_append]
  simp [Slot.one, Slot.optional, Part.toNode, and_assoc, and_left_comm]

lemma worded_typeExtension {d : TypeExtension} :
    (definition (.typeExtension d)).Worded ↔
      IsWord d.name.value ∧ (∀ e ∈ d.directives, (directive e).Worded) ∧ d.body.Worded := by
  rw [worded_iff_slots, d.body.worded_iff_slots fun b => .definition (.typeExtension { d with body := b })]
  simp only [slots, Definition.slots, TypeExtension.slots, List.forall_mem_append]
  simp [Slot.one, Part.toNode, and_assoc, and_left_comm]

end Node

end GraphQLTree
