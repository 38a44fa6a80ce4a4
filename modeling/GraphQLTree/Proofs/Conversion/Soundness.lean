import GraphQLTree.Proofs.Parsing.Grounded
import GraphQLTree.Proofs.Validity
import Mathlib.Tactic.Tauto

namespace GraphQLTree.Source

open GraphQLTree.Node (sound_iff_slots Valid slots)

variable {place : Mark → Location}

@[simp] lemma sound_name {n : Name} : (Node.name n).Sound ↔ n.value ≠ "" := by
  rw [sound_iff_slots]
  simp [Valid, slots, Name.slots]

@[simp] lemma sound_variable {v : Variable} : (Node.value (.var v)).Sound ↔ v.name.value ≠ "" := by
  rw [sound_iff_slots]
  simp [Valid, slots, Value.slots, Variable.slots, Slot.one, Part.toNode]

@[simp] lemma sound_string {s : StringValue} : (Node.value (.string s)).Sound := by
  rw [sound_iff_slots]
  simp [Valid, slots, Value.slots, StringValue.slots, Slot.text, Slot.flag]

@[simp] lemma sound_namedType {t : NamedType} : (Node.typeRef (.named t)).Sound ↔ t.name.value ≠ "" := by
  rw [sound_iff_slots]
  simp [Valid, slots, TypeRef.slots, Slot.one, Part.toNode]

@[simp] lemma sound_operationType {d : OperationTypeDefinition} :
    (Node.operationTypeDefinition d).Sound ↔ d.type.name.value ≠ "" := by
  rw [sound_iff_slots]
  simp [Valid, slots, OperationTypeDefinition.slots, Slot.one, Part.toNode]

@[simp] lemma TypeExpr.sound_tree (t : TypeExpr) : (Node.typeRef t.tree).Sound ↔ t.check = .ok () := by
  induction t with
  | named s => exact sound_namedType.trans checkName_eq_ok.symm
  | list t ih =>
    rw [check, ← ih, sound_iff_slots]
    simp [tree, Valid, slots, TypeRef.slots, Slot.one, Part.toNode]
  | nonNull t ih =>
    rw [check, check_bind_eq_ok, ← ih, sound_iff_slots]
    simp [tree, Valid, slots, TypeRef.slots, Part.toNode, checkNullable, isNonNull_tree, and_comm]

mutual

lemma Value.sound_tree : ∀ v : Value, (Node.value v.tree).Sound ↔ v.check = .ok ()
  | .var s => by simp [Value.tree, Value.check, checkName_eq_ok, referred]
  | .int _ | .float _ | .boolean _ | .null | .enum _ => by
    rw [Value.check, sound_iff_slots]
    simp [Value.tree, Valid, slots, Value.slots, Slot.flag, Slot.text]
    rfl
  | .string s => by
    rw [Value.check]
    simp [Value.tree]
    rfl
  | .list items => by
    rw [Value.check, Value.checkAll_eq_ok, ← Value.sound_trees items, sound_iff_slots]
    simp [Value.tree, Value.trees_eq_map, Valid, slots, Value.slots, Part.toNode]
  | .object entries => by
    rw [Value.check, Entry.checkAll_eq_ok, ← Entry.sound_objectFields entries, sound_iff_slots]
    simp [Value.tree, Entry.objectFields_eq_map, Valid, slots, Value.slots, Part.toNode]

lemma Value.sound_trees :
    ∀ vs : List Value, (∀ v ∈ vs, (Node.value v.tree).Sound) ↔ ∀ v ∈ vs, v.check = .ok ()
  | [] => iff_of_true nofun nofun
  | v :: vs => by
    rw [List.forall_mem_cons, List.forall_mem_cons, Value.sound_tree v, Value.sound_trees vs]

lemma Entry.sound_objectFields : ∀ es : List Entry,
    (∀ e ∈ es, (Node.objectField e.objectField).Sound) ↔ ∀ e ∈ es, e.check = .ok ()
  | [] => iff_of_true nofun nofun
  | ⟨key, value⟩ :: es => by
    rw [List.forall_mem_cons, List.forall_mem_cons, Entry.sound_objectFields es, Entry.check, check_bind_eq_ok,
      checkName_eq_ok, ← Value.sound_tree value, sound_iff_slots]
    simp [Entry.objectField, Valid, slots, ObjectField.slots, Slot.one, Part.toNode, referred]

end

@[simp] lemma Entry.sound_argument (e : Entry) : (Node.argument e.argument).Sound ↔ e.check = .ok () := by
  rw [check, check_bind_eq_ok, checkName_eq_ok, sound_iff_slots]
  simp [Valid, slots, Argument.slots, Slot.one, Part.toNode, argument, referred, Value.sound_tree]

@[simp] lemma Directive.sound_tree (d : Directive) :
    (Node.directive (d.tree place)).Sound ↔ d.check = .ok () := by
  rw [check, check_bind_eq_ok, checkName_eq_ok, forM_list_eq_ok, sound_iff_slots]
  simp [Valid, slots, Directive.slots, Slot.one, Part.toNode, tree, Mark.named]

@[simp] lemma VariableDefinition.sound_tree (d : VariableDefinition) :
    (Node.variableDefinition (d.tree place)).Sound ↔ d.check = .ok () := by
  rw [check, check_bind_eq_ok, check_bind_eq_ok, checkName_eq_ok, forM_option_eq_ok, sound_iff_slots]
  simp [Valid, slots, VariableDefinition.slots, Slot.one, Slot.optional, Part.toNode, tree, Mark.named,
    Value.sound_tree]
  tauto

@[simp] lemma FragmentSpread.sound_tree (s : FragmentSpread) :
    (Node.selection (.spread (s.tree place))).Sound ↔ s.check = .ok () := by
  rw [check, check_bind_eq_ok, checkName_eq_ok, forM_list_eq_ok, sound_iff_slots]
  simp [Valid, slots, Selection.slots, FragmentSpread.slots, Slot.one, Part.toNode, tree, referred]

lemma Selection.checkAll_eq_ok {ss : List Selection} :
    Selection.checkAll ss = .ok () ↔ ∀ s ∈ ss, s.check = .ok () := by
  induction ss with
  | nil => exact ⟨fun _ => nofun, fun _ => Selection.checkAll.eq_1⟩
  | cons s ss ih => rw [Selection.checkAll, check_bind_eq_ok, ih, List.forall_mem_cons]

mutual

lemma Selection.sound_tree : ∀ s : Selection, (Node.selection (s.tree place)).Sound ↔ s.check = .ok ()
  | .field f => by
    rw [Selection.tree, Selection.check]
    exact Field.sound_tree f
  | .spread s => by
    rw [Selection.tree, Selection.check]
    exact s.sound_tree
  | .inline f => by
    rw [Selection.tree, Selection.check]
    exact InlineFragment.sound_tree f

lemma Selection.sound_trees : ∀ ss : List Selection,
    (∀ s ∈ ss, (Node.selection (s.tree place)).Sound) ↔ ∀ s ∈ ss, s.check = .ok ()
  | [] => iff_of_true nofun nofun
  | s :: ss => by
    rw [List.forall_mem_cons, List.forall_mem_cons, Selection.sound_tree s, Selection.sound_trees ss]

lemma Field.sound_tree : ∀ f : Field, (Node.selection (.field (f.tree place))).Sound ↔ f.check = .ok ()
  | ⟨mark, aliasName, name, arguments, directives, set⟩ => by
    simp only [Field.check, check_bind_eq_ok, checkName_eq_ok, forM_list_eq_ok, forM_option_eq_ok]
    rw [← SelectionSet.sound_tree? set, sound_iff_slots]
    simp [Field.tree, Valid, slots, Selection.slots, Field.slots, Slot.one, Slot.optional, Part.toNode, Mark.named]
    tauto

lemma InlineFragment.sound_tree : ∀ f : InlineFragment,
    (Node.selection (.inline (f.tree place))).Sound ↔ f.check = .ok ()
  | ⟨mark, typeCondition, directives, set⟩ => by
    simp only [InlineFragment.check, check_bind_eq_ok, checkName_eq_ok, forM_list_eq_ok, forM_option_eq_ok]
    rw [← SelectionSet.sound_tree set, sound_iff_slots]
    simp [InlineFragment.tree, Valid, slots, Selection.slots, InlineFragment.slots, Slot.one, Slot.optional,
      Part.toNode, namedType, referred]
    tauto

lemma SelectionSet.sound_tree : ∀ set : SelectionSet,
    (Node.selectionSet (set.tree place)).Sound ↔ set.check = .ok ()
  | ⟨mark, items⟩ => by
    rw [SelectionSet.check, Selection.checkAll_eq_ok, ← Selection.sound_trees items, sound_iff_slots]
    simp [SelectionSet.tree, Selection.trees_eq_map, Valid, slots, SelectionSet.slots, Part.toNode]

lemma SelectionSet.sound_tree? : ∀ set : SelectionSet,
    (∀ s ∈ set.tree? place, (Node.selectionSet s).Sound) ↔ set.check = .ok ()
  | ⟨mark, []⟩ => by
    rw [SelectionSet.tree?, SelectionSet.check, Selection.checkAll]
    exact iff_of_true nofun rfl
  | ⟨mark, item :: items⟩ => by
    rw [SelectionSet.check, Selection.checkAll_eq_ok, List.forall_mem_cons, ← Selection.sound_tree item,
      ← Selection.sound_trees items]
    simp only [SelectionSet.tree?, Option.mem_some_iff, forall_eq']
    rw [sound_iff_slots]
    simp [Selection.trees_eq_map, Valid, slots, SelectionSet.slots, Part.toNode]

end

lemma Operation.sound_tree (o : Operation) :
    (Node.definition (.operation (o.tree place))).Sound ↔ o.check = .ok () := by
  simp only [check, check_bind_eq_ok, checkName_eq_ok, forM_list_eq_ok, forM_option_eq_ok]
  rw [sound_iff_slots]
  simp [Valid, slots, Definition.slots, OperationDefinition.slots, Slot.one, Slot.optional, Part.toNode, tree,
    Mark.named, SelectionSet.sound_tree]
  tauto

lemma Fragment.sound_tree (f : Fragment) :
    (Node.definition (.fragment (f.tree place))).Sound ↔ f.check = .ok () := by
  simp only [check, check_bind_eq_ok, checkName_eq_ok, forM_list_eq_ok]
  rw [sound_iff_slots]
  simp [Valid, slots, Definition.slots, FragmentDefinition.slots, Slot.one, Part.toNode, tree, Mark.named,
    namedType, referred, SelectionSet.sound_tree]
  tauto

lemma ExecutableDefinition.sound_tree (d : ExecutableDefinition) :
    (Node.definition (d.tree place)).Sound ↔ d.check = .ok () := by
  cases d with
  | shorthand set =>
    rw [check, sound_iff_slots]
    simp [Valid, slots, Definition.slots, OperationDefinition.slots, Slot.one, Slot.optional, Part.toNode, tree,
      SelectionSet.sound_tree]
  | operation o => exact o.sound_tree
  | fragment f => exact f.sound_tree

@[simp] lemma InputValue.sound_tree (v : InputValue) :
    (Node.inputValueDefinition (v.tree place)).Sound ↔ v.check = .ok () := by
  simp only [check, check_bind_eq_ok, checkName_eq_ok, forM_list_eq_ok, forM_option_eq_ok]
  rw [sound_iff_slots]
  simp [Valid, slots, InputValueDefinition.slots, Slot.one, Slot.optional, Part.toNode, tree, Mark.named,
    Value.sound_tree]
  tauto

@[simp] lemma FieldDefinition.sound_tree (f : FieldDefinition) :
    (Node.fieldDefinition (f.tree place)).Sound ↔ f.check = .ok () := by
  simp only [check, check_bind_eq_ok, checkName_eq_ok, forM_list_eq_ok]
  rw [sound_iff_slots]
  simp [Valid, slots, FieldDefinition.slots, Slot.one, Slot.optional, Part.toNode, tree, Mark.named]
  tauto

@[simp] lemma EnumValue.sound_tree (v : EnumValue) :
    (Node.enumValueDefinition (v.tree place)).Sound ↔ v.check = .ok () := by
  simp only [check, check_bind_eq_ok, checkName_eq_ok, forM_list_eq_ok]
  rw [sound_iff_slots]
  simp [Valid, slots, EnumValueDefinition.slots, Slot.one, Slot.optional, Part.toNode, tree, Mark.named]

variable (place) in
lemma TypeBody.sound_slots (body : TypeBody) (directives : List Directive)
    (put : GraphQLTree.TypeBody → Node) :
    ((∀ s ∈ (body.tree place).interfaceSlots put, ∀ c ∈ s.content.nodes, c.Sound) ∧
      (∀ d ∈ directives, d.check = .ok ()) ∧
      ∀ s ∈ (body.tree place).memberSlots put, ∀ c ∈ s.content.nodes, c.Sound) ↔
      body.check directives = .ok () := by
  cases body with
  | scalar =>
    rw [check, forM_list_eq_ok]
    simp [tree, TypeBody.interfaceSlots, TypeBody.memberSlots]
  | object | interface | union | enum | inputObject =>
    simp only [check, check_bind_eq_ok, forM_list_eq_ok, checkName_eq_ok]
    simp [tree, TypeBody.interfaceSlots, TypeBody.memberSlots, Part.toNode, namedType, referred]

lemma TypeDefinition.sound_tree (d : TypeDefinition) :
    (Node.definition (.type (d.tree place))).Sound ↔ d.check = .ok () := by
  rw [check, check_bind_eq_ok, checkName_eq_ok, sound_iff_slots,
    ← d.body.sound_slots place d.directives fun v => .definition (.type { d.tree place with body := v })]
  simp only [slots, Definition.slots, TypeDefinition.slots, List.forall_mem_append]
  simp [Valid, Slot.one, Slot.optional, Part.toNode, tree, Mark.named, and_assoc]

lemma TypeExtension.sound_tree (d : TypeExtension) :
    (Node.definition (.typeExtension (d.tree place))).Sound ↔ d.check = .ok () := by
  rw [check, check_bind_eq_ok, checkName_eq_ok, sound_iff_slots,
    ← d.body.sound_slots place d.directives fun v => .definition (.typeExtension { d.tree place with body := v })]
  simp only [slots, Definition.slots, TypeExtension.slots, List.forall_mem_append]
  simp [Valid, Slot.one, Part.toNode, tree, Mark.named, and_assoc]

lemma DirectiveLocation.keyword_ne_empty (l : DirectiveLocation) : l.keyword ≠ "" := by
  cases l <;> decide

lemma DirectiveDefinition.sound_tree (d : DirectiveDefinition) :
    (Node.definition (.directive (d.tree place))).Sound ↔ d.check = .ok () := by
  rw [sound_iff_slots, check, check_bind_eq_ok, checkName_eq_ok, forM_list_eq_ok]
  simp [Valid, slots, Definition.slots, DirectiveDefinition.slots, Slot.one, Slot.optional, Slot.flag,
    Part.toNode, tree, Mark.named, referred, DirectiveLocation.keyword_ne_empty]

lemma SchemaDefinition.sound_tree (d : SchemaDefinition) :
    (Node.definition (.schema (d.tree place))).Sound ↔ d.check = .ok () := by
  rw [sound_iff_slots, check, check_bind_eq_ok, forM_list_eq_ok, forM_list_eq_ok]
  simp [Valid, slots, Definition.slots, SchemaDefinition.slots, Slot.optional, Part.toNode, tree, namedType,
    referred, checkName_eq_ok, -Prod.forall, -Prod.exists]
  exact and_comm

lemma SchemaItem.sound_tree (item : SchemaItem) : (Node.definition (item.tree place)).Sound ↔ item.check = .ok () := by
  cases item with
  | schema d => exact d.sound_tree
  | type d => exact d.sound_tree
  | extension d => exact d.sound_tree
  | directive d => exact d.sound_tree

lemma bind_return_eq_ok {α : Type} {check : Check} {a b : α} :
    (do check; return a) = Except.ok b ↔ check = .ok () ∧ a = b := by
  cases check with
  | error e => exact iff_of_false nofun nofun
  | ok u => exact ⟨fun h => ⟨rfl, Except.ok.inj h⟩, fun h => congrArg Except.ok h.2⟩

section Documents

variable {lines : Lines} {d : Document}

lemma sound_document : (Node.document d).Sound ↔ ∀ c ∈ d.definitions, (Node.definition c).Sound := by
  rw [sound_iff_slots]
  simp [Valid, slots, Document.slots, Part.toNode]

lemma sound_of_schemaDocument {items : List SchemaItem} (h : schemaDocument lines items = .ok d) :
    (Node.document d).Sound := by
  rw [schemaDocument_eq, bind_return_eq_ok, forM_list_eq_ok] at h
  obtain ⟨hchecked, rfl⟩ := h
  rw [sound_document, List.forall_mem_map]
  exact fun item hi => item.sound_tree.mpr (hchecked item hi)

lemma sound_of_executableDocument {definitions : List ExecutableDefinition}
    (h : executableDocument lines definitions = .ok d) : (Node.document d).Sound := by
  rw [executableDocument_eq, bind_return_eq_ok, forM_list_eq_ok] at h
  obtain ⟨hchecked, rfl⟩ := h
  rw [sound_document, List.forall_mem_map]
  exact fun d hd => d.sound_tree.mpr (hchecked d hd)

end Documents

end GraphQLTree.Source
