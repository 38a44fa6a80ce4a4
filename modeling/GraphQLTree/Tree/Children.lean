import GraphQLTree.Tree.Slot

namespace GraphQLTree

namespace Slot

variable {α : Type} [Part α] {p : Node → Prop}

@[simp] theorem forall_nodes_checkedText {field : FieldName} {s : String} {put : String → Except TreeError Node} :
    (∀ c ∈ (checkedText field s put).content.nodes, p c) ↔ True := by
  simp [checkedText, Content.nodes]

@[simp] theorem forall_nodes_checkedFlag {field : FieldName} {b : Bool} {put : Bool → Except TreeError Node} :
    (∀ c ∈ (checkedFlag field b put).content.nodes, p c) ↔ True := by
  simp [checkedFlag, Content.nodes]

@[simp] theorem forall_nodes_integer {field : FieldName} {n : Int64} {put : Int64 → Node} :
    (∀ c ∈ (integer field n put).content.nodes, p c) ↔ True := by
  simp [integer, Content.nodes]

@[simp] theorem forall_nodes_number {field : FieldName} {x : Binary64} {put : Binary64 → Node} :
    (∀ c ∈ (number field x put).content.nodes, p c) ↔ True := by
  simp [number, Content.nodes]

@[simp] theorem forall_nodes_operation {o : OperationType} {put : OperationType → Node} :
    (∀ c ∈ (operation o put).content.nodes, p c) ↔ True := by
  simp [operation, Content.nodes]

@[simp] theorem forall_nodes_place {l : Option Location} {put : Option Location → Node} :
    (∀ c ∈ (place l put).content.nodes, p c) ↔ True := by
  simp [place, Content.nodes]

@[simp] theorem forall_nodes_checkedOne {field : FieldName} {a : α} {put : α → Except TreeError Node} :
    (∀ c ∈ (checkedOne field a put).content.nodes, p c) ↔ p (Part.toNode a) := by
  simp [checkedOne, Content.ofOne, Content.nodes]

@[simp] theorem forall_nodes_checkedOptional {field : FieldName} {a : Option α}
    {put : Option α → Except TreeError Node} :
    (∀ c ∈ (checkedOptional field a put).content.nodes, p c) ↔ ∀ b ∈ a, p (Part.toNode b) := by
  simp [checkedOptional, Content.ofOptional, Content.nodes]

@[simp] theorem forall_nodes_many {field : FieldName} {as : List α} {put : List α → Node} :
    (∀ c ∈ (many field as put).content.nodes, p c) ↔ ∀ a ∈ as, p (Part.toNode a) := by
  simp [many, Content.ofMany, Content.nodes]

end Slot

namespace Node

open Slot

theorem mem_children_iff {c n : Node} : c ∈ n.children ↔ ∃ s ∈ n.slots, c ∈ s.content.nodes := by
  simp [children]

theorem sizeOf_lt_of_mem_option {α : Type} [SizeOf α] {a : α} {o : Option α} (h : a ∈ o) :
    sizeOf a < sizeOf o := by
  cases h
  simp

theorem sizeOf_lt_of_mem_children {c n : Node} (h : c ∈ n.children) : sizeOf c < sizeOf n := by
  suffices hs : ∀ s ∈ n.slots, ∀ c ∈ s.content.nodes, sizeOf c < sizeOf n by
    obtain ⟨s, hs', hc⟩ := mem_children_iff.mp h
    exact hs s hs' c hc
  clear h c
  cases n with
  | name n => simp [slots, Name.slots]
  | document d =>
    rcases d
    simp [slots, Document.slots, Part.toNode]
    grind [→ List.sizeOf_lt_of_mem]
  | definition d =>
    rcases d with d | d | d | d | d | d | d
    case type =>
      rcases d with ⟨_, _, _, body, _⟩
      rcases body <;>
        simp [slots, Definition.slots, TypeDefinition.slots, TypeBody.interfaceSlots, TypeBody.memberSlots,
          Slot.one, Slot.optional, Part.toNode] <;>
        grind [→ List.sizeOf_lt_of_mem, → sizeOf_lt_of_mem_option]
    case typeExtension =>
      rcases d with ⟨_, _, body, _⟩
      rcases body <;>
        simp [slots, Definition.slots, TypeExtension.slots, TypeBody.interfaceSlots, TypeBody.memberSlots,
          Slot.one, Part.toNode] <;>
        grind [→ List.sizeOf_lt_of_mem]
    all_goals
      rcases d
      simp [slots, Definition.slots, OperationDefinition.slots, FragmentDefinition.slots,
        SchemaDefinition.slots, DirectiveDefinition.slots, SchemaExtension.slots, Slot.one, Slot.optional,
        Slot.flag, Part.toNode]
      grind [→ List.sizeOf_lt_of_mem, → sizeOf_lt_of_mem_option]
  | variableDefinition d =>
    rcases d with ⟨_, _, _, _, _ | _⟩
    all_goals
      simp [slots, VariableDefinition.slots, Slot.one, Slot.optional, Part.toNode]
      grind [→ List.sizeOf_lt_of_mem, → sizeOf_lt_of_mem_option]
  | selectionSet s =>
    rcases s
    simp [slots, SelectionSet.slots, Part.toNode]
    grind [→ List.sizeOf_lt_of_mem]
  | selection s =>
    rcases s with s | s | s <;> rcases s <;>
      simp [slots, Selection.slots, Field.slots, FragmentSpread.slots, InlineFragment.slots, Slot.one,
        Slot.optional, Part.toNode] <;>
      grind [→ List.sizeOf_lt_of_mem, → sizeOf_lt_of_mem_option]
  | argument a =>
    rcases a
    simp [slots, Argument.slots, Slot.one, Part.toNode]
    grind
  | value v =>
    rcases v with v | _ | _ | v | _ | _ | _ | _ | _
    case var => rcases v; simp [slots, Value.slots, Variable.slots, Slot.one, Part.toNode]; grind
    case string => simp [slots, Value.slots, StringValue.slots, Slot.text, Slot.flag]
    all_goals
      simp [slots, Value.slots, Slot.text, Slot.flag, Part.toNode]
    all_goals grind [→ List.sizeOf_lt_of_mem]
  | objectField f =>
    rcases f
    simp [slots, ObjectField.slots, Slot.one, Part.toNode]
    grind
  | directive d =>
    rcases d
    simp [slots, Directive.slots, Slot.one, Part.toNode]
    grind [→ List.sizeOf_lt_of_mem]
  | typeRef t =>
    rcases t with t | _ | _
    case named => rcases t; simp [slots, TypeRef.slots, Slot.one, Part.toNode]; grind
    all_goals
      simp [slots, TypeRef.slots, Slot.one, Part.toNode]
      omega
  | operationTypeDefinition d =>
    obtain ⟨_, _, location⟩ := d
    have hlocation : 0 < sizeOf location := by cases location <;> grind
    simp only [slots, OperationTypeDefinition.slots, Slot.one, Part.toNode, List.forall_mem_cons,
      List.not_mem_nil, forall_nodes_operation, forall_nodes_checkedOne, forall_nodes_place,
      operationTypeDefinition.sizeOf_spec, OperationTypeDefinition.mk.sizeOf_spec, typeRef.sizeOf_spec,
      TypeRef.named.sizeOf_spec, false_imp_iff, implies_true, true_and, and_true]
    omega
  | fieldDefinition d =>
    rcases d
    simp [slots, FieldDefinition.slots, Slot.one, Slot.optional, Part.toNode]
    grind [→ List.sizeOf_lt_of_mem, → sizeOf_lt_of_mem_option]
  | inputValueDefinition d =>
    rcases d
    simp [slots, InputValueDefinition.slots, Slot.one, Slot.optional, Part.toNode]
    grind [→ List.sizeOf_lt_of_mem, → sizeOf_lt_of_mem_option]
  | enumValueDefinition d =>
    rcases d
    simp [slots, EnumValueDefinition.slots, Slot.one, Slot.optional, Part.toNode]
    grind [→ List.sizeOf_lt_of_mem, → sizeOf_lt_of_mem_option]
  | schemaCoordinate c =>
    rcases c
    simp [slots, SchemaCoordinate.slots, Slot.one, Part.toNode]
    grind [→ sizeOf_lt_of_mem_option]

end Node

end GraphQLTree
