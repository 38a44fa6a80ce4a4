import GraphQLTree.Proofs.Equality.Fields
import Mathlib.Algebra.GroupWithZero.Nat

/-! The children of a node, in one sequence without gaps, tell its fields apart: two nodes of one kind
with equal scalars are equal when their children are. -/

namespace GraphQLTree

lemma list_beq_iff_forall₂ {α : Type} [BEq α] {as bs : List α} :
    (as == bs) = true ↔ List.Forall₂ (fun a b => (a == b) = true) as bs := by
  induction as generalizing bs with
  | nil => cases bs <;> simp
  | cons a as ih => cases bs <;> simp [ih]

lemma forall₂_append_split {α β : Type} {R : α → β → Prop} {as as' : List α} {bs bs' : List β}
    (hl : as.length = bs.length) (h : List.Forall₂ R (as ++ as') (bs ++ bs')) :
    List.Forall₂ R as bs ∧ List.Forall₂ R as' bs' := by
  induction as generalizing bs with
  | nil =>
    obtain rfl := List.length_eq_zero_iff.mp hl.symm
    exact ⟨.nil, h⟩
  | cons a as ih =>
    cases bs with
    | nil => cases hl
    | cons b bs =>
      obtain ⟨hab, h⟩ := List.forall₂_cons.mp h
      obtain ⟨has, h⟩ := ih (Nat.succ.inj hl) h
      exact ⟨.cons hab has, h⟩

class KindedPart (α : Type) [Part α] (k : outParam Kind) : Prop where
  kind_toNode : ∀ a : α, (Part.toNode a).kind = k

section KindedParts

instance : KindedPart Name .name := ⟨fun _ => rfl⟩

instance : KindedPart VariableDefinition .variableDefinition := ⟨fun _ => rfl⟩

instance : KindedPart SelectionSet .selectionSet := ⟨fun _ => rfl⟩

instance : KindedPart Argument .argument := ⟨fun _ => rfl⟩

instance : KindedPart Variable .variable := ⟨fun _ => rfl⟩

instance : KindedPart StringValue .stringValue := ⟨fun _ => rfl⟩

instance : KindedPart ObjectField .objectField := ⟨fun _ => rfl⟩

instance : KindedPart Directive .directive := ⟨fun _ => rfl⟩

instance : KindedPart NamedType .namedType := ⟨fun _ => rfl⟩

instance : KindedPart OperationTypeDefinition .operationTypeDefinition := ⟨fun _ => rfl⟩

instance : KindedPart FieldDefinition .fieldDefinition := ⟨fun _ => rfl⟩

instance : KindedPart InputValueDefinition .inputValueDefinition := ⟨fun _ => rfl⟩

instance : KindedPart EnumValueDefinition .enumValueDefinition := ⟨fun _ => rfl⟩

end KindedParts

namespace Content

def isScalar : Content → Bool
  | text _ | integer _ | number _ | flag _ | operation _ => true
  | node _ | optional _ | list _ | location _ => false

def Parallel : Content → Content → Prop
  | text s, text t => s = t
  | integer m, integer n => m = n
  | number x, number y => (x == y) = true
  | flag b, flag c => b = c
  | operation o, operation p => o = p
  | node _, node _ => True
  | optional m, optional n => m.toList.length = n.toList.length
  | list ms, list ns => ms.length = ns.length
  | location _, location _ => True
  | _, _ => False

def tally (c : Content) (k : Kind) : Nat :=
  c.nodes.countP (·.kind = k)

def width (c : Content) : Nat :=
  c.nodes.length

section Simp

@[simp] lemma width_flag {b : Bool} : (flag b).width = 0 := rfl

@[simp] lemma width_location {l : Option Location} : (location l).width = 0 := rfl

section AnyKind

variable {α : Type} [Part α]

@[simp] lemma width_ofOne {a : α} : (ofOne a).width = 1 := rfl

@[simp] lemma width_ofOptional {a : Option α} : (ofOptional a).width = a.toList.length := by
  cases a <;> rfl

@[simp] lemma width_ofMany {as : List α} : (ofMany as).width = as.length :=
  List.length_map _

end AnyKind

variable {k : Kind}

@[simp] lemma tally_text {s : String} : (text s).tally k = 0 := rfl

@[simp] lemma tally_flag {b : Bool} : (flag b).tally k = 0 := rfl

@[simp] lemma tally_operation {o : OperationType} : (operation o).tally k = 0 := rfl

@[simp] lemma tally_location {l : Option Location} : (location l).tally k = 0 := rfl

@[simp] lemma tally_ofOne_typeRef {t : TypeRef} (hk : k.isTypeReference = false) : (ofOne t).tally k = 0 := by
  have ht : (Node.typeRef t).kind ≠ k := by
    rintro rfl
    cases t <;> cases hk
  simp [ofOne, tally, nodes, Part.toNode, ht]

@[simp] lemma tally_ofOne_value {v : Value} (hk : k.isValue = false) : (ofOne v).tally k = 0 := by
  have hv : (Node.value v).kind ≠ k := by
    rintro rfl
    cases v <;> cases hk
  simp [ofOne, tally, nodes, Part.toNode, hv]

@[simp] lemma tally_ofOptional_value {v : Option Value} (hk : k.isValue = false) :
    (ofOptional v).tally k = 0 := by
  cases v with
  | none => rfl
  | some v => exact tally_ofOne_value hk

variable {α : Type} [Part α] {k' : Kind} [KindedPart α k']

@[simp] lemma tally_ofOne {a : α} : (ofOne a).tally k = if k' = k then 1 else 0 := by
  simp [ofOne, tally, nodes, KindedPart.kind_toNode, List.countP_singleton]

@[simp] lemma tally_ofMany {as : List α} : (ofMany as).tally k = if k' = k then as.length else 0 := by
  have h : ∀ a : α, (Part.toNode a).kind = k' := KindedPart.kind_toNode
  split_ifs with hk <;> simp [ofMany, tally, nodes, h, hk]

@[simp] lemma tally_ofOptional {a : Option α} :
    (ofOptional a).tally k = if k' = k then a.toList.length else 0 := by
  cases a <;> simp [ofOptional, tally, nodes, KindedPart.kind_toNode, List.countP_singleton]

end Simp

section Parallel

variable {α : Type} [Part α]

@[simp] lemma parallel_text {s t : String} : Parallel (text s) (text t) ↔ s = t := .rfl

@[simp] lemma parallel_integer {m n : Int64} : Parallel (integer m) (integer n) ↔ m = n := .rfl

@[simp] lemma parallel_number {x y : Binary64} : Parallel (number x) (number y) ↔ (x == y) = true := .rfl

@[simp] lemma parallel_flag {b c : Bool} : Parallel (flag b) (flag c) ↔ b = c := .rfl

@[simp] lemma parallel_operation {o p : OperationType} : Parallel (operation o) (operation p) ↔ o = p := .rfl

@[simp] lemma parallel_location {l l' : Option Location} : Parallel (location l) (location l') := trivial

@[simp] lemma parallel_ofOne {a b : α} : Parallel (ofOne a) (ofOne b) := trivial

@[simp] lemma parallel_ofOptional {a b : Option α} :
    Parallel (ofOptional a) (ofOptional b) ↔ a.toList.length = b.toList.length := by
  cases a <;> cases b <;> simp [Parallel, ofOptional]

@[simp] lemma parallel_ofMany {as bs : List α} : Parallel (ofMany as) (ofMany bs) ↔ as.length = bs.length := by
  simp [Parallel, ofMany]

end Parallel

section Scalars

variable {α : Type} [Part α]

@[simp] lemma isScalar_text {s : String} : (text s).isScalar = true := rfl

@[simp] lemma isScalar_integer {n : Int64} : (integer n).isScalar = true := rfl

@[simp] lemma isScalar_number {x : Binary64} : (number x).isScalar = true := rfl

@[simp] lemma isScalar_flag {b : Bool} : (flag b).isScalar = true := rfl

@[simp] lemma isScalar_operation {o : OperationType} : (operation o).isScalar = true := rfl

@[simp] lemma isScalar_location {l : Option Location} : (location l).isScalar = false := rfl

@[simp] lemma isScalar_ofOne {a : α} : (ofOne a).isScalar = false := rfl

@[simp] lemma isScalar_ofOptional {a : Option α} : (ofOptional a).isScalar = false := rfl

@[simp] lemma isScalar_ofMany {as : List α} : (ofMany as).isScalar = false := rfl

end Scalars

lemma Parallel.width_eq {c d : Content} (h : c.Parallel d) : c.width = d.width := by
  cases c <;> cases d
  case optional.optional | list.list => exact h
  case text.text | integer.integer | number.number | flag.flag | operation.operation => rfl
  case node.node | location.location => rfl
  all_goals cases h

lemma Parallel.beq_of_nodes {c d : Content} (h : c.Parallel d)
    (hn : List.Forall₂ (fun m n => (m == n) = true) c.nodes d.nodes) : (c == d) = true := by
  cases c <;> cases d
  case node.node m n => exact (List.forall₂_cons.mp hn).1
  case optional.optional m n =>
    cases m <;> cases n
    case none.none => rfl
    case some.some m n => exact (List.forall₂_cons.mp hn).1
    all_goals cases h
  case list.list ms ns => exact list_beq_iff_forall₂.mpr hn
  case location.location => rfl
  case number.number x y => exact h
  case text.text | integer.integer | flag.flag | operation.operation => simpa using h
  all_goals cases h

lemma nodes_of_beq {c d : Content} (h : (c == d) = true) :
    List.Forall₂ (fun m n => (m == n) = true) c.nodes d.nodes := by
  cases c <;> cases d
  case node.node m n => exact .cons h .nil
  case optional.optional m n =>
    cases m <;> cases n
    case none.none => exact .nil
    case some.some m n => exact .cons h .nil
    all_goals cases h
  case list.list ms ns => exact list_beq_iff_forall₂.mp h
  case text.text | integer.integer | number.number | flag.flag | operation.operation | location.location =>
    exact .nil
  all_goals cases h

end Content

namespace Node

def scalars (n : Node) : List (FieldName × Content) :=
  n.fields.filter (·.2.isScalar)

lemma tally_eq {a b : Node} (h : a.children.map kind = b.children.map kind) (ks : List Kind) :
    ∀ k ∈ ks, (a.fields.map (·.2.tally k)).sum = (b.fields.map (·.2.tally k)).sum := by
  intro k _
  have hc (n : Node) : (n.fields.map (·.2.tally k)).sum = (n.children.map kind).countP (· = k) := by
    rw [children_eq_fields, List.countP_map, List.countP_flatMap]
    rfl
  rw [hc, hc, h]

lemma length_eq {a b : Node} (h : a.children.map kind = b.children.map kind) :
    (a.fields.map (·.2.width)).sum = (b.fields.map (·.2.width)).sum := by
  have hc (n : Node) : (n.fields.map (·.2.width)).sum = (n.children.map kind).length := by
    rw [children_eq_fields, List.length_map, List.length_flatMap]
    rfl
  rw [hc, hc, h]

def FieldsParallel (a b : Node) : Prop :=
  List.Forall₂ (fun f g => f.1 = g.1 ∧ f.2.Parallel g.2) a.fields b.fields

lemma fieldsParallel {a b : Node} (ha : a.Valid) (hb : b.Valid) (hk : a.kind = b.kind)
    (hs : (a.scalars == b.scalars) = true) (hc : a.children.map kind = b.children.map kind) :
    FieldsParallel a b := by
  rw [FieldsParallel]
  have h := tally_eq hc
  have hl := length_eq hc
  cases SameKind.of_kind hk with
  | name m n => simpa [scalars, List.filter_cons, fields, slots, Name.slots] using hs
  | document d e => simpa [fields, slots, Document.slots] using hl
  | operation d e =>
    simpa [scalars, List.filter_cons, fields, slots, Definition.slots, OperationDefinition.slots] using
      And.intro hs (h [.name, .variableDefinition, .directive])
  | fragment d e =>
    simpa [fields, slots, Definition.slots, FragmentDefinition.slots] using h [.variableDefinition, .directive]
  | schema d e =>
    simpa [fields, slots, Definition.slots, SchemaDefinition.slots] using
      h [.stringValue, .directive, .operationTypeDefinition]
  | type d e hb =>
    have hm := h [.stringValue, .namedType, .directive, .fieldDefinition, .enumValueDefinition,
      .inputValueDefinition]
    rcases d with ⟨_, _, _, body, _⟩
    rcases e with ⟨_, _, _, body', _⟩
    cases body <;> cases body' <;> cases hb <;>
      simp [fields, slots, Definition.slots, TypeDefinition.slots, TypeBody.interfaceSlots,
        TypeBody.memberSlots] at hm ⊢ <;>
      omega
  | directiveDefinition d e =>
    have hr : d.repeatable = e.repeatable := by
      simpa [scalars, List.filter_cons, fields, slots, Definition.slots, DirectiveDefinition.slots] using hs
    simpa [fields, slots, Definition.slots, DirectiveDefinition.slots, hr] using
      h [.stringValue, .inputValueDefinition, .name]
  | schemaExtension d e =>
    simpa [fields, slots, Definition.slots, SchemaExtension.slots] using h [.directive, .operationTypeDefinition]
  | typeExtension d e hb =>
    have hm := h [.namedType, .directive, .fieldDefinition, .enumValueDefinition,
      .inputValueDefinition]
    rcases d with ⟨_, _, body, _⟩
    rcases e with ⟨_, _, body', _⟩
    cases body <;> cases body' <;> cases hb <;>
      simp [fields, slots, Definition.slots, TypeExtension.slots, TypeBody.interfaceSlots,
        TypeBody.memberSlots] at hm ⊢ <;>
      omega
  | variableDefinition d e =>
    have hd : d.directives.length = e.directives.length := by
      simpa +decide [fields, slots, VariableDefinition.slots] using h [.directive]
    simpa [fields, slots, VariableDefinition.slots, hd] using hl
  | selectionSet s t => simpa [fields, slots, SelectionSet.slots] using hl
  | field f g =>
    simpa [fields, slots, Selection.slots, Field.slots] using h [.name, .argument, .directive, .selectionSet]
  | spread s t => simpa [fields, slots, Selection.slots, FragmentSpread.slots] using h [.directive]
  | inline f g =>
    simpa [fields, slots, Selection.slots, InlineFragment.slots] using h [.namedType, .directive]
  | argument x y => simp [fields, slots, Argument.slots]
  | var v w => simp [fields, slots, Value.slots, Variable.slots]
  | null l l' => simp [fields, slots, Value.slots]
  | int | float | string | boolean | enum =>
    simpa [scalars, List.filter_cons, fields, slots, Value.slots, StringValue.slots] using hs
  | list vs ws l l' | object fs gs l l' => simpa [fields, slots, Value.slots] using hl
  | objectField f g => simp [fields, slots, ObjectField.slots]
  | directive d e => simpa [fields, slots, Directive.slots] using hl
  | namedType t u | listType t u l l' | nonNull t u l l' => simp [fields, slots, TypeRef.slots]
  | operationType d e => simpa [scalars, List.filter_cons, fields, slots, OperationTypeDefinition.slots] using hs
  | fieldDefinition d e =>
    simpa +decide [fields, slots, FieldDefinition.slots] using h [.stringValue, .inputValueDefinition, .directive]
  | inputValueDefinition d e =>
    have hd : d.directives.length = e.directives.length := by
      simpa +decide [fields, slots, InputValueDefinition.slots] using h [.directive]
    -- A default value may be of the kind of a description, so the first child tells whether there is one.
    have hn : d.description.toList.length = e.description.toList.length := by
      rw [children_eq_fields, children_eq_fields] at hc
      rcases d with ⟨_ | _, _, _, _, _, _⟩ <;> rcases e with ⟨_ | _, _, _, _, _, _⟩
      case none.none | some.some => rfl
      all_goals cases (List.cons.inj hc).1
    simpa [fields, slots, InputValueDefinition.slots, hd, hn] using hl
  | enumValueDefinition d e =>
    simpa [fields, slots, EnumValueDefinition.slots] using h [.stringValue, .directive]
  | schemaCoordinate c d =>
    have ho : c.ofDirective = d.ofDirective := by
      simpa [scalars, List.filter_cons, fields, slots, SchemaCoordinate.slots] using hs
    cases ha <;> cases hb <;> simp [fields, slots, SchemaCoordinate.slots] at ho hl ⊢

lemma beq_fields_of_nodes {fs gs : List (FieldName × Content)}
    (h : List.Forall₂ (fun f g => f.1 = g.1 ∧ f.2.Parallel g.2) fs gs)
    (hn : List.Forall₂ (fun m n => (m == n) = true) (fs.flatMap (·.2.nodes)) (gs.flatMap (·.2.nodes))) :
    (fs == gs) = true := by
  induction h with
  | nil => rfl
  | @cons f g fs gs hfg _ ih =>
    rcases f with ⟨x, c⟩
    rcases g with ⟨y, d⟩
    obtain ⟨rfl, hcd⟩ := hfg
    obtain ⟨hc, hn⟩ := forall₂_append_split hcd.width_eq hn
    rw [List.cons_beq_cons, Content.beq_pair, hcd.beq_of_nodes hc, ih hn, Bool.and_self]

lemma nodes_of_beq_fields {fs gs : List (FieldName × Content)} (h : (fs == gs) = true) :
    List.Forall₂ (fun m n => (m == n) = true) (fs.flatMap (·.2.nodes)) (gs.flatMap (·.2.nodes)) :=
  List.rel_flatMap (list_beq_iff_forall₂.mp h) fun _ _ hfg =>
    Content.nodes_of_beq (Bool.and_eq_true_iff.mp hfg).2

lemma children_of_beq {a b : Node} (h : (a == b) = true) :
    List.Forall₂ (fun m n => (m == n) = true) a.children b.children := by
  rw [children_eq_fields, children_eq_fields]
  exact nodes_of_beq_fields (beq_iff_fields.mp h).2

/-- Two nodes of one kind that keep its rule and have equal scalars are equal just when their children
are, one after the other. The kinds of the children are enough to tell which of them belong to which
field. -/
theorem beq_iff_children {a b : Node} (ha : a.Valid) (hb : b.Valid) (hk : a.kind = b.kind)
    (hs : (a.scalars == b.scalars) = true) :
    ((a == b) = true ↔ List.Forall₂ (fun m n => (m == n) = true) a.children b.children) ∧
      (a.children.map kind = b.children.map kind → FieldsParallel a b) := by
  refine ⟨⟨children_of_beq, fun h => ?_⟩, fieldsParallel ha hb hk hs⟩
  have hc : a.children.map kind = b.children.map kind := by
    rw [← List.forall₂_eq_eq_eq, List.forall₂_map_left_iff, List.forall₂_map_right_iff]
    exact h.imp fun _ _ => kind_eq_of_beq
  rw [children_eq_fields, children_eq_fields] at h
  exact beq_iff_fields.mpr ⟨hk, beq_fields_of_nodes (fieldsParallel ha hb hk hs hc) h⟩

theorem beq_iff_children_argument :
    let a := schemaCoordinate (.ofFieldArgument ⟨"T", none⟩ ⟨"f", none⟩ ⟨"x", none⟩)
    let b := schemaCoordinate
      (.ofFieldArgument ⟨"T", some (.point ⟨0, 1, 1⟩)⟩ ⟨"f", none⟩ ⟨"x", none⟩)
    a.Valid ∧ b.Valid ∧ a.kind = b.kind ∧ (a.scalars == b.scalars) = true ∧
      ((a == b) = true ↔ List.Forall₂ (fun m n => (m == n) = true) a.children b.children) := by
  intro a b
  have ha : a.Valid := .argument _ _ _ none
  have hb : b.Valid := .argument _ _ _ none
  exact ⟨ha, hb, rfl, rfl, (beq_iff_children ha hb rfl rfl).1⟩

end Node

end GraphQLTree
