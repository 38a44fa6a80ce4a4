import GraphQLTree.Proofs.Reflexivity

namespace GraphQLTree

/-- The number with the sign of a zero dropped. -/
def Binary64.canonical (x : Binary64) : Binary64 :=
  if x.isZero then ⟨0⟩ else x

section Erased

def Name.erased (n : Name) : Name :=
  { n with location := none }

def NamedType.erased (t : NamedType) : NamedType :=
  ⟨t.name.erased, none⟩

def Variable.erased (v : Variable) : Variable :=
  ⟨v.name.erased, none⟩

def StringValue.erased (s : StringValue) : StringValue :=
  { s with location := none }

def TypeRef.erased : TypeRef → TypeRef
  | .named t => .named t.erased
  | .list t _ => .list t.erased none
  | .nonNull t _ => .nonNull t.erased none

mutual

def Value.erased : Value → Value
  | .var v => .var v.erased
  | .int n _ => .int n none
  | .float x _ => .float x.canonical none
  | .string s => .string s.erased
  | .boolean b _ => .boolean b none
  | .null _ => .null none
  | .enum s _ => .enum s none
  | .list items _ => .list (Value.erasedList items) none
  | .object fields _ => .object (ObjectField.erasedList fields) none

def Value.erasedList : List Value → List Value
  | [] => []
  | v :: vs => v.erased :: Value.erasedList vs

def ObjectField.erased : ObjectField → ObjectField
  | ⟨name, value, _⟩ => ⟨name.erased, value.erased, none⟩

def ObjectField.erasedList : List ObjectField → List ObjectField
  | [] => []
  | f :: fs => f.erased :: ObjectField.erasedList fs

end

def Argument.erased (a : Argument) : Argument :=
  ⟨a.name.erased, a.value.erased, none⟩

def Directive.erased (d : Directive) : Directive :=
  ⟨d.name.erased, d.arguments.map (·.erased), none⟩

def VariableDefinition.erased (d : VariableDefinition) : VariableDefinition :=
  ⟨d.var.erased, d.type.erased, d.defaultValue.map (·.erased), d.directives.map (·.erased), none⟩

def FragmentSpread.erased (s : FragmentSpread) : FragmentSpread :=
  ⟨s.name.erased, s.directives.map (·.erased), none⟩

mutual

def Selection.erased : Selection → Selection
  | .field f => .field f.erased
  | .spread s => .spread s.erased
  | .inline f => .inline f.erased

def Selection.erasedList : List Selection → List Selection
  | [] => []
  | s :: ss => s.erased :: Selection.erasedList ss

def Field.erased : Field → Field
  | ⟨aliasName, name, arguments, directives, set, _⟩ =>
    ⟨aliasName.map (·.erased), name.erased, arguments.map (·.erased), directives.map (·.erased),
      SelectionSet.erasedOption set, none⟩

def InlineFragment.erased : InlineFragment → InlineFragment
  | ⟨condition, directives, set, _⟩ =>
    ⟨condition.map (·.erased), directives.map (·.erased), set.erased, none⟩

def SelectionSet.erased : SelectionSet → SelectionSet
  | ⟨selections, _⟩ => ⟨Selection.erasedList selections, none⟩

def SelectionSet.erasedOption : Option SelectionSet → Option SelectionSet
  | none => none
  | some s => some s.erased

end

def OperationDefinition.erased (d : OperationDefinition) : OperationDefinition :=
  ⟨d.operation, d.name.map (·.erased), d.variableDefinitions.map (·.erased), d.directives.map (·.erased),
    d.selectionSet.erased, none⟩

def FragmentDefinition.erased (d : FragmentDefinition) : FragmentDefinition :=
  ⟨d.name.erased, d.variableDefinitions.map (·.erased), d.typeCondition.erased,
    d.directives.map (·.erased), d.selectionSet.erased, none⟩

def InputValueDefinition.erased (d : InputValueDefinition) : InputValueDefinition :=
  ⟨d.description.map (·.erased), d.name.erased, d.type.erased, d.defaultValue.map (·.erased),
    d.directives.map (·.erased), none⟩

def FieldDefinition.erased (d : FieldDefinition) : FieldDefinition :=
  ⟨d.description.map (·.erased), d.name.erased, d.arguments.map (·.erased), d.type.erased,
    d.directives.map (·.erased), none⟩

def EnumValueDefinition.erased (d : EnumValueDefinition) : EnumValueDefinition :=
  ⟨d.description.map (·.erased), d.name.erased, d.directives.map (·.erased), none⟩

def TypeBody.erased : TypeBody → TypeBody
  | .scalar => .scalar
  | .object interfaces fields => .object (interfaces.map (·.erased)) (fields.map (·.erased))
  | .interface interfaces fields => .interface (interfaces.map (·.erased)) (fields.map (·.erased))
  | .union types => .union (types.map (·.erased))
  | .enum values => .enum (values.map (·.erased))
  | .inputObject fields => .inputObject (fields.map (·.erased))

def TypeDefinition.erased (d : TypeDefinition) : TypeDefinition :=
  ⟨d.description.map (·.erased), d.name.erased, d.directives.map (·.erased), d.body.erased, none⟩

def TypeExtension.erased (d : TypeExtension) : TypeExtension :=
  ⟨d.name.erased, d.directives.map (·.erased), d.body.erased, none⟩

def DirectiveDefinition.erased (d : DirectiveDefinition) : DirectiveDefinition :=
  ⟨d.description.map (·.erased), d.name.erased, d.arguments.map (·.erased), d.repeatable,
    d.locations.map (·.erased), none⟩

def OperationTypeDefinition.erased (d : OperationTypeDefinition) : OperationTypeDefinition :=
  ⟨d.operation, d.type.erased, none⟩

def SchemaDefinition.erased (d : SchemaDefinition) : SchemaDefinition :=
  ⟨d.description.map (·.erased), d.directives.map (·.erased), d.operationTypes.map (·.erased), none⟩

def SchemaExtension.erased (d : SchemaExtension) : SchemaExtension :=
  ⟨d.directives.map (·.erased), d.operationTypes.map (·.erased), none⟩

def Definition.erased : Definition → Definition
  | .operation d => .operation d.erased
  | .fragment d => .fragment d.erased
  | .schema d => .schema d.erased
  | .type d => .type d.erased
  | .directive d => .directive d.erased
  | .schemaExtension d => .schemaExtension d.erased
  | .typeExtension d => .typeExtension d.erased

def Document.erased (d : Document) : Document :=
  ⟨d.definitions.map (·.erased), none⟩

def SchemaCoordinate.erased (c : SchemaCoordinate) : SchemaCoordinate :=
  ⟨c.ofDirective, c.name.erased, c.member.map (·.erased), c.argument.map (·.erased), none⟩

def Node.erased : Node → Node
  | .name n => .name n.erased
  | .document d => .document d.erased
  | .definition d => .definition d.erased
  | .variableDefinition d => .variableDefinition d.erased
  | .selectionSet s => .selectionSet s.erased
  | .selection s => .selection s.erased
  | .argument a => .argument a.erased
  | .value v => .value v.erased
  | .objectField f => .objectField f.erased
  | .directive d => .directive d.erased
  | .typeRef t => .typeRef t.erased
  | .operationTypeDefinition d => .operationTypeDefinition d.erased
  | .fieldDefinition d => .fieldDefinition d.erased
  | .inputValueDefinition d => .inputValueDefinition d.erased
  | .enumValueDefinition d => .enumValueDefinition d.erased
  | .schemaCoordinate c => .schemaCoordinate c.erased

def Content.erased : Content → Content
  | .number x => .number x.canonical
  | .node n => .node n.erased
  | .optional n => .optional (n.map (·.erased))
  | .list ns => .list (ns.map (·.erased))
  | .location _ => .location none
  | c => c

end Erased

section Lists

@[simp] lemma Value.erasedList_eq (vs : List Value) : Value.erasedList vs = vs.map (·.erased) := by
  induction vs with
  | nil => rfl
  | cons v vs ih => simp only [erasedList, ih, List.map_cons]

@[simp] lemma ObjectField.erasedList_eq (fs : List ObjectField) :
    ObjectField.erasedList fs = fs.map (·.erased) := by
  induction fs with
  | nil => rfl
  | cons f fs ih => simp only [erasedList, ih, List.map_cons]

@[simp] lemma Selection.erasedList_eq (ss : List Selection) :
    Selection.erasedList ss = ss.map (·.erased) := by
  induction ss with
  | nil => rfl
  | cons s ss ih => simp only [erasedList, ih, List.map_cons]

@[simp] lemma SelectionSet.erasedOption_eq (s : Option SelectionSet) :
    SelectionSet.erasedOption s = s.map (·.erased) := by
  cases s <;> rfl

end Lists

namespace Node

lemma kind_erased (n : Node) : n.erased.kind = n.kind := by
  cases n with
  | definition d =>
    cases d with
    | type d =>
      rcases d with ⟨_, _, _, body, _⟩
      cases body <;> rfl
    | typeExtension d =>
      rcases d with ⟨_, _, body, _⟩
      cases body <;> rfl
    | _ => rfl
  | selection s => cases s <;> rfl
  | value v => cases v <;> rfl
  | typeRef t => cases t <;> rfl
  | _ => rfl

end Node

class ErasedPart (α : Type) [Part α] (f : outParam (α → α)) : Prop where
  erased_toNode : ∀ a : α, (Part.toNode a).erased = Part.toNode (f a)

section ErasedParts

instance : ErasedPart Name Name.erased := ⟨fun _ => rfl⟩

instance : ErasedPart Definition Definition.erased := ⟨fun _ => rfl⟩

instance : ErasedPart VariableDefinition VariableDefinition.erased := ⟨fun _ => rfl⟩

instance : ErasedPart SelectionSet SelectionSet.erased := ⟨fun _ => rfl⟩

instance : ErasedPart Selection Selection.erased := ⟨fun _ => rfl⟩

instance : ErasedPart Argument Argument.erased := ⟨fun _ => rfl⟩

instance : ErasedPart Value Value.erased := ⟨fun _ => rfl⟩

instance : ErasedPart Variable Variable.erased := ⟨fun _ => rfl⟩

instance : ErasedPart StringValue StringValue.erased := ⟨fun _ => rfl⟩

instance : ErasedPart ObjectField ObjectField.erased := ⟨fun _ => rfl⟩

instance : ErasedPart Directive Directive.erased := ⟨fun _ => rfl⟩

instance : ErasedPart TypeRef TypeRef.erased := ⟨fun _ => rfl⟩

instance : ErasedPart NamedType NamedType.erased := ⟨fun _ => rfl⟩

instance : ErasedPart OperationTypeDefinition OperationTypeDefinition.erased := ⟨fun _ => rfl⟩

instance : ErasedPart FieldDefinition FieldDefinition.erased := ⟨fun _ => rfl⟩

instance : ErasedPart InputValueDefinition InputValueDefinition.erased := ⟨fun _ => rfl⟩

instance : ErasedPart EnumValueDefinition EnumValueDefinition.erased := ⟨fun _ => rfl⟩

end ErasedParts

namespace Content

section Injective

variable {α : Type} [Part α]

@[simp] lemma ofOne_inj {a b : α} : ofOne a = ofOne b ↔ a = b :=
  ⟨fun h => Option.some.inj (one?_ofOne a ▸ one?_ofOne b ▸ congrArg one? h), congrArg _⟩

@[simp] lemma ofOptional_inj {a b : Option α} : ofOptional a = ofOptional b ↔ a = b :=
  ⟨fun h => Option.some.inj (optional?_ofOptional a ▸ optional?_ofOptional b ▸ congrArg optional? h),
    congrArg _⟩

@[simp] lemma ofMany_inj {as bs : List α} : ofMany as = ofMany bs ↔ as = bs :=
  ⟨fun h => Option.some.inj (many?_ofMany as ▸ many?_ofMany bs ▸ congrArg many? h), congrArg _⟩

end Injective

@[simp] lemma erased_text (s : String) : (text s).erased = text s := rfl

@[simp] lemma erased_integer (n : Int64) : (integer n).erased = integer n := rfl

@[simp] lemma erased_number (x : Binary64) : (number x).erased = number x.canonical := rfl

@[simp] lemma erased_flag (b : Bool) : (flag b).erased = flag b := rfl

@[simp] lemma erased_operation (o : OperationType) : (operation o).erased = operation o := rfl

@[simp] lemma erased_location (l : Option Location) : (location l).erased = location none := rfl

variable {α : Type} [Part α] {f : α → α} [ErasedPart α f]

@[simp] lemma erased_ofOne (a : α) : (ofOne a).erased = ofOne (f a) :=
  congrArg node (ErasedPart.erased_toNode a)

@[simp] lemma erased_ofOptional (a : Option α) : (ofOptional a).erased = ofOptional (a.map f) := by
  simp [ofOptional, erased, Function.comp_def, ErasedPart.erased_toNode]

@[simp] lemma erased_ofMany (as : List α) : (ofMany as).erased = ofMany (as.map f) := by
  simp [ofMany, erased, Function.comp_def, ErasedPart.erased_toNode]

lemma nodes_erased (c : Content) : c.erased.nodes = c.nodes.map (·.erased) := by
  cases c with
  | optional n => cases n <;> rfl
  | _ => rfl

end Content

namespace Node

lemma fields_erased_definition (d : Definition) :
    (definition d).erased.fields = (definition d).fields.map fun f => (f.1, f.2.erased) := by
  cases d with
  | type d =>
    rcases d with ⟨_, _, _, body, _⟩
    cases body <;>
      simp [erased, Definition.erased, fields, slots, Definition.slots, TypeDefinition.erased,
        TypeDefinition.slots, TypeBody.erased, TypeBody.interfaceSlots, TypeBody.memberSlots]
  | typeExtension d =>
    rcases d with ⟨_, _, body, _⟩
    cases body <;>
      simp [erased, Definition.erased, fields, slots, Definition.slots, TypeExtension.erased,
        TypeExtension.slots, TypeBody.erased, TypeBody.interfaceSlots, TypeBody.memberSlots]
  | _ =>
    simp [erased, Definition.erased, fields, slots, Definition.slots, OperationDefinition.erased,
      OperationDefinition.slots, FragmentDefinition.erased, FragmentDefinition.slots, SchemaDefinition.erased,
      SchemaDefinition.slots, DirectiveDefinition.erased, DirectiveDefinition.slots, SchemaExtension.erased,
      SchemaExtension.slots]

lemma fields_erased (n : Node) : n.erased.fields = n.fields.map fun f => (f.1, f.2.erased) := by
  cases n with
  | definition d => exact fields_erased_definition d
  | selection s =>
    rcases s with ⟨⟨_, _, _, _, _, _⟩⟩ | _ | ⟨⟨_, _, _, _⟩⟩ <;>
      simp [erased, Selection.erased, Field.erased, FragmentSpread.erased, InlineFragment.erased, fields, slots,
        Selection.slots, Field.slots, FragmentSpread.slots, InlineFragment.slots]
  | value v =>
    cases v <;>
      simp [erased, Value.erased, Variable.erased, StringValue.erased, fields, slots, Value.slots,
        Variable.slots, StringValue.slots]
  | typeRef t =>
    cases t <;> simp [erased, TypeRef.erased, NamedType.erased, fields, slots, TypeRef.slots]
  | selectionSet s =>
    rcases s with ⟨_, _⟩
    simp [erased, SelectionSet.erased, fields, slots, SelectionSet.slots]
  | objectField f =>
    rcases f with ⟨_, _, _⟩
    simp [erased, ObjectField.erased, fields, slots, ObjectField.slots]
  | name => simp [erased, Name.erased, fields, slots, Name.slots]
  | document => simp [erased, Document.erased, fields, slots, Document.slots]
  | variableDefinition => simp [erased, VariableDefinition.erased, fields, slots, VariableDefinition.slots]
  | argument => simp [erased, Argument.erased, fields, slots, Argument.slots]
  | directive => simp [erased, Directive.erased, fields, slots, Directive.slots]
  | operationTypeDefinition =>
    simp [erased, OperationTypeDefinition.erased, fields, slots, OperationTypeDefinition.slots]
  | fieldDefinition => simp [erased, FieldDefinition.erased, fields, slots, FieldDefinition.slots]
  | inputValueDefinition => simp [erased, InputValueDefinition.erased, fields, slots, InputValueDefinition.slots]
  | enumValueDefinition => simp [erased, EnumValueDefinition.erased, fields, slots, EnumValueDefinition.slots]
  | schemaCoordinate => simp [erased, SchemaCoordinate.erased, fields, slots, SchemaCoordinate.slots]

lemma children_erased (n : Node) : n.erased.children = n.children.map (·.erased) := by
  rw [children_eq_fields, children_eq_fields, fields_erased, List.flatMap_map, List.map_flatMap]
  simp only [Content.nodes_erased]

lemma at?_erased (n : Node) (way : List Nat) : n.erased.at? way = (n.at? way).map (·.erased) := by
  induction way generalizing n with
  | nil => rfl
  | cons i way ih =>
    rw [at?_cons, at?_cons, children_erased, List.getElem?_map, Option.bind_map, Option.map_bind]
    exact congrArg _ (funext fun c => ih c)

lemma location_erased (n : Node) : n.erased.location = none := by
  cases n with
  | definition d => cases d <;> rfl
  | selection s => rcases s with ⟨⟨_, _, _, _, _, _⟩⟩ | _ | ⟨⟨_, _, _, _⟩⟩ <;> rfl
  | selectionSet s => cases s; rfl
  | objectField f => cases f; rfl
  | value v => cases v <;> rfl
  | typeRef t => cases t <;> rfl
  | _ => rfl

theorem erased_unplaced {n m : Node} {way : List Nat} (h : n.erased.at? way = some m) : m.location = none := by
  rw [at?_erased] at h
  obtain ⟨c, -, rfl⟩ := Option.map_eq_some_iff.mp h
  exact location_erased c

lemma eq_of_fields {a b : Node} (hk : a.kind = b.kind) (hf : a.fields = b.fields) : a = b := by
  cases SameKind.of_kind hk with
  | type d e h =>
    rcases d with ⟨_, _, _, body, _⟩
    rcases e with ⟨_, _, _, body', _⟩
    cases body <;> cases body' <;> cases h <;>
      simp_all [fields, slots, Definition.slots, TypeDefinition.slots, TypeBody.interfaceSlots,
        TypeBody.memberSlots]
  | typeExtension d e h =>
    rcases d with ⟨_, _, body, _⟩
    rcases e with ⟨_, _, body', _⟩
    cases body <;> cases body' <;> cases h <;>
      simp_all [fields, slots, Definition.slots, TypeExtension.slots, TypeBody.interfaceSlots,
        TypeBody.memberSlots]
  | name m n => cases m; cases n; simp_all [fields, slots, Name.slots]
  | document d e => cases d; cases e; simp_all [fields, slots, Document.slots]
  | operation d e => cases d; cases e; simp_all [fields, slots, Definition.slots, OperationDefinition.slots]
  | fragment d e => cases d; cases e; simp_all [fields, slots, Definition.slots, FragmentDefinition.slots]
  | schema d e => cases d; cases e; simp_all [fields, slots, Definition.slots, SchemaDefinition.slots]
  | directiveDefinition d e =>
    cases d; cases e; simp_all [fields, slots, Definition.slots, DirectiveDefinition.slots]
  | schemaExtension d e => cases d; cases e; simp_all [fields, slots, Definition.slots, SchemaExtension.slots]
  | variableDefinition d e => cases d; cases e; simp_all [fields, slots, VariableDefinition.slots]
  | selectionSet s t => cases s; cases t; simp_all [fields, slots, SelectionSet.slots]
  | field f g => cases f; cases g; simp_all [fields, slots, Selection.slots, Field.slots]
  | spread s t => cases s; cases t; simp_all [fields, slots, Selection.slots, FragmentSpread.slots]
  | inline f g => cases f; cases g; simp_all [fields, slots, Selection.slots, InlineFragment.slots]
  | argument x y => cases x; cases y; simp_all [fields, slots, Argument.slots]
  | var v w => cases v; cases w; simp_all [fields, slots, Value.slots, Variable.slots]
  | string s t => cases s; cases t; simp_all [fields, slots, Value.slots, StringValue.slots]
  | int | float | boolean | null | enum | list | object => simp_all [fields, slots, Value.slots]
  | objectField f g => cases f; cases g; simp_all [fields, slots, ObjectField.slots]
  | directive d e => cases d; cases e; simp_all [fields, slots, Directive.slots]
  | namedType t u => cases t; cases u; simp_all [fields, slots, TypeRef.slots]
  | listType | nonNull => simp_all [fields, slots, TypeRef.slots]
  | operationType d e => cases d; cases e; simp_all [fields, slots, OperationTypeDefinition.slots]
  | fieldDefinition d e => cases d; cases e; simp_all [fields, slots, FieldDefinition.slots]
  | inputValueDefinition d e => cases d; cases e; simp_all [fields, slots, InputValueDefinition.slots]
  | enumValueDefinition d e => cases d; cases e; simp_all [fields, slots, EnumValueDefinition.slots]
  | schemaCoordinate c d => cases c; cases d; simp_all [fields, slots, SchemaCoordinate.slots]

end Node

section Comparison

lemma Binary64.beq_iff_canonical {x y : Binary64} :
    (x == y) = true ↔ x.canonical = y.canonical ∧ (x == x) = true ∧ (y == y) = true := by
  have hz : (⟨0⟩ : Binary64).isZero = true := rfl
  simp only [beq_iff, canonical]
  grind

lemma list_beq_iff_map {α β : Type} [BEq α] {f : α → β} {as bs : List α}
    (h : ∀ a ∈ as, ∀ b, (a == b) = true ↔ f a = f b ∧ (a == a) = true ∧ (b == b) = true) :
    (as == bs) = true ↔ as.map f = bs.map f ∧ (as == as) = true ∧ (bs == bs) = true := by
  induction as generalizing bs with
  | nil => cases bs <;> simp
  | cons a as ih =>
    cases bs with
    | nil => simp
    | cons b bs =>
      have ha := h a List.mem_cons_self b
      have has := @ih bs fun a ha => h a (List.mem_cons_of_mem _ ha)
      simp only [List.cons_beq_cons, Bool.and_eq_true, List.map_cons, List.cons.injEq, ha, has]
      tauto

lemma option_beq_iff_map {α β : Type} [BEq α] {f : α → β} {a b : Option α}
    (h : ∀ x ∈ a, ∀ y, (x == y) = true ↔ f x = f y ∧ (x == x) = true ∧ (y == y) = true) :
    (a == b) = true ↔ a.map f = b.map f ∧ (a == a) = true ∧ (b == b) = true := by
  cases a with
  | none => cases b <;> simp
  | some x =>
    cases b with
    | none => simp
    | some y => simpa using h x rfl y

lemma Content.beq_iff_erased {c d : Content}
    (h : ∀ m ∈ c.nodes, ∀ n : Node,
      (m == n) = true ↔ m.erased = n.erased ∧ (m == m) = true ∧ (n == n) = true) :
    (c == d) = true ↔ c.erased = d.erased ∧ (c == c) = true ∧ (d == d) = true := by
  cases c <;> cases d
  case text.text | integer.integer | flag.flag | operation.operation | location.location => simp
  case number.number x y => simpa using Binary64.beq_iff_canonical
  case node.node m n => simpa [erased] using h m (List.mem_singleton_self m) n
  case optional.optional m n =>
    simpa [erased] using option_beq_iff_map fun x hx => h x (Option.mem_toList.mpr hx)
  case list.list ms ns => simpa [erased, nodes] using list_beq_iff_map h
  all_goals exact iff_of_false (by rintro ⟨⟩) (by rintro ⟨⟨⟩⟩)

end Comparison

namespace Node

lemma erased_eq_iff {a b : Node} :
    a.erased = b.erased ↔ a.kind = b.kind ∧
      a.fields.map (fun f => (f.1, f.2.erased)) = b.fields.map fun f => (f.1, f.2.erased) := by
  rw [← fields_erased, ← fields_erased, ← a.kind_erased, ← b.kind_erased]
  exact ⟨fun h => ⟨congrArg kind h, congrArg fields h⟩, fun h => eq_of_fields h.1 h.2⟩

lemma beq_iff_erased {a b : Node} :
    (a == b) = true ↔ a.erased = b.erased ∧ (a == a) = true ∧ (b == b) = true := by
  induction a using Node.induction generalizing b with
  | step a ih =>
    have hf : ∀ f ∈ a.fields, ∀ g : FieldName × Content, (f == g) = true ↔
        (f.1, f.2.erased) = (g.1, g.2.erased) ∧ (f == f) = true ∧ (g == g) = true := by
      rintro ⟨x, c⟩ hc ⟨y, d⟩
      have hcd := Content.beq_iff_erased (c := c) (d := d) fun m hm n =>
        ih m (children_eq_fields a ▸ List.mem_flatMap.mpr ⟨_, hc, hm⟩)
      by_cases hxy : x = y
      · subst hxy
        simpa using hcd
      · exact iff_of_false (fun h => hxy (eq_of_beq (Bool.and_eq_true_iff.mp h).1)) fun h =>
          hxy (Prod.mk.inj h.1).1
    rw [beq_iff_fields, erased_eq_iff, list_beq_iff_map hf, beq_iff_fields, beq_iff_fields]
    tauto

lemma beq_comm (a b : Node) : (a == b) = (b == a) := by
  rw [Bool.eq_iff_iff]
  refine beq_iff_erased.trans (.trans ?_ beq_iff_erased.symm)
  rw [eq_comm, and_comm (a := (a == a) = true)]

lemma beq_trans {a b c : Node} (hab : (a == b) = true) (hbc : (b == c) = true) : (a == c) = true := by
  rw [beq_iff_erased] at hab hbc ⊢
  exact ⟨hab.1.trans hbc.1, hab.2.1, hbc.2.2⟩

/-- Equal trees are of one kind and the same once erased, and have no NaN in them. So equality is
symmetric and transitive, it is reflexive where there is no NaN, and every field counts but for the
locations. -/
theorem beq_iff_erased_eq :
    (∀ a b : Node, (a == b) = true ↔ a.kind = b.kind ∧ a.erased = b.erased ∧ a.NaNFree ∧ b.NaNFree) ∧
    (∀ a b : Node, (a == b) = (b == a)) ∧
    (∀ a b c : Node, (a == b) = true → (b == c) = true → (a == c) = true) ∧
    (∀ a : Node, (a == a) = true ↔ a.NaNFree) ∧
    (∀ a b : Node, a.kind = b.kind → (a == b) = (a.fields == b.fields)) ∧
    ∀ a b : Node, a.kind ≠ b.kind → (a == b) = false := by
  refine ⟨fun a b => ?_, beq_comm, fun a b c => beq_trans, beq_self_iff, beq_fields, fun a b h => ?_⟩
  · rw [NaNFree, NaNFree, ← beq_self_iff, ← beq_self_iff, ← beq_iff_erased]
    exact ⟨fun h => ⟨kind_eq_of_beq h, h⟩, And.right⟩
  · exact Bool.eq_false_iff.mpr fun hab => h (kind_eq_of_beq hab)

end Node

end GraphQLTree
