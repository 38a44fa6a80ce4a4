import GraphQLTree.Proofs.Validity

namespace GraphQLTree

class ExactPart (α : Type) [Part α] : Prop where
  toNode_of_ofNode? : ∀ {n : Node} {a : α}, Part.ofNode? n = some a → n = Part.toNode a

section ExactParts

instance : ExactPart Name := ⟨fun {n _} h => by cases n <;> cases h; rfl⟩

instance : ExactPart Definition := ⟨fun {n _} h => by cases n <;> cases h; rfl⟩

instance : ExactPart VariableDefinition := ⟨fun {n _} h => by cases n <;> cases h; rfl⟩

instance : ExactPart SelectionSet := ⟨fun {n _} h => by cases n <;> cases h; rfl⟩

instance : ExactPart Selection := ⟨fun {n _} h => by cases n <;> cases h; rfl⟩

instance : ExactPart Argument := ⟨fun {n _} h => by cases n <;> cases h; rfl⟩

instance : ExactPart Value := ⟨fun {n _} h => by cases n <;> cases h; rfl⟩

instance : ExactPart Variable :=
  ⟨fun {n _} h => by
    cases n with
    | value v => cases v <;> cases h; rfl
    | _ => cases h⟩

instance : ExactPart StringValue :=
  ⟨fun {n _} h => by
    cases n with
    | value v => cases v <;> cases h; rfl
    | _ => cases h⟩

instance : ExactPart ObjectField := ⟨fun {n _} h => by cases n <;> cases h; rfl⟩

instance : ExactPart Directive := ⟨fun {n _} h => by cases n <;> cases h; rfl⟩

instance : ExactPart TypeRef := ⟨fun {n _} h => by cases n <;> cases h; rfl⟩

instance : ExactPart NamedType :=
  ⟨fun {n _} h => by
    cases n with
    | typeRef t => cases t <;> cases h; rfl
    | _ => cases h⟩

instance : ExactPart OperationTypeDefinition := ⟨fun {n _} h => by cases n <;> cases h; rfl⟩

instance : ExactPart FieldDefinition := ⟨fun {n _} h => by cases n <;> cases h; rfl⟩

instance : ExactPart InputValueDefinition := ⟨fun {n _} h => by cases n <;> cases h; rfl⟩

instance : ExactPart EnumValueDefinition := ⟨fun {n _} h => by cases n <;> cases h; rfl⟩

end ExactParts

namespace Content

variable {c : Content}

lemma text?_eq_some_iff {s : String} : c.text? = some s ↔ c = .text s := by
  cases c <;> simp [text?]

lemma integer?_eq_some_iff {n : Int64} : c.integer? = some n ↔ c = .integer n := by
  cases c <;> simp [integer?]

lemma number?_eq_some_iff {x : Binary64} : c.number? = some x ↔ c = .number x := by
  cases c <;> simp [number?]

lemma flag?_eq_some_iff {b : Bool} : c.flag? = some b ↔ c = .flag b := by
  cases c <;> simp [flag?]

lemma operation?_eq_some_iff {o : OperationType} : c.operation? = some o ↔ c = .operation o := by
  cases c <;> simp [operation?]

lemma location?_eq_some_iff {l : Option Location} : c.location? = some l ↔ c = .location l := by
  cases c <;> simp [location?]

variable {α : Type} [Part α] [ExactPart α]

lemma one?_eq_some_iff {a : α} : c.one? = some a ↔ c = .ofOne a := by
  constructor
  · intro h
    cases c with
    | node n => exact congrArg Content.node (ExactPart.toNode_of_ofNode? h)
    | _ => cases h
  · rintro rfl
    exact one?_ofOne a

lemma optional?_eq_some_iff {a : Option α} : c.optional? = some a ↔ c = .ofOptional a := by
  constructor
  · intro h
    cases c with
    | optional o =>
      cases o with
      | none => exact Option.some.inj h ▸ rfl
      | some n =>
        obtain ⟨b, hb, rfl⟩ := Option.map_eq_some_iff.mp h
        exact congrArg (Content.optional ∘ some) (ExactPart.toNode_of_ofNode? hb)
    | _ => cases h
  · rintro rfl
    exact optional?_ofOptional a

lemma many?_eq_some_iff {as : List α} : c.many? = some as ↔ c = .ofMany as := by
  constructor
  · intro h
    cases c with
    | list ns =>
      refine congrArg Content.list ?_
      change ns.mapM Part.ofNode? = some as at h
      induction ns generalizing as with
      | nil => exact Option.some.inj h ▸ rfl
      | cons n ns ih =>
        rw [List.mapM_cons] at h
        obtain ⟨a, ha, h⟩ := Option.bind_eq_some_iff.mp h
        obtain ⟨as, has, h⟩ := Option.bind_eq_some_iff.mp h
        obtain rfl := Option.some.inj h
        exact congrArg₂ List.cons (ExactPart.toNode_of_ofNode? ha) (ih has)
    | _ => cases h
  · rintro rfl
    exact many?_ofMany as

end Content

def Slot.entry (s : Slot) : FieldName × Content :=
  (s.field, s.content)

def Node.fields (n : Node) : List (FieldName × Content) :=
  n.slots.map Slot.entry

def setField (x : FieldName) (c : Content) (fs : List (FieldName × Content)) : List (FieldName × Content) :=
  fs.map fun f => if f.1 = x then (x, c) else f

def Node.Replaced (n : Node) (x : FieldName) (c : Content) (r : Except TreeError Node) : Prop :=
  ∃ m : Node, m.kind = n.kind ∧ m.fields = setField x c n.fields ∧
    (r = m.accepted ∨ r = .ok m ∧ (n.Valid → m.Valid))

namespace Slot

def Keeps (n : Node) (s : Slot) : Prop :=
  ∀ c r, s.replace c = some r → n.Replaced s.field c r

variable {n : Node} {field : FieldName}

lemma keeps_iff {α : Type} {content : Content} {get : Content → Option α} {make : α → Content}
    {put : α → Except TreeError Node} (hmake : ∀ {c v}, get c = some v ↔ c = make v) :
    Keeps n ⟨field, content, fun c => (get c).map put⟩ ↔ ∀ v, n.Replaced field (make v) (put v) := by
  constructor
  · intro h v
    exact h _ _ (Option.map_eq_some_iff.mpr ⟨v, hmake.mpr rfl, rfl⟩)
  · intro h c r hr
    obtain ⟨v, hv, rfl⟩ := Option.map_eq_some_iff.mp hr
    exact hmake.mp hv ▸ h v

@[simp] lemma keeps_checkedText {s : String} {put : String → Except TreeError Node} :
    Keeps n (checkedText field s put) ↔ ∀ v, n.Replaced field (.text v) (put v) :=
  keeps_iff Content.text?_eq_some_iff

@[simp] lemma keeps_checkedFlag {b : Bool} {put : Bool → Except TreeError Node} :
    Keeps n (checkedFlag field b put) ↔ ∀ v, n.Replaced field (.flag v) (put v) :=
  keeps_iff Content.flag?_eq_some_iff

@[simp] lemma keeps_text {s : String} {put : String → Node} :
    Keeps n (text field s put) ↔ ∀ v, n.Replaced field (.text v) (.ok (put v)) :=
  keeps_checkedText

@[simp] lemma keeps_flag {b : Bool} {put : Bool → Node} :
    Keeps n (flag field b put) ↔ ∀ v, n.Replaced field (.flag v) (.ok (put v)) :=
  keeps_checkedFlag

@[simp] lemma keeps_integer {i : Int64} {put : Int64 → Node} :
    Keeps n (integer field i put) ↔ ∀ v, n.Replaced field (.integer v) (.ok (put v)) :=
  keeps_iff Content.integer?_eq_some_iff

@[simp] lemma keeps_number {x : Binary64} {put : Binary64 → Node} :
    Keeps n (number field x put) ↔ ∀ v, n.Replaced field (.number v) (.ok (put v)) :=
  keeps_iff Content.number?_eq_some_iff

@[simp] lemma keeps_operation {o : OperationType} {put : OperationType → Node} :
    Keeps n (operation o put) ↔ ∀ v, n.Replaced .operation (.operation v) (.ok (put v)) :=
  keeps_iff Content.operation?_eq_some_iff

@[simp] lemma keeps_place {l : Option Location} {put : Option Location → Node} :
    Keeps n (place l put) ↔ ∀ v, n.Replaced .location (.location v) (.ok (put v)) :=
  keeps_iff Content.location?_eq_some_iff

variable {α : Type} [Part α] [ExactPart α]

@[simp] lemma keeps_checkedOne {a : α} {put : α → Except TreeError Node} :
    Keeps n (checkedOne field a put) ↔ ∀ v, n.Replaced field (.ofOne v) (put v) :=
  keeps_iff Content.one?_eq_some_iff

@[simp] lemma keeps_checkedOptional {a : Option α} {put : Option α → Except TreeError Node} :
    Keeps n (checkedOptional field a put) ↔ ∀ v, n.Replaced field (.ofOptional v) (put v) :=
  keeps_iff Content.optional?_eq_some_iff

@[simp] lemma keeps_one {a : α} {put : α → Node} :
    Keeps n (one field a put) ↔ ∀ v, n.Replaced field (.ofOne v) (.ok (put v)) :=
  keeps_checkedOne

@[simp] lemma keeps_optional {a : Option α} {put : Option α → Node} :
    Keeps n (optional field a put) ↔ ∀ v, n.Replaced field (.ofOptional v) (.ok (put v)) :=
  keeps_checkedOptional

@[simp] lemma keeps_many {as : List α} {put : List α → Node} :
    Keeps n (many field as put) ↔ ∀ v, n.Replaced field (.ofMany v) (.ok (put v)) :=
  keeps_iff Content.many?_eq_some_iff

end Slot

namespace Node

open Slot

lemma Replaced.total {n m : Node} {x : FieldName} {c : Content} (hk : m.kind = n.kind)
    (hf : m.fields = setField x c n.fields) (hv : n.Valid → m.Valid) : n.Replaced x c (.ok m) :=
  ⟨m, hk, hf, .inr ⟨rfl, hv⟩⟩

lemma Replaced.checked {n m : Node} {x : FieldName} {c : Content} {r : Except TreeError Node}
    (hk : m.kind = n.kind) (hf : m.fields = setField x c n.fields) (hr : m.accepted = r) : n.Replaced x c r :=
  ⟨m, hk, hf, .inl hr.symm⟩

lemma keeps_value (v : Value) : ∀ s ∈ v.slots, s.Keeps (value v) := by
  cases v <;> simp [Value.slots, Variable.slots, StringValue.slots, -Bool.forall_bool]
  all_goals and_intros
  all_goals exact fun _ => .total rfl rfl id

lemma keeps_typeRef (t : TypeRef) : ∀ s ∈ t.slots, s.Keeps (typeRef t) := by
  cases t with
  | nonNull inner l =>
    simp only [TypeRef.slots, List.forall_mem_cons, keeps_checkedOne, keeps_place]
    refine ⟨fun v => ?_, fun v => .total rfl rfl id, List.forall_mem_nil _⟩
    exact .checked (m := typeRef (.nonNull v l)) rfl rfl (accepted_nonNull v l)
  | named | list =>
    simp [TypeRef.slots]
    exact ⟨fun _ => .total rfl rfl id, fun _ => .total rfl rfl id⟩

lemma keeps_selection (s : Selection) : ∀ t ∈ s.slots, t.Keeps (selection s) := by
  cases s <;> simp [Selection.slots, Field.slots, FragmentSpread.slots, InlineFragment.slots]
  all_goals and_intros
  all_goals exact fun _ => .total rfl rfl id

lemma keeps_definition (d : Definition) : ∀ s ∈ d.slots, s.Keeps (definition d) := by
  rcases d with d | d | d | ⟨_, _, _, body, _⟩ | d | d | ⟨_, _, body, _⟩
  case type | typeExtension =>
    cases body <;>
      simp [Definition.slots, TypeDefinition.slots, TypeExtension.slots, TypeBody.interfaceSlots,
        TypeBody.memberSlots]
    all_goals and_intros
    all_goals exact fun _ => .total rfl rfl id
  all_goals
    simp [Definition.slots, OperationDefinition.slots, FragmentDefinition.slots, SchemaDefinition.slots,
      DirectiveDefinition.slots, SchemaExtension.slots, -Bool.forall_bool]
  all_goals and_intros
  all_goals exact fun _ => .total rfl rfl id

lemma keeps_schemaCoordinate (c : SchemaCoordinate) : ∀ s ∈ c.slots, s.Keeps (schemaCoordinate c) := by
  simp only [SchemaCoordinate.slots, List.forall_mem_cons, keeps_checkedFlag, keeps_one,
    keeps_checkedOptional, keeps_place]
  refine ⟨fun v => ?_, fun v => ?_, fun v => ?_, fun v => ?_, fun v => ?_, List.forall_mem_nil _⟩
  · exact .checked (m := schemaCoordinate { c with ofDirective := v }) rfl rfl (accepted_schemaCoordinate _)
  · exact .total rfl rfl fun h => h.withName v
  · exact .checked (m := schemaCoordinate { c with member := v }) rfl rfl (accepted_schemaCoordinate _)
  · exact .checked (m := schemaCoordinate { c with argument := v }) rfl rfl (accepted_schemaCoordinate _)
  · exact .total rfl rfl fun h => h.withLocation v

lemma keeps_slots (n : Node) : ∀ s ∈ n.slots, s.Keeps n := by
  cases n with
  | name n =>
    simp only [slots, Name.slots, List.forall_mem_cons, keeps_checkedText, keeps_place]
    refine ⟨fun v => ?_, fun v => .total rfl rfl id, List.forall_mem_nil _⟩
    exact .checked (m := name ⟨v, n.location⟩) rfl rfl (accepted_name _)
  | definition d => exact keeps_definition d
  | selection s => exact keeps_selection s
  | value v => exact keeps_value v
  | typeRef t => exact keeps_typeRef t
  | schemaCoordinate c => exact keeps_schemaCoordinate c
  | _ =>
    simp [slots, Document.slots, VariableDefinition.slots, SelectionSet.slots, Argument.slots,
      ObjectField.slots, Directive.slots, OperationTypeDefinition.slots, FieldDefinition.slots,
      InputValueDefinition.slots, EnumValueDefinition.slots]
    and_intros
    all_goals exact fun _ => .total rfl rfl id

lemma replaced_of_update {n : Node} {x : FieldName} {c : Content} {r : Except TreeError Node}
    (h : n.update x c = some r) : n.Replaced x c r := by
  obtain ⟨s, hs, hr⟩ := Option.bind_eq_some_iff.mp h
  obtain rfl : s.field = x := by simpa using List.find?_some hs
  exact n.keeps_slots s (List.mem_of_find?_eq_some hs) c r hr

lemma exists_accepted_of_update {n : Node} {x : FieldName} {c : Content} {r : Except TreeError Node}
    (hn : n.Valid) (h : n.update x c = some r) :
    ∃ m : Node, m.kind = n.kind ∧ m.fields = setField x c n.fields ∧ r = m.accepted := by
  obtain ⟨m, hk, hf, hr | ⟨hr, hv⟩⟩ := replaced_of_update h
  · exact ⟨m, hk, hf, hr⟩
  · -- an update that is not checked cannot break the rule, so that the check would pass
    exact ⟨m, hk, hf, hr.trans (m.accepted_eq_ok_iff.mpr (hv hn)).symm⟩

lemma getLast?_fields (n : Node) : n.fields.getLast? = some (.location, .location n.location) := by
  cases n with
  | definition d =>
    rcases d with d | d | d | ⟨_, _, _, body, _⟩ | d | d | ⟨_, _, body, _⟩
    case type | typeExtension => cases body <;> rfl
    all_goals rfl
  | selection s => cases s <;> rfl
  | value v => cases v <;> rfl
  | typeRef t => cases t <;> rfl
  | _ => rfl

lemma location_of_fields {n m : Node} {x : FieldName} {c : Content} (hf : m.fields = setField x c n.fields)
    (hx : x ≠ .location) : m.location = n.location := by
  have hm := m.getLast?_fields
  rw [hf, setField, List.getLast?_map, n.getLast?_fields, Option.map_some, if_neg hx.symm] at hm
  exact (Content.location.inj (congrArg Prod.snd (Option.some.inj hm))).symm

lemma children_eq_fields (n : Node) : n.children = n.fields.flatMap (·.2.nodes) := by
  rw [children, fields, List.flatMap_map]
  rfl

lemma mem_children_of_fields {n m p : Node} {x : FieldName} {c : Content}
    (hf : m.fields = setField x c n.fields) (hp : p ∈ m.children) : p ∈ c.nodes ∨ p ∈ n.children := by
  rw [children_eq_fields, hf] at hp
  obtain ⟨f, hf, hp⟩ := List.mem_flatMap.mp hp
  obtain ⟨g, hg, rfl⟩ := List.mem_map.mp hf
  split at hp
  · exact .inl hp
  · rw [children_eq_fields]
    exact .inr (List.mem_flatMap.mpr ⟨g, hg, hp⟩)

end Node

end GraphQLTree
