import GraphQLTree.Proofs.Updates

namespace GraphQLTree

inductive FieldSort : Type 1
  | text
  | integer
  | number
  | flag
  | operation
  | location
  | one (α : Type) [Part α]
  | optional (α : Type) [Part α]
  | many (α : Type) [Part α]

def FieldSort.Takes : FieldSort → Content → Prop
  | text, c => ∃ s, c = .text s
  | integer, c => ∃ n, c = .integer n
  | number, c => ∃ x, c = .number x
  | flag, c => ∃ b, c = .flag b
  | operation, c => ∃ o, c = .operation o
  | location, c => ∃ l, c = .location l
  | one α, c => ∃ a : α, c = .ofOne a
  | optional α, c => ∃ a : Option α, c = .ofOptional a
  | many α, c => ∃ as : List α, c = .ofMany as

def FieldSort.holdsNodes : FieldSort → Bool
  | one _ | optional _ | many _ => true
  | text | integer | number | flag | operation | location => false

lemma FieldSort.Takes.nodes_eq {s : FieldSort} {c : Content} (h : s.Takes c) (hs : s.holdsNodes = false) :
    c.nodes = [] := by
  cases s with
  | one | optional | many => cases hs
  | _ =>
    obtain ⟨v, rfl⟩ := h
    rfl

namespace Signature

abbrev description : FieldName × FieldSort := (.description, .optional StringValue)

abbrev name : FieldName × FieldSort := (.name, .one Name)

abbrev arguments : FieldName × FieldSort := (.arguments, .many Argument)

abbrev inputs (x : FieldName) : FieldName × FieldSort := (x, .many InputValueDefinition)

abbrev directives : FieldName × FieldSort := (.directives, .many Directive)

abbrev variableDefinitions : FieldName × FieldSort := (.variableDefinitions, .many VariableDefinition)

abbrev selectionSet : FieldName × FieldSort := (.selectionSet, .one SelectionSet)

abbrev operationTypes : FieldName × FieldSort := (.operationTypes, .many OperationTypeDefinition)

abbrev objectBody : List (FieldName × FieldSort) :=
  [(.interfaces, .many NamedType), directives, (.fields, .many FieldDefinition)]

abbrev unionBody : List (FieldName × FieldSort) :=
  [directives, (.types, .many NamedType)]

abbrev enumBody : List (FieldName × FieldSort) :=
  [directives, (.values, .many EnumValueDefinition)]

def ownFields : Kind → List (FieldName × FieldSort)
  | .name | .enumValue => [(.value, .text)]
  | .intValue => [(.value, .integer)]
  | .floatValue => [(.value, .number)]
  | .booleanValue => [(.value, .flag)]
  | .stringValue => [(.value, .text), (.block, .flag)]
  | .nullValue => []
  | .variable | .namedType => [name]
  | .listValue => [(.items, .many Value)]
  | .objectValue => [(.fields, .many ObjectField)]
  | .objectField | .argument => [name, (.value, .one Value)]
  | .directive => [name, arguments]
  | .listType => [(.elementType, .one TypeRef)]
  | .nonNullType => [(.innerType, .one TypeRef)]
  | .document => [(.definitions, .many Definition)]
  | .operationDefinition =>
    [(.operation, .operation), (.name, .optional Name), variableDefinitions, directives, selectionSet]
  | .fragmentDefinition =>
    [name, variableDefinitions, (.typeCondition, .one NamedType), directives, selectionSet]
  | .variableDefinition =>
    [(.var, .one Variable), (.variableType, .one TypeRef), (.defaultValue, .optional Value), directives]
  | .selectionSet => [(.selections, .many Selection)]
  | .field =>
    [(.aliasName, .optional Name), name, arguments, directives, (.selectionSet, .optional SelectionSet)]
  | .fragmentSpread => [name, directives]
  | .inlineFragment => [(.typeCondition, .optional NamedType), directives, selectionSet]
  | .schemaDefinition => [description, directives, operationTypes]
  | .schemaExtension => [directives, operationTypes]
  | .operationTypeDefinition => [(.operation, .operation), (.namedType, .one NamedType)]
  | .fieldDefinition => [description, name, inputs .arguments, (.fieldType, .one TypeRef), directives]
  | .inputValueDefinition =>
    [description, name, (.valueType, .one TypeRef), (.defaultValue, .optional Value), directives]
  | .directiveDefinition =>
    [description, name, inputs .arguments, (.repeatable, .flag), (.locations, .many Name)]
  | .enumValueDefinition | .scalarTypeDefinition => [description, name, directives]
  | .objectTypeDefinition | .interfaceTypeDefinition => description :: name :: objectBody
  | .unionTypeDefinition => description :: name :: unionBody
  | .enumTypeDefinition => description :: name :: enumBody
  | .inputObjectTypeDefinition => [description, name, directives, inputs .fields]
  | .scalarTypeExtension => [name, directives]
  | .objectTypeExtension | .interfaceTypeExtension => name :: objectBody
  | .unionTypeExtension => name :: unionBody
  | .enumTypeExtension => name :: enumBody
  | .inputObjectTypeExtension => [name, directives, inputs .fields]
  | .schemaCoordinate =>
    [(.ofDirective, .flag), name, (.memberName, .optional Name), (.argumentName, .optional Name)]

end Signature

namespace Kind

def signature (k : Kind) : List (FieldName × FieldSort) :=
  Signature.ownFields k ++ [(.location, .location)]

def sort? (k : Kind) (x : FieldName) : Option FieldSort :=
  (k.signature.find? (·.1 = x)).map (·.2)

def checkedFields : Kind → List FieldName
  | .name => [.value]
  | .nonNullType => [.innerType]
  | .schemaCoordinate => [.ofDirective, .memberName, .argumentName]
  | _ => []

lemma nodup_signature (k : Kind) : (k.signature.map (·.1)).Nodup := by
  cases k <;> decide

lemma eq_of_mem_checkedFields {k : Kind} (hk : k ≠ .schemaCoordinate) {x y : FieldName}
    (hx : x ∈ k.checkedFields) (hy : y ∈ k.checkedFields) : x = y := by
  cases k with
  | schemaCoordinate => exact absurd rfl hk
  | name | nonNullType => exact (List.mem_singleton.mp hx).trans (List.mem_singleton.mp hy).symm
  | _ => exact absurd hx List.not_mem_nil

end Kind

namespace Slot

/-- A slot is one of a kind's fields when it holds what the field can hold, and takes all that. -/
structure Fits (s : Slot) (f : FieldName × FieldSort) : Prop where
  field_eq : s.field = f.1
  takes_content : f.2.Takes s.content
  isSome_replace_iff : ∀ c, (s.replace c).isSome = true ↔ f.2.Takes c

variable {x : FieldName}

lemma isSome_map_iff {α β : Type} {o : Option α} {f : α → β} {P : Prop} (h : (∃ a, o = some a) ↔ P) :
    (o.map f).isSome = true ↔ P := by
  rw [Option.isSome_map, Option.isSome_iff_exists, h]

@[simp] lemma fits_checkedText {s : String} {put : String → Except TreeError Node} :
    (checkedText x s put).Fits (x, .text) :=
  ⟨rfl, ⟨s, rfl⟩, fun _ => isSome_map_iff (exists_congr fun _ => Content.text?_eq_some_iff)⟩

@[simp] lemma fits_checkedFlag {b : Bool} {put : Bool → Except TreeError Node} :
    (checkedFlag x b put).Fits (x, .flag) :=
  ⟨rfl, ⟨b, rfl⟩, fun _ => isSome_map_iff (exists_congr fun _ => Content.flag?_eq_some_iff)⟩

@[simp] lemma fits_text {s : String} {put : String → Node} : (text x s put).Fits (x, .text) :=
  fits_checkedText

@[simp] lemma fits_flag {b : Bool} {put : Bool → Node} : (flag x b put).Fits (x, .flag) :=
  fits_checkedFlag

@[simp] lemma fits_integer {i : Int64} {put : Int64 → Node} : (integer x i put).Fits (x, .integer) :=
  ⟨rfl, ⟨i, rfl⟩, fun _ => isSome_map_iff (exists_congr fun _ => Content.integer?_eq_some_iff)⟩

@[simp] lemma fits_number {v : Binary64} {put : Binary64 → Node} : (number x v put).Fits (x, .number) :=
  ⟨rfl, ⟨v, rfl⟩, fun _ => isSome_map_iff (exists_congr fun _ => Content.number?_eq_some_iff)⟩

@[simp] lemma fits_operation {o : OperationType} {put : OperationType → Node} :
    (operation o put).Fits (.operation, .operation) :=
  ⟨rfl, ⟨o, rfl⟩, fun _ => isSome_map_iff (exists_congr fun _ => Content.operation?_eq_some_iff)⟩

@[simp] lemma fits_place {l : Option Location} {put : Option Location → Node} :
    (place l put).Fits (.location, .location) :=
  ⟨rfl, ⟨l, rfl⟩, fun _ => isSome_map_iff (exists_congr fun _ => Content.location?_eq_some_iff)⟩

section Parts

variable {α : Type} [Part α] [ExactPart α]

@[simp] lemma fits_checkedOne {a : α} {put : α → Except TreeError Node} :
    (checkedOne x a put).Fits (x, .one α) :=
  ⟨rfl, ⟨a, rfl⟩, fun _ => isSome_map_iff (exists_congr fun _ => Content.one?_eq_some_iff)⟩

@[simp] lemma fits_checkedOptional {a : Option α} {put : Option α → Except TreeError Node} :
    (checkedOptional x a put).Fits (x, .optional α) :=
  ⟨rfl, ⟨a, rfl⟩, fun _ => isSome_map_iff (exists_congr fun _ => Content.optional?_eq_some_iff)⟩

@[simp] lemma fits_one {a : α} {put : α → Node} : (one x a put).Fits (x, .one α) :=
  fits_checkedOne

@[simp] lemma fits_optional {a : Option α} {put : Option α → Node} : (optional x a put).Fits (x, .optional α) :=
  fits_checkedOptional

@[simp] lemma fits_many {as : List α} {put : List α → Node} : (many x as put).Fits (x, .many α) :=
  ⟨rfl, ⟨as, rfl⟩, fun _ => isSome_map_iff (exists_congr fun _ => Content.many?_eq_some_iff)⟩

end Parts

end Slot

namespace Node

open Slot Signature

lemma fits_definition (d : Definition) : List.Forall₂ Slot.Fits d.slots d.kind.signature := by
  rcases d with d | d | d | ⟨_, _, _, body, _⟩ | d | d | ⟨_, _, body, _⟩
  case type | typeExtension =>
    cases body <;>
      simp [Definition.slots, TypeDefinition.slots, TypeExtension.slots, TypeBody.interfaceSlots,
        TypeBody.memberSlots, Definition.kind, TypeBody.definitionKind, TypeBody.extensionKind,
        Kind.signature, ownFields]
  all_goals
    simp [Definition.slots, OperationDefinition.slots, FragmentDefinition.slots, SchemaDefinition.slots,
      DirectiveDefinition.slots, SchemaExtension.slots, Definition.kind, Kind.signature, ownFields]

lemma fits_slots (n : Node) : List.Forall₂ Slot.Fits n.slots n.kind.signature := by
  cases n with
  | definition d => exact fits_definition d
  | value v =>
    cases v <;>
      simp [slots, Value.slots, Variable.slots, StringValue.slots, kind, Value.kind, Kind.signature, ownFields]
  | selection s =>
    cases s <;>
      simp [slots, Selection.slots, Field.slots, FragmentSpread.slots, InlineFragment.slots, kind, Selection.kind,
        Kind.signature, ownFields]
  | typeRef t =>
    cases t <;> simp [slots, TypeRef.slots, kind, TypeRef.kind, Kind.signature, ownFields]
  | _ =>
    simp [slots, Name.slots, Document.slots, VariableDefinition.slots, SelectionSet.slots, Argument.slots,
      ObjectField.slots, Directive.slots, OperationTypeDefinition.slots, FieldDefinition.slots,
      InputValueDefinition.slots, EnumValueDefinition.slots, SchemaCoordinate.slots, kind, Kind.signature,
      ownFields]

lemma find?_fits {slots : List Slot} {fields : List (FieldName × FieldSort)}
    (h : List.Forall₂ Slot.Fits slots fields) (x : FieldName) :
    Option.Rel Slot.Fits (slots.find? (·.field = x)) (fields.find? (·.1 = x)) := by
  induction h with
  | nil => exact .none
  | @cons s f _ _ hs _ ih =>
    by_cases hx : f.1 = x
    · have hs' : s.field = x := hs.field_eq.trans hx
      rw [List.find?_cons_of_pos (by simpa using hs'), List.find?_cons_of_pos (by simpa using hx)]
      exact .some hs
    · have hs' : s.field ≠ x := fun h => hx (hs.field_eq.symm.trans h)
      rw [List.find?_cons_of_neg (by simpa using hs'), List.find?_cons_of_neg (by simpa using hx)]
      exact ih

lemma slot?_cases (n : Node) (x : FieldName) :
    (n.slot? x = none ∧ n.kind.sort? x = none) ∨
      ∃ slot sort, n.slot? x = some slot ∧ n.kind.sort? x = some sort ∧ slot.Fits (x, sort) := by
  have h := find?_fits n.fits_slots x
  rw [slot?, Kind.sort?]
  generalize n.slots.find? (·.field = x) = slot at h ⊢
  generalize hf : n.kind.signature.find? (·.1 = x) = f at h ⊢
  cases h with
  | none => exact .inl ⟨rfl, rfl⟩
  | @some slot f hs =>
    obtain rfl : f.1 = x := by simpa using List.find?_some hf
    exact .inr ⟨slot, f.2, rfl, rfl, hs⟩

lemma isSome_update_iff {n : Node} {x : FieldName} {c : Content} :
    (n.update x c).isSome = true ↔ ∃ s ∈ n.kind.sort? x, s.Takes c := by
  rw [update]
  rcases n.slot?_cases x with ⟨hslot, hsort⟩ | ⟨slot, sort, hslot, hsort, hs⟩
  · rw [hslot, hsort]
    exact iff_of_false nofun nofun
  · rw [hslot, hsort, Option.bind_some, hs.isSome_replace_iff]
    simp

end Node

end GraphQLTree
