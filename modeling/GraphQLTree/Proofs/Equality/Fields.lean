import GraphQLTree.Proofs.Updates

namespace GraphQLTree

def Content.beq : Content → Content → Bool
  | .text s, .text t => s == t
  | .integer m, .integer n => m == n
  | .number x, .number y => x == y
  | .flag b, .flag c => b == c
  | .operation o, .operation p => o == p
  | .node m, .node n => m == n
  | .optional m, .optional n => m == n
  | .list ms, .list ns => ms == ns
  | .location _, .location _ => true
  | _, _ => false

instance : BEq Content := ⟨Content.beq⟩

class EqualPart (α : Type) [Part α] [BEq α] : Prop where
  beq_toNode : ∀ a b : α, (Part.toNode a == Part.toNode b) = (a == b)

section Instances

instance : EqualPart Name := ⟨fun _ _ => rfl⟩

instance : EqualPart Definition := ⟨fun _ _ => rfl⟩

instance : EqualPart VariableDefinition := ⟨fun _ _ => rfl⟩

instance : EqualPart SelectionSet := ⟨fun _ _ => rfl⟩

instance : EqualPart Selection := ⟨fun _ _ => rfl⟩

instance : EqualPart Argument := ⟨fun _ _ => rfl⟩

instance : EqualPart Value := ⟨fun _ _ => rfl⟩

instance : EqualPart Variable := ⟨fun a b => by
  change Value.beq (.var a) (.var b) = (a == b)
  rw [Value.beq]⟩

instance : EqualPart StringValue := ⟨fun a b => by
  change Value.beq (.string a) (.string b) = (a == b)
  rw [Value.beq]⟩

instance : EqualPart ObjectField := ⟨fun _ _ => rfl⟩

instance : EqualPart Directive := ⟨fun _ _ => rfl⟩

instance : EqualPart TypeRef := ⟨fun _ _ => rfl⟩

instance : EqualPart NamedType := ⟨fun _ _ => rfl⟩

instance : EqualPart OperationTypeDefinition := ⟨fun _ _ => rfl⟩

instance : EqualPart FieldDefinition := ⟨fun _ _ => rfl⟩

instance : EqualPart InputValueDefinition := ⟨fun _ _ => rfl⟩

instance : EqualPart EnumValueDefinition := ⟨fun _ _ => rfl⟩

end Instances

lemma list_map_beq {α β : Type} [BEq α] [BEq β] {f : α → β} (h : ∀ a b, (f a == f b) = (a == b))
    (as bs : List α) : (as.map f == bs.map f) = (as == bs) := by
  induction as generalizing bs with
  | nil => cases bs <;> rfl
  | cons a as ih =>
    cases bs with
    | nil => rfl
    | cons b bs => simp only [List.map_cons, List.cons_beq_cons, h, ih]

lemma option_map_beq {α β : Type} [BEq α] [BEq β] {f : α → β} (h : ∀ a b, (f a == f b) = (a == b))
    (o p : Option α) : (o.map f == p.map f) = (o == p) := by
  cases o with
  | none => cases p <;> rfl
  | some a =>
    cases p with
    | none => rfl
    | some b => exact h a b

namespace Slot

variable {x : FieldName}

@[simp] lemma entry_checkedText {s : String} {put : String → Except TreeError Node} :
    (checkedText x s put).entry = (x, .text s) := rfl

@[simp] lemma entry_checkedFlag {b : Bool} {put : Bool → Except TreeError Node} :
    (checkedFlag x b put).entry = (x, .flag b) := rfl

@[simp] lemma entry_text {s : String} {put : String → Node} : (text x s put).entry = (x, .text s) := rfl

@[simp] lemma entry_flag {b : Bool} {put : Bool → Node} : (flag x b put).entry = (x, .flag b) := rfl

@[simp] lemma entry_integer {n : Int64} {put : Int64 → Node} : (integer x n put).entry = (x, .integer n) := rfl

@[simp] lemma entry_number {v : Binary64} {put : Binary64 → Node} : (number x v put).entry = (x, .number v) :=
  rfl

@[simp] lemma entry_operation {o : OperationType} {put : OperationType → Node} :
    (operation o put).entry = (.operation, .operation o) := rfl

@[simp] lemma entry_place {l : Option Location} {put : Option Location → Node} :
    (place l put).entry = (.location, .location l) := rfl

variable {α : Type} [Part α]

@[simp] lemma entry_checkedOne {a : α} {put : α → Except TreeError Node} :
    (checkedOne x a put).entry = (x, .ofOne a) := rfl

@[simp] lemma entry_checkedOptional {a : Option α} {put : Option α → Except TreeError Node} :
    (checkedOptional x a put).entry = (x, .ofOptional a) := rfl

@[simp] lemma entry_one {a : α} {put : α → Node} : (one x a put).entry = (x, .ofOne a) := rfl

@[simp] lemma entry_optional {a : Option α} {put : Option α → Node} :
    (optional x a put).entry = (x, .ofOptional a) := rfl

@[simp] lemma entry_many {as : List α} {put : List α → Node} : (many x as put).entry = (x, .ofMany as) := rfl

end Slot

namespace Content

@[simp] lemma beq_pair {x : FieldName} {c d : Content} : ((x, c) == (x, d)) = (c == d) := by
  change (x == x && c == d) = _
  rw [beq_self_eq_true, Bool.true_and]

@[simp] lemma beq_text {s t : String} : (text s == text t) = (s == t) := rfl

@[simp] lemma beq_integer {m n : Int64} : (integer m == integer n) = (m == n) := rfl

@[simp] lemma beq_number {x y : Binary64} : (number x == number y) = (x == y) := rfl

@[simp] lemma beq_flag {b c : Bool} : (flag b == flag c) = (b == c) := rfl

@[simp] lemma beq_operation {o p : OperationType} : (operation o == operation p) = (o == p) := rfl

@[simp] lemma beq_node {m n : Node} : (node m == node n) = (m == n) := rfl

@[simp] lemma beq_optional {m n : Option Node} : (optional m == optional n) = (m == n) := rfl

@[simp] lemma beq_list {ms ns : List Node} : (list ms == list ns) = (ms == ns) := rfl

@[simp] lemma beq_location {l l' : Option Location} : (location l == location l') = true := rfl

variable {α : Type} [Part α] [BEq α] [EqualPart α]

@[simp] lemma beq_ofOne {a b : α} : (ofOne a == ofOne b) = (a == b) :=
  EqualPart.beq_toNode a b

@[simp] lemma beq_ofOptional {a b : Option α} : (ofOptional a == ofOptional b) = (a == b) :=
  option_map_beq EqualPart.beq_toNode a b

@[simp] lemma beq_ofMany {as bs : List α} : (ofMany as == ofMany bs) = (as == bs) :=
  list_map_beq EqualPart.beq_toNode as bs

end Content

section Lists

lemma Value.beqList_eq (as bs : List Value) : Value.beqList as bs = (as == bs) := by
  induction as generalizing bs with
  | nil => cases bs <;> simp [beqList]
  | cons a as ih =>
    cases bs with
    | nil => simp [beqList]
    | cons b bs =>
      simp only [beqList, ih]
      rfl

lemma ObjectField.beqList_eq (as bs : List ObjectField) : ObjectField.beqList as bs = (as == bs) := by
  induction as generalizing bs with
  | nil => cases bs <;> simp [beqList]
  | cons a as ih =>
    cases bs with
    | nil => simp [beqList]
    | cons b bs =>
      simp only [beqList, ih]
      rfl

lemma Selection.beqList_eq (as bs : List Selection) : Selection.beqList as bs = (as == bs) := by
  induction as generalizing bs with
  | nil => cases bs <;> simp [beqList]
  | cons a as ih =>
    cases bs with
    | nil => simp [beqList]
    | cons b bs =>
      simp only [beqList, ih]
      rfl

lemma SelectionSet.beqOption_eq (a b : Option SelectionSet) : SelectionSet.beqOption a b = (a == b) := by
  cases a <;> cases b <;> simp only [beqOption] <;> rfl

end Lists

section Kinds

lemma Value.kind_eq_of_beq {v w : Value} (h : (v == w) = true) : v.kind = w.kind := by
  change v.beq w = true at h
  cases v <;> cases w
  case var.var | int.int | float.float | string.string | boolean.boolean => rfl
  case null.null | enum.enum | list.list | object.object => rfl
  all_goals simp [Value.beq] at h

lemma Selection.kind_eq_of_beq {s t : Selection} (h : (s == t) = true) : s.kind = t.kind := by
  change s.beq t = true at h
  cases s <;> cases t
  case field.field | spread.spread | inline.inline => rfl
  all_goals simp [Selection.beq] at h

lemma TypeRef.kind_eq_of_beq {t u : TypeRef} (h : (t == u) = true) : t.kind = u.kind := by
  cases t <;> cases u
  case named.named | list.list | nonNull.nonNull => rfl
  all_goals cases h

lemma TypeBody.kind_eq_of_beq {b c : TypeBody} (h : (b == c) = true) :
    b.definitionKind = c.definitionKind ∧ b.extensionKind = c.extensionKind := by
  cases b <;> cases c
  case scalar.scalar | object.object | interface.interface => exact ⟨rfl, rfl⟩
  case union.union | enum.enum | inputObject.inputObject => exact ⟨rfl, rfl⟩
  all_goals cases h

lemma Definition.kind_eq_of_beq {d e : Definition} (h : (d == e) = true) : d.kind = e.kind := by
  cases d <;> cases e
  case type.type d e => exact (TypeBody.kind_eq_of_beq (Bool.and_eq_true_iff.mp h).2).1
  case typeExtension.typeExtension d e => exact (TypeBody.kind_eq_of_beq (Bool.and_eq_true_iff.mp h).2).2
  case operation.operation | fragment.fragment | schema.schema => rfl
  case directive.directive | schemaExtension.schemaExtension => rfl
  all_goals cases h

lemma Node.kind_eq_of_beq {a b : Node} (h : (a == b) = true) : a.kind = b.kind := by
  cases a <;> cases b
  case definition.definition d e => exact Definition.kind_eq_of_beq h
  case selection.selection s t => exact Selection.kind_eq_of_beq h
  case value.value v w => exact Value.kind_eq_of_beq h
  case typeRef.typeRef t u => exact TypeRef.kind_eq_of_beq h
  case name.name | document.document | variableDefinition.variableDefinition => rfl
  case selectionSet.selectionSet | argument.argument | objectField.objectField => rfl
  case directive.directive | operationTypeDefinition.operationTypeDefinition => rfl
  case fieldDefinition.fieldDefinition | inputValueDefinition.inputValueDefinition => rfl
  case enumValueDefinition.enumValueDefinition | schemaCoordinate.schemaCoordinate => rfl
  all_goals cases h

inductive SameKind : Node → Node → Prop
  | name (m n : Name) : SameKind (.name m) (.name n)
  | document (d e : Document) : SameKind (.document d) (.document e)
  | operation (d e : OperationDefinition) : SameKind (.definition (.operation d)) (.definition (.operation e))
  | fragment (d e : FragmentDefinition) : SameKind (.definition (.fragment d)) (.definition (.fragment e))
  | schema (d e : SchemaDefinition) : SameKind (.definition (.schema d)) (.definition (.schema e))
  | type (d e : TypeDefinition) (h : d.body.definitionKind = e.body.definitionKind) :
      SameKind (.definition (.type d)) (.definition (.type e))
  | directiveDefinition (d e : DirectiveDefinition) :
      SameKind (.definition (.directive d)) (.definition (.directive e))
  | schemaExtension (d e : SchemaExtension) :
      SameKind (.definition (.schemaExtension d)) (.definition (.schemaExtension e))
  | typeExtension (d e : TypeExtension) (h : d.body.extensionKind = e.body.extensionKind) :
      SameKind (.definition (.typeExtension d)) (.definition (.typeExtension e))
  | variableDefinition (d e : VariableDefinition) : SameKind (.variableDefinition d) (.variableDefinition e)
  | selectionSet (s t : SelectionSet) : SameKind (.selectionSet s) (.selectionSet t)
  | field (f g : Field) : SameKind (.selection (.field f)) (.selection (.field g))
  | spread (s t : FragmentSpread) : SameKind (.selection (.spread s)) (.selection (.spread t))
  | inline (f g : InlineFragment) : SameKind (.selection (.inline f)) (.selection (.inline g))
  | argument (x y : Argument) : SameKind (.argument x) (.argument y)
  | var (v w : Variable) : SameKind (.value (.var v)) (.value (.var w))
  | int (m n l l') : SameKind (.value (.int m l)) (.value (.int n l'))
  | float (x y l l') : SameKind (.value (.float x l)) (.value (.float y l'))
  | string (s t : StringValue) : SameKind (.value (.string s)) (.value (.string t))
  | boolean (b c l l') : SameKind (.value (.boolean b l)) (.value (.boolean c l'))
  | null (l l') : SameKind (.value (.null l)) (.value (.null l'))
  | enum (s t l l') : SameKind (.value (.enum s l)) (.value (.enum t l'))
  | list (vs ws l l') : SameKind (.value (.list vs l)) (.value (.list ws l'))
  | object (fs gs l l') : SameKind (.value (.object fs l)) (.value (.object gs l'))
  | objectField (f g : ObjectField) : SameKind (.objectField f) (.objectField g)
  | directive (d e : Directive) : SameKind (.directive d) (.directive e)
  | namedType (t u : NamedType) : SameKind (.typeRef (.named t)) (.typeRef (.named u))
  | listType (t u l l') : SameKind (.typeRef (.list t l)) (.typeRef (.list u l'))
  | nonNull (t u l l') : SameKind (.typeRef (.nonNull t l)) (.typeRef (.nonNull u l'))
  | operationType (d e : OperationTypeDefinition) :
      SameKind (.operationTypeDefinition d) (.operationTypeDefinition e)
  | fieldDefinition (d e : FieldDefinition) : SameKind (.fieldDefinition d) (.fieldDefinition e)
  | inputValueDefinition (d e : InputValueDefinition) :
      SameKind (.inputValueDefinition d) (.inputValueDefinition e)
  | enumValueDefinition (d e : EnumValueDefinition) : SameKind (.enumValueDefinition d) (.enumValueDefinition e)
  | schemaCoordinate (c d : SchemaCoordinate) : SameKind (.schemaCoordinate c) (.schemaCoordinate d)

namespace SameKind

lemma of_kind {a b : Node} (h : a.kind = b.kind) : SameKind a b := by
  rcases a with _ | _ | (_ | _ | _ | ⟨_, _, _, (_ | _ | _ | _ | _ | _), _⟩ | _ | _ |
      ⟨_, _, (_ | _ | _ | _ | _ | _), _⟩) | _ | _ | (_ | _ | _) | _ |
    (_ | _ | _ | _ | _ | _ | _ | _ | _) | _ | _ | (_ | _ | _) | _ | _ | _ | _ | _ <;>
  rcases b with _ | _ | (_ | _ | _ | ⟨_, _, _, (_ | _ | _ | _ | _ | _), _⟩ | _ | _ |
      ⟨_, _, (_ | _ | _ | _ | _ | _), _⟩) | _ | _ | (_ | _ | _) | _ |
    (_ | _ | _ | _ | _ | _ | _ | _ | _) | _ | _ | (_ | _ | _) | _ | _ | _ | _ | _ <;>
  cases h <;> constructor <;> rfl

end SameKind

end Kinds

namespace Node

lemma beq_fields (a b : Node) (h : a.kind = b.kind) : (a == b) = (a.fields == b.fields) := by
  cases SameKind.of_kind h with
  | name m n =>
    change (m.value == n.value) = _
    simp [fields, slots, Name.slots]
  | document d e =>
    change (d.definitions == e.definitions) = _
    simp [fields, slots, Document.slots]
  | operation d e =>
    change (d.operation == e.operation && d.name == e.name &&
      d.variableDefinitions == e.variableDefinitions && d.directives == e.directives &&
      d.selectionSet == e.selectionSet) = _
    simp [fields, slots, Definition.slots, OperationDefinition.slots, Bool.and_assoc]
  | fragment d e =>
    change (d.name == e.name && d.variableDefinitions == e.variableDefinitions &&
      d.typeCondition == e.typeCondition && d.directives == e.directives &&
      d.selectionSet == e.selectionSet) = _
    simp [fields, slots, Definition.slots, FragmentDefinition.slots, Bool.and_assoc]
  | schema d e =>
    change (d.description == e.description && d.directives == e.directives &&
      d.operationTypes == e.operationTypes) = _
    simp [fields, slots, Definition.slots, SchemaDefinition.slots, Bool.and_assoc]
  | type d e h =>
    rcases d with ⟨description, name, directives, body, l⟩
    rcases e with ⟨description', name', directives', body', l'⟩
    change (description == description' && name == name' && directives == directives' && body.beq body') = _
    cases body <;> cases body' <;> cases h <;>
      simp [fields, slots, Definition.slots, TypeDefinition.slots, TypeBody.beq, TypeBody.interfaceSlots,
        TypeBody.memberSlots, Bool.and_assoc, Bool.and_left_comm]
  | directiveDefinition d e =>
    change (d.description == e.description && d.name == e.name && d.arguments == e.arguments &&
      d.repeatable == e.repeatable && d.locations == e.locations) = _
    simp [fields, slots, Definition.slots, DirectiveDefinition.slots, Bool.and_assoc]
  | schemaExtension d e =>
    change (d.directives == e.directives && d.operationTypes == e.operationTypes) = _
    simp [fields, slots, Definition.slots, SchemaExtension.slots]
  | typeExtension d e h =>
    rcases d with ⟨name, directives, body, l⟩
    rcases e with ⟨name', directives', body', l'⟩
    change (name == name' && directives == directives' && body.beq body') = _
    cases body <;> cases body' <;> cases h <;>
      simp [fields, slots, Definition.slots, TypeExtension.slots, TypeBody.beq, TypeBody.interfaceSlots,
        TypeBody.memberSlots, Bool.and_assoc, Bool.and_left_comm]
  | variableDefinition d e =>
    change (d.var == e.var && d.type == e.type && d.defaultValue == e.defaultValue &&
      d.directives == e.directives) = _
    simp [fields, slots, VariableDefinition.slots, Bool.and_assoc]
  | selectionSet s t =>
    rcases s with ⟨selections, l⟩
    rcases t with ⟨selections', l'⟩
    change SelectionSet.beq _ _ = _
    rw [SelectionSet.beq, Selection.beqList_eq]
    simp [fields, slots, SelectionSet.slots]
  | field f g =>
    rcases f with ⟨aliasName, name, arguments, directives, set, l⟩
    rcases g with ⟨aliasName', name', arguments', directives', set', l'⟩
    change Selection.beq _ _ = _
    rw [Selection.beq, Field.beq, SelectionSet.beqOption_eq]
    simp [fields, slots, Selection.slots, Field.slots, Bool.and_assoc]
  | spread s t =>
    change Selection.beq _ _ = _
    rw [Selection.beq]
    change (s.name == t.name && s.directives == t.directives) = _
    simp [fields, slots, Selection.slots, FragmentSpread.slots]
  | inline f g =>
    rcases f with ⟨condition, directives, set, l⟩
    rcases g with ⟨condition', directives', set', l'⟩
    change Selection.beq _ _ = _
    rw [Selection.beq, InlineFragment.beq]
    change (condition == condition' && directives == directives' && set == set') = _
    simp [fields, slots, Selection.slots, InlineFragment.slots, Bool.and_assoc]
  | argument x y =>
    change (x.name == y.name && x.value == y.value) = _
    simp [fields, slots, Argument.slots]
  | var v w =>
    change Value.beq _ _ = _
    rw [Value.beq]
    change (v.name == w.name) = _
    simp [fields, slots, Value.slots, Variable.slots]
  | string s t =>
    change Value.beq _ _ = _
    rw [Value.beq]
    change (s.value == t.value && s.block == t.block) = _
    simp [fields, slots, Value.slots, StringValue.slots]
  | list vs ws l l' =>
    change Value.beq _ _ = _
    rw [Value.beq, Value.beqList_eq]
    simp [fields, slots, Value.slots]
  | object fs gs l l' =>
    change Value.beq _ _ = _
    rw [Value.beq, ObjectField.beqList_eq]
    simp [fields, slots, Value.slots]
  | int | float | boolean | null | enum =>
    change Value.beq _ _ = _
    rw [Value.beq]
    simp [fields, slots, Value.slots]
  | objectField f g =>
    rcases f with ⟨name, value, l⟩
    rcases g with ⟨name', value', l'⟩
    change ObjectField.beq _ _ = _
    rw [ObjectField.beq]
    change (name == name' && value == value') = _
    simp [fields, slots, ObjectField.slots]
  | directive d e =>
    change (d.name == e.name && d.arguments == e.arguments) = _
    simp [fields, slots, Directive.slots]
  | namedType t u =>
    change (t.name == u.name) = _
    simp [fields, slots, TypeRef.slots]
  | listType t u l l' | nonNull t u l l' =>
    change (t == u) = _
    simp [fields, slots, TypeRef.slots]
  | operationType d e =>
    change (d.operation == e.operation && d.type == e.type) = _
    simp [fields, slots, OperationTypeDefinition.slots]
  | fieldDefinition d e =>
    change (d.description == e.description && d.name == e.name && d.arguments == e.arguments &&
      d.type == e.type && d.directives == e.directives) = _
    simp [fields, slots, FieldDefinition.slots, Bool.and_assoc]
  | inputValueDefinition d e =>
    change (d.description == e.description && d.name == e.name && d.type == e.type &&
      d.defaultValue == e.defaultValue && d.directives == e.directives) = _
    simp [fields, slots, InputValueDefinition.slots, Bool.and_assoc]
  | enumValueDefinition d e =>
    change (d.description == e.description && d.name == e.name && d.directives == e.directives) = _
    simp [fields, slots, EnumValueDefinition.slots, Bool.and_assoc]
  | schemaCoordinate c d =>
    change (c.ofDirective == d.ofDirective && c.name == d.name && c.member == d.member &&
      c.argument == d.argument) = _
    simp [fields, slots, SchemaCoordinate.slots, Bool.and_assoc]

lemma beq_iff_fields {a b : Node} : (a == b) = true ↔ a.kind = b.kind ∧ (a.fields == b.fields) = true := by
  constructor
  · intro h
    have hk := kind_eq_of_beq h
    exact ⟨hk, beq_fields a b hk ▸ h⟩
  · rintro ⟨hk, h⟩
    exact (beq_fields a b hk).trans h

end Node

end GraphQLTree
