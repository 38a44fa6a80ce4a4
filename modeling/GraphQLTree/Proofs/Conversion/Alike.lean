import GraphQLTree.Proofs.Conversion.Split
import GraphQLTree.Tree.Equality
import Mathlib.Logic.Basic

/-! Documents compared without their marks, and their numbers as numbers. The trees made from two
documents are equal just when the documents are, so nothing but the marks is lost on the way. -/

namespace GraphQLTree.Source

def TypeExpr.beq : TypeExpr → TypeExpr → Bool
  | named a, named b => a == b
  | list a, list b => a.beq b
  | nonNull a, nonNull b => a.beq b
  | _, _ => false

instance : BEq TypeExpr := ⟨TypeExpr.beq⟩

mutual

def Value.beq : Value → Value → Bool
  | .var a, .var b => a == b
  | .int a, .int b => a == b
  | .float a, .float b => a == b
  | .string a, .string b => a == b
  | .boolean a, .boolean b => a == b
  | .null, .null => true
  | .enum a, .enum b => a == b
  | .list as, .list bs => Value.beqList as bs
  | .object as, .object bs => Entry.beqList as bs
  | _, _ => false

def Value.beqList : List Value → List Value → Bool
  | [], [] => true
  | a :: as, b :: bs => a.beq b && Value.beqList as bs
  | _, _ => false

def Entry.beqList : List Entry → List Entry → Bool
  | [], [] => true
  | ⟨key, value⟩ :: es, ⟨key', value'⟩ :: es' => key == key' && value.beq value' && Entry.beqList es es'
  | _, _ => false

end

instance : BEq Value := ⟨Value.beq⟩

instance : BEq Entry := ⟨fun a b => a.key == b.key && a.value == b.value⟩

instance : BEq Directive := ⟨fun a b => a.name == b.name && a.arguments == b.arguments⟩

instance : BEq VariableDefinition :=
  ⟨fun a b => a.name == b.name && a.type == b.type && a.defaultValue == b.defaultValue⟩

instance : BEq FragmentSpread := ⟨fun a b => a.name == b.name && a.directives == b.directives⟩

mutual

def Selection.beq : Selection → Selection → Bool
  | .field a, .field b => a.beq b
  | .spread a, .spread b => a == b
  | .inline a, .inline b => a.beq b
  | _, _ => false

def Selection.beqList : List Selection → List Selection → Bool
  | [], [] => true
  | a :: as, b :: bs => a.beq b && Selection.beqList as bs
  | _, _ => false

def Field.beq : Field → Field → Bool
  | ⟨_, aliasName, name, arguments, directives, set⟩, ⟨_, aliasName', name', arguments', directives', set'⟩ =>
    aliasName == aliasName' && name == name' && arguments == arguments' && directives == directives' &&
      set.beq set'

def InlineFragment.beq : InlineFragment → InlineFragment → Bool
  | ⟨_, condition, directives, set⟩, ⟨_, condition', directives', set'⟩ =>
    condition == condition' && directives == directives' && set.beq set'

def SelectionSet.beq : SelectionSet → SelectionSet → Bool
  | ⟨_, items⟩, ⟨_, items'⟩ => Selection.beqList items items'

end

instance : BEq SelectionSet := ⟨SelectionSet.beq⟩

instance : BEq Operation :=
  ⟨fun a b => a.operation == b.operation && a.name == b.name &&
    a.variableDefinitions == b.variableDefinitions && a.directives == b.directives &&
    a.selectionSet == b.selectionSet⟩

instance : BEq Fragment :=
  ⟨fun a b => a.name == b.name && a.typeCondition == b.typeCondition && a.directives == b.directives &&
    a.selectionSet == b.selectionSet⟩

def ExecutableDefinition.beq : ExecutableDefinition → ExecutableDefinition → Bool
  | shorthand a, shorthand b => a == b
  | operation a, operation b => a == b
  | fragment a, fragment b => a == b
  | _, _ => false

instance : BEq ExecutableDefinition := ⟨ExecutableDefinition.beq⟩

instance : BEq InputValue :=
  ⟨fun a b => a.description == b.description && a.name == b.name && a.type == b.type &&
    a.defaultValue == b.defaultValue && a.directives == b.directives⟩

instance : BEq FieldDefinition :=
  ⟨fun a b => a.description == b.description && a.name == b.name && a.arguments == b.arguments &&
    a.type == b.type && a.directives == b.directives⟩

instance : BEq EnumValue :=
  ⟨fun a b => a.description == b.description && a.name == b.name && a.directives == b.directives⟩

def TypeBody.beq : TypeBody → TypeBody → Bool
  | scalar, scalar => true
  | object interfaces fields, object interfaces' fields' => interfaces == interfaces' && fields == fields'
  | interface interfaces fields, interface interfaces' fields' =>
    interfaces == interfaces' && fields == fields'
  | union types, union types' => types == types'
  | enum values, enum values' => values == values'
  | inputObject fields, inputObject fields' => fields == fields'
  | _, _ => false

instance : BEq TypeBody := ⟨TypeBody.beq⟩

instance : BEq TypeDefinition :=
  ⟨fun a b => a.description == b.description && a.name == b.name && a.directives == b.directives &&
    a.body == b.body⟩

instance : BEq TypeExtension :=
  ⟨fun a b => a.name == b.name && a.directives == b.directives && a.body == b.body⟩

instance : BEq DirectiveDefinition :=
  ⟨fun a b => a.description == b.description && a.name == b.name && a.arguments == b.arguments &&
    a.repeatable == b.repeatable && a.locations == b.locations⟩

instance : BEq SchemaDefinition :=
  ⟨fun a b => a.directives == b.directives && a.query == b.query && a.mutation == b.mutation &&
    a.subscription == b.subscription⟩

def SchemaItem.beq : SchemaItem → SchemaItem → Bool
  | schema a, schema b => a == b
  | type a, type b => a == b
  | extension a, extension b => a == b
  | directive a, directive b => a == b
  | _, _ => false

instance : BEq SchemaItem := ⟨SchemaItem.beq⟩

def SelectionSet.query (set : SelectionSet) : Operation :=
  ⟨set.mark, .query, none, [], [], set⟩

def ExecutableDefinition.writtenOut : ExecutableDefinition → ExecutableDefinition
  | shorthand set => operation set.query
  | definition => definition

section Equality

variable {α β : Type} [BEq β] {f g : α → β}

lemma beq_map_map {γ : Type} [BEq γ] {u v : α → γ} (h : ∀ a b, (f a == g b) = (u a == v b)) (as bs : List α) :
    (as.map f == bs.map g) = (as.map u == bs.map v) := by
  induction as generalizing bs with
  | nil => cases bs <;> rfl
  | cons a as ih =>
    cases bs with
    | nil => rfl
    | cons b bs => simp [h, ih]

variable [BEq α]

lemma beq_map (h : ∀ a b, (f a == g b) = (a == b)) (as bs : List α) :
    (as.map f == bs.map g) = (as == bs) := by
  simpa using beq_map_map (u := id) (v := id) h as bs

lemma beq_map_option (h : ∀ a b, (f a == g b) = (a == b)) (o o' : Option α) :
    (o.map f == o'.map g) = (o == o') := by
  cases o <;> cases o' <;> simp [h]

end Equality

section Trees

variable (place place' : Mark → Location)

lemma beq_referred (s s' : String) : (referred s == referred s') = (s == s') := rfl

lemma beq_named (m m' : Mark) (s s' : String) :
    (m.named place s == m'.named place' s') = (s == s') := rfl

lemma beq_namedType (s s' : String) : (namedType s == namedType s') = (s == s') := rfl

lemma beq_describe (s s' : Option String) : (describe s == describe s') = (s == s') :=
  beq_map_option (fun s s' => Bool.and_true (s == s')) s s'

lemma TypeExpr.beq_tree (t t' : TypeExpr) : (t.tree == t'.tree) = (t == t') := by
  induction t generalizing t' with
  | named s => cases t' <;> rfl
  | list t ih => cases t' <;> first | rfl | exact ih _
  | nonNull t ih => cases t' <;> first | rfl | exact ih _

mutual

lemma Value.beq_tree : ∀ v v' : Value, v.tree.beq v'.tree = v.beq v'
  | .list vs, v' => by
    cases v' <;> simp [Value.tree, Value.beq, GraphQLTree.Value.beq, Value.beqList_trees]
  | .object es, v' => by
    cases v' <;> simp [Value.tree, Value.beq, GraphQLTree.Value.beq, Entry.beqList_objectFields]
  | .var s, v' => by
    cases v' <;> simp [Value.tree, Value.beq, GraphQLTree.Value.beq]
    exact beq_referred _ _
  | .string s, v' => by
    cases v' <;> simp [Value.tree, Value.beq, GraphQLTree.Value.beq]
    exact Bool.and_true _
  | .int _, v' | .float _, v' | .boolean _, v' | .null, v' | .enum _, v' => by
    cases v' <;> simp [Value.tree, Value.beq, GraphQLTree.Value.beq]

lemma Value.beqList_trees : ∀ vs vs' : List Value,
    GraphQLTree.Value.beqList (Value.trees vs) (Value.trees vs') = Value.beqList vs vs'
  | [], vs' => by
    cases vs' <;> simp [Value.trees, GraphQLTree.Value.beqList, Value.beqList]
  | v :: vs, vs' => by
    cases vs' <;>
      simp [Value.trees, GraphQLTree.Value.beqList, Value.beqList, Value.beq_tree v, Value.beqList_trees vs]

lemma Entry.beqList_objectFields : ∀ es es' : List Entry,
    ObjectField.beqList (Entry.objectFields es) (Entry.objectFields es') = Entry.beqList es es'
  | [], [] | [], ⟨_, _⟩ :: _ | ⟨_, _⟩ :: _, [] => by
    simp [Entry.objectFields, ObjectField.beqList, Entry.beqList]
  | ⟨key, value⟩ :: es, ⟨key', value'⟩ :: es' => by
    simp [Entry.objectFields, ObjectField.beqList, Entry.beqList, ObjectField.beq, Value.beq_tree value,
      Entry.beqList_objectFields es, beq_referred]

end

lemma Value.beq_tree_eq (v v' : Value) : (v.tree == v'.tree) = (v == v') :=
  Value.beq_tree v v'

lemma Entry.beq_argument (e e' : Entry) : (e.argument == e'.argument) = (e == e') :=
  congrArg₂ and (beq_referred e.key e'.key) (Value.beq_tree_eq e.value e'.value)

lemma Directive.beq_tree (d d' : Directive) : (d.tree place == d'.tree place') = (d == d') :=
  congrArg₂ and (beq_named place place' d.mark d'.mark d.name d'.name)
    (beq_map Entry.beq_argument d.arguments d'.arguments)

lemma VariableDefinition.beq_tree (d d' : VariableDefinition) :
    (d.tree place == d'.tree place') = (d == d') := by
  have h : (d.tree place == d'.tree place') = (d.name == d'.name && d.type.tree == d'.type.tree &&
      d.defaultValue.map Value.tree == d'.defaultValue.map Value.tree && true) := rfl
  rw [h, TypeExpr.beq_tree, beq_map_option Value.beq_tree_eq, Bool.and_true]
  rfl

lemma FragmentSpread.beq_tree (s s' : FragmentSpread) : (s.tree place == s'.tree place') = (s == s') :=
  congrArg₂ and (beq_referred s.name s'.name)
    (beq_map (Directive.beq_tree place place') s.directives s'.directives)

mutual

lemma Selection.beq_tree : ∀ s s' : Selection, (s.tree place).beq (s'.tree place') = s.beq s'
  | .field f, s' => by
    cases s' <;> simp [Selection.tree, Selection.beq, GraphQLTree.Selection.beq, Field.beq_tree f]
  | .spread s, s' => by
    cases s' <;>
      simp [Selection.tree, Selection.beq, GraphQLTree.Selection.beq, FragmentSpread.beq_tree place place']
  | .inline f, s' => by
    cases s' <;> simp [Selection.tree, Selection.beq, GraphQLTree.Selection.beq, InlineFragment.beq_tree f]

lemma Selection.beqList_trees : ∀ ss ss' : List Selection,
    GraphQLTree.Selection.beqList (Selection.trees place ss) (Selection.trees place' ss') =
      Selection.beqList ss ss'
  | [], ss' => by
    cases ss' <;> simp [Selection.trees, GraphQLTree.Selection.beqList, Selection.beqList]
  | s :: ss, ss' => by
    cases ss' <;>
      simp [Selection.trees, GraphQLTree.Selection.beqList, Selection.beqList, Selection.beq_tree s,
        Selection.beqList_trees ss]

lemma Field.beq_tree : ∀ f f' : Field, (f.tree place).beq (f'.tree place') = f.beq f'
  | ⟨mark, aliasName, name, arguments, directives, set⟩, ⟨mark', aliasName', name', _, _, _⟩ => by
    simp only [Field.tree, Field.beq, GraphQLTree.Field.beq, SelectionSet.beqOption_tree? set,
      beq_map Entry.beq_argument, beq_map (Directive.beq_tree place place'), beq_named place place',
      beq_map_option (beq_named place place' mark mark')]

lemma InlineFragment.beq_tree : ∀ f f' : InlineFragment, (f.tree place).beq (f'.tree place') = f.beq f'
  | ⟨mark, typeCondition, directives, set⟩, ⟨_, _, _, _⟩ => by
    simp only [InlineFragment.tree, InlineFragment.beq, GraphQLTree.InlineFragment.beq,
      SelectionSet.beq_tree set, beq_map_option beq_namedType, beq_map (Directive.beq_tree place place')]

lemma SelectionSet.beq_tree : ∀ set set' : SelectionSet, (set.tree place).beq (set'.tree place') = set.beq set'
  | ⟨mark, items⟩, ⟨_, _⟩ => by
    simp only [SelectionSet.tree, SelectionSet.beq, GraphQLTree.SelectionSet.beq,
      Selection.beqList_trees items]

lemma SelectionSet.beqOption_tree? : ∀ set set' : SelectionSet,
    GraphQLTree.SelectionSet.beqOption (set.tree? place) (set'.tree? place') = set.beq set'
  | ⟨mark, []⟩, ⟨_, items'⟩ => by
    cases items' <;>
      simp [SelectionSet.tree?, SelectionSet.beq, GraphQLTree.SelectionSet.beqOption, Selection.beqList]
  | ⟨mark, item :: items⟩, ⟨_, items'⟩ => by
    cases items' <;>
      simp [SelectionSet.tree?, SelectionSet.beq, GraphQLTree.SelectionSet.beqOption, Selection.beqList,
        GraphQLTree.SelectionSet.beq, GraphQLTree.Selection.beqList, Selection.beq_tree item,
        Selection.beqList_trees items]

end

lemma SelectionSet.beq_tree_eq (set set' : SelectionSet) :
    (set.tree place == set'.tree place') = (set == set') :=
  SelectionSet.beq_tree place place' set set'

lemma Operation.beq_tree (o o' : Operation) : (o.tree place == o'.tree place') = (o == o') :=
  congrArg₂ and
    (congrArg₂ and
      (congrArg₂ and
        (congrArg₂ and rfl (beq_map_option (beq_named place place' o.mark o'.mark) o.name o'.name))
        (beq_map (VariableDefinition.beq_tree place place') o.variableDefinitions o'.variableDefinitions))
      (beq_map (Directive.beq_tree place place') o.directives o'.directives))
    (SelectionSet.beq_tree_eq place place' o.selectionSet o'.selectionSet)

lemma Fragment.beq_tree (f f' : Fragment) : (f.tree place == f'.tree place') = (f == f') := by
  have h : (f.tree place == f'.tree place') = (f.name == f'.name && true &&
      f.typeCondition == f'.typeCondition &&
      f.directives.map (·.tree place) == f'.directives.map (·.tree place') &&
      f.selectionSet.tree place == f'.selectionSet.tree place') := rfl
  rw [h, Bool.and_true, beq_map (Directive.beq_tree place place'), SelectionSet.beq_tree_eq]
  rfl

lemma InputValue.beq_tree (v v' : InputValue) : (v.tree place == v'.tree place') = (v == v') :=
  congrArg₂ and
    (congrArg₂ and
      (congrArg₂ and
        (congrArg₂ and (beq_describe v.description v'.description)
          (beq_named place place' v.mark v'.mark v.name v'.name))
        (v.type.beq_tree v'.type))
      (beq_map_option Value.beq_tree_eq v.defaultValue v'.defaultValue))
    (beq_map (Directive.beq_tree place place') v.directives v'.directives)

lemma FieldDefinition.beq_tree (f f' : FieldDefinition) : (f.tree place == f'.tree place') = (f == f') :=
  congrArg₂ and
    (congrArg₂ and
      (congrArg₂ and
        (congrArg₂ and (beq_describe f.description f'.description)
          (beq_named place place' f.mark f'.mark f.name f'.name))
        (beq_map (InputValue.beq_tree place place') f.arguments f'.arguments))
      (f.type.beq_tree f'.type))
    (beq_map (Directive.beq_tree place place') f.directives f'.directives)

lemma EnumValue.beq_tree (v v' : EnumValue) : (v.tree place == v'.tree place') = (v == v') :=
  congrArg₂ and
    (congrArg₂ and (beq_describe v.description v'.description)
      (beq_named place place' v.mark v'.mark v.name v'.name))
    (beq_map (Directive.beq_tree place place') v.directives v'.directives)

lemma TypeBody.beq_tree (b b' : TypeBody) : (b.tree place == b'.tree place') = (b == b') := by
  have hi := beq_map beq_namedType
  have hf := beq_map (FieldDefinition.beq_tree place place')
  cases b with
  | scalar => cases b' <;> rfl
  | object interfaces fields =>
    cases b' with
    | object interfaces' fields' => exact congrArg₂ and (hi interfaces interfaces') (hf fields fields')
    | _ => rfl
  | interface interfaces fields =>
    cases b' with
    | interface interfaces' fields' => exact congrArg₂ and (hi interfaces interfaces') (hf fields fields')
    | _ => rfl
  | union types =>
    cases b' with
    | union types' => exact hi types types'
    | _ => rfl
  | enum values =>
    cases b' with
    | enum values' => exact beq_map (EnumValue.beq_tree place place') values values'
    | _ => rfl
  | inputObject fields =>
    cases b' with
    | inputObject fields' => exact beq_map (InputValue.beq_tree place place') fields fields'
    | _ => rfl

lemma TypeDefinition.beq_tree (d d' : TypeDefinition) : (d.tree place == d'.tree place') = (d == d') :=
  congrArg₂ and
    (congrArg₂ and
      (congrArg₂ and (beq_describe d.description d'.description)
        (beq_named place place' d.mark d'.mark d.name d'.name))
      (beq_map (Directive.beq_tree place place') d.directives d'.directives))
    (d.body.beq_tree place place' d'.body)

lemma TypeExtension.beq_tree (d d' : TypeExtension) : (d.tree place == d'.tree place') = (d == d') :=
  congrArg₂ and
    (congrArg₂ and (beq_named place place' d.mark d'.mark d.name d'.name)
      (beq_map (Directive.beq_tree place place') d.directives d'.directives))
    (d.body.beq_tree place place' d'.body)

lemma DirectiveLocation.beq_referred_keyword (l l' : DirectiveLocation) :
    (referred l.keyword == referred l'.keyword) = (l == l') := by
  cases l <;> cases l' <;> decide

lemma DirectiveDefinition.beq_tree (d d' : DirectiveDefinition) :
    (d.tree place == d'.tree place') = (d == d') :=
  congrArg₂ and
    (congrArg₂ and
      (congrArg₂ and
        (congrArg₂ and (beq_describe d.description d'.description)
          (beq_named place place' d.mark d'.mark d.name d'.name))
        (beq_map (InputValue.beq_tree place place') d.arguments d'.arguments))
      rfl)
    (beq_map DirectiveLocation.beq_referred_keyword d.locations d'.locations)

lemma beq_root (o : OperationType) (s s' : String) : ((o, s) == (o, s')) = (s == s') := by
  cases o <;> rfl

lemma SchemaDefinition.beq_roots (d d' : SchemaDefinition) :
    (d.roots == d'.roots) =
      (d.query == d'.query && d.mutation == d'.mutation && d.subscription == d'.subscription) := by
  rcases d with ⟨_, _, _ | q, _ | m, _ | s⟩ <;> rcases d' with ⟨_, _, _ | q', _ | m', _ | s'⟩ <;>
    simp [roots, beq_root, Bool.and_assoc]

lemma SchemaDefinition.beq_tree (d d' : SchemaDefinition) :
    (d.tree place == d'.tree place') = (d == d') := by
  have hr : ∀ root root' : OperationType × String,
      ((⟨root.1, namedType root.2, none⟩ : OperationTypeDefinition) == ⟨root'.1, namedType root'.2, none⟩) =
        (root == root') := fun _ _ => rfl
  have h : (d.tree place == d'.tree place') = (true &&
      d.directives.map (·.tree place) == d'.directives.map (·.tree place') &&
      (d.roots.map fun root => (⟨root.1, namedType root.2, none⟩ : OperationTypeDefinition)) ==
        d'.roots.map fun root => ⟨root.1, namedType root.2, none⟩) := rfl
  rw [h, beq_map (Directive.beq_tree place place'), beq_map hr, SchemaDefinition.beq_roots, Bool.true_and,
    ← Bool.and_assoc, ← Bool.and_assoc]
  rfl

lemma SchemaItem.beq_tree (item item' : SchemaItem) :
    (item.tree place == item'.tree place') = (item == item') := by
  cases item with
  | schema d =>
    cases item' with
    | schema d' => exact d.beq_tree place place' d'
    | _ => rfl
  | type d =>
    cases item' with
    | type d' => exact d.beq_tree place place' d'
    | _ => rfl
  | extension d =>
    cases item' with
    | extension d' => exact d.beq_tree place place' d'
    | _ => rfl
  | directive d =>
    cases item' with
    | directive d' => exact d.beq_tree place place' d'
    | _ => rfl

lemma ExecutableDefinition.beq_tree (d d' : ExecutableDefinition) :
    (d.tree place == d'.tree place') = (d.writtenOut == d'.writtenOut) := by
  cases d with
  | shorthand set =>
    cases d' with
    | shorthand set' => exact Operation.beq_tree place place' set.query set'.query
    | operation o' => exact Operation.beq_tree place place' set.query o'
    | fragment f' => rfl
  | operation o =>
    cases d' with
    | shorthand set' => exact Operation.beq_tree place place' o set'.query
    | operation o' => exact Operation.beq_tree place place' o o'
    | fragment f' => rfl
  | fragment f =>
    cases d' with
    | fragment f' => exact Fragment.beq_tree place place' f f'
    | _ => rfl

end Trees

lemma eq_of_bind_eq_ok {α : Type} {check : Check} {a b : α} (h : (do check; return a) = Except.ok b) :
    a = b := by
  cases check with
  | error e => cases h
  | ok u => exact Except.ok.inj h

/-- Trees are equal just when the documents that they are made from are, whatever is known of the
texts: only marks are lost, and a set of selections on its own is one query among others. -/
theorem beq_documents_iff :
    (∀ (lines lines' : Lines) (items items' : List SchemaItem) (t t' : Document),
      schemaDocument lines items = .ok t → schemaDocument lines' items' = .ok t' →
        ((t == t') = true ↔ (items == items') = true)) ∧
    ∀ (lines lines' : Lines) (definitions definitions' : List ExecutableDefinition) (t t' : Document),
      executableDocument lines definitions = .ok t → executableDocument lines' definitions' = .ok t' →
        ((t == t') = true ↔
          (definitions.map (·.writtenOut) == definitions'.map (·.writtenOut)) = true) := by
  constructor
  · intro lines lines' items items' t t' h h'
    rw [schemaDocument_eq] at h h'
    obtain rfl := eq_of_bind_eq_ok h
    obtain rfl := eq_of_bind_eq_ok h'
    exact iff_of_eq (congrArg (· = true) (beq_map (SchemaItem.beq_tree _ _) items items'))
  · intro lines lines' definitions definitions' t t' h h'
    rw [executableDocument_eq] at h h'
    obtain rfl := eq_of_bind_eq_ok h
    obtain rfl := eq_of_bind_eq_ok h'
    exact iff_of_eq (congrArg (· = true)
      (beq_map_map (ExecutableDefinition.beq_tree _ _) definitions definitions'))

def zeroField : Field :=
  ⟨⟨1, 2⟩, some "zero", "number", [⟨"is", .float ⟨0⟩⟩], [], ⟨⟨1, 2⟩, []⟩⟩

def minusZeroField : Field :=
  ⟨⟨2, 3⟩, some "zero", "number", [⟨"is", .float ⟨0x8000000000000000⟩⟩], [], ⟨⟨2, 3⟩, []⟩⟩

def zeroSet : ExecutableDefinition :=
  .shorthand ⟨⟨1, 1⟩, [.field zeroField]⟩

def minusZeroQuery : ExecutableDefinition :=
  .operation ⟨⟨1, 1⟩, .query, none, [], [], ⟨⟨1, 7⟩, [.field minusZeroField]⟩⟩

def dateScalar (m : Mark) : SchemaItem :=
  .type ⟨m, some "A day.", "Date", [], .scalar⟩

lemma writtenOut_zeroSet : ([zeroSet].map (·.writtenOut) == [minusZeroQuery].map (·.writtenOut)) = true := by
  decide +kernel

theorem beq_documents_iff_zeros :
    (∃ t t', schemaDocument .unknown [dateScalar ⟨1, 1⟩] = .ok t ∧
      schemaDocument (.ofText "\n\n") [dateScalar ⟨3, 5⟩] = .ok t' ∧ (t == t') = true) ∧
    ∃ t t', executableDocument .unknown [zeroSet] = .ok t ∧
      executableDocument (.ofText "query\n") [minusZeroQuery] = .ok t' ∧ (t == t') = true := by
  obtain ⟨hs, he⟩ := beq_documents_iff
  have hd := hs .unknown (.ofText "\n\n") [dateScalar ⟨1, 1⟩] [dateScalar ⟨3, 5⟩] _ _ rfl rfl
  have hz := he .unknown (.ofText "query\n") [zeroSet] [minusZeroQuery] _ _ rfl rfl
  exact ⟨⟨_, _, rfl, rfl, hd.mpr (by decide)⟩, ⟨_, _, rfl, rfl, hz.mpr writtenOut_zeroSet⟩⟩

end GraphQLTree.Source
