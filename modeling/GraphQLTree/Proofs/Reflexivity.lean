import GraphQLTree.Proofs.Equality.Fields

namespace GraphQLTree

def Node.isNaN : Node → Bool
  | .value (.float x _) => x.isNaN
  | _ => false

def Content.isNaN : Content → Bool
  | .number x => x.isNaN
  | _ => false

lemma list_beq_self {α : Type} [BEq α] {as : List α} : (as == as) = true ↔ ∀ a ∈ as, (a == a) = true := by
  induction as with
  | nil => simp
  | cons a as ih => simp [ih]

lemma option_beq_self {α : Type} [BEq α] {o : Option α} : (o == o) = true ↔ ∀ a ∈ o, (a == a) = true := by
  cases o <;> simp

lemma Content.beq_self_iff {c : Content} :
    (c == c) = true ↔ c.isNaN = false ∧ ∀ m ∈ c.nodes, (m == m) = true := by
  cases c with
  | number x => simp [isNaN, nodes, Binary64.beq_iff]
  | optional n => simp [isNaN, nodes, option_beq_self]
  | list ns => simp [isNaN, nodes, list_beq_self]
  | _ => simp [isNaN, nodes]

namespace Node

lemma induction {motive : Node → Prop} (step : ∀ n, (∀ c ∈ n.children, motive c) → motive n) (n : Node) :
    motive n :=
  step n fun c _ => Node.induction step c
termination_by sizeOf n
decreasing_by exact sizeOf_lt_of_mem_children ‹_›

def NaNFree (n : Node) : Prop :=
  ∀ way m, n.at? way = some m → m.isNaN = false

lemma isNaN_eq_false_iff {n : Node} : n.isNaN = false ↔ ∀ f ∈ n.fields, f.2.isNaN = false := by
  cases n with
  | definition d =>
    cases d with
    | type d =>
      rcases d with ⟨_, _, _, body, _⟩
      cases body <;> simp [isNaN, fields, slots, Definition.slots, TypeDefinition.slots, TypeBody.interfaceSlots,
        TypeBody.memberSlots, Content.isNaN, Content.ofOne, Content.ofOptional, Content.ofMany]
    | typeExtension d =>
      rcases d with ⟨_, _, body, _⟩
      cases body <;> simp [isNaN, fields, slots, Definition.slots, TypeExtension.slots, TypeBody.interfaceSlots,
        TypeBody.memberSlots, Content.isNaN, Content.ofOne, Content.ofMany]
    | _ => simp [isNaN, fields, slots, Definition.slots, OperationDefinition.slots, FragmentDefinition.slots,
        SchemaDefinition.slots, DirectiveDefinition.slots, SchemaExtension.slots, Content.isNaN, Content.ofOne,
        Content.ofOptional, Content.ofMany]
  | selection s => cases s <;> simp [isNaN, fields, slots, Selection.slots, Field.slots, FragmentSpread.slots,
      InlineFragment.slots, Content.isNaN, Content.ofOne, Content.ofOptional, Content.ofMany]
  | value v => cases v <;> simp [isNaN, fields, slots, Value.slots, Variable.slots, StringValue.slots,
      Content.isNaN, Content.ofOne, Content.ofMany]
  | typeRef t => cases t <;> simp [isNaN, fields, slots, TypeRef.slots, Content.isNaN, Content.ofOne]
  | _ => simp [isNaN, fields, slots, Name.slots, Document.slots, VariableDefinition.slots, SelectionSet.slots,
      Argument.slots, ObjectField.slots, Directive.slots, OperationTypeDefinition.slots, FieldDefinition.slots,
      InputValueDefinition.slots, EnumValueDefinition.slots, SchemaCoordinate.slots, Content.isNaN,
      Content.ofOne, Content.ofOptional, Content.ofMany]

def EqualStep (n : Node) : Prop :=
  (n == n) = true ↔ n.isNaN = false ∧ ∀ s ∈ n.slots, ∀ c ∈ s.content.nodes, (c == c) = true

lemma equalStep (n : Node) : EqualStep n := by
  rw [EqualStep, beq_iff_fields, list_beq_self, isNaN_eq_false_iff, ← forall_children]
  have hf : ∀ f ∈ n.fields, (f == f) = true ↔ f.2.isNaN = false ∧ ∀ c ∈ f.2.nodes, (c == c) = true :=
    fun f _ => Content.beq_pair.symm ▸ Content.beq_self_iff
  rw [forall₂_congr hf, forall₂_and, children_eq_fields, List.forall_mem_flatMap, and_iff_right rfl]

theorem beq_self_iff (n : Node) : (n == n) = true ↔ ∀ way m, n.at? way = some m → m.isNaN = false := by
  induction n using Node.induction with
  | step n ih =>
    have hn : (n == n) = true ↔ n.isNaN = false ∧ ∀ c ∈ n.children, (c == c) = true := by
      rw [forall_children]
      exact n.equalStep
    rw [hn, forall_at?_iff, forall₂_congr ih]

end Node

end GraphQLTree
