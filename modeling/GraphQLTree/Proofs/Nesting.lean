import GraphQLTree.Proofs.Elements

/-! What can stand where in a document: the schema elements nest in a few fixed ways, and below a
node that is bare of them there is none. -/

namespace GraphQLTree

def Node.isBare : Node → Bool
  | .document _ | .definition _ => false
  | .fieldDefinition _ | .inputValueDefinition _ | .enumValueDefinition _ => false
  | _ => true

def TypeDefinition.element (d : TypeDefinition) : Element :=
  ⟨d.body.definitionKind, d.name⟩

def TypeExtension.element (d : TypeExtension) : Element :=
  ⟨d.body.extensionKind, d.name⟩

def DirectiveDefinition.element (d : DirectiveDefinition) : Element :=
  ⟨.directiveDefinition, d.name⟩

inductive Fits : List Element → Node → Prop
  | document (d : Document) : Fits [] (.document d)
  | definition (d : Definition) : Fits [] (.definition d)
  | field {e : Element} (he : e.isType = true) (d : FieldDefinition) : Fits [e] (.fieldDefinition d)
  | enumValue {e : Element} (he : e.isType = true) (d : EnumValueDefinition) :
      Fits [e] (.enumValueDefinition d)
  | inputField {e : Element} (he : e.kind.isInputObject = true) (d : InputValueDefinition) :
      Fits [e] (.inputValueDefinition d)
  | directiveArgument {e : Element} (he : e.isDirective = true) (d : InputValueDefinition) :
      Fits [e] (.inputValueDefinition d)
  | fieldArgument {e f : Element} (he : e.isType = true) (hf : f.isField = true) (d : InputValueDefinition) :
      Fits [f, e] (.inputValueDefinition d)
  | bare {around : List Element} {n : Node} (hn : n.isBare = true) : Fits around n

lemma Node.forall_children {n : Node} {p : Node → Prop} :
    (∀ c ∈ n.children, p c) ↔ ∀ s ∈ n.slots, ∀ c ∈ s.content.nodes, p c := by
  simp only [mem_children_iff]
  constructor
  · intro h s hs c hc
    exact h c ⟨s, hs, hc⟩
  · rintro h c ⟨s, hs, hc⟩
    exact h s hs c hc

lemma Node.isBare_children {n : Node} (hn : n.isBare = true) : ∀ c ∈ n.children, c.isBare = true := by
  rw [forall_children]
  cases n with
  | document | definition | fieldDefinition | inputValueDefinition | enumValueDefinition => cases hn
  | value v => cases v <;> simp [slots, Value.slots, Variable.slots, StringValue.slots, Slot.one, Slot.text,
      Slot.flag, Part.toNode, isBare]
  | selection s => cases s <;> simp [slots, Selection.slots, Field.slots, FragmentSpread.slots,
      InlineFragment.slots, Slot.one, Slot.optional, Part.toNode, isBare]
  | typeRef t => cases t <;> simp [slots, TypeRef.slots, Slot.one, Part.toNode, isBare]
  | _ => simp [slots, Name.slots, VariableDefinition.slots, SelectionSet.slots, Argument.slots,
      ObjectField.slots, Directive.slots, OperationTypeDefinition.slots, SchemaCoordinate.slots, Slot.one,
      Slot.optional, Part.toNode, isBare]

lemma Node.element?_type (d : TypeDefinition) : (Node.definition (.type d)).element? = some d.element := by
  rcases d with ⟨_, _, _, body, _⟩
  cases body <;> rfl

lemma Node.element?_typeExtension (d : TypeExtension) :
    (Node.definition (.typeExtension d)).element? = some d.element := by
  rcases d with ⟨_, _, body, _⟩
  cases body <;> rfl

lemma Node.element?_eq_none_of_isBare {n : Node} (hn : n.isBare = true) : n.element? = none := by
  cases n with
  | document | definition | fieldDefinition | inputValueDefinition | enumValueDefinition => cases hn
  | value v => cases v <;> rfl
  | selection s => cases s <;> rfl
  | typeRef t => cases t <;> rfl
  | _ => rfl

lemma isType_of_body {e : Element} {body : TypeBody}
    (he : e.kind = body.definitionKind ∨ e.kind = body.extensionKind) : e.isType = true := by
  rcases he with he | he
  all_goals
    rw [Element.isType, he]
    cases body <;> rfl

lemma fits_members {e : Element} (body : TypeBody) (put : TypeBody → Node)
    (he : e.kind = body.definitionKind ∨ e.kind = body.extensionKind) :
    ∀ s ∈ body.memberSlots put, ∀ c ∈ s.content.nodes, Fits [e] c := by
  have ht := isType_of_body he
  cases body with
  | scalar => simp [TypeBody.memberSlots]
  | object _ fields | interface _ fields =>
    simpa [TypeBody.memberSlots, Part.toNode] using fun d _ => Fits.field ht d
  | union types =>
    simpa [TypeBody.memberSlots, Part.toNode] using fun t _ => Fits.bare (n := .typeRef (.named t)) rfl
  | enum values =>
    simpa [TypeBody.memberSlots, Part.toNode] using fun d _ => Fits.enumValue ht d
  | inputObject fields =>
    have hi : e.kind.isInputObject = true := by
      rcases he with he | he <;> rw [he] <;> rfl
    simpa [TypeBody.memberSlots, Part.toNode] using fun d _ => Fits.inputField hi d

lemma fits_interfaces {around : List Element} (body : TypeBody) (put : TypeBody → Node) :
    ∀ s ∈ body.interfaceSlots put, ∀ c ∈ s.content.nodes, Fits around c := by
  cases body with
  | object interfaces _ | interface interfaces _ =>
    simpa [TypeBody.interfaceSlots, Part.toNode] using fun t _ => Fits.bare (n := .typeRef (.named t)) rfl
  | _ => simp [TypeBody.interfaceSlots]

lemma fits_bare {around : List Element} {slots : List Slot}
    (h : ∀ s ∈ slots, ∀ c ∈ s.content.nodes, c.isBare = true) :
    ∀ s ∈ slots, ∀ c ∈ s.content.nodes, Fits around c :=
  fun s hs c hc => .bare (h s hs c hc)

lemma definition_of_element?_eq_none {d : Definition} (hd : (Node.definition d).element? = none) :
    (∃ o, d = .operation o) ∨ (∃ f, d = .fragment f) ∨ (∃ s, d = .schema s) ∨
      ∃ s, d = .schemaExtension s := by
  cases d with
  | type d =>
    rw [Node.element?_type] at hd
    cases hd
  | typeExtension d =>
    rw [Node.element?_typeExtension] at hd
    cases hd
  | directive => cases hd
  | operation | fragment | schema | schemaExtension => simp

lemma isBare_definition_children {d : Definition} (hd : (Node.definition d).element? = none) :
    ∀ c ∈ (Node.definition d).children, c.isBare = true := by
  rw [Node.forall_children]
  rcases definition_of_element?_eq_none hd with ⟨d, rfl⟩ | ⟨d, rfl⟩ | ⟨d, rfl⟩ | ⟨d, rfl⟩
  all_goals
    simp [Node.slots, Definition.slots, OperationDefinition.slots, FragmentDefinition.slots,
      SchemaDefinition.slots, SchemaExtension.slots, Slot.one, Slot.optional, Part.toNode, Node.isBare]

lemma fits_definition_children (d : Definition) :
    ∀ c ∈ (Node.definition d).children, Fits (Node.definition d).element?.toList c := by
  rw [Node.forall_children]
  cases d with
  | type d =>
    rw [Node.element?_type]
    simp only [Node.slots, Definition.slots, TypeDefinition.slots, List.forall_mem_append]
    refine ⟨⟨⟨⟨fits_bare ?_, fits_interfaces _ _⟩, fits_bare ?_⟩, fits_members _ _ (.inl rfl)⟩, fits_bare ?_⟩
    all_goals simp [Slot.one, Slot.optional, Part.toNode, Node.isBare]
  | typeExtension d =>
    rw [Node.element?_typeExtension]
    simp only [Node.slots, Definition.slots, TypeExtension.slots, List.forall_mem_append]
    refine ⟨⟨⟨⟨fits_bare ?_, fits_interfaces _ _⟩, fits_bare ?_⟩, fits_members _ _ (.inr rfl)⟩, fits_bare ?_⟩
    all_goals simp [Slot.one, Part.toNode, Node.isBare]
  | directive d =>
    have he : (Node.definition (.directive d)).element? = some d.element := rfl
    rw [he]
    simpa [Node.slots, Definition.slots, DirectiveDefinition.slots, Slot.one, Slot.optional, Slot.flag,
      Part.toNode] using
      ⟨fun _ _ => Fits.bare rfl, Fits.bare rfl, fun a _ => Fits.directiveArgument rfl a,
        fun _ _ => Fits.bare rfl⟩
  | operation | fragment | schema | schemaExtension =>
    exact fits_bare (Node.forall_children.mp (isBare_definition_children rfl))

lemma isBare_inputValue_children (d : InputValueDefinition) :
    ∀ c ∈ (Node.inputValueDefinition d).children, c.isBare = true := by
  rw [Node.forall_children]
  simp [Node.slots, InputValueDefinition.slots, Slot.one, Slot.optional, Part.toNode, Node.isBare]

lemma isBare_enumValue_children (d : EnumValueDefinition) :
    ∀ c ∈ (Node.enumValueDefinition d).children, c.isBare = true := by
  rw [Node.forall_children]
  simp [Node.slots, EnumValueDefinition.slots, Slot.one, Slot.optional, Part.toNode, Node.isBare]

lemma Fits.child {around : List Element} {n : Node} (h : Fits around n) :
    ∀ c ∈ n.children, Fits (n.element?.toList ++ around) c := by
  cases h with
  | document d =>
    rw [Node.forall_children]
    have he : (Node.document d).element? = none := rfl
    simp [he, Node.slots, Document.slots, Part.toNode, Fits.definition]
  | definition d => simpa using fits_definition_children d
  | @field e he d =>
    rw [Node.forall_children]
    have hf : (Node.fieldDefinition d).element? = some ⟨.fieldDefinition, d.name⟩ := rfl
    rw [hf]
    simpa [Node.slots, FieldDefinition.slots, Slot.one, Slot.optional, Part.toNode] using
      ⟨fun _ _ => Fits.bare rfl, Fits.bare rfl, fun a _ => Fits.fieldArgument he rfl a, Fits.bare rfl,
        fun _ _ => Fits.bare rfl⟩
  | enumValue _ d => exact fun c hc => .bare (isBare_enumValue_children d c hc)
  | inputField _ d | directiveArgument _ d | fieldArgument _ _ d =>
    exact fun c hc => .bare (isBare_inputValue_children d c hc)
  | bare hn => exact fun c hc => .bare (Node.isBare_children hn c hc)

end GraphQLTree
