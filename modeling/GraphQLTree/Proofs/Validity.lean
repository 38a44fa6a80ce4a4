import GraphQLTree.Proofs.Nesting
import GraphQLTree.Proofs.Shape

/-! What the checked constructors grant: a rule for names, one for non-null types and one for schema
coordinates, and nodes that keep them at every depth. -/

namespace GraphQLTree

namespace SchemaCoordinate

inductive Shaped : SchemaCoordinate → Prop
  | type (name : Name) (l : Option Location) : Shaped ⟨false, name, none, none, l⟩
  | member (name member : Name) (l : Option Location) : Shaped ⟨false, name, some member, none, l⟩
  | argument (name member argument : Name) (l : Option Location) :
      Shaped ⟨false, name, some member, some argument, l⟩
  | directive (name : Name) (l : Option Location) : Shaped ⟨true, name, none, none, l⟩
  | directiveArgument (name argument : Name) (l : Option Location) :
      Shaped ⟨true, name, none, some argument, l⟩

lemma shaped_iff {c : SchemaCoordinate} : c.Shaped ↔ c.fault? = none := by
  constructor
  · rintro (_ | _ | _ | _ | _) <;> rfl
  · intro h
    rcases c with ⟨_ | _, name, _ | member, _ | argument, l⟩
    · exact .type name l
    · cases h
    · exact .member name member l
    · exact .argument name member argument l
    · exact .directive name l
    · exact .directiveArgument name argument l
    · cases h
    · cases h

instance : ReflBEq Name := ⟨fun {n} => beq_self_eq_true n.value⟩

variable {c : SchemaCoordinate}

lemma Shaped.withName (h : c.Shaped) (name : Name) : Shaped { c with name } := by
  cases h <;> constructor

lemma Shaped.withLocation (h : c.Shaped) (location : Option Location) : Shaped { c with location } := by
  cases h <;> constructor

lemma Shaped.new (h : c.Shaped) :
    ∃ d, SchemaCoordinate.new c.ofDirective c.name c.member c.argument = .ok d ∧ (d == c) = true := by
  refine ⟨{ c with location := none }, ?_, ?_⟩
  · cases h <;> rfl
  · change (c.ofDirective == c.ofDirective && c.name == c.name && c.member == c.member &&
      c.argument == c.argument) = true
    simp

end SchemaCoordinate

namespace Node

/-- The rule of a node's kind, which looks at no node below its parts. -/
def Valid : Node → Prop
  | name n => n.value ≠ ""
  | typeRef (.nonNull inner _) => inner.isNonNull = false
  | schemaCoordinate c => c.Shaped
  | _ => True

def constructed : Node → Except TreeError Node
  | name n => (Name.new n.value).map name
  | typeRef (.nonNull inner _) => (TypeRef.newNonNull inner).map typeRef
  | schemaCoordinate c =>
    (SchemaCoordinate.new c.ofDirective c.name c.member c.argument).map schemaCoordinate
  | n => .ok n

def accepted (n : Node) : Except TreeError Node :=
  n.constructed.map fun _ => n

lemma accepted_name (n : Name) : (name n).accepted = n.checked.map name := by
  rw [accepted, constructed, Name.new, Name.checked, Name.checked]
  split <;> rfl

lemma accepted_nonNull (inner : TypeRef) (l : Option Location) :
    (typeRef (.nonNull inner l)).accepted = (TypeRef.checkedNonNull inner l).map typeRef := by
  rw [accepted, constructed, TypeRef.newNonNull, TypeRef.checkedNonNull, TypeRef.checkedNonNull]
  split <;> rfl

lemma accepted_schemaCoordinate (c : SchemaCoordinate) :
    (schemaCoordinate c).accepted = c.checked.map schemaCoordinate := by
  rcases c with ⟨ofDirective, name, member, argument, l⟩
  cases ofDirective <;> cases member <;> cases argument <;> rfl

lemma accepted_eq_ok_iff (n : Node) : n.accepted = .ok n ↔ n.Valid := by
  cases n with
  | name n =>
    rw [accepted_name, Valid, Name.checked]
    split <;> simp_all [Except.map]
  | typeRef t =>
    cases t with
    | nonNull inner l =>
      rw [accepted_nonNull, Valid, TypeRef.checkedNonNull]
      split <;> simp_all [Except.map]
    | _ => exact iff_of_true rfl trivial
  | schemaCoordinate c =>
    rw [accepted_schemaCoordinate, Valid, SchemaCoordinate.shaped_iff, SchemaCoordinate.checked]
    split <;> simp_all [Except.map]
  | _ => exact iff_of_true rfl trivial

lemma accepted_cases (n : Node) :
    (n.accepted = .ok n ∧ n.Valid) ∨ ∃ e, n.accepted = .error e ∧ n.constructed = .error e ∧ ¬n.Valid := by
  have hv := n.accepted_eq_ok_iff
  rw [accepted] at hv ⊢
  cases hc : n.constructed with
  | ok m =>
    rw [hc] at hv
    exact .inl ⟨rfl, hv.mp rfl⟩
  | error e =>
    rw [hc] at hv
    exact .inr ⟨e, rfl, rfl, fun h => nomatch hv.mpr h⟩

/-- A node that is valid, and so is every node at any depth below it. -/
def Sound (n : Node) : Prop :=
  ∀ way m, n.at? way = some m → m.Valid

lemma sound_iff {n : Node} : n.Sound ↔ n.Valid ∧ ∀ c ∈ n.children, c.Sound :=
  forall_at?_iff

lemma sound_iff_slots {n : Node} : n.Sound ↔ n.Valid ∧ ∀ s ∈ n.slots, ∀ c ∈ s.content.nodes, c.Sound := by
  rw [sound_iff, forall_children]

end Node

end GraphQLTree
