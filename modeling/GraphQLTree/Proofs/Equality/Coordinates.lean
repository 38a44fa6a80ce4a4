import GraphQLTree.Navigation.Coordinate
import GraphQLTree.Proofs.Equality.Erasure

namespace GraphQLTree

def Role.erased : Role → Role
  | .type name kind => .type name.erased kind
  | .field name => .field name.erased
  | .enumValue name => .enumValue name.erased
  | .inputValue name => .inputValue name.erased
  | .directive name => .directive name.erased

lemma Node.role?_erased (n : Node) : n.erased.role? = n.role?.map (·.erased) := by
  cases n with
  | definition d =>
    rcases d with _ | _ | _ | ⟨_, _, _, body, _⟩ | _ | _ | ⟨_, _, body, _⟩
    case type | typeExtension => cases body <;> rfl
    all_goals rfl
  | _ => rfl

namespace SchemaCoordinate

lemma findType_erased (member : Name) (argument : Option Name) (path : List Node) :
    findType member.erased (argument.map (·.erased)) (path.map (·.erased)) =
      (findType member argument path).map (·.erased) := by
  induction path with
  | nil => rfl
  | cons n path ih =>
    rw [List.map_cons, findType, findType, n.role?_erased]
    cases n.role? with
    | none => exact ih
    | some role =>
      cases role with
      | type type kind => cases argument <;> rfl
      | _ => exact ih

lemma findOwner_erased (input : Name) (path : List Node) :
    findOwner input.erased (path.map (·.erased)) = (findOwner input path).map (·.erased) := by
  induction path with
  | nil => rfl
  | cons n path ih =>
    rw [List.map_cons, findOwner, findOwner, n.role?_erased]
    cases n.role? with
    | none => exact ih
    | some role =>
      cases role with
      | type type kind => cases h : kind.isInputObject <;> simp [Role.erased, h] <;> rfl
      | field field => exact findType_erased field (some input) path
      | directive directive => rfl
      | enumValue | inputValue => exact ih

lemma findElement_erased (depth : Nat) (path : List Node) :
    findElement depth (path.map (·.erased)) = (findElement depth path).map (·.erased) := by
  induction path with
  | nil => rfl
  | cons n path ih =>
    rw [List.map_cons, findElement, findElement, n.role?_erased]
    cases n.role? with
    | none => exact ih
    | some role =>
      cases role with
      | type | directive => rfl
      | field member | enumValue member => exact findType_erased member none path
      | inputValue input => exact findOwner_erased input path

lemma ofPath_erased (path : List Node) : ofPath (path.map (·.erased)) = (ofPath path).map (·.erased) := by
  cases path with
  | nil => rfl
  | cons n path =>
    rw [ofPath, ofPath, List.length_map]
    exact findElement_erased _ (n :: path)

lemma beq_iff_erased {c d : SchemaCoordinate} : (c == d) = true ↔ c.erased = d.erased := by
  have hc (c : SchemaCoordinate) : (Node.schemaCoordinate c == .schemaCoordinate c) = true := by
    rw [Node.beq_iff_fields]
    simp [Node.fields, Node.slots, slots]
  have h := Node.beq_iff_erased (a := .schemaCoordinate c) (b := .schemaCoordinate d)
  simp only [hc, and_true] at h
  exact h.trans (Node.schemaCoordinate.injEq _ _).to_iff

lemma render_erased (c : SchemaCoordinate) : c.erased.render = c.render := by
  rcases c with ⟨_, _, _ | _, _ | _, _⟩ <;> rfl

lemma render_of_beq {c d : SchemaCoordinate} (h : (c == d) = true) : c.render = d.render := by
  rw [← render_erased, beq_iff_erased.mp h, render_erased]

end SchemaCoordinate

end GraphQLTree
