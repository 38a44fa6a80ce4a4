import GraphQLTree.Command.Collector
import Mathlib.Tactic.Lemma
import Mathlib.Tactic.SplitIfs

/-! The schema elements along a way, and the coordinate that is read off them. Nodes of all other
kinds have no effect on it. -/

namespace GraphQLTree

open Command (isSchemaElement)

structure Element where
  kind : Kind
  name : Name

def Node.element? (n : Node) : Option Element :=
  if isSchemaElement n.kind then n.declaredName?.map (⟨n.kind, ·⟩) else none

namespace Element

def isType (e : Element) : Bool :=
  e.kind.isTypeDefinition || e.kind.isTypeExtension

def isField (e : Element) : Bool :=
  e.kind == .fieldDefinition

def isDirective (e : Element) : Bool :=
  e.kind == .directiveDefinition

def isInputValue (e : Element) : Bool :=
  e.kind == .inputValueDefinition

def isOwner (e : Element) : Bool :=
  e.isType || e.isField || e.isDirective

def memberCoordinate (member : Name) (argument : Option Name) (around : List Element) :
    Except TreeError SchemaCoordinate :=
  match around.find? isType with
  | none => .error (.unrecognizedPath (.noType member.value))
  | some type => .ok ⟨false, type.name, some member, argument, none⟩

/-- An input value belongs to the first owner around it; when that is a field, both belong to the
first type beyond. -/
def inputCoordinate (input : Name) (around : List Element) : Except TreeError SchemaCoordinate :=
  match around.dropWhile (!·.isOwner) with
  | [] => .error (.unrecognizedPath (.noOwner input.value))
  | owner :: beyond =>
    if owner.isDirective then .ok ⟨true, owner.name, none, some input, none⟩
    else if owner.isField then memberCoordinate owner.name (some input) beyond
    else if owner.kind.isInputObject then .ok ⟨false, owner.name, some input, none, none⟩
    else .error (.unrecognizedPath (.misplacedInput input.value owner.kind owner.name.value))

def coordinate (depth : Nat) : List Element → Except TreeError SchemaCoordinate
  | [] => .error (.unrecognizedPath (.noElement depth))
  | e :: around =>
    if e.isType then .ok ⟨false, e.name, none, none, none⟩
    else if e.isDirective then .ok ⟨true, e.name, none, none, none⟩
    else if e.isInputValue then inputCoordinate e.name around
    else memberCoordinate e.name none around

def role (e : Element) : Role :=
  if e.isType then .type e.name e.kind
  else if e.isDirective then .directive e.name
  else if e.isInputValue then .inputValue e.name
  else if e.isField then .field e.name
  else .enumValue e.name

lemma role_cases (e : Element) :
    (e.role = .type e.name e.kind ∧ e.isType = true ∧ e.isDirective = false ∧ e.isField = false) ∨
    (e.role = .directive e.name ∧ e.isType = false ∧ e.isDirective = true) ∨
    (e.role = .inputValue e.name ∧ e.isType = false ∧ e.isDirective = false ∧ e.isField = false ∧
      e.isInputValue = true) ∨
    (e.role = .field e.name ∧ e.isType = false ∧ e.isDirective = false ∧ e.isField = true ∧
      e.isInputValue = false) ∨
    (e.role = .enumValue e.name ∧ e.isType = false ∧ e.isDirective = false ∧ e.isField = false ∧
      e.isInputValue = false) := by
  rcases e with ⟨kind, name⟩
  cases kind <;>
    simp [role, isType, isDirective, isField, isInputValue, Kind.isTypeDefinition, Kind.isTypeExtension]

section Places

variable {e : Element} {around : List Element}

lemma isDirective_of_isType (he : e.isType = true) : e.isDirective = false := by
  rcases e with ⟨kind, _⟩
  cases kind <;> first | rfl | cases he

lemma coordinate_of_isType (he : e.isType = true) (depth : Nat) :
    coordinate depth (e :: around) = .ok (.ofType e.name) := by
  simp [coordinate, he, SchemaCoordinate.ofType]

lemma memberCoordinate_of_isType (he : e.isType = true) (member : Name)
    (argument : Option Name) :
    memberCoordinate member argument (e :: around) = .ok ⟨false, e.name, some member, argument, none⟩ := by
  simp [memberCoordinate, he]

lemma isType_of_isInputObject (he : e.kind.isInputObject = true) : e.isType = true := by
  rcases e with ⟨kind, _⟩
  cases kind <;> first | rfl | cases he

lemma inputCoordinate_of_isInputObject (he : e.kind.isInputObject = true) (input : Name) :
    inputCoordinate input (e :: around) = .ok (.ofMember e.name input) := by
  rcases e with ⟨kind, _⟩
  cases kind <;> first | rfl | cases he

lemma inputCoordinate_of_isDirective (he : e.isDirective = true) (input : Name) :
    inputCoordinate input (e :: around) = .ok (.ofDirectiveArgument e.name input) := by
  rcases e with ⟨kind, _⟩
  cases kind <;> first | rfl | cases he

lemma inputCoordinate_of_isField (he : e.isField = true) (input : Name) :
    inputCoordinate input (e :: around) = memberCoordinate e.name (some input) around := by
  rcases e with ⟨kind, _⟩
  cases kind <;> first | rfl | cases he

end Places

lemma exists_of_memberCoordinate_eq_error {member : Name} {argument : Option Name} {around : List Element}
    {e : TreeError} (h : memberCoordinate member argument around = .error e) :
    ∃ fault, e = .unrecognizedPath fault := by
  rw [memberCoordinate] at h
  split at h <;> cases h
  exact ⟨_, rfl⟩

lemma exists_of_inputCoordinate_eq_error {input : Name} {around : List Element} {e : TreeError}
    (h : inputCoordinate input around = .error e) : ∃ fault, e = .unrecognizedPath fault := by
  rw [inputCoordinate] at h
  split at h
  · cases h
    exact ⟨_, rfl⟩
  · split_ifs at h
    · exact exists_of_memberCoordinate_eq_error h
    · cases h
      exact ⟨_, rfl⟩

lemma exists_of_coordinate_eq_error {depth : Nat} {around : List Element} {e : TreeError}
    (h : coordinate depth around = .error e) : ∃ fault, e = .unrecognizedPath fault := by
  cases around with
  | nil =>
    cases h
    exact ⟨_, rfl⟩
  | cons first around =>
    rw [coordinate] at h
    split_ifs at h
    · exact exists_of_inputCoordinate_eq_error h
    · exact exists_of_memberCoordinate_eq_error h

end Element

lemma Node.role?_eq (n : Node) : n.role? = n.element?.map Element.role := by
  cases n with
  | definition d =>
    rcases d with _ | _ | _ | ⟨_, _, _, body, _⟩ | _ | _ | ⟨_, _, body, _⟩
    case type | typeExtension => cases body <;> rfl
    all_goals rfl
  | value v => cases v <;> rfl
  | selection s => cases s <;> rfl
  | typeRef t => cases t <;> rfl
  | _ => rfl

lemma Node.isSome_element? (n : Node) : n.element?.isSome = isSchemaElement n.kind := by
  cases n with
  | definition d =>
    rcases d with _ | _ | _ | ⟨_, _, _, body, _⟩ | _ | _ | ⟨_, _, body, _⟩
    case type | typeExtension => cases body <;> rfl
    all_goals rfl
  | value v => cases v <;> rfl
  | selection s => cases s <;> rfl
  | typeRef t => cases t <;> rfl
  | _ => rfl

namespace SchemaCoordinate

open Element

lemma findType_eq (member : Name) (argument : Option Name) (path : List Node) :
    findType member argument path = memberCoordinate member argument (path.filterMap (·.element?)) := by
  induction path with
  | nil => rfl
  | cons n path ih =>
    rw [findType, n.role?_eq]
    cases he : n.element? with
    | none =>
      rw [List.filterMap_cons_none he]
      exact ih
    | some e =>
      rw [List.filterMap_cons_some he]
      rcases e.role_cases with ⟨hr, ht, _⟩ | ⟨hr, ht, _⟩ | ⟨hr, ht, _⟩ | ⟨hr, ht, _⟩ | ⟨hr, ht, _⟩
      · cases argument <;> simp [hr, ht, memberCoordinate, ofMember, ofFieldArgument]
      all_goals simpa [hr, ht, memberCoordinate] using ih

lemma findOwner_eq (input : Name) (path : List Node) :
    findOwner input path = inputCoordinate input (path.filterMap (·.element?)) := by
  induction path with
  | nil => rfl
  | cons n path ih =>
    rw [findOwner, n.role?_eq]
    cases he : n.element? with
    | none =>
      rw [List.filterMap_cons_none he]
      exact ih
    | some e =>
      rw [List.filterMap_cons_some he]
      rcases e.role_cases with ⟨hr, ht, hd, hf⟩ | ⟨hr, ht, hd⟩ | ⟨hr, ht, hd, hf, _⟩ | ⟨hr, ht, hd, hf, _⟩ |
        ⟨hr, ht, hd, hf, _⟩
      · simp [hr, ht, hd, hf, inputCoordinate, isOwner, ofMember]
      · simp [hr, ht, hd, inputCoordinate, isOwner, ofDirectiveArgument]
      · simpa [hr, ht, hd, hf, inputCoordinate, isOwner] using ih
      · simp [hr, ht, hd, hf, inputCoordinate, isOwner, findType_eq]
      · simpa [hr, ht, hd, hf, inputCoordinate, isOwner] using ih

lemma findElement_eq (depth : Nat) (path : List Node) :
    findElement depth path = coordinate depth (path.filterMap (·.element?)) := by
  induction path with
  | nil => rfl
  | cons n path ih =>
    rw [findElement, n.role?_eq]
    cases he : n.element? with
    | none =>
      rw [List.filterMap_cons_none he]
      exact ih
    | some e =>
      rw [List.filterMap_cons_some he]
      rcases e.role_cases with ⟨hr, ht, _⟩ | ⟨hr, ht, hd⟩ | ⟨hr, ht, hd, _, hi⟩ | ⟨hr, ht, hd, _, hi⟩ |
        ⟨hr, ht, hd, _, hi⟩
      · simp [hr, ht, coordinate, ofType]
      · simp [hr, ht, hd, coordinate, ofDirectiveName]
      · simp [hr, ht, hd, hi, coordinate, findOwner_eq]
      all_goals simp [hr, ht, hd, hi, coordinate, findType_eq]

end SchemaCoordinate

namespace Navigator

def elements (nav : Navigator) : List Element :=
  nav.toList.filterMap (·.node.element?)

lemma elements_eq (nav : Navigator) :
    nav.elements = (nav.nodes.map (·.node)).filterMap (·.element?) := by
  simp only [elements, toList, List.filterMap_map, Function.comp_def]

lemma elements_push (nav : Navigator) (p : Placed) :
    (nav.push p).elements = p.node.element?.toList ++ nav.elements := by
  cases h : p.node.element? <;> simp [elements, toList, push, h]

lemma schemaCoordinate_push (nav : Navigator) (p : Placed) :
    (nav.push p).schemaCoordinate = Element.coordinate (nav.push p).size (nav.push p).elements := by
  rw [schemaCoordinate, SchemaCoordinate.ofPath, SchemaCoordinate.findElement_eq, elements_eq]
  simp [push, size]

theorem schemaCoordinate_eq (nav : Navigator) :
    nav.schemaCoordinate =
      if nav.isEmpty then .error (.emptyNavigator .createSchemaCoordinate)
      else Element.coordinate nav.size nav.elements := by
  rcases nav with ⟨_ | ⟨p, ps⟩⟩
  · rfl
  · exact schemaCoordinate_push ⟨ps⟩ p

end Navigator

end GraphQLTree
