import GraphQLTree.Tree.Name

/-!
Schema coordinates, which name one element of a schema: `Type`, `Type.member`,
`Type.member(argument:)`, `@directive` or `@directive(argument:)`.
-/
namespace GraphQLTree

structure SchemaCoordinate where
  ofDirective : Bool
  name : Name
  member : Option Name
  argument : Option Name
  location : Option Location

namespace SchemaCoordinate

def fault? (c : SchemaCoordinate) : Option ShapeFault :=
  if c.ofDirective then
    if c.member.isSome then some (.memberOfDirective c.name.value) else none
  else if c.member.isNone && c.argument.isSome then some (.argumentWithoutMember c.name.value)
  else none

def checked (c : SchemaCoordinate) : Except TreeError SchemaCoordinate :=
  match c.fault? with
  | some fault => .error (.invalidCoordinate fault)
  | none => .ok c

def new (ofDirective : Bool) (name : Name) (member argument : Option Name) :
    Except TreeError SchemaCoordinate :=
  checked ⟨ofDirective, name, member, argument, none⟩

def ofType (name : Name) : SchemaCoordinate :=
  ⟨false, name, none, none, none⟩

def ofMember (type member : Name) : SchemaCoordinate :=
  ⟨false, type, some member, none, none⟩

def ofFieldArgument (type field argument : Name) : SchemaCoordinate :=
  ⟨false, type, some field, some argument, none⟩

def ofDirectiveName (name : Name) : SchemaCoordinate :=
  ⟨true, name, none, none, none⟩

def ofDirectiveArgument (name argument : Name) : SchemaCoordinate :=
  ⟨true, name, none, some argument, none⟩

def memberText (member : Option Name) : String :=
  match member with
  | some n => "." ++ n.value
  | none => ""

def argumentText (argument : Option Name) : String :=
  match argument with
  | some n => "(" ++ n.value ++ ":)"
  | none => ""

def render (c : SchemaCoordinate) : String :=
  (if c.ofDirective then "@" else "") ++ c.name.value ++ memberText c.member ++ argumentText c.argument

theorem checked_eq_ok_iff {c d : SchemaCoordinate} : c.checked = .ok d ↔ c.fault? = none ∧ c = d := by
  unfold checked
  split <;> simp_all

theorem new_ofType (name : Name) : new false name none none = .ok (ofType name) := rfl

theorem new_ofMember (type member : Name) : new false type (some member) none = .ok (ofMember type member) :=
  rfl

theorem new_ofFieldArgument (type field argument : Name) :
    new false type (some field) (some argument) = .ok (ofFieldArgument type field argument) := rfl

theorem new_ofDirectiveName (name : Name) : new true name none none = .ok (ofDirectiveName name) := rfl

theorem new_ofDirectiveArgument (name argument : Name) :
    new true name none (some argument) = .ok (ofDirectiveArgument name argument) := rfl

end SchemaCoordinate

end GraphQLTree
