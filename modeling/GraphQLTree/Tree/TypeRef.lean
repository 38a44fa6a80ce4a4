import GraphQLTree.Tree.Name

namespace GraphQLTree

structure NamedType where
  name : Name
  location : Option Location

inductive TypeRef
  | named (type : NamedType)
  | list (element : TypeRef) (location : Option Location)
  | nonNull (inner : TypeRef) (location : Option Location)

namespace TypeRef

def isNonNull : TypeRef → Bool
  | nonNull _ _ => true
  | _ => false

def innermost : TypeRef → NamedType
  | named type => type
  | list element _ => element.innermost
  | nonNull inner _ => inner.innermost

def checkedNonNull (inner : TypeRef) (location : Option Location) : Except TreeError TypeRef :=
  if inner.isNonNull then .error .nestedNonNull else .ok (.nonNull inner location)

def newNonNull (inner : TypeRef) : Except TreeError TypeRef :=
  checkedNonNull inner none

theorem checkedNonNull_eq_ok_iff {inner t : TypeRef} {location : Option Location} :
    checkedNonNull inner location = .ok t ↔ inner.isNonNull = false ∧ .nonNull inner location = t := by
  unfold checkedNonNull
  split <;> simp_all

end TypeRef

end GraphQLTree
