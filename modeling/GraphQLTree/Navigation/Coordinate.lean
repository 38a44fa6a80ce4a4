import GraphQLTree.Navigation.Navigator

/-!
The schema coordinate of the element that a way leads into. The stack is read once from the top.
The first node with a role fixes the element; then the reading goes on to the nearest node that can
own it, and never comes back to the choice.
-/
namespace GraphQLTree

inductive Role
  | type (name : Name) (kind : Kind)
  | field (name : Name)
  | enumValue (name : Name)
  | inputValue (name : Name)
  | directive (name : Name)

def Node.role? : Node → Option Role
  | .definition (.type d) => some (.type d.name d.body.definitionKind)
  | .definition (.typeExtension d) => some (.type d.name d.body.extensionKind)
  | .definition (.directive d) => some (.directive d.name)
  | .fieldDefinition d => some (.field d.name)
  | .enumValueDefinition d => some (.enumValue d.name)
  | .inputValueDefinition d => some (.inputValue d.name)
  | _ => none

def Kind.isInputObject : Kind → Bool
  | .inputObjectTypeDefinition | .inputObjectTypeExtension => true
  | _ => false

namespace SchemaCoordinate

def findType (member : Name) (argument : Option Name) : List Node → Except TreeError SchemaCoordinate
  | [] => .error (.unrecognizedPath (.noType member.value))
  | n :: ns =>
    match n.role? with
    | some (.type type _) =>
      match argument with
      | none => .ok (ofMember type member)
      | some argument => .ok (ofFieldArgument type member argument)
    | _ => findType member argument ns

def findOwner (argument : Name) : List Node → Except TreeError SchemaCoordinate
  | [] => .error (.unrecognizedPath (.noOwner argument.value))
  | n :: ns =>
    match n.role? with
    | some (.type type kind) =>
      -- in any other type an input value belongs to a field
      if kind.isInputObject then .ok (ofMember type argument)
      else .error (.unrecognizedPath (.misplacedInput argument.value kind type.value))
    | some (.field field) => findType field (some argument) ns
    | some (.directive directive) => .ok (ofDirectiveArgument directive argument)
    | _ => findOwner argument ns

/-- Nothing is found yet; `depth` is the length of the whole way. -/
def findElement (depth : Nat) : List Node → Except TreeError SchemaCoordinate
  | [] => .error (.unrecognizedPath (.noElement depth))
  | n :: ns =>
    match n.role? with
    | some (.type type _) => .ok (ofType type)
    | some (.field member) | some (.enumValue member) => findType member none ns
    | some (.inputValue argument) => findOwner argument ns
    | some (.directive directive) => .ok (ofDirectiveName directive)
    | none => findElement depth ns

/-- The coordinate at the end of a way, which is given from its end to its start. -/
def ofPath (path : List Node) : Except TreeError SchemaCoordinate :=
  if path.isEmpty then .error (.emptyNavigator .createSchemaCoordinate)
  else findElement path.length path

end SchemaCoordinate

def Navigator.schemaCoordinate (nav : Navigator) : Except TreeError SchemaCoordinate :=
  SchemaCoordinate.ofPath (nav.nodes.map (·.node))

end GraphQLTree
