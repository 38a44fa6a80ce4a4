import GraphQLTree.Tree.Kind

/-!
What can go wrong when a node is built, or when a navigator is asked for what it does not hold. An
error is its cause; its words are made from the cause in one place.
-/
namespace GraphQLTree

inductive ErrorCategory
  | invalidArgument
  | invalidState
deriving DecidableEq, Repr

inductive ShapeFault
  | memberOfDirective (name : String)
  | argumentWithoutMember (name : String)
deriving DecidableEq, Repr

inductive NavigatorRequest
  | pop
  | peek
  | createSchemaCoordinate
deriving DecidableEq, Repr

inductive PathFault
  | noElement (nodes : Nat)
  | noOwner (argument : String)
  | noType (member : String)
  | misplacedInput (argument : String) (kind : Kind) (type : String)
deriving DecidableEq, Repr

inductive TreeError
  | emptyName
  | nestedNonNull
  | invalidCoordinate (fault : ShapeFault)
  | emptyNavigator (request : NavigatorRequest)
  | peekOutOfRange (index depth : Nat)
  | unrecognizedPath (fault : PathFault)
deriving DecidableEq, Repr

def ShapeFault.reason : ShapeFault → String
  | memberOfDirective name => s!"directive coordinate `@{name}` cannot name a member"
  | argumentWithoutMember name => s!"argument coordinate on type `{name}` must also name a field"

def NavigatorRequest.label : NavigatorRequest → String
  | pop => "pop"
  | peek => "peek"
  | createSchemaCoordinate => "create_schema_coordinate"

def PathFault.reason : PathFault → String
  | noElement nodes =>
    s!"none of the {nodes} nodes on the stack is a type, field, argument, enum value or directive definition"
  | noOwner argument => s!"input value `{argument}` has no enclosing field, directive or type definition"
  | noType member => s!"`{member}` has no enclosing type definition"
  | misplacedInput argument kind type =>
    let label := kind.label
    s!"input value `{argument}` sits directly inside {label} `{type}` with no enclosing field or directive definition"

namespace TreeError

def category : TreeError → ErrorCategory
  | emptyName | nestedNonNull | invalidCoordinate _ => .invalidArgument
  | emptyNavigator _ | peekOutOfRange _ _ | unrecognizedPath _ => .invalidState

def message : TreeError → String
  | emptyName => "Names must contain at least one character"
  | nestedNonNull => "A non-null type cannot wrap another non-null type"
  | invalidCoordinate fault =>
    let reason := fault.reason
    s!"Invalid schema coordinate: {reason}"
  | emptyNavigator request =>
    let label := request.label
    s!"Attempted to `{label}` on an empty syntax navigator"
  | peekOutOfRange index depth =>
    s!"Attempted to peek {index} positions below the top of a syntax navigator holding only {depth} nodes"
  | unrecognizedPath fault =>
    let reason := fault.reason
    s!"Unable to create a schema coordinate from the current path: {reason}"

end TreeError

end GraphQLTree
