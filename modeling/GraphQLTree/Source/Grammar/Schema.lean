import GraphQLTree.Source.Grammar.Executable

/-!
The language of schemas. A definition may have a description before it and is marked at its keyword;
its parts are marked at their first token, which may be their description.
-/
namespace GraphQLTree.Source.Grammar

open GraphQLTree.Source.Parser

def description : Parser (Option String) := do
  match ← look with
  | some (.string s) =>
    let _ ← next
    return some s
  | some (.block content) =>
    let _ ← next
    return some (← unblocked content)
  | _ => return none

def inputValue (depth : Nat) : Parser InputValue := do
  let mark ← here
  let description ← description
  let name ← anyName
  let _ ← punctuator .colon
  let type ← typeExpr depth
  let defaultValue ← defaultValue depth
  return ⟨mark, description, name, type, defaultValue, ← directives depth⟩

def inputValues (opening closing : Punctuator) (depth : Nat) : Parser (List InputValue) :=
  block opening closing depth inputValue

def fieldDefinition (depth : Nat) : Parser FieldDefinition := do
  let mark ← here
  let description ← description
  let name ← anyName
  let arguments ← inputValues .parenOpen .parenClose depth
  let _ ← punctuator .colon
  let type ← typeExpr depth
  return ⟨mark, description, name, arguments, type, ← directives depth⟩

def enumValue (depth : Nat) : Parser EnumValue := do
  let mark ← here
  let description ← description
  let name ← anyName
  return ⟨mark, description, name, ← directives depth⟩

def interfaces : Parser (List String) := do
  let names ← optional (· = .name "implements") do
    let _ ← keyword "implements"
    let _ ← accept (.punctuator .ampersand)
    separated .ampersand anyName
  return names.getD []

def unionMembers : Parser (List String) := do
  let names ← optional (· = .punctuator .equals) do
    let _ ← punctuator .equals
    let _ ← accept (.punctuator .bar)
    separated .bar anyName
  return names.getD []

def fieldDefinitions : Parser (List FieldDefinition) :=
  block .braceOpen .braceClose maxDepth fieldDefinition

inductive TypeKeyword
  | scalar
  | type
  | interface
  | union
  | enum
  | input
deriving DecidableEq, Repr

def TypeKeyword.ofText? : String → Option TypeKeyword
  | "scalar" => some .scalar
  | "type" => some .type
  | "interface" => some .interface
  | "union" => some .union
  | "enum" => some .enum
  | "input" => some .input
  | _ => none

def typeBody : TypeKeyword → Parser (List Directive × TypeBody)
  | .scalar => do return (← directives maxDepth, .scalar)
  | .type => do
    let interfaces ← interfaces
    let directives ← directives maxDepth
    return (directives, .object interfaces (← fieldDefinitions))
  | .interface => do
    let interfaces ← interfaces
    let directives ← directives maxDepth
    return (directives, .interface interfaces (← fieldDefinitions))
  | .union => do
    let directives ← directives maxDepth
    return (directives, .union (← unionMembers))
  | .enum => do
    let directives ← directives maxDepth
    return (directives, .enum (← block .braceOpen .braceClose maxDepth enumValue))
  | .input => do
    let directives ← directives maxDepth
    return (directives, .inputObject (← inputValues .braceOpen .braceClose maxDepth))

/-- Whether an extension adds anything. Interfaces are enough for an object, not for an interface. -/
def extends? (directives : List Directive) : TypeBody → Bool
  | .scalar => !directives.isEmpty
  | .object interfaces fields => !(directives.isEmpty && interfaces.isEmpty && fields.isEmpty)
  | .interface _ fields => !(directives.isEmpty && fields.isEmpty)
  | .union types => !(directives.isEmpty && types.isEmpty)
  | .enum values => !(directives.isEmpty && values.isEmpty)
  | .inputObject fields => !(directives.isEmpty && fields.isEmpty)

def typeKeyword : Parser (Mark × TypeKeyword) := do
  match ← next with
  | ⟨mark, .name s⟩ =>
    match TypeKeyword.ofText? s with
    | some k => return (mark, k)
    | none => fail
  | _ => fail

def typeDefinition (description : Option String) : Parser TypeDefinition := do
  let (mark, k) ← typeKeyword
  let name ← anyName
  let (directives, body) ← typeBody k
  return ⟨mark, description, name, directives, body⟩

def typeExtension : Parser TypeExtension := do
  let (mark, k) ← typeKeyword
  let name ← anyName
  let (directives, body) ← typeBody k
  if extends? directives body then return ⟨mark, name, directives, body⟩ else fail

def directiveLocation : Parser DirectiveLocation := do
  match DirectiveLocation.ofKeyword? (← anyName) with
  | some l => return l
  | none => fail

def directiveLocations : Parser (List DirectiveLocation) := do
  let starts (t : Token) : Bool := isName t || t = .punctuator .bar
  let locations ← optional starts do
    let _ ← accept (.punctuator .bar)
    separated .bar directiveLocation
  -- there may be none at all
  return locations.getD []

def directiveDefinition (description : Option String) : Parser DirectiveDefinition := do
  let mark ← keyword "directive"
  let _ ← punctuator .at
  let name ← anyName
  let arguments ← inputValues .parenOpen .parenClose maxDepth
  let repeatable ← accept (.name "repeatable")
  let _ ← keyword "on"
  return ⟨mark, description, name, arguments, repeatable, ← directiveLocations⟩

def rootType : Parser (OperationType × String) := do
  match OperationType.ofKeyword? (← anyName) with
  | some o =>
    let _ ← punctuator .colon
    return (o, ← anyName)
  | none => fail

def rootOf (o : OperationType) (roots : List (OperationType × String)) : Parser (Option String) :=
  match roots.filter (·.1 == o) with
  | [] => return none
  | [(_, type)] => return some type
  | _ => fail

def schemaDefinition : Parser SchemaDefinition := do
  let mark ← keyword "schema"
  let directives ← directives maxDepth
  let roots ← enclosed .braceOpen .braceClose rootType
  return ⟨mark, directives, ← rootOf .query roots, ← rootOf .mutation roots, ← rootOf .subscription roots⟩

def schemaItem : Parser SchemaItem := do
  match ← look with
  | some (.name "schema") => .schema <$> schemaDefinition
  | some (.name "extend") =>
    let _ ← keyword "extend"
    .extension <$> typeExtension
  | _ =>
    let description ← description
    match ← look with
    | some (.name "directive") => .directive <$> directiveDefinition description
    | _ => .type <$> typeDefinition description

def schemaDocument : Parser (List SchemaItem) := do
  let first ← schemaItem
  return first :: (← many (fun _ => true) schemaItem)

end GraphQLTree.Source.Grammar
