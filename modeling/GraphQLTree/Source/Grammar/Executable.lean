import GraphQLTree.Source.Grammar.Value

namespace GraphQLTree.Source.Grammar

open GraphQLTree.Source.Parser

def field (depth : Nat) (set : Parser SelectionSet) : Parser Field := do
  let mark ← here
  let first ← anyName
  let second ← optional (· = .punctuator .colon) do
    let _ ← punctuator .colon
    anyName
  let arguments ← arguments depth
  let directives ← directives depth
  let selections ← optional (· = .punctuator .braceOpen) set
  let selectionSet := selections.getD ⟨mark, []⟩
  match second with
  | none => return ⟨mark, none, first, arguments, directives, selectionSet⟩
  | some name => return ⟨mark, some first, name, arguments, directives, selectionSet⟩

def condition : Parser String := do
  let _ ← keyword "on"
  anyName

def dotted (depth : Nat) (set : Parser SelectionSet) : Parser Selection := do
  let mark ← here
  match ← look with
  | some (.name s) =>
    if s ≠ "on" then
      let name ← anyName
      return .spread ⟨mark, name, ← directives depth⟩
    else inline mark
  | _ => inline mark
where
  inline (mark : Mark) : Parser Selection := do
    let condition ← optional (· = .name "on") condition
    let directives ← directives depth
    return .inline ⟨mark, condition, directives, ← set⟩

def selection (depth : Nat) (set : Parser SelectionSet) : Parser Selection := do
  if ← accept .spread then dotted depth set
  else .field <$> field depth set

def selectionSet : Nat → Parser SelectionSet
  | 0 => fail
  | depth + 1 => do
    let mark ← here
    return ⟨mark, ← enclosedSome .braceOpen .braceClose (selection depth (selectionSet depth))⟩

def variableDefinition (depth : Nat) : Parser VariableDefinition := do
  let mark ← punctuator .dollar
  let name ← anyName
  let _ ← punctuator .colon
  let type ← typeExpr depth
  return ⟨mark, name, type, ← defaultValue depth⟩

def isName : Token → Bool
  | .name _ => true
  | _ => false

def operation (mark : Mark) (o : OperationType) : Parser Operation := do
  let name ← optional isName anyName
  let definitions ← block .parenOpen .parenClose maxDepth variableDefinition
  let directives ← directives maxDepth
  return ⟨mark, o, name, definitions, directives, ← selectionSet maxDepth⟩

def fragment (mark : Mark) : Parser Fragment := do
  let name ← anyName
  let condition ← condition
  let directives ← directives maxDepth
  return ⟨mark, name, condition, directives, ← selectionSet maxDepth⟩

def executableDefinition : Parser ExecutableDefinition := do
  match ← look with
  | some (.name s) =>
    let mark ← keyword s
    match OperationType.ofKeyword? s with
    | some o => .operation <$> operation mark o
    | none => if s = "fragment" then .fragment <$> fragment mark else fail
  | _ => .shorthand <$> selectionSet maxDepth

def executableDocument : Parser (List ExecutableDefinition) := do
  let first ← executableDefinition
  return first :: (← many (fun _ => true) executableDefinition)

end GraphQLTree.Source.Grammar
