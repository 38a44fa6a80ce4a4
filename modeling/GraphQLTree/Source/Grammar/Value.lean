import GraphQLTree.Source.Parser

/-!
What both languages share: values, types, arguments and directives. Brackets are nested at most
fifty deep, so every construct that opens one is given the number of those that it still may open.
-/
namespace GraphQLTree.Source.Grammar

open GraphQLTree.Source.Parser

def maxDepth : Nat := 50

variable {α : Type}

def nested (depth : Nat) (p : Nat → Parser α) : Parser α :=
  match depth with
  | 0 => fail
  | depth + 1 => p depth

def scalar (constant : Bool) : Parser Value := do
  match (← next).token with
  | .punctuator .dollar => if constant then fail else .var <$> anyName
  | .int n => return .int n
  | .float x => return .float x
  | .string s => return .string s
  | .block content => .string <$> unblocked content
  | .name "true" => return .boolean true
  | .name "false" => return .boolean false
  | .name "null" => return .null
  | .name s => return .enum s
  | _ => fail

def entry (value : Parser Value) : Parser Entry := do
  let key ← anyName
  let _ ← punctuator .colon
  return ⟨key, ← value⟩

def value (constant : Bool) : Nat → Parser Value
  | 0 => scalar constant
  | depth + 1 => do
    match ← look with
    | some (.punctuator .bracketOpen) => .list <$> enclosed .bracketOpen .bracketClose (value constant depth)
    | some (.punctuator .braceOpen) =>
      .ofEntries <$> enclosed .braceOpen .braceClose (entry (value constant depth))
    | _ => scalar constant

def defaultValue (depth : Nat) : Parser (Option Value) :=
  optional (· = .punctuator .equals) do
    let _ ← punctuator .equals
    value true depth

def marked (t : TypeExpr) : Parser TypeExpr := do
  return if ← accept (.punctuator .bang) then .nonNull t else t

def typeExpr : Nat → Parser TypeExpr
  | 0 => do marked (.named (← anyName))
  | depth + 1 => do
    if ← accept (.punctuator .bracketOpen) then
      let t ← typeExpr depth
      let _ ← punctuator .bracketClose
      marked (.list t)
    else marked (.named (← anyName))

def block (opening closing : Punctuator) (depth : Nat) (p : Nat → Parser α) : Parser (List α) := do
  let as ← optional (· = .punctuator opening) (nested depth fun depth => enclosedSome opening closing (p depth))
  return as.getD []

def arguments (depth : Nat) : Parser (List Entry) :=
  block .parenOpen .parenClose depth fun depth => entry (value false depth)

def directive (depth : Nat) : Parser Directive := do
  let mark ← punctuator .at
  let name ← anyName
  return ⟨mark, name, ← arguments depth⟩

def directives (depth : Nat) : Parser (List Directive) :=
  many (· = .punctuator .at) (directive depth)

end GraphQLTree.Source.Grammar
