import GraphQLTree.Source.Quoted
import GraphQLTree.Source.Token

/-!
Parsers: what reads a construct off the front of a list of tokens. The first token decides which
construct it is, and there is no way back from that.
-/
namespace GraphQLTree.Source

/-- Why there is no reading on: a token has no place where it stands, or the common indentation of a
text ends inside a character. -/
inductive Refusal
  | misplaced
  | splitCharacter
deriving DecidableEq, Repr

abbrev Parser (α : Type) := StateT (List Lexeme) (Except Refusal) α

namespace Parser

variable {α : Type}

def fail : Parser α :=
  fun _ => .error .misplaced

def look : Parser (Option Token) :=
  fun ts => .ok (ts.head?.map (·.token), ts)

def next : Parser Lexeme
  | [] => .error .misplaced
  | t :: ts => .ok (t, ts)

def here : Parser Mark
  | [] => .error .misplaced
  | t :: ts => .ok (t.mark, t :: ts)

def expect (token : Token) : Parser Mark := do
  let t ← next
  if t.token = token then return t.mark else fail

def punctuator (p : Punctuator) : Parser Mark :=
  expect (.punctuator p)

def keyword (s : String) : Parser Mark :=
  expect (.name s)

def anyName : Parser String := do
  match (← next).token with
  | .name s => return s
  | _ => fail

def unblocked (content : List Char) : Parser String :=
  match Quoted.unblock? content with
  | some text => return String.ofList text
  | none => fun _ => .error .splitCharacter

def accept (token : Token) : Parser Bool := do
  if (← look) = some token then
    let _ ← next
    return true
  else return false

def optional (starts : Token → Bool) (p : Parser α) : Parser (Option α) := do
  match ← look with
  | some t => if starts t then some <$> p else return none
  | none => return none

def repeated (starts : Token → Bool) (p : Parser α) : Nat → Parser (List α)
  | 0 => return []
  | fuel + 1 => do
    match ← look with
    | none => return []
    | some t =>
      if starts t then
        let a ← p
        return a :: (← repeated starts p fuel)
      else return []

/-- Repeats `p` while the next token can start it. What is repeated takes a token or more, so it
cannot be repeated more often than there are tokens. -/
def many (starts : Token → Bool) (p : Parser α) : Parser (List α) :=
  fun ts => repeated starts p ts.length ts

def separated (separator : Punctuator) (p : Parser α) : Parser (List α) := do
  let first ← p
  let others ← many (· = .punctuator separator) (do
    let _ ← punctuator separator
    p)
  return first :: others

def enclosed (opening closing : Punctuator) (p : Parser α) : Parser (List α) := do
  let _ ← punctuator opening
  let as ← many (· ≠ .punctuator closing) p
  let _ ← punctuator closing
  return as

def enclosedSome (opening closing : Punctuator) (p : Parser α) : Parser (List α) := do
  let as ← enclosed opening closing p
  if as.isEmpty then fail else return as

def runAll (p : Parser α) (ts : List Lexeme) : Except Refusal α :=
  match p ts with
  | .ok (a, []) => .ok a
  | .ok _ => .error .misplaced
  | .error r => .error r

end Parser

end GraphQLTree.Source
