import GraphQLTree.Source.Numeral
import GraphQLTree.Source.Quoted

namespace GraphQLTree.Source

namespace Mark

def start : Mark := ⟨1, 1⟩

def forward (m : Mark) (columns : Nat) : Mark :=
  { m with column := m.column + columns }

def nextLine (m : Mark) : Mark :=
  ⟨m.line + 1, 1⟩

def past (m : Mark) (cs : List Char) : Mark :=
  if '\n' ∈ cs then ⟨m.line + cs.count '\n', (cs.reverse.takeWhile (· ≠ '\n')).length + 1⟩
  else m.forward cs.length

end Mark

namespace Lexer

structure Rest where
  mark : Mark
  text : List Char

def endsComment (c : Char) : Bool :=
  c == '\n' || c == '\r'

def skipComment (m : Mark) (cs : List Char) : Rest :=
  match cs.dropWhile (!endsComment ·) with
  | [] => ⟨m, []⟩
  -- also after a carriage return, which starts no line anywhere else
  | _ :: rest => ⟨m.nextLine, rest⟩

/-- What stands between tokens: a tab is as wide as eight spaces; a byte order mark and a carriage
return have no width. -/
def skip? (m : Mark) (c : Char) (cs : List Char) : Option Rest :=
  match c with
  | '\uFEFF' | '\r' => some ⟨m, cs⟩
  | ' ' | ',' => some ⟨m.forward 1, cs⟩
  | '\t' => some ⟨m.forward 8, cs⟩
  | '\n' => some ⟨m.nextLine, cs⟩
  | '#' => some (skipComment m cs)
  | _ => none

def startsName (c : Char) : Bool :=
  c == '_' || c.isAlpha

def continuesName (c : Char) : Bool :=
  startsName c || c.isDigit

def startsNumeral (c : Char) : Bool :=
  c == '-' || c.isDigit

def endsNumeral (c : Char) : Bool :=
  c == ' ' || c == '\n' || c == '\r' || c == '\t' || c == ',' || c == '#' ||
    (Punctuator.ofChar? c).isSome

def name (m : Mark) (cs : List Char) : Token × Rest :=
  let word := cs.takeWhile continuesName
  (.name (String.ofList word), ⟨m.forward word.length, cs.dropWhile continuesName⟩)

def numeral? (m : Mark) (cs : List Char) : Option (Token × Rest) := do
  let digits := cs.takeWhile (!endsNumeral ·)
  let token ← Numeral.token? digits
  return (token, ⟨m.forward (Text.byteLength digits), cs.dropWhile (!endsNumeral ·)⟩)

def quoted? (m : Mark) (cs : List Char) : Option (Token × Rest) := do
  let (content, rest) ← Quoted.close? cs
  let text ← Quoted.unescape? content
  return (.string (String.ofList text), ⟨m.forward (content.length + 2), rest⟩)

def block? (m : Mark) (cs : List Char) : Option (Token × Rest) := do
  let (content, rest) ← Quoted.closeBlock? false cs
  let quotes := ['"', '"', '"']
  return (.block content, ⟨m.past (quotes ++ content ++ quotes), rest⟩)

def token? (m : Mark) (c : Char) (cs : List Char) : Option (Token × Rest) :=
  match c, cs with
  | '.', '.' :: '.' :: rest => some (.spread, ⟨m.forward 3, rest⟩)
  | '"', '"' :: '"' :: rest => block? m rest
  | '"', rest => quoted? m rest
  | c, rest =>
    match Punctuator.ofChar? c with
    | some p => some (.punctuator p, ⟨m.forward 1, rest⟩)
    | none =>
      if startsName c then some (name m (c :: rest))
      else if startsNumeral c then numeral? m (c :: rest)
      else none

def scan : Nat → Rest → List Lexeme
  | _, ⟨_, []⟩ => []
  | 0, ⟨m, _ :: _⟩ => [⟨m, .unknown⟩]
  | fuel + 1, ⟨m, c :: cs⟩ =>
    match skip? m c cs with
    | some rest => scan fuel rest
    | none =>
      match token? m c cs with
      | some (token, rest) => ⟨m, token⟩ :: scan fuel rest
      | none => [⟨m, .unknown⟩]

end Lexer

/-- The tokens of a text; each step takes a character or more, so there are no more steps than
characters. -/
def lexemes (cs : List Char) : List Lexeme :=
  Lexer.scan cs.length ⟨.start, cs⟩

end GraphQLTree.Source
