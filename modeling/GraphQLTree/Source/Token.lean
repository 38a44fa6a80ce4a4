import GraphQLTree.Source.Document

namespace GraphQLTree.Source

inductive Punctuator
  | parenOpen
  | parenClose
  | bracketOpen
  | bracketClose
  | braceOpen
  | braceClose
  | bang
  | dollar
  | colon
  | equals
  | at
  | bar
  | ampersand
deriving DecidableEq, Repr

/-- A text between triple quotes is kept as it is written; where the characters of a document make no
token, there is an unknown one. -/
inductive Token
  | punctuator (p : Punctuator)
  | spread
  | name (s : String)
  | int (n : Int64)
  | float (x : Binary64)
  | string (s : String)
  | block (content : List Char)
  | unknown
deriving DecidableEq, Repr

structure Lexeme where
  mark : Mark
  token : Token
deriving DecidableEq, Repr

def Punctuator.ofChar? : Char → Option Punctuator
  | '(' => some .parenOpen
  | ')' => some .parenClose
  | '[' => some .bracketOpen
  | ']' => some .bracketClose
  | '{' => some .braceOpen
  | '}' => some .braceClose
  | '!' => some .bang
  | '$' => some .dollar
  | ':' => some .colon
  | '=' => some .equals
  | '@' => some .at
  | '|' => some .bar
  | '&' => some .ampersand
  | _ => none

end GraphQLTree.Source
