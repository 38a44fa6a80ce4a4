import GraphQLTree.Text.GraphemeExtender
import GraphQLTree.Text.Unprintable

namespace GraphQLTree.Text

def hexDigits (n : Nat) : List Char :=
  Nat.toDigits 16 n

def codeEscape (c : Char) : List Char :=
  ['\\', 'u', '\x7b'] ++ hexDigits c.toNat ++ ['\x7d']

def quoteChar (c : Char) : List Char :=
  match c with
  | '"' => ['\\', '"']
  | '\\' => ['\\', '\\']
  | '\t' => ['\\', 't']
  | '\r' => ['\\', 'r']
  | '\n' => ['\\', 'n']
  | '\x00' => ['\\', '0']
  | c => if isGraphemeExtender c || isUnprintable c then codeEscape c else [c]

def quote (cs : List Char) : List Char :=
  '"' :: cs.flatMap quoteChar ++ ['"']

/-- A character on its way to a terminal: the bell, the backspace, the form feed, the escape and the
delete character are spelled by two digits, and the controls from U+0080 on by their code points. -/
def tameChar (c : Char) : List Char :=
  match c with
  | '\x07' | '\x08' | '\x0c' => ['\\', 'x', '0'] ++ hexDigits c.toNat
  | '\x1b' | '\x7f' => ['\\', 'x'] ++ hexDigits c.toNat
  | c => if 0x80 ≤ c.toNat && c.toNat < 0xA0 then codeEscape c else [c]

def tame (s : String) : String :=
  String.ofList (s.toList.flatMap tameChar)

end GraphQLTree.Text
