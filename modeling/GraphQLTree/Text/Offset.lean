import GraphQLTree.Text.Position

/-!
From lines and columns to bytes: a text is opened once into the starts of its lines, and each
position is then counted from the start of its line.
-/
namespace GraphQLTree.Text

def byteLength : List Char → Nat
  | [] => 0
  | c :: cs => c.utf8Size + byteLength cs

structure LineStart where
  offset : Nat
  rest : List Char
deriving Repr

def lineStartsAfter (offset : Nat) : List Char → List LineStart
  | [] => []
  | c :: cs =>
    let next := offset + c.utf8Size
    if c = '\n' then ⟨next, cs⟩ :: lineStartsAfter next cs else lineStartsAfter next cs

def lineStarts (cs : List Char) : List LineStart :=
  ⟨0, cs⟩ :: lineStartsAfter 0 cs

/-- Bytes before the character `column` places on; the end of the text when there is none. -/
def advance : Nat → Nat → List Char → Nat
  | 0, offset, _ => offset
  | _ + 1, offset, [] => offset
  | column + 1, offset, c :: cs => advance column (offset + c.utf8Size) cs

/-- The line and column at which a character of a text stands; the count runs on through the
following lines, and a line that does not exist lies at byte 0. -/
def byteOffset (starts : List LineStart) (line column : Nat) : Nat :=
  match starts[line]? with
  | some s => advance column s.offset s.rest
  | none => 0

end GraphQLTree.Text
