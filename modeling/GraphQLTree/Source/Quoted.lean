import GraphQLTree.Text.Blank
import GraphQLTree.Text.Offset
import GraphQLTree.Text.Split

/-!
Texts in quotes: where they end and what they stand for. Between single quotes a backslash starts an
escape; between triple quotes the text is laid out in lines, and their common indentation goes away.
-/
namespace GraphQLTree.Source.Quoted

def close? : List Char → Option (List Char × List Char)
  | [] => none
  | '"' :: cs => some ([], cs)
  -- no text goes on over a line
  | '\n' :: _ => none
  | '\\' :: '\n' :: _ => none
  | '\\' :: c :: cs => (close? cs).map fun (content, rest) => ('\\' :: c :: content, rest)
  | c :: cs => (close? cs).map fun (content, rest) => (c :: content, rest)

def hexDigit? (c : Char) : Option Nat :=
  if '0' ≤ c ∧ c ≤ '9' then some (c.toNat - '0'.toNat)
  else if 'a' ≤ c ∧ c ≤ 'f' then some (c.toNat - 'a'.toNat + 10)
  else if 'A' ≤ c ∧ c ≤ 'F' then some (c.toNat - 'A'.toNat + 10)
  else none

def hexNumber? (cs : List Char) : Option Nat :=
  let digits := match cs with
    | '+' :: cs => cs
    | cs => cs
  (digits.mapM hexDigit?).map (·.foldl (fun n d => 16 * n + d) 0)

def char? (n : Nat) : Option Char :=
  if n.isValidChar then some (Char.ofNat n) else none

def escape? : Char → Option Char
  | '"' => some '"'
  | '\\' => some '\\'
  | '/' => some '/'
  | 'b' => some '\x10'
  | 'f' => some '\x0c'
  | 'n' => some '\n'
  | 'r' => some '\r'
  | 't' => some '\t'
  | _ => none

def unescape? : List Char → Option (List Char)
  | [] => some []
  | '\\' :: 'u' :: a :: b :: c :: d :: cs => do
    let x ← char? (← hexNumber? [a, b, c, d])
    return x :: (← unescape? cs)
  | '\\' :: c :: cs => do
    let x ← escape? c
    return x :: (← unescape? cs)
  | '\\' :: [] => none
  | c :: cs => do return c :: (← unescape? cs)

/-- The content up to the closing triple quote and the rest after it; a triple quote after a
backslash does not close. `escaped` says that a backslash came last. -/
def closeBlock? : Bool → List Char → Option (List Char × List Char)
  | true, '"' :: '"' :: '"' :: cs =>
    (closeBlock? false cs).map fun (content, rest) => ('"' :: '"' :: '"' :: content, rest)
  | false, '"' :: '"' :: '"' :: cs => some ([], cs)
  | _, c :: cs => (closeBlock? (c == '\\') cs).map fun (content, rest) => (c :: content, rest)
  | _, [] => none

/-- The lines of a content. A carriage return before a newline belongs to it, and a newline at the
end opens no line. -/
def lines (cs : List Char) : List (List Char) :=
  let pieces := Text.splitOn '\n' cs
  let ended := pieces.dropLast.map fun line => if line.getLast? = some '\r' then line.dropLast else line
  match pieces.getLast? with
  | none | some [] => ended
  | some last => ended ++ [last]

def indentation (line : List Char) : Nat :=
  Text.byteLength (line.takeWhile Text.isBlank)

def isBlankLine (line : List Char) : Bool :=
  line.all Text.isBlank

def dropBytes? : Nat → List Char → Option (List Char)
  | 0, cs => some cs
  | _, [] => none
  | n, c :: cs => if c.utf8Size ≤ n then dropBytes? (n - c.utf8Size) cs else none

def unindent? (common : Option Nat) (line : List Char) : Option (List Char) :=
  match common with
  | some n => if n ≤ Text.byteLength line then dropBytes? n line else some line
  | none => some line

def unescapeQuotes : List Char → List Char
  | '\\' :: '"' :: '"' :: '"' :: cs => '"' :: '"' :: '"' :: unescapeQuotes cs
  | c :: cs => c :: unescapeQuotes cs
  | [] => []

def trimEnd (ls : List (List Char)) : List (List Char) :=
  (ls.reverse.dropWhile isBlankLine).reverse

def commonIndentation (ls : List (List Char)) : Option Nat :=
  ((ls.filter (!isBlankLine ·)).map indentation).min?

/-- The lines of a content between triple quotes that its text keeps. The first one stands behind
the quote, so it does not count for the common indentation and is not cut. -/
def keptLines? : List (List Char) → Option (List (List Char))
  | [] => some []
  | first :: others =>
    let common := commonIndentation others
    if isBlankLine first then (trimEnd (others.dropWhile isBlankLine)).mapM (unindent? common)
    else ((trimEnd others).mapM (unindent? common)).map (first :: ·)

/-- The text of a content between triple quotes. There is none when the common indentation ends
inside a character of a line, as it can where blanks have different widths. -/
def unblock? (content : List Char) : Option (List Char) :=
  (keptLines? (lines content)).map fun kept => Text.joinWith ['\n'] (kept.map unescapeQuotes)

end GraphQLTree.Source.Quoted
