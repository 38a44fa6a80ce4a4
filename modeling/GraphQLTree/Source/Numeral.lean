import GraphQLTree.Number.Rounding
import GraphQLTree.Source.Token

namespace GraphQLTree.Source.Numeral

def digitsValue (cs : List Char) : Nat :=
  cs.foldl (fun n c => 10 * n + (c.toNat - '0'.toNat)) 0

def isInt : List Char → Bool
  | '-' :: cs => isNatural cs
  | cs => isNatural cs
where
  isNatural : List Char → Bool
    | [] => false
    | ['0'] => true
    | '0' :: _ => false
    | cs => cs.all Char.isDigit

def signed : List Char → Bool × List Char
  | '-' :: cs => (true, cs)
  | cs => (false, cs)

def int? (cs : List Char) : Option Int64 :=
  if isInt cs then
    let (negative, digits) := signed cs
    let n : Int := if negative then -digitsValue digits else digitsValue digits
    if Int64.minValue.toInt ≤ n ∧ n ≤ Int64.maxValue.toInt then some (Int64.ofInt n) else none
  else none

def splitLast? (p : Char → Bool) (cs : List Char) : Option (List Char × List Char) :=
  match cs.reverse.span (!p ·) with
  | (_, []) => none
  | (after, _ :: before) => some (before.reverse, after.reverse)

def isExponentMark (c : Char) : Bool :=
  c == 'e' || c == 'E'

def exponent? : List Char → Option Int
  | [] => none
  | c :: cs =>
    if c = '-' || c = '+' then
      if cs ≠ [] ∧ cs.all Char.isDigit then
        some (if c = '-' then -(digitsValue cs : Int) else digitsValue cs)
      else none
    -- nine is left out
    else if '1' ≤ c ∧ c ≤ '8' ∧ cs.all Char.isDigit then some (digitsValue (c :: cs))
    else none

def mantissa? (cs : List Char) : Option (List Char × List Char) :=
  match splitLast? (· == '.') cs with
  | none => if isInt cs then some (cs, []) else none
  | some (whole, fraction) =>
    if isInt whole ∧ fraction ≠ [] ∧ fraction.all Char.isDigit then some (whole, fraction) else none

def decimal? (cs : List Char) : Option Number.Decimal := do
  let (mantissa, exponent) ←
    match splitLast? isExponentMark cs with
    | none => some (cs, 0)
    | some (before, after) => (exponent? after).map (before, ·)
  let (whole, fraction) ← mantissa? mantissa
  let (negative, digits) := signed whole
  let digits := digits ++ fraction
  return ⟨negative, digitsValue digits, digits.length, exponent - fraction.length⟩

def isFloat (cs : List Char) : Bool :=
  cs.any fun c => c == '.' || isExponentMark c

def token? (cs : List Char) : Option Token :=
  if isFloat cs then (decimal? cs).map (.float ·.toBinary64) else (int? cs).map .int

end GraphQLTree.Source.Numeral
