import GraphQLTree.Number.Binary64

/-!
The binary floating-point number nearest to a decimal one. The decimal is a fraction of natural
numbers, so the rounding is exact: the quotient is scaled until its whole part fills the
significand, and a half goes to the even neighbour.
-/
namespace GraphQLTree.Number

/-- The whole number nearest to `num / den`; a half goes to the even one. -/
def roundDiv (num den : Nat) : Nat :=
  let q := num / den
  let twice := 2 * (num % den)
  if twice < den then q
  else if den < twice then q + 1
  else q + q % 2

def rescale (num den : Nat) : Int → Nat × Nat
  | .ofNat n => (num, den <<< n)
  | .negSucc n => (num <<< (n + 1), den)

def floorLog2 (num den : Nat) : Int :=
  let k : Int := (num.log2 : Int) - den.log2
  let scaled := rescale num den k
  if scaled.2 ≤ scaled.1 then k else k - 1

/-- The magnitude nearest to `num / den`. A significand that rounds up to the next power of two
carries into the exponent, and an exponent that is too large gives infinity. -/
def nearestMagnitude (num den : Nat) : Nat :=
  if num = 0 then 0
  else
    let scale := max (floorLog2 num den - 52) (-1074)
    let scaled := rescale num den scale
    min (((scale + 1074).toNat <<< 52) + roundDiv scaled.1 scaled.2) Binary64.infiniteMagnitude

structure Decimal where
  negative : Bool
  digits : Nat
  places : Nat
  exponent : Int
deriving DecidableEq, Repr

/-- Beyond `10 ^ 310` every number rounds to infinity, and below `10 ^ -330` to zero; both are
answered without computing the power. -/
def Decimal.toBinary64 (d : Decimal) : Binary64 :=
  let top := d.exponent + d.places
  let magnitude :=
    if d.digits = 0 || top < -330 then 0
    else if 310 < d.exponent then Binary64.infiniteMagnitude
    else match d.exponent with
      | .ofNat n => nearestMagnitude (d.digits * Nat.pow 10 n) 1
      | .negSucc n => nearestMagnitude d.digits (Nat.pow 10 (n + 1))
  Binary64.ofMagnitude d.negative magnitude

end GraphQLTree.Number
