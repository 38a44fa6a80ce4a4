/-!
Binary floating-point numbers of 64 bits, held as their bits: one sign bit, eleven bits of
exponent, fifty-two of fraction. They are compared as numbers, so a NaN differs from itself and
the two zeros are equal.
-/
namespace GraphQLTree

structure Binary64 where
  bits : UInt64
deriving DecidableEq, Repr

namespace Binary64

def signBit : Nat := 0x8000000000000000

def magnitude (x : Binary64) : Nat :=
  x.bits.toNat % signBit

def infiniteMagnitude : Nat := 0x7FF0000000000000

def isNaN (x : Binary64) : Bool :=
  infiniteMagnitude < x.magnitude

def isZero (x : Binary64) : Bool :=
  x.magnitude == 0

instance : BEq Binary64 :=
  ⟨fun x y => !x.isNaN && !y.isNaN && (decide (x = y) || (x.isZero && y.isZero))⟩

theorem beq_iff {x y : Binary64} :
    (x == y) = true ↔ x.isNaN = false ∧ y.isNaN = false ∧ (x = y ∨ (x.isZero = true ∧ y.isZero = true)) := by
  change (!x.isNaN && !y.isNaN && (decide (x = y) || (x.isZero && y.isZero))) = true ↔ _
  simp [and_assoc]

def ofMagnitude (negative : Bool) (magnitude : Nat) : Binary64 :=
  ⟨UInt64.ofNat (magnitude + if negative then signBit else 0)⟩

end Binary64

end GraphQLTree
