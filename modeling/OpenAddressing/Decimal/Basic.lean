/-!
# Decimals

A `Decimal` is a 64-bit binary floating point number, held as its bits. Two decimals are the
same key if `canonical` agrees on them, which makes all that is not a number one key and the
two zeros another, and keeps all other numbers apart.
-/

namespace OpenAddressing

/-- A floating point number, as the 64 bits of its binary format. -/
structure Decimal where
  bits : UInt64
  deriving Repr, DecidableEq

namespace Decimal

/-- The sign bit. -/
def isNegative (d : Decimal) : Bool :=
  d.bits >>> 63 == 1

/-- The eleven bits of the exponent. -/
def biasedExponent (d : Decimal) : Nat :=
  ((d.bits >>> 52) &&& 0x7ff).toNat

/-- The fifty-two bits of the fraction. -/
def fraction (d : Decimal) : Nat :=
  (d.bits &&& 0x000fffffffffffff).toNat

/-- Whether the bits stand for no number. -/
def isNaN (d : Decimal) : Bool :=
  d.biasedExponent == 0x7ff && d.fraction != 0

/-- Whether the bits stand for an infinity. -/
def isInfinite (d : Decimal) : Bool :=
  d.biasedExponent == 0x7ff && d.fraction == 0

/-- Whether the bits stand for one of the two zeros. -/
def isZero (d : Decimal) : Bool :=
  d.biasedExponent == 0 && d.fraction == 0

/-- The bits by which decimals are compared. -/
def canonical (d : Decimal) : UInt64 :=
  if d.isNaN then 0x7ff8000000000000 else if d.isZero then 0 else d.bits

end Decimal

end OpenAddressing
