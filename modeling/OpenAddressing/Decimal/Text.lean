import OpenAddressing.Decimal.Shortest

/-!
# The text of a decimal

Decimals are written with their shortest digits, in one of two styles: `plain` is positional
throughout, and `detailed` always shows a decimal point and turns to an exponent for very large
and very small numbers.
-/

namespace OpenAddressing

namespace Decimal

/-- How the digits of a decimal are laid out. -/
structure Style where
  /-- Whether a whole number is written with a zero behind the point. -/
  pointZero : Bool
  /-- Whether a number is written with an exponent, by the place of its decimal point. -/
  withExponent : Int → Bool

/-- Positional, without a decimal point in whole numbers. -/
def plain : Style where
  pointZero := false
  withExponent _ := false

/-- With a decimal point, and with an exponent below `1e-4` and from `1e16` on. -/
def detailed : Style where
  pointZero := true
  withExponent point := point < -3 || 16 < point

namespace Digits

/-- The digits around a decimal point, filled up with zeros. -/
def positional (d : Digits) (pointZero : Bool) : String :=
  let whole := d.digits.take d.point.toNat
  let zerosAfter := List.replicate (d.point.toNat - d.digits.length) '0'
  let zerosBefore := List.replicate (-d.point).toNat '0'
  let part := zerosBefore ++ d.digits.drop d.point.toNat
  let front := String.ofList (if whole.isEmpty then ['0'] else whole ++ zerosAfter)
  if part.isEmpty then
    if pointZero then front ++ ".0" else front
  else
    front ++ "." ++ String.ofList part

/-- One digit, the others behind a point if there are any, and the exponent. -/
def scientific (d : Digits) : String :=
  let front := String.ofList (d.digits.take 1)
  let part := d.digits.drop 1
  let mantissa := if part.isEmpty then front else front ++ "." ++ String.ofList part
  mantissa ++ "e" ++ toString (d.point - 1)

/-- The digits in the given style. -/
def text (d : Digits) (style : Style) : String :=
  if style.withExponent d.point then d.scientific else d.positional style.pointZero

end Digits

/-- The text of a decimal. What is not a number has no sign. -/
def text (d : Decimal) (style : Style) : String :=
  if d.isNaN then
    "NaN"
  else
    let sign := if d.isNegative then "-" else ""
    if d.isInfinite then
      sign ++ "inf"
    else if d.isZero then
      sign ++ if style.pointZero then "0.0" else "0"
    else
      sign ++ d.interval.shortest.text style

end Decimal

end OpenAddressing
