import OpenAddressing.Decimal.Basic
import OpenAddressing.Word

/-!
# The shortest digits of a decimal

A finite decimal is `m * 2 ^ q`, and the reals that round to it form an interval around it that
contains its ends exactly if `m` is even. The digits of the decimal are found on the coarsest
power-of-ten grid that has a point in the interval: it is enough to try the two grid points next
to the number. If both lie inside, the nearer one is taken, and the larger one if they are
equally near.
-/

namespace OpenAddressing

namespace Decimal

/-- A positive number with the interval of the reals that round to it. The number is
`value * num / den`, and the interval reaches from `low * num / den` to `high * num / den`. -/
structure Interval where
  low : Nat
  value : Nat
  high : Nat
  num : Nat
  den : Nat
  /-- Whether the ends belong to the interval. -/
  closed : Bool
  deriving Repr

/-- A positive number `0.d₁d₂d₃… * 10 ^ point`, whose last digit is not zero. -/
structure Digits where
  digits : List Char
  point : Int
  deriving Repr, DecidableEq

/-- The interval of a finite decimal other than zero, without its sign. Ends lie half way to the
neighbours, of which the lower one is nearer than the upper one at a power of two. -/
def interval (d : Decimal) : Interval :=
  let m := if d.biasedExponent == 0 then d.fraction else 2 ^ (52 : Nat) + d.fraction
  let quarter : Int := max d.biasedExponent 1 - 1077
  let atPowerOfTwo := d.fraction == 0 && 1 < d.biasedExponent
  { low := 4 * m - if atPowerOfTwo then 1 else 2
    value := 4 * m
    high := 4 * m + 2
    num := 2 ^ quarter.toNat
    den := 2 ^ (-quarter).toNat
    closed := m % 2 == 0 }

namespace Interval

/-- The number of digits that the number has before the decimal point, or the negated number of
zeros it has behind the point before its first digit. -/
def magnitude (i : Interval) : Int :=
  (Nat.toDigits 10 (i.value * i.num * 10 ^ (350 : Nat) / i.den)).length - (350 : Int)

/-- The factor by which a point of the interval is wanted from the grid `10 ^ g`, if the grid
has a point in the interval. -/
def onGrid? (i : Interval) (g : Int) : Option Nat :=
  let unit := i.num * 10 ^ (-g).toNat
  let step := i.den * 10 ^ g.toNat
  let inside (c : Nat) : Bool :=
    if i.closed then i.low * unit ≤ c * step && c * step ≤ i.high * unit
    else i.low * unit < c * step && c * step < i.high * unit
  let below := i.value * unit / step
  let above := below + 1
  if inside below then
    if inside above && above * step - i.value * unit ≤ i.value * unit - below * step then
      some above
    else
      some below
  else if inside above then
    some above
  else
    none

/-- The digits of `c * 10 ^ g`. -/
def digitsOf (c : Nat) (g : Int) : Digits :=
  let all := Nat.toDigits 10 c
  { digits := (all.reverse.dropWhile (· == '0')).reverse
    point := all.length + g }

/-- The digits on the coarsest grid that has a point in the interval. Seventeen digits are always
enough. -/
def shortest (i : Interval) : Digits :=
  let found := (List.range' 1 17).findSome? fun (count : Nat) =>
    let g := i.magnitude - count
    (i.onGrid? g).map (digitsOf · g)
  found.getD ⟨[], 0⟩

end Interval

end Decimal

end OpenAddressing
