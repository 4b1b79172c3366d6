/-
# XYStage.Ieee.Shortest -- the shortest decimal that reads back

The numbers that round to a given `Single` fill the interval between the
midpoints to its two neighbours (`Single.lowerBound`, `Single.upperBound`), ends
included exactly when its pattern is even. `Single.shortest` looks, for one digit,
then two, and so on, at the two decimals of that many digits around the value,
and takes the first that lies in the interval; of two, the nearer, and the upper
one on a tie.

Nine digits always suffice, so the search is bounded by nine.
-/
import XYStage.Ieee.Single

namespace XYStage

set_option autoImplicit false

/-- The number `digits * 10 ^ exponent`. -/
structure Decimal where
  digits : Nat
  exponent : Int
  deriving DecidableEq

/-- The same number without trailing zeros in its digits. -/
def Decimal.trimmed (d : Decimal) : Decimal :=
  if d.digits = 0 ∨ d.digits % 10 ≠ 0 then d
  else Decimal.trimmed ⟨d.digits / 10, d.exponent + 1⟩
termination_by d.digits

namespace Single

open Ieee (binary32)

/-- The lower end of the interval that rounds to `x`, in half units. -/
def lowerBound (x : Single) : Nat :=
  binary32.magnitude (x.pattern - 1) + x.magnitude

/-- The upper end of the interval that rounds to `x`, in half units. -/
def upperBound (x : Single) : Nat :=
  x.magnitude + binary32.magnitude (x.pattern + 1)

/-- Whether `n / d` half units round to `x`. -/
def covers (x : Single) (n d : Nat) : Bool :=
  if x.pattern % 2 = 0 then
    decide (x.lowerBound * d ≤ n) && decide (n ≤ x.upperBound * d)
  else
    decide (x.lowerBound * d < n) && decide (n < x.upperBound * d)

/-- The exponent of ten of the leading digit of a nonzero number. Its sixtieth
decimal is significant, so counting the digits before it suffices. -/
def leadingExponent (x : Single) : Int :=
  ((Nat.toDigits 10 (x.magnitude * Nat.pow 10 60 / binary32.one)).length : Int) - 61

/-- The decimal nearest to `x` among the two neighbours of `x` with the given
exponent that round to `x`, if one does. -/
def neighbour? (x : Single) (exponent : Int) : Option Decimal :=
  let n := 2 * x.magnitude * Nat.pow 10 (-exponent).toNat
  let d := 2 * binary32.one * Nat.pow 10 exponent.toNat
  let below := n / d
  let inside (digits : Nat) : Bool :=
    x.covers (2 * binary32.one * digits * Nat.pow 10 exponent.toNat)
      (Nat.pow 10 (-exponent).toNat)
  let preferAbove := decide (d ≤ 2 * (n % d))
  if inside (below + 1) && (preferAbove || !inside below) then some ⟨below + 1, exponent⟩
  else if inside below then some ⟨below, exponent⟩
  else none

/-- The decimal of fewest digits that rounds to the absolute value of `x`, for a
finite nonzero `x`. -/
def shortest (x : Single) : Decimal :=
  let search := (List.range 9).findSome? fun (extra : Nat) =>
    x.neighbour? (x.leadingExponent - extra)
  (search.getD ⟨0, 0⟩).trimmed

end Single

end XYStage
