/-
# XYStage.Ieee.Single -- single-precision numbers by their bits

A `Single` is a thirty-two bit pattern. Keeping the pattern, rather than the
number it denotes, keeps the two zeros and the payloads of NaNs apart, which the
wire and the calibration image carry unchanged.

Every operation computes an exact signed number of units (`Single.units`, with
`2 ^ 149` units in one) and rounds once (`Single.ofQuotient`). Infinities take
part in comparisons through the magnitude that would follow the largest finite
one; arithmetic treats them by the usual rules, and every invalid operation
yields the one quiet NaN.
-/
import XYStage.Ieee.Format

namespace XYStage

set_option autoImplicit false

/-- A single-precision number, as its bit pattern. -/
structure Single where
  bits : UInt32
  deriving DecidableEq

namespace Single

open Ieee (binary32)

/-- Whether the sign bit is set; true also of negative zero. -/
def negative (x : Single) : Bool :=
  decide (0x80000000 ≤ x.bits)

/-- The pattern without its sign bit. -/
def pattern (x : Single) : Nat :=
  x.bits.toNat % binary32.signWeight

def isNaN (x : Single) : Bool :=
  decide (binary32.infinity < x.pattern)

def isInfinite (x : Single) : Bool :=
  decide (x.pattern = binary32.infinity)

def isFinite (x : Single) : Bool :=
  decide (x.pattern < binary32.infinity)

def isZero (x : Single) : Bool :=
  decide (x.pattern = 0)

/-- The absolute value in units. -/
def magnitude (x : Single) : Nat :=
  binary32.magnitude x.pattern

/-- The value in units. -/
def units (x : Single) : Int :=
  if x.negative then -(x.magnitude : Int) else x.magnitude

/-- A number from its sign and the rest of its pattern. -/
def ofPattern (negative : Bool) (pattern : Nat) : Single :=
  ⟨UInt32.ofNat ((if negative then binary32.signWeight else 0) + pattern)⟩

/-- The number nearest to `n / d` units with the given sign. -/
def ofQuotient (negative : Bool) (n d : Nat) : Single :=
  ofPattern negative (binary32.round n d)

/-- The result of an invalid operation. -/
def nan : Single := ⟨0x7fc00000⟩

def infinity (negative : Bool) : Single :=
  ofPattern negative binary32.infinity

def zero (negative : Bool) : Single :=
  ofPattern negative 0

/-- The number nearest to a whole number. -/
def ofInt (i : Int) : Single :=
  ofQuotient (decide (i < 0)) (i.natAbs * binary32.one) 1

instance (n : Nat) : OfNat Single n := ⟨ofInt n⟩

/-- Decimal literals denote the nearest number. -/
instance : OfScientific Single where
  ofScientific digits negativeExponent exponent :=
    if negativeExponent then ofQuotient false (digits * binary32.one) (Nat.pow 10 exponent)
    else ofQuotient false (digits * Nat.pow 10 exponent * binary32.one) 1

/-- A 32-bit count as a number, rounded where it needs more than 24 bits. -/
def ofUInt32 (n : UInt32) : Single :=
  ofInt n.toNat

/-! ## Comparison -/

/-- Numeric equality: the two zeros are equal, and a NaN equals nothing. -/
def equals (x y : Single) : Bool :=
  !x.isNaN && !y.isNaN && decide (x.units = y.units)

instance : LT Single := ⟨fun x y => x.isNaN = false ∧ y.isNaN = false ∧ x.units < y.units⟩

instance : LE Single := ⟨fun x y => x.isNaN = false ∧ y.isNaN = false ∧ x.units ≤ y.units⟩

instance (x y : Single) : Decidable (x < y) :=
  inferInstanceAs (Decidable (x.isNaN = false ∧ y.isNaN = false ∧ x.units < y.units))

instance (x y : Single) : Decidable (x ≤ y) :=
  inferInstanceAs (Decidable (x.isNaN = false ∧ y.isNaN = false ∧ x.units ≤ y.units))

/-! ## Arithmetic -/

def neg (x : Single) : Single :=
  ofPattern (!x.negative) x.pattern

def abs (x : Single) : Single :=
  ofPattern false x.pattern

/-- A zero sum is negative only when both terms are. -/
def add (x y : Single) : Single :=
  if x.isNaN || y.isNaN then nan
  else if x.isInfinite then
    if y.isInfinite && x.negative != y.negative then nan else x
  else if y.isInfinite then y
  else
    let sum := x.units + y.units
    if sum = 0 then zero (x.negative && y.negative)
    else ofQuotient (decide (sum < 0)) sum.natAbs 1

def sub (x y : Single) : Single :=
  x.add y.neg

def mul (x y : Single) : Single :=
  let negative := x.negative != y.negative
  if x.isNaN || y.isNaN then nan
  else if x.isInfinite || y.isInfinite then
    if x.isZero || y.isZero then nan else infinity negative
  else ofQuotient negative (x.magnitude * y.magnitude) binary32.one

def div (x y : Single) : Single :=
  let negative := x.negative != y.negative
  if x.isNaN || y.isNaN then nan
  else if x.isInfinite then
    if y.isInfinite then nan else infinity negative
  else if y.isInfinite then zero negative
  else if y.isZero then
    if x.isZero then nan else infinity negative
  else ofQuotient negative (x.magnitude * binary32.one) y.magnitude

instance : Neg Single := ⟨neg⟩

instance : Add Single := ⟨add⟩

instance : Sub Single := ⟨sub⟩

instance : Mul Single := ⟨mul⟩

instance : Div Single := ⟨div⟩

/-! ## Whole numbers -/

/-- The integer part of the absolute value of a finite number. -/
def integerPart (x : Single) : Nat :=
  x.magnitude / binary32.one

/-- The integer part as a 32-bit count: negative numbers and NaN give zero, and
what is too large gives the largest count. -/
def toUInt32 (x : Single) : UInt32 :=
  if x.isNaN || x.negative then 0
  else UInt32.ofNat (min x.integerPart 0xffffffff)

end Single

end XYStage
