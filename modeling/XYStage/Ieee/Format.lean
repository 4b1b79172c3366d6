/-
# XYStage.Ieee.Format -- binary interchange formats over exact arithmetic

A binary format is given by the widths of its exponent and fraction fields.
Every finite magnitude of a format is a whole number of its smallest positive
value, the *unit*, so magnitudes are naturals here (`Format.magnitude`), and a
quotient of naturals stands for any exact result measured in units.
`Format.round` picks the field pattern nearest to such a quotient, ties to even,
once and for all operations.

The pattern of a magnitude below `2 ^ (fractionBits + 1)` units is the magnitude
itself, and each further doubling of the magnitude adds one to the exponent
field; `round` is those two facts read backwards.
-/

namespace XYStage

set_option autoImplicit false

/-- The whole number nearest to `n / d`; a tie goes to the even neighbour. -/
def roundQuotient (n d : Nat) : Nat :=
  if 2 * (n % d) < d then n / d
  else if d < 2 * (n % d) then n / d + 1
  else if n / d % 2 = 0 then n / d
  else n / d + 1

namespace Ieee

/-- The field widths of a binary interchange format. -/
structure Format where
  exponentBits : Nat
  fractionBits : Nat

/-- Thirty-two bits: one of sign, eight of exponent, twenty-three of fraction. -/
def binary32 : Format := ⟨8, 23⟩

/-- Sixty-four bits: one of sign, eleven of exponent, fifty-two of fraction. -/
def binary64 : Format := ⟨11, 52⟩

namespace Format

/-- The unit is `2 ^ -unitExponent`, the least positive value of the format. -/
def unitExponent (f : Format) : Nat :=
  Nat.pow 2 (f.exponentBits - 1) - 2 + f.fractionBits

/-- The number of units in one. -/
def one (f : Format) : Nat :=
  Nat.pow 2 f.unitExponent

/-- What one in the exponent field adds to a pattern. -/
def fractionWeight (f : Format) : Nat :=
  Nat.pow 2 f.fractionBits

/-- The pattern of infinity without its sign; the patterns above it are NaNs. -/
def infinity (f : Format) : Nat :=
  (Nat.pow 2 f.exponentBits - 1) * f.fractionWeight

/-- The weight of the sign bit. -/
def signWeight (f : Format) : Nat :=
  Nat.pow 2 (f.exponentBits + f.fractionBits)

/-- The magnitude, in units, of a pattern without its sign. At infinity this is
the magnitude that would follow the largest finite one. -/
def magnitude (f : Format) (pattern : Nat) : Nat :=
  let exponent := pattern / f.fractionWeight
  let fraction := pattern % f.fractionWeight
  if exponent = 0 then fraction
  else (f.fractionWeight + fraction) * Nat.pow 2 (exponent - 1)

/-- The pattern nearest to `n / d` units, ties to even. What would reach past
the largest finite magnitude becomes infinity. -/
def round (f : Format) (n d : Nat) : Nat :=
  let shift := Nat.log2 (n / d) - f.fractionBits
  min (shift * f.fractionWeight + roundQuotient n (d * Nat.pow 2 shift)) f.infinity

end Format

end Ieee

end XYStage
