/-
# XYStage.Ieee.Double -- double-precision numbers as configuration values

Board configuration files hold doubles. They are only ever tested for finiteness
and narrowed to single precision (`Double.toSingle`), by one rounding of the
exact value; whole numbers pass through double precision on the way
(`Double.ofInt`).
-/
import XYStage.Ieee.Single

namespace XYStage

set_option autoImplicit false

/-- A double-precision number, as its bit pattern. -/
structure Double where
  bits : UInt64
  deriving DecidableEq

namespace Double

open Ieee (binary32 binary64)

def negative (x : Double) : Bool :=
  decide (0x8000000000000000 ≤ x.bits)

/-- The pattern without its sign bit. -/
def pattern (x : Double) : Nat :=
  x.bits.toNat % binary64.signWeight

def isFinite (x : Double) : Bool :=
  decide (x.pattern < binary64.infinity)

def isInfinite (x : Double) : Bool :=
  decide (x.pattern = binary64.infinity)

/-- The absolute value, in units of double precision. -/
def magnitude (x : Double) : Nat :=
  binary64.magnitude x.pattern

/-- The double nearest to a whole number. -/
def ofInt (i : Int) : Double :=
  ⟨UInt64.ofNat ((if i < 0 then binary64.signWeight else 0) +
    binary64.round (i.natAbs * binary64.one) 1)⟩

/-- The single nearest to a double; what is too large becomes infinite. -/
def toSingle (x : Double) : Single :=
  if x.isFinite then Single.ofQuotient x.negative (x.magnitude * binary32.one) binary64.one
  else if x.isInfinite then Single.infinity x.negative
  else Single.nan

end Double

end XYStage
