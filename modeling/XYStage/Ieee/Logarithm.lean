/-
# XYStage.Ieee.Logarithm -- the natural logarithm in single precision

A positive number is `2 ^ k * (1 + f)` with `1 + f` between `√2 / 2` and `√2`
(`Single.reduced`). With `s = f / (2 + f)`, `log (1 + f)` is `2 s` plus odd powers
of `s`; the even polynomial `Single.seriesTail` in `s` stands for those powers to
within `2 ^ -34`. `k * log 2` is added in two parts, of which the high one is
exact, so that little is lost to cancellation.
-/
import XYStage.Ieee.Single

namespace XYStage

set_option autoImplicit false

namespace Single

/-- The pattern of `√2 / 2`. -/
def rootHalfBits : UInt32 := 0x3f3504f3

/-- The power of two and the remaining factor, in `[√2 / 2, √2)`, of a positive
finite number. A subnormal is scaled up first. -/
def reduced (x : Single) : Int × Single :=
  let scaled : Int × UInt32 :=
    if x.bits < 0x00800000 then (-25, (x * 33554432).bits) else (0, x.bits)
  let shifted := scaled.2 + (0x3f800000 - rootHalfBits)
  (scaled.1 + ((shifted >>> 23).toNat : Int) - 127, ⟨(shifted &&& 0x007fffff) + rootHalfBits⟩)

/-- The even polynomial that stands for the higher powers in the series of
`log (1 + f)`, at `z = s * s`. -/
def seriesTail (z : Single) : Single :=
  let w := z * z
  z * (0.66666662693 + w * 0.28498786688) + w * (0.40000972152 + w * 0.24279078841)

/-- The natural logarithm. Zero gives negative infinity and a negative number
NaN. -/
def ln (x : Single) : Single :=
  if x.isZero then infinity true
  else if x.isNaN || x.negative then nan
  else if x.isInfinite then x
  else if x = 1 then zero false
  else
    let (power, factor) := x.reduced
    let k := ofInt power
    let f := factor - 1
    let s := f / (2 + f)
    let halfSquare := 0.5 * f * f
    s * (halfSquare + seriesTail (s * s)) + k * 9.0580006145e-6 - halfSquare + f
      + k * 0.69313812256

end Single

end XYStage
