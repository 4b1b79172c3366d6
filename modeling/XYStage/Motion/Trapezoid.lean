/-
# XYStage.Motion.Trapezoid -- trapezoidal velocity profiles

A motion has three segments measured in encoder counts: accelerate from the
start velocity to the hold velocity, hold it, and decelerate back. The two ramps
have the same length. Where they do not fit, each takes half of the distance,
and an odd count left over becomes a hold of one count, so that the three
segments always add up to the distance.
-/
import XYStage.Wire.Code

namespace XYStage

set_option autoImplicit false

/-- Why no profile exists. -/
inductive PlanError where
  /-- Zero acceleration, and a hold velocity other than the start velocity. -/
  | zeroAcceleration
  deriving DecidableEq

def PlanError.message : PlanError → String
  | .zeroAcceleration => "zero acceleration with a velocity change"

/-- The lengths of the three segments, in counts. -/
structure Trapezoid where
  rampUp : UInt32
  cruise : UInt32
  rampDown : UInt32
  deriving DecidableEq

namespace Trapezoid

def zero : Trapezoid := ⟨0, 0, 0⟩

/-- The sum of the three segments. -/
def total (p : Trapezoid) : UInt64 :=
  p.rampUp.toUInt64 + p.cruise.toUInt64 + p.rampDown.toUInt64

/-- The length of one segment. -/
def lengthOf (p : Trapezoid) : Segment → UInt32
  | .accelerate => p.rampUp
  | .hold => p.cruise
  | .decelerate => p.rampDown

/-- Two ramps of the same length, and a hold for the rest of `total`. -/
def withRamp (ramp total : UInt32) : Trapezoid :=
  ⟨ramp, total - 2 * ramp, ramp⟩

/-- The counts needed to change velocity between `vStart` and `vHold`. -/
def rampLength (acceleration vStart vHold : UInt32) : UInt64 :=
  (vHold.toUInt64 * vHold.toUInt64 - vStart.toUInt64 * vStart.toUInt64) /
    (2 * acceleration.toUInt64)

/-- The profile over `total` counts at `acceleration` counts per second squared,
between `vStart` and `vHold` counts per second. A hold velocity not above the
start velocity needs no ramps. -/
def plan (acceleration vStart vHold total : UInt32) : Except PlanError Trapezoid :=
  if acceleration = 0 ∧ vHold ≠ vStart then .error .zeroAcceleration
  else if vHold ≤ vStart then .ok (withRamp 0 total)
  else
    let ramp := rampLength acceleration vStart vHold
    if total.toUInt64 < 2 * ramp then .ok (withRamp (total / 2) total)
    else .ok (withRamp ramp.toUInt32 total)

end Trapezoid

/-- One commanded motion of one axis. -/
structure Motion where
  direction : Direction
  /-- Signed distance in counts; its sign must agree with `direction`. -/
  distance : Int32
  /-- Counts per second squared. -/
  acceleration : UInt32
  /-- Counts per second. -/
  startVelocity : UInt32
  /-- Counts per second. -/
  holdVelocity : UInt32
  deriving DecidableEq

namespace Motion

/-- The number of counts to travel. -/
def length (m : Motion) : UInt32 :=
  UInt32.ofNat m.distance.toInt.natAbs

/-- The profile over the length of the motion. -/
def profile (m : Motion) : Except PlanError Trapezoid :=
  Trapezoid.plan m.acceleration m.startVelocity m.holdVelocity m.length

/-- Whether the sign of the distance agrees with the direction. A zero distance
agrees with neither. -/
def directionAgrees (m : Motion) : Bool :=
  decide (m.distance.toInt.sign = m.direction.sign.toInt)

end Motion

end XYStage
