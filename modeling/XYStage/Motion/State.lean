/-
# XYStage.Motion.State -- the state of one axis

A motion passes through its segments in order. Each segment's target is its
planned length from the position where it begins, corrected by what the segment
before it fell short or ran over (`AxisState.enter`); segments that are already
complete are passed through (`AxisState.leave`). Targets are clamped to the range
of positions, while positions wrap.

A switch edge less than `debounceWindow` after the last accepted edge of the same
switch is bounce (`AxisState.debouncing`).
-/
import XYStage.Motion.Trapezoid

namespace XYStage

set_option autoImplicit false

/-- Highest step rate, in steps per second. -/
def topStepRate : UInt32 := 50000

/-- Milliseconds after an accepted edge during which further edges are bounce. -/
def debounceWindow : UInt32 := 5

/-- A limit switch of an axis. -/
inductive LimitSwitch where
  /-- At the zero of the axis. -/
  | home
  /-- At the opposite end. -/
  | far
  deriving DecidableEq

/-- The switch that blocks travel in a direction. -/
def LimitSwitch.facing : Direction → LimitSwitch
  | .positive => .far
  | .negative => .home

/-- One value for each limit switch. -/
structure Switches (α : Type) where
  home : α
  far : α
  deriving DecidableEq

namespace Switches

variable {α : Type}

def get (switch : LimitSwitch) (s : Switches α) : α :=
  match switch with
  | .home => s.home
  | .far => s.far

def set (switch : LimitSwitch) (value : α) (s : Switches α) : Switches α :=
  match switch with
  | .home => { s with home := value }
  | .far => { s with far := value }

end Switches

/-- The state of one axis. -/
structure AxisState where
  moving : Bool
  /-- Debounced flags of the limit switches. -/
  pressed : Switches Bool
  /-- Step rate in counts per second. -/
  velocity : UInt32
  segment : Segment
  /-- Encoder position in counts. -/
  position : Int32
  /-- Position at which the active segment ends. -/
  target : Int32
  direction : Direction
  profile : Trapezoid
  /-- Lowest velocity while decelerating. -/
  startVelocity : UInt32
  /-- Highest velocity while accelerating. -/
  topVelocity : UInt32
  /-- Whether the release of the home switch stops the motion. -/
  endsOnRelease : Bool
  /-- Time of the last accepted edge of each switch. -/
  lastEdge : Switches (Option UInt32)
  /-- Whether an edge has been ignored since the last accepted one. -/
  missedEdge : Switches Bool
  deriving DecidableEq

/-- The position nearest to an arbitrary count. -/
def clampPosition (count : Int) : Int32 :=
  Int32.ofInt (max (-2147483648) (min count 2147483647))

/-- The segments after this one, in order. -/
def Segment.following : Segment → List Segment
  | .accelerate => [.hold, .decelerate]
  | .hold => [.decelerate]
  | .decelerate => []

namespace AxisState

/-- At rest at zero, with no switch seen yet. -/
def initial : AxisState where
  moving := false
  pressed := ⟨false, false⟩
  velocity := 0
  segment := .accelerate
  position := 0
  target := 0
  direction := .positive
  profile := .zero
  startVelocity := 0
  topVelocity := 0
  endsOnRelease := false
  lastEdge := ⟨none, none⟩
  missedEdge := ⟨false, false⟩

/-- The position `length` counts ahead. -/
def ahead (s : AxisState) (length : UInt32) : Int32 :=
  clampPosition (s.position.toInt + s.direction.sign.toInt * length.toNat)

/-- Whether the position has reached or passed the target. -/
def segmentDone (s : AxisState) : Bool :=
  decide ((s.target.toInt - s.position.toInt) * s.direction.sign.toInt ≤ 0)

/-- Begin the next segment, carrying what the one before fell short or ran
over. -/
def enter (next : Segment) (s : AxisState) : AxisState :=
  let carry := s.target.toInt - s.position.toInt
  let planned := s.ahead (s.profile.lengthOf next)
  { s with segment := next, target := clampPosition (planned.toInt + carry) }

/-- Begin segments in turn until one is not already complete. The flag tells
whether there was one. -/
def enterThrough : List Segment → AxisState → Bool × AxisState
  | [], s => (false, s)
  | next :: rest, s =>
      let s := s.enter next
      if s.segmentDone then enterThrough rest s else (true, s)

/-- Leave a complete segment for the next that is not. The flag is false when
the last segment is complete. -/
def leave (s : AxisState) : Bool × AxisState :=
  enterThrough s.segment.following s

/-- Begin the first segment that is not already complete. -/
def enterFirst (s : AxisState) : AxisState :=
  let s := { s with segment := .accelerate, target := s.ahead s.profile.rampUp }
  if s.segmentDone then s.leave.2 else s

/-- The state in which a motion begins. -/
def begin (motion : Motion) (profile : Trapezoid) (s : AxisState) : AxisState :=
  let startVelocity := min motion.startVelocity topStepRate
  let s := { s with
    direction := motion.direction
    profile
    startVelocity
    topVelocity := min motion.holdVelocity topStepRate
    velocity := startVelocity
    endsOnRelease := false }
  { s.enterFirst with moving := true }

/-- The velocity after a ramp tick, if the tick changes it. -/
def nextVelocity? (s : AxisState) : Option UInt32 :=
  if !s.moving then none
  else
    match s.segment with
    | .accelerate => if s.velocity < s.topVelocity then some (s.velocity + 1) else none
    | .hold => none
    | .decelerate => if s.startVelocity < s.velocity then some (s.velocity - 1) else none

/-- Whether a moment falls into the debounce window of a switch. -/
def debouncing (switch : LimitSwitch) (now : UInt32) (s : AxisState) : Bool :=
  match s.lastEdge.get switch with
  | some last => decide (now - last < debounceWindow)
  | none => false

end AxisState

end XYStage
