/-
# XYStage.Status -- the operating mode of the device

The status is a function of the previous status and an event (`Status.next`).
Homing runs in two phases: both axes seek their home switches, then retract until
the switches release. A fault ends only with a stop.
-/
import XYStage.Wire.Code

namespace XYStage

set_option autoImplicit false

/-- Phase of the homing sequence. -/
inductive HomingPhase where
  /-- Driving both axes toward their home switches. -/
  | seek
  /-- Backing off until the home switches release. -/
  | retract
  deriving DecidableEq

/-- Why the device is faulted. -/
inductive Fault where
  /-- A move ended with a limit switch pressed. -/
  | unexpectedLimit
  /-- The home switches were not as homing expects them. -/
  | homing
  deriving DecidableEq

/-- The operating mode. -/
inductive Status where
  | idle
  | homing (phase : HomingPhase)
  /-- At least one move is running. -/
  | moving
  | fault (kind : Fault)
  deriving DecidableEq

/-- Limit flags over both axes. -/
structure LimitFlags where
  /-- Some switch of some axis is pressed. -/
  anyLimit : Bool
  /-- The home switch of every axis is pressed. -/
  allHome : Bool
  /-- The home switch of some axis is pressed. -/
  anyHome : Bool
  deriving DecidableEq

/-- What can change the status. -/
inductive StatusEvent where
  /-- An axis accepted a move. -/
  | moveStarted
  /-- The host asked for homing. -/
  | homingStarted
  /-- No axis is moving, and the limit flags are these. -/
  | rested (limits : LimitFlags)
  /-- The host asked to stop. -/
  | stopped
  deriving DecidableEq

namespace Status

def code : Status → StatusCode
  | .idle => .idle
  | .homing _ => .homing
  | .moving => .moving
  | .fault _ => .fault

/-- Whether a move may start. -/
def allowsMove (s : Status) : Bool :=
  decide (s = .idle ∨ s = .moving)

def isFaulted : Status → Bool
  | .fault _ => true
  | _ => false

/-- The status once no axis is moving. -/
def atRest (limits : LimitFlags) : Status → Status
  | .moving => if limits.anyLimit then .fault .unexpectedLimit else .idle
  | .homing .seek => if limits.allHome then .homing .retract else .fault .homing
  | .homing .retract => if limits.anyHome then .fault .homing else .idle
  | status => status

/-- The status after an event. -/
def next (event : StatusEvent) (s : Status) : Status :=
  match event with
  | .stopped => .idle
  | .moveStarted => if s.allowsMove then .moving else s
  | .homingStarted => if s = .idle then .homing .seek else s
  | .rested limits => s.atRest limits

end Status

end XYStage
