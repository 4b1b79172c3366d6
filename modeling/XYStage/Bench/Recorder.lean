/-
# XYStage.Bench.Recorder -- axis hardware that records its calls

The record of a run is a list of lines, one for each call; calls that only
change the step rate, one right after another, share a line with the last rate
and their number (`transcript`).
-/
import XYStage.Bench.Name
import XYStage.Controller.Axes

namespace XYStage

set_option autoImplicit false

/-- Hardware with switch levels set from outside, which keeps the calls made to it
and the interrupt sources they leave disabled. -/
structure Recorder where
  levels : Switches Bool
  masked : InterruptSet
  /-- The calls so far, the last first. -/
  calls : List HardwareCall

namespace Recorder

def new (levels : Switches Bool) : Recorder := ⟨levels, .empty, []⟩

def perform (call : HardwareCall) (r : Recorder) : Recorder :=
  let masked :=
    match call with
    | .disable source => r.masked.insert source
    | .enable source => r.masked.erase source
    | _ => r.masked
  { r with masked, calls := call :: r.calls }

instance : AxisHardware Recorder where
  perform := perform
  homeLevel r := r.levels.home
  farLevel r := r.levels.far

/-- The calls in the order they were made, and the recorder without them. -/
def take (r : Recorder) : List HardwareCall × Recorder :=
  (r.calls.reverse, { r with calls := [] })

end Recorder

/-! ## Transcripts -/

/-- One call as a line. -/
def HardwareCall.text : HardwareCall → String
  | .disable source => "disable " ++ Named.name source
  | .enable source => "enable " ++ Named.name source
  | .steer direction => "set_direction " ++ Named.name direction
  | .startSteps rate => "start_step_timer " ++ toString rate.toNat
  | .changeRate rate => "set_step_rate " ++ toString rate.toNat
  | .stopSteps => "stop_step_timer"
  | .startRamp period => "start_accel_timer " ++ toString period.toNat
  | .stopRamp => "stop_accel_timer"

/-- The line of `count` changes of the step rate, the last of them to `rate`. -/
def rateLine (rate : UInt32) (count : Nat) : String :=
  (HardwareCall.changeRate rate).text ++ " x" ++ toString count

/-- The lines of calls, after `count` changes of the step rate to `rate` at
last. -/
def transcriptAfter (rate : UInt32) (count : Nat) : List HardwareCall → List String
  | [] => if count = 0 then [] else [rateLine rate count]
  | .changeRate rate :: rest => transcriptAfter rate (count + 1) rest
  | call :: rest =>
      (if count = 0 then [] else [rateLine rate count]) ++ call.text :: transcriptAfter 0 0 rest

/-- The lines of calls. -/
def transcript (calls : List HardwareCall) : List String :=
  transcriptAfter 0 0 calls

/-- The lines of the calls so far, and the axis without them. -/
def Axis.takeTranscript (a : Axis Recorder) : List String × Axis Recorder :=
  let (calls, hardware) := a.hardware.take
  (transcript calls, { a with hardware })

/-- The lines of the calls so far of either axis, and the axes without them. -/
def Axes.takeTranscripts (axes : Axes Recorder) : List (List String) × Axes Recorder :=
  let (linesX, x) := axes.x.takeTranscript
  let (linesY, y) := axes.y.takeTranscript
  ([linesX, linesY], { x, y })

end XYStage
