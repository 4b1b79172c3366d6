/-
# XYStage.Interrupt -- interrupt sources of an axis and their masking

Axis state is shared with interrupt handlers. Exclusion comes from disabling the
sources that touch the state, changing it, and enabling them again:
`InterruptControl.mask` disables a set of sources in order, and `Masked.release`
enables the same sources in the same order, whether or not they were enabled
before.
-/

namespace XYStage

set_option autoImplicit false

/-- An interrupt source that changes axis state. -/
inductive InterruptSource where
  /-- Encoder edge. -/
  | encoder
  /-- Step-rate timer. -/
  | stepTimer
  /-- Ramp timer, which paces changes of the step rate. -/
  | rampTimer
  /-- Home limit switch edge. -/
  | homeSwitch
  /-- Far limit switch edge. -/
  | farSwitch
  deriving DecidableEq

namespace InterruptSource

/-- Every source, in bit order. -/
def all : List InterruptSource := [.encoder, .stepTimer, .rampTimer, .homeSwitch, .farSwitch]

/-- The bit of a source in a set. -/
def bit : InterruptSource → UInt8
  | .encoder => 1
  | .stepTimer => 2
  | .rampTimer => 4
  | .homeSwitch => 8
  | .farSwitch => 16

end InterruptSource

/-- A set of interrupt sources, as the sum of their bits. -/
structure InterruptSet where
  bits : UInt8
  deriving DecidableEq

namespace InterruptSet

def empty : InterruptSet := ⟨0⟩

def insert (source : InterruptSource) (set : InterruptSet) : InterruptSet :=
  ⟨set.bits ||| source.bit⟩

def erase (source : InterruptSource) (set : InterruptSet) : InterruptSet :=
  ⟨set.bits &&& ~~~source.bit⟩

def contains (source : InterruptSource) (set : InterruptSet) : Bool :=
  decide (set.bits &&& source.bit ≠ 0)

/-- The sources of the set, in bit order. -/
def toList (set : InterruptSet) : List InterruptSource :=
  InterruptSource.all.filter (set.contains ·)

/-- Everything that advances a motion. -/
def motion : InterruptSet := empty.insert .encoder |>.insert .rampTimer

/-- Both timers. -/
def timers : InterruptSet := empty.insert .stepTimer |>.insert .rampTimer

/-- Both limit switches. -/
def switches : InterruptSet := empty.insert .homeSwitch |>.insert .farSwitch

end InterruptSet

/-- Control over the interrupt sources of one axis. -/
class InterruptControl (κ : Type) where
  disable : InterruptSource → κ → κ
  enable : InterruptSource → κ → κ

/-- A controller with a set of its sources held disabled. -/
structure Masked (κ : Type) where
  control : κ
  set : InterruptSet

namespace InterruptControl

variable {κ : Type} [InterruptControl κ]

/-- Disable the sources of `set`, to be released later. -/
def mask (set : InterruptSet) (control : κ) : Masked κ :=
  ⟨set.toList.foldl (fun control source => disable source control) control, set⟩

end InterruptControl

/-- Enable the sources held disabled. -/
def Masked.release {κ : Type} [InterruptControl κ] (m : Masked κ) : κ :=
  m.set.toList.foldl (fun control source => InterruptControl.enable source control) m.control

end XYStage
