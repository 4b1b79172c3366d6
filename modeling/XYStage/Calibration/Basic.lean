/-
# XYStage.Calibration.Basic -- calibration values under their keys

A calibration holds three motion parameters per axis and four constants per
thermistor channel. `Calibration.assign` checks a value before it takes it:
motion parameters are whole counts and drop the fraction of the number given,
coefficients must be finite, and a flag takes anything. `Calibration.ofStore`
overlays the defaults with what a store has, and `Calibration.toStore` writes
every value.
-/
import XYStage.Calibration.Setting
import XYStage.Wire.Code

namespace XYStage

set_option autoImplicit false

/-- The motion parameters of one axis. -/
structure AxisRates where
  /-- Counts per second squared. -/
  acceleration : UInt32
  /-- Counts per second. -/
  startVelocity : UInt32
  /-- Counts per second. -/
  homeVelocity : UInt32
  deriving DecidableEq

namespace AxisRates

def default : AxisRates := ⟨10, 50, 200⟩

def get (param : AxisParameter) (c : AxisRates) : UInt32 :=
  match param with
  | .acceleration => c.acceleration
  | .startVelocity => c.startVelocity
  | .homeVelocity => c.homeVelocity

def set (param : AxisParameter) (value : UInt32) (c : AxisRates) : AxisRates :=
  match param with
  | .acceleration => { c with acceleration := value }
  | .startVelocity => { c with startVelocity := value }
  | .homeVelocity => { c with homeVelocity := value }

end AxisRates

/-- The Steinhart-Hart coefficients of a thermistor channel, and whether it is in
use. -/
structure Thermistor where
  a : Single
  b : Single
  c : Single
  enabled : Bool
  deriving DecidableEq

namespace Thermistor

/-- A 100 kΩ thermistor, not in use. -/
def default : Thermistor := ⟨7.22e-4, 2.17e-4, 8.9e-8, false⟩

def get (param : ThermistorParameter) (t : Thermistor) : Setting :=
  match param with
  | .a => .number t.a
  | .b => .number t.b
  | .c => .number t.c
  | .enabled => .flag t.enabled

end Thermistor

/-- Why a value was not taken. -/
inductive RangeError where
  /-- Not a number, negative or too large for its parameter, or no such
  channel. -/
  | outOfRange
  deriving DecidableEq

def RangeError.message : RangeError → String
  | .outOfRange => "calibration value out of range"

/-- A number as whole counts, without its fraction. -/
def countRate (value : Single) : Except RangeError UInt32 :=
  if !value.isFinite || decide (value < 0) || decide (Single.ofUInt32 0xffffffff < value) then
    .error .outOfRange
  else .ok value.toUInt32

/-- Take a value for one parameter of a thermistor channel. -/
def Thermistor.assign (param : ThermistorParameter) (value : Setting) (t : Thermistor) :
    Except RangeError Thermistor :=
  match param with
  | .enabled => .ok { t with enabled := value.toBool }
  | .a => if value.toSingle.isFinite then .ok { t with a := value.toSingle } else .error .outOfRange
  | .b => if value.toSingle.isFinite then .ok { t with b := value.toSingle } else .error .outOfRange
  | .c => if value.toSingle.isFinite then .ok { t with c := value.toSingle } else .error .outOfRange

namespace ParameterKey

/-- Every key of a calibration: the axes, then the thermistor channels. -/
def all : List ParameterKey :=
  (AxisId.all.flatMap fun id => AxisParameter.all.map (.axis id)) ++
    ((List.range channelCount).flatMap fun sensor =>
      ThermistorParameter.all.map (.thermistor (UInt8.ofNat sensor)))

end ParameterKey

/-- All calibration values. -/
structure Calibration where
  x : AxisRates
  y : AxisRates
  thermistors : Vector Thermistor channelCount
  deriving DecidableEq

namespace Calibration

def default : Calibration :=
  ⟨.default, .default, Vector.replicate channelCount .default⟩

def axis (id : AxisId) (c : Calibration) : AxisRates :=
  match id with
  | .x => c.x
  | .y => c.y

def setAxis (id : AxisId) (value : AxisRates) (c : Calibration) : Calibration :=
  match id with
  | .x => { c with x := value }
  | .y => { c with y := value }

/-- The value under a key; there is none for a sensor past the last channel. -/
def get? (key : ParameterKey) (c : Calibration) : Option Setting :=
  match key with
  | .axis id param => some (.number (.ofUInt32 ((c.axis id).get param)))
  | .thermistor sensor param => (c.thermistors[sensor.toNat]?).map (·.get param)

/-- Take a value under a key. -/
def assign (key : ParameterKey) (value : Setting) (c : Calibration) :
    Except RangeError Calibration :=
  match key with
  | .axis id param =>
      match countRate value.toSingle with
      | .error e => .error e
      | .ok count => .ok (c.setAxis id ((c.axis id).set param count))
  | .thermistor sensor param =>
      if h : sensor.toNat < channelCount then
        match c.thermistors[sensor.toNat].assign param value with
        | .error e => .error e
        | .ok t => .ok { c with thermistors := c.thermistors.set sensor.toNat t h }
      else .error .outOfRange

/-- Take a value under a key, or stay as it is when the value is refused. -/
def assignOrKeep (key : ParameterKey) (value : Setting) (c : Calibration) : Calibration :=
  match c.assign key value with
  | .ok c => c
  | .error _ => c

/-- Every key with its value, in key order. -/
def entries (c : Calibration) : List (ParameterKey × Setting) :=
  ParameterKey.all.filterMap fun key => (c.get? key).map (key, ·)

variable {σ : Type} [SettingStore σ]

/-- Overlay with what a store has under the given keys. Names that are missing
and values that are refused leave what was there; any other failure ends the
loading. -/
def overlay : List ParameterKey → Calibration → σ → Except StoreFailure Calibration × σ
  | [], c, store => (.ok c, store)
  | key :: rest, c, store =>
      match SettingStore.read key.toByte store with
      | (.ok value, store) => overlay rest (c.assignOrKeep key value) store
      | (.error .absent, store) => overlay rest c store
      | (.error e, store) => (.error e, store)

/-- The defaults, overlaid with every value of a store. -/
def ofStore (store : σ) : Except StoreFailure Calibration × σ :=
  overlay ParameterKey.all default store

/-- Write values under their keys, up to the first failure. -/
def writeAll : List (ParameterKey × Setting) → σ → Except StoreFailure Unit × σ
  | [], store => (.ok (), store)
  | (key, value) :: rest, store =>
      match SettingStore.write key.toByte value store with
      | (.ok (), store) => writeAll rest store
      | (.error e, store) => (.error e, store)

/-- Write every value to a store. -/
def toStore (c : Calibration) (store : σ) : Except StoreFailure Unit × σ :=
  writeAll c.entries store

end Calibration

end XYStage
