/-
# XYStage.Setup.Validation -- what a board configuration must hold

A configuration needs a baud rate and the motion parameters of both axes; the
thermistor channels are optional. `violations` lists everything that is wrong
with a document: first the link, then the axes, then the thermistors. A
thermistor section belongs to the channel whose number its name is.
-/
import XYStage.Setup.Document

namespace XYStage

set_option autoImplicit false

namespace Setup

/-- Where a motion parameter stands: the axis section and the key in it. -/
structure AxisField where
  axis : String
  key : String

/-- Something wrong with a configuration. -/
inductive Violation where
  | baudRateOutOfRange
  | baudRateMissing
  | axisNotTable (axis : String)
  | axisMissing (axis : String)
  | notCount (field : AxisField)
  | fieldMissing (field : AxisField)
  | velocityTooHigh (field : AxisField)
  | thermistorsNotTable
  | unknownChannel (name : String)
  | thermistorNotTable (name : String)
  | notNumber (name key : String)
  | coefficientMissing (name key : String)
  | enabledNotFlag (name : String)

def Violation.message : Violation → String
  | .baudRateOutOfRange => "[link] baudrate must be 1200-921600"
  | .baudRateMissing => "Missing [link] baudrate"
  | .axisNotTable axis => "[axis." ++ axis ++ "] must be a table"
  | .axisMissing axis => "Missing [axis." ++ axis ++ "] section"
  | .notCount f => "[axis." ++ f.axis ++ "] " ++ f.key ++ " must be a u32"
  | .fieldMissing f => "[axis." ++ f.axis ++ "] missing '" ++ f.key ++ "'"
  | .velocityTooHigh f => "[axis." ++ f.axis ++ "] " ++ f.key ++ " must be <= 50000"
  | .thermistorsNotTable => "[thermistor] must be a table"
  | .unknownChannel name => "[thermistor." ++ name ++ "] channel must be 0-4"
  | .thermistorNotTable name => "[thermistor." ++ name ++ "] must be a table"
  | .notNumber name key => "[thermistor." ++ name ++ "] " ++ key ++ " must be a number"
  | .coefficientMissing name key => "[thermistor." ++ name ++ "] missing '" ++ key ++ "'"
  | .enabledNotFlag name => "[thermistor." ++ name ++ "] enabled must be true or false"

/-- The axis sections, in order. -/
def axisNames : List String := ["x", "y"]

/-- The motion parameters of an axis section, in order. -/
def axisKeys : List String := ["acceleration", "start_velocity", "home_velocity"]

/-- The motion parameters that are velocities. -/
def velocityKeys : List String := ["start_velocity", "home_velocity"]

/-- The coefficients of a thermistor section, in order. -/
def coefficientKeys : List String := ["a", "b", "c"]

def linkViolations (document : Value) : List Violation :=
  match (document.get? "link").bind (·.get? "baudrate") with
  | some (.integer rate) => if 1200 ≤ rate ∧ rate ≤ 921600 then [] else [.baudRateOutOfRange]
  | some _ => [.baudRateOutOfRange]
  | none => [.baudRateMissing]

/-- What is wrong with a motion parameter as a 32-bit count. -/
def countViolations (field : AxisField) (entries : Value) : List Violation :=
  match entries.get? field.key with
  | some (.integer value) => if 0 ≤ value ∧ value ≤ 0xffffffff then [] else [.notCount field]
  | some _ => [.notCount field]
  | none => [.fieldMissing field]

/-- What is wrong with a velocity that the step generator must reach. -/
def velocityViolations (field : AxisField) (entries : Value) : List Violation :=
  match entries.get? field.key with
  | some (.integer value) => if 50000 < value then [.velocityTooHigh field] else []
  | _ => []

def axisViolations (document : Value) (axis : String) : List Violation :=
  match (document.get? "axis").bind (·.get? axis) with
  | some (.table entries) =>
      (axisKeys.flatMap fun key => countViolations ⟨axis, key⟩ (.table entries)) ++
        velocityKeys.flatMap fun key => velocityViolations ⟨axis, key⟩ (.table entries)
  | some _ => [.axisNotTable axis]
  | none => [.axisMissing axis]

/-- The number a text denotes: decimal digits after an optional plus sign, with
leading zeros allowed, below `2 ^ 64`. -/
def channelNumber? (name : String) : Option Nat :=
  let digits :=
    match name.toList with
    | '+' :: rest => rest
    | chars => chars
  if digits.isEmpty || !digits.all Char.isDigit then none
  else
    let value := digits.foldl (fun value c => 10 * value + (c.toNat - '0'.toNat)) 0
    if value < UInt64.size then some value else none

def coefficientViolations (name : String) (entries : Value) (key : String) : List Violation :=
  match entries.get? key with
  | some (.float value) => if value.isFinite then [] else [.notNumber name key]
  | some (.integer _) => []
  | some _ => [.notNumber name key]
  | none => [.coefficientMissing name key]

def enabledViolations (name : String) (entries : Value) : List Violation :=
  match entries.get? "enabled" with
  | some (.boolean _) => []
  | some _ => [.enabledNotFlag name]
  | none => []

/-- What is wrong with one thermistor section. -/
def sectionViolations (name : String) (value : Value) : List Violation :=
  let channel :=
    match channelNumber? name with
    | some n => if n < 5 then [] else [.unknownChannel name]
    | none => [.unknownChannel name]
  channel ++
    match value with
    | .table entries =>
        (coefficientKeys.flatMap (coefficientViolations name (.table entries))) ++
          enabledViolations name (.table entries)
    | _ => [.thermistorNotTable name]

def thermistorViolations (document : Value) : List Violation :=
  match document.get? "thermistor" with
  | some (.table entries) => entries.flatMap fun (name, value) => sectionViolations name value
  | some _ => [.thermistorsNotTable]
  | none => []

/-- Everything that is wrong with a configuration. -/
def violations (document : Value) : List Violation :=
  linkViolations document ++ axisNames.flatMap (axisViolations document) ++
    thermistorViolations document

end Setup

end XYStage
