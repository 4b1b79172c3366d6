/-
# XYStage.Setup.Constants -- the constants compiled into the firmware

A valid configuration becomes a source text with the baud rate and the default
calibration (`constants?`). A thermistor channel takes the section named by its
number in plain decimal digits, and the built-in default where there is none.

Numbers are written in single precision with the fewest digits that read back.
They are positional with at least one decimal place from `10 ^ -4` up to, but
not including, `10 ^ 16`, and beyond that have an exponent.
-/
import XYStage.Ieee.Shortest
import XYStage.Setup.Document

namespace XYStage

set_option autoImplicit false

namespace Setup

/-! ## Numbers -/

/-- Digits and their exponent with a decimal point, and at least one place. -/
def positional (d : Decimal) : String :=
  let digits := Nat.toDigits 10 d.digits
  if 0 ≤ d.exponent then
    String.ofList (digits ++ List.replicate d.exponent.toNat '0') ++ ".0"
  else
    let places := d.exponent.natAbs
    let padded := List.replicate (places + 1 - digits.length) '0' ++ digits
    String.ofList (padded.take (padded.length - places)) ++ "." ++
      String.ofList (padded.drop (padded.length - places))

/-- Digits with the point after the first, and an exponent. -/
def scientific (d : Decimal) : String :=
  let digits := Nat.toDigits 10 d.digits
  let point := if digits.length ≤ 1 then "" else "."
  String.ofList (digits.take 1) ++ point ++ String.ofList (digits.drop 1) ++ "e" ++
    toString (d.exponent + (digits.length - 1 : Nat))

/-- A number as it is written into the constants. -/
def numberText (x : Single) : String :=
  let sign := if x.negative then "-" else ""
  if x.isNaN then "NaN"
  else if x.isInfinite then sign ++ "inf"
  else if x.isZero then sign ++ "0.0"
  else if x.abs < 1e-4 || decide (1e16 ≤ x.abs) then sign ++ scientific x.shortest
  else sign ++ positional x.shortest

/-! ## The text -/

/-- The opening brace, as text. -/
def openBrace : String := "\x7b"

/-- The closing brace, as text. -/
def closeBrace : String := "\x7d"

/-- A record with its fields between braces. -/
def record (name : String) (fields : List (String × String)) : String :=
  name ++ " " ++ openBrace ++ " " ++
    ", ".intercalate (fields.map fun (key, value) => key ++ ": " ++ value) ++ " " ++ closeBrace

/-- An integer under a key, as text. -/
def integerText? (key : String) (value : Value) : Option String :=
  match value.get? key with
  | some (.integer n) => some (toString n)
  | _ => none

def axisText? (document : Value) (axis : String) : Option String := do
  let value ← (← document.get? "axis").get? axis
  let acceleration ← integerText? "acceleration" value
  let startVelocity ← integerText? "start_velocity" value
  let homeVelocity ← integerText? "home_velocity" value
  return record "AxisCalibration"
    [("acceleration", acceleration), ("start_velocity", startVelocity),
      ("home_velocity", homeVelocity)]

/-- A coefficient of a thermistor section, in single precision. -/
def coefficient? (key : String) (value : Value) : Option Single :=
  ((value.get? key).bind Value.double?).map Double.toSingle

/-- Whether a thermistor section puts its channel to use. -/
def enabled (value : Value) : Bool :=
  match value.get? "enabled" with
  | some (.boolean flag) => flag
  | _ => false

/-- The section of a thermistor channel, if it has one. -/
def channelSection? (document : Value) (channel : Nat) : Option Value :=
  (document.get? "thermistor").bind (·.get? (toString channel))

def thermistorText? (document : Value) (channel : Nat) : Option String :=
  match channelSection? document channel with
  | none => some "gantry_core::config::DEFAULT_THERMISTOR"
  | some value => do
      let a ← coefficient? "a" value
      let b ← coefficient? "b" value
      let c ← coefficient? "c" value
      return record "ThermistorCalibration"
        [("a", numberText a), ("b", numberText b), ("c", numberText c),
          ("enabled", toString (enabled value))]

/-- A list of constants, each on a line of its own. -/
def listText (name : String) (items : List String) : String :=
  name ++ ": [\n" ++ "\n".intercalate (items.map fun item => "    " ++ item ++ ",") ++ "\n],\n"

/-- The source text of a configuration, if it has what the text needs. -/
def constants? (document : Value) : Option String := do
  let rate ← (document.get? "link").bind (integerText? "baudrate")
  let axes ← ["x", "y"].mapM (axisText? document)
  let thermistors ← (List.range 5).mapM (thermistorText? document)
  return "// Generated from gantry.toml by build.rs\n" ++
    "\n" ++
    "use gantry_core::config::" ++ openBrace ++
      "AxisCalibration, Calibration, ThermistorCalibration" ++ closeBrace ++ ";\n" ++
    "\n" ++
    "pub const LINK_BAUDRATE: u32 = " ++ rate ++ ";\n" ++
    "\n" ++
    "pub const DEFAULT_CALIBRATION: Calibration = Calibration " ++ openBrace ++ "\n" ++
    listText "axes" axes ++
    listText "thermistors" thermistors ++
    closeBrace ++ ";\n"

end Setup

end XYStage
