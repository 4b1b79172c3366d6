/-
# XYStage.Bench.Name -- the words of bench scripts and traces

Every enumeration of the stage has one word for each of its values. The table of
a type lists them all, so a value can be found by its word and a word by its
value.
-/
import XYStage.Board.Converter
import XYStage.Board.UartLine
import XYStage.Calibration.Setting
import XYStage.Link.NullModem
import XYStage.Motion.Axis
import XYStage.Status
import XYStage.Wire.Parser

namespace XYStage

set_option autoImplicit false

/-- A type whose values have names. -/
class Named (α : Type) where
  names : List (String × α)

namespace Named

variable {α : Type} [Named α]

def ofName? (name : String) : Option α :=
  (names : List (String × α)).lookup name

/-- The name of a value; empty for a value outside the table. -/
def name [DecidableEq α] (value : α) : String :=
  (((names : List (String × α)).find? (·.2 = value)).map (·.1)).getD ""

end Named

instance : Named AxisId := ⟨[("x", .x), ("y", .y)]⟩

instance : Named Direction := ⟨[("positive", .positive), ("negative", .negative)]⟩

instance : Named Segment :=
  ⟨[("accelerate", .accelerate), ("hold", .hold), ("decelerate", .decelerate)]⟩

instance : Named StatusCode :=
  ⟨[("idle", .idle), ("homing", .homing), ("moving", .moving), ("fault", .fault)]⟩

instance : Named ResultCode :=
  ⟨[("ok", .ok), ("alreadymoving", .alreadyMoving), ("limitblocked", .limitBlocked),
    ("zerodistance", .zeroDistance), ("invalidprofile", .invalidProfile),
    ("directionmismatch", .directionMismatch), ("invalid", .invalid), ("busy", .busy)]⟩

instance : Named AxisParameter :=
  ⟨[("acceleration", .acceleration), ("startvelocity", .startVelocity),
    ("homevelocity", .homeVelocity)]⟩

instance : Named ThermistorParameter := ⟨[("a", .a), ("b", .b), ("c", .c), ("enabled", .enabled)]⟩

instance : Named LimitSwitch := ⟨[("home", .home), ("far", .far)]⟩

instance : Named EdgeEffect :=
  ⟨[("bounced", .ignored), ("recorded", .recorded), ("stopped", .stopped)]⟩

instance : Named InterruptSource :=
  ⟨[("encoder", .encoder), ("steptimer", .stepTimer), ("acceltimer", .rampTimer),
    ("homeswitch", .homeSwitch), ("farswitch", .farSwitch)]⟩

instance : Named ReadingError :=
  ⟨[("disabled", .disabled), ("notfitted", .notFitted), ("opencircuit", .openCircuit),
    ("shortcircuit", .shortCircuit), ("conversionerror", .conversionFailed)]⟩

instance : Named StoreFailure :=
  ⟨[("notfound", .absent), ("full", .full), ("storage", .failed)]⟩

instance : Named UartError :=
  ⟨[("overrun", .overrun), ("break", .breakCondition), ("parity", .parity),
    ("framing", .framing)]⟩

instance : Named Status :=
  ⟨[("idle", .idle), ("moving", .moving), ("homing:seek", .homing .seek),
    ("homing:retract", .homing .retract), ("fault:unexpectedlimit", .fault .unexpectedLimit),
    ("fault:homing", .fault .homing)]⟩

instance : Named ConverterChannel :=
  ⟨[("adc0", .input0), ("adc1", .input1), ("adc2", .input2), ("adc3", .input3),
    ("temperature", .chip)]⟩

instance : Named Side := ⟨[("a", .a), ("b", .b)]⟩

/-- The name of a parser's state, without what it has read. -/
def Parser.phase : Parser → String
  | .outside => "awaitstart"
  | .started => "readid"
  | .identified _ => "readlength"
  | .collecting _ _ _ => "readdata"
  | .padding _ _ _ => "readcrc"
  | .closing _ _ => "awaitend"

end XYStage
