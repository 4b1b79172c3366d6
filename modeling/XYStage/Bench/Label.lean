/-
# XYStage.Bench.Label -- errors as traces name them

A trace names an error by its cause, with details in parentheses or braces, and
where the error has a message for people that stands beside it.
-/
import XYStage.Bench.Script
import XYStage.Board.UartLine
import XYStage.Calibration.FlashChip
import XYStage.Link.Host
import XYStage.Link.NullModem
import XYStage.Motion.Axis
import XYStage.Temperature.Thermistor

namespace XYStage

set_option autoImplicit false

/-- An error that traces can name. -/
class Labelled (ε : Type) where
  label : ε → String
  message? : ε → Option String

/-- A name with one detail. -/
def labelOf (name detail : String) : String :=
  name ++ "(" ++ detail ++ ")"

/-- A name with numbers under keys. -/
def labelWith (name : String) (details : List (String × Nat)) : String :=
  name ++ " \x7b " ++
    ", ".intercalate (details.map fun (key, value) => key ++ ": " ++ toString value) ++ " \x7d"

/-! ## Errors of serial lines -/

instance : Labelled ScriptError := ⟨toString, fun _ => none⟩

instance : Labelled EndpointError := ⟨toString, fun _ => none⟩

instance : Labelled UartError := ⟨toString, fun _ => none⟩

/-! ## Errors of frames and messages -/

def FrameError.label : FrameError → String
  | .payloadTooLarge => "PayloadTooLarge"
  | .missingEnd => "MissingEnd"
  | .bufferTooSmall => "BufferTooSmall"

instance : Labelled FrameError := ⟨FrameError.label, fun e => some e.message⟩

def MessageError.label : MessageError → String
  | .unknownId id => labelOf "UnknownId" (toString id.toNat)
  | .wrongSize id expected actual =>
      labelWith "InvalidLength" [("id", id.toNat), ("expected", expected), ("actual", actual)]
  | .badField id => labelWith "InvalidValue" [("id", id.toNat)]

instance : Labelled MessageError := ⟨MessageError.label, fun e => some e.message⟩

/-! ## Errors of the link -/

section

variable {ε : Type} [ToString ε]

def FrameLineError.label : FrameLineError ε → String
  | .line e => labelOf "Device" (toString e)
  | .shortWrite => "SendFailed"
  | .timeout => "Timeout"
  | .stalled => "Stalled"

instance : Labelled (FrameLineError ε) := ⟨FrameLineError.label, fun e => some e.message⟩

def ExchangeError.label : ExchangeError ε → String
  | .line e => labelOf "Transport" e.label
  | .notAcknowledged id => labelOf "UnexpectedReply" (toString id.toNat)

instance : Labelled (ExchangeError ε) := ⟨ExchangeError.label, fun e => some e.message⟩

def HostError.label : HostError ε → String
  | .exchange e => labelOf "Session" e.label
  | .reply e => labelOf "Decode" e.label
  | .frame e => labelOf "Frame" e.label
  | .wrongReply id => labelOf "UnexpectedReply" (toString id.toNat)
  | .wrongEcho => "EchoMismatch"

instance : Labelled (HostError ε) := ⟨HostError.label, fun e => some e.message⟩

end

/-! ## Errors of motion -/

def PlanError.label : PlanError → String
  | .zeroAcceleration => "ZeroAcceleration"

instance : Labelled PlanError := ⟨PlanError.label, fun e => some e.message⟩

def Refusal.label : Refusal → String
  | .alreadyMoving => "AlreadyMoving"
  | .zeroDistance => "ZeroDistance"
  | .directionMismatch => "DirectionMismatch"
  | .invalidProfile e => labelOf "InvalidProfile" e.label
  | .limitBlocked => "LimitBlocked"

instance : Labelled Refusal := ⟨Refusal.label, fun e => some e.message⟩

/-! ## Errors of calibration and temperature -/

def StoreFailure.label : StoreFailure → String
  | .absent => "NotFound"
  | .full => "Full"
  | .failed => "Storage"

instance : Labelled StoreFailure := ⟨StoreFailure.label, fun e => some e.message⟩

def RangeError.label : RangeError → String
  | .outOfRange => "OutOfRange"

instance : Labelled RangeError := ⟨RangeError.label, fun e => some e.message⟩

def FlashImageError.label : FlashImageError → String
  | .tooLarge => "Encode"
  | .unreadable => "Decode"
  | .wrongMagic => "BadMagic"
  | .unknownVersion version => labelOf "UnsupportedVersion" (toString version.toNat)
  | .wrongChecksum => "CrcMismatch"

instance : Labelled FlashImageError := ⟨FlashImageError.label, fun e => some e.message⟩

def FlashError.label : FlashError → String
  | .inaccessible => "Storage"
  | .absent => "NotFound"
  | .image e => labelOf "Image" e.label

instance : Labelled FlashError := ⟨FlashError.label, fun _ => none⟩

def KeyError.label : KeyError → String
  | .bufferTooSmall => "BufferTooSmall"
  | .invalidFormat => "InvalidFormat"

instance : Labelled KeyError := ⟨KeyError.label, fun _ => none⟩

def ReadingError.label : ReadingError → String
  | .disabled => "Disabled"
  | .notFitted => "NotFitted"
  | .openCircuit => "OpenCircuit"
  | .shortCircuit => "ShortCircuit"
  | .conversionFailed => "ConversionError"

instance : Labelled ReadingError := ⟨ReadingError.label, fun e => some e.message⟩

end XYStage
