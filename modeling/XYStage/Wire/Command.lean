/-
# XYStage.Wire.Command -- what the host asks

Every command has an identifier and a payload (`Command.toFrame`), and
`Command.ofFrame` reads them back. Decoding fails on an identifier outside the
catalogue first, then on a payload of the wrong size, then on a field outside
its enumeration.
-/
import XYStage.Wire.Message

namespace XYStage

set_option autoImplicit false

/-- A command of the host. -/
inductive Command where
  /-- Link check; the data comes back in a `log` reply. -/
  | ping (data : Payload)
  | getStatus
  /-- Start the two-phase homing sequence. -/
  | home
  | move (request : MoveRequest)
  /-- Halt both axes and clear any fault. -/
  | stop
  | getPosition
  | getAxisState (axis : AxisId)
  | getTemperature
  /-- Set one calibration value; flags travel as numbers. -/
  | calibrate (key : ParameterKey) (value : Single)
  deriving DecidableEq

namespace Command

def id : Command → UInt8
  | .ping _ => MessageId.ping
  | .getStatus => MessageId.getStatus
  | .home => MessageId.home
  | .move _ => MessageId.move
  | .stop => MessageId.stop
  | .getPosition => MessageId.getPosition
  | .getAxisState _ => MessageId.getAxisState
  | .getTemperature => MessageId.getTemperature
  | .calibrate _ _ => MessageId.calibrate

def payload : Command → Payload
  | .ping data => data
  | .move r => ⟨r.bytes, by simp [MoveRequest.bytes, Word.bigEndian, payloadLimit]⟩
  | .getAxisState axis => ⟨[axis.toByte], by simp [payloadLimit]⟩
  | .calibrate key value =>
      ⟨key.toByte :: Word.bigEndian value.bits, by simp [Word.bigEndian, payloadLimit]⟩
  | .getStatus | .home | .stop | .getPosition | .getTemperature => .empty

def toFrame (c : Command) : Frame := ⟨c.id, c.payload⟩

def calibrationOfBytes? : List UInt8 → Option (ParameterKey × Single)
  | [key, v3, v2, v1, v0] => do
      let key ← ParameterKey.ofByte? key
      return (key, ⟨Word.ofBytes v3 v2 v1 v0⟩)
  | _ => none

def ofFrame (f : Frame) : Except MessageError Command :=
  match f.id with
  | MessageId.ping => .ok (.ping f.payload)
  | MessageId.getStatus => f.fields 0 (readBare .getStatus)
  | MessageId.home => f.fields 0 (readBare .home)
  | MessageId.move => f.fields 14 fun bytes => (MoveRequest.ofBytes? bytes).map .move
  | MessageId.stop => f.fields 0 (readBare .stop)
  | MessageId.getPosition => f.fields 0 (readBare .getPosition)
  | MessageId.getAxisState =>
      f.fields 1 fun bytes => (readCode AxisId.ofByte? bytes).map .getAxisState
  | MessageId.getTemperature => f.fields 0 (readBare .getTemperature)
  | MessageId.calibrate =>
      f.fields 5 fun bytes => (calibrationOfBytes? bytes).map fun (key, value) =>
        .calibrate key value
  | other => .error (.unknownId other)

/-- Whether the device answers this identifier with an `axisResult`. -/
def answersWithResult (id : UInt8) : Bool :=
  decide (id = MessageId.home ∨ id = MessageId.move ∨ id = MessageId.calibrate)

end Command

end XYStage
