/-
# XYStage.Wire.Reply -- what the device answers

`ack` and `nack` belong to the exchange of frames; every other reply answers one command.
`Reply.ofFrame` reads back what `Reply.toFrame` writes, with the same order of
checks as for commands.
-/
import XYStage.Wire.Message

namespace XYStage

set_option autoImplicit false

/-- A reply of the device. -/
inductive Reply where
  | ack
  | nack
  | log (data : Payload)
  | status (code : StatusCode)
  | position (x y : Int32)
  | axisState (report : AxisReport)
  /-- A NaN stands for a channel that is disabled or failed. -/
  | temperature (values : Temperatures)
  | axisResult (code : ResultCode)
  deriving DecidableEq

namespace Reply

def id : Reply → UInt8
  | .ack => MessageId.ack
  | .nack => MessageId.nack
  | .log _ => MessageId.log
  | .status _ => MessageId.status
  | .position _ _ => MessageId.position
  | .axisState _ => MessageId.axisState
  | .temperature _ => MessageId.temperature
  | .axisResult _ => MessageId.axisResult

def payload : Reply → Payload
  | .ack | .nack => .empty
  | .log data => data
  | .status code => ⟨[code.toByte], by simp [payloadLimit]⟩
  | .position x y =>
      ⟨Word.bigEndian x.toUInt32 ++ Word.bigEndian y.toUInt32,
        by simp [Word.bigEndian, payloadLimit]⟩
  | .axisState report =>
      ⟨report.bytes, by simp [AxisReport.bytes, Word.bigEndian, payloadLimit]⟩
  | .temperature values =>
      ⟨Temperatures.bytes values, by
        simp [Temperatures.bytes, Word.bigEndian, List.length_flatMap, List.map_const',
          channelCount, payloadLimit]⟩
  | .axisResult code => ⟨[code.toByte], by simp [payloadLimit]⟩

def toFrame (r : Reply) : Frame := ⟨r.id, r.payload⟩

def positionOfBytes? : List UInt8 → Option (Int32 × Int32)
  | [x3, x2, x1, x0, y3, y2, y1, y0] =>
      some ((Word.ofBytes x3 x2 x1 x0).toInt32, (Word.ofBytes y3 y2 y1 y0).toInt32)
  | _ => none

def ofFrame (f : Frame) : Except MessageError Reply :=
  match f.id with
  | MessageId.ack => f.fields 0 (readBare .ack)
  | MessageId.nack => f.fields 0 (readBare .nack)
  | MessageId.log => .ok (.log f.payload)
  | MessageId.status => f.fields 1 fun bytes => (readCode StatusCode.ofByte? bytes).map .status
  | MessageId.position =>
      f.fields 8 fun bytes => (positionOfBytes? bytes).map fun (x, y) => .position x y
  | MessageId.axisState => f.fields 18 fun bytes => (AxisReport.ofBytes? bytes).map .axisState
  | MessageId.temperature => f.fields 20 fun bytes => (Temperatures.ofBytes? bytes).map .temperature
  | MessageId.axisResult =>
      f.fields 1 fun bytes => (readCode ResultCode.ofByte? bytes).map .axisResult
  | other => .error (.unknownId other)

end Reply

end XYStage
