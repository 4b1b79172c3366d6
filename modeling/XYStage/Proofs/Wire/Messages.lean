/-
# XYStage.Proofs.Wire.Messages -- messages read back as they were written

Every enumeration reads back its own bytes and every word its own four, so a frame
made of a command gives that command and a frame made of a reply that reply. The
one exception is a calibration key of a sensor that the device does not have: such
keys have no byte of their own (`ParameterKey.Exists`).

Main statements: `Command.ofFrame_toFrame` and `Reply.ofFrame_toFrame`.
-/
import XYStage.Wire.Command
import XYStage.Wire.Reply

namespace XYStage

set_option autoImplicit false

/-! ## Fields -/

theorem Word.ofBytes_bigEndian (w : UInt32) :
    ofBytes (w >>> 24).toUInt8 (w >>> 16).toUInt8 (w >>> 8).toUInt8 w.toUInt8 = w := by
  apply UInt32.toBitVec_inj.mp
  simp only [ofBytes, UInt32.toBitVec_or, UInt32.toBitVec_shiftLeft, UInt8.toBitVec_toUInt32,
    UInt32.toBitVec_toUInt8, UInt32.toBitVec_shiftRight]
  apply BitVec.eq_of_getLsbD_eq
  intro i hi
  -- Each bit comes from the one byte that it stands in.
  by_cases h8 : i < 8
  · simp [hi, h8, show i < 16 by omega, show i < 24 by omega]
  · by_cases h16 : i < 16
    · simp [hi, h8, h16, show i < 24 by omega, show i - 8 < 8 by omega,
        show i - 8 < 32 by omega, show 8 + (i - 8) = i by omega]
    · by_cases h24 : i < 24
      · simp [hi, h8, h16, h24, show ¬i - 8 < 8 by omega, show i - 16 < 8 by omega,
          show i - 16 < 32 by omega, show 16 + (i - 16) = i by omega]
      · simp [hi, h8, h16, h24, show ¬i - 8 < 8 by omega, show ¬i - 16 < 8 by omega,
          show i - 24 < 8 by omega, show i - 24 < 32 by omega, show 24 + (i - 24) = i by omega]

theorem AxisId.ofByte?_toByte (id : AxisId) : ofByte? id.toByte = some id := by
  cases id <;> rfl

theorem Direction.ofByte?_toByte (direction : Direction) :
    ofByte? direction.toByte = some direction := by
  cases direction <;> rfl

theorem Segment.ofByte?_toByte (segment : Segment) : ofByte? segment.toByte = some segment := by
  cases segment <;> rfl

/-- A key whose sensor, if it has one, is one of the device. -/
def ParameterKey.Exists : ParameterKey → Prop
  | .axis _ _ => True
  | .thermistor sensor _ => sensor < 5

instance (key : ParameterKey) : Decidable key.Exists := by
  cases key <;> unfold ParameterKey.Exists <;> infer_instance

theorem ParameterKey.ofByte?_toByte {key : ParameterKey} (h : key.Exists) :
    ofByte? key.toByte = some key := by
  cases key with
  | axis id param => cases id <;> cases param <;> rfl
  | thermistor sensor param =>
      have hsensor : sensor = 0 ∨ sensor = 1 ∨ sensor = 2 ∨ sensor = 3 ∨ sensor = 4 := by
        have hlt : sensor.toNat < 5 := UInt8.lt_iff_toNat_lt.mp h
        simp only [← UInt8.toNat_inj]
        simp
        omega
      rcases hsensor with rfl | rfl | rfl | rfl | rfl <;> cases param <;> rfl

theorem MoveRequest.ofBytes?_bytes (request : MoveRequest) :
    ofBytes? request.bytes = some request := by
  simp [bytes, ofBytes?, Word.bigEndian, Word.ofBytes_bigEndian, AxisId.ofByte?_toByte,
    Direction.ofByte?_toByte]

theorem AxisReport.ofBytes?_bytes (report : AxisReport) : ofBytes? report.bytes = some report := by
  have hflag (flag : Bool) : decide (flag.toUInt8 ≠ 0) = flag := by cases flag <;> rfl
  simp only [bytes, Word.bigEndian, List.cons_append, List.nil_append, ofBytes?,
    AxisId.ofByte?_toByte, Direction.ofByte?_toByte, Segment.ofByte?_toByte, hflag,
    Word.ofBytes_bigEndian]
  simp

theorem Temperatures.length_bytes (values : Temperatures) : (bytes values).length = 20 := by
  simp [bytes, Word.bigEndian, List.length_flatMap, List.map_const', channelCount]

theorem Temperatures.ofBytes?_bytes (values : Temperatures) :
    ofBytes? (bytes values) = some values := by
  obtain ⟨⟨channels⟩, hsize⟩ := values
  match channels, hsize with
  | [a, b, c, d, e], _ =>
      simp [bytes, Word.bigEndian, ofBytes?, Word.ofBytes_bigEndian]

/-! ## Messages -/

theorem Frame.fields_eq_ok {α : Type} {frame : Frame} {expected : Nat}
    {read : List UInt8 → Option α} {value : α} (size : frame.payload.size = expected)
    (h : read frame.payload.bytes = some value) : frame.fields expected read = .ok value := by
  unfold fields
  rw [if_neg (not_not_intro size), h]

/-- A command that the device can tell from every other. -/
def Command.Sendable : Command → Prop
  | .calibrate key _ => key.Exists
  | _ => True

instance (command : Command) : Decidable command.Sendable := by
  cases command <;> unfold Command.Sendable <;> infer_instance

/-- A frame made of a command gives the command. -/
theorem Command.ofFrame_toFrame {command : Command} (h : command.Sendable) :
    ofFrame command.toFrame = .ok command := by
  cases command with
  | ping data => rfl
  | getStatus => rfl
  | home => rfl
  | move request =>
      show (move request).toFrame.fields 14
        (fun bytes => (MoveRequest.ofBytes? bytes).map move) = _
      exact Frame.fields_eq_ok rfl (congrArg (Option.map _) request.ofBytes?_bytes)
  | stop => rfl
  | getPosition => rfl
  | getAxisState axis => cases axis <;> rfl
  | getTemperature => rfl
  | calibrate key value =>
      have hkey : ParameterKey.ofByte? key.toByte = some key := ParameterKey.ofByte?_toByte h
      have hread : calibrationOfBytes? (key.toByte :: Word.bigEndian value.bits) =
          some (key, value) := by
        simp [calibrationOfBytes?, Word.bigEndian, hkey, Word.ofBytes_bigEndian]
      show (calibrate key value).toFrame.fields 5
        (fun bytes => (calibrationOfBytes? bytes).map fun pair => calibrate pair.1 pair.2) = _
      exact Frame.fields_eq_ok rfl (congrArg (Option.map _) hread)

/-- A frame made of a reply gives the reply. -/
theorem Reply.ofFrame_toFrame (reply : Reply) : ofFrame reply.toFrame = .ok reply := by
  cases reply with
  | ack => rfl
  | nack => rfl
  | log data => rfl
  | status code => cases code <;> rfl
  | position x y =>
      have hread : positionOfBytes? (Word.bigEndian x.toUInt32 ++ Word.bigEndian y.toUInt32) =
          some (x, y) := by
        simp [positionOfBytes?, Word.bigEndian, Word.ofBytes_bigEndian]
      show (position x y).toFrame.fields 8
        (fun bytes => (positionOfBytes? bytes).map fun place => position place.1 place.2) = _
      exact Frame.fields_eq_ok rfl (congrArg (Option.map _) hread)
  | axisState report =>
      show (axisState report).toFrame.fields 18
        (fun bytes => (AxisReport.ofBytes? bytes).map axisState) = _
      exact Frame.fields_eq_ok rfl (congrArg (Option.map _) report.ofBytes?_bytes)
  | temperature values =>
      show (temperature values).toFrame.fields 20
        (fun bytes => (Temperatures.ofBytes? bytes).map temperature) = _
      exact Frame.fields_eq_ok values.length_bytes
        (congrArg (Option.map _) (Temperatures.ofBytes?_bytes values))
  | axisResult code => cases code <;> rfl

end XYStage
