/-
# XYStage.Wire.Message -- what commands and replies have in common

The identifiers of the message catalogue, the records that messages carry, and
the ways in which a frame can fail to be a message. Except for the free bytes of
`ping` and `log`, every identifier has a payload of one fixed size
(`Frame.fields`); fields of several bytes have the high byte first.
-/
import XYStage.Ieee.Single
import XYStage.Wire.Code
import XYStage.Wire.Frame
import XYStage.Wire.Word

namespace XYStage

set_option autoImplicit false

namespace MessageId

@[match_pattern] def ping : UInt8 := 0x01
@[match_pattern] def getStatus : UInt8 := 0x02
@[match_pattern] def home : UInt8 := 0x03
@[match_pattern] def move : UInt8 := 0x04
@[match_pattern] def stop : UInt8 := 0x05
@[match_pattern] def getPosition : UInt8 := 0x06
@[match_pattern] def getAxisState : UInt8 := 0x07
@[match_pattern] def getTemperature : UInt8 := 0x08
@[match_pattern] def calibrate : UInt8 := 0x09
@[match_pattern] def ack : UInt8 := 0x80
@[match_pattern] def nack : UInt8 := 0x81
@[match_pattern] def log : UInt8 := 0x82
@[match_pattern] def status : UInt8 := 0x83
@[match_pattern] def position : UInt8 := 0x84
@[match_pattern] def axisState : UInt8 := 0x85
@[match_pattern] def temperature : UInt8 := 0x86
@[match_pattern] def axisResult : UInt8 := 0x87

/-- The identifier in messages to people: `0x` and two digits. -/
def text (id : UInt8) : String :=
  let digit (n : Nat) : String := String.ofList (Nat.toDigits 16 n)
  "0x" ++ digit (id.toNat / 16) ++ digit (id.toNat % 16)

end MessageId

/-- Why a frame is not a message. -/
inductive MessageError where
  /-- The identifier is not in the catalogue of this direction. -/
  | unknownId (id : UInt8)
  /-- The payload size differs from the fixed one. -/
  | wrongSize (id : UInt8) (expected actual : Nat)
  /-- A field holds a byte outside its enumeration. -/
  | badField (id : UInt8)
  deriving DecidableEq

def MessageError.message : MessageError → String
  | .unknownId id => "unknown message id " ++ MessageId.text id
  | .wrongSize id expected actual =>
      "message " ++ MessageId.text id ++ ": expected " ++ toString expected ++
        " payload bytes, got " ++ toString actual
  | .badField id => "message " ++ MessageId.text id ++ ": field value out of range"

/-- Read the fields of a fixed-size payload. The size is checked before any
field is. -/
def Frame.fields {α : Type} (f : Frame) (expected : Nat) (read : List UInt8 → Option α) :
    Except MessageError α :=
  if f.payload.size ≠ expected then .error (.wrongSize f.id expected f.payload.size)
  else
    match read f.payload.bytes with
    | some value => .ok value
    | none => .error (.badField f.id)

/-- Read the payload of a message without fields. -/
def readBare {α : Type} (message : α) : List UInt8 → Option α
  | [] => some message
  | _ => none

/-- Read a payload whose one field is a code. -/
def readCode {α : Type} (ofByte? : UInt8 → Option α) : List UInt8 → Option α
  | [byte] => ofByte? byte
  | _ => none

/-- A host's request to move one axis. -/
structure MoveRequest where
  /-- Counts per second squared; zero selects the calibrated value. -/
  acceleration : UInt32
  /-- Counts per second. -/
  holdVelocity : UInt32
  /-- Signed distance in counts. -/
  distance : Int32
  axis : AxisId
  direction : Direction
  deriving DecidableEq

namespace MoveRequest

def bytes (r : MoveRequest) : List UInt8 :=
  Word.bigEndian r.acceleration ++ Word.bigEndian r.holdVelocity ++
    Word.bigEndian r.distance.toUInt32 ++ [r.axis.toByte, r.direction.toByte]

def ofBytes? : List UInt8 → Option MoveRequest
  | [a3, a2, a1, a0, v3, v2, v1, v0, d3, d2, d1, d0, axis, direction] => do
      let axis ← AxisId.ofByte? axis
      let direction ← Direction.ofByte? direction
      return {
        acceleration := Word.ofBytes a3 a2 a1 a0
        holdVelocity := Word.ofBytes v3 v2 v1 v0
        distance := (Word.ofBytes d3 d2 d1 d0).toInt32
        axis, direction }
  | _ => none

end MoveRequest

/-- The state of one axis as the host sees it. -/
structure AxisReport where
  axis : AxisId
  moving : Bool
  atHome : Bool
  atFar : Bool
  direction : Direction
  segment : Segment
  /-- Counts per second. -/
  velocity : UInt32
  /-- Encoder position in counts. -/
  position : Int32
  /-- Position at which the active segment ends. -/
  target : Int32
  deriving DecidableEq

namespace AxisReport

def bytes (s : AxisReport) : List UInt8 :=
  [s.axis.toByte, s.moving.toUInt8, s.atHome.toUInt8, s.atFar.toUInt8,
    s.direction.toByte, s.segment.toByte] ++
    Word.bigEndian s.velocity ++ Word.bigEndian s.position.toUInt32 ++
    Word.bigEndian s.target.toUInt32

/-- Any nonzero byte stands for a set flag. -/
def ofBytes? : List UInt8 → Option AxisReport
  | [axis, moving, home, far, direction, segment,
      v3, v2, v1, v0, p3, p2, p1, p0, t3, t2, t1, t0] => do
      let axis ← AxisId.ofByte? axis
      let direction ← Direction.ofByte? direction
      let segment ← Segment.ofByte? segment
      return {
        axis
        moving := decide (moving ≠ 0)
        atHome := decide (home ≠ 0)
        atFar := decide (far ≠ 0)
        direction, segment
        velocity := Word.ofBytes v3 v2 v1 v0
        position := (Word.ofBytes p3 p2 p1 p0).toInt32
        target := (Word.ofBytes t3 t2 t1 t0).toInt32 }
  | _ => none

end AxisReport

/-- One reading per temperature channel, in degrees Celsius. -/
abbrev Temperatures := Vector Single channelCount

namespace Temperatures

def bytes (values : Temperatures) : List UInt8 :=
  values.toList.flatMap fun value => Word.bigEndian value.bits

def ofBytes? : List UInt8 → Option Temperatures
  | [a3, a2, a1, a0, b3, b2, b1, b0, c3, c2, c1, c0, d3, d2, d1, d0, e3, e2, e1, e0] =>
      some #v[⟨Word.ofBytes a3 a2 a1 a0⟩, ⟨Word.ofBytes b3 b2 b1 b0⟩,
        ⟨Word.ofBytes c3 c2 c1 c0⟩, ⟨Word.ofBytes d3 d2 d1 d0⟩, ⟨Word.ofBytes e3 e2 e1 e0⟩]
  | _ => none

end Temperatures

end XYStage
