/-
# XYStage.Wire.Code -- the enumerations of the link and their bytes

Both ends of the link name axes, directions, segments, device status, results
and calibration keys by one byte each. For every enumeration `ofByte?` accepts
exactly the bytes that `toByte` gives.

A calibration key packs its owner and its parameter into one byte: `0x10 + 4 *
axis + parameter` for an axis, `0x20 + 4 * sensor + parameter` for a thermistor.
The fourth slot of an axis is unused.
-/

namespace XYStage

set_option autoImplicit false

/-- Number of temperature channels. -/
abbrev channelCount : Nat := 5

/-- One of the two axes. -/
inductive AxisId where
  | x
  | y
  deriving DecidableEq

namespace AxisId

/-- Both axes, in index order. -/
def all : List AxisId := [.x, .y]

def index : AxisId → Nat
  | .x => 0
  | .y => 1

def toByte (id : AxisId) : UInt8 :=
  UInt8.ofNat id.index

def ofByte? (byte : UInt8) : Option AxisId :=
  if byte = 0 then some .x
  else if byte = 1 then some .y
  else none

end AxisId

/-- Direction of travel. -/
inductive Direction where
  /-- Away from the home switch; counts increase. -/
  | positive
  /-- Toward the home switch; counts decrease. -/
  | negative
  deriving DecidableEq

namespace Direction

def toByte : Direction → UInt8
  | .positive => 0
  | .negative => 1

def ofByte? (byte : UInt8) : Option Direction :=
  if byte = 0 then some .positive
  else if byte = 1 then some .negative
  else none

/-- The change of the encoder position by one count in this direction. -/
def sign : Direction → Int32
  | .positive => 1
  | .negative => -1

def opposite : Direction → Direction
  | .positive => .negative
  | .negative => .positive

end Direction

/-- Velocity segment of a motion. -/
inductive Segment where
  | accelerate
  | hold
  | decelerate
  deriving DecidableEq

namespace Segment

def toByte : Segment → UInt8
  | .accelerate => 0
  | .hold => 1
  | .decelerate => 2

def ofByte? (byte : UInt8) : Option Segment :=
  if byte = 0 then some .accelerate
  else if byte = 1 then some .hold
  else if byte = 2 then some .decelerate
  else none

end Segment

/-- Operating mode of the device as the host sees it. -/
inductive StatusCode where
  | idle
  | homing
  | moving
  | fault
  deriving DecidableEq

namespace StatusCode

def toByte : StatusCode → UInt8
  | .idle => 0
  | .homing => 1
  | .moving => 2
  | .fault => 3

def ofByte? (byte : UInt8) : Option StatusCode :=
  if byte = 0 then some .idle
  else if byte = 1 then some .homing
  else if byte = 2 then some .moving
  else if byte = 3 then some .fault
  else none

end StatusCode

/-- The answer to a command that may be refused. -/
inductive ResultCode where
  | ok
  | alreadyMoving
  /-- The limit switch on the side of travel is pressed. -/
  | limitBlocked
  | zeroDistance
  /-- No profile exists: zero acceleration with a velocity change. -/
  | invalidProfile
  /-- The sign of the distance disagrees with the direction. -/
  | directionMismatch
  /-- The payload length or a field is invalid. -/
  | invalid
  /-- The device is homing or faulted. -/
  | busy
  deriving DecidableEq

namespace ResultCode

def toByte : ResultCode → UInt8
  | .ok => 0
  | .alreadyMoving => 1
  | .limitBlocked => 2
  | .zeroDistance => 3
  | .invalidProfile => 4
  | .directionMismatch => 5
  | .invalid => 6
  | .busy => 7

def ofByte? (byte : UInt8) : Option ResultCode :=
  if byte = 0 then some .ok
  else if byte = 1 then some .alreadyMoving
  else if byte = 2 then some .limitBlocked
  else if byte = 3 then some .zeroDistance
  else if byte = 4 then some .invalidProfile
  else if byte = 5 then some .directionMismatch
  else if byte = 6 then some .invalid
  else if byte = 7 then some .busy
  else none

/-- Whether the command was accepted. -/
def isAccepted (code : ResultCode) : Bool :=
  decide (code = .ok)

end ResultCode

/-- Motion parameter of an axis. -/
inductive AxisParameter where
  | acceleration
  | startVelocity
  | homeVelocity
  deriving DecidableEq

namespace AxisParameter

/-- Every parameter, in key order. -/
def all : List AxisParameter := [.acceleration, .startVelocity, .homeVelocity]

def toByte : AxisParameter → UInt8
  | .acceleration => 0
  | .startVelocity => 1
  | .homeVelocity => 2

def ofByte? (byte : UInt8) : Option AxisParameter :=
  if byte = 0 then some .acceleration
  else if byte = 1 then some .startVelocity
  else if byte = 2 then some .homeVelocity
  else none

end AxisParameter

/-- Parameter of a thermistor channel: a Steinhart-Hart coefficient or the
enable flag. -/
inductive ThermistorParameter where
  | a
  | b
  | c
  | enabled
  deriving DecidableEq

namespace ThermistorParameter

/-- Every parameter, in key order. -/
def all : List ThermistorParameter := [.a, .b, .c, .enabled]

def toByte : ThermistorParameter → UInt8
  | .a => 0
  | .b => 1
  | .c => 2
  | .enabled => 3

def ofByte? (byte : UInt8) : Option ThermistorParameter :=
  if byte = 0 then some .a
  else if byte = 1 then some .b
  else if byte = 2 then some .c
  else if byte = 3 then some .enabled
  else none

end ThermistorParameter

/-- The name of one calibration value. A sensor number past the last channel is
a key that no calibration answers to. -/
inductive ParameterKey where
  | axis (id : AxisId) (param : AxisParameter)
  | thermistor (sensor : UInt8) (param : ThermistorParameter)
  deriving DecidableEq

namespace ParameterKey

/-- Byte of the first axis key. -/
def axisBase : UInt8 := 0x10

/-- Byte of the first thermistor key. -/
def thermistorBase : UInt8 := 0x20

def toByte : ParameterKey → UInt8
  | .axis id param => axisBase + 4 * id.toByte + param.toByte
  | .thermistor sensor param => thermistorBase + 4 * sensor + param.toByte

def ofByte? (byte : UInt8) : Option ParameterKey :=
  if axisBase ≤ byte ∧ byte < axisBase + 8 then
    match AxisId.ofByte? ((byte - axisBase) / 4), AxisParameter.ofByte? ((byte - axisBase) % 4) with
    | some id, some param => some (.axis id param)
    | _, _ => none
  else if thermistorBase ≤ byte ∧ byte < thermistorBase + 20 then
    (ThermistorParameter.ofByte? ((byte - thermistorBase) % 4)).map
      (.thermistor ((byte - thermistorBase) / 4))
  else none

/-- Whether the value of this key is a flag rather than a number. -/
def holdsFlag : ParameterKey → Bool
  | .thermistor _ .enabled => true
  | _ => false

end ParameterKey

end XYStage
