/-
# XYStage.Calibration.Checksum -- the CRC-32 of a calibration

The checksum is the reflected CRC-32 with polynomial `0xedb88320`, started at all
ones and complemented at the end, over the bytes of every field in order, low
byte first.
-/
import XYStage.Calibration.Basic
import XYStage.Wire.Word

namespace XYStage

set_option autoImplicit false

namespace Crc32

def polynomial : UInt32 := 0xedb88320

/-- One step of the division: the low bit leaves the remainder. -/
def shift (crc : UInt32) : UInt32 :=
  if crc &&& 1 ≠ 0 then (crc >>> 1) ^^^ polynomial else crc >>> 1

/-- `n` steps of the division. -/
def shifts : Nat → UInt32 → UInt32
  | 0, crc => crc
  | n + 1, crc => shifts n (shift crc)

/-- Take one byte into the remainder. -/
def update (crc : UInt32) (byte : UInt8) : UInt32 :=
  shifts 8 (crc ^^^ byte.toUInt32)

/-- The checksum of a string of bytes. -/
def ofBytes (bytes : List UInt8) : UInt32 :=
  ~~~(bytes.foldl update 0xffffffff)

end Crc32

/-- The bytes of the three parameters of an axis. -/
def AxisRates.bytes (c : AxisRates) : List UInt8 :=
  Word.littleEndian c.acceleration ++ Word.littleEndian c.startVelocity ++
    Word.littleEndian c.homeVelocity

/-- The bytes of the constants of a thermistor channel. -/
def Thermistor.bytes (t : Thermistor) : List UInt8 :=
  Word.littleEndian t.a.bits ++ Word.littleEndian t.b.bits ++ Word.littleEndian t.c.bits ++
    [t.enabled.toUInt8]

namespace Calibration

/-- Every field in order, each with its low byte first. -/
def bytes (c : Calibration) : List UInt8 :=
  c.x.bytes ++ c.y.bytes ++ c.thermistors.toList.flatMap Thermistor.bytes

def checksum (c : Calibration) : UInt32 :=
  Crc32.ofBytes c.bytes

end Calibration

end XYStage
