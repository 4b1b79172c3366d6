/-
# XYStage.Wire.Word -- 32-bit words as four bytes

The link sends words with the high byte first; the calibration image and its
checksum take them with the low byte first.
-/

namespace XYStage

set_option autoImplicit false

namespace Word

/-- The four bytes of a word, high byte first. -/
def bigEndian (w : UInt32) : List UInt8 :=
  [(w >>> 24).toUInt8, (w >>> 16).toUInt8, (w >>> 8).toUInt8, w.toUInt8]

/-- The four bytes of a word, low byte first. -/
def littleEndian (w : UInt32) : List UInt8 :=
  [w.toUInt8, (w >>> 8).toUInt8, (w >>> 16).toUInt8, (w >>> 24).toUInt8]

/-- The word of four bytes, given from the high byte down. -/
def ofBytes (b3 b2 b1 b0 : UInt8) : UInt32 :=
  b3.toUInt32 <<< 24 ||| b2.toUInt32 <<< 16 ||| b1.toUInt32 <<< 8 ||| b0.toUInt32

end Word

end XYStage
