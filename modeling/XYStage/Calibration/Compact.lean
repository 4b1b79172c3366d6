/-
# XYStage.Calibration.Compact -- the fields of a calibration as bytes

The compact form has the fields in order and nothing between them: counts as
little-endian groups of seven bits with a continuation bit, numbers as four bytes
with the low byte first, bytes and flags as one byte.

A reader takes a field from the front of the bytes and leaves what follows. A
group that continues past five bytes, or whose fifth byte exceeds what a 32-bit
count can hold, and a flag byte other than 0 and 1 are refused; needlessly long
groups are accepted.
-/
import XYStage.Calibration.Basic
import XYStage.Wire.Word

namespace XYStage

set_option autoImplicit false

namespace Compact

/-- Most bytes of a 32-bit count. -/
def maxGroups : Nat := 5

/-- A count in at most so many seven-bit groups, the low ones first. Every byte
but the last has its high bit set. -/
def groups : Nat → UInt32 → List UInt8
  | 0, _ => []
  | more + 1, n =>
      if n < 128 then [n.toUInt8] else (n.toUInt8 ||| 128) :: groups more (n >>> 7)

def count (n : UInt32) : List UInt8 :=
  groups maxGroups n

def number (x : Single) : List UInt8 :=
  Word.littleEndian x.bits

def flag (b : Bool) : List UInt8 :=
  [b.toUInt8]

/-- A reader takes a value off the front of some bytes, or refuses them. -/
abbrev Reader := StateT (List UInt8) Option

namespace Reader

def byte : Reader UInt8
  | [] => none
  | b :: rest => some (b, rest)

/-- Read seven-bit groups onto `acc`, of which `place` bits are already there, in
at most so many bytes. -/
def groups : Nat → UInt32 → UInt32 → Reader UInt32
  | 0, _, _ => fun _ => none
  | more + 1, place, acc => do
      let b ← byte
      let acc := acc ||| ((b &&& 127).toUInt32 <<< place)
      if 128 ≤ b then groups more (place + 7) acc
      else if more = 0 ∧ 15 < b then failure
      else return acc

def count : Reader UInt32 :=
  groups maxGroups 0 0

def number : Reader Single := do
  let b0 ← byte
  let b1 ← byte
  let b2 ← byte
  let b3 ← byte
  return ⟨Word.ofBytes b3 b2 b1 b0⟩

def flag : Reader Bool := do
  let b ← byte
  if b = 0 then return false
  else if b = 1 then return true
  else failure

def axis : Reader AxisRates := do
  let acceleration ← count
  let startVelocity ← count
  let homeVelocity ← count
  return { acceleration, startVelocity, homeVelocity }

def thermistor : Reader Thermistor := do
  let a ← number
  let b ← number
  let c ← number
  let enabled ← flag
  return { a, b, c, enabled }

def calibration : Reader Calibration := do
  let x ← axis
  let y ← axis
  let t0 ← thermistor
  let t1 ← thermistor
  let t2 ← thermistor
  let t3 ← thermistor
  let t4 ← thermistor
  return { x, y, thermistors := #v[t0, t1, t2, t3, t4] }

end Reader

def axis (c : AxisRates) : List UInt8 :=
  count c.acceleration ++ count c.startVelocity ++ count c.homeVelocity

def thermistor (t : Thermistor) : List UInt8 :=
  number t.a ++ number t.b ++ number t.c ++ flag t.enabled

def calibration (c : Calibration) : List UInt8 :=
  axis c.x ++ axis c.y ++ c.thermistors.toList.flatMap thermistor

end Compact

end XYStage
