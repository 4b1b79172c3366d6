/-
# XYStage.Bench.Hex -- bytes and words as hexadecimal text

Bench scripts give bytes as pairs of hexadecimal digits and words as eight of
them. Digits are written in lower case and read in either case.
-/

namespace XYStage

set_option autoImplicit false

namespace Hex

/-- The digit of a number below sixteen. -/
def digit (n : Nat) : Char :=
  if n < 10 then Char.ofNat ('0'.toNat + n) else Char.ofNat ('a'.toNat + (n - 10))

def digitValue? (c : Char) : Option Nat :=
  if '0' ≤ c ∧ c ≤ '9' then some (c.toNat - '0'.toNat)
  else if 'a' ≤ c ∧ c ≤ 'f' then some (c.toNat - 'a'.toNat + 10)
  else if 'A' ≤ c ∧ c ≤ 'F' then some (c.toNat - 'A'.toNat + 10)
  else none

/-- The last `count` digits of a number, the high ones first. -/
def digits : Nat → Nat → List Char
  | 0, _ => []
  | count + 1, n => digits count (n / 16) ++ [digit (n % 16)]

/-- The number that digits denote. -/
def value? (text : String) : Option Nat :=
  text.toList.foldlM (fun value c => (digitValue? c).map (16 * value + ·)) 0

def ofBytes (bytes : List UInt8) : String :=
  String.ofList (bytes.flatMap fun byte => digits 2 byte.toNat)

def bytesOfChars? : List Char → Option (List UInt8)
  | [] => some []
  | high :: low :: rest => do
      let high ← digitValue? high
      let low ← digitValue? low
      let rest ← bytesOfChars? rest
      return UInt8.ofNat (16 * high + low) :: rest
  | [_] => none

def bytes? (text : String) : Option (List UInt8) :=
  bytesOfChars? text.toList

def ofWord (word : UInt32) : String :=
  String.ofList (digits 8 word.toNat)

end Hex

end XYStage
