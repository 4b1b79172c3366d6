/-
# XYStage.Link.SerialLine -- the byte stream under a link

A `SerialLine` is a type of states with the operations of a serial line and a
millisecond clock, each taking a state to its answer and the next state. Nothing
is assumed of the answers: writes may be short, reads may fail, bytes may arrive
and time may pass at any operation. The clock counts modulo `2 ^ 32`.

`backlog` bounds how many bytes a receiver may have to take before the line runs
dry. It is what makes emptying a line a bounded loop, and no answer depends on it
as long as it is a bound (`LawfulSerialLine`).
-/

namespace XYStage

set_option autoImplicit false

/-- A raw byte stream with a clock, over states `δ` and errors `ε`. -/
class SerialLine (δ : Type) (ε : outParam Type) where
  /-- Open at a baud rate. -/
  openAt : UInt32 → δ → Except ε Unit × δ
  /-- Number of received bytes waiting. -/
  waiting : δ → Nat × δ
  /-- Take one received byte. -/
  takeByte : δ → Except ε UInt8 × δ
  /-- Write bytes, giving how many were accepted. -/
  write : List UInt8 → δ → Except ε Nat × δ
  close : δ → δ
  /-- Milliseconds since some moment. -/
  millis : δ → UInt32 × δ
  /-- At least the number of bytes that can be taken before none are waiting. -/
  backlog : δ → Nat

namespace SerialLine

variable {δ ε : Type} [SerialLine δ ε]

/-- Milliseconds since `since`, across a wrap of the clock too. -/
def elapsed (since : UInt32) (d : δ) : UInt32 × δ :=
  let (now, d) := millis d
  (now - since, d)

end SerialLine

/-- The backlog is a bound: a byte that was waiting lowers it when it is taken. -/
class LawfulSerialLine (δ : Type) {ε : Type} [SerialLine δ ε] : Prop where
  backlog_lt : ∀ (d : δ) (byte : UInt8), (SerialLine.waiting d).1 ≠ 0 →
    (SerialLine.takeByte (SerialLine.waiting d).2).1 = .ok byte →
    SerialLine.backlog (SerialLine.takeByte (SerialLine.waiting d).2).2 < SerialLine.backlog d

end XYStage
