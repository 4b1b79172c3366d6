/-
# XYStage.Board.UartLine -- the host link over a buffered UART

A `Uart` accepts any leading part of what it is offered in one write, possibly
nothing, or fails. `UartLine.writeAll` offers the rest again until the UART has
taken everything, takes nothing more, or fails. The fill level of the receive
buffer is not known, only whether there is anything, so a line reports at most
one byte waiting; a closed line reports none and sends nothing.
-/
import XYStage.Link.SerialLine

namespace XYStage

set_option autoImplicit false

/-- Receive errors of a UART. -/
inductive UartError where
  | overrun
  | breakCondition
  | parity
  | framing
  deriving DecidableEq

instance : ToString UartError where
  toString
    | .overrun => "Overrun"
    | .breakCondition => "Break"
    | .parity => "Parity"
    | .framing => "Framing"

/-- A buffered UART with the board's clock, over states `υ`. -/
class Uart (υ : Type) where
  setBaudRate : UInt32 → υ → υ
  /-- Whether anything has been received. -/
  readReady : υ → Except UartError Bool × υ
  /-- Take one received byte, if there is one. -/
  read : υ → Except UartError (Option UInt8) × υ
  /-- Offer bytes, giving how many were taken. -/
  write : List UInt8 → υ → Except UartError Nat × υ
  flush : υ → υ
  /-- Time in microseconds. -/
  micros : υ → Nat
  /-- At least the number of bytes that can be taken before none are left. -/
  backlog : υ → Nat

/-- The backlog is a bound: a read when there is something to take lowers it. -/
class LawfulUart (υ : Type) [Uart υ] : Prop where
  backlog_lt : ∀ (u : υ) (byte : Option UInt8), (Uart.readReady u).1 = .ok true →
    (Uart.read (Uart.readReady u).2).1 = .ok byte →
    Uart.backlog (Uart.read (Uart.readReady u).2).2 < Uart.backlog u

/-- A UART as a serial line. -/
structure UartLine (υ : Type) where
  uart : υ
  isOpen : Bool

namespace UartLine

variable {υ : Type}

def new (uart : υ) : UartLine υ := ⟨uart, true⟩

variable [Uart υ]

/-- Offer `data` until all of it is taken, none is, or the UART fails; `written`
bytes were taken before. -/
def writeAll (data : List UInt8) (written : Nat) (uart : υ) : Except UartError Nat × υ :=
  if data = [] then (.ok written, uart)
  else
    match Uart.write data uart with
    | (.error e, uart) => (.error e, uart)
    | (.ok 0, uart) => (.ok written, uart)
    | (.ok (n + 1), uart) => writeAll (data.drop (n + 1)) (written + (n + 1)) uart
termination_by data.length
decreasing_by
  have := List.length_pos_iff.mpr ‹¬data = []›
  simp only [List.length_drop]
  omega

def waiting (line : UartLine υ) : Nat × UartLine υ :=
  if !line.isOpen then (0, line)
  else
    match Uart.readReady line.uart with
    | (.ok true, uart) => (1, { line with uart })
    | (_, uart) => (0, { line with uart })

/-- A read that finds nothing gives a zero byte. -/
def takeByte (line : UartLine υ) : Except UartError UInt8 × UartLine υ :=
  match Uart.read line.uart with
  | (.error e, uart) => (.error e, { line with uart })
  | (.ok byte, uart) => (.ok (byte.getD 0), { line with uart })

def write (data : List UInt8) (line : UartLine υ) : Except UartError Nat × UartLine υ :=
  if !line.isOpen then (.ok 0, line)
  else
    let (result, uart) := writeAll data 0 line.uart
    (result, { line with uart })

instance : SerialLine (UartLine υ) UartError where
  openAt rate line := (.ok (), { uart := Uart.setBaudRate rate line.uart, isOpen := true })
  waiting := waiting
  takeByte := takeByte
  write := write
  close line := { uart := Uart.flush line.uart, isOpen := false }
  millis line := (UInt32.ofNat (Uart.micros line.uart / 1000), line)
  backlog line := Uart.backlog line.uart

instance [LawfulUart υ] : LawfulSerialLine (UartLine υ) where
  backlog_lt line byte hw h := by
    simp only [SerialLine.waiting, SerialLine.takeByte, SerialLine.backlog, waiting, takeByte]
      at hw h ⊢
    cases ho : line.isOpen with
    | false => simp [ho] at hw
    | true =>
        have hlt := LawfulUart.backlog_lt line.uart
        cases hq : Uart.readReady line.uart with
        | mk ready u =>
          cases hr : Uart.read u with
          | mk answer v =>
            rcases ready with e | _ | _ <;> simp_all
            cases answer <;> simp_all

end UartLine

end XYStage
