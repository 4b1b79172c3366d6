/-
# XYStage.Bench.Wire -- a UART that follows a script
-/
import XYStage.Board.UartLine

namespace XYStage

set_option autoImplicit false

/-- A UART whose answers are given beforehand. -/
structure BenchWire where
  received : List UInt8
  sent : List UInt8
  /-- Bytes accepted by each coming write; afterwards everything is. -/
  chunks : List Nat
  /-- How the next read fails, if it does. -/
  readError : Option UartError
  /-- How the next query of the receive buffer fails, if it does. -/
  readyError : Option UartError
  /-- The number of writes that still succeed before one fails, and how. -/
  writeError : Option (Nat × UartError)
  baudRate : UInt32
  /-- Number of flushes. -/
  flushes : Nat
  /-- Time in microseconds. -/
  now : Nat

namespace BenchWire

def idle : BenchWire where
  received := []
  sent := []
  chunks := []
  readError := none
  readyError := none
  writeError := none
  baudRate := 0
  flushes := 0
  now := 0

def readReady (w : BenchWire) : Except UartError Bool × BenchWire :=
  match w.readyError with
  | some error => (.error error, { w with readyError := none })
  | none => (.ok (!w.received.isEmpty), w)

def read (w : BenchWire) : Except UartError (Option UInt8) × BenchWire :=
  match w.readError with
  | some error => (.error error, { w with readError := none })
  | none => (.ok w.received.head?, { w with received := w.received.tail })

/-- Accept as much of the data as the next chunk allows. -/
def accept (data : List UInt8) (w : BenchWire) : Except UartError Nat × BenchWire :=
  let accepted := data.take (w.chunks.headD data.length)
  (.ok accepted.length, { w with sent := w.sent ++ accepted, chunks := w.chunks.tail })

def write (data : List UInt8) (w : BenchWire) : Except UartError Nat × BenchWire :=
  match w.writeError with
  | some (0, error) => (.error error, { w with writeError := none })
  | some (n + 1, error) => { w with writeError := some (n, error) }.accept data
  | none => w.accept data

instance : Uart BenchWire where
  setBaudRate rate w := { w with baudRate := rate }
  readReady := readReady
  read := read
  write := write
  flush w := { w with flushes := w.flushes + 1 }
  micros w := w.now
  backlog w := w.received.length

instance : LawfulUart BenchWire where
  backlog_lt w byte hq h := by
    simp only [Uart.readReady, Uart.read, Uart.backlog, readReady, read] at hq h ⊢
    cases hy : w.readyError <;> cases hr : w.readError <;> cases hw : w.received <;> simp_all

end BenchWire

end XYStage
