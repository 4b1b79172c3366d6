/-
# XYStage.Bench.Script -- a serial line that follows a script

What the line receives, when, and which of its operations fail is given
beforehand; what is written to it is kept. Its clock advances by a fixed tick at
every reading and at no other time.
-/
import XYStage.Link.SerialLine

namespace XYStage

set_option autoImplicit false

/-- Failures of a scripted line. -/
inductive ScriptError where
  | read
  | write
  deriving DecidableEq

instance : ToString ScriptError where
  toString
    | .read => "Read"
    | .write => "Write"

/-- A scripted line. -/
structure Script where
  /-- Bytes waiting to be read. -/
  received : List UInt8
  /-- Bytes to come, with the clock value from which they are there. -/
  arrivals : List (UInt32 × List UInt8)
  /-- Everything written. -/
  sent : List UInt8
  clock : UInt32
  /-- What a reading adds to the clock. -/
  tick : UInt32
  /-- Most bytes accepted by one write, if limited. -/
  writeBound : Option Nat
  /-- The number of reads that still succeed before one fails, if one is to. -/
  failRead : Option Nat
  /-- Whether the next write fails. -/
  failWrite : Bool
  /-- The baud rate of the last opening. -/
  baudRate : Option UInt32

namespace Script

def idle : Script where
  received := []
  arrivals := []
  sent := []
  clock := 0
  tick := 1
  writeBound := none
  failRead := none
  failWrite := false
  baudRate := none

/-- Arrivals at the head of the queue that are there at a clock value, as bytes,
and the rest of the queue. -/
def arrived (clock : UInt32) : List (UInt32 × List UInt8) → List UInt8 × List (UInt32 × List UInt8)
  | [] => ([], [])
  | (time, bytes) :: rest =>
      if time ≤ clock then
        let (more, later) := arrived clock rest
        (bytes ++ more, later)
      else ([], (time, bytes) :: rest)

def waiting (s : Script) : Nat × Script :=
  let (bytes, arrivals) := arrived s.clock s.arrivals
  let s := { s with received := s.received ++ bytes, arrivals }
  (s.received.length, s)

def takeByte (s : Script) : Except ScriptError UInt8 × Script :=
  if s.failRead = some 0 then (.error .read, { s with failRead := none })
  else
    match s.received with
    | [] => (.error .read, s)
    | byte :: rest => (.ok byte, { s with received := rest, failRead := s.failRead.map (· - 1) })

def write (bytes : List UInt8) (s : Script) : Except ScriptError Nat × Script :=
  if s.failWrite then (.error .write, { s with failWrite := false })
  else
    let accepted := bytes.take (s.writeBound.getD bytes.length)
    (.ok accepted.length, { s with sent := s.sent ++ accepted })

instance : SerialLine Script ScriptError where
  openAt rate s := (.ok (), { s with baudRate := some rate })
  waiting := waiting
  takeByte := takeByte
  write := write
  close s := { s with baudRate := none }
  millis s := (s.clock, { s with clock := s.clock + s.tick })
  backlog s := s.received.length + (s.arrivals.flatMap (·.2)).length

/-- No byte is lost between what has arrived and what is to come. -/
theorem arrived_append (clock : UInt32) (arrivals : List (UInt32 × List UInt8)) :
    (arrived clock arrivals).1 ++ (arrived clock arrivals).2.flatMap (·.2) =
      arrivals.flatMap (·.2) := by
  induction arrivals with
  | nil => rfl
  | cons arrival rest ih =>
      simp only [arrived]
      split
      · simp only [List.append_assoc, ih, List.flatMap_cons]
      · rfl

instance : LawfulSerialLine Script where
  backlog_lt s byte hw h := by
    have hs := congrArg List.length (arrived_append s.clock s.arrivals)
    simp only [List.length_append] at hs
    simp only [SerialLine.waiting, SerialLine.takeByte, SerialLine.backlog, waiting, takeByte]
      at hw h ⊢
    by_cases hf : s.failRead = some 0
    · simp [hf] at h
    · cases hr : s.received ++ (arrived s.clock s.arrivals).1 with
      | nil => simp [hr] at hw
      | cons first rest =>
          have hl := congrArg List.length hr
          simp only [List.length_append, List.length_cons] at hl
          simp only [hf, reduceIte]
          omega

end Script

end XYStage
