/-
# XYStage.Link.NullModem -- two serial lines joined back to back

A `NullModem` is a pair of pipes between two ends. What one end writes becomes
readable at the other, in order; the two directions do not touch. `Endpoint side`
is the link seen from one end, as a serial line, and `Joined` receives frames at
both ends of the one link.
-/
import XYStage.Link.FrameLine

namespace XYStage

set_option autoImplicit false

/-- The two ends of a null modem. -/
inductive Side where
  | a
  | b
  deriving DecidableEq

/-- Errors of an end. -/
inductive EndpointError where
  /-- Used while closed. -/
  | closed
  /-- Read with nothing received. -/
  | empty
  deriving DecidableEq

instance : ToString EndpointError where
  toString
    | .closed => "Closed"
    | .empty => "Empty"

/-- One end of a null modem. -/
structure ModemEnd where
  /-- Bytes written by the other end and not yet read. -/
  received : List UInt8
  isOpen : Bool
  /-- Most bytes accepted by one write, if limited. -/
  writeBound : Option Nat
  deriving DecidableEq

/-- Two ends and the clock they share. -/
structure NullModem where
  a : ModemEnd
  b : ModemEnd
  clock : UInt32
  deriving DecidableEq

namespace NullModem

/-- Two connected ends, both open. -/
def fresh : NullModem := ⟨⟨[], true, none⟩, ⟨[], true, none⟩, 0⟩

def get (side : Side) (link : NullModem) : ModemEnd :=
  match side with
  | .a => link.a
  | .b => link.b

def modify (side : Side) (f : ModemEnd → ModemEnd) (link : NullModem) : NullModem :=
  match side with
  | .a => { link with a := f link.a }
  | .b => { link with b := f link.b }

end NullModem

def Side.other : Side → Side
  | .a => .b
  | .b => .a

/-- A null modem seen from one end. -/
structure Endpoint (side : Side) where
  link : NullModem
  deriving DecidableEq

namespace Endpoint

variable {side : Side}

def state (e : Endpoint side) : ModemEnd :=
  e.link.get side

def modify (f : ModemEnd → ModemEnd) (e : Endpoint side) : Endpoint side :=
  ⟨e.link.modify side f⟩

/-- Make bytes readable as if the other end had written them. -/
def supply (bytes : List UInt8) (e : Endpoint side) : Endpoint side :=
  e.modify fun s => { s with received := s.received ++ bytes }

def limitWrites (limit : Option Nat) (e : Endpoint side) : Endpoint side :=
  e.modify fun s => { s with writeBound := limit }

def takeByte (e : Endpoint side) : Except EndpointError UInt8 × Endpoint side :=
  if e.state.isOpen then
    match e.state.received with
    | [] => (.error .empty, e)
    | byte :: rest => (.ok byte, e.modify fun s => { s with received := rest })
  else (.error .closed, e)

def write (bytes : List UInt8) (e : Endpoint side) : Except EndpointError Nat × Endpoint side :=
  if e.state.isOpen then
    let accepted := bytes.take (e.state.writeBound.getD bytes.length)
    (.ok accepted.length,
      ⟨e.link.modify side.other fun s => { s with received := s.received ++ accepted }⟩)
  else (.error .closed, e)

instance : SerialLine (Endpoint side) EndpointError where
  openAt _ e := (.ok (), e.modify fun s => { s with isOpen := true })
  waiting e := (e.state.received.length, e)
  takeByte := takeByte
  write := write
  close e := e.modify fun s => { s with isOpen := false }
  millis e := (e.link.clock, e)
  backlog e := e.state.received.length

instance : LawfulSerialLine (Endpoint side) where
  backlog_lt e byte _ h := by
    cases side <;> simp only [SerialLine.waiting, SerialLine.takeByte, SerialLine.backlog,
      takeByte] at h ⊢ <;> split <;> simp_all <;> split <;>
      simp_all [state, modify, NullModem.get, NullModem.modify]

end Endpoint

/-- A null modem with the state of reception at both of its ends. -/
structure Joined where
  link : NullModem
  parserA : Parser
  droppedA : UInt32
  parserB : Parser
  droppedB : UInt32

namespace Joined

/-- Two connected ends that have received nothing. -/
def new : Joined := ⟨.fresh, .outside, 0, .outside, 0⟩

/-- The line of frames at one end. -/
def frames (side : Side) (j : Joined) : FrameLine (Endpoint side) :=
  match side with
  | .a => ⟨⟨j.link⟩, j.parserA, j.droppedA⟩
  | .b => ⟨⟨j.link⟩, j.parserB, j.droppedB⟩

/-- Replace the line of frames at one end, and with it the link. -/
def setFrames (side : Side) (l : FrameLine (Endpoint side)) (j : Joined) : Joined :=
  match side with
  | .a => { j with link := l.line.link, parserA := l.parser, droppedA := l.dropped }
  | .b => { j with link := l.line.link, parserB := l.parser, droppedB := l.dropped }

end Joined

end XYStage
