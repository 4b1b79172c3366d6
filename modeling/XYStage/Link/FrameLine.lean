/-
# XYStage.Link.FrameLine -- frames over a serial line

A `FrameLine` is a serial line together with the parser of what has been received
from it. `FrameLine.check` takes waiting bytes until one frame completes and
leaves the rest in the line; a frame without its end delimiter is counted and
skipped. `FrameLine.receive` checks again and again until a frame completes or
the timeout has passed on the line's clock. `FrameLine.send` hands a whole frame
to the line in one write.

The bytes that one check takes are bounded by the backlog of the line, a budget that
is never used up (`FrameLine.take_takes`).
-/
import XYStage.Link.SerialLine
import XYStage.Wire.Parser

namespace XYStage

set_option autoImplicit false

/-- Why a frame could not be received or sent. -/
inductive FrameLineError (ε : Type) where
  | line (error : ε)
  /-- The line accepted fewer bytes than the frame has. -/
  | shortWrite
  /-- No frame was complete in time. -/
  | timeout
  /-- The clock took more readings than it has values without reaching the
  timeout, so it never will. -/
  | stalled
  deriving DecidableEq

def FrameLineError.message {ε : Type} [ToString ε] : FrameLineError ε → String
  | .line error => "device error: " ++ toString error
  | .shortWrite => "short write"
  | .timeout => "timed out waiting for frame"
  | .stalled => "clock does not advance"

/-- A serial line and the state of reception from it. -/
structure FrameLine (δ : Type) where
  line : δ
  parser : Parser
  /-- Number of frames dropped for a wrong end delimiter, modulo `2 ^ 32`. -/
  dropped : UInt32

namespace FrameLine

variable {δ ε : Type}

/-- Nothing received yet. -/
def new (line : δ) : FrameLine δ := ⟨line, .outside, 0⟩

/-- Whether a frame is partially received. -/
def isPartial (l : FrameLine δ) : Bool :=
  l.parser.isPartial

/-- Act on the line. -/
def onLine {α : Type} (f : δ → α × δ) (l : FrameLine δ) : α × FrameLine δ :=
  let (answer, line) := f l.line
  (answer, { l with line })

/-- Discard a partially received frame. -/
def reset (l : FrameLine δ) : FrameLine δ :=
  { l with parser := .outside }

variable [SerialLine δ ε]

/-- Take at most `budget` waiting bytes, up to the end of the first complete
frame. -/
def take : Nat → FrameLine δ → Except (FrameLineError ε) (Option Frame) × FrameLine δ
  | 0, l => (.ok none, l)
  | budget + 1, l =>
      let (waiting, line) := SerialLine.waiting l.line
      if waiting = 0 then (.ok none, { l with line })
      else
        match SerialLine.takeByte line with
        | (.error e, line) => (.error (.line e), { l with line })
        | (.ok byte, line) =>
            match l.parser.feed byte with
            | (.complete frame, parser) => (.ok (some frame), { l with line, parser })
            | (.pending, parser) => take budget { l with line, parser }
            | (.broken, parser) => take budget { line, parser, dropped := l.dropped + 1 }

/-- Take waiting bytes up to the end of the first complete frame. -/
def check (l : FrameLine δ) : Except (FrameLineError ε) (Option Frame) × FrameLine δ :=
  l.take (SerialLine.backlog l.line + 1)

/-- Check, and check again while less than `timeout` has passed since `started`,
at most `checks` times. -/
def poll (timeout started : UInt32) :
    Nat → FrameLine δ → Except (FrameLineError ε) Frame × FrameLine δ
  | 0, l => (.error .stalled, l)
  | checks + 1, l =>
      match l.check with
      | (.error e, l) => (.error e, l)
      | (.ok (some frame), l) => (.ok frame, l)
      | (.ok none, l) =>
          let (elapsed, line) := SerialLine.elapsed started l.line
          if timeout ≤ elapsed then (.error .timeout, { l with line, parser := .outside })
          else poll timeout started checks { l with line }

/-- The clock has this many values; one that advances evenly has shown all it
ever will after as many readings. -/
def clockReadings : Nat := UInt32.size

/-- Wait for a frame. On a timeout a partial frame is discarded. -/
def receive (timeout : UInt32) (l : FrameLine δ) :
    Except (FrameLineError ε) Frame × FrameLine δ :=
  let (started, line) := SerialLine.millis l.line
  poll timeout started clockReadings { l with line }

/-- Write one frame in a single write. -/
def send (frame : Frame) (l : FrameLine δ) : Except (FrameLineError ε) Unit × FrameLine δ :=
  match SerialLine.write frame.encode l.line with
  | (.error e, line) => (.error (.line e), { l with line })
  | (.ok written, line) =>
      (if written = frame.encodedSize then .ok () else .error .shortWrite, { l with line })

end FrameLine

end XYStage
