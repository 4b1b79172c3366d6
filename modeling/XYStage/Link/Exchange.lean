/-
# XYStage.Link.Exchange -- acknowledged frames

Every frame a peer receives, except `ack` and `nack`, is acknowledged at once
with an empty `ack`. `Exchange.send` waits for that acknowledgement.
`Exchange.post` does not: it remembers when the frame was written, a later
`Exchange.check` takes the acknowledgement, and `Exchange.expire` reports it
overdue. Nothing is ever sent again.
-/
import XYStage.Link.FrameLine
import XYStage.Wire.Message

namespace XYStage

set_option autoImplicit false

/-- Why an exchange of frames failed. -/
inductive ExchangeError (ε : Type) where
  | line (error : FrameLineError ε)
  /-- A frame was answered by this instead of `ack`. -/
  | notAcknowledged (id : UInt8)
  deriving DecidableEq

namespace ExchangeError

variable {ε : Type}

def message [ToString ε] : ExchangeError ε → String
  | .line error => error.message
  | .notAcknowledged id => "expected ACK, got message " ++ MessageId.text id

def isTimeout : ExchangeError ε → Bool
  | .line .timeout => true
  | _ => false

end ExchangeError

/-- A line of frames with the bookkeeping of acknowledgements. -/
structure Exchange (δ : Type) where
  frames : FrameLine δ
  /-- Milliseconds to wait for an acknowledgement. -/
  ackTimeout : UInt32
  /-- When the posted frame that still lacks its acknowledgement was written. -/
  postedAt : Option UInt32

namespace Exchange

variable {δ ε : Type}

/-- Milliseconds to wait for an acknowledgement unless told otherwise. -/
def defaultAckTimeout : UInt32 := 500

def withTimeout (line : δ) (ackTimeout : UInt32) : Exchange δ :=
  ⟨.new line, ackTimeout, none⟩

def new (line : δ) : Exchange δ :=
  withTimeout line defaultAckTimeout

/-- Act on the line of frames. -/
def onFrames {α : Type} (f : FrameLine δ → α × FrameLine δ) (x : Exchange δ) : α × Exchange δ :=
  let (answer, frames) := f x.frames
  (answer, { x with frames })

/-- Whether a posted frame has not been acknowledged. -/
def isAwaiting (x : Exchange δ) : Bool :=
  x.postedAt.isSome

variable [SerialLine δ ε]

/-- Send a frame and wait for its acknowledgement. -/
def send (frame : Frame) (x : Exchange δ) : Except (ExchangeError ε) Unit × Exchange δ :=
  let x := { x with postedAt := none }
  match x.frames.send frame with
  | (.error e, frames) => (.error (.line e), { x with frames })
  | (.ok (), frames) =>
      match frames.receive x.ackTimeout with
      | (.error e, frames) => (.error (.line e), { x with frames })
      | (.ok reply, frames) =>
          (if reply.id = MessageId.ack then .ok () else .error (.notAcknowledged reply.id),
            { x with frames })

/-- Send a frame without waiting. The wait for an earlier one is forgotten. -/
def post (frame : Frame) (x : Exchange δ) : Except (ExchangeError ε) Unit × Exchange δ :=
  match x.frames.send frame with
  | (.error e, frames) => (.error (.line e), { x with frames })
  | (.ok (), frames) =>
      let (now, line) := SerialLine.millis frames.line
      (.ok (), { x with frames := { frames with line }, postedAt := some now })

/-- Give up on a posted frame whose acknowledgement is overdue. The clock is
read only while one is awaited. -/
def expire (x : Exchange δ) : Except (ExchangeError ε) Unit × Exchange δ :=
  match x.postedAt with
  | none => (.ok (), x)
  | some sent =>
      let (elapsed, line) := SerialLine.elapsed sent x.frames.line
      let x := { x with frames := { x.frames with line } }
      if x.ackTimeout ≤ elapsed then (.error (.line .timeout), { x with postedAt := none })
      else (.ok (), x)

/-- Acknowledge a received frame, unless it is itself an acknowledgement. -/
def acknowledge (frame : Frame) (x : Exchange δ) : Except (ExchangeError ε) Unit × Exchange δ :=
  if frame.id = MessageId.ack ∨ frame.id = MessageId.nack then (.ok (), x)
  else
    match x.frames.send (Frame.empty MessageId.ack) with
    | (.error e, frames) => (.error (.line e), { x with frames })
    | (.ok (), frames) => (.ok (), { x with frames })

/-- Acknowledge a frame and hand it on. -/
def accept (frame : Frame) (x : Exchange δ) : Except (ExchangeError ε) Frame × Exchange δ :=
  match x.acknowledge frame with
  | (.error e, x) => (.error e, x)
  | (.ok (), x) => (.ok frame, x)

/-- The next complete frame, if there is one, after acknowledging it. While a
posted frame is pending, an `ack` settles it and a `nack` fails it. -/
def check (x : Exchange δ) : Except (ExchangeError ε) (Option Frame) × Exchange δ :=
  match x.frames.check with
  | (.error e, frames) => (.error (.line e), { x with frames })
  | (.ok none, frames) => (.ok none, { x with frames })
  | (.ok (some frame), frames) =>
      let x := { x with frames }
      if x.isAwaiting ∧ frame.id = MessageId.nack then
        (.error (.notAcknowledged MessageId.nack), { x with postedAt := none })
      else
        let x := if frame.id = MessageId.ack then { x with postedAt := none } else x
        match x.accept frame with
        | (.error e, x) => (.error e, x)
        | (.ok frame, x) => (.ok (some frame), x)

/-- Wait for a frame and acknowledge it. A pending post is left pending. -/
def receive (timeout : UInt32) (x : Exchange δ) : Except (ExchangeError ε) Frame × Exchange δ :=
  match x.frames.receive timeout with
  | (.error e, frames) => (.error (.line e), { x with frames })
  | (.ok frame, frames) => { x with frames }.accept frame

end Exchange

end XYStage
