/-
# XYStage.Link.Host -- the host's side

One operation per command. Each sends its command, waits for the acknowledgement
and, unless the command is `stop`, for the one reply that answers it. A reply
with another identifier fails the operation; one request is in flight at a time.
-/
import XYStage.Link.Exchange
import XYStage.Wire.Command
import XYStage.Wire.Reply

namespace XYStage

set_option autoImplicit false

/-- Why an operation of the host failed. -/
inductive HostError (ε : Type) where
  | exchange (error : ExchangeError ε)
  | reply (error : MessageError)
  | frame (error : FrameError)
  /-- A reply came, but not the one that answers the command. -/
  | wrongReply (id : UInt8)
  /-- The data of a ping came back changed. -/
  | wrongEcho
  deriving DecidableEq

def HostError.message {ε : Type} [ToString ε] : HostError ε → String
  | .exchange error => error.message
  | .reply error => error.message
  | .frame error => error.message
  | .wrongReply id => "unexpected reply " ++ MessageId.text id
  | .wrongEcho => "ping echo mismatch"

/-- The host's side of an exchange, and how long to wait for a reply after its
acknowledgement. -/
structure Host (δ : Type) where
  exchange : Exchange δ
  /-- Milliseconds. -/
  replyTimeout : UInt32

namespace Host

variable {δ ε : Type}

/-- Milliseconds to wait for a reply unless told otherwise. -/
def defaultReplyTimeout : UInt32 := 1000

def new (line : δ) : Host δ := ⟨.new line, defaultReplyTimeout⟩

/-- Act on the exchange. -/
def onExchange {α : Type} (f : Exchange δ → α × Exchange δ) (h : Host δ) : α × Host δ :=
  let (answer, exchange) := f h.exchange
  (answer, { h with exchange })

variable [SerialLine δ ε]

/-- Send a command and wait for its acknowledgement. -/
def send (command : Command) (h : Host δ) : Except (HostError ε) Unit × Host δ :=
  match h.exchange.send command.toFrame with
  | (.error e, exchange) => (.error (.exchange e), { h with exchange })
  | (.ok (), exchange) => (.ok (), { h with exchange })

/-- Send a command and wait for the reply with identifier `expected`. -/
def query (command : Command) (expected : UInt8) (h : Host δ) :
    Except (HostError ε) Reply × Host δ :=
  match h.send command with
  | (.error e, h) => (.error e, h)
  | (.ok (), h) =>
      match h.exchange.receive h.replyTimeout with
      | (.error e, exchange) => (.error (.exchange e), { h with exchange })
      | (.ok frame, exchange) =>
          let answer :=
            if frame.id = expected then (Reply.ofFrame frame).mapError .reply
            else .error (.wrongReply frame.id)
          (answer, { h with exchange })

/-- Send a command and read its answer off the reply. -/
def ask {α : Type} (command : Command) (expected : UInt8) (answer? : Reply → Option α)
    (h : Host δ) : Except (HostError ε) α × Host δ :=
  match h.query command expected with
  | (.error e, h) => (.error e, h)
  | (.ok reply, h) =>
      match answer? reply with
      | some answer => (.ok answer, h)
      | none => (.error (.wrongReply reply.id), h)

/-- Send data and verify that it comes back. -/
def ping (data : List UInt8) (h : Host δ) : Except (HostError ε) Unit × Host δ :=
  match Payload.ofBytes? data with
  | none => (.error (.frame .payloadTooLarge), h)
  | some payload =>
      match h.ask (.ping payload) MessageId.log (fun | .log echo => some echo | _ => none) with
      | (.error e, h) => (.error e, h)
      | (.ok echo, h) => (if echo = payload then .ok () else .error .wrongEcho, h)

/-- Query the operating mode. -/
def status (h : Host δ) : Except (HostError ε) StatusCode × Host δ :=
  h.ask .getStatus MessageId.status fun | .status code => some code | _ => none

/-- Send a command that is answered by a result code. -/
def command (command : Command) (h : Host δ) : Except (HostError ε) ResultCode × Host δ :=
  h.ask command MessageId.axisResult fun | .axisResult code => some code | _ => none

/-- Start homing both axes. -/
def home (h : Host δ) : Except (HostError ε) ResultCode × Host δ :=
  h.command .home

/-- Request a move on one axis. -/
def move (request : MoveRequest) (h : Host δ) :
    Except (HostError ε) ResultCode × Host δ :=
  h.command (.move request)

/-- Set one calibration value. -/
def calibrate (key : ParameterKey) (value : Single) (h : Host δ) :
    Except (HostError ε) ResultCode × Host δ :=
  h.command (.calibrate key value)

/-- Halt both axes; only the acknowledgement is awaited. -/
def stop (h : Host δ) : Except (HostError ε) Unit × Host δ :=
  h.send .stop

/-- Read both encoder positions. -/
def position (h : Host δ) : Except (HostError ε) (Int32 × Int32) × Host δ :=
  h.ask .getPosition MessageId.position fun | .position x y => some (x, y) | _ => none

/-- Read the state of one axis. -/
def axisState (axis : AxisId) (h : Host δ) : Except (HostError ε) AxisReport × Host δ :=
  h.ask (.getAxisState axis) MessageId.axisState
    fun | .axisState report => some report | _ => none

/-- Read every temperature channel. -/
def temperature (h : Host δ) : Except (HostError ε) Temperatures × Host δ :=
  h.ask .getTemperature MessageId.temperature
    fun | .temperature values => some values | _ => none

end Host

end XYStage
