/-
# XYStage.Controller.Basic -- the control loop of the stage

The controller owns the link to the host, both axes, the temperature sensors, the
calibration and its store. Events of the axes are applied as they are drained
from their queue (`Controller.drain`); `Controller.poll` is one iteration of the
loop:

1. reload the calibration if the store reports a change;
2. once no axis is moving, take the status on: the homing phases, the end of a
   move, faults (`Controller.progress`);
3. receive at most one frame and carry out its command (`Controller.carryOut`).

A reply is posted, never waited for; its acknowledgement is taken by a later
poll. A reply that cannot be written ends the poll, after the command has taken
effect and before it is recorded as handled.
-/
import XYStage.Calibration.Basic
import XYStage.Controller.Axes
import XYStage.Controller.Report
import XYStage.Motion.InputEvent
import XYStage.Temperature.Source
import XYStage.Wire.Command
import XYStage.Wire.Reply

namespace XYStage

set_option autoImplicit false

/-- The controller over a serial line `δ`, axis hardware `α`, a source of
temperatures `π` and a store of settings `σ`. -/
structure Controller (δ α π σ : Type) where
  exchange : Exchange δ
  axes : Axes α
  sensors : π
  store : σ
  calibration : Calibration
  status : Status

namespace Controller

variable {δ ε α π σ : Type}

/-- Act on the line under the link. -/
def onLine {τ : Type} (f : δ → τ × δ) (c : Controller δ α π σ) : τ × Controller δ α π σ :=
  let (answer, exchange) := c.exchange.onFrames fun l => l.onLine f
  (answer, { c with exchange })

/-- Change the status by an event, telling of the change if there is one. -/
def takeEvent (event : StatusEvent) (c : Controller δ α π σ) :
    Option StatusChange × Controller δ α π σ :=
  let after := c.status.next event
  (if c.status = after then none else some ⟨c.status, after⟩, { c with status := after })

section Store

variable [SettingStore σ]

/-- A controller that is idle, with the calibration of its store; the defaults
serve if the store cannot be read. -/
def new (exchange : Exchange δ) (axes : Axes α) (sensors : π) (store : σ) : Controller δ α π σ :=
  let (loaded, store) := Calibration.ofStore store
  let (_, store) := SettingStore.takeNotice store
  let calibration :=
    match loaded with
    | .ok calibration => calibration
    | .error _ => .default
  { exchange, axes, sensors, store, calibration, status := .idle }

/-- Reload the calibration if the store has changed, telling whether that
succeeded. A store that cannot be read leaves the calibration as it is. -/
def reload (c : Controller δ α π σ) : Bool × Controller δ α π σ :=
  let (changed, store) := SettingStore.takeNotice c.store
  if changed then
    match Calibration.ofStore store with
    | (.ok calibration, store) => (true, { c with store, calibration })
    | (.error _, store) => (false, { c with store })
  else (false, { c with store })

/-- Take a calibration value and store it. A value that cannot be stored stays in
effect. -/
def calibrate (key : ParameterKey) (value : Single) (record : PollRecord)
    (c : Controller δ α π σ) : ResultCode × PollRecord × Controller δ α π σ :=
  let setting := if key.holdsFlag then Setting.flag (!value.equals 0) else Setting.number value
  match c.calibration.assign key setting with
  | .error _ => (.invalid, record, c)
  | .ok calibration =>
      let c := { c with calibration }
      match SettingStore.write key.toByte setting c.store with
      | (.ok (), store) => (.ok, { record with storeFailure := none }, { c with store })
      | (.error e, store) => (.ok, { record with storeFailure := some e }, { c with store })

end Store

section Motion

variable [AxisHardware α]

/-- Apply one event to its axis, telling whether that ended a motion. -/
def handle (event : InputEvent) (c : Controller δ α π σ) :
    Option MotionEnding × Controller δ α π σ :=
  let axis := c.axes.get event.axis
  let put (axis : Axis α) : Controller δ α π σ := { c with axes := c.axes.set event.axis axis }
  match event with
  | .encoder id =>
      let (completed, axis) := axis.encoderEdge
      (if completed then some (.completed id) else none, put axis)
  | .rampTick _ => (none, put axis.rampTick)
  | .switchEdge id switch pressed time =>
      let (edge, axis) := axis.switchEdge switch pressed time
      (if edge = .stopped then some (.blocked id switch) else none, put axis)

/-- Apply events in order, telling which motions ended. -/
def handleAll : List InputEvent → Controller δ α π σ → List MotionEnding × Controller δ α π σ
  | [], c => ([], c)
  | event :: rest, c =>
      let (ended, c) := c.handle event
      let (ends, c) := handleAll rest c
      (ended.toList ++ ends, c)

/-- Apply every queued event, telling how many there were and which motions
ended. -/
def drain (queue : EventQueue) (c : Controller δ α π σ) :
    Nat × List MotionEnding × EventQueue × Controller δ α π σ :=
  let (ends, c) := c.handleAll queue.events
  (queue.events.length, ends, queue.clear, c)

/-- Make up for the lost edges of one axis. -/
def recoverAxis (id : AxisId) (now : UInt32) (c : Controller δ α π σ) :
    List MotionEnding × Controller δ α π σ :=
  let (stopped, axis) := (c.axes.get id).recoverEdges now
  ((stopped.map (.blocked id)).toList, { c with axes := c.axes.set id axis })

/-- Make up for lost switch edges whose debounce window is over, telling which
motions that stopped. -/
def recoverEdges (now : UInt32) (c : Controller δ α π σ) :
    List MotionEnding × Controller δ α π σ :=
  let (endsX, c) := c.recoverAxis .x now
  let (endsY, c) := c.recoverAxis .y now
  (endsX ++ endsY, c)

/-- The motion of a homing leg: at home velocity, for as far as there is. -/
def homingMotion (direction : Direction) (cal : AxisRates) : Motion where
  direction
  distance := direction.sign * 2147483647
  acceleration := cal.acceleration
  startVelocity := cal.homeVelocity
  holdVelocity := cal.homeVelocity

/-- Start one axis on a homing leg. An axis that refuses is left alone; the
switches are looked at when the leg is over. -/
def startLegOf (direction : Direction) (id : AxisId) (c : Controller δ α π σ) :
    Controller δ α π σ :=
  let (_, axis) := (c.axes.get id).start (homingMotion direction (c.calibration.axis id))
  { c with axes := c.axes.set id axis }

/-- Start both axes on a homing leg, X first. -/
def startLeg (direction : Direction) (c : Controller δ α π σ) : Controller δ α π σ :=
  (c.startLegOf direction .x).startLegOf direction .y

/-- Take the status on, once no axis is moving. Retracting starts both axes away
from their home switches; its end makes the present positions zero. -/
def progress (c : Controller δ α π σ) : Option StatusChange × Controller δ α π σ :=
  if c.axes.anyMoving then (none, c)
  else
    match c.takeEvent (.rested c.axes.limits) with
    | (none, c) => (none, c)
    | (some t, c) =>
        let c :=
          if t.before = .homing .seek ∧ t.after = .homing .retract then
            let c := c.startLeg .positive
            { c with axes := c.axes.map Axis.endOnRelease }
          else if t.before = .homing .retract ∧ t.after = .idle then
            { c with axes := c.axes.map Axis.reset }
          else c
        (some t, c)

/-- Start homing, if the device is idle. -/
def home (record : PollRecord) (c : Controller δ α π σ) :
    ResultCode × PollRecord × Controller δ α π σ :=
  if c.status ≠ .idle then (.busy, record, c)
  else
    let (onCommand, c) := (c.startLeg .negative).takeEvent .homingStarted
    (.ok, { record with onCommand }, c)

/-- The motion a request asks for. -/
def requestedMotion (request : MoveRequest) (cal : AxisRates) : Motion where
  direction := request.direction
  distance := request.distance
  acceleration := if request.acceleration = 0 then cal.acceleration else request.acceleration
  startVelocity := cal.startVelocity
  holdVelocity := request.holdVelocity

/-- Start a move, if the device accepts one and so does the axis. -/
def move (request : MoveRequest) (record : PollRecord) (c : Controller δ α π σ) :
    ResultCode × PollRecord × Controller δ α π σ :=
  if !c.status.allowsMove then (.busy, record, c)
  else
    let motion := requestedMotion request (c.calibration.axis request.axis)
    match (c.axes.get request.axis).start motion with
    | (.error e, axis) => (e.code, record, { c with axes := c.axes.set request.axis axis })
    | (.ok (), axis) =>
        let (onCommand, c) := { c with axes := c.axes.set request.axis axis }.takeEvent .moveStarted
        (.ok, { record with onCommand }, c)

/-- Halt both axes and clear any fault. -/
def stop (record : PollRecord) (c : Controller δ α π σ) : PollRecord × Controller δ α π σ :=
  let (onCommand, c) := { c with axes := c.axes.halt }.takeEvent .stopped
  ({ record with onCommand }, c)

variable [SerialLine δ ε] [TemperatureSource π] [SettingStore σ]

/-- Carry out a command: the reply to send, if it has one, and the result code in
it, if it has one. -/
def execute (command : Command) (record : PollRecord) (c : Controller δ α π σ) :
    Option Reply × Option ResultCode × PollRecord × Controller δ α π σ :=
  match command with
  | .ping data => (some (.log data), none, record, c)
  | .getStatus => (some (.status c.status.code), none, record, c)
  | .home =>
      let (code, record, c) := c.home record
      (some (.axisResult code), some code, record, c)
  | .move request =>
      let (code, record, c) := c.move request record
      (some (.axisResult code), some code, record, c)
  | .stop =>
      let (record, c) := c.stop record
      (none, none, record, c)
  | .getPosition =>
      (some (.position c.axes.x.state.position c.axes.y.state.position), none, record, c)
  | .getAxisState axis => (some (.axisState (c.axes.get axis).report), none, record, c)
  | .getTemperature =>
      let (values, sensors) := measureAll c.calibration c.sensors
      (some (.temperature values), none, record, { c with sensors })
  | .calibrate key value =>
      let (code, record, c) := c.calibrate key value record
      (some (.axisResult code), some code, record, c)

/-- Post a reply and record the frame as handled. A reply that cannot be written
leaves the record as it is. -/
def conclude (reply : Option Reply) (fate : FrameFate) (record : PollRecord)
    (c : Controller δ α π σ) : PollReport ε × Controller δ α π σ :=
  match reply with
  | none => (⟨{ record with fate := some fate }, none⟩, c)
  | some reply =>
      match c.exchange.post reply.toFrame with
      | (.ok (), exchange) => (⟨{ record with fate := some fate }, none⟩, { c with exchange })
      | (.error e, exchange) => (⟨record, some e⟩, { c with exchange })

/-- Carry out the command in a frame. A payload that is refused is answered only
where the command would be answered by a result. -/
def carryOut (frame : Frame) (record : PollRecord) (c : Controller δ α π σ) :
    PollReport ε × Controller δ α π σ :=
  match Command.ofFrame frame with
  | .ok command =>
      let (reply, result, record, c) := c.execute command record
      c.conclude reply (.executed command.id result) record
  | .error (.unknownId id) => c.conclude none (.unknown id) record
  | .error (.wrongSize id _ _) | .error (.badField id) =>
      let replied := Command.answersWithResult id
      c.conclude (if replied then some (.axisResult .invalid) else none)
        (.refused id replied) record

/-- Give up an overdue acknowledgement, then receive at most one frame. An
acknowledgement is no command. -/
def listen (record : PollRecord) (c : Controller δ α π σ) : PollReport ε × Controller δ α π σ :=
  match c.exchange.expire with
  | (.error e, exchange) => (⟨record, some e⟩, { c with exchange })
  | (.ok (), exchange) =>
      match exchange.check with
      | (.error e, exchange) => (⟨record, some e⟩, { c with exchange })
      | (.ok none, exchange) => (⟨record, none⟩, { c with exchange })
      | (.ok (some frame), exchange) =>
          let c := { c with exchange }
          if frame.id = MessageId.ack then (⟨record, none⟩, c)
          else c.carryOut frame record

/-- One iteration of the control loop. -/
def poll (c : Controller δ α π σ) : PollReport ε × Controller δ α π σ :=
  let (reloaded, c) := c.reload
  let (rested, c) := c.progress
  c.listen { PollRecord.nothing with reloaded, rested }

end Motion

end Controller

end XYStage
