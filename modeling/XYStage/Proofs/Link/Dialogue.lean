/-
# XYStage.Proofs.Link.Dialogue -- every operation of the host is answered by its reply

The bytes on a link between a host and a device, with what either parser has
already taken, are at every moment the encoded messages of a `Traffic`: commands
and acknowledgements on the way to the device, replies on the way back
(`Remote.Carries`). What happens at the device changes the traffic in one of two
ways (`Advances`): an acknowledgement is taken, or a command is, and its own
acknowledgement and its reply are written.

An operation of the host moves through three states of the traffic: nothing but
acknowledgements is under way (`Idle`); the command is, or has been served
(`Asked`); its reply is (`Due`). Each is kept by everything that happens at the
device, so each holds however the two sides are interleaved.

Main statement: as long as the host gives no wait up, the device executes exactly
the commands of the host's operations, and each operation gives what its own reply
says (`commands_served_in_order`).
-/
import XYStage.Link.Host
import XYStage.Proofs.Link.Remote
import XYStage.Proofs.Wire.Messages

namespace XYStage

set_option autoImplicit false

/-! ## Operations of the host -/

/-- What an operation of the host gives. -/
inductive Answer where
  /-- A stop that was acknowledged, or a ping whose data came back. -/
  | done
  | status (code : StatusCode)
  | result (code : ResultCode)
  | position (x y : Int32)
  | axisState (report : AxisReport)
  | temperature (values : Temperatures)
  deriving DecidableEq

/-- Which replies a command has, and what the operation that sends it makes of
them. -/
inductive Command.Answered : Command → Option Reply → Answer → Prop where
  | ping (data : Payload) : Answered (.ping data) (some (.log data)) .done
  | getStatus (code : StatusCode) : Answered .getStatus (some (.status code)) (.status code)
  | home (code : ResultCode) : Answered .home (some (.axisResult code)) (.result code)
  | move (request : MoveRequest) (code : ResultCode) :
      Answered (.move request) (some (.axisResult code)) (.result code)
  | stop : Answered .stop none .done
  | getPosition (x y : Int32) : Answered .getPosition (some (.position x y)) (.position x y)
  | getAxisState (axis : AxisId) (report : AxisReport) :
      Answered (.getAxisState axis) (some (.axisState report)) (.axisState report)
  | getTemperature (values : Temperatures) :
      Answered .getTemperature (some (.temperature values)) (.temperature values)
  | calibrate (key : ParameterKey) (value : Single) (code : ResultCode) :
      Answered (.calibrate key value) (some (.axisResult code)) (.result code)

theorem Controller.execute_answered {δ α π σ : Type} [AxisHardware α] [TemperatureSource π]
    [SettingStore σ] (command : Command) (record : PollRecord) (c : Controller δ α π σ) :
    ∃ answer, command.Answered (c.execute command record).1 answer := by
  cases command with
  | ping data => exact ⟨_, .ping data⟩
  | getStatus => exact ⟨_, .getStatus _⟩
  | home => exact ⟨_, .home _⟩
  | move request => exact ⟨_, .move request _⟩
  | stop => exact ⟨_, .stop⟩
  | getPosition => exact ⟨_, .getPosition _ _⟩
  | getAxisState axis => exact ⟨_, .getAxisState axis _⟩
  | getTemperature => exact ⟨_, .getTemperature _⟩
  | calibrate key value => exact ⟨_, .calibrate key value _⟩

/-- The host stopped waiting: time was up, or its clock never showed that it was. -/
def HostError.isGivenUp {ε : Type} : HostError ε → Bool
  | .exchange (.line .timeout) | .exchange (.line .stalled) => true
  | _ => false

namespace Host

variable {δ ε : Type} [SerialLine δ ε]

/-- The outcome of an operation as an answer. -/
def told {τ : Type} (answer : τ → Answer) (outcome : Except (HostError ε) τ × Host δ) :
    Except (HostError ε) Answer × Host δ :=
  (outcome.1.map answer, outcome.2)

/-- The operation that sends a command. -/
def perform : Command → Host δ → Except (HostError ε) Answer × Host δ
  | .ping data, h => told (fun _ => .done) (h.ping data.bytes)
  | .getStatus, h => told .status h.status
  | .home, h => told .result h.home
  | .move request, h => told .result (h.move request)
  | .stop, h => told (fun _ => .done) h.stop
  | .getPosition, h => told (fun (x, y) => .position x y) h.position
  | .getAxisState axis, h => told .axisState (h.axisState axis)
  | .getTemperature, h => told .temperature h.temperature
  | .calibrate key value, h => told .result (h.calibrate key value)

/-- Operations one after another, each whatever became of those before it. -/
def performAll : List Command → Host δ → List (Except (HostError ε) Answer) × Host δ
  | [], h => ([], h)
  | command :: rest, h =>
      let (outcome, h) := h.perform command
      let (outcomes, h) := performAll rest h
      (outcome :: outcomes, h)

end Host

/-! ## Messages under way -/

/-- What the host writes. -/
inductive Parcel where
  | ack
  | command (command : Command) (sendable : command.Sendable)

def Parcel.toFrame : Parcel → Frame
  | .ack => Frame.empty MessageId.ack
  | .command sent _ => sent.toFrame

/-- The messages on either way, the oldest first, and the commands that the device
has executed. -/
structure Traffic where
  toDevice : List Parcel
  toHost : List Reply
  served : List (Command × Option Reply)

/-- What the device makes of the traffic. -/
inductive Advances : Traffic → Traffic → Prop where
  | same (t : Traffic) : Advances t t
  /-- An acknowledgement is taken. -/
  | acknowledged (rest : List Parcel) (toHost : List Reply)
      (served : List (Command × Option Reply)) :
      Advances ⟨.ack :: rest, toHost, served⟩ ⟨rest, toHost, served⟩
  /-- A command is taken, acknowledged and answered. -/
  | served {command : Command} (sendable : command.Sendable) (rest : List Parcel)
      (toHost : List Reply) (served : List (Command × Option Reply)) {reply : Option Reply}
      {answer : Answer} (answered : command.Answered reply answer) :
      Advances ⟨.command command sendable :: rest, toHost, served⟩
        ⟨rest, toHost ++ .ack :: reply.toList, served ++ [(command, reply)]⟩

namespace Parser

/-- Frames whose bytes have been taken in part: those in the part, and the others. -/
theorem digest_rest {taken rest : List UInt8} {parser middle last : Parser}
    {frames : List Frame} {reading : Reading}
    (whole : digest (taken ++ rest) parser = (⟨frames, 0⟩, last))
    (part : digest taken parser = (reading, middle)) :
    reading.dropped = 0 ∧ ∃ later, frames = reading.frames ++ later ∧
      digest rest middle = (⟨later, 0⟩, last) := by
  rw [digest_append, part] at whole
  have hreading := congrArg Prod.fst whole
  have hlast := congrArg Prod.snd whole
  have hframes := congrArg Reading.frames hreading
  have hdropped := congrArg Reading.dropped hreading
  simp only [Reading.frames_append, Reading.dropped_append] at hframes hdropped
  have hzero : reading.dropped = 0 ∧ (digest rest middle).1.dropped = 0 :=
    Nat.add_eq_zero_iff.mp hdropped
  refine ⟨hzero.1, (digest rest middle).1.frames, hframes.symm, ?_⟩
  exact Prod.ext (Reading.ext rfl hzero.2) hlast

/-- Frames, and encoded behind them another one. -/
theorem digest_append_encode {bytes : List UInt8} {parser : Parser} {frames : List Frame}
    (h : digest bytes parser = (⟨frames, 0⟩, .outside)) (frame : Frame) :
    digest (bytes ++ frame.encode) parser = (⟨frames ++ [frame], 0⟩, .outside) := by
  rw [digest_append, h, digest_encode]
  rfl

end Parser

/-! ## The device's side -/

theorem Command.id_ne (command : Command) :
    command.toFrame.id ≠ MessageId.ack ∧ command.toFrame.id ≠ MessageId.nack := by
  cases command <;> simp only [toFrame, id] <;> decide

namespace Remote

variable {α π σ : Type}

/-- The bytes on the link are the encoded messages of the traffic, apart from what
the parsers at its ends have taken of them. -/
structure Carries (r : Remote α π σ) (parser : Parser) (t : Traffic) : Prop where
  inward : Parser.digest r.port.inward.content r.device.exchange.frames.parser =
    (⟨t.toDevice.map Parcel.toFrame, 0⟩, .outside)
  outward : Parser.digest r.returning.content parser =
    (⟨t.toHost.map Reply.toFrame, 0⟩, .outside)
  served : r.served = t.served

variable [AxisHardware α] [TemperatureSource π] [SettingStore σ]

omit [AxisHardware α] [TemperatureSource π] [SettingStore σ] in
/-- Replies, and behind them an acknowledgement and at most one reply. -/
theorem digest_replies {bytes : List UInt8} {parser : Parser} {replies : List Reply}
    (h : Parser.digest bytes parser = (⟨replies.map Reply.toFrame, 0⟩, .outside))
    (reply : Option Reply) :
    Parser.digest (bytes ++ Reply.ack.toFrame.encode ++ reply.elim [] (·.toFrame.encode)) parser =
      (⟨(replies ++ .ack :: reply.toList).map Reply.toFrame, 0⟩, .outside) := by
  have hack := Parser.digest_append_encode h Reply.ack.toFrame
  cases reply with
  | none =>
      rw [Option.elim_none, List.append_nil, hack, List.map_append]
      rfl
  | some reply =>
      rw [Option.elim_some, Parser.digest_append_encode hack reply.toFrame, List.map_append,
        List.append_assoc]
      rfl

/-- The controller of an iteration, during which bytes arrive in these portions. -/
def primed (portions : List Nat) (r : Remote α π σ) : Controller Port α π σ :=
  (r.setPort { r.port with portions }).device

variable {r : Remote α π σ} {parser : Parser} {t : Traffic} {portions : List Nat}
  {rest : List Parcel}

/-- An iteration that hands nothing on, and leaves the messages `rest` to itself. -/
theorem Carries.unhanded (h : r.Carries parser t)
    (hnone : (r.primed portions).exchange.handed? = none)
    (later : Parser.digest (r.happen (.poll portions)).port.inward.content
      (r.happen (.poll portions)).device.exchange.frames.parser =
        (⟨rest.map Parcel.toFrame, 0⟩, .outside)) :
    (r.happen (.poll portions)).Carries parser { t with toDevice := rest } := by
  obtain ⟨hserved, houtward⟩ := Controller.poll_of_unserved hnone
  refine ⟨later, ?_, ?_⟩
  · have hsilent : (r.primed portions).poll.2.exchange.frames.line.outward = r.port.outward :=
      houtward
    show Parser.digest (r.arrived ++ (r.primed portions).poll.2.exchange.frames.line.outward) _ = _
    rw [hsilent]
    exact h.outward
  · show r.served ++ (r.primed portions).served.toList = t.served
    rw [hserved, Option.toList_none, List.append_nil, h.served]

/-- An iteration that hands a command on, and leaves the messages `rest` to
itself. -/
theorem Carries.handed (h : r.Carries parser t) {command : Command}
    (hsome : (r.primed portions).exchange.handed? = some command.toFrame)
    (sendable : command.Sendable)
    (later : Parser.digest (r.happen (.poll portions)).port.inward.content
      (r.happen (.poll portions)).device.exchange.frames.parser =
        (⟨rest.map Parcel.toFrame, 0⟩, .outside)) :
    ∃ reply answer, command.Answered reply answer ∧ (r.happen (.poll portions)).Carries parser
      ⟨rest, t.toHost ++ .ack :: reply.toList, t.served ++ [(command, reply)]⟩ := by
  obtain ⟨reply, hreply, hserved, houtward⟩ :=
    Controller.poll_of_command hsome (Command.ofFrame_toFrame sendable)
  obtain ⟨answer, hanswered⟩ := Controller.execute_answered command
    (r.primed portions).opened (r.primed portions).heeding
  rw [← hreply] at hanswered
  refine ⟨reply, answer, hanswered, later, ?_, ?_⟩
  · have hbytes : (r.primed portions).poll.2.exchange.frames.line.outward =
        r.port.outward ++ Reply.ack.toFrame.encode ++ reply.elim [] (·.toFrame.encode) := houtward
    show Parser.digest (r.arrived ++ (r.primed portions).poll.2.exchange.frames.line.outward) _ = _
    rw [hbytes, ← List.append_assoc, ← List.append_assoc]
    exact digest_replies h.outward reply
  · show r.served ++ (r.primed portions).served.toList = _
    rw [hserved, h.served]
    rfl

/-- An iteration takes one message of the traffic, or none. -/
theorem carries_poll (h : r.Carries parser t) (portions : List Nat) :
    ∃ t', Advances t t' ∧ (r.happen (.poll portions)).Carries parser t' := by
  obtain ⟨taken, broken, hinward, hdigested⟩ := (r.primed portions).poll_took
  have hwhole : Parser.digest (taken ++ (r.happen (.poll portions)).port.inward.content)
      r.device.exchange.frames.parser = (⟨t.toDevice.map Parcel.toFrame, 0⟩, .outside) := by
    have hsame : r.port.inward.content =
        taken ++ (r.happen (.poll portions)).port.inward.content := hinward
    rw [← hsame]
    exact h.inward
  obtain ⟨-, later, hframes, hlater⟩ := Parser.digest_rest hwhole hdigested
  have hhanded := (r.primed portions).handed_eq
  cases hnext : (r.primed portions).exchange.next? with
  | none =>
      rw [hnext] at hhanded hframes
      rw [← show t.toDevice.map Parcel.toFrame = later from hframes] at hlater
      exact ⟨t, .same t, h.unhanded hhanded hlater⟩
  | some frame =>
      rw [hnext] at hhanded hframes
      obtain ⟨toDevice, toHost, served⟩ := t
      cases toDevice with
      | nil => cases hframes
      | cons parcel rest =>
          obtain ⟨hframe, hrest⟩ := List.cons.inj hframes
          rw [← show rest.map Parcel.toFrame = later from hrest] at hlater
          rw [← hframe] at hhanded
          cases parcel with
          | ack => exact ⟨_, .acknowledged rest toHost served, h.unhanded hhanded hlater⟩
          | command command sendable =>
              obtain ⟨hack, hnack⟩ := command.id_ne
              have hsome : (r.primed portions).exchange.handed? = some command.toFrame := by
                rw [hhanded]
                simp [Parcel.toFrame, Option.filter, Exchange.heeds, hack, hnack]
              obtain ⟨reply, answer, hanswered, hcarries⟩ := h.handed hsome sendable hlater
              exact ⟨_, .served sendable rest toHost served hanswered, hcarries⟩

/-- Whatever happens at the device, the traffic advances by at most one message. -/
theorem carries_happen (h : r.Carries parser t) (happening : Happening α π σ) :
    ∃ t', Advances t t' ∧ (r.happen happening).Carries parser t' := by
  cases happening with
  | poll portions => exact carries_poll h portions
  | event event => cases event <;> exact ⟨t, .same t, h.inward, h.outward, h.served⟩
  | recovery now => exact ⟨t, .same t, h.inward, h.outward, h.served⟩
  | outside x y sensors store => exact ⟨t, .same t, h.inward, h.outward, h.served⟩
  | toDevice count =>
      refine ⟨t, .same t, ?_, h.outward, h.served⟩
      show Parser.digest (r.port.inward.deliver count).content _ = _
      rw [Pipe.content_deliver]
      exact h.inward
  | toHost count =>
      refine ⟨t, .same t, h.inward, ?_, h.served⟩
      show Parser.digest (r.returning.deliver count).content _ = _
      rw [Pipe.content_deliver]
      exact h.outward

end Remote

/-! ## The host's side -/

/-- The device can do nothing about it that the traffic is as `J` says. -/
def Kept (J : Traffic → Prop) : Prop :=
  ∀ ⦃t t' : Traffic⦄, Advances t t' → J t → J t'

/-- The traffic as `J` says, once `reply` has been taken off it. -/
def Without (reply : Reply) (J : Traffic → Prop) (t : Traffic) : Prop :=
  J { t with toHost := reply :: t.toHost }

/-- The traffic as `J` says, once `parcel` has been added to it. -/
def With (parcel : Parcel) (J : Traffic → Prop) (t : Traffic) : Prop :=
  ∃ before, J before ∧ t = { before with toDevice := before.toDevice ++ [parcel] }

section Host

variable {α π σ : Type} [AxisHardware α] [TemperatureSource π] [SettingStore σ]
  {J : Traffic → Prop}

/-- The link of the host carries a traffic that is as `J` says. -/
def Remote.Holds (J : Traffic → Prop) (parser : Parser) (r : Remote α π σ) : Prop :=
  ∃ t, r.Carries parser t ∧ J t

/-- The same of a line of frames over it. -/
def FrameLine.Holds (J : Traffic → Prop) (l : FrameLine (Remote α π σ)) : Prop :=
  l.line.Holds J l.parser

namespace Remote

theorem Holds.happenAll (kept : Kept J) {parser : Parser} {r : Remote α π σ}
    (h : r.Holds J parser) (happenings : List (Happening α π σ)) :
    (r.happenAll happenings).Holds J parser := by
  induction happenings generalizing r with
  | nil => exact h
  | cons happening rest ih =>
      obtain ⟨t, hcarries, ht⟩ := h
      obtain ⟨t', hadvances, hlater⟩ := carries_happen hcarries happening
      exact ih (r := r.happen happening) ⟨t', hlater, kept hadvances ht⟩

theorem Holds.advance (kept : Kept J) {parser : Parser} {r : Remote α π σ}
    (h : r.Holds J parser) : r.advance.Holds J parser := by
  obtain ⟨t, hcarries, ht⟩ := h
  have hscheduled : Holds J parser { r with schedule := r.schedule.tail } :=
    ⟨t, ⟨hcarries.inward, hcarries.outward, hcarries.served⟩, ht⟩
  exact hscheduled.happenAll kept _

/-- Taking a byte: the frames left are those that the parser makes of the rest. -/
theorem Holds.takeByte (kept : Kept J) {parser parser' : Parser} {r r' : Remote α π σ}
    {byte : UInt8} {outcome : Parser.Outcome} (h : r.Holds J parser)
    (read : SerialLine.takeByte r = (.ok byte, r')) (feed : parser.feed byte = (outcome, parser')) :
    outcome ≠ .broken ∧ (outcome = .pending → r'.Holds J parser') ∧
      ∀ frame, outcome = .complete frame →
        ∃ reply : Reply, frame = reply.toFrame ∧ r'.Holds (Without reply J) parser' := by
  obtain ⟨⟨toDevice, toHost, served⟩, hcarries, ht⟩ := h.advance kept
  have hread : r.advance.returning.takeByte.1 = .ok byte := congrArg Prod.fst read
  obtain rfl : r.advance.setReturning r.advance.returning.takeByte.2 = r' :=
    congrArg Prod.snd read
  have hwhole := hcarries.outward
  rw [Pipe.content_takeByte hread, ← List.singleton_append] at hwhole
  obtain ⟨hdropped, later, hframes, hlater⟩ :=
    Parser.digest_rest hwhole (Parser.digest_singleton feed)
  refine ⟨?_, ?_, ?_⟩
  · rintro rfl
    cases hdropped
  · rintro rfl
    have hframes : toHost.map Reply.toFrame = later := hframes
    exact ⟨_, ⟨hcarries.inward, by rw [← hframes] at hlater; exact hlater, hcarries.served⟩, ht⟩
  · rintro frame rfl
    cases toHost with
    | nil => cases hframes
    | cons reply rest =>
        obtain ⟨hframe, hrest⟩ := List.cons.inj hframes
        have hrest : rest.map Reply.toFrame = later := hrest
        rw [← hrest] at hlater
        exact ⟨reply, hframe.symm, ⟨toDevice, rest, served⟩,
          ⟨hcarries.inward, hlater, hcarries.served⟩, ht⟩

/-- A byte that is waiting is there to be taken. -/
theorem takeByte_ne_error {r r' : Remote α π σ} {e : EndpointError}
    (waiting : (SerialLine.waiting r).1 ≠ 0) :
    SerialLine.takeByte (SerialLine.waiting r).2 ≠ (.error e, r') := by
  intro read
  have herror : r.advance.advance.returning.takeByte.1 = .error e := congrArg Prod.fst read
  have hempty : r.advance.advance.arrived = [] := (Pipe.takeByte_error herror).2
  obtain ⟨more, hmore⟩ := r.advance.advance_arrived
  rw [hempty] at hmore
  apply waiting
  show r.advance.arrived.length = 0
  rw [(List.append_eq_nil_iff.mp hmore.symm).1]
  rfl

theorem Holds.millis (kept : Kept J) {parser : Parser} {r : Remote α π σ}
    (h : r.Holds J parser) : (SerialLine.millis r).2.Holds J parser := by
  obtain ⟨t, hcarries, ht⟩ := h.advance kept
  exact ⟨t, ⟨hcarries.inward, hcarries.outward, hcarries.served⟩, ht⟩

theorem Holds.write (kept : Kept J) {parser : Parser} {r : Remote α π σ} (h : r.Holds J parser)
    (parcel : Parcel) :
    (SerialLine.write parcel.toFrame.encode r).2.Holds (With parcel J) parser := by
  obtain ⟨t, hcarries, ht⟩ := h.advance kept
  refine ⟨{ t with toDevice := t.toDevice ++ [parcel] },
    ⟨?_, hcarries.outward, hcarries.served⟩, t, ht, rfl⟩
  show Parser.digest (r.advance.port.inward.write parcel.toFrame.encode).content
    r.advance.device.exchange.frames.parser = _
  rw [Pipe.content_write, Parser.digest_append_encode hcarries.inward, List.map_append]
  rfl

end Remote

namespace FrameLine

/-- What a check of the host finds: nothing, or the next reply. -/
inductive Finds (J : Traffic → Prop) :
    Except (FrameLineError EndpointError) (Option Frame) → FrameLine (Remote α π σ) → Prop where
  | nothing {l : FrameLine (Remote α π σ)} (h : l.Holds J) : Finds J (.ok none) l
  | reply {l : FrameLine (Remote α π σ)} (reply : Reply) (h : l.Holds (Without reply J)) :
      Finds J (.ok (some reply.toFrame)) l

theorem Holds.takes (kept : Kept J) {l l' : FrameLine (Remote α π σ)}
    {answer : Except (FrameLineError EndpointError) (Option Frame)} (h : l.Holds J)
    (takes : Takes l answer l') : Finds J answer l' := by
  induction takes with
  | dry _ => exact .nothing (Remote.Holds.advance kept h)
  | failed ready read => exact absurd read (Remote.takeByte_ne_error ready)
  | complete _ read feed =>
      obtain ⟨reply, rfl, hheld⟩ :=
        ((Remote.Holds.advance kept h).takeByte kept read feed).2.2 _ rfl
      exact .reply reply hheld
  | pending _ read feed _ ih =>
      exact ih (((Remote.Holds.advance kept h).takeByte kept read feed).2.1 rfl)
  | broken _ read feed _ _ =>
      exact absurd rfl ((Remote.Holds.advance kept h).takeByte kept read feed).1

/-- A line that was as `J` says when a wait for it was given up: what the parser had
taken of a message is lost then. -/
def Lapsed (J : Traffic → Prop) (l : FrameLine (Remote α π σ)) : Prop :=
  ∃ parser, l.line.Holds J parser ∧ (l.parser = parser ∨ l.parser = .outside)

/-- What waiting of the host comes to: it is given up, or the next reply comes. -/
inductive Waits (J : Traffic → Prop) :
    Except (FrameLineError EndpointError) Frame → FrameLine (Remote α π σ) → Prop where
  | lapsed {e : FrameLineError EndpointError} {l : FrameLine (Remote α π σ)}
      (late : HostError.isGivenUp (.exchange (.line e)) = true) (h : l.Lapsed J) :
      Waits J (.error e) l
  | reply {l : FrameLine (Remote α π σ)} (reply : Reply) (h : l.Holds (Without reply J)) :
      Waits J (.ok reply.toFrame) l

theorem Holds.poll_waits (kept : Kept J) {l : FrameLine (Remote α π σ)} (h : l.Holds J)
    (timeout started : UInt32) (checks : Nat) :
    Waits J (l.poll timeout started checks).1 (l.poll timeout started checks).2 := by
  induction checks generalizing l with
  | zero => exact .lapsed rfl ⟨l.parser, h, .inl rfl⟩
  | succ checks ih =>
      have hfinds := h.takes kept l.check_takes
      unfold FrameLine.poll
      generalize l.check = checked at hfinds ⊢
      obtain ⟨answer, l'⟩ := checked
      cases hfinds with
      | reply reply h => exact .reply reply h
      | nothing h =>
          have hlater := Remote.Holds.millis kept h
          dsimp only
          split
          · exact .lapsed rfl ⟨l'.parser, hlater, .inr rfl⟩
          · exact ih hlater

theorem Holds.waits (kept : Kept J) {l : FrameLine (Remote α π σ)} (h : l.Holds J)
    (timeout : UInt32) : Waits J (l.receive timeout).1 (l.receive timeout).2 :=
  Holds.poll_waits (l := { l with line := (SerialLine.millis l.line).2 }) kept
    (Remote.Holds.millis kept h) timeout _ _

/-- The same of the answer alone. -/
inductive Awaits (J : Traffic → Prop) :
    Except (FrameLineError EndpointError) Frame → FrameLine (Remote α π σ) → Prop where
  | timeout (l : FrameLine (Remote α π σ)) : Awaits J (.error .timeout) l
  | stalled (l : FrameLine (Remote α π σ)) : Awaits J (.error .stalled) l
  | reply {l : FrameLine (Remote α π σ)} (reply : Reply) (h : l.Holds (Without reply J)) :
      Awaits J (.ok reply.toFrame) l

theorem Holds.receive (kept : Kept J) {l : FrameLine (Remote α π σ)} (h : l.Holds J)
    (timeout : UInt32) : Awaits J (l.receive timeout).1 (l.receive timeout).2 := by
  have hwaits := h.waits kept timeout
  generalize l.receive timeout = received at hwaits ⊢
  obtain ⟨answer, l'⟩ := received
  cases hwaits with
  | @lapsed e _ late _ =>
      cases e with
      | timeout => exact .timeout l'
      | stalled => exact .stalled l'
      | line error => cases late
      | shortWrite => cases late
  | reply reply h => exact .reply reply h

theorem Holds.send (kept : Kept J) {l : FrameLine (Remote α π σ)} (h : l.Holds J)
    (parcel : Parcel) :
    (l.send parcel.toFrame).1 = .ok () ∧ (l.send parcel.toFrame).2.Holds (With parcel J) := by
  have hwritten : (l.send parcel.toFrame).1 = .ok () := by
    show (if parcel.toFrame.encode.length = parcel.toFrame.encodedSize then _ else _) = _
    rw [if_pos parcel.toFrame.length_encode]
  exact ⟨hwritten, Remote.Holds.write kept h parcel⟩

end FrameLine

end Host

/-! ## The states of an operation -/

/-- Nothing but acknowledgements is under way. -/
structure Idle (served : List (Command × Option Reply)) (t : Traffic) : Prop where
  toDevice : ∀ parcel ∈ t.toDevice, parcel = .ack
  toHost : t.toHost = []
  served : t.served = served

/-- The command has been executed, and its reply is under way if it has one. -/
def Due (command : Command) (reply : Option Reply) (served : List (Command × Option Reply))
    (t : Traffic) : Prop :=
  t = ⟨[], reply.toList, served ++ [(command, reply)]⟩

/-- The command is under way behind acknowledgements, or it has been executed and
its acknowledgement is under way before its reply. -/
inductive Asked (command : Command) (served : List (Command × Option Reply)) : Traffic → Prop where
  | sent (sendable : command.Sendable) {acks : List Parcel}
      (acknowledging : ∀ parcel ∈ acks, parcel = .ack) :
      Asked command served ⟨acks ++ [.command command sendable], [], served⟩
  | executed {reply : Option Reply} {answer : Answer} (answered : command.Answered reply answer) :
      Asked command served ⟨[], .ack :: reply.toList, served ++ [(command, reply)]⟩

variable {command : Command} {reply : Option Reply} {served : List (Command × Option Reply)}

theorem kept_idle : Kept (Idle served) := by
  intro t t' hadvances hidle
  cases hadvances with
  | same => exact hidle
  | acknowledged rest _ _ =>
      refine ⟨?_, hidle.toHost, hidle.served⟩
      intro parcel hmem
      exact hidle.toDevice parcel (List.mem_cons_of_mem _ hmem)
  | served _ rest _ _ _ => cases hidle.toDevice _ List.mem_cons_self

/-- With nothing on the way to it, the device has nothing to do. -/
theorem kept_of_silent {J : Traffic → Prop} (silent : ∀ t, J t → t.toDevice = []) : Kept J := by
  intro t t' hadvances hJ
  cases hadvances with
  | same => exact hJ
  | acknowledged _ _ _ => cases silent _ hJ
  | served _ _ _ _ _ => cases silent _ hJ

theorem silent_of_due {t : Traffic} (h : Due command reply served t) : t.toDevice = [] :=
  congrArg Traffic.toDevice h

theorem kept_asked : Kept (Asked command served) := by
  intro t t' hadvances hasked
  cases hasked with
  | @sent sendable acks acknowledging =>
      cases acks with
      | nil =>
          cases hadvances with
          | same => exact .sent sendable acknowledging
          | served _ _ _ _ answered => exact .executed answered
      | cons first acks =>
          obtain rfl := acknowledging first List.mem_cons_self
          cases hadvances with
          | same => exact .sent sendable acknowledging
          | acknowledged _ _ _ =>
              exact .sent sendable fun parcel hmem =>
                acknowledging parcel (List.mem_cons_of_mem _ hmem)
  | executed answered =>
      cases hadvances with
      | same => exact .executed answered

/-- A first reply that has been taken is the acknowledgement, and the command has
been executed. -/
theorem due_of_asked {first : Reply} {t : Traffic} (h : Without first (Asked command served) t) :
    first = .ack ∧ ∃ reply answer, command.Answered reply answer ∧
      Due command reply served t := by
  obtain ⟨toDevice, toHost, before⟩ := t
  cases h with
  | executed answered => exact ⟨rfl, _, _, answered, rfl⟩

theorem asked_of_idle (sendable : command.Sendable) {t : Traffic}
    (h : With (.command command sendable) (Idle served) t) : Asked command served t := by
  obtain ⟨⟨acks, toHost, before⟩, ⟨hacks, htoHost, hserved⟩, rfl⟩ := h
  obtain rfl : toHost = [] := htoHost
  obtain rfl : before = served := hserved
  exact .sent sendable hacks

/-- What is left is idle once the reply of a command has been taken and
acknowledged. -/
theorem idle_of_due {first : Reply} {t : Traffic}
    (h : With .ack (Without first (Due command reply served)) t) :
    reply = some first ∧ Idle (served ++ [(command, reply)]) t := by
  obtain ⟨⟨toDevice, toHost, before⟩, hdue, rfl⟩ := h
  cases reply with
  | none => cases hdue
  | some reply =>
      cases hdue
      refine ⟨rfl, ?_, rfl, rfl⟩
      intro parcel hmem
      exact List.mem_singleton.mp hmem

/-- Without a reply, what is left is idle at once. -/
theorem idle_of_due_none {t : Traffic} (h : Due command none served t) :
    Idle (served ++ [(command, none)]) t := by
  cases h
  exact ⟨nofun, rfl, rfl⟩

/-- No reply to a command is an acknowledgement or a refusal. -/
theorem Command.Answered.id_ne {reply : Reply} {answer : Answer}
    (h : command.Answered (some reply) answer) :
    reply.toFrame.id ≠ MessageId.ack ∧ reply.toFrame.id ≠ MessageId.nack := by
  cases h <;> simp only [Reply.toFrame, Reply.id] <;> decide

/-! ## The operations -/

section Operations

variable {α π σ : Type} [AxisHardware α] [TemperatureSource π] [SettingStore σ]

omit [AxisHardware α] [TemperatureSource π] [SettingStore σ] in
theorem FrameLine.Holds.mono {J K : Traffic → Prop} {l : FrameLine (Remote α π σ)} (h : l.Holds J)
    (le : ∀ t, J t → K t) : l.Holds K := by
  obtain ⟨t, hcarries, ht⟩ := h
  exact ⟨t, hcarries, le t ht⟩

namespace Host

/-- How an operation ends: it was given up, or it succeeded as `P` says. -/
inductive Ends {τ : Type} (P : τ → Host (Remote α π σ) → Prop) :
    Except (HostError EndpointError) τ × Host (Remote α π σ) → Prop where
  | givenUp {e : HostError EndpointError} {h : Host (Remote α π σ)} (late : e.isGivenUp = true) :
      Ends P (.error e, h)
  | succeeded {value : τ} {h : Host (Remote α π σ)} (holds : P value h) : Ends P (.ok value, h)

/-- What waiting for a reply comes to: it was given up, or the reply came that was
due, and was acknowledged. -/
inductive Receives (command : Command) (reply : Option Reply)
    (served : List (Command × Option Reply)) :
    Except (ExchangeError EndpointError) Frame × Exchange (Remote α π σ) → Prop where
  | givenUp {e : ExchangeError EndpointError} {x : Exchange (Remote α π σ)}
      (late : HostError.isGivenUp (.exchange e) = true) : Receives command reply served (.error e, x)
  | received {first : Reply} {x : Exchange (Remote α π σ)} (due : reply = some first)
      (idle : x.frames.Holds (Idle (served ++ [(command, reply)]))) :
      Receives command reply served (.ok first.toFrame, x)

/-- A command that is sent and acknowledged has been executed, once. -/
theorem send_ends {h : Host (Remote α π σ)} (idle : h.exchange.frames.Holds (Idle served))
    (sendable : command.Sendable) :
    Ends (fun _ h' => ∃ reply answer, command.Answered reply answer ∧
      h'.exchange.frames.Holds (Due command reply served)) (h.send command) := by
  obtain ⟨hsent, hheld⟩ := idle.send kept_idle (.command command sendable)
  have hasked := hheld.mono fun t => asked_of_idle sendable
  have hawaits := hasked.receive kept_asked h.exchange.ackTimeout
  unfold Host.send Exchange.send
  dsimp only
  change (h.exchange.frames.send command.toFrame).1 = .ok () at hsent
  change FrameLine.Awaits _ ((h.exchange.frames.send command.toFrame).2.receive _).1
    ((h.exchange.frames.send command.toFrame).2.receive _).2 at hawaits
  generalize h.exchange.frames.send command.toFrame = sent at hsent hawaits ⊢
  obtain ⟨answer, frames⟩ := sent
  obtain rfl : answer = .ok () := hsent
  dsimp only at hawaits ⊢
  generalize frames.receive h.exchange.ackTimeout = received at hawaits ⊢
  obtain ⟨answer, frames⟩ := received
  cases hawaits with
  | timeout => exact .givenUp rfl
  | stalled => exact .givenUp rfl
  | reply first hheld =>
      obtain ⟨t, hcarries, ht⟩ := hheld
      obtain ⟨rfl, reply, answer, hanswered, hdue⟩ := due_of_asked ht
      exact .succeeded ⟨reply, answer, hanswered, t, hcarries, hdue⟩

/-- A reply that is received is the one that was due, and it is acknowledged. -/
theorem receive_ends {x : Exchange (Remote α π σ)}
    (due : x.frames.Holds (Due command reply served)) {answer : Answer}
    (answered : command.Answered reply answer) (timeout : UInt32) :
    Receives command reply served (x.receive timeout) := by
  have hawaits := due.receive (kept_of_silent fun _ => silent_of_due) timeout
  unfold Exchange.receive
  generalize x.frames.receive timeout = received at hawaits ⊢
  obtain ⟨outcome, frames⟩ := received
  cases hawaits with
  | timeout => exact .givenUp rfl
  | stalled => exact .givenUp rfl
  | reply first hheld =>
      have hkept : Kept (Without first (Due command reply served)) :=
        kept_of_silent fun t h => silent_of_due (t := { t with toHost := first :: t.toHost }) h
      obtain ⟨hsent, t, hcarries, ht⟩ := hheld.send hkept .ack
      obtain ⟨rfl, hidle⟩ := idle_of_due ht
      obtain ⟨hack, hnack⟩ := answered.id_ne
      change (frames.send (Frame.empty MessageId.ack)).1 = .ok () at hsent
      change (frames.send (Frame.empty MessageId.ack)).2.line.Carries
        (frames.send (Frame.empty MessageId.ack)).2.parser t at hcarries
      simp only [Exchange.accept, Exchange.acknowledge, hack, hnack, or_self, if_false]
      generalize frames.send (Frame.empty MessageId.ack) = acknowledged at hsent hcarries ⊢
      obtain ⟨outcome, frames⟩ := acknowledged
      obtain rfl : outcome = .ok () := hsent
      exact .received rfl ⟨t, hcarries, hidle⟩

/-- A query for the identifier that the replies of a command have gives the
reply. -/
theorem query_ends {h : Host (Remote α π σ)} (idle : h.exchange.frames.Holds (Idle served))
    (sendable : command.Sendable) {expected : UInt8}
    (replied : ∀ reply answer, command.Answered reply answer →
      ∃ first : Reply, reply = some first ∧ first.id = expected) :
    Ends (fun first h' => ∃ answer, command.Answered (some first) answer ∧
      h'.exchange.frames.Holds (Idle (served ++ [(command, some first)])))
      (h.query command expected) := by
  have hsend := send_ends idle sendable
  unfold query
  generalize h.send command = sent at hsend ⊢
  cases hsend with
  | givenUp late => exact .givenUp late
  | @succeeded _ h holds =>
      obtain ⟨reply, answer, hanswered, hdue⟩ := holds
      have hreceive := receive_ends hdue hanswered h.replyTimeout
      dsimp only
      generalize h.exchange.receive h.replyTimeout = received at hreceive ⊢
      cases hreceive with
      | givenUp late => exact .givenUp late
      | @received first _ due hidle =>
          obtain ⟨other, hsame, hid⟩ := replied _ _ hanswered
          subst due
          obtain rfl := Option.some.inj hsame
          dsimp only
          rw [if_pos (show first.toFrame.id = expected from hid), Reply.ofFrame_toFrame]
          exact .succeeded ⟨answer, hanswered, hidle⟩

/-- A question whose replies can all be read gives what the reply says. -/
theorem ask_ends {τ : Type} {P : Option Reply → τ → Prop} {h : Host (Remote α π σ)}
    (idle : h.exchange.frames.Holds (Idle served)) (sendable : command.Sendable)
    {expected : UInt8} {answer? : Reply → Option τ}
    (replied : ∀ reply answer, command.Answered reply answer →
      ∃ first value, reply = some first ∧ first.id = expected ∧ answer? first = some value ∧
        P reply value) :
    Ends (fun value h' => ∃ reply, P reply value ∧
      h'.exchange.frames.Holds (Idle (served ++ [(command, reply)])))
      (h.ask command expected answer?) := by
  have hquery := h.query_ends idle sendable fun reply answer hanswered => by
    obtain ⟨first, -, hreply, hid, -⟩ := replied reply answer hanswered
    exact ⟨first, hreply, hid⟩
  unfold ask
  generalize h.query command expected = queried at hquery ⊢
  cases hquery with
  | givenUp late => exact .givenUp late
  | @succeeded reply _ holds =>
      obtain ⟨answer, hanswered, hidle⟩ := holds
      obtain ⟨first, value, hsame, -, hvalue, hP⟩ := replied _ _ hanswered
      obtain rfl := Option.some.inj hsame
      dsimp only
      rw [hvalue]
      exact .succeeded ⟨some reply, hP, hidle⟩

omit [AxisHardware α] [TemperatureSource π] [SettingStore σ] in
theorem told_ends {τ : Type} {answer : τ → Answer} {P : Answer → Host (Remote α π σ) → Prop}
    {outcome : Except (HostError EndpointError) τ × Host (Remote α π σ)}
    (h : Ends (fun value => P (answer value)) outcome) : Ends P (told answer outcome) := by
  cases h with
  | givenUp late => exact .givenUp late
  | succeeded holds => exact .succeeded holds

/-- The data of a ping comes back as it was. -/
theorem ping_ends {h : Host (Remote α π σ)} (idle : h.exchange.frames.Holds (Idle served))
    (data : Payload) :
    Ends (fun _ h' => ∃ reply, (Command.ping data).Answered reply .done ∧
      h'.exchange.frames.Holds (Idle (served ++ [(.ping data, reply)]))) (h.ping data.bytes) := by
  -- The reader of the echo has no name, so this is said of every one that reads it.
  have hask (echo? : Reply → Option Payload) (hecho : ∀ echo, echo? (.log echo) = some echo) :
      Ends (fun echo h' => ∃ reply,
        (echo = data ∧ (Command.ping data).Answered reply .done) ∧
        h'.exchange.frames.Holds (Idle (served ++ [(.ping data, reply)])))
          (h.ask (.ping data) MessageId.log echo?) := by
    have hsendable : (Command.ping data).Sendable := trivial
    refine ask_ends (P := fun reply echo => echo = data ∧ (Command.ping data).Answered reply .done)
      idle hsendable ?_
    rintro _ _ ⟨⟩
    exact ⟨.log data, data, rfl, rfl, hecho data, rfl, .ping data⟩
  have hpayload : Payload.ofBytes? data.bytes = some data := dif_pos data.size_le
  unfold ping
  generalize Payload.ofBytes? data.bytes = payload? at hpayload ⊢
  subst hpayload
  dsimp only
  split
  · next e h' hasked =>
    have hends := hasked ▸ hask _ fun _ => rfl
    cases hends with
    | givenUp late => exact .givenUp late
  · next echo h' hasked =>
    have hends := hasked ▸ hask _ fun _ => rfl
    cases hends with
    | succeeded holds =>
        obtain ⟨reply, ⟨rfl, hanswered⟩, hidle⟩ := holds
        rw [if_pos rfl]
        exact .succeeded ⟨reply, hanswered, hidle⟩

/-- A command that is answered by a result gives that result. -/
theorem command_ends {h : Host (Remote α π σ)} (idle : h.exchange.frames.Holds (Idle served))
    (sendable : command.Sendable)
    (replied : ∀ reply answer, command.Answered reply answer →
      ∃ code, reply = some (.axisResult code) ∧ answer = .result code) :
    Ends (fun code h' => ∃ reply, command.Answered reply (.result code) ∧
      h'.exchange.frames.Holds (Idle (served ++ [(command, reply)]))) (h.command command) := by
  unfold Host.command
  apply ask_ends (P := fun reply code => command.Answered reply (.result code)) idle sendable
  intro reply answer hanswered
  obtain ⟨code, rfl, rfl⟩ := replied reply answer hanswered
  exact ⟨_, code, rfl, rfl, rfl, hanswered⟩

/-- An operation gives what its own reply says. -/
theorem perform_ends {h : Host (Remote α π σ)} (idle : h.exchange.frames.Holds (Idle served))
    (sendable : command.Sendable) :
    Ends (fun answer h' => ∃ reply, command.Answered reply answer ∧
      h'.exchange.frames.Holds (Idle (served ++ [(command, reply)]))) (h.perform command) := by
  cases command with
  | ping data => exact told_ends (h.ping_ends idle data)
  | getStatus =>
      unfold perform Host.status
      refine told_ends (ask_ends (P := fun reply code =>
        Command.getStatus.Answered reply (.status code)) idle sendable ?_)
      rintro _ _ ⟨⟩
      exact ⟨_, _, rfl, rfl, rfl, .getStatus _⟩
  | home =>
      show Ends _ (told .result (h.command .home))
      refine told_ends (h.command_ends idle sendable ?_)
      rintro _ _ ⟨⟩
      exact ⟨_, rfl, rfl⟩
  | move request =>
      show Ends _ (told .result (h.command (.move request)))
      refine told_ends (h.command_ends idle sendable ?_)
      rintro _ _ ⟨⟩
      exact ⟨_, rfl, rfl⟩
  | calibrate key value =>
      show Ends _ (told .result (h.command (.calibrate key value)))
      refine told_ends (h.command_ends idle sendable ?_)
      rintro _ _ ⟨⟩
      exact ⟨_, rfl, rfl⟩
  | stop =>
      show Ends _ (told (fun _ => .done) (h.send .stop))
      have hsend := h.send_ends idle sendable
      generalize h.send .stop = sent at hsend ⊢
      cases hsend with
      | givenUp late => exact .givenUp late
      | succeeded holds =>
          obtain ⟨reply, answer, hanswered, hdue⟩ := holds
          cases hanswered
          exact .succeeded ⟨none, .stop, hdue.mono fun _ => idle_of_due_none⟩
  | getPosition =>
      unfold perform Host.position
      refine told_ends (ask_ends (P := fun reply (place : Int32 × Int32) =>
        Command.getPosition.Answered reply (.position place.1 place.2)) idle sendable ?_)
      rintro _ _ ⟨⟩
      exact ⟨_, _, rfl, rfl, rfl, .getPosition _ _⟩
  | getAxisState axis =>
      unfold perform Host.axisState
      refine told_ends (ask_ends (P := fun reply report =>
        (Command.getAxisState axis).Answered reply (.axisState report)) idle sendable ?_)
      rintro _ _ ⟨⟩
      exact ⟨_, _, rfl, rfl, rfl, .getAxisState axis _⟩
  | getTemperature =>
      unfold perform Host.temperature
      refine told_ends (ask_ends (P := fun reply values =>
        Command.getTemperature.Answered reply (.temperature values)) idle sendable ?_)
      rintro _ _ ⟨⟩
      exact ⟨_, _, rfl, rfl, rfl, .getTemperature _⟩

/-! ## A conversation -/

/-- Operations of the host, one after another: each sends its command, the device
executes it, once and before the next, and the operation gives what the reply to it
says. -/
inductive Dialogue : List Command → List (Except (HostError EndpointError) Answer) →
    List (Command × Option Reply) → Prop where
  | nil : Dialogue [] [] []
  | cons {command : Command} {reply : Option Reply} {answer : Answer} {commands : List Command}
      {outcomes : List (Except (HostError EndpointError) Answer)}
      {served : List (Command × Option Reply)} (answered : command.Answered reply answer)
      (later : Dialogue commands outcomes served) :
      Dialogue (command :: commands) (.ok answer :: outcomes) ((command, reply) :: served)

theorem Dialogue.commands_eq {commands : List Command}
    {outcomes : List (Except (HostError EndpointError) Answer)}
    {served : List (Command × Option Reply)} (h : Dialogue commands outcomes served) :
    served.map Prod.fst = commands := by
  induction h with
  | nil => rfl
  | cons _ _ ih => rw [List.map_cons, ih]

theorem performAll_ends {h : Host (Remote α π σ)} (idle : h.exchange.frames.Holds (Idle served))
    {commands : List Command} (sendable : ∀ command ∈ commands, command.Sendable)
    (waited : ∀ e, .error e ∈ (h.performAll commands).1 → e.isGivenUp = false) :
    ∃ new, Dialogue commands (h.performAll commands).1 new ∧
      (h.performAll commands).2.exchange.frames.Holds (Idle (served ++ new)) := by
  induction commands generalizing h served with
  | nil => exact ⟨[], .nil, by rw [List.append_nil]; exact idle⟩
  | cons command rest ih =>
      have hperform := perform_ends idle (sendable command List.mem_cons_self)
      unfold performAll at waited ⊢
      generalize h.perform command = performed at hperform waited ⊢
      cases hperform with
      | @givenUp e _ late =>
          rw [waited e List.mem_cons_self] at late
          cases late
      | succeeded holds =>
          obtain ⟨reply, hanswered, hidle⟩ := holds
          obtain ⟨new, hdialogue, hlater⟩ := ih hidle
            (fun other hmem => sendable other (List.mem_cons_of_mem _ hmem))
            (fun e hmem => waited e (List.mem_cons_of_mem _ hmem))
          refine ⟨(command, reply) :: new, .cons hanswered hdialogue, ?_⟩
          rw [List.append_assoc] at hlater
          exact hlater

end Host

/-- What the host is joined to. -/
def Host.remote (h : Host (Remote α π σ)) : Remote α π σ :=
  h.exchange.frames.line

/-- A host and a device that have just been joined: nothing is under way, and the
device has executed nothing. -/
structure Host.Joined (h : Host (Remote α π σ)) : Prop where
  host : ∃ timeout, h.exchange = .withTimeout h.remote timeout
  device : ∃ timeout, h.remote.device.exchange = .withTimeout h.remote.port timeout
  inward : h.remote.port.inward.content = []
  returning : h.remote.returning.content = []
  served : h.remote.served = []

omit [AxisHardware α] [TemperatureSource π] [SettingStore σ] in
theorem Host.Joined.idle {h : Host (Remote α π σ)} (joined : h.Joined) :
    h.exchange.frames.Holds (Idle []) := by
  obtain ⟨⟨_, hhost⟩, ⟨_, hdevice⟩, hinward, hreturning, hserved⟩ := joined
  have hparser : h.exchange.frames.parser = .outside := congrArg (·.frames.parser) hhost
  have hdevice : h.remote.device.exchange.frames.parser = .outside :=
    congrArg (·.frames.parser) hdevice
  refine ⟨⟨[], [], []⟩, ⟨?_, ?_, hserved⟩, nofun, rfl, rfl⟩
  · show Parser.digest h.remote.port.inward.content h.remote.device.exchange.frames.parser = _
    rw [hinward, hdevice]
    rfl
  · show Parser.digest h.remote.returning.content h.exchange.frames.parser = _
    rw [hreturning, hparser]
    rfl

omit [AxisHardware α] [TemperatureSource π] [SettingStore σ] in
theorem Remote.Holds.served_eq {r : Remote α π σ} {parser : Parser}
    (h : r.Holds (Idle served) parser) : r.served = served := by
  obtain ⟨t, hcarries, hidle⟩ := h
  exact hcarries.served.trans hidle.served

/-- **Every command is executed once, and every operation gives its own reply.**
However the operations of the host and the iterations of the device are interleaved,
in whatever pieces the bytes arrive, and whatever the clocks show: as long as no wait
of the host is given up, the device has executed exactly the commands of the host's
operations, in their order and with equal fields, and each operation has succeeded
with what the reply to its own command says. Nothing that happens afterwards makes
the device execute one more. -/
theorem commands_served_in_order {host : Host (Remote α π σ)} (joined : host.Joined)
    {commands : List Command} (sendable : ∀ command ∈ commands, command.Sendable)
    (waited : ∀ e, .error e ∈ (host.performAll commands).1 → e.isGivenUp = false) :
    (host.performAll commands).2.remote.served.map Prod.fst = commands ∧
      Host.Dialogue commands (host.performAll commands).1
        (host.performAll commands).2.remote.served ∧
      ∀ happenings, ((host.performAll commands).2.remote.happenAll happenings).served =
        (host.performAll commands).2.remote.served := by
  obtain ⟨new, hdialogue, hidle⟩ := Host.performAll_ends joined.idle sendable waited
  rw [List.nil_append] at hidle
  have hserved : (host.performAll commands).2.remote.served = new := hidle.served_eq
  refine ⟨?_, ?_, ?_⟩
  · rw [hserved]
    exact hdialogue.commands_eq
  · rw [hserved]
    exact hdialogue
  · intro happenings
    rw [hserved]
    exact (hidle.happenAll kept_idle happenings).served_eq

end Operations

/-! ## A conversation on the bench -/

/-- A device that was just switched on, with what will happen before each operation
of its host. -/
def benchRemote (schedule : List (List (Happening Recorder BenchSensors BenchStore))) :
    Remote Recorder BenchSensors BenchStore where
  device := .new (.withTimeout ⟨.empty, [], [], fun _ => 0⟩ 10)
    (.new (.new ⟨false, false⟩) (.new ⟨false, false⟩)) ⟨[], []⟩ (.filled 32 [])
  arrived := []
  schedule
  readings _ := 0
  served := []

/-- A host during each of whose operations three bytes arrive at the device, which
then goes on for one iteration, and one byte arrives at the host. -/
def benchHost : Host (Remote Recorder BenchSensors BenchStore) where
  exchange := .withTimeout (benchRemote (.replicate 100 [.toDevice 3, .poll [2], .toHost 1])) 500
  replyTimeout := 1000

def benchCommands : List Command := [.ping ⟨[1, 0x7b], by decide⟩, .stop, .getStatus]

theorem benchHost_joined : benchHost.Joined :=
  ⟨⟨500, rfl⟩, ⟨10, rfl⟩, rfl, rfl, rfl⟩

/-- Two queries and a stop are served and answered, a few bytes at a time. -/
theorem benchCommands_served :
    (benchHost.performAll benchCommands).1.map Except.toOption =
        [some .done, some .done, some (.status .idle)] ∧
      (benchHost.performAll benchCommands).2.remote.served.map Prod.fst = benchCommands := by
  have houtcomes : (benchHost.performAll benchCommands).1.map Except.toOption =
      [some .done, some .done, some (.status .idle)] := by decide +kernel
  have hsendable : ∀ command ∈ benchCommands, command.Sendable := by decide
  have hwaited : ∀ e, .error e ∈ (benchHost.performAll benchCommands).1 →
      e.isGivenUp = false := by
    intro e hmem
    have hnone := List.mem_map_of_mem (f := Except.toOption) hmem
    rw [houtcomes] at hnone
    simp [Except.toOption] at hnone
  have hserved := commands_served_in_order benchHost_joined hsendable hwaited
  exact ⟨houtcomes, hserved.1⟩

end XYStage
