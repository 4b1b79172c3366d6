/-
# XYStage.Proofs.Link.Service -- the device serves a host that gives waits up

The device answers each command it executes with an acknowledgement and at most one
reply, in the order of the commands (`answers`). Part of that the host has taken, and
the rest is under way, whichever of its operations have ended meanwhile (`Owing`).

The host's own parser takes no part in this. When a wait is given up it drops what it
had of a message, so it may read the rest of the bytes as anything; whole messages are
what a parser makes of them that has never dropped anything (`Remote.Serves`).

Main statement: whatever becomes of the operations of the host, the device has
executed a beginning of their commands, each once and with equal fields
(`commands_executed_in_order`).
-/
import XYStage.Proofs.Link.Dialogue

namespace XYStage

set_option autoImplicit false

/-! ## What the device owes -/

/-- All that the device writes for the commands it has executed. -/
def answers (served : List (Command × Option Reply)) : List Reply :=
  served.flatMap fun pair => .ack :: pair.2.toList

@[simp] theorem answers_nil : answers [] = [] := rfl

@[simp] theorem answers_cons (pair : Command × Option Reply)
    (served : List (Command × Option Reply)) :
    answers (pair :: served) = .ack :: (pair.2.toList ++ answers served) := rfl

@[simp] theorem answers_append (older newer : List (Command × Option Reply)) :
    answers (older ++ newer) = answers older ++ answers newer :=
  List.flatMap_append

/-- Every reply is one that its command has. -/
def AllAnswered (served : List (Command × Option Reply)) : Prop :=
  ∀ pair ∈ served, ∃ answer, pair.1.Answered pair.2 answer

/-! ## The traffic of a run -/

/-- The command in a message of the host. -/
def Parcel.command? : Parcel → Option Command
  | .ack => none
  | .command sent _ => some sent

/-- The commands `sent` have been executed or are under way, and of the answers to
those executed the host has taken `taken` and is still to receive the rest. -/
structure Owing (sent : List Command) (taken : List Reply) (t : Traffic) : Prop where
  sent : t.served.map Prod.fst ++ t.toDevice.filterMap Parcel.command? = sent
  answered : AllAnswered t.served
  owed : answers t.served = taken ++ t.toHost

variable {sent : List Command} {taken : List Reply} {command : Command}

theorem kept_owing : Kept (Owing sent taken) := by
  intro t t' hadvances howing
  cases hadvances with
  | same => exact howing
  | acknowledged rest _ _ => exact ⟨howing.sent, howing.answered, howing.owed⟩
  | @served command sendable rest toHost served reply answer hanswered =>
      refine ⟨?_, ?_, ?_⟩
      · rw [List.map_append, List.append_assoc]
        exact howing.sent
      · intro pair hmem
        rcases List.mem_append.mp hmem with hold | hnew
        · exact howing.answered pair hold
        · obtain rfl := List.mem_singleton.mp hnew
          exact ⟨answer, hanswered⟩
      · have howed : answers served = taken ++ toHost := howing.owed
        simp [howed]

/-- A message that is taken off is the next that was owed. -/
theorem owing_of_without {first : Reply} {t : Traffic} (h : Without first (Owing sent taken) t) :
    Owing sent (taken ++ [first]) t := by
  refine ⟨h.sent, h.answered, ?_⟩
  rw [List.append_assoc]
  exact h.owed

/-- An acknowledgement of the host makes no difference to what is owed. -/
theorem owing_of_ack {t : Traffic} (h : With .ack (Owing sent taken) t) : Owing sent taken t := by
  obtain ⟨before, howing, rfl⟩ := h
  refine ⟨?_, howing.answered, howing.owed⟩
  rw [List.filterMap_append, show [Parcel.ack].filterMap Parcel.command? = [] from rfl,
    List.append_nil]
  exact howing.sent

theorem owing_of_command {sendable : command.Sendable} {t : Traffic}
    (h : With (.command command sendable) (Owing sent taken) t) :
    Owing (sent ++ [command]) taken t := by
  obtain ⟨before, howing, rfl⟩ := h
  refine ⟨?_, howing.answered, howing.owed⟩
  rw [List.filterMap_append, ← List.append_assoc, howing.sent]
  rfl

/-! ## The device behind any host -/

section Host

variable {α π σ : Type} [AxisHardware α] [TemperatureSource π] [SettingStore σ]

/-- Of the commands the host has sent, each has been executed or is under way, and
the bytes to the host are those of whole messages. Nothing is said of the host's own
parser, which may have begun in the middle of one. -/
def Remote.Serves (sent : List Command) (r : Remote α π σ) : Prop :=
  ∃ parser taken, r.Holds (Owing sent taken) parser

/-- The same of the device behind a host. -/
def Host.Serves (sent : List Command) (h : Host (Remote α π σ)) : Prop :=
  h.remote.Serves sent

omit [AxisHardware α] [TemperatureSource π] [SettingStore σ] in
theorem Remote.Holds.mono {J K : Traffic → Prop} {parser : Parser} {r : Remote α π σ}
    (h : r.Holds J parser) (le : ∀ t, J t → K t) : r.Holds K parser := by
  obtain ⟨t, hcarries, ht⟩ := h
  exact ⟨t, hcarries, le t ht⟩

namespace Remote

theorem Serves.advance {r : Remote α π σ} (h : r.Serves sent) : r.advance.Serves sent := by
  obtain ⟨parser, taken, hholds⟩ := h
  exact ⟨parser, taken, hholds.advance kept_owing⟩

theorem Serves.millis {r : Remote α π σ} (h : r.Serves sent) :
    (SerialLine.millis r).2.Serves sent := by
  obtain ⟨parser, taken, hholds⟩ := h
  exact ⟨parser, taken, hholds.millis kept_owing⟩

theorem Serves.takeByte {r r' : Remote α π σ} {answer : Except EndpointError UInt8}
    (h : r.Serves sent) (read : SerialLine.takeByte r = (answer, r')) : r'.Serves sent := by
  cases answer with
  | error e =>
      have herror : r.advance.returning.takeByte.1 = .error e := congrArg Prod.fst read
      obtain rfl : r.advance.setReturning r.advance.returning.takeByte.2 = r' :=
        congrArg Prod.snd read
      rw [(Pipe.takeByte_error herror).1]
      exact h.advance
  | ok byte =>
      obtain ⟨parser, taken, hholds⟩ := h
      cases hfeed : parser.feed byte with
      | mk outcome parser' =>
          obtain ⟨hwhole, hpending, hcomplete⟩ := hholds.takeByte kept_owing read hfeed
          cases outcome with
          | broken => exact absurd rfl hwhole
          | pending => exact ⟨parser', taken, hpending rfl⟩
          | complete frame =>
              obtain ⟨first, -, hwithout⟩ := hcomplete frame rfl
              exact ⟨parser', taken ++ [first], hwithout.mono fun _ => owing_of_without⟩

theorem Serves.write_ack {r : Remote α π σ} (h : r.Serves sent) :
    (SerialLine.write (Frame.empty MessageId.ack).encode r).2.Serves sent := by
  obtain ⟨parser, taken, hholds⟩ := h
  exact ⟨parser, taken, (hholds.write kept_owing .ack).mono fun _ => owing_of_ack⟩

theorem Serves.write_command {r : Remote α π σ} (h : r.Serves sent)
    (sendable : command.Sendable) :
    (SerialLine.write command.toFrame.encode r).2.Serves (sent ++ [command]) := by
  obtain ⟨parser, taken, hholds⟩ := h
  exact ⟨parser, taken,
    (hholds.write kept_owing (.command command sendable)).mono fun _ => owing_of_command⟩

end Remote

namespace FrameLine

theorem serves_takes {l l' : FrameLine (Remote α π σ)}
    {answer : Except (FrameLineError EndpointError) (Option Frame)} (h : l.line.Serves sent)
    (takes : Takes l answer l') : l'.line.Serves sent := by
  induction takes with
  | dry _ => exact h.advance
  | failed _ read => exact h.advance.takeByte read
  | complete _ read _ => exact h.advance.takeByte read
  | pending _ read _ _ ih => exact ih (h.advance.takeByte read)
  | broken _ read _ _ ih => exact ih (h.advance.takeByte read)

theorem serves_poll {l : FrameLine (Remote α π σ)} (h : l.line.Serves sent)
    (timeout started : UInt32) (checks : Nat) :
    (l.poll timeout started checks).2.line.Serves sent := by
  induction checks generalizing l with
  | zero => exact h
  | succ checks ih =>
      have hchecked := serves_takes h l.check_takes
      unfold FrameLine.poll
      generalize l.check = checked at hchecked ⊢
      obtain ⟨_ | _ | _, l'⟩ := checked
      · exact hchecked
      · dsimp only
        split
        · exact hchecked.millis
        · exact ih hchecked.millis
      · exact hchecked

theorem serves_receive {l : FrameLine (Remote α π σ)} (h : l.line.Serves sent)
    (timeout : UInt32) : (l.receive timeout).2.line.Serves sent :=
  serves_poll (l := { l with line := (SerialLine.millis l.line).2 }) h.millis timeout _ _

end FrameLine

namespace Exchange

variable {δ ε : Type} [SerialLine δ ε]

/-- Sending ends with the writing of the frame or with the wait behind it. -/
theorem send_frames (frame : Frame) (x : Exchange δ) :
    (x.send frame).2.frames = (x.frames.send frame).2 ∨
      (x.send frame).2.frames = ((x.frames.send frame).2.receive x.ackTimeout).2 := by
  unfold send
  dsimp only
  generalize x.frames.send frame = written
  obtain ⟨_ | _, frames⟩ := written
  · exact .inl rfl
  · right
    dsimp only
    generalize frames.receive x.ackTimeout = received
    obtain ⟨_ | _, frames⟩ := received <;> rfl

theorem acknowledge_frames (frame : Frame) (x : Exchange δ) :
    (x.acknowledge frame).2.frames = x.frames ∨
      (x.acknowledge frame).2.frames = (x.frames.send (Frame.empty MessageId.ack)).2 := by
  unfold acknowledge
  split
  · exact .inl rfl
  · right
    generalize x.frames.send (Frame.empty MessageId.ack) = written
    obtain ⟨_ | _, frames⟩ := written <;> rfl

theorem accept_snd (frame : Frame) (x : Exchange δ) :
    (x.accept frame).2 = (x.acknowledge frame).2 := by
  unfold accept
  generalize x.acknowledge frame = acknowledged
  obtain ⟨_ | _, x⟩ := acknowledged <;> rfl

/-- Receiving ends with the wait or with the acknowledgement behind it. -/
theorem receive_frames (timeout : UInt32) (x : Exchange δ) :
    (x.receive timeout).2.frames = (x.frames.receive timeout).2 ∨
      (x.receive timeout).2.frames =
        ((x.frames.receive timeout).2.send (Frame.empty MessageId.ack)).2 := by
  unfold receive
  generalize x.frames.receive timeout = received
  obtain ⟨_ | frame, frames⟩ := received
  · exact .inl rfl
  · dsimp only
    rw [accept_snd]
    exact acknowledge_frames frame { x with frames }

end Exchange

namespace Host

section

variable {δ ε : Type} [SerialLine δ ε]

theorem send_exchange (command : Command) (h : Host δ) :
    (h.send command).2 = { h with exchange := (h.exchange.send command.toFrame).2 } := by
  unfold send
  generalize h.exchange.send command.toFrame = sent
  obtain ⟨_ | _, exchange⟩ := sent <;> rfl

/-- A query ends with the sending or with the receiving. -/
theorem query_exchange (command : Command) (expected : UInt8) (h : Host δ) :
    (h.query command expected).2 = (h.send command).2 ∨
      (h.query command expected).2.exchange =
        ((h.send command).2.exchange.receive h.replyTimeout).2 := by
  have htimeout : (h.send command).2.replyTimeout = h.replyTimeout := by rw [send_exchange]
  unfold query
  generalize h.send command = sent at htimeout ⊢
  obtain ⟨_ | _, h'⟩ := sent
  · exact .inl rfl
  · right
    dsimp only at htimeout ⊢
    rw [htimeout]
    generalize h'.exchange.receive h.replyTimeout = received
    obtain ⟨_ | frame, exchange⟩ := received <;> rfl

theorem ask_snd {τ : Type} (command : Command) (expected : UInt8) (answer? : Reply → Option τ)
    (h : Host δ) : (h.ask command expected answer?).2 = (h.query command expected).2 := by
  unfold ask
  generalize h.query command expected = queried
  obtain ⟨_ | reply, h'⟩ := queried
  · rfl
  · dsimp only
    split <;> rfl

/-- Whatever is read off the reply, an operation sends its command and at most waits
for one reply. -/
theorem perform_snd (command : Command) (h : Host δ) :
    (h.perform command).2 = (h.send command).2 ∨
      ∃ expected, (h.perform command).2 = (h.query command expected).2 := by
  cases command with
  | ping data =>
      right
      refine ⟨MessageId.log, ?_⟩
      have hpayload : Payload.ofBytes? data.bytes = some data := dif_pos data.size_le
      show (h.ping data.bytes).2 = _
      unfold ping
      rw [hpayload]
      dsimp only
      split
      · next hasked => exact (congrArg Prod.snd hasked).symm.trans (ask_snd _ _ _ h)
      · next hasked => exact (congrArg Prod.snd hasked).symm.trans (ask_snd _ _ _ h)
  | stop => exact .inl rfl
  | getStatus => exact .inr ⟨MessageId.status, show h.status.2 = _ from ask_snd _ _ _ h⟩
  | home => exact .inr ⟨MessageId.axisResult, show h.home.2 = _ from ask_snd _ _ _ h⟩
  | move request =>
      exact .inr ⟨MessageId.axisResult, show (h.move request).2 = _ from ask_snd _ _ _ h⟩
  | getPosition => exact .inr ⟨MessageId.position, show h.position.2 = _ from ask_snd _ _ _ h⟩
  | getAxisState axis =>
      exact .inr ⟨MessageId.axisState, show (h.axisState axis).2 = _ from ask_snd _ _ _ h⟩
  | getTemperature =>
      exact .inr ⟨MessageId.temperature, show h.temperature.2 = _ from ask_snd _ _ _ h⟩
  | calibrate key value =>
      exact .inr ⟨MessageId.axisResult, show (h.calibrate key value).2 = _ from ask_snd _ _ _ h⟩

end

theorem serves_send {h : Host (Remote α π σ)} (serves : h.Serves sent)
    (sendable : command.Sendable) : (h.send command).2.Serves (sent ++ [command]) := by
  have hwritten : (h.exchange.frames.send command.toFrame).2.line.Serves (sent ++ [command]) :=
    Remote.Serves.write_command serves sendable
  rw [send_exchange]
  show (h.exchange.send command.toFrame).2.frames.line.Serves _
  obtain hsame | hsame := h.exchange.send_frames command.toFrame
  · rw [hsame]
    exact hwritten
  · rw [hsame]
    exact FrameLine.serves_receive hwritten h.exchange.ackTimeout

theorem serves_query {h : Host (Remote α π σ)} (serves : h.Serves sent)
    (sendable : command.Sendable) (expected : UInt8) :
    (h.query command expected).2.Serves (sent ++ [command]) := by
  have hsent := serves_send serves sendable
  obtain hsame | hsame := h.query_exchange command expected
  · rw [hsame]
    exact hsent
  · show (h.query command expected).2.exchange.frames.line.Serves _
    rw [hsame]
    have hreceived := FrameLine.serves_receive hsent h.replyTimeout
    obtain hframes | hframes := (h.send command).2.exchange.receive_frames h.replyTimeout
    · rw [hframes]
      exact hreceived
    · rw [hframes]
      exact hreceived.write_ack

theorem serves_perform {h : Host (Remote α π σ)} (serves : h.Serves sent)
    (sendable : command.Sendable) : (h.perform command).2.Serves (sent ++ [command]) := by
  obtain hsame | ⟨expected, hsame⟩ := h.perform_snd command
  · rw [hsame]
    exact serves_send serves sendable
  · rw [hsame]
    exact serves_query serves sendable expected

theorem serves_performAll {h : Host (Remote α π σ)} (serves : h.Serves sent)
    {commands : List Command} (sendable : ∀ command ∈ commands, command.Sendable) :
    (h.performAll commands).2.Serves (sent ++ commands) := by
  induction commands generalizing h sent with
  | nil =>
      rw [List.append_nil]
      exact serves
  | cons command rest ih =>
      have hone := serves_perform serves (sendable command List.mem_cons_self)
      have hall := ih hone fun other hmem => sendable other (List.mem_cons_of_mem _ hmem)
      rw [List.append_assoc] at hall
      exact hall

omit [AxisHardware α] [TemperatureSource π] [SettingStore σ] in
theorem Joined.serves {h : Host (Remote α π σ)} (joined : h.Joined) : h.Serves [] := by
  obtain ⟨t, hcarries, hidle⟩ := joined.idle
  refine ⟨h.exchange.frames.parser, [], t, hcarries, ?_, ?_, ?_⟩
  · rw [hidle.served, List.map_nil, List.nil_append, List.filterMap_eq_nil_iff]
    intro parcel hmem
    obtain rfl := hidle.toDevice parcel hmem
    rfl
  · rw [hidle.served]
    intro pair hmem
    cases hmem
  · rw [hidle.served, hidle.toHost]
    rfl

end Host

/-- **Commands are executed in the order of the operations, at most once.** However the
operations of the host and the iterations of the device are interleaved, and whichever
waits of the host are given up: what the device has executed are the first commands of
the host's operations, and the others are under way. -/
theorem commands_executed_in_order {host : Host (Remote α π σ)} (joined : host.Joined)
    {commands : List Command} (sendable : ∀ command ∈ commands, command.Sendable) :
    (host.performAll commands).2.remote.served.map Prod.fst <+: commands := by
  obtain ⟨_, _, t, hcarries, howing⟩ := Host.serves_performAll joined.serves sendable
  rw [show (host.performAll commands).2.remote.served = t.served from hcarries.served]
  exact ⟨_, howing.sent⟩

end Host

end XYStage
