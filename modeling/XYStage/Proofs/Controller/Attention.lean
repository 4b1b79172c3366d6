/-
# XYStage.Proofs.Controller.Attention -- which frames an iteration hands on

On a line that loses nothing, listening comes to one of seven things (`Hearing`):
an overdue acknowledgement, a failed read, no whole frame, or a frame, which either
settles the posted reply, refuses it, is a refusal of nothing, or is acknowledged
and handed on. Carrying the frame out writes at most one reply behind that.

`Attended c stream log` says that a controller came to `c` by iterations, between
which anything else happened and the bytes of `stream` were sent to it in pieces;
`log` tells what each iteration took from the line and what it handed on.

Main statement: the frames handed on are those of the stream, in order and once
each, without acknowledgements and refusals of a reply
(`handed_frames_follow_stream`).
-/
import XYStage.Proofs.Controller.Coherence
import XYStage.Proofs.Link.Lossless

namespace XYStage

set_option autoImplicit false

open LosslessLine (held)

/-! ## Listening -/

namespace Exchange

section

variable {δ ε : Type} [SerialLine δ ε]

/-- The frame that listening takes from the line, whatever becomes of it. -/
def next? (x : Exchange δ) : Option Frame :=
  match x.expire with
  | (.error _, _) => none
  | (.ok (), x) =>
      match x.frames.check.1 with
      | .ok frame? => frame?
      | .error _ => none

/-- The frame that listening hands on to be carried out. -/
def handed? (x : Exchange δ) : Option Frame :=
  x.hear.1.toOption.join

end

/-- Whether a frame is handed on: it is neither an acknowledgement nor, while a
posted reply is unsettled, its refusal. -/
def heeds (unsettled : Bool) (frame : Frame) : Bool :=
  decide (frame.id ≠ MessageId.ack) && !(unsettled && decide (frame.id = MessageId.nack))

/-- The empty frame that acknowledges another. -/
def ackBytes : List UInt8 :=
  (Frame.empty MessageId.ack).encode

/-- The acknowledgement of a frame that is handed on. -/
def ackFor (frame : Frame) : List UInt8 :=
  if frame.id = MessageId.nack then [] else ackBytes

variable {δ ε : Type} [SerialLine δ ε] [LosslessLine δ ε]

/-- What listening can come to: the frame it takes, its answer, the exchange after
it, and the bytes taken and written. -/
inductive Hearing (x : Exchange δ) : Option Frame → Except (ExchangeError ε) (Option Frame) →
    Exchange δ → List UInt8 → List UInt8 → Prop where
  /-- The acknowledgement of the posted frame is given up. -/
  | overdue {line : δ} (awaiting : x.isAwaiting = true)
      (passes : (held x.frames.line).Passes (held line) [] []) :
      Hearing x none (.error (.line .timeout))
        { x with frames := { x.frames with line }, postedAt := none } [] []
  | failed {frames : FrameLine δ} {taken : List UInt8} {e : ε}
      (took : x.frames.Took (.error (.line e)) frames taken) :
      Hearing x none (.error (.line (.line e))) { x with frames } taken []
  | quiet {frames : FrameLine δ} {taken : List UInt8} (took : x.frames.Took (.ok none) frames taken) :
      Hearing x none (.ok none) { x with frames } taken []
  | acknowledged {frames : FrameLine δ} {taken : List UInt8} {frame : Frame}
      (took : x.frames.Took (.ok (some frame)) frames taken) (id : frame.id = MessageId.ack) :
      Hearing x (some frame) (.ok none) { x with frames, postedAt := none } taken []
  /-- The posted frame is refused. -/
  | refused {frames : FrameLine δ} {taken : List UInt8} {frame : Frame}
      (took : x.frames.Took (.ok (some frame)) frames taken) (id : frame.id = MessageId.nack)
      (awaiting : x.isAwaiting = true) :
      Hearing x (some frame) (.error (.notAcknowledged MessageId.nack))
        { x with frames, postedAt := none } taken []
  /-- Nothing is refused. -/
  | stray {frames : FrameLine δ} {taken : List UInt8} {frame : Frame}
      (took : x.frames.Took (.ok (some frame)) frames taken) (id : frame.id = MessageId.nack)
      (settled : x.isAwaiting = false) :
      Hearing x (some frame) (.ok (some frame)) { x with frames } taken []
  | received {frames : FrameLine δ} {taken : List UInt8} {frame : Frame} {line : δ}
      (took : x.frames.Took (.ok (some frame)) frames taken) (notAck : frame.id ≠ MessageId.ack)
      (notNack : frame.id ≠ MessageId.nack)
      (passes : (held frames.line).Passes (held line) [] ackBytes) :
      Hearing x (some frame) (.ok (some frame)) { x with frames := { frames with line } } taken
        ackBytes

/-- Before anything is taken: the wait is given up, or bytes may arrive and nothing
else changes. -/
theorem expire_cases (x : Exchange δ) :
    (∃ line, (held x.frames.line).Passes (held line) [] [] ∧ x.isAwaiting = true ∧
      x.expire = (.error (.line .timeout),
        { x with frames := { x.frames with line }, postedAt := none })) ∨
      ∃ line, (held x.frames.line).Passes (held line) [] [] ∧
        x.expire = (.ok (), { x with frames := { x.frames with line } }) := by
  by_cases hposted : x.postedAt = none
  · have hexpire : x.expire = (.ok (), x) := by simp only [expire, hposted]
    exact .inr ⟨x.frames.line, .refl _, hexpire⟩
  · obtain ⟨sent, hsent⟩ := Option.ne_none_iff_exists'.mp hposted
    have hpasses := LosslessLine.millis_passes x.frames.line
    by_cases hover : x.ackTimeout ≤ (SerialLine.millis x.frames.line).1 - sent
    · refine .inl ⟨_, hpasses, by rw [isAwaiting, hsent]; rfl, ?_⟩
      simp only [expire, hsent, SerialLine.elapsed, hover, if_true]
    · refine .inr ⟨_, hpasses, ?_⟩
      simp only [expire, hsent, SerialLine.elapsed, hover, if_false]

/-- A frame that was taken, acknowledged if it has to be. -/
theorem accept_cases (frame : Frame) (x : Exchange δ) :
    (frame.id = MessageId.ack ∨ frame.id = MessageId.nack) ∧ x.accept frame = (.ok frame, x) ∨
      frame.id ≠ MessageId.ack ∧ frame.id ≠ MessageId.nack ∧
        ∃ line, (held x.frames.line).Passes (held line) [] ackBytes ∧
          x.accept frame = (.ok frame, { x with frames := { x.frames with line } }) := by
  by_cases hown : frame.id = MessageId.ack ∨ frame.id = MessageId.nack
  · refine .inl ⟨hown, ?_⟩
    simp only [accept, acknowledge, hown, if_true]
  · obtain ⟨line, hsend, hpasses⟩ := x.frames.send_passes (Frame.empty MessageId.ack)
    refine .inr ⟨fun h => hown (.inl h), fun h => hown (.inr h), line, hpasses, ?_⟩
    simp only [accept, acknowledge, hown, if_false, hsend]

variable [LawfulSerialLine δ]

/-- **Listening comes to one of these.** -/
theorem hear_hearing (x : Exchange δ) :
    ∃ taken written, Hearing x x.next? x.hear.1 x.hear.2 taken written := by
  unfold hear next?
  rcases x.expire_cases with ⟨line, hpasses, hawaiting, hexpire⟩ | ⟨line, hpasses, hexpire⟩
  · rw [hexpire]
    exact ⟨[], [], .overdue hawaiting hpasses⟩
  · rw [hexpire]
    obtain ⟨taken, htook⟩ := { x.frames with line }.check_took
    have htook := htook.after hpasses
    generalize hcheck : { x.frames with line }.check = checked at htook
    obtain ⟨answer, frames⟩ := checked
    simp only [check, hcheck]
    cases answer with
    | error error =>
        obtain ⟨e, rfl⟩ := htook.failed error rfl
        exact ⟨taken, [], .failed htook⟩
    | ok frame? =>
        cases frame? with
        | none => exact ⟨taken, [], .quiet htook⟩
        | some frame =>
            by_cases hrefused : x.isAwaiting = true ∧ frame.id = MessageId.nack
            · have hpending : isAwaiting { x with frames } = true ∧ frame.id = MessageId.nack :=
                hrefused
              simp only [hpending]
              exact ⟨taken, [], .refused htook hrefused.2 hrefused.1⟩
            · have hpending : ¬(isAwaiting { x with frames } = true ∧ frame.id = MessageId.nack) :=
                hrefused
              simp only [hpending, if_false]
              by_cases hack : frame.id = MessageId.ack
              · rcases accept_cases frame { x with frames, postedAt := none } with
                  ⟨-, haccept⟩ | ⟨hne, -⟩
                · simp only [if_pos hack, haccept]
                  exact ⟨taken, [], .acknowledged htook hack⟩
                · exact absurd hack hne
              · rcases accept_cases frame { x with frames } with
                  ⟨hown, haccept⟩ | ⟨-, hnack, line, hwritten, haccept⟩
                · have hnack : frame.id = MessageId.nack := hown.resolve_left hack
                  have hsettled : x.isAwaiting = false :=
                    Bool.eq_false_iff.mpr fun hawaiting => hrefused ⟨hawaiting, hnack⟩
                  simp only [if_neg hack, haccept]
                  exact ⟨taken, [], .stray htook hnack hsettled⟩
                · simp only [if_neg hack, haccept]
                  exact ⟨taken, ackBytes, .received htook hack hnack hwritten⟩

omit [LawfulSerialLine δ]

namespace Hearing

variable {x x' : Exchange δ} {frame? : Option Frame}
  {answer : Except (ExchangeError ε) (Option Frame)} {taken written : List UInt8}

theorem passes (h : Hearing x frame? answer x' taken written) :
    (held x.frames.line).Passes (held x'.frames.line) taken written := by
  cases h with
  | overdue _ passes => exact passes
  | received took _ _ passes =>
      have hboth := took.passes.trans passes
      rw [List.append_nil, List.nil_append] at hboth
      exact hboth
  | failed took => exact took.passes
  | quiet took => exact took.passes
  | acknowledged took _ => exact took.passes
  | refused took _ _ => exact took.passes
  | stray took _ _ => exact took.passes

/-- The parser has taken what was taken from the line, and the frame is the one in
it. -/
theorem digested (h : Hearing x frame? answer x' taken written) :
    ∃ broken, x.frames.parser.digest taken =
      (⟨frame?.toList, broken⟩, x'.frames.parser) := by
  cases h with
  | overdue _ _ => exact ⟨0, rfl⟩
  | failed took => exact took.digested
  | quiet took => exact took.digested
  | acknowledged took _ => exact took.digested
  | refused took _ _ => exact took.digested
  | stray took _ _ => exact took.digested
  | received took _ _ _ => exact took.digested

/-- What is handed on is the frame that was taken, if it is to be heeded. -/
theorem handed_eq (h : Hearing x frame? answer x' taken written) :
    answer.toOption.join = frame?.filter (heeds x.isAwaiting) := by
  cases h with
  | overdue _ _ => rfl
  | failed _ => rfl
  | quiet _ => rfl
  | acknowledged _ id => simp [Except.toOption, Option.filter, heeds, id]
  | refused _ id awaiting => simp [Except.toOption, Option.filter, heeds, id, awaiting]
  | stray _ id settled =>
      simp [Except.toOption, Option.filter, heeds, id, settled, MessageId.ack, MessageId.nack]
  | received _ notAck notNack _ =>
      simp [Except.toOption, Option.filter, heeds, notAck, notNack]

/-- One acknowledgement is written for what is handed on, unless that is a
refusal. -/
theorem written_eq (h : Hearing x frame? answer x' taken written) :
    written = answer.toOption.join.elim [] ackFor := by
  cases h with
  | stray _ id _ => simp [ackFor, id, Except.toOption]
  | received _ _ notNack _ => simp [ackFor, notNack, Except.toOption]
  | _ => rfl

/-- While an acknowledgement is given up, nothing is taken. -/
theorem of_timeout (h : Hearing x frame? answer x' taken written)
    (late : answer = .error (.line .timeout)) :
    frame? = none ∧ taken = [] ∧ x'.frames.parser = x.frames.parser := by
  cases h with
  | overdue _ _ => exact ⟨rfl, rfl, rfl⟩
  | _ => cases late

theorem of_refusal {frame : Frame} (h : Hearing x (some frame) answer x' taken written)
    (id : frame.id = MessageId.nack) (awaiting : x.isAwaiting = true) :
    answer = .error (.notAcknowledged MessageId.nack) := by
  cases h with
  | refused _ _ _ => rfl
  | acknowledged _ hack =>
      rw [id] at hack
      exact absurd hack (by decide)
  | stray _ _ settled =>
      rw [awaiting] at settled
      cases settled
  | received _ _ notNack _ => exact absurd id notNack

/-- Listening that neither fails nor takes a frame has taken everything that has
arrived. -/
theorem drained (h : Hearing x none answer x' taken written) (ok : answer = .ok none) :
    (held x'.frames.line).unread = [] := by
  cases h with
  | quiet took => exact took.drained rfl
  | overdue _ _ => cases ok
  | failed _ => cases ok

/-- A posted reply stays unsettled until its time is over or a frame answers it. -/
theorem awaiting_iff (h : Hearing x frame? answer x' taken written) :
    x'.isAwaiting = true ↔ x.isAwaiting = true ∧ answer ≠ .error (.line .timeout) ∧
      ∀ frame ∈ frame?, frame.id ≠ MessageId.ack ∧ frame.id ≠ MessageId.nack := by
  cases h with
  | overdue _ _ => simp [isAwaiting]
  | failed _ => simp [isAwaiting]
  | quiet _ => simp [isAwaiting]
  | acknowledged _ id => simp [isAwaiting, id]
  | refused _ id _ => simp [isAwaiting, id]
  | stray _ id settled => simp_all [isAwaiting]
  | received _ notAck notNack _ => simp [isAwaiting, notAck, notNack]

end Hearing

/-! ## Writing a reply -/

/-- Posting a reply, or nothing, and nothing else. -/
structure Posts (x : Exchange δ) (reply : Option Reply) (x' : Exchange δ) : Prop where
  passes : (held x.frames.line).Passes (held x'.frames.line) []
    (reply.elim [] fun reply => reply.toFrame.encode)
  parser_eq : x'.frames.parser = x.frames.parser
  awaiting_eq : x'.isAwaiting = (reply.isSome || x.isAwaiting)

theorem posts_none (x : Exchange δ) : Posts x none x :=
  ⟨.refl _, rfl, rfl⟩

theorem post_posts (reply : Reply) (x : Exchange δ) :
    ∃ x', x.post reply.toFrame = (.ok (), x') ∧ Posts x (some reply) x' := by
  obtain ⟨line, hsend, hpasses⟩ := x.frames.send_passes reply.toFrame
  have hboth := hpasses.trans (LosslessLine.millis_passes line)
  rw [List.append_nil, List.append_nil] at hboth
  refine ⟨{ x with
    frames := { x.frames with line := (SerialLine.millis line).2 }
    postedAt := some (SerialLine.millis line).1 }, ?_, hboth, rfl, rfl⟩
  simp only [post, hsend]

end Exchange

/-! ## An iteration -/

/-- A refusal is no command. -/
theorem Command.ofFrame_of_nack {frame : Frame} (h : frame.id = MessageId.nack) :
    ofFrame frame = .error (.unknownId MessageId.nack) := by
  unfold ofFrame
  rw [h]
  rfl

namespace Controller

variable {δ ε α π σ : Type} [AxisHardware α] [SerialLine δ ε] [TemperatureSource π]
  [SettingStore σ]

/-- The controller once it has settled and listened. -/
def heeding (c : Controller δ α π σ) : Controller δ α π σ :=
  { c.settled with exchange := c.exchange.hear.2 }

/-- The record of an iteration before it listens. -/
def opened (c : Controller δ α π σ) : PollRecord :=
  { PollRecord.nothing with reloaded := c.reload.1, rested := c.reload.2.progress.1 }

theorem poll_of_handed {frame : Frame} {c : Controller δ α π σ}
    (h : c.exchange.handed? = some frame) : c.poll = c.heeding.carryOut frame c.opened := by
  rw [poll_eq, listen_eq, settled_exchange]
  unfold Exchange.handed? at h
  unfold heeding
  generalize c.exchange.hear = heard at h ⊢
  obtain ⟨answer, exchange⟩ := heard
  cases answer with
  | error e => cases h
  | ok frame? =>
      obtain rfl : frame? = some frame := h
      rfl

theorem poll_of_unhanded {c : Controller δ α π σ} (h : c.exchange.handed? = none) :
    c.poll = (⟨c.opened, match c.exchange.hear.1 with | .error e => some e | .ok _ => none⟩,
      c.heeding) := by
  rw [poll_eq, listen_eq, settled_exchange]
  unfold Exchange.handed? at h
  unfold heeding
  generalize c.exchange.hear = heard at h ⊢
  obtain ⟨answer, exchange⟩ := heard
  cases answer with
  | error e => rfl
  | ok frame? =>
      obtain rfl : frame? = none := h
      rfl

/-- The command that an iteration executes, with its reply. -/
def served (c : Controller δ α π σ) : Option (Command × Option Reply) :=
  c.exchange.command?.map fun command => (command, (c.heeding.execute command c.opened).1)

theorem served_of_unhanded {c : Controller δ α π σ} (h : c.exchange.handed? = none) :
    c.served = none := by
  cases hcommand : c.exchange.command? with
  | none => rw [served, hcommand]; rfl
  | some command =>
      obtain ⟨frame, hhear, -⟩ := Exchange.command?_eq_some hcommand
      rw [Exchange.handed?, hhear] at h
      cases h

theorem served_of_handed {c : Controller δ α π σ} {frame : Frame} {command : Command}
    (h : c.exchange.handed? = some frame) (hframe : Command.ofFrame frame = .ok command) :
    c.served = some (command, (c.heeding.execute command c.opened).1) := by
  have hcommand : c.exchange.command? = some command := by
    unfold Exchange.handed? at h
    unfold Exchange.command?
    generalize c.exchange.hear = heard at h
    obtain ⟨answer, exchange⟩ := heard
    cases answer with
    | error e => cases h
    | ok frame? =>
        obtain rfl : frame? = some frame := h
        show (Command.ofFrame frame).toOption = some command
        rw [hframe]
        rfl
  rw [served, hcommand]
  rfl

omit [SerialLine δ ε] in
/-- Carrying out a command leaves the link alone. -/
theorem execute_exchange (command : Command) (record : PollRecord) (c : Controller δ α π σ) :
    (c.execute command record).2.2.2.exchange = c.exchange := by
  cases command with
  | home =>
      simp only [execute]
      by_cases hidle : c.status = .idle
      · rw [home_accepted hidle]
      · rw [home_busy hidle]
  | move request =>
      simp only [execute]
      cases hallowed : c.status.allowsMove with
      | false => rw [move_busy hallowed]
      | true =>
          rcases (c.axes.get request.axis).start_cases
              (requestedMotion request (c.calibration.axis request.axis)) with
            ⟨refusal, hpermit, -⟩ | ⟨plan, -, hok, -⟩
          · rw [move_refused hallowed hpermit]
          · have hstart : (c.axes.get request.axis).start
                (requestedMotion request (c.calibration.axis request.axis)) = (.ok (), _) :=
              Prod.ext hok rfl
            rw [move_accepted hallowed hstart]
  | calibrate key value =>
      obtain ⟨code, failure, store, calibration, hkept⟩ := c.calibrate_kept key value record
      simp only [execute]
      rw [hkept]
  | ping data => rfl
  | getStatus => rfl
  | stop => rfl
  | getPosition => rfl
  | getAxisState axis => rfl
  | getTemperature => rfl

omit [SerialLine δ ε] in
/-- No command is answered by an acknowledgement. -/
theorem execute_reply_ne (command : Command) (record : PollRecord) (c : Controller δ α π σ) :
    (c.execute command record).1 ≠ some .ack := by
  cases command <;> simp [execute]

variable [LosslessLine δ ε]

omit [AxisHardware α] [TemperatureSource π] [SettingStore σ] in
theorem conclude_posts (reply : Option Reply) (fate : FrameFate) (record : PollRecord)
    (c : Controller δ α π σ) :
    (c.conclude reply fate record).1.failure = none ∧
      c.exchange.Posts reply (c.conclude reply fate record).2.exchange := by
  cases reply with
  | none => exact ⟨rfl, c.exchange.posts_none⟩
  | some reply =>
      obtain ⟨exchange, hpost, hposts⟩ := c.exchange.post_posts reply
      simp only [conclude, hpost]
      exact ⟨trivial, hposts⟩

/-- Carrying out a frame writes at most one reply, that of its command if it is
one. -/
theorem carryOut_posts (frame : Frame) (record : PollRecord) (c : Controller δ α π σ) :
    (c.carryOut frame record).1.failure = none ∧ ∃ reply : Option Reply, reply ≠ some .ack ∧
      (∀ command, Command.ofFrame frame = .ok command →
        reply = (c.execute command record).1) ∧
      (frame.id = MessageId.nack → reply = none) ∧
      c.exchange.Posts reply (c.carryOut frame record).2.exchange := by
  cases hframe : Command.ofFrame frame with
  | ok command =>
      rw [carryOut_command hframe]
      obtain ⟨hfailure, hposts⟩ := conclude_posts (c.execute command record).1
        (.executed command.id (c.execute command record).2.1)
        (c.execute command record).2.2.1 (c.execute command record).2.2.2
      rw [execute_exchange] at hposts
      refine ⟨hfailure, _, execute_reply_ne command record c, ?_, ?_, hposts⟩
      · rintro _ ⟨⟩
        rfl
      · intro hnack
        rw [Command.ofFrame_of_nack hnack] at hframe
        cases hframe
  | error error =>
      have hunknown (hnack : frame.id = MessageId.nack) : error = .unknownId MessageId.nack := by
        rw [Command.ofFrame_of_nack hnack] at hframe
        exact (Except.error.inj hframe).symm
      have hconclude : ∃ reply fate, c.carryOut frame record = c.conclude reply fate record ∧
          reply ≠ some .ack ∧ (frame.id = MessageId.nack → reply = none) := by
        unfold carryOut
        rw [hframe]
        cases error with
        | unknownId id => exact ⟨none, _, rfl, nofun, fun _ => rfl⟩
        | wrongSize id expected actual =>
            refine ⟨_, _, rfl, ?_, fun hnack => nomatch hunknown hnack⟩
            split <;> nofun
        | badField id =>
            refine ⟨_, _, rfl, ?_, fun hnack => nomatch hunknown hnack⟩
            split <;> nofun
      obtain ⟨reply, fate, hcarry, hack, hnack⟩ := hconclude
      rw [hcarry]
      obtain ⟨hfailure, hposts⟩ := c.conclude_posts reply fate record
      exact ⟨hfailure, reply, hack, nofun, hnack, hposts⟩

/-- Behind what listening does, an iteration posts at most one reply. -/
theorem poll_posts (c : Controller δ α π σ) : ∃ reply : Option Reply, reply ≠ some .ack ∧
    (reply ≠ none → ∃ frame, c.exchange.handed? = some frame ∧ frame.id ≠ MessageId.nack) ∧
    (∀ frame command, c.exchange.handed? = some frame → Command.ofFrame frame = .ok command →
      reply = (c.heeding.execute command c.opened).1) ∧
    c.heeding.exchange.Posts reply c.poll.2.exchange := by
  cases hhanded : c.exchange.handed? with
  | none =>
      rw [poll_of_unhanded hhanded]
      exact ⟨none, nofun, fun h => absurd rfl h, nofun, c.heeding.exchange.posts_none⟩
  | some frame =>
      rw [poll_of_handed hhanded]
      obtain ⟨-, reply, hack, hcommand, hnack, hposts⟩ := carryOut_posts frame c.opened c.heeding
      refine ⟨reply, hack, ?_, ?_, hposts⟩
      · intro hreply
        exact ⟨frame, rfl, fun hid => hreply (hnack hid)⟩
      · rintro _ command ⟨⟩ hframe
        exact hcommand command hframe

variable [LawfulSerialLine δ]

omit [TemperatureSource π] in
theorem hear_hearing (c : Controller δ α π σ) : ∃ taken written,
    c.exchange.Hearing c.exchange.next? c.exchange.hear.1 c.heeding.exchange taken written :=
  c.exchange.hear_hearing

/-- What an iteration takes from the line its parser takes, with at most one frame in
it. -/
theorem poll_took (c : Controller δ α π σ) : ∃ taken broken,
    (held c.exchange.frames.line).inbound = taken ++ (held c.poll.2.exchange.frames.line).inbound ∧
      c.exchange.frames.parser.digest taken =
        (⟨c.exchange.next?.toList, broken⟩, c.poll.2.exchange.frames.parser) := by
  obtain ⟨taken, written, hhearing⟩ := c.hear_hearing
  obtain ⟨reply, -, -, -, hposts⟩ := c.poll_posts
  obtain ⟨broken, hdigested⟩ := hhearing.digested
  refine ⟨taken, broken, ?_, ?_⟩
  · rw [hhearing.passes.inbound_eq, hposts.passes.inbound_eq, List.nil_append]
  · rw [hdigested, hposts.parser_eq]

omit [TemperatureSource π] in
/-- An iteration hands on the frame it takes, or nothing. -/
theorem handed_eq (c : Controller δ α π σ) : c.exchange.handed? =
    c.exchange.next?.filter (Exchange.heeds c.exchange.isAwaiting) := by
  obtain ⟨_, _, hhearing⟩ := c.hear_hearing
  exact hhearing.handed_eq

/-! ### What it executes -/

/-- An iteration that hands nothing on executes and writes nothing. -/
theorem poll_of_unserved {c : Controller δ α π σ} (h : c.exchange.handed? = none) :
    c.served = none ∧
      (held c.poll.2.exchange.frames.line).outbound = (held c.exchange.frames.line).outbound := by
  obtain ⟨taken, written, hhearing⟩ := c.hear_hearing
  refine ⟨served_of_unhanded h, ?_⟩
  rw [poll_of_unhanded h, hhearing.passes.outbound_eq, hhearing.written_eq,
    show c.exchange.hear.1.toOption.join = none from h]
  exact List.append_nil _

omit [LosslessLine δ ε] [LawfulSerialLine δ] in
/-- The command that is served is executed, and its reply is the one posted. -/
theorem poll_of_served {c : Controller δ α π σ} {command : Command} {reply : Option Reply}
    (h : c.served = some (command, reply)) :
    reply = (c.heeding.execute command c.opened).1 ∧
      c.poll = (c.heeding.execute command c.opened).2.2.2.conclude reply
        (.executed command.id (c.heeding.execute command c.opened).2.1)
        (c.heeding.execute command c.opened).2.2.1 := by
  obtain ⟨served, hcommand, hpair⟩ := Option.map_eq_some_iff.mp h
  obtain ⟨rfl, hreply⟩ := Prod.mk.inj hpair
  obtain ⟨frame, hhear, hframe⟩ := Exchange.command?_eq_some hcommand
  have hhanded : c.exchange.handed? = some frame := by
    rw [Exchange.handed?, hhear]
    rfl
  refine ⟨hreply.symm, ?_⟩
  rw [poll_of_handed hhanded, carryOut_command hframe, hreply]

/-- An iteration that hands a command on acknowledges it, executes it, and writes its
reply if it has one. -/
theorem poll_of_command {c : Controller δ α π σ} {frame : Frame} {command : Command}
    (h : c.exchange.handed? = some frame) (hframe : Command.ofFrame frame = .ok command) :
    ∃ reply, reply = (c.heeding.execute command c.opened).1 ∧
      c.served = some (command, reply) ∧
      (held c.poll.2.exchange.frames.line).outbound = (held c.exchange.frames.line).outbound ++
        Exchange.ackBytes ++ reply.elim [] (fun reply => reply.toFrame.encode) := by
  obtain ⟨taken, written, hhearing⟩ := c.hear_hearing
  obtain ⟨reply, -, -, hexecuted, hposts⟩ := c.poll_posts
  have hreply := hexecuted frame command h hframe
  have hnack : frame.id ≠ MessageId.nack := fun hnack => by
    rw [Command.ofFrame_of_nack hnack] at hframe
    cases hframe
  refine ⟨reply, hreply, ?_, ?_⟩
  · rw [hreply]
    exact served_of_handed h hframe
  · rw [hposts.passes.outbound_eq, hhearing.passes.outbound_eq, hhearing.written_eq,
      show c.exchange.hear.1.toOption.join = some frame from h, Option.elim_some,
      Exchange.ackFor, if_neg hnack]

omit [LawfulSerialLine δ] in
/-- An iteration fails only in listening. -/
theorem poll_failure_eq_some {c : Controller δ α π σ} {e : ExchangeError ε} :
    c.poll.1.failure = some e ↔ c.exchange.hear.1 = .error e := by
  cases hhanded : c.exchange.handed? with
  | some frame =>
      rw [poll_of_handed hhanded, (carryOut_posts frame c.opened c.heeding).1]
      unfold Exchange.handed? at hhanded
      refine ⟨nofun, fun herror => ?_⟩
      rw [herror] at hhanded
      cases hhanded
  | none =>
      rw [poll_of_unhanded hhanded]
      cases c.exchange.hear.1 with
      | error e => simp
      | ok _ => simp

/-- What one iteration takes from the line and hands on. -/
structure Attention where
  /-- The frame it takes. -/
  heard : Option Frame
  /-- Whether a posted reply is unsettled when it begins. -/
  unsettled : Bool
  /-- The frame it carries out. -/
  handed : Option Frame

def attention (c : Controller δ α π σ) : Attention :=
  ⟨c.exchange.next?, c.exchange.isAwaiting, c.exchange.handed?⟩

/-- What every iteration does with the line under it. -/
structure Attends (c : Controller δ α π σ) : Prop where
  /-- A frame that is handed on is carried out once the status is settled. -/
  carries : ∀ frame, c.attention.handed = some frame →
    c.poll = c.heeding.carryOut frame c.opened
  /-- Without one, the iteration is over. -/
  rests : c.attention.handed = none → ∃ failure, c.poll = (⟨c.opened, failure⟩, c.heeding)
  /-- Giving up an overdue acknowledgement takes no byte. -/
  overdue : c.poll.1.failure = some (.line .timeout) →
    c.attention.heard = none ∧ c.attention.handed = none ∧
      (held c.poll.2.exchange.frames.line).inbound = (held c.exchange.frames.line).inbound ∧
      c.poll.2.exchange.frames.parser = c.exchange.frames.parser
  /-- The refusal of an unsettled reply is reported. -/
  refused : ∀ frame, c.attention.heard = some frame → frame.id = MessageId.nack →
    c.attention.unsettled = true → c.poll.1.failure = some (.notAcknowledged 0x81)
  /-- First the acknowledgement of what is carried out is written, if it is no
  refusal, then at most one reply to it, and nothing else. -/
  writes : ∃ reply : Option Reply, reply ≠ some .ack ∧
    (reply ≠ none → ∃ frame, c.attention.handed = some frame ∧ frame.id ≠ MessageId.nack) ∧
    (held c.poll.2.exchange.frames.line).outbound = (held c.exchange.frames.line).outbound ++
      c.attention.handed.elim [] Exchange.ackFor ++
      reply.elim [] (fun reply => reply.toFrame.encode) ∧
    -- Unsettled is a reply that was just posted, or one that nothing has answered.
    (c.poll.2.exchange.isAwaiting = true ↔ reply ≠ none ∨ c.attention.unsettled = true ∧
      c.poll.1.failure ≠ some (.line .timeout) ∧
      ∀ frame, c.attention.heard = some frame →
        frame.id ≠ MessageId.ack ∧ frame.id ≠ MessageId.nack)
  /-- Without a failure or a frame, everything that has arrived is taken. -/
  drained : c.poll.1.failure = none → c.attention.heard = none →
    (held c.poll.2.exchange.frames.line).unread = []

theorem attends (c : Controller δ α π σ) : c.Attends := by
  obtain ⟨taken, written, hhearing⟩ := c.hear_hearing
  have hheeded := hhearing.handed_eq
  refine ⟨fun frame => poll_of_handed, fun h => ⟨_, poll_of_unhanded h⟩, ?_, ?_, ?_, ?_⟩
  · intro hfailure
    have hlate := poll_failure_eq_some.mp hfailure
    obtain ⟨hheard, rfl, hparser⟩ := hhearing.of_timeout hlate
    have hhanded : c.exchange.handed? = none := by rw [Exchange.handed?, hlate]; rfl
    rw [poll_of_unhanded hhanded]
    exact ⟨hheard, hhanded, hhearing.passes.inbound_eq.symm, hparser⟩
  · intro frame hheard hnack hunsettled
    rw [show c.exchange.next? = some frame from hheard] at hhearing
    exact poll_failure_eq_some.mpr (hhearing.of_refusal hnack hunsettled)
  · obtain ⟨reply, hack, hanswers, -, hposts⟩ := c.poll_posts
    refine ⟨reply, hack, hanswers, ?_, ?_⟩
    · rw [hposts.passes.outbound_eq, hhearing.passes.outbound_eq, hhearing.written_eq]
      rfl
    · rw [hposts.awaiting_eq, Bool.or_eq_true, Option.isSome_iff_ne_none, hhearing.awaiting_iff]
      simp only [ne_eq, poll_failure_eq_some]
      rfl
  · intro hfailure hheard
    have hhanded : c.exchange.handed? = none := by
      rw [Exchange.handed?, hheeded, show c.exchange.next? = none from hheard]
      rfl
    have hok : c.exchange.hear.1 = .ok none := by
      cases hanswer : c.exchange.hear.1 with
      | error e =>
          rw [poll_failure_eq_some.mpr hanswer] at hfailure
          cases hfailure
      | ok frame? =>
          rw [Exchange.handed?, hanswer] at hhanded
          exact congrArg Except.ok hhanded
    rw [show c.exchange.next? = none from hheard] at hhearing
    rw [poll_of_unhanded hhanded]
    exact hhearing.drained hok

/-! ## Runs -/

/-- A controller that was new to its line, what has been sent to it since, and what
each of its iterations took and handed on, the oldest first. -/
inductive Attended : Controller δ α π σ → List UInt8 → List Attention → Prop where
  | fresh {c : Controller δ α π σ} {line : δ} {timeout : UInt32}
      (new : c.exchange = .withTimeout line timeout) : Attended c (held line).inbound []
  /-- Anything but an iteration; bytes may be sent to the line, and bytes already
  sent may arrive. -/
  | meanwhile {c : Controller δ α π σ} {stream : List UInt8} {log : List Attention}
      (before : Attended c stream log) (stimulus : Stimulus δ α π σ) (other : stimulus ≠ .poll)
      (chunk : List UInt8)
      (sent : (held (c.react stimulus).exchange.frames.line).inbound =
        (held c.exchange.frames.line).inbound ++ chunk) :
      Attended (c.react stimulus) (stream ++ chunk) log
  | poll {c : Controller δ α π σ} {stream : List UInt8} {log : List Attention}
      (before : Attended c stream log) : Attended c.poll.2 stream (log ++ [c.attention])

/-- The bytes taken of a stream, and the frames in them. -/
structure TakenFrom (c : Controller δ α π σ) (stream : List UInt8) (log : List Attention)
    (taken : List UInt8) : Prop where
  stream_eq : stream = taken ++ (held c.exchange.frames.line).inbound
  digested : ∃ broken, Parser.digest taken .outside =
    (⟨log.filterMap Attention.heard, broken⟩, c.exchange.frames.parser)

omit [LosslessLine δ ε] [LawfulSerialLine δ] in
theorem parser_react {stimulus : Stimulus δ α π σ} (other : stimulus ≠ .poll)
    (c : Controller δ α π σ) :
    (c.react stimulus).exchange.frames.parser = c.exchange.frames.parser := by
  cases stimulus with
  | poll => exact absurd rfl other
  | event event => cases event <;> rfl
  | recovery now => rfl
  | outside line x y sensors store => rfl

theorem takenFrom_poll {c : Controller δ α π σ} {stream : List UInt8} {log : List Attention}
    {taken : List UInt8} (h : c.TakenFrom stream log taken) :
    ∃ more, c.poll.2.TakenFrom stream (log ++ [c.attention]) (taken ++ more) := by
  obtain ⟨more, fewer, hinbound, hmore⟩ := c.poll_took
  obtain ⟨broken, hbefore⟩ := h.digested
  refine ⟨more, ?_, broken + fewer, ?_⟩
  · rw [h.stream_eq, hinbound, List.append_assoc]
  · rw [Parser.digest_append, hbefore, hmore]
    cases hheard : c.exchange.next? with
    | none => simp [attention, hheard, Reading.ext_iff]
    | some frame => simp [attention, hheard, Reading.ext_iff]

theorem exists_takenFrom {c : Controller δ α π σ} {stream : List UInt8} {log : List Attention}
    (h : Attended c stream log) : ∃ taken, c.TakenFrom stream log taken := by
  induction h with
  | @fresh c line timeout new =>
      refine ⟨[], ?_, 0, ?_⟩
      · rw [new]
        rfl
      · rw [new]
        rfl
  | meanwhile before stimulus other chunk sent ih =>
      obtain ⟨taken, hstream, hdigested⟩ := ih
      refine ⟨taken, ?_, ?_⟩
      · rw [sent, hstream, List.append_assoc]
      · rw [parser_react other]
        exact hdigested
  | poll _ ih =>
      obtain ⟨taken, htaken⟩ := ih
      obtain ⟨more, hmore⟩ := takenFrom_poll htaken
      exact ⟨taken ++ more, hmore⟩

/-- **The frames carried out are those of the stream**, in order and once each,
without acknowledgements and without the refusals that meet an unsettled reply. At
every moment the frames that iterations have taken are those of the bytes taken;
each iteration hands on at most one, and deals with the line as `Attends` says. -/
theorem handed_frames_follow_stream {c : Controller δ α π σ} {stream : List UInt8}
    {log : List Attention} (h : Attended c stream log) :
    (∃ taken, stream = taken ++ (held c.exchange.frames.line).inbound ∧
      (Reading.ofStream taken).frames = log.filterMap Attention.heard) ∧
    log.filterMap Attention.handed =
      log.filterMap (fun attention =>
        attention.heard.filter (Exchange.heeds attention.unsettled)) ∧
    c.Attends := by
  refine ⟨?_, ?_, c.attends⟩
  · obtain ⟨taken, hstream, broken, hdigested⟩ := exists_takenFrom h
    refine ⟨taken, hstream, ?_⟩
    rw [← Parser.digest_outside, hdigested]
  · induction h with
    | fresh _ => rfl
    | meanwhile _ _ _ _ _ ih => exact ih
    | poll _ ih =>
        simp only [List.filterMap_append, ih, List.filterMap_cons, List.filterMap_nil, attention,
          handed_eq]

end Controller

/-! ## A refusal of an unsettled reply -/

/-- More bytes are there to be read from a line whose reads do not fail. -/
def Script.supply (bytes : List UInt8) (s : Script) : Script :=
  { s with received := s.received ++ bytes, failRead := none }

/-- More bytes are there for a controller. -/
def Stimulus.supply {α π σ : Type} (bytes : List UInt8) (c : Controller AcceptingScript α π σ) :
    Stimulus AcceptingScript α π σ :=
  .outside ⟨c.exchange.frames.line.val.supply bytes, c.exchange.frames.line.property⟩
    c.axes.x.hardware c.axes.y.hardware c.sensors c.store

/-- A line with a stray byte and half of a status query, whose third read will
fail. -/
def halfQuery : AcceptingScript :=
  ⟨{ Script.idle with received := [0x11, 0x7b, 2], failRead := some 2 }, rfl, rfl⟩

def halfAsked : Controller AcceptingScript Recorder BenchSensors BenchStore :=
  .new (.withTimeout halfQuery 10) (.new (.new ⟨false, false⟩) (.new ⟨false, false⟩)) ⟨[], []⟩
    (.filled 32 [])

/-- The rest of the query and a refusal. -/
def restOfQuery : List UInt8 :=
  [0, 0, 0, 0x7d] ++ (Frame.empty MessageId.nack).encode

/-- The same controller when it has failed to read once and has been sent the
rest. -/
def asked : Controller AcceptingScript Recorder BenchSensors BenchStore :=
  halfAsked.poll.2.react (.supply restOfQuery halfAsked.poll.2)

theorem asked_attended : Controller.Attended asked.poll.2
    ([0x11, 0x7b, 2] ++ restOfQuery) [halfAsked.attention, asked.attention] := by
  have hfresh : halfAsked.Attended [0x11, 0x7b, 2] [] :=
    .fresh (show halfAsked.exchange = .withTimeout halfQuery 10 from rfl)
  have hsent : (held asked.exchange.frames.line).inbound =
      (held halfAsked.poll.2.exchange.frames.line).inbound ++ restOfQuery := by decide +kernel
  exact .poll (.meanwhile (.poll hfresh) (.supply restOfQuery halfAsked.poll.2) nofun restOfQuery
    hsent)

/-- The query is carried out once, and the refusal behind its reply is reported. -/
theorem asked_handed :
    [halfAsked.attention, asked.attention].filterMap Controller.Attention.handed =
        [Command.getStatus.toFrame] ∧
      asked.poll.2.poll.1.failure = some (.notAcknowledged 0x81) := by
  obtain ⟨-, hhanded, hattends⟩ := Controller.handed_frames_follow_stream asked_attended
  have hheard : [halfAsked.attention, asked.attention].filterMap (fun attention =>
      attention.heard.filter (Exchange.heeds attention.unsettled)) =
        [Command.getStatus.toFrame] := by decide +kernel
  have hnext : asked.poll.2.attention.heard = some (Frame.empty MessageId.nack) := by
    decide +kernel
  have hunsettled : asked.poll.2.attention.unsettled = true := by decide +kernel
  exact ⟨hhanded.trans hheard, hattends.refused _ hnext rfl hunsettled⟩

end XYStage
