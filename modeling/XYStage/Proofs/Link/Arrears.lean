/-
# XYStage.Proofs.Link.Arrears -- which reply an operation of the host takes

Nothing on the link says which command a reply belongs to: an acknowledgement is
empty, and a reply carries no more than its identifier and its data. A host that
gave a wait up leaves what it waited for on the link, and its next operation takes
that first.

What the host has taken of the `answers` of the device is a beginning of them, and an
operation takes on from there (`Host.Draws`). An acknowledgement is never a reply to
a command, so wherever the next message is an acknowledgement, the one behind it
belongs to the same command (`exists_answered`).

Main statement: an operation that succeeds has taken the acknowledgement and the
reply of the oldest command whose acknowledgement had not been taken; that is its own
command as long as nothing was owed before (`replies_taken_in_turn`). On the bench
a second query of the position gives the position before a step, since the first one
was given up (`late_reply_answers_next_query`).
-/
import XYStage.Proofs.Link.Service

namespace XYStage

set_option autoImplicit false

/-! ## Answers in their order -/

/-- No reply to a command is an acknowledgement. -/
theorem Command.Answered.ne_ack {command : Command} {reply : Reply} {answer : Answer}
    (h : command.Answered (some reply) answer) : reply ≠ .ack := by
  rintro rfl
  exact h.id_ne.1 rfl

theorem Reply.eq_ack_of_id {reply : Reply} (h : reply.id = MessageId.ack) : reply = .ack := by
  cases reply with
  | ack => rfl
  | _ => exact absurd h (by simp only [Reply.id]; decide)

/-- **An acknowledgement tells where the answers to a command begin**: those before
it are the answers to whole commands, and behind it is the reply to the next one. -/
theorem exists_answered {served : List (Command × Option Reply)} (answered : AllAnswered served)
    {taken rest : List Reply} (h : answers served = taken ++ .ack :: rest) :
    ∃ older asked own newer, served = older ++ (asked, own) :: newer ∧
      answers older = taken ∧ rest = own.toList ++ answers newer := by
  induction served generalizing taken with
  | nil => simp at h
  | cons pair served ih =>
      obtain ⟨first, reply⟩ := pair
      have hlater : AllAnswered served := fun pair hmem =>
        answered pair (List.mem_cons_of_mem _ hmem)
      -- Where the acknowledgement is among the answers to later commands, this command is
      -- one of the older ones.
      have hbehind {more : List Reply} (hsplit : answers served = more ++ .ack :: rest)
          (htaken : taken = .ack :: (reply.toList ++ more)) :
          ∃ older asked own newer, (first, reply) :: served = older ++ (asked, own) :: newer ∧
            answers older = taken ∧ rest = own.toList ++ answers newer := by
        obtain ⟨older, asked, own, newer, rfl, rfl, hrest⟩ := ih hlater hsplit
        exact ⟨(first, reply) :: older, asked, own, newer, rfl, htaken.symm, hrest⟩
      rw [answers_cons] at h
      cases taken with
      | nil =>
          obtain ⟨-, hrest⟩ := List.cons.inj h
          exact ⟨[], first, reply, served, rfl, rfl, hrest.symm⟩
      | cons opening taken =>
          obtain ⟨rfl, htail⟩ := List.cons.inj h
          cases reply with
          | none => exact hbehind htail rfl
          | some reply =>
              obtain ⟨answer, hanswered⟩ := answered (first, some reply) List.mem_cons_self
              cases taken with
              | nil => exact absurd (List.cons.inj htail).1 hanswered.ne_ack
              | cons own taken =>
                  obtain ⟨rfl, hsplit⟩ := List.cons.inj htail
                  exact hbehind hsplit rfl

variable {sent earlier : List Command} {taken : List Reply} {command : Command}

/-- Once all commands have been executed and all their answers taken, nothing but
acknowledgements is under way. -/
theorem idle_of_owing {t : Traffic} (h : Owing sent (answers t.served) t)
    (executed : t.served.map Prod.fst = sent) : Idle t.served t := by
  refine ⟨?_, ?_, rfl⟩
  · have hsent := h.sent
    rw [executed, List.append_right_eq_self, List.filterMap_eq_nil_iff] at hsent
    intro parcel hmem
    cases parcel with
    | ack => rfl
    | command command sendable => cases hsent _ hmem
  · exact List.self_eq_append_right.mp h.owed

section Host

variable {α π σ : Type} [AxisHardware α] [TemperatureSource π] [SettingStore σ]

/-! ## What an operation takes -/

namespace Host

/-- How an operation ends for a host that has taken `taken`: it has taken `more`, and
was given up, or failed, or succeeded as `P` says. -/
inductive Draws (sent : List Command) (taken : List Reply) {τ : Type}
    (P : τ → List Reply → Prop) :
    Except (HostError EndpointError) τ × Host (Remote α π σ) → Prop where
  | givenUp {e : HostError EndpointError} {h : Host (Remote α π σ)} (late : e.isGivenUp = true)
      (more : List Reply) (lapsed : h.exchange.frames.Lapsed (Owing sent (taken ++ more))) :
      Draws sent taken P (.error e, h)
  | failed {e : HostError EndpointError} {h : Host (Remote α π σ)} (more : List Reply)
      (owing : h.exchange.frames.Holds (Owing sent (taken ++ more))) :
      Draws sent taken P (.error e, h)
  | succeeded {value : τ} {h : Host (Remote α π σ)} (more : List Reply) (holds : P value more)
      (owing : h.exchange.frames.Holds (Owing sent (taken ++ more))) :
      Draws sent taken P (.ok value, h)

/-- How waiting for a message ends: it was given up, or the next one came. -/
inductive Fetches (sent : List Command) (taken : List Reply) :
    Except (ExchangeError EndpointError) Frame × Exchange (Remote α π σ) → Prop where
  | givenUp {e : ExchangeError EndpointError} {x : Exchange (Remote α π σ)}
      (late : HostError.isGivenUp (.exchange e) = true)
      (lapsed : x.frames.Lapsed (Owing sent taken)) : Fetches sent taken (.error e, x)
  | received {x : Exchange (Remote α π σ)} (first : Reply)
      (owing : x.frames.Holds (Owing sent (taken ++ [first]))) :
      Fetches sent taken (.ok first.toFrame, x)

/-- A command that is acknowledged has taken an acknowledgement. -/
theorem send_draws {h : Host (Remote α π σ)} (owing : h.exchange.frames.Holds (Owing sent taken))
    (sendable : command.Sendable) :
    Draws (sent ++ [command]) taken (fun _ more => more = [.ack]) (h.send command) := by
  obtain ⟨hsent, hheld⟩ := owing.send kept_owing (.command command sendable)
  have howing := hheld.mono fun t => owing_of_command
  have hwaits := howing.waits kept_owing h.exchange.ackTimeout
  unfold Host.send Exchange.send
  dsimp only
  change (h.exchange.frames.send command.toFrame).1 = .ok () at hsent
  change FrameLine.Waits _ ((h.exchange.frames.send command.toFrame).2.receive _).1
    ((h.exchange.frames.send command.toFrame).2.receive _).2 at hwaits
  generalize h.exchange.frames.send command.toFrame = written at hsent hwaits ⊢
  obtain ⟨outcome, frames⟩ := written
  obtain rfl : outcome = .ok () := hsent
  dsimp only at hwaits ⊢
  generalize frames.receive h.exchange.ackTimeout = received at hwaits ⊢
  obtain ⟨outcome, frames⟩ := received
  cases hwaits with
  | lapsed late h => exact .givenUp late [] (by rwa [List.append_nil])
  | reply first hheld =>
      have htaken := hheld.mono fun t => owing_of_without
      by_cases hid : first.toFrame.id = MessageId.ack
      · obtain rfl : first = .ack := Reply.eq_ack_of_id hid
        exact .succeeded [.ack] rfl htaken
      · dsimp only
        rw [if_neg hid]
        exact .failed [first] htaken

/-- Whatever message is received is the next that was owed. -/
theorem receive_draws {x : Exchange (Remote α π σ)} (owing : x.frames.Holds (Owing sent taken))
    (timeout : UInt32) : Fetches sent taken (x.receive timeout) := by
  have hwaits := owing.waits kept_owing timeout
  unfold Exchange.receive
  generalize x.frames.receive timeout = received at hwaits ⊢
  obtain ⟨outcome, frames⟩ := received
  cases hwaits with
  | lapsed late h => exact .givenUp late h
  | reply first hheld =>
      have htaken := hheld.mono fun t => owing_of_without
      by_cases hquiet : first.toFrame.id = MessageId.ack ∨ first.toFrame.id = MessageId.nack
      · simp only [Exchange.accept, Exchange.acknowledge, if_pos hquiet]
        exact .received first htaken
      · obtain ⟨hsent, hacked⟩ := htaken.send kept_owing .ack
        have howing := hacked.mono fun t => owing_of_ack
        change (frames.send (Frame.empty MessageId.ack)).1 = .ok () at hsent
        change (frames.send (Frame.empty MessageId.ack)).2.Holds _ at howing
        simp only [Exchange.accept, Exchange.acknowledge, if_neg hquiet]
        generalize frames.send (Frame.empty MessageId.ack) = acknowledged at hsent howing ⊢
        obtain ⟨outcome, frames⟩ := acknowledged
        obtain rfl : outcome = .ok () := hsent
        exact .received first howing

/-- A query that succeeds has taken an acknowledgement and the message it gives. -/
theorem query_draws {h : Host (Remote α π σ)}
    (owing : h.exchange.frames.Holds (Owing sent taken)) (sendable : command.Sendable)
    (expected : UInt8) :
    Draws (sent ++ [command]) taken (fun first more => more = [.ack, first])
      (h.query command expected) := by
  have hsend := send_draws owing sendable
  unfold query
  generalize h.send command = written at hsend ⊢
  cases hsend with
  | givenUp late more hlapsed => exact .givenUp late more hlapsed
  | failed more hfailed => exact .failed more hfailed
  | @succeeded _ h' more hmore hacked =>
      subst hmore
      have hreceive := receive_draws hacked h'.replyTimeout
      dsimp only
      generalize h'.exchange.receive h'.replyTimeout = received at hreceive ⊢
      cases hreceive with
      | givenUp late hlapsed => exact .givenUp late _ hlapsed
      | received first htaken =>
          rw [List.append_assoc] at htaken
          dsimp only
          split
          · rw [Reply.ofFrame_toFrame]
            exact .succeeded [.ack, first] rfl htaken
          · exact .failed [.ack, first] htaken

/-- A question that succeeds has read its answer off the message it has taken. -/
theorem ask_draws {τ : Type} {h : Host (Remote α π σ)}
    (owing : h.exchange.frames.Holds (Owing sent taken)) (sendable : command.Sendable)
    (expected : UInt8) (answer? : Reply → Option τ) :
    Draws (sent ++ [command]) taken
      (fun value more => ∃ first, answer? first = some value ∧ more = [.ack, first])
      (h.ask command expected answer?) := by
  have hquery := query_draws owing sendable expected
  unfold ask
  generalize h.query command expected = queried at hquery ⊢
  cases hquery with
  | givenUp late more hlapsed => exact .givenUp late more hlapsed
  | failed more hfailed => exact .failed more hfailed
  | @succeeded first _ more hmore htaken =>
      subst hmore
      dsimp only
      cases hanswer : answer? first with
      | none => exact .failed _ htaken
      | some value => exact .succeeded _ ⟨first, hanswer, rfl⟩ htaken

/-- An operation that succeeds has taken an acknowledgement, and the reply that its
answer says, if its command has one. -/
abbrev Told (command : Command) (answer : Answer) (more : List Reply) : Prop :=
  ∃ reply, command.Answered reply answer ∧ more = .ack :: reply.toList

omit [AxisHardware α] [TemperatureSource π] [SettingStore σ] in
theorem told_draws {τ : Type} {answer : τ → Answer} {P : τ → List Reply → Prop}
    {outcome : Except (HostError EndpointError) τ × Host (Remote α π σ)}
    (h : Draws sent taken P outcome)
    (told : ∀ value more, P value more → Told command (answer value) more) :
    Draws sent taken (Told command) (Host.told answer outcome) := by
  cases h with
  | givenUp late more hlapsed => exact .givenUp late more hlapsed
  | failed more hfailed => exact .failed more hfailed
  | succeeded more holds htaken => exact .succeeded more (told _ more holds) htaken

/-- An operation whose answer is read off its reply, which `answered` says. -/
theorem ask_told {τ : Type} {h : Host (Remote α π σ)}
    (owing : h.exchange.frames.Holds (Owing sent taken)) (sendable : command.Sendable)
    {expected : UInt8} {answer? : Reply → Option τ} {answer : τ → Answer}
    (answered : ∀ first value, answer? first = some value →
      command.Answered (some first) (answer value)) :
    Draws (sent ++ [command]) taken (Told command)
      (Host.told answer (h.ask command expected answer?)) := by
  refine told_draws (ask_draws owing sendable expected answer?) ?_
  rintro value more ⟨first, hfirst, rfl⟩
  exact ⟨some first, answered first value hfirst, rfl⟩

/-- A ping that succeeds has taken its own data. -/
theorem ping_draws {h : Host (Remote α π σ)} (owing : h.exchange.frames.Holds (Owing sent taken))
    (data : Payload) :
    Draws (sent ++ [.ping data]) taken (fun _ more => more = [.ack, .log data])
      (h.ping data.bytes) := by
  have hsendable : (Command.ping data).Sendable := trivial
  have hpayload : Payload.ofBytes? data.bytes = some data := dif_pos data.size_le
  unfold ping
  rw [hpayload]
  dsimp only
  -- The reader of the echo has no name: it is found in the question.
  generalize hasked : h.ask (.ping data) MessageId.log _ = asked
  have hask := hasked ▸ ask_draws owing hsendable MessageId.log _
  cases hask with
  | givenUp late more hlapsed => exact .givenUp late more hlapsed
  | failed more hfailed => exact .failed more hfailed
  | @succeeded echo _ more hmore htaken =>
      obtain ⟨first, hfirst, rfl⟩ := hmore
      by_cases hsame : echo = data
      · dsimp only
        rw [if_pos hsame]
        cases first with
        | log data =>
            cases hfirst
            exact .succeeded _ (by rw [hsame]) htaken
        | _ => cases hfirst
      · dsimp only
        rw [if_neg hsame]
        exact .failed _ htaken

/-- A command that is answered by a result has taken that result. -/
theorem command_draws {h : Host (Remote α π σ)}
    (owing : h.exchange.frames.Holds (Owing sent taken)) (sendable : command.Sendable)
    (answered : ∀ code, command.Answered (some (.axisResult code)) (.result code)) :
    Draws (sent ++ [command]) taken (Told command) (Host.told .result (h.command command)) := by
  refine ask_told owing sendable ?_
  intro first code hfirst
  cases first with
  | axisResult code =>
      cases hfirst
      exact answered code
  | _ => cases hfirst

theorem perform_draws {h : Host (Remote α π σ)}
    (owing : h.exchange.frames.Holds (Owing sent taken)) (sendable : command.Sendable) :
    Draws (sent ++ [command]) taken (Told command) (h.perform command) := by
  cases command with
  | ping data =>
      refine told_draws (h.ping_draws owing data) ?_
      rintro _ _ rfl
      exact ⟨_, .ping data, rfl⟩
  | getStatus =>
      refine ask_told owing sendable ?_
      intro first code hfirst
      cases first with
      | status code =>
          cases hfirst
          exact .getStatus code
      | _ => cases hfirst
  | home => exact h.command_draws owing sendable .home
  | move request => exact h.command_draws owing sendable (.move request)
  | calibrate key value => exact h.command_draws owing sendable (.calibrate key value)
  | stop =>
      refine told_draws (h.send_draws owing sendable) ?_
      rintro _ _ rfl
      exact ⟨none, .stop, rfl⟩
  | getPosition =>
      refine ask_told owing sendable ?_
      intro first place hfirst
      cases first with
      | position x y =>
          cases hfirst
          exact .getPosition x y
      | _ => cases hfirst
  | getAxisState axis =>
      refine ask_told owing sendable ?_
      intro first report hfirst
      cases first with
      | axisState report =>
          cases hfirst
          exact .getAxisState axis report
      | _ => cases hfirst
  | getTemperature =>
      refine ask_told owing sendable ?_
      intro first values hfirst
      cases first with
      | temperature values =>
          cases hfirst
          exact .getTemperature values
      | _ => cases hfirst

end Host

/-! ## Between two operations -/

/-- Of the answers to the commands executed so far `taken` have been taken, and a
parser makes the others of the bytes to the host, each of them whole. -/
def Remote.Owes (taken : List Reply) (parser : Parser) (r : Remote α π σ) : Prop :=
  ∃ rest, answers r.served = taken ++ rest ∧
    Parser.digest r.returning.content parser = (⟨rest.map Reply.toFrame, 0⟩, .outside)

omit [AxisHardware α] [TemperatureSource π] [SettingStore σ] in
theorem Remote.owes_of_owing {r : Remote α π σ} {parser : Parser}
    (owing : r.Holds (Owing sent taken) parser) : r.Owes taken parser := by
  obtain ⟨t, hcarries, howing⟩ := owing
  refine ⟨t.toHost, ?_, hcarries.outward⟩
  rw [hcarries.served]
  exact howing.owed

namespace Host

/-- The host has taken the answers `taken` and is still to receive all others. -/
def Outstanding (taken : List Reply) (h : Host (Remote α π σ)) : Prop :=
  h.remote.Owes taken h.exchange.frames.parser

/-- The device has executed the commands `sent`, and the host has taken all that was
owed to them. -/
def Settled (sent : List Command) (h : Host (Remote α π σ)) : Prop :=
  h.remote.served.map Prod.fst = sent ∧ h.Outstanding (answers h.remote.served)

/-- The host has dropped a message that it had received in part, and is still to
receive the rest of it. -/
def Cut (h : Host (Remote α π σ)) : Prop :=
  h.exchange.frames.parser = .outside ∧
    ∃ taken parser, parser.isPartial = true ∧ h.remote.Owes taken parser

variable {h : Host (Remote α π σ)}

omit [AxisHardware α] [TemperatureSource π] [SettingStore σ] in
theorem Serves.owing (serves : h.Serves sent) (outstanding : h.Outstanding taken) :
    h.exchange.frames.Holds (Owing sent taken) := by
  obtain ⟨_, _, t, hcarries, howing⟩ := serves
  obtain ⟨rest, hrest, hdigest⟩ := outstanding
  have hserved : h.remote.served = t.served := hcarries.served
  rw [hserved] at hrest
  exact ⟨⟨t.toDevice, rest, t.served⟩, ⟨hcarries.inward, hdigest, hserved⟩,
    howing.sent, howing.answered, hrest⟩

omit [AxisHardware α] [TemperatureSource π] [SettingStore σ] in
/-- A wait that was given up between two messages leaves whole messages behind. -/
theorem outstanding_or_cut (lapsed : h.exchange.frames.Lapsed (Owing sent taken)) :
    h.Outstanding taken ∨ h.Cut := by
  obtain ⟨parser, hholds, hparser⟩ := lapsed
  have howes := Remote.owes_of_owing hholds
  cases hparser with
  | inl hsame =>
      left
      rw [← hsame] at howes
      exact howes
  | inr hreset =>
      cases parser with
      | outside =>
          left
          rw [← hreset] at howes
          exact howes
      | _ => exact .inr ⟨hreset, taken, _, rfl, howes⟩

omit [AxisHardware α] [TemperatureSource π] [SettingStore σ] in
/-- Where nothing is owed, nothing but acknowledgements is under way. -/
theorem Settled.idle (settled : h.Settled sent) (serves : h.Serves sent) :
    h.exchange.frames.Holds (Idle h.remote.served) := by
  obtain ⟨hexecuted, houtstanding⟩ := settled
  obtain ⟨t, hcarries, howing⟩ := serves.owing houtstanding
  have hserved : h.remote.served = t.served := hcarries.served
  rw [hserved] at hexecuted howing ⊢
  exact ⟨t, hcarries, idle_of_owing howing hexecuted⟩

omit [AxisHardware α] [TemperatureSource π] [SettingStore σ] in
theorem settled_of_idle {served : List (Command × Option Reply)}
    (idle : h.exchange.frames.Holds (Idle served)) :
    h.remote.served = served ∧ h.Settled (served.map Prod.fst) := by
  have hserved : h.remote.served = served := idle.served_eq
  obtain ⟨t, hcarries, hidle⟩ := idle
  have houtward := hcarries.outward
  rw [hidle.toHost] at houtward
  refine ⟨hserved, congrArg _ hserved, [], (List.append_nil _).symm, houtward⟩

/-- As long as no wait is given up, nothing stays owed. -/
theorem settled_performAll (joined : h.Joined) (sendable : ∀ command ∈ earlier, command.Sendable)
    (waited : ∀ e, .error e ∈ (h.performAll earlier).1 → e.isGivenUp = false) :
    (h.performAll earlier).2.Settled earlier := by
  obtain ⟨new, hdialogue, hidle⟩ := performAll_ends joined.idle sendable waited
  rw [List.nil_append] at hidle
  have hsettled := (settled_of_idle hidle).2
  rw [hdialogue.commands_eq] at hsettled
  exact hsettled

/-- Where nothing is owed, an operation that succeeds gives its own reply. -/
theorem Settled.perform (settled : h.Settled sent) (serves : h.Serves sent)
    (sendable : command.Sendable) {answer : Answer}
    (succeeded : (h.perform command).1 = .ok answer) :
    ∃ reply, command.Answered reply answer ∧
      (h.perform command).2.remote.served = h.remote.served ++ [(command, reply)] ∧
      (h.perform command).2.Settled (sent ++ [command]) := by
  have hends := perform_ends (settled.idle serves) sendable
  generalize h.perform command = performed at hends succeeded ⊢
  cases hends with
  | givenUp late => cases succeeded
  | succeeded holds =>
      cases succeeded
      obtain ⟨reply, hanswered, hidle⟩ := holds
      obtain ⟨hserved, hsettled⟩ := settled_of_idle hidle
      rw [List.map_append, settled.1] at hsettled
      exact ⟨reply, hanswered, hserved, hsettled⟩

omit [AxisHardware α] [TemperatureSource π] [SettingStore σ] in
/-- An acknowledgement and the reply behind it are the answers to one command, the
first whose acknowledgement had not been taken. -/
theorem answered_in_turn {reply : Option Reply} {answer : Answer}
    (owing : h.exchange.frames.Holds (Owing sent (taken ++ .ack :: reply.toList)))
    (answered : command.Answered reply answer) :
    ∃ older asked own newer later, h.remote.served = older ++ (asked, own) :: newer ∧
      answers older = taken ∧ older.map Prod.fst ++ asked :: later = sent ∧
      (reply = none ∨ own = reply) := by
  obtain ⟨t, hcarries, howing⟩ := owing
  have howed := howing.owed
  rw [List.append_assoc, List.cons_append] at howed
  obtain ⟨older, asked, own, newer, hserved, holder, hrest⟩ :=
    exists_answered howing.answered howed
  refine ⟨older, asked, own, newer,
    newer.map Prod.fst ++ t.toDevice.filterMap Parcel.command?,
    hcarries.served.trans hserved, holder, ?_, ?_⟩
  · rw [← howing.sent, hserved]
    simp
  · cases reply with
    | none => exact .inl rfl
    | some first =>
        right
        cases own with
        | some own => rw [(List.cons.inj hrest).1]
        | none =>
            -- Then the reply would be the acknowledgement of a later command.
            cases newer with
            | nil => cases hrest
            | cons pair newer => exact absurd (List.cons.inj hrest).1 answered.ne_ack

end Host

/-- **Replies are taken in turn.** However the operations of the host and the
iterations of the device are interleaved, and whichever operations before were given
up, consider the next one.

As long as none was given up, nothing is owed before it. If nothing is owed and it
succeeds, its answer is read off the reply to its own command, which the device has
executed after all others, and again nothing is owed.

If only whole messages are owed and it succeeds, it has taken the acknowledgement of
the oldest command whose acknowledgement had not been taken: its answer is read off
the reply to that command, its own or one before, and that reply is owed no longer.
Only whole messages are owed after it, however it ends, unless it is given up in the
middle of one. -/
theorem replies_taken_in_turn {host h h' : Host (Remote α π σ)} (joined : host.Joined)
    {earlier : List Command} {command : Command}
    (sendable : ∀ other ∈ earlier ++ [command], other.Sendable)
    (before : (host.performAll earlier).2 = h)
    {outcome : Except (HostError EndpointError) Answer}
    (performed : h.perform command = (outcome, h')) :
    ((∀ e, .error e ∈ (host.performAll earlier).1 → e.isGivenUp = false) → h.Settled earlier) ∧
      (h.Settled earlier → ∀ answer, outcome = .ok answer →
        ∃ reply, command.Answered reply answer ∧
          h'.remote.served = h.remote.served ++ [(command, reply)] ∧
          h'.Settled (earlier ++ [command])) ∧
      ∀ taken, h.Outstanding taken →
        (∀ answer, outcome = .ok answer →
          ∃ reply, command.Answered reply answer ∧
            h'.Outstanding (taken ++ .ack :: reply.toList) ∧
            ∃ older asked own newer later,
              h'.remote.served = older ++ (asked, own) :: newer ∧ answers older = taken ∧
              older.map Prod.fst ++ asked :: later = earlier ++ [command] ∧
              (reply = none ∨ own = reply)) ∧
        ((∃ more, h'.Outstanding (taken ++ more)) ∨
          h'.Cut ∧ ∃ e, outcome = .error e ∧ e.isGivenUp = true) := by
  have hsendable : command.Sendable :=
    sendable command (List.mem_append_right _ (List.mem_singleton_self _))
  have hearlier : ∀ other ∈ earlier, other.Sendable := fun other hmem =>
    sendable other (List.mem_append_left _ hmem)
  have hserves : h.Serves earlier := before ▸ Host.serves_performAll joined.serves hearlier
  refine ⟨?_, ?_, ?_⟩
  · intro waited
    rw [← before]
    exact Host.settled_performAll joined hearlier waited
  · rintro settled answer rfl
    have hown := settled.perform hserves hsendable (congrArg Prod.fst performed)
    rw [performed] at hown
    exact hown
  · intro taken outstanding
    have hdraws := Host.perform_draws (hserves.owing outstanding) hsendable
    rw [performed] at hdraws
    refine ⟨?_, ?_⟩
    · rintro answer rfl
      cases hdraws with
      | succeeded more holds owing =>
          obtain ⟨reply, hanswered, rfl⟩ := holds
          exact ⟨reply, hanswered, Remote.owes_of_owing owing,
            Host.answered_in_turn owing hanswered⟩
    · cases hdraws with
      | givenUp late more lapsed =>
          obtain houtstanding | hcut := Host.outstanding_or_cut lapsed
          · exact .inl ⟨more, houtstanding⟩
          · exact .inr ⟨hcut, _, rfl, late⟩
      | failed more owing => exact .inl ⟨more, Remote.owes_of_owing owing⟩
      | succeeded more _ owing => exact .inl ⟨more, Remote.owes_of_owing owing⟩

end Host

/-! ## A late reply on the bench -/

/-- A host that gives its first query up before the device answers it. While it asks
again the x axis has made a step, and everything arrives at once. -/
def lateHost : Host (Remote Recorder BenchSensors BenchStore) where
  exchange := .withTimeout
    { benchRemote [[], [.toDevice 6, .poll []], [], [], [.event (.encoder .x)],
        [.toDevice 6, .poll [], .toHost 100]] with
      readings := fun n => 1000 * n.toUInt32 } 500
  replyTimeout := 1000

theorem lateHost_joined : lateHost.Joined :=
  ⟨⟨500, rfl⟩, ⟨10, rfl⟩, rfl, rfl, rfl⟩

/-- Between its two queries the answers to the first are owed. -/
theorem lateHost_outstanding : (lateHost.performAll [.getPosition]).2.Outstanding [] :=
  ⟨[.ack, .position 0 0], by decide +kernel⟩

theorem lateHost_answer :
    ((lateHost.performAll [.getPosition]).2.perform .getPosition).1 =
      .ok (.position 0 0) := by
  have hsome : ((lateHost.performAll [.getPosition]).2.perform .getPosition).1.toOption =
      some (.position 0 0) := by decide +kernel
  cases houtcome : ((lateHost.performAll [.getPosition]).2.perform .getPosition).1 with
  | error e =>
      rw [houtcome] at hsome
      cases hsome
  | ok answer =>
      rw [houtcome] at hsome
      exact congrArg Except.ok (Option.some.inj hsome)

/-- The second query is answered by the reply to the first. -/
theorem late_reply_answers_next_query :
    lateHost.Joined ∧ (∀ other ∈ [Command.getPosition] ++ [.getPosition], other.Sendable) ∧
      ∃ h h', (lateHost.performAll [.getPosition]).2 = h ∧
        h.perform .getPosition = (.ok (.position 0 0), h') ∧ h.Outstanding [] ∧
        ∃ reply, Command.getPosition.Answered reply (.position 0 0) ∧
          h'.Outstanding (.ack :: reply.toList) ∧
          ∃ own newer, h'.remote.served = (.getPosition, own) :: newer ∧ own = reply := by
  have hsendable : ∀ other ∈ [Command.getPosition] ++ [.getPosition], other.Sendable := by decide
  have hperformed : (lateHost.performAll [.getPosition]).2.perform .getPosition =
      (.ok (.position 0 0), ((lateHost.performAll [.getPosition]).2.perform .getPosition).2) := by
    rw [← lateHost_answer]
  obtain ⟨-, -, hturn⟩ := replies_taken_in_turn lateHost_joined hsendable rfl hperformed
  obtain ⟨reply, hanswered, houtstanding, older, asked, own, newer, later, hserved, holder,
    hsent, hown⟩ := (hturn [] lateHost_outstanding).1 _ rfl
  refine ⟨lateHost_joined, hsendable, _, _, rfl, hperformed, lateHost_outstanding, reply,
    hanswered, houtstanding, own, newer, ?_, ?_⟩
  · cases older with
    | nil =>
      obtain ⟨rfl, -⟩ := List.cons.inj hsent
      exact hserved
    | cons pair older => cases holder
  · obtain rfl | hown := hown
    · cases hanswered
    · exact hown

/-- What a query gives need not be the reply to it: the device has answered this one
with another position. -/
theorem late_reply_is_not_own :
    ¬ ∀ host : Host (Remote Recorder BenchSensors BenchStore), host.Joined →
      ∀ earlier command, (∀ other ∈ earlier ++ [command], other.Sendable) →
        ∀ answer, ((host.performAll earlier).2.perform command).1 = .ok answer →
          ∃ reply, command.Answered reply answer ∧
            ((host.performAll earlier).2.perform command).2.remote.served[earlier.length]? =
              some (command, reply) := by
  intro claim
  obtain ⟨reply, hanswered, hserved⟩ := claim lateHost lateHost_joined [.getPosition] .getPosition
    (by decide) (.position 0 0) lateHost_answer
  have hown : ((lateHost.performAll [.getPosition]).2.perform .getPosition).2.remote.served[1]? =
      some (.getPosition, some (.position 1 0)) := by decide +kernel
  obtain ⟨-, rfl⟩ := Prod.mk.inj (Option.some.inj (hserved.symm.trans hown))
  cases hanswered

end XYStage
