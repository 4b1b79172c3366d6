/-
# XYStage.Proofs.Controller.Unrecorded -- what a failed iteration does not tell

The link can fail an iteration in two places. In listening it does so before
anything is carried out. A reply that cannot be written fails it after its command
has taken effect, and the fate of the frame is noted only behind the reply
(`Controller.CutOff`).

Main statement: the record of a failed iteration tells of the reload and of both
changes of status, and never of a command; so it accounts for what was executed
exactly if nothing was changed by it (`failed_poll_accounted_iff`). An iteration
that does not fail always accounts for its command (`poll_accounted`).
-/
import XYStage.Proofs.Controller.Refusals
import XYStage.Proofs.Controller.Transitions

namespace XYStage

set_option autoImplicit false

namespace Controller

variable {δ ε α π σ : Type}

/-! ## Commands that take effect -/

section

variable [AxisHardware α] [TemperatureSource π] [SettingStore σ]

/-- Carrying out a command is not yet recording it. -/
theorem execute_fate (command : Command) (record : PollRecord) (c : Controller δ α π σ) :
    (c.execute command record).2.2.1.fate = record.fate := by
  cases command with
  | home =>
      simp only [execute]
      by_cases idle : c.status = .idle
      · rw [home_accepted idle]
      · rw [home_busy idle]
  | move request =>
      simp only [execute]
      cases allowed : c.status.allowsMove with
      | false => rw [move_busy allowed]
      | true =>
          rcases (c.axes.get request.axis).start_cases
              (requestedMotion request (c.calibration.axis request.axis)) with
            ⟨refusal, hpermit, -⟩ | ⟨plan, -, hok, -⟩
          · rw [move_refused allowed hpermit]
          · rw [move_accepted allowed (Prod.ext hok rfl)]
  | calibrate key value =>
      obtain ⟨code, failure, store, calibration, hkept⟩ := c.calibrate_kept key value record
      simp only [execute]
      rw [hkept]
  | ping data => rfl
  | getStatus => rfl
  | stop => rfl
  | getPosition => rfl
  | getAxisState axis => rfl
  | getTemperature => rfl

/-- A command that changes something and is answered is answered by the result of
success. -/
theorem execute_effective {command : Command} {reply : Reply} {record : PollRecord}
    {c : Controller δ α π σ} (answer : (c.execute command record).1 = some reply) :
    c.Undisturbed (c.execute command record).2.2.2 ∨
      reply = .axisResult .ok ∧ (c.execute command record).2.1 = some .ok ∧
        Command.answersWithResult command.id = true := by
  cases hquery : command.isQuery with
  | true => exact .inl (execute_query hquery record c)
  | false =>
      have hresult : Command.answersWithResult command.id = true ∧
          ∃ code, reply = .axisResult code ∧ (c.execute command record).2.1 = some code := by
        cases command with
        | home => exact ⟨rfl, _, (Option.some.inj answer).symm, rfl⟩
        | move request => exact ⟨rfl, _, (Option.some.inj answer).symm, rfl⟩
        | calibrate key value => exact ⟨rfl, _, (Option.some.inj answer).symm, rfl⟩
        | stop => cases answer
        | ping data => cases hquery
        | getStatus => cases hquery
        | getPosition => cases hquery
        | getAxisState axis => cases hquery
        | getTemperature => cases hquery
      obtain ⟨hanswers, code, rfl, hcode⟩ := hresult
      by_cases hok : code = .ok
      · subst hok
        exact .inr ⟨rfl, hcode, hanswers⟩
      · left
        rw [execute_refused answer hok]
        exact ⟨rfl, rfl, rfl, rfl⟩

end

/-! ## Failed iterations -/

section

variable [SerialLine δ ε]

/-- Concluding fails only in posting the reply, and notes nothing then. -/
theorem conclude_failed {reply : Option Reply} {fate : FrameFate} {record : PollRecord}
    {c : Controller δ α π σ} {e : ExchangeError ε}
    (h : (c.conclude reply fate record).1.failure = some e) :
    ∃ answer, reply = some answer ∧ (c.exchange.post answer.toFrame).1 = .error e ∧
      c.conclude reply fate record =
        (⟨record, some e⟩, { c with exchange := (c.exchange.post answer.toFrame).2 }) := by
  cases reply with
  | none => cases h
  | some answer =>
      refine ⟨answer, rfl, ?_⟩
      rcases hpost : c.exchange.post answer.toFrame with ⟨_ | _, exchange⟩
      · simp only [conclude, hpost, Option.some.injEq] at h ⊢
        subst h
        exact ⟨rfl, rfl⟩
      · simp [conclude, hpost] at h

theorem conclude_recorded {reply : Option Reply} {fate : FrameFate} {record : PollRecord}
    {c : Controller δ α π σ} (h : (c.conclude reply fate record).1.failure = none) :
    (c.conclude reply fate record).1.record.fate = some fate := by
  cases reply with
  | none => rfl
  | some answer =>
      rcases hpost : c.exchange.post answer.toFrame with ⟨_ | _, exchange⟩
      · simp [conclude, hpost] at h
      · simp only [conclude, hpost]

end

variable [AxisHardware α] [SerialLine δ ε] [TemperatureSource π] [SettingStore σ]

/-- A command has been executed with success, and the iteration ended because the
reply that says so could not be written. -/
structure CutOff (c : Controller δ α π σ) (command : Command) (e : ExchangeError ε) : Prop where
  served_eq : c.served = some (command, some (.axisResult .ok))
  answers : Command.answersWithResult command.id = true
  result_eq : (c.heeding.execute command c.opened).2.1 = some .ok
  post_eq : (c.heeding.exchange.post (Reply.axisResult .ok).toFrame).1 = .error e
  record_eq : c.poll.1.record = (c.heeding.execute command c.opened).2.2.1
  poll_eq : c.poll.2 =
    { (c.heeding.execute command c.opened).2.2.2 with
      exchange := (c.heeding.exchange.post (Reply.axisResult .ok).toFrame).2 }

/-- If the command that was served has changed anything, it is recorded as executed,
with its result. -/
def Accounted (c : Controller δ α π σ) : Prop :=
  ∀ command reply, c.served = some (command, reply) → ¬c.settled.Undisturbed c.poll.2 →
    c.poll.1.record.fate =
      some (.executed command.id (c.heeding.execute command c.opened).2.1)

/-- An iteration that does not fail accounts for its command. -/
theorem poll_accounted {c : Controller δ α π σ} (h : c.poll.1.failure = none) : c.Accounted := by
  intro command reply hserved _
  obtain ⟨-, hpoll⟩ := poll_of_served hserved
  rw [hpoll] at h ⊢
  exact conclude_recorded h

/-- What a failed iteration has carried out. -/
theorem failed_poll_cases {c : Controller δ α π σ} {e : ExchangeError ε}
    (h : c.poll.1.failure = some e) :
    c.poll.1.record.fate = none ∧
      (c.settled.Undisturbed c.poll.2 ∨ ∃ command, c.CutOff command e) := by
  have hheeding : c.settled.Undisturbed c.heeding := ⟨rfl, rfl, rfl, rfl⟩
  cases hhanded : c.exchange.handed? with
  | none =>
      rw [poll_of_unhanded hhanded]
      exact ⟨rfl, .inl hheeding⟩
  | some frame =>
      have hpoll := poll_of_handed hhanded
      cases hframe : Command.ofFrame frame with
      | error error =>
          obtain ⟨reply, fate, hcarry⟩ := carryOut_error hframe c.opened c.heeding
          rw [hpoll, hcarry] at h
          obtain ⟨answer, -, -, hconclude⟩ := conclude_failed h
          rw [hpoll, hcarry, hconclude]
          exact ⟨rfl, .inl ⟨rfl, rfl, rfl, rfl⟩⟩
      | ok command =>
          rw [hpoll, carryOut_command hframe] at h
          obtain ⟨answer, hanswer, hpost, hconclude⟩ := conclude_failed h
          have hpoll := hpoll.trans ((carryOut_command hframe c.opened c.heeding).trans hconclude)
          rw [execute_exchange] at hpost hpoll
          refine ⟨by rw [hpoll]; exact execute_fate command c.opened c.heeding, ?_⟩
          rcases execute_effective hanswer with hsame | ⟨rfl, hresult, hanswers⟩
          · left
            rw [hpoll]
            exact hheeding.trans ⟨hsame.status_eq, hsame.axes_eq, hsame.calibration_eq,
              hsame.store_eq⟩
          · right
            have hserved := served_of_handed hhanded hframe
            rw [hanswer] at hserved
            exact ⟨command, hserved, hanswers, hresult, hpost, by rw [hpoll], by rw [hpoll]⟩

/-- Every iteration tells the change of status that its command has made. -/
theorem poll_onCommand (c : Controller δ α π σ) :
    c.poll.1.record.onCommand = StatusChange.between c.settled.status c.poll.2.status := by
  cases hserved : c.served with
  | none =>
      obtain ⟨hsame, hnone⟩ := poll_of_unserved_status hserved
      rw [hsame, hnone, StatusChange.between_self]
  | some served =>
      obtain ⟨command, reply⟩ := served
      exact (poll_of_served_status hserved).2

/-- **What a failed iteration tells.** It tells whether the calibration was reloaded and
both changes of status, but never of a frame. Either it has changed nothing since it
settled, or it has executed a command with success, of those that are answered by a
result, and failed to write that result. So it accounts for what it executed exactly
if nothing was changed. -/
theorem failed_poll_accounted_iff {c : Controller δ α π σ} {e : ExchangeError ε}
    (h : c.poll.1.failure = some e) :
    c.poll.1.record.reloaded = c.reload.1 ∧
      c.poll.1.record.rested = c.reload.2.progress.1 ∧
      c.poll.1.record.onCommand = StatusChange.between c.settled.status c.poll.2.status ∧
      c.poll.1.record.fate = none ∧
      (c.settled.Undisturbed c.poll.2 ∨ ∃ command, c.CutOff command e) ∧
      (c.Accounted ↔ c.settled.Undisturbed c.poll.2) := by
  obtain ⟨hfate, hcases⟩ := failed_poll_cases h
  refine ⟨?_, ?_, c.poll_onCommand, hfate, hcases, ?_⟩
  · rw [poll_eq]
    exact (listen_settings _ c.settled).1
  · rw [poll_eq]
    exact (listen_obeying _ rfl c.settled).1
  · constructor
    · intro haccounted
      rcases hcases with hsame | ⟨command, hcut⟩
      · exact hsame
      · by_contra hdisturbed
        have hrecorded := haccounted command _ hcut.served_eq hdisturbed
        rw [hfate] at hrecorded
        cases hrecorded
    · intro hsame command reply _ hdisturbed
      exact absurd hsame hdisturbed

/-! ## A line that takes no more than an acknowledgement -/

/-- A controller that has been sent a command over a line that takes six bytes at a
time: an acknowledgement, and no result. -/
def terse (command : Command) : Controller Script Recorder BenchSensors BenchStore :=
  .new (.new { Script.carrying [command] with writeBound := some 6 })
    (.new (.new ⟨false, false⟩) (.new ⟨false, false⟩)) ⟨[], []⟩ (.filled 32 [])

def homing : Controller Script Recorder BenchSensors BenchStore :=
  terse .home

/-- The record of homing that was begun tells of the status, not of the command. -/
theorem homing_unaccounted :
    homing.poll.1.failure = some (.line .shortWrite) ∧
      homing.poll.1.record.onCommand = some ⟨.idle, .homing .seek⟩ ∧ ¬homing.Accounted := by
  have hfailure : homing.poll.1.failure = some (.line .shortWrite) := by decide +kernel
  have hstatus : homing.poll.2.status ≠ homing.settled.status := by decide +kernel
  obtain ⟨-, -, honCommand, -, -, haccounted⟩ := failed_poll_accounted_iff hfailure
  refine ⟨hfailure, honCommand.trans (by decide +kernel), fun h => ?_⟩
  exact hstatus (haccounted.mp h).status_eq

def calibrating : Controller Script Recorder BenchSensors BenchStore :=
  terse (.calibrate (.axis .x .acceleration) 25)

/-- A value has been taken and stored, and the record of the iteration that did it is
that of one that did nothing. -/
theorem calibration_unrecorded :
    calibrating.calibration.x.acceleration = 10 ∧
      calibrating.exchange.command? = some (.calibrate (.axis .x .acceleration) 25) ∧
      calibrating.poll.1.failure = some (.line .shortWrite) ∧
      calibrating.poll.2.calibration.x.acceleration = 25 ∧
      calibrating.poll.2.store.read 0x10 = .ok (.number 25) ∧
      calibrating.poll.1.record = .nothing := by
  refine ⟨?_, ?_, ?_, ?_, ?_, ?_⟩ <;> decide +kernel

end Controller

end XYStage
