/-
# XYStage.Proofs.Controller.Transitions -- the changes of status in an iteration

The rules of the operating mode stand apart from the loop that follows them.
`Status.Settles` says what becomes of a status by what is found of the axes: whether
one is moving, and which switches are pressed. `Status.Obeys` says what becomes of it
by a command and the reply to it. An iteration makes one change by each, and a link
that fails cuts neither short.

Main statement: the status after an iteration is the one the rules prescribe, and the
record tells both changes and nothing else, whether the link failed or not
(`status_follows_rules`).
-/
import XYStage.Proofs.Controller.Attention

namespace XYStage

set_option autoImplicit false

variable {δ ε α π σ : Type}

namespace Axes

/-- No axis is moving. -/
def AtRest (axes : Axes α) : Prop :=
  ∀ id, (axes.get id).state.moving = false

theorem anyLimit_eq_true {axes : Axes α} :
    axes.limits.anyLimit = true ↔
      ∃ id switch, (axes.get id).state.pressed.get switch = true := by
  constructor
  · intro h
    simp only [limits, Axis.anyLimit, Bool.or_eq_true] at h
    rcases h with (h | h) | (h | h)
    · exact ⟨.x, .home, h⟩
    · exact ⟨.x, .far, h⟩
    · exact ⟨.y, .home, h⟩
    · exact ⟨.y, .far, h⟩
  · rintro ⟨id, switch, h⟩
    cases id <;> cases switch <;> simp_all [limits, Axis.anyLimit, get, Switches.get]

theorem anyHome_eq_true {axes : Axes α} :
    axes.limits.anyHome = true ↔ ∃ id, (axes.get id).state.pressed.home = true := by
  constructor
  · intro h
    simp only [limits, Bool.or_eq_true] at h
    rcases h with h | h
    · exact ⟨.x, h⟩
    · exact ⟨.y, h⟩
  · rintro ⟨id, h⟩
    cases id <;> simp_all [limits, get]

theorem allHome_eq_false {axes : Axes α} :
    axes.limits.allHome = false ↔ ∃ id, (axes.get id).state.pressed.home = false := by
  constructor
  · intro h
    simp only [limits, Bool.and_eq_false_iff] at h
    rcases h with h | h
    · exact ⟨.x, h⟩
    · exact ⟨.y, h⟩
  · rintro ⟨id, h⟩
    cases id <;> simp_all [limits, get]

end Axes

/-! ## The rules -/

namespace Status

/-- What becomes of a status by what is found of the axes. -/
inductive Settles (axes : Axes α) : Status → Status → Prop where
  /-- Nothing is settled while an axis is moving. -/
  | underway {id : AxisId} (moving : (axes.get id).state.moving = true) (status : Status) :
      Settles axes status status
  | idle (rest : axes.AtRest) : Settles axes .idle .idle
  | faulted (rest : axes.AtRest) (kind : Fault) : Settles axes (.fault kind) (.fault kind)
  | arrived (rest : axes.AtRest)
      (clear : ∀ id switch, (axes.get id).state.pressed.get switch = false) :
      Settles axes .moving .idle
  | blocked (rest : axes.AtRest) {id : AxisId} {switch : LimitSwitch}
      (pressed : (axes.get id).state.pressed.get switch = true) :
      Settles axes .moving (.fault .unexpectedLimit)
  | found (rest : axes.AtRest) (pressed : ∀ id, (axes.get id).state.pressed.home = true) :
      Settles axes (.homing .seek) (.homing .retract)
  | missed (rest : axes.AtRest) {id : AxisId} (clear : (axes.get id).state.pressed.home = false) :
      Settles axes (.homing .seek) (.fault .homing)
  | released (rest : axes.AtRest) (clear : ∀ id, (axes.get id).state.pressed.home = false) :
      Settles axes (.homing .retract) .idle
  | held (rest : axes.AtRest) {id : AxisId} (pressed : (axes.get id).state.pressed.home = true) :
      Settles axes (.homing .retract) (.fault .homing)

/-- What becomes of a status by a command and the reply to it. -/
inductive Obeys : Command → Option Reply → Status → Status → Prop where
  | stop (status : Status) : Obeys .stop none status .idle
  | home : Obeys .home (some (.axisResult .ok)) .idle (.homing .seek)
  /-- A second move may start while the first is running. -/
  | move (request : MoveRequest) {status : Status} (ready : status = .idle ∨ status = .moving) :
      Obeys (.move request) (some (.axisResult .ok)) status .moving
  | refused (command : Command) {code : ResultCode} (bad : code ≠ .ok) (status : Status) :
      Obeys command (some (.axisResult code)) status status
  /-- No other command changes the status. -/
  | other {command : Command} (h : command.steers = false) (reply : Option Reply)
      (status : Status) : Obeys command reply status status

/-- The status once the axes have been looked at. -/
def settled (axes : Axes α) (s : Status) : Status :=
  if axes.anyMoving then s else s.atRest axes.limits

theorem settles_settled (axes : Axes α) (s : Status) : s.Settles axes (s.settled axes) := by
  unfold settled
  by_cases hmoving : axes.anyMoving = true
  · rw [if_pos hmoving]
    simp only [Axes.anyMoving, Bool.or_eq_true] at hmoving
    rcases hmoving with hmoving | hmoving
    · have hx : (axes.get .x).state.moving = true := hmoving
      exact .underway hx s
    · have hy : (axes.get .y).state.moving = true := hmoving
      exact .underway hy s
  · rw [if_neg hmoving]
    have rest : axes.AtRest := Axes.anyMoving_eq_false.mp (by simpa using hmoving)
    cases s with
    | idle => exact .idle rest
    | fault kind => exact .faulted rest kind
    | moving =>
        simp only [atRest]
        cases hlimit : axes.limits.anyLimit with
        | true =>
            obtain ⟨id, switch, hpressed⟩ := Axes.anyLimit_eq_true.mp hlimit
            exact .blocked rest hpressed
        | false =>
            apply Settles.arrived rest
            intro id switch
            apply Bool.eq_false_iff.mpr
            intro hpressed
            rw [Axes.anyLimit_eq_true.mpr ⟨id, switch, hpressed⟩] at hlimit
            cases hlimit
    | homing phase =>
        cases phase with
        | seek =>
            simp only [atRest]
            cases hhome : axes.limits.allHome with
            | true => exact .found rest (Axes.allHome_eq_true.mp hhome)
            | false =>
                obtain ⟨id, hclear⟩ := Axes.allHome_eq_false.mp hhome
                exact .missed rest hclear
        | retract =>
            simp only [atRest]
            cases hhome : axes.limits.anyHome with
            | true =>
                obtain ⟨id, hpressed⟩ := Axes.anyHome_eq_true.mp hhome
                exact .held rest hpressed
            | false => exact .released rest (Axes.anyHome_eq_false.mp hhome)

/-- The rules leave no choice. -/
theorem Settles.unique {axes : Axes α} {s first second : Status} (h : s.Settles axes first)
    (h' : s.Settles axes second) : first = second := by
  cases h with
  | underway moving _ =>
      cases h' with
      | underway _ _ => rfl
      | _ rest => simp [rest _] at moving
  | idle rest =>
      cases h' with
      | underway _ _ => rfl
      | idle _ => rfl
  | faulted rest kind =>
      cases h' with
      | underway _ _ => rfl
      | faulted _ _ => rfl
  | arrived rest clear =>
      cases h' with
      | underway moving _ => simp [rest _] at moving
      | arrived _ _ => rfl
      | blocked _ pressed => simp [clear _ _] at pressed
  | blocked rest pressed =>
      cases h' with
      | underway moving _ => simp [rest _] at moving
      | arrived _ clear => simp [clear _ _] at pressed
      | blocked _ _ => rfl
  | found rest pressed =>
      cases h' with
      | underway moving _ => simp [rest _] at moving
      | found _ _ => rfl
      | missed _ clear => simp [pressed _] at clear
  | missed rest clear =>
      cases h' with
      | underway moving _ => simp [rest _] at moving
      | found _ pressed => simp [pressed _] at clear
      | missed _ _ => rfl
  | released rest clear =>
      cases h' with
      | underway moving _ => simp [rest _] at moving
      | released _ _ => rfl
      | held _ pressed => simp [clear _] at pressed
  | held rest pressed =>
      cases h' with
      | underway moving _ => simp [rest _] at moving
      | released _ clear => simp [clear _] at pressed
      | held _ _ => rfl

theorem Obeys.unique {command : Command} {reply : Option Reply} {s first second : Status}
    (h : Obeys command reply s first) (h' : Obeys command reply s second) : first = second := by
  cases h with
  | stop _ =>
      cases h' with
      | stop _ => rfl
      | other steers _ _ => cases steers
  | home =>
      cases h' with
      | home => rfl
      | refused _ bad _ => exact absurd rfl bad
      | other steers _ _ => cases steers
  | move request _ =>
      cases h' with
      | move _ _ => rfl
      | refused _ bad _ => exact absurd rfl bad
      | other steers _ _ => cases steers
  | refused _ bad _ =>
      cases h' with
      | home => exact absurd rfl bad
      | move _ _ => exact absurd rfl bad
      | refused _ _ _ => rfl
      | other _ _ _ => rfl
  | other steers _ _ =>
      cases h' with
      | stop _ => cases steers
      | home => cases steers
      | move _ _ => cases steers
      | refused _ _ _ => rfl
      | other _ _ _ => rfl

theorem allowsMove_iff {s : Status} : s.allowsMove = true ↔ s = .idle ∨ s = .moving := by
  cases s <;> simp [allowsMove]

end Status

@[simp] theorem StatusChange.between_self (status : Status) : between status status = none :=
  if_pos rfl

theorem Refusal.code_ne_ok (refusal : Refusal) : refusal.code ≠ .ok := by
  cases refusal <;> simp [code]

/-! ## The iteration -/

namespace Controller

section Settling

variable [AxisHardware α]

/-- Taking the status on follows the rules. -/
theorem progress_status (c : Controller δ α π σ) :
    c.progress.2.status = c.status.settled c.axes ∧
      c.progress.1 = StatusChange.between c.status (c.status.settled c.axes) := by
  unfold Status.settled StatusChange.between
  cases rest : c.axes.anyMoving with
  | true =>
      have hprogress : c.progress = (none, c) := if_pos rest
      rw [hprogress]
      simp
  | false =>
      by_cases h : c.status.atRest c.axes.limits = c.status
      · rw [progress_unchanged rest h]
        simp [h]
      · rw [progress_changed rest rfl rfl (Ne.symm h)]
        have hne : ¬ c.status = c.status.atRest c.axes.limits := Ne.symm h
        constructor
        · split
          · simp
          · split <;> simp
        · simp [hne]

end Settling

variable [AxisHardware α] [SerialLine δ ε] [TemperatureSource π] [SettingStore σ]

theorem settled_status (c : Controller δ α π σ) :
    c.settled.status = c.status.settled c.axes ∧
      c.poll.1.record.rested = StatusChange.between c.status (c.status.settled c.axes) := by
  obtain ⟨store, calibration, hkept⟩ := c.reload_kept
  obtain ⟨hstatus, hchange⟩ := c.reload.2.progress_status
  have hsame : c.reload.2.status.settled c.reload.2.axes = c.status.settled c.axes := by
    rw [hkept]
  have hbefore : c.reload.2.status = c.status := by rw [hkept]
  rw [hsame, hbefore] at hchange
  constructor
  · rw [settled, hstatus, hsame]
  · rw [poll_eq, (listen_obeying _ rfl c.settled).1]
    exact hchange

omit [SerialLine δ ε] in
/-- A command about motion is answered by its result, if it has one. -/
theorem execute_result {command : Command} (h : command.steers = true) (record : PollRecord)
    (c : Controller δ α π σ) :
    (c.execute command record).1 = (c.execute command record).2.1.map .axisResult := by
  cases command with
  | home => simp [execute]
  | move request => simp [execute]
  | stop => simp [execute]
  | ping data => cases h
  | getStatus => cases h
  | getPosition => cases h
  | getAxisState axis => cases h
  | getTemperature => cases h
  | calibrate key value => cases h

omit [AxisHardware α] [TemperatureSource π] [SettingStore σ] in
/-- Concluding leaves the status and what is told of it. -/
theorem conclude_status (reply : Option Reply) (fate : FrameFate) (record : PollRecord)
    (c : Controller δ α π σ) :
    (c.conclude reply fate record).2.status = c.status ∧
      (c.conclude reply fate record).1.record.onCommand = record.onCommand := by
  obtain ⟨noted, failure, exchange, hkept⟩ := c.conclude_kept reply fate record
  rw [hkept]
  exact ⟨rfl, rfl⟩

omit [SerialLine δ ε] in
/-- What carrying out a command does to the status is what the rules say of the command
and its reply, and it is told. -/
theorem execute_obeys (command : Command) (record : PollRecord) (h : record.onCommand = none)
    (c : Controller δ α π σ) :
    Status.Obeys command (c.execute command record).1 c.status
        (c.execute command record).2.2.2.status ∧
      (c.execute command record).2.2.1.onCommand =
        StatusChange.between c.status (c.execute command record).2.2.2.status := by
  obtain ⟨hobeying, -⟩ := execute_obeying command record h c
  have hreply : command.steers = true →
      (c.execute command record).1 = (c.execute command record).2.1.map .axisResult :=
    fun hsteers => execute_result hsteers record c
  generalize c.execute command record = executed at hobeying hreply ⊢
  obtain ⟨reply, result, after, later⟩ := executed
  generalize later.axes = axes, later.status = status, after.onCommand = change at hobeying ⊢
  cases hobeying with
  | stop =>
      obtain rfl : reply = none := hreply rfl
      exact ⟨.stop _, rfl⟩
  | home idle =>
      obtain rfl : reply = some (.axisResult .ok) := hreply rfl
      rw [idle]
      exact ⟨.home, rfl⟩
  | homeBusy _ =>
      obtain rfl : reply = some (.axisResult .busy) := hreply rfl
      exact ⟨.refused _ (by simp) _, (StatusChange.between_self _).symm⟩
  | move request allowed _ =>
      obtain rfl : reply = some (.axisResult .ok) := hreply rfl
      exact ⟨.move request (Status.allowsMove_iff.mp allowed), rfl⟩
  | @moveRefused request _ refusal _ =>
      obtain rfl : reply = some (.axisResult refusal.code) := hreply rfl
      exact ⟨.refused _ (Refusal.code_ne_ok _) _, (StatusChange.between_self _).symm⟩
  | moveBusy request _ =>
      obtain rfl : reply = some (.axisResult .busy) := hreply rfl
      exact ⟨.refused _ (by simp) _, (StatusChange.between_self _).symm⟩
  | other steers _ => exact ⟨.other steers _ _, (StatusChange.between_self _).symm⟩

/-- An iteration that serves no command only settles. -/
theorem poll_of_unserved_status {c : Controller δ α π σ} (h : c.served = none) :
    c.poll.2.status = c.settled.status ∧ c.poll.1.record.onCommand = none := by
  rcases c.poll_obeying with ⟨-, hnone, hstatus, -⟩ | ⟨command, result, hcommand, -⟩
  · exact ⟨hstatus, hnone⟩
  · rw [served, hcommand] at h
    cases h

theorem poll_of_served_status {c : Controller δ α π σ} {command : Command} {reply : Option Reply}
    (h : c.served = some (command, reply)) :
    Status.Obeys command reply c.settled.status c.poll.2.status ∧
      c.poll.1.record.onCommand =
        StatusChange.between c.settled.status c.poll.2.status := by
  obtain ⟨hreply, hpoll⟩ := poll_of_served h
  obtain ⟨hobeys, hchange⟩ := execute_obeys command c.opened rfl c.heeding
  obtain ⟨hstatus, hsame⟩ := conclude_status reply
    (.executed command.id (c.heeding.execute command c.opened).2.1)
    (c.heeding.execute command c.opened).2.2.1 (c.heeding.execute command c.opened).2.2.2
  rw [hpoll, hstatus, hsame, hreply]
  exact ⟨hobeys, hchange⟩

/-- **The rules of the status.** In every iteration the status first becomes what the
rules make of it by what is found of the axes, and nothing else; then it becomes what
they make of that by the command the iteration serves and its reply, or stays if it
serves none. The record tells each of the two exactly if it is a change, whether the
link failed or not. -/
theorem status_follows_rules (c : Controller δ α π σ) :
    ∃ between,
      (∀ status, c.status.Settles c.axes status ↔ status = between) ∧
      c.poll.1.record.rested = StatusChange.between c.status between ∧
      (c.served = none → c.poll.2.status = between) ∧
      (∀ command reply, c.served = some (command, reply) →
        ∀ status, Status.Obeys command reply between status ↔ status = c.poll.2.status) ∧
      c.poll.1.record.onCommand = StatusChange.between between c.poll.2.status := by
  obtain ⟨hstatus, hrested⟩ := c.settled_status
  have hsettles := Status.settles_settled c.axes c.status
  refine ⟨c.status.settled c.axes, ?_, hrested, ?_, ?_, ?_⟩
  · intro status
    constructor
    · intro h
      exact h.unique hsettles
    · rintro rfl
      exact hsettles
  · intro hunserved
    rw [(poll_of_unserved_status hunserved).1]
    exact hstatus
  · intro command reply hserved status
    obtain ⟨hobeys, -⟩ := poll_of_served_status hserved
    rw [hstatus] at hobeys
    constructor
    · intro h
      exact h.unique hobeys
    · rintro rfl
      exact hobeys
  · rw [← hstatus]
    cases hserved : c.served with
    | none =>
        obtain ⟨hsame, hnone⟩ := poll_of_unserved_status hserved
        rw [hsame, hnone, StatusChange.between_self]
    | some served =>
        obtain ⟨command, reply⟩ := served
        exact (poll_of_served_status hserved).2

end Controller

end XYStage
