/-
# XYStage.Proofs.Controller.Poll -- what one control iteration can do

One inductive proposition for each part of an iteration lists everything that part
can do to the status and the axes: settling (`Settling`), and obeying a command
(`Obeying`). Listening hands on at most one command (`Exchange.command?`), and
whether its reply can be written makes no difference to either.

Main statements: `progress_settling`, `execute_obeying` and, for the iteration,
`poll_settling` and `poll_obeying`.
-/
import XYStage.Controller.Basic
import XYStage.Proofs.Motion.Operation

namespace XYStage

set_option autoImplicit false

/-! ## Both axes -/

theorem AxisId.forall_iff {p : AxisId → Prop} : (∀ id, p id) ↔ p .x ∧ p .y := by
  refine ⟨fun h => ⟨h .x, h .y⟩, fun h id => ?_⟩
  cases id with
  | x => exact h.1
  | y => exact h.2

namespace Axes

variable {α : Type}

@[simp] theorem get_set_self (id : AxisId) (axis : Axis α) (axes : Axes α) :
    (axes.set id axis).get id = axis := by
  cases id <;> rfl

theorem get_set_of_ne {id other : AxisId} (h : other ≠ id) (axis : Axis α) (axes : Axes α) :
    (axes.set id axis).get other = axes.get other := by
  cases id <;> cases other <;> first | rfl | exact absurd rfl h

@[simp] theorem set_get (id : AxisId) (axes : Axes α) : axes.set id (axes.get id) = axes := by
  cases id <;> rfl

@[simp] theorem get_map (f : Axis α → Axis α) (id : AxisId) (axes : Axes α) :
    (axes.map f).get id = f (axes.get id) := by
  cases id <;> rfl

theorem anyMoving_eq_false {axes : Axes α} :
    axes.anyMoving = false ↔ ∀ id, (axes.get id).state.moving = false := by
  rw [AxisId.forall_iff, anyMoving, Bool.or_eq_false_iff]
  rfl

theorem allHome_eq_true {axes : Axes α} :
    axes.limits.allHome = true ↔ ∀ id, (axes.get id).state.pressed.home = true := by
  rw [AxisId.forall_iff, limits, Bool.and_eq_true]
  rfl

theorem anyHome_eq_false {axes : Axes α} :
    axes.limits.anyHome = false ↔ ∀ id, (axes.get id).state.pressed.home = false := by
  rw [AxisId.forall_iff, limits, Bool.or_eq_false_iff]
  rfl

variable [AxisHardware α]

@[simp] theorem anyMoving_halt (axes : Axes α) : axes.halt.anyMoving = false := by
  rw [anyMoving_eq_false]
  intro id
  rw [halt, get_map]
  rfl

/-- Start both axes on a homing leg. -/
def startLeg (direction : Direction) (cal : Calibration) (axes : Axes α) : Axes α :=
  ⟨(axes.x.start (Controller.homingMotion direction cal.x)).2,
    (axes.y.start (Controller.homingMotion direction cal.y)).2⟩

@[simp] theorem get_startLeg (direction : Direction) (cal : Calibration) (id : AxisId)
    (axes : Axes α) : (axes.startLeg direction cal).get id =
      ((axes.get id).start (Controller.homingMotion direction (cal.axis id))).2 := by
  cases id <;> rfl

end Axes

/-- The change from one status to another, if they differ. -/
def StatusChange.between (before after : Status) : Option StatusChange :=
  if before = after then none else some ⟨before, after⟩

theorem StatusChange.between_eq_some {before after : Status} {change : StatusChange}
    (h : between before after = some change) : change = ⟨before, after⟩ := by
  unfold between at h
  split at h
  · cases h
  · exact (Option.some.inj h).symm

/-- Whether a command is about motion. -/
def Command.steers : Command → Bool
  | .home | .move _ | .stop => true
  | _ => false

/-- The frame that listening hands on: give up an overdue acknowledgement, then take
the next frame, unless it is an acknowledgement. -/
def Exchange.hear {δ ε : Type} [SerialLine δ ε] (x : Exchange δ) :
    Except (ExchangeError ε) (Option Frame) × Exchange δ :=
  match x.expire with
  | (.error e, x) => (.error e, x)
  | (.ok (), x) =>
      match x.check with
      | (.ok (some frame), x) => (.ok (if frame.id = MessageId.ack then none else some frame), x)
      | (answer, x) => (answer, x)

/-- The command that listening hands on. -/
def Exchange.command? {δ ε : Type} [SerialLine δ ε] (x : Exchange δ) : Option Command :=
  match x.hear with
  | (.ok (some frame), _) => (Command.ofFrame frame).toOption
  | _ => none

theorem Exchange.command?_eq_some {δ ε : Type} [SerialLine δ ε] {x : Exchange δ}
    {command : Command} (h : x.command? = some command) :
    ∃ frame, x.hear.1 = .ok (some frame) ∧ Command.ofFrame frame = .ok command := by
  unfold command? at h
  split at h
  · next frame exchange hhear =>
    refine ⟨frame, by rw [hhear], ?_⟩
    cases hframe : Command.ofFrame frame with
    | error error =>
        rw [hframe] at h
        cases h
    | ok command =>
        rw [hframe] at h
        cases h
        rfl
  · cases h

namespace Controller

/-- The commands of a homing leg are never wrong: it has a profile, and its distance
goes its way. -/
theorem homingMotion_valid (direction : Direction) (rates : AxisRates) :
    (homingMotion direction rates).distance ≠ 0 ∧
      (homingMotion direction rates).directionAgrees = true ∧
      ∃ plan, (homingMotion direction rates).profile = .ok plan := by
  refine ⟨?_, ?_, ?_⟩
  · show direction.sign * 2147483647 ≠ 0
    cases direction <;> decide
  · show decide ((direction.sign * 2147483647).toInt.sign = direction.sign.toInt) = true
    cases direction <;> decide
  · refine ⟨Trapezoid.withRamp 0 (homingMotion direction rates).length, ?_⟩
    show Trapezoid.plan rates.acceleration rates.homeVelocity rates.homeVelocity _ = _
    unfold Trapezoid.plan
    rw [if_neg (by simp), if_pos (UInt32.le_refl _)]

/-- An axis takes a homing leg unless it moves or the switch ahead is pressed. -/
theorem start_homing_cases {α : Type} [AxisHardware α] (direction : Direction)
    (rates : AxisRates) (a : Axis α) :
    (a.state.moving = true ∨ a.state.pressed.get (.facing direction) = true) ∧
        (a.start (homingMotion direction rates)).2 = a ∨
      a.state.moving = false ∧ a.state.pressed.get (.facing direction) = false ∧
        ∃ plan, (a.start (homingMotion direction rates)).2.state =
          a.state.begin (homingMotion direction rates) plan := by
  obtain ⟨hdistance, hagrees, plan, hplan⟩ := homingMotion_valid direction rates
  rcases a.start_cases (homingMotion direction rates) with
    ⟨refusal, hpermit, hrefused⟩ | ⟨plan, hpermit, -, hstate⟩
  · refine .inl ⟨?_, by rw [hrefused]⟩
    cases hmoving : a.state.moving with
    | true => exact .inl rfl
    | false =>
        cases hahead : a.state.pressed.get (.facing direction) with
        | true => exact .inr rfl
        | false =>
            have hok := Axis.permit_eq_ok.mpr ⟨hmoving, hdistance, hagrees, hplan, hahead⟩
            rw [hpermit] at hok
            cases hok
  · obtain ⟨hmoving, -, -, -, hahead⟩ := Axis.permit_eq_ok.mp hpermit
    exact .inr ⟨hmoving, hahead, plan, hstate⟩

/-! ## Settling -/

variable {δ ε α π σ : Type} [AxisHardware α]

/-- What taking the status on can do to it and to the axes, once with each reason for
it, and the change it reports. -/
inductive Settling (status : Status) (axes : Axes α) (cal : Calibration) :
    Option StatusChange → Status → Axes α → Prop where
  | moving (h : axes.anyMoving = true) : Settling status axes cal none status axes
  | settled (rest : axes.anyMoving = false) (h : status = .idle ∨ ∃ kind, status = .fault kind) :
      Settling status axes cal none status axes
  /-- A move is over. -/
  | moved (rest : axes.anyMoving = false) (h : status = .moving)
      (clear : axes.limits.anyLimit = false) :
      Settling status axes cal (some ⟨.moving, .idle⟩) .idle axes
  /-- A move is over and some switch is pressed. -/
  | blocked (rest : axes.anyMoving = false) (h : status = .moving)
      (pressed : axes.limits.anyLimit = true) :
      Settling status axes cal (some ⟨.moving, .fault .unexpectedLimit⟩)
        (.fault .unexpectedLimit) axes
  /-- Both home switches are found. -/
  | found (rest : axes.anyMoving = false) (h : status = .homing .seek)
      (home : axes.limits.allHome = true) :
      Settling status axes cal (some ⟨.homing .seek, .homing .retract⟩) (.homing .retract)
        ((axes.startLeg .positive cal).map Axis.endOnRelease)
  /-- Both home switches are left. -/
  | homed (rest : axes.anyMoving = false) (h : status = .homing .retract)
      (clear : axes.limits.anyHome = false) :
      Settling status axes cal (some ⟨.homing .retract, .idle⟩) .idle (axes.map Axis.reset)
  /-- The home switches are not as the phase expects them. -/
  | lost (rest : axes.anyMoving = false) {phase : HomingPhase} (h : status = .homing phase) :
      Settling status axes cal (some ⟨.homing phase, .fault .homing⟩) (.fault .homing) axes

omit [AxisHardware α] in
theorem takeEvent_unchanged {event : StatusEvent} {c : Controller δ α π σ}
    (h : c.status.next event = c.status) : c.takeEvent event = (none, c) := by
  unfold takeEvent
  rw [h]
  exact congrArg (·, c) (if_pos rfl)

omit [AxisHardware α] in
theorem takeEvent_changed {event : StatusEvent} {c : Controller δ α π σ} {before after : Status}
    (hbefore : c.status = before) (hafter : before.next event = after) (hne : before ≠ after) :
    c.takeEvent event = (some ⟨before, after⟩, { c with status := after }) := by
  unfold takeEvent
  rw [hbefore, hafter]
  exact congrArg (·, { c with status := after }) (if_neg hne)

theorem progress_unchanged {c : Controller δ α π σ} (rest : c.axes.anyMoving = false)
    (h : c.status.atRest c.axes.limits = c.status) : c.progress = (none, c) := by
  have htake : c.takeEvent (.rested c.axes.limits) = (none, c) := takeEvent_unchanged h
  unfold progress
  rw [rest, htake]
  rfl

/-- A change of status when both axes are at rest, with what two changes do besides. -/
theorem progress_changed {c : Controller δ α π σ} (rest : c.axes.anyMoving = false)
    {before after : Status} (hbefore : c.status = before)
    (hafter : before.atRest c.axes.limits = after) (hne : before ≠ after) :
    c.progress = (some ⟨before, after⟩,
      if before = .homing .seek ∧ after = .homing .retract then
        { c with
          status := after
          axes := (c.axes.startLeg .positive c.calibration).map Axis.endOnRelease }
      else if before = .homing .retract ∧ after = .idle then
        { c with status := after, axes := c.axes.map Axis.reset }
      else { c with status := after }) := by
  have htake : c.takeEvent (.rested c.axes.limits) =
      (some ⟨before, after⟩, { c with status := after }) := takeEvent_changed hbefore hafter hne
  unfold progress
  rw [rest, htake]
  rfl

theorem progress_exchange (c : Controller δ α π σ) : c.progress.2.exchange = c.exchange := by
  cases rest : c.axes.anyMoving with
  | true =>
      have hprogress : c.progress = (none, c) := if_pos rest
      rw [hprogress]
  | false =>
      by_cases h : c.status.atRest c.axes.limits = c.status
      · rw [progress_unchanged rest h]
      · rw [progress_changed rest rfl rfl (Ne.symm h)]
        split
        · rfl
        · split <;> rfl

theorem progress_settling (c : Controller δ α π σ) :
    Settling c.status c.axes c.calibration c.progress.1 c.progress.2.status c.progress.2.axes := by
  cases rest : c.axes.anyMoving with
  | true =>
      have hprogress : c.progress = (none, c) := if_pos rest
      rw [hprogress]
      exact .moving rest
  | false =>
      cases hstatus : c.status with
      | idle =>
          rw [progress_unchanged rest (by rw [hstatus]; rfl)]
          show Settling .idle c.axes c.calibration none c.status c.axes
          rw [hstatus]
          exact .settled rest (.inl rfl)
      | fault kind =>
          rw [progress_unchanged rest (by rw [hstatus]; rfl)]
          show Settling (.fault kind) c.axes c.calibration none c.status c.axes
          rw [hstatus]
          exact .settled rest (.inr ⟨kind, rfl⟩)
      | moving =>
          cases hlimit : c.axes.limits.anyLimit with
          | true =>
              rw [progress_changed rest hstatus (if_pos hlimit) nofun]
              exact .blocked rest rfl hlimit
          | false =>
              rw [progress_changed rest hstatus (if_neg (by simp [hlimit])) nofun]
              exact .moved rest rfl hlimit
      | homing phase =>
          cases phase with
          | seek =>
              cases hhome : c.axes.limits.allHome with
              | true =>
                  rw [progress_changed rest hstatus (if_pos hhome) nofun]
                  exact .found rest rfl hhome
              | false =>
                  rw [progress_changed rest hstatus (if_neg (by simp [hhome])) nofun]
                  exact .lost rest rfl
          | retract =>
              cases hhome : c.axes.limits.anyHome with
              | true =>
                  rw [progress_changed rest hstatus (if_pos hhome) nofun]
                  exact .lost rest rfl
              | false =>
                  rw [progress_changed rest hstatus (if_neg (by simp [hhome])) nofun]
                  exact .homed rest rfl hhome

/-! ## Obeying a command -/

/-- What a command can do to the status and the axes, with its result and the change
of status it reports. -/
inductive Obeying (status : Status) (axes : Axes α) (cal : Calibration) :
    Command → Option ResultCode → Option StatusChange → Status → Axes α → Prop where
  | stop : Obeying status axes cal .stop none
      (StatusChange.between status .idle) .idle axes.halt
  | home (idle : status = .idle) : Obeying status axes cal .home (some .ok)
      (some ⟨.idle, .homing .seek⟩) (.homing .seek) (axes.startLeg .negative cal)
  | homeBusy (busy : status ≠ .idle) :
      Obeying status axes cal .home (some .busy) none status axes
  | move (request : MoveRequest) (allowed : status.allowsMove = true) {axis : Axis α}
      (started : (axes.get request.axis).start
        (requestedMotion request (cal.axis request.axis)) = (.ok (), axis)) :
      Obeying status axes cal (.move request) (some .ok)
        (StatusChange.between status .moving) .moving
        (axes.set request.axis axis)
  | moveRefused (request : MoveRequest) (allowed : status.allowsMove = true) {refusal : Refusal}
      (refused : (axes.get request.axis).permit
        (requestedMotion request (cal.axis request.axis)) = .error refusal) :
      Obeying status axes cal (.move request) (some refusal.code) none status axes
  | moveBusy (request : MoveRequest) (busy : status.allowsMove = false) :
      Obeying status axes cal (.move request) (some .busy) none status axes
  | other {command : Command} (h : command.steers = false) (result : Option ResultCode) :
      Obeying status axes cal command result none status axes

/-- While no move is allowed, only a stop does anything. -/
theorem Obeying.of_busy {status after : Status} {axes later : Axes α} {cal : Calibration}
    {command : Command} {result : Option ResultCode} {change : Option StatusChange}
    (h : Obeying status axes cal command result change after later)
    (busy : status.allowsMove = false) (unstopped : command ≠ .stop) :
    after = status ∧ later = axes := by
  cases h with
  | stop => exact absurd rfl unstopped
  | home idle =>
      rw [idle] at busy
      cases busy
  | move _ allowed _ =>
      rw [busy] at allowed
      cases allowed
  | homeBusy _ => exact ⟨rfl, rfl⟩
  | moveBusy _ _ => exact ⟨rfl, rfl⟩
  | moveRefused _ _ _ => exact ⟨rfl, rfl⟩
  | other _ _ => exact ⟨rfl, rfl⟩

theorem home_busy {c : Controller δ α π σ} (busy : c.status ≠ .idle) (record : PollRecord) :
    c.home record = (.busy, record, c) :=
  if_pos busy

theorem home_accepted {c : Controller δ α π σ} (idle : c.status = .idle) (record : PollRecord) :
    c.home record =
      (.ok, { record with onCommand := some ⟨.idle, .homing .seek⟩ },
        { c with status := .homing .seek, axes := c.axes.startLeg .negative c.calibration }) := by
  have htake : (c.startLeg .negative).takeEvent .homingStarted =
      (some ⟨.idle, .homing .seek⟩, { c.startLeg .negative with status := .homing .seek }) :=
    takeEvent_changed idle rfl nofun
  unfold home
  rw [if_neg (not_not_intro idle), htake]
  rfl

theorem move_busy {request : MoveRequest} {c : Controller δ α π σ}
    (busy : c.status.allowsMove = false) (record : PollRecord) :
    c.move request record = (.busy, record, c) := by
  unfold move
  rw [busy]
  rfl

theorem move_refused {request : MoveRequest} {c : Controller δ α π σ} {refusal : Refusal}
    (allowed : c.status.allowsMove = true)
    (refused : (c.axes.get request.axis).permit
      (requestedMotion request (c.calibration.axis request.axis)) = .error refusal)
    (record : PollRecord) : c.move request record = (refusal.code, record, c) := by
  have hstart : (c.axes.get request.axis).start
      (requestedMotion request (c.calibration.axis request.axis)) =
        (.error refusal, c.axes.get request.axis) := by
    unfold Axis.start
    rw [refused]
  unfold move
  rw [allowed]
  dsimp only
  rw [hstart]
  dsimp only
  rw [Axes.set_get]
  rfl

theorem move_accepted {request : MoveRequest} {c : Controller δ α π σ} {axis : Axis α}
    (allowed : c.status.allowsMove = true)
    (started : (c.axes.get request.axis).start
      (requestedMotion request (c.calibration.axis request.axis)) = (.ok (), axis))
    (record : PollRecord) : c.move request record =
      (.ok, { record with onCommand := StatusChange.between c.status .moving },
        { c with axes := c.axes.set request.axis axis, status := .moving }) := by
  have hstatus : c.status.next .moveStarted = .moving := if_pos allowed
  unfold move takeEvent
  rw [allowed]
  dsimp only
  rw [started]
  dsimp only
  rw [hstatus]
  rfl

omit [AxisHardware α] in
/-- A calibration changes nothing but the calibration, the store and the account of
the store. -/
theorem calibrate_kept [SettingStore σ] (key : ParameterKey) (value : Single)
    (record : PollRecord) (c : Controller δ α π σ) :
    ∃ code failure store calibration, c.calibrate key value record =
      (code, { record with storeFailure := failure }, { c with store, calibration }) := by
  unfold calibrate
  dsimp only
  split
  · exact ⟨_, record.storeFailure, c.store, c.calibration, rfl⟩
  · split
    · exact ⟨_, none, _, _, rfl⟩
    · exact ⟨_, some _, _, _, rfl⟩

variable [SerialLine δ ε] [TemperatureSource π] [SettingStore σ]

theorem execute_obeying (command : Command) (record : PollRecord) (h : record.onCommand = none)
    (c : Controller δ α π σ) :
    Obeying c.status c.axes c.calibration command (c.execute command record).2.1
        (c.execute command record).2.2.1.onCommand (c.execute command record).2.2.2.status
        (c.execute command record).2.2.2.axes ∧
      (c.execute command record).2.2.1.rested = record.rested := by
  obtain ⟨reloaded, rested, onCommand, fate, storeFailure⟩ := record
  obtain rfl : onCommand = none := h
  cases command with
  | stop => exact ⟨.stop, rfl⟩
  | home =>
      simp only [execute]
      by_cases hidle : c.status = .idle
      · rw [home_accepted hidle]
        exact ⟨.home hidle, rfl⟩
      · rw [home_busy hidle]
        exact ⟨.homeBusy hidle, rfl⟩
  | move request =>
      simp only [execute]
      cases hallowed : c.status.allowsMove with
      | false =>
          rw [move_busy hallowed]
          exact ⟨.moveBusy request hallowed, rfl⟩
      | true =>
          rcases (c.axes.get request.axis).start_cases
              (requestedMotion request (c.calibration.axis request.axis)) with
            ⟨refusal, hpermit, -⟩ | ⟨plan, -, hok, -⟩
          · rw [move_refused hallowed hpermit]
            exact ⟨.moveRefused request hallowed hpermit, rfl⟩
          · have hstart : (c.axes.get request.axis).start
                (requestedMotion request (c.calibration.axis request.axis)) = (.ok (), _) :=
              Prod.ext hok rfl
            rw [move_accepted hallowed hstart]
            exact ⟨.move request hallowed hstart, rfl⟩
  | calibrate key value =>
      obtain ⟨code, failure, store, calibration, hkept⟩ :=
        c.calibrate_kept key value ⟨reloaded, rested, none, fate, storeFailure⟩
      simp only [execute]
      rw [hkept]
      exact ⟨.other rfl _, rfl⟩
  | ping data => exact ⟨.other rfl _, rfl⟩
  | getStatus => exact ⟨.other rfl _, rfl⟩
  | getPosition => exact ⟨.other rfl _, rfl⟩
  | getAxisState axis => exact ⟨.other rfl _, rfl⟩
  | getTemperature => exact ⟨.other rfl _, rfl⟩

/-! ## Listening -/

theorem listen_eq (record : PollRecord) (c : Controller δ α π σ) : c.listen record =
    match c.exchange.hear with
    | (.error e, exchange) => (⟨record, some e⟩, { c with exchange })
    | (.ok none, exchange) => (⟨record, none⟩, { c with exchange })
    | (.ok (some frame), exchange) => { c with exchange }.carryOut frame record := by
  unfold listen Exchange.hear
  cases c.exchange.expire with
  | mk answer exchange =>
      cases answer with
      | error e => rfl
      | ok _ =>
          dsimp only
          cases exchange.check with
          | mk answer exchange =>
              cases answer with
              | error e => rfl
              | ok frame? =>
                  cases frame? with
                  | none => rfl
                  | some frame =>
                      by_cases hack : frame.id = MessageId.ack
                      · simp only [if_pos hack]
                      · simp only [if_neg hack]

omit [AxisHardware α] [TemperatureSource π] [SettingStore σ] in
/-- Concluding changes nothing but the link, whatever becomes of the reply. -/
theorem conclude_kept (reply : Option Reply) (fate : FrameFate) (record : PollRecord)
    (c : Controller δ α π σ) :
    ∃ noted failure exchange, c.conclude reply fate record =
      (⟨{ record with fate := noted }, failure⟩, { c with exchange }) := by
  cases reply with
  | none => exact ⟨_, _, c.exchange, rfl⟩
  | some reply =>
      unfold conclude
      dsimp only
      split
      · exact ⟨_, _, _, rfl⟩
      · exact ⟨record.fate, _, _, rfl⟩

theorem carryOut_command {frame : Frame} {command : Command}
    (h : Command.ofFrame frame = .ok command) (record : PollRecord) (c : Controller δ α π σ) :
    c.carryOut frame record =
      (c.execute command record).2.2.2.conclude (c.execute command record).1
        (.executed command.id (c.execute command record).2.1)
        (c.execute command record).2.2.1 := by
  unfold carryOut
  rw [h]

/-- A frame that is no command is answered, at most. -/
theorem carryOut_error {frame : Frame} {error : MessageError}
    (h : Command.ofFrame frame = .error error) (record : PollRecord) (c : Controller δ α π σ) :
    ∃ reply fate, c.carryOut frame record = c.conclude reply fate record := by
  unfold carryOut
  rw [h]
  cases error with
  | unknownId id => exact ⟨_, _, rfl⟩
  | wrongSize id _ _ => exact ⟨_, _, rfl⟩
  | badField id => exact ⟨_, _, rfl⟩

/-- Listening does what the command does that it hands on, or nothing. -/
theorem listen_obeying (record : PollRecord) (h : record.onCommand = none)
    (c : Controller δ α π σ) :
    (c.listen record).1.record.rested = record.rested ∧
      (c.exchange.command? = none ∧ (c.listen record).1.record.onCommand = none ∧
          (c.listen record).2.status = c.status ∧ (c.listen record).2.axes = c.axes ∨
        ∃ command result, c.exchange.command? = some command ∧
          Obeying c.status c.axes c.calibration command result
            (c.listen record).1.record.onCommand (c.listen record).2.status
            (c.listen record).2.axes) := by
  rw [listen_eq]
  unfold Exchange.command?
  cases c.exchange.hear with
  | mk answer exchange =>
      cases answer with
      | error e => exact ⟨rfl, .inl ⟨rfl, h, rfl, rfl⟩⟩
      | ok frame? =>
          cases frame? with
          | none => exact ⟨rfl, .inl ⟨rfl, h, rfl, rfl⟩⟩
          | some frame =>
              dsimp only
              cases hframe : Command.ofFrame frame with
              | error error =>
                  obtain ⟨reply, fate, hcarry⟩ :=
                    carryOut_error hframe record { c with exchange }
                  obtain ⟨noted, failure, exchange, hkept⟩ :=
                    conclude_kept reply fate record { c with exchange }
                  rw [hcarry, hkept]
                  exact ⟨rfl, .inl ⟨rfl, h, rfl, rfl⟩⟩
              | ok command =>
                  obtain ⟨hobey, hrested⟩ := execute_obeying command record h { c with exchange }
                  rw [carryOut_command hframe]
                  generalize { c with exchange }.execute command record = executed
                    at hobey hrested ⊢
                  obtain ⟨reply, result, after, later⟩ := executed
                  obtain ⟨noted, failure, exchange, hkept⟩ :=
                    conclude_kept reply (.executed command.id result) after later
                  dsimp only
                  rw [hkept]
                  exact ⟨hrested, .inr ⟨command, result, rfl, hobey⟩⟩

/-! ## The iteration -/

omit [AxisHardware α] [SerialLine δ ε] [TemperatureSource π] in
theorem reload_kept (c : Controller δ α π σ) :
    ∃ store calibration, c.reload.2 = { c with store, calibration } := by
  unfold reload
  dsimp only
  split
  · split <;> exact ⟨_, _, rfl⟩
  · exact ⟨_, _, rfl⟩

/-- The controller when it listens: reloaded and settled. -/
def settled (c : Controller δ α π σ) : Controller δ α π σ :=
  c.reload.2.progress.2

omit [TemperatureSource π] in
theorem settled_exchange (c : Controller δ α π σ) : c.settled.exchange = c.exchange := by
  obtain ⟨store, calibration, hkept⟩ := c.reload_kept
  rw [settled, progress_exchange, hkept]

omit [SerialLine δ ε] [TemperatureSource π] in
theorem settled_settling (c : Controller δ α π σ) :
    Settling c.status c.axes c.reload.2.calibration c.reload.2.progress.1 c.settled.status
      c.settled.axes := by
  obtain ⟨store, calibration, hkept⟩ := c.reload_kept
  have hsettling := c.reload.2.progress_settling
  unfold settled
  rw [hkept] at hsettling ⊢
  exact hsettling

theorem poll_eq (c : Controller δ α π σ) : c.poll = c.settled.listen
    { PollRecord.nothing with reloaded := c.reload.1, rested := c.reload.2.progress.1 } := rfl

/-- **Settling in an iteration.** -/
theorem poll_settling (c : Controller δ α π σ) :
    Settling c.status c.axes c.reload.2.calibration c.poll.1.record.rested c.settled.status
      c.settled.axes := by
  have hrested : c.poll.1.record.rested = c.reload.2.progress.1 := by
    rw [poll_eq]
    exact (listen_obeying _ rfl c.settled).1
  rw [hrested]
  exact c.settled_settling

/-- **Obeying in an iteration.** At most one command is obeyed, and what it does is
all that happens once the status is settled. -/
theorem poll_obeying (c : Controller δ α π σ) :
    c.exchange.command? = none ∧ c.poll.1.record.onCommand = none ∧
        c.poll.2.status = c.settled.status ∧ c.poll.2.axes = c.settled.axes ∨
      ∃ command result, c.exchange.command? = some command ∧
        Obeying c.settled.status c.settled.axes c.settled.calibration command result
          c.poll.1.record.onCommand c.poll.2.status c.poll.2.axes := by
  rw [← c.settled_exchange, poll_eq]
  exact (listen_obeying _ rfl c.settled).2

/-- While no move is allowed, an iteration that obeys no stop only settles. -/
theorem poll_of_busy {c : Controller δ α π σ} (busy : c.settled.status.allowsMove = false)
    (unstopped : c.exchange.command? ≠ some .stop) :
    c.poll.2.status = c.settled.status ∧ c.poll.2.axes = c.settled.axes := by
  rcases c.poll_obeying with ⟨-, -, hstatus, haxes⟩ | ⟨command, result, hcommand, hobeying⟩
  · exact ⟨hstatus, haxes⟩
  · refine hobeying.of_busy busy fun hstop => unstopped ?_
    rw [hcommand, hstop]

end Controller

end XYStage
