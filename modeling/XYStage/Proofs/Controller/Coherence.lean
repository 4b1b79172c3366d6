/-
# XYStage.Proofs.Controller.Coherence -- what the axes do under each status

A controller runs by reacting to stimuli: iterations, events of the axes, the making
up for lost edges, and anything at all that happens to the devices under it. The
invariant of every run says what a moving axis may be doing under each status
(`Status.admits`); under `idle` and `fault` it may not move at all. Settling and
commands keep it because they change the status and start the axes together, inputs
because they start nothing (`respond_continues`).

Main statement: an axis moves only under `moving` and `homing`, and a fault holds,
with nothing started and every motion refused as busy, until the host stops
(`fault_holds_until_stop`).
-/
import XYStage.Bench.Recorder
import XYStage.Bench.Script
import XYStage.Bench.Sensors
import XYStage.Bench.Store
import XYStage.Proofs.Controller.Poll

namespace XYStage

set_option autoImplicit false

variable {δ ε α π σ : Type}

/-! ## Stimuli -/

/-- What a controller reacts to. -/
inductive Stimulus (δ α π σ : Type) where
  /-- One iteration of the control loop. -/
  | poll
  /-- An event of an axis. -/
  | event (event : InputEvent)
  /-- The making up for lost edges. -/
  | recovery (now : UInt32)
  /-- The devices under the controller are found in any other state. -/
  | outside (line : δ) (x y : α) (sensors : π) (store : σ)

namespace Axes

variable [AxisHardware α]

/-- One axis takes an input. -/
def respond (id : AxisId) (input : AxisInput α) (axes : Axes α) : Axes α :=
  axes.set id ((axes.get id).respond input).2

end Axes

namespace Controller

variable [AxisHardware α] [SerialLine δ ε] [TemperatureSource π] [SettingStore σ]

def react : Stimulus δ α π σ → Controller δ α π σ → Controller δ α π σ
  | .poll, c => c.poll.2
  | .event event, c => (c.handle event).2
  | .recovery now, c => (c.recoverEdges now).2
  | .outside line x y sensors store, c =>
      { c with
        exchange := { c.exchange with frames := { c.exchange.frames with line } }
        axes := ⟨{ c.axes.x with hardware := x }, { c.axes.y with hardware := y }⟩
        sensors
        store }

/-- React to stimuli in turn. -/
def run : List (Stimulus δ α π σ) → Controller δ α π σ → Controller δ α π σ
  | [], c => c
  | stimulus :: rest, c => (c.react stimulus).run rest

/-- The commands that the iterations of a run obey. -/
def commands : List (Stimulus δ α π σ) → Controller δ α π σ → List Command
  | [], _ => []
  | .poll :: rest, c => c.exchange.command?.toList ++ c.poll.2.commands rest
  | stimulus :: rest, c => (c.react stimulus).commands rest

theorem run_append (first second : List (Stimulus δ α π σ)) (c : Controller δ α π σ) :
    c.run (first ++ second) = (c.run first).run second := by
  induction first generalizing c with
  | nil => rfl
  | cons stimulus rest ih => exact ih (c.react stimulus)

/-- Anything but an iteration leaves the status, and does to the axes what inputs do. -/
theorem react_inputs {stimulus : Stimulus δ α π σ} (h : stimulus ≠ .poll)
    (c : Controller δ α π σ) :
    (c.react stimulus).status = c.status ∧
      ∃ inputs : List (AxisId × AxisInput α), (c.react stimulus).axes =
        inputs.foldl (fun axes input => axes.respond input.1 input.2) c.axes := by
  cases stimulus with
  | poll => exact absurd rfl h
  | event event =>
      cases event with
      | encoder id => exact ⟨rfl, [(id, .encoderEdge)], rfl⟩
      | rampTick id => exact ⟨rfl, [(id, .rampTick)], rfl⟩
      | switchEdge id switch pressed time =>
          exact ⟨rfl, [(id, .switchEdge switch pressed time)], rfl⟩
  | recovery now => exact ⟨rfl, [(.x, .recovery now), (.y, .recovery now)], rfl⟩
  | outside line x y sensors store =>
      exact ⟨rfl, [(.x, .hardware x), (.y, .hardware y)], rfl⟩

end Controller

/-! ## Coherence -/

/-- What a status lets a moving axis be doing. -/
def Status.admits : Status → AxisState → Prop
  | .moving, _ => True
  | .homing .seek, s => s.direction = .negative ∧ s.pressed.home = false
  | .homing .retract, s =>
      s.direction = .positive ∧ s.endsOnRelease = true ∧ s.pressed.home = true ∧
        s.pressed.far = false
  | .idle, _ | .fault _, _ => False

/-- Every moving axis does what the status lets it do. -/
def Coherent (status : Status) (axes : Axes α) : Prop :=
  ∀ id, (axes.get id).state.moving = true → status.admits (axes.get id).state

theorem Status.admits_continues {status : Status} {s s' : AxisState} (h : s.Continues s')
    (hs : status.admits s) : status.admits s' := by
  cases status with
  | idle => exact hs
  | fault kind => exact hs
  | moving => exact hs
  | homing phase =>
      cases phase with
      | seek =>
          obtain ⟨hdirection, hhome⟩ := hs
          have hclear := h.clear_ahead
          rw [hdirection] at hclear
          exact ⟨h.direction_eq.trans hdirection, hclear hhome⟩
      | retract =>
          obtain ⟨hdirection, hends, hhome, hfar⟩ := hs
          have hclear := h.clear_ahead
          rw [hdirection] at hclear
          exact ⟨h.direction_eq.trans hdirection, h.endsOnRelease_eq.trans hends,
            h.home_held hends hhome, hclear hfar⟩

theorem coherent_of_rest {status : Status} {axes : Axes α} (rest : axes.anyMoving = false) :
    Coherent status axes := by
  intro id hmoving
  rw [Axes.anyMoving_eq_false.mp rest id] at hmoving
  cases hmoving

/-- Under `idle` and under a fault nothing moves. -/
theorem Coherent.rest {status : Status} {axes : Axes α} (h : Coherent status axes)
    (quiet : status = .idle ∨ ∃ kind, status = .fault kind) : axes.anyMoving = false := by
  rw [Axes.anyMoving_eq_false]
  intro id
  refine Bool.eq_false_iff.mpr fun hmoving => ?_
  have hadmits := h id hmoving
  rcases quiet with rfl | ⟨kind, rfl⟩
  · exact hadmits
  · exact hadmits

variable [AxisHardware α]

theorem Coherent.respond {status : Status} {axes : Axes α} (h : Coherent status axes)
    (id : AxisId) (input : AxisInput α) : Coherent status (axes.respond id input) := by
  intro other hmoving
  unfold Axes.respond at hmoving ⊢
  by_cases hid : other = id
  · subst hid
    rw [Axes.get_set_self] at hmoving ⊢
    have hcontinues := Axis.respond_continues hmoving
    exact Status.admits_continues hcontinues (h other hcontinues.moving)
  · rw [Axes.get_set_of_ne hid] at hmoving ⊢
    exact h other hmoving

theorem Coherent.inputs {status : Status} {axes : Axes α} (h : Coherent status axes)
    (inputs : List (AxisId × AxisInput α)) :
    Coherent status (inputs.foldl (fun axes input => axes.respond input.1 input.2) axes) := by
  induction inputs generalizing axes with
  | nil => exact h
  | cons input rest ih => exact ih (h.respond input.1 input.2)

/-- After the start of a homing leg an axis moves, away from a switch that is not
pressed, or was refused. -/
theorem Axes.startLeg_cases {axes : Axes α} (rest : axes.anyMoving = false)
    (direction : Direction) (cal : Calibration) (id : AxisId) :
    ((axes.get id).state.pressed.get (.facing direction) = true ∧
        (axes.startLeg direction cal).get id = axes.get id) ∨
      ((axes.get id).state.pressed.get (.facing direction) = false ∧
        ((axes.startLeg direction cal).get id).state.moving = true ∧
        ((axes.startLeg direction cal).get id).state.direction = direction ∧
        ((axes.startLeg direction cal).get id).state.pressed = (axes.get id).state.pressed) := by
  have hrest := Axes.anyMoving_eq_false.mp rest id
  rw [Axes.get_startLeg]
  rcases Controller.start_homing_cases direction (cal.axis id) (axes.get id) with
    ⟨hrefused | hrefused, hsame⟩ | ⟨-, hclear, plan, hstate⟩
  · exact absurd (hrest.symm.trans hrefused) Bool.false_ne_true
  · exact .inl ⟨hrefused, hsame⟩
  · obtain ⟨hmoving, hdirection, hpressed⟩ :=
      AxisState.begin_eq (Controller.homingMotion direction (cal.axis id)) plan (axes.get id).state
    rw [hstate]
    exact .inr ⟨hclear, hmoving, hdirection, hpressed⟩

/-- After the start of a retraction an axis moves until its home switch releases, away
from a far switch that is not pressed, or was refused. -/
theorem Axes.retraction_cases {axes : Axes α} (rest : axes.anyMoving = false)
    (cal : Calibration) (id : AxisId) :
    let after := (((axes.startLeg .positive cal).map Axis.endOnRelease).get id).state
    ((axes.get id).state.pressed.far = true ∧ after = (axes.get id).state) ∨
      ((axes.get id).state.pressed.far = false ∧ after.moving = true ∧
        after.direction = .positive ∧ after.endsOnRelease = true ∧
        after.pressed = (axes.get id).state.pressed) := by
  intro after
  have hafter : after = ((axes.startLeg .positive cal).get id).endOnRelease.state :=
    congrArg Axis.state (Axes.get_map Axis.endOnRelease id _)
  rw [Axis.endOnRelease_state] at hafter
  rcases Axes.startLeg_cases rest .positive cal id with
    ⟨hfar, hsame⟩ | ⟨hfar, hmoving, hdirection, hpressed⟩
  · have hrest := Axes.anyMoving_eq_false.mp rest id
    rw [hsame, hrest] at hafter
    exact .inl ⟨hfar, hafter⟩
  · rw [if_pos hmoving] at hafter
    rw [hafter]
    exact .inr ⟨hfar, hmoving, hdirection, rfl, hpressed⟩

theorem Coherent.settling {status after : Status} {axes later : Axes α} {cal : Calibration}
    {change : Option StatusChange} (h : Coherent status axes)
    (settling : Controller.Settling status axes cal change after later) :
    Coherent after later := by
  cases settling with
  | moving _ => exact h
  | settled _ _ => exact h
  | moved rest _ _ => exact coherent_of_rest rest
  | blocked rest _ _ => exact coherent_of_rest rest
  | lost rest _ => exact coherent_of_rest rest
  | homed rest _ _ =>
      refine coherent_of_rest (Axes.anyMoving_eq_false.mpr fun id => ?_)
      rw [Axes.get_map]
      rfl
  | found rest _ home =>
      intro id hmoving
      rcases Axes.retraction_cases rest cal id with
        ⟨-, hsame⟩ | ⟨hfar, -, hdirection, hends, hpressed⟩
      · rw [hsame, Axes.anyMoving_eq_false.mp rest id] at hmoving
        cases hmoving
      · refine ⟨hdirection, hends, ?_, ?_⟩
        · rw [hpressed]
          exact Axes.allHome_eq_true.mp home id
        · rw [hpressed]
          exact hfar

theorem Coherent.obeying {status after : Status} {axes later : Axes α} {cal : Calibration}
    {command : Command} {result : Option ResultCode} {change : Option StatusChange}
    (h : Coherent status axes)
    (obeying : Controller.Obeying status axes cal command result change after later) :
    Coherent after later := by
  cases obeying with
  | homeBusy _ => exact h
  | moveBusy _ _ => exact h
  | moveRefused _ _ _ => exact h
  | other _ _ => exact h
  | stop => exact coherent_of_rest axes.anyMoving_halt
  | move _ _ _ => exact fun _ _ => trivial
  | home idle =>
      -- Nothing moves under `idle`, so every refusal is for the home switch.
      have rest := h.rest (.inl idle)
      intro id hmoving
      rcases Axes.startLeg_cases rest .negative cal id with
        ⟨-, hsame⟩ | ⟨hclear, -, hdirection, hpressed⟩
      · rw [hsame, Axes.anyMoving_eq_false.mp rest id] at hmoving
        cases hmoving
      · refine ⟨hdirection, ?_⟩
        rw [hpressed]
        exact hclear

/-! ## Runs -/

namespace Controller

variable [SettingStore σ]

theorem settled_coherent {c : Controller δ α π σ} (h : Coherent c.status c.axes) :
    Coherent c.settled.status c.settled.axes :=
  h.settling c.settled_settling

variable [SerialLine δ ε] [TemperatureSource π]

theorem poll_coherent {c : Controller δ α π σ} (h : Coherent c.status c.axes) :
    Coherent c.poll.2.status c.poll.2.axes := by
  have hsettled := settled_coherent h
  rcases c.poll_obeying with ⟨-, -, hstatus, haxes⟩ | ⟨command, result, -, hobeying⟩
  · rw [hstatus, haxes]
    exact hsettled
  · exact hsettled.obeying hobeying

/-- **One stimulus.** -/
theorem react_coherent {c : Controller δ α π σ} (h : Coherent c.status c.axes)
    (stimulus : Stimulus δ α π σ) :
    Coherent (c.react stimulus).status (c.react stimulus).axes := by
  by_cases hpoll : stimulus = .poll
  · subst hpoll
    exact poll_coherent h
  · obtain ⟨hstatus, inputs, haxes⟩ := react_inputs hpoll c
    rw [hstatus, haxes]
    exact h.inputs inputs

theorem run_coherent {c : Controller δ α π σ} (h : Coherent c.status c.axes)
    (stimuli : List (Stimulus δ α π σ)) : Coherent (c.run stimuli).status (c.run stimuli).axes := by
  induction stimuli generalizing c with
  | nil => exact h
  | cons stimulus rest ih => exact ih (react_coherent h stimulus)

/-! ## Faults -/

omit [SerialLine δ ε] [TemperatureSource π] in
/-- A fault is not settled. -/
theorem settled_of_fault {c : Controller δ α π σ} {kind : Fault} (h : c.status = .fault kind) :
    c.reload.2.progress = (none, c.reload.2) := by
  obtain ⟨store, calibration, hkept⟩ := c.reload_kept
  have hstatus : c.reload.2.status = .fault kind := by
    rw [hkept]
    exact h
  cases rest : c.reload.2.axes.anyMoving with
  | true => exact if_pos rest
  | false =>
      refine progress_unchanged rest ?_
      rw [hstatus]
      rfl

/-- In a fault only a stop does anything to the status and the axes. -/
theorem poll_of_fault {c : Controller δ α π σ} {kind : Fault} (h : c.status = .fault kind)
    (unstopped : c.exchange.command? ≠ some .stop) :
    c.poll.2.status = .fault kind ∧ c.poll.2.axes = c.axes := by
  obtain ⟨store, calibration, hkept⟩ := c.reload_kept
  have hsettled : c.settled = { c with store, calibration } := by
    rw [settled, settled_of_fault h, hkept]
  have hbusy : c.settled.status.allowsMove = false := by
    rw [hsettled, h]
    rfl
  obtain ⟨hstatus, haxes⟩ := poll_of_busy hbusy unstopped
  rw [hstatus, haxes, hsettled]
  exact ⟨h, rfl⟩

/-- A motion asked for in a fault is answered as busy. -/
theorem poll_of_fault_busy {c : Controller δ α π σ} {kind : Fault} (h : c.status = .fault kind)
    {command : Command} (hcommand : c.exchange.command? = some command)
    (hmotion : command = .home ∨ ∃ request, command = .move request) :
    c.poll = { c.reload.2 with exchange := c.exchange.hear.2 }.conclude
      (some (.axisResult .busy)) (.executed command.id (some .busy))
      { PollRecord.nothing with reloaded := c.reload.1 } := by
  obtain ⟨store, calibration, hkept⟩ := c.reload_kept
  obtain ⟨frame, hhear, hframe⟩ := Exchange.command?_eq_some hcommand
  have hexchange : c.reload.2.exchange.hear = (.ok (some frame), c.exchange.hear.2) := by
    rw [hkept, ← hhear]
  have hstatus : c.reload.2.status = .fault kind := by
    rw [hkept]
    exact h
  rw [poll_eq, settled, settled_of_fault h, listen_eq, hexchange]
  dsimp only
  rw [carryOut_command hframe]
  rcases hmotion with rfl | ⟨request, rfl⟩
  · simp only [execute]
    rw [home_busy]
    · rfl
    · rw [hstatus]
      intro hidle
      cases hidle
  · simp only [execute]
    rw [move_busy]
    · rfl
    · rw [hstatus]
      rfl

/-- A stop leaves both axes at rest, whatever the status was. -/
theorem poll_of_stop {c : Controller δ α π σ} (h : c.exchange.command? = some .stop) :
    c.poll.2.status = .idle ∧ c.poll.2.axes.anyMoving = false := by
  rcases c.poll_obeying with ⟨hnone, -⟩ | ⟨command, result, hcommand, hobeying⟩
  · rw [h] at hnone
    cases hnone
  · rw [h] at hcommand
    cases hcommand
    generalize c.poll.1.record.onCommand = change at hobeying
    generalize c.poll.2.status = status, c.poll.2.axes = axes at hobeying ⊢
    cases hobeying with
    | stop => exact ⟨rfl, Axes.anyMoving_halt _⟩
    | other hsteers _ => cases hsteers

theorem commands_of_ne {stimulus : Stimulus δ α π σ} (h : stimulus ≠ .poll)
    (rest : List (Stimulus δ α π σ)) (c : Controller δ α π σ) :
    c.commands (stimulus :: rest) = (c.react stimulus).commands rest := by
  cases stimulus with
  | poll => exact absurd rfl h
  | event event => rfl
  | recovery now => rfl
  | outside line x y sensors store => rfl

/-- Without a stop a fault stays. -/
theorem run_of_fault {c : Controller δ α π σ} {kind : Fault} (h : c.status = .fault kind)
    {stimuli : List (Stimulus δ α π σ)} (unstopped : .stop ∉ c.commands stimuli) :
    (c.run stimuli).status = .fault kind := by
  induction stimuli generalizing c with
  | nil => exact h
  | cons stimulus rest ih =>
      by_cases hpoll : stimulus = .poll
      · subst hpoll
        rw [commands, List.mem_append, not_or, Option.mem_toList] at unstopped
        exact ih (poll_of_fault h unstopped.1).1 unstopped.2
      · rw [commands_of_ne hpoll] at unstopped
        exact ih ((react_inputs hpoll c).1.trans h) unstopped

/-- **Motion and faults.** In every run of a controller that begins with both axes at
rest, an axis moves only under `moving` and `homing`. A fault stays as long as no stop
is obeyed: no axis moves, an iteration does nothing to the axes, and it answers a
request to home or to move as busy. The stop leaves both axes at rest, and the status
idle. -/
theorem fault_holds_until_stop {axes : Axes α} (rest : axes.anyMoving = false)
    (exchange : Exchange δ) (sensors : π) (store : σ) (stimuli : List (Stimulus δ α π σ)) :
    let c := (Controller.new exchange axes sensors store).run stimuli
    (c.axes.anyMoving = true → c.status = .moving ∨ ∃ phase, c.status = .homing phase) ∧
      ∀ kind, c.status = .fault kind → ∀ later, .stop ∉ c.commands later →
        let d := c.run later
        d.status = .fault kind ∧ d.axes.anyMoving = false ∧
          (d.exchange.command? ≠ some .stop →
            d.poll.2.status = .fault kind ∧ d.poll.2.axes = d.axes) ∧
          (∀ command, d.exchange.command? = some command →
            command = .home ∨ (∃ request, command = .move request) →
            d.poll = { d.reload.2 with exchange := d.exchange.hear.2 }.conclude
              (some (.axisResult .busy)) (.executed command.id (some .busy))
              { PollRecord.nothing with reloaded := d.reload.1 }) ∧
          (d.exchange.command? = some .stop →
            d.poll.2.status = .idle ∧ d.poll.2.axes.anyMoving = false) := by
  intro c
  have hcoherent : Coherent c.status c.axes := run_coherent (coherent_of_rest rest) stimuli
  refine ⟨fun hmoving => ?_, fun kind hkind later unstopped => ?_⟩
  · cases hstatus : c.status with
    | moving => exact .inl rfl
    | homing phase => exact .inr ⟨phase, rfl⟩
    | idle =>
        have hrest := hcoherent.rest (.inl hstatus)
        rw [hmoving] at hrest
        cases hrest
    | fault kind =>
        have hrest := hcoherent.rest (.inr ⟨kind, hstatus⟩)
        rw [hmoving] at hrest
        cases hrest
  · intro d
    have hfault : d.status = .fault kind := run_of_fault hkind unstopped
    have hlater : Coherent d.status d.axes := run_coherent hcoherent later
    refine ⟨hfault, hlater.rest (.inr ⟨kind, hfault⟩), poll_of_fault hfault, ?_, poll_of_stop⟩
    intro command hcommand hmotion
    exact poll_of_fault_busy hfault hcommand hmotion

end Controller

/-! ## A fault on the bench -/

/-- A line with the frames of commands waiting on it. -/
def Script.carrying (commands : List Command) : Script :=
  { Script.idle with received := commands.flatMap fun command => command.toFrame.encode }

/-- A controller whose move of one count has ended while the far switch of Y is
pressed. -/
def faulted : Controller Script Recorder BenchSensors BenchStore :=
  (Controller.new
    (.new (.carrying [.move ⟨10, 50, 1, .x, .positive⟩, .ping .empty, .home, .stop]))
    (.new (.new ⟨false, false⟩) (.new ⟨false, true⟩)) ⟨[], []⟩ (.filled 32 [])).run
      [.poll, .event (.encoder .x), .poll]

theorem faulted_until_stop :
    faulted.status = .fault .unexpectedLimit ∧ faulted.commands [.poll] = [.home] ∧
      (faulted.run [.poll]).status = .fault .unexpectedLimit ∧
      (faulted.run [.poll]).axes.anyMoving = false ∧
      (faulted.run [.poll]).poll.2.status = .idle := by
  have hkind : faulted.status = .fault .unexpectedLimit := by decide +kernel
  have hcommands : faulted.commands [.poll] = [.home] := by decide +kernel
  have hunstopped : Command.stop ∉ faulted.commands [.poll] := by
    rw [hcommands]
    decide
  have hstop : (faulted.run [.poll]).exchange.command? = some .stop := by decide +kernel
  have hrest : (Axes.new (Recorder.new ⟨false, false⟩) (.new ⟨false, true⟩)).anyMoving = false :=
    rfl
  obtain ⟨-, hholds⟩ := Controller.fault_holds_until_stop hrest
    (.new (Script.carrying [.move ⟨10, 50, 1, .x, .positive⟩, .ping .empty, .home, .stop]))
    (⟨[], []⟩ : BenchSensors) (BenchStore.filled 32 []) [.poll, .event (.encoder .x), .poll]
  obtain ⟨hfault, hstill, -, -, hstopped⟩ := hholds _ hkind [.poll] hunstopped
  exact ⟨hkind, hcommands, hfault, hstill, (hstopped hstop).1⟩

end XYStage
