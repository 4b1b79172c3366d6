/-
# XYStage.Proofs.Controller.Homing -- the two phases of homing

What moves in a phase moves as the phase has it (`Status.admits`), and a phase is
entered in one way only: seeking by an accepted request to home, retracting by
settling with both home switches pressed. A run that is in a phase therefore splits
at the iteration that entered it (`exists_entry`), and a run that is about to leave
the retraction splits twice.

Main statement: `homing_sequence`, for every state of every run.
-/
import XYStage.Proofs.Controller.Coherence

namespace XYStage

set_option autoImplicit false

variable {δ ε α π σ : Type} [AxisHardware α]

namespace Controller

/-! ## Into and out of a phase -/

section Changes

variable {status after : Status} {axes later : Axes α} {cal : Calibration}
  {change : Option StatusChange} {command : Command} {result : Option ResultCode}

theorem Settling.into_seek (h : Settling status axes cal change after later)
    (hafter : after = .homing .seek) : status = .homing .seek := by
  cases h with
  | moving _ => exact hafter
  | settled _ _ => exact hafter
  | moved _ _ _ => cases hafter
  | blocked _ _ _ => cases hafter
  | found _ _ _ => cases hafter
  | homed _ _ _ => cases hafter
  | lost _ _ => cases hafter

/-- Settling enters the retraction from a seek that found both switches. -/
theorem Settling.into_retract (h : Settling status axes cal change after later)
    (hafter : after = .homing .retract) :
    status = .homing .retract ∨ change = some ⟨.homing .seek, .homing .retract⟩ := by
  cases h with
  | moving _ => exact .inl hafter
  | settled _ _ => exact .inl hafter
  | moved _ _ _ => cases hafter
  | blocked _ _ _ => cases hafter
  | found _ _ _ => exact .inr rfl
  | homed _ _ _ => cases hafter
  | lost _ _ => cases hafter

theorem Settling.of_found (h : Settling status axes cal change after later)
    (hchange : change = some ⟨.homing .seek, .homing .retract⟩) :
    status = .homing .seek ∧ axes.anyMoving = false ∧ axes.limits.allHome = true ∧
      after = .homing .retract ∧
      later = (axes.startLeg .positive cal).map Axis.endOnRelease := by
  cases h with
  | moving _ => cases hchange
  | settled _ _ => cases hchange
  | moved _ _ _ => cases hchange
  | blocked _ _ _ => cases hchange
  | found rest h home => exact ⟨h, rest, home, rfl, rfl⟩
  | homed _ _ _ => cases hchange
  | lost _ _ => cases hchange

theorem Settling.of_homed (h : Settling status axes cal change after later)
    (hchange : change = some ⟨.homing .retract, .idle⟩) :
    status = .homing .retract ∧ axes.anyMoving = false ∧ axes.limits.anyHome = false ∧
      after = .idle ∧ later = axes.map Axis.reset := by
  cases h with
  | moving _ => cases hchange
  | settled _ _ => cases hchange
  | moved _ _ _ => cases hchange
  | blocked _ _ _ => cases hchange
  | found _ _ _ => cases hchange
  | homed rest h clear => exact ⟨h, rest, clear, rfl, rfl⟩
  | lost _ _ => cases hchange

/-- Only an accepted request to home enters the seek. -/
theorem Obeying.into_seek (h : Obeying status axes cal command result change after later)
    (hafter : after = .homing .seek) :
    status = .homing .seek ∨ change = some ⟨.idle, .homing .seek⟩ := by
  cases h with
  | stop => cases hafter
  | home _ => exact .inr rfl
  | move _ _ _ => cases hafter
  | homeBusy _ => exact .inl hafter
  | moveBusy _ _ => exact .inl hafter
  | moveRefused _ _ _ => exact .inl hafter
  | other _ _ => exact .inl hafter

theorem Obeying.into_retract (h : Obeying status axes cal command result change after later)
    (hafter : after = .homing .retract) : status = .homing .retract := by
  cases h with
  | stop => cases hafter
  | home _ => cases hafter
  | move _ _ _ => cases hafter
  | homeBusy _ => exact hafter
  | moveBusy _ _ => exact hafter
  | moveRefused _ _ _ => exact hafter
  | other _ _ => exact hafter

theorem Obeying.of_home (h : Obeying status axes cal command result change after later)
    (hchange : change = some ⟨.idle, .homing .seek⟩) :
    command = .home ∧ status = .idle ∧ after = .homing .seek ∧
      later = axes.startLeg .negative cal := by
  cases h with
  | stop => cases StatusChange.between_eq_some hchange
  | home idle => exact ⟨rfl, idle, rfl, rfl⟩
  | move _ _ _ => cases StatusChange.between_eq_some hchange
  | homeBusy _ => cases hchange
  | moveBusy _ _ => cases hchange
  | moveRefused _ _ _ => cases hchange
  | other _ _ => cases hchange

end Changes

variable [SerialLine δ ε] [TemperatureSource π] [SettingStore σ]

theorem poll_into_seek {c : Controller δ α π σ} (before : c.status ≠ .homing .seek)
    (after : c.poll.2.status = .homing .seek) :
    c.poll.1.record.onCommand = some ⟨.idle, .homing .seek⟩ := by
  have hsettled : c.settled.status ≠ .homing .seek := fun h =>
    before (c.poll_settling.into_seek h)
  rcases c.poll_obeying with ⟨-, -, hstatus, -⟩ | ⟨command, result, -, hobeying⟩
  · exact absurd (hstatus.symm.trans after) hsettled
  · rcases hobeying.into_seek after with hsame | hchange
    · exact absurd hsame hsettled
    · exact hchange

theorem poll_into_retract {c : Controller δ α π σ} (before : c.status ≠ .homing .retract)
    (after : c.poll.2.status = .homing .retract) :
    c.poll.1.record.rested = some ⟨.homing .seek, .homing .retract⟩ := by
  have hsettled : c.settled.status = .homing .retract := by
    rcases c.poll_obeying with ⟨-, -, hstatus, -⟩ | ⟨command, result, -, hobeying⟩
    · exact hstatus.symm.trans after
    · exact hobeying.into_retract after
  rcases c.poll_settling.into_retract hsettled with hsame | hchange
  · exact absurd hsame before
  · exact hchange

/-- An accepted request to home starts every axis that is not at its home switch. -/
theorem poll_home_accepted {c : Controller δ α π σ} (coherent : Coherent c.status c.axes)
    (h : c.poll.1.record.onCommand = some ⟨.idle, .homing .seek⟩) :
    c.exchange.command? = some .home ∧ c.poll.2.status = .homing .seek ∧
      ∀ id, (c.poll.2.axes.get id).state.moving = true ∨
        (c.poll.2.axes.get id).state.pressed.home = true := by
  rcases c.poll_obeying with ⟨-, hnone, -⟩ | ⟨command, result, hcommand, hobeying⟩
  · rw [h] at hnone
    cases hnone
  · obtain ⟨rfl, hidle, hseek, haxes⟩ := hobeying.of_home h
    refine ⟨hcommand, hseek, fun id => ?_⟩
    have rest := (settled_coherent coherent).rest (.inl hidle)
    rw [haxes]
    rcases Axes.startLeg_cases rest .negative c.settled.calibration id with
      ⟨hhome, hsame⟩ | ⟨-, hmoving, -⟩
    · rw [hsame]
      exact .inr hhome
    · exact .inl hmoving

/-- Entering the retraction starts every axis that is not at its far switch. -/
theorem settled_found {c : Controller δ α π σ}
    (h : c.poll.1.record.rested = some ⟨.homing .seek, .homing .retract⟩) :
    c.settled.status = .homing .retract ∧
      ∀ id, (c.settled.axes.get id).state.moving = true ∨
        (c.settled.axes.get id).state.pressed.far = true := by
  obtain ⟨-, rest, -, hstatus, haxes⟩ := c.poll_settling.of_found h
  refine ⟨hstatus, fun id => ?_⟩
  rw [haxes]
  rcases Axes.retraction_cases rest c.reload.2.calibration id with
    ⟨hfar, hsame⟩ | ⟨-, hmoving, -⟩
  · rw [hsame]
    exact .inr hfar
  · exact .inl hmoving

/-- Leaving the retraction for `idle` takes the present positions as zero. -/
theorem settled_homed {c : Controller δ α π σ}
    (h : c.poll.1.record.rested = some ⟨.homing .retract, .idle⟩) :
    c.settled.status = .idle ∧
      ∀ id, (c.settled.axes.get id).state.moving = false ∧
        (c.settled.axes.get id).state.position = 0 ∧
        (c.settled.axes.get id).state.target = 0 := by
  obtain ⟨-, -, -, hstatus, haxes⟩ := c.poll_settling.of_homed h
  refine ⟨hstatus, fun id => ?_⟩
  rw [haxes, Axes.get_map, Axis.reset_state]
  exact ⟨rfl, rfl, rfl⟩

/-! ## Phases of a run -/

/-- Whether the status is the same throughout a run. -/
def Stays (status : Status) : List (Stimulus δ α π σ) → Controller δ α π σ → Prop
  | [], c => c.status = status
  | stimulus :: rest, c => c.status = status ∧ Stays status rest (c.react stimulus)

theorem Stays.head {status : Status} {stimuli : List (Stimulus δ α π σ)} {c : Controller δ α π σ}
    (h : Stays status stimuli c) : c.status = status := by
  cases stimuli with
  | nil => exact h
  | cons stimulus rest => exact h.1

/-- A run that ends in a status has had it all along or has entered it, for the last
time, with an iteration. -/
theorem exists_entry {status : Status} {stimuli : List (Stimulus δ α π σ)}
    {c : Controller δ α π σ} (h : (c.run stimuli).status = status) :
    Stays status stimuli c ∨
      ∃ earlier later, stimuli = earlier ++ .poll :: later ∧
        (c.run earlier).status ≠ status ∧ Stays status later (c.run earlier).poll.2 := by
  -- The rest of the run is looked at first, so that the entry found is the last.
  induction stimuli generalizing c with
  | nil => exact .inl h
  | cons stimulus rest ih =>
      rcases ih h with hstays | ⟨earlier, later, hsplit, hbefore, hstays⟩
      · by_cases hstatus : c.status = status
        · exact .inl ⟨hstatus, hstays⟩
        · by_cases hpoll : stimulus = .poll
          · subst hpoll
            exact .inr ⟨[], rest, rfl, hstatus, hstays⟩
          · have hsame := (react_inputs hpoll c).1
            exact absurd (hsame.symm.trans hstays.head) hstatus
      · rw [hsplit]
        exact .inr ⟨stimulus :: earlier, later, rfl, hbefore, hstays⟩

/-- A run that ends seeking has had its request to home accepted. -/
theorem exists_home_accepted {stimuli : List (Stimulus δ α π σ)} {c : Controller δ α π σ}
    (begins : c.status = .idle) (h : (c.run stimuli).status = .homing .seek) :
    ∃ earlier between, stimuli = earlier ++ .poll :: between ∧
      (c.run earlier).poll.1.record.onCommand = some ⟨.idle, .homing .seek⟩ ∧
      Stays (.homing .seek) between (c.run earlier).poll.2 := by
  rcases exists_entry h with hstays | ⟨earlier, between, hsplit, hbefore, hstays⟩
  · cases begins.symm.trans hstays.head
  · exact ⟨earlier, between, hsplit, poll_into_seek hbefore hstays.head, hstays⟩

/-- A run that ends retracting has settled with both home switches pressed. -/
theorem exists_found {stimuli : List (Stimulus δ α π σ)} {c : Controller δ α π σ}
    (begins : c.status = .idle) (h : (c.run stimuli).status = .homing .retract) :
    ∃ earlier later, stimuli = earlier ++ .poll :: later ∧
      (c.run earlier).poll.1.record.rested = some ⟨.homing .seek, .homing .retract⟩ ∧
      Stays (.homing .retract) later (c.run earlier).poll.2 := by
  rcases exists_entry h with hstays | ⟨earlier, later, hsplit, hbefore, hstays⟩
  · cases begins.symm.trans hstays.head
  · exact ⟨earlier, later, hsplit, poll_into_retract hbefore hstays.head, hstays⟩

/-- A run that ends retracting: the request to home, the seek until both home switches
were found, and the retraction so far. -/
theorem exists_homing {stimuli : List (Stimulus δ α π σ)} {c : Controller δ α π σ}
    (begins : c.status = .idle) (h : (c.run stimuli).status = .homing .retract) :
    ∃ earlier between later, stimuli = earlier ++ .poll :: between ++ .poll :: later ∧
      (c.run earlier).poll.1.record.onCommand = some ⟨.idle, .homing .seek⟩ ∧
      Stays (.homing .seek) between (c.run earlier).poll.2 ∧
      ((c.run earlier).poll.2.run between).poll.1.record.rested =
        some ⟨.homing .seek, .homing .retract⟩ ∧
      Stays (.homing .retract) later ((c.run earlier).poll.2.run between).poll.2 := by
  obtain ⟨before, later, hsplit, hfound, hretracting⟩ := exists_found begins h
  obtain ⟨hseek, -⟩ := (c.run before).poll_settling.of_found hfound
  obtain ⟨earlier, between, rfl, haccepted, hseeking⟩ := exists_home_accepted begins hseek
  rw [run_append] at hfound hretracting
  exact ⟨earlier, between, later, hsplit, haccepted, hseeking, hfound, hretracting⟩

/-- **Homing.** In every run of a controller that begins with both axes at rest: while
it seeks, an axis moves only toward a home switch that is not pressed, and once a
request to home is accepted each axis moves or is at its home switch. While it
retracts, an axis moves only away from a pressed home switch, to stop on its release,
and each axis has been started unless it is at its far switch. Homing ends well only
with both axes at rest off their home switches, after a seek that found both, and
makes the positions zero. -/
theorem homing_sequence {axes : Axes α} (rest : axes.anyMoving = false)
    (exchange : Exchange δ) (sensors : π) (store : σ) (stimuli : List (Stimulus δ α π σ)) :
    let start := Controller.new exchange axes sensors store
    let c := start.run stimuli
    (c.status = .homing .seek → ∀ id, (c.axes.get id).state.moving = true →
      (c.axes.get id).state.direction = .negative ∧
      (c.axes.get id).state.pressed.home = false) ∧
    (c.poll.1.record.onCommand = some ⟨.idle, .homing .seek⟩ →
      c.exchange.command? = some .home ∧ c.poll.2.status = .homing .seek ∧
      ∀ id, (c.poll.2.axes.get id).state.moving = true ∨
        (c.poll.2.axes.get id).state.pressed.home = true) ∧
    (c.status = .homing .retract → ∀ id, (c.axes.get id).state.moving = true →
      (c.axes.get id).state.direction = .positive ∧
      (c.axes.get id).state.endsOnRelease = true ∧
      (c.axes.get id).state.pressed.home = true ∧
      (c.axes.get id).state.pressed.far = false) ∧
    (c.poll.1.record.rested = some ⟨.homing .seek, .homing .retract⟩ →
      c.settled.status = .homing .retract ∧
      (∀ id, (c.settled.axes.get id).state.moving = true ∨
        (c.settled.axes.get id).state.pressed.far = true) ∧
      (c.exchange.command? ≠ some .stop →
        c.poll.2.status = .homing .retract ∧ c.poll.2.axes = c.settled.axes)) ∧
    (c.poll.1.record.rested = some ⟨.homing .retract, .idle⟩ →
      c.axes.anyMoving = false ∧ (∀ id, (c.axes.get id).state.pressed.home = false) ∧
      c.settled.status = .idle ∧
      (∀ id, (c.settled.axes.get id).state.moving = false ∧
        (c.settled.axes.get id).state.position = 0 ∧
        (c.settled.axes.get id).state.target = 0) ∧
      ∃ earlier between later, stimuli = earlier ++ .poll :: between ++ .poll :: later ∧
        let accepting := start.run earlier
        let finding := accepting.poll.2.run between
        accepting.poll.1.record.onCommand = some ⟨.idle, .homing .seek⟩ ∧
        Stays (.homing .seek) between accepting.poll.2 ∧
        finding.poll.1.record.rested = some ⟨.homing .seek, .homing .retract⟩ ∧
        finding.axes.anyMoving = false ∧
        (∀ id, (finding.axes.get id).state.pressed.home = true) ∧
        Stays (.homing .retract) later finding.poll.2) := by
  intro start c
  have hcoherent : Coherent c.status c.axes := run_coherent (coherent_of_rest rest) stimuli
  refine ⟨fun hseek id hmoving => ?_, poll_home_accepted hcoherent,
    fun hretract id hmoving => ?_, fun hfound => ?_, fun hhomed => ?_⟩
  · have hadmits := hcoherent id hmoving
    rw [hseek] at hadmits
    exact hadmits
  · have hadmits := hcoherent id hmoving
    rw [hretract] at hadmits
    exact hadmits
  · obtain ⟨hstatus, hstarted⟩ := settled_found hfound
    refine ⟨hstatus, hstarted, fun unstopped => ?_⟩
    obtain ⟨hkept, haxes⟩ := poll_of_busy (by rw [hstatus]; rfl) unstopped
    exact ⟨hkept.trans hstatus, haxes⟩
  · obtain ⟨hretract, hrest, hclear, -⟩ := c.poll_settling.of_homed hhomed
    obtain ⟨hidle, hzero⟩ := settled_homed hhomed
    obtain ⟨earlier, between, later, hsplit, haccepted, hseeking, hfound, hretracting⟩ :=
      exists_homing (c := start) rfl hretract
    obtain ⟨-, hfoundRest, hfoundHome, -⟩ := Settling.of_found (poll_settling _) hfound
    exact ⟨hrest, Axes.anyHome_eq_false.mp hclear, hidle, hzero, earlier, between, later, hsplit,
      haccepted, hseeking, hfound, hfoundRest, Axes.allHome_eq_true.mp hfoundHome, hretracting⟩

end Controller

/-! ## Homing on the bench -/

/-- Both axes find their home switches and leave them again. -/
def homingRun : List (Stimulus Script Recorder BenchSensors BenchStore) :=
  [.poll, .event (.switchEdge .y .home true 10), .event (.encoder .x),
    .event (.switchEdge .x .home true 20), .poll, .event (.switchEdge .x .home false 30),
    .event (.encoder .y), .event (.switchEdge .y .home false 40)]

/-- A controller after that run, which begins with a request to home. -/
def retracted : Controller Script Recorder BenchSensors BenchStore :=
  (Controller.new (.new (.carrying [.home])) (.new (.new ⟨false, false⟩) (.new ⟨false, false⟩))
    ⟨[], []⟩ (.filled 32 [])).run homingRun

theorem retracted_homes :
    retracted.poll.1.record.rested = some ⟨.homing .retract, .idle⟩ ∧
      retracted.settled.status = .idle ∧
      ∀ id, (retracted.settled.axes.get id).state.moving = false ∧
        (retracted.settled.axes.get id).state.position = 0 := by
  have hhomed : retracted.poll.1.record.rested = some ⟨.homing .retract, .idle⟩ := by
    decide +kernel
  have hrest : (Axes.new (Recorder.new ⟨false, false⟩) (.new ⟨false, false⟩)).anyMoving = false :=
    rfl
  obtain ⟨-, -, -, -, hends⟩ := Controller.homing_sequence hrest (.new (Script.carrying [.home]))
    (⟨[], []⟩ : BenchSensors) (BenchStore.filled 32 []) homingRun
  obtain ⟨-, -, hidle, hzero, -⟩ := hends hhomed
  refine ⟨hhomed, hidle, fun id => ?_⟩
  obtain ⟨hmoving, hposition, -⟩ := hzero id
  exact ⟨hmoving, hposition⟩

end XYStage
