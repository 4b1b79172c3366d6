/-
# XYStage.Proofs.Motion.Guard -- no motion toward a pressed switch

`Operated` is the run of one axis: operations in any order, with anything happening
to the hardware in between. The invariant of every run is `AxisState.Guarded`: the
switch ahead of a motion is clear, and only a motion waits for the home switch to be
released. Every operation either starts a motion, past a check of the switch ahead,
or goes on with the one there is (`AxisState.Continues`), or ends it together with
its wait (`AxisState.Persists`).

Main statement: `never_toward_pressed_switch`.
-/
import XYStage.Bench.Recorder
import XYStage.Proofs.Motion.Passage

namespace XYStage

set_option autoImplicit false

/-! ## Runs of operations -/

/-- What can be done with an axis once it is there. -/
inductive AxisOperation where
  | start (motion : Motion)
  | encoderEdge
  | rampTick
  | switchEdge (switch : LimitSwitch) (pressed : Bool) (time : UInt32)
  | recovery (time : UInt32)
  | endOnRelease
  | stop
  | reset

namespace Axis

variable {α : Type} [AxisHardware α]

def operate : AxisOperation → Axis α → Axis α
  | .start motion, a => (a.start motion).2
  | .encoderEdge, a => a.encoderEdge.2
  | .rampTick, a => a.rampTick
  | .switchEdge switch pressed time, a => (a.switchEdge switch pressed time).2
  | .recovery time, a => (a.recoverEdges time).2
  | .endOnRelease, a => a.endOnRelease
  | .stop, a => a.stop
  | .reset, a => a.reset

/-- The motion that an operation starts, if it does. -/
def accepted : AxisOperation → Axis α → List Motion
  | .start motion, a =>
      match (a.start motion).1 with
      | .ok () => [motion]
      | .error _ => []
  | _, _ => []

end Axis

/-- An axis that was `first` and has been operated on since, with the motions it has
accepted, the last one first. Between operations its hardware changes as `drift` has
it. -/
inductive Operated {α : Type} [AxisHardware α] (drift : α → α → Prop) (first : Axis α) :
    Axis α → List Motion → Prop where
  | begun : Operated drift first first []
  | operate {a : Axis α} {motions : List Motion} (before : Operated drift first a motions)
      (operation : AxisOperation) :
      Operated drift first (a.operate operation) (a.accepted operation ++ motions)
  | drift {a : Axis α} {motions : List Motion} (before : Operated drift first a motions)
      {hardware : α} (changed : drift a.hardware hardware) :
      Operated drift first { a with hardware } motions

/-! ## One operation -/

namespace AxisState

/-- The switch ahead of a motion is clear, and only a motion waits for a release. -/
structure Guarded (s : AxisState) : Prop where
  clear_ahead : s.moving = true → s.pressed.get (.facing s.direction) = false
  waits_moving : s.endsOnRelease = true → s.moving = true

/-- A motion and its wait for a release go on, or end together. -/
def Persists (s s' : AxisState) : Prop :=
  s'.moving = s.moving ∧ s'.endsOnRelease = s.endsOnRelease ∨
    s'.moving = false ∧ s'.endsOnRelease = false

theorem Persists.trans {s s' s'' : AxisState} (first : Persists s s')
    (second : Persists s' s'') : Persists s s'' := by
  rcases second with ⟨hmoving, hends⟩ | hover
  · rcases first with ⟨hmoving', hends'⟩ | ⟨hrest, hover⟩
    · exact .inl ⟨hmoving.trans hmoving', hends.trans hends'⟩
    · exact .inr ⟨hmoving.trans hrest, hends.trans hover⟩
  · exact .inr hover

theorem persists_halted (s s' : AxisState) : Persists s s'.halted :=
  .inr ⟨rfl, rfl⟩

theorem guarded_of_rest {s : AxisState} (rest : s.moving = false)
    (disarmed : s.endsOnRelease = false) : s.Guarded where
  clear_ahead hmoving := by
    rw [rest] at hmoving
    cases hmoving
  waits_moving hends := by
    rw [disarmed] at hends
    cases hends

/-- What persists, and continues as long as it moves, stays guarded. -/
theorem Guarded.persists {s s' : AxisState} (h : s.Guarded) (persists : s.Persists s')
    (continues : s'.moving = true → s.Continues s') : s'.Guarded := by
  constructor
  · intro hmoving
    have hsame := continues hmoving
    rw [hsame.direction_eq]
    exact hsame.clear_ahead (h.clear_ahead hsame.moving)
  · intro hends
    rcases persists with ⟨hmoving, hends'⟩ | ⟨-, hover⟩
    · rw [hmoving]
      apply h.waits_moving
      rw [← hends']
      exact hends
    · rw [hover] at hends
      cases hends

/-- So does a motion that begins with its switch ahead clear. -/
theorem guarded_begin {s : AxisState} {motion : Motion} (plan : Trapezoid)
    (clear : s.pressed.get (.facing motion.direction) = false) :
    (s.begin motion plan).Guarded := by
  obtain ⟨hmoving, hdirection, hpressed⟩ := begin_eq motion plan s
  constructor
  · intro _
    rw [hdirection, hpressed]
    exact clear
  · intro _
    exact hmoving

end AxisState

namespace Axis

variable {α : Type} [AxisHardware α]

theorem takeEdge_persists (switch : LimitSwitch) (pressed : Bool) (now : UInt32) (a : Axis α) :
    a.state.Persists (a.takeEdge switch pressed now).2.state := by
  rcases a.takeEdge_cases switch pressed now with ⟨-, -, hstate⟩ | ⟨-, -, hstate⟩
  · rw [hstate]
    exact AxisState.persists_halted _ _
  · rw [hstate]
    exact .inl ⟨rfl, rfl⟩

theorem recoverEdge_persists (switch : LimitSwitch) (level : Bool) (now : UInt32) (a : Axis α) :
    a.state.Persists (a.recoverEdge switch level now).2.state := by
  rcases a.recoverEdge_cases switch level now with ⟨-, hedge⟩ | ⟨-, -, ⟨-, hedge⟩ | ⟨-, hedge⟩⟩
  · rw [hedge]
    exact .inl ⟨rfl, rfl⟩
  · rw [hedge]
    exact .inl ⟨rfl, rfl⟩
  · rw [hedge]
    exact a.takeEdge_persists switch level now

theorem recoverEdges_persists (now : UInt32) (a : Axis α) :
    a.state.Persists (a.recoverEdges now).2.state := by
  obtain ⟨levels, hardware, heq⟩ := a.recoverEdges_eq now
  rw [heq]
  have hhome := recoverEdge_persists .home levels.home now { a with hardware }
  exact hhome.trans (recoverEdge_persists .far levels.far now _)

theorem encoderEdge_persists (a : Axis α) : a.state.Persists a.encoderEdge.2.state := by
  obtain ⟨segment, target, hleave⟩ := a.counted.enterThrough_eq a.counted.segment.following
  rcases a.encoderEdge_cases with ⟨-, hedge⟩ | ⟨-, -, ⟨-, hedge⟩ | ⟨-, hedge⟩⟩
  · rw [hedge]
    exact .inl ⟨rfl, rfl⟩
  · rw [hedge, AxisState.leave, hleave]
    exact .inl ⟨rfl, rfl⟩
  · rw [hedge, stop_state]
    exact AxisState.persists_halted _ _

theorem respond_persists (input : AxisInput α) (a : Axis α) :
    a.state.Persists (a.respond input).2.state := by
  cases input with
  | encoderEdge => exact a.encoderEdge_persists
  | rampTick =>
      show a.state.Persists a.rampTick.state
      unfold rampTick
      split
      · exact .inl ⟨rfl, rfl⟩
      · exact .inl ⟨rfl, rfl⟩
  | switchEdge switch pressed time =>
      show a.state.Persists (a.switchEdge switch pressed time).2.state
      cases hdeb : a.state.debouncing switch time with
      | true =>
          rw [switchEdge_ignored hdeb]
          exact .inl ⟨rfl, rfl⟩
      | false =>
          rw [switchEdge_taken hdeb]
          exact a.takeEdge_persists switch pressed time
  | recovery time => exact a.recoverEdges_persists time
  | hardware hardware => exact .inl ⟨rfl, rfl⟩

theorem respond_guarded {a : Axis α} (h : a.state.Guarded) (input : AxisInput α) :
    (a.respond input).2.state.Guarded :=
  h.persists (a.respond_persists input) respond_continues

/-- **One operation.** -/
theorem operate_guarded {a : Axis α} (h : a.state.Guarded) (operation : AxisOperation) :
    (a.operate operation).state.Guarded := by
  cases operation with
  | start motion =>
      show (a.start motion).2.state.Guarded
      rcases a.start_cases motion with ⟨refusal, -, hrefused⟩ | ⟨plan, hpermit, -, hstate⟩
      · rw [hrefused]
        exact h
      · obtain ⟨-, -, -, -, hclear⟩ := permit_eq_ok.mp hpermit
        rw [hstate]
        exact AxisState.guarded_begin plan hclear
  | encoderEdge => exact respond_guarded h .encoderEdge
  | rampTick => exact respond_guarded h .rampTick
  | switchEdge switch pressed time => exact respond_guarded h (.switchEdge switch pressed time)
  | recovery time => exact respond_guarded h (.recovery time)
  | endOnRelease =>
      show a.endOnRelease.state.Guarded
      rw [endOnRelease_state]
      split
      · next hmoving => exact ⟨h.clear_ahead, fun _ => hmoving⟩
      · exact h
  | stop => exact AxisState.guarded_of_rest rfl rfl
  | reset => exact AxisState.guarded_of_rest rfl rfl

end Axis

/-! ## Every run -/

namespace Operated

variable {α : Type} [AxisHardware α] {drift : α → α → Prop} {first a : Axis α}
  {motions : List Motion}

theorem guarded (h : Operated drift first a motions) (hfirst : first.state.Guarded) :
    a.state.Guarded := by
  induction h with
  | begun => exact hfirst
  | operate _ operation ih => exact Axis.operate_guarded ih operation
  | drift _ _ ih => exact ih

end Operated

/-! ## Presses ahead -/

namespace Axis

variable {α : Type} [AxisHardware α]

theorem new_guarded (id : AxisId) (hardware : α) :
    (Axis.new id hardware).state.Guarded :=
  AxisState.guarded_of_rest rfl rfl

theorem takeEdge_pressed (switch : LimitSwitch) (pressed : Bool) (now : UInt32) (a : Axis α) :
    (a.takeEdge switch pressed now).2.state.pressed = a.state.pressed.set switch pressed := by
  rcases a.takeEdge_cases switch pressed now with ⟨-, -, hstate⟩ | ⟨-, -, hstate⟩
  · rw [hstate]
    rfl
  · rw [hstate]
    rfl

/-- An edge that is not taken for bounce sets the flag. -/
theorem switchEdge_pressed {switch : LimitSwitch} {pressed : Bool} {now : UInt32} {a : Axis α}
    (taken : (a.switchEdge switch pressed now).1 ≠ .ignored) :
    (a.switchEdge switch pressed now).2.state.pressed.get switch = pressed := by
  cases hdeb : a.state.debouncing switch now with
  | true =>
      rw [switchEdge_ignored hdeb] at taken
      exact absurd rfl taken
  | false => rw [switchEdge_taken hdeb, takeEdge_pressed, Switches.get_set_self]

/-- A level that makes up for an edge sets the flag. -/
theorem recoverEdge_pressed {switch : LimitSwitch} {now : UInt32} {a : Axis α}
    (missed : a.state.missedEdge.get switch = true)
    (elapsed : a.state.debouncing switch now = false) (level : Bool) :
    (a.recoverEdge switch level now).2.state.pressed.get switch = level := by
  rcases a.recoverEdge_cases switch level now with
    ⟨hquiet | hquiet, -⟩ | ⟨-, -, ⟨hsame, hedge⟩ | ⟨-, hedge⟩⟩
  · rw [missed] at hquiet
    cases hquiet
  · rw [elapsed] at hquiet
    cases hquiet
  · rw [hedge]
    exact hsame.symm
  · rw [hedge, takeEdge_pressed, Switches.get_set_self]

/-- Making up for an edge of one switch leaves what is known of the other. -/
theorem recoverEdge_other {switch other : LimitSwitch} (hne : other ≠ switch) (level : Bool)
    (now : UInt32) (a : Axis α) :
    let after := (a.recoverEdge switch level now).2.state
    after.pressed.get other = a.state.pressed.get other ∧
      after.missedEdge.get other = a.state.missedEdge.get other ∧
      after.lastEdge.get other = a.state.lastEdge.get other := by
  intro after
  rcases a.recoverEdge_cases switch level now with ⟨-, hedge⟩ | ⟨-, -, ⟨-, hedge⟩ | ⟨-, hedge⟩⟩
  · have hafter : after = a.state := congrArg (fun answer => answer.2.state) hedge
    rw [hafter]
    exact ⟨rfl, rfl, rfl⟩
  · have hafter : after = a.state.noting switch false :=
      congrArg (fun answer => answer.2.state) hedge
    rw [hafter]
    exact ⟨rfl, Switches.get_set_of_ne hne _ _, rfl⟩
  · have hafter : after = (a.takeEdge switch level now).2.state :=
      congrArg (fun answer => answer.2.state) hedge
    have hedged : after.pressed.get other =
          (a.state.withEdge switch level now).pressed.get other ∧
        after.missedEdge.get other = (a.state.withEdge switch level now).missedEdge.get other ∧
        after.lastEdge.get other = (a.state.withEdge switch level now).lastEdge.get other := by
      rcases a.takeEdge_cases switch level now with ⟨-, -, hstate⟩ | ⟨-, -, hstate⟩
      · rw [hafter, hstate]
        exact ⟨rfl, rfl, rfl⟩
      · rw [hafter, hstate]
        exact ⟨rfl, rfl, rfl⟩
    obtain ⟨hpressed, hmissed, hlast⟩ := hedged
    refine ⟨hpressed.trans ?_, hmissed.trans ?_, hlast.trans ?_⟩
    · exact Switches.get_set_of_ne hne _ _
    · exact Switches.get_set_of_ne hne _ _
    · exact Switches.get_set_of_ne hne _ _

/-- Making up for the lost edges of both switches sets the flag of each that lost
one. -/
theorem recoverEdges_pressed {switch : LimitSwitch} {now : UInt32} {a : Axis α}
    (missed : a.state.missedEdge.get switch = true)
    (elapsed : a.state.debouncing switch now = false) :
    (a.recoverEdges now).2.state.pressed.get switch = (readSwitches a.hardware).1.get switch := by
  let levels := (readSwitches a.hardware).1
  let read : Axis α := { a with hardware := (readSwitches a.hardware).2 }
  let home := (read.recoverEdge .home levels.home now).2
  have hafter : (a.recoverEdges now).2 = (home.recoverEdge .far levels.far now).2 := rfl
  rw [hafter]
  cases switch with
  | home =>
      have hfar := home.recoverEdge_other (show LimitSwitch.home ≠ .far by decide) levels.far now
      refine hfar.1.trans ?_
      exact recoverEdge_pressed (a := read) missed elapsed levels.home
  | far =>
      obtain ⟨-, hmissed, hlast⟩ :=
        read.recoverEdge_other (show LimitSwitch.far ≠ .home by decide) levels.home now
      have hover : home.state.debouncing .far now = false := by
        rw [← elapsed]
        unfold AxisState.debouncing
        rw [hlast]
      exact recoverEdge_pressed (hmissed.trans missed) hover levels.far

/-- Making up for lost edges never leaves an axis on its way to a pressed switch. -/
theorem recoverEdges_at_rest {now : UInt32} {a : Axis α} (h : a.state.Guarded)
    (pressed : (a.recoverEdges now).2.state.pressed.get (.facing a.state.direction) = true) :
    (a.recoverEdges now).2.state.moving = false := by
  refine Bool.eq_false_iff.mpr fun hmoving => ?_
  have hcontinues := recoverEdges_continues hmoving
  have hclear := hcontinues.clear_ahead (h.clear_ahead hcontinues.moving)
  rw [pressed] at hclear
  cases hclear

/-- An operation that sets an axis in motion is a start, with the switch ahead clear. -/
theorem operate_starts {a : Axis α} {operation : AxisOperation} (rest : a.state.moving = false)
    (moving : (a.operate operation).state.moving = true) :
    ∃ motion, operation = .start motion ∧ (a.start motion).1 = .ok () ∧
      a.state.pressed.get (.facing motion.direction) = false := by
  -- An input leaves an axis at rest where it was, since it goes on with a motion or ends it.
  have hinput : ∀ input : AxisInput α, (a.respond input).2.state.moving ≠ true := by
    intro input hmoving
    have hcontinues := respond_continues hmoving
    exact Bool.false_ne_true (rest.symm.trans hcontinues.moving)
  cases operation with
  | start motion =>
      rcases a.start_cases motion with ⟨refusal, -, hrefused⟩ | ⟨plan, hpermit, hok, -⟩
      · have hsame : (a.operate (.start motion)).state = a.state := by
          show (a.start motion).2.state = a.state
          rw [hrefused]
        rw [hsame, rest] at moving
        cases moving
      · obtain ⟨-, -, -, -, hclear⟩ := permit_eq_ok.mp hpermit
        exact ⟨motion, rfl, hok, hclear⟩
  | encoderEdge => exact absurd moving (hinput .encoderEdge)
  | rampTick => exact absurd moving (hinput .rampTick)
  | switchEdge switch pressed time =>
      exact absurd moving (hinput (.switchEdge switch pressed time))
  | recovery time => exact absurd moving (hinput (.recovery time))
  | endOnRelease =>
      have hsame : (a.operate .endOnRelease).state = a.state := by
        show a.endOnRelease.state = a.state
        rw [endOnRelease_state, rest]
        rfl
      rw [hsame, rest] at moving
      cases moving
  | stop => cases moving
  | reset => cases moving

end Axis

/-- **No motion toward a pressed switch.** In every run of an axis the switch ahead of
a motion is clear, and only a motion waits for a release. A press of the switch ahead,
as an edge that is not bounce or as a level that makes up for one, leaves the axis at
rest, and tells so if it was moving. Only a start sets the axis in motion, and none is
accepted toward a pressed switch. -/
theorem never_toward_pressed_switch {α : Type} [AxisHardware α] {drift : α → α → Prop}
    {id : AxisId} {hardware : α} {a : Axis α} {motions : List Motion}
    (h : Operated drift (.new id hardware) a motions) :
    let ahead := LimitSwitch.facing a.state.direction
    (a.state.moving = true → a.state.pressed.get ahead = false) ∧
    (a.state.endsOnRelease = true → a.state.moving = true) ∧
    (∀ time, (a.switchEdge ahead true time).1 ≠ .ignored →
      (a.switchEdge ahead true time).2.state.pressed.get ahead = true ∧
      (a.switchEdge ahead true time).2.state.moving = false ∧
      (a.state.moving = true → (a.switchEdge ahead true time).1 = .stopped)) ∧
    (∀ time, a.state.missedEdge.get ahead = true → a.state.debouncing ahead time = false →
      (Axis.readSwitches a.hardware).1.get ahead = true →
      (a.recoverEdges time).2.state.pressed.get ahead = true ∧
      (a.recoverEdges time).2.state.moving = false ∧
      (a.state.moving = true → (a.recoverEdges time).1 ≠ none)) ∧
    (∀ time, (a.recoverEdges time).2.state.pressed.get ahead = true →
      (a.recoverEdges time).2.state.moving = false) ∧
    (∀ operation, a.state.moving = false → (a.operate operation).state.moving = true →
      ∃ motion, operation = .start motion ∧ (a.start motion).1 = .ok () ∧
        a.state.pressed.get (.facing motion.direction) = false) ∧
    (∀ motion, a.state.pressed.get (.facing motion.direction) = true →
      ∃ refusal, a.start motion = (.error refusal, a)) := by
  intro ahead
  have hguarded : a.state.Guarded := h.guarded (Axis.new_guarded id hardware)
  refine ⟨hguarded.clear_ahead, hguarded.waits_moving, ?_, ?_, ?_, ?_, ?_⟩
  · intro time htaken
    have hpressed := Axis.switchEdge_pressed htaken
    have hrest : (a.switchEdge ahead true time).2.state.moving = false := by
      refine Bool.eq_false_iff.mpr fun hmoving => ?_
      have hcontinues := Axis.switchEdge_continues hmoving
      have hclear := hcontinues.clear_ahead (hguarded.clear_ahead hcontinues.moving)
      exact Bool.false_ne_true (hclear.symm.trans hpressed)
    refine ⟨hpressed, hrest, fun hmoving => Decidable.byContradiction fun hgoing => ?_⟩
    have hsame := ((a.switchEdge_standing ahead true time).resolve_left fun hstop =>
      hgoing hstop.1).2
    exact Bool.false_ne_true (hrest.symm.trans ((congrArg Standing.moving hsame).trans hmoving))
  · intro time hmissed hover hlevel
    have hpressed := (Axis.recoverEdges_pressed hmissed hover).trans hlevel
    have hrest := Axis.recoverEdges_at_rest hguarded hpressed
    refine ⟨hpressed, hrest, fun hmoving hnone => ?_⟩
    have hsame := ((a.recoverEdges_standing time).resolve_left fun hstop => hstop.1 hnone).2
    exact Bool.false_ne_true (hrest.symm.trans ((congrArg Standing.moving hsame).trans hmoving))
  · intro time hpressed
    exact Axis.recoverEdges_at_rest hguarded hpressed
  · intro operation hrest hmoving
    exact Axis.operate_starts hrest hmoving
  · intro motion hpressed
    rcases a.start_cases motion with ⟨refusal, -, hrefused⟩ | ⟨plan, hpermit, -, -⟩
    · exact ⟨refusal, hrefused⟩
    · obtain ⟨-, -, -, -, hclear⟩ := Axis.permit_eq_ok.mp hpermit
      exact absurd (hpressed.symm.trans hclear) (by decide)

/-- An axis on its way to its far switch, which has bounced and stayed closed. -/
def bouncing : Axis Recorder :=
  let going := ((((Axis.new .x (Recorder.new ⟨true, false⟩)).operate
    (.start ⟨.positive, 100, 10, 5, 20⟩)).operate (.switchEdge .far false 7)).operate
    (.switchEdge .far true 9))
  { going with hardware := { going.hardware with levels := ⟨true, true⟩ } }

theorem bouncing_operated :
    Operated (fun _ _ => True) (.new .x (Recorder.new ⟨true, false⟩)) bouncing
      [⟨.positive, 100, 10, 5, 20⟩] :=
  .drift (.operate (.operate (.operate .begun (.start ⟨.positive, 100, 10, 5, 20⟩))
    (.switchEdge .far false 7)) (.switchEdge .far true 9)) trivial

/-- The lost press is made up for, and stops the axis. -/
theorem bouncing_stopped_by_recovery :
    bouncing.state.moving = true ∧ bouncing.state.pressed.far = false ∧
      (bouncing.recoverEdges 12).2.state.pressed.far = true ∧
      (bouncing.recoverEdges 12).2.state.moving = false := by
  obtain ⟨-, -, -, hrecovery, -⟩ := never_toward_pressed_switch bouncing_operated
  obtain ⟨hpressed, hrest, -⟩ := hrecovery 12 rfl rfl rfl
  exact ⟨rfl, rfl, hpressed, hrest⟩

end XYStage
