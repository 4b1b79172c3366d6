/-
# XYStage.Proofs.Motion.Operation -- what the operations of an axis can do

One lemma for each operation says everything it can do, guards included, so that
what follows never looks into an operation again. An edge that is not taken for
bounce and a level that makes up for a lost edge do the same (`Axis.takeEdge`):
the flag is updated, and the motion stops if the switch closes ahead of it or if
it was to end on this release (`AxisState.stopsOn`).

`AxisInput` gathers what reaches an axis from its inputs, as opposed to commands.
Main statement: an axis that still moves after an input is in the motion it was in
before, with nothing closed ahead that was open (`respond_continues`).
-/
import XYStage.Motion.Axis

namespace XYStage

set_option autoImplicit false

namespace Switches

variable {τ : Type}

@[simp] theorem get_set_self (switch : LimitSwitch) (value : τ) (s : Switches τ) :
    (s.set switch value).get switch = value := by
  cases switch <;> rfl

theorem get_set_of_ne {switch other : LimitSwitch} (h : other ≠ switch) (value : τ)
    (s : Switches τ) : (s.set switch value).get other = s.get other := by
  cases switch <;> cases other <;> first | rfl | exact absurd rfl h

@[simp] theorem set_set (switch : LimitSwitch) (first second : τ) (s : Switches τ) :
    (s.set switch first).set switch second = s.set switch second := by
  cases switch <;> rfl

end Switches

namespace AxisState

/-- The state once a motion is over. -/
def halted (s : AxisState) : AxisState :=
  { s with moving := false, velocity := 0, endsOnRelease := false }

/-- The state once an edge of a switch has been taken. -/
def withEdge (switch : LimitSwitch) (pressed : Bool) (now : UInt32) (s : AxisState) : AxisState :=
  { s with
    lastEdge := s.lastEdge.set switch (some now)
    missedEdge := s.missedEdge.set switch false
    pressed := s.pressed.set switch pressed }

/-- Whether an edge of a switch ends the motion. -/
def stopsOn (switch : LimitSwitch) (pressed : Bool) (s : AxisState) : Bool :=
  s.moving && (pressed && decide (switch = .facing s.direction) ||
    !pressed && decide (switch = .home) && s.endsOnRelease)

/-- The state with an edge of a switch noted as ignored, or the note taken back. -/
def noting (switch : LimitSwitch) (missed : Bool) (s : AxisState) : AxisState :=
  { s with missedEdge := s.missedEdge.set switch missed }

theorem stopsOn_noting (switch other : LimitSwitch) (pressed missed : Bool) (s : AxisState) :
    (s.noting other missed).stopsOn switch pressed = s.stopsOn switch pressed := rfl

theorem withEdge_noting (switch : LimitSwitch) (pressed missed : Bool) (now : UInt32)
    (s : AxisState) : (s.noting switch missed).withEdge switch pressed now =
      s.withEdge switch pressed now := by
  simp [withEdge, noting]

end AxisState

namespace Axis

variable {α : Type} [AxisHardware α]

theorem stop_state (a : Axis α) : a.stop.state = a.state.halted := rfl

theorem reset_state (a : Axis α) : a.reset.state =
    { a.state.halted with position := 0, target := 0, segment := .accelerate,
                          direction := .positive } := rfl

theorem endOnRelease_state (a : Axis α) : a.endOnRelease.state =
    if a.state.moving then { a.state with endsOnRelease := true } else a.state := rfl

/-! ## Starting -/

omit [AxisHardware α] in
/-- A motion may start exactly if the axis is at rest, the distance is not zero and
of the right sign, there is a profile, and the switch ahead is not pressed. -/
theorem permit_eq_ok {a : Axis α} {motion : Motion} {plan : Trapezoid} :
    a.permit motion = .ok plan ↔
      a.state.moving = false ∧ motion.distance ≠ 0 ∧ motion.directionAgrees = true ∧
        motion.profile = .ok plan ∧ a.state.pressed.get (.facing motion.direction) = false := by
  unfold permit
  cases hm : a.state.moving <;> by_cases hd : motion.distance = 0 <;>
    cases hs : motion.directionAgrees <;> cases hp : motion.profile <;>
    cases hf : a.state.pressed.get (.facing motion.direction) <;> simp_all

/-- A motion is refused and nothing changes, or it begins. -/
theorem start_cases (a : Axis α) (motion : Motion) :
    (∃ refusal, a.permit motion = .error refusal ∧ a.start motion = (.error refusal, a)) ∨
      ∃ plan, a.permit motion = .ok plan ∧ (a.start motion).1 = .ok () ∧
        (a.start motion).2.state = a.state.begin motion plan := by
  unfold start
  cases h : a.permit motion with
  | error refusal => exact .inl ⟨refusal, rfl, rfl⟩
  | ok plan => exact .inr ⟨plan, rfl, rfl, rfl⟩

/-! ## Edges of switches -/

/-- Take an edge of a switch. The flag tells whether it stopped the motion. -/
def takeEdge (switch : LimitSwitch) (pressed : Bool) (now : UInt32) (a : Axis α) :
    Bool × Axis α :=
  let edged := { a with state := a.state.withEdge switch pressed now }
  if a.state.stopsOn switch pressed then (true, edged.stop) else (false, edged)

theorem takeEdge_cases (switch : LimitSwitch) (pressed : Bool) (now : UInt32) (a : Axis α) :
    (a.state.stopsOn switch pressed = true ∧ (a.takeEdge switch pressed now).1 = true ∧
        (a.takeEdge switch pressed now).2.state =
          (a.state.withEdge switch pressed now).halted) ∨
      (a.state.stopsOn switch pressed = false ∧ (a.takeEdge switch pressed now).1 = false ∧
        (a.takeEdge switch pressed now).2.state = a.state.withEdge switch pressed now) := by
  unfold takeEdge
  cases h : a.state.stopsOn switch pressed
  · exact .inr ⟨rfl, rfl, rfl⟩
  · exact .inl ⟨rfl, rfl, rfl⟩

/-- An ignored edge leaves no trace in what is taken afterwards. -/
theorem takeEdge_noting (switch : LimitSwitch) (pressed missed : Bool) (now : UInt32)
    (a : Axis α) :
    ({ a with state := a.state.noting switch missed } : Axis α).takeEdge switch pressed now =
      a.takeEdge switch pressed now := by
  simp only [takeEdge, AxisState.stopsOn_noting, AxisState.withEdge_noting]

theorem switchEdge_ignored {switch : LimitSwitch} {now : UInt32} {a : Axis α}
    (h : a.state.debouncing switch now = true) (pressed : Bool) :
    a.switchEdge switch pressed now =
      (.ignored, { a with state := a.state.noting switch true }) := by
  unfold switchEdge
  exact if_pos h

theorem switchEdge_taken {switch : LimitSwitch} {now : UInt32} {a : Axis α}
    (h : a.state.debouncing switch now = false) (pressed : Bool) :
    a.switchEdge switch pressed now =
      (if (a.takeEdge switch pressed now).1 then .stopped else .recorded,
        (a.takeEdge switch pressed now).2) := by
  have hopen : ¬ a.state.debouncing switch now = true := by simp [h]
  unfold switchEdge takeEdge
  refine (if_neg hopen).trans ?_
  cases hs : a.state.stopsOn switch pressed with
  | true => exact if_pos hs
  | false => exact if_neg fun hstop => Bool.false_ne_true (hs.symm.trans hstop)

/-- A level makes up for an edge only if one was ignored, its window is over, and
the flag is not at that level. -/
theorem recoverEdge_cases (switch : LimitSwitch) (level : Bool) (now : UInt32) (a : Axis α) :
    (a.state.missedEdge.get switch = false ∨ a.state.debouncing switch now = true) ∧
        a.recoverEdge switch level now = (false, a) ∨
      a.state.missedEdge.get switch = true ∧ a.state.debouncing switch now = false ∧
        (level = a.state.pressed.get switch ∧
            a.recoverEdge switch level now =
              (false, { a with state := a.state.noting switch false }) ∨
          level ≠ a.state.pressed.get switch ∧
            a.recoverEdge switch level now = a.takeEdge switch level now) := by
  unfold recoverEdge
  by_cases hquiet : a.state.missedEdge.get switch = false ∨ a.state.debouncing switch now = true
  · exact .inl ⟨hquiet, if_pos (by simpa using hquiet)⟩
  · have hgo : ¬ (!a.state.missedEdge.get switch || a.state.debouncing switch now) = true := by
      simpa using hquiet
    rw [not_or, Bool.not_eq_false, Bool.not_eq_true] at hquiet
    refine .inr ⟨hquiet.1, hquiet.2, ?_⟩
    rw [if_neg hgo]
    by_cases hlevel : level = a.state.pressed.get switch
    · exact .inl ⟨hlevel, if_pos hlevel⟩
    · refine .inr ⟨hlevel, (if_neg hlevel).trans ?_⟩
      have hedge := switchEdge_taken
        (a := { a with state := a.state.noting switch false }) hquiet.2 level
      rw [takeEdge_noting] at hedge
      show (decide ((switchEdge switch level now
          { a with state := a.state.noting switch false }).1 = .stopped),
        (switchEdge switch level now { a with state := a.state.noting switch false }).2) =
          a.takeEdge switch level now
      rw [hedge]
      cases a.takeEdge switch level now with
      | mk stopped taken => cases stopped <;> rfl

/-! ## Counting and ramping -/

/-- One encoder edge counts, whatever else it does. -/
def counted (a : Axis α) : AxisState :=
  { a.state with position := a.state.position + a.state.direction.sign }

/-- An encoder edge only counts, or begins a later segment, or ends the motion. -/
theorem encoderEdge_cases (a : Axis α) :
    (a.counted.moving = false ∨ a.counted.segmentDone = false) ∧
        a.encoderEdge = (false, { a with state := a.counted }) ∨
      a.counted.moving = true ∧ a.counted.segmentDone = true ∧
        (a.counted.leave.1 = true ∧
            a.encoderEdge = (false, { a with state := a.counted.leave.2 }) ∨
          a.counted.leave.1 = false ∧
            a.encoderEdge = (true, ({ a with state := a.counted.leave.2 } : Axis α).stop)) := by
  unfold encoderEdge
  by_cases hquiet : a.counted.moving = false ∨ a.counted.segmentDone = false
  · exact .inl ⟨hquiet, if_pos (by simpa [counted] using hquiet)⟩
  · have hgo : ¬ (!a.counted.moving || !a.counted.segmentDone) = true := by
      simpa using hquiet
    rw [not_or, Bool.not_eq_false, Bool.not_eq_false] at hquiet
    refine .inr ⟨hquiet.1, hquiet.2, ?_⟩
    cases hmore : a.counted.leave.1 with
    | true => exact .inl ⟨rfl, (if_neg hgo).trans (if_pos hmore)⟩
    | false => exact .inr ⟨rfl, (if_neg hgo).trans
        (if_neg fun hend => Bool.false_ne_true (hmore.symm.trans hend))⟩

end Axis

/-- Leaving a segment changes nothing but the segment and its target. -/
theorem AxisState.enterThrough_eq (segments : List Segment) (s : AxisState) :
    ∃ segment target, (enterThrough segments s).2 = { s with segment, target } := by
  induction segments generalizing s with
  | nil => exact ⟨s.segment, s.target, rfl⟩
  | cons next rest ih =>
      simp only [enterThrough]
      split
      · obtain ⟨segment, target, h⟩ := ih (s.enter next)
        exact ⟨segment, target, h⟩
      · exact ⟨_, _, rfl⟩

/-- So does entering the first one. -/
theorem AxisState.enterFirst_eq (s : AxisState) :
    ∃ segment target, s.enterFirst = { s with segment, target } := by
  unfold enterFirst
  dsimp only
  split
  · obtain ⟨segment, target, hleave⟩ := enterThrough_eq Segment.accelerate.following
      { s with segment := .accelerate, target := s.ahead s.profile.rampUp }
    exact ⟨segment, target, hleave⟩
  · exact ⟨_, _, rfl⟩

/-- Where a motion begins depends on its plan; that it does, and which way, does not. -/
theorem AxisState.begin_eq (motion : Motion) (plan : Trapezoid) (s : AxisState) :
    (s.begin motion plan).moving = true ∧ (s.begin motion plan).direction = motion.direction ∧
      (s.begin motion plan).pressed = s.pressed := by
  obtain ⟨segment, target, hfirst⟩ := enterFirst_eq { s with
    direction := motion.direction
    profile := plan
    startVelocity := min motion.startVelocity topStepRate
    topVelocity := min motion.holdVelocity topStepRate
    velocity := min motion.startVelocity topStepRate
    endsOnRelease := false }
  unfold begin
  dsimp only
  rw [hfirst]
  exact ⟨rfl, rfl, rfl⟩

/-! ## Inputs -/

/-- What reaches an axis from its inputs. -/
inductive AxisInput (α : Type) where
  | encoderEdge
  | rampTick
  | switchEdge (switch : LimitSwitch) (pressed : Bool) (time : UInt32)
  /-- The control loop makes up for lost edges. -/
  | recovery (time : UInt32)
  /-- The hardware is found in another state, its switches at other levels. -/
  | hardware (hardware : α)

/-- What an axis answers to an input. -/
inductive InputAnswer where
  | silent
  /-- A count, and whether it completed the motion. -/
  | counted (completed : Bool)
  | edge (effect : EdgeEffect)
  | recovered (stoppedBy : Option LimitSwitch)
  deriving DecidableEq

/-- Whether an edge or the making up for one stopped the motion. -/
def InputAnswer.isStop : InputAnswer → Bool
  | .edge effect => decide (effect = .stopped)
  | .recovered stoppedBy => stoppedBy.isSome
  | _ => false

/-- The second state is in the motion of the first, and no switch that was open
ahead, or pressed and waited for, has changed. -/
structure AxisState.Continues (s s' : AxisState) : Prop where
  moving : s.moving = true
  direction_eq : s'.direction = s.direction
  endsOnRelease_eq : s'.endsOnRelease = s.endsOnRelease
  clear_ahead : s.pressed.get (.facing s.direction) = false →
    s'.pressed.get (.facing s.direction) = false
  home_held : s.endsOnRelease = true → s.pressed.home = true → s'.pressed.home = true

namespace AxisState.Continues

theorem of_same {s s' : AxisState} (hmoving : s.moving = true)
    (hdirection : s'.direction = s.direction) (hends : s'.endsOnRelease = s.endsOnRelease)
    (hpressed : s'.pressed = s.pressed) : Continues s s' :=
  ⟨hmoving, hdirection, hends, fun h => hpressed ▸ h, fun _ h => hpressed ▸ h⟩

theorem refl {s : AxisState} (h : s.moving = true) : Continues s s :=
  of_same h rfl rfl rfl

theorem trans {s s' s'' : AxisState} (first : Continues s s') (second : Continues s' s'') :
    Continues s s'' where
  moving := first.moving
  direction_eq := second.direction_eq.trans first.direction_eq
  endsOnRelease_eq := second.endsOnRelease_eq.trans first.endsOnRelease_eq
  clear_ahead h := by
    have hclear := second.clear_ahead
    rw [first.direction_eq] at hclear
    exact hclear (first.clear_ahead h)
  home_held hends h := second.home_held (first.endsOnRelease_eq.trans hends)
    (first.home_held hends h)

end AxisState.Continues

namespace Axis

variable {α : Type} [AxisHardware α]

/-- Take an input. -/
def respond : AxisInput α → Axis α → InputAnswer × Axis α
  | .encoderEdge, a =>
      let (completed, a) := a.encoderEdge
      (.counted completed, a)
  | .rampTick, a => (.silent, a.rampTick)
  | .switchEdge switch pressed time, a =>
      let (effect, a) := a.switchEdge switch pressed time
      (.edge effect, a)
  | .recovery time, a =>
      let (stoppedBy, a) := a.recoverEdges time
      (.recovered stoppedBy, a)
  | .hardware hardware, a => (.silent, { a with hardware })

theorem encoderEdge_continues {a : Axis α} (h : a.encoderEdge.2.state.moving = true) :
    a.state.Continues a.encoderEdge.2.state := by
  obtain ⟨segment, target, hleave⟩ := a.counted.enterThrough_eq a.counted.segment.following
  rcases a.encoderEdge_cases with ⟨-, hedge⟩ | ⟨-, -, ⟨-, hedge⟩ | ⟨-, hedge⟩⟩
  · rw [hedge] at h ⊢
    exact .of_same h rfl rfl rfl
  · rw [hedge, AxisState.leave, hleave] at h ⊢
    exact .of_same h rfl rfl rfl
  · rw [hedge, stop_state] at h
    cases h

theorem rampTick_continues {a : Axis α} (h : a.rampTick.state.moving = true) :
    a.state.Continues a.rampTick.state := by
  unfold rampTick at h ⊢
  split at h
  · exact .refl h
  · exact .of_same h rfl rfl rfl

theorem takeEdge_continues {switch : LimitSwitch} {pressed : Bool} {now : UInt32} {a : Axis α}
    (h : (a.takeEdge switch pressed now).2.state.moving = true) :
    a.state.Continues (a.takeEdge switch pressed now).2.state := by
  rcases a.takeEdge_cases switch pressed now with ⟨-, -, hstate⟩ | ⟨hgo, -, hstate⟩
  · rw [hstate] at h
    cases h
  · rw [hstate] at h ⊢
    have hmoving : a.state.moving = true := h
    simp only [AxisState.stopsOn, hmoving, Bool.true_and, Bool.or_eq_false_iff] at hgo
    refine ⟨hmoving, rfl, rfl, fun hclear => ?_, fun hends hhome => ?_⟩
    · show (a.state.pressed.set switch pressed).get (.facing a.state.direction) = false
      by_cases hahead : switch = .facing a.state.direction
      · rw [← hahead, Switches.get_set_self]
        simpa [hahead] using hgo.1
      · rw [Switches.get_set_of_ne (Ne.symm hahead)]
        exact hclear
    · show (a.state.pressed.set switch pressed).get .home = true
      by_cases hswitch : switch = .home
      · rw [hswitch, Switches.get_set_self]
        simpa [hswitch, hends] using hgo.2
      · rw [Switches.get_set_of_ne (Ne.symm hswitch)]
        exact hhome

theorem switchEdge_continues {switch : LimitSwitch} {pressed : Bool} {now : UInt32} {a : Axis α}
    (h : (a.switchEdge switch pressed now).2.state.moving = true) :
    a.state.Continues (a.switchEdge switch pressed now).2.state := by
  cases hdeb : a.state.debouncing switch now with
  | true =>
      rw [switchEdge_ignored hdeb] at h ⊢
      exact .of_same h rfl rfl rfl
  | false =>
      rw [switchEdge_taken hdeb] at h ⊢
      exact takeEdge_continues h

theorem recoverEdge_continues {switch : LimitSwitch} {level : Bool} {now : UInt32} {a : Axis α}
    (h : (a.recoverEdge switch level now).2.state.moving = true) :
    a.state.Continues (a.recoverEdge switch level now).2.state := by
  rcases a.recoverEdge_cases switch level now with ⟨-, hedge⟩ | ⟨-, -, ⟨-, hedge⟩ | ⟨-, hedge⟩⟩
  · rw [hedge] at h ⊢
    exact .refl h
  · rw [hedge] at h ⊢
    exact .of_same h rfl rfl rfl
  · rw [hedge] at h ⊢
    exact takeEdge_continues h

/-- Both edges are made up for in turn, on the same levels. -/
theorem recoverEdges_eq (now : UInt32) (a : Axis α) :
    ∃ (levels : Switches Bool) (hardware : α),
      let home := ({ a with hardware } : Axis α).recoverEdge .home levels.home now
      let far := home.2.recoverEdge .far levels.far now
      a.recoverEdges now =
        (if far.1 then some .far else if home.1 then some .home else none, far.2) :=
  ⟨(readSwitches a.hardware).1, (readSwitches a.hardware).2, rfl⟩

theorem recoverEdges_continues {now : UInt32} {a : Axis α}
    (h : (a.recoverEdges now).2.state.moving = true) :
    a.state.Continues (a.recoverEdges now).2.state := by
  obtain ⟨levels, hardware, heq⟩ := a.recoverEdges_eq now
  rw [heq] at h ⊢
  have hfar := recoverEdge_continues h
  have hhome := recoverEdge_continues hfar.moving
  exact hhome.trans hfar

/-- **Inputs start nothing.** An axis that still moves after an input goes on with
the motion it was in. -/
theorem respond_continues {input : AxisInput α} {a : Axis α}
    (h : (a.respond input).2.state.moving = true) :
    a.state.Continues (a.respond input).2.state := by
  cases input with
  | encoderEdge => exact encoderEdge_continues h
  | rampTick => exact rampTick_continues h
  | switchEdge switch pressed time => exact switchEdge_continues h
  | recovery time => exact recoverEdges_continues h
  | hardware hardware => exact .of_same h rfl rfl rfl

end Axis

end XYStage
