/-
# XYStage.Proofs.Controller.Position -- what moves a position

The position of an axis is touched in two places: an encoder edge counts, and the end of
homing takes the present position as zero. Every other operation of an axis leaves it,
and so does every part of an iteration. The lemmas follow the operations of an axis, then
those of the controller.

Main statements: `handle_position` for one event, `poll_position` for one iteration and
`recoverEdges_position` for the making up for lost edges.
-/
import XYStage.Proofs.Controller.Coherence

namespace XYStage

set_option autoImplicit false

variable {δ ε α π σ : Type}

/-! ## One axis -/

theorem AxisState.begin_position (motion : Motion) (plan : Trapezoid) (s : AxisState) :
    (s.begin motion plan).position = s.position := by
  obtain ⟨segment, target, hfirst⟩ := enterFirst_eq { s with
    direction := motion.direction
    profile := plan
    startVelocity := min motion.startVelocity topStepRate
    topVelocity := min motion.holdVelocity topStepRate
    velocity := min motion.startVelocity topStepRate
    endsOnRelease := false }
  unfold begin
  dsimp only
  rw [hfirst]

namespace Axis

variable [AxisHardware α]

@[simp] theorem start_position (a : Axis α) (motion : Motion) :
    (a.start motion).2.state.position = a.state.position := by
  rcases a.start_cases motion with ⟨refusal, -, hstart⟩ | ⟨plan, -, -, hstate⟩
  · rw [hstart]
  · rw [hstate, AxisState.begin_position]

@[simp] theorem endOnRelease_position (a : Axis α) :
    a.endOnRelease.state.position = a.state.position := by
  rw [endOnRelease_state]
  split <;> rfl

@[simp] theorem stop_position (a : Axis α) : a.stop.state.position = a.state.position := rfl

/-- An encoder edge counts, whether or not it ends the motion. -/
theorem encoderEdge_position (a : Axis α) :
    a.encoderEdge.2.state.position = a.state.position + a.state.direction.sign := by
  obtain ⟨segment, target, hleave⟩ := a.counted.enterThrough_eq a.counted.segment.following
  rcases a.encoderEdge_cases with ⟨-, hedge⟩ | ⟨-, -, ⟨-, hedge⟩ | ⟨-, hedge⟩⟩
  · rw [hedge]
    rfl
  · rw [hedge, AxisState.leave, hleave]
    rfl
  · rw [hedge, stop_position, AxisState.leave, hleave]
    rfl

@[simp] theorem rampTick_position (a : Axis α) :
    a.rampTick.state.position = a.state.position := by
  unfold rampTick
  split <;> rfl

@[simp] theorem takeEdge_position (switch : LimitSwitch) (pressed : Bool) (now : UInt32)
    (a : Axis α) : (a.takeEdge switch pressed now).2.state.position = a.state.position := by
  rcases a.takeEdge_cases switch pressed now with ⟨-, -, hstate⟩ | ⟨-, -, hstate⟩
  · rw [hstate]
    rfl
  · rw [hstate]
    rfl

@[simp] theorem switchEdge_position (switch : LimitSwitch) (pressed : Bool) (now : UInt32)
    (a : Axis α) : (a.switchEdge switch pressed now).2.state.position = a.state.position := by
  cases hbounce : a.state.debouncing switch now with
  | true =>
      rw [switchEdge_ignored hbounce]
      rfl
  | false =>
      rw [switchEdge_taken hbounce]
      exact takeEdge_position switch pressed now a

@[simp] theorem recoverEdge_position (switch : LimitSwitch) (level : Bool) (now : UInt32)
    (a : Axis α) : (a.recoverEdge switch level now).2.state.position = a.state.position := by
  rcases a.recoverEdge_cases switch level now with ⟨-, hedge⟩ | ⟨-, -, ⟨-, hedge⟩ | ⟨-, hedge⟩⟩
  · rw [hedge]
  · rw [hedge]
    rfl
  · rw [hedge, takeEdge_position]

@[simp] theorem recoverEdges_position (now : UInt32) (a : Axis α) :
    (a.recoverEdges now).2.state.position = a.state.position := by
  obtain ⟨levels, hardware, heq⟩ := a.recoverEdges_eq now
  rw [heq]
  simp

end Axis

/-! ## Both axes -/

namespace Controller

variable [AxisHardware α]

/-- The position of one axis. -/
def position (id : AxisId) (c : Controller δ α π σ) : Int32 :=
  (c.axes.get id).state.position

/-- The direction in which one axis counts. -/
def direction (id : AxisId) (c : Controller δ α π σ) : Direction :=
  (c.axes.get id).state.direction

/-- An encoder edge of an axis moves its position by one count, and no other event moves
a position. -/
theorem handle_position (event : InputEvent) (id : AxisId) (c : Controller δ α π σ) :
    (c.handle event).2.position id =
      if event = .encoder id then c.position id + (c.direction id).sign else c.position id := by
  by_cases hid : id = event.axis
  · subst hid
    cases event with
    | encoder axis =>
        have hself : InputEvent.encoder axis = .encoder (InputEvent.encoder axis).axis := rfl
        rw [if_pos hself]
        simp only [position, handle, Axes.get_set_self]
        exact Axis.encoderEdge_position _
    | rampTick axis => simp [position, handle, InputEvent.axis]
    | switchEdge axis switch pressed time => simp [position, handle, InputEvent.axis]
  · have hother : event ≠ .encoder id := by
      rintro rfl
      exact hid rfl
    rw [if_neg hother]
    cases event with
    | encoder axis => simp only [position, handle, Axes.get_set_of_ne hid]
    | rampTick axis => simp only [position, handle, Axes.get_set_of_ne hid]
    | switchEdge axis switch pressed time => simp only [position, handle, Axes.get_set_of_ne hid]

theorem recoverAxis_position (other : AxisId) (now : UInt32) (id : AxisId)
    (c : Controller δ α π σ) : (c.recoverAxis other now).2.position id = c.position id := by
  simp only [position, recoverAxis]
  by_cases hid : id = other
  · subst hid
    rw [Axes.get_set_self, Axis.recoverEdges_position]
  · rw [Axes.get_set_of_ne hid]

theorem recoverEdges_position (now : UInt32) (id : AxisId) (c : Controller δ α π σ) :
    (c.recoverEdges now).2.position id = c.position id := by
  show ((c.recoverAxis .x now).2.recoverAxis .y now).2.position id = c.position id
  rw [recoverAxis_position, recoverAxis_position]

/-- Settling leaves the positions, except at the end of homing. -/
theorem Settling.position {status after : Status} {axes later : Axes α} {cal : Calibration}
    {change : Option StatusChange} (h : Settling status axes cal change after later)
    (id : AxisId) :
    (later.get id).state.position =
      if change = some ⟨.homing .retract, .idle⟩ then 0 else (axes.get id).state.position := by
  cases h with
  | moving _ => simp
  | settled _ _ => simp
  | moved _ _ _ => simp
  | blocked _ _ _ => simp
  | found _ _ _ => simp
  | homed _ _ _ => simp [Axis.reset]
  | lost _ _ => simp

theorem Obeying.position {status after : Status} {axes later : Axes α} {cal : Calibration}
    {command : Command} {result : Option ResultCode} {change : Option StatusChange}
    (h : Obeying status axes cal command result change after later) (id : AxisId) :
    (later.get id).state.position = (axes.get id).state.position := by
  cases h with
  | stop => simp [Axes.halt]
  | home _ => simp
  | move request _ started =>
      by_cases hid : id = request.axis
      · subst hid
        have hposition := Axis.start_position (axes.get request.axis)
          (requestedMotion request (cal.axis request.axis))
        rw [started] at hposition
        rw [Axes.get_set_self]
        exact hposition
      · rw [Axes.get_set_of_ne hid]
  | homeBusy _ => rfl
  | moveRefused _ _ _ => rfl
  | moveBusy _ _ => rfl
  | other _ _ => rfl

variable [SerialLine δ ε] [TemperatureSource π] [SettingStore σ]

/-- An iteration leaves the positions, unless it ends homing. -/
theorem poll_position (id : AxisId) (c : Controller δ α π σ) :
    c.poll.2.position id =
      if c.poll.1.record.rested = some ⟨.homing .retract, .idle⟩ then 0 else c.position id := by
  have hsettling := c.poll_settling.position id
  unfold position
  rcases c.poll_obeying with ⟨-, -, -, haxes⟩ | ⟨command, result, -, hobeying⟩
  · rw [haxes, hsettling]
  · rw [hobeying.position id, hsettling]

end Controller

end XYStage
