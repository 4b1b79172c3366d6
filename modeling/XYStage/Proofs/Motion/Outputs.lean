/-
# XYStage.Proofs.Motion.Outputs -- what an axis has told its hardware

`Outputs` is what a list of calls makes of the hardware: which interrupt sources are
masked, which way the motor is to turn, at which rate steps are generated and with
which period the ramp timer ticks. A `CallLog` is hardware that keeps the calls made
to it, so replaying its log gives the outputs at any moment.

`Outputs.Agree` ties outputs and state: nothing is masked, steps are generated exactly
during a motion and at its velocity, the ramp timer runs exactly during a motion that
accelerates. Each operation adds one of four pieces to the log (reading the switches,
starting, halting, changing the rate), and each piece keeps the agreement.

Main statement: `outputs_follow_state`, after every operation of every run.
-/
import XYStage.Proofs.Motion.Guard

namespace XYStage

set_option autoImplicit false

/-! ## Outputs -/

/-- What the hardware of an axis has been told to do. -/
@[ext] structure Outputs where
  masked : InterruptSet
  /-- The direction last given, if one was. -/
  direction : Option Direction
  /-- Steps per second, while steps are generated. -/
  rate : Option UInt32
  /-- Microseconds between ramp ticks, while there are any. -/
  ramp : Option UInt32
  deriving DecidableEq

namespace Outputs

def after (call : HardwareCall) (o : Outputs) : Outputs :=
  match call with
  | .disable source => { o with masked := o.masked.insert source }
  | .enable source => { o with masked := o.masked.erase source }
  | .steer direction => { o with direction := some direction }
  | .startSteps rate => { o with rate := some rate }
  | .changeRate rate => { o with rate := some rate }
  | .stopSteps => { o with rate := none }
  | .startRamp period => { o with ramp := some period }
  | .stopRamp => { o with ramp := none }

/-- The outputs after calls, in the order they are made. -/
def replay (calls : List HardwareCall) (o : Outputs) : Outputs :=
  calls.foldl (fun o call => o.after call) o

/-- Whether a call is in its place: the rate is changed only while steps are
generated, and the direction is given, and steps are started in it, only while none
are. -/
def Admits (o : Outputs) : HardwareCall → Prop
  | .changeRate _ => o.rate ≠ none
  | .steer _ => o.rate = none
  | .startSteps _ => o.rate = none ∧ o.direction ≠ none
  | _ => True

/-- Whether each of some calls is in its place. -/
def InOrder : List HardwareCall → Outputs → Prop
  | [], _ => True
  | call :: rest, o => o.Admits call ∧ (o.after call).InOrder rest

@[simp] theorem replay_nil (o : Outputs) : o.replay [] = o := rfl

@[simp] theorem replay_cons (call : HardwareCall) (rest : List HardwareCall) (o : Outputs) :
    o.replay (call :: rest) = (o.after call).replay rest := rfl

@[simp] theorem replay_append (first second : List HardwareCall) (o : Outputs) :
    o.replay (first ++ second) = (o.replay first).replay second :=
  List.foldl_append

theorem inOrder_append {first second : List HardwareCall} {o : Outputs} :
    o.InOrder (first ++ second) ↔ o.InOrder first ∧ (o.replay first).InOrder second := by
  induction first generalizing o with
  | nil => simp [InOrder]
  | cons call rest ih => simp [InOrder, ih, and_assoc]

/-- The outputs that go with a state during a motion. -/
structure Agree (o : Outputs) (s : AxisState) (motion : Option Motion) : Prop where
  unmasked : o.masked = .empty
  rate_eq : o.rate = if s.moving then some s.velocity else none
  still : s.moving = false → o.ramp = none
  direction_eq : s.moving = true → o.direction = some s.direction
  ramp_eq : s.moving = true → ∃ accepted, motion = some accepted ∧
    o.ramp = if 0 < accepted.acceleration then some (rampPeriod accepted.acceleration) else none

/-- Outputs agree with a state as long as nothing changes that they show. -/
theorem Agree.of_same {o : Outputs} {s s' : AxisState} {motion : Option Motion}
    (h : o.Agree s motion) (hmoving : s'.moving = s.moving) (hvelocity : s'.velocity = s.velocity)
    (hdirection : s'.direction = s.direction) : o.Agree s' motion where
  unmasked := h.unmasked
  rate_eq := by
    rw [hmoving, hvelocity]
    exact h.rate_eq
  still rest := h.still (hmoving.symm.trans rest)
  direction_eq moving := by
    rw [hdirection]
    exact h.direction_eq (hmoving.symm.trans moving)
  ramp_eq moving := h.ramp_eq (hmoving.symm.trans moving)

/-! ## The pieces of a log -/

/-- The calls that read the switches. -/
def reading : List HardwareCall :=
  [.disable .homeSwitch, .disable .farSwitch, .enable .homeSwitch, .enable .farSwitch]

/-- The calls that let a release end the motion. -/
def arming : List HardwareCall := [.disable .homeSwitch, .enable .homeSwitch]

/-- The calls that halt a motion. -/
def halting : List HardwareCall :=
  [.disable .stepTimer, .disable .rampTimer, .stopSteps, .stopRamp, .enable .stepTimer,
    .enable .rampTimer]

/-- The calls that start a motion with a velocity. -/
def starting (motion : Motion) (velocity : UInt32) : List HardwareCall :=
  [.disable .encoder, .disable .rampTimer, .steer motion.direction, .startSteps velocity] ++
    (if 0 < motion.acceleration then [.startRamp (rampPeriod motion.acceleration)] else []) ++
    [.enable .encoder, .enable .rampTimer]

/-- Masking for a while leaves no trace. -/
theorem erase_insert (a : InterruptSource) :
    (InterruptSet.empty.insert a).erase a = .empty := by
  cases a <;> decide

theorem erase_insert_pair (a b : InterruptSource) :
    (((InterruptSet.empty.insert a).insert b).erase a).erase b = .empty := by
  cases a <;> cases b <;> decide

theorem replay_reading {o : Outputs} (h : o.masked = .empty) : o.replay reading = o := by
  ext1
  · simp only [reading, replay_cons, replay_nil, after]
    rw [h]
    exact erase_insert_pair _ _
  · rfl
  · rfl
  · rfl

theorem replay_arming {o : Outputs} (h : o.masked = .empty) : o.replay arming = o := by
  ext1
  · simp only [arming, replay_cons, replay_nil, after]
    rw [h]
    exact erase_insert _
  · rfl
  · rfl
  · rfl

theorem replay_halting {o : Outputs} (h : o.masked = .empty) :
    o.replay halting = { o with rate := none, ramp := none } := by
  ext1
  · simp only [halting, replay_cons, replay_nil, after]
    rw [h]
    exact erase_insert_pair _ _
  · rfl
  · rfl
  · rfl

/-- A start leaves the ramp timer alone if there is no ramp. -/
theorem replay_starting {o : Outputs} (h : o.masked = .empty) (motion : Motion)
    (velocity : UInt32) :
    o.replay (starting motion velocity) = { o with
      direction := some motion.direction
      rate := some velocity
      ramp := if 0 < motion.acceleration then some (rampPeriod motion.acceleration)
        else o.ramp } := by
  have hmasked := erase_insert_pair .encoder .rampTimer
  unfold starting
  split
  · simp [after, h, hmasked]
  · simp [after, h, hmasked]

theorem inOrder_reading (o : Outputs) : o.InOrder reading := by
  simp [reading, InOrder, Admits]

theorem inOrder_arming (o : Outputs) : o.InOrder arming := by
  simp [arming, InOrder, Admits]

theorem inOrder_halting (o : Outputs) : o.InOrder halting := by
  simp [halting, InOrder, Admits]

/-- Halting agrees with a state at rest, whatever the outputs were. -/
theorem agree_halting {o : Outputs} (h : o.masked = .empty) {s : AxisState}
    (rest : s.moving = false) (motion : Option Motion) : (o.replay halting).Agree s motion := by
  rw [replay_halting h]
  refine ⟨h, ?_, fun _ => rfl, fun hmoving => ?_, fun hmoving => ?_⟩
  · rw [rest]
    rfl
  · exact absurd (rest.symm.trans hmoving) Bool.false_ne_true
  · exact absurd (rest.symm.trans hmoving) Bool.false_ne_true

/-- From rest a start comes in order, the direction first. -/
theorem inOrder_starting {o : Outputs} (rest : o.rate = none) (motion : Motion)
    (velocity : UInt32) : o.InOrder (starting motion velocity) := by
  unfold starting
  split
  · simp [InOrder, Admits, after, rest]
  · simp [InOrder, Admits, after, rest]

/-- Starting agrees with the state in which the motion begins. -/
theorem agree_starting {o : Outputs} {s : AxisState} {before : Option Motion}
    (h : o.Agree s before) (rest : s.moving = false) (motion : Motion) (plan : Trapezoid) :
    (o.replay (starting motion (s.begin motion plan).velocity)).Agree (s.begin motion plan)
      (some motion) := by
  obtain ⟨hmoving, hdirection, -⟩ := AxisState.begin_eq motion plan s
  rw [replay_starting h.unmasked]
  refine ⟨h.unmasked, ?_, fun hrest => ?_, fun _ => ?_, fun _ => ⟨motion, rfl, ?_⟩⟩
  · rw [hmoving]
    rfl
  · exact absurd (hrest.symm.trans hmoving) Bool.false_ne_true
  · rw [hdirection]
  · dsimp only
    rw [h.still rest]

end Outputs

/-! ## What the operations tell the hardware -/

/-- Hardware that keeps the calls made to it. -/
class CallLog (α : Type) [AxisHardware α] where
  /-- The calls so far, the first one first. -/
  calls : α → List HardwareCall
  calls_perform : ∀ (call : HardwareCall) (hardware : α),
    calls (AxisHardware.perform call hardware) = calls hardware ++ [call]

open CallLog (calls)

attribute [simp] CallLog.calls_perform

instance : CallLog Recorder where
  calls r := r.calls.reverse
  calls_perform _ _ := List.reverse_cons

section Log

variable {α : Type} [AxisHardware α] [CallLog α]

@[simp] theorem calls_disable (source : InterruptSource) (hardware : α) :
    calls (InterruptControl.disable source hardware) = calls hardware ++ [.disable source] :=
  CallLog.calls_perform _ hardware

@[simp] theorem calls_enable (source : InterruptSource) (hardware : α) :
    calls (InterruptControl.enable source hardware) = calls hardware ++ [.enable source] :=
  CallLog.calls_perform _ hardware

namespace Axis

theorem calls_readSwitches (hardware : α) :
    calls (readSwitches hardware).2 = calls hardware ++ Outputs.reading := by
  have hset : InterruptSet.switches.toList = [.homeSwitch, .farSwitch] := by decide
  show calls (InterruptControl.mask .switches hardware).release = _
  simp [Outputs.reading, InterruptControl.mask, Masked.release, hset]

theorem calls_stop (a : Axis α) :
    calls a.stop.hardware = calls a.hardware ++ Outputs.halting := by
  have hset : InterruptSet.timers.toList = [.stepTimer, .rampTimer] := by decide
  unfold stop
  simp [Outputs.halting, InterruptControl.mask, Masked.release, hset]

theorem calls_endOnRelease (a : Axis α) :
    calls a.endOnRelease.hardware = calls a.hardware ++ Outputs.arming := by
  have hset : (InterruptSet.empty.insert .homeSwitch).toList = [.homeSwitch] := by decide
  unfold endOnRelease
  simp [Outputs.arming, InterruptControl.mask, Masked.release, hset]

theorem calls_start {a : Axis α} {motion : Motion} {plan : Trapezoid}
    (permitted : a.permit motion = .ok plan) :
    calls (a.start motion).2.hardware = calls a.hardware ++
      Outputs.starting motion (a.state.begin motion plan).velocity := by
  have hset : InterruptSet.motion.toList = [.encoder, .rampTimer] := by decide
  unfold start
  rw [permitted]
  unfold Outputs.starting
  by_cases hramp : 0 < motion.acceleration
  · simp [InterruptControl.mask, Masked.release, hset, hramp]
  · simp [InterruptControl.mask, Masked.release, hset, hramp]

end Axis

end Log

/-! ## One operation -/

/-- The calls made to the hardware came in order, and what they amount to agrees with
the state. -/
structure InStep {α : Type} [AxisHardware α] [CallLog α] (start : Outputs)
    (motion : Option Motion) (a : Axis α) : Prop where
  agree : (start.replay (calls a.hardware)).Agree a.state motion
  inOrder : start.InOrder (calls a.hardware)

namespace InStep

variable {α : Type} [AxisHardware α] [CallLog α] {start : Outputs} {motion : Option Motion}
  {a a' : Axis α}

/-- Nothing is told, and nothing changes that the outputs show. -/
theorem of_same (h : InStep start motion a) (hcalls : calls a'.hardware = calls a.hardware)
    (hmoving : a'.state.moving = a.state.moving)
    (hvelocity : a'.state.velocity = a.state.velocity)
    (hdirection : a'.state.direction = a.state.direction) : InStep start motion a' := by
  constructor
  · rw [hcalls]
    exact h.agree.of_same hmoving hvelocity hdirection
  · rw [hcalls]
    exact h.inOrder

/-- A piece is added to the log. -/
theorem tell (h : InStep start motion a) {piece : List HardwareCall} {later : Option Motion}
    (hcalls : calls a'.hardware = calls a.hardware ++ piece)
    (hagree : ((start.replay (calls a.hardware)).replay piece).Agree a'.state later)
    (hinOrder : (start.replay (calls a.hardware)).InOrder piece) : InStep start later a' := by
  constructor
  · rw [hcalls, Outputs.replay_append]
    exact hagree
  · rw [hcalls, Outputs.inOrder_append]
    exact ⟨h.inOrder, hinOrder⟩

theorem stop (h : InStep start motion a) : InStep start motion a.stop :=
  h.tell a.calls_stop (Outputs.agree_halting h.agree.unmasked rfl motion)
    (Outputs.inOrder_halting _)

theorem reset (h : InStep start motion a) : InStep start motion a.reset :=
  h.tell a.calls_stop (Outputs.agree_halting h.agree.unmasked rfl motion)
    (Outputs.inOrder_halting _)

theorem endOnRelease (h : InStep start motion a) : InStep start motion a.endOnRelease := by
  refine h.tell a.calls_endOnRelease ?_ (Outputs.inOrder_arming _)
  rw [Outputs.replay_arming h.agree.unmasked, Axis.endOnRelease_state]
  split
  · exact h.agree.of_same rfl rfl rfl
  · exact h.agree

theorem readSwitches (h : InStep start motion a) :
    InStep start motion { a with hardware := (Axis.readSwitches a.hardware).2 } := by
  refine h.tell (Axis.calls_readSwitches a.hardware) ?_ (Outputs.inOrder_reading _)
  rw [Outputs.replay_reading h.agree.unmasked]
  exact h.agree

/-- A start goes by the motion it accepts, and a refused one by the one before. -/
theorem startMotion (h : InStep start motion a) (next : Motion) :
    InStep start ((a.accepted (.start next)).head?.or motion) (a.start next).2 := by
  rcases a.start_cases next with ⟨refusal, -, hrefused⟩ | ⟨plan, hpermit, hok, hstate⟩
  · have hnone : a.accepted (.start next) = [] := by
      simp only [Axis.accepted, hrefused]
    rw [hnone, hrefused]
    exact h
  · have haccepted : a.accepted (.start next) = [next] := by
      simp only [Axis.accepted, hok]
    obtain ⟨hrest, -⟩ := Axis.permit_eq_ok.mp hpermit
    have hstopped := h.agree.rate_eq
    rw [hrest] at hstopped
    refine h.tell (Axis.calls_start hpermit) ?_ (Outputs.inOrder_starting hstopped next _)
    rw [haccepted, hstate]
    exact Outputs.agree_starting h.agree hrest next plan

theorem takeEdge (h : InStep start motion a) (switch : LimitSwitch) (pressed : Bool)
    (now : UInt32) : InStep start motion (a.takeEdge switch pressed now).2 := by
  have hedged : InStep start motion
      { a with state := a.state.withEdge switch pressed now } := h.of_same rfl rfl rfl rfl
  unfold Axis.takeEdge
  split
  · exact hedged.stop
  · exact hedged

theorem switchEdge (h : InStep start motion a) (switch : LimitSwitch) (pressed : Bool)
    (now : UInt32) : InStep start motion (a.switchEdge switch pressed now).2 := by
  cases hdeb : a.state.debouncing switch now with
  | true =>
      rw [Axis.switchEdge_ignored hdeb]
      exact h.of_same rfl rfl rfl rfl
  | false =>
      rw [Axis.switchEdge_taken hdeb]
      exact h.takeEdge switch pressed now

theorem recoverEdge (h : InStep start motion a) (switch : LimitSwitch) (level : Bool)
    (now : UInt32) : InStep start motion (a.recoverEdge switch level now).2 := by
  rcases a.recoverEdge_cases switch level now with ⟨-, hedge⟩ | ⟨-, -, ⟨-, hedge⟩ | ⟨-, hedge⟩⟩
  · rw [hedge]
    exact h
  · rw [hedge]
    exact h.of_same rfl rfl rfl rfl
  · rw [hedge]
    exact h.takeEdge switch level now

theorem recoverEdges (h : InStep start motion a) (now : UInt32) :
    InStep start motion (a.recoverEdges now).2 :=
  (h.readSwitches.recoverEdge .home _ now).recoverEdge .far _ now

theorem encoderEdge (h : InStep start motion a) : InStep start motion a.encoderEdge.2 := by
  obtain ⟨segment, target, hleave⟩ := a.counted.enterThrough_eq a.counted.segment.following
  have hleft : InStep start motion { a with state := a.counted.leave.2 } := by
    rw [AxisState.leave, hleave]
    exact h.of_same rfl rfl rfl rfl
  rcases a.encoderEdge_cases with ⟨-, hedge⟩ | ⟨-, -, ⟨-, hedge⟩ | ⟨-, hedge⟩⟩
  · rw [hedge]
    exact h.of_same rfl rfl rfl rfl
  · rw [hedge]
    exact hleft
  · rw [hedge]
    exact hleft.stop

/-- The rate changes only during a motion. -/
theorem rampTick (h : InStep start motion a) : InStep start motion a.rampTick := by
  unfold Axis.rampTick
  split
  · exact h
  · next velocity hnext =>
    have hmoving : a.state.moving = true := by
      unfold AxisState.nextVelocity? at hnext
      cases hm : a.state.moving with
      | true => rfl
      | false =>
          rw [hm] at hnext
          cases hnext
    have hrunning := h.agree.rate_eq
    rw [hmoving] at hrunning
    have hcalls := CallLog.calls_perform (.changeRate velocity) a.hardware
    refine h.tell hcalls ?_ ?_
    · refine ⟨h.agree.unmasked, ?_, h.agree.still, h.agree.direction_eq, h.agree.ramp_eq⟩
      rw [hmoving]
      rfl
    · refine ⟨?_, trivial⟩
      rw [Outputs.Admits, hrunning]
      exact Option.some_ne_none _

/-- **One operation.** -/
theorem operate (h : InStep start motion a) (operation : AxisOperation) :
    InStep start ((a.accepted operation).head?.or motion) (a.operate operation) := by
  cases operation with
  | start next => exact h.startMotion next
  | encoderEdge => exact h.encoderEdge
  | rampTick => exact h.rampTick
  | switchEdge switch pressed time => exact h.switchEdge switch pressed time
  | recovery time => exact h.recoverEdges time
  | endOnRelease => exact h.endOnRelease
  | stop => exact h.stop
  | reset => exact h.reset

end InStep

/-! ## Every run -/

/-- Whether hardware has not been told anything in between. -/
def Untold {α : Type} [AxisHardware α] [CallLog α] (hardware later : α) : Prop :=
  calls later = calls hardware

theorem Operated.inStep {α : Type} [AxisHardware α] [CallLog α] {start : Outputs}
    {first a : Axis α} {motions : List Motion} (h : Operated Untold first a motions)
    (hfirst : InStep start none first) : InStep start motions.head? a := by
  induction h with
  | begun => exact hfirst
  | @operate a motions _ operation ih =>
      have hlatest : (a.accepted operation ++ motions).head? =
          (a.accepted operation).head?.or motions.head? := List.head?_append
      rw [hlatest]
      exact ih.operate operation
  | drift _ changed ih => exact ih.of_same changed rfl rfl rfl

theorem Outputs.admits_of_inOrder {earlier later : List HardwareCall} {call : HardwareCall}
    {o : Outputs} (h : o.InOrder (earlier ++ call :: later)) : (o.replay earlier).Admits call :=
  (Outputs.inOrder_append.mp h).2.1

/-- **The hardware does what the state says.** A new axis on hardware with both timers
stopped and nothing masked is operated on any number of times, while its switches close
and open as they please. Then what its calls amount to is this: nothing is masked; steps
are generated exactly while the axis moves, at its velocity and in its direction; the
ramp timer runs exactly while it moves in a motion with an acceleration, with the period
of that acceleration. The rate was changed only while steps were generated, and steps
were started only from a standstill, with the direction given before. -/
theorem outputs_follow_state {α : Type} [AxisHardware α] [CallLog α] {start : Outputs}
    {id : AxisId} {hardware : α} {a : Axis α} {motions : List Motion}
    (unmasked : start.masked = .empty) (noSteps : start.rate = none) (noRamp : start.ramp = none)
    (untold : calls hardware = []) (h : Operated Untold (.new id hardware) a motions) :
    let outputs := start.replay (calls a.hardware)
    outputs.masked = .empty ∧
    outputs.rate = (if a.state.moving then some a.state.velocity else none) ∧
    (a.state.moving = true → outputs.direction = some a.state.direction) ∧
    (a.state.moving = false → outputs.ramp = none) ∧
    (a.state.moving = true → ∃ motion, motions.head? = some motion ∧ outputs.ramp =
      if 0 < motion.acceleration then some (rampPeriod motion.acceleration) else none) ∧
    (∀ earlier rate later, calls a.hardware = earlier ++ .changeRate rate :: later →
      (start.replay earlier).rate ≠ none) ∧
    (∀ earlier direction later, calls a.hardware = earlier ++ .steer direction :: later →
      (start.replay earlier).rate = none) ∧
    (∀ earlier rate later, calls a.hardware = earlier ++ .startSteps rate :: later →
      (start.replay earlier).rate = none ∧ (start.replay earlier).direction ≠ none) := by
  have hread : calls (Axis.readSwitches hardware).2 = Outputs.reading := by
    rw [Axis.calls_readSwitches, untold, List.nil_append]
  have hnew : InStep start none (.new id hardware) := by
    constructor
    · show (start.replay (calls (Axis.readSwitches hardware).2)).Agree _ _
      rw [hread, Outputs.replay_reading unmasked]
      exact ⟨unmasked, noSteps, fun _ => noRamp, nofun, nofun⟩
    · show start.InOrder (calls (Axis.readSwitches hardware).2)
      rw [hread]
      exact Outputs.inOrder_reading start
  obtain ⟨hagree, horder⟩ := h.inStep hnew
  refine ⟨hagree.unmasked, hagree.rate_eq, hagree.direction_eq, hagree.still, hagree.ramp_eq,
    ?_, ?_, ?_⟩
  · intro earlier rate later hsplit
    rw [hsplit] at horder
    exact Outputs.admits_of_inOrder horder
  · intro earlier direction later hsplit
    rw [hsplit] at horder
    exact Outputs.admits_of_inOrder horder
  · intro earlier rate later hsplit
    rw [hsplit] at horder
    exact Outputs.admits_of_inOrder horder

/-- Back and forth: a motion stopped by the home switch, and one the other way, without
a ramp. -/
def returning : Axis Recorder :=
  (((((Axis.new .y (Recorder.new ⟨false, false⟩)).operate (.start ⟨.negative, -40, 10, 5, 20⟩)).operate
    .rampTick).operate (.switchEdge .home true 3)).operate (.start ⟨.positive, 9, 0, 7, 7⟩)).operate
      .encoderEdge

theorem returning_operated :
    Operated Untold (.new .y (Recorder.new ⟨false, false⟩)) returning
      [⟨.positive, 9, 0, 7, 7⟩, ⟨.negative, -40, 10, 5, 20⟩] :=
  .operate (.operate (.operate (.operate (.operate .begun (.start ⟨.negative, -40, 10, 5, 20⟩))
    .rampTick) (.switchEdge .home true 3)) (.start ⟨.positive, 9, 0, 7, 7⟩)) .encoderEdge

/-- The ramp timer of the first motion is not left running in the second. -/
theorem returning_outputs :
    returning.state.moving = true ∧
      (Outputs.replay (calls returning.hardware) ⟨.empty, none, none, none⟩).ramp = none ∧
      (Outputs.replay (calls returning.hardware) ⟨.empty, none, none, none⟩).direction =
        some .positive := by
  obtain ⟨-, -, hdirection, -, hramp, -⟩ := @outputs_follow_state Recorder _ _
    ⟨.empty, none, none, none⟩ .y (.new ⟨false, false⟩) returning _ rfl rfl rfl rfl
    returning_operated
  have hmoving : returning.state.moving = true := rfl
  obtain ⟨motion, hlatest, hperiod⟩ := hramp hmoving
  cases hlatest
  exact ⟨hmoving, hperiod, hdirection hmoving⟩

end XYStage
