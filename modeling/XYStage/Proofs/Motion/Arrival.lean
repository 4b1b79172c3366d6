/-
# XYStage.Proofs.Motion.Arrival -- where a motion ends, near the ends of the range too

A motion from anywhere goes as far as it is told or to the end of the range, whichever
comes first (`Passage.length`). With no room ahead every segment is complete before the
first count. The axis is set in motion all the same: the first count wraps around the
range, and the target is not reached again before `2 ^ 32` counts (`Passage.Stranded`).

Main statement: `motion_arrives`.
-/
import Mathlib.Algebra.Ring.Nat
import XYStage.Bench.Drive
import XYStage.Proofs.Motion.Guard

namespace XYStage

set_option autoImplicit false

/-! ## From the end of the range -/

namespace Passage

/-- An axis in motion from the end of the range, so many counts later. -/
structure Stranded (c : Passage) (count : Nat) (s : AxisState) : Prop where
  moving : s.moving = true
  direction_eq : s.direction = c.direction
  last : s.segment = .decelerate
  position_eq : s.position = c.origin + c.direction.sign * Int32.ofNat count
  target_eq : s.target = c.origin
  short : count < 2 ^ 32

theorem begin_stranded {c : Passage} {s : AxisState} {motion : Motion} (hspan : 0 < c.plan.span)
    (hdirection : motion.direction = c.direction) (hposition : s.position = c.origin)
    (hroom : c.room = 0) : c.Stranded 0 (s.begin motion c.plan) := by
  obtain ⟨hstands, hlast⟩ := (begin_left hspan hdirection hposition).2 hroom
  have horigin : c.point 0 = c.origin.toInt := by simp [point]
  refine ⟨rfl, hstands.direction_eq, hlast, ?_, ?_, by decide⟩
  · rw [show Int32.ofNat 0 = 0 from rfl, Int32.mul_zero, Int32.add_zero]
    exact Int32.toInt_inj.mp (hstands.position_eq.trans horigin)
  · exact Int32.toInt_inj.mp (hstands.target_eq.trans horigin)

theorem ofNat_eq_zero_iff (count : Nat) : Int32.ofNat count = 0 ↔ 2 ^ 32 ∣ count := by
  rw [← Int32.toInt_inj, Int32.toInt_ofNat', show (0 : Int32).toInt = 0 from rfl,
    ← Int.dvd_iff_bmod_eq_zero]
  exact Int.natCast_dvd_natCast

/-- Counts come back to where they began once they have been through the whole range. -/
theorem add_sign_mul_eq_iff (position : Int32) (direction : Direction) (count : Nat) :
    position + direction.sign * Int32.ofNat count = position ↔ 2 ^ 32 ∣ count := by
  rw [Int32.add_eq_left, ← ofNat_eq_zero_iff]
  cases direction with
  | positive =>
      show 1 * _ = _ ↔ _
      rw [Int32.one_mul]
  | negative =>
      have hzero : -(0 : Int32) = 0 := by decide
      show -1 * _ = _ ↔ _
      rw [Int32.neg_mul, Int32.one_mul, ← hzero, Int32.neg_inj, hzero]

/-- No position is beyond a target at the end of the range. -/
theorem segmentDone_iff_of_no_room {c : Passage} (hroom : c.room = 0) {s : AxisState}
    (hdirection : s.direction = c.direction) (htarget : s.target = c.origin) :
    s.segmentDone = true ↔ s.position = c.origin := by
  have hlow := s.position.le_toInt
  have hhigh := s.position.toInt_lt
  rw [AxisState.segmentDone, decide_eq_true_iff, hdirection, htarget, ← Int32.toInt_inj]
  rcases c.room_cases with ⟨hs, hend⟩ | ⟨hs, hend⟩ <;> rw [hs] <;> omega

/-- **One count of a motion from the end of the range.** -/
theorem Stranded.encoderEdge {α : Type} [AxisHardware α] {c : Passage} {count : Nat} {a : Axis α}
    (hroom : c.room = 0) (h : c.Stranded count a.state) :
    a.encoderEdge.1 = decide (count + 1 = 2 ^ 32) ∧
      (a.encoderEdge.1 = false → c.Stranded (count + 1) a.encoderEdge.2.state) := by
  have hshort := h.short
  have hposition : a.counted.position = c.origin + c.direction.sign * Int32.ofNat (count + 1) := by
    show a.state.position + a.state.direction.sign = _
    rw [h.position_eq, h.direction_eq, Direction.add_sign_mul_succ]
  have hdone : a.counted.segmentDone = true ↔ count + 1 = 2 ^ 32 := by
    rw [segmentDone_iff_of_no_room hroom (s := a.counted) h.direction_eq h.target_eq, hposition,
      add_sign_mul_eq_iff]
    omega
  rcases a.encoderEdge_cases with ⟨hquiet, hedge⟩ | ⟨-, hend, hleave⟩
  · have hgoing : count + 1 ≠ 2 ^ 32 := by
      refine (not_congr hdone).mp ?_
      rcases hquiet with hquiet | hquiet
      · exact absurd (h.moving.symm.trans hquiet) (by decide)
      · rw [hquiet]
        decide
    rw [hedge]
    exact ⟨(decide_eq_false hgoing).symm, fun _ =>
      ⟨h.moving, h.direction_eq, h.last, hposition, h.target_eq, by omega⟩⟩
  · have hlast : a.counted.leave = (false, a.counted) := by
      rw [AxisState.leave, show a.counted.segment = .decelerate from h.last]
      rfl
    rw [hlast] at hleave
    rcases hleave with ⟨hmore, -⟩ | ⟨-, hedge⟩
    · cases hmore
    · rw [hedge]
      refine ⟨(decide_eq_true (hdone.mp hend)).symm, fun hgoing => ?_⟩
      cases hgoing

theorem Stranded.of_standing {c : Passage} {count : Nat} {s s' : AxisState}
    (h : c.Stranded count s) (same : s'.standing = s.standing) : c.Stranded count s' := by
  obtain ⟨hmoving, hdirection, -, hposition, hsegment, htarget⟩ := Standing.mk.inj same
  exact ⟨hmoving.trans h.moving, hdirection.trans h.direction_eq, hsegment.trans h.last,
    hposition.trans h.position_eq, htarget.trans h.target_eq, h.short⟩

end Passage

/-- An operation that is no count leaves a motion that it does not stop where it is. -/
theorem Axis.operate_standing {α : Type} [AxisHardware α] {operation : AxisOperation}
    {a : Axis α}
    (uncounted : operation ≠ .encoderEdge) (before : a.state.moving = true)
    (after : (a.operate operation).state.moving = true) :
    (a.operate operation).state.standing = a.state.standing := by
  cases operation with
  | start motion =>
      rcases a.start_cases motion with ⟨refusal, -, hrefused⟩ | ⟨plan, hpermit, -, -⟩
      · exact congrArg (fun answer => answer.2.state.standing) hrefused
      · obtain ⟨hrest, -⟩ := permit_eq_ok.mp hpermit
        exact absurd (before.symm.trans hrest) (by decide)
  | encoderEdge => exact absurd rfl uncounted
  | rampTick => exact a.rampTick_standing
  | switchEdge switch pressed time =>
      exact ((a.switchEdge_standing switch pressed time).resolve_left fun hstop =>
        Bool.false_ne_true (hstop.2.symm.trans after)).2
  | recovery time =>
      exact ((a.recoverEdges_standing time).resolve_left fun hstop =>
        Bool.false_ne_true (hstop.2.symm.trans after)).2
  | endOnRelease =>
      show a.endOnRelease.state.standing = _
      rw [endOnRelease_state, if_pos before]
      rfl
  | stop => cases after
  | reset => cases after

/-! ## Runs -/

/-- An axis that was in motion as `first` is, and still is in the same motion, so many
counts later. Anything else may have been done with it, except to stop it. -/
inductive OnTheWay {α : Type} [AxisHardware α] (first : Axis α) : Nat → Axis α → Prop where
  | begun : OnTheWay first 0 first
  /-- A count that does not complete the motion. -/
  | count {n : Nat} {a : Axis α} (before : OnTheWay first n a) (short : a.encoderEdge.1 = false) :
      OnTheWay first (n + 1) a.encoderEdge.2
  | operate {n : Nat} {a : Axis α} (before : OnTheWay first n a) (operation : AxisOperation)
      (uncounted : operation ≠ .encoderEdge) (going : (a.operate operation).state.moving = true) :
      OnTheWay first n (a.operate operation)
  | readFlags {n : Nat} {a : Axis α} (before : OnTheWay first n a) : OnTheWay first n a.readFlags
  /-- The hardware is found in another state, its switches at other levels. -/
  | drift {n : Nat} {a : Axis α} (before : OnTheWay first n a) (hardware : α) :
      OnTheWay first n { a with hardware }

namespace OnTheWay

variable {α : Type} [AxisHardware α] {c : Passage} {first a : Axis α} {n : Nat}

/-- What each count carries on, and what depends on nothing else than the standing of an
axis in motion, holds all the way. -/
theorem carries {holds : Nat → AxisState → Prop} (h : OnTheWay first n a)
    (hfirst : holds 0 first.state)
    (moving : ∀ {count s}, holds count s → s.moving = true)
    (counted : ∀ {count} {a : Axis α}, holds count a.state → a.encoderEdge.1 = false →
      holds (count + 1) a.encoderEdge.2.state)
    (standing : ∀ {count s s'}, holds count s → s'.standing = s.standing → holds count s') :
    holds n a.state := by
  induction h with
  | begun => exact hfirst
  | count _ short ih => exact counted ih short
  | operate _ operation uncounted going ih =>
      exact standing ih (Axis.operate_standing uncounted (moving ih) going)
  | readFlags _ ih => exact standing ih rfl
  | drift _ _ ih => exact ih

theorem underway (h : OnTheWay first n a) (hfirst : c.Underway 0 first.state) :
    c.Underway n a.state :=
  h.carries hfirst (fun h => h.moving) (fun h short => h.encoderEdge.2.1 short)
    (fun h same => h.of_standing same)

theorem stranded (h : OnTheWay first n a) (hroom : c.room = 0)
    (hfirst : c.Stranded 0 first.state) : c.Stranded n a.state :=
  h.carries hfirst (fun h => h.moving) (fun h short => (h.encoderEdge hroom).2 short)
    (fun h same => h.of_standing same)

end OnTheWay

/-- **Where a motion ends.** With room ahead, an accepted motion takes the counts of its
distance, or as many as there are to the end of the range: as long as it goes on, there
were fewer, the position is as many counts from where it began, and the target is ahead;
the count that makes them up, and no other, completes the motion. With no room ahead the
axis moves from its target: the first count wraps around the range, and only the last of
`2 ^ 32` counts completes the motion. -/
theorem motion_arrives {α : Type} [AxisHardware α] {a : Axis α} {motion : Motion}
    (started : (a.start motion).1 = .ok ()) :
    let sign := motion.direction.sign
    let room := roomAhead motion.direction a.state.position
    let length := min motion.distance.toInt.natAbs room
    (0 < room → ∀ n b, OnTheWay (a.start motion).2 n b →
      n < length ∧ b.state.moving = true ∧
      b.state.position.toInt = a.state.position.toInt + sign.toInt * n ∧
      0 < (b.state.target.toInt - b.state.position.toInt) * sign.toInt ∧
      b.encoderEdge.1 = decide (n + 1 = length) ∧
      (b.encoderEdge.1 = true → b.encoderEdge.2.state.moving = false ∧
        b.encoderEdge.2.state.position.toInt = a.state.position.toInt + sign.toInt * length)) ∧
    (room = 0 → ∀ n b, OnTheWay (a.start motion).2 n b →
      n < 2 ^ 32 ∧ b.state.moving = true ∧
      b.state.position = a.state.position + sign * Int32.ofNat n ∧
      b.state.target = a.state.position ∧
      b.encoderEdge.1 = decide (n + 1 = 2 ^ 32)) := by
  obtain ⟨c, -, horigin, hdirection, hpos, hspan, -, hstart⟩ := start_passage started
  intro sign room length
  have hroom : c.room = room := by rw [Passage.room, horigin, hdirection]
  have hlength : c.length = length := by rw [Passage.length, hspan, hroom]
  have hpoint : ∀ n : Nat, c.point n = a.state.position.toInt + sign.toInt * n := by
    intro n
    rw [Passage.point, horigin, hdirection]
  constructor
  · intro hahead n b hrun
    have hbegin : c.Underway 0 (a.start motion).2.state := by
      rw [hstart]
      exact (Passage.begin_left hpos hdirection.symm horigin.symm).1 (hroom ▸ hahead)
    have h := hrun.underway hbegin
    obtain ⟨hcount, -, hend⟩ := h.encoderEdge
    have hstands := h.stands
    have hlt := Passage.lt_goal_segmentAt h.short
    rw [hlength] at hcount
    refine ⟨hlength ▸ h.short, h.moving, hstands.position_eq.trans (hpoint n), ?_, hcount,
      fun hdone => ?_⟩
    · rw [hstands.position_eq, hstands.target_eq, hpoint, hpoint]
      rcases motion.direction.sign_toInt with hs | hs <;>
        rw [show sign.toInt = _ from hs] <;> omega
    · have hlast : n + 1 = length := of_decide_eq_true (hcount.symm.trans hdone)
      rw [← hlast, ← hpoint]
      exact hend hdone
  · intro hnone n b hrun
    have hfull : c.room = 0 := hroom.trans hnone
    have hbegin : c.Stranded 0 (a.start motion).2.state := by
      rw [hstart]
      exact Passage.begin_stranded hpos hdirection.symm horigin.symm hfull
    have h := hrun.stranded hfull hbegin
    obtain ⟨hcount, -⟩ := h.encoderEdge hfull
    refine ⟨h.short, h.moving, ?_, h.target_eq.trans horigin, hcount⟩
    rw [h.position_eq, horigin, hdirection]

/-! ## Near the end of the range -/

/-- An axis at rest after so many counts away from home. -/
def countedOut (count : Nat) : Axis Recorder :=
  ((Axis.new .x (.new ⟨false, false⟩)).encoderEdges count).2

/-- A motion away from home at one velocity. -/
def outward (distance : Int32) : Motion where
  direction := .positive
  distance
  acceleration := 10
  startVelocity := 50
  holdVelocity := 50

/-- Of five counts there is room for two. -/
theorem outward_arrives_at_end :
    let a := countedOut 2147483645
    let b := (a.start (outward 5)).2.encoderEdge.2
    b.state.moving = true ∧ b.encoderEdge.1 = true ∧
      b.encoderEdge.2.state.moving = false ∧
      b.encoderEdge.2.state.position.toInt = 2147483647 := by
  intro a b
  obtain ⟨harrives, -⟩ := @motion_arrives Recorder _ a (outward 5) rfl
  obtain ⟨-, hmoving, -, -, hcount, hend⟩ :=
    harrives (by decide +kernel) 1 b (.count .begun (by decide +kernel))
  have hdone : b.encoderEdge.1 = true := hcount.trans (by decide +kernel)
  obtain ⟨hrest, hposition⟩ := hend hdone
  exact ⟨hmoving, hdone, hrest, hposition.trans (by decide +kernel)⟩

/-- With room for none the motion is accepted, and its one count wraps around the range
and does not complete it. -/
theorem outward_passes_end :
    let a := countedOut 2147483647
    let b := (a.start (outward 1)).2
    a.state.moving = false ∧ a.state.position = 2147483647 ∧
      (a.start (outward 1)).1 = .ok () ∧
      b.state.moving = true ∧ b.state.target = b.state.position ∧
      b.encoderEdge.1 = false ∧ b.encoderEdge.2.state.moving = true ∧
      b.encoderEdge.2.state.position = -2147483648 :=
  ⟨by decide +kernel, by decide +kernel, rfl, by decide +kernel, by decide +kernel,
    by decide +kernel, by decide +kernel, by decide +kernel⟩

end XYStage
