/-
# XYStage.Proofs.Motion.Planning -- the lengths of a velocity profile

Lengths and velocities are words, so each step of the plan has to stay in its
range: the squares of velocities and twice a ramp fit 64 bits, and a ramp that is
narrowed to 32 bits is at most half of the distance.

Main statement: the three segments of every plan add up to the distance
(`plan_sum`).
-/
import XYStage.Motion.Trapezoid

namespace XYStage

set_option autoImplicit false

namespace Trapezoid

theorem toNat_square (v : UInt32) : (v.toUInt64 * v.toUInt64).toNat = v.toNat * v.toNat := by
  have hbound : v.toNat * v.toNat < 2 ^ 64 :=
    calc v.toNat * v.toNat < 2 ^ 32 * 2 ^ 32 := Nat.mul_lt_mul'' v.toNat_lt v.toNat_lt
      _ = 2 ^ 64 := by decide
  rw [UInt64.toNat_mul, UInt32.toNat_toUInt64, Nat.mod_eq_of_lt hbound]

theorem toNat_rampLength (acceleration : UInt32) {vStart vHold : UInt32} (h : vStart ≤ vHold) :
    (rampLength acceleration vStart vHold).toNat =
      (vHold.toNat * vHold.toNat - vStart.toNat * vStart.toNat) / (2 * acceleration.toNat) := by
  have hle : vStart.toNat ≤ vHold.toNat := UInt32.le_iff_toNat_le.mp h
  have hsquares : vStart.toUInt64 * vStart.toUInt64 ≤ vHold.toUInt64 * vHold.toUInt64 := by
    rw [UInt64.le_iff_toNat_le, toNat_square, toNat_square]
    exact Nat.mul_le_mul hle hle
  have htwice : (2 * acceleration.toUInt64).toNat = 2 * acceleration.toNat := by
    have := acceleration.toNat_lt
    rw [UInt64.toNat_mul, UInt32.toNat_toUInt64, show (2 : UInt64).toNat = 2 from rfl,
      Nat.mod_eq_of_lt (by omega)]
  rw [rampLength, UInt64.toNat_div, UInt64.toNat_sub_of_le _ _ hsquares, toNat_square,
    toNat_square, htwice]

/-- Twice a ramp is at most the difference of squares it was made from. -/
theorem toNat_two_mul_rampLength (acceleration : UInt32) {vStart vHold : UInt32}
    (h : vStart ≤ vHold) :
    (2 * rampLength acceleration vStart vHold).toNat =
      2 * (rampLength acceleration vStart vHold).toNat := by
  have hsquare := (vHold.toUInt64 * vHold.toUInt64).toNat_lt
  rw [toNat_square] at hsquare
  have hramp : (rampLength acceleration vStart vHold).toNat * 2 ≤ vHold.toNat * vHold.toNat := by
    rw [toNat_rampLength acceleration h, ← Nat.div_div_eq_div_mul]
    calc (vHold.toNat * vHold.toNat - vStart.toNat * vStart.toNat) / 2 / acceleration.toNat * 2
        ≤ (vHold.toNat * vHold.toNat - vStart.toNat * vStart.toNat) / 2 * 2 :=
          Nat.mul_le_mul_right 2 (Nat.div_le_self _ _)
      _ ≤ vHold.toNat * vHold.toNat - vStart.toNat * vStart.toNat := Nat.div_mul_le_self _ _
      _ ≤ vHold.toNat * vHold.toNat := Nat.sub_le _ _
  rw [UInt64.toNat_mul, show (2 : UInt64).toNat = 2 from rfl, Nat.mod_eq_of_lt (by omega)]

/-- A plan has two equal ramps that fit the distance, and a hold for the rest. -/
theorem plan_eq_withRamp {acceleration vStart vHold total : UInt32} {plan : Trapezoid}
    (h : Trapezoid.plan acceleration vStart vHold total = .ok plan) :
    ∃ ramp, plan = withRamp ramp total ∧ 2 * ramp.toNat ≤ total.toNat := by
  simp only [Trapezoid.plan] at h
  split at h
  · cases h
  · split at h
    · cases h
      exact ⟨0, rfl, by simp⟩
    · next hv =>
      have hle : vStart ≤ vHold := UInt32.le_of_lt (UInt32.not_le.mp hv)
      split at h
      · cases h
        refine ⟨total / 2, rfl, ?_⟩
        rw [UInt32.toNat_div, show (2 : UInt32).toNat = 2 from rfl]
        omega
      · next hfit =>
        cases h
        refine ⟨_, rfl, ?_⟩
        rw [UInt64.not_lt, UInt64.le_iff_toNat_le, toNat_two_mul_rampLength acceleration hle,
          UInt32.toNat_toUInt64] at hfit
        rw [UInt64.toNat_toUInt32]
        exact Nat.le_trans (Nat.mul_le_mul_left 2 (Nat.mod_le _ _)) hfit

theorem toNat_withRamp_cruise {ramp total : UInt32} (h : 2 * ramp.toNat ≤ total.toNat) :
    (withRamp ramp total).cruise.toNat = total.toNat - 2 * ramp.toNat := by
  have htotal := total.toNat_lt
  have htwice : (2 * ramp).toNat = 2 * ramp.toNat := by
    rw [UInt32.toNat_mul, show (2 : UInt32).toNat = 2 from rfl, Nat.mod_eq_of_lt (by omega)]
  rw [withRamp, UInt32.toNat_sub_of_le _ _ (by rw [UInt32.le_iff_toNat_le, htwice]; exact h),
    htwice]

/-- **The segments of a plan add up to its distance.** -/
theorem plan_sum {acceleration vStart vHold total : UInt32} {plan : Trapezoid}
    (h : Trapezoid.plan acceleration vStart vHold total = .ok plan) :
    plan.rampUp.toNat + plan.cruise.toNat + plan.rampDown.toNat = total.toNat := by
  obtain ⟨ramp, rfl, hfit⟩ := plan_eq_withRamp h
  rw [toNat_withRamp_cruise hfit]
  simp only [withRamp]
  omega

/-! ## Segments -/

/-- Counts from the beginning of a motion to the end of a segment. -/
def endOf (plan : Trapezoid) : Segment → Nat
  | .accelerate => plan.rampUp.toNat
  | .hold => plan.rampUp.toNat + plan.cruise.toNat
  | .decelerate => plan.rampUp.toNat + plan.cruise.toNat + plan.rampDown.toNat

/-- Counts in the whole motion. -/
def span (plan : Trapezoid) : Nat :=
  plan.endOf .decelerate

/-- The segment after so many counts. -/
def segmentAt (plan : Trapezoid) (count : Nat) : Segment :=
  if count < plan.endOf .accelerate then .accelerate
  else if count < plan.endOf .hold then .hold
  else .decelerate

theorem segmentAt_accelerate {plan : Trapezoid} {count : Nat}
    (h : count < plan.endOf .accelerate) : plan.segmentAt count = .accelerate :=
  if_pos h

theorem segmentAt_hold {plan : Trapezoid} {count : Nat} (h : plan.endOf .accelerate ≤ count)
    (hlt : count < plan.endOf .hold) : plan.segmentAt count = .hold :=
  (if_neg (Nat.not_lt.mpr h)).trans (if_pos hlt)

theorem segmentAt_decelerate {plan : Trapezoid} {count : Nat} (h : plan.endOf .hold ≤ count) :
    plan.segmentAt count = .decelerate := by
  have hup : plan.endOf .accelerate ≤ plan.endOf .hold := Nat.le_add_right _ _
  exact (if_neg (Nat.not_lt.mpr (Nat.le_trans hup h))).trans (if_neg (Nat.not_lt.mpr h))

theorem lt_endOf_segmentAt {plan : Trapezoid} {count : Nat} (h : count < plan.span) :
    count < plan.endOf (plan.segmentAt count) := by
  unfold segmentAt
  split
  · assumption
  · split
    · assumption
    · exact h

theorem endOf_le_span (plan : Trapezoid) (segment : Segment) : plan.endOf segment ≤ plan.span := by
  cases segment <;> simp only [span, endOf] <;> omega

/-- Short of its end, a segment is the one of the next count too. -/
theorem segmentAt_succ {plan : Trapezoid} {count : Nat}
    (h : count + 1 < plan.endOf (plan.segmentAt count)) :
    plan.segmentAt (count + 1) = plan.segmentAt count := by
  by_cases hup : count < plan.endOf .accelerate
  · rw [segmentAt_accelerate hup] at h ⊢
    exact segmentAt_accelerate h
  · have hpast := Nat.not_lt.mp hup
    by_cases hhold : count < plan.endOf .hold
    · rw [segmentAt_hold hpast hhold] at h ⊢
      exact segmentAt_hold (Nat.le_succ_of_le hpast) h
    · have hpast := Nat.not_lt.mp hhold
      rw [segmentAt_decelerate hpast]
      exact segmentAt_decelerate (Nat.le_succ_of_le hpast)

end Trapezoid

end XYStage
