/-
# XYStage.Proofs.Motion.Ramps -- the arithmetic of a plan is exact

A plan is computed in words of 32 and of 64 bits. `Trapezoid.exactPlan` computes it in
whole numbers, and gives nothing as soon as a result on the way does not fit the word that
the plan has it in, a difference is negative, or a divisor is zero. None of these happens:
what is divided is less than `2 ^ 64`, so twice the quotient is too, and a ramp that is
narrowed to 32 bits is at most half of the distance.

Main statement: no word of a plan overflows, and each of its ramps is the shorter one of
what the velocities take and half of the distance (`Trapezoid.plan_is_exact`).
-/
import Mathlib.Algebra.Group.Nat.Defs
import XYStage.Proofs.Motion.Planning

namespace XYStage

set_option autoImplicit false

/-! ## Whole numbers in words -/

namespace Word

/-- A whole number, if a word of so many bits holds it. -/
def held (bits n : Nat) : Option Nat :=
  if n < 2 ^ bits then some n else none

/-- A difference, if it is not negative. -/
def difference (m n : Nat) : Option Nat :=
  if n ≤ m then some (m - n) else none

/-- A quotient, unless the divisor is zero. -/
def quotient (n divisor : Nat) : Option Nat :=
  if divisor = 0 then none else some (n / divisor)

theorem held_eq_some {bits n : Nat} (h : n < 2 ^ bits) : held bits n = some n :=
  if_pos h

theorem difference_eq_some {m n : Nat} (h : n ≤ m) : difference m n = some (m - n) :=
  if_pos h

theorem quotient_eq_some {n divisor : Nat} (h : divisor ≠ 0) :
    quotient n divisor = some (n / divisor) :=
  if_neg h

end Word

namespace Trapezoid

open Word

/-! ## The plan in whole numbers -/

/-- The lengths of the three segments as whole numbers. -/
def counts (p : Trapezoid) : Nat × Nat × Nat :=
  (p.rampUp.toNat, p.cruise.toNat, p.rampDown.toNat)

/-- Two ramps of the same length, and a hold for the rest of `total`. -/
def exactWithRamp (ramp total : Nat) : Option (Nat × Nat × Nat) := do
  let both ← held 32 (2 * ramp)
  let cruise ← difference total both
  return (ramp, cruise, ramp)

/-- The counts needed to change velocity between `vStart` and `vHold`. -/
def exactRampLength (acceleration vStart vHold : Nat) : Option Nat := do
  let squareHold ← held 64 (vHold * vHold)
  let squareStart ← held 64 (vStart * vStart)
  let gain ← difference squareHold squareStart
  let divisor ← held 64 (2 * acceleration)
  quotient gain divisor

/-- The plan, with each result on the way held by the word that the plan has it in. -/
def exactPlan (acceleration vStart vHold total : Nat) :
    Option (Except PlanError (Nat × Nat × Nat)) :=
  if acceleration = 0 ∧ vHold ≠ vStart then some (.error .zeroAcceleration)
  else if vHold ≤ vStart then some (.ok (0, total, 0))
  else do
    let ramp ← exactRampLength acceleration vStart vHold
    let both ← held 64 (2 * ramp)
    if total < both then
      let half ← quotient total 2
      let lengths ← exactWithRamp half total
      return .ok lengths
    else
      let ramp ← held 32 ramp
      let lengths ← exactWithRamp ramp total
      return .ok lengths

/-! ## No word overflows -/

theorem exactWithRamp_eq {ramp total : UInt32} (h : 2 * ramp.toNat ≤ total.toNat) :
    exactWithRamp ramp.toNat total.toNat = some (withRamp ramp total).counts := by
  have hboth : 2 * ramp.toNat < 2 ^ 32 := Nat.lt_of_le_of_lt h total.toNat_lt
  rw [exactWithRamp, held_eq_some hboth, Option.bind_eq_bind, Option.bind_some,
    difference_eq_some h, counts, toNat_withRamp_cruise h]
  rfl

theorem exactRampLength_eq {acceleration vStart vHold : UInt32} (h : vStart < vHold)
    (ramped : acceleration ≠ 0) :
    exactRampLength acceleration.toNat vStart.toNat vHold.toNat =
      some (rampLength acceleration vStart vHold).toNat := by
  have hle : vStart ≤ vHold := UInt32.le_of_lt h
  have hsquare (v : UInt32) : v.toNat * v.toNat < 2 ^ 64 := by
    rw [← toNat_square]
    exact UInt64.toNat_lt _
  have hgain : vStart.toNat * vStart.toNat ≤ vHold.toNat * vHold.toNat :=
    Nat.mul_le_mul (UInt32.le_iff_toNat_le.mp hle) (UInt32.le_iff_toNat_le.mp hle)
  have hdivisor : 2 * acceleration.toNat < 2 ^ 64 := by
    have := acceleration.toNat_lt
    omega
  have hzero : 2 * acceleration.toNat ≠ 0 := by
    have := mt UInt32.toNat_inj.mp ramped
    rw [show (0 : UInt32).toNat = 0 from rfl] at this
    omega
  simp only [exactRampLength, held_eq_some (hsquare vHold), held_eq_some (hsquare vStart),
    difference_eq_some hgain, held_eq_some hdivisor, quotient_eq_some hzero, Option.bind_eq_bind,
    Option.bind_some, toNat_rampLength acceleration hle]

/-- Between different velocities, the ramps are as long as they take, if they fit. -/
theorem plan_of_rise {acceleration vStart vHold : UInt32} (h : vStart < vHold)
    (ramped : acceleration ≠ 0) (total : UInt32) :
    plan acceleration vStart vHold total = .ok (withRamp
      (if total.toNat < 2 * (rampLength acceleration vStart vHold).toNat then total / 2
        else (rampLength acceleration vStart vHold).toUInt32) total) := by
  have hfits : total.toUInt64 < 2 * rampLength acceleration vStart vHold ↔
      total.toNat < 2 * (rampLength acceleration vStart vHold).toNat := by
    rw [UInt64.lt_iff_toNat_lt, toNat_two_mul_rampLength acceleration (UInt32.le_of_lt h),
      UInt32.toNat_toUInt64]
  unfold plan
  rw [if_neg fun hzero => ramped hzero.1, if_neg (UInt32.not_le.mpr h)]
  simp only [hfits]
  split <;> rfl

/-- What ramps there are when the velocities are equal or there is an acceleration. -/
theorem plan_eq_ok {acceleration vStart vHold : UInt32} (total : UInt32)
    (h : ¬(acceleration = 0 ∧ vHold ≠ vStart)) :
    ∃ ramp, plan acceleration vStart vHold total = .ok (withRamp ramp total) ∧
      (vHold ≤ vStart → ramp = 0) ∧
      (vStart < vHold → ramp.toNat =
        min ((vHold.toNat ^ 2 - vStart.toNat ^ 2) / (2 * acceleration.toNat)) (total.toNat / 2)) := by
  by_cases hlevel : vHold ≤ vStart
  · refine ⟨0, ?_, fun _ => rfl, fun hrise => absurd hlevel (UInt32.not_le.mpr hrise)⟩
    rw [plan, if_neg h, if_pos hlevel]
  · have hrise : vStart < vHold := UInt32.not_le.mp hlevel
    have hramped : acceleration ≠ 0 := fun hzero =>
      h ⟨hzero, fun heq => hlevel (UInt32.le_of_eq heq)⟩
    have hlength := toNat_rampLength acceleration (UInt32.le_of_lt hrise)
    have htotal := total.toNat_lt
    refine ⟨_, plan_of_rise hrise hramped total, fun hle => absurd hle hlevel, fun _ => ?_⟩
    rw [Nat.pow_two, Nat.pow_two, ← hlength]
    split
    · rw [UInt32.toNat_div]
      show total.toNat / 2 = _
      omega
    · rw [UInt64.toNat_toUInt32, Nat.mod_eq_of_lt (by omega)]
      omega

/-- A plan in words is the one in whole numbers, which has every result on the way. -/
theorem exactPlan_eq (acceleration vStart vHold total : UInt32) :
    exactPlan acceleration.toNat vStart.toNat vHold.toNat total.toNat =
      some ((plan acceleration vStart vHold total).map counts) := by
  have hzero : acceleration.toNat = (0 : UInt32).toNat ↔ acceleration = 0 := UInt32.toNat_inj
  have hfails : acceleration.toNat = 0 ∧ vHold.toNat ≠ vStart.toNat ↔
      acceleration = 0 ∧ vHold ≠ vStart := and_congr hzero (not_congr UInt32.toNat_inj)
  unfold exactPlan
  simp only [hfails, ← UInt32.le_iff_toNat_le]
  by_cases hfail : acceleration = 0 ∧ vHold ≠ vStart
  · rw [if_pos hfail, plan, if_pos hfail]
    rfl
  · rw [if_neg hfail]
    by_cases hlevel : vHold ≤ vStart
    · have hwhole : (withRamp 0 total).counts = (0, total.toNat, 0) := by
        rw [counts, toNat_withRamp_cruise (Nat.zero_le _)]
        rfl
      rw [if_pos hlevel, plan, if_neg hfail, if_pos hlevel, Except.map, hwhole]
    · have hrise : vStart < vHold := UInt32.not_le.mp hlevel
      have hramped : acceleration ≠ 0 := fun hzero =>
        hfail ⟨hzero, fun heq => hlevel (UInt32.le_of_eq heq)⟩
      have hboth : 2 * (rampLength acceleration vStart vHold).toNat < 2 ^ 64 := by
        rw [← toNat_two_mul_rampLength acceleration (UInt32.le_of_lt hrise)]
        exact UInt64.toNat_lt _
      rw [if_neg hlevel, plan_of_rise hrise hramped, exactRampLength_eq hrise hramped]
      simp only [Option.bind_eq_bind, Option.bind_some, held_eq_some hboth]
      by_cases hshort : total.toNat < 2 * (rampLength acceleration vStart vHold).toNat
      · have hhalf : total.toNat / 2 = (total / 2).toNat := (UInt32.toNat_div total 2).symm
        have hfit : 2 * (total / 2).toNat ≤ total.toNat := by omega
        rw [if_pos hshort, if_pos hshort, quotient_eq_some (by decide), Option.bind_some, hhalf,
          exactWithRamp_eq hfit]
        rfl
      · have htotal := total.toNat_lt
        have hnarrow : (rampLength acceleration vStart vHold).toNat =
            (rampLength acceleration vStart vHold).toUInt32.toNat := by
          rw [UInt64.toNat_toUInt32, Nat.mod_eq_of_lt (by omega)]
        have hfit : 2 * (rampLength acceleration vStart vHold).toUInt32.toNat ≤ total.toNat := by
          omega
        rw [if_neg hshort, if_neg hshort, held_eq_some (by omega), Option.bind_some, hnarrow,
          exactWithRamp_eq hfit]
        rfl

/-- **The arithmetic of a plan is exact.** For all words, the plan is the one in whole
numbers, in which every result on the way fits its word and no divisor is zero. There is
none exactly if the velocities differ and the acceleration is zero. Any other has two equal
ramps and adds up to the distance; a ramp is empty unless the velocity rises, and then has
the counts that this takes at the acceleration, or half of the distance if that is less. -/
theorem plan_is_exact (acceleration vStart vHold total : UInt32) :
    exactPlan acceleration.toNat vStart.toNat vHold.toNat total.toNat =
        some ((plan acceleration vStart vHold total).map counts) ∧
      (plan acceleration vStart vHold total = .error .zeroAcceleration ↔
        acceleration = 0 ∧ vHold ≠ vStart) ∧
      (¬(acceleration = 0 ∧ vHold ≠ vStart) →
        ∃ p, plan acceleration vStart vHold total = .ok p ∧ p.rampUp = p.rampDown ∧
          p.rampUp.toNat + p.cruise.toNat + p.rampDown.toNat = total.toNat ∧
          (vHold ≤ vStart → p.rampUp = 0) ∧
          (vStart < vHold → p.rampUp.toNat =
            min ((vHold.toNat ^ 2 - vStart.toNat ^ 2) / (2 * acceleration.toNat))
              (total.toNat / 2))) := by
  refine ⟨exactPlan_eq acceleration vStart vHold total, ⟨fun herror => ?_, fun hfail => if_pos hfail⟩,
    fun hfine => ?_⟩
  · refine Decidable.of_not_not fun hfine => ?_
    obtain ⟨ramp, hplan, -⟩ := plan_eq_ok total hfine
    rw [herror] at hplan
    cases hplan
  · obtain ⟨ramp, hplan, hlevel, hrise⟩ := plan_eq_ok total hfine
    exact ⟨withRamp ramp total, hplan, rfl, plan_sum hplan, hlevel, hrise⟩

end Trapezoid

end XYStage
