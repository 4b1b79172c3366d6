/-
# XYStage.Proofs.Ieee.Comparison -- when two numbers are equal

Magnitudes grow with their patterns, so equal numbers have equal patterns: they are
the same number, or both are zero. Whatever does not look at the sign of a zero gives
the same answer for both.

Main statement: `Single.eq_or_zero_of_equals`.
-/
import Mathlib.Algebra.Group.Nat.Defs
import Mathlib.Order.Monotone.Basic
import XYStage.Ieee.Single

namespace XYStage

set_option autoImplicit false

namespace Ieee.Format

theorem fractionWeight_pos (f : Format) : 0 < f.fractionWeight :=
  Nat.pow_pos (by decide)

theorem magnitude_of_fields (f : Format) (exponent : Nat) {fraction : Nat}
    (h : fraction < f.fractionWeight) :
    f.magnitude (f.fractionWeight * exponent + fraction) =
      if exponent = 0 then fraction else (f.fractionWeight + fraction) * 2 ^ (exponent - 1) := by
  unfold magnitude
  rw [Nat.mul_add_div f.fractionWeight_pos, Nat.div_eq_of_lt h, Nat.mul_add_mod,
    Nat.mod_eq_of_lt h]
  rfl

theorem magnitude_lt_succ (f : Format) (pattern : Nat) :
    f.magnitude pattern < f.magnitude (pattern + 1) := by
  have hfraction : pattern % f.fractionWeight < f.fractionWeight :=
    Nat.mod_lt _ f.fractionWeight_pos
  generalize hexponent : pattern / f.fractionWeight = exponent
  generalize hrest : pattern % f.fractionWeight = fraction at hfraction
  have hfields : pattern = f.fractionWeight * exponent + fraction := by
    rw [← hexponent, ← hrest, Nat.div_add_mod]
  have hpower : 0 < 2 ^ (exponent - 1) := Nat.two_pow_pos _
  by_cases hnext : fraction + 1 < f.fractionWeight
  · rw [hfields, Nat.add_assoc, magnitude_of_fields f exponent hfraction,
      magnitude_of_fields f exponent hnext]
    split
    · omega
    · exact Nat.mul_lt_mul_of_pos_right (by omega) hpower
  · -- The fraction overflows into the exponent.
    have hcarry : f.fractionWeight * exponent + fraction + 1 =
        f.fractionWeight * (exponent + 1) + 0 := by
      rw [Nat.mul_add]
      omega
    rw [hfields, hcarry, magnitude_of_fields f exponent hfraction,
      magnitude_of_fields f (exponent + 1) f.fractionWeight_pos, if_neg (Nat.succ_ne_zero exponent)]
    cases exponent with
    | zero => simpa using hfraction
    | succ less =>
        calc (f.fractionWeight + fraction) * 2 ^ less
            < (f.fractionWeight + f.fractionWeight) * 2 ^ less :=
              Nat.mul_lt_mul_of_pos_right (by omega) hpower
          _ = (f.fractionWeight + 0) * 2 ^ (less + 1) := by
              rw [Nat.add_zero, ← Nat.two_mul, Nat.pow_succ]
              ac_rfl

theorem magnitude_strictMono (f : Format) : StrictMono f.magnitude :=
  strictMono_nat_of_lt_succ f.magnitude_lt_succ

end Ieee.Format

namespace Single

open Ieee (binary32)

theorem eq_of_pattern {x y : Single} (hnegative : x.negative = y.negative)
    (hpattern : x.pattern = y.pattern) : x = y := by
  obtain ⟨bits⟩ := x
  obtain ⟨other⟩ := y
  have hsign : (0x80000000 ≤ bits.toNat ↔ 0x80000000 ≤ other.toNat) :=
    decide_eq_decide.mp hnegative
  have hrest : bits.toNat % 0x80000000 = other.toNat % 0x80000000 := hpattern
  have hbits : bits.toNat < 2 ^ 32 := bits.toNat_lt
  have hother : other.toNat < 2 ^ 32 := other.toNat_lt
  have hsame : bits.toNat = other.toNat := by omega
  rw [UInt32.toNat_inj.mp hsame]

theorem pattern_of_magnitude {x y : Single} (h : x.magnitude = y.magnitude) :
    x.pattern = y.pattern :=
  binary32.magnitude_strictMono.injective h

theorem pattern_eq_zero {x : Single} (h : x.magnitude = 0) : x.pattern = 0 :=
  binary32.magnitude_strictMono.injective h

/-- **Equality of numbers.** -/
theorem eq_or_zero_of_equals {x y : Single} (h : x.equals y = true) :
    x = y ∨ x.pattern = 0 ∧ y.pattern = 0 := by
  simp only [equals, Bool.and_eq_true, decide_eq_true_eq] at h
  obtain ⟨-, hunits⟩ := h
  unfold units at hunits
  by_cases hsign : x.negative = y.negative
  · refine .inl (eq_of_pattern hsign (pattern_of_magnitude ?_))
    rw [hsign] at hunits
    split at hunits <;> omega
  · -- One is at least zero and the other at most.
    have hzero : x.magnitude = 0 ∧ y.magnitude = 0 := by
      cases hx : x.negative <;> cases hy : y.negative
      · exact absurd (hx.trans hy.symm) hsign
      · simp only [hx, hy, Bool.false_eq_true, if_false, if_true] at hunits
        omega
      · simp only [hx, hy, Bool.false_eq_true, if_false, if_true] at hunits
        omega
      · exact absurd (hx.trans hy.symm) hsign
    exact .inr ⟨pattern_eq_zero hzero.1, pattern_eq_zero hzero.2⟩

theorem equals_self {x : Single} (h : x.isFinite = true) : x.equals x = true := by
  have hnumber : x.isNaN = false := by
    have hlt : x.pattern < binary32.infinity := of_decide_eq_true h
    exact decide_eq_false (Nat.lt_asymm hlt)
  simp [equals, hnumber]

/-- There are two zeros. -/
theorem eq_zero_of_pattern {x : Single} (h : x.pattern = 0) : x = ⟨0⟩ ∨ x = ⟨0x80000000⟩ := by
  cases hnegative : x.negative with
  | false => exact .inl (eq_of_pattern hnegative h)
  | true => exact .inr (eq_of_pattern hnegative h)

/-- What both zeros answer alike, equal numbers answer alike. -/
theorem congr_of_equals {τ : Type} (f : Single → τ) (zeros : f ⟨0⟩ = f ⟨0x80000000⟩)
    {x y : Single} (h : x.equals y = true) : f x = f y := by
  rcases eq_or_zero_of_equals h with rfl | ⟨hx, hy⟩
  · rfl
  · rcases eq_zero_of_pattern hx with rfl | rfl <;> rcases eq_zero_of_pattern hy with rfl | rfl
    · rfl
    · exact zeros
    · exact zeros.symm
    · rfl

end Single

end XYStage
