/-
# XYStage.Proofs.Ieee.Rounding -- what a format makes of a quotient

A quotient is rounded to a whole number of a power of two that depends on its size
(`Format.coarseness`), a significand below twice the fraction weight, and the pattern of
a finite result has the magnitude of just that (`magnitude_round`). The result is finite
exactly below `Format.overflow`, which lies halfway between the largest finite magnitude
and the next one that there would be: the tie goes up, because the significand there is
odd (`round_lt_infinity_iff`).

For 32-bit counts in single precision this says what they come back as
(`Single.toUInt32_ofUInt32`), and that they come back the same exactly if they have at
most 24 significant bits or are the largest count (`Single.toUInt32_ofUInt32_eq_iff`).
For doubles it says which of them single precision can hold
(`Double.isFinite_toSingle_iff`).
-/
import Mathlib.Algebra.Group.Nat.Defs
import Mathlib.Order.Monotone.Basic
import XYStage.Ieee.Double
import XYStage.Proofs.Ieee.Comparison

namespace XYStage

set_option autoImplicit false

/-! ## Quotients -/

theorem div_le_roundQuotient (n d : Nat) : n / d ≤ roundQuotient n d := by
  unfold roundQuotient
  split
  · exact Nat.le_refl _
  · split
    · exact Nat.le_succ _
    · split
      · exact Nat.le_refl _
      · exact Nat.le_succ _

theorem roundQuotient_le (n d : Nat) : roundQuotient n d ≤ n / d + 1 := by
  unfold roundQuotient
  split
  · exact Nat.le_succ _
  · split
    · exact Nat.le_refl _
    · split
      · exact Nat.le_succ _
      · exact Nat.le_refl _

/-- An even number is reached from halfway below it on. -/
theorem even_le_roundQuotient_iff {n d k : Nat} (hd : 0 < d) (even : k % 2 = 0) :
    k ≤ roundQuotient n d ↔ 2 * (k * d) ≤ 2 * n + d := by
  have hn := Nat.div_add_mod n d
  have hr := Nat.mod_lt n hd
  have hlow := div_le_roundQuotient n d
  have hhigh := roundQuotient_le n d
  rcases Nat.lt_trichotomy k (n / d + 1) with hk | hk | hk
  · have hkd : k * d ≤ n / d * d := Nat.mul_le_mul_right d (by omega)
    rw [Nat.mul_comm (n / d) d] at hkd
    constructor
    · intro _
      omega
    · intro _
      omega
  · -- The floor is odd, so a tie goes up.
    have hkd : k * d = d * (n / d) + d := by
      rw [hk, Nat.add_mul, Nat.one_mul, Nat.mul_comm]
    have hodd : ¬ n / d % 2 = 0 := by omega
    unfold roundQuotient
    rw [if_neg hodd, ite_self]
    split
    · constructor
      · intro _
        omega
      · intro _
        omega
    · constructor
      · intro _
        omega
      · intro _
        omega
  · have hkd : (n / d + 2) * d ≤ k * d := Nat.mul_le_mul_right d hk
    rw [Nat.add_mul, Nat.mul_comm (n / d) d] at hkd
    constructor
    · intro _
      omega
    · intro _
      omega

theorem roundQuotient_mul_right {c : Nat} (hc : 0 < c) (n d : Nat) :
    roundQuotient (n * c) (d * c) = roundQuotient n d := by
  have htwice (m : Nat) : 2 * (m * c) = 2 * m * c := (Nat.mul_assoc 2 m c).symm
  unfold roundQuotient
  rw [Nat.mul_mod_mul_right, Nat.mul_div_mul_right n d hc, htwice]
  simp only [Nat.mul_lt_mul_right hc]

theorem roundQuotient_of_dvd {n d : Nat} (hd : 0 < d) (h : d ∣ n) : roundQuotient n d = n / d := by
  unfold roundQuotient
  rw [Nat.mod_eq_zero_of_dvd h]
  exact if_pos hd

namespace Ieee.Format

theorem one_pos (f : Format) : 0 < f.one :=
  Nat.pow_pos (by decide)

/-! ## Significands -/

/-- The power of two to whose multiples a quotient is rounded. -/
def coarseness (f : Format) (n d : Nat) : Nat :=
  Nat.log2 (n / d) - f.fractionBits

/-- The number of those multiples. -/
def significand (f : Format) (n d : Nat) : Nat :=
  roundQuotient n (d * 2 ^ f.coarseness n d)

theorem round_eq (f : Format) (n d : Nat) :
    f.round n d = min (f.coarseness n d * f.fractionWeight + f.significand n d) f.infinity := rfl

theorem fractionWeight_mul_two_pow (f : Format) (k : Nat) :
    f.fractionWeight * 2 ^ k = 2 ^ (f.fractionBits + k) :=
  (Nat.pow_add 2 f.fractionBits k).symm

section Quotient

variable (f : Format) {n d : Nat} (hd : 0 < d)
include hd

/-- A quotient is less than twice the fraction weight times the power it is rounded to. -/
theorem lt_two_pow_coarseness :
    n < 2 * f.fractionWeight * (d * 2 ^ f.coarseness n d) := by
  have hlog : n / d < 2 ^ ((n / d).log2 + 1) := Nat.lt_log2_self
  have hexp : 2 ^ ((n / d).log2 + 1) ≤ 2 ^ (f.fractionBits + (f.coarseness n d + 1)) :=
    Nat.pow_le_pow_right (by decide) (by unfold coarseness; omega)
  rw [← f.fractionWeight_mul_two_pow, Nat.pow_succ] at hexp
  have hquotient := (Nat.div_lt_iff_lt_mul hd).mp (Nat.lt_of_lt_of_le hlog hexp)
  calc n < f.fractionWeight * (2 ^ f.coarseness n d * 2) * d := hquotient
    _ = 2 * f.fractionWeight * (d * 2 ^ f.coarseness n d) := by ac_rfl

/-- If it is rounded at all, it is not less than the fraction weight times that power. -/
theorem two_pow_coarseness_le (h : 0 < f.coarseness n d) :
    f.fractionWeight * (d * 2 ^ f.coarseness n d) ≤ n := by
  have hlog : (n / d).log2 = f.fractionBits + f.coarseness n d := by
    unfold coarseness at h ⊢
    omega
  have hne : n / d ≠ 0 := by
    intro hzero
    rw [hzero, show Nat.log2 0 = 0 from rfl] at hlog
    omega
  have hle := Nat.log2_self_le hne
  rw [hlog, ← f.fractionWeight_mul_two_pow] at hle
  calc f.fractionWeight * (d * 2 ^ f.coarseness n d)
      = f.fractionWeight * 2 ^ f.coarseness n d * d := by ac_rfl
    _ ≤ n := (Nat.le_div_iff_mul_le hd).mp hle

theorem significand_le : f.significand n d ≤ 2 * f.fractionWeight := by
  have hstep : 0 < d * 2 ^ f.coarseness n d := Nat.mul_pos hd (Nat.two_pow_pos _)
  have hlt := (Nat.div_lt_iff_lt_mul hstep).mpr (f.lt_two_pow_coarseness hd)
  exact Nat.le_trans (roundQuotient_le _ _) hlt

theorem le_significand (h : 0 < f.coarseness n d) : f.fractionWeight ≤ f.significand n d := by
  have hstep : 0 < d * 2 ^ f.coarseness n d := Nat.mul_pos hd (Nat.two_pow_pos _)
  exact Nat.le_trans ((Nat.le_div_iff_mul_le hstep).mpr (f.two_pow_coarseness_le hd h))
    (div_le_roundQuotient _ _)

end Quotient

/-! ## Magnitudes -/

/-- The pattern of a significand and its power of two, the carry into the exponent
included. -/
theorem magnitude_of_significand (f : Format) {power significand : Nat}
    (hle : significand ≤ 2 * f.fractionWeight)
    (hnormal : 0 < power → f.fractionWeight ≤ significand) :
    f.magnitude (power * f.fractionWeight + significand) = significand * 2 ^ power := by
  rcases Nat.lt_or_ge significand f.fractionWeight with hsmall | hlarge
  · have hzero : power = 0 := Nat.eq_zero_of_not_pos fun h => absurd (hnormal h) (by omega)
    rw [hzero, Nat.zero_mul, Nat.pow_zero, Nat.mul_one]
    exact f.magnitude_of_fields 0 hsmall
  · rcases Nat.lt_or_eq_of_le hle with hlt | hcarry
    · have hfields : power * f.fractionWeight + significand =
          f.fractionWeight * (power + 1) + (significand - f.fractionWeight) := by
        rw [Nat.mul_add, Nat.mul_comm power]
        omega
      rw [hfields, f.magnitude_of_fields (power + 1) (by omega), if_neg (Nat.succ_ne_zero power),
        Nat.add_sub_cancel' hlarge, Nat.add_sub_cancel]
    · have hfields : power * f.fractionWeight + significand =
          f.fractionWeight * (power + 2) + 0 := by
        rw [Nat.mul_add, Nat.mul_comm power]
        omega
      rw [hfields, f.magnitude_of_fields (power + 2) f.fractionWeight_pos,
        if_neg (Nat.succ_ne_zero _), hcarry]
      show (f.fractionWeight + 0) * 2 ^ (power + 1) = _
      rw [Nat.add_zero, Nat.pow_succ]
      ac_rfl

/-- **The magnitude of a finite result** is the quotient rounded once. -/
theorem magnitude_round (f : Format) {n d : Nat} (hd : 0 < d) (finite : f.round n d < f.infinity) :
    f.magnitude (f.round n d) = f.significand n d * 2 ^ f.coarseness n d := by
  have hround : f.round n d = f.coarseness n d * f.fractionWeight + f.significand n d := by
    rw [round_eq] at finite ⊢
    omega
  rw [hround]
  exact f.magnitude_of_significand (f.significand_le hd) (f.le_significand hd)

/-! ## Overflow -/

/-- The largest power of two but one to whose multiples a finite result is rounded. -/
def finePower (f : Format) : Nat :=
  2 ^ f.exponentBits - 4

/-- The least magnitude, in units, that is rounded to infinity. -/
def overflow (f : Format) : Nat :=
  (4 * f.fractionWeight - 1) * 2 ^ f.finePower

theorem overflow_mul (f : Format) (d : Nat) :
    f.overflow * d + d * 2 ^ f.finePower = 4 * f.fractionWeight * (d * 2 ^ f.finePower) := by
  have hpos := f.fractionWeight_pos
  have hone : 4 * f.fractionWeight - 1 + 1 = 4 * f.fractionWeight := by omega
  rw [overflow, Nat.mul_assoc, Nat.mul_comm _ d]
  conv_rhs => rw [← hone, Nat.add_mul, Nat.one_mul]

section Overflow

variable (f : Format) (wide : 2 ≤ f.exponentBits) {n d : Nat} (hd : 0 < d)
include wide

theorem infinity_eq : f.infinity = (f.finePower + 3) * f.fractionWeight := by
  have hfour : 2 ^ 2 ≤ 2 ^ f.exponentBits := Nat.pow_le_pow_right (by decide) wide
  have hpower : 2 ^ f.exponentBits - 1 = f.finePower + 3 := by
    unfold finePower
    omega
  show (2 ^ f.exponentBits - 1) * f.fractionWeight = _
  rw [hpower]

theorem round_lt_infinity : f.round n d < f.infinity ↔
    f.coarseness n d * f.fractionWeight + f.significand n d <
      (f.finePower + 3) * f.fractionWeight := by
  rw [round_eq, f.infinity_eq wide]
  omega

include hd

/-- Below the last binade there is no overflow. -/
theorem overflow_of_fine (h : f.coarseness n d ≤ f.finePower) :
    f.round n d < f.infinity ∧ n < f.overflow * d := by
  have hpos := f.fractionWeight_pos
  have hsmall := f.significand_le (n := n) hd
  have hoverflow := f.overflow_mul d
  have hunit : 0 < d * 2 ^ f.finePower := Nat.mul_pos hd (Nat.two_pow_pos _)
  have hpower : 2 ^ f.coarseness n d ≤ 2 ^ f.finePower := Nat.pow_le_pow_right (by decide) h
  have hn : n < 2 * f.fractionWeight * (d * 2 ^ f.finePower) :=
    Nat.lt_of_lt_of_le (f.lt_two_pow_coarseness hd)
      (Nat.mul_le_mul_left _ (Nat.mul_le_mul_left d hpower))
  have hexp : f.coarseness n d * f.fractionWeight ≤ f.finePower * f.fractionWeight :=
    Nat.mul_le_mul_right _ h
  have hweight : d * 2 ^ f.finePower ≤ f.fractionWeight * (d * 2 ^ f.finePower) :=
    Nat.le_mul_of_pos_left _ hpos
  rw [f.round_lt_infinity wide, Nat.add_mul]
  rw [Nat.mul_assoc] at hoverflow hn
  omega

/-- In the last binade the significand decides; its tie with the next power of two goes
up. -/
theorem overflow_of_last (h : f.coarseness n d = f.finePower + 1) :
    f.round n d < f.infinity ↔ n < f.overflow * d := by
  have hoverflow := f.overflow_mul d
  have hunit : 0 < d * 2 ^ f.finePower := Nat.mul_pos hd (Nat.two_pow_pos _)
  have hdouble : d * 2 ^ f.coarseness n d = 2 * (d * 2 ^ f.finePower) := by
    rw [h, Nat.pow_succ]
    ac_rfl
  have hcarry : 2 * f.fractionWeight ≤ f.significand n d ↔
      2 * (2 * f.fractionWeight * (d * 2 ^ f.coarseness n d)) ≤
        2 * n + d * 2 ^ f.coarseness n d :=
    even_le_roundQuotient_iff (by omega) (Nat.mul_mod_right 2 _)
  rw [hdouble, Nat.mul_assoc, Nat.mul_left_comm f.fractionWeight 2] at hcarry
  rw [f.round_lt_infinity wide, h, Nat.add_mul, Nat.add_mul]
  rw [Nat.mul_assoc] at hoverflow
  omega

/-- Above it everything overflows. -/
theorem overflow_of_coarse (h : f.finePower + 2 ≤ f.coarseness n d) :
    ¬ f.round n d < f.infinity ∧ ¬ n < f.overflow * d := by
  have hnormal := f.le_significand (n := n) hd (by omega)
  have hoverflow := f.overflow_mul d
  have hpower : 2 ^ (f.finePower + 2) ≤ 2 ^ f.coarseness n d :=
    Nat.pow_le_pow_right (by decide) h
  have hfour : 4 * f.fractionWeight * (d * 2 ^ f.finePower) ≤ n :=
    calc 4 * f.fractionWeight * (d * 2 ^ f.finePower)
        = f.fractionWeight * (d * 2 ^ (f.finePower + 2)) := by
          rw [Nat.pow_add, show 2 ^ 2 = 4 from rfl]
          ac_rfl
      _ ≤ f.fractionWeight * (d * 2 ^ f.coarseness n d) :=
          Nat.mul_le_mul_left _ (Nat.mul_le_mul_left d hpower)
      _ ≤ n := f.two_pow_coarseness_le hd (by omega)
  have hexp : (f.finePower + 2) * f.fractionWeight ≤ f.coarseness n d * f.fractionWeight :=
    Nat.mul_le_mul_right _ h
  rw [f.round_lt_infinity wide]
  rw [Nat.add_mul] at hexp ⊢
  omega

/-- **What is rounded to infinity**: everything from the overflow on. -/
theorem round_lt_infinity_iff : f.round n d < f.infinity ↔ n < f.overflow * d := by
  rcases Nat.lt_trichotomy (f.coarseness n d) (f.finePower + 1) with hfine | hlast | hcoarse
  · obtain ⟨hround, hn⟩ := f.overflow_of_fine wide hd (n := n) (by omega)
    exact iff_of_true hround hn
  · exact f.overflow_of_last wide hd hlast
  · obtain ⟨hround, hn⟩ := f.overflow_of_coarse wide hd hcoarse
    exact iff_of_false hround hn

end Overflow

end Ieee.Format

namespace Single

open Ieee (binary32)

/-! ## Single precision -/

theorem round_lt_signWeight (n d : Nat) : binary32.round n d < binary32.signWeight :=
  Nat.lt_of_le_of_lt (Nat.min_le_right _ _) (by decide)

theorem toNat_ofPattern (negative : Bool) {pattern : Nat} (h : pattern < binary32.signWeight) :
    (ofPattern negative pattern).bits.toNat =
      (if negative then binary32.signWeight else 0) + pattern := by
  have hweight : binary32.signWeight = 2147483648 := by decide
  rw [hweight] at h ⊢
  refine UInt32.toNat_ofNat_of_lt' ?_
  show _ < 2 ^ 32
  split <;> omega

theorem pattern_ofPattern (negative : Bool) {pattern : Nat} (h : pattern < binary32.signWeight) :
    (ofPattern negative pattern).pattern = pattern := by
  rw [Single.pattern, toNat_ofPattern negative h]
  split
  · rw [Nat.add_mod_left, Nat.mod_eq_of_lt h]
  · rw [Nat.zero_add, Nat.mod_eq_of_lt h]

/-- What is rounded is finite exactly below the overflow. -/
theorem isFinite_ofQuotient (negative : Bool) {n d : Nat} (hd : 0 < d) :
    (ofQuotient negative n d).isFinite = true ↔ n < binary32.overflow * d := by
  rw [isFinite, decide_eq_true_iff, ofQuotient, pattern_ofPattern _ (round_lt_signWeight n d)]
  exact binary32.round_lt_infinity_iff (by decide) hd

/-! ## Counts -/

/-- The number with at most 24 significant bits that is nearest to a count, ties to
even. -/
def nearestCount (n : Nat) : Nat :=
  roundQuotient n (2 ^ (n.log2 - 23)) * 2 ^ (n.log2 - 23)

theorem nearestCount_of_dvd {n : Nat} (h : 2 ^ (n.log2 - 23) ∣ n) : nearestCount n = n := by
  rw [nearestCount, roundQuotient_of_dvd (Nat.two_pow_pos _) h, Nat.div_mul_cancel h]

theorem nearestCount_of_lt {n : Nat} (h : n < 2 ^ 24) : nearestCount n = n := by
  apply nearestCount_of_dvd
  have hlog : n.log2 - 23 = 0 := by
    by_cases hzero : n = 0
    · rw [hzero]
      rfl
    · have := (Nat.log2_lt hzero).mpr h
      omega
  rw [hlog, Nat.pow_zero]
  exact Nat.one_dvd n

theorem log2_mul_two_pow {n : Nat} (h : n ≠ 0) (k : Nat) : (n * 2 ^ k).log2 = n.log2 + k := by
  have hpower : 0 < 2 ^ k := Nat.two_pow_pos k
  rw [Nat.log2_eq_iff (Nat.mul_ne_zero h (Nat.ne_of_gt hpower))]
  constructor
  · rw [Nat.pow_add]
    exact Nat.mul_le_mul_right _ (Nat.log2_self_le h)
  · rw [Nat.add_right_comm, Nat.pow_add]
    exact Nat.mul_lt_mul_of_pos_right Nat.lt_log2_self hpower

/-- The units of a count are rounded like the count. -/
theorem significand_count (n : Nat) :
    binary32.significand (n * 2 ^ 149) 1 * 2 ^ binary32.coarseness (n * 2 ^ 149) 1 =
      nearestCount n * 2 ^ 149 := by
  have hlog : binary32.coarseness (n * 2 ^ 149) 1 = (n * 2 ^ 149).log2 - 23 :=
    congrArg (fun m => m.log2 - 23) (Nat.div_one _)
  unfold Ieee.Format.significand
  rw [Nat.one_mul]
  by_cases hsmall : n < 2 ^ 24
  · -- The unit is as fine as the count needs.
    have hfine : binary32.coarseness (n * 2 ^ 149) 1 ≤ 149 := by
      rw [hlog]
      by_cases hzero : n = 0
      · rw [hzero, Nat.zero_mul]
        decide
      · rw [log2_mul_two_pow hzero]
        have := (Nat.log2_lt hzero).mpr hsmall
        omega
    have hdvd : 2 ^ binary32.coarseness (n * 2 ^ 149) 1 ∣ n * 2 ^ 149 :=
      Nat.dvd_mul_left_of_dvd (Nat.pow_dvd_pow 2 hfine) n
    rw [roundQuotient_of_dvd (Nat.two_pow_pos _) hdvd, Nat.div_mul_cancel hdvd,
      nearestCount_of_lt hsmall]
  · have hzero : n ≠ 0 := by omega
    have hlarge : 24 ≤ n.log2 := (Nat.le_log2 hzero).mpr (by omega)
    have hcoarse : binary32.coarseness (n * 2 ^ 149) 1 = n.log2 - 23 + 149 := by
      rw [hlog, log2_mul_two_pow hzero]
      omega
    rw [hcoarse, Nat.pow_add, roundQuotient_mul_right (Nat.two_pow_pos 149), nearestCount,
      Nat.mul_assoc]

/-- A count is its own nearest number exactly if it has at most 24 significant bits. -/
theorem nearestCount_eq_self_iff {n : Nat} :
    nearestCount n = n ↔ ∃ m k, m < 2 ^ 24 ∧ n = m * 2 ^ k := by
  constructor
  · intro hself
    have hdvd : 2 ^ (n.log2 - 23) ∣ nearestCount n := Nat.dvd_mul_left _ _
    rw [hself] at hdvd
    refine ⟨n / 2 ^ (n.log2 - 23), n.log2 - 23, ?_, (Nat.div_mul_cancel hdvd).symm⟩
    rw [Nat.div_lt_iff_lt_mul (Nat.two_pow_pos _), ← Nat.pow_add]
    exact Nat.lt_of_lt_of_le Nat.lt_log2_self (Nat.pow_le_pow_right (by decide) (by omega))
  · rintro ⟨m, k, hm, rfl⟩
    apply nearestCount_of_dvd
    by_cases hzero : m = 0
    · rw [hzero, Nat.zero_mul]
      exact Nat.dvd_zero _
    · have hlog := (Nat.log2_lt hzero).mpr hm
      rw [log2_mul_two_pow hzero]
      exact Nat.dvd_mul_left_of_dvd (Nat.pow_dvd_pow 2 (by omega)) m

theorem nearestCount_le {n : Nat} (h : n < 2 ^ 32) : nearestCount n ≤ 2 ^ 32 := by
  by_cases hsmall : n < 2 ^ 24
  · rw [nearestCount_of_lt hsmall]
    omega
  · have hzero : n ≠ 0 := by omega
    have hlarge : 24 ≤ n.log2 := (Nat.le_log2 hzero).mpr (by omega)
    have hlog : n.log2 < 32 := (Nat.log2_lt hzero).mpr h
    have hfloor : n / 2 ^ (n.log2 - 23) < 2 ^ 24 := by
      rw [Nat.div_lt_iff_lt_mul (Nat.two_pow_pos _), ← Nat.pow_add]
      exact Nat.lt_of_lt_of_le Nat.lt_log2_self (Nat.pow_le_pow_right (by decide) (by omega))
    calc nearestCount n ≤ 2 ^ 24 * 2 ^ (n.log2 - 23) :=
          Nat.mul_le_mul_right _ (Nat.le_trans (roundQuotient_le _ _) hfloor)
      _ ≤ 2 ^ 24 * 2 ^ 8 := Nat.mul_le_mul_left _ (Nat.pow_le_pow_right (by decide) (by omega))
      _ = 2 ^ 32 := by decide

theorem isFinite_ofUInt32 (n : UInt32) : (ofUInt32 n).isFinite = true := by
  refine (isFinite_ofQuotient _ (by decide)).mpr ?_
  have hn := n.toNat_lt
  show n.toNat * 2 ^ 149 < (4 * 2 ^ 23 - 1) * 2 ^ 252 * 1
  omega

/-- **A count as a number** is the nearest one with at most 24 significant bits. -/
theorem magnitude_ofUInt32 (n : UInt32) :
    (ofUInt32 n).magnitude = nearestCount n.toNat * 2 ^ 149 := by
  have hfinite := isFinite_ofUInt32 n
  have hpattern : (ofUInt32 n).pattern = binary32.round (n.toNat * 2 ^ 149) 1 :=
    pattern_ofPattern _ (round_lt_signWeight _ _)
  rw [isFinite, decide_eq_true_iff, hpattern] at hfinite
  rw [magnitude, hpattern, binary32.magnitude_round (by decide) hfinite, significand_count]

theorem negative_ofUInt32 (n : UInt32) : (ofUInt32 n).negative = false := by
  have hweight : binary32.signWeight = 2147483648 := by decide
  have hround := round_lt_signWeight (n.toNat * 2 ^ 149) 1
  have hbits : (ofUInt32 n).bits.toNat = 0 + binary32.round (n.toNat * 2 ^ 149) 1 :=
    toNat_ofPattern false hround
  rw [negative, decide_eq_false_iff_not, UInt32.le_iff_toNat_le, hbits]
  rw [hweight] at hround
  show ¬ 2147483648 ≤ _
  omega

theorem isNaN_ofUInt32 (n : UInt32) : (ofUInt32 n).isNaN = false := by
  have hlt : (ofUInt32 n).pattern < binary32.infinity := of_decide_eq_true (isFinite_ofUInt32 n)
  exact decide_eq_false (Nat.lt_asymm hlt)

theorem units_ofUInt32 (n : UInt32) :
    (ofUInt32 n).units = (nearestCount n.toNat * 2 ^ 149 : Nat) := by
  rw [units, negative_ofUInt32, magnitude_ofUInt32]
  rfl

/-- What a count comes back as; what is rounded up to `2 ^ 32` gives the largest. -/
theorem toUInt32_ofUInt32 (n : UInt32) :
    (ofUInt32 n).toUInt32 = UInt32.ofNat (min (nearestCount n.toNat) 0xffffffff) := by
  have hpart : (ofUInt32 n).integerPart = nearestCount n.toNat := by
    rw [integerPart, magnitude_ofUInt32]
    exact Nat.mul_div_cancel _ (Nat.two_pow_pos 149)
  rw [toUInt32, isNaN_ofUInt32, negative_ofUInt32, hpart]
  rfl

/-- **The counts that come back.** -/
theorem toUInt32_ofUInt32_eq_iff {n : UInt32} :
    (ofUInt32 n).toUInt32 = n ↔
      n = 0xffffffff ∨ ∃ m k, m < 2 ^ 24 ∧ n.toNat = m * 2 ^ k := by
  have hn := n.toNat_lt
  rw [toUInt32_ofUInt32, ← nearestCount_eq_self_iff, ← UInt32.toNat_inj, ← UInt32.toNat_inj,
    UInt32.toNat_ofNat_of_lt' (by show _ < 2 ^ 32; omega)]
  show _ ↔ n.toNat = 4294967295 ∨ _
  constructor
  · intro hsame
    omega
  · rintro (hlargest | hself)
    · rw [hlargest, show nearestCount 4294967295 = 4294967296 by decide +kernel]
      rfl
    · rw [hself]
      omega

end Single

namespace Double

open Ieee (binary32 binary64)

/-! ## Doubles in single precision -/

/-- The least magnitude of a double, in units of double precision, that single precision
does not hold: `2 ^ 128 - 2 ^ 103`. -/
def singleOverflow : Nat :=
  (2 ^ 25 - 1) * 2 ^ 103 * binary64.one

theorem singleOverflow_le_magnitude {x : Double} (h : ¬ x.pattern < binary64.infinity) :
    singleOverflow ≤ x.magnitude := by
  have hmono := binary64.magnitude_strictMono.monotone (Nat.le_of_not_lt h)
  exact Nat.le_trans (by decide +kernel) hmono

/-- **The doubles that stay finite** in single precision. -/
theorem isFinite_toSingle_iff (x : Double) :
    x.toSingle.isFinite = true ↔ x.magnitude < singleOverflow := by
  unfold toSingle
  by_cases hfinite : x.pattern < binary64.infinity
  · have hyes : x.isFinite = true := decide_eq_true hfinite
    rw [if_pos hyes, Single.isFinite_ofQuotient _ binary64.one_pos]
    have hscale : binary32.overflow * binary64.one = singleOverflow * binary32.one := by
      unfold singleOverflow
      rw [Nat.mul_right_comm]
      exact congrArg (· * binary64.one) (by decide +kernel)
    rw [hscale, Nat.mul_lt_mul_right binary32.one_pos]
  · have hno : ¬ x.isFinite = true := fun h => hfinite (of_decide_eq_true h)
    rw [if_neg hno]
    have hlarge := singleOverflow_le_magnitude hfinite
    constructor
    · intro hsingle
      exfalso
      revert hsingle
      cases x.isInfinite <;> cases x.negative <;> decide +kernel
    · intro hsmall
      omega

end Double

end XYStage
