/-
# XYStage.Proofs.Ieee.Value -- the number a pattern stands for

The standard reads thirty-two bits as a sign, an exponent and a fraction, and says which
number they stand for (`Single.value?`); with the largest exponent it is none. Operations
go by whole numbers of the least positive value instead. The two readings are the same
(`value?_eq_some_iff`), so patterns compare like their numbers (`lt_iff_value_lt`), and
what becomes of one as a count is its integer part (`toNat_toUInt32`).
-/
import Mathlib.Algebra.Order.Floor.Semifield
import Mathlib.Data.Rat.Floor
import Mathlib.Tactic.Ring
import XYStage.Proofs.Ieee.Rounding

namespace XYStage

set_option autoImplicit false

namespace Single

open Ieee (binary32)

/-! ## The fields of a pattern -/

def sign (x : Single) : Nat :=
  x.bits.toNat / 2 ^ 31

def exponent (x : Single) : Nat :=
  x.bits.toNat / 2 ^ 23 % 2 ^ 8

def fraction (x : Single) : Nat :=
  x.bits.toNat % 2 ^ 23

/-- The number that the fields of a pattern stand for. Infinities and NaNs, which have the
largest exponent, stand for none. -/
def value? (x : Single) : Option ℚ :=
  if x.exponent = 255 then none
  else if x.exponent = 0 then some ((-1) ^ x.sign * (x.fraction / 2 ^ 149))
  else some ((-1) ^ x.sign * ((1 + x.fraction / 2 ^ 23) * (2 ^ x.exponent / 2 ^ 127)))

theorem sign_eq (x : Single) : x.sign = if x.negative then 1 else 0 := by
  have hbits := x.bits.toNat_lt
  unfold sign
  by_cases h : (0x80000000 : UInt32) ≤ x.bits
  · have hle : 2147483648 ≤ x.bits.toNat := UInt32.le_iff_toNat_le.mp h
    rw [show x.negative = true from decide_eq_true h, if_pos rfl]
    omega
  · have hlt : x.bits.toNat < 2147483648 := UInt32.lt_iff_toNat_lt.mp (UInt32.not_le.mp h)
    rw [show x.negative = false from decide_eq_false h, if_neg (by decide)]
    omega

theorem pattern_eq (x : Single) : x.pattern = x.exponent * 2 ^ 23 + x.fraction := by
  show x.bits.toNat % 2147483648 = _
  unfold exponent fraction
  omega

theorem fraction_lt (x : Single) : x.fraction < 2 ^ 23 :=
  Nat.mod_lt _ (by decide)

theorem exponent_le (x : Single) : x.exponent ≤ 255 :=
  Nat.le_of_lt_succ (Nat.mod_lt _ (by decide))

theorem isFinite_iff_exponent {x : Single} : x.isFinite = true ↔ x.exponent ≠ 255 := by
  have hfraction := x.fraction_lt
  have hexponent := x.exponent_le
  rw [isFinite, decide_eq_true_iff, x.pattern_eq]
  show _ < 2139095040 ↔ _
  omega

theorem magnitude_eq (x : Single) :
    x.magnitude =
      if x.exponent = 0 then x.fraction else (2 ^ 23 + x.fraction) * 2 ^ (x.exponent - 1) := by
  rw [magnitude, x.pattern_eq, Nat.mul_comm]
  exact binary32.magnitude_of_fields x.exponent x.fraction_lt

/-! ## The number in units -/

theorem units_eq (x : Single) : (x.units : ℚ) = (-1) ^ x.sign * x.magnitude := by
  rw [units, x.sign_eq]
  cases x.negative with
  | true => simp
  | false => simp

theorem value?_eq (x : Single) :
    x.value? = if x.isFinite then some ((x.units : ℚ) / 2 ^ 149) else none := by
  unfold value?
  by_cases hfinite : x.exponent = 255
  · rw [if_pos hfinite, if_neg fun h => isFinite_iff_exponent.mp h hfinite]
  · rw [if_neg hfinite, if_pos (isFinite_iff_exponent.mpr hfinite), x.units_eq, x.magnitude_eq]
    by_cases hsubnormal : x.exponent = 0
    · rw [if_pos hsubnormal, if_pos hsubnormal, mul_div_assoc]
    · obtain ⟨e, he⟩ := Nat.exists_eq_add_one_of_ne_zero hsubnormal
      rw [if_neg hsubnormal, if_neg hsubnormal, he, Nat.add_sub_cancel, mul_div_assoc]
      congr 2
      push_cast
      ring

/-- **The number of a pattern** is that many times the least positive value. -/
theorem value?_eq_some_iff {x : Single} {r : ℚ} :
    x.value? = some r ↔ x.isFinite = true ∧ x.units = r * 2 ^ 149 := by
  rw [x.value?_eq]
  cases x.isFinite with
  | false => simp
  | true =>
      rw [if_pos rfl, Option.some.injEq, div_eq_iff (by norm_num)]
      exact (and_iff_right rfl).symm

theorem value?_eq_none_iff {x : Single} : x.value? = none ↔ x.isFinite = false := by
  rw [x.value?_eq]
  cases x.isFinite <;> simp

theorem isNaN_of_isFinite {x : Single} (h : x.isFinite = true) : x.isNaN = false := by
  have hlt : x.pattern < binary32.infinity := of_decide_eq_true h
  exact decide_eq_false (Nat.lt_asymm hlt)

/-! ## Comparisons and integer parts -/

section Value

variable {x : Single} {r : ℚ} (h : x.value? = some r)
include h

theorem lt_iff_value_lt {y : Single} {q : ℚ} (hy : y.value? = some q) : x < y ↔ r < q := by
  obtain ⟨hfinite, hunits⟩ := value?_eq_some_iff.mp h
  obtain ⟨hyfinite, hyunits⟩ := value?_eq_some_iff.mp hy
  have hscale : r < q ↔ (x.units : ℚ) < y.units := by
    rw [hunits, hyunits, mul_lt_mul_iff_left₀ (by norm_num)]
  rw [hscale, Int.cast_lt]
  constructor
  · rintro ⟨-, -, hlt⟩
    exact hlt
  · intro hlt
    exact ⟨isNaN_of_isFinite hfinite, isNaN_of_isFinite hyfinite, hlt⟩

/-- A number that is not negative has no sign, or is the negative zero. -/
theorem units_eq_magnitude (nonneg : 0 ≤ r) :
    x.units = x.magnitude ∧ (x.negative = true → x.magnitude = 0) := by
  obtain ⟨-, hunits⟩ := value?_eq_some_iff.mp h
  have hnonneg : (0 : ℚ) ≤ x.units := by
    rw [hunits]
    positivity
  have hcast : 0 ≤ x.units := by exact_mod_cast hnonneg
  unfold units at hcast ⊢
  cases hnegative : x.negative with
  | false => exact ⟨if_neg (by decide), nofun⟩
  | true =>
      rw [hnegative, if_pos rfl] at hcast
      rw [if_pos rfl]
      omega

/-- The count of a number that is not negative is its integer part, or the largest count. -/
theorem toNat_toUInt32 (nonneg : 0 ≤ r) : x.toUInt32.toNat = min ⌊r⌋₊ 0xffffffff := by
  obtain ⟨hfinite, hunits⟩ := value?_eq_some_iff.mp h
  obtain ⟨hmagnitude, hzero⟩ := units_eq_magnitude h nonneg
  have hvalue : r = (x.magnitude : ℚ) / (2 ^ 149 : Nat) := by
    rw [hmagnitude, Int.cast_natCast] at hunits
    rw [eq_div_iff (by positivity), hunits]
    norm_cast
  have hpart : ⌊r⌋₊ = x.integerPart := by
    rw [hvalue, Nat.floor_div_eq_div]
    rfl
  rw [toUInt32, isNaN_of_isFinite hfinite, Bool.false_or, hpart]
  cases hnegative : x.negative with
  | false =>
      rw [if_neg (by decide)]
      exact UInt32.toNat_ofNat_of_lt' (by show _ < 2 ^ 32; omega)
  | true =>
      rw [if_pos rfl, integerPart, hzero hnegative, Nat.zero_div]
      rfl

end Value

end Single

end XYStage
