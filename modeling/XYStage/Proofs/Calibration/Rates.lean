/-
# XYStage.Proofs.Calibration.Rates -- the numbers that a motion parameter takes

A motion parameter is a count of thirty-two bits, and takes a number without its fraction.
What is too large for it is found by a comparison with the largest count, as a number of
single precision. That number is `2 ^ 32`, one more than the largest count, and nothing lies
between the two (`eq_pastCounts`). So every pattern is taken or refused as documented, but
for one: `2 ^ 32` is taken, as the largest count.

Main statement: `rates_taken_unless_past_counts`.
-/
import XYStage.Proofs.Calibration.Saving
import XYStage.Proofs.Ieee.Value

namespace XYStage

set_option autoImplicit false

namespace Single

/-- The pattern stands for a number from zero to a bound. -/
def IsUpTo (bound : ℚ) (v : Single) : Prop :=
  ∃ r, v.value? = some r ∧ 0 ≤ r ∧ r ≤ bound

/-! ## The bound of the counts -/

/-- The least number that is too large for a count. -/
def pastCounts : Single := ⟨0x4f800000⟩

theorem value?_pastCounts : pastCounts.value? = some (2 ^ 32) := by
  rw [value?_eq_some_iff, show pastCounts.units = 2 ^ 32 * 2 ^ 149 by decide +kernel]
  exact ⟨by decide +kernel, by norm_num⟩

theorem not_isUpTo_pastCounts : ¬ pastCounts.IsUpTo (2 ^ 32 - 1) := by
  rintro ⟨r, hvalue, -, hle⟩
  rw [value?_pastCounts, Option.some.injEq] at hvalue
  linarith

theorem value?_zero : (0 : Single).value? = some 0 := by
  rw [value?_eq_some_iff, show (0 : Single).units = 0 by decide +kernel]
  exact ⟨by decide +kernel, by norm_num⟩

/-- In single precision the largest count is `2 ^ 32`. -/
theorem ofUInt32_largest : ofUInt32 0xffffffff = pastCounts := by
  decide +kernel

/-- No number of single precision lies between the largest count and `2 ^ 32`. -/
theorem eq_pastCounts {v : Single} {r : ℚ} (h : v.value? = some r) (large : 2 ^ 32 - 1 < r)
    (fits : r ≤ 2 ^ 32) : v = pastCounts := by
  obtain ⟨-, hunits⟩ := value?_eq_some_iff.mp h
  obtain ⟨hmagnitude, hzero⟩ := units_eq_magnitude h (by linarith)
  rw [hmagnitude, Int.cast_natCast] at hunits
  have habove : 4294967295 * 2 ^ 149 < v.magnitude := by
    have : (4294967295 * 2 ^ 149 : ℚ) < v.magnitude := by
      rw [hunits]
      gcongr
      linarith
    exact_mod_cast this
  have hbelow : v.magnitude ≤ pastCounts.magnitude := by
    rw [show pastCounts.magnitude = 2 ^ 32 * 2 ^ 149 by decide +kernel]
    have : (v.magnitude : ℚ) ≤ 2 ^ 32 * 2 ^ 149 := by
      rw [hunits]
      gcongr
    exact_mod_cast this
  -- The number before `2 ^ 32` has the pattern before.
  have hlast : Ieee.binary32.magnitude 0x4f7fffff ≤ 4294967295 * 2 ^ 149 := by
    decide +kernel
  have hstrict := Ieee.binary32.magnitude_strictMono
  have hlow : 0x4f7fffff < v.pattern := hstrict.lt_iff_lt.mp (Nat.lt_of_le_of_lt hlast habove)
  have hhigh : v.pattern ≤ pastCounts.pattern := hstrict.le_iff_le.mp hbelow
  refine eq_of_pattern ?_ (Nat.le_antisymm hhigh hlow)
  cases hnegative : v.negative with
  | false => rfl
  | true =>
      rw [hzero hnegative] at habove
      omega

end Single

open Single (pastCounts)

/-! ## One number -/

theorem countRate_of_value {v : Single} {r : ℚ} (h : v.value? = some r) :
    countRate v = if 0 ≤ r ∧ r ≤ 2 ^ 32 then .ok v.toUInt32 else .error .outOfRange := by
  have hfinite := (Single.value?_eq_some_iff.mp h).1
  have hlow := Single.lt_iff_value_lt h Single.value?_zero
  have hhigh := Single.lt_iff_value_lt Single.value?_pastCounts h
  unfold countRate
  rw [hfinite, Single.ofUInt32_largest]
  simp only [hlow, hhigh, Bool.not_true, Bool.false_or, Bool.or_eq_true, decide_eq_true_eq,
    ← not_le, ← not_and_or]
  exact ite_not _ _ _

theorem countRate_of_none {v : Single} (h : v.value? = none) :
    countRate v = .error .outOfRange := by
  rw [countRate, Single.value?_eq_none_iff.mp h]
  rfl

namespace Calibration

/-- The second calibration has a count for one motion parameter, and otherwise what the
first has. -/
structure Replaces (id : AxisId) (param : AxisParameter) (count : Nat)
    (c after : Calibration) : Prop where
  replaced : ((after.axis id).get param).toNat = count
  kept : ∀ other parameter, (other, parameter) ≠ (id, param) →
    (after.axis other).get parameter = (c.axis other).get parameter
  thermistors : after.thermistors = c.thermistors

theorem replaces_set (id : AxisId) (param : AxisParameter) (count : UInt32) (c : Calibration) :
    c.Replaces id param count.toNat (c.setAxis id ((c.axis id).set param count)) where
  replaced := by
    cases id <;> cases param <;> rfl
  kept other parameter hne := by
    cases id <;> cases other <;> cases param <;> cases parameter <;>
      first | rfl | exact absurd rfl hne
  thermistors := by
    cases id <;> rfl

/-- What is documented for a number: one from zero to the largest count is taken without
its fraction, and replaces nothing but the parameter it is for; anything else is refused,
and nothing changes. -/
structure TakenAsCount (id : AxisId) (param : AxisParameter) (v : Single)
    (c : Calibration) : Prop where
  taken : ∀ r, v.value? = some r → 0 ≤ r → r ≤ 2 ^ 32 - 1 →
    ∃ after, c.assign (.axis id param) (.number v) = .ok after ∧
      c.Replaces id param ⌊r⌋₊ after
  refused : ¬ v.IsUpTo (2 ^ 32 - 1) →
    c.assign (.axis id param) (.number v) = .error .outOfRange ∧
      c.assignOrKeep (.axis id param) (.number v) = c

section

variable (id : AxisId) (param : AxisParameter) (c : Calibration) {v : Single}

theorem assign_of_count {count : UInt32} (h : countRate v = .ok count) :
    c.assign (.axis id param) (.number v) =
      .ok (c.setAxis id ((c.axis id).set param count)) := by
  have hcount : countRate (Setting.number v).toSingle = .ok count := h
  unfold assign
  rw [hcount]

theorem assign_of_error {e : RangeError} (h : countRate v = .error e) :
    c.assign (.axis id param) (.number v) = .error e ∧
      c.assignOrKeep (.axis id param) (.number v) = c := by
  have hcount : countRate (Setting.number v).toSingle = .error e := h
  have hassign : c.assign (.axis id param) (.number v) = .error e := by
    unfold assign
    rw [hcount]
  refine ⟨hassign, ?_⟩
  rw [assignOrKeep, hassign]

/-- A number up to `2 ^ 32` is taken; that one as the largest count. -/
theorem taken_of_value {r : ℚ} (h : v.value? = some r) (nonneg : 0 ≤ r) (fits : r ≤ 2 ^ 32) :
    ∃ after, c.assign (.axis id param) (.number v) = .ok after ∧
      c.Replaces id param (min ⌊r⌋₊ (2 ^ 32 - 1)) after := by
  have hcount := (countRate_of_value h).trans (if_pos ⟨nonneg, fits⟩)
  refine ⟨_, assign_of_count id param c hcount, ?_⟩
  have hreplaces := replaces_set id param v.toUInt32 c
  rw [Single.toNat_toUInt32 h nonneg] at hreplaces
  exact hreplaces

/-- Everything else is refused. -/
theorem refused_of_not_isUpTo (h : ¬ v.IsUpTo (2 ^ 32)) :
    c.assign (.axis id param) (.number v) = .error .outOfRange ∧
      c.assignOrKeep (.axis id param) (.number v) = c := by
  apply assign_of_error
  cases hvalue : v.value? with
  | none => exact countRate_of_none hvalue
  | some r =>
      rw [countRate_of_value hvalue]
      exact if_neg fun hrange => h ⟨r, hvalue, hrange⟩

end

/-- **The numbers that a motion parameter takes**, over all patterns, parameters and
calibrations. The numbers from zero to `2 ^ 32` are taken, each as its integer part or as the
largest count if that is less, and replace nothing but the parameter; everything else is out
of range, and nothing changes. So a pattern is treated as documented exactly if it is not
that of `2 ^ 32`, which should be out of range. -/
theorem rates_taken_unless_past_counts (id : AxisId) (param : AxisParameter) (v : Single)
    (c : Calibration) :
    (∀ r, v.value? = some r → 0 ≤ r → r ≤ 2 ^ 32 →
        ∃ after, c.assign (.axis id param) (.number v) = .ok after ∧
          c.Replaces id param (min ⌊r⌋₊ (2 ^ 32 - 1)) after) ∧
      (¬ v.IsUpTo (2 ^ 32) →
        c.assign (.axis id param) (.number v) = .error .outOfRange ∧
          c.assignOrKeep (.axis id param) (.number v) = c) ∧
      (c.TakenAsCount id param v ↔ v ≠ pastCounts) := by
  refine ⟨fun r => taken_of_value id param c, refused_of_not_isUpTo id param c, ?_⟩
  constructor
  · rintro hdocumented rfl
    obtain ⟨after, htaken, -⟩ :=
      taken_of_value id param c Single.value?_pastCounts (by norm_num) le_rfl
    rw [(hdocumented.refused Single.not_isUpTo_pastCounts).1] at htaken
    cases htaken
  · intro hne
    constructor
    · intro r hvalue hnonneg hle
      obtain ⟨after, htaken, hreplaces⟩ :=
        taken_of_value id param c hvalue hnonneg (by linarith)
      have hfloor : ⌊r⌋₊ ≤ 2 ^ 32 - 1 := by
        apply Nat.floor_le_of_le
        push_cast
        linarith
      rw [Nat.min_eq_left hfloor] at hreplaces
      exact ⟨after, htaken, hreplaces⟩
    · intro hout
      apply refused_of_not_isUpTo
      rintro ⟨r, hvalue, hnonneg, hle⟩
      refine hne (Single.eq_pastCounts hvalue ?_ hle)
      by_contra hsmall
      exact hout ⟨r, hvalue, hnonneg, le_of_not_gt hsmall⟩

/-- An acceleration of `2 ^ 32` is taken as the largest count. -/
theorem past_counts_taken :
    pastCounts.value? = some (2 ^ 32) ∧
      default.assign (.axis .x .acceleration) (.number pastCounts) =
        .ok (default.setAxis .x { AxisRates.default with acceleration := 0xffffffff }) ∧
      ¬ default.TakenAsCount .x .acceleration pastCounts := by
  refine ⟨Single.value?_pastCounts, by decide +kernel, fun hdocumented => ?_⟩
  have hrefused := (hdocumented.refused Single.not_isUpTo_pastCounts).1
  revert hrefused
  decide +kernel

end Calibration

end XYStage
