/-
# XYStage.Proofs.Board.Timing -- steps as fast as asked, and hardly faster

A slice can be asked for any rate; `StepTiming.aim` is the one it aims at, within what
axes are allowed. Its clock is divided, and a round takes so many counts of the divided
clock: both are chosen in words of 64 bits and kept in 8 and 16. `StepTiming.exactTiming`
chooses them in whole numbers, and gives nothing as soon as a result does not fit its
word or a divisor is zero.

Main statement: no word overflows, the divider is the least under which a counter can
hold a round, the rate is not below the one aimed at and would be with one count more,
and a greater rate never has a longer period (`timing_meets_rate`). The last of these
is not plain at a change of divider: a period is rounded down to a multiple of the
divider, so the slower rate can lose more by rounding than the faster one. What it loses
is less than its divider, and one step of the rate takes away as much, because rates
are words of 16 bits and the next lower divider was too small (`period_le_of_lt`).
-/
import Mathlib.Algebra.Order.Field.Rat
import Mathlib.Algebra.Order.Floor.Div
import Mathlib.Order.Bounds.Basic
import XYStage.Board.StepGenerator
import XYStage.Proofs.Motion.Ramps

namespace XYStage

set_option autoImplicit false

/-! ## Words of 64 bits -/

namespace Word

theorem toNat_min_word (a b : UInt64) : (min a b).toNat = min a.toNat b.toNat := by
  by_cases h : a ≤ b
  · rw [show min a b = a from if_pos h, Nat.min_eq_left (UInt64.le_iff_toNat_le.mp h)]
  · have hlt := UInt64.lt_iff_toNat_lt.mp (UInt64.not_le.mp h)
    rw [show min a b = b from if_neg h, Nat.min_eq_right (Nat.le_of_lt hlt)]

theorem toNat_max_word (a b : UInt64) : (max a b).toNat = max a.toNat b.toNat := by
  by_cases h : a ≤ b
  · rw [show max a b = b from if_pos h, Nat.max_eq_right (UInt64.le_iff_toNat_le.mp h)]
  · have hlt := UInt64.lt_iff_toNat_lt.mp (UInt64.not_le.mp h)
    rw [show max a b = a from if_neg h, Nat.max_eq_left (Nat.le_of_lt hlt)]

theorem toNat_mul_of_lt {a b : UInt64} (h : a.toNat * b.toNat < 2 ^ 64) :
    (a * b).toNat = a.toNat * b.toNat := by
  rw [UInt64.toNat_mul, Nat.mod_eq_of_lt h]

/-- A subtraction of one that stops at zero. -/
theorem toNat_pred (n : UInt64) : (if n = 0 then 0 else n - 1).toNat = n.toNat - 1 := by
  by_cases h : n = 0
  · rw [if_pos h, h]
    rfl
  · have hone : 1 ≤ n := by
      have := mt UInt64.toNat_inj.mp h
      rw [UInt64.le_iff_toNat_le]
      exact Nat.pos_of_ne_zero this
    rw [if_neg h, UInt64.toNat_sub_of_le _ _ hone]
    rfl

/-- The least quotient that is not too small, if the divisor is not zero and a word of 64
bits holds it. -/
def ceiling (n divisor : Nat) : Option Nat := do
  let down ← quotient n divisor
  if n % divisor = 0 then return down else held 64 (down + 1)

theorem ceilDiv_eq {n divisor : Nat} (h : 0 < divisor) :
    n ⌈/⌉ divisor = if n % divisor = 0 then n / divisor else n / divisor + 1 := by
  have hsplit := Nat.div_add_mod n divisor
  refine eq_of_forall_ge_iff fun k => ?_
  rw [ceilDiv_le_iff_le_mul h]
  by_cases hrest : n % divisor = 0
  · have hmul : divisor * (n / divisor) ≤ divisor * k ↔ n / divisor ≤ k :=
      Nat.mul_le_mul_left_iff h
    rw [if_pos hrest]
    omega
  · rw [if_neg hrest]
    constructor
    · intro hle
      have hlt : divisor * (n / divisor) < divisor * k := by omega
      exact Nat.lt_of_mul_lt_mul_left hlt
    · intro hle
      have hmul := Nat.mul_le_mul_left divisor hle
      have := Nat.mod_lt n h
      rw [Nat.mul_succ] at hmul
      omega

theorem ceiling_eq_some {n divisor : Nat} (h : 0 < divisor) (hn : n < 2 ^ 32) :
    ceiling n divisor = some (n ⌈/⌉ divisor) := by
  have hdown : n / divisor + 1 < 2 ^ 64 := by
    have := Nat.div_le_self n divisor
    omega
  rw [ceiling, quotient_eq_some (Nat.ne_of_gt h), ceilDiv_eq h, Option.bind_eq_bind,
    Option.bind_some, held_eq_some hdown]
  split <;> rfl

theorem toNat_ceilQuotient {n divisor : UInt64} (h : 0 < divisor.toNat) (hn : n.toNat < 2 ^ 32) :
    (ceilQuotient n divisor).toNat = n.toNat ⌈/⌉ divisor.toNat := by
  have hzero : n % divisor = 0 ↔ n.toNat % divisor.toNat = 0 := by
    rw [← UInt64.toNat_inj, UInt64.toNat_mod]
    rfl
  have hup : (n / divisor + 1).toNat = n.toNat / divisor.toNat + 1 := by
    have := Nat.div_le_self n.toNat divisor.toNat
    rw [UInt64.toNat_add, UInt64.toNat_div, show (1 : UInt64).toNat = 1 from rfl,
      Nat.mod_eq_of_lt (by omega)]
  unfold ceilQuotient
  rw [ceilDiv_eq h]
  by_cases hrest : n.toNat % divisor.toNat = 0
  · rw [if_pos (hzero.mpr hrest), if_pos hrest, UInt64.toNat_div]
  · rw [if_neg (mt hzero.mp hrest), if_neg hrest, hup]

end Word

namespace StepTiming

open Word

/-! ## A timing in whole numbers -/

/-- The rate that is aimed at for one that is wanted. -/
def aim (rate : Nat) : Nat :=
  max 1 (min rate topStepRate.toNat)

/-- The least divider under which `65536` counts hold a round; the greatest, if none
does. -/
def divider (clock rate : Nat) : Nat :=
  max 1 (min (clock ⌈/⌉ (rate * 65536)) 255)

/-- The counts in a round. -/
def counts (clock rate : Nat) : Nat :=
  max 1 (min (clock / (divider clock rate * rate)) 65536)

/-- The cycles of the clock in a round. -/
def period (clock rate : Nat) : Nat :=
  divider clock rate * counts clock rate

/-- The timing for a wanted rate, with each result on the way held by the word that the
timing has it in. Only the subtraction of one may stop at zero. -/
def exactTiming (clock rate : Nat) : Option (Nat × Nat) := do
  let full ← held 64 (aim rate * 65536)
  let least ← ceiling clock full
  let divider := max 1 (min least 255)
  let count ← held 64 (divider * aim rate)
  let rounds ← quotient clock count
  let divider ← held 8 divider
  let top ← held 16 (min (rounds - 1) 65535)
  return (divider, top)

theorem aim_pos (rate : Nat) : 0 < aim rate :=
  Nat.le_max_left 1 _

theorem aim_le (rate : Nat) : aim rate ≤ 50000 :=
  Nat.max_le.mpr ⟨by decide, Nat.min_le_right rate _⟩

theorem aim_mono {rate rate' : Nat} (h : rate ≤ rate') : aim rate ≤ aim rate' := by
  unfold aim
  omega

theorem divider_pos (clock rate : Nat) : 0 < divider clock rate :=
  Nat.le_max_left 1 _

theorem divider_le (clock rate : Nat) : divider clock rate ≤ 255 :=
  Nat.max_le.mpr ⟨by decide, Nat.min_le_right _ _⟩

theorem counts_pos (clock rate : Nat) : 0 < counts clock rate :=
  Nat.le_max_left 1 _

theorem counts_le (clock rate : Nat) : counts clock rate ≤ 65536 :=
  Nat.max_le.mpr ⟨by decide, Nat.min_le_right _ _⟩

/-- The greatest count is one below the number of counts. -/
theorem top_eq (rounds : Nat) :
    min (rounds - 1) 65535 = max 1 (min rounds 65536) - 1 := by
  rw [← Nat.sub_max_sub_right, Nat.sub_self, Nat.zero_max]
  exact Nat.sub_min_sub_right rounds 65536 1

/-! ## No word overflows -/

theorem exactTiming_eq {clock : Nat} (h : clock < 2 ^ 32) (rate : Nat) :
    exactTiming clock rate = some (divider clock (aim rate), counts clock (aim rate) - 1) := by
  have hpos := aim_pos rate
  have hle := aim_le rate
  have hdivider := divider_le clock (aim rate)
  have hcount : 0 < divider clock (aim rate) * aim rate :=
    Nat.mul_pos (divider_pos clock (aim rate)) hpos
  have hheld : divider clock (aim rate) * aim rate < 2 ^ 64 :=
    Nat.lt_of_le_of_lt (Nat.mul_le_mul hdivider hle) (by decide)
  have hdivided : max 1 (min (clock ⌈/⌉ (aim rate * 65536)) 255) = divider clock (aim rate) := rfl
  have htop : min (clock / (divider clock (aim rate) * aim rate) - 1) 65535 =
      counts clock (aim rate) - 1 :=
    top_eq _
  have hfull : aim rate * 65536 < 2 ^ 64 := by omega
  have hdivisor : 0 < aim rate * 65536 := by omega
  have hbyte : divider clock (aim rate) < 2 ^ 8 := by omega
  have hword : counts clock (aim rate) - 1 < 2 ^ 16 := by
    have := counts_le clock (aim rate)
    omega
  unfold exactTiming
  rw [held_eq_some hfull, Option.bind_eq_bind, Option.bind_some]
  dsimp only
  rw [ceiling_eq_some hdivisor h, Option.bind_some, hdivided, held_eq_some hheld, Option.bind_some,
    quotient_eq_some (Nat.ne_of_gt hcount), Option.bind_some, held_eq_some hbyte,
    Option.bind_some, htop, held_eq_some hword]
  rfl

end StepTiming

open Word StepTiming

theorem toNat_aim (rate : UInt32) :
    (max 1 (min rate topStepRate)).toUInt64.toNat = aim rate.toNat := by
  have hmin : (min rate topStepRate).toNat = min rate.toNat topStepRate.toNat := by
    by_cases h : rate ≤ topStepRate
    · rw [show min rate topStepRate = rate from if_pos h,
        Nat.min_eq_left (UInt32.le_iff_toNat_le.mp h)]
    · have hlt := UInt32.lt_iff_toNat_lt.mp (UInt32.not_le.mp h)
      rw [show min rate topStepRate = topStepRate from if_neg h,
        Nat.min_eq_right (Nat.le_of_lt hlt)]
  rw [UInt32.toNat_toUInt64, aim, ← hmin]
  by_cases h : 1 ≤ min rate topStepRate
  · rw [show max 1 (min rate topStepRate) = min rate topStepRate from if_pos h]
    exact (Nat.max_eq_right (UInt32.le_iff_toNat_le.mp h)).symm
  · have hlt := UInt32.lt_iff_toNat_lt.mp (UInt32.not_le.mp h)
    rw [show max 1 (min rate topStepRate) = 1 from if_neg h]
    exact (Nat.max_eq_left (Nat.le_of_lt hlt)).symm

/-- The timing is the one in whole numbers. -/
theorem toNat_stepTiming (clock rate : UInt32) :
    (stepTiming clock rate).1.toNat = divider clock.toNat (aim rate.toNat) ∧
      (stepTiming clock rate).2.toNat = counts clock.toNat (aim rate.toNat) - 1 := by
  have hclock := clock.toNat_lt
  have hpos := aim_pos rate.toNat
  have hle := aim_le rate.toNat
  have haim := toNat_aim rate
  unfold stepTiming
  generalize (max 1 (min rate topStepRate)).toUInt64 = wanted at haim ⊢
  have hfull : (wanted * 65536).toNat = aim rate.toNat * 65536 := by
    rw [toNat_mul_of_lt (by rw [haim]; show _ * 65536 < _; omega), haim]
    rfl
  have hleast : (ceilQuotient clock.toUInt64 (wanted * 65536)).toNat =
      clock.toNat ⌈/⌉ (aim rate.toNat * 65536) := by
    rw [toNat_ceilQuotient (by rw [hfull]; omega) (by rwa [UInt32.toNat_toUInt64]), hfull,
      UInt32.toNat_toUInt64]
  have hdivider : (max 1 (min (ceilQuotient clock.toUInt64 (wanted * 65536)) 255)).toNat =
      divider clock.toNat (aim rate.toNat) := by
    rw [toNat_max_word, toNat_min_word, hleast]
    rfl
  have hdividerle := divider_le clock.toNat (aim rate.toNat)
  dsimp only
  generalize max 1 (min (ceilQuotient clock.toUInt64 (wanted * 65536)) 255) = chosen
    at hdivider ⊢
  have hcount : (chosen * wanted).toNat =
      divider clock.toNat (aim rate.toNat) * aim rate.toNat := by
    have hheld : divider clock.toNat (aim rate.toNat) * aim rate.toNat < 2 ^ 64 :=
      Nat.lt_of_le_of_lt (Nat.mul_le_mul hdividerle hle) (by decide)
    rw [toNat_mul_of_lt (by rw [hdivider, haim]; exact hheld), hdivider, haim]
  have hrounds : (clock.toUInt64 / (chosen * wanted)).toNat =
      clock.toNat / (divider clock.toNat (aim rate.toNat) * aim rate.toNat) := by
    rw [UInt64.toNat_div, hcount, UInt32.toNat_toUInt64]
  constructor
  · rw [UInt64.toNat_toUInt8, hdivider, Nat.mod_eq_of_lt (by omega)]
  · have hfits := Nat.lt_of_le_of_lt (Nat.min_le_right (clock.toNat /
      (divider clock.toNat (aim rate.toNat) * aim rate.toNat) - 1) 65535) (Nat.lt_succ_self _)
    rw [UInt64.toNat_toUInt16, toNat_min_word, toNat_pred, hrounds, counts, ← top_eq]
    exact Nat.mod_eq_of_lt hfits

namespace StepTiming

/-! ## The divider -/

variable {clock rate : Nat}

theorem divider_le_of_holds (hrate : 0 < rate) {d : Nat} (hd : 0 < d)
    (h : clock ≤ d * rate * 65536) : divider clock rate ≤ d := by
  have hceil : clock ⌈/⌉ (rate * 65536) ≤ d := by
    rw [ceilDiv_le_iff_le_mul (by omega)]
    calc clock ≤ d * rate * 65536 := h
      _ = rate * 65536 * d := by rw [Nat.mul_assoc, Nat.mul_comm]
  exact Nat.max_le.mpr ⟨hd, Nat.le_trans (Nat.min_le_left _ _) hceil⟩

/-- A clock that the greatest divider brings within a counter is brought there by the one
chosen. -/
theorem le_mul_divider (hrate : 0 < rate) (h : clock ≤ 255 * rate * 65536) :
    clock ≤ divider clock rate * rate * 65536 := by
  have hceil : clock ⌈/⌉ (rate * 65536) ≤ 255 := by
    rw [ceilDiv_le_iff_le_mul (by omega)]
    grind
  have hle : clock ⌈/⌉ (rate * 65536) ≤ divider clock rate := by
    rw [divider, Nat.min_eq_left hceil]
    exact Nat.le_max_right _ _
  calc clock ≤ rate * 65536 * divider clock rate := (ceilDiv_le_iff_le_mul (by omega)).mp hle
    _ = divider clock rate * rate * 65536 := by rw [Nat.mul_comm, Nat.mul_assoc]

theorem divider_isLeast (hrate : 0 < rate) (h : clock ≤ 255 * rate * 65536) :
    IsLeast { d | 1 ≤ d ∧ d ≤ 255 ∧ clock ≤ d * rate * 65536 } (divider clock rate) :=
  ⟨⟨divider_pos clock rate, divider_le clock rate, le_mul_divider hrate h⟩,
    fun _ ⟨hd, _, hholds⟩ => divider_le_of_holds hrate hd hholds⟩

/-- The next lower divider was too small. -/
theorem pred_divider_mul_le (clock : Nat) (hrate : 0 < rate) :
    (divider clock rate - 1) * rate * 65536 ≤ clock := by
  by_contra hlt
  by_cases hone : divider clock rate = 1
  · simp [hone] at hlt
  · have hpos := divider_pos clock rate
    have hle : divider clock rate ≤ divider clock rate - 1 :=
      divider_le_of_holds hrate (by omega) (by omega)
    omega

theorem divider_eq_of_lt (hrate : 0 < rate) (h : 255 * rate * 65536 < clock) :
    divider clock rate = 255 := by
  have hle := divider_le clock rate
  refine Nat.le_antisymm hle (Nat.le_of_not_lt fun hlt => ?_)
  have hceil : clock ⌈/⌉ (rate * 65536) ≤ 255 := by
    unfold divider at hlt
    omega
  rw [ceilDiv_le_iff_le_mul (by omega)] at hceil
  omega

/-! ## The counts of a round -/

theorem counts_eq_of_lt (hrate : 0 < rate) (h : 255 * rate * 65536 < clock) :
    counts clock rate = 65536 := by
  have hfull : 65536 ≤ clock / (255 * rate) := by
    rw [Nat.le_div_iff_mul_le (by omega)]
    omega
  rw [counts, divider_eq_of_lt hrate h]
  omega

/-- A clock not below the rate has at least one count for each round. -/
theorem mul_divider_le (hrate : 0 < rate) (hslow : rate ≤ clock) :
    divider clock rate * rate ≤ clock := by
  have hlower := pred_divider_mul_le clock hrate
  have hpos := divider_pos clock rate
  obtain ⟨d, hd⟩ := Nat.exists_eq_add_one_of_ne_zero (Nat.ne_of_gt hpos)
  rw [hd, Nat.add_sub_cancel] at hlower
  rw [hd, Nat.succ_mul]
  cases d with
  | zero => omega
  | succ d =>
      have : rate ≤ (d + 1) * rate := Nat.le_mul_of_pos_left rate (Nat.succ_pos d)
      omega

theorem counts_eq (hrate : 0 < rate) (hslow : rate ≤ clock) (hfast : clock ≤ 255 * rate * 65536) :
    counts clock rate = clock / (divider clock rate * rate) := by
  have hcount : 0 < divider clock rate * rate := Nat.mul_pos (divider_pos clock rate) hrate
  have hone : 1 ≤ clock / (divider clock rate * rate) :=
    (Nat.le_div_iff_mul_le hcount).mpr (by rw [Nat.one_mul]; exact mul_divider_le hrate hslow)
  have hfull : clock / (divider clock rate * rate) ≤ 65536 := by
    refine Nat.div_le_of_le_mul ?_
    exact le_mul_divider hrate hfast
  rw [counts, Nat.min_eq_left hfull, Nat.max_eq_right hone]

/-- With the counts chosen the rate is reached; with one more it would not be. -/
theorem period_bounds (hrate : 0 < rate) (hslow : rate ≤ clock)
    (hfast : clock ≤ 255 * rate * 65536) :
    divider clock rate * counts clock rate * rate ≤ clock ∧
      clock < divider clock rate * (counts clock rate + 1) * rate := by
  have hcount : 0 < divider clock rate * rate := Nat.mul_pos (divider_pos clock rate) hrate
  rw [Nat.mul_right_comm, Nat.mul_right_comm _ (_ + 1), counts_eq hrate hslow hfast]
  exact ⟨Nat.mul_div_le _ _, Nat.lt_mul_div_succ _ hcount⟩

/-! ## Greater rates -/

theorem period_le (clock rate : Nat) : period clock rate ≤ 255 * 65536 :=
  Nat.mul_le_mul (divider_le clock rate) (counts_le clock rate)

theorem period_pos (clock rate : Nat) : 0 < period clock rate :=
  Nat.mul_pos (divider_pos clock rate) (counts_pos clock rate)

/-- Rounding down to a multiple of the divider takes away less than the divider. -/
theorem quotient_le_period (hrate : 0 < rate) (hslow : rate ≤ clock)
    (hfast : clock ≤ 255 * rate * 65536) :
    clock / rate ≤ period clock rate + (divider clock rate - 1) := by
  have hpos := divider_pos clock rate
  have hsplit := Nat.div_add_mod (clock / rate) (divider clock rate)
  have hrest := Nat.mod_lt (clock / rate) hpos
  rw [period, counts_eq hrate hslow hfast, Nat.mul_comm _ rate, ← Nat.div_div_eq_div_mul]
  omega

/-- One step of the rate takes away as much: `rate + 1` is at most `65536`, so the clock
has at least `(divider - 1) * rate * (rate + 1)` cycles. -/
theorem quotient_succ_le (clock : Nat) (hrate : 0 < rate) (hword : rate < 65536) :
    clock / (rate + 1) + (divider clock rate - 1) ≤ clock / rate := by
  have hlower : (divider clock rate - 1) * rate * (rate + 1) ≤ clock :=
    Nat.le_trans (Nat.mul_le_mul_left _ hword) (pred_divider_mul_le clock hrate)
  have hstep : (divider clock rate - 1) * rate ≤ clock / (rate + 1) :=
    (Nat.le_div_iff_mul_le (Nat.succ_pos rate)).mpr hlower
  rw [Nat.le_div_iff_mul_le hrate, Nat.add_mul]
  calc clock / (rate + 1) * rate + (divider clock rate - 1) * rate
      ≤ clock / (rate + 1) * rate + clock / (rate + 1) := Nat.add_le_add_left hstep _
    _ = clock / (rate + 1) * (rate + 1) := (Nat.mul_succ _ _).symm
    _ ≤ clock := Nat.div_mul_le_self _ _

theorem period_le_of_lt {rate' : Nat} (hrate : 0 < rate) (h : rate < rate') (hword : rate < 65536)
    (hslow : rate' ≤ clock) (hfast : clock ≤ 255 * rate * 65536) :
    period clock rate' ≤ period clock rate := by
  have hfast' : clock ≤ 255 * rate' * 65536 := by grind
  have hquotient : period clock rate' ≤ clock / rate' :=
    (Nat.le_div_iff_mul_le (by omega)).mpr (period_bounds (by omega) hslow hfast').1
  have hnext : clock / rate' ≤ clock / (rate + 1) := Nat.div_le_div_left h (Nat.succ_pos rate)
  have hstep := quotient_succ_le clock hrate hword
  have hround := quotient_le_period hrate (by omega) hfast
  omega

/-- **A greater rate never has a longer period.** -/
theorem period_antitone {rate' : Nat} (hrate : 0 < rate) (h : rate ≤ rate')
    (hword : rate < 65536) : period clock rate' ≤ period clock rate := by
  by_cases hfast : clock ≤ 255 * rate * 65536
  · by_cases hslow : rate' ≤ clock
    · rcases Nat.eq_or_lt_of_le h with rfl | hlt
      · exact Nat.le_refl _
      · exact period_le_of_lt hrate hlt hword hslow hfast
    · -- There is not one cycle for each round, so the period is as short as it gets.
      have hdivider : divider clock rate' = 1 :=
        Nat.le_antisymm (divider_le_of_holds (by omega) Nat.one_pos (by grind))
          (divider_pos clock rate')
      have hcounts : counts clock rate' = 1 := by
        rw [counts, hdivider, Nat.one_mul, Nat.div_eq_of_lt (by omega)]
        rfl
      rw [period, hdivider, hcounts]
      exact period_pos clock rate
  · have hlt := Nat.lt_of_not_le hfast
    have hfull : period clock rate = 255 * 65536 := by
      rw [period, divider_eq_of_lt hrate hlt, counts_eq_of_lt hrate hlt]
    rw [hfull]
    exact period_le clock rate'

/-- Rounds per second of a counter that takes so many counts for a round. -/
def rounds (clock divider counts : Nat) : ℚ :=
  clock / (divider * counts)

theorem le_rounds_iff {divider counts : Nat} (h : 0 < divider * counts) :
    (rate : ℚ) ≤ rounds clock divider counts ↔ divider * counts * rate ≤ clock := by
  have hpos : (0 : ℚ) < divider * counts := by exact_mod_cast h
  rw [rounds, le_div_iff₀ hpos, mul_comm]
  exact_mod_cast Iff.rfl

/-- **Steps come as fast as asked, and hardly faster.** For every clock and every wanted
rate, the timing is the one in whole numbers, in which every result fits its word and no
divisor is zero. The divider is the least under which a counter holds a round, and both
are at their greatest if there is none. Otherwise, unless the clock itself is slower than
the rate aimed at, that rate is reached, and would not be with one count more in a round.
A greater rate never has a longer period. -/
theorem timing_meets_rate (clock rate : UInt32) :
    exactTiming clock.toNat rate.toNat =
        some ((stepTiming clock rate).1.toNat, (stepTiming clock rate).2.toNat) ∧
      (clock.toNat ≤ 255 * aim rate.toNat * 65536 →
        IsLeast { d | 1 ≤ d ∧ d ≤ 255 ∧ clock.toNat ≤ d * aim rate.toNat * 65536 }
          (stepTiming clock rate).1.toNat) ∧
      (255 * aim rate.toNat * 65536 < clock.toNat → stepTiming clock rate = (255, 65535)) ∧
      (aim rate.toNat ≤ clock.toNat → clock.toNat ≤ 255 * aim rate.toNat * 65536 →
        (stepTiming clock rate).1.toNat * ((stepTiming clock rate).2.toNat + 1) *
            aim rate.toNat ≤ clock.toNat ∧
          clock.toNat < (stepTiming clock rate).1.toNat * ((stepTiming clock rate).2.toNat + 2) *
            aim rate.toNat ∧
          (aim rate.toNat : ℚ) ≤ rounds clock.toNat (stepTiming clock rate).1.toNat
            ((stepTiming clock rate).2.toNat + 1) ∧
          rounds clock.toNat (stepTiming clock rate).1.toNat
            ((stepTiming clock rate).2.toNat + 2) < aim rate.toNat) ∧
      ∀ faster, rate ≤ faster →
        (stepTiming clock faster).1.toNat * ((stepTiming clock faster).2.toNat + 1) ≤
          (stepTiming clock rate).1.toNat * ((stepTiming clock rate).2.toNat + 1) := by
  have hpos := aim_pos rate.toNat
  have htop (wanted : UInt32) : (stepTiming clock wanted).2.toNat + 1 =
      counts clock.toNat (aim wanted.toNat) := by
    rw [(toNat_stepTiming clock wanted).2]
    exact Nat.sub_add_cancel (counts_pos _ _)
  have hdivider (wanted : UInt32) := (toNat_stepTiming clock wanted).1
  refine ⟨?_, ?_, ?_, ?_, ?_⟩
  · rw [exactTiming_eq clock.toNat_lt, (toNat_stepTiming clock rate).2, hdivider]
  · rw [hdivider]
    exact divider_isLeast hpos
  · intro hlt
    refine Prod.ext (UInt8.toNat_inj.mp ?_) (UInt16.toNat_inj.mp ?_)
    · rw [hdivider, divider_eq_of_lt hpos hlt]
      rfl
    · rw [(toNat_stepTiming clock rate).2, counts_eq_of_lt hpos hlt]
      rfl
  · intro hslow hfast
    obtain ⟨hreached, hmissed⟩ := period_bounds hpos hslow hfast
    rw [← hdivider, ← htop] at hreached hmissed
    have hperiod (more : Nat) : 0 < (stepTiming clock rate).1.toNat *
        ((stepTiming clock rate).2.toNat + (more + 1)) :=
      Nat.mul_pos (by rw [hdivider]; exact divider_pos _ _) (by omega)
    refine ⟨hreached, hmissed, (le_rounds_iff (hperiod 0)).mpr hreached, ?_⟩
    rw [← not_le, le_rounds_iff (hperiod 1), not_le]
    exact hmissed
  · intro faster hle
    rw [htop, htop, hdivider, hdivider]
    have hword : aim rate.toNat < 65536 := Nat.lt_of_le_of_lt (aim_le _) (by decide)
    exact period_antitone hpos (aim_mono (UInt32.le_iff_toNat_le.mp hle)) hword

/-- A thousand rounds per second need more counts than there are, so the clock is
halved. -/
example : stepTiming 125000000 1000 = (2, 62499) := by decide

end StepTiming

end XYStage
