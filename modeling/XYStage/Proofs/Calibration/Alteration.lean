/-
# XYStage.Proofs.Calibration.Alteration -- no change of one value goes unnoticed

The steps of the checksum are linear (`Crc32.shift_xor`), and each can be undone, because
only a remainder with its low bit set gets the high bit of the polynomial
(`Crc32.shift_inj`). So remainders that differ once still differ behind all bytes that
follow. Within a word nothing cancels either: its four bytes come to the same as the whole
word taken in at once (`Crc32.foldl_littleEndian`).

Main statement: an image with one value of its calibration changed, or its checksum, is
refused (`FlashImage.alteration_refused`).
-/
import Mathlib.Data.List.Basic
import XYStage.Calibration.FlashImage
import XYStage.Proofs.Calibration.Image
import XYStage.Proofs.Calibration.Saving

namespace XYStage

set_option autoImplicit false

/-! ## Remainders -/

namespace Crc32

theorem toNat_low (x : UInt32) : (x &&& 1).toNat = x.toNat % 2 := by
  rw [UInt32.toNat_and]
  exact Nat.and_one_is_mod x.toNat

theorem toNat_half (x : UInt32) : (x >>> 1).toNat = x.toNat / 2 := by
  rw [UInt32.toNat_shiftRight]
  exact Nat.shiftRight_eq_div_pow x.toNat 1

theorem shift_of_even {x : UInt32} (h : x.toNat % 2 = 0) : shift x = x >>> 1 := by
  have hlow : x &&& 1 = 0 := UInt32.toNat_inj.mp ((toNat_low x).trans h)
  exact if_neg (not_not_intro hlow)

theorem shift_of_odd {x : UInt32} (h : x.toNat % 2 = 1) : shift x = (x >>> 1) ^^^ polynomial := by
  have hlow : x &&& 1 = 1 := UInt32.toNat_inj.mp ((toNat_low x).trans h)
  refine if_pos ?_
  rw [hlow]
  decide

theorem shift_xor (x y : UInt32) : shift (x ^^^ y) = shift x ^^^ shift y := by
  have hparity : (x ^^^ y).toNat % 2 = (x.toNat % 2) ^^^ (y.toNat % 2) := by
    rw [UInt32.toNat_xor]
    exact Nat.xor_mod_two_pow (n := 1)
  have hhalf : (x ^^^ y) >>> 1 = (x >>> 1) ^^^ (y >>> 1) := UInt32.shiftRight_xor
  rcases Nat.mod_two_eq_zero_or_one x.toNat with hx | hx <;>
    rcases Nat.mod_two_eq_zero_or_one y.toNat with hy | hy <;>
    rw [hx, hy] at hparity
  · rw [shift_of_even hx, shift_of_even hy, shift_of_even hparity, hhalf]
  · rw [shift_of_even hx, shift_of_odd hy, shift_of_odd hparity, hhalf, UInt32.xor_assoc]
  · rw [shift_of_odd hx, shift_of_even hy, shift_of_odd hparity, hhalf]
    ac_rfl
  · -- The polynomial is taken out of both, and cancels.
    rw [shift_of_odd hx, shift_of_odd hy, shift_of_even hparity, hhalf,
      UInt32.xor_assoc (x >>> 1), UInt32.xor_comm (y >>> 1), ← UInt32.xor_assoc polynomial,
      UInt32.xor_self, UInt32.zero_xor]

theorem eq_zero_of_shift {x : UInt32} (h : shift x = 0) : x = 0 := by
  have hhalf := toNat_half x
  have hx := x.toNat_lt
  rcases Nat.mod_two_eq_zero_or_one x.toNat with heven | hodd
  · rw [shift_of_even heven] at h
    rw [h, show (0 : UInt32).toNat = 0 from rfl] at hhalf
    exact UInt32.toNat_inj.mp (show x.toNat = 0 by omega)
  · -- Half of a remainder has no high bit, and the polynomial has.
    rw [shift_of_odd hodd, UInt32.xor_eq_zero_iff] at h
    rw [h, show polynomial.toNat = 0xedb88320 from rfl] at hhalf
    omega

theorem shift_inj {x y : UInt32} : shift x = shift y ↔ x = y := by
  refine ⟨fun h => ?_, congrArg shift⟩
  have hzero : shift (x ^^^ y) = 0 := by rw [shift_xor, h, UInt32.xor_self]
  exact UInt32.xor_eq_zero_iff.mp (eq_zero_of_shift hzero)

theorem shifts_inj {x y : UInt32} (n : Nat) : shifts n x = shifts n y ↔ x = y := by
  induction n generalizing x y with
  | zero => rfl
  | succ n ih => exact ih.trans shift_inj

theorem shifts_xor (n : Nat) (x y : UInt32) : shifts n (x ^^^ y) = shifts n x ^^^ shifts n y := by
  induction n generalizing x y with
  | zero => rfl
  | succ n ih => rw [shifts, shift_xor, ih, shifts, shifts]

theorem shifts_add (m n : Nat) (x : UInt32) : shifts (m + n) x = shifts n (shifts m x) := by
  induction m generalizing x with
  | zero => rw [Nat.zero_add, shifts]
  | succ m ih => rw [Nat.succ_add, shifts, ih, shifts]

/-- Low bits that are clear are just shifted out. -/
theorem toNat_shifts_of_clear {n : Nat} {x : UInt32} (h : x.toNat % 2 ^ n = 0) :
    (shifts n x).toNat = x.toNat / 2 ^ n := by
  induction n generalizing x with
  | zero => rw [shifts, Nat.pow_zero, Nat.div_one]
  | succ n ih =>
      have hdvd : 2 * 2 ^ n ∣ x.toNat := by
        rw [Nat.mul_comm, ← Nat.pow_succ]
        exact Nat.dvd_of_mod_eq_zero h
      have heven : x.toNat % 2 = 0 := Nat.mod_eq_zero_of_dvd (Nat.dvd_trans (Nat.dvd_mul_right 2 _) hdvd)
      have hnext : (x >>> 1).toNat % 2 ^ n = 0 := by
        rw [toNat_half]
        exact Nat.mod_eq_zero_of_dvd (Nat.dvd_div_of_mul_dvd hdvd)
      rw [shifts, shift_of_even heven, ih hnext, toNat_half, Nat.div_div_eq_div_mul, Nat.pow_succ,
        Nat.mul_comm]

/-! ## Bytes -/

theorem update_inj {x y : UInt32} (byte : UInt8) : update x byte = update y byte ↔ x = y :=
  (shifts_inj 8).trans (UInt32.xor_left_inj byte.toUInt32)

theorem update_byte_inj {b b' : UInt8} (x : UInt32) : update x b = update x b' ↔ b = b' := by
  refine ⟨fun h => ?_, congrArg (update x)⟩
  have hword : b.toUInt32 = b'.toUInt32 := (UInt32.xor_right_inj x).mp ((shifts_inj 8).mp h)
  rw [← UInt8.toNat_inj, ← UInt8.toNat_toUInt32, hword, UInt8.toNat_toUInt32]

/-- Remainders that differ stay different, whatever follows. -/
theorem foldl_update_inj {x y : UInt32} (bytes : List UInt8) :
    bytes.foldl update x = bytes.foldl update y ↔ x = y := by
  induction bytes generalizing x y with
  | nil => rfl
  | cons byte rest ih => exact ih.trans (update_inj byte)

theorem toNat_high (w : UInt32) : ((w >>> 8) <<< 8).toNat = (w.toNat >>> 8) <<< 8 := by
  have hw := w.toNat_lt
  rw [UInt32.toNat_shiftLeft, UInt32.toNat_shiftRight]
  show (w.toNat >>> 8) <<< 8 % 2 ^ 32 = _
  rw [Nat.shiftLeft_eq, Nat.shiftRight_eq_div_pow]
  omega

/-- A word is its low byte and the rest. -/
theorem low_xor_high (w : UInt32) : w.toUInt8.toUInt32 ^^^ (w >>> 8) <<< 8 = w := by
  apply UInt32.toNat_inj.mp
  rw [UInt32.toNat_xor, UInt8.toNat_toUInt32, UInt32.toNat_toUInt8, toNat_high]
  refine Nat.eq_of_testBit_eq fun place => ?_
  rw [Nat.testBit_xor, Nat.testBit_mod_two_pow, Nat.testBit_shiftLeft, Nat.testBit_shiftRight]
  by_cases h : place < 8
  · simp [h, Nat.not_le.mpr h]
  · simp [h, Nat.not_lt.mp h]

/-- Taking in a whole word takes in its low byte and leaves the rest for later. -/
theorem shifts_eight_xor (x w : UInt32) :
    shifts 8 (x ^^^ w) = update x w.toUInt8 ^^^ (w >>> 8) := by
  have hclear : ((w >>> 8) <<< 8).toNat % 2 ^ 8 = 0 := by
    rw [toNat_high, Nat.shiftLeft_eq]
    exact Nat.mul_mod_left _ _
  have hrest : shifts 8 ((w >>> 8) <<< 8) = w >>> 8 := by
    apply UInt32.toNat_inj.mp
    rw [toNat_shifts_of_clear hclear, toNat_high, Nat.shiftLeft_eq,
      Nat.mul_div_cancel _ (by decide), UInt32.toNat_shiftRight]
    rfl
  calc shifts 8 (x ^^^ w)
      = shifts 8 ((x ^^^ w.toUInt8.toUInt32) ^^^ (w >>> 8) <<< 8) := by
        rw [UInt32.xor_assoc, low_xor_high]
    _ = update x w.toUInt8 ^^^ (w >>> 8) := by rw [shifts_xor, hrest, update]

theorem shiftRight_eight (w place : UInt32) (h : place.toNat < 24) :
    (w >>> place) >>> 8 = w >>> (place + 8) := by
  have hsum : (place + 8).toNat = place.toNat + 8 := by
    rw [UInt32.toNat_add]
    exact Nat.mod_eq_of_lt (show place.toNat + 8 < 2 ^ 32 by omega)
  apply UInt32.toNat_inj.mp
  rw [UInt32.toNat_shiftRight, UInt32.toNat_shiftRight, UInt32.toNat_shiftRight, hsum,
    Nat.mod_eq_of_lt (show place.toNat + 8 < 32 by omega), Nat.mod_eq_of_lt (by omega)]
  exact (Nat.shiftRight_add w.toNat place.toNat 8).symm

/-- **The bytes of a word come to the word.** -/
theorem foldl_littleEndian (x w : UInt32) :
    (Word.littleEndian w).foldl update x = shifts 32 (x ^^^ w) := by
  have hbyte (n : Nat) (y v : UInt32) :
      shifts (8 + n) (y ^^^ v) = shifts n (update y v.toUInt8 ^^^ (v >>> 8)) := by
    rw [shifts_add, shifts_eight_xor]
  have hout : (w >>> 24) >>> 8 = 0 := by
    apply UInt32.toNat_inj.mp
    rw [UInt32.toNat_shiftRight, UInt32.toNat_shiftRight]
    show w.toNat >>> 24 >>> 8 = 0
    rw [← Nat.shiftRight_add, Nat.shiftRight_eq_div_pow]
    exact Nat.div_eq_of_lt w.toNat_lt
  symm
  calc shifts (8 + 24) (x ^^^ w)
      = shifts (8 + 16) (update x w.toUInt8 ^^^ (w >>> 8)) := hbyte 24 x w
    _ = shifts (8 + 8) (update (update x w.toUInt8) (w >>> 8).toUInt8 ^^^ (w >>> 16)) := by
        rw [hbyte 16, shiftRight_eight w 8 (by decide)]
        rfl
    _ = shifts (8 + 0) (update (update (update x w.toUInt8) (w >>> 8).toUInt8)
          (w >>> 16).toUInt8 ^^^ (w >>> 24)) := by
        rw [hbyte 8, shiftRight_eight w 16 (by decide)]
        rfl
    _ = (Word.littleEndian w).foldl update x := by
        rw [hbyte 0, hout, UInt32.xor_zero]
        rfl

theorem foldl_littleEndian_inj {w w' : UInt32} (x : UInt32) :
    (Word.littleEndian w).foldl update x = (Word.littleEndian w').foldl update x ↔ w = w' := by
  rw [foldl_littleEndian, foldl_littleEndian, shifts_inj, UInt32.xor_right_inj]

end Crc32

/-! ## The bytes of one value -/

/-- A value as the checksum takes it. -/
def Setting.checkedBytes : Setting → List UInt8
  | .number value => Word.littleEndian value.bits
  | .flag value => [value.toUInt8]

namespace Thermistor

/-- Constants that differ are taken differently. -/
theorem foldl_get_inj {t t' : Thermistor} (param : ThermistorParameter) (x : UInt32) :
    (t.get param).checkedBytes.foldl Crc32.update x =
      (t'.get param).checkedBytes.foldl Crc32.update x ↔ t.get param = t'.get param := by
  refine ⟨fun h => ?_, fun h => by rw [h]⟩
  have hnumber {value value' : Single}
      (hsame : (Word.littleEndian value.bits).foldl Crc32.update x =
        (Word.littleEndian value'.bits).foldl Crc32.update x) :
      Setting.number value = .number value' := by
    have hbits : value.bits = value'.bits := (Crc32.foldl_littleEndian_inj x).mp hsame
    cases value
    cases value'
    exact congrArg (fun bits => Setting.number ⟨bits⟩) hbits
  cases param with
  | a => exact hnumber h
  | b => exact hnumber h
  | c => exact hnumber h
  | enabled =>
      have hflag : t.enabled.toUInt8 = t'.enabled.toUInt8 := (Crc32.update_byte_inj x).mp h
      refine congrArg Setting.flag ?_
      revert hflag
      cases t.enabled <;> cases t'.enabled <;> decide

end Thermistor

namespace Calibration

/-- The bytes of the value under a key. -/
def checkedBytes (c : Calibration) : ParameterKey → List UInt8
  | .axis id param => Word.littleEndian ((c.axis id).get param)
  | .thermistor sensor param =>
      if h : sensor.toNat < channelCount then (c.thermistors[sensor.toNat].get param).checkedBytes
      else []

/-- The checksum takes every value once, in key order. -/
theorem bytes_eq (c : Calibration) : c.bytes = ParameterKey.all.flatMap c.checkedBytes := by
  obtain ⟨x, y, ⟨channels⟩, hsize⟩ := c
  match channels, hsize with
  | [_, _, _, _, _], _ => rfl

theorem checkedBytes_of_sameAt {c c' : Calibration} {key : ParameterKey} (h : c.SameAt c' key) :
    c.checkedBytes key = c'.checkedBytes key := by
  cases key with
  | axis id param => exact congrArg Word.littleEndian h
  | thermistor sensor param =>
      by_cases hsensor : sensor.toNat < channelCount
      · simp only [checkedBytes, dif_pos hsensor]
        rw [h hsensor]
      · simp only [checkedBytes, dif_neg hsensor]

/-- Values that differ are taken differently. -/
theorem foldl_checkedBytes_inj {c c' : Calibration} {key : ParameterKey} (x : UInt32)
    (h : (c.checkedBytes key).foldl Crc32.update x = (c'.checkedBytes key).foldl Crc32.update x) :
    c.SameAt c' key := by
  cases key with
  | axis id param => exact (Crc32.foldl_littleEndian_inj x).mp h
  | thermistor sensor param =>
      intro hsensor
      simp only [checkedBytes, dif_pos hsensor] at h
      exact (Thermistor.foldl_get_inj param x).mp h

/-- Two calibrations that have different values under one key, and only there. -/
structure DifferOnlyAt (key : ParameterKey) (c c' : Calibration) : Prop where
  differ : ¬c.SameAt c' key
  same : ∀ other ∈ ParameterKey.all, other ≠ key → c.SameAt c' other

theorem mem_all_of_not_sameAt {c c' : Calibration} {key : ParameterKey}
    (h : ¬c.SameAt c' key) : key ∈ ParameterKey.all := by
  cases key with
  | axis id param => cases id <;> cases param <;> decide
  | thermistor sensor param =>
      obtain ⟨hsensor, -⟩ := not_forall.mp h
      have htakes : (ParameterKey.thermistor sensor param).Takes (.flag false) :=
        ⟨hsensor, .inr (by decide +kernel)⟩
      exact htakes.mem_all

/-- A count in the place of another. -/
theorem differOnlyAt_mapAxis {c : Calibration} {id : AxisId} {param : AxisParameter}
    {value : UInt32} (h : value ≠ (c.axis id).get param) :
    DifferOnlyAt (.axis id param) c (c.mapAxis id (AxisRates.set param value)) where
  differ hsame := by
    rw [sameAt_axis, axis_mapAxis, if_pos rfl, AxisRates.get_set, if_pos rfl] at hsame
    exact h hsame.symm
  same other _ hother := by
    cases other with
    | axis otherId otherParam =>
        rw [sameAt_axis, axis_mapAxis]
        split
        · next hid =>
          rw [AxisRates.get_set, if_neg fun hparam => hother (by rw [hid, hparam])]
        · rfl
    | thermistor sensor otherParam =>
        rw [sameAt_thermistor, thermistors_mapAxis]
        exact fun _ => rfl

/-- A constant of a channel in the place of another. -/
theorem differOnlyAt_mapThermistor {c : Calibration} {sensor : UInt8}
    {param : ThermistorParameter} {f : Thermistor → Thermistor}
    (channel : sensor.toNat < channelCount)
    (changed : (f c.thermistors[sensor.toNat]).get param ≠ c.thermistors[sensor.toNat].get param)
    (kept : ∀ other ≠ param, ∀ t : Thermistor, (f t).get other = t.get other) :
    DifferOnlyAt (.thermistor sensor param) c (c.mapThermistor sensor f) where
  differ hsame := by
    have hvalue := hsame channel
    rw [getElem_mapThermistor _ _ _ channel, if_pos rfl] at hvalue
    exact changed hvalue.symm
  same other _ hother := by
    cases other with
    | axis id otherParam =>
        rw [sameAt_axis, axis_mapThermistor]
    | thermistor otherSensor otherParam =>
        intro hplace
        rw [getElem_mapThermistor _ _ _ hplace]
        split
        · next hsensor =>
          refine (kept otherParam (fun hparam => hother ?_) _).symm
          rw [hparam, UInt8.toNat_inj.mp hsensor]
        · rfl

/-- **One value that differs makes the checksum differ**, whatever the others are. -/
theorem DifferOnlyAt.checksum_ne {c c' : Calibration} {key : ParameterKey}
    (h : DifferOnlyAt key c c') : c.checksum ≠ c'.checksum := by
  obtain ⟨front, back, hall⟩ := List.append_of_mem (mem_all_of_not_sameAt h.differ)
  have hnodup := ParameterKey.nodup_all
  rw [hall, List.nodup_middle, List.nodup_cons, List.mem_append, not_or] at hnodup
  have hother (others : List ParameterKey) (hmem : ∀ other ∈ others, other ∈ ParameterKey.all)
      (hnot : key ∉ others) : others.flatMap c.checkedBytes = others.flatMap c'.checkedBytes := by
    apply List.flatMap_congr
    intro other hin
    exact checkedBytes_of_sameAt (h.same other (hmem other hin) fun heq => hnot (heq ▸ hin))
  have hfront := hother front (by simp +contextual [hall]) hnodup.1.1
  have hback := hother back (by simp +contextual [hall]) hnodup.1.2
  intro hsum
  unfold checksum Crc32.ofBytes at hsum
  rw [UInt32.not_inj, bytes_eq, bytes_eq, hall, List.flatMap_append, List.flatMap_append,
    List.flatMap_cons, List.flatMap_cons, hfront, hback, List.foldl_append, List.foldl_append,
    List.foldl_append, List.foldl_append, Crc32.foldl_update_inj] at hsum
  exact h.differ (foldl_checkedBytes_inj _ hsum)

end Calibration

/-! ## Images -/

namespace FlashImage

theorem verify_eq_ok {image : FlashImage} : image.verify = .ok () ↔
    image.magic = expectedMagic ∧ image.version = currentVersion ∧
      image.checksum = image.calibration.checksum := by
  unfold verify
  split
  · simp_all
  · split <;> simp_all

theorem verify_wrongChecksum {image : FlashImage} (magic : image.magic = expectedMagic)
    (version : image.version = currentVersion)
    (checksum : image.checksum ≠ image.calibration.checksum) :
    image.verify = .error .wrongChecksum := by
  unfold verify
  rw [if_neg (not_not_intro magic), if_neg (not_not_intro version), if_pos checksum]

/-- An image that is refused is not read either. -/
theorem decode_refused {image : FlashImage} {error : FlashImageError}
    (h : image.verify = .error error) (behind : List UInt8) :
    decode (image.bytes ++ behind) = .error error := by
  rw [decode, (reader_reads image).whole]
  dsimp only
  rw [h]

/-- The images that differ from one in a single value. -/
inductive Altered (image : FlashImage) : FlashImage → Prop where
  | value {key : ParameterKey} {calibration : Calibration}
      (h : Calibration.DifferOnlyAt key image.calibration calibration) :
      Altered image { image with calibration }
  | checksum {checksum : UInt32} (h : checksum ≠ image.checksum) :
      Altered image { image with checksum }

/-- **No change of one value goes unnoticed.** A valid image is refused for its checksum,
and so are its bytes when they are read, once the value under any one key of its
calibration is replaced by any other, or its checksum is. This is because no two
calibrations that differ under one key only have the same checksum, whatever their other
values. -/
theorem alteration_refused {image : FlashImage} (valid : image.verify = .ok ()) :
    (∀ altered, image.Altered altered → altered.verify = .error .wrongChecksum ∧
      ∀ behind, decode (altered.bytes ++ behind) = .error .wrongChecksum) ∧
      ∀ key c c', Calibration.DifferOnlyAt key c c' → c.checksum ≠ c'.checksum := by
  obtain ⟨magic, version, checksum⟩ := verify_eq_ok.mp valid
  refine ⟨fun altered haltered => ?_, fun key c c' hdiffer => hdiffer.checksum_ne⟩
  -- Whichever side of the comparison is altered, the other one is as it was.
  have hheader : altered.magic = expectedMagic ∧ altered.version = currentVersion ∧
      altered.checksum ≠ altered.calibration.checksum := by
    cases haltered with
    | value hdiffer => exact ⟨magic, version, checksum ▸ hdiffer.checksum_ne⟩
    | checksum hne => exact ⟨magic, version, checksum ▸ hne⟩
  have hverify := verify_wrongChecksum hheader.1 hheader.2.1 hheader.2.2
  exact ⟨hverify, decode_refused hverify⟩

end FlashImage

/-- A NaN in the place of another. -/
def otherNaN : Calibration :=
  unevenCalibration.mapThermistor 2 fun t => { t with a := ⟨0x7fc00002⟩ }

/-- One count more. -/
def oneMore : Calibration :=
  unevenCalibration.mapAxis .y (AxisRates.set .homeVelocity 201)

theorem unevenImage_altered :
    { FlashImage.new unevenCalibration with calibration := otherNaN }.verify =
        .error .wrongChecksum ∧
      { FlashImage.new unevenCalibration with calibration := oneMore }.verify =
        .error .wrongChecksum ∧
      { FlashImage.new unevenCalibration with
        checksum := unevenCalibration.checksum ^^^ 1 }.verify = .error .wrongChecksum := by
  obtain ⟨hrefused, -⟩ :=
    FlashImage.alteration_refused (FlashImage.verify_new unevenCalibration)
  have hnan : Calibration.DifferOnlyAt (.thermistor 2 .a) unevenCalibration otherNaN :=
    Calibration.differOnlyAt_mapThermistor (by decide) (by decide +kernel)
      (fun other hother t => by cases other <;> first | rfl | exact absurd rfl hother)
  have hmore : Calibration.DifferOnlyAt (.axis .y .homeVelocity) unevenCalibration oneMore :=
    Calibration.differOnlyAt_mapAxis (by decide +kernel)
  have hsum : unevenCalibration.checksum ^^^ 1 ≠ unevenCalibration.checksum := by
    intro h
    have hbit : (1 : UInt32) = 0 := (UInt32.xor_right_inj _).mp (h.trans UInt32.xor_zero.symm)
    exact absurd hbit (by decide)
  exact ⟨(hrefused _ (.value hnan)).1, (hrefused _ (.value hmore)).1,
    (hrefused _ (.checksum hsum)).1⟩

end XYStage
