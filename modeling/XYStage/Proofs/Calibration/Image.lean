/-
# XYStage.Proofs.Calibration.Image -- a stored calibration reads back, whole or not at all

A reader reads a value off some bytes (`Compact.Reads`) if it takes exactly these
bytes and gives the value, whatever stands behind them, and refuses every shorter
part of them. Readers in a row read off bytes in a row (`Reads.bind`), so that the
fields of an image are read off one by one. The only field of varying length is a
count: a group of seven bits and what the groups behind it hold make up the count
again (`low_or_high`), and the last group is never too large (`Reads.groups`).

Main statement: an image fits its buffer, gives its calibration again in front of
anything, and is unreadable when it is cut short (`image_reads_back`).
-/
import Mathlib.Algebra.Group.Nat.Defs
import XYStage.Calibration.FlashImage
import XYStage.Proofs.Wire.Messages

namespace XYStage

set_option autoImplicit false

namespace Compact

/-- The reader takes exactly these bytes for the value, and refuses less. -/
structure Reads {τ : Type} (read : Reader τ) (bytes : List UInt8) (value : τ) : Prop where
  whole : ∀ rest, read (bytes ++ rest) = some (value, rest)
  torn : ∀ front, front <+: bytes → front ≠ bytes → read front = none

namespace Reads

variable {τ υ : Type}

theorem pure (value : τ) : Reads (Pure.pure value) [] value where
  whole _ := rfl
  torn _ hfront hne := absurd (List.prefix_nil.mp hfront) hne

theorem byte (b : UInt8) : Reads Reader.byte [b] b where
  whole _ := rfl
  torn front hfront hne := by
    rcases List.prefix_cons_iff.mp hfront with rfl | ⟨rest, rfl, hrest⟩
    · rfl
    · exact absurd (congrArg (b :: ·) (List.prefix_nil.mp hrest)) hne

/-- Readers in a row read off bytes in a row. -/
theorem bind {read : Reader τ} {next : τ → Reader υ} {first second : List UInt8} {value : τ}
    {result : υ} (hread : Reads read first value) (hnext : Reads (next value) second result) :
    Reads (read >>= next) (first ++ second) result where
  whole rest := by
    show (read (first ++ second ++ rest)).bind (fun taken => next taken.1 taken.2) = _
    rw [List.append_assoc, hread.whole]
    exact hnext.whole rest
  torn front hfront hne := by
    show (read front).bind (fun taken => next taken.1 taken.2) = none
    by_cases hfirst : first <+: front
    · -- The cut is behind the first bytes, and what is left is a part of the second.
      obtain ⟨part, rfl⟩ := hfirst
      rw [hread.whole]
      refine hnext.torn part ((List.prefix_append_right_inj first).mp hfront) ?_
      exact fun hpart => hne (congrArg (first ++ ·) hpart)
    · have hshort : front <+: first := by
        rcases List.prefix_or_prefix_of_prefix hfront (List.prefix_append first second) with h | h
        · exact h
        · exact absurd h hfirst
      have hneq : front ≠ first := fun h => hfirst (h ▸ List.prefix_rfl)
      rw [hread.torn front hshort hneq]
      rfl

/-- A byte in front of what follows. -/
theorem byte_bind {next : UInt8 → Reader υ} {bytes : List UInt8} {result : υ} (b : UInt8)
    (hnext : Reads (next b) bytes result) : Reads (Reader.byte >>= next) (b :: bytes) result :=
  (byte b).bind hnext

end Reads

/-! ## Counts -/

theorem toNat_low (b : UInt8) : (b &&& 127).toUInt32.toNat = b.toNat % 128 := by
  rw [UInt8.toNat_toUInt32, UInt8.toNat_and]
  exact Nat.and_two_pow_sub_one_eq_mod b.toNat 7

theorem toNat_continued (n : UInt32) : (n.toUInt8 ||| 128).toNat % 128 = n.toNat % 128 := by
  rw [UInt8.toNat_or, UInt32.toNat_toUInt8]
  have hor : (n.toNat % 256 ||| 128) % 2 ^ 7 = n.toNat % 256 % 2 ^ 7 ||| 0 :=
    Nat.or_mod_two_pow
  rw [Nat.or_zero] at hor
  refine hor.trans ?_
  omega

theorem le_continued (n : UInt32) : 128 ≤ n.toUInt8 ||| 128 := by
  rw [UInt8.le_iff_toNat_le, UInt8.toNat_or]
  exact Nat.right_le_or

/-- A group with its continuation bit, and the groups behind it. -/
theorem low_or_high (n : UInt32) :
    ((n.toUInt8 ||| 128) &&& 127).toUInt32 ||| (n >>> 7) <<< 7 = n := by
  apply UInt32.toNat_inj.mp
  have hn := n.toNat_lt
  have hhigh : ((n >>> 7) <<< 7).toNat = 2 ^ 7 * (n.toNat / 128) := by
    rw [UInt32.toNat_shiftLeft, UInt32.toNat_shiftRight, Nat.shiftLeft_eq,
      Nat.shiftRight_eq_div_pow]
    show n.toNat / 128 * 128 % 2 ^ 32 = _
    omega
  rw [UInt32.toNat_or, toNat_low, toNat_continued, hhigh, Nat.or_comm,
    ← Nat.two_pow_add_eq_or_of_lt (Nat.mod_lt _ (by decide))]
  omega

/-- The last group of a count is the count, without a continuation bit. -/
theorem toUInt8_low {n : UInt32} (h : n < 128) :
    (n.toUInt8 &&& 127).toUInt32 = n ∧ n.toUInt8.toNat = n.toNat := by
  have hn : n.toNat < 128 := UInt32.lt_iff_toNat_lt.mp h
  have hbyte : n.toUInt8.toNat = n.toNat := by
    rw [UInt32.toNat_toUInt8]
    omega
  refine ⟨UInt32.toNat_inj.mp ?_, hbyte⟩
  rw [toNat_low, hbyte]
  omega

theorem not_continued {n : UInt32} (h : n < 128) : ¬128 ≤ n.toUInt8 := by
  rw [UInt8.le_iff_toNat_le, (toUInt8_low h).2]
  exact Nat.not_le_of_lt (UInt32.lt_iff_toNat_lt.mp h)

namespace Reads

/-- The last group ends a count. -/
theorem last {more : Nat} (place acc : UInt32) {b : UInt8} (hlast : ¬128 ≤ b)
    (hfits : ¬(more = 0 ∧ 15 < b)) :
    Reads (Reader.groups (more + 1) place acc) [b]
      (acc ||| (b &&& 127).toUInt32 <<< place) := by
  apply byte_bind b
  simp only [if_neg hlast, if_neg hfits]
  exact pure _

/-- Any other group is followed by the groups behind it. -/
theorem cons {more : Nat} {place acc value : UInt32} {b : UInt8} {bytes : List UInt8}
    (hmore : 128 ≤ b)
    (hrest : Reads (Reader.groups more (place + 7) (acc ||| (b &&& 127).toUInt32 <<< place)) bytes
      value) :
    Reads (Reader.groups (more + 1) place acc) (b :: bytes) value := by
  apply byte_bind b
  simp only [if_pos hmore]
  exact hrest

/-- A count that fits the bits left from `place` on is read off its groups, onto what
is there. -/
theorem groups (more : Nat) (place n acc : UInt32)
    (hplace : place.toNat + 7 * more = 28) (hn : n.toNat < 2 ^ (7 * more + 4)) :
    Reads (Reader.groups (more + 1) place acc) (Compact.groups (more + 1) n)
      (acc ||| n <<< place) := by
  induction more generalizing place n acc with
  | zero =>
      have hsmall : n < 128 := UInt32.lt_iff_toNat_lt.mpr (Nat.lt_trans hn (by decide))
      obtain ⟨hlow, hbyte⟩ := toUInt8_low hsmall
      have hfits : ¬(0 = 0 ∧ 15 < n.toUInt8) := by
        rw [UInt8.lt_iff_toNat_lt, hbyte]
        exact fun h => Nat.not_lt_of_le (Nat.le_of_lt_succ hn) h.2
      have hread := last place acc (not_continued hsmall) hfits
      rw [hlow] at hread
      simpa only [Compact.groups, if_pos hsmall] using hread
  | succ more ih =>
      by_cases hsmall : n < 128
      · obtain ⟨hlow, -⟩ := toUInt8_low hsmall
        have hread := last place acc (not_continued hsmall)
          (fun h : more + 1 = 0 ∧ 15 < n.toUInt8 => absurd h.1 (Nat.succ_ne_zero more))
        rw [hlow] at hread
        simpa only [Compact.groups, if_pos hsmall] using hread
      · -- What the groups behind this one hold is the count without its low seven bits.
        have hnext : (place + 7).toNat = place.toNat + 7 := by
          rw [UInt32.toNat_add]
          exact Nat.mod_eq_of_lt (show place.toNat + 7 < 2 ^ 32 by omega)
        have hhigh : (n >>> 7).toNat < 2 ^ (7 * more + 4) := by
          rw [UInt32.toNat_shiftRight, Nat.shiftRight_eq_div_pow]
          refine (Nat.div_lt_iff_lt_mul (by decide)).mpr (Nat.lt_of_lt_of_eq hn ?_)
          exact Nat.pow_add 2 (7 * more + 4) 7
        have hrest := ih (place + 7) (n >>> 7)
          (acc ||| ((n.toUInt8 ||| 128) &&& 127).toUInt32 <<< place) (by omega) hhigh
        have hvalue : acc ||| ((n.toUInt8 ||| 128) &&& 127).toUInt32 <<< place |||
            (n >>> 7) <<< (place + 7) = acc ||| n <<< place := by
          rw [UInt32.or_assoc, UInt32.add_comm place, UInt32.shiftLeft_add_of_toNat_lt,
            ← UInt32.shiftLeft_or, low_or_high]
          show 7 + place.toNat < 32
          omega
        rw [hvalue] at hrest
        have hread := cons (le_continued n) hrest
        rw [Compact.groups, if_neg hsmall]
        exact hread

theorem count (n : UInt32) : Reads Reader.count (Compact.count n) n := by
  have hread := groups 4 0 n 0 rfl n.toNat_lt
  rwa [UInt32.shiftLeft_zero, UInt32.zero_or] at hread

/-! ## The other fields -/

theorem number (x : Single) : Reads Reader.number (Compact.number x) x := by
  have hread : Reads Reader.number (Compact.number x)
      ⟨Word.ofBytes (x.bits >>> 24).toUInt8 (x.bits >>> 16).toUInt8 (x.bits >>> 8).toUInt8
        x.bits.toUInt8⟩ :=
    byte_bind _ <| byte_bind _ <| byte_bind _ <| byte_bind _ <| pure _
  rwa [Word.ofBytes_bigEndian] at hread

theorem flag (b : Bool) : Reads Reader.flag (Compact.flag b) b := by
  cases b with
  | false => exact byte_bind 0 (pure false)
  | true => exact byte_bind 1 (pure true)

theorem axis (c : AxisRates) : Reads Reader.axis (Compact.axis c) c := by
  have hbytes : Compact.axis c = Compact.count c.acceleration ++
      (Compact.count c.startVelocity ++ (Compact.count c.homeVelocity ++ [])) := by
    simp only [Compact.axis, List.append_assoc, List.append_nil]
  rw [hbytes]
  exact (count c.acceleration).bind <| (count c.startVelocity).bind <|
    (count c.homeVelocity).bind <| pure c

theorem thermistor (t : Thermistor) : Reads Reader.thermistor (Compact.thermistor t) t := by
  have hbytes : Compact.thermistor t = Compact.number t.a ++
      (Compact.number t.b ++ (Compact.number t.c ++ (Compact.flag t.enabled ++ []))) := by
    simp only [Compact.thermistor, List.append_assoc, List.append_nil]
  rw [hbytes]
  exact (number t.a).bind <| (number t.b).bind <| (number t.c).bind <| (flag t.enabled).bind <|
    pure t

theorem calibration (c : Calibration) :
    Reads Reader.calibration (Compact.calibration c) c := by
  obtain ⟨x, y, ⟨channels⟩, hsize⟩ := c
  match channels, hsize with
  | [t0, t1, t2, t3, t4], _ =>
      have hbytes : Compact.calibration ⟨x, y, #v[t0, t1, t2, t3, t4]⟩ =
          Compact.axis x ++ (Compact.axis y ++ (Compact.thermistor t0 ++
            (Compact.thermistor t1 ++ (Compact.thermistor t2 ++ (Compact.thermistor t3 ++
              (Compact.thermistor t4 ++ [])))))) := by
        simp [Compact.calibration]
      rw [hbytes]
      exact (axis x).bind <| (axis y).bind <| (thermistor t0).bind <| (thermistor t1).bind <|
        (thermistor t2).bind <| (thermistor t3).bind <| (thermistor t4).bind <| pure _

end Reads

/-! ## Sizes -/

theorem length_groups_le (most : Nat) (n : UInt32) : (groups most n).length ≤ most := by
  induction most generalizing n with
  | zero => exact Nat.le_refl 0
  | succ more ih =>
      rw [groups]
      split
      · exact Nat.succ_le_succ (Nat.zero_le more)
      · exact Nat.succ_le_succ (ih (n >>> 7))

theorem length_axis_le (c : AxisRates) : (axis c).length ≤ 3 * maxGroups := by
  have hcount (n : UInt32) : (count n).length ≤ maxGroups := length_groups_le maxGroups n
  have ha := hcount c.acceleration
  have hs := hcount c.startVelocity
  have hh := hcount c.homeVelocity
  rw [axis, List.length_append, List.length_append]
  omega

theorem length_thermistor (t : Thermistor) : (thermistor t).length = 13 := rfl

theorem length_calibration_le (c : Calibration) :
    (calibration c).length ≤ 6 * maxGroups + 13 * channelCount := by
  have hx := length_axis_le c.x
  have hy := length_axis_le c.y
  have hchannels : (c.thermistors.toList.flatMap thermistor).length = 13 * channelCount := by
    simp [List.length_flatMap, length_thermistor, List.map_const', Nat.mul_comm]
  rw [calibration, List.length_append, List.length_append, hchannels]
  omega

end Compact

/-! ## Images -/

namespace FlashImage

/-- An image reads back, whatever its header and its checksum. -/
theorem reader_reads (image : FlashImage) : Compact.Reads reader image.bytes image := by
  have hbytes : image.bytes = Compact.count image.magic ++ ([image.version] ++
      (Compact.calibration image.calibration ++ (Compact.count image.checksum ++ []))) := by
    simp only [bytes, List.append_assoc, List.append_nil]
  rw [hbytes]
  exact (Compact.Reads.count image.magic).bind <| (Compact.Reads.byte image.version).bind <|
    (Compact.Reads.calibration image.calibration).bind <|
      (Compact.Reads.count image.checksum).bind <| Compact.Reads.pure image

theorem verify_new (c : Calibration) : (new c).verify = .ok () := by
  simp [verify, new]

/-- No image is longer than its buffer. -/
theorem length_bytes_le (image : FlashImage) : image.bytes.length ≤ maxSize := by
  have hmagic := Compact.length_groups_le Compact.maxGroups image.magic
  have hchecksum := Compact.length_groups_le Compact.maxGroups image.checksum
  have hcalibration := Compact.length_calibration_le image.calibration
  simp only [bytes, Compact.count, List.length_append, List.length_singleton, Compact.maxGroups,
    channelCount, maxSize] at *
  omega

/-- **A stored calibration reads back.** The image of any calibration can be written
into every buffer that is long enough, a buffer for images among them, and into no
shorter one. In front of any bytes it gives the calibration again, bit for bit; cut
short anywhere it is no image. -/
theorem image_reads_back (c : Calibration) :
    let image := new c
    (∀ size, image.bytes.length ≤ size → image.encode size = .ok image.bytes) ∧
      (∀ size, size < image.bytes.length → image.encode size = .error .tooLarge) ∧
      image.encode maxSize = .ok image.bytes ∧
      (∀ behind, decode (image.bytes ++ behind) = .ok c) ∧
      ∀ front, front <+: image.bytes → front ≠ image.bytes → decode front = .error .unreadable := by
  intro image
  have hreads := reader_reads image
  have hfits : ∀ size, image.bytes.length ≤ size → image.encode size = .ok image.bytes :=
    fun size hsize => if_pos hsize
  refine ⟨hfits, fun size hsize => if_neg (Nat.not_le_of_lt hsize),
    hfits maxSize image.length_bytes_le, fun behind => ?_, fun front hfront hne => ?_⟩
  · rw [decode, hreads.whole]
    dsimp only
    rw [verify_new]
    rfl
  · rw [decode, hreads.torn front hfront hne]

end FlashImage

/-- Counts of one group, of two and of five, and a coefficient that is a NaN. -/
def unevenCalibration : Calibration :=
  { Calibration.default with
    x := ⟨127, 128, 0xffffffff⟩
    thermistors := .replicate channelCount { Thermistor.default with a := ⟨0x7fc00001⟩ } }

/-- Its image is torn within the last count of the first axis. -/
theorem unevenImage_reads_back :
    (FlashImage.new unevenCalibration).encode 40 = .error .tooLarge ∧
      FlashImage.decode ((FlashImage.new unevenCalibration).bytes ++ [0xff]) =
        .ok unevenCalibration ∧
      FlashImage.decode ((FlashImage.new unevenCalibration).bytes.take 12) =
        .error .unreadable := by
  obtain ⟨-, hshort, -, hwhole, htorn⟩ := FlashImage.image_reads_back unevenCalibration
  have hlong : 40 < (FlashImage.new unevenCalibration).bytes.length := by
    have hfields : 40 <
        (Compact.calibration (FlashImage.new unevenCalibration).calibration).length := by
      decide +kernel
    rw [FlashImage.bytes, List.length_append, List.length_append]
    omega
  exact ⟨hshort 40 hlong, hwhole [0xff], htorn _ (List.take_prefix 12 _) (by decide +kernel)⟩

end XYStage
