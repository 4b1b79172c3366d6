/-
# XYStage.Proofs.Wire.Resynchronisation -- how soon a parser is between frames again

A parser that is started by noise takes what follows for a frame, whatever it is. How
much that can be is bounded by the length byte: `Parser.owed` is the most bytes that a
parser may still take before it is between frames, `260` behind a start delimiter.
Every byte lowers it, unless it is a start delimiter that begins the next frame, and
a run of `0xff` lowers it by no more than one each.

Main statement: `260` bytes without a start delimiter bring every parser that can come
about between frames, fewer do not, and the frame encoded behind them is received on
its last byte (`resynchronises_within_bound`).
-/
import Mathlib.Order.Bounds.Basic
import XYStage.Proofs.Wire.Framing

namespace XYStage

set_option autoImplicit false

namespace Parser

/-! ## Bytes one at a time -/

/-- The parsers that can come about. A reset gives the fresh one. -/
inductive Reachable : Parser → Prop where
  | fresh : Reachable .outside
  | feed {parser : Parser} (before : Reachable parser) (byte : UInt8) :
      Reachable (parser.feed byte).2

theorem Reachable.sound {parser : Parser} (h : Reachable parser) : parser.Sound := by
  induction h with
  | fresh => trivial
  | feed _ byte ih => exact sound_feed ih byte

/-- The parser after some bytes. -/
def after (bytes : List UInt8) (parser : Parser) : Parser :=
  (trace bytes parser).2

/-- What each of some bytes brings about. -/
def outcomes (bytes : List UInt8) (parser : Parser) : List Outcome :=
  (trace bytes parser).1.map (·.1)

@[simp] theorem after_nil (parser : Parser) : after [] parser = parser := rfl

@[simp] theorem after_cons (byte : UInt8) (rest : List UInt8) (parser : Parser) :
    after (byte :: rest) parser = after rest (parser.feed byte).2 := rfl

@[simp] theorem outcomes_nil (parser : Parser) : outcomes [] parser = [] := rfl

@[simp] theorem outcomes_cons (byte : UInt8) (rest : List UInt8) (parser : Parser) :
    outcomes (byte :: rest) parser =
      (parser.feed byte).1 :: outcomes rest (parser.feed byte).2 := rfl

theorem outcomes_append (front back : List UInt8) (parser : Parser) :
    outcomes (front ++ back) parser =
      outcomes front parser ++ outcomes back (after front parser) := by
  induction front generalizing parser with
  | nil => rfl
  | cons byte front ih => simp only [List.cons_append, outcomes_cons, after_cons, ih]

theorem after_eq_digest (bytes : List UInt8) (parser : Parser) :
    after bytes parser = (digest bytes parser).2 := by
  induction bytes generalizing parser with
  | nil => rfl
  | cons byte rest ih => rw [after_cons, ih, digest_cons]

/-- Bytes that come to nothing bring nothing about one by one. -/
theorem outcomes_of_digest_none {bytes : List UInt8} {parser : Parser}
    (h : (digest bytes parser).1 = .none) :
    outcomes bytes parser = List.replicate bytes.length .pending := by
  induction bytes generalizing parser with
  | nil => rfl
  | cons byte rest ih =>
      rw [digest_cons] at h
      have hframes := congrArg Reading.frames h
      have hdropped := congrArg Reading.dropped h
      simp only [Reading.frames_append, Reading.dropped_append, Reading.frames_none,
        Reading.dropped_none, List.append_eq_nil_iff, Nat.add_eq_zero_iff] at hframes hdropped
      have hpending : (parser.feed byte).1 = .pending := by
        cases houtcome : (parser.feed byte).1 with
        | pending => rfl
        | complete frame => simp [houtcome, Outcome.reading] at hframes
        | broken => simp [houtcome, Outcome.reading] at hdropped
      rw [outcomes_cons, hpending, ih (Reading.ext hframes.2 hdropped.2), List.length_cons,
        List.replicate_succ]

/-! ## The bytes still owed -/

/-- The most bytes that may be taken before the parser is between frames. -/
def owed : Parser → Nat
  | .outside => 0
  | .started => 260
  | .identified _ => 259
  | .collecting _ length payload => length.toNat - payload.size + 3
  | .padding _ _ seen => Frame.reserved.length - seen + 1
  | .closing _ _ => 1

theorem owed_eq_zero_iff {parser : Parser} : parser.owed = 0 ↔ parser = .outside := by
  cases parser <;> simp [owed]

theorem owed_le (parser : Parser) : parser.owed ≤ 260 := by
  cases parser with
  | collecting id length payload =>
      have := length.toNat_lt
      simp only [owed]
      omega
  | padding id payload seen =>
      simp only [owed, Frame.reserved, List.length_cons, List.length_nil]
      omega
  | _ => simp [owed]

/-- One byte pays for one, unless it begins a frame; the greatest length byte pays for
no more. -/
theorem owed_feed {parser : Parser} (h : parser.Sound) (byte : UInt8)
    (hbyte : byte ≠ Frame.startByte) :
    (parser.feed byte).2.owed ≤ parser.owed - 1 ∧
      (byte = 0xff → (parser.feed byte).2.owed = parser.owed - 1) := by
  cases parser with
  | outside => simp [feed, hbyte, owed]
  | started => simp [feed, owed]
  | identified id =>
      have := byte.toNat_lt
      simp only [feed]
      split
      · next hzero =>
        subst hzero
        simp [owed, Frame.reserved]
      · simp only [owed, Payload.size, Payload.empty, List.length_nil]
        refine ⟨by omega, ?_⟩
        rintro rfl
        rfl
  | collecting id length payload =>
      have hlt : payload.size < length.toNat := h
      have hpush : (payload.push byte).size = payload.size + 1 := by
        simp only [Payload.size, push_bytes h, List.length_append, List.length_singleton]
      simp only [feed]
      split
      · simp only [owed, Frame.reserved, List.length_cons, List.length_nil]
        omega
      · simp only [owed, hpush]
        omega
  | padding id payload seen =>
      have hlt : seen < Frame.reserved.length := h
      simp only [feed]
      split
      · simp only [owed]
        omega
      · simp only [owed]
        omega
  | closing id payload =>
      simp only [feed]
      split <;> simp [owed]

theorem owed_after_le {bytes : List UInt8} (hbytes : Frame.startByte ∉ bytes) {parser : Parser}
    (h : parser.Sound) : (after bytes parser).owed ≤ parser.owed - bytes.length := by
  induction bytes generalizing parser with
  | nil => exact Nat.le_refl _
  | cons byte rest ih =>
      rw [List.mem_cons, not_or] at hbytes
      have hfirst := (owed_feed h byte (Ne.symm hbytes.1)).1
      have hrest := ih hbytes.2 (sound_feed h byte)
      rw [after_cons, List.length_cons]
      omega

theorem owed_after_replicate {parser : Parser} (h : parser.Sound) (count : Nat) :
    (after (List.replicate count 0xff) parser).owed = parser.owed - count := by
  induction count generalizing parser with
  | zero => rfl
  | succ count ih =>
      have hfirst := (owed_feed h 0xff (by decide)).2 rfl
      rw [List.replicate_succ, after_cons, ih (sound_feed h _), hfirst]
      omega

/-! ## The next frame -/

/-- Between frames, an encoded frame is received on its last byte. -/
theorem outcomes_encode (frame : Frame) :
    outcomes frame.encode .outside =
      List.replicate (frame.encodedSize - 1) .pending ++ [.complete frame] := by
  have hbytes : frame.encode = (Frame.startByte :: frame.id :: (frame.length ::
      frame.payload.bytes ++ Frame.reserved)) ++ [Frame.endByte] := by
    simp [Frame.encode]
  have hdigest : digest (Frame.startByte :: frame.id :: (frame.length ::
      frame.payload.bytes ++ Frame.reserved)) .outside =
      (.none, .closing frame.id frame.payload) := by
    rw [digest_outside_start, digest_started, digest_append,
      digest_identified frame.toNat_length.symm, Reading.none_append]
    simp [digest_cons, feed, Outcome.reading, Frame.reserved]
  have hlength := frame.length_encode
  rw [hbytes, List.length_append, List.length_singleton] at hlength
  rw [hbytes, outcomes_append, outcomes_of_digest_none (by rw [hdigest]), after_eq_digest, hdigest,
    ← hlength, Nat.add_sub_cancel]
  simp [feed]

/-- **Noise is over after so many bytes.** `260` is the least number such that any so
many bytes without a start delimiter bring every parser that can come about between
frames. Behind so many or more no frame is in progress, and of the encoded frame that
follows no byte but the last brings anything about, and that one the frame. -/
theorem resynchronises_within_bound :
    IsLeast { count | ∀ parser, Reachable parser → ∀ bytes : List UInt8, bytes.length = count →
        Frame.startByte ∉ bytes → after bytes parser = .outside } 260 ∧
      ∀ parser, Reachable parser → ∀ bytes : List UInt8, 260 ≤ bytes.length →
        Frame.startByte ∉ bytes →
        after bytes parser = .outside ∧ (after bytes parser).isPartial = false ∧
          ∀ frame : Frame, outcomes frame.encode (after bytes parser) =
            List.replicate (frame.encodedSize - 1) .pending ++ [.complete frame] := by
  have hbetween (parser : Parser) (h : Reachable parser) (bytes : List UInt8)
      (hlength : 260 ≤ bytes.length) (hbytes : Frame.startByte ∉ bytes) :
      after bytes parser = .outside := by
    have howed := owed_after_le hbytes h.sound
    have hmost := parser.owed_le
    exact owed_eq_zero_iff.mp (by omega)
  refine ⟨⟨?_, ?_⟩, ?_⟩
  · intro parser h bytes hlength hbytes
    exact hbetween parser h bytes (Nat.le_of_eq hlength.symm) hbytes
  · -- Behind a start delimiter, `0xff` is the identifier and then the greatest length.
    intro count hcount
    have hstarted : Reachable .started := .feed .fresh Frame.startByte
    have hlate := hcount .started hstarted (List.replicate count 0xff) List.length_replicate
      fun hmem => absurd (List.eq_of_mem_replicate hmem) (by decide)
    have howed := owed_after_replicate hstarted.sound count
    rw [hlate, owed, owed] at howed
    omega
  · intro parser h bytes hlength hbytes
    have houtside := hbetween parser h bytes hlength hbytes
    rw [houtside]
    exact ⟨rfl, rfl, outcomes_encode⟩

end Parser

end XYStage
