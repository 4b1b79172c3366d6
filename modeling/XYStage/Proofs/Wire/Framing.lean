/-
# XYStage.Proofs.Wire.Framing -- the frames in a whole stream of bytes

`Reading.ofStream` says which frames a stream holds, by looking at the whole of it:
skip to the next start delimiter, take an identifier, a length, as many payload
bytes as it declares whatever their values, two reserved bytes and a last byte;
the frame counts if the last byte is the end delimiter and is dropped otherwise;
go on behind it. `Parser.digest` is what the parser makes of the same bytes when
it takes them one at a time.

Main statements: the two agree on every stream (`digest_outside`), a parser that
has read anything has room for every payload byte it takes
(`Parser.sound_digest`), and a stream of encoded frames with other bytes between
them holds exactly those frames (`ofStream_separated`).
-/
import XYStage.Wire.Parser

namespace XYStage

set_option autoImplicit false

/-! ## What a stream holds -/

/-- What a stretch of bytes comes to. -/
@[ext] structure Reading where
  /-- The frames that end in it, in order. -/
  frames : List Frame
  /-- The number of frames that end in it without their end delimiter. -/
  dropped : Nat
  deriving DecidableEq

namespace Reading

def none : Reading := ⟨[], 0⟩

/-- One stretch after another. -/
instance : Append Reading where
  append a b := ⟨a.frames ++ b.frames, a.dropped + b.dropped⟩

@[simp] theorem frames_none : none.frames = [] := rfl

@[simp] theorem dropped_none : none.dropped = 0 := rfl

@[simp] theorem frames_append (a b : Reading) : (a ++ b).frames = a.frames ++ b.frames := rfl

@[simp] theorem dropped_append (a b : Reading) : (a ++ b).dropped = a.dropped + b.dropped := rfl

@[simp] theorem none_append (a : Reading) : none ++ a = a := by
  simp [Reading.ext_iff]

@[simp] theorem append_none (a : Reading) : a ++ none = a := by
  simp [Reading.ext_iff]

theorem append_assoc (a b c : Reading) : a ++ b ++ c = a ++ (b ++ c) := by
  simp [Reading.ext_iff, Nat.add_assoc]

end Reading

/-- What stands behind a start delimiter, when all of it is there. -/
structure Enclosed where
  id : UInt8
  payload : Payload
  /-- The byte where the end delimiter belongs. -/
  last : UInt8
  /-- The bytes behind that one. -/
  later : List UInt8

namespace Enclosed

/-- The first `length` of some bytes; fewer if there are fewer. -/
def firstBytes (length : UInt8) (bytes : List UInt8) : Payload where
  bytes := bytes.take length.toNat
  size_le := by
    have := length.toNat_lt
    simp only [List.length_take, payloadLimit]
    omega

/-- An identifier, a length, so many payload bytes, two reserved bytes and one
more. -/
def ofBytes? : List UInt8 → Option Enclosed
  | id :: length :: body =>
      match body.drop length.toNat with
      | _ :: _ :: last :: later => some ⟨id, firstBytes length body, last, later⟩
      | _ => none
  | _ => none

/-- The frame, if the end delimiter is in its place. -/
def reading (e : Enclosed) : Reading :=
  if e.last = Frame.endByte then ⟨[⟨e.id, e.payload⟩], 0⟩ else ⟨[], 1⟩

theorem later_lt {bytes : List UInt8} {e : Enclosed} (h : ofBytes? bytes = some e) :
    e.later.length < bytes.length := by
  unfold ofBytes? at h
  split at h
  · next id length body =>
    split at h
    · next r1 r2 last later hdrop =>
      cases h
      have := congrArg List.length hdrop
      simp only [List.length_drop, List.length_cons] at this ⊢
      omega
    · cases h
  · cases h

theorem ofBytes?_append (id length : UInt8) (payload : Payload) (r1 r2 last : UInt8)
    (later : List UInt8) (h : payload.size = length.toNat) :
    ofBytes? (id :: length :: (payload.bytes ++ r1 :: r2 :: last :: later)) =
      some ⟨id, payload, last, later⟩ := by
  cases payload
  simp only [Payload.size] at h
  simp only [ofBytes?, firstBytes, ← h, List.drop_left, List.take_left]

theorem ofBytes?_eq_some {bytes : List UInt8} {e : Enclosed} (h : ofBytes? bytes = some e) :
    ∃ length r1 r2, e.payload.size = UInt8.toNat length ∧
      bytes = e.id :: length :: (e.payload.bytes ++ r1 :: r2 :: e.last :: e.later) := by
  unfold ofBytes? at h
  split at h
  · next id length body =>
    split at h
    · next r1 r2 last later hdrop =>
      cases h
      have hlen := congrArg List.length hdrop
      simp only [List.length_drop, List.length_cons] at hlen
      refine ⟨length, r1, r2, ?_, ?_⟩
      · simp only [Payload.size, firstBytes, List.length_take]
        omega
      · simp only [firstBytes, ← hdrop, List.take_append_drop]
    · cases h
  · cases h

theorem ofBytes?_eq_none {id length : UInt8} {body : List UInt8}
    (h : ofBytes? (id :: length :: body) = none) : body.length < length.toNat + 3 := by
  refine Nat.lt_of_not_le fun hlen => ?_
  have hdrop : 3 ≤ (body.drop length.toNat).length := by
    rw [List.length_drop]
    omega
  match hb : body.drop length.toNat, hdrop with
  | _ :: _ :: _ :: _, _ => simp [ofBytes?, hb] at h

end Enclosed

namespace Reading

/-- What a whole stream holds. A frame that is cut off at the end of the stream
counts for nothing. -/
def ofStream : List UInt8 → Reading
  | [] => none
  | byte :: rest =>
      if byte = Frame.startByte then
        match _h : Enclosed.ofBytes? rest with
        | some e => e.reading ++ ofStream e.later
        | Option.none => none
      else ofStream rest
  termination_by stream => stream.length
  decreasing_by
    · have := Enclosed.later_lt _h
      simp only [List.length_cons]
      omega
    · simp

@[simp] theorem ofStream_nil : ofStream [] = none := by
  rw [ofStream]

theorem ofStream_cons_of_ne {byte : UInt8} (rest : List UInt8) (h : byte ≠ Frame.startByte) :
    ofStream (byte :: rest) = ofStream rest := by
  rw [ofStream, if_neg h]

theorem ofStream_start {rest : List UInt8} {e : Enclosed} (h : Enclosed.ofBytes? rest = some e) :
    ofStream (Frame.startByte :: rest) = e.reading ++ ofStream e.later := by
  rw [ofStream, if_pos rfl]
  split
  · next heq =>
    rw [h] at heq
    cases heq
    rfl
  · next heq => simp [h] at heq

theorem ofStream_start_of_none {rest : List UInt8} (h : Enclosed.ofBytes? rest = Option.none) :
    ofStream (Frame.startByte :: rest) = none := by
  rw [ofStream, if_pos rfl]
  split
  · next heq => simp [h] at heq
  · rfl

end Reading

/-! ## What the parser makes of it -/

namespace Parser

/-- What an outcome adds to a reading. -/
def Outcome.reading : Outcome → Reading
  | .pending => .none
  | .complete frame => ⟨[frame], 0⟩
  | .broken => ⟨[], 1⟩

/-- Take every byte, one at a time: what they came to, and the parser after the
last. -/
def digest : List UInt8 → Parser → Reading × Parser
  | [], parser => (.none, parser)
  | byte :: rest, parser =>
      let (outcome, parser) := parser.feed byte
      let (later, last) := digest rest parser
      (outcome.reading ++ later, last)

@[simp] theorem digest_nil (parser : Parser) : digest [] parser = (.none, parser) := rfl

theorem digest_cons (byte : UInt8) (rest : List UInt8) (parser : Parser) :
    digest (byte :: rest) parser =
      ((parser.feed byte).1.reading ++ (digest rest (parser.feed byte).2).1,
        (digest rest (parser.feed byte).2).2) := rfl

theorem digest_singleton {byte : UInt8} {parser parser' : Parser} {outcome : Outcome}
    (h : parser.feed byte = (outcome, parser')) :
    digest [byte] parser = (outcome.reading, parser') := by
  rw [digest_cons, h, digest_nil, Reading.append_none]

theorem digest_outside_start (rest : List UInt8) :
    digest (Frame.startByte :: rest) .outside = digest rest .started := by
  simp [digest_cons, feed, Outcome.reading]

theorem digest_outside_skip {byte : UInt8} (rest : List UInt8) (h : byte ≠ Frame.startByte) :
    digest (byte :: rest) .outside = digest rest .outside := by
  simp [digest_cons, feed, Outcome.reading, h]

theorem digest_started (id : UInt8) (rest : List UInt8) :
    digest (id :: rest) .started = digest rest (.identified id) := by
  simp [digest_cons, feed, Outcome.reading]

/-- A stream may be cut anywhere: the parser carries over what it needs. -/
theorem digest_append (front back : List UInt8) (parser : Parser) :
    digest (front ++ back) parser =
      ((digest front parser).1 ++ (digest back (digest front parser).2).1,
        (digest back (digest front parser).2).2) := by
  induction front generalizing parser with
  | nil => simp
  | cons byte front ih =>
      simp only [List.cons_append, digest_cons, ih, Reading.append_assoc]

/-- What every parser that has read something keeps to: a payload being collected
is shorter than declared, and a reserved byte is still to come while padding. -/
def Sound : Parser → Prop
  | .collecting _ length payload => payload.size < length.toNat
  | .padding _ _ seen => seen < Frame.reserved.length
  | _ => True

/-- A payload that is shorter than declared has room. -/
theorem push_bytes {length : UInt8} {payload : Payload} (h : payload.size < length.toNat)
    (byte : UInt8) : (payload.push byte).bytes = payload.bytes ++ [byte] := by
  have := length.toNat_lt
  have room : payload.bytes.length < payloadLimit := by
    simp only [Payload.size] at h
    simp only [payloadLimit]
    omega
  simp only [Payload.push, dif_pos room]

theorem sound_feed {parser : Parser} (h : parser.Sound) (byte : UInt8) :
    (parser.feed byte).2.Sound := by
  cases parser with
  | outside =>
      simp only [feed]
      split <;> trivial
  | started => trivial
  | identified id =>
      simp only [feed]
      split
      · simp [Sound, Frame.reserved]
      · next hne =>
        have : byte.toNat ≠ 0 := fun h0 => hne (UInt8.toNat_inj.mp h0)
        simp only [Sound, Payload.size, Payload.empty, List.length_nil]
        omega
  | collecting id length payload =>
      have hpush : (payload.push byte).size = payload.size + 1 := by
        simp only [Payload.size, push_bytes h, List.length_append, List.length_singleton]
      have hlt : payload.size < length.toNat := h
      simp only [feed]
      split
      · simp [Sound, Frame.reserved]
      · next hne =>
        simp only [Sound]
        omega
  | padding id payload seen =>
      have hlt : seen < Frame.reserved.length := h
      simp only [feed]
      split
      · trivial
      · simp only [Sound]
        omega
  | closing id payload =>
      simp only [feed]
      split <;> trivial

theorem sound_digest (bytes : List UInt8) {parser : Parser} (h : parser.Sound) :
    (digest bytes parser).2.Sound := by
  induction bytes generalizing parser with
  | nil => exact h
  | cons byte rest ih => exact ih (sound_feed h byte)

/-- Payload bytes up to the declared length. -/
theorem digest_collecting {id length : UInt8} {part whole : Payload} {bytes : List UInt8}
    (hwhole : whole.bytes = part.bytes ++ bytes) (hsize : whole.size = length.toNat)
    (hne : bytes ≠ []) :
    digest bytes (.collecting id length part) = (.none, .padding id whole 0) := by
  induction bytes generalizing part with
  | nil => exact absurd rfl hne
  | cons byte rest ih =>
      have hlen : part.size + (rest.length + 1) = length.toNat := by
        rw [← hsize, Payload.size, Payload.size, hwhole, List.length_append, List.length_cons]
      have hpush := push_bytes (show part.size < length.toNat by omega) byte
      have hpushed : (part.push byte).size = part.size + 1 := by
        simp only [Payload.size, hpush, List.length_append, List.length_singleton]
      simp only [digest_cons, feed, Outcome.reading, Reading.none_append]
      cases rest with
      | nil =>
          have hdone : (part.push byte).size = length.toNat := by
            rw [hpushed, ← hlen, List.length_nil]
          have heq : part.push byte = whole := by
            cases whole
            cases hp : part.push byte
            simp_all
          rw [if_pos hdone, heq, digest_nil]
      | cons next rest =>
          have hmore : (part.push byte).size ≠ length.toNat := by
            rw [hpushed, ← hlen, List.length_cons]
            omega
          rw [if_neg hmore]
          exact ih (by rw [hwhole, hpush, List.append_assoc, List.singleton_append]) (by simp)

/-- Fewer payload bytes than declared. -/
theorem digest_collecting_short {id length : UInt8} {part : Payload} {bytes : List UInt8}
    (h : part.size + bytes.length < length.toNat) :
    (digest bytes (.collecting id length part)).1 = .none := by
  induction bytes generalizing part with
  | nil => rfl
  | cons byte rest ih =>
      rw [List.length_cons] at h
      have hpushed : (part.push byte).size = part.size + 1 := by
        simp only [Payload.size, push_bytes (show part.size < length.toNat by omega),
          List.length_append, List.length_singleton]
      have hmore : (part.push byte).size ≠ length.toNat := by omega
      simp only [digest_cons, feed, Outcome.reading, Reading.none_append, if_neg hmore]
      exact ih (by omega)

/-- A length and a whole payload. -/
theorem digest_identified {id length : UInt8} {payload : Payload}
    (h : payload.size = length.toNat) :
    digest (length :: payload.bytes) (.identified id) = (.none, .padding id payload 0) := by
  simp only [digest_cons, feed, Outcome.reading, Reading.none_append]
  split
  · next hzero =>
    have hempty : payload = .empty := by
      cases payload
      simp_all [Payload.size, Payload.empty]
    simp [hempty, Payload.empty]
  · next hne =>
    refine digest_collecting rfl h fun hnil => hne ?_
    rw [Payload.size, hnil, List.length_nil] at h
    exact UInt8.toNat_inj.mp h.symm

/-- Everything behind a payload. -/
theorem digest_padding (id : UInt8) (payload : Payload) (r1 r2 last : UInt8)
    (later : List UInt8) :
    (digest (r1 :: r2 :: last :: later) (.padding id payload 0)).1 =
      (Enclosed.mk id payload last later).reading ++ (digest later .outside).1 := by
  by_cases h : last = Frame.endByte <;>
    simp [digest_cons, feed, Outcome.reading, Enclosed.reading, Frame.reserved, h]

/-- A frame that is cut off comes to nothing. -/
theorem digest_identified_short {id length : UInt8} {body : List UInt8}
    (h : body.length < length.toNat + 3) :
    (digest (length :: body) (.identified id)).1 = .none := by
  by_cases hshort : body.length < length.toNat
  · have hne : length ≠ 0 := by
      rintro rfl
      simp at hshort
    simp only [digest_cons, feed, Outcome.reading, Reading.none_append, if_neg hne]
    exact digest_collecting_short (by simpa [Payload.size, Payload.empty] using hshort)
  · have hsize : (Enclosed.firstBytes length body).size = length.toNat := by
      simp only [Payload.size, Enclosed.firstBytes, List.length_take]
      omega
    have hrest : (body.drop length.toNat).length < 3 := by
      rw [List.length_drop]
      omega
    rw [← List.take_append_drop length.toNat body, ← List.cons_append, digest_append]
    rw [show body.take length.toNat = (Enclosed.firstBytes length body).bytes from rfl,
      digest_identified hsize, Reading.none_append]
    match body.drop length.toNat, hrest with
    | [], _ => rfl
    | [_], _ => rfl
    | [_, _], _ => rfl

/-- **The parser reads a stream as the framing rule does.** -/
theorem digest_outside (stream : List UInt8) :
    (digest stream .outside).1 = Reading.ofStream stream := by
  induction h : stream.length using Nat.strongRecOn generalizing stream with
  | _ n ih =>
    subst h
    cases stream with
    | nil => simp
    | cons byte rest =>
        by_cases hstart : byte = Frame.startByte
        · subst hstart
          rw [digest_outside_start]
          cases hcut : Enclosed.ofBytes? rest with
          | none =>
              rw [Reading.ofStream_start_of_none hcut]
              match rest, hcut with
              | [], _ => rfl
              | [_], _ => rfl
              | id :: length :: body, hcut =>
                  rw [digest_started]
                  exact digest_identified_short (Enclosed.ofBytes?_eq_none hcut)
          | some e =>
              obtain ⟨length, r1, r2, hsize, rfl⟩ := Enclosed.ofBytes?_eq_some hcut
              have hlater := Enclosed.later_lt hcut
              rw [Reading.ofStream_start hcut, ← ih _ (by simp at hlater ⊢; omega) _ rfl,
                digest_started, ← List.cons_append, digest_append, digest_identified hsize,
                Reading.none_append, digest_padding]
        · rw [digest_outside_skip rest hstart, Reading.ofStream_cons_of_ne rest hstart,
            ih _ (by simp) _ rfl]

end Parser

/-! ## Encoded frames -/

theorem Frame.length_encode (frame : Frame) : frame.encode.length = frame.encodedSize := by
  simp only [encode, encodedSize, overhead, reserved, Payload.size, List.length_append,
    List.length_cons, List.length_nil]
  omega

theorem Frame.toNat_length (frame : Frame) : frame.length.toNat = frame.payload.size := by
  have := frame.payload.size_le
  simp only [payloadLimit] at this
  simp only [length, Payload.size, UInt8.toNat_ofNat']
  omega

/-- An encoded frame leaves the parser as it was between frames. -/
theorem Parser.digest_encode (frame : Frame) :
    digest frame.encode .outside = (⟨[frame], 0⟩, .outside) := by
  have hbytes : frame.encode = Frame.startByte :: frame.id :: (frame.length ::
      frame.payload.bytes ++ [0, 0, Frame.endByte]) := by
    simp [Frame.encode, Frame.reserved]
  rw [hbytes, digest_outside_start, digest_started, digest_append,
    digest_identified frame.toNat_length.symm, Reading.none_append]
  simp [digest_cons, feed, Outcome.reading, Frame.reserved]

namespace Reading

/-- A frame read back where it was written, whatever comes behind it. -/
theorem ofStream_encode (frame : Frame) (later : List UInt8) :
    ofStream (frame.encode ++ later) = ⟨[frame], 0⟩ ++ ofStream later := by
  have hsize : frame.payload.size = frame.length.toNat := frame.toNat_length.symm
  have hcut := Enclosed.ofBytes?_append frame.id frame.length frame.payload 0 0 Frame.endByte later
    hsize
  have hbytes : frame.encode ++ later = Frame.startByte :: frame.id :: frame.length ::
      (frame.payload.bytes ++ 0 :: 0 :: Frame.endByte :: later) := by
    simp [Frame.encode, Frame.reserved]
  rw [hbytes, ofStream_start hcut]
  rfl

theorem ofStream_gap {gap : List UInt8} (h : Frame.startByte ∉ gap) (later : List UInt8) :
    ofStream (gap ++ later) = ofStream later := by
  induction gap with
  | nil => rfl
  | cons byte gap ih =>
      have hne : byte ≠ Frame.startByte := fun heq => h (by simp [heq])
      rw [List.cons_append, ofStream_cons_of_ne _ hne, ih fun hmem => h (by simp [hmem])]

/-- Encoded frames, each behind a gap of other bytes, and a last gap. -/
def separated (parts : List (List UInt8 × Frame)) (tail : List UInt8) : List UInt8 :=
  parts.flatMap (fun part => part.1 ++ part.2.encode) ++ tail

theorem ofStream_separated {parts : List (List UInt8 × Frame)} {tail : List UInt8}
    (hgaps : ∀ part ∈ parts, Frame.startByte ∉ part.1) (htail : Frame.startByte ∉ tail) :
    ofStream (separated parts tail) = ⟨parts.map (·.2), 0⟩ := by
  induction parts with
  | nil => simpa [separated, none] using ofStream_gap htail []
  | cons part parts ih =>
      have hrest := ih fun other hmem => hgaps other (by simp [hmem])
      have hcons : separated (part :: parts) tail =
          part.1 ++ (part.2.encode ++ separated parts tail) := by
        simp [separated]
      rw [hcons, ofStream_gap (hgaps part (by simp)), ofStream_encode, hrest, Reading.ext_iff]
      simp

end Reading

end XYStage
