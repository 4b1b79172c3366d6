/-
# XYStage.Proofs.Wire.Catalogue -- which frames are messages

A catalogue gives every identifier of one direction the layout of its payload: the
number of bytes, and which of them are codes. A frame that follows the layout is a
message, and the frame of that message; a frame that does not is refused for the
first rule it breaks (`Catalogue.Refuses`). Only the flags of an axis state have more
than one spelling (`Frame.normalised`).

Main statement: `messages_match_catalogues`.
-/
import Mathlib.Data.FinEnum
import XYStage.Proofs.Wire.Messages

namespace XYStage

set_option autoImplicit false

/-! ## Layouts -/

/-- The form of a payload. -/
structure Layout where
  /-- Number of bytes, unless any number will do. -/
  size : Option Nat
  /-- The places that hold a code, each with the codes that mean something. -/
  codes : List (Nat × List UInt8)

namespace Layout

def free : Layout := ⟨none, []⟩

def fixed (size : Nat) (codes : List (Nat × List UInt8)) : Layout := ⟨some size, codes⟩

/-- Every code in the payload means something. -/
def Admits (layout : Layout) (bytes : List UInt8) : Prop :=
  ∀ place ∈ layout.codes, ∃ code ∈ place.2, bytes[place.1]? = some code

end Layout

/-- The identifiers of one direction, with the layouts of their payloads. -/
abbrev Catalogue := List (UInt8 × Layout)

/-- The first rule of the catalogue that the frame breaks. -/
inductive Catalogue.Refuses (catalogue : Catalogue) (frame : Frame) : MessageError → Prop where
  | unknownId (absent : catalogue.lookup frame.id = none) :
      Refuses catalogue frame (.unknownId frame.id)
  | wrongSize {layout : Layout} {expected : Nat} (listed : catalogue.lookup frame.id = some layout)
      (size : layout.size = some expected) (differs : frame.payload.size ≠ expected) :
      Refuses catalogue frame (.wrongSize frame.id expected frame.payload.size)
  | badField {layout : Layout} (listed : catalogue.lookup frame.id = some layout)
      (size : ∀ expected ∈ layout.size, frame.payload.size = expected)
      (unfit : ¬layout.Admits frame.payload.bytes) : Refuses catalogue frame (.badField frame.id)

/-- The codes `0`, `1`, ... up to `count`. -/
def codesBelow (count : Nat) : List UInt8 :=
  (List.range count).map UInt8.ofNat

/-- Three keys for each axis, four apart, and four for each thermistor. -/
def keyCodes : List UInt8 :=
  [0x10, 0x11, 0x12, 0x14, 0x15, 0x16] ++ (codesBelow 20).map (0x20 + ·)

/-- What the host may ask. -/
def Command.catalogue : Catalogue :=
  [(0x01, .free),
    (0x02, .fixed 0 []),
    (0x03, .fixed 0 []),
    (0x04, .fixed 14 [(12, codesBelow 2), (13, codesBelow 2)]),
    (0x05, .fixed 0 []),
    (0x06, .fixed 0 []),
    (0x07, .fixed 1 [(0, codesBelow 2)]),
    (0x08, .fixed 0 []),
    (0x09, .fixed 5 [(0, keyCodes)])]

/-- What the device may answer. -/
def Reply.catalogue : Catalogue :=
  [(0x80, .fixed 0 []),
    (0x81, .fixed 0 []),
    (0x82, .free),
    (0x83, .fixed 1 [(0, codesBelow 4)]),
    (0x84, .fixed 8 []),
    (0x85, .fixed 18 [(0, codesBelow 2), (4, codesBelow 2), (5, codesBelow 3)]),
    (0x86, .fixed 20 []),
    (0x87, .fixed 1 [(0, codesBelow 8)])]

/-! ## Codes -/

/-- The bytes that are read are those listed, and each is the byte of what was read. -/
structure Coded {α : Type} (ofByte? : UInt8 → Option α) (toByte : α → UInt8)
    (codes : List UInt8) : Prop where
  isSome : ∀ byte, (ofByte? byte).isSome ↔ byte ∈ codes
  toByte : ∀ byte, ∀ value ∈ ofByte? byte, toByte value = byte

/-- It is enough that the listed bytes are read, and that what is read is the byte of a
value, and listed. -/
theorem Coded.of {α : Type} {ofByte? : UInt8 → Option α} {toByte : α → UInt8}
    {codes : List UInt8} (reads : (codes.all fun code => (ofByte? code).isSome) = true)
    (listed : ∀ byte, ∀ value ∈ ofByte? byte, toByte value = byte ∧ byte ∈ codes) :
    Coded ofByte? toByte codes where
  isSome byte := by
    refine ⟨fun h => ?_, List.all_eq_true.mp reads byte⟩
    obtain ⟨value, hvalue⟩ := Option.isSome_iff_exists.mp h
    exact (listed byte value hvalue).2
  toByte byte value hvalue := (listed byte value hvalue).1

theorem AxisId.coded : Coded ofByte? toByte (codesBelow 2) := by
  refine .of (by decide) fun byte value h => ?_
  unfold ofByte? at h
  split_ifs at h <;> cases h <;> subst byte <;> decide

theorem Direction.coded : Coded ofByte? toByte (codesBelow 2) := by
  refine .of (by decide) fun byte value h => ?_
  unfold ofByte? at h
  split_ifs at h <;> cases h <;> subst byte <;> decide

theorem Segment.coded : Coded ofByte? toByte (codesBelow 3) := by
  refine .of (by decide) fun byte value h => ?_
  unfold ofByte? at h
  split_ifs at h <;> cases h <;> subst byte <;> decide

theorem StatusCode.coded : Coded ofByte? toByte (codesBelow 4) := by
  refine .of (by decide) fun byte value h => ?_
  unfold ofByte? at h
  split_ifs at h <;> cases h <;> subst byte <;> decide

theorem ResultCode.coded : Coded ofByte? toByte (codesBelow 8) := by
  refine .of (by decide) fun byte value h => ?_
  unfold ofByte? at h
  split_ifs at h <;> cases h <;> subst byte <;> decide

theorem ParameterKey.of_ofByte? : ∀ byte, ∀ key ∈ ofByte? byte,
    (key.toByte = byte ∧ byte ∈ keyCodes) ∧ key.Exists := by
  decide +kernel

theorem ParameterKey.coded : Coded ofByte? toByte keyCodes :=
  .of (by decide +kernel) fun byte key h => (of_ofByte? byte key h).1

theorem Word.bigEndian_ofBytes (b3 b2 b1 b0 : UInt8) :
    bigEndian (ofBytes b3 b2 b1 b0) = [b3, b2, b1, b0] := by
  simp only [bigEndian, List.cons.injEq, and_true, ← UInt8.toBitVec_inj, ofBytes,
    UInt8.toBitVec_toUInt32, UInt32.toBitVec_shiftRight, UInt32.toBitVec_or,
    UInt32.toBitVec_shiftLeft, UInt32.toBitVec_toUInt8]
  refine ⟨?_, ?_, ?_, ?_⟩ <;> refine BitVec.eq_of_getLsbD_eq fun i hi => ?_
  -- Bit `i` of a byte is that bit of the word, moved up, and past the end of the lower bytes.
  · simp [hi, show 24 + i < 32 by omega, show 8 ≤ 24 + i by omega, show 8 ≤ 24 + i - 8 by omega,
      show 8 ≤ 24 + i - 16 by omega]
  · simp [hi, show i < 32 by omega, show 16 + i < 32 by omega, show 16 + i < 24 by omega,
      show 8 ≤ 16 + i by omega, show 8 ≤ 16 + i - 8 by omega]
  · simp [hi, show i < 32 by omega, show 8 + i < 32 by omega, show 8 + i < 24 by omega,
      show 8 + i < 16 by omega]
  · simp [hi]

/-! ## Fields

`Layout.Describes` is about one reader: on payloads of the right size it fails exactly
for a code without meaning. -/

def Layout.Describes {α : Type} (layout : Layout) (read : List UInt8 → Option α) : Prop :=
  ∀ bytes, layout.size = some bytes.length → ((read bytes).isSome ↔ layout.Admits bytes)

theorem Layout.Describes.map {α β : Type} {layout : Layout} {read : List UInt8 → Option α}
    (h : layout.Describes read) (f : α → β) :
    layout.Describes fun bytes => (read bytes).map f := by
  intro bytes size
  rw [Option.isSome_map]
  exact h bytes size

@[simp] theorem Layout.admits_fixed_nil (size : Nat) (bytes : List UInt8) :
    (fixed size []).Admits bytes ↔ True := by
  simp [Admits, fixed]

/-- A place for a code fits if its byte is there and is read. -/
theorem Coded.admits_cons {α : Type} {ofByte? : UInt8 → Option α} {toByte : α → UInt8}
    {codes : List UInt8} (coded : Coded ofByte? toByte codes) (size place : Nat)
    (others : List (Nat × List UInt8)) (bytes : List UInt8) :
    (Layout.fixed size ((place, codes) :: others)).Admits bytes ↔
      (bytes[place]?.bind ofByte?).isSome ∧ (Layout.fixed size others).Admits bytes := by
  have hplace : (∃ code ∈ codes, bytes[place]? = some code) ↔
      (bytes[place]?.bind ofByte?).isSome := by
    cases bytes[place]? with
    | none => simp
    | some byte => simp [coded.isSome]
  rw [← hplace]
  exact List.forall_mem_cons

/-- A reader that goes on to the next field reads if both fields do. -/
theorem isSome_bind_iff {α β : Type} {first : Option α} {next : α → Option β} {fits : Prop}
    (h : ∀ value, (next value).isSome ↔ fits) :
    (first.bind next).isSome ↔ first.isSome ∧ fits := by
  cases first with
  | none => simp
  | some value => simpa using h value

/-- A payload that is one code. -/
theorem Coded.describes {α : Type} {ofByte? : UInt8 → Option α} {toByte : α → UInt8}
    {codes : List UInt8} (coded : Coded ofByte? toByte codes) :
    (Layout.fixed 1 [(0, codes)]).Describes (readCode ofByte?) := by
  intro bytes size
  rw [coded.admits_cons, Layout.admits_fixed_nil, and_true]
  match bytes, size with
  | [byte], _ => rfl

theorem Coded.bytes_of_readCode {α : Type} {ofByte? : UInt8 → Option α} {toByte : α → UInt8}
    {codes : List UInt8} (coded : Coded ofByte? toByte codes) {bytes : List UInt8} {value : α}
    (h : readCode ofByte? bytes = some value) : [toByte value] = bytes := by
  unfold readCode at h
  split at h
  next byte => rw [coded.toByte byte value h]
  next => cases h

/-- A payload without fields. -/
theorem readBare_described {α : Type} (message : α) :
    (Layout.fixed 0 []).Describes (readBare message) := by
  intro bytes size
  match bytes, size with
  | [], _ => simp [readBare]

theorem eq_of_readBare {α : Type} {message read : α} {bytes : List UInt8}
    (h : readBare message bytes = some read) : bytes = [] ∧ read = message := by
  cases bytes with
  | nil => exact ⟨rfl, (Option.some.inj h).symm⟩
  | cons _ _ => cases h

theorem Reply.position_described : (Layout.fixed 8 []).Describes positionOfBytes? := by
  intro bytes size
  match bytes, size with
  | [_, _, _, _, _, _, _, _], _ => simp [positionOfBytes?]

theorem Reply.bytes_of_positionOfBytes? {bytes : List UInt8} {x y : Int32}
    (h : positionOfBytes? bytes = some (x, y)) :
    Word.bigEndian x.toUInt32 ++ Word.bigEndian y.toUInt32 = bytes := by
  unfold positionOfBytes? at h
  split at h
  next =>
    cases h
    simp [Word.bigEndian_ofBytes]
  next => cases h

theorem MoveRequest.described :
    (Layout.fixed 14 [(12, codesBelow 2), (13, codesBelow 2)]).Describes ofBytes? := by
  intro bytes size
  rw [AxisId.coded.admits_cons, Direction.coded.admits_cons, Layout.admits_fixed_nil]
  match bytes, size with
  | [_, _, _, _, _, _, _, _, _, _, _, _, _, _], _ =>
      exact isSome_bind_iff fun _ => isSome_bind_iff fun _ => iff_of_true rfl trivial

theorem MoveRequest.bytes_of_ofBytes? {bytes : List UInt8} {request : MoveRequest}
    (h : ofBytes? bytes = some request) : request.bytes = bytes := by
  unfold ofBytes? at h
  split at h
  next axisByte directionByte =>
    simp only [Option.bind_eq_bind, Option.bind_eq_some_iff, Option.pure_def, Option.some.injEq]
      at h
    obtain ⟨axis, haxis, direction, hdirection, rfl⟩ := h
    simp [MoveRequest.bytes, Word.bigEndian_ofBytes, AxisId.coded.toByte _ _ haxis,
      Direction.coded.toByte _ _ hdirection]
  next => cases h

theorem Command.calibration_described :
    (Layout.fixed 5 [(0, keyCodes)]).Describes calibrationOfBytes? := by
  intro bytes size
  rw [ParameterKey.coded.admits_cons, Layout.admits_fixed_nil]
  match bytes, size with
  | [_, _, _, _, _], _ => exact isSome_bind_iff fun _ => iff_of_true rfl trivial

theorem Command.of_calibrationOfBytes? {bytes : List UInt8} {key : ParameterKey}
    {value : Single} (h : calibrationOfBytes? bytes = some (key, value)) :
    key.toByte :: Word.bigEndian value.bits = bytes ∧ key.Exists := by
  unfold calibrationOfBytes? at h
  split at h
  next byte _ _ _ _ =>
    simp only [Option.bind_eq_bind, Option.bind_eq_some_iff, Option.pure_def, Option.some.injEq,
      Prod.mk.injEq] at h
    obtain ⟨_, hkey, rfl, rfl⟩ := h
    rw [ParameterKey.coded.toByte byte _ hkey, Word.bigEndian_ofBytes]
    exact ⟨rfl, (ParameterKey.of_ofByte? byte _ hkey).2⟩
  next => cases h

/-- The bytes of a report with every set flag as `1`. -/
def AxisReport.normalised (bytes : List UInt8) : List UInt8 :=
  bytes.mapIdx fun place byte =>
    if 1 ≤ place ∧ place ≤ 3 then (decide (byte ≠ 0)).toUInt8 else byte

theorem AxisReport.described :
    (Layout.fixed 18 [(0, codesBelow 2), (4, codesBelow 2), (5, codesBelow 3)]).Describes
      ofBytes? := by
  intro bytes size
  rw [AxisId.coded.admits_cons, Direction.coded.admits_cons, Segment.coded.admits_cons,
    Layout.admits_fixed_nil]
  match bytes, size with
  | [_, _, _, _, _, _, _, _, _, _, _, _, _, _, _, _, _, _], _ =>
      exact isSome_bind_iff fun _ => isSome_bind_iff fun _ => isSome_bind_iff fun _ =>
        iff_of_true rfl trivial

theorem AxisReport.bytes_of_ofBytes? {bytes : List UInt8} {report : AxisReport}
    (h : ofBytes? bytes = some report) : report.bytes = normalised bytes := by
  unfold ofBytes? at h
  split at h
  next =>
    simp only [Option.bind_eq_bind, Option.bind_eq_some_iff, Option.pure_def, Option.some.injEq]
      at h
    obtain ⟨axis, haxis, direction, hdirection, segment, hsegment, rfl⟩ := h
    simp [AxisReport.bytes, normalised, Word.bigEndian_ofBytes, AxisId.coded.toByte _ _ haxis,
      Direction.coded.toByte _ _ hdirection, Segment.coded.toByte _ _ hsegment]
  next => cases h

theorem Temperatures.described : (Layout.fixed 20 []).Describes ofBytes? := by
  intro bytes size
  match bytes, size with
  | [_, _, _, _, _, _, _, _, _, _, _, _, _, _, _, _, _, _, _, _], _ => simp [ofBytes?]

theorem Temperatures.bytes_of_ofBytes? {read : List UInt8} {values : Temperatures}
    (h : ofBytes? read = some values) : bytes values = read := by
  unfold ofBytes? at h
  split at h
  next =>
    obtain rfl := Option.some.inj h
    simp [bytes, Word.bigEndian_ofBytes]
  next => cases h

/-! ## Frames -/

/-- The frame as the device spells it: only the flags of an axis state change. -/
def Frame.normalised (frame : Frame) : Frame :=
  if frame.id = MessageId.axisState then
    ⟨frame.id, AxisReport.normalised frame.payload.bytes, by
      simpa [AxisReport.normalised] using frame.payload.size_le⟩
  else frame

theorem Frame.eq_of_bytes {frame other : Frame} (id : frame.id = other.id)
    (bytes : frame.payload.bytes = other.payload.bytes) : frame = other := by
  obtain ⟨frameId, frameBytes, frameSize⟩ := frame
  obtain ⟨otherId, otherBytes, otherSize⟩ := other
  cases id
  cases bytes
  rfl

theorem Frame.normalised_of_ne {frame : Frame} (h : frame.id ≠ MessageId.axisState) :
    frame.normalised = frame :=
  if_neg h

theorem Frame.new_bytes (id : UInt8) (payload : Payload) :
    Frame.new id payload.bytes = .ok ⟨id, payload⟩ := by
  simp [Frame.new, Payload.ofBytes?, payload.size_le]

theorem Frame.of_fields {α : Type} {frame : Frame} {expected : Nat}
    {read : List UInt8 → Option α} {value : α} (h : frame.fields expected read = .ok value) :
    read frame.payload.bytes = some value := by
  unfold fields at h
  split at h
  next => cases h
  next =>
    split at h
    next read hread => rw [hread, Except.ok.inj h]
    next => cases h

theorem Frame.fields_eq_error {α : Type} {catalogue : Catalogue} {frame : Frame} {size : Nat}
    {codes : List (Nat × List UInt8)} {read : List UInt8 → Option α}
    (listed : catalogue.lookup frame.id = some (.fixed size codes))
    (described : (Layout.fixed size codes).Describes read) (error : MessageError) :
    frame.fields size read = .error error ↔ catalogue.Refuses frame error := by
  have hlayout {layout : Layout} (h : catalogue.lookup frame.id = some layout) :
      layout = .fixed size codes :=
    Option.some.inj (h.symm.trans listed)
  unfold fields
  by_cases hsize : frame.payload.size = size
  · have hreads : (read frame.payload.bytes).isSome ↔
        (Layout.fixed size codes).Admits frame.payload.bytes :=
      described frame.payload.bytes (congrArg some hsize.symm)
    rw [if_neg (not_not_intro hsize)]
    constructor
    · intro h
      cases hread : read frame.payload.bytes with
      | some value => simp [hread] at h
      | none =>
          simp only [hread, Except.error.injEq] at h
          rw [← h]
          refine .badField listed ?_ (fun hadmits => ?_)
          · rintro expected ⟨⟩
            exact hsize
          · simpa [hread] using hreads.mpr hadmits
    · intro h
      cases h with
      | unknownId absent => simp [listed] at absent
      | wrongSize found size differs =>
          rw [hlayout found] at size
          exact absurd (hsize.trans (Option.some.inj size)) differs
      | badField found size unfit =>
          rw [hlayout found, ← hreads, Option.not_isSome_iff_eq_none] at unfit
          rw [unfit]
  · rw [if_pos hsize]
    constructor
    · intro h
      rw [← Except.error.inj h]
      exact .wrongSize listed rfl hsize
    · intro h
      cases h with
      | unknownId absent => simp [listed] at absent
      | wrongSize found size differs =>
          rw [hlayout found] at size
          rw [← Option.some.inj size]
      | badField found size unfit =>
          rw [hlayout found] at size
          exact absurd (size _ rfl) hsize

/-- A frame without fields is told by its identifier. -/
theorem Frame.eq_of_bare {α : Type} {frame : Frame} {message read : α} {id : UInt8}
    (hid : frame.id = id) (h : frame.fields 0 (readBare message) = .ok read) :
    read = message ∧ (⟨id, .empty⟩ : Frame) = frame := by
  obtain ⟨hbytes, hread⟩ := eq_of_readBare (Frame.of_fields h)
  exact ⟨hread, Frame.eq_of_bytes hid.symm hbytes.symm⟩

/-- What has no fixed layout is never refused. -/
theorem Catalogue.not_refuses_free {catalogue : Catalogue} {frame : Frame}
    (listed : catalogue.lookup frame.id = some .free) (error : MessageError) :
    ¬catalogue.Refuses frame error := by
  intro h
  cases h with
  | unknownId absent => simp [listed] at absent
  | wrongSize found size differs =>
      rw [← Option.some.inj (listed.symm.trans found)] at size
      cases size
  | badField found size unfit =>
      rw [← Option.some.inj (listed.symm.trans found)] at unfit
      exact unfit fun place hplace => nomatch hplace

theorem Catalogue.refuses_unlisted {catalogue : Catalogue} {frame : Frame}
    (absent : catalogue.lookup frame.id = none) (error : MessageError) :
    catalogue.Refuses frame error ↔ error = .unknownId frame.id := by
  constructor
  · intro h
    cases h with
    | unknownId absent => rfl
    | wrongSize found size differs => simp [absent] at found
    | badField found size unfit => simp [absent] at found
  · rintro rfl
    exact .unknownId absent

/-! ## Messages -/

/-- A frame that is a command is the frame of that command. -/
theorem Command.toFrame_ofFrame {frame : Frame} {command : Command}
    (h : ofFrame frame = .ok command) : command.toFrame = frame ∧ command.Sendable := by
  unfold ofFrame at h
  split at h
  next id =>
    obtain rfl := Except.ok.inj h
    exact ⟨Frame.eq_of_bytes id.symm rfl, trivial⟩
  next id =>
    obtain ⟨rfl, hframe⟩ := Frame.eq_of_bare id h
    exact ⟨hframe, trivial⟩
  next id =>
    obtain ⟨rfl, hframe⟩ := Frame.eq_of_bare id h
    exact ⟨hframe, trivial⟩
  next id =>
    obtain ⟨request, hread, rfl⟩ := Option.map_eq_some_iff.mp (Frame.of_fields h)
    exact ⟨Frame.eq_of_bytes id.symm (MoveRequest.bytes_of_ofBytes? hread), trivial⟩
  next id =>
    obtain ⟨rfl, hframe⟩ := Frame.eq_of_bare id h
    exact ⟨hframe, trivial⟩
  next id =>
    obtain ⟨rfl, hframe⟩ := Frame.eq_of_bare id h
    exact ⟨hframe, trivial⟩
  next id =>
    obtain ⟨axis, hread, rfl⟩ := Option.map_eq_some_iff.mp (Frame.of_fields h)
    exact ⟨Frame.eq_of_bytes id.symm (AxisId.coded.bytes_of_readCode hread), trivial⟩
  next id =>
    obtain ⟨rfl, hframe⟩ := Frame.eq_of_bare id h
    exact ⟨hframe, trivial⟩
  next id =>
    obtain ⟨⟨key, value⟩, hread, rfl⟩ := Option.map_eq_some_iff.mp (Frame.of_fields h)
    obtain ⟨hbytes, hkey⟩ := of_calibrationOfBytes? hread
    exact ⟨Frame.eq_of_bytes id.symm hbytes, hkey⟩
  next => cases h

/-- A frame is refused as a command by the catalogue. -/
theorem Command.ofFrame_eq_error (frame : Frame) (error : MessageError) :
    ofFrame frame = .error error ↔ catalogue.Refuses frame error := by
  unfold ofFrame
  split
  next id => simp [Catalogue.not_refuses_free (show catalogue.lookup frame.id = _ by rw [id]; rfl)]
  next id => exact Frame.fields_eq_error (by rw [id]; rfl) (readBare_described _) error
  next id => exact Frame.fields_eq_error (by rw [id]; rfl) (readBare_described _) error
  next id => exact Frame.fields_eq_error (by rw [id]; rfl) (MoveRequest.described.map _) error
  next id => exact Frame.fields_eq_error (by rw [id]; rfl) (readBare_described _) error
  next id => exact Frame.fields_eq_error (by rw [id]; rfl) (readBare_described _) error
  next id =>
    exact Frame.fields_eq_error (by rw [id]; rfl) (AxisId.coded.describes.map _) error
  next id => exact Frame.fields_eq_error (by rw [id]; rfl) (readBare_described _) error
  next id => exact Frame.fields_eq_error (by rw [id]; rfl) (calibration_described.map _) error
  next ping status home move stop position axis temperature calibrate =>
    have habsent : catalogue.lookup frame.id = none := by
      rw [List.lookup_eq_none_iff]
      simp only [catalogue, List.mem_cons, List.not_mem_nil, or_false, forall_eq_or_imp, forall_eq,
        bne_iff_ne]
      exact ⟨ping, status, home, move, stop, position, axis, temperature, calibrate⟩
    rw [Catalogue.refuses_unlisted habsent]
    simp [eq_comm]

/-- A frame that is a reply is the frame of that reply, up to the spelling of its
flags. -/
theorem Reply.toFrame_ofFrame {frame : Frame} {reply : Reply} (h : ofFrame frame = .ok reply) :
    reply.toFrame = frame.normalised := by
  have hother (id : UInt8) (hid : frame.id = id) (hne : id ≠ MessageId.axisState) :
      frame.normalised = frame :=
    Frame.normalised_of_ne (hid ▸ hne)
  unfold ofFrame at h
  split at h
  next id =>
    obtain ⟨rfl, hframe⟩ := Frame.eq_of_bare id h
    rw [hother _ id (by decide)]
    exact hframe
  next id =>
    obtain ⟨rfl, hframe⟩ := Frame.eq_of_bare id h
    rw [hother _ id (by decide)]
    exact hframe
  next id =>
    obtain rfl := Except.ok.inj h
    rw [hother _ id (by decide)]
    exact Frame.eq_of_bytes id.symm rfl
  next id =>
    obtain ⟨code, hread, rfl⟩ := Option.map_eq_some_iff.mp (Frame.of_fields h)
    rw [hother _ id (by decide)]
    exact Frame.eq_of_bytes id.symm (StatusCode.coded.bytes_of_readCode hread)
  next id =>
    obtain ⟨⟨x, y⟩, hread, rfl⟩ := Option.map_eq_some_iff.mp (Frame.of_fields h)
    rw [hother _ id (by decide)]
    exact Frame.eq_of_bytes id.symm (bytes_of_positionOfBytes? hread)
  next id =>
    obtain ⟨report, hread, rfl⟩ := Option.map_eq_some_iff.mp (Frame.of_fields h)
    rw [Frame.normalised, if_pos (show frame.id = MessageId.axisState from id)]
    exact Frame.eq_of_bytes id.symm (AxisReport.bytes_of_ofBytes? hread)
  next id =>
    obtain ⟨values, hread, rfl⟩ := Option.map_eq_some_iff.mp (Frame.of_fields h)
    rw [hother _ id (by decide)]
    exact Frame.eq_of_bytes id.symm (Temperatures.bytes_of_ofBytes? hread)
  next id =>
    obtain ⟨code, hread, rfl⟩ := Option.map_eq_some_iff.mp (Frame.of_fields h)
    rw [hother _ id (by decide)]
    exact Frame.eq_of_bytes id.symm (ResultCode.coded.bytes_of_readCode hread)
  next => cases h

/-- A frame is refused as a reply by the catalogue. -/
theorem Reply.ofFrame_eq_error (frame : Frame) (error : MessageError) :
    ofFrame frame = .error error ↔ catalogue.Refuses frame error := by
  unfold ofFrame
  split
  next id => exact Frame.fields_eq_error (by rw [id]; rfl) (readBare_described _) error
  next id => exact Frame.fields_eq_error (by rw [id]; rfl) (readBare_described _) error
  next id => simp [Catalogue.not_refuses_free (show catalogue.lookup frame.id = _ by rw [id]; rfl)]
  next id =>
    exact Frame.fields_eq_error (by rw [id]; rfl) (StatusCode.coded.describes.map _) error
  next id => exact Frame.fields_eq_error (by rw [id]; rfl) (position_described.map _) error
  next id => exact Frame.fields_eq_error (by rw [id]; rfl) (AxisReport.described.map _) error
  next id => exact Frame.fields_eq_error (by rw [id]; rfl) (Temperatures.described.map _) error
  next id =>
    exact Frame.fields_eq_error (by rw [id]; rfl) (ResultCode.coded.describes.map _) error
  next ack nack log status position axis temperature result =>
    have habsent : catalogue.lookup frame.id = none := by
      rw [List.lookup_eq_none_iff]
      simp only [catalogue, List.mem_cons, List.not_mem_nil, or_false, forall_eq_or_imp, forall_eq,
        bne_iff_ne]
      exact ⟨ack, nack, log, status, position, axis, temperature, result⟩
    rw [Catalogue.refuses_unlisted habsent]
    simp [eq_comm]

/-- **Messages and frames.** Every command that the device can tell from the others and
every reply becomes a frame and is read back from it. A frame that is read is the frame
of what was read, up to the spelling of the flags in an axis state; and a frame is
refused for exactly the first rule of the catalogue that it breaks. -/
theorem messages_match_catalogues :
    (∀ command : Command, command.Sendable →
        Frame.new command.id command.payload.bytes = .ok command.toFrame ∧
          Command.ofFrame command.toFrame = .ok command) ∧
      (∀ reply : Reply,
        Frame.new reply.id reply.payload.bytes = .ok reply.toFrame ∧
          Reply.ofFrame reply.toFrame = .ok reply) ∧
      ∀ frame : Frame,
        (∀ command, Command.ofFrame frame = .ok command →
          command.toFrame = frame ∧ command.Sendable) ∧
        (∀ reply, Reply.ofFrame frame = .ok reply → reply.toFrame = frame.normalised) ∧
        ∀ error,
          (Command.ofFrame frame = .error error ↔ Command.catalogue.Refuses frame error) ∧
            (Reply.ofFrame frame = .error error ↔ Reply.catalogue.Refuses frame error) :=
  ⟨fun command h => ⟨Frame.new_bytes command.id command.payload, Command.ofFrame_toFrame h⟩,
    fun reply => ⟨Frame.new_bytes reply.id reply.payload, Reply.ofFrame_toFrame reply⟩,
    fun frame => ⟨fun _ => Command.toFrame_ofFrame, fun _ => Reply.toFrame_ofFrame,
      fun error => ⟨Command.ofFrame_eq_error frame error, Reply.ofFrame_eq_error frame error⟩⟩⟩

/-- An axis state whose flag for motion is spelled `7`. -/
def looseReport : Frame :=
  ⟨0x85, [1, 7, 0, 0, 0, 2, 0, 0, 0, 9, 0, 0, 0, 0, 0xff, 0xff, 0xff, 0xff], by decide⟩

/-- What it says. -/
def looseReply : Reply :=
  .axisState ⟨.y, true, false, false, .positive, .decelerate, 9, 0, -1⟩

/-- A key of the last thermistor with a NaN comes back, the loose flag comes back as `1`,
and a move in a third direction is refused. -/
theorem looseReport_read :
    (Command.calibrate (.thermistor 4 .c) ⟨0x7fc00001⟩).Sendable ∧
      Command.ofFrame (Command.calibrate (.thermistor 4 .c) ⟨0x7fc00001⟩).toFrame =
        .ok (.calibrate (.thermistor 4 .c) ⟨0x7fc00001⟩) ∧
      Reply.ofFrame looseReport = .ok looseReply ∧
      looseReply.toFrame = looseReport.normalised ∧ looseReport.normalised ≠ looseReport ∧
      Command.catalogue.Refuses
        ⟨0x04, [0, 0, 0, 0, 0, 0, 0, 9, 0, 0, 0, 5, 0, 2], by decide⟩ (.badField 0x04) := by
  obtain ⟨commands, -, frames⟩ := messages_match_catalogues
  have hsendable : (Command.calibrate (.thermistor 4 .c) ⟨0x7fc00001⟩).Sendable := by decide
  have hread : Reply.ofFrame looseReport = .ok looseReply := by decide +kernel
  exact ⟨hsendable, (commands _ hsendable).2, hread, (frames looseReport).2.1 looseReply hread,
    by decide +kernel, ((frames _).2.2 _).1.mp (by decide +kernel)⟩

end XYStage
