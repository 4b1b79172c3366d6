/-
# XYStage.Proofs.Link.Reception -- frames from a line that delivers in pieces

A `ReceivingLine` can tell which bytes it has received and not yet given out: a
read takes the first of them or fails and takes none. `Reception l stream frames`
says that a fresh line of frames came to `l` by checks, between which the bytes of
`stream` arrived in pieces, and that the checks gave `frames`; the line may change
in any other way between checks, so failures of its reads come and go.

Main statement: whatever the pieces, the checks give the frames that the stream
holds under the framing rule, in order (`received_frames_follow_framing`).
-/
import XYStage.Bench.Script
import XYStage.Link.FrameLine
import XYStage.Proofs.Wire.Framing

namespace XYStage

set_option autoImplicit false

/-- A line that can tell what it has received. -/
class ReceivingLine (δ : Type) (ε : outParam Type) [SerialLine δ ε] where
  /-- The bytes received and not yet taken, the oldest first. -/
  unread : δ → List UInt8
  waiting_eq_zero : ∀ d, (SerialLine.waiting d).1 = 0 ↔ unread d = []
  unread_waiting : ∀ d, unread (SerialLine.waiting d).2 = unread d
  /-- A byte that is taken was the oldest. -/
  unread_takeByte : ∀ d byte, (SerialLine.takeByte d).1 = .ok byte →
    unread d = byte :: unread (SerialLine.takeByte d).2
  /-- A read that fails takes nothing. -/
  unread_takeByte_error : ∀ d e, (SerialLine.takeByte d).1 = .error e →
    unread (SerialLine.takeByte d).2 = unread d

open ReceivingLine (unread)

/-- What has arrived is not to come any more. -/
theorem Script.arrived_arrived (clock : UInt32) (arrivals : List (UInt32 × List UInt8)) :
    (arrived clock (arrived clock arrivals).2).1 = [] := by
  induction arrivals with
  | nil => rfl
  | cons arrival rest ih =>
      by_cases h : arrival.1 ≤ clock <;> simp [arrived, h, ih]

/-- Bytes of a script that are there at its present clock count as received. -/
instance : ReceivingLine Script ScriptError where
  unread s := s.received ++ (Script.arrived s.clock s.arrivals).1
  waiting_eq_zero s := List.length_eq_zero_iff
  unread_waiting s := by
    simp only [SerialLine.waiting, Script.waiting, Script.arrived_arrived, List.append_nil]
  unread_takeByte s byte h := by
    simp only [SerialLine.takeByte, Script.takeByte] at h ⊢
    split at h
    · cases h
    · next hfail =>
      rw [if_neg hfail]
      split at h
      · cases h
      · next first rest hreceived =>
        cases h
        simp only [hreceived, List.cons_append]
  unread_takeByte_error s e h := by
    simp only [SerialLine.takeByte, Script.takeByte] at h ⊢
    split
    · rfl
    · next hfail =>
      rw [if_neg hfail] at h
      split at h
      · rfl
      · cases h

/-! ## One check -/

namespace FrameLine

variable {δ ε : Type}

/-- The frame in an answer, if there is one. -/
def returned : Except (FrameLineError ε) (Option Frame) → List Frame
  | .ok (some frame) => [frame]
  | _ => []

@[simp] theorem returned_some (frame : Frame) :
    returned (.ok (some frame) : Except (FrameLineError ε) (Option Frame)) = [frame] := rfl

@[simp] theorem returned_none :
    returned (.ok none : Except (FrameLineError ε) (Option Frame)) = [] := rfl

variable [SerialLine δ ε] [ReceivingLine δ ε]

/-- What a check does that takes the bytes `taken`, with `broken` frames among
them dropped. -/
structure Checked (l : FrameLine δ) (answer : Except (FrameLineError ε) (Option Frame))
    (l' : FrameLine δ) (taken : List UInt8) (broken : Nat) : Prop where
  unread_eq : unread l.line = taken ++ unread l'.line
  digest_eq : l.parser.digest taken = (⟨returned answer, broken⟩, l'.parser)
  dropped_eq : l'.dropped = l.dropped + UInt32.ofNat broken
  /-- Without a frame, everything has been taken. -/
  drained : answer = .ok none → unread l'.line = []
  /-- With a frame, the last byte taken is its end delimiter. -/
  stopped : ∀ frame, answer = .ok (some frame) →
    ∃ before, taken = before ++ [Frame.endByte] ∧ (l.parser.digest before).1.frames = []
  failed : ∀ error, answer = .error error → ∃ cause, error = .line cause

/-- A byte that completes no frame, and then what a check does. -/
theorem Checked.cons {l l₁ l' : FrameLine δ}
    {answer : Except (FrameLineError ε) (Option Frame)} {taken : List UInt8} {broken more : Nat}
    {byte : UInt8} (h : Checked l₁ answer l' taken broken)
    (hunread : unread l.line = byte :: unread l₁.line)
    (hfeed : l.parser.digest [byte] = (⟨[], more⟩, l₁.parser))
    (hdropped : l₁.dropped = l.dropped + UInt32.ofNat more) :
    Checked l answer l' (byte :: taken) (more + broken) where
  unread_eq := by
    rw [hunread, h.unread_eq, List.cons_append]
  digest_eq := by
    rw [← List.singleton_append, Parser.digest_append, hfeed, h.digest_eq]
    rfl
  dropped_eq := by
    rw [h.dropped_eq, hdropped, UInt32.add_assoc, ← UInt32.ofNat_add]
  drained := h.drained
  stopped := by
    intro frame hanswer
    obtain ⟨before, htaken, hquiet⟩ := h.stopped frame hanswer
    refine ⟨byte :: before, by rw [htaken, List.cons_append], ?_⟩
    rw [← List.singleton_append, Parser.digest_append, hfeed]
    exact hquiet
  failed := h.failed

/-- A frame is completed only by its end delimiter. -/
theorem eq_endByte_of_complete {parser parser' : Parser} {byte : UInt8} {frame : Frame}
    (h : parser.feed byte = (.complete frame, parser')) : byte = Frame.endByte := by
  cases parser with
  | closing id payload =>
      simp only [Parser.feed] at h
      split at h
      · assumption
      · cases h
  | _ => simp [Parser.feed] at h

/-- Nothing is waiting. -/
theorem checked_dry {l : FrameLine δ} {line : δ} (hempty : unread l.line = [])
    (hsame : unread line = unread l.line) :
    Checked l (.ok none) { l with line } [] 0 where
  unread_eq := by rw [hsame, List.nil_append]
  digest_eq := rfl
  dropped_eq := by simp
  drained _ := by rw [hsame, hempty]
  stopped _ hanswer := by cases hanswer
  failed _ hanswer := by cases hanswer

/-- A read fails. -/
theorem checked_failed {l : FrameLine δ} {line : δ} (e : ε)
    (hsame : unread line = unread l.line) :
    Checked l (.error (.line e)) { l with line } [] 0 where
  unread_eq := by rw [hsame, List.nil_append]
  digest_eq := rfl
  dropped_eq := by simp
  drained hanswer := by cases hanswer
  stopped _ hanswer := by cases hanswer
  failed _ hanswer := by
    cases hanswer
    exact ⟨e, rfl⟩

/-- A byte completes a frame. -/
theorem checked_complete {l : FrameLine δ} {line : δ} {parser : Parser} {byte : UInt8}
    {frame : Frame} (hunread : unread l.line = byte :: unread line)
    (hfeed : l.parser.feed byte = (.complete frame, parser)) :
    Checked l (.ok (some frame)) { l with line, parser } [byte] 0 where
  unread_eq := hunread
  digest_eq := Parser.digest_singleton hfeed
  dropped_eq := by simp
  drained hanswer := by cases hanswer
  stopped _ _ := ⟨[], by rw [eq_endByte_of_complete hfeed, List.nil_append], rfl⟩
  failed _ hanswer := by cases hanswer

theorem take_checked [LawfulSerialLine δ] {budget : Nat} {l : FrameLine δ}
    (hbudget : SerialLine.backlog l.line < budget) :
    ∃ taken broken, Checked l (l.take budget).1 (l.take budget).2 taken broken := by
  induction budget generalizing l with
  | zero => omega
  | succ budget ih =>
      have hwaiting := ReceivingLine.unread_waiting l.line
      by_cases hdry : (SerialLine.waiting l.line).1 = 0
      · have hempty := (ReceivingLine.waiting_eq_zero l.line).mp hdry
        refine ⟨[], 0, ?_⟩
        simp only [take, hdry, if_true]
        exact checked_dry hempty hwaiting
      · cases hread : SerialLine.takeByte (SerialLine.waiting l.line).2 with
        | mk answer line =>
          cases answer with
          | error e =>
              have hsame := ReceivingLine.unread_takeByte_error _ e (by rw [hread])
              rw [hread, hwaiting] at hsame
              refine ⟨[], 0, ?_⟩
              simp only [take, hdry, if_false, hread]
              exact checked_failed e hsame
          | ok byte =>
              have hoff := ReceivingLine.unread_takeByte _ byte (by rw [hread])
              rw [hread, hwaiting] at hoff
              -- The backlog falls with every byte, so the budget outlasts it.
              have hlt := LawfulSerialLine.backlog_lt l.line byte hdry (by rw [hread])
              rw [hread] at hlt
              have hnext : SerialLine.backlog line < budget := Nat.lt_of_lt_of_le hlt
                (Nat.le_of_lt_succ hbudget)
              cases hfeed : l.parser.feed byte with
              | mk outcome parser =>
                cases outcome with
                | complete frame =>
                    refine ⟨[byte], 0, ?_⟩
                    simp only [take, hdry, if_false, hread, hfeed]
                    exact checked_complete hoff hfeed
                | pending =>
                    obtain ⟨taken, broken, h⟩ := ih (l := { l with line, parser }) hnext
                    refine ⟨byte :: taken, 0 + broken, ?_⟩
                    simp only [take, hdry, if_false, hread, hfeed]
                    exact h.cons hoff (Parser.digest_singleton hfeed) (by simp)
                | broken =>
                    obtain ⟨taken, broken, h⟩ :=
                      ih (l := ⟨line, parser, l.dropped + 1⟩) hnext
                    refine ⟨byte :: taken, 1 + broken, ?_⟩
                    simp only [take, hdry, if_false, hread, hfeed]
                    exact h.cons hoff (Parser.digest_singleton hfeed) rfl

theorem check_checked [LawfulSerialLine δ] (l : FrameLine δ) :
    ∃ taken broken, Checked l l.check.1 l.check.2 taken broken :=
  take_checked (Nat.lt_succ_self _)

/-- So many checks, one after another: their answers, and the line after the
last. -/
def checks : Nat → FrameLine δ → List (Except (FrameLineError ε) (Option Frame)) × FrameLine δ
  | 0, l => ([], l)
  | count + 1, l =>
      let (answer, l) := l.check
      let (later, l) := checks count l
      (answer :: later, l)

end FrameLine

/-! ## Checks between arrivals -/

variable {δ ε : Type} [SerialLine δ ε] [ReceivingLine δ ε]

/-- A line of frames that was new, what its line has received since, and the frames
that its checks have given. -/
inductive Reception : FrameLine δ → List UInt8 → List Frame → Prop where
  | fresh (d : δ) : Reception (.new d) (unread d) []
  /-- More bytes arrive; nothing else is known of the line after it. -/
  | arrive {l : FrameLine δ} {stream : List UInt8} {frames : List Frame}
      (before : Reception l stream frames) (d : δ) (chunk : List UInt8)
      (hd : unread d = unread l.line ++ chunk) :
      Reception { l with line := d } (stream ++ chunk) frames
  | check {l : FrameLine δ} {stream : List UInt8} {frames : List Frame}
      (before : Reception l stream frames) :
      Reception l.check.2 stream (frames ++ FrameLine.returned l.check.1)

namespace Reception

variable {l : FrameLine δ} {stream : List UInt8} {frames : List Frame}

/-- What has been taken of the stream, with `broken` frames dropped from it. -/
structure Taken (l : FrameLine δ) (stream : List UInt8) (frames : List Frame)
    (taken : List UInt8) (broken : Nat) : Prop where
  stream_eq : stream = taken ++ unread l.line
  digest_eq : Parser.digest taken .outside = (⟨frames, broken⟩, l.parser)
  dropped_eq : l.dropped = UInt32.ofNat broken

theorem taken_fresh (d : δ) : Taken (.new d) (unread d) [] [] 0 :=
  ⟨rfl, rfl, rfl⟩

theorem Taken.arrive {taken : List UInt8} {broken : Nat}
    (h : Taken l stream frames taken broken) {d : δ} {chunk : List UInt8}
    (hd : unread d = unread l.line ++ chunk) :
    Taken { l with line := d } (stream ++ chunk) frames taken broken where
  stream_eq := by rw [h.stream_eq, hd, List.append_assoc]
  digest_eq := h.digest_eq
  dropped_eq := h.dropped_eq

theorem Taken.check {taken more : List UInt8} {broken fewer : Nat} {l' : FrameLine δ}
    {answer : Except (FrameLineError ε) (Option Frame)}
    (h : Taken l stream frames taken broken) (hcheck : FrameLine.Checked l answer l' more fewer) :
    Taken l' stream (frames ++ FrameLine.returned answer) (taken ++ more) (broken + fewer) where
  stream_eq := by rw [h.stream_eq, hcheck.unread_eq, List.append_assoc]
  digest_eq := by
    rw [Parser.digest_append, h.digest_eq, hcheck.digest_eq]
    rfl
  dropped_eq := by rw [hcheck.dropped_eq, h.dropped_eq, UInt32.ofNat_add]

theorem exists_taken [LawfulSerialLine δ] (h : Reception l stream frames) :
    ∃ taken broken, Taken l stream frames taken broken := by
  induction h with
  | fresh d => exact ⟨[], 0, taken_fresh d⟩
  | arrive _ d chunk hd ih =>
      obtain ⟨taken, broken, ht⟩ := ih
      exact ⟨taken, broken, ht.arrive hd⟩
  | @check l _ _ _ ih =>
      obtain ⟨taken, broken, ht⟩ := ih
      obtain ⟨more, fewer, hc⟩ := FrameLine.check_checked l
      exact ⟨taken ++ more, broken + fewer, ht.check hc⟩

theorem Taken.ofStream_eq {taken : List UInt8} {broken : Nat}
    (h : Taken l stream frames taken broken) : Reading.ofStream taken = ⟨frames, broken⟩ := by
  rw [← Parser.digest_outside, h.digest_eq]

/-- The frames so far are the first ones of the stream. -/
theorem Taken.isPrefix {taken : List UInt8} {broken : Nat}
    (h : Taken l stream frames taken broken) :
    (Reading.ofStream stream).frames =
      frames ++ (Parser.digest (unread l.line) l.parser).1.frames := by
  rw [← Parser.digest_outside, h.stream_eq, Parser.digest_append, h.digest_eq]
  rfl

/-- A check without a frame or a failure has found every frame of the stream. -/
theorem ofStream_of_drained [LawfulSerialLine δ] (h : Reception l stream frames)
    (hnone : l.check.1 = .ok none) :
    unread l.check.2.line = [] ∧ (Reading.ofStream stream).frames = frames ∧
      l.check.2.dropped = UInt32.ofNat (Reading.ofStream stream).dropped := by
  obtain ⟨taken, broken, ht⟩ := h.exists_taken
  obtain ⟨more, fewer, hc⟩ := FrameLine.check_checked l
  have hdry := hc.drained hnone
  have hafter := ht.check hc
  have hall : stream = taken ++ more := by
    rw [hafter.stream_eq, hdry, List.append_nil]
  have hreading := hafter.ofStream_eq
  rw [← hall, hnone] at hreading
  refine ⟨hdry, ?_, ?_⟩
  · rw [hreading, FrameLine.returned_none, List.append_nil]
  · rw [hreading, hafter.dropped_eq]

/-- Checks that do not fail give the next frames of the stream, as far as there
are more. -/
theorem checks_take [LawfulSerialLine δ] (h : Reception l stream frames) (count : Nat)
    (hok : ∀ answer ∈ (FrameLine.checks count l).1, ∀ error, answer ≠ .error error) :
    frames ++ (FrameLine.checks count l).1.flatMap FrameLine.returned =
      (Reading.ofStream stream).frames.take (frames.length + count) := by
  induction count generalizing l frames with
  | zero =>
      obtain ⟨taken, broken, ht⟩ := h.exists_taken
      rw [ht.isPrefix, Nat.add_zero, List.take_left]
      simp [FrameLine.checks]
  | succ count ih =>
      have hlater := ih h.check fun answer hmem => hok answer (by simp [FrameLine.checks, hmem])
      have hfirst := hok l.check.1 (by simp [FrameLine.checks])
      have hsplit : (FrameLine.checks (count + 1) l).1.flatMap FrameLine.returned =
          FrameLine.returned l.check.1 ++
            (FrameLine.checks count l.check.2).1.flatMap FrameLine.returned := by
        simp [FrameLine.checks]
      rw [hsplit, ← List.append_assoc, hlater]
      cases hanswer : l.check.1 with
      | error e => exact absurd hanswer (hfirst e)
      | ok found =>
          cases found with
          | none =>
              have hall := (h.ofStream_of_drained hanswer).2.1
              rw [hall, FrameLine.returned_none, List.append_nil, List.take_of_length_le (by omega),
                List.take_of_length_le (by omega)]
          | some frame =>
              rw [FrameLine.returned_some, List.length_append, List.length_singleton,
                Nat.add_assoc, Nat.add_comm 1 count]

/-- **Frames come out as the framing rule has them**, whatever the pieces in which
a stream arrives and whatever reads fail on the way. At every moment the frames
given are those of the bytes taken, and as many have been dropped, modulo
`2 ^ 32`; a check that gives a frame stops right behind its end delimiter; one that
gives none without failing has taken everything; so checks that do not fail give
the frames of the stream one by one. No payload byte is lost, and encoded frames
with other bytes between them come out as they are. -/
theorem received_frames_follow_framing [LawfulSerialLine δ] (h : Reception l stream frames) :
    (∃ taken, stream = taken ++ unread l.line ∧
      l.parser = (Parser.digest taken .outside).2 ∧
      (Reading.ofStream taken).frames = frames ∧
      l.dropped = UInt32.ofNat (Reading.ofStream taken).dropped ∧
      ∀ frame, l.check.1 = .ok (some frame) →
        ∃ before, unread l.line = before ++ Frame.endByte :: unread l.check.2.line ∧
          (Reading.ofStream (taken ++ before)).frames = frames ∧
          (Reading.ofStream (taken ++ before ++ [Frame.endByte])).frames = frames ++ [frame]) ∧
    (l.check.1 = .ok none → unread l.check.2.line = [] ∧
      (Reading.ofStream stream).frames = frames ∧
      l.check.2.dropped = UInt32.ofNat (Reading.ofStream stream).dropped) ∧
    (∀ error, l.check.1 = .error error → ∃ cause, error = .line cause) ∧
    (∀ count, (∀ answer ∈ (FrameLine.checks count l).1, ∀ error, answer ≠ .error error) →
      frames ++ (FrameLine.checks count l).1.flatMap FrameLine.returned =
        (Reading.ofStream stream).frames.take (frames.length + count)) ∧
    (∀ bytes id length payload, (Parser.digest bytes .outside).2 = .collecting id length payload →
      ∀ byte, (payload.push byte).bytes = payload.bytes ++ [byte]) ∧
    (∀ parts tail, (∀ part ∈ parts, Frame.startByte ∉ part.1) → Frame.startByte ∉ tail →
      stream = Reading.separated parts tail →
      Reading.ofStream stream = ⟨parts.map (·.2), 0⟩) := by
  obtain ⟨taken, broken, ht⟩ := h.exists_taken
  obtain ⟨more, fewer, hc⟩ := FrameLine.check_checked l
  have hreading := ht.ofStream_eq
  refine ⟨⟨taken, ht.stream_eq, by rw [ht.digest_eq], by rw [hreading], ?_, ?_⟩,
    h.ofStream_of_drained, hc.failed, h.checks_take, ?_, ?_⟩
  · rw [hreading, ht.dropped_eq]
  · intro frame hframe
    obtain ⟨before, hmore, hquiet⟩ := hc.stopped frame hframe
    refine ⟨before, ?_, ?_, ?_⟩
    · rw [hc.unread_eq, hmore, List.append_assoc, List.singleton_append]
    · rw [← Parser.digest_outside, Parser.digest_append, ht.digest_eq, Reading.frames_append,
        hquiet, List.append_nil]
    · rw [List.append_assoc, ← hmore, (ht.check hc).ofStream_eq, hframe, FrameLine.returned_some]
  · intro bytes id length payload hparser byte
    have hsound : (Parser.digest bytes .outside).2.Sound := Parser.sound_digest bytes trivial
    rw [hparser] at hsound
    exact Parser.push_bytes hsound byte
  · intro parts tail hgaps htail hstream
    rw [hstream, Reading.ofStream_separated hgaps htail]

/-- A line whose first read went well and whose second failed, before the rest of
its frame arrived. -/
def interrupted : FrameLine Script :=
  let failed := (FrameLine.new
    { Script.idle with received := [0x11, Frame.startByte], failRead := some 1 }).check.2
  { failed with line :=
      { failed.line with received := failed.line.received ++ [5, 0, 0, 0, Frame.endByte] } }

theorem reception_interrupted :
    Reception interrupted ([0x11, Frame.startByte] ++ [5, 0, 0, 0, Frame.endByte]) [] :=
  .arrive (.check (.fresh { Script.idle with
    received := [0x11, Frame.startByte], failRead := some 1 })) _ _ rfl

/-- The failure cost nothing: the frame is the one of the stream, and the next
check gives it. -/
theorem received_frames_after_failed_read :
    Reading.ofStream ([0x11, Frame.startByte] ++ [5, 0, 0, 0, Frame.endByte]) =
        ⟨[Frame.empty 5], 0⟩ ∧
      (FrameLine.checks 1 interrupted).1.flatMap FrameLine.returned = [Frame.empty 5] := by
  obtain ⟨-, -, -, hchecks, -, hparts⟩ := received_frames_follow_framing reception_interrupted
  have hstream := hparts [([0x11], Frame.empty 5)] [] (by decide) (by decide) (by decide)
  have hanswers : (FrameLine.checks 1 interrupted).1 = [.ok (some (Frame.empty 5))] := rfl
  have hnext := hchecks 1 (by simp [hanswers])
  rw [hstream] at hnext
  exact ⟨hstream, by simpa using hnext⟩

end Reception

end XYStage
