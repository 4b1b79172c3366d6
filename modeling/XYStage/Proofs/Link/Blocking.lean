/-
# XYStage.Proofs.Link.Blocking -- waiting for a frame that is already there

`Exchange.receive` waits where `Exchange.check` looks once, so on a line that holds
a complete frame the two should do the same. They part in one reading of the clock
that `receive` makes first. A `SerialLine.Delay` is what such a reading may do to a
line: whatever was waiting still waits and is read and written to as before; more
may have arrived.

Main statement: `receive` takes the same bytes off the line, gives the same frame
or failure and writes the same acknowledgement as `check`, except that it leaves a
posted frame pending which `check` has settled or failed
(`receive_agrees_unless_settling`). So the two agree unless a frame is posted and
the one received is an `ack` or a `nack`.
-/
import XYStage.Link.Exchange
import XYStage.Proofs.Link.Reception

namespace XYStage

set_option autoImplicit false

open ReceivingLine (unread)

/-! ## A line at a later moment -/

/-- A relation of lines to themselves at later moments. Only what is waiting by the
first of two moments has to be the same at the second. -/
structure SerialLine.Delay {δ ε : Type} [SerialLine δ ε] (later : δ → δ → Prop) : Prop where
  waiting_ne_zero : ∀ {d d'}, later d d' → (waiting d).1 ≠ 0 → (waiting d').1 ≠ 0
  takeByte_eq : ∀ {d d'}, later d d' → (waiting d).1 ≠ 0 →
    (takeByte (waiting d').2).1 = (takeByte (waiting d).2).1
  takeByte_later : ∀ {d d'}, later d d' → (waiting d).1 ≠ 0 →
    later (takeByte (waiting d).2).2 (takeByte (waiting d').2).2
  write_eq : ∀ {d d'}, later d d' → ∀ bytes, (write bytes d').1 = (write bytes d).1
  write_later : ∀ {d d'}, later d d' → ∀ bytes, later (write bytes d).2 (write bytes d').2

open SerialLine (Delay)

namespace Script

/-- The same script when its clock has advanced: more bytes may have arrived behind
those that had. -/
structure Later (s s' : Script) : Prop where
  unread_eq : ∃ more, unread s' = unread s ++ more
  sent_eq : s'.sent = s.sent
  writeBound_eq : s'.writeBound = s.writeBound
  failRead_eq : s'.failRead = s.failRead
  failWrite_eq : s'.failWrite = s.failWrite

variable {s s' : Script}

/-- What a script has waiting is in sight of its next read. -/
theorem exists_received (h : (SerialLine.waiting s).1 ≠ 0) :
    ∃ first rest, unread s = first :: rest ∧ s.waiting.2.received = first :: rest :=
  match hs : unread s with
  | [] => absurd ((ReceivingLine.waiting_eq_zero s).mpr hs) h
  | first :: rest => ⟨first, rest, rfl, hs⟩

theorem takeByte_of_received {first : UInt8} {rest : List UInt8}
    (h : s.received = first :: rest) :
    s.takeByte = if s.failRead = some 0 then (.error .read, { s with failRead := none })
      else (.ok first, { s with received := rest, failRead := s.failRead.map (· - 1) }) := by
  simp only [takeByte, h]

theorem unread_waiting (s : Script) : unread s.waiting.2 = unread s :=
  ReceivingLine.unread_waiting s

namespace Later

theorem waiting (h : Later s s') : Later s.waiting.2 s'.waiting.2 where
  unread_eq := by
    rw [unread_waiting, unread_waiting]
    exact h.unread_eq
  sent_eq := h.sent_eq
  writeBound_eq := h.writeBound_eq
  failRead_eq := h.failRead_eq
  failWrite_eq := h.failWrite_eq

theorem takeByte (h : Later s s') {first : UInt8} {rest rest' : List UInt8}
    (hs : s.received = first :: rest) (hs' : s'.received = first :: rest') :
    s'.takeByte.1 = s.takeByte.1 ∧ Later s.takeByte.2 s'.takeByte.2 := by
  obtain ⟨more, hmore⟩ := h.unread_eq
  rw [takeByte_of_received hs, takeByte_of_received hs', h.failRead_eq]
  split
  · exact ⟨rfl, ⟨more, hmore⟩, h.sent_eq, h.writeBound_eq, rfl, h.failWrite_eq⟩
  · refine ⟨rfl, ⟨more, ?_⟩, h.sent_eq, h.writeBound_eq, rfl, h.failWrite_eq⟩
    simp only [unread, hs, hs', List.cons_append, List.cons.injEq, true_and] at hmore ⊢
    exact hmore

theorem write (h : Later s s') (bytes : List UInt8) :
    (s'.write bytes).1 = (s.write bytes).1 ∧ Later (s.write bytes).2 (s'.write bytes).2 := by
  simp only [Script.write, h.failWrite_eq, h.writeBound_eq]
  split
  · exact ⟨rfl, h.unread_eq, h.sent_eq, rfl, h.failRead_eq, rfl⟩
  · exact ⟨rfl, h.unread_eq, by rw [h.sent_eq], rfl, h.failRead_eq, rfl⟩

end Later

/-- Reads of a script with something waiting, and of the same script later. -/
theorem takeByte_waiting (h : Later s s') (hw : (SerialLine.waiting s).1 ≠ 0) :
    s'.waiting.2.takeByte.1 = s.waiting.2.takeByte.1 ∧
      Later s.waiting.2.takeByte.2 s'.waiting.2.takeByte.2 := by
  obtain ⟨first, rest, hs, hreceived⟩ := exists_received hw
  obtain ⟨more, hmore⟩ := h.unread_eq
  rw [hs] at hmore
  exact h.waiting.takeByte hreceived hmore

theorem delay : Delay Later where
  waiting_ne_zero {s s'} h hw := by
    obtain ⟨first, rest, hs, -⟩ := exists_received hw
    obtain ⟨more, hmore⟩ := h.unread_eq
    rw [Ne, ReceivingLine.waiting_eq_zero, hmore, hs]
    exact List.cons_ne_nil first (rest ++ more)
  takeByte_eq h hw := (takeByte_waiting h hw).1
  takeByte_later h hw := (takeByte_waiting h hw).2
  write_eq h bytes := (h.write bytes).1
  write_later h bytes := (h.write bytes).2

/-- Arrivals by one clock value are arrivals by every greater one. -/
theorem exists_arrived {clock clock' : UInt32} (h : clock ≤ clock')
    (arrivals : List (UInt32 × List UInt8)) :
    ∃ more, (arrived clock' arrivals).1 = (arrived clock arrivals).1 ++ more := by
  induction arrivals with
  | nil => exact ⟨[], rfl⟩
  | cons arrival rest ih =>
      by_cases htime : arrival.1 ≤ clock
      · obtain ⟨more, hmore⟩ := ih
        refine ⟨more, ?_⟩
        simp only [arrived, htime, UInt32.le_trans htime h, if_true, hmore, List.append_assoc]
      · simp only [arrived, htime, if_false, List.nil_append]
        exact ⟨_, rfl⟩

/-- A reading of the clock delays a script as long as the clock does not wrap. -/
theorem later_millis (h : s.clock ≤ s.clock + s.tick) : Later s (SerialLine.millis s).2 where
  unread_eq := by
    obtain ⟨more, hmore⟩ := exists_arrived h s.arrivals
    exact ⟨more, by simp only [unread, SerialLine.millis, hmore, List.append_assoc]⟩
  sent_eq := rfl
  writeBound_eq := rfl
  failRead_eq := rfl
  failWrite_eq := rfl

end Script

/-! ## The same frames later -/

namespace FrameLine

variable {δ ε : Type}

/-- The same reception, of lines in a relation. -/
structure Alike (later : δ → δ → Prop) (l l' : FrameLine δ) : Prop where
  line : later l.line l'.line
  parser_eq : l'.parser = l.parser
  dropped_eq : l'.dropped = l.dropped

/-- The line holds the end of a complete frame. -/
def HoldsFrame [SerialLine δ ε] [ReceivingLine δ ε] (l : FrameLine δ) : Prop :=
  (l.parser.digest (unread l.line)).1.frames ≠ []

instance [SerialLine δ ε] [ReceivingLine δ ε] (l : FrameLine δ) : Decidable l.HoldsFrame :=
  inferInstanceAs (Decidable (_ ≠ []))

variable [SerialLine δ ε]

/-- Write the acknowledgement of a frame; an acknowledgement has none. -/
def acknowledge (frame : Frame) (l : FrameLine δ) : Except (FrameLineError ε) Unit × FrameLine δ :=
  if frame.id = MessageId.ack ∨ frame.id = MessageId.nack then (.ok (), l)
  else l.send (Frame.empty MessageId.ack)

theorem acknowledge_of_ack_or_nack {frame : Frame} {l : FrameLine δ}
    (h : frame.id = MessageId.ack ∨ frame.id = MessageId.nack) :
    l.acknowledge frame = (.ok (), l) :=
  if_pos h

/-- A check of a line that holds a frame comes to an end before the line runs dry. -/
theorem HoldsFrame.check_ne_none [ReceivingLine δ ε] [LawfulSerialLine δ] {l : FrameLine δ}
    (h : l.HoldsFrame) : l.check.1 ≠ .ok none := by
  intro hnone
  obtain ⟨taken, broken, hc⟩ := check_checked l
  have hall : unread l.line = taken := by
    rw [hc.unread_eq, hc.drained hnone, List.append_nil]
  apply h
  rw [hall, hc.digest_eq, hnone, returned_none]

namespace Alike

variable {later : δ → δ → Prop} {l l' : FrameLine δ}

/-- Taking bytes until a frame completes or a read fails needs only bytes that are
there at the earlier moment. -/
theorem take [LawfulSerialLine δ] (hlater : Delay later) {m n : Nat} (h : Alike later l l')
    (hn : SerialLine.backlog l'.line < n) (hended : (l.take m).1 ≠ .ok none) :
    (l'.take n).1 = (l.take m).1 ∧ Alike later (l.take m).2 (l'.take n).2 := by
  induction m generalizing n l l' with
  | zero => exact absurd rfl hended
  | succ m ih =>
      obtain ⟨n, rfl⟩ := Nat.exists_eq_add_one_of_ne_zero (Nat.ne_zero_of_lt hn)
      have hw : (SerialLine.waiting l.line).1 ≠ 0 := fun hdry =>
        hended (by simp only [FrameLine.take, hdry, if_true])
      have hw' := hlater.waiting_ne_zero h.line hw
      have hanswer := hlater.takeByte_eq h.line hw
      have hnext := hlater.takeByte_later h.line hw
      rcases hread : SerialLine.takeByte (SerialLine.waiting l.line).2 with ⟨answer, line⟩
      rcases hread' : SerialLine.takeByte (SerialLine.waiting l'.line).2 with ⟨answer', line'⟩
      rw [hread, hread'] at hanswer hnext
      obtain rfl : answer' = answer := hanswer
      cases answer' with
      | error e =>
          simp only [FrameLine.take, hw, hw', if_false, hread, hread', true_and]
          exact ⟨hnext, h.parser_eq, h.dropped_eq⟩
      | ok byte =>
          have hroom : SerialLine.backlog line' < n := by
            have hlt := LawfulSerialLine.backlog_lt l'.line byte hw' (by rw [hread'])
            rw [hread'] at hlt
            exact Nat.lt_of_lt_of_le hlt (Nat.le_of_lt_succ hn)
          rcases hfeed : l.parser.feed byte with ⟨outcome, parser⟩
          have hfeed' : l'.parser.feed byte = (outcome, parser) := by rw [h.parser_eq, hfeed]
          cases outcome with
          | complete frame =>
              simp only [FrameLine.take, hw, hw', if_false, hread, hread', hfeed, hfeed', true_and]
              exact ⟨hnext, rfl, h.dropped_eq⟩
          | pending =>
              simp only [FrameLine.take, hw, hw', if_false, hread, hread', hfeed, hfeed']
                at hended ⊢
              exact ih ⟨hnext, rfl, h.dropped_eq⟩ hroom hended
          | broken =>
              simp only [FrameLine.take, hw, hw', if_false, hread, hread', hfeed, hfeed']
                at hended ⊢
              exact ih ⟨hnext, rfl, by rw [h.dropped_eq]⟩ hroom hended

theorem send (hlater : Delay later) (h : Alike later l l') (frame : Frame) :
    (l'.send frame).1 = (l.send frame).1 ∧ Alike later (l.send frame).2 (l'.send frame).2 := by
  have hanswer := hlater.write_eq h.line frame.encode
  have hnext := hlater.write_later h.line frame.encode
  rcases hw : SerialLine.write frame.encode l.line with ⟨answer, line⟩
  rcases hw' : SerialLine.write frame.encode l'.line with ⟨answer', line'⟩
  rw [hw, hw'] at hanswer hnext
  obtain rfl : answer' = answer := hanswer
  cases answer' with
  | error e =>
      simp only [FrameLine.send, hw, hw', true_and]
      exact ⟨hnext, h.parser_eq, h.dropped_eq⟩
  | ok written =>
      simp only [FrameLine.send, hw, hw', true_and]
      exact ⟨hnext, h.parser_eq, h.dropped_eq⟩

theorem acknowledge (hlater : Delay later) (h : Alike later l l') (frame : Frame) :
    (l'.acknowledge frame).1 = (l.acknowledge frame).1 ∧
      Alike later (l.acknowledge frame).2 (l'.acknowledge frame).2 := by
  unfold FrameLine.acknowledge
  split
  · exact ⟨rfl, h⟩
  · exact h.send hlater _

end Alike

/-- A wait whose first check ends it. -/
theorem receive_of_check {timeout : UInt32} {l l' : FrameLine δ}
    {answer : Except (FrameLineError ε) Frame}
    (h : FrameLine.check { l with line := (SerialLine.millis l.line).2 } =
      (answer.map some, l')) :
    l.receive timeout = (answer, l') := by
  obtain ⟨readings, hreadings⟩ : ∃ readings, clockReadings = readings + 1 := ⟨4294967295, rfl⟩
  cases answer <;> simp only [receive, hreadings, poll, h, Except.map]

/-- **A wait for a frame that is there** is a check, later. -/
theorem HoldsFrame.receive_eq [ReceivingLine δ ε] [LawfulSerialLine δ]
    {later : δ → δ → Prop} (hlater : Delay later) {l : FrameLine δ} (timeout : UInt32)
    (hread : later l.line (SerialLine.millis l.line).2) (h : l.HoldsFrame) :
    ∃ answer l', l.check.1 = answer.map some ∧ l.receive timeout = (answer, l') ∧
      Alike later l.check.2 l' := by
  have halike : Alike later l { l with line := (SerialLine.millis l.line).2 } := ⟨hread, rfl, rfl⟩
  obtain ⟨hanswer, hafter⟩ :=
    halike.take hlater (m := SerialLine.backlog l.line + 1) (Nat.lt_succ_self _) h.check_ne_none
  obtain ⟨answer, hsome⟩ : ∃ answer : Except (FrameLineError ε) Frame,
      l.check.1 = answer.map some := by
    cases hc : l.check.1 with
    | error e => exact ⟨.error e, rfl⟩
    | ok found =>
        cases found with
        | none => exact absurd hc h.check_ne_none
        | some frame => exact ⟨.ok frame, rfl⟩
  refine ⟨answer, _, hsome, receive_of_check (Prod.ext (hanswer.trans hsome) rfl), hafter⟩

end FrameLine

/-! ## What becomes of a pending post -/

namespace Exchange

variable {δ ε : Type} [SerialLine δ ε] {x : Exchange δ} {frame : Frame} {l : FrameLine δ}

/-- The next frame is an acknowledgement, or the refusal of one, while a posted
frame is pending. -/
def Settles (x : Exchange δ) : Prop :=
  x.isAwaiting = true ∧ ∃ frame, x.frames.check.1 = .ok (some frame) ∧
    (frame.id = MessageId.ack ∨ frame.id = MessageId.nack)

theorem accept_eq (frame : Frame) (x : Exchange δ) :
    x.accept frame =
      (((x.frames.acknowledge frame).1.mapError .line).map fun _ => frame,
        { x with frames := (x.frames.acknowledge frame).2 }) := by
  unfold accept Exchange.acknowledge FrameLine.acknowledge
  by_cases hid : frame.id = MessageId.ack ∨ frame.id = MessageId.nack
  · simp only [hid, if_true]
    rfl
  · simp only [hid, if_false]
    rcases x.frames.send (Frame.empty MessageId.ack) with ⟨_ | _, _⟩ <;> rfl

theorem receive_of_frame {timeout : UInt32} (h : x.frames.receive timeout = (.ok frame, l)) :
    x.receive timeout =
      (((l.acknowledge frame).1.mapError .line).map fun _ => frame,
        { x with frames := (l.acknowledge frame).2 }) := by
  simp only [receive, h, accept_eq]

theorem receive_of_error {timeout : UInt32} {error : FrameLineError ε}
    (h : x.frames.receive timeout = (.error error, l)) :
    x.receive timeout = (.error (.line error), { x with frames := l }) := by
  simp only [receive, h]

theorem check_of_error {error : FrameLineError ε} (h : x.frames.check = (.error error, l)) :
    x.check = (.error (.line error), { x with frames := l }) := by
  simp only [check, h]

/-- A refusal of the posted frame is reported in its place. -/
theorem check_of_nack (h : x.frames.check = (.ok (some frame), l)) (hawaiting : x.isAwaiting = true)
    (hid : frame.id = MessageId.nack) :
    x.check = (.error (.notAcknowledged MessageId.nack),
      { x with frames := l, postedAt := none }) := by
  have hnack : ({ x with frames := l } : Exchange δ).isAwaiting = true ∧
      frame.id = MessageId.nack := ⟨hawaiting, hid⟩
  simp only [check, h, if_pos hnack]

theorem check_of_frame (h : x.frames.check = (.ok (some frame), l))
    (hid : ¬(x.isAwaiting = true ∧ frame.id = MessageId.nack)) :
    x.check =
      (((l.acknowledge frame).1.mapError .line).map fun _ => some frame,
        { x with
          frames := (l.acknowledge frame).2
          postedAt := if frame.id = MessageId.ack then none else x.postedAt }) := by
  have hnack : ¬(({ x with frames := l } : Exchange δ).isAwaiting = true ∧
      frame.id = MessageId.nack) := hid
  simp only [check, h, if_neg hnack, accept_eq]
  by_cases hack : frame.id = MessageId.ack
  · simp only [hack, if_true]
    cases (l.acknowledge frame).1 <;> rfl
  · simp only [hack, if_false]
    cases (l.acknowledge frame).1 <;> rfl

/-- An `ack` settles whatever is pending. -/
theorem check_of_ack (h : x.frames.check = (.ok (some frame), l))
    (hid : frame.id = MessageId.ack) :
    x.check = (.ok (some frame), { x with frames := l, postedAt := none }) := by
  have hnack : ¬(x.isAwaiting = true ∧ frame.id = MessageId.nack) := fun h =>
    absurd (hid.symm.trans h.2) (by decide)
  rw [check_of_frame h hnack, FrameLine.acknowledge_of_ack_or_nack (.inl hid), if_pos hid]
  rfl

/-- A check writes the acknowledgement of the frame that it has, and changes nothing
else of the line. -/
theorem check_frames (h : x.frames.check = (.ok (some frame), l)) :
    x.check.2.frames = (l.acknowledge frame).2 ∧ x.check.2.ackTimeout = x.ackTimeout := by
  by_cases hnack : x.isAwaiting = true ∧ frame.id = MessageId.nack
  · rw [check_of_nack h hnack.1 hnack.2, FrameLine.acknowledge_of_ack_or_nack (.inr hnack.2)]
    exact ⟨rfl, rfl⟩
  · rw [check_of_frame h hnack]
    exact ⟨rfl, rfl⟩

theorem settles_iff (h : x.frames.check.1 = .ok (some frame)) :
    x.Settles ↔ x.isAwaiting = true ∧ (frame.id = MessageId.ack ∨ frame.id = MessageId.nack) := by
  simp only [Settles, h, Except.ok.injEq, Option.some.injEq, exists_eq_left']

/-- Both receive `frame`, from lines that take its acknowledgement alike. -/
theorem agree_iff {timeout : UInt32} {l' : FrameLine δ}
    (hcheck : x.frames.check = (.ok (some frame), l))
    (hreceive : x.frames.receive timeout = (.ok frame, l'))
    (hsame : (l'.acknowledge frame).1 = (l.acknowledge frame).1) :
    x.check.1 = (x.receive timeout).1.map some ∧
      x.check.2.isAwaiting = (x.receive timeout).2.isAwaiting ↔ ¬x.Settles := by
  rw [settles_iff (by rw [hcheck]), receive_of_frame hreceive, hsame]
  by_cases hnack : x.isAwaiting = true ∧ frame.id = MessageId.nack
  · rw [check_of_nack hcheck hnack.1 hnack.2]
    refine iff_of_false ?_ fun h => h ⟨hnack.1, .inr hnack.2⟩
    rintro ⟨-, hpending⟩
    exact absurd (hpending.trans hnack.1) Bool.false_ne_true
  · rw [check_of_frame hcheck hnack]
    have hanswer : ((l.acknowledge frame).1.mapError ExchangeError.line).map (fun _ => some frame) =
        (((l.acknowledge frame).1.mapError ExchangeError.line).map fun _ => frame).map some := by
      cases (l.acknowledge frame).1 <;> rfl
    by_cases hack : frame.id = MessageId.ack
    · rw [if_pos hack]
      cases hpending : x.isAwaiting with
      | false => exact iff_of_true ⟨hanswer, hpending.symm⟩ fun h => Bool.false_ne_true h.1
      | true =>
          exact iff_of_false (fun h => Bool.false_ne_true (h.2.trans hpending)) fun h =>
            h ⟨rfl, .inl hack⟩
    · have hneither : ¬(x.isAwaiting = true ∧
          (frame.id = MessageId.ack ∨ frame.id = MessageId.nack)) :=
        fun h => hnack ⟨h.1, h.2.resolve_left hack⟩
      rw [if_neg hack]
      exact iff_of_true ⟨hanswer, rfl⟩ hneither

/-- **Waiting for a frame is checking for it, but for a pending post.** On a line that
holds a complete frame, and that a reading of the clock only delays, both take the
same bytes off the line and stop with the same parser: if a read fails, both
report it; otherwise both have the same frame, and write its acknowledgement and
nothing else. What they return and whether a posted frame stays pending agree
exactly if the frame settles none: a wait never touches the pending post, where a
check takes an `ack` for it and reports a `nack` instead of the frame. -/
theorem receive_agrees_unless_settling [ReceivingLine δ ε] [LawfulSerialLine δ]
    {later : δ → δ → Prop} (hlater : Delay later) (x : Exchange δ) (timeout : UInt32)
    (hread : later x.frames.line (SerialLine.millis x.frames.line).2)
    (hready : x.frames.HoldsFrame) :
    x.check.2.frames.Alike later (x.receive timeout).2.frames ∧
    (x.receive timeout).2.ackTimeout = x.check.2.ackTimeout ∧
    (x.receive timeout).2.postedAt = x.postedAt ∧
    (∀ error, x.frames.check.1 = .error error →
      x.check.1 = .error (.line error) ∧ (x.receive timeout).1 = .error (.line error) ∧
        x.check.2.frames = x.frames.check.2 ∧
        x.frames.check.2.Alike later (x.receive timeout).2.frames) ∧
    (∀ frame, x.frames.check.1 = .ok (some frame) →
      x.check.2.frames = (x.frames.check.2.acknowledge frame).2 ∧
        (∃ l, x.frames.check.2.Alike later l ∧
          (x.receive timeout).2.frames = (l.acknowledge frame).2) ∧
        (x.isAwaiting = true → frame.id = MessageId.ack →
          x.check.1 = .ok (some frame) ∧ x.check.2.isAwaiting = false ∧
            (x.receive timeout).1 = .ok frame) ∧
        (x.isAwaiting = true → frame.id = MessageId.nack →
          x.check.1 = .error (.notAcknowledged MessageId.nack) ∧ x.check.2.isAwaiting = false ∧
            (x.receive timeout).1 = .ok frame)) ∧
    (x.check.1 = (x.receive timeout).1.map some ∧
      x.check.2.isAwaiting = (x.receive timeout).2.isAwaiting ↔ ¬x.Settles) := by
  obtain ⟨answer, l, hsome, hreceive, halike⟩ := hready.receive_eq hlater timeout hread
  cases answer with
  | error error =>
      have hcheck : x.frames.check = (.error error, x.frames.check.2) := Prod.ext hsome rfl
      have hsettles : ¬x.Settles := by
        rintro ⟨-, frame, hframe, -⟩
        cases hsome.symm.trans hframe
      rw [receive_of_error hreceive, check_of_error hcheck]
      refine ⟨halike, rfl, rfl, ?_, ?_, iff_of_true ⟨rfl, rfl⟩ hsettles⟩
      · intro error' herror
        cases hsome.symm.trans herror
        exact ⟨rfl, rfl, rfl, halike⟩
      · intro frame hframe
        cases hsome.symm.trans hframe
  | ok frame =>
      have hcheck : x.frames.check = (.ok (some frame), x.frames.check.2) := Prod.ext hsome rfl
      obtain ⟨hsame, hwritten⟩ := halike.acknowledge hlater frame
      have hagree := agree_iff hcheck hreceive hsame
      obtain ⟨hframes, htimeout⟩ := check_frames hcheck
      rw [receive_of_frame hreceive] at hagree ⊢
      refine ⟨?_, htimeout.symm, rfl, ?_, ?_, hagree⟩
      · rw [hframes]
        exact hwritten
      · intro error herror
        cases hsome.symm.trans herror
      · intro frame' hframe
        cases hsome.symm.trans hframe
        refine ⟨hframes, ⟨l, halike, rfl⟩, ?_, ?_⟩
        · intro _ hack
          rw [check_of_ack hcheck hack, FrameLine.acknowledge_of_ack_or_nack (.inl hack)]
          exact ⟨rfl, rfl, rfl⟩
        · intro hpending hnack
          rw [check_of_nack hcheck hpending hnack,
            FrameLine.acknowledge_of_ack_or_nack (.inr hnack)]
          exact ⟨rfl, rfl, rfl⟩

/-- A frame has been posted, and these bytes are there. -/
def posted (received : List UInt8) : Exchange Script :=
  ((Exchange.new { Script.idle with received }).post (Frame.empty MessageId.getStatus)).2

/-- Behind some noise there is a frame other than an acknowledgement. -/
def loggedPost : Exchange Script :=
  posted (0x11 :: (Frame.empty MessageId.log).encode)

/-- The post stays pending either way. -/
theorem receive_agrees_on_log :
    loggedPost.frames.HoldsFrame ∧
      loggedPost.check.1 = (loggedPost.receive 100).1.map some ∧
      loggedPost.check.2.isAwaiting = (loggedPost.receive 100).2.isAwaiting := by
  have hready : loggedPost.frames.HoldsFrame := by decide
  have hread : Script.Later loggedPost.frames.line (SerialLine.millis loggedPost.frames.line).2 :=
    Script.later_millis (by decide)
  have hlog : loggedPost.frames.check.1 = .ok (some (Frame.empty MessageId.log)) := rfl
  have hsettles : ¬loggedPost.Settles := by
    rw [settles_iff hlog]
    decide
  obtain ⟨-, -, -, -, -, hagree⟩ :=
    receive_agrees_unless_settling Script.delay loggedPost 100 hread hready
  exact ⟨hready, hagree.mpr hsettles⟩

/-- The acknowledgement of the posted frame is there. -/
def acknowledgedPost : Exchange Script :=
  posted (Frame.empty MessageId.ack).encode

/-- A check settles the post; a wait takes the acknowledgement and leaves it
pending. -/
theorem receive_leaves_post_pending :
    acknowledgedPost.isAwaiting = true ∧ acknowledgedPost.frames.HoldsFrame ∧
      acknowledgedPost.check.1 = .ok (some (Frame.empty MessageId.ack)) ∧
      acknowledgedPost.check.2.isAwaiting = false ∧
      (acknowledgedPost.receive 100).1 = .ok (Frame.empty MessageId.ack) ∧
      (acknowledgedPost.receive 100).2.isAwaiting = true :=
  ⟨rfl, by decide, rfl, rfl, rfl, rfl⟩

end Exchange

end XYStage
