/-
# XYStage.Proofs.Board.Writing -- what a write puts on the wire

`UartLine.writeAll` offers what is left of the data until the UART has taken all
of it, takes nothing or fails. To say which bytes have gone out, the UART is put
behind a record of every offer made to it and of its answer (`Recorded`); that is
a UART too, and the line over it gives the same answers. What such a record can
hold after one write is `Writes`: a case for each way to end and one for an offer
taken in part, with the rest offered next.

Main statement: `UartLine.write_sends_leading_bytes`. Of a UART only this is
assumed, that it never takes more than it is offered.
-/
import Mathlib.Data.List.TakeDrop
import XYStage.Bench.Wire
import XYStage.Link.FrameLine
import XYStage.Proofs.Wire.Framing

namespace XYStage

set_option autoImplicit false

/-- A UART that never takes more bytes than it is offered. -/
def Uart.TakesPart (υ : Type) [Uart υ] : Prop :=
  ∀ (data : List UInt8) (uart : υ) (n : Nat), (Uart.write data uart).1 = .ok n → n ≤ data.length

theorem BenchWire.takesPart : Uart.TakesPart BenchWire := by
  intro data w n h
  have haccept (w : BenchWire) (h : (w.accept data).1 = .ok n) : n ≤ data.length := by
    cases h
    exact List.length_take_le' _ _
  simp only [Uart.write, BenchWire.write] at h
  split at h
  · cases h
  · exact haccept _ h
  · exact haccept _ h

/-! ## The record of a UART -/

/-- Bytes offered to a UART, and its answer. -/
structure Offer where
  bytes : List UInt8
  answer : Except UartError Nat

/-- The bytes that have gone out: the leading ones, as many as the UART took. -/
def Offer.taken (offer : Offer) : List UInt8 :=
  match offer.answer with
  | .ok n => offer.bytes.take n
  | .error _ => []

/-- A UART and the offers made to it, the earliest first. -/
structure Recorded (υ : Type) where
  uart : υ
  offers : List Offer

namespace Recorded

variable {υ : Type}

/-- All bytes that have gone out, in order. -/
def sent (r : Recorded υ) : List UInt8 :=
  r.offers.flatMap Offer.taken

/-- The answer to the last offer, if there was one. -/
def lastAnswer (r : Recorded υ) : Option (Except UartError Nat) :=
  r.offers.getLast?.map Offer.answer

/-- Act on the UART. -/
def onUart {α : Type} (f : υ → α × υ) (r : Recorded υ) : α × Recorded υ :=
  let (answer, uart) := f r.uart
  (answer, { r with uart })

instance [Uart υ] : Uart (Recorded υ) where
  setBaudRate rate r := { r with uart := Uart.setBaudRate rate r.uart }
  readReady := onUart Uart.readReady
  read := onUart Uart.read
  write data r :=
    let (answer, uart) := Uart.write data r.uart
    (answer, { uart, offers := r.offers ++ [{ bytes := data, answer }] })
  flush r := { r with uart := Uart.flush r.uart }
  micros r := Uart.micros r.uart
  backlog r := Uart.backlog r.uart

theorem write_eq [Uart υ] (data : List UInt8) (r : Recorded υ) :
    Uart.write data r = ((Uart.write data r.uart).1, ⟨(Uart.write data r.uart).2,
      r.offers ++ [⟨data, (Uart.write data r.uart).1⟩]⟩) := rfl

end Recorded

/-! ## The offers of one write -/

/-- How a write ends. -/
inductive Ending where
  /-- Nothing is left. -/
  | complete
  /-- The UART took nothing of what was left. -/
  | stalled
  | failed (error : UartError)

/-- What is answered when `count` bytes have been taken. -/
def Ending.result (count : Nat) : Ending → Except UartError Nat
  | complete => .ok count
  | stalled => .ok count
  | failed error => .error error

/-- The last answer fits the ending. -/
def Ending.After (last : Option (Except UartError Nat)) : Ending → Prop
  | complete => last ≠ some (.ok 0)
  | stalled => last = some (.ok 0)
  | failed error => last = some (.error error)

/-- `Writes data offers count ending`: writing `data` can consist of these offers,
of which the UART takes `count` bytes in all. -/
inductive Writes : List UInt8 → List Offer → Nat → Ending → Prop where
  | nothing : Writes [] [] 0 .complete
  | stalled {data : List UInt8} : data ≠ [] → Writes data [⟨data, .ok 0⟩] 0 .stalled
  | failed {data : List UInt8} {error : UartError} : data ≠ [] →
      Writes data [⟨data, .error error⟩] 0 (.failed error)
  | part {data : List UInt8} {offers : List Offer} {n count : Nat} {ending : Ending} :
      n + 1 ≤ data.length → Writes (data.drop (n + 1)) offers count ending →
      Writes data (⟨data, .ok (n + 1)⟩ :: offers) (n + 1 + count) ending

namespace Writes

variable {data : List UInt8} {offers : List Offer} {count : Nat} {ending : Ending}

theorem count_le (h : Writes data offers count ending) : count ≤ data.length := by
  induction h with
  | nothing => exact Nat.le_refl _
  | stalled => exact Nat.zero_le _
  | failed => exact Nat.zero_le _
  | part hn _ ih =>
      simp only [List.length_drop] at ih
      omega

/-- Every offer but the last one takes a byte, and so does the last one of a
complete write. -/
theorem length_le (h : Writes data offers count ending) : offers.length ≤ data.length := by
  induction h with
  | nothing => exact Nat.le_refl _
  | stalled hne => exact List.length_pos_iff.mpr hne
  | failed hne => exact List.length_pos_iff.mpr hne
  | part hn _ ih =>
      simp only [List.length_drop] at ih
      simp only [List.length_cons]
      omega

/-- No byte is repeated and none is left out. -/
theorem taken_eq (h : Writes data offers count ending) :
    offers.flatMap Offer.taken = data.take count := by
  induction h with
  | nothing => rfl
  | stalled => rfl
  | failed => rfl
  | part _ _ ih => rw [List.flatMap_cons, ih, Offer.taken, List.take_add]

theorem count_eq_iff (h : Writes data offers count ending) :
    count = data.length ↔ ending = .complete := by
  induction h with
  | nothing => simp
  | stalled hne => simpa [eq_comm] using hne
  | failed hne => simpa [eq_comm] using hne
  | part hn _ ih =>
      rw [← ih, List.length_drop]
      omega

/-- The last answer of a write that is cut short tells why it is. -/
theorem after_getLast (h : Writes data offers count ending) :
    ending.After (offers.getLast?.map Offer.answer) := by
  induction h with
  | nothing => simp [Ending.After]
  | stalled => rfl
  | failed => rfl
  | @part _ offers _ _ ending _ _ ih =>
      cases offers with
      | nil =>
          -- What was left needed no offer, so nothing was left.
          cases ending with
          | complete => simp [Ending.After]
          | stalled => cases ih
          | failed => cases ih
      | cons offer offers => rwa [List.getLast?_cons_cons]

end Writes

/-! ## Sending a frame -/

namespace FrameLine

variable {δ ε : Type} [SerialLine δ ε]

/-- A frame is sent exactly if its bytes are written whole. -/
theorem send_eq_ok_iff (l : FrameLine δ) (frame : Frame) :
    (l.send frame).1 = .ok () ↔
      (SerialLine.write frame.encode l.line).1 = .ok frame.encode.length := by
  rw [frame.length_encode, send]
  cases SerialLine.write frame.encode l.line with
  | mk answer line =>
      cases answer with
      | error => simp
      | ok n => by_cases h : n = frame.encodedSize <;> simp [h]

theorem send_line (l : FrameLine δ) (frame : Frame) :
    (l.send frame).2.line = (SerialLine.write frame.encode l.line).2 := by
  rw [send]
  cases SerialLine.write frame.encode l.line with
  | mk answer line => cases answer <;> rfl

end FrameLine

/-! ## Writing over a UART -/

namespace UartLine

variable {υ : Type} [Uart υ]

/-- A run of `writeAll` over the record: the answer and the state of the run over
the UART alone, and offers as `Writes` has them. The induction is on the run. -/
theorem writeAll_recorded (hpart : Uart.TakesPart υ) (data : List UInt8) (written : Nat) (uart : υ)
    (past : List Offer) :
    ∃ offers count ending, Writes data offers count ending ∧
      (writeAll data written uart).1 = ending.result (written + count) ∧
      writeAll data written (Recorded.mk uart past) =
        ((writeAll data written uart).1, ⟨(writeAll data written uart).2, past ++ offers⟩) := by
  induction data, written, uart using writeAll.induct generalizing past with
  | case1 written uart =>
      refine ⟨[], 0, .complete, .nothing, ?_⟩
      simp [writeAll, Ending.result]
  | case2 data written uart hne error uart' hw =>
      refine ⟨[⟨data, .error error⟩], 0, .failed error, .failed hne, ?_⟩
      rw [writeAll, writeAll]
      simp [hne, hw, Recorded.write_eq, Ending.result]
  | case3 data written uart hne uart' hw =>
      refine ⟨[⟨data, .ok 0⟩], 0, .stalled, .stalled hne, ?_⟩
      rw [writeAll, writeAll]
      simp [hne, hw, Recorded.write_eq, Ending.result]
  | case4 data written uart hne n uart' hw ih =>
      obtain ⟨offers, count, ending, h, hresult, hrecord⟩ := ih (past ++ [⟨data, .ok (n + 1)⟩])
      have hn : n + 1 ≤ data.length := hpart data uart (n + 1) (by rw [hw])
      refine ⟨_, _, ending, .part hn h, ?_⟩
      rw [writeAll, writeAll]
      simp only [if_neg hne, hw, Recorded.write_eq, hresult, hrecord]
      simp [Nat.add_assoc]

/-- The line with its UART behind a record, empty so far. -/
def recorded (line : UartLine υ) : UartLine (Recorded υ) :=
  { uart := { uart := line.uart, offers := [] }, isOpen := line.isOpen }

/-- The line without the record. -/
def unrecorded (line : UartLine (Recorded υ)) : UartLine υ :=
  { uart := line.uart.uart, isOpen := line.isOpen }

theorem write_of_closed {line : UartLine υ} (h : line.isOpen = false) (data : List UInt8) :
    line.write data = (.ok 0, line) := by
  simp [write, h]

theorem write_of_open {line : UartLine υ} (h : line.isOpen = true) (data : List UInt8) :
    line.write data = ((writeAll data 0 line.uart).1, ⟨(writeAll data 0 line.uart).2, true⟩) := by
  simp [write, h]

/-- What a write over the record does, closed line or open. -/
theorem recorded_write (hpart : Uart.TakesPart υ) (line : UartLine υ) (data : List UInt8) :
    ∃ offers, line.recorded.write data =
        ((line.write data).1, ⟨⟨(line.write data).2.uart, offers⟩, (line.write data).2.isOpen⟩) ∧
      ((line.isOpen = false ∧ offers = []) ∨ (line.isOpen = true ∧ ∃ count ending,
        Writes data offers count ending ∧ (line.write data).1 = ending.result count)) := by
  cases ho : line.isOpen with
  | false =>
      refine ⟨[], ?_, .inl ⟨rfl, rfl⟩⟩
      rw [write_of_closed ho, write_of_closed (show line.recorded.isOpen = false from ho)]
      rfl
  | true =>
      obtain ⟨offers, count, ending, h, hresult, hrecord⟩ :=
        writeAll_recorded hpart data 0 line.uart []
      refine ⟨offers, ?_, .inr ⟨rfl, count, ending, h, ?_⟩⟩
      · rw [write_of_open ho, write_of_open (show line.recorded.isOpen = true from ho), recorded,
          hrecord]
        rfl
      · rw [write_of_open ho, hresult, Nat.zero_add]

section

variable {line : UartLine υ} {data : List UInt8}

/-- The offers on an open line, as one of the ways to write the data. -/
theorem writes_of_open (hpart : Uart.TakesPart υ) (ho : line.isOpen = true)
    (data : List UInt8) :
    ∃ count ending, Writes data (line.recorded.write data).2.uart.offers count ending ∧
      (line.write data).1 = ending.result count := by
  obtain ⟨offers, hrecord, ⟨hc, -⟩ | ⟨-, hwrites⟩⟩ := recorded_write hpart line data
  · cases ho.symm.trans hc
  · rwa [hrecord]

theorem length_offers_le (hpart : Uart.TakesPart υ) :
    (line.recorded.write data).2.uart.offers.length ≤ data.length := by
  obtain ⟨offers, hrecord, ⟨-, rfl⟩ | ⟨-, count, ending, h, -⟩⟩ := recorded_write hpart line data
  · simp [hrecord]
  · simpa only [hrecord] using h.length_le

theorem sent_of_ok (hpart : Uart.TakesPart υ) (ho : line.isOpen = true) {n : Nat}
    (hn : (line.write data).1 = .ok n) :
    n ≤ data.length ∧ (line.recorded.write data).2.uart.sent = data.take n ∧
      (n < data.length ↔ (line.recorded.write data).2.uart.lastAnswer = some (.ok 0)) := by
  obtain ⟨count, ending, h, hresult⟩ := writes_of_open hpart ho data
  have hlast := h.after_getLast
  have hcount := h.count_eq_iff
  have hle := h.count_le
  rw [hresult] at hn
  cases ending with
  | complete =>
      cases hn
      have hall : n = data.length := hcount.mpr rfl
      exact ⟨hle, h.taken_eq, fun hlt => absurd hall (Nat.ne_of_lt hlt), fun h0 => absurd h0 hlast⟩
  | stalled =>
      cases hn
      have hne : n ≠ data.length := fun h => nomatch hcount.mp h
      exact ⟨hle, h.taken_eq, fun _ => hlast, fun _ => by omega⟩
  | failed => cases hn

theorem sent_of_error (hpart : Uart.TakesPart υ) (ho : line.isOpen = true) {error : UartError}
    (he : (line.write data).1 = .error error) :
    ∃ n < data.length, (line.recorded.write data).2.uart.sent = data.take n ∧
      (line.recorded.write data).2.uart.lastAnswer = some (.error error) := by
  obtain ⟨count, ending, h, hresult⟩ := writes_of_open hpart ho data
  rw [hresult] at he
  cases ending with
  | complete => cases he
  | stalled => cases he
  | failed error =>
      cases he
      have hne : count ≠ data.length := fun hc => nomatch h.count_eq_iff.mp hc
      exact ⟨count, by have := h.count_le; omega, h.taken_eq, h.after_getLast⟩

end

/-- Some data is written whole exactly if it has gone out whole. -/
theorem write_eq_length_iff (hpart : Uart.TakesPart υ) (line : UartLine υ) {data : List UInt8}
    (hne : data ≠ []) :
    (line.write data).1 = .ok data.length ↔ (line.recorded.write data).2.uart.sent = data := by
  cases ho : line.isOpen with
  | false =>
      obtain ⟨offers, hrecord, ⟨-, rfl⟩ | ⟨ho', -⟩⟩ := recorded_write hpart line data
      · simp [write_of_closed ho, hrecord, Recorded.sent, eq_comm, hne]
      · cases ho.symm.trans ho'
  | true =>
      constructor
      · intro h
        rw [(sent_of_ok hpart ho h).2.1, List.take_length]
      · intro hsent
        cases hr : (line.write data).1 with
        | ok n =>
            obtain ⟨hle, htake, -⟩ := sent_of_ok hpart ho hr
            rw [hsent, eq_comm, List.take_eq_self_iff] at htake
            rw [Nat.le_antisymm hle htake]
        | error error =>
            obtain ⟨n, hlt, htake, -⟩ := sent_of_error hpart ho hr
            rw [hsent, eq_comm, List.take_eq_self_iff] at htake
            omega

/-- **Main theorem.** Of a UART only this is assumed, that it never takes more
than it is offered; how much it takes at every offer and when it fails is free.
Then a write ends, after at most as many offers as there are bytes, and a record
of the offers changes nothing about it. A closed line offers nothing. On an open
line, if `n` is answered, the bytes that have gone out are the first `n` ones, each
once and in order, and bytes are left exactly if the UART took nothing at the last
offer; if an error is answered, it is that of the last offer, and not all has gone
out. So a frame is sent exactly if all bytes of its encoding have gone out, in
order. -/
theorem write_sends_leading_bytes (hpart : Uart.TakesPart υ) (line : UartLine υ)
    (data : List UInt8) :
    let result := (line.write data).1
    let after := (line.recorded.write data).2
    ((line.recorded.write data).1 = result ∧ after.unrecorded = (line.write data).2) ∧
    after.uart.offers.length ≤ data.length ∧
    (line.isOpen = false → result = .ok 0 ∧ after.uart.offers = []) ∧
    (line.isOpen = true →
      (∀ n, result = .ok n → n ≤ data.length ∧ after.uart.sent = data.take n ∧
        (n < data.length ↔ after.uart.lastAnswer = some (.ok 0))) ∧
      (∀ error, result = .error error → ∃ n < data.length, after.uart.sent = data.take n ∧
        after.uart.lastAnswer = some (.error error))) ∧
    ∀ (frame : Frame) (parser : Parser) (dropped : UInt32),
      ((FrameLine.mk line parser dropped).send frame).1 = .ok () ↔
        ((FrameLine.mk line.recorded parser dropped).send frame).2.line.uart.sent =
          frame.encode := by
  intro result after
  have hclosed (hc : line.isOpen = false) : result = .ok 0 ∧ after.uart.offers = [] := by
    have hc' : line.recorded.isOpen = false := hc
    simp only [result, after, write_of_closed hc, write_of_closed hc']
    exact ⟨trivial, rfl⟩
  have hrecorded : (line.recorded.write data).1 = result ∧
      after.unrecorded = (line.write data).2 := by
    obtain ⟨offers, hrecord, -⟩ := recorded_write hpart line data
    simp only [after, hrecord]
    exact ⟨rfl, rfl⟩
  refine ⟨hrecorded, length_offers_le hpart, hclosed,
    fun ho => ⟨fun _ => sent_of_ok hpart ho, fun _ => sent_of_error hpart ho⟩, ?_⟩
  intro frame parser dropped
  have hne : frame.encode ≠ [] := by simp [Frame.encode]
  rw [FrameLine.send_eq_ok_iff, FrameLine.send_line]
  exact write_eq_length_iff hpart line hne

/-- A UART that takes two bytes, then one, and then has no room: the other two of
five are left. -/
theorem full_buffer_leaves_rest :
    let line := UartLine.new { BenchWire.idle with chunks := [2, 1, 0] }
    let after := (line.recorded.write [1, 2, 3, 4, 5]).2
    Uart.TakesPart BenchWire ∧ line.isOpen = true ∧ (line.write [1, 2, 3, 4, 5]).1 = .ok 3 ∧
      after.uart.sent = [1, 2, 3] ∧ after.uart.lastAnswer = some (.ok 0) := by
  intro line after
  have hanswer : (line.write [1, 2, 3, 4, 5]).1 = .ok 3 := by
    simp [line, new, write, writeAll, Uart.write, BenchWire.write, BenchWire.accept,
      BenchWire.idle]
  obtain ⟨-, -, -, hopen, -⟩ :=
    write_sends_leading_bytes BenchWire.takesPart line [1, 2, 3, 4, 5]
  obtain ⟨-, hsent, hlast⟩ := (hopen rfl).1 3 hanswer
  exact ⟨BenchWire.takesPart, rfl, hanswer, hsent, hlast.mp (by decide)⟩

end UartLine

end XYStage
