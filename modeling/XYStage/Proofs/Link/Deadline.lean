/-
# XYStage.Proofs.Link.Deadline -- a wait for a frame ends in time

`FrameLine.receive` checks for a frame and reads the clock, again and again. The clock
counts modulo `2 ^ 32`, so a wait that reads it too late can find little time elapsed,
and one that reads it without end could go on forever. `FrameLine.Clocked` is what
excludes both: the true time behind the readings advances from each to the next, by at
most what is left of `2 ^ 32` over the timeout. Then the time elapsed is exact as long
as it is short of the timeout, and at the first reading that is not.

Nothing is assumed of the line besides: `SerialLine.Gives` collects the bytes that a
receiver gets by its operations, whatever they answer, and `FrameLine.Sweeps` says what
a check makes of them.

Main statement: a wait ends after at most `timeout` readings of the clock, or one; it
gives up only when the time is over and no frame has come, and otherwise gives the first
frame in the bytes delivered, or the failure of a read (`wait_ends_in_time`).
-/
import XYStage.Proofs.Link.Lossless

namespace XYStage

set_option autoImplicit false

/-! ## The bytes that a line delivers -/

namespace SerialLine

variable {δ ε : Type} [SerialLine δ ε]

/-- Operations of a receiver lead from one state of a line to another, and these are the
bytes it was given. -/
inductive Gives : δ → List UInt8 → δ → Prop where
  | refl (d : δ) : Gives d [] d
  | waiting {d d' : δ} {bytes : List UInt8} (before : Gives d bytes d') :
      Gives d bytes (SerialLine.waiting d').2
  | millis {d d' : δ} {bytes : List UInt8} (before : Gives d bytes d') :
      Gives d bytes (SerialLine.millis d').2
  | byte {d d' d'' : δ} {bytes : List UInt8} {byte : UInt8} (before : Gives d bytes d')
      (read : SerialLine.takeByte d' = (.ok byte, d'')) : Gives d (bytes ++ [byte]) d''

theorem Gives.trans {d d' d'' : δ} {bytes more : List UInt8} (first : Gives d bytes d')
    (second : Gives d' more d'') : Gives d (bytes ++ more) d'' := by
  induction second with
  | refl => rwa [List.append_nil]
  | waiting _ ih => exact ih.waiting
  | millis _ ih => exact ih.millis
  | byte _ read ih =>
      rw [← List.append_assoc]
      exact ih.byte read

/-- A byte that was waiting is taken. -/
theorem Gives.read {d line : δ} {byte : UInt8}
    (read : SerialLine.takeByte (SerialLine.waiting d).2 = (.ok byte, line)) :
    Gives d [byte] line :=
  (Gives.refl d).waiting.byte read

/-- A line that has a stream of bytes to deliver and delivers them in order, at whatever
moments. Its reads may fail. -/
structure Delivers (stream : δ → List UInt8) : Prop where
  waiting : ∀ d, stream (SerialLine.waiting d).2 = stream d
  millis : ∀ d, stream (SerialLine.millis d).2 = stream d
  takeByte : ∀ {d d' byte}, SerialLine.takeByte d = (.ok byte, d') → stream d = byte :: stream d'

/-- What is given is the head of the stream. -/
theorem Gives.stream_eq {stream : δ → List UInt8} (h : Delivers stream) {d d' : δ}
    {bytes : List UInt8} (gives : Gives d bytes d') : stream d = bytes ++ stream d' := by
  induction gives with
  | refl => rfl
  | waiting _ ih => rw [ih, h.waiting]
  | millis _ ih => rw [ih, h.millis]
  | byte _ read ih => rw [ih, h.takeByte read, List.append_assoc, List.singleton_append]

end SerialLine

open SerialLine (Gives Delivers)

namespace FrameLine

variable {δ ε : Type} [SerialLine δ ε]

/-! ## One check -/

/-- What a check comes to that is given the bytes `taken`. -/
inductive Sweeps (l : FrameLine δ) : Except (FrameLineError ε) (Option Frame) → FrameLine δ →
    List UInt8 → Prop where
  /-- Everything that is available has been taken, and no frame is complete. -/
  | dry {d : δ} {taken : List UInt8} {broken : Nat} {parser : Parser} {dropped : UInt32}
      (gives : Gives l.line taken d) (digest : l.parser.digest taken = (⟨[], broken⟩, parser))
      (empty : (SerialLine.waiting d).1 = 0) :
      Sweeps l (.ok none) ⟨(SerialLine.waiting d).2, parser, dropped⟩ taken
  /-- A read fails; the parser keeps what it has. -/
  | failed {d line : δ} {taken : List UInt8} {broken : Nat} {parser : Parser} {dropped : UInt32}
      {e : ε} (gives : Gives l.line taken d)
      (digest : l.parser.digest taken = (⟨[], broken⟩, parser))
      (read : SerialLine.takeByte d = (.error e, line)) :
      Sweeps l (.error (.line e)) ⟨line, parser, dropped⟩ taken
  /-- The last byte taken completes the first frame. -/
  | complete {d line : δ} {taken : List UInt8} {byte : UInt8} {broken : Nat}
      {parser parser' : Parser} {dropped : UInt32} {frame : Frame} (gives : Gives l.line taken d)
      (digest : l.parser.digest taken = (⟨[], broken⟩, parser))
      (read : SerialLine.takeByte d = (.ok byte, line))
      (feed : parser.feed byte = (.complete frame, parser')) :
      Sweeps l (.ok (some frame)) ⟨line, parser', dropped⟩ (taken ++ [byte])

/-- A check behind bytes that completed no frame. -/
theorem Sweeps.after {l l₁ l' : FrameLine δ} {answer : Except (FrameLineError ε) (Option Frame)}
    {first taken : List UInt8} {broken : Nat} (gives : Gives l.line first l₁.line)
    (digest : l.parser.digest first = (⟨[], broken⟩, l₁.parser)) (h : Sweeps l₁ answer l' taken) :
    Sweeps l answer l' (first ++ taken) := by
  have hdigest {more : List UInt8} {fewer : Nat} {parser : Parser}
      (hmore : l₁.parser.digest more = (⟨[], fewer⟩, parser)) :
      l.parser.digest (first ++ more) = (⟨[], broken + fewer⟩, parser) := by
    rw [Parser.digest_append, digest, hmore]
    rfl
  cases h with
  | dry gives' digest' empty => exact .dry (gives.trans gives') (hdigest digest') empty
  | failed gives' digest' read => exact .failed (gives.trans gives') (hdigest digest') read
  | complete gives' digest' read feed =>
      rw [← List.append_assoc]
      exact .complete (gives.trans gives') (hdigest digest') read feed

theorem Takes.sweeps {l l' : FrameLine δ} {answer : Except (FrameLineError ε) (Option Frame)}
    (h : Takes l answer l') : ∃ taken, Sweeps l answer l' taken := by
  induction h with
  | @dry l empty => exact ⟨[], .dry (.refl l.line) (Parser.digest_nil l.parser) empty⟩
  | @failed l _ e line read =>
      exact ⟨[], .failed (.waiting (.refl l.line)) (Parser.digest_nil l.parser) read⟩
  | @complete l _ byte line read frame parser feed =>
      exact ⟨[byte], .complete (.waiting (.refl l.line)) (Parser.digest_nil l.parser) read feed⟩
  | @pending l _ byte line read parser feed answer l' _ ih =>
      obtain ⟨taken, h⟩ := ih
      have hbyte : l.parser.digest [byte] = (⟨[], 0⟩, parser) := Parser.digest_singleton feed
      exact ⟨_, h.after (Gives.read read) hbyte⟩
  | @broken l _ byte line read parser feed answer l' _ ih =>
      obtain ⟨taken, h⟩ := ih
      have hbyte : l.parser.digest [byte] = (⟨[], 1⟩, parser) := Parser.digest_singleton feed
      exact ⟨_, h.after (Gives.read read) hbyte⟩

namespace Sweeps

variable {l l' : FrameLine δ} {answer : Except (FrameLineError ε) (Option Frame)}
  {taken : List UInt8} {stream : δ → List UInt8}

theorem isPrefix (deliver : Delivers stream) (h : Sweeps l answer l' taken) :
    taken <+: stream l.line := by
  cases h with
  | dry gives _ _ => exact ⟨_, (gives.stream_eq deliver).symm⟩
  | failed gives _ _ => exact ⟨_, (gives.stream_eq deliver).symm⟩
  | complete gives _ read _ => exact ⟨_, ((gives.byte read).stream_eq deliver).symm⟩

/-- Unless a read fails, what was taken is all that is missing from the stream. -/
theorem stream_eq (deliver : Delivers stream) (h : Sweeps l answer l' taken)
    (ok : ∀ error, answer ≠ .error error) : stream l.line = taken ++ stream l'.line := by
  cases h with
  | dry gives _ _ => exact gives.waiting.stream_eq deliver
  | failed _ _ _ => exact absurd rfl (ok _)
  | complete gives _ read _ => exact (gives.byte read).stream_eq deliver

/-- The frame is the first in the stream. -/
theorem head?_frames (deliver : Delivers stream) {frame : Frame}
    (h : Sweeps l (.ok (some frame)) l' taken) :
    (l.parser.digest (stream l.line)).1.frames.head? = some frame := by
  rw [h.stream_eq deliver nofun]
  cases h with
  | complete _ digest _ feed =>
      rw [Parser.digest_append, Parser.digest_append, digest, Parser.digest_singleton feed]
      rfl

end Sweeps

theorem check_sweeps [LawfulSerialLine δ] (l : FrameLine δ) :
    ∃ taken, Sweeps l l.check.1 l.check.2 taken :=
  l.check_takes.sweeps

/-! ## Checks and readings in turn -/

/-- The line as a wait finds it at its check number `n`: behind the reading at which it
began, and behind `n` checks, each with a reading of the elapsed time. -/
def look (l : FrameLine δ) : Nat → FrameLine δ
  | 0 => { l with line := (SerialLine.millis l.line).2 }
  | n + 1 => { (look l n).check.2 with line := (SerialLine.millis (look l n).check.2.line).2 }

/-- What the clock shows at the reading before check number `n`. -/
def shown (l : FrameLine δ) : Nat → UInt32
  | 0 => (SerialLine.millis l.line).1
  | n + 1 => (SerialLine.millis (look l n).check.2.line).1

/-- The first `n` checks have found no frame, and no read has failed. -/
def Quiet (l : FrameLine δ) (n : Nat) : Prop :=
  ∀ k < n, (l.look k).check.1 = .ok none

/-- The clock shows the milliseconds `time`, modulo `2 ^ 32`, at those readings of a wait
that it comes to, and they advance from each reading to the next, though not too far. -/
structure Clocked (timeout : UInt32) (l : FrameLine δ) (time : Nat → Nat) : Prop where
  shows : ∀ n, l.Quiet n → l.shown n = UInt32.ofNat (time n)
  advances : ∀ n, 1 ≤ time (n + 1) - time n
  bounded : ∀ n, time (n + 1) - time n ≤ UInt32.size - timeout.toNat

theorem quiet_zero (l : FrameLine δ) : l.Quiet 0 :=
  nofun

theorem Quiet.succ {l : FrameLine δ} {n : Nat} (h : l.Quiet n)
    (hcheck : (l.look n).check.1 = .ok none) : l.Quiet (n + 1) := by
  intro k hk
  rcases Nat.lt_succ_iff_lt_or_eq.mp hk with hlt | rfl
  · exact h k hlt
  · exact hcheck

/-- While no frame is found, the bytes given are those of one long check. -/
theorem Quiet.given [LawfulSerialLine δ] {l : FrameLine δ} {n : Nat} (h : l.Quiet n) :
    ∃ taken broken, Gives l.line taken (l.look n).line ∧
      l.parser.digest taken = (⟨[], broken⟩, (l.look n).parser) := by
  induction n with
  | zero => exact ⟨[], 0, .millis (.refl l.line), rfl⟩
  | succ n ih =>
      obtain ⟨taken, broken, hgives, hdigest⟩ := ih fun k hk => h k (Nat.lt_succ_of_lt hk)
      obtain ⟨more, hsweeps⟩ := (l.look n).check_sweeps
      have hall := hsweeps.after hgives hdigest
      rw [h n (Nat.lt_succ_self n)] at hall
      generalize hnext : (l.look n).check.2 = next at hall
      rw [look, hnext]
      cases hall with
      | dry gives digest empty => exact ⟨_, _, gives.waiting.millis, digest⟩

namespace Clocked

variable {timeout : UInt32} {l : FrameLine δ} {time : Nat → Nat}

theorem le_time (h : l.Clocked timeout time) (n : Nat) : time 0 + n ≤ time n := by
  induction n with
  | zero => exact Nat.le_refl _
  | succ n ih =>
      have := h.advances n
      omega

/-- **The clock does not wrap past the timeout.** As long as the time was not over at one
reading, the next shows whether it is. -/
theorem elapsed_iff (h : l.Clocked timeout time) {n : Nat} (hquiet : l.Quiet (n + 1))
    (hearly : time n < time 0 + max 1 timeout.toNat) :
    timeout ≤ l.shown (n + 1) - l.shown 0 ↔ time 0 + timeout.toNat ≤ time (n + 1) := by
  have hstart := h.le_time n
  have hnext := h.advances n
  have hbound : time (n + 1) - time n ≤ 4294967296 - timeout.toNat := h.bounded n
  have htimeout := timeout.toNat_lt
  rw [h.shows (n + 1) hquiet, h.shows 0 l.quiet_zero, ← UInt32.ofNat_sub (by omega),
    UInt32.le_iff_toNat_le, UInt32.toNat_ofNat']
  omega

end Clocked

/-! ## The end of a wait -/

/-- How a wait ends after `reads` readings of the elapsed time, in which it was given the
bytes `taken`. -/
inductive WaitEnds (timeout : UInt32) (time : Nat → Nat) (l : FrameLine δ) (reads : Nat) :
    Except (FrameLineError ε) Frame → FrameLine δ → List UInt8 → Prop where
  /-- The time is over, and there is no frame; what there is of one is discarded. -/
  | timedOut {taken : List UInt8} (late : time 0 + timeout.toNat ≤ time reads)
      (gives : Gives l.line taken (l.look reads).line)
      (unfinished : (l.parser.digest taken).1.frames = []) :
      WaitEnds timeout time l reads (.error .timeout) (l.look reads).reset taken
  /-- Before that, a check gives the first frame, or fails. -/
  | answered {answer : Except (FrameLineError ε) Frame} {l' : FrameLine δ} {taken : List UInt8}
      (early : time reads < time 0 + max 1 timeout.toNat)
      (check : (l.look reads).check = (answer.map some, l'))
      (sweeps : Sweeps l (answer.map some) l' taken) : WaitEnds timeout time l reads answer l' taken

/-- A check never gives up. -/
theorem WaitEnds.of_timeout {timeout : UInt32} {time : Nat → Nat} {l l' : FrameLine δ}
    {reads : Nat} {taken : List UInt8}
    (h : WaitEnds timeout time l reads (.error .timeout) l' taken) :
    time 0 + timeout.toNat ≤ time reads ∧ l' = (l.look reads).reset := by
  cases h with
  | timedOut late _ _ => exact ⟨late, rfl⟩
  | answered _ _ sweeps => cases sweeps

variable [LawfulSerialLine δ] {timeout : UInt32} {l : FrameLine δ} {time : Nat → Nat}

/-- From any reading at which the time is not over. -/
theorem poll_ends (h : l.Clocked timeout time) {checks n : Nat} (hquiet : l.Quiet n)
    (hearly : time n < time 0 + max 1 timeout.toNat)
    (henough : time 0 + max 1 timeout.toNat ≤ time n + checks) :
    ∃ reads taken, reads ≤ max 1 timeout.toNat ∧ l.Quiet reads ∧
      WaitEnds timeout time l reads (poll timeout (l.shown 0) checks (l.look n)).1
        (poll timeout (l.shown 0) checks (l.look n)).2 taken := by
  induction checks generalizing n with
  | zero => omega
  | succ checks ih =>
      have hreads := h.le_time n
      obtain ⟨taken, broken, hgives, hdigest⟩ := hquiet.given
      obtain ⟨more, hsweeps⟩ := (l.look n).check_sweeps
      have hall := hsweeps.after hgives hdigest
      rcases hcheck : (l.look n).check with ⟨answer, l'⟩
      rw [hcheck] at hall
      unfold poll
      rw [hcheck]
      cases answer with
      | error e => exact ⟨n, _, by omega, hquiet, .answered hearly hcheck hall⟩
      | ok found =>
          cases found with
          | some frame => exact ⟨n, _, by omega, hquiet, .answered hearly hcheck hall⟩
          | none =>
              have hnext : l.Quiet (n + 1) := hquiet.succ (by rw [hcheck])
              have hlook : l.look (n + 1) = { l' with line := (SerialLine.millis l'.line).2 } := by
                rw [look, hcheck]
              have hshown : l.shown (n + 1) = (SerialLine.millis l'.line).1 := by
                rw [shown, hcheck]
              have hover := h.elapsed_iff hnext hearly
              rw [hshown] at hover
              have hadvance := h.advances n
              by_cases hlate : timeout ≤ (SerialLine.millis l'.line).1 - l.shown 0
              · obtain ⟨taken, broken, hgives, hdigest⟩ := hnext.given
                have hend := WaitEnds.timedOut (ε := ε) (hover.mp hlate) hgives (by rw [hdigest])
                rw [hlook] at hend
                simp only [SerialLine.elapsed, hlate, if_true]
                exact ⟨n + 1, taken, by omega, hnext, hend⟩
              · have hlater := mt hover.mpr hlate
                simp only [SerialLine.elapsed, hlate, if_false]
                rw [← hlook]
                exact ih hnext (by omega) (by omega)

/-- **A wait for a frame ends in time.** For every timeout, every line and every clock that
advances, between two readings of the wait, by at least one millisecond and at most what is
left of `2 ^ 32` over the timeout, there are at most `timeout` readings of the elapsed time,
or one. Behind every check before the last of them, nothing more was available, and no frame
was complete. Then the wait gives up because the time is over, with its parser between
frames; or its last check gives the first frame in the bytes delivered and takes none behind
it; or a read fails, and the parser keeps what it has. Of a line with a stream to deliver,
what was taken is the head of the stream, and the frame the first one in it. -/
theorem wait_ends_in_time (h : l.Clocked timeout time) :
    ∃ reads taken, reads ≤ max 1 timeout.toNat ∧
      (∀ k < reads, ∃ more, Sweeps (l.look k) (.ok none) (l.look k).check.2 more) ∧
      WaitEnds timeout time l reads (l.receive timeout).1 (l.receive timeout).2 taken ∧
      ∀ stream, Delivers stream → taken <+: stream l.line ∧
        ((∀ e, (l.receive timeout).1 ≠ .error (.line e)) →
          stream l.line = taken ++ stream (l.receive timeout).2.line) ∧
        ∀ frame, (l.receive timeout).1 = .ok frame →
          (l.parser.digest (stream l.line)).1.frames.head? = some frame := by
  have hearly : time 0 < time 0 + max 1 timeout.toNat := by omega
  have henough : time 0 + max 1 timeout.toNat ≤ time 0 + clockReadings := by
    have htimeout : timeout.toNat < clockReadings := timeout.toNat_lt
    have hsome : 1 < clockReadings := by decide
    omega
  obtain ⟨reads, taken, hreads, hquiet, hends⟩ := poll_ends h l.quiet_zero hearly henough
  refine ⟨reads, taken, hreads, ?_, hends, ?_⟩
  · intro k hk
    obtain ⟨more, hsweeps⟩ := (l.look k).check_sweeps
    rw [hquiet k hk] at hsweeps
    exact ⟨more, hsweeps⟩
  · intro stream deliver
    change WaitEnds timeout time l reads (l.receive timeout).1 (l.receive timeout).2 taken at hends
    generalize l.receive timeout = received at hends ⊢
    obtain ⟨answer, l'⟩ := received
    cases hends with
    | timedOut late gives unfinished =>
        have hstream := gives.stream_eq deliver
        exact ⟨⟨_, hstream.symm⟩, fun _ => hstream, nofun⟩
    | answered early check sweeps =>
        refine ⟨sweeps.isPrefix deliver, fun hline => sweeps.stream_eq deliver ?_, ?_⟩
        · intro error herror
          rw [herror] at sweeps
          cases sweeps with
          | failed _ _ _ =>
              cases answer with
              | error e =>
                  cases herror
                  exact hline _ rfl
              | ok frame => cases herror
        · rintro frame rfl
          exact sweeps.head?_frames deliver

end FrameLine

/-! ## A scripted line -/

namespace Script

theorem delivers : Delivers fun s : Script => s.holding.inbound where
  waiting s := by
    rw [holding_inbound, holding_inbound]
    change (s.received ++ (arrived s.clock s.arrivals).1) ++
      (arrived s.clock s.arrivals).2.flatMap (·.2) = _
    rw [List.append_assoc, arrived_append]
  millis s := by
    rw [holding_inbound, holding_inbound]
    rfl
  takeByte {s s' byte} read := by
    have hpasses : s.holding.Passes s.takeByte.2.holding [byte] [] :=
      takeByte_ok_passes (congrArg Prod.fst read)
    have hinbound := hpasses.inbound_eq
    rwa [show s.takeByte.2 = s' from congrArg Prod.snd read] at hinbound

theorem takeByte_clock (s : Script) :
    s.takeByte.2.clock = s.clock ∧ s.takeByte.2.tick = s.tick := by
  unfold takeByte
  split
  · exact ⟨rfl, rfl⟩
  · split <;> exact ⟨rfl, rfl⟩

end Script

namespace FrameLine

variable {l : FrameLine Script}

/-- A check does not read the clock. -/
theorem Takes.clock_eq {l' : FrameLine Script}
    {answer : Except (FrameLineError ScriptError) (Option Frame)} (h : Takes l answer l') :
    l'.line.clock = l.line.clock ∧ l'.line.tick = l.line.tick := by
  have hread {s line : Script} {answer : Except ScriptError UInt8}
      (read : SerialLine.takeByte (SerialLine.waiting s).2 = (answer, line)) :
      line.clock = s.clock ∧ line.tick = s.tick := by
    have hclock := Script.takeByte_clock s.waiting.2
    rwa [show s.waiting.2.takeByte.2 = line from congrArg Prod.snd read] at hclock
  induction h with
  | dry _ => exact ⟨rfl, rfl⟩
  | failed _ read => exact hread read
  | complete _ read _ => exact hread read
  | pending _ read _ _ ih => exact ⟨ih.1.trans (hread read).1, ih.2.trans (hread read).2⟩
  | broken _ read _ _ ih => exact ⟨ih.1.trans (hread read).1, ih.2.trans (hread read).2⟩

/-- One more tick, modulo `2 ^ 32`. -/
theorem ofNat_ticks (clock n : Nat) (tick : UInt32) :
    UInt32.ofNat (clock + (n + 1) * tick.toNat) = UInt32.ofNat (clock + n * tick.toNat) + tick := by
  rw [Nat.add_one_mul, ← Nat.add_assoc, UInt32.ofNat_add _ tick.toNat, UInt32.ofNat_toNat]

theorem look_clock (l : FrameLine Script) (n : Nat) :
    (l.look n).line.clock = UInt32.ofNat (l.line.clock.toNat + (n + 1) * l.line.tick.toNat) ∧
      (l.look n).line.tick = l.line.tick := by
  induction n with
  | zero =>
      rw [ofNat_ticks, Nat.zero_mul, Nat.add_zero, UInt32.ofNat_toNat]
      exact ⟨rfl, rfl⟩
  | succ n ih =>
      obtain ⟨hclock, htick⟩ := (l.look n).check_takes.clock_eq
      have hnext : (l.look (n + 1)).line.clock =
          (l.look n).check.2.line.clock + (l.look n).check.2.line.tick := rfl
      refine ⟨?_, htick.trans ih.2⟩
      rw [hnext, hclock, htick, ih.1, ih.2, ofNat_ticks _ (n + 1)]

theorem shown_eq (l : FrameLine Script) (n : Nat) :
    l.shown n = UInt32.ofNat (l.line.clock.toNat + n * l.line.tick.toNat) := by
  cases n with
  | zero =>
      rw [Nat.zero_mul, Nat.add_zero, UInt32.ofNat_toNat]
      rfl
  | succ n =>
      have hshown : l.shown (n + 1) = (l.look n).check.2.line.clock := rfl
      rw [hshown, (l.look n).check_takes.clock_eq.1, (l.look_clock n).1]

/-- The clock of a scripted line advances by its tick. -/
theorem clocked_of_tick {timeout : UInt32} (hadvance : 1 ≤ l.line.tick.toNat)
    (hbound : l.line.tick.toNat ≤ UInt32.size - timeout.toNat) :
    l.Clocked timeout fun n => l.line.clock.toNat + n * l.line.tick.toNat where
  shows n _ := l.shown_eq n
  advances n := by
    rw [Nat.add_one_mul]
    omega
  bounded n := by
    rw [Nat.add_one_mul]
    omega

/-- A frame that does not continue, shortly before the clock wraps. -/
def unfinished : FrameLine Script :=
  .new { Script.idle with
    received := [Frame.startByte, 5, 0], clock := 4294967293, tick := 3 }

/-- The wait is over behind the wrap, and nothing of the stream is lost. -/
theorem unfinished_times_out :
    (unfinished.receive 8).1 = .error .timeout ∧
      ∃ reads taken, reads ≤ 8 ∧ 8 ≤ reads * 3 ∧
        (unfinished.receive 8).2 = (unfinished.look reads).reset ∧
        [0x7b, 5, 0] = taken ++ (unfinished.receive 8).2.line.holding.inbound := by
  have hclocked : unfinished.Clocked 8 fun n => 4294967293 + n * 3 :=
    clocked_of_tick (by decide) (by decide)
  have htimeout : (unfinished.receive 8).1 = .error .timeout := rfl
  obtain ⟨reads, taken, hreads, -, hends, hstream⟩ := wait_ends_in_time hclocked
  obtain ⟨-, hrest, -⟩ := hstream _ Script.delivers
  rw [htimeout] at hends hrest
  obtain ⟨hlate, hline⟩ := hends.of_timeout
  have hlate : 4294967293 + 8 ≤ 4294967293 + reads * 3 := hlate
  exact ⟨htimeout, reads, taken, hreads, by omega, hline, hrest nofun⟩

end FrameLine

end XYStage
