/-
# XYStage.Proofs.Link.Lossless -- a line that loses nothing

A `LosslessLine` takes whatever is written to it and gives out every byte that was
sent to it, in order. Bytes may arrive at any of its operations, in any portions;
a read that fails takes none. `Passes d d' taken written` says what went through
the line between two of its states.

`Takes` is a check for a frame without its budget of bytes: one constructor for
each way in which the next byte can be taken, or not.

Main statement: what a check takes, the parser has taken from the line, and
nothing else has gone through (`FrameLine.check_took`).
-/
import XYStage.Proofs.Link.Reception

namespace XYStage

set_option autoImplicit false

/-- A line with its bytes on either way. -/
structure Held where
  /-- Received and not yet taken, the oldest first. -/
  unread : List UInt8
  /-- On the way here. -/
  coming : List UInt8
  /-- Written and not yet taken at the other end. -/
  outbound : List UInt8

namespace Held

/-- Everything that is still to be taken. -/
def inbound (h : Held) : List UInt8 :=
  h.unread ++ h.coming

/-- Bytes `taken` here and bytes `written` here, and nothing else. -/
structure Passes (before after : Held) (taken written : List UInt8) : Prop where
  inbound_eq : before.inbound = taken ++ after.inbound
  outbound_eq : after.outbound = before.outbound ++ written

theorem Passes.refl (h : Held) : Passes h h [] [] :=
  ⟨rfl, (List.append_nil _).symm⟩

theorem Passes.trans {a b c : Held} {taken written more further : List UInt8}
    (first : Passes a b taken written) (second : Passes b c more further) :
    Passes a c (taken ++ more) (written ++ further) where
  inbound_eq := by rw [first.inbound_eq, second.inbound_eq, List.append_assoc]
  outbound_eq := by rw [second.outbound_eq, first.outbound_eq, List.append_assoc]

end Held

/-- A line that can tell what it holds, and loses none of it. -/
class LosslessLine (δ : Type) (ε : outParam Type) [SerialLine δ ε] where
  held : δ → Held
  waiting_passes : ∀ d, (held d).Passes (held (SerialLine.waiting d).2) [] []
  waiting_eq_zero : ∀ d, (SerialLine.waiting d).1 = 0 →
    (held (SerialLine.waiting d).2).unread = []
  takeByte_passes : ∀ d byte, (SerialLine.takeByte d).1 = .ok byte →
    (held d).Passes (held (SerialLine.takeByte d).2) [byte] []
  /-- A read that fails takes nothing. -/
  takeByte_error : ∀ d e, (SerialLine.takeByte d).1 = .error e →
    (held d).Passes (held (SerialLine.takeByte d).2) [] []
  /-- A write is accepted in full. -/
  write_ok : ∀ (d : δ) bytes, (SerialLine.write bytes d).1 = .ok bytes.length
  write_passes : ∀ (d : δ) bytes, (held d).Passes (held (SerialLine.write bytes d).2) [] bytes
  millis_passes : ∀ d, (held d).Passes (held (SerialLine.millis d).2) [] []

open LosslessLine (held)

/-! ## A scripted line that accepts every write -/

namespace Script

/-- No write to this line fails or is cut short. -/
def Accepts (s : Script) : Prop :=
  s.failWrite = false ∧ s.writeBound = none

/-- What the line holds at its present clock. -/
def holding (s : Script) : Held where
  unread := s.received ++ (arrived s.clock s.arrivals).1
  coming := (arrived s.clock s.arrivals).2.flatMap (·.2)
  outbound := s.sent

theorem holding_inbound (s : Script) :
    s.holding.inbound = s.received ++ s.arrivals.flatMap (·.2) := by
  rw [Held.inbound, holding, List.append_assoc, arrived_append]

theorem takeByte_accepts {s : Script} (h : s.Accepts) : s.takeByte.2.Accepts := by
  unfold takeByte
  split
  · exact h
  · split
    · exact h
    · exact h

theorem takeByte_ok_passes {s : Script} {byte : UInt8} (h : s.takeByte.1 = .ok byte) :
    s.holding.Passes s.takeByte.2.holding [byte] [] := by
  unfold takeByte at h ⊢
  split at h
  · cases h
  · next hfail =>
    rw [if_neg hfail]
    split at h
    · cases h
    · next first rest hreceived =>
      cases h
      refine ⟨?_, (List.append_nil _).symm⟩
      simp only [holding_inbound, hreceived, List.cons_append, List.nil_append]

theorem takeByte_error_passes {s : Script} {e : ScriptError} (h : s.takeByte.1 = .error e) :
    s.holding.Passes s.takeByte.2.holding [] [] := by
  unfold takeByte at h ⊢
  split
  · exact .refl _
  · next hfail =>
    rw [if_neg hfail] at h
    split at h
    · exact .refl _
    · cases h

theorem write_eq {s : Script} (h : s.Accepts) (bytes : List UInt8) :
    s.write bytes = (.ok bytes.length, { s with sent := s.sent ++ bytes }) := by
  unfold write
  simp only [h.1, h.2, Bool.false_eq_true, if_false, Option.getD_none, List.take_length]

end Script

/-- A scripted line whose writes are all accepted. -/
abbrev AcceptingScript := { s : Script // s.Accepts }

namespace AcceptingScript

instance : SerialLine AcceptingScript ScriptError where
  openAt rate s := (.ok (), ⟨{ s.val with baudRate := some rate }, s.property⟩)
  waiting s := (s.val.waiting.1, ⟨s.val.waiting.2, s.property⟩)
  takeByte s := (s.val.takeByte.1, ⟨s.val.takeByte.2, Script.takeByte_accepts s.property⟩)
  write bytes s := ((s.val.write bytes).1, ⟨(s.val.write bytes).2, by
    rw [Script.write_eq s.property]
    exact s.property⟩)
  close s := ⟨{ s.val with baudRate := none }, s.property⟩
  millis s := (s.val.clock, ⟨{ s.val with clock := s.val.clock + s.val.tick }, s.property⟩)
  backlog s := SerialLine.backlog s.val

instance : LawfulSerialLine AcceptingScript where
  backlog_lt s := LawfulSerialLine.backlog_lt s.val

instance : LosslessLine AcceptingScript ScriptError where
  held s := s.val.holding
  waiting_passes s := by
    refine ⟨?_, (List.append_nil _).symm⟩
    rw [Script.holding_inbound, Script.holding_inbound]
    show _ = (s.val.received ++ (Script.arrived s.val.clock s.val.arrivals).1) ++
      (Script.arrived s.val.clock s.val.arrivals).2.flatMap (·.2)
    rw [List.append_assoc, Script.arrived_append]
  waiting_eq_zero s h := by
    have hreceived : s.val.waiting.2.received = [] := List.length_eq_zero_iff.mp h
    show s.val.waiting.2.received ++ (Script.arrived s.val.clock s.val.waiting.2.arrivals).1 = []
    rw [hreceived, List.nil_append]
    exact Script.arrived_arrived s.val.clock s.val.arrivals
  takeByte_passes s _ h := Script.takeByte_ok_passes (s := s.val) h
  takeByte_error s _ h := Script.takeByte_error_passes (s := s.val) h
  write_ok s bytes := congrArg Prod.fst (Script.write_eq s.property bytes)
  write_passes s bytes := by
    show s.val.holding.Passes (s.val.write bytes).2.holding [] bytes
    rw [Script.write_eq s.property]
    exact ⟨rfl, rfl⟩
  millis_passes s := by
    refine ⟨?_, (List.append_nil _).symm⟩
    rw [Script.holding_inbound, Script.holding_inbound]
    rfl

end AcceptingScript

namespace FrameLine

variable {δ ε : Type} [SerialLine δ ε]

/-! ## A check without its budget -/

/-- What a check comes to, byte by byte. -/
inductive Takes :
    FrameLine δ → Except (FrameLineError ε) (Option Frame) → FrameLine δ → Prop where
  | dry {l : FrameLine δ} (empty : (SerialLine.waiting l.line).1 = 0) :
      Takes l (.ok none) { l with line := (SerialLine.waiting l.line).2 }
  | failed {l : FrameLine δ} (ready : (SerialLine.waiting l.line).1 ≠ 0) {e : ε} {line : δ}
      (read : SerialLine.takeByte (SerialLine.waiting l.line).2 = (.error e, line)) :
      Takes l (.error (.line e)) { l with line }
  | complete {l : FrameLine δ} (ready : (SerialLine.waiting l.line).1 ≠ 0) {byte : UInt8}
      {line : δ} (read : SerialLine.takeByte (SerialLine.waiting l.line).2 = (.ok byte, line))
      {frame : Frame} {parser : Parser} (feed : l.parser.feed byte = (.complete frame, parser)) :
      Takes l (.ok (some frame)) { l with line, parser }
  | pending {l : FrameLine δ} (ready : (SerialLine.waiting l.line).1 ≠ 0) {byte : UInt8}
      {line : δ} (read : SerialLine.takeByte (SerialLine.waiting l.line).2 = (.ok byte, line))
      {parser : Parser} (feed : l.parser.feed byte = (.pending, parser))
      {answer : Except (FrameLineError ε) (Option Frame)} {l' : FrameLine δ}
      (later : Takes { l with line, parser } answer l') : Takes l answer l'
  | broken {l : FrameLine δ} (ready : (SerialLine.waiting l.line).1 ≠ 0) {byte : UInt8}
      {line : δ} (read : SerialLine.takeByte (SerialLine.waiting l.line).2 = (.ok byte, line))
      {parser : Parser} (feed : l.parser.feed byte = (.broken, parser))
      {answer : Except (FrameLineError ε) (Option Frame)} {l' : FrameLine δ}
      (later : Takes ⟨line, parser, l.dropped + 1⟩ answer l') : Takes l answer l'

/-- A budget above the backlog is never used up. -/
theorem take_takes [LawfulSerialLine δ] {budget : Nat} {l : FrameLine δ}
    (h : SerialLine.backlog l.line < budget) : Takes l (l.take budget).1 (l.take budget).2 := by
  induction budget generalizing l with
  | zero => omega
  | succ budget ih =>
      by_cases hdry : (SerialLine.waiting l.line).1 = 0
      · simp only [take, hdry, if_true]
        exact .dry hdry
      · cases hread : SerialLine.takeByte (SerialLine.waiting l.line).2 with
        | mk answer line =>
          cases answer with
          | error e =>
              simp only [take, hdry, if_false, hread]
              exact .failed hdry hread
          | ok byte =>
              have hlt := LawfulSerialLine.backlog_lt l.line byte hdry (by rw [hread])
              rw [hread] at hlt
              have hnext : SerialLine.backlog line < budget :=
                Nat.lt_of_lt_of_le hlt (Nat.le_of_lt_succ h)
              cases hfeed : l.parser.feed byte with
              | mk outcome parser =>
                cases outcome with
                | complete frame =>
                    simp only [take, hdry, if_false, hread, hfeed]
                    exact .complete hdry hread hfeed
                | pending =>
                    simp only [take, hdry, if_false, hread, hfeed]
                    exact .pending hdry hread hfeed (ih hnext)
                | broken =>
                    simp only [take, hdry, if_false, hread, hfeed]
                    exact .broken hdry hread hfeed (ih hnext)

theorem check_takes [LawfulSerialLine δ] (l : FrameLine δ) : Takes l l.check.1 l.check.2 :=
  take_takes (Nat.lt_succ_self _)

/-- A write that is accepted in full sends its frame. -/
theorem send_of_accepted {frame : Frame} {l : FrameLine δ}
    (h : (SerialLine.write frame.encode l.line).1 = .ok frame.encode.length) :
    l.send frame = (.ok (), { l with line := (SerialLine.write frame.encode l.line).2 }) := by
  rcases hwrite : SerialLine.write frame.encode l.line with ⟨answer, line⟩
  rw [hwrite] at h
  obtain rfl : answer = .ok frame.encode.length := h
  simp only [send, hwrite, frame.length_encode, if_true]

/-! ## What a check takes -/

variable [LosslessLine δ ε]

/-- A check that takes the bytes `taken`. -/
structure Took (l : FrameLine δ) (answer : Except (FrameLineError ε) (Option Frame))
    (l' : FrameLine δ) (taken : List UInt8) : Prop where
  passes : (held l.line).Passes (held l'.line) taken []
  digested : ∃ broken, l.parser.digest taken = (⟨returned answer, broken⟩, l'.parser)
  /-- Without a frame, everything that has arrived has been taken. -/
  drained : answer = .ok none → (held l'.line).unread = []
  failed : ∀ error, answer = .error error → ∃ cause, error = .line cause

/-- A byte that completes no frame, and then what a check does. -/
theorem Took.cons {l l₁ l' : FrameLine δ} {answer : Except (FrameLineError ε) (Option Frame)}
    {taken : List UInt8} {byte : UInt8} {more : Nat} (h : Took l₁ answer l' taken)
    (passes : (held l.line).Passes (held l₁.line) [byte] [])
    (digest : l.parser.digest [byte] = (⟨[], more⟩, l₁.parser)) :
    Took l answer l' (byte :: taken) where
  passes := passes.trans h.passes
  digested := by
    obtain ⟨broken, hdigest⟩ := h.digested
    refine ⟨more + broken, ?_⟩
    rw [← List.singleton_append, Parser.digest_append, digest, hdigest]
    rfl
  drained := h.drained
  failed := h.failed

/-- A byte that is waiting is taken from the line. -/
theorem read_passes {d line : δ} {byte : UInt8}
    (read : SerialLine.takeByte (SerialLine.waiting d).2 = (.ok byte, line)) :
    (held d).Passes (held line) [byte] [] := by
  have htake := LosslessLine.takeByte_passes (SerialLine.waiting d).2 byte (by rw [read])
  rw [read] at htake
  exact (LosslessLine.waiting_passes d).trans htake

theorem Takes.took {l l' : FrameLine δ} {answer : Except (FrameLineError ε) (Option Frame)}
    (h : Takes l answer l') : ∃ taken, Took l answer l' taken := by
  induction h with
  | @dry l empty =>
      refine ⟨[], LosslessLine.waiting_passes l.line, ⟨0, rfl⟩, ?_, nofun⟩
      intro _
      exact LosslessLine.waiting_eq_zero l.line empty
  | @failed l _ e line read =>
      have hfail := LosslessLine.takeByte_error (SerialLine.waiting l.line).2 e (by rw [read])
      rw [read] at hfail
      refine ⟨[], (LosslessLine.waiting_passes l.line).trans hfail, ⟨0, rfl⟩, nofun, ?_⟩
      rintro _ ⟨⟩
      exact ⟨e, rfl⟩
  | complete _ read feed =>
      exact ⟨_, read_passes read, ⟨0, Parser.digest_singleton feed⟩, nofun, nofun⟩
  | pending _ read feed _ ih =>
      obtain ⟨taken, htook⟩ := ih
      exact ⟨_, htook.cons (read_passes read) (Parser.digest_singleton feed)⟩
  | broken _ read feed _ ih =>
      obtain ⟨taken, htook⟩ := ih
      exact ⟨_, htook.cons (read_passes read) (Parser.digest_singleton feed)⟩

/-- **What a check takes, its parser has taken**, and its answer is the frame in it. -/
theorem check_took [LawfulSerialLine δ] (l : FrameLine δ) :
    ∃ taken, Took l l.check.1 l.check.2 taken :=
  l.check_takes.took

/-- Something that only lets bytes arrive before a check. -/
theorem Took.after {l l' : FrameLine δ} {line : δ}
    {answer : Except (FrameLineError ε) (Option Frame)} {taken : List UInt8}
    (before : (held l.line).Passes (held line) [] [])
    (h : Took { l with line } answer l' taken) : Took l answer l' taken where
  passes := before.trans h.passes
  digested := h.digested
  drained := h.drained
  failed := h.failed

/-- A frame goes out whole. -/
theorem send_passes (frame : Frame) (l : FrameLine δ) :
    ∃ line, l.send frame = (.ok (), { l with line }) ∧
      (held l.line).Passes (held line) [] frame.encode :=
  ⟨_, send_of_accepted (LosslessLine.write_ok l.line frame.encode),
    LosslessLine.write_passes l.line frame.encode⟩

end FrameLine

end XYStage
