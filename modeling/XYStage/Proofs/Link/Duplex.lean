/-
# XYStage.Proofs.Link.Duplex -- the two directions of a link do not touch

Both ends of a null modem send frames and check for frames, in any order. What one end
sends and the other takes is a `Lane`: the bytes on their way, and how far they have been
read. Whatever an end does is done to one lane and leaves the other as it was
(`Joined.perform_eq`), and a lane gives the frames that were put on it
(`Lane.Carries`).

The other end may act while a check goes on, between any two bytes. So a part of a check
is an action too, and a check that is interrupted is some parts and then a check.

Main statement: `directions_keep_order`, for every list of actions at both ends.
-/
import Mathlib.Data.List.Induction
import XYStage.Link.NullModem
import XYStage.Proofs.Link.Reception

namespace XYStage

set_option autoImplicit false

/-- What is done at an end of a null modem. -/
inductive ModemAction where
  | send (side : Side) (frame : Frame)
  | check (side : Side)
  /-- A check that takes at most so many bytes and may go on later. -/
  | part (side : Side) (budget : Nat)

/-- The end to which the bytes go that an action writes or takes. -/
def ModemAction.toward : ModemAction → Side
  | .send side _ => side.other
  | .check side => side
  | .part side _ => side

def ModemAction.sent : ModemAction → List Frame
  | .send _ frame => [frame]
  | _ => []

/-- The answer of an action; that a frame is sent gives no frame. -/
abbrev ModemAnswer := Except (FrameLineError EndpointError) (Option Frame)

namespace Joined

def perform : ModemAction → Joined → ModemAnswer × Joined
  | .send side frame, j =>
      let (answer, frames) := (j.frames side).send frame
      (answer.map fun _ => none, j.setFrames side frames)
  | .check side, j =>
      let (answer, frames) := (j.frames side).check
      (answer, j.setFrames side frames)
  | .part side budget, j =>
      let (answer, frames) := (j.frames side).take budget
      (answer, j.setFrames side frames)

/-- The link after actions, the first one first. -/
def after (actions : List ModemAction) (j : Joined) : Joined :=
  actions.foldl (fun j action => (j.perform action).2) j

/-- Actions with their answers. -/
def transcript : List ModemAction → Joined → List (ModemAction × ModemAnswer)
  | [], _ => []
  | action :: rest, j => (action, (j.perform action).1) :: transcript rest (j.perform action).2

@[simp] theorem after_append (actions : List ModemAction) (action : ModemAction) (j : Joined) :
    j.after (actions ++ [action]) = ((j.after actions).perform action).2 := by
  simp [after]

@[simp] theorem transcript_append (actions : List ModemAction) (action : ModemAction)
    (j : Joined) : j.transcript (actions ++ [action]) =
      j.transcript actions ++ [(action, ((j.after actions).perform action).1)] := by
  induction actions generalizing j with
  | nil => rfl
  | cons first rest ih =>
      simp only [List.cons_append, transcript, ih]
      rfl

end Joined

/-- The frames that actions sent to an end. -/
def sentTo (side : Side) (actions : List ModemAction) : List Frame :=
  (actions.filter (·.toward = side)).flatMap (·.sent)

/-- The frames that an end was given. -/
def givenTo (side : Side) (entries : List (ModemAction × ModemAnswer)) : List Frame :=
  (entries.filter (·.1.toward = side)).flatMap (FrameLine.returned ·.2)

theorem FrameLine.returned_ok {ε : Type} (frame : Option Frame) :
    returned (.ok frame : Except (FrameLineError ε) (Option Frame)) = frame.toList := by
  cases frame <;> rfl

theorem sentTo_append (side : Side) (actions : List ModemAction) (action : ModemAction) :
    sentTo side (actions ++ [action]) =
      sentTo side actions ++ if action.toward = side then action.sent else [] := by
  unfold sentTo
  by_cases h : action.toward = side
  · simp [h]
  · simp [h]

theorem givenTo_append (side : Side) (entries : List (ModemAction × ModemAnswer))
    (entry : ModemAction × ModemAnswer) :
    givenTo side (entries ++ [entry]) =
      givenTo side entries ++
        if entry.1.toward = side then FrameLine.returned entry.2 else [] := by
  unfold givenTo
  by_cases h : entry.1.toward = side
  · simp [h]
  · simp [h]

/-! ## One direction -/

/-- One direction of a link. -/
structure Lane where
  /-- Written at one end and not yet taken at the other, the oldest first. -/
  bytes : List UInt8
  /-- The reader of what has been taken. -/
  parser : Parser
  dropped : UInt32

namespace Lane

/-- Take at most `budget` bytes, up to the end of the first complete frame. -/
def take : Nat → Lane → Option Frame × Lane
  | 0, lane => (none, lane)
  | budget + 1, lane =>
      match lane.bytes with
      | [] => (none, lane)
      | byte :: rest =>
          match lane.parser.feed byte with
          | (.complete frame, parser) => (some frame, { lane with bytes := rest, parser })
          | (.pending, parser) => take budget { lane with bytes := rest, parser }
          | (.broken, parser) => take budget ⟨rest, parser, lane.dropped + 1⟩

def perform : ModemAction → Lane → Option Frame × Lane
  | .send _ frame, lane => (none, { lane with bytes := lane.bytes ++ frame.encode })
  | .check _, lane => lane.take (lane.bytes.length + 1)
  | .part _ budget, lane => lane.take budget

/-! ## What a lane gives -/

/-- What a lane gives is what its parser makes of the bytes taken. -/
theorem take_digest (budget : Nat) (lane : Lane) :
    ∃ taken broken, lane.bytes = taken ++ (lane.take budget).2.bytes ∧
      lane.parser.digest taken =
        (⟨(lane.take budget).1.toList, broken⟩, (lane.take budget).2.parser) ∧
      (lane.take budget).2.dropped = lane.dropped + UInt32.ofNat broken := by
  induction budget generalizing lane with
  | zero => exact ⟨[], 0, rfl, rfl, by simp [take]⟩
  | succ budget ih =>
      obtain ⟨bytes, parser, dropped⟩ := lane
      cases bytes with
      | nil => exact ⟨[], 0, rfl, rfl, by simp [take]⟩
      | cons byte rest =>
          cases hfeed : parser.feed byte with
          | mk outcome parser' =>
            cases outcome with
            | complete frame =>
                refine ⟨[byte], 0, ?_⟩
                simp only [take, hfeed]
                exact ⟨rfl, Parser.digest_singleton hfeed, by simp⟩
            | pending =>
                obtain ⟨taken, broken, hbytes, hdigest, hdropped⟩ := ih ⟨rest, parser', dropped⟩
                refine ⟨byte :: taken, broken, ?_⟩
                simp only [take, hfeed]
                refine ⟨congrArg (byte :: ·) hbytes, ?_, hdropped⟩
                rw [Parser.digest_cons, hfeed, hdigest]
                exact congrArg (·, _) (Reading.none_append _)
            | broken =>
                obtain ⟨taken, broken, hbytes, hdigest, hdropped⟩ :=
                  ih ⟨rest, parser', dropped + 1⟩
                refine ⟨byte :: taken, 1 + broken, ?_⟩
                simp only [take, hfeed]
                refine ⟨congrArg (byte :: ·) hbytes, ?_, ?_⟩
                · rw [Parser.digest_cons, hfeed, hdigest]
                  rfl
                · rw [hdropped, UInt32.ofNat_add, ← UInt32.add_assoc]
                  rfl

/-- Without a frame, a budget for every byte has taken them all. -/
theorem bytes_take_of_none {budget : Nat} {lane : Lane} (hbudget : lane.bytes.length < budget)
    (hnone : (lane.take budget).1 = none) : (lane.take budget).2.bytes = [] := by
  induction budget generalizing lane with
  | zero => omega
  | succ budget ih =>
      obtain ⟨bytes, parser, dropped⟩ := lane
      cases bytes with
      | nil => rfl
      | cons byte rest =>
          have hrest : rest.length < budget := Nat.lt_of_succ_lt_succ hbudget
          simp only [take] at hnone ⊢
          split at hnone
          · cases hnone
          · exact ih hrest hnone
          · exact ih hrest hnone

theorem digest_encoded (frames : List Frame) :
    Parser.digest (frames.flatMap Frame.encode) .outside = (⟨frames, 0⟩, .outside) := by
  induction frames with
  | nil => rfl
  | cons frame frames ih =>
      rw [List.flatMap_cons, Parser.digest_append, Parser.digest_encode, ih]
      exact congrArg (·, _) (by simp [Reading.ext_iff])

/-- The frames `sent` were put on the lane, and `given` have been taken from it. -/
structure Carries (sent given : List Frame) (lane : Lane) : Prop where
  taken : ∃ taken, sent.flatMap Frame.encode = taken ++ lane.bytes ∧
    Parser.digest taken .outside = (⟨given, 0⟩, lane.parser)
  dropped_eq : lane.dropped = 0

theorem carries_empty : Carries [] [] ⟨[], .outside, 0⟩ :=
  ⟨⟨[], rfl, rfl⟩, rfl⟩

section Carries

variable {sent given : List Frame} {lane : Lane}

theorem Carries.isPrefix (h : lane.Carries sent given) : given <+: sent := by
  obtain ⟨taken, hsent, hdigest⟩ := h.taken
  have hall := digest_encoded sent
  rw [hsent, Parser.digest_append, hdigest] at hall
  exact ⟨_, congrArg (·.1.frames) hall⟩

theorem Carries.eq_of_empty (h : lane.Carries sent given) (hempty : lane.bytes = []) :
    given = sent := by
  obtain ⟨taken, hsent, hdigest⟩ := h.taken
  have hall := digest_encoded sent
  rw [hsent, hempty, List.append_nil, hdigest] at hall
  exact congrArg (·.1.frames) hall

theorem Carries.send (h : lane.Carries sent given) (frame : Frame) :
    ({ lane with bytes := lane.bytes ++ frame.encode } : Lane).Carries (sent ++ [frame]) given where
  taken := by
    obtain ⟨taken, hsent, hdigest⟩ := h.taken
    refine ⟨taken, ?_, hdigest⟩
    simp [hsent]
  dropped_eq := h.dropped_eq

theorem Carries.take (h : lane.Carries sent given) (budget : Nat) :
    (lane.take budget).2.Carries sent (given ++ (lane.take budget).1.toList) := by
  obtain ⟨taken, hsent, hdigest⟩ := h.taken
  obtain ⟨more, broken, hbytes, hmore, hdropped⟩ := lane.take_digest budget
  have htaken : Parser.digest (taken ++ more) .outside =
      (⟨given ++ (lane.take budget).1.toList, 0 + broken⟩, (lane.take budget).2.parser) := by
    rw [Parser.digest_append, hdigest, hmore]
    rfl
  rw [hbytes, ← List.append_assoc] at hsent
  have hall := digest_encoded sent
  rw [hsent, Parser.digest_append, htaken] at hall
  -- Nothing is dropped from the whole, so nothing is from its beginning.
  have hnone : broken = 0 := by
    have hsum := congrArg (·.1.dropped) hall
    simp only [Reading.dropped_append] at hsum
    omega
  rw [hnone] at htaken hdropped
  exact ⟨⟨taken ++ more, hsent, htaken⟩, by rw [hdropped, h.dropped_eq]; rfl⟩

/-- **One action.** -/
theorem Carries.perform (h : lane.Carries sent given) (action : ModemAction) :
    (lane.perform action).2.Carries (sent ++ action.sent)
      (given ++ (lane.perform action).1.toList) := by
  cases action with
  | send side frame =>
      show Carries (sent ++ [frame]) (given ++ []) _
      rw [List.append_nil]
      exact h.send frame
  | check side =>
      show Carries (sent ++ []) _ _
      rw [List.append_nil]
      exact h.take _
  | part side budget =>
      show Carries (sent ++ []) _ _
      rw [List.append_nil]
      exact h.take budget

end Carries

end Lane

/-! ## Both directions -/

/-- The direction toward an end, from its line of frames. -/
def FrameLine.lane {side : Side} (l : FrameLine (Endpoint side)) : Lane :=
  ⟨l.line.state.received, l.parser, l.dropped⟩

def FrameLine.withLane {side : Side} (lane : Lane) (l : FrameLine (Endpoint side)) :
    FrameLine (Endpoint side) :=
  ⟨l.line.modify fun s => { s with received := lane.bytes }, lane.parser, lane.dropped⟩

section Lane

variable {side : Side} (l : FrameLine (Endpoint side))

@[simp] theorem FrameLine.lane_withLane (lane : Lane) : (l.withLane lane).lane = lane := by
  cases side <;> rfl

@[simp] theorem FrameLine.withLane_lane : l.withLane l.lane = l := by
  cases side <;> rfl

@[simp] theorem FrameLine.withLane_withLane (lane later : Lane) :
    (l.withLane lane).withLane later = l.withLane later := by
  cases side <;> rfl

theorem FrameLine.isOpen_withLane (lane : Lane) :
    (l.withLane lane).line.state.isOpen = l.line.state.isOpen := by
  cases side <;> rfl

/-- An open end has the oldest byte of its lane to read. -/
theorem FrameLine.takeByte_lane {byte : UInt8} {rest : List UInt8}
    (hopen : l.line.state.isOpen = true) (hbytes : l.lane.bytes = byte :: rest) :
    SerialLine.takeByte l.line =
      (.ok byte, l.line.modify fun s => { s with received := rest }) := by
  have hreceived : l.line.state.received = byte :: rest := hbytes
  simp only [SerialLine.takeByte, Endpoint.takeByte, hopen, if_true, hreceived]

/-- Nothing is waiting. -/
theorem FrameLine.take_of_nil (budget : Nat) (hbytes : l.lane.bytes = []) :
    l.take (budget + 1) = (.ok none, l) := by
  have hreceived : l.line.state.received = [] := hbytes
  simp only [take, SerialLine.waiting, hreceived, List.length_nil, if_true]

/-- A byte is waiting at an open end. -/
theorem FrameLine.take_of_cons (budget : Nat) {byte : UInt8} {rest : List UInt8}
    (hopen : l.line.state.isOpen = true) (hbytes : l.lane.bytes = byte :: rest) :
    l.take (budget + 1) =
      match l.parser.feed byte with
      | (.complete frame, parser) => (.ok (some frame), l.withLane ⟨rest, parser, l.dropped⟩)
      | (.pending, parser) => (l.withLane ⟨rest, parser, l.dropped⟩).take budget
      | (.broken, parser) => (l.withLane ⟨rest, parser, l.dropped + 1⟩).take budget := by
  have hreceived : l.line.state.received = byte :: rest := hbytes
  have hwaiting : SerialLine.waiting l.line = (rest.length + 1, l.line) := by
    simp only [SerialLine.waiting, hreceived, List.length_cons]
  simp only [take, hwaiting, Nat.succ_ne_zero, if_false, l.takeByte_lane hopen hbytes]
  rfl

end Lane

/-- **An open end takes from its lane**, and changes nothing else of the link. -/
theorem FrameLine.take_lane {side : Side} (budget : Nat) {l : FrameLine (Endpoint side)}
    (hopen : l.line.state.isOpen = true) :
    l.take budget = (.ok (l.lane.take budget).1, l.withLane (l.lane.take budget).2) := by
  induction budget generalizing l with
  | zero => exact congrArg (Except.ok none, ·) l.withLane_lane.symm
  | succ budget ih =>
      cases hbytes : l.lane.bytes with
      | nil =>
          rw [l.take_of_nil budget hbytes]
          simp only [Lane.take, hbytes, withLane_lane]
      | cons byte rest =>
          have hnext (lane : Lane) := ih ((l.isOpen_withLane lane).trans hopen)
          simp only [lane_withLane, withLane_withLane] at hnext
          rw [l.take_of_cons budget hopen hbytes]
          simp only [Lane.take, hbytes, hnext]
          cases hfeed : l.parser.feed byte with
          | mk outcome parser =>
            have hlane : l.lane.parser.feed byte = (outcome, parser) := hfeed
            rw [hlane]
            cases outcome with
            | complete frame => rfl
            | pending => rfl
            | broken => rfl

/-- A frame goes whole into an open link that limits no writes. -/
theorem FrameLine.send_endpoint {side : Side} {l : FrameLine (Endpoint side)}
    (hopen : l.line.state.isOpen = true) (hbound : l.line.state.writeBound = none)
    (frame : Frame) :
    l.send frame = (.ok (), { l with line := ⟨l.line.link.modify side.other fun s =>
      { s with received := s.received ++ frame.encode }⟩ }) := by
  have hwrite : SerialLine.write frame.encode l.line = (.ok frame.encode.length,
      ⟨l.line.link.modify side.other fun s =>
        { s with received := s.received ++ frame.encode }⟩) := by
    simp only [SerialLine.write, Endpoint.write, hopen, if_true, hbound, Option.getD_none,
      List.take_length]
  simp only [send, hwrite, frame.length_encode, if_true]

namespace Joined

/-- The direction toward an end. -/
def lane (side : Side) (j : Joined) : Lane :=
  (j.frames side).lane

/-- Replace the direction toward an end. -/
def withLane (side : Side) (lane : Lane) (j : Joined) : Joined :=
  j.setFrames side ((j.frames side).withLane lane)

theorem lane_withLane (side other : Side) (lane : Lane) (j : Joined) :
    (j.withLane side lane).lane other = if side = other then lane else j.lane other := by
  cases side <;> cases other <;> rfl

/-- Both ends are open, and neither limits its writes. -/
def Clear (j : Joined) : Prop :=
  ∀ side, (j.link.get side).isOpen = true ∧ (j.link.get side).writeBound = none

theorem clear_new : new.Clear := by
  intro side
  cases side with
  | a => exact ⟨rfl, rfl⟩
  | b => exact ⟨rfl, rfl⟩

theorem Clear.withLane {j : Joined} (h : j.Clear) (side : Side) (lane : Lane) :
    (j.withLane side lane).Clear := by
  intro other
  have hother := h other
  cases side <;> cases other <;> exact hother

theorem Clear.isOpen {j : Joined} (h : j.Clear) (side : Side) :
    (j.frames side).line.state.isOpen = true := by
  cases side with
  | a => exact (h .a).1
  | b => exact (h .b).1

theorem Clear.writeBound {j : Joined} (h : j.Clear) (side : Side) :
    (j.frames side).line.state.writeBound = none := by
  cases side with
  | a => exact (h .a).2
  | b => exact (h .b).2

/-- **Whatever an end does is done to one lane**, and it does not fail. -/
theorem perform_eq {j : Joined} (h : j.Clear) (action : ModemAction) :
    j.perform action = (.ok ((j.lane action.toward).perform action).1,
      j.withLane action.toward ((j.lane action.toward).perform action).2) := by
  cases action with
  | send side frame =>
      simp only [perform, FrameLine.send_endpoint (h.isOpen side) (h.writeBound side)]
      cases side <;> rfl
  | check side =>
      simp only [perform, FrameLine.check, FrameLine.take_lane _ (h.isOpen side)]
      rfl
  | part side budget =>
      simp only [perform, FrameLine.take_lane _ (h.isOpen side)]
      rfl

theorem Clear.perform {j : Joined} (h : j.Clear) (action : ModemAction) :
    (j.perform action).2.Clear := by
  rw [perform_eq h action]
  exact h.withLane _ _

theorem Clear.after {j : Joined} (h : j.Clear) (actions : List ModemAction) :
    (j.after actions).Clear := by
  induction actions generalizing j with
  | nil => exact h
  | cons action rest ih => exact ih (h.perform action)

theorem lane_perform {j : Joined} (h : j.Clear) (action : ModemAction) (side : Side) :
    (j.perform action).2.lane side =
      if action.toward = side then ((j.lane side).perform action).2 else j.lane side := by
  rw [perform_eq h action, lane_withLane]
  split
  · next hside => rw [hside]
  · rfl

/-! ## Every list of actions -/

/-- Each direction carries the frames that were sent into it. -/
theorem carries_after (actions : List ModemAction) (side : Side) :
    ((new.after actions).lane side).Carries (sentTo side actions)
      (givenTo side (new.transcript actions)) := by
  induction actions using List.reverseRecOn with
  | nil => cases side <;> exact Lane.carries_empty
  | append_singleton actions action ih =>
      have hclear := clear_new.after actions
      rw [after_append, transcript_append, sentTo_append, givenTo_append,
        lane_perform hclear action side, perform_eq hclear action]
      by_cases hside : action.toward = side
      · have hstep := ih.perform action
        rw [← FrameLine.returned_ok] at hstep
        simpa only [hside, if_true] using hstep
      · simpa only [hside, if_false, List.append_nil] using ih

/-- Nothing fails. -/
theorem answers_ok (actions : List ModemAction) {j : Joined} (h : j.Clear) :
    ∀ entry ∈ j.transcript actions, ∃ frame, entry.2 = .ok frame := by
  induction actions generalizing j with
  | nil => exact nofun
  | cons action rest ih =>
      intro entry hmem
      rcases List.mem_cons.mp hmem with rfl | hlater
      · exact ⟨_, congrArg Prod.fst (perform_eq h action)⟩
      · exact ih (h.perform action) entry hlater

/-- **A direction is what it is without the other.** -/
theorem filter_transcript (side : Side) (actions : List ModemAction) {j k : Joined}
    (hj : j.Clear) (hk : k.Clear) (hlane : k.lane side = j.lane side) :
    k.transcript (actions.filter (·.toward = side)) =
        (j.transcript actions).filter (·.1.toward = side) ∧
      (k.after (actions.filter (·.toward = side))).lane side = (j.after actions).lane side := by
  induction actions generalizing j k with
  | nil => exact ⟨rfl, hlane⟩
  | cons action rest ih =>
      have hnext := lane_perform hj action side
      by_cases hside : action.toward = side
      · have hsame := lane_perform hk action side
        rw [if_pos hside] at hnext hsame
        have hanswer : (k.perform action).1 = (j.perform action).1 := by
          rw [perform_eq hj, perform_eq hk, hside, hlane]
        obtain ⟨hlog, hafter⟩ := ih (hj.perform action) (hk.perform action)
          (by rw [hnext, hsame, hlane])
        rw [List.filter_cons_of_pos (by simpa using hside)]
        refine ⟨?_, hafter⟩
        rw [transcript, transcript, List.filter_cons_of_pos (by simpa using hside), hlog, hanswer]
      · rw [if_neg hside] at hnext
        obtain ⟨hlog, hafter⟩ := ih (hj.perform action) hk (by rw [hnext, hlane])
        rw [List.filter_cons_of_neg (by simpa using hside)]
        refine ⟨?_, hafter⟩
        rw [hlog, transcript, List.filter_cons_of_neg (by simpa using hside)]

end Joined

/-- **Each direction of a link keeps its frames in order, whatever the other does.** Of
whatever is done at the two ends of a null modem, in any order: the frames given to an
end are the first of those that the other end has sent to it, and all of them if a check
now finds no frame; no action fails and no frame is dropped; and with everything left
out that concerns the other direction, this one's answers are the same, and so is what is
left in it. -/
theorem directions_keep_order (actions : List ModemAction) (side : Side) :
    let j := Joined.new.after actions
    let log := Joined.new.transcript actions
    let alone := actions.filter (·.toward = side)
    givenTo side log <+: sentTo side actions ∧
    ((j.perform (.check side)).1 = .ok none → givenTo side log = sentTo side actions) ∧
    (∀ entry ∈ log, ∀ error, entry.2 ≠ .error error) ∧
    (j.frames side).dropped = 0 ∧
    Joined.new.transcript alone = log.filter (·.1.toward = side) ∧
    (Joined.new.after alone).lane side = j.lane side := by
  intro j log alone
  have hclear := Joined.clear_new.after actions
  have hcarries : (j.lane side).Carries (sentTo side actions) (givenTo side log) :=
    Joined.carries_after actions side
  refine ⟨hcarries.isPrefix, fun hnone => ?drained, fun entry hmem error herror => ?answered,
    hcarries.dropped_eq,
    Joined.filter_transcript side actions Joined.clear_new Joined.clear_new rfl⟩
  case drained =>
    rw [Joined.perform_eq hclear] at hnone
    have hframe : ((j.lane side).take ((j.lane side).bytes.length + 1)).1 = none :=
      Except.ok.inj hnone
    have hafter := hcarries.take ((j.lane side).bytes.length + 1)
    rw [hframe, Option.toList_none, List.append_nil] at hafter
    exact hafter.eq_of_empty (Lane.bytes_take_of_none (Nat.lt_succ_self _) hframe)
  case answered =>
    obtain ⟨frame, hok⟩ := Joined.answers_ok actions Joined.clear_new entry hmem
    rw [herror] at hok
    cases hok

end XYStage
