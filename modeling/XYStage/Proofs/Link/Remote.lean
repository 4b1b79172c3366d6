/-
# XYStage.Proofs.Link.Remote -- the device as its host sees it through the link

A link is two pipes. `Port` is the device's end of both, `Remote` the host's end
with the device behind it. Before each operation of the host anything may happen at
the device that is scheduled for it: iterations of the control loop, events of the
axes, a change of the devices under the controller, and the arrival of any number
of bytes at either end; more may arrive at the device before each operation of an
iteration. Both clocks show what they like.

An iteration is one happening: what the host writes meanwhile may as well have been
written before, since bytes can arrive in the middle of the iteration, and what it
reads meanwhile may as well be read afterwards, since the iteration has taken its
frame before it writes.

Main statement: whatever happens before an operation, what the host can still
receive stays bounded by the bytes on the link and the iterations to come
(`Remote.advance_backlog`).
-/
import XYStage.Link.NullModem
import XYStage.Proofs.Controller.Attention

namespace XYStage

set_option autoImplicit false

/-! ## Pipes -/

/-- Bytes from one end of a link to the other. -/
structure Pipe where
  /-- At the far end and not yet taken, the oldest first. -/
  arrived : List UInt8
  /-- Written and not yet at the far end. -/
  underway : List UInt8

namespace Pipe

def empty : Pipe := ⟨[], []⟩

def content (p : Pipe) : List UInt8 :=
  p.arrived ++ p.underway

def write (bytes : List UInt8) (p : Pipe) : Pipe :=
  { p with underway := p.underway ++ bytes }

/-- So many more bytes arrive, or all that are under way. -/
def deliver (count : Nat) (p : Pipe) : Pipe :=
  ⟨p.arrived ++ p.underway.take count, p.underway.drop count⟩

/-- Take the oldest byte, if one has arrived. -/
def takeByte (p : Pipe) : Except EndpointError UInt8 × Pipe :=
  match p.arrived with
  | [] => (.error .empty, p)
  | byte :: rest => (.ok byte, { p with arrived := rest })

@[simp] theorem content_write (bytes : List UInt8) (p : Pipe) :
    (p.write bytes).content = p.content ++ bytes := by
  simp only [content, write, List.append_assoc]

@[simp] theorem content_deliver (count : Nat) (p : Pipe) :
    (p.deliver count).content = p.content := by
  simp only [content, deliver, List.append_assoc, List.take_append_drop]

theorem content_takeByte {p : Pipe} {byte : UInt8} (h : p.takeByte.1 = .ok byte) :
    p.content = byte :: p.takeByte.2.content := by
  unfold takeByte at h ⊢
  split at h
  · cases h
  · next first rest harrived =>
    cases h
    simp only [content, harrived, List.cons_append]

theorem takeByte_error {p : Pipe} {e : EndpointError} (h : p.takeByte.1 = .error e) :
    p.takeByte.2 = p ∧ p.arrived = [] := by
  unfold takeByte at h ⊢
  split at h
  · next harrived => exact ⟨rfl, harrived⟩
  · cases h

end Pipe

/-! ## The device's end -/

/-- The device's end of a link. -/
structure Port where
  inward : Pipe
  /-- Written and not yet at the host's end. -/
  outward : List UInt8
  /-- How many bytes arrive before each of the next operations. -/
  portions : List Nat
  /-- What the clock shows from now on. -/
  readings : Nat → UInt32

namespace Port

/-- The bytes arrive that are to arrive before the next operation. -/
def arrive (p : Port) : Port :=
  { p with inward := p.inward.deliver (p.portions.headD 0), portions := p.portions.tail }

def takeByte (p : Port) : Except EndpointError UInt8 × Port :=
  let (answer, inward) := p.arrive.inward.takeByte
  (answer, { p.arrive with inward })

instance : SerialLine Port EndpointError where
  openAt _ p := (.ok (), p)
  waiting p := (p.arrive.inward.arrived.length, p.arrive)
  takeByte := takeByte
  write bytes p := (.ok bytes.length, { p.arrive with outward := p.outward ++ bytes })
  close p := p
  millis p := (p.readings 0, { p.arrive with readings := fun n => p.readings (n + 1) })
  backlog p := p.inward.content.length

instance : LawfulSerialLine Port where
  backlog_lt p byte _ h := by
    have hcontent := Pipe.content_takeByte (p := p.arrive.arrive.inward) h
    have hlength := congrArg List.length hcontent
    simp only [arrive, Pipe.content_deliver, List.length_cons] at hlength
    exact Nat.lt_of_succ_le (Nat.le_of_eq hlength.symm)

instance : LosslessLine Port EndpointError where
  held p := ⟨p.inward.arrived, p.inward.underway, p.outward⟩
  waiting_passes p :=
    ⟨(Pipe.content_deliver _ p.inward).symm, (List.append_nil _).symm⟩
  waiting_eq_zero p h := List.length_eq_zero_iff.mp h
  takeByte_passes p byte h :=
    ⟨(Pipe.content_deliver _ p.inward).symm.trans (Pipe.content_takeByte h),
      (List.append_nil _).symm⟩
  takeByte_error p e h := by
    refine ⟨(Pipe.content_deliver (p.portions.headD 0) p.inward).symm.trans ?_,
      (List.append_nil _).symm⟩
    exact congrArg Pipe.content (Pipe.takeByte_error (p := p.arrive.inward) h).1.symm
  write_ok _ _ := rfl
  write_passes p bytes :=
    ⟨(Pipe.content_deliver _ p.inward).symm, rfl⟩
  millis_passes p :=
    ⟨(Pipe.content_deliver _ p.inward).symm, (List.append_nil _).symm⟩

end Port

/-! ## The host's end -/

/-- What can happen at the device or on the link. -/
inductive Happening (α π σ : Type) where
  /-- One iteration of the control loop; so many bytes arrive before each of its
  operations on the link. -/
  | poll (portions : List Nat)
  /-- An event of an axis. -/
  | event (event : InputEvent)
  /-- The making up for lost edges. -/
  | recovery (now : UInt32)
  /-- The devices under the controller are found in any other state. -/
  | outside (x y : α) (sensors : π) (store : σ)
  /-- So many bytes arrive at the device. -/
  | toDevice (count : Nat)
  /-- So many bytes arrive at the host. -/
  | toHost (count : Nat)

/-- The device behind the link, as the host finds it. -/
structure Remote (α π σ : Type) where
  device : Controller Port α π σ
  /-- At the host's end and not yet taken, the oldest first. -/
  arrived : List UInt8
  /-- What happens before each of the host's next operations. -/
  schedule : List (List (Happening α π σ))
  /-- What the host's clock shows from now on. -/
  readings : Nat → UInt32
  /-- The commands executed so far, with their replies, the oldest first. -/
  served : List (Command × Option Reply)

namespace Remote

variable {α π σ : Type}

def port (r : Remote α π σ) : Port :=
  r.device.exchange.frames.line

def setPort (port : Port) (r : Remote α π σ) : Remote α π σ :=
  { r with device := { r.device with
      exchange := { r.device.exchange with frames := { r.device.exchange.frames with
        line := port } } } }

/-- The pipe from the device to the host. -/
def returning (r : Remote α π σ) : Pipe :=
  ⟨r.arrived, r.port.outward⟩

def setReturning (pipe : Pipe) (r : Remote α π σ) : Remote α π σ :=
  { r.setPort { r.port with outward := pipe.underway } with arrived := pipe.arrived }

variable [AxisHardware α] [TemperatureSource π] [SettingStore σ]

def happen : Happening α π σ → Remote α π σ → Remote α π σ
  | .poll portions, r =>
      let r := r.setPort { r.port with portions }
      { r with device := r.device.poll.2, served := r.served ++ r.device.served.toList }
  | .event event, r => { r with device := (r.device.handle event).2 }
  | .recovery now, r => { r with device := (r.device.recoverEdges now).2 }
  | .outside x y sensors store, r =>
      { r with device := r.device.react (.outside r.port x y sensors store) }
  | .toDevice count, r => r.setPort { r.port with inward := r.port.inward.deliver count }
  | .toHost count, r => r.setReturning (r.returning.deliver count)

def happenAll (happenings : List (Happening α π σ)) (r : Remote α π σ) : Remote α π σ :=
  happenings.foldl (fun r happening => r.happen happening) r

/-- All that is to happen before the host's next operation. -/
def advance (r : Remote α π σ) : Remote α π σ :=
  { r with schedule := r.schedule.tail }.happenAll (r.schedule.headD [])

/-- Most bytes that one iteration writes: an acknowledgement and a reply. -/
def iterationBytes : Nat := 6 + (Frame.overhead + payloadLimit)

/-- How many iterations are still to happen. -/
def iterations (schedule : List (List (Happening α π σ))) : Nat :=
  (schedule.flatten.filter fun | .poll _ => true | _ => false).length

def takeByte (r : Remote α π σ) : Except EndpointError UInt8 × Remote α π σ :=
  let r := r.advance
  let (answer, returning) := r.returning.takeByte
  (answer, r.setReturning returning)

instance : SerialLine (Remote α π σ) EndpointError where
  openAt _ r := (.ok (), r)
  waiting r := (r.advance.arrived.length, r.advance)
  takeByte := takeByte
  write bytes r :=
    let r := r.advance
    (.ok bytes.length, r.setPort { r.port with inward := r.port.inward.write bytes })
  close r := r
  millis r :=
    let r := r.advance
    (r.readings 0, { r with readings := fun n => r.readings (n + 1) })
  backlog r := r.returning.content.length + iterationBytes * iterations r.schedule

/-! ## What an operation of the host finds -/

theorem poll_outward_le (c : Controller Port α π σ) :
    c.poll.2.exchange.frames.line.outward.length ≤
      c.exchange.frames.line.outward.length + iterationBytes := by
  obtain ⟨reply, -, -, houtward, -⟩ := c.attends.writes
  have hack : (c.attention.handed.elim [] Exchange.ackFor).length ≤ 6 := by
    cases c.attention.handed with
    | none => exact Nat.zero_le 6
    | some frame =>
        show (Exchange.ackFor frame).length ≤ 6
        unfold Exchange.ackFor
        split
        · exact Nat.zero_le 6
        · exact Nat.le_refl 6
  have hreply : (reply.elim [] fun reply => reply.toFrame.encode).length ≤
      Frame.overhead + payloadLimit := by
    cases reply with
    | none => exact Nat.zero_le _
    | some reply =>
        show reply.toFrame.encode.length ≤ _
        rw [Frame.length_encode]
        exact Nat.add_le_add_left reply.toFrame.payload.size_le _
  have hlength := congrArg List.length houtward
  rw [List.length_append, List.length_append] at hlength
  have hsplit : iterationBytes = 6 + (Frame.overhead + payloadLimit) := rfl
  change c.poll.2.exchange.frames.line.outward.length = _ at hlength
  change _ = c.exchange.frames.line.outward.length + _ + _ at hlength
  omega

/-- A happening leaves the schedule alone and what has arrived at the host in its
place, and only an iteration writes. -/
theorem happen_backlog (happening : Happening α π σ) (r : Remote α π σ) :
    (r.happen happening).schedule = r.schedule ∧
      (∃ more, (r.happen happening).arrived = r.arrived ++ more) ∧
      (r.happen happening).returning.content.length ≤
        r.returning.content.length + iterationBytes * iterations [[happening]] := by
  cases happening with
  | poll portions =>
      have hwritten := poll_outward_le (r.setPort { r.port with portions }).device
      refine ⟨rfl, ⟨[], (List.append_nil _).symm⟩, ?_⟩
      show (r.arrived ++ _).length ≤ (r.arrived ++ r.port.outward).length + iterationBytes * 1
      rw [List.length_append, List.length_append, Nat.mul_one, Nat.add_assoc]
      exact Nat.add_le_add_left hwritten _
  | event event =>
      cases event <;> exact ⟨rfl, ⟨[], (List.append_nil _).symm⟩, Nat.le_refl _⟩
  | recovery now => exact ⟨rfl, ⟨[], (List.append_nil _).symm⟩, Nat.le_refl _⟩
  | outside x y sensors store => exact ⟨rfl, ⟨[], (List.append_nil _).symm⟩, Nat.le_refl _⟩
  | toDevice count => exact ⟨rfl, ⟨[], (List.append_nil _).symm⟩, Nat.le_refl _⟩
  | toHost count =>
      refine ⟨rfl, ⟨r.port.outward.take count, rfl⟩, Nat.le_of_eq ?_⟩
      exact congrArg List.length (Pipe.content_deliver count r.returning)

omit [AxisHardware α] [TemperatureSource π] [SettingStore σ] in
theorem iterations_cons (now : List (Happening α π σ)) (later : List (List (Happening α π σ))) :
    iterations (now :: later) = iterations [now] + iterations later := by
  simp [iterations]

omit [AxisHardware α] [TemperatureSource π] [SettingStore σ] in
theorem iterations_now_cons (happening : Happening α π σ) (now : List (Happening α π σ)) :
    iterations [happening :: now] = iterations [[happening]] + iterations [now] := by
  simp only [iterations, List.flatten_cons, List.flatten_nil, List.append_nil]
  rw [← List.singleton_append, List.filter_append, List.length_append]

theorem happenAll_backlog (happenings : List (Happening α π σ)) (r : Remote α π σ) :
    (r.happenAll happenings).schedule = r.schedule ∧
      (∃ more, (r.happenAll happenings).arrived = r.arrived ++ more) ∧
      (r.happenAll happenings).returning.content.length ≤
        r.returning.content.length + iterationBytes * iterations [happenings] := by
  induction happenings generalizing r with
  | nil => exact ⟨rfl, ⟨[], (List.append_nil _).symm⟩, Nat.le_refl _⟩
  | cons happening rest ih =>
      obtain ⟨hsame, ⟨first, hfirst⟩, hone⟩ := r.happen_backlog happening
      obtain ⟨hkept, ⟨more, hmore⟩, hrest⟩ := ih (r.happen happening)
      refine ⟨hkept.trans hsame, ⟨first ++ more, ?_⟩, Nat.le_trans hrest ?_⟩
      · rw [← List.append_assoc, ← hfirst]
        exact hmore
      · rw [iterations_now_cons, Nat.mul_add, ← Nat.add_assoc]
        exact Nat.add_le_add_right hone _

/-- What has arrived at the host stays until it is taken. -/
theorem advance_arrived (r : Remote α π σ) : ∃ more, r.advance.arrived = r.arrived ++ more :=
  (happenAll_backlog (r.schedule.headD []) { r with schedule := r.schedule.tail }).2.1

theorem advance_backlog (r : Remote α π σ) :
    SerialLine.backlog r.advance ≤ SerialLine.backlog r := by
  show r.advance.returning.content.length + iterationBytes * iterations r.advance.schedule ≤
    r.returning.content.length + iterationBytes * iterations r.schedule
  obtain ⟨hschedule, -, hbytes⟩ := happenAll_backlog (r.schedule.headD [])
    { r with schedule := r.schedule.tail }
  change r.advance.schedule = r.schedule.tail at hschedule
  change r.advance.returning.content.length ≤ r.returning.content.length + _ at hbytes
  have hsplit : iterations r.schedule =
      iterations [r.schedule.headD []] + iterations r.schedule.tail := by
    cases r.schedule with
    | nil => rfl
    | cons now later => exact iterations_cons now later
  rw [hschedule, hsplit, Nat.mul_add, ← Nat.add_assoc]
  exact Nat.add_le_add_right hbytes _

instance : LawfulSerialLine (Remote α π σ) where
  backlog_lt r byte _ h := by
    have hcontent := Pipe.content_takeByte (p := r.advance.advance.returning) h
    have hlength := congrArg List.length hcontent
    rw [List.length_cons] at hlength
    refine Nat.lt_of_lt_of_le ?_
      (Nat.le_trans r.advance.advance_backlog r.advance_backlog)
    show r.advance.advance.returning.takeByte.2.content.length +
        iterationBytes * iterations r.advance.advance.schedule <
      r.advance.advance.returning.content.length +
        iterationBytes * iterations r.advance.advance.schedule
    omega

end Remote

end XYStage
