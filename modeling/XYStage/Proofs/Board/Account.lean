/-
# XYStage.Proofs.Board.Account -- the account of the inputs of one axis

Encoder edges and switch edges wait in two forms before they are queued: edges as a
number, a switch as a level that differs from the one last reported.
`InputMonitor.Accounts` is the account over everything that has ever been queued: each
edge that the counter tells of has been queued once or still waits, and the levels queued
for a switch alternate. A sample has four parts, and each of them keeps the account
(`Accounts.sample`), adds events of its own axis and of no other (`Queueing.sample`), and
leaves behind only what a mask or a full queue makes wait (`sample_deferred`).
-/
import Mathlib.Algebra.Group.Nat.Defs
import Mathlib.Data.List.Chain
import XYStage.Board.InputMonitor
import XYStage.Proofs.Motion.Operation

namespace XYStage

set_option autoImplicit false

/-! ## The queue -/

namespace EventQueue

/-- The queue with more events behind those it has. -/
def extend (more : List InputEvent) (q : EventQueue) : EventQueue :=
  { q with events := q.events ++ more }

/-- No further event fits. -/
def Full (q : EventQueue) : Prop :=
  q.capacity ≤ q.events.length

@[simp] theorem extend_nil (q : EventQueue) : q.extend [] = q := by
  simp [extend]

theorem extend_extend (first second : List InputEvent) (q : EventQueue) :
    (q.extend first).extend second = q.extend (first ++ second) := by
  simp [extend]

/-- The second queue has more events of one axis behind those of the first. -/
def Grows (id : AxisId) (q q' : EventQueue) : Prop :=
  ∃ more, q' = q.extend more ∧ ∀ event ∈ more, event.axis = id

theorem Grows.refl (id : AxisId) (q : EventQueue) : Grows id q q :=
  ⟨[], by simp, by simp⟩

theorem Grows.trans {id : AxisId} {q q' q'' : EventQueue} (first : Grows id q q')
    (second : Grows id q' q'') : Grows id q q'' := by
  obtain ⟨earlier, rfl, hearlier⟩ := first
  obtain ⟨later, rfl, hlater⟩ := second
  refine ⟨earlier ++ later, extend_extend earlier later q, ?_⟩
  intro event hmem
  rcases List.mem_append.mp hmem with hmem | hmem
  · exact hearlier event hmem
  · exact hlater event hmem

theorem Full.grows {id : AxisId} {q q' : EventQueue} (h : q.Full) (grows : Grows id q q') :
    q'.Full := by
  obtain ⟨more, rfl, -⟩ := grows
  simp only [Full, extend, List.length_append] at h ⊢
  omega

/-- What does not fit fills the queue. -/
theorem pushMany_cases (count : Nat) (event : InputEvent) (q : EventQueue) :
    ∃ queued, q.pushMany count event = (queued, q.extend (List.replicate queued event)) ∧
      queued ≤ count ∧
      (queued = count ∨ (q.extend (List.replicate queued event)).Full) := by
  refine ⟨min count q.room, rfl, Nat.min_le_left _ _, ?_⟩
  by_cases hfits : count ≤ q.room
  · left
    omega
  · right
    simp only [Full, extend, List.length_append, List.length_replicate, room] at hfits ⊢
    omega

theorem push?_cases (event : InputEvent) (q : EventQueue) :
    q.push? event = some (q.extend [event]) ∨ q.push? event = none ∧ q.Full := by
  unfold push?
  split
  · exact .inl rfl
  · right
    constructor
    · rfl
    · unfold Full
      omega

end EventQueue

/-! ## The account of one axis -/

/-- The edges between the readings of a counter that wraps at `2 ^ 16`. -/
def edgesBetween : UInt16 → List UInt16 → Nat
  | _, [] => 0
  | last, count :: rest => (count - last).toNat + edgesBetween count rest

theorem edgesBetween_append (first : UInt16) (readings : List UInt16) (count : UInt16) :
    edgesBetween first (readings ++ [count]) =
      edgesBetween first readings + (count - readings.getLastD first).toNat := by
  induction readings generalizing first with
  | nil => simp [edgesBetween]
  | cons reading rest ih =>
      simp only [List.cons_append, edgesBetween, ih, List.getLastD_cons]
      omega

/-- The levels that events tell of one switch, the oldest first. -/
def levelsOf (id : AxisId) (switch : LimitSwitch) (events : List InputEvent) : List Bool :=
  events.filterMap fun event =>
    match event with
    | .switchEdge axis which pressed _ => if axis = id ∧ which = switch then some pressed else none
    | _ => none

@[simp] theorem levelsOf_append (id : AxisId) (switch : LimitSwitch)
    (first second : List InputEvent) :
    levelsOf id switch (first ++ second) = levelsOf id switch first ++ levelsOf id switch second :=
  List.filterMap_append

@[simp] theorem levelsOf_replicate_encoder (id axis : AxisId) (switch : LimitSwitch) (n : Nat) :
    levelsOf id switch (List.replicate n (.encoder axis)) = [] := by
  simp [levelsOf]

theorem levelsOf_edge (id : AxisId) (switch : LimitSwitch) (level : Bool) (time : UInt32) :
    levelsOf id switch [.switchEdge id switch level time] = [level] := by
  simp [levelsOf]

theorem levelsOf_edge_of_ne {switch other : LimitSwitch} (h : other ≠ switch) (id : AxisId)
    (level : Bool) (time : UInt32) :
    levelsOf id other [.switchEdge id switch level time] = [] := by
  simp [levelsOf, Ne.symm h]

/-- Events that are neither counts nor edges of an axis. -/
def Silent (id : AxisId) (events : List InputEvent) : Prop :=
  ∀ event ∈ events, event.axis = id → ∃ axis, event = .rampTick axis

theorem Silent.count_eq {id : AxisId} {events : List InputEvent} (h : Silent id events) :
    events.count (.encoder id) = 0 := by
  apply List.count_eq_zero_of_not_mem
  intro hmem
  obtain ⟨axis, htick⟩ := h _ hmem rfl
  cases htick

theorem Silent.levelsOf_eq {id : AxisId} {events : List InputEvent} (h : Silent id events)
    (switch : LimitSwitch) : levelsOf id switch events = [] := by
  apply List.filterMap_eq_nil_iff.mpr
  intro event hmem
  cases event with
  | encoder axis => rfl
  | rampTick axis => rfl
  | switchEdge axis which pressed time =>
      apply if_neg
      rintro ⟨rfl, -⟩
      obtain ⟨axis, htick⟩ := h _ hmem rfl
      cases htick

namespace InputMonitor

/-- What is known of the inputs of an axis accounts for its readings, given everything
that has ever been queued. -/
structure Accounts (id : AxisId) (origin : InputPins) (readings : List UInt16)
    (log : List InputEvent) (inputs : InputMonitor) : Prop where
  id_eq : inputs.id = id
  seen_eq : inputs.seenCount = readings.getLastD origin.count
  /-- An edge has been queued or waits, as long as so many can wait. -/
  counts_eq : edgesBetween origin.count readings < 2 ^ 32 →
    edgesBetween origin.count readings = log.count (.encoder id) + inputs.unqueued.toNat
  /-- The levels queued alternate, beginning with a change. -/
  alternates (switch : LimitSwitch) :
    (origin.closed.get switch :: levelsOf id switch log).IsChain (· ≠ ·)
  /-- The last of them is the one noted as reported. -/
  reported_eq (switch : LimitSwitch) :
    (origin.closed.get switch :: levelsOf id switch log).getLast? =
      some (inputs.reported.get switch)

theorem accounts_new (id : AxisId) (pins : InputPins) (shared : SharedSignals) :
    Accounts id pins [] [] (new id pins shared).1 where
  id_eq := rfl
  seen_eq := rfl
  counts_eq _ := by simp [edgesBetween, new]
  alternates switch := .singleton _
  reported_eq switch := rfl

variable {id : AxisId} {origin : InputPins} {readings : List UInt16} {log : List InputEvent}
  {inputs : InputMonitor}

/-- Events that are silent about the axis change nothing, nor does the time of the next
ramp tick. -/
theorem Accounts.silent (h : Accounts id origin readings log inputs) {more : List InputEvent}
    (silent : Silent id more) (nextTick : Option Nat) :
    Accounts id origin readings (log ++ more) { inputs with nextTick } where
  id_eq := h.id_eq
  seen_eq := h.seen_eq
  counts_eq small := by
    rw [h.counts_eq small, List.count_append, silent.count_eq, Nat.add_zero]
  alternates switch := by
    rw [levelsOf_append, silent.levelsOf_eq, List.append_nil]
    exact h.alternates switch
  reported_eq switch := by
    rw [levelsOf_append, silent.levelsOf_eq, List.append_nil]
    exact h.reported_eq switch

/-- Counted edges join those that wait, and some of these are queued. -/
theorem Accounts.counted (h : Accounts id origin readings log inputs) (count : UInt16)
    {queued : Nat}
    (fits : queued ≤ (inputs.unqueued + (count - inputs.seenCount).toUInt32).toNat) :
    Accounts id origin (readings ++ [count]) (log ++ List.replicate queued (.encoder id))
      { inputs with
        seenCount := count
        unqueued := inputs.unqueued + (count - inputs.seenCount).toUInt32 -
          UInt32.ofNat queued } where
  id_eq := h.id_eq
  seen_eq := by simp
  counts_eq small := by
    have hmore := edgesBetween_append origin.count readings count
    rw [← h.seen_eq] at hmore
    have hbefore := h.counts_eq (by omega)
    -- The sum is less than `2 ^ 32`, so what waits has not wrapped.
    have hwaiting : (inputs.unqueued + (count - inputs.seenCount).toUInt32).toNat =
        inputs.unqueued.toNat + (count - inputs.seenCount).toNat := by
      rw [UInt32.toNat_add, UInt16.toNat_toUInt32]
      apply Nat.mod_eq_of_lt
      omega
    have hqueued : (UInt32.ofNat queued).toNat = queued := by
      apply UInt32.toNat_ofNat_of_lt'
      have := (inputs.unqueued + (count - inputs.seenCount).toUInt32).toNat_lt
      exact Nat.lt_of_le_of_lt fits this
    have hrest : (inputs.unqueued + (count - inputs.seenCount).toUInt32 -
        UInt32.ofNat queued).toNat =
          (inputs.unqueued + (count - inputs.seenCount).toUInt32).toNat - queued := by
      rw [UInt32.toNat_sub_of_le, hqueued]
      rw [UInt32.le_iff_toNat_le, hqueued]
      exact fits
    dsimp only
    rw [hmore, hbefore, List.count_append, List.count_replicate_self, hrest]
    omega
  alternates switch := by
    rw [levelsOf_append, levelsOf_replicate_encoder, List.append_nil]
    exact h.alternates switch
  reported_eq switch := by
    rw [levelsOf_append, levelsOf_replicate_encoder, List.append_nil]
    exact h.reported_eq switch

/-- An edge is queued to a level that differs from the one last reported. -/
theorem Accounts.edge (h : Accounts id origin readings log inputs) {switch : LimitSwitch}
    {level : Bool} (differs : level ≠ inputs.reported.get switch) (time : UInt32) :
    Accounts id origin readings (log ++ [.switchEdge id switch level time])
      { inputs with reported := inputs.reported.set switch level } where
  id_eq := h.id_eq
  seen_eq := h.seen_eq
  counts_eq small := by
    rw [h.counts_eq small, List.count_append]
    simp
  alternates other := by
    rw [levelsOf_append]
    by_cases hother : other = switch
    · subst hother
      rw [levelsOf_edge, ← List.cons_append, List.isChain_append]
      refine ⟨h.alternates other, .singleton _, ?_⟩
      intro last hlast new hnew
      rw [h.reported_eq other, Option.mem_some_iff] at hlast
      rw [List.head?_cons, Option.mem_some_iff] at hnew
      subst hlast hnew
      exact differs.symm
    · rw [levelsOf_edge_of_ne hother, List.append_nil]
      exact h.alternates other
  reported_eq other := by
    rw [levelsOf_append]
    by_cases hother : other = switch
    · subst hother
      rw [levelsOf_edge, ← List.cons_append, List.getLast?_concat, Switches.get_set_self]
    · rw [levelsOf_edge_of_ne hother, List.append_nil, Switches.get_set_of_ne hother]
      exact h.reported_eq other

/-! ## A sample -/

theorem sampleEncoder_cases (count : UInt16) (shared : SharedSignals) (queue : EventQueue)
    (inputs : InputMonitor) :
    let waiting := inputs.unqueued + (count - inputs.seenCount).toUInt32
    ∃ queued, queued ≤ waiting.toNat ∧
      inputs.sampleEncoder count shared queue =
        (queue.extend (List.replicate queued (.encoder inputs.id)),
          { inputs with seenCount := count, unqueued := waiting - UInt32.ofNat queued }) ∧
      (waiting - UInt32.ofNat queued = 0 ∨ shared.masked.contains .encoder = true ∨
        (queue.extend (List.replicate queued (.encoder inputs.id))).Full) := by
  intro waiting
  unfold sampleEncoder
  dsimp only
  cases hmasked : shared.masked.contains .encoder with
  | true =>
      refine ⟨0, Nat.zero_le _, ?_, .inr (.inl rfl)⟩
      simp [waiting]
  | false =>
      obtain ⟨queued, hpush, hle, hall⟩ := queue.pushMany_cases waiting.toNat (.encoder inputs.id)
      refine ⟨queued, hle, ?_, ?_⟩
      · rw [hpush]
        simp [waiting]
      · rcases hall with hall | hfull
        · left
          rw [hall, UInt32.ofNat_toNat, UInt32.sub_self]
        · exact .inr (.inr hfull)

theorem sampleRamp_cases (now : Nat) (shared : SharedSignals) (queue : EventQueue)
    (inputs : InputMonitor) :
    ∃ queued nextTick, inputs.sampleRamp now shared queue =
      (queue.extend (List.replicate queued (.rampTick inputs.id)), { inputs with nextTick }) := by
  unfold sampleRamp
  dsimp only
  split
  · exact ⟨0, none, by simp⟩
  · split
    · exact ⟨0, _, by simp; rfl⟩
    · obtain ⟨queued, hpush, -, -⟩ := queue.pushMany_cases (ticksDue shared.tickPeriod.toNat
        (inputs.nextTick.getD (now + shared.tickPeriod.toNat)) now) (.rampTick inputs.id)
      rw [hpush]
      exact ⟨queued, _, rfl⟩

theorem sampleSwitch_cases (switch : LimitSwitch) (level : Bool) (now : Nat)
    (shared : SharedSignals) (queue : EventQueue) (inputs : InputMonitor) :
    (inputs.sampleSwitch switch level now shared queue).1.masked = shared.masked ∧
      ((inputs.reported.get switch = level ∨ shared.masked.contains (source switch) = true ∨
            queue.Full) ∧
          (inputs.sampleSwitch switch level now shared queue).2 = (queue, inputs) ∨
        level ≠ inputs.reported.get switch ∧ ∃ time,
          (inputs.sampleSwitch switch level now shared queue).2 =
            (queue.extend [.switchEdge inputs.id switch level time],
              { inputs with reported := inputs.reported.set switch level })) := by
  unfold sampleSwitch
  dsimp only
  by_cases hsame : level = inputs.reported.get switch
  · rw [if_pos (by simp [hsame])]
    exact ⟨rfl, .inl ⟨.inl hsame.symm, rfl⟩⟩
  · cases hmasked : shared.masked.contains (source switch) with
    | true =>
        rw [if_pos (by simp)]
        exact ⟨rfl, .inl ⟨.inr (.inl rfl), rfl⟩⟩
    | false =>
        rw [if_neg (by simp [hsame])]
        rcases queue.push?_cases (.switchEdge inputs.id switch level (UInt32.ofNat (now / 1000)))
          with hpush | ⟨hpush, hfull⟩
        · rw [hpush]
          exact ⟨rfl, .inr ⟨hsame, _, rfl⟩⟩
        · rw [hpush]
          exact ⟨rfl, .inl ⟨.inr (.inr hfull), rfl⟩⟩

/-! ### Each part queues events of its axis -/

/-- From the first queue to the second, the sampling of one axis has queued events. -/
def Queueing (id : AxisId) (start queue : EventQueue) (inputs : InputMonitor) : Prop :=
  inputs.id = id ∧ start.Grows id queue

section

variable {start queue : EventQueue}

theorem Queueing.sampleEncoder (h : Queueing id start queue inputs) (count : UInt16)
    (shared : SharedSignals) :
    Queueing id start (inputs.sampleEncoder count shared queue).1
      (inputs.sampleEncoder count shared queue).2 := by
  obtain ⟨rfl, hgrows⟩ := h
  obtain ⟨queued, -, hsample, -⟩ := inputs.sampleEncoder_cases count shared queue
  rw [hsample]
  refine ⟨rfl, hgrows.trans ⟨_, rfl, ?_⟩⟩
  intro event hmem
  rw [List.eq_of_mem_replicate hmem]
  rfl

theorem Queueing.sampleRamp (h : Queueing id start queue inputs) (now : Nat)
    (shared : SharedSignals) :
    Queueing id start (inputs.sampleRamp now shared queue).1
      (inputs.sampleRamp now shared queue).2 := by
  obtain ⟨rfl, hgrows⟩ := h
  obtain ⟨queued, nextTick, hsample⟩ := inputs.sampleRamp_cases now shared queue
  rw [hsample]
  refine ⟨rfl, hgrows.trans ⟨_, rfl, ?_⟩⟩
  intro event hmem
  rw [List.eq_of_mem_replicate hmem]
  rfl

theorem Queueing.sampleSwitch (h : Queueing id start queue inputs) (switch : LimitSwitch)
    (level : Bool) (now : Nat) (shared : SharedSignals) :
    Queueing id start (inputs.sampleSwitch switch level now shared queue).2.1
      (inputs.sampleSwitch switch level now shared queue).2.2 := by
  obtain ⟨rfl, hgrows⟩ := h
  rcases inputs.sampleSwitch_cases switch level now shared queue with
    ⟨-, ⟨-, hsample⟩ | ⟨-, time, hsample⟩⟩
  · rw [hsample]
    exact ⟨rfl, hgrows⟩
  · rw [hsample]
    refine ⟨rfl, hgrows.trans ⟨_, rfl, ?_⟩⟩
    intro event hmem
    rw [List.mem_singleton.mp hmem]
    rfl

theorem Queueing.sample (h : Queueing id start queue inputs) (pins : InputPins) (now : Nat)
    (shared : SharedSignals) :
    Queueing id start (inputs.sample pins now shared queue).2.1
      (inputs.sample pins now shared queue).2.2 := by
  have hcounted := h.sampleEncoder pins.count shared
  have hticked := hcounted.sampleRamp now shared
  have hhome := hticked.sampleSwitch .home pins.closed.home now shared
  exact hhome.sampleSwitch .far pins.closed.far now _

end

/-! ### Each part keeps the account -/

variable {earlier : List InputEvent} {queue : EventQueue}

theorem Accounts.sampleEncoder
    (h : Accounts id origin readings (earlier ++ queue.events) inputs) (count : UInt16)
    (shared : SharedSignals) :
    Accounts id origin (readings ++ [count])
      (earlier ++ (inputs.sampleEncoder count shared queue).1.events)
      (inputs.sampleEncoder count shared queue).2 := by
  obtain rfl := h.id_eq
  obtain ⟨queued, hfits, hsample, -⟩ := inputs.sampleEncoder_cases count shared queue
  rw [hsample]
  show Accounts _ _ _ (earlier ++ (queue.events ++ _)) _
  rw [← List.append_assoc]
  exact h.counted count hfits

theorem Accounts.sampleRamp
    (h : Accounts id origin readings (earlier ++ queue.events) inputs) (now : Nat)
    (shared : SharedSignals) :
    Accounts id origin readings (earlier ++ (inputs.sampleRamp now shared queue).1.events)
      (inputs.sampleRamp now shared queue).2 := by
  obtain ⟨queued, nextTick, hsample⟩ := inputs.sampleRamp_cases now shared queue
  rw [hsample]
  show Accounts _ _ _ (earlier ++ (queue.events ++ _)) _
  rw [← List.append_assoc]
  apply h.silent
  intro event hmem _
  exact ⟨inputs.id, List.eq_of_mem_replicate hmem⟩

theorem Accounts.sampleSwitch
    (h : Accounts id origin readings (earlier ++ queue.events) inputs) (switch : LimitSwitch)
    (level : Bool) (now : Nat) (shared : SharedSignals) :
    Accounts id origin readings
      (earlier ++ (inputs.sampleSwitch switch level now shared queue).2.1.events)
      (inputs.sampleSwitch switch level now shared queue).2.2 := by
  obtain rfl := h.id_eq
  rcases inputs.sampleSwitch_cases switch level now shared queue with
    ⟨-, ⟨-, hsample⟩ | ⟨hdiffers, time, hsample⟩⟩
  · rw [hsample]
    exact h
  · rw [hsample]
    show Accounts _ _ _ (earlier ++ (queue.events ++ _)) _
    rw [← List.append_assoc]
    exact h.edge hdiffers time

/-- **A sample keeps the account** of its axis. -/
theorem Accounts.sample (h : Accounts id origin readings (earlier ++ queue.events) inputs)
    (pins : InputPins) (now : Nat) (shared : SharedSignals) :
    Accounts id origin (readings ++ [pins.count])
      (earlier ++ (inputs.sample pins now shared queue).2.1.events)
      (inputs.sample pins now shared queue).2.2 := by
  have hcounted := h.sampleEncoder pins.count shared
  have hticked := hcounted.sampleRamp now shared
  have hhome := hticked.sampleSwitch .home pins.closed.home now shared
  exact hhome.sampleSwitch .far pins.closed.far now _

/-! ### What is left waits -/

/-- A source is masked, or nothing fits the queue. -/
def Deferred (source : InterruptSource) (shared : SharedSignals) (queue : EventQueue) : Prop :=
  shared.masked.contains source = true ∨ queue.Full

theorem Deferred.grows {source : InterruptSource} {shared : SharedSignals} {id : AxisId}
    {queue queue' : EventQueue} (h : Deferred source shared queue) (grows : queue.Grows id queue') :
    Deferred source shared queue' := by
  rcases h with hmasked | hfull
  · exact .inl hmasked
  · exact .inr (hfull.grows grows)

theorem sampleSwitch_deferred (switch : LimitSwitch) (level : Bool) (now : Nat)
    (shared : SharedSignals) (queue : EventQueue) (inputs : InputMonitor) :
    let after := inputs.sampleSwitch switch level now shared queue
    after.1.masked = shared.masked ∧ after.2.2.unqueued = inputs.unqueued ∧
      (∀ other, other ≠ switch → after.2.2.reported.get other = inputs.reported.get other) ∧
      (after.2.2.reported.get switch = level ∨ Deferred (source switch) shared after.2.1) := by
  intro after
  obtain ⟨hmasked, ⟨hreason, hsample⟩ | ⟨-, time, hsample⟩⟩ :=
    inputs.sampleSwitch_cases switch level now shared queue
  · refine ⟨hmasked, ?_⟩
    rw [show after.2 = _ from hsample]
    refine ⟨rfl, fun _ _ => rfl, ?_⟩
    rcases hreason with hsame | hdeferred
    · exact .inl hsame
    · exact .inr hdeferred
  · refine ⟨hmasked, ?_⟩
    rw [show after.2 = _ from hsample]
    refine ⟨rfl, ?_, .inl (Switches.get_set_self _ _ _)⟩
    intro other hother
    exact Switches.get_set_of_ne hother _ _

/-- **What a sample leaves behind waits for a mask or for the queue**, and nothing else. -/
theorem sample_deferred (pins : InputPins) (now : Nat) (shared : SharedSignals)
    (queue : EventQueue) (inputs : InputMonitor) :
    let after := (inputs.sample pins now shared queue).2
    (after.2.unqueued = 0 ∨ Deferred .encoder shared after.1) ∧
      ∀ switch, after.2.reported.get switch = pins.closed.get switch ∨
        Deferred (source switch) shared after.1 := by
  intro after
  let counted := inputs.sampleEncoder pins.count shared queue
  let ticked := counted.2.sampleRamp now shared counted.1
  let home := ticked.2.sampleSwitch .home pins.closed.home now shared ticked.1
  let far := home.2.2.sampleSwitch .far pins.closed.far now home.1 home.2.1
  show (far.2.2.unqueued = 0 ∨ Deferred .encoder shared far.2.1) ∧
    ∀ switch, far.2.2.reported.get switch = pins.closed.get switch ∨
      Deferred (source switch) shared far.2.1
  have hticked : counted.1.Grows counted.2.id ticked.1 :=
    (Queueing.sampleRamp ⟨rfl, .refl _ _⟩ now shared).2
  have hhome : ticked.1.Grows ticked.2.id home.2.1 :=
    (Queueing.sampleSwitch ⟨rfl, .refl _ _⟩ .home pins.closed.home now shared).2
  have hfar : home.2.1.Grows home.2.2.id far.2.1 :=
    (Queueing.sampleSwitch ⟨rfl, .refl _ _⟩ .far pins.closed.far now home.1).2
  obtain ⟨hmasked, hhomeWaits, -, hhomeLevel⟩ := sampleSwitch_deferred .home pins.closed.home now
    shared ticked.1 ticked.2
  obtain ⟨-, hfarWaits, hkept, hfarLevel⟩ := sampleSwitch_deferred .far pins.closed.far now
    home.1 home.2.1 home.2.2
  constructor
  · have hcounted : counted.2.unqueued = 0 ∨ Deferred .encoder shared counted.1 := by
      obtain ⟨queued, -, hsample, hall⟩ := inputs.sampleEncoder_cases pins.count shared queue
      rw [show counted = _ from hsample]
      exact hall
    have hwaits : far.2.2.unqueued = counted.2.unqueued := by
      obtain ⟨queued, nextTick, hsample⟩ := counted.2.sampleRamp_cases now shared counted.1
      rw [hfarWaits, hhomeWaits, show ticked = _ from hsample]
    rw [hwaits]
    refine hcounted.imp_right fun hdeferred => ?_
    exact ((hdeferred.grows hticked).grows hhome).grows hfar
  · intro switch
    cases switch with
    | home =>
        rw [hkept .home nofun]
        exact hhomeLevel.imp_right fun hdeferred => hdeferred.grows hfar
    | far =>
        refine hfarLevel.imp_right fun hdeferred => ?_
        unfold Deferred at hdeferred
        rw [hmasked] at hdeferred
        exact hdeferred

end InputMonitor

end XYStage
