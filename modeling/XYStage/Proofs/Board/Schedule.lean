/-
# XYStage.Proofs.Board.Schedule -- when ramp ticks are queued

The ramp timer exists only as a period that the hardware of an axis shares with the sampling
of its inputs; which tick is due when is up to the sampling. `TimedAxis` is both together: the
hardware carries out any orders, and samples find any queue and any mask in between. What
happened to the ramp ticks is read off the queue (`TickReport`), and `OnSchedule due` says
that the `k`-th of them is queued by the first sample at or after `due k` at which nothing
makes it wait.

From a start to the next order to the timer, the ticks are one period apart
(`Paced.onSchedule`). The first is due one period after the first sample, unless the
sampling still has a time for the next tick: a sample forgets it only if it finds no timer
running. A timer that is stopped and started again between two samples therefore goes by the
time that the one before has left behind.

Main statement: `ticks_as_documented_iff_stop_sampled`.
-/
import Mathlib.Algebra.GroupWithZero.Nat
import Mathlib.Order.Bounds.Basic
import XYStage.Proofs.Board.Account

namespace XYStage

set_option autoImplicit false

/-! ## The ramp ticks of a sample -/

namespace EventQueue

theorem room_extend (more : List InputEvent) (q : EventQueue) :
    (q.extend more).room = q.room - more.length := by
  simp only [room, extend, List.length_append]
  omega

end EventQueue

namespace InputMonitor

/-- The ticks due are those whose time has come. -/
theorem lt_ticksDue_iff {period : Nat} (h : 0 < period) (next now k : Nat) :
    k < ticksDue period next now ↔ next + k * period ≤ now := by
  unfold ticksDue
  by_cases hdue : next ≤ now
  · rw [if_pos hdue, Nat.lt_succ_iff, Nat.le_div_iff_mul_le h]
    omega
  · rw [if_neg hdue]
    omega

/-- A sample that finds no timer running forgets when the next tick was due. -/
theorem sampleRamp_stopped {shared : SharedSignals} (h : shared.tickPeriod.toNat = 0) (now : Nat)
    (queue : EventQueue) (inputs : InputMonitor) :
    inputs.sampleRamp now shared queue = (queue, { inputs with nextTick := none }) := by
  unfold sampleRamp
  exact if_pos h

/-- The ticks that a sample queues, the first of them due at `next`. -/
def ticksQueued (period next now room : Nat) (masked : Bool) : Nat :=
  if masked then 0 else min (ticksDue period next now) room

theorem sampleRamp_running {shared : SharedSignals} (h : shared.tickPeriod.toNat ≠ 0) (now : Nat)
    (queue : EventQueue) (inputs : InputMonitor) :
    let period := shared.tickPeriod.toNat
    let next := inputs.nextTick.getD (now + period)
    let queued := ticksQueued period next now queue.room (shared.masked.contains .rampTimer)
    inputs.sampleRamp now shared queue =
      (queue.extend (List.replicate queued (.rampTick inputs.id)),
        { inputs with nextTick := some (next + queued * period) }) := by
  intro period next queued
  unfold sampleRamp
  dsimp only
  rw [if_neg h]
  cases hmasked : shared.masked.contains .rampTimer with
  | true => simp [queued, ticksQueued, hmasked, next, period]
  | false => simp [queued, ticksQueued, hmasked, next, period, EventQueue.pushMany, EventQueue.extend]

/-- The sampling of a switch queues no tick, and is no concern of the timer. -/
theorem sampleSwitch_apart (switch : LimitSwitch) (level : Bool) (now : Nat)
    (shared : SharedSignals) (queue : EventQueue) (inputs : InputMonitor) :
    let after := inputs.sampleSwitch switch level now shared queue
    after.1.tickPeriod = shared.tickPeriod ∧ after.2.2.nextTick = inputs.nextTick ∧
      ∃ edges, after.2.1 = queue.extend edges ∧ ∀ axis, .rampTick axis ∉ edges := by
  intro after
  have hperiod : after.1.tickPeriod = shared.tickPeriod := by
    simp only [after, sampleSwitch]
    split
    · rfl
    · split <;> rfl
  obtain ⟨-, ⟨-, hsample⟩ | ⟨-, time, hsample⟩⟩ :=
    inputs.sampleSwitch_cases switch level now shared queue
  · refine ⟨hperiod, ?_⟩
    rw [show after.2 = _ from hsample]
    exact ⟨rfl, [], by simp, by simp⟩
  · refine ⟨hperiod, ?_⟩
    rw [show after.2 = _ from hsample]
    exact ⟨rfl, _, rfl, by simp⟩

/-- After the ramp ticks a sample is no concern of the timer. -/
theorem sample_apart (pins : InputPins) (now : Nat) (shared : SharedSignals)
    (queue : EventQueue) (inputs : InputMonitor) :
    let counted := inputs.sampleEncoder pins.count shared queue
    let ticked := counted.2.sampleRamp now shared counted.1
    let after := inputs.sample pins now shared queue
    after.1.tickPeriod = shared.tickPeriod ∧ after.2.2.nextTick = ticked.2.nextTick ∧
      ∃ edges, after.2.1 = ticked.1.extend edges ∧ ∀ axis, .rampTick axis ∉ edges := by
  intro counted ticked after
  let home := ticked.2.sampleSwitch .home pins.closed.home now shared ticked.1
  obtain ⟨hperiod, hnext, first, hfirst, hapart⟩ :=
    sampleSwitch_apart .home pins.closed.home now shared ticked.1 ticked.2
  obtain ⟨hperiod', hnext', second, hsecond, hapart'⟩ :=
    sampleSwitch_apart .far pins.closed.far now home.1 home.2.1 home.2.2
  refine ⟨hperiod'.trans hperiod, hnext'.trans hnext, first ++ second, ?_, ?_⟩
  · rw [← EventQueue.extend_extend, ← hfirst]
    exact hsecond
  · intro axis hmem
    rcases List.mem_append.mp hmem with hmem | hmem
    · exact hapart axis hmem
    · exact hapart' axis hmem

/-- The ramp ticks between encoder edges and switch edges. -/
theorem count_rampTick (id : AxisId) (encoders ticks : Nat) {edges : List InputEvent}
    (apart : ∀ axis, .rampTick axis ∉ edges) :
    List.count (.rampTick id) (List.replicate encoders (InputEvent.encoder id) ++
      (List.replicate ticks (InputEvent.rampTick id) ++ edges)) = ticks := by
  have hencoders : (List.replicate encoders (InputEvent.encoder id)).count (.rampTick id) = 0 := by
    apply List.count_eq_zero_of_not_mem
    intro hmem
    cases List.eq_of_mem_replicate hmem
  rw [List.count_append, List.count_append, hencoders, List.count_replicate_self,
    List.count_eq_zero_of_not_mem (apart id)]
  omega

/-- The encoder edges take no more places than edges are waiting. -/
theorem room_le_sampleEncoder (count : UInt16) (shared : SharedSignals) (queue : EventQueue)
    (inputs : InputMonitor) :
    queue.room ≤ (inputs.sampleEncoder count shared queue).1.room +
      (inputs.unqueued + (count - inputs.seenCount).toUInt32).toNat := by
  obtain ⟨encoders, hle, hcounted, -⟩ := inputs.sampleEncoder_cases count shared queue
  rw [hcounted, EventQueue.room_extend, List.length_replicate]
  omega

/-- A sample while the timer runs. -/
theorem sample_running {shared : SharedSignals} (h : shared.tickPeriod.toNat ≠ 0)
    (pins : InputPins) (now : Nat) (queue : EventQueue) (inputs : InputMonitor) :
    let period := shared.tickPeriod.toNat
    let next := inputs.nextTick.getD (now + period)
    let room := (inputs.sampleEncoder pins.count shared queue).1.room
    let queued := ticksQueued period next now room (shared.masked.contains .rampTimer)
    let after := (inputs.sample pins now shared queue).2
    (after.1.events.drop queue.events.length).count (.rampTick inputs.id) = queued ∧
      after.2.nextTick = some (next + queued * period) := by
  intro period next room queued after
  obtain ⟨-, hnext, edges, hqueue, hapart⟩ := inputs.sample_apart pins now shared queue
  obtain ⟨encoders, -, hcounted, -⟩ := inputs.sampleEncoder_cases pins.count shared queue
  have hticked := sampleRamp_running h now (inputs.sampleEncoder pins.count shared queue).1
    (inputs.sampleEncoder pins.count shared queue).2
  have hfirst : (inputs.sampleEncoder pins.count shared queue).1 =
      queue.extend (List.replicate encoders (.encoder inputs.id)) := by
    rw [hcounted]
  have hid : (inputs.sampleEncoder pins.count shared queue).2.id = inputs.id := by
    rw [hcounted]
  have hkept : (inputs.sampleEncoder pins.count shared queue).2.nextTick = inputs.nextTick := by
    rw [hcounted]
  dsimp only at hticked hnext hqueue
  rw [hkept, hid] at hticked
  rw [hticked] at hnext hqueue
  refine ⟨?_, hnext⟩
  show ((inputs.sample pins now shared queue).2.1.events.drop queue.events.length).count _ = _
  rw [hqueue, hfirst, EventQueue.extend_extend, EventQueue.extend_extend, EventQueue.extend,
    List.drop_left, ← hfirst]
  exact count_rampTick inputs.id encoders queued hapart

/-- A sample while it does not forgets when the next tick was due. -/
theorem sample_stopped {shared : SharedSignals} (h : shared.tickPeriod.toNat = 0)
    (pins : InputPins) (now : Nat) (queue : EventQueue) (inputs : InputMonitor) :
    (inputs.sample pins now shared queue).2.2.nextTick = none := by
  obtain ⟨-, hnext, -⟩ := inputs.sample_apart pins now shared queue
  rw [hnext, sampleRamp_stopped h]

end InputMonitor

/-! ## An axis and its timer -/

/-- The hardware of an axis with the sampling of its inputs. -/
structure TimedAxis where
  hardware : PwmHardware
  inputs : InputMonitor

/-- What became of the ramp ticks in a sample. -/
structure TickReport where
  time : Nat
  /-- Whether the timer was running. -/
  running : Bool
  /-- Whether its source was masked. -/
  masked : Bool
  /-- Places free in the queue, behind the encoder edges. -/
  room : Nat
  /-- Ramp ticks of the axis in what the sample has added to the queue. -/
  queued : Nat
  deriving DecidableEq

namespace TimedAxis

/-- The axis at power-up. -/
def boot (id : AxisId) (clock : UInt32) (pins : InputPins) : TimedAxis :=
  let (inputs, shared) := InputMonitor.new id pins .new
  ⟨.new clock shared, inputs⟩

/-- What can happen next. -/
inductive Step where
  /-- The hardware carries out an order. -/
  | order (call : HardwareCall)
  /-- The inputs are sampled into a queue, whatever it holds by then. -/
  | sample (pins : InputPins) (now : Nat) (queue : EventQueue)

/-- Neither starts nor stops the ramp timer. -/
def Step.Spares : Step → Prop
  | .order (.startRamp _) => False
  | .order .stopRamp => False
  | _ => True

def step : Step → TimedAxis → TimedAxis
  | .order call, s => { s with hardware := s.hardware.perform call }
  | .sample pins now queue, s =>
      let (shared, _, inputs) := s.inputs.sample pins now s.hardware.shared queue
      { hardware := { s.hardware with shared }, inputs }

def report? : Step → TimedAxis → Option TickReport
  | .order _, _ => none
  | .sample pins now queue, s =>
      let shared := s.hardware.shared
      let after := (s.inputs.sample pins now shared queue).2.1
      some {
        time := now
        running := decide (shared.tickPeriod ≠ 0)
        masked := shared.masked.contains .rampTimer
        room := (s.inputs.sampleEncoder pins.count shared queue).1.room
        queued := (after.events.drop queue.events.length).count (.rampTick s.inputs.id) }

def run : List Step → TimedAxis → TimedAxis
  | [], s => s
  | step :: rest, s => (s.step step).run rest

/-- What the samples of a run made of the ramp ticks, in order. -/
def reports : List Step → TimedAxis → List TickReport
  | [], _ => []
  | step :: rest, s => (s.report? step).toList ++ (s.step step).reports rest

end TimedAxis

/-! ## Schedules -/

namespace TickReport

/-- The ticks queued by the first `i` samples. -/
def queuedBefore (reports : List TickReport) (i : Nat) : Nat :=
  ((reports.take i).map (·.queued)).sum

/-- The `k`-th tick is one of those that the `i`-th sample queues; ticks count from one,
samples from zero. -/
def Queues (reports : List TickReport) (k i : Nat) : Prop :=
  queuedBefore reports i < k ∧ k ≤ queuedBefore reports (i + 1)

/-- At the `i`-th sample the `k`-th tick, due at a time, has nothing to wait for. -/
structure Ready (reports : List TickReport) (due k i : Nat) (report : TickReport) : Prop where
  sampled : reports[i]? = some report
  come : due ≤ report.time
  unmasked : report.masked = false
  /-- All earlier ticks are queued, in this sample or before. -/
  earlier : k ≤ queuedBefore reports (i + 1) + 1
  /-- With those of this sample in it the queue still has room. -/
  fits : k ≤ queuedBefore reports i + report.room

/-- Every tick is queued by the first sample at which it has nothing to wait for, and after a
sample that is not masked and leaves room no tick is overdue. -/
structure OnSchedule (due : Nat → Nat) (reports : List TickReport) : Prop where
  queues_iff (k : Nat) : 1 ≤ k → ∀ i, Queues reports k i ↔
    IsLeast { j | ∃ report, Ready reports (due k) k j report } i
  caught_up (i : Nat) (report : TickReport) : reports[i]? = some report →
    report.masked = false → report.queued < report.room →
    ∀ k, due k ≤ report.time → k ≤ queuedBefore reports (i + 1)

/-- Ticks count from one, so what `due 0` is does not matter. -/
theorem OnSchedule.congr {due due' : Nat → Nat} {reports : List TickReport}
    (h : OnSchedule due reports) (same : ∀ k, 1 ≤ k → due k = due' k) :
    OnSchedule due' reports where
  queues_iff k hk i := by
    rw [← same k hk]
    exact h.queues_iff k hk i
  caught_up i report hsampled hunmasked hroom k hcome := by
    cases k with
    | zero => exact Nat.zero_le _
    | succ k =>
        rw [← same (k + 1) (Nat.succ_pos k)] at hcome
        exact h.caught_up i report hsampled hunmasked hroom (k + 1) hcome

theorem queuedBefore_zero (reports : List TickReport) : queuedBefore reports 0 = 0 := rfl

theorem queuedBefore_cons_succ (report : TickReport) (rest : List TickReport) (i : Nat) :
    queuedBefore (report :: rest) (i + 1) = report.queued + queuedBefore rest i := rfl

section

variable {reports : List TickReport} {report : TickReport} {k i : Nat}

theorem queuedBefore_succ (h : reports[i]? = some report) :
    queuedBefore reports (i + 1) = queuedBefore reports i + report.queued := by
  unfold queuedBefore
  rw [List.take_add_one, h]
  simp

theorem queuedBefore_mono (reports : List TickReport) : Monotone (queuedBefore reports) := by
  refine monotone_nat_of_le_succ fun i => ?_
  unfold queuedBefore
  rw [List.take_add_one]
  simp

theorem Queues.exists_report (h : Queues reports k i) : ∃ report, reports[i]? = some report := by
  cases hreport : reports[i]? with
  | some report => exact ⟨report, rfl⟩
  | none =>
      obtain ⟨hbefore, hafter⟩ := h
      unfold queuedBefore at hbefore hafter
      rw [List.take_add_one, hreport, Option.toList_none, List.append_nil] at hafter
      omega

/-- A tick that is queued was queued by one of the samples. -/
theorem exists_queues (hk : 1 ≤ k) (h : k ≤ queuedBefore reports i) :
    ∃ j < i, Queues reports k j := by
  induction i with
  | zero =>
      rw [queuedBefore_zero] at h
      omega
  | succ i ih =>
      by_cases hearlier : k ≤ queuedBefore reports i
      · obtain ⟨j, hj, hqueues⟩ := ih hearlier
        exact ⟨j, Nat.lt_succ_of_lt hj, hqueues⟩
      · exact ⟨i, Nat.lt_succ_self i, Nat.lt_of_not_le hearlier, h⟩

end

/-- The samples queue ticks that are a period apart, the first of them due at a time. -/
def Paced (period : Nat) : Nat → List TickReport → Prop
  | _, [] => True
  | next, report :: rest =>
      report.queued =
          InputMonitor.ticksQueued period next report.time report.room report.masked ∧
        Paced period (next + report.queued * period) rest

namespace Paced

variable {period next : Nat} {reports : List TickReport} {report : TickReport} {k i : Nat}

/-- A sample queues from the tick on that the samples before have left. -/
theorem queued_eq (h : Paced period next reports) (sampled : reports[i]? = some report) :
    report.queued = InputMonitor.ticksQueued period (next + queuedBefore reports i * period)
      report.time report.room report.masked := by
  induction reports generalizing next i with
  | nil => simp at sampled
  | cons first rest ih =>
      obtain ⟨hfirst, hrest⟩ := h
      cases i with
      | zero =>
          obtain rfl : first = report := Option.some.inj sampled
          rw [queuedBefore_zero, Nat.zero_mul, Nat.add_zero]
          exact hfirst
      | succ i =>
          rw [queuedBefore_cons_succ, Nat.add_mul, ← Nat.add_assoc]
          exact ih hrest sampled

/-- What it takes for a sample to queue the tick. -/
theorem le_queuedBefore_succ_iff (h : Paced period next reports) (positive : 0 < period)
    (sampled : reports[i]? = some report) (waits : queuedBefore reports i < k) :
    k ≤ queuedBefore reports (i + 1) ↔
      next + (k - 1) * period ≤ report.time ∧ report.masked = false ∧
        k ≤ queuedBefore reports i + report.room := by
  obtain ⟨more, rfl⟩ := Nat.exists_eq_add_of_lt waits
  have hdue := InputMonitor.lt_ticksDue_iff positive (next + queuedBefore reports i * period)
    report.time more
  rw [Nat.add_assoc, ← Nat.add_mul] at hdue
  rw [queuedBefore_succ sampled, h.queued_eq sampled, InputMonitor.ticksQueued, Nat.add_sub_cancel,
    ← hdue]
  cases report.masked with
  | true =>
      simp only [if_true, Bool.true_eq_false, false_and, and_false, iff_false]
      omega
  | false =>
      simp only [Bool.false_eq_true, if_false, true_and]
      omega

/-- **Ticks a period apart** are on the schedule that begins with the first. -/
theorem onSchedule (h : Paced period next reports) (positive : 0 < period) :
    OnSchedule (fun k => next + (k - 1) * period) reports where
  queues_iff k hk i := by
    have hready {j : Nat} (hqueues : Queues reports k j) :
        ∃ report, Ready reports (next + (k - 1) * period) k j report := by
      obtain ⟨report, hsampled⟩ := hqueues.exists_report
      obtain ⟨hcome, hunmasked, hfits⟩ :=
        (h.le_queuedBefore_succ_iff positive hsampled hqueues.1).mp hqueues.2
      exact ⟨report, hsampled, hcome, hunmasked, Nat.le_succ_of_le hqueues.2, hfits⟩
    constructor
    · intro hqueues
      refine ⟨hready hqueues, ?_⟩
      -- Had it been ready before, it would not have waited.
      rintro j ⟨report, hj⟩
      by_contra hlt
      have hmono := queuedBefore_mono reports (Nat.succ_le_of_lt (Nat.lt_of_not_le hlt))
      have hwaits : queuedBefore reports j < k :=
        Nat.lt_of_le_of_lt (queuedBefore_mono reports (Nat.le_of_not_le hlt)) hqueues.1
      have hqueued := (h.le_queuedBefore_succ_iff positive hj.sampled hwaits).mpr
        ⟨hj.come, hj.unmasked, hj.fits⟩
      exact absurd (Nat.le_trans hqueued hmono) (Nat.not_le_of_lt hqueues.1)
    · rintro ⟨⟨report, hi⟩, hleast⟩
      have hwaits : queuedBefore reports i < k := by
        by_contra hearlier
        obtain ⟨j, hj, hqueues⟩ := exists_queues hk (Nat.le_of_not_lt hearlier)
        exact absurd (hleast (hready hqueues)) (Nat.not_le_of_lt hj)
      exact ⟨hwaits, (h.le_queuedBefore_succ_iff positive hi.sampled hwaits).mpr
        ⟨hi.come, hi.unmasked, hi.fits⟩⟩
  caught_up i report hsampled hunmasked hroom k hcome := by
    by_contra hoverdue
    -- The first tick left behind is due no later.
    have hfirst : next + (queuedBefore reports (i + 1) + 1 - 1) * period ≤ report.time := by
      refine Nat.le_trans (Nat.add_le_add_left (Nat.mul_le_mul_right period ?_) next) hcome
      omega
    have hsucc := queuedBefore_succ hsampled
    have hqueued := (h.le_queuedBefore_succ_iff positive hsampled
      (k := queuedBefore reports (i + 1) + 1) (by omega)).mpr ⟨hfirst, hunmasked, by omega⟩
    omega

end Paced

end TickReport

/-! ## From one order to the timer to the next -/

namespace TimedAxis

open TickReport

theorem perform_shared_of_spares {call : HardwareCall} (h : (Step.order call).Spares)
    (a : PwmHardware) : (a.perform call).shared.tickPeriod = a.shared.tickPeriod := by
  cases call with
  | startRamp period => exact h.elim
  | stopRamp => exact h.elim
  | _ => rfl

/-- What a sample does with the timer, running or not. -/
theorem sample_cases (pins : InputPins) (now : Nat) (queue : EventQueue) (s : TimedAxis) :
    let period := s.hardware.shared.tickPeriod
    let next := s.inputs.nextTick.getD (now + period.toNat)
    let after := s.step (.sample pins now queue)
    ∃ report, s.report? (.sample pins now queue) = some report ∧ report.time = now ∧
      report.running = decide (period ≠ 0) ∧
      after.hardware.shared.tickPeriod = period ∧
      (period = 0 → after.inputs.nextTick = none) ∧
      (period ≠ 0 →
        report.queued =
            InputMonitor.ticksQueued period.toNat next now report.room report.masked ∧
          after.inputs.nextTick = some (next + report.queued * period.toNat)) := by
  intro period next after
  let shared := s.hardware.shared
  have hperiod := (s.inputs.sample_apart pins now shared queue).1
  refine ⟨_, rfl, rfl, rfl, hperiod, ?_, ?_⟩
  · intro hstopped
    exact InputMonitor.sample_stopped (congrArg UInt32.toNat hstopped) pins now queue s.inputs
  · intro hrunning
    have hpositive : shared.tickPeriod.toNat ≠ 0 := fun hzero =>
      hrunning (UInt32.toNat_inj.mp hzero)
    obtain ⟨hqueued, hnext⟩ := InputMonitor.sample_running hpositive pins now queue s.inputs
    refine ⟨hqueued, hnext.trans ?_⟩
    exact congrArg (fun n => some (next + n * period.toNat)) hqueued.symm

/-! ### Runs -/

section

variable {s : TimedAxis} {period : Nat} (runs : s.hardware.shared.tickPeriod.toNat = period)
  (positive : 0 < period)
include runs positive

/-- A sample while the timer runs queues from the tick that is due next. -/
theorem reports_sample (pins : InputPins) (now : Nat) (queue : EventQueue) (rest : List Step) :
    let next := s.inputs.nextTick.getD (now + period)
    let after := s.step (.sample pins now queue)
    ∃ report, s.report? (.sample pins now queue) = some report ∧
      s.reports (.sample pins now queue :: rest) = report :: after.reports rest ∧
      report.time = now ∧ after.hardware.shared.tickPeriod.toNat = period ∧
      report.queued = InputMonitor.ticksQueued period next report.time report.room report.masked ∧
      after.inputs.nextTick = some (next + report.queued * period) := by
  obtain ⟨report, hreport, htime, -, hperiod, -, hrunning⟩ := s.sample_cases pins now queue
  have hpositive : s.hardware.shared.tickPeriod ≠ 0 := by
    intro hzero
    rw [hzero] at runs
    exact absurd runs (Nat.ne_of_lt positive)
  obtain ⟨hqueued, hnext⟩ := hrunning hpositive
  rw [runs] at hqueued hnext
  refine ⟨report, hreport, ?_, htime, (congrArg UInt32.toNat hperiod).trans runs, ?_, hnext⟩
  · rw [reports, hreport]
    rfl
  · rw [htime]
    exact hqueued

/-- As long as the timer is left alone, ticks are a period apart. -/
theorem paced_of_due {next : Nat} (due : s.inputs.nextTick = some next) {steps : List Step}
    (spared : ∀ step ∈ steps, step.Spares) :
    Paced period next (s.reports steps) ∧
      (s.run steps).inputs.nextTick =
        some (next + ((s.reports steps).map (·.queued)).sum * period) := by
  induction steps generalizing s next with
  | nil =>
      refine ⟨trivial, due.trans ?_⟩
      simp [reports]
  | cons step rest ih =>
      have hrest : ∀ later ∈ rest, later.Spares := fun later hmem =>
        spared later (List.mem_cons_of_mem step hmem)
      cases step with
      | order call =>
          have hspares := perform_shared_of_spares (spared _ List.mem_cons_self) s.hardware
          exact ih ((congrArg UInt32.toNat hspares).trans runs) due hrest
      | sample pins now queue =>
          obtain ⟨report, -, hreports, -, hperiod, hqueued, hnext⟩ :=
            reports_sample runs positive pins now queue rest
          rw [due, Option.getD_some] at hqueued hnext
          obtain ⟨hpaced, hlast⟩ := ih hperiod hnext hrest
          rw [hreports, List.map_cons, List.sum_cons, Nat.add_mul, ← Nat.add_assoc]
          exact ⟨⟨hqueued, hpaced⟩, hlast⟩

/-- The first tick is the one whose time the sampling has kept, or else is due one period
after the first sample. -/
theorem paced {steps : List Step} (spared : ∀ step ∈ steps, step.Spares) {first : TickReport}
    (hfirst : (s.reports steps).head? = some first) :
    let next := s.inputs.nextTick.getD (first.time + period)
    Paced period next (s.reports steps) ∧
      (s.run steps).inputs.nextTick =
        some (next + ((s.reports steps).map (·.queued)).sum * period) := by
  induction steps generalizing s with
  | nil => simp [reports] at hfirst
  | cons step rest ih =>
      have hrest : ∀ later ∈ rest, later.Spares := fun later hmem =>
        spared later (List.mem_cons_of_mem step hmem)
      cases step with
      | order call =>
          have hspares := perform_shared_of_spares (spared _ List.mem_cons_self) s.hardware
          exact ih ((congrArg UInt32.toNat hspares).trans runs) hrest hfirst
      | sample pins now queue =>
          obtain ⟨report, -, hreports, htime, hperiod, hqueued, hnext⟩ :=
            reports_sample runs positive pins now queue rest
          rw [hreports, List.head?_cons, Option.some.injEq] at hfirst
          subst hfirst htime
          obtain ⟨hpaced, hlast⟩ := paced_of_due hperiod positive hnext hrest
          rw [hreports, List.map_cons, List.sum_cons, Nat.add_mul]
          dsimp only
          rw [← Nat.add_assoc]
          exact ⟨⟨hqueued, hpaced⟩, hlast⟩

end

/-! ### What a start finds -/

/-- Whether the timer was running at the last of the samples. -/
def lastRunning (reports : List TickReport) : Bool :=
  (reports.map (·.running)).getLastD false

/-- The sampling keeps a time for the next tick from a sample that found the timer running
until one that does not. -/
theorem isSome_nextTick (s : TimedAxis) (steps : List Step) :
    (s.run steps).inputs.nextTick.isSome =
      ((s.reports steps).map (·.running)).getLastD s.inputs.nextTick.isSome := by
  induction steps generalizing s with
  | nil => rfl
  | cons step rest ih =>
      refine (ih (s.step step)).trans ?_
      cases step with
      | order call => rfl
      | sample pins now queue =>
          obtain ⟨report, hreport, -, hreported, -, hstopped, hrunning⟩ :=
            s.sample_cases pins now queue
          have hkept : (s.step (.sample pins now queue)).inputs.nextTick.isSome =
              report.running := by
            rw [hreported]
            by_cases hperiod : s.hardware.shared.tickPeriod = 0
            · rw [hstopped hperiod, decide_eq_false (not_not_intro hperiod)]
              rfl
            · rw [(hrunning hperiod).2, decide_eq_true hperiod]
              rfl
          rw [hkept, reports, hreport, Option.toList_some, List.singleton_append, List.map_cons,
            List.getLastD_cons]

/-- The axis when the timer has been started, after a run from power-up. -/
def started (id : AxisId) (clock : UInt32) (pins : InputPins) (before : List Step)
    (period : UInt32) : TimedAxis :=
  ((boot id clock pins).run before).step (.order (.startRamp period))

/-- In every run from here that leaves the timer alone, and in which times do not go back and
do not begin before `earliest`, the `k`-th tick is due `k` periods after the first sample. -/
def TicksAsDocumented (period earliest : Nat) (s : TimedAxis) : Prop :=
  ∀ steps first, (∀ step ∈ steps, step.Spares) → (s.reports steps).head? = some first →
    (earliest :: (s.reports steps).map (·.time)).IsChain (· ≤ ·) →
    OnSchedule (fun k => first.time + k * period) (s.reports steps)

theorem toNat_max_one (n : UInt32) : (max n 1).toNat = max n.toNat 1 := by
  by_cases h : n ≤ 1
  · have hle : n.toNat ≤ 1 := UInt32.le_iff_toNat_le.mp h
    rw [show max n 1 = 1 from if_pos h, Nat.max_eq_right hle]
    rfl
  · have hlt : 1 < n.toNat := UInt32.lt_iff_toNat_lt.mp (UInt32.not_le.mp h)
    rw [show max n 1 = n from if_neg h, Nat.max_eq_left (Nat.le_of_lt hlt)]

theorem contains_erase_self (source : InterruptSource) (set : InterruptSet) :
    (set.erase source).contains source = false := by
  have hbits : set.bits &&& ~~~source.bit &&& source.bit = 0 := by
    rw [UInt8.and_assoc]
    cases source <;> simp [InterruptSource.bit]
  exact decide_eq_false (not_not_intro hbits)

/-- With a time for the next tick left over, a first sample that comes late enough queues a
tick at once: its source unmasked, no new encoder edges, and room for those waiting and one
tick. -/
theorem exists_overdue {s : TimedAxis} {period next : Nat}
    (runs : s.hardware.shared.tickPeriod.toNat = period) (positive : 0 < period)
    (due : s.inputs.nextTick = some next) (earliest : Nat) :
    ∃ steps report, (∀ step ∈ steps, step.Spares) ∧ s.reports steps = [report] ∧
      earliest ≤ report.time ∧ Queues [report] 1 0 := by
  let unmasked := s.step (.order (.enable .rampTimer))
  let pins : InputPins := ⟨s.inputs.seenCount, ⟨false, false⟩⟩
  let now := max earliest next
  let queue : EventQueue := ⟨s.inputs.unqueued.toNat + 1, []⟩
  obtain ⟨report, hreport, hreports, htime, -, hqueued, -⟩ :=
    reports_sample (s := unmasked) runs positive pins now queue []
  refine ⟨[.order (.enable .rampTimer), .sample pins now queue], report, by simp [Step.Spares],
    hreports, htime ▸ Nat.le_max_left earliest next, Nat.one_pos, ?_⟩
  have hmasked : report.masked = false := by
    rw [← Option.some.inj hreport]
    exact contains_erase_self .rampTimer s.hardware.shared.masked
  have hroom : 1 ≤ report.room := by
    have hle := unmasked.inputs.room_le_sampleEncoder pins.count unmasked.hardware.shared queue
    have hnone : pins.count - unmasked.inputs.seenCount = 0 := UInt16.sub_self _
    rw [hnone, show (0 : UInt16).toUInt32 = 0 from rfl, UInt32.add_zero] at hle
    rw [← Option.some.inj hreport]
    have hplaces : queue.room = unmasked.inputs.unqueued.toNat + 1 := rfl
    dsimp only
    omega
  have hdue : 0 < InputMonitor.ticksDue period next now := by
    rw [InputMonitor.lt_ticksDue_iff positive, Nat.zero_mul]
    exact Nat.le_max_right earliest next
  rw [show unmasked.inputs.nextTick = some next from due, Option.getD_some, htime,
    InputMonitor.ticksQueued, hmasked, if_neg (by decide)] at hqueued
  rw [queuedBefore_cons_succ, queuedBefore_zero]
  omega

theorem not_documented_of_due {s : TimedAxis} {period next : Nat}
    (runs : s.hardware.shared.tickPeriod.toNat = period) (positive : 0 < period)
    (due : s.inputs.nextTick = some next) (earliest : Nat) :
    ¬ s.TicksAsDocumented period earliest := by
  intro hdocumented
  obtain ⟨steps, report, hspares, hreports, htime, hqueues⟩ :=
    exists_overdue runs positive due earliest
  have hschedule := hdocumented steps report hspares (by rw [hreports]; rfl)
    (by rw [hreports]; simpa using htime)
  rw [hreports] at hschedule
  -- The tick would be due a period after the sample that has queued it.
  obtain ⟨⟨first, hready⟩, -⟩ := (hschedule.queues_iff 1 le_rfl 0).mp hqueues
  obtain rfl := Option.some.inj hready.sampled
  have hcome := hready.come
  omega

/-- **When ramp ticks are queued.** Take any run from power-up and a start of the timer, with
a period that is at least one. Until the next order to the timer the ticks are one period
apart, and each of them is queued by the first sample, at or after it is due, that finds the
source not masked, all earlier ticks queued, and room; a sample that is not masked and leaves
room leaves no tick overdue. The first is due at the time that the sampling has kept, or one
period after the first sample if it has kept none, and what it keeps is when the next tick is
due. It has kept none exactly if the last sample before the start did not find a timer
running, and exactly then the `k`-th tick is due `k` periods after the first sample, in every
run. -/
theorem ticks_as_documented_iff_stop_sampled (id : AxisId) (clock : UInt32) (pins : InputPins)
    (before : List Step) (period : UInt32) :
    let s := started id clock pins before period
    let interval := max period.toNat 1
    let running := lastRunning ((boot id clock pins).reports before)
    (∀ steps first, (∀ step ∈ steps, step.Spares) → (s.reports steps).head? = some first →
        let due k := s.inputs.nextTick.getD (first.time + interval) + (k - 1) * interval
        OnSchedule due (s.reports steps) ∧
          (s.run steps).inputs.nextTick =
            some (due (((s.reports steps).map (·.queued)).sum + 1))) ∧
      (s.inputs.nextTick = none ↔ running = false) ∧
      ∀ earliest, s.TicksAsDocumented interval earliest ↔ running = false := by
  intro s interval running
  have hruns : s.hardware.shared.tickPeriod.toNat = interval := toNat_max_one period
  have hpositive : 0 < interval := by
    show 0 < max period.toNat 1
    omega
  have hkept : s.inputs.nextTick = none ↔ running = false := by
    have hsome : s.inputs.nextTick.isSome = running :=
      isSome_nextTick (boot id clock pins) before
    rw [← hsome, Option.isSome_eq_false_iff, Option.isNone_iff_eq_none]
  refine ⟨?_, hkept, ?_⟩
  · intro steps first hspared hfirst due
    obtain ⟨hpaced, hlast⟩ := paced hruns hpositive hspared hfirst
    exact ⟨hpaced.onSchedule hpositive, hlast⟩
  · intro earliest
    rw [← hkept]
    constructor
    · intro hdocumented
      cases hnext : s.inputs.nextTick with
      | none => rfl
      | some next => exact absurd hdocumented (not_documented_of_due hruns hpositive hnext earliest)
    · intro hnone steps first hspared hfirst _
      have honSchedule := (paced hruns hpositive hspared hfirst).1.onSchedule hpositive
      rw [hnone, Option.getD_none] at honSchedule
      refine honSchedule.congr fun k hk => ?_
      obtain ⟨more, rfl⟩ := Nat.exists_eq_add_of_le' hk
      rw [Nat.add_sub_cancel, Nat.succ_mul]
      omega

/-- A sample of open switches and a counter at zero, into an empty queue of fifteen places. -/
def still (now : Nat) : Step :=
  .sample ⟨0, ⟨false, false⟩⟩ now (.ofSlots 16)

/-- Ticks that a mask has made wait are queued together, each once. -/
example : (started .x 125000000 ⟨0, ⟨false, false⟩⟩ [] 100).reports
    [still 0, .order (.disable .rampTimer), still 100, .order (.enable .rampTimer), still 350] =
      [⟨0, true, false, 15, 0⟩, ⟨100, true, true, 15, 0⟩, ⟨350, true, false, 15, 3⟩] := by
  decide

/-- A timer of 100 microseconds, stopped and started again with 1000 after a sample at 0: the
next samples are at 50 and 100, and the latter queues a tick that is due at 1050. -/
theorem restart_ticks_early :
    let s := started .x 125000000 ⟨0, ⟨false, false⟩⟩
      [.order (.startRamp 100), still 0, .order .stopRamp] 1000
    s.reports [still 50, still 100] = [⟨50, true, false, 15, 0⟩, ⟨100, true, false, 15, 1⟩] ∧
      ¬ OnSchedule (fun k => 50 + k * 1000) (s.reports [still 50, still 100]) := by
  intro s
  have hreports : s.reports [still 50, still 100] =
      [⟨50, true, false, 15, 0⟩, ⟨100, true, false, 15, 1⟩] := by
    decide
  refine ⟨hreports, fun hschedule => ?_⟩
  rw [hreports] at hschedule
  obtain ⟨⟨report, hready⟩, -⟩ := (hschedule.queues_iff 1 le_rfl 1).mp ⟨by decide, by decide⟩
  obtain rfl := Option.some.inj hready.sampled
  exact absurd hready.come (by decide)

end TimedAxis

end XYStage
