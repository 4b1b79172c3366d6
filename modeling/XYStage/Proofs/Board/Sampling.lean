/-
# XYStage.Proofs.Board.Sampling -- nothing is lost between the inputs and the engine

The inputs of both axes are sampled into one bounded queue, from which their events are
applied. `Sampled` is an engine with its inputs and the queue between them, and a step of
it is a sample of one axis under any masks, the application of one event, or anything
else the engine does. A sample keeps the account of its own axis and is silent about the
other; an event that is applied stays in the account.

Main statement: `counts_and_edges_conserved`, for every run of such steps; the iterations
of the firmware are such runs (`Firmware.iterate_run`).
-/
import XYStage.Board.Firmware
import XYStage.Proofs.Board.Account
import XYStage.Proofs.Controller.Position

namespace XYStage

set_option autoImplicit false

/-! ## Engine, inputs and queue -/

variable {δ ε α π σ : Type}

/-- A controller with the sampling of its inputs, and the queue between them. -/
structure Sampled (δ α π σ : Type) where
  controller : Controller δ α π σ
  inputsX : InputMonitor
  inputsY : InputMonitor
  queue : EventQueue

namespace Sampled

def inputs (id : AxisId) (s : Sampled δ α π σ) : InputMonitor :=
  match id with
  | .x => s.inputsX
  | .y => s.inputsY

def setInputs (id : AxisId) (inputs : InputMonitor) (s : Sampled δ α π σ) : Sampled δ α π σ :=
  match id with
  | .x => { s with inputsX := inputs }
  | .y => { s with inputsY := inputs }

/-- Any controller, when the sampling of its inputs begins. -/
def start (controller : Controller δ α π σ) (pins : AxisId → InputPins) (slots : Nat) :
    Sampled δ α π σ where
  controller
  inputsX := (InputMonitor.new .x (pins .x) .new).1
  inputsY := (InputMonitor.new .y (pins .y) .new).1
  queue := .ofSlots slots

/-- What can happen next. -/
inductive Step (δ α π σ : Type) where
  /-- The inputs of one axis are sampled, at a time and under masks of any kind. -/
  | sample (id : AxisId) (pins : InputPins) (now : Nat) (shared : SharedSignals)
  /-- The oldest event of the queue, if there is one, is applied. -/
  | apply
  | poll
  | recovery (now : UInt32)
  /-- The devices under the controller are found in any other state. -/
  | outside (line : δ) (x y : α) (sensors : π) (store : σ)

/-- The reading of the counter of an axis that a step makes. -/
def Step.reading? (id : AxisId) : Step δ α π σ → Option UInt16
  | .sample axis pins _ _ => if axis = id then some pins.count else none
  | _ => none

/-- The event that a step applies. -/
def applied? (step : Step δ α π σ) (s : Sampled δ α π σ) : Option InputEvent :=
  match step with
  | .apply => s.queue.events.head?
  | _ => none

variable [AxisHardware α] [SerialLine δ ε] [TemperatureSource π] [SettingStore σ]

def step : Step δ α π σ → Sampled δ α π σ → Sampled δ α π σ
  | .sample id pins now shared, s =>
      let (_, queue, inputs) := (s.inputs id).sample pins now shared s.queue
      { s.setInputs id inputs with queue }
  | .apply, s =>
      match s.queue.events with
      | [] => s
      | event :: rest =>
          { s with
            controller := (s.controller.handle event).2
            queue := { s.queue with events := rest } }
  | .poll, s => { s with controller := s.controller.react .poll }
  | .recovery now, s => { s with controller := s.controller.react (.recovery now) }
  | .outside line x y sensors store, s =>
      { s with controller := s.controller.react (.outside line x y sensors store) }

def run : List (Step δ α π σ) → Sampled δ α π σ → Sampled δ α π σ
  | [], s => s
  | step :: rest, s => (s.step step).run rest

/-- The events that the steps of a run apply, in order. -/
def applied : List (Step δ α π σ) → Sampled δ α π σ → List InputEvent
  | [], _ => []
  | step :: rest, s => (s.applied? step).toList ++ (s.step step).applied rest

theorem run_append (first second : List (Step δ α π σ)) (s : Sampled δ α π σ) :
    s.run (first ++ second) = (s.run first).run second := by
  induction first generalizing s with
  | nil => rfl
  | cons step rest ih => exact ih (s.step step)

omit [AxisHardware α] [SerialLine δ ε] [TemperatureSource π] [SettingStore σ] in
@[simp] theorem inputs_setInputs_self (id : AxisId) (inputs : InputMonitor)
    (s : Sampled δ α π σ) : (s.setInputs id inputs).inputs id = inputs := by
  cases id <;> rfl

omit [AxisHardware α] [SerialLine δ ε] [TemperatureSource π] [SettingStore σ] in
theorem inputs_setInputs_of_ne {id other : AxisId} (h : other ≠ id) (inputs : InputMonitor)
    (s : Sampled δ α π σ) : (s.setInputs id inputs).inputs other = s.inputs other := by
  cases id <;> cases other <;> first | rfl | exact absurd rfl h

/-- A sample of one axis leaves the inputs of the other. -/
theorem inputs_sample_of_ne {axis id : AxisId} (h : id ≠ axis) (pins : InputPins) (now : Nat)
    (shared : SharedSignals) (s : Sampled δ α π σ) :
    (s.step (.sample axis pins now shared)).inputs id = s.inputs id :=
  inputs_setInputs_of_ne h _ s

theorem inputs_sample_self (id : AxisId) (pins : InputPins) (now : Nat)
    (shared : SharedSignals) (s : Sampled δ α π σ) :
    (s.step (.sample id pins now shared)).inputs id =
      ((s.inputs id).sample pins now shared s.queue).2.2 :=
  inputs_setInputs_self id _ s

theorem step_apply_of_nil {s : Sampled δ α π σ} (h : s.queue.events = []) :
    s.step .apply = s := by
  simp only [step, h]

theorem step_apply_of_cons {s : Sampled δ α π σ} {event : InputEvent} {rest : List InputEvent}
    (h : s.queue.events = event :: rest) :
    s.step .apply =
      { s with
        controller := (s.controller.handle event).2
        queue := { s.queue with events := rest } } := by
  simp only [step, h]

/-! ### The account over a run -/

/-- The account of every axis, over the events already applied and those still queued. -/
def Accounted (pins : AxisId → InputPins) (readings : AxisId → List UInt16)
    (earlier : List InputEvent) (s : Sampled δ α π σ) : Prop :=
  ∀ id, (s.inputs id).Accounts id (pins id) (readings id) (earlier ++ s.queue.events)

omit [AxisHardware α] [SerialLine δ ε] [TemperatureSource π] [SettingStore σ] in
theorem start_accounted (c : Controller δ α π σ) (pins : AxisId → InputPins) (slots : Nat) :
    (start c pins slots).Accounted pins (fun _ => []) [] := by
  intro id
  cases id with
  | x => exact InputMonitor.accounts_new .x (pins .x) .new
  | y => exact InputMonitor.accounts_new .y (pins .y) .new

/-- **One step.** A sample queues events of its own axis, and the event applied moves from
the queue to those applied; nothing else touches inputs or queue. -/
theorem step_accounted {pins : AxisId → InputPins} {readings : AxisId → List UInt16}
    {earlier : List InputEvent} {s : Sampled δ α π σ} (h : s.Accounted pins readings earlier)
    (step : Step δ α π σ) :
    (s.step step).Accounted pins (fun id => readings id ++ (step.reading? id).toList)
      (earlier ++ (s.applied? step).toList) := by
  intro id
  cases step with
  | sample axis pinsNow now shared =>
      simp only [applied?, Option.toList_none, List.append_nil]
      by_cases hid : id = axis
      · subst hid
        simp only [Step.reading?, if_pos, Option.toList_some]
        rw [inputs_sample_self]
        exact (h id).sample pinsNow now shared
      · have hgrows : s.queue.Grows axis _ :=
          (InputMonitor.Queueing.sample ⟨(h axis).id_eq, .refl _ _⟩ pinsNow now shared).2
        obtain ⟨more, hmore, hsame⟩ := hgrows
        have hsilent : Silent id more := by
          intro event hmem hevent
          rw [hsame event hmem] at hevent
          exact absurd hevent.symm hid
        have hkept := (h id).silent hsilent (s.inputs id).nextTick
        have hqueue : (s.step (.sample axis pinsNow now shared)).queue = s.queue.extend more := hmore
        simp only [Step.reading?, if_neg (Ne.symm hid), Option.toList_none, List.append_nil]
        rw [inputs_sample_of_ne hid, hqueue]
        simpa [EventQueue.extend] using hkept
  | apply =>
      simp only [Step.reading?, Option.toList_none, List.append_nil]
      have hid := h id
      cases hevents : s.queue.events with
      | nil =>
          rw [step_apply_of_nil hevents]
          simpa [applied?, hevents] using hid
      | cons event rest =>
          rw [hevents] at hid
          rw [step_apply_of_cons hevents]
          simp only [applied?, hevents, List.head?_cons, Option.toList_some, List.append_assoc,
            List.singleton_append]
          exact hid
  | poll =>
      simp only [Step.reading?, applied?, Option.toList_none, List.append_nil]
      exact h id
  | recovery now =>
      simp only [Step.reading?, applied?, Option.toList_none, List.append_nil]
      exact h id
  | outside line x y sensors store =>
      simp only [Step.reading?, applied?, Option.toList_none, List.append_nil]
      exact h id

theorem run_accounted {pins : AxisId → InputPins} {readings : AxisId → List UInt16}
    {earlier : List InputEvent} {s : Sampled δ α π σ} (h : s.Accounted pins readings earlier)
    (steps : List (Step δ α π σ)) :
    (s.run steps).Accounted pins (fun id => readings id ++ steps.filterMap (Step.reading? id))
      (earlier ++ s.applied steps) := by
  induction steps generalizing s readings earlier with
  | nil => simpa [run, applied] using h
  | cons step rest ih =>
      have hlater := ih (step_accounted h step)
      have hreadings : (fun id => readings id ++ (step.reading? id).toList ++
            rest.filterMap (Step.reading? id)) =
          fun id => readings id ++ (step :: rest).filterMap (Step.reading? id) := by
        funext id
        cases hreading : step.reading? id <;> simp [hreading]
      rw [hreadings, List.append_assoc] at hlater
      exact hlater

/-! ### Positions -/

/-- What a step makes of the position of an axis. -/
inductive Shift (id : AxisId) (s : Sampled δ α π σ) : Step δ α π σ → Int32 → Prop where
  /-- One count, in the direction the axis was last told, for the edge that is applied. -/
  | counted (edge : s.queue.events.head? = some (.encoder id)) :
      Shift id s .apply (s.controller.position id + (s.controller.direction id).sign)
  /-- Zero, at the end of homing. -/
  | reset (homed : s.controller.poll.1.record.rested = some ⟨.homing .retract, .idle⟩) :
      Shift id s .poll 0
  | kept {step : Step δ α π σ}
      (uncounted : s.applied? step ≠ some (.encoder id))
      (unhomed : step = .poll →
        s.controller.poll.1.record.rested ≠ some ⟨.homing .retract, .idle⟩) :
      Shift id s step (s.controller.position id)

theorem step_shift (step : Step δ α π σ) (id : AxisId) (s : Sampled δ α π σ) :
    s.Shift id step ((s.step step).controller.position id) := by
  cases step with
  | sample axis pins now shared =>
      have hposition : (s.step (.sample axis pins now shared)).controller.position id =
          s.controller.position id := by cases axis <;> rfl
      rw [hposition]
      exact .kept nofun nofun
  | apply =>
      by_cases hedge : s.queue.events.head? = some (.encoder id)
      · obtain ⟨rest, hevents⟩ := List.head?_eq_some_iff.mp hedge
        have hposition : (s.step .apply).controller.position id =
            s.controller.position id + (s.controller.direction id).sign := by
          rw [step_apply_of_cons hevents, Controller.handle_position, if_pos rfl]
        rw [hposition]
        exact .counted hedge
      · have hposition : (s.step .apply).controller.position id = s.controller.position id := by
          cases hevents : s.queue.events with
          | nil => rw [step_apply_of_nil hevents]
          | cons event rest =>
              rw [hevents, List.head?_cons, Option.some.injEq] at hedge
              rw [step_apply_of_cons hevents, Controller.handle_position, if_neg hedge]
        rw [hposition]
        exact .kept hedge nofun
  | poll =>
      have hposition := s.controller.poll_position id
      by_cases homed : s.controller.poll.1.record.rested = some ⟨.homing .retract, .idle⟩
      · rw [if_pos homed] at hposition
        show s.Shift id .poll (s.controller.poll.2.position id)
        rw [hposition]
        exact .reset homed
      · rw [if_neg homed] at hposition
        show s.Shift id .poll (s.controller.poll.2.position id)
        rw [hposition]
        exact .kept nofun fun _ => homed
  | recovery now =>
      show s.Shift id (.recovery now) ((s.controller.recoverEdges now).2.position id)
      rw [Controller.recoverEdges_position]
      exact .kept nofun nofun
  | outside line x y sensors store =>
      have hposition : (s.step (.outside line x y sensors store)).controller.position id =
          s.controller.position id := by cases id <;> rfl
      rw [hposition]
      exact .kept nofun nofun

/-- **Counts and edges are conserved.** In every run from the moment sampling begins,
and for each axis: the counter's edges, summed modulo `2 ^ 16` from reading to reading,
are those applied to the engine, those queued and those that wait, as long as the sum is
less than `2 ^ 32`. Whatever comes next moves the position by one count for an edge that
is applied, or to zero, or not at all. The levels queued for a switch alternate from the
opposite of the level it began with, and the last is the one noted as reported. After a
sample, edges wait only for a mask or for room, and so does a level not yet reported. -/
theorem counts_and_edges_conserved (c : Controller δ α π σ) (pins : AxisId → InputPins)
    (slots : Nat) (steps : List (Step δ α π σ)) (id : AxisId) :
    let begun := start c pins slots
    let s := begun.run steps
    let counted := edgesBetween (pins id).count (steps.filterMap (Step.reading? id))
    (counted < 2 ^ 32 → counted = (begun.applied steps).count (.encoder id) +
        s.queue.events.count (.encoder id) + (s.inputs id).unqueued.toNat) ∧
      (∀ next, s.Shift id next ((s.step next).controller.position id)) ∧
      (∀ switch,
        let levels := levelsOf id switch (begun.applied steps ++ s.queue.events)
        ((pins id).closed.get switch :: levels).IsChain (· ≠ ·) ∧
          levels.getLastD ((pins id).closed.get switch) = (s.inputs id).reported.get switch) ∧
      ∀ pinsNow now shared,
        let later := s.step (.sample id pinsNow now shared)
        ((later.inputs id).unqueued = 0 ∨
            InputMonitor.Deferred .encoder shared later.queue) ∧
          ∀ switch, (later.inputs id).reported.get switch = pinsNow.closed.get switch ∨
            InputMonitor.Deferred (InputMonitor.source switch) shared later.queue := by
  intro begun s counted
  have haccounts : (s.inputs id).Accounts id (pins id) (steps.filterMap (Step.reading? id))
      (begun.applied steps ++ s.queue.events) := by
    simpa using run_accounted (start_accounted c pins slots) steps id
  refine ⟨?_, ?_, ?_, ?_⟩
  · intro small
    have hcounts := haccounts.counts_eq small
    rw [List.count_append] at hcounts
    exact hcounts
  · intro next
    exact s.step_shift next id
  · intro switch levels
    constructor
    · exact haccounts.alternates switch
    · have hlast := haccounts.reported_eq switch
      rw [List.getLast?_cons] at hlast
      rw [List.getLastD_eq_getLast?]
      exact Option.some.inj hlast
  · intro pinsNow now shared later
    have hlater : later.inputs id =
        ((s.inputs id).sample pinsNow now shared s.queue).2.2 := s.inputs_sample_self id _ _ _
    rw [hlater]
    exact InputMonitor.sample_deferred pinsNow now shared s.queue (s.inputs id)

end Sampled

/-! ## The firmware -/

namespace Firmware

open Sampled (Step)

variable {υ : Type}

/-- The controller, inputs and queue of the firmware. -/
def sampled (f : Firmware υ) : Sampled (UartLine υ) PwmHardware ChannelBank SettingTable :=
  ⟨f.controller, f.inputsX, f.inputsY, f.queue⟩

variable [Uart υ]

/-- Draining the queue is applying its events one by one. -/
theorem run_drain (inputsX inputsY : InputMonitor) (queue : EventQueue)
    (c : BoardController υ) :
    let drained := c.drain queue
    Sampled.run (List.replicate queue.events.length Step.apply)
        ⟨c, inputsX, inputsY, queue⟩ =
      ⟨drained.2.2.2, inputsX, inputsY, drained.2.2.1⟩ := by
  obtain ⟨capacity, events⟩ := queue
  induction events generalizing c with
  | nil => rfl
  | cons event rest ih => exact ih (c.handle event).2

/-- Sampling both axes is sampling each under the masks its hardware holds, and then
finding the levels in the hardware. -/
theorem sample_run (pinsX pinsY : InputPins) (now : Nat) (f : Firmware υ) :
    let sampled := f.sample pinsX pinsY now
    sampled.sampled = f.sampled.run
      [.sample .x pinsX now f.controller.axes.x.hardware.shared,
        .sample .y pinsY now f.controller.axes.y.hardware.shared,
        .outside f.controller.exchange.frames.line sampled.controller.axes.x.hardware
          sampled.controller.axes.y.hardware f.controller.sensors f.controller.store] := by
  obtain ⟨controller, inputsX, inputsY, queue⟩ := f
  simp only [Firmware.sample, sampled, Sampled.run, Sampled.step, Sampled.inputs,
    Sampled.setInputs, Controller.react]

/-- The board begins as sampling begins. -/
theorem boot_sampled (clock : UInt32) (pinsX pinsY : InputPins) (uart : υ) (sensors : ChannelBank)
    (store : SettingTable) :
    let board := boot clock pinsX pinsY uart sensors store
    board.sampled = .start board.controller
      (fun id => match id with | .x => pinsX | .y => pinsY) queueSlots := rfl

/-- **An iteration of the firmware is such a run**, in which each axis is sampled once. -/
theorem iterate_run (pinsX pinsY : InputPins) (f : Firmware υ) :
    ∃ steps, (f.iterate pinsX pinsY).2.sampled = f.sampled.run steps ∧
      steps.filterMap (Step.reading? .x) = [pinsX.count] ∧
      steps.filterMap (Step.reading? .y) = [pinsY.count] := by
  let now := Uart.micros f.controller.exchange.frames.line.uart
  let after := f.sample pinsX pinsY now
  let sampling : List (Step (UartLine υ) PwmHardware ChannelBank SettingTable) :=
    [.sample .x pinsX now f.controller.axes.x.hardware.shared,
      .sample .y pinsY now f.controller.axes.y.hardware.shared,
      .outside f.controller.exchange.frames.line after.controller.axes.x.hardware
        after.controller.axes.y.hardware f.controller.sensors f.controller.store]
  let draining : List (Step (UartLine υ) PwmHardware ChannelBank SettingTable) :=
    List.replicate after.queue.events.length .apply
  have hsampled : f.sampled.run sampling = after.sampled := (f.sample_run pinsX pinsY now).symm
  have hdrained : after.sampled.run draining = _ :=
    run_drain after.inputsX after.inputsY after.queue after.controller
  have hquiet (id : AxisId) : draining.filterMap (Step.reading? id) = [] := by
    apply List.filterMap_eq_nil_iff.mpr
    intro step hmem
    rw [List.eq_of_mem_replicate hmem]
    rfl
  refine ⟨sampling ++ draining ++ [.recovery (UInt32.ofNat (now / 1000)), .poll], ?_, ?_, ?_⟩
  · rw [Sampled.run_append, Sampled.run_append, hsampled, hdrained]
    unfold iterate sampled
    dsimp only [Sampled.run, Sampled.step, Controller.react]
  · rw [List.filterMap_append, List.filterMap_append, hquiet]
    rfl
  · rw [List.filterMap_append, List.filterMap_append, hquiet]
    rfl

end Firmware

end XYStage
