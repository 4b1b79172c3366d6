/-
# XYStage.Bench.Drive -- runs of many equal steps

A bench does the same thing to an axis or a controller many times over and notes
only what is worth a line: the edge that completed a motion, the edge at which
the segment changed, the event that ended a motion.

Edges at rest only count, so a run of them is made in one step, with the same outcome
(`Axis.encoderEdges_eq`).
-/
import XYStage.Controller.Basic

namespace XYStage

set_option autoImplicit false

/-- Do a step for every number from one to `count`, in order, and gather what the
steps note. -/
def repeated {σ β : Type} (count : Nat) (step : Nat → σ → List β × σ) (start : σ) : List β × σ :=
  let (notes, state) := Nat.fold count
    (fun i _ (notes, state) =>
      let (more, state) := step (i + 1) state
      (more.reverse ++ notes, state))
    (([] : List β), start)
  (notes.reverse, state)

theorem repeated_succ {σ β : Type} (count : Nat) (step : Nat → σ → List β × σ) (start : σ) :
    repeated (count + 1) step start =
      ((repeated count step start).1 ++ (step (count + 1) (repeated count step start).2).1,
        (step (count + 1) (repeated count step start).2).2) := by
  simp [repeated, Nat.fold_succ]

/-- An encoder edge at which an axis changed its segment or stopped. -/
structure SegmentChange where
  /-- The number of the edge in its run. -/
  edge : Nat
  /-- Whether the edge completed the motion. -/
  completed : Bool
  /-- The state after the edge. -/
  state : AxisState

theorem Direction.add_sign_mul_succ (position : Int32) (direction : Direction) (count : Nat) :
    position + direction.sign * Int32.ofNat (count + 1) =
      position + direction.sign * Int32.ofNat count + direction.sign := by
  rw [Int32.ofNat_add, Int32.mul_add, show Int32.ofNat 1 = 1 from rfl, Int32.mul_one,
    Int32.add_assoc]

namespace Axis

variable {α : Type} [AxisHardware α]

/-- The axis after encoder edges at rest, which only count. -/
def countedAtRest (count : Nat) (a : Axis α) : Axis α :=
  { a with state := { a.state with
    position := a.state.position + a.state.direction.sign * Int32.ofNat count } }

/-- An encoder edge of a run; its number is noted if it completed a motion. -/
def notedEdge (i : Nat) (a : Axis α) : List Nat × Axis α :=
  let (completed, a) := a.encoderEdge
  (if completed then [i] else [], a)

/-- Encoder edges; the numbers of those that completed a motion are noted. -/
def encoderEdges (count : Nat) (a : Axis α) : List Nat × Axis α :=
  if a.state.moving then repeated count notedEdge a else ([], a.countedAtRest count)

theorem notedEdge_of_rest {a : Axis α} (rest : a.state.moving = false) (i : Nat) :
    a.notedEdge i =
      ([], { a with state := { a.state with
        position := a.state.position + a.state.direction.sign } }) := by
  have hedge : a.encoderEdge = (false, { a with state := { a.state with
      position := a.state.position + a.state.direction.sign } }) :=
    if_pos (by simp [rest])
  rw [notedEdge, hedge]
  rfl

/-- Edges at rest are counted one by one. -/
theorem repeated_notedEdge_of_rest {a : Axis α} (rest : a.state.moving = false) (count : Nat) :
    repeated count notedEdge a = ([], a.countedAtRest count) := by
  induction count with
  | zero =>
      have hzero : a.state.position + a.state.direction.sign * Int32.ofNat 0 =
          a.state.position := by
        rw [show Int32.ofNat 0 = 0 from rfl, Int32.mul_zero, Int32.add_zero]
      rw [countedAtRest, hzero]
      rfl
  | succ count ih =>
      have hrest : (a.countedAtRest count).state.moving = false := rest
      rw [repeated_succ, ih, notedEdge_of_rest hrest, countedAtRest, countedAtRest,
        Direction.add_sign_mul_succ]
      rfl

/-- At rest all edges are counted at once, with the same outcome. -/
theorem encoderEdges_eq (a : Axis α) (count : Nat) :
    a.encoderEdges count = repeated count notedEdge a := by
  unfold encoderEdges
  split
  · rfl
  · next hrest => exact (repeated_notedEdge_of_rest (Bool.not_eq_true _ ▸ hrest) count).symm

/-- Ramp ticks. -/
def rampTicks (count : Nat) (a : Axis α) : Axis α :=
  Nat.fold count (fun _ _ a => a.rampTick) a

/-- Encoder edges, every `rampEvery`-th of them right after a ramp tick; the changes
of segment are noted. -/
def runEdges (count rampEvery : Nat) (a : Axis α) : List SegmentChange × Axis α :=
  repeated count
    (fun i before =>
      let a := if 0 < rampEvery ∧ i % rampEvery = 0 then before.rampTick else before
      let (completed, a) := a.encoderEdge
      if a.state.segment = before.state.segment ∧ a.state.moving = before.state.moving then ([], a)
      else ([⟨i, completed, a.state⟩], a))
    a

end Axis

namespace Controller

variable {δ α π σ : Type} [AxisHardware α]

/-- The same event many times; the ends of motions are noted with the number of
the event. -/
def handleMany (count : Nat) (event : InputEvent) (c : Controller δ α π σ) :
    List (Nat × MotionEnding) × Controller δ α π σ :=
  repeated count
    (fun i c =>
      let (ended, c) := c.handle event
      (ended.toList.map fun e => (i, e), c))
    c

end Controller

/-- Queue events, each as often as told, as far as they fit. The number that fits
comes first. -/
def EventQueue.pushAll (events : List (InputEvent × Nat)) (queue : EventQueue) : Nat × EventQueue :=
  events.foldl
    (fun (accepted, queue) (event, count) =>
      let (fitting, queue) := queue.pushMany count event
      (accepted + fitting, queue))
    (0, queue)

end XYStage
