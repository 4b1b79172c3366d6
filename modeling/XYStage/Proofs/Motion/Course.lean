/-
# XYStage.Proofs.Motion.Course -- a motion that nothing stops follows its plan

However many inputs an axis has had since a motion began, if none of them stopped it, the
axis is as many counts along the passage of the motion as there were, or has arrived
(`Passage.Reached`). If the end of the motion is in the range of positions, there is room
for the whole plan, so the passage is as long as the plan and no target is cut off.

Main statement: `motion_follows_plan`.
-/
import XYStage.Bench.Recorder
import XYStage.Proofs.Motion.Passage

namespace XYStage

set_option autoImplicit false

namespace Passage

/-- Where an axis is after so many counts of a motion that nothing stopped: on the
way, at the end, or at rest with counts behind it that belong to no motion. -/
inductive Reached (c : Passage) : Nat → AxisState → Prop where
  | underway {count : Nat} {s : AxisState} (h : c.Underway count s) : Reached c count s
  | arrived {count : Nat} {s : AxisState} (rest : s.moving = false)
      (complete : count = c.length) (position_eq : s.position.toInt = c.point count) :
      Reached c count s
  | past {count : Nat} {s : AxisState} (rest : s.moving = false) (h : c.length < count) :
      Reached c count s

theorem Reached.of_standing {c : Passage} {count : Nat} {s s' : AxisState}
    (h : c.Reached count s) (same : s'.standing = s.standing) : c.Reached count s' := by
  have hmoving := congrArg Standing.moving same
  cases h with
  | underway h => exact .underway (h.of_standing same)
  | arrived rest complete position_eq =>
      have hposition := congrArg (fun standing => standing.position.toInt) same
      exact .arrived (hmoving.trans rest) complete (hposition.trans position_eq)
  | past rest h => exact .past (hmoving.trans rest) h

end Passage

/-- Counts at rest complete nothing. -/
theorem Axis.encoderEdge_of_rest {α : Type} [AxisHardware α] {a : Axis α}
    (h : a.state.moving = false) :
    a.encoderEdge.1 = false ∧ a.encoderEdge.2.state.moving = false := by
  rcases a.encoderEdge_cases with ⟨-, hedge⟩ | ⟨hmoving, -⟩
  · rw [hedge]
    exact ⟨rfl, h⟩
  · exact absurd (hmoving.symm.trans h) (by decide)

/-- One count further along, or past the end. -/
theorem Passage.Reached.encoderEdge {α : Type} [AxisHardware α] {c : Passage} {count : Nat}
    {a : Axis α} (h : c.Reached count a.state) :
    a.encoderEdge.1 = decide (count + 1 = c.length) ∧
      c.Reached (count + 1) a.encoderEdge.2.state := by
  cases h with
  | underway h =>
      obtain ⟨hcount, hgoing, hend⟩ := h.encoderEdge
      refine ⟨hcount, ?_⟩
      cases hlast : a.encoderEdge.1 with
      | false => exact .underway (hgoing hlast)
      | true =>
          obtain ⟨hrest, hposition⟩ := hend hlast
          exact .arrived hrest (of_decide_eq_true (hcount.symm.trans hlast)) hposition
  | arrived rest complete _ =>
      obtain ⟨hquiet, hrest⟩ := Axis.encoderEdge_of_rest rest
      rw [hquiet, complete]
      exact ⟨by simp, .past hrest (Nat.lt_succ_self _)⟩
  | past rest hpast =>
      obtain ⟨hquiet, hrest⟩ := Axis.encoderEdge_of_rest rest
      rw [hquiet]
      exact ⟨(decide_eq_false (by omega)).symm, .past hrest (Nat.lt_succ_of_lt hpast)⟩

/-! ## Runs -/

/-- Take inputs in turn, keeping the answers. -/
def Axis.respondAll {α : Type} [AxisHardware α] :
    List (AxisInput α) → Axis α → List InputAnswer × Axis α
  | [], a => ([], a)
  | input :: inputs, a =>
      let (answer, a) := a.respond input
      let (answers, a) := a.respondAll inputs
      (answer :: answers, a)

/-- Whether a count completed a motion, if the answer is one to a count. -/
def InputAnswer.completion? : InputAnswer → Option Bool
  | .counted completed => some completed
  | _ => none

/-- **One input.** A count goes one further along the course; anything else that
does not stop the motion leaves the axis where it is. -/
theorem Passage.Reached.respond {α : Type} [AxisHardware α] {c : Passage} {count : Nat}
    {a : Axis α} (h : c.Reached count a.state) {input : AxisInput α}
    (unstopped : (a.respond input).1.isStop = false) :
    ((a.respond input).1.completion? = some (decide (count + 1 = c.length)) ∧
        c.Reached (count + 1) (a.respond input).2.state) ∨
      ((a.respond input).1.completion? = none ∧ c.Reached count (a.respond input).2.state) := by
  cases input with
  | encoderEdge =>
      obtain ⟨hcompleted, hreached⟩ := h.encoderEdge
      exact .inl ⟨congrArg some hcompleted, hreached⟩
  | rampTick => exact .inr ⟨rfl, h.of_standing a.rampTick_standing⟩
  | switchEdge switch pressed time =>
      refine .inr ⟨rfl, h.of_standing ?_⟩
      have hgoing : (a.switchEdge switch pressed time).1 ≠ .stopped := of_decide_eq_false unstopped
      exact ((a.switchEdge_standing switch pressed time).resolve_left fun hstop =>
        hgoing hstop.1).2
  | recovery time =>
      have hnone : (a.recoverEdges time).1 = none := by
        rw [← Option.not_isSome_iff_eq_none, Bool.not_eq_true]
        exact unstopped
      refine .inr ⟨rfl, h.of_standing ?_⟩
      exact ((a.recoverEdges_standing time).resolve_left fun hstop => hstop.1 hnone).2
  | hardware hardware => exact .inr ⟨rfl, h.of_standing rfl⟩

/-- For each count among the answers, whether it completed a motion. -/
def completions (answers : List InputAnswer) : List Bool :=
  answers.filterMap InputAnswer.completion?

/-- Counts are numbered along the course, and exactly the last one of the plan
completes it. -/
theorem Passage.Reached.respondAll {α : Type} [AxisHardware α] {c : Passage}
    {inputs : List (AxisInput α)} {count : Nat} {a : Axis α} (h : c.Reached count a.state)
    (unstopped : ∀ answer ∈ (a.respondAll inputs).1, answer.isStop = false) :
    c.Reached (count + (completions (a.respondAll inputs).1).length)
        (a.respondAll inputs).2.state ∧
      ∀ j, (completions (a.respondAll inputs).1)[j]? = some true ↔
        j < (completions (a.respondAll inputs).1).length ∧ count + j + 1 = c.length := by
  -- An input goes one count further or none, so the count is generalized.
  induction inputs generalizing count a with
  | nil => exact ⟨h, fun j => by simp [Axis.respondAll, completions]⟩
  | cons input inputs ih =>
      have hfirst : (a.respond input).1.isStop = false := unstopped _ List.mem_cons_self
      have hrest : ∀ answer ∈ ((a.respond input).2.respondAll inputs).1, answer.isStop = false :=
        fun answer hanswer => unstopped answer (List.mem_cons_of_mem _ hanswer)
      rcases h.respond hfirst with ⟨hcount, hreached⟩ | ⟨hcount, hreached⟩
      · obtain ⟨hend, hcompletions⟩ := ih hreached hrest
        have hcons : completions (a.respondAll (input :: inputs)).1 =
            decide (count + 1 = c.length) ::
              completions ((a.respond input).2.respondAll inputs).1 :=
          List.filterMap_cons_some hcount
        rw [hcons]
        refine ⟨?_, fun j => ?_⟩
        · rw [List.length_cons, Nat.add_comm _ 1, ← Nat.add_assoc]
          exact hend
        · cases j with
          | zero => simp
          | succ j =>
              rw [List.getElem?_cons_succ, hcompletions, List.length_cons]
              omega
      · have hsame : completions (a.respondAll (input :: inputs)).1 =
            completions ((a.respond input).2.respondAll inputs).1 :=
          List.filterMap_cons_none hcount
        rw [hsame]
        exact ih hreached hrest

/-- **A motion follows its plan.** The segments add up to the distance. Short of the
distance the axis moves, as many counts from its origin as there were, in the segment
of the plan, with the end of the segment as target, and no count has completed the
motion. The count that makes up the distance, and no other, completes it; then the
axis is at rest at the end. -/
theorem motion_follows_plan {α : Type} [AxisHardware α] {a : Axis α} {motion : Motion}
    {inputs : List (AxisInput α)} (started : (a.start motion).1 = .ok ())
    (fits : InRange (a.state.position.toInt + motion.distance.toInt))
    (unstopped : ∀ answer ∈ ((a.start motion).2.respondAll inputs).1, answer.isStop = false) :
    let answers := ((a.start motion).2.respondAll inputs).1
    let after := ((a.start motion).2.respondAll inputs).2
    let origin := a.state.position.toInt
    let sign := motion.direction.sign.toInt
    let distance := motion.distance.toInt.natAbs
    let counts := (completions answers).length
    ∃ plan, motion.profile = .ok plan ∧
      plan.rampUp.toNat + plan.cruise.toNat + plan.rampDown.toNat = distance ∧
      (counts < distance →
        after.state.moving = true ∧
        after.state.position.toInt = origin + sign * counts ∧
        true ∉ completions answers ∧
        (counts < plan.rampUp.toNat →
          after.state.segment = .accelerate ∧
          after.state.target.toInt = origin + sign * plan.rampUp.toNat) ∧
        (plan.rampUp.toNat ≤ counts → counts < plan.rampUp.toNat + plan.cruise.toNat →
          after.state.segment = .hold ∧
          after.state.target.toInt =
            origin + sign * (plan.rampUp.toNat + plan.cruise.toNat : Nat)) ∧
        (plan.rampUp.toNat + plan.cruise.toNat ≤ counts →
          after.state.segment = .decelerate ∧
          after.state.target.toInt = origin + sign *
            (plan.rampUp.toNat + plan.cruise.toNat + plan.rampDown.toNat : Nat))) ∧
      (counts = distance →
        after.state.moving = false ∧
        after.state.position.toInt = origin + motion.distance.toInt) ∧
      ∀ j, (completions answers)[j]? = some true ↔ j < counts ∧ j + 1 = distance := by
  intro answers after origin sign distance counts
  obtain ⟨c, hplan, horigin, hdirection, hpos, hspan, hsign, hstart⟩ := start_passage started
  have hpoint : ∀ n : Nat, c.point n = origin + sign * n := by
    intro n
    rw [Passage.point, horigin, hdirection]
  have hroom : c.plan.span ≤ c.room := by
    rw [← c.inRange_point_iff, hpoint, hspan, hsign]
    exact fits
  have hlength : c.length = distance := (Nat.min_eq_left hroom).trans hspan
  -- With room for the whole plan no target is cut off.
  have hgoal (segment : Segment) : c.goal segment = c.plan.endOf segment :=
    Nat.min_eq_left (Nat.le_trans (c.plan.endOf_le_span segment) hroom)
  have hbegin : c.Underway 0 (a.start motion).2.state := by
    rw [hstart]
    exact (Passage.begin_left hpos hdirection.symm horigin.symm).1 (Nat.lt_of_lt_of_le hpos hroom)
  have hrun := Passage.Reached.respondAll (.underway hbegin) unstopped
  have hreached : c.Reached counts after.state := Nat.zero_add counts ▸ hrun.1
  have hlast : ∀ j, (completions answers)[j]? = some true ↔ j < counts ∧ j + 1 = distance := by
    intro j
    rw [hrun.2, Nat.zero_add, hlength]
  refine ⟨c.plan, hplan, hspan, fun hshort => ?_, fun hend => ?_, hlast⟩
  · cases hreached with
    | arrived _ complete _ => omega
    | past _ h => omega
    | underway h =>
        have htarget := h.stands.target_eq
        rw [hgoal] at htarget
        refine ⟨h.moving, h.stands.position_eq.trans (hpoint _), fun hmem => ?_,
          fun hup => ?_, fun hup hhold => ?_, fun hhold => ?_⟩
        · obtain ⟨j, hj⟩ := List.mem_iff_getElem?.mp hmem
          have hlate := (hlast j).mp hj
          omega
        · have hseg := Trapezoid.segmentAt_accelerate hup
          rw [hseg, hpoint] at htarget
          exact ⟨h.segment_eq.trans hseg, htarget⟩
        · have hseg := Trapezoid.segmentAt_hold hup hhold
          rw [hseg, hpoint] at htarget
          exact ⟨h.segment_eq.trans hseg, htarget⟩
        · have hseg := Trapezoid.segmentAt_decelerate hhold
          rw [hseg, hpoint] at htarget
          exact ⟨h.segment_eq.trans hseg, htarget⟩
  · cases hreached with
    | underway h =>
        have hshort := h.short
        omega
    | arrived rest complete hposition =>
        refine ⟨rest, hposition.trans ?_⟩
        rw [hpoint, ← hsign, complete, hlength]
    | past _ h => omega

/-- Seven counts back, too few for the ramps: three counts up, one at most speed
and three down. -/
def sevenBack : Motion where
  direction := .negative
  distance := -7
  acceleration := 10
  startVelocity := 0
  holdVelocity := 10

/-- The third count begins the hold, whatever else came in between. -/
theorem sevenBack_after_three_counts :
    let a : Axis Recorder := .new .x (.new ⟨false, false⟩)
    let inputs : List (AxisInput Recorder) :=
      [.encoderEdge, .rampTick, .encoderEdge, .switchEdge .home false 9, .recovery 10, .encoderEdge]
    let after := ((a.start sevenBack).2.respondAll inputs).2
    after.state.moving = true ∧ after.state.position.toInt = -3 ∧
      after.state.segment = .hold ∧ after.state.target.toInt = -4 := by
  intro a inputs
  have hcounts : (completions ((a.start sevenBack).2.respondAll inputs).1).length = 3 := by
    decide +kernel
  obtain ⟨plan, hplan, -, hunderway, -, -⟩ := @motion_follows_plan Recorder _ a sevenBack inputs
    rfl ⟨by decide, by decide⟩ (by decide +kernel)
  obtain rfl : Trapezoid.mk 3 1 3 = plan := Except.ok.inj hplan
  obtain ⟨hmoving, hposition, -, -, hhold, -⟩ := hunderway (hcounts ▸ by decide)
  obtain ⟨hsegment, htarget⟩ := hhold (hcounts ▸ by decide) (hcounts ▸ by decide)
  refine ⟨hmoving, hposition.trans ?_, hsegment, htarget⟩
  rw [hcounts]
  rfl

end XYStage
