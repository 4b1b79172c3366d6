/-
# XYStage.Proofs.Motion.Passage -- a motion, count by count

A `Passage` is where a motion begins, its direction and its plan. After `n` counts an
axis on it stands `n` counts from the origin, in the segment that the plan has there
(`Trapezoid.segmentAt`). Targets are clamped to the range of positions, so the target is
the end of that segment or the end of the range, whichever comes first
(`Passage.goal`), and the motion takes the counts of its plan or as many as there is
room for (`Passage.length`).

Each segment begins where the one before it ended, which is inside the range, so nothing
is ever carried: a segment is left exactly at its target (`Stands.enterThrough`). An axis
on the way (`Passage.Underway`) stays on it count by count (`Underway.encoderEdge`), and
whatever is no count and does not stop the motion leaves the axis where it is
(`AxisState.standing`).
-/
import XYStage.Proofs.Motion.Operation
import XYStage.Proofs.Motion.Planning

namespace XYStage

set_option autoImplicit false

/-! ## Positions -/

/-- Whether a count is a position. -/
def InRange (count : Int) : Prop := -2147483648 ≤ count ∧ count < 2147483648

theorem Direction.sign_toInt (direction : Direction) :
    direction.sign.toInt = 1 ∨ direction.sign.toInt = -1 := by
  cases direction
  · exact .inl (by decide)
  · exact .inr (by decide)

theorem toInt_add_sign {position : Int32} {direction : Direction}
    (h : InRange (position.toInt + direction.sign.toInt)) :
    (position + direction.sign).toInt = position.toInt + direction.sign.toInt := by
  obtain ⟨hlow, hhigh⟩ := h
  rw [Int32.toInt_add, Int.bmod_eq_of_le (by omega) (by omega)]

/-- Counts from a position to the end of the range of positions. -/
def roomAhead (direction : Direction) (position : Int32) : Nat :=
  match direction with
  | .positive => (2147483647 - position.toInt).toNat
  | .negative => (position.toInt + 2147483648).toNat

/-! ## Segments in turn -/

namespace Segment

theorem following_of_cons {segment next : Segment} {rest : List Segment}
    (h : segment.following = next :: rest) : next.following = rest := by
  cases segment with
  | accelerate =>
      obtain ⟨rfl, rfl⟩ := List.cons.inj h
      rfl
  | hold =>
      obtain ⟨rfl, rfl⟩ := List.cons.inj h
      rfl
  | decelerate => cases h

theorem eq_decelerate_of_following {segment : Segment} (h : segment.following = []) :
    segment = .decelerate := by
  cases segment with
  | decelerate => rfl
  | accelerate => cases h
  | hold => cases h

end Segment

namespace Trapezoid

variable {plan : Trapezoid} {segment next : Segment} {rest : List Segment}

theorem endOf_of_following (h : segment.following = next :: rest) :
    plan.endOf next = plan.endOf segment + (plan.lengthOf next).toNat := by
  cases segment with
  | accelerate =>
      obtain ⟨rfl, rfl⟩ := List.cons.inj h
      rfl
  | hold =>
      obtain ⟨rfl, rfl⟩ := List.cons.inj h
      rfl
  | decelerate => cases h

theorem segmentAt_of_following (h : segment.following = next :: rest) {count : Nat}
    (past : plan.endOf segment ≤ count) (short : count < plan.endOf next) :
    plan.segmentAt count = next := by
  cases segment with
  | accelerate =>
      obtain ⟨rfl, rfl⟩ := List.cons.inj h
      exact segmentAt_hold past short
  | hold =>
      obtain ⟨rfl, rfl⟩ := List.cons.inj h
      exact segmentAt_decelerate past
  | decelerate => cases h

end Trapezoid

/-- Where a motion begins, which way it goes and by which plan. -/
structure Passage where
  origin : Int32
  direction : Direction
  plan : Trapezoid

namespace Passage

def room (c : Passage) : Nat :=
  roomAhead c.direction c.origin

/-- Counts from the origin to the target of a segment. -/
def goal (c : Passage) (segment : Segment) : Nat :=
  min (c.plan.endOf segment) c.room

/-- The counts that the motion takes, if there is room for any. -/
def length (c : Passage) : Nat :=
  min c.plan.span c.room

/-- So many counts from the origin. -/
def point (c : Passage) (count : Nat) : Int :=
  c.origin.toInt + c.direction.sign.toInt * count

theorem room_cases (c : Passage) :
    c.direction.sign.toInt = 1 ∧ (c.room : Int) = 2147483647 - c.origin.toInt ∨
      c.direction.sign.toInt = -1 ∧ (c.room : Int) = c.origin.toInt + 2147483648 := by
  have hlow := c.origin.le_toInt
  have hhigh := c.origin.toInt_lt
  unfold room roomAhead
  cases c.direction with
  | positive =>
      refine .inl ⟨by decide, ?_⟩
      dsimp only
      omega
  | negative =>
      refine .inr ⟨by decide, ?_⟩
      dsimp only
      omega

theorem inRange_point_iff (c : Passage) (count : Nat) : InRange (c.point count) ↔ count ≤ c.room := by
  have hlow := c.origin.le_toInt
  have hhigh := c.origin.toInt_lt
  unfold InRange point
  rcases c.room_cases with ⟨hs, hroom⟩ | ⟨hs, hroom⟩ <;> rw [hs] <;> omega

theorem point_add (c : Passage) (m n : Nat) :
    c.point (m + n) = c.point m + c.direction.sign.toInt * n := by
  rcases c.direction.sign_toInt with hs | hs <;> simp only [point, hs] <;> omega

/-- Beyond the end of the range there is only its end. -/
theorem toInt_clampPosition_point (c : Passage) (count : Nat) :
    (clampPosition (c.point count)).toInt = c.point (min count c.room) := by
  have hlow := c.origin.le_toInt
  have hhigh := c.origin.toInt_lt
  unfold clampPosition point
  rw [Int32.toInt_ofInt_of_le (by omega) (by omega)]
  rcases c.room_cases with ⟨hs, hroom⟩ | ⟨hs, hroom⟩ <;> rw [hs] <;> omega

theorem goal_le_length (c : Passage) (segment : Segment) : c.goal segment ≤ c.length := by
  have hspan := c.plan.endOf_le_span segment
  simp only [goal, length]
  omega

theorem lt_goal_segmentAt {c : Passage} {count : Nat} (h : count < c.length) :
    count < c.goal (c.plan.segmentAt count) := by
  obtain ⟨hspan, hroom⟩ := Nat.lt_min.mp h
  exact Nat.lt_min.mpr ⟨Trapezoid.lt_endOf_segmentAt hspan, hroom⟩

/-- A target that is clamped and moved on is clamped where it would be without the first
clamp. -/
theorem goal_of_following (c : Passage) {segment next : Segment} {rest : List Segment}
    (h : segment.following = next :: rest) :
    c.goal next = min (c.goal segment + (c.plan.lengthOf next).toNat) c.room := by
  rw [goal, goal, Trapezoid.endOf_of_following h]
  omega

/-! ## Where an axis stands -/

/-- An axis so many counts from the origin, with its target so many counts from it. -/
structure Stands (c : Passage) (count goal : Nat) (s : AxisState) : Prop where
  direction_eq : s.direction = c.direction
  profile_eq : s.profile = c.plan
  position_eq : s.position.toInt = c.point count
  target_eq : s.target.toInt = c.point goal
  goal_le : goal ≤ c.room

namespace Stands

variable {c : Passage} {count goal : Nat} {s : AxisState}

theorem segmentDone_iff (h : c.Stands count goal s) : s.segmentDone = true ↔ goal ≤ count := by
  rw [AxisState.segmentDone, decide_eq_true_iff, h.direction_eq, h.position_eq, h.target_eq]
  rcases c.direction.sign_toInt with hs | hs <;> simp only [point, hs] <;> omega

/-- So many counts ahead, or at the end of the range. -/
theorem ahead (h : c.Stands count goal s) (length : UInt32) :
    (s.ahead length).toInt = c.point (min (count + length.toNat) c.room) := by
  rw [AxisState.ahead, h.position_eq, h.direction_eq, ← c.point_add]
  exact c.toInt_clampPosition_point _

/-- A segment begins at the target of the one before it, with nothing to carry. -/
theorem enter (h : c.Stands count count s) (next : Segment) :
    c.Stands count (min (count + (c.plan.lengthOf next).toNat) c.room) (s.enter next) := by
  refine ⟨h.direction_eq, h.profile_eq, h.position_eq, ?_, Nat.min_le_right _ _⟩
  show (clampPosition _).toInt = _
  rw [h.ahead, h.profile_eq, h.target_eq, h.position_eq, Int.sub_self, Int.add_zero,
    c.toInt_clampPosition_point, Nat.min_eq_left (Nat.min_le_right _ _)]

theorem of_moving (h : c.Stands count goal s) (moving : Bool) :
    c.Stands count goal { s with moving } :=
  ⟨h.direction_eq, h.profile_eq, h.position_eq, h.target_eq, h.goal_le⟩

end Stands

/-- What leaving a segment at its target leads to: the segment of the plan there, or the
end of the motion, where the last segment is complete. -/
structure Left (c : Passage) (count : Nat) (left : Bool × AxisState) : Prop where
  going : count < c.length → left.1 = true ∧ left.2.segment = c.plan.segmentAt count ∧
    c.Stands count (c.goal (c.plan.segmentAt count)) left.2
  ended : c.length ≤ count → left.1 = false ∧ c.Stands count count left.2 ∧
    left.2.segment = .decelerate

theorem Stands.enterThrough {c : Passage} {count : Nat} {segments : List Segment} {s : AxisState}
    (h : c.Stands count count s) (hgoal : c.goal s.segment = count)
    (hsegments : s.segment.following = segments) :
    c.Left count (AxisState.enterThrough segments s) := by
  -- Segments that are complete as they begin leave the axis where it is.
  induction segments generalizing s with
  | nil =>
      have hlast := Segment.eq_decelerate_of_following hsegments
      rw [hlast] at hgoal
      exact ⟨fun hlt => absurd hgoal (Nat.ne_of_gt hlt), fun _ => ⟨rfl, h, hlast⟩⟩
  | cons next rest ih =>
      have hnext := h.enter next
      rw [← hgoal, ← c.goal_of_following hsegments, hgoal] at hnext
      by_cases hdone : c.goal next ≤ count
      · have hsame : c.goal next = count := by
          have hroom := h.goal_le
          rw [c.goal_of_following hsegments] at hdone ⊢
          omega
        have hthrough : AxisState.enterThrough (next :: rest) s =
            AxisState.enterThrough rest (s.enter next) :=
          if_pos (hnext.segmentDone_iff.mpr hdone)
        rw [hsame] at hnext
        rw [hthrough]
        exact ih hnext hsame (Segment.following_of_cons hsegments)
      · have hopen : ¬ (s.enter next).segmentDone = true :=
          fun hclosed => hdone (hnext.segmentDone_iff.mp hclosed)
        have hthrough : AxisState.enterThrough (next :: rest) s = (true, s.enter next) :=
          if_neg hopen
        have hseg : c.plan.segmentAt count = next := by
          obtain ⟨hshort, hroom⟩ := Nat.lt_min.mp (Nat.not_le.mp hdone)
          refine Trapezoid.segmentAt_of_following hsegments ?_ hshort
          unfold goal at hgoal
          omega
        have hle := c.goal_le_length next
        rw [hthrough]
        refine ⟨fun _ => ⟨rfl, hseg.symm, ?_⟩, fun hover => ?_⟩
        · rw [hseg]
          exact hnext
        · omega

theorem Stands.leave {c : Passage} {count : Nat} {s : AxisState} (h : c.Stands count count s)
    (hgoal : c.goal s.segment = count) : c.Left count s.leave :=
  h.enterThrough hgoal rfl

/-! ## The motion begins -/

/-- The first segment begins as if it were entered from the end of an empty one. -/
theorem enterFirst_left {c : Passage} {s : AxisState} (hdirection : s.direction = c.direction)
    (hprofile : s.profile = c.plan) (hposition : s.position = c.origin) :
    (0 < c.length → s.enterFirst.segment = c.plan.segmentAt 0 ∧
        c.Stands 0 (c.goal (c.plan.segmentAt 0)) s.enterFirst) ∧
      (c.length = 0 → c.Stands 0 0 s.enterFirst ∧ s.enterFirst.segment = .decelerate) := by
  let first := { s with segment := .accelerate, target := s.ahead s.profile.rampUp }
  have horigin : s.position.toInt = c.point 0 := by simp [point, hposition]
  have htarget : (s.ahead s.profile.rampUp).toInt = c.point (c.goal .accelerate) := by
    rw [AxisState.ahead, horigin, hdirection, hprofile, ← c.point_add, Nat.zero_add]
    exact c.toInt_clampPosition_point _
  have hfirst : c.Stands 0 (c.goal .accelerate) first :=
    ⟨hdirection, hprofile, horigin, htarget, Nat.min_le_right _ _⟩
  by_cases hempty : c.goal .accelerate ≤ 0
  · have hzero : c.goal .accelerate = 0 := Nat.le_zero.mp hempty
    have hthrough : s.enterFirst = first.leave.2 := if_pos (hfirst.segmentDone_iff.mpr hempty)
    rw [hzero] at hfirst
    have hleft := hfirst.leave hzero
    rw [hthrough]
    exact ⟨fun hpos => (hleft.going hpos).2, fun hnone => (hleft.ended (Nat.le_of_eq hnone)).2⟩
  · have hthrough : s.enterFirst = first :=
      if_neg fun hdone => hempty (hfirst.segmentDone_iff.mp hdone)
    have hpos : 0 < c.goal .accelerate := Nat.not_le.mp hempty
    have hseg : c.plan.segmentAt 0 = .accelerate :=
      Trapezoid.segmentAt_accelerate (Nat.lt_min.mp hpos).1
    rw [hthrough, hseg]
    refine ⟨fun _ => ⟨rfl, hfirst⟩, fun hnone => ?_⟩
    have hle := c.goal_le_length .accelerate
    omega

/-- An axis in motion, so many counts from the origin. -/
structure Underway (c : Passage) (count : Nat) (s : AxisState) : Prop where
  moving : s.moving = true
  short : count < c.length
  segment_eq : s.segment = c.plan.segmentAt count
  stands : c.Stands count (c.goal (c.plan.segmentAt count)) s

/-- The motion begins if it has a count and there is room for one. With no room the last
segment is complete before the first count. -/
theorem begin_left {c : Passage} {s : AxisState} {motion : Motion} (hspan : 0 < c.plan.span)
    (hdirection : motion.direction = c.direction) (hposition : s.position = c.origin) :
    (0 < c.room → c.Underway 0 (s.begin motion c.plan)) ∧
      (c.room = 0 → c.Stands 0 0 (s.begin motion c.plan) ∧
        (s.begin motion c.plan).segment = .decelerate) := by
  obtain ⟨hgoing, hended⟩ := enterFirst_left (s := { s with
    direction := motion.direction
    profile := c.plan
    startVelocity := min motion.startVelocity topStepRate
    topVelocity := min motion.holdVelocity topStepRate
    velocity := min motion.startVelocity topStepRate
    endsOnRelease := false }) hdirection rfl hposition
  constructor
  · intro hroom
    have hlength : 0 < c.length := Nat.lt_min.mpr ⟨hspan, hroom⟩
    obtain ⟨hsegment, hstands⟩ := hgoing hlength
    exact ⟨rfl, hlength, hsegment, hstands.of_moving true⟩
  · intro hroom
    obtain ⟨hstands, hlast⟩ := hended (by rw [length, hroom, Nat.min_zero])
    exact ⟨hstands.of_moving true, hlast⟩

/-! ## Counts -/

section Count

variable {α : Type} [AxisHardware α] {c : Passage} {count : Nat} {a : Axis α}

omit [AxisHardware α] in
theorem Stands.counted {goal : Nat} (h : c.Stands count goal a.state) (hlt : count < goal) :
    c.Stands (count + 1) goal a.counted := by
  refine ⟨h.direction_eq, h.profile_eq, ?_, h.target_eq, h.goal_le⟩
  have hstep : c.point (count + 1) = a.state.position.toInt + c.direction.sign.toInt := by
    rw [c.point_add, h.position_eq, Int.natCast_one, Int.mul_one]
  have hrange := (c.inRange_point_iff (count + 1)).mpr (Nat.le_trans hlt h.goal_le)
  rw [hstep, ← h.direction_eq] at hrange
  rw [hstep, ← h.direction_eq]
  exact toInt_add_sign hrange

/-- **One count of a motion.** The axis goes on in the segment it is in, begins the next, or
has arrived; the count tells whether it has. -/
theorem Underway.encoderEdge (h : c.Underway count a.state) :
    a.encoderEdge.1 = decide (count + 1 = c.length) ∧
      (a.encoderEdge.1 = false → c.Underway (count + 1) a.encoderEdge.2.state) ∧
      (a.encoderEdge.1 = true → a.encoderEdge.2.state.moving = false ∧
        a.encoderEdge.2.state.position.toInt = c.point (count + 1)) := by
  have hlt := lt_goal_segmentAt h.short
  have hle := c.goal_le_length (c.plan.segmentAt count)
  have hcounted := h.stands.counted hlt
  obtain ⟨segment, target, hsame⟩ := a.counted.enterThrough_eq a.counted.segment.following
  rcases a.encoderEdge_cases with ⟨hquiet, hedge⟩ | ⟨-, hdone, hleave⟩
  · have hopen : count + 1 < c.goal (c.plan.segmentAt count) := by
      rw [← Nat.not_le, ← hcounted.segmentDone_iff]
      rcases hquiet with hquiet | hquiet
      · exact absurd (h.moving.symm.trans hquiet) (by decide)
      · rw [hquiet]
        decide
    have hseg := Trapezoid.segmentAt_succ (Nat.lt_min.mp hopen).1
    rw [hedge]
    refine ⟨(decide_eq_false (by omega)).symm, fun _ => ⟨h.moving, by omega, ?_, ?_⟩,
      fun hended => ?_⟩
    · rw [hseg]
      exact h.segment_eq
    · rw [hseg]
      exact hcounted
    · cases hended
  · have hgoal : c.goal (c.plan.segmentAt count) = count + 1 :=
      Nat.le_antisymm (hcounted.segmentDone_iff.mp hdone) hlt
    rw [hgoal] at hcounted hle
    have hleft := hcounted.leave ((congrArg c.goal h.segment_eq).trans hgoal)
    rcases hleave with ⟨hmore, hedge⟩ | ⟨hend, hedge⟩
    · have hshort : count + 1 < c.length := by
        refine Nat.not_le.mp fun hover => ?_
        exact absurd (hmore.symm.trans (hleft.ended hover).1) (by decide)
      obtain ⟨-, hsegment, hstands⟩ := hleft.going hshort
      rw [hedge]
      refine ⟨(decide_eq_false (by omega)).symm, fun _ => ⟨?_, hshort, hsegment, hstands⟩,
        fun hended => ?_⟩
      · show a.counted.leave.2.moving = true
        rw [AxisState.leave, hsame]
        exact h.moving
      · cases hended
    · have hover : c.length ≤ count + 1 := by
        refine Nat.not_lt.mp fun hshort => ?_
        exact absurd ((hleft.going hshort).1.symm.trans hend) (by decide)
      rw [hedge]
      refine ⟨(decide_eq_true (by omega)).symm, fun hgoing => ?_, fun _ => ⟨rfl, ?_⟩⟩
      · cases hgoing
      · show a.counted.leave.2.position.toInt = _
        rw [AxisState.leave, hsame]
        exact hcounted.position_eq

end Count

end Passage

/-! ## What does not count -/

/-- What the course of a motion depends on. -/
structure Standing where
  moving : Bool
  direction : Direction
  profile : Trapezoid
  position : Int32
  segment : Segment
  target : Int32

def AxisState.standing (s : AxisState) : Standing :=
  ⟨s.moving, s.direction, s.profile, s.position, s.segment, s.target⟩

theorem Passage.Underway.of_standing {c : Passage} {count : Nat} {s s' : AxisState}
    (h : c.Underway count s) (same : s'.standing = s.standing) : c.Underway count s' := by
  obtain ⟨hmoving, hdirection, hprofile, hposition, hsegment, htarget⟩ := Standing.mk.inj same
  have hstands := h.stands
  refine ⟨hmoving.trans h.moving, h.short, hsegment.trans h.segment_eq,
    hdirection.trans hstands.direction_eq, hprofile.trans hstands.profile_eq, ?_, ?_,
    hstands.goal_le⟩
  · rw [hposition]
    exact hstands.position_eq
  · rw [htarget]
    exact hstands.target_eq

namespace Axis

variable {α : Type} [AxisHardware α]

theorem rampTick_standing (a : Axis α) : a.rampTick.state.standing = a.state.standing := by
  unfold rampTick
  split
  · rfl
  · rfl

/-- An edge that is taken stops the axis or leaves it where it is. -/
theorem takeEdge_standing (switch : LimitSwitch) (pressed : Bool) (now : UInt32) (a : Axis α) :
    (a.takeEdge switch pressed now).1 = true ∧
        (a.takeEdge switch pressed now).2.state.moving = false ∨
      (a.takeEdge switch pressed now).1 = false ∧
        (a.takeEdge switch pressed now).2.state.standing = a.state.standing := by
  rcases a.takeEdge_cases switch pressed now with ⟨-, hstop, hstate⟩ | ⟨-, hgoing, hstate⟩
  · rw [hstate]
    exact .inl ⟨hstop, rfl⟩
  · rw [hstate]
    exact .inr ⟨hgoing, rfl⟩

theorem switchEdge_standing (switch : LimitSwitch) (pressed : Bool) (now : UInt32) (a : Axis α) :
    (a.switchEdge switch pressed now).1 = .stopped ∧
        (a.switchEdge switch pressed now).2.state.moving = false ∨
      (a.switchEdge switch pressed now).1 ≠ .stopped ∧
        (a.switchEdge switch pressed now).2.state.standing = a.state.standing := by
  cases hdeb : a.state.debouncing switch now with
  | true =>
      rw [switchEdge_ignored hdeb]
      exact .inr ⟨nofun, rfl⟩
  | false =>
      rw [switchEdge_taken hdeb]
      rcases a.takeEdge_standing switch pressed now with ⟨hstop, hrest⟩ | ⟨hgoing, hsame⟩
      · rw [hstop]
        exact .inl ⟨rfl, hrest⟩
      · rw [hgoing]
        exact .inr ⟨nofun, hsame⟩

theorem recoverEdge_standing (switch : LimitSwitch) (level : Bool) (now : UInt32) (a : Axis α) :
    (a.recoverEdge switch level now).1 = true ∧
        (a.recoverEdge switch level now).2.state.moving = false ∨
      (a.recoverEdge switch level now).1 = false ∧
        (a.recoverEdge switch level now).2.state.standing = a.state.standing := by
  rcases a.recoverEdge_cases switch level now with ⟨-, hedge⟩ | ⟨-, -, ⟨-, hedge⟩ | ⟨-, hedge⟩⟩
  · rw [hedge]
    exact .inr ⟨rfl, rfl⟩
  · rw [hedge]
    exact .inr ⟨rfl, rfl⟩
  · rw [hedge]
    exact a.takeEdge_standing switch level now

theorem recoverEdges_standing (now : UInt32) (a : Axis α) :
    (a.recoverEdges now).1 ≠ none ∧ (a.recoverEdges now).2.state.moving = false ∨
      (a.recoverEdges now).1 = none ∧
        (a.recoverEdges now).2.state.standing = a.state.standing := by
  obtain ⟨levels, hardware, heq⟩ := a.recoverEdges_eq now
  rw [heq]
  let home := ({ a with hardware } : Axis α).recoverEdge .home levels.home now
  rcases home.2.recoverEdge_standing .far levels.far now with ⟨hfar, hrest⟩ | ⟨hfar, hsame⟩
  · dsimp only
    rw [hfar]
    exact .inl ⟨nofun, hrest⟩
  · dsimp only
    rw [hfar]
    rcases ({ a with hardware } : Axis α).recoverEdge_standing .home levels.home now with
      ⟨hhome, hrest⟩ | ⟨hhome, hfirst⟩
    · rw [hhome]
      exact .inl ⟨nofun, (congrArg Standing.moving hsame).trans hrest⟩
    · rw [hhome]
      exact .inr ⟨rfl, hsame.trans hfirst⟩

end Axis

/-! ## Accepted motions -/

/-- The passage that an accepted motion begins. -/
theorem start_passage {α : Type} [AxisHardware α] {a : Axis α} {motion : Motion}
    (started : (a.start motion).1 = .ok ()) :
    ∃ c : Passage, motion.profile = .ok c.plan ∧ c.origin = a.state.position ∧
      c.direction = motion.direction ∧ 0 < c.plan.span ∧
      c.plan.span = motion.distance.toInt.natAbs ∧
      motion.direction.sign.toInt * motion.distance.toInt.natAbs = motion.distance.toInt ∧
      (a.start motion).2.state = a.state.begin motion c.plan := by
  rcases a.start_cases motion with ⟨refusal, -, hrefused⟩ | ⟨plan, hpermit, -, hstate⟩
  · rw [hrefused] at started
    cases started
  · obtain ⟨-, hdistance, hagrees, hplan, -⟩ := Axis.permit_eq_ok.mp hpermit
    have hsign : motion.direction.sign.toInt * motion.distance.toInt.natAbs =
        motion.distance.toInt := by
      rw [← of_decide_eq_true hagrees]
      exact Int.sign_mul_natAbs _
    have hlow := motion.distance.le_toInt
    have hhigh := motion.distance.toInt_lt
    have hspan : plan.span = motion.distance.toInt.natAbs := by
      refine (Trapezoid.plan_sum hplan).trans ?_
      rw [Motion.length, UInt32.toNat_ofNat_of_lt']
      show _ < 2 ^ 32
      omega
    have hpos : 0 < plan.span := by
      rw [hspan, Int.natAbs_pos]
      exact fun hzero => hdistance (Int32.toInt_inj.mp hzero)
    exact ⟨⟨a.state.position, motion.direction, plan⟩, hplan, rfl, rfl, hpos, hspan, hsign, hstate⟩

end XYStage
