/-
# XYStage.Proofs.Motion.Velocity -- how fast an axis goes

A motion begins at its start velocity and ramps toward its hold velocity, both capped
at `topStepRate`. The ramp can be cut short in any segment, and the hold velocity may
be the lower of the two, so what bounds the velocity is the larger one
(`AxisState.Paced`).

What an operation can do about speed is said once (`Axis.operate_cases`): a start
begins a motion; a ramp tick changes the velocity by one; anything else leaves the
speed alone, apart from going on to a later segment, or ends the motion, and sets no
rate (`Axis.Coasts`). One motion is then followed by `AxisState.Follows`, which
composes.

Main statement: `velocity_keeps_bounds`, for every run.
-/
import XYStage.Proofs.Motion.Outputs

namespace XYStage

set_option autoImplicit false

open CallLog (calls)

/-! ## Segments -/

/-- The place of a segment in a motion. -/
def Segment.rank : Segment → Nat
  | .accelerate => 0
  | .hold => 1
  | .decelerate => 2

theorem Segment.rank_le_of_following {segment later : Segment} (h : later ∈ segment.following) :
    segment.rank ≤ later.rank := by
  cases segment <;> cases later <;> simp_all [following, rank]

/-- Nothing comes after the last segment. -/
theorem Segment.eq_decelerate_of_rank_le {segment : Segment}
    (h : Segment.decelerate.rank ≤ segment.rank) : segment = .decelerate := by
  cases segment <;> simp_all [rank]

/-- Nothing comes before the first segment. -/
theorem Segment.eq_accelerate_of_le_rank {segment : Segment}
    (h : segment.rank ≤ Segment.accelerate.rank) : segment = .accelerate := by
  cases segment <;> simp_all [rank]

namespace AxisState

/-- Leaving a segment leads to one of those it may go through. -/
theorem enterThrough_segment (segments : List Segment) (s : AxisState) :
    (enterThrough segments s).2.segment = s.segment ∨
      (enterThrough segments s).2.segment ∈ segments := by
  induction segments generalizing s with
  | nil => exact .inl rfl
  | cons next rest ih =>
      right
      simp only [enterThrough]
      split
      · rcases ih (s.enter next) with hsame | hlater
        · rw [hsame]
          exact List.mem_cons_self
        · exact List.mem_cons_of_mem next hlater
      · exact List.mem_cons_self

theorem rank_le_leave (s : AxisState) : s.segment.rank ≤ s.leave.2.segment.rank := by
  rcases enterThrough_segment s.segment.following s with hsame | hlater
  · exact Nat.le_of_eq (congrArg Segment.rank hsame.symm)
  · exact Segment.rank_le_of_following hlater

/-! ## Speed -/

/-- The velocities of a state are bounded by those of the motion it is in. -/
structure Paced (motion : Option Motion) (s : AxisState) : Prop where
  still : s.moving = false → s.velocity = 0
  capped : s.moving = true → ∃ accepted, motion = some accepted ∧
    s.startVelocity = min accepted.startVelocity topStepRate ∧
    s.topVelocity = min accepted.holdVelocity topStepRate
  lower : s.moving = true → s.startVelocity.toNat ≤ s.velocity.toNat
  upper : s.moving = true →
    s.velocity.toNat ≤ max s.startVelocity.toNat s.topVelocity.toNat

/-- The second state is in the motion of the first, later on: no slower before the last
segment, and no faster after the first. -/
structure Follows (s s' : AxisState) : Prop where
  moving : s.moving = true
  startVelocity_eq : s'.startVelocity = s.startVelocity
  topVelocity_eq : s'.topVelocity = s.topVelocity
  forward : s.segment.rank ≤ s'.segment.rank
  rising : s'.segment ≠ .decelerate → s.velocity.toNat ≤ s'.velocity.toNat
  falling : s.segment ≠ .accelerate → s'.velocity.toNat ≤ s.velocity.toNat

/-- The speed goes on as it was, in the same segment or a later one. -/
structure Steady (s s' : AxisState) : Prop where
  moving_eq : s'.moving = s.moving
  velocity_eq : s'.velocity = s.velocity
  startVelocity_eq : s'.startVelocity = s.startVelocity
  topVelocity_eq : s'.topVelocity = s.topVelocity
  forward : s.segment.rank ≤ s'.segment.rank

/-- The state is at rest. -/
structure Still (s : AxisState) : Prop where
  moving_eq : s.moving = false
  velocity_eq : s.velocity = 0

theorem still_halted (s : AxisState) : s.halted.Still := ⟨rfl, rfl⟩

theorem Still.ne_moving {s : AxisState} (h : s.Still) : s.moving ≠ true := by
  rw [h.moving_eq]
  exact Bool.false_ne_true

theorem Still.paced {s : AxisState} (h : s.Still) (motion : Option Motion) : s.Paced motion where
  still _ := h.velocity_eq
  capped hmoving := absurd hmoving h.ne_moving
  lower hmoving := absurd hmoving h.ne_moving
  upper hmoving := absurd hmoving h.ne_moving

theorem Steady.of_same {s s' : AxisState} (hmoving : s'.moving = s.moving)
    (hvelocity : s'.velocity = s.velocity) (hstart : s'.startVelocity = s.startVelocity)
    (htop : s'.topVelocity = s.topVelocity) (hsegment : s'.segment = s.segment) : s.Steady s' :=
  ⟨hmoving, hvelocity, hstart, htop, Nat.le_of_eq (congrArg Segment.rank hsegment.symm)⟩

theorem Steady.refl (s : AxisState) : s.Steady s := .of_same rfl rfl rfl rfl rfl

theorem Steady.trans {s s' s'' : AxisState} (first : s.Steady s') (second : s'.Steady s'') :
    s.Steady s'' where
  moving_eq := second.moving_eq.trans first.moving_eq
  velocity_eq := second.velocity_eq.trans first.velocity_eq
  startVelocity_eq := second.startVelocity_eq.trans first.startVelocity_eq
  topVelocity_eq := second.topVelocity_eq.trans first.topVelocity_eq
  forward := Nat.le_trans first.forward second.forward

theorem Paced.steady {s s' : AxisState} {motion : Option Motion} (h : s.Paced motion)
    (steady : s.Steady s') : s'.Paced motion := by
  obtain ⟨hmoving, hvelocity, hstart, htop, -⟩ := steady
  constructor
  · rw [hmoving, hvelocity]
    exact h.still
  · rw [hmoving, hstart, htop]
    exact h.capped
  · rw [hmoving, hvelocity, hstart]
    exact h.lower
  · rw [hmoving, hvelocity, hstart, htop]
    exact h.upper

theorem Steady.follows {s s' : AxisState} (h : s.Steady s') (moving : s'.moving = true) :
    s.Follows s' where
  moving := h.moving_eq.symm.trans moving
  startVelocity_eq := h.startVelocity_eq
  topVelocity_eq := h.topVelocity_eq
  forward := h.forward
  rising _ := Nat.le_of_eq (congrArg UInt32.toNat h.velocity_eq.symm)
  falling _ := Nat.le_of_eq (congrArg UInt32.toNat h.velocity_eq)

theorem Follows.trans {s s' s'' : AxisState} (first : s.Follows s') (second : s'.Follows s'') :
    s.Follows s'' where
  moving := first.moving
  startVelocity_eq := second.startVelocity_eq.trans first.startVelocity_eq
  topVelocity_eq := second.topVelocity_eq.trans first.topVelocity_eq
  forward := Nat.le_trans first.forward second.forward
  -- Segments do not come back, so what holds of the outer states holds in the middle.
  rising hlast := by
    have hmiddle : s'.segment ≠ .decelerate := fun hdown =>
      hlast (Segment.eq_decelerate_of_rank_le (hdown ▸ second.forward))
    exact Nat.le_trans (first.rising hmiddle) (second.rising hlast)
  falling hfirst := by
    have hmiddle : s'.segment ≠ .accelerate := fun hup =>
      hfirst (Segment.eq_accelerate_of_le_rank (hup ▸ first.forward))
    exact Nat.le_trans (second.falling hmiddle) (first.falling hfirst)

/-! ## Beginning and ramping -/

theorem toNat_min (a b : UInt32) : (min a b).toNat = min a.toNat b.toNat := by
  by_cases h : a ≤ b
  · have hle := UInt32.le_iff_toNat_le.mp h
    rw [show min a b = a from if_pos h, Nat.min_eq_left hle]
  · have hlt := UInt32.lt_iff_toNat_lt.mp (UInt32.not_le.mp h)
    rw [show min a b = b from if_neg h, Nat.min_eq_right (Nat.le_of_lt hlt)]

theorem begin_speed (motion : Motion) (plan : Trapezoid) (s : AxisState) :
    (s.begin motion plan).velocity = min motion.startVelocity topStepRate ∧
      (s.begin motion plan).startVelocity = min motion.startVelocity topStepRate ∧
      (s.begin motion plan).topVelocity = min motion.holdVelocity topStepRate := by
  obtain ⟨segment, target, hfirst⟩ := enterFirst_eq { s with
    direction := motion.direction
    profile := plan
    startVelocity := min motion.startVelocity topStepRate
    topVelocity := min motion.holdVelocity topStepRate
    velocity := min motion.startVelocity topStepRate
    endsOnRelease := false }
  unfold begin
  dsimp only
  rw [hfirst]
  exact ⟨rfl, rfl, rfl⟩

theorem paced_begin (motion : Motion) (plan : Trapezoid) (s : AxisState) :
    (s.begin motion plan).Paced (some motion) := by
  obtain ⟨hmoving, -⟩ := begin_eq motion plan s
  obtain ⟨hvelocity, hstart, htop⟩ := begin_speed motion plan s
  constructor
  · intro hrest
    exact absurd (hrest.symm.trans hmoving) Bool.false_ne_true
  · intro _
    exact ⟨motion, rfl, hstart, htop⟩
  · intro _
    exact Nat.le_of_eq (congrArg UInt32.toNat (hstart.trans hvelocity.symm))
  · intro _
    rw [hvelocity, hstart]
    exact Nat.le_max_left _ _

/-- A ramp tick raises the velocity below the top, in the first segment, or lowers it
above the start, in the last. -/
theorem nextVelocity?_eq_some {s : AxisState} {velocity : UInt32}
    (h : s.nextVelocity? = some velocity) :
    s.moving = true ∧
      (s.segment = .accelerate ∧ velocity.toNat = s.velocity.toNat + 1 ∧
          s.velocity.toNat < s.topVelocity.toNat ∨
        s.segment = .decelerate ∧ velocity.toNat + 1 = s.velocity.toNat ∧
          s.startVelocity.toNat < s.velocity.toNat) := by
  unfold nextVelocity? at h
  cases hmoving : s.moving with
  | false => simp [hmoving] at h
  | true =>
      refine ⟨rfl, ?_⟩
      cases hsegment : s.segment with
      | hold => simp [hmoving, hsegment] at h
      | accelerate =>
          simp only [hmoving, hsegment, Bool.not_true, Bool.false_eq_true, if_false,
            Option.ite_none_right_eq_some, Option.some.injEq] at h
          obtain ⟨hbelow, rfl⟩ := h
          have hlt := UInt32.lt_iff_toNat_lt.mp hbelow
          have htop := s.topVelocity.toNat_lt
          refine .inl ⟨rfl, ?_, hlt⟩
          rw [UInt32.toNat_add, show (1 : UInt32).toNat = 1 from rfl, Nat.mod_eq_of_lt (by omega)]
      | decelerate =>
          simp only [hmoving, hsegment, Bool.not_true, Bool.false_eq_true, if_false,
            Option.ite_none_right_eq_some, Option.some.injEq] at h
          obtain ⟨habove, rfl⟩ := h
          have hlt := UInt32.lt_iff_toNat_lt.mp habove
          have hone : (1 : UInt32) ≤ s.velocity := by
            rw [UInt32.le_iff_toNat_le, show (1 : UInt32).toNat = 1 from rfl]
            omega
          refine .inr ⟨rfl, ?_, hlt⟩
          rw [UInt32.toNat_sub_of_le _ _ hone, show (1 : UInt32).toNat = 1 from rfl]
          omega

theorem Paced.ramp {s : AxisState} {motion : Option Motion} (h : s.Paced motion)
    {velocity : UInt32} (next : s.nextVelocity? = some velocity) :
    ({ s with velocity } : AxisState).Paced motion := by
  obtain ⟨hmoving, hnext⟩ := nextVelocity?_eq_some next
  have hlower := h.lower hmoving
  have hupper := h.upper hmoving
  refine ⟨fun hrest => ?_, h.capped, fun _ => ?_, fun _ => ?_⟩
  · exact absurd (hrest.symm.trans hmoving) Bool.false_ne_true
  · show s.startVelocity.toNat ≤ velocity.toNat
    omega
  · show velocity.toNat ≤ max s.startVelocity.toNat s.topVelocity.toNat
    omega

theorem follows_ramp {s : AxisState} {velocity : UInt32}
    (next : s.nextVelocity? = some velocity) : s.Follows { s with velocity } := by
  obtain ⟨hmoving, ⟨hup, hvelocity, -⟩ | ⟨hdown, hvelocity, -⟩⟩ := nextVelocity?_eq_some next
  · refine ⟨hmoving, rfl, rfl, Nat.le_refl _, fun _ => ?_, fun hlater => absurd hup hlater⟩
    show s.velocity.toNat ≤ velocity.toNat
    omega
  · refine ⟨hmoving, rfl, rfl, Nat.le_refl _, fun hearlier => absurd hdown hearlier, fun _ => ?_⟩
    show velocity.toNat ≤ s.velocity.toNat
    omega

end AxisState

/-! ## One operation -/

/-- The rate that a call sets, if it sets one. -/
def HardwareCall.rate? : HardwareCall → Option UInt32
  | .startSteps rate => some rate
  | .changeRate rate => some rate
  | _ => none

/-- The rates that calls set, in order. -/
def ratesSet (made : List HardwareCall) : List UInt32 :=
  made.filterMap HardwareCall.rate?

theorem ratesSet_append (first second : List HardwareCall) :
    ratesSet (first ++ second) = ratesSet first ++ ratesSet second :=
  List.filterMap_append

/-- A start sets the velocity it is given. -/
theorem ratesSet_starting (motion : Motion) (velocity : UInt32) :
    ratesSet (Outputs.starting motion velocity) = [velocity] := by
  unfold Outputs.starting
  split
  · rfl
  · rfl

/-- A log that grew by calls whose rates the hardware has. -/
def Logged (earlier later : List HardwareCall) : Prop :=
  ∃ made, later = earlier ++ made ∧ ∀ rate ∈ ratesSet made, rate ≤ topStepRate

theorem Logged.refl (log : List HardwareCall) : Logged log log :=
  ⟨[], (List.append_nil log).symm, nofun⟩

theorem Logged.trans {first second third : List HardwareCall} (earlier : Logged first second)
    (later : Logged second third) : Logged first third := by
  obtain ⟨made, rfl, hmade⟩ := earlier
  obtain ⟨more, rfl, hmore⟩ := later
  refine ⟨made ++ more, List.append_assoc _ _ _, fun rate hrate => ?_⟩
  rw [ratesSet_append] at hrate
  rcases List.mem_append.mp hrate with hfirst | hsecond
  · exact hmade rate hfirst
  · exact hmore rate hsecond

namespace Axis

variable {α : Type} [AxisHardware α] [CallLog α]

/-- From one axis to the other the speed goes on as it was, or the axis comes to rest,
and the hardware is told no rate. -/
structure Coasts (a a' : Axis α) : Prop where
  speed : a.state.Steady a'.state ∨ a'.state.Still
  told : ∃ piece, calls a'.hardware = calls a.hardware ++ piece ∧ ratesSet piece = []

namespace Coasts

variable {a a' a'' : Axis α}

/-- Nothing is told. -/
theorem of_silent (hcalls : calls a'.hardware = calls a.hardware)
    (steady : a.state.Steady a'.state) : a.Coasts a' :=
  ⟨.inl steady, [], by rw [hcalls, List.append_nil], rfl⟩

theorem trans (first : a.Coasts a') (second : a'.Coasts a'') : a.Coasts a'' := by
  obtain ⟨piece, hcalls, hpiece⟩ := first.told
  obtain ⟨later, hcalls', hlater⟩ := second.told
  constructor
  · rcases second.speed with hsteady | hstill
    · rcases first.speed with hsteady' | hstill
      · exact .inl (hsteady'.trans hsteady)
      · exact .inr ⟨hsteady.moving_eq.trans hstill.moving_eq,
          hsteady.velocity_eq.trans hstill.velocity_eq⟩
    · exact .inr hstill
  · refine ⟨piece ++ later, by rw [hcalls', hcalls, List.append_assoc], ?_⟩
    rw [ratesSet_append, hpiece, hlater, List.append_nil]

/-- What coasts while it is halted. -/
theorem stop (h : a.Coasts a') : a.Coasts a'.stop :=
  h.trans ⟨.inr (AxisState.still_halted _), Outputs.halting, a'.calls_stop, rfl⟩

theorem logged (h : a.Coasts a') : Logged (calls a.hardware) (calls a'.hardware) := by
  obtain ⟨piece, hcalls, hpiece⟩ := h.told
  refine ⟨piece, hcalls, ?_⟩
  rw [hpiece]
  exact nofun

end Coasts

theorem coasts_refl (a : Axis α) : a.Coasts a :=
  .of_silent rfl (.refl _)

theorem reset_coasts (a : Axis α) : a.Coasts a.reset :=
  ⟨.inr ⟨rfl, rfl⟩, Outputs.halting, a.calls_stop, rfl⟩

theorem endOnRelease_coasts (a : Axis α) : a.Coasts a.endOnRelease := by
  refine ⟨.inl ?_, Outputs.arming, a.calls_endOnRelease, rfl⟩
  rw [endOnRelease_state]
  split
  · exact .of_same rfl rfl rfl rfl rfl
  · exact .refl _

theorem readSwitches_coasts (a : Axis α) :
    a.Coasts { a with hardware := (readSwitches a.hardware).2 } :=
  ⟨.inl (.refl _), Outputs.reading, calls_readSwitches a.hardware, rfl⟩

theorem readFlags_coasts (a : Axis α) : a.Coasts a.readFlags :=
  a.readSwitches_coasts.trans (.of_silent rfl (.of_same rfl rfl rfl rfl rfl))

theorem takeEdge_coasts (switch : LimitSwitch) (pressed : Bool) (now : UInt32) (a : Axis α) :
    a.Coasts (a.takeEdge switch pressed now).2 := by
  have hedged : a.Coasts { a with state := a.state.withEdge switch pressed now } :=
    .of_silent rfl (.of_same rfl rfl rfl rfl rfl)
  unfold takeEdge
  split
  · exact hedged.stop
  · exact hedged

theorem switchEdge_coasts (switch : LimitSwitch) (pressed : Bool) (now : UInt32) (a : Axis α) :
    a.Coasts (a.switchEdge switch pressed now).2 := by
  cases hdeb : a.state.debouncing switch now with
  | true =>
      rw [switchEdge_ignored hdeb]
      exact .of_silent rfl (.of_same rfl rfl rfl rfl rfl)
  | false =>
      rw [switchEdge_taken hdeb]
      exact a.takeEdge_coasts switch pressed now

theorem recoverEdge_coasts (switch : LimitSwitch) (level : Bool) (now : UInt32) (a : Axis α) :
    a.Coasts (a.recoverEdge switch level now).2 := by
  rcases a.recoverEdge_cases switch level now with ⟨-, hedge⟩ | ⟨-, -, ⟨-, hedge⟩ | ⟨-, hedge⟩⟩
  · rw [hedge]
    exact a.coasts_refl
  · rw [hedge]
    exact .of_silent rfl (.of_same rfl rfl rfl rfl rfl)
  · rw [hedge]
    exact a.takeEdge_coasts switch level now

theorem recoverEdges_coasts (now : UInt32) (a : Axis α) : a.Coasts (a.recoverEdges now).2 :=
  (a.readSwitches_coasts.trans (recoverEdge_coasts .home _ now _)).trans
    (recoverEdge_coasts .far _ now _)

theorem encoderEdge_coasts (a : Axis α) : a.Coasts a.encoderEdge.2 := by
  have hforward := a.counted.rank_le_leave
  obtain ⟨segment, target, hleave⟩ := a.counted.enterThrough_eq a.counted.segment.following
  have hleft : a.Coasts { a with state := a.counted.leave.2 } := by
    rw [AxisState.leave, hleave] at hforward ⊢
    exact .of_silent rfl ⟨rfl, rfl, rfl, rfl, hforward⟩
  rcases a.encoderEdge_cases with ⟨-, hedge⟩ | ⟨-, -, ⟨-, hedge⟩ | ⟨-, hedge⟩⟩
  · rw [hedge]
    exact .of_silent rfl (.of_same rfl rfl rfl rfl rfl)
  · rw [hedge]
    exact hleft
  · rw [hedge]
    exact hleft.stop

/-- **One operation.** It leaves the speed alone or ends the motion, or it is a ramp tick
that changes the rate, or it begins a motion. -/
theorem operate_cases (a : Axis α) (operation : AxisOperation) :
    (a.accepted operation = [] ∧ a.Coasts (a.operate operation)) ∨
    (a.accepted operation = [] ∧ ∃ velocity, a.state.nextVelocity? = some velocity ∧
      (a.operate operation).state = { a.state with velocity } ∧
      calls (a.operate operation).hardware = calls a.hardware ++ [.changeRate velocity]) ∨
    ∃ motion plan, a.accepted operation = [motion] ∧ a.permit motion = .ok plan ∧
      (a.operate operation).state = a.state.begin motion plan ∧
      calls (a.operate operation).hardware = calls a.hardware ++
        Outputs.starting motion (a.state.begin motion plan).velocity := by
  cases operation with
  | start motion =>
      rcases a.start_cases motion with ⟨refusal, -, hrefused⟩ | ⟨plan, hpermit, hok, hstate⟩
      · left
        have hsame : a.operate (.start motion) = a := congrArg Prod.snd hrefused
        have hnone : a.accepted (.start motion) = [] := by simp only [accepted, hrefused]
        rw [hsame]
        exact ⟨hnone, a.coasts_refl⟩
      · right; right
        have haccepted : a.accepted (.start motion) = [motion] := by simp only [accepted, hok]
        exact ⟨motion, plan, haccepted, hpermit, hstate, calls_start hpermit⟩
  | rampTick =>
      show (_ ∧ a.Coasts a.rampTick) ∨ (_ ∧ ∃ velocity, _ ∧ a.rampTick.state = _ ∧
        calls a.rampTick.hardware = _) ∨ _
      unfold rampTick
      cases hnext : a.state.nextVelocity? with
      | none => exact .inl ⟨rfl, a.coasts_refl⟩
      | some velocity =>
          exact .inr (.inl ⟨rfl, velocity, rfl, rfl, CallLog.calls_perform _ _⟩)
  | encoderEdge => exact .inl ⟨rfl, a.encoderEdge_coasts⟩
  | switchEdge switch pressed time => exact .inl ⟨rfl, a.switchEdge_coasts switch pressed time⟩
  | recovery time => exact .inl ⟨rfl, a.recoverEdges_coasts time⟩
  | endOnRelease => exact .inl ⟨rfl, a.endOnRelease_coasts⟩
  | stop => exact .inl ⟨rfl, a.coasts_refl.stop⟩
  | reset => exact .inl ⟨rfl, a.reset_coasts⟩

/-- The axis goes on with the motion it is in, by at most one count per second faster in
the first segment or slower in the last, and as fast as before in between. -/
structure Paces (a a' : Axis α) : Prop where
  follows : a.state.Follows a'.state
  accelerating : a.state.segment = .accelerate →
    a.state.velocity.toNat ≤ a'.state.velocity.toNat ∧
      a'.state.velocity.toNat ≤ a.state.velocity.toNat + 1
  holding : a.state.segment = .hold → a'.state.velocity = a.state.velocity
  decelerating : a.state.segment = .decelerate →
    a'.state.velocity.toNat ≤ a.state.velocity.toNat ∧
      a.state.velocity.toNat ≤ a'.state.velocity.toNat + 1

theorem Coasts.paces {a a' : Axis α} (h : a.Coasts a') (moving : a'.state.moving = true) :
    a.Paces a' := by
  rcases h.speed with hsteady | hstill
  · refine ⟨hsteady.follows moving, fun _ => ?_, fun _ => hsteady.velocity_eq, fun _ => ?_⟩
    · rw [hsteady.velocity_eq]
      exact ⟨Nat.le_refl _, Nat.le_succ _⟩
    · rw [hsteady.velocity_eq]
      exact ⟨Nat.le_refl _, Nat.le_succ _⟩
  · exact absurd moving hstill.ne_moving

/-- An operation that begins no motion and leaves the axis moving goes on with the one
there is. -/
theorem operate_paces {a : Axis α} {operation : AxisOperation}
    (none : a.accepted operation = []) (moving : (a.operate operation).state.moving = true) :
    a.Paces (a.operate operation) := by
  rcases a.operate_cases operation with
    ⟨-, hcoasts⟩ | ⟨-, velocity, hnext, hstate, -⟩ | ⟨motion, plan, haccepted, -⟩
  · exact hcoasts.paces moving
  · have hvelocity := congrArg (fun s => s.velocity.toNat) hstate
    have hfollows := hstate ▸ AxisState.follows_ramp hnext
    obtain ⟨-, ⟨hup, hnew, -⟩ | ⟨hdown, hnew, -⟩⟩ := AxisState.nextVelocity?_eq_some hnext
    · refine ⟨hfollows, fun _ => ?_, fun hhold => ?_, fun hdown => ?_⟩
      · dsimp only at hvelocity
        omega
      · exact absurd (hup.symm.trans hhold) (by decide)
      · exact absurd (hup.symm.trans hdown) (by decide)
    · refine ⟨hfollows, fun hup => ?_, fun hhold => ?_, fun _ => ?_⟩
      · exact absurd (hdown.symm.trans hup) (by decide)
      · exact absurd (hdown.symm.trans hhold) (by decide)
      · dsimp only at hvelocity
        omega
  · rw [none] at haccepted
    cases haccepted

/-- An axis that moves accepts no motion. -/
theorem accepted_of_moving {a : Axis α} (moving : a.state.moving = true)
    (operation : AxisOperation) : a.accepted operation = [] := by
  rcases a.operate_cases operation with ⟨hnone, -⟩ | ⟨hnone, -⟩ | ⟨motion, plan, -, hpermit, -⟩
  · exact hnone
  · exact hnone
  · obtain ⟨hrest, -⟩ := permit_eq_ok.mp hpermit
    exact absurd (hrest.symm.trans moving) Bool.false_ne_true

end Axis

/-! ## Every run -/

/-- An axis that was `first` and has been operated on since, with the motions it has
accepted, the last one first. In between its flags are taken anew from its switches, and
its hardware changes in what it has not been told. -/
inductive Driven {α : Type} [AxisHardware α] [CallLog α] (first : Axis α) :
    Axis α → List Motion → Prop where
  | begun : Driven first first []
  | operate {a : Axis α} {motions : List Motion} (before : Driven first a motions)
      (operation : AxisOperation) :
      Driven first (a.operate operation) (a.accepted operation ++ motions)
  | readFlags {a : Axis α} {motions : List Motion} (before : Driven first a motions) :
      Driven first a.readFlags motions
  | drift {a : Axis α} {motions : List Motion} (before : Driven first a motions) {hardware : α}
      (untold : Untold a.hardware hardware) : Driven first { a with hardware } motions

theorem AxisState.Paced.coasts {α : Type} [AxisHardware α] [CallLog α] {a a' : Axis α}
    {motion : Option Motion} (h : a.state.Paced motion) (coasts : a.Coasts a') :
    a'.state.Paced motion := by
  rcases coasts.speed with hsteady | hstill
  · exact h.steady hsteady
  · exact hstill.paced motion

/-- The capped velocities of a motion are step rates that the hardware has. -/
theorem AxisState.Paced.velocity_le {s : AxisState} {motion : Option Motion}
    (h : s.Paced motion) (moving : s.moving = true) :
    s.startVelocity ≤ topStepRate ∧ s.topVelocity ≤ topStepRate ∧ s.velocity ≤ topStepRate := by
  obtain ⟨accepted, -, hstart, htop⟩ := h.capped moving
  have hupper := h.upper moving
  have hstartle : s.startVelocity.toNat ≤ topStepRate.toNat := by
    rw [hstart, toNat_min]
    exact Nat.min_le_right _ _
  have htople : s.topVelocity.toNat ≤ topStepRate.toNat := by
    rw [htop, toNat_min]
    exact Nat.min_le_right _ _
  simp only [UInt32.le_iff_toNat_le]
  omega

namespace Driven

variable {α : Type} [AxisHardware α] [CallLog α] {first a : Axis α} {motions : List Motion}

theorem paced (h : Driven first a motions) (hfirst : first.state.Paced none) :
    a.state.Paced motions.head? := by
  induction h with
  | begun => exact hfirst
  | @operate a motions _ operation ih =>
      rcases a.operate_cases operation with
        ⟨hnone, hcoasts⟩ | ⟨hnone, velocity, hnext, hstate, -⟩ |
          ⟨motion, plan, haccepted, -, hstate, -⟩
      · rw [hnone]
        exact ih.coasts hcoasts
      · rw [hnone, hstate]
        exact ih.ramp hnext
      · rw [haccepted, hstate]
        exact AxisState.paced_begin motion plan a.state
  | readFlags _ ih => exact ih.coasts (Axis.readFlags_coasts _)
  | drift _ _ ih => exact ih

/-- While no other motion is accepted, an axis that still moves is in the one it was in. -/
theorem follows (h : Driven first a motions) (none : motions = [])
    (moving : a.state.moving = true) : first.state.Follows a.state := by
  induction h with
  | begun => exact (AxisState.Steady.refl first.state).follows moving
  | operate _ operation ih =>
      obtain ⟨haccepted, hmotions⟩ := List.append_eq_nil_iff.mp none
      have hstep := (Axis.operate_paces haccepted moving).follows
      exact (ih hmotions hstep.moving).trans hstep
  | @readFlags a _ _ ih =>
      have hstep := (a.readFlags_coasts.paces moving).follows
      exact (ih none hstep.moving).trans hstep
  | drift _ _ ih => exact ih none moving

/-- Each operation keeps to the rates that the hardware has. -/
theorem told (h : Driven first a motions) (hfirst : first.state.Paced none) :
    Logged (calls first.hardware) (calls a.hardware) := by
  induction h with
  | begun => exact .refl _
  | @operate a motions before operation ih =>
      refine ih.trans ?_
      rcases a.operate_cases operation with
        ⟨-, hcoasts⟩ | ⟨-, velocity, hnext, -, hcalls⟩ | ⟨motion, plan, -, -, -, hcalls⟩
      · exact hcoasts.logged
      · have hpaced := (before.paced hfirst).ramp hnext
        obtain ⟨hmoving, -⟩ := AxisState.nextVelocity?_eq_some hnext
        refine ⟨_, hcalls, fun rate hrate => ?_⟩
        rw [show rate = velocity from List.mem_singleton.mp hrate]
        exact (hpaced.velocity_le hmoving).2.2
      · have hpaced := AxisState.paced_begin motion plan a.state
        obtain ⟨hmoving, -⟩ := AxisState.begin_eq motion plan a.state
        refine ⟨_, hcalls, fun rate hrate => ?_⟩
        rw [ratesSet_starting, List.mem_singleton] at hrate
        rw [hrate]
        exact (hpaced.velocity_le hmoving).2.2
  | @readFlags a _ _ ih => exact ih.trans a.readFlags_coasts.logged
  | @drift _ _ _ hardware untold ih =>
      show Logged _ (calls hardware)
      rw [untold]
      exact ih

end Driven

theorem Axis.paced_new {α : Type} [AxisHardware α] [CallLog α] (id : AxisId) (hardware : α) :
    (Axis.new id hardware).state.Paced none :=
  AxisState.Still.paced ⟨rfl, rfl⟩ none

/-- **The velocity keeps its bounds.** In every run of an axis, as long as it moves, its
velocity lies between the start velocity of the motion it accepted last and the larger
of that and the hold velocity, each capped at `topStepRate`; at rest it is zero. An
operation that leaves the axis moving goes on to no earlier segment, does not slow it
down in the first, changes nothing in the second, does not speed it up in the last, and
changes the velocity by at most one. So over any stretch of one motion segments only go
forward, and the velocity never falls before the last or rises after the first. Every
rate that the hardware was ever given is at most `topStepRate`. -/
theorem velocity_keeps_bounds {α : Type} [AxisHardware α] [CallLog α] {id : AxisId}
    {hardware : α} {a : Axis α} {motions : List Motion}
    (h : Driven (.new id hardware) a motions) :
    (a.state.moving = true → ∃ motion, motions.head? = some motion ∧
      a.state.startVelocity = min motion.startVelocity topStepRate ∧
      a.state.topVelocity = min motion.holdVelocity topStepRate ∧
      a.state.startVelocity.toNat ≤ a.state.velocity.toNat ∧
      a.state.velocity.toNat ≤ max a.state.startVelocity.toNat a.state.topVelocity.toNat ∧
      max a.state.startVelocity.toNat a.state.topVelocity.toNat ≤ topStepRate.toNat) ∧
    (a.state.moving = false → a.state.velocity = 0) ∧
    (∀ next, (next = a.readFlags ∨ ∃ operation, next = a.operate operation) →
      a.state.moving = true → next.state.moving = true →
      a.state.segment.rank ≤ next.state.segment.rank ∧
      (a.state.segment = .accelerate →
        a.state.velocity.toNat ≤ next.state.velocity.toNat ∧
        next.state.velocity.toNat ≤ a.state.velocity.toNat + 1) ∧
      (a.state.segment = .hold → next.state.velocity = a.state.velocity) ∧
      (a.state.segment = .decelerate →
        next.state.velocity.toNat ≤ a.state.velocity.toNat ∧
        a.state.velocity.toNat ≤ next.state.velocity.toNat + 1)) ∧
    (∀ later, Driven a later [] → later.state.moving = true →
      a.state.moving = true ∧
      later.state.startVelocity = a.state.startVelocity ∧
      later.state.topVelocity = a.state.topVelocity ∧
      a.state.segment.rank ≤ later.state.segment.rank ∧
      (later.state.segment ≠ .decelerate →
        a.state.velocity.toNat ≤ later.state.velocity.toNat) ∧
      (a.state.segment ≠ .accelerate →
        later.state.velocity.toNat ≤ a.state.velocity.toNat)) ∧
    ∃ made, calls a.hardware = calls hardware ++ made ∧
      ∀ rate, (.startSteps rate ∈ made ∨ .changeRate rate ∈ made) → rate ≤ topStepRate := by
  have hpaced := h.paced (Axis.paced_new id hardware)
  refine ⟨fun hmoving => ?_, hpaced.still, ?_, ?_, ?_⟩
  · obtain ⟨motion, hlatest, hstart, htop⟩ := hpaced.capped hmoving
    obtain ⟨hstartle, htople, -⟩ := hpaced.velocity_le hmoving
    refine ⟨motion, hlatest, hstart, htop, hpaced.lower hmoving, hpaced.upper hmoving, ?_⟩
    exact Nat.max_le.mpr
      ⟨UInt32.le_iff_toNat_le.mp hstartle, UInt32.le_iff_toNat_le.mp htople⟩
  · intro next hnext hmoving hgoing
    have hpaces : a.Paces next := by
      rcases hnext with rfl | ⟨operation, rfl⟩
      · exact a.readFlags_coasts.paces hgoing
      · exact Axis.operate_paces (Axis.accepted_of_moving hmoving operation) hgoing
    exact ⟨hpaces.follows.forward, hpaces.accelerating, hpaces.holding, hpaces.decelerating⟩
  · intro later hlater hgoing
    obtain ⟨hmoving, hstart, htop, hforward, hrising, hfalling⟩ := hlater.follows rfl hgoing
    exact ⟨hmoving, hstart, htop, hforward, hrising, hfalling⟩
  · have hread : Logged (calls hardware) (calls (Axis.new id hardware).hardware) :=
      ⟨Outputs.reading, Axis.calls_readSwitches hardware, nofun⟩
    obtain ⟨made, hcalls, hmade⟩ := hread.trans (h.told (Axis.paced_new id hardware))
    refine ⟨made, hcalls, fun rate hset => hmade rate ?_⟩
    rcases hset with hstart | hchange
    · exact List.mem_filterMap.mpr ⟨_, hstart, rfl⟩
    · exact List.mem_filterMap.mpr ⟨_, hchange, rfl⟩

/-- A motion asked to begin one below the highest rate and to hold far above it, after
two ramp ticks. -/
def hasty : Axis Recorder :=
  (((Axis.new .x (Recorder.new ⟨false, false⟩)).operate
    (.start ⟨.positive, 40, 10, 49999, 4000000000⟩)).operate .rampTick).operate .rampTick

theorem hasty_driven :
    Driven (.new .x (Recorder.new ⟨false, false⟩)) hasty
      [⟨.positive, 40, 10, 49999, 4000000000⟩] :=
  .operate (.operate (.operate .begun (.start ⟨.positive, 40, 10, 49999, 4000000000⟩))
    .rampTick) .rampTick

/-- The second tick changes nothing: the velocity has reached the highest rate, and the
hardware was given none above it. -/
theorem hasty_velocity :
    hasty.state.moving = true ∧ hasty.state.velocity = 50000 ∧
      hasty.state.startVelocity = 49999 ∧ hasty.state.topVelocity = 50000 ∧
      hasty.state.velocity.toNat ≤
        max hasty.state.startVelocity.toNat hasty.state.topVelocity.toNat ∧
      ∀ rate, .changeRate rate ∈ calls hasty.hardware → rate ≤ topStepRate := by
  obtain ⟨hbounds, -, -, -, made, hcalls, hmade⟩ := velocity_keeps_bounds hasty_driven
  have hmoving : hasty.state.moving = true := rfl
  obtain ⟨motion, hlatest, hstart, htop, -, hupper, -⟩ := hbounds hmoving
  cases hlatest
  refine ⟨hmoving, rfl, hstart, htop, hupper, fun rate hchange => hmade rate (.inr ?_)⟩
  rw [hcalls] at hchange
  exact hchange

end XYStage
