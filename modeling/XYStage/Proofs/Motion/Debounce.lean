/-
# XYStage.Proofs.Motion.Debounce -- bounce delays a level and never loses it

For one limit switch an axis remembers its flag, the time of the last edge it took,
and whether it has ignored one since (`SwitchMemory`). Every step of the axis acts on
that memory as one event (`Axis.after_memory`), so the two switches can be looked at
one at a time. An ignored edge leaves a memory that owes the flag a level; a level
that stays is what the flag settles on once the window is over (`SwitchMemory.Owes`).

Main statement: `bounce_never_loses_level`.
-/
import Mathlib.Data.List.Chain
import XYStage.Proofs.Motion.Guard

namespace XYStage

set_option autoImplicit false

/-! ## One switch -/

/-- What an axis remembers of one switch. -/
structure SwitchMemory where
  pressed : Bool
  lastEdge : Option UInt32
  missedEdge : Bool
  deriving DecidableEq

/-- What a step of an axis is for one switch. -/
inductive SwitchEvent where
  | edge (pressed : Bool) (time : UInt32)
  | recovery (level : Bool) (time : UInt32)
  | reading (level : Bool)
  /-- Nothing to do with this switch. -/
  | unrelated

/-- An edge that was taken, from its switch or from the level behind a lost one. -/
structure TakenEdge where
  pressed : Bool
  time : UInt32
  deriving DecidableEq

namespace SwitchMemory

def debouncing (now : UInt32) (m : SwitchMemory) : Bool :=
  match m.lastEdge with
  | some last => decide (now - last < debounceWindow)
  | none => false

/-- Take an edge, or ignore it as bounce. -/
def edge (pressed : Bool) (time : UInt32) (m : SwitchMemory) : SwitchMemory :=
  if m.debouncing time then { m with missedEdge := true } else ⟨pressed, some time, false⟩

/-- Make up for an ignored edge, if there is one and its window is over. -/
def recover (level : Bool) (time : UInt32) (m : SwitchMemory) : SwitchMemory :=
  if m.missedEdge = false ∨ m.debouncing time = true then m
  else if level = m.pressed then { m with missedEdge := false }
  else ⟨level, some time, false⟩

def after : SwitchEvent → SwitchMemory → SwitchMemory
  | .edge pressed time, m => m.edge pressed time
  | .recovery level time, m => m.recover level time
  | .reading level, m => { m with pressed := level }
  | .unrelated, m => m

/-- The edge that an event is taken for. -/
def taken : SwitchEvent → SwitchMemory → List TakenEdge
  | .edge pressed time, m => if m.debouncing time then [] else [⟨pressed, time⟩]
  | .recovery level time, m =>
      if (m.recover level time).pressed = m.pressed then []
      else [⟨(m.recover level time).pressed, time⟩]
  | _, _ => []

theorem not_debouncing {m : SwitchMemory} {now : UInt32}
    (h : ∀ last ∈ m.lastEdge, debounceWindow ≤ now - last) : m.debouncing now = false := by
  unfold debouncing
  split
  next last hlast => exact decide_eq_false (UInt32.not_lt.mpr (h last hlast))
  next => rfl

theorem le_of_not_debouncing {m : SwitchMemory} {now last : UInt32}
    (h : m.debouncing now = false) (hlast : m.lastEdge = some last) :
    debounceWindow ≤ now - last := by
  unfold debouncing at h
  rw [hlast] at h
  exact UInt32.not_lt.mp (of_decide_eq_false h)

/-- A recovery that has nothing to make up for, or must wait, changes nothing. Otherwise
the flag takes the level, as an edge if it was at the other one. -/
theorem recover_cases (level : Bool) (time : UInt32) (m : SwitchMemory) :
    (m.missedEdge = false ∨ m.debouncing time = true) ∧ m.recover level time = m ∨
      m.missedEdge = true ∧ m.debouncing time = false ∧
        (level = m.pressed ∧ m.recover level time = { m with missedEdge := false } ∨
          level ≠ m.pressed ∧ m.recover level time = ⟨level, some time, false⟩) := by
  unfold recover
  by_cases hquiet : m.missedEdge = false ∨ m.debouncing time = true
  · exact .inl ⟨hquiet, if_pos hquiet⟩
  · rw [if_neg hquiet]
    rw [not_or, Bool.not_eq_false, Bool.not_eq_true] at hquiet
    refine .inr ⟨hquiet.1, hquiet.2, ?_⟩
    by_cases hlevel : level = m.pressed
    · exact .inl ⟨hlevel, if_pos hlevel⟩
    · exact .inr ⟨hlevel, if_neg hlevel⟩

/-- An event that takes no edge leaves the time of the last one, and one that takes an
edge keeps the window and makes it the last. -/
theorem taken_cases (event : SwitchEvent) (m : SwitchMemory) :
    m.taken event = [] ∧ (m.after event).lastEdge = m.lastEdge ∨
      ∃ edge : TakenEdge, m.taken event = [edge] ∧ m.debouncing edge.time = false ∧
        (m.after event).lastEdge = some edge.time := by
  cases event with
  | edge pressed time =>
      simp only [taken, after, edge]
      cases hdeb : m.debouncing time with
      | true => exact .inl ⟨rfl, rfl⟩
      | false => exact .inr ⟨⟨pressed, time⟩, rfl, hdeb, rfl⟩
  | recovery level time =>
      simp only [taken, after]
      rcases m.recover_cases level time with
        ⟨-, hafter⟩ | ⟨-, hdeb, ⟨-, hafter⟩ | ⟨hlevel, hafter⟩⟩
      · rw [hafter]
        exact .inl ⟨if_pos rfl, rfl⟩
      · rw [hafter]
        exact .inl ⟨if_pos rfl, rfl⟩
      · rw [hafter]
        exact .inr ⟨⟨level, time⟩, if_neg hlevel, hdeb, rfl⟩
  | reading level => exact .inl ⟨rfl, rfl⟩
  | unrelated => exact .inl ⟨rfl, rfl⟩

/-- The flag is at the level, or an ignored edge is still to be made up for. -/
def Owes (level : Bool) (m : SwitchMemory) : Prop :=
  m.pressed = level ∨ m.missedEdge = true

theorem owes_edge (level : Bool) (time : UInt32) (m : SwitchMemory) :
    (m.edge level time).Owes level := by
  unfold edge
  cases m.debouncing time with
  | true => exact .inr rfl
  | false => exact .inl rfl

/-- Once the window is over, a recovery leaves nothing owed. -/
theorem Owes.pressed_recover {level : Bool} {time : UInt32} {m : SwitchMemory} (h : m.Owes level)
    (elapsed : m.debouncing time = false) : (m.recover level time).pressed = level := by
  rcases m.recover_cases level time with
    ⟨hquiet | hquiet, hafter⟩ | ⟨-, -, ⟨hlevel, hafter⟩ | ⟨-, hafter⟩⟩
  · rw [hafter]
    exact h.resolve_right (by rw [hquiet]; decide)
  · rw [elapsed] at hquiet
    cases hquiet
  · rw [hafter]
    exact hlevel.symm
  · rw [hafter]

theorem Owes.recover {level : Bool} {m : SwitchMemory} (h : m.Owes level) (time : UInt32) :
    (m.recover level time).Owes level := by
  rcases m.recover_cases level time with
    ⟨-, hafter⟩ | ⟨-, -, ⟨hlevel, hafter⟩ | ⟨-, hafter⟩⟩
  · rw [hafter]
    exact h
  · rw [hafter]
    exact .inl hlevel.symm
  · rw [hafter]
    exact .inl rfl

/-- A memory that has missed nothing has nothing to make up for, at whatever level. -/
theorem recover_of_missedEdge {m : SwitchMemory} (h : m.missedEdge = false) (level : Bool)
    (time : UInt32) : m.recover level time = m :=
  if_pos (.inl h)

end SwitchMemory

/-! ## Runs of an axis -/

/-- What happens to an axis. -/
inductive AxisStep (α : Type) where
  | operate (operation : AxisOperation)
  | readFlags
  /-- The hardware is found in another state, its switches at other levels. -/
  | hardware (hardware : α)

/-- Whether the step is an edge of this switch. -/
def AxisStep.isEdgeOf {α : Type} (switch : LimitSwitch) : AxisStep α → Bool
  | .operate (.switchEdge edged _ _) => decide (edged = switch)
  | _ => false

/-- What the state tells of one switch. -/
def AxisState.memory (switch : LimitSwitch) (s : AxisState) : SwitchMemory :=
  ⟨s.pressed.get switch, s.lastEdge.get switch, s.missedEdge.get switch⟩

namespace Axis

variable {α : Type} [AxisHardware α]

/-- The level that a reading finds. -/
def level (switch : LimitSwitch) (a : Axis α) : Bool :=
  (readSwitches a.hardware).1.get switch

def after : AxisStep α → Axis α → Axis α
  | .operate operation, a => a.operate operation
  | .readFlags, a => a.readFlags
  | .hardware hardware, a => { a with hardware }

def run : List (AxisStep α) → Axis α → Axis α
  | [], a => a
  | step :: later, a => run later (a.after step)

/-- The edge of a switch that a step takes: one that was not ignored, or a recovery that
changes the flag. -/
def taken (switch : LimitSwitch) : AxisStep α → Axis α → List TakenEdge
  | .operate (.switchEdge edged pressed time), a =>
      if edged = switch ∧ (a.switchEdge edged pressed time).1 ≠ .ignored then [⟨pressed, time⟩]
      else []
  | .operate (.recovery time), a =>
      let flag := (a.recoverEdges time).2.state.pressed.get switch
      if flag = a.state.pressed.get switch then [] else [⟨flag, time⟩]
  | _, _ => []

/-- Every edge of a switch that a run takes, in order. -/
def takenAll (switch : LimitSwitch) : List (AxisStep α) → Axis α → List TakenEdge
  | [], _ => []
  | step :: later, a => a.taken switch step ++ takenAll switch later (a.after step)

/-- A reading finds the level at the start of the run and after each step. -/
def Holds (switch : LimitSwitch) (level : Bool) : List (AxisStep α) → Axis α → Prop
  | [], a => a.level switch = level
  | step :: later, a => a.level switch = level ∧ Holds switch level later (a.after step)

theorem run_append (earlier later : List (AxisStep α)) (a : Axis α) :
    a.run (earlier ++ later) = (a.run earlier).run later := by
  induction earlier generalizing a with
  | nil => rfl
  | cons step rest ih => exact ih (a.after step)

theorem Holds.last {switch : LimitSwitch} {level : Bool} {steps : List (AxisStep α)} {a : Axis α}
    (h : a.Holds switch level steps) : (a.run steps).level switch = level := by
  induction steps generalizing a with
  | nil => exact h
  | cons step rest ih => exact ih h.2

/-! ## What a step is for one switch -/

/-- The step as the event that it is for a switch. -/
def event (switch : LimitSwitch) : AxisStep α → Axis α → SwitchEvent
  | .operate (.switchEdge edged pressed time), _ =>
      if edged = switch then .edge pressed time else .unrelated
  | .operate (.recovery time), a => .recovery (a.level switch) time
  | .readFlags, a => .reading (a.level switch)
  | _, _ => .unrelated

theorem event_edge (switch : LimitSwitch) (pressed : Bool) (time : UInt32) (a : Axis α) :
    a.event switch (.operate (.switchEdge switch pressed time)) = .edge pressed time :=
  if_pos rfl

theorem event_edge_other {switch edged : LimitSwitch} (h : edged ≠ switch) (pressed : Bool)
    (time : UInt32) (a : Axis α) :
    a.event switch (.operate (.switchEdge edged pressed time)) = .unrelated :=
  if_neg h

theorem memory_noting (switch edged : LimitSwitch) (missed : Bool) (s : AxisState) :
    (s.noting edged missed).memory switch =
      if edged = switch then { s.memory switch with missedEdge := missed }
      else s.memory switch := by
  by_cases h : edged = switch
  · subst h
    simp [AxisState.memory, AxisState.noting]
  · simp [AxisState.memory, AxisState.noting, h, Switches.get_set_of_ne (Ne.symm h)]

theorem takeEdge_memory (switch edged : LimitSwitch) (pressed : Bool) (now : UInt32)
    (a : Axis α) :
    (a.takeEdge edged pressed now).2.state.memory switch =
      if edged = switch then ⟨pressed, some now, false⟩ else a.state.memory switch := by
  have hedged : (a.takeEdge edged pressed now).2.state.memory switch =
      (a.state.withEdge edged pressed now).memory switch := by
    rcases a.takeEdge_cases edged pressed now with ⟨-, -, hstate⟩ | ⟨-, -, hstate⟩
    · rw [hstate]
      rfl
    · rw [hstate]
  rw [hedged]
  by_cases h : edged = switch
  · subst h
    simp [AxisState.memory, AxisState.withEdge]
  · simp [AxisState.memory, AxisState.withEdge, h, Switches.get_set_of_ne (Ne.symm h)]

theorem switchEdge_memory (switch edged : LimitSwitch) (pressed : Bool) (now : UInt32)
    (a : Axis α) :
    (a.switchEdge edged pressed now).2.state.memory switch =
      if edged = switch then (a.state.memory switch).edge pressed now
      else a.state.memory switch := by
  cases hdeb : a.state.debouncing edged now with
  | true =>
      rw [switchEdge_ignored hdeb, memory_noting]
      by_cases h : edged = switch
      · subst h
        rw [if_pos rfl, if_pos rfl]
        exact (if_pos hdeb).symm
      · rw [if_neg h, if_neg h]
  | false =>
      rw [switchEdge_taken hdeb, takeEdge_memory]
      by_cases h : edged = switch
      · subst h
        rw [if_pos rfl, if_pos rfl]
        exact (if_neg (Bool.eq_false_iff.mp hdeb)).symm
      · rw [if_neg h, if_neg h]

theorem recoverEdge_memory (switch : LimitSwitch) (level : Bool) (now : UInt32) (a : Axis α) :
    (a.recoverEdge switch level now).2.state.memory switch =
      (a.state.memory switch).recover level now := by
  unfold SwitchMemory.recover
  rcases a.recoverEdge_cases switch level now with
    ⟨hquiet, hedge⟩ | ⟨hmissed, hover, hlevel⟩
  · rw [hedge]
    exact (if_pos hquiet).symm
  · have hgo : ¬((a.state.memory switch).missedEdge = false ∨
        (a.state.memory switch).debouncing now = true) := by
      rw [not_or, Bool.not_eq_false, Bool.not_eq_true]
      exact ⟨hmissed, hover⟩
    rw [if_neg hgo]
    rcases hlevel with ⟨hsame, hedge⟩ | ⟨hdiffers, hedge⟩
    · rw [hedge, memory_noting, if_pos rfl]
      exact (if_pos hsame).symm
    · rw [hedge, takeEdge_memory, if_pos rfl]
      exact (if_neg hdiffers).symm

theorem recoverEdge_memory_other {switch other : LimitSwitch} (h : other ≠ switch) (level : Bool)
    (now : UInt32) (a : Axis α) :
    (a.recoverEdge switch level now).2.state.memory other = a.state.memory other := by
  obtain ⟨hpressed, hmissed, hlast⟩ := a.recoverEdge_other h level now
  unfold AxisState.memory
  rw [hpressed, hmissed, hlast]

theorem recoverEdges_memory (switch : LimitSwitch) (now : UInt32) (a : Axis α) :
    (a.recoverEdges now).2.state.memory switch =
      (a.state.memory switch).recover (a.level switch) now := by
  let levels := (readSwitches a.hardware).1
  let read : Axis α := { a with hardware := (readSwitches a.hardware).2 }
  let home := (read.recoverEdge .home levels.home now).2
  show (home.recoverEdge .far levels.far now).2.state.memory switch = _
  cases switch with
  | home =>
      rw [recoverEdge_memory_other (by decide)]
      exact read.recoverEdge_memory .home levels.home now
  | far =>
      rw [recoverEdge_memory, read.recoverEdge_memory_other (by decide)]
      rfl

theorem recoverEdges_pressed_eq (switch : LimitSwitch) (now : UInt32) (a : Axis α) :
    (a.recoverEdges now).2.state.pressed.get switch =
      ((a.state.memory switch).recover (a.level switch) now).pressed :=
  congrArg SwitchMemory.pressed (a.recoverEdges_memory switch now)

theorem start_memory (switch : LimitSwitch) (motion : Motion) (a : Axis α) :
    (a.start motion).2.state.memory switch = a.state.memory switch := by
  rcases a.start_cases motion with ⟨refusal, -, hrefused⟩ | ⟨plan, -, -, hstate⟩
  · rw [hrefused]
  · rw [hstate]
    unfold AxisState.begin
    dsimp only
    obtain ⟨segment, target, hfirst⟩ := AxisState.enterFirst_eq { a.state with
      direction := motion.direction
      profile := plan
      startVelocity := min motion.startVelocity topStepRate
      topVelocity := min motion.holdVelocity topStepRate
      velocity := min motion.startVelocity topStepRate
      endsOnRelease := false }
    rw [hfirst]
    rfl

theorem encoderEdge_memory (switch : LimitSwitch) (a : Axis α) :
    a.encoderEdge.2.state.memory switch = a.state.memory switch := by
  obtain ⟨segment, target, hleave⟩ := a.counted.enterThrough_eq a.counted.segment.following
  rcases a.encoderEdge_cases with ⟨-, hedge⟩ | ⟨-, -, ⟨-, hedge⟩ | ⟨-, hedge⟩⟩
  · rw [hedge]
    rfl
  · rw [hedge, AxisState.leave, hleave]
    rfl
  · rw [hedge, AxisState.leave, hleave]
    rfl

/-- **One step.** What is remembered of a switch changes as the step's event has it. -/
theorem after_memory (switch : LimitSwitch) (step : AxisStep α) (a : Axis α) :
    (a.after step).state.memory switch = (a.state.memory switch).after (a.event switch step) := by
  cases step with
  | operate operation =>
      cases operation with
      | start motion => exact a.start_memory switch motion
      | encoderEdge => exact a.encoderEdge_memory switch
      | rampTick =>
          show a.rampTick.state.memory switch = a.state.memory switch
          unfold rampTick
          split
          · rfl
          · rfl
      | switchEdge edged pressed time =>
          have hedge := a.switchEdge_memory switch edged pressed time
          by_cases h : edged = switch
          · subst h
            rw [event_edge]
            exact hedge.trans (if_pos rfl)
          · rw [event_edge_other h]
            exact hedge.trans (if_neg h)
      | recovery time => exact a.recoverEdges_memory switch time
      | endOnRelease =>
          show a.endOnRelease.state.memory switch = a.state.memory switch
          rw [endOnRelease_state]
          split
          · rfl
          · rfl
      | stop => rfl
      | reset => rfl
  | readFlags => rfl
  | hardware hardware => rfl

theorem taken_eq (switch : LimitSwitch) (step : AxisStep α) (a : Axis α) :
    a.taken switch step = (a.state.memory switch).taken (a.event switch step) := by
  cases step with
  | operate operation =>
      cases operation with
      | switchEdge edged pressed time =>
          by_cases h : edged = switch
          · subst h
            rw [event_edge]
            cases hdeb : a.state.debouncing edged time with
            | true =>
                have hignored : (a.switchEdge edged pressed time).1 = .ignored := by
                  rw [switchEdge_ignored hdeb]
                exact (if_neg fun htaken => htaken.2 hignored).trans (if_pos hdeb).symm
            | false =>
                have htaken : (a.switchEdge edged pressed time).1 ≠ .ignored := by
                  rw [switchEdge_taken hdeb]
                  cases (a.takeEdge edged pressed time).1 <;> simp
                exact (if_pos ⟨rfl, htaken⟩).trans (if_neg (Bool.eq_false_iff.mp hdeb)).symm
          · rw [event_edge_other h]
            exact if_neg fun htaken => h htaken.1
      | recovery time =>
          show (if (a.recoverEdges time).2.state.pressed.get switch = _ then _ else _) = _
          rw [recoverEdges_pressed_eq]
          rfl
      | start motion => rfl
      | encoderEdge => rfl
      | rampTick => rfl
      | endOnRelease => rfl
      | stop => rfl
      | reset => rfl
  | readFlags => rfl
  | hardware hardware => rfl

/-- A step that is no edge of a switch is at most a recovery or a reading of its level. -/
theorem event_of_unedged {switch : LimitSwitch} {step : AxisStep α}
    (unedged : step.isEdgeOf switch = false) (a : Axis α) :
    a.event switch step = .unrelated ∨
      (∃ time, a.event switch step = .recovery (a.level switch) time) ∨
      step = .readFlags ∧ a.event switch step = .reading (a.level switch) := by
  cases step with
  | operate operation =>
      cases operation with
      | switchEdge edged pressed time =>
          exact .inl (event_edge_other (of_decide_eq_false unedged) pressed time a)
      | recovery time => exact .inr (.inl ⟨time, rfl⟩)
      | start motion => exact .inl rfl
      | encoderEdge => exact .inl rfl
      | rampTick => exact .inl rfl
      | endOnRelease => exact .inl rfl
      | stop => exact .inl rfl
      | reset => exact .inl rfl
  | readFlags => exact .inr (.inr ⟨rfl, rfl⟩)
  | hardware hardware => exact .inl rfl

/-- A step that takes no edge leaves the time of the last one. A step that takes an edge
takes it a window or more after the last one, and makes it the last. -/
theorem after_lastEdge (switch : LimitSwitch) (step : AxisStep α) (a : Axis α) :
    a.taken switch step = [] ∧
        (a.after step).state.lastEdge.get switch = a.state.lastEdge.get switch ∨
      ∃ edge : TakenEdge, a.taken switch step = [edge] ∧
        (∀ last ∈ a.state.lastEdge.get switch, debounceWindow ≤ edge.time - last) ∧
        (a.after step).state.lastEdge.get switch = some edge.time := by
  have hafter : (a.after step).state.lastEdge.get switch =
      ((a.state.memory switch).after (a.event switch step)).lastEdge :=
    congrArg SwitchMemory.lastEdge (a.after_memory switch step)
  rw [taken_eq, hafter]
  rcases (a.state.memory switch).taken_cases (a.event switch step) with
    h | ⟨edge, htaken, hover, hlast⟩
  · exact .inl h
  · exact .inr ⟨edge, htaken, fun _ => SwitchMemory.le_of_not_debouncing hover, hlast⟩

/-! ## What a run is for one switch -/

/-- An edge is taken, or what it told is owed. -/
theorem operate_edge_owes (switch : LimitSwitch) (level : Bool) (time : UInt32) (a : Axis α) :
    ((a.operate (.switchEdge switch level time)).state.memory switch).Owes level := by
  have hmemory := a.switchEdge_memory switch switch level time
  rw [if_pos rfl] at hmemory
  show ((a.switchEdge switch level time).2.state.memory switch).Owes level
  rw [hmemory]
  exact SwitchMemory.owes_edge level time _

theorem after_owes {switch : LimitSwitch} {level : Bool} {step : AxisStep α} {a : Axis α}
    (h : (a.state.memory switch).Owes level) (found : a.level switch = level)
    (unedged : step.isEdgeOf switch = false) : ((a.after step).state.memory switch).Owes level := by
  rw [after_memory]
  rcases event_of_unedged unedged a with hevent | ⟨time, hevent⟩ | ⟨-, hevent⟩
  · rw [hevent]
    exact h
  · rw [hevent, found]
    exact h.recover time
  · rw [hevent]
    exact .inl found

theorem run_owes {switch : LimitSwitch} {level : Bool} {steps : List (AxisStep α)} {a : Axis α}
    (h : (a.state.memory switch).Owes level) (holds : a.Holds switch level steps)
    (unedged : ∀ step ∈ steps, step.isEdgeOf switch = false) :
    ((a.run steps).state.memory switch).Owes level := by
  induction steps generalizing a with
  | nil => exact h
  | cons step rest ih =>
      obtain ⟨hstep, hrest⟩ := List.forall_mem_cons.mp unedged
      exact ih (after_owes h holds.1 hstep) holds.2 hrest

/-- The flag of a switch with nothing to make up for changes only at an edge or when the
flags are read. -/
theorem after_without_edge {switch : LimitSwitch} {level : Bool} {step : AxisStep α} {a : Axis α}
    (flag : a.state.pressed.get switch = level) (settled : a.state.missedEdge.get switch = false)
    (unedged : step.isEdgeOf switch = false)
    (reading : step = .readFlags → a.level switch = level) :
    (a.after step).state.pressed.get switch = level ∧
      (a.after step).state.missedEdge.get switch = false := by
  show ((a.after step).state.memory switch).pressed = level ∧
    ((a.after step).state.memory switch).missedEdge = false
  rw [after_memory]
  rcases event_of_unedged unedged a with hevent | ⟨time, hevent⟩ | ⟨hread, hevent⟩
  · rw [hevent]
    exact ⟨flag, settled⟩
  · rw [hevent, SwitchMemory.after, SwitchMemory.recover_of_missedEdge settled]
    exact ⟨flag, settled⟩
  · rw [hevent]
    exact ⟨reading hread, settled⟩

theorem run_without_edges {switch : LimitSwitch} {level : Bool} {steps : List (AxisStep α)}
    {a : Axis α} (flag : a.state.pressed.get switch = level)
    (settled : a.state.missedEdge.get switch = false)
    (unedged : ∀ step ∈ steps, step.isEdgeOf switch = false)
    (readings : ∀ earlier later, steps = earlier ++ .readFlags :: later →
      (a.run earlier).level switch = level) :
    (a.run steps).state.pressed.get switch = level ∧
      (a.run steps).state.missedEdge.get switch = false := by
  induction steps generalizing a with
  | nil => exact ⟨flag, settled⟩
  | cons step rest ih =>
      obtain ⟨hstep, hrest⟩ := List.forall_mem_cons.mp unedged
      obtain ⟨hflag, hsettled⟩ := after_without_edge flag settled hstep fun hread =>
        readings [] rest (congrArg (· :: rest) hread)
      refine ih hflag hsettled hrest fun earlier later hsplit => ?_
      exact readings (step :: earlier) later (congrArg (step :: ·) hsplit)

/-- The last edge remembered is the last one taken. -/
theorem run_lastEdge (switch : LimitSwitch) (steps : List (AxisStep α)) (a : Axis α) :
    (a.run steps).state.lastEdge.get switch =
      ((a.takenAll switch steps).getLast?.map TakenEdge.time).or
        (a.state.lastEdge.get switch) := by
  induction steps generalizing a with
  | nil => rfl
  | cons step rest ih =>
      show ((a.after step).run rest).state.lastEdge.get switch = _
      rw [ih, takenAll]
      rcases a.after_lastEdge switch step with ⟨htaken, hlast⟩ | ⟨edge, htaken, -, hlast⟩
      · rw [htaken, hlast]
        rfl
      · rw [htaken, hlast]
        cases (a.after step).takenAll switch rest with
        | nil => rfl
        | cons next others => simp [List.getLast?_cons]

/-- The window of a switch without edges before a run is over when it is over for the
last edge taken. -/
theorem run_not_debouncing {switch : LimitSwitch} {steps : List (AxisStep α)} {a : Axis α}
    {now : UInt32} (fresh : a.state.lastEdge.get switch = none)
    (elapsed : ∀ edge ∈ (a.takenAll switch steps).getLast?, debounceWindow ≤ now - edge.time) :
    ((a.run steps).state.memory switch).debouncing now = false := by
  refine SwitchMemory.not_debouncing fun last hlast => ?_
  have hlogged := a.run_lastEdge switch steps
  rw [fresh, Option.or_none] at hlogged
  obtain ⟨edge, hedge, rfl⟩ := Option.map_eq_some_iff.mp (hlogged.symm.trans hlast)
  exact elapsed edge hedge

/-- Edges taken one after the other are a window apart, and so is the first one from the
last edge before the run. -/
theorem takenAll_spaced (switch : LimitSwitch) (steps : List (AxisStep α)) (a : Axis α) :
    (∀ last ∈ a.state.lastEdge.get switch, ∀ edge ∈ (a.takenAll switch steps).head?,
        debounceWindow ≤ edge.time - last) ∧
      (a.takenAll switch steps).IsChain fun earlier later =>
        debounceWindow ≤ later.time - earlier.time := by
  induction steps generalizing a with
  | nil =>
      refine ⟨fun last hlast edge hedge => ?_, List.IsChain.nil⟩
      cases hedge
  | cons step rest ih =>
      obtain ⟨hhead, hchain⟩ := ih (a.after step)
      rw [takenAll]
      rcases a.after_lastEdge switch step with ⟨htaken, hlast⟩ | ⟨edge, htaken, hover, hlast⟩
      · rw [htaken]
        rw [hlast] at hhead
        exact ⟨hhead, hchain⟩
      · rw [htaken]
        rw [hlast] at hhead
        refine ⟨fun last hbefore next hnext => ?_, List.isChain_cons.mpr ⟨hhead _ rfl, hchain⟩⟩
        obtain rfl := Option.some.inj hnext
        exact hover last hbefore

end Axis

/-- **Bounce delays a level and never loses it.** If the last edge of a switch told a
level, and the switch has been at it since, then the flag is at that level after every
recovery whose time is a window or more from the last edge taken. If the switch never had
an edge, the flag is at the level found first, as long as no reading found another. Edges
taken one after the other are always a window apart. -/
theorem bounce_never_loses_level {α : Type} [AxisHardware α] (id : AxisId) (hardware : α)
    (steps : List (AxisStep α)) (switch : LimitSwitch) :
    let first := Axis.new id hardware
    let taken := first.takenAll switch steps
    (∀ earlier since level time,
      steps = earlier ++ .operate (.switchEdge switch level time) :: since →
      (∀ step ∈ since, step.isEdgeOf switch = false) →
      ((first.run earlier).operate (.switchEdge switch level time)).Holds switch level since →
      ∀ now, (∀ edge ∈ taken.getLast?, debounceWindow ≤ now - edge.time) →
        ((first.run steps).recoverEdges now).2.state.pressed.get switch = level) ∧
    (∀ level, (∀ step ∈ steps, step.isEdgeOf switch = false) →
      (Axis.readSwitches hardware).1.get switch = level →
      (∀ earlier later, steps = earlier ++ .readFlags :: later →
        (first.run earlier).level switch = level) →
      ∀ now, ((first.run steps).recoverEdges now).2.state.pressed.get switch = level) ∧
    taken.IsChain fun earlier later => debounceWindow ≤ later.time - earlier.time := by
  intro first taken
  have hfirst : first.state.lastEdge.get switch = none := by cases switch <;> rfl
  refine ⟨?_, ?_, (first.takenAll_spaced switch steps).2⟩
  · intro earlier since level time hsteps hunedged hholds now hwindow
    have hrun : first.run steps =
        ((first.run earlier).operate (.switchEdge switch level time)).run since := by
      rw [hsteps, Axis.run_append]
      rfl
    have howes : ((first.run steps).state.memory switch).Owes level := by
      rw [hrun]
      exact Axis.run_owes (Axis.operate_edge_owes switch level time _) hholds hunedged
    have hlevel : (first.run steps).level switch = level := by
      rw [hrun]
      exact hholds.last
    rw [Axis.recoverEdges_pressed_eq, hlevel]
    exact howes.pressed_recover (Axis.run_not_debouncing hfirst hwindow)
  · intro level hunedged hlevel hreadings now
    have hsettled : first.state.missedEdge.get switch = false := by cases switch <;> rfl
    obtain ⟨hpressed, hmissed⟩ := Axis.run_without_edges hlevel hsettled hunedged hreadings
    rw [Axis.recoverEdges_pressed_eq, SwitchMemory.recover_of_missedEdge hmissed]
    exact hpressed

/-- The home switch closes for two milliseconds, around the time at which the clock wraps;
then the other switch closes. -/
def glitch : List (AxisStep Recorder) :=
  [.operate (.switchEdge .home true 0xfffffffe), .operate (.switchEdge .home false 0),
    .operate (.recovery 1), .operate (.switchEdge .far true 2), .operate .stop]

/-- The release is ignored, and made up for five milliseconds after the press. -/
theorem glitch_recovered :
    ((Axis.new .x (Recorder.new ⟨false, false⟩)).run glitch).state.pressed.home = true ∧
      (((Axis.new .x (Recorder.new ⟨false, false⟩)).run glitch).recoverEdges 3).2.state.pressed.home
        = false := by
  obtain ⟨hsettles, -, -⟩ :=
    bounce_never_loses_level .x (Recorder.new ⟨false, false⟩) glitch .home
  exact ⟨by decide +kernel,
    hsettles [.operate (.switchEdge .home true 0xfffffffe)]
      [.operate (.recovery 1), .operate (.switchEdge .far true 2), .operate .stop] false 0 rfl
      (by decide) ⟨rfl, rfl, rfl, rfl⟩ 3 (by decide +kernel)⟩

end XYStage
