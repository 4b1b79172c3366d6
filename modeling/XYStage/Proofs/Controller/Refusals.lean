/-
# XYStage.Proofs.Controller.Refusals -- what is declined leaves no trace

A frame is declined at one of five places: it cannot be decoded, the status does not
allow its command, the axis refuses the motion, the value is out of range, or there is
no such sensor. A query asks for nothing to be done. `Controller.Declines` gathers all of
these by what the host is answered, not by the place, and `Controller.Undisturbed` says
that nothing but the link, the sensors and the record has been touched.

Main statement: carrying out a frame that is declined changes neither the status nor an
axis nor the calibration nor its store, and an axis accepts a motion under the conditions
of `Axis.Accepts`, or it is left as it was (`refusals_change_nothing`).
-/
import XYStage.Proofs.Controller.Settings

namespace XYStage

set_option autoImplicit false

variable {δ ε α π σ : Type}

/-! ## Refused motions -/

/-- An axis accepts a motion if it is at rest, the motion goes somewhere and the way it
is said to go, there is a profile for it, and the switch ahead is not pressed. -/
structure Axis.Accepts (motion : Motion) (a : Axis α) : Prop where
  rest : a.state.moving = false
  distance_ne : motion.distance ≠ 0
  sign_eq : motion.distance.toInt.sign = motion.direction.sign.toInt
  /-- A change of velocity takes an acceleration. -/
  feasible : ¬(motion.acceleration = 0 ∧ motion.holdVelocity ≠ motion.startVelocity)
  clear_ahead : a.state.pressed.get (.facing motion.direction) = false

/-- There is a profile unless the velocity has to change without acceleration. -/
theorem Motion.exists_profile_iff {motion : Motion} :
    (∃ plan, motion.profile = .ok plan) ↔
      ¬(motion.acceleration = 0 ∧ motion.holdVelocity ≠ motion.startVelocity) := by
  unfold profile Trapezoid.plan
  constructor
  · rintro ⟨plan, hplan⟩ hzero
    rw [if_pos hzero] at hplan
    cases hplan
  · intro hramp
    rw [if_neg hramp]
    split
    · exact ⟨_, rfl⟩
    · dsimp only
      split
      · exact ⟨_, rfl⟩
      · exact ⟨_, rfl⟩

namespace Axis

theorem exists_permit_iff {a : Axis α} {motion : Motion} :
    (∃ plan, a.permit motion = .ok plan) ↔ a.Accepts motion := by
  constructor
  · rintro ⟨plan, hpermit⟩
    obtain ⟨rest, distance, agrees, profile, clear⟩ := permit_eq_ok.mp hpermit
    apply Accepts.mk rest distance
    · exact of_decide_eq_true agrees
    · exact Motion.exists_profile_iff.mp ⟨plan, profile⟩
    · exact clear
  · intro h
    obtain ⟨plan, profile⟩ := Motion.exists_profile_iff.mpr h.feasible
    have agrees : motion.directionAgrees = true := decide_eq_true h.sign_eq
    exact ⟨plan, permit_eq_ok.mpr ⟨h.rest, h.distance_ne, agrees, profile, h.clear_ahead⟩⟩

variable [AxisHardware α]

theorem start_eq_ok_iff {a : Axis α} {motion : Motion} :
    (a.start motion).1 = .ok () ↔ a.Accepts motion := by
  rw [← exists_permit_iff]
  rcases a.start_cases motion with ⟨refusal, hpermit, hstart⟩ | ⟨plan, hpermit, hok, -⟩
  · simp [hpermit, hstart]
  · simp [hpermit, hok]

theorem start_refused {a : Axis α} {motion : Motion} (h : (a.start motion).1 ≠ .ok ()) :
    (a.start motion).2 = a := by
  rcases a.start_cases motion with ⟨refusal, -, hstart⟩ | ⟨plan, -, hok, -⟩
  · rw [hstart]
  · exact absurd hok h

end Axis

/-! ## Declined frames -/

/-- Whether a command only asks. -/
def Command.isQuery : Command → Bool
  | .ping _ | .getStatus | .getPosition | .getAxisState _ | .getTemperature => true
  | .home | .move _ | .stop | .calibrate _ _ => false

namespace Controller

/-- Status, axes, calibration and store are the same. -/
structure Undisturbed (c c' : Controller δ α π σ) : Prop where
  status_eq : c'.status = c.status
  axes_eq : c'.axes = c.axes
  calibration_eq : c'.calibration = c.calibration
  store_eq : c'.store = c.store

theorem undisturbed_of_eq {c c' : Controller δ α π σ}
    (h : ∃ exchange sensors, c' = { c with exchange, sensors }) : c.Undisturbed c' := by
  obtain ⟨exchange, sensors, rfl⟩ := h
  exact ⟨rfl, rfl, rfl, rfl⟩

theorem Undisturbed.trans {c c' c'' : Controller δ α π σ} (first : c.Undisturbed c')
    (second : c'.Undisturbed c'') : c.Undisturbed c'' where
  status_eq := second.status_eq.trans first.status_eq
  axes_eq := second.axes_eq.trans first.axes_eq
  calibration_eq := second.calibration_eq.trans first.calibration_eq
  store_eq := second.store_eq.trans first.store_eq

section

variable [AxisHardware α] [TemperatureSource π] [SettingStore σ]

/-- The frames that ask for nothing, or for nothing that is granted. -/
inductive Declines (c : Controller δ α π σ) (record : PollRecord) (frame : Frame) : Prop where
  /-- The identifier is unknown, or the payload is not one of its command. -/
  | undecoded {error : MessageError} (h : Command.ofFrame frame = .error error)
  | query {command : Command} (h : Command.ofFrame frame = .ok command)
      (asks : command.isQuery = true)
  /-- The answer is a result code, and not that of success. -/
  | refused {command : Command} {code : ResultCode} (h : Command.ofFrame frame = .ok command)
      (answer : (c.execute command record).1 = some (.axisResult code)) (bad : code ≠ .ok)

theorem execute_query {command : Command} (h : command.isQuery = true) (record : PollRecord)
    (c : Controller δ α π σ) : c.Undisturbed (c.execute command record).2.2.2 := by
  apply undisturbed_of_eq
  cases command with
  | ping data => exact ⟨c.exchange, c.sensors, rfl⟩
  | getStatus => exact ⟨c.exchange, c.sensors, rfl⟩
  | getPosition => exact ⟨c.exchange, c.sensors, rfl⟩
  | getAxisState axis => exact ⟨c.exchange, c.sensors, rfl⟩
  | getTemperature => exact ⟨c.exchange, _, rfl⟩
  | home => cases h
  | move request => cases h
  | stop => cases h
  | calibrate key value => cases h

omit [AxisHardware α] [TemperatureSource π] in
/-- A value that is taken is answered as taken, even if the store fails. -/
theorem calibrate_ok {c : Controller δ α π σ} {key : ParameterKey} {value : Single}
    {calibration : Calibration}
    (h : c.calibration.assign key (key.setting value) = .ok calibration) (record : PollRecord) :
    (c.calibrate key value record).1 = .ok := by
  unfold ParameterKey.setting at h
  unfold calibrate
  dsimp only
  rw [h]
  dsimp only
  split <;> rfl

/-- A command answered by any code but success has done nothing: each check that can
answer so comes before everything that is changed. -/
theorem execute_refused {c : Controller δ α π σ} {command : Command} {code : ResultCode}
    {record : PollRecord} (answer : (c.execute command record).1 = some (.axisResult code))
    (bad : code ≠ .ok) : (c.execute command record).2.2.2 = c := by
  cases command with
  | home =>
      simp only [execute, Option.some.injEq, Reply.axisResult.injEq] at answer ⊢
      by_cases idle : c.status = .idle
      · rw [home_accepted idle] at answer
        exact absurd answer.symm bad
      · rw [home_busy idle]
  | move request =>
      simp only [execute, Option.some.injEq, Reply.axisResult.injEq] at answer ⊢
      cases allowed : c.status.allowsMove with
      | false => rw [move_busy allowed]
      | true =>
          rcases (c.axes.get request.axis).start_cases
              (requestedMotion request (c.calibration.axis request.axis)) with
            ⟨refusal, hpermit, -⟩ | ⟨plan, -, hok, -⟩
          · rw [move_refused allowed hpermit]
          · rw [move_accepted allowed (Prod.ext hok rfl)] at answer
            exact absurd answer.symm bad
  | calibrate key value =>
      simp only [execute, Option.some.injEq, Reply.axisResult.injEq] at answer ⊢
      cases hassign : c.calibration.assign key (key.setting value) with
      | error error => rw [calibrate_refused hassign]
      | ok calibration =>
          rw [calibrate_ok hassign] at answer
          exact absurd answer.symm bad
  | ping data => simp [execute] at answer
  | getStatus => simp [execute] at answer
  | stop => simp [execute] at answer
  | getPosition => simp [execute] at answer
  | getAxisState axis => simp [execute] at answer
  | getTemperature => simp [execute] at answer

variable [SerialLine δ ε]

omit [AxisHardware α] [TemperatureSource π] [SettingStore σ] in
theorem conclude_undisturbed (reply : Option Reply) (fate : FrameFate) (record : PollRecord)
    (c : Controller δ α π σ) : c.Undisturbed (c.conclude reply fate record).2 := by
  obtain ⟨noted, failure, exchange, hkept⟩ := c.conclude_kept reply fate record
  rw [hkept]
  exact undisturbed_of_eq ⟨exchange, c.sensors, rfl⟩

theorem carryOut_declined {c : Controller δ α π σ} {record : PollRecord} {frame : Frame}
    (h : c.Declines record frame) : c.Undisturbed (c.carryOut frame record).2 := by
  cases h with
  | undecoded hframe =>
      obtain ⟨reply, fate, hcarry⟩ := carryOut_error hframe record c
      rw [hcarry]
      exact c.conclude_undisturbed reply fate record
  | query hframe asks =>
      rw [carryOut_command hframe]
      apply (execute_query asks record c).trans
      apply conclude_undisturbed
  | refused hframe answer bad =>
      rw [carryOut_command hframe]
      have hsame := execute_refused answer bad
      rw [hsame]
      apply conclude_undisturbed

/-- **What is declined leaves no trace.** A frame that is unknown or malformed, that is a
query, or whose command is answered by any code but success, leaves the status, both axes
with their hardware, the calibration and the store as they were, whether its answer can
be written or not. An axis accepts a motion exactly under the conditions of
`Axis.Accepts`; if it does not, neither its state nor its hardware has been touched. -/
theorem refusals_change_nothing (c : Controller δ α π σ) :
    (∀ record frame, c.Declines record frame → c.Undisturbed (c.carryOut frame record).2) ∧
      ∀ (a : Axis α) (motion : Motion),
        ((a.start motion).1 = .ok () ↔ a.Accepts motion) ∧
          ((a.start motion).1 ≠ .ok () → (a.start motion).2 = a) := by
  constructor
  · intro record frame declines
    exact carryOut_declined declines
  · intro a motion
    exact ⟨Axis.start_eq_ok_iff, Axis.start_refused⟩

end

end Controller

end XYStage
