/-
# XYStage.Proofs.Controller.Settings -- the calibration follows its table

A controller takes calibration values from two sides: commands, which go to its own
calibration and to the store, and writes to the store from outside. The store gives
notice of both, and the next iteration loads everything anew. `Tended` is the run of a
controller over a table; its flag tells whether a write has changed the table since the
last iteration looked at it. The invariant of every run is that the table gives notice
exactly then, and that the calibration is up to date as long as it does not.

Main statement: `Controller.calibration_follows_store`.
-/
import XYStage.Proofs.Calibration.Loading
import XYStage.Proofs.Controller.Coherence

namespace XYStage

set_option autoImplicit false

/-! ## Accepted values -/

namespace ParameterKey

/-- A key takes equal values alike. -/
theorem Takes.congr {key : ParameterKey} {value other : Setting} (h : key.Takes value)
    (same : other.agrees value = true) : key.Takes other := by
  obtain ⟨hnumber, -⟩ := Setting.of_agrees same
  cases key with
  | axis id param =>
      obtain ⟨count, hcount⟩ := h
      refine ⟨count, ?_⟩
      rw [Single.congr_of_equals countRate (by decide +kernel) hnumber]
      exact hcount
  | thermistor sensor param =>
      refine ⟨h.1, h.2.imp_right fun hfinite => ?_⟩
      rw [Single.congr_of_equals Single.isFinite (by decide +kernel) hnumber]
      exact hfinite

/-- The value of a command as the key holds it. -/
def setting (value : Single) (key : ParameterKey) : Setting :=
  if key.holdsFlag then .flag (!value.equals 0) else .number value

/-- A value of a command that is taken equals itself. -/
theorem Takes.agrees_self {key : ParameterKey} {value : Single}
    (h : key.Takes (key.setting value)) :
    (key.setting value).agrees (key.setting value) = true := by
  cases hflag : key.holdsFlag with
  | true => simp [setting, hflag, Setting.agrees]
  | false =>
      have hsetting : key.setting value = .number value := by simp [setting, hflag]
      rw [hsetting] at h ⊢
      apply Single.equals_self
      cases key with
      | axis id param =>
          obtain ⟨count, hcount⟩ := h
          cases hfinite : value.isFinite with
          | true => rfl
          | false => simp [countRate, Setting.toSingle, hfinite] at hcount
      | thermistor sensor param =>
          rcases h.2 with rfl | hfinite
          · cases hflag
          · exact hfinite

end ParameterKey

namespace Controller

variable {δ ε α π σ : Type}

/-! ## The table in one iteration -/

theorem calibrate_refused [SettingStore σ] {c : Controller δ α π σ} {key : ParameterKey}
    {value : Single} {error : RangeError}
    (h : c.calibration.assign key (key.setting value) = .error error) (record : PollRecord) :
    c.calibrate key value record = (.invalid, record, c) := by
  unfold ParameterKey.setting at h
  unfold calibrate
  dsimp only
  rw [h]

theorem calibrate_taken [SettingStore σ] {c : Controller δ α π σ} {key : ParameterKey}
    {value : Single} {calibration : Calibration}
    (h : c.calibration.assign key (key.setting value) = .ok calibration) (record : PollRecord) :
    let written := SettingStore.write key.toByte (key.setting value) c.store
    (c.calibrate key value record).2.2 = { c with calibration, store := written.2 } ∧
      ∀ error, written.1 = .error error →
        (c.calibrate key value record).2.1.storeFailure = some error := by
  unfold ParameterKey.setting at h ⊢
  unfold calibrate
  dsimp only
  rw [h]
  dsimp only
  split
  · next store hwrite =>
    rw [hwrite]
    exact ⟨rfl, nofun⟩
  · next failure store hwrite =>
    rw [hwrite]
    refine ⟨rfl, fun error herror => ?_⟩
    cases herror
    rfl

/-- The calibration is the one that the table has. -/
def UpToDate (c : Controller δ α π SettingTable) : Prop :=
  c.calibration.Agrees (Calibration.loaded c.store)

/-- A value that the table has room for is taken alike by the calibration and by the
table, which gives notice exactly if it has changed. -/
theorem calibrate_upToDate {c : Controller δ α π SettingTable} (h : c.UpToDate)
    (quiet : c.store.changed = false) (key : ParameterKey) (value : Single) (record : PollRecord)
    (room : (c.calibrate key value record).2.1.storeFailure ≠ some .full) :
    let after := (c.calibrate key value record).2.2
    after.UpToDate ∧ after.store.changed = decide (after.store.entries ≠ c.store.entries) := by
  intro after
  cases hassign : c.calibration.assign key (key.setting value) with
  | error error =>
      have hafter : after = c :=
        congrArg (fun answer => answer.2.2) (calibrate_refused hassign record)
      rw [hafter, quiet]
      exact ⟨h, by simp⟩
  | ok calibration =>
      obtain ⟨htakes, hkeep⟩ := Calibration.assign_eq_ok hassign
      have hself := htakes.agrees_self
      obtain ⟨hafter, hfailure⟩ := calibrate_taken hassign record
      have hwrite : SettingStore.write key.toByte (key.setting value) c.store =
          c.store.write key.toByte (key.setting value) := rfl
      rw [hwrite] at hafter hfailure
      rw [show after = _ from hafter]
      unfold UpToDate
      dsimp only
      rw [← hkeep]
      cases hchanged : c.store.changedBy key.toByte (key.setting value) with
      | true =>
          obtain ⟨hnotice, hread⟩ := SettingTable.write_changed hchanged
          rw [Calibration.loaded_of_write htakes hread, hnotice]
          refine ⟨h.assignOrKeep hself key, Eq.symm ?_⟩
          rw [decide_eq_true_eq]
          intro hsame
          -- With the same entries the value would have been there already.
          have hpresent : c.store.get? key.toByte = some (key.setting value) := by
            have hlater := hread key.toByte
            rw [if_pos rfl, SettingTable.get?, hsame] at hlater
            exact hlater
          unfold SettingTable.changedBy at hchanged
          rw [hpresent] at hchanged
          simp [hself] at hchanged
      | false =>
          rcases SettingTable.write_unchanged hchanged with
            ⟨⟨stored, hstored, hsame⟩, hkept⟩ | hfull
          · have hloaded : Calibration.loaded c.store =
                (Calibration.loaded c.store).assignOrKeep key stored := by
              apply Calibration.loaded_of_write (htakes.congr hsame)
              intro name
              split
              · next hname => rw [hname, hstored]
              · rfl
            rw [hkept, quiet]
            refine ⟨?_, by simp⟩
            rw [hloaded]
            apply h.assignOrKeep
            rw [Setting.agrees_comm, hsame]
          · exact absurd (hfailure .full (congrArg Prod.fst hfull)) room

/-- Reloading takes the notice of the table, and loads it if there is one. -/
theorem reload_table (c : Controller δ α π SettingTable) :
    c.reload = (c.store.changed, { c with
      store := { c.store with changed := false }
      calibration := if c.store.changed then Calibration.loaded c.store else c.calibration }) := by
  have htake : SettingStore.takeNotice c.store =
      (c.store.changed, { c.store with changed := false }) := rfl
  have hload : Calibration.ofStore { c.store with changed := false } =
      (.ok (Calibration.loaded c.store), { c.store with changed := false }) :=
    Calibration.ofStore_table _
  unfold reload
  rw [htake]
  dsimp only
  rw [hload]
  cases c.store.changed with
  | true => rfl
  | false => rfl

/-- A reload leaves the calibration up to date, if it was so as long as there was no
notice. -/
theorem reload_upToDate {c : Controller δ α π SettingTable}
    (h : c.store.changed = false → c.UpToDate) : c.reload.2.UpToDate := by
  rw [reload_table]
  unfold UpToDate
  cases hchanged : c.store.changed with
  | true => exact Calibration.loaded_agrees c.store
  | false => exact h hchanged

section Motion

variable [AxisHardware α]

theorem progress_settings (c : Controller δ α π σ) :
    c.progress.2.store = c.store ∧ c.progress.2.calibration = c.calibration := by
  cases rest : c.axes.anyMoving with
  | true =>
      have hprogress : c.progress = (none, c) := if_pos rest
      rw [hprogress]
      exact ⟨rfl, rfl⟩
  | false =>
      by_cases h : c.status.atRest c.axes.limits = c.status
      · rw [progress_unchanged rest h]
        exact ⟨rfl, rfl⟩
      · rw [progress_changed rest rfl rfl (Ne.symm h)]
        split
        · exact ⟨rfl, rfl⟩
        · split
          · exact ⟨rfl, rfl⟩
          · exact ⟨rfl, rfl⟩

variable [SerialLine δ ε] [TemperatureSource π] [SettingStore σ]

/-- No command says anything about reloading, and none but a calibration does anything
to the settings. -/
theorem execute_settings (command : Command) (record : PollRecord) (c : Controller δ α π σ) :
    (c.execute command record).2.2.1.reloaded = record.reloaded ∧
      ((∃ key value, command = .calibrate key value) ∨
        (c.execute command record).2.2.2.store = c.store ∧
          (c.execute command record).2.2.2.calibration = c.calibration) := by
  cases command with
  | calibrate key value =>
      obtain ⟨code, failure, store, calibration, hkept⟩ := c.calibrate_kept key value record
      simp only [execute]
      rw [hkept]
      exact ⟨rfl, .inl ⟨key, value, rfl⟩⟩
  | home =>
      simp only [execute]
      by_cases hidle : c.status = .idle
      · rw [home_accepted hidle]
        exact ⟨rfl, .inr ⟨rfl, rfl⟩⟩
      · rw [home_busy hidle]
        exact ⟨rfl, .inr ⟨rfl, rfl⟩⟩
  | move request =>
      simp only [execute]
      cases hallowed : c.status.allowsMove with
      | false =>
          rw [move_busy hallowed]
          exact ⟨rfl, .inr ⟨rfl, rfl⟩⟩
      | true =>
          rcases (c.axes.get request.axis).start_cases
              (requestedMotion request (c.calibration.axis request.axis)) with
            ⟨refusal, hpermit, -⟩ | ⟨plan, -, hok, -⟩
          · rw [move_refused hallowed hpermit]
            exact ⟨rfl, .inr ⟨rfl, rfl⟩⟩
          · rw [move_accepted hallowed (Prod.ext hok rfl)]
            exact ⟨rfl, .inr ⟨rfl, rfl⟩⟩
  | ping data => exact ⟨rfl, .inr ⟨rfl, rfl⟩⟩
  | getStatus => exact ⟨rfl, .inr ⟨rfl, rfl⟩⟩
  | stop => exact ⟨rfl, .inr ⟨rfl, rfl⟩⟩
  | getPosition => exact ⟨rfl, .inr ⟨rfl, rfl⟩⟩
  | getAxisState axis => exact ⟨rfl, .inr ⟨rfl, rfl⟩⟩
  | getTemperature => exact ⟨rfl, .inr ⟨rfl, rfl⟩⟩

/-- Listening does to the settings what a calibration that it hands on does, or
nothing. -/
theorem listen_settings (record : PollRecord) (c : Controller δ α π σ) :
    (c.listen record).1.record.reloaded = record.reloaded ∧
      ((c.listen record).2.store = c.store ∧ (c.listen record).2.calibration = c.calibration ∨
        ∃ (exchange : Exchange δ) (key : ParameterKey) (value : Single),
          let answer := { c with exchange }.calibrate key value record
          (c.listen record).2.store = answer.2.2.store ∧
            (c.listen record).2.calibration = answer.2.2.calibration ∧
            (c.listen record).1.record.storeFailure = answer.2.1.storeFailure) := by
  rw [listen_eq]
  cases c.exchange.hear with
  | mk answer exchange =>
      cases answer with
      | error e => exact ⟨rfl, .inl ⟨rfl, rfl⟩⟩
      | ok frame? =>
          cases frame? with
          | none => exact ⟨rfl, .inl ⟨rfl, rfl⟩⟩
          | some frame =>
              dsimp only
              cases hframe : Command.ofFrame frame with
              | error error =>
                  obtain ⟨reply, fate, hcarry⟩ :=
                    carryOut_error hframe record { c with exchange }
                  obtain ⟨noted, failure, exchange, hkept⟩ :=
                    conclude_kept reply fate record { c with exchange }
                  rw [hcarry, hkept]
                  exact ⟨rfl, .inl ⟨rfl, rfl⟩⟩
              | ok command =>
                  obtain ⟨hreloaded, hsettings⟩ :=
                    execute_settings command record { c with exchange }
                  rw [carryOut_command hframe]
                  obtain ⟨noted, failure, after, hkept⟩ :=
                    conclude_kept ({ c with exchange }.execute command record).1
                      (.executed command.id ({ c with exchange }.execute command record).2.1)
                      ({ c with exchange }.execute command record).2.2.1
                      ({ c with exchange }.execute command record).2.2.2
                  rw [hkept]
                  refine ⟨hreloaded, ?_⟩
                  rcases hsettings with ⟨key, value, rfl⟩ | hsettings
                  · exact .inr ⟨exchange, key, value, rfl, rfl, rfl⟩
                  · exact .inl hsettings

end Motion

section Runs

variable [AxisHardware α] [SerialLine δ ε] [TemperatureSource π]

/-- Listening keeps the calibration up to date, as long as the table has room. -/
theorem listen_upToDate {c : Controller δ α π SettingTable} (h : c.UpToDate)
    (quiet : c.store.changed = false) (record : PollRecord)
    (room : (c.listen record).1.record.storeFailure ≠ some .full) :
    let after := (c.listen record).2
    after.UpToDate ∧ after.store.changed = decide (after.store.entries ≠ c.store.entries) := by
  intro after
  obtain ⟨-, hsettings⟩ := c.listen_settings record
  rcases hsettings with ⟨hstore, hcalibration⟩ | ⟨exchange, key, value, hstore, hcalibration,
    hfailure⟩
  · unfold UpToDate
    rw [hstore, hcalibration, quiet]
    exact ⟨h, by simp⟩
  · rw [hfailure] at room
    unfold UpToDate
    rw [hstore, hcalibration]
    exact calibrate_upToDate (c := { c with exchange }) h quiet key value record room

/-- **One iteration.** -/
theorem poll_upToDate {c : Controller δ α π SettingTable}
    (h : c.store.changed = false → c.UpToDate)
    (room : c.poll.1.record.storeFailure ≠ some .full) :
    c.poll.1.record.reloaded = c.store.changed ∧ c.poll.2.UpToDate ∧
      c.poll.2.store.changed = decide (c.poll.2.store.entries ≠ c.store.entries) := by
  obtain ⟨hstore, hcalibration⟩ := c.reload.2.progress_settings
  have hread : c.settled.store = { c.store with changed := false } := by
    rw [settled, hstore, reload_table]
  have hentries : c.settled.store.entries = c.store.entries := by rw [hread]
  have hquiet : c.settled.store.changed = false := by rw [hread]
  have hupToDate : c.settled.UpToDate := by
    have hreload := reload_upToDate h
    unfold UpToDate settled at *
    rw [hstore, hcalibration]
    exact hreload
  have hreloaded : c.reload.1 = c.store.changed := by rw [reload_table]
  rw [poll_eq] at room ⊢
  obtain ⟨hkept, -⟩ := c.settled.listen_settings
    { PollRecord.nothing with reloaded := c.reload.1, rested := c.reload.2.progress.1 }
  rw [← hentries]
  exact ⟨hkept.trans hreloaded, listen_upToDate hupToDate hquiet _ room⟩

omit [AxisHardware α] [SerialLine δ ε] [TemperatureSource π] in
/-- A table is loaded as a whole when a controller is made. -/
theorem new_upToDate (exchange : Exchange δ) (axes : Axes α) (sensors : π) (s : SettingTable) :
    (Controller.new exchange axes sensors s).UpToDate ∧
      (Controller.new exchange axes sensors s).store.changed = false := by
  have htake : SettingStore.takeNotice s = (s.changed, { s with changed := false }) := rfl
  have hnew : Controller.new exchange axes sensors s =
      { exchange, axes, sensors, store := { s with changed := false },
        calibration := Calibration.loaded s, status := .idle } := by
    unfold new
    rw [Calibration.ofStore_table]
    dsimp only
    rw [htake]
  rw [hnew]
  exact ⟨Calibration.loaded_agrees s, rfl⟩

/-- Other stimuli leave the calibration alone. -/
theorem react_calibration {stimulus : Stimulus δ α π σ} [SettingStore σ] (h : stimulus ≠ .poll)
    (c : Controller δ α π σ) : (c.react stimulus).calibration = c.calibration := by
  cases stimulus with
  | poll => exact absurd rfl h
  | event event => cases event <;> rfl
  | recovery now => rfl
  | outside line x y sensors store => rfl

/-- A controller that was `first` and has run since, while its table was written to from
outside. The flag tells whether a write has changed the table since the last iteration
looked at it; that iteration's own command may be one. No calibration has met a full
table. -/
inductive Tended (first : Controller δ α π SettingTable) :
    Bool → Controller δ α π SettingTable → Prop where
  | begun : Tended first false first
  | poll {due : Bool} {c : Controller δ α π SettingTable} (before : Tended first due c)
      (room : c.poll.1.record.storeFailure ≠ some .full) :
      Tended first (decide (c.poll.2.store.entries ≠ c.store.entries)) c.poll.2
  | write {due : Bool} {c : Controller δ α π SettingTable} (before : Tended first due c)
      (key : UInt8) (value : Setting) :
      Tended first (due || c.store.changedBy key value)
        { c with store := (c.store.write key value).2 }
  /-- Anything but an iteration, the table apart. -/
  | react {due : Bool} {c : Controller δ α π SettingTable} (before : Tended first due c)
      {stimulus : Stimulus δ α π SettingTable} (unpolled : stimulus ≠ .poll)
      (kept : (c.react stimulus).store = c.store) : Tended first due (c.react stimulus)

/-- **Every run.** -/
theorem Tended.upToDate {first c : Controller δ α π SettingTable} {due : Bool}
    (h : Tended first due c) (hfirst : first.UpToDate) (quiet : first.store.changed = false) :
    c.store.changed = due ∧ (c.store.changed = false → c.UpToDate) := by
  induction h with
  | begun => exact ⟨quiet, fun _ => hfirst⟩
  | poll before room ih =>
      obtain ⟨-, hupToDate, hnotice⟩ := poll_upToDate ih.2 room
      exact ⟨hnotice, fun _ => hupToDate⟩
  | @write due c before key value ih =>
      obtain ⟨hdue, hupToDate⟩ := ih
      dsimp only
      cases hchanged : c.store.changedBy key value with
      | true =>
          obtain ⟨hnotice, -⟩ := SettingTable.write_changed hchanged
          rw [hnotice]
          exact ⟨by simp, nofun⟩
      | false =>
          have hkept : (c.store.write key value).2 = c.store := by
            rcases SettingTable.write_unchanged hchanged with ⟨-, hwrite⟩ | hwrite
            · rw [hwrite]
            · rw [hwrite]
          rw [hkept, Bool.or_false]
          exact ⟨hdue, hupToDate⟩
  | react before unpolled kept ih =>
      unfold UpToDate
      rw [kept, react_calibration unpolled]
      exact ih

/-- **The calibration follows its table.** Whatever a controller over a table in memory
has been told, and whatever has been written to the table from outside, as long as no
calibration met a full table: after every iteration the calibration equals what the
table has, and the iteration reports a reload exactly if a write, by command or from
outside, has changed the table since the one before. -/
theorem calibration_follows_store {exchange : Exchange δ} {axes : Axes α} {sensors : π}
    {store : SettingTable} {due : Bool} {c : Controller δ α π SettingTable}
    (h : Tended (.new exchange axes sensors store) due c)
    (room : c.poll.1.record.storeFailure ≠ some .full) :
    (∃ calibration, (Calibration.ofStore c.poll.2.store).1 = .ok calibration ∧
        c.poll.2.calibration.Agrees calibration) ∧
      c.poll.1.record.reloaded = due := by
  obtain ⟨hfirst, hquiet⟩ := new_upToDate exchange axes sensors store
  obtain ⟨hdue, hupToDate⟩ := h.upToDate hfirst hquiet
  obtain ⟨hreloaded, hafter, -⟩ := poll_upToDate hupToDate room
  refine ⟨⟨Calibration.loaded c.poll.2.store, ?_, hafter⟩, hreloaded.trans hdue⟩
  rw [Calibration.ofStore_table]

end Runs

end Controller

/-! ## A table on the bench -/

/-- A controller whose host sets an acceleration and then a coefficient, over a table
that has the coefficient as the other zero. -/
def tuning : Controller Script Recorder BenchSensors SettingTable :=
  .new (.new (.carrying [.calibrate (.axis .x .acceleration) 25.5,
      .calibrate (.thermistor 0 .a) ⟨0x80000000⟩]))
    (.new (.new ⟨false, false⟩) (.new ⟨false, false⟩)) ⟨[], []⟩ ⟨2, [(0x20, .number 0)], false⟩

/-- Its first command has been obeyed, and something else has asked for a velocity that
there is no room for. -/
def tuned : Controller Script Recorder BenchSensors SettingTable :=
  { tuning.poll.2 with store := (tuning.poll.2.store.write 0x11 (.number 70)).2 }

theorem tuned_reloads :
    tuned.poll.1.record.reloaded = true ∧ tuned.poll.2.calibration.x.acceleration = 25 ∧
      ∃ calibration, (Calibration.ofStore tuned.poll.2.store).1 = .ok calibration ∧
        tuned.poll.2.calibration.Agrees calibration := by
  have hfirst : tuning.poll.1.record.storeFailure ≠ some .full := by decide +kernel
  have hsecond : tuned.poll.1.record.storeFailure ≠ some .full := by decide +kernel
  have hdue : (decide (tuning.poll.2.store.entries ≠ tuning.store.entries) ||
      tuning.poll.2.store.changedBy 0x11 (.number 70)) = true := by decide +kernel
  have htended : Controller.Tended tuning _ tuned :=
    .write (.poll .begun hfirst) 0x11 (.number 70)
  obtain ⟨hagrees, hreloaded⟩ := Controller.calibration_follows_store htended hsecond
  exact ⟨hreloaded.trans hdue, by decide +kernel, hagrees⟩

end XYStage
