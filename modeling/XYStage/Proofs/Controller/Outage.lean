/-
# XYStage.Proofs.Controller.Outage -- changes noticed while the storage is out

Reads of a table can fail while the storage underneath is out for some of its names
(`FlakyTable`). An iteration takes the notice of a change before it loads the table, so a
load that fails has used it up: the change is made up for only if another one is noticed
later. `Weathered` is the run of a controller over such a table; its flag tells whether
the calibration may have gone astray, because the last load failed or because a command's
value met a full table since. The invariant of every run is that the calibration is the
one of the table unless there is notice of a change or the flag is set.

Main statement: `Controller.changes_followed_unless_missed`.
-/
import XYStage.Proofs.Controller.Settings

namespace XYStage

set_option autoImplicit false

/-! ## A table behind storage that can be out -/

/-- A table, and the names whose reads fail. -/
structure FlakyTable where
  memory : SettingTable
  outage : UInt8 → Bool

namespace FlakyTable

instance : SettingStore FlakyTable where
  read key s := (if s.outage key then .error .failed else s.memory.read key, s)
  write key value s :=
    let (result, memory) := s.memory.write key value
    (result, { s with memory })
  takeNotice s := (s.memory.changed, { s with memory := { s.memory with changed := false } })

/-- Whether every value of a calibration can be read. -/
def readable (s : FlakyTable) : Bool :=
  ParameterKey.all.all fun key => !s.outage key.toByte

theorem read_eq (key : UInt8) (s : FlakyTable) : SettingStore.read key s =
    (if s.outage key then .error .failed else s.memory.read key, s) := rfl

/-- The values are taken up to the first name that cannot be read. -/
theorem overlay_eq (keys : List ParameterKey) (c : Calibration) (s : FlakyTable) :
    Calibration.overlay keys c s =
      (if keys.all fun key => !s.outage key.toByte then
        .ok (keys.foldl (Calibration.taking s.memory) c) else .error .failed, s) := by
  induction keys generalizing c with
  | nil => rfl
  | cons key rest ih =>
      unfold Calibration.overlay
      rw [read_eq, List.all_cons, List.foldl_cons, Calibration.taking]
      cases s.outage key.toByte with
      | true => rfl
      | false =>
          unfold SettingTable.read
          cases s.memory.get? key.toByte with
          | some value => exact ih _
          | none => exact ih c

/-- A load succeeds exactly if every value can be read. -/
theorem ofStore_eq (s : FlakyTable) : Calibration.ofStore s =
    (if s.readable then .ok (Calibration.loaded s.memory) else .error .failed, s) :=
  overlay_eq ParameterKey.all .default s

end FlakyTable

namespace Controller

variable {δ ε α π : Type}

/-! ## The table in one iteration -/

/-- The controller with the table in the place of the storage. -/
def overMemory (c : Controller δ α π FlakyTable) : Controller δ α π SettingTable where
  exchange := c.exchange
  axes := c.axes
  sensors := c.sensors
  store := c.store.memory
  calibration := c.calibration
  status := c.status

/-- Writes do not depend on what can be read. -/
theorem calibrate_overMemory (key : ParameterKey) (value : Single) (record : PollRecord)
    (c : Controller δ α π FlakyTable) :
    (c.calibrate key value record).2.2.overMemory =
        (c.overMemory.calibrate key value record).2.2 ∧
      (c.calibrate key value record).2.1 = (c.overMemory.calibrate key value record).2.1 ∧
      (c.calibrate key value record).2.2.store.outage = c.store.outage := by
  cases hassign : c.calibration.assign key (key.setting value) with
  | error error =>
      rw [calibrate_refused hassign, calibrate_refused (c := c.overMemory) hassign]
      exact ⟨rfl, rfl, rfl⟩
  | ok calibration =>
      unfold ParameterKey.setting at hassign
      have hsame : c.overMemory.calibration = c.calibration := rfl
      unfold calibrate
      dsimp only
      rw [hsame, hassign]
      dsimp only
      generalize (if key.holdsFlag then Setting.flag (!value.equals 0) else .number value) = setting
      have hflaky : SettingStore.write key.toByte setting c.store =
          ((c.store.memory.write key.toByte setting).1,
            { c.store with memory := (c.store.memory.write key.toByte setting).2 }) := rfl
      have htable : SettingStore.write key.toByte setting c.overMemory.store =
          c.store.memory.write key.toByte setting := rfl
      rw [hflaky, htable]
      cases c.store.memory.write key.toByte setting with
      | mk result memory =>
          cases result with
          | ok _ => exact ⟨rfl, rfl, rfl⟩
          | error error => exact ⟨rfl, rfl, rfl⟩

/-- Reloading takes the notice of the table, and loads it if there is one and every value
can be read. -/
theorem reload_flaky (c : Controller δ α π FlakyTable) :
    c.reload = (c.store.memory.changed && c.store.readable, { c with
      store := { c.store with memory := { c.store.memory with changed := false } }
      calibration := if c.store.memory.changed && c.store.readable then
        Calibration.loaded c.store.memory else c.calibration }) := by
  have htake : SettingStore.takeNotice c.store = (c.store.memory.changed,
      { c.store with memory := { c.store.memory with changed := false } }) := rfl
  have hload : Calibration.ofStore
      { c.store with memory := { c.store.memory with changed := false } } =
        (if c.store.readable then .ok (Calibration.loaded c.store.memory) else .error .failed,
          { c.store with memory := { c.store.memory with changed := false } }) :=
    FlakyTable.ofStore_eq _
  unfold reload
  rw [htake]
  dsimp only
  rw [hload]
  cases c.store.memory.changed with
  | false => rfl
  | true =>
      cases c.store.readable with
      | true => rfl
      | false => rfl

section Runs

variable [AxisHardware α] [SerialLine δ ε] [TemperatureSource π]

/-- Listening keeps the calibration up to date, as long as the table has room. -/
theorem listen_overMemory {c : Controller δ α π FlakyTable} (h : c.overMemory.UpToDate)
    (quiet : c.store.memory.changed = false) (record : PollRecord)
    (room : (c.listen record).1.record.storeFailure ≠ some .full) :
    (c.listen record).2.overMemory.UpToDate := by
  obtain ⟨-, ⟨hstore, hcalibration⟩ | ⟨exchange, key, value, hstore, hcalibration, hfailure⟩⟩ :=
    c.listen_settings record
  · unfold UpToDate overMemory
    rw [hstore, hcalibration]
    exact h
  · obtain ⟨hafter, hrecord, -⟩ := calibrate_overMemory key value record { c with exchange }
    rw [hfailure, hrecord] at room
    obtain ⟨hupToDate, -⟩ :=
      calibrate_upToDate (c := overMemory { c with exchange }) h quiet key value record room
    rw [← hafter] at hupToDate
    unfold UpToDate overMemory at hupToDate ⊢
    rw [hstore, hcalibration]
    exact hupToDate

/-- Listening leaves what can be read as it is. -/
theorem listen_outage (record : PollRecord) (c : Controller δ α π FlakyTable) :
    (c.listen record).2.store.outage = c.store.outage := by
  obtain ⟨-, ⟨hstore, -⟩ | ⟨exchange, key, value, hstore, -, -⟩⟩ := c.listen_settings record
  · rw [hstore]
  · rw [hstore]
    exact (calibrate_overMemory key value record { c with exchange }).2.2

omit [TemperatureSource π] in
theorem settled_flaky (c : Controller δ α π FlakyTable) :
    c.settled.store = { c.store with memory := { c.store.memory with changed := false } } ∧
      c.settled.calibration = if c.store.memory.changed && c.store.readable then
        Calibration.loaded c.store.memory else c.calibration := by
  obtain ⟨hstore, hcalibration⟩ := c.reload.2.progress_settings
  rw [settled, hstore, hcalibration, reload_flaky]
  exact ⟨rfl, rfl⟩

/-- **One iteration.** It reloads if there is notice of a change and every value can be
read, and the calibration is up to date afterwards if it was so before or is reloaded. -/
theorem poll_flaky (c : Controller δ α π FlakyTable) :
    c.poll.1.record.reloaded = (c.store.memory.changed && c.store.readable) ∧
      c.poll.2.store.outage = c.store.outage ∧
      ((c.store.memory.changed = true → c.store.readable = true) →
        (c.store.memory.changed = false → c.overMemory.UpToDate) →
        c.poll.1.record.storeFailure ≠ some .full → c.poll.2.overMemory.UpToDate) := by
  obtain ⟨hstore, hcalibration⟩ := c.settled_flaky
  have hreloaded : c.reload.1 = (c.store.memory.changed && c.store.readable) := by
    rw [reload_flaky]
  rw [poll_eq]
  obtain ⟨hkept, -⟩ := c.settled.listen_settings
    { PollRecord.nothing with reloaded := c.reload.1, rested := c.reload.2.progress.1 }
  refine ⟨hkept.trans hreloaded, ?_, fun readable upToDate room => ?_⟩
  · rw [listen_outage, hstore]
  · have hsettled : c.settled.overMemory.UpToDate := by
      unfold UpToDate overMemory
      rw [hstore, hcalibration]
      cases hchanged : c.store.memory.changed with
      | true =>
          rw [readable hchanged]
          exact Calibration.loaded_agrees c.store.memory
      | false => exact upToDate hchanged
    have hquiet : c.settled.store.memory.changed = false := by rw [hstore]
    exact listen_overMemory hsettled hquiet _ room

omit [AxisHardware α] [SerialLine δ ε] [TemperatureSource π] in
theorem new_flaky (exchange : Exchange δ) (axes : Axes α) (sensors : π) (s : FlakyTable) :
    (Controller.new exchange axes sensors s).store.outage = s.outage ∧
      (Controller.new exchange axes sensors s).store.memory.changed = false ∧
      (s.readable = true → (Controller.new exchange axes sensors s).overMemory.UpToDate) := by
  have htake : SettingStore.takeNotice s =
      (s.memory.changed, { s with memory := { s.memory with changed := false } }) := rfl
  have hnew : Controller.new exchange axes sensors s =
      { exchange, axes, sensors, store := { s with memory := { s.memory with changed := false } },
        calibration := if s.readable then Calibration.loaded s.memory else .default,
        status := .idle } := by
    unfold new
    rw [FlakyTable.ofStore_eq]
    dsimp only
    rw [htake]
    cases s.readable with
    | true => rfl
    | false => rfl
  rw [hnew]
  refine ⟨rfl, rfl, fun hreadable => ?_⟩
  unfold UpToDate overMemory
  rw [hreadable]
  exact Calibration.loaded_agrees s.memory

/-! ## Every run -/

/-- A controller that was `first` and has run since, while its table was written to from
outside and its storage came and went. The flag tells whether the calibration may have
gone astray: the last load that was attempted failed, or a command's value met a full
table since. -/
inductive Weathered (first : Controller δ α π FlakyTable) :
    Bool → Controller δ α π FlakyTable → Prop where
  | begun : Weathered first (!first.store.readable) first
  | poll {astray : Bool} {c : Controller δ α π FlakyTable} (before : Weathered first astray c) :
      Weathered first
        ((if c.store.memory.changed then !c.store.readable else astray) ||
          decide (c.poll.1.record.storeFailure = some .full)) c.poll.2
  | write {astray : Bool} {c : Controller δ α π FlakyTable} (before : Weathered first astray c)
      (key : UInt8) (value : Setting) :
      Weathered first astray { c with store := (SettingStore.write key value c.store).2 }
  /-- Other names can be read than before. -/
  | drift {astray : Bool} {c : Controller δ α π FlakyTable} (before : Weathered first astray c)
      (outage : UInt8 → Bool) :
      Weathered first astray { c with store := { c.store with outage } }
  /-- Anything but an iteration, the table apart. -/
  | react {astray : Bool} {c : Controller δ α π FlakyTable} (before : Weathered first astray c)
      {stimulus : Stimulus δ α π FlakyTable} (unpolled : stimulus ≠ .poll)
      (kept : (c.react stimulus).store = c.store) : Weathered first astray (c.react stimulus)

theorem Weathered.upToDate {first c : Controller δ α π FlakyTable} {astray : Bool}
    (h : Weathered first astray c)
    (hfirst : first.store.readable = true → first.overMemory.UpToDate) (sound : astray = false)
    (quiet : c.store.memory.changed = false) : c.overMemory.UpToDate := by
  induction h with
  | begun => exact hfirst (by simpa using sound)
  | @poll astray c before ih =>
      obtain ⟨hmissed, hroom⟩ := Bool.or_eq_false_iff.mp sound
      refine c.poll_flaky.2.2 (fun hchanged => ?_) (fun hchanged => ?_) (of_decide_eq_false hroom)
      · rw [hchanged] at hmissed
        simpa using hmissed
      · rw [hchanged] at hmissed
        exact ih hmissed hchanged
  | @write astray c before key value ih =>
      have hwrite : (SettingStore.write key value c.store).2.memory =
          (c.store.memory.write key value).2 := rfl
      dsimp only at quiet
      rw [hwrite] at quiet
      cases hchanged : c.store.memory.changedBy key value with
      | true =>
          obtain ⟨hnotice, -⟩ := SettingTable.write_changed hchanged
          exact absurd (hnotice.symm.trans quiet) (by decide)
      | false =>
          have hkept : (c.store.memory.write key value).2 = c.store.memory := by
            rcases SettingTable.write_unchanged hchanged with ⟨-, hsame⟩ | hsame
            · rw [hsame]
            · rw [hsame]
          rw [hkept] at quiet
          unfold UpToDate overMemory
          dsimp only
          rw [hwrite, hkept]
          exact ih sound quiet
  | drift before outage ih => exact ih sound quiet
  | react before unpolled kept ih =>
      rw [kept] at quiet
      unfold UpToDate overMemory
      rw [kept, react_calibration unpolled]
      exact ih sound quiet

/-- **Changes are followed unless they are missed.** An iteration of a controller whose
storage comes and goes reloads exactly if there is notice of a change and every value can
be read. The notice is gone either way, and without a reload the calibration stays as it
is. If every value can be read, then afterwards the calibration equals what the table
has, provided that there was notice of a change or that nothing had led the calibration
astray: no load that failed without a later one, and no value that met a full table. -/
theorem changes_followed_unless_missed {exchange : Exchange δ} {axes : Axes α} {sensors : π}
    {store : FlakyTable} {astray : Bool} {c : Controller δ α π FlakyTable}
    (h : Weathered (.new exchange axes sensors store) astray c) :
    c.poll.1.record.reloaded = (c.store.memory.changed && c.store.readable) ∧
      c.reload.2.store.memory = { c.store.memory with changed := false } ∧
      (c.poll.1.record.reloaded = false → c.reload.2.calibration = c.calibration) ∧
      (c.store.readable = true → c.store.memory.changed = true ∨ astray = false →
        c.poll.1.record.storeFailure ≠ some .full →
        ∃ calibration, (Calibration.ofStore c.poll.2.store).1 = .ok calibration ∧
          c.poll.2.calibration.Agrees calibration) := by
  obtain ⟨houtage, -, hfirst⟩ := new_flaky exchange axes sensors store
  have hreadable : (Controller.new exchange axes sensors store).store.readable = store.readable := by
    unfold FlakyTable.readable
    rw [houtage]
  obtain ⟨hreloaded, hkept, hupToDate⟩ := c.poll_flaky
  refine ⟨hreloaded, by rw [reload_flaky], fun hnone => ?_, fun hread hfollowed room => ?_⟩
  · rw [hreloaded] at hnone
    rw [reload_flaky, hnone]
    rfl
  · have hbefore (hquiet : c.store.memory.changed = false) : c.overMemory.UpToDate :=
      h.upToDate (hreadable ▸ hfirst) (hfollowed.resolve_left (by simp [hquiet])) hquiet
    have hafter := hupToDate (fun _ => hread) hbefore room
    have hlater : c.poll.2.store.readable = true := by
      unfold FlakyTable.readable at hread ⊢
      rw [hkept]
      exact hread
    refine ⟨Calibration.loaded c.poll.2.store.memory, ?_, hafter⟩
    rw [FlakyTable.ofStore_eq, hlater]
    rfl

end Runs

end Controller

/-! ## A missed change -/

namespace Controller

/-- A controller with a silent host, over a table with nothing in it. -/
def unattended : Controller Script Recorder BenchSensors FlakyTable :=
  .new (.new (.carrying [])) (.new (.new ⟨false, false⟩) (.new ⟨false, false⟩)) ⟨[], []⟩
    ⟨.empty 2, fun _ => false⟩

/-- An acceleration has been written, and another name cannot be read. -/
def interrupted : Controller Script Recorder BenchSensors FlakyTable :=
  let written := { unattended with
    store := (SettingStore.write 0x10 (.number 25) unattended.store).2 }
  { written with store := { written.store with outage := fun name => name = 0x20 } }

/-- One iteration later every value can be read again. -/
def missing : Controller Script Recorder BenchSensors FlakyTable :=
  { interrupted.poll.2 with
    store := { interrupted.poll.2.store with outage := fun _ => false } }

/-- The next change brings the one that was missed with it. -/
theorem missed_change_made_up :
    let c := { missing with store := (SettingStore.write 0x11 (.number 70) missing.store).2 }
    c.poll.1.record.reloaded = true ∧
      (∃ calibration, (Calibration.ofStore c.poll.2.store).1 = .ok calibration ∧
        c.poll.2.calibration.Agrees calibration) ∧
      c.poll.2.calibration.x = ⟨25, 70, 200⟩ := by
  intro c
  have hrun : Weathered unattended _ c :=
    .write (.drift (.poll (.drift (.write .begun 0x10 (.number 25)) _)) _) 0x11 (.number 70)
  obtain ⟨hreloaded, -, -, hfollowed⟩ := changes_followed_unless_missed hrun
  refine ⟨hreloaded.trans (by decide +kernel), ?_, by decide +kernel⟩
  exact hfollowed (by decide +kernel) (.inl (by decide +kernel)) (by decide +kernel)

/-- Without another change the missed one is not made up for, although every value can be
read again. -/
theorem missed_change_forgotten :
    interrupted.store.memory.changed = true ∧ interrupted.store.readable = false ∧
      missing.store.readable = true ∧ missing.poll.1.record.reloaded = false ∧
      missing.poll.2.calibration.x.acceleration = 10 ∧
      ∃ calibration, (Calibration.ofStore missing.poll.2.store).1 = .ok calibration ∧
        calibration.x.acceleration = 25 ∧ ¬ missing.poll.2.calibration.Agrees calibration := by
  have hstale : missing.poll.2.calibration.x.acceleration = 10 := by decide +kernel
  refine ⟨by decide +kernel, by decide +kernel, by decide +kernel, by decide +kernel, hstale,
    Calibration.loaded missing.poll.2.store.memory, ?_, by decide +kernel, fun hagrees => ?_⟩
  · have hread : missing.poll.2.store.readable = true := by decide +kernel
    rw [FlakyTable.ofStore_eq, hread]
    rfl
  · have hsame : missing.poll.2.calibration.x.acceleration =
        (Calibration.loaded missing.poll.2.store.memory).x.acceleration :=
      congrArg AxisRates.acceleration hagrees.x
    rw [hstale] at hsame
    revert hsame
    decide +kernel

end Controller

end XYStage
