/-
# XYStage.Proofs.Calibration.Loading -- a calibration as its table has it

Loading overlays the defaults with the values of a table, key by key. Values under
different keys do not get in each other's way and a value that is taken leaves nothing
of the one before, so a write to the table is, for what is loaded afterwards, the same
as taking the value directly (`Calibration.loaded_of_write`).

Calibrations are compared as their values are: counts and flags must be the same,
coefficients equal as numbers (`Calibration.Agrees`).
-/
import Mathlib.Data.List.Basic
import XYStage.Calibration.Basic
import XYStage.Proofs.Ieee.Comparison

namespace XYStage

set_option autoImplicit false

/-! ## Writes to a table -/

namespace SettingTable

/-- Whether a write changes what is stored. -/
def changedBy (key : UInt8) (value : Setting) (s : SettingTable) : Bool :=
  match s.get? key with
  | some stored => !stored.agrees value
  | none => decide (s.size < s.capacity)

theorem find?_replaced (entries : List (UInt8 × Setting)) (key name : UInt8) (value : Setting) :
    ((entries.map fun entry => if entry.1 = key then (key, value) else entry).find?
        (·.1 = name)).map (·.2) =
      if name = key then (entries.find? (·.1 = key)).map fun _ => value
      else (entries.find? (·.1 = name)).map (·.2) := by
  induction entries with
  | nil => simp
  | cons entry rest ih =>
      simp only [List.map_cons, List.find?_cons]
      by_cases hentry : entry.1 = key
      · by_cases hname : name = key
        · simp [hentry, hname]
        · have hother : ¬key = name := Ne.symm hname
          simpa [hentry, hname, hother] using ih
      · by_cases hname : name = key
        · subst hname
          simpa [hentry] using ih
        · by_cases hfound : entry.1 = name
          · simp [hname, hfound]
          · simpa [hentry, hname, hfound] using ih

theorem get?_replace {key : UInt8} {stored : Setting} {s : SettingTable}
    (h : s.get? key = some stored) (value : Setting) (name : UInt8) :
    (s.replace key value).get? name = if name = key then some value else s.get? name := by
  refine (find?_replaced s.entries key name value).trans ?_
  obtain ⟨entry, hentry, -⟩ := Option.map_eq_some_iff.mp h
  rw [hentry]
  rfl

theorem get?_append {key : UInt8} {s : SettingTable} (h : s.get? key = none) (value : Setting)
    (name : UInt8) :
    ({ s with entries := s.entries ++ [(key, value)], changed := true } : SettingTable).get? name =
      if name = key then some value else s.get? name := by
  have habsent : s.entries.find? (·.1 = key) = none := Option.map_eq_none_iff.mp h
  unfold get?
  by_cases hname : name = key
  · subst hname
    simp [List.find?_append, habsent]
  · simp [List.find?_append, hname, Ne.symm hname]

theorem write_present {key : UInt8} {stored : Setting} {s : SettingTable}
    (h : s.get? key = some stored) (value : Setting) :
    s.write key value = (.ok (), if stored.agrees value then s else s.replace key value) := by
  unfold write
  rw [h]

theorem write_absent {key : UInt8} {s : SettingTable} (h : s.get? key = none)
    (value : Setting) :
    s.write key value =
      if s.size < s.capacity then
        (.ok (), { s with entries := s.entries ++ [(key, value)], changed := true })
      else (.error .full, s) := by
  unfold write
  rw [h]

/-- A write that changes something gives notice, and later reads find the value. -/
theorem write_changed {key : UInt8} {value : Setting} {s : SettingTable}
    (h : s.changedBy key value = true) :
    (s.write key value).2.changed = true ∧
      ∀ name, (s.write key value).2.get? name = if name = key then some value else s.get? name := by
  unfold changedBy at h
  cases hstored : s.get? key with
  | some stored =>
      rw [hstored, Bool.not_eq_true'] at h
      rw [write_present hstored, h]
      exact ⟨rfl, get?_replace hstored value⟩
  | none =>
      rw [hstored] at h
      rw [write_absent hstored, if_pos (of_decide_eq_true h)]
      exact ⟨rfl, get?_append hstored value⟩

/-- Any other write leaves the table as it was: the value is there already, or there is
no room for its name. -/
theorem write_unchanged {key : UInt8} {value : Setting} {s : SettingTable}
    (h : s.changedBy key value = false) :
    (∃ stored, s.get? key = some stored ∧ stored.agrees value = true) ∧
        s.write key value = (.ok (), s) ∨
      s.write key value = (.error .full, s) := by
  unfold changedBy at h
  cases hstored : s.get? key with
  | some stored =>
      rw [hstored, Bool.not_eq_false'] at h
      left
      constructor
      · exact ⟨stored, rfl, h⟩
      · rw [write_present hstored, if_pos h]
  | none =>
      rw [hstored] at h
      right
      rw [write_absent hstored, if_neg (of_decide_eq_false h)]

end SettingTable

/-! ## One value -/

namespace AxisRates

/-- Take a value for one parameter, unless it is refused. -/
def keep (param : AxisParameter) (value : Setting) (c : AxisRates) : AxisRates :=
  match countRate value.toSingle with
  | .ok count => c.set param count
  | .error _ => c

theorem keep_comm {param other : AxisParameter} (h : param ≠ other) (value later : Setting)
    (c : AxisRates) :
    (c.keep param value).keep other later = (c.keep other later).keep param value := by
  unfold keep
  cases countRate value.toSingle <;> cases countRate later.toSingle <;>
    cases param <;> cases other <;> first | rfl | exact absurd rfl h

theorem keep_keep {later : Setting} {count : UInt32} (h : countRate later.toSingle = .ok count)
    (param : AxisParameter) (value : Setting) (c : AxisRates) :
    (c.keep param value).keep param later = c.keep param later := by
  unfold keep
  rw [h]
  cases countRate value.toSingle <;> cases param <;> rfl

end AxisRates

namespace Thermistor

/-- Take a value for one parameter, unless it is refused. -/
def keep (param : ThermistorParameter) (value : Setting) (t : Thermistor) : Thermistor :=
  match t.assign param value with
  | .ok t => t
  | .error _ => t

theorem keep_comm {param other : ThermistorParameter} (h : param ≠ other)
    (value later : Setting) (t : Thermistor) :
    (t.keep param value).keep other later = (t.keep other later).keep param value := by
  cases hvalue : value.toSingle.isFinite <;> cases hlater : later.toSingle.isFinite <;>
    cases param <;> cases other <;>
    first | exact absurd rfl h | simp [keep, assign, hvalue, hlater]

/-- The value would be taken for this parameter. -/
def Takes (param : ThermistorParameter) (value : Setting) : Prop :=
  param = .enabled ∨ value.toSingle.isFinite = true

theorem keep_keep {param : ThermistorParameter} {later : Setting} (h : Takes param later)
    (value : Setting) (t : Thermistor) :
    (t.keep param value).keep param later = t.keep param later := by
  rcases h with rfl | hfinite
  · rfl
  · cases hvalue : value.toSingle.isFinite <;> cases param <;>
      simp [keep, assign, hvalue, hfinite]

end Thermistor

/-! ## Values under different keys -/

/-- The value would be taken under this key, whatever the calibration is. -/
def ParameterKey.Takes (value : Setting) : ParameterKey → Prop
  | .axis _ _ => ∃ count, countRate value.toSingle = .ok count
  | .thermistor sensor param => sensor.toNat < channelCount ∧ Thermistor.Takes param value

namespace Calibration

def mapAxis (id : AxisId) (f : AxisRates → AxisRates) (c : Calibration) : Calibration :=
  c.setAxis id (f (c.axis id))

def mapThermistor (sensor : UInt8) (f : Thermistor → Thermistor) (c : Calibration) :
    Calibration :=
  if h : sensor.toNat < channelCount then
    { c with thermistors := c.thermistors.set sensor.toNat (f c.thermistors[sensor.toNat]) h }
  else c

theorem mapAxis_mapAxis (id : AxisId) (f g : AxisRates → AxisRates) (c : Calibration) :
    (c.mapAxis id f).mapAxis id g = c.mapAxis id fun rates => g (f rates) := by
  cases id <;> rfl

theorem mapAxis_comm {id other : AxisId} (h : id ≠ other) (f g : AxisRates → AxisRates)
    (c : Calibration) : (c.mapAxis id f).mapAxis other g = (c.mapAxis other g).mapAxis id f := by
  cases id <;> cases other <;> first | rfl | exact absurd rfl h

theorem mapThermistor_mapThermistor (sensor : UInt8) (f g : Thermistor → Thermistor)
    (c : Calibration) : (c.mapThermistor sensor f).mapThermistor sensor g =
      c.mapThermistor sensor fun t => g (f t) := by
  unfold mapThermistor
  by_cases h : sensor.toNat < channelCount
  · simp [h]
  · simp [h]

theorem mapThermistor_comm {sensor other : UInt8} (h : sensor ≠ other)
    (f g : Thermistor → Thermistor) (c : Calibration) :
    (c.mapThermistor sensor f).mapThermistor other g =
      (c.mapThermistor other g).mapThermistor sensor f := by
  have hplace : sensor.toNat ≠ other.toNat := fun hsame => h (UInt8.toNat_inj.mp hsame)
  unfold mapThermistor
  by_cases hsensor : sensor.toNat < channelCount
  · by_cases hother : other.toNat < channelCount
    · simp only [hsensor, hother, dif_pos, Vector.getElem_set_ne _ _ hplace,
        Vector.getElem_set_ne _ _ hplace.symm]
      rw [Vector.set_comm _ _ hplace]
    · simp [hsensor, hother]
  · simp [hsensor]

theorem mapAxis_mapThermistor (id : AxisId) (sensor : UInt8) (f : AxisRates → AxisRates)
    (g : Thermistor → Thermistor) (c : Calibration) :
    (c.mapAxis id f).mapThermistor sensor g = (c.mapThermistor sensor g).mapAxis id f := by
  unfold mapThermistor
  by_cases h : sensor.toNat < channelCount
  · cases id <;> simp [h, mapAxis, setAxis, axis]
  · simp [h]

theorem assignOrKeep_axis (id : AxisId) (param : AxisParameter) (value : Setting)
    (c : Calibration) :
    c.assignOrKeep (.axis id param) value = c.mapAxis id (AxisRates.keep param value) := by
  unfold assignOrKeep assign mapAxis AxisRates.keep
  cases countRate value.toSingle with
  | ok count => rfl
  | error e => cases id <;> rfl

theorem assignOrKeep_thermistor (sensor : UInt8) (param : ThermistorParameter) (value : Setting)
    (c : Calibration) : c.assignOrKeep (.thermistor sensor param) value =
      c.mapThermistor sensor (Thermistor.keep param value) := by
  unfold assignOrKeep assign mapThermistor Thermistor.keep
  by_cases h : sensor.toNat < channelCount
  · cases hassign : c.thermistors[sensor.toNat].assign param value with
    | ok t => simp [h, hassign]
    | error e => simp [h, hassign]
  · simp [h]

/-- Values under different keys are taken in any order. -/
theorem assignOrKeep_comm {key other : ParameterKey} (h : key ≠ other) (value later : Setting)
    (c : Calibration) : (c.assignOrKeep key value).assignOrKeep other later =
      (c.assignOrKeep other later).assignOrKeep key value := by
  cases key with
  | axis id param =>
      cases other with
      | axis otherId otherParam =>
          simp only [assignOrKeep_axis]
          by_cases hid : id = otherId
          · subst hid
            have hparam : param ≠ otherParam := fun hsame => h (by rw [hsame])
            simp only [mapAxis_mapAxis, AxisRates.keep_comm hparam]
          · exact mapAxis_comm hid _ _ c
      | thermistor sensor otherParam =>
          simp only [assignOrKeep_axis, assignOrKeep_thermistor]
          exact mapAxis_mapThermistor id sensor _ _ c
  | thermistor sensor param =>
      cases other with
      | axis id otherParam =>
          simp only [assignOrKeep_axis, assignOrKeep_thermistor]
          exact (mapAxis_mapThermistor id sensor _ _ c).symm
      | thermistor otherSensor otherParam =>
          simp only [assignOrKeep_thermistor]
          by_cases hsensor : sensor = otherSensor
          · subst hsensor
            have hparam : param ≠ otherParam := fun hsame => h (by rw [hsame])
            simp only [mapThermistor_mapThermistor, Thermistor.keep_comm hparam]
          · exact mapThermistor_comm hsensor _ _ c

/-- A value that is taken leaves nothing of the one before. -/
theorem assignOrKeep_assignOrKeep {key : ParameterKey} {later : Setting} (h : key.Takes later)
    (value : Setting) (c : Calibration) :
    (c.assignOrKeep key value).assignOrKeep key later = c.assignOrKeep key later := by
  cases key with
  | axis id param =>
      obtain ⟨count, hcount⟩ := h
      simp only [assignOrKeep_axis, mapAxis_mapAxis, AxisRates.keep_keep hcount]
  | thermistor sensor param =>
      simp only [assignOrKeep_thermistor, mapThermistor_mapThermistor, Thermistor.keep_keep h.2]

/-- A value is taken exactly if the key takes it. -/
theorem assign_eq_ok {key : ParameterKey} {value : Setting} {c after : Calibration}
    (h : c.assign key value = .ok after) :
    key.Takes value ∧ c.assignOrKeep key value = after := by
  refine ⟨?_, by rw [assignOrKeep, h]⟩
  cases key with
  | axis id param =>
      unfold assign at h
      cases hcount : countRate value.toSingle with
      | ok count => exact ⟨count, hcount⟩
      | error e => simp [hcount] at h
  | thermistor sensor param =>
      unfold assign at h
      by_cases hsensor : sensor.toNat < channelCount
      · refine ⟨hsensor, ?_⟩
        cases hfinite : value.toSingle.isFinite with
        | true => exact .inr hfinite
        | false => cases param <;> simp_all [Thermistor.assign, Thermistor.Takes]
      · simp [hsensor] at h

end Calibration

/-! ## Loading -/

theorem ParameterKey.toByte_injective :
    ∀ key ∈ all, ∀ other ∈ all, key.toByte = other.toByte → key = other := by
  decide +kernel

theorem ParameterKey.nodup_all : all.Nodup := by
  decide +kernel

/-- A key that takes anything is a key of every calibration. -/
theorem ParameterKey.Takes.mem_all {key : ParameterKey} {value : Setting} (h : key.Takes value) :
    key ∈ all := by
  cases key with
  | axis id param => cases id <;> cases param <;> decide
  | thermistor sensor param =>
      have hsensor : .ofNat sensor.toNat = sensor := UInt8.ofNat_toNat
      have hparam : param ∈ ThermistorParameter.all := by cases param <;> decide
      refine List.mem_append_right _ (List.mem_flatMap.mpr ⟨sensor.toNat, ?_, ?_⟩)
      · exact List.mem_range.mpr h.1
      · rw [hsensor]
        exact List.mem_map_of_mem hparam

namespace Calibration

/-- Take what a table has under a key. -/
def taking (s : SettingTable) (c : Calibration) (key : ParameterKey) : Calibration :=
  match s.get? key.toByte with
  | some value => c.assignOrKeep key value
  | none => c

/-- What is loaded from a table. -/
def loaded (s : SettingTable) : Calibration :=
  ParameterKey.all.foldl (taking s) default

theorem overlay_table (keys : List ParameterKey) (c : Calibration) (s : SettingTable) :
    overlay keys c s = (.ok (keys.foldl (taking s) c), s) := by
  induction keys generalizing c with
  | nil => rfl
  | cons key rest ih =>
      have hread : SettingStore.read key.toByte s = (s.read key.toByte, s) := rfl
      unfold overlay
      rw [hread]
      unfold SettingTable.read
      rw [List.foldl_cons, taking]
      cases s.get? key.toByte with
      | some value => exact ih _
      | none => exact ih c

/-- A table can always be loaded, and stays as it is. -/
theorem ofStore_table (s : SettingTable) : ofStore s = (.ok (loaded s), s) :=
  overlay_table ParameterKey.all default s

theorem foldl_taking_assignOrKeep {key : ParameterKey} {keys : List ParameterKey}
    (h : key ∉ keys) (s : SettingTable) (value : Setting) (c : Calibration) :
    (keys.foldl (taking s) c).assignOrKeep key value =
      keys.foldl (taking s) (c.assignOrKeep key value) := by
  induction keys generalizing c with
  | nil => rfl
  | cons other rest ih =>
      rw [List.mem_cons, not_or] at h
      obtain ⟨hne, hrest⟩ := h
      rw [List.foldl_cons, List.foldl_cons, ih hrest]
      congr 1
      unfold taking
      cases s.get? other.toByte with
      | some stored => exact (assignOrKeep_comm hne value stored c).symm
      | none => rfl

/-- **A write is a value taken.** What is loaded after a write is what was loaded
before, with the value taken. -/
theorem loaded_of_write {s later : SettingTable} {key : ParameterKey} {value : Setting}
    (takes : key.Takes value)
    (written : ∀ name, later.get? name = if name = key.toByte then some value else s.get? name) :
    loaded later = (loaded s).assignOrKeep key value := by
  obtain ⟨before, after, hall⟩ := List.append_of_mem takes.mem_all
  have hnodup := ParameterKey.nodup_all
  rw [hall] at hnodup
  obtain ⟨-, hafter, hdisjoint⟩ := List.nodup_append.mp hnodup
  have hnotBefore : key ∉ before := fun hmem =>
    hdisjoint key hmem key List.mem_cons_self rfl
  have hnotAfter : key ∉ after := (List.nodup_cons.mp hafter).1
  -- Under the other keys both tables have the same.
  have hsame {keys : List ParameterKey} (hkeys : ∀ other ∈ keys, other ∈ ParameterKey.all)
      (hnot : key ∉ keys) (c : Calibration) :
      keys.foldl (taking later) c = keys.foldl (taking s) c := by
    apply List.foldl_ext
    intro c other hother
    have hbyte : other.toByte ≠ key.toByte := by
      intro hbytes
      have heq := ParameterKey.toByte_injective other (hkeys other hother) key takes.mem_all hbytes
      exact hnot (heq ▸ hother)
    unfold taking
    rw [written, if_neg hbyte]
  have hbeforeAll : ∀ other ∈ before, other ∈ ParameterKey.all := by
    intro other hother
    rw [hall]
    exact List.mem_append_left _ hother
  have hafterAll : ∀ other ∈ after, other ∈ ParameterKey.all := by
    intro other hother
    rw [hall]
    exact List.mem_append_right _ (List.mem_cons_of_mem key hother)
  have htaken (c : Calibration) : c.taking later key = c.assignOrKeep key value := by
    unfold taking
    rw [written, if_pos rfl]
  have habsorbed (c : Calibration) :
      (c.taking s key).assignOrKeep key value = c.assignOrKeep key value := by
    unfold taking
    cases s.get? key.toByte with
    | some stored => exact assignOrKeep_assignOrKeep takes stored c
    | none => rfl
  unfold loaded
  rw [hall, List.foldl_append, List.foldl_append, List.foldl_cons, List.foldl_cons,
    hsame hbeforeAll hnotBefore, hsame hafterAll hnotAfter, htaken,
    foldl_taking_assignOrKeep hnotAfter, habsorbed]

end Calibration

/-! ## Equal calibrations -/

/-- Equality of channels, their coefficients compared as numbers. -/
structure Thermistor.Agrees (t other : Thermistor) : Prop where
  a : t.a.equals other.a = true
  b : t.b.equals other.b = true
  c : t.c.equals other.c = true
  enabled : t.enabled = other.enabled

/-- Equality of calibrations, with counts and flags the same and coefficients compared
as numbers. -/
structure Calibration.Agrees (c other : Calibration) : Prop where
  x : c.x = other.x
  y : c.y = other.y
  thermistors : ∀ (place : Nat) (h : place < channelCount),
    c.thermistors[place].Agrees other.thermistors[place]

namespace Setting

theorem agrees_comm (value other : Setting) : value.agrees other = other.agrees value := by
  cases value <;> cases other <;>
    simp [agrees, Single.equals, Bool.and_comm, Bool.beq_comm, eq_comm]

/-- Equal values are equal in either reading. -/
theorem of_agrees {value other : Setting} (h : value.agrees other = true) :
    value.toSingle.equals other.toSingle = true ∧ value.toBool = other.toBool := by
  cases value with
  | number value =>
      cases other with
      | number other =>
          exact ⟨h, Single.congr_of_equals (fun x => !x.equals 0) (by decide +kernel) h⟩
      | flag _ => cases h
  | flag value =>
      cases other with
      | number _ => cases h
      | flag other =>
          have hsame : value = other := by simpa [agrees] using h
          subst hsame
          refine ⟨Single.equals_self ?_, rfl⟩
          cases value <;> decide +kernel

/-- Only a NaN differs from itself. -/
theorem agrees_self {value : Setting} (h : value.toSingle.isFinite = true) :
    value.agrees value = true := by
  cases value with
  | number value => exact Single.equals_self h
  | flag value => exact decide_eq_true rfl

end Setting

theorem AxisRates.keep_congr {value other : Setting} (h : value.agrees other = true)
    (param : AxisParameter) (c : AxisRates) : c.keep param value = c.keep param other := by
  unfold keep
  rw [Single.congr_of_equals countRate (by decide +kernel) (Setting.of_agrees h).1]

namespace Thermistor

theorem keep_of_finite {value : Setting} (h : value.toSingle.isFinite = true) (t : Thermistor) :
    t.keep .a value = { t with a := value.toSingle } ∧
      t.keep .b value = { t with b := value.toSingle } ∧
      t.keep .c value = { t with c := value.toSingle } := by
  simp [keep, assign, h]

theorem keep_of_infinite {value : Setting} (h : value.toSingle.isFinite = false)
    {param : ThermistorParameter} (hne : param ≠ .enabled) (t : Thermistor) :
    t.keep param value = t := by
  cases param with
  | enabled => exact absurd rfl hne
  | a => simp [keep, assign, h]
  | b => simp [keep, assign, h]
  | c => simp [keep, assign, h]

theorem Agrees.keep {t t' : Thermistor} (h : t.Agrees t') {value other : Setting}
    (same : value.agrees other = true) (param : ThermistorParameter) :
    (t.keep param value).Agrees (t'.keep param other) := by
  obtain ⟨hnumber, hflag⟩ := Setting.of_agrees same
  have hfinite : value.toSingle.isFinite = other.toSingle.isFinite :=
    Single.congr_of_equals Single.isFinite (by decide +kernel) hnumber
  by_cases henabled : param = .enabled
  · subst henabled
    exact ⟨h.a, h.b, h.c, hflag⟩
  · cases hvalue : value.toSingle.isFinite with
    | false =>
        rw [keep_of_infinite hvalue henabled, keep_of_infinite (hfinite ▸ hvalue) henabled]
        exact h
    | true =>
        obtain ⟨ha, hb, hc⟩ := keep_of_finite hvalue t
        obtain ⟨ha', hb', hc'⟩ := keep_of_finite (hfinite ▸ hvalue) t'
        cases param with
        | enabled => exact absurd rfl henabled
        | a =>
            rw [ha, ha']
            exact ⟨hnumber, h.b, h.c, h.enabled⟩
        | b =>
            rw [hb, hb']
            exact ⟨h.a, hnumber, h.c, h.enabled⟩
        | c =>
            rw [hc, hc']
            exact ⟨h.a, h.b, hnumber, h.enabled⟩

/-- A channel that equals itself takes no NaN. -/
theorem Agrees.keep_self {t : Thermistor} (h : t.Agrees t) (param : ThermistorParameter)
    (value : Setting) : (t.keep param value).Agrees (t.keep param value) := by
  cases hvalue : value.toSingle.isFinite with
  | true => exact h.keep (Setting.agrees_self hvalue) param
  | false =>
      by_cases henabled : param = .enabled
      · subst henabled
        exact ⟨h.a, h.b, h.c, rfl⟩
      · rw [keep_of_infinite hvalue henabled]
        exact h

end Thermistor

namespace Calibration

theorem Agrees.mapThermistor {c c' : Calibration} (h : c.Agrees c') (sensor : UInt8)
    {f g : Thermistor → Thermistor}
    (changes : ∀ (place : Nat) (h : place < channelCount),
      (f c.thermistors[place]).Agrees (g c'.thermistors[place])) :
    (c.mapThermistor sensor f).Agrees (c'.mapThermistor sensor g) := by
  unfold Calibration.mapThermistor
  by_cases hsensor : sensor.toNat < channelCount
  · rw [dif_pos hsensor, dif_pos hsensor]
    refine ⟨h.x, h.y, fun place hplace => ?_⟩
    simp only [Vector.getElem_set]
    split
    · exact changes sensor.toNat hsensor
    · exact h.thermistors place hplace
  · rw [dif_neg hsensor, dif_neg hsensor]
    exact h

/-- Equal values taken by equal calibrations leave them equal. -/
theorem Agrees.assignOrKeep {c c' : Calibration} (h : c.Agrees c') {value other : Setting}
    (same : value.agrees other = true) (key : ParameterKey) :
    (c.assignOrKeep key value).Agrees (c'.assignOrKeep key other) := by
  cases key with
  | axis id param =>
      rw [assignOrKeep_axis, assignOrKeep_axis]
      cases id with
      | x =>
          have hx := (AxisRates.keep_congr same param c.x).trans (congrArg _ h.x)
          exact ⟨hx, h.y, h.thermistors⟩
      | y =>
          have hy := (AxisRates.keep_congr same param c.y).trans (congrArg _ h.y)
          exact ⟨h.x, hy, h.thermistors⟩
  | thermistor sensor param =>
      rw [assignOrKeep_thermistor, assignOrKeep_thermistor]
      exact h.mapThermistor sensor fun place hplace => (h.thermistors place hplace).keep same param

/-- A calibration that equals itself does so whatever it takes. -/
theorem Agrees.assignOrKeep_self {c : Calibration} (h : c.Agrees c) (key : ParameterKey)
    (value : Setting) : (c.assignOrKeep key value).Agrees (c.assignOrKeep key value) := by
  cases key with
  | axis id param =>
      rw [assignOrKeep_axis]
      cases id with
      | x => exact ⟨rfl, rfl, h.thermistors⟩
      | y => exact ⟨rfl, rfl, h.thermistors⟩
  | thermistor sensor param =>
      rw [assignOrKeep_thermistor]
      exact h.mapThermistor sensor fun place hplace =>
        (h.thermistors place hplace).keep_self param value

theorem default_agrees : default.Agrees default := by
  refine ⟨rfl, rfl, fun place hplace => ?_⟩
  have hdefault : default.thermistors[place] = .default := Vector.getElem_replicate hplace
  rw [hdefault]
  exact ⟨by decide +kernel, by decide +kernel, by decide +kernel, rfl⟩

theorem foldl_taking_agrees (keys : List ParameterKey) {c : Calibration} (h : c.Agrees c)
    (s : SettingTable) : (keys.foldl (taking s) c).Agrees (keys.foldl (taking s) c) := by
  induction keys generalizing c with
  | nil => exact h
  | cons key rest ih =>
      apply ih
      unfold taking
      cases s.get? key.toByte with
      | some value => exact h.assignOrKeep_self key value
      | none => exact h

/-- What is loaded equals itself: loading takes no coefficient that is a NaN. -/
theorem loaded_agrees (s : SettingTable) : (loaded s).Agrees (loaded s) :=
  foldl_taking_agrees ParameterKey.all default_agrees s

end Calibration

end XYStage
