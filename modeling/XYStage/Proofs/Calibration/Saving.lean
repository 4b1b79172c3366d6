/-
# XYStage.Proofs.Calibration.Saving -- a saved calibration, loaded again

Every value has a name of its own, so a table that was empty takes a whole calibration if
it has room for every name (`SettingTable.writeAll_fresh`). A table that has the value of
every key of a calibration gives each parameter back, whatever was there before
(`Calibration.loaded_of_values`): flags and finite coefficients as they were, and each
motion parameter as the count that is left of it after single precision, which keeps 24
significant bits (`keptCount`).

Main statement: `saved_calibration_loaded`.
-/
import XYStage.Controller.Basic
import XYStage.Proofs.Calibration.Table
import XYStage.Proofs.Ieee.Rounding

namespace XYStage

set_option autoImplicit false

/-! ## Counts in a store -/

/-- What is left of a count that is kept as a number: the nearest one with at most 24
significant bits, ties to even, or the largest count. -/
def keptCount (n : UInt32) : UInt32 :=
  UInt32.ofNat (min (Single.nearestCount n.toNat) 0xffffffff)

theorem toNat_keptCount (n : UInt32) :
    (keptCount n).toNat = min (Single.nearestCount n.toNat) 0xffffffff :=
  UInt32.toNat_ofNat_of_lt' (by show _ < 2 ^ 32; omega)

/-- The counts that are kept as they are. -/
theorem keptCount_eq_self_iff {n : UInt32} :
    keptCount n = n ↔ n = 0xffffffff ∨ ∃ m k, m < 2 ^ 24 ∧ n.toNat = m * 2 ^ k := by
  rw [keptCount, ← Single.toUInt32_ofUInt32]
  exact Single.toUInt32_ofUInt32_eq_iff

/-- No count is out of range as a number. -/
theorem countRate_ofUInt32 (n : UInt32) : countRate (.ofUInt32 n) = .ok (keptCount n) := by
  have hlow : ¬ Single.ofUInt32 n < 0 := by
    rintro ⟨-, -, hunits⟩
    rw [Single.units_ofUInt32, show (0 : Single).units = 0 by decide +kernel] at hunits
    omega
  have hhigh : ¬ Single.ofUInt32 0xffffffff < Single.ofUInt32 n := by
    rintro ⟨-, -, hunits⟩
    rw [Single.units_ofUInt32, Single.units_ofUInt32,
      show Single.nearestCount (0xffffffff : UInt32).toNat = 2 ^ 32 by decide +kernel] at hunits
    have hle := Single.nearestCount_le n.toNat_lt
    omega
  rw [keptCount, ← Single.toUInt32_ofUInt32]
  simp [countRate, Single.isFinite_ofUInt32, hlow, hhigh]

namespace AxisRates

theorem get_set (param other : AxisParameter) (value : UInt32) (c : AxisRates) :
    (c.set param value).get other = if other = param then value else c.get other := by
  cases param <;> cases other <;> rfl

theorem ext_get {c c' : AxisRates} (h : ∀ param, c.get param = c'.get param) : c = c' := by
  obtain ⟨acceleration, startVelocity, homeVelocity⟩ := c
  obtain ⟨acceleration', startVelocity', homeVelocity'⟩ := c'
  obtain rfl : acceleration = acceleration' := h .acceleration
  obtain rfl : startVelocity = startVelocity' := h .startVelocity
  obtain rfl : homeVelocity = homeVelocity' := h .homeVelocity
  rfl

/-- Every parameter as a store keeps it. -/
def kept (c : AxisRates) : AxisRates :=
  ⟨keptCount c.acceleration, keptCount c.startVelocity, keptCount c.homeVelocity⟩

theorem get_kept (param : AxisParameter) (c : AxisRates) :
    c.kept.get param = keptCount (c.get param) := by
  cases param <;> rfl

theorem keep_count (param : AxisParameter) (n : UInt32) (c : AxisRates) :
    c.keep param (.number (.ofUInt32 n)) = c.set param (keptCount n) := by
  have hcount : countRate (Setting.number (.ofUInt32 n)).toSingle = .ok (keptCount n) :=
    countRate_ofUInt32 n
  rw [keep, hcount]

theorem get_keep_of_ne {param other : AxisParameter} (h : other ≠ param) (value : Setting)
    (c : AxisRates) : (c.keep param value).get other = c.get other := by
  unfold keep
  cases countRate value.toSingle with
  | ok count => exact (get_set param other count c).trans (if_neg h)
  | error e => rfl

end AxisRates

namespace Thermistor

/-- All coefficients are finite. -/
structure IsFinite (t : Thermistor) : Prop where
  a : t.a.isFinite = true
  b : t.b.isFinite = true
  c : t.c.isFinite = true

theorem isFinite_default : Thermistor.default.IsFinite :=
  ⟨by decide +kernel, by decide +kernel, by decide +kernel⟩

theorem ext_get {t t' : Thermistor} (h : ∀ param, t.get param = t'.get param) : t = t' := by
  obtain ⟨a, b, c, enabled⟩ := t
  obtain ⟨a', b', c', enabled'⟩ := t'
  obtain rfl : a = a' := Setting.number.inj (h .a)
  obtain rfl : b = b' := Setting.number.inj (h .b)
  obtain rfl : c = c' := Setting.number.inj (h .c)
  obtain rfl : enabled = enabled' := Setting.flag.inj (h .enabled)
  rfl

/-- A finite coefficient and a flag are taken as they are. -/
theorem get_keep_self {t : Thermistor} (finite : t.IsFinite) (param : ThermistorParameter)
    (other : Thermistor) : (other.keep param (t.get param)).get param = t.get param := by
  cases param with
  | a => simp [keep, assign, get, Setting.toSingle, finite.a]
  | b => simp [keep, assign, get, Setting.toSingle, finite.b]
  | c => simp [keep, assign, get, Setting.toSingle, finite.c]
  | enabled => rfl

theorem get_keep_of_ne {param other : ThermistorParameter} (h : other ≠ param)
    (value : Setting) (t : Thermistor) : (t.keep param value).get other = t.get other := by
  cases hvalue : value.toSingle.isFinite <;> cases param <;> cases other <;>
    first | exact absurd rfl h | simp [keep, assign, get, hvalue]

end Thermistor

namespace Calibration

/-! ## Parameters of a calibration -/

/-- Both calibrations have the same under a key. -/
def SameAt (c c' : Calibration) : ParameterKey → Prop
  | .axis id param => (c.axis id).get param = (c'.axis id).get param
  | .thermistor sensor param => ∀ h : sensor.toNat < channelCount,
      c.thermistors[sensor.toNat].get param = c'.thermistors[sensor.toNat].get param

theorem sameAt_axis {c c' : Calibration} {id : AxisId} {param : AxisParameter} :
    c.SameAt c' (.axis id param) ↔ (c.axis id).get param = (c'.axis id).get param := Iff.rfl

theorem sameAt_thermistor {c c' : Calibration} {sensor : UInt8} {param : ThermistorParameter} :
    c.SameAt c' (.thermistor sensor param) ↔ ∀ h : sensor.toNat < channelCount,
      c.thermistors[sensor.toNat].get param = c'.thermistors[sensor.toNat].get param := Iff.rfl

/-- Calibrations are the same if they have the same under every key. -/
theorem ext_sameAt {c c' : Calibration} (h : ∀ key ∈ ParameterKey.all, c.SameAt c' key) :
    c = c' := by
  have haxis (id : AxisId) : c.axis id = c'.axis id := by
    apply AxisRates.ext_get
    intro param
    exact h (.axis id param) (by cases id <;> cases param <;> decide)
  have hthermistors : c.thermistors = c'.thermistors := by
    refine Vector.ext fun place hplace => Thermistor.ext_get fun param => ?_
    have hsensor : (UInt8.ofNat place).toNat = place :=
      UInt8.toNat_ofNat_of_lt' (Nat.lt_trans hplace (by decide))
    have htakes : (ParameterKey.thermistor (.ofNat place) param).Takes (.flag false) := by
      refine ⟨by rw [hsensor]; exact hplace, .inr (by decide +kernel)⟩
    have hsame := h _ htakes.mem_all (by rw [hsensor]; exact hplace)
    simp only [hsensor] at hsame
    exact hsame
  obtain ⟨x, y, thermistors⟩ := c
  obtain ⟨x', y', thermistors'⟩ := c'
  obtain rfl : x = x' := haxis .x
  obtain rfl : y = y' := haxis .y
  obtain rfl : thermistors = thermistors' := hthermistors
  rfl

theorem axis_mapAxis (id other : AxisId) (f : AxisRates → AxisRates) (c : Calibration) :
    (c.mapAxis id f).axis other = if other = id then f (c.axis other) else c.axis other := by
  cases id <;> cases other <;> rfl

theorem thermistors_mapAxis (id : AxisId) (f : AxisRates → AxisRates) (c : Calibration) :
    (c.mapAxis id f).thermistors = c.thermistors := by
  cases id <;> rfl

theorem axis_mapThermistor (sensor : UInt8) (f : Thermistor → Thermistor) (c : Calibration)
    (id : AxisId) : (c.mapThermistor sensor f).axis id = c.axis id := by
  unfold mapThermistor
  split
  · cases id <;> rfl
  · rfl

theorem getElem_mapThermistor (sensor : UInt8) (f : Thermistor → Thermistor) (c : Calibration)
    {place : Nat} (h : place < channelCount) :
    (c.mapThermistor sensor f).thermistors[place] =
      if sensor.toNat = place then f c.thermistors[place] else c.thermistors[place] := by
  unfold mapThermistor
  split
  · next hsensor =>
    rw [Vector.getElem_set]
    split
    · next hplace => simp only [hplace]
    · rfl
  · next hsensor =>
    have hne : sensor.toNat ≠ place := by omega
    rw [if_neg hne]

/-- A value taken under one key leaves the others. -/
theorem SameAt.assignOrKeep {c c' : Calibration} {key other : ParameterKey}
    (h : c.SameAt c' other) (hne : other ≠ key) (value : Setting) :
    (c.assignOrKeep key value).SameAt c' other := by
  cases key with
  | axis id param =>
      rw [assignOrKeep_axis]
      cases other with
      | axis otherId otherParam =>
          rw [sameAt_axis] at h ⊢
          rw [axis_mapAxis]
          split
          · next hid =>
            rw [AxisRates.get_keep_of_ne fun hparam => hne (by rw [hid, hparam])]
            exact h
          · exact h
      | thermistor sensor otherParam =>
          rw [sameAt_thermistor] at h ⊢
          rw [thermistors_mapAxis]
          exact h
  | thermistor sensor param =>
      rw [assignOrKeep_thermistor]
      cases other with
      | axis id otherParam =>
          rw [sameAt_axis] at h ⊢
          rw [axis_mapThermistor]
          exact h
      | thermistor otherSensor otherParam =>
          intro hplace
          rw [getElem_mapThermistor _ _ _ hplace]
          split
          · next hsensor =>
            have hkey : otherParam ≠ param := fun hparam =>
              hne (by rw [hparam, UInt8.toNat_inj.mp hsensor])
            rw [Thermistor.get_keep_of_ne hkey]
            exact h hplace
          · exact h hplace

/-! ## What is kept of a calibration -/

/-- All coefficients are finite. -/
def IsFinite (c : Calibration) : Prop :=
  ∀ (place : Nat) (h : place < channelCount), c.thermistors[place].IsFinite

theorem isFinite_of_default {c : Calibration}
    (h : c.thermistors = Vector.replicate channelCount .default) : c.IsFinite := by
  intro place hplace
  have hdefault : c.thermistors[place] = .default := by
    simp only [h, Vector.getElem_replicate]
  rw [hdefault]
  exact Thermistor.isFinite_default

/-- A calibration as a store keeps it. -/
def kept (c : Calibration) : Calibration :=
  ⟨c.x.kept, c.y.kept, c.thermistors⟩

theorem axis_kept (id : AxisId) (c : Calibration) : c.kept.axis id = (c.axis id).kept := by
  cases id <;> rfl

theorem kept_eq_self_iff {c : Calibration} :
    c.kept = c ↔ ∀ id param, keptCount ((c.axis id).get param) = (c.axis id).get param := by
  constructor
  · intro h id param
    rw [← AxisRates.get_kept, ← axis_kept, h]
  · intro h
    refine ext_sameAt fun key _ => ?_
    cases key with
    | axis id param =>
        rw [sameAt_axis, axis_kept, AxisRates.get_kept]
        exact h id param
    | thermistor sensor param => exact fun _ => rfl

theorem exists_get {key : ParameterKey} (h : key ∈ ParameterKey.all) (c : Calibration) :
    ∃ value, c.get? key = some value := by
  have hsensors : (ParameterKey.all.all fun
      | .axis _ _ => true
      | .thermistor sensor _ => decide (sensor.toNat < channelCount)) = true := by
    decide +kernel
  have hkey := List.all_eq_true.mp hsensors key h
  cases key with
  | axis id param => exact ⟨_, rfl⟩
  | thermistor sensor param =>
      have hplace : sensor.toNat < channelCount := of_decide_eq_true hkey
      exact ⟨_, by rw [get?, Vector.getElem?_eq_getElem hplace]; rfl⟩

/-- A value of a calibration, taken by another, is there as a store keeps it. -/
theorem sameAt_assignOrKeep {c : Calibration} (finite : c.IsFinite) {key : ParameterKey}
    {value : Setting} (h : c.get? key = some value) (other : Calibration) :
    (other.assignOrKeep key value).SameAt c.kept key := by
  cases key with
  | axis id param =>
      cases h
      rw [assignOrKeep_axis]
      rw [sameAt_axis, axis_mapAxis, if_pos rfl, AxisRates.keep_count, AxisRates.get_set, if_pos rfl,
        axis_kept, AxisRates.get_kept]
  | thermistor sensor param =>
      intro hplace
      rw [get?, Vector.getElem?_eq_getElem hplace] at h
      cases h
      rw [assignOrKeep_thermistor, getElem_mapThermistor _ _ _ hplace, if_pos rfl]
      exact Thermistor.get_keep_self (finite _ hplace) param _

/-- What a table has under some keys is there once they are loaded. -/
theorem foldl_taking_sameAt {c : Calibration} (finite : c.IsFinite) {s : SettingTable}
    {keys : List ParameterKey} (h : ∀ key ∈ keys, ∃ value, c.get? key = some value ∧
      s.get? key.toByte = some value) (start : Calibration) {key : ParameterKey}
    (there : key ∈ keys ∨ start.SameAt c.kept key) :
    (keys.foldl (taking s) start).SameAt c.kept key := by
  induction keys generalizing start with
  | nil =>
      rcases there with hmem | hstart
      · cases hmem
      · exact hstart
  | cons next rest ih =>
      obtain ⟨value, hvalue, hstored⟩ := h next List.mem_cons_self
      have htaken : start.taking s next = start.assignOrKeep next value := by
        rw [taking, hstored]
      rw [List.foldl_cons, htaken]
      refine ih (fun key hkey => h key (List.mem_cons_of_mem next hkey)) _ ?_
      by_cases hnext : key = next
      · rw [hnext]
        exact .inr (sameAt_assignOrKeep finite hvalue start)
      · rcases there with hmem | hstart
        · exact .inl (List.mem_of_ne_of_mem hnext hmem)
        · exact .inr (hstart.assignOrKeep hnext value)

/-- **A table with every value of a calibration** is loaded as that calibration is
kept. -/
theorem loaded_of_values {c : Calibration} (finite : c.IsFinite) {s : SettingTable}
    (h : ∀ key ∈ ParameterKey.all, s.get? key.toByte = c.get? key) : loaded s = c.kept := by
  refine ext_sameAt fun key hkey => foldl_taking_sameAt finite (fun key hkey => ?_) _ (.inl hkey)
  obtain ⟨value, hvalue⟩ := c.exists_get hkey
  exact ⟨value, hvalue, (h key hkey).trans hvalue⟩

end Calibration

/-! ## Saving -/

namespace SettingTable

/-- Values under new and distinct names are all written, in their order. -/
theorem writeAll_fresh {entries : List (ParameterKey × Setting)} {s : SettingTable}
    (distinct : (entries.map (·.1.toByte)).Nodup)
    (fresh : ∀ entry ∈ entries, entry.1.toByte ∉ s.names)
    (room : s.size + entries.length ≤ s.capacity) :
    (Calibration.writeAll entries s).1 = .ok () ∧
      (Calibration.writeAll entries s).2.entries =
        s.entries ++ entries.map fun entry => (entry.1.toByte, entry.2) := by
  -- Every write adds a name, so the table is generalized.
  induction entries generalizing s with
  | nil => exact ⟨rfl, (List.append_nil _).symm⟩
  | cons entry rest ih =>
      obtain ⟨key, value⟩ := entry
      obtain ⟨hnotin, hdistinct⟩ := List.nodup_cons.mp distinct
      rw [List.length_cons] at room
      have habsent : s.get? key.toByte = none :=
        get?_eq_none.mpr (fresh (key, value) List.mem_cons_self)
      obtain ⟨s', hs'⟩ : ∃ s' : SettingTable, s' =
          { s with entries := s.entries ++ [(key.toByte, value)], changed := true } := ⟨_, rfl⟩
      have hwrite : SettingStore.write key.toByte value s = (.ok (), s') := by
        rw [hs']
        exact (write_absent habsent value).trans (if_pos (by omega))
      have hentries : s'.entries = s.entries ++ [(key.toByte, value)] := by rw [hs']
      have hnames : s'.names = s.names ++ [key.toByte] := by
        rw [names, hentries, List.map_append]
        rfl
      have hroom : s'.size + rest.length ≤ s'.capacity := by
        have hcapacity : s'.capacity = s.capacity := by rw [hs']
        rw [size, hentries, List.length_append, List.length_singleton, hcapacity]
        unfold size at room
        omega
      have hfresh : ∀ other ∈ rest, other.1.toByte ∉ s'.names := by
        intro other hother
        rw [hnames, List.mem_append, List.mem_singleton]
        rintro (hold | hnew)
        · exact fresh other (List.mem_cons_of_mem _ hother) hold
        · exact hnotin (List.mem_map.mpr ⟨other, hother, hnew⟩)
      obtain ⟨hok, hrest⟩ := ih hdistinct hfresh hroom
      rw [Calibration.writeAll, hwrite]
      refine ⟨hok, hrest.trans ?_⟩
      rw [hentries, List.append_assoc]
      rfl

/-- Under distinct names every value is found. -/
theorem get?_of_mem {s : SettingTable} (distinct : s.names.Nodup) {key : UInt8} {value : Setting}
    (h : (key, value) ∈ s.entries) : s.get? key = some value := by
  cases hget : s.get? key with
  | none => exact absurd (List.mem_map_of_mem h) (get?_eq_none.mp hget)
  | some found =>
      obtain ⟨entry, hfind, rfl⟩ := Option.map_eq_some_iff.mp hget
      have hkey : entry.1 = key := by simpa using List.find?_some hfind
      have hsame := List.inj_on_of_nodup_map distinct (List.mem_of_find?_eq_some hfind) h hkey
      rw [hsame]

end SettingTable

namespace Calibration

theorem entries_keys (c : Calibration) : c.entries.map (·.1) = ParameterKey.all := by
  have hkeys (keys : List ParameterKey) (h : ∀ key ∈ keys, key ∈ ParameterKey.all) :
      (keys.filterMap fun key => (c.get? key).map (key, ·)).map (·.1) = keys := by
    induction keys with
    | nil => rfl
    | cons key rest ih =>
        obtain ⟨value, hvalue⟩ := c.exists_get (h key List.mem_cons_self)
        have hrest := ih fun other hother => h other (List.mem_cons_of_mem key hother)
        rw [List.filterMap_cons_some (by rw [hvalue]; rfl), List.map_cons, hrest]
  exact hkeys ParameterKey.all fun _ h => h

theorem mem_entries {key : ParameterKey} (h : key ∈ ParameterKey.all) {c : Calibration}
    {value : Setting} (hvalue : c.get? key = some value) : (key, value) ∈ c.entries :=
  List.mem_filterMap.mpr ⟨key, h, by rw [hvalue]; rfl⟩

/-- **Saving.** A table that was empty takes every value if it has room for every name. -/
theorem toStore_empty (c : Calibration) {capacity : Nat}
    (room : ParameterKey.all.length ≤ capacity) :
    ∃ s, c.toStore (SettingTable.empty capacity) = (.ok (), s) ∧
      ∀ key ∈ ParameterKey.all, s.get? key.toByte = c.get? key := by
  have hbytes : c.entries.map (·.1.toByte) = ParameterKey.all.map ParameterKey.toByte := by
    rw [← c.entries_keys, List.map_map]
    rfl
  have hdistinct : (c.entries.map (·.1.toByte)).Nodup := by
    rw [hbytes]
    decide +kernel
  have hlength : c.entries.length = ParameterKey.all.length := by
    rw [← c.entries_keys, List.length_map]
  obtain ⟨hok, hentries⟩ := SettingTable.writeAll_fresh (s := .empty capacity) hdistinct
    (fun _ _ => List.not_mem_nil) (by rw [hlength]; exact (Nat.zero_add _).trans_le room)
  refine ⟨(writeAll c.entries (SettingTable.empty capacity)).2, Prod.ext hok rfl,
    fun key hkey => ?_⟩
  rw [show (SettingTable.empty capacity).entries = [] from rfl, List.nil_append] at hentries
  obtain ⟨value, hvalue⟩ := c.exists_get hkey
  rw [hvalue]
  apply SettingTable.get?_of_mem
  · rw [SettingTable.names, hentries, List.map_map]
    exact hdistinct
  · rw [hentries]
    exact List.mem_map_of_mem (mem_entries hkey hvalue)

end Calibration

/-- **A saved calibration, loaded again.** A calibration with finite coefficients is saved
to any table that was empty and has room for its names. What is loaded from that table,
also by a controller that starts with it, has the same coefficients and flags; each
motion parameter is the nearest count with at most 24 significant bits, ties to even, or
the largest count if that is `2 ^ 32`. So it is the calibration that was saved exactly if
every motion parameter has at most 24 significant bits or is the largest count. -/
theorem saved_calibration_loaded {c : Calibration} {capacity : Nat}
    (room : ParameterKey.all.length ≤ capacity) (finite : c.IsFinite) :
    ∃ store loaded, c.toStore (SettingTable.empty capacity) = (.ok (), store) ∧
      (Calibration.ofStore store).1 = .ok loaded ∧
      (∀ {δ α π : Type} (exchange : Exchange δ) (axes : Axes α) (sensors : π),
        (Controller.new exchange axes sensors store).calibration = loaded) ∧
      loaded.thermistors = c.thermistors ∧
      (∀ id param, ((loaded.axis id).get param).toNat =
        min (Single.nearestCount ((c.axis id).get param).toNat) 0xffffffff) ∧
      (loaded = c ↔ ∀ id param, (c.axis id).get param = 0xffffffff ∨
        ∃ m k, m < 2 ^ 24 ∧ ((c.axis id).get param).toNat = m * 2 ^ k) := by
  obtain ⟨store, hstore, hvalues⟩ := c.toStore_empty room
  have hload : Calibration.ofStore store = (.ok c.kept, store) := by
    rw [Calibration.ofStore_table, Calibration.loaded_of_values finite hvalues]
  refine ⟨store, c.kept, hstore, congrArg Prod.fst hload, ?_, rfl, ?_, ?_⟩
  · intro δ α π exchange axes sensors
    rw [Controller.new, hload]
  · intro id param
    rw [Calibration.axis_kept, AxisRates.get_kept, toNat_keptCount]
  · rw [Calibration.kept_eq_self_iff]
    simp only [keptCount_eq_self_iff]

/-- A calibration with counts of many bits, of which none has more than 24 that count, and
the largest count. -/
def fineRates : Calibration :=
  { Calibration.default with x := ⟨0xffffff00, 16777215, 0xffffffff⟩, y := ⟨33554436, 0, 50000⟩ }

theorem fineRates_loaded :
    ∃ store, fineRates.toStore (SettingTable.empty 26) = (.ok (), store) ∧
      (Calibration.ofStore store).1 = .ok fineRates := by
  obtain ⟨store, loaded, hstore, hloaded, -, -, -, hsame⟩ :=
    @saved_calibration_loaded fineRates 26 (by decide) (Calibration.isFinite_of_default rfl)
  refine ⟨store, hstore, hloaded.trans (congrArg _ (hsame.mpr fun id param => ?_))⟩
  cases id with
  | x =>
      cases param with
      | acceleration => exact .inr ⟨0xffffff, 8, by decide, by decide⟩
      | startVelocity => exact .inr ⟨16777215, 0, by decide, by decide⟩
      | homeVelocity => exact .inl rfl
  | y =>
      cases param with
      | acceleration => exact .inr ⟨8388609, 2, by decide, by decide⟩
      | startVelocity => exact .inr ⟨0, 0, by decide, by decide⟩
      | homeVelocity => exact .inr ⟨50000, 0, by decide, by decide⟩

/-- The defaults with an acceleration of the first axis. -/
def withAcceleration (n : UInt32) : Calibration :=
  { Calibration.default with x := { AxisRates.default with acceleration := n } }

/-- The least count with more than 24 significant bits is saved as the count before it, and
loaded as that. -/
theorem odd_acceleration_not_loaded :
    (withAcceleration 16777217).IsFinite ∧
      (withAcceleration 16777217).toStore (SettingTable.empty 26) =
        (withAcceleration 16777216).toStore (SettingTable.empty 26) ∧
      ((withAcceleration 16777217).toStore (SettingTable.empty 26)).1 = .ok () ∧
      ∃ loaded, (Calibration.ofStore
          ((withAcceleration 16777217).toStore (SettingTable.empty 26)).2).1 = .ok loaded ∧
        loaded.x.acceleration = 16777216 ∧ loaded ≠ withAcceleration 16777217 := by
  have hsaved : (withAcceleration 16777217).entries = (withAcceleration 16777216).entries := by
    decide +kernel
  refine ⟨Calibration.isFinite_of_default rfl, ?_, by decide +kernel, ?_⟩
  · rw [Calibration.toStore, hsaved, Calibration.toStore]
  · rw [Calibration.ofStore_table]
    refine ⟨_, rfl, by decide +kernel, fun hsame => ?_⟩
    have hacceleration := congrArg (fun c => c.x.acceleration) hsame
    revert hacceleration
    decide +kernel

end XYStage
