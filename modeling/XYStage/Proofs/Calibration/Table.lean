/-
# XYStage.Proofs.Calibration.Table -- a table is a bounded map

Calls are made to a table one after another. What is known of it afterwards is which
writes succeeded (`SettingTable.written`) and what each name was given last (`latest`).
A write has one of four outcomes: the value is there already, it replaces another, its
name is added, or there is no room; each keeps the table in line with the writes
(`SettingTable.Mirrors`).

A value is there already if it is equal as a number, so what is read may be the other
zero, but a NaN comes back as it was written.

Main statement: `table_is_bounded_map`, for every capacity and every list of calls.
-/
import Mathlib.Data.Finset.Card
import XYStage.Proofs.Calibration.Loading

namespace XYStage

set_option autoImplicit false

/-- A call to a table. -/
inductive TableCall where
  | write (key : UInt8) (value : Setting)
  | read (key : UInt8)
  | takeNotice

/-- The values are the same, or equal. -/
def Setting.Matches (stored value : Setting) : Prop :=
  stored = value ∨ stored.agrees value = true

/-- A NaN equals nothing. -/
theorem Setting.Matches.eq_of_isNaN {stored : Setting} {x : Single}
    (h : stored.Matches (.number x)) (nan : x.isNaN = true) : stored = .number x := by
  rcases h with hsame | hagrees
  · exact hsame
  · cases stored with
    | number y => simp [agrees, Single.equals, nan] at hagrees
    | flag value => simp [agrees] at hagrees

/-- The value given last to a name by writes in their order. -/
def latest (key : UInt8) (written : List (UInt8 × Setting)) : Option Setting :=
  (written.reverse.find? (·.1 = key)).map (·.2)

theorem latest_append (key name : UInt8) (value : Setting) (written : List (UInt8 × Setting)) :
    latest name (written ++ [(key, value)]) =
      if name = key then some value else latest name written := by
  unfold latest
  by_cases h : name = key
  · simp [h]
  · simp [h, Ne.symm h]

/-- A name that is not found is not there. -/
theorem find?_eq_none_iff {key : UInt8} {entries : List (UInt8 × Setting)} :
    (entries.find? (·.1 = key)).map (·.2) = none ↔ key ∉ entries.map (·.1) := by
  rw [Option.map_eq_none_iff, List.find?_eq_none, List.mem_map]
  constructor
  · rintro habsent ⟨entry, hmem, hname⟩
    exact habsent entry hmem (decide_eq_true hname)
  · intro habsent entry hmem hname
    exact habsent ⟨entry, hmem, of_decide_eq_true hname⟩

/-- What is written after it under other names does not matter. -/
theorem latest_of_split {key : UInt8} {later : List (UInt8 × Setting)}
    (h : key ∉ later.map (·.1)) (earlier : List (UInt8 × Setting)) (value : Setting) :
    latest key (earlier ++ (key, value) :: later) = some value := by
  have habsent : later.reverse.find? (·.1 = key) = none := by
    rwa [← Option.map_eq_none_iff (f := Prod.snd), find?_eq_none_iff, List.map_reverse,
      List.mem_reverse]
  simp [latest, List.find?_append, habsent]

theorem latest_eq_none {key : UInt8} {written : List (UInt8 × Setting)} :
    latest key written = none ↔ key ∉ written.map (·.1) := by
  rw [latest, find?_eq_none_iff, List.map_reverse, List.mem_reverse]

namespace SettingTable

/-! ## Calls -/

/-- The table after a call. -/
def after : TableCall → SettingTable → SettingTable
  | .write key value, s => (SettingStore.write key value s).2
  | .read key, s => (SettingStore.read key s).2
  | .takeNotice, s => (SettingStore.takeNotice s).2

/-- The table after calls, the first one made first. -/
def afterAll (calls : List TableCall) (s : SettingTable) : SettingTable :=
  calls.foldl (fun s call => s.after call) s

/-- The name and the value of a call that is a write and succeeds. -/
def stored : TableCall → SettingTable → List (UInt8 × Setting)
  | .write key value, s =>
      match (s.write key value).1 with
      | .ok () => [(key, value)]
      | .error _ => []
  | _, _ => []

/-- The writes among some calls that succeed, the first one first. -/
def written : List TableCall → SettingTable → List (UInt8 × Setting)
  | [], _ => []
  | call :: rest, s => s.stored call ++ written rest (s.after call)

theorem stored_of_ok {key : UInt8} {value : Setting} {s : SettingTable}
    (h : (s.write key value).1 = .ok ()) : s.stored (.write key value) = [(key, value)] := by
  simp only [stored, h]

theorem stored_of_error {key : UInt8} {value : Setting} {s : SettingTable}
    {failure : StoreFailure} (h : (s.write key value).1 = .error failure) :
    s.stored (.write key value) = [] := by
  simp only [stored, h]

@[simp] theorem afterAll_append (calls : List TableCall) (call : TableCall) (s : SettingTable) :
    s.afterAll (calls ++ [call]) = (s.afterAll calls).after call := by
  simp [afterAll]

@[simp] theorem written_append (calls : List TableCall) (call : TableCall) (s : SettingTable) :
    s.written (calls ++ [call]) = s.written calls ++ (s.afterAll calls).stored call := by
  induction calls generalizing s with
  | nil => simp [written, afterAll]
  | cons first rest ih =>
      simp only [List.cons_append, written, ih, List.append_assoc]
      rfl

/-! ## Names -/

/-- The names of a table, in the order of its entries. -/
def names (s : SettingTable) : List UInt8 :=
  s.entries.map (·.1)

theorem length_names (s : SettingTable) : s.names.length = s.size :=
  List.length_map _

theorem get?_eq_none {key : UInt8} {s : SettingTable} : s.get? key = none ↔ key ∉ s.names :=
  find?_eq_none_iff

/-- A value is replaced where it is. -/
theorem names_replace (key : UInt8) (value : Setting) (s : SettingTable) :
    (s.replace key value).names = s.names := by
  unfold names replace
  rw [List.map_map]
  refine List.map_congr_left fun entry _ => ?_
  by_cases h : entry.1 = key
  · simp [h]
  · simp [h]

/-- A name that is not there yet is added once. -/
theorem nodup_names_append {key : UInt8} {s : SettingTable} (h : s.names.Nodup)
    (new : key ∉ s.names) (value : Setting) (changed : Bool) :
    ({ s with entries := s.entries ++ [(key, value)], changed } : SettingTable).names.Nodup := by
  show (List.map (·.1) (s.entries ++ [(key, value)])).Nodup
  rw [List.map_append, List.nodup_append]
  refine ⟨h, List.nodup_singleton _, fun name hname other hother hsame => new ?_⟩
  have hkey : other = key := List.mem_singleton.mp hother
  rw [← hkey, ← hsame]
  exact hname

theorem read_eq_absent {key : UInt8} {s : SettingTable} :
    s.read key = .error .absent ↔ s.get? key = none := by
  unfold read
  cases s.get? key with
  | some value => simp
  | none => simp

theorem read_eq_ok {key : UInt8} {value : Setting} {s : SettingTable} :
    s.read key = .ok value ↔ s.get? key = some value := by
  unfold read
  cases s.get? key with
  | some stored => simp
  | none => simp

/-! ## One write -/

/-- **One write.** The value is there already, it replaces another, its name is added,
or there is no room for it. -/
theorem write_cases (key : UInt8) (value : Setting) (s : SettingTable) :
    (∃ present, s.get? key = some present ∧ present.agrees value = true ∧
      s.write key value = (.ok (), s)) ∨
    (∃ present, s.get? key = some present ∧ present.agrees value = false ∧
      s.write key value = (.ok (), s.replace key value)) ∨
    (s.get? key = none ∧ s.size < s.capacity ∧ s.write key value =
      (.ok (), { s with entries := s.entries ++ [(key, value)], changed := true })) ∨
    (s.get? key = none ∧ ¬ s.size < s.capacity ∧ s.write key value = (.error .full, s)) := by
  cases hstored : s.get? key with
  | some present =>
      rw [write_present hstored]
      cases hagrees : present.agrees value with
      | true => exact .inl ⟨present, rfl, hagrees, rfl⟩
      | false => exact .inr (.inl ⟨present, rfl, hagrees, rfl⟩)
  | none =>
      rw [write_absent hstored]
      by_cases hroom : s.size < s.capacity
      · exact .inr (.inr (.inl ⟨rfl, hroom, if_pos hroom⟩))
      · exact .inr (.inr (.inr ⟨rfl, hroom, if_neg hroom⟩))

theorem write_eq_full {key : UInt8} {value : Setting} {s : SettingTable} :
    (s.write key value).1 = .error .full ↔ s.get? key = none ∧ ¬ s.size < s.capacity := by
  rcases s.write_cases key value with
    ⟨present, hget, -, hwrite⟩ | ⟨present, hget, -, hwrite⟩ | ⟨hget, hroom, hwrite⟩ |
      ⟨hget, hroom, hwrite⟩
  · simp [hget, hwrite]
  · simp [hget, hwrite]
  · simp [hget, hroom, hwrite]
  · simp [hget, hroom, hwrite]

/-- A write leaves what is stored under other names. -/
theorem get?_write {key name : UInt8} (hne : name ≠ key) (value : Setting) (s : SettingTable) :
    (s.write key value).2.get? name = s.get? name := by
  rcases s.write_cases key value with
    ⟨present, hget, -, hwrite⟩ | ⟨present, hget, -, hwrite⟩ | ⟨hget, -, hwrite⟩ | ⟨-, -, hwrite⟩
  · rw [hwrite]
  · rw [hwrite]
    exact (get?_replace hget value name).trans (if_neg hne)
  · rw [hwrite]
    exact (get?_append hget value name).trans (if_neg hne)
  · rw [hwrite]

/-! ## The table and the writes to it -/

/-- The table holds what was written to it: each name once, with the value given last. -/
structure Mirrors (capacity : Nat) (written : List (UInt8 × Setting)) (s : SettingTable) :
    Prop where
  capacity_eq : s.capacity = capacity
  nodup : s.names.Nodup
  fits : s.size ≤ capacity
  values : ∀ key, Option.Rel Setting.Matches (s.get? key) (latest key written)

theorem mirrors_empty (capacity : Nat) : Mirrors capacity [] (empty capacity) where
  capacity_eq := rfl
  nodup := List.nodup_nil
  fits := Nat.zero_le _
  values _ := .none

section Mirrors

variable {capacity : Nat} {written : List (UInt8 × Setting)} {s : SettingTable}

theorem Mirrors.get?_eq_none (h : Mirrors capacity written s) (key : UInt8) :
    s.get? key = none ↔ latest key written = none := by
  have hvalue := h.values key
  generalize s.get? key = found at hvalue
  generalize latest key written = given at hvalue
  cases hvalue with
  | none => exact ⟨fun _ => rfl, fun _ => rfl⟩
  | some _ => exact ⟨nofun, nofun⟩

theorem Mirrors.get?_of_latest (h : Mirrors capacity written s) {key : UInt8} {value : Setting}
    (hlatest : latest key written = some value) :
    ∃ stored, s.get? key = some stored ∧ stored.Matches value := by
  have hvalue := h.values key
  rw [hlatest] at hvalue
  generalize hget : s.get? key = found at hvalue
  cases hvalue with
  | some hmatches => exact ⟨_, rfl, hmatches⟩

/-- The names of the table are those that were written. -/
theorem Mirrors.mem_names (h : Mirrors capacity written s) (key : UInt8) :
    key ∈ s.names ↔ key ∈ written.map (·.1) := by
  rw [← not_iff_not, ← SettingTable.get?_eq_none, h.get?_eq_none, latest_eq_none]

theorem Mirrors.size_eq (h : Mirrors capacity written s) :
    s.size = (written.map (·.1)).toFinset.card := by
  rw [← s.length_names, ← List.toFinset_card_of_nodup h.nodup]
  congr 1
  ext key
  simp only [List.mem_toFinset, h.mem_names]

/-- A value that is there already goes for the one written. -/
theorem Mirrors.agreed (h : Mirrors capacity written s) {key : UInt8} {present value : Setting}
    (hget : s.get? key = some present) (agrees : present.agrees value = true) :
    Mirrors capacity (written ++ [(key, value)]) s where
  capacity_eq := h.capacity_eq
  nodup := h.nodup
  fits := h.fits
  values name := by
    rw [latest_append]
    split
    · next hname =>
      rw [hname, hget]
      exact .some (.inr agrees)
    · exact h.values name

/-- A value that is stored is found again, and the others are still there. -/
theorem Mirrors.store (h : Mirrors capacity written s) {s' : SettingTable} {key : UInt8}
    {value : Setting} (hcapacity : s'.capacity = s.capacity) (hnodup : s'.names.Nodup)
    (hfits : s'.size ≤ capacity)
    (hget : ∀ name, s'.get? name = if name = key then some value else s.get? name) :
    Mirrors capacity (written ++ [(key, value)]) s' where
  capacity_eq := hcapacity.trans h.capacity_eq
  nodup := hnodup
  fits := hfits
  values name := by
    rw [latest_append, hget]
    split
    · exact .some (.inl rfl)
    · exact h.values name

/-- **One call.** -/
theorem Mirrors.after (h : Mirrors capacity written s) (call : TableCall) :
    Mirrors capacity (written ++ s.stored call) (s.after call) := by
  cases call with
  | read key =>
      show Mirrors capacity (written ++ []) s
      rw [List.append_nil]
      exact h
  | takeNotice =>
      show Mirrors capacity (written ++ []) { s with changed := false }
      rw [List.append_nil]
      exact ⟨h.capacity_eq, h.nodup, h.fits, h.values⟩
  | write key value =>
      show Mirrors capacity (written ++ s.stored (.write key value)) (s.write key value).2
      rcases s.write_cases key value with
        ⟨present, hget, hagrees, hwrite⟩ | ⟨present, hget, -, hwrite⟩ | ⟨hget, hroom, hwrite⟩ |
          ⟨-, -, hwrite⟩
      · rw [stored_of_ok (congrArg Prod.fst hwrite), hwrite]
        exact h.agreed hget hagrees
      · rw [stored_of_ok (congrArg Prod.fst hwrite), hwrite]
        refine h.store rfl ?_ ?_ (get?_replace hget value)
        · rw [names_replace]
          exact h.nodup
        · rw [← length_names, names_replace, length_names]
          exact h.fits
      · rw [stored_of_ok (congrArg Prod.fst hwrite), hwrite]
        refine h.store rfl ?_ ?_ (get?_append hget value)
        · exact nodup_names_append h.nodup (SettingTable.get?_eq_none.mp hget) value true
        · show (s.entries ++ [(key, value)]).length ≤ capacity
          rw [List.length_append, ← h.capacity_eq]
          exact hroom
      · rw [stored_of_error (congrArg Prod.fst hwrite), hwrite, List.append_nil]
        exact h

end Mirrors

/-- **Every list of calls.** -/
theorem mirrors_afterAll (capacity : Nat) (calls : List TableCall) :
    Mirrors capacity ((empty capacity).written calls) ((empty capacity).afterAll calls) := by
  induction calls using List.reverseRecOn with
  | nil => exact mirrors_empty capacity
  | append_singleton calls call ih =>
      rw [written_append, afterAll_append]
      exact ih.after call

/-! ## Notice of changes -/

/-- A write changes what is stored if it succeeds under a new name, or with a value that
does not equal the one there. -/
def Changes (key : UInt8) (value : Setting) (s : SettingTable) : Prop :=
  (s.write key value).1 = .ok () ∧
    ∀ present, s.read key = .ok present → present.agrees value = false

/-- Some write among the calls, since the last notice was taken, has changed what is
stored. -/
def ChangedSince (calls : List TableCall) (s : SettingTable) : Prop :=
  ∃ earlier key value later, calls = earlier ++ .write key value :: later ∧
    .takeNotice ∉ later ∧ (s.afterAll earlier).Changes key value

theorem changed_write (key : UInt8) (value : Setting) (s : SettingTable) :
    (s.write key value).2.changed = true ↔ s.Changes key value ∨ s.changed = true := by
  unfold Changes
  rcases s.write_cases key value with
    ⟨present, hget, hagrees, hwrite⟩ | ⟨present, hget, hagrees, hwrite⟩ | ⟨hget, -, hwrite⟩ |
      ⟨-, -, hwrite⟩
  · simp [hwrite, read_eq_ok, hget, hagrees]
  · simp [hwrite, read_eq_ok, hget, hagrees, replace]
  · simp [hwrite, read_eq_ok, hget]
  · simp [hwrite]

/-- The last of some calls is such a write, or does not take the notice of one before. -/
theorem changedSince_append (calls : List TableCall) (call : TableCall) (s : SettingTable) :
    s.ChangedSince (calls ++ [call]) ↔
      (∃ key value, call = .write key value ∧ (s.afterAll calls).Changes key value) ∨
        call ≠ .takeNotice ∧ s.ChangedSince calls := by
  constructor
  · rintro ⟨earlier, key, value, later, hcalls, hnotice, hchanges⟩
    rcases later.eq_nil_or_concat with rfl | ⟨before, last, rfl⟩
    · obtain ⟨rfl, hcall⟩ := List.append_inj' hcalls rfl
      rw [List.cons.injEq] at hcall
      exact .inl ⟨key, value, hcall.1, hchanges⟩
    · rw [List.concat_eq_append, ← List.cons_append, ← List.append_assoc] at hcalls
      obtain ⟨rfl, hcall⟩ := List.append_inj' hcalls rfl
      rw [List.cons.injEq] at hcall
      rw [List.concat_eq_append, List.mem_append, not_or, List.mem_singleton, ← hcall.1] at hnotice
      exact .inr ⟨Ne.symm hnotice.2, earlier, key, value, before, rfl, hnotice.1, hchanges⟩
  · rintro (⟨key, value, rfl, hchanges⟩ |
      ⟨hcall, earlier, key, value, later, rfl, hnotice, hchanges⟩)
    · exact ⟨calls, key, value, [], rfl, List.not_mem_nil, hchanges⟩
    · refine ⟨earlier, key, value, later ++ [call], ?_, ?_, hchanges⟩
      · rw [List.append_assoc, List.cons_append]
      · rw [List.mem_append, List.mem_singleton]
        rintro (hlater | hlast)
        · exact hnotice hlater
        · exact hcall hlast.symm

theorem changed_afterAll (capacity : Nat) (calls : List TableCall) :
    ((empty capacity).afterAll calls).changed = true ↔ (empty capacity).ChangedSince calls := by
  induction calls using List.reverseRecOn with
  | nil =>
      constructor
      · exact nofun
      · rintro ⟨earlier, key, value, later, hcalls, -⟩
        simp at hcalls
  | append_singleton calls call ih =>
      rw [afterAll_append, changedSince_append, ← ih]
      cases call with
      | write key value =>
          refine (changed_write key value _).trans ?_
          simp
      | read key =>
          show ((empty capacity).afterAll calls).changed = true ↔ _
          simp
      | takeNotice =>
          show false = true ↔ _
          simp

end SettingTable

/-- **A table is a bounded map.** Whatever calls are made to a table that was empty, it
holds each name once and no more names than its capacity, as many as there are names that
were written. A name is absent exactly if no write of it has succeeded; otherwise it
reads as the value it was given last, or as one equal to that, and as the same if that
is a NaN. A write fails exactly for a new name when the table holds as many others as its
capacity, and then changes nothing; one that succeeds leaves what other names read as.
Notice is given exactly if, since it was last taken, some write added a name or replaced
a value by one not equal to it. -/
theorem table_is_bounded_map (capacity : Nat) (calls : List TableCall) :
    let table := (SettingTable.empty capacity).afterAll calls
    let written := (SettingTable.empty capacity).written calls
    table.names.Nodup ∧ table.size ≤ capacity ∧
    table.size = (written.map (·.1)).toFinset.card ∧
    (∀ key, table.read key = .error .absent ↔ ∀ value, (key, value) ∉ written) ∧
    (∀ key earlier value later, written = earlier ++ (key, value) :: later →
      key ∉ later.map (·.1) →
      ∃ stored, table.read key = .ok stored ∧ (stored = value ∨ stored.agrees value = true) ∧
        ∀ x, value = .number x → x.isNaN = true → stored = value) ∧
    (∀ key value, (table.write key value).1 = .error .full ↔
      key ∉ table.names ∧ table.size = capacity) ∧
    (∀ key value, (table.write key value).1 = .ok () ∨
      table.write key value = (.error .full, table)) ∧
    (∀ key value name, name ≠ key → (table.write key value).2.read name = table.read name) ∧
    ((SettingStore.takeNotice table).1 = true ↔
      ∃ earlier key value later, calls = earlier ++ .write key value :: later ∧
        .takeNotice ∉ later ∧
        let before := (SettingTable.empty capacity).afterAll earlier
        (before.write key value).1 = .ok () ∧
          ∀ present, before.read key = .ok present → present.agrees value = false) := by
  intro table written
  have hmirrors : table.Mirrors capacity written := SettingTable.mirrors_afterAll capacity calls
  refine ⟨hmirrors.nodup, hmirrors.fits, hmirrors.size_eq, fun key => ?absent,
    fun key earlier value later hwritten hlater => ?present, fun key value => ?full,
    fun key value => ?outcome, fun key value name hne => ?others,
    SettingTable.changed_afterAll capacity calls⟩
  case absent =>
    rw [SettingTable.read_eq_absent, hmirrors.get?_eq_none, latest_eq_none]
    simp
  case present =>
    obtain ⟨stored, hget, hmatches⟩ := hmirrors.get?_of_latest
      ((congrArg (latest key) hwritten).trans (latest_of_split hlater earlier value))
    refine ⟨stored, SettingTable.read_eq_ok.mpr hget, hmatches, fun x hx nan => ?_⟩
    rw [hx] at hmatches ⊢
    exact hmatches.eq_of_isNaN nan
  case full =>
    rw [SettingTable.write_eq_full, SettingTable.get?_eq_none, hmirrors.capacity_eq]
    have hfits := hmirrors.fits
    refine and_congr_right fun _ => ?_
    omega
  case outcome =>
    rcases table.write_cases key value with
      ⟨_, -, -, hwrite⟩ | ⟨_, -, -, hwrite⟩ | ⟨-, -, hwrite⟩ | ⟨-, -, hwrite⟩
    · exact .inl (congrArg Prod.fst hwrite)
    · exact .inl (congrArg Prod.fst hwrite)
    · exact .inl (congrArg Prod.fst hwrite)
    · exact .inr hwrite
  case others => simp only [SettingTable.read, SettingTable.get?_write hne]

end XYStage
