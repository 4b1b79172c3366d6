/-
# XYStage.Calibration.Setting -- settings and a store for them

Calibration values are kept as settings, numbers or flags, under one-byte names. A
store answers reads and writes, either of which may fail, and tells once after a
change that there has been one. `SettingTable` keeps a bounded number of names in
the order of their first writes; a write of an equal value is not a change, where
equality is that of numbers (`Setting.agrees`): a NaN never equals what is stored.
-/
import XYStage.Ieee.Single

namespace XYStage

set_option autoImplicit false

/-- A stored value: a number or a flag. -/
inductive Setting where
  | number (value : Single)
  | flag (value : Bool)
  deriving DecidableEq

namespace Setting

/-- The value as a number; a set flag is one. -/
def toSingle : Setting → Single
  | .number value => value
  | .flag true => 1
  | .flag false => 0

/-- The value as a flag; any number but zero is set. -/
def toBool : Setting → Bool
  | .number value => !value.equals 0
  | .flag value => value

/-- Equality of values: numbers compare as numbers, and a number never equals a
flag. -/
def agrees : Setting → Setting → Bool
  | .number a, .number b => a.equals b
  | .flag a, .flag b => a == b
  | _, _ => false

end Setting

/-- Why a store failed. -/
inductive StoreFailure where
  /-- No value under this name. -/
  | absent
  /-- No room for another name. -/
  | full
  /-- The storage underneath failed. -/
  | failed
  deriving DecidableEq

def StoreFailure.message : StoreFailure → String
  | .absent => "calibration key not found"
  | .full => "calibration store full"
  | .failed => "calibration storage failure"

/-- Named settings with notice of changes, over states `σ`. -/
class SettingStore (σ : Type) where
  read : UInt8 → σ → Except StoreFailure Setting × σ
  write : UInt8 → Setting → σ → Except StoreFailure Unit × σ
  /-- Whether a value has changed since the last call. -/
  takeNotice : σ → Bool × σ

/-- A store in memory. -/
structure SettingTable where
  /-- Most names the store can hold. -/
  capacity : Nat
  /-- The names with their values, the first written first. -/
  entries : List (UInt8 × Setting)
  changed : Bool
  deriving DecidableEq

namespace SettingTable

def empty (capacity : Nat) : SettingTable := ⟨capacity, [], false⟩

/-- Number of stored names. -/
def size (s : SettingTable) : Nat :=
  s.entries.length

def isEmpty (s : SettingTable) : Bool :=
  decide (s.size = 0)

/-- The value under a name. -/
def get? (key : UInt8) (s : SettingTable) : Option Setting :=
  (s.entries.find? (·.1 = key)).map (·.2)

def read (key : UInt8) (s : SettingTable) : Except StoreFailure Setting :=
  match s.get? key with
  | some value => .ok value
  | none => .error .absent

/-- Replace the value of a name that is present. -/
def replace (key : UInt8) (value : Setting) (s : SettingTable) : SettingTable :=
  { s with
    entries := s.entries.map fun entry => if entry.1 = key then (key, value) else entry
    changed := true }

def write (key : UInt8) (value : Setting) (s : SettingTable) :
    Except StoreFailure Unit × SettingTable :=
  match s.get? key with
  | some stored => (.ok (), if stored.agrees value then s else s.replace key value)
  | none =>
      if s.size < s.capacity then
        (.ok (), { s with entries := s.entries ++ [(key, value)], changed := true })
      else (.error .full, s)

instance : SettingStore SettingTable where
  read key s := (s.read key, s)
  write := write
  takeNotice s := (s.changed, { s with changed := false })

end SettingTable

end XYStage
