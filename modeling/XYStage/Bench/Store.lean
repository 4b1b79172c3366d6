/-
# XYStage.Bench.Store -- a calibration store with failures on demand
-/
import XYStage.Calibration.Setting

namespace XYStage

set_option autoImplicit false

/-- A store in memory whose accesses can be made to fail. -/
structure BenchStore where
  memory : SettingTable
  /-- A name whose reads fail, and how. -/
  failRead : Option (UInt8 × StoreFailure)
  /-- How every write fails, if it does. -/
  failWrite : Option StoreFailure

namespace BenchStore

def read (key : UInt8) (s : BenchStore) : Except StoreFailure Setting :=
  match s.failRead with
  | some (failing, error) => if key = failing then .error error else s.memory.read key
  | none => s.memory.read key

def write (key : UInt8) (value : Setting) (s : BenchStore) :
    Except StoreFailure Unit × BenchStore :=
  match s.failWrite with
  | some error => (.error error, s)
  | none =>
      let (result, memory) := s.memory.write key value
      (result, { s with memory })

instance : SettingStore BenchStore where
  read key s := (s.read key, s)
  write := write
  takeNotice s := (s.memory.changed, { s with memory := { s.memory with changed := false } })

/-- A store of the given capacity after the given writes, whose failures do not
matter. -/
def filled (capacity : Nat) (writes : List (UInt8 × Setting)) : BenchStore where
  memory := writes.foldl (fun memory (key, value) => (memory.write key value).2) (.empty capacity)
  failRead := none
  failWrite := none

end BenchStore

end XYStage
