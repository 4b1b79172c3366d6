/-
# XYStage.Setup.Document -- configuration documents

A board configuration is a tree of tables, arrays and plain values. The entries
of a table have distinct keys and are listed by the order of their keys.

The integers of a document have 64 bits. Here they are unbounded, so what holds of every
document holds of more than there are: an integer is only ever compared with bounds far
inside 64 bits or rounded to the nearest double. Dates and times are a kind of their own.
No field of a board configuration is one, so only their text is kept.
-/
import XYStage.Ieee.Double

namespace XYStage

set_option autoImplicit false

namespace Setup

/-- A value of a configuration document. -/
inductive Value where
  | integer (value : Int)
  | float (value : Double)
  | boolean (value : Bool)
  | string (value : String)
  | datetime (text : String)
  | array (items : List Value)
  | table (entries : List (String × Value))

namespace Value

/-- A table of entries in any order. -/
def ofEntries (entries : List (String × Value)) : Value :=
  .table (entries.mergeSort fun a b => decide (a.1 ≤ b.1))

/-- The value under a key, if this is a table that has it. -/
def get? (key : String) : Value → Option Value
  | .table entries => (entries.find? (·.1 = key)).map (·.2)
  | _ => none

end Value

/-- The number nearest to a plain number, in double precision. -/
def Value.double? : Value → Option Double
  | .float value => some value
  | .integer value => some (Double.ofInt value)
  | _ => none

end Setup

end XYStage
