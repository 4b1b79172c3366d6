/-
# XYStage.Bench.Sensors -- temperature sensors with fixed answers
-/
import XYStage.Board.Converter

namespace XYStage

set_option autoImplicit false

/-- What the bench answers for one sensor. -/
inductive BenchReading where
  | celsius (value : Single)
  | failed (error : ReadingError)
  /-- The temperature that follows from a converter reading under a pull-up. -/
  | divider (raw : UInt16) (pullup : UInt32)

/-- Sensors with one answer each, and a note of which were asked for. -/
structure BenchSensors where
  readings : List BenchReading
  /-- The sensors asked for, in order. -/
  asked : List UInt8

namespace BenchSensors

def read (sensor : UInt8) (t : Thermistor) (p : BenchSensors) : Except ReadingError Single :=
  match p.readings[sensor.toNat]? with
  | none => .error .notFitted
  | some (.celsius value) => .ok value
  | some (.failed error) => .error error
  | some (.divider raw pullup) =>
      match dividerResistance raw pullup converterRange with
      | .error e => .error e
      | .ok resistance => t.celsius resistance

instance : TemperatureSource BenchSensors where
  read sensor t p := (p.read sensor t, { p with asked := p.asked ++ [sensor] })

end BenchSensors

end XYStage
