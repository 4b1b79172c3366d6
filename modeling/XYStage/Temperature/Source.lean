/-
# XYStage.Temperature.Source -- reading every channel

A source answers for one channel at a time. `measureAll` asks it for the channels
in use, in order, and puts a NaN where a channel is not in use or fails.
-/
import XYStage.Temperature.Thermistor
import XYStage.Wire.Message

namespace XYStage

set_option autoImplicit false

/-- Temperature channels, over states `π`. -/
class TemperatureSource (π : Type) where
  /-- One channel in degrees Celsius, by its constants. -/
  read : UInt8 → Thermistor → π → Except ReadingError Single × π

variable {π : Type} [TemperatureSource π]

/-- The reading of one channel, or NaN. The source is not asked about a channel
that is not in use. -/
def measureOrNaN (sensor : UInt8) (t : Thermistor) (sensors : π) : Single × π :=
  if t.enabled then
    match TemperatureSource.read sensor t sensors with
    | (.ok celsius, sensors) => (celsius, sensors)
    | (.error _, sensors) => (.nan, sensors)
  else (.nan, sensors)

/-- Every channel in order, each by its constants. -/
def measureAll (c : Calibration) (sensors : π) : Temperatures × π :=
  let (t0, sensors) := measureOrNaN 0 c.thermistors[0] sensors
  let (t1, sensors) := measureOrNaN 1 c.thermistors[1] sensors
  let (t2, sensors) := measureOrNaN 2 c.thermistors[2] sensors
  let (t3, sensors) := measureOrNaN 3 c.thermistors[3] sensors
  let (t4, sensors) := measureOrNaN 4 c.thermistors[4] sensors
  (#v[t0, t1, t2, t3, t4], sensors)

end XYStage
