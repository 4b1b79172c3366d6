/-
# XYStage.Temperature.Thermistor -- from a divider reading to degrees

A thermistor is the lower arm of a divider under a pull-up. Its resistance
follows from the converter reading (`dividerResistance`); readings close to
either end of the range mean broken wiring. The temperature follows from the
resistance by the Steinhart-Hart equation `1/T = a + b ln R + c (ln R)³`
(`Thermistor.celsius`).
-/
import XYStage.Calibration.Basic
import XYStage.Ieee.Logarithm

namespace XYStage

set_option autoImplicit false

/-- Why a channel has no reading. -/
inductive ReadingError where
  /-- The channel is not in use. -/
  | disabled
  /-- No sensor is wired to the channel. -/
  | notFitted
  /-- The sensor is disconnected. -/
  | openCircuit
  /-- The sensor is shorted to ground. -/
  | shortCircuit
  /-- The conversion failed or makes no sense. -/
  | conversionFailed
  deriving DecidableEq

def ReadingError.message : ReadingError → String
  | .disabled => "channel disabled"
  | .notFitted => "no sensor fitted"
  | .openCircuit => "sensor open circuit"
  | .shortCircuit => "sensor short circuit"
  | .conversionFailed => "ADC conversion failed"

/-- Readings this close to an end of the range are a wiring fault. -/
def wiringMargin : Nat := 10

/-- The resistance in ohms at a converter reading under a pull-up. -/
def dividerResistance (reading : UInt16) (pullup : UInt32) (fullScale : UInt16) :
    Except ReadingError Single :=
  if fullScale.toNat - wiringMargin ≤ reading.toNat then .error .openCircuit
  else if reading.toNat < wiringMargin then .error .shortCircuit
  else
    let rest : Nat := fullScale.toNat - reading.toNat
    .ok (Single.ofUInt32 pullup * Single.ofInt reading.toNat / Single.ofInt rest)

/-- The temperature in degrees Celsius at a resistance in ohms. -/
def Thermistor.celsius (t : Thermistor) (resistance : Single) : Except ReadingError Single :=
  if 0 < resistance then
    let ln := resistance.ln
    let inverse := t.a + t.b * ln + t.c * ln * ln * ln
    if 0 < inverse then .ok (1 / inverse - 273.15) else .error .conversionFailed
  else .error .conversionFailed

end XYStage
