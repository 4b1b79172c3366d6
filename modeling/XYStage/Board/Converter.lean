/-
# XYStage.Board.Converter -- temperature channels on the converter

Sensor `n` of the wire is channel `n` of the converter. The first four read
thermistors behind a pull-up, the last reads the temperature of the chip itself.
-/
import XYStage.Temperature.Source

namespace XYStage

set_option autoImplicit false

/-- A channel of the converter. -/
inductive ConverterChannel where
  | input0
  | input1
  | input2
  | input3
  /-- The sensor on the chip. -/
  | chip
  deriving DecidableEq

namespace ConverterChannel

def ofSensor? (sensor : UInt8) : Option ConverterChannel :=
  if sensor = 0 then some .input0
  else if sensor = 1 then some .input1
  else if sensor = 2 then some .input2
  else if sensor = 3 then some .input3
  else if sensor = 4 then some .chip
  else none

def index : ConverterChannel → Fin channelCount
  | .input0 => 0
  | .input1 => 1
  | .input2 => 2
  | .input3 => 3
  | .chip => 4

/-- The pin of a channel, if it has one. -/
def pin? : ConverterChannel → Option Nat
  | .input0 => some 26
  | .input1 => some 27
  | .input2 => some 28
  | .input3 => some 29
  | .chip => none

end ConverterChannel

/-- Full scale of the converter. -/
def converterRange : UInt16 := 4096

/-- The temperature of the chip, in degrees Celsius, from a converter reading of
its sensor at a reference of 3.3 V. -/
def chipTemperature (raw : UInt16) : Single :=
  let volts := Single.ofInt raw.toNat * 3.3 / Single.ofInt converterRange.toNat
  27.0 - (volts - 0.706) / 0.001721

/-- The channels of the board, by what their conversions give; a conversion that
fails gives nothing. -/
structure ChannelBank where
  conversions : Vector (Option UInt16) channelCount
  /-- Ohms between the supply and each thermistor. -/
  pullup : UInt32

namespace ChannelBank

/-- Ohms between the supply and each thermistor, unless fitted otherwise. -/
def defaultPullup : UInt32 := 4700

/-- One channel in degrees Celsius. The sensor on the chip has no constants. -/
def read (sensor : UInt8) (t : Thermistor) (bank : ChannelBank) : Except ReadingError Single :=
  match ConverterChannel.ofSensor? sensor with
  | none => .error .notFitted
  | some channel =>
      match bank.conversions[channel.index] with
      | none => .error .conversionFailed
      | some raw =>
          if channel = .chip then .ok (chipTemperature raw)
          else
            match dividerResistance raw bank.pullup converterRange with
            | .error e => .error e
            | .ok resistance => t.celsius resistance

instance : TemperatureSource ChannelBank where
  read sensor t bank := (bank.read sensor t, bank)

end ChannelBank

end XYStage
