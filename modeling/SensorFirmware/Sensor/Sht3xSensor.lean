import SensorFirmware.Errors.ErrorManager
import SensorFirmware.Library.Words

/-!
# SHT3x sensor

The checksum of the sensor, the decoding of a measurement payload and the
conversion of raw words to hundredths.
-/

namespace SensorFirmware

open BigEndian

/-- What the bus answers in one processing cycle: the status of a trigger, the
status of a read and the six bytes that the read delivers. -/
structure I2cReply where
  triggerStatus : I2cStatus
  readStatus : I2cStatus
  frame : Vector UInt8 6
  deriving DecidableEq

namespace Sht3xSensor

/-- One bit of `crc8`. -/
def crc8Bit (crc : UInt8) : UInt8 :=
  if crc &&& 0x80 ≠ 0 then (crc <<< 1) ^^^ 0x31 else crc <<< 1

/-- `crc8`. -/
def crc8 (data : List UInt8) : UInt8 :=
  data.foldl (fun crc byte => countedLoop (fun _ crc => crc8Bit crc) 8 (crc ^^^ byte)) 0xFF

/-- `Sht3xSensor::readMeasurement`: the raw temperature and humidity, or the
status of the failure. -/
def readMeasurement (reply : I2cReply) : Except I2cStatus (UInt16 × UInt16) :=
  let byte := FixedArray.read reply.frame
  if reply.readStatus ≠ I2cStatus.ok then .error reply.readStatus
  else if crc8 [byte 0, byte 1] ≠ byte 2 ∨ crc8 [byte 3, byte 4] ≠ byte 5 then
    .error I2cStatus.busError
  else .ok (word (byte 0) (byte 1), word (byte 3) (byte 4))

/-- `Sht3xSensor::temperatureX100`. -/
def temperatureX100 (raw : UInt16) : Int :=
  Int.tdiv (17500 * raw.toNat) 65535 - 4500

/-- `Sht3xSensor::humidityX100`. -/
def humidityX100 (raw : UInt16) : Int :=
  10000 * raw.toNat / 65535

end Sht3xSensor

end SensorFirmware
