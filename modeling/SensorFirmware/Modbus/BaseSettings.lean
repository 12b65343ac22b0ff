import SensorFirmware.Library.Flags
import SensorFirmware.Modbus.Device

/-!
# The base settings command

`ModbusService::saveBaseSettings` validates the slave id and decodes the other
words of the package straight into the live configuration.
-/

namespace SensorFirmware

open BigEndian

section

variable (data : Nat → UInt16) (len : UInt8)

/-- The slave id of a package is one that Modbus allows. -/
def BaseIdValid : Prop := 0 < data 0 ∧ data 0 ≤ 247

instance : Decidable (BaseIdValid data) := inferInstanceAs (Decidable (_ ∧ _))

variable {data} in
/-- A legal id survives the conversion to a byte. -/
theorem BaseIdValid.narrowed
    (valid : BaseIdValid data) :
    (data 0).toUInt8.toUInt16 = data 0 := by
  have bound : (data 0).toNat ≤ 247 := UInt16.le_iff_toNat_le.mp valid.2
  apply UInt16.toNat.inj
  rw [UInt8.toNat_toUInt16, UInt16.toNat_toUInt8]
  omega

/-- The transmitter configuration bits, in the order the source updates them.
The group behind word 47 also asks for a valid slave id. -/
def decodeConfigReg (ok : UInt8) (configReg : UInt16) : UInt16 :=
  let reg := configReg &&&
    ~~~(testDueFltInhibit ||| zeroSuppressionEn ||| relayCardInstalled |||
      rs485FltInhibit)
  let reg := setBitIf (data 29 = 1) testDueFltInhibit reg
  let reg := setBitIf (data 30 = 1) zeroSuppressionEn reg
  let reg := setBitIf (data 41 = 1) rs485FltInhibit reg
  let reg := setBitIf (data 42 = 1) relayCardInstalled reg
  let reg :=
    if 47 ≤ len then
      let reg := reg &&& ~~~(batteryFltInhibit ||| callDueFltInhibit)
      let reg := setBitIf (data 45 = 1) callDueFltInhibit reg
      setBitIf (data 46 = 1) batteryFltInhibit reg
    else reg
  let reg :=
    if 51 ≤ len ∧ ok = 1 then
      setBitIf (data 47 = 1) anlgOutFltAutoReset (reg &&& ~~~anlgOutFltAutoReset)
    else reg
  if 53 ≤ len then
    if data 52 ≠ 0 then reg ||| overRangeAutoReset
    else reg &&& ~~~overRangeAutoReset
  else reg

/-- The display language nibble with the display switch. -/
def decodeDisplay : UInt16 :=
  setBitIf (data 40 = 1) displayOn (data 39 &&& 0x0F).toUInt8.toUInt16

/-- The baud rate, high word first. -/
def decodeBaudrate : UInt32 :=
  ((data 43).toUInt32 <<< 16) ||| (data 44).toUInt32

/-- The configuration after the writes of `saveBaseSettings`. -/
def decodeBaseSettings (ok : UInt8) (config : SettingsStruct) : SettingsStruct :=
  { config with
    id := if BaseIdValid data then (data 0).toUInt8.toUInt16 else config.id
    baseSerNum := storeWords config.baseSerNum (fun i => data (1 + i)) 4
    location :=
      FixedArray.write (storeWords config.location (fun i => data (13 + i)) 12) 24 0
    configReg := decodeConfigReg data len ok config.configReg
    manDateYear := (data 31).toUInt8.toUInt16
    manDateMonth := (data 32).toUInt8.toUInt16
    analogOutLev :=
      countedLoop (fun i levels => FixedArray.write levels i (data (33 + i)).toUInt8) 6
        config.analogOutLev
    display := decodeDisplay data
    baudrate := decodeBaudrate data }

end

namespace Device

/-- `ModbusService::saveBaseSettings`. -/
def saveBaseSettings (dev : Device D) (data : Option (Nat → UInt16))
    (len : UInt8) : UInt8 × Device D :=
  match data with
  | none => (0, dev)
  | some data =>
      if len < 45 then (0, dev)
      else
        let ok : UInt8 := if BaseIdValid data then 1 else 0
        (ok,
          { dev with
            deviceConfig := decodeBaseSettings data len ok dev.deviceConfig
            modbus :=
              { dev.modbus with
                slaveAddress :=
                  if BaseIdValid data then (data 0).toUInt8
                  else dev.modbus.slaveAddress }
            saveDevSettings := if ok ≠ 0 then 1 else dev.saveDevSettings })

end Device

end SensorFirmware
