import SensorFirmware.Config.Types
import SensorFirmware.Errors.ErrorManager
import SensorFirmware.Library.Crc
import SensorFirmware.Modbus.Registers

/-!
# Device state

The members of `ModbusService` together with what its functions reach: the
global configuration records and save flags, the error manager, the baud rate
of the UART and the responses handed to it.
-/

namespace SensorFirmware

/-- The build date and time that the compiler puts into the image. -/
structure BuildInfo where
  buildYear : UInt32
  buildMonth : UInt32
  buildDay : UInt32
  buildHour : UInt32
  buildMin : UInt32
  buildSec : UInt32
  deriving DecidableEq

/-- The build numbers of a unit test image. -/
def BuildInfo.unitTest : BuildInfo where
  buildYear := 0
  buildMonth := 0
  buildDay := 0
  buildHour := 0
  buildMin := 0
  buildSec := 0

/-- Members of `ModbusService`. -/
structure ModbusService (D : Type) where
  bank : RegisterBank
  frameQueue : FrameQueue
  rxScratch : Vector UInt8 256
  responseScratch : Vector UInt8 256
  frameScratch : FrameItem
  sensorScratch : SensorStruct D
  alarmScratch : Vector (AlarmStruct D) 4
  alarmThresholdScratch : Vector UInt16 4
  slaveAddress : UInt8
  tempVal : Int16
  humVal : Int16
  deriving DecidableEq

/-- The state that the functions of `ModbusService` read and write. -/
structure Device (D : Type) where
  modbus : ModbusService D
  errors : ErrorManager
  deviceConfig : SettingsStruct
  sensor : SensorStruct D
  saveDevSettings : UInt8
  saveSensorInfo : UInt8
  baudRate : UInt16
  /-- Responses handed to `UartDriver::send`, oldest first. -/
  transmitted : List (List UInt8)
  build : BuildInfo
  deriving DecidableEq

namespace ModbusService

/-- The constructor. -/
def construct [DoubleArith D] : ModbusService D where
  bank := RegisterBank.zero
  frameQueue := FrameQueue.zero
  rxScratch := zeroBytes 256
  responseScratch := zeroBytes 256
  frameScratch := FrameItem.zero
  sensorScratch := SensorStruct.zero
  alarmScratch := Vector.replicate 4 AlarmStruct.zero
  alarmThresholdScratch := Vector.replicate 4 0
  slaveAddress := 1
  tempVal := 250
  humVal := 600

/-- `ModbusService::crc16`. -/
def crc16 (buffer : List UInt8) : UInt16 :=
  ReflectedCrc.checksum 0xA001 0xFFFF buffer

/-- The two CRC bytes that end a frame, low byte first. -/
def crcBytes (buffer : List UInt8) : List UInt8 :=
  [BigEndian.lowByte (crc16 buffer), BigEndian.highByte (crc16 buffer)]

@[simp] theorem length_crcBytes (buffer : List UInt8) :
    (crcBytes buffer).length = 2 := rfl

end ModbusService

namespace Device

/-- `holdingRegs_[reg]`. -/
def holding (dev : Device D) (reg : Nat) : UInt16 := dev.modbus.bank.holding reg

/-- `inputRegs_[reg]`. -/
def input (dev : Device D) (reg : Nat) : UInt16 := dev.modbus.bank.input reg

/-- Apply a change to the register arrays. -/
def updateBank (dev : Device D) (change : RegisterBank → RegisterBank) : Device D :=
  { dev with modbus := { dev.modbus with bank := change dev.modbus.bank } }

/-- `setHoldingRegisterInternal`, behind the public `setHoldingRegister`. -/
def setHoldingRegister (dev : Device D) (reg : Nat) (value : UInt16) : Device D :=
  dev.updateBank fun bank =>
    if reg < holdingRegSize then bank.setHolding reg value else bank

/-- `getHoldingRegisterInternal`, behind the public `holdingRegister`. -/
def holdingRegister (dev : Device D) (reg : Nat) : UInt16 :=
  if reg < holdingRegSize then
    if reg = regBaudRate then dev.baudRate / 100
    else dev.holding reg
  else 0

/-- `setInputRegisterInternal`, behind the public `setInputRegister`. -/
def setInputRegister (dev : Device D) (reg : Nat) (value : UInt16) : Device D :=
  dev.updateBank fun bank =>
    if reg < holdingRegSize then bank.setInput reg value else bank

/-- `getInputRegisterInternal`, behind the public `inputRegister`. -/
def inputRegister (dev : Device D) (reg : Nat) : UInt16 :=
  if reg < holdingRegSize then dev.input reg else 0

/-- `UartDriver::send`: an empty or oversized response is refused. -/
def send (dev : Device D) (data : List UInt8) : Device D :=
  { dev with
    transmitted :=
      if data.length = 0 ∨ 256 < data.length then dev.transmitted
      else dev.transmitted ++ [data] }

/-! ## What the elementary steps leave alone -/

section

variable (dev : Device D) (change : RegisterBank → RegisterBank)
variable (reg : Nat) (data : List UInt8)

@[simp] theorem updateBank_bank :
    (dev.updateBank change).modbus.bank = change dev.modbus.bank := rfl

@[simp] theorem updateBank_holding :
    (dev.updateBank change).holding reg = (change dev.modbus.bank).holding reg := rfl

@[simp] theorem updateBank_input :
    (dev.updateBank change).input reg = (change dev.modbus.bank).input reg := rfl

@[simp] theorem updateBank_errors :
    (dev.updateBank change).errors = dev.errors := rfl

@[simp] theorem updateBank_deviceConfig :
    (dev.updateBank change).deviceConfig = dev.deviceConfig := rfl

@[simp] theorem updateBank_sensor :
    (dev.updateBank change).sensor = dev.sensor := rfl

@[simp] theorem updateBank_transmitted :
    (dev.updateBank change).transmitted = dev.transmitted := rfl

@[simp] theorem updateBank_slaveAddress :
    (dev.updateBank change).modbus.slaveAddress = dev.modbus.slaveAddress := rfl

@[simp] theorem updateBank_tempVal :
    (dev.updateBank change).modbus.tempVal = dev.modbus.tempVal := rfl

@[simp] theorem updateBank_baudRate :
    (dev.updateBank change).baudRate = dev.baudRate := rfl

@[simp] theorem setInputRegister_holding (value : UInt16) (other : Nat) :
    (dev.setInputRegister reg value).holding other = dev.holding other := by
  rw [setInputRegister, updateBank_holding]
  split
  · rfl
  · rfl

theorem setInputRegister_inputRegister (value : UInt16) (other : Nat) :
    (dev.setInputRegister reg value).inputRegister other =
      if other = reg ∧ reg < holdingRegSize then value else dev.inputRegister other := by
  by_cases inArray : reg < holdingRegSize
  · simp only [inputRegister, setInputRegister, updateBank_input, inArray, if_true,
      RegisterBank.input_setInput, and_true]
    by_cases same : other = reg
    · simp only [same, inArray, if_true]
    · simp only [same, if_false, input]
  · simp only [inputRegister, setInputRegister, inArray, if_false, and_false]
    rfl

@[simp] theorem send_modbus : (dev.send data).modbus = dev.modbus := rfl

@[simp] theorem send_holding :
    (dev.send data).holding reg = dev.holding reg := rfl

@[simp] theorem send_input :
    (dev.send data).input reg = dev.input reg := rfl

@[simp] theorem send_errors : (dev.send data).errors = dev.errors := rfl

@[simp] theorem send_deviceConfig :
    (dev.send data).deviceConfig = dev.deviceConfig := rfl

@[simp] theorem send_sensor : (dev.send data).sensor = dev.sensor := rfl

@[simp] theorem send_baudRate : (dev.send data).baudRate = dev.baudRate := rfl

/-- A response of a legal length is transmitted. -/
theorem send_transmitted
    (nonempty : 0 < data.length)
    (fits : data.length ≤ 256) :
    (dev.send data).transmitted = dev.transmitted ++ [data] := by
  have legal : ¬ (data.length = 0 ∨ 256 < data.length) := by omega
  simp only [send, if_neg legal]

end

end Device

end SensorFirmware
