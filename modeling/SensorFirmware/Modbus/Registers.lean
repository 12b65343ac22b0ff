import SensorFirmware.Library.FixedArray
import SensorFirmware.Library.Words

/-!
# Modbus registers and frames

The constants of `modbus_rtu.h`, the received frame and the two register
arrays.  Register addresses are plain array indices; the names are simplified
to their numbers.
-/

namespace SensorFirmware

/-! ## Constants -/

/-- `HOLDING_REG_SIZE`, also the number of input registers. -/
@[simp, reducible] def holdingRegSize : Nat := 128

/-- `FRAME_QUEUE_SIZE`. -/
@[reducible] def frameQueueSize : Nat := 10

/-! Function codes and exception codes. -/

def fcReadHolding : UInt8 := 0x03
def fcReadInput : UInt8 := 0x04
def fcWriteSingleReg : UInt8 := 0x06
def fcWriteMultipleRegs : UInt8 := 0x10

def modbusErrIllegalFunction : UInt8 := 0x01
def modbusErrIllegalDataAddr : UInt8 := 0x02

/-! Commands (`eModbusCmd`) that `runCommand` knows. -/

def setSensorData : UInt16 := 0x7327
def setDetectorData : UInt16 := 0x7372
def setTimeDate : UInt16 := 0x3607
def resetDetector : UInt16 := 0x3482

/-! Command registers (`eHoldingRegisterId`). -/

@[simp] def commandCode : Nat := 0x01
@[simp] def commandArg1 : Nat := 0x02

/-! Register addresses (`Reg_Table`) that the modelled code uses. -/

@[simp] def regTypeReg : Nat := 0x00
@[simp] def regSensorStatus : Nat := 0x05
@[simp] def regGasConctValue : Nat := 0x06
@[simp] def regTempValue : Nat := 0x0B
@[simp] def regInVolValue : Nat := 0x0C
@[simp] def regDateYearMon : Nat := 0x0F
@[simp] def regDateDay : Nat := 0x10
@[simp] def regTimeHourMin : Nat := 0x11
@[simp] def regTimeSec : Nat := 0x12
@[simp] def regAlarmFlags : Nat := 0x19
@[simp] def regAlarm1Config : Nat := 0x1A
@[simp] def regAnalogOutLev1 : Nat := 0x1D
@[simp] def regSensorType : Nat := 0x20
@[simp] def regGasType : Nat := 0x21
@[simp] def regMeasUnit : Nat := 0x22
@[simp] def regGasConctRange : Nat := 0x23
@[simp] def regGasLelValue : Nat := 0x24
@[simp] def regCalGasType : Nat := 0x25
@[simp] def regTempHighAlarm : Nat := 0x26
@[simp] def regTempLowAlarm : Nat := 0x27
@[simp] def regHumHighAlarm : Nat := 0x28
@[simp] def regScalingFactor : Nat := 0x29
@[simp] def regFwVersion : Nat := 0x2D
@[simp] def regFwDate : Nat := 0x2F
@[simp] def regFwDate2 : Nat := 0x30
@[simp] def regDisplayLanguage : Nat := 0x31
@[simp] def regBaudRate : Nat := 0x32
@[simp] def regDetModel : Nat := 0x33
@[simp] def regManIdNumb1 : Nat := 0x34
@[simp] def regBaseSerialNo : Nat := 0x38
@[simp] def regSerialNo : Nat := 0x3C
@[simp] def regLocStringStart : Nat := 0x40
@[simp] def regBaseConfig : Nat := 0x4D
@[simp] def regCalbConcVal : Nat := 0x53
@[simp] def regCalbCycle : Nat := 0x56
@[simp] def irThermistorResReg : Nat := 0x58
@[simp] def irThermistorBetaReg : Nat := 0x59
@[simp] def sensorManDateReg : Nat := 0x66
@[simp] def regAlrmHysteresis1 : Nat := 0x68
@[simp] def regAlrmHysteresis2 : Nat := 0x69
@[simp] def regPidGasIndex : Nat := 0x6A
@[simp] def regSenSupplyVoltage : Nat := 0x6B
@[simp] def warmUpTimeReg : Nat := 0x6C
@[simp] def operatingTempReg : Nat := 0x70
@[simp] def callSpanTimeReg : Nat := 0x71
@[simp] def callZeroTimeReg : Nat := 0x72

/-! Diagnostic registers of `ModbusService.cpp`. -/

@[simp] def regDiagCrcErrors : Nat := 0x74
@[simp] def regDiagUartOverflows : Nat := 0x75
@[simp] def regDiagSensorReadFails : Nat := 0x76
@[simp] def regDiagI2cRecoveries : Nat := 0x77
@[simp] def regDiagWatchdogResets : Nat := 0x78
@[simp] def regDiagFlashSaveFails : Nat := 0x79
@[simp] def regDiagHealthState : Nat := 0x7A
@[simp] def regDiagConsecutiveFaults : Nat := 0x7B

/-! ## Frames -/

/-- `frame_item_t`: a received frame. -/
structure FrameItem where
  data : Vector UInt8 256
  len : UInt16
  timestamp : UInt32
  deriving DecidableEq

namespace FrameItem

/-- `frame->data[index]`. -/
def byte (frame : FrameItem) (index : Nat) : UInt8 :=
  FixedArray.read frame.data index

/-- The big-endian word at `frame->data[index]`. -/
def wordAt (frame : FrameItem) (index : Nat) : UInt16 :=
  BigEndian.word (frame.byte index) (frame.byte (index + 1))

/-- Address field of a request. -/
def addr (frame : FrameItem) : UInt16 := frame.wordAt 2

/-- Quantity field of a request, or the value field of a single write. -/
def qty (frame : FrameItem) : UInt16 := frame.wordAt 4

/-- The payload words of a multiple write of `count` registers. -/
def payload (frame : FrameItem) (count : Nat) : List UInt16 :=
  (List.range count).map fun i => frame.wordAt (7 + i * 2)

/-- Argument `index` of a command package that starts at register 0. -/
def argument (frame : FrameItem) (index : Nat) : UInt16 :=
  frame.wordAt (7 + (commandArg1 + index) * 2)

/-- An all-zero frame. -/
def zero : FrameItem where
  data := Vector.replicate 256 0
  len := 0
  timestamp := 0

@[simp] theorem length_payload
    (frame : FrameItem)
    (count : Nat) :
    (frame.payload count).length = count := by
  simp [payload]

end FrameItem

instance : Inhabited FrameItem := ⟨FrameItem.zero⟩

/-- `frame_queue_t`: the queue of received frames. -/
structure FrameQueue where
  frames : Vector FrameItem frameQueueSize
  head : UInt8
  tail : UInt8
  count : UInt8
  overflowCount : UInt32
  deriving DecidableEq

/-- The zero-filled queue. -/
def FrameQueue.zero : FrameQueue where
  frames := Vector.replicate frameQueueSize FrameItem.zero
  head := 0
  tail := 0
  count := 0
  overflowCount := 0

/-! ## Register arrays -/

/-- The arrays `holdingRegs_` and `inputRegs_`. -/
structure RegisterBank where
  holdingRegs : Vector UInt16 holdingRegSize
  inputRegs : Vector UInt16 holdingRegSize
  deriving DecidableEq

namespace RegisterBank

/-- The zero-filled arrays. -/
def zero : RegisterBank where
  holdingRegs := Vector.replicate holdingRegSize 0
  inputRegs := Vector.replicate holdingRegSize 0

/-- `holdingRegs_[reg]`. -/
def holding (bank : RegisterBank) (reg : Nat) : UInt16 :=
  FixedArray.read bank.holdingRegs reg

/-- `inputRegs_[reg]`. -/
def input (bank : RegisterBank) (reg : Nat) : UInt16 :=
  FixedArray.read bank.inputRegs reg

/-- `holdingRegs_[reg] = value`. -/
def setHolding (bank : RegisterBank) (reg : Nat) (value : UInt16) : RegisterBank :=
  { bank with holdingRegs := FixedArray.write bank.holdingRegs reg value }

/-- `inputRegs_[reg] = value`. -/
def setInput (bank : RegisterBank) (reg : Nat) (value : UInt16) : RegisterBank :=
  { bank with inputRegs := FixedArray.write bank.inputRegs reg value }

/-- `inputRegs_[reg] = holdingRegs_[reg]`. -/
def copyToInput (bank : RegisterBank) (reg : Nat) : RegisterBank :=
  bank.setInput reg (bank.holding reg)

/-- `holdingRegs_[reg] = value; inputRegs_[reg] = value`. -/
def setBoth (bank : RegisterBank) (reg : Nat) (value : UInt16) : RegisterBank :=
  (bank.setHolding reg value).setInput reg value

/-- A zero-filled array holds zeros. -/
theorem input_zero
    (reg : Nat)
    (inArray : reg < holdingRegSize) :
    zero.input reg = 0 := by
  rw [input, zero, FixedArray.read_eq_getElem _ _ inArray, Vector.getElem_replicate]

section

variable (bank : RegisterBank) (reg other : Nat) (value : UInt16)

@[simp] theorem holding_setHolding :
    (bank.setHolding reg value).holding other =
      if other = reg ∧ reg < holdingRegSize then value else bank.holding other :=
  FixedArray.read_write bank.holdingRegs reg other value

@[simp] theorem input_setHolding :
    (bank.setHolding reg value).input other = bank.input other := rfl

@[simp] theorem holding_setInput :
    (bank.setInput reg value).holding other = bank.holding other := rfl

@[simp] theorem input_setInput :
    (bank.setInput reg value).input other =
      if other = reg ∧ reg < holdingRegSize then value else bank.input other :=
  FixedArray.read_write bank.inputRegs reg other value

@[simp] theorem holding_copyToInput :
    (bank.copyToInput reg).holding other = bank.holding other := rfl

@[simp] theorem input_copyToInput :
    (bank.copyToInput reg).input other =
      if other = reg ∧ reg < holdingRegSize then bank.holding reg
      else bank.input other :=
  input_setInput bank reg other (bank.holding reg)

@[simp] theorem holding_setBoth :
    (bank.setBoth reg value).holding other =
      if other = reg ∧ reg < holdingRegSize then value else bank.holding other :=
  holding_setHolding bank reg other value

@[simp] theorem input_setBoth :
    (bank.setBoth reg value).input other =
      if other = reg ∧ reg < holdingRegSize then value else bank.input other :=
  input_setInput (bank.setHolding reg value) reg other value

end

section

variable (start : Nat) (value : Nat → UInt16) (count : Nat)
variable (bank : RegisterBank) (reg : Nat)

/-- A loop that mirrors a block of values into both arrays, seen from the
holding registers. -/
@[simp] theorem holding_mirrorLoop
    (fits : start + count ≤ holdingRegSize) :
    (countedLoop (fun i bank => bank.setBoth (start + i) (value i)) count bank).holding reg =
      if start ≤ reg ∧ reg < start + count then value (reg - start)
      else bank.holding reg := by
  rw [holding, countedLoop_project
    (fun i cells => FixedArray.write cells (start + i) (value i))
    holdingRegs (fun _ _ => rfl)]
  exact FixedArray.read_fillLoop start value count bank.holdingRegs fits reg

/-- The same loop seen from the input registers. -/
@[simp] theorem input_mirrorLoop
    (fits : start + count ≤ holdingRegSize) :
    (countedLoop (fun i bank => bank.setBoth (start + i) (value i)) count bank).input reg =
      if start ≤ reg ∧ reg < start + count then value (reg - start)
      else bank.input reg := by
  rw [input, countedLoop_project
    (fun i cells => FixedArray.write cells (start + i) (value i))
    inputRegs (fun _ _ => rfl)]
  exact FixedArray.read_fillLoop start value count bank.inputRegs fits reg

/-- A loop that fills a block of holding registers. -/
@[simp] theorem holding_fillLoop
    (fits : start + count ≤ holdingRegSize) :
    (countedLoop (fun i bank => bank.setHolding (start + i) (value i)) count bank).holding reg =
      if start ≤ reg ∧ reg < start + count then value (reg - start)
      else bank.holding reg := by
  rw [holding, countedLoop_project
    (fun i cells => FixedArray.write cells (start + i) (value i))
    holdingRegs (fun _ _ => rfl)]
  exact FixedArray.read_fillLoop start value count bank.holdingRegs fits reg

/-- Filling holding registers leaves the input registers alone. -/
@[simp] theorem input_fillLoop :
    (countedLoop (fun i bank => bank.setHolding (start + i) (value i)) count bank).input reg =
      bank.input reg :=
  countedLoop_invariant
    (fun state : RegisterBank => state.input reg = bank.input reg)
    (fun _ _ kept => by rw [input_setHolding, kept]) count rfl

end

end RegisterBank

end SensorFirmware
