import Mathlib.Data.List.GetD
import SensorFirmware.Modbus.Commands

/-!
# Processing a frame

`ModbusService::processFrame` with the handlers of the four function codes.
Bytes past `len` are read where the source reads them.
-/

namespace SensorFirmware

open BigEndian ModbusService

namespace FrameItem

/-- The checksum that a frame carries in its last two bytes, low byte first. -/
def crcRx (frame : FrameItem) : UInt16 :=
  word (frame.byte (frame.len.toNat - 1)) (frame.byte (frame.len.toNat - 2))

/-- The checksum fits the bytes before it. -/
def CrcMatches (frame : FrameItem) : Prop :=
  crc16 (FixedArray.front frame.data (frame.len.toNat - 2)) = frame.crcRx

instance (frame : FrameItem) : Decidable frame.CrcMatches :=
  inferInstanceAs (Decidable (_ = _))

/-- The frame is a broadcast. -/
def IsBroadcast (frame : FrameItem) : Prop := frame.byte 0 = 0

instance (frame : FrameItem) : Decidable frame.IsBroadcast :=
  inferInstanceAs (Decidable (_ = _))

/-- The registers of a read lie in the register arrays. -/
def ReadInRange (frame : FrameItem) : Prop :=
  frame.qty ≠ 0 ∧ frame.qty ≤ 125 ∧
    frame.addr.toNat + frame.qty.toNat ≤ holdingRegSize

instance (frame : FrameItem) : Decidable frame.ReadInRange :=
  inferInstanceAs (Decidable (_ ∧ _))

/-- The header of a multiple write is consistent. -/
def WriteMultipleValid (frame : FrameItem) : Prop :=
  frame.qty ≠ 0 ∧ frame.qty ≤ 123 ∧ frame.byte 6 = (frame.qty * 2).toUInt8 ∧
    frame.addr.toNat + frame.qty.toNat ≤ holdingRegSize ∧
      9 + (frame.byte 6).toUInt16 ≤ frame.len

instance (frame : FrameItem) : Decidable frame.WriteMultipleValid :=
  inferInstanceAs (Decidable (_ ∧ _))

/-- A read in range asks for as many words as a response can carry. -/
theorem ReadInRange.few
    {frame : FrameItem}
    (inRange : frame.ReadInRange) :
    frame.qty.toNat ≤ 125 :=
  UInt16.le_iff_toNat_le.mp inRange.2.1

/-- The payload of a consistent multiple write lies inside the frame. -/
theorem WriteMultipleValid.payload_inside
    {frame : FrameItem}
    (valid : frame.WriteMultipleValid) :
    9 + 2 * frame.qty.toNat ≤ frame.len.toNat := by
  obtain ⟨_, few, byteCount, _, whole⟩ := valid
  have fewer : frame.qty.toNat ≤ 123 := UInt16.le_iff_toNat_le.mp few
  have counted : (frame.byte 6).toNat = 2 * frame.qty.toNat := by
    have two : (2 : UInt16).toNat = 2 := rfl
    rw [byteCount, UInt16.toNat_toUInt8, UInt16.toNat_mul, two]
    omega
  have nine : (9 : UInt16).toNat = 9 := rfl
  have bound := UInt16.le_iff_toNat_le.mp whole
  rw [UInt16.toNat_add, UInt8.toNat_toUInt16, counted, nine] at bound
  omega

end FrameItem

/-- A response body followed by its checksum. -/
def withCrc (body : List UInt8) : List UInt8 := body ++ crcBytes body

/-- A received frame with the given bytes, in a cleared buffer. -/
def FrameItem.ofBytes (bytes : List UInt8) : FrameItem where
  data := FixedArray.writeAll (zeroBytes 256) 0 bytes
  len := bytes.length.toUInt16
  timestamp := 0

/-- The frame that carries a body and its checksum. -/
def makeFrame (body : List UInt8) : FrameItem := .ofBytes (withCrc body)

section

variable {body : List UInt8} (fits : body.length ≤ 254)

include fits

theorem makeFrame_len : (makeFrame body).len.toNat = body.length + 2 := by
  have length : (withCrc body).length = body.length + 2 := by simp [withCrc]
  simp only [makeFrame, FrameItem.ofBytes, length]
  exact Nat.mod_eq_of_lt (by omega)

theorem makeFrame_byte
    (index : Nat)
    (inside : index < body.length + 2) :
    (makeFrame body).byte index = (withCrc body).getD index 0 := by
  have length : (withCrc body).length = body.length + 2 := by simp [withCrc]
  have covered : 0 ≤ index ∧ index < 0 + (withCrc body).length := by omega
  rw [FrameItem.byte, makeFrame, FrameItem.ofBytes,
    FixedArray.read_writeAll _ _ _ (by omega), if_pos covered]
  rfl

theorem makeFrame_bodyByte
    (index : Nat)
    (inside : index < body.length) :
    (makeFrame body).byte index = body.getD index 0 := by
  rw [makeFrame_byte fits index (by omega), withCrc, List.getD_append _ _ _ _ inside]

theorem makeFrame_bodyWord
    (index : Nat)
    (inside : index + 1 < body.length) :
    (makeFrame body).wordAt index = word (body.getD index 0) (body.getD (index + 1) 0) := by
  rw [FrameItem.wordAt, makeFrame_bodyByte fits index (by omega),
    makeFrame_bodyByte fits (index + 1) inside]

/-- A frame that carries the checksum of its body passes the CRC. -/
theorem makeFrame_crcMatches : (makeFrame body).CrcMatches := by
  have content : FixedArray.front (makeFrame body).data body.length = body := by
    have length : body.length ≤ 256 := by omega
    apply List.ext_getElem
    · simp [length]
    · intro index _ inside
      have byte := makeFrame_bodyByte fits index inside
      rw [FixedArray.getElem_front]
      exact byte.trans (List.getD_eq_getElem _ _ inside)
  rw [FrameItem.CrcMatches, FrameItem.crcRx, makeFrame_len fits, Nat.add_sub_cancel,
    content, makeFrame_byte fits _ (by omega), makeFrame_byte fits _ (by omega), withCrc,
    List.getD_append_right _ _ _ _ (by omega), List.getD_append_right _ _ _ _ (by omega)]
  have high : body.length + 2 - 1 - body.length = 1 := by omega
  rw [high, Nat.sub_self]
  exact (word_highByte_lowByte _).symm

end

namespace Device

/-- Transmit a response unless the request was a broadcast. -/
def answer (dev : Device D) (frame : FrameItem) (response : List UInt8) : Device D :=
  if frame.IsBroadcast then dev else dev.send response

/-- `ModbusService::sendErrorResponse`. -/
def sendErrorResponse (dev : Device D) (function errorCode : UInt8) : Device D :=
  dev.send (withCrc [dev.modbus.slaveAddress, function ||| 0x80, errorCode])

/-- An exception response unless the request was a broadcast. -/
def answerError (dev : Device D) (frame : FrameItem)
    (function errorCode : UInt8) : Device D :=
  if frame.IsBroadcast then dev else dev.sendErrorResponse function errorCode

/-- Write a read response into `responseScratch_` and answer with it. -/
def answerRead (dev : Device D) (frame : FrameItem) (function : UInt8)
    (words : List UInt16) : Device D :=
  let body :=
    dev.modbus.slaveAddress :: function :: (frame.qty * 2).toUInt8 :: bytes words
  let resp := FixedArray.writeAll dev.modbus.responseScratch 0 body
  let crc := crcBytes (FixedArray.front resp body.length)
  let resp := FixedArray.writeAll resp body.length crc
  let dev := { dev with modbus := { dev.modbus with responseScratch := resp } }
  dev.answer frame (FixedArray.front resp (body.length + 2))

/-- `ModbusService::processReadHoldingRegisters`. -/
def processReadHoldingRegisters (dev : Device D) (frame : FrameItem) :
    UInt8 × Device D :=
  if frame.ReadInRange then
    (1, dev.answerRead frame fcReadHolding
      ((List.range frame.qty.toNat).map fun i =>
        dev.holdingRegister (frame.addr.toNat + i)))
  else (0, dev.answerError frame fcReadHolding modbusErrIllegalDataAddr)

/-- `ModbusService::processReadInputRegisters`. -/
def processReadInputRegisters (dev : Device D) (frame : FrameItem) :
    UInt8 × Device D :=
  if frame.ReadInRange then
    let dev := dev.updateLiveInputs
    (1, dev.answerRead frame fcReadInput
      ((List.range frame.qty.toNat).map fun i =>
        dev.inputRegister (frame.addr.toNat + i)))
  else (0, dev.answerError frame fcReadInput modbusErrIllegalDataAddr)

/-- `ModbusService::isWritable`. -/
def isWritable (addr : UInt16) : UInt8 :=
  if addr.toNat < holdingRegSize then 1 else 0

/-- The echo of a write request. -/
def writeEcho (frame : FrameItem) : List UInt8 :=
  withCrc (FixedArray.front frame.data 6)

/-- `ModbusService::processWriteSingleRegister`. -/
def processWriteSingleRegister (dev : Device D) (frame : FrameItem) :
    UInt8 × Device D :=
  if frame.len < 8 then (0, dev)
  else if isWritable frame.addr = 0 then
    (0, dev.answerError frame fcWriteSingleReg modbusErrIllegalDataAddr)
  else
    (1, (dev.setHoldingRegister frame.addr.toNat frame.qty).answer frame
      (writeEcho frame))

/-- The register loop of a multiple write. -/
def writeRegisters (dev : Device D) (frame : FrameItem) : Device D :=
  dev.updateBank
    (countedLoop
      (fun i bank => bank.setHolding (frame.addr.toNat + i) (frame.wordAt (7 + i * 2)))
      frame.qty.toNat)

variable [DoubleArith D]

/-- `ModbusService::processWriteMultipleRegisters`. -/
def processWriteMultipleRegisters (dev : Device D) (frame : FrameItem) :
    UInt8 × Device D :=
  if frame.len < 9 then (0, dev)
  else if ¬ frame.WriteMultipleValid then
    (0, dev.answerError frame fcWriteMultipleRegs modbusErrIllegalDataAddr)
  else
    let dev := (dev.writeRegisters frame).answer frame (writeEcho frame)
    (1, (dev.runCommand frame.addr frame.qty).2)

/-- The function code switch of `processFrame`. -/
def dispatch (dev : Device D) (frame : FrameItem) : UInt8 × Device D :=
  if frame.byte 1 = fcReadHolding then dev.processReadHoldingRegisters frame
  else if frame.byte 1 = fcReadInput then dev.processReadInputRegisters frame
  else if frame.byte 1 = fcWriteSingleReg then dev.processWriteSingleRegister frame
  else if frame.byte 1 = fcWriteMultipleRegs then
    dev.processWriteMultipleRegisters frame
  else (0, dev.answerError frame (frame.byte 1) modbusErrIllegalFunction)

/-- `DeviceConfig.id` is a legal slave address. -/
def IdValid (dev : Device D) : Prop :=
  0 < dev.deviceConfig.id ∧ dev.deviceConfig.id ≤ 247

instance (dev : Device D) : Decidable dev.IdValid :=
  inferInstanceAs (Decidable (_ ∧ _))

/-- Statistics and slave address of a frame that passed the CRC. -/
def noteValidFrame (dev : Device D) : Device D :=
  { dev with
    errors := dev.errors.reportValidModbusFrame
    modbus :=
      { dev.modbus with
        slaveAddress :=
          if dev.IdValid then dev.deviceConfig.id.toUInt8
          else dev.modbus.slaveAddress } }

/-- The device listens to the address of the frame. -/
def Addressed (dev : Device D) (frame : FrameItem) : Prop :=
  frame.IsBroadcast ∨ frame.byte 0 = dev.modbus.slaveAddress

instance (dev : Device D) (frame : FrameItem) : Decidable (dev.Addressed frame) :=
  inferInstanceAs (Decidable (_ ∨ _))

/-- `ModbusService::processFrame`; `none` is the null pointer. -/
def processFrame (dev : Device D) (frame : Option FrameItem) : UInt8 × Device D :=
  match frame with
  | none => (0, dev)
  | some frame =>
      if frame.len < 4 then (0, dev)
      else if ¬ frame.CrcMatches then
        (0, { dev with errors := dev.errors.reportCrcError })
      else
        let dev := dev.noteValidFrame
        if ¬ dev.Addressed frame then (0, dev)
        else dev.dispatch frame

end Device

end SensorFirmware
