import SensorFirmware.Modbus.CheckedSensor
import SensorFirmware.Modbus.RequestLength

/-!
# Checked accesses of the frame handlers

`processFrame` and everything below it with a bounds check at every access to
`frame->data`, to the register arrays, to the argument window and to
`responseScratch_`.  For a frame of at most 256 bytes no check fails, and the
result is that of the unchecked function.
-/

namespace SensorFirmware

open BigEndian ModbusService

namespace FrameItem

/-- Read bytes of `frame->data` into an otherwise blank frame. -/
def fetch (frame : FrameItem) (indices : List Nat) : Option FrameItem := do
  let data ← FixedArray.fetch frame.data indices
  some { frame with data := data }

variable {frame : FrameItem} {indices : List Nat}

/-- What follows a fetch inside the buffer sees the fetched bytes. -/
theorem fetch_bind_eq
    {rest : FrameItem → Option β}
    {result : Option β}
    (inside : ∀ index ∈ indices, index < 256)
    (uses : ∀ fetched : FrameItem, fetched.len = frame.len →
      (∀ index ∈ indices, fetched.byte index = frame.byte index) →
        rest fetched = result) :
    frame.fetch indices >>= rest = result := by
  rw [fetch, bind_assoc]
  exact FixedArray.fetch_bind_eq frame.data inside fun data agree => uses _ rfl agree

/-- The bytes of a request header, with the fields that they carry. -/
structure SameHeader (header frame : FrameItem) : Prop where
  len : header.len = frame.len
  addr : header.addr = frame.addr
  qty : header.qty = frame.qty
  broadcast : header.IsBroadcast ↔ frame.IsBroadcast

theorem SameHeader.of_bytes
    {header : FrameItem}
    (len : header.len = frame.len)
    (agree : ∀ index ∈ [0, 2, 3, 4, 5], header.byte index = frame.byte index) :
    SameHeader header frame where
  len := len
  addr := by
    rw [FrameItem.addr, FrameItem.addr, wordAt, wordAt, agree 2 (by decide),
      agree 3 (by decide)]
  qty := by
    rw [FrameItem.qty, FrameItem.qty, wordAt, wordAt, agree 4 (by decide),
      agree 5 (by decide)]
  broadcast := by
    rw [IsBroadcast, IsBroadcast, agree 0 (by decide)]

end FrameItem

namespace Device

section

variable (dev : Device D)

/-! ## Registers and responses -/

/-- `getHoldingRegisterInternal`. -/
def holdingRegister? (reg : Nat) : Option UInt16 :=
  if reg < holdingRegSize then
    if reg = regBaudRate then some (dev.baudRate / 100)
    else dev.modbus.bank.holding? reg
  else some 0

/-- `getInputRegisterInternal`. -/
def inputRegister? (reg : Nat) : Option UInt16 :=
  if reg < holdingRegSize then dev.modbus.bank.input? reg else some 0

/-- `setHoldingRegisterInternal`. -/
def setHoldingRegister? (reg : Nat) (value : UInt16) : Option (Device D) :=
  dev.updateBank? fun bank =>
    if reg < holdingRegSize then bank.setHolding? reg value else some bank

theorem holdingRegister?_eq_some (reg : Nat) :
    dev.holdingRegister? reg = some (dev.holdingRegister reg) := by
  rw [holdingRegister?, holdingRegister]
  split
  · rename_i inArray
    split
    · rfl
    · exact RegisterBank.holding?_eq_some _ inArray
  · rfl

theorem inputRegister?_eq_some (reg : Nat) :
    dev.inputRegister? reg = some (dev.inputRegister reg) := by
  rw [inputRegister?, inputRegister]
  split
  · rename_i inArray
    exact RegisterBank.input?_eq_some _ inArray
  · rfl

theorem setHoldingRegister?_eq_some (reg : Nat) (value : UInt16) :
    dev.setHoldingRegister? reg value = some (dev.setHoldingRegister reg value) := by
  rw [setHoldingRegister?, setHoldingRegister]
  apply updateBank?_eq_some
  split
  · rename_i inArray
    exact RegisterBank.setHolding?_eq_some _ value inArray
  · rfl

/-- Write a read response into `responseScratch_` and answer with it. -/
def answerRead? (header : FrameItem) (function : UInt8) (words : List UInt16) :
    Option (Device D) := do
  let body :=
    dev.modbus.slaveAddress :: function :: (header.qty * 2).toUInt8 :: bytes words
  let filled ← FixedArray.writeAll? dev.modbus.responseScratch 0 body
  let checked ← FixedArray.front? filled body.length
  let resp ← FixedArray.writeAll? filled body.length (crcBytes checked)
  let sent ← FixedArray.front? resp (body.length + 2)
  some
    ({ dev with modbus := { dev.modbus with responseScratch := resp } }.answer header
      sent)

variable {header frame : FrameItem} (same : header.SameHeader frame)

include same in
theorem answer_header (response : List UInt8) :
    dev.answer header response = dev.answer frame response := by
  simp only [answer, same.broadcast]

include same in
theorem answerError_header (function errorCode : UInt8) :
    dev.answerError header function errorCode = dev.answerError frame function errorCode := by
  simp only [answerError, same.broadcast]

include same in
/-- A response with at most 125 words fits into the buffer. -/
theorem answerRead?_eq_some
    (function : UInt8)
    (words : List UInt16)
    (few : words.length ≤ 125) :
    dev.answerRead? header function words = some (dev.answerRead frame function words) := by
  have length (address count : UInt8) :
      (address :: function :: count :: bytes words).length = 2 * words.length + 3 := by
    simp
  have crcLength (buffer : List UInt8) : (crcBytes buffer).length = 2 := rfl
  simp only [answerRead?, length, same.qty, Option.bind_eq_bind]
  rw [FixedArray.writeAll?_eq_some _ _ _ (by rw [length]; omega), Option.bind_some,
    FixedArray.front?_eq_some _ _ (by omega), Option.bind_some,
    FixedArray.writeAll?_eq_some _ _ _ (by rw [crcLength]; omega), Option.bind_some,
    FixedArray.front?_eq_some _ _ (by omega), Option.bind_some, answer_header _ same]
  simp only [answerRead, length]

/-! ## Commands -/

/-- The command switch of `runCommand`. -/
def handleCommand? [DoubleArith D] (qty : UInt16) : Option (UInt8 × Device D) := do
  let cmd ← dev.modbus.bank.holding? commandCode
  if cmd = setSensorData then
    dev.saveSensorSettings? (argumentWindow dev.modbus.bank) (commandLen qty)
  else if cmd = setDetectorData then
    dev.saveBaseSettings? (argumentWindow dev.modbus.bank) (commandLen qty)
  else if cmd = setTimeDate then some (1, dev)
  else if cmd = resetDetector then some (1, dev)
  else some (0, dev)

theorem handleCommand?_eq_some [DoubleArith D] (qty : UInt16) :
    dev.handleCommand? qty = some (dev.handleCommand qty) := by
  rw [handleCommand?, RegisterBank.holding?_eq_some _ (by decide), Option.bind_eq_bind,
    Option.bind_some, saveSensorSettings?_eq_some, saveBaseSettings?_eq_some,
    read_argumentWindow]
  simp only [handleCommand, apply_ite some]
  rfl

/-- `ModbusService::runCommand`. -/
def runCommand? [DoubleArith D] (startAddr qty : UInt16) : Option (UInt8 × Device D) :=
  if CoversCommand startAddr qty then do
    let handled ← dev.handleCommand? qty
    let synced ← if handled.1 ≠ 0 then handled.2.syncAll? else some handled.2
    let cleared ← synced.updateBank? (·.setHolding? commandCode 0)
    some (handled.1, cleared)
  else some (1, dev)

theorem runCommand?_eq_some [DoubleArith D] (startAddr qty : UInt16) :
    dev.runCommand? startAddr qty = some (dev.runCommand startAddr qty) := by
  have cleared (dev : Device D) :
      dev.updateBank? (·.setHolding? commandCode 0) =
        some (dev.updateBank (·.setHolding commandCode 0)) :=
    updateBank?_eq_some (RegisterBank.setHolding?_eq_some _ _ (by decide))
  rw [runCommand?, runCommand]
  split
  · simp only [handleCommand?_eq_some, syncAll?_eq_some, Option.bind_eq_bind,
      Option.bind_some]
    split
    · simp only [Option.bind_some, cleared]
    · simp only [Option.bind_some, cleared]
  · rfl

end

/-! ## Handlers -/

section

variable (dev : Device D) (frame : FrameItem)

/-- `ModbusService::processReadHoldingRegisters`. -/
def processReadHoldingRegisters? : Option (UInt8 × Device D) := do
  let header ← frame.fetch [0, 2, 3, 4, 5]
  if header.ReadInRange then do
    let words ← (List.range header.qty.toNat).mapM fun i =>
      dev.holdingRegister? (header.addr.toNat + i)
    let answered ← dev.answerRead? header fcReadHolding words
    some (1, answered)
  else some (0, dev.answerError header fcReadHolding modbusErrIllegalDataAddr)

theorem processReadHoldingRegisters?_eq_some :
    dev.processReadHoldingRegisters? frame =
      some (dev.processReadHoldingRegisters frame) := by
  refine FrameItem.fetch_bind_eq (by decide) fun header len agree => ?_
  have same := FrameItem.SameHeader.of_bytes len agree
  have inRange : header.ReadInRange ↔ frame.ReadInRange := by
    rw [FrameItem.ReadInRange, FrameItem.ReadInRange, same.addr, same.qty]
  rw [processReadHoldingRegisters, answerError_header dev same]
  simp only [inRange, same.addr, same.qty]
  split
  · rename_i valid
    rw [FixedArray.mapM_eq_some fun i _ => dev.holdingRegister?_eq_some _,
      Option.bind_eq_bind, Option.bind_some,
      answerRead?_eq_some dev same _ _ (by simpa using valid.few)]
    rfl
  · rfl

/-- `ModbusService::processReadInputRegisters`. -/
def processReadInputRegisters? : Option (UInt8 × Device D) := do
  let header ← frame.fetch [0, 2, 3, 4, 5]
  if header.ReadInRange then do
    let refreshed ← dev.updateLiveInputs?
    let words ← (List.range header.qty.toNat).mapM fun i =>
      refreshed.inputRegister? (header.addr.toNat + i)
    let answered ← refreshed.answerRead? header fcReadInput words
    some (1, answered)
  else some (0, dev.answerError header fcReadInput modbusErrIllegalDataAddr)

theorem processReadInputRegisters?_eq_some :
    dev.processReadInputRegisters? frame =
      some (dev.processReadInputRegisters frame) := by
  refine FrameItem.fetch_bind_eq (by decide) fun header len agree => ?_
  have same := FrameItem.SameHeader.of_bytes len agree
  have inRange : header.ReadInRange ↔ frame.ReadInRange := by
    rw [FrameItem.ReadInRange, FrameItem.ReadInRange, same.addr, same.qty]
  rw [processReadInputRegisters, answerError_header dev same]
  simp only [inRange, same.addr, same.qty]
  split
  · rename_i valid
    rw [updateLiveInputs?_eq_some, Option.bind_eq_bind, Option.bind_some,
      FixedArray.mapM_eq_some fun i _ => dev.updateLiveInputs.inputRegister?_eq_some _,
      Option.bind_eq_bind, Option.bind_some,
      answerRead?_eq_some _ same _ _ (by simpa using valid.few)]
    rfl
  · rfl

/-- Echo the first six bytes of a write request. -/
def answerEcho? (header : FrameItem) : Option (Device D) :=
  if header.IsBroadcast then some dev
  else do
    let front ← FixedArray.front? frame.data 6
    some (dev.send (withCrc front))

theorem answerEcho?_eq_some
    {header : FrameItem}
    (same : header.SameHeader frame) :
    dev.answerEcho? frame header = some (dev.answer frame (writeEcho frame)) := by
  simp only [answerEcho?, same.broadcast, answer,
    FixedArray.front?_eq_some frame.data 6 (by decide), apply_ite some]
  rfl

/-- `ModbusService::processWriteSingleRegister`. -/
def processWriteSingleRegister? : Option (UInt8 × Device D) :=
  if frame.len < 8 then some (0, dev)
  else do
    let header ← frame.fetch [0, 2, 3, 4, 5]
    if isWritable header.addr = 0 then
      some (0, dev.answerError header fcWriteSingleReg modbusErrIllegalDataAddr)
    else do
      let stored ← dev.setHoldingRegister? header.addr.toNat header.qty
      let answered ← stored.answerEcho? frame header
      some (1, answered)

theorem processWriteSingleRegister?_eq_some :
    dev.processWriteSingleRegister? frame =
      some (dev.processWriteSingleRegister frame) := by
  rw [processWriteSingleRegister?, processWriteSingleRegister]
  split
  · rfl
  refine FrameItem.fetch_bind_eq (by decide) fun header len agree => ?_
  have same := FrameItem.SameHeader.of_bytes len agree
  rw [answerError_header dev same, same.addr, same.qty, setHoldingRegister?_eq_some]
  split
  · rfl
  · rw [Option.bind_eq_bind, Option.bind_some, answerEcho?_eq_some _ _ same]
    rfl

/-- The register loop of a multiple write, with the header fields that bound it. -/
def writeRegisters? (header : FrameItem) : Option (Device D) :=
  dev.updateBank?
    (countedLoop?
      (fun i bank => do
        let cells ← frame.fetch [7 + i * 2, 8 + i * 2]
        bank.setHolding? (header.addr.toNat + i) (cells.wordAt (7 + i * 2)))
      header.qty.toNat)

/-- A consistent header keeps the loop inside the frame and the registers. -/
theorem writeRegisters?_eq_some
    {header : FrameItem}
    (same : header.SameHeader frame)
    (valid : frame.WriteMultipleValid) :
    dev.writeRegisters? frame header = some (dev.writeRegisters frame) := by
  have few : frame.qty.toNat ≤ 123 := UInt16.le_iff_toNat_le.mp valid.2.1
  have fits := valid.2.2.2.1
  rw [writeRegisters?, same.addr, same.qty]
  apply updateBank?_eq_some
  refine countedLoop?_eq_some (fun i inside bank => ?_) dev.modbus.bank
  refine FrameItem.fetch_bind_eq ?_ fun cells _ agree => ?_
  · simp only [List.forall_mem_cons, List.not_mem_nil, false_imp_iff, implies_true,
      and_true]
    omega
  · have word : cells.wordAt (7 + i * 2) = frame.wordAt (7 + i * 2) := by
      rw [FrameItem.wordAt, FrameItem.wordAt, agree _ (by simp), agree _ (by simp; omega)]
    rw [word]
    exact RegisterBank.setHolding?_eq_some bank _ (by omega)

variable [DoubleArith D]

/-- `ModbusService::processWriteMultipleRegisters`. -/
def processWriteMultipleRegisters? : Option (UInt8 × Device D) :=
  if frame.len < 9 then some (0, dev)
  else do
    let header ← frame.fetch [0, 2, 3, 4, 5, 6]
    if ¬ header.WriteMultipleValid then
      some (0, dev.answerError header fcWriteMultipleRegs modbusErrIllegalDataAddr)
    else do
      let written ← dev.writeRegisters? frame header
      let answered ← written.answerEcho? frame header
      let result ← answered.runCommand? header.addr header.qty
      some (1, result.2)

theorem processWriteMultipleRegisters?_eq_some :
    dev.processWriteMultipleRegisters? frame =
      some (dev.processWriteMultipleRegisters frame) := by
  rw [processWriteMultipleRegisters?, processWriteMultipleRegisters]
  split
  · rfl
  refine FrameItem.fetch_bind_eq (by decide) fun header len agree => ?_
  have same := FrameItem.SameHeader.of_bytes len fun index read =>
    agree index (by simp at read ⊢; omega)
  have consistent : header.WriteMultipleValid ↔ frame.WriteMultipleValid := by
    rw [FrameItem.WriteMultipleValid, FrameItem.WriteMultipleValid, same.addr, same.qty,
      same.len, agree 6 (by decide)]
  rw [answerError_header dev same]
  simp only [consistent, same.addr, same.qty]
  split
  · rfl
  · rename_i valid
    rw [writeRegisters?_eq_some dev frame same (not_not.mp valid), Option.bind_eq_bind,
      Option.bind_some, answerEcho?_eq_some _ _ same, Option.bind_eq_bind, Option.bind_some,
      runCommand?_eq_some]
    rfl

/-- The function code switch of `processFrame`. -/
def dispatch? : Option (UInt8 × Device D) := do
  let code ← frame.fetch [1]
  if code.byte 1 = fcReadHolding then dev.processReadHoldingRegisters? frame
  else if code.byte 1 = fcReadInput then dev.processReadInputRegisters? frame
  else if code.byte 1 = fcWriteSingleReg then dev.processWriteSingleRegister? frame
  else if code.byte 1 = fcWriteMultipleRegs then dev.processWriteMultipleRegisters? frame
  else do
    let header ← frame.fetch [0, 1]
    some (0, dev.answerError header (header.byte 1) modbusErrIllegalFunction)

theorem dispatch?_eq_some : dev.dispatch? frame = some (dev.dispatch frame) := by
  refine FrameItem.fetch_bind_eq (by decide) fun code _ agree => ?_
  have unknown :
      (frame.fetch [0, 1] >>= fun header =>
        some ((0 : UInt8),
          dev.answerError header (header.byte 1) modbusErrIllegalFunction)) =
        some (0, dev.answerError frame (frame.byte 1) modbusErrIllegalFunction) := by
    refine FrameItem.fetch_bind_eq (by decide) fun header _ read => ?_
    have broadcast : header.IsBroadcast ↔ frame.IsBroadcast := by
      rw [FrameItem.IsBroadcast, FrameItem.IsBroadcast, read 0 (by decide)]
    simp only [answerError, broadcast, read 1 (by decide)]
  simp only [agree 1 (by decide), processReadHoldingRegisters?_eq_some,
    processReadInputRegisters?_eq_some, processWriteSingleRegister?_eq_some,
    processWriteMultipleRegisters?_eq_some, unknown, dispatch, apply_ite some]

/-- `ModbusService::processFrame`; `none` is the null pointer. -/
def processFrame? (frame : Option FrameItem) : Option (UInt8 × Device D) :=
  match frame with
  | none => some (0, dev)
  | some frame =>
      if frame.len < 4 then some (0, dev)
      else do
        let checked ← frame.fetch (List.range frame.len.toNat)
        if ¬ checked.CrcMatches then
          some (0, { dev with errors := dev.errors.reportCrcError })
        else do
          let address ← frame.fetch [0]
          let noted := dev.noteValidFrame
          if ¬ noted.Addressed address then some (0, noted)
          else noted.dispatch? frame

/-- No access of `processFrame` leaves its array when the frame has a length that
the queue can produce: every bounds check succeeds, in every state. -/
theorem processFrame_inBounds
    (fits : frame.len ≤ 256) :
    dev.processFrame? (some frame) = some (dev.processFrame (some frame)) := by
  rw [processFrame?, processFrame]
  split
  · rfl
  rename_i notShort
  have long : 4 ≤ frame.len := UInt16.not_lt.mp notShort
  have bound : frame.len.toNat ≤ 256 := UInt16.le_iff_toNat_le.mp fits
  refine FrameItem.fetch_bind_eq ?_ fun checked len agree => ?_
  · intro index read
    have below := List.mem_range.mp read
    omega
  have same : SameRequest checked frame :=
    ⟨len, fun index inside => agree index (List.mem_range.mpr inside)⟩
  simp only [same.crcMatches_iff long]
  split
  · rfl
  refine FrameItem.fetch_bind_eq (by decide) fun address _ read => ?_
  have addressed : dev.noteValidFrame.Addressed address ↔
      dev.noteValidFrame.Addressed frame := by
    rw [Addressed, Addressed, FrameItem.IsBroadcast, FrameItem.IsBroadcast,
      read 0 (by decide)]
  simp only [addressed, dispatch?_eq_some, apply_ite some]

end

/-- A read of the first holding register. -/
theorem processFrame_inBounds_read :
    let dev : Device ℚ := firstBoot BuildInfo.unitTest
    let frame := makeFrame [1, 3, 0, 0, 0, 1]
    frame.len ≤ 256 ∧
      dev.processFrame? (some frame) = some (dev.processFrame (some frame)) := by
  intro dev frame
  have fits : frame.len ≤ 256 := by decide +kernel
  exact ⟨fits, processFrame_inBounds dev frame fits⟩

end Device

end SensorFirmware
