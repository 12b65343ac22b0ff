import SensorFirmware.Modbus.Frames

/-!
# What processing a frame can do

`Handled` lists the results of the function code switch and `Processed` those
of `processFrame`, each with its guards.  Facts about a frame, and invariants
of runs of frames, are derived from these two by cases.
-/

namespace SensorFirmware

open BigEndian ModbusService

namespace Device

/-! ## Answering -/

section

variable (dev : Device D) (frame : FrameItem) (response : List UInt8)

/-- What does not depend on the transmitted bytes is the same after an answer. -/
theorem answer_keeps
    (project : Device D → β)
    (insensitive : ∀ transmitted,
      project { dev with transmitted := transmitted } = project dev) :
    project (dev.answer frame response) = project dev := by
  unfold answer send
  split
  · rfl
  · exact insensitive _

/-- The same for an exception response. -/
theorem answerError_keeps
    (function errorCode : UInt8)
    (project : Device D → β)
    (insensitive : ∀ transmitted,
      project { dev with transmitted := transmitted } = project dev) :
    project (dev.answerError frame function errorCode) = project dev := by
  unfold answerError sendErrorResponse send
  split
  · rfl
  · exact insensitive _

@[simp] theorem answer_modbus :
    (dev.answer frame response).modbus = dev.modbus :=
  answer_keeps dev frame response (·.modbus) fun _ => rfl

@[simp] theorem answer_holding (reg : Nat) :
    (dev.answer frame response).holding reg = dev.holding reg :=
  answer_keeps dev frame response (·.holding reg) fun _ => rfl

@[simp] theorem answer_errors :
    (dev.answer frame response).errors = dev.errors :=
  answer_keeps dev frame response (·.errors) fun _ => rfl

@[simp] theorem answer_deviceConfig :
    (dev.answer frame response).deviceConfig = dev.deviceConfig :=
  answer_keeps dev frame response (·.deviceConfig) fun _ => rfl

@[simp] theorem answer_sensor :
    (dev.answer frame response).sensor = dev.sensor :=
  answer_keeps dev frame response (·.sensor) fun _ => rfl

@[simp] theorem answerError_modbus (function errorCode : UInt8) :
    (dev.answerError frame function errorCode).modbus = dev.modbus :=
  answerError_keeps dev frame function errorCode (·.modbus) fun _ => rfl

@[simp] theorem answerError_holding (function errorCode : UInt8) (reg : Nat) :
    (dev.answerError frame function errorCode).holding reg = dev.holding reg :=
  answerError_keeps dev frame function errorCode (·.holding reg) fun _ => rfl

@[simp] theorem answerError_errors (function errorCode : UInt8) :
    (dev.answerError frame function errorCode).errors = dev.errors :=
  answerError_keeps dev frame function errorCode (·.errors) fun _ => rfl

@[simp] theorem answerError_deviceConfig (function errorCode : UInt8) :
    (dev.answerError frame function errorCode).deviceConfig = dev.deviceConfig :=
  answerError_keeps dev frame function errorCode (·.deviceConfig) fun _ => rfl

@[simp] theorem answerError_sensor (function errorCode : UInt8) :
    (dev.answerError frame function errorCode).sensor = dev.sensor :=
  answerError_keeps dev frame function errorCode (·.sensor) fun _ => rfl

/-- A broadcast is never answered. -/
theorem answer_broadcast
    (broadcast : frame.IsBroadcast) :
    dev.answer frame response = dev := by
  rw [answer, if_pos broadcast]

/-- Any other request is answered with one response. -/
theorem answer_transmitted
    (unicast : ¬ frame.IsBroadcast)
    (nonempty : 0 < response.length)
    (fits : response.length ≤ 256) :
    (dev.answer frame response).transmitted = dev.transmitted ++ [response] := by
  rw [answer, if_neg unicast, send_transmitted _ _ nonempty fits]

theorem answerError_broadcast
    (function errorCode : UInt8)
    (broadcast : frame.IsBroadcast) :
    dev.answerError frame function errorCode = dev := by
  rw [answerError, if_pos broadcast]

theorem answerError_transmitted
    (function errorCode : UInt8)
    (unicast : ¬ frame.IsBroadcast) :
    (dev.answerError frame function errorCode).transmitted =
      dev.transmitted ++
        [withCrc [dev.modbus.slaveAddress, function ||| 0x80, errorCode]] := by
  rw [answerError, if_neg unicast, sendErrorResponse,
    send_transmitted _ _ (by simp [withCrc]) (by simp [withCrc])]

/-- Body of a read response. -/
def readBody (function : UInt8) (words : List UInt16) : List UInt8 :=
  dev.modbus.slaveAddress :: function :: (frame.qty * 2).toUInt8 :: bytes words

/-- The device with other contents of the response scratch buffer. -/
def withScratch (scratch : Vector UInt8 256) : Device D :=
  { dev with modbus := { dev.modbus with responseScratch := scratch } }

/-- A body and its checksum, written one after the other into a buffer. -/
private theorem front_writeAll_withCrc
    (scratch : Vector UInt8 256)
    (body : List UInt8)
    (fits : body.length ≤ 254) :
    FixedArray.front
      (FixedArray.writeAll (FixedArray.writeAll scratch 0 body) body.length
        (crcBytes (FixedArray.front (FixedArray.writeAll scratch 0 body) body.length)))
      (body.length + 2) = withCrc body := by
  have length : body.length + 2 = (body ++ crcBytes body).length := by simp
  have appended := FixedArray.writeAll_append scratch 0 body (crcBytes body)
  rw [Nat.zero_add] at appended
  rw [FixedArray.front_writeAll _ _ (by omega), ← appended, length,
    FixedArray.front_writeAll _ _ (by rw [← length]; omega), withCrc]

/-- A read is answered with its body and the checksum of the body. -/
theorem answerRead_eq
    (function : UInt8)
    (words : List UInt16)
    (fits : words.length ≤ 125) :
    ∃ scratch, dev.answerRead frame function words =
      (dev.withScratch scratch).answer frame
        (withCrc (readBody dev frame function words)) := by
  have bodyLength : (readBody dev frame function words).length ≤ 254 := by
    simp only [readBody, List.length_cons, length_bytes]
    omega
  refine ⟨_, congrArg (answer _ frame) ?_⟩
  exact front_writeAll_withCrc dev.modbus.responseScratch _ bodyLength

/-- What depends neither on the response scratch buffer nor on the transmitted
bytes is the same after a read. -/
theorem answerRead_keeps
    (function : UInt8)
    (words : List UInt16)
    (project : Device D → β)
    (insensitive : ∀ scratch transmitted,
      project { dev.withScratch scratch with transmitted := transmitted } =
        project dev) :
    project (dev.answerRead frame function words) = project dev := by
  unfold answerRead answer send
  simp only
  split
  · exact insensitive _ _
  · exact insensitive _ _

/-- The one response to a read that is no broadcast. -/
theorem answerRead_transmitted
    (function : UInt8)
    (words : List UInt16)
    (fits : words.length ≤ 125)
    (unicast : ¬ frame.IsBroadcast) :
    (dev.answerRead frame function words).transmitted =
      dev.transmitted ++ [withCrc (readBody dev frame function words)] := by
  have length : (withCrc (readBody dev frame function words)).length =
      5 + 2 * words.length := by
    simp only [withCrc, readBody, List.length_append, List.length_cons, length_bytes,
      length_crcBytes]
    omega
  obtain ⟨scratch, answered⟩ := answerRead_eq dev frame function words fits
  rw [answered, answer_transmitted _ _ _ unicast (by omega) (by omega)]
  rfl

theorem answerRead_broadcast
    (function : UInt8)
    (words : List UInt16)
    (broadcast : frame.IsBroadcast) :
    (dev.answerRead frame function words).transmitted = dev.transmitted := by
  unfold answerRead
  simp only
  rw [answer_broadcast _ _ _ broadcast]

@[simp] theorem answerRead_bank (function : UInt8) (words : List UInt16) :
    (dev.answerRead frame function words).modbus.bank = dev.modbus.bank :=
  answerRead_keeps dev frame function words (·.modbus.bank) fun _ _ => rfl

@[simp] theorem answerRead_holding
    (function : UInt8) (words : List UInt16) (reg : Nat) :
    (dev.answerRead frame function words).holding reg = dev.holding reg :=
  answerRead_keeps dev frame function words (·.holding reg) fun _ _ => rfl

@[simp] theorem answerRead_slaveAddress (function : UInt8) (words : List UInt16) :
    (dev.answerRead frame function words).modbus.slaveAddress =
      dev.modbus.slaveAddress :=
  answerRead_keeps dev frame function words (·.modbus.slaveAddress) fun _ _ => rfl

@[simp] theorem answerRead_tempVal (function : UInt8) (words : List UInt16) :
    (dev.answerRead frame function words).modbus.tempVal = dev.modbus.tempVal :=
  answerRead_keeps dev frame function words (·.modbus.tempVal) fun _ _ => rfl

@[simp] theorem answerRead_errors (function : UInt8) (words : List UInt16) :
    (dev.answerRead frame function words).errors = dev.errors :=
  answerRead_keeps dev frame function words (·.errors) fun _ _ => rfl

@[simp] theorem answerRead_deviceConfig (function : UInt8) (words : List UInt16) :
    (dev.answerRead frame function words).deviceConfig = dev.deviceConfig :=
  answerRead_keeps dev frame function words (·.deviceConfig) fun _ _ => rfl

@[simp] theorem answerRead_sensor (function : UInt8) (words : List UInt16) :
    (dev.answerRead frame function words).sensor = dev.sensor :=
  answerRead_keeps dev frame function words (·.sensor) fun _ _ => rfl

end

/-! ## The function code switch -/

section

/-- Words that a read of the holding registers returns. -/
def holdingWords (dev : Device D) (frame : FrameItem) : List UInt16 :=
  (List.range frame.qty.toNat).map fun i => dev.holdingRegister (frame.addr.toNat + i)

/-- Words that a read of the input registers returns. -/
def inputWords (dev : Device D) (frame : FrameItem) : List UInt16 :=
  (List.range frame.qty.toNat).map fun i => dev.inputRegister (frame.addr.toNat + i)

@[simp] theorem length_holdingWords (dev : Device D) (frame : FrameItem) :
    (dev.holdingWords frame).length = frame.qty.toNat := by
  simp [holdingWords]

@[simp] theorem length_inputWords (dev : Device D) (frame : FrameItem) :
    (dev.inputWords frame).length = frame.qty.toNat := by
  simp [inputWords]

/-- A write request that is too short for its function code. -/
def TooShort (frame : FrameItem) : Prop :=
  (frame.byte 1 = fcWriteSingleReg ∧ frame.len < 8) ∨
    (frame.byte 1 = fcWriteMultipleRegs ∧ frame.len < 9)

/-- A request that is answered with an exception. -/
def Illegal (frame : FrameItem) : Prop :=
  ((frame.byte 1 = fcReadHolding ∨ frame.byte 1 = fcReadInput) ∧
      ¬ frame.ReadInRange) ∨
    (frame.byte 1 = fcWriteSingleReg ∧ 8 ≤ frame.len ∧
      holdingRegSize ≤ frame.addr.toNat) ∨
    (frame.byte 1 = fcWriteMultipleRegs ∧ 9 ≤ frame.len ∧
      ¬ frame.WriteMultipleValid) ∨
    (frame.byte 1 ≠ fcReadHolding ∧ frame.byte 1 ≠ fcReadInput ∧
      frame.byte 1 ≠ fcWriteSingleReg ∧ frame.byte 1 ≠ fcWriteMultipleRegs)

variable [DoubleArith D]

/-- Results of the function code switch. -/
inductive Handled (dev : Device D) (frame : FrameItem) : UInt8 × Device D → Prop
  | tooShort
      (short : TooShort frame) :
      Handled dev frame (0, dev)
  | refused
      (errorCode : UInt8)
      (illegal : Illegal frame) :
      Handled dev frame (0, dev.answerError frame (frame.byte 1) errorCode)
  | readHolding
      (code : frame.byte 1 = fcReadHolding)
      (inRange : frame.ReadInRange) :
      Handled dev frame
        (1, dev.answerRead frame (frame.byte 1) (dev.holdingWords frame))
  | readInput
      (code : frame.byte 1 = fcReadInput)
      (inRange : frame.ReadInRange) :
      Handled dev frame
        (1, dev.updateLiveInputs.answerRead frame (frame.byte 1)
          (dev.updateLiveInputs.inputWords frame))
  | writeSingle
      (code : frame.byte 1 = fcWriteSingleReg)
      (long : 8 ≤ frame.len)
      (writable : frame.addr.toNat < holdingRegSize) :
      Handled dev frame
        (1, (dev.setHoldingRegister frame.addr.toNat frame.qty).answer frame
          (writeEcho frame))
  | writeMultiple
      (code : frame.byte 1 = fcWriteMultipleRegs)
      (long : 9 ≤ frame.len)
      (valid : frame.WriteMultipleValid) :
      Handled dev frame
        (1, (((dev.writeRegisters frame).answer frame (writeEcho frame)).runCommand
          frame.addr frame.qty).2)

/-- The switch does nothing else. -/
theorem dispatch_handled (dev : Device D) (frame : FrameItem) :
    Handled dev frame (dev.dispatch frame) := by
  unfold dispatch
  by_cases readHolding : frame.byte 1 = fcReadHolding
  · rw [if_pos readHolding, processReadHoldingRegisters]
    by_cases inRange : frame.ReadInRange
    · rw [if_pos inRange, ← readHolding]
      exact .readHolding readHolding inRange
    · rw [if_neg inRange, ← readHolding]
      exact .refused _ (Or.inl ⟨Or.inl readHolding, inRange⟩)
  rw [if_neg readHolding]
  by_cases readInput : frame.byte 1 = fcReadInput
  · rw [if_pos readInput, processReadInputRegisters]
    by_cases inRange : frame.ReadInRange
    · rw [if_pos inRange, ← readInput]
      exact .readInput readInput inRange
    · rw [if_neg inRange, ← readInput]
      exact .refused _ (Or.inl ⟨Or.inr readInput, inRange⟩)
  rw [if_neg readInput]
  by_cases writeSingle : frame.byte 1 = fcWriteSingleReg
  · rw [if_pos writeSingle, processWriteSingleRegister]
    by_cases short : frame.len < 8
    · rw [if_pos short]
      exact .tooShort (Or.inl ⟨writeSingle, short⟩)
    have long : 8 ≤ frame.len := UInt16.not_lt.mp short
    rw [if_neg short, isWritable]
    by_cases writable : frame.addr.toNat < holdingRegSize
    · simp only [if_pos writable]
      exact .writeSingle writeSingle long writable
    · simp only [if_neg writable, ← writeSingle]
      exact .refused _ (Or.inr (Or.inl ⟨writeSingle, long, Nat.not_lt.mp writable⟩))
  rw [if_neg writeSingle]
  by_cases writeMultiple : frame.byte 1 = fcWriteMultipleRegs
  · rw [if_pos writeMultiple, processWriteMultipleRegisters]
    by_cases short : frame.len < 9
    · rw [if_pos short]
      exact .tooShort (Or.inr ⟨writeMultiple, short⟩)
    have long : 9 ≤ frame.len := UInt16.not_lt.mp short
    rw [if_neg short]
    by_cases valid : frame.WriteMultipleValid
    · rw [if_neg (not_not_intro valid)]
      exact .writeMultiple writeMultiple long valid
    · rw [if_pos valid, ← writeMultiple]
      exact .refused _ (Or.inr (Or.inr (Or.inl ⟨writeMultiple, long, valid⟩)))
  rw [if_neg writeMultiple]
  exact .refused _
    (Or.inr (Or.inr (Or.inr ⟨readHolding, readInput, writeSingle, writeMultiple⟩)))

end

section

variable (dev : Device D) {frame : FrameItem} (valid : frame.WriteMultipleValid)

include valid

/-- A multiple write stores its payload words in the registers it covers. -/
theorem writeRegisters_holding (reg : Nat) :
    (dev.writeRegisters frame).holding reg =
      if frame.addr.toNat ≤ reg ∧ reg < frame.addr.toNat + frame.qty.toNat then
        frame.wordAt (7 + (reg - frame.addr.toNat) * 2)
      else dev.holding reg := by
  rw [writeRegisters, updateBank_holding,
    RegisterBank.holding_fillLoop frame.addr.toNat (fun i => frame.wordAt (7 + i * 2))
      _ _ _ valid.2.2.2.1]
  rfl

end

section

variable [DoubleArith D]

/-! ## The frame -/

/-- The frame passes the length check, the CRC and the address filter. -/
def Reaches (dev : Device D) (frame : FrameItem) : Prop :=
  4 ≤ frame.len ∧ frame.CrcMatches ∧ dev.noteValidFrame.Addressed frame

instance (dev : Device D) (frame : FrameItem) : Decidable (dev.Reaches frame) :=
  inferInstanceAs (Decidable (_ ∧ _))

/-- Results of `processFrame`. -/
inductive Processed (dev : Device D) : Option FrameItem → UInt8 × Device D → Prop
  | absent :
      Processed dev none (0, dev)
  | runt
      (frame : FrameItem)
      (short : frame.len < 4) :
      Processed dev (some frame) (0, dev)
  | corrupted
      (frame : FrameItem)
      (long : 4 ≤ frame.len)
      (mismatch : ¬ frame.CrcMatches) :
      Processed dev (some frame) (0, { dev with errors := dev.errors.reportCrcError })
  | foreign
      (frame : FrameItem)
      (long : 4 ≤ frame.len)
      (crc : frame.CrcMatches)
      (other : ¬ dev.noteValidFrame.Addressed frame) :
      Processed dev (some frame) (0, dev.noteValidFrame)
  | dispatched
      (frame : FrameItem)
      (reaches : dev.Reaches frame) :
      Processed dev (some frame) (dev.noteValidFrame.dispatch frame)

/-- A frame that reaches the switch is dispatched. -/
theorem processFrame_of_reaches
    {dev : Device D}
    {frame : FrameItem}
    (reaches : dev.Reaches frame) :
    dev.processFrame (some frame) = dev.noteValidFrame.dispatch frame := by
  obtain ⟨long, crc, addressed⟩ := reaches
  have notShort : ¬ frame.len < 4 := UInt16.not_lt.mpr long
  simp only [processFrame, if_neg notShort, if_neg (not_not_intro crc),
    if_neg (not_not_intro addressed)]

/-- `processFrame` does nothing else. -/
theorem processFrame_processed (dev : Device D) (frame : Option FrameItem) :
    Processed dev frame (dev.processFrame frame) := by
  cases frame with
  | none => exact .absent
  | some frame =>
      by_cases short : frame.len < 4
      · simp only [processFrame, if_pos short]
        exact .runt frame short
      have long : 4 ≤ frame.len := UInt16.not_lt.mp short
      by_cases crc : frame.CrcMatches
      · by_cases addressed : dev.noteValidFrame.Addressed frame
        · rw [processFrame_of_reaches ⟨long, crc, addressed⟩]
          exact .dispatched frame ⟨long, crc, addressed⟩
        · simp only [processFrame, if_neg short, if_neg (not_not_intro crc),
            if_pos addressed]
          exact .foreign frame long crc addressed
      · simp only [processFrame, if_neg short, if_pos crc]
        exact .corrupted frame long crc

/-- Only a frame that reaches the switch is accepted. -/
theorem reaches_of_accepted
    {dev : Device D}
    {frame : FrameItem}
    (accepted : (dev.processFrame (some frame)).1 ≠ 0) :
    dev.Reaches frame := by
  have processed := processFrame_processed dev (some frame)
  generalize dev.processFrame (some frame) = result at processed accepted
  cases processed with
  | runt => exact absurd rfl accepted
  | corrupted => exact absurd rfl accepted
  | foreign => exact absurd rfl accepted
  | dispatched _ reaches => exact reaches

end

end Device

end SensorFirmware
