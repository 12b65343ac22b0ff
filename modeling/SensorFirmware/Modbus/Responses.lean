import SensorFirmware.Modbus.Requests

/-!
# Responses and discarded traffic

What a device transmits: at most one well-formed response to each frame, and
nothing to a frame that is not meant for it alone.  Traffic that is malformed
or meant for another device leaves only its trace in the error counters.
-/

namespace SensorFirmware

open BigEndian ModbusService

/-- A response of the device with the given slave id to a request with the
given function code. -/
structure WellFormedResponse (id function : UInt8) (response : List UInt8) : Prop where
  length_le : response.length ≤ 255
  address : response[0]? = some id
  function : response[1]? = some function ∨ response[1]? = some (function ||| 0x80)
  /-- The checksum of all preceding bytes comes last, low byte first. -/
  checksum : ∃ body, response =
    body ++ [lowByte (crc16 body), highByte (crc16 body)]

/-- A body that starts with id and function code becomes a response. -/
theorem WellFormedResponse.withCrc
    {id function : UInt8}
    {body : List UInt8}
    (fits : body.length ≤ 253)
    (address : body[0]? = some id)
    (code : body[1]? = some function ∨ body[1]? = some (function ||| 0x80)) :
    WellFormedResponse id function (withCrc body) := by
  have longer {index : Nat} {byte : UInt8} (at_ : body[index]? = some byte) :
      (SensorFirmware.withCrc body)[index]? = some byte := by
    rw [SensorFirmware.withCrc, List.getElem?_append_left, at_]
    exact (List.getElem?_eq_some_iff.mp at_).1
  exact
    { length_le := by
        simp only [SensorFirmware.withCrc, List.length_append, length_crcBytes]
        omega
      address := longer address
      function := code.imp longer longer
      checksum := ⟨body, rfl⟩ }

namespace Device

/-- At most one response is added to the transmitted ones, and it is well
formed. -/
def Responds (id function : UInt8) (before after : List (List UInt8)) : Prop :=
  after = before ∨
    ∃ response, WellFormedResponse id function response ∧ after = before ++ [response]

section

variable (dev : Device D) (frame : FrameItem)

/-- An answer is a response when the frame is addressed to the device. -/
theorem answer_responds
    {body : List UInt8}
    (fits : body.length ≤ 253)
    (address : ¬ frame.IsBroadcast → body[0]? = some dev.modbus.slaveAddress)
    (code : body[1]? = some (frame.byte 1) ∨ body[1]? = some (frame.byte 1 ||| 0x80)) :
    Responds dev.modbus.slaveAddress (frame.byte 1) dev.transmitted
      (dev.answer frame (withCrc body)).transmitted := by
  by_cases broadcast : frame.IsBroadcast
  · rw [answer_broadcast dev frame _ broadcast]
    exact Or.inl rfl
  · have length : (withCrc body).length = body.length + 2 := by simp [withCrc]
    refine Or.inr ⟨withCrc body, .withCrc fits (address broadcast) code, ?_⟩
    exact answer_transmitted dev frame _ broadcast (by omega) (by omega)

theorem front_six_getElem?
    (index : Nat)
    (inside : index < 6) :
    (FixedArray.front frame.data 6)[index]? = some (frame.byte index) := by
  have length : (FixedArray.front frame.data 6).length = 6 := by simp
  rw [List.getElem?_eq_getElem (by omega), FixedArray.getElem_front]
  rfl

/-- The echo of a write is a response. -/
theorem writeEcho_responds
    (own : ¬ frame.IsBroadcast → frame.byte 0 = dev.modbus.slaveAddress) :
    Responds dev.modbus.slaveAddress (frame.byte 1) dev.transmitted
      (dev.answer frame (writeEcho frame)).transmitted := by
  apply answer_responds dev frame (by simp)
  · intro unicast
    rw [front_six_getElem? frame 0 (by decide), own unicast]
  · exact Or.inl (front_six_getElem? frame 1 (by decide))

/-- So is the answer to a read in range. -/
theorem answerRead_responds
    (words : List UInt16)
    (few : words.length ≤ 125) :
    Responds dev.modbus.slaveAddress (frame.byte 1) dev.transmitted
      (dev.answerRead frame (frame.byte 1) words).transmitted := by
  obtain ⟨scratch, answered⟩ := answerRead_eq dev frame (frame.byte 1) words few
  rw [answered]
  apply answer_responds (dev.withScratch scratch) frame
  · simp only [readBody, List.length_cons, length_bytes]
    omega
  · exact fun _ => rfl
  · exact Or.inl rfl

/-- So is an exception. -/
theorem answerError_responds
    (errorCode : UInt8) :
    Responds dev.modbus.slaveAddress (frame.byte 1) dev.transmitted
      (dev.answerError frame (frame.byte 1) errorCode).transmitted := by
  by_cases broadcast : frame.IsBroadcast
  · rw [answerError_broadcast _ _ _ _ broadcast]
    exact Or.inl rfl
  · right
    refine ⟨_, .withCrc ?_ rfl (Or.inr rfl),
      answerError_transmitted dev frame _ _ broadcast⟩
    simp

end

variable [DoubleArith D]

/-- The function code switch answers with at most one response. -/
theorem dispatch_responds
    (dev : Device D)
    (frame : FrameItem)
    (addressed : dev.Addressed frame) :
    Responds dev.modbus.slaveAddress (frame.byte 1) dev.transmitted
      (dev.dispatch frame).2.transmitted := by
  have own (unicast : ¬ frame.IsBroadcast) :
      frame.byte 0 = dev.modbus.slaveAddress := addressed.resolve_left unicast
  have handled := dispatch_handled dev frame
  generalize dev.dispatch frame = result at handled ⊢
  cases handled with
  | tooShort => exact Or.inl rfl
  | refused errorCode => exact answerError_responds dev frame errorCode
  | readHolding _ inRange =>
      apply answerRead_responds
      rw [length_holdingWords]
      exact inRange.few
  | readInput _ inRange =>
      rw [← updateLiveInputs_transmitted dev, ← updateLiveInputs_slaveAddress dev]
      apply answerRead_responds
      rw [length_inputWords]
      exact inRange.few
  | writeSingle => exact writeEcho_responds (dev.setHoldingRegister _ _) frame own
  | writeMultiple =>
      rw [runCommand_transmitted]
      exact writeEcho_responds (dev.writeRegisters frame) frame own

/-- A broadcast is processed in silence. -/
theorem dispatch_broadcast_silent
    (dev : Device D)
    (frame : FrameItem)
    (broadcast : frame.IsBroadcast) :
    (dev.dispatch frame).2.transmitted = dev.transmitted := by
  have handled := dispatch_handled dev frame
  generalize dev.dispatch frame = result at handled ⊢
  cases handled with
  | tooShort => rfl
  | refused => rw [answerError_broadcast _ _ _ _ broadcast]
  | readHolding => rw [answerRead_broadcast _ _ _ _ broadcast]
  | readInput =>
      rw [answerRead_broadcast _ _ _ _ broadcast, updateLiveInputs_transmitted]
  | writeSingle => rw [answer_broadcast _ _ _ broadcast]; rfl
  | writeMultiple =>
      rw [runCommand_transmitted, answer_broadcast _ _ _ broadcast]
      rfl

/-- The same two facts for a whole frame, with the slave id that is in force
before it. -/
theorem frameStep_responds
    (dev : Device D)
    (frame : FrameItem)
    (valid : dev.IdValid) :
    Responds dev.deviceConfig.id.toUInt8 (frame.byte 1) dev.transmitted
      (dev.frameStep frame).transmitted := by
  rw [frameStep]
  have processed := processFrame_processed dev (some frame)
  generalize dev.processFrame (some frame) = result at processed ⊢
  cases processed with
  | runt => exact Or.inl rfl
  | corrupted => exact Or.inl rfl
  | foreign => exact Or.inl rfl
  | dispatched _ reaches =>
      rw [← noteValidFrame_slaveAddress valid]
      exact dispatch_responds dev.noteValidFrame frame reaches.2.2

theorem frameStep_silent
    (dev : Device D)
    (frame : FrameItem)
    (valid : dev.IdValid)
    (unanswered : frame.len < 4 ∨ ¬ frame.CrcMatches ∨ frame.byte 0 = 0 ∨
      frame.byte 0 ≠ dev.deviceConfig.id.toUInt8) :
    (dev.frameStep frame).transmitted = dev.transmitted := by
  rw [frameStep]
  have processed := processFrame_processed dev (some frame)
  generalize dev.processFrame (some frame) = result at processed ⊢
  cases processed with
  | runt => rfl
  | corrupted => rfl
  | foreign => rfl
  | dispatched _ reaches =>
      obtain ⟨long, crc, addressed⟩ := reaches
      rw [Addressed, noteValidFrame_slaveAddress valid] at addressed
      have notShort : ¬ frame.len < 4 := UInt16.not_lt.mpr long
      have broadcast : frame.IsBroadcast := by
        rcases addressed with broadcast | own
        · exact broadcast
        · exact (unanswered.resolve_left notShort).resolve_left (not_not_intro crc)
            |>.resolve_right (not_not_intro own)
      exact dispatch_broadcast_silent dev.noteValidFrame frame broadcast

/-- Every run of frames after initialization with a legal slave id: each frame
is answered at most once and with a well-formed response of the id in force
before it, and frames that are malformed, broadcast or foreign are not
answered. -/
theorem runFrames_responds
    (dev : Device D)
    (slaveAddress : UInt8)
    (frames : List FrameItem)
    (frame : FrameItem)
    (idValid : (dev.initialized slaveAddress).IdValid) :
    let before := (dev.initialized slaveAddress).runFrames frames
    let id := before.deviceConfig.id.toUInt8
    before.IdValid ∧
      ((dev.initialized slaveAddress).IdInForce → before.IdInForce) ∧
      Responds id (frame.byte 1) before.transmitted
        (before.frameStep frame).transmitted ∧
      (frame.len < 4 ∨ ¬ frame.CrcMatches ∨ frame.byte 0 = 0 ∨ frame.byte 0 ≠ id →
        (before.frameStep frame).transmitted = before.transmitted) := by
  intro before id
  have valid : before.IdValid :=
    Transition.run_invariant IdValid (fun _ _ => frameStep_idValid) idValid frames
  refine ⟨valid, ?_, frameStep_responds before frame valid,
    frameStep_silent before frame valid⟩
  intro inForce
  exact (Transition.run_invariant
    (fun dev : Device D => dev.IdValid ∧ dev.IdInForce)
    (fun _ _ both => ⟨frameStep_idValid both.1, frameStep_idInForce both.1 both.2⟩)
    ⟨idValid, inForce⟩ frames).2

theorem runFrames_responds_read :
    let frame := makeFrame [1, fcReadHolding, 0, 0, 0, 1]
    let before := ((firstBoot BuildInfo.unitTest : Device ℚ).initialized 1).runFrames
      [frame]
    let id := before.deviceConfig.id.toUInt8
    before.IdValid ∧
      (((firstBoot BuildInfo.unitTest : Device ℚ).initialized 1).IdInForce →
        before.IdInForce) ∧
      Responds id (frame.byte 1) before.transmitted
        (before.frameStep frame).transmitted ∧
      (frame.len < 4 ∨ ¬ frame.CrcMatches ∨ frame.byte 0 = 0 ∨ frame.byte 0 ≠ id →
        (before.frameStep frame).transmitted = before.transmitted) := by
  have keyed : (firstBoot BuildInfo.unitTest : Device ℚ).deviceConfig.verifyKey =
      configMagicNum := by
    rw [firstBoot_deviceConfig]
    rfl
  have idValid : ((firstBoot BuildInfo.unitTest : Device ℚ).initialized 1).IdValid := by
    rw [IdValid, initialized_deviceConfig 1 keyed]
    exact firstBoot_idValid _
  exact runFrames_responds _ 1 _ _ idValid

/-! ## Discarded traffic -/

/-- A frame that is too short, fails the CRC or is addressed to another device
leaves its trace in the error counters and changes nothing else. -/
theorem processFrame_discards
    (dev : Device D)
    (frame : FrameItem)
    (valid : dev.IdValid)
    (inForce : dev.IdInForce)
    (discarded : frame.len < 4 ∨ ¬ frame.CrcMatches ∨
      (frame.byte 0 ≠ 0 ∧ frame.byte 0 ≠ dev.modbus.slaveAddress)) :
    dev.processFrame (some frame) =
      (0,
        { dev with
          errors :=
            if frame.len < 4 then dev.errors
            else if ¬ frame.CrcMatches then
              { dev.errors with crcCount := incrementSaturated dev.errors.crcCount }
            else { dev.errors with consecutiveUartOverflowCount := 0 } }) := by
  have address := noteValidFrame_slaveAddress valid
  rw [← inForce] at address
  have noted : dev.noteValidFrame =
      { dev with errors := { dev.errors with consecutiveUartOverflowCount := 0 } } := by
    unfold noteValidFrame at address ⊢
    simp only at address
    rw [address]
    rfl
  by_cases short : frame.len < 4
  · simp only [processFrame, if_pos short]
  by_cases crc : frame.CrcMatches
  · have foreign := (discarded.resolve_left short).resolve_left (not_not_intro crc)
    have unaddressed : ¬ dev.noteValidFrame.Addressed frame := by
      rintro (broadcast | own)
      · exact foreign.1 broadcast
      · exact foreign.2 (own.trans address)
    simp only [processFrame, if_neg short, if_neg (not_not_intro crc),
      if_pos unaddressed]
    rw [noted]
  · simp only [processFrame, if_neg short, if_pos crc]
    rfl

/-- A request to device 2 after the first boot of device 1. -/
theorem processFrame_discards_foreign :
    let dev : Device ℚ := firstBoot BuildInfo.unitTest
    let frame := twoWordRequest 2 fcReadHolding 0 1
    dev.processFrame (some frame) =
      (0,
        { dev with
          errors :=
            if frame.len < 4 then dev.errors
            else if ¬ frame.CrcMatches then
              { dev.errors with crcCount := incrementSaturated dev.errors.crcCount }
            else { dev.errors with consecutiveUartOverflowCount := 0 } }) := by
  intro dev frame
  have inForce : dev.IdInForce := boot_idInForce _ _ _
  have address : frame.byte 0 = 2 := twoWordRequest_byte 2 _ _ _ 0 (by decide)
  have own : dev.modbus.slaveAddress = 1 := inForce.trans (firstBoot_id _)
  refine processFrame_discards dev frame (firstBoot_idValid _) inForce
    (Or.inr (Or.inr ?_))
  rw [address, own]
  decide

end Device

end SensorFirmware
