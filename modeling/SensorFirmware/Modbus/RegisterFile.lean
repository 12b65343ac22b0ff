import SensorFirmware.Library.WriteLog
import SensorFirmware.Modbus.Mirror
import SensorFirmware.Modbus.Requests

/-!
# The register file

Without commands the holding registers are a plain memory: accepted writes are
block writes, everything else leaves them alone, and a read returns what was
last written.  The diagnostic registers and the baud rate are computed instead.
-/

namespace SensorFirmware

open BigEndian ModbusService

namespace Device

/-- Refreshing the live values writes no holding register but the diagnostics. -/
theorem updateLiveInputs_holding
    (dev : Device D)
    (reg : Nat)
    (plain : reg ∉ RegisterBank.diagnosticRegs) :
    dev.updateLiveInputs.holding reg = dev.holding reg :=
  (RegisterBank.updateDiagnosticRegisters_footprint dev.errors).holding _ reg plain

/-- The payload of a multiple write, seen as a block write. -/
theorem writeRegisters_holding_store
    (dev : Device D)
    {frame : FrameItem}
    (valid : frame.WriteMultipleValid)
    (reg : Nat) :
    (dev.writeRegisters frame).holding reg =
      BlockWrite.store dev.holding
        ⟨frame.addr.toNat, frame.payload frame.qty.toNat⟩ reg := by
  simp only [writeRegisters_holding dev valid, BlockWrite.store, BlockWrite.Covers,
    FrameItem.length_payload]
  split
  · rename_i covered
    have inside : reg - frame.addr.toNat < frame.qty.toNat := by omega
    simp [BlockWrite.value, FrameItem.payload, inside]
  · rfl

/-- The words of a read in range, one by one. -/
theorem holdingWords_getElem?
    (dev : Device D)
    {read : FrameItem}
    (inRange : read.ReadInRange)
    (i : Nat)
    (inside : i < read.qty.toNat)
    (stored : read.addr.toNat + i ≠ regBaudRate) :
    (dev.holdingWords read)[i]? = some (dev.holding (read.addr.toNat + i)) := by
  have inArray : read.addr.toNat + i < holdingRegSize := by
    have bound := inRange.2.2
    omega
  have register : dev.holdingRegister (read.addr.toNat + i) =
      dev.holding (read.addr.toNat + i) := by
    rw [holdingRegister, if_pos inArray, if_neg stored]
  rw [← register]
  simp [holdingWords, inside]

variable [DoubleArith D]

/-- The block write that an accepted write request stands for. -/
def acceptedWrite (dev : Device D) (frame : FrameItem) : Option (BlockWrite UInt16) :=
  if (dev.processFrame (some frame)).1 = 0 then none
  else if frame.byte 1 = fcWriteSingleReg then
    some ⟨frame.addr.toNat, [frame.qty]⟩
  else if frame.byte 1 = fcWriteMultipleRegs then
    some ⟨frame.addr.toNat, frame.payload frame.qty.toNat⟩
  else none

/-- The accepted writes of a run, oldest first. -/
def writeLog (dev : Device D) : List FrameItem → List (BlockWrite UInt16)
  | [] => []
  | frame :: frames =>
      (dev.acceptedWrite frame).toList ++ (dev.frameStep frame).writeLog frames

/-- The address filter's slave id for the next frame. -/
def idInForce (dev : Device D) : UInt8 := dev.noteValidFrame.modbus.slaveAddress

/-- The frame is a read of input registers that is carried out. -/
def ReadsInput (dev : Device D) (frame : FrameItem) : Prop :=
  dev.Reaches frame ∧ frame.byte 1 = fcReadInput ∧ frame.ReadInRange

/-- One frame that runs no command changes the holding registers by its
accepted write, a read of input registers apart, which refreshes the
diagnostics. -/
theorem frameStep_holding_of_unrefreshed
    {dev : Device D}
    {frame : FrameItem}
    (quiet : ¬ dev.RunsCommand frame)
    (reg : Nat)
    (unrefreshed : dev.ReadsInput frame → reg ∉ RegisterBank.diagnosticRegs) :
    (dev.frameStep frame).holding reg =
      (dev.acceptedWrite frame).toList.foldl BlockWrite.store dev.holding reg := by
  rw [frameStep, acceptedWrite]
  have processed := processFrame_processed dev (some frame)
  generalize dev.processFrame (some frame) = result at processed ⊢
  cases processed with
  | runt => rfl
  | corrupted => rfl
  | foreign => rfl
  | dispatched _ reaches =>
      have handled := dispatch_handled dev.noteValidFrame frame
      generalize dev.noteValidFrame.dispatch frame = result at handled ⊢
      cases handled with
      | tooShort => rfl
      | refused => exact answerError_holding _ _ _ _ _
      | readHolding code =>
          rw [answerRead_holding, code]
          rfl
      | readInput code inRange =>
          have plain := unrefreshed ⟨reaches, code, inRange⟩
          rw [answerRead_holding, updateLiveInputs_holding _ _ plain, code]
          rfl
      | writeSingle code _ writable =>
          have stored := BlockWrite.store_single dev.holding frame.addr.toNat reg frame.qty
          have inArray : frame.addr.toNat < 128 := writable
          rw [answer_holding, setHoldingRegister, updateBank_holding, if_pos writable,
            RegisterBank.holding_setHolding, code]
          simp only [inArray, and_true]
          exact stored.symm
      | writeMultiple code long valid =>
          have uncovered : ¬ CoversCommand frame.addr frame.qty :=
            fun covered => quiet ⟨reaches, code, long, valid, covered⟩
          rw [runCommand_uncovered uncovered, answer_holding,
            writeRegisters_holding_store _ valid, code]
          rfl

/-- Outside the diagnostics the accepted write is the only change. -/
theorem frameStep_holding
    {dev : Device D}
    {frame : FrameItem}
    (quiet : ¬ dev.RunsCommand frame)
    (reg : Nat)
    (plain : reg ∉ RegisterBank.diagnosticRegs) :
    (dev.frameStep frame).holding reg =
      (dev.acceptedWrite frame).toList.foldl BlockWrite.store dev.holding reg :=
  frameStep_holding_of_unrefreshed quiet reg fun _ => plain

/-- A run without commands applies its accepted writes in order. -/
theorem runFrames_holding
    {dev : Device D}
    {frames : List FrameItem}
    (quiet : Transition.AllSteps frameStep (fun dev frame => ¬ dev.RunsCommand frame)
      dev frames)
    (reg : Nat)
    (plain : reg ∉ RegisterBank.diagnosticRegs) :
    (dev.runFrames frames).holding reg =
      (dev.writeLog frames).foldl BlockWrite.store dev.holding reg := by
  induction frames generalizing dev with
  | nil => rfl
  | cons frame frames inductionHypothesis =>
      obtain ⟨first, rest⟩ := quiet
      have step := frameStep_holding first reg plain
      rw [runFrames_cons, writeLog, List.foldl_append]
      exact (inductionHypothesis rest).trans (BlockWrite.foldl_store_congr step _)

/-- An accepted read of holding registers was in range and is answered with
their words. -/
theorem processFrame_readHolding
    {dev : Device D}
    {read : FrameItem}
    (accepted : (dev.processFrame (some read)).1 ≠ 0)
    (code : read.byte 1 = fcReadHolding) :
    read.ReadInRange ∧
      dev.frameStep read =
        dev.noteValidFrame.answerRead read fcReadHolding (dev.holdingWords read) := by
  have reaches := reaches_of_accepted accepted
  rw [processFrame_of_reaches reaches, dispatch, if_pos code,
    processReadHoldingRegisters] at accepted
  rw [frameStep, processFrame_of_reaches reaches, dispatch, if_pos code,
    processReadHoldingRegisters]
  by_cases inRange : read.ReadInRange
  · rw [if_pos inRange]
    exact ⟨inRange, rfl⟩
  · rw [if_neg inRange] at accepted
    exact absurd rfl accepted

/-- What it transmits to a master that asked for it alone. -/
theorem processFrame_readHolding_transmitted
    {dev : Device D}
    {read : FrameItem}
    (accepted : (dev.processFrame (some read)).1 ≠ 0)
    (code : read.byte 1 = fcReadHolding)
    (unicast : ¬ read.IsBroadcast) :
    (dev.frameStep read).transmitted =
      dev.transmitted ++
        [withCrc (dev.idInForce :: fcReadHolding :: (read.qty * 2).toUInt8 ::
          bytes (dev.holdingWords read))] := by
  obtain ⟨inRange, step⟩ := processFrame_readHolding accepted code
  have few : (dev.holdingWords read).length ≤ 125 := by
    rw [length_holdingWords]
    exact inRange.few
  rw [step]
  exact answerRead_transmitted dev.noteValidFrame read fcReadHolding _ few unicast

/-- An accepted read of input registers was in range, refreshed the live values
and is answered with the words it then found. -/
theorem processFrame_readInput
    {dev : Device D}
    {read : FrameItem}
    (accepted : (dev.processFrame (some read)).1 ≠ 0)
    (code : read.byte 1 = fcReadInput) :
    let live := dev.noteValidFrame.updateLiveInputs
    read.ReadInRange ∧
      dev.frameStep read = live.answerRead read fcReadInput (live.inputWords read) := by
  intro live
  have reaches := reaches_of_accepted accepted
  have notHolding : ¬ read.byte 1 = fcReadHolding := by
    rw [code]
    decide
  rw [processFrame_of_reaches reaches, dispatch, if_neg notHolding, if_pos code,
    processReadInputRegisters] at accepted
  rw [frameStep, processFrame_of_reaches reaches, dispatch, if_neg notHolding,
    if_pos code, processReadInputRegisters]
  by_cases inRange : read.ReadInRange
  · rw [if_pos inRange]
    exact ⟨inRange, rfl⟩
  · rw [if_neg inRange] at accepted
    exact absurd rfl accepted

/-- What it transmits to a master that asked for it alone. -/
theorem processFrame_readInput_transmitted
    {dev : Device D}
    {read : FrameItem}
    (accepted : (dev.processFrame (some read)).1 ≠ 0)
    (code : read.byte 1 = fcReadInput)
    (unicast : ¬ read.IsBroadcast) :
    (dev.frameStep read).transmitted =
      dev.transmitted ++
        [withCrc (dev.idInForce :: fcReadInput :: (read.qty * 2).toUInt8 ::
          bytes (dev.noteValidFrame.updateLiveInputs.inputWords read))] := by
  obtain ⟨inRange, step⟩ := processFrame_readInput accepted code
  generalize live_eq : dev.noteValidFrame.updateLiveInputs = live at step ⊢
  have address : live.modbus.slaveAddress = dev.idInForce := by
    rw [← live_eq, updateLiveInputs_slaveAddress]
    rfl
  have sent : live.transmitted = dev.transmitted := by
    rw [← live_eq, updateLiveInputs_transmitted]
    rfl
  have few : (live.inputWords read).length ≤ 125 := by
    rw [length_inputWords]
    exact inRange.few
  rw [step, answerRead_transmitted live read fcReadInput _ few unicast, readBody,
    address, sent]

/-- After any run of frames that run no command, an accepted unicast read of
holding registers transmits one response of the slave id in force, with the
words last written. -/
theorem runFrames_reads_lastWritten
    (dev : Device D)
    (frames : List FrameItem)
    (read : FrameItem)
    (quiet : Transition.AllSteps frameStep (fun dev frame => ¬ dev.RunsCommand frame)
      dev frames)
    (accepted : ((dev.runFrames frames).processFrame (some read)).1 ≠ 0)
    (code : read.byte 1 = fcReadHolding)
    (unicast : ¬ read.IsBroadcast) :
    let before := dev.runFrames frames
    ∃ words : List UInt16,
      words.length = read.qty.toNat ∧
      (before.frameStep read).transmitted =
        before.transmitted ++
          [withCrc (before.idInForce :: fcReadHolding :: (read.qty * 2).toUInt8 ::
            bytes words)] ∧
      ∀ i, i < read.qty.toNat → read.addr.toNat + i ≠ regBaudRate →
        read.addr.toNat + i ∉ RegisterBank.diagnosticRegs →
          ∃ word, words[i]? = some word ∧
            BlockWrite.LastWritten dev.holding (dev.writeLog frames)
              (read.addr.toNat + i) word := by
  intro before
  obtain ⟨inRange, _⟩ := processFrame_readHolding accepted code
  refine ⟨before.holdingWords read, length_holdingWords before read,
    processFrame_readHolding_transmitted accepted code unicast, ?_⟩
  intro i inside stored plain
  refine ⟨_, holdingWords_getElem? before inRange i inside stored, ?_⟩
  rw [runFrames_holding quiet _ plain]
  exact BlockWrite.lastWritten_foldl_store dev.holding (dev.writeLog frames) _

/-- A threshold is written and read back. -/
theorem runFrames_reads_threshold :
    let dev : Device ℚ := firstBoot BuildInfo.unitTest
    let frames := [twoWordRequest 1 fcWriteSingleReg 0x26 700]
    let read := twoWordRequest 1 fcReadHolding 0x26 1
    let before := dev.runFrames frames
    ∃ words : List UInt16,
      words.length = read.qty.toNat ∧
      (before.frameStep read).transmitted =
        before.transmitted ++
          [withCrc (before.idInForce :: fcReadHolding :: (read.qty * 2).toUInt8 ::
            bytes words)] ∧
      ∀ i, i < read.qty.toNat → read.addr.toNat + i ≠ regBaudRate →
        read.addr.toNat + i ∉ RegisterBank.diagnosticRegs →
          ∃ word, words[i]? = some word ∧
            BlockWrite.LastWritten dev.holding (dev.writeLog frames)
              (read.addr.toNat + i) word := by
  intro dev frames read before
  have quiet : ¬ dev.RunsCommand (twoWordRequest 1 fcWriteSingleReg 0x26 700) := by
    rintro ⟨_, code, _⟩
    rw [twoWordRequest_byte _ _ _ _ 1 (by decide)] at code
    exact absurd code (by decide)
  have config : before.deviceConfig = SettingsStruct.defaults := by
    have run : before = dev.frameStep (twoWordRequest 1 fcWriteSingleReg 0x26 700) :=
      runFrames_cons dev _ []
    rw [run, ignoresTraffic_deviceConfig.frameStep quiet]
    exact firstBoot_deviceConfig _
  have idValid : before.IdValid := by
    rw [IdValid, config]
    decide
  have own : before.deviceConfig.id.toUInt8 = 1 := by
    rw [config]
    rfl
  have reaches : before.Reaches read :=
    reaches_twoWordRequest idValid own fcReadHolding 0x26 1
  have code : read.byte 1 = fcReadHolding := twoWordRequest_byte _ _ _ _ 1 (by decide)
  have inRange : read.ReadInRange := by
    rw [FrameItem.ReadInRange, twoWordRequest_addr, twoWordRequest_qty]
    decide
  have accepted : (before.processFrame (some read)).1 ≠ 0 := by
    rw [processFrame_of_reaches reaches, dispatch, if_pos code,
      processReadHoldingRegisters, if_pos inRange]
    decide
  exact runFrames_reads_lastWritten dev frames read ⟨quiet, trivial⟩ accepted code
    (twoWordRequest_unicast 1 _ _ _ (by decide))

end Device

end SensorFirmware
