import SensorFirmware.Errors.ErrorOps
import SensorFirmware.Modbus.DirectWrites
import SensorFirmware.Modbus.RegisterReads

/-!
# Diagnostic registers

Eight registers show counters of the error manager.  Both register arrays have
them, and both are refreshed together: by a read of input registers before it
answers, and by every synchronization.  A read of holding registers returns what
the last refresh or write left.
-/

namespace SensorFirmware

open BigEndian ModbusService

namespace RegisterBank

/-- The word that a refresh stores in a diagnostic register. -/
def diagnosticWord (errors : ErrorManager) : Nat → UInt16
  | 0x74 => errors.crcCount.toUInt16
  | 0x75 => errors.uartOverflowCount.toUInt16
  | 0x76 => errors.sensorReadFailCount.toUInt16
  | 0x77 => errors.i2cRecoveryCount.toUInt16
  | 0x78 => errors.watchdogResetCount.toUInt16
  | 0x79 => errors.flashSaveFailCount.toUInt16
  | 0x7A => if errors.systemHealthy then 1 else 0
  | _ => word errors.consecutiveSensorReadFailCount errors.consecutiveUartOverflowCount

/-- A refresh stores the same word in both arrays. -/
theorem updateDiagnosticRegisters_word
    (errors : ErrorManager)
    (bank : RegisterBank)
    (reg : Nat)
    (diagnostic : reg ∈ diagnosticRegs) :
    (updateDiagnosticRegisters errors bank).holding reg = diagnosticWord errors reg ∧
      (updateDiagnosticRegisters errors bank).input reg = diagnosticWord errors reg := by
  simp only [diagnosticRegs, List.mem_cons, List.not_mem_nil, or_false] at diagnostic
  rcases diagnostic with rfl | rfl | rfl | rfl | rfl | rfl | rfl | rfl <;>
    simp [updateDiagnosticRegisters, diagnosticWord]

end RegisterBank

open RegisterBank

/-- The call changes no word that the diagnostics show after the next valid
frame. -/
def KeepsWords (errors : ErrorManager) (operation : ErrorOp) : Prop :=
  ∀ reg ∈ diagnosticRegs,
    diagnosticWord (errors.apply operation).reportValidModbusFrame reg =
      diagnosticWord errors.reportValidModbusFrame reg

/-- The reports of `processFrame` about a frame: none below four bytes, and then
whether its checksum fits. -/
def FrameItem.reports (frame : FrameItem) : List ErrorOp :=
  if frame.len < 4 then []
  else if frame.CrcMatches then [.validModbusFrame]
  else [.crcError]

/-- A frame is reported as valid or as corrupted, if at all. -/
theorem FrameItem.forall_mem_reports
    (frame : FrameItem)
    (holds : ErrorOp → Prop)
    (valid : holds .validModbusFrame)
    (corrupted : holds .crcError) :
    ∀ operation ∈ frame.reports, holds operation := by
  rw [FrameItem.reports]
  split
  · exact fun _ reported => absurd reported List.not_mem_nil
  split
  · exact List.forall_mem_singleton.mpr valid
  · exact List.forall_mem_singleton.mpr corrupted

/-- A frame has at most one report. -/
theorem keepsWords_reports_iff
    (errors : ErrorManager)
    (frame : FrameItem) :
    (∀ operation ∈ frame.reports, KeepsWords errors operation) ↔
      ∀ reg ∈ diagnosticRegs,
        diagnosticWord (errors.applyAll frame.reports).reportValidModbusFrame reg =
          diagnosticWord errors.reportValidModbusFrame reg := by
  unfold FrameItem.reports
  split
  · simp
  split
  · simp [KeepsWords]
  · simp [KeepsWords]

namespace Device

section

variable (dev : Device D) (reg : Nat) (diagnostic : reg ∈ diagnosticRegs)

include diagnostic

theorem updateLiveInputs_diagnostic :
    dev.updateLiveInputs.holding reg = diagnosticWord dev.errors reg ∧
      dev.updateLiveInputs.input reg = diagnosticWord dev.errors reg :=
  updateDiagnosticRegisters_word dev.errors _ reg diagnostic

theorem syncAll_diagnostic [DoubleArith D] :
    dev.syncAll.holding reg = diagnosticWord dev.errors reg :=
  (updateDiagnosticRegisters_word dev.errors _ reg diagnostic).1

/-- A diagnostic register lies in the arrays and beside the command register and
the baud rate. -/
theorem diagnostic_plain :
    reg < holdingRegSize ∧ reg ≠ commandCode ∧ reg ≠ regBaudRate := by
  simp only [diagnosticRegs, List.mem_cons, List.not_mem_nil, or_false] at diagnostic
  simp
  omega

end

/-- A frame that reaches the switch is reported as valid. -/
theorem reports_of_reaches
    {dev : Device D}
    {frame : FrameItem}
    (reaches : dev.Reaches frame) :
    frame.reports = [.validModbusFrame] := by
  rw [FrameItem.reports, if_neg (UInt16.not_lt.mpr reaches.1), if_pos reaches.2.1]

variable [DoubleArith D] {dev : Device D} {frame : FrameItem}

/-- The switch reports nothing. -/
theorem dispatch_errors (dev : Device D) (frame : FrameItem) :
    (dev.dispatch frame).2.errors = dev.errors := by
  have handled := dispatch_handled dev frame
  generalize dev.dispatch frame = result at handled ⊢
  cases handled with
  | tooShort => rfl
  | refused => exact answerError_errors _ _ _ _
  | readHolding => exact answerRead_errors _ _ _ _
  | readInput =>
      rw [answerRead_errors]
      exact updateLiveInputs_project dev (·.errors) fun _ _ => rfl
  | writeSingle => exact answer_errors _ _ _
  | writeMultiple =>
      rw [runCommand_errors, answer_errors]
      rfl

/-- A corrupted frame is counted and nothing else. -/
theorem frameStep_corrupted
    (dev : Device D)
    (long : 4 ≤ frame.len)
    (mismatch : ¬ frame.CrcMatches) :
    dev.frameStep frame = { dev with errors := dev.errors.reportCrcError } := by
  simp only [frameStep, processFrame, if_neg (UInt16.not_lt.mpr long), if_pos mismatch]

/-- A frame changes the error manager by its reports. -/
theorem frameStep_errors (dev : Device D) (frame : FrameItem) :
    (dev.frameStep frame).errors = dev.errors.applyAll frame.reports := by
  rw [frameStep, FrameItem.reports]
  have processed := processFrame_processed dev (some frame)
  generalize dev.processFrame (some frame) = result at processed ⊢
  cases processed with
  | runt _ short => rw [if_pos short, ErrorManager.applyAll_nil]
  | corrupted _ long mismatch =>
      rw [if_neg (UInt16.not_lt.mpr long), if_neg mismatch]
      rfl
  | foreign _ long crc =>
      rw [if_neg (UInt16.not_lt.mpr long), if_pos crc]
      rfl
  | dispatched _ reaches =>
      rw [if_neg (UInt16.not_lt.mpr reaches.1), if_pos reaches.2.1, dispatch_errors]
      rfl

/-! ## What a frame does to the holding registers -/

/-- The frame refreshes the diagnostics. -/
def RefreshesDiagnostics (dev : Device D) (frame : FrameItem) : Prop :=
  dev.ReadsInput frame ∨
    (dev.RunsCommand frame ∧
      CommandAccepted D (dev.requestWord frame) dev.deviceConfig frame.qty)

theorem RefreshesDiagnostics.reaches
    (refreshes : dev.RefreshesDiagnostics frame) :
    dev.Reaches frame := by
  cases refreshes with
  | inl reads => exact reads.1
  | inr runs => exact runs.1.1

/-- A refresh stores the words of the error manager that has seen the frame. -/
theorem frameStep_refreshed
    (refreshes : dev.RefreshesDiagnostics frame)
    (reg : Nat)
    (diagnostic : reg ∈ diagnosticRegs) :
    (dev.frameStep frame).holding reg =
      diagnosticWord dev.errors.reportValidModbusFrame reg := by
  rcases refreshes with ⟨reaches, code, inRange⟩ | ⟨runs, accepted⟩
  · have notHolding : ¬ fcReadInput = fcReadHolding := by decide
    have refreshed := (updateLiveInputs_diagnostic dev.noteValidFrame reg diagnostic).1
    rw [frameStep, processFrame_of_reaches reaches, dispatch, code, if_neg notHolding,
      if_pos rfl, processReadInputRegisters, if_pos inRange, answerRead_holding]
    exact refreshed
  · have other := (diagnostic_plain reg diagnostic).2.1
    rw [frameStep_accepted_holding runs accepted reg other,
      syncAll_diagnostic _ reg diagnostic, handleCommand_errors, commandState,
      answer_errors]
    rfl

/-- Any other frame leaves its accepted write there. -/
theorem frameStep_unrefreshed
    (stale : ¬ dev.RefreshesDiagnostics frame)
    (reg : Nat)
    (diagnostic : reg ∈ diagnosticRegs) :
    (dev.frameStep frame).holding reg =
      (dev.acceptedWrite frame).toList.foldl BlockWrite.store dev.holding reg := by
  obtain ⟨notRead, notAccepted⟩ := not_or.mp stale
  by_cases runs : dev.RunsCommand frame
  · have rejected := fun accepted => notAccepted ⟨runs, accepted⟩
    have other := (diagnostic_plain reg diagnostic).2.1
    rw [frameStep_rejected_holding runs rejected reg other,
      acceptedWrite_of_runsCommand runs, requestWord_eq_store dev runs.2.2.2.1]
    rfl
  · exact frameStep_holding_of_unrefreshed runs reg fun reads => absurd reads notRead

/-- Only a frame that reaches the switch writes. -/
theorem reaches_of_acceptedWrite
    {write : BlockWrite UInt16}
    (written : dev.acceptedWrite frame = some write) :
    dev.Reaches frame := by
  apply reaches_of_accepted
  intro refused
  rw [acceptedWrite, if_pos refused] at written
  exact absurd written (by simp)

/-! ## When the holding registers stay current -/

/-- The diagnostic holding registers show the error manager as it is once it has
seen the next valid frame. -/
def MirrorsDiagnostics (dev : Device D) : Prop :=
  ∀ reg ∈ diagnosticRegs,
    dev.holding reg = diagnosticWord dev.errors.reportValidModbusFrame reg

/-- The frame refreshes the diagnostics, or it is not reported with a change of
the words they show and writes no other words over them. -/
def KeepsDiagnostics (dev : Device D) (frame : FrameItem) : Prop :=
  dev.RefreshesDiagnostics frame ∨
    ((∀ operation ∈ frame.reports, KeepsWords dev.errors operation) ∧
      ∀ write, dev.acceptedWrite frame = some write →
        ∀ reg ∈ diagnosticRegs, write.Covers reg →
          write.value reg = diagnosticWord dev.errors.reportValidModbusFrame reg)

/-- A frame that refreshes the diagnostics leaves them current. -/
theorem frameStep_mirrors_of_refreshes
    (refreshes : dev.RefreshesDiagnostics frame) :
    (dev.frameStep frame).MirrorsDiagnostics := by
  intro reg diagnostic
  rw [frameStep_refreshed refreshes reg diagnostic, frameStep_errors,
    reports_of_reaches refreshes.reaches]
  rfl

/-- Where the diagnostics are current, they stay so exactly when the frame keeps
them. -/
theorem frameStep_mirrors_iff
    (mirrors : dev.MirrorsDiagnostics) :
    (dev.frameStep frame).MirrorsDiagnostics ↔ dev.KeepsDiagnostics frame := by
  by_cases refreshes : dev.RefreshesDiagnostics frame
  · exact iff_of_true (frameStep_mirrors_of_refreshes refreshes) (Or.inl refreshes)
  rw [KeepsDiagnostics, or_iff_right refreshes, keepsWords_reports_iff]
  cases written : dev.acceptedWrite frame with
  | none =>
      have unchanged (reg : Nat) (diagnostic : reg ∈ diagnosticRegs) :
          (dev.frameStep frame).holding reg =
            diagnosticWord dev.errors.reportValidModbusFrame reg := by
        rw [frameStep_unrefreshed refreshes reg diagnostic, written]
        exact mirrors reg diagnostic
      constructor
      · intro current
        refine ⟨fun reg diagnostic => ?_, by simp⟩
        rw [← frameStep_errors, ← current reg diagnostic, unchanged reg diagnostic]
      · rintro ⟨same, -⟩ reg diagnostic
        rw [unchanged reg diagnostic, frameStep_errors, same reg diagnostic]
  | some write =>
      have reports := reports_of_reaches (reaches_of_acceptedWrite written)
      have stored (reg : Nat) (diagnostic : reg ∈ diagnosticRegs) :
          (dev.frameStep frame).holding reg = BlockWrite.store dev.holding write reg := by
        rw [frameStep_unrefreshed refreshes reg diagnostic, written]
        rfl
      rw [reports]
      constructor
      · intro current
        refine ⟨fun reg _ => rfl, ?_⟩
        intro other found reg diagnostic covers
        rw [Option.some.injEq] at found
        subst found
        have word := current reg diagnostic
        rw [stored reg diagnostic, BlockWrite.store, if_pos covers, frameStep_errors,
          reports] at word
        exact word
      · rintro ⟨-, repeated⟩ reg diagnostic
        rw [stored reg diagnostic, BlockWrite.store, frameStep_errors, reports]
        by_cases covers : write.Covers reg
        · rw [if_pos covers]
          exact repeated write rfl reg diagnostic covers
        · rw [if_neg covers]
          exact mirrors reg diagnostic

/-! ## The two ways to read a diagnostic -/

/-- Accepted reads of a diagnostic register with either function code return the
word of the error manager, which has then seen the read itself. -/
def DiagnosticReadsAgree (dev : Device D) : Prop :=
  ∀ reg ∈ diagnosticRegs, ∀ readHolding readInput,
    dev.ReadsRegister fcReadHolding readHolding reg →
      dev.ReadsRegister fcReadInput readInput reg →
        dev.Returns readHolding reg
            (diagnosticWord dev.errors.reportValidModbusFrame reg) ∧
          dev.Returns readInput reg
            (diagnosticWord dev.errors.reportValidModbusFrame reg)

/-- A read of input registers always returns the current word. -/
theorem returns_input_diagnostic
    {read : FrameItem}
    {reg : Nat}
    (reads : dev.ReadsRegister fcReadInput read reg)
    (diagnostic : reg ∈ diagnosticRegs) :
    dev.Returns read reg (diagnosticWord dev.errors.reportValidModbusFrame reg) :=
  (reads.returns_input_iff _).mpr
    (updateLiveInputs_diagnostic dev.noteValidFrame reg diagnostic).2

/-- The two ways agree exactly when the holding registers are current. -/
theorem diagnosticReadsAgree_iff
    (idValid : dev.IdValid) :
    dev.DiagnosticReadsAgree ↔ dev.MirrorsDiagnostics := by
  constructor
  · intro agree reg diagnostic
    obtain ⟨inArray, _, stored⟩ := diagnostic_plain reg diagnostic
    have holding := readsRegister_twoWordRequest idValid (Or.inl rfl) inArray
    have input := readsRegister_twoWordRequest idValid (Or.inr rfl) inArray
    exact (holding.returns_holding_iff stored _).mp
      (agree reg diagnostic _ _ holding input).1
  · intro mirrors reg diagnostic readHolding readInput holding input
    obtain ⟨_, _, stored⟩ := diagnostic_plain reg diagnostic
    exact ⟨(holding.returns_holding_iff stored _).mpr (mirrors reg diagnostic),
      returns_input_diagnostic input diagnostic⟩

end Device

end SensorFirmware
