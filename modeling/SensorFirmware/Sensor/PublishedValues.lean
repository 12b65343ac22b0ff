import Mathlib.Data.List.Induction
import SensorFirmware.Modbus.RegisterReads
import SensorFirmware.Sensor.StatusRegister

/-!
# Published measurements

The measurement cycle publishes temperature, humidity and alarm flags in three
input registers.  No frame writes them: reads refresh other registers, writes
reach the holding registers only, and no section of a synchronization covers
them.  A read therefore returns the last accepted measurement.
-/

namespace SensorFirmware

open BigEndian ModbusService RegisterBank

namespace Device

/-! ## Frames keep the published registers -/

section

variable (dev : Device D) (reg : Nat) (published : reg ∈ publishedRegs)

include published

/-- Refreshing the live values writes other registers. -/
theorem updateLiveInputs_published :
    dev.updateLiveInputs.input reg = dev.input reg := by
  have plain : reg ∉ diagnosticRegs := by
    intro diagnostic
    revert reg
    decide
  have other : reg ≠ 0x20 ∧ reg ≠ regSensorStatus := by
    revert reg
    decide
  refine ((updateDiagnosticRegisters_footprint dev.errors).input _ reg plain).trans ?_
  rw [updateBank_bank, input_setInput, input_setInput, if_neg fun same => other.2 same.1,
    if_neg fun same => other.1 same.1]
  rfl

/-- So does a command. -/
theorem runCommand_published [DoubleArith D]
    (startAddr qty : UInt16) :
    (dev.runCommand startAddr qty).2.input reg = dev.input reg := by
  have handled := handleCommand_bank dev qty
  by_cases covered : CoversCommand startAddr qty
  · rw [runCommand, if_pos covered]
    simp only [updateBank_input, input_setHolding]
    split
    · rw [syncAll, updateBank_bank, syncAll_published _ _ _ _ _ reg published, handled]
      rfl
    · rw [handled]
      rfl
  · rw [runCommand_uncovered covered]

/-- No frame changes a published register. -/
theorem frameStep_published [DoubleArith D]
    (frame : FrameItem) :
    (dev.frameStep frame).input reg = dev.input reg := by
  rw [frameStep]
  have processed := processFrame_processed dev (some frame)
  generalize dev.processFrame (some frame) = result at processed ⊢
  cases processed with
  | runt => rfl
  | corrupted => rfl
  | foreign => rfl
  | dispatched _ reaches =>
      have handled := dispatch_handled dev.noteValidFrame frame
      generalize dev.noteValidFrame.dispatch frame = result at handled ⊢
      cases handled with
      | tooShort => rfl
      | refused errorCode =>
          exact answerError_keeps _ frame _ errorCode (·.input reg) fun _ => rfl
      | readHolding => exact answerRead_keeps _ frame _ _ (·.input reg) fun _ _ => rfl
      | readInput =>
          rw [answerRead_keeps _ frame _ _ (·.input reg) fun _ _ => rfl]
          exact updateLiveInputs_published dev.noteValidFrame reg published
      | writeSingle _ _ writable =>
          rw [answer_keeps _ frame _ (·.input reg) fun _ => rfl, setHoldingRegister,
            updateBank_input, if_pos writable]
          rfl
      | writeMultiple =>
          rw [runCommand_published _ reg published,
            answer_keeps _ frame _ (·.input reg) fun _ => rfl, writeRegisters,
            updateBank_input, input_fillLoop frame.addr.toNat
              (fun i => frame.wordAt (7 + i * 2))]
          rfl

end

/-! ## What an accepted measurement stores -/

/-- The alarm flags that `updateModbus` stores for a temperature. -/
def alarmWord (dev : Device D) (currentTemp : UInt16) : UInt16 :=
  if dev.OutsideThresholds currentTemp then
    0
      |> setBitIf (dev.holdingRegister regTempHighAlarm < currentTemp) 0x01
      |> setBitIf (currentTemp < dev.holdingRegister regTempLowAlarm) 0x02
  else 0

/-- `updateModbus` stores its arguments and the alarm flags. -/
theorem updateModbus_published
    (dev : Device D)
    (currentTemp currentHumidity : UInt16) :
    let after := dev.updateModbus currentTemp currentHumidity
    after.input regTempValue = currentTemp ∧
      after.input regGasConctValue = currentHumidity ∧
        after.input regAlarmFlags = dev.alarmWord currentTemp := by
  have unchanged : (dev.setInputRegister regTempValue currentTemp
      |>.setInputRegister regGasConctValue currentHumidity).OutsideThresholds
        currentTemp ↔ dev.OutsideThresholds currentTemp := Iff.rfl
  simp only [updateModbus, unchanged, alarmWord]
  simp [setInputRegister]
  rfl

end Device

namespace System

/-- The event is no cycle that accepts a measurement. -/
def MeasuresNothing (sys : System D) (event : SystemEvent) : Prop :=
  ∀ nowMs reply rawTemperature rawHumidity,
    event = .cycle nowMs reply → ¬ sys.Accepts nowMs reply rawTemperature rawHumidity

variable [DoubleArith D]

/-- Temperature, humidity and alarm flags of the last accepted measurement of a
run, all zero before the first one. -/
inductive LastMeasured (start : System D) :
    List SystemEvent → UInt16 → UInt16 → UInt16 → Prop
  | nothing
      (events : List SystemEvent)
      (unmeasured : Transition.AllSteps step MeasuresNothing start events) :
      LastMeasured start events 0 0 0
  | measured
      (earlier later : List SystemEvent)
      (nowMs : UInt32)
      (reply : I2cReply)
      (rawTemperature rawHumidity : UInt16)
      (accepts : (start.run earlier).Accepts nowMs reply rawTemperature rawHumidity)
      (unmeasured : Transition.AllSteps step MeasuresNothing
        ((start.run earlier).process nowMs reply) later) :
      LastMeasured start (earlier ++ .cycle nowMs reply :: later)
        ((start.run earlier).process nowMs reply).service.publishedTemperature
        ((start.run earlier).process nowMs reply).service.publishedHumidity
        ((start.run earlier).device.alarmWord
          ((start.run earlier).process nowMs reply).service.publishedTemperature)

/-- An event that measures nothing keeps the published registers. -/
theorem step_published
    {sys : System D}
    {event : SystemEvent}
    (nothing : sys.MeasuresNothing event)
    (reg : Nat)
    (published : reg ∈ publishedRegs) :
    (sys.step event).device.input reg = sys.device.input reg := by
  cases event with
  | frame frame => exact Device.frameStep_published sys.device reg published frame
  | cycle nowMs reply =>
      obtain ⟨errors, same⟩ := process_device_of_not_accepts
        fun rawTemperature rawHumidity => nothing nowMs reply rawTemperature rawHumidity rfl
      rw [step, same]
      rfl

/-- It leaves the last measurement the last one. -/
theorem LastMeasured.append
    {start : System D}
    {events : List SystemEvent}
    {temperature humidity alarms : UInt16}
    (last : LastMeasured start events temperature humidity alarms)
    {event : SystemEvent}
    (nothing : (start.run events).MeasuresNothing event) :
    LastMeasured start (events ++ [event]) temperature humidity alarms := by
  cases last with
  | nothing _ unmeasured =>
      exact .nothing _
        ((Transition.allSteps_append_singleton start events event).mpr
          ⟨unmeasured, nothing⟩)
  | measured earlier later nowMs reply rawTemperature rawHumidity accepts unmeasured =>
      rw [run_through_cycle] at nothing
      rw [List.append_assoc, List.cons_append]
      exact .measured earlier (later ++ [event]) nowMs reply rawTemperature rawHumidity
        accepts
        ((Transition.allSteps_append_singleton _ later event).mpr ⟨unmeasured, nothing⟩)

/-- The published registers hold given words. -/
def Publishes (sys : System D) (temperature humidity alarms : UInt16) : Prop :=
  sys.device.input regTempValue = temperature ∧
    sys.device.input regGasConctValue = humidity ∧
      sys.device.input regAlarmFlags = alarms

/-- After every run the published registers hold the last accepted
measurement. -/
theorem run_publishes
    (start : System D)
    (zero : start.Publishes 0 0 0)
    (events : List SystemEvent) :
    ∃ temperature humidity alarms,
      LastMeasured start events temperature humidity alarms ∧
        (start.run events).Publishes temperature humidity alarms := by
  induction events using List.reverseRecOn with
  | nil => exact ⟨0, 0, 0, .nothing [] trivial, zero⟩
  | append_singleton events event inductionHypothesis =>
      obtain ⟨temperature, humidity, alarms, last, publishes⟩ := inductionHypothesis
      have after : start.run (events ++ [event]) = (start.run events).step event :=
        Transition.run_append step start events [event]
      rw [after]
      by_cases nothing : (start.run events).MeasuresNothing event
      · refine ⟨temperature, humidity, alarms, last.append nothing, ?_⟩
        obtain ⟨storedTemperature, storedHumidity, storedAlarms⟩ := publishes
        refine ⟨?_, ?_, ?_⟩
        · rw [step_published nothing _ (by decide), storedTemperature]
        · rw [step_published nothing _ (by decide), storedHumidity]
        · rw [step_published nothing _ (by decide), storedAlarms]
      · simp only [MeasuresNothing, not_forall, not_not] at nothing
        obtain ⟨nowMs, reply, rawTemperature, rawHumidity, rfl, accepts⟩ := nothing
        refine ⟨_, _, _, .measured events [] nowMs reply rawTemperature rawHumidity
          accepts trivial, ?_⟩
        rw [step, process_of_accepts accepts]
        exact Device.updateModbus_published _ _ _

/-- Nothing is published after the initialization. -/
theorem initialized_publishes
    (imageBytes : SettingsStruct → SensorStruct D → List UInt8)
    (flashData : Option (FlashConfig D))
    (build : BuildInfo) :
    (initialized imageBytes flashData build).Publishes 0 0 0 := by
  have zero (reg : Nat) (published : reg ∈ publishedRegs) :
      (initialized imageBytes flashData build).device.input reg = 0 := by
    have inArray : reg < holdingRegSize := by
      revert reg
      decide
    show (Device.boot imageBytes flashData (Device.powerOn build)).input reg = 0
    rw [Device.boot, Device.initialized, Device.syncAll, Device.updateBank_input,
      syncAll_published _ _ _ _ _ reg published, Device.configLoadFromFlash]
    split
    · exact input_zero reg inArray
    · exact input_zero reg inArray
  exact ⟨zero _ (by decide), zero _ (by decide), zero _ (by decide)⟩

/-- In every run after the initialization an accepted read of a published
register returns the word of the last accepted measurement. -/
theorem run_reads_lastMeasured
    (imageBytes : SettingsStruct → SensorStruct D → List UInt8)
    (flashData : Option (FlashConfig D))
    (build : BuildInfo)
    (events : List SystemEvent) :
    let start := initialized imageBytes flashData build
    let dev := (start.run events).device
    ∃ temperature humidity alarms,
      LastMeasured start events temperature humidity alarms ∧
        ∀ read,
          (dev.ReadsRegister fcReadInput read regTempValue →
            dev.Returns read regTempValue temperature) ∧
          (dev.ReadsRegister fcReadInput read regGasConctValue →
            dev.Returns read regGasConctValue humidity) ∧
          (dev.ReadsRegister fcReadInput read regAlarmFlags →
            dev.Returns read regAlarmFlags alarms) := by
  intro start dev
  obtain ⟨temperature, humidity, alarms, last, publishes⟩ :=
    run_publishes start (initialized_publishes imageBytes flashData build) events
  obtain ⟨storedTemperature, storedHumidity, storedAlarms⟩ := publishes
  have returns {read : FrameItem} {reg : Nat} {value : UInt16}
      (published : reg ∈ publishedRegs)
      (stored : dev.input reg = value)
      (reads : dev.ReadsRegister fcReadInput read reg) :
      dev.Returns read reg value := by
    rw [reads.returns_input_iff,
      Device.updateLiveInputs_published dev.noteValidFrame reg published]
    exact stored
  exact ⟨temperature, humidity, alarms, last, fun read =>
    ⟨returns (by decide) storedTemperature, returns (by decide) storedHumidity,
      returns (by decide) storedAlarms⟩⟩

end System

end SensorFirmware
