import SensorFirmware.App.MainLoop
import SensorFirmware.Sensor.SensorBus

/-!
# The firmware on the I2C bus

The application with the bus that its sensor is on.  The bus answers what its registers
show, and a recovery always succeeds, so a run of the firmware is a run of the
application with these replies.  Over every run the bus is released, no iteration waits
for it longer than a fixed number of status reads, and what is sent on it are the two
commands of the sensor.
-/

namespace SensorFirmware

open EarlyReturn (runFrom Triple)
open I2cBus (Returned Transfer transferReads Released)

/-- The application, the bus of its sensor, and how often the watchdog was fed. -/
structure Firmware (D : Type) where
  app : Application D
  bus : I2cBus
  kicks : Nat

/-- What one iteration receives from outside, the bus apart. -/
structure FirmwareInput where
  nowMs : UInt32
  received : Option UartFrame
  receivedMs : UInt32
  /-- The bytes that fill up `SettingsStruct` in a saved image. -/
  padding : Vector UInt8 2
  replies : SaveReplies
  supplyVoltage : UInt16

/-- The bus after `recoverBus`, which returns `true` in every case. -/
def I2cBus.afterRecovery (i2c1 : I2c1) (bus : I2cBus) : I2cBus :=
  (runFrom (I2cBus.recoverBus i2c1) bus).2

namespace Application

variable [DoubleArith D] [DoubleLayout D]
variable (app : Application D) (padding : Vector UInt8 2) (replies : SaveReplies)

/-- A save has nothing to do with the sensor service. -/
theorem saveRequested_service :
    (app.saveRequested padding replies).system.service = app.system.service := by
  rw [saveRequested]
  split
  · generalize app.configManager.saveDeviceConfig padding replies = saved
    obtain ⟨result, manager⟩ := saved
    cases result <;>
      simp only [withSystem, withConfigManager, System.loopStep, System.withErrors]
  · rfl

/-- Nor with the display. -/
theorem saveRequested_lcd :
    (app.saveRequested padding replies).system.lcd = app.system.lcd := by
  rw [saveRequested]
  split
  · generalize app.configManager.saveDeviceConfig padding replies = saved
    obtain ⟨result, manager⟩ := saved
    cases result <;>
      simp only [withSystem, withConfigManager, System.loopStep, System.withErrors]
  · rfl

/-- Nor with the Modbus service. -/
theorem saveRequested_modbus :
    (app.saveRequested padding replies).system.device.modbus = app.system.device.modbus := by
  rw [saveRequested]
  split
  · generalize app.configManager.saveDeviceConfig padding replies = saved
    obtain ⟨result, manager⟩ := saved
    cases result <;>
      simp only [withSystem, withConfigManager, System.loopStep, System.withErrors]
  · rfl

end Application

namespace Firmware

variable [DoubleArith D] [DoubleLayout D]

/-- The firmware after `Application::initialize`. -/
def boot
    (i2c1 : I2c1)
    (build : BuildInfo)
    (sector : ConfigSector)
    (padding : Vector UInt8 2)
    (replies : SaveReplies)
    (watchdogReset : Bool) : Firmware D where
  app := (Application.construct build sector).initialized padding replies watchdogReset
  bus := (runFrom (I2cBus.initializeBus i2c1) I2cBus.construct).2
  kicks := 0

/-- The application before `sensorService_.process(nowMs)`. -/
def beforeSensor (fw : Firmware D) (input : FirmwareInput) : Application D :=
  let app :=
    (fw.app.receive input.received input.receivedMs).saveRequested input.padding input.replies
  app.withSystem (app.system.loopStep (.supplyVoltage input.supplyVoltage))

/-- The recovery of the bus that the error manager asks for. -/
def recoverIfRequested (i2c1 : I2c1) (system : System D) (bus : I2cBus) :
    System D × I2cBus :=
  if system.device.errors.recoveryRequested then
    (system.loopStep (.recovery true), bus.afterRecovery i2c1)
  else (system, bus)

/-- One iteration of `Application::run`. -/
def iterate (i2c1 : I2c1) (fw : Firmware D) (input : FirmwareInput) : Firmware D :=
  let app := fw.beforeSensor input
  let processed := app.system.processOn i2c1 fw.bus input.nowMs
  let served := recoverIfRequested i2c1 (processed.1.loopStep .check) processed.2
  { app := app.withSystem served.1
    bus := served.2
    kicks :=
      if served.1.device.errors.shouldFeedWatchdog then fw.kicks + 1 else fw.kicks }

/-- The firmware after a list of iterations. -/
def run (i2c1 : I2c1) (fw : Firmware D) (inputs : List FirmwareInput) : Firmware D :=
  Transition.run (iterate i2c1) fw inputs

/-- How an iteration uses the sensor. -/
def access (i2c1 : I2c1) (fw : Firmware D) (input : FirmwareInput) : Access :=
  (fw.beforeSensor input).system.accessOn i2c1 fw.bus input.nowMs

/-- What an iteration of the application alone receives. -/
def loopInput (i2c1 : I2c1) (fw : Firmware D) (input : FirmwareInput) : LoopInput where
  nowMs := input.nowMs
  received := input.received
  receivedMs := input.receivedMs
  padding := input.padding
  replies := input.replies
  supplyVoltage := input.supplyVoltage
  i2c := (fw.beforeSensor input).system.replyOn i2c1 fw.bus
  recovered := true

/-- An iteration without a frame. -/
def silentInput (nowMs : UInt32) : FirmwareInput where
  nowMs := nowMs
  received := none
  receivedMs := 0
  padding := Vector.replicate 2 0
  replies := .done
  supplyVoltage := 120

section

variable (i2c1 : I2c1)

/-- An iteration of the firmware is one of the application, with what the bus
replies. -/
theorem iterate_app
    (fw : Firmware D)
    (input : FirmwareInput) :
    (fw.iterate i2c1 input).app = fw.app.iterate (fw.loopInput i2c1 input) := by
  have refined := System.processOn_system i2c1 (fw.beforeSensor input).system fw.bus
    input.nowMs
  have served : (fw.app.receive input.received input.receivedMs |>.saveRequested
      input.padding input.replies).system.runLoop
        [.supplyVoltage input.supplyVoltage,
          .cycle input.nowMs ((fw.beforeSensor input).system.replyOn i2c1 fw.bus),
          .check] =
      ((fw.beforeSensor input).system.processOn i2c1 fw.bus input.nowMs).1.loopStep
        .check := by
    rw [refined]
    rfl
  have base (system : System D) :
      (fw.beforeSensor input).withSystem system =
        (fw.app.receive input.received input.receivedMs |>.saveRequested input.padding
          input.replies).withSystem system := by
    simp only [beforeSensor, Application.withSystem]
  simp only [iterate, Application.iterate, Application.serve, loopInput, served,
    recoverIfRequested, base]
  split
  · rfl
  · rfl

@[simp] theorem run_nil (fw : Firmware D) : fw.run i2c1 [] = fw := rfl

theorem run_concat
    (fw : Firmware D)
    (inputs : List FirmwareInput)
    (input : FirmwareInput) :
    fw.run i2c1 (inputs ++ [input]) = (fw.run i2c1 inputs).iterate i2c1 input := by
  rw [run, Transition.run_append, Transition.run_cons, Transition.run_nil, run]

omit [DoubleLayout D] in
theorem recoverIfRequested_bus
    (system : System D)
    (bus : I2cBus) :
    (recoverIfRequested i2c1 system bus).2 = bus ∨
      (recoverIfRequested i2c1 system bus).2 = bus.afterRecovery i2c1 := by
  rw [recoverIfRequested]
  split
  · exact .inr rfl
  · exact .inl rfl

theorem iterate_system
    (fw : Firmware D)
    (input : FirmwareInput) :
    (fw.iterate i2c1 input).app.system =
      (recoverIfRequested i2c1
        (((fw.beforeSensor input).system.processOn i2c1 fw.bus input.nowMs).1.loopStep .check)
        ((fw.beforeSensor input).system.processOn i2c1 fw.bus input.nowMs).2).1 := by
  simp only [iterate, Application.withSystem]

/-- The bus after an iteration: the transfer of the access, and behind it a recovery if
one is requested. -/
theorem iterate_bus
    (fw : Firmware D)
    (input : FirmwareInput) :
    ∃ accessed, System.BusCycle i2c1 fw.bus (fw.access i2c1 input) accessed ∧
      ((fw.iterate i2c1 input).bus = accessed ∨
        (fw.iterate i2c1 input).bus = accessed.afterRecovery i2c1) := by
  refine ⟨_, System.processOn_busCycle (fw.beforeSensor input).system fw.bus input.nowMs, ?_⟩
  simp only [iterate]
  exact recoverIfRequested_bus i2c1 _ _

end

/-! ## The bus is released -/

/-- The reads of the status registers in one iteration, at most. -/
def iterationReads : Nat := transferReads 6 + 8

omit [DoubleArith D] [DoubleLayout D] in
/-- A recovery releases the bus. -/
theorem returned_afterRecovery
    (i2c1 : I2c1)
    {bus : I2cBus}
    (ready : bus.Ready) :
    Returned bus 8 (bus.afterRecovery i2c1) := by
  have triple : Triple (Returned bus 0) (I2cBus.recoverBus i2c1)
      (fun _ => Returned bus 8) fun _ => Returned bus 8 :=
    I2cBus.triple_recoverBus.weaken (fun _ returned => returned)
      (fun _ _ returned => returned.weaken (Nat.le_of_eq (Nat.zero_add 8)) id id id)
      fun _ _ returned => returned
  have recovered := triple bus (I2cBus.returned_refl ready)
  rw [I2cBus.afterRecovery]
  match runFrom (I2cBus.recoverBus i2c1) bus, recovered with
  | (.ok _, _), ends => exact ends
  | (.error _, _), ends => exact ends

section

variable (i2c1 : I2c1)

/-- An iteration releases the bus. -/
theorem iterate_returned
    {fw : Firmware D}
    (ready : fw.bus.Ready)
    (input : FirmwareInput) :
    Returned fw.bus iterationReads (fw.iterate i2c1 input).bus := by
  obtain ⟨accessed, cycle, after⟩ := fw.iterate_bus i2c1 input
  have returned := cycle.returned ready
  rcases after with same | recovered
  · rw [same]
    exact returned.weaken (Nat.le_add_right _ _) id id id
  · rw [recovered]
    exact returned.trans (returned_afterRecovery i2c1 returned.ready)

theorem run_returned
    {fw : Firmware D}
    (ready : fw.bus.Ready)
    (inputs : List FirmwareInput) :
    Returned fw.bus (iterationReads * inputs.length) (fw.run i2c1 inputs).bus := by
  induction inputs using List.reverseRecOn with
  | nil => exact I2cBus.returned_refl ready
  | append_singleton inputs input inductionHypothesis =>
      rw [run_concat, List.length_append, List.length_singleton, Nat.mul_succ]
      exact inductionHypothesis.trans (iterate_returned i2c1 inductionHypothesis.ready input)

/-- In every run from the start, whatever the registers of the bus show, each START has
a STOP behind it, ACK is set and POS clear after every iteration, and the next iteration
reads the status registers no more than `iterationReads` times. -/
theorem run_keepsBusReleased
    (build : BuildInfo)
    (sector : ConfigSector)
    (padding : Vector UInt8 2)
    (replies : SaveReplies)
    (watchdogReset : Bool)
    (inputs : List FirmwareInput) :
    let start : Firmware D := boot i2c1 build sector padding replies watchdogReset
    let after := start.run i2c1 inputs
    after.bus.Ready ∧
      (∃ requests, after.bus.requests = start.bus.requests ++ requests ∧
        Released requests) ∧
      ∀ input, (after.iterate i2c1 input).bus.statusReads ≤
        after.bus.statusReads + iterationReads := by
  intro start after
  have ready : start.bus.Ready := I2cBus.initializeBus_ready i2c1 I2cBus.construct
  have returned : Returned start.bus (iterationReads * inputs.length) after.bus :=
    run_returned i2c1 ready inputs
  obtain ⟨requests, extended, released⟩ := returned.requests
  refine ⟨returned.ready, ⟨requests, extended, released trivial⟩, ?_⟩
  intro input
  exact (iterate_returned i2c1 returned.ready input).statusReads

end

/-! ## The commands on the bus -/

section

variable (i2c1 : I2c1)

/-- The accesses of a run, in order. -/
def accesses (fw : Firmware D) (inputs : List FirmwareInput) : List Access :=
  Transition.outputs (iterate i2c1) (access i2c1) fw inputs

theorem accesses_concat
    (fw : Firmware D)
    (inputs : List FirmwareInput)
    (input : FirmwareInput) :
    fw.accesses i2c1 (inputs ++ [input]) =
      fw.accesses i2c1 inputs ++ [(fw.run i2c1 inputs).access i2c1 input] := by
  rw [accesses, Transition.outputs_append, accesses, run, Transition.outputs,
    Transition.outputs]

omit [DoubleArith D] [DoubleLayout D] in
/-- A recovery moves no data. -/
theorem view_afterRecovery
    {τ : Type}
    {view : I2cBus → τ}
    (data : I2cBus.DataView view)
    (bus : I2cBus) :
    view (bus.afterRecovery i2c1) = view bus := by
  have keeps : I2cBus.Controls view (I2cBus.recoverBus i2c1) := data.recoverBus i2c1
  have kept := keeps (· = view bus) bus rfl
  rw [I2cBus.afterRecovery]
  match runFrom (I2cBus.recoverBus i2c1) bus, kept with
  | (.ok _, _), same => exact same
  | (.error _, _), same => exact same.2

/-- An iteration sends the command of its access. -/
theorem iterate_sent
    (fw : Firmware D)
    (input : FirmwareInput) :
    ∃ chunk, (fw.iterate i2c1 input).bus.sent = fw.bus.sent ++ chunk ∧
      (fw.access i2c1 input).Sends chunk := by
  obtain ⟨accessed, cycle, after⟩ := fw.iterate_bus i2c1 input
  obtain ⟨chunk, sent, sends⟩ := cycle.sent
  refine ⟨chunk, ?_, sends⟩
  rw [← sent]
  rcases after with same | recovered
  · rw [same]
  · rw [recovered, view_afterRecovery i2c1 I2cBus.dataView_sent]

/-- What precedes the sensor service in an iteration leaves it alone. -/
theorem beforeSensor_service
    (fw : Firmware D)
    (input : FirmwareInput) :
    (fw.beforeSensor input).system.service = fw.app.system.service := by
  simp only [beforeSensor, Application.withSystem, System.loopStep,
    Application.saveRequested_service, Application.receive]

omit [DoubleLayout D] in
/-- Neither does what follows it. -/
theorem recovered_service
    (system : System D)
    (bus : I2cBus) :
    (recoverIfRequested i2c1 (system.loopStep .check) bus).1.service = system.service := by
  have kept (sys : System D) (errors : ErrorManager) :
      (sys.withErrors errors).service = sys.service := rfl
  rw [recoverIfRequested]
  split
  · simp only [System.loopStep, kept]
  · simp only [System.loopStep, kept]

/-- The service waits for its first trigger after the start. -/
theorem boot_service
    (build : BuildInfo)
    (sector : ConfigSector)
    (padding : Vector UInt8 2)
    (replies : SaveReplies)
    (watchdogReset : Bool) :
    (boot i2c1 build sector padding replies watchdogReset :
      Firmware D).app.system.service = SensorService.initialize := by
  rw [boot, Application.initialized_system]
  rfl

/-- The service after an iteration, by the reply of the bus. -/
theorem iterate_service
    (fw : Firmware D)
    (input : FirmwareInput) :
    (fw.iterate i2c1 input).app.system.service =
      ((fw.beforeSensor input).system.process input.nowMs
        ((fw.beforeSensor input).system.replyOn i2c1 fw.bus)).service := by
  rw [iterate_system, recovered_service, System.processOn_system]

/-- An iteration whose trigger is due and succeeds waits for the measurement. -/
theorem iterate_of_trigger
    (fw : Firmware D)
    (input : FirmwareInput)
    (state : fw.app.system.service.state = .trigger)
    (due : ¬ (input.nowMs - fw.app.system.service.nextTriggerTimeMs).toInt32 < 0)
    (succeeds : (Sht3xSensor.triggerMeasurement i2c1 fw.bus).1 = .ok) :
    fw.access i2c1 input = .triggered ∧
      (fw.iterate i2c1 input).app.system.service =
        { fw.app.system.service with measurementStartMs := input.nowMs, state := .read } ∧
      ((fw.iterate i2c1 input).bus = (Sht3xSensor.triggerMeasurement i2c1 fw.bus).2 ∨
        (fw.iterate i2c1 input).bus =
          (Sht3xSensor.triggerMeasurement i2c1 fw.bus).2.afterRecovery i2c1) := by
  rw [← fw.beforeSensor_service input] at state due
  have reply : ((fw.beforeSensor input).system.replyOn i2c1 fw.bus).triggerStatus = .ok := by
    simp only [System.replyOn, state, succeeds]
  refine ⟨?_, ?_, ?_⟩
  · simp only [access, System.accessOn, System.access, state, if_neg due, if_pos reply]
  · rw [iterate_service, System.process_of_triggers state due reply, beforeSensor_service]
  · have bus : ((fw.beforeSensor input).system.processOn i2c1 fw.bus input.nowMs).2 =
        (Sht3xSensor.triggerMeasurement i2c1 fw.bus).2 := by
      simp only [System.processOn, state, if_neg due]
    rw [← bus]
    simp only [iterate]
    exact recoverIfRequested_bus i2c1 _ _

/-- An iteration that reads valid words after the delay accepts them. -/
theorem iterate_of_read
    (fw : Firmware D)
    (input : FirmwareInput)
    {rawTemperature rawHumidity : UInt16}
    (state : fw.app.system.service.state = .read)
    (waited : ¬ input.nowMs - fw.app.system.service.measurementStartMs < measureDelayMs)
    (reading : Sht3xSensor.readMeasurement (Sht3xSensor.fetchReply i2c1 fw.bus).1 =
      .ok (rawTemperature, rawHumidity))
    (inRange : ¬ SensorService.OutOfRange rawTemperature rawHumidity) :
    fw.access i2c1 input = .accepted ∧
      (fw.iterate i2c1 input).app.system.service =
        ({ fw.app.system.service with
            rawTemperature := rawTemperature
            rawHumidity := rawHumidity }.filtered rawTemperature rawHumidity).retry
          input.nowMs measurePeriodMs := by
  rw [← fw.beforeSensor_service input] at state waited
  have reply : (fw.beforeSensor input).system.replyOn i2c1 fw.bus =
      (Sht3xSensor.fetchReply i2c1 fw.bus).1 := by
    simp only [System.replyOn, state]
  have accepts : (fw.beforeSensor input).system.Accepts input.nowMs
      ((fw.beforeSensor input).system.replyOn i2c1 fw.bus) rawTemperature rawHumidity := by
    rw [reply]
    exact ⟨state, waited, reading, inRange⟩
  constructor
  · simp only [access, System.accessOn, System.access, state, if_neg waited, reply, reading,
      if_neg inRange]
  · rw [iterate_service, System.process_of_accepts accepts, System.acceptReading_service,
      beforeSensor_service]

/-- The access decides what the service does next. -/
theorem iterate_state
    (fw : Firmware D)
    (input : FirmwareInput) :
    (fw.iterate i2c1 input).app.system.service.state =
      (fw.access i2c1 input).nextState fw.app.system.service.state := by
  have next := System.process_state (fw.beforeSensor input).system input.nowMs
    ((fw.beforeSensor input).system.replyOn i2c1 fw.bus)
  rw [← System.processOn_system, beforeSensor_service] at next
  rw [access, System.accessOn, ← next, iterate_system, recovered_service]

/-- The last command on the bus is a measurement command that the sensor took. -/
def Armed (accesses : List Access) : Prop :=
  ∃ earlier idle, accesses = earlier ++ .triggered :: idle ∧ ∀ access ∈ idle, access = .idle

omit [DoubleArith D] [DoubleLayout D] in
theorem armed_concat
    {accesses : List Access}
    {state : SensorState}
    (armed : state = .read → Armed accesses)
    {access : Access}
    (reading : access.nextState state = .read) :
    Armed (accesses ++ [access]) := by
  cases access with
  | idle =>
      obtain ⟨earlier, idle, rfl, nothing⟩ := armed reading
      refine ⟨earlier, idle ++ [.idle], by simp, ?_⟩
      intro access listed
      rcases List.mem_append.mp listed with before | last
      · exact nothing access before
      · exact List.mem_singleton.mp last
  | triggered => exact ⟨accesses, [], rfl, fun _ listed => absurd listed List.not_mem_nil⟩
  | triggerFailed | readFailed | rejected | accepted => cases reading

/-- Along every run from the start the service waits for a result only behind a command
that the sensor took. -/
theorem run_armed
    {fw : Firmware D}
    (idle : fw.app.system.service.state = .trigger)
    (inputs : List FirmwareInput) :
    (fw.run i2c1 inputs).app.system.service.state = .read →
      Armed (fw.accesses i2c1 inputs) := by
  induction inputs using List.reverseRecOn with
  | nil => exact fun reading => absurd (idle.symm.trans reading) (by decide)
  | append_singleton inputs input inductionHypothesis =>
      rw [run_concat, iterate_state, accesses_concat]
      exact armed_concat inductionHypothesis

/-- The sensor is read in the read state only. -/
theorem state_of_isRead
    {fw : Firmware D}
    {input : FirmwareInput}
    (isRead : (fw.access i2c1 input).isRead = true) :
    fw.app.system.service.state = .read := by
  rw [← fw.beforeSensor_service input]
  exact System.state_of_isRead isRead

/-- In every run from the start, whatever the registers of the bus show, what is sent on
the bus are the commands of the accesses in order: all of a command that the sensor took,
and a beginning of any other.  Before each request for a result the last command is a
measurement command that the sensor took. -/
theorem run_sendsCommands
    (build : BuildInfo)
    (sector : ConfigSector)
    (padding : Vector UInt8 2)
    (replies : SaveReplies)
    (watchdogReset : Bool)
    (inputs : List FirmwareInput) :
    let start : Firmware D := boot i2c1 build sector padding replies watchdogReset
    let accesses := start.accesses i2c1 inputs
    (∃ chunks, (start.run i2c1 inputs).bus.sent = start.bus.sent ++ chunks.flatten ∧
      List.Forall₂ Access.Sends accesses chunks) ∧
    ∀ before access after, accesses = before ++ access :: after →
      access.isRead = true → Armed before := by
  intro start accesses
  have idle : start.app.system.service.state = .trigger := rfl
  constructor
  · exact Transition.exists_chunks_of_outputs (fun fw : Firmware D => fw.bus.sent)
      Access.Sends (iterate_sent i2c1) start inputs
  · intro before access after cut isRead
    obtain ⟨first, input, rfl, rfl⟩ := Transition.exists_cut_of_outputs cut
    exact run_armed i2c1 idle first (state_of_isRead i2c1 isRead)

end

end Firmware

end SensorFirmware
