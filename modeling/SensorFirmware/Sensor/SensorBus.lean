import SensorFirmware.Drivers.BusRelease
import SensorFirmware.Drivers.I2cReception
import SensorFirmware.Drivers.I2cTransmission
import SensorFirmware.Sensor.Accesses

/-!
# The sensor on the bus

The sensor driver makes one transfer for each access of the sensor service.  The
service on the bus refines the service that is handed an arbitrary reply: the reply is
the status of the transfer and the bytes that it stored.
-/

namespace SensorFirmware

open I2cBus (dataAfter Returned Transfer transferReads)

/-! ## The sensor driver -/

namespace Sht3xSensor

/-- `Address`. -/
def address : UInt8 := 0x44

/-- `command` of `triggerMeasurement`. -/
def command : Vector UInt8 2 := #v[0x24, 0x0B]

/-- The transfer of `triggerMeasurement`. -/
def triggerTransfer : Transfer := .write address (some (FixedArray.read command)) 2

/-- The transfer of `readMeasurement`. -/
def readTransfer : Transfer := .read address true 6

section

variable (i2c1 : I2c1)

/-- `Sht3xSensor::triggerMeasurement`. -/
def triggerMeasurement (bus : I2cBus) : I2cStatus × I2cBus :=
  bus.call i2c1 triggerTransfer

/-- `frame` in `readMeasurement`, zero at first, behind a read that leaves the bus in
the state `after`. -/
def frame (bus after : I2cBus) : Vector UInt8 6 :=
  Vector.ofFn fun index =>
    dataAfter (fun _ => 0) (after.stored.drop bus.stored.length) index.val

/-- The status and the frame that `readMeasurement` decodes. -/
def fetchReply (bus : I2cBus) : I2cReply × I2cBus :=
  let result := bus.call i2c1 readTransfer
  ({ triggerStatus := .ok
     readStatus := result.1
     frame := frame bus result.2 },
    result.2)

/-- The bytes on the bus that ask for a measurement. -/
theorem message_triggerTransfer : triggerTransfer.message = [0x88, 0x24, 0x0B] := by
  decide

/-- The byte on the bus that asks for its result. -/
theorem message_readTransfer : readTransfer.message = [0x89] := by
  decide

/-- A read that succeeds fills the frame with the next six bytes of the bus. -/
theorem read_frame_of_ok
    {bus : I2cBus}
    (succeeds : (bus.call i2c1 readTransfer).1 = .ok)
    {index : Nat}
    (inside : index < 6) :
    FixedArray.read (fetchReply i2c1 bus).1.frame index = bus.nextByte i2c1 index := by
  obtain ⟨count, -, stored, complete⟩ := I2cBus.call_stored i2c1 readTransfer bus
  obtain rfl : count = 6 := complete succeeds
  obtain ⟨-, bytes⟩ := Prod.mk.inj stored
  show FixedArray.read (Vector.ofFn fun index : Fin 6 =>
    dataAfter (fun _ => 0) ((bus.call i2c1 readTransfer).2.stored.drop bus.stored.length)
      index.val) index = _
  rw [FixedArray.read_eq_getElem _ _ inside, Vector.getElem_ofFn, bytes, List.drop_left,
    I2cBus.dataAfter_nextBytes, if_pos inside]

/-- It has read six bytes from the bus. -/
theorem fetchReply_drReads
    {bus : I2cBus}
    (succeeds : (bus.call i2c1 readTransfer).1 = .ok) :
    (fetchReply i2c1 bus).2.drReads = bus.drReads + 6 := by
  obtain ⟨count, -, stored, complete⟩ := I2cBus.call_stored i2c1 readTransfer bus
  obtain rfl : count = 6 := complete succeeds
  exact (Prod.mk.inj stored).1

end

end Sht3xSensor

/-! ## The service on the bus -/

namespace System

section

variable (i2c1 : I2c1)

/-- `SensorService::process`, with the transfers that it makes on the bus. -/
def processOn (sys : System D) (bus : I2cBus) (nowMs : UInt32) : System D × I2cBus :=
  match sys.service.state with
  | .trigger =>
      if (nowMs - sys.service.nextTriggerTimeMs).toInt32 < 0 then (sys, bus)
      else
        let result := Sht3xSensor.triggerMeasurement i2c1 bus
        (sys.handleTriggerState nowMs result.1, result.2)
  | .read =>
      if nowMs - sys.service.measurementStartMs < measureDelayMs then (sys, bus)
      else
        let result := Sht3xSensor.fetchReply i2c1 bus
        (sys.handleReadState nowMs result.1, result.2)

/-- What the bus answers to a call of `process`. -/
def replyOn (sys : System D) (bus : I2cBus) : I2cReply :=
  match sys.service.state with
  | .trigger =>
      { triggerStatus := (Sht3xSensor.triggerMeasurement i2c1 bus).1
        readStatus := .ok
        frame := zeroBytes 6 }
  | .read => (Sht3xSensor.fetchReply i2c1 bus).1

/-- The access of a call of `process` on the bus. -/
def accessOn (sys : System D) (bus : I2cBus) (nowMs : UInt32) : Access :=
  sys.access nowMs (sys.replyOn i2c1 bus)

/-- The service on the bus refines the service with an arbitrary reply. -/
theorem processOn_system
    (sys : System D)
    (bus : I2cBus)
    (nowMs : UInt32) :
    (sys.processOn i2c1 bus nowMs).1 = sys.process nowMs (sys.replyOn i2c1 bus) := by
  cases state : sys.service.state with
  | trigger =>
      simp only [processOn, replyOn, process, state]
      split
      case isTrue early => rw [handleTriggerState, if_pos early]
      case isFalse => rfl
  | read =>
      simp only [processOn, replyOn, process, state]
      split
      case isTrue early => rw [handleReadState, if_pos early]
      case isFalse => rfl

end

end System

namespace Access

/-- The bytes of the command that an access sends, its address byte included. -/
def message : Access → List UInt8
  | .idle => []
  | .triggered | .triggerFailed _ => [0x88, 0x24, 0x0B]
  | .readFailed _ | .rejected | .accepted => [0x89]

/-- The sensor took the whole command. -/
def completes : Access → Bool
  | .triggerFailed _ | .readFailed _ => false
  | _ => true

/-- What an access may send. -/
def Sends (access : Access) (chunk : List UInt8) : Prop :=
  chunk <+: access.message ∧ (access.completes = true → chunk = access.message)

end Access

namespace System

section

variable {i2c1 : I2c1} {bus : I2cBus}

/-- What a call of `process` does on the bus: nothing, or one transfer whose status
decides the access. -/
inductive BusCycle (i2c1 : I2c1) (bus : I2cBus) : Access → I2cBus → Prop
  | idle : BusCycle i2c1 bus .idle bus
  | triggered
      (succeeds : (bus.call i2c1 Sht3xSensor.triggerTransfer).1 = .ok) :
      BusCycle i2c1 bus .triggered (bus.call i2c1 Sht3xSensor.triggerTransfer).2
  | triggerFailed
      (fails : (bus.call i2c1 Sht3xSensor.triggerTransfer).1 ≠ .ok) :
      BusCycle i2c1 bus (.triggerFailed (bus.call i2c1 Sht3xSensor.triggerTransfer).1)
        (bus.call i2c1 Sht3xSensor.triggerTransfer).2
  | readFailed
      (status : I2cStatus) :
      BusCycle i2c1 bus (.readFailed status) (bus.call i2c1 Sht3xSensor.readTransfer).2
  | rejected
      (succeeds : (bus.call i2c1 Sht3xSensor.readTransfer).1 = .ok) :
      BusCycle i2c1 bus .rejected (bus.call i2c1 Sht3xSensor.readTransfer).2
  | accepted
      (succeeds : (bus.call i2c1 Sht3xSensor.readTransfer).1 = .ok) :
      BusCycle i2c1 bus .accepted (bus.call i2c1 Sht3xSensor.readTransfer).2

/-- A reading that is decoded was delivered by the bus. -/
theorem readStatus_of_readMeasurement
    {reply : I2cReply}
    {raw : UInt16 × UInt16}
    (reading : Sht3xSensor.readMeasurement reply = .ok raw) :
    reply.readStatus = .ok := by
  by_contra failed
  rw [Sht3xSensor.readMeasurement, if_pos failed] at reading
  cases reading

/-- Every call of `process` is one of these. -/
theorem processOn_busCycle
    (sys : System D)
    (bus : I2cBus)
    (nowMs : UInt32) :
    BusCycle i2c1 bus (sys.accessOn i2c1 bus nowMs) (sys.processOn i2c1 bus nowMs).2 := by
  cases state : sys.service.state with
  | trigger =>
      simp only [accessOn, access, replyOn, processOn, state]
      split
      case isTrue => exact .idle
      case isFalse =>
          split
          case isTrue succeeds => exact .triggered succeeds
          case isFalse fails => exact .triggerFailed fails
  | read =>
      simp only [accessOn, access, replyOn, processOn, state]
      split
      case isTrue => exact .idle
      case isFalse =>
          cases reading : Sht3xSensor.readMeasurement (Sht3xSensor.fetchReply i2c1 bus).1 with
          | error status => exact .readFailed status
          | ok raw =>
              have succeeds := readStatus_of_readMeasurement reading
              by_cases outOfRange : SensorService.OutOfRange raw.1 raw.2
              · simp only [if_pos outOfRange]
                exact .rejected succeeds
              · simp only [if_neg outOfRange]
                exact .accepted succeeds

/-- A call of `process` releases the bus. -/
theorem BusCycle.returned
    {access : Access}
    {after : I2cBus}
    (cycle : BusCycle i2c1 bus access after)
    (ready : bus.Ready) :
    Returned bus (transferReads 6) after := by
  have triggers : Returned bus (transferReads 6)
      (bus.call i2c1 Sht3xSensor.triggerTransfer).2 :=
    (I2cBus.call_returned i2c1 Sht3xSensor.triggerTransfer ready).weaken (by decide) id id id
  have reads : Returned bus (transferReads 6) (bus.call i2c1 Sht3xSensor.readTransfer).2 :=
    I2cBus.call_returned i2c1 Sht3xSensor.readTransfer ready
  cases cycle with
  | idle => exact (I2cBus.returned_refl ready).weaken (Nat.zero_le _) id id id
  | triggered | triggerFailed => exact triggers
  | readFailed | rejected | accepted => exact reads

/-- It sends a beginning of its command, and all of it when the sensor took it. -/
theorem BusCycle.sent
    {access : Access}
    {after : I2cBus}
    (cycle : BusCycle i2c1 bus access after) :
    ∃ chunk, after.sent = bus.sent ++ chunk ∧ access.Sends chunk := by
  obtain ⟨command, commanded, commandStart, commandAll⟩ :=
    I2cBus.call_sent i2c1 Sht3xSensor.triggerTransfer bus
  obtain ⟨request, requested, requestStart, requestAll⟩ :=
    I2cBus.call_sent i2c1 Sht3xSensor.readTransfer bus
  rw [Sht3xSensor.message_triggerTransfer] at commandStart commandAll
  rw [Sht3xSensor.message_readTransfer] at requestStart requestAll
  cases cycle with
  | idle => exact ⟨[], (List.append_nil _).symm, List.prefix_refl _, fun _ => rfl⟩
  | triggered succeeds =>
      exact ⟨command, commanded, commandStart, fun _ => commandAll succeeds⟩
  | triggerFailed =>
      exact ⟨command, commanded, commandStart,
        fun complete => absurd complete Bool.false_ne_true⟩
  | readFailed =>
      exact ⟨request, requested, requestStart,
        fun complete => absurd complete Bool.false_ne_true⟩
  | rejected succeeds | accepted succeeds =>
      exact ⟨request, requested, requestStart, fun _ => requestAll succeeds⟩

/-- It reads the bytes of an accepted measurement from the bus, and gives none back. -/
theorem BusCycle.drReads
    {access : Access}
    {after : I2cBus}
    (cycle : BusCycle i2c1 bus access after) :
    bus.drReads ≤ after.drReads ∧ (access = .accepted → after.drReads = bus.drReads + 6) := by
  have grows (transfer : Transfer) : bus.drReads ≤
      (bus.call i2c1 transfer).2.drReads := by
    obtain ⟨count, -, stored, -⟩ := I2cBus.call_stored i2c1 transfer bus
    rw [(Prod.mk.inj stored).1]
    exact Nat.le_add_right _ _
  cases cycle with
  | idle => exact ⟨Nat.le_refl _, nofun⟩
  | triggered | triggerFailed | readFailed | rejected => exact ⟨grows _, nofun⟩
  | accepted succeeds =>
      exact ⟨grows _, fun _ => Sht3xSensor.fetchReply_drReads i2c1 succeeds⟩

end

end System

end SensorFirmware
