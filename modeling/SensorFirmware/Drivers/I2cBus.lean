import SensorFirmware.Errors.ErrorManager
import SensorFirmware.Library.Answered
import SensorFirmware.Library.EarlyReturn
import SensorFirmware.Library.Flags

/-!
# I2C transfers

`I2cBus` drives the peripheral through its registers.  The status registers show
any value at each read, and the peripheral clears the START and STOP bits of CR1
whenever it likes.  Over every such behaviour a transfer reads the status registers
a bounded number of times, requests STOP behind every START, and leaves CR1 with ACK
set and POS clear.
-/

namespace SensorFirmware

open EarlyReturn (runFrom runFrom_bind_of_ok returnUnless forLoop Triple)
open Mask (IsSet)

/-! ## The registers -/

/-- `I2C_CR1_PE`. -/
def cr1Pe : UInt32 := 0x1

/-- `I2C_CR1_START`. -/
def cr1Start : UInt32 := 0x100

/-- `I2C_CR1_STOP`. -/
def cr1Stop : UInt32 := 0x200

/-- `I2C_CR1_ACK`. -/
def cr1Ack : UInt32 := 0x400

/-- `I2C_CR1_POS`. -/
def cr1Pos : UInt32 := 0x800

/-- `I2C_SR1_SB`. -/
def sr1Sb : UInt32 := 0x1

/-- `I2C_SR1_ADDR`. -/
def sr1Addr : UInt32 := 0x2

/-- `I2C_SR1_BTF`. -/
def sr1Btf : UInt32 := 0x4

/-- `I2C_SR1_RXNE`. -/
def sr1RxNe : UInt32 := 0x40

/-- `I2C_SR1_TXE`. -/
def sr1TxE : UInt32 := 0x80

/-- `I2C_SR1_BERR`. -/
def sr1Berr : UInt32 := 0x100

/-- `I2C_SR1_ARLO`. -/
def sr1Arlo : UInt32 := 0x200

/-- `I2C_SR1_AF`. -/
def sr1Af : UInt32 := 0x400

/-- `I2C_SR1_OVR`. -/
def sr1Ovr : UInt32 := 0x800

/-- `I2C_SR2_BUSY`. -/
def sr2Busy : UInt32 := 0x2

/-- What the registers show to the successive reads of each. -/
structure I2c1 where
  sr1 : Nat → UInt32
  sr2 : Nat → UInt32
  dr : Nat → UInt32
  /-- The bits of CR1 that the peripheral has served before each access to CR1. -/
  served : Nat → UInt32

/-- A condition that the driver requests on the bus. -/
inductive Request
  | start
  | stop
  deriving DecidableEq

/-- `I2cBus`, the register CR1, the reads of each register so far, the requests, the
bytes written to DR, and the bytes stored for the caller with their indices. -/
structure I2cBus where
  initialized : Bool
  cr1 : UInt32
  cr1Accesses : Nat
  sr1Reads : Nat
  sr2Reads : Nat
  drReads : Nat
  requests : List Request
  sent : List UInt8
  stored : List (Nat × UInt8)

/-- A function of the driver, which may return early with a status. -/
abbrev Driver (α : Type) : Type := EarlyReturn I2cBus I2cStatus α

namespace I2cBus

/-- `I2cBus::I2cBus`, with the registers after a reset of the chip. -/
def construct : I2cBus where
  initialized := false
  cr1 := 0
  cr1Accesses := 0
  sr1Reads := 0
  sr2Reads := 0
  drReads := 0
  requests := []
  sent := []
  stored := []

section

variable (i2c1 : I2c1)

/-- CR1 as an access finds it: the peripheral clears START and STOP by itself. -/
def shownCr1 (bus : I2cBus) : UInt32 :=
  bus.cr1 &&& ~~~(i2c1.served bus.cr1Accesses &&& (cr1Start ||| cr1Stop))

/-- Write CR1 from the value that it shows. -/
def updateCr1 (update : UInt32 → UInt32) (bus : I2cBus) : I2cBus :=
  { bus with
    cr1 := update (bus.shownCr1 i2c1)
    cr1Accesses := bus.cr1Accesses + 1 }

/-- Set START or STOP. -/
def request (bit : UInt32) (requested : Request) (bus : I2cBus) : I2cBus :=
  { bus.updateCr1 i2c1 (· ||| bit) with requests := bus.requests ++ [requested] }

/-- `I2C1->CR1 |= mask`. -/
def setCr1 (mask : UInt32) : Driver Unit :=
  modify (updateCr1 i2c1 (· ||| mask))

/-- `I2C1->CR1 &= ~mask`. -/
def clearCr1 (mask : UInt32) : Driver Unit :=
  modify (updateCr1 i2c1 (· &&& ~~~mask))

/-- `I2C1->CR1 |= I2C_CR1_START`. -/
def generateStart : Driver Unit :=
  modify (request i2c1 cr1Start .start)

/-- `generateStop`. -/
def generateStop : Driver Unit :=
  modify (request i2c1 cr1Stop .stop)

/-- Read SR1. -/
def readSr1 : Driver UInt32 :=
  modifyGet fun bus => (i2c1.sr1 bus.sr1Reads, { bus with sr1Reads := bus.sr1Reads + 1 })

/-- Read SR2. -/
def readSr2 : Driver UInt32 :=
  modifyGet fun bus => (i2c1.sr2 bus.sr2Reads, { bus with sr2Reads := bus.sr2Reads + 1 })

/-- `I2C1->SR1 &= ~mask`: a read, and a write that does not determine what the
register shows next. -/
def clearSr1 (_mask : UInt32) : Driver Unit := do
  let _ ← readSr1 i2c1
  pure ()

/-- `I2C1->DR = byte`. -/
def writeDr (byte : UInt8) : Driver Unit :=
  modify fun bus => { bus with sent := bus.sent ++ [byte] }

/-- `data[index] = static_cast<uint8_t>(I2C1->DR)`. -/
def receive (index : Nat) : Driver Unit :=
  modify fun bus =>
    { bus with
      drReads := bus.drReads + 1
      stored := bus.stored ++ [(index, (i2c1.dr bus.drReads).toUInt8)] }

/-! ## The waits -/

/-- `I2C_TIMEOUT_VALUE`. -/
def i2cTimeoutValue : Nat := 300

/-- How a wait ends. -/
inductive Polled
  | ready
  | nacked
  | expired
  deriving DecidableEq

/-- One iteration of a wait, before `timeout-- == 0U` is checked. -/
def pollOnce (mask : UInt32) (checksAf : Bool) (next : Driver Polled) : Driver Polled := do
  let status ← readSr1 i2c1
  if IsSet mask status then pure .ready
  else if checksAf then do
    let status ← readSr1 i2c1
    if IsSet sr1Af status then do
      clearSr1 i2c1 sr1Af
      generateStop i2c1
      pure .nacked
    else next
  else next

/-- Wait until SR1 shows a flag, with or without a check for a missing acknowledge. -/
def poll (mask : UInt32) (checksAf : Bool) : Nat → Driver Polled
  | 0 => pollOnce i2c1 mask checksAf do
      generateStop i2c1
      pure .expired
  | timeout + 1 => pollOnce i2c1 mask checksAf (poll mask checksAf timeout)

/-- A wait that only says whether the flag came up. -/
def pollDone (mask : UInt32) (checksAf : Bool) : Driver Bool := do
  let polled ← poll i2c1 mask checksAf i2cTimeoutValue
  pure (polled = .ready)

/-- `waitSet(I2C1->SR1, mask)`. -/
def waitSet (mask : UInt32) : Driver Bool := pollDone i2c1 mask true

/-- `waitTxE`. -/
def waitTxE : Driver Bool := pollDone i2c1 sr1TxE true

/-- `waitBtf`. -/
def waitBtf : Driver Bool := pollDone i2c1 sr1Btf true

/-- `waitRxNE`. -/
def waitRxNE : Driver Bool := pollDone i2c1 sr1RxNe false

/-- The loops of `write` and `read` that wait for the address to be acknowledged. -/
def waitAddr : Driver Unit := do
  let polled ← poll i2c1 sr1Addr true i2cTimeoutValue
  match polled with
  | .ready => pure ()
  | .nacked => throw .nack
  | .expired => throw .timeout

/-- `if (!wait()) { cleanUp; return I2cStatus::Timeout; }`. -/
def orTimeout (wait : Driver Bool) (cleanUp : Driver Unit) : Driver Unit := do
  let done ← wait
  returnUnless done cleanUp .timeout

/-! ## Set-up and recovery -/

/-- `if ((status & mask) != 0U) { body }`. -/
def whenSet (mask status : UInt32) (body : Driver Unit) : Driver Unit :=
  if IsSet mask status then body else pure ()

/-- `if ((I2C1->SR1 & mask) != 0U) { I2C1->SR1 &= ~mask; }`. -/
def clearErrorFlag (mask : UInt32) : Driver Unit := do
  let status ← readSr1 i2c1
  whenSet mask status (clearSr1 i2c1 mask)

/-- `clearErrorFlags`. -/
def clearErrorFlags : Driver Unit := do
  clearErrorFlag i2c1 sr1Af
  clearErrorFlag i2c1 sr1Arlo
  clearErrorFlag i2c1 sr1Berr
  clearErrorFlag i2c1 sr1Ovr

/-- What `configurePeripheral24MHz` does to CR1. -/
def configurePeripheral24MHz : Driver Unit := do
  clearCr1 i2c1 cr1Pe
  modify (updateCr1 i2c1 fun _ => 0)
  setCr1 i2c1 cr1Ack
  setCr1 i2c1 cr1Pe

/-- `I2cBus::recoverBus`, without the pins. -/
def recoverBus : Driver Unit := do
  clearCr1 i2c1 cr1Pe
  configurePeripheral24MHz i2c1
  clearErrorFlags i2c1
  modify fun bus => { bus with initialized := true }

/-- `I2cBus::initialize`, without the pins. -/
def initializeBus : Driver Unit := do
  configurePeripheral24MHz i2c1
  let status ← readSr2 i2c1
  whenSet sr2Busy status (recoverBus i2c1)
  modify fun bus => { bus with initialized := true }

/-! ## The transfers -/

/-- The checks that both transfers make before they touch the bus. -/
def checkArguments (hasData : Bool) (size : Nat) : Driver Unit := do
  let bus ← get
  returnUnless (bus.initialized && hasData && size != 0) (pure ()) .invalidArgument

/-- What both transfers do to get a bus that is not busy. -/
def acquire : Driver Unit := do
  clearErrorFlags i2c1
  let status ← readSr2 i2c1
  whenSet sr2Busy status do
    recoverBus i2c1
    let status ← readSr2 i2c1
    returnUnless (¬ IsSet sr2Busy status) (pure ()) .busError

/-- `I2cBus::write`; a null pointer is `none`. -/
def write (address : UInt8) (data : Option (Nat → UInt8)) (size : Nat) : Driver Unit := do
  checkArguments data.isSome size
  acquire i2c1
  generateStart i2c1
  orTimeout (waitSet i2c1 sr1Sb) (pure ())
  writeDr (address <<< 1)
  waitAddr i2c1
  let _ ← readSr1 i2c1
  let _ ← readSr2 i2c1
  forLoop (fun i => do
    orTimeout (waitTxE i2c1) (pure ())
    writeDr ((data.getD fun _ => 0) i)) size
  orTimeout (waitBtf i2c1) (pure ())
  generateStop i2c1

/-- The reception of one byte. -/
def receiveOne : Driver Unit := do
  clearCr1 i2c1 cr1Ack
  let _ ← readSr1 i2c1
  let _ ← readSr2 i2c1
  generateStop i2c1
  orTimeout (waitRxNE i2c1) (setCr1 i2c1 cr1Ack)
  receive i2c1 0

/-- The reception of two bytes. -/
def receiveTwo : Driver Unit := do
  setCr1 i2c1 cr1Pos
  clearCr1 i2c1 cr1Ack
  let _ ← readSr1 i2c1
  let _ ← readSr2 i2c1
  orTimeout (waitBtf i2c1) do
    clearCr1 i2c1 cr1Pos
    setCr1 i2c1 cr1Ack
  generateStop i2c1
  receive i2c1 0
  receive i2c1 1
  clearCr1 i2c1 cr1Pos

/-- The reception of three bytes or more. -/
def receiveMany (size : Nat) : Driver Unit := do
  let _ ← readSr1 i2c1
  let _ ← readSr2 i2c1
  forLoop (fun i => do
    orTimeout (waitRxNE i2c1) (setCr1 i2c1 cr1Ack)
    receive i2c1 i) (size - 3)
  orTimeout (waitBtf i2c1) (setCr1 i2c1 cr1Ack)
  clearCr1 i2c1 cr1Ack
  receive i2c1 (size - 3)
  generateStop i2c1
  receive i2c1 (size - 3 + 1)
  orTimeout (waitRxNE i2c1) (setCr1 i2c1 cr1Ack)
  receive i2c1 (size - 3 + 2)

/-- The reception that fits the size. -/
def receiveAll (size : Nat) : Driver Unit :=
  if size = 1 then receiveOne i2c1
  else if size = 2 then receiveTwo i2c1
  else receiveMany i2c1 size

/-- `I2cBus::read`; `hasData` says that the pointer is not null. -/
def read (address : UInt8) (hasData : Bool) (size : Nat) : Driver Unit := do
  checkArguments hasData size
  acquire i2c1
  clearCr1 i2c1 cr1Pos
  setCr1 i2c1 cr1Ack
  generateStart i2c1
  orTimeout (waitSet i2c1 sr1Sb) (pure ())
  writeDr ((address <<< 1) ||| 1)
  waitAddr i2c1
  receiveAll i2c1 size
  setCr1 i2c1 cr1Ack
  clearCr1 i2c1 cr1Pos

/-- `I2cBus::writeRead`. -/
def writeRead
    (address : UInt8)
    (txData : Option (Nat → UInt8))
    (txSize : Nat)
    (hasRxData : Bool)
    (rxSize : Nat) : Driver Unit := do
  write i2c1 address txData txSize
  read i2c1 address hasRxData rxSize

/-- A call of one of the three transfers. -/
inductive Transfer
  | write (address : UInt8) (data : Option (Nat → UInt8)) (size : Nat)
  | read (address : UInt8) (hasData : Bool) (size : Nat)
  | writeRead (address : UInt8) (txData : Option (Nat → UInt8)) (txSize : Nat)
      (hasRxData : Bool) (rxSize : Nat)

/-- The function that is called. -/
def Transfer.program : Transfer → Driver Unit
  | .write address data size => I2cBus.write i2c1 address data size
  | .read address hasData size => I2cBus.read i2c1 address hasData size
  | .writeRead address txData txSize hasRxData rxSize =>
      I2cBus.writeRead i2c1 address txData txSize hasRxData rxSize

/-- The status that a call returns, and the bus afterwards. -/
def call (transfer : Transfer) (bus : I2cBus) : I2cStatus × I2cBus :=
  match runFrom (transfer.program i2c1) bus with
  | (.ok _, after) => (.ok, after)
  | (.error status, after) => (status, after)

/-! ## How a wait ends -/

/-- The bus after some reads of SR1. -/
def afterReads (bus : I2cBus) (reads : Nat) : I2cBus :=
  { bus with sr1Reads := bus.sr1Reads + reads }

/-- A wait requests STOP unless the flag came up. -/
def afterPoll (bus : I2cBus) (polled : Polled) (reads : Nat) : I2cBus :=
  if polled = .ready then bus.afterReads reads
  else (bus.afterReads reads).request i2c1 cr1Stop .stop

@[simp] theorem afterReads_afterReads (bus : I2cBus) (first second : Nat) :
    (bus.afterReads first).afterReads second = bus.afterReads (first + second) := by
  rw [afterReads, afterReads, afterReads, Nat.add_assoc]

/-- An iteration ends the wait after at most three reads, or goes on after two. -/
theorem runFrom_pollOnce
    (mask : UInt32)
    (checksAf : Bool)
    (next : Driver Polled)
    (bus : I2cBus) :
    (∃ polled reads, reads ≤ 3 ∧
        runFrom (pollOnce i2c1 mask checksAf next) bus =
          (.ok polled, bus.afterPoll i2c1 polled reads)) ∨
      ∃ reads ≤ 2, runFrom (pollOnce i2c1 mask checksAf next) bus =
        runFrom next (bus.afterReads reads) := by
  have reading (bus : I2cBus) :
      runFrom (readSr1 i2c1) bus = (.ok (i2c1.sr1 bus.sr1Reads), bus.afterReads 1) := rfl
  rw [pollOnce, runFrom_bind_of_ok (reading bus)]
  split
  case isTrue => exact .inl ⟨.ready, 1, by decide, rfl⟩
  case isFalse =>
    split
    case isFalse => exact .inr ⟨1, by decide, rfl⟩
    case isTrue =>
      rw [runFrom_bind_of_ok (reading _)]
      split
      case isFalse => exact .inr ⟨2, by decide, rfl⟩
      case isTrue => exact .inl ⟨.nacked, 3, by decide, rfl⟩

/-- A wait ends after a bounded number of reads. -/
theorem runFrom_poll
    (mask : UInt32)
    (checksAf : Bool)
    (timeout : Nat)
    (bus : I2cBus) :
    ∃ polled reads, reads ≤ 2 * timeout + 3 ∧
      runFrom (poll i2c1 mask checksAf timeout) bus =
        (.ok polled, bus.afterPoll i2c1 polled reads) := by
  induction timeout generalizing bus with
  | zero =>
      rcases runFrom_pollOnce i2c1 mask checksAf (do generateStop i2c1; pure .expired) bus with
        ⟨polled, reads, few, ends⟩ | ⟨reads, few, goesOn⟩
      · exact ⟨polled, reads, few, ends⟩
      · exact ⟨.expired, reads, by omega, goesOn⟩
  | succ timeout inductionHypothesis =>
      rcases runFrom_pollOnce i2c1 mask checksAf (poll i2c1 mask checksAf timeout) bus with
        ⟨polled, reads, few, ends⟩ | ⟨reads, few, goesOn⟩
      · exact ⟨polled, reads, by omega, ends⟩
      · obtain ⟨polled, later, laterFew, ends⟩ :=
          inductionHypothesis (bus.afterReads reads)
        refine ⟨polled, reads + later, by omega, ?_⟩
        rw [poll, goesOn, ends, afterPoll, afterReads_afterReads]
        rfl

/-- The reads of SR1 in a wait, at most. -/
def waitReads : Nat := 2 * i2cTimeoutValue + 3

/-- A wait leaves its reads behind, and a request for STOP unless the flag came up. -/
theorem triple_poll
    {mask : UInt32}
    {checksAf : Bool}
    {pre : I2cBus → Prop}
    {post : Polled → I2cBus → Prop}
    {left : I2cStatus → I2cBus → Prop}
    (ends : ∀ bus polled reads, pre bus → reads ≤ waitReads →
      post polled (bus.afterPoll i2c1 polled reads)) :
    Triple pre (poll i2c1 mask checksAf i2cTimeoutValue) post left := by
  intro bus meets
  obtain ⟨polled, reads, few, result⟩ :=
    runFrom_poll i2c1 mask checksAf i2cTimeoutValue bus
  rw [result]
  exact ends bus polled reads meets few

variable {i2c1}

/-- What a triple says of both ends of a transfer holds of its call. -/
theorem call_of_triple
    {transfer : Transfer}
    {pre : I2cBus → Prop}
    {bus : I2cBus}
    (left : I2cStatus → I2cBus → Prop)
    (triple : Triple pre (transfer.program i2c1) (fun _ => left .ok) left)
    (meets : pre bus) :
    left (bus.call i2c1 transfer).1 (bus.call i2c1 transfer).2 := by
  have reached := triple bus meets
  rw [call]
  match runFrom (transfer.program i2c1) bus, reached with
  | (.ok _, _), ends => exact ends
  | (.error _, _), ends => exact ends

end

end I2cBus

end SensorFirmware
