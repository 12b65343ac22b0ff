import SensorFirmware.Drivers.I2cControl
import SensorFirmware.Library.Transition

/-!
# The bytes that a transfer sends

What a transfer writes to DR is its message: the address byte, and behind it the data
of a write.  Whatever the registers show, a call sends a beginning of its message, and
all of it when it returns `Ok`.
-/

namespace SensorFirmware

open EarlyReturn (Triple triple_bind triple_seq triple_modify triple_forLoop keeps_pure
  keeps_modify keeps_bind keeps_ite keeps_forLoop)

namespace I2cBus

/-! ## What is sent -/

theorem dataView_sent : DataView I2cBus.sent := fun _ _ _ _ _ _ _ => rfl

/-- The address byte of a write and its data. -/
def writeMessage (address : UInt8) (data : Option (Nat → UInt8)) (size : Nat) : List UInt8 :=
  (address <<< 1) :: (List.range size).map (data.getD fun _ => 0)

theorem length_writeMessage
    (address : UInt8)
    (data : Option (Nat → UInt8))
    (size : Nat) :
    (writeMessage address data size).length = size + 1 := by
  rw [writeMessage, List.length_cons, List.length_map, List.length_range]

/-- The bytes that a transfer has to send. -/
def Transfer.message : Transfer → List UInt8
  | .write address data size => writeMessage address data size
  | .read address _ _ => [(address <<< 1) ||| 1]
  | .writeRead address txData txSize _ _ =>
      writeMessage address txData txSize ++ [(address <<< 1) ||| 1]

/-- A call that began in the state `start` has sent `count` bytes of its message. -/
def Sent (start : I2cBus) (message : List UInt8) (count : Nat) (bus : I2cBus) : Prop :=
  bus.sent = start.sent ++ message.take count

/-- A call that fails has sent a beginning of its message. -/
def SentSome
    (start : I2cBus)
    (message : List UInt8)
    (status : I2cStatus)
    (bus : I2cBus) : Prop :=
  status ≠ .ok ∧ ∃ count, Sent start message count bus

section

variable {i2c1 : I2c1} {start : I2cBus} {message : List UInt8} {count : Nat}

theorem sent_zero : Sent start message 0 start := by
  rw [Sent, List.take_zero, List.append_nil]

theorem triple_of_controls
    {program : Driver α}
    (controls : Controls I2cBus.sent program) :
    Triple (Sent start message count) program (fun _ => Sent start message count)
      (SentSome start message) :=
  (controls (· = start.sent ++ message.take count)).weaken (fun _ sent => sent)
    (fun _ _ sent => sent) fun _ _ ⟨fails, sent⟩ => ⟨fails, count, sent⟩

/-- A statement that sends nothing, and what follows it. -/
theorem triple_bind_controls
    {program : Driver α}
    {next : α → Driver β}
    {post : β → I2cBus → Prop}
    (controls : Controls I2cBus.sent program)
    (rest : ∀ value,
      Triple (Sent start message count) (next value) post (SentSome start message)) :
    Triple (Sent start message count) (program >>= next) post (SentSome start message) :=
  triple_bind (triple_of_controls controls) rest

/-- The next byte of the message. -/
theorem triple_writeNext
    {byte : UInt8}
    (next : message[count]? = some byte) :
    Triple (Sent start message count) (writeDr byte)
      (fun _ => Sent start message (count + 1)) (SentSome start message) := by
  refine triple_modify fun bus sent => ?_
  rw [Sent, List.take_add_one, next, ← List.append_assoc, ← sent]
  rfl

/-- A write sends its address byte and its data, whatever is to follow. -/
theorem write_sent
    (address : UInt8)
    (data : Option (Nat → UInt8))
    (size : Nat)
    (later : List UInt8) :
    Triple (Sent start (writeMessage address data size ++ later) 0)
      (write i2c1 address data size)
      (fun _ => Sent start (writeMessage address data size ++ later) (size + 1))
      (SentSome start (writeMessage address data size ++ later)) := by
  have dataNext (index : Nat) (inside : index < size) :
      (writeMessage address data size ++ later)[index + 1]? =
        some ((data.getD fun _ => 0) index) := by
    have covered : index + 1 < (writeMessage address data size).length := by
      rw [length_writeMessage]
      exact Nat.succ_lt_succ inside
    rw [List.getElem?_append_left covered, writeMessage, List.getElem?_cons_succ,
      List.getElem?_map, List.getElem?_range inside]
    rfl
  have view := dataView_sent
  have looped : Triple (Sent start (writeMessage address data size ++ later) 1)
      (EarlyReturn.forLoop (fun i => do
        orTimeout (waitTxE i2c1) (pure ())
        writeDr ((data.getD fun _ => 0) i)) size)
      (fun _ => Sent start (writeMessage address data size ++ later) (size + 1))
      (SentSome start (writeMessage address data size ++ later)) :=
    triple_forLoop
      (fun index => Sent start (writeMessage address data size ++ later) (index + 1))
      fun index inside =>
        triple_bind_controls (view.pollOrTimeout i2c1 _ _ (keeps_pure _)) fun _ =>
          triple_writeNext (dataNext index inside)
  refine triple_bind_controls (DataView.checkArguments _ _) fun _ => ?_
  refine triple_bind_controls (view.acquire i2c1) fun _ => ?_
  refine triple_bind_controls (view.generateStart i2c1) fun _ => ?_
  refine triple_bind_controls (view.pollOrTimeout i2c1 _ _ (keeps_pure _)) fun _ => ?_
  refine triple_seq (triple_writeNext rfl) ?_
  refine triple_bind_controls (view.waitAddr i2c1) fun _ => ?_
  refine triple_bind_controls (view.readSr1 i2c1) fun _ => ?_
  refine triple_bind_controls (view.readSr2 i2c1) fun _ => ?_
  refine triple_seq looped ?_
  refine triple_bind_controls (view.pollOrTimeout i2c1 _ _ (keeps_pure _)) fun _ => ?_
  exact triple_of_controls (view.generateStop i2c1)

/-- A reception sends nothing. -/
theorem controls_receiveAll (size : Nat) : Controls I2cBus.sent (receiveAll i2c1 size) := by
  have view := dataView_sent
  have receives (index : Nat) : Controls I2cBus.sent (receive i2c1 index) :=
    keeps_modify fun _ => rfl
  have waits (mask : UInt32) (checksAf : Bool) : Controls I2cBus.sent
      (orTimeout (pollDone i2c1 mask checksAf) (setCr1 i2c1 cr1Ack)) :=
    view.pollOrTimeout i2c1 mask checksAf (view.updateCr1 i2c1 _)
  have one : Controls I2cBus.sent (receiveOne i2c1) := by
    refine keeps_bind (view.updateCr1 i2c1 _) fun _ => ?_
    refine keeps_bind (view.readSr1 i2c1) fun _ => ?_
    refine keeps_bind (view.readSr2 i2c1) fun _ => ?_
    refine keeps_bind (view.generateStop i2c1) fun _ => ?_
    exact keeps_bind (waits _ _) fun _ => receives 0
  have two : Controls I2cBus.sent (receiveTwo i2c1) := by
    refine keeps_bind (view.updateCr1 i2c1 _) fun _ => ?_
    refine keeps_bind (view.updateCr1 i2c1 _) fun _ => ?_
    refine keeps_bind (view.readSr1 i2c1) fun _ => ?_
    refine keeps_bind (view.readSr2 i2c1) fun _ => keeps_bind (view.pollOrTimeout i2c1 _ _
      (keeps_bind (view.updateCr1 i2c1 _) fun _ => view.updateCr1 i2c1 _)) fun _ => ?_
    refine keeps_bind (view.generateStop i2c1) fun _ => keeps_bind (receives 0) fun _ => ?_
    exact keeps_bind (receives 1) fun _ => view.updateCr1 i2c1 _
  have many : Controls I2cBus.sent (receiveMany i2c1 size) := by
    refine keeps_bind (view.readSr1 i2c1) fun _ => keeps_bind (view.readSr2 i2c1) fun _ => ?_
    refine keeps_bind (keeps_forLoop (fun index => keeps_bind (waits _ _) fun _ =>
      receives index) _) fun _ => ?_
    refine keeps_bind (waits _ _) fun _ => keeps_bind (view.updateCr1 i2c1 _) fun _ => ?_
    refine keeps_bind (receives _) fun _ => keeps_bind (view.generateStop i2c1) fun _ => ?_
    exact keeps_bind (receives _) fun _ => keeps_bind (waits _ _) fun _ => receives _
  exact keeps_ite one (keeps_ite two many)

/-- A read sends its address byte. -/
theorem read_sent
    (address : UInt8)
    (hasData : Bool)
    (size : Nat)
    (addressNext : message[count]? = some ((address <<< 1) ||| 1)) :
    Triple (Sent start message count) (read i2c1 address hasData size)
      (fun _ => Sent start message (count + 1)) (SentSome start message) := by
  have view := dataView_sent
  refine triple_bind_controls (DataView.checkArguments _ _) fun _ => ?_
  refine triple_bind_controls (view.acquire i2c1) fun _ => ?_
  refine triple_bind_controls (view.updateCr1 i2c1 _) fun _ => ?_
  refine triple_bind_controls (view.updateCr1 i2c1 _) fun _ => ?_
  refine triple_bind_controls (view.generateStart i2c1) fun _ => ?_
  refine triple_bind_controls (view.pollOrTimeout i2c1 _ _ (keeps_pure _)) fun _ => ?_
  refine triple_seq (triple_writeNext addressNext) ?_
  refine triple_bind_controls (view.waitAddr i2c1) fun _ => ?_
  refine triple_bind_controls (controls_receiveAll size) fun _ => ?_
  refine triple_bind_controls (view.updateCr1 i2c1 _) fun _ => ?_
  exact triple_of_controls (view.updateCr1 i2c1 _)

theorem transfer_sent (i2c1 : I2c1) (transfer : Transfer) :
    Triple (Sent start transfer.message 0) (transfer.program i2c1)
      (fun _ => Sent start transfer.message transfer.message.length)
      (SentSome start transfer.message) := by
  cases transfer with
  | write address data size =>
      rw [Transfer.message, length_writeMessage, ← List.append_nil (writeMessage _ _ _)]
      exact write_sent address data size []
  | read address hasData size => exact read_sent address hasData size rfl
  | writeRead address txData txSize hasRxData rxSize =>
      have next : (writeMessage address txData txSize ++ [(address <<< 1) ||| 1])[txSize + 1]? =
          some ((address <<< 1) ||| 1) := by
        rw [← length_writeMessage address txData txSize, List.getElem?_concat_length]
      rw [Transfer.message, List.length_append, length_writeMessage]
      exact triple_seq (write_sent address txData txSize _)
        (read_sent address hasRxData rxSize next)

end

/-! ## Calls -/

/-- A call sends a beginning of its message, and all of it on success. -/
theorem call_sent
    (i2c1 : I2c1)
    (transfer : Transfer)
    (bus : I2cBus) :
    ∃ bytes, (bus.call i2c1 transfer).2.sent = bus.sent ++ bytes ∧
      bytes <+: transfer.message ∧
      ((bus.call i2c1 transfer).1 = .ok → bytes = transfer.message) := by
  have began : Sent bus transfer.message 0 bus := sent_zero
  refine call_of_triple (fun status after => ∃ bytes, after.sent = bus.sent ++ bytes ∧
    bytes <+: transfer.message ∧ (status = .ok → bytes = transfer.message)) ?_ began
  refine (transfer_sent i2c1 transfer).weaken (fun _ sent => sent) ?_ ?_
  · intro _ after sent
    rw [Sent, List.take_length] at sent
    exact ⟨transfer.message, sent, List.prefix_refl _, fun _ => rfl⟩
  · rintro _ after ⟨fails, count, sent⟩
    exact ⟨transfer.message.take count, sent, List.take_prefix count _,
      fun succeeds => absurd succeeds fails⟩

/-- The status that each call of a run returns. -/
def statuses (i2c1 : I2c1) (bus : I2cBus) (transfers : List Transfer) : List I2cStatus :=
  Transition.outputs (fun bus transfer => (bus.call i2c1 transfer).2)
    (fun bus transfer => (bus.call i2c1 transfer).1) bus transfers

/-- Over any sequence of calls, what is written to DR are the messages of the calls in
order: all of a message for each call that returns `Ok`, and a beginning of it for each
call that fails. -/
theorem run_sendsMessages
    (i2c1 : I2c1)
    (bus : I2cBus)
    (transfers : List Transfer) :
    let after : I2cBus :=
      Transition.run (fun bus transfer => (bus.call i2c1 transfer).2) bus transfers
    ∃ chunks, after.sent = bus.sent ++ chunks.flatten ∧
      List.Forall₂ (fun call chunk => chunk <+: call.1.message ∧
          (call.2 = .ok → chunk = call.1.message))
        (transfers.zip (statuses i2c1 bus transfers)) chunks := by
  intro after
  let Fits (transfer : Transfer) (status : I2cStatus) (chunk : List UInt8) : Prop :=
    chunk <+: transfer.message ∧ (status = .ok → chunk = transfer.message)
  exact Transition.exists_chunks I2cBus.sent Fits
    (fun bus transfer => call_sent i2c1 transfer bus) bus transfers

end I2cBus

end SensorFirmware
