import SensorFirmware.Drivers.I2cControl
import SensorFirmware.Library.Transition
import SensorFirmware.Library.WriteLog

/-!
# The bytes that a read receives

The three receive sequences of `I2cBus::read` agree on one contract: whatever the
status registers show, the call stores the first bytes of the received stream at the
indices from zero on, at most as many as were asked for, and all of them when it
returns `Ok`.  Nothing else reads DR or stores a byte.
-/

namespace SensorFirmware

open EarlyReturn (Triple triple_bind triple_seq triple_ite triple_pure triple_modify
  triple_of_fact triple_returnUnless triple_forLoop keeps_pure keeps_get keeps_modify
  keeps_bind keeps_forLoop)

namespace I2cBus

/-- The reads of DR so far, and what was stored. -/
def received (bus : I2cBus) : Nat × List (Nat × UInt8) := (bus.drReads, bus.stored)

theorem dataView_received : DataView received := fun _ _ _ _ _ _ _ => rfl

section

variable (i2c1 : I2c1)

theorem controls_writeDr (byte : UInt8) : Controls received (writeDr byte) :=
  keeps_modify fun _ => rfl

/-- A write receives nothing. -/
theorem controls_write (address : UInt8) (data : Option (Nat → UInt8)) (size : Nat) :
    Controls received (write i2c1 address data size) := by
  have view := dataView_received
  refine keeps_bind (DataView.checkArguments _ _) fun _ => ?_
  refine keeps_bind (view.acquire i2c1) fun _ => ?_
  refine keeps_bind (view.generateStart i2c1) fun _ => ?_
  refine keeps_bind (view.pollOrTimeout i2c1 _ _ (keeps_pure _)) fun _ => ?_
  refine keeps_bind (controls_writeDr _) fun _ => keeps_bind (view.waitAddr i2c1) fun _ => ?_
  refine keeps_bind (view.readSr1 i2c1) fun _ => keeps_bind (view.readSr2 i2c1) fun _ => ?_
  refine keeps_bind (keeps_forLoop (fun _ => ?_) size) fun _ => ?_
  · exact keeps_bind (view.pollOrTimeout i2c1 _ _ (keeps_pure _)) fun _ => controls_writeDr _
  · exact keeps_bind (view.pollOrTimeout i2c1 _ _ (keeps_pure _)) fun _ =>
      view.generateStop i2c1

/-! ## What is stored -/

/-- The byte that a read of DR yields, counted from the next one. -/
def nextByte (bus : I2cBus) (index : Nat) : UInt8 := (i2c1.dr (bus.drReads + index)).toUInt8

/-- The next `count` bytes of the received stream, at the indices from zero on. -/
def nextBytes (bus : I2cBus) (count : Nat) : List (Nat × UInt8) :=
  (List.range count).map fun index => (index, bus.nextByte i2c1 index)

/-- A buffer after the stores of a call. -/
def dataAfter (data : Nat → UInt8) (stores : List (Nat × UInt8)) : Nat → UInt8 :=
  (stores.map fun (index, byte) => BlockWrite.mk index [byte]).foldl BlockWrite.store data

theorem nextBytes_succ (bus : I2cBus) (count : Nat) :
    bus.nextBytes i2c1 (count + 1) =
      bus.nextBytes i2c1 count ++ [(count, bus.nextByte i2c1 count)] := by
  rw [nextBytes, List.range_succ, List.map_append]
  rfl

theorem length_nextBytes (bus : I2cBus) (count : Nat) :
    (bus.nextBytes i2c1 count).length = count := by
  rw [nextBytes, List.length_map, List.length_range]

theorem nextBytes_prefix
    (bus : I2cBus)
    {count size : Nat}
    (few : count ≤ size) :
    bus.nextBytes i2c1 count <+: bus.nextBytes i2c1 size := by
  have first : (bus.nextBytes i2c1 size).take count = bus.nextBytes i2c1 count := by
    rw [nextBytes, nextBytes, ← List.map_take, List.take_range, Nat.min_eq_left few]
  rw [← first]
  exact List.take_prefix count _

theorem lt_of_mem_nextBytes
    {bus : I2cBus}
    {count : Nat}
    {store : Nat × UInt8}
    (stored : store ∈ bus.nextBytes i2c1 count) :
    store.1 < count := by
  obtain ⟨index, inside, rfl⟩ := List.mem_map.mp stored
  exact List.mem_range.mp inside

/-- The stored bytes fill the buffer from its start, and the rest of it is unchanged. -/
theorem dataAfter_nextBytes
    (bus : I2cBus)
    (data : Nat → UInt8)
    (count index : Nat) :
    dataAfter data (bus.nextBytes i2c1 count) index =
      if index < count then bus.nextByte i2c1 index else data index := by
  rw [dataAfter, nextBytes, List.map_map]
  exact BlockWrite.foldl_store_range data (bus.nextByte i2c1) count index

/-- A call that began in the state `start` has stored `count` bytes. -/
def Stored (start : I2cBus) (count : Nat) (bus : I2cBus) : Prop :=
  bus.received = (start.drReads + count, start.stored ++ start.nextBytes i2c1 count)

/-- A call that fails has stored some of the bytes. -/
def StoredSome (start : I2cBus) (size : Nat) (status : I2cStatus) (bus : I2cBus) : Prop :=
  status ≠ .ok ∧ ∃ count ≤ size, Stored i2c1 start count bus

variable {i2c1} {start : I2cBus} {count size : Nat}

theorem stored_zero : Stored i2c1 start 0 start := by
  rw [Stored, nextBytes, List.range_zero, List.map_nil, List.append_nil]
  rfl

theorem triple_of_keeps
    {program : Driver α}
    (controls : Controls received program)
    (few : count ≤ size) :
    Triple (Stored i2c1 start count) program (fun _ => Stored i2c1 start count)
      (StoredSome i2c1 start size) :=
  (controls (· = (start.drReads + count, start.stored ++ start.nextBytes i2c1 count))).weaken
    (fun _ stored => stored) (fun _ _ stored => stored)
    fun _ _ ⟨fails, stored⟩ => ⟨fails, count, few, stored⟩

/-- A statement that receives nothing, and what follows it. -/
theorem triple_bind_keeps
    {program : Driver α}
    {next : α → Driver β}
    {post : β → I2cBus → Prop}
    (controls : Controls received program)
    (few : count ≤ size)
    (rest : ∀ value,
      Triple (Stored i2c1 start count) (next value) post (StoredSome i2c1 start size)) :
    Triple (Stored i2c1 start count) (program >>= next) post (StoredSome i2c1 start size) :=
  triple_bind (triple_of_keeps controls few) rest

/-- A reception at the next index adds the next byte. -/
theorem triple_receiveNext :
    Triple (Stored i2c1 start count) (receive i2c1 count)
      (fun _ => Stored i2c1 start (count + 1)) (StoredSome i2c1 start size) := by
  refine triple_modify fun bus stored => ?_
  obtain ⟨reads, bytes⟩ := Prod.mk.inj stored
  rw [Stored, received, nextBytes_succ, reads, bytes, ← List.append_assoc]
  rfl

/-! ## The receive sequences -/

theorem receiveOne_stored :
    Triple (Stored i2c1 start 0) (receiveOne i2c1)
      (fun _ => Stored i2c1 start 1) (StoredSome i2c1 start 1) := by
  have view := dataView_received
  have none : 0 ≤ 1 := by decide
  refine triple_bind_keeps (view.updateCr1 i2c1 _) none fun _ => ?_
  refine triple_bind_keeps (view.readSr1 i2c1) none fun _ => ?_
  refine triple_bind_keeps (view.readSr2 i2c1) none fun _ => ?_
  refine triple_bind_keeps (view.generateStop i2c1) none fun _ => ?_
  refine triple_bind_keeps (view.pollOrTimeout i2c1 _ _ (view.updateCr1 i2c1 _)) none
    fun _ => ?_
  exact triple_receiveNext

theorem receiveTwo_stored :
    Triple (Stored i2c1 start 0) (receiveTwo i2c1)
      (fun _ => Stored i2c1 start 2) (StoredSome i2c1 start 2) := by
  have view := dataView_received
  have none : 0 ≤ 2 := by decide
  refine triple_bind_keeps (view.updateCr1 i2c1 _) none fun _ => ?_
  refine triple_bind_keeps (view.updateCr1 i2c1 _) none fun _ => ?_
  refine triple_bind_keeps (view.readSr1 i2c1) none fun _ => ?_
  refine triple_bind_keeps (view.readSr2 i2c1) none fun _ => ?_
  refine triple_bind_keeps (view.pollOrTimeout i2c1 _ _
    (keeps_bind (view.updateCr1 i2c1 _) fun _ => view.updateCr1 i2c1 _)) none fun _ => ?_
  refine triple_bind_keeps (view.generateStop i2c1) none fun _ => ?_
  refine triple_seq triple_receiveNext (triple_seq triple_receiveNext ?_)
  exact triple_of_keeps (view.updateCr1 i2c1 _) (Nat.le_refl 2)

/-- The loop stores all but the last three bytes, which follow behind it. -/
theorem receiveMany_stored (atLeastThree : 3 ≤ size) :
    Triple (Stored i2c1 start 0) (receiveMany i2c1 size)
      (fun _ => Stored i2c1 start size) (StoredSome i2c1 start size) := by
  have view := dataView_received
  obtain ⟨before, rfl⟩ := Nat.exists_eq_add_of_le' atLeastThree
  have none : 0 ≤ before + 3 := Nat.zero_le _
  have few : before ≤ before + 3 := Nat.le_add_right _ _
  have looped : Triple (Stored i2c1 start 0)
      (EarlyReturn.forLoop (fun i => do
        orTimeout (waitRxNE i2c1) (setCr1 i2c1 cr1Ack)
        receive i2c1 i) before)
      (fun _ => Stored i2c1 start before) (StoredSome i2c1 start (before + 3)) :=
    triple_forLoop (fun index => Stored i2c1 start index) fun index inside =>
      triple_bind_keeps (view.pollOrTimeout i2c1 _ _ (view.updateCr1 i2c1 _))
        (by omega) fun _ => triple_receiveNext
  rw [receiveMany, Nat.add_sub_cancel]
  refine triple_bind_keeps (view.readSr1 i2c1) none fun _ => ?_
  refine triple_bind_keeps (view.readSr2 i2c1) none fun _ => ?_
  refine triple_seq looped ?_
  refine triple_bind_keeps (view.pollOrTimeout i2c1 _ _ (view.updateCr1 i2c1 _)) few
    fun _ => ?_
  refine triple_bind_keeps (view.updateCr1 i2c1 _) few fun _ => ?_
  refine triple_seq triple_receiveNext ?_
  refine triple_bind_keeps (view.generateStop i2c1) (by omega) fun _ => ?_
  refine triple_seq triple_receiveNext ?_
  refine triple_bind_keeps (view.pollOrTimeout i2c1 _ _ (view.updateCr1 i2c1 _)) (by omega)
    fun _ => ?_
  exact triple_receiveNext

/-- The three sequences store every byte that was asked for. -/
theorem receiveAll_stored (some : size ≠ 0) :
    Triple (Stored i2c1 start 0) (receiveAll i2c1 size)
      (fun _ => Stored i2c1 start size) (StoredSome i2c1 start size) := by
  refine triple_ite ?_ fun notOne => triple_ite ?_ fun notTwo => receiveMany_stored (by omega)
  · rintro rfl
    exact receiveOne_stored
  · rintro rfl
    exact receiveTwo_stored

/-- A read that gets past its checks was asked for some bytes. -/
theorem checkArguments_stored (hasData : Bool) :
    Triple (Stored i2c1 start 0) (checkArguments hasData size)
      (fun _ bus => size ≠ 0 ∧ Stored i2c1 start 0 bus) (StoredSome i2c1 start size) := by
  have none : 0 ≤ size := Nat.zero_le size
  refine triple_bind_keeps keeps_get none fun bus => triple_returnUnless ?_ ?_
  · intro checked after stored
    have some : (size != 0) = true := (Bool.and_eq_true_iff.mp checked).2
    exact ⟨bne_iff_ne.mp some, stored⟩
  · intro _
    exact triple_pure fun _ stored => ⟨by decide, 0, none, stored⟩

theorem read_stored (address : UInt8) (hasData : Bool) :
    Triple (Stored i2c1 start 0) (read i2c1 address hasData size)
      (fun _ => Stored i2c1 start size) (StoredSome i2c1 start size) := by
  have view := dataView_received
  have none : 0 ≤ size := Nat.zero_le size
  have all : size ≤ size := Nat.le_refl size
  refine triple_seq (checkArguments_stored hasData) (triple_of_fact fun some => ?_)
  refine triple_bind_keeps (view.acquire i2c1) none fun _ => ?_
  refine triple_bind_keeps (view.updateCr1 i2c1 _) none fun _ => ?_
  refine triple_bind_keeps (view.updateCr1 i2c1 _) none fun _ => ?_
  refine triple_bind_keeps (view.generateStart i2c1) none fun _ => ?_
  refine triple_bind_keeps (view.pollOrTimeout i2c1 _ _ (keeps_pure _)) none fun _ => ?_
  refine triple_bind_keeps (controls_writeDr _) none fun _ => ?_
  refine triple_bind_keeps (view.waitAddr i2c1) none fun _ => ?_
  refine triple_seq (receiveAll_stored some) ?_
  refine triple_bind_keeps (view.updateCr1 i2c1 _) all fun _ => ?_
  exact triple_of_keeps (view.updateCr1 i2c1 _) all

/-- The bytes that a call asks for. -/
def Transfer.rxSize : Transfer → Nat
  | .write _ _ _ => 0
  | .read _ _ size => size
  | .writeRead _ _ _ _ rxSize => rxSize

theorem transfer_stored (i2c1 : I2c1) (transfer : Transfer) :
    Triple (Stored i2c1 start 0) (transfer.program i2c1)
      (fun _ => Stored i2c1 start transfer.rxSize)
      (StoredSome i2c1 start transfer.rxSize) := by
  cases transfer with
  | write address data size =>
      exact triple_of_keeps (controls_write i2c1 address data size) (Nat.le_refl 0)
  | read address hasData size => exact read_stored address hasData
  | writeRead address txData txSize hasRxData rxSize =>
      exact triple_bind_keeps (controls_write i2c1 address txData txSize) (Nat.zero_le rxSize)
        fun _ => read_stored address hasRxData

end

/-! ## Calls -/

/-- A call stores some of the bytes that it asks for, and all of them on success. -/
theorem call_stored
    (i2c1 : I2c1)
    (transfer : Transfer)
    (bus : I2cBus) :
    ∃ count ≤ transfer.rxSize, Stored i2c1 bus count (bus.call i2c1 transfer).2 ∧
      ((bus.call i2c1 transfer).1 = .ok → count = transfer.rxSize) := by
  have began : Stored i2c1 bus 0 bus := stored_zero
  refine call_of_triple (fun status after => ∃ count ≤ transfer.rxSize,
    Stored i2c1 bus count after ∧ (status = .ok → count = transfer.rxSize)) ?_ began
  refine (transfer_stored i2c1 transfer).weaken (fun _ stored => stored) ?_ ?_
  · exact fun _ _ stored => ⟨transfer.rxSize, Nat.le_refl _, stored, fun _ => rfl⟩
  · rintro _ _ ⟨fails, count, few, stored⟩
    exact ⟨count, few, stored, fun succeeds => absurd succeeds fails⟩

/-- A read that returns `Ok` has filled the buffer with the received bytes. -/
theorem read_fillsData
    (i2c1 : I2c1)
    (address : UInt8)
    (hasData : Bool)
    (size : Nat)
    (bus : I2cBus)
    (data : Nat → UInt8)
    (succeeds : (bus.call i2c1 (.read address hasData size)).1 = .ok) :
    let after := (bus.call i2c1 (.read address hasData size)).2
    ∃ stores, after.stored = bus.stored ++ stores ∧
      ∀ index, dataAfter data stores index =
        if index < size then bus.nextByte i2c1 index else data index := by
  obtain ⟨count, -, stored, complete⟩ := call_stored i2c1 (.read address hasData size) bus
  obtain rfl : count = size := complete succeeds
  obtain ⟨-, bytes⟩ := Prod.mk.inj stored
  exact ⟨bus.nextBytes i2c1 count, bytes, dataAfter_nextBytes i2c1 bus data count⟩

/-- Over any sequence of calls, what is stored are the bytes read from DR in order: none
is lost between two calls, and none is stored twice. -/
theorem run_storesReceived
    (i2c1 : I2c1)
    (bus : I2cBus)
    (transfers : List Transfer) :
    let after : I2cBus :=
      Transition.run (fun bus transfer => (bus.call i2c1 transfer).2) bus transfers
    ∃ count, after.drReads = bus.drReads + count ∧
      after.stored.map Prod.snd =
        bus.stored.map Prod.snd ++ (List.range count).map (bus.nextByte i2c1) := by
  refine Transition.run_invariant (fun after : I2cBus => ∃ count,
    after.drReads = bus.drReads + count ∧
      after.stored.map Prod.snd =
        bus.stored.map Prod.snd ++ (List.range count).map (bus.nextByte i2c1)) ?_
    ⟨0, rfl, (List.append_nil _).symm⟩ transfers
  rintro before transfer ⟨earlier, reads, bytes⟩
  obtain ⟨later, -, stored, -⟩ := call_stored i2c1 transfer before
  obtain ⟨laterReads, laterBytes⟩ := Prod.mk.inj stored
  have following (index : Nat) :
      before.nextByte i2c1 index = bus.nextByte i2c1 (earlier + index) := by
    rw [nextByte, nextByte, reads, Nat.add_assoc]
  refine ⟨earlier + later, ?_, ?_⟩
  · rw [laterReads, reads, Nat.add_assoc]
  · rw [laterBytes, List.map_append, bytes, List.append_assoc, List.range_add,
      List.map_append, List.map_map, nextBytes, List.map_map]
    congr 2
    exact List.map_congr_left fun index _ => following index

/-- A read returns `Ok` only after it has stored exactly the next `size` received bytes
at the indices from zero on, in order.  In every case it stores a beginning of them, at
indices below `size`, and each read of DR is stored. -/
theorem read_storesReceived
    (i2c1 : I2c1)
    (address : UInt8)
    (hasData : Bool)
    (size : Nat)
    (bus : I2cBus) :
    let result := bus.call i2c1 (.read address hasData size)
    ∃ stores, result.2.stored = bus.stored ++ stores ∧
      result.2.drReads = bus.drReads + stores.length ∧
      stores <+: bus.nextBytes i2c1 size ∧
      (∀ store ∈ stores, store.1 < size) ∧
      (result.1 = .ok → stores = bus.nextBytes i2c1 size) := by
  intro result
  obtain ⟨count, few, stored, complete⟩ :=
    call_stored i2c1 (.read address hasData size) bus
  obtain ⟨reads, bytes⟩ := Prod.mk.inj stored
  refine ⟨bus.nextBytes i2c1 count, bytes, ?_, nextBytes_prefix i2c1 bus few, ?_, ?_⟩
  · rw [length_nextBytes]
    exact reads
  · exact fun store listed => Nat.lt_of_lt_of_le (lt_of_mem_nextBytes i2c1 listed) few
  · exact fun succeeded => congrArg (bus.nextBytes i2c1) (complete succeeded)

/-- A device that is ready at every wait sends four bytes. -/
example :
    let i2c1 : I2c1 :=
      { sr1 := fun _ => sr1Sb ||| sr1Addr ||| sr1Btf ||| sr1RxNe
        sr2 := fun _ => 0
        dr := fun reads => 0x10 + UInt32.ofNat reads
        served := fun _ => cr1Start }
    let result := { construct with initialized := true }.call i2c1 (.read 0x44 true 4)
    result.1 = .ok ∧ result.2.stored = [(0, 0x10), (1, 0x11), (2, 0x12), (3, 0x13)] := by
  decide +kernel

end I2cBus

end SensorFirmware
