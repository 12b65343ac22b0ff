import SensorFirmware.Drivers.I2cBus
import SensorFirmware.Library.Transition

/-!
# The release of the I2C bus

Whatever the status registers show, a transfer from a bus with ACK set and POS clear
ends, it requests STOP behind every START, and it leaves CR1 with ACK set and POS
clear.  What is known between two statements is how many status reads there were at
most, whether STOP has followed START, and whether ACK is set and POS clear.
-/

namespace SensorFirmware

open EarlyReturn (runFrom returnUnless forLoop Triple triple_bind triple_seq triple_pure
  triple_get triple_ite triple_modify triple_modifyGet triple_returnUnless triple_forLoop)
open Mask (IsSet)

namespace I2cBus

/-- CR1 has ACK set and POS clear. -/
def Ready (bus : I2cBus) : Prop :=
  IsSet cr1Ack bus.cr1 ∧ ¬ IsSet cr1Pos bus.cr1

instance (bus : I2cBus) : Decidable bus.Ready := inferInstanceAs (Decidable (_ ∧ _))

/-- The reads of the status registers so far. -/
def statusReads (bus : I2cBus) : Nat := bus.sr1Reads + bus.sr2Reads

/-- Behind every START there is a STOP. -/
abbrev Released : List Request → Prop := Answered (· = .start) (· = .stop)

/-- What is known of a bus inside a transfer that began in the state `start`: the
number of status reads at most, whether the bus is released, whether ACK is set, and
whether POS is clear. -/
structure Progress
    (start : I2cBus)
    (reads : Nat)
    (released ackSet posClear : Prop)
    (bus : I2cBus) : Prop where
  statusReads : bus.statusReads ≤ start.statusReads + reads
  requests : ∃ requests, bus.requests = start.requests ++ requests ∧
    (released → Released requests)
  ack : ackSet → IsSet cr1Ack bus.cr1
  pos : posClear → ¬ IsSet cr1Pos bus.cr1

/-- What is known of a bus when a transfer returns. -/
abbrev Returned (start : I2cBus) (reads : Nat) : I2cBus → Prop :=
  Progress start reads True True True

section

variable {i2c1 : I2c1} {start bus : I2cBus} {reads total : Nat}
variable {released ackSet posClear : Prop}

/-! ## What the operations do to it -/

/-- The peripheral changes only START and STOP by itself. -/
theorem isSet_shownCr1
    {mask : UInt32}
    (other : (cr1Start ||| cr1Stop) &&& mask = 0) :
    IsSet mask (bus.shownCr1 i2c1) ↔ IsSet mask bus.cr1 := by
  apply Mask.isSet_clear_other
  rw [UInt32.and_assoc, other, UInt32.and_zero]

theorem isSet_ack_shownCr1 : IsSet cr1Ack (bus.shownCr1 i2c1) ↔ IsSet cr1Ack bus.cr1 :=
  isSet_shownCr1 (by decide)

theorem isSet_pos_shownCr1 : IsSet cr1Pos (bus.shownCr1 i2c1) ↔ IsSet cr1Pos bus.cr1 :=
  isSet_shownCr1 (by decide)

namespace Progress

/-- Less may be known. -/
theorem weaken
    (progress : Progress start reads released ackSet posClear bus)
    {moreReads : Nat}
    {lessReleased lessAck lessPos : Prop}
    (few : reads ≤ moreReads)
    (releases : lessReleased → released)
    (sets : lessAck → ackSet)
    (clears : lessPos → posClear) :
    Progress start moreReads lessReleased lessAck lessPos bus where
  statusReads := by
    have bound := progress.statusReads
    omega
  requests := by
    obtain ⟨requests, extended, answered⟩ := progress.requests
    exact ⟨requests, extended, fun holds => answered (releases holds)⟩
  ack := fun holds => progress.ack (sets holds)
  pos := fun holds => progress.pos (clears holds)

theorem afterReads
    (progress : Progress start reads released ackSet posClear bus)
    {more : Nat}
    (few : more ≤ total) :
    Progress start (reads + total) released ackSet posClear (bus.afterReads more) where
  statusReads := by
    have bound := progress.statusReads
    simp only [I2cBus.statusReads, I2cBus.afterReads] at bound ⊢
    omega
  requests := progress.requests
  ack := progress.ack
  pos := progress.pos

/-- Setting other bits keeps ACK. -/
theorem ack_of_set
    (progress : Progress start reads released ackSet posClear bus)
    {mask : UInt32}
    (apart : mask &&& cr1Ack = 0)
    (holds : ackSet) :
    IsSet cr1Ack (bus.shownCr1 i2c1 ||| mask) :=
  (Mask.isSet_or_other apart).mpr (isSet_ack_shownCr1.mpr (progress.ack holds))

/-- Clearing other bits keeps ACK. -/
theorem ack_of_clear
    (progress : Progress start reads released ackSet posClear bus)
    {mask : UInt32}
    (apart : mask &&& cr1Ack = 0)
    (holds : ackSet) :
    IsSet cr1Ack (bus.shownCr1 i2c1 &&& ~~~mask) :=
  (Mask.isSet_clear_other apart).mpr (isSet_ack_shownCr1.mpr (progress.ack holds))

/-- Setting other bits keeps POS clear. -/
theorem pos_of_set
    (progress : Progress start reads released ackSet posClear bus)
    {mask : UInt32}
    (apart : mask &&& cr1Pos = 0)
    (holds : posClear) :
    ¬ IsSet cr1Pos (bus.shownCr1 i2c1 ||| mask) := by
  rw [Mask.isSet_or_other apart, isSet_pos_shownCr1]
  exact progress.pos holds

/-- Clearing other bits keeps POS clear. -/
theorem pos_of_clear
    (progress : Progress start reads released ackSet posClear bus)
    {mask : UInt32}
    (apart : mask &&& cr1Pos = 0)
    (holds : posClear) :
    ¬ IsSet cr1Pos (bus.shownCr1 i2c1 &&& ~~~mask) := by
  rw [Mask.isSet_clear_other apart, isSet_pos_shownCr1]
  exact progress.pos holds

/-- A request of START or STOP leaves ACK and POS alone. -/
theorem requested
    (progress : Progress start reads released ackSet posClear bus)
    {bit : UInt32}
    (apart : bit &&& cr1Ack = 0 ∧ bit &&& cr1Pos = 0)
    (event : Request)
    {nextReleased : Prop}
    (releases : ∀ requests, nextReleased → Released (requests ++ [event])) :
    Progress start reads nextReleased ackSet posClear (bus.request i2c1 bit event) where
  statusReads := progress.statusReads
  requests := by
    obtain ⟨requests, extended, -⟩ := progress.requests
    refine ⟨requests ++ [event], ?_, releases requests⟩
    rw [← List.append_assoc, ← extended]
    rfl
  ack := progress.ack_of_set apart.1
  pos := progress.pos_of_set apart.2

/-- STOP releases the bus. -/
theorem stopped
    (progress : Progress start reads released ackSet posClear bus) :
    Progress start reads True ackSet posClear (bus.request i2c1 cr1Stop .stop) :=
  progress.requested (by decide) .stop fun requests _ =>
    Answered.append_answer requests rfl (by decide)

/-- A change of CR1 that sets or clears one bit. -/
theorem updated
    (progress : Progress start reads released ackSet posClear bus)
    {update : UInt32 → UInt32}
    {nextAck nextPos : Prop}
    (ack : nextAck → IsSet cr1Ack (update (bus.shownCr1 i2c1)))
    (pos : nextPos → ¬ IsSet cr1Pos (update (bus.shownCr1 i2c1))) :
    Progress start reads released nextAck nextPos (bus.updateCr1 i2c1 update) where
  statusReads := progress.statusReads
  requests := progress.requests
  ack := ack
  pos := pos

end Progress

/-! ## The statements -/

variable {left : I2cStatus → I2cBus → Prop}

theorem triple_readSr1 :
    Triple (Progress start reads released ackSet posClear) (readSr1 i2c1)
      (fun _ => Progress start (reads + 1) released ackSet posClear) left :=
  triple_modifyGet fun _ progress => progress.afterReads (Nat.le_refl 1)

theorem triple_readSr2 :
    Triple (Progress start reads released ackSet posClear) (readSr2 i2c1)
      (fun _ => Progress start (reads + 1) released ackSet posClear) left :=
  triple_modifyGet fun _ progress =>
    { progress with
      statusReads := Nat.add_le_add_right progress.statusReads 1 }

theorem triple_setAck :
    Triple (Progress start reads released ackSet posClear) (setCr1 i2c1 cr1Ack)
      (fun _ => Progress start reads released True posClear) left :=
  triple_modify fun _ progress => progress.updated
    (fun _ => Mask.isSet_or_self (by decide)) (progress.pos_of_set (by decide))

theorem triple_clearAck :
    Triple (Progress start reads released ackSet posClear) (clearCr1 i2c1 cr1Ack)
      (fun _ => Progress start reads released False posClear) left :=
  triple_modify fun _ progress => progress.updated
    False.elim (progress.pos_of_clear (by decide))

theorem triple_setPos :
    Triple (Progress start reads released ackSet posClear) (setCr1 i2c1 cr1Pos)
      (fun _ => Progress start reads released ackSet False) left :=
  triple_modify fun _ progress => progress.updated
    (progress.ack_of_set (by decide)) False.elim

theorem triple_clearPos :
    Triple (Progress start reads released ackSet posClear) (clearCr1 i2c1 cr1Pos)
      (fun _ => Progress start reads released ackSet True) left :=
  triple_modify fun _ progress => progress.updated
    (progress.ack_of_clear (by decide)) fun _ => Mask.not_isSet_clear_self

theorem triple_setPe :
    Triple (Progress start reads released ackSet posClear) (setCr1 i2c1 cr1Pe)
      (fun _ => Progress start reads released ackSet posClear) left :=
  triple_modify fun _ progress => progress.updated
    (progress.ack_of_set (by decide)) (progress.pos_of_set (by decide))

theorem triple_clearPe :
    Triple (Progress start reads released ackSet posClear) (clearCr1 i2c1 cr1Pe)
      (fun _ => Progress start reads released ackSet posClear) left :=
  triple_modify fun _ progress => progress.updated
    (progress.ack_of_clear (by decide)) (progress.pos_of_clear (by decide))

theorem triple_generateStart :
    Triple (Progress start reads released ackSet posClear) (generateStart i2c1)
      (fun _ => Progress start reads False ackSet posClear) left :=
  triple_modify fun _ progress => progress.requested (by decide) .start fun _ => False.elim

theorem triple_generateStop :
    Triple (Progress start reads released ackSet posClear) (generateStop i2c1)
      (fun _ => Progress start reads True ackSet posClear) left :=
  triple_modify fun _ progress => progress.stopped

theorem triple_writeDr (byte : UInt8) :
    Triple (Progress start reads released ackSet posClear) (writeDr byte)
      (fun _ => Progress start reads released ackSet posClear) left :=
  triple_modify fun _ progress => { progress with }

theorem triple_receive (index : Nat) :
    Triple (Progress start reads released ackSet posClear) (receive i2c1 index)
      (fun _ => Progress start reads released ackSet posClear) left :=
  triple_modify fun _ progress => { progress with }

/-- A wait that succeeds changes nothing but the number of reads. -/
theorem Progress.afterPoll
    (progress : Progress start reads released ackSet posClear bus)
    {polled : Polled}
    {more : Nat}
    (few : more ≤ waitReads) :
    Progress start (reads + waitReads) (polled = .ready → released) ackSet posClear
      (bus.afterPoll i2c1 polled more) := by
  have counted := progress.afterReads few
  rw [I2cBus.afterPoll]
  split
  case isTrue ready => exact counted.weaken (Nat.le_refl _) (fun holds => holds ready) id id
  case isFalse => exact counted.stopped.weaken (Nat.le_refl _) (fun _ => trivial) id id

theorem triple_poll_progress {mask : UInt32} {checksAf : Bool} :
    Triple (Progress start reads released ackSet posClear)
      (poll i2c1 mask checksAf i2cTimeoutValue)
      (fun polled =>
        Progress start (reads + waitReads) (polled = .ready → released) ackSet posClear)
      left :=
  triple_poll i2c1 fun _ _ _ progress few => progress.afterPoll few

/-- A wait that fails has released the bus, and the function cleans up and returns. -/
theorem triple_orTimeout
    {mask : UInt32}
    {checksAf : Bool}
    {cleanUp : Driver Unit}
    (recovers : Triple (Progress start (reads + waitReads) True ackSet posClear) cleanUp
      (fun _ => Returned start total) fun _ => Returned start total) :
    Triple (Progress start reads released ackSet posClear)
      (orTimeout (pollDone i2c1 mask checksAf) cleanUp)
      (fun _ => Progress start (reads + waitReads) released ackSet posClear)
      fun _ => Returned start total := by
  have waited : Triple (Progress start reads released ackSet posClear)
      (pollDone i2c1 mask checksAf)
      (fun done =>
        Progress start (reads + waitReads) (done = true → released) ackSet posClear)
      fun _ => Returned start total :=
    triple_bind triple_poll_progress fun polled => triple_pure fun _ progress =>
      progress.weaken (Nat.le_refl _) (fun holds ready => holds (decide_eq_true ready)) id id
  refine triple_bind waited fun done => triple_returnUnless ?_ ?_
  · rintro rfl _ progress
    exact progress.weaken (Nat.le_refl _) (fun holds _ => holds) id id
  · rintro rfl
    refine recovers.weaken ?_ (fun _ _ returned => returned) (fun _ _ returned => returned)
    exact fun _ progress =>
      progress.weaken (Nat.le_refl _) (fun _ failed => nomatch failed) id id

/-- The same without a clean-up. -/
theorem triple_orTimeout_ready
    {mask : UInt32}
    {checksAf : Bool}
    (few : reads + waitReads ≤ total) :
    Triple (Progress start reads released True True)
      (orTimeout (pollDone i2c1 mask checksAf) (pure ()))
      (fun _ => Progress start (reads + waitReads) released True True)
      fun _ => Returned start total :=
  triple_orTimeout (triple_pure fun _ progress => progress.weaken few id id id)

theorem triple_waitAddr (few : reads + waitReads ≤ total) :
    Triple (Progress start reads released True True) (waitAddr i2c1)
      (fun _ => Progress start (reads + waitReads) released True True)
      fun _ => Returned start total := by
  refine triple_bind triple_poll_progress fun polled => ?_
  cases polled with
  | ready =>
      exact triple_pure fun _ progress =>
        progress.weaken (Nat.le_refl _) (fun holds _ => holds) id id
  | nacked =>
      exact EarlyReturn.triple_throw fun _ progress =>
        progress.weaken few (fun _ ready => nomatch ready) id id
  | expired =>
      exact EarlyReturn.triple_throw fun _ progress =>
        progress.weaken few (fun _ ready => nomatch ready) id id

/-! ## The way to a free bus -/

theorem triple_whenSet
    {mask status : UInt32}
    {body : Driver Unit}
    (few : reads ≤ total)
    (set : Triple (Progress start reads released ackSet posClear) body
      (fun _ => Progress start total released ackSet posClear) left) :
    Triple (Progress start reads released ackSet posClear) (whenSet mask status body)
      (fun _ => Progress start total released ackSet posClear) left :=
  triple_ite (fun _ => set)
    fun _ => triple_pure fun _ progress => progress.weaken few id id id

theorem triple_clearErrorFlag (mask : UInt32) :
    Triple (Progress start reads released ackSet posClear) (clearErrorFlag i2c1 mask)
      (fun _ => Progress start (reads + 2) released ackSet posClear) left :=
  triple_bind triple_readSr1 fun _ => triple_whenSet (Nat.le_succ _)
    (triple_bind triple_readSr1 fun _ => triple_pure fun _ progress => progress)

theorem triple_clearErrorFlags :
    Triple (Progress start reads released ackSet posClear) (clearErrorFlags i2c1)
      (fun _ => Progress start (reads + 8) released ackSet posClear) left :=
  triple_seq (triple_clearErrorFlag _) (triple_seq (triple_clearErrorFlag _)
    (triple_seq (triple_clearErrorFlag _) (triple_clearErrorFlag _)))

/-- The reset of the peripheral sets ACK and clears POS. -/
theorem triple_configurePeripheral24MHz :
    Triple (Progress start reads released ackSet posClear) (configurePeripheral24MHz i2c1)
      (fun _ => Progress start reads released True True) left := by
  have zeroed : Triple (Progress start reads released ackSet posClear)
      (modify (updateCr1 i2c1 fun _ => 0))
      (fun _ => Progress start reads released False True) left :=
    triple_modify fun _ progress => progress.updated False.elim fun _ => by decide
  exact triple_seq triple_clearPe (triple_seq zeroed (triple_seq triple_setAck triple_setPe))

theorem triple_recoverBus :
    Triple (Progress start reads released ackSet posClear) (recoverBus i2c1)
      (fun _ => Progress start (reads + 8) released True True) left :=
  triple_seq triple_clearPe (triple_seq triple_configurePeripheral24MHz
    (triple_seq triple_clearErrorFlags (triple_modify fun _ progress => { progress with })))

theorem triple_checkArguments
    (hasData : Bool)
    (size : Nat)
    (few : reads ≤ total) :
    Triple (Returned start reads) (checkArguments hasData size)
      (fun _ => Returned start reads) fun _ => Returned start total := by
  have asked : Triple (Returned start reads) (get : Driver I2cBus)
      (fun _ => Returned start reads) fun _ => Returned start total :=
    triple_get fun _ progress => progress
  exact triple_bind asked fun _ => triple_returnUnless (fun _ _ progress => progress)
    fun _ => triple_pure fun _ progress => progress.weaken few id id id

/-- The bus is free with nothing requested, or the transfer returns. -/
theorem triple_acquire (few : reads + 18 ≤ total) :
    Triple (Returned start reads) (acquire i2c1)
      (fun _ => Returned start (reads + 18)) fun _ => Returned start total := by
  refine triple_seq triple_clearErrorFlags (triple_bind triple_readSr2 fun _ =>
    triple_whenSet (by omega) ?_)
  refine triple_seq triple_recoverBus (triple_bind triple_readSr2 fun _ =>
    triple_returnUnless ?_ ?_)
  · exact fun _ _ progress => progress
  · exact fun _ => triple_pure fun _ progress => progress.weaken few id id id

/-! ## The transfers -/

/-- The status reads of a transfer, at most. -/
def transferReads (size : Nat) : Nat := 20 + waitReads * (size + 4)

theorem transferReads_eq (size : Nat) :
    transferReads size = 20 + (waitReads * size + waitReads * 4) := by
  rw [transferReads, Nat.mul_add]

/-- A loop that waits once in every iteration. -/
theorem triple_forLoop_waits
    {body : Nat → Driver Unit}
    {count : Nat}
    (few : reads + waitReads * count ≤ total)
    (iteration : ∀ index reads, reads + waitReads ≤ total →
      Triple (Progress start reads released True True) (body index)
        (fun _ => Progress start (reads + waitReads) released True True)
        fun _ => Returned start total) :
    Triple (Progress start reads released True True) (forLoop body count)
      (fun _ => Progress start (reads + waitReads * count) released True True)
      fun _ => Returned start total := by
  have kept (index : Nat) (inside : index < count) :
      Triple (Progress start (reads + waitReads * index) released True True) (body index)
        (fun _ => Progress start (reads + waitReads * (index + 1)) released True True)
        fun _ => Returned start total := by
    have fits : reads + waitReads * index + waitReads ≤ total := by
      have scaled : waitReads * (index + 1) ≤ waitReads * count :=
        Nat.mul_le_mul_left waitReads inside
      rw [Nat.mul_succ] at scaled
      omega
    refine (iteration index _ fits).weaken (fun _ progress => progress) ?_
      fun _ _ returned => returned
    exact fun _ _ progress => progress.weaken (by rw [Nat.mul_succ]; omega) id id id
  exact triple_forLoop (fun index =>
    Progress start (reads + waitReads * index) released True True) kept

theorem triple_write
    (address : UInt8)
    (data : Option (Nat → UInt8))
    {size : Nat}
    (few : reads + transferReads size ≤ total) :
    Triple (Returned start reads) (write i2c1 address data size)
      (fun _ => Returned start (reads + transferReads size))
      fun _ => Returned start total := by
  have budget : reads + 18 + waitReads + waitReads + 1 + 1 + waitReads * size + waitReads ≤
      reads + transferReads size := by
    rw [transferReads_eq]
    omega
  refine triple_seq (triple_checkArguments _ _ (by omega)) ?_
  refine triple_seq (triple_acquire (by omega)) ?_
  refine triple_seq triple_generateStart ?_
  refine triple_seq (triple_orTimeout_ready (by omega)) ?_
  refine triple_seq (triple_writeDr _) ?_
  refine triple_seq (triple_waitAddr (by omega)) ?_
  refine triple_bind triple_readSr1 fun _ => triple_bind triple_readSr2 fun _ => ?_
  refine triple_seq (triple_forLoop_waits (by omega) fun index reads enough =>
    triple_seq (triple_orTimeout_ready enough) (triple_writeDr _)) ?_
  refine triple_seq (triple_orTimeout_ready (by omega)) ?_
  exact triple_generateStop.weaken (fun _ progress => progress)
    (fun _ _ progress => progress.weaken budget id id id) fun _ _ returned => returned

/-- ACK is set again before a failed reception returns. -/
theorem triple_setAck_returns (few : reads ≤ total) :
    Triple (Progress start reads True ackSet True) (setCr1 i2c1 cr1Ack)
      (fun _ => Returned start total) fun _ => Returned start total :=
  triple_setAck.weaken (fun _ progress => progress)
    (fun _ _ progress => progress.weaken few id id id) fun _ _ returned => returned

theorem triple_receiveOne (few : reads + 2 + waitReads ≤ total) :
    Triple (Progress start reads False True True) (receiveOne i2c1)
      (fun _ => Progress start total True False False) fun _ => Returned start total := by
  refine triple_seq triple_clearAck ?_
  refine triple_bind triple_readSr1 fun _ => triple_bind triple_readSr2 fun _ => ?_
  refine triple_seq triple_generateStop ?_
  refine triple_seq (triple_orTimeout (triple_setAck_returns few)) ?_
  exact (triple_receive 0).weaken (fun _ progress => progress)
    (fun _ _ progress => progress.weaken few id id False.elim) fun _ _ returned => returned

theorem triple_receiveTwo (few : reads + 2 + waitReads ≤ total) :
    Triple (Progress start reads False True True) (receiveTwo i2c1)
      (fun _ => Progress start total True False False) fun _ => Returned start total := by
  refine triple_seq triple_setPos (triple_seq triple_clearAck ?_)
  refine triple_bind triple_readSr1 fun _ => triple_bind triple_readSr2 fun _ => ?_
  refine triple_seq (triple_orTimeout (triple_seq triple_clearPos
    (triple_setAck_returns few))) ?_
  refine triple_seq triple_generateStop ?_
  refine triple_seq (triple_receive 0) (triple_seq (triple_receive 1) ?_)
  exact triple_clearPos.weaken (fun _ progress => progress)
    (fun _ _ progress => progress.weaken few id id False.elim) fun _ _ returned => returned

theorem triple_receiveMany
    {size : Nat}
    (few : reads + 2 + waitReads * (size - 3) + waitReads + waitReads ≤ total) :
    Triple (Progress start reads False True True) (receiveMany i2c1 size)
      (fun _ => Progress start total True False False) fun _ => Returned start total := by
  refine triple_bind triple_readSr1 fun _ => triple_bind triple_readSr2 fun _ => ?_
  refine triple_seq (triple_forLoop_waits (by omega) fun index reads enough =>
    triple_seq (triple_orTimeout (triple_setAck_returns enough)) (triple_receive index)) ?_
  refine triple_seq (triple_orTimeout (triple_setAck_returns (by omega))) ?_
  refine triple_seq triple_clearAck (triple_seq (triple_receive _) ?_)
  refine triple_seq triple_generateStop (triple_seq (triple_receive _) ?_)
  refine triple_seq (triple_orTimeout (triple_setAck_returns few)) ?_
  exact (triple_receive _).weaken (fun _ progress => progress)
    (fun _ _ progress => progress.weaken few id id False.elim) fun _ _ returned => returned

/-- Every reception releases the bus. -/
theorem triple_receiveAll
    {size : Nat}
    (few : reads + 2 + waitReads * (size + 2) ≤ total) :
    Triple (Progress start reads False True True) (receiveAll i2c1 size)
      (fun _ => Progress start total True False False) fun _ => Returned start total := by
  have scaled (count : Nat) (fits : count ≤ size + 2) :
      reads + 2 + waitReads * count ≤ total :=
    Nat.le_trans (Nat.add_le_add_left (Nat.mul_le_mul_left waitReads fits) _) few
  have one := scaled 1 (by omega)
  have many := scaled (size - 3 + 2) (by omega)
  rw [Nat.mul_one] at one
  rw [Nat.mul_add, Nat.mul_two, ← Nat.add_assoc, ← Nat.add_assoc] at many
  exact triple_ite (fun _ => triple_receiveOne one) fun _ =>
    triple_ite (fun _ => triple_receiveTwo one) fun _ => triple_receiveMany many

theorem triple_read
    (address : UInt8)
    (hasData : Bool)
    {size : Nat}
    (few : reads + transferReads size ≤ total) :
    Triple (Returned start reads) (read i2c1 address hasData size)
      (fun _ => Returned start total) fun _ => Returned start total := by
  have budget : reads + 18 + waitReads + waitReads + 2 + waitReads * (size + 2) ≤ total := by
    rw [transferReads_eq] at few
    rw [Nat.mul_add]
    omega
  refine triple_seq (triple_checkArguments _ _ (by omega)) ?_
  refine triple_seq (triple_acquire (by omega)) ?_
  refine triple_seq triple_clearPos (triple_seq triple_setAck ?_)
  refine triple_seq triple_generateStart ?_
  refine triple_seq (triple_orTimeout_ready (by omega)) ?_
  refine triple_seq (triple_writeDr _) ?_
  refine triple_seq (triple_waitAddr (by omega)) ?_
  refine triple_seq (triple_receiveAll budget) ?_
  exact triple_seq triple_setAck triple_clearPos

/-- The status reads of a call, at most. -/
def Transfer.maxReads : Transfer → Nat
  | .write _ _ size => transferReads size
  | .read _ _ size => transferReads size
  | .writeRead _ _ txSize _ rxSize => transferReads txSize + transferReads rxSize

theorem triple_transfer (i2c1 : I2c1) (transfer : Transfer) :
    Triple (Returned start 0) (transfer.program i2c1)
      (fun _ => Returned start transfer.maxReads)
      fun _ => Returned start transfer.maxReads := by
  cases transfer with
  | write address data size =>
      exact (triple_write address data (Nat.le_of_eq (Nat.zero_add _))).weaken
        (fun _ progress => progress)
        (fun _ _ returned => returned.weaken (Nat.le_of_eq (Nat.zero_add _)) id id id)
        fun _ _ returned => returned
  | read address hasData size =>
      exact triple_read address hasData (Nat.le_of_eq (Nat.zero_add _))
  | writeRead address txData txSize hasRxData rxSize =>
      refine triple_seq (triple_write address txData ?_) (triple_read address hasRxData ?_)
      · rw [Nat.zero_add]
        exact Nat.le_add_right _ _
      · rw [Nat.zero_add]
        exact Nat.le_refl _

end

/-! ## Calls -/

theorem returned_refl {bus : I2cBus} (ready : bus.Ready) : Returned bus 0 bus where
  statusReads := Nat.le_refl _
  requests := ⟨[], (List.append_nil _).symm, fun _ => trivial⟩
  ack := fun _ => ready.1
  pos := fun _ => ready.2

/-- Two stretches that release the bus, one behind the other. -/
theorem Returned.trans
    {start middle after : I2cBus}
    {reads more : Nat}
    (first : Returned start reads middle)
    (second : Returned middle more after) :
    Returned start (reads + more) after where
  statusReads := by
    have counted := first.statusReads
    have countedAfter := second.statusReads
    omega
  requests := by
    obtain ⟨earlier, extended, released⟩ := first.requests
    obtain ⟨later, extendedAfter, releasedAfter⟩ := second.requests
    refine ⟨earlier ++ later, ?_, fun _ => (released trivial).append (releasedAfter trivial)⟩
    rw [extendedAfter, extended, List.append_assoc]
  ack := second.ack
  pos := second.pos

theorem Returned.ready
    {start after : I2cBus}
    {reads : Nat}
    (returned : Returned start reads after) :
    after.Ready :=
  ⟨returned.ack trivial, returned.pos trivial⟩

theorem call_returned
    (i2c1 : I2c1)
    (transfer : Transfer)
    {bus : I2cBus}
    (ready : bus.Ready) :
    Returned bus transfer.maxReads (bus.call i2c1 transfer).2 :=
  call_of_triple (fun _ => Returned bus transfer.maxReads) (triple_transfer i2c1 transfer)
    (returned_refl ready)

/-- A bus with ACK set and POS clear is ready again after any sequence of calls, and
each START of the sequence has a STOP behind it. -/
theorem run_releasesBus
    (i2c1 : I2c1)
    {bus : I2cBus}
    (ready : bus.Ready)
    (transfers : List Transfer) :
    let after : I2cBus :=
      Transition.run (fun bus transfer => (bus.call i2c1 transfer).2) bus transfers
    after.Ready ∧
      ∃ requests, after.requests = bus.requests ++ requests ∧ Released requests := by
  refine Transition.run_invariant (fun after : I2cBus => after.Ready ∧
    ∃ requests, after.requests = bus.requests ++ requests ∧ Released requests) ?_
    ⟨ready, [], (List.append_nil _).symm, trivial⟩ transfers
  rintro before transfer ⟨beforeReady, earlier, extended, released⟩
  have returned := call_returned i2c1 transfer beforeReady
  obtain ⟨later, extends_, laterReleased⟩ := returned.requests
  refine ⟨⟨returned.ack trivial, returned.pos trivial⟩, earlier ++ later, ?_, ?_⟩
  · rw [extends_, extended, List.append_assoc]
  · exact released.append (laterReleased trivial)

/-- The bus is ready once it is set up. -/
theorem initializeBus_ready (i2c1 : I2c1) (bus : I2cBus) :
    (runFrom (initializeBus i2c1) bus).2.Ready := by
  have begins : Progress bus 0 True False False bus :=
    ⟨Nat.le_refl _, ⟨[], (List.append_nil _).symm, fun _ => trivial⟩, False.elim, False.elim⟩
  have triple : Triple (Progress bus 0 True False False) (initializeBus i2c1)
      (fun _ => Returned bus 9) fun _ => Returned bus 9 := by
    refine triple_seq triple_configurePeripheral24MHz (triple_bind triple_readSr2 fun _ => ?_)
    exact triple_seq (triple_whenSet (by omega) triple_recoverBus)
      (triple_modify fun _ progress => { progress with })
  have returned := triple bus begins
  match runFrom (initializeBus i2c1) bus, returned with
  | (.ok _, _), ends => exact ⟨ends.ack trivial, ends.pos trivial⟩
  | (.error _, _), ends => exact ⟨ends.ack trivial, ends.pos trivial⟩

/-- A transfer from a bus with ACK set and POS clear ends after a bounded number of
status reads, requests STOP behind every START, and leaves ACK set and POS clear,
whatever the registers show and whichever status it returns. -/
theorem call_releasesBus
    (i2c1 : I2c1)
    (transfer : Transfer)
    {bus : I2cBus}
    (ready : bus.Ready) :
    let after := (bus.call i2c1 transfer).2
    after.statusReads ≤ bus.statusReads + transfer.maxReads ∧
      (∃ requests, after.requests = bus.requests ++ requests ∧
        ∀ before later, requests = before ++ .start :: later → .stop ∈ later) ∧
      after.Ready := by
  have returned := call_returned i2c1 transfer ready
  obtain ⟨requests, extended, released⟩ := returned.requests
  refine ⟨returned.statusReads, ⟨requests, extended, ?_⟩, returned.ack trivial,
    returned.pos trivial⟩
  rintro before later rfl
  obtain ⟨reply, listed, rfl⟩ := (released trivial).exists_answer rfl
  exact listed

/-- A device that does not acknowledge its address, on a bus after its set-up. -/
theorem call_releasesBus_nack :
    let i2c1 : I2c1 :=
      { sr1 := fun index => if index < 5 then sr1Sb else sr1Af
        sr2 := fun _ => 0
        dr := fun _ => 0
        served := fun _ => cr1Start }
    let result := (runFrom (initializeBus i2c1) construct).2.call i2c1 (.read 0x44 true 2)
    result.1 = .nack ∧ result.2.requests = [.start, .stop] ∧ result.2.Ready := by
  refine ⟨by decide +kernel, by decide +kernel, ?_⟩
  exact (call_releasesBus _ _ (initializeBus_ready _ _)).2.2

end I2cBus

end SensorFirmware
