import SensorFirmware.Drivers.I2cBus

/-!
# The control of the I2C peripheral

A transfer moves data only where it writes or reads DR.  Its waits, its changes of CR1
and the recovery of the bus control the peripheral, and they keep every view of the bus
that sees nothing but the data moved so far.
-/

namespace SensorFirmware

open EarlyReturn (Keeps keeps_pure keeps_throw keeps_get keeps_modify keeps_modifyGet
  keeps_bind keeps_ite keeps_returnUnless)

namespace I2cBus

/-- A view of the bus that sees nothing but the data moved so far. -/
def DataView (view : I2cBus → τ) : Prop :=
  ∀ bus initialized cr1 cr1Accesses sr1Reads sr2Reads requests,
    view
        { bus with
          initialized := initialized
          cr1 := cr1
          cr1Accesses := cr1Accesses
          sr1Reads := sr1Reads
          sr2Reads := sr2Reads
          requests := requests } =
      view bus

/-- Whatever a program does, a view stays the same, and when it returns early it reports
a failure. -/
abbrev Controls (view : I2cBus → τ) (program : Driver α) : Prop := Keeps view (· ≠ .ok) program

namespace DataView

section

variable {view : I2cBus → τ} (data : DataView view) (i2c1 : I2c1)

include data

theorem updateCr1 (update : UInt32 → UInt32) :
    Controls view (modify (I2cBus.updateCr1 i2c1 update)) :=
  keeps_modify fun bus => data bus _ _ _ _ _ _

theorem generateStart : Controls view (I2cBus.generateStart i2c1) :=
  keeps_modify fun bus => data bus _ _ _ _ _ _

theorem generateStop : Controls view (I2cBus.generateStop i2c1) :=
  keeps_modify fun bus => data bus _ _ _ _ _ _

theorem readSr1 : Controls view (I2cBus.readSr1 i2c1) :=
  keeps_modifyGet fun bus => data bus _ _ _ _ _ _

theorem readSr2 : Controls view (I2cBus.readSr2 i2c1) :=
  keeps_modifyGet fun bus => data bus _ _ _ _ _ _

theorem poll (mask : UInt32) (checksAf : Bool) :
    Controls view (I2cBus.poll i2c1 mask checksAf i2cTimeoutValue) := by
  refine fun known => triple_poll i2c1 fun bus polled reads holds _ => ?_
  have same : view (bus.afterPoll i2c1 polled reads) = view bus := by
    rw [afterPoll]
    split
    · exact data bus _ _ _ _ _ _
    · exact data bus _ _ _ _ _ _
  exact Eq.mpr (congrArg known same) holds

/-- The wait for a flag, and the return when it does not come up. -/
theorem pollOrTimeout
    (mask : UInt32)
    (checksAf : Bool)
    {cleanUp : Driver Unit}
    (cleans : Controls view cleanUp) :
    Controls view (orTimeout (pollDone i2c1 mask checksAf) cleanUp) := by
  have waits : Controls view (pollDone i2c1 mask checksAf) :=
    keeps_bind (data.poll i2c1 mask checksAf) fun _ => keeps_pure _
  exact keeps_bind waits fun done => keeps_returnUnless cleans (by decide) done

theorem waitAddr : Controls view (I2cBus.waitAddr i2c1) := by
  refine keeps_bind (data.poll i2c1 _ _) fun polled => ?_
  cases polled with
  | ready => exact keeps_pure _
  | nacked => exact keeps_throw (by decide)
  | expired => exact keeps_throw (by decide)

omit data in
theorem whenSet
    {body : Driver Unit}
    (controls : Controls view body)
    (mask status : UInt32) :
    Controls view (I2cBus.whenSet mask status body) :=
  keeps_ite controls (keeps_pure _)

theorem clearErrorFlag (mask : UInt32) : Controls view (I2cBus.clearErrorFlag i2c1 mask) :=
  keeps_bind (data.readSr1 i2c1) fun status =>
    whenSet (keeps_bind (data.readSr1 i2c1) fun _ => keeps_pure _) mask status

theorem clearErrorFlags : Controls view (I2cBus.clearErrorFlags i2c1) :=
  keeps_bind (data.clearErrorFlag i2c1 _) fun _ =>
    keeps_bind (data.clearErrorFlag i2c1 _) fun _ =>
      keeps_bind (data.clearErrorFlag i2c1 _) fun _ => data.clearErrorFlag i2c1 _

theorem recoverBus : Controls view (I2cBus.recoverBus i2c1) := by
  have configures : Controls view (configurePeripheral24MHz i2c1) :=
    keeps_bind (data.updateCr1 i2c1 _) fun _ => keeps_bind (data.updateCr1 i2c1 _) fun _ =>
      keeps_bind (data.updateCr1 i2c1 _) fun _ => data.updateCr1 i2c1 _
  exact keeps_bind (data.updateCr1 i2c1 _) fun _ => keeps_bind configures fun _ =>
    keeps_bind (data.clearErrorFlags i2c1) fun _ =>
      keeps_modify fun bus => data bus _ _ _ _ _ _

omit data in
theorem checkArguments (hasData : Bool) (size : Nat) :
    Controls view (I2cBus.checkArguments hasData size) :=
  keeps_bind keeps_get fun _ => keeps_returnUnless (keeps_pure _) (by decide) _

theorem acquire : Controls view (I2cBus.acquire i2c1) := by
  refine keeps_bind (data.clearErrorFlags i2c1) fun _ =>
    keeps_bind (data.readSr2 i2c1) fun status => whenSet ?_ _ status
  exact keeps_bind (data.recoverBus i2c1) fun _ =>
    keeps_bind (data.readSr2 i2c1) fun _ => keeps_returnUnless (keeps_pure _) (by decide) _

end

end DataView

end I2cBus

end SensorFirmware
