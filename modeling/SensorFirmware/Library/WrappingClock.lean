import Mathlib.Data.Nat.Basic

/-!
# Clocks that wrap around

A 32-bit tick counter shows the true time modulo its range.  The signed difference
of two readings tells which time is the later one, as long as the two times are
less than half of the range apart.
-/

namespace WrappingClock

/-- What the counter shows at a time. -/
def reading (time : Nat) : UInt32 := UInt32.ofNat time

theorem reading_toNat (time : Nat) : (reading time).toNat = time % 4294967296 :=
  UInt32.toNat_ofNat

/-- The counter shows the sum for a delay added to a reading. -/
theorem reading_add (time delay : Nat) :
    reading time + UInt32.ofNat delay = reading (time + delay) :=
  (UInt32.ofNat_add time delay).symm

theorem sub_toNat (now deadline : Nat) :
    (reading now - reading deadline).toNat =
      (now + (4294967296 - deadline % 4294967296)) % 4294967296 := by
  rw [UInt32.toNat_sub, reading_toNat, reading_toNat]
  omega

/-- A deadline has passed exactly when the signed difference is not negative. -/
theorem passed_iff
    {now deadline : Nat}
    (notLong : now < deadline + 2147483648)
    (notFar : deadline ≤ now + 2147483648) :
    0 ≤ (reading now - reading deadline).toInt32 ↔ deadline ≤ now := by
  have signed : (reading now - reading deadline).toInt32.toInt =
      if 2 * (reading now - reading deadline).toNat < 2 ^ 32 then
        ((reading now - reading deadline).toNat : Int)
      else ((reading now - reading deadline).toNat : Int) - (2 ^ 32 : Nat) :=
    BitVec.toInt_eq_toNat_cond (reading now - reading deadline).toBitVec
  have zero : (0 : Int32).toInt = 0 := rfl
  have difference := sub_toNat now deadline
  rw [Int32.le_iff_toInt_le, signed, zero]
  split <;> omega

end WrappingClock
