import Mathlib.Logic.Equiv.Defs
import SensorFirmware.Library.Words

/-!
# Byte layouts

How the values of a type lie in memory: every value takes the same number of
bytes, and the bytes and the value determine each other.  The layouts of the
fields compose to those of packed records and of arrays.
-/

/-- A representation of the values of a type by a fixed number of bytes. -/
structure ByteLayout (α : Type u) where
  size : Nat
  toBytes : α → List UInt8
  /-- The value in the first `size` bytes. -/
  ofBytes : List UInt8 → α
  length_toBytes : ∀ value, (toBytes value).length = size
  ofBytes_append : ∀ value rest, ofBytes (toBytes value ++ rest) = value
  toBytes_ofBytes : ∀ bytes, size ≤ bytes.length →
    toBytes (ofBytes bytes) = bytes.take size

namespace ByteLayout

variable {α : Type u} {β : Type v}

attribute [simp] length_toBytes ofBytes_append

/-- The bytes of a value hold that value. -/
theorem ofBytes_toBytes
    (layout : ByteLayout α)
    (value : α) :
    layout.ofBytes (layout.toBytes value) = value := by
  have whole := layout.ofBytes_append value []
  rwa [List.append_nil] at whole

/-! ## Fields and records -/

/-- A single byte. -/
def byte : ByteLayout UInt8 where
  size := 1
  toBytes value := [value]
  ofBytes bytes := bytes.getD 0 0
  length_toBytes _ := rfl
  ofBytes_append _ _ := rfl
  toBytes_ofBytes bytes enough := by
    cases bytes with
    | nil => simp at enough
    | cons first bytes => rfl

/-- Two fields, one behind the other. -/
def pair (first : ByteLayout α) (second : ByteLayout β) : ByteLayout (α × β) where
  size := first.size + second.size
  toBytes value := first.toBytes value.1 ++ second.toBytes value.2
  ofBytes bytes := (first.ofBytes bytes, second.ofBytes (bytes.drop first.size))
  length_toBytes value := by simp
  ofBytes_append value rest := by
    have behind : (first.toBytes value.1 ++ (second.toBytes value.2 ++ rest)).drop
        first.size = second.toBytes value.2 ++ rest := by
      rw [← first.length_toBytes value.1, List.drop_left]
    rw [List.append_assoc, behind, ofBytes_append, ofBytes_append]
  toBytes_ofBytes bytes enough := by
    have front := first.toBytes_ofBytes bytes (by omega)
    have behind := second.toBytes_ofBytes (bytes.drop first.size) (by simp; omega)
    rw [front, behind, List.take_add]

/-- The same bytes, seen as values of another type. -/
def map (layout : ByteLayout α) (view : α ≃ β) : ByteLayout β where
  size := layout.size
  toBytes value := layout.toBytes (view.symm value)
  ofBytes bytes := view (layout.ofBytes bytes)
  length_toBytes value := layout.length_toBytes _
  ofBytes_append value rest := by simp
  toBytes_ofBytes bytes enough := by
    rw [Equiv.symm_apply_apply]
    exact layout.toBytes_ofBytes bytes enough

@[simp] theorem size_byte : byte.size = 1 := rfl

@[simp] theorem size_pair (first : ByteLayout α) (second : ByteLayout β) :
    (first.pair second).size = first.size + second.size := rfl

@[simp] theorem size_map (layout : ByteLayout α) (view : α ≃ β) :
    (layout.map view).size = layout.size := rfl

theorem toBytes_pair
    (first : ByteLayout α)
    (second : ByteLayout β)
    (value : α × β) :
    (first.pair second).toBytes value =
      first.toBytes value.1 ++ second.toBytes value.2 := rfl

theorem toBytes_map
    (layout : ByteLayout α)
    (view : α ≃ β)
    (value : β) :
    (layout.map view).toBytes value = layout.toBytes (view.symm value) := rfl

/-! ## Little-endian words -/

/-- A word and its two bytes, the low one first. -/
def wordOfBytes : UInt8 × UInt8 ≃ UInt16 where
  toFun bytes := BigEndian.word bytes.2 bytes.1
  invFun value := (BigEndian.lowByte value, BigEndian.highByte value)
  left_inv bytes := by simp
  right_inv value := by simp

/-- The double word with the given halves. -/
def doubleWord (high low : UInt16) : UInt32 :=
  (high.toUInt32 <<< 16) ||| low.toUInt32

/-- The high half of a double word. -/
def highHalf (value : UInt32) : UInt16 :=
  (value >>> 16).toUInt16

theorem doubleWord_toNat (high low : UInt16) :
    (doubleWord high low).toNat = high.toNat * 65536 + low.toNat := by
  have highBound := high.toNat_lt
  have lowBound := low.toNat_lt
  simp only [doubleWord, UInt32.toNat_or, UInt32.toNat_shiftLeft, UInt16.toNat_toUInt32]
  have shifted : high.toNat <<< ((16 : UInt32).toNat % 32) % 2 ^ 32 =
      high.toNat <<< 16 := by
    show high.toNat <<< 16 % 2 ^ 32 = high.toNat <<< 16
    rw [Nat.shiftLeft_eq]
    omega
  rw [shifted, ← Nat.shiftLeft_add_eq_or_of_lt (by omega), Nat.shiftLeft_eq]

theorem highHalf_toNat (value : UInt32) :
    (highHalf value).toNat = value.toNat / 65536 := by
  have bound := value.toNat_lt
  simp only [highHalf, UInt32.toNat_toUInt16, UInt32.toNat_shiftRight]
  have shifted : value.toNat >>> ((16 : UInt32).toNat % 32) = value.toNat / 65536 :=
    Nat.shiftRight_eq_div_pow _ 16
  rw [shifted]
  omega

/-- A double word and its two halves, the low one first. -/
def wordOfHalves : UInt16 × UInt16 ≃ UInt32 where
  toFun halves := doubleWord halves.2 halves.1
  invFun value := (value.toUInt16, highHalf value)
  left_inv halves := by
    have lowBound := halves.1.toNat_lt
    apply Prod.ext
    · apply UInt16.toNat.inj
      rw [UInt32.toNat_toUInt16, doubleWord_toNat]
      omega
    · apply UInt16.toNat.inj
      rw [highHalf_toNat, doubleWord_toNat]
      omega
  right_inv value := by
    apply UInt32.toNat.inj
    rw [doubleWord_toNat, highHalf_toNat, UInt32.toNat_toUInt16]
    omega

/-- A little-endian sixteen-bit word. -/
def word16 : ByteLayout UInt16 := (byte.pair byte).map wordOfBytes

/-- A little-endian thirty-two-bit word. -/
def word32 : ByteLayout UInt32 := (word16.pair word16).map wordOfHalves

@[simp] theorem size_word16 : word16.size = 2 := rfl

@[simp] theorem size_word32 : word32.size = 4 := rfl

/-! ## Arrays -/

/-- Read a number of consecutive values. -/
def readMany (layout : ByteLayout α) : Nat → List UInt8 → List α
  | 0, _ => []
  | count + 1, bytes =>
      layout.ofBytes bytes :: readMany layout count (bytes.drop layout.size)

@[simp] theorem length_readMany
    (layout : ByteLayout α)
    (count : Nat)
    (bytes : List UInt8) :
    (layout.readMany count bytes).length = count := by
  induction count generalizing bytes with
  | zero => rfl
  | succ count inductionHypothesis =>
      rw [readMany, List.length_cons, inductionHypothesis]

theorem length_flatMap_toBytes
    (layout : ByteLayout α)
    (values : List α) :
    (values.flatMap layout.toBytes).length = values.length * layout.size := by
  induction values with
  | nil => simp
  | cons value values inductionHypothesis =>
      rw [List.flatMap_cons, List.length_append, length_toBytes, inductionHypothesis,
        List.length_cons, Nat.succ_mul, Nat.add_comm]

/-- The bytes of consecutive values hold these values. -/
theorem readMany_flatMap
    (layout : ByteLayout α)
    (values : List α)
    (rest : List UInt8) :
    layout.readMany values.length (values.flatMap layout.toBytes ++ rest) = values := by
  induction values with
  | nil => rfl
  | cons value values inductionHypothesis =>
      have behind : (layout.toBytes value ++ (values.flatMap layout.toBytes ++ rest)).drop
          layout.size = values.flatMap layout.toBytes ++ rest := by
        rw [← layout.length_toBytes value, List.drop_left]
      rw [List.flatMap_cons, List.append_assoc, List.length_cons, readMany,
        ofBytes_append, behind, inductionHypothesis]

/-- Bytes that hold consecutive values are the bytes of these values. -/
theorem flatMap_readMany
    (layout : ByteLayout α)
    (count : Nat)
    (bytes : List UInt8)
    (enough : count * layout.size ≤ bytes.length) :
    (layout.readMany count bytes).flatMap layout.toBytes =
      bytes.take (count * layout.size) := by
  induction count generalizing bytes with
  | zero => simp [readMany]
  | succ count inductionHypothesis =>
      rw [Nat.succ_mul] at enough
      have behind := inductionHypothesis (bytes.drop layout.size) (by simp; omega)
      rw [readMany, List.flatMap_cons, behind, layout.toBytes_ofBytes bytes (by omega),
        ← List.take_add, Nat.succ_mul, Nat.add_comm]

/-- An array of values. -/
def array (layout : ByteLayout α) (count : Nat) : ByteLayout (Vector α count) where
  size := count * layout.size
  toBytes values := values.toList.flatMap layout.toBytes
  ofBytes bytes := ⟨(layout.readMany count bytes).toArray, by simp⟩
  length_toBytes values := by rw [length_flatMap_toBytes, Vector.length_toList]
  ofBytes_append values rest := by
    have read := layout.readMany_flatMap values.toList rest
    rw [Vector.length_toList] at read
    apply Vector.toArray_inj.mp
    exact congrArg List.toArray read
  toBytes_ofBytes bytes enough := layout.flatMap_readMany count bytes enough

@[simp] theorem size_array (layout : ByteLayout α) (count : Nat) :
    (layout.array count).size = count * layout.size := rfl

end ByteLayout
