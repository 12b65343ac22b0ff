import SensorFirmware.Modbus.Requests

/-!
# Corrupted frames

The checksum at the end of a frame sees every change of one byte or of two
adjacent bytes, wherever in the frame it is.
-/

namespace SensorFirmware

open BigEndian ModbusService

namespace FrameItem

/-- The bytes of a frame, its checksum included. -/
def content (frame : FrameItem) : List UInt8 :=
  (List.range frame.len.toNat).map frame.byte

/-- A frame of the same length that differs in one byte or in two adjacent
bytes. -/
structure DiffersInPair (frame other : FrameItem) : Prop where
  len : other.len = frame.len
  elsewhere : ∃ first, ∀ index, index < frame.len.toNat → index ≠ first →
    index ≠ first + 1 → other.byte index = frame.byte index
  differs : ∃ index, index < frame.len.toNat ∧ other.byte index ≠ frame.byte index

/-- A frame passes the check exactly when its checksum brings the register of
the whole frame to zero. -/
theorem crcMatches_iff_content
    (frame : FrameItem)
    (long : 4 ≤ frame.len)
    (fits : frame.len ≤ 256) :
    frame.CrcMatches ↔ crc16 frame.content = 0 := by
  have lower : 4 ≤ frame.len.toNat := UInt16.le_iff_toNat_le.mp long
  have upper : frame.len.toNat ≤ 256 := UInt16.le_iff_toNat_le.mp fits
  obtain ⟨body, length⟩ : ∃ body, frame.len.toNat = body + 2 :=
    ⟨frame.len.toNat - 2, by omega⟩
  have split : frame.content =
      FixedArray.front frame.data body ++ [frame.byte body, frame.byte (body + 1)] := by
    rw [content, length, List.range_succ, List.range_succ, List.map_append, List.map_append,
      List.append_assoc, ← FixedArray.map_read_range frame.data body (by omega)]
    rfl
  have last : frame.len.toNat - 1 = body + 1 := by omega
  have front : frame.len.toNat - 2 = body := by omega
  rw [CrcMatches, crcRx, last, front, split, crc16, crc16,
    ReflectedCrc.checksum_append_eq_zero_iff (by decide)]

/-- Two bytes in the content of a frame. -/
theorem content_at_pair
    (frame : FrameItem)
    (first : Nat)
    (inside : first + 1 < frame.len.toNat) :
    frame.content =
      (List.range first).map frame.byte ++
        frame.byte first :: frame.byte (first + 1) ::
          (List.range (frame.len.toNat - (first + 2))).map fun offset =>
            frame.byte (first + 2 + offset) := by
  obtain ⟨rest, length⟩ : ∃ rest, frame.len.toNat = first + 2 + rest :=
    ⟨frame.len.toNat - (first + 2), by omega⟩
  have offset : first + 2 + rest - (first + 2) = rest := by omega
  rw [content, length, offset, List.range_add, List.map_append, List.range_succ,
    List.range_succ, List.map_append, List.map_append, List.map_map]
  simp

/-- The differing bytes lie in one pair of adjacent bytes of the frame. -/
theorem DiffersInPair.exists_pair
    {frame other : FrameItem}
    (pair : DiffersInPair frame other)
    (long : 2 ≤ frame.len.toNat) :
    ∃ first, first + 1 < frame.len.toNat ∧
      (∀ index, index < frame.len.toNat → index ≠ first → index ≠ first + 1 →
        other.byte index = frame.byte index) ∧
      ¬ (other.byte first = frame.byte first ∧
        other.byte (first + 1) = frame.byte (first + 1)) := by
  obtain ⟨_, ⟨first, elsewhere⟩, changed, inside, differs⟩ := pair
  -- A change of the last byte alone belongs to the last pair.
  have moved (index : Nat) (below : index < frame.len.toNat)
      (notLow : index ≠ min first (frame.len.toNat - 2))
      (notHigh : index ≠ min first (frame.len.toNat - 2) + 1) :
      other.byte index = frame.byte index :=
    elsewhere index below (by omega) (by omega)
  refine ⟨min first (frame.len.toNat - 2), by omega, moved, ?_⟩
  rintro ⟨low, high⟩
  by_cases isLow : changed = min first (frame.len.toNat - 2)
  · rw [isLow] at differs
    exact differs low
  by_cases isHigh : changed = min first (frame.len.toNat - 2) + 1
  · rw [isHigh] at differs
    exact differs high
  · exact differs (moved changed inside isLow isHigh)

/-- The check sees such a difference. -/
theorem DiffersInPair.not_crcMatches
    {frame other : FrameItem}
    (pair : DiffersInPair frame other)
    (long : 4 ≤ frame.len)
    (fits : frame.len ≤ 256)
    (intact : frame.CrcMatches) :
    ¬ other.CrcMatches := by
  have lower : 4 ≤ frame.len.toNat := UInt16.le_iff_toNat_le.mp long
  obtain ⟨first, inside, elsewhere, differs⟩ := pair.exists_pair (by omega)
  have before : (List.range first).map other.byte =
      (List.range first).map frame.byte := by
    refine List.map_congr_left fun index below => ?_
    have bound := List.mem_range.mp below
    exact elsewhere index (by omega) (by omega) (by omega)
  have behind : ((List.range (frame.len.toNat - (first + 2))).map fun offset =>
        other.byte (first + 2 + offset)) =
      (List.range (frame.len.toNat - (first + 2))).map fun offset =>
        frame.byte (first + 2 + offset) := by
    refine List.map_congr_left fun offset below => ?_
    have bound := List.mem_range.mp below
    exact elsewhere _ (by omega) (by omega) (by omega)
  rw [crcMatches_iff_content frame long fits, content_at_pair frame first inside, crc16]
    at intact
  intro undetected
  rw [crcMatches_iff_content other (by rw [pair.len]; exact long)
      (by rw [pair.len]; exact fits),
    content_at_pair other first (by rw [pair.len]; exact inside), pair.len, before, behind,
    crc16, ← intact, ReflectedCrc.checksum_pair_iff (by decide)] at undetected
  exact differs undetected

end FrameItem

namespace Device

variable [DoubleArith D]

/-- A corrupted frame is dropped, answered with nothing and counted once. -/
theorem processFrame_drops_corrupted
    (dev : Device D)
    (frame other : FrameItem)
    (long : 4 ≤ frame.len)
    (fits : frame.len ≤ 256)
    (intact : frame.CrcMatches)
    (pair : frame.DiffersInPair other) :
    let processed := dev.processFrame (some other)
    ¬ other.CrcMatches ∧ processed.1 = 0 ∧
      processed.2.transmitted = dev.transmitted ∧
      processed.2.errors =
        { dev.errors with crcCount := incrementSaturated dev.errors.crcCount } := by
  have mismatch := pair.not_crcMatches long fits intact
  have notShort : ¬ other.len < 4 := by
    rw [pair.len]
    exact UInt16.not_lt.mpr long
  have dropped : dev.processFrame (some other) =
      (0, { dev with errors := dev.errors.reportCrcError }) := by
    simp only [processFrame, if_neg notShort, if_pos mismatch]
  intro processed
  have result : processed = (0, { dev with errors := dev.errors.reportCrcError }) := dropped
  rw [result]
  exact ⟨mismatch, rfl, rfl, rfl⟩

/-- A read request whose quantity arrives changed. -/
theorem processFrame_drops_corrupted_read :
    let dev : Device ℚ := firstBoot BuildInfo.unitTest
    let frame := twoWordRequest 1 fcReadHolding 0 1
    let other := { frame with data := FixedArray.write frame.data 5 2 }
    let processed := dev.processFrame (some other)
    ¬ other.CrcMatches ∧ processed.1 = 0 ∧
      processed.2.transmitted = dev.transmitted ∧
      processed.2.errors =
        { dev.errors with crcCount := incrementSaturated dev.errors.crcCount } := by
  intro dev frame other
  have len := twoWordRequest_len 1 fcReadHolding 0 1
  have changed (index : Nat) :
      other.byte index = if index = 5 then 2 else frame.byte index := by
    rw [FrameItem.byte, FixedArray.read_write]
    simp [FrameItem.byte]
  have pair : frame.DiffersInPair other :=
    { len := rfl
      elsewhere := ⟨5, fun index _ notLow _ => by rw [changed, if_neg notLow]⟩
      differs := by
        refine ⟨5, ?_, ?_⟩
        · rw [len]
          decide
        · rw [changed, if_pos rfl, twoWordRequest_byte _ _ _ _ 5 (by decide)]
          decide }
  refine processFrame_drops_corrupted dev frame other ?_ ?_
    (twoWordRequest_crcMatches 1 fcReadHolding 0 1) pair
  · apply UInt16.le_iff_toNat_le.mpr
    rw [len]
    decide
  · apply UInt16.le_iff_toNat_le.mpr
    rw [len]
    decide

end Device

end SensorFirmware
