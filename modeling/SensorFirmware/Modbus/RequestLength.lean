import SensorFirmware.Modbus.Runs

/-!
# Requests and the bytes behind them

The buffer of a frame keeps the bytes of earlier, longer frames.  Two frames
that agree on their own bytes are processed alike, except for a read request
that is too short to hold its own quantity: the read handlers take it from the
leftovers.
-/

namespace SensorFirmware

open BigEndian ModbusService

/-- Two frames have the same length and the same bytes up to it. -/
structure SameRequest (left right : FrameItem) : Prop where
  len : left.len = right.len
  byte : ∀ index, index < right.len.toNat → left.byte index = right.byte index

namespace SameRequest

theorem refl (frame : FrameItem) : SameRequest frame frame :=
  ⟨rfl, fun _ _ => rfl⟩

variable {left right : FrameItem} (same : SameRequest left right)

include same

theorem wordAt
    {index : Nat}
    (inside : index + 1 < right.len.toNat) :
    left.wordAt index = right.wordAt index := by
  rw [FrameItem.wordAt, FrameItem.wordAt, same.byte index (by omega),
    same.byte (index + 1) inside]

/-- Address and quantity lie in the first six bytes. -/
theorem addr_qty (whole : 6 ≤ right.len.toNat) :
    left.addr = right.addr ∧ left.qty = right.qty :=
  ⟨same.wordAt (by omega), same.wordAt (by omega)⟩

theorem readInRange_iff (whole : 6 ≤ right.len.toNat) :
    left.ReadInRange ↔ right.ReadInRange := by
  obtain ⟨addr, qty⟩ := same.addr_qty whole
  rw [FrameItem.ReadInRange, FrameItem.ReadInRange, addr, qty]

/-- The check of a multiple write reads seven bytes and the length. -/
theorem writeMultipleValid_iff (header : 7 ≤ right.len.toNat) :
    left.WriteMultipleValid ↔ right.WriteMultipleValid := by
  obtain ⟨addr, qty⟩ := same.addr_qty (by omega)
  simp only [FrameItem.WriteMultipleValid, addr, qty, same.len, same.byte 6 (by omega)]

theorem front
    {length : Nat}
    (inside : length ≤ right.len.toNat) :
    FixedArray.front left.data length = FixedArray.front right.data length :=
  FixedArray.front_congr fun index covered => same.byte index (by omega)

theorem crcMatches_iff
    (long : 4 ≤ right.len) :
    left.CrcMatches ↔ right.CrcMatches := by
  have bound : 4 ≤ right.len.toNat := UInt16.le_iff_toNat_le.mp long
  have crcRx : left.crcRx = right.crcRx := by
    rw [FrameItem.crcRx, FrameItem.crcRx, same.len,
      same.byte (right.len.toNat - 1) (by omega),
      same.byte (right.len.toNat - 2) (by omega)]
  rw [FrameItem.CrcMatches, FrameItem.CrcMatches, crcRx, same.len,
    same.front (by omega)]

theorem isBroadcast_iff
    (long : 4 ≤ right.len) :
    left.IsBroadcast ↔ right.IsBroadcast := by
  have bound : 4 ≤ right.len.toNat := UInt16.le_iff_toNat_le.mp long
  rw [FrameItem.IsBroadcast, FrameItem.IsBroadcast, same.byte 0 (by omega)]

end SameRequest

namespace Device

section

variable (dev : Device D) {left right : FrameItem}
variable (same : SameRequest left right) (long : 4 ≤ right.len)

include same long

theorem answer_congr (response : List UInt8) :
    dev.answer left response = dev.answer right response := by
  simp only [answer, same.isBroadcast_iff long]

theorem answerError_congr (function errorCode : UInt8) :
    dev.answerError left function errorCode =
      dev.answerError right function errorCode := by
  simp only [answerError, same.isBroadcast_iff long]

theorem answerRead_congr
    (function : UInt8)
    (words : List UInt16)
    (qty : left.qty = right.qty) :
    dev.answerRead left function words = dev.answerRead right function words := by
  simp only [answerRead, qty, answer_congr _ same long]

theorem reaches_congr :
    dev.Reaches left ↔ dev.Reaches right := by
  have bound : 4 ≤ right.len.toNat := UInt16.le_iff_toNat_le.mp long
  simp only [Reaches, Addressed, same.len, same.crcMatches_iff long,
    same.isBroadcast_iff long, same.byte 0 (by omega)]

end

/-- A read request that the device serves, with an address inside the register
arrays, but too short for both bytes of its quantity.  With five bytes the high
byte of the quantity is there and must be zero. -/
def ShortRead (dev : Device D) (frame : FrameItem) : Prop :=
  dev.Reaches frame ∧ (frame.byte 1 = fcReadHolding ∨ frame.byte 1 = fcReadInput) ∧
    frame.len < 6 ∧ frame.addr.toNat < holdingRegSize ∧
      (frame.len = 5 → frame.byte 4 = 0)

instance (dev : Device D) (frame : FrameItem) : Decidable (dev.ShortRead frame) :=
  inferInstanceAs (Decidable (_ ∧ _))

/-- A short read outside the register arrays is refused whatever its quantity. -/
theorem not_readInRange_of_short
    {dev : Device D}
    {frame : FrameItem}
    (reaches : dev.Reaches frame)
    (read : frame.byte 1 = fcReadHolding ∨ frame.byte 1 = fcReadInput)
    (short : frame.len < 6)
    (notShortRead : ¬ dev.ShortRead frame) :
    ¬ frame.ReadInRange := by
  rintro ⟨positive, few, fits⟩
  have inside : frame.addr.toNat < holdingRegSize := by
    have nonzero : frame.qty.toNat ≠ 0 := fun zero =>
      positive (UInt16.toNat.inj zero)
    omega
  refine notShortRead ⟨reaches, read, short, inside, ?_⟩
  intro _
  have high : (frame.byte 4).toNat * 256 + (frame.byte 5).toNat ≤ 125 := by
    rw [← word_toNat]
    exact UInt16.le_iff_toNat_le.mp few
  apply UInt8.toNat.inj
  show (frame.byte 4).toNat = 0
  omega

theorem shortRead_congr
    (dev : Device D)
    {left right : FrameItem}
    (same : SameRequest left right)
    (long : 4 ≤ right.len) :
    dev.ShortRead left ↔ dev.ShortRead right := by
  have bound : 4 ≤ right.len.toNat := UInt16.le_iff_toNat_le.mp long
  have highByte : right.len = 5 → left.byte 4 = right.byte 4 := by
    intro five
    refine same.byte 4 ?_
    rw [five]
    decide
  simp only [ShortRead, dev.reaches_congr same long, same.byte 1 (by omega), same.len,
    FrameItem.addr, same.wordAt (show 2 + 1 < right.len.toNat by omega)]
  refine and_congr_right fun _ => and_congr_right fun _ => and_congr_right fun _ =>
    and_congr_right fun _ => ?_
  exact forall_congr' fun five => by rw [highByte five]

section

variable (dev : Device D) {left right : FrameItem}
variable (same : SameRequest left right) (long : 4 ≤ right.len)

include same long

/-- A read request is served alike when its quantity is inside the frame, or
when it is refused for every quantity. -/
theorem processReadHoldingRegisters_congr
    (inside : 6 ≤ right.len ∨ (¬ left.ReadInRange ∧ ¬ right.ReadInRange)) :
    dev.processReadHoldingRegisters left = dev.processReadHoldingRegisters right := by
  rcases inside with whole | ⟨refusedLeft, refusedRight⟩
  · have bound : 6 ≤ right.len.toNat := UInt16.le_iff_toNat_le.mp whole
    obtain ⟨addr, qty⟩ := same.addr_qty bound
    simp only [processReadHoldingRegisters, same.readInRange_iff bound, addr, qty,
      dev.answerRead_congr same long _ _ qty, dev.answerError_congr same long]
  · simp only [processReadHoldingRegisters, if_neg refusedLeft, if_neg refusedRight,
      dev.answerError_congr same long]

theorem processReadInputRegisters_congr
    (inside : 6 ≤ right.len ∨ (¬ left.ReadInRange ∧ ¬ right.ReadInRange)) :
    dev.processReadInputRegisters left = dev.processReadInputRegisters right := by
  rcases inside with whole | ⟨refusedLeft, refusedRight⟩
  · have bound : 6 ≤ right.len.toNat := UInt16.le_iff_toNat_le.mp whole
    obtain ⟨addr, qty⟩ := same.addr_qty bound
    simp only [processReadInputRegisters, same.readInRange_iff bound, addr, qty,
      dev.updateLiveInputs.answerRead_congr same long _ _ qty,
      dev.answerError_congr same long]
  · simp only [processReadInputRegisters, if_neg refusedLeft, if_neg refusedRight,
      dev.answerError_congr same long]

theorem processWriteSingleRegister_congr :
    dev.processWriteSingleRegister left = dev.processWriteSingleRegister right := by
  simp only [processWriteSingleRegister, same.len]
  by_cases short : right.len < 8
  · simp only [if_pos short]
  have bound : 8 ≤ right.len.toNat :=
    UInt16.le_iff_toNat_le.mp (UInt16.not_lt.mp short)
  obtain ⟨addr, qty⟩ := same.addr_qty (by omega)
  simp only [if_neg short, writeEcho, same.front (show 6 ≤ right.len.toNat by omega),
    addr, qty, answer_congr _ same long, answerError_congr _ same long]

theorem processWriteMultipleRegisters_congr [DoubleArith D] :
    dev.processWriteMultipleRegisters left =
      dev.processWriteMultipleRegisters right := by
  simp only [processWriteMultipleRegisters, same.len]
  by_cases short : right.len < 9
  · simp only [if_pos short]
  have bound : 9 ≤ right.len.toNat :=
    UInt16.le_iff_toNat_le.mp (UInt16.not_lt.mp short)
  obtain ⟨addr, qty⟩ := same.addr_qty (by omega)
  simp only [if_neg short, same.writeMultipleValid_iff (show 7 ≤ right.len.toNat by omega)]
  by_cases accepted : right.WriteMultipleValid
  · have inside := accepted.payload_inside
    have registers : dev.writeRegisters left = dev.writeRegisters right := by
      simp only [writeRegisters, addr, qty]
      refine congrArg dev.updateBank (funext fun bank => countedLoop_congr ?_ bank)
      intro i written
      rw [same.wordAt (show 7 + i * 2 + 1 < right.len.toNat by omega)]
    simp only [if_neg (not_not_intro accepted), registers, writeEcho,
      same.front (show 6 ≤ right.len.toNat by omega), addr, qty,
      answer_congr _ same long]
  · simp only [if_pos accepted, answerError_congr _ same long]

/-- The whole function code switch. -/
theorem dispatch_congr [DoubleArith D]
    (inside : (right.byte 1 = fcReadHolding ∨ right.byte 1 = fcReadInput) →
      6 ≤ right.len ∨ (¬ left.ReadInRange ∧ ¬ right.ReadInRange)) :
    dev.dispatch left = dev.dispatch right := by
  have bound : 4 ≤ right.len.toNat := UInt16.le_iff_toNat_le.mp long
  simp only [dispatch, same.byte 1 (by omega)]
  by_cases readHolding : right.byte 1 = fcReadHolding
  · simp only [if_pos readHolding]
    exact dev.processReadHoldingRegisters_congr same long (inside (Or.inl readHolding))
  by_cases readInput : right.byte 1 = fcReadInput
  · simp only [if_neg readHolding, if_pos readInput]
    exact dev.processReadInputRegisters_congr same long (inside (Or.inr readInput))
  simp only [if_neg readHolding, if_neg readInput,
    dev.processWriteSingleRegister_congr same long,
    dev.processWriteMultipleRegisters_congr same long, dev.answerError_congr same long]

end

/-- A command runs whatever lies behind its request. -/
theorem RunsCommand.of_sameRequest
    {dev : Device D}
    {left right : FrameItem}
    (runs : dev.RunsCommand right)
    (same : SameRequest left right) :
    dev.RunsCommand left := by
  obtain ⟨reaches, code, long, valid, covers⟩ := runs
  have bound : 9 ≤ right.len.toNat := UInt16.le_iff_toNat_le.mp long
  obtain ⟨addr, qty⟩ := same.addr_qty (by omega)
  refine ⟨(dev.reaches_congr same reaches.1).mpr reaches, ?_, ?_, ?_, ?_⟩
  · rw [same.byte 1 (by omega)]
    exact code
  · rw [same.len]
    exact long
  · exact (same.writeMultipleValid_iff (by omega)).mpr valid
  · rw [addr, qty]
    exact covers

/-! ## Leftovers decide a short read -/

/-- The frame with another quantity, of at most one byte, behind its address. -/
def withQty (frame : FrameItem) (qty : UInt8) : FrameItem :=
  { frame with data := FixedArray.write (FixedArray.write frame.data 4 0) 5 qty }

theorem withQty_byte
    (frame : FrameItem)
    (qty : UInt8)
    (index : Nat) :
    (withQty frame qty).byte index =
      if index = 5 then qty else if index = 4 then 0 else frame.byte index := by
  simp only [FrameItem.byte, withQty, FixedArray.read_write, Nat.reduceLT, and_true]

/-- For a short read the quantity is not part of the request. -/
theorem withQty_sameRequest
    {frame : FrameItem}
    (short : frame.len < 6)
    (highZero : frame.len = 5 → frame.byte 4 = 0)
    (qty : UInt8) :
    SameRequest (withQty frame qty) frame where
  len := rfl
  byte index inside := by
    have bound : frame.len.toNat < 6 := UInt16.lt_iff_toNat_lt.mp short
    have notLow : ¬ index = 5 := by omega
    rw [withQty_byte, if_neg notLow]
    split
    · rename_i high
      refine (highZero (UInt16.toNat.inj ?_)).symm.trans (by rw [high])
      show frame.len.toNat = 5
      omega
    · rfl

variable [DoubleArith D]

/-- The return value of a read request. -/
theorem processFrame_read
    {dev : Device D}
    {frame : FrameItem}
    (reaches : dev.Reaches frame)
    (read : frame.byte 1 = fcReadHolding ∨ frame.byte 1 = fcReadInput) :
    (dev.processFrame (some frame)).1 = if frame.ReadInRange then 1 else 0 := by
  rw [processFrame_of_reaches reaches, dispatch]
  rcases read with code | code
  · rw [if_pos code, processReadHoldingRegisters]
    split <;> rfl
  · have other : ¬ fcReadInput = fcReadHolding := by decide
    rw [code, if_neg other, if_pos rfl, processReadInputRegisters]
    split <;> rfl

/-- A short read is refused or served as the leftovers have it. -/
theorem processFrame_withQty
    {dev : Device D}
    {frame : FrameItem}
    (shortRead : dev.ShortRead frame)
    (qty : UInt8)
    (small : qty = 0 ∨ qty = 1) :
    (dev.processFrame (some (withQty frame qty))).1 = qty := by
  obtain ⟨reaches, read, short, inside, highZero⟩ := shortRead
  have long := reaches.1
  have bound : 4 ≤ frame.len.toNat := UInt16.le_iff_toNat_le.mp long
  have same := withQty_sameRequest short highZero qty
  have quantity : (withQty frame qty).qty.toNat = qty.toNat := by
    rw [FrameItem.qty, FrameItem.wordAt, word_toNat, withQty_byte, withQty_byte]
    simp
  have addr : (withQty frame qty).addr = frame.addr := same.wordAt (by omega)
  rw [processFrame_read ((dev.reaches_congr same long).mpr reaches)
    (by rw [same.byte 1 (by omega)]; exact read)]
  rcases small with rfl | rfl
  · have refused : ¬ (withQty frame 0).ReadInRange := fun inRange =>
      inRange.1 (UInt16.toNat.inj quantity)
    rw [if_neg refused]
  · have served : (withQty frame 1).ReadInRange := by
      refine ⟨?_, ?_, ?_⟩
      · intro zero
        rw [zero] at quantity
        exact absurd quantity (by decide)
      · apply UInt16.le_iff_toNat_le.mpr
        rw [quantity]
        decide
      · rw [addr, quantity]
        exact inside
    rw [if_pos served]

/-- A frame is processed without regard to the bytes behind it exactly when it
is not a short read. -/
theorem processFrame_ignoresLeftovers_iff
    (dev : Device D)
    (frame : FrameItem) :
    (∀ other, SameRequest other frame →
        dev.processFrame (some other) = dev.processFrame (some frame)) ↔
      ¬ dev.ShortRead frame := by
  constructor
  · intro alike shortRead
    have ⟨_, _, short, _, highZero⟩ := shortRead
    have refused := processFrame_withQty shortRead 0 (Or.inl rfl)
    have served := processFrame_withQty shortRead 1 (Or.inr rfl)
    rw [alike _ (withQty_sameRequest short highZero 0)] at refused
    rw [alike _ (withQty_sameRequest short highZero 1), refused] at served
    exact absurd served (by decide)
  · intro notShortRead other same
    by_cases tooShort : frame.len < 4
    · have otherShort : other.len < 4 := by rw [same.len]; exact tooShort
      simp only [processFrame, if_pos tooShort, if_pos otherShort]
    have long : 4 ≤ frame.len := UInt16.not_lt.mp tooShort
    have bound : 4 ≤ frame.len.toNat := UInt16.le_iff_toNat_le.mp long
    have notShort : ¬ other.len < 4 := by rw [same.len]; exact tooShort
    have reaches := dev.reaches_congr same long
    have crcMatches := same.crcMatches_iff long
    by_cases reached : dev.Reaches frame
    · rw [processFrame_of_reaches reached, processFrame_of_reaches (reaches.mpr reached)]
      refine dispatch_congr dev.noteValidFrame same long fun read => ?_
      by_cases short : frame.len < 6
      · refine Or.inr ⟨?_, not_readInRange_of_short reached read short notShortRead⟩
        refine not_readInRange_of_short (reaches.mpr reached) ?_ ?_
          (mt (dev.shortRead_congr same long).mp notShortRead)
        · rw [same.byte 1 (by omega)]
          exact read
        · rw [same.len]
          exact short
      · exact Or.inl (UInt16.not_lt.mp short)
    · by_cases crc : frame.CrcMatches
      · have foreign : ¬ dev.noteValidFrame.Addressed frame :=
          fun addressed => reached ⟨long, crc, addressed⟩
        have otherForeign : ¬ dev.noteValidFrame.Addressed other := fun addressed =>
          reached (reaches.mp ⟨UInt16.not_lt.mp notShort, crcMatches.mpr crc, addressed⟩)
        simp only [processFrame, if_neg tooShort, if_neg notShort, if_pos foreign,
          if_pos otherForeign, if_neg (not_not_intro crc),
          if_neg (not_not_intro (crcMatches.mpr crc))]
      · simp only [processFrame, if_neg tooShort, if_neg notShort, if_pos crc,
          if_pos (mt crcMatches.mp crc)]

/-- A broadcast read request of four bytes for register 0x73: a quantity of
zero in the leftovers refuses it, a quantity of one serves it. -/
theorem processFrame_readsLeftovers :
    let dev : Device ℚ := (powerOn BuildInfo.unitTest).initialized 1
    let refused := withQty (.ofBytes [0x00, 0x04, 0x00, 0x73]) 0
    let served := withQty (.ofBytes [0x00, 0x04, 0x00, 0x73]) 1
    SameRequest refused served ∧ refused.len = 4 ∧
      (dev.processFrame (some refused)).1 = 0 ∧
        (dev.processFrame (some served)).1 = 1 := by
  intro dev refused served
  have shortRead : dev.ShortRead (.ofBytes [0x00, 0x04, 0x00, 0x73]) := by
    decide +kernel
  refine ⟨⟨rfl, ?_⟩, by decide, processFrame_withQty shortRead 0 (Or.inl rfl),
    processFrame_withQty shortRead 1 (Or.inr rfl)⟩
  intro index inside
  have notLow : ¬ index = 5 := by
    have bound : index < 4 := inside
    omega
  simp only [refused, served, withQty_byte, if_neg notLow]

end Device

end SensorFirmware
