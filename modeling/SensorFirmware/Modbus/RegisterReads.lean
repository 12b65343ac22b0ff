import SensorFirmware.Modbus.RegisterFile

/-!
# Reading one register

What a master learns about one register from an accepted read: the two bytes at
the place of the register in the response.  They determine the word of the
register array, so a statement about responses is one about the arrays.
-/

namespace SensorFirmware

open BigEndian ModbusService

namespace Device

/-- The low byte of a legal slave id is no broadcast address. -/
theorem IdValid.unicast
    {dev : Device D}
    (idValid : dev.IdValid) :
    dev.deviceConfig.id.toUInt8 ≠ 0 := by
  have positive : 0 < dev.deviceConfig.id.toNat := idValid.1
  have few : dev.deviceConfig.id.toNat ≤ 247 := UInt16.le_iff_toNat_le.mp idValid.2
  intro zero
  have narrowed : dev.deviceConfig.id.toNat % 256 = 0 := by
    rw [← UInt16.toNat_toUInt8, zero]
    rfl
  omega

variable [DoubleArith D]

/-- A read with the given function code that is accepted, expects a response and
covers the register. -/
structure ReadsRegister (dev : Device D) (code : UInt8) (read : FrameItem)
    (reg : Nat) : Prop where
  accepted : (dev.processFrame (some read)).1 ≠ 0
  code : read.byte 1 = code
  unicast : ¬ read.IsBroadcast
  above : read.addr.toNat ≤ reg
  below : reg < read.addr.toNat + read.qty.toNat

/-- The read is answered with one response, which carries the word at the place
of the register. -/
def Returns (dev : Device D) (read : FrameItem) (reg : Nat) (value : UInt16) : Prop :=
  ∃ response,
    (dev.frameStep read).transmitted = dev.transmitted ++ [response] ∧
      response.getD (3 + (reg - read.addr.toNat) * 2) 0 = highByte value ∧
        response.getD (3 + (reg - read.addr.toNat) * 2 + 1) 0 = lowByte value

/-- The bytes of a read response at the place of a word. -/
theorem getD_readResponse
    (id function count : UInt8)
    (words : List UInt16)
    (i : Nat)
    (inside : i < words.length) :
    let response := withCrc (id :: function :: count :: bytes words)
    response.getD (3 + i * 2) 0 = highByte (words.getD i 0) ∧
      response.getD (3 + i * 2 + 1) 0 = lowByte (words.getD i 0) := by
  intro response
  have payload (index : Nat) (within : index < (bytes words).length) :
      response.getD (3 + index) 0 = (bytes words).getD index 0 := by
    have shifted : 3 + index = index + 3 := Nat.add_comm 3 index
    rw [shifted]
    exact List.getD_append _ _ _ _ (Nat.add_lt_add_right within 3)
  have length := length_bytes words
  obtain ⟨high, low⟩ := getD_bytes words i inside
  rw [Nat.add_assoc, payload _ (by omega), payload _ (by omega)]
  exact ⟨high, low⟩

/-- A response with the words of a read carries the word at the place of the
register and no other. -/
theorem returns_iff_of_transmitted
    {dev : Device D}
    {read : FrameItem}
    {reg : Nat}
    {id function count : UInt8}
    {words : List UInt16}
    (sent : (dev.frameStep read).transmitted =
      dev.transmitted ++ [withCrc (id :: function :: count :: bytes words)])
    (inside : reg - read.addr.toNat < words.length)
    (value : UInt16) :
    dev.Returns read reg value ↔ words.getD (reg - read.addr.toNat) 0 = value := by
  obtain ⟨high, low⟩ := getD_readResponse id function count words _ inside
  rw [eq_iff_bytes, ← high, ← low]
  constructor
  · rintro ⟨response, answered, highMatches, lowMatches⟩
    have same := List.append_cancel_left (sent.symm.trans answered)
    rw [List.cons.injEq] at same
    rw [same.1]
    exact ⟨highMatches, lowMatches⟩
  · rintro ⟨highMatches, lowMatches⟩
    exact ⟨_, sent, highMatches, lowMatches⟩

namespace ReadsRegister

variable {dev : Device D} {read : FrameItem} {reg : Nat}

/-- A read of holding registers returns what the array holds. -/
theorem returns_holding_iff
    (reads : dev.ReadsRegister fcReadHolding read reg)
    (stored : reg ≠ regBaudRate)
    (value : UInt16) :
    dev.Returns read reg value ↔ dev.holding reg = value := by
  obtain ⟨accepted, code, unicast, above, below⟩ := reads
  obtain ⟨inRange, _⟩ := processFrame_readHolding accepted code
  have position : read.addr.toNat + (reg - read.addr.toNat) = reg :=
    Nat.add_sub_cancel' above
  have inside : reg - read.addr.toNat < (dev.holdingWords read).length := by
    rw [length_holdingWords]
    omega
  have found := holdingWords_getElem? dev inRange (reg - read.addr.toNat)
    (by omega) (by rw [position]; exact stored)
  rw [position] at found
  rw [returns_iff_of_transmitted
    (processFrame_readHolding_transmitted accepted code unicast) inside,
    List.getD_eq_getElem?_getD, found, Option.getD_some]

/-- A read of input registers returns what the array holds once the live values
are refreshed. -/
theorem returns_input_iff
    (reads : dev.ReadsRegister fcReadInput read reg)
    (value : UInt16) :
    dev.Returns read reg value ↔
      dev.noteValidFrame.updateLiveInputs.input reg = value := by
  obtain ⟨accepted, code, unicast, above, below⟩ := reads
  obtain ⟨inRange, _⟩ := processFrame_readInput accepted code
  have position : read.addr.toNat + (reg - read.addr.toNat) = reg :=
    Nat.add_sub_cancel' above
  have inArray : reg < holdingRegSize := Nat.lt_of_lt_of_le below inRange.2.2
  have within : reg - read.addr.toNat < read.qty.toNat := by omega
  have inside : reg - read.addr.toNat <
      (dev.noteValidFrame.updateLiveInputs.inputWords read).length := by
    rw [length_inputWords]
    exact within
  rw [returns_iff_of_transmitted
    (processFrame_readInput_transmitted accepted code unicast) inside,
    List.getD_eq_getElem?_getD, inputWords, List.getElem?_map,
    List.getElem?_range within, Option.map_some, Option.getD_some, position,
    inputRegister, if_pos inArray]

end ReadsRegister

/-- A device with a legal slave id accepts a read of any one register. -/
theorem readsRegister_twoWordRequest
    {dev : Device D}
    (idValid : dev.IdValid)
    {code : UInt8}
    (read : code = fcReadHolding ∨ code = fcReadInput)
    {reg : Nat}
    (inArray : reg < holdingRegSize) :
    dev.ReadsRegister code
      (twoWordRequest dev.deviceConfig.id.toUInt8 code reg.toUInt16 1) reg := by
  generalize request_eq :
    twoWordRequest dev.deviceConfig.id.toUInt8 code reg.toUInt16 1 = request
  have reaches : dev.Reaches request := by
    rw [← request_eq]
    exact reaches_twoWordRequest idValid rfl code _ 1
  have codeByte : request.byte 1 = code := by
    rw [← request_eq]
    exact twoWordRequest_byte _ _ _ _ 1 (by decide)
  have unicast : ¬ request.IsBroadcast := by
    rw [← request_eq]
    exact twoWordRequest_unicast _ _ _ _ idValid.unicast
  have addr : request.addr.toNat = reg := by
    rw [← request_eq, twoWordRequest_addr]
    exact Nat.mod_eq_of_lt (Nat.lt_trans inArray (by decide))
  have qty : request.qty = 1 := by
    rw [← request_eq, twoWordRequest_qty]
  have one : (1 : UInt16).toNat = 1 := rfl
  have inRange : request.ReadInRange := by
    rw [FrameItem.ReadInRange, addr, qty]
    exact ⟨by decide, by decide, inArray⟩
  have accepted : (dev.processFrame (some request)).1 ≠ 0 := by
    rw [processFrame_of_reaches reaches, dispatch, codeByte]
    rcases read with rfl | rfl
    · rw [if_pos rfl, processReadHoldingRegisters, if_pos inRange]
      exact (show (1 : UInt8) ≠ 0 by decide)
    · have notHolding : ¬ fcReadInput = fcReadHolding := by decide
      rw [if_neg notHolding, if_pos rfl, processReadInputRegisters, if_pos inRange]
      exact (show (1 : UInt8) ≠ 0 by decide)
  exact ⟨accepted, codeByte, unicast, by omega, by rw [addr, qty, one]; omega⟩

end Device

end SensorFirmware
