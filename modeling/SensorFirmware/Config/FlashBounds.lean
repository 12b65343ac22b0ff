import SensorFirmware.Config.FlashStorage

/-!
# The bounds of flash accesses

`isAddressInConfigSector` adds the address and the size modulo 2^32, and `write`
programs whole words.  An accepted range therefore stays in the sector exactly when
the address and the size, rounded up to whole words, do not pass its end as integers.
-/

namespace SensorFirmware

/-- The address lies in the sector. -/
def InConfigSector (byte : UInt32) : Prop :=
  configFlashAddress ≤ byte ∧ byte < configFlashAddress + configSectorSize

instance (byte : UInt32) : Decidable (InConfigSector byte) :=
  inferInstanceAs (Decidable (_ ∧ _))

/-- `read` copies the byte, and `verify` compares it. -/
def AccessesByte (address size byte : UInt32) : Prop :=
  ∃ index, index < size.toNat ∧ byte = address + UInt32.ofNat index

/-- The offsets of the words that the loop of `write` programs from an offset on, for
a number of iterations. -/
def programmedOffsets (size : UInt32) : Nat → UInt32 → List UInt32
  | 0, _ => []
  | iterations + 1, offset =>
      if offset < size then offset :: programmedOffsets size iterations (offset + 4)
      else []

/-- The byte belongs to a word that `write` programs. -/
def ProgramsByte (address size byte : UInt32) : Prop :=
  ∃ iterations, ∃ offset ∈ programmedOffsets size iterations 0,
    ∃ index, index < 4 ∧ byte = address + offset + UInt32.ofNat index

/-- The accesses to an accepted range stay in the sector. -/
def StaysInConfigSector (address size : UInt32) : Prop :=
  IsAddressInConfigSector address size →
    (∀ byte, AccessesByte address size byte → InConfigSector byte) ∧
      ∀ byte, ProgramsByte address size byte → InConfigSector byte

/-- The size in bytes of the words that take some bytes. -/
def roundedSize (size : UInt32) : Nat := 4 * ((size.toNat + 3) / 4)

/-! ## The programmed words -/

/-- The loop programs words at multiples of four below the size only, also where its
offset wraps around. -/
theorem programmedOffsets_below
    {size offset visited : UInt32}
    {iterations : Nat}
    (aligned : offset.toNat % 4 = 0)
    (member : visited ∈ programmedOffsets size iterations offset) :
    visited.toNat % 4 = 0 ∧ visited.toNat < size.toNat := by
  induction iterations generalizing offset with
  | zero => cases member
  | succ iterations inductionHypothesis =>
      rw [programmedOffsets] at member
      split at member
      case isTrue more =>
        rcases List.mem_cons.mp member with rfl | later
        · exact ⟨aligned, UInt32.lt_iff_toNat_lt.mp more⟩
        · have next : (offset + 4).toNat % 4 = 0 := by
            have four : (4 : UInt32).toNat = 4 := rfl
            rw [UInt32.toNat_add, four]
            omega
          exact inductionHypothesis next later
      case isFalse => cases member

/-- It reaches every one of them. -/
theorem mem_programmedOffsets
    {size offset : UInt32}
    (ahead : Nat)
    (below : offset.toNat + 4 * ahead < size.toNat) :
    offset + UInt32.ofNat (4 * ahead) ∈ programmedOffsets size (ahead + 1) offset := by
  have bound := size.toNat_lt
  have four : (4 : UInt32).toNat = 4 := rfl
  have more : offset < size := UInt32.lt_iff_toNat_lt.mpr (by omega)
  induction ahead generalizing offset with
  | zero =>
      rw [programmedOffsets, if_pos more]
      exact List.mem_cons.mpr (.inl (UInt32.add_zero offset))
  | succ ahead inductionHypothesis =>
      have next : (offset + 4).toNat = offset.toNat + 4 := by
        rw [UInt32.toNat_add, four]
        omega
      have sum : offset + UInt32.ofNat (4 * (ahead + 1)) =
          offset + 4 + UInt32.ofNat (4 * ahead) := by
        rw [Nat.mul_succ, Nat.add_comm, UInt32.ofNat_add, UInt32.add_assoc]
        rfl
      rw [programmedOffsets, if_pos more, sum]
      exact List.mem_cons_of_mem _
        (inductionHypothesis (by omega) (UInt32.lt_iff_toNat_lt.mpr (by omega)))

/-- The words that `write` programs are the range rounded up to whole words. -/
theorem programsByte_iff (address size byte : UInt32) :
    ProgramsByte address size byte ↔
      ∃ index, index < roundedSize size ∧ byte = address + UInt32.ofNat index := by
  have bound := size.toNat_lt
  constructor
  · rintro ⟨iterations, offset, member, index, small, rfl⟩
    obtain ⟨aligned, below⟩ := programmedOffsets_below rfl member
    refine ⟨offset.toNat + index, ?_, ?_⟩
    · unfold roundedSize
      omega
    · rw [UInt32.ofNat_add, UInt32.ofNat_toNat, UInt32.add_assoc]
  · rintro ⟨index, inside, rfl⟩
    unfold roundedSize at inside
    have zero : (0 : UInt32).toNat = 0 := rfl
    have split : index = 4 * (index / 4) + index % 4 := by omega
    refine ⟨index / 4 + 1, 0 + UInt32.ofNat (4 * (index / 4)),
      mem_programmedOffsets (index / 4) (by omega), index % 4, by omega, ?_⟩
    rw [UInt32.zero_add, UInt32.add_assoc, ← UInt32.ofNat_add, ← split]

/-! ## The bounds -/

/-- A nonempty range that starts in or behind the sector stays in it exactly when it
ends there as an integer. -/
theorem range_inConfigSector_iff
    {address : UInt32}
    {length : Nat}
    (behind : ¬ address < configFlashAddress)
    (nonempty : 0 < length) :
    (∀ index, index < length → InConfigSector (address + UInt32.ofNat index)) ↔
      address.toNat + length ≤ 0x08008000 := by
  have start : configFlashAddress.toNat = 0x08004000 := rfl
  have stop : (configFlashAddress + configSectorSize).toNat = 0x08008000 := rfl
  have bound := address.toNat_lt
  have sum (index : Nat) : (address + UInt32.ofNat index).toNat =
      (address.toNat + index) % 4294967296 := by
    rw [UInt32.toNat_add, UInt32.toNat_ofNat']
    omega
  simp only [InConfigSector, UInt32.le_iff_toNat_le, UInt32.lt_iff_toNat_lt, start, stop,
    sum] at behind ⊢
  constructor
  · intro inside
    by_contra beyond
    have first := inside 0 nonempty
    have last := inside (0x08008000 - address.toNat) (by omega)
    omega
  · intro ends index small
    omega

/-- The accesses to a range stay in the sector when the range is refused, and
otherwise exactly when its words do not pass the end of the sector as integers. -/
theorem staysInConfigSector_iff (address size : UInt32) :
    StaysInConfigSector address size ↔
      ¬ IsAddressInConfigSector address size ∨
        address.toNat + roundedSize size ≤ 0x08008000 := by
  by_cases accepted : IsAddressInConfigSector address size
  · have range := accepted
    obtain ⟨nonempty, behind, -⟩ := range
    have positive : 0 < size.toNat := by
      rw [Nat.pos_iff_ne_zero]
      exact fun zero => nonempty (UInt32.toNat.inj zero)
    have roundedUp : size.toNat ≤ roundedSize size := by
      unfold roundedSize
      omega
    rw [← range_inConfigSector_iff behind (show 0 < roundedSize size by omega)]
    constructor
    · intro stays
      right
      intro index small
      exact (stays accepted).2 _ ((programsByte_iff address size _).mpr ⟨index, small, rfl⟩)
    · rintro (refused | inside)
      · exact absurd accepted refused
      intro _
      constructor
      · rintro byte ⟨index, small, rfl⟩
        exact inside index (by omega)
      · intro byte programs
        obtain ⟨index, small, rfl⟩ := (programsByte_iff address size byte).mp programs
        exact inside index small
  · exact iff_of_true (fun isAccepted => absurd isAccepted accepted) (.inl accepted)

/-- The last byte of the sector is accepted, but its word reaches three bytes behind
the sector; and a range far behind the sector is accepted when its end wraps around. -/
theorem write_leavesConfigSector :
    ¬ StaysInConfigSector 0x08007FFF 1 ∧ ¬ StaysInConfigSector 0xFFFFFFF0 0x20 := by
  constructor
  · intro stays
    have programmed : ProgramsByte 0x08007FFF 1 0x08008002 :=
      (programsByte_iff _ _ _).mpr ⟨3, by decide, by decide⟩
    exact absurd ((stays (by decide)).2 _ programmed) (by decide)
  · intro stays
    have copied : AccessesByte 0xFFFFFFF0 0x20 0xFFFFFFF0 := ⟨0, by decide, by decide⟩
    exact absurd ((stays (by decide)).1 _ copied) (by decide)

namespace FlashStorage

/-! ## The bytes of a read and a comparison -/

/-- The position in the sector of a byte of a range. -/
theorem position_add
    {address : UInt32}
    {index : Nat}
    (inside : position address + index < 0x4000) :
    position (address + UInt32.ofNat index) = position address + index := by
  have moved : address + UInt32.ofNat index - configFlashAddress =
      address - configFlashAddress + UInt32.ofNat index := by
    rw [UInt32.sub_eq_add_neg, UInt32.sub_eq_add_neg, UInt32.add_assoc, UInt32.add_assoc,
      UInt32.add_comm (UInt32.ofNat index)]
  unfold position at inside ⊢
  rw [moved, UInt32.toNat_add, UInt32.toNat_ofNat']
  omega

/-- `read` and `verify` depend on the accessed bytes of the sector only. -/
theorem read_verify_congr
    {flash other : FlashStorage}
    {address : UInt32}
    {data : List UInt8}
    (short : data.length < 4294967296)
    (agree : ∀ byte, AccessesByte address data.length.toUInt32 byte →
      FixedArray.read flash.sector (position byte) =
        FixedArray.read other.sector (position byte)) :
    flash.read address (some data) = other.read address (some data) ∧
      flash.verify address (some data) = other.verify address (some data) := by
  have same : FlashMemory.contents flash.sector (position address) data.length =
      FlashMemory.contents other.sector (position address) data.length := by
    unfold FlashMemory.contents
    apply List.map_congr_left
    intro index member
    by_cases inside : position address + index < 0x4000
    · rw [← position_add inside]
      apply agree
      refine ⟨index, ?_, rfl⟩
      rw [Nat.toUInt32, UInt32.toNat_ofNat', Nat.mod_eq_of_lt short]
      exact List.mem_range.mp member
    · rw [FixedArray.read_of_outside _ inside, FixedArray.read_of_outside _ inside]
  unfold read verify
  simp only [same]
  exact ⟨trivial, trivial⟩

/-! ## The commands of a write -/

/-- The loop gives the controller one command for each word, the first ones first. -/
theorem programLoop_commands
    (address : UInt32)
    (bytes : List UInt8)
    (reply : Nat → FlashReply)
    (count : Nat)
    (flash : FlashStorage) :
    ∀ command ∈ (programLoop address bytes reply count flash).2.commands,
      command ∈ flash.commands ∨
        ∃ index, index < count ∧
          command = .programWord (position address + index * 4)
            (FlashMemory.wordAt 4 bytes (index * 4)) := by
  induction count with
  | zero => exact fun command member => .inl member
  | succ count inductionHypothesis =>
      intro command member
      have earlier (before : command ∈
          (programLoop address bytes reply count flash).2.commands) :
          command ∈ flash.commands ∨
            ∃ index, index < count + 1 ∧
              command = .programWord (position address + index * 4)
                (FlashMemory.wordAt 4 bytes (index * 4)) := by
        refine (inductionHypothesis command before).imp_right ?_
        rintro ⟨index, inside, same⟩
        exact ⟨index, by omega, same⟩
      simp only [programLoop] at member earlier
      rw [countedLoop_succ] at member
      split at member
      · simp only [FlashStorage.command, List.mem_append, List.mem_singleton] at member
        rcases member with before | last
        · exact earlier before
        · exact .inr ⟨count, by omega, last⟩
      · exact earlier member

/-- Every word that `write` gives the controller is one of the programmed words of an
accepted range. -/
theorem write_commands
    (flash : FlashStorage)
    (address : UInt32)
    {bytes : List UInt8}
    (short : bytes.length < 4294967296)
    (idle : Bool)
    (reply : Nat → FlashReply) :
    ∀ command ∈ (flash.write address (some bytes) idle reply).2.commands,
      command ∈ flash.commands ∨
        IsAddressInConfigSector address bytes.length.toUInt32 ∧
          ∃ iterations, ∃ offset ∈ programmedOffsets bytes.length.toUInt32 iterations 0,
            ∃ location word, command = .programWord location word ∧
              configFlashAddress + UInt32.ofNat location = address + offset := by
  intro command member
  have size : bytes.length.toUInt32.toNat = bytes.length := by
    rw [Nat.toUInt32, UInt32.toNat_ofNat']
    exact Nat.mod_eq_of_lt short
  by_cases accepted : IsAddressInConfigSector address bytes.length.toUInt32
  · rw [write, if_neg (not_not_intro accepted)] at member
    split at member
    case isTrue =>
      have programmed : command ∈ (programLoop address bytes reply
          (FlashMemory.wordCount 4 bytes.length) flash).2.commands := by
        simp only at member
        split at member
        · exact member
        · exact member
      refine (programLoop_commands address bytes reply _ flash command programmed).imp_right ?_
      rintro ⟨index, inside, rfl⟩
      rw [FlashMemory.wordCount] at inside
      have zero : (0 : UInt32).toNat = 0 := rfl
      refine ⟨accepted, index + 1, 0 + UInt32.ofNat (4 * index),
        mem_programmedOffsets index (by omega), _, _, rfl, ?_⟩
      rw [UInt32.zero_add, UInt32.ofNat_add, position, UInt32.ofNat_toNat,
        Nat.mul_comm index, ← UInt32.add_assoc, UInt32.add_comm configFlashAddress,
        UInt32.sub_add_cancel]
    case isFalse => exact .inl member
  · rw [write, if_pos accepted] at member
    exact .inl member

end FlashStorage

end SensorFirmware
