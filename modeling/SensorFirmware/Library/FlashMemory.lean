import SensorFirmware.Library.FixedArray

/-!
# Flash memory

A memory of bytes whose bits only an erase can set: programming clears bits.
Data are programmed in words of a fixed width, and the last word is filled up
with ones.  Programming an erased memory leaves exactly the data there.
-/

namespace FlashMemory

/-- The memory after an erase. -/
def erased (n : Nat) : Vector UInt8 n := Vector.replicate n 0xFF

/-- Program one byte. -/
def programByte (memory : Vector UInt8 n) (position : Nat) (value : UInt8) :
    Vector UInt8 n :=
  FixedArray.write memory position (FixedArray.read memory position &&& value)

/-- Program the bytes of a word. -/
def programWord (memory : Vector UInt8 n) (position : Nat) (word : Vector UInt8 width) :
    Vector UInt8 n :=
  countedLoop
    (fun i memory => programByte memory (position + i) (FixedArray.read word i))
    width memory

/-- The word of some data at an offset, filled up with ones. -/
def wordAt (width : Nat) (bytes : List UInt8) (offset : Nat) : Vector UInt8 width :=
  Vector.ofFn fun i => bytes.getD (offset + i) 0xFF

/-- Number of words that some bytes take. -/
def wordCount (width length : Nat) : Nat := (length + width - 1) / width

/-- Program data word by word. -/
def programWords (width : Nat) (bytes : List UInt8) (position : Nat)
    (memory : Vector UInt8 n) : Vector UInt8 n :=
  countedLoop
    (fun index memory =>
      programWord memory (position + index * width) (wordAt width bytes (index * width)))
    (wordCount width bytes.length) memory

/-- The bytes from a position on. -/
def contents (memory : Vector UInt8 n) (position count : Nat) : List UInt8 :=
  (List.range count).map fun i => FixedArray.read memory (position + i)

@[simp] theorem length_contents
    (memory : Vector UInt8 n)
    (position count : Nat) :
    (contents memory position count).length = count := by
  simp [contents]

@[simp] theorem read_erased
    (index : Nat)
    (inside : index < n) :
    FixedArray.read (erased n) index = 0xFF := by
  rw [FixedArray.read_eq_getElem _ _ inside]
  simp [erased]

theorem contents_erased
    {position count : Nat}
    (fits : position + count ≤ n) :
    contents (erased n) position count = List.replicate count 0xFF := by
  rw [List.eq_replicate_iff]
  refine ⟨length_contents _ _ _, ?_⟩
  intro byte stored
  obtain ⟨offset, inside, rfl⟩ := List.mem_map.mp stored
  have below := List.mem_range.mp inside
  exact read_erased (position + offset) (by omega)

theorem read_wordAt
    (width : Nat)
    (bytes : List UInt8)
    (offset index : Nat)
    (inside : index < width) :
    FixedArray.read (wordAt width bytes offset) index =
      bytes.getD (offset + index) 0xFF := by
  rw [FixedArray.read_eq_getElem _ _ inside]
  simp [wordAt]

/-- Programming a word clears bits in its own cells. -/
theorem read_programWord
    (memory : Vector UInt8 n)
    (position : Nat)
    (word : Vector UInt8 width)
    (index : Nat)
    (inside : index < n) :
    FixedArray.read (programWord memory position word) index =
      if position ≤ index ∧ index < position + width then
        FixedArray.read memory index &&& FixedArray.read word (index - position)
      else FixedArray.read memory index := by
  have loop (count : Nat) :
      FixedArray.read
          (countedLoop
            (fun i memory => programByte memory (position + i) (FixedArray.read word i))
            count memory) index =
        if position ≤ index ∧ index < position + count then
          FixedArray.read memory index &&& FixedArray.read word (index - position)
        else FixedArray.read memory index := by
    induction count with
    | zero =>
        have nowhere : ¬ (position ≤ index ∧ index < position + 0) := by omega
        rw [countedLoop_zero, if_neg nowhere]
    | succ count inductionHypothesis =>
        rw [countedLoop_succ, programByte, FixedArray.read_write]
        by_cases last : index = position + count
        · have fresh : ¬ (position ≤ index ∧ index < position + count) := by omega
          have covered : position ≤ index ∧ index < position + (count + 1) := by omega
          have offset : index - position = count := by omega
          rw [if_neg fresh] at inductionHypothesis
          rw [if_pos ⟨last, by omega⟩, if_pos covered, offset, ← last, inductionHypothesis]
        · have extended : (position ≤ index ∧ index < position + (count + 1)) ↔
              (position ≤ index ∧ index < position + count) := by omega
          rw [if_neg (fun both => last both.1), inductionHypothesis]
          simp only [extended]
  exact loop width

/-- After each word of an erased memory the words so far hold the data, and the
rest is still erased. -/
theorem read_programWords_loop
    (width : Nat)
    (bytes : List UInt8)
    (position count : Nat)
    (index : Nat)
    (inside : index < n)
    (behind : position ≤ index) :
    FixedArray.read
        (countedLoop
          (fun i memory =>
            programWord memory (position + i * width) (wordAt width bytes (i * width)))
          count (erased n)) index =
      if index < position + count * width then bytes.getD (index - position) 0xFF
      else 0xFF := by
  induction count with
  | zero =>
      have nowhere : ¬ index < position + 0 * width := by omega
      rw [countedLoop_zero, if_neg nowhere, read_erased index inside]
  | succ count inductionHypothesis =>
      rw [countedLoop_succ, read_programWord _ _ _ _ inside, inductionHypothesis]
      have step : (count + 1) * width = count * width + width := Nat.succ_mul count width
      by_cases earlier : index < position + count * width
      · have before : ¬ (position + count * width ≤ index ∧
            index < position + count * width + width) := by omega
        rw [if_neg before, if_pos earlier, if_pos (by omega)]
      · by_cases current : index < position + count * width + width
        · have offset : count * width + (index - (position + count * width)) =
              index - position := by omega
          rw [if_pos ⟨by omega, current⟩, if_neg earlier, if_pos (by omega),
            read_wordAt _ _ _ _ (by omega), offset]
          exact UInt8.neg_one_and
        · rw [if_neg (fun both => current both.2), if_neg earlier, if_neg (by omega)]

/-- The words of some bytes cover them. -/
theorem length_le_wordCount
    {width : Nat}
    (positive : 0 < width)
    (length : Nat) :
    length ≤ wordCount width length * width := by
  have division := Nat.div_add_mod (length + width - 1) width
  have remainder := Nat.mod_lt (length + width - 1) positive
  rw [wordCount, Nat.mul_comm]
  omega

/-- Data programmed into an erased memory stand there. -/
theorem contents_programWords
    (width : Nat)
    (positive : 0 < width)
    (bytes : List UInt8)
    (position : Nat)
    (fits : position + bytes.length ≤ n) :
    contents (programWords width bytes position (erased n)) position bytes.length =
      bytes := by
  have enough := length_le_wordCount positive bytes.length
  apply List.ext_getElem
  · simp
  · intro index inside insideBytes
    rw [length_contents] at inside
    have read := read_programWords_loop width bytes position
      (wordCount width bytes.length) (position + index) (n := n) (by omega) (by omega)
    have same : bytes.getD index 0xFF = bytes[index] := by
      rw [List.getD_eq_getElem?_getD, List.getElem?_eq_getElem insideBytes, Option.getD_some]
    rw [if_pos (by omega), Nat.add_sub_cancel_left, same] at read
    simp only [contents, List.getElem_map, List.getElem_range]
    exact read

end FlashMemory
