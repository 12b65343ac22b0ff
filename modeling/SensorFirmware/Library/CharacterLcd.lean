import Mathlib.Data.List.Basic
import Mathlib.Logic.Function.Basic

/-!
# A character display controller

The controller of a character display takes instructions and characters over four data
lines.  With the interface set to four bits a byte takes two transfers, the high half
first; with the interface set to eight bits every transfer is an instruction whose low
half is zero.  The display data memory has a line from address 0 and one from address
0x40, each of forty cells.  Each instruction and each character takes its time, the
clearing of the display and the way home longer than the rest.
-/

/-- What a transfer finds on the lines: the register select line, high for a character,
and the upper four data lines. -/
structure LcdTransfer where
  select : Bool
  nibble : UInt8
  deriving DecidableEq

/-- The state of the controller. -/
structure CharacterLcd where
  eightBit : Bool
  /-- The first half of a byte that is not complete yet. -/
  high : Option UInt8
  twoLines : Bool
  increment : Bool
  /-- Each character shifts the display. -/
  shifting : Bool
  displayOn : Bool
  shift : Nat
  /-- The address is one of the character generator. -/
  inCharacters : Bool
  address : Nat
  cells : Nat → UInt8

/-- How long the controller takes: for clearing the display and the way home, and for
everything else. -/
structure LcdTimes where
  long : Nat
  ordinary : Nat
  deriving DecidableEq

namespace CharacterLcd

/-! ## Instructions and characters -/

/-- A blank. -/
def blank : UInt8 := 0x20

/-- The address behind one of the display data memory. -/
def forward (lcd : CharacterLcd) (address : Nat) : Nat :=
  if lcd.twoLines then
    if address = 0x27 then 0x40 else if address = 0x67 then 0 else address + 1
  else if address = 0x4F then 0 else address + 1

/-- The address before one of the display data memory. -/
def backward (lcd : CharacterLcd) (address : Nat) : Nat :=
  if lcd.twoLines then
    if address = 0x40 then 0x27 else if address = 0 then 0x67 else address - 1
  else if address = 0 then 0x4F else address - 1

/-- The address after a step in one direction or the other. -/
def stepped (lcd : CharacterLcd) (ahead : Bool) : Nat :=
  if lcd.inCharacters then (lcd.address + if ahead then 1 else 63) % 64
  else if ahead then lcd.forward lcd.address
  else lcd.backward lcd.address

/-- The offset of the display after a shift to one side or the other. -/
def shifted (lcd : CharacterLcd) (left : Bool) : Nat :=
  (lcd.shift + if left then 1 else 39) % 40

/-- An instruction, decoded by its leading one. -/
def execute (lcd : CharacterLcd) (instruction : UInt8) : CharacterLcd :=
  if 0x80 ≤ instruction then
    { lcd with address := (instruction &&& 0x7F).toNat, inCharacters := false }
  else if 0x40 ≤ instruction then
    { lcd with address := (instruction &&& 0x3F).toNat, inCharacters := true }
  else if 0x20 ≤ instruction then
    { lcd with
      eightBit := instruction &&& 0x10 ≠ 0
      twoLines := instruction &&& 0x08 ≠ 0 }
  else if 0x10 ≤ instruction then
    if instruction &&& 0x08 ≠ 0 then
      { lcd with shift := lcd.shifted (instruction &&& 0x04 = 0) }
    else { lcd with address := lcd.stepped (instruction &&& 0x04 ≠ 0) }
  else if 0x08 ≤ instruction then { lcd with displayOn := instruction &&& 0x04 ≠ 0 }
  else if 0x04 ≤ instruction then
    { lcd with
      increment := instruction &&& 0x02 ≠ 0
      shifting := instruction &&& 0x01 ≠ 0 }
  else if 0x02 ≤ instruction then
    { lcd with address := 0, inCharacters := false, shift := 0 }
  else if instruction = 0x01 then
    { lcd with
      cells := fun _ => blank
      address := 0
      inCharacters := false
      increment := true
      shift := 0 }
  else lcd

/-- A character, stored at the address unless that is one of the character generator. -/
def write (lcd : CharacterLcd) (character : UInt8) : CharacterLcd :=
  { lcd with
    cells :=
      if lcd.inCharacters then lcd.cells
      else Function.update lcd.cells lcd.address character
    address := lcd.stepped lcd.increment
    shift :=
      if lcd.shifting ∧ ¬ lcd.inCharacters then lcd.shifted lcd.increment else lcd.shift }

/-- A whole byte, by the register select line. -/
def perform (lcd : CharacterLcd) (select : Bool) (byte : UInt8) : CharacterLcd :=
  if select then lcd.write byte else lcd.execute byte

/-- One transfer. -/
def latch (lcd : CharacterLcd) (transfer : LcdTransfer) : CharacterLcd :=
  if lcd.eightBit then
    { lcd with high := none }.perform transfer.select (transfer.nibble <<< 4)
  else
    match lcd.high with
    | none => { lcd with high := some transfer.nibble }
    | some high =>
        { lcd with high := none }.perform transfer.select ((high <<< 4) ||| transfer.nibble)

/-- The time of a byte. -/
def byteTime (times : LcdTimes) (select : Bool) (byte : UInt8) : Nat :=
  if select then times.ordinary else if byte < 0x04 then times.long else times.ordinary

/-- The time that the controller is busy after a transfer. -/
def latchTime (times : LcdTimes) (lcd : CharacterLcd) (transfer : LcdTransfer) : Nat :=
  if lcd.eightBit then byteTime times transfer.select (transfer.nibble <<< 4)
  else
    match lcd.high with
    | none => 0
    | some high => byteTime times transfer.select ((high <<< 4) ||| transfer.nibble)

/-- Text over the contents of the memory. -/
def overlay (cells : Nat → UInt8) (address : Nat) (text : List UInt8) (position : Nat) :
    UInt8 :=
  if address ≤ position then (text[position - address]?).getD (cells position)
  else cells position

/-- The characters of a line that a display of so many columns shows. -/
def shown (lcd : CharacterLcd) (columns row : Nat) : List UInt8 :=
  (List.range columns).map fun column =>
    if lcd.displayOn then lcd.cells (0x40 * row + (column + lcd.shift) % 40) else blank

/-- The beginning of a line of the memory. -/
def line (cells : Nat → UInt8) (columns row : Nat) : List UInt8 :=
  (List.range columns).map fun column => cells (0x40 * row + column)

/-- Whole bytes, each with the register select line. -/
def performAll (lcd : CharacterLcd) (bytes : List (Bool × UInt8)) : CharacterLcd :=
  bytes.foldl (fun lcd byte => lcd.perform byte.1 byte.2) lcd

theorem performAll_append
    (lcd : CharacterLcd)
    (bytes others : List (Bool × UInt8)) :
    lcd.performAll (bytes ++ others) = (lcd.performAll bytes).performAll others :=
  List.foldl_append

/-! ## Bytes in step -/

/-- The next transfer is the first half of a byte. -/
structure Synchronized (lcd : CharacterLcd) : Prop where
  fourBit : lcd.eightBit = false
  complete : lcd.high = none

theorem perform_high
    (lcd : CharacterLcd)
    (select : Bool)
    (byte : UInt8) :
    (lcd.perform select byte).high = lcd.high := by
  cases select with
  | true => rfl
  | false =>
      simp only [perform, Bool.false_eq_true, if_false, execute]
      repeat' split
      all_goals rfl

/-- The halves make the byte. -/
theorem halves_byte (byte : UInt8) :
    ((byte >>> 4) <<< 4) ||| (byte &&& 0x0F) = byte := by
  have table : ∀ number : Fin 256, ((UInt8.ofNat number >>> 4) <<< 4) |||
      (UInt8.ofNat number &&& 0x0F) = UInt8.ofNat number := by decide +kernel
  have same := table ⟨byte.toNat, byte.toNat_lt⟩
  rwa [UInt8.ofNat_toNat] at same

namespace Synchronized

theorem latch_high
    {lcd : CharacterLcd}
    (synchronized : lcd.Synchronized)
    (select : Bool)
    (byte : UInt8) :
    lcd.latch { select := select, nibble := byte >>> 4 } =
      { lcd with high := some (byte >>> 4) } := by
  simp only [latch, synchronized.fourBit, synchronized.complete, Bool.false_eq_true,
    if_false]

theorem latchTime_high
    {lcd : CharacterLcd}
    (synchronized : lcd.Synchronized)
    (times : LcdTimes)
    (transfer : LcdTransfer) :
    lcd.latchTime times transfer = 0 := by
  simp only [latchTime, synchronized.fourBit, synchronized.complete, Bool.false_eq_true,
    if_false]

/-- The second transfer performs the byte. -/
theorem latch_low
    {lcd : CharacterLcd}
    (synchronized : lcd.Synchronized)
    (select : Bool)
    (byte : UInt8) :
    { lcd with high := some (byte >>> 4) }.latch
        { select := select, nibble := byte &&& 0x0F } =
      lcd.perform select byte := by
  obtain ⟨fourBit, complete⟩ := synchronized
  have whole : { lcd with high := none } = lcd := by rw [← complete]
  simp only [latch, fourBit, Bool.false_eq_true, if_false, halves_byte]
  rw [← fourBit, whole]

theorem latchTime_low
    {lcd : CharacterLcd}
    (synchronized : lcd.Synchronized)
    (times : LcdTimes)
    (select : Bool)
    (byte : UInt8) :
    latchTime times { lcd with high := some (byte >>> 4) }
        { select := select, nibble := byte &&& 0x0F } =
      byteTime times select byte := by
  simp only [latchTime, synchronized.fourBit, Bool.false_eq_true, if_false, halves_byte]

/-- Every byte that does not widen the interface keeps the transfers in step. -/
theorem perform
    {lcd : CharacterLcd}
    (synchronized : lcd.Synchronized)
    {select : Bool}
    {byte : UInt8}
    (narrow : (lcd.perform select byte).eightBit = false) :
    (lcd.perform select byte).Synchronized where
  fourBit := narrow
  complete := (lcd.perform_high select byte).trans synchronized.complete

end Synchronized

/-- Only a function set with the data length bit widens the interface. -/
theorem execute_eightBit
    {lcd : CharacterLcd}
    (fourBit : lcd.eightBit = false)
    {instruction : UInt8}
    (other : instruction < 0x30 ∨ 0x40 ≤ instruction) :
    (lcd.execute instruction).eightBit = false := by
  have table : ∀ number : Fin 256, 0x20 ≤ UInt8.ofNat number →
      UInt8.ofNat number < 0x30 ∨ 0x40 ≤ UInt8.ofNat number → ¬ 0x40 ≤ UInt8.ofNat number →
      decide (UInt8.ofNat number &&& 0x10 ≠ 0) = false := by decide +kernel
  have length := table ⟨instruction.toNat, instruction.toNat_lt⟩
  rw [UInt8.ofNat_toNat] at length
  rw [execute]
  split
  · exact fourBit
  · split
    · exact fourBit
    case isFalse below =>
      split
      case isTrue functionSet => exact length functionSet other below
      case isFalse =>
        repeat' split
        all_goals exact fourBit

/-! ## Into step from any state -/

/-- A transfer with the register select line low and 3 on the data lines. -/
def widen : LcdTransfer := { select := false, nibble := 3 }

/-- The interface is set to eight bits, or it is set to four bits and a half of a
widening instruction is pending at most. -/
def Widening (lcd : CharacterLcd) : Prop :=
  if lcd.eightBit then lcd.high = none else lcd.high = none ∨ lcd.high = some 3

/-- The interface is set to eight bits, or the next transfer sets it. -/
def NearlyWide (lcd : CharacterLcd) : Prop :=
  if lcd.eightBit then lcd.high = none else lcd.high = some 3

/-- The transfer that narrows the interface. -/
def narrow : LcdTransfer := { select := false, nibble := 2 }

theorem NearlyWide.widening
    {lcd : CharacterLcd}
    (nearlyWide : lcd.NearlyWide) :
    lcd.Widening := by
  rw [NearlyWide] at nearlyWide
  rw [Widening]
  split at nearlyWide
  case isTrue wide => rwa [if_pos wide]
  case isFalse fourBit =>
    rw [if_neg fourBit]
    exact Or.inr nearlyWide

theorem latch_wide
    {lcd : CharacterLcd}
    (wide : lcd.eightBit = true)
    (transfer : LcdTransfer) :
    lcd.latch transfer =
      { lcd with high := none }.perform transfer.select (transfer.nibble <<< 4) := by
  rw [latch, if_pos wide]

/-- The instruction that the transfer makes by itself or as both halves. -/
theorem execute_widen
    (lcd : CharacterLcd)
    {instruction : UInt8}
    (widening : instruction = 0x30 ∨ instruction = 0x33) :
    (lcd.execute instruction).eightBit = true := by
  rcases widening with rfl | rfl <;> rfl

/-- The transfer completes whatever was pending. -/
theorem widening_latch (lcd : CharacterLcd) : (lcd.latch widen).Widening := by
  cases width : lcd.eightBit with
  | true =>
      rw [latch_wide width, Widening, perform_high]
      simp
  | false =>
      cases pending : lcd.high with
      | none =>
          simp only [latch, width, pending, Bool.false_eq_true, if_false, Widening]
          exact Or.inr rfl
      | some high =>
          simp only [latch, width, pending, Bool.false_eq_true, if_false, Widening,
            perform_high]
          simp

theorem Widening.latch
    {lcd : CharacterLcd}
    (widening : lcd.Widening) :
    (lcd.latch widen).NearlyWide := by
  cases width : lcd.eightBit with
  | true =>
      have wide := execute_widen { lcd with high := none } (Or.inl rfl)
      rw [latch_wide width, NearlyWide]
      exact (if_pos wide).mpr (perform_high _ _ _)
  | false =>
      rw [Widening, width] at widening
      rcases widening with pending | pending
      · simp only [CharacterLcd.latch, width, pending, Bool.false_eq_true, if_false,
          NearlyWide]
        rfl
      · have wide := execute_widen { lcd with high := none } (Or.inr rfl)
        simp only [CharacterLcd.latch, width, pending, Bool.false_eq_true, if_false]
        exact (if_pos wide).mpr (perform_high _ _ _)

theorem NearlyWide.latch
    {lcd : CharacterLcd}
    (nearlyWide : lcd.NearlyWide) :
    (lcd.latch widen).eightBit = true ∧ (lcd.latch widen).high = none := by
  cases width : lcd.eightBit with
  | true =>
      rw [latch_wide width]
      exact ⟨execute_widen _ (Or.inl rfl), perform_high _ _ _⟩
  | false =>
      rw [NearlyWide, width] at nearlyWide
      have pending : lcd.high = some 3 := nearlyWide
      simp only [CharacterLcd.latch, width, pending, Bool.false_eq_true, if_false]
      exact ⟨execute_widen _ (Or.inr rfl), perform_high _ _ _⟩

theorem synchronized_latch
    {lcd : CharacterLcd}
    (wide : lcd.eightBit = true) :
    (lcd.latch narrow).Synchronized := by
  rw [latch_wide wide]
  exact ⟨rfl, perform_high _ _ _⟩

theorem byteTime_le
    {times : LcdTimes}
    {bound : Nat}
    (long : times.long ≤ bound)
    (ordinary : times.ordinary ≤ bound)
    (select : Bool)
    (byte : UInt8) :
    byteTime times select byte ≤ bound := by
  rw [byteTime]
  split
  · exact ordinary
  · split
    · exact long
    · exact ordinary

theorem latchTime_le
    {times : LcdTimes}
    {bound : Nat}
    (long : times.long ≤ bound)
    (ordinary : times.ordinary ≤ bound)
    (lcd : CharacterLcd)
    (transfer : LcdTransfer) :
    lcd.latchTime times transfer ≤ bound := by
  rw [latchTime]
  split
  · exact byteTime_le long ordinary _ _
  · split
    · exact Nat.zero_le _
    · exact byteTime_le long ordinary _ _

/-- The narrowing transfer is an ordinary instruction of a wide interface. -/
theorem latchTime_wide
    {lcd : CharacterLcd}
    (wide : lcd.eightBit = true)
    (times : LcdTimes) :
    lcd.latchTime times narrow = times.ordinary := by
  rw [latchTime, if_pos wide]
  rfl

/-- Behind the first transfer the others take no more than an ordinary instruction. -/
theorem Widening.latchTime_le
    {lcd : CharacterLcd}
    (widening : lcd.Widening)
    (times : LcdTimes) :
    lcd.latchTime times widen ≤ times.ordinary := by
  cases width : lcd.eightBit with
  | true =>
      rw [latchTime, if_pos width]
      exact Nat.le_refl _
  | false =>
      rw [Widening, width] at widening
      rcases widening with pending | pending
      · simp only [latchTime, width, pending, Bool.false_eq_true, if_false]
        exact Nat.zero_le _
      · simp only [latchTime, width, pending, Bool.false_eq_true, if_false]
        exact Nat.le_refl _

/-! ## Text -/

/-- The controller takes bytes in halves and writes from left to right over two lines
that do not move. -/
structure Ready (lcd : CharacterLcd) : Prop extends lcd.Synchronized where
  twoLines : lcd.twoLines = true
  increment : lcd.increment = true
  still : lcd.shifting = false
  displayOn : lcd.displayOn = true
  home : lcd.shift = 0

theorem overlay_nil
    (cells : Nat → UInt8)
    (address : Nat) :
    overlay cells address [] = cells := by
  funext position
  simp [overlay]

/-- The first character goes to the address and the others behind it. -/
theorem overlay_cons
    (cells : Nat → UInt8)
    (address : Nat)
    (character : UInt8)
    (text : List UInt8) :
    overlay (Function.update cells address character) (address + 1) text =
      overlay cells address (character :: text) := by
  funext position
  simp only [overlay]
  rcases Nat.lt_trichotomy position address with before | rfl | behind
  · rw [if_neg (by omega), if_neg (by omega), Function.update_of_ne (by omega)]
  · rw [if_neg (by omega), if_pos (Nat.le_refl _), Function.update_self, Nat.sub_self]
    rfl
  · obtain ⟨distance, rfl⟩ := Nat.exists_eq_add_of_lt behind
    rw [if_pos (by omega), if_pos (by omega), Function.update_of_ne (by omega),
      show address + distance + 1 - (address + 1) = distance by omega,
      show address + distance + 1 - address = distance + 1 by omega,
      List.getElem?_cons_succ]

/-- Text that stays on its line is laid over it. -/
theorem Ready.foldl_write
    {lcd : CharacterLcd}
    (ready : lcd.Ready)
    (inDisplay : lcd.inCharacters = false)
    (text : List UInt8)
    (inside : lcd.address % 0x40 + text.length < 40) :
    text.foldl write lcd =
      { lcd with
        cells := overlay lcd.cells lcd.address text
        address := lcd.address + text.length } := by
  induction text generalizing lcd with
  | nil => rw [overlay_nil]; rfl
  | cons character text inductionHypothesis =>
      rw [List.length_cons] at inside
      have onward : lcd.stepped true = lcd.address + 1 := by
        rw [stepped, inDisplay, forward, ready.twoLines]
        simp only [Bool.false_eq_true, if_false, if_true]
        rw [if_neg (by omega), if_neg (by omega)]
      have first : lcd.write character =
          { lcd with
            cells := Function.update lcd.cells lcd.address character
            address := lcd.address + 1 } := by
        simp only [write, ready.increment, ready.still, inDisplay, onward,
          Bool.false_eq_true, if_false, false_and]
      rw [List.foldl_cons, first, inductionHypothesis]
      · simp only [overlay_cons, List.length_cons, Nat.add_right_comm, Nat.add_assoc]
      · exact
          { fourBit := ready.fourBit
            complete := ready.complete
            twoLines := ready.twoLines
            increment := ready.increment
            still := ready.still
            displayOn := ready.displayOn
            home := ready.home }
      · exact inDisplay
      · simp only
        omega

theorem Ready.shown_eq
    {lcd : CharacterLcd}
    (ready : lcd.Ready)
    {columns : Nat}
    (narrow : columns ≤ 40)
    (row : Nat) :
    lcd.shown columns row = line lcd.cells columns row := by
  apply List.map_congr_left
  intro column listed
  have inside : column < 40 := Nat.lt_of_lt_of_le (List.mem_range.mp listed) narrow
  rw [if_pos ready.displayOn, ready.home, Nat.add_zero, Nat.mod_eq_of_lt inside]

/-- Text from the start of a line covers what the line held there. -/
theorem line_overlay
    (cells : Nat → UInt8)
    {columns : Nat}
    (row : Nat)
    {text : List UInt8}
    (inside : text.length ≤ columns) :
    line (overlay cells (0x40 * row) text) columns row =
      text ++ (line cells columns row).drop text.length := by
  apply List.ext_getElem
  · simp [line, inside]
  · intro column _ _
    simp only [line, List.getElem_map, List.getElem_range, List.getElem_append,
      List.getElem_drop, overlay, Nat.le_add_right, if_true, Nat.add_sub_cancel_left]
    split
    case isTrue covered => rw [List.getElem?_eq_getElem covered, Option.getD_some]
    case isFalse behind =>
      rw [List.getElem?_eq_none (Nat.not_lt.mp behind), Option.getD_none,
        Nat.add_sub_cancel' (Nat.not_lt.mp behind)]

/-- Text on the other line covers nothing. -/
theorem line_overlay_other
    (cells : Nat → UInt8)
    {columns address row : Nat}
    {text : List UInt8}
    (outside : 0x40 * row + columns ≤ address ∨ address + text.length ≤ 0x40 * row) :
    line (overlay cells address text) columns row = line cells columns row := by
  apply List.map_congr_left
  intro column listed
  have inside : column < columns := List.mem_range.mp listed
  rw [overlay]
  split
  · rw [List.getElem?_eq_none (by omega), Option.getD_none]
  · rfl

end CharacterLcd
