import SensorFirmware.Library.CharacterLcd
import SensorFirmware.Drivers.Delays
import SensorFirmware.Drivers.LcdDisplay

/-!
# The display on its lines

`LcdDisplay` drives a character display through the set and reset registers of two
ports: four data lines, the register select line, the write line and the enable line.
The display takes what the lines carry when the enable line falls, and is busy afterwards.
The driver does not ask it, but waits: a delay counts for what it lasts at least.
-/

namespace SensorFirmware

/-- What the driver does to the display: writes to `GPIOC->BSRR` and `GPIOB->BSRR`, and
the delays. -/
inductive PortEvent
  | gpioC (bsrr : UInt32)
  | gpioB (bsrr : UInt32)
  | delayUs (us : Nat)
  | delayMs (ms : Nat)
  deriving DecidableEq

/-! ## The code -/

namespace LcdDisplay

def rsHigh : PortEvent := .gpioC 0x00000002

def rsLow : PortEvent := .gpioC 0x00020000

def rwLow : PortEvent := .gpioC 0x00010000

def eHigh : PortEvent := .gpioC 0x00000004

def eLow : PortEvent := .gpioC 0x00040000

def backlightHigh : PortEvent := .gpioC 0x00000008

/-- The set bit of a pin for a one and its reset bit for a zero. -/
def bsrrBit (level : Bool) (pin : UInt32) : UInt32 :=
  if level then 1 <<< pin else 1 <<< (pin + 16)

/-- `gpioCBsrrValue` of `writeDb4To7`: DB4 is PC14, DB5 is PC15 and DB7 is PC13. -/
def gpioCBsrrValue (nibble : UInt8) : UInt32 :=
  0 ||| bsrrBit (nibble &&& 0x01 ≠ 0) 14 ||| bsrrBit (nibble &&& 0x02 ≠ 0) 15 |||
    bsrrBit (nibble &&& 0x08 ≠ 0) 13

/-- `gpioBBsrrValue` of `writeDb4To7`: DB6 is PB8. -/
def gpioBBsrrValue (nibble : UInt8) : UInt32 :=
  0 ||| bsrrBit (nibble &&& 0x04 ≠ 0) 8

def writeDb4To7 (nibble : UInt8) : List PortEvent :=
  [.gpioC (gpioCBsrrValue nibble), .gpioB (gpioBBsrrValue nibble)]

def send4 (nibble : UInt8) : List PortEvent :=
  writeDb4To7 (nibble &&& 0x0F) ++ [.delayUs 1, eHigh, .delayUs 5, eLow, .delayUs 5]

def command (cmd : UInt8) : List PortEvent :=
  [rsLow, rwLow] ++ send4 (cmd >>> 4) ++ send4 (cmd &&& 0x0F) ++
    [if cmd ≤ 0x02 then .delayMs 2 else .delayUs 50]

def data (value : UInt8) : List PortEvent :=
  [rsHigh, rwLow] ++ send4 (value >>> 4) ++ send4 (value &&& 0x0F) ++ [.delayUs 50]

def clear : List PortEvent := command 0x01 ++ [.delayMs 2]

def setCursor (row column : UInt8) : List PortEvent :=
  command (if row = 0 then 0x80 + column else 0xC0 + column)

def writeChar (c : UInt8) : List PortEvent := data c

def createChar (location : UInt8) : Option (Vector UInt8 8) → List PortEvent
  | none => []
  | some charmap =>
      command ((0x40 : UInt8) ||| ((location &&& 0x07) <<< 3)) ++ charmap.toList.flatMap data

end LcdDisplay

/-- The calls of the driver.  A null pointer is `none`, and the local array of `writeFixed`
starts with arbitrary contents. -/
inductive LcdOperation
  | clear
  | setCursor (row column : UInt8)
  | writeChar (c : UInt8)
  | writeString (text : Option (List UInt8))
  | createChar (location : UInt8) (charmap : Option (Vector UInt8 8))
  | writeFixed (garbage : Vector UInt8 12) (value : Int32) (fracDigits : UInt8)

/-- The bytes of a call, each with the register select line. -/
def LcdOperation.bytes : LcdOperation → List (Bool × UInt8)
  | .clear => [(false, 0x01)]
  | .setCursor row column => [(false, if row = 0 then 0x80 + column else 0xC0 + column)]
  | .writeChar c => [(true, c)]
  | .writeString none => []
  | .writeString (some text) => (LcdDisplay.writeString text).map fun c => (true, c)
  | .createChar _ none => []
  | .createChar location (some charmap) =>
      (false, (0x40 : UInt8) ||| ((location &&& 0x07) <<< 3)) ::
        charmap.toList.map fun row => (true, row)
  | .writeFixed _ value fracDigits =>
      (LcdDisplay.fixedText value.toInt (min fracDigits.toNat 9)).map fun c => (true, c)

/-- The column does not overflow the address of its line. -/
def LcdOperation.InLine : LcdOperation → Prop
  | .setCursor row column => if row = 0 then column < 0x80 else column < 0x40
  | _ => True

namespace LcdDisplay

/-- What a call does to the display. -/
def events (display : LcdDisplay) : LcdOperation → List PortEvent
  | .clear => clear
  | .setCursor row column => setCursor row column
  | .writeChar c => writeChar c
  | .writeString none => []
  | .writeString (some text) => (writeString text).flatMap data
  | .createChar location charmap => createChar location charmap
  | .writeFixed garbage value fracDigits =>
      (display.writeFixed garbage value fracDigits).2.flatMap data

/-- The driver after a call: only `writeFixed` touches `finalBuffer_`. -/
def after (display : LcdDisplay) : LcdOperation → LcdDisplay
  | .writeFixed garbage value fracDigits => (display.writeFixed garbage value fracDigits).1
  | _ => display

/-- What a sequence of calls does to the display. -/
def allEvents : LcdDisplay → List LcdOperation → List PortEvent
  | _, [] => []
  | display, operation :: operations =>
      display.events operation ++ (display.after operation).allEvents operations

end LcdDisplay

/-- `LcdDisplay::initialize`, behind the settings of the ports. -/
def LcdDisplay.initialize : List PortEvent :=
  [.delayMs 60, rwLow, rsLow, eLow, backlightHigh] ++
    send4 0x03 ++ [.delayMs 5] ++
    send4 0x03 ++ [.delayUs 200] ++
    send4 0x03 ++ [.delayUs 200] ++
    send4 0x02 ++ [.delayMs 2] ++
    command 0x28 ++ command 0x08 ++ command 0x01 ++ [.delayMs 2] ++
    command 0x06 ++ command 0x0C ++ [.delayMs 2]

/-! ## The lines -/

/-- The levels of the pins and the controller behind them. -/
structure LcdBoard where
  gpioC : Fin 16 → Bool
  gpioB : Fin 16 → Bool
  controller : CharacterLcd
  /-- The microseconds that the controller is still busy for. -/
  busy : Nat
  /-- A transfer began while the controller was busy. -/
  missed : Bool

namespace LcdBoard

/-- The levels of a port after a write to `BSRR`, where the set bits win. -/
def levels (port : Fin 16 → Bool) (bsrr : UInt32) (pin : Fin 16) : Bool :=
  if bsrr.toNat.testBit pin then true
  else if bsrr.toNat.testBit (pin + 16) then false
  else port pin

/-- The value of four data lines. -/
def nibble (db4 db5 db6 db7 : Bool) : UInt8 :=
  (if db4 then 0x01 else 0) ||| (if db5 then 0x02 else 0) ||| (if db6 then 0x04 else 0) |||
    (if db7 then 0x08 else 0)

/-- What the lines carry. -/
def transfer (board : LcdBoard) : LcdTransfer where
  select := board.gpioC 1
  nibble := nibble (board.gpioC 14) (board.gpioC 15) (board.gpioB 8) (board.gpioC 13)

/-- A write to the port of the control lines: the enable line starts a transfer when it
rises and ends it when it falls with the write line low. -/
def writeGpioC (times : LcdTimes) (board : LcdBoard) (bsrr : UInt32) : LcdBoard :=
  let after := levels board.gpioC bsrr
  if !board.gpioC 2 && after 2 then
    { board with gpioC := after, missed := board.missed || board.busy ≠ 0 }
  else if board.gpioC 2 && !after 2 && !board.gpioC 0 then
    { board with
      gpioC := after
      controller := board.controller.latch board.transfer
      busy := board.controller.latchTime times board.transfer }
  else { board with gpioC := after }

def step (times : LcdTimes) (board : LcdBoard) : PortEvent → LcdBoard
  | .gpioC bsrr => board.writeGpioC times bsrr
  | .gpioB bsrr => { board with gpioB := levels board.gpioB bsrr }
  | .delayUs us => { board with busy := board.busy - DelayTimer.leastUs us }
  | .delayMs ms => { board with busy := board.busy - DelayTimer.leastMs ms }

def run (times : LcdTimes) (board : LcdBoard) (events : List PortEvent) : LcdBoard :=
  events.foldl (step times) board

theorem run_append
    (times : LcdTimes)
    (board : LcdBoard)
    (events later : List PortEvent) :
    board.run times (events ++ later) = (board.run times events).run times later :=
  List.foldl_append

/-! ## A transfer -/

/-- Between transfers. -/
structure Idle (board : LcdBoard) : Prop where
  enable : board.gpioC 2 = false
  write : board.gpioC 0 = false
  missed : board.missed = false

/-- The data lines leave the control lines alone. -/
theorem levels_gpioCBsrrValue
    (port : Fin 16 → Bool)
    (nibble : UInt8)
    {pin : Fin 16}
    (control : pin < 3) :
    levels port (LcdDisplay.gpioCBsrrValue nibble) pin = port pin := by
  have table : ∀ (db4 db5 db7 : Bool) (pin : Fin 16), pin < 3 →
      (0 ||| LcdDisplay.bsrrBit db4 14 ||| LcdDisplay.bsrrBit db5 15 |||
        LcdDisplay.bsrrBit db7 13).toNat.testBit pin = false ∧
      (0 ||| LcdDisplay.bsrrBit db4 14 ||| LcdDisplay.bsrrBit db5 15 |||
        LcdDisplay.bsrrBit db7 13).toNat.testBit (pin + 16) = false := by
    decide +kernel
  obtain ⟨set, reset⟩ := table (nibble &&& 0x01 ≠ 0) (nibble &&& 0x02 ≠ 0)
    (nibble &&& 0x08 ≠ 0) pin control
  rw [levels, LcdDisplay.gpioCBsrrValue, set, reset]
  rfl

/-- The data lines carry the nibble. -/
theorem nibble_levels
    (portC portB : Fin 16 → Bool)
    (value : UInt8) :
    nibble (levels portC (LcdDisplay.gpioCBsrrValue value) 14)
        (levels portC (LcdDisplay.gpioCBsrrValue value) 15)
        (levels portB (LcdDisplay.gpioBBsrrValue value) 8)
        (levels portC (LcdDisplay.gpioCBsrrValue value) 13) =
      value &&& 0x0F := by
  have lines : ∀ db4 db5 db6 db7 : Bool,
      levels portC (0 ||| LcdDisplay.bsrrBit db4 14 ||| LcdDisplay.bsrrBit db5 15 |||
          LcdDisplay.bsrrBit db7 13) 14 = db4 ∧
        levels portC (0 ||| LcdDisplay.bsrrBit db4 14 ||| LcdDisplay.bsrrBit db5 15 |||
          LcdDisplay.bsrrBit db7 13) 15 = db5 ∧
        levels portB (0 ||| LcdDisplay.bsrrBit db6 8) 8 = db6 ∧
        levels portC (0 ||| LcdDisplay.bsrrBit db4 14 ||| LcdDisplay.bsrrBit db5 15 |||
          LcdDisplay.bsrrBit db7 13) 13 = db7 := by
    intro db4 db5 db6 db7
    cases db4 <;> cases db5 <;> cases db6 <;> cases db7 <;> exact ⟨rfl, rfl, rfl, rfl⟩
  have bits : ∀ number : Fin 256,
      nibble (UInt8.ofNat number &&& 0x01 ≠ 0) (UInt8.ofNat number &&& 0x02 ≠ 0)
          (UInt8.ofNat number &&& 0x04 ≠ 0) (UInt8.ofNat number &&& 0x08 ≠ 0) =
        UInt8.ofNat number &&& 0x0F := by decide +kernel
  have same := bits ⟨value.toNat, value.toNat_lt⟩
  rw [UInt8.ofNat_toNat] at same
  obtain ⟨line4, line5, line6, line7⟩ := lines (value &&& 0x01 ≠ 0) (value &&& 0x02 ≠ 0)
    (value &&& 0x04 ≠ 0) (value &&& 0x08 ≠ 0)
  rw [LcdDisplay.gpioCBsrrValue, LcdDisplay.gpioBBsrrValue, line4, line5, line6, line7, same]

theorem levels_single
    (port : Fin 16 → Bool)
    {bsrr : UInt32}
    {line : Fin 16}
    {level : Bool}
    (bits : ∀ pin : Fin 16, bsrr.toNat.testBit pin = (decide (pin = line) && level) ∧
      bsrr.toNat.testBit (pin + 16) = (decide (pin = line) && !level)) :
    levels port bsrr = Function.update port line level := by
  funext pin
  obtain ⟨set, reset⟩ := bits pin
  rw [levels, set, reset]
  by_cases same : pin = line
  · subst same
    cases level <;> simp
  · rw [Function.update_of_ne same]
    simp [same]

@[simp] theorem levels_rsHigh (port : Fin 16 → Bool) :
    levels port 0x00000002 = Function.update port 1 true :=
  levels_single port (by decide)

@[simp] theorem levels_rsLow (port : Fin 16 → Bool) :
    levels port 0x00020000 = Function.update port 1 false :=
  levels_single port (by decide)

@[simp] theorem levels_rwLow (port : Fin 16 → Bool) :
    levels port 0x00010000 = Function.update port 0 false :=
  levels_single port (by decide)

@[simp] theorem levels_eHigh (port : Fin 16 → Bool) :
    levels port 0x00000004 = Function.update port 2 true :=
  levels_single port (by decide)

@[simp] theorem levels_eLow (port : Fin 16 → Bool) :
    levels port 0x00040000 = Function.update port 2 false :=
  levels_single port (by decide)

@[simp] theorem levels_backlightHigh (port : Fin 16 → Bool) :
    levels port 0x00000008 = Function.update port 3 true :=
  levels_single port (by decide)

/-- A write that leaves the enable line alone only sets levels. -/
theorem writeGpioC_quiet
    {times : LcdTimes}
    {board : LcdBoard}
    {bsrr : UInt32}
    (quiet : levels board.gpioC bsrr 2 = board.gpioC 2) :
    board.writeGpioC times bsrr = { board with gpioC := levels board.gpioC bsrr } := by
  simp only [writeGpioC, quiet]
  cases board.gpioC 2 <;> rfl

theorem writeGpioC_eHigh
    {board : LcdBoard}
    (enable : board.gpioC 2 = false)
    (times : LcdTimes) :
    board.writeGpioC times 0x00000004 =
      { board with
        gpioC := Function.update board.gpioC 2 true
        missed := board.missed || board.busy ≠ 0 } := by
  simp [writeGpioC, enable]

theorem writeGpioC_eLow
    {board : LcdBoard}
    (enable : board.gpioC 2 = true)
    (write : board.gpioC 0 = false)
    (times : LcdTimes) :
    board.writeGpioC times 0x00040000 =
      { board with
        gpioC := Function.update board.gpioC 2 false
        controller := board.controller.latch board.transfer
        busy := board.controller.latchTime times board.transfer } := by
  simp [writeGpioC, enable, write]

/-- What a nibble does to the board. -/
structure Transferred (times : LcdTimes) (before : LcdBoard) (nibble : UInt8)
    (after : LcdBoard) : Prop where
  idle : after.Idle
  select : after.gpioC 1 = before.gpioC 1
  controller :
    after.controller =
      before.controller.latch { select := before.gpioC 1, nibble := nibble }
  busy :
    after.busy =
      before.controller.latchTime times { select := before.gpioC 1, nibble := nibble } -
        DelayTimer.leastUs 5

/-- The controller latches the nibble once. -/
theorem Idle.send4
    {board : LcdBoard}
    (idle : board.Idle)
    (free : board.busy = 0)
    (times : LcdTimes)
    (nibble : UInt8) :
    Transferred times board (nibble &&& 0x0F) (board.run times (LcdDisplay.send4 nibble)) := by
  obtain ⟨enable, write, missed⟩ := idle
  have carried := nibble_levels board.gpioC board.gpioB (nibble &&& 0x0F)
  have masked : nibble &&& 0x0F &&& 0x0F = nibble &&& 0x0F := by
    rw [UInt8.and_assoc]
    rfl
  rw [masked] at carried
  generalize driven : levels board.gpioC (LcdDisplay.gpioCBsrrValue (nibble &&& 0x0F)) = lines
    at carried
  generalize drivenB : levels board.gpioB (LcdDisplay.gpioBBsrrValue (nibble &&& 0x0F)) = db6
    at carried
  have control : ∀ pin : Fin 16, pin < 3 → lines pin = board.gpioC pin := by
    intro pin low
    rw [← driven, levels_gpioCBsrrValue _ _ low]
  have first : board.writeGpioC times (LcdDisplay.gpioCBsrrValue (nibble &&& 0x0F)) =
      { board with gpioC := lines } := by
    rw [writeGpioC_quiet, driven]
    rw [driven, control 2 (by decide)]
  have low : lines 2 = false := (control 2 (by decide)).trans enable
  have writing : lines 0 = false := (control 0 (by decide)).trans write
  have selected : lines 1 = board.gpioC 1 := control 1 (by decide)
  have sent : ({ board with
        gpioC := Function.update lines 2 true
        gpioB := db6
        busy := 0
        missed := false } : LcdBoard).transfer =
      { select := board.gpioC 1, nibble := nibble &&& 0x0F } := by
    rw [← carried, ← selected]
    rfl
  simp only [run, LcdDisplay.send4, LcdDisplay.writeDb4To7, LcdDisplay.eHigh,
    LcdDisplay.eLow, List.foldl_append, List.foldl_cons, List.foldl_nil, step, first, drivenB]
  rw [writeGpioC_eHigh low]
  simp only [free, missed, ne_eq, not_true, decide_false, Bool.or_false, Nat.zero_sub]
  rw [writeGpioC_eLow rfl writing, sent]
  exact
    { idle := ⟨rfl, writing, rfl⟩
      select := selected
      controller := rfl
      busy := rfl }

/-! ## Bytes -/

/-- What the operations leave: the controller waits for the first half of a byte. -/
structure Settled (board : LcdBoard) : Prop extends board.Idle where
  synchronized : board.controller.Synchronized
  free : board.busy = 0

theorem halves_masked (byte : UInt8) :
    (byte >>> 4) &&& (0x0F : UInt8) = byte >>> 4 ∧ byte &&& 0x0F &&& 0x0F = byte &&& 0x0F := by
  have table : ∀ number : Fin 256,
      (UInt8.ofNat number >>> 4) &&& (0x0F : UInt8) = UInt8.ofNat number >>> 4 ∧
        UInt8.ofNat number &&& 0x0F &&& 0x0F = UInt8.ofNat number &&& 0x0F := by
    decide +kernel
  have same := table ⟨byte.toNat, byte.toNat_lt⟩
  rwa [UInt8.ofNat_toNat] at same

/-- Both halves of a byte, and the wait behind them. -/
theorem Settled.byte
    {board : LcdBoard}
    (settled : board.Settled)
    {times : LcdTimes}
    {byte : UInt8}
    (narrow : (board.controller.perform (board.gpioC 1) byte).eightBit = false)
    {wait : List PortEvent}
    {duration : Nat}
    (waits : ∀ board : LcdBoard, board.run times wait =
      { board with busy := board.busy - duration })
    (long : CharacterLcd.byteTime times (board.gpioC 1) byte ≤ duration) :
    let after := board.run times
      (LcdDisplay.send4 (byte >>> 4) ++ LcdDisplay.send4 (byte &&& 0x0F) ++ wait)
    after.Settled ∧ after.controller = board.controller.perform (board.gpioC 1) byte := by
  intro after
  obtain ⟨highHalf, lowHalf⟩ := halves_masked byte
  have high := settled.toIdle.send4 settled.free times (byte >>> 4)
  rw [highHalf] at high
  have pending : (board.run times (LcdDisplay.send4 (byte >>> 4))).controller =
      { board.controller with high := some (byte >>> 4) } := by
    rw [high.controller, settled.synchronized.latch_high]
  have low := high.idle.send4
    (by rw [high.busy, settled.synchronized.latchTime_high, Nat.zero_sub]) times
    (byte &&& 0x0F)
  rw [lowHalf] at low
  have performed := low.controller
  have busy := low.busy
  rw [high.select, pending, settled.synchronized.latch_low] at performed
  rw [high.select, pending, settled.synchronized.latchTime_low] at busy
  have ended : after =
      { (board.run times (LcdDisplay.send4 (byte >>> 4))).run times
          (LcdDisplay.send4 (byte &&& 0x0F)) with busy := 0 } := by
    rw [show after = _ from run_append .., run_append]
    exact (waits _).trans (by rw [busy, Nat.sub_eq_zero_of_le (by omega)])
  rw [ended]
  exact
    ⟨{ enable := low.idle.enable
       write := low.idle.write
       missed := low.idle.missed
       synchronized := performed ▸ settled.synchronized.perform narrow
       free := rfl }, performed⟩

/-- The line of the register select and the write line, ahead of a byte. -/
theorem Settled.select
    {board : LcdBoard}
    (settled : board.Settled)
    (times : LcdTimes)
    (select : Bool) :
    let after :=
      board.run times [if select then LcdDisplay.rsHigh else LcdDisplay.rsLow, LcdDisplay.rwLow]
    after.Settled ∧ after.gpioC 1 = select ∧ after.controller = board.controller := by
  intro after
  have lines : after =
      { board with
        gpioC := Function.update (Function.update board.gpioC 1 select) 0 false } := by
    have first : board.step times (if select then LcdDisplay.rsHigh else LcdDisplay.rsLow) =
        { board with gpioC := Function.update board.gpioC 1 select } := by
      cases select
      · exact (writeGpioC_quiet (by simp)).trans (by rw [levels_rsLow])
      · exact (writeGpioC_quiet (by simp)).trans (by rw [levels_rsHigh])
    simp only [after, run, List.foldl_cons, List.foldl_nil]
    rw [first, LcdDisplay.rwLow, step, writeGpioC_quiet (by simp), levels_rwLow]
  rw [lines]
  exact
    ⟨{ enable := settled.enable
       write := rfl
       missed := settled.missed
       synchronized := settled.synchronized
       free := settled.free }, rfl, rfl⟩

/-- The events bring whole bytes to the controller, from every settled board. -/
def Performs (times : LcdTimes) (events : List PortEvent) (bytes : List (Bool × UInt8)) :
    Prop :=
  ∀ board : LcdBoard, board.Settled →
    (board.run times events).Settled ∧
      (board.run times events).controller = board.controller.performAll bytes

theorem Performs.nil (times : LcdTimes) : Performs times [] [] :=
  fun _ settled => ⟨settled, rfl⟩

theorem Performs.append
    {times : LcdTimes}
    {events later : List PortEvent}
    {bytes others : List (Bool × UInt8)}
    (first : Performs times events bytes)
    (second : Performs times later others) :
    Performs times (events ++ later) (bytes ++ others) := by
  intro board settled
  obtain ⟨between, performed⟩ := first board settled
  obtain ⟨after, whole⟩ := second _ between
  rw [run_append]
  refine ⟨after, ?_⟩
  rw [whole, performed, CharacterLcd.performAll_append]

/-- A list of parts. -/
theorem Performs.flatMap
    {times : LcdTimes}
    {α : Type}
    {events : α → List PortEvent}
    {bytes : α → List (Bool × UInt8)}
    {parts : List α}
    (each : ∀ part ∈ parts, Performs times (events part) (bytes part)) :
    Performs times (parts.flatMap events) (parts.flatMap bytes) := by
  induction parts with
  | nil => exact Performs.nil times
  | cons part parts inductionHypothesis =>
      rw [List.flatMap_cons, List.flatMap_cons]
      exact (each part List.mem_cons_self).append
        (inductionHypothesis fun other listed => each other (List.mem_cons_of_mem _ listed))

/-- A wait. -/
theorem Performs.wait
    {times : LcdTimes}
    {wait : List PortEvent}
    (duration : Nat)
    (waits : ∀ board : LcdBoard, board.run times wait =
      { board with busy := board.busy - duration }) :
    Performs times wait [] := by
  intro board settled
  have same : board.run times wait = board := by
    refine (waits board).trans ?_
    rw [settled.free, Nat.zero_sub, ← settled.free]
  rw [same]
  exact ⟨settled, rfl⟩

/-- `command` and `data` differ in the register select line and the wait. -/
theorem Performs.byte
    {times : LcdTimes}
    (select : Bool)
    (byte : UInt8)
    (narrow : ∀ lcd : CharacterLcd, lcd.eightBit = false →
      (lcd.perform select byte).eightBit = false)
    {wait : List PortEvent}
    (duration : Nat)
    (waits : ∀ board : LcdBoard, board.run times wait =
      { board with busy := board.busy - duration })
    (long : CharacterLcd.byteTime times select byte ≤ duration) :
    Performs times
      ([if select then LcdDisplay.rsHigh else LcdDisplay.rsLow, LcdDisplay.rwLow] ++
        LcdDisplay.send4 (byte >>> 4) ++ LcdDisplay.send4 (byte &&& 0x0F) ++ wait)
      [(select, byte)] := by
  intro board settled
  obtain ⟨selected, line, same⟩ := settled.select times select
  have sent := selected.byte (by
    rw [line]
    exact narrow _ selected.synchronized.fourBit) waits (by rwa [line])
  rw [line, same] at sent
  rw [List.append_assoc, List.append_assoc, run_append, ← List.append_assoc]
  exact sent

/-! ## Operations -/

/-- The waits of the driver are long enough for the controller. -/
structure Fits (times : LcdTimes) : Prop where
  long : times.long ≤ 2000
  ordinary : times.ordinary ≤ 49

theorem Fits.command
    {times : LcdTimes}
    (fits : Fits times)
    {cmd : UInt8}
    (narrow : cmd < 0x30 ∨ 0x40 ≤ cmd)
    (short : 0x04 ≤ cmd) :
    Performs times (LcdDisplay.command cmd) [(false, cmd)] := by
  have keeps : ∀ lcd : CharacterLcd, lcd.eightBit = false →
      (lcd.perform false cmd).eightBit = false :=
    fun _ fourBit => CharacterLcd.execute_eightBit fourBit narrow
  have ordinary : CharacterLcd.byteTime times false cmd = times.ordinary :=
    if_neg (UInt8.not_lt.mpr short)
  have above : ¬ cmd ≤ 0x02 := UInt8.not_le.mpr (UInt8.lt_of_lt_of_le (by decide) short)
  rw [LcdDisplay.command, if_neg above]
  exact Performs.byte false cmd keeps 49 (fun _ => rfl) (ordinary ▸ fits.ordinary)

theorem Fits.data
    {times : LcdTimes}
    (fits : Fits times)
    (value : UInt8) :
    Performs times (LcdDisplay.data value) [(true, value)] :=
  Performs.byte true value (fun _ fourBit => fourBit) 49 (fun _ => rfl) fits.ordinary

/-- Neither of the two waits is sure to be long enough by itself. -/
theorem Fits.clear
    {times : LcdTimes}
    (fits : Fits times) :
    Performs times LcdDisplay.clear [(false, 0x01)] := by
  have waits (board : LcdBoard) : board.run times [.delayMs 2, .delayMs 2] =
      { board with busy := board.busy - 2000 } := by
    simp only [run, List.foldl_cons, List.foldl_nil, step, Nat.sub_sub]
    rfl
  have keeps (lcd : CharacterLcd) (fourBit : lcd.eightBit = false) :
      (lcd.execute 0x01).eightBit = false :=
    CharacterLcd.execute_eightBit fourBit (Or.inl (by decide))
  have performs := Performs.byte false 0x01 keeps 2000 waits
    (CharacterLcd.byteTime_le fits.long (fits.ordinary.trans (by decide)) _ _)
  rw [LcdDisplay.clear, LcdDisplay.command, if_pos (by decide), List.append_assoc]
  exact performs

theorem Fits.text
    {times : LcdTimes}
    (fits : Fits times)
    (text : List UInt8) :
    Performs times (text.flatMap LcdDisplay.data) (text.map fun c => (true, c)) := by
  rw [List.map_eq_flatMap]
  exact Performs.flatMap fun c _ => fits.data c

theorem Fits.setCursor
    {times : LcdTimes}
    (fits : Fits times)
    {row column : UInt8}
    (inLine : (LcdOperation.setCursor row column).InLine) :
    Performs times (LcdDisplay.setCursor row column)
      (LcdOperation.setCursor row column).bytes := by
  have table : ∀ number : Fin 256,
      (UInt8.ofNat number < 0x80 → 0x40 ≤ 0x80 + UInt8.ofNat number) ∧
        (UInt8.ofNat number < 0x40 → 0x40 ≤ 0xC0 + UInt8.ofNat number) := by decide +kernel
  have above := table ⟨column.toNat, column.toNat_lt⟩
  rw [UInt8.ofNat_toNat] at above
  rw [LcdOperation.InLine] at inLine
  have address : 0x40 ≤ if row = 0 then 0x80 + column else 0xC0 + column := by
    split at inLine
    case isTrue first => rw [if_pos first]; exact above.1 inLine
    case isFalse second => rw [if_neg second]; exact above.2 inLine
  exact fits.command (Or.inr address) (UInt8.le_trans (by decide) address)

theorem Fits.createChar
    {times : LcdTimes}
    (fits : Fits times)
    (location : UInt8)
    (charmap : Option (Vector UInt8 8)) :
    Performs times (LcdDisplay.createChar location charmap)
      (LcdOperation.createChar location charmap).bytes := by
  cases charmap with
  | none => exact Performs.nil times
  | some charmap =>
      have table : ∀ number : Fin 256,
          0x40 ≤ (0x40 : UInt8) ||| ((UInt8.ofNat number &&& 0x07) <<< (3 : UInt8)) := by
        decide +kernel
      have above := table ⟨location.toNat, location.toNat_lt⟩
      rw [UInt8.ofNat_toNat] at above
      exact (fits.command (Or.inr above) (UInt8.le_trans (by decide) above)).append
        (fits.text charmap.toList)

/-- The characters that `writeFixed` sends. -/
theorem writeFixed_text
    (display : LcdDisplay)
    (garbage : Vector UInt8 12)
    (value : Int32)
    (fracDigits : UInt8) :
    (display.writeFixed garbage value fracDigits).2 =
      LcdDisplay.fixedText value.toInt (min fracDigits.toNat 9) := by
  have holds := LcdDisplay.formatFixed_holds display garbage value fracDigits
  have lowerBound : -2 ^ 31 ≤ value.toInt := value.le_toInt
  have upperBound : value.toInt < 2 ^ 31 := value.toInt_lt
  have length := LcdDisplay.length_fixedText_le
    (show value.toInt.natAbs < 10 ^ 10 by omega) (Nat.min_le_right fracDigits.toNat 9)
  have noNul := LcdDisplay.zero_not_mem_fixedText value.toInt (min fracDigits.toNat 9)
  generalize LcdDisplay.fixedText value.toInt (min fracDigits.toNat 9) = text
    at holds length noNul ⊢
  rw [LcdDisplay.writeFixed]
  apply LcdDisplay.writeString_eq (by omega) _ _ noNul
  · rw [← holds.index_eq, FixedArray.front_write _ (Nat.le_refl _), holds.front_eq]
  · rw [← holds.index_eq, FixedArray.read_write, if_pos ⟨rfl, by rw [holds.index_eq]; omega⟩]

/-- A call brings its bytes to the controller. -/
theorem Fits.events
    {times : LcdTimes}
    (fits : Fits times)
    (display : LcdDisplay)
    {operation : LcdOperation}
    (inLine : operation.InLine) :
    Performs times (display.events operation) operation.bytes := by
  cases operation with
  | clear => exact fits.clear
  | setCursor row column => exact fits.setCursor inLine
  | writeChar c => exact fits.data c
  | writeString text =>
      cases text with
      | none => exact Performs.nil times
      | some text => exact fits.text _
  | createChar location charmap => exact fits.createChar location charmap
  | writeFixed garbage value fracDigits =>
      rw [LcdDisplay.events, writeFixed_text]
      exact fits.text _

theorem Fits.allEvents
    {times : LcdTimes}
    (fits : Fits times)
    (display : LcdDisplay)
    {operations : List LcdOperation}
    (inLine : ∀ operation ∈ operations, operation.InLine) :
    Performs times (display.allEvents operations) (operations.flatMap LcdOperation.bytes) := by
  induction operations generalizing display with
  | nil => exact Performs.nil times
  | cons operation operations inductionHypothesis =>
      exact (fits.events display (inLine operation List.mem_cons_self)).append
        (inductionHypothesis _ fun other listed =>
          inLine other (List.mem_cons_of_mem _ listed))

/-! ## From reset -/

/-- The board at a reset of the processor: the output levels are low, and the controller,
which keeps its supply, may be anywhere. -/
def reset (controller : CharacterLcd) (busy : Nat) : LcdBoard where
  gpioC := fun _ => false
  gpioB := fun _ => false
  controller := controller
  busy := busy
  missed := false

/-- A controller behind the instructions of `LcdDisplay::initialize`. -/
def initialized : CharacterLcd where
  eightBit := false
  high := none
  twoLines := true
  increment := true
  shifting := false
  displayOn := true
  shift := 0
  inCharacters := false
  address := 0
  cells := fun _ => CharacterLcd.blank

/-- The instructions leave nothing of the state before. -/
theorem performAll_instructions
    {lcd : CharacterLcd}
    (synchronized : lcd.Synchronized) :
    lcd.performAll
        [(false, 0x28), (false, 0x08), (false, 0x01), (false, 0x06), (false, 0x0C)] =
      initialized := by
  cases lcd with
  | mk eightBit high =>
      obtain rfl : high = none := synchronized.complete
      rfl

/-- The controller waits for an instruction. -/
structure Instructing (board : LcdBoard) : Prop extends board.Idle where
  select : board.gpioC 1 = false
  free : board.busy = 0

/-- A transfer of the beginning of `LcdDisplay::initialize`, with the wait behind it. -/
theorem Instructing.transfer
    {board : LcdBoard}
    (instructing : board.Instructing)
    (times : LcdTimes)
    (value : UInt8)
    (nibble : value &&& 0x0F = value)
    (wait : PortEvent)
    (duration : Nat)
    (waits : ∀ board : LcdBoard, board.step times wait =
      { board with busy := board.busy - duration })
    (long : board.controller.latchTime times { select := false, nibble := value } ≤ duration) :
    let after := board.run times (LcdDisplay.send4 value ++ [wait])
    after.Instructing ∧
      after.controller = board.controller.latch { select := false, nibble := value } := by
  intro after
  have sent := instructing.toIdle.send4 instructing.free times value
  have busy := sent.busy
  have latched := sent.controller
  rw [nibble, instructing.select] at busy latched
  have ended : after = { board.run times (LcdDisplay.send4 value) with busy := 0 } := by
    rw [show after = _ from run_append ..]
    exact (waits _).trans (by rw [busy, Nat.sub_eq_zero_of_le (by omega)])
  rw [ended]
  exact
    ⟨{ enable := sent.idle.enable
       write := sent.idle.write
       missed := sent.idle.missed
       select := sent.select.trans instructing.select
       free := rfl }, latched⟩

/-- The lines ahead of the first transfer. -/
theorem instructing_reset
    (times : LcdTimes)
    (controller : CharacterLcd)
    {busy : Nat}
    (recent : busy ≤ 59000) :
    let after := (reset controller busy).run times
      [.delayMs 60, LcdDisplay.rwLow, LcdDisplay.rsLow, LcdDisplay.eLow,
        LcdDisplay.backlightHigh]
    after.Instructing ∧ after.controller = controller := by
  intro after
  have waited : busy - DelayTimer.leastMs 60 = 0 := Nat.sub_eq_zero_of_le recent
  have started : after = (reset controller 0).run times
      [LcdDisplay.rwLow, LcdDisplay.rsLow, LcdDisplay.eLow, LcdDisplay.backlightHigh] := by
    simp only [after, run, reset, List.foldl_cons, step, waited]
  rw [started]
  exact ⟨{ enable := rfl, write := rfl, missed := rfl, select := rfl, free := rfl }, rfl⟩

/-- Four transfers bring the controller into step. -/
theorem Fits.synchronizes
    {times : LcdTimes}
    (fits : Fits times)
    {board : LcdBoard}
    (instructing : board.Instructing) :
    (board.run times
      ((LcdDisplay.send4 0x03 ++ [.delayMs 5]) ++
        ((LcdDisplay.send4 0x03 ++ [.delayUs 200]) ++
          ((LcdDisplay.send4 0x03 ++ [.delayUs 200]) ++
            (LcdDisplay.send4 0x02 ++ [.delayMs 2]))))).Settled := by
  have slow : times.ordinary ≤ 2000 := fits.ordinary.trans (by decide)
  have short : times.ordinary ≤ 199 := fits.ordinary.trans (by decide)
  obtain ⟨first, latched⟩ := instructing.transfer times 0x03 rfl (.delayMs 5) 4000
    (fun _ => rfl) ((CharacterLcd.latchTime_le fits.long slow _ _).trans (by decide))
  have widening := latched ▸ CharacterLcd.widening_latch board.controller
  rw [run_append]
  generalize board.run times _ = board at first widening ⊢
  obtain ⟨second, latched⟩ := first.transfer times 0x03 rfl (.delayUs 200) 199
    (fun _ => rfl) ((widening.latchTime_le times).trans short)
  have nearlyWide := latched ▸ widening.latch
  have stillWidening : CharacterLcd.Widening _ := nearlyWide.widening
  rw [run_append]
  generalize board.run times _ = board at second nearlyWide stillWidening ⊢
  obtain ⟨third, latched⟩ := second.transfer times 0x03 rfl (.delayUs 200) 199
    (fun _ => rfl) ((stillWidening.latchTime_le times).trans short)
  have wide := latched ▸ nearlyWide.latch.1
  rw [run_append]
  generalize board.run times _ = board at third wide ⊢
  obtain ⟨fourth, latched⟩ := third.transfer times 0x02 rfl (.delayMs 2) 1000
    (fun _ => rfl) ((CharacterLcd.latchTime_wide wide times).trans_le
      (fits.ordinary.trans (by decide)))
  exact
    { toIdle := fourth.toIdle
      synchronized := latched ▸ CharacterLcd.synchronized_latch wide
      free := fourth.free }

/-- Whatever the controller was doing, `LcdDisplay::initialize` brings it into step and
clears it. -/
theorem Fits.reset
    {times : LcdTimes}
    (fits : Fits times)
    (controller : CharacterLcd)
    {busy : Nat}
    (recent : busy ≤ 59000) :
    let after := (reset controller busy).run times LcdDisplay.initialize
    after.Settled ∧ after.controller = initialized := by
  intro after
  obtain ⟨start, -⟩ := instructing_reset times controller recent
  have settled := fits.synchronizes start
  have instructions : Performs times
      (LcdDisplay.command 0x28 ++ (LcdDisplay.command 0x08 ++ (LcdDisplay.clear ++
        (LcdDisplay.command 0x06 ++ (LcdDisplay.command 0x0C ++ [.delayMs 2])))))
      [(false, 0x28), (false, 0x08), (false, 0x01), (false, 0x06), (false, 0x0C)] :=
    (fits.command (Or.inl (by decide)) (by decide)).append <|
      (fits.command (Or.inl (by decide)) (by decide)).append <|
        fits.clear.append <|
          (fits.command (Or.inl (by decide)) (by decide)).append <|
            (fits.command (Or.inl (by decide)) (by decide)).append <|
              Performs.wait 1000 fun _ => rfl
  obtain ⟨ended, performed⟩ := instructions _ settled
  rw [performAll_instructions settled.synchronized] at performed
  rw [← run_append, ← run_append] at ended performed
  simp only [LcdDisplay.clear, List.append_assoc] at ended performed
  simp only [after, LcdDisplay.initialize, List.append_assoc]
  exact ⟨ended, performed⟩

/-- The controller performs the bytes of every sequence of calls, whatever state it was in
before `LcdDisplay::initialize`, and never takes a transfer while it is busy. -/
theorem run_performsOperations
    {times : LcdTimes}
    (long : times.long ≤ 2000)
    (ordinary : times.ordinary ≤ 49)
    (controller : CharacterLcd)
    {busy : Nat}
    (recent : busy ≤ 59000)
    (display : LcdDisplay)
    {operations : List LcdOperation}
    (inLine : ∀ operation ∈ operations, operation.InLine) :
    let events := LcdDisplay.initialize ++ display.allEvents operations
    let after := (reset controller busy).run times events
    after.missed = false ∧
      after.controller =
        initialized.performAll (operations.flatMap LcdOperation.bytes) := by
  intro events after
  have fits : Fits times := ⟨long, ordinary⟩
  obtain ⟨settled, cleared⟩ := fits.reset controller recent
  obtain ⟨ended, performed⟩ := fits.allEvents display inLine _ settled
  rw [← run_append] at ended performed
  rw [cleared] at performed
  exact ⟨ended.missed, performed⟩

/-- A controller that waits for the second half of a byte. -/
theorem run_performsOperations_pending :
    let events := LcdDisplay.initialize ++
      LcdDisplay.allEvents ⟨Vector.replicate 20 0⟩ [.setCursor 1 0, .writeChar 0x48]
    let after := (reset { initialized with high := some 0x4 } 1520).run ⟨1520, 37⟩ events
    after.missed = false ∧
      after.controller =
        initialized.performAll
          ([.setCursor 1 0, .writeChar 0x48].flatMap LcdOperation.bytes) :=
  run_performsOperations (by decide) (by decide) _ (by decide) _ (by
    intro operation listed
    rcases List.mem_cons.mp listed with rfl | later
    · exact UInt8.lt_iff_toNat_lt.mpr (by decide)
    · obtain rfl := List.mem_singleton.mp later
      trivial)

end LcdBoard

end SensorFirmware
