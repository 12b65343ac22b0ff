import SensorFirmware.App.MeasuredBytes
import SensorFirmware.Drivers.LcdPort
import SensorFirmware.Sensor.Alarms

/-!
# The screen

After the start screen the service writes two lines to the display for every accepted
measurement.  Each text ends in three blanks, which erase what a longer number has left
behind.  Along every run the display shows the two lines of the last measurement and
nothing else, and the registers hold the same measurement.
-/

namespace SensorFirmware

open CharacterLcd (Ready blank line overlay)
open LcdBoard (initialized)
open MedianFilter (IsMedian)

/-! ## The code -/

/-- The bytes of a string literal. -/
def ascii (text : String) : List UInt8 := text.toList.map Char.toUInt8

/-- A call of `SensorService::updateLcd` as one of the driver. -/
def LcdCall.operation (garbage : Vector UInt8 12) : LcdCall → LcdOperation
  | .setCursor row column => .setCursor row column
  | .writeString text => .writeString (some (ascii text))
  | .writeFixed value fracDigits => .writeFixed garbage (Int32.ofInt value) fracDigits

/-- The calls of the service, each with the contents that its local array starts with. -/
def System.lcdOperations (sys : System D) (garbage : Nat → Vector UInt8 12) :
    List LcdOperation :=
  sys.lcd.zipIdx.map fun call => call.1.operation (garbage call.2)

/-- `Application::showStartupScreen`. -/
def LcdDisplay.showStartupScreen (display : LcdDisplay) : List PortEvent :=
  display.allEvents
      [.setCursor 0 0, .writeString (some (ascii "OOP Firmware")), .setCursor 1 0,
        .writeString (some (ascii "STM32F410   "))] ++
    [.delayMs 300] ++ LcdDisplay.clear

/-- What the firmware has done to the display since the start. -/
def Firmware.lcdEvents (fw : Firmware D) (display : LcdDisplay)
    (garbage : Nat → Vector UInt8 12) : List PortEvent :=
  LcdDisplay.initialize ++ LcdDisplay.clear ++ display.showStartupScreen ++
    display.allEvents (fw.app.system.lcdOperations garbage)

/-! ## A line of text -/

/-- The bytes of a text from the start of a line. -/
def lineBytes (row : Nat) (text : List UInt8) : List (Bool × UInt8) :=
  (false, if row = 0 then 0x80 else 0xC0) :: text.map fun c => (true, c)

/-- The controller with other contents of the memory and another address. -/
def screen (cells : Nat → UInt8) (address : Nat) : CharacterLcd :=
  { initialized with cells := cells, address := address }

theorem ready_screen (cells : Nat → UInt8) (address : Nat) : (screen cells address).Ready where
  fourBit := rfl
  complete := rfl
  twoLines := rfl
  increment := rfl
  still := rfl
  displayOn := rfl
  home := rfl

theorem performAll_text
    (lcd : CharacterLcd)
    (text : List UInt8) :
    lcd.performAll (text.map fun c => (true, c)) = text.foldl CharacterLcd.write lcd := by
  rw [CharacterLcd.performAll, List.foldl_map]
  rfl

/-- The text covers the beginning of the line. -/
theorem performAll_lineBytes
    (cells : Nat → UInt8)
    (address : Nat)
    {row : Nat}
    (twoRows : row ≤ 1)
    (text : List UInt8)
    (inside : text.length < 40) :
    ∃ after, (screen cells address).performAll (lineBytes row text) =
      screen (overlay cells (0x40 * row) text) after := by
  have moved : (screen cells address).perform false (if row = 0 then 0x80 else 0xC0) =
      screen cells (0x40 * row) := by
    obtain rfl | rfl : row = 0 ∨ row = 1 := by omega
    · rfl
    · rfl
  have written := (ready_screen cells (0x40 * row)).foldl_write rfl text (by
    show 0x40 * row % 0x40 + text.length < 40
    rwa [Nat.mul_mod_right, Nat.zero_add])
  refine ⟨0x40 * row + text.length, ?_⟩
  rw [lineBytes, CharacterLcd.performAll, List.foldl_cons, moved, ← CharacterLcd.performAll,
    performAll_text, written]
  rfl

/-- The rest of the line, blank. -/
def padded (text : List UInt8) : List UInt8 :=
  text ++ List.replicate (16 - text.length) blank

/-- A longer text leaves nothing of a padded one. -/
theorem append_drop_padded
    {old text : List UInt8}
    (covers : old.length ≤ text.length) :
    text ++ (padded old).drop text.length = padded text := by
  rw [padded, padded, List.drop_append, List.drop_eq_nil_of_le covers, List.nil_append,
    List.drop_replicate]
  congr 2
  omega

/-- Blanks at the end of a text change nothing. -/
theorem padded_append_blanks
    (text : List UInt8)
    {count : Nat}
    (inside : text.length + count ≤ 16) :
    padded (text ++ List.replicate count blank) = padded text := by
  rw [padded, padded, List.append_assoc, List.replicate_append_replicate, List.length_append,
    List.length_replicate]
  congr 2
  omega

/-! ## Two lines of text -/

/-- The display shows two texts and blanks behind them. -/
def ShowsRows (bytes : List (Bool × UInt8)) (first second : List UInt8) : Prop :=
  ∃ cells address, initialized.performAll bytes = screen cells address ∧
    line cells 16 0 = padded first ∧ line cells 16 1 = padded second

/-- The next two texts, with blanks enough to cover the ones before. -/
theorem ShowsRows.lines
    {bytes : List (Bool × UInt8)}
    {oldFirst oldSecond : List UInt8}
    (shown : ShowsRows bytes oldFirst oldSecond)
    (first second : List UInt8)
    (coversFirst : oldFirst.length ≤ first.length)
    (coversSecond : oldSecond.length ≤ second.length)
    (insideFirst : first.length ≤ 16)
    (insideSecond : second.length ≤ 16) :
    ShowsRows (bytes ++ (lineBytes 0 first ++ lineBytes 1 second)) first second := by
  obtain ⟨cells, address, performed, firstLine, secondLine⟩ := shown
  obtain ⟨behindFirst, wroteFirst⟩ :=
    performAll_lineBytes cells address (Nat.zero_le 1) first (by omega)
  obtain ⟨behindSecond, wroteSecond⟩ :=
    performAll_lineBytes (overlay cells (0x40 * 0) first) behindFirst (Nat.le_refl 1)
      second (by omega)
  refine ⟨overlay (overlay cells (0x40 * 0) first) (0x40 * 1) second, behindSecond, ?_, ?_, ?_⟩
  · rw [CharacterLcd.performAll_append, performed, CharacterLcd.performAll_append, wroteFirst,
      wroteSecond]
  · rw [CharacterLcd.line_overlay_other _ (by omega), CharacterLcd.line_overlay _ 0 insideFirst,
      firstLine, append_drop_padded coversFirst]
  · rw [CharacterLcd.line_overlay _ 1 insideSecond,
      CharacterLcd.line_overlay_other _ (by omega), secondLine,
      append_drop_padded coversSecond]

/-- What the display shows. -/
theorem ShowsRows.shown
    {bytes : List (Bool × UInt8)}
    {first second : List UInt8}
    (shown : ShowsRows bytes first second) :
    (initialized.performAll bytes).shown 16 0 = padded first ∧
      (initialized.performAll bytes).shown 16 1 = padded second := by
  obtain ⟨cells, address, performed, firstLine, secondLine⟩ := shown
  have ready := ready_screen cells address
  rw [performed, ready.shown_eq (by decide), ready.shown_eq (by decide)]
  exact ⟨firstLine, secondLine⟩

/-! ## The lines of a measurement -/

/-- The bytes of a call of `SensorService::updateLcd`. -/
def LcdCall.bytes (call : LcdCall) : List (Bool × UInt8) :=
  (call.operation (Vector.replicate 12 0)).bytes

/-- The local array leaves no trace on the display. -/
theorem LcdCall.operation_bytes
    (garbage : Vector UInt8 12)
    (call : LcdCall) :
    (call.operation garbage).bytes = call.bytes := by
  cases call with
  | setCursor row column => rfl
  | writeString text => rfl
  | writeFixed value fracDigits => rfl

theorem LcdCall.bytes_writeFixed
    {value : Int}
    (small : value.natAbs < 10 ^ 5) :
    (LcdCall.writeFixed value 2).bytes =
      (LcdDisplay.fixedText value 2).map fun c => (true, c) := by
  have same : (Int32.ofInt value).toInt = value :=
    Int32.toInt_ofInt_of_le (by omega) (by omega)
  rw [LcdCall.bytes, operation, LcdOperation.bytes, same]
  rfl

theorem System.lcdOperations_bytes
    (sys : System D)
    (garbage : Nat → Vector UInt8 12) :
    (sys.lcdOperations garbage).flatMap LcdOperation.bytes =
      sys.lcd.flatMap LcdCall.bytes := by
  rw [lcdOperations, List.flatMap_map]
  simp only [LcdCall.operation_bytes]
  rw [← List.flatMap_map Prod.fst LcdCall.bytes, List.zipIdx_map_fst]

/-- Between a label and a unit, two digits behind the point. -/
def valueText (label : String) (value : Int) (unit : String) : List UInt8 :=
  ascii label ++ LcdDisplay.fixedText value 2 ++ ascii unit

/-- Five digits have one to three in front of the point. -/
theorem length_fixedText_mem
    {value : Int}
    (small : value.natAbs < 10 ^ 5) :
    4 ≤ (LcdDisplay.fixedText value 2).length ∧ (LcdDisplay.fixedText value 2).length ≤ 7 := by
  have signLength := LcdDisplay.length_sign_le value
  have nonempty := List.length_pos_of_ne_nil
    (Decimal.isNumeral_integerDigits (value.natAbs / 10 ^ 2)).nonempty
  have digits : (Decimal.integerDigits (value.natAbs / 10 ^ 2)).length ≤ 3 :=
    Decimal.length_integerDigits_le (by decide) (by omega)
  have fraction : (LcdDisplay.pointed
      (Decimal.fractionDigits 2 (value.natAbs % 10 ^ 2))).length = 3 := rfl
  rw [LcdDisplay.fixedText, List.length_append, List.length_append,
    LcdDisplay.length_characters, fraction]
  omega

/-- The calls write two lines, each with three blanks at its end. -/
theorem SensorService.lcdCalls_bytes
    {service : SensorService}
    (temperature : service.temperatureX100.natAbs < 10 ^ 5)
    (humidity : service.humidityX100.natAbs < 10 ^ 5) :
    service.lcdCalls.flatMap LcdCall.bytes =
      lineBytes 0 (valueText "T:" service.temperatureX100 "C" ++ List.replicate 3 blank) ++
        lineBytes 1 (valueText "H:" service.humidityX100 "%" ++ List.replicate 3 blank) := by
  have home : (LcdCall.setCursor 0 0).bytes = [(false, 0x80)] := rfl
  have nextLine : (LcdCall.setCursor 1 0).bytes = [(false, 0xC0)] := rfl
  have text (text : String) : (LcdCall.writeString text).bytes =
      (LcdDisplay.writeString (ascii text)).map fun c => (true, c) := rfl
  have label : LcdDisplay.writeString (ascii "T:") = ascii "T:" := rfl
  have otherLabel : LcdDisplay.writeString (ascii "H:") = ascii "H:" := rfl
  have ending : LcdDisplay.writeString (ascii "C   ") =
      ascii "C" ++ List.replicate 3 blank :=
    rfl
  have otherEnding : LcdDisplay.writeString (ascii "%   ") =
      ascii "%" ++ List.replicate 3 blank := rfl
  simp only [lcdCalls, List.flatMap_cons, List.flatMap_nil, home, nextLine, text, label,
    otherLabel, ending, otherEnding, LcdCall.bytes_writeFixed temperature,
    LcdCall.bytes_writeFixed humidity, lineBytes, valueText, List.map_append, List.append_assoc,
    List.cons_append, List.nil_append, List.append_nil, if_true, one_ne_zero, if_false]

/-! ## The range of a measurement -/

theorem MedianFilter.IsMedian.mem
    {median : Int}
    {samples : List Int}
    (isMedian : IsMedian median samples) :
    median ∈ samples := by
  have listed := List.mem_of_getElem? isMedian
  rwa [ascending, Multiset.mem_sort, Multiset.mem_coe] at listed

theorem mem_of_mem_seeded
    {values : List Int}
    {value : Int}
    (listed : value ∈ seeded values) :
    value ∈ values := by
  cases values with
  | nil => exact listed
  | cons first rest =>
      rcases List.mem_append.mp listed with repeated | later
      · rw [List.eq_of_mem_replicate repeated]
        exact List.mem_cons_self
      · exact List.mem_cons_of_mem _ later

/-- A median is one of the measured values. -/
theorem mem_of_isMedian
    {values : List Int}
    {median : Int}
    (isMedian : IsMedian median ((seeded values).rtake 18)) :
    median ∈ values :=
  mem_of_mem_seeded (List.mem_of_mem_drop isMedian.mem)

theorem small_temperature
    {words : List (UInt16 × UInt16)}
    {median : Int}
    (isMedian : IsMedian median ((seeded (temperatures words)).rtake 18)) :
    median.natAbs < 10 ^ 5 := by
  obtain ⟨raw, -, rfl⟩ := List.mem_map.mp (mem_of_isMedian isMedian)
  have inRange := temperatureX100_inRange raw.1
  rw [TemperatureInRange] at inRange
  omega

theorem small_humidity
    {words : List (UInt16 × UInt16)}
    {median : Int}
    (isMedian : IsMedian median ((seeded (humidities words)).rtake 18)) :
    median.natAbs < 10 ^ 5 := by
  obtain ⟨raw, -, rfl⟩ := List.mem_map.mp (mem_of_isMedian isMedian)
  have inRange := Sht3xSensor.humidityX100_mem raw.2
  omega

/-! ## Along a run -/

/-- The calls of the driver leave the medians of the measured words on the display, or
nothing when nothing is measured. -/
structure OnScreen (calls : List LcdCall) (words : List (UInt16 × UInt16)) : Prop where
  inLine : ∀ call ∈ calls, ∀ garbage, (call.operation garbage).InLine
  nothing : words = [] → ShowsRows (calls.flatMap LcdCall.bytes) [] []
  last : ∀ temperature humidity,
    IsMedian temperature ((seeded (temperatures words)).rtake 18) →
    IsMedian humidity ((seeded (humidities words)).rtake 18) →
    ShowsRows (calls.flatMap LcdCall.bytes) (valueText "T:" temperature "C")
      (valueText "H:" humidity "%")

theorem length_valueText
    (label : String)
    (value : Int)
    (unit : String) :
    (valueText label value unit).length =
      (ascii label).length + (LcdDisplay.fixedText value 2).length + (ascii unit).length := by
  rw [valueText, List.length_append, List.length_append]

theorem onScreen_nil : OnScreen [] [] where
  inLine := nofun
  nothing _ := ⟨fun _ => blank, 0, rfl, rfl, rfl⟩
  last _ _ isMedian := by
    have empty := isMedian.mem
    exact absurd empty List.not_mem_nil

/-- The texts before are ten characters at most. -/
theorem OnScreen.before
    {calls : List LcdCall}
    {words : List (UInt16 × UInt16)}
    (onScreen : OnScreen calls words)
    {service : SensorService}
    (filtered : service.HasFiltered words) :
    ∃ first second, ShowsRows (calls.flatMap LcdCall.bytes) first second ∧
      first.length ≤ 10 ∧ second.length ≤ 10 := by
  by_cases none : words = []
  · exact ⟨[], [], onScreen.nothing none, by decide, by decide⟩
  · have temperature := filtered.temperature none
    have humidity := filtered.humidity none
    have firstLength := length_fixedText_mem (small_temperature temperature)
    have secondLength := length_fixedText_mem (small_humidity humidity)
    have ends : (ascii "T:").length = 2 ∧ (ascii "C").length = 1 ∧ (ascii "H:").length = 2 ∧
      (ascii "%").length = 1 := ⟨rfl, rfl, rfl, rfl⟩
    refine ⟨_, _, onScreen.last _ _ temperature humidity, ?_, ?_⟩
    · rw [length_valueText]
      omega
    · rw [length_valueText]
      omega

/-- Blanks behind the texts make no difference to what they show. -/
theorem ShowsRows.trimmed
    {bytes : List (Bool × UInt8)}
    {first second : List UInt8}
    {count : Nat}
    (shown : ShowsRows bytes (first ++ List.replicate count blank)
      (second ++ List.replicate count blank))
    (insideFirst : first.length + count ≤ 16)
    (insideSecond : second.length + count ≤ 16) :
    ShowsRows bytes first second := by
  obtain ⟨cells, address, performed, firstLine, secondLine⟩ := shown
  rw [padded_append_blanks _ insideFirst] at firstLine
  rw [padded_append_blanks _ insideSecond] at secondLine
  exact ⟨cells, address, performed, firstLine, secondLine⟩

/-- The calls of the next measurement replace the texts. -/
theorem OnScreen.measured
    {calls : List LcdCall}
    {words : List (UInt16 × UInt16)}
    (onScreen : OnScreen calls words)
    {before service : SensorService}
    (filtered : before.HasFiltered words)
    {next : UInt16 × UInt16}
    (measured : service.HasFiltered (words ++ [next])) :
    OnScreen (calls ++ service.lcdCalls) (words ++ [next]) := by
  have some : words ++ [next] ≠ [] :=
    List.append_ne_nil_of_right_ne_nil _ (List.cons_ne_nil _ _)
  have temperature := measured.temperature some
  have humidity := measured.humidity some
  have smallTemperature := small_temperature temperature
  have smallHumidity := small_humidity humidity
  obtain ⟨oldFirst, oldSecond, shown, firstLength, secondLength⟩ :=
    onScreen.before filtered
  have newFirst := length_fixedText_mem smallTemperature
  have newSecond := length_fixedText_mem smallHumidity
  have ends : (ascii "T:").length = 2 ∧ (ascii "C").length = 1 ∧ (ascii "H:").length = 2 ∧
    (ascii "%").length = 1 := ⟨rfl, rfl, rfl, rfl⟩
  have lengths := And.intro (length_valueText "T:" service.temperatureX100 "C")
    (length_valueText "H:" service.humidityX100 "%")
  have written := shown.lines
    (valueText "T:" service.temperatureX100 "C" ++ List.replicate 3 blank)
    (valueText "H:" service.humidityX100 "%" ++ List.replicate 3 blank)
    (by rw [List.length_append, List.length_replicate]; omega)
    (by rw [List.length_append, List.length_replicate]; omega)
    (by rw [List.length_append, List.length_replicate]; omega)
    (by rw [List.length_append, List.length_replicate]; omega)
  rw [← SensorService.lcdCalls_bytes smallTemperature smallHumidity, ← List.flatMap_append]
    at written
  refine ⟨?_, fun none => absurd none some, ?_⟩
  · intro call listed garbage
    rcases List.mem_append.mp listed with earlier | last
    · exact onScreen.inLine call earlier garbage
    · simp only [SensorService.lcdCalls, List.mem_cons, List.not_mem_nil, or_false] at last
      rcases last with rfl | rfl | rfl | rfl | rfl | rfl | rfl | rfl
      all_goals first | trivial | exact UInt8.lt_iff_toNat_lt.mpr (by decide)
  · intro other otherHumidity isMedian isMedianHumidity
    obtain rfl := Option.some.inj (temperature.symm.trans isMedian)
    obtain rfl := Option.some.inj (humidity.symm.trans isMedianHumidity)
    exact written.trimmed (by omega) (by omega)

namespace System

/-- The display driver is called for an accepted measurement, and for nothing else. -/
theorem processOn_lcd
    (sys : System D)
    (i2c1 : I2c1)
    (bus : I2cBus)
    (nowMs : UInt32) :
    let after := (sys.processOn i2c1 bus nowMs).1
    (sys.accessOn i2c1 bus nowMs ≠ .accepted → after.lcd = sys.lcd) ∧
      (sys.accessOn i2c1 bus nowMs = .accepted →
        after.lcd = sys.lcd ++ after.service.lcdCalls) := by
  intro after
  have refined : after = sys.process nowMs (sys.replyOn i2c1 bus) :=
    System.processOn_system i2c1 sys bus nowMs
  have cycle := sys.process_cycle nowMs (sys.replyOn i2c1 bus)
  rw [accessOn, refined]
  generalize sys.replyOn i2c1 bus = reply at cycle ⊢
  generalize sys.access nowMs reply = access, sys.process nowMs reply = after at cycle ⊢
  cases cycle with
  | accepted =>
      refine ⟨fun notAccepted => absurd rfl notAccepted, fun _ => ?_⟩
      simp only [acceptReading, SensorService.lcdCalls, SensorService.retry]
  | earlyTrigger | triggered | triggerFailed | earlyRead | readFailed | rejected =>
      refine ⟨fun _ => ?_, by simp⟩
      simp only [failRead, rejectReading, System.withErrors]

end System

namespace Firmware

variable [DoubleArith D] [DoubleLayout D] {i2c1 : I2c1}

/-- Nothing before the sensor service in an iteration calls the display driver. -/
theorem beforeSensor_lcd
    (fw : Firmware D)
    (input : FirmwareInput) :
    (fw.beforeSensor input).system.lcd = fw.app.system.lcd := by
  simp only [beforeSensor, Application.withSystem, System.loopStep,
    Application.saveRequested_lcd, Application.receive]

omit [DoubleLayout D] in
/-- And nothing behind it. -/
theorem recovered_lcd
    (system : System D)
    (bus : I2cBus) :
    (recoverIfRequested i2c1 (system.loopStep .check) bus).1.lcd = system.lcd := by
  have kept (sys : System D) (errors : ErrorManager) : (sys.withErrors errors).lcd = sys.lcd :=
    rfl
  rw [recoverIfRequested]
  split
  · simp only [System.loopStep, kept]
  · simp only [System.loopStep, kept]

theorem iterate_lcd
    (fw : Firmware D)
    (i2c1 : I2c1)
    (input : FirmwareInput) :
    (fw.access i2c1 input ≠ .accepted →
      (fw.iterate i2c1 input).app.system.lcd = fw.app.system.lcd) ∧
    (fw.access i2c1 input = .accepted →
      (fw.iterate i2c1 input).app.system.lcd =
        fw.app.system.lcd ++ (fw.iterate i2c1 input).app.system.service.lcdCalls) := by
  obtain ⟨otherwise, accepts⟩ :=
    (fw.beforeSensor input).system.processOn_lcd i2c1 fw.bus input.nowMs
  rw [beforeSensor_lcd] at otherwise accepts
  rw [iterate_system, recovered_lcd, recovered_service]
  exact ⟨otherwise, accepts⟩

/-- What is measured along a run is on the display. -/
theorem Measured.run_onScreen
    {fw : Firmware D}
    (measured : Measured i2c1 fw [])
    (onScreen : OnScreen fw.app.system.lcd [])
    (inputs : List FirmwareInput) :
    ∃ positions, Measured i2c1 (fw.run i2c1 inputs) positions ∧
      OnScreen (fw.run i2c1 inputs).app.system.lcd (i2c1.words positions) ∧
      positions.length = (fw.accesses i2c1 inputs).count .accepted := by
  induction inputs using List.reverseRecOn with
  | nil => exact ⟨[], measured, onScreen, rfl⟩
  | append_singleton inputs input inductionHypothesis =>
      obtain ⟨positions, soFar, shown, counted⟩ := inductionHypothesis
      obtain ⟨accepts, otherwise⟩ := soFar.iterate input
      obtain ⟨sameCalls, moreCalls⟩ :=
        (fw.run i2c1 inputs).iterate_lcd i2c1 input
      rw [run_concat, accesses_concat, List.count_append, ← counted]
      by_cases accepted : (fw.run i2c1 inputs).access i2c1 input = .accepted
      · have next := accepts accepted
        refine ⟨_, next, ?_, ?_⟩
        · have filtered := next.shown.filtered
          rw [I2c1.words, List.map_append] at filtered
          rw [moreCalls accepted, I2c1.words, List.map_append]
          exact shown.measured soFar.shown.filtered filtered
        · rw [List.length_append, accepted, List.length_singleton, List.count_singleton_self]
      · refine ⟨_, otherwise accepted, ?_, ?_⟩
        · rw [sameCalls accepted]
          exact shown
        · rw [List.count_singleton, if_neg (by simpa using accepted), Nat.add_zero]

/-- The display driver has not been called before the first measurement. -/
theorem boot_onScreen
    (build : BuildInfo)
    (sector : ConfigSector)
    (padding : Vector UInt8 2)
    (replies : SaveReplies)
    (watchdogReset : Bool) :
    OnScreen (boot i2c1 build sector padding replies watchdogReset : Firmware
      D).app.system.lcd [] := by
  rw [boot, Application.initialized_system]
  exact onScreen_nil

/-- The start screen is wiped off. -/
theorem performs_showStartupScreen
    {times : LcdTimes}
    (fits : LcdBoard.Fits times)
    (display : LcdDisplay) :
    ∃ bytes, LcdBoard.Performs times
        (LcdDisplay.clear ++ display.showStartupScreen) bytes ∧
      initialized.performAll bytes = initialized := by
  have inLine : ∀ operation ∈ ([.setCursor 0 0,
      .writeString (some (ascii "OOP Firmware")), .setCursor 1 0,
      .writeString (some (ascii "STM32F410   "))] : List LcdOperation),
      operation.InLine := by
    intro operation listed
    simp only [List.mem_cons, List.not_mem_nil, or_false] at listed
    rcases listed with rfl | rfl | rfl | rfl
    all_goals first | trivial | exact UInt8.lt_iff_toNat_lt.mpr (by decide)
  refine ⟨_, fits.clear.append
    (((fits.allEvents display inLine).append (.wait 299000 fun _ => rfl)).append fits.clear),
    ?_⟩
  rfl

/-- In every run from the start, whatever the bus and the master do and whatever state the
display was in, no transfer to the display is missed, and after every iteration its rows
show the measurement that the registers hold, to two digits behind the point, with blanks
behind the unit.  Before the first measurement they are blank. -/
theorem run_showsMeasurement
    {times : LcdTimes}
    (long : times.long ≤ 2000)
    (ordinary : times.ordinary ≤ 49)
    (i2c1 : I2c1)
    (build : BuildInfo)
    (sector : ConfigSector)
    (padding : Vector UInt8 2)
    (replies : SaveReplies)
    (watchdogReset : Bool)
    (inputs : List FirmwareInput)
    (controller : CharacterLcd)
    {busy : Nat}
    (recent : busy ≤ 59000)
    (display : LcdDisplay)
    (garbage : Nat → Vector UInt8 12) :
    let start : Firmware D := boot i2c1 build sector padding replies watchdogReset
    let after := start.run i2c1 inputs
    let dev := after.app.system.device
    let service := after.app.system.service
    let board := (LcdBoard.reset controller busy).run times (after.lcdEvents display garbage)
    board.missed = false ∧
    ((start.accesses i2c1 inputs).count .accepted = 0 →
      board.controller.shown 16 0 = List.replicate 16 blank ∧
      board.controller.shown 16 1 = List.replicate 16 blank) ∧
    ((start.accesses i2c1 inputs).count .accepted ≠ 0 →
      board.controller.shown 16 0 = padded (valueText "T:" service.temperatureX100 "C") ∧
      board.controller.shown 16 1 = padded (valueText "H:" service.humidityX100 "%") ∧
      dev.input regTempValue = UInt16.ofInt (service.temperatureX100.tdiv 10) ∧
      dev.input regGasConctValue = UInt16.ofInt (service.humidityX100.tdiv 10)) := by
  intro start after dev service board
  have fits : LcdBoard.Fits times := ⟨long, ordinary⟩
  have booted : Measured i2c1 start [] :=
    measured_boot build sector padding replies watchdogReset
  have nothing : OnScreen start.app.system.lcd [] :=
    boot_onScreen build sector padding replies watchdogReset
  obtain ⟨positions, measured, onScreen, counted⟩ := booted.run_onScreen nothing inputs
  have inLine : ∀ operation ∈ after.app.system.lcdOperations garbage, operation.InLine := by
    intro operation listed
    obtain ⟨call, member, rfl⟩ := List.mem_map.mp listed
    exact onScreen.inLine call.1 (List.fst_mem_of_mem_zipIdx member) _
  obtain ⟨settled, cleared⟩ := fits.reset controller recent
  obtain ⟨bytes, startScreen, wiped⟩ := performs_showStartupScreen fits display
  obtain ⟨ended, performed⟩ :=
    startScreen.append (fits.allEvents display inLine) _ settled
  rw [cleared, CharacterLcd.performAll_append, wiped, System.lcdOperations_bytes] at performed
  rw [← LcdBoard.run_append, ← List.append_assoc, ← List.append_assoc] at ended performed
  refine ⟨ended.missed, ?_, ?_⟩
  · intro none
    rw [none, List.length_eq_zero_iff] at counted
    rw [show board.controller = _ from performed]
    exact (onScreen.nothing (congrArg i2c1.words counted)).shown
  · intro some
    have words : i2c1.words positions ≠ [] := fun empty =>
      some (counted ▸ congrArg List.length (List.map_eq_nil_iff.mp empty))
    have filtered := measured.shown.filtered
    have rows := (onScreen.last _ _ (filtered.temperature words)
      (filtered.humidity words)).shown
    rw [show board.controller = _ from performed]
    exact ⟨rows.1, rows.2, measured.shown.temperature, measured.shown.humidity⟩

/-- A sensor that acknowledges everything and delivers 25 degrees and 50 percent. -/
def answeringSensor : I2c1 where
  sr1 _ := sr1Sb ||| sr1Addr ||| sr1Btf ||| sr1RxNe ||| sr1TxE
  sr2 _ := 0
  dr index := [0x66, 0x66, 0x93, 0x80, 0x00, 0xA2].getD (index % 6) 0
  served _ := cr1Start ||| cr1Stop

/-- Two iterations at the start, apart by the delay of a measurement, trigger the answering
sensor and accept what it measured. -/
theorem accesses_answeringSensor
    (build : BuildInfo)
    (sector : ConfigSector)
    (padding : Vector UInt8 2)
    (replies : SaveReplies)
    (watchdogReset : Bool)
    (trigger read : FirmwareInput)
    (first : trigger.nowMs = 0)
    (second : read.nowMs = 20) :
    let start : Firmware D :=
      boot answeringSensor build sector padding replies watchdogReset
    let service := (start.run answeringSensor [trigger, read]).app.system.service
    start.accesses answeringSensor [trigger, read] = [.triggered, .accepted] ∧
      service.temperatureX100 = 2500 ∧ service.humidityX100 = 5000 := by
  intro start
  have service : start.app.system.service = SensorService.initialize :=
    boot_service answeringSensor build sector padding replies watchdogReset
  have bus : start.bus =
      (EarlyReturn.runFrom (I2cBus.initializeBus answeringSensor) I2cBus.construct).2 := rfl
  generalize start = fw at service bus ⊢
  obtain ⟨triggered, waiting, after⟩ := iterate_of_trigger answeringSensor fw trigger
    (by rw [service]; rfl) (by rw [service, first]; decide) (by rw [bus]; decide +kernel)
  rw [service, first] at waiting
  have reply : (Sht3xSensor.fetchReply answeringSensor
      (fw.iterate answeringSensor trigger).bus).1 =
      { triggerStatus := .ok
        readStatus := .ok
        frame := #v[0x66, 0x66, 0x93, 0x80, 0x00, 0xA2] } := by
    rw [bus] at after
    rcases after with same | recovered
    · rw [same]
      decide +kernel
    · rw [recovered]
      decide +kernel
  have reading : Sht3xSensor.readMeasurement (Sht3xSensor.fetchReply answeringSensor
      (fw.iterate answeringSensor trigger).bus).1 = .ok (0x6666, 0x8000) := by
    rw [reply]
    decide +kernel
  obtain ⟨accepted, measured⟩ := iterate_of_read answeringSensor
    (fw.iterate answeringSensor trigger) read (by rw [waiting])
    (by rw [waiting, second]; decide) reading (by decide)
  refine ⟨?_, ?_⟩
  · rw [accesses, Transition.outputs, Transition.outputs, Transition.outputs, triggered,
      accepted]
  · rw [run, Transition.run_cons, Transition.run_cons, Transition.run_nil, measured, waiting,
      second]
    decide +kernel

/-- A display that waits for half a byte, and a start from an erased flash with a
measurement of 25 degrees and 50 percent. -/
theorem run_showsMeasurement_twentyFive :
    let start : Firmware Binary64 :=
      boot answeringSensor BuildInfo.unitTest (FlashMemory.erased _) #v[0, 0] .done false
    let after := start.run answeringSensor [silentInput 0, silentInput 20]
    let board := (LcdBoard.reset { initialized with high := some 0x5 } 1520).run ⟨1520, 37⟩
      (after.lcdEvents ⟨Vector.replicate 20 0⟩ fun _ => Vector.replicate 12 0)
    board.missed = false ∧
      board.controller.shown 16 0 = padded (ascii "T:25.00C") ∧
      board.controller.shown 16 1 = padded (ascii "H:50.00%") ∧
      after.app.system.device.input regTempValue = 250 ∧
      after.app.system.device.input regGasConctValue = 500 := by
  have long : (⟨1520, 37⟩ : LcdTimes).long ≤ 2000 := by decide
  have recent : 1520 ≤ 59000 := by decide
  obtain ⟨accesses, temperature, humidity⟩ := accesses_answeringSensor (D := Binary64)
    BuildInfo.unitTest (FlashMemory.erased _) #v[0, 0] .done false (silentInput 0)
    (silentInput 20) rfl rfl
  obtain ⟨inTime, -, shows⟩ := run_showsMeasurement (D := Binary64) long (by decide)
    answeringSensor BuildInfo.unitTest (FlashMemory.erased _) #v[0, 0] .done false
    [silentInput 0, silentInput 20] { initialized with high := some 0x5 } recent
    ⟨Vector.replicate 20 0⟩ fun _ => Vector.replicate 12 0
  obtain ⟨firstRow, secondRow, temperatureShown, humidityShown⟩ :=
    shows (by rw [accesses]; decide)
  rw [temperature] at firstRow temperatureShown
  rw [humidity] at secondRow humidityShown
  have texts : padded (valueText "T:" 2500 "C") = padded (ascii "T:25.00C") ∧
      padded (valueText "H:" 5000 "%") = padded (ascii "H:50.00%") := by decide +kernel
  have tenths : UInt16.ofInt (Int.tdiv 2500 10) = 250 ∧
      UInt16.ofInt (Int.tdiv 5000 10) = 500 := by decide +kernel
  rw [texts.1] at firstRow
  rw [texts.2] at secondRow
  rw [tenths.1] at temperatureShown
  rw [tenths.2] at humidityShown
  exact ⟨inTime, firstRow, secondRow, temperatureShown, humidityShown⟩

end Firmware

end SensorFirmware
