import SensorFirmware.Sensor.MedianWindow
import SensorFirmware.Sensor.PayloadCorruption
import SensorFirmware.Sensor.PublishedValues
import SensorFirmware.Sensor.SensorBus

/-!
# Measurements as payloads of the received stream

The bytes that the bus delivers form a stream.  A measurement is accepted where the
stream shows six bytes whose checksums are right and whose words are in range.  Along a
run the service has accepted some positions of the stream, and what it publishes are the
medians of the words there, the first measurement counted eighteen times.
-/

namespace SensorFirmware

open FixedArray (read)
open MedianFilter (IsMedian)

/-! ## Payloads in the stream -/

namespace I2c1

/-- The byte at a position of the received stream. -/
def byte (i2c1 : I2c1) (position : Nat) : UInt8 := (i2c1.dr position).toUInt8

/-- The six bytes from a position on. -/
def payload (i2c1 : I2c1) (position : Nat) : Vector UInt8 6 :=
  Vector.ofFn fun index => i2c1.byte (position + index.val)

def temperatureWord (i2c1 : I2c1) (position : Nat) : UInt16 :=
  BigEndian.word (i2c1.byte position) (i2c1.byte (position + 1))

def humidityWord (i2c1 : I2c1) (position : Nat) : UInt16 :=
  BigEndian.word (i2c1.byte (position + 3)) (i2c1.byte (position + 4))

/-- The raw words at some positions. -/
def words (i2c1 : I2c1) (positions : List Nat) : List (UInt16 × UInt16) :=
  positions.map fun position => (i2c1.temperatureWord position, i2c1.humidityWord position)

/-- Both checksums are right, and both words are in range. -/
structure ValidPayload (i2c1 : I2c1) (position : Nat) : Prop where
  temperature : Sht3xSensor.GroupValid (i2c1.payload position) 0
  humidity : Sht3xSensor.GroupValid (i2c1.payload position) 3
  inRange : ¬ SensorService.OutOfRange (i2c1.temperatureWord position)
    (i2c1.humidityWord position)

theorem read_payload
    (i2c1 : I2c1)
    (position : Nat)
    {index : Nat}
    (inside : index < 6) :
    read (i2c1.payload position) index = i2c1.byte (position + index) := by
  rw [payload, FixedArray.read_eq_getElem _ _ inside, Vector.getElem_ofFn]

end I2c1

/-- What a read delivers is decoded as the payload at the next position. -/
theorem Sht3xSensor.validPayload_of_readMeasurement
    {i2c1 : I2c1}
    {bus : I2cBus}
    {rawTemperature rawHumidity : UInt16}
    (reading : readMeasurement (fetchReply i2c1 bus).1 = .ok (rawTemperature, rawHumidity))
    (inRange : ¬ SensorService.OutOfRange rawTemperature rawHumidity) :
    rawTemperature = i2c1.temperatureWord bus.drReads ∧
      rawHumidity = i2c1.humidityWord bus.drReads ∧ i2c1.ValidPayload bus.drReads := by
  have succeeds := System.readStatus_of_readMeasurement reading
  have delivered {index : Nat} (inside : index < 6) :
      read (fetchReply i2c1 bus).1.frame index = i2c1.byte (bus.drReads + index) :=
    read_frame_of_ok i2c1 succeeds inside
  rw [readMeasurement, if_neg (not_not_intro succeeds)] at reading
  split at reading
  case isTrue => cases reading
  case isFalse right =>
    obtain ⟨firstValid, secondValid⟩ := not_or.mp right
    rw [not_not, delivered (by decide), delivered (by decide), delivered (by decide)]
      at firstValid secondValid
    obtain ⟨rfl, rfl⟩ := Prod.mk.inj (Except.ok.inj reading)
    rw [delivered (by decide), delivered (by decide), delivered (by decide),
      delivered (by decide)] at inRange ⊢
    refine ⟨rfl, rfl, ?_, ?_, inRange⟩
    · rw [GroupValid, I2c1.read_payload _ _ (by decide), I2c1.read_payload _ _ (by decide),
        I2c1.read_payload _ _ (by decide)]
      exact firstValid
    · rw [GroupValid, I2c1.read_payload _ _ (by decide), I2c1.read_payload _ _ (by decide),
        I2c1.read_payload _ _ (by decide)]
      exact secondValid

/-! ## The samples of a filter -/

/-- The samples that a filter has been given, when the first one counts eighteen times. -/
def seeded : List Int → List Int
  | [] => []
  | first :: rest => List.replicate 18 first ++ rest

theorem seeded_append_singleton
    {values : List Int}
    (some : values ≠ [])
    (value : Int) :
    seeded (values ++ [value]) = seeded values ++ [value] := by
  cases values with
  | nil => exact absurd rfl some
  | cons first rest => exact (List.append_assoc _ _ _).symm

theorem length_seeded_iff (values : List Int) :
    18 ≤ (seeded values).length ↔ values ≠ [] := by
  cases values with
  | nil => simp [seeded]
  | cons first rest =>
      rw [seeded, List.length_append, List.length_replicate]
      simp

/-- A filter counts as initialized once it has eighteen samples. -/
theorem MedianFilter.Follows.initialized_iff
    {filter : MedianFilter}
    {stream : List Int}
    (follows : filter.Follows stream) :
    filter.initialized = true ↔ 18 ≤ stream.length := by
  have capacity : MedianFilter.size.toNat = 18 := rfl
  have counted := follows.count
  rw [MedianFilter.initialized, decide_eq_true_eq, UInt8.le_iff_toNat_le, capacity]
  omega

/-- The median of equal samples. -/
theorem MedianFilter.isMedian_replicate (value : Int) :
    IsMedian value (List.replicate 18 value) := by
  have sorted : (ascending (List.replicate 18 value)).Perm (List.replicate 18 value) :=
    Multiset.coe_eq_coe.mp (Multiset.sort_eq _ _)
  rw [IsMedian, List.perm_replicate.mp sorted, List.length_replicate]
  rfl

/-! ## What the service has filtered -/

theorem Sht3xSensor.humidityX100_mem (raw : UInt16) :
    0 ≤ humidityX100 raw ∧ humidityX100 raw ≤ 10000 := by
  have bound := raw.toNat_lt
  rw [humidityX100]
  omega

/-- The temperatures and the humidities of some raw words. -/
def temperatures (words : List (UInt16 × UInt16)) : List Int :=
  words.map fun raw => Sht3xSensor.temperatureX100 raw.1

def humidities (words : List (UInt16 × UInt16)) : List Int :=
  words.map fun raw => Sht3xSensor.humidityX100 raw.2

namespace SensorService

/-- The service has filtered some raw words, and its results are the medians. -/
structure HasFiltered (service : SensorService) (words : List (UInt16 × UInt16)) : Prop where
  temperatureFilter : service.temperatureFilter.Follows (seeded (temperatures words))
  humidityFilter : service.humidityFilter.Follows (seeded (humidities words))
  temperature : words ≠ [] →
    IsMedian service.temperatureX100 ((seeded (temperatures words)).rtake 18)
  humidity : words ≠ [] →
    IsMedian service.humidityX100 ((seeded (humidities words)).rtake 18)
  nothing : words = [] → service.temperatureX100 = 0 ∧ service.humidityX100 = 0

/-- What the service has filtered. -/
def results (service : SensorService) : (MedianFilter × MedianFilter) × Int × Int :=
  ((service.temperatureFilter, service.humidityFilter), service.temperatureX100,
    service.humidityX100)

/-- Nothing but the results counts. -/
theorem HasFiltered.of_same
    {service other : SensorService}
    {words : List (UInt16 × UInt16)}
    (has : service.HasFiltered words)
    (same : other.results = service.results) :
    other.HasFiltered words := by
  obtain ⟨filters, values⟩ := Prod.mk.inj same
  obtain ⟨temperatureFilter, humidityFilter⟩ := Prod.mk.inj filters
  obtain ⟨temperature, humidity⟩ := Prod.mk.inj values
  refine ⟨?_, ?_, fun some => ?_, fun some => ?_, fun none => ?_⟩
  · rw [temperatureFilter]
    exact has.temperatureFilter
  · rw [humidityFilter]
    exact has.humidityFilter
  · rw [temperature]
    exact has.temperature some
  · rw [humidity]
    exact has.humidity some
  · rw [temperature, humidity]
    exact has.nothing none

theorem hasFiltered_start : HasFiltered SensorService.initialize [] where
  temperatureFilter := .reset
  humidityFilter := .reset
  temperature some := absurd rfl some
  humidity some := absurd rfl some
  nothing _ := ⟨rfl, rfl⟩

/-- Both filters are initialized behind the first measurement. -/
theorem HasFiltered.initialized_iff
    {service : SensorService}
    {words : List (UInt16 × UInt16)}
    (filtered : service.HasFiltered words) :
    ((!service.temperatureFilter.initialized || !service.humidityFilter.initialized) = true) ↔
      words = [] := by
  have temperature := filtered.temperatureFilter.initialized_iff
  have humidity := filtered.humidityFilter.initialized_iff
  rw [length_seeded_iff, temperatures, Ne, List.map_eq_nil_iff] at temperature
  rw [length_seeded_iff, humidities, Ne, List.map_eq_nil_iff] at humidity
  rw [Bool.or_eq_true, Bool.not_eq_true', Bool.not_eq_true', ← Bool.not_eq_true,
    ← Bool.not_eq_true, temperature, humidity, not_not, or_self]

/-- The range of the humidity makes its limits redundant. -/
theorem limited_humidityX100 (raw : UInt16) :
    (let humidityInput := Sht3xSensor.humidityX100 raw
     let humidityInput := if humidityInput < 0 then 0 else humidityInput
     if 10000 < humidityInput then 10000 else humidityInput) =
      Sht3xSensor.humidityX100 raw := by
  obtain ⟨lower, upper⟩ := Sht3xSensor.humidityX100_mem raw
  simp only [if_neg (Int.not_lt.mpr lower), if_neg (Int.not_lt.mpr upper)]

/-- The next raw words go into the filters. -/
theorem HasFiltered.filtered
    {service : SensorService}
    {words : List (UInt16 × UInt16)}
    (has : service.HasFiltered words)
    (rawTemperature rawHumidity : UInt16) :
    (service.filtered rawTemperature rawHumidity).HasFiltered
      (words ++ [(rawTemperature, rawHumidity)]) := by
  have limited := limited_humidityX100 rawHumidity
  have initialized := has.initialized_iff
  simp only at limited
  rw [SensorService.filtered]
  simp only [limited]
  split
  case isTrue first =>
    obtain rfl := initialized.mp first
    have seed (value : Int) : seeded [value] = List.replicate 18 value :=
      List.append_nil _
    have last (value : Int) : IsMedian value ((seeded [value]).rtake 18) := by
      rw [seed]
      exact MedianFilter.isMedian_replicate value
    refine ⟨?_, ?_, fun _ => last _, fun _ => last _, nofun⟩
    · show MedianFilter.Follows _ (seeded [_])
      rw [seed]
      exact .seed _
    · show MedianFilter.Follows _ (seeded [_])
      rw [seed]
      exact .seed _
  case isFalse later =>
    have some : words ≠ [] := fun none => later (initialized.mpr none)
    have temperature : seeded (temperatures (words ++ [(rawTemperature, rawHumidity)])) =
        seeded (temperatures words) ++ [Sht3xSensor.temperatureX100 rawTemperature] := by
      rw [temperatures, List.map_append]
      exact seeded_append_singleton (mt List.map_eq_nil_iff.mp some) _
    have humidity : seeded (humidities (words ++ [(rawTemperature, rawHumidity)])) =
        seeded (humidities words) ++ [Sht3xSensor.humidityX100 rawHumidity] := by
      rw [humidities, List.map_append]
      exact seeded_append_singleton (mt List.map_eq_nil_iff.mp some) _
    refine ⟨?_, ?_, fun _ => ?_, fun _ => ?_, fun none => ?_⟩
    · rw [temperature]
      exact has.temperatureFilter.apply _
    · rw [humidity]
      exact has.humidityFilter.apply _
    · rw [temperature]
      exact has.temperatureFilter.apply_isMedian _
    · rw [humidity]
      exact has.humidityFilter.apply_isMedian _
    · exact absurd none (List.append_ne_nil_of_right_ne_nil _ (List.cons_ne_nil _ _))

end SensorService

/-! ## What the registers show -/

namespace System

/-- The registers show what the service has filtered. -/
structure ShowsFiltered (sys : System D) (words : List (UInt16 × UInt16)) : Prop where
  filtered : sys.service.HasFiltered words
  temperature : sys.device.input regTempValue = sys.service.publishedTemperature
  humidity : sys.device.input regGasConctValue = sys.service.publishedHumidity

/-- What leaves the results and the published registers alone. -/
theorem ShowsFiltered.of_same
    {sys after : System D}
    {words : List (UInt16 × UInt16)}
    (shown : sys.ShowsFiltered words)
    (results : after.service.results = sys.service.results)
    (published : ∀ reg ∈ RegisterBank.publishedRegs,
      after.device.input reg = sys.device.input reg) :
    after.ShowsFiltered words := by
  have values := congrArg Prod.snd results
  have temperature : after.service.temperatureX100 = sys.service.temperatureX100 :=
    congrArg Prod.fst values
  have humidity : after.service.humidityX100 = sys.service.humidityX100 :=
    congrArg Prod.snd values
  refine ⟨shown.filtered.of_same results, ?_, ?_⟩
  · rw [published _ (by decide), SensorService.publishedTemperature, temperature]
    exact shown.temperature
  · rw [published _ (by decide), SensorService.publishedHumidity, humidity]
    exact shown.humidity

theorem ShowsFiltered.of_sameModbus
    {sys after : System D}
    {words : List (UInt16 × UInt16)}
    (shown : sys.ShowsFiltered words)
    (results : after.service.results = sys.service.results)
    (modbus : after.device.modbus = sys.device.modbus) :
    after.ShowsFiltered words :=
  shown.of_same results fun _ _ => by rw [Device.input, modbus, Device.input]

theorem ShowsFiltered.withErrors
    {sys : System D}
    {words : List (UInt16 × UInt16)}
    (shown : sys.ShowsFiltered words)
    (errors : ErrorManager) :
    (sys.withErrors errors).ShowsFiltered words :=
  shown.of_sameModbus rfl rfl

/-- A call of `process` on the bus: an accepted measurement is the payload at the next
position of the received stream, and anything else changes nothing that is shown. -/
theorem ShowsFiltered.processOn
    {sys : System D}
    {words : List (UInt16 × UInt16)}
    (shown : sys.ShowsFiltered words)
    (i2c1 : I2c1)
    (bus : I2cBus)
    (nowMs : UInt32) :
    let after := (sys.processOn i2c1 bus nowMs).1
    (sys.accessOn i2c1 bus nowMs ≠ .accepted → after.ShowsFiltered words) ∧
      (sys.accessOn i2c1 bus nowMs = .accepted → i2c1.ValidPayload bus.drReads ∧
        after.ShowsFiltered (words ++
          [(i2c1.temperatureWord bus.drReads, i2c1.humidityWord bus.drReads)])) := by
  intro after
  have refined : after = sys.process nowMs (sys.replyOn i2c1 bus) :=
    System.processOn_system i2c1 sys bus nowMs
  have cycle := sys.process_cycle nowMs (sys.replyOn i2c1 bus)
  rw [accessOn, refined]
  generalize reply_eq : sys.replyOn i2c1 bus = reply at cycle ⊢
  generalize sys.access nowMs reply = access, sys.process nowMs reply = after at cycle ⊢
  cases cycle with
  | accepted rawTemperature rawHumidity accepts =>
      refine ⟨fun notAccepted => absurd rfl notAccepted, fun _ => ?_⟩
      obtain ⟨state, -, reading, inRange⟩ := accepts
      rw [← reply_eq, replyOn, state] at reading
      obtain ⟨rfl, rfl, valid⟩ :=
        Sht3xSensor.validPayload_of_readMeasurement reading inRange
      obtain ⟨temperature, humidity, -⟩ := Device.updateModbus_published
        (sys.withErrors sys.device.errors.reportI2cSuccess.reportSensorReadSuccess).device
        _ _
      have noted : ({ sys.service with
          rawTemperature := i2c1.temperatureWord bus.drReads
          rawHumidity := i2c1.humidityWord bus.drReads } : SensorService).HasFiltered words :=
        shown.filtered.of_same rfl
      exact ⟨valid, (noted.filtered _ _).of_same rfl, temperature, humidity⟩
  | earlyTrigger | triggered | triggerFailed | earlyRead | readFailed | rejected =>
      refine ⟨fun _ => shown.of_sameModbus ?_ ?_, by simp⟩
      · simp only [failRead, rejectReading, SensorService.retry, SensorService.results]
      · simp only [failRead, rejectReading, System.withErrors]

end System

end SensorFirmware
