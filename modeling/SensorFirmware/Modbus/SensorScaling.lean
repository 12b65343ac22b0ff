import SensorFirmware.Modbus.Mirror
import SensorFirmware.Modbus.SensorCommit

/-!
# Scaled concentrations

The concentrations of a sensor package are divided by its factor when they are
decoded and multiplied by the stored factor when they are mirrored.  The stored
factor is one byte of the factor that divided.
-/

namespace SensorFirmware

open DoubleArith

/-- Scaling a word down by one factor and up by another one, exactly. -/
theorem toUInt16_scale
    (word factor scale : UInt16) :
    (toUInt16 (mul (div (ofWord word) (ofWord factor)) (ofWord scale) : ℚ)) =
      UInt16.ofNat (word.toNat * scale.toNat / factor.toNat) := by
  let product : ℕ := word.toNat * scale.toNat
  let scaled : ℚ := ((product : ℤ) : ℚ) / (factor.toNat : ℚ)
  have quotient : (mul (div (ofWord word) (ofWord factor)) (ofWord scale) : ℚ) = scaled := by
    show ((word.toNat : ℤ) : ℚ) / ((factor.toNat : ℤ) : ℚ) * ((scale.toNat : ℤ) : ℚ) = _
    simp only [scaled, product]
    push_cast
    ring
  have nonneg : 0 ≤ scaled := div_nonneg (by exact_mod_cast Nat.zero_le product)
    (by exact_mod_cast Nat.zero_le factor.toNat)
  have truncated : scaled.num.tdiv scaled.den = ((product / factor.toNat : ℕ) : ℤ) := by
    rw [Int.tdiv_eq_ediv_of_nonneg (Rat.num_nonneg.mpr nonneg), ← Rat.floor_def',
      Rat.floor_intCast_div_natCast]
    rfl
  have wrapped : (((product / factor.toNat : ℕ) : ℤ) % 2 ^ 16).toNat =
      product / factor.toNat % 2 ^ 16 := by omega
  rw [quotient]
  show UInt16.ofInt (scaled.num.tdiv scaled.den) = _
  rw [truncated, UInt16.ofInt, wrapped]
  exact UInt16.toNat.inj (Nat.mod_mod _ _)

/-- A positive factor scales a word back exactly when the word is zero or nothing is
lost of the factor. -/
theorem scale_eq_self_iff
    {word factor scale : Nat}
    (positive : 0 < factor)
    (smaller : scale ≤ factor) :
    word * scale / factor = word ↔ word = 0 ∨ scale = factor := by
  constructor
  · intro same
    by_contra neither
    rw [not_or] at neither
    have less : word * scale < word * factor :=
      Nat.mul_lt_mul_of_pos_left (by omega) (Nat.pos_of_ne_zero neither.1)
    have below : word * scale / factor < word := (Nat.div_lt_iff_lt_mul positive).mpr less
    omega
  · rintro (rfl | rfl)
    · rw [Nat.zero_mul, Nat.zero_div]
    · exact Nat.mul_div_cancel word positive

/-- The factor by which the mirror multiplies after a package with the given one. -/
def storedFactor (factor : UInt16) : UInt16 :=
  if factor.toUInt8 = 0 then 1 else factor.toUInt8.toUInt16

theorem storedFactor_toNat
    (factor : UInt16)
    (positive : 0 < factor.toNat) :
    (storedFactor factor).toNat ≤ factor.toNat ∧
      ((storedFactor factor).toNat = factor.toNat ↔ factor ≤ 255) := by
  have limit : factor ≤ 255 ↔ factor.toNat ≤ 255 := UInt16.le_iff_toNat_le
  have narrow : factor.toUInt8.toNat = factor.toNat % 256 := UInt16.toNat_toUInt8 factor
  have zero : factor.toUInt8 = 0 ↔ factor.toNat % 256 = 0 := by
    rw [← UInt8.toNat_inj, narrow]
    rfl
  rw [limit, storedFactor]
  split
  · rename_i lost
    have multiple := zero.mp lost
    have one : (1 : UInt16).toNat = 1 := rfl
    rw [one]
    omega
  · rename_i kept
    have remainder := zero.not.mp kept
    rw [UInt8.toNat_toUInt16, narrow]
    omega

/-- A word comes back through both scalings exactly when it is zero or the factor
fits into a byte. -/
theorem scaled_word_iff
    (word factor : UInt16)
    (positive : 0 < factor.toNat) :
    (toUInt16
        (mul (div (ofWord word) (ofWord factor)) (ofWord (storedFactor factor)) : ℚ)) =
      word ↔ word = 0 ∨ factor ≤ 255 := by
  obtain ⟨smaller, whole⟩ := storedFactor_toNat factor positive
  have bound : word.toNat * (storedFactor factor).toNat / factor.toNat ≤ word.toNat :=
    Nat.div_le_of_le_mul (by rw [Nat.mul_comm]; exact Nat.mul_le_mul_right _ smaller)
  have small := word.toNat_lt
  have exact_ : (UInt16.ofNat
      (word.toNat * (storedFactor factor).toNat / factor.toNat)).toNat =
        word.toNat * (storedFactor factor).toNat / factor.toNat :=
    Nat.mod_eq_of_lt (by omega)
  rw [toUInt16_scale, ← UInt16.toNat_inj, exact_, scale_eq_self_iff positive smaller, whole,
    ← UInt16.toNat_inj]
  rfl

namespace Device

variable (dev : Device ℚ) (data : Nat → UInt16) (len : UInt8)

/-- The factor of a package is positive. -/
theorem factor_pos : 0 < (factor data len).toNat := by
  unfold factor
  split
  · rename_i present
    exact UInt16.lt_iff_toNat_lt.mp present.2
  · decide

/-- The concentrations and the factor that an accepted package leaves. -/
theorem saveSensorSettings_scaled
    (accepted : (dev.saveSensorSettings (some data) len).1 ≠ 0) :
    let sensor := (dev.saveSensorSettings (some data) len).2.sensor
    sensor.gasConcRange = div (ofWord (data 4)) (ofWord (factor data len)) ∧
      sensor.calibration.apliedGasConc =
        div (ofWord (data 33)) (ofWord (factor data len)) ∧
      RegisterBank.scaleFactor sensor = storedFactor (factor data len) := by
  have settings := (saveSensorSettings_accepted dev data len accepted).2
  have mulFactor : (dev.saveSensorSettings (some data) len).2.sensor.mulFactor =
      if (factor data len).toUInt8 = 0 then 1 else (factor data len).toUInt8 := by
    rw [settings]
    rfl
  refine ⟨by rw [settings]; rfl, by rw [settings]; rfl, ?_⟩
  rw [RegisterBank.scaleFactor, mulFactor, storedFactor]
  split
  · rfl
  · rfl

/-- After an accepted package the concentration registers show its words exactly
when the factor fits into a byte or both words are zero. -/
theorem saveSensorSettings_concentrations_iff
    (accepted : (dev.saveSensorSettings (some data) len).1 = 1) :
    let synced := (dev.saveSensorSettings (some data) len).2.syncAll
    ((synced.holding regGasConctRange = data 4 ∧ synced.input regGasConctRange = data 4) ∧
        synced.holding regCalbConcVal = data 33 ∧
          synced.input regCalbConcVal = data 33) ↔
      factor data len ≤ 255 ∨ (data 4 = 0 ∧ data 33 = 0) := by
  have nonzero := (dev.saveSensorSettings_eq_one_iff (some data) len).mp accepted
  have scaled := saveSensorSettings_scaled dev data len nonzero
  generalize (dev.saveSensorSettings (some data) len).2 = after at scaled ⊢
  obtain ⟨range, applied, scale⟩ := scaled
  have shown := RegisterBank.syncAll_concentrations after.build after.deviceConfig
    after.sensor after.errors after.modbus.bank
  rw [range, applied, scale] at shown
  obtain ⟨⟨holdingRange, inputRange⟩, holdingApplied, inputApplied⟩ := shown
  have word (index : Nat) := scaled_word_iff (data index) (factor data len)
    (factor_pos data len)
  intro synced
  have holdingRange : synced.holding regGasConctRange = _ := holdingRange
  have inputRange : synced.input regGasConctRange = _ := inputRange
  have holdingApplied : synced.holding regCalbConcVal = _ := holdingApplied
  have inputApplied : synced.input regCalbConcVal = _ := inputApplied
  rw [holdingRange, inputRange, holdingApplied, inputApplied, word, word, and_self,
    and_self, ← and_or_right]
  exact or_comm

/-- A package for oxygen with the factor 256. -/
def factor256Package (index : Nat) : UInt16 :=
  if index = 2 then 65
  else if index = 4 then 100
  else if index = 63 then 256
  else 2

private theorem factor256Package_accepted :
    ((firstBoot BuildInfo.unitTest : Device ℚ).saveSensorSettings
      (some factor256Package) 64).1 = 1 := by
  have hard : HardChecksPass factor256Package := by decide
  exact (saveSensorSettings_eq_one_iff_accepts _ _ _).mpr ⟨by decide, Or.inl hard⟩

theorem saveSensorSettings_concentrations_iff_factor256 :
    let dev : Device ℚ := firstBoot BuildInfo.unitTest
    let synced := (dev.saveSensorSettings (some factor256Package) 64).2.syncAll
    ((synced.holding regGasConctRange = factor256Package 4 ∧
          synced.input regGasConctRange = factor256Package 4) ∧
        synced.holding regCalbConcVal = factor256Package 33 ∧
          synced.input regCalbConcVal = factor256Package 33) ↔
      factor factor256Package 64 ≤ 255 ∨
        (factor256Package 4 = 0 ∧ factor256Package 33 = 0) :=
  saveSensorSettings_concentrations_iff _ factor256Package 64 factor256Package_accepted

/-- Its range of 100 comes back as zero. -/
theorem saveSensorSettings_loses_range :
    let dev : Device ℚ := firstBoot BuildInfo.unitTest
    let handled := dev.saveSensorSettings (some factor256Package) 64
    handled.1 = 1 ∧ factor256Package 4 = 100 ∧
      handled.2.syncAll.holding regGasConctRange = 0 := by
  intro dev handled
  have accepted : handled.1 = 1 := factor256Package_accepted
  have nonzero := (dev.saveSensorSettings_eq_one_iff (some factor256Package) 64).mp accepted
  obtain ⟨range, _, scale⟩ := saveSensorSettings_scaled dev factor256Package 64 nonzero
  refine ⟨accepted, rfl, ?_⟩
  have shown := (RegisterBank.syncAll_concentrations handled.2.build
    handled.2.deviceConfig handled.2.sensor handled.2.errors handled.2.modbus.bank).1.1
  rw [range, scale] at shown
  exact shown.trans (toUInt16_scale _ _ _)

end Device

end SensorFirmware
