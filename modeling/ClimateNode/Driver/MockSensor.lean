import ClimateNode.Core.ControllerRefinement

/-!
# The mock sensor

`driver/mock_sensor.c`, which the host runner reads: pseudo-random temperatures around 22.5 °C at
65 % humidity, with five samples reported as invalid. The readings lie in one band
(`mockSensorRead_inBand`), in which the default margins keep the relay off (`mockBand_dry`).
-/

set_option autoImplicit false

namespace ClimateNode.Drivers

open ClimateNode.Core ClimateNode.Machine

/-- `mock_sensor_read`, on the `step` of `mock_sensor_t`. -/
def mockSensorRead (step : UInt32) : (Err × Sample) × UInt32 :=
  let x := step * 1103515245 + 12345
  let x := x ^^^ (x >>> 16)
  let noise := (x % 101).toInt32 - 50
  let quality := if step ≥ 20 ∧ step < 25 then Quality.invalid else .valid
  ((.ok, ⟨2250 + noise, 6500, 0, quality⟩), step + 1)

/-- The noise moves the temperature by half a degree at most, without overflow. -/
theorem toInt_noise {x : UInt32} (hx : x.toNat ≤ 100) :
    (2250 + (x.toInt32 - 50) : Int32).toInt = 2200 + (x.toNat : Int) := by
  have hcast : x.toInt32.toInt = x.toNat := toInt_toInt32_of_lt (by omega)
  have hbase : (2250 : Int32).toInt = 2250 := rfl
  have hhalf : (50 : Int32).toInt = 50 := rfl
  have hnoise : ((x.toNat : Int) - 50).bmod (2 ^ 32) = x.toNat - 50 :=
    Int.bmod_eq_of_le (by omega) (by omega)
  rw [Int32.toInt_add, Int32.toInt_sub, hcast, hbase, hhalf, hnoise,
    Int.bmod_eq_of_le (by omega) (by omega)]
  omega

/-- What a reading of a sample says. -/
theorem eq_of_idealReading {s : Sample} {r : Reading} (h : idealReading s = some r) :
    r = ⟨s.tempCd.toInt, s.rhCp.toNat⟩ := by
  rw [idealReading] at h
  split at h
  · exact (Option.some.inj h).symm
  · cases h

theorem mockSensorRead_inBand (step : UInt32) (r : Reading)
    (hr : idealReading (mockSensorRead step).1.2 = some r) : InBand 2200 2300 6500 r := by
  rw [eq_of_idealReading hr]
  -- the noise is a remainder of 101, less 50
  have hnoise : ∀ x : UInt32, 2200 ≤ (2250 + ((x % 101).toInt32 - 50) : Int32).toInt ∧
      (2250 + ((x % 101).toInt32 - 50) : Int32).toInt ≤ 2300 := by
    intro x
    have hlt : (x % 101).toNat < 101 := by
      rw [UInt32.toNat_mod]
      exact Nat.mod_lt _ (by decide)
    rw [toInt_noise (by omega)]
    omega
  exact ⟨(hnoise _).1, (hnoise _).2, rfl⟩

/-- Every temperature of the band is more than the lower default margin above the dew point. -/
theorem mockBand_dry (t : Int) (hlow : 2200 ≤ t) (hhigh : t ≤ 2300) :
    500 ≤ t - idealDew dewpointLnRhQ10 t 6500 := by
  -- the band has 101 temperatures
  have hall : (List.range 101).all (fun i => decide
      (500 ≤ 2200 + (i : Int) - idealDew dewpointLnRhQ10 (2200 + (i : Int)) 6500)) = true := by
    decide +kernel
  have hmem : (t - 2200).toNat ∈ List.range 101 := List.mem_range.2 (by omega)
  have ht : (2200 : Int) + ((t - 2200).toNat : Nat) = t := by omega
  have hdry := of_decide_eq_true (List.all_eq_true.1 hall _ hmem)
  rwa [ht] at hdry

end ClimateNode.Drivers
