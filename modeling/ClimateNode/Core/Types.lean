import ClimateNode.Machine.CheckedInt

/-!
# Units, error codes and the platform the core calls

`core/types.h` and `core/errors.h`: temperatures are in 0.01 degC, humidities in 0.01 %, times in
milliseconds. `Platform` is the part of the board the core layer reaches through its three external
functions: the relay output, as the list of values it was set to, newest first, and the backup
register, which keeps one byte across resets.

Pointer arguments that every caller passes are values here, so the null guards on them are absent;
a pointer that some caller leaves null is an `Option`.
-/

set_option autoImplicit false

namespace ClimateNode.Core

abbrev TempCd := Int32
abbrev RhCp := UInt32
abbrev TimeMs := UInt32

/-- `TEMP_CD_MIN`. -/
def tempCdMin : TempCd := -4000

/-- `TEMP_CD_MAX`. -/
def tempCdMax : TempCd := 8500

/-- `RH_CP_MAX`. -/
def rhCpMax : RhCp := 10000

@[simp] theorem toInt_tempCdMin : tempCdMin.toInt = -4000 := rfl
@[simp] theorem toInt_tempCdMax : tempCdMax.toInt = 8500 := rfl
@[simp] theorem toNat_rhCpMax : rhCpMax.toNat = 10000 := rfl

/-- `err_t`. -/
inductive Err where
  | ok
  | invalidArg
  | outOfRange
  | notReady
  | warmup
  | sensor
  | math
  | state
  | comm
  | storage
  | config
  | hw
  | notFound
  deriving DecidableEq, Repr

/-- `quality_t`. -/
inductive Quality where
  | invalid
  | warmup
  | valid
  | fault
  deriving DecidableEq, Repr

/-- `sample_t`. -/
structure Sample where
  tempCd : TempCd
  rhCp : RhCp
  timestampMs : TimeMs
  quality : Quality
  deriving DecidableEq, Repr

/-- `reset_cause_t`. -/
inductive ResetCause where
  | powerOn
  | watchdog
  | software
  | external
  | unknown
  deriving DecidableEq, Repr

/-! ## The platform -/

/-- The relay calls, newest first, and the backup register. -/
structure Platform where
  relayCalls : List Bool
  backupReg : UInt8
  deriving DecidableEq, Repr

/-- `platform_relay_set`. -/
def platformRelaySet (p : Platform) (on : Bool) : Platform :=
  { p with relayCalls := on :: p.relayCalls }

/-- `platform_relay_get`: the value last set, or off after reset. -/
def platformRelayGet (p : Platform) : Bool := p.relayCalls.headD false

/-- `platform_emergency_backup_save` of one byte. -/
def platformEmergencyBackupSave (p : Platform) (data : UInt8) : Platform :=
  { p with backupReg := data }

/-- `platform_emergency_backup_load` of one byte: both platforms return the register. -/
def platformEmergencyBackupLoad (p : Platform) : Option UInt8 := some p.backupReg

@[simp] theorem relayCalls_platformRelaySet (p : Platform) (on : Bool) :
    (platformRelaySet p on).relayCalls = on :: p.relayCalls := rfl

end ClimateNode.Core
