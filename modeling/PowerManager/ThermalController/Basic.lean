import PowerManager.Hysteresis
import PowerManager.Machine
import PowerManager.Types
import Mathlib.Algebra.Order.Field.Rat
import Mathlib.Data.Rat.Cast.Order

/-!
# The thermal controller

`ThermalController` polls the temperature of the device and protects it from overheating: it puts
the device to deep sleep, reboots it, or slows its CPU down. Deep sleep and reboot share one scheme,
the zone of `Hysteresis`; `declockIfNeeded` has its own.

The model is that of a process in which controllers are created and destroyed, one at a time. What a
controller keeps in its members ends with it; what it keeps in function-local statics, `Statics`, is
the process's and outlives it.

* `ThermalController.create` — the constructor, with the RFC parameters and the clock speeds;
* `ThermalController.pollThermalLevels` — one turn of the polling loop;
* `thermal` — the machine; its outputs are what the controller does to its surroundings.

Log messages are left out, and with them the counters of the polling loop that serve only them. The
conversion of a temperature to `int` is that of a finite one in the range of `int`; it is undefined
in the source for others.
-/

namespace PowerManager.Thermal

/-- `Exchange::IPowerManager::ThermalTemperature`. -/
inductive ThermalTemperature
  | unknown
  | normal
  | high
  | critical
  deriving DecidableEq, Repr

/-- `tv_sec` of a reading of `gettimeofday`, which is taken in microseconds since the epoch. -/
def tvSec (t : ℤ) : ℤ := t / 1000000

/-- The conversion of a `float` to `int`, towards zero. -/
def truncate (temperature : ℚ) : ℤ := temperature.num.tdiv temperature.den

@[simp]
theorem truncate_intCast (n : ℤ) : truncate n = n := by
  simp [truncate]

/-- A temperature that reaches a whole number of degrees still does so as an `int`. -/
theorem le_truncate {n : ℤ} {temperature : ℚ} (h : (n : ℚ) ≤ temperature) :
    n ≤ truncate temperature := by
  have hden : (0 : ℤ) < temperature.den := by exact_mod_cast temperature.den_pos
  have hmul : n * temperature.den ≤ temperature.num := by
    rw [Rat.le_iff] at h
    simpa using h
  have hdiv : n ≤ temperature.num / temperature.den := (Int.le_ediv_iff_mul_le hden).mpr hmul
  rw [truncate, Int.tdiv_eq_ediv, Int.sign_eq_one_of_pos hden]
  split <;> omega

/-- `ThermalController::Thresholds`. -/
structure Thresholds where
  critical : ℤ
  concern : ℤ
  safe : ℤ
  graceInterval : ℤ
  deriving DecidableEq, Repr

/-- What the controller does to its surroundings. -/
inductive Action
  /-- The platform's `SetTemperatureThresholds`. -/
  | setTemperatureThresholds (tempHigh tempCritical : ℤ)
  /-- The parent's `onThermalTemperatureChanged`. -/
  | thermalTemperatureChanged (curLevel newLevel : ThermalTemperature) (temperature : ℚ)
  /-- `logThermalShutdownReason`. -/
  | logThermalShutdownReason
  /-- The parent's `onDeepSleepForThermalChange`. -/
  | deepSleepForThermalChange
  /-- The run of `/rebootNow.sh`. -/
  | rebootNow (reason : String)
  /-- The platform's `SetClockSpeed`, and what it returns. -/
  | setClockSpeed (speed : UInt32) (result : ErrorCode)
  /-- `SetOvertempGraceInterval` returns. -/
  | returned (errorCode : ErrorCode)
  deriving DecidableEq, Repr

/-- The function-local statics of `ThermalController`. -/
structure Statics where
  /-- `monitorTime` of `rebootIfNeeded`. -/
  rebootMonitorTime : ℤ
  /-- `monitorTime` of `deepSleepIfNeeded`. -/
  deepSleepMonitorTime : ℤ
  deepSleepZone : Bool
  /-- `monitorTime` of `declockIfNeeded`. -/
  declockMonitorTime : ℤ
  deriving DecidableEq, Repr

/-- The statics when the process starts. -/
def Statics.zero : Statics := ⟨0, 0, false, 0⟩

/-- The `ThermalController` object. `read_config_param` is false in the constructor, the only place
where it is read, and is left out. -/
structure ThermalController where
  /-- `_rebootZone`; the flag of `deepSleepIfNeeded` is a static. -/
  rebootZone : Bool
  rebootThreshold : Thresholds
  deepsleepThreshold : Thresholds
  declockThreshold : Thresholds
  thermalPollInterval : ℤ
  isFeatureEnabled : Bool
  curThermalLevel : ThermalTemperature
  curThermalValue : ℤ
  curCpuSpeed : UInt32
  platCpuSpeedNormal : UInt32
  platCpuSpeedScaled : UInt32
  platCpuSpeedMinimal : UInt32
  deriving DecidableEq, Repr

/-! ## Construction -/

/-- The options of the build. -/
structure Build where
  /-- `MFR_TEMP_CLOCK_READ`. -/
  mfrTempClockRead : Bool
  /-- `DISABLE_DECLOCKING_LOGIC`. -/
  disableDeclockingLogic : Bool

/-- The RFC parameters of the group that `read_ConfigProps` asks for, named without their common
beginning `RFC_DATA_ThermalProtection_`. -/
inductive RfcKey
  | rebootCriticalThreshold
  | rebootConcernThreshold
  | rebootSafeThreshold
  | rebootGraceInterval
  | declockCriticalThreshold
  | declockConcernThreshold
  | declockSafeThreshold
  | declockGraceInterval
  | deepsleepCriticalThreshold
  | deepsleepConcernThreshold
  | deepsleepSafeThreshold
  | deepsleepGraceInterval
  | pollInterval
  | platCpuSpeedNormal
  | platCpuSpeedScaled
  | platCpuSpeedMinimal
  deriving DecidableEq, Repr

/-- What a new controller finds. -/
structure Configuration where
  /-- The value of `RFC_ENABLE_ThermalProtection`, if it is configured. -/
  rfcEnable : Option String
  /-- What `atoi` makes of the string that `read_ConfigProperty` returns, unless it returns null. -/
  configProperty : RfcKey → Option ℤ
  /-- What the platform's `DetemineClockSpeeds` leaves in its three arguments. -/
  detemineClockSpeeds : UInt32 → UInt32 → UInt32 → UInt32 × UInt32 × UInt32

/-- The values of a group of RFC parameters override the thresholds one by one. -/
def Thresholds.override (t : Thresholds) (critical concern safe graceInterval : Option ℤ) :
    Thresholds where
  critical := critical.getD t.critical
  concern := concern.getD t.concern
  safe := safe.getD t.safe
  graceInterval := graceInterval.getD t.graceInterval

namespace ThermalController

/-- The members before the body of the constructor. -/
def initial (build : Build) : ThermalController where
  rebootZone := false
  rebootThreshold :=
    if build.mfrTempClockRead then ⟨110, 102, 100, 600⟩ else ⟨120, 120, 110, 600⟩
  deepsleepThreshold :=
    if build.mfrTempClockRead then ⟨105, 100, 90, 600⟩ else ⟨115, 110, 100, 600⟩
  declockThreshold :=
    if build.mfrTempClockRead then ⟨100, 90, 80, 60⟩ else ⟨110, 100, 90, 60⟩
  thermalPollInterval := 30
  isFeatureEnabled := true
  curThermalLevel := .normal
  curThermalValue := 0
  curCpuSpeed := 0
  platCpuSpeedNormal := 0
  platCpuSpeedScaled := 0
  platCpuSpeedMinimal := 0

/-- `read_ConfigProps`. -/
def readConfigProps (c : ThermalController) (value : RfcKey → Option ℤ) : ThermalController :=
  { c with
    rebootThreshold := c.rebootThreshold.override (value .rebootCriticalThreshold)
      (value .rebootConcernThreshold) (value .rebootSafeThreshold) (value .rebootGraceInterval)
    declockThreshold := c.declockThreshold.override (value .declockCriticalThreshold)
      (value .declockConcernThreshold) (value .declockSafeThreshold) (value .declockGraceInterval)
    deepsleepThreshold := c.deepsleepThreshold.override (value .deepsleepCriticalThreshold)
      (value .deepsleepConcernThreshold) (value .deepsleepSafeThreshold)
      (value .deepsleepGraceInterval)
    thermalPollInterval := (value .pollInterval).getD c.thermalPollInterval
    platCpuSpeedNormal :=
      ((value .platCpuSpeedNormal).map UInt32.ofInt).getD c.platCpuSpeedNormal
    platCpuSpeedScaled :=
      ((value .platCpuSpeedScaled).map UInt32.ofInt).getD c.platCpuSpeedScaled
    platCpuSpeedMinimal :=
      ((value .platCpuSpeedMinimal).map UInt32.ofInt).getD c.platCpuSpeedMinimal }

/-- The value of `RFC_ENABLE_ThermalProtection` begins with `false`, in upper or lower case. -/
def saysFalse (value : String) : Bool :=
  decide ((value.toList.take 5).map Char.toLower = ['f', 'a', 'l', 's', 'e'])

/-- `isThermalProtectionEnabled`, with `updateRFCStatus`: the properties are read only if the
feature is configured and not switched off. -/
def isThermalProtectionEnabled (c : ThermalController) (cfg : Configuration) : ThermalController :=
  match cfg.rfcEnable with
  | none => { c with isFeatureEnabled := true }
  | some value =>
    if saysFalse value then { c with isFeatureEnabled := false }
    else { c with isFeatureEnabled := true }.readConfigProps cfg.configProperty

/-- The part of `initializeThermalProtection` that prepares declocking. -/
def initializeDeclocking (c : ThermalController) (cfg : Configuration) : ThermalController :=
  if c.declockThreshold.graceInterval > 0 then
    let speeds :=
      cfg.detemineClockSpeeds c.platCpuSpeedNormal c.platCpuSpeedScaled c.platCpuSpeedMinimal
    -- a platform that does not know all three speeds is not declocked
    let missing := speeds.1 = 0 ∨ speeds.2.1 = 0 ∨ speeds.2.2 = 0
    { c with
      platCpuSpeedNormal := speeds.1
      platCpuSpeedScaled := speeds.2.1
      platCpuSpeedMinimal := speeds.2.2
      declockThreshold.graceInterval := if missing then 0 else c.declockThreshold.graceInterval
      curCpuSpeed := speeds.1 }
  else c

/-- `initializeThermalProtection`. -/
def initializeThermalProtection (c : ThermalController) (build : Build) (cfg : Configuration) :
    ThermalController × List Action :=
  let c := c.isThermalProtectionEnabled cfg
  if c.isFeatureEnabled then
    let c := if build.disableDeclockingLogic then c else c.initializeDeclocking cfg
    (c, [.setTemperatureThresholds c.declockThreshold.concern c.declockThreshold.critical])
  else
    (c, [])

/-- The constructor. -/
def create (build : Build) (cfg : Configuration) : ThermalController × List Action :=
  (initial build).initializeThermalProtection build cfg

end ThermalController

/-! ## Deep sleep and reboot -/

/-- The scheme of the zones, with whole seconds of the clock. -/
def Thresholds.hysteresis (t : Thresholds) : Hysteresis ℤ ℤ where
  critical := t.critical
  concern := t.concern
  safe := t.safe
  due since now := decide (tvSec now - tvSec since ≥ t.graceInterval)

theorem Thresholds.due_iff (t : Thresholds) (since now : ℤ) :
    t.hysteresis.due since now = true ↔ tvSec now - tvSec since ≥ t.graceInterval :=
  decide_eq_true_iff

/-- What `rebootIfNeeded` and `deepSleepIfNeeded` have in common: the zone after a reading, and the
actions that a critical reading and the end of the grace interval call for. A grace interval of zero
disables the check. -/
def Thresholds.check (t : Thresholds) (zone : Zone ℤ) (value : ℤ) (now : ℤ)
    (action action' : List Action) : Zone ℤ × List Action :=
  if t.graceInterval = 0 then (zone, [])
  else
    let zone' := t.hysteresis.move zone value now
    (zone', (if t.critical ≤ value then action else []) ++
      if t.hysteresis.expired zone' now then action' else [])

namespace ThermalController

/-- The reason given for a reboot at a critical reading. -/
def reasonCritical : String :=
  "Rebooting the box due to stb temperature greater than rebootThreshold critical..."

/-- The reason given for a reboot at the end of the grace interval. -/
def reasonGrace : String :=
  "Rebooting the box as the stb temperature is still above critical level after 20 seconds..."

/-- The zone of `rebootIfNeeded`: the flag is a member, the time is a static. -/
def rebootZoneOf (c : ThermalController) (st : Statics) : Zone ℤ :=
  ⟨c.rebootZone, st.rebootMonitorTime⟩

/-- `rebootIfNeeded`. -/
def rebootIfNeeded (c : ThermalController) (st : Statics) (now : ℤ) :
    ThermalController × Statics × List Action :=
  let r := c.rebootThreshold.check (c.rebootZoneOf st) c.curThermalValue now
    [.rebootNow reasonCritical] [.rebootNow reasonGrace]
  ({ c with rebootZone := r.1.active }, { st with rebootMonitorTime := r.1.since }, r.2)

end ThermalController

/-- The zone of `deepSleepIfNeeded`: both its parts are statics. -/
def Statics.deepSleepZoneOf (st : Statics) : Zone ℤ :=
  ⟨st.deepSleepZone, st.deepSleepMonitorTime⟩

namespace ThermalController

/-- `deepSleepIfNeeded`. -/
def deepSleepIfNeeded (c : ThermalController) (st : Statics) (now : ℤ) :
    Statics × List Action :=
  let r := c.deepsleepThreshold.check st.deepSleepZoneOf c.curThermalValue now
    [.logThermalShutdownReason, .deepSleepForThermalChange]
    [.logThermalShutdownReason, .deepSleepForThermalChange]
  ({ st with deepSleepZone := r.1.active, deepSleepMonitorTime := r.1.since }, r.2)

/-! ## Declocking -/

/-- A call of the platform's `SetClockSpeed`. The new speed is recorded, whatever the result. -/
def setClockSpeed (c : ThermalController) (speed : UInt32) (result : ErrorCode) :
    ThermalController × List Action :=
  ({ c with curCpuSpeed := speed }, [.setClockSpeed speed result])

/-- `declockIfNeeded`; `result` is what `SetClockSpeed` returns if it is called. -/
def declockIfNeeded (c : ThermalController) (build : Build) (st : Statics) (now : ℤ)
    (result : ErrorCode) : ThermalController × Statics × List Action :=
  if build.disableDeclockingLogic then (c, st, [])
  else if c.declockThreshold.graceInterval = 0 then (c, st, [])
  else if c.curThermalValue ≥ c.declockThreshold.critical then
    let r :=
      if c.curCpuSpeed ≠ c.platCpuSpeedMinimal then c.setClockSpeed c.platCpuSpeedMinimal result
      else (c, [])
    (r.1, { st with declockMonitorTime := now }, r.2)
  else if c.curThermalValue ≥ c.declockThreshold.concern then
    let r :=
      if c.curCpuSpeed = c.platCpuSpeedNormal then c.setClockSpeed c.platCpuSpeedScaled result
      else (c, [])
    (r.1, { st with declockMonitorTime := now }, r.2)
  else if c.curThermalValue > c.declockThreshold.safe then
    if c.curCpuSpeed = c.platCpuSpeedMinimal then
      if tvSec now - tvSec st.declockMonitorTime ≥ c.declockThreshold.graceInterval then
        let r := c.setClockSpeed c.platCpuSpeedScaled result
        (r.1, { st with declockMonitorTime := now }, r.2)
      else (c, st, [])
    -- between safe and concern the interval begins anew, unless the speed is minimal
    else (c, { st with declockMonitorTime := now }, [])
  else if c.curCpuSpeed ≠ c.platCpuSpeedNormal then
    if tvSec now - tvSec st.declockMonitorTime ≥ c.declockThreshold.graceInterval then
      let r := c.setClockSpeed c.platCpuSpeedNormal result
      -- this branch leaves the time as it is
      (r.1, st, r.2)
    else (c, st, [])
  else (c, st, [])

end ThermalController

/-! ## The polling loop -/

/-- A reading of the temperature, the clock at that time, and what a call of `SetClockSpeed` would
return. -/
structure Reading where
  level : ThermalTemperature
  temperature : ℚ
  now : ℤ
  clockSpeedResult : ErrorCode

/-- One turn of the polling loop. -/
inductive Turn
  /-- The device is in deep sleep, and the turn is skipped. -/
  | deepSleep
  /-- The platform's `GetTemperature` fails. -/
  | failed
  | read (r : Reading)

/-- The reading of a turn. -/
def Turn.reading? : Turn → Option Reading
  | .read r => some r
  | _ => none

namespace ThermalController

/-- The part of a turn under `_therm_mutex`, after a successful `GetTemperature`. -/
def record (c : ThermalController) (level : ThermalTemperature) (temperature : ℚ) :
    ThermalController × List Action :=
  ({ c with curThermalLevel := level, curThermalValue := truncate temperature },
    if c.curThermalLevel ≠ level then
      [.thermalTemperatureChanged c.curThermalLevel level temperature]
    else [])

/-- One turn of `pollThermalLevels`. -/
def pollThermalLevels (c : ThermalController) (build : Build) (st : Statics) :
    Turn → ThermalController × Statics × List Action
  | .deepSleep => (c, st, [])
  | .failed => (c, st, [])
  | .read r =>
    let recorded := c.record r.level r.temperature
    -- deep sleep is looked at before the reboot
    let slept := recorded.1.deepSleepIfNeeded st r.now
    let rebooted := recorded.1.rebootIfNeeded slept.1 r.now
    let declocked := rebooted.1.declockIfNeeded build rebooted.2.1 r.now r.clockSpeedResult
    (declocked.1, declocked.2.1, recorded.2 ++ slept.2 ++ rebooted.2.2 ++ declocked.2.2)

/-- `SetOvertempGraceInterval`. -/
def setOvertempGraceInterval (c : ThermalController) (graceInterval : ℤ) :
    ThermalController × List Action :=
  if graceInterval ≥ 0 then
    ({ c with
        rebootThreshold.graceInterval := graceInterval
        deepsleepThreshold.graceInterval := graceInterval },
      [.returned .errorNone])
  else
    (c, [.returned .errorInvalidParameter])

end ThermalController

/-! ## The process -/

/-- The process: the statics, and the controller, if there is one. -/
structure Process where
  statics : Statics
  controller : Option ThermalController
  deriving DecidableEq, Repr

/-- The process when it starts. -/
def Process.start : Process := ⟨.zero, none⟩

/-- A step of the process. -/
inductive Label
  | create (cfg : Configuration)
  | poll (turn : Turn)
  | setOvertempGraceInterval (graceInterval : ℤ)
  /-- The destructor stops the polling thread and waits for it. The thread may have taken a last
  reading, after which it leaves the loop. -/
  | destroy (last : Option (ThermalTemperature × ℚ))

/-- The process as a machine. Only an enabled controller polls. -/
def thermal (build : Build) : Machine Process Label Action where
  step p l :=
    match p.controller, l with
    | none, .create cfg =>
      let r := ThermalController.create build cfg
      some ({ p with controller := some r.1 }, r.2)
    | some c, .poll turn =>
      if c.isFeatureEnabled then
        let r := c.pollThermalLevels build p.statics turn
        some (⟨r.2.1, some r.1⟩, r.2.2)
      else none
    | some c, .setOvertempGraceInterval graceInterval =>
      let r := c.setOvertempGraceInterval graceInterval
      some ({ p with controller := some r.1 }, r.2)
    | some c, .destroy last =>
      some ({ p with controller := none },
        if c.isFeatureEnabled then
          (last.map fun r => (c.record r.1 r.2).2).getD []
        else [])
    | _, _ => none

/-! ## What the operations leave alone -/

variable {c : ThermalController} {st : Statics} {build : Build} {cfg : Configuration}

/-- What `declockIfNeeded` decides at the given reading: the speed it sets, if it sets one, and
whether its grace interval begins anew. -/
def ThermalController.declockDecision (c : ThermalController) (build : Build)
    (value monitorTime now : ℤ) : Option UInt32 × Bool :=
  if build.disableDeclockingLogic then (none, false)
  else if c.declockThreshold.graceInterval = 0 then (none, false)
  else if value ≥ c.declockThreshold.critical then
    (if c.curCpuSpeed ≠ c.platCpuSpeedMinimal then some c.platCpuSpeedMinimal else none, true)
  else if value ≥ c.declockThreshold.concern then
    (if c.curCpuSpeed = c.platCpuSpeedNormal then some c.platCpuSpeedScaled else none, true)
  else if value > c.declockThreshold.safe then
    if c.curCpuSpeed = c.platCpuSpeedMinimal then
      if tvSec now - tvSec monitorTime ≥ c.declockThreshold.graceInterval then
        (some c.platCpuSpeedScaled, true)
      else (none, false)
    else (none, true)
  else if c.curCpuSpeed ≠ c.platCpuSpeedNormal then
    if tvSec now - tvSec monitorTime ≥ c.declockThreshold.graceInterval then
      (some c.platCpuSpeedNormal, false)
    else (none, false)
  else (none, false)

/-- `declockIfNeeded` carries out its decision, and changes nothing else. -/
theorem declockIfNeeded_eq (now : ℤ) (result : ErrorCode) :
    c.declockIfNeeded build st now result =
      let d := c.declockDecision build c.curThermalValue st.declockMonitorTime now
      ({ c with curCpuSpeed := d.1.getD c.curCpuSpeed },
        { st with declockMonitorTime := if d.2 then now else st.declockMonitorTime },
        d.1.toList.map (.setClockSpeed · result)) := by
  unfold ThermalController.declockIfNeeded ThermalController.declockDecision
  by_cases hdisabled : build.disableDeclockingLogic = true
  · rw [if_pos hdisabled, if_pos hdisabled]
    rfl
  rw [if_neg hdisabled, if_neg hdisabled]
  by_cases hgrace : c.declockThreshold.graceInterval = 0
  · rw [if_pos hgrace, if_pos hgrace]
    rfl
  rw [if_neg hgrace, if_neg hgrace]
  -- critical and above: the minimal speed, at once
  by_cases hcritical : c.curThermalValue ≥ c.declockThreshold.critical
  · rw [if_pos hcritical, if_pos hcritical]
    by_cases hspeed : c.curCpuSpeed ≠ c.platCpuSpeedMinimal
    · rw [if_pos hspeed, if_pos hspeed]
      rfl
    · rw [if_neg hspeed, if_neg hspeed]
      rfl
  rw [if_neg hcritical, if_neg hcritical]
  -- concern and above: a CPU at its normal speed is scaled
  by_cases hconcern : c.curThermalValue ≥ c.declockThreshold.concern
  · rw [if_pos hconcern, if_pos hconcern]
    by_cases hspeed : c.curCpuSpeed = c.platCpuSpeedNormal
    · rw [if_pos hspeed, if_pos hspeed]
      rfl
    · rw [if_neg hspeed, if_neg hspeed]
      rfl
  rw [if_neg hconcern, if_neg hconcern]
  -- below concern, the CPU gets faster only once the grace interval is over
  by_cases hsafe : c.curThermalValue > c.declockThreshold.safe
  · rw [if_pos hsafe, if_pos hsafe]
    by_cases hspeed : c.curCpuSpeed = c.platCpuSpeedMinimal
    · rw [if_pos hspeed, if_pos hspeed]
      by_cases hdue : tvSec now - tvSec st.declockMonitorTime ≥ c.declockThreshold.graceInterval
      · rw [if_pos hdue, if_pos hdue]
        rfl
      · rw [if_neg hdue, if_neg hdue]
        rfl
    · rw [if_neg hspeed, if_neg hspeed]
      rfl
  rw [if_neg hsafe, if_neg hsafe]
  by_cases hspeed : c.curCpuSpeed ≠ c.platCpuSpeedNormal
  · rw [if_pos hspeed, if_pos hspeed]
    by_cases hdue : tvSec now - tvSec st.declockMonitorTime ≥ c.declockThreshold.graceInterval
    · rw [if_pos hdue, if_pos hdue]
      rfl
    · rw [if_neg hdue, if_neg hdue]
      rfl
  · rw [if_neg hspeed, if_neg hspeed]
    rfl

/-- The turn of a reading: the decision of `declockIfNeeded` does not depend on the other checks. -/
theorem pollThermalLevels_read (r : Reading) :
    c.pollThermalLevels build st (.read r) =
      let recorded := c.record r.level r.temperature
      let slept := recorded.1.deepSleepIfNeeded st r.now
      let rebooted := recorded.1.rebootIfNeeded slept.1 r.now
      let d := c.declockDecision build (truncate r.temperature) st.declockMonitorTime r.now
      ({ rebooted.1 with curCpuSpeed := d.1.getD c.curCpuSpeed },
        { rebooted.2.1 with
          declockMonitorTime := if d.2 then r.now else st.declockMonitorTime },
        recorded.2 ++ slept.2 ++ rebooted.2.2 ++
          d.1.toList.map (.setClockSpeed · r.clockSpeedResult)) := by
  simp only [ThermalController.pollThermalLevels]
  rw [declockIfNeeded_eq]
  rfl

/-- What a new controller keeps of its initial members, whatever the configuration. -/
structure ThermalController.Fresh (c : ThermalController) : Prop where
  rebootZone : c.rebootZone = false
  curThermalLevel : c.curThermalLevel = .normal
  curThermalValue : c.curThermalValue = 0

/-- A new controller is outside the reboot zone and has no reading. -/
theorem create_fresh (build : Build) (cfg : Configuration) :
    (ThermalController.create build cfg).1.Fresh := by
  -- neither the properties nor the clock speeds touch these members
  have henabled : ((ThermalController.initial build).isThermalProtectionEnabled cfg).Fresh := by
    unfold ThermalController.isThermalProtectionEnabled
    split
    · exact ⟨rfl, rfl, rfl⟩
    · split <;> exact ⟨rfl, rfl, rfl⟩
  have hdeclock : ∀ c : ThermalController, c.Fresh → (c.initializeDeclocking cfg).Fresh := by
    intro c hc
    unfold ThermalController.initializeDeclocking
    split
    · exact ⟨hc.rebootZone, hc.curThermalLevel, hc.curThermalValue⟩
    · exact hc
  simp only [ThermalController.create, ThermalController.initializeThermalProtection]
  split
  · split
    · exact henabled
    · exact hdeclock _ henabled
  · exact henabled

theorem create_rebootZone (build : Build) (cfg : Configuration) :
    (ThermalController.create build cfg).1.rebootZone = false :=
  (create_fresh build cfg).rebootZone

/-! ## Surroundings of the examples -/

/-- The feature is switched on with the given parameters, on a platform that discovers three
speeds. -/
def Configuration.ofProperties (configProperty : RfcKey → Option ℤ) : Configuration where
  rfcEnable := some "true"
  configProperty
  detemineClockSpeeds _ _ _ := (1500, 1000, 500)

/-- A reading at a whole number of degrees, at a time in seconds. -/
def Reading.at (value seconds : ℤ) : Reading :=
  ⟨.normal, value, seconds * 1000000, .errorNone⟩

end PowerManager.Thermal
