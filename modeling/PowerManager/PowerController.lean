import PowerManager.Types

/-!
# The power controller

`PowerController` keeps the current power state (inside `Settings`), the previous one, and the
time of the last wake-up. `PowerController.setPowerState` is the only place where the current
power state changes after initialisation.

What the function asks of its surroundings (the override file, the platform, the clock) is an
`Environment`. The settings it hands to `Settings::Save` are part of its result; the result of
`Save` itself is ignored by the source.
-/

namespace PowerManager

/-- The `Settings` object: the fields that are saved to the settings file, the power state
before the last reboot, and the time of the last change. -/
structure Settings where
  magic : UInt32
  version : UInt32
  powerState : PowerState
  powerStateBeforeReboot : PowerState
  deepSleepTimeout : UInt32
  nwStandbyMode : Bool
  lastUpdateTime : Time
  deriving DecidableEq, Repr

/-- `Settings::SetPowerState`: the update time moves only if the state changes. -/
def Settings.setPowerState (settings : Settings) (powerState : PowerState) (now : Time) :
    Settings :=
  if settings.powerState ≠ powerState then
    { settings with powerState, lastUpdateTime := now }
  else settings

@[simp]
theorem Settings.setPowerState_powerState (settings : Settings) (powerState : PowerState)
    (now : Time) : (settings.setPowerState powerState now).powerState = powerState := by
  unfold setPowerState
  split
  · rfl
  · simp_all

/-- What `PowerController::SetPowerState` and the deep sleep activation that may follow it find
in their surroundings. -/
structure Environment where
  /-- Whether `/tmp/ignoredeepsleep` exists. -/
  ignoreDeepSleep : Bool
  /-- The result of `platform().SetPowerState`. -/
  platformSetPowerState : ErrorCode
  /-- The reading of the clock. -/
  now : Time
  /-- The result of `DeepSleepWakeupSettings::getWakeupTime`. -/
  wakeupTime : UInt32
  deriving DecidableEq, Repr

/-- The `PowerController` object. `isDeepSleepTimeoutSet` is a field of its
`DeepSleepWakeupSettings`. -/
structure PowerController where
  settings : Settings
  lastKnownPowerState : PowerState
  isDeepSleepTimeoutSet : Bool
  wakeupTimestamp : Time
  deriving DecidableEq, Repr

namespace PowerController

/-- `PowerController::GetPowerState`: the current and the previous power state. -/
def getPowerState (pc : PowerController) : PowerState × PowerState :=
  (pc.settings.powerState, pc.lastKnownPowerState)

/-- `PowerController::SetPowerState`: the error code, the new controller, and the settings
handed to `Settings::Save`, if it is called. -/
def setPowerState (pc : PowerController) (env : Environment) (powerState : PowerState) :
    ErrorCode × PowerController × Option Settings :=
  if env.ignoreDeepSleep = true ∧ powerState = .standbyDeepSleep then
    -- the override file /tmp/ignoredeepsleep refuses the state before the platform is asked
    (.errorIllegalState, pc, none)
  else if env.platformSetPowerState ≠ .errorNone then
    (env.platformSetPowerState, pc, none)
  else
    let settings := pc.settings.setPowerState powerState env.now
    let curState := pc.settings.powerState
    (.errorNone,
      { pc with
        settings
        lastKnownPowerState := curState
        wakeupTimestamp :=
          if powerState = .on ∧ curState ≠ .on then env.now else pc.wakeupTimestamp },
      some settings)

/-- `DeepSleepWakeupSettings::timeout`: the configured timeout if one was set, and otherwise the
computed wake-up time. -/
def deepSleepTimeout (pc : PowerController) (env : Environment) : UInt32 :=
  if pc.isDeepSleepTimeoutSet then pc.settings.deepSleepTimeout else env.wakeupTime

/-- Either `setPowerState` succeeds, and the requested state becomes the current one and the
current one the previous one, or it fails and changes nothing. -/
theorem setPowerState_cases (pc : PowerController) (env : Environment) (s : PowerState) :
    ((pc.setPowerState env s).1 = .errorNone ∧
        (pc.setPowerState env s).2.1.settings.powerState = s ∧
        (pc.setPowerState env s).2.1.lastKnownPowerState = pc.settings.powerState) ∨
      ((pc.setPowerState env s).1 ≠ .errorNone ∧ (pc.setPowerState env s).2.1 = pc) := by
  unfold setPowerState
  split
  · exact .inr ⟨by simp, rfl⟩
  · split
    · rename_i hplat
      exact .inr ⟨hplat, rfl⟩
    · exact .inl ⟨rfl, by simp, rfl⟩

/-- `setPowerState` succeeds exactly if the override file does not refuse the state and the
platform accepts it. -/
theorem setPowerState_eq_errorNone_iff (pc : PowerController) (env : Environment)
    (s : PowerState) :
    (pc.setPowerState env s).1 = .errorNone ↔
      ¬(env.ignoreDeepSleep = true ∧ s = .standbyDeepSleep) ∧
        env.platformSetPowerState = .errorNone := by
  unfold setPowerState
  split
  · simp_all
  · split <;> simp_all

end PowerController

end PowerManager
