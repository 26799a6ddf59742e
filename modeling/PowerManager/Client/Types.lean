import PowerManager.Notifications

/-!
# Types of the client library

The enumerations of the C API of the client library, and the maps between them and the enumerations
of `Exchange::IPowerManager`. A value that comes from the other side of the API, or of the
connection, need not be a constant of its enumeration; the maps fall back to `unknown` there.

## Main results

* `convert_powerState`, `convert_powerController_powerState`, `convert_thermalTemperature` and
  `convert_wakeupReason`: the maps relate the constants of the same names.
-/

namespace PowerManager.Client

/-- The codes that the client library and the remote plugin return: those of Thunder's
`Core::ErrorCodes` that the client library names, and the others. -/
inductive Result
  | errorNone
  | errorGeneral
  | errorUnavailable
  | errorNotExist
  | errorBadRequest
  | errorInvalidParameter
  | errorAlreadyConnected
  | errorAlreadyReleased
  | other (code : UInt32)
  deriving DecidableEq, Repr

/-- A value of an enumeration as the other side sends it. -/
inductive Value (α : Type)
  | constant (a : α)
  | other (number : UInt32)
  deriving DecidableEq, Repr

/-- What a value stands for if its constants stand for what `f` says. -/
def Value.meaning {α β : Type} (f : α → β) (unknown : β) : Value α → β
  | .constant a => f a
  | .other _ => unknown

/-- `Exchange::IPowerManager::WakeupReason`. -/
inductive WakeupReason
  | unknown
  | ir
  | bluetooth
  | rf4ce
  | gpio
  | lan
  | wifi
  | timer
  | frontpanel
  | watchdog
  | softwareReset
  | thermalReset
  | warmReset
  | coldBoot
  | strAuthFail
  | cec
  | presence
  | voice
  deriving DecidableEq, Repr

/-- `PowerController_PowerState_t`. -/
inductive PowerControllerPowerState
  | unknown
  | off
  | standby
  | on
  | standbyLightSleep
  | standbyDeepSleep
  deriving DecidableEq, Repr

/-- `PowerController_ThermalTemperature_t`. -/
inductive PowerControllerThermalTemperature
  | unknown
  | normal
  | high
  | critical
  deriving DecidableEq, Repr

/-- `PowerController_WakeupReason_t`. -/
inductive PowerControllerWakeupReason
  | unknown
  | ir
  | bluetooth
  | rf4ce
  | gpio
  | lan
  | wifi
  | timer
  | frontpanel
  | watchdog
  | softwareReset
  | thermalReset
  | warmReset
  | coldBoot
  | strAuthFail
  | cec
  | presence
  | voice
  deriving DecidableEq, Repr

/-! ## The maps -/

variable {α β : Type}

/-- `convert` of a key of a map. -/
def convert [DecidableEq α] (map : List (α × β)) (unknown : β) (value : Value α) : β :=
  match map.find? fun kv => .constant kv.1 = value with
  | some kv => kv.2
  | none => unknown

/-- `convert` of a value of a map, which searches for its key. -/
def convertBack [DecidableEq β] (map : List (α × β)) (unknown : α) (value : Value β) : α :=
  match map.find? fun kv => .constant kv.2 = value with
  | some kv => kv.1
  | none => unknown

/-- `powerStateMap`. -/
def powerStateMap : List (PowerState × PowerControllerPowerState) :=
  [(.unknown, .unknown), (.off, .off), (.standby, .standby), (.on, .on),
    (.standbyLightSleep, .standbyLightSleep), (.standbyDeepSleep, .standbyDeepSleep)]

/-- `thermalTemperatureMap`. -/
def thermalTemperatureMap : List (ThermalTemperature × PowerControllerThermalTemperature) :=
  [(.unknown, .unknown), (.normal, .normal), (.high, .high), (.critical, .critical)]

/-- `wakeupReasonMap`. -/
def wakeupReasonMap : List (WakeupReason × PowerControllerWakeupReason) :=
  [(.unknown, .unknown), (.ir, .ir), (.bluetooth, .bluetooth), (.rf4ce, .rf4ce), (.gpio, .gpio),
    (.lan, .lan), (.wifi, .wifi), (.timer, .timer), (.frontpanel, .frontpanel),
    (.watchdog, .watchdog), (.softwareReset, .softwareReset), (.thermalReset, .thermalReset),
    (.warmReset, .warmReset), (.coldBoot, .coldBoot), (.strAuthFail, .strAuthFail), (.cec, .cec),
    (.presence, .presence), (.voice, .voice)]

/-- No constant is another number. -/
theorem convert_other [DecidableEq α] (map : List (α × β)) (unknown : β) (number : UInt32) :
    convert map unknown (.other number) = unknown := by
  have hnone : (map.find? fun kv => .constant kv.1 = Value.other number) = none := by simp
  rw [convert, hnone]

theorem convertBack_other [DecidableEq β] (map : List (α × β)) (unknown : α) (number : UInt32) :
    convertBack map unknown (.other number) = unknown := by
  have hnone : (map.find? fun kv => .constant kv.2 = Value.other number) = none := by simp
  rw [convertBack, hnone]

/-! ## Constants of the same names -/

/-- The power state of the C API with the name of a power state of the plugin. -/
def PowerControllerPowerState.named : PowerState → PowerControllerPowerState
  | .unknown => .unknown
  | .off => .off
  | .standby => .standby
  | .on => .on
  | .standbyLightSleep => .standbyLightSleep
  | .standbyDeepSleep => .standbyDeepSleep

/-- The power state of the plugin with the name of a power state of the C API. -/
def PowerControllerPowerState.name : PowerControllerPowerState → PowerState
  | .unknown => .unknown
  | .off => .off
  | .standby => .standby
  | .on => .on
  | .standbyLightSleep => .standbyLightSleep
  | .standbyDeepSleep => .standbyDeepSleep

/-- The thermal level of the C API with the name of a thermal level of the plugin. -/
def PowerControllerThermalTemperature.named :
    ThermalTemperature → PowerControllerThermalTemperature
  | .unknown => .unknown
  | .normal => .normal
  | .high => .high
  | .critical => .critical

/-- The wake-up reason of the C API with the name of a wake-up reason of the plugin. -/
def PowerControllerWakeupReason.named : WakeupReason → PowerControllerWakeupReason
  | .unknown => .unknown
  | .ir => .ir
  | .bluetooth => .bluetooth
  | .rf4ce => .rf4ce
  | .gpio => .gpio
  | .lan => .lan
  | .wifi => .wifi
  | .timer => .timer
  | .frontpanel => .frontpanel
  | .watchdog => .watchdog
  | .softwareReset => .softwareReset
  | .thermalReset => .thermalReset
  | .warmReset => .warmReset
  | .coldBoot => .coldBoot
  | .strAuthFail => .strAuthFail
  | .cec => .cec
  | .presence => .presence
  | .voice => .voice

theorem convert_powerState (value : Value PowerState) :
    convert powerStateMap .unknown value = value.meaning .named .unknown := by
  cases value with
  | constant s => cases s <;> rfl
  | other n => exact convert_other powerStateMap _ n

theorem convert_powerController_powerState (value : Value PowerControllerPowerState) :
    convertBack powerStateMap .unknown value =
      value.meaning PowerControllerPowerState.name .unknown := by
  cases value with
  | constant s => cases s <;> rfl
  | other n => exact convertBack_other powerStateMap _ n

theorem convert_thermalTemperature (value : Value ThermalTemperature) :
    convert thermalTemperatureMap .unknown value = value.meaning .named .unknown := by
  cases value with
  | constant t => cases t <;> rfl
  | other n => exact convert_other thermalTemperatureMap _ n

theorem convert_wakeupReason (value : Value WakeupReason) :
    convert wakeupReasonMap .unknown value = value.meaning .named .unknown := by
  cases value with
  | constant r => cases r <;> rfl
  | other n => exact convert_other wakeupReasonMap _ n

end PowerManager.Client
