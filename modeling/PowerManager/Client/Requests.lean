import PowerManager.Client.Basic

/-!
# The requests of the client library

Each request of the class has a method of the remote `IPowerManager`. The wrappers have one shape,
`forward`: the method is called if the interface is there, and its result is the result of the
request. Some check their pointers first, and some convert what the method has sent back.

The remote plugin is a parameter: a method gets the variables that it may write to, and leaves any
values there, whatever its result. A `float` is given by its bits.

## Main results

* `transparent_iff`: a request is forwarded transparently unless it is `GetLastWakeupKeyCode`, whose
  wrapper returns its initial value.
-/

namespace PowerManager.Client

/-- The methods of the remote `IPowerManager` that requests lead to, with the arguments that they
read. -/
inductive Method
  | getPowerState
  | setPowerState (keyCode : ℤ) (powerState : PowerState) (reason : String)
  | getThermalState
  | setTemperatureThresholds (high critical : UInt32)
  | getTemperatureThresholds
  | setOvertempGraceInterval (graceInterval : ℤ)
  | getOvertempGraceInterval
  | setDeepSleepTimer (timeOut : ℤ)
  | getLastWakeupReason
  | getLastWakeupKeyCode
  | reboot (rebootRequestor rebootReasonCustom rebootReasonOther : String)
  | setNetworkStandbyMode (standbyMode : Bool)
  | getNetworkStandbyMode
  | getPowerStateBeforeReboot
  | addPowerModePreChangeClient (clientName : String)
  | removePowerModePreChangeClient (clientId : UInt32)
  | delayPowerModeChangeBy (clientId : UInt32) (transactionId delay : ℤ)
  | powerModePreChangeComplete (clientId : UInt32) (transactionId : ℤ)
  deriving DecidableEq, Repr

/-- The variables that a method writes to. -/
abbrev Method.Out : Method → Type
  | .getPowerState => Value PowerState × Value PowerState
  | .getThermalState => UInt32
  | .getTemperatureThresholds => UInt32 × UInt32
  | .getOvertempGraceInterval => ℤ
  | .getLastWakeupReason => Value WakeupReason
  | .getLastWakeupKeyCode => ℤ
  | .getNetworkStandbyMode => Bool
  | .getPowerStateBeforeReboot => Value PowerState
  | .addPowerModePreChangeClient _ => UInt32
  | _ => Unit

/-- The remote plugin: the result of a method, and what it leaves in the variables. -/
abbrev Remote := (m : Method) → m.Out → Result × m.Out

/-- A method that was called, with what came back. -/
structure Exchanged where
  method : Method
  result : Result
  out : method.Out

/-- What a request returns, what it leaves in the variables of its caller, and the methods that it
called. -/
structure Reply (α : Type) where
  result : Result
  out : α
  calls : List Exchanged

namespace Reply

variable {α β : Type}

/-- The variables of the caller are written to if the request succeeds. -/
def convertOut (r : Reply α) (f : α → β) (old : β) : Reply β where
  result := r.result
  out := if r.result = .errorNone then f r.out else old
  calls := r.calls

/-- The variables of the caller are those that the method writes to. -/
def mapOut (r : Reply α) (f : α → β) : Reply β := ⟨r.result, f r.out, r.calls⟩

end Reply

namespace PowerController

variable {F U : Type} (pc : PowerController F U) (remote : Remote)

/-- The common part of the wrappers. -/
def forward (m : Method) (out : m.Out) : Reply m.Out :=
  if pc.powerManagerInterface then
    let r := remote m out
    ⟨r.1, r.2, [⟨m, r.1, r.2⟩]⟩
  else ⟨.errorUnavailable, out, []⟩

/-- The reply to a request with a null pointer. -/
def badRequest {α : Type} (out : α) : Reply α := ⟨.errorBadRequest, out, []⟩

/-- `GetPowerState`. It does not check its pointers. -/
def getPowerState (currentState previousState : PowerControllerPowerState) :
    Reply (PowerControllerPowerState × PowerControllerPowerState) :=
  (pc.forward remote .getPowerState (.constant .unknown, .constant .unknown)).convertOut
    (fun out => (convert powerStateMap .unknown out.1, convert powerStateMap .unknown out.2))
    (currentState, previousState)

/-- `SetPowerState`. -/
def setPowerState (keyCode : ℤ) (powerState : Value PowerControllerPowerState) (reason : String) :
    Reply Unit :=
  pc.forward remote
    (.setPowerState keyCode (convertBack powerStateMap .unknown powerState) reason) ()

/-- `GetThermalState`. -/
def getThermalState : Option UInt32 → Reply (Option UInt32)
  | none => badRequest none
  | some currentTemperature =>
    (pc.forward remote .getThermalState currentTemperature).mapOut some

/-- `SetTemperatureThresholds`. -/
def setTemperatureThresholds (high critical : UInt32) : Reply Unit :=
  pc.forward remote (.setTemperatureThresholds high critical) ()

/-- `GetTemperatureThresholds`. -/
def getTemperatureThresholds : Option UInt32 → Option UInt32 → Reply (Option UInt32 × Option UInt32)
  | some high, some critical =>
    (pc.forward remote .getTemperatureThresholds (high, critical)).mapOut
      fun out => (some out.1, some out.2)
  | high, critical => badRequest (high, critical)

/-- `SetOvertempGraceInterval`. -/
def setOvertempGraceInterval (graceInterval : ℤ) : Reply Unit :=
  pc.forward remote (.setOvertempGraceInterval graceInterval) ()

/-- `GetOvertempGraceInterval`. -/
def getOvertempGraceInterval : Option ℤ → Reply (Option ℤ)
  | none => badRequest none
  | some graceInterval =>
    (pc.forward remote .getOvertempGraceInterval graceInterval).mapOut some

/-- `SetDeepSleepTimer`. -/
def setDeepSleepTimer (timeOut : ℤ) : Reply Unit :=
  pc.forward remote (.setDeepSleepTimer timeOut) ()

/-- `GetLastWakeupReason`. -/
def getLastWakeupReason : Option PowerControllerWakeupReason →
    Reply (Option PowerControllerWakeupReason)
  | none => badRequest none
  | some wakeupReason =>
    (pc.forward remote .getLastWakeupReason (.constant .unknown)).convertOut
      (fun out => some (convert wakeupReasonMap .unknown out)) (some wakeupReason)

/-- `GetLastWakeupKeyCode`. The result of the method is not assigned to the result of the request.
-/
def getLastWakeupKeyCode : Option ℤ → Reply (Option ℤ)
  | none => badRequest none
  | some keycode =>
    let r := (pc.forward remote .getLastWakeupKeyCode keycode).mapOut some
    { r with result := .errorUnavailable }

/-- `Reboot`. -/
def reboot : Option String → Option String → Option String → Reply Unit
  | some rebootRequestor, some rebootReasonCustom, some rebootReasonOther =>
    pc.forward remote (.reboot rebootRequestor rebootReasonCustom rebootReasonOther) ()
  | _, _, _ => badRequest ()

/-- `SetNetworkStandbyMode`. -/
def setNetworkStandbyMode (standbyMode : Bool) : Reply Unit :=
  pc.forward remote (.setNetworkStandbyMode standbyMode) ()

/-- `GetNetworkStandbyMode`. -/
def getNetworkStandbyMode : Option Bool → Reply (Option Bool)
  | none => badRequest none
  | some standbyMode => (pc.forward remote .getNetworkStandbyMode standbyMode).mapOut some

/-- `GetPowerStateBeforeReboot`. -/
def getPowerStateBeforeReboot : Option PowerControllerPowerState →
    Reply (Option PowerControllerPowerState)
  | none => badRequest none
  | some powerStateBeforeReboot =>
    (pc.forward remote .getPowerStateBeforeReboot (.constant .unknown)).convertOut
      (fun out => some (convert powerStateMap .unknown out)) (some powerStateBeforeReboot)

/-- `AddPowerModePreChangeClient`. -/
def addPowerModePreChangeClient (clientName : String) (clientId : UInt32) : Reply UInt32 :=
  pc.forward remote (.addPowerModePreChangeClient clientName) clientId

/-- `RemovePowerModePreChangeClient`. -/
def removePowerModePreChangeClient (clientId : UInt32) : Reply Unit :=
  pc.forward remote (.removePowerModePreChangeClient clientId) ()

/-- `DelayPowerModeChangeBy`. -/
def delayPowerModeChangeBy (clientId : UInt32) (transactionId delay : ℤ) : Reply Unit :=
  pc.forward remote (.delayPowerModeChangeBy clientId transactionId delay) ()

/-- `PowerModePreChangeComplete`. -/
def powerModePreChangeComplete (clientId : UInt32) (transactionId : ℤ) : Reply Unit :=
  pc.forward remote (.powerModePreChangeComplete clientId transactionId) ()

end PowerController

/-! ## All requests -/

/-- A request with valid arguments. -/
inductive Request
  | getPowerState
  | setPowerState (keyCode : ℤ) (powerState : Value PowerControllerPowerState) (reason : String)
  | getThermalState
  | setTemperatureThresholds (high critical : UInt32)
  | getTemperatureThresholds
  | setOvertempGraceInterval (graceInterval : ℤ)
  | getOvertempGraceInterval
  | setDeepSleepTimer (timeOut : ℤ)
  | getLastWakeupReason
  | getLastWakeupKeyCode
  | reboot (rebootRequestor rebootReasonCustom rebootReasonOther : String)
  | setNetworkStandbyMode (standbyMode : Bool)
  | getNetworkStandbyMode
  | getPowerStateBeforeReboot
  | addPowerModePreChangeClient (clientName : String)
  | removePowerModePreChangeClient (clientId : UInt32)
  | delayPowerModeChangeBy (clientId : UInt32) (transactionId delay : ℤ)
  | powerModePreChangeComplete (clientId : UInt32) (transactionId : ℤ)
  deriving DecidableEq, Repr

namespace Request

/-- What the pointers and references of a request point to. -/
abbrev Out : Request → Type
  | .getPowerState => PowerControllerPowerState × PowerControllerPowerState
  | .getThermalState => Option UInt32
  | .getTemperatureThresholds => Option UInt32 × Option UInt32
  | .getOvertempGraceInterval => Option ℤ
  | .getLastWakeupReason => Option PowerControllerWakeupReason
  | .getLastWakeupKeyCode => Option ℤ
  | .getNetworkStandbyMode => Option Bool
  | .getPowerStateBeforeReboot => Option PowerControllerPowerState
  | .addPowerModePreChangeClient _ => UInt32
  | _ => Unit

/-- No pointer is null. -/
def Valid : (r : Request) → r.Out → Prop
  | .getThermalState, p => p ≠ none
  | .getTemperatureThresholds, (p, p') => p ≠ none ∧ p' ≠ none
  | .getOvertempGraceInterval, p => p ≠ none
  | .getLastWakeupReason, p => p ≠ none
  | .getLastWakeupKeyCode, p => p ≠ none
  | .getNetworkStandbyMode, p => p ≠ none
  | .getPowerStateBeforeReboot, p => p ≠ none
  | _, _ => True

variable {F U : Type} (pc : PowerController F U) (remote : Remote)

/-- The wrapper of a request. -/
def perform : (r : Request) → r.Out → Reply r.Out
  | .getPowerState, (currentState, previousState) =>
    pc.getPowerState remote currentState previousState
  | .setPowerState keyCode powerState reason, _ =>
    pc.setPowerState remote keyCode powerState reason
  | .getThermalState, currentTemperature => pc.getThermalState remote currentTemperature
  | .setTemperatureThresholds high critical, _ => pc.setTemperatureThresholds remote high critical
  | .getTemperatureThresholds, (high, critical) => pc.getTemperatureThresholds remote high critical
  | .setOvertempGraceInterval graceInterval, _ => pc.setOvertempGraceInterval remote graceInterval
  | .getOvertempGraceInterval, graceInterval => pc.getOvertempGraceInterval remote graceInterval
  | .setDeepSleepTimer timeOut, _ => pc.setDeepSleepTimer remote timeOut
  | .getLastWakeupReason, wakeupReason => pc.getLastWakeupReason remote wakeupReason
  | .getLastWakeupKeyCode, keycode => pc.getLastWakeupKeyCode remote keycode
  | .reboot rebootRequestor rebootReasonCustom rebootReasonOther, _ =>
    pc.reboot remote rebootRequestor rebootReasonCustom rebootReasonOther
  | .setNetworkStandbyMode standbyMode, _ => pc.setNetworkStandbyMode remote standbyMode
  | .getNetworkStandbyMode, standbyMode => pc.getNetworkStandbyMode remote standbyMode
  | .getPowerStateBeforeReboot, powerState => pc.getPowerStateBeforeReboot remote powerState
  | .addPowerModePreChangeClient clientName, clientId =>
    pc.addPowerModePreChangeClient remote clientName clientId
  | .removePowerModePreChangeClient clientId, _ => pc.removePowerModePreChangeClient remote clientId
  | .delayPowerModeChangeBy clientId transactionId delay, _ =>
    pc.delayPowerModeChangeBy remote clientId transactionId delay
  | .powerModePreChangeComplete clientId transactionId, _ =>
    pc.powerModePreChangeComplete remote clientId transactionId

/-! ## Transparent forwarding -/

/-- The method that corresponds to a request: that of the same name, with the same arguments. -/
def method : Request → Method
  | .getPowerState => .getPowerState
  | .setPowerState keyCode powerState reason =>
    -- a state is that of the same name, and a number outside the enumeration is `unknown`
    .setPowerState keyCode (powerState.meaning PowerControllerPowerState.name .unknown) reason
  | .getThermalState => .getThermalState
  | .setTemperatureThresholds high critical => .setTemperatureThresholds high critical
  | .getTemperatureThresholds => .getTemperatureThresholds
  | .setOvertempGraceInterval graceInterval => .setOvertempGraceInterval graceInterval
  | .getOvertempGraceInterval => .getOvertempGraceInterval
  | .setDeepSleepTimer timeOut => .setDeepSleepTimer timeOut
  | .getLastWakeupReason => .getLastWakeupReason
  | .getLastWakeupKeyCode => .getLastWakeupKeyCode
  | .reboot rebootRequestor rebootReasonCustom rebootReasonOther =>
    .reboot rebootRequestor rebootReasonCustom rebootReasonOther
  | .setNetworkStandbyMode standbyMode => .setNetworkStandbyMode standbyMode
  | .getNetworkStandbyMode => .getNetworkStandbyMode
  | .getPowerStateBeforeReboot => .getPowerStateBeforeReboot
  | .addPowerModePreChangeClient clientName => .addPowerModePreChangeClient clientName
  | .removePowerModePreChangeClient clientId => .removePowerModePreChangeClient clientId
  | .delayPowerModeChangeBy clientId transactionId delay =>
    .delayPowerModeChangeBy clientId transactionId delay
  | .powerModePreChangeComplete clientId transactionId =>
    .powerModePreChangeComplete clientId transactionId

/-- What the caller is to find in its variables, given what the method has left in its own. -/
def received : (r : Request) → r.method.Out → r.Out
  | .getPowerState, out =>
    (out.1.meaning .named .unknown, out.2.meaning .named .unknown)
  | .getThermalState, out => some out
  | .getTemperatureThresholds, out => (some out.1, some out.2)
  | .getOvertempGraceInterval, out => some out
  | .getLastWakeupReason, out => some (out.meaning .named .unknown)
  | .getLastWakeupKeyCode, out => some out
  | .getNetworkStandbyMode, out => some out
  | .getPowerStateBeforeReboot, out => some (out.meaning .named .unknown)
  | .addPowerModePreChangeClient _, out => out
  | .setPowerState .., _ => ()
  | .setTemperatureThresholds .., _ => ()
  | .setOvertempGraceInterval _, _ => ()
  | .setDeepSleepTimer _, _ => ()
  | .reboot .., _ => ()
  | .setNetworkStandbyMode _, _ => ()
  | .removePowerModePreChangeClient _, _ => ()
  | .delayPowerModeChangeBy .., _ => ()
  | .powerModePreChangeComplete .., _ => ()

/-- A request is forwarded transparently. -/
def Transparent (r : Request) (vars : r.Out) : Prop :=
  if pc.powerManagerInterface = true then
    ∃ result out, (r.perform pc remote vars).calls = [⟨r.method, result, out⟩] ∧
      (r.perform pc remote vars).result = result ∧
      (result = .errorNone → (r.perform pc remote vars).out = r.received out)
  else
    (r.perform pc remote vars).calls = [] ∧
      (r.perform pc remote vars).result = .errorUnavailable

/-- The result that the request returns is not dropped: the request is not `GetLastWakeupKeyCode`,
or there is no interface, or the method returns what the request returns anyway. -/
def ResultKept : (r : Request) → r.Out → Prop
  | .getLastWakeupKeyCode, some keycode =>
    pc.powerManagerInterface = false ∨
      (remote .getLastWakeupKeyCode keycode).1 = .errorUnavailable
  | _, _ => True

variable {pc remote}

/-- A request is transparent if its reply is that of `forward`, with the outputs converted. -/
theorem transparent_of_forward {r : Request} {vars : r.Out} (refs : r.method.Out)
    (hcalls : (r.perform pc remote vars).calls = (pc.forward remote r.method refs).calls)
    (hresult : (r.perform pc remote vars).result = (pc.forward remote r.method refs).result)
    (hout : (pc.forward remote r.method refs).result = .errorNone →
      (r.perform pc remote vars).out = r.received (pc.forward remote r.method refs).out) :
    r.Transparent pc remote vars := by
  unfold Transparent
  by_cases hup : pc.powerManagerInterface = true
  · rw [if_pos hup]
    simp only [PowerController.forward, if_pos hup] at hcalls hresult hout
    exact ⟨_, _, hcalls, hresult, hout⟩
  · rw [if_neg hup]
    simp only [PowerController.forward, if_neg hup] at hcalls hresult
    exact ⟨hcalls, hresult⟩

/-- A request whose wrapper writes to the variables of its caller through the method. -/
theorem transparent_of_eq {r : Request} {vars : r.Out} (refs : r.method.Out)
    (h : r.perform pc remote vars = (pc.forward remote r.method refs).mapOut r.received) :
    r.Transparent pc remote vars :=
  transparent_of_forward refs (by rw [h]; rfl) (by rw [h]; rfl) fun _ => by rw [h]; rfl

/-- A request whose wrapper converts what the method has sent back. -/
theorem transparent_of_convertOut {r : Request} {vars : r.Out} (refs : r.method.Out) (old : r.Out)
    (h : r.perform pc remote vars = (pc.forward remote r.method refs).convertOut r.received old) :
    r.Transparent pc remote vars :=
  transparent_of_forward refs (by rw [h]; rfl) (by rw [h]; rfl) fun hok => by
    rw [h]
    exact if_pos hok

/-- `GetLastWakeupKeyCode` is transparent if there is no interface, or if the plugin says that it is
unavailable. -/
theorem transparent_getLastWakeupKeyCode (keycode : ℤ) :
    getLastWakeupKeyCode.Transparent pc remote (some keycode) ↔
      pc.powerManagerInterface = false ∨
        (remote .getLastWakeupKeyCode keycode).1 = .errorUnavailable := by
  have hcalls : (getLastWakeupKeyCode.perform pc remote (some keycode)).calls =
      (pc.forward remote .getLastWakeupKeyCode keycode).calls := rfl
  unfold Transparent
  by_cases hup : pc.powerManagerInterface = true
  · rw [if_pos hup, hcalls, PowerController.forward, if_pos hup]
    constructor
    · -- the one call shows the result of the method, and the request returns another
      rintro ⟨result, out, hcall, hresult, -⟩
      have hsame : [(remote .getLastWakeupKeyCode keycode).1] = [result] :=
        congrArg (List.map Exchanged.result) hcall
      exact .inr ((List.cons.inj hsame).1.trans hresult.symm)
    · intro h
      have hkept := h.resolve_left (by simp [hup])
      refine ⟨_, _, rfl, hkept.symm, fun hok => ?_⟩
      rw [hkept] at hok
      cases hok
  · rw [if_neg hup, hcalls, PowerController.forward, if_neg hup]
    exact iff_of_true ⟨rfl, rfl⟩ (.inl (Bool.eq_false_iff.mpr hup))

/-- A request is transparent exactly if its result is kept. -/
theorem transparent_iff {r : Request} {vars : r.Out} (hvalid : r.Valid vars) :
    r.Transparent pc remote vars ↔ r.ResultKept pc remote vars := by
  -- every request but one keeps its result; an enumeration is converted on the way
  cases r with
  | getPowerState =>
    refine iff_of_true (transparent_of_convertOut (.constant .unknown, .constant .unknown) vars ?_)
      trivial
    simp only [perform, PowerController.getPowerState, convert_powerState]
    rfl
  | setPowerState keyCode powerState reason =>
    refine iff_of_true (transparent_of_eq () ?_) trivial
    show pc.forward remote (.setPowerState keyCode
      (convertBack powerStateMap .unknown powerState) reason) () = _
    rw [convert_powerController_powerState]
    rfl
  | getThermalState =>
    obtain ⟨currentTemperature, rfl⟩ := Option.ne_none_iff_exists'.mp hvalid
    exact iff_of_true (transparent_of_eq currentTemperature rfl) trivial
  | getTemperatureThresholds =>
    obtain ⟨high, critical⟩ := vars
    obtain ⟨high, rfl⟩ := Option.ne_none_iff_exists'.mp hvalid.1
    obtain ⟨critical, rfl⟩ := Option.ne_none_iff_exists'.mp hvalid.2
    exact iff_of_true (transparent_of_eq (high, critical) rfl) trivial
  | getOvertempGraceInterval =>
    obtain ⟨graceInterval, rfl⟩ := Option.ne_none_iff_exists'.mp hvalid
    exact iff_of_true (transparent_of_eq graceInterval rfl) trivial
  | getLastWakeupReason =>
    obtain ⟨wakeupReason, rfl⟩ := Option.ne_none_iff_exists'.mp hvalid
    refine iff_of_true (transparent_of_convertOut (.constant .unknown) (some wakeupReason) ?_)
      trivial
    simp only [perform, PowerController.getLastWakeupReason, convert_wakeupReason]
    rfl
  | getLastWakeupKeyCode =>
    obtain ⟨keycode, rfl⟩ := Option.ne_none_iff_exists'.mp hvalid
    -- the one that never assigns what the method returns to `result`
    exact transparent_getLastWakeupKeyCode keycode
  | getNetworkStandbyMode =>
    obtain ⟨standbyMode, rfl⟩ := Option.ne_none_iff_exists'.mp hvalid
    exact iff_of_true (transparent_of_eq standbyMode rfl) trivial
  | getPowerStateBeforeReboot =>
    obtain ⟨powerState, rfl⟩ := Option.ne_none_iff_exists'.mp hvalid
    refine iff_of_true (transparent_of_convertOut (.constant .unknown) (some powerState) ?_) trivial
    simp only [perform, PowerController.getPowerStateBeforeReboot, convert_powerState]
    rfl
  | addPowerModePreChangeClient clientName =>
    exact iff_of_true (transparent_of_eq vars rfl) trivial
  | _ => exact iff_of_true (transparent_of_eq () rfl) trivial

/-- A request that succeeds, and one that there is no interface for. -/
theorem transparent_of_succeeds :
    Transparent ({ PowerController.fresh with powerManagerInterface := true } :
        PowerController ℕ ℕ) (fun _ out => (.errorNone, out)) .getPowerState (.on, .on) ∧
      Transparent (PowerController.fresh : PowerController ℕ ℕ) (fun _ out => (.errorNone, out))
        .getLastWakeupKeyCode (some 0) := by
  have hvalid : Valid .getLastWakeupKeyCode (some 0) := Option.some_ne_none 0
  exact ⟨(transparent_iff (r := getPowerState) trivial).mpr trivial,
    (transparent_iff hvalid).mpr (.inl rfl)⟩

/-- The plugin sends a key code, and the client library says that the plugin is unavailable. -/
theorem not_transparent_getLastWakeupKeyCode :
    let pc : PowerController ℕ ℕ := { PowerController.fresh with powerManagerInterface := true }
    let remote : Remote := fun m out =>
      (.errorNone, match m, out with
        | .getLastWakeupKeyCode, _ => (42 : ℤ)
        | _, out => out)
    (pc.getLastWakeupKeyCode remote (some 0)).result = .errorUnavailable ∧
      (pc.getLastWakeupKeyCode remote (some 0)).out = some 42 ∧
      ¬getLastWakeupKeyCode.Transparent pc remote (some 0) := by
  intro pc remote
  refine ⟨rfl, rfl, fun h => ?_⟩
  rcases (transparent_getLastWakeupKeyCode 0).mp h with hdown | hunavailable
  · cases hdown
  · cases hunavailable

end Request

end PowerManager.Client
