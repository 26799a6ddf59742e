import PowerManager.AckController.Basic
import PowerManager.Machine
import PowerManager.PowerController
import Mathlib.Data.List.AList

/-!
# The power state transitions of PowerManagerImplementation

`PowerManagerImplementation` turns a request for a power state into a transition: it announces
the change, waits for the acknowledgements of the registered clients with an `AckController`,
and applies the new state from the completion handler.

The model takes a call of `SetPowerState` as the sections that its locks make of it:

* `setPowerStateRead` — the call owns `selfLock`, reads the current state under `_apiLock`, and
  drops the request or wakes the device;
* `setPowerStateCreate` — one section under `_apiLock`: drop a repeated request, or cancel the
  old controller and install a new one;
* `setPowerStateSchedule` — `Schedule` on the new controller, and the return of the call.

The other operations of the interface, and the dispatch of the acknowledgement timer, are single
steps. `implementation` is the machine of all of them; its outputs are the calls the code makes
outwards, in order.
-/

namespace PowerManager

/-- `kTransientDeepsleepThresholdSec`, in the ticks of the clock. -/
def transientDeepsleepThreshold : Time := 5000000

/-- `POWER_MODE_PRECHANGE_TIMEOUT_SEC`, unless the build overrides it. -/
def powerModePrechangeTimeoutSec : UInt32 := 1

/-- What the completion handler of a `SetPowerState` call captures. -/
structure CompletionHandler where
  currState : PowerState
  newState : PowerState
  isSync : Bool
  deriving DecidableEq, Repr

/-- What `SetPowerState` learns from the deep sleep controller. -/
structure DeepSleepStatus where
  /-- `DeepSleepController::IsDeepSleepInProgress`. -/
  inProgress : Bool
  /-- `DeepSleepController::Elapsed`. -/
  elapsed : Time
  deriving DecidableEq, Repr

/-- The deep-sleep transient window: deep sleep is in progress and began less than five seconds
ago. -/
def DeepSleepStatus.transient (ds : DeepSleepStatus) : Bool :=
  ds.inProgress && decide (ds.elapsed < transientDeepsleepThreshold)

/-- How far the `SetPowerState` call that owns `selfLock` has got. -/
inductive Call
  | idle
  /-- The current state has been read as `currState`, and the request was not dropped. -/
  | checked (newState currState : PowerState) (isSync : Bool)
  /-- The new controller is installed, `Schedule` has not been called. -/
  | created (newState currState : PowerState) (isSync : Bool) (timeOut : UInt32)
  deriving DecidableEq, Repr

/-- What the implementation does outwards. -/
inductive Event
  /-- `selfLock.Lock` succeeds. -/
  | selfLock
  /-- `selfLock.Unlock`. -/
  | selfUnlock
  /-- `DeepSleepController::Deactivate`. -/
  | deactivate
  /-- `submitPowerModePreChangeEvent`. -/
  | preChange (currentState newState : PowerState) (transactionId : ℤ) (timeOut : UInt32)
  /-- `AddRef` on the plugin object. -/
  | addRef
  /-- `Release` on the plugin object. -/
  | release
  /-- The completion handler of a transition runs. -/
  | completion (newState : PowerState) (isTimedout isAborted : Bool)
  /-- `PowerController::SetPowerState` returns. -/
  | applied (newState : PowerState) (errorCode : ErrorCode)
  /-- `Settings::Save`. -/
  | save (settings : Settings)
  /-- `dispatchPowerModeChangedEvent`. -/
  | modeChanged (prevState newState : PowerState)
  /-- `DeepSleepController::Activate`. -/
  | activate (timeOut : UInt32) (nwStandbyMode : Bool)
  /-- `AddPowerModePreChangeClient` hands out a client id. -/
  | clientId (clientId : UInt32)
  /-- The interface method returns. -/
  | returned (errorCode : ErrorCode)
  deriving DecidableEq, Repr

/-- The part of the `PowerManagerImplementation` object that takes part in transitions, with
the two static counters. -/
structure Implementation where
  powerController : PowerController
  modeChangeController : Option (AckController CompletionHandler)
  /-- The registered clients and their names. -/
  modeChangeClients : AList fun _ : UInt32 => String
  nextTransactionId : ℤ
  nextClientId : UInt32
  /-- Whether the binary semaphore `selfLock` can be taken. -/
  selfLock : Bool
  /-- The `SetPowerState` call under way. -/
  call : Call

namespace Implementation

/-- The current power state. -/
def powerState (pm : Implementation) : PowerState :=
  pm.powerController.settings.powerState

/-- The clients that are registered. -/
def registered (pm : Implementation) : Finset UInt32 :=
  pm.modeChangeClients.keys.toFinset

/-- `isSyncStateChange`: only DEEP_SLEEP to LIGHT_SLEEP is synchronous. -/
def isSyncStateChange (currState newState : PowerState) : Bool :=
  decide (currState = .standbyDeepSleep ∧ newState = .standbyLightSleep)

/-- `selfLock.Unlock`. -/
def selfUnlock (pm : Implementation) : Implementation :=
  { pm with selfLock := true }

/-- `PowerManagerImplementation::setDevicePowerState`. -/
def setDevicePowerState (pm : Implementation) (env : Environment)
    (prevState newState : PowerState) : Implementation × List Event :=
  let r := pm.powerController.setPowerState env newState
  let pm := { pm with powerController := r.2.1 }
  let log := .applied newState r.1 :: r.2.2.toList.map Event.save
  if r.1 ≠ .errorNone then
    (pm, log)
  else if newState = .standbyDeepSleep then
    (pm, log ++ [.modeChanged prevState newState,
      .activate (pm.powerController.deepSleepTimeout env)
        pm.powerController.settings.nwStandbyMode])
  else
    (pm, log ++ [.modeChanged prevState newState])

/-- The completion handler that `SetPowerState` hands to `Schedule`. -/
def completionHandler (pm : Implementation) (env : Environment)
    (call : HandlerCall CompletionHandler) : Implementation × List Event :=
  let r :=
    if call.isRevoked then (pm, [])
    else pm.setDevicePowerState env call.handler.currState call.handler.newState
  let log := .completion call.handler.newState call.isTimedout call.isRevoked :: r.2 ++ [.release]
  if call.handler.isSync then (r.1.selfUnlock, log ++ [.selfUnlock]) else (r.1, log)

/-- The completion handlers called by an operation of an `AckController`, in order. -/
def completionHandlers (pm : Implementation) (env : Environment) :
    List (HandlerCall CompletionHandler) → Implementation × List Event
  | [] => (pm, [])
  | call :: calls =>
    let r := pm.completionHandler env call
    let r' := completionHandlers r.1 env calls
    (r'.1, r.2 ++ r'.2)

/-! ## SetPowerState -/

/-- The first section of `SetPowerState`. -/
def setPowerStateRead (pm : Implementation) (newState : PowerState) (ds : DeepSleepStatus) :
    Implementation × List Event :=
  let pm := { pm with selfLock := false }
  let currState := pm.powerState
  if currState = newState then
    (pm.selfUnlock, [.selfLock, .selfUnlock, .returned .errorNone])
  else
    let isSync := isSyncStateChange currState newState
    if currState = .standbyDeepSleep then
      if ds.transient then
        (pm.selfUnlock, [.selfLock, .selfUnlock, .returned .errorNone])
      else
        ({ pm with call := .checked newState currState isSync }, [.selfLock, .deactivate])
    else
      ({ pm with call := .checked newState currState isSync }, [.selfLock])

/-- The second section of `SetPowerState`, under `_apiLock`, and the submission of the
pre-change event right after it. -/
def setPowerStateCreate (pm : Implementation) (env : Environment) (newState currState : PowerState)
    (isSync : Bool) : Implementation × List Event :=
  if pm.modeChangeController.map (·.powerState) = some newState then
    -- the repeated request is dropped, whether or not that transition is still under way
    ({ pm.selfUnlock with call := .idle }, [.selfUnlock, .returned .errorNone])
  else
    -- `_modeChangeController.reset()` destroys the old controller
    let calls := (pm.modeChangeController.map (·.revoke.2)).getD []
    let r := { pm with modeChangeController := none }.completionHandlers env calls
    let pm := r.1
    let transactionId := pm.nextTransactionId + 1
    let c := AckController.create newState transactionId env.now
    let c := pm.modeChangeClients.keys.foldl AckController.ackAwait c
    let timeOut := if isSync then 0 else powerModePrechangeTimeoutSec
    ({ pm with
        modeChangeController := some c
        nextTransactionId := transactionId
        call := .created newState currState isSync timeOut },
      r.2 ++ [.addRef, .preChange currState newState transactionId timeOut])

/-- The last section of `SetPowerState`: `Schedule`, and the return of the call. -/
def setPowerStateSchedule (pm : Implementation) (env : Environment)
    (c : AckController CompletionHandler) (newState currState : PowerState) (isSync : Bool)
    (timeOut : UInt32) : Implementation × List Event :=
  let r := c.schedule env.now (timeOut * 1000).toUInt64 ⟨currState, newState, isSync⟩
  let r := { pm with modeChangeController := some r.1 }.completionHandlers env r.2
  if isSync then
    ({ r.1 with call := .idle }, r.2 ++ [.returned .errorNone])
  else
    ({ r.1.selfUnlock with call := .idle }, r.2 ++ [.selfUnlock, .returned .errorNone])

/-! ## The other operations -/

/-- `PowerModePreChangeComplete`. -/
def powerModePreChangeComplete (pm : Implementation) (env : Environment) (clientId : UInt32)
    (transactionId : ℤ) : Implementation × List Event :=
  match pm.modeChangeController with
  | none => (pm, [.returned .errorInvalidParameter])
  | some c =>
    let r := c.ack clientId transactionId
    let r' := { pm with modeChangeController := some r.2.1 }.completionHandlers env r.2.2
    (r'.1, r'.2 ++ [.returned r.1])

/-- `DelayPowerModeChangeBy`; the product is a 32-bit one. -/
def delayPowerModeChangeBy (pm : Implementation) (clientId : UInt32) (transactionId : ℤ)
    (delayPeriod : Int32) (now : Time) : Implementation × List Event :=
  match pm.modeChangeController with
  | none => (pm, [.returned .errorInvalidParameter])
  | some c =>
    let r := c.reschedule clientId transactionId (delayPeriod * 1000) now
    ({ pm with modeChangeController := some r.2 }, [.returned r.1])

/-- `AddPowerModePreChangeClient`. -/
def addPowerModePreChangeClient (pm : Implementation) (clientName : String) :
    Implementation × List Event :=
  if clientName.isEmpty then
    (pm, [.returned .errorInvalidParameter])
  else
    match pm.modeChangeClients.entries.find? (·.2 = clientName) with
    | some client => (pm, [.clientId client.1, .returned .errorNone])
    | none =>
      let clientId := pm.nextClientId + 1
      ({ pm with
          nextClientId := clientId
          modeChangeClients := pm.modeChangeClients.insert clientId clientName },
        [.clientId clientId, .returned .errorNone])

/-- `RemovePowerModePreChangeClient`: a removed client acknowledges the current transition. -/
def removePowerModePreChangeClient (pm : Implementation) (env : Environment)
    (clientId : UInt32) : Implementation × List Event :=
  if clientId ∉ pm.modeChangeClients then
    (pm, [.returned .errorInvalidParameter])
  else
    let pm := { pm with modeChangeClients := pm.modeChangeClients.erase clientId }
    match pm.modeChangeController with
    | none => (pm, [.returned .errorNone])
    | some c =>
      let r := c.ackClient clientId
      let r' := { pm with modeChangeController := some r.2.1 }.completionHandlers env r.2.2
      (r'.1, r'.2 ++ [.returned .errorNone])

/-- The dispatch of the timer job of a controller. -/
def dispatchTimer (pm : Implementation) (env : Environment)
    (c : AckController CompletionHandler) : Implementation × List Event :=
  let r := c.dispatchTimer
  { pm with modeChangeController := some r.1 }.completionHandlers env r.2

end Implementation

/-! ## The machine -/

/-- One step of the implementation: a section of a `SetPowerState` call, another operation of
the interface, or the dispatch of the acknowledgement timer, with the answers of the
environment. -/
inductive Label
  | request (newState : PowerState) (ds : DeepSleepStatus)
  | create (env : Environment)
  | schedule (env : Environment)
  | powerModePreChangeComplete (clientId : UInt32) (transactionId : ℤ) (env : Environment)
  | delayPowerModeChangeBy (clientId : UInt32) (transactionId : ℤ) (delayPeriod : Int32)
      (now : Time)
  | addPowerModePreChangeClient (clientName : String)
  | removePowerModePreChangeClient (clientId : UInt32) (env : Environment)
  | timer (env : Environment)

open Implementation in
/-- The implementation as a machine. A `SetPowerState` call starts only when it gets `selfLock`,
and the timer is dispatched only while the worker pool holds its job. -/
def implementation : Machine Implementation Label Event where
  step pm
    | .request newState ds =>
      if pm.selfLock then some (pm.setPowerStateRead newState ds) else none
    | .create env =>
      match pm.call with
      | .checked newState currState isSync =>
        some (pm.setPowerStateCreate env newState currState isSync)
      | _ => none
    | .schedule env =>
      match pm.call, pm.modeChangeController with
      | .created newState currState isSync timeOut, some c =>
        some (pm.setPowerStateSchedule env c newState currState isSync timeOut)
      | _, _ => none
    | .powerModePreChangeComplete clientId transactionId env =>
      some (pm.powerModePreChangeComplete env clientId transactionId)
    | .delayPowerModeChangeBy clientId transactionId delayPeriod now =>
      some (pm.delayPowerModeChangeBy clientId transactionId delayPeriod now)
    | .addPowerModePreChangeClient clientName =>
      some (pm.addPowerModePreChangeClient clientName)
    | .removePowerModePreChangeClient clientId env =>
      some (pm.removePowerModePreChangeClient env clientId)
    | .timer env =>
      match pm.modeChangeController with
      | some c => if c.scheduled.isSome then some (pm.dispatchTimer env c) else none
      | none => none

/-- The implementation after construction: no transition has been requested and no client is
registered. The static counters keep their values from earlier instances. -/
def Implementation.initial (powerController : PowerController) (nextTransactionId : ℤ)
    (nextClientId : UInt32) : Implementation where
  powerController
  modeChangeController := none
  modeChangeClients := ∅
  nextTransactionId
  nextClientId
  selfLock := true
  call := .idle

/-! ## Surroundings of the examples -/

/-- A device that is on. -/
def PowerController.isOn : PowerController where
  settings := ⟨0, 0, .on, .on, 0, false, 0⟩
  lastKnownPowerState := .on
  isDeepSleepTimeoutSet := false
  wakeupTimestamp := 0

/-- A platform that accepts every state. -/
def Environment.accepts : Environment := ⟨false, .errorNone, 0, 0⟩

/-- A platform that refuses every state. -/
def Environment.refuses : Environment := ⟨false, .errorGeneral, 0, 0⟩

/-- Deep sleep is not in progress. -/
def DeepSleepStatus.awake : DeepSleepStatus := ⟨false, 0⟩

end PowerManager
