import PowerManager.CallbackMachine
import PowerManager.Implementation.Changes
import PowerManager.Locks

/-!
# The locks under which clients are told

Clients may call the plugin from a notification. Whether the call returns depends on the locks that
the thread of the notification holds already: `selfLock`, `_apiLock`, `_therm_mutex` and
`_grace_interval_mutex` are taken by the API, and only `_apiLock` is recursive.

The calls are those of `Locks`, with the places where clients are told, and with all others that
lead to a client. The completion handler of a transition tells them in four of these: in `Schedule`,
in the last `PowerModePreChangeComplete`, in `RemovePowerModePreChangeClient` and in the job of the
acknowledgement timer.

* `locksOf_acts` — without the clients, the calls of `Locks` are left;
* `deliveries_iff` — the clients are told without these locks as long as none is told of a
  completion in `Schedule`, in the last acknowledgement or in the removal of a client, or of a
  thermal level.
-/

namespace PowerManager

namespace Deliveries

open Lock Locks

/-- The ways on which the plugin comes to a client. -/
inductive Path
  /-- `OnPowerModeChanged`, if the completion handler runs in `Schedule`. -/
  | schedule
  /-- `OnPowerModeChanged`, if it runs in the last `PowerModePreChangeComplete`. -/
  | lastAck
  /-- `OnPowerModeChanged`, if it runs in `RemovePowerModePreChangeClient`. -/
  | clientRemoval
  /-- `OnPowerModeChanged`, if the acknowledgement timer has run out. -/
  | ackTimer
  /-- `OnPowerModePreChange`. -/
  | preChange
  /-- `OnThermalModeChanged`. -/
  | thermalModeChanged
  /-- `OnDeepSleepTimeout`. -/
  | deepSleepTimeout
  /-- `OnNetworkStandbyModeChanged`. -/
  | networkStandbyModeChanged
  /-- `OnRebootBegin`. -/
  | rebootBegin
  deriving DecidableEq, Repr

/-- The paths other than those of a completion handler inside an API call, and that of the poll
loop. -/
def Path.clean : Path → Bool
  | .schedule | .lastAck | .clientRemoval | .thermalModeChanged => false
  | .ackTimer | .preChange | .deepSleepTimeout | .networkStandbyModeChanged | .rebootBegin => true

/-- An act of a thread. -/
abbrev Act := CallbackAct Lock Path

/-- The `dispatch` functions, which go through the list of clients under `_callbackLock`. -/
def dispatch (k : Path) : List Act :=
  under callbackLock [.notify k]

/-- `GetPowerState`, and `getPowerState` of the poll loop. -/
def getPowerState : List Act :=
  under apiLock []

/-- `setDevicePowerState`, which dispatches the event if the power controller accepts the state. -/
def setDevicePowerState (k : Path) (accepted : Bool) : List Act :=
  if accepted then dispatch k else []

/-- The loop of `SetPowerState` while `selfLock` is busy. -/
def selfLockBusy : ℕ → List Act
  | 0 => []
  | n + 1 => .lock (.timeout selfLock) :: (under apiLock [] ++ selfLockBusy n)

/-- What `SetPowerState` does after it has read the state. -/
def outcome : Outcome → List Act
  | .returned => []
  | .registered => under apiLock []
  | .completed accepted => under apiLock [] ++ setDevicePowerState .schedule accepted

/-- `SetPowerState`. -/
def setPowerState (r : Request) : List Act :=
  selfLockBusy r.timeouts ++ under selfLock (getPowerState ++ outcome r.outcome)

/-- `PowerModePreChangeComplete`. The last acknowledgement runs the completion handler. -/
def powerModePreChangeComplete (accepted : Option Bool) : List Act :=
  under apiLock (accepted.elim [] (setDevicePowerState .lastAck))

/-- `RemovePowerModePreChangeClient`, which acknowledges on behalf of the client. -/
def removePowerModePreChangeClient (accepted : Option Bool) : List Act :=
  under apiLock (accepted.elim [] (setDevicePowerState .clientRemoval))

/-- `SetOvertempGraceInterval`, which ignores a negative interval. -/
def setOvertempGraceInterval (graceInterval : ℤ) : List Act :=
  under apiLock (if graceInterval ≥ 0 then under graceIntervalMutex [] else [])

/-- `GetThermalState`, with `ENABLE_THERMAL_PROTECTION`. -/
def getThermalState : List Act :=
  under apiLock (under thermMutex [])

/-- `SetNetworkStandbyMode`, with the answer of the power controller. -/
def setNetworkStandbyMode (accepted : Bool) : List Act :=
  under apiLock [] ++ if accepted then dispatch .networkStandbyModeChanged else []

/-- What becomes of a call of `SetWakeupSourceConfig`. -/
inductive ConfigOutcome
  /-- One of the sources is unknown. -/
  | invalid
  /-- The power controller fails. -/
  | failed
  /-- The sources cannot be read back, or Wi-Fi and LAN differ. -/
  | unequal
  /-- The network standby mode cannot be read, or is the right one. -/
  | unchanged
  /-- The network standby mode is set. -/
  | updated (accepted : Bool)
  deriving DecidableEq, Repr

/-- `SetWakeupSourceConfig`. -/
def setWakeupSourceConfig : ConfigOutcome → List Act
  | .invalid => []
  | .failed => under apiLock []
  | .unequal => under apiLock [] ++ under apiLock []
  | .unchanged => under apiLock [] ++ (under apiLock [] ++ under apiLock [])
  | .updated accepted =>
    under apiLock [] ++ (under apiLock [] ++ (under apiLock [] ++ setNetworkStandbyMode accepted))

/-- `Reboot`. -/
def reboot : List Act :=
  dispatch .rebootBegin ++ under apiLock []

/-- The job of the acknowledgement timer. It runs the completion handler unless it finds the
controller gone or stopped. -/
def ackTimer (accepted : Option Bool) : List Act :=
  accepted.elim [] (setDevicePowerState .ackTimer)

/-- A job that `submitPowerModePreChangeEvent` has submitted. It is for one client. -/
def preChangeJob : List Act :=
  [.notify .preChange]

/-- `onDeepSleepTimerWakeup`. -/
def onDeepSleepTimerWakeup (r : Request) : List Act :=
  dispatch .deepSleepTimeout ++ setPowerState r

/-- `onDeepSleepUserWakeup`, and `onDeepSleepFailed`. -/
def onDeepSleepUserWakeup (r : Request) : List Act :=
  setPowerState r

/-- `deepSleepIfNeeded`. -/
def deepSleepIfNeeded (critical concern : Option Request) : List Act :=
  critical.elim [] setPowerState ++ concern.elim [] setPowerState

/-- The events of a reading. -/
def levelChanged (changed : Bool) : List Act :=
  if changed then dispatch .thermalModeChanged else []

/-- A turn of `pollThermalLevels`. -/
def pollThermalLevels : Turn → List Act
  | .deepSleep => getPowerState
  | .failed => getPowerState ++ under thermMutex []
  | .read changed critical concern =>
    getPowerState ++ (under thermMutex (levelChanged changed) ++
      under graceIntervalMutex (deepSleepIfNeeded critical concern))
  | .broken changed =>
    getPowerState ++ .lock (.lock thermMutex) :: (levelChanged changed ++ [.lock .exit])
  | .stopped => [.lock .exit]

/-- The calls of the API. -/
inductive ApiCall
  | setPowerState (r : Request)
  | powerModePreChangeComplete (accepted : Option Bool)
  | removePowerModePreChangeClient (accepted : Option Bool)
  | setOvertempGraceInterval (graceInterval : ℤ)
  | getThermalState
  | setNetworkStandbyMode (accepted : Bool)
  | setWakeupSourceConfig (outcome : ConfigOutcome)
  | reboot
  /-- The other methods of the interface, which have one section under `_apiLock`. -/
  | other
  /-- `Register` and `Unregister`. -/
  | register
  deriving DecidableEq, Repr

/-- The calls of the plugin: those of the API, the jobs of the worker pool, and the turns of the
poll loop. -/
inductive Call
  | api (c : ApiCall)
  | ackTimer (accepted : Option Bool)
  | preChangeJob
  | onDeepSleepTimerWakeup (r : Request)
  | onDeepSleepUserWakeup (r : Request)
  | pollThermalLevels (turn : Turn)
  deriving DecidableEq, Repr

/-- What a call of the API does. -/
def ApiCall.acts : ApiCall → List Act
  | .setPowerState r => Deliveries.setPowerState r
  | .powerModePreChangeComplete accepted => Deliveries.powerModePreChangeComplete accepted
  | .removePowerModePreChangeClient accepted => Deliveries.removePowerModePreChangeClient accepted
  | .setOvertempGraceInterval graceInterval => Deliveries.setOvertempGraceInterval graceInterval
  | .getThermalState => Deliveries.getThermalState
  | .setNetworkStandbyMode accepted => Deliveries.setNetworkStandbyMode accepted
  | .setWakeupSourceConfig outcome => Deliveries.setWakeupSourceConfig outcome
  | .reboot => Deliveries.reboot
  | .other => under apiLock []
  | .register => under callbackLock []

/-- What a call does. -/
def Call.acts : Call → List Act
  | .api c => c.acts
  | .ackTimer accepted => Deliveries.ackTimer accepted
  | .preChangeJob => Deliveries.preChangeJob
  | .onDeepSleepTimerWakeup r => Deliveries.onDeepSleepTimerWakeup r
  | .onDeepSleepUserWakeup r => Deliveries.onDeepSleepUserWakeup r
  | .pollThermalLevels turn => Deliveries.pollThermalLevels turn

/-- The threads: the poll loop, the threads of the worker pool and those of the clients. -/
inductive ThreadId
  | poll
  | worker (n : ℕ)
  | client (n : ℕ)
  deriving DecidableEq, Repr

/-- The clients call the API, the worker pool runs jobs, and the poll loop polls. -/
def mayCall : ThreadId → Call → Bool
  | .client _, .api _ => true
  | .worker _, .ackTimer _ | .worker _, .preChangeJob | .worker _, .onDeepSleepTimerWakeup _
  | .worker _, .onDeepSleepUserWakeup _ => true
  | .poll, .pollThermalLevels _ => true
  | _, _ => false

/-- While they are told, the clients call the API as well. -/
def mayCallBack : Call → Bool
  | .api _ => true
  | _ => false

/-- The calls of the plugin and its clients. -/
def deliveries : CallbackProgram ThreadId Lock Call Path where
  recursive := recursive
  mayCall := mayCall
  mayCallBack := mayCallBack
  acts := Call.acts

/-- A state of the machine. -/
abbrev State := CallbackState ThreadId Lock Path

/-- A label of the machine. -/
abbrev Label := CallbackLabel ThreadId Call

/-- Nothing is locked, and no thread is in a call. -/
def initial : State where
  owner _ := none
  thread _ := ⟨[], [], false⟩

/-! ## The same locks -/

/-- A call of `Locks`. -/
def ofLocks : Locks.Call → Call
  | .setPowerState r => .api (.setPowerState r)
  | .powerModePreChangeComplete accepted => .api (.powerModePreChangeComplete accepted)
  | .setOvertempGraceInterval graceInterval => .api (.setOvertempGraceInterval graceInterval)
  | .getThermalState => .api .getThermalState
  | .setNetworkStandbyMode accepted => .api (.setNetworkStandbyMode accepted)
  | .pollThermalLevels turn => .pollThermalLevels turn

section LocksOf

open CallbackProgram

@[simp]
theorem locksOf_setDevicePowerState (k : Path) (accepted : Bool) :
    locksOf (setDevicePowerState k accepted) = Locks.setDevicePowerState accepted := by
  cases accepted <;> rfl

@[simp]
theorem locksOf_selfLockBusy (n : ℕ) : locksOf (selfLockBusy n) = Locks.selfLockBusy n := by
  induction n with
  | zero => rfl
  | succ n ih => simp [selfLockBusy, Locks.selfLockBusy, ih]

@[simp]
theorem locksOf_setPowerState (r : Request) :
    locksOf (setPowerState r) = Locks.setPowerState r := by
  have houtcome : locksOf (outcome r.outcome) = r.outcome.acts := by
    cases r.outcome <;> simp [outcome, Outcome.acts]
  simp [setPowerState, Locks.setPowerState, getPowerState, Locks.getPowerState, houtcome]

@[simp]
theorem locksOf_levelChanged (changed : Bool) :
    locksOf (levelChanged changed) = Locks.levelChanged changed := by
  cases changed <;> rfl

/-- Without the clients, the calls of `Locks` do the same. -/
theorem locksOf_acts (c : Locks.Call) : locksOf (ofLocks c).acts = c.acts := by
  cases c with
  | setPowerState r => exact locksOf_setPowerState r
  | powerModePreChangeComplete accepted =>
    -- what the section holds is the section of what is in it
    show locksOf (under apiLock _) = _
    rw [locksOf_under]
    cases accepted with
    | none => rfl
    | some accepted => exact congrArg (guarded apiLock) (locksOf_setDevicePowerState _ accepted)
  | setOvertempGraceInterval graceInterval =>
    show locksOf (under apiLock _) = guarded apiLock _
    rw [locksOf_under]
    split <;> rfl
  | getThermalState => rfl
  | setNetworkStandbyMode accepted => cases accepted <;> rfl
  | pollThermalLevels turn =>
    cases turn with
    | deepSleep | failed | stopped => rfl
    | read changed critical concern =>
      have hrequests : locksOf (deepSleepIfNeeded critical concern) =
          Locks.deepSleepIfNeeded critical concern := by
        cases critical <;> cases concern <;> simp [deepSleepIfNeeded, Locks.deepSleepIfNeeded]
      show locksOf (getPowerState ++ (under thermMutex _ ++ under graceIntervalMutex _)) = _
      rw [locksOf_append, locksOf_append, locksOf_under, locksOf_under, locksOf_levelChanged,
        hrequests]
      rfl
    | broken changed =>
      show locksOf (getPowerState ++ .lock (.lock thermMutex) :: (_ ++ [.lock .exit])) = _
      rw [locksOf_append, locksOf_cons_lock, locksOf_append, locksOf_levelChanged]
      rfl

end LocksOf

/-! ## The completion handler -/

/-- The path on which a step of the implementation tells of a change, if it does. -/
def path? : PowerManager.Label → Option Path
  | .schedule _ => some .schedule
  | .powerModePreChangeComplete _ _ _ => some .lastAck
  | .removePowerModePreChangeClient _ _ => some .clientRemoval
  | .timer _ => some .ackTimer
  | .request _ _ | .create _ | .delayPowerModeChangeBy _ _ _ _ | .addPowerModePreChangeClient _ =>
    none

/-- A change is told on these four paths only, and `selfLock` is held where `Schedule` tells of
it. -/
theorem path?_of_modeChanged {pm pm' : Implementation} {l : PowerManager.Label} {es : List Event}
    {p n : PowerState} (hI : pm.Inv) (h : implementation.step pm l = some (pm', es))
    (hmem : .modeChanged p n ∈ es) :
    ∃ k, path? l = some k ∧ (k = .schedule → pm.selfLock = false) := by
  -- of the steps that tell of a change, only `schedule` holds `selfLock`
  obtain ⟨hcompletes, env, henv, -⟩ := (Implementation.modeChanged_iff hI h).mp ⟨p, n, hmem⟩
  cases l with
  | request | delayPowerModeChangeBy | addPowerModePreChangeClient => cases henv
  | create env =>
    simp only [Implementation.completes] at hcompletes
    split at hcompletes
    · cases hcompletes
    · cases hcompletes
  | schedule env =>
    refine ⟨.schedule, rfl, fun _ => ?_⟩
    rw [← Bool.not_eq_true, hI.selfLock]
    intro hidle
    -- without a request under way there is nothing to schedule
    simp [implementation, hidle] at h
  | powerModePreChangeComplete clientId transactionId env => exact ⟨.lastAck, rfl, by simp⟩
  | removePowerModePreChangeClient clientId env => exact ⟨.clientRemoval, rfl, by simp⟩
  | timer env => exact ⟨.ackTimer, rfl, by simp⟩

/-! ## Walks -/

/-- A client may be told under `_callbackLock`. -/
def Harmless (l : Lock) : Prop :=
  l = callbackLock

section Walks

variable {held : List Lock} {acts : List Act}

/-- The acts walk, and leave the locks as they are. -/
abbrev Walk (held : List Lock) (acts : List Act) : Prop :=
  Walks Harmless (fun k => k.clean = true) held acts held

/-- On a clean path, clients may be told under harmless locks. -/
theorem walk_dispatch {k : Path} (hk : k.clean = true) (hheld : ∀ l ∈ held, Harmless l) :
    Walk held (dispatch k) :=
  .under (.notify (by simpa [hk, Harmless] using hheld))

/-- On another path, they are told under one that is not. -/
theorem walk_dispatch_of_not {k : Path} (hk : k.clean = false) {l : Lock} (hl : l ∈ held)
    (hharm : ¬Harmless l) : Walk held (dispatch k) := by
  refine .under (.notify ?_)
  rw [hk]
  -- neither side holds: the path is not clean, and `l` is not harmless
  exact iff_of_false (by simp) fun hall => hharm (hall l (.tail _ hl))

theorem walk_setDevicePowerState {k : Path} (h : Walk held (dispatch k)) (accepted : Bool) :
    Walk held (setDevicePowerState k accepted) :=
  h.ite

theorem walk_selfLockBusy (n : ℕ) : Walk held (selfLockBusy n) := by
  induction n with
  | zero => exact .nil
  | succ n ih =>
    -- the failed attempt to take `selfLock` takes no lock
    show Walk held (under apiLock [] ++ selfLockBusy n)
    exact (Walks.nil.under).append ih

/-- A completion handler that runs in `Schedule` runs under `selfLock`. -/
theorem walk_setPowerState (r : Request) : Walk held (setPowerState r) := by
  refine (walk_selfLockBusy _).append (.under (.append (.under .nil) ?_))
  cases r.outcome with
  | returned => exact .nil
  | registered => exact .under .nil
  | completed accepted =>
    refine (Walks.under .nil).append (walk_setDevicePowerState ?_ accepted)
    exact walk_dispatch_of_not rfl (List.mem_cons_self (a := selfLock)) (by simp [Harmless])

/-- A completion handler that is run by an acknowledgement runs under `_apiLock`. -/
theorem walk_acknowledgement {k : Path} (hk : k.clean = false) (accepted : Option Bool) :
    Walk held (under apiLock (accepted.elim [] (setDevicePowerState k))) := by
  refine .under ?_
  cases accepted with
  | none => exact .nil
  | some accepted =>
    refine walk_setDevicePowerState ?_ accepted
    exact walk_dispatch_of_not hk (List.mem_cons_self (a := apiLock)) (by simp [Harmless])

theorem walk_setNetworkStandbyMode (hheld : ∀ l ∈ held, Harmless l) (accepted : Bool) :
    Walk held (setNetworkStandbyMode accepted) :=
  (Walks.under .nil).append (walk_dispatch rfl hheld).ite

/-- The calls of the API. -/
theorem walk_api (hheld : ∀ l ∈ held, Harmless l) (c : ApiCall) : Walk held c.acts := by
  cases c with
  | setPowerState r => exact walk_setPowerState r
  | powerModePreChangeComplete accepted => exact walk_acknowledgement rfl accepted
  | removePowerModePreChangeClient accepted => exact walk_acknowledgement rfl accepted
  | setOvertempGraceInterval graceInterval => exact .under (Walks.under .nil).ite
  | getThermalState => exact .under (.under .nil)
  | setNetworkStandbyMode accepted => exact walk_setNetworkStandbyMode hheld accepted
  | setWakeupSourceConfig outcome =>
    have hsection : Walk held (under apiLock []) := .under .nil
    cases outcome with
    | invalid => exact .nil
    | failed => exact hsection
    | unequal => exact hsection.append hsection
    | unchanged => exact hsection.append (hsection.append hsection)
    | updated accepted =>
      refine hsection.append (hsection.append (hsection.append ?_))
      exact walk_setNetworkStandbyMode hheld accepted
  | reboot => exact (walk_dispatch rfl hheld).append (.under .nil)
  | other | register => exact .under .nil

/-- A turn of the poll loop tells the clients under `_therm_mutex`. -/
theorem walk_pollThermalLevels (turn : Turn) : Walk held (pollThermalLevels turn) := by
  -- the parts of a turn under the two mutexes
  have hlevel : ∀ changed, Walk (thermMutex :: held) (levelChanged changed) := fun changed =>
    (walk_dispatch_of_not rfl List.mem_cons_self (by simp [Harmless])).ite
  have hrequest : ∀ r : Option Request,
      Walk (graceIntervalMutex :: held) (r.elim [] setPowerState) := by
    rintro (_ | r)
    · exact .nil
    · exact walk_setPowerState r
  cases turn with
  | deepSleep => exact .under .nil
  | failed => exact (Walks.under .nil).append (.under .nil)
  | read changed critical concern =>
    refine (Walks.under .nil).append ((Walks.under (hlevel changed)).append (.under ?_))
    exact (hrequest critical).append (hrequest concern)
  | broken changed =>
    refine (Walks.under .nil).append ?_
    -- the loop is left with `_therm_mutex` locked, and the thread ends
    show Walks _ _ (thermMutex :: held) (levelChanged changed ++ [.lock .exit]) held
    exact (hlevel changed).append trivial
  | stopped => exact trivial

/-- All calls walk. -/
theorem walk_acts (c : Call) (held : List Lock) (hheld : ∀ l ∈ held, Harmless l) :
    Walk held c.acts := by
  cases c with
  | api c => exact walk_api hheld c
  | ackTimer accepted =>
    cases accepted with
    | none => exact .nil
    | some accepted => exact walk_setDevicePowerState (walk_dispatch rfl hheld) accepted
  | preChangeJob => exact .notify (iff_of_true rfl hheld)
  | onDeepSleepTimerWakeup r => exact (walk_dispatch rfl hheld).append (walk_setPowerState r)
  | onDeepSleepUserWakeup r => exact walk_setPowerState r
  | pollThermalLevels turn => exact walk_pollThermalLevels turn

end Walks

/-! ## The deliveries -/

/-- The client can call the API: its thread holds none of the locks that the API needs. -/
def LockFree (d : Delivery ThreadId Lock Path) : Prop :=
  selfLock ∉ d.held ∧ apiLock ∉ d.held ∧ thermMutex ∉ d.held ∧ graceIntervalMutex ∉ d.held

instance (d : Delivery ThreadId Lock Path) : Decidable (LockFree d) :=
  inferInstanceAs (Decidable (_ ∧ _))

theorem lockFree_iff (d : Delivery ThreadId Lock Path) :
    LockFree d ↔ ∀ l ∈ d.held, Harmless l := by
  constructor
  · rintro ⟨hself, hapi, htherm, hgrace⟩ l hl
    cases l with
    | callbackLock => rfl
    | selfLock => exact absurd hl hself
    | apiLock => exact absurd hl hapi
    | thermMutex => exact absurd hl htherm
    | graceIntervalMutex => exact absurd hl hgrace
  · intro hall
    refine ⟨fun hl => ?_, fun hl => ?_, fun hl => ?_, fun hl => ?_⟩ <;> cases hall _ hl

theorem sound_initial :
    CallbackProgram.Sound Harmless (fun k : Path => k.clean = true) initial where
  walks _ _ := .nil
  exited _ _ := rfl

/-- No client is invoked on another path than the clean ones. -/
abbrev Clean (s : State) (lb : Label) : Prop :=
  CallbackProgram.Clean (fun k => k.clean = true) s lb

/-- In every run, with calls of clients from their notifications: all notifications are delivered
without the locks of the API if and only if none is delivered from a completion handler that runs in
`Schedule`, in the last acknowledgement or in the removal of a client, or from the poll loop. -/
theorem deliveries_iff {ls : List Label} {ds : List (Delivery ThreadId Lock Path)} {s : State}
    (h : deliveries.machine.Run initial ls ds s) :
    (∀ d ∈ ds, LockFree d) ↔ deliveries.machine.Along Clean initial ls := by
  simp only [lockFree_iff]
  exact CallbackProgram.harmless_iff_clean sound_initial walk_acts h

/-- A thread makes a call, and invokes a client after `n` acts. -/
def invokeAfter (n : ℕ) (t : ThreadId) (c : Call) : List Label :=
  .call t c :: (List.replicate n (.act t) ++ [.invoke t])

/-- A client that is told of the network standby mode asks for the temperature. -/
theorem deliveries_of_networkStandbyMode :
    ∃ s, deliveries.machine.Run initial
        (invokeAfter 3 (.client 0) (.api (.setNetworkStandbyMode true)) ++
          .call (.client 0) (.api .getThermalState) :: List.replicate 7 (.act (.client 0)))
        [⟨.client 0, .networkStandbyModeChanged, [callbackLock]⟩] s ∧
      (s.thread (.client 0)).todo = [] ∧
      ∀ d ∈ [(⟨.client 0, .networkStandbyModeChanged, [callbackLock]⟩ :
        Delivery ThreadId Lock Path)], LockFree d := by
  obtain ⟨s, hrun, htodo⟩ : ∃ s, deliveries.machine.Run initial
      (invokeAfter 3 (.client 0) (.api (.setNetworkStandbyMode true)) ++
        .call (.client 0) (.api .getThermalState) :: List.replicate 7 (.act (.client 0)))
      [⟨.client 0, .networkStandbyModeChanged, [callbackLock]⟩] s ∧
        (s.thread (.client 0)).todo = [] := Machine.exists_run_of_exec (by decide +kernel)
  refine ⟨s, hrun, htodo, (deliveries_iff hrun).mpr (Machine.along_of_check ?_)⟩
  decide +kernel

/-- Without anybody to acknowledge it, a transition completes in `Schedule`, and a client that is
told of it calls `SetPowerState`: its thread waits for the `selfLock` that it holds. The last
acknowledgement and the removal of a client tell clients under `_apiLock`. A client that is told of
a new thermal level asks for the temperature: the poll loop waits for its own `_therm_mutex`. -/
theorem deliveries_locked :
    (∃ s, deliveries.machine.Run initial
        (invokeAfter 6 (.client 0) (.api (.setPowerState ⟨0, .completed true⟩)) ++
          [.call (.client 0) (.api (.setPowerState ⟨0, .returned⟩))])
        [⟨.client 0, .schedule, [callbackLock, selfLock]⟩] s ∧
      ¬LockFree ⟨.client 0, .schedule, [callbackLock, selfLock]⟩ ∧
      s.owner selfLock = some (.client 0) ∧ (deliveries.act s (.client 0)).isNone = true) ∧
    (∃ s, deliveries.machine.Run initial
        (invokeAfter 2 (.client 0) (.api (.powerModePreChangeComplete (some true))))
        [⟨.client 0, .lastAck, [callbackLock, apiLock]⟩] s ∧
      ¬LockFree ⟨.client 0, .lastAck, [callbackLock, apiLock]⟩) ∧
    (∃ s, deliveries.machine.Run initial
        (invokeAfter 2 (.client 0) (.api (.removePowerModePreChangeClient (some true))))
        [⟨.client 0, .clientRemoval, [callbackLock, apiLock]⟩] s ∧
      ¬LockFree ⟨.client 0, .clientRemoval, [callbackLock, apiLock]⟩) ∧
    ∃ s, deliveries.machine.Run initial
        (invokeAfter 4 .poll (.pollThermalLevels (.read true none none)) ++
          [.call .poll (.api .getThermalState), .act .poll])
        [⟨.poll, .thermalModeChanged, [callbackLock, thermMutex]⟩] s ∧
      ¬LockFree ⟨.poll, .thermalModeChanged, [callbackLock, thermMutex]⟩ ∧
      s.owner thermMutex = some .poll ∧ (deliveries.act s .poll).isNone = true := by
  refine ⟨?_, ?_, ?_, ?_⟩
  all_goals
    apply Machine.exists_run_of_exec
    decide +kernel

end Deliveries

end PowerManager
