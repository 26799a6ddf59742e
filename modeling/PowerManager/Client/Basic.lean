import PowerManager.Client.CallbackList
import Mathlib.Logic.Function.Basic

/-!
# The class of the client library

`PowerController` of the client library: its connection to Thunder, the interface to the plugin, the
callback lists, and the monitor of the file with Thunder's process id. The requests to the plugin
are in `Requests`.

The base class `SmartInterfaceType` is Thunder's. What it does is left to the environment: whether
`Open` and `Close` succeed, which operational states they notify meanwhile on the calling thread
(`Close` notifies that the plugin is gone, for one), and whether `Interface` finds the plugin.

## Main results

* `forAll_eq`: an operation on all lists is the operation on each;
* `KeepsCallbacks`, with a lemma for each function: the connection leaves the callbacks alone, and
  calls only those in the list of the right kind.
-/

namespace PowerManager.Client

/-- What a callback is called with. A `float` is given by its bits. -/
inductive Arguments
  | operationalStateChange (isOperational : Bool)
  | networkStandbyModeChanged (enabled : Bool)
  | powerModePreChanged (currentState newState : PowerControllerPowerState) (transactionId : ℤ)
      (stateChangeAfter : ℤ)
  | powerModeChanged (currentState newState : PowerControllerPowerState)
  | deepSleepTimeout (wakeupTimeout : ℤ)
  | thermalModeChanged (currentLevel newLevel : PowerControllerThermalTemperature)
      (currentTemperature : UInt32)
  | rebootBegin (rebootReasonCustom rebootReasonOther rebootRequestor : String)
  deriving DecidableEq, Repr

/-- The kind of the callbacks that take some arguments. -/
def Arguments.kind : Arguments → Kind
  | .operationalStateChange _ => .operationalStateChange
  | .networkStandbyModeChanged _ => .networkStandbyModeChanged
  | .powerModePreChanged .. => .powerModePreChanged
  | .powerModeChanged .. => .powerModeChanged
  | .deepSleepTimeout _ => .deepSleepTimeout
  | .thermalModeChanged .. => .thermalModeChanged
  | .rebootBegin .. => .rebootBegin

/-- What the class does outwards. -/
inductive Event (F U : Type)
  /-- The plugin is called. -/
  | remote (c : RemoteCall)
  /-- The interface to the plugin was found. -/
  | established
  /-- A callback is called. -/
  | invoked (cb : Callback F U) (args : Arguments)
  /-- The object is destroyed. -/
  | destroyed
  deriving DecidableEq, Repr

/-- `PIDFileMonitor`. A thread that has ended still counts as running until it is joined. -/
structure PIDFileMonitor where
  pid : ℤ
  running : Bool
  shutdown : Bool
  deriving DecidableEq, Repr

namespace PIDFileMonitor

/-- `INVALID_PID`. -/
def invalidPid : ℤ := -1

/-- A new monitor. -/
def initial : PIDFileMonitor := ⟨invalidPid, false, false⟩

/-- `PID`, where the file gives `readPID`. -/
def PID (m : PIDFileMonitor) (readPID : ℤ) : ℤ × PIDFileMonitor :=
  let pid := if m.pid = invalidPid then readPID else m.pid
  (pid, { m with pid })

/-- `Run`. -/
def run (m : PIDFileMonitor) (readPID : ℤ) : PIDFileMonitor :=
  let m := { m with pid := if m.pid = invalidPid then readPID else m.pid }
  if !m.shutdown && !m.running then { m with running := true } else m

/-- `Stop`. -/
def stop (m : PIDFileMonitor) : PIDFileMonitor := { m with running := false, shutdown := true }

end PIDFileMonitor

/-- `PowerController`. -/
structure PowerController (F U : Type) where
  /-- `_powerManagerInterface` is not null. -/
  powerManagerInterface : Bool
  callbacks : Kind → CallbackList F U
  pidMonitor : PIDFileMonitor
  pid : ℤ
  connected : Bool
  shutdown : Bool

/-- An operational state that the base class notifies. -/
structure Operational where
  upAndRunning : Bool
  /-- `BaseClass::Interface` finds the plugin. -/
  interface : Bool
  answers : Answers

/-- What happens to `BaseClass::Open`. -/
structure Opening where
  notified : List Operational
  /-- Its result, or none if it throws. -/
  result : Option Result
  /-- What the process id file says, whenever it is read. -/
  readPID : ℕ → ℤ

/-- What happens to `BaseClass::Close`. -/
structure Closing where
  notified : List Operational
  result : Result

variable {F U : Type}

namespace PowerController

/-- The members before the constructor connects. -/
def fresh : PowerController F U where
  powerManagerInterface := false
  callbacks _ := .empty
  pidMonitor := .initial
  pid := PIDFileMonitor.invalidPid
  connected := false
  shutdown := false

/-- `IsActivatedLocked`. -/
def isActivatedLocked (pc : PowerController F U) : Bool := pc.powerManagerInterface

/-- The list of a kind is replaced. -/
def setCallbacks (pc : PowerController F U) (k : Kind) (l : CallbackList F U) :
    PowerController F U :=
  { pc with callbacks := Function.update pc.callbacks k l }

/-- The kinds that `SubscribeAllNotificationsLocked` and `UnsubscribeAllNotificationsLocked` name,
in their order. -/
def notifications : List Kind :=
  [.powerModeChanged, .powerModePreChanged, .deepSleepTimeout, .networkStandbyModeChanged,
    .thermalModeChanged, .rebootBegin]

/-- An operation on the lists of some kinds, one after the other. -/
def forAll (op : Kind → Bool → CallbackList F U → CallbackList F U × List RemoteCall) :
    List Kind → PowerController F U → PowerController F U × List RemoteCall
  | [], pc => (pc, [])
  | k :: ks, pc =>
    let r := op k pc.isActivatedLocked (pc.callbacks k)
    let rest := forAll op ks (pc.setCallbacks k r.1)
    (rest.1, r.2 ++ rest.2)

/-- `SubscribeAllNotificationsLocked`. -/
def subscribeAllNotificationsLocked (answers : Answers) (pc : PowerController F U) :
    PowerController F U × List RemoteCall :=
  pc.forAll (fun k active l => l.registerNotificationInternalLocked k active answers) notifications

/-- `UnsubscribeAllNotificationsLocked`. -/
def unsubscribeAllNotificationsLocked (answers : Answers) (pc : PowerController F U) :
    PowerController F U × List RemoteCall :=
  pc.forAll (fun k active l => l.unregisterNotificationInternalLocked k active answers true)
    notifications

/-- A loop over the callbacks of a kind. -/
def notify (pc : PowerController F U) (k : Kind) (args : Arguments) : List (Event F U) :=
  (pc.callbacks k).callbacks.map (.invoked · args)

/-- `Operational` up to the release of the internal lock. -/
def operationalLocked (pc : PowerController F U) (o : Operational) :
    PowerController F U × List (Event F U) :=
  if o.upAndRunning then
    if !pc.powerManagerInterface && o.interface then
      let r := { pc with powerManagerInterface := true }.subscribeAllNotificationsLocked o.answers
      (r.1, .established :: r.2.map .remote)
    else (pc, [])
  else if pc.powerManagerInterface then
    let r := pc.unsubscribeAllNotificationsLocked o.answers
    ({ r.1 with powerManagerInterface := false }, r.2.map .remote)
  else (pc, [])

/-- `Operational`. -/
def operational (pc : PowerController F U) (o : Operational) :
    PowerController F U × List (Event F U) :=
  let r := pc.operationalLocked o
  (r.1, r.2 ++ if r.1.shutdown then []
    else r.1.notify .operationalStateChange (.operationalStateChange o.upAndRunning))

/-- The operational states that are notified during `Open` or `Close`. -/
def operationals : List Operational → PowerController F U → PowerController F U × List (Event F U)
  | [], pc => (pc, [])
  | o :: os, pc =>
    let r := pc.operational o
    let rest := operationals os r.1
    (rest.1, r.2 ++ rest.2)

/-- `Connect`. -/
def connect (pc : PowerController F U) (o : Opening) :
    Result × PowerController F U × List (Event F U) :=
  if pc.connected then (if pc.powerManagerInterface then .errorNone else .errorNotExist, pc, [])
  else
    let r := pc.operationals o.notified
    match o.result with
    | none => (.errorGeneral, r)
    | some .errorNone =>
      let pc := { r.1 with connected := true }
      let pc := if pc.pidMonitor.running then pc else
        let m := pc.pidMonitor.PID (o.readPID 0)
        { pc with pid := m.1, pidMonitor := m.2.run (o.readPID 1) }
      (if pc.powerManagerInterface then .errorNone else .errorNotExist, pc, r.2)
    | some _ => (.errorUnavailable, r)

/-- The part of `Disconnect` that closes the connection. -/
def closeChannel (pc : PowerController F U) (c : Closing) :
    Result × PowerController F U × List (Event F U) :=
  if pc.connected then
    let r := pc.operationals c.notified
    (c.result, { r.1 with connected := false }, r.2)
  else (.errorGeneral, pc, [])

/-- `Disconnect`. -/
def disconnect (pc : PowerController F U) (shutdown : Bool) (c : Closing) :
    Result × PowerController F U × List (Event F U) :=
  if shutdown && pc.pidMonitor.running then
    { pc with pidMonitor := pc.pidMonitor.stop }.closeChannel c
  else pc.closeChannel c

/-- The constructor. -/
def new (o : Opening) : PowerController F U × List (Event F U) := (fresh.connect o).2

/-- The destructor, up to the end of its body. -/
def destroy (pc : PowerController F U) (c : Closing) : PowerController F U × List (Event F U) :=
  let r := ({ pc with shutdown := true }.disconnect true c).2
  (r.1, r.2 ++ [.destroyed])

/-- `pidChangedCb`. -/
def pidChangedCb (pc : PowerController F U) (pid : ℤ) (c : Closing) (o : Opening) :
    PowerController F U × List (Event F U) :=
  if pc.pid ≠ pid then
    let r := (pc.disconnect false c).2
    let r' := (r.1.connect o).2
    ({ r'.1 with pid }, r.2 ++ r'.2)
  else (pc, [])

/-- The methods of the sink, and the loops of the class that they lead to. -/
def onNotification (pc : PowerController F U) : Notification → List (Event F U)
  | .onPowerModeChanged currentState newState =>
    pc.notify .powerModeChanged (.powerModeChanged
      (convert powerStateMap .unknown (.constant currentState))
      (convert powerStateMap .unknown (.constant newState)))
  | .onPowerModePreChange currentState newState transactionId stateChangeAfter =>
    pc.notify .powerModePreChanged (.powerModePreChanged
      (convert powerStateMap .unknown (.constant currentState))
      (convert powerStateMap .unknown (.constant newState))
      transactionId stateChangeAfter.toInt32.toInt)
  | .onDeepSleepTimeout wakeupTimeout =>
    pc.notify .deepSleepTimeout (.deepSleepTimeout wakeupTimeout.toInt32.toInt)
  | .onNetworkStandbyModeChanged enabled =>
    pc.notify .networkStandbyModeChanged (.networkStandbyModeChanged enabled)
  | .onThermalModeChanged currentLevel newLevel currentTemperature =>
    pc.notify .thermalModeChanged (.thermalModeChanged
      (convert thermalTemperatureMap .unknown (.constant currentLevel))
      (convert thermalTemperatureMap .unknown (.constant newLevel)) currentTemperature)
  | .onRebootBegin rebootReasonCustom rebootReasonOther rebootRequestor =>
    pc.notify .rebootBegin (.rebootBegin rebootReasonCustom rebootReasonOther rebootRequestor)

variable [DecidableEq F]

/-- `RegisterCallbackInternal`, on the list of a kind. -/
def registerCallbackInternal (pc : PowerController F U) (k : Kind) (callback : Option F)
    (userdata : U) (answers : Answers) : Result × PowerController F U × List (Event F U) :=
  match callback with
  | none => (.errorInvalidParameter, pc, [])
  | some callback =>
    let r := (pc.callbacks k).addCallbackLocked k pc.isActivatedLocked answers callback userdata
    (r.1, pc.setCallbacks k r.2.1, r.2.2.map .remote)

/-- `UnRegisterCallback`, on the list of a kind. -/
def unRegisterCallback (pc : PowerController F U) (k : Kind) (callback : Option F)
    (answers : Answers) : Result × PowerController F U × List (Event F U) :=
  match callback with
  | none => (.errorInvalidParameter, pc, [])
  | some callback =>
    let r := (pc.callbacks k).removeCallbackLocked k pc.isActivatedLocked answers callback
    (r.1, pc.setCallbacks k r.2.1, r.2.2.map .remote)

/-! ## The lists after an operation on all of them -/

variable {pc : PowerController F U} {k : Kind} {l : CallbackList F U}

omit [DecidableEq F] in
@[simp] theorem setCallbacks_same : (pc.setCallbacks k l).callbacks k = l := by
  simp [setCallbacks]

omit [DecidableEq F] in
theorem setCallbacks_of_ne {k' : Kind} (h : k' ≠ k) :
    (pc.setCallbacks k l).callbacks k' = pc.callbacks k' := by
  simp [setCallbacks, h]

omit [DecidableEq F] in
/-- An operation on all lists is the operation on each. -/
theorem forAll_eq {ks : List Kind} (hks : ks.Nodup) (pc : PowerController F U)
    (op : Kind → Bool → CallbackList F U → CallbackList F U × List RemoteCall) :
    pc.forAll op ks =
      ({ pc with callbacks := fun k =>
          if k ∈ ks then (op k pc.powerManagerInterface (pc.callbacks k)).1 else pc.callbacks k },
        ks.flatMap fun k => (op k pc.powerManagerInterface (pc.callbacks k)).2) := by
  induction ks generalizing pc with
  | nil => simp [forAll]
  | cons k ks ih =>
    obtain ⟨hk, hks⟩ := List.nodup_cons.mp hks
    -- the lists of the other kinds are still those of `pc`
    have hother : ∀ k' ∈ ks, (pc.setCallbacks k
        (op k pc.powerManagerInterface (pc.callbacks k)).1).callbacks k' = pc.callbacks k' :=
      fun k' hk' => setCallbacks_of_ne fun heq => hk (heq ▸ hk')
    simp only [forAll, ih hks, isActivatedLocked, List.flatMap_cons]
    refine Prod.ext ?_ ?_
    · simp only [setCallbacks, PowerController.mk.injEq, and_true, true_and]
      funext k'
      by_cases heq : k' = k
      · subst heq
        simp [hk]
      · simp [heq]
    · refine congrArg (_ ++ ·) (List.flatMap_congr fun k' hk' => ?_)
      rw [hother k' hk']
      rfl

/-! ## The callbacks -/

/-- An operation leaves the callbacks alone, and calls only callbacks of the right kind that are in
their lists. It does not begin to shut the object down either. -/
structure KeepsCallbacks (pc : PowerController F U) (r : PowerController F U × List (Event F U)) :
    Prop where
  shutdown : r.1.shutdown = pc.shutdown
  identifiers : ∀ k, (r.1.callbacks k).identifiers = (pc.callbacks k).identifiers
  invoked : ∀ cb args, .invoked cb args ∈ r.2 →
    cb.callback ∈ (pc.callbacks args.kind).identifiers
  destroyed : .destroyed ∉ r.2

omit [DecidableEq F]

theorem KeepsCallbacks.nil : KeepsCallbacks pc (pc, []) where
  shutdown := rfl
  identifiers _ := rfl
  invoked _ _ h := absurd h List.not_mem_nil
  destroyed := List.not_mem_nil

theorem KeepsCallbacks.append {r r' : PowerController F U × List (Event F U)}
    (h : KeepsCallbacks pc r) (h' : KeepsCallbacks r.1 r') :
    KeepsCallbacks pc (r'.1, r.2 ++ r'.2) where
  shutdown := h'.shutdown.trans h.shutdown
  identifiers k := (h'.identifiers k).trans (h.identifiers k)
  invoked cb args hmem := by
    rcases List.mem_append.mp hmem with hmem | hmem
    · exact h.invoked cb args hmem
    · rw [← h.identifiers]
      exact h'.invoked cb args hmem
  destroyed hmem := (List.mem_append.mp hmem).elim h.destroyed h'.destroyed

/-- The members other than the lists do not matter. -/
theorem KeepsCallbacks.congr {pc' : PowerController F U}
    {r r' : PowerController F U × List (Event F U)} (h : KeepsCallbacks pc r)
    (hpc : pc'.callbacks = pc.callbacks ∧ pc'.shutdown = pc.shutdown)
    (hr : r'.1.callbacks = r.1.callbacks ∧ r'.1.shutdown = r.1.shutdown) (hes : r'.2 = r.2) :
    KeepsCallbacks pc' r' where
  shutdown := by rw [hr.2, hpc.2, h.shutdown]
  identifiers k := by
    rw [hr.1, hpc.1]
    exact h.identifiers k
  invoked cb args hmem := by
    rw [hpc.1]
    exact h.invoked cb args (hes ▸ hmem)
  destroyed := hes ▸ h.destroyed

/-- An operation on all lists leaves the callbacks alone if it does so for each list. -/
theorem keepsCallbacks_forAll {ks : List Kind} (hks : ks.Nodup)
    {op : Kind → Bool → CallbackList F U → CallbackList F U × List RemoteCall}
    (h : ∀ k active l, (op k active l).1.identifiers = l.identifiers) :
    KeepsCallbacks pc ((pc.forAll op ks).1, (pc.forAll op ks).2.map .remote) where
  shutdown := by rw [forAll_eq hks]
  identifiers k := by
    rw [forAll_eq hks]
    show CallbackList.identifiers (if k ∈ ks then _ else _) = _
    split
    · exact h k _ _
    · rfl
  invoked cb args hmem := by simp at hmem
  destroyed hmem := by simp at hmem

theorem nodup_notifications : notifications.Nodup := by decide

variable (pc)

/-- A loop calls the callbacks of its list. -/
theorem keepsCallbacks_notify (args : Arguments) :
    KeepsCallbacks pc (pc, pc.notify args.kind args) where
  shutdown := rfl
  identifiers _ := rfl
  invoked cb args' hmem := by
    obtain ⟨cb', hcb, heq⟩ := List.mem_map.mp hmem
    cases heq
    exact List.mem_map_of_mem hcb
  destroyed hmem := by simp [notify] at hmem

theorem keepsCallbacks_onNotification (n : Notification) :
    KeepsCallbacks pc (pc, pc.onNotification n) := by
  cases n <;> exact keepsCallbacks_notify pc _

theorem keepsCallbacks_subscribeAll (answers : Answers) :
    KeepsCallbacks pc ((pc.subscribeAllNotificationsLocked answers).1,
      (pc.subscribeAllNotificationsLocked answers).2.map .remote) :=
  keepsCallbacks_forAll nodup_notifications fun _ _ _ => CallbackList.identifiers_register

theorem keepsCallbacks_unsubscribeAll (answers : Answers) :
    KeepsCallbacks pc ((pc.unsubscribeAllNotificationsLocked answers).1,
      (pc.unsubscribeAllNotificationsLocked answers).2.map .remote) :=
  keepsCallbacks_forAll nodup_notifications fun _ _ _ => CallbackList.identifiers_unregister true

theorem keepsCallbacks_operationalLocked (o : Operational) :
    KeepsCallbacks pc (pc.operationalLocked o) := by
  unfold operationalLocked
  split
  · -- the plugin comes, and the sink is registered
    split
    · have hestablished : KeepsCallbacks pc (pc, [.established]) :=
        ⟨rfl, fun _ => rfl, fun _ _ hmem => by simp at hmem, by simp⟩
      have hsubscribe := keepsCallbacks_subscribeAll { pc with powerManagerInterface := true }
        o.answers
      exact hestablished.append (hsubscribe.congr ⟨rfl, rfl⟩ ⟨rfl, rfl⟩ rfl)
    · exact .nil
  · split
    · exact (keepsCallbacks_unsubscribeAll pc o.answers).congr ⟨rfl, rfl⟩ ⟨rfl, rfl⟩ rfl
    · exact .nil

theorem keepsCallbacks_operational (o : Operational) : KeepsCallbacks pc (pc.operational o) := by
  have hloop : KeepsCallbacks (pc.operationalLocked o).1 ((pc.operationalLocked o).1,
      if (pc.operationalLocked o).1.shutdown then []
      else (pc.operationalLocked o).1.notify .operationalStateChange
        (.operationalStateChange o.upAndRunning)) := by
    split
    · exact .nil
    · exact keepsCallbacks_notify _ (.operationalStateChange o.upAndRunning)
  exact (keepsCallbacks_operationalLocked pc o).append hloop

theorem keepsCallbacks_operationals (os : List Operational) :
    KeepsCallbacks pc (pc.operationals os) := by
  induction os generalizing pc with
  | nil => exact .nil
  | cons o os ih => exact (keepsCallbacks_operational pc o).append (ih _)

theorem keepsCallbacks_connect (o : Opening) : KeepsCallbacks pc (pc.connect o).2 := by
  -- whatever becomes of `Open`, callbacks are called only by the states that it notifies
  have hopen := keepsCallbacks_operationals pc o.notified
  unfold connect
  split
  · exact .nil
  · split
    · exact hopen
    · refine hopen.congr ⟨rfl, rfl⟩ ?_ rfl
      show (if _ then _ else _ : PowerController F U).callbacks = _ ∧
        (if _ then _ else _ : PowerController F U).shutdown = _
      split <;> exact ⟨rfl, rfl⟩
    · exact hopen

theorem keepsCallbacks_closeChannel (c : Closing) : KeepsCallbacks pc (pc.closeChannel c).2 := by
  unfold closeChannel
  split
  · exact (keepsCallbacks_operationals pc c.notified).congr ⟨rfl, rfl⟩ ⟨rfl, rfl⟩ rfl
  · exact .nil

theorem keepsCallbacks_disconnect (shutdown : Bool) (c : Closing) :
    KeepsCallbacks pc (pc.disconnect shutdown c).2 := by
  unfold disconnect
  split
  · have h := keepsCallbacks_closeChannel { pc with pidMonitor := pc.pidMonitor.stop } c
    exact h.congr ⟨rfl, rfl⟩ ⟨rfl, rfl⟩ rfl
  · exact keepsCallbacks_closeChannel pc c

theorem keepsCallbacks_pidChangedCb (pid : ℤ) (c : Closing) (o : Opening) :
    KeepsCallbacks pc (pc.pidChangedCb pid c o) := by
  unfold pidChangedCb
  split
  · have hconnect := keepsCallbacks_connect (pc.disconnect false c).2.1 o
    exact ((keepsCallbacks_disconnect pc false c).append hconnect).congr ⟨rfl, rfl⟩ ⟨rfl, rfl⟩ rfl
  · exact .nil

theorem pidMonitor_subscribeAll (answers : Answers) :
    (pc.subscribeAllNotificationsLocked answers).1.pidMonitor = pc.pidMonitor := by
  rw [subscribeAllNotificationsLocked, forAll_eq nodup_notifications]

theorem pidMonitor_unsubscribeAll (answers : Answers) :
    (pc.unsubscribeAllNotificationsLocked answers).1.pidMonitor = pc.pidMonitor := by
  rw [unsubscribeAllNotificationsLocked, forAll_eq nodup_notifications]

/-- Operational states leave the monitor alone. -/
theorem pidMonitor_operational (o : Operational) :
    (pc.operational o).1.pidMonitor = pc.pidMonitor := by
  simp only [operational, operationalLocked]
  split
  · split
    · exact pidMonitor_subscribeAll { pc with powerManagerInterface := true } o.answers
    · rfl
  · split
    · exact pidMonitor_unsubscribeAll pc o.answers
    · rfl

theorem pidMonitor_operationals (os : List Operational) :
    (pc.operationals os).1.pidMonitor = pc.pidMonitor := by
  induction os generalizing pc with
  | nil => rfl
  | cons o os ih => exact (ih _).trans (pidMonitor_operational pc o)

/-- The destructor calls only callbacks that are in their lists. -/
theorem invoked_destroy {pc : PowerController F U} {c : Closing} {cb : Callback F U}
    {args : Arguments} (h : .invoked cb args ∈ (pc.destroy c).2) :
    cb.callback ∈ (pc.callbacks args.kind).identifiers := by
  have hkeep := keepsCallbacks_disconnect { pc with shutdown := true } true c
  rcases List.mem_append.mp h with h | h
  · exact hkeep.invoked cb args h
  · cases List.mem_singleton.mp h

end PowerController

end PowerManager.Client
