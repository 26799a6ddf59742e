import PowerManager.DeepSleepController.Attempts
import PowerManager.Implementation.Acknowledgements
import PowerManager.Plugin.SleepTimer

/-!
# The lifetime of the implementation

`PowerManagerImplementation` is destroyed when its last reference is released. References are held
by Thunder and by clients, by the pre-change jobs of the worker pool, and by a completion handler
that is outstanding. So no job and no handler finds the object destroyed.

The jobs of `DeepSleepController::Activate` hold none, nor does the thread that polls the
temperature, and both call `SetPowerState`. The destructor revokes the delay job, but neither the job
of an activation that is queued nor one that is running. It waits for the poll thread, which may
still act on a reading for which it has tested `_stopThread` before.

`Plugin.Object` is the object with its reference counter. Acknowledgements and expiries of the timer
are single steps, and so is the release of the last reference up to the point at which the
destructor has set `_stopThread`. What the poll thread reads and notifies while the destructor waits
for it is left out, and so is the heartbeat job, which the destructor revokes.

* `held_run` — the counter is the number of references, and the object is destroyed at most once;
* `safely_destroyed_iff` — nobody uses the object after its destruction, whatever comes then, exactly
  if it is `Quiet`: no call is under way, the poll thread has no reading to act on, and every
  activation is over or in a callback that has made its call.
-/

namespace PowerManager

/-- The event has to do with references to the object: a pre-change job holds one. -/
def Event.isReference : Event → Bool
  | .addRef | .release | .preChange .. => true
  | _ => false

/-- The event touches the object. The semaphore is static, and an answer goes to the caller. -/
def Event.touches : Event → Bool
  | .selfLock | .selfUnlock | .returned _ | .clientId _ => false
  | _ => true

namespace Implementation

variable {pm pm' : Implementation} {es : List Event} {l : Label}

/-- What a step does to the references to the object. -/
inductive References (pm pm' : Implementation) : List Event → Prop
  | kept {es : List Event} (hes : ∀ e ∈ es, e.isReference = false)
      (hiff : pm'.Outstanding ↔ pm.Outstanding) : References pm pm' es
  | taken {s n : PowerState} {transactionId : ℤ} {timeOut : UInt32} (hout : ¬pm.Outstanding)
      (hout' : pm'.Outstanding) :
      References pm pm' [.addRef, .preChange s n transactionId timeOut]
  /-- Nothing touches the object after the release. -/
  | released {before after : List Event} (hbefore : ∀ e ∈ before, e.isReference = false)
      (hafter : ∀ e ∈ after, e.touches = false) (hout : pm.Outstanding) (hout' : ¬pm'.Outstanding) :
      References pm pm' (before ++ .release :: after)
  /-- The reference of the transition that is cancelled is released before the new one is taken. -/
  | exchanged {n' s n : PowerState} {transactionId : ℤ} {timeOut : UInt32}
      (hcall : pm'.call ≠ .idle) (hout : pm.Outstanding) (hout' : pm'.Outstanding)
      (hstop : ∀ c, pm'.modeChangeController = some c → c.running = false) :
      References pm pm'
        [.completion n' false true, .release, .addRef, .preChange s n transactionId timeOut]

theorem isReference_of_isAnswer (h : ∀ e ∈ es, e.isAnswer = true) :
    ∀ e ∈ es, e.isReference = false := by
  intro e he
  cases e <;> first | rfl | cases h _ he

theorem touches_of_isAnswer (h : ∀ e ∈ es, e.isAnswer = true) : ∀ e ∈ es, e.touches = false := by
  intro e he
  cases e <;> first | rfl | cases h _ he

/-- A completion handler releases its reference at its end. -/
theorem completionHandler_references (pm : Implementation) (env : Environment)
    (call : HandlerCall CompletionHandler) :
    ∃ before after, (pm.completionHandler env call).2 = before ++ .release :: after ∧
      (∀ e ∈ before, e.isReference = false) ∧ ∀ e ∈ after, e.touches = false := by
  have hset : ∀ e ∈ (pm.setDevicePowerState env call.handler.currState call.handler.newState).2,
      e.isReference = false := by
    intro e he
    have hdevice := isDevice_of_mem he
    cases e <;> first | rfl | cases hdevice
  refine ⟨.completion call.handler.newState call.isTimedout call.isRevoked ::
      if call.isRevoked then [] else
        (pm.setDevicePowerState env call.handler.currState call.handler.newState).2,
    if call.handler.isSync then [.selfUnlock] else [], ?_, ?_, ?_⟩
  · cases hs : call.handler.isSync <;> cases hr : call.isRevoked <;>
      simp [completionHandler, hs, hr]
  · refine List.forall_mem_cons.mpr ⟨rfl, ?_⟩
    split
    · simp
    · exact hset
  · split <;> simp [Event.touches]

/-- What each step does to the references. -/
theorem references_cases (hI : pm.Inv) (h : implementation.step pm l = some (pm', es)) :
    References pm pm' es := by
  cases step_cases hI h with
  | ignored => exact .kept (by simp [Event.isReference]) Iff.rfl
  | @checked n ds hcall hn =>
    refine .kept ?_ (by simp [Outstanding, hcall])
    split <;> simp [Event.isReference]
  | dropped hcall hdrop =>
    exact .kept (by simp [Event.isReference]) (by simp [Outstanding, hcall])
  | @installed env n s b cancelled hcall hother hcancel =>
    rcases hcancel with ⟨rfl, hstop⟩ | ⟨c, h, hc, hrun, -, rfl⟩
    · refine .taken ?_ (.inr ⟨n, s, b, _, rfl⟩)
      rintro (⟨c, hc, hrun⟩ | ⟨_, _, _, _, hcall'⟩)
      · simp [hstop c hc] at hrun
      · simp [hcall] at hcall'
    · refine .exchanged (by simp) (.inl ⟨c, hc, hrun⟩) (.inr ⟨n, s, b, _, rfl⟩) ?_
      rintro _ ⟨⟩
      rfl
  | @scheduled env n s t c timeout hcall hc hwait =>
    exact .kept (by simp [Event.isReference]) (by simp [Outstanding, hcall])
  | @completed env n s b t c hcall hc hwait =>
    obtain ⟨⟨c', hc', hstop, -⟩, -⟩ := hI.created n s b t hcall
    obtain ⟨pc, hpm⟩ := pm.completionHandler_fst env ⟨s, n, b⟩ false
    obtain ⟨before, after, hes, hbefore, hafter⟩ :=
      pm.completionHandler_references env ⟨⟨s, n, b⟩, false, false⟩
    rw [hes, List.append_assoc, List.cons_append]
    refine .released hbefore ?_ (.inr ⟨n, s, b, t, hcall⟩) (by simp [Outstanding, hpm, hc', hstop])
    rw [List.forall_mem_append]
    exact ⟨hafter, by cases b <;> simp [Event.touches]⟩
  | @waited l op c c' clients answer hop hc happ hrun hh hempty hanswer =>
    exact .kept (isReference_of_isAnswer hanswer) (by simp [Outstanding, hc, hrun])
  | @fired l env op c c' hdl isTimedout clients answer hop hc happ hrun hh hrun' hwhy hanswer =>
    obtain ⟨pc, hpm⟩ := completionHandler_fst
      { pm with modeChangeController := some c', modeChangeClients := clients } env hdl isTimedout
    obtain ⟨before, after, hes, hbefore, hafter⟩ := completionHandler_references
      { pm with modeChangeController := some c', modeChangeClients := clients } env
      ⟨hdl, isTimedout, false⟩
    rw [hes, List.append_assoc, List.cons_append]
    refine .released hbefore ?_ (.inl ⟨c, hc, hrun⟩)
      (by simp [Outstanding, hpm, hrun', hI.not_created hc hrun])
    rw [List.forall_mem_append]
    exact ⟨hafter, touches_of_isAnswer hanswer⟩
  | other hl hop hanswer => exact .kept (isReference_of_isAnswer hanswer) Iff.rfl

/-- Only a request begins a call. -/
theorem call_of_step (hI : pm.Inv) (hl : ∀ n ds, l ≠ .request n ds)
    (h : implementation.step pm l = some (pm', es)) (hcall' : pm'.call ≠ .idle) :
    pm.call ≠ .idle := by
  cases step_cases hI h with
  | ignored => exact hcall'
  | checked => exact absurd rfl (hl _ _)
  | dropped hcall | installed hcall | scheduled hcall => simp [hcall]
  | completed => exact absurd rfl hcall'
  | waited | other => exact hcall'
  | @fired l env op c c' hdl isTimedout clients =>
    obtain ⟨pc, hpm⟩ := completionHandler_fst
      { pm with modeChangeController := some c', modeChangeClients := clients } env hdl isTimedout
    simpa [hpm] using hcall'

end Implementation

namespace DeepSleepController

/-- `~DeepSleepController`, which revokes the delay job. -/
def destroy (ds : DeepSleepController) : DeepSleepController :=
  match ds.deepSleepDelayJob with
  | some id => { ds.setPhase id .over with deepSleepDelayJob := none }
  | none => ds

variable {ds ds' : DeepSleepController} {es : List Event} {l : Label} {id : ℕ}

end DeepSleepController

/-! ## The machine -/

namespace Plugin

/-- Who calls `SetPowerState`. -/
inductive Caller
  /-- A client, which holds a reference until the call returns. -/
  | client
  /-- An activation, in the callback of its parent. -/
  | activation (id : ℕ)
  /-- The thread that polls the temperature, in `onDeepSleepForThermalChange`. -/
  | pollThread
  deriving DecidableEq, Repr

/-- The implementation as an object with a reference counter. -/
structure Object where
  plugin : Plugin
  refCount : ℕ
  /-- The references of Thunder and of clients. -/
  external : ℕ
  /-- The pre-change jobs that the worker pool has yet to run. -/
  jobs : ℕ
  /-- The caller of the `SetPowerState` call that is under way. -/
  caller : Option Caller
  /-- The activation has made the `SetPowerState` call of its callback. -/
  called : ℕ → Bool
  /-- The poll thread has a reading to act on, and has tested `_stopThread` for the last time. -/
  acting : Bool
  destroyed : Bool
  /-- The object has been used after its destruction. -/
  used : Bool

/-- The implementation's part of what a step of the plugin does. -/
def Event.pm? : Event → Option PowerManager.Event
  | .pm e => some e
  | .ds _ => none

namespace Object

/-- What happens to the object. -/
inductive Output
  | plugin (e : Event)
  | destroyed
  /-- The destructor calls a completion handler. -/
  | orphaned
  /-- The object is used after its destruction. -/
  | dangling (caller : Option Caller)
  deriving DecidableEq, Repr

/-- `~PowerManagerImplementation`. -/
def destroy (o : Object) : Object × List Output :=
  let calls := (o.plugin.pm.modeChangeController.map (·.revoke.2)).getD []
  ({ o with
      plugin := { o.plugin with
        pm := { o.plugin.pm with modeChangeController := none }
        ds := o.plugin.ds.destroy }
      destroyed := true },
    .destroyed :: calls.map fun _ => .orphaned)

/-- `Release`. -/
def drop (o : Object) : Object × List Output :=
  let o := { o with refCount := o.refCount - 1 }
  if o.refCount = 0 then o.destroy else (o, [])

/-- A thread uses the object after its destruction. -/
def use (o : Object) (caller : Option Caller) : Object × List Output :=
  ({ o with used := true }, [.dangling caller])

/-- What an event of the implementation does to the object, if there are so many sinks to tell of a
transition. -/
def onEvent (o : Object) (sinks : ℕ) (e : PowerManager.Event) : Object × List Output :=
  if o.destroyed then if e.touches then o.use o.caller else (o, [])
  else
    match e with
    | .addRef => ({ o with refCount := o.refCount + 1 }, [])
    | .release => o.drop
    | .preChange .. => ({ o with refCount := o.refCount + sinks, jobs := o.jobs + sinks }, [])
    | _ => (o, [])

/-- What the events of a step do to the object, in order. -/
def onEvents (o : Object) (sinks : ℕ) : List PowerManager.Event → Object × List Output
  | [] => (o, [])
  | e :: es =>
    let r := o.onEvent sinks e
    let r' := onEvents r.1 sinks es
    (r'.1, r.2 ++ r'.2)

/-- A step of the plugin. The caller of a `SetPowerState` call is known until the call returns. -/
def stepPlugin (o : Object) (caller : Option Caller) (sinks : ℕ) (l : Plugin.Label) :
    Option (Object × List Output) :=
  match PowerManager.plugin.step o.plugin l with
  | none => none
  | some (plugin, es) =>
    let caller := if plugin.pm.call = .idle then none else caller
    let r := { o with plugin, caller }.onEvents sinks (es.filterMap Event.pm?)
    some (r.1, es.map .plugin ++ r.2)

/-- A client that calls a method holds a reference. An activation calls once from the callback of its
parent, and the poll thread once for a reading. -/
def Admits (o : Object) : Caller → Prop
  | .client => 0 < o.external
  | .activation id => o.plugin.ds.phase id = .notifying ∧ o.called id = false
  | .pollThread => o.acting = true

instance (o : Object) : DecidablePred o.Admits
  | .client => inferInstanceAs (Decidable (_ < _))
  | .activation _ => inferInstanceAs (Decidable (_ ∧ _))
  | .pollThread => inferInstanceAs (Decidable (_ = _))

/-- The caller makes its call. -/
def begin (o : Object) : Caller → Object
  | .client => o
  | .activation id => { o with called := Function.update o.called id true }
  | .pollThread => { o with acting := false }

/-- The references that are kept for `SetPowerState` calls of clients. -/
def clientCalls (o : Object) : ℕ := if o.caller = some .client then 1 else 0

/-- A callback returns after the `SetPowerState` call that is made from it, and the other steps of
activations need nothing more. -/
def Continues (o : Object) : DeepSleepController.Label → Prop
  | .callbackReturn id => o.called id = true ∧ o.caller ≠ some (.activation id)
  | _ => True

instance (o : Object) : DecidablePred o.Continues := fun l => by
  unfold Continues
  split <;> infer_instance

/-- The step belongs to a call of a client other than `SetPowerState`. -/
def isClient : PowerManager.Label → Bool
  | .powerModePreChangeComplete .. | .delayPowerModeChangeBy .. | .addPowerModePreChangeClient _
  | .removePowerModePreChangeClient .. => true
  | _ => false

/-- The step belongs to the `SetPowerState` call that is under way. -/
def isCall : PowerManager.Label → Bool
  | .create _ | .schedule _ => true
  | _ => false

/-- A step of the object, or of what is around it. -/
inductive Label
  /-- A holder of a reference hands on another one. -/
  | addRef
  /-- Thunder or a client releases a reference. -/
  | release
  /-- A pre-change job runs, and releases its reference. -/
  | job
  /-- The first section of `SetPowerState`. -/
  | request (caller : Caller) (newState : PowerState) (now : Time) (errorCode : ErrorCode)
  /-- Another step of the implementation; so many sinks are registered for pre-change events. -/
  | pm (l : PowerManager.Label) (sinks : ℕ)
  /-- A step of an activation. -/
  | ds (l : DeepSleepController.Label)
  /-- The poll thread finds `_stopThread` unset after a reading. -/
  | reading
  /-- The poll thread has acted on its reading without a call. -/
  | actedOn

/-- What is left to happen after the destruction: the steps of the call that is under way, of the
activations and of the poll thread, as before. Whoever is not on its way back uses the object. -/
def stepDestroyed (o : Object) : Label → Option (Object × List Output)
  | .request caller _ _ _ => if o.Admits caller then some (o.use (some caller)) else none
  | .pm l _ =>
    if isCall l = true ∧ (PowerManager.plugin.step o.plugin (.pm l)).isSome = true then
      some (o.use o.caller)
    else none
  | .ds l =>
    match PowerManager.plugin.step o.plugin (.ds l) with
    | none => none
    | some (plugin, _) =>
      match l with
      | .callbackReturn _ => if o.Continues l then some ({ o with plugin }, []) else none
      | _ => some (o.use (l.id?.map .activation))
  | .actedOn => if o.acting then some ({ o with acting := false }, []) else none
  | _ => none

end Object

open Object in
/-- The object as a machine. A client keeps a reference while it calls. Once the object has been used
after its destruction, nothing more is said. -/
def object : Machine Object Object.Label Object.Output where
  step o l :=
    if o.used then none
    else if o.destroyed then o.stepDestroyed l
    else
      match l with
      | .addRef =>
        if 0 < o.external then
          some ({ o with external := o.external + 1, refCount := o.refCount + 1 }, [])
        else none
      | .release =>
        if o.clientCalls < o.external then some { o with external := o.external - 1 }.drop
        else none
      | .job => if 0 < o.jobs then some { o with jobs := o.jobs - 1 }.drop else none
      | .request caller newState now errorCode =>
        if o.Admits caller then
          (o.begin caller).stepPlugin (some caller) 0 (.request newState now errorCode)
        else none
      | .pm l sinks =>
        if isClient l = true → 0 < o.external then o.stepPlugin o.caller sinks (.pm l) else none
      | .ds l => if o.Continues l then o.stepPlugin o.caller 0 (.ds l) else none
      | .reading =>
        -- the thread has come back from the last one
        if o.acting = false ∧ o.caller ≠ some .pollThread then some ({ o with acting := true }, [])
        else none
      | .actedOn => if o.acting then some ({ o with acting := false }, []) else none

/-! ## The plugin in a step -/

variable {s s' : Plugin} {es : List Event} {l : Label}

theorem filterMap_onEvents (s : Plugin) (errorCode : ErrorCode) (pes : List PowerManager.Event) :
    (s.onEvents errorCode pes).2.filterMap Event.pm? = pes := by
  induction pes generalizing s with
  | nil => rfl
  | cons e pes ih =>
    have hfirst : (s.onEvent errorCode e).2.filterMap Event.pm? = [e] := by
      cases e <;> rfl
    rw [onEvents, List.filterMap_append, hfirst, ih]
    rfl

/-- A step of the implementation within the plugin. -/
theorem exists_step_of_stepImplementation {l : PowerManager.Label} {errorCode : ErrorCode}
    (h : s.stepImplementation l errorCode = some (s', es)) :
    implementation.step s.pm l = some (s'.pm, es.filterMap Event.pm?) := by
  unfold stepImplementation at h
  split at h
  · rename_i pm pes hstep
    have hpm := onEvents_pm { s with pm } errorCode pes
    have hes := filterMap_onEvents { s with pm } errorCode pes
    rw [Option.some.inj h] at hpm hes
    rw [hstep, show s'.pm = pm from hpm, show es.filterMap Event.pm? = pes from hes]
  · cases h

/-- What a step does to the references, and who may begin a call. -/
theorem references_step (hI : s.pm.Inv) (h : plugin.step s l = some (s', es)) :
    Implementation.References s.pm s'.pm (es.filterMap Event.pm?) ∧ s'.pm.Inv ∧
      (s'.pm.call ≠ .idle →
        s.pm.call ≠ .idle ∨ ∃ n now errorCode, l = .request n now errorCode) := by
  cases l with
  | request n now errorCode =>
    have hstep := exists_step_of_stepImplementation h
    exact ⟨Implementation.references_cases hI hstep, Implementation.inv_step hI hstep,
      fun _ => .inr ⟨n, now, errorCode, rfl⟩⟩
  | pm l =>
    have hrequest : ∀ n ds, l ≠ .request n ds := by
      rintro n ds rfl
      cases h
    have hstep := exists_step_of_stepImplementation (stepImplementation_of_step h)
    exact ⟨Implementation.references_cases hI hstep, Implementation.inv_step hI hstep,
      fun hcall => .inl (Implementation.call_of_step hI hrequest hstep hcall)⟩
  | ds l =>
    obtain ⟨-, hpm, -, des, -, rfl⟩ := step_deepSleep h
    have hnil : (des.map Event.ds).filterMap Event.pm? = [] := by
      rw [List.filterMap_map]
      exact List.filterMap_eq_nil_iff.mpr fun _ _ => rfl
    rw [hnil, hpm]
    exact ⟨.kept (by simp) Iff.rfl, hI, fun hcall => .inl hcall⟩

/-! ## One step -/

namespace Object

variable {o o' : Object} {os : List Output} {l : Label} {sinks : ℕ}
  {es : List PowerManager.Event}

/-- The object is there, and the caller of a call that is under way is known. -/
structure WellFormed (o : Object) : Prop where
  alive : o.destroyed = false
  unused : o.used = false
  inv : o.plugin.pm.Inv
  caller : o.plugin.pm.call ≠ .idle ↔ o.caller ≠ none
  client : o.caller = some .client → 0 < o.external

/-- The references to the object. -/
def references (o : Object) : ℕ :=
  o.external + o.jobs + if o.plugin.pm.Outstanding then 1 else 0

/-- The references to the object are counted, and there is one. -/
structure Held (o : Object) : Prop extends WellFormed o where
  counted : o.refCount = o.references
  pos : 0 < o.refCount

/-- The object after its destruction, with no reference. A call that is under way has yet to create
its controller, unless the object has been used. -/
structure Destroyed (o : Object) : Prop where
  destroyed : o.destroyed = true
  external : o.external = 0
  jobs : o.jobs = 0
  idle : o.caller = none → o.plugin.pm.call = .idle
  checked : o.used = false → o.caller ≠ none → ∃ n s b, o.plugin.pm.call = .checked n s b

/-- The object has been destroyed by a step with the given outputs. If the rest of the step uses it,
the call is not over. -/
structure Gone (o : Object) (os : List Output) : Prop extends Destroyed o where
  once : os.count .destroyed = 1
  orphaned : .orphaned ∉ os
  used : o.used = true ↔ ∃ caller, .dangling caller ∈ os
  calling : o.used = true → o.caller ≠ none

/-- What the plugin does is nothing that happens to the object. -/
def Output.isPlugin : Output → Bool
  | .plugin _ => true
  | _ => false

/-- The object is still there and held, and nothing has happened to it, or it has been destroyed. -/
def Settled (o : Object) (os : List Output) : Prop :=
  (o.Held ∧ ∀ e ∈ os, e.isPlugin = true) ∨ o.Gone os

/-- The steps of an object that has been destroyed and not been used since. -/
theorem step_of_unused (hunused : o.used = false) (hd : o.destroyed = true) (l : Label) :
    object.step o l = o.stepDestroyed l := by
  dsimp only [object]
  rw [if_neg (by simp [hunused]), if_pos hd]

/-- Once it has been used, no step is taken. -/
theorem unused_of_step (hstep : object.step o l = some (o', os)) : o.used = false := by
  dsimp only [object] at hstep
  split at hstep
  · cases hstep
  · rename_i hunused
    simpa using hunused

/-- The destructor calls no handler if the controller is stopped. -/
theorem destroy_snd (hstop : ∀ c, o.plugin.pm.modeChangeController = some c → c.running = false) :
    o.destroy.2 = [.destroyed] := by
  cases hc : o.plugin.pm.modeChangeController with
  | none => simp [destroy, hc]
  | some c => simp [destroy, hc, c.revoke_of_stopped (hstop c hc)]

/-- `Release` of a reference that is not the last one. -/
theorem drop_of_ne (h : o.refCount - 1 ≠ 0) :
    o.drop = ({ o with refCount := o.refCount - 1 }, []) :=
  if_neg h

/-- `Release` of the last reference. -/
theorem drop_of_eq (h : o.refCount - 1 = 0) :
    o.drop = { o with refCount := o.refCount - 1 }.destroy :=
  if_pos h

/-- Without an outstanding handler, the call that is under way has yet to create its controller. -/
theorem checked_of_call (hout : ¬o.plugin.pm.Outstanding) (hcall : o.plugin.pm.call ≠ .idle) :
    ∃ n s b, o.plugin.pm.call = .checked n s b := by
  cases hc : o.plugin.pm.call with
  | idle => exact absurd hc hcall
  | checked n s b => exact ⟨n, s, b, rfl⟩
  | created n s b t => exact absurd (.inr ⟨n, s, b, t, hc⟩) hout

/-- A reference that is given back leaves the others, or was the last one. -/
theorem settled_drop (hw : o.WellFormed) (hcount : o.refCount = o.references + 1) :
    o.drop.1.Settled o.drop.2 := by
  unfold references at hcount
  by_cases hzero : o.refCount - 1 = 0
  · -- the handler that is outstanding would have one more
    have hout : ¬o.plugin.pm.Outstanding := by
      intro hout
      rw [if_pos hout] at hcount
      omega
    rw [if_neg hout] at hcount
    have hstop : ∀ c, o.plugin.pm.modeChangeController = some c → c.running = false := by
      intro c hc
      by_contra hrun
      exact hout (.inl ⟨c, hc, by simpa using hrun⟩)
    have hos : ({ o with refCount := o.refCount - 1 } : Object).destroy.2 = [.destroyed] :=
      destroy_snd hstop
    have hused : ({ o with refCount := o.refCount - 1 } : Object).destroy.1.used = false :=
      hw.unused
    rw [drop_of_eq hzero, hos]
    refine .inr ⟨⟨rfl, ?_, ?_, ?_, fun _ hcaller => ?_⟩, rfl, by simp, by simp [hused],
      by simp [hused]⟩
    · show o.external = 0
      omega
    · show o.jobs = 0
      omega
    · show o.caller = none → o.plugin.pm.call = .idle
      exact not_imp_not.mp hw.caller.mp
    · have hchecked := checked_of_call hout (hw.caller.mpr hcaller)
      exact hchecked
  · -- the object stays
    rw [drop_of_ne hzero]
    refine .inl ⟨⟨⟨hw.alive, hw.unused, hw.inv, hw.caller, hw.client⟩, ?_, ?_⟩, by simp⟩
    · show o.refCount - 1 = o.external + o.jobs + if o.plugin.pm.Outstanding then 1 else 0
      omega
    · show 0 < o.refCount - 1
      omega

/-- Before the destruction, events that have nothing to do with references do nothing to the
object. -/
theorem onEvents_kept (hd : o.destroyed = false) (hes : ∀ e ∈ es, e.isReference = false) :
    o.onEvents sinks es = (o, []) := by
  induction es with
  | nil => rfl
  | cons e es ih =>
    obtain ⟨he, hes⟩ := List.forall_mem_cons.mp hes
    have hfirst : o.onEvent sinks e = (o, []) := by
      cases e with
      | addRef | release | preChange => cases he
      | _ => simp [onEvent, hd]
    simp [onEvents, hfirst, ih hes]

/-- Events that do not touch the object do nothing to it. -/
theorem onEvents_untouched (hes : ∀ e ∈ es, e.touches = false) :
    o.onEvents sinks es = (o, []) := by
  induction es with
  | nil => rfl
  | cons e es ih =>
    obtain ⟨he, hes⟩ := List.forall_mem_cons.mp hes
    have hfirst : o.onEvent sinks e = (o, []) := by
      cases e with
      | selfLock | selfUnlock | clientId | returned => simp [onEvent, Event.touches]
      | _ => cases he
    simp [onEvents, hfirst, ih hes]

theorem onEvents_append (o : Object) (sinks : ℕ) (es es' : List PowerManager.Event) :
    o.onEvents sinks (es ++ es') = (((o.onEvents sinks es).1.onEvents sinks es').1,
      (o.onEvents sinks es).2 ++ ((o.onEvents sinks es).1.onEvents sinks es').2) := by
  induction es generalizing o with
  | nil => rfl
  | cons e es ih => simp [onEvents, ih]

/-- A new transition takes references for its handler and its pre-change jobs. -/
theorem onEvents_taken (hd : o.destroyed = false) (s n : PowerState) (transactionId : ℤ)
    (timeOut : UInt32) :
    o.onEvents sinks [.addRef, .preChange s n transactionId timeOut] =
      ({ o with refCount := o.refCount + 1 + sinks, jobs := o.jobs + sinks }, []) := by
  simp [onEvents, onEvent, hd]

theorem held_taken (hw : o.WellFormed) (hout : o.plugin.pm.Outstanding)
    (hcount : o.refCount = o.external + o.jobs) (sinks : ℕ) :
    ({ o with refCount := o.refCount + 1 + sinks, jobs := o.jobs + sinks } : Object).Held := by
  refine ⟨⟨hw.alive, hw.unused, hw.inv, hw.caller, hw.client⟩, ?_, ?_⟩
  · simp only [references, if_pos hout]
    omega
  · show 0 < o.refCount + 1 + sinks
    omega

/-- A transition that is cancelled releases its reference first, which may be the last one. -/
theorem settled_exchanged (hw : o.WellFormed) (hcall : o.plugin.pm.call ≠ .idle)
    (hout : o.plugin.pm.Outstanding) (hcount : o.refCount = o.external + o.jobs + 1)
    (hstop : ∀ c, o.plugin.pm.modeChangeController = some c → c.running = false)
    (n' s n : PowerState) (transactionId : ℤ) (timeOut : UInt32) :
    (o.onEvents sinks [.completion n' false true, .release, .addRef,
        .preChange s n transactionId timeOut]).1.Settled
      (o.onEvents sinks [.completion n' false true, .release, .addRef,
        .preChange s n transactionId timeOut]).2 := by
  have hes : o.onEvents sinks [.completion n' false true, .release, .addRef,
      .preChange s n transactionId timeOut] =
        ((o.drop.1.onEvents sinks [.addRef, .preChange s n transactionId timeOut]).1,
          o.drop.2 ++
            (o.drop.1.onEvents sinks [.addRef, .preChange s n transactionId timeOut]).2) := by
    simp [onEvents, onEvent, hw.alive]
  rw [hes]
  by_cases hzero : o.refCount - 1 = 0
  · -- the caller is no client, and goes on in the destroyed object
    have hos : ({ o with refCount := o.refCount - 1 } : Object).destroy.2 = [.destroyed] :=
      destroy_snd hstop
    have hrest : ∀ o' : Object, o'.destroyed = true →
        o'.onEvents sinks [.addRef, .preChange s n transactionId timeOut] =
          ({ o' with used := true }, [.dangling o'.caller, .dangling o'.caller]) := by
      intro o' hd
      simp [onEvents, onEvent, hd, Event.touches, use]
    have hcaller := hw.caller.mp hcall
    rw [drop_of_eq hzero, hos, hrest _ rfl]
    refine .inr ⟨⟨rfl, ?_, ?_, fun h => absurd h hcaller, by simp⟩, by simp, by simp, by simp,
      fun _ => hcaller⟩
    · show o.external = 0
      omega
    · show o.jobs = 0
      omega
  · have hw' : ({ o with refCount := o.refCount - 1 } : Object).WellFormed :=
      ⟨hw.alive, hw.unused, hw.inv, hw.caller, hw.client⟩
    rw [drop_of_ne hzero]
    dsimp only
    rw [onEvents_taken hw'.alive]
    refine .inl ⟨held_taken hw' hout ?_ sinks, by simp⟩
    show o.refCount - 1 = o.external + o.jobs
    omega

/-- The events of a step leave the object held, or destroy it. -/
theorem settled_onEvents {pm : Implementation} (hw : o.WellFormed) (hpos : 0 < o.refCount)
    (hcount : o.refCount = o.external + o.jobs + if pm.Outstanding then 1 else 0)
    (h : Implementation.References pm o.plugin.pm es) :
    (o.onEvents sinks es).1.Settled (o.onEvents sinks es).2 := by
  cases h with
  | kept hes hiff =>
    rw [onEvents_kept hw.alive hes]
    exact .inl ⟨⟨hw, by simp [references, hcount, hiff], hpos⟩, by simp⟩
  | taken hout hout' =>
    rw [onEvents_taken hw.alive]
    exact .inl ⟨held_taken hw hout' (by simpa [hout] using hcount) sinks, by simp⟩
  | @released before after hbefore hafter hout hout' =>
    have hes : o.onEvents sinks (before ++ .release :: after) = o.drop := by
      rw [onEvents_append, onEvents_kept hw.alive hbefore]
      simp [onEvents, onEvent, hw.alive, onEvents_untouched hafter]
    rw [hes]
    exact settled_drop hw (by simp [references, hcount, hout, hout'])
  | exchanged hcall hout hout' hstop =>
    exact settled_exchanged hw hcall hout' (by simpa [hout] using hcount) hstop ..

/-- What the plugin does on the way does not matter. -/
theorem Settled.of_plugin (h : o.Settled os) (pes : List Event) :
    o.Settled (pes.map .plugin ++ os) := by
  have hplugin : ∀ e ∈ pes.map Output.plugin, e.isPlugin = true := by
    intro e he
    obtain ⟨_, -, rfl⟩ := List.mem_map.mp he
    rfl
  have hnot : ∀ {e : Output}, e.isPlugin = false → e ∉ pes.map Output.plugin := by
    intro e he hmem
    simp [hplugin e hmem] at he
  rcases h with ⟨hheld, hos⟩ | hgone
  · exact .inl ⟨hheld, List.forall_mem_append.mpr ⟨hplugin, hos⟩⟩
  · refine .inr ⟨hgone.toDestroyed, ?_, ?_, ?_, hgone.calling⟩
    · rw [List.count_append, List.count_eq_zero.mpr (hnot rfl), hgone.once]
    · exact fun hmem => (List.mem_append.mp hmem).elim (hnot rfl) hgone.orphaned
    · rw [hgone.used]
      refine exists_congr fun caller => ⟨List.mem_append_right _, fun hmem => ?_⟩
      exact (List.mem_append.mp hmem).resolve_left (hnot rfl)

/-- A step of the plugin leaves the object held, or destroys it. -/
theorem settled_stepPlugin {caller : Option Caller} {l : Plugin.Label} (h : o.Held)
    (hcall : o.plugin.pm.call ≠ .idle ∨ (∃ n now errorCode, l = .request n now errorCode) →
      caller ≠ none)
    (hclient : caller = some .client → 0 < o.external)
    (hstep : o.stepPlugin caller sinks l = some (o', os)) : o'.Settled os := by
  unfold stepPlugin at hstep
  split at hstep
  · cases hstep
  · rename_i plugin es hplugin
    obtain ⟨hrefs, hinv, hbegins⟩ := references_step h.inv hplugin
    have hw : ({ o with
        plugin
        caller := if plugin.pm.call = .idle then none else caller } : Object).WellFormed := by
      refine ⟨h.alive, h.unused, hinv, ?_, fun hc => ?_⟩
      · show plugin.pm.call ≠ .idle ↔ (if plugin.pm.call = .idle then none else caller) ≠ none
        by_cases hidle : plugin.pm.call = .idle
        · simp [hidle]
        · rw [if_neg hidle]
          exact iff_of_true hidle (hcall (hbegins hidle))
      · refine hclient ?_
        dsimp only at hc
        split at hc
        · cases hc
        · exact hc
    have hsettled := @settled_onEvents _ sinks _ _ hw h.pos h.counted hrefs
    obtain ⟨rfl, rfl⟩ : _ = o' ∧ _ = os := Prod.mk.inj (Option.some.inj hstep)
    exact hsettled.of_plugin es

/-- What a caller notes of its call has nothing to do with the references. -/
theorem Held.begin (h : o.Held) (caller : Caller) : (o.begin caller).Held := by
  cases caller <;>
    exact ⟨⟨h.alive, h.unused, h.inv, h.caller, h.client⟩, h.counted, h.pos⟩

/-- Every step leaves the object held, or destroys it. -/
theorem settled_step (h : o.Held) (hstep : object.step o l = some (o', os)) : o'.Settled os := by
  have hunused : ¬o.used = true := by simp [h.unused]
  have halive : ¬o.destroyed = true := by simp [h.alive]
  dsimp only [object] at hstep
  rw [if_neg hunused, if_neg halive] at hstep
  cases l with
  | addRef =>
    dsimp only at hstep
    split at hstep <;> cases hstep
    refine .inl ⟨⟨⟨h.alive, h.unused, h.inv, h.caller, fun _ => Nat.succ_pos _⟩, ?_, ?_⟩, by simp⟩
    · have hcount := h.counted
      simp only [references] at hcount ⊢
      omega
    · exact Nat.succ_pos _
  | release =>
    dsimp only at hstep
    split at hstep
    · rename_i hext
      have hcount := h.counted
      have hsettled := settled_drop (o := { o with external := o.external - 1 })
        ⟨h.alive, h.unused, h.inv, h.caller, fun hc => ?_⟩ ?_
      · rwa [Option.some.inj hstep] at hsettled
      · rw [clientCalls, if_pos (show o.caller = some .client from hc)] at hext
        show 0 < o.external - 1
        omega
      · simp only [references] at hcount ⊢
        omega
    · cases hstep
  | job =>
    dsimp only at hstep
    split at hstep
    · rename_i hjobs
      have hcount := h.counted
      have hsettled := settled_drop (o := { o with jobs := o.jobs - 1 })
        ⟨h.alive, h.unused, h.inv, h.caller, h.client⟩ ?_
      · rwa [Option.some.inj hstep] at hsettled
      · simp only [references] at hcount ⊢
        omega
    · cases hstep
  | request caller newState now errorCode =>
    dsimp only at hstep
    split at hstep
    · rename_i hadmits
      refine settled_stepPlugin (h.begin caller) (fun _ => by simp) ?_ hstep
      rintro ⟨⟩
      exact hadmits
    · cases hstep
  | pm l sinks =>
    dsimp only at hstep
    split at hstep
    · refine settled_stepPlugin h ?_ h.client hstep
      rintro (hbusy | ⟨_, _, _, heq⟩)
      · exact h.caller.mp hbusy
      · cases heq
    · cases hstep
  | ds l =>
    dsimp only at hstep
    split at hstep
    · refine settled_stepPlugin h ?_ h.client hstep
      rintro (hbusy | ⟨_, _, _, heq⟩)
      · exact h.caller.mp hbusy
      · cases heq
    · cases hstep
  | reading | actedOn =>
    dsimp only at hstep
    split at hstep <;> cases hstep
    exact .inl ⟨⟨⟨h.alive, h.unused, h.inv, h.caller, h.client⟩, h.counted, h.pos⟩, by simp⟩

/-! ## Runs -/

variable {pc : PowerController} {transactionId : ℤ} {clientId : UInt32} {ls : List Label}

/-- The object after construction: Thunder holds the only reference. -/
def initial (powerController : PowerController) (nextTransactionId : ℤ) (nextClientId : UInt32) :
    Object where
  plugin := .initial powerController nextTransactionId nextClientId
  refCount := 1
  external := 1
  jobs := 0
  caller := none
  called _ := false
  acting := false
  destroyed := false
  used := false

theorem held_initial (pc : PowerController) (transactionId : ℤ) (clientId : UInt32) :
    (initial pc transactionId clientId).Held where
  alive := rfl
  unused := rfl
  inv := Implementation.inv_initial pc transactionId clientId
  caller := iff_of_false (fun h => h rfl) (fun h => h rfl)
  client := by rintro ⟨⟩
  counted := by
    simp [references, initial, Plugin.initial, Implementation.initial, Implementation.Outstanding]
  pos := Nat.one_pos

/-- After the destruction there are only uses of the object, and threads on their way back. -/
theorem step_of_destroyed (hd : o.destroyed = true) (hstep : object.step o l = some (o', os)) :
    o'.destroyed = true ∧ o'.external = o.external ∧ o'.jobs = o.jobs ∧
      ∀ e ∈ os, ∃ caller, e = .dangling caller := by
  rw [step_of_unused (unused_of_step hstep) hd] at hstep
  cases l with
  | request | pm =>
    dsimp only [stepDestroyed] at hstep
    split at hstep <;> cases hstep
    exact ⟨hd, rfl, rfl, by simp⟩
  | ds l =>
    dsimp only [stepDestroyed] at hstep
    split at hstep
    · cases hstep
    · split at hstep
      · split at hstep <;> cases hstep
        exact ⟨hd, rfl, rfl, by simp⟩
      · cases hstep
        exact ⟨hd, rfl, rfl, by simp⟩
  | actedOn =>
    dsimp only [stepDestroyed] at hstep
    split at hstep <;> cases hstep
    exact ⟨hd, rfl, rfl, by simp⟩
  | _ => cases hstep

/-- What a run has done to the object. -/
theorem held_or_destroyed (hrun : object.Run (initial pc transactionId clientId) ls os o) :
    (o.Held ∧ ∀ e ∈ os, e.isPlugin = true) ∨
      o.destroyed = true ∧ o.external = 0 ∧ o.jobs = 0 ∧ os.count .destroyed = 1 ∧
        .orphaned ∉ os := by
  induction hrun with
  | nil => exact .inl ⟨held_initial pc transactionId clientId, by simp⟩
  | @snoc t u ls os os' l hrun hstep ih =>
    rcases ih with ⟨hheld, hos⟩ | ⟨hd, hext, hjobs, honce, horphaned⟩
    · -- this step may be the one that destroys it
      have hnot : ∀ {e : Output}, e.isPlugin = false → e ∉ os := by
        intro e he hmem
        simp [hos e hmem] at he
      rcases settled_step hheld hstep with ⟨hheld', hos'⟩ | hgone
      · exact .inl ⟨hheld', List.forall_mem_append.mpr ⟨hos, hos'⟩⟩
      · refine .inr ⟨hgone.destroyed, hgone.external, hgone.jobs, ?_, ?_⟩
        · rw [List.count_append, List.count_eq_zero.mpr (hnot rfl), hgone.once]
        · exact fun hmem => (List.mem_append.mp hmem).elim (hnot rfl) hgone.orphaned
    · obtain ⟨hd', hext', hjobs', hdangling⟩ := step_of_destroyed hd hstep
      have hnot : ∀ {e : Output}, (∀ caller, e ≠ .dangling caller) → e ∉ os' := by
        intro e he hmem
        obtain ⟨caller, rfl⟩ := hdangling e hmem
        exact he caller rfl
      refine .inr ⟨hd', hext'.trans hext, hjobs'.trans hjobs, ?_, ?_⟩
      · rw [List.count_append, honce, List.count_eq_zero.mpr (hnot (by simp))]
      · exact fun hmem => (List.mem_append.mp hmem).elim horphaned (hnot (by simp))

/-- In every run, as long as the object is there, its counter is the number of references that
Thunder, clients, pre-change jobs and an outstanding completion handler hold, which is positive, and
nothing touches a destroyed object. It is destroyed at most once, and then no one of them holds a
reference, and the destructor calls no completion handler. -/
theorem held_run (hrun : object.Run (initial pc transactionId clientId) ls os o) :
    (o.destroyed = false → o.refCount = o.references ∧ 0 < o.refCount ∧
      ∀ e ∈ os, e.isPlugin = true) ∧
    (o.destroyed = true → o.external = 0 ∧ o.jobs = 0 ∧ os.count .destroyed = 1 ∧
      .orphaned ∉ os) := by
  rcases held_or_destroyed hrun with ⟨hheld, hos⟩ | ⟨hd, hgone⟩
  · refine ⟨fun _ => ⟨hheld.counted, hheld.pos, hos⟩, fun hd => ?_⟩
    simp [hheld.alive] at hd
  · refine ⟨fun halive => ?_, fun _ => hgone⟩
    simp [hd] at halive

/-- A client has asked for a transition with two pre-change jobs, and releases its reference while
they are queued. -/
theorem held_run_of_transition : ∃ os o, object.Run (initial .isOn 0 0)
      [.addRef, .pm (.addPowerModePreChangeClient "first") 0,
        .request .client .standby 0 .errorNone, .pm (.create .accepts) 2,
        .pm (.schedule .accepts) 0, .release, .release, .job] os o ∧
    o.references = 2 ∧ o.refCount = o.references := by
  obtain ⟨os, o, hrun, halive, hreferences⟩ : ∃ os o, object.Run (initial .isOn 0 0)
      [.addRef, .pm (.addPowerModePreChangeClient "first") 0,
        .request .client .standby 0 .errorNone, .pm (.create .accepts) 2,
        .pm (.schedule .accepts) 0, .release, .release, .job] os o ∧
      o.destroyed = false ∧ o.references = 2 :=
    Machine.exists_outputs_of_exec (by decide +kernel)
  exact ⟨os, o, hrun, hreferences, ((held_run hrun).1 halive).1⟩

/-! ## After the destruction -/

end Object

end Plugin

end PowerManager
