import PowerManager.Client.Requests
import PowerManager.Machine

/-!
# The C API of the client library

The functions of the C API share one object, which `PowerController_Init` creates and
`PowerController_Term` destroys, and a flag `initialized` that only these two set. The functions
that need the object get it from `Instance`, which creates it as well.

`api` takes the calls of the C API in any order, and between them what Thunder does to the object:
operational states, notifications of the plugin, and changes of the file with Thunder's process id.
A call is one step, since the functions hold a lock throughout.

## Main results

* `step_spec`: what a step does to the flag, to the object and to the callbacks, and which callbacks
  it calls.
-/

namespace PowerManager.Client

variable {F U : Type}

/-- The static members of the class. -/
structure Library (F U : Type) where
  /-- `_instance`. -/
  object : Option (PowerController F U)
  initialized : Bool

/-- A call of the C API, or something that Thunder does to the object. Most functions may create the
object, so that they come with an `Opening` for its constructor. -/
inductive ApiLabel (F U : Type)
  | init (o : Opening)
  | term (c : Closing)
  | connect (new o : Opening)
  | disconnect (new : Opening) (c : Closing)
  | isOperational (new : Opening) (answer : Bool)
  | request (new : Opening) (r : Request) (vars : r.Out) (remote : Remote)
  | register (new : Opening) (k : Kind) (callback : Option F) (userdata : U) (answers : Answers)
  | unRegister (new : Opening) (k : Kind) (callback : Option F) (answers : Answers)
  | operational (o : Operational)
  | notification (n : Notification)
  /-- The monitor reads a process id from the file. -/
  | pidFile (pid : ℤ) (c : Closing) (o : Opening)

/-- What is seen of the library. -/
inductive Output (F U : Type)
  | event (e : Event F U)
  | returned (r : Result)
  | returnedBool (b : Bool)
  deriving DecidableEq, Repr

namespace Library

/-- Nothing has been called. -/
def initial : Library F U := ⟨none, false⟩

/-- `Instance`: the object, which is created if there is none. -/
def getInstance (lib : Library F U) (new : Opening) : PowerController F U × List (Event F U) :=
  match lib.object with
  | some pc => (pc, [])
  | none => PowerController.new new

/-- A function of the class is called on the object that `Instance` returns. -/
def onInstance {α : Type} (lib : Library F U) (new : Opening)
    (f : PowerController F U → α × PowerController F U × List (Event F U)) :
    α × Library F U × List (Event F U) :=
  let r := lib.getInstance new
  let r' := f r.1
  (r'.1, { lib with object := some r'.2.1 }, r.2 ++ r'.2.2)

/-- `PowerController_Init`. -/
def init (lib : Library F U) (o : Opening) : Library F U × List (Event F U) :=
  let r := lib.getInstance o
  (⟨some r.1, true⟩, r.2)

/-- `PowerController_Term`. -/
def term (lib : Library F U) (c : Closing) : Library F U × List (Event F U) :=
  match lib.object with
  | some pc => (⟨none, false⟩, (pc.destroy c).2)
  | none => (⟨none, false⟩, [])

/-- `PowerController_Connect`. -/
def connect (lib : Library F U) (new o : Opening) : Result × Library F U × List (Event F U) :=
  lib.onInstance new (·.connect o)

/-- `PowerController_Disconnect`. -/
def disconnect (lib : Library F U) (new : Opening) (c : Closing) :
    Result × Library F U × List (Event F U) :=
  if !lib.initialized then (.errorNone, lib, [])
  else lib.onInstance new (·.disconnect false c)

/-- `PowerController_IsOperational`; the answer is that of the base class. -/
def isOperational (lib : Library F U) (new : Opening) (answer : Bool) :
    Bool × Library F U × List (Event F U) :=
  if !lib.initialized then (false, lib, [])
  else lib.onInstance new fun pc => (answer, pc, [])

/-- The functions for requests. -/
def request (lib : Library F U) (new : Opening) (r : Request) (vars : r.Out) (remote : Remote) :
    Result × Library F U × List (Event F U) :=
  lib.onInstance new fun pc => ((r.perform pc remote vars).result, pc, [])

variable [DecidableEq F]

/-- The functions that register a callback. -/
def register (lib : Library F U) (new : Opening) (k : Kind) (callback : Option F) (userdata : U)
    (answers : Answers) : Result × Library F U × List (Event F U) :=
  lib.onInstance new (·.registerCallbackInternal k callback userdata answers)

/-- The functions that unregister a callback. -/
def unRegister (lib : Library F U) (new : Opening) (k : Kind) (callback : Option F)
    (answers : Answers) : Result × Library F U × List (Event F U) :=
  if !lib.initialized then (.errorNone, lib, [])
  else lib.onInstance new (·.unRegisterCallback k callback answers)

end Library

/-- The outputs of a call. -/
def returning {α : Type} (f : α → Output F U) (r : α × Library F U × List (Event F U)) :
    Library F U × List (Output F U) :=
  (r.2.1, r.2.2.map .event ++ [f r.1])

/-- What Thunder does to the object. -/
def Library.onObject (lib : Library F U)
    (f : PowerController F U → Option (PowerController F U × List (Event F U))) :
    Option (Library F U × List (Output F U)) :=
  match lib.object with
  | some pc => (f pc).map fun r => ({ lib with object := some r.1 }, r.2.map .event)
  | none => none

/-- The C API. -/
def api [DecidableEq F] : Machine (Library F U) (ApiLabel F U) (Output F U) where
  step lib
    | .init o => some ((lib.init o).1, (lib.init o).2.map .event)
    | .term c => some ((lib.term c).1, (lib.term c).2.map .event)
    | .connect new o => some (returning .returned (lib.connect new o))
    | .disconnect new c => some (returning .returned (lib.disconnect new c))
    | .isOperational new answer => some (returning .returnedBool (lib.isOperational new answer))
    | .request new r vars remote => some (returning .returned (lib.request new r vars remote))
    | .register new k callback userdata answers =>
      some (returning .returned (lib.register new k callback userdata answers))
    | .unRegister new k callback answers =>
      some (returning .returned (lib.unRegister new k callback answers))
    | .operational o => lib.onObject fun pc => some (pc.operational o)
    | .notification n => lib.onObject fun pc => some (pc, pc.onNotification n)
    | .pidFile pid c o => lib.onObject fun pc =>
      if pc.pidMonitor.running then
        some (if pid = PIDFileMonitor.invalidPid then (pc, []) else pc.pidChangedCb pid c o)
      else none

/-! ## What a label may do -/

namespace ApiLabel

def isInit : ApiLabel F U → Bool
  | .init _ => true
  | _ => false

def isTerm : ApiLabel F U → Bool
  | .term _ => true
  | _ => false

/-- The call creates the object if there is none, although it is not `PowerController_Init`. -/
def creates : ApiLabel F U → Bool
  | .connect .. => true
  | .request .. => true
  | .register .. => true
  | _ => false

/-- The call does nothing if the flag is not set. -/
def asksFlag : ApiLabel F U → Bool
  | .disconnect .. => true
  | .isOperational .. => true
  | .unRegister .. => true
  | _ => false

/-- The call registers a callback. -/
def Registers (k : Kind) (f : F) : ApiLabel F U → Prop
  | .register _ k' callback _ _ => k' = k ∧ callback = some f
  | _ => False

/-- The call unregisters a callback. -/
def Unregisters (k : Kind) (f : F) : ApiLabel F U → Prop
  | .unRegister _ k' callback _ => k' = k ∧ callback = some f
  | _ => False

end ApiLabel

/-- The event of an output. -/
def Output.event? : Output F U → Option (Event F U)
  | .event e => some e
  | _ => none

/-- The events among some outputs. -/
def events (os : List (Output F U)) : List (Event F U) := os.filterMap Output.event?

namespace Library

/-- The object, or a fresh one if there is none. -/
def controller (lib : Library F U) : PowerController F U := lib.object.getD .fresh

/-- The callbacks of a kind that are in the list. There are none without an object. -/
def identifiers (lib : Library F U) (k : Kind) : List F := (lib.controller.callbacks k).identifiers

end Library

@[simp] theorem events_map (es : List (Event F U)) : events (es.map .event) = es := by
  induction es with
  | nil => rfl
  | cons e es ih => exact congrArg (e :: ·) ih

@[simp] theorem events_append (os os' : List (Output F U)) :
    events (os ++ os') = events os ++ events os' := List.filterMap_append

/-! ## One step -/

/-- What a step does. -/
structure StepSpec (s : Library F U) (l : ApiLabel F U) (s' : Library F U)
    (os : List (Output F U)) : Prop where
  initialized : s'.initialized = (l.isInit || !l.isTerm && s.initialized)
  object : s'.object.isSome =
    (l.isInit || l.creates || l.asksFlag && s.initialized || !l.isTerm && s.object.isSome)
  identifiers : ∀ k f, f ∈ s'.identifiers k ↔
    f ∈ s.identifiers k ∧ l.isTerm = false ∧ ¬(s.initialized = true ∧ l.Unregisters k f) ∨
      l.Registers k f
  shutdown : s.controller.shutdown = false → s'.controller.shutdown = false
  invoked : ∀ cb args, .invoked cb args ∈ events os → cb.callback ∈ s.identifiers args.kind
  destroyed : .destroyed ∈ events os → l.isTerm = true

open PowerController

variable {lib s s' : Library F U} {l : ApiLabel F U} {os : List (Output F U)}

namespace Library

/-- `Instance` leaves the callbacks alone: a new object has none. -/
theorem keepsCallbacks_getInstance (lib : Library F U) (new : Opening) :
    KeepsCallbacks lib.controller (lib.getInstance new) := by
  unfold getInstance controller
  cases lib.object with
  | some pc => exact .nil
  | none => exact keepsCallbacks_connect .fresh new

/-- So does a function that is called on it, if that function does. -/
theorem keepsCallbacks_onInstance {α : Type} (lib : Library F U) (new : Opening)
    {f : PowerController F U → α × PowerController F U × List (Event F U)}
    (hf : ∀ pc, KeepsCallbacks pc (f pc).2) :
    KeepsCallbacks lib.controller
      ((lib.onInstance new f).2.1.controller, (lib.onInstance new f).2.2) :=
  (keepsCallbacks_getInstance lib new).append (hf _)

end Library

/-- A step that leaves the callbacks alone. -/
theorem StepSpec.of_keepsCallbacks (hinit : l.isInit = false) (hterm : l.isTerm = false)
    (hregisters : ∀ k f, ¬l.Registers k f)
    (hunregisters : ∀ k f, s.initialized = true → ¬l.Unregisters k f)
    (hinitialized : s'.initialized = s.initialized)
    (hobject : s'.object.isSome =
      (l.creates || l.asksFlag && s.initialized || s.object.isSome))
    (h : KeepsCallbacks s.controller (s'.controller, events os)) : StepSpec s l s' os where
  initialized := by simp [hinit, hterm, hinitialized]
  object := by simp [hinit, hterm, hobject]
  identifiers k f := by
    rw [Library.identifiers, h.identifiers k]
    exact ⟨fun hf => .inl ⟨hf, hterm, fun hun => hunregisters k f hun.1 hun.2⟩,
      fun hf => hf.elim And.left fun hreg => absurd hreg (hregisters k f)⟩
  shutdown := h.shutdown.trans
  invoked := h.invoked
  destroyed hmem := absurd hmem h.destroyed

theorem events_returned (r : Result × Library F U × List (Event F U)) :
    events (returning .returned r).2 = r.2.2 := by
  rw [returning, events_append, events_map]
  exact List.append_nil _

theorem events_returnedBool (r : Bool × Library F U × List (Event F U)) :
    events (returning .returnedBool r).2 = r.2.2 := by
  rw [returning, events_append, events_map]
  exact List.append_nil _

/-- A call that does nothing. -/
theorem StepSpec.idle (hinit : l.isInit = false) (hterm : l.isTerm = false)
    (hregisters : ∀ k f, ¬l.Registers k f) (hcreates : l.creates = false)
    (hflag : s.initialized = false) (hos : events os = []) : StepSpec s l s os :=
  .of_keepsCallbacks hinit hterm hregisters (fun _ _ hset => absurd (hflag.symm.trans hset) nofun)
    rfl (by simp [hcreates, hflag]) (hos ▸ .nil)

/-- The state after something that Thunder does to the object. -/
theorem Library.onObject_eq
    {f : PowerController F U → Option (PowerController F U × List (Event F U))}
    (h : s.onObject f = some (s', os)) :
    ∃ pc r, s.object = some pc ∧ f pc = some r ∧ s' = { s with object := some r.1 } ∧
      os = r.2.map .event := by
  unfold onObject at h
  cases hpc : s.object with
  | none => simp [hpc] at h
  | some pc =>
    rw [hpc] at h
    obtain ⟨r, hr, heq⟩ := Option.map_eq_some_iff.mp h
    cases heq
    exact ⟨pc, r, rfl, hr, rfl, rfl⟩

/-- Thunder leaves the callbacks alone. -/
theorem StepSpec.onObject
    {f : PowerController F U → Option (PowerController F U × List (Event F U))}
    (hinit : l.isInit = false) (hterm : l.isTerm = false) (hregisters : ∀ k f, ¬l.Registers k f)
    (hunregisters : ∀ k f, ¬l.Unregisters k f) (h : s.onObject f = some (s', os))
    (hf : ∀ pc r, f pc = some r → KeepsCallbacks pc r) : StepSpec s l s' os := by
  obtain ⟨pc, r, hpc, hr, rfl, rfl⟩ := Library.onObject_eq h
  have hcontroller : s.controller = pc := by rw [Library.controller, hpc, Option.getD_some]
  refine .of_keepsCallbacks hinit hterm hregisters (fun k f _ => hunregisters k f) rfl ?_ ?_
  · simp [hpc]
  · rw [events_map, hcontroller]
    exact hf pc r hr

/-- A call on the object that `Instance` returns, which leaves the callbacks alone. -/
theorem StepSpec.onInstance {α : Type} (new : Opening)
    (f : PowerController F U → α × PowerController F U × List (Event F U))
    (hinit : l.isInit = false) (hterm : l.isTerm = false) (hregisters : ∀ k f, ¬l.Registers k f)
    (hunregisters : ∀ k f, ¬l.Unregisters k f)
    (hcreates : (l.creates || l.asksFlag && s.initialized) = true)
    (hos : events os = (s.onInstance new f).2.2) (hf : ∀ pc, KeepsCallbacks pc (f pc).2) :
    StepSpec s l (s.onInstance new f).2.1 os :=
  .of_keepsCallbacks hinit hterm hregisters (fun k f _ => hunregisters k f) rfl
    (by rw [hcreates]; rfl) (hos ▸ Library.keepsCallbacks_onInstance s new hf)

/-- An operation on the list of one kind, on the object that `Instance` returns. -/
theorem StepSpec.setCallbacks {new : Opening} {k : Kind} {list : CallbackList F U}
    {cs : List RemoteCall} (hinit : l.isInit = false) (hterm : l.isTerm = false)
    (hcreates : (l.creates || l.asksFlag && s.initialized) = true)
    (hos : events os = (s.getInstance new).2 ++ cs.map .remote)
    (hlist : ∀ k' f, f ∈ ((((s.getInstance new).1.setCallbacks k list).callbacks k').identifiers) ↔
      f ∈ ((s.getInstance new).1.callbacks k').identifiers ∧
          ¬(s.initialized = true ∧ l.Unregisters k' f) ∨ l.Registers k' f) :
    StepSpec s l { s with object := some ((s.getInstance new).1.setCallbacks k list) } os := by
  have hkeep := Library.keepsCallbacks_getInstance s new
  -- all but the calls of the plugin comes from `Instance`
  have hremote : ∀ e : Event F U, e ∈ events os → (∀ c, e ≠ .remote c) →
      e ∈ (s.getInstance new).2 := by
    intro e he hne
    rw [hos] at he
    refine (List.mem_append.mp he).resolve_right fun hcs => ?_
    obtain ⟨c, -, rfl⟩ := List.mem_map.mp hcs
    exact hne c rfl
  refine ⟨by simp [hinit, hterm], by simp [hinit, hcreates], fun k' f => ?_, hkeep.shutdown.trans,
    fun cb args he => ?_, fun he => ?_⟩
  · refine (hlist k' f).trans ?_
    rw [hkeep.identifiers k', hterm]
    simp [Library.identifiers]
  · exact hkeep.invoked cb args (hremote _ he nofun)
  · exact absurd (hremote _ he nofun) hkeep.destroyed

/-- What every step does. -/
theorem step_spec [DecidableEq F] (h : api.step s l = some (s', os)) : StepSpec s l s' os := by
  cases l with
  | init o =>
    obtain ⟨rfl, rfl⟩ := Prod.ext_iff.mp (Option.some.inj h)
    have hkeep := Library.keepsCallbacks_getInstance s o
    refine ⟨rfl, rfl, fun k f => ?_, hkeep.shutdown.trans, ?_, ?_⟩
    · show f ∈ ((s.getInstance o).1.callbacks k).identifiers ↔ _
      rw [hkeep.identifiers k]
      simp [ApiLabel.isTerm, ApiLabel.Unregisters, ApiLabel.Registers, Library.identifiers]
    · rw [events_map]
      exact hkeep.invoked
    · rw [events_map]
      exact fun he => absurd he hkeep.destroyed
  | term c =>
    obtain ⟨rfl, rfl⟩ := Prod.ext_iff.mp (Option.some.inj h)
    refine ⟨?_, ?_, fun k f => ?_, fun _ => ?_, fun cb args he => ?_, fun _ => rfl⟩
    · unfold Library.term
      split <;> rfl
    · unfold Library.term
      split <;> rfl
    · -- no object, and so no callbacks are left
      have hnone : (s.term c).1.identifiers k = [] := by
        unfold Library.term
        split <;> rfl
      simp [hnone, ApiLabel.isTerm, ApiLabel.Registers]
    · unfold Library.term
      split <;> rfl
    · rw [events_map] at he
      unfold Library.term at he
      unfold Library.identifiers Library.controller
      cases hpc : s.object with
      | none =>
        rw [hpc] at he
        exact absurd he List.not_mem_nil
      | some pc =>
        rw [hpc] at he
        exact invoked_destroy he
  | connect new o =>
    obtain ⟨rfl, rfl⟩ := Prod.ext_iff.mp (Option.some.inj h)
    exact .onInstance new (·.connect o) rfl rfl (fun _ _ => id) (fun _ _ => id) rfl
      (events_returned _) fun pc => keepsCallbacks_connect pc o
  | disconnect new c =>
    obtain ⟨rfl, rfl⟩ := Prod.ext_iff.mp (Option.some.inj h)
    -- without the flag the call does nothing, and does not ask for the object either
    by_cases hflag : s.initialized = true
    · have heq : s.disconnect new c = s.onInstance new (·.disconnect false c) := by
        simp [Library.disconnect, hflag]
      rw [heq]
      exact .onInstance new (·.disconnect false c) rfl rfl (fun _ _ => id) (fun _ _ => id) hflag
        (events_returned _) fun pc => keepsCallbacks_disconnect pc false c
    · rw [Bool.not_eq_true] at hflag
      simp only [Library.disconnect, hflag]
      exact .idle rfl rfl (fun _ _ => id) rfl hflag rfl
  | isOperational new answer =>
    obtain ⟨rfl, rfl⟩ := Prod.ext_iff.mp (Option.some.inj h)
    by_cases hflag : s.initialized = true
    · have heq : s.isOperational new answer = s.onInstance new fun pc => (answer, pc, []) := by
        simp [Library.isOperational, hflag]
      rw [heq]
      exact .onInstance new (fun pc => (answer, pc, [])) rfl rfl (fun _ _ => id) (fun _ _ => id)
        hflag (events_returnedBool _) fun pc => .nil
    · rw [Bool.not_eq_true] at hflag
      simp only [Library.isOperational, hflag]
      exact .idle rfl rfl (fun _ _ => id) rfl hflag rfl
  | request new r vars remote =>
    obtain ⟨rfl, rfl⟩ := Prod.ext_iff.mp (Option.some.inj h)
    exact .onInstance new (fun pc => ((r.perform pc remote vars).result, pc, [])) rfl rfl
      (fun _ _ => id) (fun _ _ => id) rfl (events_returned _) fun pc => .nil
  | register new k callback userdata answers =>
    obtain ⟨rfl, rfl⟩ := Prod.ext_iff.mp (Option.some.inj h)
    cases callback with
    | none =>
      exact .onInstance new (·.registerCallbackInternal k none userdata answers) rfl rfl
        (fun _ _ hreg => nomatch hreg.2) (fun _ _ => id) rfl (events_returned _) fun pc => .nil
    | some callback =>
      refine .setCallbacks rfl rfl rfl (events_returned _) fun k' f => ?_
      -- the list of the kind has one callback more, and the other lists are left alone
      by_cases hk : k' = k
      · subst hk
        rw [setCallbacks_same, CallbackList.mem_add]
        simp only [ApiLabel.Unregisters, ApiLabel.Registers, and_false, not_false_eq_true, and_true,
          true_and, Option.some.injEq, @eq_comm F f]
      · rw [setCallbacks_of_ne hk]
        simp [ApiLabel.Unregisters, ApiLabel.Registers, Ne.symm hk]
  | unRegister new k callback answers =>
    obtain ⟨rfl, rfl⟩ := Prod.ext_iff.mp (Option.some.inj h)
    by_cases hflag : s.initialized = true
    · have heq : s.unRegister new k callback answers =
          s.onInstance new (·.unRegisterCallback k callback answers) := by
        simp [Library.unRegister, hflag]
      rw [heq]
      cases callback with
      | none =>
        exact .onInstance new (·.unRegisterCallback k none answers) rfl rfl (fun _ _ => id)
          (fun _ _ hun => nomatch hun.2) hflag (events_returned _) fun pc => .nil
      | some callback =>
        refine .setCallbacks rfl rfl hflag (events_returned _) fun k' f => ?_
        by_cases hk : k' = k
        · subst hk
          rw [setCallbacks_same, CallbackList.mem_remove]
          simp [ApiLabel.Unregisters, ApiLabel.Registers, hflag, eq_comm]
        · rw [setCallbacks_of_ne hk]
          simp [ApiLabel.Unregisters, ApiLabel.Registers, Ne.symm hk]
    · rw [Bool.not_eq_true] at hflag
      simp only [Library.unRegister, hflag]
      exact .idle rfl rfl (fun _ _ => id) rfl hflag rfl
  | operational o =>
    refine .onObject rfl rfl (fun _ _ => id) (fun _ _ => id) h fun pc r hr => ?_
    cases hr
    exact keepsCallbacks_operational pc o
  | notification n =>
    refine .onObject rfl rfl (fun _ _ => id) (fun _ _ => id) h fun pc r hr => ?_
    cases hr
    exact keepsCallbacks_onNotification pc n
  | pidFile pid c o =>
    refine .onObject rfl rfl (fun _ _ => id) (fun _ _ => id) h fun pc r hr => ?_
    split at hr
    · cases hr
      split
      · exact .nil
      · exact keepsCallbacks_pidChangedCb pc pid c o
    · cases hr

end PowerManager.Client
