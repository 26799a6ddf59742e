import PowerManager.Client.Basic
import PowerManager.Machine

/-!
# The registrations of the client library

The sink of the client library is registered with the plugin for each kind of notification that has
callbacks. The flag of the callback list records this; it changes when callbacks are added and
removed, when the plugin comes and when it goes.

`subscriptions` is the class together with the registrations that the plugin has. It takes the
operations of the lists and the operational states in any order, with any answers of the plugin. A
plugin that is deactivated loses all registrations; one whose channel is closed keeps those that are
not withdrawn.

## Main results

* `right_step`, `right_run`: every state is `Right`, which says that a flag that is set is right
  about the plugin, that no call goes through a null pointer, and that a flag is right about its
  list unless a call has failed since the interface was found;
* `subscriptions_exact`: the same, spelt out for one kind of notification.
-/

namespace PowerManager.Client

variable {F U : Type}

/-- The call of the plugin that an event is. -/
def Event.call? : Event F U → Option RemoteCall
  | .remote c => some c
  | _ => none

/-- The calls of the plugin among some events. -/
def calls (es : List (Event F U)) : List RemoteCall := es.filterMap Event.call?

/-- The calls since the interface was last found, given those before an event. -/
def Event.since (cs : List RemoteCall) : Event F U → List RemoteCall
  | .established => []
  | .remote c => cs ++ [c]
  | _ => cs

/-- The calls of the plugin since the interface was last found. -/
def sinceEstablished (es : List (Event F U)) : List RemoteCall := es.foldl Event.since []

/-- The class, and the registrations that the plugin has. -/
structure Subscriptions (F U : Type) where
  controller : PowerController F U
  sinks : Interface → Bool

/-- What happens to the lists. -/
inductive SubscriptionLabel (F U : Type)
  | register (k : Kind) (callback : Option F) (userdata : U) (answers : Answers)
  | unRegister (k : Kind) (callback : Option F) (answers : Answers)
  /-- The plugin is activated. -/
  | activated (interface : Bool) (answers : Answers)
  /-- The plugin is deactivated. -/
  | deactivated (answers : Answers)
  /-- The channel to the plugin is closed. -/
  | closed (answers : Answers)

namespace Subscriptions

/-- Nothing is registered. -/
def initial : Subscriptions F U := ⟨.fresh, fun _ => false⟩

/-- The class is as an operation leaves it, and the plugin has answered the calls. -/
def after (s : Subscriptions F U) (r : PowerController F U × List (Event F U)) :
    Subscriptions F U × List (Event F U) :=
  (⟨r.1, applyAll s.sinks (calls r.2)⟩, r.2)

end Subscriptions

open Subscriptions

variable [DecidableEq F]

/-- The lists and the plugin. -/
def subscriptions : Machine (Subscriptions F U) (SubscriptionLabel F U) (Event F U) where
  step s
    | .register k callback userdata answers =>
      some (s.after (s.controller.registerCallbackInternal k callback userdata answers).2)
    | .unRegister k callback answers =>
      some (s.after (s.controller.unRegisterCallback k callback answers).2)
    | .activated interface answers =>
      some (s.after (s.controller.operational ⟨true, interface, answers⟩))
    | .deactivated answers =>
      let r := s.after (s.controller.operational ⟨false, false, answers⟩)
      some ({ r.1 with sinks := fun _ => false }, r.2)
    | .closed answers => some (s.after (s.controller.operational ⟨false, false, answers⟩))

/-! ## Calls and other events -/

omit [DecidableEq F]

@[simp] theorem calls_append (es es' : List (Event F U)) :
    calls (es ++ es') = calls es ++ calls es' := List.filterMap_append

@[simp] theorem calls_remote (cs : List RemoteCall) :
    calls (cs.map .remote : List (Event F U)) = cs := by
  induction cs with
  | nil => rfl
  | cons c cs ih => exact congrArg (c :: ·) ih

theorem since_remote (cs before : List RemoteCall) :
    (cs.map .remote : List (Event F U)).foldl Event.since before = before ++ cs := by
  induction cs generalizing before with
  | nil => simp
  | cons c cs ih => simp [Event.since, ih]

/-- The events are neither calls of the plugin nor the start of a connection. -/
structure Local (es : List (Event F U)) : Prop where
  calls : calls es = []
  since : ∀ before, es.foldl Event.since before = before

theorem Local.nil : Local ([] : List (Event F U)) := ⟨rfl, fun _ => rfl⟩

theorem local_notify (pc : PowerController F U) (k : Kind) (args : Arguments) :
    Local (pc.notify k args) := by
  unfold PowerController.notify
  induction (pc.callbacks k).callbacks with
  | nil => exact .nil
  | cons cb cbs ih => exact ⟨ih.calls, ih.since⟩

/-- What an operational state does: the plugin comes, it goes, or nothing happens. -/
theorem operational_cases (pc : PowerController F U) (o : Operational) :
    ∃ es, Local es ∧
      (o.upAndRunning = true ∧ pc.powerManagerInterface = false ∧
          pc.operational o =
            (({ pc with powerManagerInterface := true }.subscribeAllNotificationsLocked
                o.answers).1,
              .established :: ({ pc with powerManagerInterface := true
                }.subscribeAllNotificationsLocked o.answers).2.map .remote ++ es) ∨
        pc.powerManagerInterface = true ∧
          pc.operational o =
            ({ (pc.unsubscribeAllNotificationsLocked o.answers).1 with
                powerManagerInterface := false },
              (pc.unsubscribeAllNotificationsLocked o.answers).2.map .remote ++ es) ∨
        (o.upAndRunning = false → pc.powerManagerInterface = false) ∧
          pc.operational o = (pc, es)) := by
  refine ⟨if (pc.operationalLocked o).1.shutdown then []
    else (pc.operationalLocked o).1.notify .operationalStateChange
      (.operationalStateChange o.upAndRunning), ?_, ?_⟩
  · split
    · exact .nil
    · exact local_notify _ _ _
  -- the callbacks of the state change are local, whichever way it goes
  unfold PowerController.operational PowerController.operationalLocked
  split
  · rename_i hup
    split
    · rename_i hfound
      rw [Bool.and_eq_true, Bool.not_eq_true'] at hfound
      exact .inl ⟨hup, hfound.1, rfl⟩
    · exact .inr (.inr ⟨fun hdown => absurd (hup.symm.trans hdown) Bool.noConfusion, rfl⟩)
  · split
    · exact .inr (.inl ⟨‹_›, rfl⟩)
    · exact .inr (.inr ⟨fun _ => Bool.eq_false_iff.mpr ‹_›, rfl⟩)

/-! ## The flags and the plugin -/

open CallbackList

/-- Every flag that is set is right about the plugin. -/
def ConsistentAll (pc : PowerController F U) (sinks : Interface → Bool) : Prop :=
  ∀ k i, k.baseInterface = some i →
    Consistent pc.powerManagerInterface (sinks i) (pc.callbacks k)

/-- An operation on one list keeps the flags right if it keeps its own flag right. -/
theorem ConsistentAll.setCallbacks {pc : PowerController F U} {sinks : Interface → Bool} {k : Kind}
    {l : CallbackList F U} {cs : List RemoteCall} (h : ConsistentAll pc sinks) (hcs : k.Owns cs)
    (hl : ∀ i, k.baseInterface = some i →
      Consistent pc.powerManagerInterface (applyAll sinks cs i) l) :
    ConsistentAll (pc.setCallbacks k l) (applyAll sinks cs) := by
  intro k' i hi
  by_cases hk : k' = k
  · subst hk
    rw [PowerController.setCallbacks_same]
    exact hl i hi
  · have hne : ∀ c ∈ cs, c.interface ≠ i := by
      rintro c hc rfl
      exact hk ((Kind.ofInterface_of_baseInterface hi).symm.trans
        (Kind.ofInterface_of_baseInterface (hcs c hc).1))
    rw [PowerController.setCallbacks_of_ne hk, applyAll_of_ne hne]
    exact h k' i hi

/-- So does an operation on all lists. -/
theorem ConsistentAll.forAll {pc : PowerController F U} {sinks : Interface → Bool}
    {op : Kind → Bool → CallbackList F U → CallbackList F U × List RemoteCall} (ks : List Kind)
    (h : ConsistentAll pc sinks) (hcs : ∀ (k : Kind) active l, k.Owns (op k active l).2)
    (hop : ∀ {k i active} {sinks : Interface → Bool} {l}, k.baseInterface = some i →
      Consistent active (sinks i) l →
      Consistent active (applyAll sinks (op k active l).2 i) (op k active l).1) :
    ConsistentAll (pc.forAll op ks).1 (applyAll sinks (pc.forAll op ks).2) := by
  induction ks generalizing pc sinks with
  | nil => exact h
  | cons k ks ih =>
    simp only [PowerController.forAll, applyAll_append]
    exact ih (h.setCallbacks (hcs k _ _) fun i hi => hop hi (h k i hi))

/-- The calls of an operation on all lists are made while the interface is there. -/
theorem active_forAll {pc : PowerController F U}
    {op : Kind → Bool → CallbackList F U → CallbackList F U × List RemoteCall} {ks : List Kind}
    (hks : ks.Nodup) (hcs : ∀ (k : Kind) active l, k.Owns (op k active l).2) :
    ∀ c ∈ (pc.forAll op ks).2, c.active = true := by
  intro c hc
  rw [PowerController.forAll_eq hks] at hc
  obtain ⟨k, -, hck⟩ := List.mem_flatMap.mp hc
  exact (hcs k _ _ c hck).2

/-- No flag is set. -/
def UnregisteredAll (pc : PowerController F U) : Prop :=
  ∀ k i, k.baseInterface = some i → (pc.callbacks k).registered = false

/-- Without an interface, no flag is set. -/
theorem ConsistentAll.unregisteredAll {pc : PowerController F U} {sinks : Interface → Bool}
    (h : ConsistentAll pc sinks) (hdown : pc.powerManagerInterface = false) : UnregisteredAll pc :=
  fun k i hi => Bool.eq_false_iff.mpr fun hreg =>
    absurd (hdown.symm.trans (h k i hi hreg).1) Bool.noConfusion

theorem UnregisteredAll.consistentAll {pc : PowerController F U} (h : UnregisteredAll pc)
    (sinks : Interface → Bool) : ConsistentAll pc sinks :=
  fun k i hi hreg => absurd ((h k i hi).symm.trans hreg) Bool.noConfusion

theorem mem_notifications {k : Kind} {i : Interface} (h : k.baseInterface = some i) :
    k ∈ PowerController.notifications := by
  cases k with
  | operationalStateChange => cases h
  | _ => decide

/-- When the plugin goes, all flags are cleared. -/
theorem ConsistentAll.unsubscribeAll {pc : PowerController F U} {sinks : Interface → Bool}
    (h : ConsistentAll pc sinks) (answers : Answers) :
    UnregisteredAll (pc.unsubscribeAllNotificationsLocked answers).1 := by
  intro k i hi
  rw [PowerController.unsubscribeAllNotificationsLocked,
    PowerController.forAll_eq PowerController.nodup_notifications]
  simp only [if_pos (mem_notifications hi)]
  exact registered_unregister_forced fun hreg => (h k i hi hreg).1

/-! ## Steps -/

variable {s s' : Subscriptions F U} {es es' : List (Event F U)} {ls : List (SubscriptionLabel F U)}
  {l : SubscriptionLabel F U} {k : Kind} {i : Interface}

/-- No call of the plugin for an interface has failed since the interface to it was found. -/
def SucceedSince (i : Interface) (es : List (Event F U)) : Prop :=
  ∀ c ∈ sinceEstablished es, c.interface = i → c.result = .errorNone

/-- The flags and the calls are right in a state, after some events. -/
structure Right (es : List (Event F U)) (s : Subscriptions F U) : Prop where
  active : ∀ c ∈ calls es, c.active = true
  consistent : ConsistentAll s.controller s.sinks
  exact : ∀ k i, k.baseInterface = some i → SucceedSince i es →
    Exact s.controller.powerManagerInterface (s.controller.callbacks k)

theorem right_initial : Right [] (initial : Subscriptions F U) where
  active _ hc := absurd hc List.not_mem_nil
  consistent _ _ _ hreg := absurd hreg Bool.noConfusion
  exact _ _ _ _ := iff_of_false Bool.noConfusion fun h => Bool.noConfusion h.1

theorem after_remote (pc : PowerController F U) (cs : List RemoteCall) :
    s.after (pc, cs.map .remote) = (⟨pc, applyAll s.sinks cs⟩, cs.map .remote) := by
  rw [after, calls_remote]

/-- An operation on one list keeps everything right if it does so for its own list. -/
theorem Right.setCallbacks {l : CallbackList F U} {cs : List RemoteCall} (h : Right es s)
    (hcs : k.Owns cs)
    (hl : ∀ i, k.baseInterface = some i →
      Consistent s.controller.powerManagerInterface (applyAll s.sinks cs i) l)
    (hl' : Exact s.controller.powerManagerInterface (s.controller.callbacks k) → Succeed cs →
      Exact s.controller.powerManagerInterface l) :
    Right (es ++ cs.map .remote) ⟨s.controller.setCallbacks k l, applyAll s.sinks cs⟩ where
  active c hc := by
    rw [calls_append, calls_remote] at hc
    exact (List.mem_append.mp hc).elim (h.active c) fun hc => (hcs c hc).2
  consistent := h.consistent.setCallbacks hcs hl
  exact k' i hi hok := by
    have hsince : sinceEstablished (es ++ cs.map .remote) = sinceEstablished es ++ cs := by
      rw [sinceEstablished, List.foldl_append, since_remote]
      rfl
    rw [SucceedSince, hsince] at hok
    have hold : SucceedSince i es := fun c hc => hok c (List.mem_append_left _ hc)
    by_cases hk : k' = k
    · subst hk
      rw [PowerController.setCallbacks_same]
      refine hl' (h.exact k' i hi hold) fun c hc => hok c (List.mem_append_right _ hc) ?_
      exact Option.some.inj ((hcs c hc).1.symm.trans hi)
    · rw [PowerController.setCallbacks_of_ne hk]
      exact h.exact k' i hi hold

/-- Local events do not matter. -/
theorem Right.local (h : Right es s) (hes : Local es') : Right (es ++ es') s where
  active c hc := by
    rw [calls_append, hes.calls, List.append_nil] at hc
    exact h.active c hc
  consistent := h.consistent
  exact k i hi hok := by
    rw [SucceedSince, sinceEstablished, List.foldl_append, hes.since] at hok
    exact h.exact k i hi hok

/-- Without an interface and without flags everything is right, whatever the plugin has. -/
theorem Right.of_unregisteredAll {pc : PowerController F U} (hes : ∀ c ∈ calls es, c.active = true)
    (hdown : pc.powerManagerInterface = false) (h : UnregisteredAll pc)
    (sinks : Interface → Bool) : Right es ⟨pc, sinks⟩ where
  active := hes
  consistent := h.consistentAll sinks
  exact k i hi _ := by
    refine iff_of_false (fun hreg => ?_) fun hup => ?_
    · exact Bool.noConfusion ((h k i hi).symm.trans hreg)
    · exact Bool.noConfusion (hdown.symm.trans hup.1)

/-- When the plugin comes, the sink is registered for the lists that have callbacks. -/
theorem Right.subscribeAll (h : Right es s) (hdown : s.controller.powerManagerInterface = false)
    (answers : Answers) :
    Right (es ++ .established :: ({ s.controller with powerManagerInterface := true
        }.subscribeAllNotificationsLocked answers).2.map .remote)
      ⟨({ s.controller with powerManagerInterface := true
          }.subscribeAllNotificationsLocked answers).1,
        applyAll s.sinks ({ s.controller with powerManagerInterface := true
          }.subscribeAllNotificationsLocked answers).2⟩ := by
  -- while the interface was missing no flag was set, so that each list registers anew
  have hoff := h.consistent.unregisteredAll hdown
  have howns : ∀ (k : Kind) active (l : CallbackList F U),
      k.Owns (l.registerNotificationInternalLocked k active answers).2 :=
    fun _ _ _ => owns_register
  have hon : ConsistentAll { s.controller with powerManagerInterface := true } s.sinks :=
    fun k i hi hreg => Bool.noConfusion ((hoff k i hi).symm.trans hreg)
  refine ⟨fun c hc => ?_, hon.forAll _ howns Consistent.register, fun k i hi hok => ?_⟩
  · rw [calls_append] at hc
    refine (List.mem_append.mp hc).elim (h.active c) fun hc => ?_
    have hcalls : calls (Event.established :: ({ s.controller with powerManagerInterface := true
        }.subscribeAllNotificationsLocked answers).2.map .remote : List (Event F U)) =
        ({ s.controller with powerManagerInterface := true
          }.subscribeAllNotificationsLocked answers).2 := calls_remote _
    rw [hcalls] at hc
    exact active_forAll PowerController.nodup_notifications howns c hc
  · -- the calls since the interface was found are those of the lists
    rw [SucceedSince, sinceEstablished, List.foldl_append, List.foldl_cons, since_remote] at hok
    rw [PowerController.subscribeAllNotificationsLocked,
      PowerController.forAll_eq PowerController.nodup_notifications] at hok ⊢
    simp only [if_pos (mem_notifications hi)]
    refine exact_register (fun hreg => ?_) fun c hc => hok c ?_ ?_
    · exact Bool.noConfusion ((hoff k i hi).symm.trans hreg)
    · exact List.mem_append_right _ (List.mem_flatMap.mpr ⟨k, mem_notifications hi, hc⟩)
    · exact Option.some.inj ((howns k _ _ c hc).1.symm.trans hi)

/-- An operational state keeps everything right; so it does if the plugin then loses its
registrations because it is gone. -/
theorem Right.operational (h : Right es s) (o : Operational) :
    Right (es ++ (s.after (s.controller.operational o)).2)
        (s.after (s.controller.operational o)).1 ∧
      (o.upAndRunning = false →
        Right (es ++ (s.after (s.controller.operational o)).2)
          { (s.after (s.controller.operational o)).1 with sinks := fun _ => false }) := by
  obtain ⟨es', hlocal, ⟨hup, hdown, heq⟩ | ⟨hup, heq⟩ | ⟨hdown, heq⟩⟩ :=
    operational_cases s.controller o
  · -- the plugin comes: all kinds that have callbacks are subscribed again
    refine ⟨?_, fun hgone => Bool.noConfusion (hup.symm.trans hgone)⟩
    have hright := (h.subscribeAll hdown o.answers).local hlocal
    rw [List.append_assoc] at hright
    have hcalls := calls_remote (F := F) (U := U) ({ s.controller with
      powerManagerInterface := true }.subscribeAllNotificationsLocked o.answers).2
    rw [after, heq, calls_append, hlocal.calls, List.append_nil]
    exact hcalls.symm ▸ hright
  · -- the plugin goes: all flags are cleared, so the registrations do not matter
    have hcalls : ∀ c ∈ calls (es ++ (s.controller.operational o).2), c.active = true := by
      intro c hc
      rw [heq, calls_append, calls_append, calls_remote, hlocal.calls, List.append_nil] at hc
      refine (List.mem_append.mp hc).elim (h.active c) fun hc => ?_
      exact active_forAll PowerController.nodup_notifications
        (fun _ _ _ => owns_unregister true) c hc
    have hoff := h.consistent.unsubscribeAll o.answers
    have hright : ∀ sinks, Right (es ++ (s.controller.operational o).2)
        ⟨(s.controller.operational o).1, sinks⟩ := by
      intro sinks
      refine .of_unregisteredAll hcalls ?_ ?_ sinks
      · rw [heq]
      · rw [heq]
        exact hoff
    exact ⟨hright _, fun _ => hright _⟩
  · -- nothing changes, and if the plugin is gone it was so before
    rw [after, heq, hlocal.calls]
    refine ⟨h.local hlocal, fun hgone => ?_⟩
    have hoff := h.consistent.unregisteredAll (hdown hgone)
    exact .of_unregisteredAll (h.local hlocal).active (hdown hgone) hoff _

variable [DecidableEq F]

/-- Every step keeps everything right. -/
theorem right_step (h : Right es s) (hstep : subscriptions.step s l = some (s', es')) :
    Right (es ++ es') s' := by
  cases l with
  | register k callback userdata answers =>
    obtain ⟨rfl, rfl⟩ := Prod.ext_iff.mp (Option.some.inj hstep)
    cases callback with
    | none => exact h.local .nil
    | some callback =>
      have hright := h.setCallbacks (owns_add callback userdata)
        (fun i hi => Consistent.add hi (h.consistent k i hi) callback userdata)
        fun hexact hok => hexact.add answers callback userdata hok
      show Right (es ++ (s.after (_, _)).2) (s.after (_, _)).1
      rw [after_remote]
      exact hright
  | unRegister k callback answers =>
    obtain ⟨rfl, rfl⟩ := Prod.ext_iff.mp (Option.some.inj hstep)
    cases callback with
    | none => exact h.local .nil
    | some callback =>
      have hright := h.setCallbacks (owns_remove callback)
        (fun i hi => Consistent.remove hi (h.consistent k i hi) callback)
        fun hexact hok => hexact.remove answers callback hok
      show Right (es ++ (s.after (_, _)).2) (s.after (_, _)).1
      rw [after_remote]
      exact hright
  | activated interface answers =>
    obtain ⟨rfl, rfl⟩ := Prod.ext_iff.mp (Option.some.inj hstep)
    exact (h.operational ⟨true, interface, answers⟩).1
  | deactivated answers =>
    obtain ⟨rfl, rfl⟩ := Prod.ext_iff.mp (Option.some.inj hstep)
    exact (h.operational ⟨false, false, answers⟩).2 rfl
  | closed answers =>
    obtain ⟨rfl, rfl⟩ := Prod.ext_iff.mp (Option.some.inj hstep)
    exact (h.operational ⟨false, false, answers⟩).1

/-! ## Runs -/

/-- Everything is right in every state. -/
theorem right_run (h : subscriptions.Run initial ls es s) : Right es s := by
  induction h with
  | nil => exact right_initial
  | snoc _ hstep ih => exact right_step ih hstep

/-- A flag is set only while the interface is there and the plugin has the sink; no call goes
through a null pointer; and a flag is set exactly if the interface is there and the list is not
empty, unless a call for these notifications has failed since the interface was found. -/
theorem subscriptions_exact (h : subscriptions.Run initial ls es s)
    (hi : k.baseInterface = some i) :
    ((s.controller.callbacks k).registered = true →
        s.controller.powerManagerInterface = true ∧ s.sinks i = true) ∧
      (∀ c ∈ calls es, c.active = true) ∧
      (SucceedSince i es →
        ((s.controller.callbacks k).registered = true ↔
          s.controller.powerManagerInterface = true ∧
            (s.controller.callbacks k).callbacks ≠ [])) :=
  ⟨(right_run h).consistent k i hi, (right_run h).active, (right_run h).exact k i hi⟩

/-- A registration that failed is made up for when the plugin restarts. -/
theorem subscriptions_exact_of_restart :
    ∃ es s, subscriptions.Run (initial : Subscriptions ℕ ℕ)
        [.register .powerModeChanged (some 1) 0 fun _ _ => .errorNone,
          .activated true fun _ _ => .errorGeneral, .deactivated fun _ _ => .errorGeneral,
          .activated true fun _ _ => .errorNone] es s ∧
      (s.controller.callbacks .powerModeChanged).registered = true ∧
      s.sinks .modeChanged = true := by
  obtain ⟨es, s, hrun, hok, hup, hne⟩ : ∃ es s, subscriptions.Run (initial : Subscriptions ℕ ℕ)
      [.register .powerModeChanged (some 1) 0 fun _ _ => .errorNone,
        .activated true fun _ _ => .errorGeneral, .deactivated fun _ _ => .errorGeneral,
        .activated true fun _ _ => .errorNone] es s ∧
      (∀ c ∈ sinceEstablished es, c.interface = .modeChanged → c.result = .errorNone) ∧
      s.controller.powerManagerInterface = true ∧
      (s.controller.callbacks .powerModeChanged).callbacks ≠ [] :=
    Machine.exists_outputs_of_exec (by decide +kernel)
  obtain ⟨hright, -, hexact⟩ := subscriptions_exact (k := .powerModeChanged) hrun rfl
  have hreg := (hexact hok).mpr ⟨hup, hne⟩
  exact ⟨es, s, hrun, hreg, (hright hreg).2⟩

end PowerManager.Client
