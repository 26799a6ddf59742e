import PowerManager.Client.Types
import Mathlib.Data.List.Nodup

/-!
# The callback lists of the client library

`CallbackList` keeps the callbacks of one kind, and whether the sink of the client library is
registered with the remote plugin for the notifications of that kind. A list never holds a callback
twice: this is a field of the structure.

The operations are those of the template. What they ask of the class that owns the list is passed to
them: the kind of the list, whether the interface to the plugin is there, and the answers of the
plugin.

## Main results

* `mem_add` and `mem_remove`: the callbacks after an addition and a removal;
* `calls_active`: an operation calls the plugin only while the interface is there;
* `Consistent.register`, `Consistent.add`, `Consistent.unregister` and `Consistent.remove`: the flag
  `registered` is right about the plugin;
* `Exact.add`, `Exact.remove` and `exact_register`: it is also right about the list, if the calls of
  the operation succeed.
-/

namespace PowerManager.Client

/-- The kinds of callbacks. -/
inductive Kind
  | operationalStateChange
  | networkStandbyModeChanged
  | powerModePreChanged
  | powerModeChanged
  | deepSleepTimeout
  | thermalModeChanged
  | rebootBegin
  deriving DecidableEq, Repr

/-- The interface of the sink that is registered for the callbacks of a kind. The operational state
is not a notification of the plugin: `SmartInterfaceType` manages it. -/
def Kind.baseInterface : Kind → Option Interface
  | .operationalStateChange => none
  | .networkStandbyModeChanged => some .networkStandbyModeChanged
  | .powerModePreChanged => some .modePreChange
  | .powerModeChanged => some .modeChanged
  | .deepSleepTimeout => some .deepSleepTimeout
  | .thermalModeChanged => some .thermalModeChanged
  | .rebootBegin => some .reboot

/-- The kind of the callbacks for the notifications of an interface. -/
def Kind.ofInterface : Interface → Kind
  | .networkStandbyModeChanged => .networkStandbyModeChanged
  | .modePreChange => .powerModePreChanged
  | .modeChanged => .powerModeChanged
  | .deepSleepTimeout => .deepSleepTimeout
  | .thermalModeChanged => .thermalModeChanged
  | .reboot => .rebootBegin

/-- No two kinds share an interface. -/
theorem Kind.ofInterface_of_baseInterface {k : Kind} {i : Interface}
    (h : k.baseInterface = some i) : Kind.ofInterface i = k := by
  cases k <;> cases h <;> rfl

/-- `Register` or `Unregister` of `IPowerManager`. -/
inductive Operation
  | register
  | unregister
  deriving DecidableEq, Repr

/-- What the plugin answers to a call. -/
abbrev Answers := Operation → Interface → Result

/-- A call of the plugin. -/
structure RemoteCall where
  operation : Operation
  interface : Interface
  /-- The pointer that the call goes through is not null. -/
  active : Bool
  result : Result
  deriving DecidableEq, Repr

/-- The registrations of the sink that the plugin has after a call: one that fails changes
nothing. -/
def RemoteCall.apply (sinks : Interface → Bool) (c : RemoteCall) : Interface → Bool :=
  if c.result = .errorNone then
    Function.update sinks c.interface (decide (c.operation = .register))
  else sinks

/-- The body of the specialisations of `RegisterThunderNotificationLocked` and
`UnregisterThunderNotificationLocked`. -/
def thunderNotificationLocked (op : Operation) (k : Kind) (active : Bool) (answers : Answers) :
    Bool × List RemoteCall :=
  match k.baseInterface with
  | none => (true, [])
  | some i => (decide (.errorNone = answers op i), [⟨op, i, active, answers op i⟩])

/-- `RegisterThunderNotificationLocked`. -/
def registerThunderNotificationLocked : Kind → Bool → Answers → Bool × List RemoteCall :=
  thunderNotificationLocked .register

/-- `UnregisterThunderNotificationLocked`. -/
def unregisterThunderNotificationLocked : Kind → Bool → Answers → Bool × List RemoteCall :=
  thunderNotificationLocked .unregister

/-- The registrations after some calls. -/
def applyAll (sinks : Interface → Bool) (cs : List RemoteCall) : Interface → Bool :=
  cs.foldl RemoteCall.apply sinks

/-- The calls are those of the list of one kind, and are made while the interface is there. -/
def Kind.Owns (k : Kind) (cs : List RemoteCall) : Prop :=
  ∀ c ∈ cs, k.baseInterface = some c.interface ∧ c.active = true

theorem applyAll_append (sinks : Interface → Bool) (cs cs' : List RemoteCall) :
    applyAll sinks (cs ++ cs') = applyAll (applyAll sinks cs) cs' := List.foldl_append

/-- Calls for other interfaces leave a registration alone. -/
theorem applyAll_of_ne {sinks : Interface → Bool} {cs : List RemoteCall} {i : Interface}
    (h : ∀ c ∈ cs, c.interface ≠ i) : applyAll sinks cs i = sinks i := by
  induction cs generalizing sinks with
  | nil => rfl
  | cons c cs ih =>
    obtain ⟨hc, hcs⟩ := List.forall_mem_cons.mp h
    refine (ih hcs).trans ?_
    unfold RemoteCall.apply
    split
    · exact Function.update_of_ne hc.symm _ _
    · rfl

theorem owns_nil {k : Kind} : k.Owns [] := fun _ hc => absurd hc List.not_mem_nil

theorem thunderNotificationLocked_of_some {k : Kind} {i : Interface} (h : k.baseInterface = some i)
    (op : Operation) (active : Bool) (answers : Answers) :
    thunderNotificationLocked op k active answers =
      (decide (.errorNone = answers op i), [⟨op, i, active, answers op i⟩]) := by
  rw [thunderNotificationLocked, h]

theorem owns_thunderNotificationLocked {k : Kind} {active : Bool} {answers : Answers}
    (op : Operation) (h : active = true) :
    k.Owns (thunderNotificationLocked op k active answers).2 := by
  unfold thunderNotificationLocked
  split
  · exact owns_nil
  · rename_i i hi
    intro c hc
    rw [List.mem_singleton.mp hc]
    exact ⟨hi, h⟩

/-- If its calls succeed, so does the function. -/
theorem thunderNotificationLocked_of_succeed {k : Kind} {active : Bool} {answers : Answers}
    (op : Operation)
    (h : ∀ c ∈ (thunderNotificationLocked op k active answers).2, c.result = .errorNone) :
    (thunderNotificationLocked op k active answers).1 = true := by
  unfold thunderNotificationLocked at h ⊢
  split
  · rfl
  · rename_i i hi
    simp only [hi, List.mem_singleton, forall_eq] at h
    simp [h]

/-- A callback with its user data. -/
structure Callback (F U : Type) where
  callback : F
  userdata : U
  deriving DecidableEq, Repr

/-- `CallbackList`. -/
structure CallbackList (F U : Type) where
  callbacks : List (Callback F U)
  registered : Bool
  nodup : (callbacks.map Callback.callback).Nodup

variable {F U : Type}

/-- A new list. -/
def CallbackList.empty : CallbackList F U where
  callbacks := []
  registered := false
  nodup := List.nodup_nil

namespace CallbackList

/-- The callbacks of a list, without their user data. -/
def identifiers (l : CallbackList F U) : List F := l.callbacks.map Callback.callback

/-- `RegisterNotificationInternalLocked`. -/
def registerNotificationInternalLocked (l : CallbackList F U) (k : Kind) (active : Bool)
    (answers : Answers) : CallbackList F U × List RemoteCall :=
  if !l.registered && !l.callbacks.isEmpty && active then
    let r := registerThunderNotificationLocked k active answers
    ({ l with registered := r.1 }, r.2)
  else (l, [])

/-- `UnregisterNotificationInternalLocked`. -/
def unregisterNotificationInternalLocked (l : CallbackList F U) (k : Kind) (active : Bool)
    (answers : Answers) (forced : Bool) : CallbackList F U × List RemoteCall :=
  if l.registered && active && (forced || l.callbacks.isEmpty) then
    let r := unregisterThunderNotificationLocked k active answers
    ({ l with registered := !forced && !r.1 }, r.2)
  else (l, [])

variable [DecidableEq F]

/-- `emplace_back` of a callback that is not in the list. -/
def emplaceBack (l : CallbackList F U) (callback : F) (userdata : U)
    (h : callback ∉ l.identifiers) : CallbackList F U where
  callbacks := l.callbacks ++ [⟨callback, userdata⟩]
  registered := l.registered
  nodup := by
    rw [List.map_append, List.nodup_append]
    refine ⟨l.nodup, List.nodup_singleton _, fun f hf g hg => ?_⟩
    rw [List.mem_singleton.mp hg]
    rintro rfl
    exact h hf

/-- `erase` of a callback. -/
def erase (l : CallbackList F U) (callback : F) : CallbackList F U where
  callbacks := l.callbacks.eraseP (·.callback == callback)
  registered := l.registered
  nodup := l.nodup.sublist (List.eraseP_sublist.map _)

/-- `AddCallbackLocked`. -/
def addCallbackLocked (l : CallbackList F U) (k : Kind) (active : Bool) (answers : Answers)
    (callback : F) (userdata : U) : Result × CallbackList F U × List RemoteCall :=
  if h : callback ∈ l.identifiers then (.errorAlreadyConnected, l, [])
  else (.errorNone,
    (l.emplaceBack callback userdata h).registerNotificationInternalLocked k active answers)

/-- `RemoveCallbackLocked`. -/
def removeCallbackLocked (l : CallbackList F U) (k : Kind) (active : Bool) (answers : Answers)
    (callback : F) : Result × CallbackList F U × List RemoteCall :=
  if callback ∈ l.identifiers then
    (.errorNone, (l.erase callback).unregisterNotificationInternalLocked k active answers false)
  else (.errorAlreadyReleased, l, [])

/-! ## The callbacks -/

variable {l : CallbackList F U} {k : Kind} {i : Interface} {active : Bool} {answers : Answers}

omit [DecidableEq F] in
@[simp] theorem identifiers_register :
    (l.registerNotificationInternalLocked k active answers).1.identifiers = l.identifiers := by
  unfold registerNotificationInternalLocked
  split <;> rfl

omit [DecidableEq F] in
@[simp] theorem identifiers_unregister (forced : Bool) :
    (l.unregisterNotificationInternalLocked k active answers forced).1.identifiers =
      l.identifiers := by
  unfold unregisterNotificationInternalLocked
  split <;> rfl

omit [DecidableEq F] in
theorem mem_emplaceBack {callback f : F} (userdata : U) (h : callback ∉ l.identifiers) :
    f ∈ (l.emplaceBack callback userdata h).identifiers ↔ f ∈ l.identifiers ∨ f = callback := by
  simp [identifiers, emplaceBack, eq_comm]

/-- A callback is in a list once, so it is not in the list once it is erased. -/
theorem mem_erase {callback f : F} :
    f ∈ (l.erase callback).identifiers ↔ f ∈ l.identifiers ∧ f ≠ callback := by
  have herase : (l.erase callback).identifiers = l.identifiers.erase callback := by
    rw [identifiers, identifiers, List.erase_eq_eraseP', List.eraseP_map]
    rfl
  rw [herase, and_comm]
  exact l.nodup.mem_erase_iff

/-- The callbacks after an addition. -/
theorem mem_add {callback f : F} (userdata : U) :
    f ∈ (l.addCallbackLocked k active answers callback userdata).2.1.identifiers ↔
      f ∈ l.identifiers ∨ f = callback := by
  unfold addCallbackLocked
  split
  · rename_i h
    exact ⟨.inl, fun hf => hf.elim id fun heq => heq ▸ h⟩
  · rw [identifiers_register]
    exact mem_emplaceBack userdata _

/-- The callbacks after a removal. -/
theorem mem_remove {callback f : F} :
    f ∈ (l.removeCallbackLocked k active answers callback).2.1.identifiers ↔
      f ∈ l.identifiers ∧ f ≠ callback := by
  unfold removeCallbackLocked
  split
  · rw [identifiers_unregister]
    exact mem_erase
  · rename_i h
    exact ⟨fun hf => ⟨hf, fun heq => h (heq ▸ hf)⟩, And.left⟩

/-! ## The calls of the plugin -/

omit [DecidableEq F] in
theorem owns_register : k.Owns (l.registerNotificationInternalLocked k active answers).2 := by
  unfold registerNotificationInternalLocked
  split
  · rename_i h
    rw [Bool.and_eq_true] at h
    exact owns_thunderNotificationLocked _ h.2
  · exact owns_nil

omit [DecidableEq F] in
theorem owns_unregister (forced : Bool) :
    k.Owns (l.unregisterNotificationInternalLocked k active answers forced).2 := by
  unfold unregisterNotificationInternalLocked
  split
  · rename_i h
    rw [Bool.and_eq_true, Bool.and_eq_true] at h
    exact owns_thunderNotificationLocked _ h.1.2
  · exact owns_nil

theorem owns_add (callback : F) (userdata : U) :
    k.Owns (l.addCallbackLocked k active answers callback userdata).2.2 := by
  unfold addCallbackLocked
  split
  · exact owns_nil
  · exact owns_register

theorem owns_remove (callback : F) :
    k.Owns (l.removeCallbackLocked k active answers callback).2.2 := by
  unfold removeCallbackLocked
  split
  · exact owns_unregister false
  · exact owns_nil

/-! ## The flag and the plugin -/

/-- If the sink is taken to be registered, the interface is there and the plugin has the sink. -/
def Consistent (active sink : Bool) (l : CallbackList F U) : Prop :=
  l.registered = true → active = true ∧ sink = true

omit [DecidableEq F] in
theorem Consistent.register {sinks : Interface → Bool} (hi : k.baseInterface = some i)
    (h : Consistent active (sinks i) l) :
    Consistent active (applyAll sinks (l.registerNotificationInternalLocked k active answers).2 i)
      (l.registerNotificationInternalLocked k active answers).1 := by
  unfold registerNotificationInternalLocked
  split
  · rename_i hcond
    rw [Bool.and_eq_true] at hcond
    intro hregistered
    refine ⟨hcond.2, ?_⟩
    rw [registerThunderNotificationLocked, thunderNotificationLocked_of_some hi] at hregistered ⊢
    have hdone : answers .register i = .errorNone := (of_decide_eq_true hregistered).symm
    simp [applyAll, RemoteCall.apply, hdone]
  · exact h

omit [DecidableEq F] in
theorem Consistent.unregister {sinks : Interface → Bool} (hi : k.baseInterface = some i)
    (h : Consistent active (sinks i) l) (forced : Bool) :
    Consistent active
      (applyAll sinks (l.unregisterNotificationInternalLocked k active answers forced).2 i)
      (l.unregisterNotificationInternalLocked k active answers forced).1 := by
  unfold unregisterNotificationInternalLocked
  split
  · rename_i hcond
    rw [Bool.and_eq_true, Bool.and_eq_true] at hcond
    intro hregistered
    rw [unregisterThunderNotificationLocked, thunderNotificationLocked_of_some hi]
      at hregistered ⊢
    -- the flag stays only if the call has failed, and so the sink stays as well
    have hfailed : answers .unregister i ≠ .errorNone := by
      simp only [Bool.and_eq_true, Bool.not_eq_true', decide_eq_false_iff_not] at hregistered
      exact Ne.symm hregistered.2
    refine ⟨hcond.1.2, ?_⟩
    simp only [applyAll, List.foldl_cons, List.foldl_nil, RemoteCall.apply, if_neg hfailed]
    exact (h hcond.1.1).2
  · exact h

theorem Consistent.add {sinks : Interface → Bool} (hi : k.baseInterface = some i)
    (h : Consistent active (sinks i) l) (callback : F) (userdata : U) :
    Consistent active
      (applyAll sinks (l.addCallbackLocked k active answers callback userdata).2.2 i)
      (l.addCallbackLocked k active answers callback userdata).2.1 := by
  unfold addCallbackLocked
  split
  · exact h
  · exact Consistent.register hi h

theorem Consistent.remove {sinks : Interface → Bool} (hi : k.baseInterface = some i)
    (h : Consistent active (sinks i) l) (callback : F) :
    Consistent active (applyAll sinks (l.removeCallbackLocked k active answers callback).2.2 i)
      (l.removeCallbackLocked k active answers callback).2.1 := by
  unfold removeCallbackLocked
  split
  · exact Consistent.unregister (l := l.erase callback) hi h false
  · exact h

omit [DecidableEq F] in
/-- A forced end of the registration clears the flag, whether or not the call fails. -/
theorem registered_unregister_forced (h : l.registered = true → active = true) :
    (l.unregisterNotificationInternalLocked k active answers true).1.registered = false := by
  unfold unregisterNotificationInternalLocked
  split
  · rfl
  · rename_i hcond
    simp only [Bool.true_or, Bool.and_true, Bool.and_eq_true, not_and] at hcond
    exact Bool.eq_false_iff.mpr fun hreg => hcond hreg (h hreg)

/-! ## The flag and the list -/

/-- The sink is taken to be registered exactly if the interface is there and there are callbacks to
serve. -/
def Exact (active : Bool) (l : CallbackList F U) : Prop :=
  l.registered = true ↔ active = true ∧ l.callbacks ≠ []

/-- All calls succeed. -/
def Succeed (cs : List RemoteCall) : Prop := ∀ c ∈ cs, c.result = .errorNone

omit [DecidableEq F] in
/-- A registration that is due makes the flag right. -/
theorem exact_register (h : l.registered = true → active = true ∧ l.callbacks ≠ [])
    (hok : Succeed (l.registerNotificationInternalLocked k active answers).2) :
    Exact active (l.registerNotificationInternalLocked k active answers).1 := by
  unfold registerNotificationInternalLocked at hok ⊢
  split at hok
  · rename_i hcond
    rw [if_pos hcond]
    simp only [Bool.and_eq_true, Bool.not_eq_true', List.isEmpty_eq_false_iff] at hcond
    exact iff_of_true (thunderNotificationLocked_of_succeed _ hok) ⟨hcond.2, hcond.1.2⟩
  · rename_i hcond
    rw [if_neg hcond]
    simp only [Bool.and_eq_true, Bool.not_eq_true', List.isEmpty_eq_false_iff, not_and] at hcond
    refine ⟨h, fun ⟨hactive, hne⟩ => ?_⟩
    by_contra hregistered
    exact hcond ⟨Bool.eq_false_iff.mpr hregistered, hne⟩ hactive

omit [DecidableEq F] in
/-- So does the end of a registration that nobody needs. -/
theorem exact_unregister (h : l.registered = true → active = true)
    (h' : active = true → l.callbacks ≠ [] → l.registered = true)
    (hok : Succeed (l.unregisterNotificationInternalLocked k active answers false).2) :
    Exact active (l.unregisterNotificationInternalLocked k active answers false).1 := by
  unfold unregisterNotificationInternalLocked at hok ⊢
  split at hok
  · rename_i hcond
    rw [if_pos hcond]
    simp only [Bool.false_or, Bool.and_eq_true, List.isEmpty_iff] at hcond
    have hdone := thunderNotificationLocked_of_succeed _ hok
    refine iff_of_false ?_ fun hne => hne.2 hcond.2
    simp [unregisterThunderNotificationLocked, hdone]
  · rename_i hcond
    rw [if_neg hcond]
    simp only [Bool.false_or, Bool.and_eq_true, List.isEmpty_iff, not_and] at hcond
    exact ⟨fun hreg => ⟨h hreg, hcond ⟨hreg, h hreg⟩⟩, fun hne => h' hne.1 hne.2⟩

theorem Exact.add (h : Exact active l) (answers : Answers) (callback : F) (userdata : U)
    (hok : Succeed (l.addCallbackLocked k active answers callback userdata).2.2) :
    Exact active (l.addCallbackLocked k active answers callback userdata).2.1 := by
  unfold addCallbackLocked at hok ⊢
  split at hok
  · rw [dif_pos ‹_›]
    exact h
  · rename_i hnew
    rw [dif_neg hnew]
    refine exact_register (fun hreg => ⟨(h.mp hreg).1, ?_⟩) hok
    simp [emplaceBack]

theorem Exact.remove (h : Exact active l) (answers : Answers) (callback : F)
    (hok : Succeed (l.removeCallbackLocked k active answers callback).2.2) :
    Exact active (l.removeCallbackLocked k active answers callback).2.1 := by
  unfold removeCallbackLocked at hok ⊢
  split at hok
  · rw [if_pos ‹_›]
    refine exact_unregister (fun hreg => (h.mp hreg).1) (fun hactive hne => ?_) hok
    exact h.mpr ⟨hactive, fun hnil => hne (by simp [erase, hnil])⟩
  · rw [if_neg ‹_›]
    exact h

end CallbackList

end PowerManager.Client
