import PowerManager.Implementation.Changes
import PowerManager.Plugin

/-!
# Out of DEEP_SLEEP again

When an activation ends, `DeepSleepController` calls its parent, which takes the device out of
DEEP_SLEEP with a call of `SetPowerState`. The call must not be dropped: no other activation may be
in progress, and the last controller must not be for the wake-up state.

Calls of the interface are atomic here (`Atomic`). Then an activation that has not been followed by
`Deactivate` is alone, and the device rests in DEEP_SLEEP until it is woken. But one that has been
followed by `Deactivate` while it was queued may still be admitted, and the transient window is then
open for the wake-up of the next one.

The module introduces:

* `Plugin.WakesUp` — a call of `SetPowerState` gets past the filters, and leads out of DEEP_SLEEP;
* `Plugin.Resting` — the invariant of the runs with atomic calls;
* `wakesUp_iff` — the wake-up calls get past the filters exactly if no activation is admitted while
  the end of another one is being told.
-/

namespace PowerManager

namespace Transition

variable {a b : Transition} {l : Step} {es : List Effect}

/-- A transition has taken the device to DEEP_SLEEP, and nobody has asked for another state
since. -/
structure Rested (a : Transition) : Prop where
  powerState : a.powerState = .standbyDeepSleep
  slot : a.slot = .settled .standbyDeepSleep
  request : a.request = .idle

/-- What a step may ask of the deep sleep controller: nothing, `Deactivate`, or `Activate`, which
takes the device to its rest if no request is half-way through. -/
theorem demand_cases (h : transition.step a l = some (b, es)) :
    (.activate ∉ es ∧ .deactivate ∉ es ∧ (a.Rested → b.Rested)) ∨
      (.activate ∉ es ∧ es = [.deactivate]) ∨
      (.deactivate ∉ es ∧ es.count .activate = 1 ∧ (∃ r, l = .settle r) ∧
        (∃ p t, a.slot = .pending p t) ∧ ((∀ n c, a.request ≠ .checked n c) → b.Rested)) := by
  rcases step_cases h with ⟨rfl, rfl, -⟩ | ⟨n, t, -, -, -, rfl, rfl⟩ | ⟨n, c, -, hreq, -, rfl, rfl⟩ |
    ⟨n, c, -, hreq, -, rfl, rfl⟩ | ⟨-, hinst, rfl, rfl⟩ | ⟨p, t, r, rfl, hpend, rfl, rfl⟩
  · exact .inl ⟨by simp, by simp, id⟩
  · by_cases hdeep : a.powerState = .standbyDeepSleep
    · exact .inr (.inl ⟨by simp [hdeep], by simp [hdeep]⟩)
    · exact .inl ⟨by simp [hdeep], by simp [hdeep], fun ha => absurd ha.powerState hdeep⟩
  · exact .inl ⟨by simp, by simp, fun ha => by simp [ha.request] at hreq⟩
  · exact .inl ⟨by simp, by simp, fun ha => by simp [ha.request] at hreq⟩
  · exact .inl ⟨by simp, by simp, fun ha => by simp [ha.request] at hinst⟩
  · have hnot : ¬a.Rested := fun ha => by simp [ha.slot] at hpend
    -- only a transition to DEEP_SLEEP that the platform accepts activates
    by_cases hactivates : r = true ∧ t = .standbyDeepSleep
    · obtain ⟨rfl, rfl⟩ := hactivates
      refine .inr (.inr ⟨by simp [settle], by simp [settle], ⟨_, rfl⟩, ⟨p, _, hpend⟩,
        fun hreq => ?_⟩)
      refine ⟨rfl, rfl, ?_⟩
      cases hr : a.request with
      | checked n c => exact absurd hr (hreq n c)
      | _ => simp [settle, hr]
    · refine .inl ⟨?_, ?_, fun ha => absurd ha hnot⟩ <;>
        cases r <;> by_cases ht : t = .standbyDeepSleep <;> simp_all [settle]

end Transition

namespace Implementation

variable {pm pm' : Implementation} {es : List Event} {l : Label}

/-- A step that changes the power state takes the device to the target of the controller. -/
theorem powerState_of_changes (hI : pm.Inv) (h : implementation.step pm l = some (pm', es))
    (hch : pm.Changes l) {c : AckController CompletionHandler}
    (hc : pm.modeChangeController = some c) : pm'.powerState = c.powerState := by
  obtain ⟨p, n, hmem⟩ := (modeChanged_iff hI h).mpr hch
  obtain ⟨st, -, hst⟩ := step_refines hI h
  have hchanged : .changed p n ∈ effects es := List.mem_filterMap.mpr ⟨_, hmem, rfl⟩
  have htarget : pm.slot.target? = some c.powerState := by
    rw [target?_slot hI, hc]
    rfl
  rcases Transition.step_cases hst with ⟨-, hes, -⟩ | ⟨n, t, -, -, -, -, hes⟩ |
    ⟨n, c, -, -, -, -, hes⟩ | ⟨n, c, -, -, -, -, hes⟩ | ⟨-, -, -, hes⟩ |
    ⟨p', t, r, -, hpend, hpm, hes⟩
  · -- only the completion of a transition tells of a change
    simp [hes] at hchanged
  · rw [hes] at hchanged
    split at hchanged <;> simp at hchanged
  · simp [hes] at hchanged
  · simp [hes] at hchanged
  · simp [hes] at hchanged
  · have ht : t = c.powerState := by
      rw [show pm.slot = .pending p' t from hpend] at htarget
      exact Option.some.inj htarget
    cases r with
    | true => exact (congrArg Transition.powerState hpm).trans ht
    | false => simp [hes, Transition.settle] at hchanged

/-- The controller of a transaction, if it is still there, has the target. -/
structure Targets (transactionId : ℤ) (newState : PowerState) (pm : Implementation) : Prop where
  past : transactionId ≤ pm.nextTransactionId
  target : ∀ c, pm.modeChangeController = some c → c.transactionId = transactionId →
    c.powerState = newState

/-- A step keeps the target: the controller is replaced by one with a number of its own. -/
theorem targets_step {t : ℤ} {w : PowerState} (hI : pm.Inv) (hT : pm.Targets t w)
    (h : implementation.step pm l = some (pm', es)) : pm'.Targets t w := by
  cases step_cases hI h with
  | ignored => exact hT
  | checked => exact ⟨hT.past, hT.target⟩
  | dropped => exact ⟨hT.past, hT.target⟩
  -- the new controller has a number that none has had before
  | installed hcall hother hcancel =>
    have hpast := hT.past
    refine ⟨by simp only; omega, ?_⟩
    rintro c ⟨⟩ hid
    simp only [AckController.create_transactionId] at hid
    omega
  | @scheduled env n s o c timeout hcall hc hwait =>
    refine ⟨hT.past, ?_⟩
    rintro c' ⟨⟩ hid
    exact hT.target c hc hid
  | @completed env n s b o c hcall hc hwait =>
    obtain ⟨pc, hpm⟩ := pm.completionHandler_fst env ⟨s, n, b⟩ false
    rw [hpm]
    exact ⟨hT.past, hT.target⟩
  | @waited l op c c' clients answer hop hc happ =>
    obtain ⟨htarget, htid, -⟩ := AckController.applyOp_frame happ
    refine ⟨hT.past, ?_⟩
    rintro c'' ⟨⟩ hid
    exact htarget.trans (hT.target c hc (htid.symm.trans hid))
  | @fired l env op c c' hdl isTimedout clients answer hop hc happ =>
    obtain ⟨htarget, htid, -⟩ := AckController.applyOp_frame happ
    obtain ⟨pc, hpm⟩ := completionHandler_fst
      { pm with modeChangeController := some c', modeChangeClients := clients } env hdl isTimedout
    rw [hpm]
    refine ⟨hT.past, ?_⟩
    rintro c'' ⟨⟩ hid
    exact htarget.trans (hT.target c hc (htid.symm.trans hid))
  | other => exact ⟨hT.past, hT.target⟩

/-- A request in DEEP_SLEEP for another state, outside the transient window, calls `Deactivate`. -/
theorem request_deepSleep {w : PowerState} {ds : DeepSleepStatus} (hlock : pm.selfLock = true)
    (hdeep : pm.powerState = .standbyDeepSleep) (hw : w ≠ .standbyDeepSleep)
    (hds : ds.transient = false) : ∃ pm', implementation.step pm (.request w ds) =
      some (pm', [.selfLock, .deactivate]) ∧
      pm'.call = .checked w .standbyDeepSleep (isSyncStateChange .standbyDeepSleep w) ∧
      pm'.modeChangeController = pm.modeChangeController := by
  have hread : ∀ b, ({ pm with selfLock := b } : Implementation).powerState = .standbyDeepSleep :=
    fun _ => hdeep
  simp only [implementation, hlock, ↓reduceIte, setPowerStateRead, hread, hw.symm, hds]
  exact ⟨_, rfl, rfl, rfl⟩

/-- A request in DEEP_SLEEP is dropped in the transient window. -/
theorem request_transient {w : PowerState} {ds : DeepSleepStatus} (hlock : pm.selfLock = true)
    (hdeep : pm.powerState = .standbyDeepSleep) (hds : ds.transient = true) :
    ∃ pm', implementation.step pm (.request w ds) =
      some (pm', [.selfLock, .selfUnlock, .returned .errorNone]) := by
  have hread : ∀ b, ({ pm with selfLock := b } : Implementation).powerState = .standbyDeepSleep :=
    fun _ => hdeep
  simp only [implementation, hlock, ↓reduceIte, setPowerStateRead, hread, hds]
  split <;> exact ⟨_, rfl⟩

/-- A request for another state than the one of the last controller installs a controller. -/
theorem create_installs (hI : pm.Inv) {w s : PowerState} {b : Bool} (hcall : pm.call = .checked w s b)
    (hother : pm.modeChangeController.map (·.powerState) ≠ some w) (env : Environment) :
    ∃ pm' es c, implementation.step pm (.create env) = some (pm', es) ∧
      pm'.modeChangeController = some c ∧ c.powerState = w ∧
      c.transactionId = pm'.nextTransactionId := by
  have hstep : implementation.step pm (.create env) = some (pm.setPowerStateCreate env w s b) := by
    simp [implementation, hcall]
  have hcases := setPowerStateCreate_cases hI hcall env
  generalize pm.setPowerStateCreate env w s b = r at hstep hcases
  obtain ⟨pm', es⟩ := r
  cases hcases with
  | dropped hcall' hsame =>
    rw [hcall] at hcall'
    cases hcall'
    exact absurd hsame hother
  | installed hcall' =>
    rw [hcall] at hcall'
    cases hcall'
    exact ⟨_, _, _, hstep, rfl, rfl, rfl⟩
  | waited hop | fired hop => cases hop
  | other hl => cases hl

end Implementation

namespace DeepSleepController.Event

/-- The power state that a callback of the parent requests, with or without
`PLATCO_BOOTTO_STANDBY`. -/
def wakeUpState? (bootToStandby : Bool) : DeepSleepController.Event → Option PowerState
  | .onDeepSleepTimerWakeup _ _ => some .standbyLightSleep
  | .onDeepSleepUserWakeup _ _ | .onDeepSleepFailed _ =>
    some (if bootToStandby then .standbyLightSleep else .on)
  | _ => none

/-- No callback requests DEEP_SLEEP. -/
theorem wakeUpState_ne {bootToStandby : Bool} {e : DeepSleepController.Event} {w : PowerState}
    (h : e.wakeUpState? bootToStandby = some w) : w ≠ .standbyDeepSleep := by
  rintro rfl
  cases e <;> simp [wakeUpState?] at h
  all_goals split at h <;> cases h

/-- The callbacks are the calls of an activation that are not for the platform. -/
theorem exists_wakeUpState (bootToStandby : Bool) {e : DeepSleepController.Event} {id : ℕ}
    (hid : e.id? = some id) (he : ∀ id timeout nw, e ≠ .setDeepSleep id timeout nw) :
    ∃ w, e.wakeUpState? bootToStandby = some w := by
  cases e with
  | setDeepSleep id timeout nw => exact absurd rfl (he id timeout nw)
  | deepSleepWakeup | returned _ => cases hid
  | onDeepSleepFailed _ | onDeepSleepUserWakeup _ _ | onDeepSleepTimerWakeup _ _ => exact ⟨_, rfl⟩

end DeepSleepController.Event

/-- `Deactivate` revokes at most one activation, which is then over. -/
theorem DeepSleepController.deactivate_phase (ds : DeepSleepController) (errorCode : ErrorCode)
    (id : ℕ) : (ds.deactivate errorCode).1.phase id = ds.phase id ∨
      (ds.deactivate errorCode).1.phase id = .over := by
  cases hjob : ds.deepSleepDelayJob with
  | none => simp [deactivate, hjob]
  | some id' =>
    simp only [deactivate, hjob, setPhase_phase]
    split
    · exact .inr rfl
    · exact .inl rfl

theorem DeepSleepController.deactivate_nextId (ds : DeepSleepController) (errorCode : ErrorCode) :
    (ds.deactivate errorCode).1.nextId = ds.nextId := by
  cases hjob : ds.deepSleepDelayJob with
  | none => simp [deactivate, hjob]
  | some id =>
    simp only [deactivate, hjob]
    rfl

namespace Plugin

variable {s s' : Plugin} {es : List Event} {l : Label}

/-! ## The calls of a step -/

@[simp]
theorem onEvents_pm (s : Plugin) (errorCode : ErrorCode) (es : List PowerManager.Event) :
    (s.onEvents errorCode es).1.pm = s.pm := by
  induction es generalizing s with
  | nil => rfl
  | cons e es ih =>
    rw [onEvents, ih]
    cases e <;> rfl

/-- Other events do not reach the deep sleep controller. -/
theorem onEvent_other {errorCode : ErrorCode} {e : PowerManager.Event}
    (hact : e.effect? ≠ some .activate) (hdeact : e.effect? ≠ some .deactivate) :
    (s.onEvent errorCode e).1 = s := by
  cases e with
  | activate timeOut nwStandbyMode => exact absurd rfl hact
  | deactivate => exact absurd rfl hdeact
  | _ => rfl

/-- Without `Activate` and `Deactivate`, nothing changes. -/
theorem onEvents_other {errorCode : ErrorCode} {es : List PowerManager.Event}
    (hact : .activate ∉ effects es) (hdeact : .deactivate ∉ effects es) :
    (s.onEvents errorCode es).1 = s := by
  induction es generalizing s with
  | nil => rfl
  | cons e es ih =>
    rw [effects_cons, List.mem_append, not_or] at hact hdeact
    rw [onEvents, onEvent_other (by simpa using hact.1) (by simpa using hdeact.1)]
    exact ih hact.2 hdeact.2

/-- One `Activate` adds one activation. -/
theorem onEvents_activate {errorCode : ErrorCode} {es : List PowerManager.Event}
    (hact : (effects es).count .activate = 1) (hdeact : .deactivate ∉ effects es) :
    ∃ timeOut nw, (s.onEvents errorCode es).1 = { s with ds := (s.ds.activate timeOut nw).1 } := by
  induction es generalizing s with
  | nil => simp at hact
  | cons e es ih =>
    rw [effects_cons, List.count_append] at hact
    rw [effects_cons, List.mem_append, not_or] at hdeact
    by_cases he : e.effect? = some .activate
    · obtain ⟨timeOut, nw, rfl⟩ : ∃ timeOut nw, e = .activate timeOut nw := by
        cases e with
        | activate timeOut nw => exact ⟨timeOut, nw, rfl⟩
        | _ => cases he
      -- that was the one, so the other events leave the controller alone
      have hrest : .activate ∉ effects es := by
        rw [he] at hact
        exact List.count_eq_zero.mp (by simpa using hact)
      exact ⟨timeOut, nw, onEvents_other hrest hdeact.2⟩
    · have hnone : e.effect?.toList.count .activate = 0 :=
        List.count_eq_zero.mpr (by simpa using he)
      rw [onEvents, onEvent_other he (by simpa using hdeact.1)]
      exact ih (by omega) hdeact.2

/-- `Deactivate`, alone. -/
theorem onEvents_deactivate {errorCode : ErrorCode} {es : List PowerManager.Event}
    (hes : effects es = [.deactivate]) : (s.onEvents errorCode es).1 =
      { s with ds := (s.ds.deactivate errorCode).1, deactivated := s.ds.nextId } := by
  induction es generalizing s with
  | nil => simp at hes
  | cons e es ih =>
    rw [effects_cons] at hes
    cases he : e.effect? with
    | none =>
      rw [he, Option.toList_none, List.nil_append] at hes
      rw [onEvents, onEvent_other (by simp [he]) (by simp [he])]
      exact ih hes
    | some x =>
      rw [he, Option.toList_some, List.singleton_append, List.cons_eq_cons] at hes
      obtain ⟨rfl, hnil⟩ := hes
      obtain rfl : e = .deactivate := by
        cases e with
        | deactivate => rfl
        | _ => cases he
      have hact : .activate ∉ effects es := by simp [hnil]
      have hdeact : .deactivate ∉ effects es := by simp [hnil]
      exact onEvents_other hact hdeact

/-! ## Atomic calls -/

/-- While a call of `SetPowerState` is under way, the step belongs to it. -/
def Atomic (s : Plugin) (l : Label) : Prop :=
  s.pm.call ≠ .idle → (∃ env, l = .pm (.create env)) ∨ ∃ env, l = .pm (.schedule env)

/-- What holds in the runs with atomic calls: at most one activation has not been followed by
`Deactivate` and has not come to its end, and the device rests as long as there is one. -/
structure Resting (s : Plugin) : Prop where
  inv : Implementation.refinement.Inv s.pm
  /-- Numbers that have not been given to an activation are unused. -/
  unused : ∀ id ≥ s.ds.nextId, s.ds.phase id = .over
  rested : ∀ id ≥ s.deactivated, s.ds.phase id ≠ .over → s.pm.transition.Rested
  unique : ∀ i ≥ s.deactivated, ∀ j ≥ s.deactivated,
    s.ds.phase i ≠ .over → s.ds.phase j ≠ .over → i = j

theorem resting_initial (pc : PowerController) (transactionId : ℤ) (clientId : UInt32) :
    (initial pc transactionId clientId).Resting where
  inv := Implementation.refinement_initial pc transactionId clientId
  unused := fun _ _ => rfl
  rested := fun _ _ h => absurd rfl h
  unique := fun _ _ _ _ h => absurd rfl h

/-- A step of the implementation leaves the deep sleep controller alone, deactivates it, or
activates it. It activates it from a state with a transition under way. -/
theorem stepImplementation_cases {l : PowerManager.Label} {errorCode : ErrorCode} (hI : s.pm.Inv)
    (h : s.stepImplementation l errorCode = some (s', es)) :
    (∃ pes, implementation.step s.pm l = some (s'.pm, pes)) ∧
    ((s'.ds = s.ds ∧ s'.deactivated = s.deactivated ∧
        (s.pm.transition.Rested → s'.pm.transition.Rested)) ∨
      (s'.ds = (s.ds.deactivate errorCode).1 ∧ s'.deactivated = s.ds.nextId) ∨
      ∃ timeOut nw, s'.ds = (s.ds.activate timeOut nw).1 ∧ s'.deactivated = s.deactivated ∧
        (∃ p t, s.pm.transition.slot = .pending p t) ∧ (∃ r, l.Matches (.settle r)) ∧
        ((∀ n c b, s.pm.call ≠ .checked n c b) → s'.pm.transition.Rested)) := by
  unfold stepImplementation at h
  split at h
  · rename_i pm pes hstep
    obtain ⟨st, hmatch, habs⟩ := Implementation.step_refines hI hstep
    have hs' : s' = ({ s with pm }.onEvents errorCode pes).1 :=
      congrArg Prod.fst (Option.some.inj h).symm
    -- the parent is asked for nothing, for a `Deactivate`, or for an activation
    rcases Transition.demand_cases habs with ⟨hact, hdeact, hrested⟩ | ⟨hact, hes⟩ |
      ⟨hdeact, hone, ⟨r, rfl⟩, hpend, hrested⟩
    · rw [onEvents_other hact hdeact] at hs'
      subst hs'
      exact ⟨⟨pes, hstep⟩, .inl ⟨rfl, rfl, hrested⟩⟩
    · rw [onEvents_deactivate hes] at hs'
      subst hs'
      exact ⟨⟨pes, hstep⟩, .inr (.inl ⟨rfl, rfl⟩)⟩
    · obtain ⟨timeOut, nw, heq⟩ := @onEvents_activate { s with pm } errorCode pes hone hdeact
      rw [heq] at hs'
      subst hs'
      refine ⟨⟨pes, hstep⟩, .inr (.inr ⟨timeOut, nw, rfl, rfl, hpend, ⟨r, hmatch⟩, fun hcall => ?_⟩)⟩
      refine hrested fun n c hreq => ?_
      cases hc : s.pm.call <;> simp_all [Implementation.transition, Implementation.request]
  · cases h

/-- A step of the implementation keeps the invariant, if the calls are atomic. -/
theorem resting_stepImplementation {l : PowerManager.Label} {errorCode : ErrorCode} (hR : s.Resting)
    (hatomic : s.pm.call ≠ .idle → (∃ env, l = .create env) ∨ ∃ env, l = .schedule env)
    (h : s.stepImplementation l errorCode = some (s', es)) : s'.Resting := by
  obtain ⟨⟨pes, hstep⟩, hcases⟩ := stepImplementation_cases hR.inv.1 h
  have hinv : Implementation.refinement.Inv s'.pm := Implementation.refinement.inv_step hR.inv hstep
  rcases hcases with ⟨hds, hdeactivated, hrested⟩ | ⟨hds, hdeactivated⟩ |
    ⟨timeOut, nw, hds, hdeactivated, ⟨p, t, hpend⟩, ⟨r, hmatch⟩, hrested⟩
  · -- the deep sleep controller is as it was
    refine ⟨hinv, ?_, ?_, ?_⟩ <;> rw [hds]
    · exact hR.unused
    · rw [hdeactivated]
      exact fun id hid hphase => hrested (hR.rested id hid hphase)
    · rw [hdeactivated]
      exact hR.unique
  · -- there are only activations from before `Deactivate`
    have hover : ∀ id ≥ s.ds.nextId, s'.ds.phase id = .over := by
      intro id hid
      rw [hds]
      exact (s.ds.deactivate_phase errorCode id).elim (·.trans (hR.unused id hid)) fun h => h
    have hunused : ∀ id ≥ s'.ds.nextId, s'.ds.phase id = .over := by
      rwa [hds, DeepSleepController.deactivate_nextId, ← hds]
    rw [← hdeactivated] at hover
    refine ⟨hinv, hunused, fun id hid hphase => absurd (hover id hid) hphase,
      fun i hi _ _ hphase => absurd (hover i hi) hphase⟩
  · -- there is only the new activation
    have hstep' : deepSleepController.step s.ds (.activate timeOut nw) = some (_, _) := rfl
    obtain ⟨-, hunused⟩ := DeepSleepController.over_step hR.unused hstep'
    have honly : ∀ id ≥ s'.deactivated, s'.ds.phase id ≠ .over → id = s.ds.nextId := by
      rw [hds, hdeactivated]
      intro id hid hphase
      by_contra hne
      have hold : s.ds.phase id ≠ .over := by
        simpa [DeepSleepController.activate, hne] using hphase
      have := (hR.rested id hid hold).slot
      rw [hpend] at this
      cases this
    refine ⟨hinv, hds ▸ hunused, fun id hid _ => hrested fun n c b hcall => ?_,
      fun i hi j hj hphase hphase' => (honly i hi hphase).trans (honly j hj hphase').symm⟩
    -- a call that has been checked goes on, which completes nothing
    rcases hatomic (by simp [hcall]) with ⟨env, rfl⟩ | ⟨env, rfl⟩
    · cases hmatch
    · simp [implementation, hcall] at hstep

/-- Only `Activate` begins an activation. -/
theorem over_of_over {ds ds' : DeepSleepController} {l : DeepSleepController.Label}
    {es : List DeepSleepController.Event} (hl : ∀ t nw, l ≠ .activate t nw)
    (h : deepSleepController.step ds l = some (ds', es)) {j : ℕ} (hj : ds'.phase j ≠ .over) :
    ds.phase j ≠ .over := by
  cases DeepSleepController.step_cases h with
  | activated => exact absurd rfl (hl _ _)
  | refused hp => exact DeepSleepController.ne_of_setPhase hj (by simp [hp])
  | admitted hp => exact DeepSleepController.ne_of_setPhase hj (by simp [hp])
  | dispatched hp => exact DeepSleepController.ne_of_setPhase hj (by simp [hp])
  | aborted _ hp => exact DeepSleepController.ne_of_setPhase hj fun h => by simp [h] at hp
  | waited hp => exact DeepSleepController.ne_of_setPhase hj fun h => by simp [h] at hp
  | started hp => exact DeepSleepController.ne_of_setPhase hj (by simp [hp])
  | retried hp => exact DeepSleepController.ne_of_setPhase hj (by simp [hp])
  | reported hp => exact DeepSleepController.ne_of_setPhase hj (by simp [hp])
  | returned hp => exact DeepSleepController.ne_of_setPhase hj (by simp [hp])
  | deactivated hphase =>
    rcases hphase j with hsame | hover
    · exact hsame ▸ hj
    · exact absurd hover hj

/-- A step of an activation. -/
theorem step_deepSleep {l : DeepSleepController.Label} (h : plugin.step s (.ds l) = some (s', es)) :
    (∀ t nw, l ≠ .activate t nw) ∧ s'.pm = s.pm ∧ s'.deactivated = s.deactivated ∧
      ∃ des, deepSleepController.step s.ds l = some (s'.ds, des) ∧ es = des.map .ds := by
  have hnew : ∀ t nw, l ≠ .activate t nw := by
    rintro t nw rfl
    cases h
  have hstep : s.stepDeepSleep l = some (s', es) := by
    cases l <;> first | exact h | cases h
  unfold stepDeepSleep at hstep
  split at hstep
  · rename_i ds des hds
    cases hstep
    exact ⟨hnew, rfl, rfl, des, hds, rfl⟩
  · cases hstep

/-- Atomic calls keep the invariant. -/
theorem resting_step (hR : s.Resting) (hl : Atomic s l) (h : plugin.step s l = some (s', es)) :
    s'.Resting := by
  cases l with
  | request n now errorCode =>
    refine resting_stepImplementation hR (fun hcall => ?_) h
    rcases hl hcall with ⟨env, hl⟩ | ⟨env, hl⟩ <;> cases hl
  | pm l =>
    refine resting_stepImplementation hR (fun hcall => ?_) (stepImplementation_of_step h)
    rcases hl hcall with ⟨env, hl⟩ | ⟨env, hl⟩ <;> cases hl
    · exact .inl ⟨env, rfl⟩
    · exact .inr ⟨env, rfl⟩
  | ds l =>
    obtain ⟨hnew, hpm, hdeactivated, des, hstep, -⟩ := step_deepSleep h
    refine ⟨hpm ▸ hR.inv, (DeepSleepController.over_step hR.unused hstep).2, ?_, ?_⟩
    · rw [hpm, hdeactivated]
      exact fun id hid hphase => hR.rested id hid (over_of_over hnew hstep hphase)
    · rw [hdeactivated]
      exact fun i hi j hj hphase hphase' => hR.unique i hi j hj (over_of_over hnew hstep hphase)
        (over_of_over hnew hstep hphase')

/-! ## The transient window -/

/-- No activation is admitted while the parent is being told of the end of another one that has not
been followed by `Deactivate`. -/
def TellsFirst (s : Plugin) : Label → Prop
  | .ds (.performActivate _ _) => s.ds.isDeepSleepInProgress = false →
      ∀ j < s.ds.nextId, s.deactivated ≤ j → s.ds.phase j ≠ .notifying
  | _ => True

instance (s : Plugin) (l : Label) : Decidable (s.TellsFirst l) := by
  unfold TellsFirst
  split <;> infer_instance

instance (s : Plugin) (l : Label) : Decidable (s.Atomic l) :=
  match l with
  | .pm (.create env) => isTrue fun _ => .inl ⟨env, rfl⟩
  | .pm (.schedule env) => isTrue fun _ => .inr ⟨env, rfl⟩
  | .request .. | .ds _ | .pm (.request ..) | .pm (.powerModePreChangeComplete ..)
  | .pm (.delayPowerModeChangeBy ..) | .pm (.addPowerModePreChangeClient _)
  | .pm (.removePowerModePreChangeClient ..) | .pm (.timer _) =>
    decidable_of_iff (s.pm.call = .idle) <| by simp [Atomic]

/-- While the parent is being told, deep sleep is not in progress. -/
def Told (s : Plugin) : Prop :=
  ∀ id ≥ s.deactivated, s.ds.phase id = .notifying → s.ds.deepSleepState ≠ .inProgress

theorem told_stepImplementation {l : PowerManager.Label} {errorCode : ErrorCode} (hI : s.pm.Inv)
    (hT : s.Told) (h : s.stepImplementation l errorCode = some (s', es)) : s'.Told := by
  obtain ⟨-, hcases⟩ := stepImplementation_cases hI h
  intro id hid hphase
  rcases hcases with ⟨hds, hdeactivated, -⟩ | ⟨hds, -⟩ | ⟨timeOut, nw, hds, hdeactivated, -⟩
  · rw [hds] at hphase ⊢
    exact hT id (hdeactivated ▸ hid) hphase
  · rw [hds]
    simp [DeepSleepController.deactivate]
  · rw [hds] at hphase ⊢
    simp only [DeepSleepController.activate, DeepSleepController.setPhase_phase] at hphase
    split at hphase
    · cases hphase
    · exact hT id (hdeactivated ▸ hid) hphase

/-- A step keeps this, unless it admits an activation too early. -/
theorem told_step (hR : s.Resting) (hT : s.Told) (hl : s.TellsFirst l)
    (h : plugin.step s l = some (s', es)) : s'.Told := by
  cases l with
  | request n now errorCode => exact told_stepImplementation hR.inv.1 hT h
  | pm l =>
    exact told_stepImplementation hR.inv.1 hT (stepImplementation_of_step h)
  | ds l =>
    obtain ⟨hnew, -, hdeactivated, des, hstep, -⟩ := step_deepSleep h
    rintro j hj hphase
    rw [hdeactivated] at hj
    generalize s'.ds = ds' at hstep hphase ⊢
    cases DeepSleepController.step_cases hstep with
    | activated => exact absurd rfl (hnew _ _)
    | refused hp => exact hT j hj (DeepSleepController.eq_of_setPhase hphase (by simp))
    | @admitted id sur _ _ _ _ _ p hp hidle hp' =>
      -- the activation would be admitted too early
      have hnotifying := DeepSleepController.eq_of_setPhase hphase (by rintro rfl; exact hp')
      have hlt : j < s.ds.nextId := by
        by_contra hge
        simp [hR.unused j (not_lt.mp hge)] at hnotifying
      exact absurd hnotifying
        (hl (by simpa [DeepSleepController.isDeepSleepInProgress] using hidle) j hlt hj)
    | dispatched hp => exact hT j hj (DeepSleepController.eq_of_setPhase hphase (by simp))
    | aborted _ hp => simp [DeepSleepController.abort]
    | waited hp => exact hT j hj (DeepSleepController.eq_of_setPhase hphase (by simp))
    | started hp => exact hT j hj (DeepSleepController.eq_of_setPhase hphase (by simp))
    | retried hp => simp
    | reported hp hfinal hs => rcases hs with rfl | rfl <;> simp
    | returned hp => exact hT j hj (DeepSleepController.eq_of_setPhase hphase (by simp))
    | deactivated => simp

/-! ## The wake-up calls -/

/-- A call of `SetPowerState` is not dropped here: it calls `Deactivate` and installs a controller
for the new state. When the transition of this controller is completed, and neither the override
file nor the platform refuses it, the device is in the new state, and not in DEEP_SLEEP. -/
def WakesUp (s : Plugin) (newState : PowerState) : Prop :=
  ∀ now errorCode env, ∃ s₁ es₁ s₂ es₂ c,
    plugin.step s (.request newState now errorCode) = some (s₁, es₁) ∧ .pm .deactivate ∈ es₁ ∧
    plugin.step s₁ (.pm (.create env)) = some (s₂, es₂) ∧
    s₂.pm.modeChangeController = some c ∧ c.powerState = newState ∧
    ∀ ls os t l u es, plugin.Run s₂ ls os t → plugin.step t (.pm l) = some (u, es) →
      t.pm.transactionId? = some c.transactionId → t.pm.Changes l →
        u.pm.powerState = newState ∧ u.pm.powerState ≠ .standbyDeepSleep

/-- The implementation takes a step of its own, or none. -/
theorem step_pm (hI : s.pm.Inv) (h : plugin.step s l = some (s', es)) :
    s'.pm = s.pm ∨ ∃ l' pes, implementation.step s.pm l' = some (s'.pm, pes) := by
  cases l with
  | request n now errorCode =>
    obtain ⟨⟨pes, hstep⟩, -⟩ := stepImplementation_cases hI h
    exact .inr ⟨_, pes, hstep⟩
  | pm l =>
    obtain ⟨⟨pes, hstep⟩, -⟩ := stepImplementation_cases hI (stepImplementation_of_step h)
    exact .inr ⟨_, pes, hstep⟩
  | ds l => exact .inl (step_deepSleep h).2.1

/-- In every later state, the transition of the controller leads to its target. -/
theorem powerState_of_run {c : AckController CompletionHandler} {ls : List Label} {os : List Event}
    {t u : Plugin} {l : PowerManager.Label} (hI : s.pm.Inv)
    (hc : s.pm.modeChangeController = some c) (hpast : c.transactionId ≤ s.pm.nextTransactionId)
    (hrun : plugin.Run s ls os t) (hstep : plugin.step t (.pm l) = some (u, es))
    (htid : t.pm.transactionId? = some c.transactionId) (hch : t.pm.Changes l) :
    u.pm.powerState = c.powerState := by
  -- the controller that stands at `t` is this one, or one with the same number
  have hnow : s.pm.Targets c.transactionId c.powerState := by
    refine ⟨hpast, fun c' hc' _ => ?_⟩
    rw [hc] at hc'
    exact congrArg (·.powerState) (Option.some.inj hc').symm
  have hkept : t.pm.Inv ∧ t.pm.Targets c.transactionId c.powerState := by
    refine hrun.invariant (I := fun t => t.pm.Inv ∧ t.pm.Targets c.transactionId c.powerState)
      ⟨hI, hnow⟩ ?_
    rintro t l u es ⟨hIt, hTt⟩ h
    rcases step_pm hIt h with hsame | ⟨l', pes, himpl⟩
    · exact hsame ▸ ⟨hIt, hTt⟩
    · exact ⟨Implementation.inv_step hIt himpl, Implementation.targets_step hIt hTt himpl⟩
  obtain ⟨hIt, hTt⟩ := hkept
  obtain ⟨c', hc', hid⟩ : ∃ c', t.pm.modeChangeController = some c' ∧
      c'.transactionId = c.transactionId := by
    simpa [Implementation.transactionId?] using htid
  obtain ⟨⟨pes, himpl⟩, -⟩ := stepImplementation_cases hIt (stepImplementation_of_step hstep)
  rw [Implementation.powerState_of_changes hIt himpl hch hc']
  exact hTt.target c' hc' hid

/-- While the parent is being told of the end of an activation that has not been followed by
`Deactivate`, no filter drops the call. -/
theorem wakesUp_of_resting {id : ℕ} {w : PowerState} (hR : s.Resting) (hT : s.Told)
    (hcall : s.pm.call = .idle) (hid : s.deactivated ≤ id) (hphase : s.ds.phase id = .notifying)
    (hw : w ≠ .standbyDeepSleep) : s.WakesUp w := by
  intro now errorCode env
  have hrested := hR.rested id hid (by simp [hphase])
  have hdeep : s.pm.powerState = .standbyDeepSleep := hrested.powerState
  -- none of the three filters applies: the device is in DEEP_SLEEP, ...
  have hlock : s.pm.selfLock = true := hR.inv.1.selfLock.mpr hcall
  -- ... deep sleep is not in progress any more, so the window is not transient, ...
  have htransient : (⟨s.ds.isDeepSleepInProgress, s.ds.elapsed now⟩ : DeepSleepStatus).transient =
      false := by
    simp [DeepSleepStatus.transient, DeepSleepController.isDeepSleepInProgress, hT id hid hphase]
  obtain ⟨pm₁, hread, hcall₁, hc₁⟩ :=
    Implementation.request_deepSleep hlock hdeep hw htransient
  have hI₁ := Implementation.inv_step hR.inv.1 hread
  -- ... and the last controller is that of the transition to DEEP_SLEEP
  have hother : pm₁.modeChangeController.map (·.powerState) ≠ some w := by
    rw [hc₁, ← Implementation.target?_slot hR.inv.1, show s.pm.slot = _ from hrested.slot]
    simpa [Slot.target?] using hw.symm
  obtain ⟨pm₂, pes, c, hcreate, hc, htarget, htid⟩ :=
    Implementation.create_installs hI₁ hcall₁ hother env
  have hI₂ := Implementation.inv_step hI₁ hcreate
  -- the two steps of the implementation, as steps of the plugin
  obtain ⟨s₁, es₁, hstep₁, hpm₁, hdeactivate⟩ : ∃ s₁ es₁,
      plugin.step s (.request w now errorCode) = some (s₁, es₁) ∧ s₁.pm = pm₁ ∧
        .pm .deactivate ∈ es₁ := by
    refine ⟨_, ({ s with pm := pm₁ }.onEvents errorCode [.selfLock, .deactivate]).2, ?_,
      onEvents_pm { s with pm := pm₁ } errorCode [.selfLock, .deactivate], ?_⟩
    · simp only [plugin, stepImplementation, hread]
    · show Event.pm .deactivate ∈ [.pm .selfLock, .pm .deactivate] ++ _
      exact List.mem_append_left _ (by simp)
  obtain ⟨s₂, es₂, hstep₂, hpm₂⟩ : ∃ s₂ es₂,
      plugin.step s₁ (.pm (.create env)) = some (s₂, es₂) ∧ s₂.pm = pm₂ := by
    refine ⟨_, ({ s₁ with pm := pm₂ }.onEvents .errorNone pes).2, ?_,
      onEvents_pm { s₁ with pm := pm₂ } .errorNone pes⟩
    simp only [plugin, stepImplementation, hpm₁, hcreate]
  refine ⟨s₁, es₁, s₂, es₂, c, hstep₁, hdeactivate, hstep₂, hpm₂ ▸ hc, htarget, ?_⟩
  intro ls os t l u es hrun hstep htid' hch
  have hpower := powerState_of_run (hpm₂ ▸ hI₂) (hpm₂ ▸ hc) (hpm₂ ▸ htid.le) hrun hstep htid' hch
  rw [hpower, htarget]
  exact ⟨rfl, hw⟩

/-! ## Runs -/

/-- The implementation does not tell its deep sleep controller that an activation has ended. -/
theorem notifying_of_stepImplementation {l : PowerManager.Label} {errorCode : ErrorCode} {id : ℕ}
    (hI : s.pm.Inv) (h : s.stepImplementation l errorCode = some (s', es))
    (hphase : s'.ds.phase id = .notifying) : s.ds.phase id = .notifying := by
  obtain ⟨-, hcases⟩ := stepImplementation_cases hI h
  rcases hcases with ⟨hds, -⟩ | ⟨hds, -⟩ | ⟨timeOut, nw, hds, -⟩ <;> rw [hds] at hphase
  · exact hphase
  · rcases s.ds.deactivate_phase errorCode id with hsame | hover
    · exact hsame.symm.trans hphase
    · rw [hover] at hphase
      cases hphase
  · simp only [DeepSleepController.activate, DeepSleepController.setPhase_phase] at hphase
    split at hphase
    · cases hphase
    · exact hphase

/-- An activation gets to its end with a call of the parent. -/
theorem notifying_step (bootToStandby : Bool) {id : ℕ} (hI : s.pm.Inv)
    (h : plugin.step s l = some (s', es)) (hphase : s'.ds.phase id = .notifying) :
    s.ds.phase id = .notifying ∨
      ∃ e w, .ds e ∈ es ∧ e.id? = some id ∧ e.wakeUpState? bootToStandby = some w := by
  cases l with
  | request n now errorCode => exact .inl (notifying_of_stepImplementation hI h hphase)
  | pm l =>
    exact .inl (notifying_of_stepImplementation hI (stepImplementation_of_step h) hphase)
  | ds l =>
    obtain ⟨hnew, -, -, des, hstep, rfl⟩ := step_deepSleep h
    generalize s'.ds = ds' at hstep hphase
    cases DeepSleepController.step_cases hstep with
    | activated => exact absurd rfl (hnew _ _)
    | refused | dispatched | aborted | waited | started | retried | returned =>
      exact .inl (DeepSleepController.eq_of_setPhase hphase (by simp))
    | @admitted _ _ _ _ _ _ _ p _ _ hp' =>
      refine .inl (DeepSleepController.eq_of_setPhase hphase ?_)
      rintro rfl
      exact hp'
    -- the step that ends an activation is the one that calls the parent
    | @reported j n errorCode userWakeup st e hp hfinal hs he he' =>
      simp only [DeepSleepController.setPhase_phase] at hphase
      split at hphase
      · rename_i hid
        subst hid
        obtain ⟨w, hw⟩ := e.exists_wakeUpState bootToStandby he he'
        exact .inr ⟨e, w, by simp, he, hw⟩
      · exact .inl hphase
    | deactivated hover =>
      rcases hover id with hsame | hover
      · exact .inl (hsame.symm.trans hphase)
      · exact absurd (hover.symm.trans hphase) (by simp)

/-- Where the parent is being told of the end of an activation, it has been called. -/
theorem called_of_notifying (bootToStandby : Bool) {pc : PowerController} {n : ℤ} {m : UInt32}
    {ls : List Label} {os : List Event} (h : plugin.Run (initial pc n m) ls os s) {id : ℕ}
    (hphase : s.ds.phase id = .notifying) :
    ∃ e w, .ds e ∈ os ∧ e.id? = some id ∧ e.wakeUpState? bootToStandby = some w := by
  have hI : ∀ {ls os s}, plugin.Run (initial pc n m) ls os s → s.pm.Inv := by
    intro ls os s h
    refine h.invariant (I := fun s => s.pm.Inv) (Implementation.inv_initial pc n m) ?_
    intro t l u es hIt hstep
    rcases step_pm hIt hstep with hsame | ⟨l', pes, himpl⟩
    · exact hsame ▸ hIt
    · exact Implementation.inv_step hIt himpl
  induction h with
  | nil => cases hphase
  | snoc hrun hstep ih =>
    rcases notifying_step bootToStandby (hI hrun) hstep hphase with hold | ⟨e, w, he, hid, hw⟩
    · obtain ⟨e, w, he, hid, hw⟩ := ih hold
      exact ⟨e, w, List.mem_append_left _ he, hid, hw⟩
    · exact ⟨e, w, List.mem_append_right _ he, hid, hw⟩

/-- In the transient window a call is dropped. -/
theorem not_wakesUp {w : PowerState} (hlock : s.pm.selfLock = true)
    (hdeep : s.pm.powerState = .standbyDeepSleep) (hin : s.ds.deepSleepState = .inProgress) :
    ¬s.WakesUp w := by
  intro hwakes
  obtain ⟨s₁, es₁, -, -, -, hstep, hdeactivate, -⟩ :=
    hwakes s.ds.deepsleepStartTime .errorNone .accepts
  have htransient : (⟨s.ds.isDeepSleepInProgress, s.ds.elapsed s.ds.deepsleepStartTime⟩ :
      DeepSleepStatus).transient = true := by
    simp [DeepSleepStatus.transient, DeepSleepController.isDeepSleepInProgress, hin,
      DeepSleepController.elapsed, transientDeepsleepThreshold]
  obtain ⟨pm', hread⟩ := Implementation.request_transient (w := w) hlock hdeep htransient
  simp only [plugin, stepImplementation, hread, Option.some.injEq] at hstep
  have hes : ({ s with pm := pm' }.onEvents .errorNone [.selfLock, .selfUnlock,
      .returned .errorNone]).2 = es₁ := congrArg Prod.snd hstep
  replace hes : [.pm .selfLock, .pm .selfUnlock, .pm (.returned .errorNone)] = es₁ := hes
  simp [← hes] at hdeactivate

/-- In every run with atomic calls: the call that the parent makes at the end of an activation, as
long as no `Deactivate` has followed the activation, is not dropped at any time and leads out of
DEEP_SLEEP, if and only if no activation is admitted while the parent is being told of the end of
another one. -/
theorem wakesUp_iff {bootToStandby : Bool} {pc : PowerController} {n : ℤ} {m : UInt32}
    {ls : List Label} {os : List Event} (h : plugin.Run (initial pc n m) ls os s)
    (hatomic : plugin.Along Atomic (initial pc n m) ls) :
    (∀ pre post os' t e id w, ls = pre ++ post → plugin.Run (initial pc n m) pre os' t →
        .ds e ∈ os' → e.id? = some id → e.wakeUpState? bootToStandby = some w →
        t.ds.phase id = .notifying → t.deactivated ≤ id → t.pm.call = .idle → t.WakesUp w) ↔
      plugin.Along TellsFirst (initial pc n m) ls := by
  have hresting : ∀ pre post os' t, ls = pre ++ post → plugin.Run (initial pc n m) pre os' t →
      t.Resting := by
    rintro pre post os' t rfl hpre
    exact hpre.invariant_along hatomic.left (resting_initial pc n m)
      fun _ _ _ _ hR hl hstep => resting_step hR hl hstep
  constructor
  · -- an admission that is too early opens the window again, and the call is dropped
    intro hall pre l post os' t hcut hpre
    have hR := hresting pre _ os' t hcut hpre
    subst hcut
    cases l with
    | request _ _ _ | pm _ => trivial
    | ds l =>
      cases l with
      | performActivate id sur =>
        intro hidle j hlt hj hnotifying
        have hcall : t.pm.call = .idle := by
          by_contra hcall
          rcases hatomic pre _ post os' t rfl hpre hcall with ⟨env, hl⟩ | ⟨env, hl⟩ <;> cases hl
        obtain ⟨t', os'', hstep, hrun⟩ := h.step_at hpre
        obtain ⟨-, hpm, hdeactivated, des, hds, -⟩ := step_deepSleep hstep
        -- the activation has just been admitted, and the parent is still being told
        obtain ⟨hin, hnotifying'⟩ : t'.ds.deepSleepState = .inProgress ∧
            t'.ds.phase j = .notifying := by
          generalize t'.ds = ds' at hds
          cases DeepSleepController.step_cases hds with
          | refused hp hin => simp [DeepSleepController.isDeepSleepInProgress, hin] at hidle
          | admitted hp =>
            have hne : j ≠ id := by
              rintro rfl
              simp [hp] at hnotifying
            exact ⟨rfl, by simpa [hne] using hnotifying⟩
          | aborted hl => simp at hl
        have hrested := hR.rested j hj (by simp [hnotifying])
        obtain ⟨e, w, he, hid, hw⟩ := called_of_notifying bootToStandby hrun hnotifying'
        refine not_wakesUp ?_ ?_ hin (hall (pre ++ [_]) post _ t' e j w (by simp) hrun he hid hw
          hnotifying' (hdeactivated ▸ hj) (hpm ▸ hcall))
        · rw [hpm]
          exact hR.inv.1.selfLock.mpr hcall
        · rw [hpm]
          exact hrested.powerState
      | _ => trivial
  · -- without one, the invariant holds wherever the parent is told
    rintro htells pre post os' t e id w rfl hpre - - hw hphase hid hcall
    have hboth : t.Resting ∧ t.Told := by
      refine hpre.invariant_along (C := fun s l => s.Atomic l ∧ s.TellsFirst l)
        (I := fun s => s.Resting ∧ s.Told) ?_ ⟨resting_initial pc n m, ?_⟩ ?_
      · intro pre' l post' os u hcut hrun
        exact ⟨hatomic.left pre' l post' os u hcut hrun, htells.left pre' l post' os u hcut hrun⟩
      · intro id _ hphase
        cases hphase
      · rintro u l v es ⟨hR, hT⟩ ⟨hatomic, htells⟩ hstep
        exact ⟨resting_step hR hatomic hstep, told_step hR hT htells hstep⟩
    exact wakesUp_of_resting hboth.1 hboth.2 hcall hid hphase
      (DeepSleepController.Event.wakeUpState_ne hw)

/-- The user wakes the device. -/
theorem wakesUp_of_userWakeup :
    ∃ os s, plugin.Run (initial .isOn 0 0)
        [.request .standbyDeepSleep 0 .errorNone, .pm (.create .accepts), .pm (.schedule .accepts),
          .ds (.performActivate 0 .plain), .ds (.endWait 0), .ds (.setDeepSleep 0),
          .ds (.setDeepSleepReturn 0 .errorNone true)] os s ∧
      .ds (.onDeepSleepUserWakeup 0 true) ∈ os ∧ s.WakesUp .on := by
  have hrun : plugin.Run (initial .isOn 0 0)
      [.request .standbyDeepSleep 0 .errorNone, .pm (.create .accepts), .pm (.schedule .accepts),
        .ds (.performActivate 0 .plain), .ds (.endWait 0), .ds (.setDeepSleep 0),
        .ds (.setDeepSleepReturn 0 .errorNone true)] _ _ := Machine.run_of_exec rfl
  refine ⟨_, _, hrun, by decide, ?_⟩
  refine (@wakesUp_iff _ false .isOn 0 0 _ _ hrun (Machine.along_of_check (by decide))).mpr
    (Machine.along_of_check (by decide)) _ [] _ _ (.onDeepSleepUserWakeup 0 true) 0 .on
    (List.append_nil _).symm hrun (by decide) rfl rfl rfl (Nat.zero_le _) rfl

/-- An activation is still queued when it is followed by `Deactivate`. It is admitted after the next
one has been ended by the user, who is then not heard: the request falls into the transient window,
and the device is left in DEEP_SLEEP. -/
theorem wakeUp_dropped :
    ∃ os s s', plugin.Run (initial .isOn 0 0)
        [.request .standbyDeepSleep 0 .errorNone, .pm (.create .accepts), .pm (.schedule .accepts),
          .request .on 0 .errorNone, .pm (.create .accepts), .pm (.schedule .accepts),
          .request .standbyDeepSleep 0 .errorNone, .pm (.create .accepts), .pm (.schedule .accepts),
          .ds (.performActivate 1 .plain), .ds (.endWait 1), .ds (.setDeepSleep 1),
          .ds (.setDeepSleepReturn 1 .errorNone true), .ds (.performActivate 0 .plain)] os s ∧
      .ds (.onDeepSleepUserWakeup 1 true) ∈ os ∧ s.deactivated = 1 ∧ s.ds.phase 1 = .notifying ∧
      plugin.step s (.request .on 1 .errorNone) =
        some (s', [.pm .selfLock, .pm .selfUnlock, .pm (.returned .errorNone)]) ∧
      s'.pm.powerState = .standbyDeepSleep :=
  ⟨_, _, _, Machine.run_of_exec rfl, by decide, rfl, rfl, rfl, rfl⟩

end Plugin

end PowerManager
