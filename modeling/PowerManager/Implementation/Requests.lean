import PowerManager.Implementation.Refinement
import PowerManager.Transition.History

/-!
# Requests over whole runs

What becomes of a request for a power state, in every run of the implementation:

* `setPowerState_starts_iff` — a request starts a transition, unless it is swallowed because the
  controller of a transition that failed still holds the same target;
* `last_request_wins_iff` — the last request decides where the device ends up, unless it was for the
  state the device was still in while a transition was under way;
* `modeChanged_chain` — the announced changes form a chain, if no request goes on with a current
  state that is out of date.

Each of the three conditions is one that the implementation does not establish, and comes with a run
that breaks it.
-/

namespace PowerManager

/-- The transaction id that a pre-change event announces. -/
def Event.transactionId? : Event → Option ℤ
  | .preChange _ _ transactionId _ => some transactionId
  | _ => none

/-- Whether `PowerController::SetPowerState` has failed. -/
def Event.isFailure : Event → Bool
  | .applied _ errorCode => decide (errorCode ≠ .errorNone)
  | _ => false

/-- The transaction ids announced so far. -/
def transactionIds (es : List Event) : List ℤ :=
  es.filterMap Event.transactionId?

@[simp]
theorem transactionIds_append (es es' : List Event) :
    transactionIds (es ++ es') = transactionIds es ++ transactionIds es' := by
  simp [transactionIds]

namespace Implementation

variable {pm pm' : Implementation} {es os : List Event} {l : Label} {ls : List Label}
  {pc : PowerController} {tid : ℤ} {cid : UInt32}

/-! ## Transaction ids -/

/-- Answers announce no transaction. -/
theorem transactionIds_of_isAnswer (h : ∀ e ∈ es, e.isAnswer = true) : transactionIds es = [] := by
  refine filterMap_of_isAnswer ?_ h
  intro e he
  cases e <;> first | rfl | cases he

/-- Completion handlers announce no transaction. -/
theorem transactionIds_completionHandler (pm : Implementation) (env : Environment)
    (call : HandlerCall CompletionHandler) :
    transactionIds (pm.completionHandler env call).2 = [] := by
  refine (filterMap_completionHandler ?_ rfl pm env call).trans rfl
  intro e he
  cases e <;> first | rfl | cases he

/-- A step announces no transaction, or creates a controller and announces its transaction, whose id
is the next one. -/
theorem transactionIds_step (hI : pm.Inv) (h : implementation.step pm l = some (pm', es)) :
    (transactionIds es = [] ∧ pm'.nextTransactionId = pm.nextTransactionId) ∨
      (∃ env, l = .create env) ∧ transactionIds es = [pm.nextTransactionId + 1] ∧
        pm'.nextTransactionId = pm.nextTransactionId + 1 := by
  cases step_cases hI h with
  | ignored hcall hn => exact .inl ⟨rfl, rfl⟩
  | checked hcall hn => exact .inl ⟨by split <;> rfl, rfl⟩
  | dropped hcall hsame => exact .inl ⟨rfl, rfl⟩
  | @installed env n s b cancelled hcall hother hcancel =>
    refine .inr ⟨⟨env, rfl⟩, ?_, rfl⟩
    -- with or without a controller that is cancelled
    rcases hcancel with ⟨rfl, -⟩ | ⟨c, h, -, -, -, rfl⟩ <;> rfl
  | scheduled hcall hc hwait => exact .inl ⟨rfl, rfl⟩
  | @completed env n s b t c hcall hc hwait =>
    obtain ⟨pc, hpm⟩ := pm.completionHandler_fst env ⟨s, n, b⟩ false
    refine .inl ⟨?_, by rw [hpm]⟩
    rw [transactionIds_append, transactionIds_completionHandler]
    cases b <;> rfl
  | waited hop hc happ hrun hh hempty hanswer hclients =>
    exact .inl ⟨transactionIds_of_isAnswer hanswer, rfl⟩
  | @fired l env op c c' hdl isTimedout clients answer hop hc happ hrun hh hrun' hwhy hanswer
      hclients =>
    obtain ⟨pc, hpm⟩ := completionHandler_fst
      { pm with modeChangeController := some c', modeChangeClients := clients } env hdl isTimedout
    refine .inl ⟨?_, by rw [hpm]⟩
    rw [transactionIds_append, transactionIds_completionHandler,
      transactionIds_of_isAnswer hanswer, List.append_nil]
  | other hl hop hanswer hclients => exact .inl ⟨transactionIds_of_isAnswer hanswer, rfl⟩

/-- Every transaction announced so far has an id up to the last one. -/
theorem transactionIds_le (hI : pm.Inv) (h : implementation.Run pm ls es pm') :
    ∀ id ∈ transactionIds es, id ≤ pm'.nextTransactionId := by
  suffices pm'.Inv ∧ ∀ id ∈ transactionIds es, id ≤ pm'.nextTransactionId from this.2
  induction h with
  | nil => exact ⟨hI, by simp [transactionIds]⟩
  | snoc _ hstep ih =>
    obtain ⟨hI', hle⟩ := ih
    refine ⟨inv_step hI' hstep, ?_⟩
    rcases transactionIds_step hI' hstep with ⟨hes, hnext⟩ | ⟨-, hes, hnext⟩
    · simpa [hes, hnext] using hle
    · intro id hid
      rw [transactionIds_append, hes, List.mem_append, List.mem_singleton] at hid
      rw [hnext]
      rcases hid with hid | rfl
      · exact (hle id hid).trans (by omega)
      · exact le_rfl

/-- Steps that create no controller announce no transaction. -/
theorem transactionIds_of_no_create (hI : pm.Inv) (hls : ∀ env, .create env ∉ ls)
    (h : implementation.Run pm ls es pm') :
    transactionIds es = [] ∧ pm'.nextTransactionId = pm.nextTransactionId := by
  suffices pm'.Inv ∧ transactionIds es = [] ∧ pm'.nextTransactionId = pm.nextTransactionId from
    this.2
  induction h with
  | nil => exact ⟨hI, rfl, rfl⟩
  | snoc _ hstep ih =>
    obtain ⟨hI', hes', hnext'⟩ := ih fun env hmem => hls env (by simp [hmem])
    refine ⟨inv_step hI' hstep, ?_⟩
    rcases transactionIds_step hI' hstep with ⟨hes, hnext⟩ | ⟨⟨env, rfl⟩, -⟩
    · exact ⟨by simp [hes, hes'], hnext.trans hnext'⟩
    · exact absurd (by simp) (hls env)

/-! ## Retrying a request -/

open Transition in
/-- What is known of a state that a run reaches. -/
theorem run_initial (h : implementation.Run (initial pc tid cid) ls os pm) :
    refinement.Inv pm ∧ Recorded (effects os) pm.transition := by
  obtain ⟨hI, ss, -, hrun⟩ := refinement.run (refinement_initial pc tid cid) h
  exact ⟨hI, recorded_run (recorded_nil rfl) hrun⟩

/-- A `SetPowerState` call that did `es` and led to `pm'` has started a transition to `newState`: it
has created a controller with a transaction id that is new after `os`, and has announced it. -/
def StartsTransition (os : List Event) (newState : PowerState) (es : List Event)
    (pm' : Implementation) : Prop :=
  ∃ c currState timeOut, pm'.modeChangeController = some c ∧ c.powerState = newState ∧
    .preChange currState newState c.transactionId timeOut ∈ es ∧
    c.transactionId ∉ transactionIds os

/-- A request that is not ignored finds the implementation as it was, if nothing is outstanding,
however the steps of others come between its sections. -/
theorem run_of_checked {n : PowerState} {ds : DeepSleepStatus} {mid : List Label}
    (hI : refinement.Inv pm) (hout : ¬pm.Outstanding)
    (hn : ¬(n = pm.powerState ∨ (pm.powerState = .standbyDeepSleep ∧ ds.transient = true)))
    (hmid : ∀ env, .create env ∉ mid)
    (h : implementation.Run pm (.request n ds :: mid) es pm') :
    pm'.Inv ∧ pm'.slot = pm.slot ∧ pm'.request = .checked n pm.powerState ∧
      transactionIds es = [] ∧ pm'.nextTransactionId = pm.nextTransactionId := by
  have hids := transactionIds_of_no_create hI.1 (by simpa using hmid) h
  obtain ⟨q, es₁, es₂, rfl, hstep, hrun⟩ := h.cons_inv
  obtain ⟨_, rfl, hstep'⟩ := step_refines hI.1 hstep
  obtain ⟨hI', ss, hss, hrun'⟩ := refinement.run (refinement.inv_step hI hstep) hrun
  have hslot : ∀ p t, pm.slot ≠ .pending p t := fun p t hp =>
    hout ((outstanding_iff hI.1).mpr ⟨p, t, hp⟩)
  -- the steps in between are steps of `Transition`, where none of them creates a controller
  have hcreate : .create ∉ ss := by
    intro hmem
    obtain ⟨l, hl, hmatch⟩ := Machine.exists_of_forall₂ hss hmem
    obtain ⟨env, rfl⟩ := eq_create_of_matches hmatch
    exact hmid env hl
  rcases Transition.step_cases hstep' with ⟨-, -, hl⟩ | ⟨n', t', hl, -, -, hq, -⟩ |
    ⟨_, _, hl, -⟩ | ⟨_, _, hl, -⟩ | ⟨hl, -⟩ | ⟨_, _, _, hl, -⟩
  · rcases hl with ⟨n', t', hl, -, hn'⟩ | hl <;> cases hl
    exact absurd hn' hn
  · cases hl
    replace hq : q.transition = { pm.transition with request := .checked n pm.powerState } := hq
    have hreq : q.transition.request = .checked n pm.powerState := by rw [hq]
    have hslot' : ∀ p t, q.transition.slot ≠ .pending p t := by rw [hq]; exact hslot
    obtain ⟨hpm', -⟩ := Transition.run_of_checked hreq hslot' hcreate hrun'
    replace hpm' : pm'.transition = q.transition := hpm'
    exact ⟨hI'.1, (congrArg Transition.slot (hpm'.trans hq) :),
      (congrArg Transition.request (hpm'.trans hq) :), hids⟩
  all_goals cases hl

/-- If nothing is outstanding, a request for another state than the current one that does not fall
into the transient window starts a transition, unless the last change of the power state that was
tried was to the same state and failed: then it is swallowed. -/
theorem setPowerState_starts_iff {n : PowerState} {ds : DeepSleepStatus} {mid : List Label}
    {env : Environment} (hrun : implementation.Run (initial pc tid cid) ls os pm)
    (hout : ¬pm.Outstanding) (hne : n ≠ pm.powerState)
    (hds : pm.powerState = .standbyDeepSleep → ds.transient = false)
    (hmid : ∀ env, .create env ∉ mid)
    (hcall : implementation.Run pm (.request n ds :: mid ++ [.create env]) es pm') :
    StartsTransition os n es pm' ↔
      Transition.lastSettled (effects os) ≠ some (n, false) := by
  obtain ⟨hI, hR⟩ := run_initial hrun
  obtain ⟨q, es₁, es₂, rfl, hmid', hstep⟩ := hcall.snoc_inv
  obtain ⟨hq, hslot, hreq, hids, hnext⟩ :=
    run_of_checked hI hout (by simpa [hne] using hds) hmid hmid'
  -- the controller holds the target exactly if the transition to it was the last one, and failed
  have hfailed : q.modeChangeController.map (·.powerState) = some n ↔
      Transition.lastSettled (effects os) = some (n, false) := by
    rw [← target?_slot hq, hslot]
    exact hR.target?_eq_some_iff (fun p t hp => hout ((outstanding_iff hI.1).mpr ⟨p, t, hp⟩)) hne
  cases step_cases hq hstep with
  | @dropped env n' s b hcall' hsame =>
    obtain ⟨rfl, rfl⟩ : n' = n ∧ s = pm.powerState := by simpa [request, hcall'] using hreq
    refine iff_of_false ?_ (not_not.mpr (hfailed.mp hsame))
    -- the request is dropped as redundant, and announces nothing
    rintro ⟨c, s', t, -, -, hmem, -⟩
    have hid : c.transactionId ∈ transactionIds (es₁ ++ [.selfUnlock, .returned .errorNone]) :=
      List.mem_filterMap.mpr ⟨_, hmem, rfl⟩
    rw [transactionIds_append, hids] at hid
    cases hid
  | @installed env n' s b cancelled hcall' hother hcancel =>
    obtain ⟨rfl, rfl⟩ : n' = n ∧ s = pm.powerState := by simpa [request, hcall'] using hreq
    refine iff_of_true ⟨_, pm.powerState, if b then 0 else powerModePrechangeTimeoutSec, rfl, rfl,
      by simp [AckController.create], fun hid => ?_⟩ fun h => hother (hfailed.mpr h)
    -- the new id is above all that have been announced
    have hle : q.nextTransactionId + 1 ≤ pm.nextTransactionId :=
      transactionIds_le (inv_initial pc tid cid) hrun _ hid
    omega
  | waited hop => cases hop
  | fired hop => cases hop
  | other hl => cases hl

/-- After a request that failed, a request for another state starts a transition. -/
theorem setPowerState_starts_after_failure :
    ∃ ls os pm es pm', implementation.Run (initial .isOn 0 0) ls os pm ∧
      Transition.lastSettled (effects os) = some (.standby, false) ∧
      implementation.Run pm [.request .off .awake, .create .accepts] es pm' ∧
      StartsTransition os .off es pm' := by
  have hrun : implementation.Run (initial .isOn 0 0)
      [.request .standby .awake, .create .accepts, .schedule .refuses] _ _ :=
    Machine.run_of_exec rfl
  refine ⟨_, _, _, _, _, hrun, rfl, Machine.run_of_exec rfl, ?_⟩
  refine (@setPowerState_starts_iff _ _ _ _ _ _ _ _ .off .awake [] .accepts hrun ?_ ?_ ?_ (by simp)
    (Machine.run_of_exec rfl)).mpr ?_
  all_goals decide

/-- After a request that failed, the same request is swallowed. -/
theorem setPowerState_retry_swallowed :
    ∃ ls os pm es pm', implementation.Run (initial .isOn 0 0) ls os pm ∧ ¬pm.Outstanding ∧
      .standby ≠ pm.powerState ∧ pm.powerState ≠ .standbyDeepSleep ∧
      implementation.Run pm [.request .standby .awake, .create .accepts] es pm' ∧
      ¬StartsTransition os .standby es pm' := by
  refine ⟨[.request .standby .awake, .create .accepts, .schedule .refuses], _, _, _, _,
    Machine.run_of_exec rfl, ?_, ?_, ?_, Machine.run_of_exec rfl, ?_⟩
  · decide
  · decide
  · decide
  · rintro ⟨c, s, t, -, -, hmem, -⟩
    simp at hmem

/-! ## The last request -/

/-- If the platform accepts every state, the last request decides where the device ends up, unless
it was for the state the device was still in while a transition was under way: then it is dropped,
and that transition goes on. -/
theorem last_request_wins_iff {n : PowerState} {ds : DeepSleepStatus} {post : List Label}
    (hpre : implementation.Run (initial pc tid cid) ls os pm)
    (hpost : implementation.Run pm (.request n ds :: post) es pm')
    (hlast : ∀ n' ds', .request n' ds' ∉ post)
    (hds : pm.powerState = .standbyDeepSleep → ds.transient = false)
    (hok : ∀ e ∈ os ++ es, e.isFailure = false) (hidle : pm'.call = .idle)
    (hout : ¬pm'.Outstanding) :
    pm'.powerState = n ↔ ¬(pm.powerState = n ∧ pm.Outstanding) := by
  obtain ⟨hI, hR⟩ := run_initial hpre
  obtain ⟨hI', ss, hss, hrun⟩ := refinement.run hI hpost
  obtain ⟨_, ss, rfl, hss', rfl⟩ := List.forall₂_cons_left_iff.mp hss
  -- no transition fails, and no other request comes after this one
  have hes : ∀ t r, .settled t r ∈ effects os ++ effects es → r = true := by
    intro t r hmem
    rw [← effects_append] at hmem
    obtain ⟨e, he, hr⟩ := List.mem_filterMap.mp hmem
    have hsucc := hok e he
    cases e <;> cases hr
    simpa [Event.isFailure] using hsucc
  have hss : ∀ n t, .request n t ∉ ss := by
    intro n t hmem
    obtain ⟨l, hl, hmatch⟩ := Machine.exists_of_forall₂ hss' hmem
    obtain ⟨ds', rfl⟩ := eq_request_of_matches hmatch
    exact hlast n ds' hl
  have hslot : ∀ p t, pm'.slot ≠ .pending p t := fun p t hp =>
    hout ((outstanding_iff hI'.1).mpr ⟨p, t, hp⟩)
  rw [outstanding_iff hI.1]
  have hreq : pm'.request = .idle := by simp [request, hidle]
  exact Transition.last_request hI.2 hR hds hes hss hrun hreq hslot

/-- The last request wins over a transition that waits for a client. -/
theorem last_request_wins_over_pending :
    ∃ pre os pm es pm', implementation.Run (initial .isOn 0 0) pre os pm ∧
      implementation.Run pm [.request .off .awake, .create .accepts, .schedule .accepts,
        .timer .accepts] es pm' ∧
      pm'.powerState = .off := by
  have hpre : implementation.Run (initial .isOn 0 0) [.addPowerModePreChangeClient "client",
      .request .standby .awake, .create .accepts, .schedule .accepts] _ _ :=
    Machine.run_of_exec rfl
  refine ⟨_, _, _, _, _, hpre, Machine.run_of_exec rfl, ?_⟩
  refine (@last_request_wins_iff _ _ _ _ _ _ _ _ .off .awake
    [.create .accepts, .schedule .accepts, .timer .accepts] hpre (Machine.run_of_exec rfl)
    (by simp) ?_ ?_ rfl ?_).mpr ?_
  all_goals decide

/-- A request for the state the device is still in is overridden by the older transition, although
every call has run up to `Schedule` before the next one begins. -/
theorem last_request_overridden :
    ∃ pre os pm es pm', implementation.Run (initial .isOn 0 0) pre os pm ∧
      implementation.Run pm [.request .on .awake, .timer .accepts] es pm' ∧
      (∀ e ∈ os ++ es, e.isFailure = false) ∧ pm'.call = .idle ∧ ¬pm'.Outstanding ∧
      pm'.powerState ≠ .on := by
  refine ⟨[.addPowerModePreChangeClient "client",
      .request .standby .awake, .create .accepts, .schedule .accepts], _, _, _, _,
    Machine.run_of_exec rfl, Machine.run_of_exec rfl, ?_, rfl, ?_, ?_⟩
  all_goals decide

/-! ## The chain of changes -/

/-- A request that goes on to install a transition has read the state that is current then. -/
def ReadIsCurrent (pm : Implementation) (l : Label) : Prop :=
  match l, pm.call with
  | .create _, .checked newState currState _ =>
    pm.modeChangeController.map (·.powerState) = some newState ∨ currState = pm.powerState
  | _, _ => True

instance (pm : Implementation) (l : Label) : Decidable (ReadIsCurrent pm l) := by
  unfold ReadIsCurrent
  split <;> infer_instance

/-- The condition, abstractly. -/
theorem current_of_readIsCurrent {s : Transition.Step} (hI : pm.Inv) (hl : ReadIsCurrent pm l)
    (hs : l.Matches s) : pm.transition.Current s := by
  rintro n c rfl hreq htarget
  obtain ⟨env, rfl⟩ := eq_create_of_matches hs
  cases hcall : pm.call with
  | checked n' s b =>
    obtain ⟨rfl, rfl⟩ : n' = n ∧ s = c := by simpa [transition, request, hcall] using hreq
    simp only [ReadIsCurrent, hcall] at hl
    exact hl.resolve_left fun h => htarget ((target?_slot hI).trans h)
  | _ => simp [transition, request, hcall] at hreq

open Transition in
/-- The changes announced so far lead to the current state, and the transition under way is going to
announce a change from there. -/
structure Chained (s : PowerState) (os : List Event) (pm : Implementation) : Prop where
  inv : refinement.Inv pm
  aligned : pm.transition.Aligned
  path : Path s (changes (effects os)) pm.powerState

/-- A step that goes on with the current state keeps the chain. -/
theorem chained_step {s : PowerState} (hP : Chained s os pm) (hl : ReadIsCurrent pm l)
    (h : implementation.step pm l = some (pm', es)) : Chained s (os ++ es) pm' := by
  obtain ⟨st, hmatch, hs⟩ := step_refines hP.inv.1 h
  refine ⟨refinement.inv_step hP.inv h,
    Transition.aligned_step hP.aligned (current_of_readIsCurrent hP.inv.1 hl hmatch) hs, ?_⟩
  rw [effects_append, Transition.changes_append]
  rcases Transition.changes_step hP.inv.2 hP.aligned hs with ⟨hnone, hsame⟩ | ⟨hone, hne, -⟩
  · replace hsame : pm'.powerState = pm.powerState := hsame
    rw [hnone, List.append_nil, hsame]
    exact hP.path
  · rw [hone]
    exact hP.path.snoc hne

open Transition in
/-- If every transition is installed with the current state, the changes announced form a chain of
proper changes from the state after initialisation to the current one, and after each of them
`GetPowerState` reports it. -/
theorem modeChanged_chain (h : implementation.Run (initial pc tid cid) ls os pm)
    (hC : implementation.Along ReadIsCurrent (initial pc tid cid) ls) :
    Path pc.settings.powerState (changes (effects os)) pm.powerState ∧
      ∀ l es pm', implementation.step pm l = some (pm', es) →
        ∀ p n, .modeChanged p n ∈ es → pm'.powerController.getPowerState = (n, p) := by
  have hP : Chained pc.settings.powerState os pm := by
    induction h with
    | nil => exact ⟨refinement_initial pc tid cid, fun p t hp => (by cases hp), rfl⟩
    | snoc hrun hstep ih => exact chained_step (ih hC.left) (hC.last hrun) hstep
  refine ⟨hP.path, fun l es pm' hstep p n hmem => ?_⟩
  obtain ⟨s, -, hs⟩ := step_refines hP.inv.1 hstep
  have hchange : (p, n) ∈ changes (effects es) :=
    List.mem_filterMap.mpr ⟨.changed p n, List.mem_filterMap.mpr ⟨_, hmem, rfl⟩, rfl⟩
  rcases changes_step hP.inv.2 hP.aligned hs with ⟨hnone, -⟩ | ⟨hone, -, hlast⟩
  · simp [hnone] at hchange
  · rw [hone, List.mem_singleton, Prod.mk.injEq] at hchange
    obtain ⟨rfl, rfl⟩ := hchange
    exact Prod.ext rfl hlast

open Transition in
/-- Two requests, the second of which reads the state after the first has been completed. -/
theorem modeChanged_chain_of_two :
    ∃ ls os pm, implementation.Run (initial .isOn 0 0) ls os pm ∧
      changes (effects os) = [(.on, .standby), (.standby, .off)] ∧
      Path .on (changes (effects os)) pm.powerState := by
  refine ⟨[.request .standby .awake, .create .accepts, .schedule .accepts,
    .request .off .awake, .create .accepts, .schedule .accepts], _, _, Machine.run_of_exec rfl,
    rfl, ?_⟩
  refine (@modeChanged_chain _ _ [.request .standby .awake, .create .accepts, .schedule .accepts,
    .request .off .awake, .create .accepts, .schedule .accepts] .isOn 0 0
    (Machine.run_of_exec rfl) (Machine.along_of_check ?_)).1
  decide

open Transition in
/-- The second request reads the state, then the first one times out: both announce a change from
the state at the beginning. -/
theorem modeChanged_chain_broken :
    ∃ ls os pm, implementation.Run (initial .isOn 0 0) ls os pm ∧
      changes (effects os) = [(.on, .standby), (.on, .off)] ∧
      ¬Path .on (changes (effects os)) pm.powerState := by
  refine ⟨[.addPowerModePreChangeClient "client", .request .standby .awake, .create .accepts,
    .schedule .accepts, .request .off .awake, .timer .accepts, .create .accepts,
    .schedule .accepts, .timer .accepts], _, _, Machine.run_of_exec rfl, rfl, ?_⟩
  decide

end Implementation

end PowerManager
