import PowerManager.Implementation.Steps
import PowerManager.Transition

/-!
# The implementation refines the abstract transitions

`Implementation.transition` reads the abstract state off an implementation: the controller that
is running, or that the current `SetPowerState` call has just installed, is the pending
transition; any other controller is left over from a transition that has settled.

Under `Implementation.Inv` every step of the implementation is a step of the abstract machine
with the same effects (`step_refines`): `refinement` is a refinement, so that what holds of every
abstract run holds of every run of the implementation.
-/

namespace PowerManager

/-- The effect of an event, if it has one. -/
def Event.effect? : Event → Option Effect
  | .deactivate => some .deactivate
  | .applied newState errorCode => some (.settled newState (decide (errorCode = .errorNone)))
  | .modeChanged prevState newState => some (.changed prevState newState)
  | .activate _ _ => some .activate
  | _ => none

/-- The effects of a list of events. -/
def effects (es : List Event) : List Effect :=
  es.filterMap Event.effect?

@[simp]
theorem effects_nil : effects [] = [] := rfl

@[simp]
theorem effects_append (es es' : List Event) : effects (es ++ es') = effects es ++ effects es' := by
  simp [effects]

@[simp]
theorem effects_cons (e : Event) (es : List Event) :
    effects (e :: es) = e.effect?.toList ++ effects es := by
  cases h : e.effect? <;> simp [effects, h]

@[simp]
theorem effects_map_save (l : List Settings) : effects (l.map .save) = [] := by
  simp [effects, Event.effect?]

/-- The abstract steps that a step of the implementation may amount to. -/
def Label.Matches : Label → Transition.Step → Prop
  | .request newState ds, s => s = .request newState ds.transient
  | .create _, s => s = .create
  | .schedule _, s => s = .wait ∨ ∃ reached, s = .settle reached
  | _, s => s = .skip ∨ ∃ reached, s = .settle reached

namespace Implementation

/-- The transition of a controller that has been scheduled. -/
def controllerSlot (c : AckController CompletionHandler) : Slot :=
  match c.running, c.handler with
  | true, some h => .pending h.currState h.newState
  | _, _ => .settled c.powerState

/-- The transition in the slot, seen from the implementation. -/
def slot (pm : Implementation) : Slot :=
  match pm.call, pm.modeChangeController with
  | .created newState currState _ _, some _ => .pending currState newState
  | _, c => c.elim .empty controllerSlot

/-- The `SetPowerState` call under way, seen abstractly. -/
def request (pm : Implementation) : Request :=
  match pm.call with
  | .idle => .idle
  | .checked newState currState _ => .checked newState currState
  | .created .. => .installed

/-- The abstract state of an implementation. -/
def transition (pm : Implementation) : Transition where
  powerState := pm.powerState
  lastPowerState := pm.powerController.lastKnownPowerState
  slot := pm.slot
  request := pm.request

variable {pm pm' : Implementation} {es : List Event} {l : Label}

/-! ## The slot -/

theorem slot_of_created {c : AckController CompletionHandler} {n s : PowerState} {b : Bool}
    {t : UInt32} (hc : pm.modeChangeController = some c) (hcall : pm.call = .created n s b t) :
    pm.slot = .pending s n := by
  simp [slot, hc, hcall]

theorem slot_of_not_created (hcall : ∀ n s b t, pm.call ≠ .created n s b t) :
    pm.slot = pm.modeChangeController.elim .empty controllerSlot := by
  unfold slot
  split
  · rename_i h _
    exact absurd h (hcall _ _ _ _)
  · rfl

theorem slot_of_stopped {c : AckController CompletionHandler} (hc : pm.modeChangeController = some c)
    (hcall : ∀ n s b t, pm.call ≠ .created n s b t) (hrun : c.running = false) :
    pm.slot = .settled c.powerState := by
  simp [slot_of_not_created hcall, hc, controllerSlot, hrun]

theorem slot_of_running {c : AckController CompletionHandler} {h : CompletionHandler}
    (hI : pm.Inv) (hc : pm.modeChangeController = some c) (hrun : c.running = true)
    (hh : c.handler = some h) : pm.slot = .pending h.currState h.newState := by
  simp [slot_of_not_created (hI.not_created hc hrun), hc, controllerSlot, hrun, hh]

/-- The target in the slot is the target of the controller. -/
theorem target?_slot (hI : pm.Inv) :
    pm.slot.target? = pm.modeChangeController.map (·.powerState) := by
  cases hc : pm.modeChangeController with
  | none => cases hcall : pm.call <;> simp [slot, hc, hcall, Slot.target?]
  | some c =>
    by_cases hcreated : ∃ n s b t, pm.call = .created n s b t
    · obtain ⟨n, s, b, t, hcall⟩ := hcreated
      obtain ⟨⟨c', hc', -, htarget⟩, -⟩ := hI.created n s b t hcall
      obtain rfl : c = c' := Option.some.inj (hc.symm.trans hc')
      simp [slot_of_created hc hcall, Slot.target?, htarget]
    · simp only [not_exists] at hcreated
      cases hrun : c.running with
      | false => simp [slot_of_stopped hc hcreated hrun, Slot.target?]
      | true =>
        obtain ⟨h, hh⟩ := (hI.wellFormed c hc).exists_handler hrun
        simp [slot_of_running hI hc hrun hh, Slot.target?, (hI.handler c h hc hrun hh).1]

/-- A completion handler is outstanding exactly while a transition is in the slot. -/
theorem outstanding_iff (hI : pm.Inv) : pm.Outstanding ↔ ∃ p t, pm.slot = .pending p t := by
  constructor
  · rintro (⟨c, hc, hrun⟩ | ⟨n, s, b, t, hcall⟩)
    · obtain ⟨h, hh⟩ := (hI.wellFormed c hc).exists_handler hrun
      exact ⟨_, _, slot_of_running hI hc hrun hh⟩
    · obtain ⟨⟨c, hc, -⟩, -⟩ := hI.created n s b t hcall
      exact ⟨_, _, slot_of_created hc hcall⟩
  · rintro ⟨p, t, hslot⟩
    by_cases hcreated : ∃ n s b t, pm.call = .created n s b t
    · exact .inr hcreated
    · simp only [not_exists] at hcreated
      rw [slot_of_not_created hcreated] at hslot
      cases hc : pm.modeChangeController with
      | none => simp [hc] at hslot
      | some c =>
        refine .inl ⟨c, hc, ?_⟩
        by_contra hrun
        simp [hc, controllerSlot, hrun] at hslot

/-! ## Completion handlers -/

/-- `setDevicePowerState` settles the transition from `prevState` to `newState`, and changes
only the power controller. -/
theorem setDevicePowerState_spec (pm : Implementation) (env : Environment)
    (prevState newState : PowerState) :
    ∃ pc reached,
      (pm.setDevicePowerState env prevState newState).1 = { pm with powerController := pc } ∧
      effects (pm.setDevicePowerState env prevState newState).2 =
        (pm.transition.settle prevState newState reached).2 ∧
      pc.settings.powerState =
        (pm.transition.settle prevState newState reached).1.powerState ∧
      pc.lastKnownPowerState =
        (pm.transition.settle prevState newState reached).1.lastPowerState := by
  have hcases := pm.powerController.setPowerState_cases env newState
  unfold setDevicePowerState
  generalize pm.powerController.setPowerState env newState = r at hcases ⊢
  obtain ⟨e, pc, saved⟩ := r
  rcases hcases with ⟨hok, hstate, hlast⟩ | ⟨hfail, hsame⟩
  · refine ⟨pc, true, ?_, ?_, hstate, hlast⟩
    · by_cases hdeep : newState = .standbyDeepSleep <;> simp_all
    · by_cases hdeep : newState = .standbyDeepSleep <;>
        simp_all [Event.effect?, Transition.settle]
  · refine ⟨pm.powerController, false, ?_, ?_, rfl, rfl⟩
    · simp_all
    · simp_all [Event.effect?, Transition.settle]

/-- A completion handler that is not revoked settles its transition: besides `selfLock`, which a
synchronous one releases, it changes only the power controller. -/
theorem completionHandler_spec (pm : Implementation) (env : Environment) (h : CompletionHandler)
    (isTimedout : Bool) :
    ∃ pc reached,
      (pm.completionHandler env ⟨h, isTimedout, false⟩).1 =
        { pm with powerController := pc, selfLock := pm.selfLock || h.isSync } ∧
      effects (pm.completionHandler env ⟨h, isTimedout, false⟩).2 =
        (pm.transition.settle h.currState h.newState reached).2 ∧
      pc.settings.powerState =
        (pm.transition.settle h.currState h.newState reached).1.powerState ∧
      pc.lastKnownPowerState =
        (pm.transition.settle h.currState h.newState reached).1.lastPowerState := by
  obtain ⟨pc, reached, hpm, heff, hstate, hlast⟩ :=
    pm.setDevicePowerState_spec env h.currState h.newState
  refine ⟨pc, reached, ?_, ?_, hstate, hlast⟩
  · cases hs : h.isSync <;> simp [completionHandler, hpm, hs, selfUnlock]
  · cases hs : h.isSync <;> simp [completionHandler, heff, hs, Event.effect?]

/-! ## Steps -/

/-- An implementation whose controller is over is in the state in which the pending transition
has settled. -/
theorem settle_step (pm' : Implementation) {c : AckController CompletionHandler} {p t : PowerState}
    {reached : Bool} (hslot : pm.slot = .pending p t)
    (hstate : pm'.powerState = (pm.transition.settle p t reached).1.powerState)
    (hlast : pm'.powerController.lastKnownPowerState =
      (pm.transition.settle p t reached).1.lastPowerState)
    (hc : pm'.modeChangeController = some c) (hrun : c.running = false) (htarget : c.powerState = t)
    (hcall : pm'.call = if pm.request = .installed then .idle else pm.call) :
    PowerManager.transition.step pm.transition (.settle reached) =
      some (pm'.transition, (pm.transition.settle p t reached).2) := by
  have hnot : ∀ n s b o, pm'.call ≠ .created n s b o := by
    intro n s b o h
    rw [hcall] at h
    split at h
    · cases h
    · rename_i hinst
      simp [request, h] at hinst
  have hslot' : pm'.slot = .settled t := htarget ▸ slot_of_stopped hc hnot hrun
  have hreq : pm'.request = if pm.request = .installed then .idle else pm.request := by
    cases hcall' : pm.call <;> simp_all [request]
  have hpm' : pm'.transition = (pm.transition.settle p t reached).1 := by
    cases reached <;> simp_all [transition, Transition.settle]
  simp [PowerManager.transition, hpm', show pm.transition.slot = .pending p t from hslot]

/-- Answers have no effect. -/
theorem effects_of_isAnswer (h : ∀ e ∈ es, e.isAnswer = true) : effects es = [] := by
  refine filterMap_of_isAnswer ?_ h
  intro e he
  cases e <;> first | rfl | cases he

/-- A step of another operation, if it settles nothing, is no abstract step. -/
theorem matches_skip (hl : l.isSetPowerState = false) : l.Matches .skip := by
  cases l <;> first | exact .inl rfl | cases hl

/-- An operation on the controller may be no abstract step, and may settle its transition. -/
theorem matches_of_op? {op : AckController.Op} (h : pm.op? l = some op) :
    l.Matches .skip ∧ ∀ reached, l.Matches (.settle reached) := by
  cases l <;> first | exact ⟨.inl rfl, fun reached => .inr ⟨reached, rfl⟩⟩ | cases h

/-- Only the first section of `SetPowerState` is an abstract request. -/
theorem eq_request_of_matches {n : PowerState} {transient : Bool}
    (h : l.Matches (.request n transient)) : ∃ ds, l = .request n ds := by
  cases l with
  | request n' ds =>
    cases h
    exact ⟨ds, rfl⟩
  | create env => cases h
  | _ => rcases h with h | ⟨_, h⟩ <;> cases h

/-- Only the second section of `SetPowerState` creates a controller. -/
theorem eq_create_of_matches (h : l.Matches .create) : ∃ env, l = .create env := by
  cases l with
  | request n' ds => cases h
  | create env => exact ⟨env, rfl⟩
  | _ => rcases h with h | ⟨_, h⟩ <;> cases h

/-- Every step of the implementation is a step of the abstract machine with the same effects. -/
theorem step_refines (hI : pm.Inv) (h : implementation.step pm l = some (pm', es)) :
    ∃ s, l.Matches s ∧
      PowerManager.transition.step pm.transition s = some (pm'.transition, effects es) := by
  have hstate : pm.transition.powerState = pm.powerState := rfl
  cases step_cases hI h with
  | @ignored n ds hcall hn =>
    have hreq : pm.transition.request = .idle := by simp [transition, request, hcall]
    exact ⟨_, rfl, by simp [PowerManager.transition, hreq, hstate, hn, effects_nil, Event.effect?]⟩
  | @checked n ds hcall hn =>
    have hreq : pm.transition.request = .idle := by simp [transition, request, hcall]
    have hslot : slot { pm with
        selfLock := false
        call := .checked n pm.powerState (isSyncStateChange pm.powerState n) } = pm.slot := by
      rw [slot_of_not_created, slot_of_not_created] <;> simp [hcall]
    refine ⟨_, rfl, ?_⟩
    simp only [PowerManager.transition, hreq, hstate, hn, ne_eq, not_true_eq_false, ↓reduceIte]
    by_cases hdeep : pm.powerState = .standbyDeepSleep <;>
      simp_all [transition, request, powerState, Event.effect?]
  | @dropped env n s b hcall hsame =>
    have hreq : pm.transition.request = .checked n s := by simp [transition, request, hcall]
    have hslot : slot { pm with selfLock := true, call := .idle } = pm.slot := by
      rw [slot_of_not_created, slot_of_not_created] <;> simp [hcall]
    have htarget : pm.transition.slot.target? = some n := (target?_slot hI).trans hsame
    refine ⟨_, rfl, ?_⟩
    simp only [PowerManager.transition, hreq, htarget, ↓reduceIte]
    simp [transition, hslot, request, powerState, Event.effect?]
  | @installed env n s b cancelled hcall hother hcancel =>
    have hreq : pm.transition.request = .checked n s := by simp [transition, request, hcall]
    have htarget : pm.transition.slot.target? ≠ some n := by
      rw [show pm.transition.slot.target? = _ from target?_slot hI]
      exact hother
    -- the handler of a cancelled transition is called, but changes nothing
    have heff : effects cancelled = [] := by
      rcases hcancel with ⟨rfl, -⟩ | ⟨c, h, -, -, -, rfl⟩ <;> rfl
    refine ⟨_, rfl, ?_⟩
    simp only [PowerManager.transition, hreq, htarget, ↓reduceIte]
    simp [transition, slot, request, powerState, heff, Event.effect?]
  | @scheduled env n s t c timeout hcall hc hwait =>
    refine ⟨.wait, .inl rfl, ?_⟩
    simp [PowerManager.transition, transition, request, hcall, hc, powerState, slot,
      controllerSlot, Event.effect?]
  | @completed env n s b t c hcall hc hwait =>
    obtain ⟨⟨c', hc', hrun, htarget⟩, -⟩ := hI.created n s b t hcall
    obtain rfl : c = c' := Option.some.inj (hc.symm.trans hc')
    -- nobody is waited for, and the call settles the transition that it has created
    obtain ⟨pc, reached, hpm, heff, hpower, hlast⟩ :=
      completionHandler_spec pm env ⟨s, n, b⟩ false
    refine ⟨.settle reached, .inr ⟨reached, rfl⟩, ?_⟩
    have hanswer : effects (if b then [.returned .errorNone]
        else [.selfUnlock, .returned .errorNone]) = [] := by
      cases b <;> rfl
    rw [effects_append, hanswer, List.append_nil, heff, hpm]
    exact settle_step _ (slot_of_created hc hcall) hpower hlast hc hrun htarget
      (by simp [request, hcall])
  | @waited l op c c' clients answer hop hc happ hrun hh hempty hanswer hclients =>
    obtain ⟨htarget, -, -⟩ := AckController.applyOp_frame happ
    -- who is waited for is not part of the abstract state
    have hslot : slot { pm with modeChangeController := some c', modeChangeClients := clients } =
        pm.slot := by
      cases hcall : pm.call with
      | created n s b t => simp [slot, hc, hcall]
      | _ => cases hrun' : c.running <;> simp_all [slot, controllerSlot]
    refine ⟨.skip, (matches_of_op? hop).1, ?_⟩
    rw [effects_of_isAnswer hanswer]
    simp only [PowerManager.transition, transition, hslot]
    rfl
  | @fired l env op c c' hdl isTimedout clients answer hop hc happ hrun hh hrun' hwhy hanswer
      hclients =>
    obtain ⟨hnew, -⟩ := hI.handler c hdl hc hrun hh
    obtain ⟨htarget, -, -⟩ := AckController.applyOp_frame happ
    obtain ⟨pc, reached, hpm, heff, hpower, hlast⟩ := completionHandler_spec
      { pm with modeChangeController := some c', modeChangeClients := clients } env hdl isTimedout
    -- the transition that runs is an earlier one than that of the call in between, if there is one
    have hnot : pm.request ≠ .installed := by
      cases hcall : pm.call with
      | created n s b t => exact absurd hcall (hI.not_created hc hrun n s b t)
      | _ => simp [request, hcall]
    refine ⟨.settle reached, (matches_of_op? hop).2 reached, ?_⟩
    rw [effects_append, effects_of_isAnswer hanswer, List.append_nil, heff, hpm]
    refine (settle_step { pm with
      powerController := pc
      modeChangeController := some c'
      modeChangeClients := clients
      selfLock := pm.selfLock || hdl.isSync } (slot_of_running hI hc hrun hh) ?_ ?_ rfl hrun'
      (htarget.trans hnew.symm) (if_neg hnot).symm).trans ?_
    · exact hpower.trans (by cases reached <;> rfl)
    · exact hlast.trans (by cases reached <;> rfl)
    · cases reached <;> rfl
  | other hl hop hanswer hclients =>
    refine ⟨.skip, matches_skip hl, ?_⟩
    rw [effects_of_isAnswer hanswer]
    rfl

/-- The implementation refines the abstract machine. -/
def refinement : Machine.Refinement implementation PowerManager.transition where
  Inv pm := pm.Inv ∧ pm.transition.Inv
  abs := transition
  out := Event.effect?
  Matches := Label.Matches
  inv_step hI h := by
    obtain ⟨s, -, hstep⟩ := step_refines hI.1 h
    exact ⟨inv_step hI.1 h, Transition.inv_step hI.2 hstep⟩
  step hI h := step_refines hI.1 h

/-- The invariants hold after construction. -/
theorem refinement_initial (pc : PowerController) (transactionId : ℤ) (clientId : UInt32) :
    refinement.Inv (initial pc transactionId clientId) :=
  ⟨inv_initial _ _ _, Transition.inv_initial _ _⟩

end Implementation

end PowerManager
