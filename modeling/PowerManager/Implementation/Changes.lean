import PowerManager.Implementation.Steps
import PowerManager.Notifications
import PowerManager.PowerController.Storage

/-!
# Steps that change the power state

`modeChanged_iff` says which steps announce a change of the power state: those that complete a
transition whose target is accepted. `preChange_cases` says which steps submit a pre-change
notification: those that start a transition.
-/

namespace PowerManager

/-! ## Completion -/

section Completes

variable {H : Type*} {c c' : AckController H} {op : AckController.Op} {calls : List (HandlerCall H)}

/-- The operation completes the transition: it takes the last client that is waited for, or it is
the dispatch of the timer. -/
def AckController.completes (c : AckController H) : AckController.Op → Bool
  | .ack clientId transactionId =>
    c.running && decide (transactionId = c.transactionId ∧ c.pending = {clientId})
  | .ackClient clientId => c.running && decide (c.pending = {clientId})
  | .dispatchTimer => c.running
  | .ackAwait _ | .reschedule _ _ _ _ => false

/-- An operation calls the handler if it completes the transition. -/
theorem AckController.applyOp_calls (hw : c.WellFormed) (h : c.applyOp op = some (c', calls)) :
    calls ≠ [] ↔ c.completes op = true := by
  have hack : ∀ id t, some (c.ack id t).2 = some (c', calls) →
      (calls ≠ [] ↔ (c.running && decide (t = c.transactionId ∧ c.pending = {id})) = true) := by
    intro id t h
    rcases c.ack_cases id t with ⟨hno, he⟩ | ⟨⟨rfl, hmem⟩, ⟨hlast, hrun⟩, he⟩ |
      ⟨⟨rfl, hmem⟩, hlast, he⟩ <;> rw [he] at h <;> cases h
    · rcases hno with htid | hmem
      · simp [htid]
      · have hpending : c.pending ≠ {id} := fun h => hmem (by simp [h])
        simp [hpending]
    · obtain ⟨hdl, hh⟩ := hw.exists_handler hrun
      -- the client is the last one that is waited for
      have hpending : c.pending = {id} := by
        rcases Finset.erase_eq_empty_iff _ _ |>.mp hlast with hempty | hone
        · simp [hempty] at hmem
        · exact hone
      simp [callHandler, hh, hrun, hpending]
    · -- another client is waited for, or nobody waits any more
      have hno : ¬(c.pending = {id} ∧ c.running = true) := by
        rintro ⟨hone, hrun⟩
        exact hlast ⟨by simp [hone], hrun⟩
      simpa [and_comm] using hno
  cases op with
  | ackAwait id =>
    cases h
    simp [completes]
  | ack id t => exact hack id t h
  | ackClient id => simpa [completes] using hack id c.transactionId h
  | reschedule id t offset now =>
    cases h
    simp [completes]
  | dispatchTimer =>
    simp only [applyOp] at h
    split at h
    · rename_i hsch
      obtain ⟨hdl, hrun, -, he⟩ := hw.dispatchTimer_eq hsch
      rw [he] at h
      cases h
      simp [completes, hrun]
    · cases h

end Completes

/-- The environment of the completion handler, if the step may run it. -/
def Label.env? : Label → Option Environment
  | .create env | .schedule env | .powerModePreChangeComplete _ _ env
  | .removePowerModePreChangeClient _ env | .timer env => some env
  | .request _ _ | .delayPowerModeChangeBy _ _ _ _ | .addPowerModePreChangeClient _ => none

namespace Implementation

open Stored (Accepted)

/-- The step completes the transition: `Schedule` has nobody to wait for, or another operation ends
the wait. -/
def completes (pm : Implementation) (l : Label) : Bool :=
  match pm.modeChangeController with
  | none => false
  | some c =>
    match l, pm.call with
    | .schedule _, .created _ _ isSync _ => isSync || decide (c.pending = ∅)
    | l, _ => (pm.op? l).elim false c.completes

/-- The step completes the transition, and neither the override file nor the platform refuses its
target. -/
def Changes (pm : Implementation) (l : Label) : Prop :=
  pm.completes l = true ∧
    ∃ env ∈ l.env?, ∃ c ∈ pm.modeChangeController, Accepted env c.powerState

instance (pm : Implementation) (l : Label) : Decidable (pm.Changes l) :=
  inferInstanceAs (Decidable (_ ∧ ∃ env ∈ _, ∃ c ∈ _, _))

variable {pm pm' : Implementation} {l : Label} {es : List Event} {p n : PowerState}

/-- The completion handler announces the change if the power controller has made it. -/
theorem mem_setDevicePowerState (env : Environment) (prevState newState : PowerState) :
    .modeChanged p n ∈ (pm.setDevicePowerState env prevState newState).2 ↔
      p = prevState ∧ n = newState ∧ Accepted env newState := by
  have hok := pm.powerController.setPowerState_eq_errorNone_iff env newState
  simp only [setDevicePowerState]
  by_cases hcode : (pm.powerController.setPowerState env newState).1 = .errorNone
  · have haccepted : Accepted env newState := hok.mp hcode
    rw [if_neg (not_not.mpr hcode)]
    split <;> simp [haccepted]
  · have hrefused : ¬Accepted env newState := fun h => hcode (hok.mpr h)
    rw [if_pos hcode]
    simp [hrefused]

theorem mem_completionHandler (env : Environment) (h : CompletionHandler) (isTimedout : Bool) :
    .modeChanged p n ∈ (pm.completionHandler env ⟨h, isTimedout, false⟩).2 ↔
      p = h.currState ∧ n = h.newState ∧ Accepted env h.newState := by
  rw [← @mem_setDevicePowerState pm]
  cases hs : h.isSync <;> simp [completionHandler, hs]

/-- An operation on the controller completes the transition if the controller says so. -/
theorem completes_of_op {c : AckController CompletionHandler} {op : AckController.Op}
    (hop : pm.op? l = some op) (hc : pm.modeChangeController = some c) :
    pm.completes l = c.completes op := by
  cases l with
  | schedule env => cases hop
  | request _ _ | create _ | addPowerModePreChangeClient _ => cases hop
  | powerModePreChangeComplete _ _ _ | delayPowerModeChangeBy _ _ _ _
    | removePowerModePreChangeClient _ _ | timer _ => simp [completes, hc, hop]

/-- Other steps, but `Schedule`, complete nothing. -/
theorem completes_of_none (hop : pm.op? l = none ∨ pm.modeChangeController = none)
    (hl : ∀ env, l ≠ .schedule env) : pm.completes l = false := by
  rcases hop with hop | hc
  · cases hc : pm.modeChangeController with
    | none => simp [completes, hc]
    | some c =>
      cases l with
      | schedule env => exact absurd rfl (hl env)
      | _ => simp [completes, hc, hop]
  · simp [completes, hc]

/-- The completion handlers that an operation on the controller calls announce a change if the
operation completes the transition, and the target is accepted. -/
theorem mem_completionHandlers {c : AckController CompletionHandler} {op : AckController.Op}
    {r : AckController CompletionHandler × List (HandlerCall CompletionHandler)} (hI : pm.Inv)
    (hc : pm.modeChangeController = some c) (happ : c.applyOp op = some r) (q : Implementation)
    (env : Environment) :
    (∃ p n, .modeChanged p n ∈ (q.completionHandlers env r.2).2) ↔
      c.completes op = true ∧ Accepted env c.powerState := by
  obtain ⟨c', calls⟩ := r
  have hw := hI.wellFormed c hc
  have hcalls := AckController.applyOp_calls hw happ
  by_cases hcompletes : c.completes op = true
  · -- the one handler that is called is that of the transition, and it is not revoked
    obtain ⟨h, isTimedout, rfl, hh, hrun⟩ : ∃ h isTimedout, calls = [⟨h, isTimedout, false⟩] ∧
        c.handler = some h ∧ c.running = true := by
      cases hrun : c.running with
      | false =>
        exact absurd (AckController.applyOp_of_stopped hw hrun happ).1 (hcalls.mpr hcompletes)
      | true =>
        obtain ⟨h, hh⟩ := hw.exists_handler hrun
        rcases AckController.applyOp_of_running hw hrun hh happ with
          ⟨-, -, rfl⟩ | ⟨-, -, -, rfl⟩ | ⟨-, -, -, -, rfl⟩
        · exact ⟨h, true, rfl, hh, rfl⟩
        · exact ⟨h, false, rfl, hh, rfl⟩
        · exact absurd rfl (hcalls.mpr hcompletes)
    have htarget := (hI.handler c h hc hrun hh).1
    simp [completionHandlers, mem_completionHandler, hcompletes, htarget]
  · obtain rfl : calls = [] := by
      by_contra hne
      exact hcompletes (hcalls.mp hne)
    simp [completionHandlers, hcompletes]

/-- A step announces a change exactly if it changes the power state. -/
theorem modeChanged_iff (hI : pm.Inv) (h : implementation.step pm l = some (pm', es)) :
    (∃ p n, .modeChanged p n ∈ es) ↔ pm.Changes l := by
  have hno : ∀ {es : List Event}, pm.completes l = false → (∀ p n, .modeChanged p n ∉ es) →
      ((∃ p n, .modeChanged p n ∈ es) ↔ pm.Changes l) := by
    intro es hc hes
    exact ⟨fun ⟨p, n, hmem⟩ => absurd hmem (hes p n), fun hch => by simp [hch.1] at hc⟩
  have hpair : ∀ r : Implementation × List Event, some r = some (pm', es) →
      ((∃ p n, .modeChanged p n ∈ r.2) ↔ pm.Changes l) →
      ((∃ p n, .modeChanged p n ∈ es) ↔ pm.Changes l) := by
    rintro r ⟨⟩ hr
    exact hr
  -- an operation on the controller, followed by the answer to the caller
  have hop : ∀ c op r q env answer, pm.modeChangeController = some c → pm.op? l = some op →
      c.applyOp op = some r → l.env? = some env → (∀ p n, .modeChanged p n ∉ answer) →
      ((∃ p n, .modeChanged p n ∈ (completionHandlers q env r.2).2 ++ answer) ↔
        pm.Changes l) := by
    intro c op r q env answer hc hop happ henv hanswer
    have hmem := mem_completionHandlers hI hc happ q env
    simp only [List.mem_append, hanswer, or_false, hmem, Changes, completes_of_op hop hc, henv, hc,
      Option.mem_some_iff, exists_eq_left']
  have hstep := step_cases hI h
  cases l with
  | request newState ds =>
    refine hno (completes_of_none (.inl rfl) (by simp)) ?_
    cases hstep with
    | ignored => simp
    | checked =>
      intro p n hmem
      split at hmem <;> simp at hmem
    | waited hop | fired hop => cases hop
    | other hl => cases hl
  | create env =>
    refine hno (completes_of_none (.inl rfl) (by simp)) ?_
    cases hstep with
    | dropped => simp
    | installed hcall hother hcancel =>
      intro p n hmem
      rcases hcancel with ⟨rfl, -⟩ | ⟨c, h, -, -, -, rfl⟩ <;> simp at hmem
    | waited hop | fired hop => cases hop
    | other hl => cases hl
  | schedule env =>
    cases hstep with
    | scheduled hcall hc hwait => exact hno (by simp [completes, hc, hcall, hwait]) (by simp)
    | @completed _ n s b t c hcall hc hwait =>
      obtain ⟨⟨c', hc', -, htarget⟩, -⟩ := hI.created n s b t hcall
      obtain rfl : c = c' := Option.some.inj (hc.symm.trans hc')
      -- `Schedule` has nobody to wait for, so the handler runs in the calling thread
      have hcompletes : pm.completes (.schedule env) = true := by
        rcases hwait with hempty | rfl
        · simp [completes, hc, hcall, hempty]
        · simp [completes, hc, hcall]
      have hanswer : ∀ p' n', Event.modeChanged p' n' ∉
          (if b then [.returned .errorNone] else [.selfUnlock, .returned .errorNone]) := by
        cases b <;> simp
      simp only [List.mem_append, hanswer, or_false, mem_completionHandler, Changes, hcompletes,
        Label.env?, hc, Option.mem_some_iff, exists_eq_left', htarget]
      simp
    | waited hop | fired hop => cases hop
    | other hl => cases hl
  | powerModePreChangeComplete id t env =>
    refine hpair _ h ?_
    cases hc : pm.modeChangeController with
    | none =>
      simp only [powerModePreChangeComplete, hc]
      exact hno (completes_of_none (.inr hc) (by simp)) (by simp)
    | some c =>
      simp only [powerModePreChangeComplete, hc]
      exact hop c _ _ _ env _ hc rfl rfl rfl (by simp)
  | delayPowerModeChangeBy id t d now =>
    refine hpair _ h ?_
    have hcompletes : pm.completes (.delayPowerModeChangeBy id t d now) = false := by
      cases hc : pm.modeChangeController <;> simp [completes, hc, op?, AckController.completes]
    simp only [delayPowerModeChangeBy]
    split <;> exact hno hcompletes (by simp)
  | addPowerModePreChangeClient name =>
    refine hpair _ h ?_
    have hcompletes : pm.completes (.addPowerModePreChangeClient name) = false :=
      completes_of_none (.inl rfl) (by simp)
    simp only [addPowerModePreChangeClient]
    split
    · exact hno hcompletes (by simp)
    · split <;> exact hno hcompletes (by simp)
  | removePowerModePreChangeClient id env =>
    refine hpair _ h ?_
    simp only [removePowerModePreChangeClient]
    split
    · rename_i hmem
      exact hno (completes_of_none (.inl (if_neg hmem)) (by simp)) (by simp)
    · rename_i hmem
      have hackClient : pm.op? (.removePowerModePreChangeClient id env) = some (.ackClient id) :=
        if_pos (not_not.mp hmem)
      split
      · rename_i hc
        exact hno (completes_of_none (.inr hc) (by simp)) (by simp)
      · rename_i c hc
        exact hop c _ _ _ env _ hc hackClient rfl rfl (by simp)
  | timer env =>
    simp only [implementation] at h
    split at h
    · rename_i c hc
      split at h
      · rename_i hsch
        have happ : c.applyOp .dispatchTimer = some c.dispatchTimer := if_pos hsch
        refine hpair _ h ?_
        simpa [dispatchTimer] using
          hop c _ _ { pm with modeChangeController := some c.dispatchTimer.1 } env [] hc rfl happ rfl
            (by simp)
      · cases h
    · cases h

/-- The transaction of the controller. -/
def transactionId? (pm : Implementation) : Option ℤ :=
  pm.modeChangeController.map (·.transactionId)

end Implementation

/-! ## What is submitted and dispatched -/

/-- The notification that a call of `submitPowerModePreChangeEvent` submits. -/
def Event.preChange? : Event → Option Notification
  | .preChange currentState newState transactionId timeOut =>
    some (.onPowerModePreChange currentState newState transactionId timeOut)
  | _ => none

/-- The notification that a call of `dispatchPowerModeChangedEvent` dispatches. -/
def Event.modeChanged? : Event → Option Notification
  | .modeChanged prevState newState => some (.onPowerModeChanged prevState newState)
  | _ => none

namespace Implementation

variable {pm pm' : Implementation} {l : Label} {es : List Event} {p n : PowerState}

/-- A step that starts no transition submits nothing, and leaves the transaction alone. One that
starts a transition submits the pre-change notification for it. -/
theorem preChange_cases (hI : pm.Inv) (h : implementation.step pm l = some (pm', es)) :
    (es.filterMap Event.preChange? = [] ∧ pm'.nextTransactionId = pm.nextTransactionId ∧
      pm'.transactionId? = pm.transactionId?) ∨
    ∃ currState newState timeOut,
      es.filterMap Event.preChange? =
        [.onPowerModePreChange currState newState (pm.nextTransactionId + 1) timeOut] ∧
      pm'.nextTransactionId = pm.nextTransactionId + 1 ∧
      pm'.transactionId? = some (pm.nextTransactionId + 1) := by
  have hanswer : ∀ answer : List Event, (∀ e ∈ answer, e.isAnswer = true) →
      answer.filterMap Event.preChange? = [] := by
    intro answer hall
    refine filterMap_of_isAnswer ?_ hall
    intro e he
    cases e <;> first | rfl | cases he
  have hhandler : ∀ (q : Implementation) env h,
      (q.completionHandler env h).2.filterMap Event.preChange? = [] := by
    intro q env h
    rw [filterMap_completionHandler _ rfl]
    · rfl
    · intro e he
      cases e <;> first | rfl | cases he
  cases step_cases hI h with
  | ignored hcall hn => exact .inl ⟨rfl, rfl, rfl⟩
  | checked hcall hn =>
    refine .inl ⟨?_, rfl, rfl⟩
    split <;> rfl
  | dropped hcall hsame => exact .inl ⟨rfl, rfl, rfl⟩
  -- the one step that submits something; the cancelled handler, if any, submits nothing
  | @installed env n s b cancelled hcall hother hcancel =>
    refine .inr ⟨s, n, if b then 0 else powerModePrechangeTimeoutSec, ?_, rfl, rfl⟩
    rcases hcancel with ⟨rfl, -⟩ | ⟨c, h, -, -, -, rfl⟩ <;> rfl
  | @scheduled env n s t c timeout hcall hc hwait =>
    exact .inl ⟨rfl, rfl, by simp [transactionId?, hc]⟩
  | @completed env n s b t c hcall hc hwait =>
    obtain ⟨pc, hpm⟩ := pm.completionHandler_fst env ⟨s, n, b⟩ false
    refine .inl ⟨?_, by rw [hpm], by rw [hpm]; rfl⟩
    rw [List.filterMap_append, hhandler]
    cases b <;> rfl
  | @waited l op c c' clients answer hop hc happ hrun hh hempty hans hclients =>
    obtain ⟨-, htid, -⟩ := AckController.applyOp_frame happ
    exact .inl ⟨hanswer _ hans, rfl, by simp [transactionId?, hc, htid]⟩
  | @fired l env op c c' hdl isTimedout clients answer hop hc happ hrun hh hrun' hwhy hans
      hclients =>
    obtain ⟨-, htid, -⟩ := AckController.applyOp_frame happ
    obtain ⟨pc, hpm⟩ := completionHandler_fst
      { pm with modeChangeController := some c', modeChangeClients := clients } env hdl isTimedout
    refine .inl ⟨?_, by rw [hpm], by rw [hpm]; simp [transactionId?, hc, htid]⟩
    rw [List.filterMap_append, hhandler, hanswer _ hans]
    rfl
  | other hl hop hans hclients => exact .inl ⟨hanswer _ hans, rfl, rfl⟩

end Implementation

end PowerManager
