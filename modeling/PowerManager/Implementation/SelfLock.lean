import PowerManager.Implementation.Steps

/-!
# The discipline of `selfLock`

`SetPowerState` takes the binary semaphore `selfLock` on entry. An asynchronous call releases it
itself, right before it returns; a synchronous one leaves that to its completion handler, which
`Schedule` calls before it returns, because the timeout is zero. The module proves that either way a
call releases the semaphore exactly once and before it returns, and that no handler which runs later
releases it again:

* `selfLock_step` — what one step does to the semaphore;
* `selfLock_run` — the balance of takes and releases in a run;
* `selfLock_discipline` — the result for all reachable states.
-/

namespace PowerManager

/-- Whether a step is the entry of a `SetPowerState` call. -/
def Label.isRequest : Label → Bool
  | .request .. => true
  | _ => false

/-- The semaphore's part in a `SetPowerState` call: one if the call is under way. -/
def Call.held : Call → ℕ
  | .idle => 0
  | _ => 1

@[simp]
theorem Call.held_idle : Call.idle.held = 0 := rfl

@[simp]
theorem Call.held_checked (n s : PowerState) (b : Bool) : (Call.checked n s b).held = 1 := rfl

@[simp]
theorem Call.held_created (n s : PowerState) (b : Bool) (t : UInt32) :
    (Call.created n s b t).held = 1 := rfl

/-- A call is under way or not. -/
theorem Call.held_eq (c : Call) : c.held = if c = .idle then 0 else 1 := by
  cases c <;> rfl

namespace Implementation

variable {pm pm' : Implementation} {es os : List Event} {l : Label} {ls : List Label}
  {pc : PowerController} {tid : ℤ} {cid : UInt32}

/-! ## Completion handlers -/

/-- The change of the power state itself does not touch `selfLock`. -/
theorem count_setDevicePowerState (pm : Implementation) (env : Environment) (s n : PowerState)
    {e : Event} (he : e.isDevice = false) : (pm.setDevicePowerState env s n).2.count e = 0 := by
  rw [List.count_eq_zero]
  intro hmem
  rw [isDevice_of_mem hmem] at he
  cases he

/-- A completion handler never takes `selfLock`, and releases it if it is synchronous. -/
theorem count_selfLock_completionHandler (pm : Implementation) (env : Environment)
    (call : HandlerCall CompletionHandler) :
    (pm.completionHandler env call).2.count .selfLock = 0 ∧
      (pm.completionHandler env call).2.count .selfUnlock =
        if call.handler.isSync then 1 else 0 := by
  have hdevice : ∀ e : Event, e.isDevice = false →
      (if call.isRevoked then (pm, [])
        else pm.setDevicePowerState env call.handler.currState call.handler.newState).2.count e
        = 0 := by
    intro e he
    split
    · rfl
    · exact count_setDevicePowerState pm env _ _ he
  have hlock := hdevice .selfLock rfl
  have hunlock := hdevice .selfUnlock rfl
  simp only [completionHandler]
  split <;> simp [hlock, hunlock]

/-- Answers do not touch `selfLock`. -/
theorem count_selfLock_of_isAnswer (h : ∀ e ∈ es, e.isAnswer = true) :
    es.count .selfLock = 0 ∧ es.count .selfUnlock = 0 := by
  refine ⟨List.count_eq_zero.mpr fun hmem => ?_, List.count_eq_zero.mpr fun hmem => ?_⟩
  · exact Bool.false_ne_true (h _ hmem)
  · exact Bool.false_ne_true (h _ hmem)

/-! ## One step -/

/-- What a step with the label `l` that ends in `pm'` does to `selfLock`. -/
structure LockEffect (pm : Implementation) (l : Label) (pm' : Implementation) (es : List Event) :
    Prop where
  /-- Only the entry of a call takes it. -/
  takes : es.count .selfLock = if l.isRequest then 1 else 0
  /-- The step of a call that ends it releases it, and no other step does. -/
  releases : es.count .selfUnlock = if l.isSetPowerState = true ∧ pm'.call = .idle then 1 else 0
  /-- A call that has ended has returned, and that was the last thing it did. -/
  returns : l.isSetPowerState = true → pm'.call = .idle → es.getLast? = some (.returned .errorNone)
  /-- It is taken when a call begins, and released when the call ends. -/
  balance : es.count .selfLock + pm.call.held = es.count .selfUnlock + pm'.call.held

/-- A step outside `SetPowerState` leaves the call that is under way, and `selfLock`, alone. -/
theorem LockEffect.of_other (hl : l.isSetPowerState = false) (hcall : pm'.call = pm.call)
    (hlock : es.count .selfLock = 0) (hunlock : es.count .selfUnlock = 0) :
    LockEffect pm l pm' es where
  takes := by
    rw [hlock, if_neg]
    cases l <;> first | exact Bool.false_ne_true | cases hl
  releases := by simp [hl, hunlock]
  returns h := absurd (hl.symm.trans h) Bool.false_ne_true
  balance := by rw [hlock, hunlock, hcall]

/-- An operation on the controller is no step of a `SetPowerState` call. -/
theorem isSetPowerState_of_op? {op : AckController.Op} (h : pm.op? l = some op) :
    l.isSetPowerState = false := by
  cases l <;> first | rfl | cases h

/-- Every step takes and releases `selfLock` as its place in a call says. -/
theorem selfLock_step (hI : pm.Inv) (h : implementation.step pm l = some (pm', es)) :
    LockEffect pm l pm' es := by
  cases step_cases hI h with
  | ignored hcall => exact ⟨rfl, by simp [Label.isSetPowerState, hcall], fun _ _ => rfl, by simp⟩
  | checked hcall =>
    refine ⟨?_, ?_, by simp, ?_⟩
    · split <;> rfl
    · split <;> simp
    · rw [hcall]
      split <;> rfl
  | dropped hcall =>
    exact ⟨rfl, by simp [Label.isSetPowerState], fun _ _ => rfl, by rw [hcall]; rfl⟩
  | @installed env n s b cancelled hcall hother hcancel =>
    -- the handler of the transition that is cancelled was stored, hence asynchronous
    have hnone : cancelled.count .selfLock = 0 ∧ cancelled.count .selfUnlock = 0 := by
      rcases hcancel with ⟨rfl, -⟩ | ⟨c, h, -, -, -, rfl⟩
      · exact ⟨rfl, rfl⟩
      · exact ⟨rfl, rfl⟩
    refine ⟨?_, ?_, by simp, ?_⟩
    · rw [List.count_append, hnone.1]
      rfl
    · rw [List.count_append, hnone.2]
      simp
    · rw [List.count_append, List.count_append, hnone.1, hnone.2, hcall]
      rfl
  | scheduled hcall =>
    exact ⟨rfl, by simp [Label.isSetPowerState], fun _ _ => rfl, by rw [hcall]; rfl⟩
  | @completed env n s b t c hcall hc hwait =>
    obtain ⟨hlock, hunlock⟩ :=
      count_selfLock_completionHandler pm env ⟨⟨s, n, b⟩, false, false⟩
    -- a synchronous handler has released it, else the call does
    refine ⟨?_, ?_, fun _ _ => ?_, ?_⟩
    · cases b <;> simp [hlock, Label.isRequest]
    · cases b <;> simp [hunlock, Label.isSetPowerState]
    · cases b <;> simp
    · rw [hcall]
      cases b <;> simp [hlock, hunlock]
  | @waited l op c c' clients answer hop hc happ hrun hh hempty hanswer =>
    obtain ⟨hlock, hunlock⟩ := count_selfLock_of_isAnswer hanswer
    exact .of_other (isSetPowerState_of_op? hop) rfl hlock hunlock
  | @fired l env op c c' hdl isTimedout clients answer hop hc happ hrun hh hrun' hwhy hanswer =>
    obtain ⟨hlock, hunlock⟩ := count_selfLock_of_isAnswer hanswer
    obtain ⟨hlock', hunlock'⟩ := count_selfLock_completionHandler
      { pm with modeChangeController := some c', modeChangeClients := clients } env
      ⟨hdl, isTimedout, false⟩
    obtain ⟨pc, hpm⟩ := completionHandler_fst
      { pm with modeChangeController := some c', modeChangeClients := clients } env hdl isTimedout
    -- the stored handler is asynchronous
    have hasync := (hI.handler c hdl hc hrun hh).2
    refine .of_other (isSetPowerState_of_op? hop) (by rw [hpm]) ?_ ?_
    · rw [List.count_append, hlock, hlock']
    · rw [List.count_append, hunlock, hunlock', hasync]
      rfl
  | other hl hop hanswer =>
    obtain ⟨hlock, hunlock⟩ := count_selfLock_of_isAnswer hanswer
    exact .of_other hl rfl hlock hunlock

/-! ## Runs -/

/-- In every run `selfLock` is taken once for each call that begins, and released once for each call
that ends. -/
theorem selfLock_run (hI : pm.Inv) (h : implementation.Run pm ls os pm') :
    pm'.Inv ∧ os.count .selfLock = ls.countP Label.isRequest ∧
      os.count .selfLock + pm.call.held = os.count .selfUnlock + pm'.call.held := by
  induction h with
  | nil => exact ⟨hI, rfl, rfl⟩
  | @snoc t u ls os os' l hrun hstep ih =>
    obtain ⟨hI', htakes, hbalance⟩ := ih
    have he := selfLock_step hI' hstep
    refine ⟨inv_step hI' hstep, ?_, ?_⟩
    · rw [List.count_append, List.countP_append, htakes, he.takes, List.countP_singleton]
    · have hstep' := he.balance
      rw [List.count_append, List.count_append]
      omega

/-- A call that is under way can always take its next step, and ends within two. -/
theorem call_finishes (hI : pm.Inv) (hcall : pm.call ≠ .idle) (env : Environment) :
    ∃ ls os pm', (∀ l ∈ ls, l.isSetPowerState = true) ∧ implementation.Run pm ls os pm' ∧
      pm'.call = .idle := by
  -- the last section ends the call, whether it completes the transition or only schedules it
  have hcreated : ∀ {pm : Implementation}, pm.Inv → ∀ n s b t, pm.call = .created n s b t →
      ∃ os pm', implementation.step pm (.schedule env) = some (pm', os) ∧ pm'.call = .idle := by
    intro pm hI n s b t hcall
    obtain ⟨⟨c, hc, -⟩, -⟩ := hI.created n s b t hcall
    have hstep : implementation.step pm (.schedule env) =
        some (pm.setPowerStateSchedule env c n s b t) := by
      simp only [implementation, hcall, hc]
    refine ⟨_, _, hstep, ?_⟩
    cases b <;> rfl
  cases hpm : pm.call with
  | idle => exact absurd hpm hcall
  | checked n s b =>
    have hstep : implementation.step pm (.create env) = some (pm.setPowerStateCreate env n s b) := by
      simp only [implementation, hpm]
    have hI' := inv_step hI hstep
    -- the second section drops the call, or leaves it to the last one
    by_cases hdone : (pm.setPowerStateCreate env n s b).1.call = .idle
    · exact ⟨[.create env], _, _, by simp [Label.isSetPowerState], .single hstep, hdone⟩
    · have hnext : ∃ t, (pm.setPowerStateCreate env n s b).1.call = .created n s b t := by
        unfold setPowerStateCreate at hdone ⊢
        split at hdone
        · exact absurd rfl hdone
        · rename_i hother
          rw [if_neg hother]
          exact ⟨_, rfl⟩
      obtain ⟨t, ht⟩ := hnext
      obtain ⟨os, pm', hstep', hidle⟩ := hcreated hI' n s b t ht
      exact ⟨[.create env, .schedule env], _, _, by simp [Label.isSetPowerState],
        .cons hstep (.single hstep'), hidle⟩
  | created n s b t =>
    obtain ⟨os, pm', hstep, hidle⟩ := hcreated hI n s b t hpm
    exact ⟨[.schedule env], _, _, by simp [Label.isSetPowerState], .single hstep, hidle⟩

/-! ## The result -/

/-- The discipline of `selfLock`. In every reachable state it is free exactly when no
`SetPowerState` call is under way, and it has been taken as often as released, and once more while a
call is under way. A step releases it, once, exactly if it is the step with which a call ends, and
the call returns after that; so the completion handlers that other steps run, or that a later call
cancels, never release it. From its entry on a call takes it once, and has released it once if it
has ended and never before; and a call that is under way can end. -/
theorem selfLock_discipline (h : implementation.Run (initial pc tid cid) ls os pm) :
    (pm.selfLock = true ↔ pm.call = .idle) ∧
      os.count .selfLock = os.count .selfUnlock + (if pm.call = .idle then 0 else 1) ∧
      (∀ l pm' es, implementation.step pm l = some (pm', es) →
        es.count .selfUnlock =
            (if l.isSetPowerState = true ∧ pm'.call = .idle then 1 else 0) ∧
          (l.isSetPowerState = true → pm'.call = .idle →
            es.getLast? = some (.returned .errorNone))) ∧
      (∀ n ds since pm' es, implementation.Run pm (.request n ds :: since) es pm' →
        (∀ l ∈ since, l.isRequest = false) →
        es.count .selfLock = 1 ∧
          es.count .selfUnlock = if pm'.call = .idle then 1 else 0) ∧
      (pm.call ≠ .idle → ∃ ls' os' pm', (∀ l ∈ ls', l.isSetPowerState = true) ∧
        implementation.Run pm ls' os' pm' ∧ pm'.call = .idle) := by
  obtain ⟨hI, -, hbalance⟩ := selfLock_run (inv_initial pc tid cid) h
  refine ⟨hI.selfLock, ?_, ?_, ?_, fun hcall => call_finishes hI hcall .accepts⟩
  · rw [← Call.held_eq]
    exact hbalance
  · intro l pm' es hstep
    have he := selfLock_step hI hstep
    exact ⟨he.releases, he.returns⟩
  · intro n ds since pm' es hrun hsince
    -- the call begins only while none is under way
    have hidle : pm.call = .idle := by
      obtain ⟨q, es₁, es₂, -, hstep, -⟩ := hrun.cons_inv
      simp only [implementation] at hstep
      split at hstep
      · exact hI.selfLock.mp ‹_›
      · cases hstep
    obtain ⟨-, htakes, hbalance'⟩ := selfLock_run hI hrun
    have hnone : since.countP Label.isRequest = 0 := by
      rw [List.countP_eq_zero]
      intro l hl
      simp [hsince l hl]
    have hone : es.count .selfLock = 1 := by
      rw [htakes, List.countP_cons, hnone]
      rfl
    refine ⟨hone, ?_⟩
    rw [hone, hidle, Call.held_eq pm'.call] at hbalance'
    simp only [Call.held_idle] at hbalance'
    split at hbalance' <;> simp_all

/-- The device is put to deep sleep, which is asynchronous, and then wakes to light sleep, which is
synchronous while a client is registered: both calls release the semaphore once, and the
acknowledgement that comes after the second one has returned does not. -/
theorem selfLock_discipline_of_two :
    ∃ ls os pm, implementation.Run (initial .isOn 0 0) ls os pm ∧ ls.length = 8 ∧
      pm.selfLock = true ∧ os.count .selfLock = 2 ∧ os.count .selfUnlock = 2 := by
  obtain ⟨os, pm, hrun, hcall, htaken⟩ : ∃ os pm, implementation.Run (initial .isOn 0 0)
      [.request .standbyDeepSleep .awake, .create .accepts, .schedule .accepts,
        .addPowerModePreChangeClient "client", .request .standbyLightSleep .awake,
        .create .accepts, .schedule .accepts, .powerModePreChangeComplete 1 2 .accepts] os pm ∧
      pm.call = .idle ∧ os.count .selfLock = 2 :=
    Machine.exists_outputs_of_exec (by decide +kernel)
  obtain ⟨hfree, hcount, -⟩ := selfLock_discipline hrun
  refine ⟨_, os, pm, hrun, rfl, hfree.mpr hcall, htaken, ?_⟩
  rw [htaken, if_pos hcall, Nat.add_zero] at hcount
  exact hcount.symm

end Implementation

end PowerManager
