import PowerManager.Implementation.Steps

/-!
# Acknowledgements over whole runs

Who a transition waits for, when it completes, and what becomes of the references it takes, in every
run of the implementation:

* `awaited_clients` — the pending clients are those that were registered when the transition was
  created, less those that have acknowledged it or been removed since; the transition completes at
  the step after which none is left;
* `completed_once` — every completion handler is called exactly once, and every reference taken for
  one is released.
-/

namespace PowerManager

/-- The arguments of a completion. -/
def Event.completion? : Event → Option (PowerState × Bool × Bool)
  | .completion newState isTimedout isAborted => some (newState, isTimedout, isAborted)
  | _ => none

/-- The completions so far. -/
def completions (es : List Event) : List (PowerState × Bool × Bool) :=
  es.filterMap Event.completion?

@[simp]
theorem completions_append (es es' : List Event) :
    completions (es ++ es') = completions es ++ completions es' := by
  simp [completions]

namespace Implementation

variable {pm pm' : Implementation} {es os : List Event} {l : Label} {ls : List Label}
  {c : AckController CompletionHandler} {pc : PowerController} {tid : ℤ} {cid : UInt32}

/-! ## Registered and pending clients -/

/-- A registered client stays registered until it is removed. -/
theorem registered_step {id : UInt32} (hI : pm.Inv) (hid : id ∈ pm.registered)
    (hl : ∀ env, l ≠ .removePowerModePreChangeClient id env)
    (h : implementation.step pm l = some (pm', es)) : id ∈ pm'.registered := by
  rw [registered, List.mem_toFinset] at hid ⊢
  cases step_cases hI h with
  | ignored => exact hid
  | checked => exact hid
  | dropped => exact hid
  | installed => exact hid
  | scheduled => exact hid
  | @completed env n s b t c hcall hc hwait =>
    obtain ⟨pc, hpm⟩ := pm.completionHandler_fst env ⟨s, n, b⟩ false
    rw [hpm]
    exact hid
  | waited hop hc happ hrun hh hempty hanswer hclients => exact hclients id hid hl
  | @fired l env op c c' hdl isTimedout clients answer hop hc happ hrun hh hrun' hwhy hanswer
      hclients =>
    obtain ⟨pc, hpm⟩ := completionHandler_fst
      { pm with modeChangeController := some c', modeChangeClients := clients } env hdl isTimedout
    rw [hpm]
    exact hclients id hid hl
  | other hl' hop hanswer hclients => exact hclients id hid hl

/-- The clients that are pending after an operation on the controller. -/
theorem mem_pending_iff {op : AckController.Op} {pending : Finset UInt32} {id : UInt32}
    (h : pm.op? l = some op) :
    id ∈ op.pending tid pending ↔ id ∈ pending ∧
      (∀ env, l ≠ .powerModePreChangeComplete id tid env) ∧
      ∀ env, l ≠ .removePowerModePreChangeClient id env := by
  cases l with
  | powerModePreChangeComplete id' t env =>
    obtain rfl : _ = op := Option.some.inj h
    by_cases ht : t = tid
    · simp [AckController.Op.pending, ht, and_comm, eq_comm]
    · simp [AckController.Op.pending, ht]
  | delayPowerModeChangeBy id' t d now =>
    obtain rfl : _ = op := Option.some.inj h
    simp [AckController.Op.pending]
  | removePowerModePreChangeClient id' env =>
    simp only [op?] at h
    split at h
    · obtain rfl : _ = op := Option.some.inj h
      simp [AckController.Op.pending, and_comm, eq_comm]
    · cases h
  | timer env =>
    obtain rfl : _ = op := Option.some.inj h
    simp [AckController.Op.pending]
  | _ => cases h

/-- Only the timer is dispatched. -/
theorem timer_of_op? (h : pm.op? l = some .dispatchTimer) : ∃ env, l = .timer env := by
  cases l with
  | timer env => exact ⟨env, rfl⟩
  | removePowerModePreChangeClient id env =>
    simp only [op?] at h
    split at h <;> cases h
  | _ => cases h

/-- A step that does not create a controller keeps the controller there is, takes the client that
acknowledges or is removed off its pending clients, and adds none. -/
theorem pending_step (hI : pm.Inv) (hc : pm.modeChangeController = some c)
    (hsub : c.pending ⊆ pm.registered) (hl : ∀ env, l ≠ .create env)
    (h : implementation.step pm l = some (pm', es)) :
    ∃ c', pm'.modeChangeController = some c' ∧ c'.powerState = c.powerState ∧
      c'.transactionId = c.transactionId ∧
      ∀ id, id ∈ c'.pending ↔ id ∈ c.pending ∧
        (∀ env, l ≠ .powerModePreChangeComplete id c.transactionId env) ∧
        ∀ env, l ≠ .removePowerModePreChangeClient id env := by
  cases step_cases hI h with
  | ignored => exact ⟨c, hc, rfl, rfl, by simp⟩
  | checked => exact ⟨c, hc, rfl, rfl, by simp⟩
  | dropped => exact absurd rfl (hl _)
  | installed => exact absurd rfl (hl _)
  | scheduled hcall hc' =>
    obtain rfl : c = _ := Option.some.inj (hc.symm.trans hc')
    exact ⟨_, rfl, rfl, rfl, by simp⟩
  | @completed env n s b t c₀ hcall hc' hwait =>
    obtain ⟨pc, hpm⟩ := pm.completionHandler_fst env ⟨s, n, b⟩ false
    exact ⟨c, by rw [hpm]; exact hc, rfl, rfl, by simp⟩
  | @waited l op c₀ c' clients answer hop hc' happ =>
    obtain rfl : c = c₀ := Option.some.inj (hc.symm.trans hc')
    obtain ⟨htarget, htid, hpend⟩ := AckController.applyOp_frame happ
    exact ⟨c', rfl, htarget, htid, fun id => by rw [hpend]; exact mem_pending_iff hop⟩
  | @fired l env op c₀ c' hdl isTimedout clients answer hop hc' happ =>
    obtain rfl : c = c₀ := Option.some.inj (hc.symm.trans hc')
    obtain ⟨htarget, htid, hpend⟩ := AckController.applyOp_frame happ
    obtain ⟨pc, hpm⟩ := completionHandler_fst
      { pm with modeChangeController := some c', modeChangeClients := clients } env hdl isTimedout
    exact ⟨c', by rw [hpm], htarget, htid, fun id => by rw [hpend]; exact mem_pending_iff hop⟩
  | @other l clients id answer hl' hop =>
    refine ⟨c, hc, rfl, rfl, fun id => ?_⟩
    -- the step names a client only if that client is not registered, hence not pending
    have hnone : pm.op? l = none := hop.resolve_right (by simp [hc])
    refine ⟨fun hid => ⟨hid, ?_, ?_⟩, fun hid => hid.1⟩
    · rintro env rfl
      cases hnone
    · rintro env rfl
      have hmem := hsub hid
      rw [registered, List.mem_toFinset] at hmem
      simp [op?, show id ∈ pm.modeChangeClients from hmem] at hnone

/-- Only the creation of a controller puts one where there is none. -/
theorem no_controller_step (hI : pm.Inv) (hc : pm.modeChangeController = none)
    (hl : ∀ env, l ≠ .create env) (h : implementation.step pm l = some (pm', es)) :
    pm'.modeChangeController = none := by
  cases step_cases hI h with
  | ignored => exact hc
  | checked => exact hc
  | dropped => exact absurd rfl (hl _)
  | installed => exact absurd rfl (hl _)
  | scheduled hcall hc' => simp [hc] at hc'
  | completed hcall hc' => simp [hc] at hc'
  | waited hop hc' => simp [hc] at hc'
  | fired hop hc' => simp [hc] at hc'
  | other => exact hc

/-! ## Who a transition waits for -/

/-- In a run from `start` on `ls` the controller `c` was created in the state `q`, and `since` are
the steps taken after that. -/
def CreatedAt (start : Implementation) (ls : List Label) (c : AckController CompletionHandler)
    (q : Implementation) (since : List Label) : Prop :=
  ∃ before env os q' es, ls = before ++ .create env :: since ∧ implementation.Run start before os q ∧
    implementation.step q (.create env) = some (q', es) ∧
    ∃ currState timeOut, .preChange currState c.powerState c.transactionId timeOut ∈ es

/-- The controller `c` waits for the clients registered in `q` that have neither acknowledged its
transaction nor been removed since. -/
def Awaits (q : Implementation) (since : List Label) (c : AckController CompletionHandler) : Prop :=
  ∀ id, id ∈ c.pending ↔ id ∈ q.registered ∧
    (∀ env, .powerModePreChangeComplete id c.transactionId env ∉ since) ∧
    ∀ env, .removePowerModePreChangeClient id env ∉ since

/-- A controller remains created where it was. -/
theorem CreatedAt.snoc {start q : Implementation} {c c' : AckController CompletionHandler}
    {since : List Label} (h : CreatedAt start ls c q since) (htarget : c'.powerState = c.powerState)
    (htid : c'.transactionId = c.transactionId) (l : Label) :
    CreatedAt start (ls ++ [l]) c' q (since ++ [l]) := by
  obtain ⟨before, env, os, q', es, rfl, hrun, hstep, s, t, hmem⟩ := h
  exact ⟨before, env, os, q', es, by simp, hrun, hstep, s, t, by rwa [htarget, htid]⟩

/-- A step that takes the client that acknowledges or is removed off the pending clients keeps
`Awaits`. -/
theorem Awaits.snoc {q : Implementation} {c c' : AckController CompletionHandler}
    {since : List Label} (h : Awaits q since c) (htid : c'.transactionId = c.transactionId)
    (hpend : ∀ id, id ∈ c'.pending ↔ id ∈ c.pending ∧
      (∀ env, l ≠ .powerModePreChangeComplete id c.transactionId env) ∧
      ∀ env, l ≠ .removePowerModePreChangeClient id env) :
    Awaits q (since ++ [l]) c' := by
  intro id
  rw [hpend, h id, htid]
  simp only [List.mem_append, List.mem_singleton, not_or]
  constructor
  · rintro ⟨⟨hid, hack, hrem⟩, hack', hrem'⟩
    exact ⟨hid, fun env => ⟨hack env, (hack' env).symm⟩, fun env => ⟨hrem env, (hrem' env).symm⟩⟩
  · rintro ⟨hid, hack, hrem⟩
    exact ⟨⟨hid, fun env => (hack env).1, fun env => (hrem env).1⟩,
      fun env he => (hack env).2 he.symm, fun env he => (hrem env).2 he.symm⟩

/-- In every state a run reaches, the pending clients are registered, and are those the transition
has to wait for. -/
theorem awaits_run {start : Implementation} (hI : start.Inv)
    (hnone : start.modeChangeController = none) (h : implementation.Run start ls os pm) :
    pm.Inv ∧ ∀ c, pm.modeChangeController = some c → c.pending ⊆ pm.registered ∧
      ∃ q since, CreatedAt start ls c q since ∧ Awaits q since c := by
  induction h with
  | nil => exact ⟨hI, by simp [hnone]⟩
  | @snoc t u ls os os' l hrun hstep ih =>
    obtain ⟨hI', ih⟩ := ih
    refine ⟨inv_step hI' hstep, fun c' hc' => ?_⟩
    by_cases hl : ∃ env, l = .create env
    · obtain ⟨env, rfl⟩ := hl
      cases step_cases hI' hstep with
      | dropped =>
        obtain ⟨hsub, q, since, hcreated, hawaits⟩ := ih c' hc'
        exact ⟨hsub, q, since ++ [.create env], hcreated.snoc rfl rfl _,
          hawaits.snoc rfl (by simp)⟩
      | @installed env n s b cancelled hcall hother hcancel =>
        -- a new controller waits for all registered clients, and its history begins here
        obtain rfl := Option.some.inj hc'
        exact ⟨Finset.Subset.refl _, t, [], ⟨ls, env, os, _, _, rfl, hrun, hstep, s,
          if b then 0 else powerModePrechangeTimeoutSec, by simp⟩, by simp [Awaits]⟩
      | waited hop => cases hop
      | fired hop => cases hop
      | other hl => cases hl
    · simp only [not_exists] at hl
      cases hc : t.modeChangeController with
      | none => simp [no_controller_step hI' hc hl hstep] at hc'
      | some c =>
        obtain ⟨hsub, q, since, hcreated, hawaits⟩ := ih c hc
        -- the controller is the same, and one more step belongs to its history
        obtain ⟨c₁, hc₁, htarget, htid, hpend⟩ := pending_step hI' hc hsub hl hstep
        obtain rfl : c₁ = c' := Option.some.inj (hc₁.symm.trans hc')
        refine ⟨fun id hid => ?_, q, since ++ [l], hcreated.snoc htarget htid l,
          hawaits.snoc htid hpend⟩
        obtain ⟨hid', -, hrem⟩ := (hpend id).mp hid
        exact registered_step hI' (hsub hid') hrem hstep

/-! ## When a transition completes -/

/-- Answers are no completions. -/
theorem completions_of_isAnswer (h : ∀ e ∈ es, e.isAnswer = true) : completions es = [] := by
  refine filterMap_of_isAnswer ?_ h
  intro e he
  cases e <;> first | rfl | cases he

/-- A completion handler is one completion. -/
theorem completions_completionHandler (pm : Implementation) (env : Environment)
    (call : HandlerCall CompletionHandler) :
    completions (pm.completionHandler env call).2 =
      [(call.handler.newState, call.isTimedout, call.isRevoked)] := by
  refine (filterMap_completionHandler ?_ rfl pm env call).trans rfl
  intro e he
  cases e <;> first | rfl | cases he

/-- The transition of the controller `c`, with target `n`, has been scheduled, and has completed
exactly if nobody is waited for any more. -/
structure Scheduled (n : PowerState) (es : List Event) (pm : Implementation)
    (c : AckController CompletionHandler) : Prop where
  controller : pm.modeChangeController = some c
  not_created : ∀ n s b t, pm.call ≠ .created n s b t
  target : c.powerState = n
  stopped : c.running = false → c.pending = ∅
  completions : completions es = if c.running then [] else [(n, false, false)]

/-- A step that neither creates a controller nor dispatches the timer completes a scheduled
transition exactly if it takes the last pending client. -/
theorem scheduled_step {n : PowerState} {es' : List Event} (hI : pm.Inv)
    (hS : Scheduled n es pm c) (hl : ∀ env, l ≠ .create env) (htimer : ∀ env, l ≠ .timer env)
    (h : implementation.step pm l = some (pm', es')) :
    ∃ c', c'.transactionId = c.transactionId ∧ Scheduled n (es ++ es') pm' c' := by
  have hquiet : ∀ es', completions es' = [] → completions (es ++ es') = completions es := by
    intro es' hes
    simp [hes]
  cases step_cases hI h with
  | ignored =>
    exact ⟨c, rfl, hS.controller, hS.not_created, hS.target, hS.stopped,
      (hquiet _ rfl).trans hS.completions⟩
  | checked =>
    exact ⟨c, rfl, hS.controller, by simp, hS.target, hS.stopped,
      (hquiet _ (by split <;> rfl)).trans hS.completions⟩
  | dropped => exact absurd rfl (hl _)
  | installed => exact absurd rfl (hl _)
  | scheduled hcall => exact absurd hcall (hS.not_created _ _ _ _)
  | completed hcall => exact absurd hcall (hS.not_created _ _ _ _)
  | @waited l op c₀ c' clients answer hop hc' happ hrun hh hempty hanswer =>
    obtain rfl : c = c₀ := Option.some.inj (hS.controller.symm.trans hc')
    obtain ⟨htarget, htid, hpend⟩ := AckController.applyOp_frame happ
    refine ⟨c', htid, rfl, hS.not_created, htarget.trans hS.target, fun hstop => ?_, ?_⟩
    · -- an operation adds no pending client
      refine Finset.eq_empty_of_forall_notMem fun id hid => ?_
      rw [hpend, mem_pending_iff hop, hS.stopped (hrun.symm.trans hstop)] at hid
      exact Finset.notMem_empty id hid.1
    · rw [hquiet _ (completions_of_isAnswer hanswer), hrun]
      exact hS.completions
  | @fired l env op c₀ c' hdl isTimedout clients answer hop hc' happ hrun hh hrun' hwhy hanswer =>
    obtain rfl : c = c₀ := Option.some.inj (hS.controller.symm.trans hc')
    obtain ⟨htarget, htid, -⟩ := AckController.applyOp_frame happ
    obtain ⟨pc, hpm⟩ := completionHandler_fst
      { pm with modeChangeController := some c', modeChangeClients := clients } env hdl isTimedout
    have hnew : hdl.newState = n := (hI.handler c hdl hc' hrun hh).1.trans hS.target
    -- the step is not one of the timer, so the last client has been taken
    obtain ⟨rfl, -, hempty⟩ : isTimedout = false ∧ op ≠ .dispatchTimer ∧ c'.pending = ∅ := by
      refine hwhy.resolve_left fun h => ?_
      obtain ⟨env', rfl⟩ := timer_of_op? (h.2 ▸ hop)
      exact htimer env' rfl
    refine ⟨c', htid, by rw [hpm], by rw [hpm]; exact hS.not_created, htarget.trans hS.target,
      fun _ => hempty, ?_⟩
    rw [completions_append, completions_append, completions_completionHandler,
      completions_of_isAnswer hanswer, hS.completions, hrun, hrun', hnew]
    rfl
  | other hl' hop hanswer =>
    exact ⟨c, rfl, hS.controller, hS.not_created, hS.target, hS.stopped,
      (hquiet _ (completions_of_isAnswer hanswer)).trans hS.completions⟩

/-- A run that neither creates a controller nor dispatches the timer completes a scheduled
transition exactly if it takes the last pending client. -/
theorem scheduled_run {n : PowerState} {since : List Label} {es' : List Event} (hI : pm.Inv)
    (hS : Scheduled n es pm c) (hsince : ∀ env, .create env ∉ since ∧ .timer env ∉ since)
    (h : implementation.Run pm since es' pm') :
    pm'.Inv ∧ ∃ c', c'.transactionId = c.transactionId ∧ Scheduled n (es ++ es') pm' c' := by
  induction h with
  | nil => exact ⟨hI, c, rfl, by simpa using hS⟩
  | @snoc v w ls os os' l hrun hstep ih =>
    obtain ⟨hI', c', htid, hS'⟩ := ih fun env =>
      ⟨fun h => (hsince env).1 (by simp [h]), fun h => (hsince env).2 (by simp [h])⟩
    obtain ⟨c₁, htid₁, hS₁⟩ := scheduled_step hI' hS'
      (fun env h => (hsince env).1 (by simp [h])) (fun env h => (hsince env).2 (by simp [h])) hstep
    exact ⟨inv_step hI' hstep, c₁, htid₁.trans htid, by rwa [← List.append_assoc]⟩

/-- `Schedule` with a timeout completes a transition exactly if nobody is waited for. -/
theorem scheduled_of_created {n s : PowerState} {b : Bool} {t : UInt32} {env : Environment}
    (hI : pm.Inv) (hc : pm.modeChangeController = some c) (hcall : pm.call = .created n s b t)
    (ht : t ≠ 0) (h : implementation.step pm (.schedule env) = some (pm', es)) :
    ∃ c', c'.transactionId = c.transactionId ∧ Scheduled n es pm' c' := by
  obtain ⟨⟨c₀, hc₀, hstop, htarget⟩, htime⟩ := hI.created n s b t hcall
  obtain rfl : c = c₀ := Option.some.inj (hc.symm.trans hc₀)
  cases step_cases hI h with
  | scheduled hcall' hc' hwait =>
    obtain rfl : c = _ := Option.some.inj (hc.symm.trans hc')
    refine ⟨_, ?_, ⟨rfl, by simp, htarget, by simp, rfl⟩⟩
    rfl
  | @completed env n' s' b' t' c' hcall' hc' hwait =>
    obtain rfl : c = c' := Option.some.inj (hc.symm.trans hc')
    obtain ⟨rfl, rfl, rfl, rfl⟩ : n' = n ∧ s' = s ∧ b' = b ∧ t' = t := by
      simpa using hcall'.symm.trans hcall
    -- a synchronous request has no timeout
    have hasync : b' = false := by
      by_contra hsync
      exact ht (by simp [htime, hsync])
    obtain ⟨pc, hpm⟩ := pm.completionHandler_fst env ⟨s', n', b'⟩ false
    refine ⟨c, rfl, by rw [hpm]; exact hc, by simp, htarget,
      fun _ => hwait.resolve_right fun h => Bool.false_ne_true (hasync.symm.trans h), ?_⟩
    rw [completions_append, completions_completionHandler, hstop, hasync]
    rfl
  | waited hop => cases hop
  | fired hop => cases hop
  | other hl => cases hl

/-- A transition that is scheduled with a timeout completes, if it is neither cancelled nor timed
out, exactly if nobody is waited for any more, and then once. -/
theorem completions_of_scheduled {n s : PowerState} {b : Bool} {t : UInt32} {env : Environment}
    {since : List Label} (hI : pm.Inv) (hc : pm.modeChangeController = some c)
    (hcall : pm.call = .created n s b t) (ht : t ≠ 0)
    (hsince : ∀ env, .create env ∉ since ∧ .timer env ∉ since)
    (h : implementation.Run pm (.schedule env :: since) es pm') :
    ∃ c', pm'.modeChangeController = some c' ∧ c'.transactionId = c.transactionId ∧
      completions es = if c'.pending = ∅ then [(n, false, false)] else [] := by
  obtain ⟨q, es₁, es₂, rfl, hstep, hrun⟩ := h.cons_inv
  obtain ⟨c₁, htid₁, hS₁⟩ := scheduled_of_created hI hc hcall ht hstep
  obtain ⟨hI', c', htid, hS⟩ := scheduled_run (inv_step hI hstep) hS₁ hsince hrun
  refine ⟨c', hS.controller, htid.trans htid₁, ?_⟩
  rw [hS.completions]
  cases hrun' : c'.running with
  | false => simp [hS.stopped hrun']
  | true => simp [(hI'.wellFormed c' hS.controller).pending_nonempty hrun']

/-! ## References -/

/-- A completion handler takes no reference and releases one. -/
theorem count_completionHandler (pm : Implementation) (env : Environment)
    (call : HandlerCall CompletionHandler) :
    (pm.completionHandler env call).2.count .addRef = 0 ∧
      (pm.completionHandler env call).2.count .release = 1 := by
  have hcount : ∀ e : Event, e.isDevice = false → e ≠ .selfUnlock →
      (pm.completionHandler env call).2.count e =
        [Event.completion call.handler.newState call.isTimedout call.isRevoked, .release].count e := by
    intro e hdevice hunlock
    rw [List.count_eq_length_filter, List.count_eq_length_filter, ← List.filterMap_eq_filter,
      filterMap_completionHandler]
    · intro e' he'
      have hne : e' ≠ e := by
        rintro rfl
        exact Bool.false_ne_true (hdevice.symm.trans he')
      simp [Option.guard, hne]
    · simp [Option.guard, hunlock.symm]
  exact ⟨hcount .addRef rfl nofun, hcount .release rfl nofun⟩

/-- Answers take and release no reference. -/
theorem count_of_isAnswer (h : ∀ e ∈ es, e.isAnswer = true) :
    es.count .addRef = 0 ∧ es.count .release = 0 :=
  ⟨List.count_eq_zero.mpr fun hmem => Bool.false_ne_true (h _ hmem),
    List.count_eq_zero.mpr fun hmem => Bool.false_ne_true (h _ hmem)⟩

/-- A step that takes a reference makes a completion handler outstanding, and one that releases a
reference settles an outstanding one. -/
theorem references_step (hI : pm.Inv) (h : implementation.step pm l = some (pm', es)) :
    es.count .addRef + (if pm.Outstanding then 1 else 0) =
      es.count .release + if pm'.Outstanding then 1 else 0 := by
  have hkeep : (pm'.Outstanding ↔ pm.Outstanding) → es.count .addRef = es.count .release →
      es.count .addRef + (if pm.Outstanding then 1 else 0) =
        es.count .release + if pm'.Outstanding then 1 else 0 := by
    intro hiff hcount
    by_cases hout : pm.Outstanding
    · simp [hout, hiff.mpr hout, hcount]
    · simp [hout, mt hiff.mp hout, hcount]
  have hsettle : pm.Outstanding → ¬pm'.Outstanding → es.count .addRef = 0 → es.count .release = 1 →
      es.count .addRef + (if pm.Outstanding then 1 else 0) =
        es.count .release + if pm'.Outstanding then 1 else 0 := by
    intro hout hout' hadd hrel
    simp [hout, hout', hadd, hrel]
  have htake : ¬pm.Outstanding → pm'.Outstanding → es.count .addRef = 1 → es.count .release = 0 →
      es.count .addRef + (if pm.Outstanding then 1 else 0) =
        es.count .release + if pm'.Outstanding then 1 else 0 := by
    intro hout hout' hadd hrel
    simp [hout, hout', hadd, hrel]
  cases step_cases hI h with
  | ignored => exact hkeep Iff.rfl rfl
  | @checked n ds hcall hn => exact hkeep (by simp [Outstanding, hcall]) (by split <;> rfl)
  | dropped hcall hdrop => exact hkeep (by simp [Outstanding, hcall]) rfl
  | @installed env n s b cancelled hcall hother hcancel =>
    -- a controller that is cancelled releases its reference as the new one takes its own
    rcases hcancel with ⟨rfl, hstop⟩ | ⟨c, h, hc, hrun, -, rfl⟩
    · refine htake ?_ (.inr ⟨n, s, b, _, rfl⟩) rfl rfl
      rintro (⟨c, hc, hrun⟩ | ⟨_, _, _, _, hcall'⟩)
      · simp [hstop c hc] at hrun
      · simp [hcall] at hcall'
    · exact hkeep (iff_of_true (.inr ⟨n, s, b, _, rfl⟩) (.inl ⟨c, hc, hrun⟩)) rfl
  | @scheduled env n s t c timeout hcall hc hwait =>
    exact hkeep (by simp [Outstanding, hcall]) rfl
  | @completed env n s b t c hcall hc hwait =>
    obtain ⟨⟨c', hc', hstop, -⟩, -⟩ := hI.created n s b t hcall
    obtain ⟨pc, hpm⟩ := pm.completionHandler_fst env ⟨s, n, b⟩ false
    obtain ⟨hadd, hrel⟩ := pm.count_completionHandler env ⟨⟨s, n, b⟩, false, false⟩
    refine hsettle (.inr ⟨n, s, b, t, hcall⟩) ?_ ?_ ?_
    · simp [Outstanding, hpm, hc', hstop]
    · cases b <;> simp [hadd]
    · cases b <;> simp [hrel]
  | @waited l op c c' clients answer hop hc happ hrun hh hempty hanswer =>
    obtain ⟨hadd, hrel⟩ := count_of_isAnswer hanswer
    exact hkeep (by simp [Outstanding, hc, hrun]) (hadd.trans hrel.symm)
  | @fired l env op c c' hdl isTimedout clients answer hop hc happ hrun hh hrun' hwhy hanswer =>
    obtain ⟨hadd, hrel⟩ := count_of_isAnswer hanswer
    obtain ⟨pc, hpm⟩ := completionHandler_fst
      { pm with modeChangeController := some c', modeChangeClients := clients } env hdl isTimedout
    obtain ⟨hadd', hrel'⟩ := count_completionHandler
      { pm with modeChangeController := some c', modeChangeClients := clients } env
      ⟨hdl, isTimedout, false⟩
    refine hsettle (.inl ⟨c, hc, hrun⟩) ?_ ?_ ?_
    · simp [Outstanding, hpm, hrun', hI.not_created hc hrun]
    · simp [hadd, hadd']
    · simp [hrel, hrel']
  | other hl hop hanswer =>
    obtain ⟨hadd, hrel⟩ := count_of_isAnswer hanswer
    exact hkeep Iff.rfl (hadd.trans hrel.symm)

/-- In every state a run reaches, every reference taken has been released, except for one while a
completion handler is outstanding. -/
theorem references_run (hI : pm.Inv) (hnone : ¬pm.Outstanding) (h : implementation.Run pm ls es pm') :
    es.count .addRef = es.count .release + if pm'.Outstanding then 1 else 0 := by
  suffices pm'.Inv ∧ es.count .addRef = es.count .release + if pm'.Outstanding then 1 else 0 from
    this.2
  induction h with
  | nil => exact ⟨hI, by simp [hnone]⟩
  | snoc _ hstep ih =>
    obtain ⟨hI', hcount⟩ := ih
    have hcount' := references_step hI' hstep
    refine ⟨inv_step hI' hstep, ?_⟩
    rw [List.count_append, List.count_append]
    omega

/-! ## Results -/

/-- Who a transition waits for, and when it completes. In every reachable state with a controller,
its pending clients are those that were registered when it was created, less those that have since
acknowledged its transaction or been removed, and are registered; an acknowledgement of another
transaction, or of a client that is not pending, is refused and changes nothing; and if the
controller is about to be scheduled with a timeout, then after any steps that neither cancel it nor
let it time out, it has completed exactly if nobody is pending. -/
theorem awaited_clients (h : implementation.Run (initial pc tid cid) ls os pm)
    (hc : pm.modeChangeController = some c) :
    (∃ q since, CreatedAt (initial pc tid cid) ls c q since ∧ Awaits q since c) ∧
      c.pending ⊆ pm.registered ∧
      (∀ id t env, t ≠ c.transactionId ∨ id ∉ c.pending →
        implementation.step pm (.powerModePreChangeComplete id t env) =
          some (pm, [.returned .errorInvalidParameter])) ∧
      ∀ n s b t env since es pm', pm.call = .created n s b t → t ≠ 0 →
        (∀ env, .create env ∉ since ∧ .timer env ∉ since) →
        implementation.Run pm (.schedule env :: since) es pm' →
          ∃ c', pm'.modeChangeController = some c' ∧ c'.transactionId = c.transactionId ∧
            completions es = if c'.pending = ∅ then [(n, false, false)] else [] := by
  obtain ⟨hI, hrun⟩ := awaits_run (inv_initial pc tid cid) rfl h
  obtain ⟨hsub, hawaits⟩ := hrun c hc
  refine ⟨hawaits, hsub, ?_, ?_⟩
  · intro id t env hbad
    have hsame : ({ pm with modeChangeController := some c } : Implementation) = pm := by rw [← hc]
    rcases c.ack_cases id t with ⟨-, he⟩ | ⟨hgood, -⟩ | ⟨hgood, -⟩
    · simp [implementation, powerModePreChangeComplete, hc, he, completionHandlers, hsame]
    · exact absurd hgood (by tauto)
    · exact absurd hgood (by tauto)
  · intro n s b t env since es pm' hcall ht hsince hrun'
    exact completions_of_scheduled hI hc hcall ht hsince hrun'

/-- With two clients, a transition that one of them has acknowledged waits for the other one, and
refuses a second acknowledgement. -/
theorem awaited_clients_of_two :
    ∃ ls os pm c, implementation.Run (initial .isOn 0 0) ls os pm ∧
      pm.modeChangeController = some c ∧ c.pending = {2} ∧
      implementation.step pm (.powerModePreChangeComplete 1 1 .accepts) =
        some (pm, [.returned .errorInvalidParameter]) := by
  have h : implementation.Run (initial .isOn 0 0) [.addPowerModePreChangeClient "first",
      .addPowerModePreChangeClient "second", .request .standby .awake, .create .accepts,
      .powerModePreChangeComplete 1 1 .accepts, .schedule .accepts] _ _ := Machine.run_of_exec rfl
  refine ⟨_, _, _, _, h, rfl, ?_, (awaited_clients h rfl).2.2.1 1 1 .accepts (.inr ?_)⟩
  all_goals decide

/-- Every completion handler is called exactly once, and every reference taken for one is released.
Over the lifetime of a controller that is scheduled once, the handler is called once, with the
arguments of the outcome; and in every state that a run of the implementation reaches, as many
references have been released as taken, except for that of a handler that is still outstanding. -/
theorem completed_once {H : Type*} {powerState : PowerState} {transactionId : ℤ} {created now : Time}
    {offset : UInt64} {hdl : H} {before after : List AckController.Op}
    {calls : List (HandlerCall H)} {x : Option (AckController H)}
    (hlife : (AckController.lifetime H).Run
      (some (AckController.create powerState transactionId created))
      (before.map .op ++ .schedule now offset hdl :: (after.map .op ++ [.destroy])) calls x)
    (hrun : implementation.Run (initial pc tid cid) ls os pm) :
    calls = [(AckController.scheduledOutcome transactionId
        (before.foldl (AckController.Op.pending transactionId) ∅) offset after).call hdl] ∧
      os.count .addRef = os.count .release + if pm.Outstanding then 1 else 0 :=
  ⟨AckController.run_lifetime hlife,
    references_run (inv_initial pc tid cid) (by simp [Outstanding, initial]) hrun⟩

/-- Of two clients one acknowledges, then the timer is dispatched: the handler learns of a timeout,
and a late acknowledgement does not call it again. -/
theorem completed_once_of_timeout :
    ∃ calls x os pm,
      (AckController.lifetime Unit).Run (some (AckController.create .standby 1 0))
        ([.ackAwait 1, .ackAwait 2].map .op ++ .schedule 0 1000 () ::
          ([.ack 1 1, .dispatchTimer, .ack 2 1].map .op ++ [.destroy])) calls x ∧
      implementation.Run (initial .isOn 0 0) [.request .standby .awake, .create .accepts,
        .schedule .accepts] os pm ∧
      calls = [⟨(), true, false⟩] ∧ os.count .addRef = os.count .release := by
  obtain ⟨calls, x, hlife, -⟩ : ∃ calls x,
      (AckController.lifetime Unit).Run (some (AckController.create .standby 1 0))
        ([.ackAwait 1, .ackAwait 2].map .op ++ .schedule 0 1000 () ::
          ([.ack 1 1, .dispatchTimer, .ack 2 1].map .op ++ [.destroy])) calls x ∧ True :=
    Machine.exists_outputs_of_exec (by decide +kernel)
  obtain ⟨os, pm, hrun, hdone⟩ : ∃ os pm, implementation.Run (initial .isOn 0 0)
      [.request .standby .awake, .create .accepts, .schedule .accepts] os pm ∧ ¬pm.Outstanding :=
    Machine.exists_outputs_of_exec (by decide +kernel)
  obtain ⟨hcalls, hcount⟩ := completed_once hlife hrun
  refine ⟨_, _, _, _, hlife, hrun, hcalls.trans (by decide), ?_⟩
  rw [hcount, if_neg hdone, Nat.add_zero]

end Implementation

end PowerManager
