import PowerManager.AckController.Lifetime
import PowerManager.Implementation.Basic

/-!
# What a step of the implementation can do

`Implementation.Inv` is the invariant of the implementation. Under it, `step_cases` says once and
for all what a step can do: `StepCase` has one case for each way through a section of
`SetPowerState`, and treats the other operations by what they do to the controller. `inv_step` and
all further invariants are case analyses of `StepCase`.
-/

namespace PowerManager

/-- Whether a step belongs to a `SetPowerState` call. -/
def Label.isSetPowerState : Label → Bool
  | .request .. | .create _ | .schedule _ => true
  | _ => false

/-- Whether an event is an answer to the caller of an interface method. -/
def Event.isAnswer : Event → Bool
  | .returned _ | .clientId _ => true
  | _ => false

/-- Whether an event belongs to the change of the power state itself. -/
def Event.isDevice : Event → Bool
  | .applied .. | .save _ | .modeChanged .. | .activate .. => true
  | _ => false

namespace Implementation

/-- The invariant of the implementation. -/
structure Inv (pm : Implementation) : Prop where
  wellFormed : ∀ c, pm.modeChangeController = some c → c.WellFormed
  /-- A running controller holds an asynchronous handler for its own target. -/
  handler : ∀ c h, pm.modeChangeController = some c → c.running = true → c.handler = some h →
    h.newState = c.powerState ∧ h.isSync = false
  /-- A controller is installed before its call goes on to `Schedule`. -/
  created : ∀ newState currState isSync timeOut,
    pm.call = .created newState currState isSync timeOut →
      (∃ c, pm.modeChangeController = some c ∧ c.running = false ∧ c.powerState = newState) ∧
        timeOut = if isSync then 0 else powerModePrechangeTimeoutSec
  /-- `selfLock` is held exactly while a `SetPowerState` call is under way. -/
  selfLock : pm.selfLock = true ↔ pm.call = .idle

/-- A completion handler is outstanding: the controller is running, or the current call has created
it and has yet to schedule it. -/
def Outstanding (pm : Implementation) : Prop :=
  (∃ c, pm.modeChangeController = some c ∧ c.running = true) ∨
    ∃ newState currState isSync timeOut, pm.call = .created newState currState isSync timeOut

instance (pm : Implementation) : Decidable pm.Outstanding :=
  decidable_of_iff
    (pm.modeChangeController.any (·.running) = true ∨
      (match pm.call with | .created .. => true | _ => false) = true) <| by
    unfold Outstanding
    refine or_congr (by simp [Option.any_eq_true]) ?_
    cases pm.call <;> simp

/-- The operation that a step performs on the controller. -/
def op? (pm : Implementation) : Label → Option AckController.Op
  | .powerModePreChangeComplete clientId transactionId _ => some (.ack clientId transactionId)
  | .delayPowerModeChangeBy clientId transactionId delayPeriod now =>
    some (.reschedule clientId transactionId (delayPeriod * 1000) now)
  | .removePowerModePreChangeClient clientId _ =>
    if clientId ∈ pm.modeChangeClients then some (.ackClient clientId) else none
  | .timer _ => some .dispatchTimer
  | _ => none

variable {pm pm' : Implementation} {es : List Event} {l : Label}

/-- The invariant holds after construction. -/
theorem inv_initial (pc : PowerController) (transactionId : ℤ) (clientId : UInt32) :
    (initial pc transactionId clientId).Inv := by
  constructor <;> simp [initial]

/-- A controller that is running belongs to a call that has returned. -/
theorem Inv.not_created {c : AckController CompletionHandler} (hI : pm.Inv)
    (hc : pm.modeChangeController = some c) (hrun : c.running = true) (n s : PowerState) (b : Bool)
    (t : UInt32) : pm.call ≠ .created n s b t := by
  intro hcall
  obtain ⟨⟨c', hc', hstop, -⟩, -⟩ := hI.created n s b t hcall
  obtain rfl : c = c' := Option.some.inj (hc.symm.trans hc')
  simp [hrun] at hstop

/-! ## Completion handlers -/

/-- `setDevicePowerState` changes only the power controller. -/
theorem setDevicePowerState_fst (pm : Implementation) (env : Environment) (s n : PowerState) :
    ∃ pc, (pm.setDevicePowerState env s n).1 = { pm with powerController := pc } := by
  refine ⟨(pm.powerController.setPowerState env n).2.1, ?_⟩
  simp only [setDevicePowerState]
  split
  · rfl
  · split <;> rfl

/-- The events of `setDevicePowerState`. -/
theorem isDevice_of_mem {pm : Implementation} {env : Environment} {s n : PowerState} {e : Event}
    (h : e ∈ (pm.setDevicePowerState env s n).2) : e.isDevice = true := by
  have hsave : ∀ settings : Option Settings,
      e ∈ settings.toList.map Event.save → e.isDevice = true := by
    rintro (- | settings) he
    · simp at he
    · obtain rfl : e = .save settings := by simpa using he
      rfl
  simp only [setDevicePowerState] at h
  split at h
  · rcases List.mem_cons.mp h with rfl | h
    · rfl
    · exact hsave _ h
  · split at h <;>
      simp only [List.cons_append, List.mem_cons, List.mem_append, List.not_mem_nil, or_false] at h
    · rcases h with rfl | h | rfl | rfl
      exacts [rfl, hsave _ h, rfl, rfl]
    · rcases h with rfl | h | rfl
      exacts [rfl, hsave _ h, rfl]

/-- Observers that look at no answer find nothing in a list of answers. -/
theorem filterMap_of_isAnswer {α : Type*} {f : Event → Option α}
    (hanswer : ∀ e : Event, e.isAnswer = true → f e = none) (h : ∀ e ∈ es, e.isAnswer = true) :
    es.filterMap f = [] :=
  List.filterMap_eq_nil_iff.mpr fun e he => hanswer e (h e he)

/-- What a completion handler does, for observers that look neither at the change of the power
state itself nor at `selfLock`. -/
theorem filterMap_completionHandler {α : Type*} {f : Event → Option α}
    (hdevice : ∀ e : Event, e.isDevice = true → f e = none) (hunlock : f .selfUnlock = none)
    (pm : Implementation) (env : Environment) (call : HandlerCall CompletionHandler) :
    (pm.completionHandler env call).2.filterMap f =
      [Event.completion call.handler.newState call.isTimedout call.isRevoked,
        .release].filterMap f := by
  have hset : (pm.setDevicePowerState env call.handler.currState
      call.handler.newState).2.filterMap f = [] :=
    List.filterMap_eq_nil_iff.mpr fun e he => hdevice e (isDevice_of_mem he)
  cases hs : call.handler.isSync <;> cases hr : call.isRevoked <;>
    simp [completionHandler, hs, hr, hset, hunlock, List.filterMap_cons]

/-- A completion handler that is not revoked changes only the power controller, and releases
`selfLock` if it is synchronous. -/
theorem completionHandler_fst (pm : Implementation) (env : Environment) (h : CompletionHandler)
    (isTimedout : Bool) :
    ∃ pc, (pm.completionHandler env ⟨h, isTimedout, false⟩).1 =
      { pm with powerController := pc, selfLock := pm.selfLock || h.isSync } := by
  obtain ⟨pc, hpm⟩ := pm.setDevicePowerState_fst env h.currState h.newState
  exact ⟨pc, by cases hs : h.isSync <;> simp [completionHandler, hpm, hs, selfUnlock]⟩

/-- The events of a revoked asynchronous completion handler, which changes nothing. -/
theorem completionHandler_revoked (pm : Implementation) (env : Environment)
    {h : CompletionHandler} (hs : h.isSync = false) (isTimedout : Bool) :
    pm.completionHandler env ⟨h, isTimedout, true⟩ =
      (pm, [.completion h.newState isTimedout true, .release]) := by
  simp [completionHandler, hs]

/-- The destruction of the old controller cancels the transition that is under way. -/
theorem revoke_cases (hI : pm.Inv) (q : Implementation) (env : Environment) :
    ∃ cancelled, q.completionHandlers env
        ((pm.modeChangeController.map (·.revoke.2)).getD []) = (q, cancelled) ∧
      ((cancelled = [] ∧ ∀ c, pm.modeChangeController = some c → c.running = false) ∨
        ∃ c h, pm.modeChangeController = some c ∧ c.running = true ∧ c.handler = some h ∧
          cancelled = [.completion h.newState false true, .release]) := by
  cases hc : pm.modeChangeController with
  | none => exact ⟨[], by simp [completionHandlers], .inl ⟨rfl, by simp⟩⟩
  | some c =>
    have hw := hI.wellFormed c hc
    cases hrun : c.running with
    | false =>
      refine ⟨[], ?_, .inl ⟨rfl, ?_⟩⟩
      · simp [c.revoke_of_stopped hrun, completionHandlers]
      · rintro c' ⟨⟩
        exact hrun
    | true =>
      obtain ⟨h, hh⟩ := hw.exists_handler hrun
      -- a revoked handler only unlocks: the target is not applied
      have hq := q.completionHandler_revoked env (hI.handler c h hc hrun hh).2 false
      exact ⟨_, by simp [hw.revoke_of_running hrun hh, completionHandlers, hq],
        .inr ⟨c, h, rfl, hrun, hh, rfl⟩⟩

/-! ## The cases -/

/-- The step `l` leaves the clients `clients`: it removes none but the one it names. -/
def Leaves (pm : Implementation) (l : Label) (clients : AList fun _ : UInt32 => String) : Prop :=
  ∀ id ∈ pm.modeChangeClients, (∀ env, l ≠ .removePowerModePreChangeClient id env) → id ∈ clients

/-- What a step can do. -/
inductive StepCase (pm : Implementation) : Label → Implementation → List Event → Prop
  /-- The request is for the current state, or falls into the transient window. -/
  | ignored {n : PowerState} {ds : DeepSleepStatus} (hcall : pm.call = .idle)
      (h : n = pm.powerState ∨ (pm.powerState = .standbyDeepSleep ∧ ds.transient = true)) :
      StepCase pm (.request n ds) pm [.selfLock, .selfUnlock, .returned .errorNone]
  | checked {n : PowerState} {ds : DeepSleepStatus} (hcall : pm.call = .idle)
      (h : ¬(n = pm.powerState ∨ (pm.powerState = .standbyDeepSleep ∧ ds.transient = true))) :
      StepCase pm (.request n ds)
        { pm with
          selfLock := false
          call := .checked n pm.powerState (isSyncStateChange pm.powerState n) }
        (.selfLock :: if pm.powerState = .standbyDeepSleep then [.deactivate] else [])
  /-- The request repeats the one of the last controller. -/
  | dropped {env : Environment} {n s : PowerState} {b : Bool} (hcall : pm.call = .checked n s b)
      (h : pm.modeChangeController.map (·.powerState) = some n) :
      StepCase pm (.create env) { pm with selfLock := true, call := .idle }
        [.selfUnlock, .returned .errorNone]
  | installed {env : Environment} {n s : PowerState} {b : Bool} {cancelled : List Event}
      (hcall : pm.call = .checked n s b) (h : pm.modeChangeController.map (·.powerState) ≠ some n)
      (hcancel : (cancelled = [] ∧ ∀ c, pm.modeChangeController = some c → c.running = false) ∨
        ∃ c h, pm.modeChangeController = some c ∧ c.running = true ∧ c.handler = some h ∧
          cancelled = [.completion h.newState false true, .release]) :
      StepCase pm (.create env)
        { pm with
          modeChangeController := some
            { AckController.create n (pm.nextTransactionId + 1) env.now with
              pending := pm.registered }
          nextTransactionId := pm.nextTransactionId + 1
          call := .created n s b (if b then 0 else powerModePrechangeTimeoutSec) }
        (cancelled ++ [.addRef, .preChange s n (pm.nextTransactionId + 1)
          (if b then 0 else powerModePrechangeTimeoutSec)])
  /-- `Schedule` has somebody to wait for. -/
  | scheduled {env : Environment} {n s : PowerState} {t : UInt32}
      {c : AckController CompletionHandler} {timeout : Time}
      (hcall : pm.call = .created n s false t) (hc : pm.modeChangeController = some c)
      (hwait : c.pending ≠ ∅) :
      StepCase pm (.schedule env)
        { pm with
          modeChangeController := some
            { c with
              running := true
              handler := some ⟨s, n, false⟩
              timeout
              timerJobValid := true
              scheduled := some timeout }
          selfLock := true
          call := .idle }
        [.selfUnlock, .returned .errorNone]
  /-- `Schedule` has nothing to wait for, and completes the transition. -/
  | completed {env : Environment} {n s : PowerState} {b : Bool} {t : UInt32}
      {c : AckController CompletionHandler} (hcall : pm.call = .created n s b t)
      (hc : pm.modeChangeController = some c) (hwait : c.pending = ∅ ∨ b = true) :
      StepCase pm (.schedule env)
        { (pm.completionHandler env ⟨⟨s, n, b⟩, false, false⟩).1 with
          selfLock := true
          call := .idle }
        ((pm.completionHandler env ⟨⟨s, n, b⟩, false, false⟩).2 ++
          if b then [.returned .errorNone] else [.selfUnlock, .returned .errorNone])
  /-- Another operation leaves the controller waiting, or stopped. -/
  | waited {l : Label} {op : AckController.Op} {c c' : AckController CompletionHandler}
      {clients : AList fun _ : UInt32 => String} {answer : List Event} (hop : pm.op? l = some op)
      (hc : pm.modeChangeController = some c) (happ : c.applyOp op = some (c', []))
      (hrun : c'.running = c.running) (hh : c.running = true → c'.handler = c.handler)
      (hempty : c.running = true → c'.pending ≠ ∅)
      (hanswer : ∀ e ∈ answer, e.isAnswer = true) (hclients : pm.Leaves l clients) :
      StepCase pm l { pm with modeChangeController := some c', modeChangeClients := clients } answer
  /-- Another operation completes the transition. -/
  | fired {l : Label} {env : Environment} {op : AckController.Op}
      {c c' : AckController CompletionHandler} {h : CompletionHandler} {isTimedout : Bool}
      {clients : AList fun _ : UInt32 => String} {answer : List Event}
      (hop : pm.op? l = some op) (hc : pm.modeChangeController = some c)
      (happ : c.applyOp op = some (c', [⟨h, isTimedout, false⟩])) (hrun : c.running = true)
      (hh : c.handler = some h) (hrun' : c'.running = false)
      (hwhy : isTimedout = true ∧ op = .dispatchTimer ∨
        isTimedout = false ∧ op ≠ .dispatchTimer ∧ c'.pending = ∅)
      (hanswer : ∀ e ∈ answer, e.isAnswer = true) (hclients : pm.Leaves l clients) :
      StepCase pm l
        (completionHandler
          { pm with modeChangeController := some c', modeChangeClients := clients } env
          ⟨h, isTimedout, false⟩).1
        ((completionHandler
          { pm with modeChangeController := some c', modeChangeClients := clients } env
          ⟨h, isTimedout, false⟩).2 ++ answer)
  /-- Another operation does not reach the controller. -/
  | other {l : Label} {clients : AList fun _ : UInt32 => String} {id : UInt32} {answer : List Event}
      (hl : l.isSetPowerState = false) (hop : pm.op? l = none ∨ pm.modeChangeController = none)
      (hanswer : ∀ e ∈ answer, e.isAnswer = true) (hclients : pm.Leaves l clients) :
      StepCase pm l { pm with modeChangeClients := clients, nextClientId := id } answer

/-- The first section of `SetPowerState`. -/
theorem setPowerStateRead_cases (hI : pm.Inv) (hlock : pm.selfLock = true) (n : PowerState)
    (ds : DeepSleepStatus) :
    StepCase pm (.request n ds) (pm.setPowerStateRead n ds).1 (pm.setPowerStateRead n ds).2 := by
  have hidle := hI.selfLock.mp hlock
  have hsame : ({ pm with selfLock := true } : Implementation) = pm := by rw [← hlock]
  have hignored := @StepCase.ignored pm n ds hidle
  have hchecked := @StepCase.checked pm n ds hidle
  simp only [setPowerStateRead, selfUnlock, hsame, powerState] at hignored hchecked ⊢
  split
  · rename_i heq
    exact hignored (.inl heq.symm)
  · rename_i hne
    split
    · rename_i hdeep
      split
      · rename_i htr
        exact hignored (.inr ⟨hdeep, htr⟩)
      · rename_i htr
        simpa [hdeep] using hchecked (by simp [Ne.symm hne, htr])
    · rename_i hdeep
      simpa [hdeep] using hchecked (by simp [Ne.symm hne, hdeep])

/-- The second section of `SetPowerState`. -/
theorem setPowerStateCreate_cases (hI : pm.Inv) {n s : PowerState} {b : Bool}
    (hcall : pm.call = .checked n s b) (env : Environment) :
    StepCase pm (.create env) (pm.setPowerStateCreate env n s b).1
      (pm.setPowerStateCreate env n s b).2 := by
  unfold setPowerStateCreate
  split
  · rename_i hsame
    exact .dropped hcall hsame
  · rename_i hother
    -- the assignment destroys the old controller
    obtain ⟨cancelled, hq, hcancel⟩ := revoke_cases hI { pm with modeChangeController := none } env
    have hinstalled := @StepCase.installed pm env n s b cancelled hcall hother hcancel
    simpa [hq, AckController.foldl_ackAwait, AckController.create, registered] using hinstalled

/-- The last section of `SetPowerState`. -/
theorem setPowerStateSchedule_cases {c : AckController CompletionHandler} (hI : pm.Inv)
    {n s : PowerState} {b : Bool} {t : UInt32} (hcall : pm.call = .created n s b t)
    (hc : pm.modeChangeController = some c) (env : Environment) :
    StepCase pm (.schedule env) (pm.setPowerStateSchedule env c n s b t).1
      (pm.setPowerStateSchedule env c n s b t).2 := by
  obtain ⟨-, htime⟩ := hI.created n s b t hcall
  have hsame : ({ pm with modeChangeController := some c } : Implementation) = pm := by rw [← hc]
  unfold setPowerStateSchedule
  rcases c.schedule_cases env.now (t * 1000).toUInt64 ⟨s, n, b⟩ with ⟨hnow, he⟩ | ⟨hwait, he⟩
  · -- nobody is waited for, or the time is zero, which it is only if `b` is true
    have hnow' : c.pending = ∅ ∨ b = true := by
      refine hnow.imp_right fun h => ?_
      by_contra hb
      rw [htime, if_neg hb] at h
      exact absurd h (by decide)
    obtain ⟨pc, hpm⟩ := pm.completionHandler_fst env ⟨s, n, b⟩ false
    have hcompleted := @StepCase.completed pm env n s b t c hcall hc hnow'
    simp only [he]
    cases b <;> simpa [completionHandlers, hsame, selfUnlock, hpm] using hcompleted
  · obtain rfl : b = false := by
      by_contra hb
      exact hwait (.inr (by simp [htime, hb]))
    simp only [he]
    simpa [completionHandlers, selfUnlock] using
      StepCase.scheduled hcall hc fun h => hwait (.inl h)

/-- An operation on the controller. -/
theorem applyOp_cases {c : AckController CompletionHandler} {op : AckController.Op}
    {r : AckController CompletionHandler × List (HandlerCall CompletionHandler)} (hI : pm.Inv)
    (hop : pm.op? l = some op) (hc : pm.modeChangeController = some c) (happ : c.applyOp op = some r)
    (env : Environment) {clients : AList fun _ : UInt32 => String} {answer : List Event}
    (hanswer : ∀ e ∈ answer, e.isAnswer = true) (hclients : pm.Leaves l clients) :
    StepCase pm l
      (completionHandlers { pm with modeChangeController := some r.1, modeChangeClients := clients }
        env r.2).1
      ((completionHandlers { pm with modeChangeController := some r.1, modeChangeClients := clients }
        env r.2).2 ++ answer) := by
  obtain ⟨c', calls⟩ := r
  have hw := hI.wellFormed c hc
  cases hrun : c.running with
  | false =>
    obtain ⟨rfl, hrun'⟩ := AckController.applyOp_of_stopped hw hrun happ
    -- a transition that has completed stays silent
    exact .waited hop hc happ (hrun'.trans hrun.symm) (by simp [hrun]) (by simp [hrun]) hanswer
      hclients
  | true =>
    obtain ⟨hdl, hh⟩ := hw.exists_handler hrun
    rcases AckController.applyOp_of_running hw hrun hh happ with
      ⟨hd, hrun', rfl⟩ | ⟨hd, hempty, hrun', rfl⟩ | ⟨-, hempty, hrun', hh', rfl⟩
    · simpa [completionHandlers, AckController.Outcome.call] using
        StepCase.fired hop hc happ hrun hh hrun' (.inl ⟨rfl, hd⟩) hanswer hclients
    · simpa [completionHandlers, AckController.Outcome.call] using
        StepCase.fired hop hc happ hrun hh hrun' (.inr ⟨rfl, hd, hempty⟩) hanswer hclients
    · exact .waited hop hc happ (hrun'.trans hrun.symm) (fun _ => hh'.trans hh.symm)
        (fun _ => hempty) hanswer hclients

/-- Every step of the implementation is one of the cases. -/
theorem step_cases (hI : pm.Inv) (h : implementation.step pm l = some (pm', es)) :
    StepCase pm l pm' es := by
  have hpair : ∀ r : Implementation × List Event, some r = some (pm', es) → StepCase pm l r.1 r.2 →
      StepCase pm l pm' es := by
    rintro r ⟨⟩ hr
    exact hr
  have hreturned : ∀ c, ∀ e ∈ [Event.returned c], e.isAnswer = true := by simp [Event.isAnswer]
  have hsame : pm.Leaves l pm.modeChangeClients := fun id hid _ => hid
  cases l with
  | request n ds =>
    simp only [implementation] at h
    split at h
    · exact hpair _ h (setPowerStateRead_cases hI ‹_› n ds)
    · cases h
  | create env =>
    simp only [implementation] at h
    split at h
    · exact hpair _ h (setPowerStateCreate_cases hI ‹_› env)
    · cases h
  | schedule env =>
    simp only [implementation] at h
    split at h
    · exact hpair _ h (setPowerStateSchedule_cases hI ‹_› ‹_› env)
    · cases h
  | powerModePreChangeComplete id t env =>
    refine hpair _ h ?_
    cases hc : pm.modeChangeController with
    | none =>
      simp only [powerModePreChangeComplete, hc]
      exact .other rfl (.inr hc) (hreturned _) hsame
    | some c =>
      simp only [powerModePreChangeComplete, hc]
      exact applyOp_cases hI rfl hc rfl env (hreturned _) hsame
  | delayPowerModeChangeBy id t d now =>
    refine hpair _ h ?_
    cases hc : pm.modeChangeController with
    | none =>
      simp only [delayPowerModeChangeBy, hc]
      exact .other rfl (.inr hc) (hreturned _) hsame
    | some c =>
      have happ : c.applyOp (.reschedule id t (d * 1000) now) =
          some ((c.reschedule id t (d * 1000) now).2, []) := rfl
      simp only [delayPowerModeChangeBy, hc]
      -- no handler is called, so that the environment does not matter
      exact applyOp_cases hI rfl hc happ ⟨false, .errorNone, now, 0⟩ (hreturned _) hsame
  | addPowerModePreChangeClient name =>
    refine hpair _ h ?_
    simp only [addPowerModePreChangeClient]
    split
    · exact .other rfl (.inl rfl) (hreturned _) hsame
    · split
      · exact .other rfl (.inl rfl) (by simp [Event.isAnswer]) hsame
      · exact .other rfl (.inl rfl) (by simp [Event.isAnswer]) fun id hid _ =>
          (AList.mem_insert _).mpr (.inr hid)
  | removePowerModePreChangeClient id env =>
    have herase : pm.Leaves (.removePowerModePreChangeClient id env)
        (pm.modeChangeClients.erase id) := by
      intro id' hid' hne
      have hid : id' ≠ id := by
        rintro rfl
        exact hne env rfl
      exact AList.mem_erase.mpr ⟨hid, hid'⟩
    refine hpair _ h ?_
    simp only [removePowerModePreChangeClient]
    split
    · exact .other rfl (.inl (if_neg ‹_›)) (hreturned _) hsame
    · rename_i hmem
      split
      · exact .other rfl (.inr ‹_›) (hreturned _) herase
      · rename_i c hc
        have hop : pm.op? (.removePowerModePreChangeClient id env) = some (.ackClient id) :=
          if_pos (not_not.mp hmem)
        exact applyOp_cases hI hop hc rfl env (hreturned _) herase
  | timer env =>
    simp only [implementation] at h
    split at h
    · rename_i c hc
      split at h
      · rename_i hsch
        have happ : c.applyOp .dispatchTimer = some c.dispatchTimer := if_pos hsch
        refine hpair _ h ?_
        simpa [dispatchTimer] using
          applyOp_cases hI rfl hc happ env (List.forall_mem_nil _) hsame
      · cases h
    · cases h

/-- Every step keeps the invariant. -/
theorem inv_step (hI : pm.Inv) (h : implementation.step pm l = some (pm', es)) : pm'.Inv := by
  cases step_cases hI h with
  | ignored hcall h => exact hI
  | checked hcall h => exact ⟨hI.wellFormed, hI.handler, by simp, by simp⟩
  | dropped hcall h => exact ⟨hI.wellFormed, hI.handler, by simp, by simp⟩
  | @installed env n s b cancelled hcall h hcancel =>
    -- the new controller has no handler before `Schedule`
    refine ⟨?_, ?_, ?_, by simpa [hcall] using hI.selfLock⟩
    · intro c hc
      rw [← Option.some.inj hc]
      exact .of_stopped rfl rfl
    · rintro c h hc hrun
      rw [← Option.some.inj hc] at hrun
      cases hrun
    · intro n' s' b' t' hcall'
      obtain ⟨rfl, rfl, rfl, rfl⟩ : n = n' ∧ s = s' ∧ b = b' ∧ _ = t' := by simpa using hcall'
      exact ⟨⟨_, rfl, rfl, rfl⟩, rfl⟩
  | @scheduled env n s t c timeout hcall hc hwait =>
    -- `Schedule` reaches the controller that this call has created, so its handler has its target
    obtain ⟨⟨c', hc', -, htarget⟩, -⟩ := hI.created n s false t hcall
    obtain rfl : c = c' := Option.some.inj (hc.symm.trans hc')
    refine ⟨?_, ?_, by simp, by simp⟩
    · intro c₁ hc₁
      rw [← Option.some.inj hc₁]
      exact ⟨fun _ => hwait, fun _ => rfl, fun _ => rfl, fun _ => rfl, by simp⟩
    · rintro c₁ h hc₁ - hh
      rw [← Option.some.inj hc₁] at hh ⊢
      rw [← Option.some.inj hh]
      exact ⟨htarget.symm, rfl⟩
  | @completed env n s b t c hcall hc hwait =>
    obtain ⟨pc, hpm⟩ := pm.completionHandler_fst env ⟨s, n, b⟩ false
    rw [hpm]
    exact ⟨hI.wellFormed, hI.handler, by simp, by simp⟩
  | @waited l op c c' clients answer hop hc happ hrun hh hempty hanswer hclients =>
    have hw := (hI.wellFormed c hc).applyOp happ
    obtain ⟨htarget, -, -⟩ := AckController.applyOp_frame happ
    refine ⟨fun c₁ hc₁ => Option.some.inj hc₁ ▸ hw, ?_, ?_, hI.selfLock⟩
    · rintro c₁ h hc₁ hrun₁ hh₁
      obtain rfl := Option.some.inj hc₁
      rw [hrun] at hrun₁
      rw [htarget]
      exact hI.handler c h hc hrun₁ (hh hrun₁ ▸ hh₁)
    · intro n s b t hcall
      obtain ⟨⟨c₀, hc₀, hstop, htarget₀⟩, htime⟩ := hI.created n s b t hcall
      obtain rfl : c = c₀ := Option.some.inj (hc.symm.trans hc₀)
      exact ⟨⟨c', rfl, hrun.trans hstop, htarget.trans htarget₀⟩, htime⟩
  | @fired l env op c c' hdl isTimedout clients answer hop hc happ hrun hh hrun' hwhy hanswer
      hclients =>
    have hw := (hI.wellFormed c hc).applyOp happ
    obtain ⟨pc, hpm⟩ := completionHandler_fst
      { pm with modeChangeController := some c', modeChangeClients := clients } env hdl isTimedout
    -- a handler that was kept is not synchronous, so `selfLock` stays with the call that has it
    rw [hpm, (hI.handler c hdl hc hrun hh).2, Bool.or_false]
    refine ⟨fun c₁ hc₁ => Option.some.inj hc₁ ▸ hw, ?_, ?_, hI.selfLock⟩
    · rintro c₁ h₁ hc₁ hrun₁
      rw [← Option.some.inj hc₁, hrun'] at hrun₁
      cases hrun₁
    · exact fun n s b t hcall => absurd hcall (hI.not_created hc hrun n s b t)
  | other hl hop hanswer hclients => exact ⟨hI.wellFormed, hI.handler, hI.created, hI.selfLock⟩

end Implementation

end PowerManager
