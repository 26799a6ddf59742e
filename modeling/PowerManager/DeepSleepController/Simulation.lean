import PowerManager.DeepSleepController.Threads

/-!
# The controller runs on its threads

What `deepSleepController` does in a single step, the threads of `deepSleepThreads` do in several,
and others may come between. If nobody does, the threads get to where the controller gets to. So
every run of the controller is one of its threads, with the same calls and returns
(`run_on_threads`): the controller does nothing that its threads cannot do.
-/

namespace PowerManager.DeepSleepController

/-- The place of an activation whose phase is given. -/
def Phase.place : Phase → Threads.Place
  | .queued timeOut nwStandbyMode => .queued timeOut nwStandbyMode
  | .delayed scheduled => .delayed scheduled
  | .preDelay => .preDelay
  | .attempt retryCount => .head retryCount
  | .inPlatform retryCount => .inPlatform retryCount
  | .retryDelay retryCount => .retryDelay retryCount
  | .notifying => .notifying
  | .over => .over

/-- The stage of an activation whose phase is given. -/
def Phase.stage : Phase → FlagStage
  | .preDelay | .retryDelay _ => .locking .await
  | _ => .away

/-- The places of the activations. -/
def places (phase : ℕ → Phase) (id : ℕ) : Threads.Place := (phase id).place

/-- The stages of the threads between two calls of `Deactivate`. -/
def stages (phase : ℕ → Phase) : Threads.Thread → FlagStage
  | .activation id => (phase id).stage
  | .deactivation _ => .away

/-- The threads of a controller between two of its steps, after `n` calls of `Deactivate`. -/
def threads (ds : DeepSleepController) (n : ℕ) : Threads where
  abortState := ⟨ds.abortRequested, none, stages ds.phase⟩
  deepSleepState := ds.deepSleepState
  deepsleepStartTime := ds.deepsleepStartTime
  deepSleepDelaySec := ds.deepSleepDelaySec
  deepSleepWakeupTimeoutSec := ds.deepSleepWakeupTimeoutSec
  deepSleepDelayJob := ds.deepSleepDelayJob
  nwStandbyMode := ds.nwStandbyMode
  nextActivation := ds.nextId
  place := places ds.phase
  nextDeactivation := n
  deactivation := fun _ => .over

namespace Threads

variable {ds ds' : DeepSleepController} {ts : Threads} {es : List Event}
  {l : DeepSleepController.Label} {ls : List DeepSleepController.Label} {id : ℕ} {t : Thread}
  {op : FlagOp} {p : Phase}

@[simp]
theorem places_update (phase : ℕ → Phase) (id : ℕ) (p : Phase) :
    places (Function.update phase id p) = Function.update (places phase) id p.place :=
  Function.comp_update Phase.place phase id p

@[simp]
theorem stages_update (phase : ℕ → Phase) (id : ℕ) (p : Phase) :
    stages (Function.update phase id p) =
      Function.update (stages phase) (.activation id) p.stage := by
  funext t
  cases t with
  | deactivation i => rw [Function.update_of_ne (by simp)]; rfl
  | activation j =>
    by_cases hj : j = id
    · subst hj
      simp [stages]
    · rw [Function.update_of_ne (by simpa using hj)]
      simp [stages, hj]

/-- An activation that is away stays where it is when its stage is set to that. -/
theorem update_stages {phase : ℕ → Phase} (h : (phase id).stage = .away) :
    Function.update (stages phase) (.activation id) .away = stages phase := by
  rw [← h]
  exact Function.update_eq_self _ _

theorem setPlace_setPlace (ts : Threads) (id : ℕ) (p q : Place) :
    (ts.setPlace id p).setPlace id q = ts.setPlace id q := by
  simp [setPlace]

theorem threads_setPhase (ds : DeepSleepController) (id : ℕ) (p : Phase) (n : ℕ) :
    (ds.setPhase id p).threads n =
      { (ds.threads n).setPlace id p.place with
        abortState := (ds.threads n).abortState.setStage (.activation id) p.stage } := by
  simp [DeepSleepController.threads, DeepSleepController.setPhase, setPlace, GuardedFlag.setStage]

/-- An activation that has not used the flag, and does not begin to. -/
theorem threads_setPhase_of_away (h : (ds.phase id).stage = .away) (hp : p.stage = .away) (n : ℕ) :
    (ds.setPhase id p).threads n = (ds.threads n).setPlace id p.place := by
  have hstill : (ds.threads n).abortState.setStage (.activation id) .away =
      (ds.threads n).abortState := GuardedFlag.setStage_eq_self h
  rw [threads_setPhase, hp, hstill]
  rfl

/-- An activation begins to wait. -/
theorem threads_setPhase_of_waiting (hp : p.stage = .locking .await) (ds : DeepSleepController)
    (id n : ℕ) : (ds.setPhase id p).threads n = (ds.threads n).begin id p.place .await := by
  rw [threads_setPhase, hp]
  rfl

theorem place_of_phase (hp : ds.phase id = p) (n : ℕ) : (ds.threads n).place id = p.place :=
  congrArg Phase.place hp

/-! ## Operations on the abort flag, without interruption -/

/-- A thread takes the mutex, does its operation and releases the mutex. -/
theorem run_act {s : GuardedFlag Thread} {told : List (Thread × Bool)}
    (hstage : ts.abortState.stage t = .locking op) (hfree : ts.abortState.owner = none)
    (hact : GuardedFlag.act { ts.abortState.setStage t (.holding op) with owner := some t } t op =
      (s, told)) :
    deepSleepThreads.Run ts [.abortState (.lock t), .abortState (.act t)] []
      (if s.stage t = .away then
          ({ ts with abortState := s } : Threads).resume ((told.head?.map Prod.snd).getD false) t
        else { ts with abortState := s }) := by
  have hlock : deepSleepThreads.step ts (.abortState (.lock t)) = some ({ ts with abortState :=
      { ts.abortState.setStage t (.holding op) with owner := some t } }, []) := by
    simp [deepSleepThreads, abortStep, GuardedFlag.guardedFlag, hstage, hfree]
  have hguarded : GuardedFlag.guardedFlag.step
      { ts.abortState.setStage t (.holding op) with owner := some t } (.act t) =
        some (s, told) := by
    simpa [GuardedFlag.guardedFlag] using hact
  refine .cons hlock (.single ?_)
  simp only [deepSleepThreads, abortStep, hguarded]
  rfl

/-- A thread asks for the flag. -/
theorem run_ask (hstage : ts.abortState.stage t = .locking op)
    (hfree : ts.abortState.owner = none)
    (hop : op = .test ∨ op = .await ∧ ts.abortState.flag = true) :
    ∃ ls, deepSleepThreads.Run ts ls []
      (({ ts with abortState := ts.abortState.setStage t .away } : Threads).resume
        ts.abortState.flag t) := by
  have hact : GuardedFlag.act { ts.abortState.setStage t (.holding op) with owner := some t } t op =
      (ts.abortState.setStage t .away, [(t, ts.abortState.flag)]) := by
    rcases hop with rfl | ⟨rfl, hflag⟩
    · simp [GuardedFlag.act, GuardedFlag.setStage, hfree]
    · simp [GuardedFlag.act, GuardedFlag.setStage, hfree, hflag]
  exact ⟨_, by simpa using run_act hstage hfree hact⟩

/-- A thread waits for the flag until its time is over. -/
theorem run_wait (hstage : ts.abortState.stage t = .locking .await)
    (hfree : ts.abortState.owner = none) (hflag : ts.abortState.flag = false) :
    ∃ ls, deepSleepThreads.Run ts ls []
      (({ ts with abortState := ts.abortState.setStage t .away } : Threads).resume false t) := by
  have hact : GuardedFlag.act
      { ts.abortState.setStage t (.holding .await) with owner := some t } t .await =
        (ts.abortState.setStage t .blocked, []) := by
    simp [GuardedFlag.act, GuardedFlag.setStage, hfree, hflag]
  have hblocked : deepSleepThreads.Run ts [.abortState (.lock t), .abortState (.act t)] []
      { ts with abortState := ts.abortState.setStage t .blocked } := by
    simpa using run_act hstage hfree hact
  -- its time is over, and it tests the flag for the last time
  have hwoken : deepSleepThreads.Run { ts with abortState := ts.abortState.setStage t .blocked }
      [.abortState (.wake t true)] []
      { ts with abortState := ts.abortState.setStage t (.locking .test) } := by
    refine .single ?_
    simp [deepSleepThreads, abortStep, GuardedFlag.guardedFlag, GuardedFlag.setStage_setStage]
  obtain ⟨ls, htold⟩ : ∃ ls, deepSleepThreads.Run
      { ts with abortState := ts.abortState.setStage t (.locking .test) } ls []
      (({ ts with abortState := (ts.abortState.setStage t (.locking .test)).setStage t .away } :
        Threads).resume ts.abortState.flag t) :=
    run_ask (GuardedFlag.setStage_self ..) hfree (.inl rfl)
  rw [hflag, GuardedFlag.setStage_setStage] at htold
  exact ⟨_, hblocked.trans (hwoken.trans htold)⟩

/-- An activation tests the flag. -/
theorem run_test (haway : ts.abortState.stage (.activation id) = .away)
    (hfree : ts.abortState.owner = none) (p : Place) :
    ∃ ls, deepSleepThreads.Run (ts.begin id p .test) ls []
      (ts.setPlace id (p.resume ts.abortState.flag)) := by
  have hstage : (ts.begin id p .test).abortState.stage (.activation id) = .locking .test :=
    GuardedFlag.setStage_self ..
  obtain ⟨ls, hask⟩ := run_ask hstage hfree (.inl rfl)
  refine ⟨ls, ?_⟩
  -- the activation is away again when it is told
  simpa [begin, resume, setPlace, GuardedFlag.setStage_setStage,
    GuardedFlag.setStage_eq_self haway] using hask

/-- An activation clears the flag. -/
theorem run_clear (haway : ts.abortState.stage (.activation id) = .away)
    (hfree : ts.abortState.owner = none) (p : Place) :
    ∃ ls, deepSleepThreads.Run (ts.begin id p .clear) ls []
      { ts.setPlace id (p.resume false) with
        abortState := { ts.abortState with flag := false } } := by
  have hstage : (ts.begin id p .clear).abortState.stage (.activation id) = .locking .clear :=
    GuardedFlag.setStage_self ..
  have hback : (ts.begin id p .clear).abortState.setStage (.activation id) .away = ts.abortState :=
    (ts.abortState.setStage_setStage ..).trans (GuardedFlag.setStage_eq_self haway)
  have hact : GuardedFlag.act { (ts.begin id p .clear).abortState.setStage (.activation id)
      (.holding .clear) with owner := some (.activation id) } (.activation id) .clear =
        ({ (ts.begin id p .clear).abortState.setStage (.activation id) .away with flag := false },
          []) := by
    simp [GuardedFlag.act, GuardedFlag.setStage, begin, hfree]
  rw [hback] at hact
  refine ⟨[.abortState (.lock (.activation id)), .abortState (.act (.activation id))], ?_⟩
  simpa [haway, resume, begin, setPlace] using run_act hstage hfree hact

/-- A thread that has set the flag wakes nobody. -/
theorem step_notify (hstage : ts.abortState.stage t = .notifying)
    (hblocked : ∀ u, ts.abortState.stage u ≠ .blocked) :
    deepSleepThreads.step ts (.abortState (.notify t)) =
      some (({ ts with abortState := ts.abortState.setStage t .away } : Threads).resume false t,
        []) := by
  have hnobody : (ts.abortState.setStage t .away).notifyAll = ts.abortState.setStage t .away := by
    apply GuardedFlag.notifyAll_eq_self
    exact GuardedFlag.setStage_ne_blocked hblocked (by simp)
  simp [deepSleepThreads, abortStep, GuardedFlag.guardedFlag, hstage, hnobody]

/-- A thread sets the flag while nobody is blocked. -/
theorem run_set (hstage : ts.abortState.stage t = .locking .set)
    (hfree : ts.abortState.owner = none) (hblocked : ∀ u, ts.abortState.stage u ≠ .blocked) :
    ∃ ls, deepSleepThreads.Run ts ls []
      (({ ts with abortState :=
          { ts.abortState.setStage t .away with flag := true } } : Threads).resume false t) := by
  have hact : GuardedFlag.act
      { ts.abortState.setStage t (.holding .set) with owner := some t } t .set =
        ({ ts.abortState.setStage t .notifying with flag := true }, []) := by
    simp [GuardedFlag.act, GuardedFlag.setStage, hfree]
  have hset : deepSleepThreads.Run ts [.abortState (.lock t), .abortState (.act t)] []
      { ts with abortState := { ts.abortState.setStage t .notifying with flag := true } } := by
    simpa using run_act hstage hfree hact
  -- the mutex is free again, and nobody is blocked, before the thread notifies
  have hstill : ∀ u, (ts.abortState.setStage t .notifying).stage u ≠ .blocked :=
    GuardedFlag.setStage_ne_blocked hblocked (by simp)
  have hnotified := hset.trans (.single (step_notify (t := t) (by simp) hstill))
  refine ⟨[.abortState (.lock t), .abortState (.act t)] ++ [.abortState (.notify t)], ?_⟩
  simpa [GuardedFlag.setStage] using hnotified

/-! ## What the controller keeps -/

/-- `Deactivate` changes the flag, the state, the delay job and the phase of its activation. -/
theorem deactivate_fst (ds : DeepSleepController) (errorCode : ErrorCode) :
    (ds.deactivate errorCode).1 =
      { ds with
        abortRequested := true
        deepSleepState := .notStarted
        deepSleepDelayJob := none
        phase := (ds.deactivate errorCode).1.phase } := by
  cases hds : ds.deepSleepDelayJob with
  | none => simp [DeepSleepController.deactivate, hds]
  | some id => simp [DeepSleepController.deactivate, hds, DeepSleepController.setPhase]

/-- The delay job is that of a delayed activation, and an activation that is yet to come has no
phase. -/
structure Ready (ds : DeepSleepController) : Prop where
  job : ∀ id, ds.deepSleepDelayJob = some id → ∃ t, ds.phase id = .delayed t
  fresh : ∀ id ≥ ds.nextId, ds.phase id = .over

theorem ready_initial : Ready DeepSleepController.initial :=
  ⟨fun _ h => (by cases h), fun _ _ => rfl⟩

/-- The delay job is still that of a delayed activation when another one gets to a phase. -/
theorem Ready.job_setPhase (hR : Ready ds) (hdelayed : ∀ t, ds.phase id ≠ .delayed t) (p : Phase) :
    ∀ j, ds.deepSleepDelayJob = some j → ∃ t, (ds.setPhase id p).phase j = .delayed t := by
  intro j hj
  obtain ⟨t, ht⟩ := hR.job j hj
  have hne : j ≠ id := by
    rintro rfl
    exact hdelayed t ht
  exact ⟨t, by simpa [hne] using ht⟩

theorem Ready.job_performActivate {timeOut : UInt32} {nw : Bool} (hR : Ready ds)
    (hp : ds.phase id = .queued timeOut nw) (sur : Surroundings) :
    ∀ j, (ds.performActivate id sur timeOut nw).deepSleepDelayJob = some j →
      ∃ t, (ds.performActivate id sur timeOut nw).phase j = .delayed t := by
  unfold performActivate
  split
  · exact hR.job_setPhase (by simp [hp]) _
  · dsimp only
    split
    · -- the delay job is now that of the activation
      intro j hj
      obtain rfl : id = j := Option.some.inj hj
      exact ⟨_, by simp [DeepSleepController.setPhase]; rfl⟩
    · exact hR.job_setPhase (by simp [hp]) .preDelay

theorem Ready.job_endWait (hR : Ready ds) (hdelayed : ∀ t, ds.phase id ≠ .delayed t) (k : ℕ) :
    ∀ j, (ds.endWait id k).deepSleepDelayJob = some j →
      ∃ t, (ds.endWait id k).phase j = .delayed t := by
  unfold endWait
  split
  · exact hR.job_setPhase hdelayed .over
  · exact hR.job_setPhase hdelayed _

theorem ready_step (hR : Ready ds) (h : deepSleepController.step ds l = some (ds', es)) :
    Ready ds' := by
  refine ⟨?_, (over_step hR.fresh h).2⟩
  cases l with
  | activate timeOut nw =>
    cases h
    exact hR.job_setPhase (by simp [hR.fresh _ le_rfl]) _
  | performActivate id sur =>
    simp only [deepSleepController] at h
    split at h <;> cases h
    exact hR.job_performActivate ‹_› sur
  | enterDeepSleepDelayed id =>
    simp only [deepSleepController] at h
    split at h <;> cases h
    exact fun j hj => (by cases hj)
  | endWait id =>
    simp only [deepSleepController] at h
    -- the wait before the first attempt, and the one between two attempts
    split at h <;> cases h
    · rename_i hp
      exact hR.job_endWait (by simp [hp]) 5
    · rename_i hp
      exact hR.job_endWait (by simp [hp]) _
  | setDeepSleep id =>
    simp only [deepSleepController] at h
    split at h
    · rename_i hp
      unfold DeepSleepController.setDeepSleep at h
      split at h <;> cases h
      · exact hR.job_setPhase (by simp [hp]) .over
      · exact hR.job_setPhase (by simp [hp]) _
    · cases h
  | setDeepSleepReturn id errorCode userWakeup =>
    simp only [deepSleepController] at h
    split at h
    · rename_i n hp
      have hret := Option.some.inj h
      simp only [DeepSleepController.setDeepSleepReturn] at hret
      -- the activation gets to another phase, whatever the platform answers
      split at hret
      all_goals
        split at hret
        all_goals
          cases hret
          exact hR.job_setPhase (by simp [hp]) _
    · cases h
  | callbackReturn id =>
    simp only [deepSleepController] at h
    split at h <;> cases h
    rename_i hp
    exact hR.job_setPhase (by simp [hp]) _
  | deactivate errorCode =>
    have hds : (ds.deactivate errorCode).1 = ds' := congrArg Prod.fst (Option.some.inj h)
    rw [← hds, deactivate_fst]
    exact fun j hj => (by cases hj)

/-! ## The steps of the controller -/

theorem Place.resume_clearing (timeOut : UInt32) (nw requested : Bool) :
    (Place.clearing timeOut nw).resume requested = .starting timeOut nw := rfl

theorem Place.resume_preDelay (requested : Bool) :
    Place.preDelay.resume requested = if requested then .aborting else .head 5 := rfl

theorem Place.resume_testing (k : ℕ) (requested : Bool) :
    (Place.testing k).resume requested = if requested then .aborting else .calling k := rfl

theorem Place.resume_retryDelay (k : ℕ) (requested : Bool) :
    (Place.retryDelay k).resume requested = if requested then .aborting else .head k := rfl

theorem threads_abort (ds : DeepSleepController) (id n : ℕ) :
    (ds.abort id).threads n =
      { (ds.setPhase id .over).threads n with deepSleepState := .notStarted } := rfl

/-- The wait of an activation ends. -/
theorem endWait_on_threads {k : ℕ}
    (hp : ds.phase id = .preDelay ∧ k = 5 ∨ ds.phase id = .retryDelay k) (n : ℕ) :
    ∃ ls, deepSleepThreads.Run (ds.threads n) ls [] ((ds.endWait id k).threads n) := by
  have hstage : (ds.threads n).abortState.stage (.activation id) = .locking .await := by
    rcases hp with ⟨hp, -⟩ | hp <;> simp [threads, stages, hp, Phase.stage]
  have hresume : ∀ b, ((ds.threads n).place id).resume b = if b then .aborting else .head k := by
    intro b
    rcases hp with ⟨hp, rfl⟩ | hp
    · rw [place_of_phase hp]
      exact Place.resume_preDelay b
    · rw [place_of_phase hp]
      exact Place.resume_retryDelay k b
  by_cases hflag : ds.abortRequested = true
  · obtain ⟨ls, hask⟩ := run_ask hstage rfl (.inr ⟨rfl, hflag⟩)
    refine ⟨ls ++ [.abort id], hask.trans (.single ?_)⟩
    have hset : (ds.threads n).abortState.flag = true := hflag
    rw [endWait, if_pos hflag, threads_abort, threads_setPhase]
    simp [deepSleepThreads, resume, setPlace, hset, hresume, Phase.place, Phase.stage]
  · have hclear : ds.abortRequested = false := by simpa using hflag
    obtain ⟨ls, hwait⟩ := run_wait hstage rfl hclear
    refine ⟨ls, ?_⟩
    rw [endWait, if_neg hflag, threads_setPhase]
    simpa [resume, setPlace, hresume, Phase.place, Phase.stage] using hwait

/-- The head of the loop. -/
theorem setDeepSleep_on_threads {k : ℕ} (hp : ds.phase id = .attempt k) (n : ℕ) :
    ∃ ls, deepSleepThreads.Run (ds.threads n) ls (ds.setDeepSleep id k).2
      ((ds.setDeepSleep id k).1.threads n) := by
  have haway : (ds.phase id).stage = .away := by rw [hp]; rfl
  have hhead : deepSleepThreads.Run (ds.threads n) [.head id] []
      ((ds.threads n).begin id (.testing k) .test) := by
    refine .single ?_
    simp [deepSleepThreads, place_of_phase hp, Phase.place]
  obtain ⟨ls, htest⟩ := @run_test (ds.threads n) id haway rfl (.testing k)
  have htested := hhead.trans htest
  rw [Place.resume_testing] at htested
  unfold DeepSleepController.setDeepSleep
  by_cases hflag : ds.abortRequested = true
  · -- the activation is told that the flag is set, and gives up
    have hset : (ds.threads n).abortState.flag = true := hflag
    rw [if_pos hset] at htested
    rw [if_pos hflag]
    have habort : (ds.abort id).threads n =
        { ((ds.threads n).setPlace id .aborting).setPlace id .over with
          deepSleepState := .notStarted } := by
      rw [threads_abort, threads_setPhase_of_away haway rfl, setPlace_setPlace]
      rfl
    have hplace : ((ds.threads n).setPlace id .aborting).place id = .aborting := setPlace_self ..
    rw [habort]
    refine ⟨_, htested.trans (.single (l := .abort id) ?_)⟩
    exact if_pos hplace
  · have hset : ¬(ds.threads n).abortState.flag = true := hflag
    rw [if_neg hset] at htested
    rw [if_neg hflag, threads_setPhase_of_away haway rfl, ← setPlace_setPlace _ _ (.calling k)]
    refine ⟨_, htested.trans (.single (l := .setDeepSleep id) ?_)⟩
    simp only [deepSleepThreads, setPlace_self]
    rfl

/-- `performActivate`, up to the first wait. -/
theorem performActivate_on_threads {timeOut : UInt32} {nw : Bool}
    (hp : ds.phase id = .queued timeOut nw) (sur : Surroundings) (n : ℕ) :
    ∃ ls, deepSleepThreads.Run (ds.threads n) ls []
      ((ds.performActivate id sur timeOut nw).threads n) := by
  have haway : (ds.phase id).stage = .away := by rw [hp]; rfl
  have hplace : (ds.threads n).place id = .queued timeOut nw := place_of_phase hp n
  by_cases hidle : ds.deepSleepState = .inProgress
  · -- the activation is refused
    have hbusy : ds.isDeepSleepInProgress = true := by simpa [isDeepSleepInProgress] using hidle
    refine ⟨[.performActivate id], .single ?_⟩
    rw [performActivate, if_pos hbusy, threads_setPhase_of_away haway rfl]
    simp only [deepSleepThreads, hplace]
    exact if_pos hidle
  · have hbegin : deepSleepThreads.Run (ds.threads n) [.performActivate id] []
        ((ds.threads n).begin id (.clearing timeOut nw) .clear) := by
      refine .single ?_
      simp only [deepSleepThreads, hplace]
      exact if_neg hidle
    obtain ⟨ls, hclear⟩ := @run_clear (ds.threads n) id haway rfl (.clearing timeOut nw)
    rw [Place.resume_clearing] at hclear
    refine ⟨[.performActivate id] ++ (ls ++ [.start id sur]),
      hbegin.trans (hclear.trans (.single ?_))⟩
    have hstart : ((ds.threads n).setPlace id (.starting timeOut nw)).place id =
        .starting timeOut nw := setPlace_self ..
    -- with an override the delay job is scheduled, and without it the activation begins to wait
    by_cases hdelay : sur.delayTimeOut.getD 0 = 0
    · simp [deepSleepThreads, begin, start, threads, hidle, hdelay, setPlace, performActivate,
        isDeepSleepInProgress, DeepSleepController.setPhase, GuardedFlag.setStage, Phase.place,
        Phase.stage]
    · simp [deepSleepThreads, start, threads, hidle, hdelay, update_stages haway, setPlace,
        performActivate, isDeepSleepInProgress, DeepSleepController.setPhase, Phase.place,
        Phase.stage]

/-- The platform call returns. -/
theorem setDeepSleepReturn_on_threads {k : ℕ} (hp : ds.phase id = .inPlatform k)
    (errorCode : ErrorCode) (userWakeup : Bool) (n : ℕ) :
    deepSleepThreads.Run (ds.threads n) [.setDeepSleepReturn id errorCode userWakeup]
      (ds.setDeepSleepReturn id k errorCode userWakeup).2
      ((ds.setDeepSleepReturn id k errorCode userWakeup).1.threads n) := by
  have hplace : (ds.threads n).place id = .inPlatform k := place_of_phase hp n
  have hnotifying : ∀ d : DeepSleepController, d.phase = ds.phase →
      (d.setPhase id .notifying).threads n = (d.threads n).setPlace id .notifying := by
    intro d hd
    exact threads_setPhase_of_away (by rw [hd, hp]; rfl) rfl n
  refine .single ?_
  simp only [deepSleepThreads, hplace, setDeepSleepReturn, DeepSleepController.setDeepSleepReturn]
  split
  · split
    · rw [threads_setPhase_of_waiting rfl]
      rfl
    · rw [hnotifying]
      · rfl
      · rfl
  · split
    · rw [hnotifying]
      · rfl
      · rfl
    · rw [hnotifying]
      · rfl
      · rfl

/-- `Activate`. -/
theorem activate_on_threads (hR : Ready ds) (timeOut : UInt32) (nw : Bool) (n : ℕ) :
    deepSleepThreads.Run (ds.threads n) [.activate timeOut nw] (ds.activate timeOut nw).2
      ((ds.activate timeOut nw).1.threads n) := by
  have haway : (ds.phase ds.nextId).stage = .away := by rw [hR.fresh _ le_rfl]; rfl
  have hqueued : (ds.setPhase ds.nextId (.queued timeOut nw)).threads n =
      (ds.threads n).setPlace ds.nextId (.queued timeOut nw) :=
    threads_setPhase_of_away haway rfl n
  have hactivate : (ds.activate timeOut nw).1.threads n =
      { (ds.setPhase ds.nextId (.queued timeOut nw)).threads n with
        nextActivation := ds.nextId + 1 } := rfl
  refine .single ?_
  rw [hactivate, hqueued]
  rfl

/-- The delay of an activation is over. -/
theorem enterDeepSleepDelayed_on_threads {scheduled : Time} (hp : ds.phase id = .delayed scheduled)
    (n : ℕ) :
    deepSleepThreads.Run (ds.threads n) [.enterDeepSleepDelayed id] []
      ((ds.enterDeepSleepDelayed id).threads n) := by
  have hplace : (ds.threads n).place id = .delayed scheduled := place_of_phase hp n
  have hwaiting : (ds.enterDeepSleepDelayed id).threads n =
      { (ds.threads n).begin id .preDelay .await with deepSleepDelayJob := none } := by
    have h := threads_setPhase_of_waiting (p := .preDelay) rfl ds id n
    exact congrArg (fun ts : Threads => { ts with deepSleepDelayJob := none }) h
  refine .single ?_
  rw [hwaiting]
  simp only [deepSleepThreads, hplace]

/-- The callback of the parent returns. -/
theorem callbackReturn_on_threads (hp : ds.phase id = .notifying) (n : ℕ) :
    deepSleepThreads.Run (ds.threads n) [.callbackReturn id] []
      ((ds.setPhase id .over).threads n) := by
  refine .single ?_
  rw [threads_setPhase_of_away (by rw [hp]; rfl) rfl]
  exact if_pos (place_of_phase hp n)

/-! ## `Deactivate` -/

/-- The delay job is revoked. -/
theorem revokeDelayJob_eq (hR : Ready ds) (hplace : ts.place = places ds.phase)
    (hjob : ts.deepSleepDelayJob = ds.deepSleepDelayJob) :
    ts.revokeDelayJob =
      { ts with
        deepSleepDelayJob := none
        place := places (ds.deactivate .errorNone).1.phase } := by
  unfold revokeDelayJob
  rw [hjob, hplace]
  cases hds : ds.deepSleepDelayJob with
  | none =>
    have hnone : ts.deepSleepDelayJob = none := hjob.trans hds
    simp only [DeepSleepController.deactivate, hds, ← hplace]
    rw [← hnone]
  | some id =>
    obtain ⟨t, ht⟩ := hR.job id hds
    have hdelayed : places ds.phase id = .delayed t := by rw [places, ht]; rfl
    simp [DeepSleepController.deactivate, hds, hdelayed, setPlace, hplace,
      DeepSleepController.setPhase, Phase.place]

/-- A revoked activation has been away. -/
theorem stages_deactivate (hR : Ready ds) (errorCode : ErrorCode) :
    stages (ds.deactivate errorCode).1.phase = stages ds.phase := by
  cases hds : ds.deepSleepDelayJob with
  | none => simp [DeepSleepController.deactivate, hds]
  | some id =>
    obtain ⟨t, ht⟩ := hR.job id hds
    have haway : Function.update (stages ds.phase) (.activation id) .away = stages ds.phase :=
      update_stages (by rw [ht]; rfl)
    simpa [DeepSleepController.deactivate, hds, DeepSleepController.setPhase, Phase.stage] using
      haway

/-- The threads while the call `n` of `Deactivate` has got to `d`. -/
def deactivating (ds : DeepSleepController) (n : ℕ) (d : Deactivation) : Threads :=
  { ds.threads (n + 1) with deactivation := Function.update (fun _ => .over) n d }

/-- `requestAbortDeepSleep`, while nobody else takes a step. -/
theorem request_on_threads (ds : DeepSleepController) (n : ℕ) :
    ∃ ls, deepSleepThreads.Run (ds.threads n) ls []
      (deactivating { ds with abortRequested := true } n .revoking) := by
  have hbegin : deepSleepThreads.Run (ds.threads n) [.deactivate] []
      { (ds.threads n).setDeactivation n .requesting with
        abortState := (ds.threads n).abortState.setStage (.deactivation n) (.locking .set)
        nextDeactivation := n + 1 } := .single rfl
  have hstage : ((ds.threads n).abortState.setStage (.deactivation n) (.locking .set)).stage
      (.deactivation n) = .locking .set := GuardedFlag.setStage_self ..
  -- between two steps of the controller nobody is blocked
  have hnobody : ∀ t, (ds.threads n).abortState.stage t ≠ .blocked := by
    intro t
    cases t with
    | activation id =>
      show (ds.phase id).stage ≠ .blocked
      cases ds.phase id <;> simp [Phase.stage]
    | deactivation i => simp [threads, stages]
  have hblocked : ∀ t, ((ds.threads n).abortState.setStage (.deactivation n)
      (.locking .set)).stage t ≠ .blocked :=
    GuardedFlag.setStage_ne_blocked hnobody (by simp)
  obtain ⟨ls, hset⟩ := @run_set { (ds.threads n).setDeactivation n .requesting with
    abortState := (ds.threads n).abortState.setStage (.deactivation n) (.locking .set)
    nextDeactivation := n + 1 } (.deactivation n) hstage rfl hblocked
  refine ⟨[.deactivate] ++ ls, ?_⟩
  have hself : Function.update (stages ds.phase) (.deactivation n) .away = stages ds.phase :=
    Function.update_eq_self _ _
  simpa [resume, deactivating, threads, setDeactivation, GuardedFlag.setStage, hself] using
    hbegin.trans hset

/-- `Deactivate`. -/
theorem deactivate_on_threads (hR : Ready ds) (errorCode : ErrorCode) (n : ℕ) :
    ∃ ls, deepSleepThreads.Run (ds.threads n) ls (ds.deactivate errorCode).2
      ((ds.deactivate errorCode).1.threads (n + 1)) := by
  obtain ⟨ls, hset⟩ := request_on_threads ds n
  -- the delay job is revoked, and `_deepSleepState` is not reset yet
  obtain ⟨revoked, hrevoked⟩ : ∃ revoked : DeepSleepController, revoked =
      { ds with
        abortRequested := true
        deepSleepDelayJob := none
        phase := (ds.deactivate errorCode).1.phase } := ⟨_, rfl⟩
  have hrevoke : deepSleepThreads.Run (deactivating { ds with abortRequested := true } n .revoking)
      [.revokeDelayJob n] [] (deactivating revoked n .wakingUp) := by
    refine .single ?_
    have hjob : (deactivating { ds with abortRequested := true } n .revoking).revokeDelayJob = _ :=
      revokeDelayJob_eq hR rfl rfl
    simp only [deepSleepThreads]
    rw [if_pos (by simp [deactivating]), hjob]
    simp [hrevoked, deactivating, setDeactivation, threads, stages_deactivate hR errorCode]
    rfl
  have hwake : deepSleepThreads.Run (deactivating revoked n .wakingUp)
      [.deepSleepWakeup n errorCode] [.deepSleepWakeup]
      (deactivating revoked n (.resetting errorCode)) := by
    refine .single ?_
    simp [deepSleepThreads, deactivating, setDeactivation]
  have hreset : deepSleepThreads.Run (deactivating revoked n (.resetting errorCode))
      [.resetState n] [.returned errorCode] ((ds.deactivate errorCode).1.threads (n + 1)) := by
    have hover : Function.update (fun _ => Deactivation.over) n .over = fun _ => .over :=
      Function.update_eq_self n (fun _ => Deactivation.over)
    rw [deactivate_fst]
    refine .single ?_
    simp [deepSleepThreads, deactivating, setDeactivation, threads, hrevoked]
  exact ⟨ls ++ ([.revokeDelayJob n] ++ ([.deepSleepWakeup n errorCode] ++ [.resetState n])),
    hset.trans (hrevoke.trans (hwake.trans hreset))⟩

/-! ## Every run -/

/-- What the controller does in a step, its threads do in several. -/
theorem step_on_threads (hR : Ready ds) (h : deepSleepController.step ds l = some (ds', es))
    (n : ℕ) : ∃ ls n', deepSleepThreads.Run (ds.threads n) ls es (ds'.threads n') := by
  cases l with
  | activate timeOut nw =>
    cases h
    exact ⟨_, n, activate_on_threads hR timeOut nw n⟩
  | performActivate id sur =>
    simp only [deepSleepController] at h
    split at h <;> cases h
    obtain ⟨ls, hrun⟩ := performActivate_on_threads ‹_› sur n
    exact ⟨ls, n, hrun⟩
  | enterDeepSleepDelayed id =>
    simp only [deepSleepController] at h
    split at h <;> cases h
    exact ⟨_, n, enterDeepSleepDelayed_on_threads ‹_› n⟩
  | endWait id =>
    simp only [deepSleepController] at h
    -- the wait before the first attempt, and the one between two attempts
    split at h <;> cases h
    · rename_i hp
      obtain ⟨ls, hrun⟩ := endWait_on_threads (.inl ⟨hp, rfl⟩) n
      exact ⟨ls, n, hrun⟩
    · rename_i hp
      obtain ⟨ls, hrun⟩ := endWait_on_threads (.inr hp) n
      exact ⟨ls, n, hrun⟩
  | setDeepSleep id =>
    simp only [deepSleepController] at h
    split at h
    · obtain ⟨ls, hrun⟩ := setDeepSleep_on_threads ‹ds.phase id = _› n
      rw [Option.some.inj h] at hrun
      exact ⟨ls, n, hrun⟩
    · cases h
  | setDeepSleepReturn id errorCode userWakeup =>
    simp only [deepSleepController] at h
    split at h
    · have hrun := setDeepSleepReturn_on_threads ‹ds.phase id = _› errorCode userWakeup n
      rw [Option.some.inj h] at hrun
      exact ⟨_, n, hrun⟩
    · cases h
  | callbackReturn id =>
    simp only [deepSleepController] at h
    split at h <;> cases h
    exact ⟨_, n, callbackReturn_on_threads ‹_› n⟩
  | deactivate errorCode =>
    obtain ⟨ls, hrun⟩ := deactivate_on_threads hR errorCode n
    rw [Option.some.inj h] at hrun
    exact ⟨ls, n + 1, hrun⟩

theorem threads_initial : DeepSleepController.initial.threads 0 = initial := by
  have hstages : stages DeepSleepController.initial.phase = fun _ => .away := by
    funext t
    cases t <;> rfl
  rw [DeepSleepController.threads, hstages]
  rfl

/-- The threads simulate the controller. -/
def simulation : Machine.Simulation deepSleepController deepSleepThreads where
  Rel ds ts := Ready ds ∧ ∃ n, ts = ds.threads n
  step := by
    rintro ds l ds' es _ ⟨hR, n, rfl⟩ h
    obtain ⟨ls, n', hrun⟩ := step_on_threads hR h n
    exact ⟨ls, _, hrun, ready_step hR h, n', rfl⟩

/-- Every run of the controller is one of its threads, with the same calls and returns, and the
threads get to the state of the controller. So the controller does nothing that its threads cannot
do. -/
theorem run_on_threads (h : deepSleepController.Run DeepSleepController.initial ls es ds) :
    ∃ ls' n, deepSleepThreads.Run initial ls' es (ds.threads n) := by
  have hinitial : simulation.Rel DeepSleepController.initial initial :=
    ⟨ready_initial, 0, threads_initial.symm⟩
  obtain ⟨ls', _, hrun, -, n, rfl⟩ := simulation.run hinitial h
  exact ⟨ls', n, hrun⟩

/-- A call of `Deactivate` while the platform holds the activation, and the wait that it ends. -/
theorem run_on_threads_of_aborted :
    ∃ ls ts, deepSleepThreads.Run initial ls [.returned .errorNone, .setDeepSleep 0 60 false,
      .deepSleepWakeup, .returned .errorNone] ts ∧ ts.deepSleepState = .notStarted := by
  obtain ⟨ds, hrun, hstate⟩ : ∃ ds, deepSleepController.Run DeepSleepController.initial
      [.activate 60 false, .performActivate 0 .plain, .endWait 0, .setDeepSleep 0,
        .deactivate .errorNone, .setDeepSleepReturn 0 .errorAborted false, .endWait 0]
      [.returned .errorNone, .setDeepSleep 0 60 false, .deepSleepWakeup, .returned .errorNone] ds ∧
      ds.deepSleepState = .notStarted :=
    Machine.exists_run_of_exec (by decide +kernel)
  obtain ⟨ls, n, hthreads⟩ := run_on_threads hrun
  exact ⟨ls, ds.threads n, hthreads, hstate⟩

end Threads

end PowerManager.DeepSleepController
