import PowerManager.Machine
import PowerManager.Types
import Mathlib.Logic.Function.Basic

/-!
# The deep sleep controller

`DeepSleepController` puts the SoC to sleep. Each call of `Activate` is one activation: a job of
the worker pool that latches the controller, waits, and calls the platform's `SetDeepSleep` up to
five times. `Deactivate` asks the activations to stop and wakes the platform.

The activations are numbered in the order of their `Activate` calls, and `phase` tells how far each
of them has got. A step takes an activation from one wait, one job of the pool or one blocking call
to the next; steps of several activations and of `Deactivate` interleave freely, and all of them
share the one state variable `_deepSleepState` and the one abort flag.

The machine is `deepSleepController`. `StepCase` and `step_cases` say what a step can do.
-/

namespace PowerManager

namespace DeepSleepController

/-- `DeepSleepController::DeepSleepState`. -/
inductive DeepSleepState
  | failed
  | notStarted
  | inProgress
  | completed
  deriving DecidableEq, Repr

/-- How far an activation has got. -/
inductive Phase
  /-- The worker pool holds the job that `Activate` submitted. -/
  | queued (timeOut : UInt32) (nwStandbyMode : Bool)
  /-- The worker pool holds the delay job, which it dispatches at the given time. -/
  | delayed (scheduled : Time)
  /-- `enterDeepSleepNow` waits for one second. -/
  | preDelay
  /-- `enterDeepSleepNow` is at the head of its loop, with `retryCount` attempts left. -/
  | attempt (retryCount : ℕ)
  /-- The platform's `SetDeepSleep` has not returned. -/
  | inPlatform (retryCount : ℕ)
  /-- `enterDeepSleepNow` waits for five seconds before it tries again. -/
  | retryDelay (retryCount : ℕ)
  /-- The callback of the parent has not returned. -/
  | notifying
  /-- The job is over, or there is no such activation. -/
  | over
  deriving DecidableEq, Repr

/-- The activation is on its way to a platform result. -/
@[simp]
def Phase.Entering : Phase → Prop
  | .delayed _ | .preDelay | .attempt _ | .inPlatform _ | .retryDelay _ => True
  | _ => False

/-- The activation has been latched and `enterDeepSleepNow` has not returned. -/
def Phase.Live (p : Phase) : Prop :=
  p.Entering ∨ p = .notifying

instance : DecidablePred Phase.Entering := fun p => by
  unfold Phase.Entering
  split <;> infer_instance

instance : DecidablePred Phase.Live := fun _ => inferInstanceAs (Decidable (_ ∨ _))

/-- The attempts an activation has left in the loop of `enterDeepSleepNow`. -/
def Phase.retryCount : Phase → ℕ
  | .attempt retryCount | .inPlatform retryCount | .retryDelay retryCount => retryCount
  | _ => 0

/-- What an activation reads at its start. -/
structure Surroundings where
  /-- `MonotonicClock::now`. -/
  now : Time
  /-- `Core::Time::Now`. -/
  coreNow : Time
  /-- The number in `/tmp/deepSleepDelayTimer`, if there is one. -/
  delayTimeOut : Option UInt32
  /-- The number in `/tmp/deepSleepWakeupTimer`, if there is one. -/
  wakeupTimer : Option UInt32

/-- No override is in place. -/
def Surroundings.plain : Surroundings := ⟨1, 1, none, none⟩

/-- What the controller does outwards. The calls that an activation makes carry its number. -/
inductive Event
  /-- The platform's `SetDeepSleep` is called. -/
  | setDeepSleep (id : ℕ) (timeout : UInt32) (nwStandbyMode : Bool)
  /-- `INotification::onDeepSleepFailed`. -/
  | onDeepSleepFailed (id : ℕ)
  /-- `INotification::onDeepSleepUserWakeup`. -/
  | onDeepSleepUserWakeup (id : ℕ) (userWakeup : Bool)
  /-- `INotification::onDeepSleepTimerWakeup`. -/
  | onDeepSleepTimerWakeup (id : ℕ) (wakeupTimeout : Int32)
  /-- The platform's `DeepSleepWakeup` is called. -/
  | deepSleepWakeup
  /-- `Activate` or `Deactivate` returns. -/
  | returned (errorCode : ErrorCode)
  deriving DecidableEq, Repr

/-- The activation that makes a call. -/
def Event.id? : Event → Option ℕ
  | .setDeepSleep id .. | .onDeepSleepFailed id | .onDeepSleepUserWakeup id _
  | .onDeepSleepTimerWakeup id _ => some id
  | _ => none

end DeepSleepController

open DeepSleepController in
/-- The `DeepSleepController` object with the jobs it has handed to the worker pool. -/
structure DeepSleepController where
  deepSleepState : DeepSleepState
  deepsleepStartTime : Time
  deepSleepDelaySec : UInt32
  deepSleepWakeupTimeoutSec : UInt32
  /-- The activation whose delay job is in `_deepSleepDelayJob`, if that is valid. -/
  deepSleepDelayJob : Option ℕ
  nwStandbyMode : Bool
  /-- `AbortState::requested`. -/
  abortRequested : Bool
  /-- The number of activations so far. -/
  nextId : ℕ
  phase : ℕ → Phase

namespace DeepSleepController

/-- `DeepSleepController::IsDeepSleepInProgress`. -/
def isDeepSleepInProgress (ds : DeepSleepController) : Bool :=
  decide (ds.deepSleepState = .inProgress)

/-- `DeepSleepController::Elapsed`. -/
def elapsed (ds : DeepSleepController) (now : Time) : Time :=
  if ds.deepsleepStartTime = 0 then 0 else now - ds.deepsleepStartTime

/-- The return of a platform call is going to be followed by another attempt. -/
def Retries (ds : DeepSleepController) (id : ℕ) (errorCode : ErrorCode) : Prop :=
  errorCode = .errorAborted ∧ 1 < (ds.phase id).retryCount

instance (ds : DeepSleepController) (id : ℕ) (errorCode : ErrorCode) :
    Decidable (ds.Retries id errorCode) :=
  inferInstanceAs (Decidable (_ ∧ _))

/-- An activation gets to another phase. -/
def setPhase (ds : DeepSleepController) (id : ℕ) (p : Phase) : DeepSleepController :=
  { ds with phase := Function.update ds.phase id p }

/-- `DeepSleepController::Activate`. -/
def activate (ds : DeepSleepController) (timeOut : UInt32) (nwStandbyMode : Bool) :
    DeepSleepController × List Event :=
  ({ ds.setPhase ds.nextId (.queued timeOut nwStandbyMode) with nextId := ds.nextId + 1 },
    [.returned .errorNone])

/-- `DeepSleepController::performActivate`, up to the first wait. -/
def performActivate (ds : DeepSleepController) (id : ℕ) (sur : Surroundings) (timeOut : UInt32)
    (nwStandbyMode : Bool) : DeepSleepController :=
  if ds.isDeepSleepInProgress then
    -- another activation has the latch
    ds.setPhase id .over
  else
    let ds := { ds with
      abortRequested := false
      deepSleepState := .inProgress
      deepsleepStartTime := sur.now
      nwStandbyMode
      -- an override of zero is not used
      deepSleepDelaySec := sur.delayTimeOut.getD 0
      deepSleepWakeupTimeoutSec := (sur.wakeupTimer.filter (· ≠ 0)).getD timeOut }
    if ds.deepSleepDelaySec ≠ 0 then
      { ds.setPhase id (.delayed (sur.coreNow.add (ds.deepSleepDelaySec * 1000))) with
        deepSleepDelayJob := some id }
    else
      ds.setPhase id .preDelay

/-- `DeepSleepController::enterDeepSleepDelayed`, up to the wait. -/
def enterDeepSleepDelayed (ds : DeepSleepController) (id : ℕ) : DeepSleepController :=
  { ds.setPhase id .preDelay with deepSleepDelayJob := none }

/-- `enterDeepSleepNow` gives up because `isAbortDeepSleepRequested`. -/
def abort (ds : DeepSleepController) (id : ℕ) : DeepSleepController :=
  { ds.setPhase id .over with deepSleepState := .notStarted }

/-- `waitForAbortableDelay` returns, and `enterDeepSleepNow` gives up or goes on to the head of its
loop. -/
def endWait (ds : DeepSleepController) (id retryCount : ℕ) : DeepSleepController :=
  if ds.abortRequested then ds.abort id else ds.setPhase id (.attempt retryCount)

/-- The head of the loop of `enterDeepSleepNow`: the test of the abort flag, and the platform
call. -/
def setDeepSleep (ds : DeepSleepController) (id retryCount : ℕ) :
    DeepSleepController × List Event :=
  if ds.abortRequested then
    (ds.abort id, [])
  else
    (ds.setPhase id (.inPlatform retryCount),
      [.setDeepSleep id ds.deepSleepWakeupTimeoutSec ds.nwStandbyMode])

/-- The rest of `enterDeepSleepNow`, from the return of the platform call to the next wait or to
the call of the parent. `deepSleepTimerWakeup` asks the platform for the reason only to log it. -/
def setDeepSleepReturn (ds : DeepSleepController) (id retryCount : ℕ) (errorCode : ErrorCode)
    (userWakeup : Bool) : DeepSleepController × List Event :=
  if errorCode ≠ .errorNone then
    let ds := { ds with deepSleepState := .failed }
    let retryCount := retryCount - 1
    -- only an aborted call is tried again
    if errorCode = .errorAborted ∧ retryCount > 0 then
      (ds.setPhase id (.retryDelay retryCount), [])
    else
      (ds.setPhase id .notifying, [.onDeepSleepFailed id])
  else
    let ds := { ds with deepSleepState := .completed }
    if userWakeup then
      (ds.setPhase id .notifying, [.onDeepSleepUserWakeup id userWakeup])
    else
      (ds.setPhase id .notifying,
        [.onDeepSleepTimerWakeup id ds.deepSleepWakeupTimeoutSec.toInt32])

/-- `DeepSleepController::Deactivate`, with the answer of the platform's `DeepSleepWakeup`. -/
def deactivate (ds : DeepSleepController) (errorCode : ErrorCode) :
    DeepSleepController × List Event :=
  let ds := { ds with abortRequested := true }
  let ds :=
    match ds.deepSleepDelayJob with
    -- a delay job that has not begun is revoked, and its activation ends with it
    | some id => { ds.setPhase id .over with deepSleepDelayJob := none }
    | none => ds
  ({ ds with deepSleepState := .notStarted }, [.deepSleepWakeup, .returned errorCode])

/-- One step of the controller. The steps of an activation are those of the thread of the worker
pool that runs it. -/
inductive Label
  | activate (timeOut : UInt32) (nwStandbyMode : Bool)
  | performActivate (id : ℕ) (sur : Surroundings)
  | enterDeepSleepDelayed (id : ℕ)
  /-- An abortable wait ends, at its timeout or because it is woken. -/
  | endWait (id : ℕ)
  | setDeepSleep (id : ℕ)
  | setDeepSleepReturn (id : ℕ) (errorCode : ErrorCode) (userWakeup : Bool)
  /-- The callback of the parent returns, and with it `enterDeepSleepNow`. -/
  | callbackReturn (id : ℕ)
  | deactivate (errorCode : ErrorCode)

end DeepSleepController

open DeepSleepController in
/-- The deep sleep controller as a machine. A step of an activation is refused in another phase. -/
def deepSleepController : Machine DeepSleepController DeepSleepController.Label
    DeepSleepController.Event where
  step ds
    | .activate timeOut nwStandbyMode => some (ds.activate timeOut nwStandbyMode)
    | .performActivate id sur =>
      match ds.phase id with
      | .queued timeOut nwStandbyMode =>
        some (ds.performActivate id sur timeOut nwStandbyMode, [])
      | _ => none
    | .enterDeepSleepDelayed id =>
      match ds.phase id with
      | .delayed _ => some (ds.enterDeepSleepDelayed id, [])
      | _ => none
    | .endWait id =>
      match ds.phase id with
      -- five attempts are left after the wait before the first one
      | .preDelay => some (ds.endWait id 5, [])
      | .retryDelay retryCount => some (ds.endWait id retryCount, [])
      | _ => none
    | .setDeepSleep id =>
      match ds.phase id with
      | .attempt retryCount => some (ds.setDeepSleep id retryCount)
      | _ => none
    | .setDeepSleepReturn id errorCode userWakeup =>
      match ds.phase id with
      | .inPlatform retryCount => some (ds.setDeepSleepReturn id retryCount errorCode userWakeup)
      | _ => none
    | .callbackReturn id =>
      match ds.phase id with
      | .notifying => some (ds.setPhase id .over, [])
      | _ => none
    | .deactivate errorCode => some (ds.deactivate errorCode)

namespace DeepSleepController

/-- The controller after construction. -/
def initial : DeepSleepController where
  deepSleepState := .notStarted
  deepsleepStartTime := 0
  deepSleepDelaySec := 0
  deepSleepWakeupTimeoutSec := 0
  deepSleepDelayJob := none
  nwStandbyMode := false
  abortRequested := false
  nextId := 0
  phase := fun _ => .over

variable {ds ds' : DeepSleepController} {es : List Event} {l : Label}

/-! ## What a step can do -/

/-- The steps of the controller, classified. -/
inductive StepCase (ds : DeepSleepController) :
    Label → DeepSleepController → List Event → Prop
  | activated {timeOut : UInt32} {nw : Bool} :
      StepCase ds (.activate timeOut nw)
        { ds.setPhase ds.nextId (.queued timeOut nw) with nextId := ds.nextId + 1 }
        [.returned .errorNone]
  /-- The activation is refused because of the latch. -/
  | refused {id : ℕ} {sur : Surroundings} {timeOut : UInt32} {nw : Bool}
      (hp : ds.phase id = .queued timeOut nw) (h : ds.deepSleepState = .inProgress) :
      StepCase ds (.performActivate id sur) (ds.setPhase id .over) []
  /-- The activation is admitted, and takes the latch. -/
  | admitted {id : ℕ} {sur : Surroundings} {timeOut timeOut' delay : UInt32} {nw : Bool}
      {job : Option ℕ} {p : Phase}
      (hp : ds.phase id = .queued timeOut nw) (h : ds.deepSleepState ≠ .inProgress)
      (hp' : p.Entering) (hjob : job = ds.deepSleepDelayJob ∨ job = some id) :
      StepCase ds (.performActivate id sur)
        { ds.setPhase id p with
          abortRequested := false
          deepSleepState := .inProgress
          deepsleepStartTime := sur.now
          deepSleepDelaySec := delay
          deepSleepWakeupTimeoutSec := timeOut'
          deepSleepDelayJob := job
          nwStandbyMode := nw } []
  | dispatched {id : ℕ} {t : Time} (hp : ds.phase id = .delayed t) :
      StepCase ds (.enterDeepSleepDelayed id)
        { ds.setPhase id .preDelay with deepSleepDelayJob := none } []
  /-- The activation finds the abort flag set. -/
  | aborted {l : Label} {id : ℕ} (hl : l = .endWait id ∨ l = .setDeepSleep id)
      (hp : (ds.phase id).Entering) (h : ds.abortRequested = true) :
      StepCase ds l (ds.abort id) []
  | waited {id n : ℕ} (hp : (ds.phase id).Entering) (h : ds.abortRequested = false) :
      StepCase ds (.endWait id) (ds.setPhase id (.attempt n)) []
  | started {id n : ℕ} (hp : ds.phase id = .attempt n) (h : ds.abortRequested = false) :
      StepCase ds (.setDeepSleep id) (ds.setPhase id (.inPlatform n))
        [.setDeepSleep id ds.deepSleepWakeupTimeoutSec ds.nwStandbyMode]
  /-- The platform call was aborted, and is to be tried again. -/
  | retried {id n : ℕ} {userWakeup : Bool} (hp : ds.phase id = .inPlatform n)
      (h : ds.Retries id .errorAborted) :
      StepCase ds (.setDeepSleepReturn id .errorAborted userWakeup)
        { ds.setPhase id (.retryDelay (n - 1)) with deepSleepState := .failed } []
  /-- The platform result is final, and is reported. -/
  | reported {id n : ℕ} {errorCode : ErrorCode} {userWakeup : Bool} {s : DeepSleepState} {e : Event}
      (hp : ds.phase id = .inPlatform n) (h : ¬ds.Retries id errorCode)
      (hs : s = .failed ∨ s = .completed) (he : e.id? = some id)
      (he' : ∀ id timeout nw, e ≠ .setDeepSleep id timeout nw) :
      StepCase ds (.setDeepSleepReturn id errorCode userWakeup)
        { ds.setPhase id .notifying with deepSleepState := s } [e]
  | returned {id : ℕ} (hp : ds.phase id = .notifying) :
      StepCase ds (.callbackReturn id) (ds.setPhase id .over) []
  | deactivated {errorCode : ErrorCode} {phase : ℕ → Phase}
      (hphase : ∀ id, phase id = ds.phase id ∨ phase id = .over) :
      StepCase ds (.deactivate errorCode)
        { ds with
          deepSleepState := .notStarted
          abortRequested := true
          deepSleepDelayJob := none
          phase } [.deepSleepWakeup, .returned errorCode]

/-- An activation that is admitted takes the override, if there is one other than zero. -/
theorem performActivate_timeoutSec (hidle : ds.isDeepSleepInProgress = false) (id : ℕ)
    (sur : Surroundings) (timeOut : UInt32) (nw : Bool) :
    (ds.performActivate id sur timeOut nw).deepSleepWakeupTimeoutSec =
      (sur.wakeupTimer.filter (· ≠ 0)).getD timeOut := by
  simp only [performActivate, hidle, Bool.false_eq_true, if_false]
  split <;> rfl

/-- `performActivate` refuses the activation, or admits it. -/
theorem performActivate_cases {id : ℕ} {sur : Surroundings} {timeOut : UInt32} {nw : Bool}
    (hp : ds.phase id = .queued timeOut nw) :
    StepCase ds (.performActivate id sur) (ds.performActivate id sur timeOut nw) [] := by
  unfold performActivate
  split
  · rename_i h
    exact .refused hp (by simpa [isDeepSleepInProgress] using h)
  · rename_i h
    have hidle : ds.deepSleepState ≠ .inProgress := by simpa [isDeepSleepInProgress] using h
    dsimp only
    split
    · exact .admitted hp hidle (p := .delayed _) trivial (.inr rfl)
    · exact .admitted hp hidle (p := .preDelay) trivial (.inl rfl)

/-- A wait ends. -/
theorem endWait_cases {id n : ℕ} (hp : (ds.phase id).Entering) :
    StepCase ds (.endWait id) (ds.endWait id n) [] := by
  unfold endWait
  split
  · exact .aborted (.inl rfl) hp ‹_›
  · rename_i h
    exact .waited hp (by simpa using h)

/-- The head of the loop. -/
theorem setDeepSleep_cases {id n : ℕ} (hp : ds.phase id = .attempt n) :
    StepCase ds (.setDeepSleep id) (ds.setDeepSleep id n).1 (ds.setDeepSleep id n).2 := by
  unfold setDeepSleep
  split
  · exact .aborted (.inr rfl) (by simp [hp]) ‹_›
  · rename_i h
    exact .started hp (by simpa using h)

/-- The platform call returns. -/
theorem setDeepSleepReturn_cases {id n : ℕ} (hp : ds.phase id = .inPlatform n)
    (errorCode : ErrorCode) (userWakeup : Bool) :
    StepCase ds (.setDeepSleepReturn id errorCode userWakeup)
      (ds.setDeepSleepReturn id n errorCode userWakeup).1
      (ds.setDeepSleepReturn id n errorCode userWakeup).2 := by
  -- `retryCount` is decremented before it is tested
  have hretry : ds.Retries id errorCode ↔ errorCode = .errorAborted ∧ n - 1 > 0 := by
    simp only [Retries, hp, Phase.retryCount]
    exact and_congr_right fun _ => by omega
  unfold setDeepSleepReturn
  split
  · dsimp only
    split
    · rename_i h
      have hr := hretry.mpr h
      obtain ⟨rfl, -⟩ := h
      exact .retried hp hr
    · rename_i h
      exact .reported hp (by rwa [hretry]) (.inl rfl) rfl (by simp)
  · rename_i h
    -- a success is never tried again
    have hfinal : ¬ds.Retries id errorCode := by
      rintro ⟨rfl, -⟩
      exact h (by simp)
    dsimp only
    split
    · exact .reported hp hfinal (.inr rfl) rfl (by simp)
    · exact .reported hp hfinal (.inr rfl) rfl (by simp)

/-- `deactivate` sets the abort flag, resets the latch and revokes at most a delay job. -/
theorem deactivate_cases (ds : DeepSleepController) (errorCode : ErrorCode) :
    StepCase ds (.deactivate errorCode) (ds.deactivate errorCode).1
      (ds.deactivate errorCode).2 := by
  cases hjob : ds.deepSleepDelayJob with
  | none =>
    -- there is no delay job, and no phase changes
    have h := @StepCase.deactivated ds errorCode ds.phase fun _ => .inl rfl
    rw [← hjob] at h
    simpa [deactivate, hjob] using h
  | some id =>
    have h := @StepCase.deactivated ds errorCode (Function.update ds.phase id .over) fun id' => by
      by_cases hid : id' = id <;> simp [hid]
    simpa [deactivate, hjob, setPhase] using h

/-- Every step is one of the cases. -/
theorem step_cases (h : deepSleepController.step ds l = some (ds', es)) : StepCase ds l ds' es := by
  cases l with
  | activate timeOut nw =>
    cases h
    exact .activated
  | performActivate id sur =>
    simp only [deepSleepController] at h
    split at h <;> cases h
    exact performActivate_cases ‹_›
  | enterDeepSleepDelayed id =>
    simp only [deepSleepController] at h
    split at h <;> cases h
    exact .dispatched ‹_›
  | endWait id =>
    simp only [deepSleepController] at h
    -- the wait before the first attempt, and the one between two attempts
    split at h <;> cases h
    · rename_i hp
      exact endWait_cases (by simp [hp])
    · rename_i hp
      exact endWait_cases (by simp [hp])
  | setDeepSleep id =>
    simp only [deepSleepController] at h
    split at h
    · have hcase := setDeepSleep_cases ‹ds.phase id = _›
      rwa [Option.some.inj h] at hcase
    · cases h
  | setDeepSleepReturn id errorCode userWakeup =>
    simp only [deepSleepController] at h
    split at h
    · have hcase := setDeepSleepReturn_cases ‹ds.phase id = _› errorCode userWakeup
      rwa [Option.some.inj h] at hcase
    · cases h
  | callbackReturn id =>
    simp only [deepSleepController] at h
    split at h <;> cases h
    exact .returned ‹_›
  | deactivate errorCode =>
    cases h
    exact deactivate_cases ds errorCode

/-! ## The activations of a run -/

@[simp]
theorem setPhase_phase (ds : DeepSleepController) (id j : ℕ) (p : Phase) :
    (ds.setPhase id p).phase j = if j = id then p else ds.phase j := by
  simp [setPhase, Function.update_apply]

/-- What holds of an activation after one of them has moved held before, if it did of the one that
has moved. -/
theorem of_setPhase {P : Phase → Prop} {id j : ℕ} {p : Phase}
    (h : P ((ds.setPhase id p).phase j)) (hp : P p → P (ds.phase id)) : P (ds.phase j) := by
  rw [setPhase_phase] at h
  split at h
  · rename_i heq
    rw [heq]
    exact hp h
  · exact h

/-- An activation in a phase to which none of them has moved was there before. -/
theorem eq_of_setPhase {id j : ℕ} {p q : Phase} (h : (ds.setPhase id p).phase j = q)
    (hp : p ≠ q) : ds.phase j = q :=
  of_setPhase (P := (· = q)) h fun heq => absurd heq hp

/-- If the activation that has moved was not in a phase, one that is not there now was not there
before. -/
theorem ne_of_setPhase {id j : ℕ} {p q : Phase} (h : (ds.setPhase id p).phase j ≠ q)
    (hid : ds.phase id ≠ q) : ds.phase j ≠ q :=
  of_setPhase (P := (· ≠ q)) h fun _ => hid

/-- Numbers that have not been given to an activation stay unused. -/
theorem over_step (hover : ∀ id ≥ ds.nextId, ds.phase id = .over)
    (h : deepSleepController.step ds l = some (ds', es)) :
    ds.nextId ≤ ds'.nextId ∧ ∀ id ≥ ds'.nextId, ds'.phase id = .over := by
  -- an activation that moves is not over, and so its number has been given
  have hset : ∀ id p, ds.phase id ≠ .over →
      ∀ j ≥ ds.nextId, (ds.setPhase id p).phase j = .over := by
    intro id p hid j hj
    have hne : j ≠ id := by
      rintro rfl
      exact hid (hover _ hj)
    simp [hne, hover j hj]
  cases step_cases h with
  | activated =>
    refine ⟨Nat.le_succ _, fun id hid => ?_⟩
    have hne : id ≠ ds.nextId := by
      rintro rfl
      exact absurd hid (by simp)
    simp only [setPhase_phase, hne, ↓reduceIte]
    exact hover id (Nat.le_of_succ_le hid)
  | refused hp => exact ⟨le_rfl, hset _ _ (by simp [hp])⟩
  | admitted hp => exact ⟨le_rfl, hset _ _ (by simp [hp])⟩
  | dispatched hp => exact ⟨le_rfl, hset _ _ (by simp [hp])⟩
  | aborted _ hp => exact ⟨le_rfl, hset _ _ fun h => by simp [h] at hp⟩
  | waited hp => exact ⟨le_rfl, hset _ _ fun h => by simp [h] at hp⟩
  | started hp => exact ⟨le_rfl, hset _ _ (by simp [hp])⟩
  | retried hp => exact ⟨le_rfl, hset _ _ (by simp [hp])⟩
  | reported hp => exact ⟨le_rfl, hset _ _ (by simp [hp])⟩
  | returned hp => exact ⟨le_rfl, hset _ _ (by simp [hp])⟩
  | deactivated hphase =>
    exact ⟨le_rfl, fun id hid => (hphase id).elim (·.trans (hover id hid)) fun h => h⟩

/-- In every state a run reaches, a number that has not been given to an activation is unused. -/
theorem over_run {ls : List Label} (h : deepSleepController.Run initial ls es ds) :
    ∀ id ≥ ds.nextId, ds.phase id = .over :=
  h.invariant (fun _ _ => rfl) fun _ _ _ _ hover hstep => (over_step hover hstep).2

end DeepSleepController

end PowerManager
