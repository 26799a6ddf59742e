import PowerManager.ConditionVariable
import PowerManager.DeepSleepController.Attempts

/-!
# The threads of the deep sleep controller

In `deepSleepController` the abort flag is tested, set and cleared in the steps that also go on with
the job, and `Deactivate` is a single step. This module takes both apart: the abort flag is guarded
by the mutex of `AbortState`, its condition variable ends the waits of `enterDeepSleepNow`, and
`Deactivate` sets the flag, revokes the delay job, wakes the platform and resets
`_deepSleepState` one after the other.

The module introduces:

* `deepSleepThreads` — the machine of the activations and of the threads that run `Deactivate`;
* `aborts` — an activation that finds the abort flag set, or that is waiting when it is set, calls
  the platform no more, unless it was just about to; it has at most five steps to take, as long as
  the flag is not cleared by another activation, and none of them has to wait for the end of a wait.
-/

namespace PowerManager.DeepSleepController.Threads

/-- The threads that use `AbortState`. -/
inductive Thread
  /-- The thread of the worker pool that runs the job of an activation. -/
  | activation (id : ℕ)
  | deactivation (id : ℕ)
  deriving DecidableEq, Repr

/-- Where an activation is. -/
inductive Place
  /-- The worker pool holds the job that `Activate` submitted. -/
  | queued (timeOut : UInt32) (nwStandbyMode : Bool)
  /-- `clearAbortDeepSleep`. -/
  | clearing (timeOut : UInt32) (nwStandbyMode : Bool)
  /-- `performActivate`, behind that. -/
  | starting (timeOut : UInt32) (nwStandbyMode : Bool)
  /-- The worker pool holds the delay job. -/
  | delayed (scheduled : Time)
  /-- `enterDeepSleepNow` waits for one second. -/
  | preDelay
  /-- The head of the loop of `enterDeepSleepNow`. -/
  | head (retryCount : ℕ)
  /-- `isAbortDeepSleepRequested`. -/
  | testing (retryCount : ℕ)
  /-- The flag has been found clear, and the platform is to be called. -/
  | calling (retryCount : ℕ)
  | inPlatform (retryCount : ℕ)
  /-- `enterDeepSleepNow` waits for five seconds before it tries again. -/
  | retryDelay (retryCount : ℕ)
  /-- The flag has been found set. -/
  | aborting
  /-- The callback of the parent has not returned. -/
  | notifying
  | over
  deriving DecidableEq, Repr

/-- How far a call of `Deactivate` has got. -/
inductive Deactivation
  /-- `requestAbortDeepSleep`. -/
  | requesting
  | revoking
  | wakingUp
  /-- The platform has returned. -/
  | resetting (errorCode : ErrorCode)
  | over
  deriving DecidableEq, Repr

/-- A step of a thread. -/
inductive Label
  | activate (timeOut : UInt32) (nwStandbyMode : Bool)
  /-- `performActivate` begins, and looks at `_deepSleepState`. -/
  | performActivate (id : ℕ)
  | start (id : ℕ) (sur : Surroundings)
  | enterDeepSleepDelayed (id : ℕ)
  | head (id : ℕ)
  | setDeepSleep (id : ℕ)
  | setDeepSleepReturn (id : ℕ) (errorCode : ErrorCode) (userWakeup : Bool)
  | abort (id : ℕ)
  | callbackReturn (id : ℕ)
  | deactivate
  | revokeDelayJob (i : ℕ)
  | deepSleepWakeup (i : ℕ) (errorCode : ErrorCode)
  | resetState (i : ℕ)
  /-- A step with the mutex or the condition variable of `AbortState`. -/
  | abortState (l : GuardedFlag.Label Thread)

/-- Where an activation goes on with what it is told about the abort flag. -/
def Place.resume (requested : Bool) : Place → Place
  | .clearing timeOut nwStandbyMode => .starting timeOut nwStandbyMode
  -- five attempts are left after the wait before the first one
  | .preDelay => if requested then .aborting else .head 5
  | .testing retryCount => if requested then .aborting else .calling retryCount
  | .retryDelay retryCount => if requested then .aborting else .head retryCount
  | p => p

end Threads

open Threads in
/-- The controller and its threads. -/
structure Threads where
  abortState : GuardedFlag Thread
  deepSleepState : DeepSleepState
  deepsleepStartTime : Time
  deepSleepDelaySec : UInt32
  deepSleepWakeupTimeoutSec : UInt32
  /-- The activation whose delay job is in `_deepSleepDelayJob`, if that is valid. -/
  deepSleepDelayJob : Option ℕ
  nwStandbyMode : Bool
  nextActivation : ℕ
  place : ℕ → Place
  nextDeactivation : ℕ
  deactivation : ℕ → Deactivation

namespace Threads

/-- An activation gets to another place. -/
def setPlace (ts : Threads) (id : ℕ) (p : Place) : Threads :=
  { ts with place := Function.update ts.place id p }

/-- An activation gets to another place, where it begins with an operation on the abort flag. -/
def begin (ts : Threads) (id : ℕ) (p : Place) (op : FlagOp) : Threads :=
  { ts.setPlace id p with
    abortState := ts.abortState.setStage (.activation id) (.locking op) }

def setDeactivation (ts : Threads) (i : ℕ) (d : Deactivation) : Threads :=
  { ts with deactivation := Function.update ts.deactivation i d }

/-- The part of `performActivate` behind `clearAbortDeepSleep`, up to the first wait. -/
def start (ts : Threads) (id : ℕ) (sur : Surroundings) (timeOut : UInt32) (nwStandbyMode : Bool) :
    Threads :=
  let ts := { ts with
    deepSleepState := .inProgress
    deepsleepStartTime := sur.now
    nwStandbyMode
    -- an override of zero is not used
    deepSleepDelaySec := sur.delayTimeOut.getD 0
    deepSleepWakeupTimeoutSec := (sur.wakeupTimer.filter (· ≠ 0)).getD timeOut }
  if ts.deepSleepDelaySec ≠ 0 then
    { ts.setPlace id (.delayed (sur.coreNow.add (ts.deepSleepDelaySec * 1000))) with
      deepSleepDelayJob := some id }
  else
    ts.begin id .preDelay .await

/-- The part of `enterDeepSleepNow` behind the platform call, up to the next wait or to the call of
the parent. -/
def setDeepSleepReturn (ts : Threads) (id retryCount : ℕ) (errorCode : ErrorCode)
    (userWakeup : Bool) : Threads × List Event :=
  if errorCode ≠ .errorNone then
    let ts := { ts with deepSleepState := .failed }
    let retryCount := retryCount - 1
    -- only an aborted call is tried again
    if errorCode = .errorAborted ∧ retryCount > 0 then
      (ts.begin id (.retryDelay retryCount) .await, [])
    else
      (ts.setPlace id .notifying, [.onDeepSleepFailed id])
  else
    let ts := { ts with deepSleepState := .completed }
    if userWakeup then
      (ts.setPlace id .notifying, [.onDeepSleepUserWakeup id userWakeup])
    else
      (ts.setPlace id .notifying,
        [.onDeepSleepTimerWakeup id ts.deepSleepWakeupTimeoutSec.toInt32])

/-- A thread is through with its operation on the abort flag. -/
def resume (ts : Threads) (requested : Bool) : Thread → Threads
  | .activation id => ts.setPlace id ((ts.place id).resume requested)
  | .deactivation i => ts.setDeactivation i .revoking

/-- A step with the mutex or the condition variable of `AbortState`. -/
def abortStep (ts : Threads) (l : GuardedFlag.Label Thread) : Option Threads :=
  match l with
  | .begin _ _ => none
  | .lock _ | .act _ | .notify _ | .wake _ _ =>
    (GuardedFlag.guardedFlag.step ts.abortState l).map fun r =>
      let ts := { ts with abortState := r.1 }
      if r.1.stage l.thread = .away then
        ts.resume ((r.2.head?.map Prod.snd).getD false) l.thread
      else ts

/-- The delay job that is in `_deepSleepDelayJob` ends, if it has not begun. -/
def revokeDelayJob (ts : Threads) : Threads :=
  match ts.deepSleepDelayJob with
  | some id =>
    match ts.place id with
    | .delayed _ => { ts.setPlace id .over with deepSleepDelayJob := none }
    | _ => { ts with deepSleepDelayJob := none }
  | none => ts

/-- Nobody has asked for deep sleep. -/
def initial : Threads where
  abortState := .initial
  deepSleepState := .notStarted
  deepsleepStartTime := 0
  deepSleepDelaySec := 0
  deepSleepWakeupTimeoutSec := 0
  deepSleepDelayJob := none
  nwStandbyMode := false
  nextActivation := 0
  place := fun _ => .over
  nextDeactivation := 0
  deactivation := fun _ => .over

end Threads

open Threads in
/-- The threads as a machine. A step is refused at another place. -/
def deepSleepThreads : Machine Threads Threads.Label Event where
  step ts
    | .activate timeOut nwStandbyMode =>
      some ({ ts.setPlace ts.nextActivation (.queued timeOut nwStandbyMode) with
        nextActivation := ts.nextActivation + 1 }, [.returned .errorNone])
    | .performActivate id =>
      match ts.place id with
      | .queued timeOut nwStandbyMode =>
        if ts.deepSleepState = .inProgress then some (ts.setPlace id .over, [])
        else some (ts.begin id (.clearing timeOut nwStandbyMode) .clear, [])
      | _ => none
    | .start id sur =>
      match ts.place id with
      | .starting timeOut nwStandbyMode => some (ts.start id sur timeOut nwStandbyMode, [])
      | _ => none
    | .enterDeepSleepDelayed id =>
      match ts.place id with
      | .delayed _ => some ({ ts.begin id .preDelay .await with deepSleepDelayJob := none }, [])
      | _ => none
    | .head id =>
      match ts.place id with
      | .head retryCount => some (ts.begin id (.testing retryCount) .test, [])
      | _ => none
    | .setDeepSleep id =>
      match ts.place id with
      | .calling retryCount =>
        some (ts.setPlace id (.inPlatform retryCount),
          [.setDeepSleep id ts.deepSleepWakeupTimeoutSec ts.nwStandbyMode])
      | _ => none
    | .setDeepSleepReturn id errorCode userWakeup =>
      match ts.place id with
      | .inPlatform retryCount => some (ts.setDeepSleepReturn id retryCount errorCode userWakeup)
      | _ => none
    | .abort id =>
      if ts.place id = .aborting then
        some ({ ts.setPlace id .over with deepSleepState := .notStarted }, [])
      else none
    | .callbackReturn id =>
      if ts.place id = .notifying then some (ts.setPlace id .over, []) else none
    | .deactivate =>
      some ({ ts.setDeactivation ts.nextDeactivation .requesting with
        abortState := ts.abortState.setStage (.deactivation ts.nextDeactivation) (.locking .set)
        nextDeactivation := ts.nextDeactivation + 1 }, [])
    | .revokeDelayJob i =>
      if ts.deactivation i = .revoking then
        some (ts.revokeDelayJob.setDeactivation i .wakingUp, [])
      else none
    | .deepSleepWakeup i errorCode =>
      if ts.deactivation i = .wakingUp then
        some (ts.setDeactivation i (.resetting errorCode), [.deepSleepWakeup])
      else none
    | .resetState i =>
      match ts.deactivation i with
      | .resetting errorCode =>
        some ({ ts.setDeactivation i .over with deepSleepState := .notStarted },
          [.returned errorCode])
      | _ => none
    | .abortState l => (ts.abortStep l).map fun ts' => (ts', [])

namespace Threads

/-! ## What a step can do -/

/-- The activation whose thread takes a step. -/
def Label.id? : Label → Option ℕ
  | .performActivate id | .start id _ | .enterDeepSleepDelayed id | .head id | .setDeepSleep id
  | .setDeepSleepReturn id .. | .abort id | .callbackReturn id => some id
  | .abortState l =>
    match l.thread with
    | .activation id => some id
    | .deactivation _ => none
  | .activate .. | .deactivate | .revokeDelayJob _ | .deepSleepWakeup .. | .resetState _ => none

/-- The places where an activation asks for the abort flag. -/
def Place.Asks : Place → Prop
  | .preDelay | .testing _ | .retryDelay _ => True
  | _ => False

/-- The stages that an activation may be at, at a place. -/
def Place.Allows : Place → FlagStage → Prop
  | .clearing .., stage => stage = .locking .clear ∨ stage = .holding .clear
  | .preDelay, stage | .testing _, stage | .retryDelay _, stage => stage.left ≠ 0
  | _, stage => stage = .away

/-- The stages that a call of `Deactivate` may be at. -/
def Deactivation.Allows : Deactivation → FlagStage → Prop
  | .requesting, stage => stage = .locking .set ∨ stage = .holding .set ∨ stage = .notifying
  | _, stage => stage = .away

/-- Each thread uses `AbortState` only where its code does. -/
structure Inv (ts : Threads) : Prop where
  abortState : ts.abortState.Inv
  place : ∀ id, (ts.place id).Allows (ts.abortState.stage (.activation id))
  deactivation : ∀ i, (ts.deactivation i).Allows (ts.abortState.stage (.deactivation i))
  fresh : ∀ id, ts.nextActivation ≤ id → ts.place id = .over
  freshDeactivation : ∀ i, ts.nextDeactivation ≤ i → ts.deactivation i = .over

/-- What the steps of an activation do to its place and its stage, when the abort flag is as
given. -/
inductive Move (id : ℕ) (flag : Bool) :
    Place → FlagStage → Place → FlagStage → List Event → Prop
  /-- Another activation has the latch. -/
  | refused {timeOut : UInt32} {nw : Bool} :
      Move id flag (.queued timeOut nw) .away .over .away []
  | clears {timeOut : UInt32} {nw : Bool} :
      Move id flag (.queued timeOut nw) .away (.clearing timeOut nw) (.locking .clear) []
  | locked {timeOut : UInt32} {nw : Bool} {stage : FlagStage} :
      Move id flag (.clearing timeOut nw) stage (.clearing timeOut nw) (.holding .clear) []
  | cleared {timeOut : UInt32} {nw : Bool} {stage : FlagStage} :
      Move id flag (.clearing timeOut nw) stage (.starting timeOut nw) .away []
  | delayed {timeOut : UInt32} {nw : Bool} {t : Time} :
      Move id flag (.starting timeOut nw) .away (.delayed t) .away []
  | undelayed {timeOut : UInt32} {nw : Bool} :
      Move id flag (.starting timeOut nw) .away .preDelay (.locking .await) []
  | dispatched {t : Time} : Move id flag (.delayed t) .away .preDelay (.locking .await) []
  | asks {p : Place} {stage stage' : FlagStage} (hp : p.Asks) (hstage' : stage'.left ≠ 0)
      (hleft : flag = true → stage'.left < stage.left) : Move id flag p stage p stage' []
  | told {p : Place} {stage : FlagStage} (hp : p.Asks) (hstage : stage.left ≠ 0) :
      Move id flag p stage (p.resume flag) .away []
  | tests {n : ℕ} : Move id flag (.head n) .away (.testing n) (.locking .test) []
  | called {n : ℕ} {timeout : UInt32} {nw : Bool} :
      Move id flag (.calling n) .away (.inPlatform n) .away [.setDeepSleep id timeout nw]
  | retried {n : ℕ} : Move id flag (.inPlatform n) .away (.retryDelay (n - 1)) (.locking .await) []
  | reported {n : ℕ} {e : Event} (he : e.isCall = false) :
      Move id flag (.inPlatform n) .away .notifying .away [e]
  | aborted : Move id flag .aborting .away .over .away []
  | returned : Move id flag .notifying .away .over .away []

variable {ts ts' : Threads} {ls : List Label} {es es' : List Event} {l : Label} {id i : ℕ}
  {g : GuardedFlag.Label Thread} {p : Place} {op : FlagOp}

@[simp]
theorem setPlace_self (ts : Threads) (id : ℕ) (p : Place) : (ts.setPlace id p).place id = p := by
  simp [setPlace]

@[simp]
theorem setPlace_of_ne (ts : Threads) (p : Place) {j : ℕ} (h : j ≠ id) :
    (ts.setPlace id p).place j = ts.place j := by
  simp [setPlace, h]

@[simp]
theorem setPlace_abortState (ts : Threads) (id : ℕ) (p : Place) :
    (ts.setPlace id p).abortState = ts.abortState := rfl

@[simp]
theorem setDeactivation_self (ts : Threads) (i : ℕ) (d : Deactivation) :
    (ts.setDeactivation i d).deactivation i = d := by
  simp [setDeactivation]

@[simp]
theorem setDeactivation_of_ne (ts : Threads) (d : Deactivation) {j : ℕ} (h : j ≠ i) :
    (ts.setDeactivation i d).deactivation j = ts.deactivation j := by
  simp [setDeactivation, h]

theorem Place.Asks.allows (hp : p.Asks) {stage : FlagStage} : p.Allows stage ↔ stage.left ≠ 0 := by
  cases p <;> first | exact Iff.rfl | cases hp

/-- At most places an activation does not use `AbortState`. -/
theorem Inv.away (hI : Inv ts) (hplace : ts.place id = p)
    (hp : ∀ stage, p.Allows stage → stage = .away) :
    ts.abortState.stage (.activation id) = .away := by
  apply hp
  rw [← hplace]
  exact hI.place id

/-- An activation that uses `AbortState` clears the flag, or asks for it. -/
theorem Place.Allows.of_ne_away {stage : FlagStage} (h : p.Allows stage) (hstage : stage ≠ .away) :
    p.Asks ∨ ∃ timeOut nw, p = .clearing timeOut nw := by
  cases p with
  | clearing timeOut nw => exact .inr ⟨timeOut, nw, rfl⟩
  | preDelay | testing _ | retryDelay _ => exact .inl trivial
  | _ => exact absurd h hstage

/-- A step with `AbortState` is one of a thread that has begun to use it. -/
theorem abortStep_cases (h : ts.abortStep g = some ts') : ∃ abortState told,
    GuardedFlag.guardedFlag.step ts.abortState g = some (abortState, told) ∧
      ts.abortState.stage g.thread ≠ .away ∧
      ts' = if abortState.stage g.thread = .away then
          ({ ts with abortState }).resume ((told.head?.map Prod.snd).getD false) g.thread
        else { ts with abortState } := by
  have hg : ∀ t op, g ≠ .begin t op := by
    rintro t op rfl
    cases h
  have hstep : ∃ r, GuardedFlag.guardedFlag.step ts.abortState g = some r ∧
      (if r.1.stage g.thread = .away then
          ({ ts with abortState := r.1 }).resume ((r.2.head?.map Prod.snd).getD false) g.thread
        else { ts with abortState := r.1 }) = ts' := by
    cases g with
    | begin t op => exact absurd rfl (hg t op)
    | _ => exact Option.map_eq_some_iff.mp h
  obtain ⟨⟨abortState, told⟩, hr, rfl⟩ := hstep
  exact ⟨abortState, told, hr, GuardedFlag.ne_away_of_step hg hr, rfl⟩

theorem move_abortStep (hI : Inv ts) (hg : g.thread = .activation id)
    (h : ts.abortStep g = some ts') :
    Move id ts.abortState.flag (ts.place id) (ts.abortState.stage (.activation id)) (ts'.place id)
      (ts'.abortState.stage (.activation id)) [] := by
  obtain ⟨abortState, told, hr, haway, rfl⟩ := abortStep_cases h
  have hallows := hI.place id
  rw [← hg] at hallows ⊢
  rcases hallows.of_ne_away haway with hasks | ⟨timeOut, nw, hclearing⟩
  · rw [hasks.allows] at hallows
    rcases (GuardedFlag.ask_step hallows hr).2 with ⟨hleft, -⟩ | ⟨hdone, rfl⟩
    · have hstill : abortState.stage g.thread ≠ .away := fun hdone => hleft (by rw [hdone]; rfl)
      rw [if_neg hstill]
      exact .asks hasks hleft fun hflag => GuardedFlag.left_step hflag hallows hr
    · rw [if_pos hdone, hg]
      simp only [resume, setPlace_self, setPlace_abortState]
      rw [← hg, hdone]
      exact .told hasks hallows
  · have hstage : ts.abortState.stage g.thread = .locking .clear ∨
        ts.abortState.stage g.thread = .holding .clear := by
      rwa [hclearing] at hallows
    rcases (GuardedFlag.change_step (.inr rfl) hstage hr).2 with hholding | ⟨hset, -⟩ | ⟨-, hdone⟩
    · have hstill : abortState.stage g.thread ≠ .away := fun hdone => by
        rw [hholding] at hdone
        cases hdone
      rw [if_neg hstill, hholding, hclearing]
      exact .locked
    · cases hset
    · rw [if_pos hdone, hg]
      simp only [resume, setPlace_self, setPlace_abortState]
      rw [← hg, hdone, hclearing]
      exact .cleared

/-- A step that an activation takes outside `AbortState`, from the place `p` to the place `p'`,
where it may begin with an operation on the flag. -/
structure OwnStep (ts ts' : Threads) (id : ℕ) (p p' : Place) (op : Option FlagOp)
    (es : List Event) : Prop where
  old : ts.place id = p
  away : ts.abortState.stage (.activation id) = .away
  place : ts'.place = (ts.setPlace id p').place
  abortState : ts'.abortState =
    op.elim ts.abortState fun op => ts.abortState.setStage (.activation id) (.locking op)
  nextActivation : ts'.nextActivation = ts.nextActivation
  deactivation : ts'.deactivation = ts.deactivation
  nextDeactivation : ts'.nextDeactivation = ts.nextDeactivation
  move : Move id ts.abortState.flag p .away p' (op.elim .away .locking) es
  events : ∀ e ∈ es, e.id? = some id

/-- A step that a call of `Deactivate` takes behind `requestAbortDeepSleep`. -/
structure DeactivateStep (ts ts' : Threads) (i : ℕ) (d : Deactivation) (es : List Event) :
    Prop where
  old : ts.deactivation i ≠ .requesting ∧ ts.deactivation i ≠ .over
  new : d ≠ .requesting
  deactivation : ts'.deactivation = (ts.setDeactivation i d).deactivation
  nextDeactivation : ts'.nextDeactivation = ts.nextDeactivation
  place : ts'.place = ts.place ∨ ts'.place = ts.revokeDelayJob.place
  abortState : ts'.abortState = ts.abortState
  nextActivation : ts'.nextActivation = ts.nextActivation
  events : ∀ e ∈ es, e.id? = none

/-- The steps of the threads, classified. -/
inductive StepCase (ts : Threads) : Label → Threads → List Event → Prop
  | activate {timeOut : UInt32} {nw : Bool} :
      StepCase ts (.activate timeOut nw)
        { ts.setPlace ts.nextActivation (.queued timeOut nw) with
          nextActivation := ts.nextActivation + 1 } [.returned .errorNone]
  | own {l : Label} {ts' : Threads} {es : List Event} {id : ℕ} {p p' : Place} (op : Option FlagOp)
      (hl : l.id? = some id) (h : OwnStep ts ts' id p p' op es) : StepCase ts l ts' es
  | deactivate :
      StepCase ts .deactivate
        { ts.setDeactivation ts.nextDeactivation .requesting with
          abortState := ts.abortState.setStage (.deactivation ts.nextDeactivation) (.locking .set)
          nextDeactivation := ts.nextDeactivation + 1 } []
  | behind {l : Label} {ts' : Threads} {es : List Event} {i : ℕ} {d : Deactivation}
      (hl : l.id? = none) (h : DeactivateStep ts ts' i d es) : StepCase ts l ts' es
  | abortState {g : GuardedFlag.Label Thread} {ts' : Threads} (h : ts.abortStep g = some ts') :
      StepCase ts (.abortState g) ts' []

theorem step_cases (hI : Inv ts) (h : deepSleepThreads.step ts l = some (ts', es)) :
    StepCase ts l ts' es := by
  cases l with
  | activate timeOut nw =>
    cases h
    exact .activate
  | performActivate id =>
    simp only [deepSleepThreads] at h
    split at h
    · rename_i timeOut nw hplace
      have haway := hI.away hplace fun _ h => h
      split at h
      · cases h
        exact .own none rfl
          ⟨hplace, haway, rfl, rfl, rfl, rfl, rfl, .refused, by simp⟩
      · cases h
        exact .own (some .clear) rfl
          ⟨hplace, haway, rfl, rfl, rfl, rfl, rfl, .clears, by simp⟩
    · cases h
  | start id sur =>
    simp only [deepSleepThreads] at h
    split at h
    · rename_i timeOut nw hplace
      have haway := hI.away hplace fun _ h => h
      cases h
      simp only [start]
      split
      · exact .own none rfl
          ⟨hplace, haway, rfl, rfl, rfl, rfl, rfl, .delayed, by simp⟩
      · exact .own (some .await) rfl
          ⟨hplace, haway, rfl, rfl, rfl, rfl, rfl, .undelayed, by simp⟩
    · cases h
  | enterDeepSleepDelayed id =>
    simp only [deepSleepThreads] at h
    split at h
    · rename_i hplace
      cases h
      exact .own (some .await) rfl
        ⟨hplace, hI.away hplace fun _ h => h, rfl, rfl, rfl, rfl, rfl, .dispatched, by simp⟩
    · cases h
  | head id =>
    simp only [deepSleepThreads] at h
    split at h
    · rename_i hplace
      cases h
      exact .own (some .test) rfl
        ⟨hplace, hI.away hplace fun _ h => h, rfl, rfl, rfl, rfl, rfl, .tests, by simp⟩
    · cases h
  | setDeepSleep id =>
    simp only [deepSleepThreads] at h
    split at h
    · rename_i hplace
      cases h
      exact .own none rfl
        ⟨hplace, hI.away hplace fun _ h => h, rfl, rfl, rfl, rfl, rfl, .called,
          by simp [Event.id?]⟩
    · cases h
  | setDeepSleepReturn id errorCode userWakeup =>
    simp only [deepSleepThreads] at h
    split at h
    · rename_i hplace
      have haway := hI.away hplace fun _ h => h
      have hret := Option.some.inj h
      simp only [setDeepSleepReturn] at hret
      split at hret
      · split at hret
        · cases hret
          exact .own (some .await) rfl
            ⟨hplace, haway, rfl, rfl, rfl, rfl, rfl, .retried, by simp⟩
        · cases hret
          exact .own none rfl
            ⟨hplace, haway, rfl, rfl, rfl, rfl, rfl, .reported rfl, by simp [Event.id?]⟩
      · split at hret
        all_goals
          cases hret
          exact .own none rfl
            ⟨hplace, haway, rfl, rfl, rfl, rfl, rfl, .reported rfl, by simp [Event.id?]⟩
    · cases h
  | abort id =>
    simp only [deepSleepThreads] at h
    split at h
    · rename_i hplace
      cases h
      exact .own none rfl
        ⟨hplace, hI.away hplace fun _ h => h, rfl, rfl, rfl, rfl, rfl, .aborted, by simp⟩
    · cases h
  | callbackReturn id =>
    simp only [deepSleepThreads] at h
    split at h
    · rename_i hplace
      cases h
      exact .own none rfl
        ⟨hplace, hI.away hplace fun _ h => h, rfl, rfl, rfl, rfl, rfl, .returned, by simp⟩
    · cases h
  | deactivate =>
    cases h
    exact .deactivate
  | revokeDelayJob i =>
    simp only [deepSleepThreads] at h
    split at h
    · rename_i hd
      cases h
      have hsame : ts.revokeDelayJob.deactivation = ts.deactivation ∧
          ts.revokeDelayJob.nextDeactivation = ts.nextDeactivation ∧
          ts.revokeDelayJob.abortState = ts.abortState ∧
          ts.revokeDelayJob.nextActivation = ts.nextActivation := by
        unfold revokeDelayJob
        split
        · split <;> exact ⟨rfl, rfl, rfl, rfl⟩
        · exact ⟨rfl, rfl, rfl, rfl⟩
      obtain ⟨hdeactivation, hnext, habort, hnextActivation⟩ := hsame
      refine .behind (i := i) (d := .wakingUp) rfl ⟨by simp [hd], by simp, ?_, hnext, .inr rfl,
        habort, hnextActivation, by simp⟩
      simp [setDeactivation, hdeactivation]
    · cases h
  | deepSleepWakeup i errorCode =>
    simp only [deepSleepThreads] at h
    split at h
    · rename_i hd
      cases h
      exact .behind (i := i) (d := .resetting errorCode) rfl
        ⟨by simp [hd], by simp, rfl, rfl, .inl rfl, rfl, rfl, by simp [Event.id?]⟩
    · cases h
  | resetState i =>
    simp only [deepSleepThreads] at h
    split at h
    · rename_i hd
      cases h
      exact .behind (i := i) (d := .over) rfl
        ⟨by simp [hd], by simp, rfl, rfl, .inl rfl, rfl, rfl, by simp [Event.id?]⟩
    · cases h
  | abortState g =>
    obtain ⟨ts₁, hts, heq⟩ := Option.map_eq_some_iff.mp h
    cases heq
    exact .abortState hts

theorem setPlace_place_of_ne {j : ℕ} (hplace : ts'.place = (ts.setPlace j p).place) (hj : id ≠ j) :
    ts'.place id = ts.place id := by
  rw [hplace]
  exact setPlace_of_ne _ _ hj

theorem resume_place_of_ne (ts : Threads) (requested : Bool) {t : Thread}
    (ht : t ≠ .activation id) : (ts.resume requested t).place id = ts.place id := by
  cases t with
  | activation j => exact setPlace_of_ne _ _ fun hj => ht (by rw [hj])
  | deactivation i => rfl

@[simp]
theorem resume_abortState (ts : Threads) (requested : Bool) (t : Thread) :
    (ts.resume requested t).abortState = ts.abortState := by
  cases t <;> rfl

@[simp]
theorem resume_nextActivation (ts : Threads) (requested : Bool) (t : Thread) :
    (ts.resume requested t).nextActivation = ts.nextActivation := by
  cases t <;> rfl

@[simp]
theorem resume_nextDeactivation (ts : Threads) (requested : Bool) (t : Thread) :
    (ts.resume requested t).nextDeactivation = ts.nextDeactivation := by
  cases t <;> rfl

/-! ## The activations -/

/-- Each step of an activation is one of its moves. -/
theorem move_step (hI : Inv ts) (hl : l.id? = some id)
    (h : deepSleepThreads.step ts l = some (ts', es)) :
    Move id ts.abortState.flag (ts.place id) (ts.abortState.stage (.activation id)) (ts'.place id)
      (ts'.abortState.stage (.activation id)) es := by
  cases step_cases hI h with
  | activate | deactivate => cases hl
  | behind hl' => simp [hl'] at hl
  | abortState habort =>
    refine move_abortStep hI ?_ habort
    simp only [Label.id?] at hl
    split at hl
    · cases hl
      assumption
    · cases hl
  | @own _ _ _ j p p' op hj hown =>
    obtain rfl : j = id := Option.some.inj (hj.symm.trans hl)
    have hmove := hown.move
    rw [hown.old, hown.away, hown.place, hown.abortState, setPlace_self]
    cases op with
    | none => simpa [hown.away] using hmove
    | some op => simpa using hmove

theorem revokeDelayJob_place (ts : Threads) (id : ℕ) :
    ts.revokeDelayJob.place id = ts.place id ∨
      ∃ t, ts.place id = .delayed t ∧ ts.revokeDelayJob.place id = .over := by
  unfold revokeDelayJob
  split
  · rename_i j _
    split
    · rename_i t hdelayed
      by_cases hj : id = j
      · subst hj
        exact .inr ⟨t, hdelayed, setPlace_self ..⟩
      · exact .inl (setPlace_of_ne _ _ hj)
    · exact .inl rfl
  · exact .inl rfl

/-- What the steps of other threads do to an activation. -/
inductive Frame (ts ts' : Threads) (id : ℕ) : Prop
  | same (hplace : ts'.place id = ts.place id) (hnext : ts'.nextActivation = ts.nextActivation)
  | revoked (t : Time) (hold : ts.place id = .delayed t) (hplace : ts'.place id = .over)
      (hnext : ts'.nextActivation = ts.nextActivation)
  | activated (timeOut : UInt32) (nw : Bool)
      (hplace : ts'.place id = if id = ts.nextActivation then .queued timeOut nw else ts.place id)
      (hnext : ts'.nextActivation = ts.nextActivation + 1)

theorem frame_step (hI : Inv ts) (hl : l.id? ≠ some id)
    (h : deepSleepThreads.step ts l = some (ts', es)) : Frame ts ts' id := by
  cases step_cases hI h with
  | @activate timeOut nw =>
    refine .activated timeOut nw ?_ rfl
    by_cases hid : id = ts.nextActivation
    · subst hid
      simp
    · simp [hid]
  | deactivate => exact .same rfl rfl
  | own op hj hown =>
    refine .same (setPlace_place_of_ne hown.place ?_) hown.nextActivation
    rintro rfl
    exact hl hj
  | behind _ hbehind =>
    have hnext := hbehind.nextActivation
    rcases hbehind.place with hplace | hplace
    · exact .same (by rw [hplace]) hnext
    · rcases ts.revokeDelayJob_place id with hsame | ⟨t, hdelayed, hover⟩
      · exact .same (by rw [hplace, hsame]) hnext
      · exact .revoked t hdelayed (by rw [hplace, hover]) hnext
  | @abortState g _ habort =>
    have hg : g.thread ≠ .activation id := fun hg => hl (by simp only [Label.id?, hg])
    obtain ⟨abortState, told, -, -, rfl⟩ := abortStep_cases habort
    split
    · exact .same (resume_place_of_ne _ _ hg) (resume_nextActivation ..)
    · exact .same rfl rfl

/-- The step does not clear the abort flag. -/
def Keeps (ts : Threads) : Label → Prop
  | .abortState g => ts.abortState.Keeps g
  | _ => True

/-- What a step does with `AbortState`. -/
inductive AbortStep (ts ts' : Threads) (l : Label) : Prop
  | same (h : ts'.abortState = ts.abortState)
  | step (g : GuardedFlag.Label Thread) (told : List (Thread × Bool))
      (h : GuardedFlag.guardedFlag.step ts.abortState g = some (ts'.abortState, told))
      (hkeeps : ts.Keeps l → ts.abortState.Keeps g)
      (hthread : ∀ id, g.thread = .activation id → l.id? = some id)
      (hdeactivation : ∀ i, g.thread = .deactivation i →
        l = .abortState g ∨ l = .deactivate ∧ ts.nextDeactivation = i)

theorem abortState_step (hI : Inv ts) (h : deepSleepThreads.step ts l = some (ts', es)) :
    AbortStep ts ts' l := by
  cases step_cases hI h with
  | activate => exact .same rfl
  | behind _ hbehind => exact .same hbehind.abortState
  | @own _ _ _ id _ _ op hl hown =>
    cases op with
    | none => exact .same hown.abortState
    | some op =>
      refine .step (.begin (.activation id) op) [] ?_ (fun _ => trivial) ?_ (by rintro _ ⟨⟩)
      · rw [hown.abortState]
        exact if_pos hown.away
      · rintro _ ⟨⟩
        exact hl
  | deactivate =>
    have haway : Deactivation.over.Allows
        (ts.abortState.stage (.deactivation ts.nextDeactivation)) := by
      rw [← hI.freshDeactivation _ le_rfl]
      exact hI.deactivation _
    refine .step (.begin (.deactivation ts.nextDeactivation) .set) [] (if_pos haway)
      (fun _ => trivial) (by rintro _ ⟨⟩) ?_
    rintro _ ⟨⟩
    exact .inr ⟨rfl, rfl⟩
  | @abortState g _ habort =>
    obtain ⟨abortState, told, hr, -, rfl⟩ := abortStep_cases habort
    refine .step g told ?_ (fun hkeeps => hkeeps) ?_ fun i hi => .inl rfl
    · rw [hr]
      split
      · rw [resume_abortState]
      · rfl
    · intro id hid
      simp only [Label.id?, hid]

/-- A step leaves the stage of another activation, but may wake it. -/
theorem stage_step (hI : Inv ts) (hl : l.id? ≠ some id)
    (h : deepSleepThreads.step ts l = some (ts', es)) :
    ts'.abortState.stage (.activation id) = ts.abortState.stage (.activation id) ∨
      ts.abortState.stage (.activation id) = .blocked ∧
        ts'.abortState.stage (.activation id) = .locking .await := by
  cases abortState_step hI h with
  | same hsame => exact .inl (by rw [hsame])
  | step g told hr _ hthread => exact GuardedFlag.stage_of_ne (fun hg => hl (hthread id hg)) hr

/-! ## The invariant -/

/-- The steps of an activation. -/
theorem Move.allows {flag : Bool} {p' : Place} {stage stage' : FlagStage}
    (h : Move id flag p stage p' stage' es) : p'.Allows stage' := by
  cases h with
  | asks hp hstage' => exact hp.allows.mpr hstage'
  | told hp =>
    cases p with
    | preDelay | testing _ | retryDelay _ => cases flag <;> rfl
    | _ => cases hp
  | locked => exact .inr rfl
  | clears => exact .inl rfl
  | undelayed | dispatched | tests | retried => exact Nat.succ_ne_zero 1
  | _ => rfl

/-- Only an activation that is not over takes steps. -/
theorem Move.ne_over {flag : Bool} {p' : Place} {stage stage' : FlagStage}
    (h : Move id flag p stage p' stage' es) : p ≠ .over := by
  rintro rfl
  cases h with
  | asks hp | told hp => cases hp

/-- A thread that is woken asks for the flag again. -/
theorem Place.Allows.woken {stage stage' : FlagStage} (h : p.Allows stage)
    (hstage : stage' = stage ∨ stage = .blocked ∧ stage' = .locking .await) : p.Allows stage' := by
  rcases hstage with rfl | ⟨rfl, rfl⟩
  · exact h
  · cases p with
    | preDelay | testing _ | retryDelay _ => exact Nat.succ_ne_zero 1
    | clearing timeOut nw => rcases h with h | h <;> cases h
    | _ => cases h

/-- Whatever thread takes a step, an activation uses `AbortState` only where its code does. -/
theorem place_step (hI : Inv ts) (h : deepSleepThreads.step ts l = some (ts', es)) (id : ℕ) :
    (ts'.place id).Allows (ts'.abortState.stage (.activation id)) := by
  by_cases hl : l.id? = some id
  · exact (move_step hI hl h).allows
  · have hallows := hI.place id
    have hstage := stage_step hI hl h
    cases frame_step hI hl h with
    | same hplace =>
      rw [hplace]
      exact hallows.woken hstage
    | revoked t hold hplace =>
      have hover : Place.over.Allows (ts.abortState.stage (.activation id)) :=
        hI.away hold fun _ h => h
      rw [hplace]
      exact hover.woken hstage
    | activated timeOut nw hplace =>
      rw [hplace]
      split
      · have hqueued : (Place.queued timeOut nw).Allows (ts.abortState.stage (.activation id)) :=
          hI.away (hI.fresh id (by omega)) fun _ h => h
        exact hqueued.woken hstage
      · exact hallows.woken hstage

theorem nextActivation_le (hI : Inv ts)
    (h : deepSleepThreads.step ts l = some (ts', es)) :
    ts.nextActivation ≤ ts'.nextActivation := by
  -- an activation that takes no step
  obtain ⟨id, hid⟩ : ∃ id, l.id? ≠ some id := by
    cases l.id? with
    | none => exact ⟨0, by simp⟩
    | some j => exact ⟨j + 1, by simp⟩
  cases frame_step hI hid h with
  | same _ hnext | revoked _ _ _ hnext => omega
  | activated _ _ _ hnext => omega

/-- An activation that is yet to come has no place. -/
theorem fresh_step (hI : Inv ts) (h : deepSleepThreads.step ts l = some (ts', es)) (id : ℕ)
    (hid : ts'.nextActivation ≤ id) : ts'.place id = .over := by
  have hover := hI.fresh id (le_trans (nextActivation_le hI h) hid)
  by_cases hl : l.id? = some id
  · exact absurd hover (move_step hI hl h).ne_over
  · cases frame_step hI hl h with
    | same hplace => rw [hplace, hover]
    | revoked _ _ hplace => exact hplace
    | activated timeOut nw hplace hnext =>
      rw [hplace, if_neg (by omega)]
      exact hover

/-- What a call of `Deactivate` comes to that sets the flag. -/
theorem deactivation_abortStep (hI : Inv ts) (hg : g.thread = .deactivation i)
    (h : ts.abortStep g = some ts') :
    (ts'.deactivation i).Allows (ts'.abortState.stage (.deactivation i)) := by
  obtain ⟨abortState, told, hr, haway, rfl⟩ := abortStep_cases h
  have hallows := hI.deactivation i
  rw [← hg] at hallows ⊢
  have hrequesting : ts.deactivation i = .requesting := by
    by_contra hne
    refine haway ?_
    cases hd : ts.deactivation i with
    | requesting => exact absurd hd hne
    | _ => rwa [hd] at hallows
  rw [hrequesting] at hallows
  have hnotAway : abortState.stage g.thread = .away ∨ Deactivation.requesting.Allows
      (abortState.stage g.thread) := by
    rcases hallows with hset | hset | hnotifying
    · rcases (GuardedFlag.change_step (.inl rfl) (.inl hset) hr).2 with h | ⟨-, h⟩ | ⟨h, -⟩
      · exact .inr (.inr (.inl h))
      · exact .inr (.inr (.inr h))
      · cases h
    · rcases (GuardedFlag.change_step (.inl rfl) (.inr hset) hr).2 with h | ⟨-, h⟩ | ⟨h, -⟩
      · exact .inr (.inr (.inl h))
      · exact .inr (.inr (.inr h))
      · cases h
    · exact .inl (GuardedFlag.notify_step hnotifying hr)
  by_cases hdone : abortState.stage g.thread = .away
  · rw [if_pos hdone, hg]
    show (Threads.setDeactivation _ i .revoking |>.deactivation i).Allows
      (abortState.stage (.deactivation i))
    rw [setDeactivation_self, ← hg]
    exact hdone
  · rw [if_neg hdone, hrequesting]
    exact hnotAway.resolve_left hdone

/-- The steps of other threads leave the stage of a call of `Deactivate`. -/
theorem deactivation_stage (hI : Inv ts) (h : deepSleepThreads.step ts l = some (ts', es))
    (hg : ∀ g, l = .abortState g → g.thread ≠ .deactivation i)
    (hi : l = .deactivate → ts.nextDeactivation ≠ i) :
    ts'.abortState.stage (.deactivation i) = ts.abortState.stage (.deactivation i) := by
  cases abortState_step hI h with
  | same hsame => rw [hsame]
  | step g told hr _ _ hdeactivation =>
    have hne : g.thread ≠ .deactivation i := by
      intro hthread
      rcases hdeactivation i hthread with hl | ⟨hl, hnext⟩
      · exact hg g hl hthread
      · exact hi hl hnext
    rcases GuardedFlag.stage_of_ne hne hr with hsame | ⟨hblocked, -⟩
    · exact hsame
    · have hallows := hI.deactivation i
      rw [hblocked] at hallows
      cases hd : ts.deactivation i <;> simp [hd, Deactivation.Allows] at hallows

/-- A call of `Deactivate` that a step leaves where it is. -/
theorem deactivation_same (hI : Inv ts)
    (hstage : ts'.abortState.stage (.deactivation i) = ts.abortState.stage (.deactivation i))
    (hsame : ts'.deactivation i = ts.deactivation i)
    (hnext : ts.nextDeactivation ≤ ts'.nextDeactivation) :
    (ts'.deactivation i).Allows (ts'.abortState.stage (.deactivation i)) ∧
      (ts'.nextDeactivation ≤ i → ts'.deactivation i = .over) := by
  rw [hsame, hstage]
  exact ⟨hI.deactivation i, fun hle => hI.freshDeactivation i (le_trans hnext hle)⟩

/-- A call of `Deactivate` that goes on, behind `requestAbortDeepSleep`. -/
theorem deactivation_behind (hI : Inv ts) {d : Deactivation}
    (h : DeactivateStep ts ts' i d es) :
    (ts'.deactivation i).Allows (ts'.abortState.stage (.deactivation i)) ∧
      (ts'.nextDeactivation ≤ i → ts'.deactivation i = .over) := by
  have haway : ts.abortState.stage (.deactivation i) = .away := by
    have hallows := hI.deactivation i
    cases hd : ts.deactivation i with
    | requesting => exact absurd hd h.old.1
    | _ => rwa [hd] at hallows
  rw [h.deactivation, h.abortState, h.nextDeactivation, setDeactivation_self, haway]
  refine ⟨?_, fun hle => absurd (hI.freshDeactivation i hle) h.old.2⟩
  cases d with
  | requesting => exact absurd rfl h.new
  | _ => rfl

theorem deactivation_step (hI : Inv ts) (h : deepSleepThreads.step ts l = some (ts', es)) (i : ℕ) :
    (ts'.deactivation i).Allows (ts'.abortState.stage (.deactivation i)) ∧
      (ts'.nextDeactivation ≤ i → ts'.deactivation i = .over) := by
  cases step_cases hI h with
  | activate => exact deactivation_same hI rfl rfl le_rfl
  | @own _ _ _ id _ _ op hl hown =>
    have hg : ∀ g, l = .abortState g → g.thread ≠ .deactivation i := by
      rintro g rfl hg
      simp only [Label.id?, hg] at hl
      cases hl
    refine deactivation_same hI (deactivation_stage hI h hg ?_) (congrFun hown.deactivation i)
      (Nat.le_of_eq hown.nextDeactivation.symm)
    rintro rfl
    cases hl
  | deactivate =>
    by_cases hi : i = ts.nextDeactivation
    · subst hi
      simp [Deactivation.Allows]
    · have hstage := deactivation_stage hI h (i := i) (by simp) fun _ hnext => hi hnext.symm
      exact deactivation_same hI hstage (setDeactivation_of_ne _ _ hi) (Nat.le_succ _)
  | @behind _ _ _ j d hl hbehind =>
    by_cases hi : i = j
    · subst hi
      exact deactivation_behind hI hbehind
    · refine deactivation_same hI (by rw [hbehind.abortState]) ?_
        (Nat.le_of_eq hbehind.nextDeactivation.symm)
      rw [hbehind.deactivation]
      exact setDeactivation_of_ne _ _ hi
  | @abortState g _ hts =>
    obtain ⟨abortState, told, -, haway, rfl⟩ := abortStep_cases hts
    by_cases hg : g.thread = .deactivation i
    · refine ⟨deactivation_abortStep hI hg hts, fun hle => ?_⟩
      -- a call that is yet to come does not use `AbortState`
      rw [hg] at haway
      have hnext : ts.nextDeactivation ≤ i := by
        rw [hg] at hle
        split at hle <;> exact hle
      have hallows := hI.deactivation i
      rw [hI.freshDeactivation i hnext] at hallows
      exact absurd hallows haway
    · have hthread : ∀ g', Label.abortState g = .abortState g' → g'.thread ≠ .deactivation i := by
        rintro _ ⟨⟩
        exact hg
      refine deactivation_same hI (deactivation_stage hI h hthread (by simp)) ?_ ?_
      · split
        · cases hthread : g.thread with
          | activation id => rfl
          | deactivation j => exact setDeactivation_of_ne _ _ fun hi => hg (by rw [hthread, hi])
        · rfl
      · split
        · rw [resume_nextDeactivation]
        · exact le_rfl

theorem inv_step (hI : Inv ts) (h : deepSleepThreads.step ts l = some (ts', es)) : Inv ts' where
  abortState := by
    cases abortState_step hI h with
    | same hsame =>
      rw [hsame]
      exact hI.abortState
    | step g told hr => exact GuardedFlag.inv_step hI.abortState hr
  place := place_step hI h
  deactivation i := (deactivation_step hI h i).1
  fresh := fresh_step hI h
  freshDeactivation i := (deactivation_step hI h i).2

theorem inv_run (h : deepSleepThreads.Run initial ls es ts) : Inv ts :=
  h.invariant ⟨GuardedFlag.inv_initial, fun _ => rfl, fun _ => rfl, fun _ _ => rfl, fun _ _ => rfl⟩
    fun _ _ _ _ hI hstep => inv_step hI hstep

/-! ## What the abort flag does -/

/-- The activation has got behind `clearAbortDeepSleep`, or is over. -/
def Place.Cleared : Place → Prop
  | .queued .. | .clearing .. => False
  | _ => True

/-- The calls that the activation has yet to make while the flag is set: it has just found it
clear. -/
def Place.calls : Place → ℕ
  | .calling _ => 1
  | _ => 0

/-- The steps that it has yet to take while the flag is set. -/
def Place.left : Place → FlagStage → ℕ
  | .queued .., _ | .clearing .., _ | .over, _ => 0
  | .aborting, _ | .notifying, _ => 1
  | .preDelay, stage | .testing _, stage | .retryDelay _, stage => 1 + stage.left
  | .delayed _, _ | .head _, _ | .inPlatform _, _ => 4
  | .starting .., _ | .calling _, _ => 5

/-- The activation calls the platform's `SetDeepSleep`. -/
def isCallOf (id : ℕ) (e : Event) : Bool := e.id? = some id && e.isCall

theorem Place.left_le (p : Place) (stage : FlagStage) : p.left stage ≤ 5 := by
  have hstage : stage.left ≤ 3 := by
    unfold FlagStage.left
    split <;> omega
  unfold Place.left
  split <;> omega

/-- While the flag is set, a move brings the activation closer to its end. -/
theorem Move.closer {p' : Place} {stage stage' : FlagStage}
    (h : Move id true p stage p' stage' es) (hp : p.Cleared) :
    p'.Cleared ∧ es.countP (isCallOf id) + p'.calls ≤ p.calls ∧
      p'.left stage' + 1 ≤ p.left stage := by
  cases h with
  | refused | clears | locked | cleared => cases hp
  | asks hasks _ hleft =>
    refine ⟨hp, by simp, ?_⟩
    have hlt := hleft rfl
    cases p with
    | preDelay | testing _ | retryDelay _ =>
      simp only [Place.left]
      omega
    | _ => cases hasks
  | told hasks hstage =>
    cases p with
    | preDelay | testing _ | retryDelay _ =>
      refine ⟨trivial, le_rfl, ?_⟩
      show 1 + 1 ≤ 1 + stage.left
      omega
    | _ => cases hasks
  | called => exact ⟨trivial, by simp [isCallOf, Event.id?, Event.isCall, Place.calls], le_rfl⟩
  | reported he => exact ⟨trivial, by simp [isCallOf, he, Place.calls], by simp [Place.left]⟩
  | delayed | undelayed | dispatched | tests | retried | aborted | returned =>
    exact ⟨trivial, by simp [Place.calls], by simp [Place.left, FlagStage.left]⟩

/-- The steps of other threads make no calls for the activation. -/
theorem events_step (hI : Inv ts) (hl : l.id? ≠ some id)
    (h : deepSleepThreads.step ts l = some (ts', es)) : es.countP (isCallOf id) = 0 := by
  suffices hes : ∀ e ∈ es, e.id? ≠ some id by
    rw [List.countP_eq_zero]
    intro e he
    simp [isCallOf, hes e he]
  cases step_cases hI h with
  | activate => simp [Event.id?]
  | deactivate | abortState => simp
  | behind _ hbehind =>
    intro e he
    simp [hbehind.events e he]
  | own op hj hown =>
    intro e he hid
    exact hl (by rw [hj, ← hown.events e he, hid])

/-- The abort flag is set, and the activation has got behind `clearAbortDeepSleep`. -/
structure Aborted (id : ℕ) (ts : Threads) : Prop where
  inv : Inv ts
  flag : ts.abortState.flag = true
  activated : id < ts.nextActivation
  cleared : (ts.place id).Cleared

theorem aborts_step (hA : Aborted id ts) (hkeeps : ts.Keeps l)
    (h : deepSleepThreads.step ts l = some (ts', es)) :
    Aborted id ts' ∧ es.countP (isCallOf id) + (ts'.place id).calls ≤ (ts.place id).calls ∧
      (ts'.place id).left (ts'.abortState.stage (.activation id)) +
          (if l.id? = some id then 1 else 0) ≤
        (ts.place id).left (ts.abortState.stage (.activation id)) := by
  have hflag : ts'.abortState.flag = true := by
    cases abortState_step hA.inv h with
    | same hsame =>
      rw [hsame]
      exact hA.flag
    | step g told hr hg => exact GuardedFlag.flag_step hA.flag (hg hkeeps) hr
  have hI' := inv_step hA.inv h
  have hid := lt_of_lt_of_le hA.activated (nextActivation_le hA.inv h)
  by_cases hl : l.id? = some id
  · have hmove := move_step hA.inv hl h
    rw [hA.flag] at hmove
    obtain ⟨hcleared, hcalls, hleft⟩ := hmove.closer hA.cleared
    rw [if_pos hl]
    exact ⟨⟨hI', hflag, hid, hcleared⟩, hcalls, hleft⟩
  · rw [if_neg hl, events_step hA.inv hl h, Nat.zero_add, Nat.add_zero]
    suffices hplace : ts'.place id = ts.place id ∨ ts'.place id = .over by
      rcases hplace with hplace | hplace
      · refine ⟨⟨hI', hflag, hid, by rw [hplace]; exact hA.cleared⟩, by rw [hplace], ?_⟩
        rw [hplace]
        -- whoever is woken has a step less to take
        rcases stage_step hA.inv hl h with hsame | ⟨hblocked, hlocking⟩
        · rw [hsame]
        · rw [hblocked, hlocking]
          cases ts.place id <;> simp [Place.left, FlagStage.left]
      · rw [hplace]
        refine ⟨⟨hI', hflag, hid, by rw [hplace]; trivial⟩, Nat.zero_le _, Nat.zero_le _⟩
    cases frame_step hA.inv hl h with
    | same hplace => exact .inl hplace
    | revoked _ _ hplace => exact .inr hplace
    | activated _ _ hplace =>
      rw [if_neg (Nat.ne_of_lt hA.activated)] at hplace
      exact .inl hplace

/-- A step of the activation for which no time has to pass, or one of a thread that has the mutex or
has yet to notify. -/
def Label.Prompt (id : ℕ) : Label → Prop
  | .abortState (.wake ..) | .enterDeepSleepDelayed _ => False
  | .abortState (.act _) | .abortState (.notify _) => True
  | l => l.id? = some id

theorem exists_abortStep (hg : g.Goes) {r : GuardedFlag Thread × List (Thread × Bool)}
    (h : GuardedFlag.guardedFlag.step ts.abortState g = some r) :
    ∃ r, deepSleepThreads.step ts (.abortState g) = some r := by
  refine Option.isSome_iff_exists.mp ?_
  cases g with
  | begin _ _ | wake _ _ => cases hg
  | lock _ | act _ | notify _ => simp [deepSleepThreads, abortStep, h]

/-- While the flag is set, an activation that asks for it can go on, or somebody else lets it. -/
theorem exists_asking (hI : Inv ts) (hflag : ts.abortState.flag = true)
    (hask : (ts.abortState.stage (.activation id)).left ≠ 0) :
    ∃ l r, l.Prompt id ∧ deepSleepThreads.step ts l = some r := by
  by_cases hblocked : ts.abortState.stage (.activation id) = .blocked
  · obtain ⟨t, ht⟩ := hI.abortState.awake hflag _ hblocked
    obtain ⟨r, hr⟩ := exists_abortStep (g := .notify t) trivial (if_pos ht)
    exact ⟨.abortState (.notify t), r, trivial, hr⟩
  · have haway : ts.abortState.stage (.activation id) ≠ .away := fun haway => by
      simp [haway, FlagStage.left] at hask
    obtain ⟨g, r, hr, hg, hthread⟩ := GuardedFlag.exists_step hI.abortState haway hblocked
    obtain ⟨r', hr'⟩ := exists_abortStep hg hr
    refine ⟨.abortState g, r', ?_, hr'⟩
    cases g with
    | begin _ _ | wake _ _ => cases hg
    | act _ | notify _ => trivial
    | lock t =>
      rcases hthread with hthread | howner
      · have hid : (Label.abortState (.lock t)).id? = some id := by
          simp only [Label.id?, hthread]
        exact hid
      · have howner' : ts.abortState.owner = some t := howner
        simp [GuardedFlag.guardedFlag, howner'] at hr

theorem exists_prompt (hA : Aborted id ts) (hover : ts.place id ≠ .over)
    (hdelayed : ∀ t, ts.place id ≠ .delayed t) :
    ∃ l r, l.Prompt id ∧ deepSleepThreads.step ts l = some r := by
  have hallows := hA.inv.place id
  have hcleared := hA.cleared
  cases hplace : ts.place id with
  | delayed t => exact absurd hplace (hdelayed t)
  | queued _ _ | clearing _ _ =>
    rw [hplace] at hcleared
    cases hcleared
  | preDelay | testing _ | retryDelay _ =>
    rw [hplace] at hallows
    exact exists_asking hA.inv hA.flag hallows
  | starting timeOut nw =>
    refine ⟨.start id .plain, (ts.start id .plain timeOut nw, []), rfl, ?_⟩
    simp only [deepSleepThreads, hplace]
  | head n =>
    refine ⟨.head id, (ts.begin id (.testing n) .test, []), rfl, ?_⟩
    simp only [deepSleepThreads, hplace]
  | calling n =>
    refine ⟨.setDeepSleep id, (ts.setPlace id (.inPlatform n),
      [.setDeepSleep id ts.deepSleepWakeupTimeoutSec ts.nwStandbyMode]), rfl, ?_⟩
    simp only [deepSleepThreads, hplace]
  | inPlatform n =>
    refine ⟨.setDeepSleepReturn id .errorNone true, ts.setDeepSleepReturn id n .errorNone true, rfl,
      ?_⟩
    simp only [deepSleepThreads, hplace]
  | aborting => exact ⟨.abort id, _, rfl, if_pos hplace⟩
  | notifying => exact ⟨.callbackReturn id, _, rfl, if_pos hplace⟩
  | _ => exact absurd hplace hover

/-- Once the abort flag is set, an activation that has got behind `clearAbortDeepSleep` calls the
platform no more, unless it has just found the flag clear; it has at most five steps to take, and,
unless it waits in the worker pool, none of them needs the end of a wait. This holds until another
activation clears the flag. -/
theorem aborts (h : deepSleepThreads.Run initial ls es ts) (hflag : ts.abortState.flag = true)
    (hid : id < ts.nextActivation) (hcleared : (ts.place id).Cleared) {ls' : List Label}
    (hkeeps : deepSleepThreads.Along Keeps ts ls') (h' : deepSleepThreads.Run ts ls' es' ts') :
    es'.countP (isCallOf id) ≤ (ts.place id).calls ∧
      ls'.countP (fun l => l.id? = some id) ≤ 5 ∧
      (ts'.place id ≠ .over → (∀ t, ts'.place id ≠ .delayed t) →
        ∃ l r, l.Prompt id ∧ deepSleepThreads.step ts' l = some r) := by
  suffices hall : Aborted id ts' ∧
      es'.countP (isCallOf id) + (ts'.place id).calls ≤ (ts.place id).calls ∧
      (ts'.place id).left (ts'.abortState.stage (.activation id)) +
          ls'.countP (fun l => l.id? = some id) ≤
        (ts.place id).left (ts.abortState.stage (.activation id)) by
    obtain ⟨hA', hcalls, hleft⟩ := hall
    have hfive := (ts.place id).left_le (ts.abortState.stage (.activation id))
    exact ⟨le_trans (Nat.le_add_right _ _) hcalls, by omega, exists_prompt hA'⟩
  have hA : Aborted id ts := ⟨inv_run h, hflag, hid, hcleared⟩
  clear h
  induction h' with
  | nil => exact ⟨hA, by simp, by simp⟩
  | @snoc u v ls₁ es₁ es₂ l hrun hstep ih =>
    obtain ⟨hA', hcalls, hleft⟩ := ih hkeeps.left
    obtain ⟨hA'', hcalls', hleft'⟩ := aborts_step hA' (hkeeps.last hrun) hstep
    refine ⟨hA'', ?_, ?_⟩
    · rw [List.countP_append]
      omega
    · rw [List.countP_append, List.countP_singleton]
      simp only [decide_eq_true_eq]
      omega

/-- The flag is set while the platform holds the activation. The call is aborted, and the activation
does not call again. -/
theorem aborts_in_platform : ∃ es ts es' ts', deepSleepThreads.Run initial
      [.activate 60 false, .performActivate 0, .abortState (.lock (.activation 0)),
        .abortState (.act (.activation 0)), .start 0 .plain, .abortState (.lock (.activation 0)),
        .abortState (.act (.activation 0)), .abortState (.wake (.activation 0) true),
        .abortState (.lock (.activation 0)), .abortState (.act (.activation 0)), .head 0,
        .abortState (.lock (.activation 0)), .abortState (.act (.activation 0)), .setDeepSleep 0,
        .deactivate, .abortState (.lock (.deactivation 0)),
        .abortState (.act (.deactivation 0))] es ts ∧
    deepSleepThreads.Run ts [.setDeepSleepReturn 0 .errorAborted false,
      .abortState (.lock (.activation 0))] es' ts' ∧
    es'.countP (isCallOf 0) ≤ 0 ∧ ∃ l r, l.Prompt 0 ∧ deepSleepThreads.step ts' l = some r := by
  obtain ⟨es, ts, hrun, hflag, hid, hplace⟩ : ∃ es ts, deepSleepThreads.Run initial
      [.activate 60 false, .performActivate 0, .abortState (.lock (.activation 0)),
        .abortState (.act (.activation 0)), .start 0 .plain, .abortState (.lock (.activation 0)),
        .abortState (.act (.activation 0)), .abortState (.wake (.activation 0) true),
        .abortState (.lock (.activation 0)), .abortState (.act (.activation 0)), .head 0,
        .abortState (.lock (.activation 0)), .abortState (.act (.activation 0)), .setDeepSleep 0,
        .deactivate, .abortState (.lock (.deactivation 0)),
        .abortState (.act (.deactivation 0))] es ts ∧
      ts.abortState.flag = true ∧ 0 < ts.nextActivation ∧ ts.place 0 = .inPlatform 5 :=
    Machine.exists_outputs_of_exec (by decide +kernel)
  obtain ⟨_, ts', hall, hplace'⟩ : ∃ es ts', deepSleepThreads.Run initial
      ([.activate 60 false, .performActivate 0, .abortState (.lock (.activation 0)),
        .abortState (.act (.activation 0)), .start 0 .plain, .abortState (.lock (.activation 0)),
        .abortState (.act (.activation 0)), .abortState (.wake (.activation 0) true),
        .abortState (.lock (.activation 0)), .abortState (.act (.activation 0)), .head 0,
        .abortState (.lock (.activation 0)), .abortState (.act (.activation 0)), .setDeepSleep 0,
        .deactivate, .abortState (.lock (.deactivation 0)),
        .abortState (.act (.deactivation 0))] ++
        [.setDeepSleepReturn 0 .errorAborted false,
          .abortState (.lock (.activation 0))]) es ts' ∧ ts'.place 0 = .retryDelay 4 :=
    Machine.exists_outputs_of_exec (by decide +kernel)
  obtain ⟨_, es₁, es', rfl, hpre, hrest⟩ := hall.split
  obtain ⟨rfl, rfl⟩ := hrun.det hpre
  have hcleared : (ts.place 0).Cleared := by
    rw [hplace]
    trivial
  have hkeeps : deepSleepThreads.Along Keeps ts [.setDeepSleepReturn 0 .errorAborted false,
      .abortState (.lock (.activation 0))] := by
    rintro pre l post _ t hls hpre
    have hl : l ∈ [Label.setDeepSleepReturn 0 .errorAborted false,
        .abortState (.lock (.activation 0))] := by simp [hls]
    rcases List.mem_pair.mp hl with rfl | rfl <;> trivial
  obtain ⟨hcalls, -, hprompt⟩ := aborts hrun hflag hid hcleared hkeeps hrest
  rw [hplace] at hcalls
  exact ⟨es, ts, es', ts', hrun, hrest, hcalls,
    hprompt (by simp [hplace']) (by simp [hplace'])⟩

end Threads

end PowerManager.DeepSleepController
