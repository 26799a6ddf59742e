import PowerManager.ConditionVariable
import PowerManager.Progress

/-!
# How the poll thread is stopped

The destructor of `ThermalController` sets `_stopThread` under `_stopMutex`, notifies
`_stopCondition`, and joins the poll thread. The poll thread may be anywhere in a turn of its loop:
it reads `_stopThread` without the mutex at the head of the loop and after a reading, and waits for
it between two turns.

The module introduces:

* `shutdown` — the machine of the poll thread, the destructor and the callers of `GetThermalState`,
  who take `_therm_mutex`;
* `last_turn` — once `_stopThread` is set, the temperature is read at most once more, and a reading
  that comes after it is not acted on;
* `stops` — from then on the two threads take at most ten steps, and need no timeout of the wait for
  any of them: then the poll thread has ended, and the destructor has joined it.

`_grace_interval_mutex`, which the poll thread takes to act on a reading, and the call of
`SetPowerState` in which that may end are left out: a turn in `ifNeeded` is one step.
-/

namespace PowerManager.Thermal.Shutdown

/-- The threads that use `_stopThread`. -/
inductive Party
  | pollThread
  | destructor
  deriving DecidableEq, Repr

/-- Where the poll thread is in `pollThermalLevels`. -/
inductive Place
  /-- The head of the loop. -/
  | head
  | getPowerState
  /-- `_therm_mutex->lock()`. -/
  | lock
  | getTemperature
  /-- The second test of `_stopThread`. -/
  | testStop
  /-- `_therm_mutex->unlock()`, with whether there is a reading to act on. -/
  | unlock (read : Bool)
  /-- `deepSleepIfNeeded`, `rebootIfNeeded` and `declockIfNeeded`. -/
  | ifNeeded
  /-- `_stopCondition->wait_for`. -/
  | wait
  | ended
  deriving DecidableEq, Repr

/-- Who has `_therm_mutex`. -/
inductive ThermOwner
  | pollThread
  /-- A thread in `GetThermalState`. -/
  | caller
  deriving DecidableEq, Repr

/-- How far `~ThermalController` has got. -/
inductive Destructor
  | notBegun
  | begun
  | joined
  deriving DecidableEq, Repr

/-- The poll thread and the destructor. -/
structure State where
  /-- `_stopThread`, `_stopMutex` and `_stopCondition`. -/
  stop : GuardedFlag Party
  place : Place
  thermMutex : Option ThermOwner
  destructor : Destructor

/-- What the poll thread does outwards. -/
inductive Output
  /-- The platform's `GetTemperature` is called. -/
  | getTemperature
  | onThermalTemperatureChanged
  /-- The reading is acted on. -/
  | ifNeeded
  deriving DecidableEq, Repr

/-- A step of the poll thread, of the destructor or of a caller. -/
inductive Label
  /-- `while(!_stopThread)`. -/
  | head
  | getPowerState (deepSleep : Bool)
  | lock
  /-- The reading succeeds, and the level may have changed; or it fails. -/
  | getTemperature (changed : Option Bool)
  | testStop
  | unlock
  | ifNeeded
  /-- A step with `_stopMutex` and `_stopCondition`. -/
  | stop (l : GuardedFlag.Label Party)
  /-- `~ThermalController` begins. -/
  | destroy
  | join
  /-- A caller takes `_therm_mutex`. -/
  | callerLock
  | callerUnlock
  deriving DecidableEq, Repr

namespace State

/-- The poll thread begins to wait. -/
def wait (s : State) : State :=
  { s with place := .wait, stop := s.stop.setStage .pollThread (.locking .await) }

/-- `_stopThread`. -/
def stopThread (s : State) : Bool := s.stop.flag

/-- A step with `_stopMutex` and `_stopCondition`, after which the poll thread may be through with
its wait. -/
def stopStep (s : State) (l : GuardedFlag.Label Party) : Option State :=
  match l with
  | .begin _ _ => none
  | .lock _ | .act _ | .notify _ | .wake _ _ =>
    (GuardedFlag.guardedFlag.step s.stop l).map fun r =>
      { s with stop := r.1, place := if r.2 = [] then s.place else .head }

end State

/-- The poll thread, the destructor and the callers as a machine. -/
def shutdown : Machine State Label Output where
  step s
    | .head =>
      if s.place = .head then
        some ({ s with place := if s.stopThread then .ended else .getPowerState }, [])
      else none
    | .getPowerState deepSleep =>
      if s.place = .getPowerState then
        some (if deepSleep then s.wait else { s with place := .lock }, [])
      else none
    | .lock =>
      if s.place = .lock ∧ s.thermMutex = none then
        some ({ s with place := .getTemperature, thermMutex := some .pollThread }, [])
      else none
    | .getTemperature changed =>
      if s.place = .getTemperature then
        match changed with
        | none => some ({ s with place := .unlock false }, [.getTemperature])
        | some changed =>
          some ({ s with place := .testStop },
            .getTemperature :: if changed then [.onThermalTemperatureChanged] else [])
      else none
    | .testStop =>
      if s.place = .testStop then
        -- `break` leaves the loop without `_therm_mutex->unlock()`
        some ({ s with place := if s.stopThread then .ended else .unlock true }, [])
      else none
    | .unlock =>
      match s.place with
      | .unlock read =>
        let s := { s with thermMutex := none }
        some (if read then { s with place := .ifNeeded } else s.wait, [])
      | _ => none
    | .ifNeeded => if s.place = .ifNeeded then some (s.wait, [.ifNeeded]) else none
    | .stop l => (s.stopStep l).map fun s' => (s', [])
    | .destroy =>
      if s.destructor = .notBegun then
        some ({ s with
          destructor := .begun
          stop := s.stop.setStage .destructor (.locking .set) }, [])
      else none
    | .join =>
      -- the flag is set and the poll thread notified
      if s.destructor = .begun ∧ s.stop.stage .destructor = .away ∧ s.place = .ended then
        some ({ s with destructor := .joined }, [])
      else none
    | .callerLock =>
      if s.thermMutex = none then some ({ s with thermMutex := some .caller }, []) else none
    | .callerUnlock =>
      if s.thermMutex = some .caller then some ({ s with thermMutex := none }, []) else none

/-- The poll thread has been created. -/
def initial : State := ⟨.initial, .head, none, .notBegun⟩

/-! ## The invariant -/

/-- Where the destructor is with the flag. -/
def DestructorAt (s : State) : Prop :=
  match s.destructor with
  | .notBegun => s.stop.stage .destructor = .away ∧ s.stopThread = false
  | .begun =>
    (s.stopThread = false ∧
      (s.stop.stage .destructor = .locking .set ∨ s.stop.stage .destructor = .holding .set)) ∨
    s.stopThread = true ∧
      (s.stop.stage .destructor = .notifying ∨ s.stop.stage .destructor = .away)
  | .joined => s.stopThread = true ∧ s.stop.stage .destructor = .away ∧ s.place = .ended

/-- The places at which the poll thread may have `_therm_mutex`. -/
def Place.MayHold : Place → Prop
  | .getTemperature | .testStop | .unlock _ | .ended => True
  | .head | .getPowerState | .lock | .ifNeeded | .wait => False

/-- Each thread is where its use of the flag says. -/
structure Inv (s : State) : Prop where
  stop : s.stop.Inv
  waiting : s.place = .wait → (s.stop.stage .pollThread).left ≠ 0
  outside : s.place ≠ .wait → s.stop.stage .pollThread = .away
  destructor : DestructorAt s
  therm : s.thermMutex = some .pollThread → s.place.MayHold

variable {s s' : State} {l : Label} {ls : List Label} {os : List Output}
  {g : GuardedFlag.Label Party}

theorem inv_initial : Inv initial :=
  ⟨GuardedFlag.inv_initial, by simp [initial], fun _ => rfl, ⟨rfl, rfl⟩, by simp [initial]⟩

/-- What a step with `_stopMutex` and `_stopCondition` does to the two threads. -/
inductive StopCase (s s' : State) : Prop
  | locks (hold : s.stop.stage .destructor = .locking .set)
      (hnew : s'.stop.stage .destructor = .holding .set) (hflag : s'.stopThread = s.stopThread)
      (hpoll : s'.stop.stage .pollThread = s.stop.stage .pollThread) (hplace : s'.place = s.place)
  | sets (hold : s.stop.stage .destructor = .holding .set)
      (hnew : s'.stop.stage .destructor = .notifying) (hflag : s'.stopThread = true)
      (hpoll : s'.stop.stage .pollThread = s.stop.stage .pollThread) (hplace : s'.place = s.place)
  /-- The poll thread is woken, if it is blocked. -/
  | notifies (hold : s.stop.stage .destructor = .notifying)
      (hnew : s'.stop.stage .destructor = .away) (hflag : s'.stopThread = s.stopThread)
      (hpoll : s'.stop.stage .pollThread = s.stop.stage .pollThread ∨
        s.stop.stage .pollThread = .blocked ∧ s'.stop.stage .pollThread = .locking .await)
      (hplace : s'.place = s.place)
  /-- The poll thread goes on with its wait. -/
  | waits (hold : (s.stop.stage .pollThread).left ≠ 0)
      (hnew : (s'.stop.stage .pollThread).left ≠ 0)
      (hleft : s.stopThread = true →
        (s'.stop.stage .pollThread).left < (s.stop.stage .pollThread).left)
      (hflag : s'.stopThread = s.stopThread)
      (hdestructor : s'.stop.stage .destructor = s.stop.stage .destructor)
      (hplace : s'.place = s.place)
  /-- The wait of the poll thread is over. -/
  | returns (hold : (s.stop.stage .pollThread).left ≠ 0)
      (hnew : s'.stop.stage .pollThread = .away) (hflag : s'.stopThread = s.stopThread)
      (hdestructor : s'.stop.stage .destructor = s.stop.stage .destructor)
      (hplace : s'.place = .head)

/-- The destructor only sets the flag. -/
theorem eq_set_of_locking {op : FlagOp} (hI : Inv s)
    (h : s.stop.stage .destructor = .locking op ∨ s.stop.stage .destructor = .holding op) :
    op = .set := by
  have hat := hI.destructor
  unfold DestructorAt at hat
  rcases h with h | h
  all_goals
    rw [h] at hat
    split at hat <;> simp_all

/-- The poll thread asks for the flag while it waits, and leaves it alone otherwise. -/
theorem left_ne_zero (hI : Inv s) (h : s.stop.stage .pollThread ≠ .away) :
    (s.stop.stage .pollThread).left ≠ 0 := by
  refine hI.waiting ?_
  by_contra hplace
  exact h (hI.outside hplace)

@[simp]
theorem setStage_destructor (f : GuardedFlag Party) (stage : FlagStage) :
    (f.setStage .destructor stage).stage .pollThread = f.stage .pollThread :=
  f.setStage_of_ne stage (by decide)

@[simp]
theorem setStage_pollThread (f : GuardedFlag Party) (stage : FlagStage) :
    (f.setStage .pollThread stage).stage .destructor = f.stage .destructor :=
  f.setStage_of_ne stage (by decide)

/-- A step with `_stopMutex` and `_stopCondition` leaves the rest alone. -/
theorem stop_cases (hI : Inv s) (h : s.stopStep g = some s') :
    s'.thermMutex = s.thermMutex ∧ s'.destructor = s.destructor ∧ s'.stop.Inv ∧
      StopCase s s' := by
  have hstep : ∃ r, GuardedFlag.guardedFlag.step s.stop g = some r ∧
      { s with stop := r.1, place := if r.2 = [] then s.place else .head } = s' := by
    cases g with
    | begin t op => cases h
    | _ => exact Option.map_eq_some_iff.mp h
  obtain ⟨⟨stop, told⟩, hr, rfl⟩ := hstep
  refine ⟨rfl, rfl, GuardedFlag.inv_step hI.stop hr, ?_⟩
  cases GuardedFlag.step_cases hr with
  | begun => cases h
  | @locked t op hlocking =>
    cases t with
    | destructor =>
      obtain rfl := eq_set_of_locking hI (.inl hlocking)
      exact .locks hlocking (by simp [GuardedFlag.setStage]) rfl (by simp) rfl
    | pollThread =>
      have hleft := left_ne_zero hI (by simp [hlocking])
      have hnew : (FlagStage.holding op).left ≠ 0 ∧
          (FlagStage.holding op).left < (FlagStage.locking op).left := by
        rw [hlocking] at hleft
        cases op <;> simp_all [FlagStage.left]
      refine .waits hleft ?_ (fun _ => ?_) rfl (by simp) rfl
      · simpa [GuardedFlag.setStage] using hnew.1
      · simpa [GuardedFlag.setStage, hlocking] using hnew.2
  | @set t hholding =>
    cases t with
    | destructor => exact .sets hholding (by simp [GuardedFlag.setStage]) rfl (by simp) rfl
    | pollThread =>
      have hleft := left_ne_zero hI (by simp [hholding])
      simp [hholding, FlagStage.left] at hleft
  | @cleared t hholding =>
    cases t with
    | destructor => cases eq_set_of_locking hI (.inr hholding)
    | pollThread =>
      have hleft := left_ne_zero hI (by simp [hholding])
      simp [hholding, FlagStage.left] at hleft
  | @told t op hholding hask =>
    cases t with
    | destructor =>
      obtain rfl := eq_set_of_locking hI (.inr hholding)
      simp at hask
    | pollThread =>
      have hleft := left_ne_zero hI (by simp [hholding])
      exact .returns hleft (by simp [GuardedFlag.setStage]) rfl (by simp) rfl
  | @blocked t hholding hflag =>
    cases t with
    | destructor => cases eq_set_of_locking hI (.inr hholding)
    | pollThread =>
      have hleft := left_ne_zero hI (by simp [hholding])
      refine .waits hleft (by simp [GuardedFlag.setStage, FlagStage.left]) ?_ rfl (by simp) rfl
      exact fun hset => absurd hset (by simp [State.stopThread, hflag])
  | @notified t hnotifying =>
    cases t with
    | destructor =>
      refine .notifies hnotifying (by simp [GuardedFlag.notifyAll]) rfl ?_ rfl
      simp only [GuardedFlag.notifyAll, setStage_destructor]
      split
      · exact .inr ⟨‹_›, rfl⟩
      · exact .inl rfl
    | pollThread =>
      have hleft := left_ne_zero hI (by simp [hnotifying])
      simp [hnotifying, FlagStage.left] at hleft
  | @woken t timedOut hblocked =>
    cases t with
    | destructor =>
      have hat := hI.destructor
      unfold DestructorAt at hat
      rw [hblocked] at hat
      split at hat <;> simp at hat
    | pollThread =>
      refine .waits (by simp [hblocked, FlagStage.left]) ?_ (fun _ => ?_) rfl (by simp) rfl
      · cases timedOut <;> simp [GuardedFlag.setStage, FlagStage.left]
      · cases timedOut <;> simp [GuardedFlag.setStage, FlagStage.left, hblocked]

/-- The destructor has joined the poll thread only if that has ended. -/
theorem destructorAt_of_place (hI : Inv s) (hended : s.place ≠ .ended) {s' : State}
    (hdestructor : s'.destructor = s.destructor) (hflag : s'.stopThread = s.stopThread)
    (hstage : s'.stop.stage .destructor = s.stop.stage .destructor) : DestructorAt s' := by
  have hat := hI.destructor
  unfold DestructorAt at hat ⊢
  rw [hdestructor, hflag, hstage]
  split at hat
  · exact hat
  · exact hat
  · exact absurd hat.2.2 hended

/-- The poll thread goes on, without a wait. -/
theorem Inv.move (hI : Inv s) {place : Place} {thermMutex : Option ThermOwner}
    (hwait : s.place ≠ .wait) (hended : s.place ≠ .ended) (hplace : place ≠ .wait)
    (htherm : thermMutex = some .pollThread → place.MayHold) :
    Inv { s with place, thermMutex } where
  stop := hI.stop
  waiting h := absurd h hplace
  outside _ := hI.outside hwait
  destructor := destructorAt_of_place hI hended rfl rfl rfl
  therm := htherm

/-- The poll thread begins to wait, without `_therm_mutex`. -/
theorem Inv.wait (hI : Inv s) {thermMutex : Option ThermOwner} (hwait : s.place ≠ .wait)
    (hended : s.place ≠ .ended) (htherm : thermMutex ≠ some .pollThread) :
    Inv (State.wait { s with thermMutex }) where
  stop := by
    have hstep : GuardedFlag.guardedFlag.step s.stop (.begin .pollThread .await) =
        some (s.wait.stop, []) := if_pos (hI.outside hwait)
    exact GuardedFlag.inv_step hI.stop hstep
  waiting _ := by simp [State.wait, FlagStage.left]
  outside h := absurd rfl h
  destructor := destructorAt_of_place hI hended rfl rfl (by simp [State.wait])
  therm h := absurd h htherm

/-- A step that leaves the poll thread where it is, or wakes it. -/
theorem Inv.of_poll (hI : Inv s) (hstop : s'.stop.Inv) (hdestructor : DestructorAt s')
    (htherm : s'.thermMutex = s.thermMutex) (hplace : s'.place = s.place)
    (hpoll : s'.stop.stage .pollThread = s.stop.stage .pollThread ∨
      s.stop.stage .pollThread = .blocked ∧ s'.stop.stage .pollThread = .locking .await) :
    Inv s' where
  stop := hstop
  waiting hwait := by
    rw [hplace] at hwait
    rcases hpoll with hpoll | ⟨-, hpoll⟩
    · rw [hpoll]
      exact hI.waiting hwait
    · simp [hpoll, FlagStage.left]
  outside hwait := by
    rw [hplace] at hwait
    have haway := hI.outside hwait
    rcases hpoll with hpoll | ⟨hblocked, -⟩
    · rwa [hpoll]
    · simp [haway] at hblocked
  destructor := hdestructor
  therm := by
    rw [htherm, hplace]
    exact hI.therm

/-- The destructor gets to another stage, or the poll thread does in its wait. -/
theorem inv_stop (hI : Inv s) (h : s.stopStep g = some s') : Inv s' := by
  obtain ⟨htherm, hdestructor, hstop, hcase⟩ := stop_cases hI h
  have hat := hI.destructor
  unfold DestructorAt at hat
  cases hcase with
  | locks hold hnew hflag hpoll hplace | sets hold hnew hflag hpoll hplace =>
    refine hI.of_poll hstop ?_ htherm hplace (.inl hpoll)
    unfold DestructorAt
    rw [hdestructor]
    split at hat <;> simp_all
  | notifies hold hnew hflag hpoll hplace =>
    refine hI.of_poll hstop ?_ htherm hplace hpoll
    unfold DestructorAt
    rw [hdestructor]
    split at hat <;> simp_all
  | waits hold hnew hleft hflag hstage hplace =>
    refine ⟨hstop, fun _ => hnew, fun hwait => ?_, ?_, ?_⟩
    · rw [hplace] at hwait
      simp [hI.outside hwait, FlagStage.left] at hold
    · unfold DestructorAt
      rw [hdestructor]
      split at hat <;> simp_all
    · rw [htherm, hplace]
      exact hI.therm
  | returns hold hnew hflag hstage hplace =>
    have hwait : s.place = .wait := by
      by_contra hwait
      simp [hI.outside hwait, FlagStage.left] at hold
    refine ⟨hstop, by simp [hplace], fun _ => hnew, ?_, fun hpoll => ?_⟩
    · exact destructorAt_of_place hI (by simp [hwait]) hdestructor hflag hstage
    · rw [htherm] at hpoll
      simpa [hwait, Place.MayHold] using hI.therm hpoll

theorem inv_step (hI : Inv s) (h : shutdown.step s l = some (s', os)) : Inv s' := by
  cases l with
  | head =>
    simp only [shutdown] at h
    split at h
    · rename_i hplace
      cases h
      exact hI.move (by simp [hplace]) (by simp [hplace]) (by split <;> simp) fun htherm =>
        absurd (hI.therm htherm) (by simp [hplace, Place.MayHold])
    · cases h
  | getPowerState deepSleep =>
    simp only [shutdown] at h
    split at h
    · rename_i hplace
      have htherm : s.thermMutex ≠ some .pollThread := fun htherm =>
        absurd (hI.therm htherm) (by simp [hplace, Place.MayHold])
      cases h
      split
      · exact hI.wait (by simp [hplace]) (by simp [hplace]) htherm
      · exact hI.move (by simp [hplace]) (by simp [hplace]) (by simp) fun h => absurd h htherm
    · cases h
  | lock =>
    simp only [shutdown] at h
    split at h
    · rename_i hlock
      cases h
      exact hI.move (by simp [hlock.1]) (by simp [hlock.1]) (by simp) fun _ => trivial
    · cases h
  | getTemperature changed =>
    simp only [shutdown] at h
    split at h
    · rename_i hplace
      split at h
      all_goals
        cases h
        exact hI.move (by simp [hplace]) (by simp [hplace]) (by simp) fun _ => trivial
    · cases h
  | testStop =>
    simp only [shutdown] at h
    split at h
    · rename_i hplace
      cases h
      exact hI.move (by simp [hplace]) (by simp [hplace]) (by split <;> simp)
        fun _ => by split <;> trivial
    · cases h
  | unlock =>
    simp only [shutdown] at h
    split at h
    · rename_i read hplace
      cases h
      split
      · exact hI.move (by simp [hplace]) (by simp [hplace]) (by simp) (by simp)
      · exact hI.wait (by simp [hplace]) (by simp [hplace]) (by simp)
    · cases h
  | ifNeeded =>
    simp only [shutdown] at h
    split at h
    · rename_i hplace
      cases h
      exact hI.wait (by simp [hplace]) (by simp [hplace]) fun htherm =>
        absurd (hI.therm htherm) (by simp [hplace, Place.MayHold])
    · cases h
  | stop g =>
    obtain ⟨u, hu, heq⟩ := Option.map_eq_some_iff.mp h
    cases heq
    exact inv_stop hI hu
  | destroy =>
    simp only [shutdown] at h
    split at h
    · rename_i hbegun
      have hat := hI.destructor
      unfold DestructorAt at hat
      rw [hbegun] at hat
      cases h
      have hstep : GuardedFlag.guardedFlag.step s.stop (.begin .destructor .set) =
          some (s.stop.setStage .destructor (.locking .set), []) := if_pos hat.1
      refine ⟨GuardedFlag.inv_step hI.stop hstep, ?_, ?_, .inl ⟨hat.2, ?_⟩, hI.therm⟩
      · simpa using hI.waiting
      · simpa using hI.outside
      · simp
    · cases h
  | join =>
    simp only [shutdown] at h
    split at h
    · rename_i hjoin
      have hat := hI.destructor
      unfold DestructorAt at hat
      rw [hjoin.1] at hat
      cases h
      refine ⟨hI.stop, hI.waiting, hI.outside, ⟨?_, hjoin.2⟩, hI.therm⟩
      rcases hat with ⟨-, hat⟩ | ⟨hflag, -⟩
      · simp [hjoin.2.1] at hat
      · exact hflag
    · cases h
  | callerLock | callerUnlock =>
    simp only [shutdown] at h
    split at h
    · cases h
      exact ⟨hI.stop, hI.waiting, hI.outside, hI.destructor, by simp⟩
    · cases h

theorem inv_run (h : shutdown.Run initial ls os s) : Inv s :=
  h.invariant inv_initial fun _ _ _ _ hI hstep => inv_step hI hstep

/-! ## The last turn -/

/-- The readings that are still to be made at a place, once `_stopThread` is set. -/
def Place.reads : Place → ℕ
  | .getPowerState | .lock | .getTemperature => 1
  | .head | .testStop | .unlock _ | .ifNeeded | .wait | .ended => 0

/-- The readings that are still to be acted on at a place, once `_stopThread` is set. -/
def Place.acts : Place → ℕ
  | .unlock true | .ifNeeded => 1
  | .head | .getPowerState | .lock | .getTemperature | .testStop | .unlock false | .wait
  | .ended => 0

/-- `_stopThread` stays set. -/
theorem stopThread_stop (hI : Inv s) (hset : s.stopThread = true) (h : s.stopStep g = some s') :
    s'.stopThread = true ∧ (s'.place = s.place ∨ s'.place = .head) := by
  obtain ⟨-, -, -, hcase⟩ := stop_cases hI h
  cases hcase with
  | sets _ _ hflag _ hplace => exact ⟨hflag, .inl hplace⟩
  | locks _ _ hflag _ hplace | notifies _ _ hflag _ hplace => exact ⟨hflag.trans hset, .inl hplace⟩
  | waits _ _ _ hflag _ hplace => exact ⟨hflag.trans hset, .inl hplace⟩
  | returns _ _ hflag _ hplace => exact ⟨hflag.trans hset, .inr hplace⟩

/-- Once `_stopThread` is set, no step makes a turn more of the poll thread. -/
theorem last_turn_step (hI : Inv s) (hset : s.stopThread = true)
    (h : shutdown.step s l = some (s', os)) :
    s'.stopThread = true ∧ os.count .getTemperature + s'.place.reads ≤ s.place.reads ∧
      os.count .ifNeeded + s'.place.acts ≤ s.place.acts := by
  cases l with
  | stop g =>
    obtain ⟨u, hu, heq⟩ := Option.map_eq_some_iff.mp h
    cases heq
    obtain ⟨hflag, hplace | hplace⟩ := stopThread_stop hI hset hu
    · simp [hflag, hplace]
    · simp [hflag, hplace, Place.reads, Place.acts]
  | head =>
    simp only [shutdown] at h
    split at h
    · cases h
      exact ⟨hset, by simp [Place.reads], by simp [Place.acts]⟩
    · cases h
  | getPowerState deepSleep =>
    simp only [shutdown] at h
    split at h
    · rename_i hplace
      cases h
      cases deepSleep <;>
        exact ⟨hset, by simp [hplace, State.wait, Place.reads], by simp [State.wait, Place.acts]⟩
    · cases h
  | lock =>
    simp only [shutdown] at h
    split at h
    · rename_i hlock
      cases h
      exact ⟨hset, by simp [hlock.1, Place.reads], by simp [Place.acts]⟩
    · cases h
  | getTemperature changed =>
    simp only [shutdown] at h
    split at h
    · rename_i hplace
      split at h
      · cases h
        exact ⟨hset, by simp [hplace, Place.reads], by simp [Place.acts]⟩
      · rename_i changed
        cases h
        cases changed <;>
          exact ⟨hset, by simp [hplace, Place.reads], by simp [Place.acts]⟩
    · cases h
  | testStop =>
    simp only [shutdown] at h
    split at h
    · -- the reading is not acted on
      cases h
      exact ⟨hset, by simp [Place.reads], by simp [Place.acts]⟩
    · cases h
  | unlock =>
    simp only [shutdown] at h
    split at h
    · rename_i read hplace
      cases h
      cases read <;>
        exact ⟨hset, by simp [State.wait, Place.reads], by simp [hplace, State.wait, Place.acts]⟩
    · cases h
  | ifNeeded =>
    simp only [shutdown] at h
    split at h
    · rename_i hplace
      cases h
      exact ⟨hset, by simp [State.wait, Place.reads], by simp [hplace, State.wait, Place.acts]⟩
    · cases h
  | destroy | join | callerLock | callerUnlock =>
    simp only [shutdown] at h
    split at h
    · cases h
      exact ⟨hset, by simp, by simp⟩
    · cases h

/-- Once `_stopThread` is set, whatever the threads do, the temperature is read at most once more,
and that only if the poll thread was about to read it; and only a reading is acted on that was found
good before. -/
theorem last_turn {ls' : List Label} {os' : List Output} (h : shutdown.Run initial ls os s)
    (hset : s.stopThread = true) (h' : shutdown.Run s ls' os' s') :
    os'.count .getTemperature ≤ s.place.reads ∧ os'.count .ifNeeded ≤ s.place.acts ∧
      os'.count .getTemperature + os'.count .ifNeeded ≤ 1 := by
  suffices hall : Inv s' ∧ s'.stopThread = true ∧
      os'.count .getTemperature + s'.place.reads ≤ s.place.reads ∧
      os'.count .ifNeeded + s'.place.acts ≤ s.place.acts by
    obtain ⟨-, -, hreads, hacts⟩ := hall
    have hone : s.place.reads + s.place.acts ≤ 1 := by
      cases s.place with
      | unlock read => cases read <;> decide
      | _ => decide
    omega
  have hI := inv_run h
  clear h
  induction h' with
  | nil => exact ⟨hI, hset, by simp, by simp⟩
  | snoc _ hstep ih =>
    obtain ⟨hI', hset', hreads, hacts⟩ := ih
    obtain ⟨hset'', hreads', hacts'⟩ := last_turn_step hI' hset' hstep
    rw [List.count_append, List.count_append]
    exact ⟨inv_step hI' hstep, hset'', by omega, by omega⟩

/-- `_stopThread` is set while the poll thread is about to read the temperature, which is read, but
not acted on. -/
theorem last_turn_of_change : ∃ s s', shutdown.Run initial
      [.head, .getPowerState false, .lock, .destroy, .stop (.lock .destructor),
        .stop (.act .destructor)] [] s ∧
    shutdown.Run s [.getTemperature (some true), .stop (.notify .destructor), .testStop, .join]
      [.getTemperature, .onThermalTemperatureChanged] s' ∧
    [Output.getTemperature, .onThermalTemperatureChanged].count .ifNeeded ≤ 0 := by
  obtain ⟨_, s, hrun, rfl, hset, hplace⟩ : ∃ os s, shutdown.Run initial
      [.head, .getPowerState false, .lock, .destroy, .stop (.lock .destructor),
        .stop (.act .destructor)] os s ∧
      os = [] ∧ s.stopThread = true ∧ s.place = .getTemperature :=
    Machine.exists_outputs_of_exec (by decide)
  obtain ⟨_, s', hall, hos⟩ : ∃ os s', shutdown.Run initial
      ([.head, .getPowerState false, .lock, .destroy, .stop (.lock .destructor),
        .stop (.act .destructor)] ++
        [.getTemperature (some true), .stop (.notify .destructor), .testStop, .join]) os s' ∧
      os = [.getTemperature, .onThermalTemperatureChanged] :=
    Machine.exists_outputs_of_exec (by decide)
  obtain ⟨t, os₁, os', rfl, hpre, hrest⟩ := hall.split
  obtain ⟨rfl, rfl⟩ := hrun.det hpre
  obtain rfl : os' = _ := hos
  have hlast := (last_turn hrun hset hrest).2.1
  rw [hplace] at hlast
  exact ⟨s, s', hrun, hrest, hlast⟩

/-! ## The end -/

/-- The steps that the poll thread has still to take at a place, once `_stopThread` is set; those of
a wait are counted by the condition variable. -/
def Place.left : Place → ℕ
  | .ended => 0
  | .head | .testStop | .wait => 1
  | .ifNeeded => 4
  | .unlock _ => 5
  | .getTemperature => 6
  | .lock => 7
  | .getPowerState => 8

/-- The steps that the destructor has still to take, once `_stopThread` is set. -/
def State.destructorLeft (s : State) : ℕ :=
  if s.destructor = .joined then 0
  else if s.stop.stage .destructor = .notifying then 2
  else 1

/-- The steps that a caller has still to take. -/
def State.callerLeft (s : State) : ℕ := if s.thermMutex = some .caller then 1 else 0

/-- What is left to do for the two threads, once `_stopThread` is set. -/
def State.ownWork (s : State) : ℕ :=
  s.place.left + (s.stop.stage .pollThread).left + s.destructorLeft

/-- What is left to do for them and for a caller that has `_therm_mutex`. -/
def State.work (s : State) : ℕ := s.ownWork + s.callerLeft

@[simp]
theorem wait_destructorLeft (s : State) : s.wait.destructorLeft = s.destructorLeft := by
  simp [State.wait, State.destructorLeft]

/-- What is left to do when the poll thread begins to wait. -/
theorem ownWork_wait (s : State) : s.wait.ownWork = 3 + s.destructorLeft := by
  have hplace : s.wait.place.left = 1 := rfl
  have hasks : (s.wait.stop.stage .pollThread).left = 2 := by
    rw [State.wait, GuardedFlag.setStage_self]
    rfl
  rw [State.ownWork, wait_destructorLeft, hplace, hasks]

/-- The steps of the poll thread and of the destructor. -/
def Label.isOwn : Label → Bool
  | .callerLock | .callerUnlock => false
  | _ => true

/-- The steps that bring the two threads to their end. -/
def Label.Ends : Label → Prop
  | .destroy | .callerLock => False
  | _ => True

/-- A step with `_stopMutex` and `_stopCondition` brings the poll thread closer to the end of its
wait, or it is the notification. -/
theorem ownWork_stop (hI : Inv s) (hset : s.stopThread = true) (h : s.stopStep g = some s') :
    s'.ownWork < s.ownWork := by
  obtain ⟨-, hdestructor, -, hcase⟩ := stop_cases hI h
  have hat := hI.destructor
  unfold DestructorAt at hat
  unfold State.ownWork State.destructorLeft
  rw [hdestructor]
  cases hcase with
  | locks hold | sets hold =>
    -- the destructor has set the flag before
    split at hat <;> simp_all
  | notifies hold hnew hflag hpoll hplace =>
    have hjoined : s.destructor ≠ .joined := fun hjoined => by simp [hjoined, hold] at hat
    have hleft : (s'.stop.stage .pollThread).left ≤ (s.stop.stage .pollThread).left := by
      rcases hpoll with hpoll | ⟨hblocked, hpoll⟩
      · exact Nat.le_of_eq (by rw [hpoll])
      · simp [hblocked, hpoll, FlagStage.left]
    rw [hplace, hold, hnew, if_neg hjoined, if_neg hjoined]
    simp only [if_true, reduceCtorEq, if_false]
    omega
  | waits hold hnew hleft hflag hstage hplace =>
    have hlt := hleft hset
    rw [hplace, hstage]
    omega
  | returns hold hnew hflag hstage hplace =>
    have hwait : s.place = .wait := by
      by_contra hwait
      simp [hI.outside hwait, FlagStage.left] at hold
    have haway : FlagStage.away.left = 0 := rfl
    have hone : Place.head.left = Place.wait.left := rfl
    rw [hplace, hstage, hnew, hwait, haway, hone]
    omega

/-- Those of them for which no timeout has to pass, and no thread to be woken for no reason. -/
def Label.Prompt : Label → Prop
  | .destroy | .callerLock | .stop (.wake _ _) => False
  | _ => True

theorem Label.Prompt.ends (h : l.Prompt) : l.Ends := by
  cases l with
  | destroy | callerLock => cases h
  | _ => trivial

/-- Each step of the two threads does some of their work. -/
theorem ownWork_step (hI : Inv s) (hset : s.stopThread = true) (hl : l.isOwn = true)
    (h : shutdown.step s l = some (s', os)) : s'.ownWork < s.ownWork := by
  cases l with
  | stop g =>
    obtain ⟨u, hu, heq⟩ := Option.map_eq_some_iff.mp h
    cases heq
    exact ownWork_stop hI hset hu
  | callerLock | callerUnlock => cases hl
  | destroy =>
    -- the destructor has begun, if the flag is set
    simp only [shutdown] at h
    split at h
    · rename_i hbegun
      have hat := hI.destructor
      unfold DestructorAt at hat
      simp [hbegun, hset] at hat
    · cases h
  | head =>
    simp only [shutdown] at h
    split at h
    · rename_i hplace
      cases h
      simp [State.ownWork, State.destructorLeft, hplace, Place.left]
    · cases h
  | getPowerState deepSleep =>
    simp only [shutdown] at h
    split at h
    · rename_i hplace
      cases h
      split
      · rw [ownWork_wait, State.ownWork, hplace]
        simp only [Place.left]
        omega
      · simp [State.ownWork, State.destructorLeft, hplace, Place.left]
    · cases h
  | lock =>
    simp only [shutdown] at h
    split at h
    · rename_i hlock
      cases h
      simp [State.ownWork, State.destructorLeft, hlock.1, Place.left]
    · cases h
  | getTemperature changed =>
    simp only [shutdown] at h
    split at h
    · rename_i hplace
      split at h <;> cases h <;>
        simp [State.ownWork, State.destructorLeft, hplace, Place.left]
    · cases h
  | testStop =>
    simp only [shutdown] at h
    split at h
    · rename_i hplace
      cases h
      simp [State.ownWork, State.destructorLeft, hplace, Place.left]
    · cases h
  | unlock =>
    simp only [shutdown] at h
    split at h
    · rename_i read hplace
      cases h
      have hdestructor : ({ s with thermMutex := none } : State).destructorLeft =
          s.destructorLeft := rfl
      cases read
      · rw [if_neg (by simp), ownWork_wait, hdestructor, State.ownWork, hplace]
        simp only [Place.left]
        omega
      · rw [if_pos rfl]
        simp [State.ownWork, State.destructorLeft, hplace, Place.left]
    · cases h
  | ifNeeded =>
    simp only [shutdown] at h
    split at h
    · rename_i hplace
      cases h
      rw [ownWork_wait, State.ownWork, hplace]
      simp only [Place.left]
      omega
    · cases h
  | join =>
    simp only [shutdown] at h
    split at h
    · rename_i hjoin
      cases h
      simp [State.ownWork, State.destructorLeft, hjoin]
    · cases h

/-- The callers do none of it, and none of it is made by them. -/
theorem ownWork_caller (hl : l.isOwn = false) (h : shutdown.step s l = some (s', os)) :
    s'.ownWork = s.ownWork := by
  cases l with
  | callerLock | callerUnlock =>
    simp only [shutdown] at h
    split at h <;> cases h
    rfl
  | _ => cases hl

/-- Only a caller that takes `_therm_mutex` has one more step to take. -/
theorem callerLeft_step (hl : l ≠ .callerLock) (h : shutdown.step s l = some (s', os)) :
    s'.callerLeft ≤ s.callerLeft := by
  have hcaller : s'.thermMutex = some .caller → s.thermMutex = some .caller := by
    cases l with
    | callerLock => exact absurd rfl hl
    | stop g =>
      obtain ⟨u, hu, heq⟩ := Option.map_eq_some_iff.mp h
      cases heq
      obtain ⟨stop, place, rfl⟩ : ∃ stop place, s' = { s with stop, place } := by
        cases g with
        | begin _ _ => cases hu
        | _ =>
          obtain ⟨r, -, rfl⟩ := Option.map_eq_some_iff.mp hu
          exact ⟨_, _, rfl⟩
      exact id
    | getPowerState deepSleep =>
      simp only [shutdown] at h
      split at h
      · cases h
        split <;> exact id
      · cases h
    | getTemperature changed =>
      simp only [shutdown] at h
      split at h
      · split at h <;> cases h <;> exact id
      · cases h
    | unlock =>
      simp only [shutdown] at h
      split at h
      · cases h
        split <;> simp [State.wait]
      · cases h
    | lock | callerUnlock =>
      simp only [shutdown] at h
      split at h
      · cases h
        simp
      · cases h
    | head | testStop | ifNeeded | destroy | join =>
      simp only [shutdown] at h
      split at h
      · cases h
        exact id
      · cases h
  unfold State.callerLeft
  by_cases htaken : s'.thermMutex = some .caller
  · exact Nat.le_of_eq (by rw [if_pos htaken, if_pos (hcaller htaken)])
  · rw [if_neg htaken]
    exact Nat.zero_le _

/-- Each of the steps that bring the two threads to their end does some of the work. -/
theorem work_step (hI : Inv s) (hset : s.stopThread = true) (hl : l.Ends)
    (h : shutdown.step s l = some (s', os)) : s'.work < s.work := by
  unfold State.work
  cases hown : l.isOwn with
  | true =>
    have hcaller := callerLeft_step (by rintro rfl; cases hl) h
    have hlt := ownWork_step hI hset hown h
    omega
  | false =>
    cases l with
    | callerUnlock =>
      have hsame := ownWork_caller hown h
      simp only [shutdown] at h
      split at h
      · rename_i hcaller
        cases h
        simp [State.callerLeft, hcaller, hsame]
      · cases h
    | callerLock => cases hl
    | _ => cases hown

/-- A step that one of the threads takes once it has begun with an operation. -/
theorem exists_stopStep {t : Party} (hI : Inv s) (haway : s.stop.stage t ≠ .away)
    (hblocked : s.stop.stage t ≠ .blocked) :
    ∃ l r, l.Prompt ∧ shutdown.step s l = some r := by
  obtain ⟨g, r, hr, hgoes, -⟩ := GuardedFlag.exists_step hI.stop haway hblocked
  have hsome : (shutdown.step s (.stop g)).isSome = true := by
    cases g with
    | begin _ _ | wake _ _ => cases hgoes
    | lock _ | act _ | notify _ => simp [shutdown, State.stopStep, hr]
  obtain ⟨r', hr'⟩ := Option.isSome_iff_exists.mp hsome
  refine ⟨.stop g, r', ?_, hr'⟩
  cases g with
  | begin _ _ | wake _ _ => cases hgoes
  | lock _ | act _ | notify _ => trivial

/-- The poll thread can go on once it has been notified, or a caller is to release
`_therm_mutex`. -/
theorem exists_pollStep (hI : Inv s) (hset : s.stopThread = true)
    (haway : s.stop.stage .destructor = .away) (hended : s.place ≠ .ended) :
    ∃ l r, l.Prompt ∧ shutdown.step s l = some r := by
  cases hplace : s.place with
  | ended => exact absurd hplace hended
  | head => exact ⟨.head, _, trivial, if_pos hplace⟩
  | getPowerState => exact ⟨.getPowerState false, _, trivial, if_pos hplace⟩
  | getTemperature => exact ⟨.getTemperature none, _, trivial, if_pos hplace⟩
  | testStop => exact ⟨.testStop, _, trivial, if_pos hplace⟩
  | ifNeeded => exact ⟨.ifNeeded, _, trivial, if_pos hplace⟩
  | unlock read =>
    have hsome : (shutdown.step s .unlock).isSome = true := by simp [shutdown, hplace]
    obtain ⟨r, hr⟩ := Option.isSome_iff_exists.mp hsome
    exact ⟨.unlock, r, trivial, hr⟩
  | lock =>
    cases htherm : s.thermMutex with
    | none => exact ⟨.lock, _, trivial, if_pos ⟨hplace, htherm⟩⟩
    | some owner =>
      cases owner with
      | caller => exact ⟨.callerUnlock, _, trivial, if_pos htherm⟩
      | pollThread =>
        have hholds := hI.therm htherm
        simp [hplace, Place.MayHold] at hholds
  | wait =>
    have hleft := hI.waiting hplace
    refine exists_stopStep (t := .pollThread) hI (fun h => by simp [h, FlagStage.left] at hleft) ?_
    -- nobody has yet to notify
    intro hblocked
    obtain ⟨t, ht⟩ := hI.stop.awake hset .pollThread hblocked
    cases t with
    | pollThread => simp [hblocked] at ht
    | destructor => simp [haway] at ht

/-- There is always such a step until the destructor has joined the poll thread. -/
theorem exists_step (hI : Inv s) (hset : s.stopThread = true) (hjoined : s.destructor ≠ .joined) :
    ∃ l r, l.Prompt ∧ shutdown.step s l = some r := by
  have hat := hI.destructor
  unfold DestructorAt at hat
  cases hdestructor : s.destructor with
  | joined => exact absurd hdestructor hjoined
  | notBegun => simp [hdestructor, hset] at hat
  | begun =>
    have hstage : s.stop.stage .destructor = .notifying ∨ s.stop.stage .destructor = .away := by
      simpa [hdestructor, hset] using hat
    rcases hstage with hnotifying | haway
    · -- it has yet to notify the poll thread
      exact exists_stopStep (t := .destructor) hI (by simp [hnotifying]) (by simp [hnotifying])
    · by_cases hended : s.place = .ended
      · exact ⟨.join, _, trivial, if_pos ⟨hdestructor, haway, hended⟩⟩
      · exact exists_pollStep hI hset haway hended

/-- The two threads have no more than ten steps left. -/
theorem ownWork_le (hI : Inv s) : s.ownWork ≤ 10 := by
  have hdestructor : s.destructorLeft ≤ 2 := by
    unfold State.destructorLeft
    split
    · omega
    · split <;> omega
  -- only in its wait does the poll thread use the flag
  have hpoll : s.place.left + (s.stop.stage .pollThread).left ≤ 8 := by
    by_cases hwait : s.place = .wait
    · have hle : (s.stop.stage .pollThread).left ≤ 3 := by
        generalize s.stop.stage .pollThread = stage
        unfold FlagStage.left
        split <;> omega
      rw [hwait]
      simp only [Place.left]
      omega
    · have hle : s.place.left ≤ 8 := by
        unfold Place.left
        split <;> omega
      rw [hI.outside hwait]
      exact hle
  unfold State.ownWork
  omega

/-- With a caller that has `_therm_mutex`, it is one more. -/
theorem work_le (hI : Inv s) : s.work ≤ 11 := by
  have hown := ownWork_le hI
  have hcaller : s.callerLeft ≤ 1 := by
    unfold State.callerLeft
    split <;> omega
  unfold State.work
  omega

/-- The two threads get through their work. -/
theorem progress : shutdown.Progress (fun s => Inv s ∧ s.stopThread = true) Label.Ends
    State.work where
  inv_step hI _ h := ⟨inv_step hI.1 h, (last_turn_step hI.1 hI.2 h).1⟩
  work_lt hI hl h := work_step hI.1 hI.2 hl h
  exists_step := by
    rintro s ⟨hI, hset⟩ hwork
    by_cases hjoined : s.destructor = .joined
    · -- the threads are done, and a caller has `_therm_mutex`
      have hat := hI.destructor
      unfold DestructorAt at hat
      rw [hjoined] at hat
      have hpoll := hI.outside (by simp [hat.2.2])
      have hcaller : s.thermMutex = some .caller := by
        by_contra hcaller
        simp [State.work, State.ownWork, State.destructorLeft, State.callerLeft, hjoined, hat.2.2,
          hpoll, hcaller, Place.left, FlagStage.left] at hwork
      exact ⟨.callerUnlock, _, _, trivial, if_pos hcaller⟩
    · obtain ⟨l, ⟨s', os⟩, hl, hr⟩ := exists_step hI hset hjoined
      exact ⟨l, s', os, hl.ends, hr⟩

/-- Once `_stopThread` is set, the poll thread and the destructor take at most ten more steps in any
run, whatever the callers do meanwhile, and eleven with that of a caller that has `_therm_mutex`.
Until the destructor has joined the poll thread there is a step of theirs to take without a timeout,
or a caller is to release `_therm_mutex`. -/
theorem stops (h : shutdown.Run initial ls os s) (hset : s.stopThread = true) :
    (∀ ls' os' s', shutdown.Run s ls' os' s' → ls'.countP Label.isOwn ≤ 10) ∧
      (∀ ls' os' s', (∀ l ∈ ls', l.Ends) → shutdown.Run s ls' os' s' → ls'.length ≤ 11) ∧
      (s.destructor ≠ .joined → ∃ l r, l.Prompt ∧ shutdown.step s l = some r) := by
  have hI := inv_run h
  refine ⟨fun ls' os' s' hrun => ?_, fun ls' os' s' hends hrun => ?_, exists_step hI hset⟩
  · have hcount := hrun.countP_add_le Label.isOwn State.ownWork
      (I := fun s => Inv s ∧ s.stopThread = true)
      (fun hI hstep => ⟨inv_step hI.1 hstep, (last_turn_step hI.1 hI.2 hstep).1⟩)
      (fun hI hown hstep => ownWork_step hI.1 hI.2 hown hstep)
      (fun _ hown hstep => Nat.le_of_eq (ownWork_caller hown hstep)) ⟨hI, hset⟩
    have hown := ownWork_le hI
    omega
  · have hlength := (progress.length_add_le ⟨hI, hset⟩ hends hrun).2
    have hwork := work_le hI
    omega

/-- `_stopThread` is set while the poll thread is blocked, and it is woken. -/
theorem stops_of_blocked : ∃ os s, shutdown.Run initial [.head, .getPowerState true,
      .stop (.lock .pollThread), .stop (.act .pollThread), .destroy, .stop (.lock .destructor),
      .stop (.act .destructor)] os s ∧ s.stop.stage .pollThread = .blocked ∧
    ∃ l r, l.Prompt ∧ shutdown.step s l = some r := by
  obtain ⟨os, s, hrun, hset, hblocked, hjoined⟩ : ∃ os s, shutdown.Run initial
      [.head, .getPowerState true, .stop (.lock .pollThread), .stop (.act .pollThread), .destroy,
        .stop (.lock .destructor), .stop (.act .destructor)] os s ∧
      s.stopThread = true ∧ s.stop.stage .pollThread = .blocked ∧ s.destructor ≠ .joined :=
    Machine.exists_outputs_of_exec (by decide)
  exact ⟨os, s, hrun, hblocked, (stops hrun hset).2.2 hjoined⟩

end PowerManager.Thermal.Shutdown
