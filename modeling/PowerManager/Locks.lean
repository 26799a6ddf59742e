import PowerManager.LockMachine
import Mathlib.Data.Int.Notation

/-!
# The locks of the plugin

The thermal poll loop and the callers of the API take five locks: `selfLock` of `SetPowerState`,
`_apiLock` and `_callbackLock` of `PowerManagerImplementation`, and `_therm_mutex` and
`_grace_interval_mutex` of `ThermalController`. Each way through a call is the list of its acts on
these locks; the functions below are the functions of the code. Clients do not call back.

A caller of `SetOvertempGraceInterval` takes `_apiLock` and then `_grace_interval_mutex`. The poll
loop holds `_grace_interval_mutex` while it requests deep sleep, and takes `selfLock` and `_apiLock`
for that. If the two overlap, they wait for each other. Moreover the poll loop leaves with
`_therm_mutex` held if it is stopped right after it has read the temperature.

`locks_deadlockFree` says that nothing else goes wrong: all other acts take the locks in order.
-/

namespace PowerManager

/-- The locks. -/
inductive Lock
  | selfLock
  | apiLock
  | callbackLock
  | thermMutex
  | graceIntervalMutex
  deriving DecidableEq, Repr

/-- The threads. -/
inductive ThreadId
  | poll
  | caller (n : ℕ)
  deriving DecidableEq, Repr

namespace Locks

open Lock

/-- `dispatchPowerModeChangedEvent` and its siblings. -/
def dispatch : List (LockAct Lock) :=
  guarded callbackLock []

/-- `GetPowerState`, and `getPowerState` of the poll loop. -/
def getPowerState : List (LockAct Lock) :=
  guarded apiLock []

/-- `setDevicePowerState`, which dispatches the event if the power controller accepts the state. -/
def setDevicePowerState (accepted : Bool) : List (LockAct Lock) :=
  if accepted then dispatch else []

/-- What becomes of a `SetPowerState` request that has `selfLock` and knows the state. -/
inductive Outcome
  /-- The state is not known, or the same, or the device is about to enter deep sleep. -/
  | returned
  /-- The request is redundant, or its controller has been scheduled. -/
  | registered
  /-- The completion handler has run in `Schedule`. -/
  | completed (accepted : Bool)
  deriving DecidableEq, Repr

/-- A `SetPowerState` request: how often `selfLock.Lock` times out, and what becomes of it. -/
structure Request where
  timeouts : ℕ
  outcome : Outcome
  deriving DecidableEq, Repr

/-- The loop of `SetPowerState` while `selfLock` is busy. -/
def selfLockBusy : ℕ → List (LockAct Lock)
  | 0 => []
  | n + 1 => .timeout selfLock :: (guarded apiLock [] ++ selfLockBusy n)

/-- What `SetPowerState` does after it has read the state. -/
def Outcome.acts : Outcome → List (LockAct Lock)
  | .returned => []
  | .registered => guarded apiLock []
  | .completed accepted => guarded apiLock [] ++ setDevicePowerState accepted

/-- `SetPowerState`. `selfLock` is released by the caller or, if the request is synchronous, by the
completion handler, which has then run in `Schedule`. -/
def setPowerState (r : Request) : List (LockAct Lock) :=
  selfLockBusy r.timeouts ++ guarded selfLock (getPowerState ++ r.outcome.acts)

/-- `PowerModePreChangeComplete`. The last acknowledgement runs the completion handler, and
`accepted` is then the answer of the power controller. -/
def powerModePreChangeComplete (accepted : Option Bool) : List (LockAct Lock) :=
  guarded apiLock (accepted.elim [] setDevicePowerState)

/-- `SetOvertempGraceInterval`, which ignores a negative interval. -/
def setOvertempGraceInterval (graceInterval : ℤ) : List (LockAct Lock) :=
  guarded apiLock (if graceInterval ≥ 0 then guarded graceIntervalMutex [] else [])

/-- `GetThermalState`, with `ENABLE_THERMAL_PROTECTION`. -/
def getThermalState : List (LockAct Lock) :=
  guarded apiLock (guarded thermMutex [])

/-- `SetNetworkStandbyMode`, with the answer of the power controller. -/
def setNetworkStandbyMode (accepted : Bool) : List (LockAct Lock) :=
  guarded apiLock [] ++ if accepted then dispatch else []

/-- `deepSleepIfNeeded` requests deep sleep if the temperature is critical, and if it has been of
concern for too long. -/
def deepSleepIfNeeded (critical concern : Option Request) : List (LockAct Lock) :=
  critical.elim [] setPowerState ++ concern.elim [] setPowerState

/-- A turn of the loop of `pollThermalLevels`. `changed` says whether the level has changed. -/
inductive Turn
  /-- The device is in deep sleep. -/
  | deepSleep
  /-- `GetTemperature` has failed. -/
  | failed
  | read (changed : Bool) (critical concern : Option Request)
  /-- `_stopThread` is found set after the temperature has been read. -/
  | broken (changed : Bool)
  /-- `_stopThread` is found set at the head of the loop. -/
  | stopped
  deriving DecidableEq, Repr

/-- The events of a reading. -/
def levelChanged (changed : Bool) : List (LockAct Lock) :=
  if changed then dispatch else []

/-- A turn of `pollThermalLevels`. -/
def pollThermalLevels : Turn → List (LockAct Lock)
  | .deepSleep => getPowerState
  | .failed => getPowerState ++ guarded thermMutex []
  | .read changed critical concern =>
    getPowerState ++ (guarded thermMutex (levelChanged changed) ++
      guarded graceIntervalMutex (deepSleepIfNeeded critical concern))
  | .broken changed =>
    -- `break` leaves the loop without `_therm_mutex->unlock()`
    getPowerState ++ .lock thermMutex :: (levelChanged changed ++ [.exit])
  | .stopped => [.exit]

/-- The calls, with what decides which way they go. -/
inductive Call
  | setPowerState (r : Request)
  | powerModePreChangeComplete (accepted : Option Bool)
  | setOvertempGraceInterval (graceInterval : ℤ)
  | getThermalState
  | setNetworkStandbyMode (accepted : Bool)
  | pollThermalLevels (turn : Turn)
  deriving DecidableEq, Repr

/-- What the calls do with the locks. -/
def Call.acts : Call → List (LockAct Lock)
  | .setPowerState r => Locks.setPowerState r
  | .powerModePreChangeComplete accepted => Locks.powerModePreChangeComplete accepted
  | .setOvertempGraceInterval graceInterval => Locks.setOvertempGraceInterval graceInterval
  | .getThermalState => Locks.getThermalState
  | .setNetworkStandbyMode accepted => Locks.setNetworkStandbyMode accepted
  | .pollThermalLevels turn => Locks.pollThermalLevels turn

/-- The poll loop polls, and the callers call the API. -/
def mayCall : ThreadId → Call → Bool
  | .poll, .pollThermalLevels _ => true
  | .poll, _ => false
  | .caller _, .pollThermalLevels _ => false
  | .caller _, _ => true

/-- `_apiLock` and `_callbackLock` are recursive; `selfLock` is a binary semaphore, and the mutexes
are not. -/
def recursive : Lock → Bool
  | apiLock | callbackLock => true
  | selfLock | thermMutex | graceIntervalMutex => false

/-- The threads and the locks of the plugin. -/
def locks : LockProgram ThreadId Lock Call where
  recursive := recursive
  mayCall := mayCall
  acts := Call.acts

/-- Nothing is locked, and no thread is in a call. -/
def initial : LockState ThreadId Lock where
  owner _ := none
  thread _ := ⟨[], [], false⟩

/-- A label of the machine. -/
abbrev Label := LockLabel ThreadId Call

/-! ## Discipline of the calls -/

/-- The order in which the poll loop takes the locks. -/
def rank : Lock → ℕ
  | graceIntervalMutex => 0
  | selfLock => 1
  | apiLock => 2
  | thermMutex => 3
  | callbackLock => 4

/-- The order in which the callers of `SetOvertempGraceInterval` take the locks. -/
def rankInside : Lock → ℕ
  | selfLock => 0
  | apiLock => 1
  | graceIntervalMutex => 2
  | thermMutex => 3
  | callbackLock => 4

/-- The locks a thread may take beside those it holds: the poll loop takes them by `rank`, and so do
the callers, who take `_grace_interval_mutex` under `_apiLock` only. -/
def Allowed : ThreadId → List Lock → Lock → Prop
  | .poll, held, l => ∀ l' ∈ held, rank l' < rank l
  | .caller _, held, l =>
    (graceIntervalMutex ∉ held ∧ ∀ l' ∈ held, rank l' < rank l) ∨
      held = [apiLock] ∧ l = graceIntervalMutex

instance (t : ThreadId) (held : List Lock) (l : Lock) : Decidable (Allowed t held l) :=
  match t with
  | .poll => inferInstanceAs (Decidable (∀ _ ∈ _, _))
  | .caller _ => inferInstanceAs (Decidable (_ ∨ _))

/-- A call breaks out of the poll loop. -/
def Call.breaks : Call → Bool
  | .pollThermalLevels (.broken _) => true
  | _ => false

section Discipline

variable {ok : List Lock → Lock → Prop} {held : List Lock}

/-- A lock is not held, and may be taken. -/
abbrev Free (ok : List Lock → Lock → Prop) (held : List Lock) (l : Lock) : Prop :=
  l ∉ held ∧ ok held l

theorem disciplined_dispatch (h : Free ok held callbackLock) :
    Disciplined ok held dispatch held :=
  .guarded h .nil

theorem disciplined_setDevicePowerState (h : Free ok held callbackLock) (accepted : Bool) :
    Disciplined ok held (setDevicePowerState accepted) held :=
  (disciplined_dispatch h).ite

theorem disciplined_selfLockBusy (hself : Free ok held selfLock) (hapi : Free ok held apiLock)
    (n : ℕ) : Disciplined ok held (selfLockBusy n) held := by
  induction n with
  | zero => exact .nil
  | succ n ih => exact ⟨hself, (Disciplined.guarded hapi .nil).append ih⟩

theorem disciplined_setPowerState (hself : Free ok held selfLock) (hapi : Free ok held apiLock)
    (hapi' : Free ok (selfLock :: held) apiLock) (hcb : Free ok (selfLock :: held) callbackLock)
    (r : Request) : Disciplined ok held (setPowerState r) held := by
  refine (disciplined_selfLockBusy hself hapi _).append (.guarded hself ?_)
  refine (Disciplined.guarded hapi' .nil).append ?_
  cases r.outcome with
  | returned => exact .nil
  | registered => exact .guarded hapi' .nil
  | completed accepted =>
    exact (Disciplined.guarded hapi' .nil).append (disciplined_setDevicePowerState hcb accepted)

/-- The API calls are disciplined. -/
theorem disciplined_api {n : ℕ} {c : Call} (hmay : locks.mayCall (.caller n) c = true) :
    Disciplined (Allowed (.caller n)) [] (locks.acts c) [] := by
  -- all callers are alike
  change Disciplined (Allowed (.caller 0)) [] (locks.acts c) []
  cases c with
  | setPowerState r =>
    exact disciplined_setPowerState (by decide) (by decide) (by decide) (by decide) r
  | powerModePreChangeComplete accepted =>
    refine .guarded (by decide) ?_
    cases accepted with
    | none => exact .nil
    | some accepted => exact disciplined_setDevicePowerState (by decide) accepted
  | setOvertempGraceInterval graceInterval =>
    exact .guarded (by decide) (Disciplined.guarded (by decide) .nil).ite
  | getThermalState => exact .guarded (by decide) (.guarded (by decide) .nil)
  | setNetworkStandbyMode accepted =>
    exact (Disciplined.guarded (by decide) .nil).append (disciplined_dispatch (by decide)).ite
  | pollThermalLevels turn => cases hmay

/-- The turns of the poll loop are disciplined, but for the one that breaks out of it. -/
theorem disciplined_pollThermalLevels {turn : Turn}
    (hc : (Call.pollThermalLevels turn).breaks = false) :
    Disciplined (Allowed .poll) [] (pollThermalLevels turn) [] := by
  have hstate : Disciplined (Allowed .poll) [] getPowerState [] := .guarded (by decide) .nil
  have hrequest : ∀ r : Option Request, Disciplined (Allowed .poll) [graceIntervalMutex]
      (r.elim [] setPowerState) [graceIntervalMutex] := by
    rintro (_ | r)
    · exact .nil
    · exact disciplined_setPowerState (by decide) (by decide) (by decide) (by decide) r
  cases turn with
  | deepSleep => exact hstate
  | failed => exact hstate.append (.guarded (by decide) .nil)
  | read changed critical concern =>
    refine hstate.append (.append (.guarded (by decide) ?_) (.guarded (by decide) ?_))
    · exact (disciplined_dispatch (by decide)).ite
    · exact (hrequest critical).append (hrequest concern)
  | broken changed => cases hc
  | stopped => exact rfl

/-- Every call but the one that breaks out of the poll loop is disciplined. -/
theorem disciplined_acts {t : ThreadId} {c : Call} (hmay : locks.mayCall t c = true)
    (hc : c.breaks = false) : Disciplined (Allowed t) [] (locks.acts c) [] := by
  cases t with
  | caller n => exact disciplined_api hmay
  | poll =>
    cases c with
    | pollThermalLevels turn => exact disciplined_pollThermalLevels hc
    | setPowerState | powerModePreChangeComplete | setOvertempGraceInterval | getThermalState
      | setNetworkStandbyMode => cases hmay

end Discipline

/-! ## Freedom of deadlock -/

variable {s s' : LockState ThreadId Lock} {lb : Label} {es : List Empty}

/-- A caller of `SetOvertempGraceInterval` has `_apiLock`, and is on its way to
`_grace_interval_mutex`. -/
def Inside (s : LockState ThreadId Lock) : Prop :=
  ∃ t ∈ s.owner apiLock, t ≠ .poll ∧ s.WillTake t graceIntervalMutex

/-- The poll loop has `_grace_interval_mutex`, and has not finished its `SetPowerState` requests. -/
def Requesting (s : LockState ThreadId Lock) : Prop :=
  s.Holding .poll graceIntervalMutex selfLock ∨ s.Holding .poll graceIntervalMutex apiLock

instance (s : LockState ThreadId Lock) : Decidable (Inside s) :=
  inferInstanceAs (Decidable (∃ t ∈ _, _))

instance (s : LockState ThreadId Lock) : Decidable (Requesting s) :=
  inferInstanceAs (Decidable (_ ∨ _))

/-- The steps that keep the two sections apart, and do not break out of the poll loop. -/
def Apart (s : LockState ThreadId Lock) : Label → Prop
  | .call _ c => c.breaks = false
  | .act .poll =>
    s.Entering .poll graceIntervalMutex selfLock ∨ s.Entering .poll graceIntervalMutex apiLock →
      ¬Inside s
  | .act (.caller n) => s.Entering (.caller n) apiLock graceIntervalMutex → ¬Requesting s

instance (s : LockState ThreadId Lock) (lb : Label) : Decidable (Apart s lb) :=
  match lb with
  | .call _ _ => inferInstanceAs (Decidable (_ = _))
  | .act .poll => inferInstanceAs (Decidable (_ → _))
  | .act (.caller _) => inferInstanceAs (Decidable (_ → _))

/-- The invariant of the runs whose steps are `Apart`. -/
structure Inv (s : LockState ThreadId Lock) : Prop where
  sound : LockProgram.Sound Allowed s
  apart : ¬(Inside s ∧ Requesting s)

theorem inv_initial : Inv initial where
  sound :=
    { owner_iff := by simp [initial]
      nodup := by simp [initial]
      disciplined := fun _ => rfl
      exited := by simp [initial] }
  apart := by decide

/-- A step of a caller may bring it inside. -/
theorem inside_step (hS : LockProgram.Sound Allowed s)
    (h : locks.machine.step s lb = some (s', es)) (hI : Inside s') :
    Inside s ∨ ∃ n, lb = .act (.caller n) ∧
      s.Entering (.caller n) apiLock graceIntervalMutex := by
  obtain ⟨t, hown, hne, htake⟩ := hI
  rcases LockProgram.holding_step hS h ⟨hown, htake⟩ with ⟨hown, htake⟩ | ⟨rfl, hentering⟩
  · exact .inl ⟨t, hown, hne, htake⟩
  · cases t with
    | poll => exact absurd rfl hne
    | caller n => exact .inr ⟨n, rfl, hentering⟩

/-- A step of the poll loop may start its requests. -/
theorem requesting_step (hS : LockProgram.Sound Allowed s)
    (h : locks.machine.step s lb = some (s', es)) (hR : Requesting s') :
    Requesting s ∨ lb = .act .poll ∧ (s.Entering .poll graceIntervalMutex selfLock ∨
      s.Entering .poll graceIntervalMutex apiLock) := by
  rcases hR with hR | hR
  · rcases LockProgram.holding_step hS h hR with hR | ⟨rfl, hentering⟩
    · exact .inl (.inl hR)
    · exact .inr ⟨rfl, .inl hentering⟩
  · rcases LockProgram.holding_step hS h hR with hR | ⟨rfl, hentering⟩
    · exact .inl (.inr hR)
    · exact .inr ⟨rfl, .inr hentering⟩

/-- The invariant is kept. -/
theorem inv_step (hI : Inv s) (hA : Apart s lb) (h : locks.machine.step s lb = some (s', es)) :
    Inv s' where
  sound := by
    refine LockProgram.sound_step hI.sound h ?_
    rintro t c rfl hmay
    exact disciplined_acts hmay hA
  apart := by
    rintro ⟨hin, hreq⟩
    rcases inside_step hI.sound h hin with hin | ⟨n, rfl, hn⟩
    · rcases requesting_step hI.sound h hreq with hreq | ⟨rfl, hpoll⟩
      · exact hI.apart ⟨hin, hreq⟩
      · exact hA hpoll hin
    · rcases requesting_step hI.sound h hreq with hreq | ⟨hlb, -⟩
      · exact hA hn hreq
      · cases hlb

/-- The lock that a thread waits for is one that it has still to take. -/
theorem willTake_of_awaits {t : ThreadId} {l : Lock} (h : locks.Awaits s t l) :
    s.WillTake t l := by
  obtain ⟨a, ha, hl⟩ := Option.bind_eq_some_iff.mp h.1
  exact ⟨a, List.mem_of_mem_head? ha, hl⟩

/-- Without a caller inside, the locks are taken by `rank`. -/
theorem rank_lt (hI : Inv s) (hin : ¬Inside s) {t : ThreadId} {l l' : Lock}
    (hwait : locks.Awaits s t l) (hl' : l' ∈ (s.thread t).held) : rank l' < rank l := by
  have hallowed := (hI.sound.ok_of_takes hwait.1).2
  cases t with
  | poll => exact hallowed l' hl'
  | caller n =>
    rcases hallowed with ⟨-, hlt⟩ | ⟨hheld, rfl⟩
    · -- the only exception is `SetOvertempGraceInterval`, which brings its caller inside
      exact hlt l' hl'
    · have hown : s.owner apiLock = some (.caller n) :=
        (hI.sound.owner_iff _ _).mpr (by rw [hheld]; exact .head _)
      exact absurd ⟨.caller n, hown, by simp, willTake_of_awaits hwait⟩ hin

/-- Unless the poll loop has requests to make, the locks are taken by `rankInside`. -/
theorem rankInside_lt (hI : Inv s) (hreq : ¬Requesting s) {t : ThreadId} {l l' : Lock}
    (hwait : locks.Awaits s t l) (hl' : l' ∈ (s.thread t).held) : rankInside l' < rankInside l := by
  have hallowed := (hI.sound.ok_of_takes hwait.1).2
  cases t with
  | poll =>
    have hlt := hallowed l' hl'
    have htake := willTake_of_awaits hwait
    have hown := (hI.sound.owner_iff _ _).mpr hl'
    cases l' with
    | graceIntervalMutex =>
      cases l with
      -- `_grace_interval_mutex` is the only lock for which the two ranks differ
      | selfLock => exact absurd (.inl ⟨hown, htake⟩) hreq
      | apiLock => exact absurd (.inr ⟨hown, htake⟩) hreq
      | graceIntervalMutex | thermMutex | callbackLock => revert hlt; decide
    | selfLock | apiLock | thermMutex | callbackLock => cases l <;> revert hlt <;> decide
  | caller n =>
    rcases hallowed with ⟨hgrace, hlt⟩ | ⟨hheld, rfl⟩
    · have hlt' := hlt l' hl'
      have hne : l' ≠ graceIntervalMutex := by
        rintro rfl
        exact hgrace hl'
      cases l' <;> cases l <;> revert hlt' hne <;> decide
    · obtain rfl : l' = apiLock := by simpa [hheld] using hl'
      decide

/-- There is no deadlock in a state that keeps the two sections apart. -/
theorem Inv.deadlockFree (hI : Inv s) : locks.DeadlockFree s := by
  by_cases hin : Inside s
  · -- one rank for the states with a caller inside, one for the others
    have hreq : ¬Requesting s := fun hreq => hI.apart ⟨hin, hreq⟩
    exact LockProgram.deadlockFree_of_rank hI.sound rankInside
      fun _ _ hwait _ hl' => rankInside_lt hI hreq hwait hl'
  · exact LockProgram.deadlockFree_of_rank hI.sound rank
      fun _ _ hwait _ hl' => rank_lt hI hin hwait hl'

/-- If the steps of a run keep the two sections apart, and none breaks out of the poll loop, the run
passes no deadlock. -/
theorem locks_deadlockFree {ls : List Label} (hC : locks.machine.Along Apart initial ls) :
    locks.machine.Throughout locks.DeadlockFree initial ls := by
  rintro pre post os s rfl hrun
  have hI : Inv s :=
    hrun.invariant_along hC.left inv_initial fun _ _ _ _ hI hA h => inv_step hI hA h
  exact hI.deadlockFree

/-- The poll loop requests deep sleep, and a caller sets the grace interval before and after it. -/
theorem locks_deadlockFree_in_turn :
    ∃ ls s, locks.machine.Run initial ls [] s ∧
      .call .poll (.pollThermalLevels (.read true (some ⟨0, .completed true⟩) none)) ∈ ls ∧
      .call (.caller 0) (.setOvertempGraceInterval 7) ∈ ls ∧
      locks.machine.Throughout locks.DeadlockFree initial ls := by
  obtain ⟨s, hrun, -⟩ : ∃ s, locks.machine.Run initial
      (([.call (.caller 0) (.setOvertempGraceInterval 5)] : List Label) ++
        (List.replicate 4 (.act (.caller 0)) : List Label) ++
        ([.call .poll (.pollThermalLevels (.read true (some ⟨0, .completed true⟩) none))] :
          List Label) ++
        (List.replicate 16 (.act .poll) : List Label) ++
        ([.call (.caller 0) (.setOvertempGraceInterval 7)] : List Label) ++
        (List.replicate 4 (.act (.caller 0)) : List Label)) [] s ∧ True :=
    Machine.exists_run_of_exec (by decide +kernel)
  refine ⟨_, s, hrun, by simp, by simp, locks_deadlockFree (Machine.along_of_check ?_)⟩
  decide +kernel

/-- A caller sets the grace interval while the poll loop requests deep sleep, and they wait for each
other. The poll loop is stopped after a reading, and a caller waits for it for ever. -/
theorem locks_deadlock :
    (∃ s, locks.machine.Run initial
        ([.call .poll (.pollThermalLevels (.read false (some ⟨0, .registered⟩) none))] ++
          List.replicate 6 (.act .poll) ++
          [.call (.caller 0) (.setOvertempGraceInterval 5), .act (.caller 0)]) [] s ∧
      Relation.TransGen (locks.WaitsOn s) .poll .poll) ∧
    ∃ s, locks.machine.Run initial
        ([.call .poll (.pollThermalLevels (.broken false))] ++ List.replicate 4 (.act .poll) ++
          [.call (.caller 0) .getThermalState, .act (.caller 0)]) [] s ∧
      locks.WaitsOn s (.caller 0) .poll ∧ (s.thread .poll).exited = true := by
  constructor
  · refine (Machine.exists_run_of_exec (p := fun s =>
      (locks.Awaits s .poll apiLock ∧ s.owner apiLock = some (.caller 0)) ∧
        locks.Awaits s (.caller 0) graceIntervalMutex ∧
          s.owner graceIntervalMutex = some .poll) ?_).imp fun s hs => ⟨hs.1, ?_⟩
    · decide +kernel
    · exact .tail (.single ⟨_, hs.2.1⟩) ⟨_, hs.2.2⟩
  · refine (Machine.exists_run_of_exec (p := fun s =>
      (locks.Awaits s (.caller 0) thermMutex ∧ s.owner thermMutex = some .poll) ∧
        (s.thread .poll).exited = true) ?_).imp fun s hs => ⟨hs.1, ⟨_, hs.2.1⟩, hs.2.2⟩
    decide +kernel

end Locks

end PowerManager
