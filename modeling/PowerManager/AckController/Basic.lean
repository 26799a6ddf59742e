import PowerManager.Types
import Mathlib.Data.Finset.Basic
import Mathlib.Data.Finset.Lattice.Lemmas
import Mathlib.Data.Int.Order.Basic

/-!
# The acknowledgement controller

An `AckController` stands for one power state transition: it collects the acknowledgements of
the clients the transition waits for, and calls a completion handler once they are all in, when
its timer runs out, or when it is destroyed while still waiting.

The operations here are those of `AckController.h`, each taken as one step. An operation returns
the calls it makes to the completion handler. `AckController.Race` splits the operations into
their steps.

The assertions `ASSERT(..)` of the source are checks of debug builds and are not modelled.
-/

namespace PowerManager

/-- One call of a completion handler, with its two arguments. -/
structure HandlerCall (H : Type*) where
  handler : H
  isTimedout : Bool
  isRevoked : Bool
  deriving DecidableEq, Repr

/-- The `AckController` object. The worker pool's view of `_timerJob` is part of the state:
`scheduled` is the time at which the pool is going to dispatch the job. -/
structure AckController (H : Type*) where
  /-- The target state of the transition. -/
  powerState : PowerState
  /-- The clients whose acknowledgement is awaited. -/
  pending : Finset UInt32
  /-- The number of the transition. Overflow of this signed counter is undefined in the source;
  no run reaches it with fewer than `2 ^ 31` transitions. -/
  transactionId : ℤ
  /-- The absolute time of the timeout. -/
  timeout : Time
  /-- Whether `_timerJob` is valid. -/
  timerJobValid : Bool
  /-- When the worker pool dispatches `_timerJob`, if it holds it. -/
  scheduled : Option Time
  /-- The stored completion handler. -/
  handler : Option H
  running : Bool

namespace AckController

variable {H : Type*}

/-- The constructor. -/
def create (powerState : PowerState) (transactionId : ℤ) (now : Time) : AckController H where
  powerState
  pending := ∅
  transactionId
  timeout := now
  timerJobValid := false
  scheduled := none
  handler := none
  running := false

@[simp]
theorem create_powerState (powerState : PowerState) (transactionId : ℤ) (now : Time) :
    (create powerState transactionId now : AckController H).powerState = powerState := rfl

@[simp]
theorem create_transactionId (powerState : PowerState) (transactionId : ℤ) (now : Time) :
    (create powerState transactionId now : AckController H).transactionId = transactionId := rfl

/-- `AckController::AckAwait`. -/
def ackAwait (c : AckController H) (clientId : UInt32) : AckController H :=
  { c with pending := insert clientId c.pending }

/-- A call of the stored handler. -/
def callHandler (c : AckController H) (isTimedout isRevoked : Bool) : List (HandlerCall H) :=
  c.handler.toList.map (⟨·, isTimedout, isRevoked⟩)

/-- `AckController::runHandler`. -/
def runHandler (c : AckController H) (isTimedout : Bool) :
    AckController H × List (HandlerCall H) :=
  (if isTimedout then c else { c with scheduled := none }, c.callHandler isTimedout false)

/-- `AckController::Ack(clientId, transactionId)`. -/
def ack (c : AckController H) (clientId : UInt32) (transactionId : ℤ) :
    ErrorCode × AckController H × List (HandlerCall H) :=
  if transactionId ≠ c.transactionId then
    (.errorInvalidParameter, c, [])
  else if clientId ∉ c.pending then
    (.errorInvalidParameter, c, [])
  else
    let c := { c with pending := c.pending.erase clientId }
    if c.pending = ∅ ∧ c.running = true then
      (.errorNone, runHandler { c with running := false } false)
    else
      (.errorNone, c, [])

/-- `AckController::Ack(clientId)`: acknowledge the current transaction. -/
def ackClient (c : AckController H) (clientId : UInt32) :
    ErrorCode × AckController H × List (HandlerCall H) :=
  c.ack clientId c.transactionId

/-- `AckController::Schedule`. -/
def schedule (c : AckController H) (now : Time) (offsetInMilliseconds : UInt64) (handler : H) :
    AckController H × List (HandlerCall H) :=
  if c.pending = ∅ ∨ offsetInMilliseconds = 0 then
    -- nothing to wait for: the handler runs at once, and is not stored
    (c, [⟨handler, false, false⟩])
  else
    let timeout := max (now.add offsetInMilliseconds.toUInt32) c.timeout
    ({ c with
        running := true
        handler := some handler
        timeout
        timerJobValid := true
        scheduled := some timeout },
      [])

/-- The dispatch of `_timerJob` by the worker pool, on a controller that is still alive. -/
def dispatchTimer (c : AckController H) : AckController H × List (HandlerCall H) :=
  let c := { c with scheduled := none }
  if c.running then
    ({ c with running := false }, c.callHandler true false)
  else
    (c, [])

/-- `AckController::Reschedule`. -/
def reschedule (c : AckController H) (clientId : UInt32) (transactionId : ℤ)
    (offsetInMilliseconds : Int32) (now : Time) : ErrorCode × AckController H :=
  let newTimeout := now.add offsetInMilliseconds.toUInt32
  if c.running = false then
    -- called before `schedule`: cache the timeout, without looking at the arguments
    (.errorNone, { c with timeout := max c.timeout newTimeout })
  else if transactionId ≠ c.transactionId then
    (.errorInvalidParameter, c)
  else if clientId ∉ c.pending then
    (.errorInvalidParameter, c)
  else if newTimeout > c.timeout then
    (.errorNone, { c with timeout := newTimeout, scheduled := some newTimeout })
  else
    (.errorNone, c)

/-- `AckController::revoke`, which is all that the destructor does. -/
def revoke (c : AckController H) : AckController H × List (HandlerCall H) :=
  let r :=
    if c.running then
      let c := { c with running := false }
      if c.timerJobValid then
        ({ c with scheduled := none }, c.callHandler false true)
      else
        (c, [])
    else
      (c, [])
  ({ r.1 with timerJobValid := false }, r.2)

/-- The client takes part in the transition that the controller stands for: the transaction is the
controller's, and the client is still waited for. -/
def Participant (c : AckController H) (clientId : UInt32) (transactionId : ℤ) : Prop :=
  transactionId = c.transactionId ∧ clientId ∈ c.pending

instance (c : AckController H) (clientId : UInt32) (transactionId : ℤ) :
    Decidable (c.Participant clientId transactionId) :=
  inferInstanceAs (Decidable (_ ∧ _))

/-! ## What the operations do -/

variable (c : AckController H)

/-- `ack` refuses, or takes the last pending client of a running controller and completes it, or
only takes the client off the pending set. -/
theorem ack_cases (clientId : UInt32) (transactionId : ℤ) :
    ((transactionId ≠ c.transactionId ∨ clientId ∉ c.pending) ∧
      c.ack clientId transactionId = (.errorInvalidParameter, c, [])) ∨
    ((transactionId = c.transactionId ∧ clientId ∈ c.pending) ∧
      (c.pending.erase clientId = ∅ ∧ c.running = true) ∧
      c.ack clientId transactionId =
        (.errorNone, { c with pending := ∅, running := false, scheduled := none },
          c.callHandler false false)) ∨
    ((transactionId = c.transactionId ∧ clientId ∈ c.pending) ∧
      ¬(c.pending.erase clientId = ∅ ∧ c.running = true) ∧
      c.ack clientId transactionId =
        (.errorNone, { c with pending := c.pending.erase clientId }, [])) := by
  unfold ack
  by_cases htid : transactionId = c.transactionId
  · by_cases hmem : clientId ∈ c.pending
    · by_cases hlast : c.pending.erase clientId = ∅ ∧ c.running = true
      · refine .inr (.inl ⟨⟨htid, hmem⟩, hlast, ?_⟩)
        simp [htid, hmem, hlast, runHandler, callHandler]
      · refine .inr (.inr ⟨⟨htid, hmem⟩, hlast, ?_⟩)
        simp [htid, hmem, hlast]
    · exact .inl ⟨.inr hmem, by simp [htid, hmem]⟩
  · exact .inl ⟨.inl htid, by simp [htid]⟩

/-- `schedule` calls the handler at once, or stores it and starts the timer. -/
theorem schedule_cases (now : Time) (offset : UInt64) (handler : H) :
    ((c.pending = ∅ ∨ offset = 0) ∧
      c.schedule now offset handler = (c, [⟨handler, false, false⟩])) ∨
    (¬(c.pending = ∅ ∨ offset = 0) ∧
      c.schedule now offset handler =
        ({ c with
            running := true
            handler := some handler
            timeout := max (now.add offset.toUInt32) c.timeout
            timerJobValid := true
            scheduled := some (max (now.add offset.toUInt32) c.timeout) }, [])) := by
  unfold schedule
  split
  · exact .inl ⟨‹_›, rfl⟩
  · exact .inr ⟨‹_›, rfl⟩

/-- A running controller refuses everybody who takes no part in the transition. -/
theorem reschedule_of_running (clientId : UInt32) (transactionId : ℤ) (offset : Int32) (now : Time)
    (hrun : c.running = true) (h : ¬c.Participant clientId transactionId) :
    c.reschedule clientId transactionId offset now = (.errorInvalidParameter, c) := by
  unfold reschedule
  rw [if_neg (by simp [hrun])]
  by_cases htid : transactionId = c.transactionId
  · rw [if_neg (not_not.mpr htid), if_pos fun hmem => h ⟨htid, hmem⟩]
  · rw [if_pos htid]

/-- A controller that is not running accepts everything. -/
theorem reschedule_of_stopped (clientId : UInt32) (transactionId : ℤ) (offset : Int32) (now : Time)
    (hrun : c.running = false) :
    c.reschedule clientId transactionId offset now =
      (.errorNone, { c with timeout := max c.timeout (now.add offset.toUInt32) }) := by
  unfold reschedule
  rw [if_pos hrun]

/-- A running controller grants a participant a delay that is longer than the present one. -/
theorem reschedule_of_participant (clientId : UInt32) (transactionId : ℤ) (offset : Int32)
    (now : Time) (hrun : c.running = true) (h : c.Participant clientId transactionId) :
    c.reschedule clientId transactionId offset now =
      (.errorNone, if now.add offset.toUInt32 > c.timeout then
        { c with
          timeout := now.add offset.toUInt32, scheduled := some (now.add offset.toUInt32) }
      else c) := by
  unfold reschedule
  rw [if_neg (by simp [hrun]), if_neg (not_not.mpr h.1), if_neg (not_not.mpr h.2)]
  split <;> rfl

/-- `reschedule` changes at most the timeout and the time of the timer job. -/
theorem reschedule_eq (clientId : UInt32) (transactionId : ℤ) (offset : Int32) (now : Time) :
    ∃ timeout scheduled, (c.reschedule clientId transactionId offset now).2 =
        { c with timeout, scheduled } ∧
      (c.running = true → c.scheduled = some c.timeout → scheduled = some timeout) ∧
      (c.running = false → scheduled = c.scheduled) := by
  unfold reschedule
  split
  · exact ⟨_, _, rfl, by simp_all, fun _ => rfl⟩
  · split
    · exact ⟨_, _, rfl, by simp_all, by simp_all⟩
    · split
      · exact ⟨_, _, rfl, by simp_all, by simp_all⟩
      · dsimp only
        split
        · exact ⟨_, _, rfl, fun _ _ => rfl, by simp_all⟩
        · exact ⟨_, _, rfl, by simp_all, by simp_all⟩

/-- After the dispatch of its timer job a controller is not running. -/
theorem dispatchTimer_fst : c.dispatchTimer.1 = { c with scheduled := none, running := false } := by
  cases hrun : c.running <;> simp [dispatchTimer, hrun]

/-- A controller that is not running is destroyed in silence. -/
theorem revoke_of_stopped (h : c.running = false) :
    c.revoke = ({ c with timerJobValid := false }, []) := by
  simp [revoke, h]

/-- Awaiting the clients of a list adds them to the pending set and changes nothing else. -/
theorem foldl_ackAwait (clients : List UInt32) :
    clients.foldl ackAwait c = { c with pending := clients.toFinset ∪ c.pending } := by
  induction clients generalizing c with
  | nil => simp
  | cons id clients ih =>
    rw [List.foldl_cons, ih]
    simp [ackAwait, Finset.insert_union]

/-! ## Well-formed controllers -/

/-- What holds of a controller between operations: while it is running it is waiting for
somebody, it has a handler, and the worker pool holds its timer job, scheduled for the timeout;
while it is not running the pool does not hold the job. -/
structure WellFormed (c : AckController H) : Prop where
  pending_nonempty : c.running = true → c.pending ≠ ∅
  handler_isSome : c.running = true → c.handler.isSome = true
  timerJobValid : c.running = true → c.timerJobValid = true
  scheduled_running : c.running = true → c.scheduled = some c.timeout
  scheduled_stopped : c.running = false → c.scheduled = none

variable {c : AckController H}

/-- A controller that is not running is well-formed if the worker pool does not hold its job. -/
theorem WellFormed.of_stopped (hrun : c.running = false) (hsch : c.scheduled = none) :
    c.WellFormed := by
  constructor <;> simp [hrun, hsch]

/-- A new controller is well-formed. -/
theorem wellFormed_create (powerState : PowerState) (transactionId : ℤ) (now : Time) :
    (create powerState transactionId now : AckController H).WellFormed :=
  .of_stopped rfl rfl

/-- The handler of a running controller. -/
theorem WellFormed.exists_handler (hw : c.WellFormed) (hrun : c.running = true) :
    ∃ h, c.handler = some h :=
  Option.isSome_iff_exists.mp (hw.handler_isSome hrun)

/-- A well-formed controller that is still running when it is destroyed calls its handler, as
revoked. -/
theorem WellFormed.revoke_of_running (hw : c.WellFormed) {h : H} (hrun : c.running = true)
    (hh : c.handler = some h) : c.revoke.2 = [⟨h, false, true⟩] := by
  simp [revoke, hrun, hw.timerJobValid hrun, callHandler, hh]

/-- `ackAwait` keeps a controller well-formed. -/
theorem WellFormed.ackAwait (hw : c.WellFormed) (clientId : UInt32) :
    (c.ackAwait clientId).WellFormed :=
  ⟨fun _ => Finset.insert_ne_empty _ _, hw.handler_isSome, hw.timerJobValid,
    hw.scheduled_running, hw.scheduled_stopped⟩

/-- `ack` keeps a controller well-formed. -/
theorem WellFormed.ack (hw : c.WellFormed) (clientId : UInt32) (transactionId : ℤ) :
    (c.ack clientId transactionId).2.1.WellFormed := by
  rcases c.ack_cases clientId transactionId with ⟨-, h⟩ | ⟨-, -, h⟩ | ⟨-, hlast, h⟩
  · rwa [h]
  · rw [h]
    exact .of_stopped rfl rfl
  · rw [h]
    exact ⟨fun hrun he => hlast ⟨he, hrun⟩, hw.handler_isSome, hw.timerJobValid,
      hw.scheduled_running, hw.scheduled_stopped⟩

/-- `schedule` on a controller that is not running keeps it well-formed. -/
theorem WellFormed.schedule (hw : c.WellFormed) (now : Time) (offset : UInt64) (handler : H) :
    (c.schedule now offset handler).1.WellFormed := by
  rcases c.schedule_cases now offset handler with ⟨-, h⟩ | ⟨hwait, h⟩
  · rwa [h]
  · rw [h]
    exact ⟨fun _ he => hwait (.inl he), fun _ => rfl, fun _ => rfl, fun _ => rfl, by simp⟩

/-- `reschedule` keeps a controller well-formed. -/
theorem WellFormed.reschedule (hw : c.WellFormed) (clientId : UInt32) (transactionId : ℤ)
    (offset : Int32) (now : Time) :
    (c.reschedule clientId transactionId offset now).2.WellFormed := by
  obtain ⟨timeout, scheduled, h, hrun, hstop⟩ := c.reschedule_eq clientId transactionId offset now
  rw [h]
  exact ⟨hw.pending_nonempty, hw.handler_isSome, hw.timerJobValid,
    fun hr => hrun hr (hw.scheduled_running hr),
    fun hr => (hstop hr).trans (hw.scheduled_stopped hr)⟩

/-- The dispatch of the timer job stops a well-formed controller and calls its handler, as timed
out: the job is held by the pool only while the controller is running. -/
theorem WellFormed.dispatchTimer_eq (hw : c.WellFormed) (hsch : c.scheduled.isSome = true) :
    ∃ h, c.running = true ∧ c.handler = some h ∧
      c.dispatchTimer = ({ c with scheduled := none, running := false }, [⟨h, true, false⟩]) := by
  have hrun : c.running = true := by
    by_contra hrun
    rw [hw.scheduled_stopped (by simpa using hrun)] at hsch
    cases hsch
  obtain ⟨h, hh⟩ := hw.exists_handler hrun
  exact ⟨h, hrun, hh, by simp [dispatchTimer, hrun, callHandler, hh]⟩

end AckController

end PowerManager
