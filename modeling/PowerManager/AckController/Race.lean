import PowerManager.Implementation.Basic

/-!
# The race for the completion handler

The operations of `AckController.Basic` are single steps. In the code, the dispatch of the timer job
is not under `_apiLock`, and takes three steps: it promotes its weak reference to the controller,
tests `_running`, and then stores false and runs the handler. `Ack`, under `_apiLock`, takes two: it
tests `_running`, and then stores false and runs the handler. `SetPowerState` cancels a controller
under `_apiLock`, by dropping its reference.

The machine `race` has these steps. `ack_atomic` and `dispatchTimer_atomic` connect it to
`AckController.Basic`: without a step in between, they amount to the operations there.

The steps are safe but for two races (`Orderly`): a request is cancelled while the timer job holds a
reference, which keeps the controller alive and running; and the timer job and `Ack` both find
`_running` set. `handlers_safe` says what holds of every run without them.
-/

namespace PowerManager

/-- How far the dispatch of a timer job has got. The job holds a reference to the controller. -/
inductive TimerStage
  /-- The weak reference has been promoted. -/
  | promoted
  /-- `_running` has been found set. -/
  | tested
  deriving DecidableEq, Repr

/-- A controller that is alive, and the dispatch of its timer job, if that is under way. -/
structure Session (H : Type*) where
  controller : AckController H
  timer : Option TimerStage

/-- The controllers of `PowerManagerImplementation`, numbered by their transaction ids. -/
structure Race (H : Type*) where
  session : ℕ → Option (Session H)
  /-- The controller in `_modeChangeController`. -/
  current : Option ℕ
  /-- The controller that a `SetPowerState` call has created and not yet scheduled. -/
  call : Option ℕ
  /-- The controller that an `Ack` is about to complete. It holds `_apiLock`. -/
  acking : Option ℕ
  nextId : ℕ

namespace Race

variable {H : Type*}

/-- A call of the completion handler of a session. -/
abbrev Event (H : Type*) := ℕ × HandlerCall H

/-- The calls of the completion handler of the session `id`. -/
def calls (id : ℕ) (cs : List (HandlerCall H)) : List (Event H) :=
  cs.map (id, ·)

/-- A session changes or ends. -/
def set (r : Race H) (id : ℕ) (x : Option (Session H)) : Race H :=
  { r with session := Function.update r.session id x }

/-- The target of the controller in `_modeChangeController`. -/
def target? (r : Race H) : Option PowerState :=
  (r.current.bind r.session).map (·.controller.powerState)

/-- `_modeChangeController.reset()`, which destroys the controller unless its timer job holds a
reference. -/
def reset (r : Race H) : Race H × List (Event H) :=
  match r.current with
  | none => (r, [])
  | some id =>
    match r.session id with
    | some ⟨c, none⟩ => ({ r.set id none with current := none }, calls id c.revoke.2)
    | _ => ({ r with current := none }, [])

/-- The section of `SetPowerState` that cancels the old controller and creates the new one. -/
def create (r : Race H) (newState : PowerState) (clients : List UInt32) (now : Time) :
    Race H × List (Event H) :=
  let x := r.reset
  let c := clients.foldl AckController.ackAwait (.create newState r.nextId now)
  ({ x.1.set r.nextId (some ⟨c, none⟩) with
      current := some r.nextId
      call := some r.nextId
      nextId := r.nextId + 1 },
    x.2)

/-- `AckController::Ack` up to its test. -/
def ackTest (r : Race H) (id : ℕ) (s : Session H) (clientId : UInt32) (transactionId : ℤ) :
    Race H :=
  let c := s.controller
  if transactionId ≠ c.transactionId then r
  else if clientId ∉ c.pending then r
  else
    let c := { c with pending := c.pending.erase clientId }
    let r := r.set id (some ⟨c, s.timer⟩)
    if c.pending = ∅ ∧ c.running = true then { r with acking := some id } else r

/-- `AckController::Ack` after its test. -/
def ackFire (r : Race H) (id : ℕ) (s : Session H) : Race H × List (Event H) :=
  let x := { s.controller with running := false }.runHandler false
  ({ r.set id (some ⟨x.1, s.timer⟩) with acking := none }, calls id x.2)

/-- The timer job drops its reference. -/
def drop (r : Race H) (id : ℕ) (c : AckController H) : Race H × List (Event H) :=
  if r.current = some id then (r.set id (some ⟨c, none⟩), [])
  else (r.set id none, calls id c.revoke.2)

/-- The timer job tests `_running`. -/
def timerTest (r : Race H) (id : ℕ) (c : AckController H) : Race H × List (Event H) :=
  if c.running then (r.set id (some ⟨c, some .tested⟩), []) else r.drop id c

/-- The timer job stores false and runs the handler. -/
def timerFire (r : Race H) (id : ℕ) (c : AckController H) : Race H × List (Event H) :=
  let x := r.drop id { c with running := false }
  (x.1, calls id (c.callHandler true false) ++ x.2)

/-- The steps of the newer request, the acknowledging client, and the timer job. -/
inductive Label (H : Type*)
  | create (newState : PowerState) (clients : List UInt32) (now : Time)
  | schedule (now : Time) (offsetInMilliseconds : UInt64) (handler : H)
  | ackTest (clientId : UInt32) (transactionId : ℤ)
  | ackFire
  | promote (id : ℕ)
  | timerTest (id : ℕ)
  | timerFire (id : ℕ)

end Race

open Race in
/-- The controllers as a machine. `create` and `ackTest` need `_apiLock`, and `selfLock` keeps
`create` out while a call has yet to schedule its controller. -/
def race (H : Type*) : Machine (Race H) (Race.Label H) (Race.Event H) where
  step r
    | .create newState clients now =>
      -- `_apiLock` is free, and so is `selfLock`
      if r.acking = none ∧ r.call = none then
        if r.target? = some newState then some (r, []) else some (r.create newState clients now)
      else none
    | .schedule now offsetInMilliseconds handler =>
      match r.call, r.call.bind r.session with
      | some id, some s =>
        let x := s.controller.schedule now offsetInMilliseconds handler
        some ({ r.set id (some ⟨x.1, s.timer⟩) with call := none }, calls id x.2)
      | _, _ => none
    | .ackTest clientId transactionId =>
      -- `_apiLock` is free, and the implementation has a controller
      match r.acking, r.current, r.current.bind r.session with
      | none, some id, some s => some (r.ackTest id s clientId transactionId, [])
      | _, _, _ => none
    | .ackFire =>
      match r.acking, r.acking.bind r.session with
      | some id, some s => some (r.ackFire id s)
      | _, _ => none
    | .promote id =>
      match r.session id with
      | some ⟨c, none⟩ =>
        if c.scheduled.isSome then
          some (r.set id (some ⟨{ c with scheduled := none }, some .promoted⟩), [])
        else none
      | _ => none
    | .timerTest id =>
      match r.session id with
      | some ⟨c, some .promoted⟩ => some (r.timerTest id c)
      | _ => none
    | .timerFire id =>
      match r.session id with
      | some ⟨c, some .tested⟩ => some (r.timerFire id c)
      | _ => none

namespace Race

variable {H : Type*}

/-- Before the first request. -/
def initial : Race H where
  session := fun _ => none
  current := none
  call := none
  acking := none
  nextId := 0

variable {r r' : Race H} {es os : List (Event H)} {l : Label H}

/-- The content of a session after it has been set. -/
@[simp]
theorem set_session (r : Race H) (id j : ℕ) (x : Option (Session H)) :
    (r.set id x).session j = if j = id then x else r.session j := by
  simp [set, Function.update_apply]

/-- Setting a session to what it is changes nothing. -/
theorem set_of_session {id : ℕ} {s : Session H} (hs : r.session id = some s) :
    r.set id (some s) = r := by
  simp [set, ← hs]

/-- Setting a session twice is setting it once. -/
@[simp]
theorem set_set (r : Race H) (id : ℕ) (x y : Option (Session H)) :
    (r.set id x).set id y = r.set id y := by
  simp [set]

/-! ## The steps taken together -/

/-- The steps of `Ack`, with no other step between them, do what `AckController.ack` does. -/
theorem ack_atomic {id : ℕ} {s : Session H} {clientId : UInt32} {transactionId : ℤ}
    (hack : r.acking = none) (hcur : r.current = some id) (hs : r.session id = some s) :
    ∃ ls, (ls = [.ackTest clientId transactionId] ∨
        ls = [.ackTest clientId transactionId, .ackFire]) ∧
      (race H).Run r ls (calls id (s.controller.ack clientId transactionId).2.2)
        (r.set id (some ⟨(s.controller.ack clientId transactionId).2.1, s.timer⟩)) := by
  have hstep : (race H).step r (.ackTest clientId transactionId) =
      some (r.ackTest id s clientId transactionId, []) := by
    simp [race, hack, hcur, hs]
  rcases s.controller.ack_cases clientId transactionId with ⟨hbad, he⟩ | ⟨⟨htid, hmem⟩, hlast, he⟩ |
    ⟨⟨htid, hmem⟩, hlast, he⟩
  · refine ⟨_, .inl rfl, ?_⟩
    -- a number or a client that does not fit: nothing happens
    have htest : r.ackTest id s clientId transactionId = r := by
      unfold ackTest
      rcases hbad with htid | hmem
      · simp [htid]
      · simp [hmem]
    rw [he, set_of_session hs]
    rw [htest] at hstep
    exact .single hstep
  · refine ⟨_, .inr rfl, ?_⟩
    -- the last client: the handler is called in a second step
    have htest : r.ackTest id s clientId transactionId =
        { r.set id (some ⟨{ s.controller with pending := ∅ }, s.timer⟩) with
          acking := some id } := by
      simp [ackTest, htid, hmem, hlast]
    rw [htest] at hstep
    refine Machine.Run.cons hstep (.single ?_)
    rw [he]
    simp [race, ackFire, AckController.runHandler, AckController.callHandler, calls, set, hack]
  · refine ⟨_, .inl rfl, ?_⟩
    have htest : r.ackTest id s clientId transactionId = r.set id
        (some ⟨{ s.controller with pending := s.controller.pending.erase clientId }, s.timer⟩) := by
      simp [ackTest, htid, hmem, hlast]
    rw [he]
    rw [htest] at hstep
    exact .single hstep

/-- The steps of the timer job, with no other step between them, do what
`AckController.dispatchTimer` does. -/
theorem dispatchTimer_atomic {id : ℕ} {c : AckController H} (hcur : r.current = some id)
    (hs : r.session id = some ⟨c, none⟩) (hsch : c.scheduled.isSome = true) :
    ∃ ls, (ls = [.promote id, .timerTest id] ∨ ls = [.promote id, .timerTest id, .timerFire id]) ∧
      (race H).Run r ls (calls id c.dispatchTimer.2)
        (r.set id (some ⟨c.dispatchTimer.1, none⟩)) := by
  have hpromote : (race H).step r (.promote id) =
      some (r.set id (some ⟨{ c with scheduled := none }, some .promoted⟩), []) := by
    simp [race, hs, hsch]
  have hcur' : ∀ x, (r.set id x).current = some id := fun _ => hcur
  cases hrun : c.running with
  | false =>
    refine ⟨_, .inl rfl, Machine.Run.cons hpromote (.single ?_)⟩
    -- a job that finds the controller stopped does nothing
    simp [race, timerTest, drop, hrun, hcur', AckController.dispatchTimer, calls]
  | true =>
    have htest : (race H).step
        (r.set id (some ⟨{ c with scheduled := none }, some .promoted⟩)) (.timerTest id) =
          some (r.set id (some ⟨{ c with scheduled := none }, some .tested⟩), []) := by
      simp [race, timerTest, hrun]
    refine ⟨_, .inr rfl, Machine.Run.cons hpromote (Machine.Run.cons htest (.single ?_))⟩
    simp [race, timerFire, drop, hrun, hcur', AckController.dispatchTimer, calls,
      AckController.callHandler]

/-! ## What a step can do -/

/-- A controller as the constructor and `AckAwait` leave it. -/
structure IsNew (c : AckController H) : Prop where
  running : c.running = false
  scheduled : c.scheduled = none

/-- The steps, classified. -/
inductive StepCase (r : Race H) : Label H → Race H → List (Event H) → Prop
  /-- A repeated request. -/
  | repeated {n : PowerState} {clients : List UInt32} {now : Time} (h : r.target? = some n) :
      StepCase r (.create n clients now) r []
  /-- A request that cancels nothing: there is no controller, or the timer job keeps it alive. -/
  | created {n : PowerState} {clients : List UInt32} {now : Time} {c : AckController H}
      (hack : r.acking = none) (hcall : r.call = none) (hn : r.target? ≠ some n)
      (hold : ∀ id c, r.current = some id → r.session id ≠ some ⟨c, none⟩) (hnew : IsNew c) :
      StepCase r (.create n clients now)
        { r.set r.nextId (some ⟨c, none⟩) with
          current := some r.nextId
          call := some r.nextId
          nextId := r.nextId + 1 } []
  /-- A request that destroys the old controller. -/
  | cancelled {n : PowerState} {clients : List UInt32} {now : Time} {id : ℕ}
      {old c : AckController H}
      (hack : r.acking = none) (hcall : r.call = none) (hn : r.target? ≠ some n)
      (hcur : r.current = some id) (hs : r.session id = some ⟨old, none⟩) (hnew : IsNew c) :
      StepCase r (.create n clients now)
        { (r.set id none).set r.nextId (some ⟨c, none⟩) with
          current := some r.nextId
          call := some r.nextId
          nextId := r.nextId + 1 } (calls id old.revoke.2)
  /-- `Schedule` starts the timer, or runs the handler. -/
  | scheduled {now : Time} {offset : UInt64} {h : H} {id : ℕ} {s : Session H} {c : AckController H}
      {cs : List (HandlerCall H)} (hcall : r.call = some id) (hs : r.session id = some s)
      (hc : cs = [] ∧ c.running = true ∨ cs.length = 1 ∧ c = s.controller) :
      StepCase r (.schedule now offset h)
        { r.set id (some ⟨c, s.timer⟩) with call := none } (calls id cs)
  /-- `Ack` is refused, or there are others to wait for, or the controller is not running. -/
  | noted {clientId : UInt32} {transactionId : ℤ} {id : ℕ} {s : Session H} {c : AckController H}
      (hs : r.session id = some s) (hrun : c.running = s.controller.running)
      (hsch : c.scheduled = s.controller.scheduled) :
      StepCase r (.ackTest clientId transactionId) (r.set id (some ⟨c, s.timer⟩)) []
  /-- `Ack` is the last one, and finds `_running` set. -/
  | acked {clientId : UInt32} {transactionId : ℤ} {id : ℕ} {s : Session H} {c : AckController H}
      (hack : r.acking = none) (hcur : r.current = some id) (hs : r.session id = some s)
      (hrun : c.running = s.controller.running) (hsch : c.scheduled = s.controller.scheduled)
      (hrun' : s.controller.running = true) (htid : transactionId = s.controller.transactionId)
      (hlast : s.controller.pending.erase clientId = ∅) (hmem : clientId ∈ s.controller.pending) :
      StepCase r (.ackTest clientId transactionId)
        { r.set id (some ⟨c, s.timer⟩) with acking := some id } []
  | ackFired {id : ℕ} {s : Session H} {c : AckController H} (hack : r.acking = some id)
      (hs : r.session id = some s) (hrun : c.running = false) :
      StepCase r .ackFire { r.set id (some ⟨c, s.timer⟩) with acking := none }
        (calls id (s.controller.callHandler false false))
  | promoted {id : ℕ} {c c' : AckController H} (hs : r.session id = some ⟨c, none⟩)
      (hsch : c.scheduled.isSome = true) (hrun : c'.running = c.running) :
      StepCase r (.promote id) (r.set id (some ⟨c', some .promoted⟩)) []
  /-- The timer job finds `_running` set. -/
  | tested {id : ℕ} {c : AckController H} (hs : r.session id = some ⟨c, some .promoted⟩)
      (hrun : c.running = true) :
      StepCase r (.timerTest id) (r.set id (some ⟨c, some .tested⟩)) []
  /-- The timer job does not find `_running` set, and returns. -/
  | dropped {id : ℕ} {c : AckController H} {x : Option (Session H)}
      (hs : r.session id = some ⟨c, some .promoted⟩) (hrun : c.running = false)
      (hx : x = none ∨ x = some ⟨c, none⟩) :
      StepCase r (.timerTest id) (r.set id x) []
  | timedOut {id : ℕ} {c c' : AckController H} {x : Option (Session H)}
      (hs : r.session id = some ⟨c, some .tested⟩) (hrun : c'.running = false)
      (hx : x = none ∨ x = some ⟨c', none⟩) :
      StepCase r (.timerFire id) (r.set id x) (calls id (c.callHandler true false))

/-- A controller that has been created is new. -/
theorem isNew_create (clients : List UInt32) (newState : PowerState) (id : ℤ) (now : Time) :
    IsNew (H := H) (clients.foldl AckController.ackAwait (.create newState id now)) := by
  rw [AckController.foldl_ackAwait]
  exact ⟨rfl, rfl⟩

/-- `reset` destroys the controller that nobody else holds, or leaves it to its timer job. -/
theorem reset_cases (r : Race H) :
    (∃ id c, r.current = some id ∧ r.session id = some ⟨c, none⟩ ∧
      r.reset = ({ r.set id none with current := none }, calls id c.revoke.2)) ∨
    (∀ id c, r.current = some id → r.session id ≠ some ⟨c, none⟩) ∧
      r.reset = ({ r with current := none }, []) := by
  cases hcur : r.current with
  | none =>
    refine .inr ⟨nofun, ?_⟩
    have hsame : ({ r with current := none } : Race H) = r := by rw [← hcur]
    rw [hsame, reset, hcur]
  | some id =>
    by_cases hheld : ∃ c, r.session id = some ⟨c, none⟩
    · obtain ⟨c, hs⟩ := hheld
      refine .inl ⟨id, c, rfl, hs, ?_⟩
      rw [reset, hcur]
      simp only [hs]
    · refine .inr ⟨?_, ?_⟩
      · rintro id' c ⟨⟩ hs
        exact hheld ⟨c, hs⟩
      · rw [reset, hcur]
        dsimp only
        split
        · rename_i c hs
          exact absurd ⟨c, hs⟩ hheld
        · rfl

/-- The section of `SetPowerState`. -/
theorem create_cases {n : PowerState} (hack : r.acking = none) (hcall : r.call = none)
    (hn : r.target? ≠ some n) (clients : List UInt32) (now : Time) :
    StepCase r (.create n clients now) (r.create n clients now).1 (r.create n clients now).2 := by
  have hnew := isNew_create (H := H) clients n r.nextId now
  rcases r.reset_cases with ⟨id, c, hcur, hs, hreset⟩ | ⟨hold, hreset⟩
  · rw [create, hreset]
    exact .cancelled hack hcall hn hcur hs hnew
  · rw [create, hreset]
    exact .created hack hcall hn hold hnew

/-- `Ack` up to its test. -/
theorem ackTest_cases {id : ℕ} {s : Session H} (hack : r.acking = none)
    (hcur : r.current = some id) (hs : r.session id = some s) (clientId : UInt32)
    (transactionId : ℤ) :
    StepCase r (.ackTest clientId transactionId) (r.ackTest id s clientId transactionId) [] := by
  have hsame := @StepCase.noted _ r clientId transactionId _ _ _ hs rfl rfl
  rw [set_of_session hs] at hsame
  unfold ackTest
  dsimp only
  split
  · -- an acknowledgement for another transition, or of a client that is not waited for
    exact hsame
  · rename_i htid
    split
    · exact hsame
    · rename_i hmem
      split
      · rename_i hlast
        exact .acked hack hcur hs rfl rfl hlast.2 (not_not.mp htid) hlast.1 (not_not.mp hmem)
      · exact .noted hs rfl rfl

/-- The timer job drops its reference to a controller that is not running. -/
theorem drop_cases (r : Race H) (id : ℕ) {c : AckController H} (hrun : c.running = false) :
    ∃ x, r.drop id c = (r.set id x, []) ∧ (x = none ∨ x = some ⟨c, none⟩) := by
  unfold drop
  split
  · exact ⟨_, rfl, .inr rfl⟩
  · exact ⟨none, by simp [c.revoke_of_stopped hrun, calls], .inl rfl⟩

/-- Every step is one of the cases. -/
theorem step_cases (h : (race H).step r l = some (r', es)) : StepCase r l r' es := by
  cases l with
  | create n clients now =>
    simp only [race] at h
    split at h
    · rename_i hlock
      split at h
      · cases h
        exact .repeated ‹_›
      · rename_i hn
        have hcase := create_cases hlock.1 hlock.2 hn clients now
        rwa [Option.some.inj h] at hcase
    · cases h
  | schedule now offset hdl =>
    simp only [race] at h
    split at h
    · rename_i id s hcall hs
      rw [hcall, Option.bind_some] at hs
      -- `Schedule` starts the timer, or calls the handler at once
      rcases s.controller.schedule_cases now offset hdl with ⟨-, he⟩ | ⟨-, he⟩ <;>
        rw [he] at h <;> cases h
      · exact .scheduled hcall hs (.inr ⟨rfl, rfl⟩)
      · exact .scheduled hcall hs (.inl ⟨rfl, rfl⟩)
    · cases h
  | ackTest clientId transactionId =>
    simp only [race] at h
    split at h
    · rename_i id s hack hcur hs
      rw [hcur, Option.bind_some] at hs
      cases h
      exact ackTest_cases hack hcur hs clientId transactionId
    · cases h
  | ackFire =>
    simp only [race] at h
    split at h
    · rename_i id s hack hs
      rw [hack, Option.bind_some] at hs
      cases h
      exact .ackFired hack hs rfl
    · cases h
  | promote id =>
    simp only [race] at h
    split at h
    · rename_i c hs
      split at h
      · cases h
        exact .promoted hs ‹_› rfl
      · cases h
    · cases h
  | timerTest id =>
    simp only [race] at h
    split at h
    · rename_i c hs
      rw [Option.some.injEq, timerTest] at h
      split at h
      · cases h
        exact .tested hs ‹_›
      · rename_i hrun
        obtain ⟨x, hdrop, hx⟩ := r.drop_cases id (by simpa using hrun)
        rw [hdrop] at h
        cases h
        exact .dropped hs (by simpa using hrun) hx
    · cases h
  | timerFire id =>
    simp only [race] at h
    split at h
    · rename_i c hs
      obtain ⟨x, hdrop, hx⟩ := r.drop_cases id (c := { c with running := false }) rfl
      rw [Option.some.injEq, timerFire, hdrop] at h
      simp only [List.append_nil] at h
      cases h
      exact .timedOut hs rfl hx
    · cases h

/-! ## Who may run the handler -/

/-- How often the handler of the session `id` has been called. -/
def count (id : ℕ) (os : List (Event H)) : ℕ :=
  os.countP fun e => decide (e.1 = id)

@[simp]
theorem count_nil (id : ℕ) : count id ([] : List (Event H)) = 0 := rfl

@[simp]
theorem count_append (id : ℕ) (os os' : List (Event H)) :
    count id (os ++ os') = count id os + count id os' :=
  List.countP_append

@[simp]
theorem count_calls (id j : ℕ) (cs : List (HandlerCall H)) :
    count j (calls id cs) = if j = id then cs.length else 0 := by
  by_cases h : j = id
  · simp [count, calls, List.countP_map, h, Function.comp_def]
  · simp [count, calls, List.countP_map, h, Ne.symm h, Function.comp_def]

/-- Whether the controller in `_modeChangeController` is running. -/
def running (r : Race H) : Bool :=
  (r.current.bind r.session).any (·.controller.running)

/-- How far the timer job of the controller in `_modeChangeController` has got. -/
def timer? (r : Race H) : Option TimerStage :=
  (r.current.bind r.session).bind (·.timer)

/-- Whether an acknowledgement is the last one that the controller in `_modeChangeController` waits
for. -/
def isLastAck (r : Race H) (clientId : UInt32) (transactionId : ℤ) : Bool :=
  (r.current.bind r.session).any fun s =>
    decide (transactionId = s.controller.transactionId ∧ clientId ∈ s.controller.pending ∧
      s.controller.pending.erase clientId = ∅)

/-- The step loses no race: a running controller is not cancelled while its timer job holds a
reference, and `Ack` and the timer job do not both find `_running` set. -/
def Orderly (r : Race H) : Label H → Prop
  | .create n _ _ => r.target? ≠ some n → r.running = true → r.timer? = none
  | .ackTest clientId transactionId =>
    r.isLastAck clientId transactionId = true → r.timer? ≠ some .tested
  | .timerTest id => r.acking ≠ some id
  | _ => True

instance (r : Race H) (l : Label H) : Decidable (r.Orderly l) :=
  match l with
  | .create .. => inferInstanceAs (Decidable (_ → _ → _))
  | .ackTest .. => inferInstanceAs (Decidable (_ → _))
  | .timerTest _ => inferInstanceAs (Decidable (_ ≠ _))
  | .schedule .. | .ackFire | .promote _ | .timerFire _ => isTrue trivial

/-- What holds of a session that is alive after the calls `os`: as long as its controller is running
its handler has not been called, and at most one of the timer job and `Ack` is about to call it. -/
structure Live (os : List (Event H)) (r : Race H) (id : ℕ) (s : Session H) : Prop where
  lt : id < r.nextId
  running : s.controller.running = true →
    count id os = 0 ∧ r.current = some id ∧ r.call ≠ some id
  call : r.call = some id →
    count id os = 0 ∧ r.current = some id ∧ s.timer = none ∧ IsNew s.controller
  tested : s.timer = some .tested → s.controller.running = true ∧ r.acking ≠ some id
  acking : r.acking = some id → s.controller.running = true

/-- What holds of the session `id` after the calls `os`. -/
structure SessionInv (os : List (Event H)) (r : Race H) (id : ℕ) : Prop where
  once : count id os ≤ 1
  live : ∀ s, r.session id = some s → Live os r id s
  gone : r.session id = none → r.call ≠ some id ∧ r.acking ≠ some id
  unborn : r.nextId ≤ id → count id os = 0

/-- The invariant of a session that is alive. -/
theorem SessionInv.of_live {id : ℕ} (s : Session H) (hs : r.session id = some s)
    (hcount : count id os ≤ 1) (hlive : Live os r id s) : SessionInv os r id where
  once := hcount
  live s' hs' := by
    obtain rfl : s = s' := Option.some.inj (hs.symm.trans hs')
    exact hlive
  gone h := by simp [hs] at h
  unborn h := absurd hlive.lt (not_lt.mpr h)

/-- The invariant of a session that is over. -/
theorem SessionInv.of_none {id : ℕ} (hs : r.session id = none) (hcount : count id os ≤ 1)
    (hlt : id < r.nextId) (hcall : r.call ≠ some id) (hack : r.acking ≠ some id) :
    SessionInv os r id where
  once := hcount
  live s h := by simp [hs] at h
  gone _ := ⟨hcall, hack⟩
  unborn h := absurd hlt (not_lt.mpr h)

/-- A step that does not concern a session keeps its invariant. -/
theorem SessionInv.frame {id : ℕ} (hI : SessionInv os r id)
    (hs : r'.session id = r.session id) (hcur : r'.current = some id ↔ r.current = some id)
    (hcall : r'.call = some id ↔ r.call = some id)
    (hack : r'.acking = some id ↔ r.acking = some id) (hnext : r.nextId ≤ r'.nextId)
    (hes : count id es = 0) : SessionInv (os ++ es) r' id := by
  have hcount : count id (os ++ es) = count id os := by simp [hes]
  refine ⟨by rw [hcount]; exact hI.once, ?_, ?_, ?_⟩
  · rw [hs]
    intro s h
    obtain ⟨hlt, hrunning, hcall', htested, hacking⟩ := hI.live s h
    exact ⟨hlt.trans_le hnext, by rwa [hcount, hcur, Ne, hcall], by rwa [hcount, hcur, hcall],
      by rwa [Ne, hack], by rwa [hack]⟩
  · rw [hs, Ne, Ne, hcall, hack]
    exact hI.gone
  · rw [hcount]
    exact fun h => hI.unborn (hnext.trans h)

/-- A step that concerns one session keeps the invariant of all if it keeps the one of that
session. -/
theorem inv_of_session (id : ℕ) (hI : ∀ j, SessionInv os r j)
    (hs : ∀ j ≠ id, r'.session j = r.session j) (hcur : r'.current = r.current)
    (hcall : ∀ j ≠ id, (r'.call = some j ↔ r.call = some j))
    (hack : ∀ j ≠ id, (r'.acking = some j ↔ r.acking = some j)) (hnext : r'.nextId = r.nextId)
    (hes : ∀ j ≠ id, count j es = 0) (hid : SessionInv (os ++ es) r' id) :
    ∀ j, SessionInv (os ++ es) r' j := by
  intro j
  by_cases hj : j = id
  · exact hj ▸ hid
  · exact (hI j).frame (hs j hj) (by rw [hcur]) (hcall j hj) (hack j hj) hnext.ge (hes j hj)

/-- A controller calls its handler at most once in a step. -/
theorem length_callHandler_le (c : AckController H) (isTimedout isRevoked : Bool) :
    (c.callHandler isTimedout isRevoked).length ≤ 1 := by
  cases h : c.handler <;> simp [AckController.callHandler, h]

/-- A controller that is destroyed calls its handler at most once, and only if it is running. -/
theorem length_revoke_le (c : AckController H) :
    c.revoke.2.length ≤ 1 ∧ (c.running = false → c.revoke.2.length = 0) := by
  cases hrun : c.running with
  | false => simp [c.revoke_of_stopped hrun]
  | true =>
    refine ⟨?_, by simp⟩
    cases hjob : c.timerJobValid with
    | false => simp [AckController.revoke, hrun, hjob]
    | true =>
      simpa [AckController.revoke, hrun, hjob] using
        length_callHandler_le { c with running := false } false true

/-- `Schedule` keeps the invariant. -/
theorem inv_schedule {id : ℕ} {s : Session H} {c : AckController H} {cs : List (HandlerCall H)}
    (hI : ∀ j, SessionInv os r j) (hcall : r.call = some id) (hs : r.session id = some s)
    (hc : cs = [] ∧ c.running = true ∨ cs.length = 1 ∧ c = s.controller) :
    ∀ j, SessionInv (os ++ calls id cs)
      { r.set id (some ⟨c, s.timer⟩) with call := none } j := by
  have hlive := (hI id).live s hs
  obtain ⟨hcount, hcur, htimer, hnew⟩ := hlive.call hcall
  have hcount' : count id (os ++ calls id cs) = cs.length := by simp [hcount]
  have hack : r.acking ≠ some id := fun hack => by simpa [hnew.running] using hlive.acking hack
  refine inv_of_session id hI (fun j hj => by simp [hj]) rfl
    (fun j hj => by simp [hcall, Ne.symm hj]) (fun _ _ => Iff.rfl) rfl (fun j hj => by simp [hj])
    (.of_live ⟨c, s.timer⟩ (by simp) ?_ ⟨hlive.lt, fun hrun => ⟨?_, hcur, by simp⟩, by simp,
      by simp [htimer], fun h => absurd h hack⟩)
  · rcases hc with ⟨rfl, -⟩ | ⟨hlen, -⟩ <;> simp_all
  · rcases hc with ⟨rfl, -⟩ | ⟨-, rfl⟩
    · exact hcount'
    · simp [hnew.running] at hrun

/-- `Ack` up to its test keeps the invariant, if the timer job has not found `_running` set when
`Ack` does. -/
theorem inv_ackTest {id : ℕ} {s : Session H} {c : AckController H} {acking : Option ℕ}
    (hI : ∀ j, SessionInv os r j) (hs : r.session id = some s)
    (hrun : c.running = s.controller.running) (hsch : c.scheduled = s.controller.scheduled)
    (hack : acking = r.acking ∨ r.acking = none ∧ acking = some id ∧ s.controller.running = true ∧
      s.timer ≠ some .tested) :
    ∀ j, SessionInv (os ++ []) { r.set id (some ⟨c, s.timer⟩) with acking } j := by
  have hlive := (hI id).live s hs
  refine inv_of_session id hI (fun j hj => by simp [hj]) rfl (fun _ _ => Iff.rfl) ?_ rfl
    (fun _ _ => rfl) (.of_live ⟨c, s.timer⟩ (by simp) (by simpa using (hI id).once)
      ⟨hlive.lt, ?_, ?_, ?_, ?_⟩)
  · rintro j hj
    rcases hack with rfl | ⟨hnone, rfl, -⟩
    · rfl
    · simp [hnone, Ne.symm hj]
  · intro h
    rw [List.append_nil]
    exact hlive.running (hrun.symm.trans h)
  · intro hcall
    obtain ⟨hcount, hcur, htimer, hnew⟩ := hlive.call hcall
    exact ⟨by simpa using hcount, hcur, htimer, hrun.trans hnew.running, hsch.trans hnew.scheduled⟩
  · intro htested
    refine ⟨hrun.trans (hlive.tested htested).1, ?_⟩
    rcases hack with rfl | ⟨-, -, -, hne⟩
    · exact (hlive.tested htested).2
    · exact absurd htested hne
  · intro h
    rcases hack with rfl | ⟨-, -, hrun', -⟩
    · exact hrun.trans (hlive.acking h)
    · exact hrun.trans hrun'

/-- The end of `Ack`, or of the timer job, keeps the invariant if it stops the controller that it
calls the handler of. -/
theorem inv_fire {id : ℕ} {s : Session H} {x : Option (Session H)} {cs : List (HandlerCall H)}
    {acking : Option ℕ} (hI : ∀ j, SessionInv os r j) (hs : r.session id = some s)
    (hrun : s.controller.running = true) (hcs : cs.length ≤ 1)
    (hx : ∀ s', x = some s' → s'.controller.running = false ∧ s'.timer ≠ some .tested)
    (hack : ∀ j ≠ id, (acking = some j ↔ r.acking = some j)) (hack' : acking ≠ some id) :
    ∀ j, SessionInv (os ++ calls id cs) { r.set id x with acking } j := by
  have hlive := (hI id).live s hs
  obtain ⟨hcount, -, hcall⟩ := hlive.running hrun
  have hcount' : count id (os ++ calls id cs) ≤ 1 := by simpa [hcount] using hcs
  refine inv_of_session id hI (fun j hj => by simp [hj]) rfl (fun _ _ => Iff.rfl) hack rfl
    (fun j hj => by simp [hj]) ?_
  cases x with
  | none => exact .of_none (by simp) hcount' hlive.lt hcall hack'
  | some s' =>
    obtain ⟨hstop, htimer⟩ := hx s' rfl
    exact .of_live s' (by simp) hcount' ⟨hlive.lt, fun h => by simp [hstop] at h,
      fun h => absurd h hcall, fun h => absurd h htimer, fun h => absurd h hack'⟩

/-- The timer job keeps the invariant while it does not run the handler. -/
theorem inv_timer {id : ℕ} {s : Session H} {x : Option (Session H)} (hI : ∀ j, SessionInv os r j)
    (hs : r.session id = some s) (hcall : r.call ≠ some id)
    (hx : ∀ s', x = some s' → s'.controller.running = s.controller.running ∧
      (s'.timer = some .tested → s.controller.running = true ∧ r.acking ≠ some id))
    (hx' : x = none → s.controller.running = false) :
    ∀ j, SessionInv (os ++ []) (r.set id x) j := by
  have hlive := (hI id).live s hs
  have hcount : count id (os ++ []) ≤ 1 := by simpa using (hI id).once
  refine inv_of_session id hI (fun j hj => by simp [hj]) rfl (fun _ _ => Iff.rfl)
    (fun _ _ => Iff.rfl) rfl (fun _ _ => rfl) ?_
  cases x with
  | none =>
    refine .of_none (by simp) hcount hlive.lt hcall fun hack => ?_
    simpa [hx' rfl] using hlive.acking hack
  | some s' =>
    obtain ⟨hrun, htested⟩ := hx s' rfl
    refine .of_live s' (by simp) hcount ⟨hlive.lt, ?_, fun h => absurd h hcall, ?_, ?_⟩
    · rw [hrun, List.append_nil]
      exact hlive.running
    · rw [hrun]
      exact htested
    · rw [hrun]
      exact hlive.acking

/-- `SetPowerState` keeps the invariant if it leaves no old controller running. -/
theorem inv_create {c : AckController H} {session : ℕ → Option (Session H)}
    (hI : ∀ j, SessionInv os r j) (hack : r.acking = none) (hnew : IsNew c)
    (hsession : ∀ j, session j = none ∧ j < r.nextId ∨ session j = r.session j)
    (hstop : ∀ j s, session j = some s → s.controller.running = false)
    (hes : ∀ j, count j (os ++ es) ≤ 1) (hfresh : ∀ j ≥ r.nextId, count j es = 0) :
    ∀ j, SessionInv (os ++ es)
      { { r with session }.set r.nextId (some ⟨c, none⟩) with
        current := some r.nextId
        call := some r.nextId
        nextId := r.nextId + 1 } j := by
  intro j
  have hack' : ∀ j, r.acking ≠ some j := by simp [hack]
  -- the session that begins, and the others
  by_cases hj : j = r.nextId
  · subst hj
    have hcount : count r.nextId (os ++ es) = 0 := by
      simp [(hI r.nextId).unborn le_rfl, hfresh _ le_rfl]
    exact .of_live ⟨c, none⟩ (by simp) (hes _) ⟨by simp, fun h => by simp [hnew.running] at h,
      fun _ => ⟨hcount, rfl, rfl, hnew⟩, by simp, fun h => absurd h (hack' _)⟩
  · have hcall : some r.nextId ≠ some j := by simpa using Ne.symm hj
    have hs : ∀ x, ({ r with session }.set r.nextId x).session j = session j := by simp [hj]
    refine ⟨hes j, ?_, fun _ => ⟨hcall, hack' j⟩, fun h => ?_⟩
    · intro s h
      replace h : session j = some s := (hs _).symm.trans h
      have hold : r.session j = some s := by
        rcases hsession j with ⟨hnone, -⟩ | hsame
        · simp [hnone] at h
        · exact hsame ▸ h
      have hlive := (hI j).live s hold
      have hstop' := hstop j s h
      exact ⟨hlive.lt.trans (Nat.lt_succ_self _), fun h => by simp [hstop'] at h,
        fun h => absurd h hcall, fun h => by simpa [hstop'] using (hlive.tested h).1,
        fun h => absurd h (hack' j)⟩
    · have hle : r.nextId ≤ j := Nat.le_of_succ_le h
      simp [(hI j).unborn hle, hfresh j hle]

/-- The controller in `_modeChangeController`. -/
theorem current_session {id : ℕ} {s : Session H} (hcur : r.current = some id)
    (hs : r.session id = some s) : r.current.bind r.session = some s := by
  rw [hcur, Option.bind_some, hs]

/-- Every orderly step keeps the invariant. -/
theorem inv_step (hI : ∀ j, SessionInv os r j) (hl : r.Orderly l)
    (h : (race H).step r l = some (r', es)) : ∀ j, SessionInv (os ++ es) r' j := by
  cases step_cases h with
  | repeated => simpa using hI
  | created hack hcall hn hold hnew =>
    refine inv_create hI hack hnew (fun j => .inr rfl) (fun j s hs => ?_)
      (by simpa using fun j => (hI j).once) (fun _ _ => rfl)
    -- a running controller would be the current one, and held by its timer job
    by_contra hrun
    obtain ⟨-, hcur, -⟩ := ((hI j).live s hs).running (by simpa using hrun)
    have hcurrent := current_session hcur hs
    have htimer := hl hn (by simpa [running, hcurrent] using hrun)
    rcases s with ⟨c, t⟩
    obtain rfl : t = none := by simpa [timer?, hcurrent] using htimer
    exact hold j c hcur hs
  | @cancelled n clients now id old c hack hcall hn hcur hs hnew =>
    have hlive := (hI id).live _ hs
    obtain ⟨hlen, hlen'⟩ := length_revoke_le old
    have hsession : ∀ j, Function.update r.session id none j = none ∧ j < r.nextId ∨
        Function.update r.session id none j = r.session j := by
      intro j
      by_cases hj : j = id
      · exact .inl ⟨by simp [hj], hj ▸ hlive.lt⟩
      · exact .inr (by simp [hj])
    refine inv_create hI hack hnew hsession (fun j s hj => ?_) (fun j => ?_) (fun j hj => ?_)
    · by_cases hid : j = id
      · simp [hid] at hj
      · -- only the current controller runs, and that is destroyed
        rw [Function.update_of_ne hid] at hj
        by_contra hrun
        obtain ⟨-, hcur', -⟩ := ((hI j).live s hj).running (by simpa using hrun)
        exact hid (Option.some.inj (hcur'.symm.trans hcur))
    · by_cases hid : j = id
      · subst hid
        cases hrun : old.running with
        | false => simpa [hlen' hrun] using (hI j).once
        | true => simpa [(hlive.running hrun).1] using hlen
      · simpa [hid] using (hI j).once
    · simp [(hlive.lt.trans_le hj).ne']
  | scheduled hcall hs hc => exact inv_schedule hI hcall hs hc
  | noted hs hrun hsch => exact inv_ackTest hI hs hrun hsch (.inl rfl)
  | @acked clientId transactionId id s c hack hcur hs hrun hsch hrun' htid hlast hmem =>
    have hcurrent := current_session hcur hs
    refine inv_ackTest hI hs hrun hsch (.inr ⟨hack, rfl, hrun', ?_⟩)
    have htimer := hl (by simp [isLastAck, hcurrent, htid, hlast, hmem])
    simpa [timer?, hcurrent] using htimer
  | @ackFired id s c hack hs hrun =>
    have hlive := (hI id).live s hs
    -- `Ack` has found the controller running, and the timer job has not
    refine inv_fire hI hs (hlive.acking hack) (length_callHandler_le _ _ _) ?_
      (fun j hj => by simp [hack, Ne.symm hj]) (by simp)
    rintro s' hs'
    obtain rfl := Option.some.inj hs'
    exact ⟨hrun, fun htested => (hlive.tested htested).2 hack⟩
  | @promoted id c c' hs hsch hrun =>
    have hlive := (hI id).live _ hs
    refine inv_timer hI hs (fun hcall => ?_) (by simp [hrun]) (by simp)
    -- a controller that `SetPowerState` has still to schedule has no timer
    have hnew : IsNew c := (hlive.call hcall).2.2.2
    simp [hnew.scheduled] at hsch
  | @tested id c hs hrun =>
    have hlive := (hI id).live _ hs
    have hack : r.acking ≠ some id := hl
    exact inv_timer hI hs (hlive.running hrun).2.2 (by simp [hrun, hack]) (by simp)
  | @dropped id c x hs hrun hx =>
    have hlive := (hI id).live _ hs
    refine inv_timer hI hs (fun hcall => ?_) ?_ (fun _ => hrun)
    · simpa using (hlive.call hcall).2.2.1
    · rcases hx with rfl | rfl <;> simp
  | @timedOut id c c' x hs hrun hx =>
    have hlive := (hI id).live _ hs
    -- the timer job has found the controller running, and `Ack` has not
    obtain ⟨hrun', hack⟩ := hlive.tested rfl
    refine inv_fire hI hs hrun' (length_callHandler_le _ _ _) ?_ (fun _ _ => Iff.rfl) hack
    rcases hx with rfl | rfl <;> simp [hrun]

/-- Before the first request the invariant holds. -/
theorem inv_initial (id : ℕ) : SessionInv ([] : List (Event H)) initial id :=
  ⟨by simp, by simp [initial], by simp [initial], fun _ => rfl⟩

/-- The invariant holds after every run of orderly steps. -/
theorem inv_run {ls : List (Label H)} (h : (race H).Run initial ls os r)
    (hC : (race H).Along Orderly initial ls) : ∀ id, SessionInv os r id :=
  h.induction_along (I := fun _ os r => ∀ id, SessionInv os r id) hC inv_initial
    fun _ _ _ _ _ _ _ hI hl hstep => inv_step hI hl hstep

/-! ## Cancelled requests -/

/-- The step cancels the request of the session `id` while that is pending. -/
def Cancels (r : Race H) (l : Label H) (id : ℕ) : Prop :=
  ∃ n clients now, l = .create n clients now ∧ r.target? ≠ some n ∧ r.current = some id ∧
    r.running = true

@[simp]
theorem mem_calls {id j : ℕ} {cs : List (HandlerCall H)} {call : HandlerCall H} :
    (j, call) ∈ calls id cs ↔ j = id ∧ call ∈ cs := by
  simp [calls, and_comm, eq_comm]

/-- A controller that is destroyed calls its handler as revoked. -/
theorem isRevoked_of_mem_revoke {c : AckController H} {call : HandlerCall H}
    (h : call ∈ c.revoke.2) : call.isRevoked = true := by
  cases hrun : c.running with
  | false => simp [c.revoke_of_stopped hrun] at h
  | true =>
    cases hjob : c.timerJobValid with
    | false => simp [AckController.revoke, hrun, hjob] at h
    | true =>
      obtain ⟨hdl, -, rfl⟩ : ∃ hdl, c.handler = some hdl ∧ ⟨hdl, false, true⟩ = call := by
        simpa [AckController.revoke, hrun, hjob, AckController.callHandler] using h
      rfl

/-- A session that is over stays over, and its handler is not called again. -/
theorem gone_step {id : ℕ} (hgone : r.session id = none) (hlt : id < r.nextId)
    (h : (race H).step r l = some (r', es)) :
    (r'.session id = none ∧ id < r'.nextId) ∧ ∀ call, (id, call) ∉ es := by
  have hne : ∀ j s, r.session j = some s → id ≠ j := by
    rintro j s hs rfl
    simp [hgone] at hs
  cases step_cases h with
  | repeated => exact ⟨⟨hgone, hlt⟩, by simp⟩
  | created => exact ⟨⟨by simp [hlt.ne, hgone], hlt.trans (Nat.lt_succ_self _)⟩, by simp⟩
  | cancelled hack hcall hn hcur hs =>
    exact ⟨⟨by simp [hlt.ne, hgone], hlt.trans (Nat.lt_succ_self _)⟩, by simp [hne _ _ hs]⟩
  | scheduled hcall hs => exact ⟨⟨by simp [hne _ _ hs, hgone], hlt⟩, by simp [hne _ _ hs]⟩
  | noted hs => exact ⟨⟨by simp [hne _ _ hs, hgone], hlt⟩, by simp⟩
  | acked hack hcur hs => exact ⟨⟨by simp [hne _ _ hs, hgone], hlt⟩, by simp⟩
  | ackFired hack hs => exact ⟨⟨by simp [hne _ _ hs, hgone], hlt⟩, by simp [hne _ _ hs]⟩
  | promoted hs => exact ⟨⟨by simp [hne _ _ hs, hgone], hlt⟩, by simp⟩
  | tested hs => exact ⟨⟨by simp [hne _ _ hs, hgone], hlt⟩, by simp⟩
  | dropped hs => exact ⟨⟨by simp [hne _ _ hs, hgone], hlt⟩, by simp⟩
  | timedOut hs => exact ⟨⟨by simp [hne _ _ hs, hgone], hlt⟩, by simp [hne _ _ hs]⟩

/-- The handler of a session that is over is not called in any run. -/
theorem gone_run {id : ℕ} {ls : List (Label H)} (hgone : r.session id = none) (hlt : id < r.nextId)
    (h : (race H).Run r ls es r') :
    (r'.session id = none ∧ id < r'.nextId) ∧ ∀ call, (id, call) ∉ es := by
  induction h with
  | nil => exact ⟨⟨hgone, hlt⟩, by simp⟩
  | snoc _ hstep ih =>
    obtain ⟨⟨hgone', hlt'⟩, hcalls⟩ := ih
    obtain ⟨hend, hcalls'⟩ := gone_step hgone' hlt' hstep
    exact ⟨hend, fun call => by simp [hcalls call, hcalls' call]⟩

/-- An orderly step that cancels a pending request destroys its controller, which calls the handler
at most as revoked. -/
theorem cancels_step {id : ℕ} (hI : ∀ j, SessionInv os r j) (hl : r.Orderly l)
    (hcancel : r.Cancels l id) (h : (race H).step r l = some (r', es)) :
    (r'.session id = none ∧ id < r'.nextId) ∧
      ∀ call, (id, call) ∈ es → call.isRevoked = true := by
  obtain ⟨n, clients, now, rfl, hn, hcur, hrun⟩ := hcancel
  obtain ⟨⟨c, t⟩, hs, hrun'⟩ : ∃ s, r.session id = some s ∧ s.controller.running = true := by
    simpa [running, hcur, Option.any_eq_true] using hrun
  have htimer : t = none := by simpa [timer?, hcur, hs] using hl hn hrun
  subst htimer
  have hlt := ((hI id).live _ hs).lt
  cases step_cases h with
  | repeated hsame => exact absurd hsame hn
  -- the old controller would have survived its timer job only
  | created _ _ _ hold => exact absurd hs (hold id c hcur)
  | @cancelled _ _ _ id' _ _ _ _ _ hcur' hs' =>
    obtain rfl : id = id' := Option.some.inj (hcur.symm.trans hcur')
    exact ⟨⟨by simp [hlt.ne], hlt.trans (Nat.lt_succ_self _)⟩,
      fun call hcall => isRevoked_of_mem_revoke (by simpa using hcall)⟩

/-- The completion handler of `SetPowerState` changes the power state only if it is not revoked. -/
theorem not_applied_of_isRevoked {call : HandlerCall CompletionHandler}
    (h : call.isRevoked = true) (pm : Implementation) (env : Environment) (n : PowerState)
    (e : ErrorCode) : .applied n e ∉ (pm.completionHandler env call).2 := by
  cases hs : call.handler.isSync <;> simp [Implementation.completionHandler, h, hs]

/-- In every run whose steps lose no race, each completion handler is called at most once, and the
handler of a request that has been cancelled while it was pending never changes the power state. -/
theorem handlers_safe {ls : List (Label CompletionHandler)} {r : Race CompletionHandler}
    {os : List (Event CompletionHandler)} (h : (race CompletionHandler).Run initial ls os r)
    (hC : (race CompletionHandler).Along Orderly initial ls) :
    (∀ id, count id os ≤ 1) ∧
      ∀ pre l post os₁ os₂ os₃ t u id, ls = pre ++ l :: post →
        (race CompletionHandler).Run initial pre os₁ t →
        (race CompletionHandler).step t l = some (u, os₂) →
        (race CompletionHandler).Run u post os₃ r → t.Cancels l id →
        ∀ call, (id, call) ∈ os₂ ++ os₃ → ∀ pm env n e,
          .applied n e ∉ (Implementation.completionHandler pm env call).2 := by
  refine ⟨fun id => (inv_run h hC id).once, ?_⟩
  rintro pre l post os₁ os₂ os₃ t u id rfl hpre hstep hpost hcancel call hcall
  have hI := inv_run hpre hC.left
  obtain ⟨⟨hgone, hlt⟩, hrevoked⟩ := cancels_step hI (hC pre l post os₁ t rfl hpre) hcancel hstep
  obtain ⟨-, hnone⟩ := gone_run hgone hlt hpost
  -- the call of the step itself is a revocation, and none follows
  rcases List.mem_append.mp hcall with hcall | hcall
  · exact not_applied_of_isRevoked (hrevoked call hcall)
  · exact absurd hcall (hnone call)

/-- A request is cancelled while its timer is running, and the next one completes at once. -/
theorem handlers_safe_of_cancel :
    ∃ r os, (race CompletionHandler).Run initial [.create .standby [1] 0,
        .schedule 0 1000 ⟨.on, .standby, false⟩, .create .off [] 0,
        .schedule 0 1000 ⟨.on, .off, false⟩] os r ∧
      os = [(0, ⟨⟨.on, .standby, false⟩, false, true⟩), (1, ⟨⟨.on, .off, false⟩, false, false⟩)] ∧
      ∀ id, count id os ≤ 1 := by
  refine ⟨_, _, Machine.run_of_exec rfl, rfl, ?_⟩
  refine (@handlers_safe [.create .standby [1] 0, .schedule 0 1000 ⟨.on, .standby, false⟩,
    .create .off [] 0, .schedule 0 1000 ⟨.on, .off, false⟩] _ _ (Machine.run_of_exec rfl)
    (Machine.along_of_check ?_)).1
  decide

/-- If the timer job and `Ack` both find `_running` set, the handler is called twice; and a request
that is cancelled after its timer job has started is applied all the same. -/
theorem races_lost :
    (∃ r os, (race CompletionHandler).Run initial [.create .standby [1] 0,
        .schedule 0 1000 ⟨.on, .standby, false⟩, .promote 0, .timerTest 0, .ackTest 1 0, .ackFire,
        .timerFire 0] os r ∧ count 0 os = 2) ∧
    ∃ t u r os₁ os₂ os₃ call, (race CompletionHandler).Run initial [.create .standby [1] 0,
        .schedule 0 1000 ⟨.on, .standby, false⟩, .promote 0] os₁ t ∧
      t.Cancels (.create .off [] 0) 0 ∧
      (race CompletionHandler).step t (.create .off [] 0) = some (u, os₂) ∧
      (race CompletionHandler).Run u [.timerTest 0, .timerFire 0] os₃ r ∧ (0, call) ∈ os₃ ∧
      .applied .standby .errorNone ∈
        (Implementation.completionHandler (.initial .isOn 0 0) .accepts call).2 := by
  refine ⟨⟨_, _, Machine.run_of_exec rfl, rfl⟩, ?_⟩
  have hpre : (race CompletionHandler).Run initial [.create .standby [1] 0,
      .schedule 0 1000 ⟨.on, .standby, false⟩, .promote 0] _ _ := Machine.run_of_exec rfl
  refine ⟨_, _, _, _, _, _, _, hpre, ⟨_, _, _, rfl, by decide, rfl, rfl⟩, rfl,
    Machine.run_of_exec rfl, List.mem_singleton.mpr rfl, ?_⟩
  decide

end Race

end PowerManager
