import PowerManager.Client.Basic
import PowerManager.JoinMachine

/-!
# The locks of the client library

The threads of a client take three recursive locks: `_cApiLock` for the whole of a call of the C
API, `_internalApiLock` for what the call does to the connection or asks the plugin, and
`_callbackLock` for the callback lists. The monitor thread, which `Connect` starts, handles the
changes of the file with Thunder's process id, and Thunder notifies on threads of its own. Each way
through a call is the list of its acts; the functions below are the functions of the code. Clients
do not call back.

`PowerController_Term` holds `_internalApiLock` while it waits for the end of the monitor thread.
The wakeup that it sends reaches the monitor in `poll`, but not in `pidChangedCb`: if the monitor
has still to take `_internalApiLock` there, the two wait for each other.

`termination_deadlockFree` says that nothing else goes wrong: all other acts take the locks in
order. `running_connect` and `running_disconnect` compare the life of the monitor thread with the
model of the class.
-/

namespace PowerManager.Client.Termination

/-- The locks. -/
inductive Lock
  | cApiLock
  | internalApiLock
  | callbackLock
  deriving DecidableEq, Repr

/-- The threads: the monitor of the process id, those of the client, and those of Thunder. -/
inductive ThreadId
  | monitor
  | caller (n : ℕ)
  | thunder (n : ℕ)
  deriving DecidableEq, Repr

open Termination.Lock

/-- An act of a thread. -/
abbrev Act := JoinAct ThreadId Lock

/-- What `BaseClass::Open` or `BaseClass::Close` does: the operational states that it notifies on
the calling thread, each with what `_shutdown` is then, and whether it succeeds. -/
structure Channel where
  notified : List Bool
  succeeds : Bool
  deriving DecidableEq, Repr

/-- `Operational`. No callback is called once the object is shut down. -/
def operational (shutdown : Bool) : List Act :=
  underLock internalApiLock [] ++ if !shutdown then underLock callbackLock [] else []

/-- The operational states that `BaseClass::Open` or `BaseClass::Close` notifies. -/
def operationals : List Bool → List Act
  | [] => []
  | shutdown :: rest => operational shutdown ++ operationals rest

/-- `Connect`, which opens the channel unless it is open already. `PIDFileMonitor::Run` starts the
monitor thread if it is not running. -/
def connect (channel : Option Channel) : List Act :=
  underLock internalApiLock
    (channel.elim [] fun ch =>
      operationals ch.notified ++ if ch.succeeds then [.spawn .monitor] else [])

/-- `Disconnect`, which closes the channel if it is open. `PIDFileMonitor::Stop` joins the monitor
thread if it is running. -/
def disconnect (shutdown : Bool) (channel : Option Channel) : List Act :=
  underLock internalApiLock
    ((if shutdown then [.join .monitor] else []) ++
      channel.elim [] fun ch => operationals ch.notified)

/-- The destructor. -/
def destructor (channel : Option Channel) : List Act :=
  disconnect true channel

/-- `pidChangedCb`. -/
def pidChangedCb (closed opened : Option Channel) : List Act :=
  disconnect false closed ++ connect opened

/-- `Init`, which creates the object if there is none. Its constructor connects. -/
def init (new : Option Channel) : List Act :=
  underLock internalApiLock (new.elim [] fun ch => connect (some ch))

/-- `Term`, which destroys the object if there is one. -/
def term (object : Option (Option Channel)) : List Act :=
  underLock internalApiLock (object.elim [] destructor)

/-- `Instance`, which calls `Init` if there is no object. -/
def getInstance (new : Option Channel) : List Act :=
  new.elim [] fun ch => init (some ch)

/-- What a function of the C API does under `_cApiLock`, with what decides which way it goes. -/
inductive Api
  | init (new : Option Channel)
  | term (object : Option (Option Channel))
  | connect (new channel : Option Channel)
  | disconnect (new channel : Option Channel)
  | isOperational (new : Option Channel)
  /-- `Disconnect`, `IsOperational` and the functions that unregister a callback, if the flag
  `initialized` is not set. -/
  | uninitialized
  /-- A request to the plugin, which is not made if an argument is null. -/
  | request (new : Option Channel) (valid : Bool)
  /-- A callback, which may be null, is registered or unregistered. -/
  | callback (new : Option Channel) (valid : Bool)
  deriving DecidableEq, Repr

/-- The acts under `_cApiLock`. -/
def Api.acts : Api → List Act
  | .init new => Termination.init new
  | .term object => Termination.term object
  | .connect new channel => getInstance new ++ Termination.connect channel
  | .disconnect new channel => getInstance new ++ Termination.disconnect false channel
  | .isOperational new => getInstance new
  | .uninitialized => []
  | .request new valid => getInstance new ++ if valid then underLock internalApiLock [] else []
  | .callback new valid => getInstance new ++ if valid then underLock callbackLock [] else []

/-- The calls. -/
inductive Call
  | api (a : Api)
  | destructor (channel : Option Channel)
  | operational (shutdown : Bool)
  /-- A notification of the plugin, which leads to `NotifyPowerModeChanged` or a sibling. -/
  | notification
  /-- The process id file has been written: what `pidChangedCb` does with the channel, unless there
  is no id in the file or it is the old one. -/
  | pidFile (changed : Option (Option Channel × Option Channel))
  /-- `monitorThread` returns. -/
  | ends
  deriving DecidableEq, Repr

/-- What the calls do with the locks and the monitor thread. -/
def Call.acts : Call → List Act
  | .api a => underLock cApiLock a.acts
  | .destructor channel => Termination.destructor channel
  | .operational shutdown => Termination.operational shutdown
  | .notification => underLock callbackLock []
  | .pidFile changed => changed.elim [] fun p => pidChangedCb p.1 p.2
  | .ends => [.exit]

/-- The client calls the C API, and Thunder notifies. -/
def mayCall : ThreadId → Call → Bool
  | .monitor, .pidFile _ | .monitor, .ends => true
  | .caller _, .api _ | .caller _, .destructor _ => true
  | .thunder _, .operational _ | .thunder _, .notification => true
  | _, _ => false

/-- The threads and the locks of the client library. -/
def client : JoinProgram ThreadId Lock Call where
  mayCall := mayCall
  acts := Call.acts

/-- Nothing is locked, no thread is in a call, and there is no monitor thread. -/
def initial : JoinState ThreadId Lock where
  owner _ := none
  held _ := []
  todo _ := []
  life t := if t = .monitor then .absent else .alive

/-- A label of the machine. -/
abbrev Label := LockLabel ThreadId Call

/-! ## The monitor thread in the model of the class -/

section Monitor

variable {F U : Type}

/-- What `Connect` does with the channel. -/
def ofOpening (pc : PowerController F U) (o : Opening) : Option Channel :=
  if pc.connected then none
  else some ⟨o.notified.map fun _ => pc.shutdown, decide (o.result = some .errorNone)⟩

/-- What `Disconnect` does with the channel. -/
def ofClosing (pc : PowerController F U) (c : Closing) : Option Channel :=
  if pc.connected then
    some ⟨c.notified.map fun _ => pc.shutdown, decide (c.result = .errorNone)⟩
  else none

/-- Operational states take and release locks, and do nothing else. -/
theorem exists_lock_of_mem_operationals {notified : List Bool} {a : Act}
    (h : a ∈ operationals notified) : ∃ l, a = .lock l ∨ a = .unlock l := by
  induction notified with
  | nil => cases h
  | cons shutdown rest ih =>
    rcases List.mem_append.mp h with h | h
    · cases shutdown
      · -- the callbacks are told as well
        have hcases : a = .lock internalApiLock ∨ a = .unlock internalApiLock ∨
            a = .lock callbackLock ∨ a = .unlock callbackLock := by
          simpa [operational, underLock] using h
        rcases hcases with rfl | rfl | rfl | rfl <;> simp
      · have hcases : a = .lock internalApiLock ∨ a = .unlock internalApiLock := by
          simpa [operational, underLock] using h
        exact ⟨_, hcases⟩
    · exact ih h

/-- `Connect` starts the monitor thread if it opens the channel. -/
theorem spawn_mem_connect {channel : Option Channel} :
    .spawn .monitor ∈ connect channel ↔ ∃ ch ∈ channel, ch.succeeds = true := by
  have hnotified : ∀ notified, .spawn .monitor ∉ operationals notified := by
    intro notified h
    obtain ⟨l, heq | heq⟩ := exists_lock_of_mem_operationals h <;> cases heq
  cases channel with
  | none => simp [connect, underLock]
  | some ch => cases hsucceeds : ch.succeeds <;> simp [connect, underLock, hnotified, hsucceeds]

/-- `Disconnect` joins the monitor thread if the object is shut down. -/
theorem join_mem_disconnect {shutdown : Bool} {channel : Option Channel} :
    .join .monitor ∈ disconnect shutdown channel ↔ shutdown = true := by
  have hnotified : ∀ notified, .join .monitor ∉ operationals notified := by
    intro notified h
    obtain ⟨l, heq | heq⟩ := exists_lock_of_mem_operationals h <;> cases heq
  cases shutdown <;> cases channel <;> simp [disconnect, underLock, hnotified]

/-- The monitor runs after `Connect` if it did before, or if `Connect` starts it. -/
theorem running_connect (pc : PowerController F U) (o : Opening)
    (hshutdown : pc.pidMonitor.shutdown = false) :
    (pc.connect o).2.1.pidMonitor.running = true ↔
      pc.pidMonitor.running = true ∨ .spawn .monitor ∈ connect (ofOpening pc o) := by
  have hopen := PowerController.pidMonitor_operationals pc o.notified
  rw [spawn_mem_connect]
  unfold PowerController.connect ofOpening
  by_cases hconnected : pc.connected = true
  · simp [hconnected]
  -- the channel is opened, and the monitor runs if that succeeds
  rw [if_neg hconnected, if_neg hconnected]
  cases hresult : o.result with
  | none => simp [hopen]
  | some r =>
    by_cases hok : r = .errorNone
    · subst hok
      cases hrunning : pc.pidMonitor.running <;>
        simp [hopen, hrunning, PIDFileMonitor.run, PIDFileMonitor.PID, hshutdown]
    · simp [hopen, hok]

/-- The monitor runs after `Disconnect` if it did before, and `Disconnect` does not join it. -/
theorem running_disconnect (pc : PowerController F U) (shutdown : Bool) (c : Closing) :
    (pc.disconnect shutdown c).2.1.pidMonitor.running = true ↔
      pc.pidMonitor.running = true ∧
        .join .monitor ∉ disconnect shutdown (ofClosing pc c) := by
  have hclose : ∀ pc : PowerController F U, (pc.closeChannel c).2.1.pidMonitor = pc.pidMonitor := by
    intro pc
    unfold PowerController.closeChannel
    split
    · exact PowerController.pidMonitor_operationals pc c.notified
    · rfl
  rw [join_mem_disconnect]
  unfold PowerController.disconnect
  split
  · rename_i hstop
    rw [Bool.and_eq_true] at hstop
    rw [hclose]
    simp [PIDFileMonitor.stop, hstop.1]
  · rename_i hstop
    rw [Bool.and_eq_true, not_and] at hstop
    rw [hclose]
    exact ⟨fun hrunning => ⟨hrunning, fun hshutdown => hstop hshutdown hrunning⟩, And.left⟩

end Monitor

/-! ## Order of the calls -/

/-- The order in which the locks are taken. -/
def rank : Lock → ℕ
  | cApiLock => 0
  | internalApiLock => 1
  | callbackLock => 2

/-- What the monitor thread may wait for beside the locks that it holds: a lock above them. It does
without `_cApiLock`, and waits for no thread. -/
def AllowedMonitor (held : List Lock) : Awaited ThreadId Lock → Prop
  | .lock l => l ≠ cApiLock ∧ ∀ l' ∈ held, rank l' < rank l
  | .ending _ => False

/-- What the other threads may wait for: a lock above those that they hold or, with
`_internalApiLock` but without `_callbackLock`, the end of the monitor thread. -/
def AllowedOthers (held : List Lock) : Awaited ThreadId Lock → Prop
  | .lock l => ∀ l' ∈ held, rank l' < rank l
  | .ending u => u = .monitor ∧ internalApiLock ∈ held ∧ callbackLock ∉ held

/-- What a thread may wait for. -/
def Allowed : ThreadId → List Lock → Awaited ThreadId Lock → Prop
  | .monitor => AllowedMonitor
  | .caller _ | .thunder _ => AllowedOthers

instance (held : List Lock) : (r : Awaited ThreadId Lock) → Decidable (AllowedMonitor held r)
  | .lock _ => inferInstanceAs (Decidable (_ ∧ _))
  | .ending _ => inferInstanceAs (Decidable False)

instance (held : List Lock) : (r : Awaited ThreadId Lock) → Decidable (AllowedOthers held r)
  | .lock _ => inferInstanceAs (Decidable (∀ _ ∈ _, _))
  | .ending _ => inferInstanceAs (Decidable (_ ∧ _))

section Orderly

variable {ok : List Lock → Awaited ThreadId Lock → Prop} {held : List Lock}

/-- A lock is held already, or may be taken. -/
abbrev Free (ok : List Lock → Awaited ThreadId Lock → Prop) (held : List Lock) (l : Lock) : Prop :=
  l ∈ held ∨ ok held (.lock l)

theorem orderly_operational (hi : Free ok held internalApiLock) (hc : Free ok held callbackLock)
    (shutdown : Bool) : Orderly ok held (operational shutdown) held :=
  (Orderly.underLock hi .nil).append (.ite fun _ => .underLock hc .nil)

theorem orderly_operationals (hi : Free ok held internalApiLock) (hc : Free ok held callbackLock)
    (notified : List Bool) : Orderly ok held (operationals notified) held := by
  induction notified with
  | nil => exact .nil
  | cons shutdown rest ih => exact (orderly_operational hi hc shutdown).append ih

theorem orderly_connect (hi : Free ok held internalApiLock)
    (hc : Free ok (internalApiLock :: held) callbackLock) (channel : Option Channel) :
    Orderly ok held (connect channel) held := by
  apply Orderly.underLock hi
  cases channel with
  | none => exact .nil
  | some ch =>
    exact (orderly_operationals (.inl (.head _)) hc _).append (.ite fun _ => .spawn)

theorem orderly_disconnect (hi : Free ok held internalApiLock)
    (hc : Free ok (internalApiLock :: held) callbackLock) {shutdown : Bool}
    (hjoin : shutdown = true → ok (internalApiLock :: held) (.ending .monitor))
    (channel : Option Channel) : Orderly ok held (disconnect shutdown channel) held := by
  refine .underLock hi (.append (.ite fun hshutdown => .join (hjoin hshutdown)) ?_)
  cases channel with
  | none => exact .nil
  | some ch => exact orderly_operationals (.inl (.head _)) hc _

theorem orderly_destructor (hi : Free ok held internalApiLock)
    (hc : Free ok (internalApiLock :: held) callbackLock)
    (hjoin : ok (internalApiLock :: held) (.ending .monitor)) (channel : Option Channel) :
    Orderly ok held (destructor channel) held :=
  orderly_disconnect hi hc (fun _ => hjoin) channel

theorem orderly_init (hi : Free ok held internalApiLock)
    (hc : Free ok (internalApiLock :: internalApiLock :: held) callbackLock)
    (new : Option Channel) : Orderly ok held (init new) held := by
  apply Orderly.underLock hi
  cases new with
  | none => exact .nil
  | some ch => exact orderly_connect (.inl (.head _)) hc _

theorem orderly_getInstance (hi : Free ok held internalApiLock)
    (hc : Free ok (internalApiLock :: internalApiLock :: held) callbackLock)
    (new : Option Channel) : Orderly ok held (getInstance new) held := by
  cases new with
  | none => exact .nil
  | some ch => exact orderly_init hi hc _

/-- The functions of the C API are orderly. -/
theorem orderly_api (a : Api) : Orderly AllowedOthers [cApiLock] a.acts [cApiLock] := by
  have hinstance : ∀ new, Orderly AllowedOthers [cApiLock] (getInstance new) [cApiLock] :=
    orderly_getInstance (by decide) (by decide)
  cases a with
  | init new => exact orderly_init (by decide) (by decide) new
  | term object =>
    apply Orderly.underLock (by decide)
    cases object with
    | none => exact .nil
    | some channel => exact orderly_destructor (by decide) (by decide) (by decide) channel
  | connect new channel =>
    exact (hinstance new).append (orderly_connect (by decide) (by decide) channel)
  | disconnect new channel =>
    exact (hinstance new).append (orderly_disconnect (by decide) (by decide) nofun channel)
  | isOperational new => exact hinstance new
  | uninitialized => exact .nil
  | request new valid | callback new valid =>
    exact (hinstance new).append (.ite fun _ => .underLock (by decide) .nil)

/-- A change of the process id file is handled in order. -/
theorem orderly_pidFile (changed : Option (Option Channel × Option Channel)) :
    Orderly AllowedMonitor [] (Call.pidFile changed).acts [] := by
  cases changed with
  | none => exact .nil
  | some p =>
    have hdisconnect : Orderly AllowedMonitor [] (disconnect false p.1) [] :=
      orderly_disconnect (by decide) (by decide) nofun p.1
    exact hdisconnect.append (orderly_connect (by decide) (by decide) p.2)

/-- All calls are orderly. -/
theorem orderly_acts {t : ThreadId} {c : Call} (hmay : client.mayCall t c = true) :
    Orderly (Allowed t) [] (client.acts c) [] := by
  cases t with
  | monitor =>
    cases c with
    | pidFile changed => exact orderly_pidFile changed
    | ends => exact rfl
    | api | destructor | operational | notification => cases hmay
  | caller n =>
    show Orderly AllowedOthers [] (client.acts c) []
    cases c with
    | api a =>
      -- every function of the C API is under `_cApiLock`
      exact .underLock (.inr nofun) (orderly_api a)
    | destructor channel => exact orderly_destructor (by decide) (by decide) (by decide) channel
    | pidFile | ends | operational | notification => cases hmay
  | thunder n =>
    show Orderly AllowedOthers [] (client.acts c) []
    cases c with
    | operational shutdown =>
      exact orderly_operational (by decide) (by decide) shutdown
    | notification => exact .underLock (.inr nofun) .nil
    | api | destructor | pidFile | ends => cases hmay

end Orderly

/-! ## Freedom of deadlock -/

variable {s s' : JoinState ThreadId Lock} {lb : Label} {es : List Empty}

/-- A thread has `_internalApiLock`, and is on its way to join the monitor thread. -/
def Inside (s : JoinState ThreadId Lock) : Prop :=
  ∃ t ∈ s.owner internalApiLock, .join .monitor ∈ s.todo t

/-- The monitor thread has still to take `_internalApiLock`. -/
def Handling (s : JoinState ThreadId Lock) : Prop :=
  .lock internalApiLock ∈ s.todo .monitor

instance (s : JoinState ThreadId Lock) : Decidable (Inside s) :=
  inferInstanceAs (Decidable (∃ t ∈ _, _))

instance (s : JoinState ThreadId Lock) : Decidable (Handling s) :=
  inferInstanceAs (Decidable (_ ∈ _))

/-- The steps that keep the two apart. -/
def Apart (s : JoinState ThreadId Lock) : Label → Prop
  | .call t c => t = .monitor → .lock internalApiLock ∈ client.acts c → ¬Inside s
  | .act t => s.Entering t internalApiLock (.join .monitor) → ¬Handling s

instance (s : JoinState ThreadId Lock) : (lb : Label) → Decidable (Apart s lb)
  | .call _ _ => inferInstanceAs (Decidable (_ → _ → _))
  | .act _ => inferInstanceAs (Decidable (_ → _))

/-- The invariant of the runs whose steps are `Apart`. -/
structure Inv (s : JoinState ThreadId Lock) : Prop where
  sound : JoinProgram.Sound Allowed s
  apart : ¬(Inside s ∧ Handling s)

theorem inv_initial : Inv initial where
  sound :=
    { owner_iff := by simp [initial]
      orderly := fun _ => rfl
      alive := by simp [initial] }
  apart := by decide

/-- The invariant is kept. -/
theorem inv_step (hI : Inv s) (hA : Apart s lb) (h : client.machine.step s lb = some (s', es)) :
    Inv s' where
  sound := JoinProgram.sound_step hI.sound h fun _ _ => orderly_acts
  apart := by
    rintro ⟨⟨t, hown, hjoin⟩, hhandling⟩
    rcases JoinProgram.holding_step hI.sound h ⟨hown, hjoin⟩ with ⟨hown, hjoin⟩ | ⟨rfl, hentering⟩
    · have hin : Inside s := ⟨t, hown, hjoin⟩
      -- the monitor thread may have begun with a change
      rcases JoinProgram.todo_step h hhandling with hhandling | ⟨c, rfl, hc⟩
      · exact hI.apart ⟨hin, hhandling⟩
      · exact hA rfl hc hin
    · rcases JoinProgram.todo_step h hhandling with hhandling | ⟨c, hlb, -⟩
      · exact hA hentering hhandling
      · cases hlb

/-- The order of what is waited for while nobody is inside: the end of the monitor thread comes
first, since nobody waits for it. -/
def waitRank : Awaited ThreadId Lock → ℕ
  | .ending _ => 0
  | .lock l => rank l + 1

/-- The order while a thread is inside: the monitor thread then takes `_callbackLock` at most. -/
def waitRankInside : Awaited ThreadId Lock → ℕ
  | .ending .monitor => 3
  | .ending _ => 0
  | .lock cApiLock => 1
  | .lock internalApiLock => 2
  | .lock callbackLock => 4

/-- A thread waits only for locks above those that it owns. -/
theorem rank_lt_of_awaits (hI : Inv s) {t : ThreadId} {l l' : Lock} (hwait : s.Awaits t (.lock l))
    (hown : s.owner l' = some t) : rank l' < rank l := by
  have hallowed := hI.sound.ok_of_awaits hwait
  have hheld := (hI.sound.owner_iff t l').mp hown
  cases t with
  | monitor => exact hallowed.2 l' hheld
  | caller n | thunder n => exact hallowed l' hheld

/-- A thread that waits for the end of another is inside, and does not hold `_callbackLock`. -/
theorem joining_of_awaits (hI : Inv s) {t u : ThreadId} (hwait : s.Awaits t (.ending u)) :
    t ≠ .monitor ∧ u = .monitor ∧ s.owner internalApiLock = some t ∧
      s.owner callbackLock ≠ some t := by
  have hallowed := hI.sound.ok_of_awaits hwait
  cases t with
  | monitor => exact hallowed.elim
  | caller n | thunder n =>
    obtain ⟨hu, hinternal, hcallback⟩ := hallowed
    refine ⟨nofun, hu, (hI.sound.owner_iff _ _).mpr hinternal, fun hown => ?_⟩
    exact hcallback ((hI.sound.owner_iff _ _).mp hown)

/-- With nobody inside, `waitRank` rises. -/
theorem waitRank_lt (hI : Inv s) (hin : ¬Inside s) {t : ThreadId} {r r' : Awaited ThreadId Lock}
    (hwait : s.Awaits t r) (hkeep : s.Keeps t r') : waitRank r' < waitRank r := by
  cases r with
  | ending u =>
    obtain ⟨-, rfl, hown, -⟩ := joining_of_awaits hI hwait
    exact absurd ⟨t, hown, List.mem_of_mem_head? hwait.1⟩ hin
  | lock l =>
    cases r' with
    | ending u => exact Nat.succ_pos _
    | lock l' => exact Nat.succ_lt_succ (rank_lt_of_awaits hI hwait hkeep)

/-- Unless the monitor thread has still to take `_internalApiLock`, `waitRankInside` rises. -/
theorem waitRankInside_lt (hI : Inv s) (hhandling : ¬Handling s) {t : ThreadId}
    {r r' : Awaited ThreadId Lock} (hwait : s.Awaits t r) (hkeep : s.Keeps t r') :
    waitRankInside r' < waitRankInside r := by
  cases r with
  | ending u =>
    -- who joins does not hold the lock of the callbacks
    obtain ⟨hne, rfl, -, hcallback⟩ := joining_of_awaits hI hwait
    cases r' with
    | ending u =>
      obtain rfl : u = t := hkeep
      cases u with
      | monitor => exact absurd rfl hne
      | caller n | thunder n => exact Nat.succ_pos _
    | lock l' =>
      cases l' with
      | cApiLock | internalApiLock => decide
      | callbackLock => exact absurd hkeep hcallback
  | lock l =>
    cases r' with
    | lock l' =>
      have hlt := rank_lt_of_awaits hI hwait hkeep
      cases l <;> cases l' <;> revert hlt <;> decide
    | ending u =>
      obtain rfl : u = t := hkeep
      cases u with
      | caller n | thunder n => cases l <;> exact Nat.succ_pos _
      | monitor =>
        have hallowed := hI.sound.ok_of_awaits hwait
        cases l with
        | cApiLock => exact absurd rfl hallowed.1
        | internalApiLock =>
          -- the one case that the hypothesis excludes
          exact absurd (List.mem_of_mem_head? hwait.1) hhandling
        | callbackLock => decide

/-- There is no deadlock in a state that keeps the two apart. -/
theorem Inv.deadlockFree (hI : Inv s) : s.DeadlockFree := by
  by_cases hin : Inside s
  · -- the end of the monitor thread has its place in the order only while somebody is inside
    have hhandling : ¬Handling s := fun hhandling => hI.apart ⟨hin, hhandling⟩
    exact JoinState.deadlockFree_of_rank waitRankInside
      fun _ _ hwait _ hkeep => waitRankInside_lt hI hhandling hwait hkeep
  · exact JoinState.deadlockFree_of_rank waitRank
      fun _ _ hwait _ hkeep => waitRank_lt hI hin hwait hkeep

/-- If no thread takes `_internalApiLock` on its way to the join while the monitor thread has still
to take it, and the monitor thread does not begin with a change of the process id while a thread is
on that way, the run passes no deadlock. -/
theorem termination_deadlockFree {ls : List Label} (hC : client.machine.Along Apart initial ls) :
    client.machine.Throughout JoinState.DeadlockFree initial ls := by
  rintro pre post os s rfl hrun
  have hI : Inv s :=
    hrun.invariant_along hC.left inv_initial fun _ _ _ _ hI hA h => inv_step hI hA h
  exact hI.deadlockFree

/-- The library is initialized, Thunder restarts, and the library is terminated after that. -/
theorem termination_deadlockFree_in_turn :
    ∃ ls s, client.machine.Run initial ls [] s ∧
      .call .monitor (.pidFile (some (some ⟨[false], false⟩, some ⟨[], true⟩))) ∈ ls ∧
      .call (.caller 0) (.api (.term (some (some ⟨[true], true⟩)))) ∈ ls ∧
      client.machine.Throughout JoinState.DeadlockFree initial ls := by
  obtain ⟨s, hrun, -⟩ : ∃ s, client.machine.Run initial
      (([.call (.caller 0) (.api (.init (some ⟨[false], true⟩)))] : List Label) ++
        (List.replicate 11 (.act (.caller 0)) : List Label) ++
        ([.call .monitor (.pidFile (some (some ⟨[false], false⟩, some ⟨[], true⟩)))] :
          List Label) ++
        (List.replicate 9 (.act .monitor) : List Label) ++
        ([.call (.caller 0) (.api (.term (some (some ⟨[true], true⟩))))] : List Label) ++
        (List.replicate 3 (.act (.caller 0)) : List Label) ++
        ([.call .monitor .ends, .act .monitor] : List Label) ++
        (List.replicate 6 (.act (.caller 0)) : List Label)) [] s ∧ True :=
    Machine.exists_run_of_exec (by decide +kernel)
  refine ⟨_, s, hrun, by simp, by simp, termination_deadlockFree (Machine.along_of_check ?_)⟩
  decide +kernel

/-- The monitor thread has just found a new process id when the library is terminated, and the two
wait for each other. -/
theorem termination_deadlock :
    ∃ s, client.machine.Run initial
        (([.call (.caller 0) (.api (.init (some ⟨[false], true⟩)))] : List Label) ++
          (List.replicate 11 (.act (.caller 0)) : List Label) ++
          ([.call .monitor (.pidFile (some (some ⟨[false], true⟩, some ⟨[false], true⟩))),
            .call (.caller 0) (.api (.term (some (some ⟨[true], true⟩))))] : List Label) ++
          (List.replicate 3 (.act (.caller 0)) : List Label)) [] s ∧
      ¬s.DeadlockFree := by
  refine (Machine.exists_run_of_exec (p := fun s =>
    s.Awaits (.caller 0) (.ending .monitor) ∧ s.Awaits .monitor (.lock internalApiLock) ∧
      s.owner internalApiLock = some (.caller 0)) ?_).imp fun s hs => ⟨hs.1, fun hfree => ?_⟩
  · decide +kernel
  · obtain ⟨-, hcaller, hmonitor, hown⟩ := hs
    exact hfree .monitor (.tail (.single ⟨_, hmonitor, hown⟩) ⟨_, hcaller, rfl⟩)

end PowerManager.Client.Termination
