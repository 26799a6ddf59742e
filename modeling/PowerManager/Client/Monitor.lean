import PowerManager.Client.ProcessId
import PowerManager.Progress
import PowerManager.WatchMachine

/-!
# The monitor of Thunder's process id

When Thunder restarts it writes its new process id to a file. The monitor thread of the client
library, which the first `Connect` starts, watches the file, and connects to the new Thunder. The
client and Thunder go on meanwhile: the client connects and disconnects, and operational states are
notified, between any two steps of the thread.

The file is rewritten in place, as the watch stays with a file that is replaced. Its contents may
change at any time; a writer that closes it leaves an event, which may be merged with one that the
thread has not read. The destructor is left out here: what it does with the thread is in
`Termination`.

## Main results

* `watching` — the client and its monitor are a watcher of the process id in the file;
* `pid_eq_readPID` — once the thread has nothing to do, the client has the process id in the file;
* `reconnections_linked` — the client connects again from one process id that the thread reads to the
  next, beginning with the one that the first `Connect` has read;
* `catches_up` — the thread gets through the events, whatever becomes of the connection.
-/

namespace PowerManager.Client

namespace PowerController

variable {F U : Type} (pc : PowerController F U)

/-! ## What the connection does to the process id -/

/-- Operational states leave the process id alone. -/
theorem pid_operational (o : Operational) : (pc.operational o).1.pid = pc.pid := by
  simp only [operational, operationalLocked, subscribeAllNotificationsLocked,
    unsubscribeAllNotificationsLocked]
  split
  · split
    · rw [forAll_eq nodup_notifications]
    · rfl
  · split
    · rw [forAll_eq nodup_notifications]
    · rfl

theorem pid_operationals (os : List Operational) : (pc.operationals os).1.pid = pc.pid := by
  induction os generalizing pc with
  | nil => rfl
  | cons o os ih => exact (ih _).trans (pid_operational pc o)

/-- `Connect` leaves the process id and the monitor alone, or starts the monitor. -/
theorem connect_cases (o : Opening) :
    (pc.connect o).2.1.pid = pc.pid ∧ (pc.connect o).2.1.pidMonitor = pc.pidMonitor ∨
    pc.pidMonitor.running = false ∧
      (pc.connect o).2.1.pid = (pc.pidMonitor.PID (o.readPID 0)).1 ∧
      (pc.connect o).2.1.pidMonitor = (pc.pidMonitor.PID (o.readPID 0)).2.run (o.readPID 1) := by
  have hpid := pid_operationals pc o.notified
  have hmonitor := pidMonitor_operationals pc o.notified
  unfold connect
  split
  · exact .inl ⟨rfl, rfl⟩
  · split
    · exact .inl ⟨hpid, hmonitor⟩
    · -- the channel is open
      simp only [hmonitor]
      cases hrunning : pc.pidMonitor.running with
      | false => exact .inr ⟨rfl, rfl, rfl⟩
      | true => exact .inl ⟨hpid, rfl⟩
    · exact .inl ⟨hpid, hmonitor⟩

/-- `Disconnect` leaves the process id and the monitor alone, unless the object is shut down. -/
theorem disconnect_false (c : Closing) :
    (pc.disconnect false c).2.1.pid = pc.pid ∧
      (pc.disconnect false c).2.1.pidMonitor = pc.pidMonitor := by
  simp only [disconnect, Bool.false_and, Bool.false_eq_true, if_false, closeChannel]
  split
  · exact ⟨pid_operationals pc c.notified, pidMonitor_operationals pc c.notified⟩
  · exact ⟨rfl, rfl⟩

end PowerController

namespace Monitor

open PIDFileMonitor

/-- Where the monitor thread is. -/
inductive Thread
  /-- `Run` has not started it. -/
  | absent
  /-- It has not added the watch. -/
  | started
  /-- It is in its loop. -/
  | polling
  /-- It is in `pidChangedCb`, before `Disconnect`. -/
  | disconnecting (pid : ℤ)
  /-- It is in `pidChangedCb`, before `Connect`. -/
  | connecting (pid : ℤ)
  /-- It is in `pidChangedCb`, before the process id is stored. -/
  | storing (pid : ℤ)
  | ended
  deriving DecidableEq, Repr

/-- The process id that `pidChangedCb` is called with. -/
def Thread.pid? : Thread → Option ℤ
  | .disconnecting pid | .connecting pid | .storing pid => some pid
  | _ => none

/-- The client, the file and the monitor thread. -/
structure State (F U : Type) where
  client : PowerController F U
  file : PidFile
  /-- The file has been closed since it was written. -/
  closed : Bool
  thread : Thread
  /-- The events `IN_CLOSE_WRITE` that the thread has not handled. -/
  pending : ℕ

/-- What happens. -/
inductive Label
  /-- The contents of the file change. -/
  | write (file : PidFile)
  /-- A writer closes the file. The event may be merged with one that is pending. -/
  | close (merged : Bool)
  /-- The client calls `Connect`. -/
  | connect (o : Opening)
  /-- The client calls `Disconnect`. -/
  | disconnect (c : Closing)
  /-- Thunder notifies an operational state. -/
  | operational (o : Operational)
  /-- The thread adds its watch. -/
  | addWatch
  /-- The thread handles an event. -/
  | handle
  /-- `pidChangedCb` calls `Disconnect`. -/
  | drop (c : Closing)
  /-- `pidChangedCb` calls `Connect`. -/
  | reopen (o : Opening)
  /-- `pidChangedCb` stores the process id. -/
  | store
  /-- The thread gives up, as `inotify` or `poll` fails. -/
  | ends

/-- What is seen of it. -/
inductive Output (F U : Type)
  | library (e : Event F U)
  /-- `pidChangedCb` connects again. -/
  | reconnects (oldPid newPid : ℤ)
  deriving DecidableEq, Repr

variable {F U : Type}

namespace State

/-- The object before its constructor connects. -/
def initial (file : PidFile) : State F U := ⟨.fresh, file, true, .absent, 0⟩

/-- `Connect`, on any thread. -/
def connect (longBits : ℕ) (s : State F U) (o : Opening) : State F U × List (Output F U) :=
  let r := (s.client.connect { o with readPID := fun _ => readPID longBits s.file }).2
  ({ s with
      client := r.1
      thread := if !s.client.pidMonitor.running && r.1.pidMonitor.running then .started
        else s.thread },
    r.2.map .library)

/-- The members after `handle_inotify_event` has read the file for one event. -/
def readEvent (longBits : ℕ) (s : State F U) : State F U :=
  { s with
    pending := s.pending - 1
    client := { s.client with
      pidMonitor := { s.client.pidMonitor with pid := readPID longBits s.file } } }

/-- `handle_inotify_event`, for one event, up to `Disconnect`. -/
def handleInotifyEvent (longBits : ℕ) (s : State F U) : State F U × List (Output F U) :=
  let pid := readPID longBits s.file
  if pid ≠ invalidPid ∧ s.client.pid ≠ pid then
    ({ s.readEvent longBits with thread := .disconnecting pid }, [.reconnects s.client.pid pid])
  else (s.readEvent longBits, [])

/-- The watch has been added, and is there still. -/
def Watching (s : State F U) : Prop :=
  s.thread ≠ .absent ∧ s.thread ≠ .started ∧ s.thread ≠ .ended

instance (s : State F U) : Decidable s.Watching := by
  unfold Watching
  infer_instance

end State

/-- The client, its monitor thread, and those who write the file. -/
def monitored (longBits : ℕ) : Machine (State F U) Label (Output F U) where
  step s
    | .write file => some ({ s with file, closed := false }, [])
    | .close merged =>
      some ({ s with
        closed := true
        pending := if s.Watching ∧ ¬(merged = true ∧ 0 < s.pending) then s.pending + 1
          else s.pending }, [])
    | .connect o => some (s.connect longBits o)
    | .disconnect c =>
      let r := (s.client.disconnect false c).2
      some ({ s with client := r.1 }, r.2.map .library)
    | .operational o =>
      let r := s.client.operational o
      some ({ s with client := r.1 }, r.2.map .library)
    | .addWatch =>
      if s.thread = .started then some ({ s with thread := .polling }, []) else none
    | .handle =>
      if s.thread = .polling ∧ 0 < s.pending then some (s.handleInotifyEvent longBits) else none
    | .drop c =>
      match s.thread with
      | .disconnecting pid =>
        let r := (s.client.disconnect false c).2
        some ({ s with client := r.1, thread := .connecting pid }, r.2.map .library)
      | _ => none
    | .reopen o =>
      match s.thread with
      | .connecting pid =>
        let r := s.connect longBits o
        some ({ r.1 with thread := .storing pid }, r.2)
      | _ => none
    | .store =>
      match s.thread with
      | .storing pid =>
        some ({ s with client := { s.client with pid }, thread := .polling }, [])
      | _ => none
    | .ends =>
      if s.thread = .started ∨ s.thread = .polling then some ({ s with thread := .ended }, [])
      else none

/-! ## The watcher -/

variable {longBits : ℕ} {s s' : State F U} {l : Label} {ls : List Label}
  {os : List (Output F U)}

namespace State

/-- The monitor runs if there is a thread. It has not read the file before. -/
structure Inv (s : State F U) : Prop where
  absent : s.thread = .absent →
    s.client.pidMonitor.running = false ∧ s.client.pidMonitor.pid = invalidPid ∧ s.pending = 0
  running : s.thread ≠ .absent → s.client.pidMonitor.running = true
  shutdown : s.client.pidMonitor.shutdown = false

/-- What the watcher is doing. -/
def phase (s : State F U) : WatchPhase :=
  match s.thread with
  | .absent => .off
  | .started => .started
  | .ended => .stopped
  | _ => .watching

/-- The watcher. What it has is the process id of the client. -/
def watch (longBits : ℕ) (s : State F U) : WatchState ℤ where
  phase := s.phase
  current := readPID longBits s.file
  closed := s.closed
  pending := s.pending
  taking := s.thread.pid?
  seen := s.client.pid

theorem inv_initial (file : PidFile) : (initial file : State F U).Inv := by
  constructor <;> simp [initial, PowerController.fresh, PIDFileMonitor.initial]

theorem watching_iff : s.Watching ↔ s.phase = .watching := by
  unfold Watching phase
  cases s.thread <;> simp

variable (longBits) in
/-- `Connect` starts the thread, which has then read the file, or it changes nothing that the
monitor uses. -/
theorem connect_cases (hI : s.Inv) (o : Opening) :
    (s.connect longBits o).1.client.pid = s.client.pid ∧
      (s.connect longBits o).1.client.pidMonitor = s.client.pidMonitor ∧
      (s.connect longBits o).1.thread = s.thread ∨
    s.thread = .absent ∧ (s.connect longBits o).1.thread = .started ∧
      (s.connect longBits o).1.client.pid = readPID longBits s.file ∧
      (s.connect longBits o).1.client.pidMonitor = ⟨readPID longBits s.file, true, false⟩ := by
  have hcases := s.client.connect_cases { o with readPID := fun _ => readPID longBits s.file }
  unfold connect
  generalize (s.client.connect { o with readPID := fun _ => readPID longBits s.file }).2 = r
    at hcases ⊢
  rcases hcases with ⟨hpid, hmonitor⟩ | ⟨hrunning, hpid, hmonitor⟩
  · refine .inl ⟨hpid, hmonitor, ?_⟩
    simp [hmonitor]
  · have habsent : s.thread = .absent := by
      by_contra hthread
      simp [hI.running hthread] at hrunning
    obtain ⟨-, hinvalid, -⟩ := hI.absent habsent
    rw [PIDFileMonitor.PID, if_pos hinvalid] at hpid hmonitor
    -- the second reading gives what the first one has given
    have hrun : r.1.pidMonitor = ⟨readPID longBits s.file, true, false⟩ := by
      simp [hmonitor, PIDFileMonitor.run, hI.shutdown, hrunning]
    exact .inr ⟨habsent, by simp [hrunning, hrun], hpid, hrun⟩

end State

/-- The step of the watcher that a step of the client and its monitor may amount to. -/
inductive Matches : Label → WatchLabel ℤ → Prop
  | write (file : PidFile) (pid : ℤ) : Matches (.write file) (.change pid)
  | close (merged : Bool) : Matches (.close merged) (.close merged)
  | start (o : Opening) : Matches (.connect o) .start
  | connect (o : Opening) : Matches (.connect o) .skip
  | disconnect (c : Closing) : Matches (.disconnect c) .skip
  | operational (o : Operational) : Matches (.operational o) .skip
  | addWatch : Matches .addWatch .watch
  | handle : Matches .handle .handle
  | drop (c : Closing) : Matches (.drop c) .skip
  | reopen (o : Opening) : Matches (.reopen o) .skip
  | store : Matches .store .taken
  | ends : Matches .ends .stop

/-- A new connection is a change of the process id. -/
def reconnection? : Output F U → Option (Change ℤ)
  | .library _ => none
  | .reconnects oldPid newPid => some ⟨oldPid, newPid⟩

@[simp] theorem reconnection?_library (e : Event F U) :
    reconnection? (.library e : Output F U) = none := rfl

/-- The watcher reads a process id that is not `INVALID_PID`. -/
def isValid (pid : ℤ) : Bool := decide (pid ≠ invalidPid)

namespace State

/-- A step that only uses the connection keeps the invariant. -/
theorem Inv.congr (hI : s.Inv) (hmonitor : s'.client.pidMonitor = s.client.pidMonitor)
    (hthread : s'.thread = .absent ↔ s.thread = .absent) (hpending : s'.pending = s.pending) :
    s'.Inv where
  absent habsent := by
    rw [hmonitor, hpending]
    exact hI.absent (hthread.mp habsent)
  running hthread' := by
    rw [hmonitor]
    exact hI.running (hthread'.imp hthread.mpr)
  shutdown := by
    rw [hmonitor]
    exact hI.shutdown

/-- `Connect` keeps the invariant. -/
theorem Inv.connect (longBits : ℕ) (hI : s.Inv) (o : Opening) : (s.connect longBits o).1.Inv := by
  rcases connect_cases longBits hI o with ⟨-, hmonitor, hthread⟩ |
    ⟨habsent, hthread, -, hmonitor⟩
  · exact hI.congr hmonitor (by rw [hthread]) rfl
  · constructor
    · intro h
      rw [hthread] at h
      cases h
    · intro _
      rw [hmonitor]
    · rw [hmonitor]

/-- Every step keeps the invariant. -/
theorem inv_step (hI : s.Inv) (h : (monitored longBits).step s l = some (s', os)) : s'.Inv := by
  cases l with
  | write file =>
    cases h
    exact hI.congr rfl .rfl rfl
  | close merged =>
    cases h
    refine ⟨fun habsent => ?_, hI.running, hI.shutdown⟩
    obtain ⟨hrunning, hpid, hpending⟩ := hI.absent habsent
    refine ⟨hrunning, hpid, ?_⟩
    have hno : ¬s.Watching := fun hwatch => hwatch.1 habsent
    simpa [hno] using hpending
  | connect o =>
    cases h
    exact hI.connect longBits o
  | disconnect c =>
    cases h
    exact hI.congr (s.client.disconnect_false c).2 .rfl rfl
  | operational o =>
    cases h
    exact hI.congr (s.client.pidMonitor_operational o) .rfl rfl
  | addWatch =>
    simp only [monitored] at h
    split at h
    · rename_i hthread
      cases h
      exact hI.congr rfl (by simp [hthread]) rfl
    · cases h
  | handle =>
    simp only [monitored] at h
    split at h
    · rename_i hthread
      have hrunning := hI.running (by simp [hthread.1])
      simp only [handleInotifyEvent] at h
      split at h
      · cases h
        exact ⟨by simp, fun _ => hrunning, hI.shutdown⟩
      · cases h
        exact ⟨by simp [readEvent, hthread.1], fun _ => hrunning, hI.shutdown⟩
    · cases h
  | drop c =>
    simp only [monitored] at h
    split at h
    · rename_i hthread
      cases h
      exact hI.congr (s.client.disconnect_false c).2 (by simp [hthread]) rfl
    · cases h
  | reopen o =>
    simp only [monitored] at h
    split at h
    · rename_i hthread
      cases h
      have hI' := hI.connect longBits o
      rcases connect_cases longBits hI o with ⟨-, -, hsame⟩ | ⟨habsent, -⟩
      · exact hI'.congr rfl (by simp [hsame, hthread]) rfl
      · simp [hthread] at habsent
    · cases h
  | store =>
    simp only [monitored] at h
    split at h
    · rename_i hthread
      cases h
      exact hI.congr rfl (by simp [hthread]) rfl
    · cases h
  | ends =>
    simp only [monitored] at h
    split at h
    · rename_i hthread
      cases h
      refine hI.congr rfl ?_ rfl
      rcases hthread with hthread | hthread <;> simp [hthread]
    · cases h

omit s' in
/-- `Connect` does not say that it connects again. -/
theorem filterMap_connect (o : Opening) :
    (s.connect longBits o).2.filterMap reconnection? = [] := by
  simp [connect]

theorem phase_eq_off : s.phase = .off ↔ s.thread = .absent := by
  unfold phase
  cases s.thread <;> simp

theorem phase_eq_started : s.phase = .started ↔ s.thread = .started := by
  unfold phase
  cases s.thread <;> simp

/-- A step that only uses the connection is none of the watcher. -/
theorem watch_congr (hpid : s'.client.pid = s.client.pid) (hphase : s'.phase = s.phase)
    (htaking : s'.thread.pid? = s.thread.pid?) (hfile : s'.file = s.file)
    (hclosed : s'.closed = s.closed) (hpending : s'.pending = s.pending) :
    s'.watch longBits = s.watch longBits := by
  simp only [watch, hpid, hphase, htaking, hfile, hclosed, hpending]

variable (longBits) in
/-- `Connect` is none of the watcher, or it starts the watcher. -/
theorem watch_connect (hI : s.Inv) (o : Opening) :
    (s.connect longBits o).1.watch longBits = s.watch longBits ∨
    (s.watch longBits).phase = .off ∧ (s.connect longBits o).1.watch longBits =
      { s.watch longBits with phase := .started, seen := readPID longBits s.file } := by
  rcases connect_cases longBits hI o with ⟨hpid, -, hthread⟩ | ⟨habsent, hthread, hpid, -⟩
  · exact .inl (watch_congr hpid (by rw [phase, hthread, phase]) (by rw [hthread]) rfl rfl rfl)
  · refine .inr ⟨by simp [watch, phase, habsent], ?_⟩
    simp only [watch, phase, hthread, hpid, habsent, Thread.pid?]
    rfl

/-- Every step of the client and its monitor is a step of the watcher. -/
theorem watch_step (hI : s.Inv) (h : (monitored longBits).step s l = some (s', os)) :
    ∃ l', Matches l l' ∧ (watchMachine isValid).step (s.watch longBits) l' =
      some (s'.watch longBits, os.filterMap reconnection?) := by
  cases l with
  | write file =>
    cases h
    exact ⟨_, .write file (readPID longBits file), rfl⟩
  | close merged =>
    cases h
    refine ⟨_, .close merged, ?_⟩
    simp [watchMachine, watch, watching_iff, phase]
  | connect o =>
    cases h
    show ∃ l', Matches (.connect o) l' ∧ (watchMachine isValid).step (s.watch longBits) l' =
      some ((s.connect longBits o).1.watch longBits,
        (s.connect longBits o).2.filterMap reconnection?)
    rw [filterMap_connect]
    rcases watch_connect longBits hI o with hwatch | ⟨hoff, hwatch⟩
    · exact ⟨_, .connect o, by rw [hwatch]; rfl⟩
    · -- the thread is started when the file has been read
      exact ⟨_, .start o, by rw [hwatch]; exact if_pos hoff⟩
  | disconnect c =>
    cases h
    refine ⟨_, .disconnect c, ?_⟩
    simp [watchMachine, watch, phase, (s.client.disconnect_false c).1]
  | operational o =>
    cases h
    refine ⟨_, .operational o, ?_⟩
    simp [watchMachine, watch, phase, s.client.pid_operational o]
  | addWatch =>
    simp only [monitored] at h
    split at h
    · rename_i hthread
      cases h
      exact ⟨_, .addWatch, by simp [watchMachine, watch, phase, hthread, Thread.pid?]⟩
    · cases h
  | handle =>
    simp only [monitored] at h
    split at h
    · rename_i hthread
      refine ⟨_, .handle, ?_⟩
      simp only [handleInotifyEvent] at h
      split at h
      · rename_i hnew
        cases h
        simp [watchMachine, watch, phase, hthread, Thread.pid?, isValid, hnew, reconnection?,
          Ne.symm hnew.2, readEvent]
      · rename_i hold
        cases h
        have hold' : ¬(readPID longBits s.file ≠ invalidPid ∧
            readPID longBits s.file ≠ s.client.pid) := fun hnew => hold ⟨hnew.1, hnew.2.symm⟩
        simpa [watchMachine, watch, phase, hthread, Thread.pid?, isValid, readEvent] using hold'
    · cases h
  | drop c =>
    simp only [monitored] at h
    split at h
    · rename_i hthread
      cases h
      refine ⟨_, .drop c, ?_⟩
      simp [watchMachine, watch, phase, hthread, Thread.pid?, (s.client.disconnect_false c).1]
    · cases h
  | reopen o =>
    simp only [monitored] at h
    split at h
    · rename_i hthread
      cases h
      refine ⟨_, .reopen o, ?_⟩
      rcases connect_cases longBits hI o with ⟨hpid, -, -⟩ | ⟨habsent, -⟩
      · show (watchMachine isValid).step (s.watch longBits) .skip =
          some (watch longBits { (s.connect longBits o).1 with thread := .storing _ },
            (s.connect longBits o).2.filterMap reconnection?)
        rw [filterMap_connect]
        simp only [watchMachine, watch, phase, hthread, hpid, Thread.pid?]
        rfl
      · simp [hthread] at habsent
    · cases h
  | store =>
    simp only [monitored] at h
    split at h
    · rename_i hthread
      cases h
      refine ⟨_, .store, ?_⟩
      simp [watchMachine, watch, phase, hthread, Thread.pid?]
    · cases h
  | ends =>
    simp only [monitored] at h
    split at h
    · rename_i hthread
      cases h
      refine ⟨_, .ends, ?_⟩
      rcases hthread with hthread | hthread <;>
        simp [watchMachine, watch, phase, hthread, Thread.pid?]
    · cases h

/-- The watcher starts with the thread. -/
theorem phase_of_start {cs : List (Change ℤ)}
    (h : (watchMachine isValid).step (s.watch longBits) .start = some (s'.watch longBits, cs)) :
    s.phase = .off ∧ s'.phase = .started := by
  simp only [watchMachine] at h
  split at h
  · rename_i hoff
    exact ⟨hoff, congrArg WatchState.phase (Prod.mk.inj (Option.some.inj h)).1.symm⟩
  · cases h

/-- A writer closes the file between the first reading and the watch only if it has written the
process id that has been read. -/
def NotMissed (longBits : ℕ) (s : State F U) : Label → Prop
  | .close _ => s.thread = .started → s.client.pid = readPID longBits s.file
  | _ => True

instance (s : State F U) (l : Label) : Decidable (s.NotMissed longBits l) := by
  unfold NotMissed
  split <;> infer_instance

/-- Nothing goes unnoticed by the watcher then. -/
theorem NotMissed.watch {l' : WatchLabel ℤ} (hl : s.NotMissed longBits l) (hmatch : Matches l l') :
    (s.watch longBits).NotMissed l' := by
  cases hmatch with
  | close merged =>
    intro hphase
    apply hl
    revert hphase
    show s.phase = .started → s.thread = .started
    unfold phase
    cases s.thread <;> simp
  | _ => trivial

end State

open State

/-- The steps of `pidChangedCb`, if nothing comes between them, do what `pidChangedCb` does. -/
theorem run_pidChangedCb {pid : ℤ} (c : Closing) (o : Opening)
    (hthread : s.thread = .disconnecting pid) (hpid : s.client.pid ≠ pid) :
    let r := s.client.pidChangedCb pid c { o with readPID := fun _ => readPID longBits s.file }
    (monitored longBits).Run s [.drop c, .reopen o, .store] (r.2.map .library)
      { s with client := r.1, thread := .polling } := by
  intro r
  have hr : r = _ := if_pos hpid
  have hdrop : (monitored longBits).step s (.drop c) = some ({ s with
      client := (s.client.disconnect false c).2.1, thread := .connecting pid },
      (s.client.disconnect false c).2.2.map .library) := by
    simp only [monitored, hthread]
  have hrun := Machine.Run.cons hdrop (.cons (l := .reopen o) rfl (.single (l := .store) rfl))
  rw [List.append_nil] at hrun
  rw [hr, List.map_append]
  exact hrun

/-- The client and its monitor are a watcher of the process id in the file. -/
def watching (F U : Type) (longBits : ℕ) :
    Machine.Refinement (monitored (F := F) (U := U) longBits) (watchMachine isValid) where
  Inv := State.Inv
  abs := State.watch longBits
  out := reconnection?
  Matches := Matches
  inv_step := inv_step
  step := watch_step

/-- Once the thread has handled the events of all that was closed, the client has the process id in
the file, if there is one. -/
theorem pid_eq_readPID {file : PidFile} (hrun : (monitored longBits).Run (initial file) ls os s)
    (hC : (monitored (F := F) (U := U) longBits).Along (State.NotMissed longBits) (initial file) ls)
    (hthread : s.thread = .polling) (hclosed : s.closed = true) (hpending : s.pending = 0)
    (hvalid : readPID longBits s.file ≠ invalidPid) : s.client.pid = readPID longBits s.file := by
  have hfresh : (s.watch longBits).Fresh isValid :=
    ((watching F U longBits).invariant_along (fun _ _ _ _ hl hmatch => hl.watch hmatch)
      (fun _ _ _ _ hF hl hstep => WatchState.fresh_step hF hl hstep) (inv_initial file)
      (WatchState.fresh_initial ..) hrun hC).2
  have hcurrent := hfresh.watching (by simp [watch, phase, hthread]) hclosed hpending
    (decide_eq_true hvalid)
  simpa [watch, hthread, Thread.pid?] using hcurrent

/-- Without a thread the client does not connect again. Each time it does, the thread has just read
from the file a process id that is none of its own, and not `INVALID_PID`. And these process ids lead
from the one that has been read by the `Connect` that has started the thread to the one that the
client has, or is going to store. -/
theorem reconnections_linked {file : PidFile}
    (hrun : (monitored longBits).Run (initial file) ls os s) :
    (s.thread = .absent → os.filterMap reconnection? = []) ∧
    (∀ cs c cs', os.filterMap reconnection? = cs ++ c :: cs' →
      ∃ pre post, ∃ (os₁ : List (Output F U)) (t : State F U),
        ls = pre ++ .handle :: post ∧ (monitored longBits).Run (initial file) pre os₁ t ∧
        os₁.filterMap reconnection? = cs ∧ c = ⟨t.client.pid, readPID longBits t.file⟩ ∧
        readPID longBits t.file ≠ invalidPid) ∧
    (s.thread ≠ .absent →
      ∃ pre o post, ∃ (os₁ : List (Output F U)) (t : State F U),
        ls = pre ++ .connect o :: post ∧ (monitored longBits).Run (initial file) pre os₁ t ∧
        t.thread = .absent ∧ (t.connect longBits o).1.thread = .started ∧
        Linked (readPID longBits t.file) (os.filterMap reconnection?)
          (s.thread.pid?.getD s.client.pid)) := by
  -- the run as one of the watcher, whose steps are steps of this run
  obtain ⟨-, ls', hwatch, hsteps⟩ := (watching F U longBits).run_steps (inv_initial file) hrun
  refine ⟨fun habsent => ?_, fun cs c cs' hcut => ?_, fun hthread => ?_⟩
  · rcases WatchState.linked_run hwatch with ⟨-, -, hnone⟩ | ⟨_, _, _, _, -, -, hL⟩
    · exact hnone
    · exact absurd (phase_eq_off.mpr habsent) hL.phase
  · obtain ⟨pre', post', t', rfl, hpre', hvalid, rfl⟩ := WatchState.noticed_run hwatch hcut
    obtain ⟨pre, l, post, os₁, -, t, -, rfl, hpre, -, hmatch, hpre₁, -⟩ := hsteps _ _ _ rfl
    obtain ⟨rfl, hcs⟩ := hpre₁.det hpre'
    -- the watcher notices in the step in which the thread handles an event
    cases hmatch
    exact ⟨pre, post, os₁, t, rfl, hpre, hcs, rfl, of_decide_eq_true hvalid⟩
  · rcases WatchState.linked_run hwatch with ⟨hoff, -⟩ | ⟨pre', post', os', t', rfl, hpre', hL⟩
    · exact absurd (phase_eq_off.mp hoff) hthread
    · obtain ⟨pre, l, post, os₁, os₂, t, u, rfl, hpre, hstep, hmatch, hpre₁, hstart⟩ :=
        hsteps _ _ _ rfl
      obtain ⟨rfl, -⟩ := hpre₁.det hpre'
      cases hmatch with
      | start o =>
        obtain ⟨hoff, hstarted⟩ := phase_of_start hstart
        cases hstep
        exact ⟨pre, o, post, os₁, t, rfl, hpre, phase_eq_off.mp hoff,
          phase_eq_started.mp hstarted, hL.linked⟩

/-- A channel that is opened, while nobody notifies anything. -/
def opens : Opening := ⟨[], some .errorNone, fun _ => invalidPid⟩

/-- Thunder, whose process id has been 1, restarts after the client has connected. -/
def restart : List Label := [.connect opens, .addWatch, .write (.content [50, 10]), .close false]

/-- The monitor connects to Thunder again. -/
def reconnect : List Label := [.handle, .drop ⟨[], .errorNone⟩, .reopen opens, .store]

theorem pid_eq_readPID_of_restart :
    ∃ os s, (monitored 64).Run (initial (.content [49, 10]) : State ℕ ℕ) (restart ++ reconnect)
      os s ∧ s.thread = .polling ∧ s.client.pid = 2 := by
  obtain ⟨os, s, hrun, hthread, hclosed, hpending, hread⟩ : ∃ os s,
      (monitored 64).Run (initial (.content [49, 10]) : State ℕ ℕ) (restart ++ reconnect) os s ∧
        s.thread = .polling ∧ s.closed = true ∧ s.pending = 0 ∧ readPID 64 s.file = 2 :=
    Machine.exists_outputs_of_exec (by decide +kernel)
  refine ⟨os, s, hrun, hthread, ?_⟩
  rw [← hread]
  exact pid_eq_readPID hrun (Machine.along_of_check (by decide +kernel)) hthread hclosed hpending
    (by rw [hread]; decide)

theorem reconnections_linked_of_restart :
    ∃ os s, (monitored 64).Run (initial (.content [49, 10]) : State ℕ ℕ) (restart ++ reconnect)
      os s ∧ os.filterMap reconnection? = [⟨1, 2⟩] ∧ Linked 1 [⟨1, 2⟩] s.client.pid := by
  obtain ⟨os, s, hrun, hthread, hos⟩ : ∃ os s,
      (monitored 64).Run (initial (.content [49, 10]) : State ℕ ℕ) (restart ++ reconnect) os s ∧
        s.thread = .polling ∧ os.filterMap reconnection? = [⟨1, 2⟩] :=
    Machine.exists_outputs_of_exec (by decide +kernel)
  refine ⟨os, s, hrun, hos, ?_⟩
  obtain ⟨_, -, _, -, t, -, -, -, -, hlinked⟩ :=
    (reconnections_linked hrun).2.2 (by simp [hthread])
  rw [hos, hthread] at hlinked
  obtain ⟨-, hne, hlast⟩ := hlinked
  exact ⟨rfl, hne, hlast⟩

/-! ## The end of the work -/

/-- What the thread has still to do in `pidChangedCb`. -/
def Thread.left : Thread → ℕ
  | .disconnecting _ => 3
  | .connecting _ => 2
  | .storing _ => 1
  | _ => 0

/-- What the thread has still to do: an event takes four steps. -/
def State.work (s : State F U) : ℕ := 4 * s.pending + s.thread.left

/-- The steps that the thread takes in its loop. -/
def Label.Handles : Label → Prop
  | .handle | .drop _ | .reopen _ | .store => True
  | _ => False

/-- What a step of the thread in its loop does to the thread and its events. -/
theorem handles_cases (hl : l.Handles) (h : (monitored longBits).step s l = some (s', os)) :
    (s.thread = .polling ∧ 0 < s.pending ∧ s'.pending = s.pending - 1 ∧
      (s'.thread = .polling ∨ ∃ pid, s'.thread = .disconnecting pid)) ∨
    s'.pending = s.pending ∧ ((∃ pid, s.thread = .disconnecting pid ∧ s'.thread = .connecting pid) ∨
      (∃ pid, s.thread = .connecting pid ∧ s'.thread = .storing pid) ∨
      ∃ pid, s.thread = .storing pid ∧ s'.thread = .polling) := by
  cases l with
  | handle =>
    simp only [monitored] at h
    split at h
    · rename_i hthread
      simp only [handleInotifyEvent] at h
      split at h
      · cases h
        exact .inl ⟨hthread.1, hthread.2, rfl, .inr ⟨_, rfl⟩⟩
      · cases h
        exact .inl ⟨hthread.1, hthread.2, rfl, .inl hthread.1⟩
    · cases h
  | drop c =>
    simp only [monitored] at h
    split at h
    · rename_i hthread
      cases h
      exact .inr ⟨rfl, .inl ⟨_, hthread, rfl⟩⟩
    · cases h
  | reopen o =>
    simp only [monitored] at h
    split at h
    · rename_i hthread
      cases h
      exact .inr ⟨rfl, .inr (.inl ⟨_, hthread, rfl⟩)⟩
    · cases h
  | store =>
    simp only [monitored] at h
    split at h
    · rename_i hthread
      cases h
      exact .inr ⟨rfl, .inr (.inr ⟨_, hthread, rfl⟩)⟩
    · cases h
  | _ => cases hl

/-- The thread gets through the events, whatever `Open` and `Close` do. -/
theorem progress : (monitored (F := F) (U := U) longBits).Progress State.Watching Label.Handles
    State.work where
  inv_step _ hl h := by
    rcases handles_cases hl h with ⟨-, -, -, hthread | ⟨_, hthread⟩⟩ |
      ⟨-, ⟨_, -, hthread⟩ | ⟨_, -, hthread⟩ | ⟨_, -, hthread⟩⟩ <;> simp [State.Watching, hthread]
  work_lt _ hl h := by
    unfold State.work
    rcases handles_cases hl h with ⟨hpolling, hpos, hpending, hthread | ⟨_, hthread⟩⟩ |
      ⟨hpending, ⟨_, hold, hthread⟩ | ⟨_, hold, hthread⟩ | ⟨_, hold, hthread⟩⟩
    · simp only [hpolling, hpending, hthread, Thread.left]
      omega
    · simp only [hpolling, hpending, hthread, Thread.left]
      omega
    all_goals simp [hold, hpending, hthread, Thread.left]
  exists_step := by
    intro s hwatching hwork
    cases hthread : s.thread with
    | absent => exact absurd hthread hwatching.1
    | started => exact absurd hthread hwatching.2.1
    | ended => exact absurd hthread hwatching.2.2
    | polling =>
      have hpos : 0 < s.pending := by
        simp only [State.work, hthread, Thread.left] at hwork
        omega
      exact ⟨.handle, _, _, trivial, if_pos ⟨hthread, hpos⟩⟩
    | disconnecting pid =>
      have hsome : ((monitored longBits).step s (.drop ⟨[], .errorNone⟩)).isSome = true := by
        simp [monitored, hthread]
      obtain ⟨r, hr⟩ := Option.isSome_iff_exists.mp hsome
      exact ⟨.drop ⟨[], .errorNone⟩, r.1, r.2, trivial, hr⟩
    | connecting pid =>
      have hsome :
          ((monitored longBits).step s (.reopen ⟨[], none, fun _ => invalidPid⟩)).isSome = true := by
        simp [monitored, hthread]
      obtain ⟨r, hr⟩ := Option.isSome_iff_exists.mp hsome
      exact ⟨.reopen ⟨[], none, fun _ => invalidPid⟩, r.1, r.2, trivial, hr⟩
    | storing pid =>
      have hsome : ((monitored longBits).step s .store).isSome = true := by
        simp [monitored, hthread]
      obtain ⟨r, hr⟩ := Option.isSome_iff_exists.mp hsome
      exact ⟨.store, r.1, r.2, trivial, hr⟩

/-- The steps of the thread in its loop leave the file alone. -/
theorem file_of_handles (hown : ∀ l ∈ ls, l.Handles) (hrun : (monitored longBits).Run s ls os s') :
    s'.file = s.file ∧ s'.closed = s.closed := by
  induction hrun with
  | nil => exact ⟨rfl, rfl⟩
  | @snoc t u ls os os' l _ hstep ih =>
    obtain ⟨hfile, hclosed⟩ := ih fun l hl => hown l (List.mem_append_left _ hl)
    have hl : l.Handles := hown l (by simp)
    suffices hsame : u.file = t.file ∧ u.closed = t.closed from
      ⟨hsame.1.trans hfile, hsame.2.trans hclosed⟩
    cases l with
    | handle =>
      simp only [monitored, handleInotifyEvent] at hstep
      split at hstep
      · split at hstep <;> cases hstep <;> exact ⟨rfl, rfl⟩
      · cases hstep
    | drop c | reopen o | store =>
      simp only [monitored] at hstep
      split at hstep <;> cases hstep
      exact ⟨rfl, rfl⟩
    | _ => cases hl

/-- While nobody else does anything, the thread takes at most four steps for each event, and goes
on until the client has the process id in the file, if there is one. -/
theorem catches_up {file : PidFile} {t : State F U} {ls' : List Label} {os' : List (Output F U)}
    (hrun : (monitored longBits).Run (initial file) ls os s)
    (hC : (monitored (F := F) (U := U) longBits).Along (State.NotMissed longBits) (initial file) ls)
    (hwatching : s.Watching) (hclosed : s.closed = true)
    (hvalid : readPID longBits s.file ≠ invalidPid) (hown : ∀ l ∈ ls', l.Handles)
    (hrun' : (monitored longBits).Run s ls' os' t) :
    ls'.length ≤ 4 * s.pending + s.thread.left ∧
      ((∃ l u os'', l.Handles ∧ (monitored longBits).step t l = some (u, os'')) ∨
        t.client.pid = readPID longBits s.file) := by
  obtain ⟨hwatching', hlength⟩ := progress.length_add_le hwatching hown hrun'
  refine ⟨by unfold State.work at hlength; omega, ?_⟩
  by_cases hwork : t.work = 0
  · right
    obtain ⟨hfile, hclosed'⟩ := file_of_handles hown hrun'
    have hall : (monitored (F := F) (U := U) longBits).Along (State.NotMissed longBits)
        (initial file) (ls ++ ls') := by
      refine hC.append fun l hl t => ?_
      have hl := hown l hl
      cases l with
      | close merged => cases hl
      | _ => trivial
    -- no work is left, so the thread is back in its loop and has no events
    have hpolling : t.thread = .polling := by
      obtain ⟨habsent, hstarted, hended⟩ := hwatching'
      cases hthread : t.thread <;> simp_all [State.work, Thread.left]
    have hpending : t.pending = 0 := by
      rw [State.work] at hwork
      omega
    rw [← hfile] at hvalid ⊢
    exact pid_eq_readPID (hrun.trans hrun') hall hpolling (hclosed'.trans hclosed) hpending hvalid
  · exact .inl (progress.exists_step hwatching' hwork)

theorem catches_up_of_restart :
    ∃ os os' s t, (monitored 64).Run (initial (.content [49, 10]) : State ℕ ℕ) restart os s ∧
      (monitored 64).Run s reconnect os' t ∧ s.pending = 1 ∧ reconnect.length ≤ 4 * 1 + 0 ∧
      ((∃ l u os'', l.Handles ∧ (monitored 64).step t l = some (u, os'')) ∨ t.client.pid = 2) := by
  obtain ⟨os₀, t, hrun, -⟩ : ∃ os s,
      (monitored 64).Run (initial (.content [49, 10]) : State ℕ ℕ) (restart ++ reconnect) os s ∧
        True := Machine.exists_outputs_of_exec (by decide +kernel)
  obtain ⟨s, os, os', -, hrestart, hreconnect⟩ := hrun.split
  obtain ⟨os₁, s₁, hrun₁, hstate⟩ : ∃ os s,
      (monitored 64).Run (initial (.content [49, 10]) : State ℕ ℕ) restart os s ∧
        (s.thread = .polling ∧ s.closed = true ∧ s.pending = 1 ∧ readPID 64 s.file = 2) :=
    Machine.exists_outputs_of_exec (by decide +kernel)
  obtain ⟨rfl, -⟩ := hrestart.det hrun₁
  obtain ⟨hthread, hclosed, hpending, hread⟩ := hstate
  refine ⟨os, os', s, t, hrestart, hreconnect, hpending, ?_⟩
  have hcatch := catches_up hrestart (Machine.along_of_check (by decide +kernel))
    (by simp [State.Watching, hthread]) hclosed (by rw [hread]; decide)
    (by simp [reconnect, Label.Handles]) hreconnect
  rwa [hread, hpending, hthread] at hcatch

end Monitor

end PowerManager.Client
