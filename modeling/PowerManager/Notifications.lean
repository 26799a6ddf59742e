import PowerManager.Machine
import PowerManager.Types
import Mathlib.Data.List.Nodup
import Mathlib.Logic.Function.Basic

/-!
# Notifications and registered clients

A client registers a sink for one of six interfaces. Five kinds of notifications are dispatched in a
loop over the registered sinks, under `_callbackLock`. The lock is recursive: while a sink is being
notified, it may register and unregister sinks, and a notification may cause another one. The
pre-change notification is not dispatched: a loop that takes no lock submits a job for every sink to
the worker pool, and a job holds no reference to its sink.

The module introduces:

* `Cursor` — how far a loop over the sinks has got; a loop does not survive the removal of the
  sink it is at;
* `notifications` — the machine of registrations, loops and jobs, in any order;
* `invoked_registered` — as long as no sink is unregistered that a loop is at or a job is queued
  for, only registered sinks are notified.
-/

namespace PowerManager

/-- The interfaces of `Exchange::IPowerManager` that clients implement. -/
inductive Interface
  | reboot
  | modePreChange
  | modeChanged
  | deepSleepTimeout
  | networkStandbyModeChanged
  | thermalModeChanged
  deriving DecidableEq, Repr

/-- `Exchange::IPowerManager::ThermalTemperature`. -/
inductive ThermalTemperature
  | unknown
  | normal
  | high
  | critical
  deriving DecidableEq, Repr

/-- A method of a client, with its arguments. -/
inductive Notification
  | onRebootBegin (rebootReasonCustom rebootReasonOther rebootRequestor : String)
  | onPowerModePreChange (currentState newState : PowerState) (transactionId : ℤ)
      (timeOut : UInt32)
  | onPowerModeChanged (prevState newState : PowerState)
  | onDeepSleepTimeout (timeout : UInt32)
  | onNetworkStandbyModeChanged (enabled : Bool)
  /-- The temperature is given by the bits of its `float`. -/
  | onThermalModeChanged (currentThermalLevel newThermalLevel : ThermalTemperature)
      (currentTemperature : UInt32)
  deriving DecidableEq, Repr

/-- The interface that a method belongs to. -/
def Notification.interface : Notification → Interface
  | .onRebootBegin .. => .reboot
  | .onPowerModePreChange .. => .modePreChange
  | .onPowerModeChanged .. => .modeChanged
  | .onDeepSleepTimeout _ => .deepSleepTimeout
  | .onNetworkStandbyModeChanged _ => .networkStandbyModeChanged
  | .onThermalModeChanged .. => .thermalModeChanged

/-- The iterator of a loop over the registered sinks. -/
inductive Cursor (S : Type*)
  | visiting (sink : S)
  /-- The element that the iterator points to has been erased. -/
  | dangling
  deriving DecidableEq, Repr

/-- A loop over the registered sinks. -/
structure Loop (S : Type*) where
  notification : Notification
  cursor : Cursor S
  deriving DecidableEq, Repr

/-- A loop that is at the sink is left with a dangling iterator. -/
def Loop.erase {S : Type*} [DecidableEq S] (i : Interface) (sink : S) (loop : Loop S) : Loop S :=
  if loop.notification.interface = i ∧ loop.cursor = .visiting sink then
    { loop with cursor := .dangling }
  else loop

/-- The sink that follows another one in a list. -/
def follower {S : Type*} [DecidableEq S] (sink : S) : List S → Option S
  | [] => none
  | s :: rest => if s = sink then rest.head? else follower sink rest

/-- The sink to which a loop goes on. A dangling iterator may lead anywhere: to `wild`, or to the
end of the loop. -/
def Cursor.next {S : Type*} [DecidableEq S] (sinks : List S) (wild : Option S) : Cursor S → Option S
  | .visiting sink => follower sink sinks
  | .dangling => wild

/-- A job of the worker pool, which notifies one sink. -/
structure LambdaJob (S : Type*) where
  sink : S
  notification : Notification
  deriving DecidableEq, Repr

/-- The clients of `PowerManagerImplementation`, and its notifications. -/
structure Notifications (S : Type*) where
  /-- The lists of registered sinks. -/
  sinks : Interface → List S
  /-- The loops of the thread that holds `_callbackLock`, the innermost one first. -/
  dispatches : List (Loop S)
  /-- The loop of `submitPowerModePreChangeEvent`. `selfLock` lets only one of them run. -/
  submission : Option (Loop S)
  /-- The jobs that the worker pool has yet to run, in no particular order. -/
  jobs : List (LambdaJob S)

namespace Notifications

variable {S : Type*} [DecidableEq S]

/-- What happens outwards. -/
inductive Output (S : Type*)
  /-- A method of a sink is called. -/
  | invoke (sink : S) (notification : Notification)
  /-- `Register` or `Unregister` returns. -/
  | returned (errorCode : ErrorCode)
  deriving DecidableEq, Repr

/-- `Register`. -/
def register (n : Notifications S) (i : Interface) (sink : S) : Notifications S × List (Output S) :=
  if sink ∈ n.sinks i then
    (n, [.returned .errorGeneral])
  else
    ({ n with sinks := Function.update n.sinks i (n.sinks i ++ [sink]) }, [.returned .errorNone])

/-- `Unregister`. -/
def unregister (n : Notifications S) (i : Interface) (sink : S) :
    Notifications S × List (Output S) :=
  if sink ∈ n.sinks i then
    ({ n with
        sinks := Function.update n.sinks i ((n.sinks i).erase sink)
        -- the lock is recursive: a sink may get here from within a loop over the list
        dispatches := n.dispatches.map (Loop.erase i sink)
        submission := n.submission.map (Loop.erase i sink) },
      [.returned .errorNone])
  else
    (n, [.returned .errorGeneral])

/-- `dispatch*Event` begins: the first sink is notified. -/
def dispatch (n : Notifications S) (notification : Notification) :
    Notifications S × List (Output S) :=
  match (n.sinks notification.interface).head? with
  | none => (n, [])
  | some sink =>
    ({ n with dispatches := ⟨notification, .visiting sink⟩ :: n.dispatches },
      [.invoke sink notification])

/-- A sink returns to the innermost loop, and the next one is notified. -/
def dispatchNext (n : Notifications S) (loop : Loop S) (outer : List (Loop S)) (wild : Option S) :
    Notifications S × List (Output S) :=
  match Cursor.next (n.sinks loop.notification.interface) wild loop.cursor with
  | none => ({ n with dispatches := outer }, [])
  | some sink =>
    ({ n with dispatches := ⟨loop.notification, .visiting sink⟩ :: outer },
      [.invoke sink loop.notification])

/-- `submitPowerModePreChangeEvent` begins, or goes on: a job for the sink, if there is one. -/
def submitJob (n : Notifications S) (notification : Notification) :
    Option S → Notifications S × List (Output S)
  | none => ({ n with submission := none }, [])
  | some sink =>
    ({ n with
        submission := some ⟨notification, .visiting sink⟩
        jobs := n.jobs ++ [⟨sink, notification⟩] },
      [])

/-- A step of a client, of a thread that notifies, or of the worker pool. -/
inductive Label (S : Type*)
  | register (i : Interface) (sink : S)
  | unregister (i : Interface) (sink : S)
  /-- A thread gets `_callbackLock`, or has it and is notifying a sink, and begins a loop. -/
  | dispatch (notification : Notification)
  | dispatchNext (wild : Option S)
  /-- `SetPowerState` begins to submit the pre-change event. -/
  | submit (currentState newState : PowerState) (transactionId : ℤ) (timeOut : UInt32)
  | submitNext (wild : Option S)
  /-- The worker pool runs the job at the index. -/
  | runJob (index : ℕ)
  deriving DecidableEq, Repr

/-- The clients, the loops and the worker pool as a machine. -/
def notifications : Machine (Notifications S) (Label S) (Output S) where
  step n
    | .register i sink => some (n.register i sink)
    | .unregister i sink => some (n.unregister i sink)
    | .dispatch notification =>
      -- pre-change notifications have no dispatch function
      if notification.interface = .modePreChange then none else some (n.dispatch notification)
    | .dispatchNext wild =>
      match n.dispatches with
      | [] => none
      | loop :: outer => some (n.dispatchNext loop outer wild)
    | .submit currentState newState transactionId timeOut =>
      if n.submission.isSome then none
      else
        let notification := .onPowerModePreChange currentState newState transactionId timeOut
        some (n.submitJob notification (n.sinks .modePreChange).head?)
    | .submitNext wild =>
      match n.submission with
      | none => none
      | some loop =>
        let sinks := n.sinks loop.notification.interface
        some (n.submitJob loop.notification (Cursor.next sinks wild loop.cursor))
    | .runJob index =>
      match n.jobs[index]? with
      | none => none
      -- the job has only the pointer: the list is not consulted
      | some job =>
        some ({ n with jobs := n.jobs.eraseIdx index }, [.invoke job.sink job.notification])

/-- Nobody is registered. -/
def initial : Notifications S where
  sinks _ := []
  dispatches := []
  submission := none
  jobs := []

/-! ## The invariant -/

/-- A loop is at the sink, or a job is queued for it. -/
def InUse (n : Notifications S) (i : Interface) (sink : S) : Prop :=
  (∃ loop ∈ n.dispatches ++ n.submission.toList,
      loop.notification.interface = i ∧ loop.cursor = .visiting sink) ∨
    ∃ job ∈ n.jobs, job.notification.interface = i ∧ job.sink = sink

instance (n : Notifications S) (i : Interface) (sink : S) : Decidable (n.InUse i sink) :=
  inferInstanceAs (Decidable (_ ∨ _))

/-- No sink is unregistered while it is in use. -/
def Careful (n : Notifications S) : Label S → Prop
  | .unregister i sink => ¬n.InUse i sink
  | _ => True

instance (n : Notifications S) (l : Label S) : Decidable (n.Careful l) :=
  match l with
  | .unregister _ _ => inferInstanceAs (Decidable (¬_))
  | .register _ _ | .dispatch _ | .dispatchNext _ | .submit _ _ _ _ | .submitNext _ | .runJob _ =>
    inferInstanceAs (Decidable True)

/-- The loops are at registered sinks, and the jobs are for registered sinks. -/
structure Inv (n : Notifications S) : Prop where
  nodup : ∀ i, (n.sinks i).Nodup
  dispatches : ∀ loop ∈ n.dispatches,
    ∃ sink ∈ n.sinks loop.notification.interface, loop.cursor = .visiting sink
  submission : ∀ loop ∈ n.submission,
    ∃ sink ∈ n.sinks loop.notification.interface, loop.cursor = .visiting sink
  jobs : ∀ job ∈ n.jobs, job.sink ∈ n.sinks job.notification.interface

variable {n n' : Notifications S} {l : Label S} {os : List (Output S)} {i : Interface} {sink s : S}
  {m : Notification}

/-- A loop goes on to a sink of its list. -/
theorem mem_of_follower {sinks : List S} (h : follower sink sinks = some s) : s ∈ sinks := by
  induction sinks with
  | nil => cases h
  | cons s' rest ih =>
    simp only [follower] at h
    split at h
    · -- the sink is here, and the loop goes on to what follows
      exact List.mem_cons_of_mem _ (List.mem_of_mem_head? h)
    · exact List.mem_cons_of_mem _ (ih h)

omit [DecidableEq S] in
/-- Nobody is registered at first. -/
theorem inv_initial : (initial : Notifications S).Inv := by
  constructor <;> simp [initial]

/-- `Register` keeps the sinks that are registered. -/
theorem subset_register (n : Notifications S) (i : Interface) (sink : S) (j : Interface) :
    n.sinks j ⊆ (n.register i sink).1.sinks j := by
  unfold register
  split
  · exact List.Subset.refl _
  · rcases eq_or_ne j i with rfl | hj
    · simp
    · simp [hj]

/-- `Register` registers no sink twice. -/
theorem nodup_register (h : ∀ i, (n.sinks i).Nodup) (i : Interface) (sink : S) (j : Interface) :
    ((n.register i sink).1.sinks j).Nodup := by
  unfold register
  split
  · exact h j
  · rename_i hnew
    rcases eq_or_ne j i with rfl | hj
    · simpa [List.nodup_append] using ⟨h j, fun s hs hsame => hnew (hsame ▸ hs)⟩
    · simpa [hj] using h j

@[simp]
theorem register_jobs (n : Notifications S) (i : Interface) (sink : S) :
    (n.register i sink).1.jobs = n.jobs := by
  unfold register
  split <;> rfl

/-- `Register` keeps the invariant. -/
theorem Inv.register (hI : n.Inv) (i : Interface) (sink : S) : (n.register i sink).1.Inv := by
  have hsub := n.subset_register i sink
  have hframe : (n.register i sink).1.dispatches = n.dispatches ∧
      (n.register i sink).1.submission = n.submission := by
    unfold Notifications.register
    split <;> exact ⟨rfl, rfl⟩
  obtain ⟨hdispatches, hsubmission⟩ := hframe
  refine ⟨nodup_register hI.nodup i sink, ?_, ?_, ?_⟩
  · rw [hdispatches]
    intro loop hloop
    obtain ⟨s, hs, hcursor⟩ := hI.dispatches loop hloop
    exact ⟨s, hsub _ hs, hcursor⟩
  · rw [hsubmission]
    intro loop hloop
    obtain ⟨s, hs, hcursor⟩ := hI.submission loop hloop
    exact ⟨s, hsub _ hs, hcursor⟩
  · rw [register_jobs]
    exact fun job hjob => hsub _ (hI.jobs job hjob)

/-- A sink that is not the erased one stays registered. -/
theorem mem_erase_sinks {j : Interface} (hs : s ∈ n.sinks j) (hne : ¬(j = i ∧ s = sink)) :
    s ∈ Function.update n.sinks i ((n.sinks i).erase sink) j := by
  rcases eq_or_ne j i with rfl | hj
  · have hsink : s ≠ sink := fun h => hne ⟨rfl, h⟩
    simpa using (List.mem_erase_of_ne hsink).mpr hs
  · simpa [hj] using hs

/-- A loop that is not at the erased sink is at a sink that stays registered. -/
theorem erase_loop {loop : Loop S}
    (hloop : ∃ s ∈ n.sinks loop.notification.interface, loop.cursor = .visiting s)
    (hfree : ¬(loop.notification.interface = i ∧ loop.cursor = .visiting sink)) :
    ∃ s ∈ Function.update n.sinks i ((n.sinks i).erase sink)
        (loop.erase i sink).notification.interface, (loop.erase i sink).cursor = .visiting s := by
  obtain ⟨s, hs, hcursor⟩ := hloop
  rw [Loop.erase, if_neg hfree]
  refine ⟨s, mem_erase_sinks hs ?_, hcursor⟩
  rintro ⟨hi, rfl⟩
  exact hfree ⟨hi, hcursor⟩

/-- `Unregister` leaves the other sinks as they are. -/
theorem nodup_unregister (h : ∀ i, (n.sinks i).Nodup) (i : Interface) (sink : S) (j : Interface) :
    ((n.unregister i sink).1.sinks j).Nodup := by
  unfold unregister
  split
  · rcases eq_or_ne j i with rfl | hj
    · simpa using (h j).erase sink
    · simpa [hj] using h j
  · exact h j

@[simp]
theorem unregister_jobs (n : Notifications S) (i : Interface) (sink : S) :
    (n.unregister i sink).1.jobs = n.jobs := by
  unfold unregister
  split <;> rfl

/-- `Unregister` removes no other sink. -/
theorem mem_unregister {j : Interface} (hs : s ∈ n.sinks j) (hne : ¬(j = i ∧ s = sink)) :
    s ∈ (n.unregister i sink).1.sinks j := by
  unfold unregister
  split
  · exact mem_erase_sinks hs hne
  · exact hs

/-- `Unregister` of a sink that is not in use leaves the loops and the jobs with registered
sinks. -/
theorem Inv.unregister (hI : n.Inv) (hfree : ¬n.InUse i sink) : (n.unregister i sink).1.Inv := by
  have hnodup := nodup_unregister hI.nodup i sink
  unfold Notifications.unregister at hnodup ⊢
  split
  · rename_i hmem
    rw [if_pos hmem] at hnodup
    refine ⟨hnodup, ?_, ?_, ?_⟩
    · -- no loop is at the erased sink, and so none is left dangling
      rintro loop' hloop'
      obtain ⟨loop, hloop, rfl⟩ := List.mem_map.mp hloop'
      exact erase_loop (hI.dispatches loop hloop) fun h =>
        hfree (.inl ⟨loop, List.mem_append_left _ hloop, h⟩)
    · rintro loop' hloop'
      obtain ⟨loop, hloop, rfl⟩ := Option.map_eq_some_iff.mp hloop'
      exact erase_loop (hI.submission loop hloop) fun h =>
        hfree (.inl ⟨loop, List.mem_append_right _ (Option.mem_toList.mpr hloop), h⟩)
    · intro job hjob
      exact mem_erase_sinks (hI.jobs job hjob) fun h => hfree (.inr ⟨job, hjob, h⟩)
  · exact hI

/-- A loop over sinks that is at one of them goes on to one of them. -/
theorem mem_of_next {loop : Loop S} {wild : Option S}
    (hloop : ∃ s ∈ n.sinks loop.notification.interface, loop.cursor = .visiting s)
    (h : Cursor.next (n.sinks loop.notification.interface) wild loop.cursor = some sink) :
    sink ∈ n.sinks loop.notification.interface := by
  obtain ⟨s, -, hcursor⟩ := hloop
  rw [hcursor] at h
  exact mem_of_follower h

omit [DecidableEq S] in
/-- A job is submitted for a registered sink. -/
theorem Inv.submitJob (hI : n.Inv) {sink? : Option S}
    (hsink : ∀ s ∈ sink?, s ∈ n.sinks m.interface) : (n.submitJob m sink?).1.Inv := by
  cases sink? with
  | none => exact ⟨hI.nodup, hI.dispatches, by simp [Notifications.submitJob], hI.jobs⟩
  | some s =>
    have hs := hsink s rfl
    refine ⟨hI.nodup, hI.dispatches, ?_, ?_⟩
    · rintro loop ⟨⟩
      exact ⟨s, hs, rfl⟩
    · intro job hjob
      rcases List.mem_append.mp hjob with hjob | hjob
      · exact hI.jobs job hjob
      · obtain rfl := List.mem_singleton.mp hjob
        exact hs

omit [DecidableEq S] in
/-- A submission notifies nobody. -/
theorem submitJob_snd (n : Notifications S) (m : Notification) (sink? : Option S) :
    (n.submitJob m sink?).2 = [] := by
  cases sink? <;> rfl

omit [DecidableEq S] in
/-- What an operation gives is the next state and the calls of a step that is not refused. -/
theorem eq_of_step {r : Notifications S × List (Output S)} (h : some r = some (n', os)) :
    r.1 = n' ∧ r.2 = os := by
  cases h
  exact ⟨rfl, rfl⟩

/-- A careful step keeps the invariant, and it notifies registered sinks only. -/
theorem inv_step (hI : n.Inv) (hl : n.Careful l) (h : notifications.step n l = some (n', os)) :
    n'.Inv ∧ ∀ s m, .invoke s m ∈ os → s ∈ n.sinks m.interface := by
  cases l with
  | register i sink =>
    obtain ⟨rfl, rfl⟩ := eq_of_step h
    refine ⟨hI.register i sink, fun s m hmem => ?_⟩
    unfold register at hmem
    split at hmem <;> simp at hmem
  | unregister i sink =>
    obtain ⟨rfl, rfl⟩ := eq_of_step h
    refine ⟨hI.unregister hl, fun s m hmem => ?_⟩
    unfold unregister at hmem
    split at hmem <;> simp at hmem
  | dispatch notification =>
    simp only [notifications] at h
    split at h
    · cases h
    · obtain ⟨rfl, rfl⟩ := eq_of_step h
      unfold dispatch
      split
      · exact ⟨hI, by simp⟩
      · rename_i sink hhead
        have hsink := List.mem_of_mem_head? hhead
        refine ⟨⟨hI.nodup, List.forall_mem_cons.mpr ⟨⟨sink, hsink, rfl⟩, hI.dispatches⟩,
          hI.submission, hI.jobs⟩, fun s m hmem => ?_⟩
        obtain ⟨rfl, rfl⟩ : s = sink ∧ m = notification := by simpa using hmem
        exact hsink
  | dispatchNext wild =>
    simp only [notifications] at h
    split at h
    · cases h
    · rename_i loop outer hstack
      have hall := hI.dispatches
      rw [hstack, List.forall_mem_cons] at hall
      obtain ⟨rfl, rfl⟩ := eq_of_step h
      unfold dispatchNext
      split
      · exact ⟨⟨hI.nodup, hall.2, hI.submission, hI.jobs⟩, by simp⟩
      · rename_i sink hnext
        have hsink := mem_of_next hall.1 hnext
        refine ⟨⟨hI.nodup, List.forall_mem_cons.mpr ⟨⟨sink, hsink, rfl⟩, hall.2⟩,
          hI.submission, hI.jobs⟩, fun s m hmem => ?_⟩
        obtain ⟨rfl, rfl⟩ : s = sink ∧ m = loop.notification := by simpa using hmem
        exact hsink
  | submit currentState newState transactionId timeOut =>
    simp only [notifications] at h
    split at h
    · cases h
    · obtain ⟨rfl, rfl⟩ := eq_of_step h
      refine ⟨hI.submitJob fun s hs => List.mem_of_mem_head? hs, ?_⟩
      rw [submitJob_snd]
      simp
  | submitNext wild =>
    simp only [notifications] at h
    split at h
    · cases h
    · rename_i loop hsubmission
      obtain ⟨rfl, rfl⟩ := eq_of_step h
      refine ⟨hI.submitJob fun s hs =>
        mem_of_next (hI.submission loop hsubmission) hs, ?_⟩
      rw [submitJob_snd]
      simp
  -- jobs have been queued for registered sinks, and these have stayed registered
  | runJob index =>
    simp only [notifications] at h
    split at h
    · cases h
    · rename_i job hjob
      have hmem := List.mem_of_getElem? hjob
      obtain ⟨rfl, rfl⟩ := eq_of_step h
      refine ⟨⟨hI.nodup, hI.dispatches, hI.submission, ?_⟩, fun s m hout => ?_⟩
      · exact fun job' hjob' => hI.jobs job' (List.mem_of_mem_eraseIdx hjob')
      · obtain ⟨rfl, rfl⟩ : s = job.sink ∧ m = job.notification := by simpa using hout
        exact hI.jobs job hmem

/-! ## Runs -/

omit [DecidableEq S] in
/-- The loops do not change the lists. -/
@[simp]
theorem dispatch_sinks (n : Notifications S) (m : Notification) :
    (n.dispatch m).1.sinks = n.sinks := by
  unfold dispatch
  split <;> rfl

@[simp]
theorem dispatchNext_sinks (n : Notifications S) (loop : Loop S) (outer : List (Loop S))
    (wild : Option S) : (n.dispatchNext loop outer wild).1.sinks = n.sinks := by
  unfold dispatchNext
  split <;> rfl

omit [DecidableEq S] in
@[simp]
theorem submitJob_sinks (n : Notifications S) (m : Notification) (sink? : Option S) :
    (n.submitJob m sink?).1.sinks = n.sinks := by
  cases sink? <;> rfl

/-- Only `Register` and `Unregister` change the lists. -/
theorem sinks_cases (h : notifications.step n l = some (n', os)) :
    (∃ j s, l = .register j s ∧ n' = (n.register j s).1) ∨
      (∃ j s, l = .unregister j s ∧ n' = (n.unregister j s).1) ∨ n'.sinks = n.sinks := by
  cases l with
  | register j s => exact .inl ⟨j, s, rfl, (eq_of_step h).1.symm⟩
  | unregister j s => exact .inr (.inl ⟨j, s, rfl, (eq_of_step h).1.symm⟩)
  | dispatch _ | dispatchNext _ | submit _ _ _ _ | submitNext _ | runJob _ =>
    simp only [notifications] at h
    split at h
    · cases h
    · rw [← (eq_of_step h).1]
      simp

/-- A step that does not register a sink leaves it unregistered. -/
theorem not_mem_step (hnew : l ≠ .register i sink) (hout : sink ∉ n.sinks i)
    (h : notifications.step n l = some (n', os)) : sink ∉ n'.sinks i := by
  rcases sinks_cases h with ⟨j, s, rfl, rfl⟩ | ⟨j, s, rfl, rfl⟩ | hsinks
  · unfold register
    split
    · exact hout
    · rcases eq_or_ne i j with rfl | hj
      · have hs : sink ≠ s := fun hs => hnew (hs ▸ rfl)
        simpa using ⟨hout, hs⟩
      · simpa [hj] using hout
  · unfold unregister
    split
    · rcases eq_or_ne i j with rfl | hj
      · simpa using fun hmem => hout (List.mem_of_mem_erase hmem)
      · simpa [hj] using hout
    · exact hout
  · rwa [hsinks]

/-- A run that does not register a sink leaves it unregistered. -/
theorem not_mem_run {ls : List (Label S)} (hnew : .register i sink ∉ ls)
    (hout : sink ∉ n.sinks i) (h : notifications.Run n ls os n') : sink ∉ n'.sinks i := by
  induction h with
  | nil => exact hout
  | snoc _ hstep ih =>
    refine not_mem_step (fun hl => hnew ?_) (ih fun hmem => hnew ?_) hstep
    · simp [hl]
    · simp [hmem]

/-- `Unregister` removes a sink from the list, in which it is only once. -/
theorem not_mem_unregister (hI : n.Inv) : sink ∉ (n.unregister i sink).1.sinks i := by
  unfold unregister
  split
  · simpa using (hI.nodup i).not_mem_erase
  · assumption

/-- In every run in which no sink is unregistered while it is in use, every sink that is notified is
registered at that moment; and after `Unregister` a sink is not notified until it is registered
again. -/
theorem invoked_registered {ls : List (Label S)} (hC : notifications.Along Careful initial ls) :
    (∀ pre l post os t t' os', ls = pre ++ l :: post → notifications.Run initial pre os t →
      notifications.step t l = some (t', os') →
        ∀ s m, .invoke s m ∈ os' → s ∈ t.sinks m.interface) ∧
    ∀ pre i sink mid l post os₁ os₂ t v t' os',
      ls = pre ++ .unregister i sink :: (mid ++ l :: post) → .register i sink ∉ mid →
      notifications.Run initial (pre ++ [.unregister i sink]) os₁ t →
      notifications.Run t mid os₂ v → notifications.step v l = some (t', os') →
        ∀ m, .invoke sink m ∈ os' → m.interface ≠ i := by
  have hinv : ∀ pre post os t, ls = pre ++ post → notifications.Run initial pre os t → t.Inv := by
    rintro pre post os t rfl hrun
    exact hrun.invariant_along hC.left inv_initial fun _ _ _ _ hI hl h => (inv_step hI hl h).1
  have hinvoke : ∀ pre l post os t t' os', ls = pre ++ l :: post →
      notifications.Run initial pre os t → notifications.step t l = some (t', os') →
        ∀ s m, .invoke s m ∈ os' → s ∈ t.sinks m.interface := by
    intro pre l post os t t' os' hcut hrun hstep
    exact (inv_step (hinv pre _ os t hcut hrun) (hC pre l post os t hcut hrun) hstep).2
  refine ⟨hinvoke, ?_⟩
  rintro pre i sink mid l post os₁ os₂ t v t' os' hcut hnew hrun hmid hstep m hmem rfl
  -- `Unregister` is the last step before `t`, and erases the only entry of the sink
  obtain ⟨u, os₃, os₄, -, hpre, hunregister⟩ := hrun.snoc_inv
  have hu := hinv pre _ _ u hcut hpre
  have ht : sink ∉ t.sinks m.interface := by
    have heq : u.unregister m.interface sink = (t, os₄) := Option.some.inj hunregister
    have hout : sink ∉ (u.unregister m.interface sink).1.sinks m.interface := not_mem_unregister hu
    rwa [heq] at hout
  -- the sink has stayed out of the list, but the implementation notifies only what is in it
  refine not_mem_run hnew ht hmid ?_
  exact hinvoke (pre ++ [.unregister m.interface sink] ++ mid) l post _ v t' os' (by simp [hcut])
    (hrun.trans hmid) hstep sink m hmem

/-- A sink is notified of a change, is unregistered, and another one is notified. -/
theorem invoked_registered_two :
    let m : Notification := .onPowerModeChanged .on .standby
    ∃ os t, notifications.Run initial
        [.register .modeChanged 1, .register .modeChanged 2, .register .modePreChange 1,
          .submit .on .standby 1 1, .submitNext none, .runJob 0, .dispatch m, .dispatchNext none,
          .dispatchNext none, .unregister .modeChanged 1, .unregister .modePreChange 1] os t ∧
      notifications.step t (.dispatch m) = some (⟨t.sinks, [⟨m, .visiting 2⟩], none, []⟩,
        [.invoke 2 m]) ∧ 2 ∈ t.sinks .modeChanged := by
  intro m
  have hrun : notifications.Run initial [.register .modeChanged 1, .register .modeChanged 2,
      .register .modePreChange 1, .submit .on .standby 1 1, .submitNext none, .runJob 0,
      .dispatch m, .dispatchNext none, .dispatchNext none, .unregister .modeChanged 1,
      .unregister .modePreChange 1] _ _ := Machine.run_of_exec rfl
  have hcareful : notifications.Along Careful initial [.register .modeChanged 1,
      .register .modeChanged 2, .register .modePreChange 1, .submit .on .standby 1 1,
      .submitNext none, .runJob 0, .dispatch m, .dispatchNext none, .dispatchNext none,
      .unregister .modeChanged 1, .unregister .modePreChange 1, .dispatch m] :=
    Machine.along_of_check (by decide)
  refine ⟨_, _, hrun, rfl, ?_⟩
  exact (invoked_registered hcareful).1 _ (.dispatch m) [] _ _ _ _ rfl hrun rfl 2 m (.head _)

/-- A sink is unregistered while a job is queued for it, and is notified after `Unregister` has
returned. A sink unregisters itself while it is being notified, and the loop goes on to a sink that
was never registered. -/
theorem invoked_unregistered :
    (∃ t, notifications.Run initial
        [.register .modePreChange 1, .submit .on .standby 1 1, .submitNext none,
          .unregister .modePreChange 1, .runJob 0]
        [.returned .errorNone, .returned .errorNone,
          .invoke 1 (.onPowerModePreChange .on .standby 1 1)] t ∧ t.sinks .modePreChange = []) ∧
    ∃ t, notifications.Run initial
        [.register .modeChanged 1, .dispatch (.onPowerModeChanged .on .standby),
          .unregister .modeChanged 1, .dispatchNext (some 2)]
        [.returned .errorNone, .invoke 1 (.onPowerModeChanged .on .standby), .returned .errorNone,
          .invoke 2 (.onPowerModeChanged .on .standby)] t ∧ t.sinks .modeChanged = [] :=
  ⟨⟨_, Machine.run_of_exec rfl, rfl⟩, _, Machine.run_of_exec rfl, rfl⟩

end Notifications

end PowerManager
