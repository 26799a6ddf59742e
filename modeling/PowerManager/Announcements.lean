import PowerManager.Implementation.Changes

/-!
# Announcements of a transition

`SetPowerState` submits the pre-change notifications to the worker pool, and the completion handler
notifies the sinks of the change in its own thread. Nothing makes the handler wait for the worker
pool: if there is nobody to acknowledge, `Schedule` runs it at once.

The module introduces:

* `announcer` — the machine of the implementation, its clients, the loops that notify them of a
  change, and the worker pool;
* `Announcer.InOrder` — a sink is notified of the pre-change before another is notified of the
  change;
* `preChange_before_changed_iff` — this is so, however slow the worker pool is, exactly if no
  transition is completed with a job for the sink in the queue.
-/

namespace PowerManager

/-! ## The machine -/

/-- A call of a sink, and the transition that it is about. -/
structure Announcement (S : Type*) extends LambdaJob S where
  transactionId : ℤ
  deriving DecidableEq, Repr

/-- The implementation and its clients. -/
structure Announcer (S : Type*) where
  pm : Implementation
  clients : Notifications S
  /-- The changes of the power state that wait for `_callbackLock`, and the transitions that made
  them. -/
  changes : List (Notification × ℤ)
  /-- The transitions that the loops in `clients.dispatches` are about. -/
  transactions : List ℤ

namespace Notifications

variable {S : Type*}

/-- The loops of `submitPowerModePreChangeEvent`, from their beginnings to their ends. -/
def submitAll (n : Notifications S) (es : List Event) : Notifications S :=
  { n with
    jobs := n.jobs ++
      (es.filterMap Event.preChange?).flatMap fun m => (n.sinks .modePreChange).map (⟨·, m⟩) }

/-- A call of a sink, in a loop that is about a transition. -/
def Output.announcement? (transactionId : ℤ) : Output S → Option (Announcement S)
  | .invoke sink notification => some ⟨⟨sink, notification⟩, transactionId⟩
  | .returned _ => none

end Notifications

/-- The transaction id in the arguments of a pre-change notification. -/
def Notification.transactionId : Notification → ℤ
  | .onPowerModePreChange _ _ transactionId _ => transactionId
  | _ => 0

namespace Announcer

variable {S : Type*} [DecidableEq S]

/-- A step of the implementation, of a client, of a loop, or of the worker pool. -/
inductive Label (S : Type*)
  | implementation (l : PowerManager.Label)
  | register (i : Interface) (sink : S)
  | unregister (i : Interface) (sink : S)
  /-- A thread that has changed the power state begins to notify the sinks. -/
  | dispatch (index : ℕ)
  | dispatchNext (wild : Option S)
  | runJob (index : ℕ)

/-- A step of a loop that notifies the sinks of a change. -/
def Label.isDispatch : Label S → Bool
  | .dispatch _ | .dispatchNext _ => true
  | _ => false

/-- What a step of a loop, about the transition, comes to: the loop has ended, or is at a sink. -/
def proceed (a : Announcer S) (transactionId : ℤ) (outer : List ℤ)
    (r : Notifications S × List (Notifications.Output S)) :
    Announcer S × List (Announcement S) :=
  ({ a with
      clients := r.1
      transactions := if r.2.isEmpty then outer else transactionId :: outer },
    r.2.filterMap (Notifications.Output.announcement? transactionId))

/-- The implementation, its clients and the worker pool as a machine. Its outputs are the calls of
the sinks. The loop that submits the jobs is one step with the section that it belongs to, as
`Schedule` comes after it. -/
def announcer : Machine (Announcer S) (Label S) (Announcement S) where
  step a
    | .implementation l =>
      match implementation.step a.pm l with
      | none => none
      | some (pm, es) =>
        some ({ a with
          pm
          -- the jobs are submitted by the thread that makes the step
          clients := a.clients.submitAll es
          changes := a.changes ++
            (es.filterMap Event.modeChanged?).map (·, a.pm.transactionId?.getD 0) }, [])
    | .register i sink => some ({ a with clients := (a.clients.register i sink).1 }, [])
    | .unregister i sink => some ({ a with clients := (a.clients.unregister i sink).1 }, [])
    | .dispatch index =>
      match a.changes[index]? with
      | none => none
      | some (notification, transactionId) =>
        some ({ a with changes := a.changes.eraseIdx index }.proceed transactionId a.transactions
          (a.clients.dispatch notification))
    | .dispatchNext wild =>
      match a.clients.dispatches, a.transactions with
      -- the sink returns to the innermost loop of the thread with `_callbackLock`
      | loop :: outer, transactionId :: transactions =>
        some (a.proceed transactionId transactions (a.clients.dispatchNext loop outer wild))
      | _, _ => none
    -- a job carries its transition in its arguments
    | .runJob index =>
      match a.clients.jobs[index]? with
      | none => none
      | some job =>
        some ({ a with clients := { a.clients with jobs := a.clients.jobs.eraseIdx index } },
          [⟨job, job.notification.transactionId⟩])

/-- The implementation after construction, without clients. -/
def initial (pc : PowerController) (transactionId : ℤ) (clientId : UInt32) : Announcer S where
  pm := .initial pc transactionId clientId
  clients := .initial
  changes := []
  transactions := []

/-- The changes that the sinks are being notified of, or are to be notified of. -/
def owed (a : Announcer S) : List (Notification × ℤ) :=
  a.changes ++ (a.clients.dispatches.map (·.notification)).zip a.transactions

/-- The transactions of the pre-change notifications of a sink. -/
def preChangeIds (p : S) (jobs : List (LambdaJob S)) : List ℤ :=
  (jobs.filter fun job => job.sink = p ∧ job.notification.interface = .modePreChange).map
    (·.notification.transactionId)

/-- The calls that have been made. -/
def told (os : List (Announcement S)) : List (LambdaJob S) :=
  os.map (·.toLambdaJob)

/-- Whenever the sink `c` is notified of a change, by a transition that is later than `base`, the
sink `p` has been notified of the pre-change of that transition. -/
def InOrder (base : ℤ) (p c : S) (os : List (Announcement S)) : Prop :=
  ∀ before x after, os = before ++ x :: after → x.sink = c →
    x.notification.interface = .modeChanged → base < x.transactionId →
      x.transactionId ∈ preChangeIds p (told before)

/-- A transition later than `base` changes the power state only when no job with its pre-change
notification for the sink `p` is in the queue. -/
def Ready (base : ℤ) (p : S) (a : Announcer S) : Label S → Prop
  | .implementation l =>
    a.pm.Changes l → base < a.pm.nextTransactionId →
      a.pm.nextTransactionId ∉ preChangeIds p a.clients.jobs
  | _ => True

instance (base : ℤ) (p : S) (a : Announcer S) (l : Label S) : Decidable (Ready base p a l) :=
  match l with
  | .implementation _ => inferInstanceAs (Decidable (_ → _ → _))
  | .register _ _ | .unregister _ _ | .dispatch _ | .dispatchNext _ | .runJob _ =>
    inferInstanceAs (Decidable True)

/-! ## The calls of a sink -/

variable {a a' : Announcer S} {l : Label S} {ls : List (Label S)} {os os' : List (Announcement S)}
  {p c : S} {base t : ℤ} {m : Notification}

theorem preChangeIds_append (p : S) (jobs jobs' : List (LambdaJob S)) :
    preChangeIds p (jobs ++ jobs') = preChangeIds p jobs ++ preChangeIds p jobs' := by
  simp [preChangeIds]

/-- The order of the calls does not matter. -/
theorem preChangeIds_perm {jobs jobs' : List (LambdaJob S)} (h : jobs.Perm jobs') :
    (preChangeIds p jobs).Perm (preChangeIds p jobs') :=
  (h.filter _).map _

/-- A sink that is registered gets one job from a submission. -/
theorem preChangeIds_submit {sinks : List S} (hp : p ∈ sinks) (hnodup : sinks.Nodup)
    (hm : m.interface = .modePreChange) :
    preChangeIds p (sinks.map (⟨·, m⟩)) = [m.transactionId] := by
  have hfilter : sinks.filter (· = p) = [p] := by
    rw [List.filter_eq, List.count_eq_one_of_mem hnodup hp]
    rfl
  have hcomp : ((fun job : LambdaJob S =>
      decide (job.sink = p ∧ job.notification.interface = .modePreChange)) ∘ fun s => ⟨s, m⟩) =
        fun s => decide (s = p) := by
    funext s
    simp [hm]
  rw [preChangeIds, List.filter_map, hcomp, hfilter]
  rfl

/-- To notify of a change is not to announce it in advance. -/
theorem preChangeIds_changed (h : ∀ x ∈ os, x.notification.interface = .modeChanged) :
    preChangeIds p (told os) = [] := by
  rw [preChangeIds, List.map_eq_nil_iff, List.filter_eq_nil_iff]
  intro job hjob
  obtain ⟨x, hx, rfl⟩ := List.mem_map.mp hjob
  simp [h x hx]

omit [DecidableEq S] in
theorem told_append (os os' : List (Announcement S)) : told (os ++ os') = told os ++ told os' := by
  simp [told]

/-! ## What a step does -/

/-- A step of the implementation. -/
theorem step_implementation {l : PowerManager.Label}
    (h : announcer.step a (.implementation l) = some (a', os)) :
    ∃ es, implementation.step a.pm l = some (a'.pm, es) ∧ a'.clients = a.clients.submitAll es ∧
      a'.changes =
        a.changes ++ (es.filterMap Event.modeChanged?).map (·, a.pm.transactionId?.getD 0) ∧
      a'.transactions = a.transactions ∧ os = [] := by
  simp only [announcer] at h
  split at h
  · cases h
  · rename_i pm es hstep
    cases h
    exact ⟨es, hstep, rfl, rfl, rfl, rfl⟩

/-- What the worker pool does with a job. -/
theorem step_runJob {index : ℕ} (h : announcer.step a (.runJob index) = some (a', os)) :
    ∃ job, a'.pm = a.pm ∧ a'.clients.sinks = a.clients.sinks ∧ a'.owed = a.owed ∧
      os = [⟨job, job.notification.transactionId⟩] ∧
      a.clients.jobs.Perm (job :: a'.clients.jobs) := by
  simp only [announcer] at h
  split at h
  · cases h
  · rename_i job hjob
    cases h
    obtain ⟨hlt, rfl⟩ := List.getElem?_eq_some_iff.mp hjob
    exact ⟨_, rfl, rfl, rfl, rfl, (List.getElem_cons_eraseIdx_perm hlt).symm⟩

omit [DecidableEq S] in
/-- A loop begins: it is at the first sink, if there is one. -/
theorem dispatch_cases (n : Notifications S) (m : Notification) :
    n.dispatch m = ({ n with dispatches := n.dispatches }, []) ∨
      ∃ sink, (n.sinks m.interface).head? = some sink ∧ n.dispatch m =
        ({ n with dispatches := ⟨m, .visiting sink⟩ :: n.dispatches }, [.invoke sink m]) := by
  unfold Notifications.dispatch
  split
  · exact .inl rfl
  · rename_i sink hhead
    exact .inr ⟨sink, hhead, rfl⟩

/-- A loop goes on: it ends, or is at the next sink. -/
theorem dispatchNext_cases (n : Notifications S) (loop : Loop S) (outer : List (Loop S))
    (wild : Option S) :
    n.dispatchNext loop outer wild = ({ n with dispatches := outer }, []) ∨
      ∃ sink, n.dispatchNext loop outer wild =
        ({ n with dispatches := ⟨loop.notification, .visiting sink⟩ :: outer },
          [.invoke sink loop.notification]) := by
  unfold Notifications.dispatchNext
  split
  · exact .inl rfl
  · exact .inr ⟨_, rfl⟩

omit [DecidableEq S] in
/-- A step of a loop makes no other call than the one it is about. -/
theorem proceed_spec {outer : List ℤ} {loops : List (Loop S)}
    {r : Notifications S × List (Notifications.Output S)}
    (hr : r = ({ a.clients with dispatches := loops }, []) ∨
      ∃ sink, r = ({ a.clients with dispatches := ⟨m, .visiting sink⟩ :: loops },
        [.invoke sink m])) :
    (a.proceed t outer r).1.pm = a.pm ∧
      (a.proceed t outer r).1.clients.sinks = a.clients.sinks ∧
      (a.proceed t outer r).1.clients.jobs = a.clients.jobs ∧
      (a.proceed t outer r).1.owed ⊆
        a.changes ++ (m, t) :: (loops.map (·.notification)).zip outer ∧
      ∀ x ∈ (a.proceed t outer r).2, (x.notification, x.transactionId) = (m, t) := by
  rcases hr with rfl | ⟨sink, rfl⟩
  · refine ⟨rfl, rfl, rfl, fun y hy => ?_, by simp [proceed]⟩
    rcases List.mem_append.mp hy with hchange | hloop
    · exact List.mem_append_left _ hchange
    · exact List.mem_append_right _ (List.mem_cons_of_mem _ hloop)
  · refine ⟨rfl, rfl, rfl, fun y hy => hy, fun x hx => ?_⟩
    obtain rfl : x = ⟨⟨sink, m⟩, t⟩ := by
      simpa [proceed, Notifications.Output.announcement?] using hx
    rfl

/-- A step of a loop leaves the queue alone, and makes only calls that are owed. -/
theorem step_dispatch (hl : l.isDispatch = true) (h : announcer.step a l = some (a', os)) :
    a'.pm = a.pm ∧ a'.clients.sinks = a.clients.sinks ∧ a'.clients.jobs = a.clients.jobs ∧
      a'.owed ⊆ a.owed ∧ ∀ x ∈ os, (x.notification, x.transactionId) ∈ a.owed := by
  cases l with
  | implementation l | register i sink | unregister i sink | runJob index => cases hl
  | dispatch index =>
    simp only [announcer] at h
    split at h
    · cases h
    · rename_i m t hchange
      have hmem : (m, t) ∈ a.changes := List.mem_of_getElem? hchange
      -- the loop ends at once, or stops at its first sink
      have hr : a.clients.dispatch m = ({ a.clients with dispatches := a.clients.dispatches }, []) ∨
          ∃ sink, a.clients.dispatch m =
            ({ a.clients with dispatches := ⟨m, .visiting sink⟩ :: a.clients.dispatches },
              [.invoke sink m]) := by
        rcases dispatch_cases a.clients m with hend | ⟨sink, -, hnext⟩
        · exact .inl hend
        · exact .inr ⟨sink, hnext⟩
      obtain ⟨hpm, hsinks, hjobs, howed, hcalls⟩ :=
        @proceed_spec S { a with changes := a.changes.eraseIdx index } t m a.transactions _ _ hr
      rw [Option.some.injEq, Prod.ext_iff] at h
      obtain ⟨rfl, rfl⟩ := h
      refine ⟨hpm, hsinks, hjobs, fun y hy => ?_, fun x hx => ?_⟩
      · -- nothing new is owed: the loop that begins is for a change that was
        rcases List.mem_append.mp (howed hy) with hold | hnew
        · exact List.mem_append_left _ (List.mem_of_mem_eraseIdx hold)
        · rcases List.mem_cons.mp hnew with rfl | hloop
          · exact List.mem_append_left _ hmem
          · exact List.mem_append_right _ hloop
      · rw [hcalls x hx]
        exact List.mem_append_left _ hmem
  | dispatchNext wild =>
    simp only [announcer] at h
    split at h
    · rename_i loop outer t ts hloops htransactions
      -- the innermost loop is the one that moves on
      have howed' : a.owed =
          a.changes ++ (loop.notification, t) :: (outer.map (·.notification)).zip ts := by
        rw [owed, hloops, htransactions]
        rfl
      obtain ⟨hpm, hsinks, hjobs, howed, hcalls⟩ :=
        @proceed_spec S a t loop.notification ts _ _ (dispatchNext_cases a.clients loop outer wild)
      rw [Option.some.injEq, Prod.ext_iff] at h
      obtain ⟨rfl, rfl⟩ := h
      refine ⟨hpm, hsinks, hjobs, howed'.symm ▸ howed, fun x hx => ?_⟩
      rw [hcalls x hx, howed']
      simp
    · cases h

/-! ## The invariants -/

/-- What holds of every reachable state: the transaction of the controller is the last one, the jobs
are pre-change notifications of transitions that are not later, and the loops are about their
changes. -/
structure Sound (a : Announcer S) : Prop where
  inv : a.pm.Inv
  nodup : ∀ i, (a.clients.sinks i).Nodup
  current : ∀ t ∈ a.pm.transactionId?, t = a.pm.nextTransactionId
  bound : ∀ job ∈ a.clients.jobs, job.notification.transactionId ≤ a.pm.nextTransactionId
  interface : ∀ job ∈ a.clients.jobs, job.notification.interface = .modePreChange
  owed : ∀ y ∈ a.owed, y.1.interface = .modeChanged ∧ y.2 ≤ a.pm.nextTransactionId

omit [DecidableEq S] in
theorem sound_initial (pc : PowerController) (transactionId : ℤ) (clientId : UInt32) :
    (initial pc transactionId clientId : Announcer S).Sound where
  inv := Implementation.inv_initial pc transactionId clientId
  nodup := by simp [initial, Notifications.initial]
  current := by simp [initial, Implementation.initial, Implementation.transactionId?]
  bound := by simp [initial, Notifications.initial]
  interface := by simp [initial, Notifications.initial]
  owed := by simp [initial, Announcer.owed, Notifications.initial]

/-- What is owed after a step of the implementation was owed, or is the change that it has made. -/
theorem owed_implementation {l : PowerManager.Label}
    (h : announcer.step a (.implementation l) = some (a', os)) {y : Notification × ℤ}
    (hy : y ∈ a'.owed) :
    y ∈ a.owed ∨ ∃ es, implementation.step a.pm l = some (a'.pm, es) ∧
      y.2 = a.pm.transactionId?.getD 0 ∧ ∃ prevState newState,
        .modeChanged prevState newState ∈ es ∧ y.1 = .onPowerModeChanged prevState newState := by
  obtain ⟨es, hstep, hclients, hchanges, htransactions, -⟩ := step_implementation h
  rw [owed, hclients, hchanges, htransactions] at hy
  rcases List.mem_append.mp hy with hchange | hloop
  · rcases List.mem_append.mp hchange with hold | hnew
    · exact .inl (List.mem_append_left _ hold)
    · obtain ⟨m, hm, rfl⟩ := List.mem_map.mp hnew
      obtain ⟨e, he, hem⟩ := List.mem_filterMap.mp hm
      cases e <;> simp [Event.modeChanged?] at hem
      exact .inr ⟨es, hstep, rfl, _, _, he, hem.symm⟩
  · exact .inl (List.mem_append_right _ hloop)

/-- Clients owe nothing. -/
theorem owed_register (a : Announcer S) (i : Interface) (sink : S) :
    ({ a with clients := (a.clients.register i sink).1 } : Announcer S).owed = a.owed := by
  simp only [owed, Notifications.register]
  split <;> rfl

theorem owed_unregister (a : Announcer S) (i : Interface) (sink : S) :
    ({ a with clients := (a.clients.unregister i sink).1 } : Announcer S).owed = a.owed := by
  have herase : ((·.notification) : Loop S → Notification) ∘ Loop.erase i sink =
      (·.notification) := by
    funext loop
    simp only [Function.comp, Loop.erase]
    split <;> rfl
  simp only [owed, Notifications.unregister]
  split
  · simp only [List.map_map, herase]
  · rfl

omit [DecidableEq S] in
/-- A step that changes the power state completes the last transaction. -/
theorem transactionId_of_changes (hS : a.Sound) {l : PowerManager.Label} (h : a.pm.Changes l) :
    a.pm.transactionId? = some a.pm.nextTransactionId := by
  obtain ⟨-, env, -, c, hc, -⟩ := h
  have htid : a.pm.transactionId? = some c.transactionId := by
    rw [Implementation.transactionId?, Option.mem_def.mp hc]
    rfl
  rw [htid, hS.current _ htid]

/-- A step of the implementation keeps the invariant: jobs are added for a transition that starts, and
a change that is told belongs to the last transaction. -/
theorem sound_implementation {l : PowerManager.Label} (hS : a.Sound)
    (h : announcer.step a (.implementation l) = some (a', os)) : a'.Sound := by
  obtain ⟨es, hstep, hclients, -⟩ := step_implementation h
  have hI := Implementation.inv_step hS.inv hstep
  have hsinks : a'.clients.sinks = a.clients.sinks := by
    rw [hclients]
    rfl
  have howed : ∀ y ∈ a'.owed, y.1.interface = .modeChanged ∧ y.2 ≤ a.pm.nextTransactionId := by
    intro y hy
    rcases owed_implementation h hy with hold | ⟨es, hstep, htid, prevState, newState, he, heq⟩
    · exact hS.owed y hold
    · have hch := (Implementation.modeChanged_iff hS.inv hstep).mp ⟨prevState, newState, he⟩
      rw [heq, htid, transactionId_of_changes hS hch]
      exact ⟨rfl, Int.le_refl _⟩
  -- only the section that installs a controller submits a pre-change event
  rcases Implementation.preChange_cases hS.inv hstep with ⟨hno, hnext, htid⟩ |
    ⟨s, n, o, hone, hnext, htid⟩
  · have hjobs : a'.clients.jobs = a.clients.jobs := by
      simp [hclients, Notifications.submitAll, hno]
    refine ⟨hI, by rw [hsinks]; exact hS.nodup, ?_, ?_, ?_, by rw [hnext]; exact howed⟩
    · rw [htid, hnext]
      exact hS.current
    · rw [hjobs, hnext]
      exact hS.bound
    · rw [hjobs]
      exact hS.interface
  · -- the new jobs are about the transition that has just got its number
    have hjobs : ∀ job ∈ a'.clients.jobs, job ∈ a.clients.jobs ∨
        job.notification = .onPowerModePreChange s n (a.pm.nextTransactionId + 1) o := by
      intro job hjob
      simp only [hclients, Notifications.submitAll, hone, List.flatMap_singleton, List.mem_append,
        List.mem_map] at hjob
      rcases hjob with hjob | ⟨s, -, rfl⟩
      · exact .inl hjob
      · exact .inr rfl
    refine ⟨hI, by rw [hsinks]; exact hS.nodup, ?_, fun job hjob => ?_, fun job hjob => ?_,
      fun y hy => ?_⟩
    · rw [htid, hnext]
      simp
    · rw [hnext]
      rcases hjobs job hjob with hold | hnew
      · have := hS.bound job hold
        omega
      · rw [hnew]
        exact Int.le_refl _
    · rcases hjobs job hjob with hold | hnew
      · exact hS.interface job hold
      · rw [hnew]
        rfl
    · obtain ⟨hinterface, hle⟩ := howed y hy
      rw [hnext]
      exact ⟨hinterface, by omega⟩

theorem sound_step (hS : a.Sound) (h : announcer.step a l = some (a', os)) : a'.Sound := by
  cases l with
  | implementation l => exact sound_implementation hS h
  | register i sink =>
    cases h
    exact ⟨hS.inv, Notifications.nodup_register hS.nodup i sink, hS.current,
      by simpa using hS.bound, by simpa using hS.interface, by simpa [owed_register] using hS.owed⟩
  | unregister i sink =>
    cases h
    exact ⟨hS.inv, Notifications.nodup_unregister hS.nodup i sink, hS.current,
      by simpa using hS.bound, by simpa using hS.interface,
      by simpa [owed_unregister] using hS.owed⟩
  | dispatch _ | dispatchNext _ =>
    obtain ⟨hpm, hsinks, hjobs, howed, -⟩ := step_dispatch rfl h
    exact ⟨hpm ▸ hS.inv, hsinks ▸ hS.nodup, hpm ▸ hS.current, hjobs ▸ hpm ▸ hS.bound,
      hjobs ▸ hS.interface, fun y hy => hpm ▸ hS.owed y (howed hy)⟩
  | runJob index =>
    obtain ⟨job, hpm, hsinks, howed, -, hperm⟩ := step_runJob h
    have hjobs : ∀ job' ∈ a'.clients.jobs, job' ∈ a.clients.jobs := fun job' hjob' =>
      hperm.mem_iff.mpr (List.mem_cons_of_mem _ hjob')
    refine ⟨hpm ▸ hS.inv, hsinks ▸ hS.nodup, hpm ▸ hS.current, fun job' hjob' => ?_,
      fun job' hjob' => hS.interface job' (hjobs job' hjob'), howed ▸ hpm ▸ hS.owed⟩
    rw [hpm]
    exact hS.bound job' (hjobs job' hjob')

/-- What holds after a run with the outputs `os`, during which the sink `p` has been registered: for
every transition later than `base` there is one call of `p`, which has been made or is queued. -/
structure Following (base : ℤ) (p : S) (os : List (Announcement S)) (a : Announcer S) : Prop where
  sound : a.Sound
  registered : p ∈ a.clients.sinks .modePreChange
  bound : ∀ t ∈ preChangeIds p (a.clients.jobs ++ told os), t ≤ a.pm.nextTransactionId
  once : ∀ t, base < t → (preChangeIds p (a.clients.jobs ++ told os)).count t ≤ 1
  present : ∀ t ∈ a.pm.transactionId?, base < t → t ∈ preChangeIds p (a.clients.jobs ++ told os)

/-- The invariant is kept by steps that start no transition, and rearrange the calls of the sink. -/
theorem Following.of_perm (hF : Following base p os a) (hS : a'.Sound)
    (hp : p ∈ a'.clients.sinks .modePreChange)
    (hperm : (preChangeIds p (a'.clients.jobs ++ told os')).Perm
      (preChangeIds p (a.clients.jobs ++ told os)))
    (hnext : a'.pm.nextTransactionId = a.pm.nextTransactionId)
    (htid : a'.pm.transactionId? = a.pm.transactionId?) : Following base p os' a' where
  sound := hS
  registered := hp
  bound t ht := by
    rw [hnext]
    exact hF.bound t (hperm.mem_iff.mp ht)
  once t ht := by
    rw [hperm.count_eq]
    exact hF.once t ht
  present t ht hbase := by
    rw [htid] at ht
    exact hperm.mem_iff.mpr (hF.present t ht hbase)

/-- The invariant is kept by a step that starts a transition, and adds a call of the sink for it. -/
theorem Following.of_new (hF : Following base p os a) (hS : a'.Sound)
    (hp : p ∈ a'.clients.sinks .modePreChange)
    (hperm : (preChangeIds p (a'.clients.jobs ++ told os')).Perm
      ((a.pm.nextTransactionId + 1) :: preChangeIds p (a.clients.jobs ++ told os)))
    (hnext : a'.pm.nextTransactionId = a.pm.nextTransactionId + 1)
    (htid : a'.pm.transactionId? = some (a.pm.nextTransactionId + 1)) :
    Following base p os' a' where
  sound := hS
  registered := hp
  bound t ht := by
    rw [hnext]
    rcases List.mem_cons.mp (hperm.mem_iff.mp ht) with rfl | ht
    · exact Int.le_refl _
    · have := hF.bound t ht
      omega
  once t ht := by
    rw [hperm.count_eq, List.count_cons]
    rcases eq_or_ne (a.pm.nextTransactionId + 1) t with rfl | hne
    · -- the number is new
      have hnew : a.pm.nextTransactionId + 1 ∉ preChangeIds p (a.clients.jobs ++ told os) := by
        intro hmem
        have := hF.bound _ hmem
        omega
      simp [List.count_eq_zero.mpr hnew]
    · have := hF.once t ht
      simpa [hne] using this
  present t ht _ := by
    rw [htid] at ht
    obtain rfl : a.pm.nextTransactionId + 1 = t := by simpa using ht
    exact hperm.mem_iff.mpr (.head _)

/-- A step of the implementation keeps the invariant: a transition that starts gets a number of its
own, and a job. -/
theorem following_implementation {l : PowerManager.Label} (hF : Following base p os a)
    (h : announcer.step a (.implementation l) = some (a', os')) :
    Following base p (os ++ os') a' := by
  have hS' := sound_step hF.sound h
  obtain ⟨es, hstep, hclients, -, -, rfl⟩ := step_implementation h
  rw [List.append_nil]
  have hp : p ∈ a'.clients.sinks .modePreChange := by
    rw [hclients]
    exact hF.registered
  rcases Implementation.preChange_cases hF.sound.inv hstep with ⟨hno, hnext, htid⟩ |
    ⟨s, n, o, hone, hnext, htid⟩
  · have hjobs : a'.clients.jobs = a.clients.jobs := by
      simp [hclients, Notifications.submitAll, hno]
    refine hF.of_perm hS' hp ?_ hnext htid
    rw [hjobs]
  · -- the calls of the sink, with one for the new transition
    have hids : preChangeIds p (a'.clients.jobs ++ told os) =
        preChangeIds p a.clients.jobs ++ [a.pm.nextTransactionId + 1] ++
          preChangeIds p (told os) := by
      have hsubmit := preChangeIds_submit hF.registered (hF.sound.nodup .modePreChange)
        (m := .onPowerModePreChange s n (a.pm.nextTransactionId + 1) o) rfl
      rw [preChangeIds_append, hclients, Notifications.submitAll, hone, List.flatMap_singleton,
        preChangeIds_append, hsubmit]
      rfl
    have hperm : (preChangeIds p (a'.clients.jobs ++ told os)).Perm
        ((a.pm.nextTransactionId + 1) :: preChangeIds p (a.clients.jobs ++ told os)) := by
      rw [hids, preChangeIds_append, List.append_assoc]
      exact List.perm_middle
    exact hF.of_new hS' hp hperm hnext htid

/-- A step keeps the invariant, unless it unregisters the sink. -/
theorem following_step (hF : Following base p os a) (hl : l ≠ .unregister .modePreChange p)
    (h : announcer.step a l = some (a', os')) : Following base p (os ++ os') a' := by
  have hS' := sound_step hF.sound h
  cases l with
  | implementation l => exact following_implementation hF h
  | register i sink =>
    cases h
    refine hF.of_perm hS' (Notifications.subset_register _ _ _ _ hF.registered) ?_ rfl rfl
    simp
  | unregister i sink =>
    cases h
    have hne : ¬(Interface.modePreChange = i ∧ p = sink) := by
      rintro ⟨rfl, rfl⟩
      exact hl rfl
    refine hF.of_perm hS' (Notifications.mem_unregister hF.registered hne) ?_ rfl rfl
    simp
  | dispatch _ | dispatchNext _ =>
    obtain ⟨hpm, hsinks, hjobs, -, hcalls⟩ := step_dispatch rfl h
    -- a loop is about changes, so that the calls of `p` in advance are the same
    have hnone : preChangeIds p (told os') = [] :=
      preChangeIds_changed fun x hx => (hF.sound.owed _ (hcalls x hx)).1
    refine hF.of_perm hS' (hsinks ▸ hF.registered) ?_ (by rw [hpm]) (by rw [hpm])
    rw [hjobs, told_append, ← List.append_assoc, preChangeIds_append, hnone, List.append_nil]
  | runJob index =>
    obtain ⟨job, hpm, hsinks, -, rfl, hperm⟩ := step_runJob h
    refine hF.of_perm hS' (hsinks ▸ hF.registered) (preChangeIds_perm ?_) (by rw [hpm])
      (by rw [hpm])
    -- the job moves from the queue to the calls that have been made
    rw [told_append, ← List.append_assoc]
    refine List.perm_append_singleton _ _ |>.trans ?_
    exact hperm.symm.append_right _

/-- The invariant holds after every run that does not unregister the sink. -/
theorem following_run (hF : Following base p [] a) (hls : .unregister .modePreChange p ∉ ls)
    (h : announcer.Run a ls os a') : Following base p os a' := by
  induction h with
  | nil => exact hF
  | snoc _ hstep ih =>
    refine following_step (ih fun hmem => hls ?_) (fun hl => hls ?_) hstep
    · simp [hmem]
    · simp [hl]

/-- The invariant holds where `base` is the last transaction. -/
theorem following_nil (hS : a.Sound) (hp : p ∈ a.clients.sinks .modePreChange) :
    Following a.pm.nextTransactionId p [] a := by
  have hbound : ∀ t ∈ preChangeIds p (a.clients.jobs ++ told []), t ≤ a.pm.nextTransactionId := by
    intro t ht
    rw [told, List.map_nil, List.append_nil, preChangeIds] at ht
    obtain ⟨job, hjob, rfl⟩ := List.mem_map.mp ht
    exact hS.bound job (List.mem_of_mem_filter hjob)
  refine ⟨hS, hp, hbound, fun t ht => ?_, fun t ht hlt => ?_⟩
  · have hnone : t ∉ preChangeIds p (a.clients.jobs ++ told []) := fun hmem => by
      have := hbound t hmem
      omega
    rw [List.count_eq_zero.mpr hnone]
    exact Nat.zero_le 1
  · have := hS.current t ht
    omega

/-- A step keeps the registered sinks, but the one that it unregisters. -/
theorem registered_step {i : Interface} {s : S} (hs : s ∈ a.clients.sinks i)
    (hl : l ≠ .unregister i s) (h : announcer.step a l = some (a', os)) :
    s ∈ a'.clients.sinks i := by
  cases l with
  | implementation l =>
    obtain ⟨es, -, hclients, -⟩ := step_implementation h
    rw [hclients]
    exact hs
  | register j sink =>
    cases h
    exact Notifications.subset_register _ _ _ _ hs
  | unregister j sink =>
    cases h
    refine Notifications.mem_unregister hs ?_
    rintro ⟨rfl, rfl⟩
    exact hl rfl
  | dispatch _ | dispatchNext _ =>
    obtain ⟨-, hsinks, -⟩ := step_dispatch rfl h
    rw [hsinks]
    exact hs
  | runJob index =>
    obtain ⟨job, -, hsinks, -, -⟩ := step_runJob h
    rw [hsinks]
    exact hs

theorem registered_run {i : Interface} {s : S} (hs : s ∈ a.clients.sinks i)
    (hls : .unregister i s ∉ ls) (h : announcer.Run a ls os a') : s ∈ a'.clients.sinks i := by
  induction h with
  | nil => exact hs
  | snoc _ hstep ih =>
    refine registered_step (ih fun hmem => hls ?_) (fun hl => hls ?_) hstep
    · simp [hmem]
    · simp [hl]

/-! ## Pre-change before changed -/

/-- The sink has been notified of the pre-change of every transition that the sinks are being
notified of, or are to be notified of. -/
def Settled (base : ℤ) (p : S) (os : List (Announcement S)) (a : Announcer S) : Prop :=
  ∀ y ∈ a.owed, base < y.2 → y.2 ∈ preChangeIds p (told os)

/-- A step that is ready keeps this: a transition that is completed has a call of the sink, and the
call is not queued. -/
theorem settled_step (hF : Following base p os a) (hs : Settled base p os a) (hl : Ready base p a l)
    (h : announcer.step a l = some (a', os')) : Settled base p (os ++ os') a' := by
  have hlater : ∀ {t}, t ∈ preChangeIds p (told os) → t ∈ preChangeIds p (told (os ++ os')) := by
    intro t ht
    rw [told_append, preChangeIds_append]
    exact List.mem_append_left _ ht
  intro y hy hbase
  cases l with
  | implementation l =>
    rcases owed_implementation h hy with hold | ⟨es, hstep, htid, prevState, newState, he, -⟩
    · exact hlater (hs y hold hbase)
    · have hch := (Implementation.modeChanged_iff hF.sound.inv hstep).mp ⟨prevState, newState, he⟩
      have hsome := transactionId_of_changes hF.sound hch
      rw [hsome, Option.getD_some] at htid
      rw [htid] at hbase ⊢
      -- the call of `p` is queued or made, and a ready step says that it is not queued
      have hpresent := hF.present _ hsome hbase
      rw [preChangeIds_append, List.mem_append] at hpresent
      exact hlater (hpresent.resolve_left (hl hch hbase))
  | register i sink =>
    cases h
    rw [owed_register] at hy
    exact hlater (hs y hy hbase)
  | unregister i sink =>
    cases h
    rw [owed_unregister] at hy
    exact hlater (hs y hy hbase)
  | dispatch _ | dispatchNext _ =>
    obtain ⟨-, -, -, howed, -⟩ := step_dispatch rfl h
    exact hlater (hs y (howed hy) hbase)
  | runJob index =>
    obtain ⟨job, -, -, howed, -, -⟩ := step_runJob h
    rw [howed] at hy
    exact hlater (hs y hy hbase)

/-- A step notifies of changes only that are settled. -/
theorem told_of_changed (hF : Following base p os a) (hs : Settled base p os a)
    (h : announcer.step a l = some (a', os')) {x : Announcement S} (hx : x ∈ os')
    (hinterface : x.notification.interface = .modeChanged) (hbase : base < x.transactionId) :
    x.transactionId ∈ preChangeIds p (told os) := by
  cases l with
  | implementation l =>
    obtain ⟨es, -, -, -, -, rfl⟩ := step_implementation h
    cases hx
  | register i sink | unregister i sink =>
    cases h
    cases hx
  | dispatch _ | dispatchNext _ =>
    obtain ⟨-, -, -, -, hcalls⟩ := step_dispatch rfl h
    exact hs _ (hcalls x hx) hbase
  | runJob index =>
    -- jobs are for another interface
    obtain ⟨job, -, -, -, rfl, hperm⟩ := step_runJob h
    obtain rfl := List.mem_singleton.mp hx
    have hpre := hF.sound.interface job (hperm.mem_iff.mpr (.head _))
    rw [hpre] at hinterface
    cases hinterface

/-- The calls remain in order if the later ones are, given the earlier ones. -/
theorem InOrder.append (hos : InOrder base p c os)
    (h : ∀ x ∈ os', x.notification.interface = .modeChanged → base < x.transactionId →
      x.transactionId ∈ preChangeIds p (told os)) : InOrder base p c (os ++ os') := by
  intro before x after hcut hsink hinterface hbase
  have hlater : ∀ mid, x ∈ os' → x.transactionId ∈ preChangeIds p (told (os ++ mid)) := by
    intro mid hx
    rw [told_append, preChangeIds_append]
    exact List.mem_append_left _ (h x hx hinterface hbase)
  rcases List.append_eq_append_iff.mp hcut with ⟨mid, rfl, rfl⟩ | ⟨mid, rfl, hafter⟩
  · exact hlater mid (by simp)
  · cases mid with
    | nil =>
      have hx : x ∈ os' := by
        rw [List.nil_append] at hafter
        exact hafter ▸ .head _
      simpa using hlater [] hx
    | cons y mid =>
      obtain ⟨rfl, -⟩ : x = y ∧ after = mid ++ os' := by simpa using hafter
      exact hos before x mid rfl hsink hinterface hbase

/-- Along a run that is ready, the calls are in order. -/
theorem inOrder_of_ready (hF : Following base p [] a) (hs : Settled base p [] a)
    (hls : .unregister .modePreChange p ∉ ls) (h : announcer.Run a ls os a')
    (hready : announcer.Along (Ready base p) a ls) :
    Settled base p os a' ∧ InOrder base p c os := by
  induction h with
  | nil => exact ⟨hs, fun before x after hcut => by simp at hcut⟩
  | @snoc b b' ls os os' l hrun hstep ih =>
    have hls' : .unregister .modePreChange p ∉ ls := fun hmem => hls (by simp [hmem])
    obtain ⟨hsettled, horder⟩ := ih hls' hready.left
    have hFb := following_run hF hls' hrun
    exact ⟨settled_step hFb hsettled (hready.last hrun) hstep,
      horder.append fun x hx => told_of_changed hFb hsettled hstep hx⟩

/-! ## The loops, from their beginnings to their ends -/

/-- A loop goes on to the rest of the list. -/
theorem follower_append {sinks rest : List S} {s : S} (hs : s ∉ sinks) :
    follower s (sinks ++ s :: rest) = rest.head? := by
  induction sinks with
  | nil => simp [follower]
  | cons s' sinks ih =>
    obtain ⟨hne, hs⟩ : s' ≠ s ∧ s ∉ sinks := by
      simpa [eq_comm] using hs
    rw [List.cons_append, follower, if_neg hne]
    exact ih hs

/-- A loop that is at a sink notifies the ones that follow. -/
theorem run_dispatchNext {done rest : List S} {s : S} {outer : List (Loop S)} {ts : List ℤ}
    (hloops : a.clients.dispatches = ⟨m, .visiting s⟩ :: outer) (hts : a.transactions = t :: ts)
    (hsinks : a.clients.sinks m.interface = done ++ s :: rest) (hnodup : (done ++ s :: rest).Nodup)
    (hc : c ∈ rest) :
    ∃ ls os a', (∀ l ∈ ls, l.isDispatch = true) ∧ announcer.Run a ls os a' ∧ ⟨⟨c, m⟩, t⟩ ∈ os := by
  induction rest generalizing a done s with
  | nil => cases hc
  -- the loop leaves `s` for `s'`, which is `c` or comes before it
  | cons s' rest ih =>
    have hs : s ∉ done := by
      intro hmem
      exact List.disjoint_of_nodup_append hnodup hmem (by simp)
    have hnext : Cursor.next (a.clients.sinks m.interface) none (.visiting s) = some s' := by
      rw [hsinks, Cursor.next, follower_append hs]
      rfl
    have hstep : announcer.step a (.dispatchNext none) =
        some (⟨a.pm, { a.clients with dispatches := ⟨m, .visiting s'⟩ :: outer }, a.changes,
          t :: ts⟩, [⟨⟨s', m⟩, t⟩]) := by
      simp only [announcer, hloops, hts, Notifications.dispatchNext, hnext]
      rfl
    rcases List.mem_cons.mp hc with rfl | hc
    · exact ⟨_, _, _, by simp [Label.isDispatch], Machine.Run.single hstep, by simp⟩
    · have happend : done ++ s :: s' :: rest = done ++ [s] ++ s' :: rest := by simp
      obtain ⟨ls, os, a', hls, hrun, hmem⟩ :=
        @ih ⟨a.pm, { a.clients with dispatches := ⟨m, .visiting s'⟩ :: outer }, a.changes, t :: ts⟩
          (done ++ [s]) s' rfl rfl (hsinks.trans happend) (happend ▸ hnodup) hc
      refine ⟨.dispatchNext none :: ls, _, a', ?_, Machine.Run.cons hstep hrun, ?_⟩
      · simpa [Label.isDispatch] using hls
      · exact List.mem_append_right _ hmem

/-- A thread that has changed the power state can notify every sink without waiting. -/
theorem run_dispatch (hS : a.Sound) (hchange : (m, t) ∈ a.changes)
    (hc : c ∈ a.clients.sinks m.interface) :
    ∃ ls os a', (∀ l ∈ ls, l.isDispatch = true) ∧ announcer.Run a ls os a' ∧ ⟨⟨c, m⟩, t⟩ ∈ os := by
  obtain ⟨index, hindex⟩ := List.mem_iff_getElem?.mp hchange
  obtain ⟨s, rest, hsinks⟩ := List.exists_cons_of_ne_nil (List.ne_nil_of_mem hc)
  have hstep : announcer.step a (.dispatch index) =
      some (⟨a.pm, { a.clients with dispatches := ⟨m, .visiting s⟩ :: a.clients.dispatches },
        a.changes.eraseIdx index, t :: a.transactions⟩, [⟨⟨s, m⟩, t⟩]) := by
    simp only [announcer, hindex, Notifications.dispatch, hsinks]
    rfl
  rcases List.mem_cons.mp (hsinks ▸ hc) with rfl | hc
  · exact ⟨_, _, _, by simp [Label.isDispatch], Machine.Run.single hstep, by simp⟩
  · obtain ⟨ls, os, a', hls, hrun, hmem⟩ :=
      @run_dispatchNext S _ ⟨a.pm,
        { a.clients with dispatches := ⟨m, .visiting s⟩ :: a.clients.dispatches },
        a.changes.eraseIdx index, t :: a.transactions⟩ c t m [] rest s _ _ rfl rfl hsinks
        (hsinks ▸ hS.nodup m.interface) hc
    refine ⟨.dispatch index :: ls, _, a', ?_, Machine.Run.cons hstep hrun, ?_⟩
    · simpa [Label.isDispatch] using hls
    · exact List.mem_append_right _ hmem

/-- A step of a loop changes no power state. -/
theorem ready_of_isDispatch (hl : l.isDispatch = true) : Ready base p a l := by
  cases l with
  | dispatch _ | dispatchNext _ => trivial
  | implementation _ | register _ _ | unregister _ _ | runJob _ => cases hl

/-- The loops announce nothing in advance. -/
theorem preChangeIds_dispatch (hS : a.Sound) (hls : ∀ l ∈ ls, l.isDispatch = true)
    (h : announcer.Run a ls os a') : preChangeIds p (told os) = [] ∧ a'.owed ⊆ a.owed := by
  induction h with
  | nil => exact ⟨rfl, List.Subset.refl _⟩
  | @snoc b b' ls os os' l hrun hstep ih =>
    obtain ⟨hnone, howed⟩ := ih fun l hl => hls l (by simp [hl])
    obtain ⟨-, -, -, howed', hcalls⟩ := step_dispatch (hls l (by simp)) hstep
    refine ⟨?_, fun y hy => howed (howed' hy)⟩
    rw [told_append, preChangeIds_append, hnone, List.nil_append]
    exact preChangeIds_changed fun x hx => (hS.owed _ (howed (hcalls x hx))).1

/-- If a step is not ready, the loop that it leads to can notify `c` before `p` is notified. -/
theorem not_inOrder_of_not_ready (hF : Following base p os a)
    (hc : c ∈ a.clients.sinks .modeChanged) (hready : ¬Ready base p a l)
    (h : announcer.step a l = some (a', os')) :
    ∃ ls os'' a'', (∀ l ∈ ls, l.isDispatch = true) ∧ announcer.Run a' ls os'' a'' ∧
      ¬InOrder base p c (os ++ os' ++ os'') := by
  cases l with
  | register i sink | unregister i sink | dispatch _ | dispatchNext _ | runJob index =>
    exact absurd trivial hready
  | implementation l =>
    obtain ⟨hch, hbase, hqueued⟩ : a.pm.Changes l ∧ base < a.pm.nextTransactionId ∧
        a.pm.nextTransactionId ∈ preChangeIds p a.clients.jobs := by
      simpa only [Ready, Classical.not_imp, not_not] using hready
    have hS' := sound_step hF.sound h
    obtain ⟨es, hstep, hclients, hchanges, -, rfl⟩ := step_implementation h
    obtain ⟨prevState, newState, he⟩ := (Implementation.modeChanged_iff hF.sound.inv hstep).mpr hch
    have hchange :
        (.onPowerModeChanged prevState newState, a.pm.nextTransactionId) ∈ a'.changes := by
      rw [hchanges, transactionId_of_changes hF.sound hch]
      apply List.mem_append_right
      exact List.mem_map.mpr ⟨_, List.mem_filterMap.mpr ⟨_, he, rfl⟩, rfl⟩
    have hc' : c ∈ a'.clients.sinks .modeChanged := by
      rw [hclients]
      exact hc
    obtain ⟨ls, os'', a'', hls, hrun, hmem⟩ := run_dispatch hS' hchange hc'
    refine ⟨ls, os'', a'', hls, hrun, fun horder => ?_⟩
    -- `c` has been notified, so that `p` has, but the job is in the queue
    obtain ⟨before, after, rfl⟩ := List.append_of_mem hmem
    have htold : a.pm.nextTransactionId ∈ preChangeIds p (told (os ++ before)) :=
      horder (os ++ before) ⟨⟨c, .onPowerModeChanged prevState newState⟩, _⟩ after (by simp) rfl rfl
        hbase
    have hnone : preChangeIds p (told before) = [] := by
      have := (preChangeIds_dispatch (p := p) hS' hls hrun).1
      rw [told_append, preChangeIds_append, List.append_eq_nil_iff] at this
      exact this.1
    rw [told_append, preChangeIds_append, hnone, List.append_nil] at htold
    -- but there is only one call of `p` for the transition
    have honce := hF.once _ hbase
    rw [preChangeIds_append, List.count_append] at honce
    have := List.count_pos_iff.mpr hqueued
    have := List.count_pos_iff.mpr htold
    omega

/-- For two sinks that stay registered, the pre-change notification of every transition comes before
the notification of its change, also if the worker pool stops at any point of the run, if and only
if the power state is never changed while the worker pool has the job with the pre-change
notification. -/
theorem preChange_before_changed_iff {pc : PowerController} {n : ℤ} {id : UInt32}
    {ls₀ : List (Label S)} {os₀ : List (Announcement S)} {a₀ : Announcer S}
    (h₀ : announcer.Run (initial pc n id) ls₀ os₀ a₀)
    (h : announcer.Run a₀ ls os a)
    (hp : p ∈ a₀.clients.sinks .modePreChange) (hpls : .unregister .modePreChange p ∉ ls)
    (hc : c ∈ a₀.clients.sinks .modeChanged) (hcls : .unregister .modeChanged c ∉ ls) :
    (∀ pre post ls' os' a', ls = pre ++ post → (∀ l ∈ ls', l.isDispatch = true) →
        announcer.Run a₀ (pre ++ ls') os' a' → InOrder a₀.pm.nextTransactionId p c os') ↔
      announcer.Along (Ready a₀.pm.nextTransactionId p) a₀ ls := by
  have hS₀ : a₀.Sound := h₀.invariant (sound_initial pc n id) fun _ _ _ _ hS => sound_step hS
  have hF₀ := following_nil hS₀ hp
  have hs₀ : Settled a₀.pm.nextTransactionId p [] a₀ := by
    intro y hy hlt
    have := (hS₀.owed y hy).2
    omega
  constructor
  · intro horder pre l post os₁ b hcut hpre
    subst hcut
    have hF := following_run hF₀ (fun hmem => hpls (by simp [hmem])) hpre
    have hcb := registered_run hc (fun hmem => hcls (by simp [hmem])) hpre
    obtain ⟨b', os₂, hstep, hrun⟩ := h.step_at hpre
    -- a step that is not ready can be followed by its loop, and then the calls are not in order
    by_contra hready
    obtain ⟨ls', os', a', hls', hrun', hnot⟩ := not_inOrder_of_not_ready hF hcb hready hstep
    exact hnot (horder (pre ++ [l]) post ls' _ a' (by simp) hls' (hrun.trans hrun'))
  · rintro hready pre post ls' os' a' rfl hls' hrun
    -- the loops that are run to their ends make the run no less ready
    have hready' := hready.left.append fun l hl b => ready_of_isDispatch (hls' l hl)
    refine (inOrder_of_ready hF₀ hs₀ (fun hmem => ?_) hrun hready').2
    rcases List.mem_append.mp hmem with hmem | hmem
    · exact hpls (by simp [hmem])
    · cases hls' _ hmem

/-- The worker pool runs the job while the caller is on its way to `Schedule`. -/
theorem preChange_before_changed_standby :
    ∃ a₀ a os, announcer.Run (initial .isOn 0 0)
        [.register .modePreChange 1, .register .modeChanged 2] [] a₀ ∧
      announcer.Run a₀ [.implementation (.request .standby .awake),
        .implementation (.create .accepts), .runJob 0, .implementation (.schedule .accepts),
        .dispatch 0, .dispatchNext none] os a ∧
      os.map (·.sink) = [1, 2] ∧ InOrder a₀.pm.nextTransactionId 1 2 os := by
  have h₀ : announcer.Run (initial .isOn 0 0)
      [.register .modePreChange 1, .register .modeChanged 2] _ _ := Machine.run_of_exec rfl
  refine ⟨_, _, _, h₀, Machine.run_of_exec rfl, rfl, ?_⟩
  have horder := fun os a hrun => (@preChange_before_changed_iff _ _ a
    [.implementation (.request .standby .awake), .implementation (.create .accepts), .runJob 0,
      .implementation (.schedule .accepts), .dispatch 0, .dispatchNext none] os 1 2 _ _ _ _ _ _
    h₀ hrun (by decide) (by simp) (by decide) (by simp)).mpr (Machine.along_of_check (by decide))
  exact horder _ _ (Machine.run_of_exec rfl) _ [] [] _ _ (List.append_nil _).symm (by simp)
    (Machine.run_of_exec rfl)

/-- Nobody acknowledges, so that `Schedule` changes the power state at once, and the change is
announced before the worker pool has run the job. -/
theorem changed_before_preChange :
    ∃ a₀ a os, announcer.Run (initial .isOn 0 0)
        [.register .modePreChange 1, .register .modeChanged 2] [] a₀ ∧
      announcer.Run a₀ [.implementation (.request .standby .awake),
        .implementation (.create .accepts), .implementation (.schedule .accepts), .dispatch 0,
        .dispatchNext none, .runJob 0] os a ∧
      os = [⟨⟨2, .onPowerModeChanged .on .standby⟩, 1⟩,
        ⟨⟨1, .onPowerModePreChange .on .standby 1 1⟩, 1⟩] ∧
      ¬InOrder a₀.pm.nextTransactionId 1 2 os := by
  refine ⟨_, _, _, Machine.run_of_exec rfl, Machine.run_of_exec rfl, rfl, fun horder => ?_⟩
  have hmem := horder [] _ _ rfl rfl rfl (by decide)
  cases hmem

end Announcer

end PowerManager
