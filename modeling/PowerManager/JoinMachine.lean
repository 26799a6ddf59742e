import PowerManager.LockMachine

/-!
# Threads that start and join each other

A `JoinProgram` says what its threads may call, and what each call does with the locks and with
other threads: a list of acts, one list for each way through the call. All locks are recursive. A
thread may start another thread, wait for its end, and end itself.

The module introduces:

* `Awaited` — what a thread may wait for: a lock, or the end of a thread;
* `JoinState.WaitsOn` — the waits-for graph of a state, which has edges for both — and
  `JoinState.DeadlockFree`;
* `Orderly` — a list of acts releases what it takes, and waits only where a condition on the locks
  held allows it, with one rule for each way to build such a list;
* `sound_step` — while the calls are orderly, so is what is left of them, and the locks held by a
  thread are the ones it owns;
* `todo_step` and `holding_step` — where an act that is still to be done comes from.
-/

/-- What a thread may wait for. -/
inductive Awaited (T L : Type*)
  | lock (l : L)
  /-- The thread is to end. -/
  | ending (t : T)
  deriving DecidableEq, Repr

/-- What a thread does in a call. -/
inductive JoinAct (T L : Type*)
  | lock (l : L)
  | unlock (l : L)
  /-- The thread is started, unless it can be joined. -/
  | spawn (t : T)
  /-- The thread is joined, if it can be. -/
  | join (t : T)
  /-- The thread that does this ends. -/
  | exit
  deriving DecidableEq, Repr

/-- The acts under a lock. -/
def underLock {T L : Type*} (l : L) (acts : List (JoinAct T L)) : List (JoinAct T L) :=
  .lock l :: (acts ++ [.unlock l])

/-- A thread can be joined from its start on, until it is joined. -/
inductive Life
  /-- Not started, or joined. -/
  | absent
  | alive
  | ended
  deriving DecidableEq, Repr

/-- A program for the threads `T` with the locks `L` and the calls `C`. -/
structure JoinProgram (T L C : Type*) where
  mayCall : T → C → Bool
  acts : C → List (JoinAct T L)

/-- The locks and the threads: the locks that each thread holds, and what is left of its call. -/
structure JoinState (T L : Type*) where
  owner : L → Option T
  held : T → List L
  todo : T → List (JoinAct T L)
  life : T → Life

namespace JoinState

variable {T L : Type*}

/-- The thread need not wait for the lock. -/
def Available (s : JoinState T L) (t : T) (l : L) : Prop :=
  s.owner l = none ∨ s.owner l = some t

/-- The thread cannot go on before it gets this. -/
def Awaits (s : JoinState T L) (t : T) : Awaited T L → Prop
  | .lock l => (s.todo t).head? = some (.lock l) ∧ ¬s.Available t l
  | .ending u => (s.todo t).head? = some (.join u) ∧ s.life u = .alive

/-- Nobody gets this before the thread gives it up. -/
def Keeps (s : JoinState T L) (t : T) : Awaited T L → Prop
  | .lock l => s.owner l = some t
  | .ending u => u = t

/-- The thread `t` waits for a lock that `u` owns, or for the end of `u`. -/
def WaitsOn (s : JoinState T L) (t u : T) : Prop :=
  ∃ r, s.Awaits t r ∧ s.Keeps u r

/-- No threads wait for each other in a circle. -/
def DeadlockFree (s : JoinState T L) : Prop :=
  ∀ t, ¬Relation.TransGen s.WaitsOn t t

/-- The thread owns the lock, and has still to do the act. -/
def Holding (s : JoinState T L) (t : T) (l : L) (a : JoinAct T L) : Prop :=
  s.owner l = some t ∧ a ∈ s.todo t

/-- The thread is about to take the lock, and will do the act after that. -/
def Entering (s : JoinState T L) (t : T) (l : L) (a : JoinAct T L) : Prop :=
  (s.todo t).head? = some (.lock l) ∧ a ∈ (s.todo t).tail

variable [DecidableEq T] [DecidableEq L]

instance (s : JoinState T L) (t : T) (l : L) : Decidable (s.Available t l) :=
  inferInstanceAs (Decidable (_ ∨ _))

instance (s : JoinState T L) (t : T) : (r : Awaited T L) → Decidable (s.Awaits t r)
  | .lock _ => inferInstanceAs (Decidable (_ ∧ ¬_))
  | .ending _ => inferInstanceAs (Decidable (_ ∧ _))

instance (s : JoinState T L) (t : T) : (r : Awaited T L) → Decidable (s.Keeps t r)
  | .lock _ => inferInstanceAs (Decidable (_ = _))
  | .ending _ => inferInstanceAs (Decidable (_ = _))

instance (s : JoinState T L) (t : T) (l : L) (a : JoinAct T L) : Decidable (s.Entering t l a) :=
  inferInstanceAs (Decidable (_ ∧ _))

/-- The next act of a thread. -/
def act (s : JoinState T L) (t : T) : Option (JoinState T L) :=
  match s.todo t with
  | [] => none
  | .lock l :: rest =>
    if s.Available t l then
      some
        { s with
          owner := Function.update s.owner l (some t)
          held := Function.update s.held t (l :: s.held t)
          todo := Function.update s.todo t rest }
    else none
  | .unlock l :: rest =>
    if l ∈ s.held t then
      some
        { s with
          owner := Function.update s.owner l (if l ∈ (s.held t).erase l then some t else none)
          held := Function.update s.held t ((s.held t).erase l)
          todo := Function.update s.todo t rest }
    else none
  | .spawn u :: rest =>
    some
      { s with
        todo := Function.update s.todo t rest
        life := if s.life u = .absent then Function.update s.life u .alive else s.life }
  | .join u :: rest =>
    -- a thread that has never been started is joined at once, as one that has ended
    if s.life u = .alive then none
    else
      some
        { s with
          todo := Function.update s.todo t rest
          life := Function.update s.life u .absent }
  | .exit :: _ =>
    some
      { s with
        todo := Function.update s.todo t []
        life := Function.update s.life t .ended }

end JoinState

/-- The machine of a program. It has no outputs. -/
def JoinProgram.machine {T L C : Type*} [DecidableEq T] [DecidableEq L] (P : JoinProgram T L C) :
    Machine (JoinState T L) (LockLabel T C) Empty where
  step s
    | .call t c =>
      if P.mayCall t c = true ∧ (s.todo t).isEmpty = true ∧ s.life t = .alive then
        some ({ s with todo := Function.update s.todo t (P.acts c) }, [])
      else none
    | .act t => (s.act t).map (·, [])

/-! ## Orderly acts -/

section Orderly

variable {T L : Type*} [DecidableEq L] {ok : List L → Awaited T L → Prop} {held mid out : List L}
  {l : L} {acts acts' : List (JoinAct T L)}

/-- The acts, begun with the locks `held`, wait only for what `ok` allows beside those held, release
only what they hold, and end with the locks `out`. A lock that is held may be taken again. -/
def Orderly (ok : List L → Awaited T L → Prop) : List L → List (JoinAct T L) → List L → Prop
  | held, [], out => held = out
  | held, .lock l :: rest, out => (l ∈ held ∨ ok held (.lock l)) ∧ Orderly ok (l :: held) rest out
  | held, .unlock l :: rest, out => l ∈ held ∧ Orderly ok (held.erase l) rest out
  | held, .spawn _ :: rest, out => Orderly ok held rest out
  | held, .join u :: rest, out => ok held (.ending u) ∧ Orderly ok held rest out
  | held, .exit :: _, _ => held = []

/-- To do nothing is orderly. -/
theorem Orderly.nil : Orderly ok held [] held := by
  rw [Orderly]

/-- Orderly acts may follow each other. -/
theorem Orderly.append (h : Orderly ok held acts mid) (h' : Orderly ok mid acts' out) :
    Orderly ok held (acts ++ acts') out := by
  induction acts generalizing held with
  | nil =>
    obtain rfl : held = mid := h
    exact h'
  | cons a acts ih =>
    cases a with
    | lock l => exact ⟨h.1, ih h.2⟩
    | unlock l => exact ⟨h.1, ih h.2⟩
    | spawn u => exact ih h
    | join u => exact ⟨h.1, ih h.2⟩
    | exit => exact h

/-- Acts that leave the locks as they are may stand under a lock. -/
theorem Orderly.underLock (hl : l ∈ held ∨ ok held (.lock l))
    (h : Orderly ok (l :: held) acts (l :: held)) : Orderly ok held (underLock l acts) held := by
  refine ⟨hl, h.append ⟨List.mem_cons_self, ?_⟩⟩
  rw [List.erase_cons_head]
  exact .nil

/-- To start a thread is orderly. -/
theorem Orderly.spawn {t : T} : Orderly ok held [.spawn t] held := by
  simp only [Orderly]

/-- To join a thread is orderly where its end may be waited for. -/
theorem Orderly.join {t : T} (h : ok held (.ending t)) : Orderly ok held [.join t] held :=
  ⟨h, .nil⟩

/-- The acts of a branch that may be left out. -/
theorem Orderly.ite {p : Prop} [Decidable p] (h : p → Orderly ok held acts held) :
    Orderly ok held (if p then acts else []) held := by
  split
  · exact h ‹_›
  · exact .nil

end Orderly

namespace JoinProgram

variable {T L C : Type*} [DecidableEq T] [DecidableEq L] {P : JoinProgram T L C}
  {s s' : JoinState T L} {t u : T} {l : L} {a : JoinAct T L} {es : List Empty}
  {lb : LockLabel T C} {ok : T → List L → Awaited T L → Prop}

/-- Every thread is orderly, by its own condition, and holds the locks that it owns. Only threads
that are alive have anything to do. -/
structure Sound (ok : T → List L → Awaited T L → Prop) (s : JoinState T L) : Prop where
  owner_iff : ∀ t l, s.owner l = some t ↔ l ∈ s.held t
  orderly : ∀ t, Orderly (ok t) (s.held t) (s.todo t) []
  alive : ∀ t, s.todo t ≠ [] → s.life t = .alive

omit [DecidableEq T] in
/-- What is left of a call is orderly. -/
theorem Sound.orderly_of_todo (hS : Sound ok s) {acts : List (JoinAct T L)}
    (h : s.todo t = acts) : Orderly (ok t) (s.held t) acts [] := by
  rw [← h]
  exact hS.orderly t

omit [DecidableEq T] in
/-- A thread between two calls holds nothing. -/
theorem Sound.held_nil (hS : Sound ok s) (h : s.todo t = []) : s.held t = [] :=
  hS.orderly_of_todo h

omit [DecidableEq T] in
/-- A thread waits only for what its condition allows. -/
theorem Sound.ok_of_awaits (hS : Sound ok s) {r : Awaited T L} (h : s.Awaits t r) :
    ok t (s.held t) r := by
  cases r with
  | lock l =>
    obtain ⟨rest, htodo⟩ := List.head?_eq_some_iff.mp h.1
    -- a lock that is held would be available
    exact (hS.orderly_of_todo htodo).1.resolve_left fun hmem =>
      h.2 (.inr ((hS.owner_iff t l).mpr hmem))
  | ending u =>
    obtain ⟨rest, htodo⟩ := List.head?_eq_some_iff.mp h.1
    exact (hS.orderly_of_todo htodo).1

/-! ## Steps -/

/-- What a step can do. -/
inductive StepCase (P : JoinProgram T L C) (s : JoinState T L) :
    LockLabel T C → JoinState T L → Prop
  | called {t : T} {c : C} (hmay : P.mayCall t c = true) (hnil : s.todo t = [])
      (halive : s.life t = .alive) :
      StepCase P s (.call t c) { s with todo := Function.update s.todo t (P.acts c) }
  | locked {t : T} {l : L} {rest : List (JoinAct T L)} (htodo : s.todo t = .lock l :: rest)
      (havail : s.Available t l) :
      StepCase P s (.act t)
        { s with
          owner := Function.update s.owner l (some t)
          held := Function.update s.held t (l :: s.held t)
          todo := Function.update s.todo t rest }
  | unlocked {t : T} {l : L} {rest : List (JoinAct T L)} (htodo : s.todo t = .unlock l :: rest) :
      StepCase P s (.act t)
        { s with
          owner := Function.update s.owner l (if l ∈ (s.held t).erase l then some t else none)
          held := Function.update s.held t ((s.held t).erase l)
          todo := Function.update s.todo t rest }
  /-- A thread is started or joined, or nothing happens. -/
  | passed {t u : T} {a : JoinAct T L} {rest : List (JoinAct T L)} {life : T → Life}
      (htodo : s.todo t = a :: rest) (ha : a = .spawn u ∨ a = .join u)
      (hlife : ∀ t, s.life t = .alive → life t = .alive) :
      StepCase P s (.act t) { s with todo := Function.update s.todo t rest, life := life }
  | ended {t : T} {rest : List (JoinAct T L)} (htodo : s.todo t = .exit :: rest) :
      StepCase P s (.act t)
        { s with
          todo := Function.update s.todo t []
          life := Function.update s.life t .ended }

/-- Every step is one of these. -/
theorem step_cases (h : P.machine.step s lb = some (s', es)) : StepCase P s lb s' := by
  cases lb with
  | call t c =>
    simp only [machine] at h
    split at h
    · rename_i hcall
      cases h
      exact .called hcall.1 (by simpa using hcall.2.1) hcall.2.2
    · cases h
  | act t =>
    obtain ⟨hact, -⟩ : s.act t = some s' ∧ es = [] := by simpa [machine] using h
    simp only [JoinState.act] at hact
    split at hact
    · cases hact
    · split at hact
      · cases hact
        exact .locked ‹_› ‹_›
      · cases hact
    · split at hact
      · cases hact
        exact .unlocked ‹_›
      · cases hact
    · rename_i u rest htodo
      cases hact
      refine .passed htodo (.inl rfl) fun v hv => ?_
      split
      · rcases eq_or_ne v u with rfl | hne
        · simp
        · simpa [hne] using hv
      · exact hv
    · rename_i u rest htodo
      split at hact
      · cases hact
      · rename_i hended
        cases hact
        refine .passed htodo (.inr rfl) fun v hv => ?_
        -- whoever is joined has ended before
        rcases eq_or_ne v u with rfl | hne
        · exact absurd hv hended
        · simpa [hne] using hv
    · cases hact
      exact .ended ‹_›

omit [DecidableEq T] in
/-- A step is that of one thread, and changes what that thread owns only. -/
theorem Sound.frame (hS : Sound ok s) (hheld : ∀ u, u ≠ t → s'.held u = s.held u)
    (htodo : ∀ u, u ≠ t → s'.todo u = s.todo u)
    (hlife : ∀ u, u ≠ t → s.life u = .alive → s'.life u = .alive)
    (howner : ∀ u, u ≠ t → ∀ l, s'.owner l = some u ↔ s.owner l = some u)
    (hown : ∀ l, s'.owner l = some t ↔ l ∈ s'.held t)
    (horderly : Orderly (ok t) (s'.held t) (s'.todo t) [])
    (halive : s'.todo t ≠ [] → s'.life t = .alive) : Sound ok s' where
  owner_iff u l := by
    by_cases hu : u = t
    · exact hu ▸ hown l
    · rw [howner u hu, hheld u hu]
      exact hS.owner_iff u l
  orderly u := by
    by_cases hu : u = t
    · exact hu ▸ horderly
    · rw [hheld u hu, htodo u hu]
      exact hS.orderly u
  alive u := by
    by_cases hu : u = t
    · exact hu ▸ halive
    · rw [htodo u hu]
      exact fun hne => hlife u hu (hS.alive u hne)

/-- If the calls are orderly, the threads are after every step. -/
theorem sound_step (hS : Sound ok s) (h : P.machine.step s lb = some (s', es))
    (hcalls : ∀ t c, P.mayCall t c = true → Orderly (ok t) [] (P.acts c) []) : Sound ok s' := by
  cases step_cases h with
  | @called t c hmay hnil halive =>
    have horderly : Orderly (ok t) (s.held t) (P.acts c) [] := by
      rw [hS.held_nil hnil]
      exact hcalls t c hmay
    exact hS.frame (fun _ _ => rfl) (fun u hu => by simp [hu]) (fun _ _ => id)
      (fun _ _ _ => Iff.rfl) (hS.owner_iff t) (by simpa using horderly) fun _ => halive
  | @locked t l rest htodo havail =>
    obtain ⟨-, hrest⟩ := hS.orderly_of_todo htodo
    refine hS.frame (fun u hu => by simp [hu]) (fun u hu => by simp [hu]) (fun _ _ => id)
      (fun u hu l' => ?_) (fun l' => ?_) (by simpa using hrest)
      fun _ => hS.alive t (by simp [htodo])
    · rcases eq_or_ne l' l with rfl | hl'
      · -- the lock was free, or belonged to the thread already
        rcases havail with hfree | hown
        · simp [hfree, hu.symm]
        · simp [hown, hu.symm]
      · simp [hl']
    · rcases eq_or_ne l' l with rfl | hl'
      · simp
      · simpa [hl'] using hS.owner_iff t l'
  | @unlocked t l rest htodo =>
    obtain ⟨hmem, hrest⟩ := hS.orderly_of_todo htodo
    have hown : s.owner l = some t := (hS.owner_iff t l).mpr hmem
    refine hS.frame (fun u hu => by simp [hu]) (fun u hu => by simp [hu]) (fun _ _ => id)
      (fun u hu l' => ?_) (fun l' => ?_) (by simpa using hrest)
      fun _ => hS.alive t (by simp [htodo])
    · rcases eq_or_ne l' l with rfl | hl'
      · -- the lock stays with the thread if it has taken it more than once
        by_cases hagain : l' ∈ (s.held t).erase l' <;> simp [hagain, hown, hu.symm]
      · simp [hl']
    · rcases eq_or_ne l' l with rfl | hl'
      · by_cases hagain : l' ∈ (s.held t).erase l' <;> simp [hagain]
      · simpa [hl', List.mem_erase_of_ne] using hS.owner_iff t l'
  | @passed t u a rest life htodo ha hlife =>
    have hrest : Orderly (ok t) (s.held t) rest [] := by
      have horderly := hS.orderly_of_todo htodo
      rcases ha with rfl | rfl
      · exact horderly
      · exact horderly.2
    exact hS.frame (fun _ _ => rfl) (fun u hu => by simp [hu]) (fun u _ => hlife u)
      (fun _ _ _ => Iff.rfl) (hS.owner_iff t) (by simpa using hrest)
      fun _ => hlife t (hS.alive t (by simp [htodo]))
  | @ended t rest htodo =>
    have hheld : s.held t = [] := hS.orderly_of_todo htodo
    refine hS.frame (fun _ _ => rfl) (fun u hu => by simp [hu]) (fun u hu => by simp [hu])
      (fun _ _ _ => Iff.rfl) (hS.owner_iff t) ?_ fun hne => absurd (by simp) hne
    simpa [hheld] using Orderly.nil

/-- What a thread has still to do was to be done before, or belongs to the call that it starts. -/
theorem todo_step (h : P.machine.step s lb = some (s', es)) (ha : a ∈ s'.todo u) :
    a ∈ s.todo u ∨ ∃ c, lb = .call u c ∧ a ∈ P.acts c := by
  -- an act of a thread leaves the rest of its call
  have hrest : ∀ {t b rest}, s.todo t = b :: rest → a ∈ Function.update s.todo t rest u →
      a ∈ s.todo u := by
    intro t b rest htodo hmem
    rcases eq_or_ne u t with rfl | hu
    · rw [htodo]
      exact List.mem_cons_of_mem _ (by simpa using hmem)
    · simpa [hu] using hmem
  cases step_cases h with
  | @called t c hmay hnil halive =>
    rcases eq_or_ne u t with rfl | hu
    · exact .inr ⟨c, rfl, by simpa using ha⟩
    · exact .inl (by simpa [hu] using ha)
  | locked htodo | unlocked htodo | passed htodo => exact .inl (hrest htodo ha)
  | @ended t rest htodo =>
    rcases eq_or_ne u t with rfl | hu
    · simp at ha
    · exact .inl (by simpa [hu] using ha)

/-- A thread comes to hold a lock, with an act still to do, only by taking the lock. -/
theorem holding_step (hS : Sound ok s) (h : P.machine.step s lb = some (s', es))
    (hH : s'.Holding u l a) : s.Holding u l a ∨ lb = .act u ∧ s.Entering u l a := by
  obtain ⟨hown, ha⟩ := hH
  by_cases hbefore : s.owner l = some u
  · rcases todo_step h ha with ha | ⟨c, rfl, -⟩
    · exact .inl ⟨hbefore, ha⟩
    · cases step_cases h with
      | called _ hnil _ =>
        -- a thread that starts a call holds nothing yet
        have hmem := (hS.owner_iff u l).mp hbefore
        rw [hS.held_nil hnil] at hmem
        cases hmem
  · cases step_cases h with
    | called | passed | ended => exact absurd hown hbefore
    | @locked t l₀ rest htodo havail =>
      rcases eq_or_ne l l₀ with rfl | hl
      · obtain rfl : t = u := by simpa using hown
        refine .inr ⟨rfl, by rw [htodo]; rfl, ?_⟩
        rw [htodo]
        simpa using ha
      · exact absurd (by simpa [hl] using hown) hbefore
    | @unlocked t l₀ rest htodo =>
      rcases eq_or_ne l l₀ with rfl | hl
      · -- a lock that stays with its owner was held twice before
        obtain ⟨hagain, rfl⟩ : l ∈ (s.held t).erase l ∧ t = u := by simpa using hown
        exact absurd ((hS.owner_iff t l).mpr (List.mem_of_mem_erase hagain)) hbefore
      · exact absurd (by simpa [hl] using hown) hbefore

/-! ## Ranks -/

end JoinProgram

/-- If everything that is waited for lies above what its waiter keeps, there is no deadlock. -/
theorem JoinState.deadlockFree_of_rank {T L : Type*} {s : JoinState T L} (rank : Awaited T L → ℕ)
    (hrank : ∀ t r, s.Awaits t r → ∀ r', s.Keeps t r' → rank r' < rank r) : s.DeadlockFree :=
  acyclic_of_rank rank hrank
