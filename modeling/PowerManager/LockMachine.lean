import PowerManager.Machine
import Mathlib.Data.List.Nodup
import Mathlib.Logic.Function.Basic
import Mathlib.Logic.Relation

/-!
# Threads and locks

A `LockProgram` says what its threads may call, and what each call does with the locks:
a list of acts, one list for each way through the call. The machine of a program interleaves the
acts of all threads; locks may be recursive.

The module introduces:

* `LockProgram.WaitsOn` — the waits-for graph of a state, and `LockProgram.DeadlockFree` — it has
  no cycle, and nobody waits for a thread that has ended;
* `Disciplined` — a list of acts releases what it takes, and takes its locks only when a condition
  on the locks held allows it, with one rule for each way to build such a list;
* `sound_step` — while the calls are disciplined, so is what is left of them, and the locks held by
  a thread are the ones it owns;
* `holding_step` — a thread comes to hold one lock, with another still to take, only by taking the
  first;
* `acyclic_of_rank` and `deadlockFree_of_rank` — if every thread waits for a lock above those it
  holds, the state is free of deadlock. The ranks may depend on the state.
-/

/-- If what is waited for lies above all that its waiter holds, no threads wait for each other in a
circle. -/
theorem acyclic_of_rank {T R : Type*} {awaits holds : T → R → Prop} (rank : R → ℕ)
    (hrank : ∀ t r, awaits t r → ∀ r', holds t r' → rank r' < rank r) (t : T) :
    ¬Relation.TransGen (fun t u => ∃ r, awaits t r ∧ holds u r) t t := by
  -- along the waits, what is waited for does not sink
  have hpath : ∀ t u, Relation.TransGen (fun t u => ∃ r, awaits t r ∧ holds u r) t u →
      ∃ r r', awaits t r ∧ holds u r' ∧ rank r ≤ rank r' := by
    intro t u htu
    induction htu with
    | single hwait =>
      obtain ⟨r, hawait, hhold⟩ := hwait
      exact ⟨r, r, hawait, hhold, Nat.le_refl _⟩
    | tail _ hwait ih =>
      obtain ⟨r, r', hawait, hhold, hle⟩ := ih
      obtain ⟨r₂, hawait₂, hhold₂⟩ := hwait
      have hlt := hrank _ r₂ hawait₂ r' hhold
      exact ⟨r, r₂, hawait, hhold₂, by omega⟩
  intro hcycle
  -- around a circle, something would lie above itself
  obtain ⟨r, r', hawait, hhold, hle⟩ := hpath t t hcycle
  have hlt := hrank t r hawait r' hhold
  omega

/-- What a thread does with a lock. -/
inductive LockAct (L : Type*)
  | lock (l : L)
  /-- The thread waits for the lock, and gives up after a while. -/
  | timeout (l : L)
  | unlock (l : L)
  /-- The thread ends, whatever it holds. -/
  | exit
  deriving DecidableEq, Repr

/-- The lock that the act is about to take, or tries to. -/
def LockAct.takes {L : Type*} : LockAct L → Option L
  | .lock l | .timeout l => some l
  | .unlock _ | .exit => none

/-- The acts under a lock. -/
def guarded {L : Type*} (l : L) (acts : List (LockAct L)) : List (LockAct L) :=
  .lock l :: (acts ++ [.unlock l])

/-- A program for the threads `T` with the locks `L` and the calls `C`. -/
structure LockProgram (T L C : Type*) where
  /-- The owner of a recursive lock may take it again. -/
  recursive : L → Bool
  mayCall : T → C → Bool
  acts : C → List (LockAct L)

/-- A thread: the locks it holds, and what is left of its call. -/
structure LockThread (L : Type*) where
  held : List L
  todo : List (LockAct L)
  exited : Bool

/-- The locks and the threads. -/
structure LockState (T L : Type*) where
  owner : L → Option T
  thread : T → LockThread L

/-- A thread starts a call, or goes on with the one it has started. -/
inductive LockLabel (T C : Type*)
  | call (t : T) (c : C)
  | act (t : T)

namespace LockState

variable {T L : Type*}

/-- The thread has still to take the lock in its call. -/
def WillTake (s : LockState T L) (t : T) (l : L) : Prop :=
  ∃ a ∈ (s.thread t).todo, a.takes = some l

/-- The thread owns the lock `l`, and has still to take the lock `l'`. -/
def Holding (s : LockState T L) (t : T) (l l' : L) : Prop :=
  s.owner l = some t ∧ s.WillTake t l'

/-- The thread is about to take the lock `l`, and will take the lock `l'` after it. -/
def Entering (s : LockState T L) (t : T) (l l' : L) : Prop :=
  (s.thread t).todo.head? = some (.lock l) ∧ ∃ a ∈ (s.thread t).todo.tail, a.takes = some l'

variable [DecidableEq T] [DecidableEq L]

instance (s : LockState T L) (t : T) (l : L) : Decidable (s.WillTake t l) :=
  inferInstanceAs (Decidable (∃ a ∈ _, _))

instance (s : LockState T L) (t : T) (l l' : L) : Decidable (s.Holding t l l') :=
  inferInstanceAs (Decidable (_ ∧ _))

instance (s : LockState T L) (t : T) (l l' : L) : Decidable (s.Entering t l l') :=
  inferInstanceAs (Decidable (_ ∧ _))

end LockState

namespace LockProgram

variable {T L C : Type*} [DecidableEq T] [DecidableEq L]

/-- The thread need not wait for the lock. -/
def Available (P : LockProgram T L C) (s : LockState T L) (t : T) (l : L) : Prop :=
  s.owner l = none ∨ (s.owner l = some t ∧ P.recursive l = true)

instance (P : LockProgram T L C) (s : LockState T L) (t : T) (l : L) :
    Decidable (P.Available s t l) :=
  inferInstanceAs (Decidable (_ ∨ _))

/-- The next act of a thread. -/
def act (P : LockProgram T L C) (s : LockState T L) (t : T) : Option (LockState T L) :=
  let th := s.thread t
  match th.todo with
  | [] => none
  | .lock l :: rest =>
    if P.Available s t l then
      some
        { owner := Function.update s.owner l (some t)
          thread := Function.update s.thread t ⟨l :: th.held, rest, th.exited⟩ }
    else none
  | .timeout _ :: rest =>
    -- the wait may also fail when the lock has just become free
    some { s with thread := Function.update s.thread t ⟨th.held, rest, th.exited⟩ }
  | .unlock l :: rest =>
    if l ∈ th.held then
      some
        { owner := Function.update s.owner l (if l ∈ th.held.erase l then some t else none)
          thread := Function.update s.thread t ⟨th.held.erase l, rest, th.exited⟩ }
    else none
  | .exit :: _ =>
    some { s with thread := Function.update s.thread t ⟨th.held, [], true⟩ }

/-- The machine of a program. It has no outputs. -/
def machine (P : LockProgram T L C) : Machine (LockState T L) (LockLabel T C) Empty where
  step s
    | .call t c =>
      if P.mayCall t c = true ∧ (s.thread t).todo.isEmpty = true ∧ (s.thread t).exited = false then
        some
          ({ s with thread := Function.update s.thread t ⟨(s.thread t).held, P.acts c, false⟩ }, [])
      else none
    | .act t => (P.act s t).map (·, [])

variable {P : LockProgram T L C} {s s' : LockState T L} {t u : T} {es : List Empty}
  {lb : LockLabel T C}

/-! ## Waiting -/

/-- The thread is at the lock, and cannot take it. -/
def Awaits (P : LockProgram T L C) (s : LockState T L) (t : T) (l : L) : Prop :=
  ((s.thread t).todo.head?.bind LockAct.takes) = some l ∧ ¬P.Available s t l

instance (P : LockProgram T L C) (s : LockState T L) (t : T) (l : L) : Decidable (P.Awaits s t l) :=
  inferInstanceAs (Decidable (_ ∧ ¬_))

/-- The thread `t` waits for a lock that `u` owns. -/
def WaitsOn (P : LockProgram T L C) (s : LockState T L) (t u : T) : Prop :=
  ∃ l, P.Awaits s t l ∧ s.owner l = some u

/-- No threads wait for each other in a circle, and none waits for one that has ended. -/
def DeadlockFree (P : LockProgram T L C) (s : LockState T L) : Prop :=
  (∀ t, ¬Relation.TransGen (P.WaitsOn s) t t) ∧
    ∀ t u, P.WaitsOn s t u → (s.thread u).exited = false

end LockProgram

/-! ## Discipline -/

section Discipline

variable {T L C : Type*} [DecidableEq T] [DecidableEq L] {ok : List L → L → Prop}
  {held mid out : List L} {l : L} {acts acts' : List (LockAct L)}

/-- The acts, begun with the locks `held`, take a lock only if `ok` allows it beside those held,
release only what they hold, and end with the locks `out`. -/
def Disciplined (ok : List L → L → Prop) : List L → List (LockAct L) → List L → Prop
  | held, [], out => held = out
  | held, .lock l :: rest, out => (l ∉ held ∧ ok held l) ∧ Disciplined ok (l :: held) rest out
  | held, .timeout l :: rest, out => (l ∉ held ∧ ok held l) ∧ Disciplined ok held rest out
  | held, .unlock l :: rest, out => l ∈ held ∧ Disciplined ok (held.erase l) rest out
  | held, .exit :: _, _ => held = []

/-- To do nothing is disciplined. -/
theorem Disciplined.nil : Disciplined ok held [] held := by
  rw [Disciplined]

/-- Disciplined acts may follow each other. -/
theorem Disciplined.append (h : Disciplined ok held acts mid)
    (h' : Disciplined ok mid acts' out) : Disciplined ok held (acts ++ acts') out := by
  induction acts generalizing held with
  | nil =>
    obtain rfl : held = mid := h
    exact h'
  | cons a acts ih =>
    cases a with
    | lock l => exact ⟨h.1, ih h.2⟩
    | timeout l => exact ⟨h.1, ih h.2⟩
    | unlock l => exact ⟨h.1, ih h.2⟩
    | exit => exact h

/-- Acts that leave the locks as they are may stand under a lock. -/
theorem Disciplined.guarded (hl : l ∉ held ∧ ok held l)
    (h : Disciplined ok (l :: held) acts (l :: held)) :
    Disciplined ok held (guarded l acts) held := by
  refine ⟨hl, h.append ⟨List.mem_cons_self, ?_⟩⟩
  rw [List.erase_cons_head]
  exact .nil

/-- The acts of a branch that may be left out. -/
theorem Disciplined.ite {p : Prop} [Decidable p] (h : Disciplined ok held acts held) :
    Disciplined ok held (if p then acts else []) held := by
  split
  · exact h
  · exact .nil

end Discipline

namespace LockProgram

variable {T L C : Type*} [DecidableEq T] [DecidableEq L] {P : LockProgram T L C}
  {s s' : LockState T L} {t u : T} {es : List Empty} {lb : LockLabel T C}
  {ok : T → List L → L → Prop}

/-- Every thread is disciplined, by its own condition, and holds the locks that it owns. -/
structure Sound (ok : T → List L → L → Prop) (s : LockState T L) : Prop where
  owner_iff : ∀ t l, s.owner l = some t ↔ l ∈ (s.thread t).held
  nodup : ∀ t, (s.thread t).held.Nodup
  disciplined : ∀ t, Disciplined (ok t) (s.thread t).held (s.thread t).todo []
  exited : ∀ t, (s.thread t).exited = true → (s.thread t).held = [] ∧ (s.thread t).todo = []

omit [DecidableEq T] in
/-- A disciplined thread is at a lock that it does not hold, and that its condition allows. -/
theorem Sound.ok_of_takes (hS : Sound ok s) {l : L}
    (h : ((s.thread t).todo.head?.bind LockAct.takes) = some l) :
    l ∉ (s.thread t).held ∧ ok t (s.thread t).held l := by
  have hd := hS.disciplined t
  rcases htodo : (s.thread t).todo with _ | ⟨a, rest⟩
  · rw [htodo] at h
    cases h
  · rw [htodo] at h hd
    cases a with
    | lock l' | timeout l' =>
      obtain rfl : l' = l := Option.some.inj h
      exact hd.1
    | unlock l' | exit => cases h

omit [DecidableEq T] in
/-- A thread between two calls holds nothing. -/
theorem Sound.held_nil (hS : Sound ok s) (h : (s.thread t).todo = []) : (s.thread t).held = [] := by
  have hd := hS.disciplined t
  rw [h] at hd
  exact hd

/-! ## Steps -/

/-- What a step can do to disciplined threads. -/
inductive StepCase (P : LockProgram T L C) (s : LockState T L) :
    LockLabel T C → LockState T L → Prop
  | called {t : T} {c : C} (hmay : P.mayCall t c = true) (hnil : (s.thread t).todo = []) :
      StepCase P s (.call t c)
        { s with thread := Function.update s.thread t ⟨(s.thread t).held, P.acts c, false⟩ }
  | locked {t : T} {l : L} {rest : List (LockAct L)} (htodo : (s.thread t).todo = .lock l :: rest)
      (hfree : s.owner l = none) :
      StepCase P s (.act t)
        { owner := Function.update s.owner l (some t)
          thread := Function.update s.thread t
            ⟨l :: (s.thread t).held, rest, (s.thread t).exited⟩ }
  | timedOut {t : T} {l : L} {rest : List (LockAct L)}
      (htodo : (s.thread t).todo = .timeout l :: rest) :
      StepCase P s (.act t)
        { s with thread := Function.update s.thread t
                  ⟨(s.thread t).held, rest, (s.thread t).exited⟩ }
  | unlocked {t : T} {l : L} {rest : List (LockAct L)}
      (htodo : (s.thread t).todo = .unlock l :: rest) :
      StepCase P s (.act t)
        { owner := Function.update s.owner l none
          thread := Function.update s.thread t
            ⟨(s.thread t).held.erase l, rest, (s.thread t).exited⟩ }
  | ended {t : T} {rest : List (LockAct L)} (htodo : (s.thread t).todo = .exit :: rest) :
      StepCase P s (.act t)
        { s with thread := Function.update s.thread t ⟨(s.thread t).held, [], true⟩ }

/-- Disciplined threads take no lock twice, so that a lock is free before it is taken and after it
is released. -/
theorem step_cases (hS : Sound ok s) (h : P.machine.step s lb = some (s', es)) :
    StepCase P s lb s' := by
  cases lb with
  | call t c =>
    simp only [machine] at h
    split at h
    · rename_i hcall
      cases h
      exact .called hcall.1 (by simpa using hcall.2.1)
    · cases h
  | act t =>
    obtain ⟨hact, -⟩ : P.act s t = some s' ∧ es = [] := by simpa [machine] using h
    have hd := hS.disciplined t
    simp only [act] at hact
    split at hact
    · cases hact
    · rename_i l rest htodo
      rw [htodo] at hd
      split at hact
      · rename_i havail
        cases hact
        -- a recursive lock would be taken for the second time
        refine .locked htodo (havail.resolve_right fun hown => ?_)
        exact hd.1.1 ((hS.owner_iff t l).mp hown.1)
      · cases hact
    · cases hact
      exact .timedOut ‹_›
    · rename_i l rest htodo
      split at hact
      · cases hact
        rw [if_neg (hS.nodup t).not_mem_erase]
        exact .unlocked htodo
      · cases hact
    · cases hact
      exact .ended ‹_›

/-- A step changes one thread, and the ownership of that thread only. -/
theorem Sound.update (hS : Sound ok s) {owner : L → Option T} {th : LockThread L}
    (hown : ∀ l, owner l = some t ↔ l ∈ th.held)
    (hothers : ∀ u, u ≠ t → ∀ l, owner l = some u ↔ s.owner l = some u)
    (hnodup : th.held.Nodup) (hdis : Disciplined (ok t) th.held th.todo [])
    (hexit : th.exited = true → th.held = [] ∧ th.todo = []) :
    Sound ok { owner := owner, thread := Function.update s.thread t th } where
  owner_iff u l := by
    rcases eq_or_ne u t with rfl | hu
    · simpa using hown l
    · simpa [hu] using (hothers u hu l).trans (hS.owner_iff u l)
  nodup u := by
    rcases eq_or_ne u t with rfl | hu
    · simpa using hnodup
    · simpa [hu] using hS.nodup u
  disciplined u := by
    rcases eq_or_ne u t with rfl | hu
    · simpa using hdis
    · simpa [hu] using hS.disciplined u
  exited u := by
    rcases eq_or_ne u t with rfl | hu
    · simpa using hexit
    · simpa [hu] using hS.exited u

omit [DecidableEq T] in
/-- A thread with an act to do has not ended. -/
theorem Sound.exited_false (hS : Sound ok s) {a : LockAct L} {rest : List (LockAct L)}
    (h : (s.thread t).todo = a :: rest) : ¬(s.thread t).exited = true := by
  intro hex
  rw [(hS.exited t hex).2] at h
  cases h

/-- If the calls are disciplined, the threads are after every step. -/
theorem sound_step (hS : Sound ok s) (h : P.machine.step s lb = some (s', es))
    (hcalls : ∀ t c, lb = .call t c → P.mayCall t c = true →
      Disciplined (ok t) [] (P.acts c) []) :
    Sound ok s' := by
  cases step_cases hS h with
  | @called t c hmay hnil =>
    refine hS.update (hS.owner_iff t) (fun _ _ _ => Iff.rfl) (hS.nodup t) ?_ (by simp)
    rw [hS.held_nil hnil]
    exact hcalls t c rfl hmay
  | @locked t l rest htodo hfree =>
    have hd := hS.disciplined t
    rw [htodo] at hd
    obtain ⟨⟨hmem, -⟩, hrest⟩ := hd
    -- the lock was free, so that no other thread loses it
    refine hS.update (fun l' => ?_) (fun u hu l' => ?_) (List.nodup_cons.mpr ⟨hmem, hS.nodup t⟩)
      hrest (fun hex => absurd hex (hS.exited_false htodo))
    · rcases eq_or_ne l' l with rfl | hl'
      · simp
      · simpa [hl'] using hS.owner_iff t l'
    · rcases eq_or_ne l' l with rfl | hl'
      · simp [hfree, hu.symm]
      · simp [hl']
  | @timedOut t l rest htodo =>
    have hd := hS.disciplined t
    rw [htodo] at hd
    exact hS.update (hS.owner_iff t) (fun _ _ _ => Iff.rfl) (hS.nodup t) hd.2
      fun hex => absurd hex (hS.exited_false htodo)
  | @unlocked t l rest htodo =>
    have hd := hS.disciplined t
    rw [htodo] at hd
    obtain ⟨hmem, hrest⟩ := hd
    -- by the discipline, the thread unlocks a lock that it holds
    have hown : s.owner l = some t := (hS.owner_iff t l).mpr hmem
    refine hS.update (fun l' => ?_) (fun u hu l' => ?_) ((hS.nodup t).erase l) hrest
      (fun hex => absurd hex (hS.exited_false htodo))
    · rcases eq_or_ne l' l with rfl | hl'
      · simpa using (hS.nodup t).not_mem_erase
      · simpa [hl', List.mem_erase_of_ne] using hS.owner_iff t l'
    · rcases eq_or_ne l' l with rfl | hl'
      · simp [hown, hu.symm]
      · simp [hl']
  | @ended t rest htodo =>
    have hd := hS.disciplined t
    rw [htodo] at hd
    -- the discipline lets a thread end only with empty hands
    have hheld : (s.thread t).held = [] := hd
    refine hS.update (hS.owner_iff t) (fun _ _ _ => Iff.rfl) (hS.nodup t) ?_ fun _ => ⟨hheld, rfl⟩
    rw [hheld]
    exact rfl

/-- A thread comes to hold one lock, with another still to take, only by taking the first. -/
theorem holding_step (hS : Sound ok s) (h : P.machine.step s lb = some (s', es)) {l l' : L}
    (hH : s'.Holding u l l') :
    s.Holding u l l' ∨ (lb = .act u ∧ s.Entering u l l') := by
  obtain ⟨hown, a, ha, hl'⟩ := hH
  cases step_cases hS h with
  | @called t c hmay hnil =>
    rcases eq_or_ne u t with rfl | hu
    · -- a thread that starts a call holds nothing yet
      have hmem := (hS.owner_iff u l).mp hown
      rw [hS.held_nil hnil] at hmem
      cases hmem
    · exact .inl ⟨hown, a, by simpa [hu] using ha, hl'⟩
  | @locked t l₀ rest htodo hfree =>
    rcases eq_or_ne u t with rfl | hu
    · replace ha : a ∈ rest := by simpa using ha
      rcases eq_or_ne l l₀ with rfl | hl
      · -- the thread takes the lock in question in this step
        exact .inr ⟨rfl, by rw [htodo]; rfl, a, by rw [htodo]; exact ha, hl'⟩
      · exact .inl ⟨by simpa [hl] using hown, a, by rw [htodo]; exact .tail _ ha, hl'⟩
    · rcases eq_or_ne l l₀ with rfl | hl
      · -- the lock belongs to another thread now
        simp [hu.symm] at hown
      · exact .inl ⟨by simpa [hl] using hown, a, by simpa [hu] using ha, hl'⟩
  | @timedOut t l₀ rest htodo =>
    rcases eq_or_ne u t with rfl | hu
    · replace ha : a ∈ rest := by simpa using ha
      exact .inl ⟨hown, a, by rw [htodo]; exact .tail _ ha, hl'⟩
    · exact .inl ⟨hown, a, by simpa [hu] using ha, hl'⟩
  | @unlocked t l₀ rest htodo =>
    rcases eq_or_ne l l₀ with rfl | hl
    · -- a lock that has just been released is held by nobody
      simp at hown
    rcases eq_or_ne u t with rfl | hu
    · replace ha : a ∈ rest := by simpa using ha
      exact .inl ⟨by simpa [hl] using hown, a, by rw [htodo]; exact .tail _ ha, hl'⟩
    · exact .inl ⟨by simpa [hl] using hown, a, by simpa [hu] using ha, hl'⟩
  | @ended t rest htodo =>
    rcases eq_or_ne u t with rfl | hu
    · simp at ha
    · exact .inl ⟨hown, a, by simpa [hu] using ha, hl'⟩

/-! ## Ranks -/

omit [DecidableEq T] in
/-- If every thread waits for a lock that is above those it holds, there is no deadlock. -/
theorem deadlockFree_of_rank (hS : Sound ok s) (rank : L → ℕ)
    (hrank : ∀ t l, P.Awaits s t l → ∀ l' ∈ (s.thread t).held, rank l' < rank l) :
    P.DeadlockFree s := by
  constructor
  · apply acyclic_of_rank rank
    intro t l hawait l' hown
    exact hrank t l hawait l' ((hS.owner_iff t l').mp hown)
  · rintro t u ⟨l, -, hown⟩
    rw [Bool.eq_false_iff]
    intro hex
    have hmem := (hS.owner_iff u l).mp hown
    rw [(hS.exited u hex).1] at hmem
    cases hmem

end LockProgram
