import PowerManager.LockMachine

/-!
# Threads, locks and callbacks

A `CallbackProgram` is a `LockProgram` whose calls may also invoke clients. A call tells its
clients on a path: it invokes any number of them, one after the other, on its own thread. An invoked
client may make calls of its own before it returns, and these may invoke clients in turn.

Some locks are harmless: a thread may hold them while it invokes a client.

The module introduces:

* `Delivery` — the output of the machine for an invocation, with the locks that the thread holds;
* `Walks` — a list of acts comes to its clients without other locks than harmless ones on the clean
  paths, and on no other path, with one rule for each way to build such a list;
* `harmless_iff_clean` — if the calls walk, all the deliveries of a run are made under harmless
  locks exactly if they are made on clean paths.
-/

/-- What a thread does in a call: something with a lock, or with the clients. -/
inductive CallbackAct (L K : Type*)
  | lock (a : LockAct L)
  /-- The clients are told on the path `k`. -/
  | notify (k : K)
  /-- A client that has been invoked has not returned yet. -/
  | client
  deriving DecidableEq, Repr

/-- The path on which the act invokes clients. -/
def CallbackAct.path? {L K : Type*} : CallbackAct L K → Option K
  | .notify k => some k
  | .lock _ | .client => none

/-- The acts under a lock. -/
def under {L K : Type*} (l : L) (acts : List (CallbackAct L K)) : List (CallbackAct L K) :=
  .lock (.lock l) :: (acts ++ [.lock (.unlock l)])

/-- A program for the threads `T` with the locks `L`, the calls `C` and the paths `K`. -/
structure CallbackProgram (T L C K : Type*) where
  /-- The owner of a recursive lock may take it again. -/
  recursive : L → Bool
  mayCall : T → C → Bool
  /-- The calls that clients may make while they are being told. -/
  mayCallBack : C → Bool
  acts : C → List (CallbackAct L K)

/-- A thread: the locks it holds, and what is left of its calls, the innermost one first. -/
structure CallbackThread (L K : Type*) where
  held : List L
  todo : List (CallbackAct L K)
  exited : Bool

/-- The locks and the threads. -/
structure CallbackState (T L K : Type*) where
  owner : L → Option T
  thread : T → CallbackThread L K

/-- A thread starts a call, goes on with the one it has started, or invokes a client. -/
inductive CallbackLabel (T C : Type*)
  | call (t : T) (c : C)
  | act (t : T)
  | invoke (t : T)

/-- A client has been invoked. -/
structure Delivery (T L K : Type*) where
  thread : T
  path : K
  /-- The locks that the thread holds. -/
  held : List L
  deriving DecidableEq, Repr

namespace CallbackState

variable {T L K : Type*} [DecidableEq T]

/-- A thread changes, and nothing else. -/
def setThread (s : CallbackState T L K) (t : T) (th : CallbackThread L K) :
    CallbackState T L K :=
  { s with thread := Function.update s.thread t th }

/-- The path on which the thread is telling its clients. -/
def path? (s : CallbackState T L K) (t : T) : Option K :=
  (s.thread t).todo.head?.bind CallbackAct.path?

end CallbackState

namespace CallbackProgram

variable {T L C K : Type*} [DecidableEq T] [DecidableEq L]

/-- The thread need not wait for the lock. -/
def Available (P : CallbackProgram T L C K) (s : CallbackState T L K) (t : T) (l : L) : Prop :=
  s.owner l = none ∨ (s.owner l = some t ∧ P.recursive l = true)

instance (P : CallbackProgram T L C K) (s : CallbackState T L K) (t : T) (l : L) :
    Decidable (P.Available s t l) :=
  inferInstanceAs (Decidable (_ ∨ _))

/-- The next act of a thread. Clients are told until the thread goes on. -/
def act (P : CallbackProgram T L C K) (s : CallbackState T L K) (t : T) :
    Option (CallbackState T L K) :=
  let th := s.thread t
  match th.todo with
  | [] => none
  | .lock (.lock l) :: rest =>
    if P.Available s t l then
      some ({ s with owner := Function.update s.owner l (some t) }.setThread t
        ⟨l :: th.held, rest, th.exited⟩)
    else none
  | .lock (.timeout _) :: rest => some (s.setThread t ⟨th.held, rest, th.exited⟩)
  | .lock (.unlock l) :: rest =>
    if l ∈ th.held then
      some ({ s with owner := Function.update s.owner l
                              (if l ∈ th.held.erase l then some t else none) }.setThread t
        ⟨th.held.erase l, rest, th.exited⟩)
    else none
  | .lock .exit :: _ => some (s.setThread t ⟨th.held, [], true⟩)
  | .notify _ :: rest => some (s.setThread t ⟨th.held, rest, th.exited⟩)
  | .client :: rest => some (s.setThread t ⟨th.held, rest, th.exited⟩)

/-- A thread starts a call between two others, or while a client has been invoked. -/
def call (P : CallbackProgram T L C K) (s : CallbackState T L K) (t : T) (c : C) :
    Option (CallbackState T L K) :=
  let th := s.thread t
  match th.todo with
  | [] =>
    if P.mayCall t c = true ∧ th.exited = false then
      some (s.setThread t ⟨th.held, P.acts c, false⟩)
    else none
  | .client :: rest =>
    if P.mayCallBack c = true then
      some (s.setThread t ⟨th.held, P.acts c ++ .client :: rest, th.exited⟩)
    else none
  | _ => none

/-- A thread invokes one more client. -/
def invoke (s : CallbackState T L K) (t : T) :
    Option (CallbackState T L K × List (Delivery T L K)) :=
  let th := s.thread t
  match th.todo with
  | .notify k :: rest =>
    some (s.setThread t ⟨th.held, .client :: .notify k :: rest, th.exited⟩, [⟨t, k, th.held⟩])
  | _ => none

/-- The machine of a program. -/
def machine (P : CallbackProgram T L C K) :
    Machine (CallbackState T L K) (CallbackLabel T C) (Delivery T L K) where
  step s
    | .call t c => (P.call s t c).map (·, [])
    | .act t => (P.act s t).map (·, [])
    | .invoke t => invoke s t

end CallbackProgram

/-! ## Walks -/

section Walks

variable {L K : Type*} [DecidableEq L] {harmless : L → Prop} {clean : K → Prop}
  {held mid out : List L} {l : L} {acts acts' : List (CallbackAct L K)}

/-- The acts, begun with the locks `held`, tell the clients on the clean paths under harmless locks,
and under another lock on the other paths. They release only what they hold, and end with the locks
`out`. -/
def Walks (harmless : L → Prop) (clean : K → Prop) :
    List L → List (CallbackAct L K) → List L → Prop
  | held, [], out => held = out
  | held, .lock (.lock l) :: rest, out => Walks harmless clean (l :: held) rest out
  | held, .lock (.timeout _) :: rest, out => Walks harmless clean held rest out
  | held, .lock (.unlock l) :: rest, out => Walks harmless clean (held.erase l) rest out
  | _, .lock .exit :: _, _ => True
  | held, .notify k :: rest, out =>
    (clean k ↔ ∀ l ∈ held, harmless l) ∧ Walks harmless clean held rest out
  | held, .client :: rest, out => (∀ l ∈ held, harmless l) ∧ Walks harmless clean held rest out

/-- To do nothing is a walk. -/
theorem Walks.nil : Walks harmless clean held [] held := by
  rw [Walks]

/-- Walks may follow each other. -/
theorem Walks.append (h : Walks harmless clean held acts mid)
    (h' : Walks harmless clean mid acts' out) :
    Walks harmless clean held (acts ++ acts') out := by
  induction acts generalizing held with
  | nil =>
    obtain rfl : held = mid := h
    exact h'
  | cons a acts ih =>
    cases a with
    | lock a =>
      cases a with
      | lock l => exact @ih (l :: held) h
      | timeout l => exact @ih held h
      | unlock l => exact @ih (held.erase l) h
      | exit => exact h
    | notify k => exact ⟨h.1, ih h.2⟩
    | client => exact ⟨h.1, ih h.2⟩

/-- A walk that leaves the locks as they are may be made under a lock. -/
theorem Walks.under (h : Walks harmless clean (l :: held) acts (l :: held)) :
    Walks harmless clean held (under l acts) held := by
  show Walks harmless clean (l :: held) (acts ++ [.lock (.unlock l)]) held
  refine h.append ?_
  show (l :: held).erase l = held
  rw [List.erase_cons_head]

/-- The acts of a branch that may be left out. -/
theorem Walks.ite {p : Prop} [Decidable p] (h : Walks harmless clean held acts held) :
    Walks harmless clean held (if p then acts else []) held := by
  split
  · exact h
  · exact .nil

/-- The clients are told. -/
theorem Walks.notify {k : K} (hk : clean k ↔ ∀ l ∈ held, harmless l) :
    Walks harmless clean held [.notify k] held :=
  ⟨hk, .nil⟩

end Walks

namespace CallbackProgram

variable {T L C K : Type*} [DecidableEq T] [DecidableEq L] {P : CallbackProgram T L C K}
  {s s' : CallbackState T L K} {t : T} {ds : List (Delivery T L K)} {lb : CallbackLabel T C}
  {harmless : L → Prop} {clean : K → Prop}

/-- What is left of the calls of each thread is a walk, from the locks that the thread holds. A
thread that has ended has no calls left. -/
structure Sound (harmless : L → Prop) (clean : K → Prop) (s : CallbackState T L K) : Prop where
  walks : ∀ t, (s.thread t).exited = false →
    Walks harmless clean (s.thread t).held (s.thread t).todo []
  exited : ∀ t, (s.thread t).exited = true → (s.thread t).todo = []

/-- A client is invoked on a clean path only. -/
def Clean (clean : K → Prop) (s : CallbackState T L K) : CallbackLabel T C → Prop
  | .invoke t => ∀ k ∈ s.path? t, clean k
  | .call _ _ | .act _ => True

instance [DecidablePred clean] (s : CallbackState T L K) (lb : CallbackLabel T C) :
    Decidable (Clean clean s lb) :=
  match lb with
  | .invoke _ => inferInstanceAs (Decidable (∀ _ ∈ _, _))
  | .call _ _ | .act _ => .isTrue trivial

omit [DecidableEq T] in
/-- A thread with an act to do walks. -/
theorem Sound.walks_of_todo (hS : Sound harmless clean s) {a : CallbackAct L K}
    {rest : List (CallbackAct L K)} (htodo : (s.thread t).todo = a :: rest) :
    (s.thread t).exited = false ∧ Walks harmless clean (s.thread t).held (a :: rest) [] := by
  have hex : (s.thread t).exited = false := by
    rw [← Bool.not_eq_true]
    intro hex
    rw [hS.exited t hex] at htodo
    cases htodo
  exact ⟨hex, htodo ▸ hS.walks t hex⟩

/-- A step changes one thread; the owners of the locks do not matter. -/
theorem Sound.setThread (hS : Sound harmless clean s) {owner : L → Option T}
    {th : CallbackThread L K} (hwalks : th.exited = false → Walks harmless clean th.held th.todo [])
    (hexited : th.exited = true → th.todo = []) :
    Sound harmless clean ({ s with owner := owner }.setThread t th) where
  walks u := by
    rcases eq_or_ne u t with rfl | hu
    · simpa [CallbackState.setThread] using hwalks
    · simpa [CallbackState.setThread, hu] using hS.walks u
  exited u := by
    rcases eq_or_ne u t with rfl | hu
    · simpa [CallbackState.setThread] using hexited
    · simpa [CallbackState.setThread, hu] using hS.exited u

/-- The next act of a walk leaves a walk. -/
theorem Sound.act (hS : Sound harmless clean s) (h : P.act s t = some s') :
    Sound harmless clean s' := by
  simp only [CallbackProgram.act] at h
  split at h
  · cases h
  · rename_i l rest htodo
    obtain ⟨hex, hwalks⟩ := hS.walks_of_todo htodo
    split at h
    · cases h
      exact hS.setThread (fun _ => hwalks) (by simp [hex])
    · cases h
  · rename_i l rest htodo
    obtain ⟨hex, hwalks⟩ := hS.walks_of_todo htodo
    cases h
    exact hS.setThread (fun _ => hwalks) (by simp [hex])
  · rename_i l rest htodo
    obtain ⟨hex, hwalks⟩ := hS.walks_of_todo htodo
    split at h
    · cases h
      exact hS.setThread (fun _ => hwalks) (by simp [hex])
    · cases h
  · cases h
    exact hS.setThread (by simp) (by simp)
  -- the other acts go on to the rest of the walk
  all_goals
    rename_i rest htodo
    obtain ⟨hex, -, hwalks⟩ := hS.walks_of_todo htodo
    cases h
    exact hS.setThread (fun _ => hwalks) (by simp [hex])

/-- A call is a walk from any harmless locks, so that a client may make it. -/
theorem Sound.call (hS : Sound harmless clean s)
    (hcalls : ∀ c held, (∀ l ∈ held, harmless l) → Walks harmless clean held (P.acts c) held)
    {c : C} (h : P.call s t c = some s') : Sound harmless clean s' := by
  simp only [CallbackProgram.call] at h
  split at h
  · rename_i htodo
    split at h
    · rename_i hmay
      cases h
      -- between two calls, no lock is held
      have hheld : (s.thread t).held = [] := by
        have hwalks := hS.walks t hmay.2
        rwa [htodo] at hwalks
      refine hS.setThread (fun _ => ?_) (by simp)
      rw [hheld]
      exact hcalls c [] (by simp)
    · cases h
  · rename_i rest htodo
    obtain ⟨hex, hharmless, hwalks⟩ := hS.walks_of_todo htodo
    split at h
    · cases h
      refine hS.setThread (fun _ => ?_) (by simp [hex])
      -- the client returns after its call, and the calling thread goes on
      exact (hcalls c _ hharmless).append ⟨hharmless, hwalks⟩
    · cases h
  · cases h

/-- A client is invoked under harmless locks exactly if the path is clean, and then a walk is
left. -/
theorem Sound.invoke (hS : Sound harmless clean s)
    (h : CallbackProgram.invoke s t = some (s', ds)) :
    ((∀ d ∈ ds, ∀ l ∈ d.held, harmless l) ↔ ∀ k ∈ s.path? t, clean k) ∧
      ((∀ k ∈ s.path? t, clean k) → Sound harmless clean s') := by
  simp only [CallbackProgram.invoke] at h
  split at h
  · rename_i k rest htodo
    obtain ⟨hex, hk, hwalks⟩ := hS.walks_of_todo htodo
    cases h
    have hpath : s.path? t = some k := by
      rw [CallbackState.path?, htodo]
      rfl
    rw [hpath]
    refine ⟨by simpa using hk.symm, fun hclean => ?_⟩
    -- the rest of the walk is left for the time when the client has returned
    have hharmless := hk.mp (hclean k rfl)
    exact hS.setThread (fun _ => ⟨hharmless, hk, hwalks⟩) (by simp [hex])
  · cases h

/-- The deliveries of a step are made under harmless locks exactly if they are made on clean paths,
and then walks are left. -/
theorem Sound.step (hS : Sound harmless clean s)
    (hcalls : ∀ c held, (∀ l ∈ held, harmless l) → Walks harmless clean held (P.acts c) held)
    (h : P.machine.step s lb = some (s', ds)) :
    ((∀ d ∈ ds, ∀ l ∈ d.held, harmless l) ↔ Clean clean s lb) ∧
      (Clean clean s lb → Sound harmless clean s') := by
  cases lb with
  | call t c =>
    obtain ⟨hcall, rfl⟩ : P.call s t c = some s' ∧ [] = ds := by simpa [machine] using h
    exact ⟨by simp [Clean], fun _ => hS.call hcalls hcall⟩
  | act t =>
    obtain ⟨hact, rfl⟩ : P.act s t = some s' ∧ [] = ds := by simpa [machine] using h
    exact ⟨by simp [Clean], fun _ => hS.act hact⟩
  | invoke t => exact hS.invoke h

/-- In every run from a sound state: all the deliveries are made under harmless locks if and only if
they are all made on clean paths. -/
theorem harmless_iff_clean (hS : Sound harmless clean s)
    (hcalls : ∀ c held, (∀ l ∈ held, harmless l) → Walks harmless clean held (P.acts c) held)
    {ls : List (CallbackLabel T C)} (h : P.machine.Run s ls ds s') :
    (∀ d ∈ ds, ∀ l ∈ d.held, harmless l) ↔ P.machine.Along (Clean clean) s ls := by
  -- up to the first delivery on another path, the threads walk
  suffices hboth : ((∀ d ∈ ds, ∀ l ∈ d.held, harmless l) ↔ P.machine.Along (Clean clean) s ls) ∧
      (P.machine.Along (Clean clean) s ls → Sound harmless clean s') from hboth.1
  induction h with
  | nil => exact ⟨⟨fun _ pre l post _ _ hls => by simp at hls, by simp⟩, fun _ => hS⟩
  | @snoc t u ls ds ds' lb hrun hstep ih =>
    obtain ⟨hiff, hsound⟩ := ih
    rw [Machine.along_snoc hrun, List.forall_mem_append, hiff]
    refine ⟨and_congr_right fun halong => ?_, fun ⟨halong, hclean⟩ => ?_⟩
    · exact ((hsound halong).step hcalls hstep).1
    · exact ((hsound halong).step hcalls hstep).2 hclean

/-! ## Without the clients -/

section LocksOf

omit [DecidableEq T] [DecidableEq L]

/-- What the acts do with the locks. -/
def locksOf (acts : List (CallbackAct L K)) : List (LockAct L) :=
  acts.filterMap fun
    | .lock a => some a
    | .notify _ | .client => none

@[simp]
theorem locksOf_nil : locksOf ([] : List (CallbackAct L K)) = [] := rfl

@[simp]
theorem locksOf_cons_lock (a : LockAct L) (acts : List (CallbackAct L K)) :
    locksOf (.lock a :: acts) = a :: locksOf acts := rfl

@[simp]
theorem locksOf_cons_notify (k : K) (acts : List (CallbackAct L K)) :
    locksOf (.notify k :: acts) = locksOf acts := rfl

@[simp]
theorem locksOf_append (acts acts' : List (CallbackAct L K)) :
    locksOf (acts ++ acts') = locksOf acts ++ locksOf acts' :=
  List.filterMap_append

@[simp]
theorem locksOf_under (l : L) (acts : List (CallbackAct L K)) :
    locksOf (under l acts) = guarded l (locksOf acts) := by
  simp [under, guarded]

end LocksOf

end CallbackProgram
