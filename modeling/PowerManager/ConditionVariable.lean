import PowerManager.Machine
import Mathlib.Logic.Function.Basic

/-!
# A flag with a condition variable

Threads set, clear, test and await a flag. The flag is guarded by a mutex, and a thread that sets it
notifies a condition variable after it has released the mutex. A thread that awaits the flag is
blocked by the condition variable as long as the flag is not set, but no longer than for a given
time; a condition variable may also wake a thread for no reason.

The module introduces:

* `guardedFlag` — the machine of the threads, with the mutex and the condition variable;
* `StepCase` — what a step can do;
* `Inv` — no wake-up is lost: whoever is blocked although the flag is set, is yet to be notified;
* `exists_step` — a thread that is not blocked can go on, or the owner of the mutex can;
* `FlagStage.left` — how many steps a thread has still to take until it is told that the flag is
  set; while it is set, each of them brings the thread closer to its answer (`left_step`).
-/

/-- What a thread does with the flag. -/
inductive FlagOp
  | set
  | clear
  | test
  /-- The thread waits until the flag is set, or its time is over. -/
  | await
  deriving DecidableEq, Repr

/-- Where a thread is in an operation. -/
inductive FlagStage
  | away
  /-- The thread takes the mutex, to go on with the operation. -/
  | locking (op : FlagOp)
  | holding (op : FlagOp)
  /-- The thread has set the flag and released the mutex, and has yet to notify. -/
  | notifying
  /-- The condition variable has released the mutex and blocks the thread. -/
  | blocked
  deriving DecidableEq, Repr

/-- The steps that a thread has still to take until it is told that the flag is set. -/
def FlagStage.left : FlagStage → ℕ
  | .blocked => 3
  | .locking .test | .locking .await => 2
  | .holding .test | .holding .await => 1
  | .away | .notifying | .locking .set | .locking .clear | .holding .set | .holding .clear => 0

/-- The flag, the mutex, and the threads. -/
structure GuardedFlag (T : Type*) where
  flag : Bool
  owner : Option T
  stage : T → FlagStage

namespace GuardedFlag

variable {T : Type*} [DecidableEq T]

/-- A thread gets to another stage. -/
def setStage (s : GuardedFlag T) (t : T) (stage : FlagStage) : GuardedFlag T :=
  { s with stage := Function.update s.stage t stage }

/-- Whoever is blocked goes on, and takes the mutex again. -/
def notifyAll (s : GuardedFlag T) : GuardedFlag T :=
  { s with stage := fun t => if s.stage t = .blocked then .locking .await else s.stage t }

/-- The thread that has the mutex does its operation, and releases the mutex. A test or a wait that
is over returns the flag. -/
def act (s : GuardedFlag T) (t : T) : FlagOp → GuardedFlag T × List (T × Bool)
  | .set => ({ s.setStage t .notifying with flag := true, owner := none }, [])
  | .clear => ({ s.setStage t .away with flag := false, owner := none }, [])
  | .test => ({ s.setStage t .away with owner := none }, [(t, s.flag)])
  | .await =>
    if s.flag then ({ s.setStage t .away with owner := none }, [(t, true)])
    -- the mutex is released as the thread is blocked
    else ({ s.setStage t .blocked with owner := none }, [])

/-- A step of a thread, or of the condition variable. -/
inductive Label (T : Type*)
  | begin (t : T) (op : FlagOp)
  | lock (t : T)
  | act (t : T)
  | notify (t : T)
  /-- A blocked thread is woken for no reason, or its time is over; then it tests the flag for the
  last time. -/
  | wake (t : T) (timedOut : Bool)
  deriving DecidableEq, Repr

/-- The thread that a step belongs to. -/
@[simp]
def Label.thread : Label T → T
  | .begin t _ | .lock t | .act t | .notify t | .wake t _ => t

/-- The steps that a thread takes once it has begun with an operation. -/
def Label.Goes : Label T → Prop
  | .lock _ | .act _ | .notify _ => True
  | .begin _ _ | .wake _ _ => False

/-- The threads as a machine. It emits what they are told about the flag. -/
def guardedFlag : Machine (GuardedFlag T) (Label T) (T × Bool) where
  step s
    | .begin t op => if s.stage t = .away then some (s.setStage t (.locking op), []) else none
    | .lock t =>
      match s.stage t, s.owner with
      | .locking op, none => some ({ s.setStage t (.holding op) with owner := some t }, [])
      | _, _ => none
    | .act t =>
      match s.stage t with
      | .holding op => some (s.act t op)
      | _ => none
    | .notify t =>
      if s.stage t = .notifying then some ((s.setStage t .away).notifyAll, []) else none
    | .wake t timedOut =>
      if s.stage t = .blocked then
        some (s.setStage t (.locking (if timedOut then .test else .await)), [])
      else none

/-- Nobody uses the flag, which is not set. -/
def initial : GuardedFlag T := ⟨false, none, fun _ => .away⟩

/-- The mutex is held by its owner, and as long as somebody is blocked although the flag is set,
somebody has yet to notify. -/
structure Inv (s : GuardedFlag T) : Prop where
  owner : ∀ t, s.owner = some t ↔ ∃ op, s.stage t = .holding op
  awake : s.flag = true → ∀ t, s.stage t = .blocked → ∃ u, s.stage u = .notifying

variable {s s' : GuardedFlag T} {l : Label T} {ls : List (Label T)} {os : List (T × Bool)} {t u : T}
  {b : Bool} {op : FlagOp}

omit [DecidableEq T] in
theorem inv_initial : (initial : GuardedFlag T).Inv :=
  ⟨by simp [initial], by simp [initial]⟩

@[simp]
theorem setStage_flag (s : GuardedFlag T) (t : T) (stage : FlagStage) :
    (s.setStage t stage).flag = s.flag := rfl

@[simp]
theorem setStage_owner (s : GuardedFlag T) (t : T) (stage : FlagStage) :
    (s.setStage t stage).owner = s.owner := rfl

@[simp]
theorem setStage_self (s : GuardedFlag T) (t : T) (stage : FlagStage) :
    (s.setStage t stage).stage t = stage := by
  simp [setStage]

@[simp]
theorem setStage_of_ne (s : GuardedFlag T) (stage : FlagStage) (h : u ≠ t) :
    (s.setStage t stage).stage u = s.stage u := by
  simp [setStage, h]

theorem setStage_setStage (s : GuardedFlag T) (t : T) (stage stage' : FlagStage) :
    (s.setStage t stage).setStage t stage' = s.setStage t stage' := by
  simp [setStage]

theorem setStage_eq_self {stage : FlagStage} (h : s.stage t = stage) : s.setStage t stage = s := by
  rw [← h, setStage, Function.update_eq_self]

/-- Nobody is blocked when a thread gets to another stage. -/
theorem setStage_ne_blocked {stage : FlagStage} (h : ∀ u, s.stage u ≠ .blocked)
    (hstage : stage ≠ .blocked) (u : T) : (s.setStage t stage).stage u ≠ .blocked := by
  by_cases hu : u = t
  · subst hu
    simpa using hstage
  · simpa [hu] using h u

omit [DecidableEq T] in
/-- Nobody is blocked, and nobody is woken. -/
theorem notifyAll_eq_self (h : ∀ t, s.stage t ≠ .blocked) : s.notifyAll = s := by
  have hstage : s.notifyAll.stage = s.stage := by
    funext t
    exact if_neg (h t)
  rw [notifyAll] at hstage ⊢
  exact congrArg (fun stage => { s with stage }) hstage

/-! ## What a step can do -/

/-- The steps of the threads, classified. -/
inductive StepCase (s : GuardedFlag T) : Label T → GuardedFlag T → List (T × Bool) → Prop
  | begun {t : T} {op : FlagOp} (h : s.stage t = .away) :
      StepCase s (.begin t op) (s.setStage t (.locking op)) []
  | locked {t : T} {op : FlagOp} (h : s.stage t = .locking op) (hfree : s.owner = none) :
      StepCase s (.lock t) { s.setStage t (.holding op) with owner := some t } []
  | set {t : T} (h : s.stage t = .holding .set) :
      StepCase s (.act t) { s.setStage t .notifying with flag := true, owner := none } []
  | cleared {t : T} (h : s.stage t = .holding .clear) :
      StepCase s (.act t) { s.setStage t .away with flag := false, owner := none } []
  /-- The thread tests the flag, or has waited until it is set. -/
  | told {t : T} {op : FlagOp} (h : s.stage t = .holding op)
      (hop : op = .test ∨ op = .await ∧ s.flag = true) :
      StepCase s (.act t) { s.setStage t .away with owner := none } [(t, s.flag)]
  | blocked {t : T} (h : s.stage t = .holding .await) (hflag : s.flag = false) :
      StepCase s (.act t) { s.setStage t .blocked with owner := none } []
  | notified {t : T} (h : s.stage t = .notifying) :
      StepCase s (.notify t) (s.setStage t .away).notifyAll []
  | woken {t : T} {timedOut : Bool} (h : s.stage t = .blocked) :
      StepCase s (.wake t timedOut)
        (s.setStage t (.locking (if timedOut then .test else .await))) []

theorem step_cases (h : guardedFlag.step s l = some (s', os)) : StepCase s l s' os := by
  cases l with
  | begin t op =>
    simp only [guardedFlag] at h
    split at h
    · cases h
      exact .begun ‹_›
    · cases h
  | lock t =>
    simp only [guardedFlag] at h
    split at h
    · cases h
      exact .locked ‹_› ‹_›
    · cases h
  | act t =>
    simp only [guardedFlag] at h
    split at h
    · rename_i op hholding
      have hact : s.act t op = (s', os) := Option.some.inj h
      cases op with
      | set =>
        cases hact
        exact .set hholding
      | clear =>
        cases hact
        exact .cleared hholding
      | test =>
        cases hact
        exact .told hholding (.inl rfl)
      | await =>
        by_cases hflag : s.flag = true
        · rw [act, if_pos hflag, ← hflag] at hact
          cases hact
          exact .told hholding (.inr ⟨rfl, hflag⟩)
        · rw [act, if_neg hflag] at hact
          cases hact
          exact .blocked hholding (by simpa using hflag)
    · cases h
  | notify t =>
    simp only [guardedFlag] at h
    split at h
    · cases h
      exact .notified ‹_›
    · cases h
  | wake t timedOut =>
    simp only [guardedFlag] at h
    split at h
    · cases h
      exact .woken ‹_›
    · cases h

/-! ## The invariant -/

omit [DecidableEq T] in
/-- Only one thread has the mutex. -/
theorem Inv.eq_of_holding {op' : FlagOp} (hI : s.Inv) (ht : s.stage t = .holding op)
    (hu : s.stage u = .holding op') : u = t := by
  have hone := (hI.owner t).mpr ⟨op, ht⟩
  rw [(hI.owner u).mpr ⟨op', hu⟩] at hone
  exact Option.some.inj hone

/-- A thread that goes from one stage without the mutex to another. -/
theorem Inv.owner_setStage (hI : s.Inv) (stage : FlagStage) (hold : ∀ op, s.stage t ≠ .holding op)
    (hnew : ∀ op, stage ≠ .holding op) (u : T) :
    s.owner = some u ↔ ∃ op, (s.setStage t stage).stage u = .holding op := by
  rw [hI.owner u]
  by_cases hu : u = t
  · subst hu
    simp [hold, hnew]
  · simp [hu]

/-- A thread that gives the mutex back. -/
theorem Inv.owner_release (hI : s.Inv) {stage : FlagStage} (h : s.stage t = .holding op)
    (hnew : ∀ op, stage ≠ .holding op) (u : T) :
    none = some u ↔ ∃ op, (s.setStage t stage).stage u = .holding op := by
  refine ⟨fun h => by simp at h, ?_⟩
  rintro ⟨op', hu⟩
  by_cases hut : u = t
  · subst hut
    rw [setStage_self] at hu
    exact absurd hu (hnew op')
  · rw [setStage_of_ne _ _ hut] at hu
    exact absurd (hI.eq_of_holding h hu) hut

/-- A thread that takes the mutex. -/
theorem Inv.owner_take (hI : s.Inv) (hfree : s.owner = none) (u : T) :
    some t = some u ↔ ∃ op', (s.setStage t (.holding op)).stage u = .holding op' := by
  by_cases hut : u = t
  · subst hut
    simp
  · have hnone : ¬∃ op, s.stage u = .holding op := by
      rw [← hI.owner u, hfree]
      simp
    rw [setStage_of_ne _ _ hut]
    simp only [hnone, iff_false, Option.some.injEq]
    exact Ne.symm hut

/-- A thread that neither has to notify nor gets blocked. -/
theorem Inv.awake_setStage (hI : s.Inv) {stage : FlagStage} (hold : s.stage t ≠ .notifying)
    (hnew : stage ≠ .blocked) (hflag : s.flag = true) (u : T)
    (hu : (s.setStage t stage).stage u = .blocked) :
    ∃ v, (s.setStage t stage).stage v = .notifying := by
  have hut : u ≠ t := by
    rintro rfl
    rw [setStage_self] at hu
    exact hnew hu
  rw [setStage_of_ne _ _ hut] at hu
  obtain ⟨v, hv⟩ := hI.awake hflag u hu
  have hvt : v ≠ t := by
    rintro rfl
    exact hold hv
  exact ⟨v, by rwa [setStage_of_ne _ _ hvt]⟩

/-- No step loses a wake-up. -/
theorem inv_step (hI : s.Inv) (h : guardedFlag.step s l = some (s', os)) : s'.Inv := by
  cases step_cases h with
  | begun haway =>
    exact ⟨hI.owner_setStage _ (by simp [haway]) (by simp),
      hI.awake_setStage (by simp [haway]) (by simp)⟩
  | locked hlocking hfree =>
    exact ⟨hI.owner_take hfree, hI.awake_setStage (by simp [hlocking]) (by simp)⟩
  | set hholding =>
    exact ⟨hI.owner_release hholding (by simp), fun _ _ _ => ⟨_, setStage_self ..⟩⟩
  | cleared hholding => exact ⟨hI.owner_release hholding (by simp), fun hflag => by cases hflag⟩
  | told hholding =>
    exact ⟨hI.owner_release hholding (by simp),
      hI.awake_setStage (by simp [hholding]) (by simp)⟩
  | blocked hholding hflag =>
    -- somebody is blocked, but the flag is not set
    refine ⟨hI.owner_release hholding (by simp), fun hset => ?_⟩
    rw [setStage_flag, hflag] at hset
    cases hset
  | @notified t hnotifying =>
    have howner := hI.owner_setStage (t := t) .away (by simp [hnotifying]) (by simp)
    refine ⟨fun u => ?_, fun _ u hu => ?_⟩
    · refine (howner u).trans ?_
      simp only [notifyAll]
      split
      · rename_i hblocked
        simp [hblocked]
      · rfl
    · simp only [notifyAll] at hu
      split at hu
      · cases hu
      · exact absurd hu ‹_›
  | woken hblocked =>
    exact ⟨hI.owner_setStage _ (by simp [hblocked]) (by simp),
      hI.awake_setStage (by simp [hblocked]) (by simp)⟩

/-! ## What comes of an operation -/

/-- A thread that is neither away nor blocked can go on, or the owner of the mutex can. -/
theorem exists_step (hI : s.Inv) (haway : s.stage t ≠ .away) (hblocked : s.stage t ≠ .blocked) :
    ∃ l r, guardedFlag.step s l = some r ∧ l.Goes ∧ (l.thread = t ∨ s.owner = some l.thread) := by
  cases hstage : s.stage t with
  | away => exact absurd hstage haway
  | blocked => exact absurd hstage hblocked
  | locking op =>
    cases howner : s.owner with
    | none =>
      have hstep : (guardedFlag.step s (.lock t)).isSome = true := by
        simp [guardedFlag, hstage, howner]
      obtain ⟨r, hr⟩ := Option.isSome_iff_exists.mp hstep
      exact ⟨.lock t, r, hr, trivial, .inl rfl⟩
    | some u =>
      obtain ⟨op', hu⟩ := (hI.owner u).mp howner
      exact ⟨.act u, s.act u op', by simp only [guardedFlag, hu], trivial, .inr rfl⟩
  | holding op =>
    exact ⟨.act t, s.act t op, by simp only [guardedFlag, hstage], trivial, .inl rfl⟩
  | notifying => exact ⟨.notify t, _, if_pos hstage, trivial, .inl rfl⟩

/-- The steps of a thread leave the others where they are, but for those that it wakes. -/
theorem stage_of_ne (hne : l.thread ≠ t) (h : guardedFlag.step s l = some (s', os)) :
    s'.stage t = s.stage t ∨ s.stage t = .blocked ∧ s'.stage t = .locking .await := by
  have ht : t ≠ l.thread := Ne.symm hne
  cases step_cases h with
  | @notified u =>
    have hsame : (s.setStage u .away).stage t = s.stage t := setStage_of_ne _ _ ht
    simp only [notifyAll, hsame]
    split
    · exact .inr ⟨‹_›, rfl⟩
    · exact .inl rfl
  | _ => exact .inl (setStage_of_ne _ _ ht)

/-- What a thread comes to that sets or clears the flag. -/
theorem change_step (hop : op = .set ∨ op = .clear)
    (hstage : s.stage l.thread = .locking op ∨ s.stage l.thread = .holding op)
    (h : guardedFlag.step s l = some (s', os)) : os = [] ∧
      (s'.stage l.thread = .holding op ∨ op = .set ∧ s'.stage l.thread = .notifying ∨
        op = .clear ∧ s'.stage l.thread = .away) := by
  cases step_cases h with
  | begun haway => simp [haway] at hstage
  | @locked _ op' hlocking =>
    have hsame : op' = op := by simpa [hlocking] using hstage
    exact ⟨rfl, .inl (by simp [setStage, hsame])⟩
  | set hholding =>
    have hsame : FlagOp.set = op := by simpa [hholding] using hstage
    exact ⟨rfl, .inr (.inl ⟨hsame.symm, by simp [setStage]⟩)⟩
  | cleared hholding =>
    have hsame : FlagOp.clear = op := by simpa [hholding] using hstage
    exact ⟨rfl, .inr (.inr ⟨hsame.symm, by simp [setStage]⟩)⟩
  | @told _ op' hholding hask =>
    have hsame : op' = op := by simpa [hholding] using hstage
    subst hsame
    rcases hop with rfl | rfl <;> simp at hask
  | blocked hholding =>
    have hsame : FlagOp.await = op := by simpa [hholding] using hstage
    subst hsame
    simp at hop
  | notified hnotifying => simp [hnotifying] at hstage
  | woken hblocked => simp [hblocked] at hstage

theorem notify_step (hstage : s.stage l.thread = .notifying)
    (h : guardedFlag.step s l = some (s', os)) : s'.stage l.thread = .away := by
  cases step_cases h with
  | notified => simp [notifyAll]
  | begun hold | locked hold | set hold | cleared hold | told hold | blocked hold | woken hold =>
    simp [hold] at hstage

/-- What a thread comes to that asks for the flag. -/
theorem ask_step (hask : (s.stage l.thread).left ≠ 0)
    (h : guardedFlag.step s l = some (s', os)) : s'.flag = s.flag ∧
      ((s'.stage l.thread).left ≠ 0 ∧ os = [] ∨
        s'.stage l.thread = .away ∧ os = [(l.thread, s.flag)]) := by
  cases step_cases h with
  | begun haway => simp [haway, FlagStage.left] at hask
  | @locked _ op hlocking =>
    refine ⟨rfl, .inl ⟨?_, rfl⟩⟩
    cases op <;> simp_all [setStage, FlagStage.left]
  | set hholding | cleared hholding => simp [hholding, FlagStage.left] at hask
  | told => exact ⟨rfl, .inr ⟨by simp [setStage], rfl⟩⟩
  | blocked => exact ⟨rfl, .inl ⟨by simp [setStage, FlagStage.left], rfl⟩⟩
  | notified hnotifying => simp [hnotifying, FlagStage.left] at hask
  | @woken _ timedOut =>
    refine ⟨rfl, .inl ⟨?_, rfl⟩⟩
    cases timedOut <;> simp [FlagStage.left]

/-- The step does not clear the flag. -/
def Keeps (s : GuardedFlag T) : Label T → Prop
  | .act t => s.stage t ≠ .holding .clear
  | .begin _ _ | .lock _ | .notify _ | .wake _ _ => True

instance (s : GuardedFlag T) (l : Label T) : Decidable (s.Keeps l) :=
  match l with
  | .act _ => inferInstanceAs (Decidable (_ ≠ _))
  | .begin _ _ | .lock _ | .notify _ | .wake _ _ => inferInstanceAs (Decidable True)

/-- A flag that is not cleared stays set. -/
theorem flag_step (hflag : s.flag = true) (hl : s.Keeps l)
    (h : guardedFlag.step s l = some (s', os)) : s'.flag = true := by
  cases step_cases h with
  | set => rfl
  | cleared hholding => exact absurd hholding hl
  | _ => exact hflag

/-- While the flag is set, a thread that asks for it comes closer to its answer with every step. -/
theorem left_step (hflag : s.flag = true) (hask : (s.stage l.thread).left ≠ 0)
    (h : guardedFlag.step s l = some (s', os)) :
    (s'.stage l.thread).left < (s.stage l.thread).left := by
  cases step_cases h with
  | begun haway => simp [haway, FlagStage.left] at hask
  | @locked _ op hlocking => cases op <;> simp_all [setStage, FlagStage.left]
  | set hholding | cleared hholding => simp [hholding, FlagStage.left] at hask
  | told => simpa [setStage, FlagStage.left] using Nat.pos_of_ne_zero hask
  | blocked _ hclear => simp [hclear] at hflag
  | notified hnotifying => simp [hnotifying, FlagStage.left] at hask
  | @woken _ timedOut hblocked =>
    cases timedOut <;> simp [hblocked, FlagStage.left]

/-- Only a thread that has begun with an operation takes another step of it. -/
theorem ne_away_of_step (hl : ∀ t op, l ≠ .begin t op)
    (h : guardedFlag.step s l = some (s', os)) : s.stage l.thread ≠ .away := by
  cases step_cases h with
  | begun => exact absurd rfl (hl _ _)
  | locked hstage | set hstage | cleared hstage | told hstage | blocked hstage | notified hstage
  | woken hstage => simp [hstage]

end GuardedFlag
