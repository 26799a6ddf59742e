import PowerManager.Machine

/-!
# Watching a value that others write

A value is changed by others, who close it after a change. A watcher reads it once, and then asks to
be notified whenever it is closed. A notification does not tell the value: the watcher handles it by
reading the value again, and several notifications may be merged into one. A value that is valid and
new is taken over, which takes some time; the watcher handles one notification at a time.

The module introduces:

* `watchMachine` — the machine of the writers and the watcher, in any order of steps;
* `NotMissed` — the value is not closed between the first reading and the watch, unless it is what
  has been read: nobody is notified then;
* `WatchState.Fresh` — the watcher has the last value, or something is left for it to do; every step
  that goes unnoticed by nobody keeps it, `fresh_step`;
* `Linked` — the changes that are noticed follow one another from the value that the watcher has
  read first, `linked_run`, and each of them is noticed when the value is read, `noticed_run`.
-/

/-- What a watcher is doing. -/
inductive WatchPhase
  /-- The value has not been read. -/
  | off
  /-- The value has been read, and is not watched yet. -/
  | started
  | watching
  | stopped
  deriving DecidableEq, Repr

/-- The value and its watcher. -/
structure WatchState (V : Type*) where
  phase : WatchPhase
  current : V
  /-- The value has been closed since it was changed. -/
  closed : Bool
  /-- The notifications that have not been handled. -/
  pending : ℕ
  /-- The value that the watcher is taking over. -/
  taking : Option V
  /-- The value that the watcher has. -/
  seen : V
  deriving DecidableEq, Repr

/-- A step of the writers or the watcher. -/
inductive WatchLabel (V : Type*)
  | change (v : V)
  /-- The value is closed. The notification may be merged with one that is pending. -/
  | close (merged : Bool)
  | start
  | watch
  /-- A notification is handled. -/
  | handle
  /-- The new value has been taken over. -/
  | taken
  | stop
  | skip

/-- A change from one value to another. -/
structure Change (V : Type*) where
  old : V
  new : V
  deriving DecidableEq, Repr

/-- The writers and the watcher. The output is the changes, each at the time when it is noticed. -/
def watchMachine {V : Type*} [DecidableEq V] (valid : V → Bool) :
    Machine (WatchState V) (WatchLabel V) (Change V) where
  step s
    | .change v => some ({ s with current := v, closed := false }, [])
    | .close merged =>
      some ({ s with
        closed := true
        pending :=
          if s.phase = .watching ∧ ¬(merged = true ∧ 0 < s.pending) then s.pending + 1
          else s.pending }, [])
    | .start =>
      if s.phase = .off then some ({ s with phase := .started, seen := s.current }, []) else none
    | .watch => if s.phase = .started then some ({ s with phase := .watching }, []) else none
    | .handle =>
      if s.phase = .watching ∧ s.taking = none ∧ 0 < s.pending then
        let s := { s with pending := s.pending - 1 }
        if valid s.current = true ∧ s.current ≠ s.seen then
          some ({ s with taking := some s.current }, [⟨s.seen, s.current⟩])
        else some (s, [])
      else none
    | .taken =>
      match s.taking with
      | some v => some ({ s with taking := none, seen := v }, [])
      | none => none
    | .stop =>
      if s.phase ≠ .off ∧ s.taking = none then some ({ s with phase := .stopped }, []) else none
    | .skip => some (s, [])

namespace WatchState

variable {V : Type*} [DecidableEq V] {valid : V → Bool} {s s' : WatchState V} {l : WatchLabel V}
  {ls : List (WatchLabel V)} {os os' : List (Change V)}

/-- The value, before anybody watches it. -/
def initial (current seen : V) : WatchState V := ⟨.off, current, true, 0, none, seen⟩

/-- The value is not closed between the first reading and the watch, unless it is what has been
read. -/
def NotMissed (s : WatchState V) : WatchLabel V → Prop
  | .close _ => s.phase = .started → s.seen = s.current
  | _ => True

instance (s : WatchState V) (l : WatchLabel V) : Decidable (s.NotMissed l) := by
  unfold NotMissed
  split <;> infer_instance

/-- The watcher has the value, or is taking it over, or is going to be notified. -/
structure Fresh (valid : V → Bool) (s : WatchState V) : Prop where
  started : s.phase = .started → s.closed = true → s.seen = s.current
  watching : s.phase = .watching → s.closed = true → s.pending = 0 → valid s.current = true →
    s.taking.getD s.seen = s.current
  pending : s.phase = .off ∨ s.phase = .started → s.pending = 0
  taking : s.phase = .off ∨ s.phase = .started → s.taking = none

omit [DecidableEq V] in
theorem fresh_initial (current seen : V) : (initial current seen).Fresh valid := by
  constructor <;> simp [initial]

/-- Every step that does not go unnoticed leaves the watcher with the value, or with something to
do. -/
theorem fresh_step (hF : s.Fresh valid) (hl : s.NotMissed l)
    (h : (watchMachine valid).step s l = some (s', os)) : s'.Fresh valid := by
  obtain ⟨hstarted, hwatching, hpending, htaking⟩ := hF
  cases l with
  | change v =>
    cases h
    exact ⟨fun _ hclosed => absurd hclosed (by simp), fun _ hclosed => absurd hclosed (by simp),
      hpending, htaking⟩
  | close merged =>
    cases h
    refine ⟨fun hphase _ => hl hphase, ?_, ?_, htaking⟩
    · -- what is closed under the watch leaves a notification
      intro hphase _ hzero
      simp only [show s.phase = .watching from hphase, true_and] at hzero
      split at hzero <;> omega
    · intro hphase
      have hno : s.phase ≠ .watching := by
        rcases hphase with h | h <;> simp [show s.phase = _ from h]
      simpa [hno] using hpending hphase
  | start =>
    simp only [watchMachine] at h
    split at h
    · rename_i hoff
      cases h
      exact ⟨fun _ _ => rfl, by simp, fun _ => hpending (.inl hoff), fun _ => htaking (.inl hoff)⟩
    · cases h
  | watch =>
    simp only [watchMachine] at h
    split at h
    · rename_i hphase
      cases h
      refine ⟨by simp, fun _ hclosed _ _ => ?_, by simp, by simp⟩
      simp only [htaking (.inr hphase), Option.getD_none]
      exact hstarted hphase hclosed
    · cases h
  | handle =>
    simp only [watchMachine] at h
    split at h
    · rename_i hphase
      obtain ⟨hphase, hnone, -⟩ := hphase
      split at h
      · cases h
        refine ⟨by simp [hphase], fun _ _ _ _ => rfl, by simp [hphase], by simp [hphase]⟩
      · rename_i hold
        cases h
        refine ⟨by simp [hphase], fun _ _ _ hvalid => ?_, by simp [hphase], by simp [hphase]⟩
        -- a valid value that is not taken over is the old one
        simp only [hnone, Option.getD_none]
        by_contra hne
        exact hold ⟨hvalid, Ne.symm hne⟩
    · cases h
  | taken =>
    simp only [watchMachine] at h
    split at h
    · rename_i v hv
      cases h
      refine ⟨fun hphase _ => ?_, fun hphase hclosed hzero hvalid => ?_, hpending, fun _ => rfl⟩
      · rw [htaking (.inr hphase)] at hv
        cases hv
      · have hcurrent := hwatching hphase hclosed hzero hvalid
        rw [hv, Option.getD_some] at hcurrent
        exact hcurrent
    · cases h
  | stop =>
    simp only [watchMachine] at h
    split at h
    · cases h
      constructor <;> simp
    · cases h
  | skip =>
    cases h
    exact ⟨hstarted, hwatching, hpending, htaking⟩

end WatchState

/-! ## The changes -/

/-- The changes lead from one value to another, each from where the one before it has led, and none
of them is empty. -/
def Linked {V : Type*} : V → List (Change V) → V → Prop
  | a, [], b => a = b
  | a, c :: cs, b => c.old = a ∧ c.new ≠ c.old ∧ Linked c.new cs b

namespace Linked

variable {V : Type*} {a b : V} {cs cs' : List (Change V)}

/-- One more change. -/
theorem snoc {c : Change V} (h : Linked a cs b) (hold : c.old = b) (hne : c.new ≠ c.old) :
    Linked a (cs ++ [c]) c.new := by
  induction cs generalizing a with
  | nil => exact ⟨hold.trans (Eq.symm h), hne, rfl⟩
  | cons d ds ih => exact ⟨h.1, h.2.1, ih h.2.2⟩

end Linked

namespace WatchState

variable {V : Type*} [DecidableEq V] {valid : V → Bool} {s s' : WatchState V} {l : WatchLabel V}
  {ls : List (WatchLabel V)} {os os' : List (Change V)}

/-- The watcher has read the value, and the changes since then lead from `first` to the value that it
has, or is taking over. -/
structure Follows (first : V) (os : List (Change V)) (s : WatchState V) : Prop where
  phase : s.phase ≠ .off
  linked : Linked first os (s.taking.getD s.seen)

/-- A change is noticed when the watcher handles a notification, and the value is valid and new. -/
theorem noticed_step (h : (watchMachine valid).step s l = some (s', os')) :
    os' = [] ∨ l = .handle ∧ valid s.current = true ∧ os' = [⟨s.seen, s.current⟩] := by
  cases l with
  | change _ | close _ | skip =>
    cases h
    exact .inl rfl
  | start | watch | taken | stop =>
    simp only [watchMachine] at h
    split at h <;> cases h
    exact .inl rfl
  | handle =>
    simp only [watchMachine] at h
    split at h
    · split at h <;> cases h
      · exact .inr ⟨rfl, ‹_ ∧ _›.1, rfl⟩
      · exact .inl rfl
    · cases h

/-- Every change that is noticed leads on from the last one. -/
theorem follows_step {first : V} (hL : Follows first os s)
    (h : (watchMachine valid).step s l = some (s', os')) : Follows first (os ++ os') s' := by
  obtain ⟨hphase, hlinked⟩ := hL
  cases l with
  | change _ | close _ | skip =>
    cases h
    rw [List.append_nil]
    exact ⟨hphase, hlinked⟩
  | start =>
    simp only [watchMachine, if_neg hphase] at h
    cases h
  | watch =>
    simp only [watchMachine] at h
    split at h <;> cases h
    rw [List.append_nil]
    exact ⟨by simp, hlinked⟩
  | handle =>
    simp only [watchMachine] at h
    split at h
    · rename_i hidle
      -- nothing is being taken over, so that the last change has led to what the watcher has
      rw [hidle.2.1, Option.getD_none] at hlinked
      split at h
      · rename_i hnew
        cases h
        exact ⟨hphase, hlinked.snoc rfl hnew.2⟩
      · cases h
        rw [List.append_nil]
        exact ⟨hphase, by simpa [hidle.2.1] using hlinked⟩
    · cases h
  | taken =>
    simp only [watchMachine] at h
    split at h
    · rename_i v hv
      cases h
      rw [List.append_nil]
      exact ⟨hphase, by simpa [hv] using hlinked⟩
    · cases h
  | stop =>
    simp only [watchMachine] at h
    split at h <;> cases h
    rw [List.append_nil]
    exact ⟨by simp, hlinked⟩

/-- A watcher that has not read the value notices nothing. It begins by reading it. -/
theorem off_step (hphase : s.phase = .off) (htaking : s.taking = none)
    (h : (watchMachine valid).step s l = some (s', os')) :
    os' = [] ∧ (s'.phase = .off ∧ s'.taking = none ∨ l = .start ∧ Follows s.current [] s') := by
  cases l with
  | change _ | close _ | skip =>
    cases h
    exact ⟨rfl, .inl ⟨hphase, htaking⟩⟩
  | start =>
    simp only [watchMachine, if_pos hphase] at h
    cases h
    exact ⟨rfl, .inr ⟨rfl, by simp, by simp [Linked, htaking]⟩⟩
  | watch | handle | taken | stop => simp [watchMachine, hphase, htaking] at h

variable {current seen : V}

/-- The changes lead from the value that the watcher has read first to the one that it has, or is
taking over. Before it has read the value there are none. -/
theorem linked_run (hrun : (watchMachine valid).Run (initial current seen) ls os s) :
    s.phase = .off ∧ s.taking = none ∧ os = [] ∨
      ∃ pre post os₁ t, ls = pre ++ .start :: post ∧
        (watchMachine valid).Run (initial current seen) pre os₁ t ∧ Follows t.current os s := by
  induction hrun with
  | nil => exact .inl ⟨rfl, rfl, rfl⟩
  | @snoc t u ls os os' l hrun hstep ih =>
    rcases ih with ⟨hphase, htaking, rfl⟩ | ⟨pre, post, os₁, v, rfl, hpre, hL⟩
    · obtain ⟨rfl, ⟨hphase', htaking'⟩ | ⟨rfl, hL⟩⟩ := off_step hphase htaking hstep
      · exact .inl ⟨hphase', htaking', rfl⟩
      · exact .inr ⟨ls, [], [], t, rfl, hrun, hL⟩
    · exact .inr ⟨pre, post ++ [l], os₁, v, by simp, hpre, follows_step hL hstep⟩

/-- Each change is noticed in a step of its own, in which the value is read. -/
theorem noticed_run (hrun : (watchMachine valid).Run (initial current seen) ls os s)
    {cs cs' : List (Change V)} {c : Change V} (hcut : os = cs ++ c :: cs') :
    ∃ pre post t, ls = pre ++ .handle :: post ∧
      (watchMachine valid).Run (initial current seen) pre cs t ∧ valid t.current = true ∧
        c = ⟨t.seen, t.current⟩ := by
  induction hrun generalizing cs' with
  | nil => simp at hcut
  | @snoc t u ls os os' l hrun hstep ih =>
    rcases noticed_step hstep with rfl | ⟨rfl, hvalid, rfl⟩
    · rw [List.append_nil] at hcut
      obtain ⟨pre, post, v, rfl, hrest⟩ := ih hcut
      exact ⟨pre, post ++ [l], v, by simp, hrest⟩
    · -- it is the change of this step, or one from before
      rcases List.eq_nil_or_concat cs' with rfl | ⟨cs', c', rfl⟩
      · obtain ⟨rfl, hlast⟩ := List.append_inj' hcut rfl
        exact ⟨ls, [], t, rfl, hrun, hvalid, (List.singleton_inj.mp hlast).symm⟩
      · rw [List.concat_eq_append, ← List.cons_append, ← List.append_assoc] at hcut
        obtain ⟨pre, post, v, rfl, hrest⟩ := ih (List.append_inj' hcut rfl).1
        exact ⟨pre, post ++ [.handle], v, by simp, hrest⟩

end WatchState
