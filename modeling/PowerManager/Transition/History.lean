import PowerManager.Transition
import Mathlib.Data.List.Induction

/-!
# Runs of the abstract transitions

Three facts about whole runs of the abstract machine, each about the effects so far and the state
that is reached:

* `Recorded` — a settled slot holds the last transition that settled, and the device is in its
  target if it was reached;
* `aim` — where the machine is heading: once every transition reaches its target, only a request
  that is not ignored changes it;
* `Path` — if no request installs a transition from an outdated state, the announced changes form
  a chain.
-/

namespace PowerManager

namespace Transition

variable {a b : Transition} {l : Step} {ss : List Step} {es es' : List Effect}

/-! ## The last transition that settled -/

/-- The outcome of the last transition that settled. -/
def lastSettled (es : List Effect) : Option (PowerState × Bool) :=
  es.foldl (fun last e => match e with | .settled t r => some (t, r) | _ => last) none

theorem lastSettled_append (es es' : List Effect) :
    lastSettled (es ++ es') = (lastSettled es').or (lastSettled es) := by
  induction es' using List.reverseRecOn with
  | nil => simp [lastSettled]
  | append_singleton es' e ih =>
    rw [← List.append_assoc]
    simp only [lastSettled, List.foldl_append, List.foldl_cons, List.foldl_nil] at ih ⊢
    cases e <;> simp [ih]

/-- The last transition that settled did settle. -/
theorem mem_of_lastSettled {t : PowerState} {r : Bool} (h : lastSettled es = some (t, r)) :
    .settled t r ∈ es := by
  induction es using List.reverseRecOn with
  | nil => simp [lastSettled] at h
  | append_singleton es e ih =>
    rw [lastSettled_append] at h
    cases e <;> simp_all [lastSettled]

/-- What the slot remembers agrees with the effects so far. -/
structure Recorded (es : List Effect) (a : Transition) : Prop where
  empty : a.slot = .empty → lastSettled es = none
  settled : ∀ t, a.slot = .settled t →
    ∃ reached, lastSettled es = some (t, reached) ∧ (reached = true → a.powerState = t)

/-- A step records what settles. -/
theorem recorded_step (hR : Recorded es a) (h : transition.step a l = some (b, es')) :
    Recorded (es ++ es') b := by
  have hquiet : ∀ b es', b.slot = a.slot → b.powerState = a.powerState → lastSettled es' = none →
      Recorded (es ++ es') b := by
    intro b es' hslot hstate hes
    have hlast : lastSettled (es ++ es') = lastSettled es := by simp [lastSettled_append, hes]
    exact ⟨fun h => hlast.trans (hR.empty (hslot ▸ h)),
      fun t h => by simpa [hlast, hstate] using hR.settled t (hslot ▸ h)⟩
  rcases step_cases h with ⟨rfl, rfl, -⟩ | ⟨n, t, -, -, -, rfl, rfl⟩ |
    ⟨n, c, -, -, -, rfl, rfl⟩ | ⟨n, c, -, -, -, rfl, rfl⟩ | ⟨-, -, rfl, rfl⟩ |
    ⟨p, t, r, -, -, rfl, rfl⟩
  · exact hquiet _ _ rfl rfl rfl
  · exact hquiet _ _ rfl rfl (by split <;> rfl)
  · exact hquiet _ _ rfl rfl rfl
  · constructor <;> simp
  · exact hquiet _ _ rfl rfl rfl
  · cases r with
    -- a failure empties nothing: the slot keeps the target, and the state stays
    | false => constructor <;> simp [settle, lastSettled]
    | true =>
      have hlast : lastSettled (a.settle p t true).2 = some (t, true) := by
        simp only [settle, ↓reduceIte]
        split <;> rfl
      constructor <;> simp [lastSettled_append, hlast] <;> simp [settle]

/-- An empty slot remembers nothing. -/
theorem recorded_nil (hempty : a.slot = .empty) : Recorded [] a :=
  ⟨fun _ => rfl, fun t h => by simp [hempty] at h⟩

/-- A run records what settles. -/
theorem recorded_run (hR : Recorded es a) (h : transition.Run a ss es' b) :
    Recorded (es ++ es') b := by
  induction h with
  | nil => simpa using hR
  | snoc _ hstep ih =>
    rw [← List.append_assoc]
    exact recorded_step ih hstep

/-- If every transition so far reached its target, the device is in the target of a settled
slot. -/
theorem Recorded.reached {t : PowerState} (hR : Recorded es a)
    (hes : ∀ t r, .settled t r ∈ es → r = true) (hslot : a.slot = .settled t) :
    a.powerState = t := by
  obtain ⟨r, hlast, hr⟩ := hR.settled t hslot
  exact hr (hes t r (mem_of_lastSettled hlast))

/-- If nothing is under way, the slot holds another state than the current one exactly if the last
transition that settled had that target and failed. -/
theorem Recorded.target?_eq_some_iff {n : PowerState} (hR : Recorded es a)
    (hslot : ∀ p t, a.slot ≠ .pending p t) (hne : n ≠ a.powerState) :
    a.slot.target? = some n ↔ lastSettled es = some (n, false) := by
  cases h : a.slot with
  | empty => simp [Slot.target?, hR.empty h]
  | pending p t => exact absurd h (hslot p t)
  | settled t =>
    obtain ⟨r, hlast, hr⟩ := hR.settled t h
    cases r with
    | false => simp [Slot.target?, hlast]
    | true => simp [Slot.target?, hlast, ← hr rfl, hne.symm]

/-- While a request is being checked and no transition is under way, nothing changes. -/
theorem run_of_checked {n c : PowerState} (hreq : a.request = .checked n c)
    (hslot : ∀ p t, a.slot ≠ .pending p t) (hss : .create ∉ ss) (h : transition.Run a ss es b) :
    b = a ∧ es = [] := by
  induction h with
  | nil => exact ⟨rfl, rfl⟩
  | snoc _ hstep ih =>
    rw [List.mem_append, not_or, List.mem_singleton] at hss
    obtain ⟨rfl, rfl⟩ := ih hss.1
    rcases step_cases hstep with ⟨rfl, rfl, -⟩ | ⟨_, _, -, hidle, -⟩ | ⟨_, _, rfl, -⟩ |
      ⟨_, _, rfl, -⟩ | ⟨-, hinst, -⟩ | ⟨p, t, _, -, hpend, -⟩
    · exact ⟨rfl, rfl⟩
    · simp [hreq] at hidle
    · exact absurd rfl hss.2
    · exact absurd rfl hss.2
    · simp [hreq] at hinst
    · exact absurd hpend (hslot p t)

/-! ## Where the machine is heading -/

/-- The state the machine is heading for: that of the request being checked, or the target of the
transition under way, or the current state. -/
def aim (a : Transition) : PowerState :=
  match a.request, a.slot with
  | .checked newState _, _ => newState
  | _, .pending _ target => target
  | _, _ => a.powerState

/-- A machine with nothing under way is where it was heading. -/
theorem aim_of_idle (hreq : a.request = .idle) (hslot : ∀ p t, a.slot ≠ .pending p t) :
    a.aim = a.powerState := by
  unfold aim
  rw [hreq]
  cases h : a.slot with
  | pending p t => exact absurd h (hslot p t)
  | _ => rfl

/-- Between requests the machine heads for the same state, if a settled transition has reached its
target. -/
theorem aim_step (hI : Inv a) (hslot : ∀ t, a.slot = .settled t → a.powerState = t)
    (hes : ∀ t r, .settled t r ∈ es → r = true) (hl : ∀ n t, l ≠ .request n t)
    (h : transition.step a l = some (b, es)) : b.aim = a.aim := by
  rcases step_cases h with ⟨rfl, -⟩ | ⟨n, t, hreq, -⟩ | ⟨n, c, -, hreq, htarget, rfl, -⟩ |
    ⟨n, c, -, hreq, -, rfl, -⟩ | ⟨-, hinst, rfl, -⟩ | ⟨p, t, r, -, hpend, rfl, rfl⟩
  · rfl
  · exact absurd hreq (hl n t)
  · cases hs : a.slot <;> simp_all [aim, Slot.target?]
  · simp [aim, hreq]
  · obtain ⟨p, t, hpend⟩ := hI.installed hinst
    simp [aim, hinst, hpend]
  · -- the transition settles in its target
    obtain rfl : r = true := hes t r (by cases r <;> simp [settle])
    cases hreq : a.request <;> simp [aim, settle, hpend, hreq]

/-- If every transition reaches its target, the machine heads for the same state over a run
without requests. -/
theorem aim_run (hI : Inv a) (hR : Recorded es a) (hes : ∀ t r, .settled t r ∈ es ++ es' → r = true)
    (hss : ∀ n t, .request n t ∉ ss) (h : transition.Run a ss es' b) : b.aim = a.aim := by
  induction h with
  | nil => rfl
  | @snoc t u ls os os' l hrun hstep ih =>
    -- the induction is on the last step, which is not a request
    have hI' : Inv t := hrun.invariant hI fun _ _ _ _ hI hs => inv_step hI hs
    have hes' : ∀ t r, .settled t r ∈ es ++ os → r = true :=
      fun t r h => hes t r (by simp [← List.append_assoc, h])
    rw [← ih hes' fun n t h => hss n t (by simp [h])]
    refine aim_step hI' (fun _ => (recorded_run hR hrun).reached hes')
      (fun t r h => hes t r (by simp [h])) ?_ hstep
    rintro n t rfl
    exact hss n t (by simp)

/-- The last request wins, unless it was ignored because the device was still in the requested
state while a transition was under way: then that transition goes on. -/
theorem last_request {n : PowerState} {transient : Bool} {os : List Effect} (hI : Inv a)
    (hR : Recorded es a) (htr : a.powerState = .standbyDeepSleep → transient = false)
    (hes : ∀ t r, .settled t r ∈ es ++ os → r = true) (hss : ∀ n t, .request n t ∉ ss)
    (h : transition.Run a (.request n transient :: ss) os b) (hreq : b.request = .idle)
    (hslot : ∀ p t, b.slot ≠ .pending p t) :
    b.powerState = n ↔ ¬(a.powerState = n ∧ ∃ p t, a.slot = .pending p t) := by
  obtain ⟨c, os₁, os₂, rfl, hstep, hrun⟩ := h.cons_inv
  have hI' := inv_step hI hstep
  have hb : b.powerState = c.aim := by
    -- in the end the machine is where it was heading since the request
    rw [← aim_of_idle hreq hslot]
    exact aim_run hI' (recorded_step hR hstep) (by simpa [List.append_assoc] using hes) hss hrun
  rcases step_cases hstep with ⟨rfl, -, hl⟩ | ⟨_, _, hl, -, hne, rfl, -⟩ | ⟨_, _, hl, -⟩ |
    ⟨_, _, hl, -⟩ | ⟨hl, -⟩ | ⟨_, _, _, hl, -⟩
  · rcases hl with ⟨n', t', hl, hidle, hignored⟩ | hl <;> cases hl
    -- the request was ignored, because the device is in the state
    obtain rfl : n = c.powerState := hignored.resolve_right fun h => by simp [htr h.1] at h
    rw [hb]
    by_cases hpend : ∃ p t, c.slot = .pending p t
    · obtain ⟨p, t, hpend⟩ := hpend
      simp [aim, hidle, hpend, hI.pending_ne p t hpend]
    · have hidle' := aim_of_idle hidle fun p t h => hpend ⟨p, t, h⟩
      simp [hidle', hpend]
  · cases hl
    simp [hb, aim, Ne.symm hne]
  all_goals cases hl

/-! ## The chain of changes -/

/-- The announced changes, in order. -/
def changes (es : List Effect) : List (PowerState × PowerState) :=
  es.filterMap fun e => match e with | .changed p n => some (p, n) | _ => none

@[simp]
theorem changes_append (es es' : List Effect) :
    changes (es ++ es') = changes es ++ changes es' := by
  simp [changes]

/-- `Path s cs t`: the changes `cs` form a chain of proper changes from `s` to `t`. -/
def Path : PowerState → List (PowerState × PowerState) → PowerState → Prop
  | s, [], t => s = t
  | s, (p, n) :: cs, t => p = s ∧ p ≠ n ∧ Path n cs t

instance decidablePath : ∀ s cs t, Decidable (Path s cs t)
  | s, [], t => inferInstanceAs (Decidable (s = t))
  | s, (p, n) :: cs, t =>
    have := decidablePath n cs t
    inferInstanceAs (Decidable (p = s ∧ p ≠ n ∧ Path n cs t))

/-- A chain can be prolonged from where it leads. -/
theorem Path.snoc {s t u : PowerState} {cs : List (PowerState × PowerState)} (h : Path s cs t)
    (hne : t ≠ u) : Path s (cs ++ [(t, u)]) u := by
  induction cs generalizing s with
  | nil => exact ⟨(h : s = t).symm, hne, rfl⟩
  | cons c cs ih => exact ⟨h.1, h.2.1, ih h.2.2⟩

/-- A step that installs a transition does so from the current state. -/
def Current (a : Transition) (l : Step) : Prop :=
  ∀ n c, l = .create → a.request = .checked n c → a.slot.target? ≠ some n → c = a.powerState

/-- The transition under way announces a change from the current state. -/
def Aligned (a : Transition) : Prop :=
  ∀ p t, a.slot = .pending p t → p = a.powerState

/-- A step that installs from the current state keeps the transition under way aligned. -/
theorem aligned_step (hA : Aligned a) (hl : Current a l) (h : transition.step a l = some (b, es)) :
    Aligned b := by
  rcases step_cases h with ⟨rfl, -⟩ | ⟨n, t, -, -, -, rfl, -⟩ | ⟨n, c, -, -, -, rfl, -⟩ |
    ⟨n, c, rfl, hreq, htarget, rfl, -⟩ | ⟨-, -, rfl, -⟩ | ⟨p, t, r, -, hpend, rfl, -⟩
  · exact hA
  · exact hA
  · exact hA
  · rintro p t hp
    -- the only step that fills the slot with a transition
    obtain ⟨rfl, rfl⟩ : c = p ∧ n = t := by simpa using hp
    exact hl n c rfl hreq htarget
  · exact hA
  · intro p' t' hp'
    cases r <;> simp [settle] at hp'

/-- While the transition under way is aligned, a step announces the change it makes, if it makes
one, and that change is proper. -/
theorem changes_step (hI : Inv a) (hA : Aligned a) (h : transition.step a l = some (b, es)) :
    (changes es = [] ∧ b.powerState = a.powerState) ∨
      (changes es = [(a.powerState, b.powerState)] ∧ a.powerState ≠ b.powerState ∧
        b.lastPowerState = a.powerState) := by
  rcases step_cases h with ⟨rfl, rfl, -⟩ | ⟨n, t, -, -, -, rfl, rfl⟩ | ⟨n, c, -, -, -, rfl, rfl⟩ |
    ⟨n, c, -, -, -, rfl, rfl⟩ | ⟨-, -, rfl, rfl⟩ | ⟨p, t, r, -, hpend, rfl, rfl⟩
  · exact .inl ⟨rfl, rfl⟩
  · exact .inl ⟨by split <;> rfl, rfl⟩
  · exact .inl ⟨rfl, rfl⟩
  · exact .inl ⟨rfl, rfl⟩
  · exact .inl ⟨rfl, rfl⟩
  · cases r with
    | false => exact .inl ⟨rfl, rfl⟩
    | true =>
      -- what is announced is a change from the current state, since the slot is aligned
      obtain rfl := hA p t hpend
      refine .inr ⟨?_, (hI.pending_ne _ t hpend).symm, rfl⟩
      simp only [settle, ↓reduceIte]
      split <;> rfl

end Transition

end PowerManager
