import PowerManager.Machine
import PowerManager.Types

/-!
# Power state transitions, abstractly

What the implementation is for, without clients, acknowledgements, timers and semaphores: there
is a current state and at most one transition under way, held in a slot. A request either is
ignored or starts a transition, which replaces the one under way; a transition settles once,
either by moving the device to its target or by failing.

The slot also remembers the target of a transition that has settled, because the implementation
keeps the controller of a transition that is over.

The module introduces:

* `transition` — the abstract machine;
* `Transition.step_cases` — what a step can do;
* `Transition.Inv` — the invariant, kept by every step.

`Transition.History` is about whole runs of the machine, and `Implementation.Refinement` connects
it to the implementation.
-/

namespace PowerManager

/-- The transition the device is in, or the last one it was in. -/
inductive Slot
  | empty
  /-- A transition from what was the current state when it was requested. -/
  | pending (prevState target : PowerState)
  /-- The transition is over. -/
  | settled (target : PowerState)
  deriving DecidableEq, Repr

/-- The target of the transition in the slot. -/
def Slot.target? : Slot → Option PowerState
  | .empty => none
  | .pending _ target => some target
  | .settled target => some target

/-- How far a request has got. -/
inductive Request
  | idle
  /-- The request has seen the device in `currState` and was not ignored. -/
  | checked (newState currState : PowerState)
  /-- The transition is in the slot, and cannot settle before the request goes on. -/
  | installed
  deriving DecidableEq, Repr

/-- The state of the abstract machine. -/
structure Transition where
  powerState : PowerState
  lastPowerState : PowerState
  slot : Slot
  request : Request
  deriving DecidableEq, Repr

/-- What the abstract machine does. -/
inductive Effect
  /-- Deep sleep is left before the device is woken. -/
  | deactivate
  /-- The transition in the slot is over; the flag tells whether it reached its target. -/
  | settled (target : PowerState) (reached : Bool)
  /-- The change is made known. -/
  | changed (prevState newState : PowerState)
  /-- Deep sleep is entered. -/
  | activate
  deriving DecidableEq, Repr

namespace Transition

/-- The steps of the abstract machine. -/
inductive Step
  /-- A request is checked against the current state; inside the transient window a request to
  leave DEEP_SLEEP is ignored. -/
  | request (newState : PowerState) (transient : Bool)
  /-- A checked request goes into the slot, unless the slot holds that target. -/
  | create
  /-- The request is over, its transition still under way. -/
  | wait
  /-- The transition in the slot settles. -/
  | settle (reached : Bool)
  /-- Nothing that matters here happens. -/
  | skip
  deriving DecidableEq, Repr

/-- The transition from `prevState` to `target` settles. -/
def settle (a : Transition) (prevState target : PowerState) (reached : Bool) :
    Transition × List Effect :=
  let request := if a.request = .installed then .idle else a.request
  if reached then
    ({ powerState := target, lastPowerState := a.powerState, slot := .settled target, request },
      [.settled target true, .changed prevState target] ++
        if target = .standbyDeepSleep then [.activate] else [])
  else
    ({ a with slot := .settled target, request }, [.settled target false])

end Transition

open Transition in
/-- The abstract machine. -/
def transition : Machine Transition Transition.Step Effect where
  step a
    | .request newState transient =>
      if a.request ≠ .idle then none
      else if newState = a.powerState ∨ (a.powerState = .standbyDeepSleep ∧ transient = true) then
        some (a, [])
      else
        some ({ a with request := .checked newState a.powerState },
          if a.powerState = .standbyDeepSleep then [.deactivate] else [])
    | .create =>
      match a.request with
      | .checked newState currState =>
        if a.slot.target? = some newState then
          some ({ a with request := .idle }, [])
        else
          some ({ a with slot := .pending currState newState, request := .installed }, [])
      | _ => none
    | .wait => if a.request = .installed then some ({ a with request := .idle }, []) else none
    | .settle reached =>
      match a.slot with
      | .pending prevState target => some (a.settle prevState target reached)
      | _ => none
    | .skip => some (a, [])

namespace Transition

variable {a b : Transition} {l : Step} {es : List Effect}

/-! ## What a step can do -/

/-- Every step of the abstract machine, classified: nothing happens, a request is checked, a
checked request is dropped or installed, a request ends, or the transition in the slot settles
with or without reaching its target. -/
theorem step_cases (h : transition.step a l = some (b, es)) :
    (b = a ∧ es = [] ∧ ((∃ n t, l = .request n t ∧ a.request = .idle ∧
        (n = a.powerState ∨ (a.powerState = .standbyDeepSleep ∧ t = true))) ∨ l = .skip)) ∨
    (∃ n t, l = .request n t ∧ a.request = .idle ∧ n ≠ a.powerState ∧
      b = { a with request := .checked n a.powerState } ∧
      es = if a.powerState = .standbyDeepSleep then [.deactivate] else []) ∨
    (∃ n c, l = .create ∧ a.request = .checked n c ∧ a.slot.target? = some n ∧
      b = { a with request := .idle } ∧ es = []) ∨
    (∃ n c, l = .create ∧ a.request = .checked n c ∧ a.slot.target? ≠ some n ∧
      b = { a with slot := .pending c n, request := .installed } ∧ es = []) ∨
    (l = .wait ∧ a.request = .installed ∧ b = { a with request := .idle } ∧ es = []) ∨
    (∃ p t r, l = .settle r ∧ a.slot = .pending p t ∧ b = (a.settle p t r).1 ∧
      es = (a.settle p t r).2) := by
  cases l with
  | request n t =>
    simp only [transition] at h
    split at h
    · cases h
    · rename_i hidle
      split at h
      · -- the early return, for the same state or in the transient window
        rename_i hignored
        cases h
        exact .inl ⟨rfl, rfl, .inl ⟨n, t, rfl, not_not.mp hidle, hignored⟩⟩
      · rename_i hchecked
        cases h
        exact .inr (.inl ⟨n, t, rfl, not_not.mp hidle, fun hn => hchecked (.inl hn), rfl, rfl⟩)
  | create =>
    simp only [transition] at h
    split at h
    · rename_i n c hreq
      split at h <;> cases h
      · -- the transition that is under way has the same target, and is kept
        exact .inr (.inr (.inl ⟨n, c, rfl, hreq, ‹_›, rfl, rfl⟩))
      · exact .inr (.inr (.inr (.inl ⟨n, c, rfl, hreq, ‹_›, rfl, rfl⟩)))
    · cases h
  | wait =>
    simp only [transition] at h
    split at h <;> cases h
    -- a transition that has to wait ends the call, not the transition
    exact .inr (.inr (.inr (.inr (.inl ⟨rfl, ‹_›, rfl, rfl⟩))))
  | settle r =>
    simp only [transition] at h
    split at h
    · rename_i p t hslot
      have hsettle := Option.some.inj h
      exact .inr (.inr (.inr (.inr (.inr ⟨p, t, r, rfl, hslot,
        (congrArg Prod.fst hsettle).symm, (congrArg Prod.snd hsettle).symm⟩))))
    · cases h
  | skip =>
    cases h
    exact .inl ⟨rfl, rfl, .inr rfl⟩

/-! ## The invariant -/

/-- The invariant of the abstract machine. -/
structure Inv (a : Transition) : Prop where
  /-- A request that has installed its transition finds it in the slot. -/
  installed : a.request = .installed → ∃ p t, a.slot = .pending p t
  /-- A request that was not ignored asks for another state than it saw. -/
  checked_ne : ∀ n c, a.request = .checked n c → n ≠ c
  /-- The state a request saw is still the current one, unless the transition in the slot has
  reached its target since. -/
  checked_read : ∀ n c, a.request = .checked n c →
    a.powerState = c ∨ a.slot = .settled a.powerState
  /-- The transition under way leads away from the current state. -/
  pending_ne : ∀ p t, a.slot = .pending p t → t ≠ a.powerState
  /-- The transition under way leads away from the state its request saw. -/
  pending_prev_ne : ∀ p t, a.slot = .pending p t → p ≠ t

/-- The invariant holds before the first request. -/
theorem inv_initial (s p : PowerState) : Inv ⟨s, p, .empty, .idle⟩ := by
  constructor <;> simp

/-- Settling keeps the invariant. -/
theorem inv_settle {p t : PowerState} {r : Bool} (hI : Inv a) (hslot : a.slot = .pending p t) :
    Inv (a.settle p t r).1 := by
  have hreq : ∀ n c, (if a.request = .installed then .idle else a.request) = .checked n c →
      a.request = .checked n c := by
    intro n c
    split <;> simp
  have hinst : (if a.request = .installed then .idle else a.request) ≠ .installed := by
    split <;> simp_all
  cases r with
  | true =>
    refine ⟨fun h => absurd h hinst, fun n c h => hI.checked_ne n c (hreq n c h),
      fun n c h => .inr rfl, ?_, ?_⟩ <;> simp [settle]
  | false =>
    refine ⟨fun h => absurd h hinst, fun n c h => hI.checked_ne n c (hreq n c h), ?_, ?_, ?_⟩
    · intro n c h
      rcases hI.checked_read n c (hreq n c h) with hread | hread
      · exact .inl hread
      · rw [hslot] at hread
        cases hread
    · simp [settle]
    · simp [settle]

/-- Every step keeps the invariant. -/
theorem inv_step (hI : Inv a) (h : transition.step a l = some (b, es)) : Inv b := by
  rcases step_cases h with ⟨rfl, -⟩ | ⟨n, t, -, hidle, hne, rfl, -⟩ | ⟨n, c, -, hreq, -, rfl, -⟩ |
    ⟨n, c, -, hreq, htarget, rfl, -⟩ | ⟨-, hinst, rfl, -⟩ | ⟨p, t, r, -, hslot, rfl, -⟩
  · exact hI
  · refine ⟨by simp, ?_, ?_, hI.pending_ne, hI.pending_prev_ne⟩
    · rintro n' c' hchecked
      obtain ⟨rfl, rfl⟩ : n = n' ∧ a.powerState = c' := by simpa using hchecked
      exact hne
    · rintro n' c' hchecked
      obtain ⟨rfl, rfl⟩ : n = n' ∧ a.powerState = c' := by simpa using hchecked
      exact .inl rfl
  · exact ⟨by simp, by simp, by simp, hI.pending_ne, hI.pending_prev_ne⟩
  · refine ⟨fun _ => ⟨c, n, rfl⟩, by simp, by simp, ?_, ?_⟩
    · rintro p t hp
      obtain ⟨rfl, rfl⟩ : c = p ∧ n = t := by simpa using hp
      -- the state has moved since the read only to the settled target, which is not `n`
      rcases hI.checked_read n c hreq with hread | hread
      · exact hread ▸ hI.checked_ne n c hreq
      · intro hn
        exact htarget (by rw [hread]; exact congrArg some hn.symm)
    · rintro p t hp
      obtain ⟨rfl, rfl⟩ : c = p ∧ n = t := by simpa using hp
      exact (hI.checked_ne n c hreq).symm
  · exact ⟨by simp, by simp, by simp, hI.pending_ne, hI.pending_prev_ne⟩
  · exact inv_settle hI hslot

end Transition

end PowerManager
