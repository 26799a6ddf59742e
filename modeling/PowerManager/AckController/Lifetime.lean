import PowerManager.AckController.Basic
import PowerManager.Machine

/-!
# The lifetime of an acknowledgement controller

A controller is created, scheduled once, and destroyed; in between, clients are awaited,
acknowledge and delay, and the timer may be dispatched. This module proves that over such a
lifetime the completion handler is called exactly once, and says with which arguments.

The arguments are those of an `Outcome`, which `outcome` computes from the operations alone: it
follows only the set of clients that are waited for, and knows nothing of flags, jobs and
handlers.
-/

namespace PowerManager

namespace AckController

variable {H : Type*}

/-- An operation on a controller between its construction and its destruction, other than
`schedule`. -/
inductive Op
  | ackAwait (clientId : UInt32)
  | ack (clientId : UInt32) (transactionId : ℤ)
  | ackClient (clientId : UInt32)
  | reschedule (clientId : UInt32) (transactionId : ℤ) (offsetInMilliseconds : Int32)
      (now : Time)
  /-- The worker pool dispatches the timer job. -/
  | dispatchTimer
  deriving DecidableEq, Repr

/-- A step in the lifetime of a controller. -/
inductive LifetimeStep (H : Type*)
  | op (op : Op)
  | schedule (now : Time) (offsetInMilliseconds : UInt64) (handler : H)
  | destroy

/-- One operation; the timer job is dispatched only if the worker pool holds it. -/
def applyOp (c : AckController H) : Op → Option (AckController H × List (HandlerCall H))
  | .ackAwait clientId => some (c.ackAwait clientId, [])
  | .ack clientId transactionId => some (c.ack clientId transactionId).2
  | .ackClient clientId => some (c.ackClient clientId).2
  | .reschedule clientId transactionId offset now =>
    some ((c.reschedule clientId transactionId offset now).2, [])
  | .dispatchTimer => if c.scheduled.isSome then some c.dispatchTimer else none

/-- The lifetime of a controller as a machine; a destroyed controller takes no step. -/
def lifetime (H : Type*) : Machine (Option (AckController H)) (LifetimeStep H) (HandlerCall H) where
  step
    | none, _ => none
    | some c, .op op => (c.applyOp op).map fun r => (some r.1, r.2)
    | some c, .schedule now offset handler =>
      some (some (c.schedule now offset handler).1, (c.schedule now offset handler).2)
    | some c, .destroy => some (none, c.revoke.2)

/-! ## The outcome of a transition -/

/-- How a transition ends. -/
inductive Outcome
  /-- Nobody is waited for any more. -/
  | acknowledged
  | timedOut
  | revoked
  deriving DecidableEq, Repr

/-- The call of the handler that reports the outcome. -/
def Outcome.call (handler : H) : Outcome → HandlerCall H
  | acknowledged => ⟨handler, false, false⟩
  | timedOut => ⟨handler, true, false⟩
  | revoked => ⟨handler, false, true⟩

/-- The clients waited for after an operation. -/
def Op.pending (transactionId : ℤ) (pending : Finset UInt32) : Op → Finset UInt32
  | ackAwait clientId => insert clientId pending
  | ack clientId t => if t = transactionId then pending.erase clientId else pending
  | ackClient clientId => pending.erase clientId
  | reschedule .. => pending
  | dispatchTimer => pending

/-- The outcome of a transition that is waiting for `pending`: the timer, or the operation after
which nobody is waited for, whichever comes first, and revocation if neither comes. -/
def outcome (transactionId : ℤ) (pending : Finset UInt32) : List Op → Outcome
  | [] => .revoked
  | op :: ops =>
    if op = .dispatchTimer then .timedOut
    else if op.pending transactionId pending = ∅ then .acknowledged
    else outcome transactionId (op.pending transactionId pending) ops

/-- The outcome of a transition that is scheduled with the given offset. -/
def scheduledOutcome (transactionId : ℤ) (pending : Finset UInt32) (offset : UInt64)
    (ops : List Op) : Outcome :=
  if pending = ∅ ∨ offset = 0 then .acknowledged else outcome transactionId pending ops

/-! ## One operation -/

variable {c c' : AckController H} {op : Op} {calls : List (HandlerCall H)}

/-- No operation changes the target or the transaction, and the clients that are waited for
afterwards do not depend on flags, jobs and handlers. -/
theorem applyOp_frame (h : c.applyOp op = some (c', calls)) :
    c'.powerState = c.powerState ∧ c'.transactionId = c.transactionId ∧
      c'.pending = op.pending c.transactionId c.pending := by
  -- `Ack` of a client is `Ack` with the number of the transition
  have hack : ∀ id t, some (c.ack id t).2 = some (c', calls) →
      c'.powerState = c.powerState ∧ c'.transactionId = c.transactionId ∧
        c'.pending = (Op.ack id t).pending c.transactionId c.pending := by
    intro id t h
    rcases c.ack_cases id t with ⟨hno, he⟩ | ⟨⟨rfl, -⟩, ⟨hlast, -⟩, he⟩ | ⟨⟨rfl, -⟩, -, he⟩ <;>
      rw [he] at h <;> cases h
    · rcases hno with htid | hmem
      · simp [Op.pending, htid]
      · simp [Op.pending, hmem]
    · simp [Op.pending, hlast]
    · simp [Op.pending]
  cases op with
  | ackAwait id =>
    cases h
    exact ⟨rfl, rfl, rfl⟩
  | ack id t => exact hack id t h
  | ackClient id => simpa [Op.pending] using hack id c.transactionId h
  | reschedule id t offset now =>
    obtain ⟨timeout, scheduled, he, -, -⟩ := c.reschedule_eq id t offset now
    simp only [applyOp, he, Option.some.injEq, Prod.mk.injEq] at h
    obtain ⟨rfl, rfl⟩ := h
    exact ⟨rfl, rfl, rfl⟩
  | dispatchTimer =>
    simp only [applyOp] at h
    split at h
    · obtain rfl : _ = c' := congrArg Prod.fst (Option.some.inj h)
      rw [c.dispatchTimer_fst]
      exact ⟨rfl, rfl, rfl⟩
    · cases h

/-- Every operation keeps a controller well-formed. -/
theorem WellFormed.applyOp (hw : c.WellFormed) (h : c.applyOp op = some (c', calls)) :
    c'.WellFormed := by
  have hfst : ∀ r : AckController H × List (HandlerCall H), some r = some (c', calls) →
      r.1 = c' := fun r h => congrArg Prod.fst (Option.some.inj h)
  cases op with
  | ackAwait id => exact hfst _ h ▸ hw.ackAwait id
  | ack id t => exact hfst _ h ▸ hw.ack id t
  | ackClient id => exact hfst _ h ▸ hw.ack id c.transactionId
  | reschedule id t offset now => exact hfst _ h ▸ hw.reschedule id t offset now
  | dispatchTimer =>
    simp only [AckController.applyOp] at h
    split at h
    · rw [← hfst _ h, c.dispatchTimer_fst]
      exact .of_stopped rfl rfl
    · cases h

/-- On a controller that is not running, an operation calls no handler and leaves the controller
stopped. -/
theorem applyOp_of_stopped (hw : c.WellFormed) (hrun : c.running = false)
    (h : c.applyOp op = some (c', calls)) : calls = [] ∧ c'.running = false := by
  have hack : ∀ id t, some (c.ack id t).2 = some (c', calls) →
      calls = [] ∧ c'.running = false := by
    intro id t h
    rcases c.ack_cases id t with ⟨-, he⟩ | ⟨-, ⟨-, hrun'⟩, -⟩ | ⟨-, -, he⟩
    · rw [he] at h
      cases h
      exact ⟨rfl, hrun⟩
    · -- only a running controller completes
      simp [hrun] at hrun'
    · rw [he] at h
      cases h
      exact ⟨rfl, hrun⟩
  cases op with
  | ackAwait id =>
    cases h
    exact ⟨rfl, hrun⟩
  | ack id t => exact hack id t h
  | ackClient id => exact hack id c.transactionId h
  | reschedule id t offset now =>
    obtain ⟨timeout, scheduled, he, -, -⟩ := c.reschedule_eq id t offset now
    simp only [applyOp, he, Option.some.injEq, Prod.mk.injEq] at h
    obtain ⟨rfl, rfl⟩ := h
    exact ⟨rfl, hrun⟩
  | dispatchTimer =>
    -- the timer of a stopped controller is not scheduled
    simp [applyOp, hw.scheduled_stopped hrun] at h

/-- On a running controller, an operation times the transition out, or completes it because
nobody is waited for any more, or leaves the controller running. -/
theorem applyOp_of_running {hdl : H} (hw : c.WellFormed) (hrun : c.running = true)
    (hh : c.handler = some hdl) (h : c.applyOp op = some (c', calls)) :
    (op = .dispatchTimer ∧ c'.running = false ∧ calls = [Outcome.timedOut.call hdl]) ∨
    (op ≠ .dispatchTimer ∧ c'.pending = ∅ ∧ c'.running = false ∧
      calls = [Outcome.acknowledged.call hdl]) ∨
    (op ≠ .dispatchTimer ∧ c'.pending ≠ ∅ ∧ c'.running = true ∧ c'.handler = some hdl ∧
      calls = []) := by
  have hw' := hw.applyOp h
  have hack : ∀ id t, some (c.ack id t).2 = some (c', calls) →
      (c'.pending = ∅ ∧ c'.running = false ∧ calls = [Outcome.acknowledged.call hdl]) ∨
      (c'.pending ≠ ∅ ∧ c'.running = true ∧ c'.handler = some hdl ∧ calls = []) := by
    intro id t h
    rcases c.ack_cases id t with ⟨-, he⟩ | ⟨-, -, he⟩ | ⟨-, -, he⟩ <;>
      rw [he] at h <;> cases h
    · exact .inr ⟨hw.pending_nonempty hrun, hrun, hh, rfl⟩
    · exact .inl ⟨rfl, rfl, by simp [callHandler, hh, Outcome.call]⟩
    · exact .inr ⟨hw'.pending_nonempty hrun, hrun, hh, rfl⟩
  cases op with
  | ackAwait id =>
    cases h
    exact .inr (.inr ⟨by simp, Finset.insert_ne_empty _ _, hrun, hh, rfl⟩)
  | ack id t => exact .inr (by simpa using hack id t h)
  | ackClient id => exact .inr (by simpa using hack id c.transactionId h)
  | reschedule id t offset now =>
    obtain ⟨timeout, scheduled, he, -, -⟩ := c.reschedule_eq id t offset now
    simp only [applyOp, he, Option.some.injEq, Prod.mk.injEq] at h
    obtain ⟨rfl, rfl⟩ := h
    exact .inr (.inr ⟨by simp, hw.pending_nonempty hrun, hrun, hh, rfl⟩)
  | dispatchTimer =>
    -- the timer of a running controller is scheduled, and its job calls the handler
    have hsch : c.scheduled.isSome = true := by simp [hw.scheduled_running hrun]
    obtain ⟨hdl', -, hh', he⟩ := hw.dispatchTimer_eq hsch
    obtain rfl : hdl = hdl' := Option.some.inj (hh.symm.trans hh')
    simp only [applyOp, hsch, ↓reduceIte, he, Option.some.injEq, Prod.mk.injEq] at h
    obtain ⟨rfl, rfl⟩ := h
    exact .inl ⟨rfl, rfl, rfl⟩

/-! ## Runs of operations -/

variable {ops : List Op} {os : List (HandlerCall H)} {x : Option (AckController H)}

/-- Operations on a controller that is not running call no handler. -/
theorem run_of_stopped (hw : c.WellFormed) (hrun : c.running = false)
    (h : (lifetime H).Run (some c) (ops.map .op) os x) :
    os = [] ∧ ∃ c', x = some c' ∧ c'.WellFormed ∧ c'.running = false ∧
      c'.transactionId = c.transactionId ∧
      c'.pending = ops.foldl (Op.pending c.transactionId) c.pending := by
  induction ops generalizing c os with
  | nil =>
    obtain ⟨rfl, rfl⟩ := h.nil_inv
    exact ⟨rfl, c, rfl, hw, hrun, rfl, rfl⟩
  | cons op ops ih =>
    obtain ⟨y, os₁, os₂, rfl, hstep, hrest⟩ := Machine.Run.cons_inv h
    obtain ⟨⟨c₁, calls⟩, happ, hy⟩ := Option.map_eq_some_iff.mp hstep
    cases hy
    obtain ⟨rfl, hrun₁⟩ := applyOp_of_stopped hw hrun happ
    obtain ⟨-, htid, hpend⟩ := applyOp_frame happ
    obtain ⟨rfl, c', rfl, hw', hrun', htid', hpend'⟩ := ih (hw.applyOp happ) hrun₁ hrest
    exact ⟨rfl, c', rfl, hw', hrun', htid'.trans htid, by rw [hpend', htid, hpend]; rfl⟩

/-- After its completion a controller is silent, its destruction included. -/
private theorem silent_of_stopped {c : AckController H} {ops : List Op} {os : List (HandlerCall H)}
    {x : Option (AckController H)} (hw : c.WellFormed) (hrun : c.running = false)
    (h : (lifetime H).Run (some c) (ops.map .op ++ [.destroy]) os x) : os = [] := by
  obtain ⟨y, os₁, os₂, rfl, hops, hdestroy⟩ := h.split
  obtain ⟨rfl, c', rfl, -, hrun', -⟩ := run_of_stopped hw hrun hops
  obtain ⟨z, os₃, os₄, rfl, hstep, hrest⟩ := Machine.Run.cons_inv hdestroy
  obtain ⟨-, rfl⟩ := hrest.nil_inv
  obtain ⟨-, rfl⟩ : none = z ∧ c'.revoke.2 = os₃ := by simpa [lifetime] using hstep
  simp [c'.revoke_of_stopped hrun']

/-- Operations on a running controller, followed by its destruction, call its handler exactly
once, with the arguments of the outcome. -/
theorem run_of_running {hdl : H} (hw : c.WellFormed) (hrun : c.running = true)
    (hh : c.handler = some hdl)
    (h : (lifetime H).Run (some c) (ops.map .op ++ [.destroy]) os x) :
    os = [(outcome c.transactionId c.pending ops).call hdl] := by
  induction ops generalizing c os with
  | nil =>
    obtain ⟨y, os₁, os₂, rfl, hstep, hrest⟩ := Machine.Run.cons_inv h
    obtain ⟨-, rfl⟩ := hrest.nil_inv
    obtain ⟨-, rfl⟩ : none = y ∧ c.revoke.2 = os₁ := by simpa [lifetime] using hstep
    simp [hw.revoke_of_running hrun hh, outcome, Outcome.call]
  | cons op ops ih =>
    obtain ⟨y, os₁, os₂, rfl, hstep, hrest⟩ := Machine.Run.cons_inv h
    obtain ⟨⟨c₁, calls⟩, happ, hy⟩ := Option.map_eq_some_iff.mp hstep
    cases hy
    have hw₁ := hw.applyOp happ
    obtain ⟨-, htid, hpend⟩ := applyOp_frame happ
    rcases applyOp_of_running hw hrun hh happ with ⟨hop, hstop, rfl⟩ |
      ⟨hop, hempty, hstop, rfl⟩ | ⟨hop, hempty, hrun₁, hh₁, rfl⟩
    · -- the operation that decides the outcome stops the controller, which is silent from then on
      rw [silent_of_stopped hw₁ hstop hrest, outcome, if_pos hop]
      rfl
    · rw [silent_of_stopped hw₁ hstop hrest, outcome, if_neg hop, if_pos (hpend ▸ hempty)]
      rfl
    · rw [ih hw₁ hrun₁ hh₁ hrest, outcome, if_neg hop, if_neg (hpend ▸ hempty), htid, hpend]
      rfl

/-- Over a lifetime in which `schedule` is called once, the handler given to it is called
exactly once, with the arguments of the outcome. -/
theorem run_lifetime {powerState : PowerState} {transactionId : ℤ} {created now : Time}
    {offset : UInt64} {hdl : H} {before after : List Op}
    (h : (lifetime H).Run (some (create powerState transactionId created))
      (before.map .op ++ .schedule now offset hdl :: (after.map .op ++ [.destroy])) os x) :
    os = [(scheduledOutcome transactionId (before.foldl (Op.pending transactionId) ∅)
      offset after).call hdl] := by
  -- until `schedule`, the operations only decide who is waited for
  obtain ⟨y, os₁, os₂, rfl, hbefore, hrest⟩ := h.split
  obtain ⟨rfl, c, rfl, hw, hstop, htid, hpend⟩ :=
    run_of_stopped (wellFormed_create _ _ _) rfl hbefore
  obtain ⟨z, os₃, os₄, rfl, hstep, hafter⟩ := Machine.Run.cons_inv hrest
  have hw' := hw.schedule now offset hdl
  replace htid : c.transactionId = transactionId := htid
  replace hpend : c.pending = before.foldl (Op.pending transactionId) ∅ := hpend
  rw [← hpend]
  rcases c.schedule_cases now offset hdl with ⟨hnow, he⟩ | ⟨hwait, he⟩
  · -- `schedule` calls the handler itself, and what comes after it is silent
    obtain ⟨rfl, rfl⟩ : some c = z ∧ [⟨hdl, false, false⟩] = os₃ := by
      simpa [lifetime, he] using hstep
    rw [silent_of_stopped hw hstop hafter, scheduledOutcome, if_pos hnow]
    rfl
  · -- the handler is kept, and the operations that follow decide how it is called
    simp only [lifetime, he, Option.some.injEq, Prod.mk.injEq] at hstep
    obtain ⟨rfl, rfl⟩ := hstep
    rw [he] at hw'
    rw [run_of_running hw' rfl rfl hafter, scheduledOutcome, if_neg hwait, htid]
    rfl

end AckController

end PowerManager
