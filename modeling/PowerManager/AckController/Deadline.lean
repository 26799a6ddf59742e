import PowerManager.AckController.Lifetime
import Mathlib.Algebra.Group.Nat.Defs

/-!
# The deadline of a transition

`Schedule` promises to wait for its offset, and every `Reschedule` for its delay. The deadline of a
transition is to be the latest of these promises, and the time for which the worker pool has the
timer job is to be the deadline.

`deadline_iff` says that this is so, for any sequence of delays before and after `Schedule`, exactly
if the offset of `Schedule` is less than `2 ^ 32` milliseconds: it is a `uint64_t`, but `Time::Add`
takes 32 bits of it.
-/

namespace PowerManager

namespace AckController

variable {H : Type*}

/-! ## Promises -/

/-- The time until which a step promises to wait. The delay of `Reschedule` is an `int`, which
`Time::Add` reads as unsigned. -/
def LifetimeStep.promise? : LifetimeStep H → Option Time
  | .op (.reschedule _ _ offset now) => some (now + 1000 * offset.toUInt32.toNat)
  | .schedule now offset _ => some (now + 1000 * offset.toNat)
  | _ => none

/-- When a step is taken, if it looks at the clock. -/
def LifetimeStep.now? : LifetimeStep H → Option Time
  | .op (.reschedule _ _ _ now) => some now
  | .schedule now _ _ => some now
  | _ => none

/-- The latest of the promises made so far. -/
def deadline (created : Time) (ls : List (LifetimeStep H)) : Time :=
  (ls.filterMap LifetimeStep.promise?).foldl max created

/-- The clock does not go back. -/
def Chronological (created : Time) (ls : List (LifetimeStep H)) : Prop :=
  (created :: ls.filterMap LifetimeStep.now?).Pairwise (· ≤ ·)

/-- The calls are valid: a delay is asked for by a participant, and `Schedule` has somebody to wait
for, and time to wait. -/
def Valid : Option (AckController H) → LifetimeStep H → Prop
  | some c, .op (.reschedule clientId transactionId _ _) => c.Participant clientId transactionId
  | some c, .schedule _ offset _ => ¬(c.pending = ∅ ∨ offset = 0)
  | _, _ => True

instance (created : Time) (ls : List (LifetimeStep H)) : Decidable (Chronological created ls) :=
  inferInstanceAs (Decidable (List.Pairwise _ _))

instance : (x : Option (AckController H)) → (l : LifetimeStep H) → Decidable (Valid x l)
  | some _, .op (.reschedule ..) => inferInstanceAs (Decidable (Participant ..))
  | some _, .schedule .. => inferInstanceAs (Decidable (¬_))
  | some _, .op (.ackAwait _) | some _, .op (.ack ..) | some _, .op (.ackClient _)
  | some _, .op .dispatchTimer | some _, .destroy | none, _ => .isTrue trivial

/-- A delay of `d` milliseconds, asked for at the given time. -/
def LifetimeStep.delay (clientId : UInt32) (transactionId : ℤ) (d : ℕ) (now : Time) :
    LifetimeStep H :=
  .op (.reschedule clientId transactionId (.ofNat d) now)

/-- All delays below `2 ^ 32` milliseconds can be asked for. -/
@[simp]
theorem LifetimeStep.promise?_delay {clientId : UInt32} {transactionId : ℤ} {d : ℕ} {now : Time}
    (hd : d < 2 ^ 32) :
    (delay clientId transactionId d now : LifetimeStep H).promise? = some (now + 1000 * d) := by
  have hnat : (UInt32.ofNat d).toNat = d := UInt32.toNat_ofNat_of_lt' hd
  simp [delay, promise?, hnat]

@[simp]
theorem deadline_nil (created : Time) : deadline created ([] : List (LifetimeStep H)) = created :=
  rfl

theorem deadline_snoc (created : Time) (ls : List (LifetimeStep H)) (l : LifetimeStep H) :
    deadline created (ls ++ [l]) =
      l.promise?.elim (deadline created ls) (max (deadline created ls)) := by
  rw [deadline, List.filterMap_append, List.foldl_append]
  cases h : l.promise? <;> simp [h, deadline]

/-! ## One step -/

variable {c c' : AckController H} {l : LifetimeStep H} {os : List (HandlerCall H)}

/-- A controller to which a delay has been granted. -/
def granted (c : AckController H) (newTimeout : Time) : AckController H :=
  { c with timeout := max c.timeout newTimeout, scheduled := c.scheduled.map (max · newTimeout) }

/-- `Reschedule` grants the delay, unless the controller is running and the arguments are not those
of a participant. -/
theorem reschedule_eq_granted (hw : c.WellFormed) (clientId : UInt32) (transactionId : ℤ)
    (offset : Int32) (now : Time) :
    (c.reschedule clientId transactionId offset now).2 =
      if c.running = false ∨ c.Participant clientId transactionId then
        c.granted (now.add offset.toUInt32)
      else c := by
  by_cases hrun : c.running = false
  · -- before `Schedule` there is no timer job yet, and a delay moves the timeout only
    rw [reschedule_of_stopped _ _ _ _ _ hrun, if_pos (.inl hrun)]
    simp [granted, hw.scheduled_stopped hrun]
  · by_cases hpart : c.Participant clientId transactionId
    · have hsch := hw.scheduled_running (by simpa using hrun)
      rw [if_pos (.inr hpart), reschedule_of_participant _ _ _ _ _ (by simpa using hrun) hpart,
        granted, hsch, Option.map_some]
      -- a delay that is not longer is granted without a change
      split
      · rename_i hlate
        rw [max_eq_right hlate.le]
      · rename_i hlate
        rw [max_eq_left (not_lt.mp hlate), ← hsch]
    · rw [if_neg (not_or.mpr ⟨hrun, hpart⟩),
        reschedule_of_running _ _ _ _ _ (by simpa using hrun) hpart]

/-- No operation but `Reschedule` moves the timeout. -/
theorem applyOp_timeout {op : Op} {calls : List (HandlerCall H)}
    (h : c.applyOp op = some (c', calls)) :
    c'.timeout = c.timeout ∨ ∃ id t offset now, op = .reschedule id t offset now ∧
      c' = (c.reschedule id t offset now).2 := by
  -- both ways to acknowledge come down to `Ack`
  have hack : ∀ id t, some (c.ack id t).2 = some (c', calls) → c'.timeout = c.timeout := by
    intro id t h
    rcases c.ack_cases id t with ⟨-, he⟩ | ⟨-, -, he⟩ | ⟨-, -, he⟩ <;>
      rw [he] at h <;> cases h <;> rfl
  cases op with
  | ackAwait id =>
    cases h
    exact .inl rfl
  | ack id t => exact .inl (hack id t h)
  | ackClient id => exact .inl (hack id c.transactionId h)
  | reschedule id t offset now =>
    cases h
    exact .inr ⟨id, t, offset, now, rfl, rfl⟩
  | dispatchTimer =>
    simp only [applyOp] at h
    split at h
    · obtain rfl : _ = c' := congrArg Prod.fst (Option.some.inj h)
      rw [c.dispatchTimer_fst]
      exact .inl rfl
    · cases h

/-- A valid step moves the timeout to what it promises, if that is later, unless it is a `Schedule`
with an offset that does not fit. -/
theorem timeout_step (hw : c.WellFormed) (hvalid : Valid (some c) l)
    (hfits : ∀ now offset handler, l = .schedule now offset handler → offset.toNat < 2 ^ 32)
    (h : (lifetime H).step (some c) l = some (some c', os)) :
    c'.timeout = l.promise?.elim c.timeout (max c.timeout) := by
  cases l with
  | op op =>
    obtain ⟨⟨c₁, calls⟩, happ, hr⟩ := Option.map_eq_some_iff.mp h
    cases hr
    cases op with
    | reschedule id t offset now =>
      cases happ
      rw [reschedule_eq_granted hw, if_pos (.inr hvalid)]
      rfl
    | _ =>
      -- the other operations promise nothing
      rcases applyOp_timeout happ with hsame | ⟨_, _, _, _, hop, -⟩
      · exact hsame
      · cases hop
  | schedule now offset handler =>
    -- `Time::Add` takes 32 bits of the offset
    have hnat : offset.toUInt32.toNat = offset.toNat := by
      rw [UInt64.toNat_toUInt32]
      exact Nat.mod_eq_of_lt (hfits now offset handler rfl)
    rcases c.schedule_cases now offset handler with ⟨hnow, -⟩ | ⟨-, he⟩
    · -- a valid `Schedule` waits
      exact absurd hnow hvalid
    · simp only [lifetime, he, Option.some.injEq, Prod.mk.injEq] at h
      obtain ⟨rfl, -⟩ := h
      rw [Time.add, hnat, max_comm]
      rfl
  | destroy => cases h

/-- Every step keeps a controller well-formed. -/
theorem wellFormed_step (hw : c.WellFormed)
    (h : (lifetime H).step (some c) l = some (some c', os)) : c'.WellFormed := by
  cases l with
  | op op =>
    obtain ⟨⟨c₁, calls⟩, happ, hr⟩ := Option.map_eq_some_iff.mp h
    cases hr
    exact hw.applyOp happ
  | schedule now offset handler =>
    simp only [lifetime, Option.some.injEq, Prod.mk.injEq] at h
    rw [← h.1]
    exact hw.schedule now offset handler
  | destroy => cases h

/-- A step does not bring the timeout forward. -/
theorem timeout_le_step (hw : c.WellFormed)
    (h : (lifetime H).step (some c) l = some (some c', os)) : c.timeout ≤ c'.timeout := by
  cases l with
  | op op =>
    obtain ⟨⟨c₁, calls⟩, happ, hr⟩ := Option.map_eq_some_iff.mp h
    cases hr
    rcases applyOp_timeout happ with hsame | ⟨id, t, offset, now, -, rfl⟩
    · exact hsame.ge
    · rw [reschedule_eq_granted hw]
      split
      · exact le_max_left _ _
      · exact le_rfl
  | schedule now offset handler =>
    simp only [lifetime, Option.some.injEq, Prod.mk.injEq] at h
    rw [← h.1]
    rcases c.schedule_cases now offset handler with ⟨-, he⟩ | ⟨-, he⟩ <;> rw [he]
    exact le_max_right _ _
  | destroy => cases h

/-! ## Delays in another order -/

theorem granted_comm (c : AckController H) (t t' : Time) :
    (c.granted t).granted t' = (c.granted t').granted t := by
  unfold granted
  cases c.scheduled <;> simp [max_right_comm]

/-- Two delays can be asked for in either order. -/
theorem reschedule_comm (hw : c.WellFormed) (id id' : UInt32) (tid tid' : ℤ) (offset offset' : Int32)
    (now now' : Time) :
    ((c.reschedule id tid offset now).2.reschedule id' tid' offset' now').2 =
      ((c.reschedule id' tid' offset' now').2.reschedule id tid offset now).2 := by
  rw [reschedule_eq_granted (hw.reschedule id tid offset now),
    reschedule_eq_granted (hw.reschedule id' tid' offset' now'), reschedule_eq_granted hw,
    reschedule_eq_granted hw]
  -- a delay that is granted changes nothing that decides about another one
  have hrun : ∀ t, (c.granted t).running = c.running := fun _ => rfl
  have hpart : ∀ t id tid, (c.granted t).Participant id tid ↔ c.Participant id tid :=
    fun _ _ _ => Iff.rfl
  by_cases h : c.running = false ∨ c.Participant id tid
  · by_cases h' : c.running = false ∨ c.Participant id' tid'
    · -- the two delays change something only if both are granted
      simp only [h, h', hrun, hpart, if_true]
      exact granted_comm _ _ _
    · simp only [h, h', hrun, hpart, if_true, if_false]
  · by_cases h' : c.running = false ∨ c.Participant id' tid'
    · simp only [h, h', hrun, hpart, if_true, if_false]
    · simp only [h, h', if_false]

/-- The step asks for a delay at the given time. -/
def LifetimeStep.IsDelayAt (now : Time) (l : LifetimeStep H) : Prop :=
  ∃ clientId transactionId d, d < 2 ^ 32 ∧ l = .delay clientId transactionId d now

/-- The controller is well-formed, if it is alive. -/
def AllWellFormed (x : Option (AckController H)) : Prop :=
  ∀ c, x = some c → c.WellFormed

theorem allWellFormed_step {x x' : Option (AckController H)} (hx : AllWellFormed x)
    (h : (lifetime H).step x l = some (x', os)) : AllWellFormed x' := by
  rintro c' rfl
  cases x with
  | none => cases h
  | some c => exact wellFormed_step (hx c rfl) h

/-- Delays that are asked for at one time can be asked for in any order. -/
theorem run_perm {now : Time} {x x' : Option (AckController H)} {ds ds' : List (LifetimeStep H)}
    (hx : AllWellFormed x) (hds : ∀ l ∈ ds, l.IsDelayAt now) (hperm : ds.Perm ds')
    (h : (lifetime H).Run x ds os x') : (lifetime H).Run x ds' os x' := by
  refine h.perm (fun _ _ _ _ hx _ hstep => allWellFormed_step hx hstep) ?_ hx hds hperm
  -- it is enough to swap two delays that follow one another
  rintro (- | c) l l' t u os os' hx ⟨id, tid, d, -, rfl⟩ ⟨id', tid', d', -, rfl⟩ hstep hstep'
  · cases hstep
  · cases hstep
    cases hstep'
    refine ⟨_, [], [], rfl, rfl, ?_⟩
    simp only [lifetime, LifetimeStep.delay, applyOp, Option.map_some]
    rw [reschedule_comm (hx c rfl)]

/-! ## Runs -/

/-- What a sequence of steps makes of its promises: the timeout is always the latest of them, the
timer job is scheduled for the timeout while the transition waits, the timeout is not brought
forward, and delays that are asked for at one time can be asked for in any order. -/
structure KeepsPromises (created : Time) (x : Option (AckController H))
    (ls : List (LifetimeStep H)) : Prop where
  timeout : ∀ pre post os c, ls = pre ++ post → (lifetime H).Run x pre os (some c) →
    c.timeout = deadline created pre
  scheduled : ∀ pre post os c, ls = pre ++ post → (lifetime H).Run x pre os (some c) →
    c.running = true → c.scheduled = some c.timeout
  monotone : ∀ pre mid post os os' c c', ls = pre ++ mid ++ post →
    (lifetime H).Run x pre os (some c) → (lifetime H).Run (some c) mid os' (some c') →
    c.timeout ≤ c'.timeout
  order : ∀ pre ds ds' post now os x', ls = pre ++ ds ++ post → (∀ l ∈ ds, l.IsDelayAt now) →
    ds.Perm ds' → (lifetime H).Run x (pre ++ ds) os x' → (lifetime H).Run x (pre ++ ds') os x'

/-- The steps of a transition that is scheduled once. -/
def steps (before : List Op) (now : Time) (offset : UInt64) (handler : H) (after : List Op) :
    List (LifetimeStep H) :=
  before.map .op ++ .schedule now offset handler :: after.map .op

variable {powerState : PowerState} {transactionId : ℤ} {created now : Time} {offset : UInt64}
  {handler : H} {before after : List Op} {x : Option (AckController H)}
  {ls : List (LifetimeStep H)}

/-- A controller is well-formed as long as it lives. -/
theorem wellFormed_run (hx : AllWellFormed x) (h : (lifetime H).Run x ls os (some c)) :
    c.WellFormed :=
  h.invariant hx (fun _ _ _ _ hx hstep => allWellFormed_step hx hstep) c rfl

/-- The timeout is not brought forward in a run. -/
theorem timeout_le_run (hw : c.WellFormed) (h : (lifetime H).Run (some c) ls os (some c')) :
    c.timeout ≤ c'.timeout := by
  refine h.invariant (I := fun y => AllWellFormed y ∧ ∀ d, y = some d → c.timeout ≤ d.timeout)
    ⟨fun _ hd => Option.some.inj hd ▸ hw, fun _ hd => Option.some.inj hd ▸ le_rfl⟩ ?_ |>.2 c' rfl
  rintro (- | d) l u os ⟨hy, hle⟩ hstep
  · cases hstep
  · refine ⟨allWellFormed_step hy hstep, ?_⟩
    rintro d' rfl
    exact (hle d rfl).trans (timeout_le_step (hy d rfl) hstep)

/-- The timeout is the latest promise, if the offset of `Schedule` fits. -/
theorem timeout_run (hvalid : (lifetime H).Along Valid (some (create powerState transactionId
      created)) ls)
    (hfits : ∀ now offset handler, .schedule now offset handler ∈ ls → offset.toNat < 2 ^ 32)
    (h : (lifetime H).Run (some (create powerState transactionId created)) ls os (some c)) :
    c.timeout = deadline created ls := by
  have hinv : ∀ d, some c = some d → d.WellFormed ∧ d.timeout = deadline created ls := by
    -- a run of valid steps, and the promises of the steps that it has taken
    refine h.induction_along
      (C := fun x l => Valid x l ∧ ∀ now offset handler, l = .schedule now offset handler →
        offset.toNat < 2 ^ 32)
      (I := fun ls _ x => ∀ d, x = some d → d.WellFormed ∧ d.timeout = deadline created ls) ?_ ?_ ?_
    · intro pre l post os t hls hrun
      refine ⟨hvalid pre l post os t hls hrun, ?_⟩
      rintro now offset handler rfl
      exact hfits now offset handler (by simp [hls])
    · rintro _ ⟨⟩
      exact ⟨wellFormed_create _ _ _, rfl⟩
    · -- the next step adds its own promise to the maximum
      rintro ls os (- | d) l u os' - ih ⟨hvalid, hfits⟩ hstep
      · cases hstep
      · rintro d' rfl
        obtain ⟨hw, htimeout⟩ := ih d rfl
        refine ⟨wellFormed_step hw hstep, ?_⟩
        rw [timeout_step hw hvalid hfits hstep, deadline_snoc, htimeout]
  exact (hinv c rfl).2

/-- The latest of some promises is not later than a time that none of them exceeds. -/
theorem deadline_le {t : Time} (hcreated : created ≤ t)
    (h : ∀ l ∈ ls, ∀ t', l.promise? = some t' → t' ≤ t) : deadline created ls ≤ t := by
  induction ls using List.reverseRecOn with
  | nil => exact hcreated
  | append_singleton ls l ih =>
    have hls := ih fun l' hl' => h l' (List.mem_append_left _ hl')
    rw [deadline_snoc]
    cases hl : l.promise? with
    | none => exact hls
    | some t' => exact max_le hls (h l (by simp) t' hl)

/-- Before `Schedule`, nobody can have promised to wait for `2 ^ 32` milliseconds from then on. -/
theorem deadline_before_lt (htimes : Chronological created (steps before now offset handler after)) :
    deadline created (before.map .op : List (LifetimeStep H)) < now + 1000 * 2 ^ 32 := by
  rw [Chronological, steps, List.filterMap_append, List.pairwise_cons, List.pairwise_append] at htimes
  obtain ⟨hcreated, -, -, hbefore⟩ := htimes
  have hnow : now ∈ (.schedule now offset handler :: after.map .op : List (LifetimeStep H)).filterMap
      LifetimeStep.now? := .head _
  have hle : deadline created (before.map .op : List (LifetimeStep H)) ≤
      now + 1000 * (2 ^ 32 - 1) := by
    refine deadline_le ?_ fun l hl t' hpromise => ?_
    · exact (hcreated now (List.mem_append_right _ hnow)).trans (Nat.le_add_right _ _)
    · -- a delay from an earlier time has at most `2 ^ 32 - 1` milliseconds
      obtain ⟨op, -, rfl⟩ := List.mem_map.mp hl
      cases op with
      | reschedule id tid d t =>
        have hle := hbefore t (List.mem_filterMap.mpr ⟨_, hl, rfl⟩) now hnow
        cases hpromise
        exact Nat.add_le_add hle (Nat.mul_le_mul_left 1000 (Nat.le_pred_of_lt d.toUInt32.toNat_lt))
      | _ => cases hpromise
  exact hle.trans_lt (Nat.add_lt_add_left (by decide) now)

/-- A promise that has been cut to 32 bits is kept only if it fits. -/
theorem lt_of_max_eq {t d n m : ℕ} (h : max (t + 1000 * n) d = max d (t + 1000 * m))
    (hd : d < t + 1000 * 2 ^ 32) (hn : n < 2 ^ 32) : m < 2 ^ 32 := by
  omega

/-- For any sequence of valid delays before and after `Schedule`, in the order of time, the
controller keeps its promises exactly if the offset of `Schedule` fits into 32 bits. -/
theorem deadline_iff
    (hreach : ∃ os c, (lifetime H).Run (some (create powerState transactionId created))
      (before.map .op) os (some c))
    (hvalid : (lifetime H).Along Valid (some (create powerState transactionId created))
      (steps before now offset handler after))
    (htimes : Chronological created (steps before now offset handler after)) :
    KeepsPromises created (some (create powerState transactionId created))
      (steps before now offset handler after) ↔ offset.toNat < 2 ^ 32 := by
  have hcreate : AllWellFormed (some (create powerState transactionId created : AckController H)) :=
    fun _ hc => Option.some.inj hc ▸ wellFormed_create _ _ _
  constructor
  · intro hkeeps
    by_contra hlarge
    obtain ⟨os, c, hrun⟩ := hreach
    -- the state after `Schedule` breaks the promise
    have hwait := hvalid _ _ _ _ _ rfl hrun
    obtain ⟨-, he⟩ := (c.schedule_cases now offset handler).resolve_left fun h => hwait h.1
    have hbefore := hkeeps.timeout _ _ _ _ rfl hrun
    have hstep : (lifetime H).step (some c) (.schedule now offset handler) =
        some (some (c.schedule now offset handler).1, (c.schedule now offset handler).2) := rfl
    have hafter := hkeeps.timeout (before.map .op ++ [.schedule now offset handler]) (after.map .op)
      _ _ (by simp [steps]) (hrun.snoc hstep)
    rw [deadline_snoc, he, ← hbefore] at hafter
    have hlt := deadline_before_lt htimes
    rw [← hbefore] at hlt
    -- what is left of the offset is too short, and no earlier promise reaches as far as the offset
    exact hlarge (lt_of_max_eq hafter hlt offset.toUInt32.toNat_lt)
  · intro hfits
    have hfits' : ∀ t o h, LifetimeStep.schedule t o h ∈ steps before now offset handler after →
        o.toNat < 2 ^ 32 := by
      intro t o h hmem
      obtain ⟨rfl, rfl, rfl⟩ : t = now ∧ o = offset ∧ h = handler := by simpa [steps] using hmem
      exact hfits
    refine ⟨?_, ?_, ?_, ?_⟩
    · intro pre post os c hcut hrun
      refine timeout_run (hcut ▸ hvalid).left (fun t o h hmem => ?_) hrun
      exact hfits' t o h (hcut ▸ List.mem_append_left _ hmem)
    · exact fun pre post os c _ hrun => (wellFormed_run hcreate hrun).scheduled_running
    · exact fun pre mid post os os' c c' _ hrun hmid =>
        timeout_le_run (wellFormed_run hcreate hrun) hmid
    · -- the delays of one time are a run of their own, from the state in front of them
      intro pre ds ds' post t os x' _ hds hperm hrun
      obtain ⟨y, os₁, os₂, rfl, hpre, hmid⟩ := hrun.split
      refine hpre.trans (run_perm ?_ hds hperm hmid)
      exact hpre.invariant hcreate fun _ _ _ _ hx hstep => allWellFormed_step hx hstep

/-- A transition that is delayed before and after `Schedule`. -/
theorem deadline_of_delays :
    let ls := steps [.ackAwait 1, .reschedule 1 1 5000 1000] 2000 1000 ()
      [.reschedule 1 1 3000 2000, .reschedule 1 1 9000 3000]
    KeepsPromises 0 (some (create .standby 1 0)) ls ∧ deadline 0 ls = 9003000 := by
  intro ls
  have hreach : (lifetime Unit).Run (some (create .standby 1 0))
      ([.ackAwait 1, .reschedule 1 1 5000 1000].map .op) _ (some _) := Machine.run_of_exec rfl
  refine ⟨(deadline_iff ⟨_, _, hreach⟩ (Machine.along_of_check ?_) ?_).mpr ?_, ?_⟩
  all_goals decide

/-- Of an offset of `2 ^ 32` milliseconds nothing is left: the timer job is scheduled for now. -/
theorem deadline_narrowed :
    let ls := steps [.ackAwait 1] 0 0x100000000 () []
    (lifetime Unit).Along Valid (some (create .standby 1 0)) ls ∧ Chronological 0 ls ∧
      deadline 0 ls = 1000 * 2 ^ 32 ∧
      (∃ os c, (lifetime Unit).Run (some (create .standby 1 0)) ls os (some c) ∧
        c.running = true ∧ c.scheduled = some 0) ∧
      ¬KeepsPromises 0 (some (create .standby 1 0)) ls := by
  intro ls
  have hrun : (lifetime Unit).Run (some (create .standby 1 0)) ls [] (some _) :=
    Machine.run_of_exec rfl
  refine ⟨Machine.along_of_check ?_, ?_, ?_, ⟨_, _, hrun, rfl, ?_⟩, fun h => ?_⟩
  · decide
  · decide
  · decide
  · decide
  · exact absurd (h.timeout ls [] _ _ (by simp) hrun) (by decide)

end AckController

end PowerManager
