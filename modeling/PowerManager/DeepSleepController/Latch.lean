import PowerManager.DeepSleepController.Basic

/-!
# One activation at a time

`_deepSleepState` is meant to be a latch: an activation that is admitted sets it to `InProgress`,
and no other is admitted until its platform result is known. As long as `Deactivate` does not reset
the state, the latch works but for two things (`NoRetry`):

* a platform call that is going to be tried again leaves the latch, as if its result were final;
* the latch is left before the parent has been told of the result.

`latched_iff` says that these are the only ones.
-/

namespace PowerManager

namespace DeepSleepController

variable {ds ds' : DeepSleepController} {es : List Event} {l : Label}

/-- Every activation that is on its way to a platform result holds the latch. -/
def Holding (ds : DeepSleepController) : Prop :=
  ∀ id, (ds.phase id).Entering → ds.isDeepSleepInProgress = true

/-- An activation is admitted only if no other one is live. -/
def Exclusive (ds : DeepSleepController) (l : Label) : Prop :=
  match l with
  | .performActivate _ _ => ds.isDeepSleepInProgress = false → ∀ j, ¬(ds.phase j).Live
  | _ => True

/-- No platform call returns to be tried again, and no activation is admitted while the parent is
being told of the result of another one. -/
def NoRetry (ds : DeepSleepController) (l : Label) : Prop :=
  match l with
  | .performActivate _ _ =>
    ds.isDeepSleepInProgress = false → ∀ j < ds.nextId, ds.phase j ≠ .notifying
  | .setDeepSleepReturn id errorCode _ => ¬ds.Retries id errorCode
  | _ => True

instance (ds : DeepSleepController) (l : Label) : Decidable (NoRetry ds l) :=
  match l with
  | .performActivate _ _ => inferInstanceAs (Decidable (_ → _))
  | .setDeepSleepReturn _ _ _ => inferInstanceAs (Decidable ¬_)
  | .activate .. | .enterDeepSleepDelayed _ | .endWait _ | .setDeepSleep _ | .callbackReturn _
  | .deactivate _ => isTrue trivial

/-- The invariant of the latch. -/
structure Latched (ds : DeepSleepController) : Prop where
  clear : ds.abortRequested = false
  holding : ds.Holding
  unique : ∀ i j, (ds.phase i).Entering → (ds.phase j).Entering → i = j

/-- The latch works in the beginning. -/
theorem latched_initial : initial.Latched :=
  ⟨rfl, fun _ h => h.elim, fun _ _ h => h.elim⟩

/-- The latch works on when an activation that is on its way goes on. -/
theorem Latched.setPhase {id : ℕ} {p : Phase} (hL : ds.Latched)
    (hp : p.Entering → (ds.phase id).Entering) : (ds.setPhase id p).Latched := by
  have hold : ∀ j, ((ds.setPhase id p).phase j).Entering → (ds.phase j).Entering := by
    intro j hj
    rw [setPhase_phase] at hj
    split at hj
    · rename_i hid
      exact hid ▸ hp hj
    · exact hj
  exact ⟨hL.clear, fun j hj => hL.holding j (hold j hj),
    fun i j hi hj => hL.unique i j (hold i hi) (hold j hj)⟩

/-- A step without `Deactivate` that does not return to be tried again keeps the latch working. -/
theorem latched_step (hL : ds.Latched) (hl : ds.NoRetry l) (hdeact : ∀ e, l ≠ .deactivate e)
    (h : deepSleepController.step ds l = some (ds', es)) : ds'.Latched := by
  cases step_cases h with
  | activated =>
    have hL' := @Latched.setPhase _ ds.nextId (.queued ‹_› ‹_›) hL False.elim
    exact ⟨hL'.clear, hL'.holding, hL'.unique⟩
  | refused hp => exact hL.setPhase False.elim
  | @admitted id sur t t' d nw job p hp hidle hp' =>
    -- the latch is free, so that the activation becomes the only one on its way
    have hnone : ∀ j, ¬(ds.phase j).Entering := fun j hj =>
      hidle (by simpa [isDeepSleepInProgress] using hL.holding j hj)
    have honly : ∀ j, ((ds.setPhase id p).phase j).Entering → j = id := by
      intro j hj
      by_contra hne
      exact hnone j (by simpa [hne] using hj)
    exact ⟨rfl, fun j _ => rfl, fun i j hi hj => (honly i hi).trans (honly j hj).symm⟩
  | @dispatched id t hp =>
    have hL' := @Latched.setPhase _ id .preDelay hL fun _ => by simp [hp]
    exact ⟨hL'.clear, hL'.holding, hL'.unique⟩
  | aborted _ hp hflag =>
    -- the flag is never set without `Deactivate`
    simp [hL.clear] at hflag
  | waited hp => exact hL.setPhase fun _ => hp
  | started hp => exact hL.setPhase fun _ => by simp [hp]
  | retried hp hretry => exact absurd hretry hl
  | @reported id n e u s ev hp =>
    -- the only activation on its way reports, and none is left
    have hnone : ∀ j, ¬((ds.setPhase id .notifying).phase j).Entering := by
      intro j hj
      rw [setPhase_phase] at hj
      split at hj
      · exact hj
      · rename_i hne
        exact hne (hL.unique j id hj (by simp [hp]))
    exact ⟨hL.clear, fun j hj => absurd hj (hnone j), fun i _ hi => absurd hi (hnone i)⟩
  | returned hp => exact hL.setPhase False.elim
  | deactivated => exact absurd rfl (hdeact _)

/-- In a run without `Deactivate`, the latch works up to every step if no earlier step returns to be
tried again or overtakes a callback. -/
theorem latched_run {ls : List Label} (h : deepSleepController.Run initial ls es ds)
    (hdeact : ∀ e, .deactivate e ∉ ls) (hC : deepSleepController.Along NoRetry initial ls) :
    ds.Latched := by
  induction h with
  | nil => exact latched_initial
  | snoc hrun hstep ih =>
    refine latched_step (ih (fun e he => hdeact e (by simp [he])) hC.left) (hC.last hrun) ?_ hstep
    rintro e rfl
    exact hdeact e (by simp)

/-- In a run without `Deactivate`, every activation holds the latch from its admission until its
platform result is known, and an activation is admitted only if no other one is live, if and only if
no platform call returns to be tried again and no admission overtakes a callback. -/
theorem latched_iff {ls : List Label} (h : deepSleepController.Run initial ls es ds)
    (hdeact : ∀ e, .deactivate e ∉ ls) :
    (deepSleepController.Throughout Holding initial ls ∧
        deepSleepController.Along Exclusive initial ls) ↔
      deepSleepController.Along NoRetry initial ls := by
  constructor
  · rintro ⟨hholding, hexclusive⟩ pre l post os t rfl hpre
    obtain ⟨u, os', hstep, hrun⟩ := h.step_at hpre
    have hexcl := hexclusive pre l post os t rfl hpre
    cases l with
    | performActivate id sur => exact fun hidle j _ hj => hexcl hidle j (.inr hj)
    | setDeepSleepReturn id errorCode userWakeup =>
      intro hretry
      -- the call is to be tried again, but the state says that it has failed
      cases step_cases hstep with
      | aborted hl' => simp at hl'
      | @retried _ n _ hp =>
        have hu := hholding (pre ++ [_]) post _ _ (by simp) hrun id (by simp)
        simp [isDeepSleepInProgress] at hu
      | reported hp hfinal => exact hfinal hretry
    | _ => trivial
  · intro hC
    have hlatched : ∀ pre post os t, ls = pre ++ post → deepSleepController.Run initial pre os t →
        t.Latched := by
      rintro pre post os t rfl hpre
      exact latched_run hpre (fun e he => hdeact e (by simp [he])) hC.left
    refine ⟨fun pre post os t hls hpre => (hlatched pre post os t hls hpre).holding, ?_⟩
    intro pre l post os t hls hpre
    have hL := hlatched pre (l :: post) os t hls hpre
    have hl := hC pre l post os t hls hpre
    cases l with
    | performActivate id sur =>
      rintro hidle j (hj | hj)
      · simp [hL.holding j hj] at hidle
      · refine hl hidle j ?_ hj
        by_contra hfresh
        simp [over_run hpre j (not_lt.mp hfresh)] at hj
    | _ => trivial

/-- An activation whose first platform call succeeds, and one that follows it. -/
theorem latched_of_two :
    ∃ es ds, deepSleepController.Run initial [.activate 60 false, .performActivate 0 .plain,
        .endWait 0, .setDeepSleep 0, .setDeepSleepReturn 0 .errorNone true, .callbackReturn 0,
        .activate 60 false, .performActivate 1 .plain] es ds ∧
      deepSleepController.Throughout Holding initial [.activate 60 false,
        .performActivate 0 .plain, .endWait 0, .setDeepSleep 0,
        .setDeepSleepReturn 0 .errorNone true, .callbackReturn 0, .activate 60 false,
        .performActivate 1 .plain] := by
  refine ⟨_, _, Machine.run_of_exec rfl, ?_⟩
  refine ((@latched_iff _ _ [.activate 60 false, .performActivate 0 .plain, .endWait 0,
    .setDeepSleep 0, .setDeepSleepReturn 0 .errorNone true, .callbackReturn 0, .activate 60 false,
    .performActivate 1 .plain] (Machine.run_of_exec rfl) (by simp)).mpr
    (Machine.along_of_check ?_)).1
  decide

/-- While an activation waits for its second attempt it does not hold the latch, and a second
activation is admitted beside it. -/
theorem latch_lost_in_retry :
    ∃ es ds ds', deepSleepController.Run initial [.activate 60 false, .activate 30 false,
        .performActivate 0 .plain, .endWait 0, .setDeepSleep 0,
        .setDeepSleepReturn 0 .errorAborted false] es ds ∧
      (ds.phase 0).Entering ∧ ds.isDeepSleepInProgress = false ∧
      deepSleepController.step ds (.performActivate 1 .plain) = some (ds', []) ∧
      (ds'.phase 0).Live ∧ (ds'.phase 1).Live := by
  have hrun : deepSleepController.Run initial [.activate 60 false, .activate 30 false,
      .performActivate 0 .plain, .endWait 0, .setDeepSleep 0,
      .setDeepSleepReturn 0 .errorAborted false] _ _ := Machine.run_of_exec rfl
  refine ⟨_, _, _, hrun, ?_, ?_, rfl, ?_, ?_⟩
  all_goals decide

end DeepSleepController

end PowerManager
