import PowerManager.DeepSleepController.Basic

/-!
# What Deactivate stops

After `Deactivate` no activation that was requested before it should put the SoC to sleep or report
to the parent. The abort flag and the revocation of the delay job see to it for an activation that
has been admitted and finds the flag still set. They do not reach

* an activation that is still queued: its job is admitted afterwards, and clears the flag;
* an activation that is still on its way when a later one is admitted, which clears the flag;
* an activation whose platform call returns a final result: it is reported without a look at the
  flag.

`KeepsStopped` excludes exactly these steps, and `deactivate_stops` is the property for all runs
without them.
-/

namespace PowerManager

namespace DeepSleepController

variable {ds ds' : DeepSleepController} {es : List Event} {l : Label} {bound : ℕ}

/-- The activations below `bound` that are on their way to a platform result are asked to abort. -/
def Stopped (bound : ℕ) (ds : DeepSleepController) : Prop :=
  ∀ id < bound, (ds.phase id).Entering → ds.abortRequested = true

/-- The step admits no activation below `bound`, and none at all while one below `bound` is on its
way. -/
def AdmitsSafely (bound : ℕ) (ds : DeepSleepController) (l : Label) : Prop :=
  match l with
  | .performActivate id _ =>
    ds.isDeepSleepInProgress = false → bound ≤ id ∧ ∀ j < bound, ¬(ds.phase j).Entering
  | _ => True

/-- The step keeps the activations below `bound` stopped: it admits safely, and no platform call of
an activation below `bound` returns a final result. -/
def KeepsStopped (bound : ℕ) (ds : DeepSleepController) (l : Label) : Prop :=
  match l with
  -- a final result would be reported, whatever the flag
  | .setDeepSleepReturn id errorCode _ => id < bound → ds.Retries id errorCode
  | l => ds.AdmitsSafely bound l

instance (bound : ℕ) (ds : DeepSleepController) (l : Label) :
    Decidable (AdmitsSafely bound ds l) := by
  unfold AdmitsSafely
  split <;> infer_instance

instance (bound : ℕ) (ds : DeepSleepController) (l : Label) :
    Decidable (KeepsStopped bound ds l) := by
  unfold KeepsStopped
  split <;> infer_instance

/-- A step that keeps the activations below `bound` stopped admits safely. -/
theorem KeepsStopped.admitsSafely (hl : ds.KeepsStopped bound l) : ds.AdmitsSafely bound l := by
  cases l <;> first | exact hl | trivial

/-- An activation that has found the flag clear is not stopped. -/
theorem Stopped.le_of_clear {id : ℕ} (hS : ds.Stopped bound) (hp : (ds.phase id).Entering)
    (h : ds.abortRequested = false) : bound ≤ id := by
  by_contra hlt
  simp [hS id (not_le.mp hlt) hp] at h

/-- An activation may go on if it is stopped or not below the bound, or if it is over. -/
theorem Stopped.setPhase {id : ℕ} {p : Phase} (hS : ds.Stopped bound)
    (hp : p.Entering → (ds.phase id).Entering ∨ bound ≤ id) :
    (ds.setPhase id p).Stopped bound := by
  intro j hj hphase
  rw [setPhase_phase] at hphase
  split at hphase
  · rename_i hid
    subst hid
    exact hS j hj ((hp hphase).resolve_right (by omega))
  · exact hS j hj hphase

/-- A step that admits safely keeps the activations below `bound` stopped. -/
theorem stopped_step (hS : ds.Stopped bound) (hl : ds.AdmitsSafely bound l)
    (h : deepSleepController.step ds l = some (ds', es)) : ds'.Stopped bound := by
  cases step_cases h with
  | activated => exact hS.setPhase (by simp)
  | refused hp => exact hS.setPhase (by simp)
  | @admitted id _ _ _ _ _ _ p hp hidle =>
    -- the flag is cleared here, so nobody below the bound may be on its way
    obtain ⟨hid, hnone⟩ := hl (by simpa [isDeepSleepInProgress] using hidle)
    intro j hj hphase
    have hne : j ≠ id := by omega
    exact absurd (by simpa [hne] using hphase) (hnone j hj)
  | dispatched hp => exact hS.setPhase (by simp [hp])
  | aborted hl' hp hflag => exact hS.setPhase (by simp)
  | waited hp hflag => exact hS.setPhase fun _ => .inl hp
  | started hp hflag => exact hS.setPhase (by simp [hp])
  | retried hp hretry => exact hS.setPhase (by simp [hp])
  | reported hp => exact hS.setPhase (by simp)
  | returned hp => exact hS.setPhase (by simp)
  | deactivated hphase => exact fun _ _ _ => rfl

/-- An activation that puts the SoC to sleep is on its way, and not stopped. -/
theorem setDeepSleep_step {id : ℕ} {timeout : UInt32} {nw : Bool} (hS : ds.Stopped bound)
    (h : deepSleepController.step ds l = some (ds', es)) (he : .setDeepSleep id timeout nw ∈ es) :
    (ds.phase id).Entering ∧ bound ≤ id := by
  cases step_cases h with
  | @started id' n hp hflag =>
    obtain ⟨rfl, -⟩ : id = id' ∧ _ := by simpa using he
    have hentering : (ds.phase id).Entering := by simp [hp]
    exact ⟨hentering, hS.le_of_clear hentering hflag⟩
  | reported hp hfinal hs hid hne =>
    obtain rfl := List.mem_singleton.mp he
    exact absurd rfl (hne id timeout nw)
  | _ => simp at he

/-- A step that keeps the activations below `bound` stopped makes no call on their behalf. -/
theorem calls_step (hS : ds.Stopped bound) (hl : ds.KeepsStopped bound l)
    (h : deepSleepController.step ds l = some (ds', es)) {e : Event} (he : e ∈ es) {id : ℕ}
    (hid : e.id? = some id) : bound ≤ id := by
  cases step_cases h with
  | @started id' n hp hflag =>
    obtain rfl := List.mem_singleton.mp he
    obtain rfl : id' = id := by simpa [Event.id?] using hid
    exact hS.le_of_clear (by simp [hp]) hflag
  | reported hp hfinal hs hid' =>
    -- a final result is reported without a look at the flag: the condition excludes it
    obtain rfl := List.mem_singleton.mp he
    obtain rfl := Option.some.inj (hid'.symm.trans hid)
    by_contra hlt
    exact hfinal (hl (by omega))
  | activated =>
    obtain rfl := List.mem_singleton.mp he
    simp [Event.id?] at hid
  | deactivated =>
    rcases List.mem_pair.mp he with rfl | rfl <;> simp [Event.id?] at hid
  | _ => simp at he

/-- `Deactivate` stops every activation. -/
theorem stopped_deactivate {errorCode : ErrorCode}
    (h : deepSleepController.step ds (.deactivate errorCode) = some (ds', es)) :
    ds'.Stopped bound := by
  cases step_cases h with
  | aborted hl => simp at hl
  | deactivated => exact fun _ _ _ => rfl

/-- After `Deactivate`, no activation that was requested before it makes a platform call or reports
to the parent, in any run whose steps keep these activations stopped. -/
theorem deactivate_stops {ds₀ : DeepSleepController} {errorCode : ErrorCode} {post : List Label}
    {es₀ es : List Event}
    (hdeactivate : deepSleepController.step ds₀ (.deactivate errorCode) = some (ds, es₀))
    (hpost : deepSleepController.Run ds post es ds')
    (hC : deepSleepController.Along (KeepsStopped ds₀.nextId) ds post) :
    ∀ e ∈ es, ∀ id, e.id? = some id → ds₀.nextId ≤ id := by
  refine (hpost.induction_along
    (I := fun _ es ds => ds.Stopped ds₀.nextId ∧
      ∀ e ∈ es, ∀ id, e.id? = some id → ds₀.nextId ≤ id) hC
      ⟨stopped_deactivate hdeactivate, by simp⟩ ?_).2
  rintro _ es ds _ _ _ - ⟨hS, hes⟩ hl hstep
  refine ⟨stopped_step hS hl.admitsSafely hstep, fun e he id hid => ?_⟩
  rcases List.mem_append.mp he with he | he
  · exact hes e he id hid
  · exact calls_step hS hl hstep he hid

/-- A platform call that is under way at `Deactivate` returns to be tried again, and finds the flag
set; only then a later activation is admitted. -/
theorem deactivate_stops_retry :
    ∃ ds₀ ds es₀ es ds', deepSleepController.Run initial
        [.activate 60 false, .performActivate 0 .plain, .endWait 0, .setDeepSleep 0] es₀ ds₀ ∧
      deepSleepController.step ds₀ (.deactivate .errorNone) =
        some (ds, [.deepSleepWakeup, .returned .errorNone]) ∧
      deepSleepController.Run ds [.setDeepSleepReturn 0 .errorAborted false, .activate 30 false,
        .endWait 0, .performActivate 1 .plain, .endWait 1, .setDeepSleep 1] es ds' ∧
      .setDeepSleep 1 30 false ∈ es ∧ ∀ e ∈ es, ∀ id, e.id? = some id → ds₀.nextId ≤ id := by
  have hpre : deepSleepController.Run initial [.activate 60 false, .performActivate 0 .plain,
      .endWait 0, .setDeepSleep 0] _ _ := Machine.run_of_exec rfl
  refine ⟨_, _, _, _, _, hpre, rfl, Machine.run_of_exec rfl, ?_, ?_⟩
  · decide
  · refine @deactivate_stops _ _ _ .errorNone [.setDeepSleepReturn 0 .errorAborted false,
      .activate 30 false, .endWait 0, .performActivate 1 .plain, .endWait 1, .setDeepSleep 1]
      _ _ rfl (Machine.run_of_exec rfl) (Machine.along_of_check ?_)
    decide

/-- An activation that is still queued at `Deactivate` goes on to put the SoC to sleep. -/
theorem deactivate_misses_queued :
    ∃ ds₀ ds es₀ es₁ es ds', deepSleepController.Run initial [.activate 60 false] es₀ ds₀ ∧
      deepSleepController.step ds₀ (.deactivate .errorNone) = some (ds, es₁) ∧
      deepSleepController.Run ds [.performActivate 0 .plain, .endWait 0, .setDeepSleep 0] es ds' ∧
      0 < ds₀.nextId ∧ .setDeepSleep 0 60 false ∈ es := by
  have hpre : deepSleepController.Run initial [.activate 60 false] _ _ := Machine.run_of_exec rfl
  refine ⟨_, _, _, _, _, _, hpre, rfl, Machine.run_of_exec rfl, ?_, ?_⟩
  all_goals decide

end DeepSleepController

end PowerManager
