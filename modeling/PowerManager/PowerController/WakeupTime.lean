import PowerManager.PowerController.Create
import Mathlib.Algebra.Group.Nat.Defs
import Mathlib.Algebra.Ring.Int.Defs

/-!
# The time since the last wake-up

`PowerController` takes the time at the end of `init`, if the device is ON then, and whenever
`SetPowerState` leads from another state to ON. `GetTimeSinceWakeup` returns the seconds since.

`timeSinceWakeup` says that this is the time since which the device has been ON, in every run.
-/

namespace PowerManager

/-- `PowerController::GetTimeSinceWakeup`: the result, and `secondsSinceWakeup`. -/
def PowerController.getTimeSinceWakeup (pc : PowerController) (now : Time) : ErrorCode × UInt32 :=
  if pc.settings.powerState ≠ .on then
    (.errorNone, 0)
  else
    let elapsed : ℤ := (now : ℤ) - (pc.wakeupTimestamp : ℤ)
    let elapsedSeconds := elapsed.tdiv 1000000
    if elapsedSeconds > 0xFFFFFFFF then
      (.errorNone, 0xFFFFFFFF)
    else
      -- the cast to `uint32_t`
      (.errorNone, .ofNat (elapsedSeconds % 2 ^ 32).toNat)

/-- The seconds from one time to a later one, as far as 32 bits hold them. -/
def secondsBetween (since now : Time) : ℕ :=
  min (2 ^ 32 - 1) ((now - since) / 1000000)

theorem secondsBetween_mono (since : ℕ) {now now' : ℕ} (h : now ≤ now') :
    secondsBetween since now ≤ secondsBetween since now' := by
  have hdiv : (now - since) / 1000000 ≤ (now' - since) / 1000000 :=
    Nat.div_le_div_right (Nat.sub_le_sub_right h since)
  unfold secondsBetween
  omega

namespace PowerController

/-- A device that is not ON has not woken up. -/
theorem getTimeSinceWakeup_of_ne {pc : PowerController} (h : pc.settings.powerState ≠ .on)
    (now : Time) : pc.getTimeSinceWakeup now = (.errorNone, 0) :=
  if_pos h

/-- Nothing else is looked at. -/
theorem getTimeSinceWakeup_congr {pc pc' : PowerController}
    (hstate : pc.settings.powerState = pc'.settings.powerState)
    (htime : pc.wakeupTimestamp = pc'.wakeupTimestamp) (now : Time) :
    pc.getTimeSinceWakeup now = pc'.getTimeSinceWakeup now := by
  rw [getTimeSinceWakeup, getTimeSinceWakeup, hstate, htime]

/-- A device that is ON has woken up at the time that has been taken. -/
theorem getTimeSinceWakeup_of_on {pc : PowerController} (h : pc.settings.powerState = .on)
    {now : Time} (hle : pc.wakeupTimestamp ≤ now) :
    (pc.getTimeSinceWakeup now).2.toNat = secondsBetween pc.wakeupTimestamp now := by
  obtain ⟨seconds, hseconds⟩ : ∃ seconds : ℕ, (now - pc.wakeupTimestamp) / 1000000 = seconds :=
    ⟨_, rfl⟩
  have helapsed : ((now : ℤ) - (pc.wakeupTimestamp : ℤ)).tdiv 1000000 = (seconds : ℕ) := by
    rw [← Int.ofNat_sub hle, ← hseconds]
    rfl
  rw [secondsBetween, hseconds]
  simp only [getTimeSinceWakeup, h, ne_eq, not_true_eq_false, if_false, helapsed]
  split
  · rw [Nat.min_eq_left (by omega)]
    rfl
  · have hcast : ((seconds : ℤ) % 2 ^ 32).toNat = seconds := by omega
    have hlt : seconds < UInt32.size := by
      change seconds < 2 ^ 32
      omega
    rw [hcast, UInt32.toNat_ofNat_of_lt' hlt, Nat.min_eq_right (by omega)]

end PowerController

namespace Stored

variable {T : Target} {s t : Stored} {l : Label} {ls : List Label} {os : List ErrorCode}

/-- The device is ON. -/
def On (s : Stored) : Prop :=
  s.settings.powerState = .on

instance (s : Stored) : Decidable s.On :=
  inferInstanceAs (Decidable (_ = _))

/-- The reading of the clock in a call. -/
def Label.now? : Label → Option Time
  | .setPowerState env _ _ => some env.now
  | _ => none

/-- What a call does to the power state and to the time of the wake-up. -/
theorem call_wakeup (T : Target) (s : Stored) (l : Label) :
    let r := s.call T l
    (r.2.settings.powerState = s.settings.powerState ∧
      r.2.controller.wakeupTimestamp = s.controller.wakeupTimestamp) ∨
    ∃ env io powerState, l = .setPowerState env io powerState ∧ r.1 = .errorNone ∧
      r.2.settings.powerState = powerState ∧
      r.2.controller.wakeupTimestamp =
        if powerState = .on ∧ ¬s.On then env.now else s.controller.wakeupTimestamp := by
  cases l with
  | setPowerState env io powerState =>
    rw [call]
    by_cases hacc : Accepted env powerState
    · rw [setPowerState_of_accepted hacc]
      exact .inr ⟨env, io, powerState, rfl, rfl, Settings.setPowerState_powerState .., rfl⟩
    · have hs := (setPowerState_of_refused hacc T s io).2
      exact .inl ⟨congrArg (·.settings.powerState) hs, congrArg (·.controller.wakeupTimestamp) hs⟩
  | setNetworkStandbyMode wakeup io standbyMode =>
    simp only [call, setNetworkStandbyMode]
    split_ifs <;> exact .inl ⟨rfl, rfl⟩
  | setDeepSleepTimer io io' timeOut => exact .inl ⟨rfl, rfl⟩

/-- Of a controller that is ON, the time of the wake-up is the time since which it has been ON. -/
theorem heldSince_iff {start since : Time} (hrun : (stored T).Run s ls os t)
    (hstart : s.On → s.controller.wakeupTimestamp = start) :
    (stored T).HeldSince On Label.now? s start ls since ↔
      t.On ∧ since = t.controller.wakeupTimestamp := by
  induction hrun with
  | nil =>
    rw [Machine.heldSince_nil]
    refine and_congr_right fun hon => ?_
    rw [hstart hon]
  | @snoc t u ls os os' l hrun hstep ih =>
    rw [Machine.heldSince_snoc hrun hstep, ih]
    cases hstep
    refine and_congr_right fun hon => ?_
    -- a step to ON takes the time if it comes from another state, and keeps it otherwise
    rcases call_wakeup T t l with ⟨hstate, htime⟩ | ⟨env, io, powerState, rfl, -, hstate, htime⟩
    · have hon' : t.On := hstate.symm.trans hon
      simp only [htime, hon', true_and, not_true_eq_false, false_and, or_false]
    · have hpower : powerState = .on := hstate.symm.trans hon
      by_cases hon' : t.On
      · simp only [htime, hon', true_and, not_true_eq_false, false_and, or_false, and_false,
          if_false]
      · have htime' := htime.trans (if_pos ⟨hpower, hon'⟩)
        simp only [htime', hon', false_and, false_or, not_false_eq_true, true_and, Label.now?,
          Option.some.injEq]
        exact eq_comm

/-- As long as the device is ON, no call changes the time of the wake-up. -/
theorem wakeupTimestamp_of_throughout (hrun : (stored T).Run s ls os t)
    (hon : (stored T).Throughout On s ls) :
    t.controller.wakeupTimestamp = s.controller.wakeupTimestamp := by
  induction hrun with
  | nil => rfl
  | @snoc t u ls os os' l hrun hstep ih =>
    obtain ⟨hinit, -⟩ := (Machine.throughout_snoc hrun hstep).mp hon
    have ht : t.On := hinit ls [] os t (by simp) hrun
    cases hstep
    rw [← ih hinit]
    rcases call_wakeup T t l with ⟨-, htime⟩ | ⟨env, io, powerState, -, -, -, htime⟩
    · exact htime
    · rw [htime, if_neg fun h => h.2 ht]

/-- A `SetPowerState` of ON that fails, or finds the device ON, changes neither the state nor the
time. -/
theorem setPowerState_on_keeps (T : Target) (env : Environment) (io : FileIO)
    (h : t.On ∨ (t.setPowerState T env io .on).1 ≠ .errorNone) :
    let r := (t.setPowerState T env io .on).2
    r.controller.settings.powerState = t.controller.settings.powerState ∧
      r.controller.wakeupTimestamp = t.controller.wakeupTimestamp := by
  rcases call_wakeup T t (.setPowerState env io .on) with
    hsame | ⟨_, _, powerState, hl, hcode, hstate, htime⟩
  · exact hsame
  · have hon : t.On := h.resolve_right fun hfails => hfails hcode
    cases hl
    refine ⟨hstate.trans hon.symm, htime.trans (if_neg fun hturned => hturned.2 hon)⟩

/-- A controller that is ON after `init` has taken the time at its end. -/
theorem create_wakeupTimestamp (T : Target) (st : StartUp) (files : FileSystem)
    (h : (create T st files).1.On) :
    (create T st files).1.controller.wakeupTimestamp = st.env.now :=
  if_pos h

/-- After every run of a controller, with a clock that does not go back, `GetTimeSinceWakeup`
returns zero unless the device is ON, and otherwise the seconds since it has become ON, or since the
end of `init`. So the value does not decrease as long as the state does not change, and a
`SetPowerState` of ON that fails, or finds the device ON, does not change it. -/
theorem timeSinceWakeup (T : Target) (st : StartUp) (files : FileSystem)
    (hrun : (stored T).Run (create T st files).1 ls os t) {now : Time}
    (hnow : ∀ reading ∈ st.env.now :: ls.filterMap Label.now?, reading ≤ now) :
    let seconds (s : Stored) (now : Time) := (s.controller.getTimeSinceWakeup now).2.toNat
    let OnSince := (stored T).HeldSince On Label.now? (create T st files).1 st.env.now ls
    (¬t.On → seconds t now = 0) ∧
    (t.On → (∃ since, OnSince since) ∧
      ∀ since, OnSince since → seconds t now = secondsBetween since now) ∧
    (∀ ls' os' t' now', (stored T).Run t ls' os' t' →
      (stored T).Throughout (·.settings.powerState = t.settings.powerState) t ls' → now ≤ now' →
        seconds t now ≤ seconds t' now') ∧
    ∀ env io now', t.On ∨ (t.setPowerState T env io .on).1 ≠ .errorNone →
      seconds (t.setPowerState T env io .on).2 now' = seconds t now' := by
  intro seconds OnSince
  have hsince : ∀ since, OnSince since ↔ t.On ∧ since = t.controller.wakeupTimestamp :=
    fun since => heldSince_iff hrun (create_wakeupTimestamp T st files)
  -- the time that has been taken is an earlier reading of the clock
  have hle : t.On → t.controller.wakeupTimestamp ≤ now :=
    fun hon => hnow _ ((hsince _).mpr ⟨hon, rfl⟩).mem
  have hoff : ¬t.On → seconds t now = 0 := fun hoff =>
    congrArg (·.2.toNat) (PowerController.getTimeSinceWakeup_of_ne hoff now)
  have hon : t.On → seconds t now = secondsBetween t.controller.wakeupTimestamp now :=
    fun hon => PowerController.getTimeSinceWakeup_of_on hon (hle hon)
  refine ⟨hoff, fun h => ⟨⟨_, (hsince _).mpr ⟨h, rfl⟩⟩, ?_⟩, ?_, ?_⟩
  · intro since hs
    rw [((hsince since).mp hs).2]
    exact hon h
  · intro ls' os' t' now' hrun' hsame hlater
    by_cases h : t.On
    · have hall : (stored T).Throughout On t ls' :=
        fun pre post os₁ v hcut hv => (hsame pre post os₁ v hcut hv).trans h
      have ht' : t'.On := hall ls' [] os' t' (by simp) hrun'
      have htime := wakeupTimestamp_of_throughout hrun' hall
      have hvalue : seconds t' now' = secondsBetween t'.controller.wakeupTimestamp now' :=
        PowerController.getTimeSinceWakeup_of_on ht' (htime ▸ Nat.le_trans (hle h) hlater)
      rw [hon h, hvalue, htime]
      exact secondsBetween_mono _ hlater
    · rw [hoff h]
      exact Nat.zero_le _
  · intro env io now' h
    obtain ⟨hstate, htime⟩ := setPowerState_on_keeps T env io h
    exact congrArg (·.2.toNat) (PowerController.getTimeSinceWakeup_congr hstate htime now')

/-- A device starts in ON, goes to STANDBY and back to ON at 20 seconds, and is set to ON once more;
after 95.5 seconds, the time since the wake-up is 75 seconds. -/
theorem timeSinceWakeup_after_standby :
    let st : StartUp := ⟨fun _ => .good, 0, some .on, ⟨false, .errorNone, 5000000, 0⟩⟩
    let set (now : Time) (powerState : PowerState) : Label :=
      .setPowerState ⟨false, .errorNone, now, 0⟩ .good powerState
    ∃ t, (stored (.sample false)).Run (create (.sample false) st fun _ => none).1
        [set 10000000 .standby, set 20000000 .on, set 30000000 .on]
        [.errorNone, .errorNone, .errorNone] t ∧
      (t.controller.getTimeSinceWakeup 95500000).2.toNat = 75 := by
  intro st set
  have hrun : (stored (.sample false)).Run (create (.sample false) st fun _ => none).1
      [set 10000000 .standby, set 20000000 .on, set 30000000 .on] _ _ := Machine.run_of_exec rfl
  obtain ⟨-, hon, -⟩ := @timeSinceWakeup _ _ _ (.sample false) st (fun _ => none) hrun 95500000
    (by decide)
  have hsince := (@heldSince_iff _ _ _ _ _ _ 20000000 hrun
    (create_wakeupTimestamp (.sample false) st fun _ => none)).mpr ⟨rfl, rfl⟩
  have hbetween : secondsBetween 20000000 95500000 = 75 := by decide
  exact ⟨_, hrun, ((hon rfl).2 _ hsince).trans hbetween⟩

end Stored

end PowerManager
