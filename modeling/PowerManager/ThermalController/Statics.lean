import PowerManager.ThermalController.Protection

/-!
# What a new controller inherits

A new `ThermalController` begins with new members, but finds the function-local statics as the
controllers before it have left them. `rebootIfNeeded` keeps its flag in a member and sets its entry
time together with the flag, so that it never looks at an old one. `deepSleepIfNeeded` keeps the
flag in a static as well, and goes on with the zone of its predecessor; `declockIfNeeded` may
compare the clock with an entry time that it has not set itself.

`startsAlike_iff` says for any two states of the statics, whatever the histories that left them, and
for every configuration when a new controller does the same after both: `Alike` is what it must
find. That this is enough is a simulation, `alike_poll`; that it is needed are `differs_of_zone` and
`differs_of_declock`, each with a reading that tells the statics apart.
-/

namespace PowerManager.Thermal

/-- The same second of the clock. -/
def SameSecond (t t' : ℤ) : Prop := tvSec t = tvSec t'

/-- `declockIfNeeded` may compare the clock with an entry time that it has not set: the CPU does not
run at the normal speed, or the normal speed is the minimal one and there are readings between
`safe` and the other levels. -/
def ThermalController.ReadsOldTime (c : ThermalController) : Prop :=
  c.curCpuSpeed ≠ c.platCpuSpeedNormal ∨
    c.curCpuSpeed = c.platCpuSpeedMinimal ∧
      c.declockThreshold.safe + 1 < c.declockThreshold.concern ∧
      c.declockThreshold.safe + 1 < c.declockThreshold.critical

/-- `declockIfNeeded` cannot tell the two entry times apart. -/
def DeclockAlike (build : Build) (c : ThermalController) (t t' : ℤ) : Prop :=
  build.disableDeclockingLogic = true ∨ c.declockThreshold.graceInterval = 0 ∨ SameSecond t t' ∨
    ¬c.ReadsOldTime

/-- A controller cannot tell the statics apart. -/
structure Alike (build : Build) (c : ThermalController) (st st' : Statics) : Prop where
  deepSleep : c.deepsleepThreshold.graceInterval = 0 ∨
    Hysteresis.Agree SameSecond st.deepSleepZoneOf st'.deepSleepZoneOf
  reboot : Hysteresis.Agree SameSecond (c.rebootZoneOf st) (c.rebootZoneOf st')
  declock : DeclockAlike build c st.declockMonitorTime st'.declockMonitorTime

variable {build : Build} {cfg : Configuration} {c : ThermalController} {st st' : Statics}
  {p p' : Process} {os os' : List Action} {turns : List Turn}

theorem SameSecond.refl (t : ℤ) : SameSecond t t := rfl

/-! ## One poll -/

/-- The test for the end of the grace interval looks at seconds only. -/
theorem due_congr (t : Thresholds) (s s' : ℤ) (h : SameSecond s s') (now : ℤ) :
    t.hysteresis.due s now = t.hysteresis.due s' now := by
  rw [SameSecond] at h
  simp only [Thresholds.hysteresis, h]

/-- A check does the same on zones that are alike, and keeps them alike. -/
theorem check_congr {t : Thresholds} {z z' : Zone ℤ}
    (h : t.graceInterval = 0 ∨ Hysteresis.Agree SameSecond z z') (value now : ℤ)
    (action action' : List Action) :
    (t.check z value now action action').2 = (t.check z' value now action action').2 ∧
      (t.graceInterval = 0 ∨ Hysteresis.Agree SameSecond (t.check z value now action action').1
        (t.check z' value now action action').1) := by
  unfold Thresholds.check
  by_cases hg : t.graceInterval = 0
  · rw [if_pos hg, if_pos hg]
    exact ⟨rfl, .inl hg⟩
  · have ha := (h.resolve_left hg).move (h := t.hysteresis) SameSecond.refl value now
    simp only [if_neg hg]
    rw [ha.expired (due_congr t) now]
    exact ⟨rfl, .inr ha⟩

/-- Entry times that are alike lead to the same decision, and stay alike. -/
theorem decision_congr {t t' : ℤ} (h : DeclockAlike build c t t') (value now : ℤ) :
    c.declockDecision build value t now = c.declockDecision build value t' now ∧
      DeclockAlike build
        { c with curCpuSpeed := (c.declockDecision build value t now).1.getD c.curCpuSpeed }
        (if (c.declockDecision build value t now).2 then now else t)
        (if (c.declockDecision build value t now).2 then now else t') := by
  rcases h with hdis | hg | hsame | hold
  · exact ⟨by simp [ThermalController.declockDecision, hdis], .inl hdis⟩
  · exact ⟨by simp [ThermalController.declockDecision, hg], .inr (.inl hg)⟩
  · refine ⟨?_, .inr (.inr (.inl ?_))⟩
    · rw [SameSecond] at hsame
      simp only [ThermalController.declockDecision, hsame]
    · split
      · exact SameSecond.refl now
      · exact hsame
  · -- the entry time is set before it is read
    rw [ThermalController.ReadsOldTime, not_or, not_not] at hold
    obtain ⟨hnormal, hminimal⟩ := hold
    have hcases : ∀ s, c.declockDecision build value t now = c.declockDecision build value s now ∧
        ((c.declockDecision build value t now).2 = true ∨
          (c.declockDecision build value t now).1 = none) := by
      intro s
      unfold ThermalController.declockDecision
      by_cases hdis : build.disableDeclockingLogic = true
      · simp [hdis]
      by_cases hg : c.declockThreshold.graceInterval = 0
      · simp [hg]
      rw [if_neg hdis, if_neg hg, if_neg hdis, if_neg hg]
      by_cases hcritical : value ≥ c.declockThreshold.critical
      · simp [hcritical]
      by_cases hconcern : value ≥ c.declockThreshold.concern
      · simp [hcritical, hconcern]
      by_cases hsafe : value > c.declockThreshold.safe
      · have hne : c.curCpuSpeed ≠ c.platCpuSpeedMinimal := by
          intro hmin
          exact hminimal ⟨hmin, by omega, by omega⟩
        simp [hcritical, hconcern, hsafe, hne]
      · simp [hcritical, hconcern, hsafe, hnormal]
    -- either it is set in this turn, or the speed stays and it is not read in the next one either
    obtain ⟨heq, hset | hnone⟩ := hcases t'
    · rw [if_pos hset, if_pos hset]
      exact ⟨heq, .inr (.inr (.inl (SameSecond.refl now)))⟩
    · rw [hnone]
      exact ⟨heq, .inr (.inr (.inr (by
        rw [ThermalController.ReadsOldTime, not_or, not_not]; exact ⟨hnormal, hminimal⟩)))⟩

/-- On statics that it cannot tell apart a controller does the same in a turn, and cannot tell them
apart afterwards. -/
theorem alike_poll (h : Alike build c st st') (turn : Turn) :
    (c.pollThermalLevels build st turn).1 = (c.pollThermalLevels build st' turn).1 ∧
      (c.pollThermalLevels build st turn).2.2 = (c.pollThermalLevels build st' turn).2.2 ∧
      Alike build (c.pollThermalLevels build st turn).1 (c.pollThermalLevels build st turn).2.1
        (c.pollThermalLevels build st' turn).2.1 := by
  cases turn with
  | deepSleep => exact ⟨rfl, rfl, h⟩
  | failed => exact ⟨rfl, rfl, h⟩
  | read r =>
    obtain ⟨hsleep, hsleep'⟩ := check_congr h.deepSleep (truncate r.temperature) r.now
      [.logThermalShutdownReason, .deepSleepForThermalChange]
      [.logThermalShutdownReason, .deepSleepForThermalChange]
    obtain ⟨hreboot, hreboot'⟩ := check_congr (t := c.rebootThreshold) (.inr h.reboot)
      (truncate r.temperature) r.now [.rebootNow ThermalController.reasonCritical]
      [.rebootNow ThermalController.reasonGrace]
    obtain ⟨hdecision, hdeclock⟩ := decision_congr h.declock (truncate r.temperature) r.now
    have hzone : Hysteresis.Agree SameSecond
        (c.rebootThreshold.check (c.rebootZoneOf st) (truncate r.temperature) r.now
          [.rebootNow ThermalController.reasonCritical]
          [.rebootNow ThermalController.reasonGrace]).1
        (c.rebootThreshold.check (c.rebootZoneOf st') (truncate r.temperature) r.now
          [.rebootNow ThermalController.reasonCritical]
          [.rebootNow ThermalController.reasonGrace]).1 := by
      rcases hreboot' with hg | ha
      · -- a disabled check leaves its zone alone
        rw [check_fst, check_fst, if_pos hg, if_pos hg]
        exact h.reboot
      · exact ha
    -- the zone of reboot is a field, the others are statics
    rw [pollThermalLevels_read, pollThermalLevels_read, ← hdecision]
    refine ⟨?_, ?_, hsleep', ?_, hdeclock⟩
    · simp only [ThermalController.rebootIfNeeded, ThermalController.mk.injEq, and_true]
      exact hzone.1
    · exact congrArg₂ (· ++ ·) (congrArg₂ (· ++ ·) (congrArg _ hsleep) hreboot) rfl
    · exact ⟨rfl, hzone.2⟩

/-! ## Runs -/

/-- On statics that it cannot tell apart a controller does the same in every sequence of turns. -/
theorem alike_run (h : Alike build c st st')
    (hrun : (thermal build).Run ⟨st, some c⟩ (turns.map .poll) os p)
    (hrun' : (thermal build).Run ⟨st', some c⟩ (turns.map .poll) os' p') : os = os' := by
  induction turns generalizing c st st' os os' with
  | nil => exact hrun.nil_inv.2.trans hrun'.nil_inv.2.symm
  | cons turn turns ih =>
    obtain ⟨q, os₁, os₂, rfl, hstep, hrest⟩ := hrun.cons_inv
    obtain ⟨q', os₁', os₂', rfl, hstep', hrest'⟩ := hrun'.cons_inv
    obtain ⟨-, rfl, rfl⟩ := step_poll rfl hstep
    obtain ⟨-, rfl, rfl⟩ := step_poll rfl hstep'
    obtain ⟨hc, hos, halike⟩ := alike_poll h turn
    rw [← hc] at hrest'
    rw [hos, ih halike hrest hrest']

/-! ## Statics that a controller can tell apart -/

/-- There is a turn in which the controller does different things on the two statics. -/
def Differ (build : Build) (c : ThermalController) (st st' : Statics) : Prop :=
  ∃ turn, (c.pollThermalLevels build st turn).2.2 ≠ (c.pollThermalLevels build st' turn).2.2

theorem Differ.symm (h : Differ build c st st') : Differ build c st' st := by
  obtain ⟨turn, hne⟩ := h
  exact ⟨turn, hne.symm⟩

/-- If what the controller does in a turn differs, so do some runs of it. -/
theorem differs_of_poll {turn : Turn} (henabled : c.isFeatureEnabled = true)
    (hne : (c.pollThermalLevels build st turn).2.2 ≠ (c.pollThermalLevels build st' turn).2.2) :
    ∃ (turns : List Turn) (os os' : List Action) (p p' : Process),
      (thermal build).Run ⟨st, some c⟩ (turns.map .poll) os p ∧
        (thermal build).Run ⟨st', some c⟩ (turns.map .poll) os' p' ∧ os ≠ os' :=
  ⟨[turn], _, _, _, _, .single (step_of_enabled build rfl henabled turn),
    .single (step_of_enabled build rfl henabled turn), hne⟩

/-- A critical reading shows whether the grace interval of the old zone is over. -/
theorem differs_of_zone (hg : c.deepsleepThreshold.graceInterval ≠ 0)
    (hact : st.deepSleepZone = true)
    (h : st'.deepSleepZone = false ∨
      tvSec st.deepSleepMonitorTime < tvSec st'.deepSleepMonitorTime) :
    Differ build c st st' := by
  let now := st.deepSleepMonitorTime + c.deepsleepThreshold.graceInterval * 1000000
  refine ⟨.read ⟨.normal, c.deepsleepThreshold.critical, now, .errorNone⟩, fun heq => ?_⟩
  have hcount := congrArg (List.countP Protection.deepSleep.isRequest) heq
  rw [requests_poll_read (k := .deepSleep) hg, requests_poll_read (k := .deepSleep) hg,
    truncate_intCast] at hcount
  have hcritical : (Protection.deepSleep.thresholds c).hysteresis.critical ≤
      c.deepsleepThreshold.critical := le_refl _
  rw [Hysteresis.alarms_of_critical hcritical, Hysteresis.alarms_of_critical hcritical] at hcount
  -- the grace interval is over in the one zone, and not in the other
  have hover : c.deepsleepThreshold.hysteresis.expired st.deepSleepZoneOf now = true := by
    rw [Hysteresis.expired, Bool.and_eq_true, Thresholds.due_iff]
    refine ⟨hact, ?_⟩
    simp only [Statics.deepSleepZoneOf, tvSec, now]
    omega
  have hnot : c.deepsleepThreshold.hysteresis.expired st'.deepSleepZoneOf now = false := by
    rw [Bool.eq_false_iff]
    intro hover'
    rw [Hysteresis.expired, Bool.and_eq_true, Thresholds.due_iff] at hover'
    obtain ⟨hact', hdue⟩ := hover'
    rcases h with hout | hlater
    · exact Bool.false_ne_true (hout.symm.trans hact')
    · simp only [Statics.deepSleepZoneOf, tvSec, now] at hdue hlater
      omega
  change 1 + (if c.deepsleepThreshold.hysteresis.expired st.deepSleepZoneOf now then 1 else 0) =
    1 + (if c.deepsleepThreshold.hysteresis.expired st'.deepSleepZoneOf now then 1 else 0) at hcount
  rw [hover, hnot] at hcount
  cases hcount

/-- A reading sets the clock speed exactly if `declockIfNeeded` decides so. -/
theorem countP_setClockSpeed (r : Reading) :
    (c.pollThermalLevels build st (.read r)).2.2.countP Action.isSetClockSpeed =
      (c.declockDecision build (truncate r.temperature) st.declockMonitorTime
        r.now).1.toList.length := by
  obtain ⟨os, hos, he⟩ := outputs_poll_read c build st r
  rw [he, List.countP_append, hos, Nat.zero_add]
  cases (c.declockDecision build (truncate r.temperature) st.declockMonitorTime r.now).1 <;> rfl

/-- A reading that would raise the speed once the grace interval is over shows whether it is. -/
theorem differs_of_declock (hdis : build.disableDeclockingLogic = false)
    (hg : c.declockThreshold.graceInterval ≠ 0) (hold : c.ReadsOldTime)
    (h : tvSec st.declockMonitorTime < tvSec st'.declockMonitorTime) :
    Differ build c st st' := by
  let now := st.declockMonitorTime + c.declockThreshold.graceInterval * 1000000
  have hdue : tvSec now - tvSec st.declockMonitorTime ≥ c.declockThreshold.graceInterval := by
    simp only [tvSec, now]
    omega
  have hnot : ¬tvSec now - tvSec st'.declockMonitorTime ≥ c.declockThreshold.graceInterval := by
    simp only [tvSec, now] at h ⊢
    omega
  -- the number of calls of `SetClockSpeed` tells the two decisions apart
  suffices ∃ value,
      (c.declockDecision build value st.declockMonitorTime now).1.isSome = true ∧
        (c.declockDecision build value st'.declockMonitorTime now).1 = none by
    obtain ⟨value, hsome, hnone⟩ := this
    refine ⟨.read ⟨.normal, value, now, .errorNone⟩, fun heq => ?_⟩
    have hcount := congrArg (List.countP Action.isSetClockSpeed) heq
    rw [countP_setClockSpeed, countP_setClockSpeed, truncate_intCast, hnone] at hcount
    obtain ⟨speed, hspeed⟩ := Option.isSome_iff_exists.mp hsome
    rw [hspeed] at hcount
    cases hcount
  rcases hold with hnormal | ⟨hminimal, hconcern, hcritical⟩
  · -- a reading at safe temperatures would return to the normal speed
    refine ⟨min c.declockThreshold.safe
      (min (c.declockThreshold.concern - 1) (c.declockThreshold.critical - 1)), ?_⟩
    unfold ThermalController.declockDecision
    rw [if_neg (by simp [hdis]), if_neg hg, if_neg (by omega), if_neg (by omega), if_neg (by omega),
      if_pos hnormal, if_pos hdue, if_neg (by simp [hdis]), if_neg hg, if_neg (by omega),
      if_neg (by omega), if_neg (by omega), if_pos hnormal, if_neg hnot]
    exact ⟨rfl, rfl⟩
  · -- a reading between the levels would switch to the scaled speed
    refine ⟨c.declockThreshold.safe + 1, ?_⟩
    unfold ThermalController.declockDecision
    rw [if_neg (by simp [hdis]), if_neg hg, if_neg (by omega), if_neg (by omega), if_pos (by omega),
      if_pos hminimal, if_pos hdue, if_neg (by simp [hdis]), if_neg hg, if_neg (by omega),
      if_neg (by omega), if_pos (by omega), if_pos hminimal, if_neg hnot]
    exact ⟨rfl, rfl⟩

/-- Of two zones that are not alike one is active, and has the earlier entry time. -/
theorem differs_of_not_agree (build : Build) (hg : c.deepsleepThreshold.graceInterval ≠ 0)
    (h : ¬Hysteresis.Agree SameSecond st.deepSleepZoneOf st'.deepSleepZoneOf) :
    Differ build c st st' := by
  cases hz : st.deepSleepZone with
  | false =>
    cases hz' : st'.deepSleepZone with
    | false =>
      -- two inactive zones are alike
      exact absurd ⟨hz.trans hz'.symm, fun hact => absurd (hz.symm.trans hact)
        Bool.false_ne_true⟩ h
    | true => exact (differs_of_zone hg hz' (.inl hz)).symm
  | true =>
    cases hz' : st'.deepSleepZone with
    | false => exact differs_of_zone hg hz (.inl hz')
    | true =>
      have hne : tvSec st.deepSleepMonitorTime ≠ tvSec st'.deepSleepMonitorTime :=
        fun he => h ⟨hz.trans hz'.symm, fun _ => he⟩
      rcases lt_or_gt_of_ne hne with hlt | hlt
      · exact differs_of_zone hg hz (.inr hlt)
      · exact (differs_of_zone hg hz' (.inr hlt)).symm

/-- The earlier of two entry times of declocking has its grace interval over first. -/
theorem differs_of_not_declockAlike
    (h : ¬DeclockAlike build c st.declockMonitorTime st'.declockMonitorTime) :
    Differ build c st st' := by
  simp only [DeclockAlike, not_or, not_not, Bool.not_eq_true] at h
  obtain ⟨hdis, hg, hsec, hold⟩ := h
  rcases lt_or_gt_of_ne hsec with hlt | hlt
  · exact differs_of_declock hdis hg hold hlt
  · exact (differs_of_declock hdis hg hold hlt).symm

/-- A controller tells statics apart that are not alike. -/
theorem differs_of_not_alike (build : Build) (st st' : Statics) (hreboot : c.rebootZone = false)
    (h : ¬Alike build c st st') : Differ build c st st' := by
  by_contra hsame
  refine h ⟨?_, ⟨rfl, fun hact => absurd (hreboot.symm.trans hact) Bool.false_ne_true⟩, ?_⟩
  · by_contra hzone
    rw [not_or] at hzone
    exact hsame (differs_of_not_agree build hzone.1 hzone.2)
  · by_contra hdeclock
    exact hsame (differs_of_not_declockAlike hdeclock)

/-! ## The result -/

/-- A controller that is created with the given configuration does the same on both statics,
whatever turns follow. -/
def StartsAlike (build : Build) (cfg : Configuration) (st st' : Statics) : Prop :=
  ∀ (turns : List Turn) (os os' : List Action) (p p' : Process),
    (thermal build).Run ⟨st, none⟩ (.create cfg :: turns.map .poll) os p →
    (thermal build).Run ⟨st', none⟩ (.create cfg :: turns.map .poll) os' p' → os = os'

/-- When a new controller starts fresh. For every configuration and any two states of the statics,
whatever histories have left them, the new controller does the same in every sequence of turns
exactly if the feature is disabled, or it finds the deep sleep zones alike, unless that check is
disabled, and the entry times of declocking alike, unless it never looks at an old one. -/
theorem startsAlike_iff (build : Build) (cfg : Configuration) (st st' : Statics) :
    StartsAlike build cfg st st' ↔
      ((ThermalController.create build cfg).1.isFeatureEnabled = true →
        ((ThermalController.create build cfg).1.deepsleepThreshold.graceInterval = 0 ∨
          Hysteresis.Agree SameSecond st.deepSleepZoneOf st'.deepSleepZoneOf) ∧
        DeclockAlike build (ThermalController.create build cfg).1 st.declockMonitorTime
          st'.declockMonitorTime) := by
  have hreboot := create_rebootZone build cfg
  constructor
  · intro hsame henabled
    by_contra hno
    -- one turn is enough to tell them apart
    obtain ⟨turn, hne⟩ := differs_of_not_alike build st st' hreboot
      fun halike => hno ⟨halike.deepSleep, halike.declock⟩
    obtain ⟨turns, os, os', p, p', hrun, hrun', hos⟩ := differs_of_poll henabled hne
    have hcut := hsame turns _ _ p p' (.cons (step_create st build cfg) hrun)
      (.cons (step_create st' build cfg) hrun')
    exact hos (List.append_cancel_left hcut)
  · intro h turns os os' p p' hrun hrun'
    obtain ⟨q, os₁, os₂, rfl, hstep, hrest⟩ := hrun.cons_inv
    obtain ⟨q', os₁', os₂', rfl, hstep', hrest'⟩ := hrun'.cons_inv
    rw [step_create] at hstep hstep'
    cases hstep
    cases hstep'
    -- both make the same requests at creation, where no static is read
    congr 1
    by_cases henabled : (ThermalController.create build cfg).1.isFeatureEnabled = true
    · obtain ⟨hsleep, hdeclock⟩ := h henabled
      have halike : Alike build (ThermalController.create build cfg).1 st st' :=
        ⟨hsleep, ⟨rfl, fun hact => absurd (hreboot.symm.trans hact) Bool.false_ne_true⟩, hdeclock⟩
      exact alike_run halike hrest hrest'
    · -- a disabled controller does not poll
      cases turns with
      | nil => exact hrest.nil_inv.2.trans hrest'.nil_inv.2.symm
      | cons turn turns =>
        obtain ⟨_, _, _, -, hpoll, -⟩ := hrest.cons_inv
        exact absurd (step_poll rfl hpoll).1 henabled

/-- A controller enters the deep sleep zone and is destroyed. The next one, ten minutes later, reads
105 degrees, which is below its threshold `concern` of 110: it asks for deep sleep at its first
poll, where a controller in a new process does nothing. -/
theorem not_startsAlike_after_restart :
    ∃ history os st, (thermal ⟨false, false⟩).Run .start history os ⟨st, none⟩ ∧
      ¬StartsAlike ⟨false, false⟩ (.ofProperties fun _ => none) .zero st := by
  let cfg : Configuration := .ofProperties fun _ => none
  have hhistory : (thermal ⟨false, false⟩).Run .start
      [.create cfg, .poll (.read (.at 112 0)), .destroy none]
      [.setTemperatureThresholds 100 110, .setClockSpeed 500 .errorNone]
      ⟨⟨0, 0, true, 0⟩, none⟩ := Machine.run_of_exec (by decide +kernel)
  refine ⟨_, _, _, hhistory, fun hsame => ?_⟩
  obtain ⟨os, p, hrun, hquiet⟩ : ∃ os p, (thermal ⟨false, false⟩).Run ⟨.zero, none⟩
      [.create cfg, .poll (.read (.at 105 600))] os p ∧ .deepSleepForThermalChange ∉ os :=
    Machine.exists_outputs_of_exec (by decide +kernel)
  obtain ⟨os', p', hrun', hrequest⟩ : ∃ os p, (thermal ⟨false, false⟩).Run
      ⟨⟨0, 0, true, 0⟩, none⟩ [.create cfg, .poll (.read (.at 105 600))] os p ∧
        .deepSleepForThermalChange ∈ os :=
    Machine.exists_outputs_of_exec (by decide +kernel)
  have hos := hsame [.read (.at 105 600)] os os' p p' hrun hrun'
  exact hquiet (hos ▸ hrequest)

end PowerManager.Thermal
