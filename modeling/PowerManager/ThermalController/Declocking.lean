import PowerManager.ThermalController.Protection

/-!
# The law of declocking

`declockIfNeeded` slows the CPU down as soon as a reading is hot, and lets it get faster only after
a grace interval. It has no flag like the zones: the recorded speed tells how far the CPU is slowed
down, and a time is set anew by some of the branches.

The module introduces:

* `Thresholds.lastHot?` — the last reading at the level `concern` or `critical`;
* `Declocking.Fits` — the invariant: a CPU that is slowed down has seen a hot reading, and the time
  that is kept is not before the last one;
* `Declocking.Obeys` — what one reading may do to the speed;
* `declocking_law` — every reading of a run of polls obeys.

The thresholds may be in any order.
-/

namespace PowerManager.Thermal

/-- The value reaches one of the levels at which the CPU is slowed down. -/
def Thresholds.Hot (t : Thresholds) (value : ℤ) : Prop := value ≥ t.concern ∨ value ≥ t.critical

instance (t : Thresholds) (value : ℤ) : Decidable (t.Hot value) :=
  inferInstanceAs (Decidable (_ ∨ _))

/-- The last hot reading, with its time. -/
def Thresholds.lastHot? (t : Thresholds) (past : List (ℤ × ℤ)) : Option (ℤ × ℤ) :=
  (past.filter fun s => decide (t.Hot s.1)).getLast?

/-- At least the grace interval has passed on the clock since the last hot reading. -/
def Thresholds.Cooled (t : Thresholds) (past : List (ℤ × ℤ)) (now : ℤ) : Prop :=
  ∃ h, t.lastHot? past = some h ∧ tvSec now - tvSec h.2 ≥ t.graceInterval

/-- What `declockIfNeeded` goes by, besides the recorded speed. -/
structure Declocking where
  thresholds : Thresholds
  normal : UInt32
  scaled : UInt32
  minimal : UInt32

/-- The thresholds and the speeds of a controller. -/
def ThermalController.declocking (c : ThermalController) : Declocking :=
  ⟨c.declockThreshold, c.platCpuSpeedNormal, c.platCpuSpeedScaled, c.platCpuSpeedMinimal⟩

namespace Declocking

/-- The speed is one of the three. -/
def Known (d : Declocking) (speed : UInt32) : Prop :=
  speed = d.normal ∨ speed = d.scaled ∨ speed = d.minimal

/-- The three speeds are distinct. -/
structure Distinct (d : Declocking) : Prop where
  normal_scaled : d.normal ≠ d.scaled
  normal_minimal : d.normal ≠ d.minimal
  scaled_minimal : d.scaled ≠ d.minimal

instance (d : Declocking) : Decidable d.Distinct :=
  decidable_of_iff (d.normal ≠ d.scaled ∧ d.normal ≠ d.minimal ∧ d.scaled ≠ d.minimal)
    ⟨fun h => ⟨h.1, h.2.1, h.2.2⟩, fun h => ⟨h.1, h.2, h.3⟩⟩

/-- The change from one speed to another makes the CPU faster. -/
def Raises (d : Declocking) (speed speed' : UInt32) : Prop :=
  speed = d.minimal ∧ (speed' = d.scaled ∨ speed' = d.normal) ∨
    speed = d.scaled ∧ speed' = d.normal

/-- What a reading may do to the speed, after the readings `past`. -/
structure Obeys (d : Declocking) (past : List (ℤ × ℤ)) (value now : ℤ) (speed speed' : UInt32) :
    Prop where
  known : d.Known speed'
  critical : value ≥ d.thresholds.critical → speed' = d.minimal
  concern : value ≥ d.thresholds.concern → speed' ≠ d.normal
  normal : speed ≠ d.normal → speed' = d.normal →
    value ≤ d.thresholds.safe ∧ value < d.thresholds.concern ∧ value < d.thresholds.critical
  raises : d.Raises speed speed' → d.thresholds.Cooled (past ++ [(value, now)]) now

/-- The recorded speed and the time that is kept fit the readings so far. -/
structure Fits (d : Declocking) (past : List (ℤ × ℤ)) (speed : UInt32) (monitorTime : ℤ) :
    Prop where
  known : d.Known speed
  since : speed ≠ d.normal →
    ∃ h, d.thresholds.lastHot? past = some h ∧ tvSec h.2 ≤ tvSec monitorTime

end Declocking

variable {build : Build} {c c' : ThermalController} {st : Statics} {p p' q : Process}
  {os os' : List Action} {turns : List Turn} {r : Reading} {t : Thresholds}
  {past : List (ℤ × ℤ)} {value now monitorTime : ℤ} {speed : UInt32}

/-! ## The last hot reading -/

theorem lastHot?_concat_of_hot (past : List (ℤ × ℤ)) (now : ℤ) (h : t.Hot value) :
    t.lastHot? (past ++ [(value, now)]) = some (value, now) := by
  rw [Thresholds.lastHot?, List.filter_append, List.filter_singleton, decide_eq_true h]
  exact List.getLast?_concat

theorem lastHot?_concat_of_not (past : List (ℤ × ℤ)) (now : ℤ) (h : ¬t.Hot value) :
    t.lastHot? (past ++ [(value, now)]) = t.lastHot? past := by
  rw [Thresholds.lastHot?, List.filter_append, List.filter_singleton, decide_eq_false h]
  exact congrArg List.getLast? (List.append_nil _)

/-- The last hot reading is one of the readings. -/
theorem mem_of_lastHot? {h : ℤ × ℤ} (hlast : t.lastHot? past = some h) : h ∈ past :=
  List.mem_of_mem_filter (List.mem_of_getLast? hlast)

/-! ## One reading -/

/-- A hot reading slows the CPU down. -/
theorem decision_of_hot (monitorTime now : ℤ) (hdis : build.disableDeclockingLogic = false)
    (hg : c.declockThreshold.graceInterval ≠ 0) (hd : c.declocking.Distinct)
    (hknown : c.declocking.Known c.curCpuSpeed) (hhot : c.declockThreshold.Hot value) :
    ∃ speed', (c.declockDecision build value monitorTime now).1.getD c.curCpuSpeed = speed' ∧
      (c.declockDecision build value monitorTime now).2 = true ∧
      (speed' = c.platCpuSpeedMinimal ∨
        speed' = c.platCpuSpeedScaled ∧ c.curCpuSpeed ≠ c.platCpuSpeedMinimal ∧
          value < c.declockThreshold.critical) := by
  unfold ThermalController.declockDecision
  rw [if_neg (by simp [hdis]), if_neg hg]
  -- the level `critical` is tested before the level `concern`
  by_cases hcritical : value ≥ c.declockThreshold.critical
  · rw [if_pos hcritical]
    refine ⟨_, rfl, rfl, .inl ?_⟩
    by_cases hmin : c.curCpuSpeed = c.platCpuSpeedMinimal
    · simp [hmin]
    · simp [hmin]
  · have hconcern : value ≥ c.declockThreshold.concern := hhot.resolve_right hcritical
    rw [if_neg hcritical, if_pos hconcern]
    refine ⟨_, rfl, rfl, ?_⟩
    -- at the level `concern` only a CPU at its normal speed is slowed down
    rcases hknown with hn | hs | hm
    · have hnotmin : c.curCpuSpeed ≠ c.platCpuSpeedMinimal :=
        fun h => hd.normal_minimal (hn.symm.trans h)
      refine .inr ⟨?_, hnotmin, not_le.mp hcritical⟩
      rw [if_pos (show c.curCpuSpeed = c.platCpuSpeedNormal from hn)]
      rfl
    · have hnotnormal : c.curCpuSpeed ≠ c.platCpuSpeedNormal :=
        fun h => hd.normal_scaled (h.symm.trans hs)
      have hnotmin : c.curCpuSpeed ≠ c.platCpuSpeedMinimal :=
        fun h => hd.scaled_minimal (hs.symm.trans h)
      refine .inr ⟨?_, hnotmin, not_le.mp hcritical⟩
      rw [if_neg hnotnormal]
      exact hs
    · have hnotnormal : c.curCpuSpeed ≠ c.platCpuSpeedNormal :=
        fun h => hd.normal_minimal (h.symm.trans hm)
      refine .inl ?_
      rw [if_neg hnotnormal]
      exact hm

/-- A reading that is not hot leaves the speed alone or, after the grace interval, makes a CPU that
is slowed down faster. -/
theorem decision_of_not_hot (monitorTime now : ℤ) (hdis : build.disableDeclockingLogic = false)
    (hg : c.declockThreshold.graceInterval ≠ 0) (hd : c.declocking.Distinct)
    (hhot : ¬c.declockThreshold.Hot value) :
    ∃ speed', (c.declockDecision build value monitorTime now).1.getD c.curCpuSpeed = speed' ∧
      (speed' = c.curCpuSpeed ∨ c.curCpuSpeed ≠ c.platCpuSpeedNormal ∧
        tvSec now - tvSec monitorTime ≥ c.declockThreshold.graceInterval ∧
          (speed' = c.platCpuSpeedScaled ∨
            speed' = c.platCpuSpeedNormal ∧ value ≤ c.declockThreshold.safe)) := by
  rw [ThermalController.declockDecision, if_neg (by simp [hdis]), if_neg hg,
    if_neg fun h => hhot (.inr h), if_neg fun h => hhot (.inl h)]
  by_cases hsafe : value > c.declockThreshold.safe
  -- above `safe` only the minimal speed is given up, for the scaled one
  · rw [if_pos hsafe]
    by_cases hmin : c.curCpuSpeed = c.platCpuSpeedMinimal
    · have hslow : c.curCpuSpeed ≠ c.platCpuSpeedNormal := by
        rw [hmin]
        exact hd.normal_minimal.symm
      rw [if_pos hmin]
      split
      · rename_i hdue
        exact ⟨_, rfl, .inr ⟨hslow, hdue, .inl rfl⟩⟩
      · exact ⟨_, rfl, .inl rfl⟩
    · rw [if_neg hmin]
      exact ⟨_, rfl, .inl rfl⟩
  · rw [if_neg hsafe]
    by_cases hslow : c.curCpuSpeed ≠ c.platCpuSpeedNormal
    -- at `safe` or below it the CPU returns to its normal speed
    · rw [if_pos hslow]
      split
      · rename_i hdue
        exact ⟨_, rfl, .inr ⟨hslow, hdue, .inr ⟨rfl, not_lt.mp hsafe⟩⟩⟩
      · exact ⟨_, rfl, .inl rfl⟩
    · rw [if_neg hslow]
      exact ⟨_, rfl, .inl rfl⟩

/-- The same speed is not faster. -/
theorem not_raises_self (hd : c.declocking.Distinct) : ¬c.declocking.Raises speed speed := by
  rintro (⟨hm, hs | hn⟩ | ⟨hs, hn⟩)
  · exact hd.scaled_minimal (hs.symm.trans hm)
  · exact hd.normal_minimal (hn.symm.trans hm)
  · exact hd.normal_scaled (hn.symm.trans hs)

/-- One reading keeps the invariant, and obeys. -/
theorem declock_reading (hdis : build.disableDeclockingLogic = false)
    (hg : c.declockThreshold.graceInterval ≠ 0) (hd : c.declocking.Distinct)
    (hinv : c.declocking.Fits past c.curCpuSpeed monitorTime)
    (hclock : ∀ s ∈ past, tvSec s.2 ≤ tvSec now) :
    let d := c.declockDecision build value monitorTime now
    c.declocking.Fits (past ++ [(value, now)]) (d.1.getD c.curCpuSpeed)
        (if d.2 then now else monitorTime) ∧
      c.declocking.Obeys past value now c.curCpuSpeed (d.1.getD c.curCpuSpeed) := by
  intro d
  by_cases hhot : c.declockThreshold.Hot value
  · obtain ⟨speed', hspeed, htime, hcases⟩ :=
      decision_of_hot monitorTime now hdis hg hd hinv.known hhot
    have hslow : speed' ≠ c.platCpuSpeedNormal := by
      -- neither of the two slower speeds is the normal one
      rcases hcases with rfl | ⟨rfl, -⟩
      · exact hd.normal_minimal.symm
      · exact hd.normal_scaled.symm
    have hknown : c.declocking.Known speed' := by
      rcases hcases with rfl | ⟨rfl, -⟩
      · exact .inr (.inr rfl)
      · exact .inr (.inl rfl)
    rw [hspeed, htime, if_pos rfl]
    refine ⟨⟨hknown, fun _ => ⟨(value, now), lastHot?_concat_of_hot past now hhot, le_refl _⟩⟩,
      hknown, ?_, fun _ => hslow, fun _ hn => absurd hn hslow, ?_⟩
    · intro hcritical
      exact hcases.resolve_right fun h => not_lt.mpr hcritical h.2.2
    · -- a hot reading does not raise the speed
      rintro (⟨hmin, hscaled | hnormal⟩ | ⟨-, hnormal⟩)
      · rcases hcases with hm | ⟨-, hcur, -⟩
        · exact absurd (hscaled.symm.trans hm) hd.scaled_minimal
        · exact absurd hmin hcur
      · exact absurd hnormal hslow
      · exact absurd hnormal hslow
  · obtain ⟨speed', hspeed, hcases⟩ := decision_of_not_hot monitorTime now hdis hg hd hhot
    obtain ⟨hconcern, hcritical⟩ := not_or.mp hhot
    have hlast := lastHot?_concat_of_not past now hhot
    -- whichever time is kept, it is not before the last hot reading
    have hsince : ∀ monitorTime', monitorTime' = now ∨ monitorTime' = monitorTime →
        c.curCpuSpeed ≠ c.platCpuSpeedNormal → ∃ h, c.declockThreshold.lastHot?
          (past ++ [(value, now)]) = some h ∧ tvSec h.2 ≤ tvSec monitorTime' := by
      intro monitorTime' htime hslow
      obtain ⟨h, hh, hle⟩ := hinv.since hslow
      refine ⟨h, hlast.trans hh, ?_⟩
      rcases htime with rfl | rfl
      · exact hclock h (mem_of_lastHot? hh)
      · exact hle
    have htime : (if d.2 then now else monitorTime) = now ∨
        (if d.2 then now else monitorTime) = monitorTime := by
      split
      · exact .inl rfl
      · exact .inr rfl
    rw [hspeed]
    rcases hcases with rfl | ⟨hslow, hdue, hfaster⟩
    · refine ⟨⟨hinv.known, hsince _ htime⟩, hinv.known, fun h => absurd h hcritical,
        fun h => absurd h hconcern, fun h h' => absurd h' h, ?_⟩
      intro hraises
      exact absurd hraises (not_raises_self hd)
    · have hknown : c.declocking.Known speed' := by
        -- at such a reading the speed changes only after the grace interval
        rcases hfaster with hs | ⟨hn, -⟩
        · exact .inr (.inl hs)
        · exact .inl hn
      refine ⟨⟨hknown, fun _ => hsince _ htime hslow⟩, hknown, fun h => absurd h hcritical,
        fun h => absurd h hconcern, ?_, fun _ => ?_⟩
      · rintro - hnormal
        rcases hfaster with hs | ⟨-, hsafe⟩
        · exact absurd (hnormal.symm.trans hs) hd.normal_scaled
        · exact ⟨hsafe, not_le.mp hconcern, not_le.mp hcritical⟩
      -- the interval is counted from the kept time, which is not before the hot reading
      · obtain ⟨h, hh, hle⟩ := hsince monitorTime (.inr rfl) hslow
        refine ⟨h, hh, ?_⟩
        change tvSec now - tvSec h.2 ≥ c.declockThreshold.graceInterval
        omega

/-! ## Runs -/

/-- A poll leaves the thresholds and the three speeds alone. -/
theorem declocking_poll (turn : Turn) :
    (c.pollThermalLevels build st turn).1.declocking = c.declocking := by
  cases turn with
  | deepSleep => rfl
  | failed => rfl
  | read r =>
    rw [pollThermalLevels_read]
    rfl

/-- A poll keeps the invariant, if its clock is not before those of the readings so far. -/
theorem fits_poll (hdis : build.disableDeclockingLogic = false)
    (hg : c.declockThreshold.graceInterval ≠ 0) (hd : c.declocking.Distinct)
    (hinv : c.declocking.Fits past c.curCpuSpeed st.declockMonitorTime) (turn : Turn)
    (hclock : ∀ s ∈ past, ∀ s' ∈ samples [turn], tvSec s.2 ≤ tvSec s'.2) :
    c.declocking.Fits (past ++ samples [turn]) (c.pollThermalLevels build st turn).1.curCpuSpeed
      (c.pollThermalLevels build st turn).2.1.declockMonitorTime := by
  cases turn with
  | deepSleep =>
    rw [show samples [.deepSleep] = [] from rfl, List.append_nil]
    exact hinv
  | failed =>
    rw [show samples [.failed] = [] from rfl, List.append_nil]
    exact hinv
  | read r =>
    rw [pollThermalLevels_read]
    exact (declock_reading hdis hg hd hinv fun s hs => hclock s hs _ (List.mem_singleton.mpr rfl)).1

/-- The readings come in the order of the clock, in whole seconds. -/
def InOrder (turns : List Turn) : Prop :=
  (samples turns).Pairwise fun s s' => tvSec s.2 ≤ tvSec s'.2

instance (turns : List Turn) : Decidable (InOrder turns) :=
  inferInstanceAs (Decidable (List.Pairwise _ _))

/-- Every run of polls that begins at the normal speed keeps the invariant. -/
theorem fits_run (hdis : build.disableDeclockingLogic = false) (hc : p.controller = some c)
    (hg : c.declockThreshold.graceInterval ≠ 0) (hd : c.declocking.Distinct)
    (hstart : c.curCpuSpeed = c.platCpuSpeedNormal) (hclock : InOrder turns)
    (hrun : (thermal build).Run p (turns.map .poll) os q) :
    ∃ c', q.controller = some c' ∧ c'.declocking = c.declocking ∧
      c.declocking.Fits (samples turns) c'.curCpuSpeed q.statics.declockMonitorTime := by
  -- what a prefix of the run keeps: the order of the clock is that of the prefix
  have hprefix : ∃ c', q.controller = some c' ∧ (InOrder turns → c'.declocking = c.declocking ∧
      c.declocking.Fits (samples turns) c'.curCpuSpeed q.statics.declockMonitorTime) := by
    refine polls_induction (I := fun turns _ c' st => InOrder turns →
      c'.declocking = c.declocking ∧
        c.declocking.Fits (samples turns) c'.curCpuSpeed st.declockMonitorTime)
      hc (fun _ => ⟨rfl, .inl hstart, fun hslow => absurd hstart hslow⟩) ?_ hrun
    intro turns os c₁ st turn hI hclock
    -- the clock of the last turn is not before those of the others
    rw [InOrder, samples_append, List.pairwise_append] at hclock
    obtain ⟨hsame, hfits⟩ := hI hclock.1
    rw [← hsame] at hd hfits ⊢
    have hg₁ : c₁.declockThreshold.graceInterval ≠ 0 := by
      rw [show c₁.declockThreshold = c.declockThreshold from congrArg Declocking.thresholds hsame]
      exact hg
    refine ⟨declocking_poll turn, ?_⟩
    rw [samples_append]
    exact fits_poll hdis hg₁ hd hfits turn hclock.2.2
  obtain ⟨c', hc', hI⟩ := hprefix
  exact ⟨c', hc', hI hclock⟩

/-! ## The result -/

/-- The law of declocking. In every run of polls of a controller that has recorded the normal speed,
with three distinct speeds, any thresholds, a grace interval that is not zero and readings in the
order of the clock, every reading obeys: the recorded speed is one of the three; it is minimal after
a reading at the level `critical`, and not normal after one at the level `concern`; it returns to
normal only after a reading that is not above `safe` and below the other two levels; and it is
raised only if at least the grace interval has passed since the last hot reading. -/
theorem declocking_law (hdis : build.disableDeclockingLogic = false) (hc : p.controller = some c)
    (hg : c.declockThreshold.graceInterval ≠ 0) (hd : c.declocking.Distinct)
    (hstart : c.curCpuSpeed = c.platCpuSpeedNormal) (hclock : InOrder (turns ++ [.read r]))
    (hrun : (thermal build).Run p (turns.map .poll) os q)
    (hstep : (thermal build).step q (.poll (.read r)) = some (p', os')) :
    ∃ c₁ c', q.controller = some c₁ ∧ p'.controller = some c' ∧
      c.declocking.Obeys (samples turns) (truncate r.temperature) r.now c₁.curCpuSpeed
        c'.curCpuSpeed := by
  rw [InOrder, samples_append, List.pairwise_append] at hclock
  obtain ⟨c₁, hc₁, hsame, hfits⟩ := fits_run hdis hc hg hd hstart hclock.1 hrun
  obtain ⟨-, rfl, rfl⟩ := step_poll hc₁ hstep
  refine ⟨c₁, _, hc₁, rfl, ?_⟩
  rw [← hsame] at hd hfits ⊢
  have hg₁ : c₁.declockThreshold.graceInterval ≠ 0 := by
    rw [show c₁.declockThreshold = c.declockThreshold from congrArg Declocking.thresholds hsame]
    exact hg
  rw [pollThermalLevels_read]
  exact (declock_reading hdis hg₁ hd hfits
    fun s hs => hclock.2.2 s hs _ (List.mem_singleton.mpr rfl)).2

/-- With the built-in thresholds and the speeds 1500, 1000 and 500, the CPU is at its minimal speed
after a reading of 116 degrees. -/
theorem declocking_law_of_defaults :
    ∃ os q os' p' c', (thermal ⟨false, false⟩).Run
        ⟨.zero, some (ThermalController.create ⟨false, false⟩ (.ofProperties fun _ => none)).1⟩
        ([.read (.at 116 0), .read (.at 90 30)].map .poll) os q ∧
      (thermal ⟨false, false⟩).step q (.poll (.read (.at 116 50))) = some (p', os') ∧
      p'.controller = some c' ∧ c'.curCpuSpeed = 500 := by
  have henabled : (ThermalController.create ⟨false, false⟩
      (.ofProperties fun _ => none)).1.isFeatureEnabled = true := by decide +kernel
  obtain ⟨os, q, hrun⟩ := exists_polls_run ⟨false, false⟩ (p := ⟨.zero, _⟩) rfl henabled
    [.read (.at 116 0), .read (.at 90 30)]
  obtain ⟨c₁, hc₁, hen₁, -⟩ := polls_run rfl hrun
  have hstep := step_of_enabled ⟨false, false⟩ hc₁ (hen₁.trans henabled)
    (.read (.at 116 50))
  obtain ⟨_, c', -, hc', hobeys⟩ := declocking_law rfl rfl (by decide +kernel) (by decide +kernel)
    (by decide +kernel) (by decide +kernel) hrun hstep
  refine ⟨os, q, _, _, c', hrun, hstep, hc', ?_⟩
  rw [hobeys.critical (by decide +kernel)]
  decide +kernel

end PowerManager.Thermal
