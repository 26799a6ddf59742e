import PowerManager.ThermalController.Zones

/-!
# Do the grace intervals measure elapsed time?

`deepSleepIfNeeded` and `rebootIfNeeded` take the time that a zone has been active from
`gettimeofday`, the wall clock, which may be set forwards or backwards while the zone is active.
Other parts of the plugin that measure time ask a steady clock.

A run of polls is given here with both clocks. `GraceMeasured` says that a check acts only after the
grace interval less one second, and at the first reading after more than the grace interval, on the
monotonic clock. `graceMeasured_iff` shows that this is so exactly if the wall clock is kept in
bounds (`ClockKept`): while the grace interval lasts it is set forward by less than what is left of
it, and when the interval is over it has been set back by no more than the excess.
-/

namespace PowerManager.Thermal

/-- A moment, as two clocks show it, in microseconds. -/
structure Moment where
  /-- The clock that `gettimeofday` reads. -/
  wall : ℤ
  /-- A clock that is never set. -/
  mono : ℤ

/-- How far the wall clock has been set forward from one moment to another. -/
def Moment.adjustment (since now : Moment) : ℤ :=
  (now.wall - now.mono) - (since.wall - since.mono)

/-- One turn of the polling loop, with the monotonic clock at that time. -/
structure TimedTurn where
  turn : Turn
  mono : ℤ

/-- The readings of some turns, with their moments. -/
def moments (polls : List TimedTurn) : List (ℤ × Moment) :=
  polls.filterMap fun poll =>
    poll.turn.reading?.map fun r => (truncate r.temperature, ⟨r.now, poll.mono⟩)

/-- The polls as steps of the process. -/
def pollLabels (polls : List TimedTurn) : List Label := polls.map fun poll => .poll poll.turn

namespace Thresholds

/-- The scheme of the zones, with moments. -/
def timed (t : Thresholds) : Hysteresis ℤ Moment := t.hysteresis.onTimes Moment.wall

/-- The zone is active, and has been so for more than the grace interval. -/
def Past (t : Thresholds) (z : Zone Moment) (now : Moment) : Prop :=
  z.active = true ∧ now.mono - z.since.mono > t.graceInterval * 1000000

instance (t : Thresholds) (z : Zone Moment) (now : Moment) : Decidable (t.Past z now) :=
  inferInstanceAs (Decidable (_ ∧ _))

/-- The reading `s` finds the zone active for more than the grace interval, and the reading before
it has not. Since the monotonic clock does not go back, no reading has before. -/
def FirstPast (t : Thresholds) (z : Zone Moment) (before : List (ℤ × Moment)) (s : ℤ × Moment) :
    Prop :=
  t.Past (t.timed.after z (before ++ [s])) s.2 ∧
    ∀ s', before.getLast? = some s' → ¬t.Past (t.timed.after z before) s'.2

/-- What is left of the grace interval on the monotonic clock. It is counted from the beginning of
the second in which the zone was entered, as the check looks at whole seconds. -/
def left (t : Thresholds) (since now : Moment) : ℤ :=
  t.graceInterval * 1000000 - since.wall % 1000000 - (now.mono - since.mono)

end Thresholds

/-- The grace interval measures elapsed time in a run of polls that begins in the zone `z`: after
every reading, a request means that the zone has been active for the grace interval less one second,
and there is one at the first reading that finds it active for more than the grace interval. -/
def GraceMeasured (build : Build) (k : Protection) (p : Process) (t : Thresholds) (z : Zone Moment)
    (polls : List TimedTurn) : Prop :=
  ∀ (pre post : List TimedTurn) (r : Reading) (mono : ℤ) (os os' : List Action) (q q' : Process),
    polls = pre ++ ⟨.read r, mono⟩ :: post →
    (thermal build).Run p (pollLabels pre) os q →
    (thermal build).step q (.poll (.read r)) = some (q', os') →
    let now : Moment := ⟨r.now, mono⟩
    let s := (truncate r.temperature, now)
    let z' := t.timed.after z (moments pre ++ [s])
    ((∃ a ∈ os', k.isRequest a = true) →
      z'.active = true ∧ mono - z'.since.mono ≥ (t.graceInterval - 1) * 1000000) ∧
    (t.FirstPast z (moments pre) s → ∃ a ∈ os', k.isRequest a = true)

/-- The wall clock is kept in bounds: at every reading in the zone it has been set forward, since
the zone was entered, by less than what is left of the grace interval, if that is more than a
second; and at the first reading after the grace interval it has not been set back by more than the
excess. -/
def ClockKept (t : Thresholds) (z : Zone Moment) (polls : List TimedTurn) : Prop :=
  ∀ (pre post : List TimedTurn) (r : Reading) (mono : ℤ),
    polls = pre ++ ⟨.read r, mono⟩ :: post →
    let now : Moment := ⟨r.now, mono⟩
    let s := (truncate r.temperature, now)
    let z' := t.timed.after z (moments pre ++ [s])
    z'.active = true →
      (mono - z'.since.mono < (t.graceInterval - 1) * 1000000 →
        z'.since.adjustment now < t.left z'.since now) ∧
      (t.FirstPast z (moments pre) s → t.left z'.since now ≤ z'.since.adjustment now)

variable {build : Build} {c : ThermalController} {p q q' : Process} {os os' : List Action}
  {polls pre : List TimedTurn} {k : Protection} {t : Thresholds} {z : Zone Moment} {r : Reading}
  {mono : ℤ}

/-! ## One reading -/

theorem moments_append (polls polls' : List TimedTurn) :
    moments (polls ++ polls') = moments polls ++ moments polls' := by
  simp [moments]

/-- The wall clock of the moments is the clock of the readings. -/
theorem samples_moments (polls : List TimedTurn) :
    samples (polls.map TimedTurn.turn) = (moments polls).map fun s => (s.1, s.2.wall) := by
  rw [samples, List.filterMap_map, moments, List.map_filterMap]
  congr 1
  funext poll
  simp only [Function.comp_apply, Option.map_map]
  rfl

/-- The test for the end of the grace interval, in terms of the monotonic clock and of how the wall
clock has been set. -/
theorem due_timed_iff (t : Thresholds) (since now : Moment) :
    t.hysteresis.due since.wall now.wall = true ↔ t.left since now ≤ since.adjustment now := by
  rw [Thresholds.due_iff, tvSec, tvSec, Thresholds.left, Moment.adjustment]
  omega

/-- A reading that is not critical requests protection exactly if the zone is active and the wall
clock has been set forward by what is left of the grace interval. -/
theorem request_timed_iff (mono : ℤ) (hc : p.controller = some c)
    (hz : z.map Moment.wall = k.zone c p.statics) (hg : (k.thresholds c).graceInterval ≠ 0)
    (hcool : truncate r.temperature < (k.thresholds c).critical)
    (hrun : (thermal build).Run p (pollLabels pre) os q)
    (hstep : (thermal build).step q (.poll (.read r)) = some (q', os')) :
    (∃ a ∈ os', k.isRequest a = true) ↔
      let z' := (k.thresholds c).timed.after z
        (moments pre ++ [(truncate r.temperature, ⟨r.now, mono⟩)])
      z'.active = true ∧
        (k.thresholds c).left z'.since ⟨r.now, mono⟩ ≤ z'.since.adjustment ⟨r.now, mono⟩ := by
  have hlabels : pollLabels pre = (pre.map TimedTurn.turn).map .poll := by
    rw [List.map_map]
    rfl
  rw [hlabels] at hrun
  obtain ⟨c₁, hc₁, -, hk⟩ := polls_run hc hrun
  obtain ⟨ht₁, hzone⟩ := hk k
  obtain ⟨-, -, rfl⟩ := step_poll hc₁ hstep
  obtain ⟨hafter, -⟩ := hzone hg
  -- the zone of the process is the one with moments, as the wall clock shows them
  have hmove : (k.thresholds c).hysteresis.move (k.zone c₁ q.statics) (truncate r.temperature)
      r.now = ((k.thresholds c).timed.after z
        (moments pre ++ [(truncate r.temperature, ⟨r.now, mono⟩)])).map Moment.wall := by
    rw [Thresholds.timed, Hysteresis.after_onTimes, hz, List.map_append, Hysteresis.after_append,
      ← samples_moments, ← hafter]
    rfl
  rw [request_poll_iff (by rw [ht₁]; exact hg), ht₁, hmove, Hysteresis.expired, Bool.and_eq_true]
  refine ⟨fun h => ?_, fun h => .inr ?_⟩
  · obtain ⟨hact, hdue⟩ := h.resolve_left (not_le.mpr hcool)
    exact ⟨hact, (due_timed_iff _ _ _).mp hdue⟩
  · exact ⟨h.1, (due_timed_iff _ _ _).mpr h.2⟩

/-- A reading of a run whose readings are all below critical. -/
theorem truncate_lt_of_cut {post : List TimedTurn} {critical : ℤ}
    (hcool : ∀ s ∈ moments polls, s.1 < critical)
    (hpolls : polls = pre ++ ⟨.read r, mono⟩ :: post) : truncate r.temperature < critical := by
  subst hpolls
  exact hcool (truncate r.temperature, ⟨r.now, mono⟩) (by simp [moments, Turn.reading?])

/-! ## The result -/

/-- In a run of which the wall clock is kept in bounds the grace interval measures elapsed time. -/
theorem graceMeasured_of_clockKept (hc : p.controller = some c)
    (hz : z.map Moment.wall = k.zone c p.statics) (hg : (k.thresholds c).graceInterval ≠ 0)
    (hcool : ∀ s ∈ moments polls, s.1 < (k.thresholds c).critical)
    (h : ClockKept (k.thresholds c) z polls) :
    GraceMeasured build k p (k.thresholds c) z polls := by
  intro pre post r mono os os' q q' hpolls hrun hstep now s z'
  have hrequest := request_timed_iff mono hc hz hg (truncate_lt_of_cut hcool hpolls) hrun
    hstep
  constructor
  · intro hreq
    obtain ⟨hact, hover⟩ := hrequest.mp hreq
    refine ⟨hact, ?_⟩
    by_contra hless
    -- an early request takes a clock that has been set forward by what is left
    exact not_lt.mpr hover ((h pre post r mono hpolls hact).1 (not_le.mp hless))
  · intro hfirst
    have hact : z'.active = true := hfirst.1.1
    exact hrequest.mpr ⟨hact, (h pre post r mono hpolls hact).2 hfirst⟩

/-- If the grace interval measures elapsed time in a run, the wall clock is kept in bounds. -/
theorem clockKept_of_graceMeasured (hc : p.controller = some c)
    (henabled : c.isFeatureEnabled = true) (hz : z.map Moment.wall = k.zone c p.statics)
    (hg : (k.thresholds c).graceInterval ≠ 0)
    (hcool : ∀ s ∈ moments polls, s.1 < (k.thresholds c).critical)
    (h : GraceMeasured build k p (k.thresholds c) z polls) :
    ClockKept (k.thresholds c) z polls := by
  intro pre post r mono hpolls now s z' hact
  -- an enabled controller gets to every reading
  have hlabels : pollLabels pre = (pre.map TimedTurn.turn).map .poll := by
    rw [List.map_map]
    rfl
  obtain ⟨os, q, hrun⟩ := exists_polls_run build hc henabled (pre.map TimedTurn.turn)
  obtain ⟨c₁, hc₁, hen₁, -⟩ := polls_run hc hrun
  rw [← hlabels] at hrun
  have hstep := step_of_enabled build hc₁ (hen₁.trans henabled) (.read r)
  have hrequest := request_timed_iff mono hc hz hg (truncate_lt_of_cut hcool hpolls) hrun
    hstep
  obtain ⟨hearly, hlate⟩ := h pre post r mono _ _ _ _ hpolls hrun hstep
  refine ⟨fun hless => ?_, fun hfirst => (hrequest.mp (hlate hfirst)).2⟩
  by_contra hover
  -- with a clock that has been set forward that far, the check would have acted early
  have hreached := (hearly (hrequest.mpr ⟨hact, not_lt.mp hover⟩)).2
  exact not_le.mpr hless hreached

/-- When the grace intervals measure elapsed time. In every run of polls of an enabled controller
whose readings are all below critical, with a grace interval that is not zero, whether or not the
zone is active at its beginning: exactly if the wall clock is kept in bounds. -/
theorem graceMeasured_iff (hc : p.controller = some c) (henabled : c.isFeatureEnabled = true)
    (hz : z.map Moment.wall = k.zone c p.statics) (hg : (k.thresholds c).graceInterval ≠ 0)
    (hcool : ∀ s ∈ moments polls, s.1 < (k.thresholds c).critical) :
    GraceMeasured build k p (k.thresholds c) z polls ↔ ClockKept (k.thresholds c) z polls :=
  ⟨clockKept_of_graceMeasured hc henabled hz hg hcool,
    graceMeasured_of_clockKept hc hz hg hcool⟩

/-- A clock that is not set while it is watched is kept in bounds. -/
theorem clockKept_of_unadjusted (offset : ℤ)
    (hz : z.active = true → z.since.wall - z.since.mono = offset)
    (hpolls : ∀ s ∈ moments polls, s.2.wall - s.2.mono = offset) : ClockKept t z polls := by
  rintro pre post r mono rfl now s z' hact
  have hnow : now.wall - now.mono = offset :=
    hpolls s (by simp [s, now, moments, Turn.reading?])
  have hsince : z'.since.wall - z'.since.mono = offset := by
    -- the zone was active from the beginning, or has been entered with a reading
    rcases Hysteresis.since_of_after hact with ⟨hactive, hs⟩ | ⟨s', hs', hs⟩
    · rw [hs]
      exact hz hactive
    · rw [hs]
      refine hpolls s' ?_
      rcases List.mem_append.mp hs' with hmem | hmem
      · rw [moments_append]
        exact List.mem_append_left _ hmem
      · rw [List.mem_singleton.mp hmem]
        simp [s, now, moments, Turn.reading?]
  -- both moments have the same distance between the clocks
  have hzero : z'.since.adjustment now = 0 := by
    rw [Moment.adjustment]
    omega
  rw [hzero, Thresholds.left]
  refine ⟨fun hless => ?_, fun hfirst => ?_⟩
  · change mono - z'.since.mono < _ at hless
    change 0 < _ - (mono - z'.since.mono)
    omega
  · have hpast : mono - z'.since.mono > t.graceInterval * 1000000 := hfirst.1.2
    change _ - (mono - z'.since.mono) ≤ 0
    omega

/-- A new controller with the built-in thresholds, in a new process. -/
def Process.ofDefaults : Process :=
  ⟨.zero, some (ThermalController.create ⟨false, false⟩ (.ofProperties fun _ => none)).1⟩

/-- The zone of deep sleep in this process. -/
def Process.zoneOfDefaults : Zone Moment := ⟨false, 0, 0⟩

/-- A reading of 112 degrees, with both clocks in seconds. -/
def TimedTurn.at (wall mono : ℤ) : TimedTurn := ⟨.read (.at 112 wall), mono * 1000000⟩

/-- The thresholds of deep sleep are the built-in ones. -/
theorem thresholds_ofDefaults {c : ThermalController}
    (hc : Process.ofDefaults.controller = some c) :
    c.isFeatureEnabled = true ∧ c.deepsleepThreshold = ⟨115, 110, 100, 600⟩ := by
  obtain rfl := Option.some.inj hc
  exact ⟨by decide +kernel, by decide +kernel⟩

/-- Ten minutes at 112 degrees, with a wall clock that is five seconds ahead throughout. -/
theorem graceMeasured_of_steady :
    GraceMeasured ⟨false, false⟩ .deepSleep .ofDefaults ⟨115, 110, 100, 600⟩ Process.zoneOfDefaults
      [.at 5 0, .at 305 300, .at 606 601] := by
  obtain ⟨c, hc⟩ : ∃ c, Process.ofDefaults.controller = some c := ⟨_, rfl⟩
  obtain ⟨henabled, ht⟩ := thresholds_ofDefaults hc
  have hk : Protection.deepSleep.thresholds c = ⟨115, 110, 100, 600⟩ := ht
  rw [← hk]
  refine (graceMeasured_iff hc henabled rfl (by rw [hk]; decide) ?_).mpr
    (clockKept_of_unadjusted 5000000 nofun ?_)
  · rw [hk]
    decide +kernel
  · decide +kernel

/-- If the clock is set from 1970 to the present while the device is at 112 degrees, it is put to
deep sleep after one second; if it is set back by the same amount, it is not put to deep sleep after
601 seconds. -/
theorem not_graceMeasured_of_adjusted :
    ¬GraceMeasured ⟨false, false⟩ .deepSleep .ofDefaults ⟨115, 110, 100, 600⟩
        Process.zoneOfDefaults [.at 0 0, .at 1700000000 1] ∧
      ¬GraceMeasured ⟨false, false⟩ .deepSleep .ofDefaults ⟨115, 110, 100, 600⟩
        Process.zoneOfDefaults [.at 1700000000 0, .at 0 601] := by
  obtain ⟨c, hc⟩ : ∃ c, Process.ofDefaults.controller = some c := ⟨_, rfl⟩
  obtain ⟨henabled, ht⟩ := thresholds_ofDefaults hc
  have hk : Protection.deepSleep.thresholds c = ⟨115, 110, 100, 600⟩ := ht
  have hkept : ∀ polls : List TimedTurn, (∀ s ∈ moments polls, s.1 < 115) →
      GraceMeasured ⟨false, false⟩ .deepSleep .ofDefaults ⟨115, 110, 100, 600⟩
        Process.zoneOfDefaults polls →
      ClockKept ⟨115, 110, 100, 600⟩ Process.zoneOfDefaults polls := by
    intro polls hcool h
    rw [← hk] at h ⊢
    exact clockKept_of_graceMeasured hc henabled rfl (by rw [hk]; decide) (by rw [hk]; exact hcool) h
  constructor
  · intro h
    have hforward := (hkept _ (by decide +kernel) h [.at 0 0] [] (.at 112 1700000000) 1000000 rfl
      (by decide +kernel)).1 (by decide +kernel)
    exact absurd hforward (by decide +kernel)
  · intro h
    have hfirst : Thresholds.FirstPast ⟨115, 110, 100, 600⟩ Process.zoneOfDefaults
        (moments [.at 1700000000 0]) (truncate (Reading.at 112 0).temperature, ⟨0, 601000000⟩) := by
      refine ⟨⟨by decide +kernel, by decide +kernel⟩, ?_⟩
      -- the reading before it is the one that has entered the zone
      rintro s' hs'
      obtain rfl := Option.some.inj hs'
      decide +kernel
    have hback := (hkept _ (by decide +kernel) h [.at 1700000000 0] [] (.at 112 0) 601000000 rfl
      (by decide +kernel)).2 hfirst
    exact absurd hback (by decide +kernel)

end PowerManager.Thermal
