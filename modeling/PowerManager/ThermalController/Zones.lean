import PowerManager.ThermalController.Protection

/-!
# When do the zones act?

`deepSleepIfNeeded` and `rebootIfNeeded` keep a flag and a time from one poll to the next. Here both
are read off the readings: the zone is active exactly if some reading was in the band from `concern`
up to `critical` and none after it was below `safe`, and it was entered with the first reading in
the band since the last one below `safe`. `zone_law` says so of every run of polls, and tells from
it when the check requests protection; it is the same law for both checks.

A poll that is skipped or fails takes no reading, and leaves the zones alone.
-/

namespace PowerManager.Thermal

variable {build : Build} {c : ThermalController} {p p' q : Process} {os os' : List Action}
  {turns : List Turn} {k : Protection} {r : Reading}

/-- The thresholds are in order, as the built-in ones are. -/
structure Thresholds.Ordered (t : Thresholds) : Prop where
  safe_le : t.safe ≤ t.concern
  concern_le : t.concern ≤ t.critical

instance (t : Thresholds) : Decidable t.Ordered :=
  decidable_of_iff (t.safe ≤ t.concern ∧ t.concern ≤ t.critical)
    ⟨fun h => ⟨h.1, h.2⟩, fun h => ⟨h.1, h.2⟩⟩

example (k : Protection) : (k.thresholds (.initial ⟨false, false⟩)).Ordered := by
  cases k <;> decide

/-- The first reading in the band since the last one below `safe`, with its time. -/
def Thresholds.entrance? (t : Thresholds) (turns : List Turn) : Option (ℤ × ℤ) :=
  t.hysteresis.entrance? (samples turns)

/-- Some reading of the turns was in the band, and none after it was below `safe`. -/
def Thresholds.InZone (t : Thresholds) (turns : List Turn) : Prop :=
  ∃ pre s post, samples turns = pre ++ s :: post ∧ (t.concern ≤ s.1 ∧ s.1 < t.critical) ∧
    ∀ s' ∈ post, t.safe ≤ s'.1

/-- A reading requests protection if it is critical, or if it finds the grace interval over. -/
theorem request_poll_iff (hg : (k.thresholds c).graceInterval ≠ 0) (r : Reading) :
    (∃ a ∈ (c.pollThermalLevels build p.statics (.read r)).2.2, k.isRequest a = true) ↔
      (k.thresholds c).critical ≤ truncate r.temperature ∨
        (k.thresholds c).hysteresis.expired
          ((k.thresholds c).hysteresis.move (k.zone c p.statics) (truncate r.temperature) r.now)
          r.now = true := by
  rw [← List.countP_pos_iff, requests_poll_read hg]
  exact Hysteresis.alarms_pos_iff

/-- The zone after a run of polls that has begun outside it. -/
theorem zone_run (hc : p.controller = some c) (hzone : (k.zone c p.statics).active = false)
    (hg : (k.thresholds c).graceInterval ≠ 0) (hord : (k.thresholds c).Ordered)
    (hrun : (thermal build).Run p (turns.map .poll) os q) :
    ∃ c', q.controller = some c' ∧ k.thresholds c' = k.thresholds c ∧
      (k.zone c' q.statics).active = ((k.thresholds c).entrance? turns).isSome ∧
      ∀ e, (k.thresholds c).entrance? turns = some e → (k.zone c' q.statics).since = e.2 := by
  obtain ⟨c', hc', -, hk⟩ := polls_run hc hrun
  obtain ⟨ht, hz⟩ := hk k
  obtain ⟨hafter, -⟩ := hz hg
  refine ⟨c', hc', ht, ?_⟩
  rw [hafter]
  -- the zone of the process is that of the scheme, over the readings
  exact Hysteresis.after_eq_entrance hord.safe_le hord.concern_le hzone (samples turns)

/-- The law of the zones. In every run of polls of a controller whose zone starts inactive, with
thresholds in order and a grace interval that is not zero, after every reading: the zone is active
exactly if some reading was in the band and none after it was below `safe`; and the reading requests
protection exactly if it is critical, or the zone is active and at least the grace interval has
passed on the clock, in whole seconds, since the first reading in the band that no reading below
`safe` has followed. -/
theorem zone_law (hc : p.controller = some c) (hzone : (k.zone c p.statics).active = false)
    (hg : (k.thresholds c).graceInterval ≠ 0) (hord : (k.thresholds c).Ordered)
    (hrun : (thermal build).Run p (turns.map .poll) os q)
    (hstep : (thermal build).step q (.poll (.read r)) = some (p', os')) :
    (∃ c', p'.controller = some c' ∧ ((k.zone c' p'.statics).active = true ↔
      (k.thresholds c).InZone (turns ++ [.read r]))) ∧
    ((∃ a ∈ os', k.isRequest a = true) ↔
      (k.thresholds c).critical ≤ truncate r.temperature ∨
        ∃ e, (k.thresholds c).entrance? (turns ++ [.read r]) = some e ∧
          tvSec r.now - tvSec e.2 ≥ (k.thresholds c).graceInterval) := by
  -- the reading is the last turn of a longer run
  have hrun' : (thermal build).Run p ((turns ++ [Turn.read r]).map .poll) (os ++ os') p' := by
    rw [List.map_append]
    exact hrun.snoc hstep
  obtain ⟨c', hc', -, hactive, hsince⟩ := zone_run hc hzone hg hord hrun'
  obtain ⟨c₁, hc₁, ht₁, -⟩ := zone_run hc hzone hg hord hrun
  obtain ⟨-, rfl, rfl⟩ := step_poll hc₁ hstep
  have hg₁ : (k.thresholds c₁).graceInterval ≠ 0 := by rw [ht₁]; exact hg
  obtain rfl := Option.some.inj hc'
  refine ⟨⟨_, rfl, ?_⟩, ?_⟩
  · rw [hactive]
    exact Hysteresis.entrance?_isSome_iff (h := (k.thresholds c).hysteresis) hord.safe_le
  · -- the zone that the check looks at is the one after the reading
    have hmove : k.zone (c₁.pollThermalLevels build q.statics (.read r)).1
        (c₁.pollThermalLevels build q.statics (.read r)).2.1 = _ := zone_poll_read r
    rw [if_neg hg₁, ht₁] at hmove
    rw [request_poll_iff hg₁, ht₁, ← hmove, Hysteresis.expired, hactive, Bool.and_eq_true,
      Thresholds.due_iff]
    refine or_congr_right ?_
    -- the entry of the active zone is the reading that has been read off
    constructor
    · rintro ⟨hsome, hdue⟩
      obtain ⟨e, he⟩ := Option.isSome_iff_exists.mp hsome
      rw [hsince e he] at hdue
      exact ⟨e, he, hdue⟩
    · rintro ⟨e, he, hdue⟩
      rw [hsince e he, he]
      exact ⟨rfl, hdue⟩

/-- With the built-in thresholds, a device that reaches 112 degrees and then stays at 100 degrees or
more is put to deep sleep after 600 seconds. -/
theorem zone_law_of_defaults :
    ∃ os q os' p', (thermal ⟨false, false⟩).Run
        ⟨.zero, some (ThermalController.create ⟨false, false⟩ (.ofProperties fun _ => none)).1⟩
        ([.read (.at 112 0), .failed, .read (.at 105 300)].map .poll) os q ∧
      (thermal ⟨false, false⟩).step q (.poll (.read (.at 100 600))) = some (p', os') ∧
      ∃ a ∈ os', Protection.deepSleep.isRequest a = true := by
  have henabled : (ThermalController.create ⟨false, false⟩
      (.ofProperties fun _ => none)).1.isFeatureEnabled = true := by decide +kernel
  obtain ⟨os, q, hrun⟩ := exists_polls_run ⟨false, false⟩ (p := ⟨.zero, _⟩) rfl henabled
    [.read (.at 112 0), .failed, .read (.at 105 300)]
  obtain ⟨c', hc', hen', -⟩ := polls_run rfl hrun
  have hstep := step_of_enabled ⟨false, false⟩ hc' (hen'.trans henabled)
    (.read (.at 100 600))
  refine ⟨os, q, _, _, hrun, hstep, ?_⟩
  refine (zone_law rfl rfl (by decide +kernel) (by decide +kernel) hrun hstep).2.mpr (.inr ?_)
  exact ⟨(112, 0), by decide +kernel, by decide +kernel⟩

end PowerManager.Thermal
