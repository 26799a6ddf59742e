import PowerManager.ThermalController.Protection

/-!
# Thermal events and the thermal state

A turn of the polling loop may be skipped, may fail, or may take a reading: a level and a
temperature. The parent is told of a level that differs from the recorded one, and
`GetThermalState` returns what is recorded. `events_eq` says, of every sequence of turns, that the
events are the changes of level from each reading to the next, and that the thermal state is that of
the last reading; turns without a reading count for nothing.
-/

namespace PowerManager.Thermal

/-- `GetThermalState`: the level, and the recorded value as a `float`. A value that was converted
from a `float` is a `float` without rounding. -/
def ThermalController.getThermalState (c : ThermalController) : ThermalTemperature × ℚ :=
  (c.curThermalLevel, c.curThermalValue)

/-- The event of an action, if it is a call of `onThermalTemperatureChanged`: the old level, the new
one, and the temperature. -/
def Action.event? : Action → Option (ThermalTemperature × ThermalTemperature × ℚ)
  | .thermalTemperatureChanged level level' temperature => some (level, level', temperature)
  | _ => none

/-- The levels and temperatures that are read. -/
def levels (turns : List Turn) : List (ThermalTemperature × ℚ) :=
  turns.filterMap fun turn => turn.reading?.map fun r => (r.level, r.temperature)

/-- The changes of level, from the given one on, with the temperature of each. -/
def changes (level : ThermalTemperature) (readings : List (ThermalTemperature × ℚ)) :
    List (ThermalTemperature × ThermalTemperature × ℚ) :=
  ((level :: readings.map Prod.fst).zip readings).filter fun e => decide (e.2.1 ≠ e.1)

/-- The thermal state of a reading: its level, and the whole degrees of its temperature. -/
def stateOf (reading : ThermalTemperature × ℚ) : ThermalTemperature × ℚ :=
  (reading.1, truncate reading.2)

variable {build : Build} {cfg : Configuration} {c c' : ThermalController} {st : Statics}
  {p p' q : Process} {os : List Action} {turns : List Turn} {level : ThermalTemperature}
  {readings : List (ThermalTemperature × ℚ)} {reading : ThermalTemperature × ℚ}

theorem levels_append (turns turns' : List Turn) :
    levels (turns ++ turns') = levels turns ++ levels turns' := by
  simp [levels]

/-! ## Changes of level -/

/-- The level of the last reading, or the given one. -/
def lastLevel (level : ThermalTemperature) (readings : List (ThermalTemperature × ℚ)) :
    ThermalTemperature :=
  (readings.getLast?.map Prod.fst).getD level

/-- The first reading is compared with the given level, and the second one with the first. -/
theorem changes_cons : changes level (reading :: readings) =
    (if reading.1 ≠ level then [(level, reading)] else []) ++ changes reading.1 readings := by
  rw [changes, List.map_cons, List.zip_cons_cons, List.filter_cons]
  by_cases h : reading.1 ≠ level
  · rw [if_pos (decide_eq_true h), if_pos h]
    rfl
  · rw [if_neg (by simpa using h), if_neg h]
    rfl

theorem lastLevel_cons : lastLevel level (reading :: readings) = lastLevel reading.1 readings := by
  cases readings with
  | nil => rfl
  | cons r rs => simp [lastLevel, List.getLast?_cons]

theorem lastLevel_concat : lastLevel level (readings ++ [reading]) = reading.1 := by
  rw [lastLevel, List.getLast?_concat]
  rfl

/-- The last reading is compared with the one before it. -/
theorem changes_concat : changes level (readings ++ [reading]) = changes level readings ++
    if reading.1 ≠ lastLevel level readings then [(lastLevel level readings, reading)] else [] := by
  induction readings generalizing level with
  | nil =>
    rw [List.nil_append, changes_cons]
    exact List.append_nil _
  | cons r rs ih =>
    rw [List.cons_append, changes_cons, ih, changes_cons, lastLevel_cons, List.append_assoc]

/-! ## One poll -/

/-- The event of a reading, if there is one, comes from the part of the turn that records it. -/
theorem events_poll_read (r : Reading) :
    (c.pollThermalLevels build st (.read r)).2.2.filterMap Action.event? =
      if r.level ≠ c.curThermalLevel then [(c.curThermalLevel, r.level, r.temperature)] else [] := by
  have hnone : ∀ os : List Action, os.countP (fun a => a.event?.isSome) = 0 →
      os.filterMap Action.event? = [] := by
    intro os hos
    rw [List.countP_eq_zero] at hos
    rw [List.filterMap_eq_nil_iff]
    intro a ha
    simpa using hos a ha
  -- declocking sets the speed of the CPU, which is no event of the level
  have hdeclock : ∀ speed : Option UInt32,
      (speed.toList.map (Action.setClockSpeed · r.clockSpeedResult)).filterMap Action.event? =
        [] := by
    intro speed
    rw [List.filterMap_eq_nil_iff]
    intro a ha
    obtain ⟨s, -, rfl⟩ := List.mem_map.mp ha
    rfl
  rw [pollThermalLevels_read]
  simp only [List.filterMap_append, hdeclock, List.append_nil]
  -- nor do the two checks raise one
  rw [hnone _ (countP_deepSleepIfNeeded rfl rfl r.now),
    hnone _ (countP_rebootIfNeeded (fun _ => rfl) r.now), List.append_nil, List.append_nil]
  simp only [ThermalController.record]
  -- the level of the reading before is still recorded when the new one comes in
  by_cases h : c.curThermalLevel = r.level
  · rw [if_neg (by simp [h]), if_neg (by simp [h])]
    rfl
  · rw [if_pos h, if_pos (Ne.symm h)]
    rfl

/-- A reading is recorded. -/
theorem state_poll_read (c : ThermalController) (build : Build) (st : Statics) (r : Reading) :
    (c.pollThermalLevels build st (.read r)).1.getThermalState = stateOf (r.level, r.temperature) ∧
      (c.pollThermalLevels build st (.read r)).1.curThermalLevel = r.level := by
  rw [pollThermalLevels_read]
  exact ⟨rfl, rfl⟩

/-! ## Runs -/

/-- In a run of polls the events are the changes of level, and the state is that of the last
reading. -/
theorem events_run (hc : p.controller = some c)
    (hrun : (thermal build).Run p (turns.map .poll) os q) :
    ∃ c', q.controller = some c' ∧
      os.filterMap Action.event? = changes c.curThermalLevel (levels turns) ∧
      c'.curThermalLevel = lastLevel c.curThermalLevel (levels turns) ∧
      c'.getThermalState = ((levels turns).getLast?.map stateOf).getD c.getThermalState := by
  refine polls_induction (I := fun turns os c' _ =>
    os.filterMap Action.event? = changes c.curThermalLevel (levels turns) ∧
      c'.curThermalLevel = lastLevel c.curThermalLevel (levels turns) ∧
      c'.getThermalState = ((levels turns).getLast?.map stateOf).getD c.getThermalState)
    hc ⟨rfl, rfl, rfl⟩ ?_ hrun
  rintro turns os c₁ st turn ⟨hevents, hlevel, hstate⟩
  rw [List.filterMap_append, hevents, levels_append]
  -- a turn without a reading adds no level and raises no event
  cases turn with
  | deepSleep =>
    rw [show levels [.deepSleep] = [] from rfl, List.append_nil]
    exact ⟨List.append_nil _, hlevel, hstate⟩
  | failed =>
    rw [show levels [.failed] = [] from rfl, List.append_nil]
    exact ⟨List.append_nil _, hlevel, hstate⟩
  | read r =>
    obtain ⟨hstate', hlevel'⟩ := state_poll_read c₁ build st r
    rw [show levels [.read r] = [(r.level, r.temperature)] from rfl, changes_concat,
      events_poll_read, hlevel, hstate', hlevel', lastLevel_concat, List.getLast?_concat]
    exact ⟨rfl, rfl, rfl⟩

/-! ## The result -/

/-- Thermal events and the thermal state. For every sequence of turns, skipped, failed or
successful, of a new controller: the events are the changes of level from each reading to the next,
the first one being compared with `normal`; and `GetThermalState` returns the level of the last
reading with the whole degrees of its temperature, or the initial values if there is none. -/
theorem events_eq (hrun : (thermal build).Run ⟨st, none⟩ (.create cfg :: turns.map .poll) os p) :
    os.filterMap Action.event? = changes .normal (levels turns) ∧
      ∃ c, p.controller = some c ∧
        c.getThermalState = ((levels turns).getLast?.map stateOf).getD (.normal, 0) := by
  obtain ⟨q, os₁, os₂, rfl, hstep, hpolls⟩ := hrun.cons_inv
  rw [step_create] at hstep
  cases hstep
  obtain ⟨c', hc', hevents, -, hstate⟩ := events_run rfl hpolls
  have hfresh := create_fresh build cfg
  -- the construction raises no event
  have hcreate : (ThermalController.create build cfg).2.filterMap Action.event? = [] := by
    simp only [ThermalController.create, ThermalController.initializeThermalProtection]
    split <;> rfl
  rw [List.filterMap_append, hcreate, hevents, hfresh.curThermalLevel]
  refine ⟨rfl, c', hc', ?_⟩
  rw [hstate, ThermalController.getThermalState, hfresh.curThermalLevel, hfresh.curThermalValue]
  rfl

/-- A device that gets warm, misses a turn, stays warm and cools down. -/
theorem events_eq_of_spike :
    ∃ os p, (thermal ⟨false, false⟩).Run ⟨.zero, none⟩ (.create (.ofProperties fun _ => none) ::
        [.read ⟨.high, 101, 0, .errorNone⟩, .failed, .read ⟨.high, 203 / 2, 30, .errorNone⟩,
          .deepSleep, .read ⟨.normal, 161 / 2, 60, .errorNone⟩].map .poll) os p ∧
      os.filterMap Action.event? = [(.normal, .high, 101), (.high, .normal, 161 / 2)] ∧
      ∃ c, p.controller = some c ∧ c.getThermalState = (.normal, 80) := by
  have henabled : (ThermalController.create ⟨false, false⟩
      (.ofProperties fun _ => none)).1.isFeatureEnabled = true := by decide +kernel
  obtain ⟨os, p, hpolls⟩ := exists_polls_run ⟨false, false⟩ (p := ⟨.zero, _⟩) rfl henabled
    [.read ⟨.high, 101, 0, .errorNone⟩, .failed, .read ⟨.high, 203 / 2, 30, .errorNone⟩,
      .deepSleep, .read ⟨.normal, 161 / 2, 60, .errorNone⟩]
  have hrun := hpolls.cons (step_create .zero ⟨false, false⟩ (.ofProperties fun _ => none))
  obtain ⟨hevents, c, hc, hstate⟩ := events_eq hrun
  exact ⟨_, p, hrun, hevents.trans (by decide +kernel), c, hc, hstate.trans (by decide +kernel)⟩

end PowerManager.Thermal
