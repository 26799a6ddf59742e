import PowerManager.ThermalController.Basic
import Mathlib.Data.List.Induction

/-!
# Does overheating trigger protection?

The thresholds of deep sleep and of reboot are read one by one, and nothing compares them with each
other. `Protects` says that a device whose readings stay at the level `concern` for the grace
interval is put to deep sleep, or rebooted, meanwhile. `protects_iff` shows that a configuration
protects the device in this sense exactly if `safe` or `critical` is not above `concern`: a
controller with `concern` below both enters and leaves the zone with every other reading.

The module introduces:

* `Protection` — the two checks that share the scheme of the zones, with their thresholds, zones and
  requests;
* `polls_run` — in a run of polls the zone and the number of requests are those of `Hysteresis`;
* `entered_run` — the entry time of an active zone is that of an earlier reading, of this controller
  or of one before it.
-/

namespace PowerManager.Thermal

/-- The two checks that share the scheme of the zones. -/
inductive Protection
  | deepSleep
  | reboot
  deriving DecidableEq, Repr

namespace Protection

/-- The thresholds of the check. -/
def thresholds : Protection → ThermalController → Thresholds
  | deepSleep, c => c.deepsleepThreshold
  | reboot, c => c.rebootThreshold

/-- The zone of the check. -/
def zone : Protection → ThermalController → Statics → Zone ℤ
  | deepSleep, _, st => st.deepSleepZoneOf
  | reboot, c, st => c.rebootZoneOf st

/-- What the check requests. -/
def isRequest : Protection → Action → Bool
  | deepSleep, .deepSleepForThermalChange => true
  | reboot, .rebootNow _ => true
  | _, _ => false

end Protection

/-- The time of a step that takes a reading. -/
def Label.time? : Label → Option ℤ
  | .poll (.read r) => some r.now
  | _ => none

/-- The times of the readings. -/
def times (ls : List Label) : List ℤ := ls.filterMap Label.time?

/-- The readings of some turns, as the checks see them. -/
def samples (turns : List Turn) : List (ℤ × ℤ) :=
  turns.filterMap fun turn => turn.reading?.map fun r => (truncate r.temperature, r.now)

theorem samples_append (turns turns' : List Turn) :
    samples (turns ++ turns') = samples turns ++ samples turns' := by
  simp [samples]

variable {build : Build} {cfg : Configuration} {c : ThermalController} {st : Statics}
  {p p' : Process} {os : List Action} {ls : List Label} {turns : List Turn} {k : Protection}

/-! ## One poll -/

/-- The zone after a check. -/
theorem check_fst (t : Thresholds) (z : Zone ℤ) (value : ℤ) (now : ℤ)
    (action action' : List Action) :
    (t.check z value now action action').1 =
      if t.graceInterval = 0 then z else t.hysteresis.move z value now := by
  unfold Thresholds.check
  split <;> rfl

/-- A check that is not disabled acts as often as there are alarms. -/
theorem countP_check {t : Thresholds} (hg : t.graceInterval ≠ 0) (z : Zone ℤ) (value : ℤ)
    (now : ℤ) {f : Action → Bool} {action action' : List Action}
    (h : action.countP f = 1) (h' : action'.countP f = 1) :
    (t.check z value now action action').2.countP f = t.hysteresis.alarms z value now := by
  rw [Thresholds.check, if_neg hg, List.countP_append, Hysteresis.alarms]
  congr 1
  · change _ = if t.critical ≤ value then 1 else 0
    split
    · exact h
    · rfl
  · split
    · exact h'
    · rfl

/-- A check does nothing but its own actions. -/
theorem countP_check_eq_zero {t : Thresholds} (z : Zone ℤ) (value : ℤ) (now : ℤ)
    {f : Action → Bool} {a b : List Action} (ha : a.countP f = 0) (hb : b.countP f = 0) :
    (t.check z value now a b).2.countP f = 0 := by
  unfold Thresholds.check
  split
  · rfl
  · rw [List.countP_append]
    split <;> split <;> simp [ha, hb]

/-- Until it comes to declocking, a reading does nothing but tell of a new level, request deep sleep
and reboot. -/
theorem countP_record {f : Action → Bool}
    (hf : ∀ level level' value, f (.thermalTemperatureChanged level level' value) = false)
    (level : ThermalTemperature) (temperature : ℚ) :
    (c.record level temperature).2.countP f = 0 := by
  simp only [ThermalController.record]
  split
  · simp [hf]
  · rfl

theorem countP_deepSleepIfNeeded {f : Action → Bool} (hlog : f .logThermalShutdownReason = false)
    (hsleep : f .deepSleepForThermalChange = false) (now : ℤ) :
    (c.deepSleepIfNeeded st now).2.countP f = 0 :=
  countP_check_eq_zero _ _ now (by simp [hlog, hsleep]) (by simp [hlog, hsleep])

theorem countP_rebootIfNeeded {f : Action → Bool} (hf : ∀ reason, f (.rebootNow reason) = false)
    (now : ℤ) : (c.rebootIfNeeded st now).2.2.countP f = 0 :=
  countP_check_eq_zero _ _ now (by simp [hf]) (by simp [hf])

/-- A poll leaves the thresholds alone. -/
theorem thresholds_poll (turn : Turn) :
    k.thresholds (c.pollThermalLevels build st turn).1 = k.thresholds c ∧
      (c.pollThermalLevels build st turn).1.isFeatureEnabled = c.isFeatureEnabled := by
  cases turn with
  | deepSleep => exact ⟨rfl, rfl⟩
  | failed => exact ⟨rfl, rfl⟩
  | read r =>
    rw [pollThermalLevels_read]
    cases k <;> exact ⟨rfl, rfl⟩

/-- The zone after a reading. -/
theorem zone_poll_read (r : Reading) :
    k.zone (c.pollThermalLevels build st (.read r)).1 (c.pollThermalLevels build st (.read r)).2.1 =
      if (k.thresholds c).graceInterval = 0 then k.zone c st
      else (k.thresholds c).hysteresis.move (k.zone c st) (truncate r.temperature) r.now := by
  rw [pollThermalLevels_read]
  cases k with
  | deepSleep => exact check_fst c.deepsleepThreshold st.deepSleepZoneOf _ r.now _ _
  | reboot => exact check_fst c.rebootThreshold (c.rebootZoneOf st) _ r.now _ _

/-- A reading requests protection as often as it raises an alarm, if the check is not disabled. -/
theorem requests_poll_read (hg : (k.thresholds c).graceInterval ≠ 0) (r : Reading) :
    (c.pollThermalLevels build st (.read r)).2.2.countP k.isRequest =
      (k.thresholds c).hysteresis.alarms (k.zone c st) (truncate r.temperature) r.now := by
  have hdeclock : ∀ speed : Option UInt32,
      (speed.toList.map (Action.setClockSpeed · r.clockSpeedResult)).countP k.isRequest = 0 := by
    intro speed
    rw [List.countP_eq_zero]
    intro a ha
    obtain ⟨s, -, rfl⟩ := List.mem_map.mp ha
    cases k <;> exact Bool.false_ne_true
  have hrecord := countP_record (c := c) (f := k.isRequest) (fun _ _ _ => by cases k <;> rfl)
    r.level r.temperature
  rw [pollThermalLevels_read]
  simp only [List.countP_append, hdeclock, hrecord, Nat.add_zero, Nat.zero_add]
  -- one of the two checks is that of `k`, and the other one requests something else
  cases k with
  | deepSleep =>
    rw [countP_rebootIfNeeded fun _ => rfl, Nat.add_zero]
    exact countP_check hg st.deepSleepZoneOf _ r.now rfl rfl
  | reboot =>
    rw [countP_deepSleepIfNeeded rfl rfl, Nat.zero_add]
    exact countP_check hg (c.rebootZoneOf st) _ r.now rfl rfl

/-- A poll moves the zone of a check that is not disabled by its reading, and requests protection as
often as the reading raises an alarm. -/
theorem zone_poll (build : Build) (st : Statics) (hg : (k.thresholds c).graceInterval ≠ 0)
    (turn : Turn) :
    k.zone (c.pollThermalLevels build st turn).1 (c.pollThermalLevels build st turn).2.1 =
        (k.thresholds c).hysteresis.after (k.zone c st) (samples [turn]) ∧
      (c.pollThermalLevels build st turn).2.2.countP k.isRequest =
        (k.thresholds c).hysteresis.total (k.zone c st) (samples [turn]) := by
  cases turn with
  | deepSleep => exact ⟨rfl, rfl⟩
  | failed => exact ⟨rfl, rfl⟩
  | read r =>
    rw [zone_poll_read, if_neg hg, requests_poll_read hg]
    exact ⟨rfl, rfl⟩

/-- Whether an action sets the clock speed. -/
def Action.isSetClockSpeed : Action → Bool
  | .setClockSpeed .. => true
  | _ => false

/-- What a reading does outwards before it sets the clock speed, and whether it does that. -/
theorem outputs_poll_read (c : ThermalController) (build : Build) (st : Statics) (r : Reading) :
    ∃ os, os.countP Action.isSetClockSpeed = 0 ∧
      (c.pollThermalLevels build st (.read r)).2.2 =
        os ++ (c.declockDecision build (truncate r.temperature) st.declockMonitorTime
          r.now).1.toList.map (.setClockSpeed · r.clockSpeedResult) := by
  rw [pollThermalLevels_read]
  refine ⟨_, ?_, rfl⟩
  rw [List.countP_append, List.countP_append, countP_record fun _ _ _ => rfl,
    countP_deepSleepIfNeeded rfl rfl, countP_rebootIfNeeded fun _ => rfl]

/-! ## Runs of polls -/

/-- What a step with a poll is. -/
theorem step_poll {turn : Turn} (hc : p.controller = some c)
    (h : (thermal build).step p (.poll turn) = some (p', os)) :
    c.isFeatureEnabled = true ∧
      p' = ⟨(c.pollThermalLevels build p.statics turn).2.1,
        some (c.pollThermalLevels build p.statics turn).1⟩ ∧
      os = (c.pollThermalLevels build p.statics turn).2.2 := by
  simp only [thermal, hc] at h
  split at h
  · rename_i henabled
    cases h
    exact ⟨henabled, rfl, rfl⟩
  · cases h

/-- An enabled controller can be polled. -/
theorem step_of_enabled (build : Build) (hc : p.controller = some c)
    (henabled : c.isFeatureEnabled = true) (turn : Turn) :
    (thermal build).step p (.poll turn) =
      some (⟨(c.pollThermalLevels build p.statics turn).2.1,
        some (c.pollThermalLevels build p.statics turn).1⟩,
        (c.pollThermalLevels build p.statics turn).2.2) := by
  simp only [thermal, hc, if_pos henabled]

/-- The run rule for polls: what holds of the controller before the first turn, and is kept by every
poll, holds after the last one. -/
theorem polls_induction {I : List Turn → List Action → ThermalController → Statics → Prop}
    (hc : p.controller = some c) (h0 : I [] [] c p.statics)
    (hpoll : ∀ turns os c st turn, I turns os c st →
      I (turns ++ [turn]) (os ++ (c.pollThermalLevels build st turn).2.2)
        (c.pollThermalLevels build st turn).1 (c.pollThermalLevels build st turn).2.1)
    (h : (thermal build).Run p (turns.map .poll) os p') :
    ∃ c', p'.controller = some c' ∧ I turns os c' p'.statics := by
  -- the run is cut before its last turn, where the state is known by induction
  induction turns using List.reverseRecOn generalizing os p' with
  | nil =>
    obtain ⟨rfl, rfl⟩ := h.nil_inv
    exact ⟨c, hc, h0⟩
  | append_singleton turns turn ih =>
    rw [List.map_append] at h
    obtain ⟨q, os₁, os₂, rfl, hrun, hstep⟩ := h.snoc_inv
    obtain ⟨c₁, hc₁, hI⟩ := ih hrun
    obtain ⟨-, rfl, rfl⟩ := step_poll hc₁ hstep
    exact ⟨_, rfl, hpoll turns os₁ c₁ q.statics turn hI⟩

/-- In a run of polls the thresholds stay, and the zone of a check that is not disabled and the
number of its requests are those of the readings. -/
theorem polls_run (hc : p.controller = some c)
    (h : (thermal build).Run p (turns.map .poll) os p') :
    ∃ c', p'.controller = some c' ∧ c'.isFeatureEnabled = c.isFeatureEnabled ∧
      ∀ k : Protection, k.thresholds c' = k.thresholds c ∧
        ((k.thresholds c).graceInterval ≠ 0 →
          k.zone c' p'.statics =
              (k.thresholds c).hysteresis.after (k.zone c p.statics) (samples turns) ∧
            os.countP k.isRequest =
              (k.thresholds c).hysteresis.total (k.zone c p.statics) (samples turns)) := by
  refine polls_induction (I := fun turns os c' st =>
    c'.isFeatureEnabled = c.isFeatureEnabled ∧ ∀ k : Protection,
      k.thresholds c' = k.thresholds c ∧ ((k.thresholds c).graceInterval ≠ 0 →
        k.zone c' st = (k.thresholds c).hysteresis.after (k.zone c p.statics) (samples turns) ∧
          os.countP k.isRequest =
            (k.thresholds c).hysteresis.total (k.zone c p.statics) (samples turns)))
    hc ⟨rfl, fun k => ⟨rfl, fun _ => ⟨rfl, rfl⟩⟩⟩ ?_ h
  rintro turns os c₁ st turn ⟨hen₁, hk₁⟩
  have hen : (c₁.pollThermalLevels build st turn).1.isFeatureEnabled = c₁.isFeatureEnabled :=
    (thresholds_poll (k := .reboot) turn).2
  refine ⟨hen.trans hen₁, fun k => ?_⟩
  obtain ⟨ht₁, hz₁⟩ := hk₁ k
  refine ⟨(thresholds_poll turn).1.trans ht₁, fun hg => ?_⟩
  obtain ⟨hzone, hcount⟩ := hz₁ hg
  obtain ⟨hzone', hcount'⟩ := zone_poll build st (k := k) (by rw [ht₁]; exact hg) turn
  rw [ht₁, hzone] at hzone' hcount'
  rw [samples_append, Hysteresis.after_append, Hysteresis.total_append, List.countP_append,
    hcount, hcount']
  exact ⟨hzone', rfl⟩

/-- An enabled controller can be polled any number of times. -/
theorem exists_polls_run (build : Build) (hc : p.controller = some c)
    (henabled : c.isFeatureEnabled = true) (turns : List Turn) :
    ∃ os p', (thermal build).Run p (turns.map .poll) os p' := by
  induction turns using List.reverseRecOn with
  | nil => exact ⟨[], p, .nil p⟩
  | append_singleton turns turn ih =>
    obtain ⟨os, q, hrun⟩ := ih
    obtain ⟨c', hc', hen, -⟩ := polls_run hc hrun
    rw [List.map_append]
    exact ⟨_, _, hrun.snoc (step_of_enabled build hc' (hen.trans henabled) turn)⟩

/-! ## Entry times -/

/-- The entry times of the active zones are among the given times. The zone of deep sleep is that of
the process, whatever the controller. -/
def Entered (ts : List ℤ) (p : Process) : Prop :=
  ∀ (k : Protection) (c : ThermalController), (k = .reboot → p.controller = some c) →
    (k.zone c p.statics).active = true → (k.zone c p.statics).since ∈ ts

/-- A zone that is active after a poll was active before with the same entry time, or was entered at
the time of the poll. -/
theorem since_poll (build : Build) (turn : Turn) (ts : List ℤ)
    (h : (k.zone c st).active = true → (k.zone c st).since ∈ ts)
    (hact : (k.zone (c.pollThermalLevels build st turn).1
      (c.pollThermalLevels build st turn).2.1).active = true) :
    (k.zone (c.pollThermalLevels build st turn).1
      (c.pollThermalLevels build st turn).2.1).since ∈ ts ++ times [.poll turn] := by
  cases turn with
  | deepSleep => exact List.mem_append_left _ (h hact)
  | failed => exact List.mem_append_left _ (h hact)
  | read r =>
    have htimes : times [.poll (.read r)] = [r.now] := rfl
    rw [zone_poll_read] at hact ⊢
    split at hact
    · rw [if_pos ‹_›]
      exact List.mem_append_left _ (h hact)
    · rw [if_neg ‹_›, htimes]
      rcases Hysteresis.active_of_move hact with hnow | ⟨hz, hsince⟩
      · rw [hnow]
        simp
      · rw [hsince]
        exact List.mem_append_left _ (h hz)

/-- A change of the grace interval leaves the zones alone. -/
theorem zone_setOvertempGraceInterval (g : ℤ) :
    k.zone (c.setOvertempGraceInterval g).1 st = k.zone c st := by
  unfold ThermalController.setOvertempGraceInterval
  cases k with
  | deepSleep => rfl
  | reboot => split <;> rfl

/-- Every step keeps the entry times among those of the readings. -/
theorem entered_step {l : Label} (hE : Entered (times ls) p)
    (h : (thermal build).step p l = some (p', os)) : Entered (times (ls ++ [l])) p' := by
  have hsplit : times (ls ++ [l]) = times ls ++ times [l] := by simp [times]
  rw [hsplit]
  cases hc : p.controller with
  | none =>
    cases l with
    | create cfg =>
      simp only [thermal, hc] at h
      cases h
      intro k c hk hact
      -- a new controller is in the zone of deep sleep that the process has left, and in no other
      cases k with
      | deepSleep => exact List.mem_append_left _ (hE .deepSleep c nofun hact)
      | reboot =>
        obtain rfl := Option.some.inj (hk rfl)
        exact absurd ((create_rebootZone build cfg).symm.trans hact) Bool.false_ne_true
    | _ => simp [thermal, hc] at h
  | some c =>
    have hkeep : ∀ (k : Protection) (c' : ThermalController), (k = .reboot → some c = some c') →
        (k.zone c' p.statics).active = true → (k.zone c' p.statics).since ∈ times ls :=
      fun k c' hk => hE k c' fun hr => hc.trans (hk hr)
    cases l with
    | create cfg => simp [thermal, hc] at h
    | poll turn =>
      obtain ⟨-, rfl, -⟩ := step_poll hc h
      intro k c' hk hact
      have hsince := since_poll build turn (times ls) (hkeep k c fun _ => rfl)
      cases k with
      | deepSleep => exact hsince hact
      | reboot =>
        obtain rfl := Option.some.inj (hk rfl)
        exact hsince hact
    | setOvertempGraceInterval g =>
      simp only [thermal, hc] at h
      cases h
      intro k c' hk hact
      cases k with
      | deepSleep => exact List.mem_append_left _ (hkeep .deepSleep c' nofun hact)
      | reboot =>
        obtain rfl := Option.some.inj (hk rfl)
        rw [zone_setOvertempGraceInterval] at hact ⊢
        exact List.mem_append_left _ (hkeep .reboot c (fun _ => rfl) hact)
    | destroy last =>
      simp only [thermal, hc] at h
      cases h
      intro k c' hk hact
      cases k with
      | deepSleep => exact List.mem_append_left _ (hkeep .deepSleep c' nofun hact)
      | reboot => cases hk rfl

/-- In every run of the process the entry times of the active zones are times of readings. -/
theorem entered_run (h : (thermal build).Run .start ls os p) : Entered (times ls) p := by
  refine h.induction_along (C := fun _ _ => True) (I := fun ls _ p => Entered (times ls) p)
    (fun _ _ _ _ _ _ _ => trivial) ?_ ?_
  · intro k c hk hact
    cases k with
    | deepSleep => cases hact
    | reboot => cases hk rfl
  · intro ls os q l q' os' hrun hE _ hstep
    exact entered_step hE hstep

/-! ## The result -/

/-- The readings of the process come in the order of their times. -/
def Chronological (ls : List Label) : Prop := (times ls).Pairwise (· ≤ ·)

instance (ls : List Label) : Decidable (Chronological ls) :=
  inferInstanceAs (Decidable (List.Pairwise _ _))

/-- The turns begin and end with a reading, all their readings reach `concern`, and they take at
least the grace interval. -/
def Thresholds.Sustained (t : Thresholds) (turns : List Turn) : Prop :=
  ∃ a b, turns.head? = some (.read a) ∧ turns.getLast? = some (.read b) ∧
    (∀ r, .read r ∈ turns → (t.concern : ℚ) ≤ r.temperature) ∧
    b.now - a.now ≥ t.graceInterval * 1000000

/-- Sustained overheating triggers protection: whatever has happened in the process before, and
whenever the episode begins, a controller with the given configuration requests protection in every
episode of turns in which the readings reach `concern` for the grace interval. -/
def Protects (build : Build) (k : Protection) (cfg : Configuration) : Prop :=
  ∀ (history : List Label) (before episode : List Turn) (os os' : List Action) (p p' : Process),
    (thermal build).Run .start (history ++ .create cfg :: before.map .poll) os p →
    (thermal build).Run p (episode.map .poll) os' p' →
    Chronological (history ++ .create cfg :: before.map .poll ++ episode.map .poll) →
    (k.thresholds (ThermalController.create build cfg).1).Sustained episode →
    ∃ a ∈ os', k.isRequest a = true

/-- The state after a controller has been created and polled. -/
theorem created_run {history : List Label} {before : List Turn}
    (h : (thermal build).Run .start (history ++ .create cfg :: before.map .poll) os p) :
    ∃ c, p.controller = some c ∧
      ∀ k : Protection, k.thresholds c = k.thresholds (ThermalController.create build cfg).1 := by
  obtain ⟨q, os₁, os₂, -, -, hrun⟩ := h.split
  obtain ⟨q', os₃, os₄, -, hstep, hpolls⟩ := hrun.cons_inv
  have hq' : q'.controller = some (ThermalController.create build cfg).1 := by
    cases hq : q.controller with
    | none =>
      simp only [thermal, hq] at hstep
      cases hstep
      rfl
    | some c => simp [thermal, hq] at hstep
  obtain ⟨c, hc, -, hk⟩ := polls_run hq' hpolls
  exact ⟨c, hc, fun k => (hk k).1⟩

/-- Thresholds in order protect the device. -/
theorem protects_of_ordered
    (hg : (k.thresholds (ThermalController.create build cfg).1).graceInterval ≠ 0)
    (hord : (k.thresholds (ThermalController.create build cfg).1).safe ≤
        (k.thresholds (ThermalController.create build cfg).1).concern ∨
      (k.thresholds (ThermalController.create build cfg).1).critical ≤
        (k.thresholds (ThermalController.create build cfg).1).concern) :
    Protects build k cfg := by
  intro history before episode os os' p p' hbefore hepisode hchron ⟨a, b, ha, hb, hhigh, htime⟩
  obtain ⟨c, hc, hk⟩ := created_run hbefore
  obtain ⟨c', -, -, hpolls⟩ := polls_run hc hepisode
  obtain ⟨-, hcount⟩ := (hpolls k).2 (by rw [hk]; exact hg)
  rw [hk] at hcount
  obtain ⟨rest, rfl⟩ : ∃ rest, episode = .read a :: rest := by
    cases episode with
    | nil => cases ha
    | cons t rest => exact ⟨rest, by rw [Option.some.inj ha]⟩
  -- the zone that is active when the episode begins was entered before
  have hsince : ∀ since, since = a.now ∨
      (k.zone c p.statics).active = true ∧ since = (k.zone c p.statics).since → since ≤ a.now := by
    rintro since (rfl | ⟨hact, rfl⟩)
    · exact le_refl _
    · have hmem := entered_run hbefore k c (fun _ => hc) hact
      rw [Chronological, times, List.filterMap_append, List.pairwise_append] at hchron
      exact hchron.2.2 _ hmem a.now (by simp [Label.time?])
  -- the readings of the episode are those of `Hysteresis.total_pos`
  have hpos : 0 < os'.countP k.isRequest := by
    rw [hcount]
    refine Hysteresis.total_pos (truncate a.temperature, a.now) (truncate b.temperature, b.now) hord
      rfl ?_ ?_ ?_
    · obtain ⟨init, hinit⟩ := List.getLast?_eq_some_iff.mp hb
      rw [hinit, samples_append]
      exact List.getLast?_concat
    · intro s hs
      obtain ⟨t, ht, hread⟩ := List.mem_filterMap.mp hs
      cases t with
      | read r =>
        obtain rfl : (truncate r.temperature, r.now) = s := Option.some.inj hread
        exact le_truncate (hhigh r ht)
      | _ => cases hread
    · intro since hs
      have hle := hsince since hs
      rw [Thresholds.due_iff, tvSec, tvSec]
      omega
  obtain ⟨act, hact, hreq⟩ := List.countP_pos_iff.mp hpos
  exact ⟨act, hact, hreq⟩

/-- The step that creates a controller. -/
theorem step_create (st : Statics) (build : Build) (cfg : Configuration) :
    (thermal build).step ⟨st, none⟩ (.create cfg) =
      some (⟨st, some (ThermalController.create build cfg).1⟩,
        (ThermalController.create build cfg).2) := rfl

/-- A controller with `concern` below both `safe` and `critical` leaves the zone at a reading that
has not fallen below `concern`, and does not protect the device. -/
theorem not_protects_of_disordered
    (henabled : (ThermalController.create build cfg).1.isFeatureEnabled = true)
    (hg : (k.thresholds (ThermalController.create build cfg).1).graceInterval ≠ 0)
    (hsafe : (k.thresholds (ThermalController.create build cfg).1).concern <
      (k.thresholds (ThermalController.create build cfg).1).safe)
    (hcritical : (k.thresholds (ThermalController.create build cfg).1).concern <
      (k.thresholds (ThermalController.create build cfg).1).critical) :
    ¬Protects build k cfg := by
  generalize hc : (ThermalController.create build cfg).1 = c at *
  generalize ht : k.thresholds c = t at *
  have hstart : (k.zone c .zero).active = false := by
    cases k with
    | deepSleep => rfl
    | reboot => rw [← hc]; exact create_rebootZone build cfg
  intro hprotects
  -- it is enough to find an episode that raises no alarm
  have hquiet : ∀ (before episode : List Turn), t.Sustained episode →
      Chronological ((before ++ episode).map .poll) →
      t.hysteresis.total (t.hysteresis.after (k.zone c .zero) (samples before))
        (samples episode) ≠ 0 := by
    intro before episode hsustained hchron hzero
    obtain ⟨os, p, hbefore⟩ := exists_polls_run build (p := ⟨.zero, some c⟩) rfl henabled
      before
    obtain ⟨c', hc', hen', hk'⟩ := polls_run rfl hbefore
    obtain ⟨os', p', hepisode⟩ := exists_polls_run build hc' (hen'.trans henabled) episode
    obtain ⟨ht', hz'⟩ := hk' k
    rw [ht] at ht' hz'
    obtain ⟨_, -, -, hk''⟩ := polls_run hc' hepisode
    obtain ⟨-, hcount⟩ := (hk'' k).2 (by rw [ht']; exact hg)
    rw [ht', (hz' hg).1, hzero] at hcount
    have hcreate := step_create .zero build cfg
    rw [hc] at hcreate
    rw [List.map_append] at hchron
    obtain ⟨a, ha, hreq⟩ := hprotects [] before episode _ _ _ _ (.cons hcreate hbefore) hepisode
      hchron (by rw [hc, ht]; exact hsustained)
    exact List.countP_eq_zero.mp hcount a ha hreq
  have hsamples : ∀ now, samples [.read (.at t.concern now)] = [(t.concern, now * 1000000)] := by
    intro now
    simp [samples, Turn.reading?, Reading.at]
  have henter : ∀ z : Zone ℤ, z.active = false → ∀ now,
      t.hysteresis.move z t.concern now = ⟨true, now⟩ :=
    fun z hz now => Hysteresis.move_of_inactive hz (le_refl t.concern) hcritical
  have hexit : ∀ since now, t.hysteresis.alarms ⟨true, since⟩ t.concern now = 0 :=
    fun since now => (Hysteresis.alarms_of_exit rfl hsafe hcritical).1
  rcases lt_or_gt_of_ne hg with hneg | hpos
  · -- the first reading enters the zone and triggers protection, the second one leaves the zone
    refine hquiet [.read (.at t.concern 0)] [.read (.at t.concern 0)] ?_ ?_ ?_
    · refine ⟨_, _, rfl, rfl, ?_, ?_⟩
      · intro r hr
        obtain rfl : r = .at t.concern 0 := by simpa using hr
        exact le_refl _
      · simp only [sub_self, ge_iff_le]
        omega
    · simp [Chronological, times, Label.time?]
    · rw [hsamples, Hysteresis.after_cons, henter _ hstart, Hysteresis.after_nil,
        Hysteresis.total_cons, hexit]
      rfl
  · -- the first reading enters the zone, the second one, after the grace interval, leaves it
    refine hquiet [] [.read (.at t.concern 0), .read (.at t.concern t.graceInterval)]
      ?_ ?_ ?_
    · refine ⟨_, _, rfl, rfl, ?_, ?_⟩
      · intro r hr
        obtain rfl | rfl : r = .at t.concern 0 ∨ r = .at t.concern t.graceInterval := by
          simpa using hr
        · exact le_refl _
        · exact le_refl _
      · simp [Reading.at]
    · have hle : 0 ≤ t.graceInterval * 1000000 := by omega
      simpa [Chronological, times, Label.time?, Reading.at] using hle
    · have hnotdue : t.hysteresis.due 0 0 = false := by
        simpa [Thresholds.hysteresis, tvSec] using hpos
      have hfirst : t.hysteresis.alarms (k.zone c .zero) t.concern 0 = 0 := by
        rw [Hysteresis.alarms_of_entry hstart (le_refl t.concern) hcritical, hnotdue]
        rfl
      have hnil : samples [] = [] := rfl
      rw [hnil, Hysteresis.after_nil, ← List.singleton_append, samples_append, hsamples, hsamples,
        zero_mul, Hysteresis.total_append, Hysteresis.total_cons, Hysteresis.total_nil, hfirst,
        Hysteresis.after_cons, Hysteresis.after_nil, henter _ hstart, Hysteresis.total_cons, hexit]
      rfl

/-- When sustained overheating triggers protection: for both checks and every configuration with a
grace interval that is not zero, exactly if `safe` or `critical` is not above `concern`. -/
theorem protects_iff
    (henabled : (ThermalController.create build cfg).1.isFeatureEnabled = true)
    (hg : (k.thresholds (ThermalController.create build cfg).1).graceInterval ≠ 0) :
    Protects build k cfg ↔
      (k.thresholds (ThermalController.create build cfg).1).safe ≤
          (k.thresholds (ThermalController.create build cfg).1).concern ∨
        (k.thresholds (ThermalController.create build cfg).1).critical ≤
          (k.thresholds (ThermalController.create build cfg).1).concern := by
  refine ⟨fun hprotects => ?_, protects_of_ordered hg⟩
  by_contra hno
  rw [not_or, not_le, not_le] at hno
  exact not_protects_of_disordered henabled hg hno.1 hno.2 hprotects

/-- The built-in thresholds protect the device, by deep sleep and by reboot. -/
theorem protects_of_defaults :
    Protects ⟨false, false⟩ .deepSleep (.ofProperties fun _ => none) ∧
      Protects ⟨false, false⟩ .reboot (.ofProperties fun _ => none) :=
  ⟨(protects_iff (by decide +kernel) (by decide +kernel)).mpr (.inl (by decide +kernel)),
    (protects_iff (by decide +kernel) (by decide +kernel)).mpr (.inl (by decide +kernel))⟩

/-- Only the level `concern` of deep sleep is configured, and lowered to 80 degrees. -/
def Configuration.lowConcern : Configuration :=
  .ofProperties fun
    | .deepsleepConcernThreshold => some 80
    | _ => none

/-- At 90 degrees, read every 30 seconds for ten minutes, such a device is never put to deep sleep,
although all its readings reach `concern` for the grace interval of 600 seconds. -/
theorem not_protects_of_lowConcern :
    (ThermalController.create ⟨false, false⟩ .lowConcern).1.deepsleepThreshold =
        ⟨115, 80, 100, 600⟩ ∧
      ¬Protects ⟨false, false⟩ .deepSleep .lowConcern := by
  refine ⟨by decide +kernel, fun hprotects => ?_⟩
  let episode : List Turn := (List.range 21).map fun i : ℕ => .read (.at 90 (30 * i))
  obtain ⟨os', p', hepisode, hquiet⟩ : ∃ os' p', (thermal ⟨false, false⟩).Run
      ⟨.zero, some (ThermalController.create ⟨false, false⟩ .lowConcern).1⟩ (episode.map .poll)
      os' p' ∧ ∀ a ∈ os', Protection.deepSleep.isRequest a = false :=
    Machine.exists_outputs_of_exec (by decide +kernel)
  have hconcern : (Protection.deepSleep.thresholds
      (ThermalController.create ⟨false, false⟩ .lowConcern).1).concern = 80 := by decide +kernel
  have hhigh : ∀ r, Turn.read r ∈ episode → ((80 : ℤ) : ℚ) ≤ r.temperature := by
    intro r hr
    obtain ⟨i, -, hi⟩ := List.mem_map.mp hr
    rw [← Turn.read.inj hi]
    exact Int.cast_le.mpr (by decide : (80 : ℤ) ≤ 90)
  obtain ⟨a, ha, hreq⟩ := hprotects [] [] episode _ _ _ _ (.single (step_create .zero _ _)) hepisode
    (by decide +kernel)
    ⟨.at 90 0, .at 90 600, rfl, rfl, by rw [hconcern]; exact hhigh, by decide +kernel⟩
  exact Bool.false_ne_true ((hquiet a ha).symm.trans hreq)

end PowerManager.Thermal
