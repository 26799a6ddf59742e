import PowerManager.ThermalController.Protection

/-!
# Is the recorded clock speed the real one?

`declockIfNeeded` decides by `cur_Cpu_Speed`, the member documented as the current clocking mode of
the CPU. It records the speed that it asks for, whether or not `SetClockSpeed` succeeds, and the
constructor records the normal speed without asking the platform for the real one.

The platform's speed is followed from outside: `platformSpeed` reads it off the actions of the
controller. `speedRecorded_iff` says when the record is right in every state of a run: exactly if
the CPU ran at the normal speed when the controller was created, and no `SetClockSpeed` fails that
asks for another speed than the recorded one. `speed_poll` is the step behind it.
-/

namespace PowerManager.Thermal

/-- The speed of the platform after some actions: a successful `SetClockSpeed` changes it, a failed
one does not. -/
def platformSpeed (speed : UInt32) (os : List Action) : UInt32 :=
  os.foldl (fun speed a =>
    match a with
    | .setClockSpeed speed' .errorNone => speed'
    | _ => speed) speed

/-- At this reading `declockIfNeeded` switches to the given speed. -/
def ThermalController.SwitchesTo (c : ThermalController) (value monitorTime now : ℤ)
    (speed : UInt32) : Prop :=
  let t := c.declockThreshold
  let elapsed := tvSec now - tvSec monitorTime ≥ t.graceInterval
  value ≥ t.critical ∧ c.curCpuSpeed ≠ c.platCpuSpeedMinimal ∧ speed = c.platCpuSpeedMinimal ∨
    value < t.critical ∧ value ≥ t.concern ∧ c.curCpuSpeed = c.platCpuSpeedNormal ∧
      speed = c.platCpuSpeedScaled ∨
    value < t.critical ∧ value < t.concern ∧ value > t.safe ∧
      c.curCpuSpeed = c.platCpuSpeedMinimal ∧ elapsed ∧ speed = c.platCpuSpeedScaled ∨
    value < t.critical ∧ value < t.concern ∧ value ≤ t.safe ∧
      c.curCpuSpeed ≠ c.platCpuSpeedNormal ∧ elapsed ∧ speed = c.platCpuSpeedNormal

/-- Declocking is enabled. -/
structure DeclockingEnabled (build : Build) (cfg : Configuration) : Prop where
  isFeatureEnabled : (ThermalController.create build cfg).1.isFeatureEnabled = true
  logic : build.disableDeclockingLogic = false
  graceInterval : (ThermalController.create build cfg).1.declockThreshold.graceInterval > 0

/-- No `SetClockSpeed` fails at this step, unless it asks for the speed that is recorded anyway. -/
def NoFailedSwitch (p : Process) : Label → Prop
  | .poll (.read r) => r.clockSpeedResult = .errorNone ∨ ∀ c speed, p.controller = some c →
      c.SwitchesTo (truncate r.temperature) p.statics.declockMonitorTime r.now speed →
        speed = c.curCpuSpeed
  | _ => True

/-- After the creation of a controller on a platform with the given speed, and after every turn, the
recorded speed is that of the platform. -/
def SpeedRecorded (build : Build) (cfg : Configuration) (st : Statics) (speed : UInt32)
    (turns : List Turn) : Prop :=
  ∀ (pre post : List Turn) (os : List Action) (p : Process) (c : ThermalController),
    turns = pre ++ post → (thermal build).Run ⟨st, none⟩ (.create cfg :: pre.map .poll) os p →
    p.controller = some c → c.curCpuSpeed = platformSpeed speed os

variable {build : Build} {cfg : Configuration} {c : ThermalController} {st : Statics}
  {p p' : Process} {os os' : List Action} {turns : List Turn} {speed : UInt32}

/-! ## The speed of the platform -/

theorem platformSpeed_append :
    platformSpeed speed (os ++ os') = platformSpeed (platformSpeed speed os) os' := by
  rw [platformSpeed, List.foldl_append]
  rfl

/-- Actions other than `SetClockSpeed` leave the speed alone. -/
theorem platformSpeed_of_none (h : os.countP Action.isSetClockSpeed = 0) :
    platformSpeed speed os = speed := by
  induction os with
  | nil => rfl
  | cons a os ih =>
    rw [List.countP_eq_zero] at h ih
    have hrest : platformSpeed speed os = speed := ih fun a' ha' => h a' (.tail _ ha')
    have ha := h a (.head _)
    cases a with
    | setClockSpeed s r => exact absurd rfl ha
    | _ => exact hrest

/-! ## One poll -/

/-- The decision of `declockIfNeeded` in terms of the reading. -/
theorem decision_eq_some_iff (speed : UInt32) (hdis : build.disableDeclockingLogic = false)
    (hg : c.declockThreshold.graceInterval ≠ 0) (value monitorTime now : ℤ) :
    (c.declockDecision build value monitorTime now).1 = some speed ↔
      c.SwitchesTo value monitorTime now speed := by
  unfold ThermalController.declockDecision ThermalController.SwitchesTo
  rw [if_neg (by simp [hdis]), if_neg hg]
  -- the levels from the highest one down, each with the speeds at which it switches
  by_cases hcritical : value ≥ c.declockThreshold.critical
  · rw [if_pos hcritical]
    have hlt : ¬value < c.declockThreshold.critical := not_lt.mpr hcritical
    by_cases hmin : c.curCpuSpeed = c.platCpuSpeedMinimal
    · simp [hcritical, hlt, hmin]
    · simp [hcritical, hlt, hmin, eq_comm]
  have hcritical' : value < c.declockThreshold.critical := not_le.mp hcritical
  rw [if_neg hcritical]
  by_cases hconcern : value ≥ c.declockThreshold.concern
  · rw [if_pos hconcern]
    have hlt : ¬value < c.declockThreshold.concern := not_lt.mpr hconcern
    by_cases hnormal : c.curCpuSpeed = c.platCpuSpeedNormal
    · simp [hcritical, hcritical', hconcern, hlt, hnormal, eq_comm]
    · simp [hcritical, hlt, hnormal]
  have hconcern' : value < c.declockThreshold.concern := not_le.mp hconcern
  rw [if_neg hconcern]
  by_cases hsafe : value > c.declockThreshold.safe
  · rw [if_pos hsafe]
    have hle : ¬value ≤ c.declockThreshold.safe := not_le.mpr hsafe
    split_ifs with hmin hover
    · simp [hcritical, hcritical', hconcern, hconcern', hsafe, hle, hmin, hover, eq_comm]
    · simp [hcritical, hconcern, hle, hover]
    · simp [hcritical, hconcern, hle, hmin]
  · rw [if_neg hsafe]
    have hle : value ≤ c.declockThreshold.safe := not_lt.mp hsafe
    split_ifs with hnormal hover
    · simp [hcritical, hcritical', hconcern, hconcern', hsafe, hle, hnormal, hover, eq_comm]
    · simp [hcritical, hconcern, hsafe, hover]
    · simp [hcritical, hconcern, hsafe, hnormal]

/-- A poll leaves the thresholds of declocking alone. -/
theorem declockThreshold_poll (turn : Turn) :
    (c.pollThermalLevels build st turn).1.declockThreshold = c.declockThreshold := by
  cases turn with
  | deepSleep => rfl
  | failed => rfl
  | read r =>
    rw [pollThermalLevels_read]
    rfl

/-- A turn that finds the recorded speed right leaves it right exactly if no switch to another speed
fails. -/
theorem speed_poll (hdis : build.disableDeclockingLogic = false)
    (hg : c.declockThreshold.graceInterval ≠ 0) (hc : p.controller = some c) (turn : Turn) :
    (c.pollThermalLevels build p.statics turn).1.curCpuSpeed =
        platformSpeed c.curCpuSpeed (c.pollThermalLevels build p.statics turn).2.2 ↔
      NoFailedSwitch p (.poll turn) := by
  cases turn with
  | deepSleep => exact iff_of_true rfl trivial
  | failed => exact iff_of_true rfl trivial
  | read r =>
    obtain ⟨os, hos, he⟩ := outputs_poll_read c build p.statics r
    have hspeed : (c.pollThermalLevels build p.statics (.read r)).1.curCpuSpeed =
        (c.declockDecision build (truncate r.temperature) p.statics.declockMonitorTime r.now).1.getD
          c.curCpuSpeed := by
      rw [pollThermalLevels_read]
    have hswitch := fun speed => decision_eq_some_iff speed hdis hg (truncate r.temperature)
      p.statics.declockMonitorTime r.now
    rw [hspeed, he, platformSpeed_append, platformSpeed_of_none hos]
    simp only [NoFailedSwitch, hc, Option.some.injEq]
    cases hd : (c.declockDecision build (truncate r.temperature) p.statics.declockMonitorTime
        r.now).1 with
    | none =>
      -- no call, and so none that fails
      refine iff_of_true rfl (.inr ?_)
      rintro c' speed rfl hsw
      rw [← hswitch, hd] at hsw
      cases hsw
    | some speed =>
      by_cases hresult : r.clockSpeedResult = .errorNone
      · refine iff_of_true ?_ (.inl hresult)
        rw [hresult]
        rfl
      · -- the failed call leaves the platform at the speed that was recorded before
        have hkeep : platformSpeed c.curCpuSpeed
            ((some speed).toList.map (.setClockSpeed · r.clockSpeedResult)) = c.curCpuSpeed := by
          cases hr : r.clockSpeedResult <;> first | rfl | exact absurd hr hresult
        rw [hkeep]
        constructor
        · rintro hsame
          refine .inr ?_
          rintro c' speed' rfl hsw
          rw [← hswitch, hd] at hsw
          rw [← Option.some.inj hsw]
          exact hsame
        · intro h
          exact (h.resolve_left hresult) c speed rfl ((hswitch speed).mp hd)

/-! ## Runs -/

/-- The recorded speed is that of the platform in every state of a run of polls. -/
def RightThroughout (build : Build) (p : Process) (speed : UInt32) (turns : List Turn) : Prop :=
  ∀ (pre post : List Turn) (os : List Action) (q : Process) (c : ThermalController),
    turns = pre ++ post → (thermal build).Run p (pre.map .poll) os q →
    q.controller = some c → c.curCpuSpeed = platformSpeed speed os

/-- The record is right throughout a run if it is right at the start and after the first turn, and
throughout the rest. -/
theorem rightThroughout_cons {turn : Turn} {q : Process} {c' : ThermalController}
    (hc : p.controller = some c) (hc' : q.controller = some c')
    (hstep : (thermal build).step p (.poll turn) = some (q, os)) :
    RightThroughout build p c.curCpuSpeed (turn :: turns) ↔
      c'.curCpuSpeed = platformSpeed c.curCpuSpeed os ∧
        RightThroughout build q c'.curCpuSpeed turns := by
  constructor
  · intro h
    have hfirst := h [turn] turns os q c' rfl (.single hstep) hc'
    refine ⟨hfirst, fun pre post os' u d hcut hrun hd => ?_⟩
    rw [hfirst, ← platformSpeed_append]
    exact h (turn :: pre) post _ u d (by rw [hcut, List.cons_append]) (.cons hstep hrun) hd
  · rintro ⟨hfirst, hrest⟩ pre post os' u d hcut hrun hd
    -- a state of the run is the first one, or one of the rest
    cases pre with
    | nil =>
      obtain ⟨rfl, rfl⟩ := hrun.nil_inv
      rw [Option.some.inj (hd.symm.trans hc)]
      rfl
    | cons turn' pre =>
      obtain ⟨rfl, rfl⟩ : turn = turn' ∧ turns = pre ++ post := by simpa using hcut
      obtain ⟨v, os₁, os₂, rfl, hstep', hrun'⟩ := hrun.cons_inv
      rw [hstep, Option.some.injEq, Prod.mk.injEq] at hstep'
      obtain ⟨rfl, rfl⟩ := hstep'
      rw [platformSpeed_append, ← hfirst]
      exact hrest pre post os₂ u d rfl hrun' hd

/-- In a run of polls that finds the recorded speed right it stays right exactly if no switch to
another speed fails. -/
theorem speed_run (hdis : build.disableDeclockingLogic = false)
    (hg : c.declockThreshold.graceInterval ≠ 0) (hc : p.controller = some c)
    (hrun : (thermal build).Run p (turns.map .poll) os p') :
    RightThroughout build p c.curCpuSpeed turns ↔
      (thermal build).Along NoFailedSwitch p (turns.map .poll) := by
  induction turns generalizing c p os with
  | nil =>
    refine iff_of_true ?_ ?_
    · intro pre post os q c' hcut hrun' hc'
      obtain ⟨rfl, -⟩ := List.append_eq_nil_iff.mp hcut.symm
      obtain ⟨rfl, rfl⟩ := hrun'.nil_inv
      rw [Option.some.inj (hc'.symm.trans hc)]
      rfl
    · intro pre l post os q hcut
      simp at hcut
  | cons turn turns ih =>
    obtain ⟨q, os₁, os₂, rfl, hstep, hrest⟩ := hrun.cons_inv
    obtain ⟨-, rfl, rfl⟩ := step_poll hc hstep
    have hg' : (c.pollThermalLevels build p.statics turn).1.declockThreshold.graceInterval ≠ 0 := by
      rw [declockThreshold_poll]
      exact hg
    rw [rightThroughout_cons hc rfl hstep, List.map_cons, Machine.along_cons hstep,
      speed_poll hdis hg hc turn, ih hg' rfl hrest]

/-! ## The result -/

/-- A controller with declocking enabled records the normal speed when it is created. -/
theorem create_curCpuSpeed (h : DeclockingEnabled build cfg) :
    (ThermalController.create build cfg).1.curCpuSpeed =
      (ThermalController.create build cfg).1.platCpuSpeedNormal := by
  obtain ⟨henabled, hdis, hg⟩ := h
  simp only [ThermalController.create, ThermalController.initializeThermalProtection] at *
  split at henabled
  · rename_i hfeature
    simp only [if_pos hfeature, hdis, Bool.false_eq_true, if_false] at hg ⊢
    unfold ThermalController.initializeDeclocking at hg ⊢
    split at hg
    · rename_i hpos
      rw [if_pos hpos]
    · rename_i hneg
      exact absurd hg hneg
  · rename_i hfeature
    exact absurd henabled hfeature

/-- The creation of a controller does not set the clock speed. -/
theorem platformSpeed_create :
    platformSpeed speed (ThermalController.create build cfg).2 = speed := by
  apply platformSpeed_of_none
  simp only [ThermalController.create, ThermalController.initializeThermalProtection]
  split <;> rfl

/-- When the recorded CPU speed is the real one. With declocking enabled, in every run of polls of a
new controller, on a platform with any speed and with any failures of `SetClockSpeed`: the recorded
speed is that of the platform after the creation and after every turn exactly if the platform ran at
the normal speed at the creation, and no `SetClockSpeed` fails that asks for another speed than the
recorded one. -/
theorem speedRecorded_iff (henabled : DeclockingEnabled build cfg)
    (hrun : (thermal build).Run ⟨st, none⟩ (.create cfg :: turns.map .poll) os p) :
    SpeedRecorded build cfg st speed turns ↔
      speed = (ThermalController.create build cfg).1.platCpuSpeedNormal ∧
        (thermal build).Along NoFailedSwitch ⟨st, none⟩ (.create cfg :: turns.map .poll) := by
  have hcreate := step_create st build cfg
  have hnormal := create_curCpuSpeed henabled
  have hg : (ThermalController.create build cfg).1.declockThreshold.graceInterval ≠ 0 :=
    ne_of_gt henabled.graceInterval
  obtain ⟨q, os₁, os₂, -, hstep, hpolls⟩ := hrun.cons_inv
  rw [hcreate] at hstep
  cases hstep
  rw [Machine.along_cons hcreate, ← speed_run henabled.logic hg rfl hpolls, hnormal]
  constructor
  · intro h
    have hfirst := h [] turns _ _ _ rfl (.single hcreate) rfl
    rw [platformSpeed_create, hnormal] at hfirst
    refine ⟨hfirst.symm, trivial, fun pre post os q c hcut hrun' hc => ?_⟩
    have hright := h pre post _ q c hcut (.cons hcreate hrun') hc
    rwa [platformSpeed_append, platformSpeed_create, ← hfirst] at hright
  · rintro ⟨rfl, -, h⟩ pre post os q c hcut hrun' hc
    obtain ⟨q', os₃, os₄, rfl, hstep, hpolls'⟩ := hrun'.cons_inv
    rw [hcreate] at hstep
    cases hstep
    rw [platformSpeed_append, platformSpeed_create]
    exact h pre post os₄ q c hcut hpolls' hc

/-- On a platform that never fails no switch fails. -/
theorem along_of_successes (h : ∀ r, Turn.read r ∈ turns → r.clockSpeedResult = .errorNone) :
    (thermal build).Along NoFailedSwitch p (.create cfg :: turns.map .poll) := by
  intro pre l post os q hcut _
  have hl : l ∈ Label.create cfg :: turns.map .poll := by rw [hcut]; simp
  rcases List.mem_cons.mp hl with rfl | hmem
  · trivial
  · obtain ⟨turn, hturn, rfl⟩ := List.mem_map.mp hmem
    cases turn with
    | read r => exact .inl (h r hturn)
    | _ => trivial

/-- With the built-in thresholds and the speeds 1500, 1000 and 500, on a platform that starts at the
normal speed and never fails, the record stays right while the CPU is slowed down and speeded up. -/
theorem speedRecorded_of_successes :
    SpeedRecorded ⟨false, false⟩ (.ofProperties fun _ => none) .zero 1500
      [.read (.at 105 0), .read (.at 112 30), .deepSleep, .read (.at 80 120)] := by
  obtain ⟨os, p, hrun, -⟩ : ∃ os p, (thermal ⟨false, false⟩).Run ⟨.zero, none⟩
      (.create (.ofProperties fun _ => none) ::
        [Turn.read (.at 105 0), .read (.at 112 30), .deepSleep, .read (.at 80 120)].map .poll)
      os p ∧ os.countP Action.isSetClockSpeed = 3 :=
    Machine.exists_outputs_of_exec (by decide +kernel)
  refine (speedRecorded_iff ⟨by decide +kernel, rfl, by decide +kernel⟩ hrun).mpr
    ⟨by decide +kernel, along_of_successes ?_⟩
  intro r hr
  have hread : ∃ value seconds, r = .at value seconds := by
    rcases List.mem_cons.mp hr with h | hr
    · exact ⟨_, _, Turn.read.inj h⟩
    rcases List.mem_cons.mp hr with h | hr
    · exact ⟨_, _, Turn.read.inj h⟩
    rcases List.mem_cons.mp hr with h | hr
    · cases h
    · exact ⟨_, _, Turn.read.inj (List.mem_singleton.mp hr)⟩
  obtain ⟨value, seconds, rfl⟩ := hread
  rfl

/-- The switch to the scaled speed fails at the first reading of 105 degrees. The controller records
the scaled speed, while the CPU goes on at the normal one, and does not try again at the second such
reading. On a platform that runs at the minimal speed when the controller is created, the controller
records the normal speed, and ten minutes at 50 degrees do not return the CPU to it. -/
theorem not_speedRecorded :
    (∃ os p, (thermal ⟨false, false⟩).Run ⟨.zero, none⟩ [.create (.ofProperties fun _ => none),
        .poll (.read { Reading.at 105 0 with clockSpeedResult := .errorGeneral }),
        .poll (.read (.at 105 30))] os p ∧
      platformSpeed 1500 os = 1500 ∧ os.countP Action.isSetClockSpeed = 1 ∧
        p.controller.map (·.curCpuSpeed) = some 1000) ∧
      ¬SpeedRecorded ⟨false, false⟩ (.ofProperties fun _ => none) .zero 1500
        [.read { Reading.at 105 0 with clockSpeedResult := .errorGeneral }] ∧
      (∃ os p, (thermal ⟨false, false⟩).Run ⟨.zero, none⟩
          (.create (.ofProperties fun _ => none) ::
            ((List.range 21).map fun i : ℕ => Turn.read (.at 50 (30 * i))).map .poll) os p ∧
        platformSpeed 500 os = 500 ∧ os.countP Action.isSetClockSpeed = 0) ∧
      ¬SpeedRecorded ⟨false, false⟩ (.ofProperties fun _ => none) .zero 500 [] := by
  refine ⟨Machine.exists_outputs_of_exec (by decide +kernel), fun h => ?_,
    Machine.exists_outputs_of_exec (by decide +kernel), fun h => ?_⟩
  · obtain ⟨os, p, hrun, hspeed, hrecord⟩ : ∃ os p, (thermal ⟨false, false⟩).Run ⟨.zero, none⟩
        [.create (.ofProperties fun _ => none),
          .poll (.read { Reading.at 105 0 with clockSpeedResult := .errorGeneral })] os p ∧
        platformSpeed 1500 os = 1500 ∧ p.controller.map (·.curCpuSpeed) = some 1000 :=
      Machine.exists_outputs_of_exec (by decide +kernel)
    obtain ⟨c, hc, hcur⟩ := Option.map_eq_some_iff.mp hrecord
    have hsame := h [_] [] os p c rfl hrun hc
    rw [hcur, hspeed] at hsame
    exact absurd hsame (by decide)
  · have hsame := h [] [] _ _ _ rfl (.single (step_create _ _ _)) rfl
    exact absurd hsame (by decide +kernel)

end PowerManager.Thermal
