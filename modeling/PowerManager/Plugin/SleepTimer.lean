import PowerManager.Implementation.DelayPeriods
import PowerManager.Plugin.WakeUp
import PowerManager.PowerController.Storage

/-!
# The sleep timer

`SetDeepSleepTimer` sets the timeout of the activations that follow. A number of seconds above those
of a day is replaced by zero. One below zero is not, and the cast to an unsigned number makes a
timeout of more than 68 years out of it.

The timeout passes through the power controller, `Activate`, the worker pool and `performActivate`
before the platform is called with it. `programs_iff` says of every platform call of an activation
after the call of `SetDeepSleepTimer` that its timeout is as it should be exactly if the number is
not negative.
-/

namespace PowerManager

/-- `PowerController::SetDeepSleepTimer`, without the saves. -/
def PowerController.setDeepSleepTimer (pc : PowerController) (timeOut : Int32) : PowerController :=
  { pc with
    isDeepSleepTimeoutSet := true
    settings := pc.settings.setDeepSleepTimeout timeOut.toUInt32 }

/-- The saves leave the controller alone. -/
example (T : Target) (s : Stored) (io io' : FileIO) (timeOut : Int32) :
    (s.setDeepSleepTimer T io io' timeOut).2.controller = s.controller.setDeepSleepTimer timeOut :=
  rfl

namespace Implementation

/-- The number of seconds that is handed on. -/
def timeOutVal (timeOut : Int32) : Int32 := if timeOut > 86400 then 0 else timeOut

/-- `PowerManagerImplementation::SetDeepSleepTimer`. -/
def setDeepSleepTimer (pm : Implementation) (timeOut : Int32) : Implementation :=
  { pm with powerController := pm.powerController.setDeepSleepTimer (timeOutVal timeOut) }

end Implementation

/-- A timeout that the platform should be given after a call of `SetDeepSleepTimer`: at most a day,
and the number of seconds of the call if that is at most a day. -/
structure Programs (timeOut : Int32) (timeout : UInt32) : Prop where
  le : timeout.toNat ≤ 86400
  eq : 0 ≤ timeOut.toInt → timeOut.toInt ≤ 86400 → (timeout.toNat : ℤ) = timeOut.toInt

/-- What is handed on is as it should be, unless it is negative. -/
theorem programs_timeOutVal_iff (timeOut : Int32) :
    Programs timeOut (Implementation.timeOutVal timeOut).toUInt32 ↔ 0 ≤ timeOut.toInt := by
  have hlt : timeOut.toInt < 2 ^ 31 := timeOut.toInt_lt
  have hge : -2 ^ 31 ≤ timeOut.toInt := timeOut.le_toInt
  have hday : (86400 : Int32).toInt = 86400 := rfl
  have hcast := toNat_toUInt32 timeOut
  unfold Implementation.timeOutVal
  split
  -- more than a day is replaced by zero
  · rename_i hlong
    rw [gt_iff_lt, Int32.lt_iff_toInt_lt, hday] at hlong
    refine ⟨fun _ => by omega, fun _ => ⟨by decide, fun _ hle => by omega⟩⟩
  -- a negative number gets here as well
  · rename_i hshort
    rw [gt_iff_lt, Int32.lt_iff_toInt_lt, hday] at hshort
    constructor
    · intro h
      have hle := h.le
      omega
    · exact fun h => ⟨by omega, fun _ _ => by omega⟩

/-! ## The implementation -/

/-- The timeout has been set, to `v`. -/
structure PowerController.TimerSet (v : UInt32) (pc : PowerController) : Prop where
  isSet : pc.isDeepSleepTimeoutSet = true
  timeout : pc.settings.deepSleepTimeout = v

variable {v : UInt32}

namespace PowerController

variable {pc : PowerController}

/-- The call sets the timeout. -/
theorem timerSet_setDeepSleepTimer (pc : PowerController) (timeOut : Int32) :
    (pc.setDeepSleepTimer timeOut).TimerSet timeOut.toUInt32 :=
  ⟨rfl, rfl⟩

theorem TimerSet.deepSleepTimeout_eq (h : pc.TimerSet v) (env : Environment) :
    pc.deepSleepTimeout env = v := by
  rw [deepSleepTimeout, if_pos h.isSet, h.timeout]

/-- `SetPowerState` keeps it. -/
theorem TimerSet.setPowerState (h : pc.TimerSet v) (env : Environment) (s : PowerState) :
    (pc.setPowerState env s).2.1.TimerSet v := by
  have hkeep : (pc.settings.setPowerState s env.now).deepSleepTimeout =
      pc.settings.deepSleepTimeout := by
    unfold Settings.setPowerState
    split <;> rfl
  unfold PowerController.setPowerState
  split_ifs
  · exact h
  · exact h
  · exact ⟨h.isSet, hkeep.trans h.timeout⟩

end PowerController

namespace Implementation

variable {pm pm' : Implementation} {es : List Event} {l : Label}

/-- The timeout is still set to `v`, and is the one that deep sleep is activated with. -/
structure HandsOn (v : UInt32) (r : Implementation × List Event) : Prop where
  timerSet : r.1.powerController.TimerSet v
  activate : ∀ t nw, .activate t nw ∈ r.2 → t = v

/-- Events without an activation hand nothing on. -/
theorem HandsOn.of_other (h : pm.powerController.TimerSet v) (hes : ∀ t nw, .activate t nw ∉ es) :
    HandsOn v (pm, es) :=
  ⟨h, fun t nw hmem => absurd hmem (hes t nw)⟩

/-- Nor do they after what has been handed on. -/
theorem HandsOn.append {es' : List Event} (h : HandsOn v (pm, es))
    (hpc : pm'.powerController = pm.powerController) (hes' : ∀ t nw, .activate t nw ∉ es') :
    HandsOn v (pm', es ++ es') := by
  refine ⟨hpc ▸ h.timerSet, fun t nw hmem => ?_⟩
  rcases List.mem_append.mp hmem with hmem | hmem
  · exact h.activate t nw hmem
  · exact absurd hmem (hes' t nw)

theorem handsOn_setDevicePowerState (h : pm.powerController.TimerSet v) (env : Environment)
    (s n : PowerState) : HandsOn v (pm.setDevicePowerState env s n) := by
  have hset := h.setPowerState env n
  have hsave : ∀ (settings : Option Settings) t nw,
      .activate t nw ∉ settings.toList.map Event.save := by
    intro settings t nw
    cases settings <;> simp
  unfold setDevicePowerState
  dsimp only
  split_ifs
  · exact .of_other hset fun t nw => by simp [hsave]
  · refine ⟨hset, fun t nw hmem => ?_⟩
    -- the activation takes what `timeout` returns
    obtain ⟨rfl, -⟩ : t = (pm.powerController.setPowerState env n).2.1.deepSleepTimeout env ∧
        _ := by simpa [hsave] using hmem
    exact hset.deepSleepTimeout_eq env
  · exact .of_other hset fun t nw => by simp [hsave]

theorem handsOn_completionHandler (h : pm.powerController.TimerSet v) (env : Environment)
    (call : HandlerCall CompletionHandler) : HandsOn v (pm.completionHandler env call) := by
  have hset := handsOn_setDevicePowerState h env call.handler.currState call.handler.newState
  have hsettle : HandsOn v (if call.isRevoked then (pm, [])
      else pm.setDevicePowerState env call.handler.currState call.handler.newState) := by
    split
    · exact .of_other h (by simp)
    · exact hset
  unfold completionHandler
  dsimp only
  split
  · exact ⟨hsettle.timerSet, fun t nw hmem => hsettle.activate t nw (by simpa using hmem)⟩
  · exact ⟨hsettle.timerSet, fun t nw hmem => hsettle.activate t nw (by simpa using hmem)⟩

/-- Every step keeps the timeout, and activates deep sleep with no other. -/
theorem handsOn_step (hI : pm.Inv) (hset : pm.powerController.TimerSet v)
    (h : implementation.step pm l = some (pm', es)) : HandsOn v (pm', es) := by
  have hother : ∀ answer : List Event, (∀ e ∈ answer, e.isAnswer = true) →
      ∀ t nw, .activate t nw ∉ answer :=
    fun answer hanswer t nw hmem => by cases hanswer _ hmem
  cases step_cases hI h with
  -- only the completion of a transition activates deep sleep
  | ignored hcall h => exact .of_other hset (by simp)
  | checked hcall h =>
    refine .of_other hset fun t nw => ?_
    split <;> simp
  | dropped hcall h => exact .of_other hset (by simp)
  | installed hcall h hcancel =>
    refine .of_other hset fun t nw => ?_
    rcases hcancel with ⟨rfl, -⟩ | ⟨c, h, -, -, -, rfl⟩ <;> simp
  | scheduled hcall hc hwait => exact .of_other hset (by simp)
  | @completed env n s b t c hcall hc hwait =>
    have hdone := handsOn_completionHandler hset env ⟨⟨s, n, b⟩, false, false⟩
    exact hdone.append rfl fun t nw => by cases b <;> simp
  | waited hop hc happ hrun hh hempty hanswer hclients => exact .of_other hset (hother _ hanswer)
  | @fired l env op c c' hdl isTimedout clients answer hop hc happ hrun hh hrun' hwhy hanswer
      hclients =>
    have hset' : ({ pm with
        modeChangeController := some c'
        modeChangeClients := clients } : Implementation).powerController.TimerSet v := hset
    have hdone := handsOn_completionHandler hset' env ⟨hdl, isTimedout, false⟩
    exact hdone.append rfl (hother _ hanswer)
  | other hl hop hanswer hclients => exact .of_other hset (hother _ hanswer)

end Implementation

/-! ## The deep sleep controller -/

namespace DeepSleepController

variable {ds ds' : DeepSleepController} {es : List Event} {l : Label} {bound : ℕ}

/-- The activations from `bound` on have the timeout `v`, and the platform is given it once one of
them has been admitted. -/
structure Programmed (bound : ℕ) (v : UInt32) (ds : DeepSleepController) : Prop where
  queued : ∀ id ≥ bound, ∀ t nw, ds.phase id = .queued t nw → t = v
  entering : ∀ id ≥ bound, (ds.phase id).Entering → ds.deepSleepWakeupTimeoutSec = v

/-- The step performs only activations from `bound` on, and finds no override. -/
def PerformsFrom (bound : ℕ) (l : Label) : Prop :=
  ∀ id sur, l = .performActivate id sur → bound ≤ id ∧ sur.wakeupTimer = none

/-- An activation that is admitted sets its own timeout if there is no override. -/
theorem timeoutSec_performActivate {id : ℕ} {sur : Surroundings} {timeOut : UInt32} {nw : Bool}
    (hp : ds.phase id = .queued timeOut nw) (hidle : ds.deepSleepState ≠ .inProgress)
    (hplain : sur.wakeupTimer = none)
    (h : deepSleepController.step ds (.performActivate id sur) = some (ds', es)) :
    ds'.deepSleepWakeupTimeoutSec = timeOut := by
  have hidle' : ds.isDeepSleepInProgress = false := decide_eq_false hidle
  simp only [deepSleepController, hp] at h
  obtain ⟨rfl, -⟩ := Prod.mk.inj (Option.some.inj h)
  rw [performActivate_timeoutSec hidle', hplain]
  rfl

/-- Only the phases and the timeout matter. -/
theorem Programmed.congr (h : ds.Programmed bound v) (hphase : ds'.phase = ds.phase)
    (htimeout : ds'.deepSleepWakeupTimeoutSec = ds.deepSleepWakeupTimeoutSec) :
    ds'.Programmed bound v := by
  constructor
  · rw [hphase]
    exact h.queued
  · rw [hphase, htimeout]
    exact h.entering

/-- An activation that moves on keeps what holds of the timeouts, if it was entering before. -/
theorem Programmed.setPhase {id : ℕ} {p : Phase} (h : ds.Programmed bound v)
    (hp : ∀ t nw, p ≠ .queued t nw) (hentering : p.Entering → (ds.phase id).Entering) :
    (ds.setPhase id p).Programmed bound v where
  queued := fun j hj t nw hphase => h.queued j hj t nw (eq_of_setPhase hphase (hp t nw))
  entering := fun j hj hphase => h.entering j hj (of_setPhase hphase hentering)

/-- Every step that performs only activations from `bound` on keeps the timeout, and gives the
platform no other for them. -/
theorem programmed_step (hP : ds.Programmed bound v) (hnew : ∀ t nw, l = .activate t nw → t = v)
    (hl : PerformsFrom bound l) (h : deepSleepController.step ds l = some (ds', es)) :
    ds'.Programmed bound v ∧
      ∀ id ≥ bound, ∀ timeout nw, .setDeepSleep id timeout nw ∈ es → timeout = v := by
  cases step_cases h with
  -- only `Activate` and `performActivate` set a timeout
  | @activated timeOut nw =>
    refine ⟨⟨fun id hid t nw' hphase => ?_, fun id hid hphase => ?_⟩, by simp⟩
    · rw [setPhase_phase] at hphase
      split at hphase
      · cases hphase
        exact hnew _ _ rfl
      · exact hP.queued id hid t nw' hphase
    · rw [setPhase_phase] at hphase
      split at hphase
      · exact hphase.elim
      · exact hP.entering id hid hphase
  | refused hp => exact ⟨hP.setPhase (by simp) (by simp), by simp⟩
  | @admitted id sur timeOut timeOut' delay nw job p hp hidle hp' hjob =>
    -- it is an activation from `bound` on, so that its timeout is `v`
    obtain ⟨hid, hplain⟩ := hl id sur rfl
    have htimeout : timeOut' = v :=
      (timeoutSec_performActivate hp hidle hplain h).trans (hP.queued id hid timeOut nw hp)
    refine ⟨⟨fun j hj t nw' hphase => ?_, fun _ _ _ => htimeout⟩, by simp⟩
    refine hP.queued j hj t nw' (eq_of_setPhase hphase ?_)
    rintro rfl
    exact hp'.elim
  | dispatched hp => exact ⟨(hP.setPhase (by simp) (by simp [hp])).congr rfl rfl, by simp⟩
  | aborted _ hp => exact ⟨(hP.setPhase (by simp) (by simp)).congr rfl rfl, by simp⟩
  | waited hp => exact ⟨hP.setPhase (by simp) fun _ => hp, by simp⟩
  | @started id n hp =>
    refine ⟨hP.setPhase (by simp) (by simp [hp]), fun j hj timeout nw hmem => ?_⟩
    -- the activation has been admitted, so that the controller has its timeout
    obtain ⟨rfl, rfl, -⟩ : j = id ∧ timeout = ds.deepSleepWakeupTimeoutSec ∧ _ := by
      simpa using hmem
    exact hP.entering j hj (by simp [hp])
  | retried hp => exact ⟨(hP.setPhase (by simp) (by simp [hp])).congr rfl rfl, by simp⟩
  | reported hp _ _ _ he' =>
    refine ⟨(hP.setPhase (by simp) (by simp)).congr rfl rfl, fun id _ timeout nw hmem => ?_⟩
    exact absurd (List.mem_singleton.mp hmem).symm (he' id timeout nw)
  | returned hp => exact ⟨hP.setPhase (by simp) (by simp), by simp⟩
  | @deactivated errorCode phase hphase =>
    refine ⟨⟨fun id hid t nw heq => ?_, fun id hid hent => ?_⟩, by simp⟩
    · rcases hphase id with hsame | hover
      · exact hP.queued id hid t nw (hsame ▸ heq)
      · cases hover.symm.trans heq
    · rcases hphase id with hsame | hover
      · exact hP.entering id hid (hsame ▸ hent)
      · change (phase id).Entering at hent
        rw [hover] at hent
        exact hent.elim

end DeepSleepController

/-! ## Runs -/

namespace Plugin

variable {s s' : Plugin} {es : List Event} {l : Label} {bound : ℕ}

/-- What holds in every state that a run reaches. -/
structure Sound (s : Plugin) : Prop where
  inv : s.pm.Inv
  /-- Numbers that have not been given to an activation are unused. -/
  unused : ∀ id ≥ s.ds.nextId, s.ds.phase id = .over

/-- The timeout has been set to `v`, for the activations from `bound` on. -/
structure Programmed (bound : ℕ) (v : UInt32) (s : Plugin) : Prop where
  inv : s.pm.Inv
  timerSet : s.pm.powerController.TimerSet v
  ds : s.ds.Programmed bound v

/-- The step performs only activations from `bound` on, and finds no override. -/
def PerformsFrom (bound : ℕ) : Label → Prop
  | .ds l => DeepSleepController.PerformsFrom bound l
  | _ => True

/-- The calls of a step of the implementation reach the deep sleep controller as `Activate` and
`Deactivate`, and what these keep is kept. -/
theorem onEvents_induction {I : DeepSleepController → Prop} (errorCode : ErrorCode)
    (es : List PowerManager.Event) (h : I s.ds)
    (hactivate : ∀ (ds : DeepSleepController) t nw, .activate t nw ∈ es → I ds →
      I (ds.activate t nw).1)
    (hdeactivate : ∀ ds : DeepSleepController, I ds → I (ds.deactivate errorCode).1) :
    I (s.onEvents errorCode es).1.ds := by
  induction es generalizing s with
  | nil => exact h
  | cons e es ih =>
    refine ih ?_ fun ds t nw hmem => hactivate ds t nw (List.mem_cons_of_mem e hmem)
    cases e with
    | activate timeOut nw => exact hactivate s.ds timeOut nw (List.mem_cons_self ..) h
    | deactivate => exact hdeactivate s.ds h
    | _ => exact h

/-- Every step keeps what holds in every state. -/
theorem sound_stepImplementation {l : PowerManager.Label} {errorCode : ErrorCode} (hS : s.Sound)
    (h : s.stepImplementation l errorCode = some (s', es)) : s'.Sound := by
  unfold stepImplementation at h
  split at h
  · rename_i pm pes hstep
    have hinv := Implementation.inv_step hS.inv hstep
    have hunused := onEvents_induction (s := { s with pm })
      (I := fun ds => ∀ id ≥ ds.nextId, ds.phase id = .over) errorCode pes hS.unused
      (fun ds t nw _ h => (DeepSleepController.over_step (l := .activate t nw) h rfl).2)
      fun ds h => (DeepSleepController.over_step (l := .deactivate errorCode) h rfl).2
    have hpm := onEvents_pm { s with pm } errorCode pes
    rw [Option.some.inj h] at hunused hpm
    exact ⟨hpm ▸ hinv, hunused⟩
  · cases h

theorem sound_step (hS : s.Sound) (h : plugin.step s l = some (s', es)) : s'.Sound := by
  cases l with
  | request n now errorCode => exact sound_stepImplementation hS h
  | pm l => exact sound_stepImplementation hS (stepImplementation_of_step h)
  | ds l =>
    obtain ⟨-, hpm, -, des, hstep, -⟩ := step_deepSleep h
    exact ⟨hpm ▸ hS.inv, (DeepSleepController.over_step hS.unused hstep).2⟩

/-- A step of the implementation keeps the timeout. -/
theorem programmed_stepImplementation {l : PowerManager.Label} {errorCode : ErrorCode}
    (hP : s.Programmed bound v) (h : s.stepImplementation l errorCode = some (s', es)) :
    s'.Programmed bound v ∧ ∀ id timeout nw, .ds (.setDeepSleep id timeout nw) ∉ es := by
  unfold stepImplementation at h
  split at h
  · rename_i pm pes hstep
    have hinv := Implementation.inv_step hP.inv hstep
    have hhands := Implementation.handsOn_step hP.inv hP.timerSet hstep
    have hds : ({ s with pm } : Plugin).onEvents errorCode pes |>.1.ds.Programmed bound v := by
      refine onEvents_induction (I := (·.Programmed bound v)) errorCode pes hP.ds
        (fun ds t nw hmem h => ?_) fun ds h => ?_
      · refine (DeepSleepController.programmed_step (l := .activate t nw) h ?_ ?_ rfl).1
        · rintro _ _ ⟨⟩
          exact hhands.activate t nw hmem
        · rintro _ _ ⟨⟩
      · refine (DeepSleepController.programmed_step (l := .deactivate errorCode) h ?_ ?_ rfl).1
        · rintro _ _ ⟨⟩
        · rintro _ _ ⟨⟩
    have hnone := setDeepSleep_notMem_onEvents (s := { s with pm }) errorCode pes
    have hpm := onEvents_pm { s with pm } errorCode pes
    rw [Option.some.inj h] at hds hnone hpm
    exact ⟨⟨hpm ▸ hinv, hpm ▸ hhands.timerSet, hds⟩, hnone⟩
  · cases h

/-- Every step that performs only activations from `bound` on keeps the timeout, and gives the
platform no other for them. -/
theorem programmed_step (hP : s.Programmed bound v) (hl : PerformsFrom bound l)
    (h : plugin.step s l = some (s', es)) :
    s'.Programmed bound v ∧
      ∀ id ≥ bound, ∀ timeout nw, .ds (.setDeepSleep id timeout nw) ∈ es → timeout = v := by
  cases l with
  | request n now errorCode =>
    obtain ⟨hP', hnone⟩ := programmed_stepImplementation hP h
    exact ⟨hP', fun id _ timeout nw hmem => absurd hmem (hnone id timeout nw)⟩
  | pm l =>
    obtain ⟨hP', hnone⟩ := programmed_stepImplementation hP (stepImplementation_of_step h)
    exact ⟨hP', fun id _ timeout nw hmem => absurd hmem (hnone id timeout nw)⟩
  | ds l =>
    obtain ⟨hnew, hpm, -, des, hstep, rfl⟩ := step_deepSleep h
    obtain ⟨hds, hevents⟩ := DeepSleepController.programmed_step hP.ds
      (fun t nw heq => absurd heq (hnew t nw)) hl hstep
    refine ⟨⟨hpm ▸ hP.inv, hpm ▸ hP.timerSet, hds⟩, fun id hid timeout nw hmem => ?_⟩
    exact hevents id hid timeout nw (by simpa using hmem)

/-- In a run that performs only activations from `bound` on, the platform is given no other timeout
for them. -/
theorem programmed_run {ls : List Label} {os : List Event} (hP : s.Programmed bound v)
    (hls : ∀ l ∈ ls, PerformsFrom bound l) (hrun : plugin.Run s ls os s') :
    s'.Programmed bound v ∧
      ∀ id ≥ bound, ∀ timeout nw, .ds (.setDeepSleep id timeout nw) ∈ os → timeout = v := by
  induction hrun with
  | nil => exact ⟨hP, by simp⟩
  | @snoc t u ls os os' l hrun hstep ih =>
    obtain ⟨hP', hevents⟩ := ih fun l hl => hls l (List.mem_append_left _ hl)
    obtain ⟨hP'', hlast⟩ := programmed_step hP' (hls l (by simp)) hstep
    refine ⟨hP'', fun id hid timeout nw hmem => ?_⟩
    rcases List.mem_append.mp hmem with hmem | hmem
    · exact hevents id hid timeout nw hmem
    · exact hlast id hid timeout nw hmem

/-! ## The calls of SetDeepSleepTimer -/

/-- A step of the plugin, or a call of `SetDeepSleepTimer`. -/
inductive TimerLabel
  | plugin (l : Label)
  | setDeepSleepTimer (timeOut : Int32)

/-- The plugin after a call of `SetDeepSleepTimer`. -/
def setDeepSleepTimer (s : Plugin) (timeOut : Int32) : Plugin :=
  { s with pm := s.pm.setDeepSleepTimer timeOut }

end Plugin

open Plugin in
/-- The plugin with the calls of `SetDeepSleepTimer`, which hold `_apiLock` throughout. -/
def pluginTimer : Machine Plugin Plugin.TimerLabel Plugin.Event where
  step s
    | .plugin l => plugin.step s l
    | .setDeepSleepTimer timeOut =>
      some (s.setDeepSleepTimer timeOut, [.pm (.returned .errorNone)])

namespace Plugin

variable {pc : PowerController} {transactionId : ℤ} {clientId : UInt32} {ls : List Label}
  {os os₀ : List Event} {ls₀ : List TimerLabel} {s s' t : Plugin} {es : List Event} {l : Label}

/-- `SetDeepSleepTimer` sets the timeout of the activations that follow. -/
theorem Sound.programmed (h : s.Sound) (timeOut : Int32) :
    (s.setDeepSleepTimer timeOut).Programmed s.ds.nextId
      (Implementation.timeOutVal timeOut).toUInt32 := by
  refine ⟨⟨h.inv.wellFormed, h.inv.handler, h.inv.created, h.inv.selfLock⟩, ?_, ?_, ?_⟩
  · exact PowerController.timerSet_setDeepSleepTimer ..
  · -- there are no activations yet that follow
    intro id hid t nw hphase
    cases (h.unused id hid).symm.trans hphase
  · intro id hid hphase
    change (s.ds.phase id).Entering at hphase
    rw [h.unused id hid] at hphase
    exact hphase.elim

theorem sound_run (hrun : pluginTimer.Run (initial pc transactionId clientId) ls₀ os₀ s) :
    s.Sound := by
  -- the calls leave the deep sleep controller alone
  refine hrun.invariant ⟨Implementation.inv_initial pc transactionId clientId, fun _ _ => rfl⟩ ?_
  intro t l u os hS hstep
  cases l with
  | plugin l => exact sound_step hS hstep
  | setDeepSleepTimer timeOut =>
    cases hstep
    exact ⟨(hS.programmed timeOut).inv, hS.unused⟩

/-- In every run, after a call of `SetDeepSleepTimer`: every platform call of an activation that
follows, as long as no earlier one is performed, no override is found and there is no other call of
`SetDeepSleepTimer`, has a timeout of at most a day, which is the number of the call if that is at
most a day, exactly if this number is not negative. -/
theorem programs_iff {timeOut : Int32} {s₁ : Plugin} {es₁ : List Event} {id : ℕ} {timeout : UInt32}
    {nw : Bool} (hrun₀ : pluginTimer.Run (initial pc transactionId clientId) ls₀ os₀ s)
    (hcall : pluginTimer.step s (.setDeepSleepTimer timeOut) = some (s₁, es₁))
    (hrun : plugin.Run s₁ ls os t) (hls : ∀ l ∈ ls, PerformsFrom s.ds.nextId l)
    (hid : s.ds.nextId ≤ id) (he : .ds (.setDeepSleep id timeout nw) ∈ os) :
    Programs timeOut timeout ↔ 0 ≤ timeOut.toInt := by
  obtain ⟨rfl, -⟩ := Prod.mk.inj (Option.some.inj hcall)
  have hP := (sound_run hrun₀).programmed timeOut
  obtain ⟨-, hevents⟩ := programmed_run hP hls hrun
  -- every platform call has the number that was handed on
  rw [hevents id hid timeout nw he]
  exact programs_timeOutVal_iff timeOut

/-- The calls of a transition to DEEP_SLEEP, and the steps of its activation up to the platform. -/
def toDeepSleep : List Label :=
  [.request .standbyDeepSleep 0 .errorNone, .pm (.create .accepts), .pm (.schedule .accepts),
    .ds (.performActivate 0 .plain), .ds (.endWait 0), .ds (.setDeepSleep 0)]

/-- Deep sleep for a minute. -/
theorem programs_minute :
    ∃ os t, plugin.Run ((initial .isOn 0 0).setDeepSleepTimer 60) toDeepSleep os t ∧
      .ds (.setDeepSleep 0 60 false) ∈ os ∧ Programs 60 60 := by
  obtain ⟨os, t, hrun, he⟩ := @Machine.exists_outputs_of_exec _ _ _ plugin
    (fun os _ => .ds (.setDeepSleep 0 60 false) ∈ os) _
    ((initial .isOn 0 0).setDeepSleepTimer 60) toDeepSleep (by decide)
  have hls : ∀ l ∈ toDeepSleep, PerformsFrom 0 l := by
    simp [toDeepSleep, PerformsFrom, DeepSleepController.PerformsFrom,
      DeepSleepController.Surroundings.plain]
  exact ⟨os, t, hrun, he,
    (programs_iff (.nil (initial .isOn 0 0)) rfl hrun hls (Nat.zero_le 0) he).mpr (by decide)⟩

/-- Deep sleep for minus one second, and the platform is given a timeout of more than 136 years. -/
theorem not_programs_of_negative :
    ∃ os t, plugin.Run ((initial .isOn 0 0).setDeepSleepTimer (-1)) toDeepSleep os t ∧
      .ds (.setDeepSleep 0 4294967295 false) ∈ os ∧ ¬Programs (-1) 4294967295 := by
  obtain ⟨os, t, hrun, he⟩ := @Machine.exists_outputs_of_exec _ _ _ plugin
    (fun os _ => .ds (.setDeepSleep 0 4294967295 false) ∈ os) _
    ((initial .isOn 0 0).setDeepSleepTimer (-1)) toDeepSleep (by decide)
  exact ⟨os, t, hrun, he, fun h => absurd h.le (by decide)⟩

end Plugin

end PowerManager
