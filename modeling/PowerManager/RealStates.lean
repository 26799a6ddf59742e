import PowerManager.Implementation.Refinement
import PowerManager.PowerController.Create
import PowerManager.Settings.BeforeReboot

/-!
# The power states that the platform is asked for

`PowerImpl::SetPowerState` leaves it to its callers to check the power state. None of them does. The
state can come from the settings file, from the platform itself, and from a request.

The module introduces:

* `Transition.Within` — the abstract machine is in a state with a property, and on its way to states
  with the property; a request is all that can change this;
* `Stored.RealStart` — what the construction of the power controller needs in order to deal with
  real states only;
* `platform_asked_real` — after such a construction, and without a request for the unknown state,
  the device is always in a real state and the platform is only asked for real ones.
-/

namespace PowerManager

/-- `PowerImpl::SetPowerState`: the argument of `PLAT_API_SetPowerState`. -/
def PowerImpl.platSetPowerState (T : Target) (newState : PowerState) : UInt32 :=
  T.powerStates.conv newState

/-! ## Requested states -/

namespace Transition

variable {P : PowerState → Prop} {a b : Transition} {l : Step} {ls : List Step} {es : List Effect}

/-- The current state has the property `P`, and so has every state that the device is asked to go
to. -/
structure Within (P : PowerState → Prop) (a : Transition) : Prop where
  powerState : P a.powerState
  pending : ∀ p t, a.slot = .pending p t → P t
  checked : ∀ n c, a.request = .checked n c → P n

/-- Settling moves the device to a state with the property, or not at all. -/
theorem Within.settle (hP : Within P a) {p t : PowerState} (hslot : a.slot = .pending p t)
    (r : Bool) :
    Within P (a.settle p t r).1 ∧ ∀ t' r', .settled t' r' ∈ (a.settle p t r).2 → P t' := by
  have ht : P t := hP.pending p t hslot
  have hreq : ∀ n c, (if a.request = .installed then .idle else a.request) = .checked n c → P n := by
    intro n c h
    split at h
    · cases h
    · exact hP.checked n c h
  cases r with
  | true =>
    refine ⟨⟨ht, by simp [Transition.settle], hreq⟩, ?_⟩
    -- the effects settle the target, and nothing else
    intro t' r' hmem
    have hmem' : t' = t := by
      simp only [Transition.settle] at hmem
      split_ifs at hmem <;> simp at hmem <;> exact hmem.1
    rwa [hmem']
  | false =>
    refine ⟨⟨hP.powerState, by simp [Transition.settle], hreq⟩, ?_⟩
    intro t' r' hmem
    obtain ⟨rfl, -⟩ : t' = t ∧ r' = false := by simpa [Transition.settle] using hmem
    exact ht

/-- A step stays among the states with the property, if it does not request another one. -/
theorem Within.step (hP : Within P a) (hl : ∀ n t, l = .request n t → P n)
    (h : transition.step a l = some (b, es)) :
    Within P b ∧ ∀ t r, .settled t r ∈ es → P t := by
  -- nothing, a request, a drop, a new controller, the end of the call, a settled transition
  rcases step_cases h with ⟨rfl, rfl, -⟩ | ⟨n, t, rfl, -, -, rfl, rfl⟩ |
    ⟨n, c, -, -, -, rfl, rfl⟩ | ⟨n, c, -, hreq, -, rfl, rfl⟩ | ⟨-, -, rfl, rfl⟩ |
    ⟨p, t, r, -, hslot, rfl, rfl⟩
  · exact ⟨hP, by simp⟩
  · refine ⟨⟨hP.powerState, hP.pending, ?_⟩, ?_⟩
    · rintro n' c' hreq
      obtain ⟨rfl, -⟩ : n = n' ∧ a.powerState = c' := by simpa using hreq
      exact hl n t rfl
    · intro t' r' hmem
      split at hmem <;> simp at hmem
  · exact ⟨⟨hP.powerState, hP.pending, by simp⟩, by simp⟩
  · refine ⟨⟨hP.powerState, ?_, by simp⟩, by simp⟩
    rintro p t hslot
    obtain ⟨-, rfl⟩ : c = p ∧ n = t := by simpa using hslot
    exact hP.checked n c hreq
  · exact ⟨⟨hP.powerState, hP.pending, by simp⟩, by simp⟩
  · exact hP.settle hslot r

/-- A run stays among the states with the property, if it does not request another one. -/
theorem Within.run (hP : Within P a) (hls : ∀ n t, .request n t ∈ ls → P n)
    (h : transition.Run a ls es b) : Within P b ∧ ∀ t r, .settled t r ∈ es → P t := by
  induction h with
  | nil => exact ⟨hP, by simp⟩
  | @snoc b c ls es es' l hrun hstep ih =>
    obtain ⟨hb, hes⟩ := ih fun n t hmem => hls n t (by simp [hmem])
    obtain ⟨hc, hes'⟩ := hb.step (fun n t h => hls n t (by simp [h])) hstep
    refine ⟨hc, fun t r hmem => ?_⟩
    rcases List.mem_append.mp hmem with hmem | hmem
    · exact hes t r hmem
    · exact hes' t r hmem

end Transition

/-! ## Construction -/

namespace Stored

variable {T : Target} {st : StartUp} {files : FileSystem}

/-- The power state that the constructor loads: the one recorded in the settings file, and ON if the
file cannot be opened; with `PLATCO_BOOTTO_STANDBY`, STANDBY after a reboot. -/
def startState (T : Target) (st : StartUp) (files : FileSystem) : PowerState :=
  Settings.bootState T files
    (if (st.io .settingsFile).opens then Host.recorded T (files .settingsFile) else .on)

/-- The construction deals with real power states only. -/
structure RealStart (T : Target) (st : StartUp) (files : FileSystem) : Prop where
  /-- The state that is loaded is a real one. -/
  loaded : startState T st files ≠ .unknown
  /-- If the platform reports another state and does not accept the one that is loaded, the reported
  state is a real one. -/
  reported : ∀ currentState, st.platformGetPowerState = some currentState →
    currentState ≠ startState T st files → ¬Accepted st.env (startState T st files) →
      currentState ≠ .unknown

/-- `loadFile` finds the recorded state, if the file can be opened. -/
theorem loadFile_powerState (io : FileIO) (now : Time) (file : Option (List UInt8)) :
    (Settings.loadFile T io now file).1.powerState =
      if io.opens then Host.recorded T file else .on := by
  split
  · rename_i hopen
    exact Host.loadFile_powerState hopen now file
  · rename_i hopen
    rw [Settings.loadFile, Bool.not_eq_true _ |>.mp hopen]
    rfl

/-- The state that is loaded. -/
theorem load_powerState (T : Target) (st : StartUp) (files : FileSystem) :
    (load T st files).settings.powerState = startState T st files := by
  have hfile := loadFile_powerState (T := T) (st.io .settingsFile) st.now (files .settingsFile)
  have hboot : ∀ file ram : Option (List UInt8), ∀ p,
      Settings.bootState T
          (Function.update (Function.update files .settingsFile file) .ramSettingsFile ram) p =
        Settings.bootState T files p := by
    intro file ram p
    simp [Settings.bootState]
  rw [startState, ← hfile]
  simp only [load, settings, Settings.load, reduceCtorEq, if_false]
  split
  · exact hboot ..
  · exact hboot ..

/-- The construction asks for real states, and ends in one, exactly if it is a real start. -/
theorem realStart_iff (T : Target) (st : StartUp) (files : FileSystem) :
    ((load T st files).settings.powerState ≠ .unknown ∧
      (create T st files).1.settings.powerState ≠ .unknown ∧
      ∀ call ∈ (create T st files).2, call.1 ≠ .unknown) ↔ RealStart T st files := by
  have hload := load_powerState T st files
  have hbefore : (beforeSync T st files).settings.powerState = startState T st files := hload
  rw [hload, create_settings, create_calls]
  -- either the platform reports the state that has been loaded, or it is asked for it
  rcases sync_cases T (beforeSync T st files) st with ⟨hsync, hsame⟩ | ⟨currentState, hsync⟩
  · rw [hsync, hbefore]
    constructor
    · rintro ⟨hreal, -, -⟩
      refine ⟨hreal, fun currentState hreport hdiffers => ?_⟩
      exact absurd ((hsame currentState hreport).trans hbefore) hdiffers
    · rintro ⟨hreal, -⟩
      exact ⟨hreal, hreal, by simp⟩
  · have hcalls : ∀ call ∈ ((beforeSync T st files).sync T st).2,
        call.1 = startState T st files := by
      intro call hmem
      rw [hsync.calls, hbefore, platformCalls] at hmem
      split at hmem
      · simp at hmem
      · obtain rfl := List.mem_singleton.mp hmem
        rfl
    have hdiffers : currentState ≠ startState T st files := by
      rw [← hbefore]
      exact hsync.differs.symm
    rw [hsync.settings, Settings.setPowerState_powerState, hbefore]
    constructor
    · rintro ⟨hreal, hend, -⟩
      refine ⟨hreal, fun reported hreport _ hrefused => ?_⟩
      obtain rfl : reported = currentState :=
        Option.some.inj (hreport.symm.trans hsync.reported)
      rwa [if_neg hrefused] at hend
    · rintro ⟨hreal, hreported⟩
      refine ⟨hreal, ?_, fun call hmem => hcalls call hmem ▸ hreal⟩
      split
      · exact hreal
      · rename_i hrefused
        exact hreported currentState hsync.reported hdiffers hrefused

end Stored

/-! ## Runs -/

namespace Implementation

variable {T : Target} {st : StartUp} {files : FileSystem} {pc : PowerController} {n : ℤ}
  {m : UInt32} {ls : List Label} {os : List Event} {pm : Implementation}

/-- A run that requests only states with a property, from a state with the property, reaches and
applies only states with the property. -/
theorem within_run {P : PowerState → Prop} (hpc : P pc.settings.powerState)
    (hls : ∀ newState ds, .request newState ds ∈ ls → P newState)
    (h : implementation.Run (initial pc n m) ls os pm) :
    P pm.powerState ∧ ∀ newState errorCode, .applied newState errorCode ∈ os → P newState := by
  -- in the abstract run, the requests are those of the run, and so are the settled states
  obtain ⟨-, ls', hmatch, habs⟩ := refinement.run (refinement_initial pc n m) h
  have hinit : Transition.Within P (initial pc n m).transition :=
    ⟨hpc, by simp [transition, slot, initial], by simp [transition, request, initial]⟩
  have hls' : ∀ newState t, .request newState t ∈ ls' → P newState := by
    intro newState t hmem
    obtain ⟨l, hl, hmatches⟩ := Machine.exists_of_forall₂ hmatch hmem
    obtain ⟨ds, rfl⟩ := eq_request_of_matches hmatches
    exact hls newState ds hl
  obtain ⟨hend, hsettled⟩ := hinit.run hls' habs
  refine ⟨hend.powerState, fun newState errorCode hmem => ?_⟩
  apply hsettled newState (decide (errorCode = .errorNone))
  exact List.mem_filterMap.mpr ⟨_, hmem, rfl⟩

/-- After a construction that deals with real states only, and in a run without a request for the
unknown state, the device is always in a real state, and `PLAT_API_SetPowerState` is never called
with `PWRMGR_POWERSTATE_MAX`. -/
theorem platform_asked_real (hstart : Stored.RealStart T st files)
    (hls : ∀ ds, .request .unknown ds ∉ ls)
    (hrun : implementation.Run (initial (Stored.create T st files).1.controller n m) ls os pm) :
    (Stored.load T st files).settings.powerState ≠ .unknown ∧
      (∀ call ∈ (Stored.create T st files).2,
        PowerImpl.platSetPowerState T call.1 ≠ T.powerStates.max) ∧
      implementation.Throughout (·.powerState ≠ .unknown)
        (initial (Stored.create T st files).1.controller n m) ls ∧
      ∀ newState errorCode, .applied newState errorCode ∈ os →
        PowerImpl.platSetPowerState T newState ≠ T.powerStates.max := by
  obtain ⟨hload, hcreate, hcalls⟩ := (Stored.realStart_iff T st files).mpr hstart
  have hreal : ∀ newState, newState ≠ .unknown →
      PowerImpl.platSetPowerState T newState ≠ T.powerStates.max := by
    intro newState h hmax
    exact h ((T.powerStates.conv_eq_max_iff newState).mp hmax)
  have hrequests : ∀ newState ds, .request newState ds ∈ ls → newState ≠ .unknown := by
    rintro newState ds hmem rfl
    exact hls ds hmem
  refine ⟨hload, fun call hmem => hreal _ (hcalls call hmem), ?_, ?_⟩
  · intro pre post os' pm' hcut hpre
    refine (within_run (P := (· ≠ .unknown)) hcreate (fun newState ds hmem => ?_) hpre).1
    exact hrequests newState ds (by simp [hcut, hmem])
  · intro newState errorCode hmem
    exact hreal _ ((within_run (P := (· ≠ .unknown)) hcreate hrequests hrun).2 _ _ hmem)

/-- A start on a platform that reports ON. -/
def startOn (env : Environment) : StartUp where
  io _ := .good
  now := 0
  platformGetPowerState := some .on
  env

/-- A file system whose settings file has the code of no power state. -/
def unknownFiles : FileSystem := fun
  | .settingsFile => ((SettingsV1.initDefaults (.default 0)).setPowerState .unknown 0).save
      (.sample false) .good none |>.2
  | _ => none

/-- A device that starts without a settings file, and goes to DEEP_SLEEP. -/
theorem platform_asked_real_deepSleep :
    ∃ os pm, implementation.Run
        (initial (Stored.create (.sample false) (startOn .accepts) fun _ => none).1.controller 0 0)
        [.request .standbyDeepSleep .awake, .create .accepts, .schedule .accepts] os pm ∧
      pm.powerState = .standbyDeepSleep ∧
      ∀ newState errorCode, .applied newState errorCode ∈ os →
        PowerImpl.platSetPowerState (.sample false) newState ≠ 5 := by
  have hstart : Stored.RealStart (.sample false) (startOn .accepts) fun _ => none :=
    ⟨by decide, fun currentState hreport _ _ => by cases hreport; decide⟩
  have hreal := @platform_asked_real (.sample false) (startOn .accepts) (fun _ => none) 0 0
    [.request .standbyDeepSleep .awake, .create .accepts, .schedule .accepts] _ _ hstart (by simp)
    (Machine.run_of_exec rfl)
  exact ⟨_, _, Machine.run_of_exec rfl, rfl, hreal.2.2.2⟩

/-- A platform that reports a state it has no code for, and refuses every state. -/
def unreported : StartUp :=
  { startOn .refuses with platformGetPowerState := some .unknown }

/-- The platform is asked for `PWRMGR_POWERSTATE_MAX`, and the device is in the unknown state, after
the code of no power state has been found in the settings file, and after a request for the unknown
state. The device is also in the unknown state after the platform has reported a state it has no
code for, and has refused the state of the settings. -/
theorem platform_asked_unknown :
    PowerImpl.platSetPowerState (.sample false) .unknown = (Target.sample false).powerStates.max ∧
    (Stored.create (.sample false) (startOn .accepts) unknownFiles).2 = [(.unknown, .errorNone)] ∧
    (Stored.create (.sample false) (startOn .accepts) unknownFiles).1.settings.powerState =
      .unknown ∧
    (Stored.create (.sample false) unreported fun _ => none).1.settings.powerState = .unknown ∧
    ∃ os pm, implementation.Run (initial .isOn 0 0)
        [.request .unknown .awake, .create .accepts, .schedule .accepts] os pm ∧
      pm.powerState = .unknown ∧ .applied .unknown .errorNone ∈ os :=
  ⟨rfl, rfl, rfl, rfl, _, _, Machine.run_of_exec rfl, rfl, by decide⟩

end Implementation

end PowerManager
