import PowerManager.PowerController.Storage

/-!
# Construction of the power controller

The constructor of `PowerController` loads the settings, and `init` compares their power state with
that of the platform. If the two differ, the platform is asked for the state of the settings; if it
does not take it, the state of the platform goes into the settings.
-/

namespace PowerManager

/-- What the constructor finds in its surroundings. -/
structure StartUp where
  io : FileName → FileIO
  now : Time
  /-- What `platform().GetPowerState` reports, unless it fails. -/
  platformGetPowerState : Option PowerState
  /-- The surroundings of the `SetPowerState` call of `init`. -/
  env : Environment

namespace Stored

/-- The calls of `platform().SetPowerState` that `PowerController::SetPowerState` makes, with their
results. -/
def platformCalls (env : Environment) (powerState : PowerState) : List (PowerState × ErrorCode) :=
  if env.ignoreDeepSleep = true ∧ powerState = .standbyDeepSleep then []
  else [(powerState, env.platformSetPowerState)]

/-- The part of `PowerController::init` that brings the settings and the platform together, with its
calls of `platform().SetPowerState`. -/
def sync (T : Target) (s : Stored) (st : StartUp) : Stored × List (PowerState × ErrorCode) :=
  match st.platformGetPowerState with
  | none => (s, [])
  | some currentState =>
    let powerState := s.settings.powerState
    if powerState = currentState then
      (s, [])
    else
      let io := st.io .settingsFile
      let r := s.setPowerState T st.env io powerState
      let calls := platformCalls st.env powerState
      if r.1 = .errorNone then
        (r.2, calls)
      else
        -- the device stays where the platform says it is
        (r.2.saveSettings T io (r.2.settings.setPowerState currentState st.env.now), calls)

/-- `PowerController::init`. -/
def init (T : Target) (s : Stored) (st : StartUp) : Stored × List (PowerState × ErrorCode) :=
  let controller := { s.controller with lastKnownPowerState := s.settings.powerState }
  let r := { s with controller }.sync T st
  let wakeupTimestamp :=
    if r.1.settings.powerState = .on then st.env.now else r.1.controller.wakeupTimestamp
  ({ r.1 with controller := { r.1.controller with wakeupTimestamp } }, r.2)

/-- The controller before `init`. -/
def load (T : Target) (st : StartUp) (files : FileSystem) : Stored :=
  let r := Settings.load T st.io st.now .settingsFile files
  ⟨⟨r.1, .on, false, 0⟩, r.2⟩

/-- The constructor of `PowerController`. It also hands the network standby mode to the wake-up
sources, whose result it ignores. -/
def create (T : Target) (st : StartUp) (files : FileSystem) :
    Stored × List (PowerState × ErrorCode) :=
  (load T st files).init T st

variable {T : Target} {s : Stored} {st : StartUp} {files : FileSystem}

/-- What `sync` does, if the platform reports another state than the settings. -/
structure Synced (T : Target) (s : Stored) (st : StartUp) (currentState : PowerState)
    (r : Stored × List (PowerState × ErrorCode)) : Prop where
  reported : st.platformGetPowerState = some currentState
  differs : s.settings.powerState ≠ currentState
  calls : r.2 = platformCalls st.env s.settings.powerState
  settings : r.1.settings = s.settings.setPowerState
    (if Accepted st.env s.settings.powerState then s.settings.powerState else currentState)
    st.env.now
  file : r.1.file = (r.1.settings.save T (st.io .settingsFile) s.file).2
  isDeepSleepTimeoutSet :
    r.1.controller.isDeepSleepTimeoutSet = s.controller.isDeepSleepTimeoutSet

/-- `sync` leaves everything as it is, or it saves the state of the settings, or the one of the
platform. -/
theorem sync_cases (T : Target) (s : Stored) (st : StartUp) :
    (s.sync T st = (s, []) ∧ ∀ currentState, st.platformGetPowerState = some currentState →
      currentState = s.settings.powerState) ∨
    ∃ currentState, Synced T s st currentState (s.sync T st) := by
  unfold sync
  split
  · rename_i hreport
    exact .inl ⟨rfl, fun _ h => by simp [hreport] at h⟩
  · rename_i currentState hreport
    dsimp only
    split
    · rename_i hsame
      refine .inl ⟨rfl, fun x h => ?_⟩
      rw [hsame]
      simpa [hreport] using h.symm
    · rename_i hdiffers
      refine .inr ⟨currentState, ?_⟩
      have htimeout := setPowerState_isDeepSleepTimeoutSet T s st.env (st.io .settingsFile)
        s.settings.powerState
      -- the platform takes the state of the settings, or the settings take its own
      rcases setPowerState_spec T s st.env (st.io .settingsFile) s.settings.powerState with
        ⟨hacc, hcode, hset, hfile⟩ | ⟨hacc, hcode, hs⟩
      · rw [if_pos hcode]
        exact ⟨hreport, hdiffers, rfl, by rw [if_pos hacc, hset], by rw [hfile, hset], htimeout⟩
      · rw [if_neg hcode, hs]
        exact ⟨hreport, hdiffers, rfl, by rw [if_neg hacc]; rfl, saveSettings_file .., rfl⟩

/-- The controller before `init` brings it together with the platform. -/
def beforeSync (T : Target) (st : StartUp) (files : FileSystem) : Stored :=
  let s := load T st files
  { s with controller := { s.controller with lastKnownPowerState := s.settings.powerState } }

/-- The settings of the new controller. -/
theorem create_settings (T : Target) (st : StartUp) (files : FileSystem) :
    (create T st files).1.settings = ((beforeSync T st files).sync T st).1.settings := rfl

/-- The files of the new controller. -/
theorem create_files (T : Target) (st : StartUp) (files : FileSystem) :
    (create T st files).1.files = ((beforeSync T st files).sync T st).1.files := rfl

/-- The calls of the platform. -/
theorem create_calls (T : Target) (st : StartUp) (files : FileSystem) :
    (create T st files).2 = ((beforeSync T st files).sync T st).2 := rfl

/-- The timeout of the new controller is not one that has been set. -/
theorem create_isDeepSleepTimeoutSet (T : Target) (st : StartUp) (files : FileSystem) :
    (create T st files).1.controller.isDeepSleepTimeoutSet = false := by
  change ((beforeSync T st files).sync T st).1.controller.isDeepSleepTimeoutSet = false
  rcases sync_cases T (beforeSync T st files) st with ⟨hsync, -⟩ | ⟨_, hsync⟩
  · rw [hsync]
    rfl
  · rw [hsync.isDeepSleepTimeoutSet]
    rfl

end Stored

end PowerManager
