import PowerManager.PowerController.Restart
import PowerManager.RealStates

/-!
# Do memory, file and platform agree after `init`?

`init` brings the power state of the settings and the one of the platform together, and saves the
settings if it had to change either of them. If they are the same from the start, it leaves the
settings file alone; but with `PLATCO_BOOTTO_STANDBY` the state in memory need not be the one in the
file then: `Load` has replaced it by STANDBY. `bootAgrees_iff` shows that this is the only case in
which the file is left behind.
-/

namespace PowerManager

namespace Device

/-- The power state in memory, the one in the settings file, and the one of the platform are the
same. -/
structure Agrees (T : Target) (d : Device) : Prop where
  platform : d.stored.settings.powerState = d.power
  file : ∃ r, Settings.read T (d.stored.file.getD []) (.default 0) = some r ∧
    r.powerState = d.stored.settings.powerState

/-- The device after the construction of the controller, on a platform that has reported the given
power state. -/
def boot (T : Target) (st : StartUp) (files : FileSystem) (power : PowerState) : Device :=
  ⟨(Stored.create T st files).1, powerAfterInit power (Stored.create T st files).2⟩

/-- `Load` has made STANDBY of another recorded state, and the platform is in STANDBY already. -/
structure LeftBehind (T : Target) (files : FileSystem) (power : PowerState) : Prop where
  bootToStandby : T.bootToStandby = true
  pwrmgrRestarted : files .pwrmgrRestarted = none
  power : power = .standby
  recorded : Host.recorded T (files .settingsFile) ≠ .standby

variable {T : Target} {st : StartUp} {files : FileSystem} {power : PowerState}

/-- `Load` leaves the recorded state in the settings file, whatever it makes of it in memory. -/
theorem file_beforeSync (T : Target) (files : FileSystem) (hio : GoodIO st) :
    ∃ r, Settings.read T ((Stored.beforeSync T st files).file.getD []) (.default 0) = some r ∧
      r.powerState = Host.recorded T (files .settingsFile) := by
  have hfile : (Stored.beforeSync T st files).file =
      (Settings.loadFile T .good st.now (files .settingsFile)).2 := by
    have hgood : st.io .settingsFile = .good := congrFun hio .settingsFile
    simp only [Stored.beforeSync, Stored.load, Stored.file, Settings.load, reduceCtorEq, if_false]
    split
    · simp [hgood]
    · simp [hgood]
  obtain ⟨r, hread, hstate, -, -⟩ := holds_loadFile (T := T) st.now (files .settingsFile)
  refine ⟨r, by rw [hfile, hread], ?_⟩
  rw [hstate]
  exact Host.loadFile_powerState rfl st.now (files .settingsFile)

/-- The state in memory before `init` looks at the platform. -/
theorem powerState_beforeSync (T : Target) (files : FileSystem) (hio : GoodIO st) :
    (Stored.beforeSync T st files).settings.powerState =
      if T.bootToStandby = true ∧ files .pwrmgrRestarted = none then .standby
      else Host.recorded T (files .settingsFile) := by
  have hload : (Stored.beforeSync T st files).settings.powerState =
      Stored.startState T st files := Stored.load_powerState T st files
  rw [hload, Stored.startState, hio]
  rfl

/-- The settings that `init` saves are those of the platform. -/
theorem agrees_of_synced (hio : GoodIO st) {currentState : PowerState}
    (hsync : Stored.Synced T (Stored.beforeSync T st files) st currentState
      ((Stored.beforeSync T st files).sync T st)) :
    Agrees T (boot T st files currentState) := by
  have hsettings := Stored.create_settings T st files
  have hcalls := Stored.create_calls T st files
  -- `Save` writes a record that `Load` accepts, if the version is the current one
  have hversion : (Stored.create T st files).1.settings.version = SettingsV1.version := by
    rw [hsettings, hsync.settings, Settings.setPowerState_version, version_beforeSync hio]
  have hfile : (Stored.create T st files).1.file =
      ((Stored.create T st files).1.settings.save T .good
        (Stored.beforeSync T st files).file).2 := by
    have h := hsync.file
    rw [← hsettings, hio] at h
    exact h
  constructor
  · change (Stored.create T st files).1.settings.powerState =
      powerAfterInit currentState (Stored.create T st files).2
    rw [hcalls, hsync.calls, powerAfterInit_platformCalls, hsettings, hsync.settings,
      Settings.setPowerState_powerState]
  -- what has been saved is read back
  · obtain ⟨r, hread, hstate, -, -⟩ := Stored.holds_save_good.mpr hversion
    refine ⟨r, ?_, hstate⟩
    change Settings.read T ((Stored.create T st files).1.file.getD []) _ = _
    rw [hfile]
    exact hread

/-- When memory, file and platform agree after `init`. For every content of the files, every
platform that reports a state and every result of its `SetPowerState`, with saves that succeed:
exactly if `Load` has not made STANDBY of another recorded state while the platform is in STANDBY
already. -/
theorem bootAgrees_iff (hio : GoodIO st) (hget : st.platformGetPowerState = some power) :
    Agrees T (boot T st files power) ↔ ¬LeftBehind T files power := by
  have hmemory := powerState_beforeSync T files hio
  rcases Stored.sync_cases T (Stored.beforeSync T st files) st with ⟨hsync, hsame⟩ |
    ⟨currentState, hsync⟩
  · -- nothing is saved, so that the file still has the recorded state
    have hsettings := Stored.create_settings T st files
    have hfiles := Stored.create_files T st files
    have hcalls := Stored.create_calls T st files
    rw [hsync] at hsettings hfiles hcalls
    obtain ⟨r, hread, hrecorded⟩ := file_beforeSync T files hio
    have hpower := hsame power hget
    have hfile : (Stored.create T st files).1.file = (Stored.beforeSync T st files).file :=
      congrFun hfiles .settingsFile
    -- memory and platform agree, so that only the file can differ
    have hsettle : Agrees T (boot T st files power) ↔
        Host.recorded T (files .settingsFile) =
          (Stored.beforeSync T st files).settings.powerState := by
      constructor
      · rintro ⟨-, r', hread', hstate⟩
        change Settings.read T ((Stored.create T st files).1.file.getD []) _ = _ at hread'
        rw [hfile, hread] at hread'
        obtain rfl : r = r' := Option.some.inj hread'
        change r.powerState = (Stored.create T st files).1.settings.powerState at hstate
        rw [← hrecorded, hstate, hsettings]
      · intro hmemory'
        refine ⟨?_, r, ?_, ?_⟩
        · change (Stored.create T st files).1.settings.powerState =
            powerAfterInit power (Stored.create T st files).2
          rw [hsettings, hcalls, ← hpower]
          rfl
        · change Settings.read T ((Stored.create T st files).1.file.getD []) _ = _
          rw [hfile, hread]
        · change r.powerState = (Stored.create T st files).1.settings.powerState
          rw [hsettings, hrecorded, hmemory']
    rw [hsettle, hmemory]
    by_cases hboot : T.bootToStandby = true ∧ files .pwrmgrRestarted = none
    -- the state in memory is the recorded one, unless `Load` has replaced it
    · rw [if_pos hboot] at hmemory ⊢
      constructor
      · exact fun hrecorded' hleft => hleft.recorded hrecorded'
      · intro hnot
        by_contra hrecorded'
        exact hnot ⟨hboot.1, hboot.2, hpower.trans hmemory, hrecorded'⟩
    · rw [if_neg hboot]
      exact iff_of_true rfl fun hleft => hboot ⟨hleft.bootToStandby, hleft.pwrmgrRestarted⟩
  -- the other exits save the state of the platform
  · obtain rfl : power = currentState := Option.some.inj (hget.symm.trans hsync.reported)
    refine iff_of_true (agrees_of_synced hio hsync) fun hleft => hsync.differs ?_
    rw [hmemory, if_pos ⟨hleft.bootToStandby, hleft.pwrmgrRestarted⟩, hleft.power]

/-- Surroundings in which all goes well, on a platform that reports the given state. -/
def goodStart (power : PowerState) : StartUp where
  io := fun _ => .good
  now := 0
  platformGetPowerState := some power
  env := ⟨false, .errorNone, 0, 0⟩

theorem goodIO_goodStart (power : PowerState) : GoodIO (goodStart power) := rfl

/-- A device without a settings file whose platform has come up in STANDBY is set to ON. -/
theorem bootAgrees_of_standby :
    Agrees (.sample false) (boot (.sample false) (goodStart .standby) (fun _ => none) .standby) :=
  (bootAgrees_iff (goodIO_goodStart .standby) rfl).mpr fun hleft =>
    Bool.false_ne_true hleft.bootToStandby

/-- With `PLATCO_BOOTTO_STANDBY` memory and platform are in STANDBY, and the file says ON. -/
theorem not_bootAgrees_of_standby :
    (boot (.sample true) (goodStart .standby) (fun _ => none) .standby).stored.settings.powerState =
        .standby ∧
      ¬Agrees (.sample true)
        (boot (.sample true) (goodStart .standby) (fun _ => none) .standby) := by
  refine ⟨by decide +kernel, ?_⟩
  rintro ⟨-, r, hread, hstate⟩
  cases hread
  exact absurd hstate (by decide +kernel)

end Device

end PowerManager
