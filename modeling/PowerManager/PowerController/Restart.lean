import PowerManager.PowerController.Create

/-!
# A restart of the power controller

A `Device` is a power controller with its files, and a platform that reports the last power state it
was given. The machine `device` makes successful calls. `restart_iff` compares a controller with the
one that is constructed in its place: the power state and the network standby mode are the same. The
wake-up timeout is not, because the new controller does not know that the timeout in its settings
has been set, and computes one.
-/

namespace PowerManager

/-- The power controller, its files, and the power state that the platform reports. -/
structure Device where
  stored : Stored
  power : PowerState

namespace Device

open Stored (Succeeds Accepted)

instance (io : FileIO) : Decidable (Succeeds io) :=
  inferInstanceAs (Decidable (_ ∧ _))

/-- All saves of the call succeed. -/
def Saved : Stored.Label → Prop
  | .setPowerState _ io _ => Succeeds io
  | .setNetworkStandbyMode _ io _ => Succeeds io
  | .setDeepSleepTimer io io' _ => Succeeds io ∧ Succeeds io'

instance (l : Stored.Label) : Decidable (Saved l) :=
  match l with
  | .setPowerState _ _ _ => inferInstanceAs (Decidable (Succeeds _))
  | .setNetworkStandbyMode _ _ _ => inferInstanceAs (Decidable (Succeeds _))
  | .setDeepSleepTimer _ _ _ => inferInstanceAs (Decidable (Succeeds _ ∧ Succeeds _))

/-- What the platform reports after a successful call. -/
def powerAfter (power : PowerState) : Stored.Label → PowerState
  | .setPowerState _ _ powerState => powerState
  | .setNetworkStandbyMode _ _ _ | .setDeepSleepTimer _ _ _ => power

/-- The successful operations. `SetWakeupSourceConfig` touches neither the settings nor the power
state. -/
inductive Label
  | call (l : Stored.Label)
  | setWakeupSourceConfig

/-- The machine of successful operations. -/
def device (T : Target) : Machine Device Label Empty where
  step d
    | .call l =>
      let r := d.stored.call T l
      if r.1 = .errorNone ∧ Saved l then some (⟨r.2, powerAfter d.power l⟩, []) else none
    | .setWakeupSourceConfig => some (d, [])

/-- What the platform reports after `init`. -/
def powerAfterInit (power : PowerState) (calls : List (PowerState × ErrorCode)) : PowerState :=
  calls.foldl (fun power call => if call.2 = .errorNone then call.1 else power) power

/-- All system calls of the construction succeed. -/
def GoodIO (st : StartUp) : Prop :=
  st.io = fun _ => .good

/-! ## Loading -/

section Load

variable {T : Target} {st : StartUp} {files : FileSystem} {settings base r : Settings}
  {bytes : List UInt8}

/-- The file that `loadFile` leaves holds the settings that it returns. -/
theorem holds_loadFile (now : Time) (file : Option (List UInt8)) :
    Stored.Holds T (Settings.loadFile T .good now file).2
      (Settings.loadFile T .good now file).1 := by
  simp only [Settings.loadFile, FileIO.good, Bool.not_true, Bool.false_eq_true, if_false]
  split
  · rename_i r hread
    exact ⟨_, Settings.read_of_read hread (.default 0), rfl, rfl, rfl⟩
  · exact Stored.holds_save_good.mpr rfl

/-- `loadFile` returns the settings that the file holds. -/
theorem loadFile_of_holds {file : Option (List UInt8)} (h : Stored.Holds T file settings)
    (now : Time) :
    (Settings.loadFile T .good now file).1.powerState = settings.powerState ∧
      (Settings.loadFile T .good now file).1.nwStandbyMode = settings.nwStandbyMode := by
  obtain ⟨r, hread, hpower, hmode, -⟩ := h
  simp only [Settings.loadFile, FileIO.good, Bool.not_true, Bool.false_eq_true, if_false]
  rw [Settings.read_of_read hread (.default now)]
  exact ⟨hpower, hmode⟩

/-- Without `PLATCO_BOOTTO_STANDBY`, `Load` differs from `loadFile` in the state before the reboot
only. -/
theorem load_spec (hboot : T.bootToStandby = false) (hio : GoodIO st) :
    let r := Settings.load T st.io st.now .settingsFile files
    let r₀ := Settings.loadFile T .good st.now (files .settingsFile)
    r.1.powerState = r₀.1.powerState ∧ r.1.nwStandbyMode = r₀.1.nwStandbyMode ∧
      r.1.deepSleepTimeout = r₀.1.deepSleepTimeout ∧ r.2 .settingsFile = r₀.2 := by
  rw [hio]
  unfold Settings.load
  simp only [reduceCtorEq, if_false]
  split
  · simp [Settings.bootState, hboot]
  · simp [Settings.bootState, hboot]

end Load

/-! ## The invariant -/

/-- The file holds the settings, and the platform is in their power state. -/
structure InStep (T : Target) (d : Device) : Prop where
  version : d.stored.settings.version = SettingsV1.version
  persisted : Stored.Persisted T d.stored
  power : d.stored.settings.powerState = d.power

section Construction

variable {T : Target} {st : StartUp} {files : FileSystem} {power : PowerState}

/-- What has been loaded is in the file. -/
theorem persisted_beforeSync (hboot : T.bootToStandby = false) (hio : GoodIO st) :
    Stored.Persisted T (Stored.beforeSync T st files) := by
  obtain ⟨hpower, hmode, htimeout, hfile⟩ := @load_spec T st files hboot hio
  obtain ⟨r, hread, hpower', hmode', htimeout'⟩ :=
    holds_loadFile (T := T) st.now (files .settingsFile)
  -- `init` has not yet touched what `Load` has found
  refine ⟨r, ?_, hpower'.trans hpower.symm, hmode'.trans hmode.symm, htimeout'.trans htimeout.symm⟩
  rw [← hread, ← hfile]
  rfl

/-- The settings that have been loaded have a version that `Load` accepts. -/
theorem version_beforeSync (hio : GoodIO st) :
    (Stored.beforeSync T st files).settings.version = SettingsV1.version := by
  refine Settings.load_version ?_
  rw [hio]
  rfl

/-- The platform takes the state that it is asked for, or it stays in the one that it has
reported. -/
theorem powerAfterInit_platformCalls (env : Environment) (power powerState : PowerState) :
    powerAfterInit power (Stored.platformCalls env powerState) =
      if Accepted env powerState then powerState else power := by
  unfold Stored.platformCalls
  by_cases hignore : env.ignoreDeepSleep = true ∧ powerState = .standbyDeepSleep
  · rw [if_pos hignore, if_neg fun h : Accepted env powerState => h.1 hignore]
    rfl
  · by_cases hplat : env.platformSetPowerState = .errorNone
    · rw [if_neg hignore, if_pos (show Accepted env powerState from ⟨hignore, hplat⟩)]
      simp [powerAfterInit, hplat]
    · rw [if_neg hignore, if_neg fun h : Accepted env powerState => hplat h.2]
      simp [powerAfterInit, hplat]

/-- `init` leaves the settings in the file, and the platform in their power state. -/
theorem inStep_create (hboot : T.bootToStandby = false) (hio : GoodIO st)
    (hget : st.platformGetPowerState = some power) :
    InStep T ⟨(Stored.create T st files).1, powerAfterInit power (Stored.create T st files).2⟩ := by
  have hversion := @version_beforeSync T st files hio
  have hpersisted := @persisted_beforeSync T st files hboot hio
  have hsettings := Stored.create_settings T st files
  have hfiles := Stored.create_files T st files
  have hcalls := Stored.create_calls T st files
  -- either `init` finds the two in agreement, or it saves the settings that result
  rcases Stored.sync_cases T (Stored.beforeSync T st files) st with ⟨hsync, hsame⟩ | ⟨_, hsync⟩
  · rw [hsync] at hsettings hfiles hcalls
    refine ⟨hsettings ▸ hversion, ?_, ?_⟩
    · rw [Stored.Persisted, Stored.file, hfiles, hsettings]
      exact hpersisted
    · rw [hsettings, hcalls]
      exact (hsame power hget).symm
  · obtain rfl : power = _ := Option.some.inj (hget.symm.trans hsync.reported)
    have hversion' : (Stored.create T st files).1.settings.version = SettingsV1.version := by
      rw [hsettings, hsync.settings, Settings.setPowerState_version, hversion]
    refine ⟨hversion', ?_, ?_⟩
    · have hfile := hsync.file
      rw [← hsettings, hio] at hfile
      rw [Stored.Persisted, Stored.file, hfiles]
      change Stored.Holds T ((Stored.beforeSync T st files).sync T st).1.file _
      rw [hfile]
      exact Stored.holds_save_good.mpr hversion'
    · rw [hcalls, hsync.calls, powerAfterInit_platformCalls, hsettings, hsync.settings,
        Settings.setPowerState_powerState]

/-- A controller that is constructed in the place of another one has its power state and its network
standby mode, and a timeout that has not been set. -/
theorem create_of_inStep {d : Device} (hd : InStep T d) (hboot : T.bootToStandby = false)
    (hio : GoodIO st) (hget : st.platformGetPowerState = some d.power) :
    (Stored.create T st d.stored.files).1.settings.powerState = d.stored.settings.powerState ∧
      (Stored.create T st d.stored.files).1.settings.nwStandbyMode =
        d.stored.settings.nwStandbyMode := by
  obtain ⟨hpower, hmode, -, -⟩ := @load_spec T st d.stored.files hboot hio
  obtain ⟨hpower', hmode'⟩ := loadFile_of_holds hd.persisted st.now
  have hsettings := Stored.create_settings T st d.stored.files
  have hload : (Stored.beforeSync T st d.stored.files).settings.powerState = d.power :=
    (hpower.trans hpower').trans hd.power
  rcases Stored.sync_cases T (Stored.beforeSync T st d.stored.files) st with
    ⟨hsync, -⟩ | ⟨currentState, hsync⟩
  · rw [hsettings, hsync]
    exact ⟨hpower.trans hpower', hmode.trans hmode'⟩
  · -- the platform reports the state of the settings
    have hsame := Option.some.inj (hget.symm.trans hsync.reported)
    exact absurd (hload.trans hsame) hsync.differs

end Construction

/-! ## Runs -/

variable {T : Target} {d d' : Device} {l : Label} {ls : List Label} {os : List Empty}

/-- A successful call whose saves succeed leaves the settings in the file. -/
theorem saves_of_saved {s : Stored} {l : Stored.Label}
    (hversion : s.settings.version = SettingsV1.version) (hs : Stored.Persisted T s)
    (hl : Saved l) : Stored.Saves T s l := by
  cases l with
  | setPowerState env io powerState =>
    refine fun _ => ⟨fun _ => ?_, fun hno => absurd hl hno⟩
    rw [Settings.setPowerState_version, hversion]
  | setNetworkStandbyMode wakeup io standbyMode =>
    simp only [Stored.Saves]
    split
    · exact hs
    · exact fun _ _ => hversion
  | setDeepSleepTimer io io' timeOut => exact ⟨fun _ => hversion, fun hno => absurd hl.2 hno⟩

/-- After a successful call the platform is in the power state of the settings. -/
theorem power_call {s : Stored} {l : Stored.Label} {power : PowerState}
    (hpower : s.settings.powerState = power) (hcode : (s.call T l).1 = .errorNone) :
    (s.call T l).2.settings.powerState = powerAfter power l := by
  cases l with
  | setPowerState env io powerState =>
    -- a refused state would have been reported
    rcases Stored.setPowerState_spec T s env io powerState with ⟨-, -, hset, -⟩ | ⟨-, hno, -⟩
    · rw [Stored.call, hset, Settings.setPowerState_powerState]
      rfl
    · exact absurd hcode hno
  | setNetworkStandbyMode wakeup io standbyMode =>
    simp only [Stored.call, Stored.setNetworkStandbyMode]
    split_ifs <;> exact hpower
  | setDeepSleepTimer io io' timeOut => exact hpower

/-- A step that makes a call. -/
theorem step_call {l : Stored.Label} (h : (device T).step d (.call l) = some (d', os)) :
    (d.stored.call T l).1 = .errorNone ∧ Saved l ∧
      d' = ⟨(d.stored.call T l).2, powerAfter d.power l⟩ := by
  simp only [device] at h
  split at h
  · rename_i hok
    cases h
    exact ⟨hok.1, hok.2, rfl⟩
  · cases h

/-- The invariant is kept. -/
theorem inStep_step (hd : InStep T d) (h : (device T).step d l = some (d', os)) :
    InStep T d' := by
  cases l with
  | call l =>
    obtain ⟨hcode, hsaved, rfl⟩ := step_call h
    refine ⟨(Stored.call_version T d.stored l).trans hd.version, ?_, power_call hd.power hcode⟩
    exact Stored.persisted_call_iff.mpr (saves_of_saved hd.version hd.persisted hsaved) hcode
  | setWakeupSourceConfig =>
    cases h
    exact hd

/-- The operation sets the deep sleep timer. -/
def SetsTimer : Label → Prop
  | .call (.setDeepSleepTimer _ _ _) => True
  | _ => False

/-- The controller knows whether its timeout has been set. -/
theorem isDeepSleepTimeoutSet_step (h : (device T).step d l = some (d', os)) :
    d'.stored.controller.isDeepSleepTimeoutSet = true ↔
      d.stored.controller.isDeepSleepTimeoutSet = true ∨ SetsTimer l := by
  cases l with
  | call l =>
    obtain ⟨-, -, rfl⟩ := step_call h
    cases l with
    | setPowerState env io powerState =>
      rw [Stored.call, Stored.setPowerState_isDeepSleepTimeoutSet]
      simp [SetsTimer]
    | setNetworkStandbyMode wakeup io standbyMode =>
      simp only [Stored.call, Stored.setNetworkStandbyMode, SetsTimer, or_false]
      split_ifs <;> exact Iff.rfl
    | setDeepSleepTimer io io' timeOut =>
      simp [Stored.call, Stored.setDeepSleepTimer, Stored.saveSettings, SetsTimer]
  | setWakeupSourceConfig =>
    cases h
    simp [SetsTimer]

/-- The timeout of a controller has been set if one of its operations has set it. -/
theorem isDeepSleepTimeoutSet_run (h : (device T).Run d ls os d')
    (hd : d.stored.controller.isDeepSleepTimeoutSet = false) :
    d'.stored.controller.isDeepSleepTimeoutSet = true ↔ ∃ l ∈ ls, SetsTimer l := by
  induction h with
  | nil => simp [hd]
  | snoc _ hstep ih =>
    rw [isDeepSleepTimeoutSet_step hstep, ih]
    simp [or_and_right, exists_or]

/-- After any sequence of successful operations, a controller that is constructed in the place of
the one at hand reports the same power state and the same network standby mode. Its next activation
has the same wake-up timeout exactly if no operation has set the deep sleep timer, or the timeout it
computes happens to be the one that has been set. -/
theorem restart_iff {T : Target} (hboot : T.bootToStandby = false) {st st' : StartUp}
    (hio : GoodIO st) (hio' : GoodIO st') {files : FileSystem} {power : PowerState}
    (hget : st.platformGetPowerState = some power) {ls : List Label} {d : Device}
    (hrun : (device T).Run
      ⟨(Stored.create T st files).1, powerAfterInit power (Stored.create T st files).2⟩ ls [] d)
    (hget' : st'.platformGetPowerState = some d.power) (env : Environment) :
    let s' := (Stored.create T st' d.stored.files).1
    (s'.settings.powerState = d.stored.settings.powerState ∧
      s'.settings.nwStandbyMode = d.stored.settings.nwStandbyMode ∧
      ((∃ l ∈ ls, SetsTimer l) →
        s'.controller.deepSleepTimeout env = d.stored.controller.deepSleepTimeout env)) ↔
    (∃ l ∈ ls, SetsTimer l) → env.wakeupTime = d.stored.settings.deepSleepTimeout := by
  intro s'
  have hd : InStep T d :=
    hrun.invariant (inStep_create hboot hio hget) fun _ _ _ _ hd h => inStep_step hd h
  obtain ⟨hpower, hmode⟩ := create_of_inStep hd hboot hio' hget'
  have hset := isDeepSleepTimeoutSet_run hrun (Stored.create_isDeepSleepTimeoutSet T st files)
  -- the new controller computes its timeout, the old one uses the one that has been set
  have hnew : s'.controller.deepSleepTimeout env = env.wakeupTime := by
    rw [PowerController.deepSleepTimeout, Stored.create_isDeepSleepTimeoutSet]
    rfl
  have hold : (∃ l ∈ ls, SetsTimer l) →
      d.stored.controller.deepSleepTimeout env = d.stored.settings.deepSleepTimeout := by
    intro h
    rw [PowerController.deepSleepTimeout, hset.mpr h]
    rfl
  constructor
  · rintro ⟨-, -, htimeout⟩ h
    rw [← hnew, htimeout h, hold h]
  · intro h
    refine ⟨hpower, hmode, fun htimer => ?_⟩
    rw [hnew, hold htimer, h htimer]

/-- A start on a platform that reports `power` and takes every state. -/
def startUp (power : PowerState) : StartUp where
  io _ := .good
  now := 0
  platformGetPowerState := some power
  env := ⟨false, .errorNone, 0, 0⟩

/-- The device that is built from an empty file system, on a platform that is in OFF. -/
def started : Device :=
  let r := Stored.create (.sample false) (startUp .off) fun _ => none
  ⟨r.1, powerAfterInit .off r.2⟩

/-- A restart in STANDBY with the network standby mode on. -/
theorem restart_of_standby :
    ∃ d, (device (.sample false)).Run started
        [.call (.setPowerState ⟨false, .errorNone, 1, 0⟩ .good .standby),
          .call (.setNetworkStandbyMode .errorNone .good true)] [] d ∧
      let s' := (Stored.create (.sample false) (startUp .standby) d.stored.files).1
      s'.settings.powerState = d.stored.settings.powerState ∧
        s'.settings.nwStandbyMode = d.stored.settings.nwStandbyMode := by
  refine ⟨_, Machine.run_of_exec rfl, ?_⟩
  have hrestart := @restart_iff (.sample false) rfl (startUp .off) (startUp .standby) rfl rfl
    (fun _ => none) .off rfl
    [.call (.setPowerState ⟨false, .errorNone, 1, 0⟩ .good .standby),
      .call (.setNetworkStandbyMode .errorNone .good true)] _ (Machine.run_of_exec rfl) rfl
    ⟨false, .errorNone, 2, 300⟩
  obtain ⟨hpower, hmode, -⟩ := hrestart.mpr (by simp [SetsTimer])
  exact ⟨hpower, hmode⟩

/-- The deep sleep timer is set to 60 seconds. After a restart the next activation gets the timeout
that is computed, here 300 seconds. -/
theorem timeout_lost :
    ∃ d, (device (.sample false)).Run started [.call (.setDeepSleepTimer .good .good 60)] [] d ∧
      d.stored.controller.deepSleepTimeout ⟨false, .errorNone, 2, 300⟩ = 60 ∧
      (Stored.create (.sample false) (startUp d.power) d.stored.files).1.controller.deepSleepTimeout
        ⟨false, .errorNone, 2, 300⟩ = 300 :=
  ⟨_, Machine.run_of_exec rfl, rfl, rfl⟩

end Device

end PowerManager
