import PowerManager.Machine
import PowerManager.Settings

/-!
# The power controller and its settings file

`SetPowerState`, `SetNetworkStandbyMode` and `SetDeepSleepTimer` change the settings in memory, and
then save them. `SetPowerState` and `SetDeepSleepTimer` ignore the result of `Save`.
`SetNetworkStandbyMode` reports it, but a second call finds the mode in memory unchanged, and saves
nothing.

`persisted_iff` says of which calls it is true that they have saved the settings if they return
`ERROR_NONE`.
-/

namespace PowerManager

/-- The power controller and the files of the device. -/
structure Stored where
  controller : PowerController
  files : FileSystem

namespace Stored

/-- The settings in memory. -/
def settings (s : Stored) : Settings :=
  s.controller.settings

/-- The settings file. -/
def file (s : Stored) : Option (List UInt8) :=
  s.files .settingsFile

/-- The settings in memory are changed, and saved; the file shows whether the `Save` succeeds. -/
def saveSettings (T : Target) (s : Stored) (io : FileIO) (settings : Settings) : Stored where
  controller := { s.controller with settings }
  files := Function.update s.files .settingsFile (settings.save T io s.file).2

/-- `PowerController::SetPowerState`. -/
def setPowerState (T : Target) (s : Stored) (env : Environment) (io : FileIO)
    (powerState : PowerState) : ErrorCode × Stored :=
  let r := s.controller.setPowerState env powerState
  match r.2.2 with
  | none => (r.1, { s with controller := r.2.1 })
  | some settings => (r.1, { s with controller := r.2.1 }.saveSettings T io settings)

/-- `PowerController::SetNetworkStandbyMode`. `wakeup` is the result of `SetWakeupSourceConfig`. -/
def setNetworkStandbyMode (T : Target) (s : Stored) (wakeup : ErrorCode) (io : FileIO)
    (standbyMode : Bool) : ErrorCode × Stored :=
  if standbyMode = s.settings.nwStandbyMode then
    (.errorNone, s)
  else if wakeup ≠ .errorNone then
    (wakeup, s)
  else
    let settings := s.settings.setNwStandbyMode standbyMode
    let ok := (settings.save T io s.file).1
    -- the mode in memory is changed whether or not it has been saved
    (if ok then .errorNone else .errorGeneral, s.saveSettings T io settings)

/-- `PowerController::SetDeepSleepTimer`. `SetTimeout` saves the settings, and then they are saved
once more. -/
def setDeepSleepTimer (T : Target) (s : Stored) (io io' : FileIO) (timeOut : Int32) :
    ErrorCode × Stored :=
  let settings := s.settings.setDeepSleepTimeout timeOut.toUInt32
  let controller := { s.controller with isDeepSleepTimeoutSet := true }
  let s := { s with controller }.saveSettings T io settings
  (.errorNone, s.saveSettings T io' settings)

/-- A call that changes the settings, with the answers of the surroundings. -/
inductive Label
  | setPowerState (env : Environment) (io : FileIO) (powerState : PowerState)
  | setNetworkStandbyMode (wakeup : ErrorCode) (io : FileIO) (standbyMode : Bool)
  | setDeepSleepTimer (io io' : FileIO) (timeOut : Int32)

/-- The calls. -/
def call (T : Target) (s : Stored) : Label → ErrorCode × Stored
  | .setPowerState env io powerState => s.setPowerState T env io powerState
  | .setNetworkStandbyMode wakeup io standbyMode =>
    s.setNetworkStandbyMode T wakeup io standbyMode
  | .setDeepSleepTimer io io' timeOut => s.setDeepSleepTimer T io io' timeOut

/-- The machine of the calls. Its outputs are the error codes they return. -/
def stored (T : Target) : Machine Stored Label ErrorCode where
  step s l := some ((s.call T l).2, [(s.call T l).1])

/-! ## What is in the file -/

/-- The file decodes to the power state, the network standby mode and the deep sleep timeout of the
settings. -/
def Holds (T : Target) (file : Option (List UInt8)) (settings : Settings) : Prop :=
  ∃ r, Settings.read T (file.getD []) (.default 0) = some r ∧
    r.powerState = settings.powerState ∧ r.nwStandbyMode = settings.nwStandbyMode ∧
    r.deepSleepTimeout = settings.deepSleepTimeout

/-- The file holds the settings in memory. -/
def Persisted (T : Target) (s : Stored) : Prop :=
  Holds T s.file s.settings

/-- All system calls of a `Save` succeed. -/
def Succeeds (io : FileIO) : Prop :=
  io.opens = true ∧ io.writes = true

variable {T : Target} {s s' : Stored} {l : Label} {io io' : FileIO} {settings : Settings}
  {file : Option (List UInt8)}

/-- `Save` reports whether its system calls succeed. -/
theorem save_fst : (settings.save T io file).1 = true ↔ Succeeds io := by
  obtain ⟨opens, writes⟩ := io
  cases opens <;> cases writes <;> simp [Settings.save, Succeeds]

/-- There is one way to succeed. -/
theorem succeeds_iff : Succeeds io ↔ io = .good := by
  obtain ⟨opens, writes⟩ := io
  simp [Succeeds, FileIO.good]

/-- The file holds the settings after a `Save`: it succeeds, with a version that `Load` accepts, or
the file has held them before. -/
def Written (T : Target) (io : FileIO) (file : Option (List UInt8)) (settings : Settings) : Prop :=
  (Succeeds io → settings.version = SettingsV1.version) ∧ (¬Succeeds io → Holds T file settings)

/-- A `Save` that succeeds leaves the settings in the file, if they have a version that `Load`
accepts. -/
theorem holds_save_good :
    Holds T (settings.save T .good file).2 settings ↔ settings.version = SettingsV1.version := by
  constructor
  · rintro ⟨r, hread, -⟩
    by_contra hversion
    have hnone := Settings.read_overwrite_of_ne (T := T) hversion (file.getD []) (.default 0)
    rw [Settings.save_good, Option.getD_some, hnone] at hread
    cases hread
  · intro hversion
    exact ⟨_, Settings.read_overwrite hversion _ _, rfl, rfl, rfl⟩

/-- A `Save` that fails leaves the content of the file. -/
theorem holds_save_of_not (hio : ¬Succeeds io) :
    Holds T (settings.save T io file).2 settings ↔ Holds T file settings := by
  obtain ⟨opens, writes⟩ := io
  cases opens with
  | false => exact Iff.rfl
  | true =>
    cases writes with
    | false => exact Iff.rfl
    | true => exact absurd ⟨rfl, rfl⟩ hio

/-- What a `Save` leaves in the file. -/
theorem holds_save_iff :
    Holds T (settings.save T io file).2 settings ↔ Written T io file settings := by
  -- a `Save` that succeeds forgets the old file, and one that fails keeps it
  by_cases hio : Succeeds io
  · obtain rfl := succeeds_iff.mp hio
    rw [holds_save_good, Written]
    exact ⟨fun h => ⟨fun _ => h, fun hno => absurd hio hno⟩, fun h => h.1 hio⟩
  · rw [holds_save_of_not hio, Written]
    exact ⟨fun h => ⟨fun hyes => absurd hyes hio, fun _ => h⟩, fun h => h.2 hio⟩

@[simp]
theorem saveSettings_file (T : Target) (s : Stored) (io : FileIO) (settings : Settings) :
    (s.saveSettings T io settings).file = (settings.save T io s.file).2 := by
  simp [saveSettings, file]

/-- What `saveSettings` leaves in memory and in the file. -/
theorem persisted_saveSettings :
    Persisted T (s.saveSettings T io settings) ↔ Written T io s.file settings := by
  rw [← holds_save_iff, Persisted, saveSettings_file]
  exact Iff.rfl

/-! ## Calls that persist -/

/-- The platform and the override file let a `SetPowerState` call set the state. -/
def Accepted (env : Environment) (powerState : PowerState) : Prop :=
  ¬(env.ignoreDeepSleep = true ∧ powerState = .standbyDeepSleep) ∧
    env.platformSetPowerState = .errorNone

instance (env : Environment) (powerState : PowerState) : Decidable (Accepted env powerState) :=
  inferInstanceAs (Decidable (_ ∧ _))

/-- The calls that leave the settings in the file if they return `ERROR_NONE`: those whose last
`Save` succeeds, or has nothing to add to the file; and those that save nothing, if no earlier
`Save` has left the file behind. -/
def Saves (T : Target) (s : Stored) : Label → Prop
  | .setPowerState env io powerState =>
    Accepted env powerState → Written T io s.file (s.settings.setPowerState powerState env.now)
  | .setNetworkStandbyMode wakeup io standbyMode =>
    if standbyMode = s.settings.nwStandbyMode then Holds T s.file s.settings
    else wakeup = .errorNone → Succeeds io → s.settings.version = SettingsV1.version
  | .setDeepSleepTimer io io' timeOut =>
    let settings := s.settings.setDeepSleepTimeout timeOut.toUInt32
    (Succeeds io' → settings.version = SettingsV1.version) ∧
      (¬Succeeds io' → Written T io s.file settings)

/-- `SetPowerState`, if the state is accepted: the settings and the time of the wake-up change, and
the settings are saved. -/
theorem setPowerState_of_accepted {env : Environment} {powerState : PowerState}
    (h : Accepted env powerState) (T : Target) (s : Stored) (io : FileIO) :
    s.setPowerState T env io powerState =
      let settings := s.settings.setPowerState powerState env.now
      let controller : PowerController :=
        { s.controller with
          settings
          lastKnownPowerState := s.settings.powerState
          wakeupTimestamp :=
            if powerState = .on ∧ s.settings.powerState ≠ .on then env.now
            else s.controller.wakeupTimestamp }
      (.errorNone, { s with controller }.saveSettings T io settings) := by
  obtain ⟨hignore, hplat⟩ := h
  simp only [setPowerState, PowerController.setPowerState, if_neg hignore, hplat, ne_eq,
    not_true_eq_false, if_false]
  rfl

/-- `SetPowerState`, if the state is refused: nothing changes. -/
theorem setPowerState_of_refused {env : Environment} {powerState : PowerState}
    (h : ¬Accepted env powerState) (T : Target) (s : Stored) (io : FileIO) :
    (s.setPowerState T env io powerState).1 ≠ .errorNone ∧
      (s.setPowerState T env io powerState).2 = s := by
  -- the override file is looked at before the platform is asked
  by_cases hignore : env.ignoreDeepSleep = true ∧ powerState = .standbyDeepSleep
  · simp only [setPowerState, PowerController.setPowerState, if_pos hignore]
    exact ⟨by simp, trivial⟩
  · have hplat : env.platformSetPowerState ≠ .errorNone := fun hplat => h ⟨hignore, hplat⟩
    simp only [setPowerState, PowerController.setPowerState, if_neg hignore, if_pos hplat]
    exact ⟨hplat, trivial⟩

/-- `SetPowerState` returns the error of the platform, or it saves the state. -/
theorem setPowerState_spec (T : Target) (s : Stored) (env : Environment) (io : FileIO)
    (powerState : PowerState) :
    (Accepted env powerState ∧ (s.setPowerState T env io powerState).1 = .errorNone ∧
      (s.setPowerState T env io powerState).2.settings =
        s.settings.setPowerState powerState env.now ∧
      (s.setPowerState T env io powerState).2.file =
        ((s.settings.setPowerState powerState env.now).save T io s.file).2) ∨
    (¬Accepted env powerState ∧ (s.setPowerState T env io powerState).1 ≠ .errorNone ∧
      (s.setPowerState T env io powerState).2 = s) := by
  by_cases hacc : Accepted env powerState
  · refine .inl ⟨hacc, ?_⟩
    rw [setPowerState_of_accepted hacc]
    exact ⟨rfl, rfl, saveSettings_file ..⟩
  · exact .inr ⟨hacc, setPowerState_of_refused hacc T s io⟩

/-- `SetPowerState` does not set a timeout. -/
theorem setPowerState_isDeepSleepTimeoutSet (T : Target) (s : Stored) (env : Environment)
    (io : FileIO) (powerState : PowerState) :
    (s.setPowerState T env io powerState).2.controller.isDeepSleepTimeoutSet =
      s.controller.isDeepSleepTimeoutSet := by
  by_cases hacc : Accepted env powerState
  · rw [setPowerState_of_accepted hacc]
    rfl
  · rw [(setPowerState_of_refused hacc T s io).2]

/-- No call changes the version of the settings. -/
theorem call_version (T : Target) (s : Stored) (l : Label) :
    (s.call T l).2.settings.version = s.settings.version := by
  cases l with
  | setPowerState env io powerState =>
    rcases setPowerState_spec T s env io powerState with ⟨-, -, hset, -⟩ | ⟨-, -, hs⟩
    · rw [call, hset, Settings.setPowerState_version]
    · rw [call, hs]
  | setNetworkStandbyMode wakeup io standbyMode =>
    simp only [call, setNetworkStandbyMode]
    split_ifs <;> rfl
  | setDeepSleepTimer io io' timeOut => rfl

/-- A call that returns `ERROR_NONE` leaves the settings in the file exactly if it `Saves` them. -/
theorem persisted_call_iff :
    ((s.call T l).1 = .errorNone → Persisted T (s.call T l).2) ↔ Saves T s l := by
  cases l with
  | setPowerState env io powerState =>
    rcases setPowerState_spec T s env io powerState with ⟨hacc, hcode, hset, hfile⟩ | ⟨hacc, hcode, -⟩
    · simp only [call, Saves, Persisted, hcode, hset, hfile, hacc, forall_const]
      exact holds_save_iff
    · simp only [call, Saves, hcode, hacc, false_imp_iff]
  | setNetworkStandbyMode wakeup io standbyMode =>
    simp only [call, setNetworkStandbyMode, Saves]
    -- nothing to do; a source that could not be set; a `Save` that succeeds, or fails
    split_ifs with hsame hwakeup hok
    · simp only [forall_const]
      exact Iff.rfl
    · simp only [hwakeup, false_imp_iff]
    · have hio := save_fst.mp hok
      rw [persisted_saveSettings, Written]
      simp only [not_not.mp hwakeup, hio, forall_const, not_true_eq_false, false_imp_iff, and_true]
      exact Iff.rfl
    · have hio : ¬Succeeds io := fun hio => hok (save_fst.mpr hio)
      simp only [hio, false_imp_iff, implies_true]
  | setDeepSleepTimer io io' timeOut =>
    simp only [call, setDeepSleepTimer, Saves, forall_const]
    -- the second `Save` finds the file as the first one has left it
    rw [persisted_saveSettings, saveSettings_file, Written, holds_save_iff]
    exact Iff.rfl

/-- In a sequence of calls, every call that returns `ERROR_NONE` leaves the settings in the file
exactly if every call `Saves` them. -/
theorem persisted_iff (T : Target) (s₀ : Stored) (ls : List Label) :
    (∀ pre l post os t, ls = pre ++ l :: post → (stored T).Run s₀ pre os t →
      (t.call T l).1 = .errorNone → Persisted T (t.call T l).2) ↔
    (stored T).Along (Saves T) s₀ ls := by
  constructor
  · intro h pre l post os t hls hrun
    exact persisted_call_iff.mp (h pre l post os t hls hrun)
  · intro h pre l post os t hls hrun
    exact persisted_call_iff.mpr (h pre l post os t hls hrun)

/-- A controller with the settings of an empty file system. -/
def fresh (T : Target) : Stored :=
  let r := Settings.load T (fun _ => .good) 0 .settingsFile fun _ => none
  ⟨⟨r.1, .on, false, 0⟩, r.2⟩

/-- A call that returns `ERROR_NONE` and leaves the settings out of the file. -/
def Lost (T : Target) (s : Stored) (l : Label) : Prop :=
  (s.call T l).1 = .errorNone ∧ ¬Persisted T (s.call T l).2

/-- `SetPowerState` ignores that `Save` fails. `SetNetworkStandbyMode` reports it, but a second call
returns `ERROR_NONE` and has not saved the mode. -/
theorem persisted_lost :
    Persisted (.sample false) (fresh (.sample false)) ∧
    Lost (.sample false) (fresh (.sample false))
      (.setPowerState ⟨false, .errorNone, 0, 0⟩ ⟨true, false⟩ .standby) ∧
    ∃ t, (stored (.sample false)).Run (fresh (.sample false))
        [.setNetworkStandbyMode .errorNone ⟨true, false⟩ true] [.errorGeneral] t ∧
      Lost (.sample false) t (.setNetworkStandbyMode .errorNone .good true) := by
  refine ⟨⟨_, rfl, rfl, rfl, rfl⟩, ⟨rfl, ?_⟩, _, Machine.run_of_exec rfl, rfl, ?_⟩
  · rintro ⟨r, hread, hstate, -, -⟩
    cases hread
    exact absurd hstate (by decide)
  · rintro ⟨r, hread, -, hmode, -⟩
    cases hread
    exact absurd hmode (by decide)

end Stored

end PowerManager
