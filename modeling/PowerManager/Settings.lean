import PowerManager.ByteCodec
import PowerManager.PowerController
import Mathlib.Logic.Function.Basic

/-!
# The settings file

`Settings::Save` writes the settings as a `PWRMgr_Settings_t` to the beginning of a file, and
`Settings::Load` reads them back. `Load` of the settings file also keeps a copy in a file under
`/tmp`, which a reboot removes; the power state before the reboot is taken from there.

What depends on the build (the order of the bytes, the values of `PWRMgr_PowerState_t`, and the
macro `PLATCO_BOOTTO_STANDBY`) is a `Target`.

`save_load` says that settings that are saved and loaded are the same settings.
-/

namespace PowerManager

/-- The values of the enumerators of `PWRMgr_PowerState_t` in `plat_power.h`. -/
structure PWRMgrPowerState where
  off : UInt32
  standby : UInt32
  on : UInt32
  standbyLightSleep : UInt32
  standbyDeepSleep : UInt32
  /-- `PWRMGR_POWERSTATE_MAX`. -/
  max : UInt32
  nodup : [off, standby, on, standbyLightSleep, standbyDeepSleep, max].Nodup

namespace PWRMgrPowerState

/-- `SettingsV1::conv` and `PowerImpl::conv`, from a power state to its code. -/
def conv (codes : PWRMgrPowerState) : PowerState → UInt32
  | .off => codes.off
  | .on => codes.on
  | .standby => codes.standby
  | .standbyLightSleep => codes.standbyLightSleep
  | .standbyDeepSleep => codes.standbyDeepSleep
  | .unknown => codes.max

/-- `SettingsV1::conv` and `PowerImpl::conv`, from a code to its power state. -/
def convBack (codes : PWRMgrPowerState) (state : UInt32) : PowerState :=
  if state = codes.off then .off
  else if state = codes.on then .on
  else if state = codes.standby then .standby
  else if state = codes.standbyLightSleep then .standbyLightSleep
  else if state = codes.standbyDeepSleep then .standbyDeepSleep
  else .unknown

/-- No power state is lost in its code. -/
@[simp]
theorem convBack_conv (codes : PWRMgrPowerState) (powerState : PowerState) :
    codes.convBack (codes.conv powerState) = powerState := by
  have hnodup := codes.nodup
  simp only [List.nodup_cons, List.mem_cons, List.not_mem_nil, not_or, or_false] at hnodup
  cases powerState <;> simp [conv, convBack] <;> grind

/-- `PWRMGR_POWERSTATE_MAX` is the code of the unknown state only. -/
theorem conv_eq_max_iff (codes : PWRMgrPowerState) (powerState : PowerState) :
    codes.conv powerState = codes.max ↔ powerState = .unknown := by
  constructor
  · intro h
    have hback := codes.convBack_conv powerState
    rw [h] at hback
    rw [← hback]
    exact codes.convBack_conv .unknown
  · rintro rfl
    rfl

end PWRMgrPowerState

/-- What the build fixes. -/
structure Target where
  byteOrder : ByteOrder
  powerStates : PWRMgrPowerState
  /-- `PLATCO_BOOTTO_STANDBY` is defined. -/
  bootToStandby : Bool

/-- A build for the examples. -/
def Target.sample (bootToStandby : Bool) : Target where
  byteOrder := .little
  powerStates := ⟨0, 1, 2, 3, 4, 5, by decide⟩
  bootToStandby

/-! ## SettingsV1 -/

/-- `Header`: the fields that all versions have in common. -/
structure Header where
  magic : UInt32
  version : UInt32
  length : UInt32
  deriving DecidableEq, Repr

/-- `PWRMgr_Settings_t`, without its padding. -/
structure PWRMgrSettings where
  header : Header
  powerState : UInt32
  brightness : UInt32
  color : UInt32
  deepSleepTimeout : UInt32
  nwStandbyMode : Bool
  deriving DecidableEq, Repr

namespace SettingsV1

/-- `UIMGR_SETTINGS_MAGIC`. -/
def uimgrSettingsMagic : UInt32 := 0xFEBEEFAC

/-- `Version::V1`. -/
def version : UInt32 := 1

/-- The layout of `Header`. -/
def headerCodec (order : ByteOrder) : ByteCodec Header :=
  (ByteCodec.word order).prod ((ByteCodec.word order).prod (ByteCodec.word order)) |>.imap
    (fun p => ⟨p.1, p.2.1, p.2.2⟩) (fun h => (h.magic, h.version, h.length)) (fun _ => rfl)

/-- The layout of `PWRMgr_Settings_t`. After `nwStandbyMode` three bytes of the padding are part of
the size. -/
def codec (order : ByteOrder) : ByteCodec PWRMgrSettings :=
  let word := ByteCodec.word order
  (headerCodec order).prod (word.prod (word.prod (word.prod (word.prod
      (ByteCodec.bool.prod (ByteCodec.padding 3)))))) |>.imap
    (fun p => ⟨p.1, p.2.1, p.2.2.1, p.2.2.2.1, p.2.2.2.2.1, p.2.2.2.2.2.1⟩)
    (fun r => (r.header, r.powerState, r.brightness, r.color, r.deepSleepTimeout,
      r.nwStandbyMode, ()))
    (fun _ => rfl)

/-- `Size()`: `sizeof(PWRMgr_Settings_t)` without `PADDING_SIZE`. -/
def size : ℕ := 32

/-- The size is that of the layout. -/
theorem width_codec (order : ByteOrder) : (codec order).width = size := rfl

/-- The header of a record is at its beginning. -/
theorem decode_headerCodec (order : ByteOrder) (bytes : List UInt8) :
    (headerCodec order).decode bytes = ((codec order).decode bytes).header := rfl

/-- `SettingsV1::Load`, on the content of the file. -/
def load (T : Target) (bytes : List UInt8) (header : Header) (settings : Settings) :
    Option Settings :=
  if header.length.toNat = size then
    if size ≤ bytes.length then
      let pwrSettings := (codec T.byteOrder).decode bytes
      some
        { settings with
          magic := pwrSettings.header.magic
          version := pwrSettings.header.version
          powerState := T.powerStates.convBack pwrSettings.powerState
          deepSleepTimeout := pwrSettings.deepSleepTimeout
          nwStandbyMode := pwrSettings.nwStandbyMode }
    else none
  else none

/-- The record that `SettingsV1::Save` writes. -/
def pwrSettings (T : Target) (settings : Settings) : PWRMgrSettings where
  header := ⟨settings.magic, settings.version, .ofNat size⟩
  powerState := T.powerStates.conv settings.powerState
  brightness := 0
  color := 0
  deepSleepTimeout := settings.deepSleepTimeout
  nwStandbyMode := settings.nwStandbyMode

/-- `SettingsV1::initDefaults`. -/
def initDefaults (settings : Settings) : Settings :=
  { settings with magic := uimgrSettingsMagic, version }

end SettingsV1

/-! ## Load and Save -/

/-- The files that matter. -/
inductive FileName
  /-- `/opt/uimgr_settings.bin`. -/
  | settingsFile
  /-- `/tmp/uimgr_settings.bin`. -/
  | ramSettingsFile
  /-- `/tmp/pwrmgr_restarted`. -/
  | pwrmgrRestarted
  | other (name : String)
  deriving DecidableEq, Repr

/-- The contents of the files that exist. -/
abbrev FileSystem := FileName → Option (List UInt8)

/-- How the system calls on a file go. A `write` that fails leaves the content as it is. -/
structure FileIO where
  opens : Bool
  writes : Bool
  deriving DecidableEq, Repr

/-- All system calls succeed. -/
def FileIO.good : FileIO := ⟨true, true⟩

namespace Settings

/-- The constructor of `Settings`. -/
def default (now : Time) : Settings where
  magic := 0
  version := 0xFFFFFFFF
  powerState := .on
  powerStateBeforeReboot := .on
  deepSleepTimeout := 8 * 60 * 60
  nwStandbyMode := false
  lastUpdateTime := now

/-- `Settings::SetDeepSleepTimeout`. -/
def setDeepSleepTimeout (settings : Settings) (timeout : UInt32) : Settings :=
  { settings with deepSleepTimeout := timeout }

/-- `Settings::SetNwStandbyMode`. -/
def setNwStandbyMode (settings : Settings) (mode : Bool) : Settings :=
  { settings with nwStandbyMode := mode }

/-- The settings in a file, if `Load` accepts it. -/
def read (T : Target) (bytes : List UInt8) (settings : Settings) : Option Settings :=
  let header := (SettingsV1.headerCodec T.byteOrder).decode bytes
  if (SettingsV1.headerCodec T.byteOrder).width ≤ bytes.length then
    if header.version = SettingsV1.version then SettingsV1.load T bytes header settings else none
  else none

/-- `Settings::Save` and `Settings::save`: the result, and the file. -/
def save (T : Target) (io : FileIO) (settings : Settings) (file : Option (List UInt8)) :
    Bool × Option (List UInt8) :=
  if !io.opens then
    (false, file)
  else if !io.writes then
    (false, some (file.getD []))
  else
    let bytes := (SettingsV1.codec T.byteOrder).encode (SettingsV1.pwrSettings T settings)
    (true, some (overwrite (file.getD []) bytes))

/-- The part of `Settings::Load` that reads one file, which it creates, and initialises if it does
not accept it. -/
def loadFile (T : Target) (io : FileIO) (now : Time) (file : Option (List UInt8)) :
    Settings × Option (List UInt8) :=
  if !io.opens then
    (.default now, file)
  else
    match read T (file.getD []) (.default now) with
    | some settings => (settings, some (file.getD []))
    | none =>
      let settings := SettingsV1.initDefaults (.default now)
      (settings, (settings.save T io file).2)

/-- `PLATCO_BOOTTO_STANDBY` lets the device start in STANDBY, unless only the plugin has been
started again. -/
def bootState (T : Target) (files : FileSystem) (powerState : PowerState) : PowerState :=
  if T.bootToStandby ∧ files .pwrmgrRestarted = none then .standby else powerState

/-- `Settings::Load`: the settings and the files. -/
def load (T : Target) (io : FileName → FileIO) (now : Time) (path : FileName) (files : FileSystem) :
    Settings × FileSystem :=
  let r := loadFile T (io path) now (files path)
  let files := Function.update files path r.2
  if path = .ramSettingsFile then
    (r.1, files)
  else
    let settings := { r.1 with powerStateBeforeReboot := r.1.powerState }
    match files .ramSettingsFile with
    | none =>
      let saved := settings.save T (io .ramSettingsFile) none
      let files := Function.update files .ramSettingsFile saved.2
      ({ settings with powerState := bootState T files settings.powerState }, files)
    | some bytes =>
      let ram := loadFile T (io .ramSettingsFile) now (some bytes)
      let files := Function.update files .ramSettingsFile ram.2
      ({ settings with
          powerStateBeforeReboot := ram.1.powerState
          powerState := bootState T files settings.powerState }, files)

/-! ## What Save writes, Load reads -/

section Load

variable {T : Target} {io : FileIO} {now : Time} {settings s : Settings}
  {file : Option (List UInt8)}

/-- What `Load` finds in a file that settings have been saved to. -/
def stored (settings base : Settings) : Settings :=
  { base with
    magic := settings.magic
    version := settings.version
    powerState := settings.powerState
    deepSleepTimeout := settings.deepSleepTimeout
    nwStandbyMode := settings.nwStandbyMode }

/-- What is read does not depend on what the settings were before. -/
theorem read_of_read {bytes : List UInt8} {base r : Settings} (h : read T bytes base = some r)
    (base' : Settings) : read T bytes base' = some (r.stored base') := by
  unfold read SettingsV1.load at h ⊢
  dsimp only at h ⊢
  split_ifs at h ⊢
  cases h
  rfl

/-- A `Save` whose system calls succeed replaces the record in the file. -/
theorem save_good (T : Target) (settings : Settings) (file : Option (List UInt8)) :
    settings.save T .good file = (true, some (overwrite (file.getD [])
      ((SettingsV1.codec T.byteOrder).encode (SettingsV1.pwrSettings T settings)))) := rfl

/-- The settings are read back from the file, whatever it was before. -/
theorem read_overwrite (hversion : settings.version = SettingsV1.version) (old : List UInt8)
    (base : Settings) :
    read T (overwrite old
      ((SettingsV1.codec T.byteOrder).encode (SettingsV1.pwrSettings T settings))) base =
        some (settings.stored base) := by
  have hdecode := (SettingsV1.codec T.byteOrder).decode_overwrite old
    (SettingsV1.pwrSettings T settings)
  have hwidth := (SettingsV1.codec T.byteOrder).width_le_length_overwrite old
    (SettingsV1.pwrSettings T settings)
  rw [SettingsV1.width_codec] at hwidth
  have hheader : (SettingsV1.headerCodec T.byteOrder).width ≤ SettingsV1.size := by
    change 12 ≤ 32
    omega
  have hversion' : (SettingsV1.pwrSettings T settings).header.version = SettingsV1.version :=
    hversion
  have hlength : (SettingsV1.pwrSettings T settings).header.length.toNat = SettingsV1.size := rfl
  rw [read, if_pos (Nat.le_trans hheader hwidth), SettingsV1.decode_headerCodec, hdecode,
    if_pos hversion', SettingsV1.load, if_pos hlength, if_pos hwidth, hdecode]
  simp [stored, SettingsV1.pwrSettings]

/-- Settings of another version are not read back. -/
theorem read_overwrite_of_ne (hversion : settings.version ≠ SettingsV1.version) (old : List UInt8)
    (base : Settings) :
    read T (overwrite old
      ((SettingsV1.codec T.byteOrder).encode (SettingsV1.pwrSettings T settings))) base = none := by
  have hdecode := (SettingsV1.codec T.byteOrder).decode_overwrite old
    (SettingsV1.pwrSettings T settings)
  have hversion' : (SettingsV1.pwrSettings T settings).header.version ≠ SettingsV1.version :=
    hversion
  rw [read, SettingsV1.decode_headerCodec, hdecode, if_neg hversion', ite_self]

/-- Settings that have been read are of the version that is read. -/
theorem version_of_read {bytes : List UInt8} (h : read T bytes settings = some s) :
    s.version = SettingsV1.version := by
  unfold read SettingsV1.load at h
  dsimp only at h
  split_ifs at h with _ hversion
  cases h
  exact hversion

/-- A file that could be opened yields settings of the version that is read. -/
theorem loadFile_version (hopen : io.opens = true) :
    (loadFile T io now file).1.version = SettingsV1.version := by
  simp only [loadFile, hopen, Bool.not_true, Bool.false_eq_true, if_false]
  split
  · rename_i hread
    exact version_of_read hread
  · rfl

/-- The second file and the boot state change no field that identifies the settings. -/
theorem load_version {ios : FileName → FileIO} {path : FileName} {files : FileSystem}
    (hopen : (ios path).opens = true) :
    (load T ios now path files).1.version = SettingsV1.version := by
  have hversion : (loadFile T (ios path) now (files path)).1.version = SettingsV1.version :=
    loadFile_version hopen
  unfold load
  dsimp only
  split
  · exact hversion
  · split <;> exact hversion

end Load

/-- The calls that change settings. -/
inductive Change
  | setPowerState (powerState : PowerState) (now : Time)
  | setDeepSleepTimeout (timeout : UInt32)
  | setNwStandbyMode (mode : Bool)
  deriving DecidableEq, Repr

/-- A call that changes settings. -/
def change (settings : Settings) : Change → Settings
  | .setPowerState powerState now => settings.setPowerState powerState now
  | .setDeepSleepTimeout timeout => settings.setDeepSleepTimeout timeout
  | .setNwStandbyMode mode => settings.setNwStandbyMode mode

theorem setPowerState_version (settings : Settings) (powerState : PowerState) (now : Time) :
    (settings.setPowerState powerState now).version = settings.version := by
  unfold setPowerState
  split <;> rfl

/-- The version does not change. -/
theorem foldl_change_version (settings : Settings) (changes : List Change) :
    (changes.foldl change settings).version = settings.version := by
  induction changes generalizing settings with
  | nil => rfl
  | cons c changes ih =>
    rw [List.foldl_cons, ih]
    cases c with
    | setPowerState powerState now => exact setPowerState_version settings powerState now
    | setDeepSleepTimeout timeout => rfl
    | setNwStandbyMode mode => rfl

/-- `loadFile` of a file that settings have been saved to finds them, and leaves the file alone. -/
theorem loadFile_save {T : Target} {io : FileIO} {settings : Settings} (hopen : io.opens = true)
    (hversion : settings.version = SettingsV1.version) (now : Time)
    (old : Option (List UInt8)) :
    loadFile T io now (settings.save T .good old).2 =
      (settings.stored (.default now), (settings.save T .good old).2) := by
  rw [save_good]
  simp only [loadFile, hopen, Bool.not_true, Bool.false_eq_true, if_false, Option.getD_some]
  rw [read_overwrite hversion]

/-- Settings that have been loaded from a file that could be opened, and then changed, are saved to
and loaded from any file without a loss; but `PLATCO_BOOTTO_STANDBY` makes the loaded power state
STANDBY. -/
theorem save_load (T : Target) {ios ios' : FileName → FileIO} (now now' : Time)
    {path₀ path : FileName} (files₀ files : FileSystem) (changes : List Change)
    (hopen : (ios path₀).opens = true)
    (hopen' : (ios' path).opens = true) :
    let settings := changes.foldl change (load T ios now path₀ files₀).1
    let saved := settings.save T .good (files path)
    let files' := Function.update files path saved.2
    let r := (load T ios' now' path files').1
    saved.1 = true ∧
      (∃ bytes, files' path = some bytes ∧ (read T bytes (.default now')).isSome = true) ∧
      r.magic = settings.magic ∧ r.version = settings.version ∧
      r.deepSleepTimeout = settings.deepSleepTimeout ∧
      r.nwStandbyMode = settings.nwStandbyMode ∧
      r.powerState =
        if T.bootToStandby = true ∧ path ≠ .ramSettingsFile ∧ files' .pwrmgrRestarted = none then
          .standby
        else settings.powerState := by
  intro settings saved files' r
  -- `loadFile` leaves only the current version behind, so that `save` writes what `read` expects
  have hversion : settings.version = SettingsV1.version := by
    rw [foldl_change_version, load_version hopen]
  have hfile : loadFile T (ios' path) now' (files' path) =
      (settings.stored (.default now'), files' path) := by
    have hpath : files' path = saved.2 := Function.update_self ..
    rw [hpath]
    exact loadFile_save hopen' hversion now' _
  have hread : ∃ bytes, files' path = some bytes ∧
      (read T bytes (.default now')).isSome = true := by
    refine ⟨_, Function.update_self .., ?_⟩
    rw [read_overwrite hversion]
    rfl
  have hsame : Function.update files' path (files' path) = files' := Function.update_eq_self ..
  refine ⟨rfl, hread, ?_⟩
  -- `PLATCO_BOOTTO_STANDBY` is not looked at for settings that are in RAM
  rcases eq_or_ne path .ramSettingsFile with hram | hram
  · have hr : r = settings.stored (.default now') := by
      simp only [r, load, hfile, if_pos hram]
    simp [hr, stored, hram]
  · simp only [r, load, hfile, if_neg hram, hsame]
    split
    · simp [stored, bootState, hram]
    · simp [stored, bootState, hram]

/-- Settings saved over a file that is too short to be a settings file, in the unknown state. -/
theorem save_load_unknown :
    let settings := [Change.setPowerState .unknown 5, .setDeepSleepTimeout 60].foldl change
      (load (.sample false) (fun _ => .good) 0 .settingsFile fun _ => none).1
    let saved := settings.save (.sample false) .good (some [1, 2, 3])
    let files := Function.update (fun _ => some [1, 2, 3]) (.other "settings") saved.2
    (load (.sample false) (fun _ => .good) 9 (.other "settings") files).1.powerState = .unknown ∧
      (load (.sample false) (fun _ => .good) 9 (.other "settings") files).1.deepSleepTimeout =
        60 := by
  obtain ⟨-, -, -, -, htimeout, -, hstate⟩ := @save_load (.sample false) (fun _ => .good)
    (fun _ => .good) 0 9 .settingsFile (.other "settings") (fun _ => none)
    (fun _ => some [1, 2, 3]) [.setPowerState .unknown 5, .setDeepSleepTimeout 60] rfl rfl
  exact ⟨hstate, htimeout⟩

/-- With `PLATCO_BOOTTO_STANDBY`, settings that are saved in ON are loaded in STANDBY. -/
theorem save_load_standby :
    let settings := (load (.sample true) (fun _ => .good) 0 .settingsFile fun _ => none).1.change
      (.setPowerState .on 5)
    let saved := settings.save (.sample true) .good none
    let files : FileSystem := Function.update (fun _ => none) .settingsFile saved.2
    saved.1 = true ∧ settings.powerState = .on ∧
      (load (.sample true) (fun _ => .good) 9 .settingsFile files).1.powerState = .standby :=
  ⟨rfl, rfl, rfl⟩

end Settings

end PowerManager
