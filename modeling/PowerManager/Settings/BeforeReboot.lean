import PowerManager.Machine
import PowerManager.Settings.Repair

/-!
# The power state before the reboot

The first `Settings::Load` after a reboot records the power state of the settings file in a second
file, under `/tmp`. Later loads, until the next reboot, take `powerStateBeforeReboot` from that
file.

The machine `host` lets the plugin start, change its settings and save them, and start again, and
the device reboot, in any order. `powerStateBeforeReboot_kept` says that none of this changes the
recorded state, but a reboot.
-/

namespace PowerManager

/-- The files of a device, and the settings of the plugin if it runs. -/
structure Host where
  files : FileSystem
  settings : Option Settings

namespace Host

/-- What can happen to the settings and their files. -/
inductive Label
  /-- The plugin starts, or starts again, and loads its settings. -/
  | load (now : Time)
  /-- The plugin changes its settings, and saves them. -/
  | change (c : Settings.Change)
  /-- `/tmp/pwrmgr_restarted` is created or removed. -/
  | restarted (present : Bool)
  /-- The device reboots, which clears `/tmp`. -/
  | reboot
  deriving DecidableEq, Repr

open Settings in
/-- The machine. All system calls succeed. -/
def host (T : Target) : Machine Host Label Empty where
  step s
    | .load now =>
      let r := load T (fun _ => .good) now .settingsFile s.files
      some (⟨r.2, some r.1⟩, [])
    | .change c =>
      match s.settings with
      | none => none
      | some settings =>
        let settings := settings.change c
        let file := (settings.save T .good (s.files .settingsFile)).2
        some (⟨Function.update s.files .settingsFile file, some settings⟩, [])
    | .restarted present =>
      some ({ s with
        files := Function.update s.files .pwrmgrRestarted (if present then some [] else none) }, [])
    | .reboot =>
      let files := Function.update s.files .ramSettingsFile none
      -- the settings file is not under `/tmp`
      some (⟨Function.update files .pwrmgrRestarted none, none⟩, [])

/-! ## The recorded state -/

/-- The power state recorded in a settings file, and ON if the file is absent or not valid. -/
def recorded (T : Target) (file : Option (List UInt8)) : PowerState :=
  ((file.bind fun bytes => Settings.read T bytes (.default 0)).map (·.powerState)).getD .on

variable {T : Target} {s t u v : Host} {l : Label} {p : PowerState} {os : List Empty}

/-- What is recorded in a file that exists. -/
theorem recorded_some (T : Target) (bytes : List UInt8) :
    recorded T (some bytes) =
      if Settings.Acceptable T bytes then
        T.powerStates.convBack (Settings.record T bytes).powerState
      else .on := by
  rw [recorded, Option.bind_some, Settings.read_eq]
  split <;> rfl

/-- Nothing is recorded in a file that does not exist, or is empty. -/
theorem recorded_getD (T : Target) (file : Option (List UInt8)) :
    recorded T (some (file.getD [])) = recorded T file := by
  cases file with
  | some bytes => rfl
  | none =>
    rw [recorded_some]
    exact if_neg fun h => absurd h.1 (by change ¬32 ≤ 0; omega)

/-- A file holds the settings that have been saved to it. -/
theorem recorded_save {settings : Settings} (hversion : settings.version = SettingsV1.version)
    (file : Option (List UInt8)) :
    recorded T (settings.save T .good file).2 = settings.powerState := by
  rw [Settings.save_good, recorded, Option.bind_some, Settings.read_overwrite hversion]
  rfl

/-- `loadFile` finds the recorded state, if the file can be opened. -/
theorem loadFile_powerState {io : FileIO} (hopen : io.opens = true) (now : Time)
    (file : Option (List UInt8)) :
    (Settings.loadFile T io now file).1.powerState = recorded T file := by
  rw [Settings.loadFile_settings hopen, ← recorded_getD, recorded_some]
  split <;> rfl

/-- A file that has been opened exists, and the recorded state is still in it. -/
theorem loadFile_recorded (now : Time) (file : Option (List UInt8)) :
    ∃ bytes, (Settings.loadFile T .good now file).2 = some bytes ∧
      recorded T (some bytes) = recorded T file := by
  obtain ⟨bytes, hfile, haccept, hsame⟩ := Settings.loadFile_file (T := T) now file
  have hstate := @loadFile_powerState T .good rfl now file
  refine ⟨bytes, hfile, ?_⟩
  rw [recorded_some, if_pos haccept, ← hstate]
  exact hsame .powerState

/-- The first `Load` records the state of the settings file. -/
theorem load_first {files : FileSystem} (h : files .ramSettingsFile = none) (now : Time) :
    let r := Settings.load T (fun _ => .good) now .settingsFile files
    r.1.powerStateBeforeReboot = recorded T (files .settingsFile) ∧
      ∃ bytes, r.2 .ramSettingsFile = some bytes ∧
        recorded T (some bytes) = recorded T (files .settingsFile) := by
  have hrec := @loadFile_powerState T .good rfl now (files .settingsFile)
  have hversion : (Settings.loadFile T .good now (files .settingsFile)).1.version =
      SettingsV1.version := Settings.loadFile_version rfl
  have hram : Function.update files .settingsFile
      (Settings.loadFile T .good now (files .settingsFile)).2 .ramSettingsFile = none := by
    simp [h]
  simp only [Settings.load, reduceCtorEq, if_false, hram]
  -- the settings are saved to the new file as they have just been loaded
  refine ⟨hrec, _, Function.update_self .., ?_⟩
  rw [← hrec]
  exact recorded_save hversion none

/-- A later `Load` finds the state that the first one has recorded. -/
theorem load_again {files : FileSystem} {bytes : List UInt8}
    (h : files .ramSettingsFile = some bytes) (now : Time) :
    let r := Settings.load T (fun _ => .good) now .settingsFile files
    r.1.powerStateBeforeReboot = recorded T (some bytes) ∧
      ∃ bytes', r.2 .ramSettingsFile = some bytes' ∧
        recorded T (some bytes') = recorded T (some bytes) := by
  have hstate := @loadFile_powerState T .good rfl now (some bytes)
  obtain ⟨bytes', hbytes', hrec⟩ := loadFile_recorded (T := T) now (some bytes)
  have hram : Function.update files .settingsFile
      (Settings.loadFile T .good now (files .settingsFile)).2 .ramSettingsFile = some bytes := by
    simp [h]
  simp only [Settings.load, reduceCtorEq, if_false, hram]
  refine ⟨hstate, bytes', ?_, hrec⟩
  rw [Function.update_self, hbytes']

/-! ## The invariant -/

/-- The state `p` is in the file under `/tmp`, and in the settings of the plugin. -/
structure Kept (T : Target) (p : PowerState) (s : Host) : Prop where
  ram : ∃ bytes, s.files .ramSettingsFile = some bytes ∧ recorded T (some bytes) = p
  settings : ∃ settings, s.settings = some settings ∧ settings.powerStateBeforeReboot = p

/-- No change of the settings touches the state before the reboot. -/
theorem change_powerStateBeforeReboot (settings : Settings) (c : Settings.Change) :
    (settings.change c).powerStateBeforeReboot = settings.powerStateBeforeReboot := by
  cases c with
  | setPowerState powerState now =>
    simp only [Settings.change, Settings.setPowerState]
    split <;> rfl
  | setDeepSleepTimeout timeout => rfl
  | setNwStandbyMode mode => rfl

/-- The first `Load` establishes the invariant. -/
theorem kept_of_first {now : Time} (hram : s.files .ramSettingsFile = none)
    (h : (host T).step s (.load now) = some (t, os)) :
    Kept T (recorded T (s.files .settingsFile)) t := by
  obtain ⟨hbefore, hfile⟩ := load_first (T := T) hram now
  cases h
  exact ⟨hfile, _, rfl, hbefore⟩

/-- Every step but a reboot keeps it. -/
theorem kept_step (hK : Kept T p s) (hl : l ≠ .reboot) (h : (host T).step s l = some (t, os)) :
    Kept T p t := by
  obtain ⟨⟨bytes, hram, hp⟩, settings, hset, hbefore⟩ := hK
  cases l with
  | load now =>
    obtain ⟨hbefore', bytes', hram', hp'⟩ := load_again (T := T) hram now
    cases h
    exact ⟨⟨bytes', hram', hp'.trans hp⟩, _, rfl, hbefore'.trans hp⟩
  | change c =>
    simp only [host, hset] at h
    cases h
    refine ⟨⟨bytes, ?_, hp⟩, _, rfl, ?_⟩
    · simpa using hram
    · rw [change_powerStateBeforeReboot, hbefore]
  | restarted present =>
    cases h
    refine ⟨⟨bytes, ?_, hp⟩, settings, hset, hbefore⟩
    simpa using hram
  | reboot => exact absurd rfl hl

/-- Only `Load` creates the file under `/tmp`. -/
theorem ram_step (hram : s.files .ramSettingsFile = none) (hl : ∀ now, l ≠ .load now)
    (h : (host T).step s l = some (t, os)) : t.files .ramSettingsFile = none := by
  cases l with
  | load now => exact absurd rfl (hl now)
  | change c =>
    simp only [host] at h
    split at h
    · cases h
    · cases h
      simpa using hram
  | restarted present =>
    cases h
    simpa using hram
  | reboot =>
    cases h
    simp

/-- After a reboot there is no file under `/tmp`. -/
theorem ram_reboot (h : (host T).step s .reboot = some (t, os)) :
    t.files .ramSettingsFile = none := by
  cases h
  simp

/-! ## Runs -/

/-- Every load is followed by a reboot: the next one is the first since the last reboot. -/
def NoLoadSinceReboot (ls : List Label) : Prop :=
  ∀ pre post now, ls = pre ++ .load now :: post → .reboot ∈ post

/-- If there has been no load since the last reboot, there is no file under `/tmp`. -/
theorem ram_run {ls : List Label} (h : (host T).Run s ls os t)
    (hram : s.files .ramSettingsFile = none) (hls : NoLoadSinceReboot ls) :
    t.files .ramSettingsFile = none := by
  induction h with
  | nil => exact hram
  | @snoc t u ls os os' l hrun hstep ih =>
    -- the last step is a reboot, or it is not a load: no reboot would follow it
    by_cases hl : l = .reboot
    · subst hl
      exact ram_reboot hstep
    · refine ram_step (ih ?_) ?_ hstep
      · intro pre post now hcut
        have hmem := hls pre (post ++ [l]) now (by simp [hcut])
        rcases List.mem_append.mp hmem with hmem | hmem
        · exact hmem
        · exact absurd (List.mem_singleton.mp hmem).symm hl
      · rintro now rfl
        simpa using hls ls [] now rfl

/-- From the first load after a reboot to the next reboot, and so after every load in between, the
power state before the reboot is the one that the settings file had at this first load. -/
theorem powerStateBeforeReboot_kept (T : Target) {pre post : List Label} {now : Time}
    (hram : s.files .ramSettingsFile = none) (hpre : (host T).Run s pre [] t)
    (hfirst : NoLoadSinceReboot pre) (hpost : .reboot ∉ post)
    (hrun : (host T).Run t (.load now :: post) [] u) :
    ∃ settings, u.settings = some settings ∧
      settings.powerStateBeforeReboot = recorded T (t.files .settingsFile) := by
  obtain ⟨v, os₁, os₂, -, hload, hrest⟩ := hrun.cons_inv
  have hv : Kept T (recorded T (t.files .settingsFile)) v :=
    kept_of_first (ram_run hpre hram hfirst) hload
  -- the first load establishes the invariant, and nothing but a reboot ends it
  have hu : Kept T (recorded T (t.files .settingsFile)) u := by
    refine hrest.invariant_along (C := fun _ l => l ≠ .reboot) ?_ hv
      fun _ _ _ _ hK hl hstep => kept_step hK hl hstep
    rintro pre l post' os t' hcut - rfl
    exact hpost (by simp [hcut])
  exact hu.settings

/-- The plugin starts in STANDBY, the device reboots, and the plugin starts three times while its
power state changes. -/
theorem powerStateBeforeReboot_of_standby :
    let pre : List Label := [.load 0, .change (.setPowerState .standby 1), .reboot]
    let post : List Label := [.change (.setPowerState .on 3), .load 4,
      .change (.setPowerState .standbyDeepSleep 5), .load 6]
    ∃ t u settings, (host (.sample true)).Run ⟨fun _ => none, none⟩ pre [] t ∧
      (host (.sample true)).Run t (.load 2 :: post) [] u ∧ u.settings = some settings ∧
      settings.powerStateBeforeReboot = .standby := by
  intro pre post
  have hpre : (host (.sample true)).Run ⟨fun _ => none, none⟩ pre _ _ := Machine.run_of_exec rfl
  have hfirst : NoLoadSinceReboot pre := by
    intro a b now h
    rcases a with _ | ⟨x, _ | ⟨y, _ | ⟨z, a⟩⟩⟩ <;> simp [pre] at h
    rw [← h.2]
    decide
  have hkept := @powerStateBeforeReboot_kept _ _ _ (.sample true) pre post 2 rfl hpre hfirst
    (by decide) (Machine.run_of_exec rfl)
  obtain ⟨settings, hset, hbefore⟩ := hkept
  exact ⟨_, _, settings, hpre, Machine.run_of_exec rfl, hset, hbefore⟩

end Host

end PowerManager
