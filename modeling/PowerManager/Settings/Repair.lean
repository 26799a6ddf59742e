import PowerManager.Settings

/-!
# Which files are accepted, and what becomes of the others

`Settings::Load` looks at the length of the file and at two words of the header. Where these are as
they should be, it takes five fields from the file; otherwise it takes their defaults, and writes
them to the file.

* `read_eq` says which files are accepted.
* `load_repairs`: `Load` leaves a file behind that it accepts, and loads the same from it again.
* `load_genuine_iff`: `Load` also accepts files that no `Save` has written, since it compares
  neither the magic number nor the code of the power state with anything.
-/

namespace PowerManager

/-- The codes of the states that a device can be in. -/
def PWRMgrPowerState.real (codes : PWRMgrPowerState) : List UInt32 :=
  [codes.off, codes.on, codes.standby, codes.standbyLightSleep, codes.standbyDeepSleep]

namespace Settings

/-! ## What is in the file -/

/-- The fields that are in the file. -/
inductive Field
  | magic
  | version
  | powerState
  | deepSleepTimeout
  | nwStandbyMode
  deriving DecidableEq, Repr

/-- Two settings agree in a field. -/
def Field.Agree (s t : Settings) : Field → Prop
  | .magic => s.magic = t.magic
  | .version => s.version = t.version
  | .powerState => s.powerState = t.powerState
  | .deepSleepTimeout => s.deepSleepTimeout = t.deepSleepTimeout
  | .nwStandbyMode => s.nwStandbyMode = t.nwStandbyMode

instance (s t : Settings) : DecidablePred (Field.Agree s t) := fun f => by
  cases f <;> exact inferInstanceAs (Decidable (_ = _))

/-- Two settings agree in all fields that are in the file. -/
def Same (s t : Settings) : Prop :=
  ∀ f : Field, f.Agree s t

variable {T : Target} {io : FileIO} {now : Time} {bytes : List UInt8} {s t u : Settings}

/-- Settings are the same if the same is found in a file that they have been saved to. -/
theorem same_iff_stored (base : Settings) : Same s t ↔ s.stored base = t.stored base := by
  constructor
  · intro h
    have hmagic : s.magic = t.magic := h .magic
    have hversion : s.version = t.version := h .version
    have hstate : s.powerState = t.powerState := h .powerState
    have htimeout : s.deepSleepTimeout = t.deepSleepTimeout := h .deepSleepTimeout
    have hmode : s.nwStandbyMode = t.nwStandbyMode := h .nwStandbyMode
    simp only [stored, hmagic, hversion, hstate, htimeout, hmode]
  · intro h f
    simp only [stored, Settings.mk.injEq] at h
    obtain ⟨hmagic, hversion, hstate, -, htimeout, hmode, -⟩ := h
    cases f with
    | magic => exact hmagic
    | version => exact hversion
    | powerState => exact hstate
    | deepSleepTimeout => exact htimeout
    | nwStandbyMode => exact hmode

instance (s t : Settings) : Decidable (Same s t) :=
  decidable_of_iff _ (same_iff_stored s).symm

theorem Same.refl (s : Settings) : Same s s := (same_iff_stored s).mpr rfl

theorem Same.symm (h : Same s t) : Same t s :=
  (same_iff_stored s).mpr ((same_iff_stored s).mp h).symm

theorem Same.trans (h : Same s t) (h' : Same t u) : Same s u :=
  (same_iff_stored s).mpr (((same_iff_stored s).mp h).trans ((same_iff_stored s).mp h'))

/-! ## Which files are accepted -/

/-- The record at the beginning of a file. -/
def record (T : Target) (bytes : List UInt8) : PWRMgrSettings :=
  (SettingsV1.codec T.byteOrder).decode bytes

/-- The settings in a record. The fields that are not in it are those of `base`. -/
def ofRecord (T : Target) (r : PWRMgrSettings) (base : Settings) : Settings :=
  { base with
    magic := r.header.magic
    version := r.header.version
    powerState := T.powerStates.convBack r.powerState
    deepSleepTimeout := r.deepSleepTimeout
    nwStandbyMode := r.nwStandbyMode }

/-- What `Load` looks at: the file has the length of a record, and its header says so and names the
version. -/
def Acceptable (T : Target) (bytes : List UInt8) : Prop :=
  SettingsV1.size ≤ bytes.length ∧
    (record T bytes).header.version = SettingsV1.version ∧
    (record T bytes).header.length.toNat = SettingsV1.size

instance (T : Target) (bytes : List UInt8) : Decidable (Acceptable T bytes) :=
  inferInstanceAs (Decidable (_ ∧ _))

/-- `Load` takes all fields from the file, or none. -/
theorem read_eq (T : Target) (bytes : List UInt8) (base : Settings) :
    read T bytes base =
      if Acceptable T bytes then some (ofRecord T (record T bytes) base) else none := by
  have hheader : (SettingsV1.headerCodec T.byteOrder).width ≤ SettingsV1.size := by
    change 12 ≤ 32
    omega
  rw [read, SettingsV1.decode_headerCodec]
  by_cases hlength : SettingsV1.size ≤ bytes.length
  · rw [if_pos (Nat.le_trans hheader hlength), SettingsV1.load, if_pos hlength]
    simp only [Acceptable, record, hlength, true_and, ofRecord]
    split_ifs <;> simp_all
  · -- a file that holds a header but no record is rejected by `SettingsV1::Load`
    have hnot : ¬Acceptable T bytes := fun h => hlength h.1
    simp only [SettingsV1.load, if_neg hlength, if_neg hnot, ite_self]

theorem read_isSome_iff (base : Settings) :
    (read T bytes base).isSome = true ↔ Acceptable T bytes := by
  rw [read_eq]
  split <;> simp [*]

/-- The record in a file that settings have been saved to. -/
theorem record_overwrite (s : Settings) (old : List UInt8) :
    record T (overwrite old ((SettingsV1.codec T.byteOrder).encode (SettingsV1.pwrSettings T s))) =
      SettingsV1.pwrSettings T s :=
  (SettingsV1.codec T.byteOrder).decode_overwrite _ _

/-- Settings of the version that is read can be read back, and only these. -/
theorem acceptable_overwrite (s : Settings) (old : List UInt8) :
    Acceptable T
        (overwrite old ((SettingsV1.codec T.byteOrder).encode (SettingsV1.pwrSettings T s))) ↔
      s.version = SettingsV1.version := by
  have hwidth := (SettingsV1.codec T.byteOrder).width_le_length_overwrite old
    (SettingsV1.pwrSettings T s)
  rw [SettingsV1.width_codec] at hwidth
  rw [Acceptable, record_overwrite]
  -- `Save` always writes the right length, and the version of the settings
  exact ⟨fun h => h.2.1, fun h => ⟨hwidth, h, rfl⟩⟩

/-- The settings in the record that `Save` writes. -/
theorem same_ofRecord_pwrSettings (s base : Settings) :
    Same (ofRecord T (SettingsV1.pwrSettings T s) base) s := by
  intro f
  cases f with
  -- only the power state is coded; the other fields are stored as they are
  | powerState => exact T.powerStates.convBack_conv s.powerState
  | _ => rfl

/-! ## Load repairs -/

/-- The settings of a file that is not accepted. -/
def defaults (now : Time) : Settings := SettingsV1.initDefaults (.default now)

/-- Which settings `Load` takes from a file that it could open. -/
theorem loadFile_settings (hopen : io.opens = true) (now : Time) (file : Option (List UInt8)) :
    (loadFile T io now file).1 =
      if Acceptable T (file.getD []) then ofRecord T (record T (file.getD [])) (.default now)
      else defaults now := by
  simp only [loadFile, hopen, Bool.not_true, Bool.false_eq_true, if_false, read_eq]
  split_ifs <;> rfl

/-- What is in the file afterwards. -/
theorem loadFile_file (now : Time) (file : Option (List UInt8)) :
    ∃ bytes, (loadFile T .good now file).2 = some bytes ∧ Acceptable T bytes ∧
      Same (ofRecord T (record T bytes) (.default now)) (loadFile T .good now file).1 := by
  rw [loadFile_settings rfl]
  simp only [loadFile, FileIO.good, Bool.not_true, Bool.false_eq_true, if_false, read_eq]
  by_cases h : Acceptable T (file.getD [])
  · simp only [if_pos h]
    exact ⟨_, rfl, h, Same.refl _⟩
  · -- the defaults are written to the beginning of the file, whatever was there
    simp only [if_neg h]
    refine ⟨_, rfl, (acceptable_overwrite _ _).mpr rfl, ?_⟩
    rw [record_overwrite]
    exact same_ofRecord_pwrSettings _ _

/-- Settings in a file do not depend on what they were before. -/
theorem ofRecord_same (r : PWRMgrSettings) (base base' : Settings) :
    Same (ofRecord T r base) (ofRecord T r base') := by
  intro f
  cases f <;> rfl

/-- The state before the reboot, which the other file is for, is not in the file. Without
`PLATCO_BOOTTO_STANDBY`, the rest is what has been found in the file. -/
theorem load_same (hboot : T.bootToStandby = false) (ios : FileName → FileIO) (now : Time)
    (path : FileName) (files : FileSystem) :
    Same (load T ios now path files).1 (loadFile T (ios path) now (files path)).1 := by
  unfold load
  dsimp only
  -- the settings under `/tmp`, a copy that is made now, or one that exists
  split
  · exact Same.refl _
  · split <;>
    · intro f
      cases f <;> simp [Field.Agree, bootState, hboot]

/-- The copy under `/tmp` is another file. -/
theorem load_file {ios : FileName → FileIO} (now : Time) (path : FileName) (files : FileSystem) :
    (load T ios now path files).2 path = (loadFile T (ios path) now (files path)).2 := by
  unfold load
  dsimp only
  split
  · exact Function.update_self ..
  · split <;> simp [Function.update_of_ne, *]

/-- `Load` takes all fields from the file or none, and leaves a file behind from which it loads the
same again. -/
theorem load_repairs (hboot : T.bootToStandby = false) {ios ios' : FileName → FileIO}
    (now now' : Time) (path : FileName) (files : FileSystem) (hgood : ios path = .good)
    (hopen : (ios' path).opens = true) :
    let bytes := (files path).getD []
    let r := load T ios now path files
    (if Acceptable T bytes then Same r.1 (ofRecord T (record T bytes) (.default now))
      else Same r.1 (defaults now)) ∧
    (∃ bytes', r.2 path = some bytes' ∧ (read T bytes' (.default now')).isSome = true) ∧
    Same (load T ios' now' path r.2).1 r.1 := by
  intro bytes r
  have hr : Same r.1 (loadFile T .good now (files path)).1 := by
    rw [← hgood]
    exact load_same hboot ios now path files
  -- `bytes'` are what the first `Load` leaves in the file: its own bytes, or those of the defaults
  obtain ⟨bytes', hfile, haccept, hsame⟩ := loadFile_file (T := T) now (files path)
  have hfile' : r.2 path = some bytes' := by
    rw [← hfile, ← hgood]
    exact load_file now path files
  refine ⟨?_, ⟨bytes', hfile', (read_isSome_iff _).mpr haccept⟩, ?_⟩
  · rw [loadFile_settings rfl] at hr
    split
    · rwa [if_pos ‹_›] at hr
    · rwa [if_neg ‹_›] at hr
  · -- the second `Load` accepts what the first one has left behind
    have hagain : Same (load T ios' now' path r.2).1
        (ofRecord T (record T bytes') (.default now')) := by
      have h := load_same hboot ios' now' path r.2
      rwa [loadFile_settings hopen, hfile', Option.getD_some, if_pos haccept] at h
    exact hagain.trans ((ofRecord_same _ _ _).trans (hsame.trans hr.symm))

/-- A file that ends in its header is replaced by the defaults, and these are loaded again. -/
theorem load_repairs_truncated :
    let files : FileSystem := Function.update (fun _ => none) .settingsFile
      (some [0xAC, 0xEF, 0xBE, 0xFE, 1, 0, 0, 0, 32, 0])
    let r := load (.sample false) (fun _ => .good) 0 .settingsFile files
    Same r.1 (defaults 0) ∧ Same (load (.sample false) (fun _ => .good) 9 .settingsFile r.2).1 r.1 := by
  intro files r
  obtain ⟨hr, -, hagain⟩ := @load_repairs (.sample false) rfl (fun _ => .good) (fun _ => .good) 0 9
    .settingsFile files rfl rfl
  exact ⟨hr, hagain⟩

/-! ## What is accepted -/

/-- What a settings file is meant to be. -/
def Genuine (T : Target) (bytes : List UInt8) : Prop :=
  SettingsV1.size ≤ bytes.length ∧
    (record T bytes).header = ⟨SettingsV1.uimgrSettingsMagic, SettingsV1.version, 32⟩ ∧
    (record T bytes).powerState ∈ T.powerStates.real

instance (T : Target) (bytes : List UInt8) : Decidable (Genuine T bytes) :=
  inferInstanceAs (Decidable (_ ∧ _))

/-- What is not looked at. -/
theorem genuine_iff (T : Target) (bytes : List UInt8) :
    Genuine T bytes ↔ Acceptable T bytes ∧
      (record T bytes).header.magic = SettingsV1.uimgrSettingsMagic ∧
      (record T bytes).powerState ∈ T.powerStates.real := by
  have hlength : (record T bytes).header.length.toNat = SettingsV1.size ↔
      (record T bytes).header.length = 32 := by
    rw [← UInt32.toNat_inj]
    rfl
  rw [Genuine, Acceptable, hlength]
  rcases (record T bytes).header with ⟨magic, version, length⟩
  simp only [Header.mk.injEq]
  constructor
  · rintro ⟨hsize, ⟨hmagic, hversion, hlength⟩, hstate⟩
    exact ⟨⟨hsize, hversion, hlength⟩, hmagic, hstate⟩
  · rintro ⟨⟨hsize, hversion, hlength⟩, hmagic, hstate⟩
    exact ⟨hsize, ⟨hmagic, hversion, hlength⟩, hstate⟩

/-- `Load` takes its fields from genuine files only, and the defaults for all others, if and only if
no file that is accepted has another magic number or a power state that is no state of a device. -/
theorem load_genuine_iff (T : Target) (bytes : List UInt8) :
    (∀ (io : FileIO) (now : Time), io.opens = true →
      ((read T bytes (.default now)).isSome = true → Genuine T bytes) ∧
        (¬Genuine T bytes → Same (loadFile T io now (some bytes)).1 (defaults now))) ↔
    (Acceptable T bytes →
      (record T bytes).header.magic = SettingsV1.uimgrSettingsMagic ∧
        (record T bytes).powerState ∈ T.powerStates.real) := by
  simp only [read_isSome_iff]
  constructor
  · intro h haccept
    -- any run of `Load` shows whether a file that it accepts is genuine
    exact ((genuine_iff T bytes).mp ((h .good 0 rfl).1 haccept)).2
  · intro h io now hopen
    refine ⟨fun haccept => (genuine_iff T bytes).mpr ⟨haccept, h haccept⟩, fun hnot => ?_⟩
    have haccept : ¬Acceptable T bytes :=
      fun haccept => hnot ((genuine_iff T bytes).mpr ⟨haccept, h haccept⟩)
    -- what is not genuine is not accepted, and so the defaults are taken
    rw [loadFile_settings hopen, Option.getD_some, if_neg haccept]
    exact Same.refl _

/-- A file without the magic number, and one with the power state 77, are both accepted. -/
theorem load_not_genuine :
    let file (magic : List UInt8) (powerState : UInt8) : List UInt8 :=
      magic ++ [1, 0, 0, 0, 32, 0, 0, 0, powerState, 0, 0, 0] ++ List.replicate 16 0
    let magicless := file [0, 0, 0, 0] 2
    let stateless := file [0xAC, 0xEF, 0xBE, 0xFE] 77
    ((read (.sample false) magicless (.default 0)).isSome = true ∧
        ¬Genuine (.sample false) magicless) ∧
      (read (.sample false) stateless (.default 0)).isSome = true ∧
        ¬Genuine (.sample false) stateless := by
  decide

end Settings

end PowerManager
