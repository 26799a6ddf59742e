import PowerManager.Settings.Repair

/-!
# Saves that are cut short

`Settings::Save` writes the record over the one in the file. If only the first `k` bytes of it
reach the file (the device loses power, or `write` writes less than it was asked to), the file
holds a record made of both, and nothing in it tells.

* `record_cut`: the fields before the cut are new, those behind it are old, and the one that the
  cut goes through is a mixture of the two.
* `save_atomic_iff`: for which saves and cuts `Load` still finds the old or the new settings, and
  for which ones `Save` is right to return true.
-/

namespace PowerManager

namespace Settings

variable {T : Target} {io : FileIO} {now : Time} {old : List UInt8} {k : ℕ} {s n : Settings}

/-- The bytes that `SettingsV1::Save` hands to `write`. -/
def image (T : Target) (s : Settings) : List UInt8 :=
  (SettingsV1.codec T.byteOrder).encode (SettingsV1.pwrSettings T s)

/-- A file after the first `k` bytes of the settings have reached it. -/
def cut (T : Target) (s : Settings) (k : ℕ) (old : List UInt8) : List UInt8 :=
  overwrite old ((image T s).take k)

/-- `Settings::Save` to a file that could be opened, by what `write` returns (`none` for an error).
The number of bytes is not looked at. -/
def saveWritten (T : Target) (s : Settings) (res : Option ℕ) (old : List UInt8) :
    Bool × List UInt8 :=
  match res with
  | none => (false, old)
  | some k => (true, cut T s k old)

/-- A `write` that fails or writes everything. -/
theorem save_eq_saveWritten (s : Settings) (writes : Bool) (old : List UInt8) :
    s.save T ⟨true, writes⟩ (some old) =
      let r := saveWritten T s (if writes then some SettingsV1.size else none) old
      (r.1, some r.2) := by
  cases writes with
  | false => rfl
  | true =>
    have hlen : (image T s).length = SettingsV1.size :=
      (SettingsV1.codec T.byteOrder).length_encode _
    simp only [if_true, saveWritten, cut, ← hlen, List.take_length]
    rfl

/-! ## The record in such a file -/

/-- What is read after the first `k` bytes of a record have been written, field by field. -/
theorem torn_codec (order : ByteOrder) (old : List UInt8) (r : PWRMgrSettings) (k : ℕ) :
    let word (start : ℕ) (w : UInt32) := (ByteCodec.word order).torn (old.drop start) w (k - start)
    (SettingsV1.codec order).torn old r k =
      { header.magic := word 0 r.header.magic
        header.version := word 4 r.header.version
        header.length := word 8 r.header.length
        powerState := word 12 r.powerState
        brightness := word 16 r.brightness
        color := word 20 r.color
        deepSleepTimeout := word 24 r.deepSleepTimeout
        nwStandbyMode := ByteCodec.bool.torn (old.drop 28) r.nwStandbyMode (k - 28) } := by
  intro word
  simp only [SettingsV1.codec, SettingsV1.headerCodec, ByteCodec.torn_imap, ByteCodec.torn_prod,
    ByteCodec.width_imap, ByteCodec.width_prod, ByteCodec.width_word, List.drop_drop, Nat.sub_sub,
    Nat.reduceAdd, word, List.drop_zero, Nat.sub_zero]

/-- Where the fields are. -/
theorem record_eq (T : Target) (bytes : List UInt8) :
    let word (start : ℕ) := (ByteCodec.word T.byteOrder).decode (bytes.drop start)
    record T bytes =
      { header.magic := word 0
        header.version := word 4
        header.length := word 8
        powerState := word 12
        brightness := word 16
        color := word 20
        deepSleepTimeout := word 24
        nwStandbyMode := ByteCodec.bool.decode (bytes.drop 28) } := by
  have h := torn_codec T.byteOrder bytes (record T bytes) 0
  simp only [Nat.zero_sub, ByteCodec.torn_zero] at h
  exact h

/-- A field of four bytes that begins `start` bytes into the record. -/
theorem torn_word (order : ByteOrder) {old : List UInt8} {start : ℕ}
    (h : start + 4 ≤ old.length) (w : UInt32) (k : ℕ) :
    (ByteCodec.word order).torn (old.drop start) w (k - start) =
      (ByteCodec.word order).mix (k - start) w ((ByteCodec.word order).decode (old.drop start)) := by
  apply (ByteCodec.exact_word order).torn_eq_mix
  rw [List.length_drop]
  change 4 ≤ _
  omega

/-- The mode is one byte. -/
theorem torn_bool (old : List UInt8) (b : Bool) (k : ℕ) :
    ByteCodec.bool.torn (old.drop 28) b (k - 28) =
      if 28 < k then b else ByteCodec.bool.decode (old.drop 28) := by
  split
  · refine ByteCodec.bool.torn_of_width_le _ _ ?_
    change 1 ≤ _
    omega
  · rw [Nat.sub_eq_zero_of_le (by omega), ByteCodec.torn_zero]

/-- The fields before the cut are new, those behind it are old, and the one that it goes through is
a mixture. -/
theorem record_cut (hlen : SettingsV1.size ≤ old.length) (s : Settings) (k : ℕ) :
    let r := record T old
    let mix := (ByteCodec.word T.byteOrder).mix
    record T (cut T s k old) =
      { header.magic := mix (k - 0) s.magic r.header.magic
        header.version := mix (k - 4) s.version r.header.version
        header.length := mix (k - 8) (.ofNat SettingsV1.size) r.header.length
        powerState := mix (k - 12) (T.powerStates.conv s.powerState) r.powerState
        brightness := mix (k - 16) 0 r.brightness
        color := mix (k - 20) 0 r.color
        deepSleepTimeout := mix (k - 24) s.deepSleepTimeout r.deepSleepTimeout
        nwStandbyMode := if 28 < k then s.nwStandbyMode else r.nwStandbyMode } := by
  intro r mix
  rw [SettingsV1.size] at hlen
  -- a word of a file that is long enough is a mixture of its new and its old value
  have hcut : record T (cut T s k old) =
      (SettingsV1.codec T.byteOrder).torn old (SettingsV1.pwrSettings T s) k := rfl
  simp only [hcut, torn_codec, r, record_eq T old, torn_bool]
  repeat rw [torn_word _ (by omega)]
  rfl

/-! ## Old or new -/

/-- A field that is read as the old one after `k` bytes of new settings have been written over the
record: the bytes of it that are before the cut are those that were there. Of the power state only
what its code stands for is read. -/
def Field.KeepsOld (T : Target) (n : Settings) (r : PWRMgrSettings) (k : ℕ) : Field → Prop :=
  let bytes := (ByteCodec.word T.byteOrder).encode
  fun
  | .magic => (bytes n.magic).take k = (bytes r.header.magic).take k
  | .version => (bytes n.version).take (k - 4) = (bytes r.header.version).take (k - 4)
  | .powerState =>
    T.powerStates.convBack ((ByteCodec.word T.byteOrder).mix (k - 12)
      (T.powerStates.conv n.powerState) r.powerState) = T.powerStates.convBack r.powerState
  | .deepSleepTimeout =>
    (bytes n.deepSleepTimeout).take (k - 24) = (bytes r.deepSleepTimeout).take (k - 24)
  | .nwStandbyMode => k ≤ 28 ∨ n.nwStandbyMode = r.nwStandbyMode

/-- A field that is read as the new one: the bytes behind the cut are those of the new value. -/
def Field.TakesNew (T : Target) (n : Settings) (r : PWRMgrSettings) (k : ℕ) : Field → Prop :=
  let bytes := (ByteCodec.word T.byteOrder).encode
  fun
  | .magic => (bytes n.magic).drop k = (bytes r.header.magic).drop k
  | .version => n.version = r.header.version
  | .powerState =>
    T.powerStates.convBack ((ByteCodec.word T.byteOrder).mix (k - 12)
      (T.powerStates.conv n.powerState) r.powerState) = n.powerState
  | .deepSleepTimeout =>
    (bytes n.deepSleepTimeout).drop (k - 24) = (bytes r.deepSleepTimeout).drop (k - 24)
  | .nwStandbyMode => 28 < k ∨ n.nwStandbyMode = r.nwStandbyMode

instance (T : Target) (n : Settings) (r : PWRMgrSettings) (k : ℕ) :
    DecidablePred (Field.KeepsOld T n r k)
  | .magic | .version | .powerState | .deepSleepTimeout => inferInstanceAs (Decidable (_ = _))
  | .nwStandbyMode => inferInstanceAs (Decidable (_ ∨ _))

instance (T : Target) (n : Settings) (r : PWRMgrSettings) (k : ℕ) :
    DecidablePred (Field.TakesNew T n r k)
  | .magic | .version | .powerState | .deepSleepTimeout => inferInstanceAs (Decidable (_ = _))
  | .nwStandbyMode => inferInstanceAs (Decidable (_ ∨ _))

/-- A file that is accepted stays so, unless the cut goes through another version. -/
theorem acceptable_cut (hold : Acceptable T old) (n : Settings) (k : ℕ) :
    Acceptable T (cut T n k old) ↔ Field.version.KeepsOld T n (record T old) k := by
  obtain ⟨hlen, hversion, hlength⟩ := hold
  have hword := ByteCodec.exact_word T.byteOrder
  have hlen' : SettingsV1.size ≤ (cut T n k old).length := by
    rw [cut, overwrite, List.length_append, List.length_drop]
    omega
  have hlength' : (record T old).header.length = .ofNat SettingsV1.size := by
    rw [← UInt32.toNat_inj, hlength]
    rfl
  rw [Acceptable, record_cut hlen]
  dsimp only
  -- the length is the same in both, and so in every mixture of them
  rw [hlength', hword.mix_self, Field.KeepsOld]
  dsimp only
  rw [← hword.mix_eq_right_iff, hversion]
  exact ⟨fun h => h.2.1, fun h => ⟨hlen', h, rfl⟩⟩

/-- The old settings are read if every field keeps its old value. -/
theorem same_cut_old (hlen : SettingsV1.size ≤ old.length) (n base : Settings) (k : ℕ) :
    Same (ofRecord T (record T (cut T n k old)) base) (ofRecord T (record T old) base) ↔
      ∀ f : Field, f.KeepsOld T n (record T old) k := by
  have hword := ByteCodec.exact_word T.byteOrder
  rw [record_cut hlen]
  refine forall_congr' fun f => ?_
  -- only of the power state is anything but the bytes themselves compared
  cases f with
  | magic => exact hword.mix_eq_right_iff
  | version => exact hword.mix_eq_right_iff
  | powerState => exact Iff.rfl
  | deepSleepTimeout => exact hword.mix_eq_right_iff
  | nwStandbyMode =>
    simp only [Field.Agree, Field.KeepsOld, ofRecord]
    split
    · simp [*, Nat.not_le.mpr]
    · simp only [true_iff]
      omega

/-- The new settings are read if every field takes its new value. -/
theorem same_cut_new (hold : Acceptable T old) (haccept : Acceptable T (cut T n k old))
    (base : Settings) :
    Same (ofRecord T (record T (cut T n k old)) base) n ↔
      ∀ f : Field, f.TakesNew T n (record T old) k := by
  have hword := ByteCodec.exact_word T.byteOrder
  have hversion : (record T (cut T n k old)).header.version = (record T old).header.version :=
    haccept.2.1.trans hold.2.1.symm
  rw [record_cut hold.1] at hversion ⊢
  refine forall_congr' fun f => ?_
  cases f with
  | magic => exact hword.mix_eq_left_iff
  | version =>
    simp only [Field.Agree, Field.TakesNew, ofRecord]
    dsimp only at hversion
    rw [hversion]
    exact eq_comm
  | powerState => exact Iff.rfl
  | deepSleepTimeout => exact hword.mix_eq_left_iff
  | nwStandbyMode =>
    simp only [Field.Agree, Field.TakesNew, ofRecord]
    split
    · simp [*]
    · simp [*, eq_comm]

/-- New settings that are read as such have the version of the old ones, and keep it. -/
theorem keepsOld_version (h : Field.version.TakesNew T n (record T old) k) :
    Field.version.KeepsOld T n (record T old) k := by
  have hversion : n.version = (record T old).header.version := h
  simp only [Field.KeepsOld, hversion]

/-- The settings that `Load` finds after a save that has been cut short. -/
theorem loadFile_cut (hold : Acceptable T old) (hopen : io.opens = true) (now : Time)
    (n : Settings) (k : ℕ) :
    (loadFile T io now (some (cut T n k old))).1 =
      if Field.version.KeepsOld T n (record T old) k then
        ofRecord T (record T (cut T n k old)) (.default now)
      else defaults now := by
  rw [loadFile_settings hopen, Option.getD_some]
  simp only [acceptable_cut hold]

/-- `Load` finds the old settings if every field keeps its old value, and where they are the
defaults also if the file is no longer accepted. -/
theorem same_loadFile_old (hold : Acceptable T old) (hopen : io.opens = true) (now : Time)
    (n : Settings) (k : ℕ) (base : Settings) :
    Same (loadFile T io now (some (cut T n k old))).1 (ofRecord T (record T old) base) ↔
      (∀ f : Field, f.KeepsOld T n (record T old) k) ∨
        ¬Field.version.KeepsOld T n (record T old) k ∧
          Same (ofRecord T (record T old) base) (defaults 0) := by
  rw [loadFile_cut hold hopen]
  split
  · rename_i hkeep
    rw [← same_cut_old hold.1 n (.default now) k]
    simp only [hkeep, not_true_eq_false, false_and, or_false]
    exact ⟨fun h => h.trans (ofRecord_same _ _ _), fun h => h.trans (ofRecord_same _ _ _)⟩
  · rename_i hkeep
    have hnot : ¬∀ f : Field, f.KeepsOld T n (record T old) k := fun h => hkeep (h .version)
    simp only [hnot, hkeep, not_false_eq_true, true_and, false_or]
    exact ⟨Same.symm, Same.symm⟩

/-- `Load` finds the new settings if every field takes its new value. -/
theorem same_loadFile_new (hold : Acceptable T old) (hopen : io.opens = true) (now : Time)
    (n : Settings) (k : ℕ) :
    Same (loadFile T io now (some (cut T n k old))).1 n ↔
      ∀ f : Field, f.TakesNew T n (record T old) k := by
  rw [loadFile_cut hold hopen]
  split
  · rename_i hkeep
    exact same_cut_new hold ((acceptable_cut hold n k).mpr hkeep) _
  · -- the version of the defaults is not the new one
    rename_i hkeep
    refine iff_of_false (fun h => hkeep (keepsOld_version ?_))
      fun h => hkeep (keepsOld_version (h .version))
    have hversion : (defaults now).version = n.version := h .version
    exact hversion.symm.trans hold.2.1.symm

/-- After a save that has been cut short, `Load` returns the old or the new settings if and only if
all fields keep their old value or all take their new one, or the file is no longer accepted and
the old settings are the defaults. A `Save` that returns true is right to do so if and only if all
fields take their new value. -/
theorem save_atomic_iff (T : Target) (n : Settings) {old : List UInt8} (hold : Acceptable T old)
    (k : ℕ) :
    let r := record T old
    let o := ofRecord T r (.default 0)
    ((∀ (io : FileIO) (now : Time), io.opens = true →
        let s := (loadFile T io now (some (cut T n k old))).1
        Same s o ∨ Same s n) ↔
      (∀ f : Field, f.KeepsOld T n r k) ∨ (∀ f : Field, f.TakesNew T n r k) ∨
        ¬Field.version.KeepsOld T n r k ∧ Same o (defaults 0)) ∧
    ((∀ (io : FileIO) (now : Time), io.opens = true →
        let saved := saveWritten T n (some k) old
        saved.1 = true → Same (loadFile T io now (some saved.2)).1 n) ↔
      ∀ f : Field, f.TakesNew T n r k) := by
  intro r o
  refine ⟨⟨fun h => ?_, fun h io now hopen => ?_⟩, fun h => ?_, fun h io now hopen _ => ?_⟩
  · -- what is found does not depend on when it is looked for, so one look is enough
    rcases h .good 0 rfl with hloaded | hloaded
    · rcases (same_loadFile_old hold rfl 0 n k _).mp hloaded with hkeeps | hreset
      · exact .inl hkeeps
      · exact .inr (.inr hreset)
    · exact .inr (.inl ((same_loadFile_new hold rfl 0 n k).mp hloaded))
  · rcases h with hkeeps | htakes | hreset
    · exact .inl ((same_loadFile_old hold hopen now n k _).mpr (.inl hkeeps))
    · exact .inr ((same_loadFile_new hold hopen now n k).mpr htakes)
    · exact .inl ((same_loadFile_old hold hopen now n k _).mpr (.inr hreset))
  · exact (same_loadFile_new hold rfl 0 n k).mp (h .good 0 rfl rfl)
  · exact (same_loadFile_new hold hopen now n k).mpr h

/-- Only the mode changes, and it is in the last byte: the old mode or the new one is found. -/
theorem save_atomic_mode :
    let o := defaults 0
    let n := o.setNwStandbyMode true
    let s := (loadFile (.sample false) .good 9 (some (cut (.sample false) n 28
      (image (.sample false) o)))).1
    Same s o ∨ Same s n := by
  intro o n s
  have hold : Acceptable (.sample false) (image (.sample false) o) := by decide
  have hkeeps : ∀ f : Field,
      f.KeepsOld (.sample false) n (record (.sample false) (image (.sample false) o)) 28 := by
    intro f
    cases f <;> decide
  have hold' : Same (ofRecord (.sample false) (record (.sample false) (image (.sample false) o))
      (.default 0)) o := by
    intro f
    cases f <;> decide
  have hload := ((save_atomic_iff (.sample false) n hold 28).1.mpr (.inl hkeeps)) .good 9 rfl
  exact hload.imp_left fun h => h.trans hold'

/-- The device goes to STANDBY and its timeout from 28800 to 60 seconds. The new state is found with
the old timeout if the power fails after 16 bytes, and a timeout of 28732 seconds if `write` returns
25, with which `Save` returns true. -/
theorem not_save_atomic :
    let o := defaults 0
    let n := (o.setPowerState .standby 5).setDeepSleepTimeout 60
    let load (bytes : List UInt8) := (loadFile (.sample false) .good 9 (some bytes)).1
    let lost := load (cut (.sample false) n 16 (image (.sample false) o))
    let saved := saveWritten (.sample false) n (some 25) (image (.sample false) o)
    (lost.powerState = .standby ∧ lost.deepSleepTimeout = 28800 ∧ ¬Same lost o ∧ ¬Same lost n) ∧
      saved.1 = true ∧ (load saved.2).deepSleepTimeout = 28732 ∧
      ¬Same (load saved.2) o ∧ ¬Same (load saved.2) n := by
  decide

end Settings

end PowerManager
