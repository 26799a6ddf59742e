import PowerManager.DecimalText
import PowerManager.ThermalController.ClockSpeed
import Mathlib.Data.List.Sort
import Mathlib.Order.Defs.LinearOrder

/-!
# The clock speeds in sysfs

`ThermalImpl` finds the clock speeds of the CPU in a file of the kernel, and sets and reads the
speed through two others. The numbers of the list may come in any order; at most 32 of them are
read. The largest one is the normal speed, the smallest one the minimal speed, and the one in the
middle of the sorted list the scaled speed.

## Main results

* `detemineClockSpeeds_spec`: what is chosen, and that the order of the file does not matter;
* `setClockSpeed_allowed`: in every run, the controller asks for no speed but those in the list, and
  those that are configured;
* `recorded_on_sysfs`: with the list and the three files, the recorded speed is the one that the CPU
  runs at.
-/

namespace PowerManager.Thermal

open CString

/-- `uint32_compare`. -/
def uint32Compare (l r : UInt32) : Ordering :=
  if l = r then .eq else if l < r then .lt else .gt

/-- The number that `fscanf` stores for `%u`. The result is undefined for a number that is no
`uint32_t`; `overflow` stands for it. -/
def storeUnsigned (overflow : ℤ → UInt32) (n : ℤ) : UInt32 :=
  if 0 ≤ n ∧ n ≤ 0xffffffff then .ofInt n else overflow n

/-- The loop of `DetemineClockSpeeds` over the file; `freqList` has 32 elements. -/
def readFreqList (overflow : ℤ → UInt32) (file : List UInt8) : List UInt32 :=
  (scanMany 32 file).map (storeUnsigned overflow)

/-- `qsort` with `uint32_compare`. -/
def sortFreqList (freqList : List UInt32) : List UInt32 :=
  freqList.insertionSort fun l r => uint32Compare l r ≠ .gt

/-- The rates of the CPU. -/
structure CpuRates where
  normal : UInt32
  scaled : UInt32
  minimal : UInt32
  deriving DecidableEq, Repr

/-- `ThermalImpl::DetemineClockSpeeds`. The file is none if it cannot be opened. Only the rates that
are zero are filled in. -/
def ThermalImpl.detemineClockSpeeds (overflow : ℤ → UInt32) (file : Option (List UInt8))
    (rates : CpuRates) : ErrorCode × CpuRates :=
  match file with
  | none => (.errorGeneral, rates)
  | some file =>
    let freqList := sortFreqList (readFreqList overflow file)
    let numFreqs := freqList.length
    if numFreqs = 0 then (.errorGeneral, rates)
    else
      (.errorNone,
        { normal := if rates.normal = 0 then freqList.getD (numFreqs - 1) 0 else rates.normal
          scaled := if rates.scaled = 0 then freqList.getD (numFreqs / 2) 0 else rates.scaled
          minimal := if rates.minimal = 0 then freqList.getD 0 0 else rates.minimal })

/-- The platform of a configuration finds its speeds in the file. -/
def Configuration.OnSysfs (cfg : Configuration) (overflow : ℤ → UInt32)
    (file : Option (List UInt8)) : Prop :=
  ∀ normal scaled minimal, cfg.detemineClockSpeeds normal scaled minimal =
    let rates := (ThermalImpl.detemineClockSpeeds overflow file ⟨normal, scaled, minimal⟩).2
    (rates.normal, rates.scaled, rates.minimal)

/-! ## Positions in a sorted list -/

section Sorted

variable {α : Type*} [LinearOrder α] {l : List α} {i : ℕ} {x : α}

/-- In a sorted list nothing behind a position is less than what is there. -/
theorem countP_lt_le (h : l.Pairwise (· ≤ ·)) (hx : l[i]? = some x) : l.countP (· < x) ≤ i := by
  induction l generalizing i with
  | nil => cases hx
  | cons a l ih =>
    obtain ⟨ha, hl⟩ := List.pairwise_cons.mp h
    cases i with
    | zero =>
      obtain rfl : a = x := by simpa using hx
      rw [Nat.le_zero, List.countP_eq_zero]
      intro b hb
      rcases List.mem_cons.mp hb with rfl | hb
      · simp
      · simpa using ha b hb
    | succ i =>
      rw [List.countP_cons]
      have hrest := ih hl (i := i) (by simpa using hx)
      split <;> omega

/-- In a sorted list nothing in front of a position is greater than what is there. -/
theorem countP_gt_lt (h : l.Pairwise (· ≤ ·)) (hx : l[i]? = some x) :
    l.countP (x < ·) + i < l.length := by
  induction l generalizing i with
  | nil => cases hx
  | cons a l ih =>
    obtain ⟨ha, hl⟩ := List.pairwise_cons.mp h
    cases i with
    | zero =>
      obtain rfl : a = x := by simpa using hx
      rw [List.countP_cons_of_neg (by simp), List.length_cons, Nat.add_zero]
      exact Nat.lt_succ_of_le List.countP_le_length
    | succ i =>
      have hget : l[i]? = some x := by simpa using hx
      have hle : a ≤ x := ha x (List.mem_of_getElem? hget)
      rw [List.countP_cons_of_neg (by simpa using hle), List.length_cons]
      have hrest := ih hl hget
      omega

/-- At most one element has at most half of a list below it, and less than half above it. -/
theorem le_of_middle {y : α} (hy : 2 * l.countP (· < y) ≤ l.length)
    (hx : 2 * l.countP (x < ·) < l.length) : y ≤ x := by
  by_contra hlt
  rw [not_le] at hlt
  have hsplit := l.length_eq_countP_add_countP (x < ·)
  have hle : l.countP (fun a => ¬x < a) ≤ l.countP (· < y) := by
    refine List.countP_mono_left fun a _ ha => ?_
    simp only [decide_eq_true_eq] at ha ⊢
    exact lt_of_le_of_lt (not_lt.mp ha) hlt
  have hsplit' : l.length = l.countP (x < ·) + l.countP fun a => ¬x < a := by
    simpa using hsplit
  omega

end Sorted

instance uint32LinearOrder : LinearOrder UInt32 where
  le_refl := UInt32.le_refl
  le_trans _ _ _ := UInt32.le_trans
  le_antisymm _ _ := UInt32.le_antisymm
  le_total := UInt32.le_total
  lt_iff_le_not_ge a b := by
    rw [UInt32.not_le, UInt32.le_iff_toNat_le, UInt32.lt_iff_toNat_lt]
    omega
  toDecidableLE := inferInstance
  toDecidableEq := inferInstance
  toDecidableLT := inferInstance

/-! ## The speeds that are chosen -/

open ThermalImpl

variable {overflow : ℤ → UInt32} {file file' : List UInt8} {freqList : List UInt32}
  {rates : CpuRates}

theorem uint32Compare_ne_gt {l r : UInt32} : uint32Compare l r ≠ .gt ↔ l ≤ r := by
  unfold uint32Compare
  split
  · rename_i h
    simp [h]
  · rename_i hne
    split
    · rename_i hlt
      simpa using le_of_lt hlt
    · rename_i hlt
      simp only [ne_eq, not_true_eq_false, false_iff]
      intro hle
      exact hlt (lt_of_le_of_ne hle hne)

/-- `uint32_compare` orders the frequencies by their value. -/
theorem sortFreqList_eq (freqList : List UInt32) :
    sortFreqList freqList = freqList.insertionSort (· ≤ ·) := by
  unfold sortFreqList
  congr 1
  ext l r
  exact uint32Compare_ne_gt

theorem perm_sortFreqList (freqList : List UInt32) : (sortFreqList freqList).Perm freqList := by
  rw [sortFreqList_eq]
  exact List.perm_insertionSort ..

theorem pairwise_sortFreqList (freqList : List UInt32) :
    (sortFreqList freqList).Pairwise (· ≤ ·) := by
  rw [sortFreqList_eq]
  exact List.pairwise_insertionSort ..

/-- What is chosen from a list of frequencies. -/
structure CpuRates.Chosen (rates : CpuRates) (freqList : List UInt32) : Prop where
  normal : rates.normal ∈ freqList ∧ ∀ f ∈ freqList, f ≤ rates.normal
  minimal : rates.minimal ∈ freqList ∧ ∀ f ∈ freqList, rates.minimal ≤ f
  /-- At most half of the frequencies are lower than the scaled one, and less than half higher. -/
  scaled : rates.scaled ∈ freqList ∧ 2 * freqList.countP (· < rates.scaled) ≤ freqList.length ∧
    2 * freqList.countP (rates.scaled < ·) < freqList.length

/-- The rates that the code takes from a sorted list. -/
def CpuRates.ofSorted (freqList : List UInt32) : CpuRates where
  normal := freqList.getD (freqList.length - 1) 0
  scaled := freqList.getD (freqList.length / 2) 0
  minimal := freqList.getD 0 0

/-- The middle of a sorted list, and its ends. -/
theorem chosen_ofSorted (h : freqList.Pairwise (· ≤ ·)) (hne : freqList ≠ []) :
    (CpuRates.ofSorted freqList).Chosen freqList := by
  have hpos : 0 < freqList.length := List.length_pos_iff.mpr hne
  have hget : ∀ i < freqList.length, freqList[i]? = some (freqList.getD i 0) := by
    intro i hi
    rw [List.getD_eq_getElem?_getD, List.getElem?_eq_getElem hi, Option.getD_some]
  have hmem : ∀ i < freqList.length, freqList.getD i 0 ∈ freqList :=
    fun i hi => List.mem_of_getElem? (hget i hi)
  refine ⟨⟨hmem _ (by omega), ?_⟩, ⟨hmem _ hpos, ?_⟩, hmem _ (by omega), ?_, ?_⟩
  · -- nothing is greater than the last one
    have hlast := countP_gt_lt h (hget (freqList.length - 1) (by omega))
    have hzero : freqList.countP (freqList.getD (freqList.length - 1) 0 < ·) = 0 := by omega
    intro f hf
    exact not_lt.mp fun hlt => List.countP_eq_zero.mp hzero f hf (decide_eq_true hlt)
  · have hzero := Nat.le_zero.mp (countP_lt_le h (hget 0 hpos))
    intro f hf
    exact not_lt.mp fun hlt => List.countP_eq_zero.mp hzero f hf (decide_eq_true hlt)
  · have hmid := countP_lt_le h (hget (freqList.length / 2) (by omega))
    change 2 * freqList.countP (· < freqList.getD (freqList.length / 2) 0) ≤ _
    omega
  · have hmid := countP_gt_lt h (hget (freqList.length / 2) (by omega))
    change 2 * freqList.countP (freqList.getD (freqList.length / 2) 0 < ·) < _
    omega

/-- What is chosen does not depend on the order of the list. -/
theorem CpuRates.Chosen.perm (h : rates.Chosen freqList) {freqList' : List UInt32}
    (hperm : freqList.Perm freqList') : rates.Chosen freqList' where
  normal := ⟨hperm.mem_iff.mp h.normal.1, fun f hf => h.normal.2 f (hperm.mem_iff.mpr hf)⟩
  minimal := ⟨hperm.mem_iff.mp h.minimal.1, fun f hf => h.minimal.2 f (hperm.mem_iff.mpr hf)⟩
  scaled := by
    obtain ⟨hmem, hlow, hhigh⟩ := h.scaled
    rw [hperm.countP_eq, hperm.length_eq] at hlow hhigh
    exact ⟨hperm.mem_iff.mp hmem, hlow, hhigh⟩

/-- A list leaves one choice. -/
theorem CpuRates.Chosen.unique {rates' : CpuRates} (h : rates.Chosen freqList)
    (h' : rates'.Chosen freqList) : rates = rates' := by
  obtain ⟨normal, scaled, minimal⟩ := rates
  obtain ⟨normal', scaled', minimal'⟩ := rates'
  rw [CpuRates.mk.injEq]
  refine ⟨?_, ?_, ?_⟩
  · exact le_antisymm (h'.normal.2 _ h.normal.1) (h.normal.2 _ h'.normal.1)
  · exact le_antisymm (le_of_middle h.scaled.2.1 h'.scaled.2.2)
      (le_of_middle h'.scaled.2.1 h.scaled.2.2)
  · exact le_antisymm (h.minimal.2 _ h'.minimal.1) (h'.minimal.2 _ h.minimal.1)

/-- The rates that are zero are replaced. -/
def CpuRates.fill (rates chosen : CpuRates) : CpuRates where
  normal := if rates.normal = 0 then chosen.normal else rates.normal
  scaled := if rates.scaled = 0 then chosen.scaled else rates.scaled
  minimal := if rates.minimal = 0 then chosen.minimal else rates.minimal

/-- `DetemineClockSpeeds` on a file that holds a number. -/
theorem detemineClockSpeeds_some (hne : readFreqList overflow file ≠ []) (rates : CpuRates) :
    detemineClockSpeeds overflow (some file) rates =
      (.errorNone, rates.fill (.ofSorted (sortFreqList (readFreqList overflow file)))) := by
  have hlen : (sortFreqList (readFreqList overflow file)).length ≠ 0 := by
    rw [(perm_sortFreqList _).length_eq]
    simpa using hne
  simp only [detemineClockSpeeds, if_neg hlen]
  rfl

/-- `DetemineClockSpeeds` without a number. -/
theorem detemineClockSpeeds_nil (hnil : readFreqList overflow file = []) (rates : CpuRates) :
    detemineClockSpeeds overflow (some file) rates = (.errorGeneral, rates) := by
  simp [detemineClockSpeeds, hnil, sortFreqList]

/-- What the code takes from a file is chosen from its frequencies. -/
theorem chosen_sortFreqList (hne : freqList ≠ []) :
    (CpuRates.ofSorted (sortFreqList freqList)).Chosen freqList := by
  have hperm := perm_sortFreqList freqList
  refine (chosen_ofSorted (pairwise_sortFreqList _) fun hnil => ?_).perm hperm
  rw [hnil] at hperm
  exact hne hperm.symm.eq_nil

theorem storeUnsigned_toNat (overflow : ℤ → UInt32) (f : UInt32) :
    storeUnsigned overflow f.toNat = f := by
  have hlt : f.toNat < 0x100000000 := f.toNat_lt
  rw [storeUnsigned, if_pos ⟨by omega, by omega⟩]
  apply UInt32.toNat_inj.mp
  simp only [UInt32.ofInt, UInt32.toNat_ofNat']
  omega

/-- The frequencies that are read from a listing, of which the code takes 32. -/
theorem readFreqList_listing (h : IsDecimals file (freqList.map UInt32.toNat)) :
    readFreqList overflow file = freqList.take 32 := by
  rw [readFreqList, h.scanMany_eq, ← List.map_take, List.map_map, List.map_map]
  refine List.map_id'' (fun f => ?_) _
  exact storeUnsigned_toNat overflow f

/-- What the platform chooses from a listing of the kernel: the greatest of the first 32
frequencies, the middle one and the least one, whatever their order, for those rates that are not
configured. -/
theorem detemineClockSpeeds_spec (hne : freqList ≠ []) :
    ∃ chosen : CpuRates, chosen.Chosen (freqList.take 32) ∧
      chosen.minimal ≤ chosen.scaled ∧ chosen.scaled ≤ chosen.normal ∧
      ∀ file (freqList' : List UInt32), IsDecimals file (freqList'.map UInt32.toNat) →
        (freqList.take 32).Perm (freqList'.take 32) →
        ∀ rates, detemineClockSpeeds overflow (some file) rates =
          (.errorNone, rates.fill chosen) := by
  have hne : freqList.take 32 ≠ [] := by
    simpa using hne
  have h := chosen_sortFreqList hne
  refine ⟨_, h, h.minimal.2 _ h.scaled.1, h.normal.2 _ h.scaled.1, ?_⟩
  intro file freqList' hlist hperm rates
  have hread := @readFreqList_listing overflow file _ hlist
  rw [← hread] at hperm
  have hne' : readFreqList overflow file ≠ [] := by
    intro hnil
    rw [hnil] at hperm
    exact hne hperm.eq_nil
  rw [detemineClockSpeeds_some hne', (chosen_sortFreqList hne').unique (h.perm hperm)]

/-- The file holds `12 4 15 8`. -/
def fourFrequencies : List UInt8 := [49, 50, 32, 52, 32, 49, 53, 32, 56, 10]

/-- Four frequencies, which are not in order. -/
theorem detemineClockSpeeds_of_four :
    ∃ chosen : CpuRates, chosen.Chosen [12, 4, 15, 8] ∧ chosen.minimal ≤ chosen.scaled ∧
      chosen.scaled ≤ chosen.normal ∧ detemineClockSpeeds (fun _ => 0)
        (some ([12, 4, 15, 8].flatMap fun n => decimal n ++ [32])) ⟨0, 0, 0⟩ =
          (.errorNone, (⟨0, 0, 0⟩ : CpuRates).fill chosen) := by
  have hlist := IsDecimals.ofList [12, 4, 15, 8]
  obtain ⟨chosen, hchosen, hlow, hhigh, hrates⟩ :=
    @detemineClockSpeeds_spec (fun _ => 0) [12, 4, 15, 8] (List.cons_ne_nil _ _)
  exact ⟨chosen, hchosen, hlow, hhigh, hrates _ [12, 4, 15, 8] hlist (.refl _) _⟩

/-! ## The speeds that are asked for -/

/-- The RFC parameters of the speeds. -/
def RfcKey.speeds : List RfcKey := [.platCpuSpeedNormal, .platCpuSpeedScaled, .platCpuSpeedMinimal]

/-- A configuration gives this speed. -/
def Configuration.Gives (cfg : Configuration) (speed : UInt32) : Prop :=
  ∃ key ∈ RfcKey.speeds, ∃ v, cfg.configProperty key = some v ∧ speed = .ofInt v

/-- The frequencies in the file. -/
def frequencies (overflow : ℤ → UInt32) (file : Option (List UInt8)) : List UInt32 :=
  file.elim [] (readFreqList overflow)

/-- A controller that is created finds its speeds in the file, and its configuration has no negative
grace interval for declocking, with which it would not look for them. -/
def Label.CreatesOnSysfs (overflow : ℤ → UInt32) (file : Option (List UInt8)) : Label → Prop
  | .create cfg => cfg.OnSysfs overflow file ∧
      ∀ g, cfg.configProperty .declockGraceInterval = some g → 0 ≤ g
  | _ => True

/-- If it declocks the CPU, the controller has three speeds with the property. -/
def ThermalController.SpeedsIn (c : ThermalController) (A : UInt32 → Prop) : Prop :=
  c.declockThreshold.graceInterval ≠ 0 →
    A c.platCpuSpeedNormal ∧ A c.platCpuSpeedScaled ∧ A c.platCpuSpeedMinimal

variable {build : Build} {cfg : Configuration} {c : ThermalController} {st : Statics}
  {p p' : Process} {os os' : List Action} {ls : List Label} {l : Label} {A : UInt32 → Prop}
  {speed : UInt32} {result : ErrorCode}

/-- A rate that is found, and is not zero, was configured or is chosen from the file. -/
theorem detemineClockSpeeds_cases {rates : CpuRates} (file : Option (List UInt8))
    {s : CpuRates → UInt32}
    (hs : s = CpuRates.normal ∨ s = CpuRates.scaled ∨ s = CpuRates.minimal)
    (hne : s (detemineClockSpeeds overflow file rates).2 ≠ 0) :
    s (detemineClockSpeeds overflow file rates).2 = s rates ∧ s rates ≠ 0 ∨
      s (detemineClockSpeeds overflow file rates).2 ∈ frequencies overflow file := by
  cases file with
  | none => exact .inl ⟨rfl, hne⟩
  | some file =>
    by_cases hnil : readFreqList overflow file = []
    · rw [detemineClockSpeeds_nil hnil] at hne ⊢
      exact .inl ⟨rfl, hne⟩
    · have hchosen := chosen_sortFreqList hnil
      rw [detemineClockSpeeds_some hnil] at hne ⊢
      -- a rate of zero is replaced by one of the file
      rcases hs with rfl | rfl | rfl
      · by_cases hzero : rates.normal = 0
        · exact .inr (by simpa [CpuRates.fill, hzero, frequencies] using hchosen.normal.1)
        · exact .inl (by simp [CpuRates.fill, hzero])
      · by_cases hzero : rates.scaled = 0
        · exact .inr (by simpa [CpuRates.fill, hzero, frequencies] using hchosen.scaled.1)
        · exact .inl (by simp [CpuRates.fill, hzero])
      · by_cases hzero : rates.minimal = 0
        · exact .inr (by simpa [CpuRates.fill, hzero, frequencies] using hchosen.minimal.1)
        · exact .inl (by simp [CpuRates.fill, hzero])

/-- What a controller knows before it looks for its speeds: those that are configured, and a grace
interval that is not negative. -/
theorem isThermalProtectionEnabled_speeds (build : Build) (cfg : Configuration)
    (hg : ∀ g, cfg.configProperty .declockGraceInterval = some g → 0 ≤ g) :
    let c := (ThermalController.initial build).isThermalProtectionEnabled cfg
    0 ≤ c.declockThreshold.graceInterval ∧
      (c.platCpuSpeedNormal ≠ 0 → cfg.Gives c.platCpuSpeedNormal) ∧
      (c.platCpuSpeedScaled ≠ 0 → cfg.Gives c.platCpuSpeedScaled) ∧
      (c.platCpuSpeedMinimal ≠ 0 → cfg.Gives c.platCpuSpeedMinimal) := by
  have hgrace : 0 ≤ (ThermalController.initial build).declockThreshold.graceInterval := by
    simp only [ThermalController.initial]
    split <;> decide
  have hgives : ∀ key ∈ RfcKey.speeds,
      ((cfg.configProperty key).map UInt32.ofInt).getD 0 ≠ 0 →
        cfg.Gives (((cfg.configProperty key).map UInt32.ofInt).getD 0) := by
    intro key hkey hne
    cases hv : cfg.configProperty key with
    | none => exact absurd (by rw [hv]; rfl) hne
    | some v => exact ⟨key, hkey, v, hv, rfl⟩
  simp only [ThermalController.isThermalProtectionEnabled]
  split
  · exact ⟨hgrace, absurd rfl, absurd rfl, absurd rfl⟩
  · split
    · exact ⟨hgrace, absurd rfl, absurd rfl, absurd rfl⟩
    · refine ⟨?_, hgives _ (by decide), hgives _ (by decide), hgives _ (by decide)⟩
      change 0 ≤ (cfg.configProperty .declockGraceInterval).getD _
      cases hv : cfg.configProperty .declockGraceInterval with
      | none => exact hgrace
      | some g => exact hg g hv

/-- A new controller declocks the CPU with speeds of the file, and those that are configured. -/
theorem speedsIn_create {listed : Option (List UInt8)} (build : Build)
    (hcfg : Label.CreatesOnSysfs overflow listed (.create cfg))
    (hlisted : ∀ speed ∈ frequencies overflow listed, A speed)
    (hA : ∀ speed, cfg.Gives speed → A speed) (hdis : build.disableDeclockingLogic = false)
    (henabled : (ThermalController.create build cfg).1.isFeatureEnabled = true) :
    (ThermalController.create build cfg).1.SpeedsIn A := by
  obtain ⟨hsysfs, hg⟩ := hcfg
  obtain ⟨hgrace, hnormal, hscaled, hminimal⟩ := isThermalProtectionEnabled_speeds build cfg hg
  simp only [ThermalController.create, ThermalController.initializeThermalProtection] at henabled ⊢
  split at henabled
  · rename_i hfeature
    rw [if_pos hfeature]
    simp only [hdis, Bool.false_eq_true, if_false, ThermalController.initializeDeclocking]
    generalize (ThermalController.initial build).isThermalProtectionEnabled cfg = c at *
    have hcases := @detemineClockSpeeds_cases overflow
      ⟨c.platCpuSpeedNormal, c.platCpuSpeedScaled, c.platCpuSpeedMinimal⟩ listed
    split
    · intro hne
      rw [hsysfs] at hne ⊢
      generalize ThermalImpl.detemineClockSpeeds overflow listed
        ⟨c.platCpuSpeedNormal, c.platCpuSpeedScaled, c.platCpuSpeedMinimal⟩ = r at *
      -- declocking is switched off unless all three are there
      have hmissing : ¬(r.2.normal = 0 ∨ r.2.scaled = 0 ∨ r.2.minimal = 0) := by
        intro hmissing
        exact hne (if_pos hmissing)
      simp only [not_or] at hmissing
      change A r.2.normal ∧ A r.2.scaled ∧ A r.2.minimal
      refine ⟨?_, ?_, ?_⟩
      · rcases hcases (.inl rfl) hmissing.1 with ⟨heq, hconf⟩ | hmem
        · exact hA _ (heq ▸ hnormal hconf)
        · exact hlisted _ hmem
      · rcases hcases (.inr (.inl rfl)) hmissing.2.1 with ⟨heq, hconf⟩ | hmem
        · exact hA _ (heq ▸ hscaled hconf)
        · exact hlisted _ hmem
      · rcases hcases (.inr (.inr rfl)) hmissing.2.2 with ⟨heq, hconf⟩ | hmem
        · exact hA _ (heq ▸ hminimal hconf)
        · exact hlisted _ hmem
    · rename_i hpos
      intro hne
      exact absurd (lt_of_le_of_ne hgrace (Ne.symm hne)) hpos
  · rename_i hfeature
    exact absurd henabled hfeature

/-- A decision to set the speed is for one of the three. -/
theorem mem_of_decision {value monitorTime now : ℤ}
    (hS : build.disableDeclockingLogic = false → c.SpeedsIn A)
    (h : (c.declockDecision build value monitorTime now).1 = some speed) : A speed := by
  unfold ThermalController.declockDecision at h
  split at h
  · cases h
  · rename_i hdis
    split at h
    · cases h
    · rename_i hg
      obtain ⟨hnormal, hscaled, hminimal⟩ := hS (by simpa using hdis) hg
      split_ifs at h <;> cases h <;> assumption

/-- A controller that is enabled has three speeds with the property, and no other speed has been
asked for. -/
structure OnlyAsksFor (build : Build) (A : UInt32 → Prop) (os : List Action) (p : Process) :
    Prop where
  speedsIn : ∀ c, p.controller = some c → c.isFeatureEnabled = true →
    build.disableDeclockingLogic = false → c.SpeedsIn A
  asked : ∀ speed result, .setClockSpeed speed result ∈ os → A speed

/-- Actions that do not set the speed ask for none. -/
theorem not_mem_of_countP (h : os.countP Action.isSetClockSpeed = 0) :
    ∀ speed result, .setClockSpeed speed result ∉ os := by
  intro speed result hmem
  exact List.countP_eq_zero.mp h _ hmem rfl

/-- A turn of the polling loop asks for one of the three speeds, if it asks for one. -/
theorem asked_poll (hS : build.disableDeclockingLogic = false → c.SpeedsIn A) (st : Statics)
    (turn : Turn) (h : .setClockSpeed speed result ∈ (c.pollThermalLevels build st turn).2.2) :
    A speed := by
  cases turn with
  | deepSleep => cases h
  | failed => cases h
  | read r =>
    obtain ⟨os, hos, he⟩ := outputs_poll_read c build st r
    rw [he, List.mem_append] at h
    rcases h with h | h
    · exact absurd h (not_mem_of_countP hos _ _)
    · obtain ⟨speed', hspeed', heq⟩ := List.mem_map.mp h
      cases heq
      exact mem_of_decision hS (Option.mem_toList.mp hspeed')

/-- A turn of the polling loop keeps the three speeds. -/
theorem speedsIn_poll (st : Statics) (turn : Turn) :
    (c.pollThermalLevels build st turn).1.SpeedsIn A ↔ c.SpeedsIn A := by
  cases turn with
  | deepSleep => rfl
  | failed => rfl
  | read r =>
    rw [pollThermalLevels_read]
    rfl

/-- Every step of the process asks only for speeds of the file, and those that are configured. -/
theorem onlyAsksFor_step {listed : Option (List UInt8)} (hI : OnlyAsksFor build A os p)
    (hlisted : ∀ speed ∈ frequencies overflow listed, A speed)
    (hl : l.CreatesOnSysfs overflow listed)
    (hA : ∀ cfg speed, l = .create cfg → cfg.Gives speed → A speed)
    (h : (thermal build).step p l = some (p', os')) : OnlyAsksFor build A (os ++ os') p' := by
  obtain ⟨hS, hasked⟩ := hI
  -- only a poll has an action that sets the speed
  have hquiet : os'.countP Action.isSetClockSpeed = 0 →
      ∀ speed result, .setClockSpeed speed result ∈ os ++ os' → A speed := by
    intro hno speed result hmem
    rcases List.mem_append.mp hmem with hmem | hmem
    · exact hasked speed result hmem
    · exact absurd hmem (not_mem_of_countP hno _ _)
  obtain ⟨st, controller⟩ := p
  cases controller with
  | none =>
    cases l with
    | create cfg =>
      rw [step_create] at h
      cases h
      refine ⟨?_, hquiet ?_⟩
      · rintro c ⟨⟩ henabled hdis
        exact speedsIn_create build hl hlisted (fun speed => hA cfg speed rfl) hdis henabled
      · simp only [ThermalController.create, ThermalController.initializeThermalProtection]
        split <;> rfl
    | _ => cases h
  | some c =>
    cases l with
    | create cfg => cases h
    | poll turn =>
      obtain ⟨henabled, rfl, rfl⟩ := step_poll rfl h
      have hc := hS c rfl henabled
      refine ⟨?_, ?_⟩
      · rintro c' ⟨⟩ - hdis
        exact (speedsIn_poll st turn).mpr (hc hdis)
      · intro speed result hmem
        rcases List.mem_append.mp hmem with hmem | hmem
        · exact hasked speed result hmem
        · exact asked_poll hc st turn hmem
    | setOvertempGraceInterval g =>
      cases h
      have hkeep : (c.setOvertempGraceInterval g).1.isFeatureEnabled = c.isFeatureEnabled ∧
          ((c.setOvertempGraceInterval g).1.SpeedsIn A ↔ c.SpeedsIn A) ∧
          (c.setOvertempGraceInterval g).2.countP Action.isSetClockSpeed = 0 := by
        unfold ThermalController.setOvertempGraceInterval
        split <;> exact ⟨rfl, .rfl, rfl⟩
      obtain ⟨henabled, hspeeds, hno⟩ := hkeep
      refine ⟨?_, hquiet hno⟩
      rintro c' ⟨⟩ hen hdis
      exact hspeeds.mpr (hS c rfl (henabled ▸ hen) hdis)
    | destroy last =>
      cases h
      refine ⟨by rintro c' ⟨⟩, hquiet ?_⟩
      split
      · cases last with
        | none => rfl
        | some r => exact countP_record (f := Action.isSetClockSpeed) (fun _ _ _ => rfl) ..
      · rfl

/-- A run asks only for speeds with a property, if those in the file and those that its
configurations give have it. -/
theorem onlyAsksFor_run {listed : Option (List UInt8)}
    (hls : ∀ l ∈ ls, l.CreatesOnSysfs overflow listed)
    (hlisted : ∀ speed ∈ frequencies overflow listed, A speed)
    (hA : ∀ cfg speed, .create cfg ∈ ls → cfg.Gives speed → A speed)
    (hrun : (thermal build).Run ⟨st, none⟩ ls os p) : OnlyAsksFor build A os p := by
  have halong : (thermal build).Along (fun _ l => l ∈ ls) ⟨st, none⟩ ls := by
    rintro pre l post os t rfl -
    simp
  refine hrun.induction_along (I := fun _ os p => OnlyAsksFor build A os p) halong
    ⟨by rintro c ⟨⟩, by simp⟩ ?_
  intro _ os t l u os' _ hI hl hstep
  refine onlyAsksFor_step hI hlisted (hls l hl) ?_ hstep
  rintro cfg speed rfl hgives
  exact hA cfg speed hl hgives

/-- In every run, with any number of controllers one after the other: on a platform that finds the
clock speeds in the file, no speed is asked for but those in the file and those that a configuration
gives. -/
theorem setClockSpeed_allowed {listed : Option (List UInt8)}
    (hls : ∀ l ∈ ls, l.CreatesOnSysfs overflow listed)
    (hrun : (thermal build).Run ⟨st, none⟩ ls os p) :
    ∀ speed result, .setClockSpeed speed result ∈ os →
      speed ∈ frequencies overflow listed ∨ ∃ cfg, .create cfg ∈ ls ∧ cfg.Gives speed :=
  (onlyAsksFor_run (A := fun speed =>
      speed ∈ frequencies overflow listed ∨ ∃ cfg, .create cfg ∈ ls ∧ cfg.Gives speed)
    hls (fun _ => .inl) (fun cfg _ hmem hgives => .inr ⟨cfg, hmem, hgives⟩) hrun).asked

/-- Nothing is configured, and the platform finds the speeds in the file. -/
def Configuration.onSysfs (file : List UInt8) : Configuration where
  rfcEnable := none
  configProperty _ := none
  detemineClockSpeeds normal scaled minimal :=
    let rates := (ThermalImpl.detemineClockSpeeds (fun _ => 0) (some file)
      ⟨normal, scaled, minimal⟩).2
    (rates.normal, rates.scaled, rates.minimal)

theorem createsOnSysfs (file : List UInt8) :
    Label.CreatesOnSysfs (fun _ => 0) (some file) (.create (.onSysfs file)) :=
  ⟨fun _ _ _ => rfl, by rintro g ⟨⟩⟩

/-- The device heats up: the controller asks for the scaled speed, and then for the minimal one. -/
def heatingUp : List Label :=
  [.create (.onSysfs fourFrequencies), .poll (.read (.at 101 1)), .poll (.read (.at 120 2))]

theorem setClockSpeed_allowed_of_four :
    ∃ os p, (thermal ⟨false, false⟩).Run ⟨.zero, none⟩ heatingUp os p ∧
      .setClockSpeed 12 .errorNone ∈ os ∧ .setClockSpeed 4 .errorNone ∈ os ∧
      ∀ speed result, .setClockSpeed speed result ∈ os →
        speed ∈ frequencies (fun _ => 0) (some fourFrequencies) ∨
          ∃ cfg, .create cfg ∈ heatingUp ∧ cfg.Gives speed := by
  obtain ⟨os, p, hrun, hscaled, hminimal⟩ : ∃ os p,
      (thermal ⟨false, false⟩).Run ⟨.zero, none⟩ heatingUp os p ∧
        .setClockSpeed 12 .errorNone ∈ os ∧ .setClockSpeed 4 .errorNone ∈ os :=
    Machine.exists_outputs_of_exec (by decide)
  refine ⟨os, p, hrun, hscaled, hminimal, setClockSpeed_allowed ?_ hrun⟩
  exact List.forall_mem_cons.mpr ⟨createsOnSysfs _, by simp [Label.CreatesOnSysfs]⟩

/-! ## The speed that the CPU runs at -/

/-- What the kernel makes of the text that is written to `scaling_setspeed`, and what it shows in
`scaling_cur_freq`. -/
structure CpuFreq where
  /-- The frequency after the text has been written, while the CPU runs at a frequency. -/
  setspeed : List UInt8 → UInt32 → UInt32
  curFreq : UInt32 → List UInt8

/-- The kernel sets every frequency that it lists, and shows the current one as a decimal number. -/
structure CpuFreq.Honours (k : CpuFreq) (freqList : List UInt32) : Prop where
  setspeed : ∀ f ∈ freqList, ∀ current, k.setspeed (decimal f.toNat) current = f
  curFreq : ∀ f, IsDecimal (k.curFreq f) f.toNat

/-- Which of the three files a call of `SetClockSpeed` can open. -/
structure Opens where
  governor : Bool
  setspeed : Bool
  curFreq : Bool

/-- `ThermalImpl::GetClockSpeed`, with what `speed` is if there is no number in the file. -/
def ThermalImpl.getClockSpeed (overflow : ℤ → UInt32) (k : CpuFreq) (opens : Bool)
    (current speed : UInt32) :
    ErrorCode × UInt32 :=
  if opens then
    match scan (k.curFreq current) with
    | .number n => (.errorNone, storeUnsigned overflow n)
    | _ => (.errorNone, speed)
  else (.errorGeneral, speed)

/-- `ThermalImpl::SetClockSpeed`, on a CPU that runs at a frequency: what it returns, and the
frequency then. A speed that cannot be read back counts as set. -/
def ThermalImpl.setClockSpeed (overflow : ℤ → UInt32) (k : CpuFreq) (opens : Opens)
    (current speed : UInt32) : ErrorCode × UInt32 :=
  if opens.governor = false then (.errorGeneral, current)
  else if opens.setspeed = false then (.errorGeneral, current)
  else
    let current := k.setspeed (decimal speed.toNat) current
    let r := ThermalImpl.getClockSpeed overflow k opens.curFreq current 0
    if r.1 ≠ .errorNone then (.errorNone, current)
    else (if speed = r.2 then .errorNone else .errorGeneral, current)

/-- Actions of the controller that fit the CPU, whose frequency is given before and after them. The
governor and the speed can be written. -/
inductive OnCpu (overflow : ℤ → UInt32) (k : CpuFreq) : UInt32 → List Action → UInt32 → Prop
  | nil (f : UInt32) : OnCpu overflow k f [] f
  | other {f g : UInt32} {a : Action} {os : List Action} (ha : a.isSetClockSpeed = false)
      (hos : OnCpu overflow k f os g) : OnCpu overflow k f (a :: os) g
  | set {f f' g speed : UInt32} {result : ErrorCode} {opens : Opens} {os : List Action}
      (hgovernor : opens.governor = true) (hsetspeed : opens.setspeed = true)
      (hset : ThermalImpl.setClockSpeed overflow k opens f speed = (result, f'))
      (hos : OnCpu overflow k f' os g) : OnCpu overflow k f (.setClockSpeed speed result :: os) g

/-- The last speed that was asked for, if there was one. -/
def lastAsked (speed : UInt32) (os : List Action) : UInt32 :=
  os.foldl (fun speed a =>
    match a with
    | .setClockSpeed speed' _ => speed'
    | _ => speed) speed

variable {k : CpuFreq} {f g : UInt32} {turns : List Turn}

theorem lastAsked_append : lastAsked speed (os ++ os') = lastAsked (lastAsked speed os) os' := by
  rw [lastAsked, List.foldl_append]
  rfl

/-- Actions that do not set the speed leave the last one. -/
theorem lastAsked_cons {a : Action} (ha : a.isSetClockSpeed = false) :
    lastAsked speed (a :: os) = lastAsked speed os := by
  cases a with
  | setClockSpeed s r => cases ha
  | _ => rfl

theorem lastAsked_of_countP (h : os.countP Action.isSetClockSpeed = 0) :
    lastAsked speed os = speed := by
  induction os with
  | nil => rfl
  | cons a os ih =>
    obtain ⟨ha, hos⟩ := List.forall_mem_cons.mp (List.countP_eq_zero.mp h)
    rw [lastAsked_cons (by simpa using ha)]
    exact ih (List.countP_eq_zero.mpr hos)

/-- Once a speed has been asked for, it does not matter what was there before. -/
theorem lastAsked_congr (h : .setClockSpeed speed result ∈ os) (f g : UInt32) :
    lastAsked f os = lastAsked g os := by
  obtain ⟨pre, post, rfl⟩ := List.append_of_mem h
  rw [lastAsked_append, lastAsked_append]
  rfl

/-- A controller records the last speed that it has asked for. -/
theorem lastAsked_run (hc : p.controller = some c)
    (hrun : (thermal build).Run p (turns.map .poll) os p') :
    ∃ c', p'.controller = some c' ∧ c'.curCpuSpeed = lastAsked c.curCpuSpeed os := by
  refine polls_induction (I := fun _ os c' _ => c'.curCpuSpeed = lastAsked c.curCpuSpeed os) hc rfl
    ?_ hrun
  intro turns os c' st turn hI
  rw [lastAsked_append, ← hI]
  cases turn with
  | deepSleep => rfl
  | failed => rfl
  | read r =>
    obtain ⟨os', hos', he⟩ := outputs_poll_read c' build st r
    have hspeed : (c'.pollThermalLevels build st (.read r)).1.curCpuSpeed =
        (c'.declockDecision build (truncate r.temperature) st.declockMonitorTime r.now).1.getD
          c'.curCpuSpeed := by
      rw [pollThermalLevels_read]
    rw [he, hspeed, lastAsked_append, lastAsked_of_countP hos']
    cases (c'.declockDecision build (truncate r.temperature) st.declockMonitorTime r.now).1 <;> rfl

/-- A frequency that the kernel lists is set, and `SetClockSpeed` says so. -/
theorem setClockSpeed_of_mem {freqList : List UInt32} {opens : Opens} (hk : k.Honours freqList)
    (hgovernor : opens.governor = true) (hsetspeed : opens.setspeed = true)
    (hmem : speed ∈ freqList) (current : UInt32) :
    ThermalImpl.setClockSpeed overflow k opens current speed = (.errorNone, speed) := by
  have hread := (hk.curFreq speed).scan_eq
  cases hopen : opens.curFreq <;>
    simp [ThermalImpl.setClockSpeed, ThermalImpl.getClockSpeed, hgovernor, hsetspeed, hopen,
      hk.setspeed speed hmem, hread, storeUnsigned_toNat]

/-- On a CPU that is asked for listed frequencies only, every `SetClockSpeed` succeeds, and the CPU
runs at the last one. -/
theorem OnCpu.succeeds {freqList : List UInt32} (hk : k.Honours freqList)
    (h : OnCpu overflow k f os g)
    (hlisted : ∀ speed result, .setClockSpeed speed result ∈ os → speed ∈ freqList) :
    (∀ speed result, .setClockSpeed speed result ∈ os → result = .errorNone) ∧
      lastAsked f os = g := by
  induction h with
  | nil f => exact ⟨by simp, rfl⟩
  | other ha _ ih =>
    obtain ⟨hresult, hlast⟩ := ih fun speed result hmem => hlisted speed result (.tail _ hmem)
    refine ⟨fun speed result hmem => ?_, (lastAsked_cons ha).trans hlast⟩
    rcases List.mem_cons.mp hmem with rfl | hmem
    · cases ha
    · exact hresult speed result hmem
  | @set f f' g s r opens os hgovernor hsetspeed hset hos ih =>
    rw [setClockSpeed_of_mem hk hgovernor hsetspeed (hlisted s r (.head _)) f] at hset
    cases hset
    obtain ⟨hresult, hlast⟩ := ih fun speed result hmem => hlisted speed result (.tail _ hmem)
    refine ⟨fun speed result hmem => ?_, hlast⟩
    rcases List.mem_cons.mp hmem with heq | hmem
    · cases heq
      rfl
    · exact hresult speed result hmem

/-- The platform that `ThermalImpl` makes of the kernel's files keeps the record right. If no speed
is configured, and the kernel honours the frequencies that it lists, then in every run of polls
every `SetClockSpeed` succeeds, and from the first one on the recorded speed is the one that the CPU
runs at. -/
theorem recorded_on_sysfs {file : List UInt8}
    (hk : k.Honours (readFreqList overflow file))
    (hcfg : Label.CreatesOnSysfs overflow (some file) (.create cfg))
    (hnone : ∀ key ∈ RfcKey.speeds, cfg.configProperty key = none)
    (hrun : (thermal build).Run ⟨st, none⟩ (.create cfg :: turns.map .poll) os p)
    (hcpu : OnCpu overflow k f os g) :
    (∀ speed result, .setClockSpeed speed result ∈ os → result = .errorNone) ∧
      ∀ c speed result, p.controller = some c → .setClockSpeed speed result ∈ os →
        c.curCpuSpeed = g := by
  have hls : ∀ l ∈ (.create cfg :: turns.map .poll : List Label),
      l.CreatesOnSysfs overflow (some file) := by
    refine List.forall_mem_cons.mpr ⟨hcfg, fun l hl => ?_⟩
    obtain ⟨turn, -, rfl⟩ := List.mem_map.mp hl
    trivial
  have hgives : ∀ cfg' speed, .create cfg' ∈ (.create cfg :: turns.map .poll : List Label) →
      ¬cfg'.Gives speed := by
    rintro cfg' speed hmem ⟨key, hkey, v, hv, -⟩
    obtain rfl : cfg' = cfg := by simpa using hmem
    rw [hnone key hkey] at hv
    cases hv
  have honly := onlyAsksFor_run (A := (· ∈ readFreqList overflow file)) hls (fun _ h => h)
    (fun cfg' speed hmem hg => absurd hg (hgives cfg' speed hmem)) hrun
  obtain ⟨hresult, hlast⟩ := hcpu.succeeds hk honly.asked
  refine ⟨hresult, fun c speed result hc hmem => ?_⟩
  obtain ⟨q, os₁, os₂, rfl, hstep, hpolls⟩ := hrun.cons_inv
  rw [step_create] at hstep
  cases hstep
  obtain ⟨c', hc', hrec⟩ := lastAsked_run rfl hpolls
  obtain rfl : c = c' := Option.some.inj (hc.symm.trans hc')
  -- the creation does not set the speed, so that a poll does
  have hno : (ThermalController.create build cfg).2.countP Action.isSetClockSpeed = 0 := by
    simp only [ThermalController.create, ThermalController.initializeThermalProtection]
    split <;> rfl
  have hmem₂ := (List.mem_append.mp hmem).resolve_left (not_mem_of_countP hno _ _)
  rw [hrec, ← hlast, lastAsked_append]
  exact lastAsked_congr hmem₂ _ _

/-- A kernel that sets what it is told, and shows the frequency with a newline. -/
def CpuFreq.obedient : CpuFreq where
  setspeed text _ := .ofNat (value text)
  curFreq f := decimal f.toNat ++ [10]

theorem honours_obedient (freqList : List UInt32) : CpuFreq.obedient.Honours freqList where
  setspeed f _ current := by simp [CpuFreq.obedient]
  curFreq f := IsDecimal.ofNat f.toNat (List.forall_mem_nil _) (by simp [isDigit])

/-- What the controller does while the device heats up. -/
def hotActions : List Action :=
  [.setTemperatureThresholds 100 110, .setClockSpeed 12 .errorNone, .logThermalShutdownReason,
    .deepSleepForThermalChange, .rebootNow ThermalController.reasonCritical,
    .setClockSpeed 4 .errorNone]

/-- The device heats up while the CPU runs at 7 Hz, which ends at the minimal speed. -/
theorem recorded_on_sysfs_of_four :
    ∃ p c, (thermal ⟨false, false⟩).Run ⟨.zero, none⟩ heatingUp hotActions p ∧
      p.controller = some c ∧ OnCpu (fun _ => 0) .obedient 7 hotActions 4 ∧ c.curCpuSpeed = 4 := by
  obtain ⟨p, hrun, hsome⟩ : ∃ p,
      (thermal ⟨false, false⟩).Run ⟨.zero, none⟩ heatingUp hotActions p ∧
        p.controller.isSome = true := Machine.exists_run_of_exec (by decide)
  obtain ⟨c, hc⟩ := Option.isSome_iff_exists.mp hsome
  have hk := honours_obedient [12, 4, 15, 8]
  have hscaled := @setClockSpeed_of_mem (fun _ => 0) 12 .obedient _ ⟨true, true, true⟩ hk rfl rfl
    (by decide) 7
  have hminimal := @setClockSpeed_of_mem (fun _ => 0) 4 .obedient _ ⟨true, true, false⟩ hk rfl rfl
    (by decide) 12
  have hcpu : OnCpu (fun _ => 0) .obedient 7 hotActions 4 :=
    .other rfl (.set rfl rfl hscaled (.other rfl (.other rfl (.other rfl
      (.set rfl rfl hminimal (.nil 4))))))
  have hread : readFreqList (fun _ => 0) fourFrequencies = [12, 4, 15, 8] := by decide
  refine ⟨p, c, hrun, hc, hcpu, ?_⟩
  have hturns : (thermal ⟨false, false⟩).Run ⟨.zero, none⟩ (.create (.onSysfs fourFrequencies) ::
      [.read (.at 101 1), .read (.at 120 2)].map .poll) hotActions p := hrun
  exact (recorded_on_sysfs (hread ▸ hk) (createsOnSysfs _) (fun _ _ => rfl) hturns hcpu).2 c 4
    .errorNone hc (by decide)

end PowerManager.Thermal
