import PowerManager.Notifications
import PowerManager.PowerImpl

/-!
# The network standby mode and the platform

`SetNetworkStandbyMode` sets WIFI and LAN, then the mode in memory, and then saves the settings. A
failure on the way ends it where it is: nothing is taken back. If the mode in memory is the one
that is asked for, it does nothing, whatever the two sources are.

* `setNetworkStandbyMode_sets_iff`: when the mode and both sources are as asked for after
  `ERROR_NONE`, in every state that calls can lead to.
* `setNetworkStandbyMode_atomic_iff`: when an error leaves everything as it was.
* `setWakeupSourceConfig_fold`: `SetWakeupSourceConfig` gives every source the value of its last
  element in the list, and the `SetNetworkStandbyMode` at its end sets no source.
* `matches_run`: the runs of `WakeOnNetwork` are runs of this model.
-/

namespace PowerManager

/-- The power controller with its file, and the platform. -/
structure NetworkStandby where
  stored : Stored
  platform : Platform

namespace NetworkStandby

open WakeupSources (isWakeupSrcEnabled wakeupSrcs)

/-- What `SetNetworkStandbyMode` meets: the statuses of WIFI and LAN, and how `Save` goes. -/
structure Outcome where
  wifi : ℤ
  lan : ℤ
  io : FileIO
  deriving DecidableEq, Repr

/-- `GetNetworkStandbyMode`. -/
def mode (d : NetworkStandby) : Bool :=
  d.stored.settings.nwStandbyMode

/-- The calls for WIFI and LAN. -/
def networkCalls (standbyMode : Bool) (wifi lan : ℤ) : List PlatSetWakeupSrc :=
  [⟨⟨.wifi, standbyMode⟩, wifi⟩, ⟨⟨.lan, standbyMode⟩, lan⟩]

/-- The constructor of `PowerController` sets WIFI and LAN to the mode that has been loaded. -/
def construct (codes : PmStatus) (stored : Stored) (platform : Platform) (wifi lan : ℤ) :
    NetworkStandby where
  stored
  platform := (platform.setWakeupSourceConfig codes
    (networkCalls stored.settings.nwStandbyMode wifi lan)).2

/-- `PowerController::SetNetworkStandbyMode`, and the event that
`PowerManagerImplementation::SetNetworkStandbyMode` sends. -/
def setNetworkStandbyMode (T : Target) (codes : PmStatus) (d : NetworkStandby) (standbyMode : Bool)
    (o : Outcome) : ErrorCode × NetworkStandby × List Notification :=
  let wakeup :=
    -- the mode in memory is looked at before any source is set
    if standbyMode = d.mode then (.errorNone, d.platform)
    else d.platform.setWakeupSourceConfig codes (networkCalls standbyMode o.wifi o.lan)
  let r := d.stored.setNetworkStandbyMode T wakeup.1 o.io standbyMode
  (r.1, ⟨r.2, wakeup.2⟩,
    if r.1 = .errorNone then [.onNetworkStandbyModeChanged standbyMode] else [])

/-- `PowerManagerImplementation::SetWakeupSourceConfig`. `get` are the statuses of its calls of
`PLAT_API_GetWakeupSrc`, and `o` is about the `SetNetworkStandbyMode` it may end with. -/
def setWakeupSourceConfig (T : Target) (codes : PmStatus) (d : NetworkStandby)
    (calls : List PlatSetWakeupSrc) (get : WakeupSrcType → ℤ) (o : Outcome) :
    ErrorCode × NetworkStandby × List Notification :=
  if calls.any (·.config.wakeupSource = .unknown) then
    (.errorInvalidParameter, d, [])
  else
    let r := d.platform.setWakeupSourceConfig codes calls
    let d := { d with platform := r.2 }
    if r.1 ≠ .errorNone then
      (r.1, d, [])
    else
      -- the platform is asked for all sources, not only for those in the list
      let currConfigs := d.platform.getWakeupSourceConfig codes get
      if currConfigs.1 ≠ .errorNone then
        (currConfigs.1, d, [])
      else
        let isWiFiEnabled := isWakeupSrcEnabled currConfigs.2 .wifi
        let isLanEnabled := isWakeupSrcEnabled currConfigs.2 .lan
        -- with only one of the two enabled, the mode stays what it is
        if isWiFiEnabled ≠ isLanEnabled then
          (.errorNone, d, [])
        else
          let nwStandbyMode := isWiFiEnabled && isLanEnabled
          if nwStandbyMode = d.mode then (.errorNone, d, [])
          else d.setNetworkStandbyMode T codes nwStandbyMode o

/-- The calls. -/
inductive Label
  | setNetworkStandbyMode (standbyMode : Bool) (o : Outcome)
  | setWakeupSourceConfig (calls : List PlatSetWakeupSrc) (get : WakeupSrcType → ℤ) (o : Outcome)

/-- The machine of the calls. Its outputs are the events. -/
def networkStandby (T : Target) (codes : PmStatus) : Machine NetworkStandby Label Notification where
  step d
    | .setNetworkStandbyMode standbyMode o =>
      some (d.setNetworkStandbyMode T codes standbyMode o).2
    | .setWakeupSourceConfig calls get o =>
      some (d.setWakeupSourceConfig T codes calls get o).2

variable {T : Target} {codes : PmStatus} {d d' : NetworkStandby} {standbyMode : Bool} {o : Outcome}
  {calls : List PlatSetWakeupSrc} {get : WakeupSrcType → ℤ}

/-! ## What SetNetworkStandbyMode does -/

/-- Each of the two sources is set if its call succeeds. -/
theorem setAll_networkCalls (codes : PmStatus) (p : Platform) (standbyMode : Bool) (wifi lan : ℤ)
    (src : PWRMGRWakeupSrcType) :
    (p.setAll codes (networkCalls standbyMode wifi lan)).2.enabled src =
      if src = .wifi ∧ wifi = PmStatus.success ∨ src = .lan ∧ lan = PmStatus.success then
        standbyMode
      else p.enabled src := by
  simp only [networkCalls, Platform.setAll, Platform.setWakeupSrc, Platform.platSetWakeupSrc,
    WakeupSrcType.conv]
  by_cases hwifi : wifi = PmStatus.success <;> by_cases hlan : lan = PmStatus.success <;>
    cases src <;> simp [hwifi, hlan]

/-- The error code of the two calls. -/
theorem networkCalls_fst (codes : PmStatus) (p : Platform) (standbyMode : Bool) (wifi lan : ℤ) :
    (p.setWakeupSourceConfig codes (networkCalls standbyMode wifi lan)).1 = .errorNone ↔
      0 ≤ wifi ∧ 0 ≤ lan := by
  rw [Platform.setWakeupSourceConfig_fst]
  simp [networkCalls]

/-- `SetNetworkStandbyMode` to the current mode sends the event, and does nothing else. -/
theorem setNetworkStandbyMode_same (hmode : standbyMode = d.mode) (o : Outcome) :
    d.setNetworkStandbyMode T codes standbyMode o =
      (.errorNone, d, [.onNetworkStandbyModeChanged standbyMode]) := by
  have hmode' : standbyMode = d.stored.settings.nwStandbyMode := hmode
  simp only [setNetworkStandbyMode, if_pos hmode, Stored.setNetworkStandbyMode, if_pos hmode',
    if_true]

/-- `SetNetworkStandbyMode` to another mode sets the two sources first. If neither call fails it
sets the mode, whether or not it can be saved. -/
theorem setNetworkStandbyMode_cases (T : Target) (codes : PmStatus) (hmode : standbyMode ≠ d.mode)
    (o : Outcome) :
    let r := d.setNetworkStandbyMode T codes standbyMode o
    r.2.1.platform = (d.platform.setAll codes (networkCalls standbyMode o.wifi o.lan)).2 ∧
      ((¬(0 ≤ o.wifi ∧ 0 ≤ o.lan) ∧ r.1 ≠ .errorNone ∧ r.2.1.stored = d.stored ∧ r.2.2 = []) ∨
        (0 ≤ o.wifi ∧ 0 ≤ o.lan) ∧ (r.1 = .errorNone ↔ Stored.Succeeds o.io) ∧
          r.2.1.mode = standbyMode) := by
  intro r
  have hok := networkCalls_fst codes d.platform standbyMode o.wifi o.lan
  have hmode' : ¬standbyMode = d.stored.settings.nwStandbyMode := hmode
  simp only [r, setNetworkStandbyMode, if_neg hmode, Stored.setNetworkStandbyMode, if_neg hmode']
  refine ⟨rfl, ?_⟩
  -- a positive status is no failure, whatever it means
  by_cases hstatus : 0 ≤ o.wifi ∧ 0 ≤ o.lan
  · refine .inr ⟨hstatus, ?_⟩
    rw [if_neg (not_not.mpr (hok.mpr hstatus))]
    have hsave : ((d.stored.settings.setNwStandbyMode standbyMode).save T o.io d.stored.file).1 =
        true ↔ Stored.Succeeds o.io := Stored.save_fst
    refine ⟨?_, rfl⟩
    rw [← hsave]
    split <;> simp [*]
  · -- a failure ends it before the mode is changed, but not before the other source is set
    have hfailed : ¬(d.platform.setWakeupSourceConfig codes
        (networkCalls standbyMode o.wifi o.lan)).1 = .errorNone := fun h => hstatus (hok.mp h)
    refine .inl ⟨hstatus, ?_⟩
    rw [if_pos hfailed]
    exact ⟨hfailed, rfl, if_neg hfailed⟩

/-- An event is sent with `ERROR_NONE`, and only with it. -/
theorem setNetworkStandbyMode_events (T : Target) (codes : PmStatus) (d : NetworkStandby)
    (standbyMode : Bool) (o : Outcome) :
    let r := d.setNetworkStandbyMode T codes standbyMode o
    r.2.2 = [] ↔ r.1 ≠ .errorNone := by
  intro r
  change (if r.1 = .errorNone then _ else _) = [] ↔ _
  split <;> simp [*]

/-! ## All or nothing -/

/-- If `SetNetworkStandbyMode` returns an error, then the mode, the file and the two sources are as
before and no event has been sent, exactly if the mode is the current one, or no call fails, or a
source fails and none has been set to another value. -/
theorem setNetworkStandbyMode_atomic_iff (T : Target) (codes : PmStatus) (d : NetworkStandby)
    (standbyMode : Bool) (o : Outcome) :
    let r := d.setNetworkStandbyMode T codes standbyMode o
    (r.1 ≠ .errorNone →
      r.2.1.mode = d.mode ∧ r.2.1.stored.file = d.stored.file ∧
        r.2.1.platform.enabled .wifi = d.platform.enabled .wifi ∧
        r.2.1.platform.enabled .lan = d.platform.enabled .lan ∧ r.2.2 = []) ↔
    (standbyMode = d.mode ∨ 0 ≤ o.wifi ∧ 0 ≤ o.lan ∧ Stored.Succeeds o.io ∨
      ¬(0 ≤ o.wifi ∧ 0 ≤ o.lan) ∧
        (o.wifi = PmStatus.success → d.platform.enabled .wifi = standbyMode) ∧
        (o.lan = PmStatus.success → d.platform.enabled .lan = standbyMode)) := by
  intro r
  by_cases hmode : standbyMode = d.mode
  · have hr : r = _ := setNetworkStandbyMode_same hmode o
    -- the current mode is never refused
    simp only [hr, ne_eq, not_true_eq_false, false_imp_iff, hmode, true_or]
  obtain ⟨hplatform, hcases⟩ := setNetworkStandbyMode_cases T codes hmode o
  have hevents := setNetworkStandbyMode_events T codes d standbyMode o
  -- a source that is set keeps its value if it has it already
  have hkept (src : PWRMGRWakeupSrcType) (status : ℤ) : (if status = PmStatus.success then standbyMode
      else d.platform.enabled src) = d.platform.enabled src ↔
        (status = PmStatus.success → d.platform.enabled src = standbyMode) := by
    split <;> simp [*, eq_comm]
  have hwifi : r.2.1.platform.enabled .wifi = d.platform.enabled .wifi ↔
      (o.wifi = PmStatus.success → d.platform.enabled .wifi = standbyMode) := by
    rw [← hkept, hplatform, setAll_networkCalls]
    simp
  have hlan : r.2.1.platform.enabled .lan = d.platform.enabled .lan ↔
      (o.lan = PmStatus.success → d.platform.enabled .lan = standbyMode) := by
    rw [← hkept, hplatform, setAll_networkCalls]
    simp
  rw [hwifi, hlan]
  rcases hcases with ⟨hstatus, hcode, hstored, hnone⟩ | ⟨hstatus, hcode, hset⟩
  · -- a source has failed
    have hmode' : r.2.1.mode = d.mode := congrArg (·.settings.nwStandbyMode) hstored
    have hfile : r.2.1.stored.file = d.stored.file := congrArg (·.file) hstored
    have hno : ¬(0 ≤ o.wifi ∧ 0 ≤ o.lan ∧ Stored.Succeeds o.io) := fun h => hstatus ⟨h.1, h.2.1⟩
    simp only [hmode, hno, hstatus, false_or, not_false_eq_true, true_and]
    exact ⟨fun h => ⟨(h hcode).2.2.1, (h hcode).2.2.2.1⟩,
      fun h _ => ⟨hmode', hfile, h.1, h.2, hnone⟩⟩
  · -- the mode has been changed, and is not taken back if it cannot be saved
    have hne : r.2.1.mode ≠ d.mode := fun h => hmode (hset.symm.trans h)
    simp only [hmode, hstatus, false_or, true_and, not_true_eq_false, and_self, false_and, or_false,
      ← hcode]
    refine ⟨fun h => ?_, fun h hfails => absurd h hfails⟩
    by_contra hfails
    exact hne (h hfails).1

/-- WIFI is set and LAN fails; and both are set, but the mode cannot be saved. -/
theorem not_setNetworkStandbyMode_atomic :
    let d : NetworkStandby := construct .sample (.fresh (.sample false)) ⟨fun _ => false⟩ 0 0
    let r := d.setNetworkStandbyMode (.sample false) .sample true ⟨0, -1, .good⟩
    let r' := d.setNetworkStandbyMode (.sample false) .sample true ⟨0, 0, ⟨true, false⟩⟩
    (r.1 = .errorGeneral ∧ d.platform.enabled .wifi = false ∧
        r.2.1.platform.enabled .wifi = true) ∧
      r'.1 = .errorGeneral ∧ d.mode = false ∧ r'.2.1.mode = true := by
  decide

/-! ## A platform that does not fail -/

/-- The platform succeeds for a source that it supports, and reports any other as not supported. -/
def Answers (supported : PWRMGRWakeupSrcType → Bool) (src : WakeupSrcType) (status : ℤ) : Prop :=
  if supported src.conv then status = PmStatus.success else 0 < status

instance (supported : PWRMGRWakeupSrcType → Bool) (src : WakeupSrcType) (status : ℤ) :
    Decidable (Answers supported src status) :=
  inferInstanceAs (Decidable (if supported src.conv = true then status = PmStatus.success
    else 0 < status))

/-- The statuses of `SetNetworkStandbyMode`. -/
def Outcome.Answered (supported : PWRMGRWakeupSrcType → Bool) (o : Outcome) : Prop :=
  Answers supported .wifi o.wifi ∧ Answers supported .lan o.lan

/-- The statuses of `SetWakeupSourceConfig`. -/
def Answered (supported : PWRMGRWakeupSrcType → Bool) (calls : List PlatSetWakeupSrc)
    (get : WakeupSrcType → ℤ) : Prop :=
  (∀ call ∈ calls, Answers supported call.config.wakeupSource call.status) ∧
    ∀ src ∈ wakeupSrcs, Answers supported src (get src)

instance (supported : PWRMGRWakeupSrcType → Bool) (o : Outcome) :
    Decidable (o.Answered supported) :=
  inferInstanceAs (Decidable (_ ∧ _))

instance (supported : PWRMGRWakeupSrcType → Bool) (calls : List PlatSetWakeupSrc)
    (get : WakeupSrcType → ℤ) : Decidable (Answered supported calls get) :=
  inferInstanceAs (Decidable ((∀ call ∈ _, _) ∧ ∀ src ∈ _, _))

section Answered

variable {supported : PWRMGRWakeupSrcType → Bool} {p : Platform} {src : WakeupSrcType}
  {status : ℤ}

theorem Answers.nonneg (h : Answers supported src status) : 0 ≤ status := by
  rw [Answers] at h
  split at h
  · exact Int.le_of_eq h.symm
  · exact Int.le_of_lt h

/-- The sources that are supported are those that are set. -/
theorem Answers.eq_success_iff (h : Answers supported src status) :
    status = PmStatus.success ↔ supported src.conv = true := by
  rw [Answers] at h
  split at h
  · simp [*]
  · have hne : status ≠ PmStatus.success := Int.ne_of_gt h
    simp [*]

/-- Nothing is latched. -/
theorem setWakeupSourceConfig_answered
    (hcalls : ∀ call ∈ calls, Answers supported call.config.wakeupSource call.status) :
    (p.setWakeupSourceConfig codes calls).1 = .errorNone := by
  rw [Platform.setWakeupSourceConfig_fst]
  exact fun call hmem => (hcalls call hmem).nonneg

/-- A source that is supported has the value of its last element in the list. -/
theorem setAll_answered (hsrc : src ≠ .unknown) (hsupported : supported src.conv = true)
    (hknown : ∀ call ∈ calls, call.config.wakeupSource ≠ .unknown)
    (hcalls : ∀ call ∈ calls, Answers supported call.config.wakeupSource call.status) :
    (p.setAll codes calls).2.enabled src.conv =
      Platform.lastValue src (p.enabled src.conv) (calls.map (·.config)) := by
  rw [Platform.setAll_enabled hsrc hknown]
  apply Platform.lastValue_congr
  -- the calls for this source all succeed
  rw [List.filter_map, List.filter_map, List.filter_filter]
  congr 1
  apply List.filter_congr
  intro call hmem
  have hanswer := (hcalls call hmem).eq_success_iff
  simp only [Function.comp_apply, Bool.and_eq_left_iff_imp, decide_eq_true_eq]
  intro hname
  rw [hanswer, hname]
  exact hsupported

/-- `GetWakeupSourceConfig` lists the sources that are supported. -/
theorem getAll_answered (codes : PmStatus) (p : Platform) {srcs : List WakeupSrcType}
    (hget : ∀ src ∈ srcs, Answers supported src (get src)) :
    p.getAll codes get srcs =
      (false, (srcs.filter fun src => supported src.conv).map fun src =>
        ⟨src, p.enabled src.conv⟩) := by
  induction srcs with
  | nil => rfl
  | cons src srcs ih =>
    obtain ⟨hsrc, hget⟩ := List.forall_mem_cons.mp hget
    -- a status that is an answer either puts the source on the list or leaves it out
    rw [Platform.getAll, ih hget, List.filter_cons, Platform.getWakeupSrc]
    simp only [codes.conv_eq_errorNone_iff, hsrc.eq_success_iff]
    rw [Answers] at hsrc
    split at hsrc
    · simp [*]
    · simp [*]

/-- A source that is not supported counts as disabled. -/
def seen (supported : PWRMGRWakeupSrcType → Bool) (p : Platform) (src : WakeupSrcType) : Bool :=
  supported src.conv && p.enabled src.conv

/-- What `GetWakeupSourceConfig` tells. -/
theorem getWakeupSourceConfig_answered (codes : PmStatus) (p : Platform)
    (hget : ∀ src ∈ wakeupSrcs, Answers supported src (get src)) :
    (p.getWakeupSourceConfig codes get).1 = .errorNone ∧
      ∀ src ∈ wakeupSrcs,
        isWakeupSrcEnabled (p.getWakeupSourceConfig codes get).2 src = seen supported p src := by
  rw [Platform.getWakeupSourceConfig, getAll_answered codes p hget]
  refine ⟨rfl, fun src hmem => ?_⟩
  rw [WakeupSources.isWakeupSrcEnabled_map, seen]
  simp [List.mem_filter, hmem]

/-- `SetWakeupSourceConfig` sets the sources of the list. It calls `SetNetworkStandbyMode` if WIFI
and LAN agree on another mode. -/
theorem setWakeupSourceConfig_spec (T : Target) (codes : PmStatus) (d : NetworkStandby)
    (hknown : ∀ call ∈ calls, call.config.wakeupSource ≠ .unknown)
    (hanswered : Answered supported calls get) (o : Outcome) :
    let d' : NetworkStandby := { d with platform := (d.platform.setAll codes calls).2 }
    let wifi := seen supported d'.platform .wifi
    d.setWakeupSourceConfig T codes calls get o =
      if wifi = seen supported d'.platform .lan ∧ wifi ≠ d.mode then
        d'.setNetworkStandbyMode T codes wifi o
      else (.errorNone, d', []) := by
  intro d' wifi
  have hknown' : ¬calls.any (·.config.wakeupSource = .unknown) = true := by
    simpa using hknown
  have hplatform : (d.platform.setWakeupSourceConfig codes calls).2 = d'.platform := rfl
  obtain ⟨hcode, hseen⟩ := getWakeupSourceConfig_answered codes d'.platform hanswered.2
  simp only [setWakeupSourceConfig, if_neg hknown', setWakeupSourceConfig_answered hanswered.1,
    hplatform, hcode, ne_eq, not_true_eq_false, if_false, hseen .wifi (by decide),
    hseen .lan (by decide)]
  change (if ¬wifi = seen supported d'.platform .lan then _ else _) = _
  -- the mode that is computed from both is the value that they share
  by_cases hsame : wifi = seen supported d'.platform .lan
  · simp only [← hsame, not_true_eq_false, if_false, true_and]
    have hand : (seen supported d'.platform .wifi && wifi) = wifi := Bool.and_self wifi
    by_cases hmode : wifi = d.mode
    · rw [if_neg (not_not.mpr hmode)]
      exact if_pos (hand.trans hmode)
    · rw [if_pos hmode, hand]
      exact if_neg hmode
  · rw [if_pos hsame, if_neg fun h => hsame h.1]

/-- `SetNetworkStandbyMode` to the value that WIFI and LAN have sets no source, on a platform with
both of them or with one. -/
theorem setAll_networkCalls_seen (codes : PmStatus) (p : Platform) (ho : o.Answered supported)
    (hsame : seen supported p .wifi = seen supported p .lan) :
    (p.setAll codes (networkCalls (seen supported p .wifi) o.wifi o.lan)).2 = p := by
  obtain ⟨hwifi, hlan⟩ := ho
  -- a source that is set is supported, and so has the value that is seen
  have heq : (p.setAll codes (networkCalls (seen supported p .wifi) o.wifi o.lan)).2.enabled =
      p.enabled := by
    funext src
    rw [setAll_networkCalls]
    refine ite_eq_right_iff.mpr ?_
    rintro (⟨rfl, hset⟩ | ⟨rfl, hset⟩)
    · have hsupported := hwifi.eq_success_iff.mp hset
      rw [seen, hsupported, Bool.true_and]
      rfl
    · have hsupported := hlan.eq_success_iff.mp hset
      rw [hsame, seen, hsupported, Bool.true_and]
      rfl
  exact congrArg Platform.mk heq

/-- On a platform that does not fail, `SetWakeupSourceConfig` changes nothing if the list names an
unknown source. Otherwise it gives every supported source the value of its last element in the
list, and the `SetNetworkStandbyMode` that may follow sets no source. -/
theorem setWakeupSourceConfig_fold (T : Target) (codes : PmStatus) (d : NetworkStandby)
    (hanswered : Answered supported calls get) (ho : o.Answered supported)
    (hio : Stored.Succeeds o.io) :
    let r := d.setWakeupSourceConfig T codes calls get o
    if ∃ call ∈ calls, call.config.wakeupSource = .unknown then
      r.1 = .errorInvalidParameter ∧ r.2.1 = d
    else
      r.1 = .errorNone ∧
      (∀ src, src ≠ .unknown → supported src.conv = true →
        r.2.1.platform.enabled src.conv =
          Platform.lastValue src (d.platform.enabled src.conv) (calls.map (·.config))) ∧
      r.2.1.platform = (d.platform.setWakeupSourceConfig codes calls).2 := by
  intro r
  split
  · rename_i hunknown
    have hany : calls.any (·.config.wakeupSource = .unknown) = true := by
      simpa using hunknown
    have hr : r = (.errorInvalidParameter, d, []) := if_pos hany
    rw [hr]
    exact ⟨rfl, rfl⟩
  · rename_i hunknown
    have hknown : ∀ call ∈ calls, call.config.wakeupSource ≠ .unknown :=
      fun call hmem heq => hunknown ⟨call, hmem, heq⟩
    have hr := setWakeupSourceConfig_spec T codes d hknown hanswered o
    -- the sources are those after the list, whether or not the mode is set
    have hgoal : r.1 = .errorNone ∧ r.2.1.platform = (d.platform.setAll codes calls).2 := by
      simp only [r, hr]
      split
      · -- the mode follows the two sources, which stay as they are
        rename_i hsync
        obtain ⟨hset, hcases⟩ := setNetworkStandbyMode_cases T codes
          (d := { d with platform := (d.platform.setAll codes calls).2 }) hsync.2 o
        rw [setAll_networkCalls_seen codes _ ho hsync.1] at hset
        refine ⟨?_, hset⟩
        rcases hcases with ⟨hstatus, -⟩ | ⟨-, hcode, -⟩
        · exact absurd ⟨ho.1.nonneg, ho.2.nonneg⟩ hstatus
        · exact hcode.mpr hio
      · exact ⟨rfl, rfl⟩
    -- and the list leaves each of them with its last value
    refine ⟨hgoal.1, fun src hsrc hsupported => ?_, hgoal.2⟩
    rw [hgoal.2]
    exact setAll_answered hsrc hsupported hknown hanswered.1

/-- A platform with WIFI and IR, but without LAN: WIFI is enabled and disabled again, and ends up
disabled; IR is enabled. -/
theorem setWakeupSourceConfig_fold_wifi :
    let calls : List PlatSetWakeupSrc := [⟨⟨.wifi, true⟩, 0⟩, ⟨⟨.lan, true⟩, 7⟩, ⟨⟨.ir, true⟩, 0⟩,
      ⟨⟨.wifi, false⟩, 0⟩]
    let r := (construct .sample (.fresh (.sample false)) ⟨fun _ => false⟩ 0 7).setWakeupSourceConfig
      (.sample false) .sample calls (fun src => if src = .wifi ∨ src = .ir then 0 else 7)
      ⟨0, 7, .good⟩
    r.1 = .errorNone ∧ r.2.1.platform.enabled .wifi = false ∧
      r.2.1.platform.enabled .ir = true := by
  intro calls r
  have hanswered : Answered (fun src => decide (src = .wifi ∨ src = .ir)) calls
      (fun src => if src = .wifi ∨ src = .ir then 0 else 7) := by decide
  have ho : Outcome.Answered (fun src => decide (src = .wifi ∨ src = .ir)) ⟨0, 7, .good⟩ := by
    decide
  obtain ⟨hcode, hvalues, -⟩ := setWakeupSourceConfig_fold (.sample false) .sample
    (construct .sample (.fresh (.sample false)) ⟨fun _ => false⟩ 0 7) hanswered ho ⟨rfl, rfl⟩
  exact ⟨hcode, hvalues .wifi (by decide) rfl, hvalues .ir (by decide) rfl⟩

/-! ## The mode and the two sources -/

/-- If WIFI and LAN are both enabled, or both disabled, the mode says which. -/
def InStep (d : NetworkStandby) : Prop :=
  d.platform.enabled .wifi = d.platform.enabled .lan → d.mode = d.platform.enabled .wifi

/-- The statuses that a call meets. -/
def Label.Answered (supported : PWRMGRWakeupSrcType → Bool) : Label → Prop
  | .setNetworkStandbyMode _ o => o.Answered supported
  | .setWakeupSourceConfig calls get o =>
    NetworkStandby.Answered supported calls get ∧ o.Answered supported

instance (supported : PWRMGRWakeupSrcType → Bool) (l : Label) : Decidable (l.Answered supported) :=
  match l with
  | .setNetworkStandbyMode _ _ => inferInstanceAs (Decidable (_ ∧ _))
  | .setWakeupSourceConfig _ _ _ => inferInstanceAs (Decidable (_ ∧ _))

/-- WIFI and LAN are both supported. -/
def SupportsNetwork (supported : PWRMGRWakeupSrcType → Bool) : Prop :=
  supported .wifi = true ∧ supported .lan = true

/-- The two sources after `networkCalls`. -/
theorem enabled_networkCalls (hsupported : SupportsNetwork supported) (ho : o.Answered supported)
    (codes : PmStatus) (p : Platform) (standbyMode : Bool) :
    let p' := (p.setAll codes (networkCalls standbyMode o.wifi o.lan)).2
    p'.enabled .wifi = standbyMode ∧ p'.enabled .lan = standbyMode := by
  have hwifi := ho.1.eq_success_iff.mpr hsupported.1
  have hlan := ho.2.eq_success_iff.mpr hsupported.2
  simp [setAll_networkCalls, hwifi, hlan]

/-- `SetNetworkStandbyMode` to another mode sets the mode and the two sources, also if it cannot
save them. -/
theorem setNetworkStandbyMode_sets (hsupported : SupportsNetwork supported)
    (ho : o.Answered supported) (T : Target) (codes : PmStatus) (hmode : standbyMode ≠ d.mode) :
    let r := (d.setNetworkStandbyMode T codes standbyMode o).2.1
    r.mode = standbyMode ∧ r.platform.enabled .wifi = standbyMode ∧
      r.platform.enabled .lan = standbyMode := by
  intro r
  obtain ⟨hplatform, hcases⟩ := setNetworkStandbyMode_cases T codes hmode o
  rw [hplatform]
  refine ⟨?_, enabled_networkCalls hsupported ho codes d.platform standbyMode⟩
  rcases hcases with ⟨hstatus, -⟩ | ⟨-, -, hset⟩
  · exact absurd ⟨ho.1.nonneg, ho.2.nonneg⟩ hstatus
  · exact hset

/-- The constructor sets the two sources to the mode. -/
theorem inStep_construct (hsupported : SupportsNetwork supported) (ho : o.Answered supported)
    (stored : Stored) (p : Platform) : (construct codes stored p o.wifi o.lan).InStep := by
  intro _
  exact (enabled_networkCalls hsupported ho codes p _).1.symm

/-- `SetNetworkStandbyMode` keeps the mode in step with the two sources. -/
theorem inStep_setNetworkStandbyMode (T : Target) (codes : PmStatus)
    (hsupported : SupportsNetwork supported) (ho : o.Answered supported) (hd : d.InStep)
    (standbyMode : Bool) :
    (d.setNetworkStandbyMode T codes standbyMode o).2.1.InStep := by
  by_cases hmode : standbyMode = d.mode
  · rw [setNetworkStandbyMode_same hmode]
    exact hd
  · obtain ⟨hset, hwifi, -⟩ := setNetworkStandbyMode_sets hsupported ho T codes hmode
    exact fun _ => hset.trans hwifi.symm

/-- `SetWakeupSourceConfig` brings the mode in step with the two sources. -/
theorem inStep_setWakeupSourceConfig (T : Target) (codes : PmStatus)
    (hsupported : SupportsNetwork supported) (ho : o.Answered supported)
    (hanswered : Answered supported calls get) (hd : d.InStep) :
    (d.setWakeupSourceConfig T codes calls get o).2.1.InStep := by
  by_cases hknown : ∀ call ∈ calls, call.config.wakeupSource ≠ .unknown
  · -- with both sources supported, what is seen of them is what they are
    rw [setWakeupSourceConfig_spec T codes d hknown hanswered o]
    have hseen (p : Platform) : seen supported p .wifi = p.enabled .wifi ∧
        seen supported p .lan = p.enabled .lan := by
      simp only [seen, WakeupSrcType.conv, hsupported.1, hsupported.2, Bool.true_and, and_self]
    simp only [hseen]
    split
    · -- WIFI and LAN have come to agree on another mode, which is set now
      rename_i hsync
      obtain ⟨hset, hwifi, -⟩ := setNetworkStandbyMode_sets
        (d := { d with platform := (d.platform.setAll codes calls).2 }) hsupported ho T codes hsync.2
      exact fun _ => hset.trans hwifi.symm
    · rename_i hsync
      intro hsame
      -- if they agree here, it is on the mode already
      by_contra hmode
      exact hsync ⟨hsame, fun heq => hmode heq.symm⟩
  · have hany : calls.any (·.config.wakeupSource = .unknown) = true := by
      simpa using hknown
    rw [setWakeupSourceConfig, if_pos hany]
    exact hd

/-- Whatever calls are made, the mode stays in step with the two sources. -/
theorem inStep_run (hsupported : SupportsNetwork supported) {ls : List Label} {os : List Notification}
    (hrun : (networkStandby T codes).Run d ls os d') (hls : ∀ l ∈ ls, l.Answered supported)
    (hd : d.InStep) : d'.InStep := by
  refine hrun.invariant_along (C := fun _ l => l.Answered supported) ?_ hd ?_
  · rintro pre l post os t rfl -
    exact hls l (by simp)
  · rintro s l t os hs hl hstep
    cases l with
    | setNetworkStandbyMode standbyMode o =>
      have ht : (s.setNetworkStandbyMode T codes standbyMode o).2 = (t, os) := Option.some.inj hstep
      have hnext := inStep_setNetworkStandbyMode T codes hsupported hl hs standbyMode
      rwa [ht] at hnext
    | setWakeupSourceConfig calls get o =>
      have ht : (s.setWakeupSourceConfig T codes calls get o).2 = (t, os) := Option.some.inj hstep
      have hnext := inStep_setWakeupSourceConfig T codes hsupported hl.2 hl.1 hs
      rwa [ht] at hnext

/-- In every state that calls lead to on a platform with WIFI and LAN that does not fail, a
`SetNetworkStandbyMode` that returns `ERROR_NONE` leaves the mode and the two sources as asked for
exactly if it is not the current mode that is asked for, or the two sources have one value. -/
theorem setNetworkStandbyMode_sets_iff (T : Target) (codes : PmStatus)
    (hsupported : SupportsNetwork supported) {o₀ : Outcome} (ho₀ : o₀.Answered supported)
    {stored : Stored} {p : Platform} {ls : List Label} {os : List Notification}
    (hrun : (networkStandby T codes).Run (construct codes stored p o₀.wifi o₀.lan) ls os d)
    (hls : ∀ l ∈ ls, l.Answered supported) (standbyMode : Bool) (ho : o.Answered supported) :
    let r := d.setNetworkStandbyMode T codes standbyMode o
    (r.1 = .errorNone →
      r.2.1.mode = standbyMode ∧ r.2.1.platform.enabled .wifi = standbyMode ∧
        r.2.1.platform.enabled .lan = standbyMode) ↔
    (standbyMode = d.mode → d.platform.enabled .wifi = d.platform.enabled .lan) := by
  intro r
  have hd : d.InStep := inStep_run hsupported hrun hls (inStep_construct hsupported ho₀ stored p)
  by_cases hmode : standbyMode = d.mode
  · -- nothing is set: the two sources are as the calls before have left them
    have hr : r = _ := setNetworkStandbyMode_same hmode o
    rw [hr]
    simp only [hmode, forall_const]
    refine ⟨fun h => h.2.1.trans h.2.2.symm, fun hsame => ⟨trivial, ?_⟩⟩
    have hwifi := (hd hsame).symm
    exact ⟨hwifi, hsame.symm.trans hwifi⟩
  · have hsets := setNetworkStandbyMode_sets hsupported ho T codes hmode
    exact ⟨fun _ h => absurd h hmode, fun _ _ => hsets⟩

end Answered

/-- A platform with WIFI and LAN only. -/
def wifiAndLan (src : PWRMGRWakeupSrcType) : Bool :=
  src = .wifi ∨ src = .lan

/-- `SetWakeupSourceConfig` enables WIFI, on a platform with WIFI and LAN only. -/
def enableWifi : Label :=
  .setWakeupSourceConfig [⟨⟨.wifi, true⟩, 0⟩] (fun src => if wifiAndLan src.conv then 0 else 7)
    ⟨0, 0, .good⟩

/-- A device that has just started, with the mode disabled. -/
def started : NetworkStandby :=
  construct .sample (.fresh (.sample false)) ⟨fun _ => true⟩ 0 0

/-- WIFI alone is enabled, and then the network standby mode: all three are enabled. -/
theorem setNetworkStandbyMode_sets_enable :
    ∃ d, (networkStandby (.sample false) .sample).Run started [enableWifi] [] d ∧
      let r := d.setNetworkStandbyMode (.sample false) .sample true ⟨0, 0, .good⟩
      r.2.1.mode = true ∧ r.2.1.platform.enabled .wifi = true ∧
        r.2.1.platform.enabled .lan = true := by
  have hrun : (networkStandby (.sample false) .sample).Run started [enableWifi] [] _ :=
    Machine.run_of_exec rfl
  have hgood : Outcome.Answered wifiAndLan ⟨0, 0, .good⟩ := by decide
  have hls : ∀ l ∈ [enableWifi], l.Answered wifiAndLan := by decide
  have hsets := setNetworkStandbyMode_sets_iff (.sample false) .sample ⟨rfl, rfl⟩ hgood hrun hls true
    hgood
  exact ⟨_, hrun, hsets.mpr (fun h => absurd h (by decide)) (by decide)⟩

/-- WIFI alone is enabled, and the network standby mode, which is disabled, is disabled again: the
call returns `ERROR_NONE`, and WIFI stays enabled. -/
theorem not_setNetworkStandbyMode_sets :
    ∃ d, (networkStandby (.sample false) .sample).Run started [enableWifi] [] d ∧
      let r := d.setNetworkStandbyMode (.sample false) .sample false ⟨0, 0, .good⟩
      r.1 = .errorNone ∧ r.2.1.mode = false ∧ r.2.1.platform.enabled .wifi = true := by
  refine ⟨_, Machine.run_of_exec rfl, ?_⟩
  decide

/-! ## Without the statuses -/

section Sources

variable {w : WakeOnNetwork}

/-- `WakeOnNetwork` has the same settings, files and sources. -/
structure Matches (d : NetworkStandby) (w : WakeOnNetwork) : Prop where
  stored : d.stored = w.stored
  platform : d.platform.Matches w.sources

/-- The status of a call for a source. -/
def statusOf (codes : PmStatus) (supported : WakeupSrcType → Bool) (src : WakeupSrcType)
    (fails : Bool) : ℤ :=
  (Platform.platCall codes supported ⟨⟨src, false⟩, fails⟩).status

/-- What a `SetNetworkStandbyMode` of `WakeOnNetwork` meets. -/
def outcomeOf (codes : PmStatus) (supported : WakeupSrcType → Bool) (wifiFails lanFails : Bool) :
    Outcome where
  wifi := statusOf codes supported .wifi wifiFails
  lan := statusOf codes supported .lan lanFails
  io := .good

/-- The call behind a call of `WakeOnNetwork`. -/
def labelOf (codes : PmStatus) (supported : WakeupSrcType → Bool) : WakeOnNetwork.Label → Label
  | .setNetworkStandbyMode standbyMode wifiFails lanFails =>
    .setNetworkStandbyMode standbyMode (outcomeOf codes supported wifiFails lanFails)
  | .setWakeupSourceConfig calls wifiFails lanFails =>
    .setWakeupSourceConfig (calls.map (Platform.platCall codes supported))
      (fun src => statusOf codes supported src false)
      (outcomeOf codes supported wifiFails lanFails)

/-- The sources of the platform that are supported. -/
def supportedOf (supported : WakeupSrcType → Bool) (src : PWRMGRWakeupSrcType) : Bool :=
  wakeupSrcs.any fun src' => decide (src'.conv = src) && supported src'

theorem supportedOf_conv (supported : WakeupSrcType → Bool) {src : WakeupSrcType}
    (h : src ≠ .unknown) : supportedOf supported src.conv = supported src := by
  cases src <;> simp [supportedOf, wakeupSrcs, WakeupSrcType.conv] at h ⊢

/-- The statuses of calls that do not fail are answers. -/
theorem answers_statusOf (codes : PmStatus) (supported : WakeupSrcType → Bool) {src : WakeupSrcType}
    (h : src ≠ .unknown) :
    Answers (supportedOf supported) src (statusOf codes supported src false) := by
  have hpos : 0 < codes.operationNotSupported := codes.pos _ (by simp)
  simp only [Answers, statusOf, Platform.platCall, supportedOf_conv supported h]
  cases supported src <;> simp [hpos]

/-- `PowerController::SetWakeupSourceConfig` in the two models. -/
theorem matches_setAll (codes : PmStatus) {p : Platform} {sources : WakeupSources}
    (h : p.Matches sources) {calls : List SetWakeupSrc}
    (hcalls : ∀ call ∈ calls, call.config.wakeupSource ≠ .unknown) :
    let r := p.setWakeupSourceConfig codes
      (calls.map (Platform.platCall codes sources.supported))
    let r' := sources.setWakeupSourceConfig calls
    r.1 = r'.1 ∧ r.2.Matches r'.2 := by
  -- the loops of the two models latch the same failures
  obtain ⟨hfailed, hmatches⟩ := Platform.setAll_sources codes h hcalls
  refine ⟨?_, hmatches⟩
  rw [Platform.setWakeupSourceConfig, hfailed, WakeupSources.setWakeupSourceConfig]

/-- What `GetWakeupSourceConfig` tells about WIFI and LAN in the two models. -/
theorem matches_getWakeupSourceConfig (codes : PmStatus) {p : Platform} {sources : WakeupSources}
    (h : p.Matches sources) {src : WakeupSrcType} (hmem : src ∈ wakeupSrcs)
    (hsrc : sources.supported src = true) :
    let currConfigs := p.getWakeupSourceConfig codes
      fun src => statusOf codes sources.supported src false
    currConfigs.1 = .errorNone ∧
      isWakeupSrcEnabled currConfigs.2 src =
        isWakeupSrcEnabled sources.getWakeupSourceConfig src := by
  have hknown : ∀ src ∈ wakeupSrcs, src ≠ .unknown := by decide
  obtain ⟨hcode, hseen⟩ := getWakeupSourceConfig_answered codes p fun src hmem =>
    answers_statusOf codes sources.supported (hknown src hmem)
  refine ⟨hcode, ?_⟩
  rw [hseen src hmem, WakeupSources.isWakeupSrcEnabled_get hmem hsrc, seen,
    supportedOf_conv sources.supported (hknown src hmem), hsrc, Bool.true_and,
    h src (hknown src hmem)]

/-- `SetNetworkStandbyMode` in the two models. -/
theorem matches_setNetworkStandbyMode (T : Target) (codes : PmStatus) (h : d.Matches w)
    (standbyMode wifiFails lanFails : Bool) :
    (d.setNetworkStandbyMode T codes standbyMode
      (outcomeOf codes w.sources.supported wifiFails lanFails)).2.1.Matches
        (w.setNetworkStandbyMode T standbyMode wifiFails lanFails).2 := by
  have hmode : d.mode = w.mode := congrArg (·.settings.nwStandbyMode) h.stored
  have hcalls : networkCalls standbyMode (statusOf codes w.sources.supported .wifi wifiFails)
      (statusOf codes w.sources.supported .lan lanFails) =
      (WakeOnNetwork.networkCalls standbyMode wifiFails lanFails).map
        (Platform.platCall codes w.sources.supported) := rfl
  have hknown : ∀ call ∈ WakeOnNetwork.networkCalls standbyMode wifiFails lanFails,
      call.config.wakeupSource ≠ .unknown := by
    simp [WakeOnNetwork.networkCalls]
  obtain ⟨hcode, hmatches⟩ := matches_setAll codes h.platform hknown
  simp only [setNetworkStandbyMode, WakeOnNetwork.setNetworkStandbyMode, hmode, h.stored,
    outcomeOf, hcalls]
  split
  · exact ⟨rfl, h.platform⟩
  · rw [hcode]
    exact ⟨rfl, hmatches⟩

/-- `SetWakeupSourceConfig` in the two models. -/
theorem matches_setWakeupSourceConfig (T : Target) (codes : PmStatus) (h : d.Matches w)
    (calls : List SetWakeupSrc) (wifiFails lanFails : Bool) :
    (d.setWakeupSourceConfig T codes (calls.map (Platform.platCall codes w.sources.supported))
      (fun src => statusOf codes w.sources.supported src false)
      (outcomeOf codes w.sources.supported wifiFails lanFails)).2.1.Matches
        (w.setWakeupSourceConfig T calls wifiFails lanFails).2 := by
  have hany : ((calls.map (Platform.platCall codes w.sources.supported)).any
      (·.config.wakeupSource = .unknown)) = calls.any (·.config.wakeupSource = .unknown) := by
    rw [List.any_map]
    rfl
  rw [setWakeupSourceConfig, WakeOnNetwork.setWakeupSourceConfig, hany]
  split
  · exact h
  rename_i hunknown
  have hknown : ∀ call ∈ calls, call.config.wakeupSource ≠ .unknown := by
    simpa using hunknown
  obtain ⟨hcode, hmatches⟩ := matches_setAll codes h.platform hknown
  have hsupported : (w.sources.setWakeupSourceConfig calls).2.supported = w.sources.supported :=
    WakeupSources.setAll_supported _ _
  -- the two models go on with the same error code and matching sources
  generalize d.platform.setWakeupSourceConfig codes
    (calls.map (Platform.platCall codes w.sources.supported)) = r at hcode hmatches ⊢
  generalize w.sources.setWakeupSourceConfig calls = r' at hcode hmatches hsupported ⊢
  have hnext : Matches { d with platform := r.2 } { w with sources := r'.2 } := ⟨h.stored, hmatches⟩
  have hmode : NetworkStandby.mode { d with platform := r.2 } =
      WakeOnNetwork.mode { w with sources := r'.2 } := congrArg (·.settings.nwStandbyMode) h.stored
  obtain ⟨hget, hwifi⟩ := @matches_getWakeupSourceConfig codes _ _ hmatches .wifi (by decide)
    r'.2.supported_wifi
  obtain ⟨-, hlan⟩ := @matches_getWakeupSourceConfig codes _ _ hmatches .lan (by decide)
    r'.2.supported_lan
  have hset := matches_setNetworkStandbyMode T codes hnext
  dsimp only at hset hget hwifi hlan
  rw [hsupported] at hset hget hwifi hlan
  dsimp only
  have hok : ¬(ErrorCode.errorNone ≠ .errorNone) := not_not.mpr rfl
  rw [hcode, hget, if_neg hok, hwifi, hlan, hmode]
  split_ifs
  · exact hnext
  · exact hnext
  · exact hnext
  · exact hset _ _ _

/-- No call changes which sources are supported. -/
theorem call_supported (T : Target) (w : WakeOnNetwork) (l : WakeOnNetwork.Label) :
    (w.call T l).2.sources.supported = w.sources.supported := by
  have hset (w : WakeOnNetwork) (standbyMode wifiFails lanFails : Bool) :
      (w.setNetworkStandbyMode T standbyMode wifiFails lanFails).2.sources.supported =
        w.sources.supported := by
    simp only [WakeOnNetwork.setNetworkStandbyMode]
    split
    · rfl
    · exact WakeupSources.setAll_supported _ _
  cases l with
  | setNetworkStandbyMode standbyMode wifiFails lanFails => exact hset w _ _ _
  | setWakeupSourceConfig calls wifiFails lanFails =>
    have hall : (w.sources.setWakeupSourceConfig calls).2.supported = w.sources.supported :=
      WakeupSources.setAll_supported _ _
    simp only [WakeOnNetwork.call, WakeOnNetwork.setWakeupSourceConfig]
    split_ifs
    · rfl
    · exact hall
    · exact hall
    · exact hall
    · exact (hset _ _ _ _).trans hall

/-- A call of `WakeOnNetwork` is a call on a platform that returns the statuses that it leaves
out. -/
theorem matches_call (T : Target) (codes : PmStatus) (h : d.Matches w) (l : WakeOnNetwork.Label) :
    ∃ d' events, (networkStandby T codes).step d (labelOf codes w.sources.supported l) =
      some (d', events) ∧ d'.Matches (w.call T l).2 := by
  cases l with
  | setNetworkStandbyMode standbyMode wifiFails lanFails =>
    exact ⟨_, _, rfl, matches_setNetworkStandbyMode T codes h standbyMode wifiFails lanFails⟩
  | setWakeupSourceConfig calls wifiFails lanFails =>
    exact ⟨_, _, rfl, matches_setWakeupSourceConfig T codes h calls wifiFails lanFails⟩

/-- Every run of `WakeOnNetwork` is a run on such a platform. -/
theorem matches_run (codes : PmStatus) {w' : WakeOnNetwork} {ls : List WakeOnNetwork.Label}
    {os : List ErrorCode} (h : d.Matches w)
    (hrun : (WakeOnNetwork.wakeOnNetwork T).Run w ls os w') :
    ∃ d' events, (networkStandby T codes).Run d (ls.map (labelOf codes w.sources.supported)) events
      d' ∧ d'.Matches w' ∧ w'.sources.supported = w.sources.supported := by
  induction hrun with
  | nil => exact ⟨d, [], .nil d, h, rfl⟩
  | @snoc t u ls os os' l hrun hstep ih =>
    obtain ⟨d', events, hrun', hmatches, hsupported⟩ := ih
    cases hstep
    -- the supported sources are those of the first state, so that the labels fit
    obtain ⟨d'', events', hstep', hmatches'⟩ := matches_call T codes hmatches l
    rw [hsupported] at hstep'
    refine ⟨d'', events ++ events', ?_, hmatches', (call_supported T t l).trans hsupported⟩
    rw [List.map_append, List.map_singleton]
    exact hrun'.snoc hstep'

end Sources

end NetworkStandby

end PowerManager
