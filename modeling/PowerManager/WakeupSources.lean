import PowerManager.PowerController.Storage

/-!
# Wake-up sources and the network standby mode

The network standby mode is meant to say whether the device wakes up on WIFI and on LAN.
`SetNetworkStandbyMode` sets both sources, and then the mode. `SetWakeupSourceConfig` sets any
sources, and then calls `SetNetworkStandbyMode` if WIFI and LAN have come to agree on another mode.
Neither goes on after the platform has failed to set one of the sources, although the other ones are
set.

`inStep_iff` says in which sequences of calls the mode and the two sources stay in step.
-/

namespace PowerManager

/-- `Exchange::IPowerManager::WakeupSrcType`. -/
inductive WakeupSrcType
  | unknown
  | voice
  | presenceDetected
  | bluetooth
  | wifi
  | ir
  | powerKey
  | timer
  | cec
  | lan
  | rf4ce
  deriving DecidableEq, Repr

/-- `Exchange::IPowerManager::WakeupSourceConfig`. -/
structure WakeupSourceConfig where
  wakeupSource : WakeupSrcType
  enabled : Bool
  deriving DecidableEq, Repr

/-- A call of `PowerImpl::SetWakeupSrc`, and whether the platform fails to set the source. -/
structure SetWakeupSrc where
  config : WakeupSourceConfig
  fails : Bool
  deriving DecidableEq, Repr

/-- The wake-up sources of the platform. -/
structure WakeupSources where
  supported : WakeupSrcType → Bool
  enabled : WakeupSrcType → Bool
  supported_wifi : supported .wifi = true
  supported_lan : supported .lan = true

namespace WakeupSources

/-- `PowerImpl::SetWakeupSrc`: the result, whether the source is supported, and the sources. -/
def setWakeupSrc (p : WakeupSources) (call : SetWakeupSrc) : ErrorCode × Bool × WakeupSources :=
  if !p.supported call.config.wakeupSource then
    (.errorGeneral, false, p)
  else if call.fails then
    (.errorGeneral, true, p)
  else
    let enabled := Function.update p.enabled call.config.wakeupSource call.config.enabled
    (.errorNone, true, { p with enabled })

/-- The loop of `PowerController::SetWakeupSourceConfig`: whether a call has failed, and the
sources. -/
def setAll (p : WakeupSources) : List SetWakeupSrc → Bool × WakeupSources
  | [] => (false, p)
  | call :: calls =>
    let r := p.setWakeupSrc call
    let r' := setAll r.2.2 calls
    (decide (r.1 ≠ .errorNone) && r.2.1 || r'.1, r'.2)

/-- `PowerController::SetWakeupSourceConfig`. -/
def setWakeupSourceConfig (p : WakeupSources) (calls : List SetWakeupSrc) :
    ErrorCode × WakeupSources :=
  let r := p.setAll calls
  (if r.1 then .errorGeneral else .errorNone, r.2)

/-- The sources from VOICE to RF4CE. -/
def wakeupSrcs : List WakeupSrcType :=
  [.voice, .presenceDetected, .bluetooth, .wifi, .ir, .powerKey, .timer, .cec, .lan, .rf4ce]

/-- `PowerController::GetWakeupSourceConfig`. -/
def getWakeupSourceConfig (p : WakeupSources) : List WakeupSourceConfig :=
  (wakeupSrcs.filter p.supported).map fun src => ⟨src, p.enabled src⟩

/-- `PowerManagerImplementation::isWakeupSrcEnabled`. -/
def isWakeupSrcEnabled (configs : List WakeupSourceConfig) (src : WakeupSrcType) : Bool :=
  ((configs.find? (·.wakeupSource = src)).map (·.enabled)).getD false

/-! ## What the calls do -/

/-- What a source is set to after the calls: the value of the last one that names it and does not
fail. -/
def valueAfter (src : WakeupSrcType) (old : Bool) (calls : List SetWakeupSrc) : Bool :=
  calls.foldl
    (fun value call =>
      if call.config.wakeupSource = src ∧ call.fails = false then call.config.enabled else value)
    old

/-- No call fails for a source that is supported. -/
def NoneFails (p : WakeupSources) (calls : List SetWakeupSrc) : Prop :=
  ∀ call ∈ calls, p.supported call.config.wakeupSource = true → call.fails = false

instance (p : WakeupSources) (calls : List SetWakeupSrc) : Decidable (p.NoneFails calls) :=
  inferInstanceAs (Decidable (∀ call ∈ calls, p.supported _ = true → call.fails = false))

variable {p : WakeupSources} {src : WakeupSrcType}

@[simp]
theorem setWakeupSrc_supported (p : WakeupSources) (call : SetWakeupSrc) :
    (p.setWakeupSrc call).2.2.supported = p.supported := by
  unfold setWakeupSrc
  split_ifs <;> rfl

@[simp]
theorem setAll_supported (p : WakeupSources) (calls : List SetWakeupSrc) :
    (p.setAll calls).2.supported = p.supported := by
  induction calls generalizing p with
  | nil => rfl
  | cons call calls ih =>
    rw [setAll]
    exact (ih _).trans (setWakeupSrc_supported p call)

/-- A call sets its own source, unless it fails. -/
theorem setWakeupSrc_enabled (hsrc : p.supported src = true) (call : SetWakeupSrc) :
    (p.setWakeupSrc call).2.2.enabled src =
      if call.config.wakeupSource = src ∧ call.fails = false then call.config.enabled
      else p.enabled src := by
  by_cases hname : call.config.wakeupSource = src
  · subst hname
    cases hfails : call.fails with
    | true => simp [setWakeupSrc, hsrc, hfails]
    | false => simp [setWakeupSrc, hsrc, hfails]
  · rw [if_neg fun h => hname h.1]
    unfold setWakeupSrc
    split_ifs with hsupported hfails
    · rfl
    · rfl
    · exact Function.update_of_ne (Ne.symm hname) ..

/-- The calls set a source to the value of the last one that does not fail. -/
theorem setAll_enabled (hsrc : p.supported src = true) (calls : List SetWakeupSrc) :
    (p.setAll calls).2.enabled src = valueAfter src (p.enabled src) calls := by
  induction calls generalizing p with
  | nil => rfl
  | cons call calls ih =>
    have hsrc' : (p.setWakeupSrc call).2.2.supported src = true := by
      rw [setWakeupSrc_supported]
      exact hsrc
    rw [setAll, ih hsrc', setWakeupSrc_enabled hsrc]
    rfl

/-- A failure is latched. -/
theorem setAll_fst (p : WakeupSources) (calls : List SetWakeupSrc) :
    (p.setAll calls).1 = false ↔ p.NoneFails calls := by
  induction calls generalizing p with
  | nil => simp [setAll, NoneFails]
  | cons call calls ih =>
    -- a source that is not supported is skipped, and counts as no failure
    have hcall : (decide ((p.setWakeupSrc call).1 ≠ .errorNone) && (p.setWakeupSrc call).2.1) =
        (p.supported call.config.wakeupSource && call.fails) := by
      unfold setWakeupSrc
      cases p.supported call.config.wakeupSource <;> cases call.fails <;> rfl
    have hrest := ih (p.setWakeupSrc call).2.2
    rw [setAll, hcall, Bool.or_eq_false_iff, hrest]
    simp only [NoneFails, setWakeupSrc_supported, List.forall_mem_cons, Bool.and_eq_false_imp]

/-- `SetWakeupSourceConfig` reports whether a call has failed. -/
theorem setWakeupSourceConfig_fst (p : WakeupSources) (calls : List SetWakeupSrc) :
    (p.setWakeupSourceConfig calls).1 = .errorNone ↔ p.NoneFails calls := by
  rw [← setAll_fst, setWakeupSourceConfig]
  cases (p.setAll calls).1 <;> simp

/-- In a list of sources with their values, a source has its value, and is disabled if it is not in
the list. -/
theorem isWakeupSrcEnabled_map (srcs : List WakeupSrcType) (value : WakeupSrcType → Bool)
    (src : WakeupSrcType) :
    isWakeupSrcEnabled (srcs.map fun src => ⟨src, value src⟩) src =
      (decide (src ∈ srcs) && value src) := by
  induction srcs with
  | nil => rfl
  | cons src' srcs ih =>
    by_cases h : src' = src
    · subst h
      simp [isWakeupSrcEnabled]
    · have hne : src ≠ src' := fun heq => h heq.symm
      rw [isWakeupSrcEnabled] at ih ⊢
      rw [List.map_cons, List.find?_cons_of_neg (by simpa using h), ih]
      simp [hne]

/-- The list of `GetWakeupSourceConfig` tells whether a supported source is enabled. -/
theorem isWakeupSrcEnabled_get (hmem : src ∈ wakeupSrcs) (hsrc : p.supported src = true) :
    isWakeupSrcEnabled p.getWakeupSourceConfig src = p.enabled src := by
  have hmem' : src ∈ wakeupSrcs.filter p.supported := List.mem_filter.mpr ⟨hmem, hsrc⟩
  rw [getWakeupSourceConfig, isWakeupSrcEnabled_map, decide_eq_true hmem', Bool.true_and]

end WakeupSources

/-! ## The two interface methods -/

/-- The power controller and the wake-up sources of the platform. -/
structure WakeOnNetwork where
  stored : Stored
  sources : WakeupSources

namespace WakeOnNetwork

open WakeupSources (valueAfter isWakeupSrcEnabled)

/-- `GetNetworkStandbyMode`. -/
def mode (d : WakeOnNetwork) : Bool :=
  d.stored.settings.nwStandbyMode

/-- The calls with which `PowerController::SetNetworkStandbyMode` sets WIFI and LAN. -/
def networkCalls (standbyMode wifiFails lanFails : Bool) : List SetWakeupSrc :=
  [⟨⟨.wifi, standbyMode⟩, wifiFails⟩, ⟨⟨.lan, standbyMode⟩, lanFails⟩]

/-- `SetNetworkStandbyMode`. The settings are saved. -/
def setNetworkStandbyMode (T : Target) (d : WakeOnNetwork) (standbyMode wifiFails lanFails : Bool) :
    ErrorCode × WakeOnNetwork :=
  let wakeup :=
    -- the mode in memory is looked at before any source is set
    if standbyMode = d.mode then (.errorNone, d.sources)
    else d.sources.setWakeupSourceConfig (networkCalls standbyMode wifiFails lanFails)
  let r := d.stored.setNetworkStandbyMode T wakeup.1 .good standbyMode
  (r.1, ⟨r.2, wakeup.2⟩)

/-- `SetWakeupSourceConfig`. The last two arguments are about the call of `SetNetworkStandbyMode`
that it may end with. -/
def setWakeupSourceConfig (T : Target) (d : WakeOnNetwork) (calls : List SetWakeupSrc)
    (wifiFails lanFails : Bool) : ErrorCode × WakeOnNetwork :=
  if calls.any (·.config.wakeupSource = .unknown) then
    (.errorInvalidParameter, d)
  else
    let r := d.sources.setWakeupSourceConfig calls
    let d := { d with sources := r.2 }
    if r.1 ≠ .errorNone then
      (r.1, d)
    else
      let currConfigs := d.sources.getWakeupSourceConfig
      let isWiFiEnabled := isWakeupSrcEnabled currConfigs .wifi
      let isLanEnabled := isWakeupSrcEnabled currConfigs .lan
      if isWiFiEnabled ≠ isLanEnabled then
        (.errorNone, d)
      else
        let nwStandbyMode := isWiFiEnabled && isLanEnabled
        if nwStandbyMode = d.mode then (.errorNone, d)
        else d.setNetworkStandbyMode T nwStandbyMode wifiFails lanFails

/-- A call, and which sources the platform fails to set. -/
inductive Label
  | setNetworkStandbyMode (standbyMode wifiFails lanFails : Bool)
  | setWakeupSourceConfig (calls : List SetWakeupSrc) (wifiFails lanFails : Bool)

/-- The calls. -/
def call (T : Target) (d : WakeOnNetwork) : Label → ErrorCode × WakeOnNetwork
  | .setNetworkStandbyMode standbyMode wifiFails lanFails =>
    d.setNetworkStandbyMode T standbyMode wifiFails lanFails
  | .setWakeupSourceConfig calls wifiFails lanFails =>
    d.setWakeupSourceConfig T calls wifiFails lanFails

/-- The machine of the calls. Its outputs are the error codes they return. -/
def wakeOnNetwork (T : Target) : Machine WakeOnNetwork Label ErrorCode where
  step d l := some ((d.call T l).2, [(d.call T l).1])

/-! ## In step -/

/-- If WIFI and LAN are both enabled, or both disabled, the mode says which. -/
def InStep (d : WakeOnNetwork) : Prop :=
  d.sources.enabled .wifi = d.sources.enabled .lan → d.mode = d.sources.enabled .wifi

/-- The calls bring WIFI and LAN to one value, and it is not the mode. -/
def Diverts (d : WakeOnNetwork) (calls : List SetWakeupSrc) : Prop :=
  let wifi := valueAfter .wifi (d.sources.enabled .wifi) calls
  wifi = valueAfter .lan (d.sources.enabled .lan) calls ∧ wifi ≠ d.mode

instance (d : WakeOnNetwork) (calls : List SetWakeupSrc) : Decidable (d.Diverts calls) :=
  inferInstanceAs (Decidable (_ ∧ _))

/-- A call that brings WIFI and LAN to one value, other than the mode, meets no failure of the
platform. -/
def Reliable (d : WakeOnNetwork) : Label → Prop
  | .setNetworkStandbyMode standbyMode wifiFails lanFails =>
    standbyMode ≠ d.mode → d.Diverts (networkCalls standbyMode wifiFails lanFails) →
      wifiFails = false ∧ lanFails = false
  | .setWakeupSourceConfig calls wifiFails lanFails =>
    (∀ c ∈ calls, c.config.wakeupSource ≠ .unknown) → d.Diverts calls →
      d.sources.NoneFails calls ∧ wifiFails = false ∧ lanFails = false

instance (d : WakeOnNetwork) (l : Label) : Decidable (d.Reliable l) :=
  match l with
  | .setNetworkStandbyMode _ _ _ => inferInstanceAs (Decidable (_ → _ → _))
  | .setWakeupSourceConfig _ _ _ => inferInstanceAs (Decidable ((∀ c ∈ _, _) → _ → _))

variable {T : Target} {d d' : WakeOnNetwork} {l : Label} {ls : List Label}
  {standbyMode : Bool}

/-- `SetNetworkStandbyMode` to the current mode does nothing. -/
theorem setNetworkStandbyMode_same (hmode : standbyMode = d.mode) (wifiFails lanFails : Bool) :
    (d.setNetworkStandbyMode T standbyMode wifiFails lanFails).2 = d := by
  have hmode' : standbyMode = d.stored.settings.nwStandbyMode := hmode
  simp only [setNetworkStandbyMode, if_pos hmode, Stored.setNetworkStandbyMode, if_pos hmode']

/-- `SetNetworkStandbyMode` to another mode sets the two sources, and sets the mode if neither of
the two calls fails. -/
theorem setNetworkStandbyMode_spec (T : Target) (hmode : standbyMode ≠ d.mode)
    (wifiFails lanFails : Bool) :
    let r := (d.setNetworkStandbyMode T standbyMode wifiFails lanFails).2
    r.sources = (d.sources.setAll (networkCalls standbyMode wifiFails lanFails)).2 ∧
      r.mode = if wifiFails = false ∧ lanFails = false then standbyMode else d.mode := by
  have hok : (d.sources.setWakeupSourceConfig (networkCalls standbyMode wifiFails lanFails)).1 =
      .errorNone ↔ wifiFails = false ∧ lanFails = false := by
    rw [WakeupSources.setWakeupSourceConfig_fst]
    simp [WakeupSources.NoneFails, networkCalls, d.sources.supported_wifi, d.sources.supported_lan]
  have hmode' : ¬standbyMode = d.stored.settings.nwStandbyMode := hmode
  simp only [setNetworkStandbyMode, if_neg hmode, Stored.setNetworkStandbyMode, if_neg hmode', ne_eq,
    hok]
  refine ⟨rfl, ?_⟩
  by_cases hfails : wifiFails = false ∧ lanFails = false
  · simp only [hfails, and_self, not_true_eq_false, if_false, if_true]
    rfl
  · simp only [hfails, not_false_eq_true, if_true, if_false]
    rfl

/-- After some calls, with the mode unchanged, WIFI and LAN are in step with the mode exactly if the
calls have not diverted them from it. -/
theorem inStep_of_setAll (d : WakeOnNetwork) (calls : List SetWakeupSrc)
    (hsources : d'.sources = (d.sources.setAll calls).2) (hmode : d'.mode = d.mode) :
    d'.InStep ↔ ¬d.Diverts calls := by
  have hwifi := d.sources.setAll_enabled d.sources.supported_wifi calls
  have hlan := d.sources.setAll_enabled d.sources.supported_lan calls
  simp only [InStep, Diverts, hsources, hmode, hwifi, hlan, not_and, not_not]
  exact ⟨fun h heq => (h heq).symm, fun h heq => (h heq).symm⟩

/-- Calls that set nothing but sources divert WIFI and LAN from the mode, or leave them in step with
it. -/
theorem inStep_setAll (d : WakeOnNetwork) (calls : List SetWakeupSrc) :
    InStep { d with sources := (d.sources.setAll calls).2 } ↔ ¬d.Diverts calls := by
  apply inStep_of_setAll d calls
  · rfl
  · rfl

/-- `SetNetworkStandbyMode` to another mode leaves WIFI and LAN in step with the mode exactly if
neither of its calls fails while they divert them from the old mode. -/
theorem inStep_setNetworkStandbyMode (T : Target) (hmode : standbyMode ≠ d.mode)
    (wifiFails lanFails : Bool) :
    InStep (d.setNetworkStandbyMode T standbyMode wifiFails lanFails).2 ↔
      (d.Diverts (networkCalls standbyMode wifiFails lanFails) →
        wifiFails = false ∧ lanFails = false) := by
  obtain ⟨hsources, hset⟩ := setNetworkStandbyMode_spec T hmode wifiFails lanFails
  -- the mode is set only after both sources have been
  by_cases hfails : wifiFails = false ∧ lanFails = false
  · obtain ⟨rfl, rfl⟩ := hfails
    have hwifi := d.sources.setAll_enabled d.sources.supported_wifi
      (networkCalls standbyMode false false)
    refine ⟨fun _ _ => ⟨rfl, rfl⟩, fun _ _ => ?_⟩
    rw [hset, hsources, hwifi]
    rfl
  · rw [if_neg hfails] at hset
    rw [inStep_of_setAll d _ hsources hset]
    exact ⟨fun hno h => absurd h hno, fun h hdiverts => hfails (h hdiverts)⟩

/-- The second pass over WIFI and LAN, which sets them to the value they have, diverts them if they
were diverted. -/
theorem diverts_networkCalls (hsame : d.sources.enabled .wifi = d.sources.enabled .lan)
    (hmode : d.sources.enabled .wifi ≠ d.mode) (wifiFails lanFails : Bool) :
    d.Diverts (networkCalls (d.sources.enabled .wifi) wifiFails lanFails) := by
  have hwifi : valueAfter .wifi (d.sources.enabled .wifi)
      (networkCalls (d.sources.enabled .wifi) wifiFails lanFails) = d.sources.enabled .wifi := by
    cases wifiFails <;> rfl
  have hlan : valueAfter .lan (d.sources.enabled .lan)
      (networkCalls (d.sources.enabled .wifi) wifiFails lanFails) = d.sources.enabled .wifi := by
    rw [← hsame]
    cases lanFails <;> rfl
  refine ⟨hwifi.trans hlan.symm, ?_⟩
  rw [hwifi]
  exact hmode

/-- `SetWakeupSourceConfig`, if no call fails: it leaves WIFI and LAN as they are, or it calls
`SetNetworkStandbyMode` because they are diverted from the mode. -/
theorem setWakeupSourceConfig_of_noneFails {calls : List SetWakeupSrc}
    (hknown : ∀ c ∈ calls, c.config.wakeupSource ≠ .unknown) (hnone : d.sources.NoneFails calls)
    (wifiFails lanFails : Bool) :
    let d₁ : WakeOnNetwork := { d with sources := (d.sources.setAll calls).2 }
    (d.setWakeupSourceConfig T calls wifiFails lanFails).2 =
      if d₁.sources.enabled .wifi = d₁.sources.enabled .lan ∧ d₁.sources.enabled .wifi ≠ d.mode then
        (d₁.setNetworkStandbyMode T (d₁.sources.enabled .wifi) wifiFails lanFails).2
      else d₁ := by
  intro d₁
  have hknown' : ¬calls.any (·.config.wakeupSource = .unknown) = true := by
    simpa using hknown
  have hok := (d.sources.setWakeupSourceConfig_fst calls).mpr hnone
  have hsources : (d.sources.setWakeupSourceConfig calls).2 = d₁.sources := rfl
  have hwifi : isWakeupSrcEnabled d₁.sources.getWakeupSourceConfig .wifi =
      d₁.sources.enabled .wifi :=
    WakeupSources.isWakeupSrcEnabled_get (by decide) d₁.sources.supported_wifi
  have hlan : isWakeupSrcEnabled d₁.sources.getWakeupSourceConfig .lan =
      d₁.sources.enabled .lan :=
    WakeupSources.isWakeupSrcEnabled_get (by decide) d₁.sources.supported_lan
  simp only [setWakeupSourceConfig, if_neg hknown', hok, ne_eq, not_true_eq_false, if_false,
    hsources, hwifi, hlan]
  by_cases hsame : d₁.sources.enabled .wifi = d₁.sources.enabled .lan
  · simp only [← hsame, Bool.and_self, not_true_eq_false, if_false, true_and]
    by_cases hmode : d₁.sources.enabled .wifi = d₁.mode
    · have hmode' : d₁.sources.enabled .wifi = d.mode := hmode
      -- the mode is right already
      rw [if_pos hmode, if_neg fun h => h hmode']
    · have hmode' : ¬d₁.sources.enabled .wifi = d.mode := hmode
      rw [if_neg hmode, if_pos hmode']
  · rw [if_pos hsame, if_neg fun h => hsame h.1]

/-- `SetWakeupSourceConfig`, if a call fails: the other sources are set, and that is all. -/
theorem setWakeupSourceConfig_of_fails {calls : List SetWakeupSrc}
    (hknown : ∀ c ∈ calls, c.config.wakeupSource ≠ .unknown) (hfails : ¬d.sources.NoneFails calls)
    (wifiFails lanFails : Bool) :
    (d.setWakeupSourceConfig T calls wifiFails lanFails).2 =
      { d with sources := (d.sources.setAll calls).2 } := by
  have hknown' : ¬calls.any (·.config.wakeupSource = .unknown) = true := by
    simpa using hknown
  have hcode : ¬(d.sources.setWakeupSourceConfig calls).1 = .errorNone := by
    rw [WakeupSources.setWakeupSourceConfig_fst]
    exact hfails
  simp only [setWakeupSourceConfig, if_neg hknown', ne_eq, hcode, not_false_eq_true, if_true]
  rfl

/-- `SetWakeupSourceConfig`, if no call fails, leaves WIFI and LAN in step with the mode exactly if
the calls of `SetNetworkStandbyMode` do not fail when they are needed. -/
theorem inStep_setWakeupSourceConfig {calls : List SetWakeupSrc} {wifiFails lanFails : Bool}
    (hknown : ∀ c ∈ calls, c.config.wakeupSource ≠ .unknown) (hnone : d.sources.NoneFails calls) :
    InStep (d.setWakeupSourceConfig T calls wifiFails lanFails).2 ↔
      (d.Diverts calls → wifiFails = false ∧ lanFails = false) := by
  rw [setWakeupSourceConfig_of_noneFails hknown hnone]
  have hwifi := d.sources.setAll_enabled d.sources.supported_wifi calls
  have hlan := d.sources.setAll_enabled d.sources.supported_lan calls
  have hdiverts : d.Diverts calls ↔
      (d.sources.setAll calls).2.enabled .wifi = (d.sources.setAll calls).2.enabled .lan ∧
        (d.sources.setAll calls).2.enabled .wifi ≠ d.mode := by
    rw [hwifi, hlan, Diverts]
  -- diverted sources make the second pass necessary, and it diverts them once more
  by_cases h : d.Diverts calls
  · obtain ⟨hsame, hmode⟩ := hdiverts.mp h
    have hagain : Diverts { d with sources := (d.sources.setAll calls).2 }
        (networkCalls ((d.sources.setAll calls).2.enabled .wifi) wifiFails lanFails) :=
      diverts_networkCalls hsame hmode wifiFails lanFails
    rw [if_pos (hdiverts.mp h), inStep_setNetworkStandbyMode T (by exact hmode)]
    exact ⟨fun hok _ => hok hagain, fun hok _ => hok h⟩
  · rw [if_neg (fun hno => h (hdiverts.mpr hno)), inStep_setAll]
    exact ⟨fun _ hyes => absurd hyes h, fun _ => h⟩

/-- A call keeps WIFI and LAN in step with the mode exactly if it is reliable. -/
theorem inStep_call_iff (hd : d.InStep) (l : Label) : (d.call T l).2.InStep ↔ d.Reliable l := by
  cases l with
  | setNetworkStandbyMode standbyMode wifiFails lanFails =>
    rw [call, Reliable]
    by_cases hmode : standbyMode = d.mode
    · rw [setNetworkStandbyMode_same hmode]
      exact ⟨fun _ hne => absurd hmode hne, fun _ => hd⟩
    · rw [inStep_setNetworkStandbyMode T hmode]
      exact ⟨fun h _ => h, fun h => h hmode⟩
  | setWakeupSourceConfig calls wifiFails lanFails =>
    rw [call, Reliable]
    by_cases hknown : ∀ c ∈ calls, c.config.wakeupSource ≠ .unknown
    · by_cases hnone : d.sources.NoneFails calls
      · rw [inStep_setWakeupSourceConfig hknown hnone]
        exact ⟨fun h _ hdiverts => ⟨hnone, h hdiverts⟩, fun h hdiverts => (h hknown hdiverts).2⟩
      · -- the first failure ends the call with the mode as it was
        have hsources := setWakeupSourceConfig_of_fails (T := T) hknown hnone wifiFails lanFails
        rw [hsources, inStep_setAll]
        exact ⟨fun hno _ h => absurd h hno, fun h hdiverts => hnone (h hknown hdiverts).1⟩
    · have hany : calls.any (·.config.wakeupSource = .unknown) = true := by
        simpa using hknown
      rw [setWakeupSourceConfig, if_pos hany]
      exact ⟨fun _ h => absurd h hknown, fun _ => hd⟩

/-- In a sequence of calls, WIFI and LAN are in step with the mode after every call exactly if every
call is reliable. They are in step at the start, when both have been set to the mode. -/
theorem inStep_iff (T : Target) (hd : d.InStep) (ls : List Label) :
    (wakeOnNetwork T).Throughout InStep d ls ↔ (wakeOnNetwork T).Along Reliable d ls := by
  constructor
  · intro h pre l post os t hcut hrun
    have ht : t.InStep := h pre (l :: post) os t hcut hrun
    -- a call is between two states of the run
    have hnext : (t.call T l).2.InStep :=
      h (pre ++ [l]) post _ _ (by simp [hcut]) (hrun.snoc rfl)
    exact (inStep_call_iff ht l).mp hnext
  · intro h pre post os t hcut hrun
    rw [hcut] at h
    refine hrun.invariant_along h.left hd ?_
    rintro t l t' os' ht hl hstep
    cases hstep
    exact (inStep_call_iff ht l).mpr hl

/-- A device with the sources WIFI, LAN and IR, all of them disabled. -/
def disabled : WakeOnNetwork where
  stored := .fresh (.sample false)
  sources := ⟨(· ∈ [.wifi, .lan, .ir]), fun _ => false, rfl, rfl⟩

/-- The network standby mode follows WIFI and LAN, which are enabled one after the other while the
platform fails for IR. -/
theorem inStep_enable :
    let ls : List Label := [.setWakeupSourceConfig [⟨⟨.wifi, true⟩, false⟩, ⟨⟨.ir, true⟩, true⟩]
      false false, .setWakeupSourceConfig [⟨⟨.lan, true⟩, false⟩] false false]
    ∃ t, (wakeOnNetwork (.sample false)).Run disabled ls [.errorGeneral, .errorNone] t ∧
      t.mode = true := by
  intro ls
  have hrun : (wakeOnNetwork (.sample false)).Run disabled ls _ _ := Machine.run_of_exec rfl
  have halong : (wakeOnNetwork (.sample false)).Along Reliable disabled ls :=
    Machine.along_of_check (by decide)
  have hall := (@inStep_iff disabled (.sample false) (fun _ => rfl) ls).mpr halong
  exact ⟨_, hrun, hall ls [] _ _ (by simp) hrun rfl⟩

/-- The platform fails for IR after WIFI and LAN have been enabled: the mode stays disabled. -/
theorem outOfStep :
    let r := disabled.setWakeupSourceConfig (.sample false)
      [⟨⟨.wifi, true⟩, false⟩, ⟨⟨.lan, true⟩, false⟩, ⟨⟨.ir, true⟩, true⟩] false false
    r.1 = .errorGeneral ∧ r.2.sources.enabled .wifi = true ∧ r.2.sources.enabled .lan = true ∧
      r.2.mode = false :=
  ⟨rfl, rfl, rfl, rfl⟩

end WakeOnNetwork

end PowerManager
