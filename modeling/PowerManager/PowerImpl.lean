import PowerManager.WakeupSources

/-!
# The platform's wake-up sources

`PowerImpl` passes the calls for wake-up sources on to the vendor's library, and makes an error
code and a flag `supported` out of the status it returns. `PowerController` goes through a list of
sources, and latches the failures of those that are supported.

The status of a call is an argument of the model. A call sets its source if its status is
`PWRMGR_SUCCESS`, and otherwise leaves it as it is.

* `setWakeupSourceConfig_fst` says when `SetWakeupSourceConfig` returns `ERROR_NONE`, and
  `no_failure_swallowed_iff` when this means that no call has failed.
* `setAll_enabled`: every source is left with the value of the last call that sets it.
* `setAll_sources`: `WakeupSources` is this platform, with the statuses left out.
-/

namespace PowerManager

/-- `PWRMGR_WakeupSrcType_t`. -/
inductive PWRMGRWakeupSrcType
  | voice
  | presenceDetection
  | bluetooth
  | wifi
  | ir
  | powerKey
  | timer
  | cec
  | lan
  | max
  deriving DecidableEq, Repr

/-- `PowerImpl::conv`, from a source to the source of the platform. RF4CE has none. -/
def WakeupSrcType.conv : WakeupSrcType → PWRMGRWakeupSrcType
  | .voice => .voice
  | .presenceDetected => .presenceDetection
  | .bluetooth => .bluetooth
  | .wifi => .wifi
  | .ir => .ir
  | .powerKey => .powerKey
  | .timer => .timer
  | .cec => .cec
  | .lan => .lan
  | .unknown | .rf4ce => .max

/-- Sources that have a name have different sources of the platform. -/
theorem WakeupSrcType.conv_inj {src src' : WakeupSrcType} (h : src ≠ .unknown)
    (h' : src' ≠ .unknown) : src.conv = src'.conv ↔ src = src' := by
  cases src <;> cases src' <;> simp_all [conv]

/-- The values of the enumerators of `pmStatus_t` in `plat_power.h`. -/
structure PmStatus where
  invalidArgument : ℤ
  alreadyInitialized : ℤ
  notInitialized : ℤ
  initFailure : ℤ
  setFailure : ℤ
  getFailure : ℤ
  operationNotSupported : ℤ
  termFailure : ℤ
  max : ℤ
  pos : ∀ code ∈ [invalidArgument, alreadyInitialized, notInitialized, initFailure, setFailure,
    getFailure, operationNotSupported, termFailure, max], 0 < code
  nodup : [invalidArgument, alreadyInitialized, notInitialized, initFailure, setFailure, getFailure,
    operationNotSupported, termFailure, max].Nodup

namespace PmStatus

/-- `PWRMGR_SUCCESS`. -/
def success : ℤ := 0

/-- `PowerImpl::conv`, from a status to an error code. -/
def conv (codes : PmStatus) (result : ℤ) : ErrorCode :=
  if result < 0 then .errorGeneral
  else if result = success then .errorNone
  else if result = codes.invalidArgument then .errorInvalidParameter
  else if result = codes.notInitialized then .errorIllegalState
  else if result = codes.setFailure then .errorWriteError
  else if result = codes.getFailure then .errorReadError
  else .errorGeneral

/-- Codes for the examples. -/
def sample : PmStatus :=
  ⟨1, 2, 3, 4, 5, 6, 7, 8, 9, by decide, by decide⟩

/-- Success is the only status without an error. -/
theorem conv_eq_errorNone_iff (codes : PmStatus) (result : ℤ) :
    codes.conv result = .errorNone ↔ result = success := by
  unfold conv
  split_ifs with hneg hsuccess
  · simp only [false_iff, success]
    omega
  · simp [hsuccess]
  all_goals simp [hsuccess]

/-- The error code of an operation that is not supported. -/
theorem conv_operationNotSupported (codes : PmStatus) :
    codes.conv codes.operationNotSupported = .errorGeneral := by
  have hpos := codes.pos
  have hnodup := codes.nodup
  simp only [List.mem_cons, List.not_mem_nil, or_false, forall_eq_or_imp, forall_eq,
    List.nodup_cons, not_or] at hpos hnodup
  simp only [conv, success]
  grind

end PmStatus

/-- A call of `PLAT_API_SetWakeupSrc`, and the status it returns. -/
structure PlatSetWakeupSrc where
  config : WakeupSourceConfig
  status : ℤ
  deriving DecidableEq, Repr

/-- The wake-up sources that are enabled, as the vendor's library keeps them. -/
structure Platform where
  enabled : PWRMGRWakeupSrcType → Bool

namespace Platform

variable {codes : PmStatus} {p : Platform} {call : PlatSetWakeupSrc}
  {calls : List PlatSetWakeupSrc} {src : WakeupSrcType}

/-- `PLAT_API_SetWakeupSrc`. -/
def platSetWakeupSrc (p : Platform) (src : PWRMGRWakeupSrcType) (enabled : Bool) (status : ℤ) :
    Platform :=
  if status = PmStatus.success then ⟨Function.update p.enabled src enabled⟩ else p

/-- `PowerImpl::SetWakeupSrc`: the result, whether the source is supported, and the platform. -/
def setWakeupSrc (codes : PmStatus) (p : Platform) (call : PlatSetWakeupSrc) :
    ErrorCode × Bool × Platform :=
  let supported := !decide (0 < call.status)
  (codes.conv call.status, supported,
    p.platSetWakeupSrc call.config.wakeupSource.conv call.config.enabled call.status)

/-- `PowerImpl::GetWakeupSrc`: the result, whether the source is enabled, and whether it is
supported. -/
def getWakeupSrc (codes : PmStatus) (p : Platform) (src : WakeupSrcType) (status : ℤ) :
    ErrorCode × Bool × Bool :=
  let supported := !decide (0 < status)
  (codes.conv status, if status = PmStatus.success then p.enabled src.conv else false, supported)

/-- The loop of `PowerController::SetWakeupSourceConfig`: whether a failure has been latched, and
the platform. -/
def setAll (codes : PmStatus) (p : Platform) : List PlatSetWakeupSrc → Bool × Platform
  | [] => (false, p)
  | call :: calls =>
    -- a failure does not end the loop: the calls that follow are made as well
    let r := p.setWakeupSrc codes call
    let r' := setAll codes r.2.2 calls
    (decide (r.1 ≠ .errorNone) && r.2.1 || r'.1, r'.2)

/-- `PowerController::SetWakeupSourceConfig`. -/
def setWakeupSourceConfig (codes : PmStatus) (p : Platform) (calls : List PlatSetWakeupSrc) :
    ErrorCode × Platform :=
  let r := p.setAll codes calls
  (if r.1 then .errorGeneral else .errorNone, r.2)

/-- The loop of `PowerController::GetWakeupSourceConfig`: whether a failure has been latched, and
the configs. `status` is about the calls of `PLAT_API_GetWakeupSrc`. -/
def getAll (codes : PmStatus) (p : Platform) (status : WakeupSrcType → ℤ) :
    List WakeupSrcType → Bool × List WakeupSourceConfig
  | [] => (false, [])
  | src :: srcs =>
    let r := p.getWakeupSrc codes src (status src)
    let r' := getAll codes p status srcs
    if r.1 = .errorNone then (r'.1, ⟨src, r.2.1⟩ :: r'.2)
    -- a source that is not supported is left out of the list
    else if !r.2.2 then r'
    else (true, r'.2)

/-- `PowerController::GetWakeupSourceConfig`. -/
def getWakeupSourceConfig (codes : PmStatus) (p : Platform) (status : WakeupSrcType → ℤ) :
    ErrorCode × List WakeupSourceConfig :=
  let r := p.getAll codes status WakeupSources.wakeupSrcs
  (if r.1 then .errorGeneral else .errorNone, r.2)

/-! ## Failures -/

/-- What is latched as a failure: a status below zero. A status above zero, of whatever kind, is
taken for a source that is not supported. -/
theorem setWakeupSrc_failed (codes : PmStatus) (p : Platform) (call : PlatSetWakeupSrc) :
    (decide ((p.setWakeupSrc codes call).1 ≠ .errorNone) && (p.setWakeupSrc codes call).2.1) = true ↔
      call.status < 0 := by
  simp only [setWakeupSrc, Bool.and_eq_true, decide_eq_true_eq, Bool.not_eq_true',
    decide_eq_false_iff_not, ne_eq, PmStatus.conv_eq_errorNone_iff, PmStatus.success]
  omega

theorem setAll_fst (codes : PmStatus) (p : Platform) (calls : List PlatSetWakeupSrc) :
    (p.setAll codes calls).1 = true ↔ ∃ call ∈ calls, call.status < 0 := by
  induction calls generalizing p with
  | nil => simp [setAll]
  | cons call calls ih =>
    rw [setAll, Bool.or_eq_true, setWakeupSrc_failed, ih, List.exists_mem_cons_iff]

/-- `SetWakeupSourceConfig` returns `ERROR_NONE` if no status is below zero. -/
theorem setWakeupSourceConfig_fst (codes : PmStatus) (p : Platform)
    (calls : List PlatSetWakeupSrc) :
    (p.setWakeupSourceConfig codes calls).1 = .errorNone ↔ ∀ call ∈ calls, 0 ≤ call.status := by
  have hfst := setAll_fst codes p calls
  rw [setWakeupSourceConfig]
  cases hfailed : (p.setAll codes calls).1 with
  | false =>
    rw [hfailed] at hfst
    simpa using hfst
  | true =>
    rw [hfailed] at hfst
    obtain ⟨call, hmem, hneg⟩ := hfst.mp rfl
    simp only [if_true, reduceCtorEq, false_iff]
    exact fun h => absurd (h call hmem) (Int.not_le.mpr hneg)

/-- `SetWakeupSourceConfig` returns `ERROR_NONE` only if every call has succeeded or is not
supported, exactly if there is a negative status, or no positive one means anything else. -/
theorem no_failure_swallowed_iff (codes : PmStatus) (p : Platform)
    (calls : List PlatSetWakeupSrc) :
    ((p.setWakeupSourceConfig codes calls).1 = .errorNone →
      ∀ call ∈ calls, call.status = PmStatus.success ∨
        call.status = codes.operationNotSupported) ↔
    ((∃ call ∈ calls, call.status < 0) ∨
      ∀ call ∈ calls, 0 < call.status → call.status = codes.operationNotSupported) := by
  rw [setWakeupSourceConfig_fst]
  constructor
  · intro h
    -- one negative status is enough to be told about
    by_cases hneg : ∃ call ∈ calls, call.status < 0
    · exact .inl hneg
    · simp only [not_exists, not_and, Int.not_lt] at hneg
      refine .inr fun call hmem hpos => (h hneg call hmem).resolve_left ?_
      exact Int.ne_of_gt hpos
  · rintro (⟨call, hmem, hneg⟩ | hsupported) hnone call' hmem'
    · exact absurd (hnone call hmem) (Int.not_le.mpr hneg)
    · rcases Int.lt_or_eq_of_le (hnone call' hmem') with hpos | hzero
      · exact .inr (hsupported call' hmem' hpos)
      · exact .inl hzero.symm

/-- The vendor's library fails to set WIFI, and `SetWakeupSourceConfig` returns `ERROR_NONE`. -/
theorem failure_swallowed :
    let calls : List PlatSetWakeupSrc := [⟨⟨.ir, true⟩, PmStatus.success⟩,
      ⟨⟨.wifi, true⟩, PmStatus.sample.setFailure⟩]
    ((Platform.mk fun _ => false).setWakeupSourceConfig .sample calls).1 = .errorNone ∧
      ¬∀ call ∈ calls, call.status = PmStatus.success ∨
        call.status = PmStatus.sample.operationNotSupported := by
  decide

/-! ## Sources -/

/-- The value that the last of the configs for a source gives it, and its old value if there is
none. -/
def lastValue (src : WakeupSrcType) (old : Bool) (configs : List WakeupSourceConfig) : Bool :=
  ((configs.filter (·.wakeupSource = src)).getLast?.map (·.enabled)).getD old

/-- The first config gives the value that the others start from. -/
theorem lastValue_cons (src : WakeupSrcType) (old : Bool) (config : WakeupSourceConfig)
    (configs : List WakeupSourceConfig) :
    lastValue src old (config :: configs) =
      lastValue src (if config.wakeupSource = src then config.enabled else old) configs := by
  by_cases h : config.wakeupSource = src
  · -- this value stands unless another config for the source follows
    rw [lastValue, List.filter_cons_of_pos (by simpa using h), List.getLast?_cons, if_pos h,
      lastValue]
    cases (configs.filter (·.wakeupSource = src)).getLast? <;> rfl
  · rw [lastValue, List.filter_cons_of_neg (by simpa using h), if_neg h, lastValue]

/-- Configs for other sources do not matter. -/
theorem lastValue_congr {configs configs' : List WakeupSourceConfig} (old : Bool)
    (h : configs.filter (·.wakeupSource = src) = configs'.filter (·.wakeupSource = src)) :
    lastValue src old configs = lastValue src old configs' := by
  rw [lastValue, h, lastValue]

/-- A call sets its own source, if it succeeds. -/
theorem setWakeupSrc_enabled (hsrc : src ≠ .unknown) (hcall : call.config.wakeupSource ≠ .unknown) :
    (p.setWakeupSrc codes call).2.2.enabled src.conv =
      if call.config.wakeupSource = src ∧ call.status = PmStatus.success then call.config.enabled
      else p.enabled src.conv := by
  rw [setWakeupSrc, platSetWakeupSrc]
  by_cases hstatus : call.status = PmStatus.success
  · simp only [hstatus, if_true, and_true, Function.update_apply, eq_comm (a := src.conv),
      WakeupSrcType.conv_inj hcall hsrc]
  · simp only [hstatus, and_false, if_false]

/-- The calls that succeed leave a source with the value of the last of them. -/
theorem setAll_enabled (hsrc : src ≠ .unknown)
    (hcalls : ∀ call ∈ calls, call.config.wakeupSource ≠ .unknown) :
    (p.setAll codes calls).2.enabled src.conv =
      lastValue src (p.enabled src.conv)
        ((calls.filter (·.status = PmStatus.success)).map (·.config)) := by
  induction calls generalizing p with
  | nil => rfl
  | cons call calls ih =>
    obtain ⟨hcall, hcalls⟩ := List.forall_mem_cons.mp hcalls
    -- the other calls start from what this one has made of the source
    rw [setAll, ih hcalls, setWakeupSrc_enabled hsrc hcall]
    by_cases hstatus : call.status = PmStatus.success
    · rw [List.filter_cons_of_pos (by simpa using hstatus), List.map_cons, lastValue_cons]
      simp only [hstatus, and_true]
    · rw [List.filter_cons_of_neg (by simpa using hstatus)]
      simp only [hstatus, and_false, if_false]

/-- The platform of `WakeupSources` has the same sources. -/
def Matches (p : Platform) (sources : WakeupSources) : Prop :=
  ∀ src, src ≠ .unknown → p.enabled src.conv = sources.enabled src

/-- The call of the vendor's library behind a call of `WakeupSources`. -/
def platCall (codes : PmStatus) (supported : WakeupSrcType → Bool) (call : SetWakeupSrc) :
    PlatSetWakeupSrc where
  config := call.config
  status :=
    if !supported call.config.wakeupSource then codes.operationNotSupported
    else if call.fails then -1
    else PmStatus.success

/-- `WakeupSources::setWakeupSrc` is `PowerImpl::SetWakeupSrc`. -/
theorem setWakeupSrc_sources (codes : PmStatus) {sources : WakeupSources} (h : p.Matches sources)
    {call : SetWakeupSrc} (hcall : call.config.wakeupSource ≠ .unknown) :
    let r := p.setWakeupSrc codes (platCall codes sources.supported call)
    let r' := sources.setWakeupSrc call
    r.1 = r'.1 ∧ r.2.1 = r'.2.1 ∧ r.2.2.Matches r'.2.2 := by
  intro r r'
  have hpos : 0 < codes.operationNotSupported := codes.pos _ (by simp)
  have hconv := codes.conv_operationNotSupported
  simp only [r, r', setWakeupSrc, WakeupSources.setWakeupSrc, platCall, platSetWakeupSrc]
  -- the three statuses of `platCall`, in both models
  by_cases hsupported : sources.supported call.config.wakeupSource = true
  · by_cases hfails : call.fails = true
    · simpa [hsupported, hfails, PmStatus.conv, PmStatus.success] using h
    · simp only [hsupported, hfails, Bool.not_true, Bool.false_eq_true, if_false, if_true]
      refine ⟨rfl, rfl, fun src hsrc => ?_⟩
      simp only [Function.update_apply, WakeupSrcType.conv_inj hsrc hcall, h src hsrc]
  · have hne : codes.operationNotSupported ≠ PmStatus.success := Int.ne_of_gt hpos
    simpa [hsupported, hpos, hconv, hne] using h

/-- The loop of `WakeupSources` is the loop over the platform. -/
theorem setAll_sources (codes : PmStatus) {sources : WakeupSources} (h : p.Matches sources)
    {calls : List SetWakeupSrc} (hcalls : ∀ call ∈ calls, call.config.wakeupSource ≠ .unknown) :
    let r := p.setAll codes (calls.map (platCall codes sources.supported))
    let r' := sources.setAll calls
    r.1 = r'.1 ∧ r.2.Matches r'.2 := by
  induction calls generalizing p sources with
  | nil => exact ⟨rfl, h⟩
  | cons call calls ih =>
    obtain ⟨hcall, hcalls⟩ := List.forall_mem_cons.mp hcalls
    obtain ⟨hcode, hsupported, hmatches⟩ := setWakeupSrc_sources codes h hcall
    have hrest := ih hmatches hcalls
    -- which sources are supported does not change from call to call
    rw [WakeupSources.setWakeupSrc_supported] at hrest
    simp only [List.map_cons, setAll, WakeupSources.setAll, hcode, hsupported, hrest.1]
    exact ⟨trivial, hrest.2⟩

end Platform

end PowerManager
