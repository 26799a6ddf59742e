import PowerManager.Machine
import PowerManager.ThermalController.ConfigProperty

/-!
# The reboot controller

Every five minutes a heartbeat compares the uptime with a threshold, and reboots the device if the
uptime has reached it. The first heartbeat takes the threshold from an RFC parameter, if that is
positive; it is six days otherwise.

The module introduces:

* `RebootController.fetchRFCValueInt` — the reader of the parameter, with its accesses to buffers,
  and what it reads (`exists_copyRfcValue`);
* `rebootController` — the controller as a machine;
* `heartbeats_run` — what a run of heartbeats does: the first value decides about all of them.
-/

namespace PowerManager

open CString
open Thermal (quote)

/-! ## The reader of RFC parameters -/

namespace RebootController

/-- `MAX_RFC_LEN`. -/
def maxRfcLen : Int32 := 15

/-- `rfcVal`, before the value is copied to it. -/
abbrev RfcVal : Type := Buffer 16

/-- `len`: the length of the value as an `int`, cut off. -/
def rfcLen (len : ℕ) : Int32 := if Int32.ofNat len > maxRfcLen then maxRfcLen else .ofNat len

/-- An index that is an `int`. -/
def index? (i : Int32) : Option ℕ := if i < 0 then none else some i.toNatClampNeg

/-- The test for quotes around the value. The second character that it looks at is not the last one:
it comes right after the last one if the value is not cut off. -/
def isQuoted? (value : List UInt8) (len : Int32) : Option Bool := do
  let first ← value[0]?
  if first = quote then
    let i ← index? len
    let last ← value[i]?
    some (decide (last = quote))
  else
    some false

/-- The part of `fetchRFCValueInt` that copies the value; `none` stands for an access outside of
`param.value` or `rfcVal`. -/
def copyRfcValue (value : List UInt8) : Option RfcVal := do
  let strLen ← strlen? value
  let len := rfcLen strLen
  let quoted ← isQuoted? value len
  let rfcVal ←
    if quoted then
      -- the length of the copy is converted to `size_t`
      (Buffer.zero 16).strncpy? (value.drop 1) (len - 1).toInt64.toUInt64.toNat
    else
      (Buffer.zero 16).strncpy? value (maxRfcLen - 1).toNatClampNeg
  let i ← index? len
  rfcVal.store? i 0

/-- `fetchRFCValueInt`, with what `getRFCParameter` finds. -/
def fetchRFCValueInt (overflow : ℤ → ℤ) (param : Option (List UInt8)) : Option ℤ :=
  match param with
  | some value => (copyRfcValue value).map fun rfcVal => atoi overflow (ofBytes rfcVal.bytes)
  | none => some (-1)

/-- What is left of a value: its first fourteen characters, or those behind the first one if the
value begins with a quote and has another one at the place of the sixteenth character. -/
def kept (s : List UInt8) : List UInt8 :=
  if s.head? = some quote ∧ s[15]? = some quote then (s.drop 1).take 14 else s.take 14

variable {value : List UInt8} {len : ℕ} {overflow : ℤ → ℤ}

theorem rfcLen_eq (hlen : len < 2 ^ 31) : rfcLen len = .ofNat (min len 15) := by
  have h15 : maxRfcLen.toInt = 15 := rfl
  rw [rfcLen]
  split
  · rename_i h
    rw [gt_iff_lt, Int32.lt_iff_toInt_lt, h15, Int32.toInt_ofNat_of_lt hlen] at h
    rw [Nat.min_eq_right (by omega)]
    rfl
  · rename_i h
    rw [gt_iff_lt, Int32.lt_iff_toInt_lt, h15, Int32.toInt_ofNat_of_lt hlen] at h
    rw [Nat.min_eq_left (by omega)]

theorem index?_ofNat : ∀ k < 16, index? (.ofNat k) = some k := by decide

/-- The test for quotes looks at the first character, and at the NUL unless the value has more than
fifteen characters. -/
theorem isQuoted?_eq (hvalue : 0 ∈ value) (hlen : (ofBytes value).length < 2 ^ 31) :
    isQuoted? value (rfcLen (ofBytes value).length) =
      some (decide ((ofBytes value).head? = some quote ∧ (ofBytes value)[15]? = some quote)) := by
  -- the NUL is no quote
  have hquote : ∀ o : Option UInt8, o.getD 0 = quote ↔ o = some quote := by
    intro o
    cases o with
    | none => decide
    | some b => rw [Option.getD_some, Option.some.injEq]
  have hfirst := getElem?_of_le (i := 0) hvalue (Nat.zero_le _)
  have hlast := getElem?_of_le (i := min (ofBytes value).length 15) hvalue (Nat.min_le_left ..)
  have hsame : (ofBytes value)[min (ofBytes value).length 15]? = (ofBytes value)[15]? := by
    rcases Nat.le_total (ofBytes value).length 15 with hle | hle
    · rw [Nat.min_eq_left hle, List.getElem?_eq_none_iff.mpr (Nat.le_refl _),
        List.getElem?_eq_none_iff.mpr hle]
    · rw [Nat.min_eq_right hle]
  rw [isQuoted?, hfirst, rfcLen_eq hlen]
  change (if _ = quote then _ else _) = _
  rw [index?_ofNat _ (by omega), ← List.head?_eq_getElem?]
  by_cases hq : (ofBytes value).head? = some quote
  · rw [if_pos ((hquote _).mpr hq)]
    change (value[min (ofBytes value).length 15]?).bind _ = _
    rw [hlast, hsame]
    simp only [Option.bind_some, hquote, hq, true_and]
  · rw [if_neg fun h => hq ((hquote _).mp h)]
    simp [hq]

/-- The copy once the test for quotes is made. -/
theorem copyRfcValue_eq {quoted : Bool} (hvalue : 0 ∈ value)
    (hlen : (ofBytes value).length < 2 ^ 31)
    (hquoted : isQuoted? value (rfcLen (ofBytes value).length) = some quoted) :
    copyRfcValue value =
      (if quoted then
        (Buffer.zero 16).strncpy? (value.drop 1)
          (rfcLen (ofBytes value).length - 1).toInt64.toUInt64.toNat
      else (Buffer.zero 16).strncpy? value 14).bind
        fun rfcVal => rfcVal.store? (min (ofBytes value).length 15) 0 := by
  have hindex : index? (rfcLen (ofBytes value).length) = some (min (ofBytes value).length 15) := by
    rw [rfcLen_eq hlen, index?_ofNat _ (by omega)]
  simp only [copyRfcValue, strlen?, if_pos hvalue, Option.bind_eq_bind, Option.bind_some, hquoted,
    hindex]
  cases quoted <;> rfl

/-- The value is copied, and no access leaves a buffer. -/
theorem exists_copyRfcValue (hvalue : 0 ∈ value) (hlen : (ofBytes value).length < 2 ^ 31) :
    ∃ rfcVal, copyRfcValue value = some rfcVal ∧
      ofBytes rfcVal.bytes = kept (ofBytes value) := by
  have hquoted := isQuoted?_eq hvalue hlen
  rw [copyRfcValue_eq hvalue hlen hquoted, kept]
  have hstop : min (ofBytes value).length 15 < 16 := by omega
  by_cases hq : (ofBytes value).head? = some quote ∧ (ofBytes value)[15]? = some quote
  · -- the value has more than fifteen characters, and fourteen behind the first one are copied
    have hlong : 15 < (ofBytes value).length := by
      by_contra hle
      rw [List.getElem?_eq_none_iff.mpr (by omega)] at hq
      cases hq.2
    have hcount : (rfcLen (ofBytes value).length - 1).toInt64.toUInt64.toNat = 14 := by
      rw [rfcLen_eq hlen, Nat.min_eq_right (by omega)]
      rfl
    obtain ⟨hdrop, hmem⟩ := ofBytes_drop (i := 1) hvalue (by omega)
    obtain ⟨buf, hcopy, hbuf⟩ :=
      @Buffer.exists_strncpy?_zero 16 14 (value.drop 1) (by decide) hmem
    obtain ⟨rfcVal, hstore, hval, -⟩ := buf.exists_store?_zero hstop
    rw [if_pos (decide_eq_true hq), hcount, hcopy, if_pos hq]
    refine ⟨rfcVal, hstore, ?_⟩
    rw [hval, hbuf, hdrop, List.take_take]
    congr 1
    omega
  · obtain ⟨buf, hcopy, hbuf⟩ :=
      @Buffer.exists_strncpy?_zero 16 14 value (by decide) hvalue
    obtain ⟨rfcVal, hstore, hval, -⟩ := buf.exists_store?_zero hstop
    rw [if_neg (by simpa using hq), hcopy, if_neg hq]
    refine ⟨rfcVal, hstore, ?_⟩
    -- the NUL that is stored comes after the copy, or replaces the one at its end
    rw [hval, hbuf, List.take_take, List.take_eq_take_iff]
    omega

/-- `fetchRFCValueInt` returns the number at the beginning of what is left of the value. -/
theorem fetchRFCValueInt_eq (overflow : ℤ → ℤ) (hvalue : 0 ∈ value)
    (hlen : (ofBytes value).length < 2 ^ 31) :
    fetchRFCValueInt overflow (some value) = some (atoi overflow (kept (ofBytes value))) := by
  obtain ⟨rfcVal, hcopy, hval⟩ := exists_copyRfcValue hvalue hlen
  rw [fetchRFCValueInt, hcopy, Option.map_some, hval]

/-! ## The controller -/

/-- `Threshold`, which is positive. -/
structure Threshold where
  threshold : ℤ
  positive : 0 < threshold
  deriving DecidableEq

namespace Threshold

/-- `SetThreshold`. A value that is not positive is ignored. -/
def setThreshold (t : Threshold) (threshold : ℤ) : Threshold :=
  if h : threshold > 0 then ⟨threshold, h⟩ else t

/-- `IsThresholdExceeded`. -/
def isThresholdExceeded (t : Threshold) (uptime : Int32) : Bool :=
  decide (uptime.toInt ≥ t.threshold)

theorem setThreshold_of_nonpos (t : Threshold) {threshold : ℤ} (h : threshold ≤ 0) :
    t.setThreshold threshold = t := by
  rw [setThreshold, dif_neg (by omega)]

end Threshold

end RebootController

/-- The state of the controller. -/
structure RebootController where
  forcedRebootThreshold : RebootController.Threshold
  rfcUpdated : Bool
  /-- The heartbeat job is in the worker pool. -/
  scheduled : Bool
  deriving DecidableEq

namespace RebootController

/-- `HEARTBEAT_INTERVAL_SEC`. -/
def heartbeatIntervalSec : ℕ := 300

/-- The command that reboots the device. -/
def forceRebootCommand : String :=
  "sh /rebootNow.sh -s PwrMgr -r 'MAINTENANCE_REBOOT' -o 'Forced Maintenance reboot'"

/-- What the controller asks for. -/
inductive Event
  /-- `v_secure_system`. -/
  | system (command : String)
  /-- The heartbeat job is to run after the given time. -/
  | schedule (milliseconds : ℕ)
  deriving DecidableEq, Repr

/-- What a heartbeat finds: the RFC parameter, if `getRFCParameter` succeeds, and the uptime in
seconds. -/
structure Beat where
  param : Option (List UInt8)
  uptime : Int64
  deriving DecidableEq

/-- A step of the controller after its construction. -/
inductive Label
  | heartbeat (beat : Beat)
  | destroy

/-- The threshold after the construction. -/
def defaultThreshold : Threshold := ⟨172800 * 3, by decide⟩

/-- The controller after its construction, which has scheduled the first heartbeat. -/
def initial : RebootController where
  forcedRebootThreshold := defaultThreshold
  rfcUpdated := false
  scheduled := true

/-- The part of `heartbeatMsg` that takes over the parameter, at the first heartbeat. -/
def updateThreshold (rc : RebootController) (overflow : ℤ → ℤ) (param : Option (List UInt8)) :
    Option RebootController :=
  if rc.rfcUpdated then
    some rc
  else do
    let val ← fetchRFCValueInt overflow param
    some
      { rc with
        forcedRebootThreshold :=
          if val ≠ -1 then rc.forcedRebootThreshold.setThreshold val else rc.forcedRebootThreshold
        rfcUpdated := true }

/-- What `heartbeatMsg` asks for, once the threshold is there. The uptime is converted to an `int`.
-/
def asks (t : Threshold) (beat : Beat) : List Event :=
  (if t.isThresholdExceeded beat.uptime.toInt32 then [.system forceRebootCommand] else []) ++
    [.schedule (heartbeatIntervalSec * 1000)]

/-- `heartbeatMsg`. -/
def heartbeatMsg (rc : RebootController) (overflow : ℤ → ℤ) (beat : Beat) :
    Option (RebootController × List Event) := do
  let rc ← rc.updateThreshold overflow beat.param
  some ({ rc with scheduled := true }, asks rc.forcedRebootThreshold beat)

end RebootController

open RebootController in
/-- The controller as a machine. A heartbeat is refused if it is not scheduled, and if it leaves a
buffer. -/
def rebootController (overflow : ℤ → ℤ) : Machine RebootController RebootController.Label
    RebootController.Event where
  step rc
    | .heartbeat beat => if rc.scheduled then rc.heartbeatMsg overflow beat else none
    | .destroy => some ({ rc with scheduled := false }, [])

/-! ## Runs of heartbeats -/

namespace RebootController

variable {rc rc' : RebootController} {overflow : ℤ → ℤ} {beat : Beat} {beats : List Beat}
  {es os : List Event}

/-- The first heartbeat takes over the parameter, and the later ones do not. -/
theorem updateThreshold_cases (h : rc.updateThreshold overflow beat.param = some rc') :
    rc'.rfcUpdated = true ∧ rc'.scheduled = rc.scheduled ∧
      (rc.rfcUpdated = true → rc'.forcedRebootThreshold = rc.forcedRebootThreshold) ∧
      (rc.rfcUpdated = false → ∃ val, fetchRFCValueInt overflow beat.param = some val ∧
        rc'.forcedRebootThreshold = rc.forcedRebootThreshold.setThreshold val) := by
  unfold updateThreshold at h
  split at h
  · rename_i hupdated
    cases h
    exact ⟨hupdated, rfl, fun _ => rfl, fun hno => absurd hupdated (by simp [hno])⟩
  · rename_i hupdated
    obtain ⟨val, hval, hrc⟩ := Option.bind_eq_some_iff.mp h
    cases hrc
    refine ⟨rfl, rfl, fun hyes => absurd hyes hupdated, fun _ => ⟨val, hval, ?_⟩⟩
    -- the value that stands for a failure would be ignored anyway
    by_cases hfailed : val = -1
    · rw [if_neg (by simp [hfailed]), Threshold.setThreshold_of_nonpos _ (by omega)]
    · rw [if_pos hfailed]

/-- What a heartbeat does. -/
theorem step_heartbeat
    (h : (rebootController overflow).step rc (.heartbeat beat) = some (rc', es)) :
    rc'.rfcUpdated = true ∧ rc'.scheduled = true ∧ es = asks rc'.forcedRebootThreshold beat ∧
      (rc.rfcUpdated = true → rc'.forcedRebootThreshold = rc.forcedRebootThreshold) ∧
      (rc.rfcUpdated = false → ∃ val, fetchRFCValueInt overflow beat.param = some val ∧
        rc'.forcedRebootThreshold = rc.forcedRebootThreshold.setThreshold val) := by
  simp only [rebootController] at h
  split at h
  · obtain ⟨rc₁, hupdate, hrc⟩ := Option.bind_eq_some_iff.mp h
    obtain ⟨hupdated, -, hkeep, hset⟩ := updateThreshold_cases hupdate
    cases hrc
    exact ⟨hupdated, rfl, rfl, hkeep, hset⟩
  · cases h

/-- After the first heartbeat the threshold stays. -/
theorem updated_run (hupdated : rc.rfcUpdated = true)
    (hrun : (rebootController overflow).Run rc (beats.map .heartbeat) os rc') :
    rc'.forcedRebootThreshold = rc.forcedRebootThreshold ∧
      os = beats.flatMap (asks rc.forcedRebootThreshold) := by
  induction beats generalizing rc os with
  | nil =>
    obtain ⟨rfl, rfl⟩ := hrun.nil_inv
    exact ⟨rfl, rfl⟩
  | cons beat beats ih =>
    obtain ⟨rc₁, os₁, os₂, rfl, hstep, hrest⟩ := hrun.cons_inv
    obtain ⟨hupdated₁, -, hos, hkeep, -⟩ := step_heartbeat hstep
    obtain ⟨hthreshold, hos₂⟩ := ih hupdated₁ hrest
    rw [hkeep hupdated] at hos hthreshold hos₂
    rw [List.flatMap_cons, hos, hos₂]
    exact ⟨hthreshold, rfl⟩

/-- A run of heartbeats. The value that the first one reads decides about all of them: the threshold
is that value if it is positive, and six days otherwise, and a reboot is asked for at exactly those
heartbeats whose uptime has reached it. -/
theorem heartbeats_run
    (hrun : (rebootController overflow).Run initial ((beat :: beats).map .heartbeat) os rc) :
    ∃ val, fetchRFCValueInt overflow beat.param = some val ∧
      rc.forcedRebootThreshold = defaultThreshold.setThreshold val ∧
      os = (beat :: beats).flatMap (asks (defaultThreshold.setThreshold val)) := by
  rw [List.map_cons] at hrun
  obtain ⟨rc₁, os₁, os₂, rfl, hstep, hrest⟩ := hrun.cons_inv
  obtain ⟨hupdated, -, hos, -, hset⟩ := step_heartbeat hstep
  obtain ⟨val, hval, hthreshold⟩ := hset rfl
  obtain ⟨hlast, hos₂⟩ := updated_run hupdated hrest
  rw [hthreshold] at hos hlast hos₂
  refine ⟨val, hval, hlast, ?_⟩
  rw [List.flatMap_cons, hos, hos₂]
  rfl

end RebootController

end PowerManager
