import PowerManager.CString
import PowerManager.DeepSleepController.Basic
import PowerManager.LocalTime
import PowerManager.PowerController
import Mathlib.Algebra.Group.Nat.Defs

/-!
# The computed wake-up time

`DeepSleepWakeupSettings::getWakeupTime` takes the wake-up time from `/tmp/deepSleepWakeupTimer`, in
minutes and at most six days. Without that file it computes it, for the next time between 2 and 3
AM, shifted by the hours of the time zone that the system manager reports.

`getWakeupTime_window` says that the computed time lies in this window. An activation reads the same
file again, in seconds; `readersAgree_iff` says for which numbers in the file the two agree.
-/

namespace PowerManager

namespace DeepSleepWakeupSettings

open CString LocalTime

/-! ## The time zone -/

/-- `tzValue`. -/
inductive TzValue
  | hst11
  | hst11Hdt
  | akst
  | akst09Akdt
  | pst08
  | pst08Pdt
  | mst07
  | mst07Mdt
  | cst06
  | cst06Cdt
  | est05
  | est05Edt
  deriving DecidableEq, Repr

/-- The hours of a `tzValue`. -/
def TzValue.hours : TzValue → UInt32
  | .hst11 => 11
  | .hst11Hdt => 10
  | .akst => 9
  | .akst09Akdt => 8
  | .pst08 => 8
  | .pst08Pdt => 8
  | .mst07 => 7
  | .mst07Mdt => 6
  | .cst06 => 6
  | .cst06Cdt => 5
  | .est05 => 5
  | .est05Edt => 4

/-- `_maptzValues`, as `initializeTimeZone` fills it. -/
def maptzValues : List (String × TzValue) :=
  [("HST11", .hst11),
    ("HST11HDT,M3.2.0,M11.1.0", .hst11Hdt),
    ("AKST", .akst),
    ("AKST09AKDT,M3.2.0,M11.1.0", .akst09Akdt),
    ("PST08", .pst08),
    ("PST08PDT,M3.2.0,M11.1.0", .pst08Pdt),
    ("MST07", .mst07),
    ("MST07MDT,M3.2.0,M11.1.0", .mst07Mdt),
    ("CST06", .cst06),
    ("CST06CDT,M3.2.0,M11.1.0", .cst06Cdt),
    ("EST05", .est05),
    ("EST05EDT,M3.2.0,M11.1.0", .est05Edt)]

/-- `_maptzValues[payload]`. A payload that is not in the map is added to it, with the value
zero. -/
def tzHours (payload : List UInt8) : UInt32 :=
  match maptzValues.find? fun entry => entry.1.toList.map (·.toNat.toUInt8) = payload with
  | some entry => entry.2.hours
  | none => 0

/-- `time_zone_available`, of what the system manager reports. -/
structure TimeZoneAvailable where
  error : UInt32
  state : UInt32
  payload : List UInt8

/-- `getTZDiffInSec`, with what the system manager reports, unless the call fails. -/
def getTZDiffInSec : Option TimeZoneAvailable → UInt32
  | some timeZone =>
    if timeZone.error ≠ 0 then 6 * 3600
    else if timeZone.state = 2 ∧ (ofBytes timeZone.payload).length > 1 then
      tzHours (ofBytes timeZone.payload) * 3600
    else 6 * 3600
  | none => 6 * 3600

/-! ## The wake-up time -/

/-- What `getWakeupTime` finds in its surroundings. -/
structure Surroundings where
  /-- The contents of `/tmp/deepSleepWakeupTimer`, if the file can be opened. -/
  deepSleepWakeupTimer : Option (List UInt8)
  /-- The first reading of the clock. -/
  now : ℤ
  /-- The second one. -/
  wakeup : ℤ
  zone : Zone
  /-- `localtime` returns a null pointer. -/
  localtimeFails : Bool
  secureRandom : UInt32
  timeZone : Option TimeZoneAvailable
  /-- The result of the conversion of a number to a type that cannot hold it, which is undefined. -/
  overflow : ℤ → UInt32

/-- The number that `%d` stores in a variable of 32 bits. -/
def Surroundings.storeInt (sur : Surroundings) (n : ℤ) : UInt32 :=
  if -0x80000000 ≤ n ∧ n ≤ 0x7fffffff then .ofInt n else sur.overflow n

/-- `difftime`, converted to `uint32_t`. -/
def Surroundings.difftime (sur : Surroundings) (time1 time0 : ℤ) : UInt32 :=
  if 0 ≤ time1 - time0 ∧ time1 - time0 ≤ 0xffffffff then .ofInt (time1 - time0)
  else sur.overflow (time1 - time0)

/-- The limit of six days, in seconds. -/
def limit : UInt32 := 6 * 24 * 60 * 60

/-- The minutes of the override, in seconds. -/
def overrideSeconds (wakeupTimeInMin : UInt32) : UInt32 :=
  if wakeupTimeInMin * 60 > limit then limit else wakeupTimeInMin * 60

/-- The time up to 2 AM, in `getWakeupTime`. -/
def until2AM (sur : Surroundings) (wakeupTime : Tm) : UInt32 :=
  if wakeupTime.hour ≥ 0 ∧ wakeupTime.hour < 2 then
    sur.difftime (sur.zone.mktime { wakeupTime with hour := 2, min := 0, sec := 0 }) sur.now
  else
    -- up to midnight, and two hours
    sur.difftime (sur.zone.mktime { wakeupTime with hour := 23, min := 59, sec := 60 }) sur.now
      + 7200

/-- The part of `getWakeupTime` that computes the time. -/
def computeWakeupTime (sur : Surroundings) : UInt32 :=
  if sur.localtimeFails then
    0
  else
    until2AM sur (sur.zone.localtime sur.wakeup) + sur.secureRandom % 3600
      + getTZDiffInSec sur.timeZone

/-- `DeepSleepWakeupSettings::getWakeupTime`. -/
def getWakeupTime (sur : Surroundings) : UInt32 :=
  match sur.deepSleepWakeupTimer.map scan with
  | some (.number n) => overrideSeconds (sur.storeInt n)
  -- the initial value of `wakeupTimeInMin` is left in place
  | some .mismatch => overrideSeconds 5
  | some .eof | none => computeWakeupTime sur

variable {sur : Surroundings} {n : ℤ}

/-! ## No overflow -/

theorem toNat_ofInt (h0 : 0 ≤ n) (hle : n ≤ 0xffffffff) : ((UInt32.ofInt n).toNat : ℤ) = n := by
  have hmod : (n % 2 ^ 32).toNat = n.toNat := by omega
  rw [UInt32.ofInt, hmod, UInt32.toNat_ofNat']
  omega

/-- The sum of two numbers that leave room for it. -/
theorem toNat_add_of_le {a b : UInt32} (h : a.toNat + b.toNat ≤ 0xffffffff) :
    (a + b).toNat = a.toNat + b.toNat := by
  rw [UInt32.toNat_add]
  omega

/-- There are at most eleven hours for a payload. -/
theorem tzHours_le (payload : List UInt8) : (tzHours payload).toNat ≤ 11 := by
  rw [tzHours]
  split
  · rename_i entry _
    cases entry.2 <;> decide
  · exact Nat.zero_le _

/-- The time zone difference is a number of hours, of which there are at most eleven. -/
theorem exists_hours (timeZone : Option TimeZoneAvailable) :
    ∃ hours ≤ 11, (getTZDiffInSec timeZone).toNat = 3600 * hours := by
  -- the hours of the central time zone are taken whenever there is no payload
  have hdefault : ∃ hours ≤ 11, (6 * 3600 : UInt32).toNat = 3600 * hours := ⟨6, by decide, rfl⟩
  cases timeZone with
  | none => exact hdefault
  | some timeZone =>
    rw [getTZDiffInSec]
    split_ifs
    · exact hdefault
    · have hle := tzHours_le (ofBytes timeZone.payload)
      refine ⟨_, hle, ?_⟩
      rw [UInt32.toNat_mul]
      change (tzHours (ofBytes timeZone.payload)).toNat * 3600 % 2 ^ 32 = _
      omega
    · exact hdefault

theorem toNat_difftime (sur : Surroundings) {time1 time0 : ℤ} (h0 : 0 ≤ time1 - time0)
    (hle : time1 - time0 ≤ 0xffffffff) :
    ((sur.difftime time1 time0).toNat : ℤ) = time1 - time0 := by
  rw [Surroundings.difftime, if_pos ⟨h0, hle⟩]
  exact toNat_ofInt h0 hle

/-! ## The window -/

/-- What the two readings of the clock have in common: 2 AM does not come in between, and the clock
is not changed in between. -/
structure Surroundings.Steady (sur : Surroundings) : Prop where
  le : sur.now ≤ sur.wakeup
  before : sur.wakeup - sur.now < untilNext 7200 (sur.zone.secondOfDay sur.now)
  isDst : sur.zone.isDst sur.wakeup = sur.zone.isDst sur.now

/-- The readings have this in common if they are the same. -/
theorem Surroundings.steady_of_eq (h : sur.wakeup = sur.now) : sur.Steady where
  le := by omega
  before := by
    have hpos := untilNext_pos 7200 (sur.zone.secondOfDay sur.now)
    omega
  isDst := by rw [h]

/-- The time from the first reading to the 2 AM after the second one. -/
def Surroundings.base (sur : Surroundings) : ℤ :=
  sur.wakeup - sur.now + untilNext 7200 (sur.zone.secondOfDay sur.wakeup)

/-- Both branches reach the 2 AM after the second reading. -/
theorem toNat_until2AM (hle : sur.now ≤ sur.wakeup) (hnear : sur.wakeup - sur.now ≤ 86400) :
    ((until2AM sur (sur.zone.localtime sur.wakeup)).toNat : ℤ) = sur.base := by
  have hs0 := sur.zone.secondOfDay_nonneg sur.wakeup
  have hs1 := sur.zone.secondOfDay_lt sur.wakeup
  have hhour : (sur.zone.localtime sur.wakeup).hour = sur.zone.secondOfDay sur.wakeup / 3600 := rfl
  rw [until2AM, Surroundings.base]
  split_ifs with hearly
  · -- 2 AM of the same day
    have htime := LocalTime.Zone.mktime_set (t := sur.wakeup) (z := sur.zone) rfl 2 0 0
    have huntil : untilNext 7200 (sur.zone.secondOfDay sur.wakeup) =
        7200 - sur.zone.secondOfDay sur.wakeup := untilNext_of_lt hs0 (by omega) (by omega)
    rw [toNat_difftime] <;> omega
  · -- 23:59:60 is the midnight after the day
    have htime := LocalTime.Zone.mktime_set (t := sur.wakeup) (z := sur.zone) rfl 23 59 60
    have huntil : untilNext 7200 (sur.zone.secondOfDay sur.wakeup) =
        86400 - sur.zone.secondOfDay sur.wakeup + 7200 := untilNext_of_le (by omega) (by omega) hs1
    have h7200 : (7200 : UInt32).toNat = 7200 := rfl
    have hmidnight : ((sur.difftime (sur.zone.mktime ⟨(sur.zone.localtime sur.wakeup).day, 23, 59,
        60, (sur.zone.localtime sur.wakeup).isDst⟩) sur.now).toNat : ℤ) =
        sur.wakeup - sur.zone.secondOfDay sur.wakeup + 86400 - sur.now := by
      rw [toNat_difftime] <;> omega
    rw [toNat_add_of_le] <;> omega

/-- Of two readings that are not far apart, the computed time is that up to 2 AM, the random time
and the time zone difference, and none of the sums wraps around. -/
theorem toNat_computeWakeupTime (hlocal : sur.localtimeFails = false) (hle : sur.now ≤ sur.wakeup)
    (hnear : sur.wakeup - sur.now ≤ 86400) :
    ((computeWakeupTime sur).toNat : ℤ) =
      sur.base + (sur.secureRandom.toNat % 3600 : ℕ) + (getTZDiffInSec sur.timeZone).toNat := by
  have hbase := toNat_until2AM hle hnear
  have hday := untilNext_le 7200 (sur.zone.secondOfDay sur.wakeup)
  -- two days, an hour and eleven hours fit in 32 bits
  have hrange : sur.base ≤ 172800 := by
    rw [Surroundings.base]
    omega
  have hrand : (sur.secureRandom % 3600).toNat = sur.secureRandom.toNat % 3600 :=
    UInt32.toNat_mod ..
  obtain ⟨hours, hhours, hz⟩ := exists_hours sur.timeZone
  have hsum : (until2AM sur (sur.zone.localtime sur.wakeup) + sur.secureRandom % 3600).toNat =
      (until2AM sur (sur.zone.localtime sur.wakeup)).toNat + sur.secureRandom.toNat % 3600 := by
    rw [toNat_add_of_le] <;> omega
  rw [computeWakeupTime, hlocal, if_neg Bool.false_ne_true, toNat_add_of_le] <;> omega

/-- Of steady readings, the time up to 2 AM is the time until the clock next shows 2 AM after the
first one. -/
theorem Surroundings.Steady.base_eq (h : sur.Steady) :
    sur.base = untilNext 7200 (sur.zone.secondOfDay sur.now) := by
  -- what has gone by between the readings is missing from the time up to 2 AM
  obtain ⟨d, hd⟩ : ∃ d, sur.wakeup = sur.now + d := ⟨sur.wakeup - sur.now, by omega⟩
  have hle := h.le
  have hbefore := h.before
  have hisDst := h.isDst
  rw [hd] at hle hbefore hisDst
  rw [base, hd, Zone.secondOfDay_add hisDst, untilNext_add] <;> omega

/-- Without an override, `getWakeupTime` returns the time until the clock next shows 2 AM, and up to
an hour, and the hours of the time zone; no sum wraps around. So it leads to a time between 2 and 3
AM, not counting the hours of the time zone and unless the clock is changed before. -/
theorem getWakeupTime_window (hfile : sur.deepSleepWakeupTimer = none)
    (hlocal : sur.localtimeFails = false) (hsteady : sur.Steady) :
    let w : ℤ := (getWakeupTime sur).toNat
    let z : ℤ := (getTZDiffInSec sur.timeZone).toNat
    let s := sur.zone.secondOfDay sur.now
    let base := untilNext 7200 s
    (∃ hours : ℕ, hours ≤ 11 ∧ z = 3600 * hours) ∧
    w = base + (sur.secureRandom.toNat % 3600 : ℕ) + z ∧
    (0 < w - z ∧ w - z ≤ 86400 + 3599) ∧
    (7200 ≤ (s + w - z) % 86400 ∧ (s + w - z) % 86400 < 10800) ∧
    (0 < base ∧ (s + base) % 86400 = 7200 ∧
      ∀ d, 0 < d → (s + d) % 86400 = 7200 → base ≤ d) ∧
    (sur.zone.isDst (sur.now + (w - z)) = sur.zone.isDst sur.now →
      (sur.zone.localtime (sur.now + (w - z))).hour = 2) := by
  intro w z s base
  obtain ⟨hours, hhours, hz⟩ := exists_hours sur.timeZone
  have hnear : sur.wakeup - sur.now ≤ 86400 := by
    have hday := untilNext_le 7200 (sur.zone.secondOfDay sur.now)
    have hbefore := hsteady.before
    omega
  -- without the file the time is computed
  have hw : w = base + (sur.secureRandom.toNat % 3600 : ℕ) + z := by
    have hcompute := toNat_computeWakeupTime hlocal hsteady.le hnear
    rw [hsteady.base_eq] at hcompute
    change ((getWakeupTime sur).toNat : ℤ) = _
    rw [getWakeupTime, hfile]
    exact hcompute
  have hpos : 0 < base := untilNext_pos 7200 s
  have hday : base ≤ 86400 := untilNext_le 7200 s
  have hshows : (s + base) % 86400 = 7200 := add_untilNext_emod 7200 s
  have hwindow : 7200 ≤ (s + w - z) % 86400 ∧ (s + w - z) % 86400 < 10800 := by omega
  refine ⟨⟨hours, hhours, by omega⟩, hw, by omega, hwindow, ⟨hpos, hshows, ?_⟩, fun hdst => ?_⟩
  · exact fun d hd h => untilNext_le_of_emod hd h
  · have hclock := Zone.secondOfDay_add hdst
    have hhour : (sur.zone.localtime (sur.now + (w - z))).hour =
        sur.zone.secondOfDay (sur.now + (w - z)) / 3600 := rfl
    rw [hhour, hclock]
    omega

/-- It is 2 AM, on a device in the central time zone: the wake-up time is a day, the random time of
1000 seconds, and five hours. -/
theorem getWakeupTime_window_at_2AM :
    let sur : Surroundings :=
      ⟨none, 25200, 25200, ⟨fun _ => false, fun _ => -18000⟩, false, 1000,
        some ⟨0, 2, "CST06CDT,M3.2.0,M11.1.0".toList.map (·.toNat.toUInt8) ++ [0]⟩, fun _ => 0⟩
    sur.zone.secondOfDay sur.now = 7200 ∧ getWakeupTime sur = 86400 + 1000 + 5 * 3600 := by
  intro sur
  have hz : (getTZDiffInSec sur.timeZone).toNat = 18000 := by decide
  have hbase : untilNext 7200 (sur.zone.secondOfDay sur.now) = 86400 := by decide
  have hrand : sur.secureRandom.toNat % 3600 = 1000 := by decide
  obtain ⟨-, hw, -⟩ := @getWakeupTime_window sur rfl rfl (Surroundings.steady_of_eq rfl)
  rw [hz, hbase, hrand] at hw
  refine ⟨by decide, UInt32.toNat_inj.mp ?_⟩
  have hsum : (86400 + 1000 + 5 * 3600 : UInt32).toNat = 105400 := by decide
  omega

end DeepSleepWakeupSettings

/-! ## The two readers of the file -/

/-- `DeepSleepController::read_integer_conf`: the number in the file, if there is one. -/
def DeepSleepController.readIntegerConf (overflow : ℤ → UInt32) (file : Option (List UInt8)) :
    Option UInt32 :=
  match file.map CString.scan with
  | some (.number n) => some (if 0 ≤ n ∧ n ≤ 0xffffffff then .ofInt n else overflow n)
  | _ => none

namespace DeepSleepWakeupSettings

open CString DeepSleepController

/-- The wake-up time that `getWakeupTime` computes from a file with the number `m`, and that of an
activation with the same file, are the same, respect the limit, and are not the result of a product
that has wrapped around. -/
structure ReadersAgree (m : ℕ) (computed activated : UInt32) : Prop where
  eq : computed = activated
  computed_le : computed.toNat ≤ 6 * 24 * 60 * 60
  activated_le : activated.toNat ≤ 6 * 24 * 60 * 60
  product_lt : m * 60 < 0x100000000

instance (m : ℕ) (computed activated : UInt32) : Decidable (ReadersAgree m computed activated) :=
  decidable_of_iff
    (computed = activated ∧ computed.toNat ≤ 6 * 24 * 60 * 60 ∧
      activated.toNat ≤ 6 * 24 * 60 * 60 ∧ m * 60 < 0x100000000)
    ⟨fun ⟨h₁, h₂, h₃, h₄⟩ => ⟨h₁, h₂, h₃, h₄⟩, fun ⟨h₁, h₂, h₃, h₄⟩ => ⟨h₁, h₂, h₃, h₄⟩⟩

variable {sur : Surroundings} {file : List UInt8} {m : ℕ}

/-- The seconds of the minutes, unless their product wraps around. -/
theorem toNat_overrideSeconds {min : UInt32} (h : min.toNat * 60 < 0x100000000) :
    (overrideSeconds min).toNat = if min.toNat * 60 > 518400 then 518400 else min.toNat * 60 := by
  have hmul : (min * 60).toNat = min.toNat * 60 := by
    rw [UInt32.toNat_mul]
    exact Nat.mod_eq_of_lt h
  have hlimit : limit.toNat = 518400 := rfl
  rw [overrideSeconds]
  simp only [gt_iff_lt, UInt32.lt_iff_toNat_lt, hmul, hlimit]
  split <;> simp [hlimit, hmul]

/-- `getWakeupTime` takes the number for minutes. -/
theorem getWakeupTime_of_isDecimal (h : IsDecimal file m) (hm : m ≤ 0x7fffffff) :
    getWakeupTime { sur with deepSleepWakeupTimer := some file } = overrideSeconds (.ofInt m) := by
  have hint : -0x80000000 ≤ (m : ℤ) ∧ (m : ℤ) ≤ 0x7fffffff := by omega
  rw [getWakeupTime, Option.map_some, h.scan_eq]
  exact congrArg overrideSeconds (if_pos hint)

/-- An activation takes it for seconds. -/
theorem performActivate_of_isDecimal {ds : DeepSleepController}
    (hidle : ds.isDeepSleepInProgress = false) (h : IsDecimal file m) (hpos : 0 < m)
    (hm : m < 0x100000000) (overflow : ℤ → UInt32) (id : ℕ)
    (dsur : DeepSleepController.Surroundings) (timeOut : UInt32) (nw : Bool) :
    (ds.performActivate id { dsur with wakeupTimer := readIntegerConf overflow (some file) } timeOut
      nw).deepSleepWakeupTimeoutSec.toNat = m := by
  have hval : ((UInt32.ofInt m).toNat : ℤ) = m := toNat_ofInt (by omega) (by omega)
  have hconf : readIntegerConf overflow (some file) = some (.ofInt m) := by
    rw [readIntegerConf, Option.map_some, h.scan_eq]
    exact congrArg some (if_pos ⟨by omega, by omega⟩)
  -- the number zero would not be used
  have hne : UInt32.ofInt m ≠ 0 := by
    intro hzero
    rw [hzero] at hval
    change (0 : ℤ) = m at hval
    omega
  have hfilter : (some (UInt32.ofInt m)).filter (· ≠ 0) = some (UInt32.ofInt m) :=
    Option.filter_some_pos (by simpa using hne)
  rw [performActivate_timeoutSec hidle, hconf, hfilter, Option.getD_some]
  exact Int.ofNat_inj.mp hval

/-- The two readers of the file agree on no number but that of the seconds in six days, for which
the one of them cuts off what is sixty times as much. -/
theorem readersAgree_iff (overflow : ℤ → UInt32) (ds : DeepSleepController)
    (hidle : ds.isDeepSleepInProgress = false) (pc : PowerController)
    (hnever : pc.isDeepSleepTimeoutSet = false) (h : IsDecimal file m) (hpos : 0 < m)
    (hm : m < 0x100000000) (env : Environment) (id : ℕ) (dsur : DeepSleepController.Surroundings)
    (nw : Bool) :
    let computed := pc.deepSleepTimeout
      { env with wakeupTime := getWakeupTime { sur with deepSleepWakeupTimer := some file } }
    let activated := (ds.performActivate id
      { dsur with wakeupTimer := readIntegerConf overflow (some file) } computed
      nw).deepSleepWakeupTimeoutSec
    ReadersAgree m computed activated ↔ m = 518400 := by
  intro computed activated
  -- the activation does not even look at the computed time
  have hactivated : activated.toNat = m :=
    performActivate_of_isDecimal hidle h hpos hm overflow id dsur computed nw
  have hcomputed : computed = getWakeupTime { sur with deepSleepWakeupTimer := some file } := by
    change PowerController.deepSleepTimeout _ _ = _
    rw [PowerController.deepSleepTimeout, hnever]
    rfl
  have hoverride (hlt : m * 60 < 0x100000000) :
      computed.toNat = if m * 60 > 518400 then 518400 else m * 60 := by
    have hnat : (UInt32.ofInt m).toNat = m := by
      have hval : ((UInt32.ofInt m).toNat : ℤ) = m := toNat_ofInt (by omega) (by omega)
      exact Int.ofNat_inj.mp hval
    rw [hcomputed, getWakeupTime_of_isDecimal h (by omega), toNat_overrideSeconds] <;> rw [hnat]
    exact hlt
  constructor
  · intro hagree
    have hcomputed := hoverride hagree.product_lt
    have heq := congrArg UInt32.toNat hagree.eq
    have hle := hagree.activated_le
    -- at most six days are sixty times too much, and more than that are cut off
    split at hcomputed <;> omega
  · intro hm
    have hcomputed := hoverride (by omega)
    rw [if_pos (by omega)] at hcomputed
    exact ⟨UInt32.toNat_inj.mp (by omega), by omega, by omega, by omega⟩

/-- In a file with the number 518400, `getWakeupTime` finds 518400 minutes and returns the limit of
six days, and an activation finds 518400 seconds, which are six days. -/
theorem readersAgree_of_limit :
    let file := [53, 49, 56, 52, 48, 48, 10]
    let pc : PowerController := ⟨⟨0, 0, .on, .on, 0, false, 0⟩, .on, false, 0⟩
    let sur : Surroundings := ⟨none, 0, 0, ⟨fun _ => false, fun _ => 0⟩, false, 0, none, fun _ => 0⟩
    let env : Environment := ⟨false, .errorNone, 0, 0⟩
    let computed := pc.deepSleepTimeout
      { env with wakeupTime := getWakeupTime { sur with deepSleepWakeupTimer := some file } }
    let activated := (DeepSleepController.initial.performActivate 0
      { DeepSleepController.Surroundings.plain with
        wakeupTimer := readIntegerConf (fun _ => 0) (some file) } computed
      false).deepSleepWakeupTimeoutSec
    ReadersAgree 518400 computed activated := by
  intro file pc sur env
  have hvalue : value [53, 49, 56, 52, 48, 48] = 518400 := by decide
  have hrest : ∀ b ∈ [(10 : UInt8)].head?, isDigit b = false := by
    rintro b ⟨⟩
    rfl
  have hdecimal := @IsDecimal.intro [] [53, 49, 56, 52, 48, 48] [10] (List.forall_mem_nil _)
    (List.cons_ne_nil _ _) (List.all_eq_true.mp rfl) hrest
  rw [hvalue] at hdecimal
  have hpos : 0 < 518400 := by decide
  have hlt : 518400 < 0x100000000 := by decide
  exact (@readersAgree_iff sur _ 518400 (fun _ => 0) .initial rfl pc rfl hdecimal hpos hlt env 0
    .plain false).mpr rfl

/-- In a file with the number 10, `getWakeupTime` finds ten minutes, and an activation ten
seconds. -/
theorem not_readersAgree_of_ten :
    let sur : Surroundings :=
      ⟨some [49, 48, 10], 0, 0, ⟨fun _ => false, fun _ => 0⟩, false, 0, none, fun _ => 0⟩
    let activated := (DeepSleepController.initial.performActivate 0
      ⟨1, 1, none, readIntegerConf (fun _ => 0) sur.deepSleepWakeupTimer⟩ (getWakeupTime sur)
      false).deepSleepWakeupTimeoutSec
    getWakeupTime sur = 600 ∧ activated = 10 ∧ ¬ReadersAgree 10 (getWakeupTime sur) activated := by
  decide

end DeepSleepWakeupSettings

end PowerManager
