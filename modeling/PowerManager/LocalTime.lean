import Mathlib.Algebra.Ring.Int.Defs

/-!
# Local time

The time of the C library is a number of seconds, and local time a shift of it. A broken-down time
has a field for the hour, the minute and the second, each of which may be set to a number beyond its
range; `mktime` carries what is too much over to the next field.

The module introduces:

* `LocalTime.Zone` — when summer time is in force, and the shifts — with `Zone.localtime`,
  `Zone.mktime`, and what `mktime` makes of a time of day that has been set (`mktime_set`);
* `LocalTime.untilNext` — the time until the clock next shows a given time of day, which is the
  least positive one (`untilNext_le_of_emod`).
-/

namespace LocalTime

/-- `struct tm`. The date is one number, that of the day. -/
structure Tm where
  day : ℤ
  hour : ℤ
  min : ℤ
  sec : ℤ
  isDst : Bool
  deriving DecidableEq, Repr

/-- The rules of local time. -/
structure Zone where
  /-- Whether summer time is in force. -/
  isDst : ℤ → Bool
  /-- The seconds by which local time is ahead, with and without summer time. -/
  offset : Bool → ℤ

namespace Zone

/-- The seconds that local time has counted. -/
def clock (z : Zone) (t : ℤ) : ℤ := t + z.offset (z.isDst t)

/-- The local time of day, in seconds. -/
def secondOfDay (z : Zone) (t : ℤ) : ℤ := z.clock t % 86400

/-- `localtime`. -/
def localtime (z : Zone) (t : ℤ) : Tm where
  day := z.clock t / 86400
  hour := z.secondOfDay t / 3600
  min := z.secondOfDay t / 60 % 60
  sec := z.secondOfDay t % 60
  isDst := z.isDst t

/-- `mktime`. Whether summer time is in force is taken from the broken-down time. -/
def mktime (z : Zone) (tm : Tm) : ℤ :=
  86400 * tm.day + 3600 * tm.hour + 60 * tm.min + tm.sec - z.offset tm.isDst

variable {z : Zone} {t d : ℤ}

theorem secondOfDay_nonneg (z : Zone) (t : ℤ) : 0 ≤ z.secondOfDay t :=
  Int.emod_nonneg _ (by omega)

theorem secondOfDay_lt (z : Zone) (t : ℤ) : z.secondOfDay t < 86400 :=
  Int.emod_lt_of_pos _ (by omega)

/-- To set the time of day moves the time within its day, or beyond it. -/
theorem mktime_set {tm : Tm} (h : tm = z.localtime t) (hour min sec : ℤ) :
    z.mktime { tm with hour, min, sec } =
      t - z.secondOfDay t + (3600 * hour + 60 * min + sec) := by
  -- the day and the time of day make up what the clock has counted
  have hdiv := Int.mul_ediv_add_emod (z.clock t) 86400
  have hclock : z.clock t = t + z.offset (z.isDst t) := rfl
  subst h
  change 86400 * (z.clock t / 86400) + 3600 * hour + 60 * min + sec - z.offset (z.isDst t) =
    t - z.clock t % 86400 + (3600 * hour + 60 * min + sec)
  omega

/-- The time of day goes on with the time, unless the clock is changed. -/
theorem secondOfDay_add (h : z.isDst (t + d) = z.isDst t) :
    z.secondOfDay (t + d) = (z.secondOfDay t + d) % 86400 := by
  -- the shift is the same at both times
  have hclock : z.clock (t + d) = z.clock t + d := by
    rw [clock, clock, h]
    omega
  rw [secondOfDay, secondOfDay, hclock, Int.emod_add_emod]

end Zone

/-! ## The next time of day -/

/-- The seconds until the clock next shows `target`, of which there is at least one. -/
def untilNext (target s : ℤ) : ℤ := 86400 - (s - target) % 86400

variable {target s d : ℤ}

theorem untilNext_pos (target s : ℤ) : 0 < untilNext target s := by
  rw [untilNext]
  omega

theorem untilNext_le (target s : ℤ) : untilNext target s ≤ 86400 := by
  rw [untilNext]
  omega

/-- The clock shows `target` then. -/
theorem add_untilNext_emod (target s : ℤ) :
    (s + untilNext target s) % 86400 = target % 86400 := by
  rw [untilNext]
  omega

/-- It does not show it before. -/
theorem untilNext_le_of_emod (hd : 0 < d) (h : (s + d) % 86400 = target % 86400) :
    untilNext target s ≤ d := by
  rw [untilNext]
  omega

/-- As long as the clock has not shown `target`, what has gone by is what is left less. -/
theorem untilNext_add (hd : 0 ≤ d) (hlt : d < untilNext target s) :
    untilNext target ((s + d) % 86400) = untilNext target s - d := by
  rw [untilNext] at hlt ⊢
  rw [untilNext]
  omega

/-- The target is later on the same day. -/
theorem untilNext_of_lt (hs : 0 ≤ s) (hlt : s < target) (ht : target ≤ 86400) :
    untilNext target s = target - s := by
  rw [untilNext]
  omega

/-- The target is on the next day. -/
theorem untilNext_of_le (ht : 0 ≤ target) (hle : target ≤ s) (hs : s < 86400) :
    untilNext target s = 86400 - s + target := by
  rw [untilNext]
  omega

end LocalTime
