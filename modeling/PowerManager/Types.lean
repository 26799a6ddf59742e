import Mathlib.Data.Nat.Basic

/-!
# Types shared by the controllers

The enumerations of `Exchange::IPowerManager` and of Thunder's `Core` that the plugin uses, and
Thunder's `Core::Time`.
-/

namespace PowerManager

/-- `Exchange::IPowerManager::PowerState`. -/
inductive PowerState
  | unknown
  | off
  | standby
  | on
  | standbyLightSleep
  | standbyDeepSleep
  deriving DecidableEq, Repr

/-- The values of Thunder's `Core::ErrorCodes` that the plugin returns or compares with. -/
inductive ErrorCode
  | errorNone
  | errorGeneral
  | errorUnavailable
  | errorIllegalState
  | errorInvalidParameter
  | errorAborted
  | errorWriteError
  | errorReadError
  deriving DecidableEq, Repr

/-- A point in time, in microseconds: the ticks of Thunder's `Core::Time`, and the readings of
`steady_clock`. -/
abbrev Time := ℕ

/-- `Core::Time::Add`: advance a time by an unsigned 32-bit count of milliseconds. -/
def Time.add (t : Time) (timeInMilliseconds : UInt32) : Time :=
  t + 1000 * timeInMilliseconds.toNat

end PowerManager
