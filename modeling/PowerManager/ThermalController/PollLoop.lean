import PowerManager.ThermalController.ConfigProperty
import PowerManager.ThermalController.Protection

/-!
# Does the polling loop divide by zero?

The polling thread divides 300 and 900 by the poll interval when it starts, and takes its counter
modulo both quotients at every successful reading, to log every five and every fifteen minutes. The
interval is what `atoi` makes of an RFC parameter, and nothing checks it. `pollThread` is the loop
with its divisions, and `pollThread_isSome_iff` says when none of them has a zero divisor: the
interval is not zero, and it is at most 300 seconds in absolute value, unless no reading succeeds.
-/

namespace PowerManager.Thermal

open CString

/-- The division of an `int` by an `int`; none if the divisor is zero. -/
def divide? (a b : ℤ) : Option ℤ := if b = 0 then none else some (a.tdiv b)

/-- The remainder of an `unsigned int` and an `int`, which is converted. -/
def remainder? (a : UInt32) (b : ℤ) : Option UInt32 :=
  if UInt32.ofInt b = 0 then none else some (a % UInt32.ofInt b)

/-- The variables of `pollThermalLevels`. -/
structure PollLoop where
  pollCount : UInt32
  thermalLogInterval : ℤ
  fifteenMinInterval : ℤ
  deriving DecidableEq, Repr

/-- The messages that a reading logs now and then. -/
inductive PollLog
  | cpuScaleMode
  | currentTemperature
  deriving DecidableEq, Repr

namespace PollLoop

/-- The variables before the first turn. -/
def start (interval : ℤ) : Option PollLoop := do
  let thermalLogInterval ← divide? 300 interval
  let fifteenMinInterval ← divide? 900 interval
  some ⟨0, thermalLogInterval, fifteenMinInterval⟩

/-- The messages that are due. -/
def logs (loop : PollLoop) : Option (List PollLog) := do
  let fifteenMin ← remainder? loop.pollCount loop.fifteenMinInterval
  let thermalLog ← remainder? loop.pollCount loop.thermalLogInterval
  some ((if fifteenMin = 0 then [.cpuScaleMode] else []) ++
    if thermalLog = 0 then [.currentTemperature] else [])

/-- What a turn does to the variables. A turn in deep sleep goes on without counting. -/
def turn (loop : PollLoop) : Turn → Option (PollLoop × List PollLog)
  | .deepSleep => some (loop, [])
  | .failed => some ({ loop with pollCount := loop.pollCount + 1 }, [])
  | .read _ => loop.logs.map fun logs => ({ loop with pollCount := loop.pollCount + 1 }, logs)

/-- The loop over some turns, with the messages; none if a divisor is zero. -/
def exec (build : Build) (loop : PollLoop) (c : ThermalController) (st : Statics) :
    List Turn → Option (Process × List Action × List PollLog)
  | [] => some (⟨st, some c⟩, [], [])
  | t :: turns => do
    let (loop, logs) ← loop.turn t
    let polled := c.pollThermalLevels build st t
    let (p, os, logs') ← exec build loop polled.1 polled.2.1 turns
    some (p, polled.2.2 ++ os, logs ++ logs')

end PollLoop

/-- The polling thread: `pollThermalLevels` over some turns, with its divisions. -/
def ThermalController.pollThread (c : ThermalController) (build : Build) (st : Statics)
    (turns : List Turn) : Option (Process × List Action × List PollLog) := do
  let loop ← PollLoop.start c.thermalPollInterval
  loop.exec build c st turns

/-- A turn that does not succeed in taking a reading. -/
def Turn.Unread (turn : Turn) : Prop := turn.reading? = none

instance (turn : Turn) : Decidable turn.Unread := inferInstanceAs (Decidable (_ = _))

variable {build : Build} {cfg : Configuration} {c : ThermalController} {st : Statics}
  {loop : PollLoop} {turns : List Turn} {interval : ℤ} {p : Process} {os : List Action}
  {logs : List PollLog}

/-! ## Divisors -/

/-- A small number that is not zero is not zero as an `unsigned int`. -/
theorem ofInt_eq_zero_iff {b : ℤ} (hlow : -900 ≤ b) (hhigh : b ≤ 900) :
    UInt32.ofInt b = 0 ↔ b = 0 := by
  constructor
  · intro h
    have hnat : (b % 0x100000000).toNat % 0x100000000 = 0 := congrArg UInt32.toNat h
    omega
  · rintro rfl
    rfl

theorem remainder?_isSome_iff {a : UInt32} {b : ℤ} (hlow : -900 ≤ b) (hhigh : b ≤ 900) :
    (remainder? a b).isSome = true ↔ b ≠ 0 := by
  have hzero := ofInt_eq_zero_iff hlow hhigh
  rw [remainder?]
  by_cases hb : b = 0
  · rw [if_pos (hzero.mpr hb)]
    simp [hb]
  · rw [if_neg (mt hzero.mp hb)]
    simp [hb]

/-- The quotient of a number by the interval is not larger, and is zero exactly if the interval is
larger. -/
theorem tdiv_bounds {a : ℤ} (ha : 0 ≤ a) (hinterval : interval ≠ 0) :
    -a ≤ a.tdiv interval ∧ a.tdiv interval ≤ a ∧
      (a.tdiv interval ≠ 0 ↔ |interval| ≤ a) := by
  have hnat : (a.tdiv interval).natAbs = a.natAbs / interval.natAbs := Int.natAbs_tdiv a interval
  have hle : a.natAbs / interval.natAbs ≤ a.natAbs := Nat.div_le_self _ _
  have hpos : 0 < interval.natAbs := Int.natAbs_pos.mpr hinterval
  have hzero : a.natAbs / interval.natAbs = 0 ↔ a.natAbs < interval.natAbs := by
    rw [Nat.div_eq_zero_iff]
    omega
  rw [Int.abs_eq_natAbs]
  omega

/-! ## The loop -/

/-- The variables before the first turn are the quotients of 300 and 900. -/
theorem start_eq (hinterval : interval ≠ 0) :
    PollLoop.start interval = some ⟨0, (300 : ℤ).tdiv interval, (900 : ℤ).tdiv interval⟩ := by
  rw [PollLoop.start, divide?, divide?, if_neg hinterval, if_neg hinterval]
  rfl

/-- The intervals of the loop are the quotients of 300 and 900 by the interval. -/
def PollLoop.IsFor (loop : PollLoop) (interval : ℤ) : Prop :=
  loop.thermalLogInterval = (300 : ℤ).tdiv interval ∧
    loop.fifteenMinInterval = (900 : ℤ).tdiv interval

/-- A reading divides by zero if the interval is above 300 seconds. -/
theorem logs_isSome_iff (hloop : loop.IsFor interval) (hinterval : interval ≠ 0) :
    loop.logs.isSome = true ↔ |interval| ≤ 300 := by
  obtain ⟨hlog, hfifteen⟩ := hloop
  obtain ⟨hlow, hhigh, h300⟩ := tdiv_bounds (a := 300) (by decide) hinterval
  obtain ⟨hlow', hhigh', h900⟩ := tdiv_bounds (a := 900) (by decide) hinterval
  have hlogs : loop.logs.isSome = true ↔
      (remainder? loop.pollCount loop.fifteenMinInterval).isSome = true ∧
        (remainder? loop.pollCount loop.thermalLogInterval).isSome = true := by
    rw [PollLoop.logs]
    cases remainder? loop.pollCount loop.fifteenMinInterval with
    | none => simp
    | some m =>
      cases remainder? loop.pollCount loop.thermalLogInterval with
      | none => simp
      | some m' => simp
  rw [hlogs, hlog, hfifteen, remainder?_isSome_iff hlow' hhigh',
    remainder?_isSome_iff (by omega) (by omega), h300, h900]
  -- an interval of at most 300 seconds is also at most 900 seconds
  omega

/-- A turn keeps the intervals, or takes a reading and divides by zero. -/
theorem turn_cases (hloop : loop.IsFor interval) (hinterval : interval ≠ 0) (turn : Turn) :
    (∃ loop' logs, loop.turn turn = some (loop', logs) ∧ loop'.IsFor interval ∧
      (|interval| ≤ 300 ∨ turn.Unread)) ∨
    loop.turn turn = none ∧ ¬|interval| ≤ 300 ∧ ¬turn.Unread := by
  cases turn with
  | deepSleep => exact .inl ⟨loop, [], rfl, hloop, .inr rfl⟩
  | failed => exact .inl ⟨_, [], rfl, hloop, .inr rfl⟩
  | read r =>
    have hiff := logs_isSome_iff hloop hinterval
    -- only a reading computes the remainders
    by_cases h300 : |interval| ≤ 300
    · obtain ⟨logs, hlogs⟩ := Option.isSome_iff_exists.mp (hiff.mpr h300)
      refine .inl ⟨{ loop with pollCount := loop.pollCount + 1 }, logs, ?_, hloop, .inl h300⟩
      rw [PollLoop.turn, hlogs]
      rfl
    · refine .inr ⟨?_, h300, nofun⟩
      rw [PollLoop.turn, Option.map_eq_none_iff]
      simpa using mt hiff.mp h300

/-- The loop goes on after a turn that does not divide by zero. -/
theorem exec_cons {loop' : PollLoop} {turn : Turn} (hturn : loop.turn turn = some (loop', logs)) :
    loop.exec build c st (turn :: turns) =
      (loop'.exec build (c.pollThermalLevels build st turn).1
        (c.pollThermalLevels build st turn).2.1 turns).map fun r =>
          (r.1, (c.pollThermalLevels build st turn).2.2 ++ r.2.1, logs ++ r.2.2) := by
  rw [PollLoop.exec, hturn]
  simp only [Option.bind_eq_bind, Option.bind_some]
  cases loop'.exec build (c.pollThermalLevels build st turn).1
    (c.pollThermalLevels build st turn).2.1 turns with
  | none => rfl
  | some r => rfl

/-- The loop goes through its turns without a division by zero exactly if the interval is at most
300 seconds, or none of the turns takes a reading. -/
theorem exec_isSome_iff (hloop : loop.IsFor interval) (hinterval : interval ≠ 0) :
    (loop.exec build c st turns).isSome = true ↔
      |interval| ≤ 300 ∨ ∀ turn ∈ turns, turn.Unread := by
  induction turns generalizing loop c st with
  | nil => exact iff_of_true rfl (.inr nofun)
  | cons turn turns ih =>
    rw [List.forall_mem_cons]
    rcases turn_cases hloop hinterval turn with ⟨loop', logs, hturn, hloop', hsafe⟩ |
      ⟨hturn, h300, hread⟩
    · rw [exec_cons hturn, Option.isSome_map, ih hloop']
      -- the turn was safe because of the interval, or because it has taken no reading
      rcases hsafe with h300 | hunread
      · exact iff_of_true (.inl h300) (.inl h300)
      · simp [hunread]
    · rw [PollLoop.exec, hturn]
      refine iff_of_false nofun ?_
      rintro (h | h)
      · exact h300 h
      · exact hread h.1

/-! ## The interval -/

/-- The poll interval of a new controller: what `atoi` makes of the RFC parameter, if the parameters
are read and this one is configured. -/
def Configuration.pollInterval (cfg : Configuration) : ℤ :=
  match cfg.rfcEnable with
  | none => 30
  | some value =>
    if ThermalController.saysFalse value then 30 else (cfg.configProperty .pollInterval).getD 30

theorem create_thermalPollInterval (build : Build) (cfg : Configuration) :
    (ThermalController.create build cfg).1.thermalPollInterval = cfg.pollInterval := by
  have hread : ((ThermalController.initial build).isThermalProtectionEnabled
      cfg).thermalPollInterval = cfg.pollInterval := by
    unfold ThermalController.isThermalProtectionEnabled Configuration.pollInterval
    cases cfg.rfcEnable with
    | none => rfl
    | some value =>
      change (if ThermalController.saysFalse value then _ else _ :
        ThermalController).thermalPollInterval = if ThermalController.saysFalse value then _ else _
      split
      · rfl
      · rfl
  -- declocking leaves the interval alone
  have hdeclock : ∀ c : ThermalController,
      (c.initializeDeclocking cfg).thermalPollInterval = c.thermalPollInterval := by
    intro c
    unfold ThermalController.initializeDeclocking
    split
    · rfl
    · rfl
  simp only [ThermalController.create, ThermalController.initializeThermalProtection]
  split
  · split
    · exact hread
    · rw [hdeclock, hread]
  · exact hread

/-! ## The result -/

/-- When the polling loop does not divide by zero: for every configuration, every build and every
sequence of turns, exactly if the poll interval is not zero and, unless no turn takes a reading, at
most 300 seconds in absolute value. -/
theorem pollThread_isSome_iff (build : Build) (cfg : Configuration) (st : Statics)
    (turns : List Turn) :
    ((ThermalController.create build cfg).1.pollThread build st turns).isSome = true ↔
      cfg.pollInterval ≠ 0 ∧ (|cfg.pollInterval| ≤ 300 ∨ ∀ turn ∈ turns, turn.Unread) := by
  rw [← create_thermalPollInterval build]
  generalize (ThermalController.create build cfg).1 = c
  rw [ThermalController.pollThread]
  -- the interval zero fails before the first turn
  by_cases hinterval : c.thermalPollInterval = 0
  · rw [hinterval]
    exact iff_of_false nofun fun h => h.1 rfl
  · rw [start_eq hinterval]
    change (PollLoop.exec build _ c st turns).isSome = true ↔ _
    rw [exec_isSome_iff ⟨rfl, rfl⟩ hinterval]
    exact (and_iff_right hinterval).symm

/-- The poll interval is configured to the string in the given bytes. -/
def Configuration.ofPollInterval (bytes : List UInt8) : Configuration :=
  .ofProperties fun
    | .pollInterval =>
      (readConfigProperty (.zero maxThermalRfc.toNat) (some bytes)).bind fun r => r.2.map (atoi id)
    | _ => none

/-- With the interval "0" the polling thread divides by zero when it starts, and with "301" at the
first reading. -/
theorem pollThread_of_zero_of_301 :
    (Configuration.ofPollInterval [48, 0]).pollInterval = 0 ∧
      (ThermalController.create ⟨false, false⟩ (.ofPollInterval [48, 0])).1.pollThread
        ⟨false, false⟩ .zero [] = none ∧
      (Configuration.ofPollInterval [51, 48, 49, 0]).pollInterval = 301 ∧
      (ThermalController.create ⟨false, false⟩ (.ofPollInterval [51, 48, 49, 0])).1.pollThread
        ⟨false, false⟩ .zero [.failed, .read (.at 40 301)] = none := by
  refine ⟨by decide +kernel, ?_, by decide +kernel, ?_⟩
  · decide +kernel
  · decide +kernel

/-- With the interval "30", in quotes, the thread goes through its turns, and logs both messages at
the first reading. -/
example : ((ThermalController.create ⟨false, false⟩
    (.ofPollInterval [quote, 51, 48, quote, 0])).1.pollThread ⟨false, false⟩ .zero
      [.read (.at 40 30), .read (.at 40 60)]).map (fun r => r.2.2) =
    some [.cpuScaleMode, .currentTemperature] := by decide +kernel

end PowerManager.Thermal
