import PowerManager.Implementation.Steps
import Mathlib.Algebra.Ring.Int.Defs

/-!
# How long a delay is

`DelayPowerModeChangeBy` takes a number of seconds, which it multiplies by 1000 in 32 bits and hands
to `Reschedule`; `Time::Add` reads the product as unsigned. Nothing checks the range of the number.

`delay_exact_iff` says for which delays the deadline is what it would be over the integers: those
whose number of milliseconds is not negative and fits into 32 bits, and those that make no
difference, because neither the delay nor what is left of it reaches beyond the old deadline.
-/

namespace PowerManager

/-- The cast to an unsigned number adds `2 ^ 32` to a negative one. -/
theorem toNat_toUInt32 (x : Int32) : (x.toUInt32.toNat : ℤ) = x.toInt % 2 ^ 32 := by
  have hsigned : x.toInt = (x.toUInt32.toNat : ℤ).bmod (2 ^ 32) :=
    BitVec.toInt_eq_toNat_bmod x.toBitVec
  have hmod : x.toInt % 2 ^ 32 = x.toUInt32.toNat % 2 ^ 32 := by
    rw [hsigned]
    exact Int.bmod_emod
  have hlt := x.toUInt32.toNat_lt
  omega

/-- `Time::Add` makes of a delay in seconds its number of milliseconds modulo `2 ^ 32`. -/
theorem toNat_toUInt32_mul_1000 (delayPeriod : Int32) :
    ((delayPeriod * 1000).toUInt32.toNat : ℤ) = 1000 * delayPeriod.toInt % 2 ^ 32 := by
  have hcast := toNat_toUInt32 delayPeriod
  have hfactor : (Int32.toUInt32 1000).toNat = 1000 := rfl
  -- the product is signed, but the sign is lost modulo `2 ^ 32`
  rw [Int32.toUInt32_mul, UInt32.toNat_mul, hfactor]
  omega

namespace Implementation

variable {pm pm' : Implementation} {c c' : AckController CompletionHandler} {clientId : UInt32}
  {transactionId : ℤ} {delayPeriod : Int32} {now : Time}

/-- A delay that is exact: its number of milliseconds is not negative and less than `2 ^ 32`, or
neither the delay nor its milliseconds modulo `2 ^ 32` reach beyond the deadline. -/
def DelayExact (deadline now : Time) (delayPeriod : Int32) : Prop :=
  (0 ≤ 1000 * delayPeriod.toInt ∧ 1000 * delayPeriod.toInt < 2 ^ 32) ∨
    ((now : ℤ) + 1000000 * delayPeriod.toInt ≤ deadline ∧
      (now : ℤ) + 1000 * (1000 * delayPeriod.toInt % 2 ^ 32) ≤ deadline)

instance (deadline now : Time) (delayPeriod : Int32) :
    Decidable (DelayExact deadline now delayPeriod) :=
  inferInstanceAs (Decidable (_ ∨ _))

/-- A delay that is granted moves the deadline to the time that `Time::Add` computes, if that is
later. -/
theorem timeout_delay (hc : pm.modeChangeController = some c)
    (hc' : pm'.modeChangeController = some c')
    (h : implementation.step pm (.delayPowerModeChangeBy clientId transactionId delayPeriod now) =
      some (pm', [.returned .errorNone])) :
    c'.timeout = max c.timeout (now.add (delayPeriod * 1000).toUInt32) := by
  simp only [implementation, delayPowerModeChangeBy, hc, Option.some.injEq, Prod.mk.injEq,
    List.cons.injEq, Event.returned.injEq, and_true] at h
  obtain ⟨rfl, hcode⟩ := h
  obtain rfl : (c.reschedule clientId transactionId (delayPeriod * 1000) now).2 = c' :=
    Option.some.inj hc'
  by_cases hrun : c.running = false
  · -- a stopped controller and a participant are granted the delay, anybody else gets an error
    rw [c.reschedule_of_stopped _ _ _ _ hrun]
  · have hrun' : c.running = true := by simpa using hrun
    by_cases hpart : c.Participant clientId transactionId
    · rw [c.reschedule_of_participant _ _ _ _ hrun' hpart]
      -- a delay that is not longer leaves the deadline alone
      split
      · rename_i hlate
        exact (max_eq_right hlate.le).symm
      · rename_i hlate
        exact (max_eq_left (not_lt.mp hlate)).symm
    · rw [c.reschedule_of_running _ _ _ _ hrun' hpart] at hcode
      cases hcode

/-- A delay is exact exactly if the deadline is right over the integers. -/
theorem max_add_eq_iff (deadline now : ℕ) (delayPeriod : Int32) :
    ((max deadline (Time.add now (delayPeriod * 1000).toUInt32) : ℕ) : ℤ) =
      max (deadline : ℤ) (now + 1000000 * delayPeriod.toInt) ↔
      DelayExact deadline now delayPeriod := by
  have hmod := toNat_toUInt32_mul_1000 delayPeriod
  unfold DelayExact Time.add
  omega

/-- For all arguments, a delay that is granted moves the deadline as it would over the integers
exactly if it is exact. Exact delays that are not positive never postpone the transition, and of two
exact delays the larger one never yields the earlier deadline. -/
theorem delay_exact_iff (hc : pm.modeChangeController = some c)
    (hc' : pm'.modeChangeController = some c')
    (h : implementation.step pm (.delayPowerModeChangeBy clientId transactionId delayPeriod now) =
      some (pm', [.returned .errorNone])) :
    ((c'.timeout : ℤ) = max (c.timeout : ℤ) (now + 1000000 * delayPeriod.toInt) ↔
      DelayExact c.timeout now delayPeriod) ∧
    (DelayExact c.timeout now delayPeriod → delayPeriod.toInt ≤ 0 → now ≤ c.timeout →
      c'.timeout = c.timeout) ∧
    ∀ larger pm'' c'', DelayExact c.timeout now delayPeriod → DelayExact c.timeout now larger →
      delayPeriod.toInt ≤ larger.toInt →
      implementation.step pm (.delayPowerModeChangeBy clientId transactionId larger now) =
        some (pm'', [.returned .errorNone]) →
      pm''.modeChangeController = some c'' → c'.timeout ≤ c''.timeout := by
  -- what each exact delay makes of the deadline
  have hspec : ∀ d pm₁ c₁, DelayExact c.timeout now d →
      implementation.step pm (.delayPowerModeChangeBy clientId transactionId d now) =
        some (pm₁, [.returned .errorNone]) → pm₁.modeChangeController = some c₁ →
      (c₁.timeout : ℤ) = max (c.timeout : ℤ) (now + 1000000 * d.toInt) := by
    intro d pm₁ c₁ hexact hstep hc₁
    rw [timeout_delay hc hc₁ hstep]
    exact (max_add_eq_iff c.timeout now d).mpr hexact
  refine ⟨?_, fun hexact hle hnow => ?_, fun larger pm'' c'' hexact hexact' hle hstep hc'' => ?_⟩
  · rw [timeout_delay hc hc' h]
    exact max_add_eq_iff c.timeout now delayPeriod
  · have hnow' : (now : ℤ) ≤ c.timeout := Int.ofNat_le.mpr hnow
    -- the deadline is not in the past, so a delay that is not positive does not reach beyond it
    apply Int.ofNat_inj.mp
    rw [hspec _ _ _ hexact h hc', max_eq_left (by omega)]
  · apply Int.ofNat_le.mp
    -- both deadlines are right over the integers, where the maximum is monotone
    rw [hspec _ _ _ hexact h hc', hspec _ _ _ hexact' hstep hc'']
    omega

/-- A client delays a transition by 23 days. -/
theorem delay_exact_long :
    ∃ ls os pm pm' c c', implementation.Run (initial .isOn 0 0) ls os pm ∧
      pm.modeChangeController = some c ∧ c.running = true ∧
      implementation.step pm (.delayPowerModeChangeBy 1 1 2000000 0) =
        some (pm', [.returned .errorNone]) ∧
      pm'.modeChangeController = some c' ∧ (c'.timeout : ℤ) = 2000000000000 := by
  have h : implementation.Run (initial .isOn 0 0) [.addPowerModePreChangeClient "client",
      .request .standby .awake, .create .accepts, .schedule .accepts] _ _ :=
    Machine.run_of_exec rfl
  have hdelay : ∀ {ls os pm pm' c c'}, implementation.Run (initial .isOn 0 0) ls os pm →
      pm.modeChangeController = some c → c.timeout = 1000000 →
      implementation.step pm (.delayPowerModeChangeBy 1 1 2000000 0) =
        some (pm', [.returned .errorNone]) →
      pm'.modeChangeController = some c' → (c'.timeout : ℤ) = 2000000000000 := by
    intro ls os pm pm' c c' _ hc htimeout hstep hc'
    rw [(delay_exact_iff hc hc' hstep).1.mpr, htimeout]
    · decide
    · rw [htimeout]
      decide
  exact ⟨_, _, _, _, _, _, h, rfl, rfl, rfl, rfl, hdelay h rfl rfl rfl rfl⟩

/-- A delay of minus one second postpones the transition by more than seven weeks, and a delay of
4294968 seconds makes less of a difference than one of a second. -/
theorem delay_wrapped :
    ∃ ls os pm c, implementation.Run (initial .isOn 0 0) ls os pm ∧
      pm.modeChangeController = some c ∧ c.running = true ∧ c.timeout = 1000000 ∧
      (∃ pm' c', implementation.step pm (.delayPowerModeChangeBy 1 1 (-1) 500000) =
          some (pm', [.returned .errorNone]) ∧
        pm'.modeChangeController = some c' ∧ c'.timeout = 4294966796000) ∧
      (∃ pm' c', implementation.step pm (.delayPowerModeChangeBy 1 1 1 500000) =
          some (pm', [.returned .errorNone]) ∧
        pm'.modeChangeController = some c' ∧ c'.timeout = 1500000) ∧
      ∃ pm' c', implementation.step pm (.delayPowerModeChangeBy 1 1 4294968 500000) =
          some (pm', [.returned .errorNone]) ∧
        pm'.modeChangeController = some c' ∧ c'.timeout = 1204000 := by
  have h : implementation.Run (initial .isOn 0 0) [.addPowerModePreChangeClient "client",
      .request .standby .awake, .create .accepts, .schedule .accepts] _ _ :=
    Machine.run_of_exec rfl
  refine ⟨_, _, _, _, h, rfl, rfl, ?_, ⟨_, _, rfl, rfl, ?_⟩, ⟨_, _, rfl, rfl, ?_⟩,
    ⟨_, _, rfl, rfl, ?_⟩⟩
  all_goals decide

end Implementation

end PowerManager
