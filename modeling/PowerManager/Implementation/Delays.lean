import PowerManager.Implementation.Steps

/-!
# Who can delay a transition

`AckController::Reschedule` is documented to refuse invalid client and transaction ids. It looks at
them only while the controller is running: before `Schedule`, and after the transition has
completed, it accepts any arguments and moves the timeout.

* `AckController.reschedule_guarded_iff` — when `Reschedule` treats its arguments as documented;
* `delays_guarded_iff` — the same together with what it means for `DelayPowerModeChangeBy` in every
  reachable state of the implementation;
* `delay_by_stranger` — a client that takes no part in the transition postpones it.
-/

namespace PowerManager

namespace AckController

variable {H : Type*}

/-- Nobody has moved the deadline: the timeout, the pending clients and the timer job are those of
`c`. -/
structure SameDeadline (c c' : AckController H) : Prop where
  timeout : c'.timeout = c.timeout
  pending : c'.pending = c.pending
  timerJobValid : c'.timerJobValid = c.timerJobValid
  scheduled : c'.scheduled = c.scheduled

/-- `Reschedule` treats its arguments as documented: it succeeds only for a participant, and refuses
everybody else without any effect on the deadline. -/
structure RescheduleGuarded (c : AckController H) (clientId : UInt32) (transactionId : ℤ)
    (offsetInMilliseconds : Int32) (now : Time) : Prop where
  sound : (c.reschedule clientId transactionId offsetInMilliseconds now).1 = .errorNone →
    c.Participant clientId transactionId
  refuses : ¬c.Participant clientId transactionId →
    (c.reschedule clientId transactionId offsetInMilliseconds now).1 = .errorInvalidParameter ∧
      c.SameDeadline (c.reschedule clientId transactionId offsetInMilliseconds now).2

variable (c : AckController H) (clientId : UInt32) (transactionId : ℤ) (offset : Int32) (now : Time)

/-- `Reschedule` treats its arguments as documented exactly if the controller is running, or the
arguments are good. -/
theorem reschedule_guarded_iff :
    c.RescheduleGuarded clientId transactionId offset now ↔
      c.running = true ∨ c.Participant clientId transactionId := by
  constructor
  · intro h
    by_contra hno
    rw [not_or, Bool.not_eq_true] at hno
    obtain ⟨hrun, hpart⟩ := hno
    apply hpart
    -- a stopped controller says `ERROR_NONE`, and so the arguments would have to be good
    apply h.sound
    rw [reschedule_of_stopped c clientId transactionId offset now hrun]
  · intro h
    by_cases hpart : c.Participant clientId transactionId
    · exact ⟨fun _ => hpart, fun hno => absurd hpart hno⟩
    · have he := reschedule_of_running c clientId transactionId offset now
        (h.resolve_right hpart) hpart
      refine ⟨fun hnone => ?_, fun _ => ?_⟩
      · rw [he] at hnone
        cases hnone
      · rw [he]
        exact ⟨rfl, rfl, rfl, rfl, rfl⟩

end AckController

namespace Implementation

variable {pm : Implementation} {os : List Event} {ls : List Label} {pc : PowerController} {tid : ℤ}
  {cid : UInt32} {c : AckController CompletionHandler}

/-- `DelayPowerModeChangeBy` refuses a stale transaction and an unknown client, and does nothing. -/
def DelayGuarded (pm : Implementation) (clientId : UInt32) (transactionId : ℤ) (delayPeriod : Int32)
    (now : Time) : Prop :=
  (∀ c, pm.modeChangeController = some c → ¬c.Participant clientId transactionId) →
    implementation.step pm (.delayPowerModeChangeBy clientId transactionId delayPeriod now) =
      some (pm, [.returned .errorInvalidParameter])

/-- `DelayPowerModeChangeBy` refuses strangers if there is no controller, and otherwise exactly if
the controller is running. -/
theorem delayGuarded_iff (pm : Implementation) (clientId : UInt32) (transactionId : ℤ)
    (delayPeriod : Int32) (now : Time) :
    pm.DelayGuarded clientId transactionId delayPeriod now ↔
      ∀ c, pm.modeChangeController = some c →
        c.running = true ∨ c.Participant clientId transactionId := by
  unfold DelayGuarded
  simp only [implementation, delayPowerModeChangeBy]
  cases hc : pm.modeChangeController with
  | none => simp
  | some c =>
    -- a refusal puts back the controller that it has read
    have hsame : ({ pm with modeChangeController := some c } : Implementation) = pm := by rw [← hc]
    simp only [Option.some.injEq, forall_eq']
    constructor
    · intro h
      by_contra hno
      rw [not_or, Bool.not_eq_true] at hno
      obtain ⟨hrun, hpart⟩ := hno
      -- before the start, `Reschedule` returns `ERROR_NONE` to a stranger
      have he := h hpart
      rw [c.reschedule_of_stopped clientId transactionId _ now hrun] at he
      simp at he
    · intro h hpart
      rw [c.reschedule_of_running clientId transactionId _ now (h.resolve_right hpart) hpart, hsame]

/-- Only participants can delay, exactly while the controller is running. For every controller and
all arguments `Reschedule` succeeds only for a participant and refuses everybody else without effect
exactly if the controller is running or the arguments name a participant; and in every reachable
state of the implementation `DelayPowerModeChangeBy` leaves a transition alone when it is called by
anybody else, exactly under the same condition on its controller. -/
theorem delays_guarded_iff (clientId : UInt32) (transactionId : ℤ) (now : Time) :
    (∀ (H : Type) (c : AckController H) (offset : Int32),
        c.RescheduleGuarded clientId transactionId offset now ↔
          c.running = true ∨ c.Participant clientId transactionId) ∧
      ∀ pc tid cid ls os pm, implementation.Run (initial pc tid cid) ls os pm → ∀ delayPeriod,
        (pm.DelayGuarded clientId transactionId delayPeriod now ↔
          ∀ c, pm.modeChangeController = some c →
            c.running = true ∨ c.Participant clientId transactionId) :=
  ⟨fun _ c offset => c.reschedule_guarded_iff clientId transactionId offset now,
    fun _ _ _ _ _ pm _ delayPeriod =>
      delayGuarded_iff pm clientId transactionId delayPeriod now⟩

/-- Once a transition is scheduled, a client that takes no part in it cannot delay it. -/
theorem delays_guarded_of_scheduled :
    ∃ ls os pm c, implementation.Run (initial .isOn 0 0) ls os pm ∧
      pm.modeChangeController = some c ∧ ¬c.Participant 99 7 ∧ c.RescheduleGuarded 99 7 5000 0 ∧
      pm.DelayGuarded 99 7 5 0 := by
  have h : implementation.Run (initial .isOn 0 0) [.addPowerModePreChangeClient "client",
      .request .standby .awake, .create .accepts, .schedule .accepts] _ _ :=
    Machine.run_of_exec rfl
  obtain ⟨hctrl, himpl⟩ := delays_guarded_iff 99 7 0
  refine ⟨_, _, _, _, h, rfl, by decide, (hctrl _ _ 5000).mpr (.inl rfl),
    (himpl _ _ _ _ _ _ h 5).mpr ?_⟩
  rintro c ⟨⟩
  exact .inl rfl

/-- Client 1 is registered, and a transition has been created that is transaction 1. Before it is
scheduled, client 99 asks for a delay of five seconds in transaction 7: the request succeeds, and
the timer, which would run out after one second, is scheduled five seconds ahead. -/
theorem delay_by_stranger :
    (∃ ls os pm c, implementation.Run (initial .isOn 0 0) ls os pm ∧
      pm.modeChangeController = some c ∧ c.pending = {1} ∧ c.transactionId = 1 ∧
      ¬c.RescheduleGuarded 99 7 5000 0 ∧ ¬pm.DelayGuarded 99 7 5 0) ∧
    ∃ es pm, implementation.Run (initial .isOn 0 0) [.addPowerModePreChangeClient "client",
        .request .standby .awake, .create .accepts, .delayPowerModeChangeBy 99 7 5 0,
        .schedule .accepts] es pm ∧
      pm.modeChangeController.bind (·.scheduled) = some 5000000 := by
  refine ⟨?_, Machine.exists_outputs_of_exec (by decide +kernel)⟩
  have h : implementation.Run (initial .isOn 0 0) [.addPowerModePreChangeClient "client",
      .request .standby .awake, .create .accepts] _ _ := Machine.run_of_exec rfl
  refine ⟨_, _, _, _, h, rfl, rfl, rfl, ?_, ?_⟩
  · rw [AckController.reschedule_guarded_iff]
    decide
  · rw [delayGuarded_iff]
    intro hall
    exact absurd (hall _ rfl) (by decide)

end Implementation

end PowerManager
