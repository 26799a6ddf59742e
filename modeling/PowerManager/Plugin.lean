import PowerManager.DeepSleepController.Abort
import PowerManager.Implementation.Requests

/-!
# The implementation and its deep sleep controller

`PowerManagerImplementation` reads the state of its `DeepSleepController` when a request comes in,
and calls `Activate` and `Deactivate` in the course of its own steps; the jobs of the controller run
in the worker pool. `plugin` is the machine of both.

They are meant to agree: the SoC is put to sleep only in the power state DEEP_SLEEP. What holds them
together is that a transition out of DEEP_SLEEP begins with `Deactivate`. The agreement is lost if

* `Deactivate` does not stop an activation (`DeepSleepController.AdmitsSafely`);
* a transition out of DEEP_SLEEP is installed by a request that has read another state, and so has
  not called `Deactivate` (`ReadsDeepSleep`).

`setDeepSleep_only_in_deepSleep` is the agreement for all runs without such steps.
-/

namespace PowerManager

namespace Transition

variable {a b : Transition} {l : Step} {es : List Effect}

/-- The device is in DEEP_SLEEP, and nothing is on the way to take it out of there. -/
structure Asleep (a : Transition) : Prop where
  powerState : a.powerState = .standbyDeepSleep
  not_pending : ∀ p t, a.slot ≠ .pending p t
  not_checked : ∀ n, a.request ≠ .checked n .standbyDeepSleep

/-- Deep sleep is activated only when the device is asleep. -/
theorem asleep_of_activate (hI : Inv a) (h : transition.step a l = some (b, es))
    (he : .activate ∈ es) : b.Asleep := by
  rcases step_cases h with ⟨rfl, rfl, -⟩ | ⟨n, t, -, -, -, rfl, rfl⟩ | ⟨n, c, -, -, -, rfl, rfl⟩ |
    ⟨n, c, -, -, -, rfl, rfl⟩ | ⟨-, -, rfl, rfl⟩ | ⟨p, t, r, -, hpend, rfl, rfl⟩
  · simp at he
  · split at he <;> simp at he
  · simp at he
  · simp at he
  · simp at he
  · -- only a completed transition to DEEP_SLEEP activates
    obtain ⟨rfl, rfl⟩ : r = true ∧ t = .standbyDeepSleep := by
      cases r <;> by_cases ht : t = .standbyDeepSleep <;> simp_all [settle]
    refine ⟨rfl, by simp [settle], fun n hn => ?_⟩
    -- the request has read the state that the transition leads away from
    have hchecked : a.request = .checked n .standbyDeepSleep := by
      cases hreq : a.request <;> simp_all [settle]
    rcases hI.checked_read n _ hchecked with hread | hread
    · exact hI.pending_ne p _ hpend hread.symm
    · rw [hpend] at hread
      cases hread

/-- The device stays asleep until deep sleep is deactivated. -/
theorem asleep_step (hI : Inv a) (ha : a.Asleep) (hl : Current a l)
    (h : transition.step a l = some (b, es)) : b.Asleep ∨ .deactivate ∈ es := by
  rcases step_cases h with ⟨rfl, -⟩ | ⟨n, t, -, -, -, rfl, rfl⟩ | ⟨n, c, -, -, -, rfl, rfl⟩ |
    ⟨n, c, rfl, hreq, htarget, rfl, -⟩ | ⟨-, hinst, rfl, -⟩ | ⟨p, t, r, -, hpend, -⟩
  · exact .inl ha
  · -- the request reads DEEP_SLEEP and calls `Deactivate`
    exact .inr (by simp [ha.powerState])
  · exact .inl ⟨ha.powerState, ha.not_pending, by simp⟩
  · -- a request that installs a controller has read another state than DEEP_SLEEP
    obtain rfl : c = .standbyDeepSleep := (hl n c rfl hreq htarget).trans ha.powerState
    exact absurd hreq (ha.not_checked n)
  · obtain ⟨p, t, hpend⟩ := hI.installed hinst
    exact absurd hpend (ha.not_pending p t)
  · exact absurd hpend (ha.not_pending p t)

end Transition

/-! ## The machine -/

/-- The implementation with its deep sleep controller. -/
structure Plugin where
  pm : Implementation
  ds : DeepSleepController
  /-- The number of activations at the last `Deactivate`. It records history, and no step reads
  it. -/
  deactivated : ℕ

namespace Plugin

/-- What the two components do. -/
inductive Event
  | pm (e : PowerManager.Event)
  | ds (e : DeepSleepController.Event)
  deriving DecidableEq, Repr

/-- The calls of the implementation reach the deep sleep controller. -/
def onEvent (s : Plugin) (errorCode : ErrorCode) (e : PowerManager.Event) : Plugin × List Event :=
  match e with
  | .activate timeOut nwStandbyMode =>
    let r := s.ds.activate timeOut nwStandbyMode
    ({ s with ds := r.1 }, .pm e :: r.2.map .ds)
  | .deactivate =>
    let r := s.ds.deactivate errorCode
    ({ s with ds := r.1, deactivated := s.ds.nextId }, .pm e :: r.2.map .ds)
  | _ => (s, [.pm e])

/-- The calls of a step of the implementation, in order. -/
def onEvents (s : Plugin) (errorCode : ErrorCode) : List PowerManager.Event → Plugin × List Event
  | [] => (s, [])
  | e :: es =>
    let r := s.onEvent errorCode e
    let r' := onEvents r.1 errorCode es
    (r'.1, r.2 ++ r'.2)

/-- A step of the implementation, with the answer of `DeepSleepWakeup` in case it calls
`Deactivate`. -/
def stepImplementation (s : Plugin) (l : PowerManager.Label) (errorCode : ErrorCode) :
    Option (Plugin × List Event) :=
  match implementation.step s.pm l with
  | some (pm, es) => some ({ s with pm }.onEvents errorCode es)
  | none => none

/-- A step of an activation. -/
def stepDeepSleep (s : Plugin) (l : DeepSleepController.Label) : Option (Plugin × List Event) :=
  match deepSleepController.step s.ds l with
  | some (ds, es) => some ({ s with ds }, es.map .ds)
  | none => none

/-- One step of the two. -/
inductive Label
  /-- The first section of `SetPowerState`, which looks at the deep sleep controller. -/
  | request (newState : PowerState) (now : Time) (errorCode : ErrorCode)
  /-- Another step of the implementation. -/
  | pm (l : PowerManager.Label)
  /-- A step of an activation, in the worker pool. -/
  | ds (l : DeepSleepController.Label)

end Plugin

open Plugin in
/-- The implementation with its deep sleep controller as a machine. -/
def plugin : Machine Plugin Plugin.Label Plugin.Event where
  step s
    | .request newState now errorCode =>
      s.stepImplementation (.request newState ⟨s.ds.isDeepSleepInProgress, s.ds.elapsed now⟩)
        errorCode
    | .pm l =>
      match l with
      | .request .. => none
      | l => s.stepImplementation l .errorNone
    | .ds l =>
      match l with
      | .activate .. | .deactivate _ => none
      | l => s.stepDeepSleep l

namespace Plugin

/-- Both after construction. -/
def initial (powerController : PowerController) (nextTransactionId : ℤ) (nextClientId : UInt32) :
    Plugin where
  pm := .initial powerController nextTransactionId nextClientId
  ds := .initial
  deactivated := 0

end Plugin

namespace DeepSleepController

variable {ds ds' : DeepSleepController} {es : List Event} {l : Label} {bound : ℕ}

/-! ## Activations that count -/

/-- The activation may still lead to a platform call. -/
@[simp]
def Phase.Unfinished : Phase → Prop
  | .queued _ _ => True
  | p => p.Entering

/-- An activation from `bound` on may still lead to a platform call. -/
def Fresh (bound : ℕ) (ds : DeepSleepController) : Prop :=
  ∃ id ≥ bound, (ds.phase id).Unfinished

/-- What is on its way to a platform result is unfinished. -/
theorem Phase.Entering.unfinished {p : Phase} (h : p.Entering) : p.Unfinished := by
  cases p <;> simp_all

/-- Only `Activate` adds an unfinished activation. -/
theorem unfinished_step (hl : ∀ t nw, l ≠ .activate t nw)
    (h : deepSleepController.step ds l = some (ds', es)) (j : ℕ)
    (hj : (ds'.phase j).Unfinished) : (ds.phase j).Unfinished := by
  cases step_cases h with
  -- every other step moves an activation on, or ends it
  | activated => exact absurd rfl (hl _ _)
  | refused hp => exact of_setPhase hj (by simp)
  | admitted hp => exact of_setPhase hj (by simp [hp])
  | dispatched hp => exact of_setPhase hj (by simp [hp])
  | aborted _ hp => exact of_setPhase hj (by simp)
  | waited hp => exact of_setPhase hj fun _ => hp.unfinished
  | started hp => exact of_setPhase hj (by simp [hp])
  | retried hp => exact of_setPhase hj (by simp [hp])
  | reported hp => exact of_setPhase hj (by simp)
  | returned hp => exact of_setPhase hj (by simp)
  | deactivated hphase =>
    rcases hphase j with hsame | hover
    · exact hsame ▸ hj
    · simp [hover] at hj

/-- After `Deactivate` no unfinished activation counts. -/
theorem not_fresh_deactivate {errorCode : ErrorCode} (hunused : ∀ id ≥ ds.nextId, ds.phase id = .over)
    (h : deepSleepController.step ds (.deactivate errorCode) = some (ds', es)) :
    ¬Fresh ds.nextId ds' := by
  rintro ⟨id, hid, hfresh⟩
  have hold := unfinished_step (by simp) h id hfresh
  simp [hunused id hid] at hold

end DeepSleepController

namespace Plugin

open DeepSleepController (Fresh)

variable {s s' : Plugin} {es : List Event} {l : Label}

/-! ## The calls between the components -/

/-- What the history variable says of the deep sleep controller. -/
structure Tracked (s : Plugin) : Prop where
  /-- The activations before the last `Deactivate` are stopped. -/
  stopped : s.ds.Stopped s.deactivated
  /-- Numbers that have not been given to an activation are unused. -/
  unused : ∀ id ≥ s.ds.nextId, s.ds.phase id = .over

/-- After a call of the implementation, an activation since the last `Deactivate` is the one that
was just requested, or one that was there before and has not been deactivated. -/
theorem onEvent_spec (hT : s.Tracked) (errorCode : ErrorCode) (e : PowerManager.Event) :
    (s.onEvent errorCode e).1.Tracked ∧ (s.onEvent errorCode e).1.pm = s.pm ∧
      (Fresh (s.onEvent errorCode e).1.deactivated (s.onEvent errorCode e).1.ds →
        e.effect? = some .activate ∨
          Fresh s.deactivated s.ds ∧ e.effect? ≠ some .deactivate) := by
  cases e with
  | activate timeOut nw =>
    have hstep : deepSleepController.step s.ds (.activate timeOut nw) = some (_, _) := rfl
    exact ⟨⟨DeepSleepController.stopped_step (l := .activate timeOut nw) hT.stopped trivial hstep,
      (DeepSleepController.over_step hT.unused hstep).2⟩, rfl, fun _ => .inl rfl⟩
  | deactivate =>
    have hstep : deepSleepController.step s.ds (.deactivate errorCode) = some (_, _) := rfl
    exact ⟨⟨DeepSleepController.stopped_deactivate hstep,
      (DeepSleepController.over_step hT.unused hstep).2⟩, rfl,
      fun h => absurd h (DeepSleepController.not_fresh_deactivate hT.unused hstep)⟩
  | _ => exact ⟨hT, rfl, fun h => .inr ⟨h, by simp [PowerManager.Event.effect?]⟩⟩

/-- The same for the calls of a whole step. -/
theorem onEvents_spec (hT : s.Tracked) (errorCode : ErrorCode) (es : List PowerManager.Event) :
    (s.onEvents errorCode es).1.Tracked ∧ (s.onEvents errorCode es).1.pm = s.pm ∧
      (Fresh (s.onEvents errorCode es).1.deactivated (s.onEvents errorCode es).1.ds →
        .activate ∈ effects es ∨ Fresh s.deactivated s.ds ∧ .deactivate ∉ effects es) := by
  induction es generalizing s with
  | nil => exact ⟨hT, rfl, fun h => .inr ⟨h, by simp⟩⟩
  | cons e es ih =>
    -- the last of `Activate` and `Deactivate` decides
    obtain ⟨hT₁, hpm₁, hfresh₁⟩ := onEvent_spec hT errorCode e
    obtain ⟨hT₂, hpm₂, hfresh₂⟩ := ih hT₁
    refine ⟨hT₂, hpm₂.trans hpm₁, fun h => ?_⟩
    rcases hfresh₂ h with hact | ⟨hfresh, hdeact⟩
    · exact .inl (by simp [hact])
    · rcases hfresh₁ hfresh with hact | ⟨hfresh, hdeact'⟩
      · exact .inl (by simp [hact])
      · exact .inr ⟨hfresh, by simpa [hdeact] using hdeact'⟩

/-- What a call of the implementation does outwards. -/
theorem onEvent_snd (errorCode : ErrorCode) (e : PowerManager.Event) :
    (s.onEvent errorCode e).2 = .pm e ::
      match e with
      | .activate _ _ => [.ds (.returned .errorNone)]
      | .deactivate => [.ds .deepSleepWakeup, .ds (.returned errorCode)]
      | _ => [] := by
  cases e <;> rfl

/-- A call of the implementation puts nothing to sleep. -/
theorem setDeepSleep_notMem_onEvent (errorCode : ErrorCode) (e : PowerManager.Event) (id : ℕ)
    (timeout : UInt32) (nw : Bool) :
    .ds (.setDeepSleep id timeout nw) ∉ (s.onEvent errorCode e).2 := by
  rw [onEvent_snd]
  cases e <;> simp

/-- The calls of a whole step put nothing to sleep. -/
theorem setDeepSleep_notMem_onEvents (errorCode : ErrorCode) (es : List PowerManager.Event) (id : ℕ)
    (timeout : UInt32) (nw : Bool) :
    .ds (.setDeepSleep id timeout nw) ∉ (s.onEvents errorCode es).2 := by
  induction es generalizing s with
  | nil => simp [onEvents]
  | cons e es ih =>
    rw [onEvents, List.mem_append, not_or]
    exact ⟨setDeepSleep_notMem_onEvent errorCode e id timeout nw, ih⟩

/-! ## The agreement -/

/-- A request that installs a transition out of DEEP_SLEEP has read DEEP_SLEEP. -/
def ReadsDeepSleep (pm : Implementation) (l : PowerManager.Label) : Prop :=
  pm.powerState = .standbyDeepSleep → pm.ReadIsCurrent l

instance (pm : Implementation) (l : PowerManager.Label) : Decidable (ReadsDeepSleep pm l) :=
  inferInstanceAs (Decidable (_ → _))

/-- The step keeps the components in agreement. -/
def KeepsAgreement (s : Plugin) (l : Label) : Prop :=
  match l with
  | .request .. => True
  | .pm l => ReadsDeepSleep s.pm l
  | .ds l => s.ds.AdmitsSafely s.deactivated l

instance (s : Plugin) (l : Label) : Decidable (KeepsAgreement s l) := by
  unfold KeepsAgreement
  split <;> infer_instance

/-- While an activation since the last `Deactivate` is unfinished, the device is asleep. -/
structure Agreed (s : Plugin) : Prop where
  inv : Implementation.refinement.Inv s.pm
  tracked : s.Tracked
  asleep : Fresh s.deactivated s.ds → s.pm.transition.Asleep

/-- The components agree in the beginning. -/
theorem agreed_initial (pc : PowerController) (transactionId : ℤ) (clientId : UInt32) :
    (initial pc transactionId clientId).Agreed where
  inv := Implementation.refinement_initial pc transactionId clientId
  tracked := ⟨fun _ h => absurd h (Nat.not_lt_zero _), fun _ _ => rfl⟩
  asleep := fun ⟨_, _, h⟩ => h.elim

/-- A step of the implementation keeps the agreement, and puts nothing to sleep. -/
theorem agreed_stepImplementation {l : PowerManager.Label} {errorCode : ErrorCode} (hA : s.Agreed)
    (hl : ReadsDeepSleep s.pm l) (h : s.stepImplementation l errorCode = some (s', es)) :
    s'.Agreed ∧ ∀ id timeout nw, .ds (.setDeepSleep id timeout nw) ∉ es := by
  unfold stepImplementation at h
  split at h
  · rename_i pm pes hstep
    obtain ⟨st, hmatch, habs⟩ := Implementation.step_refines hA.inv.1 hstep
    obtain ⟨hT, hpm, hfresh⟩ :=
      @onEvents_spec { s with pm } ⟨hA.tracked.stopped, hA.tracked.unused⟩ errorCode pes
    have hnone := setDeepSleep_notMem_onEvents (s := { s with pm }) errorCode pes
    rw [Option.some.inj h] at hT hpm hfresh hnone
    refine ⟨⟨?_, hT, fun hf => ?_⟩, hnone⟩
    · rw [hpm]
      exact Implementation.refinement.inv_step hA.inv hstep
    · rw [hpm]
      rcases hfresh hf with hact | ⟨hf', hdeact⟩
      · exact Transition.asleep_of_activate hA.inv.2 habs hact
      · have hasleep := hA.asleep hf'
        have hcurrent :=
          Implementation.current_of_readIsCurrent hA.inv.1 (hl hasleep.powerState) hmatch
        exact (Transition.asleep_step hA.inv.2 hasleep hcurrent habs).resolve_right hdeact
  · cases h

/-- A step of an activation keeps the agreement if it admits safely, and puts the SoC to sleep only
in DEEP_SLEEP. -/
theorem agreed_stepDeepSleep {l : DeepSleepController.Label} (hA : s.Agreed)
    (hl : s.ds.AdmitsSafely s.deactivated l) (hnew : ∀ t nw, l ≠ .activate t nw)
    (h : s.stepDeepSleep l = some (s', es)) :
    s'.Agreed ∧ ∀ id timeout nw, .ds (.setDeepSleep id timeout nw) ∈ es →
      s.pm.powerState = .standbyDeepSleep := by
  unfold stepDeepSleep at h
  split at h
  · rename_i ds des hstep
    obtain ⟨rfl, rfl⟩ : { s with ds } = s' ∧ des.map Event.ds = es := by simpa using h
    refine ⟨⟨hA.inv, ⟨DeepSleepController.stopped_step hA.tracked.stopped hl hstep,
      (DeepSleepController.over_step hA.tracked.unused hstep).2⟩, ?_⟩, ?_⟩
    · rintro ⟨id, hid, hfresh⟩
      -- an unfinished activation was unfinished before, and so the device is asleep
      exact hA.asleep ⟨id, hid, DeepSleepController.unfinished_step hnew hstep id hfresh⟩
    · intro id timeout nw he
      obtain ⟨hentering, hid⟩ := DeepSleepController.setDeepSleep_step hA.tracked.stopped hstep
        (show .setDeepSleep id timeout nw ∈ des by simpa using he)
      exact (hA.asleep ⟨id, hid, hentering.unfinished⟩).powerState
  · cases h

/-- The label `pm` stands for a step of the implementation, without the answer of
`DeepSleepWakeup`. -/
theorem stepImplementation_of_step {l : PowerManager.Label}
    (h : plugin.step s (.pm l) = some (s', es)) :
    s.stepImplementation l .errorNone = some (s', es) := by
  cases l with
  | request n ds => cases h
  | _ => exact h

/-- Every step that keeps the agreement puts the SoC to sleep only in DEEP_SLEEP. -/
theorem agreed_step (hA : s.Agreed) (hl : s.KeepsAgreement l)
    (h : plugin.step s l = some (s', es)) :
    s'.Agreed ∧ ∀ id timeout nw, .ds (.setDeepSleep id timeout nw) ∈ es →
      s.pm.powerState = .standbyDeepSleep := by
  cases l with
  | request n now errorCode =>
    have hreads : ReadsDeepSleep s.pm
        (.request n ⟨s.ds.isDeepSleepInProgress, s.ds.elapsed now⟩) := fun _ => trivial
    obtain ⟨hA', hnone⟩ := agreed_stepImplementation hA hreads h
    exact ⟨hA', fun id timeout nw he => absurd he (hnone id timeout nw)⟩
  | pm l =>
    obtain ⟨hA', hnone⟩ := agreed_stepImplementation hA hl (stepImplementation_of_step h)
    exact ⟨hA', fun id timeout nw he => absurd he (hnone id timeout nw)⟩
  | ds l =>
    have hadmits : s.ds.AdmitsSafely s.deactivated l := hl
    cases l with
    | activate => cases h
    | deactivate => cases h
    | _ => exact agreed_stepDeepSleep hA hadmits (by simp) h

/-- The SoC is put to sleep only in the power state DEEP_SLEEP, in every run whose steps keep the
agreement. -/
theorem setDeepSleep_only_in_deepSleep {pc : PowerController} {transactionId : ℤ}
    {clientId : UInt32} {ls : List Label} {os : List Event} {id : ℕ} {timeout : UInt32} {nw : Bool}
    (hrun : plugin.Run (initial pc transactionId clientId) ls os s)
    (hC : plugin.Along KeepsAgreement (initial pc transactionId clientId) (ls ++ [l]))
    (hstep : plugin.step s l = some (s', es)) (he : .ds (.setDeepSleep id timeout nw) ∈ es) :
    s.pm.powerState = .standbyDeepSleep := by
  have hA : s.Agreed := hrun.invariant_along hC.left (agreed_initial pc transactionId clientId)
    fun _ _ _ _ hA hl hs => (agreed_step hA hl hs).1
  exact (agreed_step hA (hC.last hrun) hstep).2 id timeout nw he

/-- The device goes to DEEP_SLEEP, and the SoC is put to sleep. -/
theorem setDeepSleep_in_deepSleep :
    ∃ os s s' es, plugin.Run (initial .isOn 0 0)
        [.request .standbyDeepSleep 0 .errorNone, .pm (.create .accepts), .pm (.schedule .accepts),
          .ds (.performActivate 0 .plain), .ds (.endWait 0)] os s ∧
      plugin.step s (.ds (.setDeepSleep 0)) = some (s', es) ∧
      s.pm.powerState = .standbyDeepSleep := by
  have hrun : plugin.Run (initial .isOn 0 0)
      [.request .standbyDeepSleep 0 .errorNone, .pm (.create .accepts), .pm (.schedule .accepts),
        .ds (.performActivate 0 .plain), .ds (.endWait 0)] _ _ := Machine.run_of_exec rfl
  refine ⟨_, _, _, _, hrun, rfl, ?_⟩
  refine @setDeepSleep_only_in_deepSleep _ _ _ (.ds (.setDeepSleep 0)) _ _ _ _ _ 0 _ false hrun
    (Machine.along_of_check ?_) rfl (List.mem_singleton.mpr rfl)
  decide

/-- The device has left DEEP_SLEEP before the worker pool runs the job of the activation, which then
puts the SoC to sleep although the device is on. -/
theorem setDeepSleep_while_on :
    ∃ os s s' es, plugin.Run (initial .isOn 0 0)
        [.request .standbyDeepSleep 0 .errorNone, .pm (.create .accepts), .pm (.schedule .accepts),
          .request .on 0 .errorNone, .pm (.create .accepts), .pm (.schedule .accepts),
          .ds (.performActivate 0 .plain), .ds (.endWait 0)] os s ∧
      plugin.step s (.ds (.setDeepSleep 0)) = some (s', es) ∧
      (∃ timeout nw, .ds (.setDeepSleep 0 timeout nw) ∈ es) ∧ s.pm.powerState = .on := by
  have hrun : plugin.Run (initial .isOn 0 0)
      [.request .standbyDeepSleep 0 .errorNone, .pm (.create .accepts), .pm (.schedule .accepts),
        .request .on 0 .errorNone, .pm (.create .accepts), .pm (.schedule .accepts),
        .ds (.performActivate 0 .plain), .ds (.endWait 0)] _ _ := Machine.run_of_exec rfl
  refine ⟨_, _, _, _, hrun, rfl, ⟨_, _, List.mem_singleton.mpr rfl⟩, rfl⟩

end Plugin

end PowerManager
