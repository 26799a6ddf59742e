import PowerManager.Implementation.Acknowledgements
import PowerManager.Progress

/-!
# Transitions come to an end

No client has to do anything for a transition to end. Some steps are the plugin's own: the sections
of the `SetPowerState` call that is under way, and the dispatch of the acknowledgement timer. At
most four of them can be taken one after the other, and there is one to take until the plugin is at
rest: then no call is under way, `selfLock` is free, every completion handler has been called, and
every reference that was taken for one has been released.

A client that delays a transition only puts off the dispatch of the timer: `DelayPowerModeChangeBy`
is a step of the client.
-/

namespace PowerManager

/-- The steps that nobody outside the plugin takes. -/
def Label.IsOwn : Label → Prop
  | .create _ | .schedule _ | .timer _ => True
  | _ => False

/-- The work that is left of a call: it may install a controller, schedule it, and so leave it
running. -/
def Call.work : Call → ℕ
  | .idle => 0
  | .checked .. => 3
  | .created .. => 2

namespace Implementation

/-- The work that is left of the call and of the transition that is under way. -/
def work (pm : Implementation) : ℕ :=
  pm.call.work + if pm.modeChangeController.any (·.running) then 1 else 0

variable {pm pm' : Implementation} {es os : List Event} {l : Label} {ls : List Label}
  {pc : PowerController} {tid : ℤ} {cid : UInt32}

theorem work_eq {c : AckController CompletionHandler} (hc : pm.modeChangeController = some c) :
    pm.work = pm.call.work + if c.running then 1 else 0 := by
  simp [work, hc]

/-- No work is left exactly if no call is under way and no completion handler outstanding. -/
theorem work_eq_zero (hwork : pm.work = 0) : pm.call = .idle ∧ ¬pm.Outstanding := by
  unfold work at hwork
  have hcall : pm.call = .idle := by
    cases hcall : pm.call <;> simp [hcall, Call.work] at hwork ⊢
  refine ⟨hcall, ?_⟩
  rintro (⟨c, hc, hrun⟩ | ⟨n, s, b, t, hcreated⟩)
  · simp [hc, hrun] at hwork
  · rw [hcall] at hcreated
    cases hcreated

/-- The timer job that the pool holds stops the controller. -/
theorem running_of_dispatch {c c' : AckController CompletionHandler} (hw : c.WellFormed)
    {calls : List (HandlerCall CompletionHandler)}
    (h : c.applyOp .dispatchTimer = some (c', calls)) : c.running = true ∧ c'.running = false := by
  simp only [AckController.applyOp] at h
  split at h
  · rename_i hsch
    obtain ⟨hdl, hrun, -, heq⟩ := hw.dispatchTimer_eq hsch
    rw [heq] at h
    cases h
    exact ⟨hrun, rfl⟩
  · cases h

/-- Every step of the plugin's own does some of the work. -/
theorem work_step (hI : pm.Inv) (hl : l.IsOwn) (h : implementation.step pm l = some (pm', es)) :
    pm'.work < pm.work := by
  cases step_cases hI h with
  | ignored | checked => cases hl
  | dropped hcall hdrop =>
    simp only [work, hcall, Call.work]
    omega
  | installed hcall =>
    simp only [work, hcall, Call.work, AckController.create, Option.any_some, Bool.false_eq_true,
      if_false]
    omega
  | scheduled hcall =>
    simp only [work, hcall, Call.work, Option.any_some, if_true]
    omega
  | @completed env n s b t c hcall hc hwait =>
    obtain ⟨⟨c', hc', hstop, -⟩, -⟩ := hI.created n s b t hcall
    obtain ⟨pc', hpm⟩ := pm.completionHandler_fst env ⟨s, n, b⟩ false
    simp [work, hpm, hcall, hc', hstop, Call.work]
  | @waited l op c c' clients answer hop hc happ hrun =>
    cases l with
    | timer env =>
      cases hop
      obtain ⟨hrunning, hstopped⟩ := running_of_dispatch (hI.wellFormed c hc) happ
      simp [hrunning, hstopped] at hrun
    | create env | schedule env => cases hop
    | _ => cases hl
  | @fired l env op c c' hdl isTimedout clients answer hop hc happ hrun hh hrun' =>
    obtain ⟨pc', hpm⟩ := completionHandler_fst
      { pm with modeChangeController := some c', modeChangeClients := clients } env hdl isTimedout
    simp [work, hpm, hc, hrun, hrun']
  | @other l clients id answer hset hop =>
    cases l with
    | timer env =>
      -- the pool does not hold the job of a controller that does not exist
      have hnone : pm.modeChangeController = none := hop.resolve_left (by simp [op?])
      simp [implementation, hnone] at h
    | create env | schedule env => cases hset
    | _ => cases hl

/-- While there is work, the plugin can go on. -/
theorem exists_own_step (hI : pm.Inv) (hwork : pm.work ≠ 0) :
    ∃ l pm' es, l.IsOwn ∧ implementation.step pm l = some (pm', es) := by
  cases hcall : pm.call with
  | checked n s b =>
    exact ⟨.create .accepts, _, _, trivial, by simp only [implementation, hcall]; rfl⟩
  | created n s b t =>
    obtain ⟨⟨c, hc, -⟩, -⟩ := hI.created n s b t hcall
    exact ⟨.schedule .accepts, _, _, trivial, by simp only [implementation, hcall, hc]; rfl⟩
  | idle =>
    cases hc : pm.modeChangeController with
    | none => simp [work, hcall, hc, Call.work] at hwork
    | some c =>
      have hrun : c.running = true := by
        by_contra hstop
        simp [work_eq hc, hcall, hstop, Call.work] at hwork
      have hsch := (hI.wellFormed c hc).scheduled_running hrun
      have hstep : implementation.step pm (.timer .accepts) =
          some (pm.dispatchTimer .accepts c) := by
        simp [implementation, hc, hsch]
      exact ⟨.timer .accepts, _, _, trivial, hstep⟩

/-- The plugin gets through its work. -/
theorem progress : implementation.Progress Inv Label.IsOwn work where
  inv_step hI _ h := inv_step hI h
  work_lt := work_step
  exists_step := exists_own_step

theorem work_le (pm : Implementation) : pm.work ≤ 4 := by
  unfold work
  cases pm.call <;> simp only [Call.work] <;> split <;> omega

/-- From every reachable state the plugin takes at most four steps of its own, in whatever order,
and can take another one until it is at rest. -/
theorem comes_to_rest {ls' : List Label} {os' : List Event}
    (h : implementation.Run (initial pc tid cid) ls os pm) (hown : ∀ l ∈ ls', l.IsOwn)
    (h' : implementation.Run pm ls' os' pm') :
    ls'.length ≤ 4 ∧
      ((∃ l pm'' es, l.IsOwn ∧ implementation.step pm' l = some (pm'', es)) ∨
        pm'.call = .idle ∧ pm'.selfLock = true ∧ ¬pm'.Outstanding ∧
          (os ++ os').count .addRef = (os ++ os').count .release) := by
  have hI : pm.Inv := h.invariant (inv_initial pc tid cid) fun _ _ _ _ hI hstep => inv_step hI hstep
  obtain ⟨hI', hlength⟩ := progress.length_add_le hI hown h'
  have hle := pm.work_le
  refine ⟨by omega, ?_⟩
  by_cases hwork : pm'.work = 0
  · obtain ⟨hidle, hnone⟩ := work_eq_zero hwork
    have hcount := references_run (inv_initial pc tid cid) (by simp [Outstanding, initial])
      (h.trans h')
    rw [if_neg hnone, Nat.add_zero] at hcount
    exact .inr ⟨hidle, hI'.selfLock.mpr hidle, hnone, hcount⟩
  · exact .inl (progress.exists_step hI' hwork)

/-- The only client does not acknowledge, and the timer completes the transition. -/
theorem comes_to_rest_of_silence :
    ∃ os os' pm pm', implementation.Run (initial .isOn 0 0) [.addPowerModePreChangeClient "silent",
        .request .standby .awake, .create .accepts] os pm ∧
      implementation.Run pm [.schedule .accepts, .timer .accepts] os' pm' ∧ 2 ≤ 4 ∧
      ((∃ l pm'' es, l.IsOwn ∧ implementation.step pm' l = some (pm'', es)) ∨
        pm'.call = .idle ∧ pm'.selfLock = true ∧ ¬pm'.Outstanding ∧
          (os ++ os').count .addRef = (os ++ os').count .release) := by
  have hall : implementation.Run (initial .isOn 0 0) ([.addPowerModePreChangeClient "silent",
      .request .standby .awake, .create .accepts] ++ [.schedule .accepts, .timer .accepts]) _ _ :=
    Machine.run_of_exec rfl
  obtain ⟨pm, os, os', -, h, h'⟩ := hall.split
  exact ⟨os, os', pm, _, h, h', comes_to_rest h (by simp [Label.IsOwn]) h'⟩

end Implementation

end PowerManager
