import PowerManager.Client.Api

/-!
# Unregistering callbacks from the client library

The functions of the C API that unregister a callback trust the flag `initialized`: if it is not set
they take it that there is no object, and so no callback, and return `ERROR_NONE`. But `Instance`,
which creates the object for the other functions, does not set the flag.

## Main results

* `unregistering_iff`: the flag is right about the object in every state of a run, and callbacks are
  unregistered when the library says so, exactly if `PowerController_Connect`, the requests and the
  functions that register a callback are called only while there is an object;
* `not_unregistered`: a callback that is registered before `PowerController_Init` cannot be
  unregistered.
-/

namespace PowerManager.Client

variable {F U : Type} {s s' : Library F U} {l : ApiLabel F U} {ls : List (ApiLabel F U)}
  {os : List (Output F U)} {k : Kind} {f : F}

/-- The flag is set exactly if there is an object. -/
def FlagRight (s : Library F U) : Prop := s.initialized = true ↔ s.object.isSome = true

instance (s : Library F U) : Decidable (FlagRight s) := by
  unfold FlagRight
  infer_instance

/-- No object is created behind the back of the flag. -/
def NotBehind (s : Library F U) (l : ApiLabel F U) : Prop :=
  l.creates = true → s.object.isSome = true

instance (s : Library F U) (l : ApiLabel F U) : Decidable (NotBehind s l) := by
  unfold NotBehind
  infer_instance

/-- Whenever a callback is said to be unregistered, it is in no list of its kind and is not called
until it is registered again. -/
def Unregistering [DecidableEq F] (ls : List (ApiLabel F U)) : Prop :=
  ∀ pre new k f answers mid post os₀ os₁ os₂ s₀ s₁ s₂,
    ls = pre ++ .unRegister new k (some f) answers :: (mid ++ post) →
    api.Run .initial pre os₀ s₀ →
    api.step s₀ (.unRegister new k (some f) answers) = some (s₁, os₁) →
    .returned .errorNone ∈ os₁ → (∀ l ∈ mid, ¬l.Registers k f) → api.Run s₁ mid os₂ s₂ →
      f ∉ s₂.identifiers k ∧
        ∀ cb args, .invoked cb args ∈ events os₂ → args.kind = k → cb.callback ≠ f

/-! ## The flag -/

/-- A step keeps the flag right exactly if it does not create an object behind its back. -/
theorem StepSpec.flagRight_iff (h : StepSpec s l s' os) (hs : FlagRight s) :
    FlagRight s' ↔ NotBehind s l := by
  unfold FlagRight NotBehind at *
  rw [h.initialized, h.object]
  cases hset : s.initialized <;> cases hobject : s.object.isSome <;> cases l <;>
    simp_all [ApiLabel.isInit, ApiLabel.isTerm, ApiLabel.creates, ApiLabel.asksFlag]

theorem flagRight_initial : FlagRight (.initial : Library F U) :=
  iff_of_false Bool.noConfusion Bool.noConfusion

variable [DecidableEq F]

/-- The flag is right throughout a run exactly if no step creates an object behind its back. -/
theorem throughout_flagRight_iff (h : api.Run .initial ls os s) :
    api.Throughout FlagRight .initial ls ↔ api.Along NotBehind .initial ls := by
  constructor
  · rintro hright pre l post os' t rfl hpre
    obtain ⟨u, os'', hstep, hrun⟩ := h.step_at hpre
    -- the flag is right on both sides of every step
    have ht := hright pre (l :: post) os' t rfl hpre
    refine ((step_spec hstep).flagRight_iff ht).mp ?_
    exact hright (pre ++ [l]) post _ u (by simp) hrun
  · rintro halong pre post os' t rfl hpre
    exact hpre.invariant_along halong.left flagRight_initial
      fun t l u os ht hl hstep => ((step_spec hstep).flagRight_iff ht).mpr hl

/-! ## Callbacks that are not registered -/

omit [DecidableEq F] in
/-- Without an object there are no callbacks. -/
theorem identifiers_of_none (h : s.object = none) : s.identifiers k = [] := by
  unfold Library.identifiers Library.controller
  rw [h]
  rfl

/-- If the flag is right, a callback is in no list of its kind once it has been unregistered. -/
theorem not_mem_of_unRegister {new : Opening} {answers : Answers} (hs : FlagRight s)
    (hstep : api.step s (.unRegister new k (some f) answers) = some (s', os)) :
    f ∉ s'.identifiers k := by
  rw [(step_spec hstep).identifiers k f]
  rintro (⟨hmem, -, hun⟩ | hreg)
  · by_cases hset : s.initialized = true
    · exact hun ⟨hset, rfl, rfl⟩
    · -- if the library only says so, there is no object and nothing to unregister
      have hnone : s.object = none := Option.not_isSome_iff_eq_none.mp (mt hs.mpr hset)
      rw [identifiers_of_none hnone] at hmem
      exact absurd hmem List.not_mem_nil
  · exact hreg

/-- A callback that is in no list stays out of the lists and is not called until it is registered.
-/
theorem not_mem_run (hf : f ∉ s.identifiers k) (hls : ∀ l ∈ ls, ¬l.Registers k f)
    (h : api.Run s ls os s') :
    f ∉ s'.identifiers k ∧
      ∀ cb args, .invoked cb args ∈ events os → args.kind = k → cb.callback ≠ f := by
  induction h with
  | nil => exact ⟨hf, fun _ _ he => absurd he List.not_mem_nil⟩
  | @snoc t u ls os os' l _ hstep ih =>
    obtain ⟨hmem, hcalled⟩ := ih fun l hl => hls l (List.mem_append_left _ hl)
    have hspec := step_spec hstep
    refine ⟨fun hin => ?_, fun cb args he hk => ?_⟩
    · rcases (hspec.identifiers k f).mp hin with ⟨hin, -⟩ | hreg
      · exact hmem hin
      · exact hls l (by simp) hreg
    · rw [events_append] at he
      rcases List.mem_append.mp he with he | he
      · exact hcalled cb args he hk
      · rintro rfl
        exact hmem (hk ▸ hspec.invoked cb args he)

/-- The flag is right throughout, and callbacks are unregistered when the library says so, exactly
if no object is created behind the back of the flag. -/
theorem unregistering_iff (h : api.Run .initial ls os s) :
    api.Throughout FlagRight .initial ls ∧ Unregistering ls ↔ api.Along NotBehind .initial ls := by
  rw [throughout_flagRight_iff h]
  refine ⟨And.left, fun halong => ⟨halong, ?_⟩⟩
  rintro pre new k f answers mid post os₀ os₁ os₂ s₀ s₁ s₂ rfl hpre hstep - hmid hrun
  have hs := (throughout_flagRight_iff h).mpr halong pre _ os₀ s₀ rfl hpre
  exact not_mem_run (not_mem_of_unRegister hs hstep) hmid hrun

/-- A channel that is opened while the plugin is active, and every call to the plugin succeeds. -/
def Opening.succeeds : Opening :=
  ⟨[⟨true, true, fun _ _ => .errorNone⟩], some .errorNone, fun _ => 42⟩

/-- A callback is registered after `PowerController_Init`, called, unregistered and not called. -/
theorem unregistering_of_init :
    Unregistering (F := ℕ) (U := ℕ)
      [.init .succeeds, .register .succeeds .rebootBegin (some 1) 0 fun _ _ => .errorNone,
        .notification (.onRebootBegin "" "" ""),
        .unRegister .succeeds .rebootBegin (some 1) fun _ _ => .errorNone,
        .notification (.onRebootBegin "" "" "")] := by
  obtain ⟨os, s, hrun, -⟩ : ∃ os s, api.Run (.initial : Library ℕ ℕ)
      [.init .succeeds, .register .succeeds .rebootBegin (some 1) 0 fun _ _ => .errorNone,
        .notification (.onRebootBegin "" "" ""),
        .unRegister .succeeds .rebootBegin (some 1) fun _ _ => .errorNone,
        .notification (.onRebootBegin "" "" "")] os s ∧
      .event (.invoked ⟨1, 0⟩ (.rebootBegin "" "" "")) ∈ os :=
    Machine.exists_outputs_of_exec (by decide +kernel)
  exact ((unregistering_iff hrun).mpr (Machine.along_of_check (by decide +kernel))).2

/-- A callback that is registered before `PowerController_Init` creates the object behind the back
of the flag. It is not unregistered, neither here nor from the plugin, although the library says so,
and it is still called. -/
theorem not_unregistered :
    (∃ os s, api.Run (.initial : Library ℕ ℕ)
      [.register .succeeds .rebootBegin (some 1) 0 fun _ _ => .errorNone,
        .unRegister .succeeds .rebootBegin (some 1) fun _ _ => .errorNone,
        .notification (.onRebootBegin "" "" "")] os s ∧
      os = [.event .established, .event (.remote ⟨.register, .reboot, true, .errorNone⟩),
        .returned .errorNone, .returned .errorNone,
        .event (.invoked ⟨1, 0⟩ (.rebootBegin "" "" ""))] ∧ ¬FlagRight s) ∧
      ¬Unregistering (F := ℕ) (U := ℕ)
        [.register .succeeds .rebootBegin (some 1) 0 fun _ _ => .errorNone,
          .unRegister .succeeds .rebootBegin (some 1) fun _ _ => .errorNone,
          .notification (.onRebootBegin "" "" "")] := by
  refine ⟨Machine.exists_outputs_of_exec (by decide +kernel), fun h => ?_⟩
  have hgone := h [_] _ _ _ _ [_] [] _ _ _ _ _ _ rfl (Machine.run_of_exec rfl) rfl (.head _)
    (fun l hl => List.mem_singleton.mp hl ▸ id) (Machine.run_of_exec rfl)
  exact hgone.2 ⟨1, 0⟩ _ (.head _) rfl rfl

end PowerManager.Client
