import PowerManager.Client.Unregistering

/-!
# Counting the users of the client library

The documentation of the C API says that `PowerController_Init` counts an instance up and
`PowerController_Term` counts it down, and that each `Init` is to be followed by one `Term`. But
there is no counter: the first `Term` destroys the object, with the callbacks of all users.

## Main results

* `counted_iff`: as long as there are more `Init`s than `Term`s, the object stays and every callback
  that was registered meanwhile is called, exactly if every `Term` is that of the last user;
* `not_counted`: the second of two users takes the callbacks of the first along.
-/

namespace PowerManager.Client

variable {F U : Type} {s s' : Library F U} {l : ApiLabel F U} {ls ls' : List (ApiLabel F U)}
  {os : List (Output F U)} {k : Kind} {f : F}

/-- The number of `Init`s without a `Term`. -/
def count (ls : List (ApiLabel F U)) : ℤ :=
  (ls.countP ApiLabel.isInit : ℤ) - ls.countP ApiLabel.isTerm

/-- There are never more `Term`s than `Init`s. -/
def Balanced (ls : List (ApiLabel F U)) : Prop := ∀ pre post, ls = pre ++ post → 0 ≤ count pre

/-- A callback was registered and not unregistered while there were more `Init`s than `Term`s all
the time. -/
def Live (k : Kind) (f : F) (ls : List (ApiLabel F U)) : Prop :=
  ∃ pre l post, ls = pre ++ l :: post ∧ l.Registers k f ∧ (∀ l' ∈ post, ¬l'.Unregisters k f) ∧
    ∀ mid rest, post = mid ++ rest → 0 < count (pre ++ l :: mid)

/-- The arguments of the C API for a notification of the plugin. -/
def arguments : Notification → Arguments
  | .onPowerModeChanged currentState newState =>
    .powerModeChanged (.named currentState) (.named newState)
  | .onPowerModePreChange currentState newState transactionId stateChangeAfter =>
    .powerModePreChanged (.named currentState) (.named newState) transactionId
      stateChangeAfter.toInt32.toInt
  | .onDeepSleepTimeout wakeupTimeout => .deepSleepTimeout wakeupTimeout.toInt32.toInt
  | .onNetworkStandbyModeChanged enabled => .networkStandbyModeChanged enabled
  | .onThermalModeChanged currentLevel newLevel currentTemperature =>
    .thermalModeChanged (.named currentLevel) (.named newLevel) currentTemperature
  | .onRebootBegin rebootReasonCustom rebootReasonOther rebootRequestor =>
    .rebootBegin rebootReasonCustom rebootReasonOther rebootRequestor

/-- What the callbacks for an event are to be called with. -/
def ApiLabel.arguments? : ApiLabel F U → Option Arguments
  | .operational o => some (.operationalStateChange o.upAndRunning)
  | .notification n => some (arguments n)
  | _ => none

/-- As long as there are more `Init`s than `Term`s, the object exists and is not destroyed, and the
callbacks that were registered meanwhile and not unregistered are in their lists and are called for
the events they are for. -/
def Counted [DecidableEq F] (ls : List (ApiLabel F U)) : Prop :=
  ∀ pre l post os s os' s', ls = pre ++ l :: post → api.Run .initial pre os s →
    api.step s l = some (s', os') →
      (0 < count (pre ++ [l]) → s'.object.isSome = true ∧ .destroyed ∉ events os' ∧
        ∀ k f, Live k f (pre ++ [l]) → f ∈ s'.identifiers k) ∧
      (0 < count pre → ∀ args, l.arguments? = some args → ∀ f, Live args.kind f pre →
        ∃ cb, cb.callback = f ∧ .invoked cb args ∈ events os')

/-- Every `Term` is that of the last user. -/
def TermsLast (ls : List (ApiLabel F U)) : Prop :=
  ∀ pre l post, ls = pre ++ l :: post → l.isTerm = true → count pre = 1

/-! ## Counting -/

@[simp] theorem count_nil : count ([] : List (ApiLabel F U)) = 0 := rfl

theorem count_append (ls ls' : List (ApiLabel F U)) : count (ls ++ ls') = count ls + count ls' := by
  simp only [count, List.countP_append]
  omega

theorem count_of_isTerm (h : l.isTerm = true) : count [l] = -1 := by
  cases l <;> first | rfl | cases h

theorem count_of_isInit (h : l.isInit = true) : count [l] = 1 := by
  cases l <;> first | rfl | cases h

theorem count_of_neither (h : l.isInit = false) (h' : l.isTerm = false) : count [l] = 0 := by
  cases l with
  | init o => cases h
  | term c => cases h'
  | _ => rfl

theorem Balanced.left (h : Balanced (ls ++ ls')) : Balanced ls :=
  fun pre post hls => h pre (post ++ ls') (by rw [hls, List.append_assoc])

theorem TermsLast.left (h : TermsLast (ls ++ ls')) : TermsLast ls :=
  fun pre l post hls => h pre l (post ++ ls') (by rw [hls, List.append_assoc, List.cons_append])

/-- A callback is live after a call that registers it, or if it was and is not unregistered. -/
theorem live_snoc (h : Live k f (ls ++ [l])) :
    0 < count (ls ++ [l]) ∧ (l.Registers k f ∨ Live k f ls ∧ ¬l.Unregisters k f) := by
  obtain ⟨pre, l', post, hls, hreg, hun, hcount⟩ := h
  have hpos := hcount post [] (List.append_nil post).symm
  rw [← hls] at hpos
  refine ⟨hpos, ?_⟩
  -- the registration is the last call, or lies before it
  rcases List.eq_nil_or_concat post with rfl | ⟨init, last, rfl⟩
  · obtain ⟨-, hl⟩ := List.append_inj' hls rfl
    cases hl
    exact .inl hreg
  · rw [List.concat_eq_append, ← List.cons_append, ← List.append_assoc] at hls
    obtain ⟨rfl, hl⟩ := List.append_inj' hls rfl
    obtain rfl : l = last := by simpa using hl
    refine .inr ⟨⟨pre, l', init, rfl, hreg, fun l₁ hl₁ => hun l₁ (by simp [hl₁]), ?_⟩,
      hun l (by simp)⟩
    exact fun mid rest hmid => hcount mid (rest ++ [l]) (by simp [hmid])

/-! ## Callbacks that are called -/

theorem PowerController.mem_notify {pc : PowerController F U} (args : Arguments)
    (h : f ∈ (pc.callbacks k).identifiers) :
    ∃ cb, cb.callback = f ∧ .invoked cb args ∈ pc.notify k args := by
  obtain ⟨cb, hcb, rfl⟩ := List.mem_map.mp h
  exact ⟨cb, rfl, List.mem_map_of_mem hcb⟩

/-- A notification of the plugin calls the callbacks of its kind. -/
theorem PowerController.onNotification_eq (pc : PowerController F U) (n : Notification) :
    pc.onNotification n = pc.notify (arguments n).kind (arguments n) := by
  cases n <;>
    simp only [onNotification, convert_powerState, convert_thermalTemperature, Value.meaning] <;>
    rfl

/-- An operational state calls the callbacks for it, unless the object is being destroyed. -/
theorem PowerController.invoked_operational {pc : PowerController F U} (o : Operational)
    (hshutdown : pc.shutdown = false)
    (h : f ∈ (pc.callbacks .operationalStateChange).identifiers) :
    ∃ cb, cb.callback = f ∧
      .invoked cb (.operationalStateChange o.upAndRunning) ∈ (pc.operational o).2 := by
  have hkeep := keepsCallbacks_operationalLocked pc o
  rw [← hkeep.identifiers] at h
  obtain ⟨cb, hcb, hmem⟩ := mem_notify (.operationalStateChange o.upAndRunning) h
  refine ⟨cb, hcb, List.mem_append_right _ ?_⟩
  rw [if_neg (by rw [hkeep.shutdown, hshutdown]; exact Bool.false_ne_true)]
  exact hmem

variable [DecidableEq F]

/-- An event calls the callbacks of its kind that are in the list. -/
theorem invoked_of_step {args : Arguments} (hstep : api.step s l = some (s', os))
    (hargs : l.arguments? = some args) (hshutdown : s.controller.shutdown = false)
    (hf : f ∈ s.identifiers args.kind) :
    ∃ cb, cb.callback = f ∧ .invoked cb args ∈ events os := by
  cases l with
  | operational o =>
    obtain ⟨pc, r, hpc, hr, rfl, rfl⟩ := Library.onObject_eq hstep
    cases hargs
    cases hr
    rw [Library.identifiers, Library.controller, hpc] at hf
    rw [Library.controller, hpc] at hshutdown
    rw [events_map]
    exact PowerController.invoked_operational o hshutdown hf
  | notification n =>
    obtain ⟨pc, r, hpc, hr, rfl, rfl⟩ := Library.onObject_eq hstep
    cases hargs
    cases hr
    rw [Library.identifiers, Library.controller, hpc] at hf
    rw [events_map, PowerController.onNotification_eq]
    exact PowerController.mem_notify _ hf
  | _ => cases hargs

/-! ## Runs in which every `Term` is the last -/

/-- The flag tells whether there are users, the object exists for them, and so do their callbacks.
-/
structure Served (ls : List (ApiLabel F U)) (s : Library F U) : Prop where
  initialized : s.initialized = true ↔ 0 < count ls
  object : s.initialized = true → s.object.isSome = true
  shutdown : s.controller.shutdown = false
  live : ∀ k f, Live k f ls → f ∈ s.identifiers k

omit [DecidableEq F] in
theorem served_initial : Served [] (.initial : Library F U) where
  initialized := iff_of_false Bool.noConfusion (Int.lt_irrefl 0)
  object := Bool.noConfusion
  shutdown := rfl
  live k f h := by
    obtain ⟨pre, l, post, hls, -⟩ := h
    simp at hls

/-- A step keeps the users served if it is not a `Term` of one of several users. -/
theorem Served.step (h : Served ls s) (hcount : 0 ≤ count ls)
    (hterm : l.isTerm = true → count ls = 1) (hstep : api.step s l = some (s', os)) :
    Served (ls ++ [l]) s' := by
  have hspec := step_spec hstep
  refine ⟨?_, ?_, hspec.shutdown h.shutdown, fun k f hlive => ?_⟩
  · -- the flag: an `Init` sets it and makes the count positive, the last `Term` takes both back
    rw [hspec.initialized, count_append]
    by_cases hi : l.isInit = true
    · rw [hi, count_of_isInit hi]
      exact iff_of_true rfl (by omega)
    by_cases ht : l.isTerm = true
    · rw [Bool.eq_false_iff.mpr hi, ht, count_of_isTerm ht, hterm ht]
      exact iff_of_false Bool.noConfusion (by omega)
    · rw [Bool.eq_false_iff.mpr hi, Bool.eq_false_iff.mpr ht,
        count_of_neither (Bool.eq_false_iff.mpr hi) (Bool.eq_false_iff.mpr ht), Int.add_zero]
      exact h.initialized
  · -- the object: only a `Term` could take it away, and that clears the flag
    rw [hspec.initialized, hspec.object]
    cases hi : l.isInit with
    | true => exact fun _ => rfl
    | false =>
      intro hset
      obtain ⟨ht, hset⟩ := (Bool.and_eq_true _ _).mp hset
      rw [ht, h.object hset]
      simp
  · -- the callbacks: a live one has just been registered, or was live and stays
    obtain ⟨hpos, hcases⟩ := live_snoc hlive
    rw [hspec.identifiers k f]
    rcases hcases with hreg | ⟨hlive, hun⟩
    · exact .inr hreg
    · refine .inl ⟨h.live k f hlive, Bool.eq_false_iff.mpr fun ht => ?_, fun hu => hun hu.2⟩
      rw [count_append, count_of_isTerm ht, hterm ht] at hpos
      omega

theorem served_run (h : api.Run .initial ls os s) (hbalanced : Balanced ls)
    (hterms : TermsLast ls) : Served ls s := by
  induction h with
  | nil => exact served_initial
  | snoc _ hstep ih =>
    exact (ih hbalanced.left hterms.left).step (hbalanced _ _ rfl) (hterms _ _ [] rfl) hstep

/-- A `Term` of one of several users leaves users without an object. -/
theorem termsLast_of_counted (h : api.Run .initial ls os s) (hbalanced : Balanced ls)
    (hcounted : Counted ls) : TermsLast ls := by
  rintro pre l post rfl hterm
  obtain ⟨t, os₁, os₂, rfl, hpre, hrest⟩ := h.split
  obtain ⟨u, os₃, os₄, rfl, hstep, -⟩ := hrest.cons_inv
  have hafter := hbalanced (pre ++ [l]) post (by simp)
  by_contra hne
  -- there are users left, who are owed the object
  have hpos : 0 < count (pre ++ [l]) := by
    rw [count_append, count_of_isTerm hterm] at hafter ⊢
    omega
  have hobject := ((hcounted pre l post os₁ t os₃ u rfl hpre hstep).1 hpos).1
  have hnone : u.object.isSome = false := by
    rw [(step_spec hstep).object]
    cases l with
    | term c => rfl
    | _ => cases hterm
  exact Bool.noConfusion (hobject.symm.trans hnone)

/-- If every `Term` is that of the last user, the users are served throughout. -/
theorem counted_of_termsLast (hbalanced : Balanced ls) (hterms : TermsLast ls) : Counted ls := by
  rintro pre l post os s os' s' rfl hrun hstep
  have hbefore := served_run hrun hbalanced.left hterms.left
  have hafter := hbefore.step (hbalanced pre _ rfl) (hterms pre l post rfl) hstep
  refine ⟨fun hpos => ⟨hafter.object (hafter.initialized.mpr hpos), fun hdestroyed => ?_,
    hafter.live⟩, fun _ args hargs f hlive => ?_⟩
  · have hterm := (step_spec hstep).destroyed hdestroyed
    rw [count_append, count_of_isTerm hterm, hterms pre l post rfl hterm] at hpos
    omega
  · exact invoked_of_step hstep hargs hbefore.shutdown (hbefore.live _ f hlive)

/-- The users are counted exactly if every `Term` is that of the last one. -/
theorem counted_iff (h : api.Run .initial ls os s) (hbalanced : Balanced ls) :
    Counted ls ↔ TermsLast ls :=
  ⟨termsLast_of_counted h hbalanced, counted_of_termsLast hbalanced⟩

omit [DecidableEq F] in
theorem balanced_of_take (h : ∀ n ≤ ls.length, 0 ≤ count (ls.take n)) : Balanced ls := by
  rintro pre post rfl
  have hpre := h pre.length (by simp)
  rwa [List.take_left'] at hpre
  rfl

omit [DecidableEq F] in
theorem termsLast_of_take
    (h : ∀ n, ∀ hn : n < ls.length, (ls.get ⟨n, hn⟩).isTerm = true → count (ls.take n) = 1) :
    TermsLast ls := by
  rintro pre l post rfl hterm
  have hpre := h pre.length (by simp)
  rw [List.take_left' rfl] at hpre
  exact hpre (by simpa using hterm)

/-- A channel is closed, and with it the connection to the plugin. -/
def Closing.succeeds : Closing := ⟨[⟨false, false, fun _ _ => .errorNone⟩], .errorNone⟩

/-- Two users one after the other. -/
theorem counted_of_turns :
    Counted (F := ℕ) (U := ℕ)
      [.init .succeeds, .register .succeeds .rebootBegin (some 1) 0 fun _ _ => .errorNone,
        .notification (.onRebootBegin "" "" ""), .term .succeeds, .init .succeeds,
        .term .succeeds] := by
  obtain ⟨os, s, hrun, -⟩ : ∃ os s, api.Run (.initial : Library ℕ ℕ)
      [.init .succeeds, .register .succeeds .rebootBegin (some 1) 0 fun _ _ => .errorNone,
        .notification (.onRebootBegin "" "" ""), .term .succeeds, .init .succeeds,
        .term .succeeds] os s ∧
      .event (.invoked ⟨1, 0⟩ (.rebootBegin "" "" "")) ∈ os :=
    Machine.exists_outputs_of_exec (by decide +kernel)
  exact (counted_iff hrun (balanced_of_take (by decide +kernel))).mpr
    (termsLast_of_take (by decide +kernel))

/-- A user registers a callback. Another one calls `Init` and `Term`, and registers a callback all
the same. -/
def nestedUsers : List (ApiLabel ℕ ℕ) :=
  [.init .succeeds, .register .succeeds .rebootBegin (some 1) 0 fun _ _ => .errorNone,
    .init .succeeds, .term .succeeds,
    .register .succeeds .rebootBegin (some 2) 0 fun _ _ => .errorNone,
    .notification (.onRebootBegin "" "" "")]

/-- The second user takes the object and the callback of the first one along. The next registration
creates an object again, so that only the callback of the first user is missing. -/
theorem not_counted :
    Balanced nestedUsers ∧
      (∃ os s, api.Run .initial nestedUsers os s ∧
        os = [.event .established, .event (.remote ⟨.register, .reboot, true, .errorNone⟩),
          .returned .errorNone, .event (.remote ⟨.unregister, .reboot, true, .errorNone⟩),
          .event .destroyed, .event .established,
          .event (.remote ⟨.register, .reboot, true, .errorNone⟩), .returned .errorNone,
          .event (.invoked ⟨2, 0⟩ (.rebootBegin "" "" ""))]) ∧
      ¬Counted nestedUsers := by
  have hbalanced : Balanced nestedUsers := balanced_of_take (by decide +kernel)
  obtain ⟨os, s, hrun, hos⟩ : ∃ os s, api.Run .initial nestedUsers os s ∧
      os = [.event .established, .event (.remote ⟨.register, .reboot, true, .errorNone⟩),
        .returned .errorNone, .event (.remote ⟨.unregister, .reboot, true, .errorNone⟩),
        .event .destroyed, .event .established,
        .event (.remote ⟨.register, .reboot, true, .errorNone⟩), .returned .errorNone,
        .event (.invoked ⟨2, 0⟩ (.rebootBegin "" "" ""))] :=
    Machine.exists_outputs_of_exec (by decide +kernel)
  refine ⟨hbalanced, ⟨os, s, hrun, hos⟩, fun hcounted => ?_⟩
  have hterms := termsLast_of_counted hrun hbalanced hcounted
  exact absurd (hterms [_, _, _] _ _ rfl rfl) (by decide)

end PowerManager.Client
