import Mathlib.Data.List.Forall2

/-!
# Labelled machines and their runs

A `Machine` consumes labels one at a time, may refuse a label, and emits outputs. All
nondeterminism sits in the labels: an interleaving, an environment answer or a scheduling
choice is a different list of labels. A statement about every run is therefore a statement
about every order of steps.

The module introduces:

* `Machine.Run` — the runs of a machine, with their labels and outputs, and `Machine.exec`,
  which computes them;
* `Machine.Along` — every step of a run meets a condition on the state before it and its
  label — and `Machine.Throughout` — every state of a run has a property;
* `Machine.HeldSince` — since when a property has held at the end of a run — and what one step does
  to it, `heldSince_snoc`;
* the run rules: `Run.trans` and `Run.split` cut and paste runs, `Run.perm` changes the order of
  labels that can be exchanged, `Run.invariant` turns a step lemma into a run lemma,
  `Run.invariant_along` does so for runs that meet a condition;
* `Machine.view` — what is shown of the runs of a machine;
* `Refinement` — a map of states and outputs under which steps of one machine are steps of
  another, and `Refinement.run`, which says the same of runs.
-/

/-- A deterministic labelled machine: `step s l` is `none` if the label `l` is refused in `s`,
and otherwise gives the next state and the outputs of the step, oldest first. -/
structure Machine (σ ℓ ω : Type*) where
  /-- The transition function. -/
  step : σ → ℓ → Option (σ × List ω)

namespace Machine

variable {σ ℓ ω : Type*} {M : Machine σ ℓ ω}

variable (M) in
/-- `M.Run s ls os t`: from `s` the labels `ls` are consumed in order, the outputs are `os`, and
the run ends in `t`. -/
inductive Run : σ → List ℓ → List ω → σ → Prop
  | nil (s : σ) : Run s [] [] s
  | snoc {s t u : σ} {ls : List ℓ} {os os' : List ω} {l : ℓ} :
      Run s ls os t → M.step t l = some (u, os') → Run s (ls ++ [l]) (os ++ os') u

variable (M) in
/-- The run of `M` from `s` on the given labels, or `none` if a label is refused. -/
def exec : σ → List ℓ → Option (σ × List ω)
  | s, [] => some (s, [])
  | s, l :: ls =>
    match M.step s l with
    | none => none
    | some (t, os) =>
      match exec t ls with
      | none => none
      | some (u, os') => some (u, os ++ os')

variable (M) in
/-- Every step of a run on `ls` from `s` meets the condition `C` on the state before the step
and its label. -/
def Along (C : σ → ℓ → Prop) (s : σ) (ls : List ℓ) : Prop :=
  ∀ pre l post os t, ls = pre ++ l :: post → M.Run s pre os t → C t l

variable (M) in
/-- Every state that a run on `ls` from `s` passes has the property `I`. -/
def Throughout (I : σ → Prop) (s : σ) (ls : List ℓ) : Prop :=
  ∀ pre post os t, ls = pre ++ post → M.Run s pre os t → I t

variable (M) in
/-- `P` holds after the run on `ls` from `s`, and has held since the time `now`: since the run has
begun, at the time `start`, or since the last step that led from a state without `P` to one with it,
at the time of its label. -/
inductive HeldSince {τ : Type*} (P : σ → Prop) (time? : ℓ → Option τ) (s : σ) (start : τ)
    (ls : List ℓ) : τ → Prop
  | start : M.Throughout P s ls → HeldSince P time? s start ls start
  | became {pre post : List ℓ} {l : ℓ} {os os' : List ω} {t u : σ} {now : τ} :
      ls = pre ++ l :: post → M.Run s pre os t → ¬P t → M.step t l = some (u, os') →
      M.Throughout P u post → time? l = some now → HeldSince P time? s start ls now

variable (M) in
/-- Decides `Along` for a run that is given by its labels. -/
def checkAlong (C : σ → ℓ → Prop) [∀ s l, Decidable (C s l)] : σ → List ℓ → Bool
  | _, [] => true
  | s, l :: ls =>
    decide (C s l) &&
      match M.step s l with
      | none => true
      | some (t, _) => checkAlong C t ls

/-! ## Cutting and pasting runs -/

/-- A single step is a run. -/
theorem Run.single {s t : σ} {l : ℓ} {os : List ω} (h : M.step s l = some (t, os)) :
    M.Run s [l] os t := by
  simpa using (Run.nil s).snoc h

/-- Runs compose. -/
theorem Run.trans {s t u : σ} {ls ls' : List ℓ} {os os' : List ω}
    (h : M.Run s ls os t) (h' : M.Run t ls' os' u) : M.Run s (ls ++ ls') (os ++ os') u := by
  induction h' with
  | nil => simpa using h
  | snoc _ hstep ih =>
    rw [← List.append_assoc, ← List.append_assoc]
    exact ih.snoc hstep

/-- A run can be cut between any two of its labels. -/
theorem Run.split {s u : σ} {ls ls' : List ℓ} {os : List ω} (h : M.Run s (ls ++ ls') os u) :
    ∃ t os₁ os₂, os = os₁ ++ os₂ ∧ M.Run s ls os₁ t ∧ M.Run t ls' os₂ u := by
  generalize hall : ls ++ ls' = all at h
  -- the cut is in front of the last step, or behind it
  induction h generalizing ls' with
  | nil =>
    obtain ⟨rfl, rfl⟩ := List.append_eq_nil_iff.mp hall
    exact ⟨_, [], [], rfl, .nil _, .nil _⟩
  | @snoc t u ls₀ os os' l hrun hstep ih =>
    rcases List.eq_nil_or_concat ls' with rfl | ⟨init, last, rfl⟩
    · rw [List.append_nil] at hall
      subst hall
      exact ⟨_, _, [], by simp, hrun.snoc hstep, .nil _⟩
    · rw [List.concat_eq_append, ← List.append_assoc] at hall
      obtain ⟨hinit, hlast⟩ := List.append_inj' hall rfl
      obtain rfl : last = l := by simpa using hlast
      obtain ⟨v, os₁, os₂, rfl, h₁, h₂⟩ := ih hinit
      refine ⟨v, os₁, os₂ ++ os', by simp, h₁, ?_⟩
      rw [List.concat_eq_append]
      exact h₂.snoc hstep

/-- The empty run stays where it is and emits nothing. -/
theorem Run.nil_inv {s t : σ} {os : List ω} (h : M.Run s [] os t) : t = s ∧ os = [] := by
  generalize hls : ([] : List ℓ) = ls at h
  cases h with
  | nil => exact ⟨rfl, rfl⟩
  | snoc _ _ => simp at hls

/-- A run ending in a label is a run followed by a step. -/
theorem Run.snoc_inv {s u : σ} {ls : List ℓ} {l : ℓ} {os : List ω}
    (h : M.Run s (ls ++ [l]) os u) :
    ∃ t os₁ os₂, os = os₁ ++ os₂ ∧ M.Run s ls os₁ t ∧ M.step t l = some (u, os₂) := by
  generalize hall : ls ++ [l] = all at h
  cases h with
  | nil => simp at hall
  | snoc hrun hstep =>
    obtain ⟨rfl, hl⟩ := List.append_inj' hall rfl
    obtain rfl : l = _ := by simpa using hl
    exact ⟨_, _, _, rfl, hrun, hstep⟩

/-- A run on a nonempty list of labels is a step followed by a run. -/
theorem Run.cons_inv {s u : σ} {l : ℓ} {ls : List ℓ} {os : List ω}
    (h : M.Run s (l :: ls) os u) :
    ∃ t os₁ os₂, os = os₁ ++ os₂ ∧ M.step s l = some (t, os₁) ∧ M.Run t ls os₂ u := by
  rw [← List.singleton_append] at h
  obtain ⟨t, os₁, os₂, rfl, h₁, h₂⟩ := h.split
  rw [← List.nil_append [l]] at h₁
  obtain ⟨s', os₃, os₄, rfl, h₃, hstep⟩ := h₁.snoc_inv
  obtain ⟨rfl, rfl⟩ := h₃.nil_inv
  exact ⟨t, os₄, os₂, by simp, hstep, h₂⟩

/-- A step followed by a run is a run. -/
theorem Run.cons {s t u : σ} {l : ℓ} {ls : List ℓ} {os os' : List ω}
    (hstep : M.step s l = some (t, os)) (h : M.Run t ls os' u) :
    M.Run s (l :: ls) (os ++ os') u :=
  (Run.single hstep).trans h

/-- The labels determine the outputs and the final state. -/
theorem Run.det {s t t' : σ} {ls : List ℓ} {os os' : List ω}
    (h : M.Run s ls os t) (h' : M.Run s ls os' t') : t = t' ∧ os = os' := by
  induction h generalizing t' os' with
  | nil => exact ⟨(Run.nil_inv h').1.symm, (Run.nil_inv h').2.symm⟩
  | snoc _ hstep ih =>
    obtain ⟨v, os₁, os₂, rfl, hrun, hstep'⟩ := h'.snoc_inv
    -- both runs are in the same state before their last step
    obtain ⟨rfl, rfl⟩ := ih hrun
    rw [hstep, Option.some.injEq, Prod.mk.injEq] at hstep'
    exact ⟨hstep'.1, by rw [hstep'.2]⟩

/-- A run takes the step on each of its labels. -/
theorem Run.step_at {s t u : σ} {pre post : List ℓ} {l : ℓ} {os os' : List ω}
    (h : M.Run s (pre ++ l :: post) os u) (hpre : M.Run s pre os' t) :
    ∃ v os'', M.step t l = some (v, os'') ∧ M.Run s (pre ++ [l]) (os' ++ os'') v := by
  obtain ⟨t', os₁, os₂, rfl, h₁, h₂⟩ := h.split
  obtain ⟨rfl, rfl⟩ := hpre.det h₁
  obtain ⟨v, os₃, os₄, rfl, hstep, -⟩ := h₂.cons_inv
  exact ⟨v, os₃, hstep, hpre.snoc hstep⟩

/-- After one of its steps a run goes on from where the step leads. -/
theorem Run.after {s t u v : σ} {pre post : List ℓ} {l : ℓ} {os os' os'' : List ω}
    (h : M.Run s (pre ++ l :: post) os u) (hpre : M.Run s pre os' t)
    (hstep : M.step t l = some (v, os'')) : ∃ os₂, M.Run v post os₂ u := by
  obtain ⟨t', _, _, -, h₁, h₂⟩ := h.split
  obtain ⟨rfl, -⟩ := hpre.det h₁
  obtain ⟨v', _, os₂, -, hstep', hpost⟩ := h₂.cons_inv
  rw [hstep, Option.some.injEq, Prod.mk.injEq] at hstep'
  obtain ⟨rfl, -⟩ := hstep'
  exact ⟨os₂, hpost⟩

/-- If any two of the labels can be exchanged, the labels can be taken in any order. -/
theorem Run.perm {I : σ → Prop} {C : ℓ → Prop}
    (hinv : ∀ s l t os, I s → C l → M.step s l = some (t, os) → I t)
    (hcomm : ∀ s l l' t u os os', I s → C l → C l' → M.step s l = some (t, os) →
      M.step t l' = some (u, os') → ∃ v os₁ os₂, os₁ ++ os₂ = os ++ os' ∧
        M.step s l' = some (v, os₁) ∧ M.step v l = some (u, os₂))
    {s t : σ} {ls ls' : List ℓ} {os : List ω} (hI : I s) (hC : ∀ l ∈ ls, C l)
    (h : M.Run s ls os t) (hperm : ls.Perm ls') : M.Run s ls' os t := by
  induction hperm generalizing s os with
  | nil => exact h
  | cons l _ ih =>
    obtain ⟨u, os₁, os₂, rfl, hstep, hrest⟩ := h.cons_inv
    obtain ⟨hl, hC⟩ := List.forall_mem_cons.mp hC
    exact .cons hstep (ih (hinv _ _ _ _ hI hl hstep) hC hrest)
  | swap l' l ls =>
    obtain ⟨u, os₁, os₂, rfl, hstep, hrest⟩ := h.cons_inv
    obtain ⟨v, os₃, os₄, rfl, hstep', hrest'⟩ := hrest.cons_inv
    obtain ⟨hl, hC⟩ := List.forall_mem_cons.mp hC
    -- the two steps at the beginning change places, and the rest stays
    obtain ⟨u', os₅, os₆, hos, hfirst, hsecond⟩ :=
      hcomm _ _ _ _ _ _ _ hI hl (List.forall_mem_cons.mp hC).1 hstep hstep'
    rw [← List.append_assoc, ← hos, List.append_assoc]
    exact .cons hfirst (.cons hsecond hrest')
  | trans h₁ _ ih₁ ih₂ =>
    exact ih₂ hI (fun l hl => hC l (h₁.mem_iff.mpr hl)) (ih₁ hI hC h)

/-- What `exec` computes is a run. -/
theorem run_of_exec {s t : σ} {ls : List ℓ} {os : List ω} (h : M.exec s ls = some (t, os)) :
    M.Run s ls os t := by
  induction ls generalizing s os with
  | nil =>
    obtain ⟨rfl, rfl⟩ : s = t ∧ [] = os := by simpa [exec] using h
    exact .nil s
  | cons l ls ih =>
    simp only [exec] at h
    split at h
    · cases h
    · rename_i v os₁ hstep
      split at h
      · cases h
      · rename_i w os₂ hexec
        obtain ⟨rfl, rfl⟩ : w = t ∧ os₁ ++ os₂ = os := by simpa using h
        exact Run.cons hstep (ih hexec)

/-- A run that is given by its labels, with what is to be known of its outputs and its final
state. -/
theorem exists_outputs_of_exec {p : List ω → σ → Prop} [∀ os t, Decidable (p os t)] {s : σ}
    {ls : List ℓ} (h : (M.exec s ls).any (fun r => decide (p r.2 r.1)) = true) :
    ∃ os t, M.Run s ls os t ∧ p os t := by
  rw [Option.any_eq_true] at h
  obtain ⟨⟨t, os⟩, hexec, hp⟩ := h
  exact ⟨os, t, run_of_exec hexec, of_decide_eq_true hp⟩

/-- A run that is given by its labels and its outputs, with what is to be known of its final
state. -/
theorem exists_run_of_exec [DecidableEq ω] {p : σ → Prop} [DecidablePred p] {s : σ} {ls : List ℓ}
    {os : List ω} (h : (M.exec s ls).any (fun r => decide (r.2 = os ∧ p r.1)) = true) :
    ∃ t, M.Run s ls os t ∧ p t := by
  obtain ⟨_, t, hrun, rfl, ht⟩ := exists_outputs_of_exec (p := fun os' t => os' = os ∧ p t) h
  exact ⟨t, hrun, ht⟩

/-! ## Conditions along a run -/

/-- A condition that holds along a run holds along its initial segments. -/
theorem Along.left {C : σ → ℓ → Prop} {s : σ} {ls ls' : List ℓ} (h : M.Along C s (ls ++ ls')) :
    M.Along C s ls := by
  intro pre l post os t hls hrun
  exact h pre l (post ++ ls') os t (by simp [hls]) hrun

/-- A condition that holds along a run holds at its last step. -/
theorem Along.last {C : σ → ℓ → Prop} {s t : σ} {ls : List ℓ} {l : ℓ} {os : List ω}
    (h : M.Along C s (ls ++ [l])) (hrun : M.Run s ls os t) : C t l :=
  h ls l [] os t rfl hrun

/-- A condition holds along a run if it holds along all but the last step, and at that step. -/
theorem along_snoc {C : σ → ℓ → Prop} {s t : σ} {ls : List ℓ} {l : ℓ} {os : List ω}
    (hrun : M.Run s ls os t) : M.Along C s (ls ++ [l]) ↔ M.Along C s ls ∧ C t l := by
  refine ⟨fun h => ⟨h.left, h.last hrun⟩, ?_⟩
  rintro ⟨hinit, hlast⟩ pre l' post os' t' hcut hrun'
  -- the label is the last one, or an earlier one
  rcases List.eq_nil_or_concat post with rfl | ⟨mid, last, rfl⟩
  · obtain ⟨rfl, hl⟩ := List.append_inj' hcut rfl
    obtain rfl : l = l' := by simpa using hl
    obtain ⟨rfl, -⟩ := hrun.det hrun'
    exact hlast
  · rw [List.concat_eq_append, ← List.cons_append, ← List.append_assoc] at hcut
    obtain ⟨rfl, -⟩ := List.append_inj' hcut rfl
    exact hinit pre l' mid os' t' rfl hrun'

/-- A condition holds along a run if it holds at its first step and along the rest. -/
theorem along_cons {C : σ → ℓ → Prop} {s t : σ} {ls : List ℓ} {l : ℓ} {os : List ω}
    (hstep : M.step s l = some (t, os)) : M.Along C s (l :: ls) ↔ C s l ∧ M.Along C t ls := by
  constructor
  · refine fun h => ⟨h [] l ls [] s rfl (.nil s), ?_⟩
    intro pre l' post os' u hcut hrun
    exact h (l :: pre) l' post _ u (by rw [hcut, List.cons_append]) (.cons hstep hrun)
  · rintro ⟨hfirst, hrest⟩ pre l' post os' u hcut hrun
    cases pre with
    | nil =>
      obtain ⟨rfl, -⟩ := hrun.nil_inv
      obtain ⟨rfl, -⟩ : l = l' ∧ ls = post := by simpa using hcut
      exact hfirst
    | cons l₁ pre =>
      obtain ⟨rfl, rfl⟩ : l = l₁ ∧ ls = pre ++ l' :: post := by simpa using hcut
      obtain ⟨v, os₁, os₂, -, hstep', hrun'⟩ := hrun.cons_inv
      rw [hstep, Option.some.injEq, Prod.mk.injEq] at hstep'
      obtain ⟨rfl, -⟩ := hstep'
      exact hrest pre l' post os₂ u rfl hrun'

/-- A condition that holds along a run also holds if labels follow that always meet it. -/
theorem Along.append {C : σ → ℓ → Prop} {s : σ} {ls ls' : List ℓ} (h : M.Along C s ls)
    (h' : ∀ l ∈ ls', ∀ t, C t l) : M.Along C s (ls ++ ls') := by
  intro pre l post os t hcut hrun
  rcases List.append_eq_append_iff.mp hcut with ⟨mid, -, rfl⟩ | ⟨mid, rfl, hmid⟩
  · exact h' l (by simp) t
  · cases mid with
    | nil =>
      rw [List.nil_append] at hmid
      exact h' l (hmid ▸ .head _) t
    | cons l' mid =>
      obtain ⟨rfl, -⟩ : l = l' ∧ post = mid ++ ls' := by simpa using hmid
      exact h pre l mid os t rfl hrun

/-- A condition holds along the run on the given labels if `checkAlong` says so. -/
theorem along_of_check {C : σ → ℓ → Prop} [∀ s l, Decidable (C s l)] {s : σ} {ls : List ℓ}
    (h : M.checkAlong C s ls = true) : M.Along C s ls := by
  induction ls generalizing s with
  | nil =>
    intro pre l post os t hls
    simp at hls
  | cons l₀ ls ih =>
    simp only [checkAlong, Bool.and_eq_true, decide_eq_true_eq] at h
    obtain ⟨hC, hrest⟩ := h
    intro pre l post os t hls hrun
    cases pre with
    | nil =>
      obtain ⟨rfl, -⟩ := hrun.nil_inv
      obtain ⟨rfl, -⟩ : l₀ = l ∧ ls = post := by simpa using hls
      exact hC
    | cons l₁ pre =>
      obtain ⟨rfl, rfl⟩ : l₀ = l₁ ∧ ls = pre ++ l :: post := by simpa using hls
      obtain ⟨u, os₁, os₂, rfl, hstep, hrun'⟩ := hrun.cons_inv
      rw [hstep] at hrest
      exact ih hrest pre l post os₂ t rfl hrun'

/-- The first state of a run is one that it passes. -/
theorem throughout_nil {I : σ → Prop} {s : σ} : M.Throughout I s [] ↔ I s := by
  refine ⟨fun h => h [] [] [] s rfl (.nil s), ?_⟩
  intro h pre post os t hcut hrun
  obtain ⟨rfl, -⟩ := List.append_eq_nil_iff.mp hcut.symm
  obtain ⟨rfl, -⟩ := hrun.nil_inv
  exact h

/-- The states that a run passes are those before its last step, and the last one. -/
theorem throughout_snoc {I : σ → Prop} {s t u : σ} {ls : List ℓ} {l : ℓ} {os os' : List ω}
    (hrun : M.Run s ls os t) (hstep : M.step t l = some (u, os')) :
    M.Throughout I s (ls ++ [l]) ↔ M.Throughout I s ls ∧ I u := by
  constructor
  · intro h
    refine ⟨?_, h (ls ++ [l]) [] _ u (by simp) (hrun.snoc hstep)⟩
    rintro pre post os₁ v rfl hrun'
    exact h pre (post ++ [l]) os₁ v (by simp) hrun'
  · rintro ⟨hinit, hlast⟩ pre post os₁ v hcut hrun'
    rcases List.eq_nil_or_concat post with rfl | ⟨mid, last, rfl⟩
    · rw [List.append_nil] at hcut
      subst hcut
      obtain ⟨rfl, -⟩ := (hrun.snoc hstep).det hrun'
      exact hlast
    · rw [List.concat_eq_append, ← List.append_assoc] at hcut
      obtain ⟨rfl, -⟩ := List.append_inj' hcut rfl
      exact hinit pre mid os₁ v rfl hrun'

/-- `P` has held since the start or since the time of a label. -/
theorem HeldSince.mem {τ : Type*} {P : σ → Prop} {time? : ℓ → Option τ} {s : σ} {start now : τ}
    {ls : List ℓ} (h : M.HeldSince P time? s start ls now) : now ∈ start :: ls.filterMap time? := by
  rcases h with hall | ⟨rfl, -, -, -, -, htime⟩
  · exact List.mem_cons_self
  · exact List.mem_cons_of_mem _ (List.mem_filterMap.mpr ⟨_, by simp, htime⟩)

/-- At the end of a run on no labels, `P` has held since the run has begun. -/
theorem heldSince_nil {τ : Type*} {P : σ → Prop} {time? : ℓ → Option τ} {s : σ} {start now : τ} :
    M.HeldSince P time? s start [] now ↔ P s ∧ now = start := by
  constructor
  · rintro (hall | ⟨hcut, -⟩)
    · exact ⟨throughout_nil.mp hall, rfl⟩
    · simp at hcut
  · rintro ⟨hP, rfl⟩
    exact .start (throughout_nil.mpr hP)

/-- After a step `P` has held since its time, or since it has held before. -/
theorem heldSince_snoc {τ : Type*} {P : σ → Prop} {time? : ℓ → Option τ} {s t u : σ}
    {start now : τ} {ls : List ℓ} {l : ℓ} {os os' : List ω} (hrun : M.Run s ls os t)
    (hstep : M.step t l = some (u, os')) :
    M.HeldSince P time? s start (ls ++ [l]) now ↔
      P u ∧ (M.HeldSince P time? s start ls now ∨ ¬P t ∧ time? l = some now) := by
  constructor
  · rintro (hall | @⟨pre, post, l', os₁, os₂, t', u', _, hcut, hrun', hnot, hstep', hall, htime⟩)
    · obtain ⟨hinit, hP⟩ := (throughout_snoc hrun hstep).mp hall
      exact ⟨hP, .inl (.start hinit)⟩
    · rcases List.eq_nil_or_concat post with rfl | ⟨mid, last, rfl⟩
      · -- the last step is the one that leads to `P`
        obtain ⟨rfl, hl⟩ := List.append_inj' hcut rfl
        obtain rfl : l = l' := by simpa using hl
        obtain ⟨rfl, -⟩ := hrun.det hrun'
        rw [hstep, Option.some.injEq, Prod.mk.injEq] at hstep'
        obtain ⟨rfl, -⟩ := hstep'
        exact ⟨throughout_nil.mp hall, .inr ⟨hnot, htime⟩⟩
      · rw [List.concat_eq_append, ← List.cons_append, ← List.append_assoc] at hcut
        obtain ⟨rfl, hl⟩ := List.append_inj' hcut rfl
        obtain rfl : l = last := by simpa using hl
        -- the last step is one of those after it
        obtain ⟨_, hmid⟩ := hrun.after hrun' hstep'
        rw [List.concat_eq_append] at hall
        obtain ⟨hinit, hP⟩ := (throughout_snoc hmid hstep).mp hall
        exact ⟨hP, .inl (.became rfl hrun' hnot hstep' hinit htime)⟩
  · rintro ⟨hP, (hall | ⟨rfl, hrun', hnot, hstep', hall, htime⟩) | ⟨hnot, htime⟩⟩
    · exact .start ((throughout_snoc hrun hstep).mpr ⟨hall, hP⟩)
    · obtain ⟨_, hmid⟩ := hrun.after hrun' hstep'
      -- the time is that of an earlier step, and `P` has held since then up to the last one
      exact .became (by simp) hrun' hnot hstep' ((throughout_snoc hmid hstep).mpr ⟨hall, hP⟩) htime
    · exact .became rfl hrun hnot hstep (throughout_nil.mpr hP) htime

/-- The run rule with history: a property of the labels, the outputs and the state that holds
at the start and is kept by every step meeting `C` holds after every run along which `C`
holds. -/
theorem Run.induction_along {C : σ → ℓ → Prop} {I : List ℓ → List ω → σ → Prop} {s t : σ}
    {ls : List ℓ} {os : List ω} (h : M.Run s ls os t) (hC : M.Along C s ls) (h0 : I [] [] s)
    (hstep : ∀ ls os t l u os', M.Run s ls os t → I ls os t → C t l →
      M.step t l = some (u, os') → I (ls ++ [l]) (os ++ os') u) :
    I ls os t := by
  induction h with
  | nil => exact h0
  | snoc hrun hs ih =>
    exact hstep _ _ _ _ _ _ hrun (ih hC.left) (hC.last hrun) hs

/-- The run rule: what holds at the start and is kept by every step holds after every run. -/
theorem Run.invariant {I : σ → Prop} {s t : σ} {ls : List ℓ} {os : List ω}
    (h : M.Run s ls os t) (h0 : I s)
    (hstep : ∀ t l u os', I t → M.step t l = some (u, os') → I u) : I t := by
  induction h with
  | nil => exact h0
  | snoc _ hs ih => exact hstep _ _ _ _ ih hs

/-- The run rule for runs along which `C` holds. -/
theorem Run.invariant_along {C : σ → ℓ → Prop} {I : σ → Prop} {s t : σ} {ls : List ℓ}
    {os : List ω} (h : M.Run s ls os t) (hC : M.Along C s ls) (h0 : I s)
    (hstep : ∀ t l u os', I t → C t l → M.step t l = some (u, os') → I u) : I t :=
  Run.induction_along h hC h0
    fun _ _ _ _ _ _ _ hI hCl hs => hstep _ _ _ _ hI hCl hs

/-! ## Views -/

variable (M) in
/-- The machine of which only what `f` shows of a step is emitted. -/
def view {ω' : Type*} (f : σ → ℓ → σ → List ω → List ω') : Machine σ ℓ ω' where
  step s l := (M.step s l).map fun r => (r.1, f s l r.1 r.2)

section View

variable {ω' : Type*} {f : σ → ℓ → σ → List ω → List ω'} {s t : σ} {l : ℓ} {ls : List ℓ}
  {os : List ω} {os' : List ω'}

/-- A step, and what is shown of it. -/
theorem view_step :
    (M.view f).step s l = some (t, os') ↔ ∃ os, M.step s l = some (t, os) ∧ f s l t os = os' := by
  simp [view]

/-- What is shown is shown of a run. -/
theorem Run.of_view (h : (M.view f).Run s ls os' t) : ∃ os, M.Run s ls os t := by
  induction h with
  | nil => exact ⟨[], .nil _⟩
  | snoc _ hstep ih =>
    obtain ⟨os, hrun⟩ := ih
    obtain ⟨os', hstep', -⟩ := view_step.mp hstep
    exact ⟨os ++ os', hrun.snoc hstep'⟩

/-- Of every run something is shown. -/
theorem Run.exists_view (h : M.Run s ls os t) : ∃ os', (M.view f).Run s ls os' t := by
  induction h with
  | nil => exact ⟨[], .nil _⟩
  | snoc _ hstep ih =>
    obtain ⟨os', hrun⟩ := ih
    exact ⟨_, hrun.snoc (view_step.mpr ⟨_, hstep, rfl⟩)⟩

/-- A condition along a run does not depend on what is shown of it. -/
theorem Along.view {C : σ → ℓ → Prop} (h : M.Along C s ls) : (M.view f).Along C s ls := by
  intro pre l post os' t hcut hrun
  obtain ⟨os, hrun'⟩ := hrun.of_view
  exact h pre l post os t hcut hrun'

end View

/-! ## Refinement -/

/-- A refinement of `N` by `M`: from states with the invariant `Inv`, a step of `M` is a step of `N`
between the abstract states, with the abstract outputs, on a label that matches. -/
structure Refinement {σ' ℓ' ω' : Type*} (M : Machine σ ℓ ω) (N : Machine σ' ℓ' ω') where
  /-- The invariant of `M`. -/
  Inv : σ → Prop
  /-- The abstract state. -/
  abs : σ → σ'
  /-- The abstract output, if there is one. -/
  out : ω → Option ω'
  /-- The labels of `N` that a label of `M` may amount to. -/
  Matches : ℓ → ℓ' → Prop
  inv_step : ∀ {s l t os}, Inv s → M.step s l = some (t, os) → Inv t
  step : ∀ {s l t os}, Inv s → M.step s l = some (t, os) →
    ∃ l', Matches l l' ∧ N.step (abs s) l' = some (abs t, os.filterMap out)

/-- Every run of the refining machine is a run of the abstract one. -/
theorem Refinement.run {σ' ℓ' ω' : Type*} {N : Machine σ' ℓ' ω'} (R : Refinement M N) {s t : σ}
    {ls : List ℓ} {os : List ω} (hI : R.Inv s) (h : M.Run s ls os t) :
    R.Inv t ∧ ∃ ls', List.Forall₂ R.Matches ls ls' ∧
      N.Run (R.abs s) ls' (os.filterMap R.out) (R.abs t) := by
  induction h with
  | nil => exact ⟨hI, [], .nil, .nil _⟩
  | snoc _ hstep ih =>
    obtain ⟨hI', ls', hls, hrun⟩ := ih
    -- the abstract run goes on with the label that matches
    obtain ⟨l', hl, hstep'⟩ := R.step hI' hstep
    refine ⟨R.inv_step hI' hstep, ls' ++ [l'], List.rel_append hls (.cons hl .nil), ?_⟩
    rw [List.filterMap_append]
    exact hrun.snoc hstep'

/-- Every run of the refining machine is a run of the abstract one, in which each step is that of one
of its own steps, from a state that it has passed. -/
theorem Refinement.run_steps {σ' ℓ' ω' : Type*} {N : Machine σ' ℓ' ω'} (R : Refinement M N)
    {s t : σ} {ls : List ℓ} {os : List ω} (hI : R.Inv s) (h : M.Run s ls os t) :
    R.Inv t ∧ ∃ ls', N.Run (R.abs s) ls' (os.filterMap R.out) (R.abs t) ∧
      ∀ pre' l' post', ls' = pre' ++ l' :: post' → ∃ pre l post os₁ os₂ u v,
        ls = pre ++ l :: post ∧ M.Run s pre os₁ u ∧ M.step u l = some (v, os₂) ∧ R.Matches l l' ∧
          N.Run (R.abs s) pre' (os₁.filterMap R.out) (R.abs u) ∧
          N.step (R.abs u) l' = some (R.abs v, os₂.filterMap R.out) := by
  induction h with
  | nil => exact ⟨hI, [], .nil _, fun _ _ _ hcut => by simp at hcut⟩
  | @snoc t u ls os os' l hrun hstep ih =>
    obtain ⟨hI', ls', hrun', hsteps⟩ := ih
    obtain ⟨l₁, hl, hstep'⟩ := R.step hI' hstep
    refine ⟨R.inv_step hI' hstep, ls' ++ [l₁], ?_, fun pre' l' post' hcut => ?_⟩
    · rw [List.filterMap_append]
      exact hrun'.snoc hstep'
    · -- the step is the last one, or one of those before
      rcases List.eq_nil_or_concat post' with rfl | ⟨post', l₂, rfl⟩
      · obtain ⟨rfl, hlast⟩ := List.append_inj' hcut rfl
        obtain rfl := List.singleton_inj.mp hlast
        exact ⟨ls, l, [], os, os', t, u, rfl, hrun, hstep, hl, hrun', hstep'⟩
      · rw [List.concat_eq_append, ← List.cons_append, ← List.append_assoc] at hcut
        obtain ⟨rfl, -⟩ := List.append_inj' hcut rfl
        obtain ⟨pre, l₀, post, os₁, os₂, v, w, rfl, hrest⟩ := hsteps _ _ _ rfl
        exact ⟨pre, l₀, post ++ [l], os₁, os₂, v, w, by simp, hrest⟩

/-- A property of the abstract states that abstract steps keep, under a condition that the condition
`C` on the refining machine amounts to, holds after runs along which `C` holds. -/
theorem Refinement.invariant_along {σ' ℓ' ω' : Type*} {N : Machine σ' ℓ' ω'} (R : Refinement M N)
    {C : σ → ℓ → Prop} {C' : σ' → ℓ' → Prop} {I : σ' → Prop} {s t : σ} {ls : List ℓ} {os : List ω}
    (hC' : ∀ s l l', R.Inv s → C s l → R.Matches l l' → C' (R.abs s) l')
    (hstep : ∀ t l u os, I t → C' t l → N.step t l = some (u, os) → I u) (hInv : R.Inv s)
    (h0 : I (R.abs s)) (h : M.Run s ls os t) (hC : M.Along C s ls) : R.Inv t ∧ I (R.abs t) := by
  refine h.invariant_along (I := fun t => R.Inv t ∧ I (R.abs t)) hC ⟨hInv, h0⟩ ?_
  rintro t l u os ⟨hInv, hI⟩ hl hs
  obtain ⟨l', hmatch, hs'⟩ := R.step hInv hs
  exact ⟨R.inv_step hInv hs, hstep _ _ _ _ hI (hC' _ _ _ hInv hl hmatch) hs'⟩

/-- A label of the abstract run comes from one of the refining run. -/
theorem exists_of_forall₂ {ℓ' : Type*} {r : ℓ → ℓ' → Prop} {ls : List ℓ} {ls' : List ℓ'}
    (h : List.Forall₂ r ls ls') {l' : ℓ'} (hl' : l' ∈ ls') : ∃ l ∈ ls, r l l' := by
  induction h with
  | nil => cases hl'
  | @cons l _ _ _ hl _ ih =>
    rcases List.mem_cons.mp hl' with rfl | hmem
    · exact ⟨l, by simp, hl⟩
    · obtain ⟨l₁, hl₁, hr⟩ := ih hmem
      exact ⟨l₁, by simp [hl₁], hr⟩

/-! ## Simulation -/

/-- A simulation of `M` by `N`: what `M` does in a step, `N` does in a run, with the same
outputs. -/
structure Simulation {σ' ℓ' : Type*} (M : Machine σ ℓ ω) (N : Machine σ' ℓ' ω) where
  /-- The states of `N` that may stand for a state of `M`. -/
  Rel : σ → σ' → Prop
  step : ∀ {s s' l os t}, Rel s t → M.step s l = some (s', os) →
    ∃ ls t', N.Run t ls os t' ∧ Rel s' t'

/-- Every run of `M` is one of `N`. -/
theorem Simulation.run {σ' ℓ' : Type*} {N : Machine σ' ℓ' ω} (S : Simulation M N) {s s' : σ}
    {t : σ'} {ls : List ℓ} {os : List ω} (hR : S.Rel s t) (h : M.Run s ls os s') :
    ∃ ls' t', N.Run t ls' os t' ∧ S.Rel s' t' := by
  induction h with
  | nil => exact ⟨[], t, .nil t, hR⟩
  | snoc _ hstep ih =>
    obtain ⟨ls₁, u, hrun, hR'⟩ := ih
    obtain ⟨ls₂, t', hrun', hR''⟩ := S.step hR' hstep
    exact ⟨ls₁ ++ ls₂, t', hrun.trans hrun', hR''⟩

end Machine
