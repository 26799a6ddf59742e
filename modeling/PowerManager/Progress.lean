import PowerManager.Machine

/-!
# Runs that come to an end

A machine may have steps of its own, which nobody outside has to ask for. If each of them makes the
work that is left smaller, and there is always one to take while work is left, the machine gets
through its work, whichever of its steps it takes.

* `Machine.Progress` — what there is to show of single steps;
* `Progress.length_add_le` — runs of the machine's own steps are no longer than the work;
* `Run.countP_add_le` — in any run, there are no more own steps than work, if nobody makes work.
-/

namespace Machine

variable {σ ℓ ω : Type*} {M : Machine σ ℓ ω}

variable (M) in
/-- The machine gets through its work: from states with the invariant `I`, its own steps make the
work smaller, and while there is work, there is such a step. -/
structure Progress (I : σ → Prop) (Own : ℓ → Prop) (work : σ → ℕ) : Prop where
  inv_step : ∀ {s l t os}, I s → Own l → M.step s l = some (t, os) → I t
  work_lt : ∀ {s l t os}, I s → Own l → M.step s l = some (t, os) → work t < work s
  exists_step : ∀ {s}, I s → work s ≠ 0 → ∃ l t os, Own l ∧ M.step s l = some (t, os)

namespace Progress

variable {I : σ → Prop} {Own : ℓ → Prop} {work : σ → ℕ} {s t : σ} {ls : List ℓ} {os : List ω}

/-- Runs of the machine's own steps keep the invariant, and are no longer than the work that they
do. -/
theorem length_add_le (hP : M.Progress I Own work) (hI : I s) (hown : ∀ l ∈ ls, Own l)
    (hrun : M.Run s ls os t) : I t ∧ ls.length + work t ≤ work s := by
  induction hrun with
  | nil => exact ⟨hI, by simp⟩
  | @snoc t u ls os os' l _ hstep ih =>
    obtain ⟨hI', hle⟩ := ih fun l hl => hown l (List.mem_append_left _ hl)
    have hl : Own l := hown l (by simp)
    have hlt := hP.work_lt hI' hl hstep
    refine ⟨hP.inv_step hI' hl hstep, ?_⟩
    rw [List.length_append, List.length_singleton]
    omega

end Progress

/-- In any run the machine's own steps are no more than the work that they do, if no other step
makes the work larger. -/
theorem Run.countP_add_le {I : σ → Prop} {s t : σ} {ls : List ℓ} {os : List ω}
    (hrun : M.Run s ls os t) (own : ℓ → Bool) (work : σ → ℕ)
    (hinv : ∀ {s l t os}, I s → M.step s l = some (t, os) → I t)
    (hlt : ∀ {s l t os}, I s → own l = true → M.step s l = some (t, os) → work t < work s)
    (hle : ∀ {s l t os}, I s → own l = false → M.step s l = some (t, os) → work t ≤ work s)
    (hI : I s) : ls.countP own + work t ≤ work s := by
  suffices hall : I t ∧ ls.countP own + work t ≤ work s from hall.2
  induction hrun with
  | nil => exact ⟨hI, by simp⟩
  | @snoc t u ls os os' l _ hstep ih =>
    obtain ⟨hI', hcount⟩ := ih
    refine ⟨hinv hI' hstep, ?_⟩
    rw [List.countP_append, List.countP_singleton]
    cases hown : own l with
    | true =>
      have hdone := hlt hI' hown hstep
      simp only [if_true]
      omega
    | false =>
      have hkept := hle hI' hown hstep
      simp only [Bool.false_eq_true, if_false]
      omega

end Machine
