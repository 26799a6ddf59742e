import Mathlib.Data.List.Basic
import Mathlib.Data.List.DropRight
import Mathlib.Order.Lattice

/-!
# Alarms with hysteresis and a grace interval

A monitored value enters a zone when it reaches the level `concern`, and leaves it when it falls
below the level `safe`. An alarm is raised at every sample that reaches the level `critical`, and at
every sample in the zone once the grace interval that began with the entry is over.

The module introduces:

* `Hysteresis` — the three levels and the test for the end of the grace interval;
* `Zone` — whether the value is in the zone, and since when;
* `Hysteresis.move`, `Hysteresis.alarms` — what one sample does to the zone, and the alarms it
  raises; `Hysteresis.after` and `Hysteresis.total` say the same of a list of samples;
* `Hysteresis.entrance?` — the sample that has entered the zone, if the levels are in order: it is
  read off the samples, without the zone (`after_eq_entrance`);
* `Hysteresis.total_pos` — a value that stays at the level `concern` for the grace interval raises
  an alarm, if the levels are in order; `move_of_inactive` and `alarms_of_exit` show what happens if
  they are not.

Nothing is assumed of the order of the levels, or of the test, but where it is stated.
-/

/-- The levels of an alarm, and the test for the end of its grace interval. -/
structure Hysteresis (α τ : Type*) where
  critical : α
  concern : α
  safe : α
  /-- The grace interval that began at the first time is over at the second. -/
  due : τ → τ → Bool

/-- Whether the monitored value is in the zone, and when it last entered it. -/
structure Zone (τ : Type*) where
  active : Bool
  since : τ
  deriving DecidableEq, Repr

/-- The zone with its entry time in another measure. -/
def Zone.map {τ τ' : Type*} (f : τ' → τ) (z : Zone τ') : Zone τ := ⟨z.active, f z.since⟩

namespace Hysteresis

variable {α τ : Type*} [LinearOrder α] (h : Hysteresis α τ)

/-- What a sample does to the zone. A critical sample leaves it as it is. -/
def move (z : Zone τ) (value : α) (now : τ) : Zone τ :=
  if h.critical ≤ value then z
  else if z.active = false ∧ h.concern ≤ value then ⟨true, now⟩
  else if z.active = true ∧ value < h.safe then { z with active := false }
  else z

/-- The grace interval of the zone is over. -/
def expired (z : Zone τ) (now : τ) : Bool :=
  z.active && h.due z.since now

/-- The number of alarms that a sample raises: a sample may be critical and find the grace interval
over as well. -/
def alarms (z : Zone τ) (value : α) (now : τ) : ℕ :=
  (if h.critical ≤ value then 1 else 0) + (if h.expired (h.move z value now) now then 1 else 0)

/-- The zone after some samples. -/
def after (z : Zone τ) (samples : List (α × τ)) : Zone τ :=
  samples.foldl (fun z s => h.move z s.1 s.2) z

/-- The number of alarms that some samples raise. -/
def total (z : Zone τ) : List (α × τ) → ℕ
  | [] => 0
  | s :: samples => h.alarms z s.1 s.2 + total (h.move z s.1 s.2) samples

variable {h} {z : Zone τ} {value : α} {now : τ} {samples samples' : List (α × τ)}

@[simp]
theorem after_nil : h.after z [] = z := rfl

@[simp]
theorem after_cons {s : α × τ} :
    h.after z (s :: samples) = h.after (h.move z s.1 s.2) samples := rfl

theorem after_append : h.after z (samples ++ samples') = h.after (h.after z samples) samples' := by
  rw [after, List.foldl_append]
  rfl

@[simp]
theorem total_nil : h.total z [] = 0 := rfl

@[simp]
theorem total_cons {s : α × τ} :
    h.total z (s :: samples) = h.alarms z s.1 s.2 + h.total (h.move z s.1 s.2) samples := rfl

theorem total_append :
    h.total z (samples ++ samples') = h.total z samples + h.total (h.after z samples) samples' := by
  induction samples generalizing z with
  | nil => simp
  | cons s samples ih =>
    rw [List.cons_append, total_cons, ih, total_cons, after_cons, Nat.add_assoc]

/-- The last sample comes after all the others. -/
theorem total_concat {s : α × τ} :
    h.total z (samples ++ [s]) = h.total z samples + h.alarms (h.after z samples) s.1 s.2 := by
  rw [total_append, total_cons, total_nil, Nat.add_zero]

/-! ## One sample -/

/-- A critical sample raises an alarm. -/
theorem alarms_pos_of_critical (hv : h.critical ≤ value) : 0 < h.alarms z value now := by
  rw [alarms, if_pos hv]
  omega

/-- A critical sample raises a second alarm if the grace interval is over. -/
theorem alarms_of_critical (hv : h.critical ≤ value) :
    h.alarms z value now = 1 + if h.expired z now then 1 else 0 := by
  rw [alarms, if_pos hv, move, if_pos hv]

/-- A sample that finds the grace interval over raises an alarm. -/
theorem alarms_pos_of_expired (he : h.expired (h.move z value now) now = true) :
    0 < h.alarms z value now := by
  rw [alarms, if_pos he]
  omega

/-- A sample raises an alarm if it is critical, or finds the grace interval over. -/
theorem alarms_pos_iff :
    0 < h.alarms z value now ↔
      h.critical ≤ value ∨ h.expired (h.move z value now) now = true := by
  constructor
  · intro hpos
    by_contra hno
    rw [not_or] at hno
    rw [alarms, if_neg hno.1, if_neg hno.2] at hpos
    omega
  · rintro (hv | he)
    · exact alarms_pos_of_critical hv
    · exact alarms_pos_of_expired he

/-- A sample that is not critical enters the zone at the level `concern`. -/
theorem move_of_inactive (hz : z.active = false) (hc : h.concern ≤ value)
    (hv : value < h.critical) : h.move z value now = ⟨true, now⟩ := by
  rw [move, if_neg (not_le.mpr hv), if_pos ⟨hz, hc⟩]

/-- The entry raises an alarm only if the grace interval is over as soon as it begins. -/
theorem alarms_of_entry (hz : z.active = false) (hc : h.concern ≤ value)
    (hv : value < h.critical) : h.alarms z value now = if h.due now now then 1 else 0 := by
  rw [alarms, move_of_inactive hz hc hv, if_neg (not_le.mpr hv), Nat.zero_add]
  rfl

/-- In the zone a value that is not below `safe` changes nothing. -/
theorem move_of_active (hz : z.active = true) (hs : h.safe ≤ value) : h.move z value now = z := by
  rw [move]
  split
  · rfl
  · rw [if_neg (by simp [hz]), if_neg fun hexit => not_lt.mpr hs hexit.2]

/-- A value below `safe` leaves the zone in silence, whether or not it has reached `concern`. -/
theorem alarms_of_exit (hz : z.active = true) (hs : value < h.safe) (hv : value < h.critical) :
    h.alarms z value now = 0 ∧ h.move z value now = { z with active := false } := by
  have hmove : h.move z value now = { z with active := false } := by
    rw [move, if_neg (not_le.mpr hv), if_neg (by simp [hz]), if_pos ⟨hz, hs⟩]
  refine ⟨?_, hmove⟩
  rw [alarms, hmove, if_neg (not_le.mpr hv)]
  simp [expired]

/-- An active zone was entered with this sample, or was active before. -/
theorem active_of_move (hact : (h.move z value now).active = true) :
    (h.move z value now).since = now ∨
      z.active = true ∧ (h.move z value now).since = z.since := by
  revert hact
  rw [move]
  split
  · exact fun hact => .inr ⟨hact, rfl⟩
  split
  · exact fun _ => .inl rfl
  split
  · exact fun hact => absurd hact Bool.false_ne_true
  · exact fun hact => .inr ⟨hact, rfl⟩

/-! ## A value that stays high -/

/-- If the zone is left only below the level of its entry, then a value that stays at that level
stays in the zone. -/
theorem after_of_active (hord : h.safe ≤ h.concern) (hz : z.active = true)
    (hhigh : ∀ s ∈ samples, h.concern ≤ s.1) : h.after z samples = z := by
  induction samples with
  | nil => rfl
  | cons s samples ih =>
    have hs : h.safe ≤ s.1 := le_trans hord (hhigh s (by simp))
    rw [after_cons, move_of_active hz hs]
    exact ih fun s' hs' => hhigh s' (by simp [hs'])

/-- A value that stays at the level `concern` until the grace interval is over raises an alarm,
whether the interval began with these samples or before, if `safe` or `critical` is not above
`concern`. -/
theorem total_pos (first last : α × τ) (hord : h.safe ≤ h.concern ∨ h.critical ≤ h.concern)
    (hfirst : samples.head? = some first) (hlast : samples.getLast? = some last)
    (hhigh : ∀ s ∈ samples, h.concern ≤ s.1)
    (hdue : ∀ since, since = first.2 ∨ z.active = true ∧ since = z.since →
      h.due since last.2 = true) : 0 < h.total z samples := by
  obtain ⟨rest, rfl⟩ : ∃ rest, samples = first :: rest := by
    cases samples with
    | nil => cases hfirst
    | cons s rest =>
      rw [List.head?_cons] at hfirst
      exact ⟨rest, by rw [Option.some.inj hfirst]⟩
  rw [total_cons]
  have hc : h.concern ≤ first.1 := hhigh first (by simp)
  by_cases hv : h.critical ≤ first.1
  · exact Nat.add_pos_left (alarms_pos_of_critical hv) _
  -- the first sample is not critical, so that `safe` is not above `concern`
  have hs : h.safe ≤ h.concern := hord.resolve_right fun hcc => hv (le_trans hcc hc)
  -- it is in the zone, or enters it
  obtain ⟨z', hz', hact, hsince⟩ : ∃ z', h.move z first.1 first.2 = z' ∧ z'.active = true ∧
      h.due z'.since last.2 = true := by
    cases hz : z.active with
    | false =>
      exact ⟨_, move_of_inactive hz hc (not_le.mp hv), rfl, hdue first.2 (.inl rfl)⟩
    | true =>
      exact ⟨z, move_of_active hz (le_trans hs hc), hz, hdue z.since (.inr ⟨hz, rfl⟩)⟩
  have hexpired : h.expired z' last.2 = true := by rw [expired, hact, hsince, Bool.and_self]
  rcases List.eq_nil_or_concat rest with rfl | ⟨mid, l, rfl⟩
  · obtain rfl : first = last := by simpa using hlast
    exact Nat.add_pos_left (alarms_pos_of_expired (by rw [hz']; exact hexpired)) _
  · rw [List.concat_eq_append] at hlast hhigh ⊢
    rw [← List.cons_append, List.getLast?_concat] at hlast
    obtain rfl : l = last := Option.some.inj hlast
    have hstay : h.after z' mid = z' :=
      after_of_active hs hact fun s hmem => hhigh s (by simp [hmem])
    have hl : h.safe ≤ l.1 := le_trans hs (hhigh l (by simp))
    rw [hz', total_concat, hstay]
    refine Nat.add_pos_right _ (Nat.add_pos_right _ (alarms_pos_of_expired ?_))
    rw [move_of_active hact hl]
    exact hexpired

/-! ## The zone in closed form -/

/-- A value at which the zone is entered. -/
def InBand (h : Hysteresis α τ) (value : α) : Prop := h.concern ≤ value ∧ value < h.critical

instance (h : Hysteresis α τ) (value : α) : Decidable (h.InBand value) :=
  inferInstanceAs (Decidable (_ ∧ _))

/-- The samples since the last one below `safe`. -/
def recent (h : Hysteresis α τ) (samples : List (α × τ)) : List (α × τ) :=
  samples.rtakeWhile fun s => decide (h.safe ≤ s.1)

/-- The first of these at which the zone is entered. -/
def entrance? (h : Hysteresis α τ) (samples : List (α × τ)) : Option (α × τ) :=
  (h.recent samples).find? fun s => decide (h.InBand s.1)

/-- Samples that are not below `safe` are recent. -/
theorem recent_append (hs : ∀ s ∈ samples', h.safe ≤ s.1) :
    h.recent (samples ++ samples') = h.recent samples ++ samples' := by
  induction samples' using List.reverseRecOn with
  | nil => rw [List.append_nil, List.append_nil]
  | append_singleton samples' s ih =>
    have hlast : h.safe ≤ s.1 := hs s (by simp)
    have hinit : ∀ s' ∈ samples', h.safe ≤ s'.1 := fun s' hs' => hs s' (by simp [hs'])
    rw [← List.append_assoc, recent, List.rtakeWhile_concat_pos _ _ _ (by simpa using hlast),
      ← List.append_assoc, ← ih hinit]
    rfl

/-- A sample that is not below `safe` is an entry if there is no earlier one. -/
theorem entrance?_concat_of_le {s : α × τ} (hs : h.safe ≤ s.1) :
    h.entrance? (samples ++ [s]) =
      (h.entrance? samples).or (if h.InBand s.1 then some s else none) := by
  rw [entrance?, recent_append (by simpa using hs), List.find?_append, List.find?_singleton]
  simp only [decide_eq_true_eq]
  rfl

/-- A sample below `safe` puts an end to the entry. -/
theorem entrance?_concat_of_lt {s : α × τ} (hs : s.1 < h.safe) :
    h.entrance? (samples ++ [s]) = none := by
  rw [entrance?, recent, List.rtakeWhile_concat_neg _ _ _ (by simpa using hs)]
  rfl

/-- If the levels are in order, the zone is active exactly if there is an entry, and then since the
entry. -/
theorem after_eq_entrance (hsafe : h.safe ≤ h.concern) (hconcern : h.concern ≤ h.critical)
    (hz : z.active = false) (samples : List (α × τ)) :
    (h.after z samples).active = (h.entrance? samples).isSome ∧
      ∀ s, h.entrance? samples = some s → (h.after z samples).since = s.2 := by
  -- the samples are taken from the end, where the last one decides
  induction samples using List.reverseRecOn with
  | nil => exact ⟨hz, nofun⟩
  | append_singleton samples s ih =>
    obtain ⟨hactive, hsince⟩ := ih
    rw [after_append, after_cons, after_nil]
    rcases lt_or_ge s.1 h.safe with hlt | hle
    · -- such a value is below all the levels
      have hnotconcern : ¬h.concern ≤ s.1 := not_le.mpr (lt_of_lt_of_le hlt hsafe)
      have hnotcritical : ¬h.critical ≤ s.1 := fun hv => hnotconcern (le_trans hconcern hv)
      rw [entrance?_concat_of_lt hlt, move, if_neg hnotcritical,
        if_neg fun hin => hnotconcern hin.2]
      refine ⟨?_, nofun⟩
      cases hact : (h.after z samples).active with
      | false => simp [hact]
      | true => simp [hlt]
    · rw [entrance?_concat_of_le hle]
      cases hact : (h.after z samples).active with
      | true =>
        -- an active zone stays as it is, and so does the entry
        obtain ⟨e, he⟩ := Option.isSome_iff_exists.mp (hactive.symm.trans hact)
        rw [move_of_active hact hle, he]
        refine ⟨hact, ?_⟩
        intro s' hs'
        obtain rfl : e = s' := Option.some.inj hs'
        exact hsince e he
      | false =>
        have hnone : h.entrance? samples = none := by
          rw [hact] at hactive
          simpa using hactive.symm
        rw [hnone, Option.none_or]
        by_cases hband : h.InBand s.1
        -- an inactive zone is entered by a sample in the band
        · rw [move_of_inactive hact hband.1 hband.2, if_pos hband]
          refine ⟨rfl, ?_⟩
          intro s' hs'
          obtain rfl : s = s' := Option.some.inj hs'
          rfl
        · rw [if_neg hband]
          refine ⟨?_, nofun⟩
          -- a value outside the band is critical or does not reach `concern`
          have hout : h.critical ≤ s.1 ∨ ¬h.concern ≤ s.1 := by
            by_contra hno
            rw [not_or, not_not] at hno
            exact hband ⟨hno.2, not_le.mp hno.1⟩
          rw [move]
          split
          · exact hact
          · rename_i hv
            rw [if_neg fun hin => hout.elim hv fun hc => hc hin.2, if_neg (by simp [hact])]
            exact hact

/-- There is an entry exactly if some sample is in the band and none after it is below `safe`. -/
theorem entrance?_isSome_iff (hsafe : h.safe ≤ h.concern) :
    (h.entrance? samples).isSome = true ↔
      ∃ pre s post, samples = pre ++ s :: post ∧ h.InBand s.1 ∧ ∀ s' ∈ post, h.safe ≤ s'.1 := by
  rw [entrance?, List.find?_isSome]
  constructor
  · rintro ⟨s, hs, hband⟩
    -- the entry and all samples after it are recent
    obtain ⟨mid, post, hcut⟩ := List.append_of_mem hs
    obtain ⟨pre, hpre⟩ : h.recent samples <:+ samples := List.rtakeWhile_suffix _ _
    refine ⟨pre ++ mid, s, post, ?_, of_decide_eq_true hband, fun s' hs' => ?_⟩
    · rw [← hpre, List.append_assoc, ← hcut]
    · have hrecent : s' ∈ h.recent samples := by
        rw [hcut]
        simp [hs']
      unfold recent at hrecent
      simpa using List.mem_rtakeWhile_imp hrecent
  · rintro ⟨pre, s, post, rfl, hband, hpost⟩
    have hs : h.safe ≤ s.1 := le_trans hsafe hband.1
    rw [recent_append (by simpa [hs] using hpost)]
    exact ⟨s, by simp, decide_eq_true hband⟩

/-! ## Times in another measure -/

/-- The same levels and the same test, of times in another measure. -/
def onTimes {τ' : Type*} (h : Hysteresis α τ) (f : τ' → τ) : Hysteresis α τ' where
  critical := h.critical
  concern := h.concern
  safe := h.safe
  due since now := h.due (f since) (f now)

section

variable {τ' : Type*} {f : τ' → τ} {zone : Zone τ'}

/-- A sample does not look at the times. -/
theorem move_onTimes (value : α) (now : τ') :
    ((h.onTimes f).move zone value now).map f = h.move (zone.map f) value (f now) := by
  unfold move
  -- the branches are chosen by the value and the flag alone
  change Zone.map f (if h.critical ≤ value then _ else _) = _
  split
  · rfl
  change Zone.map f (if zone.active = false ∧ h.concern ≤ value then _ else _) =
    if zone.active = false ∧ h.concern ≤ value then _ else _
  split
  · rfl
  change Zone.map f (if zone.active = true ∧ value < h.safe then _ else _) =
    if zone.active = true ∧ value < h.safe then _ else _
  split
  · rfl
  · rfl

/-- Nor do some samples. -/
theorem after_onTimes (samples : List (α × τ')) :
    ((h.onTimes f).after zone samples).map f =
      h.after (zone.map f) (samples.map fun s => (s.1, f s.2)) := by
  induction samples generalizing zone with
  | nil => rfl
  | cons s samples ih => rw [after_cons, ih, move_onTimes, List.map_cons, after_cons]

end

/-- An active zone was active before the samples, or was entered with one of them. -/
theorem since_of_after (hact : (h.after z samples).active = true) :
    z.active = true ∧ (h.after z samples).since = z.since ∨
      ∃ s ∈ samples, (h.after z samples).since = s.2 := by
  induction samples using List.reverseRecOn with
  | nil => exact .inl ⟨hact, rfl⟩
  | append_singleton samples s ih =>
    rw [after_append, after_cons, after_nil] at hact ⊢
    rcases active_of_move hact with hnow | ⟨hbefore, hsince⟩
    · exact .inr ⟨s, by simp, hnow⟩
    · rw [hsince]
      rcases ih hbefore with hz | ⟨s', hs', hs⟩
      · exact .inl hz
      · exact .inr ⟨s', by simp [hs'], hs⟩

/-! ## Zones that behave alike -/

/-- Both zones are inactive, or both are active and their entry times are related. -/
def Agree (r : τ → τ → Prop) (z z' : Zone τ) : Prop :=
  z.active = z'.active ∧ (z.active = true → r z.since z'.since)

variable {r : τ → τ → Prop} {z' : Zone τ}

theorem Agree.refl (hrefl : ∀ t, r t t) (z : Zone τ) : Agree r z z :=
  ⟨rfl, fun _ => hrefl z.since⟩

/-- A sample keeps zones alike. -/
theorem Agree.move (hrefl : ∀ t, r t t) (ha : Agree r z z') (value : α) (now : τ) :
    Agree r (h.move z value now) (h.move z' value now) := by
  obtain ⟨hact, hsince⟩ := ha
  unfold Hysteresis.move
  rw [← hact]
  split
  · exact ⟨hact, hsince⟩
  split
  · exact .refl hrefl _
  split
  · exact ⟨rfl, fun hno => absurd hno Bool.false_ne_true⟩
  · exact ⟨hact, hsince⟩

omit [LinearOrder α] in
/-- If the test does not tell related entry times apart, the grace interval of zones that are alike
ends at the same time. -/
theorem Agree.expired (hdue : ∀ t t', r t t' → ∀ now, h.due t now = h.due t' now)
    (ha : Agree r z z') (now : τ) : h.expired z now = h.expired z' now := by
  obtain ⟨hact, hsince⟩ := ha
  unfold Hysteresis.expired
  rw [← hact]
  cases hz : z.active with
  | false => rfl
  | true => rw [hdue _ _ (hsince hz)]

end Hysteresis
