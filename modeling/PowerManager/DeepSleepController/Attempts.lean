import PowerManager.DeepSleepController.Basic

/-!
# The attempts of an activation

All activations share the state and the abort flag of the controller, and `Deactivate` may come at
any time. Whatever the others do, an activation goes its own way from its `Activate` to its end:
`Move` lists the steps, and `move_step` says that there are no others.

So an activation asks the platform at most five times, each time but the first because the last call
was aborted, then reports at most once, and asks no more. It ends after at most eighteen steps of
its own (`attempts_run`), and is never stuck before that (`exists_step_of_phase`).
-/

namespace PowerManager

namespace DeepSleepController

/-! ## The way of an activation -/

/-- The activation whose thread takes a step. -/
def Label.id? : Label → Option ℕ
  | .performActivate id _ | .enterDeepSleepDelayed id | .endWait id | .setDeepSleep id
  | .setDeepSleepReturn id .. | .callbackReturn id => some id
  | .activate .. | .deactivate _ => none

/-- The platform's `SetDeepSleep` is called. -/
def Event.isCall : Event → Bool
  | .setDeepSleep .. => true
  | _ => false

/-- What a step does to the activation `id`: its phase before and after it, and the events. -/
inductive Move (id : ℕ) : Label → Phase → Phase → List Event → Prop
  /-- The step is none of the activation. -/
  | other {l : Label} {p : Phase} {es : List Event} (hl : l.id? ≠ some id)
      (hes : ∀ e ∈ es, e.id? ≠ some id) : Move id l p p es
  | queued {timeOut : UInt32} {nw : Bool} {p : Phase} :
      Move id (.activate timeOut nw) p (.queued timeOut nw) [.returned .errorNone]
  /-- Another activation has the latch. -/
  | refused {sur : Surroundings} {timeOut : UInt32} {nw : Bool} :
      Move id (.performActivate id sur) (.queued timeOut nw) .over []
  | delayed {sur : Surroundings} {timeOut : UInt32} {nw : Bool} {t : Time} :
      Move id (.performActivate id sur) (.queued timeOut nw) (.delayed t) []
  | undelayed {sur : Surroundings} {timeOut : UInt32} {nw : Bool} :
      Move id (.performActivate id sur) (.queued timeOut nw) .preDelay []
  | dispatched {t : Time} : Move id (.enterDeepSleepDelayed id) (.delayed t) .preDelay []
  | waited : Move id (.endWait id) .preDelay (.attempt 5) []
  | waitedAgain {n : ℕ} : Move id (.endWait id) (.retryDelay n) (.attempt n) []
  | called {n : ℕ} {timeout : UInt32} {nw : Bool} :
      Move id (.setDeepSleep id) (.attempt n) (.inPlatform n) [.setDeepSleep id timeout nw]
  | retried {n : ℕ} {userWakeup : Bool} (hn : 1 < n) :
      Move id (.setDeepSleepReturn id .errorAborted userWakeup) (.inPlatform n)
        (.retryDelay (n - 1)) []
  | reported {n : ℕ} {errorCode : ErrorCode} {userWakeup : Bool} {e : Event}
      (he : e.id? = some id) (hcall : e.isCall = false) :
      Move id (.setDeepSleepReturn id errorCode userWakeup) (.inPlatform n) .notifying [e]
  | returned : Move id (.callbackReturn id) .notifying .over []
  /-- The activation finds the abort flag set. -/
  | aborted {l : Label} {p : Phase} (hl : l = .endWait id ∨ l = .setDeepSleep id)
      (hp : p.Entering) : Move id l p .over []
  /-- Its delay job is revoked. -/
  | revoked {errorCode : ErrorCode} {p : Phase} :
      Move id (.deactivate errorCode) p .over [.deepSleepWakeup, .returned errorCode]

variable {ds ds' : DeepSleepController} {ls : List Label} {es es' : List Event} {l : Label}
  {id : ℕ} {p p' : Phase}

/-- A step of another activation. -/
theorem move_other (hl : l.id? = some id) {j : ℕ} (hj : j ≠ id)
    (hphase : ds'.phase j = ds.phase j) (hes : ∀ e ∈ es, e.id? = some id) :
    Move j l (ds.phase j) (ds'.phase j) es := by
  rw [hphase]
  apply Move.other
  · rw [hl]
    exact fun h => hj (Option.some.inj h).symm
  · intro e he h
    rw [hes e he] at h
    exact hj (Option.some.inj h).symm

theorem move_performActivate {sur : Surroundings} {timeOut : UInt32} {nw : Bool}
    (hp : ds.phase id = .queued timeOut nw) (j : ℕ) :
    Move j (.performActivate id sur) (ds.phase j)
      ((ds.performActivate id sur timeOut nw).phase j) [] := by
  by_cases hj : j = id
  · subst hj
    rw [hp]
    simp only [performActivate]
    split
    · simpa using .refused
    · split
      · simpa [setPhase] using .delayed
      · simpa [setPhase] using .undelayed
  · refine move_other rfl hj ?_ (by simp)
    simp only [performActivate]
    split
    · simp [hj]
    · split <;> simp [setPhase, hj]

theorem move_endWait {n : ℕ} (hp : ds.phase id = .preDelay ∧ n = 5 ∨ ds.phase id = .retryDelay n)
    (j : ℕ) : Move j (.endWait id) (ds.phase j) ((ds.endWait id n).phase j) [] := by
  by_cases hj : j = id
  · subst hj
    simp only [endWait]
    split
    · have hentering : (ds.phase j).Entering := by
        rcases hp with ⟨hp, -⟩ | hp <;> simp [hp]
      simpa [abort, setPhase] using Move.aborted (.inl rfl) hentering
    · rcases hp with ⟨hp, rfl⟩ | hp
      · simpa [hp] using .waited
      · simpa [hp] using .waitedAgain
  · refine move_other rfl hj ?_ (by simp)
    simp only [endWait, abort]
    split <;> simp [setPhase, hj]

theorem move_setDeepSleep {n : ℕ} (hp : ds.phase id = .attempt n) (j : ℕ) :
    Move j (.setDeepSleep id) (ds.phase j) ((ds.setDeepSleep id n).1.phase j)
      (ds.setDeepSleep id n).2 := by
  by_cases hj : j = id
  · subst hj
    simp only [setDeepSleep]
    split
    · have hentering : (ds.phase j).Entering := by simp [hp]
      simpa [abort, setPhase] using Move.aborted (.inr rfl) hentering
    · simpa [hp] using .called
  · simp only [setDeepSleep, abort]
    split
    · exact move_other rfl hj (by simp [setPhase, hj]) (by simp)
    · exact move_other rfl hj (by simp [hj]) (by simp [Event.id?])

theorem move_setDeepSleepReturn {n : ℕ} (hp : ds.phase id = .inPlatform n) (errorCode : ErrorCode)
    (userWakeup : Bool) (j : ℕ) :
    Move j (.setDeepSleepReturn id errorCode userWakeup) (ds.phase j)
      ((ds.setDeepSleepReturn id n errorCode userWakeup).1.phase j)
      (ds.setDeepSleepReturn id n errorCode userWakeup).2 := by
  by_cases hj : j = id
  · subst hj
    rw [hp]
    simp only [setDeepSleepReturn]
    split
    · split
      · rename_i hretry
        obtain ⟨rfl, hn⟩ := hretry
        have hn : 1 < n := by omega
        simpa [setPhase] using Move.retried hn
      · simpa [setPhase] using Move.reported rfl rfl
    · split <;> simpa [setPhase] using Move.reported rfl rfl
  · simp only [setDeepSleepReturn]
    split
    · split
      · exact move_other rfl hj (by simp [setPhase, hj]) (by simp)
      · exact move_other rfl hj (by simp [setPhase, hj]) (by simp [Event.id?])
    · split <;> exact move_other rfl hj (by simp [setPhase, hj]) (by simp [Event.id?])

/-- Every step is a move of every activation. -/
theorem move_step (h : deepSleepController.step ds l = some (ds', es)) (j : ℕ) :
    Move j l (ds.phase j) (ds'.phase j) es := by
  cases l with
  | activate timeOut nw =>
    cases h
    by_cases hj : j = ds.nextId
    · subst hj
      simpa [setPhase] using .queued
    · simpa [setPhase, hj] using Move.other (by simp [Label.id?]) (by simp [Event.id?])
  | performActivate id sur =>
    simp only [deepSleepController] at h
    split at h <;> cases h
    exact move_performActivate ‹_› j
  | enterDeepSleepDelayed id =>
    simp only [deepSleepController] at h
    split at h <;> cases h
    rename_i t hp
    by_cases hj : j = id
    · subst hj
      simpa [enterDeepSleepDelayed, setPhase, hp] using .dispatched
    · exact move_other rfl hj (by simp [enterDeepSleepDelayed, setPhase, hj]) (by simp)
  | endWait id =>
    simp only [deepSleepController] at h
    split at h <;> cases h
    · exact move_endWait (.inl ⟨‹_›, rfl⟩) j
    · exact move_endWait (.inr ‹_›) j
  | setDeepSleep id =>
    simp only [deepSleepController] at h
    split at h
    · have hmove := move_setDeepSleep ‹ds.phase id = _› j
      rwa [Option.some.inj h] at hmove
    · cases h
  | setDeepSleepReturn id errorCode userWakeup =>
    simp only [deepSleepController] at h
    split at h
    · have hmove := move_setDeepSleepReturn ‹ds.phase id = _› errorCode userWakeup j
      rwa [Option.some.inj h] at hmove
    · cases h
  | callbackReturn id =>
    simp only [deepSleepController] at h
    split at h <;> cases h
    rename_i hp
    by_cases hj : j = id
    · subst hj
      simpa [hp] using .returned
    · exact move_other rfl hj (by simp [hj]) (by simp)
  | deactivate errorCode =>
    cases h
    have hother : Move j (.deactivate errorCode) (ds.phase j) (ds.phase j)
        [.deepSleepWakeup, .returned errorCode] :=
      .other (by simp [Label.id?]) (by simp [Event.id?])
    cases hjob : ds.deepSleepDelayJob with
    | none => simpa [deactivate, hjob] using hother
    | some id =>
      -- the delay job is that of the activation, or of another one
      by_cases hj : j = id
      · subst hj
        simpa [deactivate, hjob, setPhase] using .revoked
      · simpa [deactivate, hjob, setPhase, hj] using hother

/-! ## What an activation has left -/

/-- The attempts that an activation may still begin. -/
def Phase.attemptsLeft : Phase → ℕ
  | .queued .. | .delayed _ | .preDelay => 5
  | .attempt n | .retryDelay n => n
  | .inPlatform n => n - 1
  | .notifying | .over => 0

/-- The steps of its own that an activation may still take. -/
def Phase.stepsLeft : Phase → ℕ
  | .queued .. => 18
  | .delayed _ => 17
  | .preDelay => 16
  | .attempt n => 3 * n
  | .inPlatform n => 3 * n - 1
  | .retryDelay n => 3 * n + 1
  | .notifying => 1
  | .over => 0

/-- The last call of an activation need not have been aborted. -/
def Phase.underWay : Phase → ℕ
  | .inPlatform _ | .notifying | .over => 1
  | _ => 0

/-- An activation at the head of its loop has an attempt left. -/
def Phase.Positive : Phase → Prop
  | .attempt n | .inPlatform n | .retryDelay n => 0 < n
  | _ => True

/-- The activation may have reported. -/
def Phase.Reported : Phase → Prop
  | .notifying | .over => True
  | _ => False

/-- A call of the activation returns that it was aborted. -/
def Label.isAbort (id : ℕ) : Label → Bool
  | .setDeepSleepReturn id' errorCode _ => decide (id' = id ∧ errorCode = .errorAborted)
  | _ => false

/-- How often a call of an activation has been aborted. -/
def aborts (id : ℕ) (ls : List Label) : ℕ := ls.countP (·.isAbort id)

/-- How many steps an activation has taken. -/
def steps (id : ℕ) (ls : List Label) : ℕ := ls.countP fun l => decide (l.id? = some id)

theorem aborts_snoc (id : ℕ) (ls : List Label) (l : Label) :
    aborts id (ls ++ [l]) = aborts id ls + if l.isAbort id then 1 else 0 := by
  rw [aborts, List.countP_append, List.countP_singleton]
  rfl

theorem steps_snoc (id : ℕ) (ls : List Label) (l : Label) :
    steps id (ls ++ [l]) = steps id ls + if l.id? = some id then 1 else 0 := by
  rw [steps, List.countP_append, List.countP_singleton]
  simp [steps]

/-- The calls and the report of an activation in a phase. -/
structure Tally (id : ℕ) (ls : List Label) (es : List Event) (p : Phase) (calls : List Event)
    (report : Option Event) : Prop where
  events : es.filter (fun e => e.id? = some id) = calls ++ report.toList
  isCall : ∀ e ∈ calls, e.isCall = true
  isReport : ∀ e ∈ report, e.isCall = false
  attempts : calls.length + p.attemptsLeft ≤ 5
  aborted : calls.length ≤ aborts id ls + p.underWay
  unreported : ¬p.Reported → report = none
  called : report ≠ none ∨ p.underWay = 1 ∧ ¬p.Reported → calls ≠ []
  steps : steps id ls + p.stepsLeft ≤ 18
  positive : p.Positive

variable {calls : List Event} {report : Option Event}

/-- A step of another thread is not counted. -/
theorem counts_of_ne (hl : l.id? ≠ some id) (hes : ∀ e ∈ es', e.id? ≠ some id) :
    (es ++ es').filter (fun e => e.id? = some id) = es.filter (fun e => e.id? = some id) ∧
      aborts id (ls ++ [l]) = aborts id ls ∧ steps id (ls ++ [l]) = steps id ls := by
  refine ⟨?_, ?_, ?_⟩
  · have hnil : es'.filter (fun e => e.id? = some id) = [] := by
      rw [List.filter_eq_nil_iff]
      simpa using hes
    rw [List.filter_append, hnil, List.append_nil]
  · have hno : l.isAbort id = false := by
      cases l <;> simp_all [Label.isAbort, Label.id?]
    simp [aborts_snoc, hno]
  · simp [steps_snoc, hl]

/-- A move without a call or a report keeps the tally, if it leaves no more than there was. -/
theorem Tally.of_nil (hT : Tally id ls es p calls report) (hl : l.id? = some id)
    (hattempts : p'.attemptsLeft ≤ p.attemptsLeft)
    (hway : p.underWay ≤ p'.underWay + if l.isAbort id then 1 else 0)
    (hreported : p.Reported → p'.Reported) (hcalled : p'.underWay = 1 → p'.Reported)
    (hsteps : p'.stepsLeft < p.stepsLeft) (hpos : p'.Positive) :
    Tally id (ls ++ [l]) (es ++ []) p' calls report where
  events := by
    rw [List.append_nil]
    exact hT.events
  isCall := hT.isCall
  isReport := hT.isReport
  attempts := le_trans (Nat.add_le_add_left hattempts _) hT.attempts
  aborted := by
    have hle := hT.aborted
    rw [aborts_snoc]
    omega
  unreported hnot := hT.unreported (mt hreported hnot)
  called h := hT.called (h.imp_right fun hway => absurd (hcalled hway.1) hway.2)
  steps := by
    have hle := hT.steps
    rw [steps_snoc, if_pos hl]
    omega
  positive := hpos

/-- A step of another thread keeps the tally. -/
theorem Tally.of_ne (hT : Tally id ls es p calls report) (hl : l.id? ≠ some id)
    (hes : ∀ e ∈ es', e.id? ≠ some id) : Tally id (ls ++ [l]) (es ++ es') p calls report := by
  obtain ⟨hevents, haborts, hsteps⟩ := @counts_of_ne ls es es' l id hl hes
  exact
    { events := hevents.trans hT.events
      isCall := hT.isCall
      isReport := hT.isReport
      attempts := hT.attempts
      aborted := haborts ▸ hT.aborted
      unreported := hT.unreported
      called := hT.called
      steps := hsteps ▸ hT.steps
      positive := hT.positive }

/-- An activation that ends keeps its tally. -/
theorem Tally.over (hT : Tally id ls es p calls report) : Tally id ls es .over calls report where
  events := hT.events
  isCall := hT.isCall
  isReport := hT.isReport
  attempts := le_trans (Nat.add_le_add_left (Nat.zero_le _) _) hT.attempts
  aborted := by
    refine le_trans hT.aborted (Nat.add_le_add_left ?_ _)
    cases p <;> simp [Phase.underWay]
  unreported hnot := absurd trivial hnot
  called h := hT.called (h.imp_right fun hway => absurd trivial hway.2)
  steps := le_trans (Nat.add_le_add_left (Nat.zero_le _) _) hT.steps
  positive := trivial

/-- A move keeps the tally. -/
theorem Tally.move (hT : Tally id ls es p calls report) (h : Move id l p p' es')
    (hl : ∀ timeOut nw, l ≠ .activate timeOut nw) :
    ∃ calls report, Tally id (ls ++ [l]) (es ++ es') p' calls report := by
  cases h with
  | other hother hes => exact ⟨calls, report, hT.of_ne hother hes⟩
  | queued => exact absurd rfl (hl _ _)
  | refused | delayed | undelayed | dispatched | waited =>
    refine ⟨calls, report, hT.of_nil rfl ?_ ?_ ?_ ?_ ?_ ?_⟩ <;>
      simp [Phase.attemptsLeft, Phase.underWay, Phase.Reported, Phase.stepsLeft, Phase.Positive]
  | waitedAgain =>
    refine ⟨calls, report, hT.of_nil rfl le_rfl le_rfl (fun h => h) (fun hway => ?_)
      (Nat.lt_succ_self _) hT.positive⟩
    simp [Phase.underWay] at hway
  | @called n timeout nw =>
    -- the report is still to come, and the call is counted
    have hnone := hT.unreported (by simp [Phase.Reported])
    have hpos : 0 < n := hT.positive
    have hattempts := hT.attempts
    have haborted := hT.aborted
    have hsteps := hT.steps
    simp only [Phase.attemptsLeft, Phase.underWay, Phase.stepsLeft] at hattempts haborted hsteps
    refine ⟨calls ++ [.setDeepSleep id timeout nw], none, ?_, ?_, by simp, ?_, ?_, fun _ => rfl,
      by simp, ?_, hpos⟩
    · rw [List.filter_append, hT.events, hnone]
      simp [Event.id?]
    · intro e he
      rcases List.mem_append.mp he with he | he
      · exact hT.isCall e he
      · rw [List.mem_singleton.mp he]
        rfl
    · simp only [List.length_append, List.length_singleton, Phase.attemptsLeft]
      omega
    · simp only [List.length_append, List.length_singleton, Phase.underWay, aborts_snoc]
      omega
    · simp only [steps_snoc, Label.id?, if_true, Phase.stepsLeft]
      omega
  | @retried n userWakeup hn =>
    refine ⟨calls, report, hT.of_nil rfl le_rfl ?_ ?_ ?_ ?_ ?_⟩
    · simp [Phase.underWay, Label.isAbort]
    · simp [Phase.Reported]
    · simp [Phase.underWay]
    · simp only [Phase.stepsLeft]
      omega
    · simp only [Phase.Positive]
      omega
  | @reported n errorCode userWakeup e he hcall =>
    have hnone := hT.unreported (by simp [Phase.Reported])
    have hpos : 0 < n := hT.positive
    have hattempts := hT.attempts
    have haborted := hT.aborted
    have hsteps := hT.steps
    simp only [Phase.attemptsLeft, Phase.underWay, Phase.stepsLeft] at hattempts haborted hsteps
    refine ⟨calls, some e, ?_, hT.isCall, ?_, ?_, ?_, by simp [Phase.Reported],
      fun _ => hT.called (.inr ⟨rfl, by simp [Phase.Reported]⟩), ?_, trivial⟩
    · rw [List.filter_append, hT.events, hnone]
      simp [he]
    · rintro e' ⟨⟩
      exact hcall
    · simp only [Phase.attemptsLeft]
      omega
    · simp only [Phase.underWay, aborts_snoc]
      omega
    · simp only [steps_snoc, Label.id?, if_true, Phase.stepsLeft]
      omega
  | returned =>
    refine ⟨calls, report, hT.of_nil rfl ?_ ?_ ?_ ?_ ?_ ?_⟩ <;>
      simp [Phase.attemptsLeft, Phase.underWay, Phase.Reported, Phase.stepsLeft, Phase.Positive]
  | aborted hl' hp =>
    have hid : l.id? = some id := by
      rcases hl' with rfl | rfl <;> rfl
    refine ⟨calls, report, hT.of_nil hid (Nat.zero_le _) ?_ (fun _ => trivial) (fun _ => trivial) ?_
      trivial⟩
    · show p.underWay ≤ 1 + _
      cases p <;> simp [Phase.underWay]
    · have hpos := hT.positive
      show 0 < p.stepsLeft
      cases p <;> simp_all [Phase.stepsLeft, Phase.Positive]
      omega
  | revoked => exact ⟨calls, report, hT.over.of_ne (by simp [Label.id?]) (by simp [Event.id?])⟩

/-! ## The activations of a run -/

/-- A number that has not been given to an activation has made no step and no call. -/
theorem unused_run (h : deepSleepController.Run initial ls es ds) (hid : ds.nextId ≤ id) :
    es.filter (fun e => e.id? = some id) = [] ∧ aborts id ls = 0 ∧ steps id ls = 0 := by
  induction h with
  | nil => exact ⟨rfl, rfl, rfl⟩
  | @snoc t u ls es es' l hrun hstep ih =>
    have hover := over_run hrun
    obtain ⟨hle, hover'⟩ := over_step hover hstep
    have hid' : t.nextId ≤ id := le_trans hle hid
    have hmove := move_step hstep id
    rw [hover id hid', hover' id hid] at hmove
    have hother : l.id? ≠ some id ∧ ∀ e ∈ es', e.id? ≠ some id := by
      cases hmove with
      | other hl hes => exact ⟨hl, hes⟩
      | aborted _ hp => exact hp.elim
      | revoked => exact ⟨by simp [Label.id?], by simp [Event.id?]⟩
    obtain ⟨hevents, haborts, hsteps⟩ := @counts_of_ne ls es es' l id hother.1 hother.2
    rw [hevents, haborts, hsteps]
    exact ih hid'

/-- Nothing has been done yet. -/
theorem tally_unused (hunused : es.filter (fun e => e.id? = some id) = [] ∧ aborts id ls = 0 ∧
    steps id ls = 0) (timeOut : UInt32) (nw : Bool) :
    Tally id ls es (.queued timeOut nw) [] none := by
  obtain ⟨hevents, haborts, hsteps⟩ := hunused
  constructor <;> simp [hevents, haborts, hsteps, Phase.attemptsLeft, Phase.underWay,
    Phase.stepsLeft, Phase.Positive]

/-- The tally of an activation in every run. -/
theorem tally_run (h : deepSleepController.Run initial ls es ds) (id : ℕ) :
    ∃ calls report, Tally id ls es (ds.phase id) calls report := by
  induction h with
  | nil => exact ⟨[], none, (tally_unused ⟨rfl, rfl, rfl⟩ 0 false).over⟩
  | @snoc t u ls es es' l hrun hstep ih =>
    obtain ⟨calls, report, hT⟩ := ih
    by_cases hactivate : ∃ timeOut nw, l = .activate timeOut nw
    · obtain ⟨timeOut, nw, rfl⟩ := hactivate
      cases hstep
      show ∃ calls report, Tally id _ _ ((t.setPhase t.nextId (.queued timeOut nw)).phase id)
        calls report
      rw [setPhase_phase]
      split
      · -- the number is given to the activation now
        rename_i hid
        have hunused := unused_run hrun (Nat.le_of_eq hid.symm)
        exact ⟨[], none, (tally_unused hunused timeOut nw).of_ne (by simp [Label.id?])
          (by simp [Event.id?])⟩
      · exact ⟨calls, report, hT.of_ne (by simp [Label.id?]) (by simp [Event.id?])⟩
    · exact hT.move (move_step hstep id) fun timeOut nw hl => hactivate ⟨timeOut, nw, hl⟩

/-- An activation that is not over can always go on, whatever the others do. -/
theorem exists_step_of_phase (hp : ds.phase id ≠ .over) :
    ∃ l r, l.id? = some id ∧ deepSleepController.step ds l = some r := by
  cases hphase : ds.phase id with
  | queued timeOut nw =>
    exact ⟨.performActivate id .plain, _, rfl, by simp only [deepSleepController, hphase]; rfl⟩
  | delayed t =>
    exact ⟨.enterDeepSleepDelayed id, _, rfl, by simp only [deepSleepController, hphase]; rfl⟩
  | preDelay => exact ⟨.endWait id, _, rfl, by simp only [deepSleepController, hphase]; rfl⟩
  | attempt n => exact ⟨.setDeepSleep id, _, rfl, by simp only [deepSleepController, hphase]; rfl⟩
  | inPlatform n =>
    exact ⟨.setDeepSleepReturn id .errorNone true, _, rfl,
      by simp only [deepSleepController, hphase]; rfl⟩
  | retryDelay n => exact ⟨.endWait id, _, rfl, by simp only [deepSleepController, hphase]; rfl⟩
  | notifying =>
    exact ⟨.callbackReturn id, _, rfl, by simp only [deepSleepController, hphase]; rfl⟩
  | _ => exact absurd hphase hp

/-- In every run, whatever the other activations and `Deactivate` do, an activation calls the
platform at most five times, each time but the first after the last call was aborted. After that it
makes at most one call of the parent, and none of the platform. It takes at most eighteen steps, and
can take another one until it is over. -/
theorem attempts_run (h : deepSleepController.Run initial ls es ds) (id : ℕ) :
    ∃ (calls : List Event) (report : Option Event),
      es.filter (fun e => e.id? = some id) = calls ++ report.toList ∧
      (∀ e ∈ calls, e.isCall = true) ∧ (∀ e ∈ report, e.isCall = false) ∧
      calls.length ≤ 5 ∧ calls.length ≤ aborts id ls + 1 ∧ (report ≠ none → calls ≠ []) ∧
      steps id ls ≤ 18 ∧
      (ds.phase id ≠ .over → ∃ l r, l.id? = some id ∧ deepSleepController.step ds l = some r) := by
  obtain ⟨calls, report, hT⟩ := tally_run h id
  have hway : (ds.phase id).underWay ≤ 1 := by
    cases ds.phase id <;> simp [Phase.underWay]
  exact ⟨calls, report, hT.events, hT.isCall, hT.isReport,
    le_trans (Nat.le_add_right _ _) hT.attempts,
    le_trans hT.aborted (Nat.add_le_add_left hway _), fun hreport => hT.called (.inl hreport),
    le_trans (Nat.le_add_right _ _) hT.steps, exists_step_of_phase⟩

/-- The first call is aborted, another activation is refused, and the second call succeeds. -/
theorem attempts_run_two :
    ∃ es ds, deepSleepController.Run initial [.activate 60 false, .performActivate 0 .plain,
        .activate 30 false, .performActivate 1 .plain, .endWait 0, .setDeepSleep 0,
        .setDeepSleepReturn 0 .errorAborted false, .endWait 0, .setDeepSleep 0,
        .setDeepSleepReturn 0 .errorNone true] es ds ∧
      ∃ calls report, es.filter (fun e => e.id? = some 0) = calls ++ Option.toList report ∧
        calls.length ≤ 5 ∧ (report ≠ none → calls ≠ []) := by
  have hrun : deepSleepController.Run initial [.activate 60 false, .performActivate 0 .plain,
      .activate 30 false, .performActivate 1 .plain, .endWait 0, .setDeepSleep 0,
      .setDeepSleepReturn 0 .errorAborted false, .endWait 0, .setDeepSleep 0,
      .setDeepSleepReturn 0 .errorNone true] _ _ := Machine.run_of_exec rfl
  obtain ⟨calls, report, hevents, -, -, hfive, -, hreport, -⟩ := attempts_run hrun 0
  exact ⟨_, _, hrun, calls, report, hevents, hfive, hreport⟩

end DeepSleepController

end PowerManager
