import PowerManager.Implementation.Acknowledgements
import Mathlib.Algebra.Group.Nat.Defs

/-!
# The ids of the pre-change clients

A client registers under its name and gets an id, with which it acknowledges transitions. A name
that is registered already gets the id that it has; any other gets the next one of a counter, which
is static, so that it goes on with the next instance of the plugin.

As long as the counter does not wrap around, an id belongs to one name for ever (`client_ids`): also
after the client has been removed, its id is given to nobody else, and an acknowledgement with it is
refused.
-/

namespace PowerManager

namespace Implementation

variable {pm pm' : Implementation} {es os : List Event} {l : Label} {ls : List Label}
  {pc : PowerController} {tid : ℤ} {cid id : UInt32} {name : String}

/-- In a run from `start` on `ls`, the id is handed out for the name. -/
def HandedOut (start : Implementation) (ls : List Label) (id : UInt32) (name : String) : Prop :=
  ∃ pre post os pm, ls = pre ++ .addPowerModePreChangeClient name :: post ∧
    implementation.Run start pre os pm ∧
      .clientId id ∈ (pm.addPowerModePreChangeClient name).2

/-- The number of registrations. -/
def registrations (ls : List Label) : ℕ :=
  ls.countP fun
    | .addPowerModePreChangeClient _ => true
    | _ => false

/-! ## What a step does to the clients -/

/-- The clients and the counter are the same. -/
def SameClients (pm pm' : Implementation) : Prop :=
  pm'.modeChangeClients = pm.modeChangeClients ∧ pm'.nextClientId = pm.nextClientId

/-- Completion handlers leave the clients alone. -/
theorem sameClients_completionHandlers (pm : Implementation) (env : Environment)
    (calls : List (HandlerCall CompletionHandler)) :
    pm.SameClients (pm.completionHandlers env calls).1 := by
  induction calls generalizing pm with
  | nil => exact ⟨rfl, rfl⟩
  | cons call calls ih =>
    obtain ⟨pc, hpm⟩ := pm.setDevicePowerState_fst env call.handler.currState call.handler.newState
    have hone : pm.SameClients (pm.completionHandler env call).1 := by
      simp only [SameClients, completionHandler, selfUnlock]
      cases call.handler.isSync <;> cases call.isRevoked <;> simp [hpm]
    obtain ⟨hclients, hnext⟩ := ih (pm.completionHandler env call).1
    exact ⟨hclients.trans hone.1, hnext.trans hone.2⟩

theorem sameClients_setPowerStateRead (pm : Implementation) (n : PowerState)
    (ds : DeepSleepStatus) :
    pm.SameClients (pm.setPowerStateRead n ds).1 := by
  simp only [setPowerStateRead, selfUnlock]
  split
  · exact ⟨rfl, rfl⟩
  · split
    · split <;> exact ⟨rfl, rfl⟩
    · exact ⟨rfl, rfl⟩

theorem sameClients_setPowerStateCreate (pm : Implementation) (env : Environment) (n s : PowerState)
    (b : Bool) : pm.SameClients (pm.setPowerStateCreate env n s b).1 := by
  simp only [setPowerStateCreate]
  split
  · exact ⟨rfl, rfl⟩
  · exact sameClients_completionHandlers { pm with modeChangeController := none } env _

theorem sameClients_setPowerStateSchedule (pm : Implementation) (env : Environment)
    (c : AckController CompletionHandler) (n s : PowerState) (b : Bool) (t : UInt32) :
    pm.SameClients (pm.setPowerStateSchedule env c n s b t).1 := by
  have hsame := fun c' calls =>
    sameClients_completionHandlers { pm with modeChangeController := some c' } env calls
  simp only [setPowerStateSchedule]
  split
  · exact hsame _ _
  · exact hsame _ _

/-- What a step does to the clients and the counter. -/
inductive ClientStep (pm : Implementation) : Label → Implementation → Prop
  /-- Nothing. A name that is registered keeps its id. -/
  | same {l : Label} {pm' : Implementation}
      (hclients : pm'.modeChangeClients = pm.modeChangeClients)
      (hnext : pm'.nextClientId = pm.nextClientId) : ClientStep pm l pm'
  /-- A new name is registered. -/
  | added {name : String} {pm' : Implementation}
      (hnew : ∀ id, pm.modeChangeClients.lookup id ≠ some name)
      (hanswer : ∀ id, .clientId id ∈ (pm.addPowerModePreChangeClient name).2 ↔
        id = pm.nextClientId + 1)
      (hclients : pm'.modeChangeClients = pm.modeChangeClients.insert (pm.nextClientId + 1) name)
      (hnext : pm'.nextClientId = pm.nextClientId + 1) :
      ClientStep pm (.addPowerModePreChangeClient name) pm'
  | removed {id : UInt32} {env : Environment} {pm' : Implementation}
      (hclients : pm'.modeChangeClients = pm.modeChangeClients.erase id)
      (hnext : pm'.nextClientId = pm.nextClientId) :
      ClientStep pm (.removePowerModePreChangeClient id env) pm'

/-- What `AddPowerModePreChangeClient` answers: the id of the name, or the next one. -/
theorem addPowerModePreChangeClient_cases (pm : Implementation) (name : String) :
    (∀ id, .clientId id ∉ (pm.addPowerModePreChangeClient name).2) ∧
      (pm.addPowerModePreChangeClient name).1 = pm ∨
    (∃ id, pm.modeChangeClients.lookup id = some name ∧
      (pm.addPowerModePreChangeClient name).1 = pm ∧
      ∀ id', .clientId id' ∈ (pm.addPowerModePreChangeClient name).2 → id' = id) ∨
    (∀ id, pm.modeChangeClients.lookup id ≠ some name) ∧
      (pm.addPowerModePreChangeClient name).1 =
        { pm with
          nextClientId := pm.nextClientId + 1
          modeChangeClients := pm.modeChangeClients.insert (pm.nextClientId + 1) name } ∧
      ∀ id', .clientId id' ∈ (pm.addPowerModePreChangeClient name).2 ↔
        id' = pm.nextClientId + 1 := by
  simp only [addPowerModePreChangeClient]
  split
  · exact .inl ⟨by simp, rfl⟩
  · split
    · rename_i client hfind
      refine .inr (.inl ⟨client.1, ?_, rfl, by simp⟩)
      have hname : client.2 = name := by simpa using List.find?_some hfind
      rw [← hname]
      exact AList.mem_lookup_iff.mpr (List.mem_of_find?_eq_some hfind)
    · rename_i hfind
      refine .inr (.inr ⟨fun id hid => ?_, rfl, by simp⟩)
      have hno := List.find?_eq_none.mp hfind _ (AList.mem_lookup_iff.mp hid)
      simp at hno

theorem clients_step (h : implementation.step pm l = some (pm', es)) : ClientStep pm l pm' := by
  have hsame : ∀ r : Implementation × List Event, pm.SameClients r.1 → some r = some (pm', es) →
      ClientStep pm l pm' := by
    rintro r hr heq
    cases heq
    exact .same hr.1 hr.2
  cases l with
  | request n ds =>
    simp only [implementation] at h
    split at h
    · exact hsame _ (pm.sameClients_setPowerStateRead n ds) h
    · cases h
  | create env =>
    simp only [implementation] at h
    split at h
    · exact hsame _ (pm.sameClients_setPowerStateCreate env _ _ _) h
    · cases h
  | schedule env =>
    simp only [implementation] at h
    split at h
    · exact hsame _ (pm.sameClients_setPowerStateSchedule env _ _ _ _ _) h
    · cases h
  | powerModePreChangeComplete id tid env =>
    refine hsame _ ?_ h
    simp only [powerModePreChangeComplete]
    split
    · exact ⟨rfl, rfl⟩
    · rename_i c hc
      exact sameClients_completionHandlers
        { pm with modeChangeController := some (c.ack id tid).2.1 } env _
  | delayPowerModeChangeBy id tid d now =>
    refine hsame _ ?_ h
    simp only [delayPowerModeChangeBy]
    split <;> exact ⟨rfl, rfl⟩
  | addPowerModePreChangeClient name =>
    have hpm' : (pm.addPowerModePreChangeClient name).1 = pm' :=
      congrArg Prod.fst (Option.some.inj h)
    rcases pm.addPowerModePreChangeClient_cases name with ⟨-, hpm⟩ | ⟨id, -, hpm, -⟩ |
      ⟨hnew, hpm, hanswer⟩
    · rw [← hpm', hpm]
      exact .same rfl rfl
    · rw [← hpm', hpm]
      exact .same rfl rfl
    · rw [← hpm', hpm]
      exact .added hnew hanswer rfl rfl
  | removePowerModePreChangeClient id env =>
    have hpm' : (pm.removePowerModePreChangeClient env id).1 = pm' :=
      congrArg Prod.fst (Option.some.inj h)
    rw [← hpm']
    simp only [removePowerModePreChangeClient]
    split
    · exact .same rfl rfl
    · split
      · exact .removed rfl rfl
      · rename_i c hc
        obtain ⟨hclients, hnext⟩ := sameClients_completionHandlers
          { pm with
            modeChangeClients := pm.modeChangeClients.erase id
            modeChangeController := some (c.ackClient id).2.1 } env (c.ackClient id).2.2
        exact .removed hclients hnext
  | timer env =>
    simp only [implementation] at h
    split at h
    · split at h
      · rename_i c hc hsch
        exact hsame _ (sameClients_completionHandlers
          { pm with modeChangeController := some c.dispatchTimer.1 } env _) h
      · cases h
    · cases h

/-! ## The ids of a run -/

variable {start : Implementation}

/-- After one more step, an id has been handed out before, or by that step. -/
theorem handedOut_snoc (hrun : implementation.Run start ls os pm) :
    HandedOut start (ls ++ [l]) id name ↔ HandedOut start ls id name ∨
      l = .addPowerModePreChangeClient name ∧
        .clientId id ∈ (pm.addPowerModePreChangeClient name).2 := by
  constructor
  · rintro ⟨pre, post, os', q, hcut, hrun', hmem⟩
    rcases List.eq_nil_or_concat post with rfl | ⟨mid, last, rfl⟩
    · obtain ⟨rfl, hl⟩ := List.append_inj' hcut rfl
      obtain ⟨rfl, -⟩ := hrun.det hrun'
      exact .inr ⟨by simpa using hl, hmem⟩
    · rw [List.concat_eq_append, ← List.cons_append, ← List.append_assoc] at hcut
      obtain ⟨rfl, -⟩ := List.append_inj' hcut rfl
      exact .inl ⟨pre, mid, os', q, rfl, hrun', hmem⟩
  · rintro (⟨pre, post, os', q, rfl, hrun', hmem⟩ | ⟨rfl, hmem⟩)
    · exact ⟨pre, post ++ [l], os', q, by simp, hrun', hmem⟩
    · exact ⟨ls, [], os, pm, rfl, hrun, hmem⟩

/-- The ids that have been handed out, while the counter has not wrapped around. -/
structure Ids (start : Implementation) (ls : List Label) (pm : Implementation) : Prop where
  counter : pm.nextClientId.toNat ≤ start.nextClientId.toNat + registrations ls
  bounds : ∀ id name, HandedOut start ls id name → start.nextClientId < id ∧ id ≤ pm.nextClientId
  unique : ∀ id name name', HandedOut start ls id name → HandedOut start ls id name' → name = name'
  registered : ∀ id name, pm.modeChangeClients.lookup id = some name → HandedOut start ls id name
  distinct : ∀ id id' name, pm.modeChangeClients.lookup id = some name →
    pm.modeChangeClients.lookup id' = some name → id = id'
  le : start.nextClientId ≤ pm.nextClientId

theorem registrations_snoc (ls : List Label) (l : Label) :
    registrations ls ≤ registrations (ls ++ [l]) ∧
      ∀ name, l = .addPowerModePreChangeClient name →
        registrations (ls ++ [l]) = registrations ls + 1 := by
  rw [registrations, registrations, List.countP_append]
  refine ⟨Nat.le_add_right _ _, ?_⟩
  rintro name rfl
  rfl

/-- What an answer hands out is registered, if no new name is. -/
theorem Ids.of_same (hI : Ids start ls pm) (hrun : implementation.Run start ls os pm)
    (hclients : pm'.modeChangeClients = pm.modeChangeClients)
    (hnext : pm'.nextClientId = pm.nextClientId)
    (hstep : implementation.step pm l = some (pm', es)) : Ids start (ls ++ [l]) pm' := by
  -- an id that is handed out now is that of a client
  have hmem : ∀ id name, HandedOut start (ls ++ [l]) id name → HandedOut start ls id name := by
    intro id name hout
    rcases (handedOut_snoc hrun).mp hout with hold | ⟨rfl, hid⟩
    · exact hold
    · rcases pm.addPowerModePreChangeClient_cases name with ⟨hnone, -⟩ | ⟨id', hlookup, -, hall⟩ |
        ⟨hnew, hpm, -⟩
      · exact absurd hid (hnone id)
      · rw [hall id hid]
        exact hI.registered id' name hlookup
      · have hpm' : (pm.addPowerModePreChangeClient name).1 = pm' :=
          congrArg Prod.fst (Option.some.inj hstep)
        have hlookup : pm.modeChangeClients.lookup (pm.nextClientId + 1) = some name := by
          rw [← hclients, ← hpm', hpm]
          exact AList.lookup_insert _
        exact absurd hlookup (hnew _)
  refine ⟨?_, fun id name hout => ?_, fun id name name' hout hout' => ?_, fun id name hid => ?_, ?_,
    hnext ▸ hI.le⟩
  · rw [hnext]
    exact hI.counter.trans (Nat.add_le_add_left (registrations_snoc ls l).1 _)
  · rw [hnext]
    exact hI.bounds id name (hmem id name hout)
  · exact hI.unique id name name' (hmem id name hout) (hmem id name' hout')
  · rw [hclients] at hid
    exact (handedOut_snoc hrun).mpr (.inl (hI.registered id name hid))
  · rw [hclients]
    exact hI.distinct

/-- Every step keeps the ids unique, while the counter does not wrap around. -/
theorem ids_step (hI : Ids start ls pm) (hrun : implementation.Run start ls os pm)
    (hwrap : start.nextClientId.toNat + registrations (ls ++ [l]) < 2 ^ 32)
    (hstep : implementation.step pm l = some (pm', es)) : Ids start (ls ++ [l]) pm' := by
  cases clients_step hstep with
  | same hclients hnext => exact hI.of_same hrun hclients hnext hstep
  | @removed id env _ hclients hnext =>
    have hlookup : ∀ id' name, pm'.modeChangeClients.lookup id' = some name →
        pm.modeChangeClients.lookup id' = some name := by
      intro id' name hid
      rw [hclients] at hid
      by_cases hne : id' = id
      · rw [hne, AList.lookup_erase] at hid
        cases hid
      · rwa [AList.lookup_erase_ne hne] at hid
    have hmem : ∀ id' name,
        HandedOut start (ls ++ [.removePowerModePreChangeClient id env]) id' name ↔
        HandedOut start ls id' name := by
      intro id' name
      rw [handedOut_snoc hrun]
      simp
    refine ⟨?_, ?_, ?_, ?_, ?_, hnext ▸ hI.le⟩
    · rw [hnext]
      exact hI.counter.trans (Nat.add_le_add_left (registrations_snoc ls _).1 _)
    · intro id' name hout
      rw [hnext]
      exact hI.bounds id' name ((hmem id' name).mp hout)
    · intro id' name name' hout hout'
      exact hI.unique id' name name' ((hmem id' name).mp hout) ((hmem id' name').mp hout')
    · exact fun id' name hid => (hmem id' name).mpr (hI.registered id' name (hlookup id' name hid))
    · exact fun id' id'' name hid hid' => hI.distinct id' id'' name (hlookup id' name hid)
        (hlookup id'' name hid')
  | @added name _ hnew hanswer hclients hnext =>
    obtain ⟨-, hcount⟩ := registrations_snoc ls (.addPowerModePreChangeClient name)
    have hcount := hcount name rfl
    have hcounter := hI.counter
    have hlt : pm.nextClientId < pm.nextClientId + 1 := by
      rw [UInt32.lt_iff_toNat_lt, UInt32.toNat_add, UInt32.toNat_one]
      omega
    -- what is handed out now is the new id, which nobody has had
    have hmem : ∀ id' name', HandedOut start (ls ++ [.addPowerModePreChangeClient name]) id' name' →
        HandedOut start ls id' name' ∨ name' = name ∧ id' = pm.nextClientId + 1 := by
      intro id' name' hout
      rcases (handedOut_snoc hrun).mp hout with hold | ⟨heq, hid⟩
      · exact .inl hold
      · obtain rfl : name' = name := by simpa using heq.symm
        exact .inr ⟨rfl, (hanswer id').mp hid⟩
    have hfresh : ∀ name', ¬HandedOut start ls (pm.nextClientId + 1) name' := fun name' hout =>
      absurd (hI.bounds _ _ hout).2 (UInt32.not_le.mpr hlt)
    refine ⟨?_, ?_, ?_, ?_, ?_, ?_⟩
    · rw [hnext, hcount, UInt32.toNat_add, UInt32.toNat_one]
      omega
    · intro id' name' hout
      rw [hnext]
      rcases hmem id' name' hout with hold | ⟨-, rfl⟩
      · obtain ⟨hlow, hhigh⟩ := hI.bounds id' name' hold
        exact ⟨hlow, UInt32.le_trans hhigh (UInt32.le_of_lt hlt)⟩
      · exact ⟨UInt32.lt_of_le_of_lt hI.le hlt, UInt32.le_refl _⟩
    · intro id' name₁ name₂ hout₁ hout₂
      rcases hmem id' name₁ hout₁ with hold₁ | ⟨rfl, rfl⟩
      · rcases hmem id' name₂ hout₂ with hold₂ | ⟨-, rfl⟩
        · exact hI.unique id' name₁ name₂ hold₁ hold₂
        · exact absurd hold₁ (hfresh _)
      · rcases hmem _ name₂ hout₂ with hold₂ | ⟨rfl, -⟩
        · exact absurd hold₂ (hfresh _)
        · rfl
    · intro id' name' hid
      rw [hclients] at hid
      by_cases hne : id' = pm.nextClientId + 1
      · rw [hne, AList.lookup_insert] at hid
        cases hid
        rw [hne]
        exact (handedOut_snoc hrun).mpr (.inr ⟨rfl, (hanswer _).mpr rfl⟩)
      · rw [AList.lookup_insert_ne hne] at hid
        exact (handedOut_snoc hrun).mpr (.inl (hI.registered id' name' hid))
    · intro id₁ id₂ name' hid₁ hid₂
      rw [hclients] at hid₁ hid₂
      by_cases hne₁ : id₁ = pm.nextClientId + 1
      · rw [hne₁, AList.lookup_insert] at hid₁
        cases hid₁
        by_cases hne₂ : id₂ = pm.nextClientId + 1
        · rw [hne₁, hne₂]
        · rw [AList.lookup_insert_ne hne₂] at hid₂
          exact absurd hid₂ (hnew id₂)
      · rw [AList.lookup_insert_ne hne₁] at hid₁
        by_cases hne₂ : id₂ = pm.nextClientId + 1
        · rw [hne₂, AList.lookup_insert] at hid₂
          cases hid₂
          exact absurd hid₁ (hnew id₁)
        · rw [AList.lookup_insert_ne hne₂] at hid₂
          exact hI.distinct id₁ id₂ name' hid₁ hid₂
    · rw [hnext]
      exact UInt32.le_trans hI.le (UInt32.le_of_lt hlt)

theorem ids_run (h : implementation.Run start ls os pm) (hempty : start.modeChangeClients = ∅)
    (hwrap : start.nextClientId.toNat + registrations ls < 2 ^ 32) : Ids start ls pm := by
  induction h with
  | nil =>
    have hnone : ∀ id name, ¬HandedOut start [] id name := by
      rintro id name ⟨pre, post, os, q, hcut, -⟩
      simp at hcut
    refine ⟨Nat.le_add_right _ _, fun id name h => absurd h (hnone id name),
      fun id name _ h => absurd h (hnone id name), ?_, ?_, UInt32.le_refl _⟩
    · intro id name hid
      simp [hempty] at hid
    · intro id id' name hid
      simp [hempty] at hid
  | @snoc q q' ls os os' l hrun hstep ih =>
    have hle := (registrations_snoc ls l).1
    exact ids_step (ih (by omega)) hrun hwrap hstep

/-- A client that is removed stays removed: its id is given to nobody else. -/
theorem removed_run {mid : List Label} {os' : List Event}
    (h : implementation.Run start ls os pm) (hempty : start.modeChangeClients = ∅)
    (hwrap : start.nextClientId.toNat + registrations (ls ++ mid) < 2 ^ 32)
    (hout : HandedOut start ls id name) (hgone : pm.modeChangeClients.lookup id = none)
    (h' : implementation.Run pm mid os' pm') : pm'.modeChangeClients.lookup id = none := by
  induction h' with
  | nil => exact hgone
  | @snoc q q' mid os' os'' l hrun hstep ih =>
    rw [← List.append_assoc] at hwrap
    have hle := (registrations_snoc (ls ++ mid) l).1
    have hgone' := ih (by omega)
    have hI := ids_run (h.trans hrun) hempty (by omega)
    have hout' : HandedOut start (ls ++ mid) id name := by
      obtain ⟨pre, post, os₀, r, rfl, hrun₀, hmem⟩ := hout
      exact ⟨pre, post ++ mid, os₀, r, by simp, hrun₀, hmem⟩
    cases clients_step hstep with
    | same hclients => rwa [hclients]
    | @removed id' env _ hclients =>
      rw [hclients]
      by_cases hne : id = id'
      · rw [hne, AList.lookup_erase]
      · rwa [AList.lookup_erase_ne hne]
    | @added name' _ hnew hanswer hclients =>
      -- the new id is larger than all that have been handed out
      have hcounter := hI.counter
      have hcount :=
        (registrations_snoc (ls ++ mid) (.addPowerModePreChangeClient name')).2 name' rfl
      have hlt : q.nextClientId < q.nextClientId + 1 := by
        rw [UInt32.lt_iff_toNat_lt, UInt32.toNat_add, UInt32.toNat_one]
        omega
      have hne : id ≠ q.nextClientId + 1 := by
        rintro rfl
        exact UInt32.not_le.mpr hlt (hI.bounds _ name hout').2
      rwa [hclients, AList.lookup_insert_ne hne]

/-- As long as the counter does not wrap around, an id belongs to one name, and two clients that are
registered have different names. An id lies above the counter at the start, so that it is none of an
earlier instance. Once its client has been removed, it is never registered again, and
acknowledgements with it are refused. -/
theorem client_ids (h : implementation.Run (initial pc tid cid) ls os pm)
    (hwrap : cid.toNat + registrations ls < 2 ^ 32) :
    (∀ id name name', HandedOut (initial pc tid cid) ls id name →
      HandedOut (initial pc tid cid) ls id name' → name = name') ∧
    (∀ id id' name, pm.modeChangeClients.lookup id = some name →
      pm.modeChangeClients.lookup id' = some name → id = id') ∧
    (∀ id name, HandedOut (initial pc tid cid) ls id name → cid < id ∧ id ≤ pm.nextClientId) ∧
    ∀ pre post id name os₁ q tid' env, ls = pre ++ post →
      implementation.Run (initial pc tid cid) pre os₁ q →
      HandedOut (initial pc tid cid) pre id name → id ∉ q.modeChangeClients →
        id ∉ pm.modeChangeClients ∧
        implementation.step pm (.powerModePreChangeComplete id tid' env) =
          some (pm, [.returned .errorInvalidParameter]) := by
  have hI := ids_run h rfl hwrap
  refine ⟨hI.unique, hI.distinct, hI.bounds, ?_⟩
  rintro pre post id name os₁ q tid' env rfl hpre hout hgone
  obtain ⟨q', os₂, os₃, -, hpre', hpost⟩ := h.split
  obtain ⟨rfl, -⟩ := hpre.det hpre'
  have hnone := removed_run hpre rfl hwrap hout (AList.lookup_eq_none.mpr hgone) hpost
  have hpm : id ∉ pm.modeChangeClients := AList.lookup_eq_none.mp hnone
  refine ⟨hpm, ?_⟩
  cases hc : pm.modeChangeController with
  | none => simp [implementation, powerModePreChangeComplete, hc]
  | some c =>
    -- only registered clients are waited for
    have hpending : id ∉ c.pending := by
      intro hmem
      obtain ⟨-, hawaits⟩ := awaits_run (inv_initial pc tid cid) rfl h
      have hreg := (hawaits c hc).1 hmem
      exact hpm (AList.mem_keys.mpr (List.mem_toFinset.mp hreg))
    have hsame : ({ pm with modeChangeController := some c } : Implementation) = pm := by rw [← hc]
    rcases c.ack_cases id tid' with ⟨-, he⟩ | ⟨hgood, -⟩ | ⟨hgood, -⟩
    · simp [implementation, powerModePreChangeComplete, hc, he, completionHandlers, hsame]
    · exact absurd hgood.2 hpending
    · exact absurd hgood.2 hpending

/-- A client is removed while a transition waits for it and another one. It registers again, and
gets another id. -/
theorem client_ids_of_again :
    ∃ os pm, implementation.Run (initial .isOn 0 0) ([.addPowerModePreChangeClient "first",
        .addPowerModePreChangeClient "second", .request .standby .awake, .create .accepts,
        .schedule .accepts, .removePowerModePreChangeClient 1 .accepts] ++
          [.addPowerModePreChangeClient "first"]) os pm ∧ .clientId 3 ∈ os ∧
      implementation.step pm (.powerModePreChangeComplete 1 1 .accepts) =
        some (pm, [.returned .errorInvalidParameter]) := by
  have h : implementation.Run (initial .isOn 0 0) ([.addPowerModePreChangeClient "first",
      .addPowerModePreChangeClient "second", .request .standby .awake, .create .accepts,
      .schedule .accepts, .removePowerModePreChangeClient 1 .accepts] ++
        [.addPowerModePreChangeClient "first"]) _ _ := Machine.run_of_exec rfl
  have hpre : implementation.Run (initial .isOn 0 0) [.addPowerModePreChangeClient "first",
      .addPowerModePreChangeClient "second", .request .standby .awake, .create .accepts,
      .schedule .accepts, .removePowerModePreChangeClient 1 .accepts] _ _ :=
    Machine.run_of_exec rfl
  refine ⟨_, _, h, by decide, ?_⟩
  exact ((client_ids h (by decide)).2.2.2 _ _ 1 "first" _ _ 1 .accepts rfl hpre
    ⟨[], _, [], _, rfl, .nil _, by decide⟩ (by decide)).2

end Implementation

end PowerManager
