import PowerManager.Notifications
import PowerManager.Traversal
import Mathlib.Data.List.Perm.Basic

/-!
# Every registered sink is notified once

While a notification goes out, sinks register and unregister, other notifications go out from within
this one, and the worker pool runs its jobs. This module follows a single loop over the sinks
through all of that, as a `Traversal` of their list.

The module introduces:

* `Followed` — a loop that is followed, with what a step can do to it: the loop that has begun on a
  given number of other ones, `dispatched`, and the one that submits the pre-change event,
  `submitting`;
* `Once` — every sink that is registered when the loop begins and is not unregistered meanwhile has
  its turn once, in the order of registration, and no sink has more turns than it has been
  registered;
* `notified_once` and `told_once` — a loop gives every sink its turn once, unless a sink is
  unregistered while the loop is at it; and each turn in the submission is one call of
  `OnPowerModePreChange`, or a job that is still queued.
-/

namespace PowerManager

open Traversal (traversal)

/-- The sink that an iterator points to. -/
def Cursor.sink? {S : Type*} : Cursor S → Option S
  | .visiting sink => some sink
  | .dangling => none

namespace Notifications

variable {S : Type*} [DecidableEq S]

/-- The loop has not ended, and the sink it is at is not unregistered. -/
def Going (loop? : Option (Loop S)) (l : Label S) : Prop :=
  ∃ loop ∈ loop?, ∀ sink ∈ loop.cursor.sink?, l ≠ .unregister loop.notification.interface sink

instance (loop? : Option (Loop S)) (l : Label S) : Decidable (Going loop? l) :=
  inferInstanceAs (Decidable (∃ loop ∈ loop?, ∀ sink ∈ loop.cursor.sink?, _ ≠ _))

/-- A loop is left as it is, or goes on from a sink to the one that follows it. -/
def Moves (n n' : Notifications S) (loop : Loop S) (loop'? : Option (Loop S)) (called : List S) :
    Prop :=
  (called = [] ∧ loop'? = some loop) ∨
    ∃ wild, n'.sinks = n.sinks ∧
      called = (Cursor.next (n.sinks loop.notification.interface) wild loop.cursor).toList ∧
      loop'? = (Cursor.next (n.sinks loop.notification.interface) wild loop.cursor).map
        fun sink => ⟨loop.notification, .visiting sink⟩

/-- A loop that is followed. -/
structure Followed (S : Type*) [DecidableEq S] where
  /-- Where the loop is, until it ends. -/
  loop? : Notifications S → Option (Loop S)
  /-- The sinks that have their turn in a step. -/
  called : Notifications S → Label S → Notifications S → List (Output S) → List S
  moves : ∀ {n n' : Notifications S} {l os loop}, notifications.step n l = some (n', os) →
    loop? n = some loop → Going (loop? n) l → Moves n n' loop (loop? n') (called n l n' os)

variable {n n' : Notifications S} {l : Label S} {ls : List (Label S)} {os os' : List (Output S)}
  {i : Interface} {m : Notification} {s : S} {d : ℕ} {loop : Loop S}

/-! ## The list of the loop -/

/-- The list changes as `Register` and `Unregister` are called. -/
structure Follows (i : Interface) (ls : List (Label S)) (ls' : List (Traversal.Label S)) :
    Prop where
  append_le : ∀ s, ls'.count (.append s) ≤ ls.count (.register i s)
  erase : ∀ s, .erase s ∈ ls' → .unregister i s ∈ ls

theorem Follows.nil : Follows i ls [] := ⟨by simp, by simp⟩

theorem Follows.trans {ms : List (Label S)} {ls' ms' : List (Traversal.Label S)}
    (h : Follows i ls ls') (h' : Follows i ms ms') : Follows i (ls ++ ms) (ls' ++ ms') := by
  constructor
  · intro s
    rw [List.count_append, List.count_append]
    exact Nat.add_le_add (h.append_le s) (h'.append_le s)
  · intro s hs
    rcases List.mem_append.mp hs with hs | hs
    · exact List.mem_append_left _ (h.erase s hs)
    · exact List.mem_append_right _ (h'.erase s hs)

/-- A step that leaves the sink of the loop registered changes the list as a traversal allows. -/
theorem list_step {t : Traversal S} (hn : (n.sinks i).Nodup) (ht : n.sinks i = t.toList)
    (hl : l ≠ .unregister i t.current) (h : notifications.step n l = some (n', os)) :
    ∃ ls' t', traversal.Run t ls' [] t' ∧ n'.sinks i = t'.toList ∧ t'.current = t.current ∧
      Follows i [l] ls' := by
  have hkept : n'.sinks i = n.sinks i → ∃ ls' t', traversal.Run t ls' [] t' ∧
      n'.sinks i = t'.toList ∧ t'.current = t.current ∧ Follows i [l] ls' :=
    fun hsame => ⟨[], t, .nil t, hsame.trans ht, rfl, .nil⟩
  rcases sinks_cases h with ⟨j, s, rfl, rfl⟩ | ⟨j, s, rfl, rfl⟩ | hsinks
  · by_cases hmem : s ∈ n.sinks j
    · exact hkept (by simp [register, hmem])
    rcases eq_or_ne i j with rfl | hj
    · have hstep := Traversal.step_append (ht ▸ hmem)
      obtain ⟨-, hlist, hcurrent⟩ := Traversal.toList_append hstep
      refine ⟨[.append s], _, .single hstep, ?_, hcurrent, ?_⟩
      · rw [hlist, ← ht]
        simp [register, hmem]
      · exact ⟨fun y => by simp [List.count_singleton], by simp⟩
    · exact hkept (by simp [register, hmem, hj])
  · by_cases hmem : s ∈ n.sinks j
    · rcases eq_or_ne i j with rfl | hj
      · have hne : s ≠ t.current := fun hs => hl (hs ▸ rfl)
        have hstep := Traversal.step_erase hne
        obtain ⟨hlist, hcurrent⟩ := Traversal.toList_erase (ht ▸ hn) hstep
        refine ⟨[.erase s], _, .single hstep, ?_, hcurrent, ?_⟩
        · rw [hlist, ← ht]
          simp [unregister, hmem]
        · exact ⟨by simp, by simp⟩
      · exact hkept (by simp [unregister, hmem, hj])
    · exact hkept (by simp [unregister, hmem])
  · exact hkept (by rw [hsinks])

/-- What follows an element that is in a list once. -/
theorem follower_eq {before after : List S} (hn : (before ++ s :: after).Nodup) :
    follower s (before ++ s :: after) = after.head? := by
  induction before with
  | nil => simp [follower]
  | cons s' before ih =>
    obtain ⟨hnot, hn⟩ := List.nodup_cons.mp hn
    have hne : s' ≠ s := fun hs => hnot (by simp [hs])
    rw [List.cons_append, follower, if_neg hne]
    exact ih hn

/-- The loop is at the current element of its list. -/
structure Followed.Tracks (F : Followed S) (m : Notification) (n : Notifications S)
    (t : Traversal S) : Prop where
  loop : F.loop? n = some ⟨m, .visiting t.current⟩
  list : n.sinks m.interface = t.toList
  nodup : ∀ i, (n.sinks i).Nodup

/-- No step registers a sink twice. -/
theorem nodup_step (hn : ∀ i, (n.sinks i).Nodup) (h : notifications.step n l = some (n', os))
    (i : Interface) : (n'.sinks i).Nodup := by
  rcases sinks_cases h with ⟨j, s, rfl, rfl⟩ | ⟨j, s, rfl, rfl⟩ | hsinks
  · exact nodup_register hn j s i
  · exact nodup_unregister hn j s i
  · rw [hsinks]
    exact hn i

/-- A step changes the list of the loop, or the loop goes on, or it ends at the end of the list. -/
theorem Followed.Tracks.step {F : Followed S} {t : Traversal S} {called : List S}
    (ht : F.Tracks m n t) (hgoing : Going (F.loop? n) l)
    (h : (notifications.view F.called).step n l = some (n', called)) :
    (∃ ls' t', traversal.Run t ls' called t' ∧ F.Tracks m n' t' ∧ Follows m.interface [l] ls') ∨
      F.loop? n' = none ∧ called = [] ∧ t.after = [] := by
  obtain ⟨os, hstep, rfl⟩ := Machine.view_step.mp h
  have hnodup := nodup_step ht.nodup hstep
  rcases F.moves hstep ht.loop hgoing with ⟨hcalled, hsame⟩ | ⟨wild, hsinks, hcalled, hnext⟩
  · -- the loop stays where it is, and only its list may change
    obtain ⟨_, hloop, hspared⟩ := hgoing
    rw [ht.loop] at hloop
    obtain rfl := Option.some.inj hloop
    obtain ⟨ls', t', hrun, hlist, hcurrent, hfollows⟩ :=
      list_step (ht.nodup _) ht.list (hspared t.current rfl) hstep
    rw [hcalled]
    exact .inl ⟨ls', t', hrun, ⟨hcurrent ▸ hsame, hlist, hnodup⟩, hfollows⟩
  · have hafter : Cursor.next (n.sinks m.interface) wild (.visiting t.current) = t.after.head? := by
      have hn := ht.nodup m.interface
      rw [ht.list] at hn ⊢
      exact follower_eq hn
    rw [hafter] at hcalled hnext
    cases hrest : t.after with
    | nil => exact .inr ⟨by simpa [hrest] using hnext, by simpa [hrest] using hcalled, rfl⟩
    | cons s rest =>
      refine .inl ⟨[.next], ⟨t.before ++ [t.current], s, rest⟩, ?_, ⟨?_, ?_, hnodup⟩, ?_⟩
      · rw [hcalled, hrest]
        apply Machine.Run.single
        simp [traversal, hrest]
      · simpa [hrest] using hnext
      · rw [hsinks, ht.list]
        simp [Traversal.toList, hrest]
      · exact ⟨by simp, by simp⟩

/-- As long as the loop has not ended, it goes through its list as a traversal does. -/
theorem Followed.Tracks.run {F : Followed S} {t : Traversal S} {called : List S}
    (ht : F.Tracks m n t) (h : (notifications.view F.called).Run n ls called n')
    (hgoing : notifications.Along (fun n => Going (F.loop? n)) n ls) (hloop : F.loop? n' ≠ none) :
    ∃ ls' t', traversal.Run t ls' called t' ∧ F.Tracks m n' t' ∧ Follows m.interface ls ls' := by
  refine h.induction_along (C := fun n => Going (F.loop? n))
    (I := fun ls called n' => F.loop? n' ≠ none → ∃ ls' t', traversal.Run t ls' called t' ∧
      F.Tracks m n' t' ∧ Follows m.interface ls ls') hgoing.view
    (fun _ => ⟨[], t, .nil t, ht, .nil⟩) ?_ hloop
  intro ls called u l v called' _ hI hl hstep hv
  obtain ⟨_, hu, -⟩ := id hl
  obtain ⟨ls', t', hrun, ht', hfollows⟩ := hI (by rw [hu]; simp)
  rcases ht'.step hl hstep with ⟨ls₁, t₁, hrun₁, ht₁, hfollows₁⟩ | ⟨hend, -⟩
  · exact ⟨ls' ++ ls₁, t₁, hrun.trans hrun₁, ht₁, hfollows.trans hfollows₁⟩
  · exact absurd hend hv

/-- Who has had a turn in a loop that has begun with the list `sinks` and has ended after `ls`. -/
structure Once (sinks : List S) (i : Interface) (ls : List (Label S)) (called : List S) : Prop where
  /-- The sinks that stay registered have their turn in the order in which they are registered. -/
  order : (sinks.filter fun s => .unregister i s ∉ ls).Sublist called
  once : ∀ s ∈ sinks, .unregister i s ∉ ls → called.count s = 1
  /-- Who is registered anew meanwhile may have another turn. -/
  count_le : ∀ s, called.count s ≤ sinks.count s + ls.count (.register i s)

/-- A loop that has begun at the first sink, if there is one, and has ended has given each sink its
turn. -/
theorem Followed.once (F : Followed S) {called : List S} (hn : ∀ i, (n.sinks i).Nodup)
    (hloop : F.loop? n = (n.sinks m.interface).head?.map fun s => ⟨m, .visiting s⟩)
    (h : (notifications.view F.called).Run n ls called n')
    (hgoing : notifications.Along (fun n => Going (F.loop? n)) n ls) (hend : F.loop? n' = none) :
    Once (n.sinks m.interface) m.interface ls ((n.sinks m.interface).head?.toList ++ called) := by
  have hnodup := hn m.interface
  generalize hlist : n.sinks m.interface = list at hloop hnodup
  rcases list with _ | ⟨s, sinks⟩
  · -- there is nobody whose turn it could be, and the loop has ended at once
    have hls : ls = [] := by
      cases ls with
      | nil => rfl
      | cons l ls =>
        obtain ⟨_, hmem, -⟩ := hgoing [] l ls [] n rfl (.nil n)
        simp [hloop] at hmem
    subst hls
    obtain ⟨-, rfl⟩ := h.nil_inv
    constructor <;> simp
  rcases List.eq_nil_or_concat ls with rfl | ⟨init, l, rfl⟩
  · -- the loop has begun, and so it has not ended at once
    obtain ⟨rfl, -⟩ := h.nil_inv
    simp [hloop] at hend
  · rw [List.concat_eq_append] at h hgoing ⊢
    obtain ⟨u, called₁, called₂, rfl, hrun, hstep⟩ := h.snoc_inv
    obtain ⟨os, hrun'⟩ := hrun.of_view
    have hl := hgoing.last hrun'
    obtain ⟨_, hu, -⟩ := id hl
    have ht : F.Tracks m n (.start s sinks) := ⟨hloop, hlist, hn⟩
    obtain ⟨ls', t', htraversal, ht', hfollows⟩ := ht.run hrun hgoing.left (by rw [hu]; simp)
    rcases ht'.step hl hstep with ⟨_, t₁, -, ht₁, -⟩ | ⟨-, rfl, hafter⟩
    · simp [ht₁.loop] at hend
    have hV := Traversal.visited_run hnodup htraversal
    have hsub : ∀ y, .unregister m.interface y ∉ init ++ [l] → .erase y ∉ ls' := fun y hy hmem =>
      hy (List.mem_append_left _ (hfollows.erase y hmem))
    rw [List.append_nil, List.head?_cons, Option.toList_some, List.singleton_append]
    constructor
    · have horder := hV.order
      rw [hafter, List.append_nil] at horder
      refine .trans (List.monotone_filter_right _ fun y hy => ?_) horder
      simpa using hsub y (by simpa using hy)
    · intro y hy hkept
      have hone := hV.count_eq_one hnodup hy (hsub y hkept)
      simpa [hafter] using hone
    · intro y
      have hle := hV.count_le y
      have hregister := hfollows.append_le y
      rw [hafter, List.count_nil] at hle
      rw [List.count_append]
      omega

/-! ## Loops under the lock -/

/-- The loop that has begun on `d` other ones. -/
def loopAt (d : ℕ) (n : Notifications S) : Option (Loop S) := n.dispatches.reverse[d]?

/-- The sinks that are notified. -/
def Output.sink? : Output S → Option S
  | .invoke sink _ => some sink
  | .returned _ => none

/-- The sinks that the loop on `d` other ones notifies in a step. -/
def calledAt (d : ℕ) (n : Notifications S) (l : Label S) (_ : Notifications S)
    (os : List (Output S)) : List S :=
  match l with
  | .dispatch _ => if n.dispatches.length = d then os.filterMap Output.sink? else []
  | .dispatchNext _ => if n.dispatches.length = d + 1 then os.filterMap Output.sink? else []
  | .register _ _ | .unregister _ _ | .submit _ _ _ _ | .submitNext _ | .runJob _ => []

omit [DecidableEq S] in
/-- A loop is there exactly as long as there are more than those on which it has begun. -/
theorem lt_of_loopAt (h : n.loopAt d = some loop) : d < n.dispatches.length := by
  simpa [loopAt] using (List.getElem?_eq_some_iff.mp h).1

/-- The loops beneath the innermost one are where they are. -/
theorem getElem?_reverse_cons {α : Type*} {x : α} {xs : List α} (h : d < xs.length) :
    (x :: xs).reverse[d]? = xs.reverse[d]? := by
  rw [List.reverse_cons, List.getElem?_append_left (by simpa using h)]

/-- `Unregister` leaves a loop as it is that is not at the sink. -/
theorem erase_of_spared (hspared : ∀ sink ∈ loop.cursor.sink?,
    Label.unregister i s ≠ .unregister loop.notification.interface sink) :
    loop.erase i s = loop := by
  rw [Loop.erase, if_neg]
  rintro ⟨rfl, hcursor⟩
  exact hspared s (by rw [hcursor]; rfl) rfl

omit [DecidableEq S] in
@[simp]
theorem submitJob_dispatches (n : Notifications S) (m : Notification) (sink? : Option S) :
    (n.submitJob m sink?).1.dispatches = n.dispatches := by
  cases sink? <;> rfl

@[simp]
theorem register_dispatches (n : Notifications S) (i : Interface) (sink : S) :
    (n.register i sink).1.dispatches = n.dispatches := by
  unfold register
  split <;> rfl

/-- The innermost loop goes on. -/
theorem loopAt_dispatchNext {inner : Loop S} {outer : List (Loop S)} (wild : Option S)
    (hstack : n.dispatches = inner :: outer) (hloop : n.loopAt d = some loop) :
    Moves n (n.dispatchNext inner outer wild).1 loop ((n.dispatchNext inner outer wild).1.loopAt d)
      (calledAt d n (.dispatchNext wild) n' (n.dispatchNext inner outer wild).2) := by
  have hd := lt_of_loopAt hloop
  rw [loopAt, hstack] at hloop
  rw [hstack, List.length_cons] at hd
  rcases Nat.lt_or_ge d outer.length with hlt | hge
  · -- it is not the one that is followed
    rw [getElem?_reverse_cons hlt] at hloop
    refine .inl ⟨if_neg (by rw [hstack, List.length_cons]; omega), ?_⟩
    unfold dispatchNext
    split
    · exact hloop
    · rw [loopAt, getElem?_reverse_cons hlt]
      exact hloop
  · obtain rfl : d = outer.length := by omega
    obtain rfl : inner = loop := by simpa using hloop
    refine .inr ⟨wild, dispatchNext_sinks .., ?_, ?_⟩
    · rw [calledAt, if_pos (by rw [hstack, List.length_cons])]
      unfold dispatchNext
      split <;> simp_all [Output.sink?]
    · unfold dispatchNext
      split <;> simp_all [loopAt]

/-- What a step does to a loop under the lock. -/
theorem loopAt_moves (h : notifications.step n l = some (n', os)) (hloop : n.loopAt d = some loop)
    (hgoing : Going (n.loopAt d) l) : Moves n n' loop (n'.loopAt d) (calledAt d n l n' os) := by
  have hd := lt_of_loopAt hloop
  have hkept : n'.dispatches = n.dispatches → n'.loopAt d = some loop := fun hsame => by
    rw [loopAt, hsame]
    exact hloop
  cases l with
  | register i s =>
    refine .inl ⟨rfl, hkept ?_⟩
    rw [← (eq_of_step h).1, register_dispatches]
  | unregister i s =>
    obtain ⟨_, hloop', hspared⟩ := hgoing
    rw [hloop] at hloop'
    obtain rfl := Option.some.inj hloop'
    refine .inl ⟨rfl, ?_⟩
    rw [← (eq_of_step h).1]
    unfold unregister
    split
    · rw [loopAt] at hloop ⊢
      rw [← List.map_reverse, List.getElem?_map, hloop, Option.map_some, erase_of_spared hspared]
    · exact hloop
  | dispatch m' =>
    simp only [notifications] at h
    split at h
    · cases h
    · refine .inl ⟨if_neg (by omega), ?_⟩
      rw [← (eq_of_step h).1]
      unfold dispatch
      split
      · exact hloop
      · rw [loopAt, getElem?_reverse_cons hd]
        exact hloop
  | dispatchNext wild =>
    simp only [notifications] at h
    split at h
    · cases h
    · rename_i inner outer hstack
      obtain ⟨rfl, rfl⟩ := eq_of_step h
      exact loopAt_dispatchNext wild hstack hloop
  | submit _ _ _ _ | submitNext _ | runJob _ =>
    simp only [notifications] at h
    split at h
    · cases h
    · refine .inl ⟨rfl, hkept ?_⟩
      simp [← (eq_of_step h).1]

/-- The loop that has begun on `d` other ones, under the lock. -/
def dispatched (d : ℕ) : Followed S where
  loop? := loopAt d
  called := calledAt d
  moves := loopAt_moves

/-- A notification that is dispatched under the lock, among registrations, other notifications and
jobs in any order, comes to every sink once that is registered when it begins and is not
unregistered before it ends. -/
theorem notified_once {pre mid : List (Label S)} {called : List S}
    (hpre : notifications.Run initial pre os n)
    (h : (notifications.view (calledAt n.dispatches.length)).Run n (.dispatch m :: mid) called n')
    (hgoing : notifications.Along (fun t => Going (t.loopAt n.dispatches.length)) (n.dispatch m).1
      mid)
    (hend : n'.dispatches.length = n.dispatches.length) :
    Once (n.sinks m.interface) m.interface mid called := by
  have hn : ∀ i, (n.sinks i).Nodup :=
    hpre.invariant (I := fun n => ∀ i, (n.sinks i).Nodup) (fun _ => .nil)
      fun _ _ _ _ hn hstep => nodup_step hn hstep
  obtain ⟨u, called₁, called₂, rfl, hview, hrun⟩ := h.cons_inv
  obtain ⟨os₁, hstep, rfl⟩ := Machine.view_step.mp hview
  simp only [notifications] at hstep
  split at hstep
  · cases hstep
  obtain rfl : (n.dispatch m).1 = u := by
    injection hstep with hstep
    rw [hstep]
  obtain rfl : (n.dispatch m).2 = os₁ := by
    injection hstep with hstep
    rw [hstep]
  have hbegun : (n.dispatch m).1.loopAt n.dispatches.length =
      (n.sinks m.interface).head?.map fun s => ⟨m, .visiting s⟩ := by
    unfold dispatch
    split <;> simp_all [loopAt]
  have hfirst : calledAt n.dispatches.length n (.dispatch m) (n.dispatch m).1 (n.dispatch m).2 =
      (n.sinks m.interface).head?.toList := by
    rw [calledAt, if_pos rfl]
    unfold dispatch
    split <;> simp_all [Output.sink?]
  rw [← dispatch_sinks n m] at hn hbegun hfirst ⊢
  rw [hfirst]
  exact (dispatched n.dispatches.length).once hn hbegun hrun hgoing
    (by simp [dispatched, loopAt, hend])

/-- Sinks register, and another notification goes out, while the first sink is notified; then that
one is unregistered, and the loop goes on. -/
theorem notified_once_three :
    let mid : List (Label ℕ) := [.register .modeChanged 3,
      .dispatch (.onPowerModeChanged .standby .on), .dispatchNext none, .dispatchNext none,
      .dispatchNext none, .dispatchNext none, .unregister .modeChanged 1, .dispatchNext none,
      .dispatchNext none]
    Once [1, 2] .modeChanged mid [1, 2, 3] := by
  intro mid
  let m : Notification := .onPowerModeChanged .on .standby
  let n : Notifications ℕ :=
    { initial with sinks := ((initial.register .modeChanged 1).1.register .modeChanged 2).1.sinks }
  have hpre : notifications.Run initial [.register .modeChanged 1, .register .modeChanged 2] _ n :=
    Machine.run_of_exec rfl
  obtain ⟨_, n', hrun, rfl, hend⟩ : ∃ called n',
      (notifications.view (calledAt 0)).Run n (.dispatch m :: mid) called n' ∧
        called = [1, 2, 3] ∧ n'.dispatches.length = 0 :=
    Machine.exists_outputs_of_exec (by decide +kernel)
  exact notified_once hpre hrun (Machine.along_of_check (by decide +kernel)) hend

/-! ## The pre-change event -/

/-- The jobs that are queued in a step that leads to `n`. -/
def queued (l : Label S) (n : Notifications S) : List (LambdaJob S) :=
  match l with
  | .submit _ _ _ _ | .submitNext _ =>
    n.submission.toList.filterMap fun loop => loop.cursor.sink?.map (⟨·, loop.notification⟩)
  | .register _ _ | .unregister _ _ | .dispatch _ | .dispatchNext _ | .runJob _ => []

/-- The sinks for which a job is queued in a step. -/
def submitted (_ : Notifications S) (l : Label S) (n' : Notifications S) (_ : List (Output S)) :
    List S :=
  (queued l n').map LambdaJob.sink

@[simp]
theorem register_submission (n : Notifications S) (i : Interface) (sink : S) :
    (n.register i sink).1.submission = n.submission := by
  unfold register
  split <;> rfl

omit [DecidableEq S] in
@[simp]
theorem dispatch_submission (n : Notifications S) (m : Notification) :
    (n.dispatch m).1.submission = n.submission := by
  unfold dispatch
  split <;> rfl

@[simp]
theorem dispatchNext_submission (n : Notifications S) (loop : Loop S) (outer : List (Loop S))
    (wild : Option S) : (n.dispatchNext loop outer wild).1.submission = n.submission := by
  unfold dispatchNext
  split <;> rfl

/-- What a step does to the loop that submits the pre-change event. -/
theorem submission_moves (h : notifications.step n l = some (n', os))
    (hloop : n.submission = some loop) (hgoing : Going n.submission l) :
    Moves n n' loop n'.submission (submitted n l n' os) := by
  cases l with
  | register i s =>
    refine .inl ⟨rfl, ?_⟩
    rw [← (eq_of_step h).1, register_submission, hloop]
  | unregister i s =>
    obtain ⟨_, hloop', hspared⟩ := hgoing
    rw [hloop] at hloop'
    obtain rfl := Option.some.inj hloop'
    refine .inl ⟨rfl, ?_⟩
    rw [← (eq_of_step h).1]
    unfold unregister
    split
    · rw [hloop, Option.map_some, erase_of_spared hspared]
    · exact hloop
  -- another submission has to wait for this one
  | submit _ _ _ _ => simp [notifications, hloop] at h
  | submitNext wild =>
    simp only [notifications, hloop] at h
    rw [← (eq_of_step h).1]
    refine .inr ⟨wild, submitJob_sinks .., ?_, ?_⟩
    · cases Cursor.next (n.sinks loop.notification.interface) wild loop.cursor <;>
        simp [submitted, queued, submitJob, Cursor.sink?]
    · cases Cursor.next (n.sinks loop.notification.interface) wild loop.cursor <;> rfl
  | dispatch _ | dispatchNext _ | runJob _ =>
    simp only [notifications] at h
    split at h
    · cases h
    · refine .inl ⟨rfl, ?_⟩
      rw [← (eq_of_step h).1]
      simp [hloop]

/-- The loop that submits the pre-change event. -/
def submitting : Followed S where
  loop? := submission
  called := submitted
  moves := submission_moves

/-- The pre-change notification is not dispatched under the lock. -/
def Dispatched (n : Notifications S) : Prop :=
  ∀ loop ∈ n.dispatches, loop.notification.interface ≠ .modePreChange

/-- Only other notifications are dispatched. -/
theorem dispatched_step (hn : n.Dispatched) (h : notifications.step n l = some (n', os)) :
    n'.Dispatched := by
  cases l with
  | register i s =>
    rw [← (eq_of_step h).1, Dispatched, register_dispatches]
    exact hn
  | unregister i s =>
    rw [← (eq_of_step h).1]
    unfold unregister
    split
    · intro loop' hloop'
      obtain ⟨loop, hloop, rfl⟩ := List.mem_map.mp hloop'
      have hsame : (loop.erase i s).notification = loop.notification := by
        unfold Loop.erase
        split <;> rfl
      rw [hsame]
      exact hn loop hloop
    · exact hn
  | dispatch m' =>
    simp only [notifications] at h
    split at h
    · cases h
    · rename_i hm'
      rw [← (eq_of_step h).1]
      unfold dispatch
      split
      · exact hn
      · exact List.forall_mem_cons.mpr ⟨hm', hn⟩
  | dispatchNext wild =>
    simp only [notifications] at h
    split at h
    · cases h
    · rename_i inner outer hstack
      rw [Dispatched, hstack, List.forall_mem_cons] at hn
      rw [← (eq_of_step h).1]
      unfold dispatchNext
      split
      · exact hn.2
      · exact List.forall_mem_cons.mpr hn
  | submit _ _ _ _ | submitNext _ | runJob _ =>
    simp only [notifications] at h
    split at h
    · cases h
    · rw [← (eq_of_step h).1]
      simpa [Dispatched] using hn

/-- A job is queued until it is run, and then it calls the sink. -/
theorem jobs_step (hn : n.Dispatched) (hm : m.interface = .modePreChange)
    (h : notifications.step n l = some (n', os)) (s : S) :
    os.count (.invoke s m) + n'.jobs.count ⟨s, m⟩ =
      n.jobs.count ⟨s, m⟩ + (queued l n').count ⟨s, m⟩ := by
  cases l with
  | register i sink =>
    obtain ⟨rfl, rfl⟩ := eq_of_step h
    unfold register
    split <;> simp [queued]
  | unregister i sink =>
    obtain ⟨rfl, rfl⟩ := eq_of_step h
    unfold unregister
    split <;> simp [queued]
  | dispatch m' =>
    simp only [notifications] at h
    split at h
    · cases h
    · rename_i hm'
      have hne : m' ≠ m := fun hmm => hm' (hmm ▸ hm)
      obtain ⟨rfl, rfl⟩ := eq_of_step h
      unfold dispatch
      split <;> simp [queued, hne]
  | dispatchNext wild =>
    simp only [notifications] at h
    split at h
    · cases h
    · rename_i inner outer hstack
      rw [Dispatched, hstack, List.forall_mem_cons] at hn
      have hne : inner.notification ≠ m := fun hmm => hn.1 (hmm ▸ hm)
      obtain ⟨rfl, rfl⟩ := eq_of_step h
      unfold dispatchNext
      split <;> simp [queued, hne]
  | submit _ _ _ _ | submitNext _ =>
    simp only [notifications] at h
    split at h
    · cases h
    · obtain ⟨rfl, rfl⟩ := eq_of_step h
      unfold submitJob
      split <;> simp [queued, Cursor.sink?]
  | runJob index =>
    simp only [notifications] at h
    split at h
    · cases h
    · rename_i job hjob
      obtain ⟨hlt, rfl⟩ := List.getElem?_eq_some_iff.mp hjob
      obtain ⟨rfl, rfl⟩ := eq_of_step h
      have hcount := (List.getElem_cons_eraseIdx_perm hlt).count_eq ⟨s, m⟩
      generalize n.jobs[index] = job at hcount
      have hcall : [Output.invoke job.sink job.notification].count (.invoke s m) =
          [job].count ⟨s, m⟩ := by
        cases job
        simp [List.count_singleton]
      rw [List.count_cons, Nat.add_comm, ← List.count_singleton, ← hcall] at hcount
      simpa [queued] using hcount

omit [DecidableEq S] in
/-- A submission stays with its notification. -/
theorem submitJob_notification {sink? : Option S} (h : loop ∈ (n.submitJob m sink?).1.submission) :
    loop.notification = m := by
  cases sink? with
  | none => cases h
  | some s =>
    cases h
    rfl

/-- The submission of a notification goes on with it, or a new one begins. -/
theorem submission_step (h : notifications.step n l = some (n', os)) :
    ∀ loop' ∈ n'.submission, (∃ loop ∈ n.submission, loop'.notification = loop.notification) ∨
      ∃ currentState newState transactionId timeOut,
        l = .submit currentState newState transactionId timeOut ∧
        loop'.notification = .onPowerModePreChange currentState newState transactionId timeOut := by
  intro loop' hloop'
  cases l with
  | register i s =>
    rw [← (eq_of_step h).1, register_submission] at hloop'
    exact .inl ⟨loop', hloop', rfl⟩
  | unregister i s =>
    rw [← (eq_of_step h).1] at hloop'
    unfold unregister at hloop'
    split at hloop'
    · obtain ⟨loop, hloop, rfl⟩ := Option.map_eq_some_iff.mp hloop'
      refine .inl ⟨loop, hloop, ?_⟩
      unfold Loop.erase
      split <;> rfl
    · exact .inl ⟨loop', hloop', rfl⟩
  | submit currentState newState transactionId timeOut =>
    simp only [notifications] at h
    split at h
    · cases h
    · rw [← (eq_of_step h).1] at hloop'
      refine .inr ⟨_, _, _, _, rfl, ?_⟩
      exact submitJob_notification hloop'
  | submitNext wild =>
    simp only [notifications] at h
    split at h
    · cases h
    · rename_i loop hloop
      rw [← (eq_of_step h).1] at hloop'
      exact .inl ⟨loop, hloop, submitJob_notification hloop'⟩
  | dispatch _ | dispatchNext _ | runJob _ =>
    simp only [notifications] at h
    split at h
    · cases h
    · rw [← (eq_of_step h).1] at hloop'
      exact .inl ⟨loop', by simpa using hloop', rfl⟩

omit [DecidableEq S] in
/-- A job is queued by the submission, for its notification. -/
theorem queued_notification {job : LambdaJob S} (h : job ∈ queued l n) :
    ∃ loop ∈ n.submission, job.notification = loop.notification := by
  cases l with
  | submit _ _ _ _ | submitNext _ =>
    obtain ⟨loop, hloop, hjob⟩ := List.mem_filterMap.mp h
    obtain ⟨s, -, rfl⟩ := Option.map_eq_some_iff.mp hjob
    exact ⟨loop, Option.mem_toList.mp hloop, rfl⟩
  | register _ _ | unregister _ _ | dispatch _ | dispatchNext _ | runJob _ => cases h

/-- Jobs for one notification differ in their sinks only. -/
theorem count_map_sink {jobs : List (LambdaJob S)} (h : ∀ job ∈ jobs, job.notification = m)
    (s : S) : (jobs.map LambdaJob.sink).count s = jobs.count ⟨s, m⟩ := by
  induction jobs with
  | nil => rfl
  | cons job jobs ih =>
    obtain ⟨hjob, hjobs⟩ := List.forall_mem_cons.mp h
    obtain ⟨sink, notification⟩ := job
    obtain rfl : notification = m := hjob
    simp [List.count_cons, ih hjobs]

/-- While a notification is submitted, a sink has been called for it and has jobs queued as often as
it has had a turn. -/
theorem jobs_run {called : List S} (hn : n.Dispatched) (hm : m.interface = .modePreChange)
    (hloop : ∀ loop ∈ n.submission, loop.notification = m)
    (h : (notifications.view submitted).Run n ls called n')
    (hgoing : notifications.Along (fun n => Going n.submission) n ls) :
    n'.Dispatched ∧ (∀ loop ∈ n'.submission, loop.notification = m) ∧
      ∃ os, notifications.Run n ls os n' ∧ ∀ s,
        os.count (.invoke s m) + n'.jobs.count ⟨s, m⟩ = n.jobs.count ⟨s, m⟩ + called.count s := by
  refine h.induction_along (C := fun n => Going n.submission) (I := fun ls called n' =>
    n'.Dispatched ∧ (∀ loop ∈ n'.submission, loop.notification = m) ∧
      ∃ os, notifications.Run n ls os n' ∧ ∀ s, os.count (.invoke s m) +
        n'.jobs.count ⟨s, m⟩ = n.jobs.count ⟨s, m⟩ + called.count s) hgoing.view
    ⟨hn, hloop, [], .nil n, by simp⟩ ?_
  rintro ls called u l v called' - ⟨hu, hloop, os, hrun, hcount⟩ ⟨loop, hmem, -⟩ hview
  obtain ⟨os', hstep, rfl⟩ := Machine.view_step.mp hview
  have hloop' : ∀ loop' ∈ v.submission, loop'.notification = m := by
    intro loop' hloop'
    rcases submission_step hstep loop' hloop' with ⟨loop₁, hloop₁, hsame⟩ | ⟨_, _, _, _, rfl, -⟩
    · rw [hsame, hloop _ hloop₁]
    · -- the next submission has to wait
      rw [Option.mem_def] at hmem
      simp [notifications, hmem] at hstep
  refine ⟨dispatched_step hu hstep, hloop', os ++ os', hrun.snoc hstep, fun s => ?_⟩
  have hjobs := jobs_step hu hm hstep s
  have hcalled : (submitted u l v os').count s = (queued l v).count ⟨s, m⟩ := by
    refine count_map_sink (fun job hjob => ?_) s
    obtain ⟨loop₁, hloop₁, hsame⟩ := queued_notification hjob
    rw [hsame, hloop' _ hloop₁]
  rw [List.count_append, List.count_append, hcalled]
  have hs := hcount s
  omega

/-- When no submission of a notification begins, or is under way, its jobs are run as they are. -/
theorem jobs_rest {currentState newState : PowerState} {transactionId : ℤ} {timeOut : UInt32}
    (hm : m = .onPowerModePreChange currentState newState transactionId timeOut)
    (hn : n.Dispatched) (hloop : ∀ loop ∈ n.submission, loop.notification ≠ m)
    (hnew : .submit currentState newState transactionId timeOut ∉ ls)
    (h : notifications.Run n ls os n') (s : S) :
    os.count (.invoke s m) + n'.jobs.count ⟨s, m⟩ = n.jobs.count ⟨s, m⟩ := by
  suffices hall : n'.Dispatched ∧ (∀ loop ∈ n'.submission, loop.notification ≠ m) ∧
      os.count (.invoke s m) + n'.jobs.count ⟨s, m⟩ = n.jobs.count ⟨s, m⟩ from hall.2.2
  induction h with
  | nil => exact ⟨hn, hloop, by simp⟩
  | @snoc u v ls os os' l _ hstep ih =>
    obtain ⟨hu, hloop, hcount⟩ := ih fun hmem => hnew (List.mem_append_left _ hmem)
    have hloop' : ∀ loop' ∈ v.submission, loop'.notification ≠ m := by
      intro loop' hloop'
      rcases submission_step hstep loop' hloop' with
        ⟨loop₁, hloop₁, hsame⟩ | ⟨_, _, _, _, rfl, hsame⟩
      · rw [hsame]
        exact hloop _ hloop₁
      · rw [hsame, hm]
        rintro ⟨⟩
        simp at hnew
    have hqueued : (queued l v).count ⟨s, m⟩ = 0 := by
      refine List.count_eq_zero_of_not_mem fun hmem => ?_
      obtain ⟨loop₁, hloop₁, hsame⟩ := queued_notification hmem
      exact hloop' _ hloop₁ hsame.symm
    have hjobs := jobs_step hu (m := m) (by rw [hm]; rfl) hstep s
    refine ⟨dispatched_step hu hstep, hloop', ?_⟩
    rw [List.count_append]
    omega

/-- The pre-change event is submitted, and whatever goes on meanwhile and afterwards, each sink that
is registered at the beginning and is not unregistered before the submission is over has exactly
one call of `OnPowerModePreChange`, or a job that is still queued for it. -/
theorem told_once {pre mid rest : List (Label S)} {os₁ os₂ : List (Output S)}
    {n₁ n₂ : Notifications S} {currentState newState : PowerState} {transactionId : ℤ}
    {timeOut : UInt32}
    (hm : m = .onPowerModePreChange currentState newState transactionId timeOut)
    (hpre : notifications.Run initial pre os n)
    (hmid : notifications.Run n (.submit currentState newState transactionId timeOut :: mid) os₁ n₁)
    (hgoing : notifications.Along (fun t => Going t.submission)
      (n.submitJob m (n.sinks .modePreChange).head?).1 mid)
    (hend : n₁.submission = none) (hrest : notifications.Run n₁ rest os₂ n₂)
    (hnew : .submit currentState newState transactionId timeOut ∉ rest) (s : S) :
    (s ∈ n.sinks .modePreChange → .unregister .modePreChange s ∉ mid →
        (os₁ ++ os₂).count (.invoke s m) + n₂.jobs.count ⟨s, m⟩ = n.jobs.count ⟨s, m⟩ + 1) ∧
      (os₁ ++ os₂).count (.invoke s m) + n₂.jobs.count ⟨s, m⟩ ≤
        n.jobs.count ⟨s, m⟩ + (n.sinks .modePreChange).count s +
          mid.count (.register .modePreChange s) := by
  obtain ⟨hn, hnodup⟩ : n.Dispatched ∧ ∀ i, (n.sinks i).Nodup :=
    hpre.invariant (I := fun n => n.Dispatched ∧ ∀ i, (n.sinks i).Nodup)
      ⟨by simp [Dispatched, initial], fun _ => .nil⟩
      fun _ _ _ _ h hstep => ⟨dispatched_step h.1 hstep, nodup_step h.2 hstep⟩
  have hinterface : m.interface = .modePreChange := by rw [hm]; rfl
  obtain ⟨u, os₃, os₄, rfl, hstep, hrun⟩ := hmid.cons_inv
  simp only [notifications] at hstep
  split at hstep
  · cases hstep
  rw [← hm] at hstep
  have hu : (n.submitJob m (n.sinks .modePreChange).head?).1 = u := by
    injection hstep with hstep
    rw [hstep]
  have hos₃ : os₃ = [] := by
    injection hstep with hstep
    rw [← submitJob_snd n m (n.sinks .modePreChange).head?, hstep]
  have hloop : ∀ loop ∈ u.submission, loop.notification = m := by
    rw [← hu]
    exact fun loop => submitJob_notification
  have hdispatched : u.Dispatched := by
    rw [← hu, Dispatched, submitJob_dispatches]
    exact hn
  rw [hu] at hgoing
  -- the turns in the submission are calls, or jobs
  obtain ⟨called, hview⟩ := hrun.exists_view (f := submitted)
  obtain ⟨hn₁, -, os₅, hrun', hcount⟩ := jobs_run hdispatched hinterface hloop hview hgoing
  obtain ⟨-, rfl⟩ := hrun.det hrun'
  have hafter := jobs_rest hm hn₁ (by simp [hend]) hnew hrest s
  have hsinks : u.sinks = n.sinks := by rw [← hu, submitJob_sinks]
  have hbegun : u.submission =
      (u.sinks m.interface).head?.map fun s => ⟨m, .visiting s⟩ := by
    rw [hsinks, hinterface, ← hu]
    cases (n.sinks .modePreChange).head? <;> rfl
  have honce := submitting.once (by rwa [hsinks]) hbegun hview hgoing hend
  have hfirst : u.jobs.count ⟨s, m⟩ =
      n.jobs.count ⟨s, m⟩ + (n.sinks .modePreChange).head?.toList.count s := by
    rw [← hu]
    cases (n.sinks .modePreChange).head? <;> simp [submitJob, List.count_singleton]
  rw [hsinks, hinterface] at honce
  have hcalls : (os₃ ++ os₄ ++ os₂).count (.invoke s m) + n₂.jobs.count ⟨s, m⟩ =
      n.jobs.count ⟨s, m⟩ + ((n.sinks .modePreChange).head?.toList ++ called).count s := by
    have hturns := hcount s
    rw [hos₃, List.nil_append, List.count_append, List.count_append]
    omega
  rw [hcalls]
  refine ⟨fun hmem hkept => ?_, ?_⟩
  · rw [honce.once s hmem hkept]
  · have hle := honce.count_le s
    omega

/-- The job of the first sink runs during the submission, and the first sink is unregistered then;
the second one is still to be called at the end. -/
theorem told_once_two :
    let m : Notification := .onPowerModePreChange .on .standby 7 1
    ∃ os n', notifications.Run initial [.register .modePreChange 1, .register .modePreChange 2,
        .submit .on .standby 7 1, .submitNext none, .runJob 0, .unregister .modePreChange 1,
        .submitNext none, .register .modePreChange 3] os n' ∧
      os.count (.invoke 2 m) + n'.jobs.count ⟨2, m⟩ = 1 ∧
      os.count (.invoke 3 m) + n'.jobs.count ⟨3, m⟩ = 0 := by
  intro m
  let n : Notifications ℕ :=
    { initial with
      sinks := ((initial.register .modePreChange 1).1.register .modePreChange 2).1.sinks }
  let n₁ : Notifications ℕ :=
    { n with sinks := (n.unregister .modePreChange 1).1.sinks, jobs := [⟨2, m⟩] }
  have hpre : notifications.Run initial [.register .modePreChange 1, .register .modePreChange 2] _
    n := Machine.run_of_exec rfl
  have hmid : notifications.Run n [.submit .on .standby 7 1, .submitNext none, .runJob 0,
    .unregister .modePreChange 1, .submitNext none] _ n₁ := Machine.run_of_exec rfl
  have hrest : notifications.Run n₁ [.register .modePreChange 3] _ _ := Machine.run_of_exec rfl
  have htold := told_once rfl hpre hmid (Machine.along_of_check (by decide)) rfl hrest (by simp)
  refine ⟨_, _, hpre.trans (hmid.trans hrest), ?_, ?_⟩
  · exact (htold 2).1 (by decide) (by decide)
  · exact Nat.le_zero.mp (htold 3).2

end Notifications

end PowerManager
