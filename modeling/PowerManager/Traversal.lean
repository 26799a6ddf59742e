import PowerManager.Machine
import Mathlib.Data.List.Nodup

/-!
# Going through a list that changes

A loop goes through a list that no element is in twice. While it is at an element, elements may be
appended, and all but that one may be erased.

Then the loop comes to every element that is in the list from the beginning and is not erased, once
and in the order of the list; and it comes to no element more often than it is put into the list
(`visited_run`).
-/

namespace PowerManager

/-- A loop that is at an element of a list. -/
structure Traversal (α : Type*) where
  before : List α
  current : α
  after : List α
  deriving DecidableEq, Repr

namespace Traversal

variable {α : Type*} [DecidableEq α]

/-- The list that the loop goes through. -/
def toList (t : Traversal α) : List α := t.before ++ t.current :: t.after

/-- What happens to the list, and a step of the loop. -/
inductive Label (α : Type*)
  | append (x : α)
  | erase (x : α)
  | next
  deriving DecidableEq, Repr

/-- The loop as a machine. It emits the elements that it comes to. -/
def traversal : Machine (Traversal α) (Label α) α where
  step t
    | .append x =>
      if x ∈ t.toList then none else some ({ t with after := t.after ++ [x] }, [])
    | .erase x =>
      if x = t.current then none
      else some ({ t with before := t.before.erase x, after := t.after.erase x }, [])
    | .next =>
      match t.after with
      | [] => none
      | x :: rest => some (⟨t.before ++ [t.current], x, rest⟩, [x])

/-- A loop at the beginning of a list. -/
def start (x : α) (xs : List α) : Traversal α := ⟨[], x, xs⟩

variable {t t' : Traversal α} {l : Label α} {ls : List (Label α)} {os os' : List α} {x : α}
  {xs : List α}

theorem step_append (h : x ∉ t.toList) :
    traversal.step t (.append x) = some ({ t with after := t.after ++ [x] }, []) :=
  if_neg h

theorem step_erase (h : x ≠ t.current) : traversal.step t (.erase x) =
    some ({ t with before := t.before.erase x, after := t.after.erase x }, []) :=
  if_neg h

/-- An element is appended that is not in the list. -/
theorem toList_append (h : traversal.step t (.append x) = some (t', os)) :
    x ∉ t.toList ∧ t'.toList = t.toList ++ [x] ∧ t'.current = t.current := by
  simp only [traversal] at h
  split at h
  · cases h
  · rename_i hmem
    cases h
    exact ⟨hmem, by simp [toList], rfl⟩

/-- An element is erased that the loop is not at. -/
theorem toList_erase (hn : t.toList.Nodup) (h : traversal.step t (.erase x) = some (t', os)) :
    t'.toList = t.toList.erase x ∧ t'.current = t.current := by
  simp only [traversal] at h
  split at h
  · cases h
  · rename_i hne
    cases h
    refine ⟨?_, rfl⟩
    obtain ⟨-, hafter, hdisj⟩ := List.nodup_append.mp hn
    have hcons : (t.current :: t.after).erase x = t.current :: t.after.erase x :=
      List.erase_cons_tail (by simpa using Ne.symm hne)
    by_cases hmem : x ∈ t.before
    · -- it is not behind the loop
      have hnot : x ∉ t.after := fun hx => hdisj x hmem x (List.mem_cons_of_mem _ hx) rfl
      simp [toList, List.erase_append_left _ hmem, List.erase_of_not_mem hnot]
    · simp [toList, List.erase_append_right _ hmem, hcons, List.erase_of_not_mem hmem]

/-- What the loop has come to after a run from the beginning of a list. -/
structure Visited (x : α) (xs : List α) (ls : List (Label α)) (os : List α) (t : Traversal α) :
    Prop where
  nodup : t.toList.Nodup
  /-- What the loop has come to, and what it has yet to come to. -/
  count_le : ∀ y, (x :: os).count y + t.after.count y ≤ (x :: xs).count y + ls.count (.append y)
  order : ((x :: xs).filter fun y => .erase y ∉ ls).Sublist (x :: os ++ t.after)
  steady : ∀ y ∈ x :: xs, .erase y ∉ ls → y ∈ t.toList ∧ .append y ∉ ls

/-- An element is put at the end of the list. -/
theorem Visited.append (hV : Visited x xs ls os t) {y : α}
    (h : traversal.step t (.append y) = some (t', os')) :
    Visited x xs (ls ++ [.append y]) (os ++ os') t' := by
  obtain ⟨hnew, hlist, -⟩ := toList_append h
  obtain ⟨rfl, hafter⟩ : os' = [] ∧ t'.after = t.after ++ [y] := by
    simp only [traversal, if_neg hnew] at h
    cases h
    exact ⟨rfl, rfl⟩
  constructor
  · rw [hlist]
    simpa [List.nodup_append] using ⟨hV.nodup, fun z hz => ne_of_mem_of_not_mem hz hnew⟩
  · intro z
    have hz := hV.count_le z
    by_cases hyz : y = z
    · subst hyz
      simp only [hafter, List.append_nil, List.count_append, List.count_singleton_self]
      omega
    · have hlabel : Label.append y ≠ Label.append z := fun h => hyz (by injection h)
      simpa [hafter, List.count_append, List.count_singleton, hyz, hlabel] using hz
  · have hsub := hV.order.trans (List.sublist_append_left _ [y])
    simpa [hafter] using hsub
  · intro z hz herase
    obtain ⟨hmem, hnot⟩ := hV.steady z hz fun hin => herase (by simp [hin])
    have hne : z ≠ y := ne_of_mem_of_not_mem hmem hnew
    simp [hlist, hmem, hnot, hne]

/-- An element is erased, which the loop may be behind or ahead of. -/
theorem Visited.erase (hV : Visited x xs ls os t) {y : α}
    (h : traversal.step t (.erase y) = some (t', os')) :
    Visited x xs (ls ++ [.erase y]) (os ++ os') t' := by
  obtain ⟨hlist, -⟩ := toList_erase hV.nodup h
  obtain ⟨rfl, hafter⟩ : os' = [] ∧ t'.after = t.after.erase y := by
    simp only [traversal] at h
    split at h
    · cases h
    · cases h
      exact ⟨rfl, rfl⟩
  constructor
  · rw [hlist]
    exact hV.nodup.erase y
  · intro z
    have hz := hV.count_le z
    have hle : (t.after.erase y).count z ≤ t.after.count z := List.erase_sublist.count_le z
    rw [List.append_nil, hafter, List.count_append]
    omega
  · -- what is erased drops out of what is compared
    have hnodup : t.after.Nodup :=
      (List.nodup_append.mp hV.nodup).2.1.of_cons
    have hsub := hV.order.filter (· != y)
    rw [List.filter_append, List.filter_filter] at hsub
    have hleft : ((x :: xs).filter fun z => .erase z ∉ ls ++ [.erase y]) =
        (x :: xs).filter fun z => z != y && decide (.erase z ∉ ls) := by
      refine List.filter_congr fun z _ => ?_
      rw [Bool.eq_iff_iff]
      simp [and_comm]
    have hright : t'.after = t.after.filter (· != y) := by
      rw [hafter, hnodup.erase_eq_filter]
    rw [hleft, hright, List.append_nil]
    exact hsub.trans (List.filter_sublist.append (.refl _))
  · intro z hz herase
    obtain ⟨hmem, hnot⟩ := hV.steady z hz fun hin => herase (by simp [hin])
    have hne : z ≠ y := fun hzy => herase (by simp [hzy])
    rw [hlist]
    exact ⟨(List.mem_erase_of_ne hne).mpr hmem, by simp [hnot]⟩

/-- The loop goes on. -/
theorem Visited.next (hV : Visited x xs ls os t)
    (h : traversal.step t .next = some (t', os')) :
    Visited x xs (ls ++ [.next]) (os ++ os') t' := by
  simp only [traversal] at h
  split at h
  · cases h
  · rename_i y rest hrest
    cases h
    have hlist : toList ⟨t.before ++ [t.current], y, rest⟩ = t.toList := by simp [toList, hrest]
    constructor
    · rw [hlist]
      exact hV.nodup
    · intro z
      have hz := hV.count_le z
      rw [hrest] at hz
      simp only [← List.cons_append, List.count_append, List.count_cons (l := rest)] at hz ⊢
      simp only [List.count_singleton, beq_iff_eq, reduceCtorEq, if_false] at hz ⊢
      omega
    · simpa [hrest] using hV.order
    · intro z hz herase
      rw [hlist]
      simpa using hV.steady z hz fun hin => herase (by simp [hin])

/-- What the loop has come to is as it should be after every run. -/
theorem visited_run (hn : (x :: xs).Nodup) (h : traversal.Run (start x xs) ls os t) :
    Visited x xs ls os t := by
  refine h.induction_along (C := fun _ _ => True) (I := fun ls os t => Visited x xs ls os t)
    (fun _ _ _ _ _ _ _ => trivial) ?_ ?_
  · exact ⟨hn, fun y => by simp [start, List.count_cons]; omega, by simp [start],
      fun y hy _ => ⟨by simpa [toList, start] using hy, by simp⟩⟩
  · intro ls os t l u os' _ hV _ hstep
    cases l with
    | append y => exact hV.append hstep
    | erase y => exact hV.erase hstep
    | next => exact hV.next hstep

/-- An element that is in the list from the beginning, and is not erased, is come to once. -/
theorem Visited.count_eq_one (hV : Visited x xs ls os t) (hn : (x :: xs).Nodup) {y : α}
    (hy : y ∈ x :: xs) (herase : .erase y ∉ ls) : (x :: os).count y + t.after.count y = 1 := by
  have hle := hV.count_le y
  rw [List.count_eq_one_of_mem hn hy,
    List.count_eq_zero_of_not_mem (hV.steady y hy herase).2] at hle
  have hmem : y ∈ x :: os ++ t.after :=
    hV.order.subset (List.mem_filter.mpr ⟨hy, by simpa using herase⟩)
  have hpos := List.count_pos_iff.mpr hmem
  rw [List.count_append] at hpos
  omega

end Traversal

end PowerManager
