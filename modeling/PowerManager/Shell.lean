import Mathlib.Algebra.BigOperators.Group.Finset.Piecewise
import PowerManager.Notifications

/-!
# The Thunder plugin

`PowerManager` is what Thunder loads. `Initialize` registers the plugin with the service, creates
`PowerManagerImplementation` and registers a sink of its own for each interface; `Deinitialize`
gives back what `Initialize` has taken. In between, clients register and unregister their sinks, and
Thunder reports sinks whose client has gone.

A client has a reference to the implementation, and may keep it after `Deinitialize`: the
implementation is destroyed when the last reference is released. The code asserts that the one of
the plugin is the last; without assertions it goes on, and `Initialize` may create another
implementation beside those that clients have kept. The jobs and the handlers of the implementation
have references as clients have, and do not register anything. What becomes of an implementation in a process
of its own, which Thunder may end after `Terminate`, is left out.

A registration holds a reference to its sink, and `QueryInterface` takes one. What is taken is given
back (`references_iff`), but for two cases: an implementation is destroyed while a client is still
registered, as the destructor does not look at the sinks in its lists; and a sink is reported while
the plugin has no implementation, as `CallbackRevoked` then keeps the reference that
`QueryInterface` has taken.
-/

namespace PowerManager

namespace Shell

/-- A sink: that of the plugin itself, or one of a client. -/
inductive Sink (S : Type*)
  | own
  | client (sink : S)
  deriving DecidableEq, Repr

/-- What the plugin is registered for with the service. -/
inductive ServiceNotification
  | remoteConnection
  | comLink
  deriving DecidableEq, Repr

/-- What the plugin does outwards. -/
inductive Output (S : Type*)
  /-- `AddRef` on the service. -/
  | serviceAddRef
  /-- `Release` on the service. -/
  | serviceRelease
  /-- `Register` on the service. -/
  | serviceRegister (n : ServiceNotification)
  /-- `Unregister` on the service. -/
  | serviceUnregister (n : ServiceNotification)
  /-- `Root` creates the implementation. -/
  | created
  /-- The plugin calls `Release` on the implementation. -/
  | released
  /-- `JPowerManager::Register`. -/
  | jsonRegister
  /-- `JPowerManager::Unregister`. -/
  | jsonUnregister
  /-- `AddRef` on a sink, by `Register` or `QueryInterface`. -/
  | addRef (i : Interface) (sink : Sink S)
  /-- `Release` on a sink. -/
  | release (i : Interface) (sink : Sink S)
  /-- `Terminate` on the connection of the implementation. -/
  | terminate
  /-- The service is asked to deactivate the plugin. -/
  | submitDeactivated
  /-- `Register` or `Unregister` returns. -/
  | returned (errorCode : ErrorCode)
  /-- `Initialize` returns. -/
  | message (text : String)
  deriving DecidableEq, Repr

/-- A `PowerManagerImplementation`: its lists, and how many references there are to it beside that
of the plugin. -/
structure Object (S : Type*) where
  notifications : Notifications (Sink S)
  clients : ℕ

end Shell

/-- `PowerManager`, the plugin, with the implementations that have been created. -/
structure Shell (S : Type*) where
  /-- `_service` is not null. -/
  service : Bool
  connectionId : ℕ
  /-- The number of the implementation that `_powerManager` points to, if it is not null. -/
  powerManager : Option ℕ
  /-- The implementations that have not been destroyed. -/
  objects : ℕ → Option (Shell.Object S)
  /-- The number of the next implementation. -/
  nextObject : ℕ

namespace Shell

variable {S : Type*} [DecidableEq S]

/-- An implementation is replaced, or destroyed. -/
def setObject (s : Shell S) (k : ℕ) (x : Option (Object S)) : Shell S :=
  { s with objects := Function.update s.objects k x }

/-- The implementation that `_powerManager` points to, with its number. -/
def current? (s : Shell S) : Option (ℕ × Object S) :=
  s.powerManager.bind fun k => (s.objects k).map fun a => (k, a)

/-- The interfaces, in the order in which `Initialize` registers the sink of the plugin. -/
def interfaces : List Interface :=
  [.reboot, .modePreChange, .modeChanged, .deepSleepTimeout, .networkStandbyModeChanged,
    .thermalModeChanged]

/-- `Register` of the implementation. A reference is taken if the sink is new. -/
def register (n : Notifications (Sink S)) (i : Interface) (sink : Sink S) :
    Notifications (Sink S) × List (Output S) :=
  ((n.register i sink).1, if sink ∈ n.sinks i then [] else [.addRef i sink])

/-- `Unregister` of the implementation. The reference of a sink in the list is given back. -/
def unregister (n : Notifications (Sink S)) (i : Interface) (sink : Sink S) :
    Notifications (Sink S) × List (Output S) :=
  ((n.unregister i sink).1, if sink ∈ n.sinks i then [.release i sink] else [])

/-- An operation on the lists of some interfaces, one after the other. -/
def forAll (op : Notifications (Sink S) → Interface → Notifications (Sink S) × List (Output S)) :
    List Interface → Notifications (Sink S) → Notifications (Sink S) × List (Output S)
  | [], n => (n, [])
  | i :: is, n =>
    let r := op n i
    let rest := forAll op is r.1
    (rest.1, r.2 ++ rest.2)

/-- `Deinitialize`, where the implementation may have a connection. It is destroyed unless a client
has a reference. -/
def deinitializePlugin (s : Shell S) (connection : Bool) : Shell S × List (Output S) :=
  let ended : Shell S × List (Output S) :=
    match s.current? with
    | none => (s, [])
    | some (k, a) =>
      let r := forAll (fun n i => unregister n i .own) interfaces a.notifications
      (s.setObject k (if a.clients = 0 then none else some { a with notifications := r.1 }),
        r.2 ++ [.jsonUnregister, .released] ++ if connection then [.terminate] else [])
  ({ ended.1 with service := false, connectionId := 0, powerManager := none },
    [.serviceUnregister .remoteConnection, .serviceUnregister .comLink] ++ ended.2 ++
      [.serviceRelease])

/-- `Initialize`. `Root` creates an implementation with the given connection, or none. -/
def initializePlugin (s : Shell S) (root : Option ℕ) : Shell S × List (Output S) :=
  let taken := [.serviceAddRef, .serviceRegister .remoteConnection, .serviceRegister .comLink]
  match root with
  | some connectionId =>
    let r := forAll (fun n i => register n i .own) interfaces .initial
    ({ s.setObject s.nextObject (some ⟨r.1, 0⟩) with
        service := true
        connectionId
        powerManager := some s.nextObject
        nextObject := s.nextObject + 1 },
      taken ++ [.created] ++ r.2 ++ [.jsonRegister, .message ""])
  | none =>
    let r := { s with service := true }.deinitializePlugin false
    (r.1, taken ++ r.2 ++ [.message "PowerManager plugin could not be initialised"])

/-- `CallbackRevoked` for a sink of an interface. The flag tells whether `QueryInterface` finds the
interface. -/
def callbackRevoked (s : Shell S) (i : Interface) (sink : S) (queried : Bool) :
    Shell S × List (Output S) :=
  if queried then
    match s.current? with
    | none => (s, [.addRef i (.client sink)])
    | some (k, a) =>
      let r := unregister a.notifications i (.client sink)
      (s.setObject k (some { a with notifications := r.1 }),
        .addRef i (.client sink) :: r.2 ++ [.release i (.client sink)])
  else (s, [])

/-- `Deactivated`. -/
def deactivated (s : Shell S) (connectionId : ℕ) : List (Output S) :=
  if connectionId = s.connectionId then [.submitDeactivated] else []

/-- A step of Thunder or of a client. A client calls the implementation with the given number. -/
inductive Label (S : Type*)
  | initializePlugin (root : Option ℕ)
  | deinitializePlugin (connection : Bool)
  /-- A client takes a reference, or a job or handler of the implementation. -/
  | acquire (k : ℕ)
  /-- It releases the reference. -/
  | release (k : ℕ)
  | register (k : ℕ) (i : Interface) (sink : S)
  | unregister (k : ℕ) (i : Interface) (sink : S)
  /-- `Dangling` or `Revoked`, with none of the six interfaces or one of them. -/
  | callbackRevoked (i : Option Interface) (sink : S) (queried : Bool)
  | deactivated (connectionId : ℕ)

/-- The plugin as a machine. Thunder calls `Initialize` and `Deinitialize` in turn, which the
assertions of `Initialize` rely on. A client gets a reference from the plugin or from another
client, and calls the implementation while it has one. -/
def plugin : Machine (Shell S) (Label S) (Output S) where
  step s
    | .initializePlugin root => if s.service then none else some (s.initializePlugin root)
    | .deinitializePlugin connection =>
      if s.service then some (s.deinitializePlugin connection) else none
    | .acquire k =>
      match s.objects k with
      | none => none
      | some a =>
        if s.powerManager = some k ∨ 0 < a.clients then
          some (s.setObject k (some { a with clients := a.clients + 1 }), [])
        else none
    | .release k =>
      match s.objects k with
      | none => none
      | some a =>
        if a.clients = 0 then none
        else if a.clients = 1 ∧ s.powerManager ≠ some k then some (s.setObject k none, [])
        else some (s.setObject k (some { a with clients := a.clients - 1 }), [])
    | .register k i sink =>
      match s.objects k with
      | none => none
      | some a =>
        if a.clients = 0 then none
        else
          let r := register a.notifications i (.client sink)
          some (s.setObject k (some { a with notifications := r.1 }), r.2 ++
            [.returned (if .client sink ∈ a.notifications.sinks i then .errorGeneral
              else .errorNone)])
    | .unregister k i sink =>
      match s.objects k with
      | none => none
      | some a =>
        if a.clients = 0 then none
        else
          let r := unregister a.notifications i (.client sink)
          some (s.setObject k (some { a with notifications := r.1 }), r.2 ++
            [.returned (if .client sink ∈ a.notifications.sinks i then .errorNone
              else .errorGeneral)])
    | .callbackRevoked none _ _ => some (s, [])
    | .callbackRevoked (some i) sink queried => some (s.callbackRevoked i sink queried)
    | .deactivated connectionId =>
      -- an assertion of the code
      if s.service ∨ connectionId ≠ s.connectionId then some (s, s.deactivated connectionId)
      else none

/-- The plugin after construction. -/
def initial : Shell S := ⟨false, 0, none, fun _ => none, 0⟩

/-- The plugin registers its sink for each of the interfaces. -/
theorem mem_interfaces (i : Interface) : i ∈ interfaces := by cases i <;> decide

/-! ## The lists -/

variable {n n' n'' : Notifications (Sink S)} {os os' : List (Output S)} {i : Interface}
  {sink : Sink S}

/-- How many references the list of an interface holds to a sink. -/
def inList (n : Notifications (Sink S)) (i : Interface) (sink : Sink S) : ℕ :=
  if sink ∈ n.sinks i then 1 else 0

/-- Something is done with a reference to a sink. -/
def Output.isReference : Output S → Bool
  | .addRef .. | .release .. => true
  | _ => false

/-- Every list holds one reference to each of its sinks: what is taken is given back, or in the
list. Nothing else is done. -/
structure Balanced (n n' : Notifications (Sink S)) (os : List (Output S)) : Prop where
  only : ∀ o ∈ os, o.isReference = true
  nodup : ∀ i, (n'.sinks i).Nodup
  balance : ∀ i sink, os.count (.addRef i sink) + inList n i sink =
    os.count (.release i sink) + inList n' i sink

theorem Balanced.nil (hn : ∀ i, (n.sinks i).Nodup) : Balanced n n [] :=
  ⟨List.forall_mem_nil _, hn, fun _ _ => rfl⟩

theorem Balanced.append (h : Balanced n n' os) (h' : Balanced n' n'' os') :
    Balanced n n'' (os ++ os') where
  only o ho := (List.mem_append.mp ho).elim (h.only o) (h'.only o)
  nodup := h'.nodup
  balance i sink := by
    have hfirst := h.balance i sink
    have hsecond := h'.balance i sink
    rw [List.count_append, List.count_append]
    omega

/-- A registration is balanced, and the sink is in the list then. The other lists are the same. -/
theorem register_spec (hn : ∀ i, (n.sinks i).Nodup) (i : Interface) (sink : Sink S) :
    Balanced n (register n i sink).1 (register n i sink).2 ∧
      sink ∈ (register n i sink).1.sinks i ∧
      ∀ j sink', sink' ∈ n.sinks j → sink' ∈ (register n i sink).1.sinks j := by
  by_cases hmem : sink ∈ n.sinks i
  · have hsame : register n i sink = (n, []) := by
      simp [register, Notifications.register, hmem]
    rw [hsame]
    exact ⟨.nil hn, hmem, fun _ _ h => h⟩
  · have hsinks : (register n i sink).1.sinks =
        Function.update n.sinks i (n.sinks i ++ [sink]) := by
      simp [register, Notifications.register, hmem]
    have hos : (register n i sink).2 = [.addRef i sink] := if_neg hmem
    rw [hos]
    refine ⟨⟨by simp [Output.isReference], fun j => ?_, fun j sink' => ?_⟩, by simp [hsinks],
      fun j sink' hmem' => ?_⟩
    · rw [hsinks]
      by_cases hj : j = i
      · subst hj
        rw [Function.update_self]
        refine List.nodup_append.mpr ⟨hn j, List.nodup_singleton _, fun a ha b hb heq => hmem ?_⟩
        rwa [← List.mem_singleton.mp hb, ← heq]
      · rw [Function.update_of_ne hj]
        exact hn j
    · simp only [inList, hsinks]
      by_cases hj : j = i
      · subst hj
        by_cases hs : sink' = sink
        · simp [hs, hmem]
        · simp [hs, Ne.symm hs]
      · simp [hj, Ne.symm hj]
    · rw [hsinks]
      by_cases hj : j = i
      · subst hj
        simp [hmem']
      · simpa [hj] using hmem'

/-- The registration of a client leaves the sink of the plugin where it is. -/
theorem register_own (i : Interface) (sink : S) (j : Interface) :
    .own ∈ (register n i (.client sink)).1.sinks j ↔ .own ∈ n.sinks j := by
  by_cases hmem : .client sink ∈ n.sinks i
  · simp [register, Notifications.register, hmem]
  · by_cases hj : j = i
    · subst hj
      simp [register, Notifications.register, hmem]
    · simp [register, Notifications.register, hmem, hj]

/-- The end of a registration is balanced, and the sink is not in the list then. Other sinks
stay. -/
theorem unregister_spec (hn : ∀ i, (n.sinks i).Nodup) (i : Interface) (sink : Sink S) :
    Balanced n (unregister n i sink).1 (unregister n i sink).2 ∧
      ∀ j sink', sink' ∈ (unregister n i sink).1.sinks j ↔
        sink' ∈ n.sinks j ∧ ¬(j = i ∧ sink' = sink) := by
  by_cases hmem : sink ∈ n.sinks i
  · have hsinks : (unregister n i sink).1.sinks =
        Function.update n.sinks i ((n.sinks i).erase sink) := by
      simp [unregister, Notifications.unregister, hmem]
    have hos : (unregister n i sink).2 = [.release i sink] := if_pos hmem
    have hiff : ∀ j sink', sink' ∈ (unregister n i sink).1.sinks j ↔
        sink' ∈ n.sinks j ∧ ¬(j = i ∧ sink' = sink) := by
      intro j sink'
      rw [hsinks]
      by_cases hj : j = i
      · subst hj
        rw [Function.update_self, (hn j).mem_erase_iff]
        simp [and_comm]
      · simp [hj]
    rw [hos]
    refine ⟨⟨by simp [Output.isReference], fun j => ?_, fun j sink' => ?_⟩, hiff⟩
    · rw [hsinks]
      by_cases hj : j = i
      · subst hj
        rw [Function.update_self]
        exact (hn j).erase sink
      · rw [Function.update_of_ne hj]
        exact hn j
    · simp only [inList, hiff]
      by_cases hj : j = i ∧ sink' = sink
      · obtain ⟨rfl, rfl⟩ := hj
        simp [hmem]
      · have hne : Output.release i sink ≠ Output.release j sink' := by
          rintro ⟨⟩
          exact hj ⟨rfl, rfl⟩
        simp [hj, hne]
  · have hsame : unregister n i sink = (n, []) := by
      simp [unregister, Notifications.unregister, hmem]
    rw [hsame]
    refine ⟨.nil hn, fun j sink' => ⟨fun h => ⟨h, ?_⟩, And.left⟩⟩
    rintro ⟨rfl, rfl⟩
    exact hmem h

/-- The plugin registers its sink for each interface. -/
theorem registerAll_spec {is : List Interface} (hn : ∀ i, (n.sinks i).Nodup) :
    Balanced n (forAll (fun n i => register n i .own) is n).1
        (forAll (fun n i => register n i .own) is n).2 ∧
      (∀ i ∈ is, .own ∈ (forAll (fun n i => register n i .own) is n).1.sinks i) ∧
      ∀ i, .own ∈ n.sinks i → .own ∈ (forAll (fun n i => register n i .own) is n).1.sinks i := by
  induction is generalizing n with
  | nil => exact ⟨.nil hn, by simp, fun _ h => h⟩
  | cons i is ih =>
    obtain ⟨hbalanced, hown, hkeep⟩ := register_spec hn i .own
    obtain ⟨hrest, hall, hkeep'⟩ := ih hbalanced.nodup
    refine ⟨hbalanced.append hrest, ?_, fun j hj => hkeep' j (hkeep j .own hj)⟩
    refine List.forall_mem_cons.mpr ⟨hkeep' i hown, hall⟩

/-- The plugin ends the registrations of its sink. -/
theorem unregisterAll_spec {is : List Interface} (hn : ∀ i, (n.sinks i).Nodup) :
    Balanced n (forAll (fun n i => unregister n i .own) is n).1
        (forAll (fun n i => unregister n i .own) is n).2 ∧
      ∀ j sink, sink ∈ (forAll (fun n i => unregister n i .own) is n).1.sinks j ↔
        sink ∈ n.sinks j ∧ ¬(j ∈ is ∧ sink = .own) := by
  induction is generalizing n with
  | nil => exact ⟨.nil hn, by simp [forAll]⟩
  | cons i is ih =>
    obtain ⟨hbalanced, hiff⟩ := unregister_spec hn i .own
    obtain ⟨hrest, hiff'⟩ := ih hbalanced.nodup
    refine ⟨hbalanced.append hrest, fun j sink => ?_⟩
    rw [show sink ∈ (forAll (fun n i => unregister n i .own) (i :: is) n).1.sinks j ↔ _ from
      hiff' j sink, hiff j sink, List.mem_cons]
    tauto

/-! ## One step -/

/-- What `Initialize` takes and `Deinitialize` gives back. -/
inductive Resource
  | service
  | registration (n : ServiceNotification)
  | implementation
  | json
  deriving DecidableEq, Repr

/-- The output that takes a resource. -/
def Resource.take : Resource → Output S
  | .service => .serviceAddRef
  | .registration n => .serviceRegister n
  | .implementation => .created
  | .json => .jsonRegister

/-- The output that gives a resource back. -/
def Resource.give : Resource → Output S
  | .service => .serviceRelease
  | .registration n => .serviceUnregister n
  | .implementation => .released
  | .json => .jsonUnregister

/-- The plugin has the resource. -/
def has (s : Shell S) : Resource → Bool
  | .service | .registration _ => s.service
  | .implementation | .json => s.powerManager.isSome

/-- How many references an implementation holds to a sink of an interface. -/
def heldBy (x : Option (Object S)) (i : Interface) (sink : Sink S) : ℕ :=
  x.elim 0 fun a => inList a.notifications i sink

/-- How many references the implementations hold to a sink of an interface. -/
def held (s : Shell S) (i : Interface) (sink : Sink S) : ℕ :=
  ∑ k ∈ Finset.range s.nextObject, heldBy (s.objects k) i sink

/-- The implementation that a step destroys: it releases the last reference. -/
def destroyed? (s : Shell S) : Label S → Option (Object S)
  | .deinitializePlugin _ =>
    match s.current? with
    | some (_, a) => if a.clients = 0 then some a else none
    | none => none
  | .release k =>
    match s.objects k with
    | some a => if a.clients = 1 ∧ s.powerManager ≠ some k then some a else none
    | none => none
  | _ => none

/-- A sink of an interface is revoked that `QueryInterface` finds, and the plugin has no
implementation. -/
def Stranded (s : Shell S) (i : Interface) (sink : Sink S) : Label S → Prop
  | .callbackRevoked (some j) c queried =>
    queried = true ∧ s.powerManager = none ∧ j = i ∧ .client c = sink
  | _ => False

instance (s : Shell S) (i : Interface) (sink : Sink S) (l : Label S) :
    Decidable (s.Stranded i sink l) := by
  unfold Stranded
  split <;> infer_instance

/-- How many references to a sink a step loses: those of an implementation that is destroyed, and
the one of `QueryInterface`. -/
def lost (s : Shell S) (i : Interface) (sink : Sink S) (l : Label S) : ℕ :=
  ((s.destroyed? l).elim 0 fun a => if sink = .own then 0 else inList a.notifications i sink) +
    if s.Stranded i sink l then 1 else 0

/-- The invariant of the plugin. Its own sink is in the lists of the implementation that it has, and
in no others. -/
structure Inv (s : Shell S) : Prop where
  service : s.powerManager.isSome = true → s.service = true
  current : ∀ k, s.powerManager = some k → (s.objects k).isSome = true
  fresh : ∀ k ≥ s.nextObject, s.objects k = none
  nodup : ∀ k a, s.objects k = some a → ∀ i, (a.notifications.sinks i).Nodup
  own : ∀ k a, s.objects k = some a → ∀ i,
    .own ∈ a.notifications.sinks i ↔ s.powerManager = some k

/-- What a step does to what is held. -/
structure StepEffect (s s' : Shell S) (l : Label S) (os : List (Output S)) : Prop where
  inv : s'.Inv
  resources : ∀ r : Resource, os.count r.take + (if s.has r then 1 else 0) =
    os.count r.give + if s'.has r then 1 else 0
  references : ∀ i sink, os.count (.addRef i sink) + s.held i sink =
    os.count (.release i sink) + s'.held i sink + s.lost i sink l

variable {s s' : Shell S} {l : Label S} {ls : List (Label S)} {k : ℕ} {a a' : Object S}

/-! ## The implementations -/

omit [DecidableEq S] in
theorem Inv.lt (hI : s.Inv) (hs : s.objects k = some a) : k < s.nextObject := by
  by_contra hge
  rw [hI.fresh k (not_lt.mp hge)] at hs
  cases hs

omit [DecidableEq S] in
theorem current?_eq_none (h : s.powerManager = none) : s.current? = none := by
  rw [current?, h]
  rfl

omit [DecidableEq S] in
theorem current?_eq_some (h : s.powerManager = some k) (hs : s.objects k = some a) :
    s.current? = some (k, a) := by
  rw [current?, h, Option.bind_some, hs]
  rfl

omit [DecidableEq S] in
/-- The plugin has no implementation, or one that has not been destroyed. -/
theorem Inv.current_cases (hI : s.Inv) :
    s.powerManager = none ∧ s.current? = none ∨
      ∃ k a, s.powerManager = some k ∧ s.objects k = some a ∧ s.current? = some (k, a) := by
  cases h : s.powerManager with
  | none => exact .inl ⟨rfl, current?_eq_none h⟩
  | some k =>
    obtain ⟨a, ha⟩ := Option.isSome_iff_exists.mp (hI.current k h)
    exact .inr ⟨k, a, rfl, ha, current?_eq_some h ha⟩

/-- What the implementations hold when one of them is replaced or destroyed. -/
theorem held_setObject (hk : k < s.nextObject) (x : Option (Object S)) (i : Interface)
    (sink : Sink S) :
    (s.setObject k x).held i sink + heldBy (s.objects k) i sink =
      s.held i sink + heldBy x i sink := by
  have hmem : k ∈ Finset.range s.nextObject := Finset.mem_range.mpr hk
  -- the others hold what they have held
  have hrest : ∑ j ∈ (Finset.range s.nextObject).erase k,
        heldBy ((s.setObject k x).objects j) i sink =
      ∑ j ∈ (Finset.range s.nextObject).erase k, heldBy (s.objects j) i sink :=
    Finset.sum_congr rfl fun j hj => by
      have hsame : (s.setObject k x).objects j = s.objects j :=
        Function.update_of_ne (Finset.ne_of_mem_erase hj) _ _
      rw [hsame]
  have hself : (s.setObject k x).objects k = x := Function.update_self ..
  have hnext : (s.setObject k x).nextObject = s.nextObject := rfl
  rw [held, held, hnext, ← Finset.add_sum_erase _ _ hmem, ← Finset.add_sum_erase _ _ hmem, hrest,
    hself]
  omega

omit [DecidableEq S] in
/-- The implementation that is replaced, or another one. -/
theorem objects_setObject_cases {x : Option (Object S)} {j : ℕ} {b : Object S}
    (h : (s.setObject k x).objects j = some b) :
    j = k ∧ x = some b ∨ j ≠ k ∧ s.objects j = some b := by
  by_cases hj : j = k
  · subst hj
    exact .inl ⟨rfl, by simpa [Shell.setObject] using h⟩
  · exact .inr ⟨hj, by simpa [Shell.setObject, hj] using h⟩

omit [DecidableEq S] in
theorem Inv.fresh_setObject (hI : s.Inv) (hk : k < s.nextObject) (x : Option (Object S)) :
    ∀ j ≥ s.nextObject, (s.setObject k x).objects j = none := by
  intro j hj
  have hne : j ≠ k := by
    rintro rfl
    exact absurd hk (not_lt.mpr hj)
  simpa [Shell.setObject, hne] using hI.fresh j hj

omit [DecidableEq S] in
/-- An implementation may be replaced if the sink of the plugin stays where it is, and destroyed if
it is not the one of the plugin. -/
theorem Inv.setObject (hI : s.Inv) (hk : k < s.nextObject) {x : Option (Object S)}
    (hcurrent : s.powerManager = some k → x.isSome = true)
    (hx : ∀ b, x = some b → ∀ i, (b.notifications.sinks i).Nodup ∧
      (.own ∈ b.notifications.sinks i ↔ s.powerManager = some k)) :
    (s.setObject k x).Inv where
  service := hI.service
  current j hj := by
    by_cases hjk : j = k
    · subst hjk
      simpa [Shell.setObject] using hcurrent hj
    · simpa [Shell.setObject, hjk] using hI.current j hj
  fresh := hI.fresh_setObject hk x
  nodup j b hb := by
    rcases objects_setObject_cases hb with ⟨rfl, hb'⟩ | ⟨-, hb'⟩
    · exact fun i => (hx b hb' i).1
    · exact hI.nodup j b hb'
  own j b hb i := by
    rcases objects_setObject_cases hb with ⟨rfl, hb'⟩ | ⟨-, hb'⟩
    · exact (hx b hb' i).2
    · exact hI.own j b hb' i

omit [DecidableEq S] in
/-- The plugin has given up its implementation, if it had one, whose lists do not have its sink any
more. -/
theorem Inv.release (hI : s.Inv) {x : Option (Object S)} (hk : k < s.nextObject)
    (hothers : ∀ j, s.powerManager = some j → j = k)
    (hx : ∀ b, x = some b → ∀ i,
      (b.notifications.sinks i).Nodup ∧ .own ∉ b.notifications.sinks i)
    {service : Bool} {connectionId : ℕ} :
    Inv { s.setObject k x with service, connectionId, powerManager := none } where
  service h := by cases h
  current j hj := by cases hj
  fresh := hI.fresh_setObject hk x
  nodup j b hb := by
    rcases objects_setObject_cases hb with ⟨rfl, hb'⟩ | ⟨-, hb'⟩
    · exact fun i => (hx b hb' i).1
    · exact hI.nodup j b hb'
  own j b hb i := by
    rcases objects_setObject_cases hb with ⟨rfl, hb'⟩ | ⟨hjk, hb'⟩
    · simpa using (hx b hb' i).2
    · have hnot : s.powerManager ≠ some j := fun h => hjk (hothers j h)
      simpa [hnot] using hI.own j b hb' i

/-- References to sinks are no resources of the plugin. -/
theorem count_resource (h : ∀ o ∈ os, o.isReference = true) (r : Resource) :
    os.count r.take = 0 ∧ os.count r.give = 0 := by
  refine ⟨List.count_eq_zero.mpr fun hmem => ?_, List.count_eq_zero.mpr fun hmem => ?_⟩
  · have := h _ hmem
    cases r <;> cases this
  · have := h _ hmem
    cases r <;> cases this

/-! ## The effect of a step -/

/-- A step that only changes how many references clients hold. -/
theorem stepEffect_clients (hI : s.Inv) (hs : s.objects k = some a) {clients : ℕ}
    (hl : ∀ i sink, s.lost i sink l = 0) :
    StepEffect s (s.setObject k (some { a with clients })) l [] where
  inv := by
    refine hI.setObject (hI.lt hs) (fun _ => rfl) ?_
    rintro _ ⟨⟩ i
    exact ⟨hI.nodup k a hs i, hI.own k a hs i⟩
  resources r := by cases r <;> rfl
  references i sink := by
    have hheld := held_setObject (hI.lt hs) (some { a with clients }) i sink
    rw [hs] at hheld
    have hsame : heldBy (some { a with clients }) i sink = heldBy (some a) i sink := rfl
    rw [hl]
    simp only [List.count_nil]
    omega

/-- A step on the lists of an implementation. -/
theorem stepEffect_of_balanced (hI : s.Inv) (hs : s.objects k = some a)
    (hb : Balanced a.notifications n' os)
    (hown : ∀ i, .own ∈ n'.sinks i ↔ .own ∈ a.notifications.sinks i)
    (hl : ∀ i sink, s.lost i sink l = 0) {os' : List (Output S)}
    (hos' : ∀ o ∈ os', ∃ e, o = .returned e) :
    StepEffect s (s.setObject k (some { a with notifications := n' })) l (os ++ os') where
  inv := by
    refine hI.setObject (hI.lt hs) (fun _ => rfl) ?_
    rintro _ ⟨⟩ i
    exact ⟨hb.nodup i, (hown i).trans (hI.own k a hs i)⟩
  resources r := by
    obtain ⟨htake, hgive⟩ := count_resource hb.only r
    have hnone : os'.count r.take = 0 ∧ os'.count r.give = 0 := by
      refine ⟨List.count_eq_zero.mpr fun hmem => ?_, List.count_eq_zero.mpr fun hmem => ?_⟩
      · obtain ⟨e, he⟩ := hos' _ hmem
        cases r <;> cases he
      · obtain ⟨e, he⟩ := hos' _ hmem
        cases r <;> cases he
    have hsame : (s.setObject k (some { a with notifications := n' })).has r = s.has r := by
      cases r <;> rfl
    rw [List.count_append, List.count_append, htake, hgive, hnone.1, hnone.2, hsame]
  references i sink := by
    have hbalance := hb.balance i sink
    have hheld := held_setObject (hI.lt hs) (some { a with notifications := n' }) i sink
    have hbefore : heldBy (s.objects k) i sink = inList a.notifications i sink := by
      rw [hs]
      rfl
    have hafter : heldBy (some { a with notifications := n' }) i sink = inList n' i sink := rfl
    have hnone : os'.count (.addRef i sink) = 0 ∧ os'.count (.release i sink) = 0 := by
      refine ⟨List.count_eq_zero.mpr fun hmem => ?_, List.count_eq_zero.mpr fun hmem => ?_⟩
      · obtain ⟨e, he⟩ := hos' _ hmem
        cases he
      · obtain ⟨e, he⟩ := hos' _ hmem
        cases he
    rw [List.count_append, List.count_append, hnone.1, hnone.2, hl]
    omega

/-- The lists of the implementation when the plugin has ended its registrations. -/
theorem inList_unregisterAll (hn : ∀ i, (n.sinks i).Nodup) (i : Interface) (sink : Sink S) :
    inList (forAll (fun n i => unregister n i .own) interfaces n).1 i sink =
      if sink = .own then 0 else inList n i sink := by
  obtain ⟨-, hiff⟩ := @unregisterAll_spec S _ n interfaces hn
  simp only [inList, hiff]
  by_cases hown : sink = .own
  · simp [hown, mem_interfaces]
  · simp [hown]

/-- `Deinitialize` gives back what the plugin has, and loses the references to the sinks of
clients, if no client has a reference to the implementation. -/
theorem stepEffect_deinitialize (hI : s.Inv) (hservice : s.service = true) (connection : Bool) :
    StepEffect s (s.deinitializePlugin connection).1 (.deinitializePlugin connection)
      (s.deinitializePlugin connection).2 := by
  rcases hI.current_cases with ⟨hnone, hs⟩ | ⟨k, a, hsome, hobject, hs⟩
  · simp only [deinitializePlugin, hs]
    refine ⟨⟨by simp, by simp, hI.fresh, hI.nodup, ?_⟩, fun r => ?_, fun i sink => ?_⟩
    · intro j b hb i
      simpa [hnone] using hI.own j b hb i
    · rcases r with _ | (_ | _) | _ | _ <;>
        simp [has, hnone, hservice, Resource.take, Resource.give]
    · have hlost : s.lost i sink (.deinitializePlugin connection) = 0 := by
        simp [lost, destroyed?, Stranded, hs]
      rw [hlost]
      simp [held]
  · obtain ⟨hb, hiff⟩ := @unregisterAll_spec S _ a.notifications interfaces (hI.nodup k a hobject)
    have hleft := inList_unregisterAll (hI.nodup k a hobject)
    simp only [deinitializePlugin, hs]
    generalize forAll (fun n i => unregister n i .own) interfaces a.notifications = r
      at hb hiff hleft ⊢
    -- clients that have a reference keep the implementation, without the sink of the plugin
    refine ⟨hI.release (hI.lt hobject) (fun j hj => ?_) fun b hmem i => ?_, fun res => ?_,
      fun i sink => ?_⟩
    · exact Option.some.inj (hj.symm.trans hsome)
    · split at hmem
      · cases hmem
      · obtain rfl := Option.some.inj hmem
        exact ⟨hb.nodup i, fun hown => ((hiff i .own).mp hown).2 ⟨mem_interfaces i, rfl⟩⟩
    · obtain ⟨htake, hgive⟩ := count_resource hb.only res
      simp only [List.count_append, htake, hgive]
      cases connection <;> rcases res with _ | (_ | _) | _ | _ <;>
        simp [has, hsome, hservice, Resource.take, Resource.give]
    · have hbalance := hb.balance i sink
      have hheld := held_setObject (hI.lt hobject)
        (if a.clients = 0 then none else some { a with notifications := r.1 }) i sink
      have hbefore : heldBy (s.objects k) i sink = inList a.notifications i sink := by
        rw [hobject]
        rfl
      -- what the implementation holds then is held by it, or lost with it
      have hafter : heldBy (if a.clients = 0 then none else some { a with notifications := r.1 })
          i sink + s.lost i sink (.deinitializePlugin connection) = inList r.1 i sink := by
        rw [hleft]
        by_cases hclients : a.clients = 0 <;>
          simp [lost, destroyed?, Stranded, hs, hclients, heldBy, hleft]
      simp only [List.count_append]
      have hsame : ∀ t : Shell S, Shell.held { t with
          service := false, connectionId := 0, powerManager := none } i sink = t.held i sink :=
        fun _ => rfl
      rw [hsame]
      cases connection <;> simp <;> omega

/-- `Initialize` takes what the plugin has then, or gives it back at once. -/
theorem stepEffect_initialize (hI : s.Inv) (hservice : s.service = false) (root : Option ℕ) :
    StepEffect s (s.initializePlugin root).1 (.initializePlugin root)
      (s.initializePlugin root).2 := by
  have hnone : s.powerManager = none := by
    cases hs : s.powerManager with
    | none => rfl
    | some k => simp [hI.service (by simp [hs])] at hservice
  have hl : ∀ i sink, s.lost i sink (.initializePlugin root) = 0 := fun _ _ => by
    simp [lost, destroyed?, Stranded]
  cases root with
  | none =>
    have hI' : ({ s with service := true } : Shell S).Inv :=
      ⟨fun _ => rfl, hI.current, hI.fresh, hI.nodup, hI.own⟩
    have h := stepEffect_deinitialize hI' rfl false
    have hl' : ∀ i sink, ({ s with service := true } : Shell S).lost i sink
        (.deinitializePlugin false) = 0 := fun _ _ => by
      simp [lost, destroyed?, Stranded, current?_eq_none (show ({ s with service := true } :
        Shell S).powerManager = none from hnone)]
    refine ⟨h.inv, fun r => ?_, fun i sink => ?_⟩
    · have hresource := h.resources r
      simp only [initializePlugin, List.count_append]
      rcases r with _ | (_ | _) | _ | _ <;>
        simp [has, hnone, hservice, Resource.take, Resource.give] at hresource ⊢ <;> omega
    · have hreference := h.references i sink
      have hsame : ({ s with service := true } : Shell S).held i sink = s.held i sink := rfl
      rw [hl', hsame] at hreference
      rw [hl]
      simp only [initializePlugin, List.count_append]
      simpa using hreference
  | some connectionId =>
    obtain ⟨hb, hown, -⟩ :=
      @registerAll_spec S _ (.initial : Notifications (Sink S)) interfaces
        (fun _ => List.nodup_nil)
    simp only [initializePlugin]
    generalize forAll (fun (n : Notifications (Sink S)) i => register n i .own) interfaces
      .initial = r at hb hown ⊢
    refine ⟨⟨fun _ => rfl, ?_, ?_, ?_, ?_⟩, fun res => ?_, fun i sink => ?_⟩
    · rintro k ⟨⟩
      simp [setObject]
    · intro k hk
      have hne : k ≠ s.nextObject := Nat.ne_of_gt hk
      simpa [setObject, hne] using hI.fresh k (Nat.le_of_lt hk)
    · intro k b hobject
      rcases objects_setObject_cases hobject with ⟨rfl, ⟨⟩⟩ | ⟨-, hobject⟩
      · exact hb.nodup
      · exact hI.nodup k b hobject
    · -- the implementations that clients have kept have not got the sink of the plugin
      intro k b hobject i
      rcases objects_setObject_cases hobject with ⟨rfl, ⟨⟩⟩ | ⟨hk, hobject⟩
      · exact iff_of_true (hown i (mem_interfaces i)) rfl
      · have hold := hI.own k b hobject i
        rw [hnone] at hold
        simpa [Ne.symm hk] using hold
    · obtain ⟨htake, hgive⟩ := count_resource hb.only res
      simp only [List.count_append, htake, hgive]
      rcases res with _ | (_ | _) | _ | _ <;>
        simp [has, hnone, hservice, Resource.take, Resource.give]
    · have hbalance := hb.balance i sink
      have hempty : inList (.initial : Notifications (Sink S)) i sink = 0 := rfl
      have hheld : Shell.held { s.setObject s.nextObject (some ⟨r.1, 0⟩) with
          service := true, connectionId, powerManager := some s.nextObject,
          nextObject := s.nextObject + 1 } i sink = s.held i sink + inList r.1 i sink := by
        -- the number of the new implementation has not been used before
        rw [held, Finset.sum_range_succ]
        refine congrArg₂ (· + ·) (Finset.sum_congr rfl fun k hk => ?_) ?_
        · have hne : k ≠ s.nextObject := Nat.ne_of_lt (Finset.mem_range.mp hk)
          simp [setObject, hne]
        · simp [setObject, heldBy]
      rw [hl, hheld]
      simp only [List.count_append]
      simp
      omega

/-- `CallbackRevoked` loses the reference of `QueryInterface` if there is no implementation. -/
theorem stepEffect_callbackRevoked (hI : s.Inv) (i : Interface) (c : S) (queried : Bool) :
    StepEffect s (s.callbackRevoked i c queried).1 (.callbackRevoked (some i) c queried)
      (s.callbackRevoked i c queried).2 := by
  cases queried with
  | false =>
    refine ⟨hI, fun r => rfl, fun j sink => ?_⟩
    simp [callbackRevoked, lost, destroyed?, Stranded]
  | true =>
    rcases hI.current_cases with ⟨hnone, hs⟩ | ⟨k, a, hsome, hobject, hs⟩
    · simp only [callbackRevoked, hs, if_true]
      refine ⟨hI, fun r => ?_, fun j sink => ?_⟩
      · rcases r with _ | (_ | _) | _ | _ <;> simp [Resource.take, Resource.give]
      · simp [lost, destroyed?, Stranded, hnone, List.count_cons]
        omega
    · obtain ⟨hb, hiff⟩ := unregister_spec (hI.nodup k a hobject) i (.client c)
      have h : StepEffect s _ (.callbackRevoked (some i) c true) _ :=
        stepEffect_of_balanced hI hobject hb (fun j => by simp [hiff])
          (fun j sink => by simp [lost, destroyed?, Stranded, hsome]) (List.forall_mem_nil _)
      simp only [callbackRevoked, hs, if_true]
      refine ⟨h.inv, fun r => ?_, fun j sink => ?_⟩
      · have hresource := h.resources r
        rcases r with _ | (_ | _) | _ | _ <;> simpa [Resource.take, Resource.give] using hresource
      · have hreference := h.references j sink
        simp only [List.append_nil] at hreference
        simp only [List.count_append, List.count_cons, List.count_nil]
        -- the reference of `QueryInterface` is given back
        have hsame : (Output.addRef i (Sink.client c) == .addRef j sink) =
            (Output.release i (Sink.client c) == .release j sink) := by
          simp [beq_eq_decide]
        simp only [hsame]
        simp
        omega

/-- A client that releases the last reference destroys the implementation. -/
theorem stepEffect_destroyed (hI : s.Inv) (hs : s.objects k = some a) (hclients : a.clients = 1)
    (hcurrent : s.powerManager ≠ some k) : StepEffect s (s.setObject k none) (.release k) [] where
  inv := by
    refine hI.setObject (hI.lt hs) (fun h => absurd h hcurrent) ?_
    rintro _ ⟨⟩
  resources r := by cases r <;> rfl
  references i sink := by
    have hheld := held_setObject (hI.lt hs) none i sink
    have hbefore : heldBy (s.objects k) i sink = inList a.notifications i sink := by
      rw [hs]
      rfl
    have hafter : heldBy (none : Option (Object S)) i sink = 0 := rfl
    -- the sink of the plugin is not in the lists
    have hlost : s.lost i sink (.release k) = inList a.notifications i sink := by
      have hown : sink = .own → inList a.notifications i sink = 0 := by
        rintro rfl
        exact if_neg fun hmem => hcurrent ((hI.own k a hs i).mp hmem)
      by_cases hsink : sink = .own
      · rw [hown hsink]
        simp [lost, destroyed?, Stranded, hcurrent, hs, hclients, hsink]
      · simp [lost, destroyed?, Stranded, hcurrent, hs, hclients, hsink]
    rw [hlost]
    simp only [List.count_nil]
    omega

/-- A step of a client that calls an implementation changes its lists. -/
theorem stepEffect_call (hI : s.Inv) (hl : ∀ i sink, s.lost i sink l = 0)
    (op : Object S → Notifications (Sink S) × List (Output S)) {answer : Object S → ErrorCode}
    (hb : ∀ a, (∀ i, (a.notifications.sinks i).Nodup) →
      Balanced a.notifications (op a).1 (op a).2 ∧
        ∀ i, .own ∈ (op a).1.sinks i ↔ .own ∈ a.notifications.sinks i)
    (h : (match s.objects k with
      | none => none
      | some a =>
        if a.clients = 0 then none
        else some (s.setObject k (some { a with notifications := (op a).1 }),
          (op a).2 ++ [.returned (answer a)])) = some (s', os)) : StepEffect s s' l os := by
  split at h
  · cases h
  · rename_i a hs
    split_ifs at h
    cases h
    obtain ⟨hbalanced, hown⟩ := hb a (hI.nodup k a hs)
    exact stepEffect_of_balanced hI hs hbalanced hown hl (by simp)

/-- What each step does to what is held. -/
theorem step_effect (hI : s.Inv) (h : plugin.step s l = some (s', os)) : StepEffect s s' l os := by
  cases l with
  | initializePlugin root =>
    simp only [plugin] at h
    split_ifs at h with hservice
    have heffect := stepEffect_initialize hI (by simpa using hservice) root
    rwa [Option.some.inj h] at heffect
  | deinitializePlugin connection =>
    simp only [plugin] at h
    split_ifs at h with hservice
    have heffect := stepEffect_deinitialize hI hservice connection
    rwa [Option.some.inj h] at heffect
  | acquire k =>
    simp only [plugin] at h
    split at h
    · cases h
    · rename_i a hs
      split_ifs at h
      cases h
      exact stepEffect_clients hI hs fun _ _ => by simp [lost, destroyed?, Stranded]
  | release k =>
    simp only [plugin] at h
    split at h
    · cases h
    · rename_i a hs
      split_ifs at h with hnone hlast
      · cases h
        exact stepEffect_destroyed hI hs hlast.1 hlast.2
      · cases h
        exact stepEffect_clients hI hs fun _ _ => by
          simp only [lost, destroyed?, hs, if_neg hlast]
          simp [Stranded]
  | register k i sink =>
    refine stepEffect_call hI (fun _ _ => by simp [lost, destroyed?, Stranded])
      (fun a => register a.notifications i (.client sink)) (fun a hn => ?_) h
    obtain ⟨hb, -⟩ := register_spec hn i (.client sink)
    exact ⟨hb, register_own i sink⟩
  | unregister k i sink =>
    refine stepEffect_call hI (fun _ _ => by simp [lost, destroyed?, Stranded])
      (fun a => unregister a.notifications i (.client sink)) (fun a hn => ?_) h
    obtain ⟨hb, hiff⟩ := unregister_spec hn i (.client sink)
    exact ⟨hb, fun j => by simp [hiff]⟩
  | callbackRevoked i sink queried =>
    cases i with
    | none =>
      obtain ⟨rfl, rfl⟩ : s = s' ∧ [] = os := Prod.mk.inj (Option.some.inj h)
      exact ⟨hI, fun _ => rfl, fun _ _ => by simp [lost, destroyed?, Stranded]⟩
    | some i =>
      have heffect := stepEffect_callbackRevoked hI i sink queried
      rwa [show s.callbackRevoked i sink queried = (s', os) from Option.some.inj h] at heffect
  | deactivated connectionId =>
    simp only [plugin] at h
    split_ifs at h
    obtain ⟨rfl, rfl⟩ : s = s' ∧ s.deactivated connectionId = os := Prod.mk.inj (Option.some.inj h)
    refine ⟨hI, fun r => ?_, fun i sink => ?_⟩
    · rcases r with _ | (_ | _) | _ | _ <;> simp only [deactivated] <;> split_ifs <;>
        simp [Resource.take, Resource.give]
    · simp only [deactivated]
      split_ifs <;> simp [lost, destroyed?, Stranded]

/-! ## Runs -/

/-- The condition under which a step loses no reference: no client is registered with an
implementation that is destroyed, and a sink that `QueryInterface` finds is revoked while the plugin
has an implementation. -/
def Tidy (s : Shell S) (l : Label S) : Prop :=
  (∀ a ∈ s.destroyed? l, ∀ i ∈ interfaces, ∀ sink ∈ a.notifications.sinks i, sink = .own) ∧
    match l with
    | .callbackRevoked (some _) _ true => s.powerManager.isSome = true
    | _ => True

instance (s : Shell S) (l : Label S) : Decidable (Tidy s l) := by
  unfold Tidy
  have : Decidable (match l with
    | .callbackRevoked (some _) _ true => s.powerManager.isSome = true
    | _ => True) := by
    split <;> infer_instance
  infer_instance

theorem lost_eq_zero_iff : (∀ i sink, s.lost i sink l = 0) ↔ Tidy s l := by
  simp only [lost, Nat.add_eq_zero_iff, forall_and, Tidy]
  refine and_congr ?_ ?_
  · cases s.destroyed? l with
    | none => simp
    | some a =>
      simp only [Option.elim_some, inList, Option.mem_def, Option.some.injEq, forall_eq']
      refine ⟨fun h i _ sink hmem => ?_, fun h i sink => ?_⟩
      · by_contra hsink
        simpa [hsink, hmem] using h i sink
      · by_cases hmem : sink ∈ a.notifications.sinks i
        · simp [h i (mem_interfaces i) sink hmem]
        · simp [hmem]
  · cases l with
    | callbackRevoked i c queried =>
      cases i with
      | none => simp [Stranded]
      | some j => cases queried <;> cases hs : s.powerManager <;> simp [Stranded, hs]
    | _ => simp [Stranded]

/-- The sink of the plugin is never lost. -/
theorem lost_own (s : Shell S) (i : Interface) (l : Label S) : s.lost i .own l = 0 := by
  have hdestroyed : ((s.destroyed? l).elim 0 fun a =>
      if Sink.own = (Sink.own : Sink S) then 0 else inList a.notifications i .own) = 0 := by
    cases s.destroyed? l <;> simp
  have hnot : ¬s.Stranded i .own l := by
    unfold Stranded
    split <;> simp
  rw [lost, hdestroyed, if_neg hnot]

omit [DecidableEq S] in
theorem inv_initial : (initial : Shell S).Inv := by constructor <;> simp [initial]

/-- What a run has done with references to sinks. -/
structure Books (s : Shell S) (os : List (Output S)) : Prop where
  inv : s.Inv
  resources : ∀ r : Resource, os.count r.take = os.count r.give + if s.has r then 1 else 0
  references : ∀ i sink, os.count (.release i sink) + s.held i sink ≤ os.count (.addRef i sink)
  own : ∀ i, os.count (.addRef i .own) = os.count (.release i .own) + s.held i .own

theorem books_run (hrun : plugin.Run initial ls os s) : s.Books os := by
  induction hrun with
  | nil => exact ⟨inv_initial, by intro r; cases r <;> rfl, fun _ _ => by simp [initial, held],
      fun _ => rfl⟩
  | snoc _ hstep ih =>
    have h := step_effect ih.inv hstep
    refine ⟨h.inv, fun r => ?_, fun i sink => ?_, fun i => ?_⟩
    · have hbefore := ih.resources r
      have hresource := h.resources r
      rw [List.count_append, List.count_append]
      omega
    · have hbefore := ih.references i sink
      have hreference := h.references i sink
      rw [List.count_append, List.count_append]
      omega
    · have hbefore := ih.own i
      have hreference := h.references i .own
      rw [lost_own] at hreference
      rw [List.count_append, List.count_append]
      omega

/-- The implementation that the plugin has holds the only reference to its sink. -/
theorem Inv.held_own (hI : s.Inv) (i : Interface) :
    s.held i .own = if s.powerManager.isSome then 1 else 0 := by
  have hby : ∀ k, heldBy (s.objects k) i .own = if s.powerManager = some k then 1 else 0 := by
    intro k
    cases hs : s.objects k with
    | none =>
      have hne : s.powerManager ≠ some k := fun h => by simpa [hs] using hI.current k h
      rw [if_neg hne]
      rfl
    | some a => simp [heldBy, inList, hI.own k a hs i]
  rw [held, Finset.sum_congr rfl fun k _ => hby k]
  cases hs : s.powerManager with
  | none => simp
  | some k =>
    obtain ⟨a, ha⟩ := Option.isSome_iff_exists.mp (hI.current k hs)
    simp only [Option.some.injEq, Option.isSome_some, if_true]
    rw [Finset.sum_ite_eq, if_pos (Finset.mem_range.mpr (hI.lt ha))]

/-- What `Initialize` takes is given back exactly as often as it is taken, but for what the plugin
has, and so are the references to its sink. No reference to a sink is given back that has not been
taken. Every reference that has been taken is given back or held by an implementation, if and only
if no client is registered with an implementation when that is destroyed, and no sink is revoked
while the plugin has none. -/
theorem references_iff (hrun : plugin.Run initial ls os s) :
    (∀ r : Resource, os.count r.take = os.count r.give + if s.has r then 1 else 0) ∧
      (∀ i, os.count (.addRef i .own) =
        os.count (.release i .own) + if s.powerManager.isSome then 1 else 0) ∧
      (∀ i sink, os.count (.release i sink) + s.held i sink ≤ os.count (.addRef i sink)) ∧
      ((∀ i sink, os.count (.addRef i sink) = os.count (.release i sink) + s.held i sink) ↔
        plugin.Along Tidy initial ls) := by
  have hbooks := books_run hrun
  refine ⟨hbooks.resources, fun i => ?_, hbooks.references, ?_⟩
  · rw [hbooks.own, hbooks.inv.held_own]
  clear hbooks
  induction hrun with
  | nil =>
    refine ⟨fun _ pre l post os t hls => by simp at hls, fun _ i sink => rfl⟩
  | @snoc t u ls os os' l hrun hstep ih =>
    have h := step_effect (books_run hrun).inv hstep
    have hbefore := (books_run hrun).references
    rw [Machine.along_snoc hrun, ← ih, ← lost_eq_zero_iff, ← forall_and]
    refine forall_congr' fun i => ?_
    rw [← forall_and]
    refine forall_congr' fun sink => ?_
    -- what is lost stays lost
    have hle := hbefore i sink
    have hreference := h.references i sink
    rw [List.count_append, List.count_append]
    omega

/-- A client keeps its reference to the implementation, and unregisters after `Deinitialize`. -/
theorem references_iff_of_kept : ∃ (os : List (Output ℕ)) (s : Shell ℕ),
    plugin.Run initial [.initializePlugin (some 7), .acquire 0, .register 0 .modeChanged 1,
      .deinitializePlugin true, .unregister 0 .modeChanged 1, .release 0] os s ∧
      os.count (.addRef .modeChanged (.client 1)) = 1 ∧
      ∀ i sink, os.count (.addRef i sink) = os.count (.release i sink) + s.held i sink := by
  obtain ⟨os, s, hrun, hcount⟩ : ∃ (os : List (Output ℕ)) (s : Shell ℕ),
      plugin.Run initial [.initializePlugin (some 7), .acquire 0, .register 0 .modeChanged 1,
        .deinitializePlugin true, .unregister 0 .modeChanged 1, .release 0] os s ∧
      os.count (.addRef .modeChanged (.client 1)) = 1 :=
    Machine.exists_outputs_of_exec
      (p := fun os _ => os.count (Output.addRef .modeChanged (.client 1)) = 1) (by decide +kernel)
  exact ⟨os, s, hrun, hcount,
    (references_iff hrun).2.2.2.mpr (Machine.along_of_check (by decide +kernel))⟩

end Shell

end PowerManager
