import SieveTube.Library.KeyedMap
import SieveTube.Library.Run

/-!
# The registry of connected Connectors

Registrations and removals are serialized by one write lock, so each of them
is a function on the two indexes and the generation counter.  `Consistent`
is the invariant that ties the indexes together: the hostname index is
determined by the tenant index.  Generations are counted with unbounded
numbers, since no process performs `2 ^ 64` registrations.
-/

namespace SieveTube

inductive Protocol where
  | http
  | tcp
  | udp
deriving DecidableEq

/-- Protocols served for each hostname, as restricted by the Edge. -/
abbrev Services := AList fun _ : String => List Protocol

/-- A registered Connector.  `connection` is the `stable_id` of its QUIC
connection and `udpReplyMap` names the reply table created for it. -/
structure ConnectorHandle where
  tenantId : String
  hostnames : List String
  services : Option Services
  connection : Nat
  udpReplyMap : Nat
  generation : Nat
deriving DecidableEq

/-- A Connector that advertised no services is assumed to serve every
protocol on the hostnames of its token. -/
def ConnectorHandle.supports (handle : ConnectorHandle)
    (hostname : String) (protocol : Protocol) : Bool :=
  match handle.services with
  | none => handle.hostnames.contains hostname
  | some services =>
    (services.lookup hostname).any fun protocols => protocols.contains protocol

structure Registration where
  tenantId : String
  hostnames : List String
  services : Option Services
  connection : Nat
  udpReplyMap : Nat

structure Registered where
  handle : ConnectorHandle
  replaced : Option ConnectorHandle

structure ConnectorRegistry where
  byHostname : AList fun _ : String => ConnectorHandle
  byTenant : AList fun _ : String => ConnectorHandle
  nextGeneration : Nat

namespace ConnectorRegistry

def new : ConnectorRegistry :=
  { byHostname := ∅, byTenant := ∅, nextGeneration := 0 }

/-- The first claimed hostname that another tenant serves. -/
def servedByOther (registry : ConnectorRegistry)
    (registration : Registration) : Option String :=
  registration.hostnames.find? fun hostname =>
    (registry.byHostname.lookup hostname).any fun existing =>
      existing.tenantId ≠ registration.tenantId

def handleFor (registry : ConnectorRegistry)
    (registration : Registration) : ConnectorHandle :=
  { tenantId := registration.tenantId
    hostnames := registration.hostnames
    services := registration.services
    connection := registration.connection
    udpReplyMap := registration.udpReplyMap
    generation := registry.nextGeneration + 1 }

/-- Drop from the hostname index what still points to `handle`. -/
def dropHostnames (registry : ConnectorRegistry)
    (handle : ConnectorHandle) : AList fun _ : String => ConnectorHandle :=
  registry.byHostname.removeAllIf handle.hostnames fun stored =>
    stored.generation = handle.generation

/-- The hostname index without the current registration of a tenant. -/
def otherHostnames (registry : ConnectorRegistry) (tenantId : String) :
    AList fun _ : String => ConnectorHandle :=
  match registry.byTenant.lookup tenantId with
  | some previous => registry.dropHostnames previous
  | none => registry.byHostname

def register (registry : ConnectorRegistry) (registration : Registration) :
    Except String Registered × ConnectorRegistry :=
  match registry.servedByOther registration with
  | some hostname =>
    (.error ("hostname " ++ hostname ++
      " is already served by another tenant on this edge"), registry)
  | none =>
    let handle := registry.handleFor registration
    let tenantId := registration.tenantId
    let remaining := registry.otherHostnames tenantId
    (.ok { handle, replaced := registry.byTenant.lookup tenantId },
      { byHostname := remaining.insertAll registration.hostnames handle
        byTenant := registry.byTenant.insert tenantId handle
        nextGeneration := registry.nextGeneration + 1 })

/-- Remove the connection of a tenant only if it still has the given
generation. -/
def remove (registry : ConnectorRegistry) (tenantId : String)
    (generation : Nat) : Bool × ConnectorRegistry :=
  match registry.byTenant.lookup tenantId with
  | none => (false, registry)
  | some handle =>
    if handle.generation = generation then
      (true,
        { registry with
          byHostname := registry.dropHostnames handle
          byTenant := registry.byTenant.erase tenantId })
    else (false, registry)

def getByHostname (registry : ConnectorRegistry) (hostname : String) :
    Option ConnectorHandle :=
  registry.byHostname.lookup hostname

/-- The handle is the current registration of its own tenant. -/
def IsCurrent (registry : ConnectorRegistry) (handle : ConnectorHandle) :
    Prop :=
  registry.byTenant.lookup handle.tenantId = some handle

/-- The hostname index is the image of the tenant index. -/
structure Consistent (registry : ConnectorRegistry) : Prop where
  ownTenant : ∀ tenantId handle,
    registry.byTenant.lookup tenantId = some handle → handle.tenantId = tenantId
  indexed : ∀ hostname handle,
    registry.byHostname.lookup hostname = some handle ↔
      registry.IsCurrent handle ∧ hostname ∈ handle.hostnames

theorem consistent_new : new.Consistent := by
  constructor
  · intro tenantId handle found
    simp [new] at found
  · intro hostname handle
    simp [new, IsCurrent]

variable {registry : ConnectorRegistry} {registration : Registration}

theorem servedByOther_eq_none
    (free : registry.servedByOther registration = none) {hostname : String}
    (claimed : hostname ∈ registration.hostnames) {existing : ConnectorHandle}
    (found : registry.byHostname.lookup hostname = some existing) :
    existing.tenantId = registration.tenantId := by
  have passed := List.find?_eq_none.mp free hostname claimed
  simpa [found] using passed

/-- Dropping the current registration of a tenant removes exactly the
entries of that tenant. -/
theorem lookup_otherHostnames (consistent : registry.Consistent)
    (tenantId hostname : String) (handle : ConnectorHandle) :
    (registry.otherHostnames tenantId).lookup hostname = some handle ↔
      registry.byHostname.lookup hostname = some handle ∧
        handle.tenantId ≠ tenantId := by
  have current : registry.byHostname.lookup hostname = some handle →
      registry.IsCurrent handle ∧ hostname ∈ handle.hostnames :=
    (consistent.indexed hostname handle).mp
  unfold otherHostnames
  cases found : registry.byTenant.lookup tenantId with
  | none =>
    constructor
    · intro stored
      refine ⟨stored, ?_⟩
      rintro rfl
      have isCurrent := (current stored).1
      rw [IsCurrent, found] at isCurrent
      cases isCurrent
    · exact And.left
  | some previous =>
    have own := consistent.ownTenant tenantId previous found
    have onlyPrevious : ∀ other, registry.IsCurrent other →
        other.tenantId = tenantId → other = previous := by
      intro other isCurrent same
      rw [IsCurrent, same, found] at isCurrent
      exact (Option.some.inj isCurrent).symm
    simp only [dropHostnames, AList.lookup_removeAllIf]
    by_cases listed : hostname ∈ previous.hostnames
    · have stored : registry.byHostname.lookup hostname = some previous := by
        apply (consistent.indexed hostname previous).mpr
        exact ⟨by rw [IsCurrent, own, found], listed⟩
      simp only [listed, stored, if_true, Option.filter, decide_true,
        Bool.not_true, Bool.false_eq_true, if_false, Option.some.injEq]
      constructor
      · intro impossible
        cases impossible
      · rintro ⟨rfl, different⟩
        exact absurd own different
    · rw [if_neg listed]
      constructor
      · intro stored
        refine ⟨stored, ?_⟩
        intro same
        have equality := onlyPrevious handle (current stored).1 same
        exact listed (equality ▸ (current stored).2)
      · exact And.left

theorem consistent_remove (consistent : registry.Consistent) (tenantId : String)
    (generation : Nat) :
    (registry.remove tenantId generation).2.Consistent := by
  unfold remove
  cases found : registry.byTenant.lookup tenantId with
  | none => exact consistent
  | some removed =>
    by_cases same : removed.generation = generation
    · have remaining : registry.dropHostnames removed =
          registry.otherHostnames tenantId := by
        simp [otherHostnames, found]
      simp only [same, if_true, remaining]
      constructor
      · intro tenant handle stored
        simp only [AList.lookup_erase_eq] at stored
        split at stored
        · cases stored
        · exact consistent.ownTenant tenant handle stored
      · intro hostname handle
        simp only [IsCurrent, AList.lookup_erase_eq]
        rw [lookup_otherHostnames consistent,
          consistent.indexed hostname handle]
        by_cases own : handle.tenantId = tenantId
        · simp [own]
        · simp [own, IsCurrent]
    · simpa [same] using consistent

theorem consistent_register (consistent : registry.Consistent)
    (registration : Registration) :
    (registry.register registration).2.Consistent := by
  unfold register
  cases free : registry.servedByOther registration with
  | some hostname => exact consistent
  | none =>
    constructor
    · intro tenant handle stored
      simp only [AList.lookup_insert_eq] at stored
      split at stored
      · next same =>
        cases stored
        exact same.symm
      · exact consistent.ownTenant tenant handle stored
    · intro hostname handle
      simp only [IsCurrent, AList.lookup_insert_eq, AList.lookup_insertAll]
      by_cases claimed : hostname ∈ registration.hostnames
      · have served : ∀ existing,
            registry.byHostname.lookup hostname = some existing →
              existing.tenantId = registration.tenantId :=
          fun existing => servedByOther_eq_none free claimed
        simp only [claimed, if_true, Option.some.injEq]
        constructor
        · rintro rfl
          simp [handleFor, claimed]
        · rintro ⟨isCurrent, listed⟩
          by_cases own : handle.tenantId = registration.tenantId
          · rw [if_pos own] at isCurrent
            exact Option.some.inj isCurrent
          · rw [if_neg own] at isCurrent
            have stored := (consistent.indexed hostname handle).mpr
              ⟨isCurrent, listed⟩
            exact absurd (served handle stored) own
      · simp only [claimed, if_false]
        rw [lookup_otherHostnames consistent,
          consistent.indexed hostname handle]
        by_cases own : handle.tenantId = registration.tenantId
        · simp only [own, ne_eq, not_true_eq_false, and_false, if_true,
            Option.some.injEq, false_iff, not_and]
          rintro rfl
          exact claimed
        · simp [own, IsCurrent]

variable {registered : Registered}

/-- A hostname only the replaced registration had is dropped, whoever
claims the other hostnames. -/
theorem register_drops (consistent : registry.Consistent)
    (success : (registry.register registration).1 = .ok registered)
    {previous : ConnectorHandle}
    (replaced : registry.byTenant.lookup registration.tenantId =
      some previous) {hostname : String} (had : hostname ∈ previous.hostnames)
    (unclaimed : hostname ∉ registration.hostnames) :
    (registry.register registration).2.byHostname.lookup hostname =
      none := by
  unfold register at success ⊢
  cases free : registry.servedByOther registration with
  | some conflicting => simp [free] at success
  | none =>
    simp only [AList.lookup_insertAll, unclaimed, if_false]
    apply Option.eq_none_iff_forall_ne_some.mpr
    intro handle stored
    obtain ⟨found, different⟩ :=
      (lookup_otherHostnames consistent _ _ _).mp stored
    have own := consistent.ownTenant _ previous replaced
    have indexed : registry.byHostname.lookup hostname = some previous := by
      apply (consistent.indexed hostname previous).mpr
      exact ⟨by rw [IsCurrent, own, replaced], had⟩
    rw [found] at indexed
    cases indexed
    exact different own

theorem register_rejected {message : String}
    (rejected : (registry.register registration).1 = .error message) :
    (registry.register registration).2 = registry := by
  unfold register at rejected ⊢
  cases free : registry.servedByOther registration with
  | some hostname => rfl
  | none => simp [free] at rejected

theorem register_generation
    (success : (registry.register registration).1 = .ok registered) :
    registered.handle.generation = registry.nextGeneration + 1 ∧
      (registry.register registration).2.nextGeneration =
        registry.nextGeneration + 1 := by
  unfold register at success ⊢
  cases free : registry.servedByOther registration with
  | some hostname => simp [free] at success
  | none =>
    simp only [free, Except.ok.injEq] at success
    subst registered
    exact ⟨rfl, rfl⟩

variable {tenantId : String} {generation : Nat}

theorem remove_stale
    (stale : ∀ handle, registry.byTenant.lookup tenantId = some handle →
      handle.generation ≠ generation) :
    registry.remove tenantId generation = (false, registry) := by
  unfold remove
  cases found : registry.byTenant.lookup tenantId with
  | none => rfl
  | some handle => simp [stale handle found]

theorem remove_nextGeneration (registry : ConnectorRegistry)
    (tenantId : String) (generation : Nat) :
    (registry.remove tenantId generation).2.nextGeneration =
      registry.nextGeneration := by
  unfold remove
  split
  · rfl
  · split <;> rfl

theorem isCurrent_register {handle : ConnectorHandle}
    (isCurrent : (registry.register registration).2.IsCurrent handle) :
    registry.IsCurrent handle ∨ handle = registry.handleFor registration := by
  unfold register at isCurrent
  cases free : registry.servedByOther registration with
  | some hostname =>
    rw [free] at isCurrent
    exact .inl isCurrent
  | none =>
    simp only [free, IsCurrent, AList.lookup_insert_eq] at isCurrent
    split at isCurrent
    · exact .inr (Option.some.inj isCurrent).symm
    · exact .inl isCurrent

theorem isCurrent_remove {handle : ConnectorHandle}
    (isCurrent : (registry.remove tenantId generation).2.IsCurrent handle) :
    registry.IsCurrent handle := by
  unfold remove at isCurrent
  split at isCurrent
  · exact isCurrent
  · split at isCurrent
    · simp only [IsCurrent, AList.lookup_erase_eq] at isCurrent
      split at isCurrent
      · cases isCurrent
      · exact isCurrent
    · exact isCurrent

variable {later : ConnectorRegistry}

theorem register_ok
    (success : registry.register registration = (.ok registered, later)) :
    registered.handle = registry.handleFor registration ∧
      registered.replaced = registry.byTenant.lookup registration.tenantId ∧
      later.nextGeneration = registry.nextGeneration + 1 ∧
      ∀ handle, later.IsCurrent handle ↔
      handle = registry.handleFor registration ∨
          registry.IsCurrent handle ∧
            handle.tenantId ≠ registration.tenantId := by
  unfold register at success
  cases free : registry.servedByOther registration with
  | some hostname => simp [free] at success
  | none =>
    simp only [free, Prod.mk.injEq, Except.ok.injEq] at success
    obtain ⟨rfl, rfl⟩ := success
    refine ⟨rfl, rfl, rfl, ?_⟩
    intro handle
    simp only [IsCurrent, AList.lookup_insert_eq]
    split
    · next own =>
      constructor
      · intro stored
        exact .inl (Option.some.inj stored).symm
      · rintro (rfl | ⟨_, other⟩)
        · rfl
        · exact absurd own other
    · next other =>
      constructor
      · intro stored
        exact .inr ⟨stored, other⟩
      · rintro (rfl | ⟨stored, _⟩)
        · exact absurd rfl other
        · exact stored

theorem remove_true
    (removed : registry.remove tenantId generation = (true, later)) :
    (∃ handle, registry.byTenant.lookup tenantId = some handle ∧
      handle.generation = generation) ∧
    ∀ handle, later.IsCurrent handle ↔
      registry.IsCurrent handle ∧ handle.tenantId ≠ tenantId := by
  unfold remove at removed
  cases found : registry.byTenant.lookup tenantId with
  | none => simp [found] at removed
  | some current =>
    by_cases same : current.generation = generation
    · simp only [found, same, if_true, Prod.mk.injEq, true_and] at removed
      subst removed
      refine ⟨⟨current, rfl, same⟩, ?_⟩
      intro handle
      simp only [IsCurrent, AList.lookup_erase_eq]
      split
      · next own => simp [own]
      · next other => simp [other]
    · simp [found, same] at removed

theorem remove_false
    (kept : registry.remove tenantId generation = (false, later)) :
    later = registry := by
  unfold remove at kept
  split at kept
  · simpa using kept.symm
  · split at kept
    · simp at kept
    · simpa using kept.symm

end ConnectorRegistry

/-- A call that changes the registry. -/
inductive RegistryCall where
  | register (registration : Registration)
  | remove (tenantId : String) (generation : Nat)

namespace RegistryCall

/-- The registry together with the generations handed out, oldest first. -/
structure History where
  registry : ConnectorRegistry
  generations : List Nat

def initial : History := { registry := .new, generations := [] }

def perform (history : History) : RegistryCall → History
  | .register registration =>
    match history.registry.register registration with
    | (.ok registered, registry) =>
      { registry
        generations := history.generations ++ [registered.handle.generation] }
    | (.error _, registry) => { history with registry }
  | .remove tenantId generation =>
    { history with
      registry := (history.registry.remove tenantId generation).2 }

/-- The history after a sequence of calls on a new registry. -/
def run (calls : List RegistryCall) : History := Run.after perform initial calls

/-- What every sequence of calls preserves. -/
structure Sound (history : History) : Prop where
  consistent : history.registry.Consistent
  increasing : history.generations.Pairwise (· < ·)
  bounded : ∀ generation, generation ∈ history.generations →
    generation ≤ history.registry.nextGeneration

theorem sound_initial : Sound initial := by
  constructor
  · exact ConnectorRegistry.consistent_new
  · simp [initial]
  · simp [initial]

theorem sound_perform {history : History} (sound : Sound history)
    (call : RegistryCall) : Sound (perform history call) := by
  cases call with
  | remove tenantId generation =>
    constructor
    · exact ConnectorRegistry.consistent_remove sound.consistent _ _
    · exact sound.increasing
    · intro handed member
      simp only [perform, ConnectorRegistry.remove_nextGeneration]
      exact sound.bounded handed member
  | register registration =>
    have consistent :=
      ConnectorRegistry.consistent_register sound.consistent registration
    simp only [perform]
    cases result : history.registry.register registration with
    | mk outcome registry =>
      rw [result] at consistent
      cases outcome with
      | error message =>
        have unchanged : (history.registry.register registration).2 =
            history.registry :=
          ConnectorRegistry.register_rejected (by rw [result])
        rw [result] at unchanged
        simp only at unchanged
        subst registry
        exact ⟨consistent, sound.increasing, sound.bounded⟩
      | ok registered =>
        have success : (history.registry.register registration).1 =
            .ok registered := by
          rw [result]
        obtain ⟨fresh, counted⟩ := ConnectorRegistry.register_generation success
        rw [result] at counted
        simp only at counted
        refine ⟨consistent, ?_, ?_⟩
        · rw [List.pairwise_append]
          refine ⟨sound.increasing, List.pairwise_singleton _ _, ?_⟩
          intro earlier member later last
          have bound := sound.bounded earlier member
          rw [List.mem_singleton.mp last]
          omega
        · intro handed member
          show handed ≤ registry.nextGeneration
          rcases List.mem_append.mp member with old | last
          · have bound := sound.bounded handed old
            omega
          · rw [List.mem_singleton.mp last]
            omega

theorem sound_run (calls : List RegistryCall) : Sound (run calls) :=
  Run.invariant sound_initial
    (fun _ call sound => sound_perform sound call) calls

end RegistryCall

/-- After any sequence of calls the hostname index agrees with the tenant
index, each hostname belongs to at most one tenant, a replacement drops what
only the previous registration had, rejected registrations and stale
removals change nothing, and generations only grow. -/
theorem registry_consistency (calls : List RegistryCall) :
    let registry := (RegistryCall.run calls).registry
    (∀ hostname handle, registry.byHostname.lookup hostname = some handle ↔
        registry.byTenant.lookup handle.tenantId = some handle ∧
          hostname ∈ handle.hostnames) ∧
    (∀ hostname first second, registry.IsCurrent first →
      registry.IsCurrent second → hostname ∈ first.hostnames →
        hostname ∈ second.hostnames → first.tenantId = second.tenantId) ∧
    (∀ registration registered,
      (registry.register registration).1 = .ok registered → ∀ previous,
          registry.byTenant.lookup registration.tenantId = some previous →
            ∀ hostname, hostname ∈ previous.hostnames →
              hostname ∉ registration.hostnames →
                (registry.register registration).2.getByHostname hostname =
                  none) ∧
    (∀ registration message,
      (registry.register registration).1 = .error message →
        (registry.register registration).2.byHostname = registry.byHostname ∧
          (registry.register registration).2.byTenant = registry.byTenant) ∧
    (∀ tenantId generation,
      (∀ handle, registry.byTenant.lookup tenantId = some handle →
        handle.generation ≠ generation) →
          registry.remove tenantId generation = (false, registry)) ∧
    (RegistryCall.run calls).generations.Pairwise (· < ·) := by
  have sound := RegistryCall.sound_run calls
  intro registry
  refine ⟨sound.consistent.indexed, ?_, ?_, ?_, ?_, sound.increasing⟩
  · intro hostname first second firstCurrent secondCurrent inFirst inSecond
    have storedFirst :=
      (sound.consistent.indexed hostname first).mpr ⟨firstCurrent, inFirst⟩
    have storedSecond :=
      (sound.consistent.indexed hostname second).mpr ⟨secondCurrent, inSecond⟩
    rw [storedFirst] at storedSecond
    rw [Option.some.inj storedSecond]
  · intro registration registered success previous replaced hostname had
      unclaimed
    exact ConnectorRegistry.register_drops sound.consistent success replaced had
      unclaimed
  · intro registration message rejected
    have unchanged := ConnectorRegistry.register_rejected rejected
    rw [unchanged]
    exact ⟨rfl, rfl⟩
  · intro tenantId generation stale
    exact ConnectorRegistry.remove_stale stale

end SieveTube
