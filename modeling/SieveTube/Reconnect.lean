import SieveTube.Registry

/-!
# Lookups during a registration

Writers hold the write lock, but lookups do not.  A lookup therefore sees the
indexes after some of the map operations of a registration.  When the newer
connection of a tenant replaces the previous one, a hostname that both have is
dropped before it is stored again.
-/

namespace SieveTube

/-- One operation of `register` on the shared maps. -/
inductive RegistryStep where
  | nextGeneration
  | putTenant (handle : ConnectorHandle)
  | dropHostname (hostname : String) (generation : Nat)
  | putHostname (hostname : String) (handle : ConnectorHandle)
deriving DecidableEq

namespace RegistryStep

def perform (registry : ConnectorRegistry) : RegistryStep → ConnectorRegistry
  | .nextGeneration =>
    { registry with nextGeneration := registry.nextGeneration + 1 }
  | .putTenant handle =>
    { registry with
      byTenant := registry.byTenant.insert handle.tenantId handle }
  | .dropHostname hostname generation =>
    { registry with
      byHostname := registry.byHostname.removeIf hostname fun stored =>
        stored.generation = generation }
  | .putHostname hostname handle =>
    { registry with
      byHostname := registry.byHostname.insert hostname handle }

/-- The entries of the previous connection are dropped one by one. -/
def drops (previous : ConnectorHandle) (hostnames : List String) :
    List RegistryStep :=
  hostnames.map fun hostname => .dropHostname hostname previous.generation

def puts (handle : ConnectorHandle) (hostnames : List String) :
    List RegistryStep :=
  hostnames.map fun hostname => .putHostname hostname handle

variable (registry : ConnectorRegistry)

theorem after_drops (previous : ConnectorHandle) (hostnames : List String) :
    Run.after perform registry (drops previous hostnames) =
      { registry with
        byHostname := registry.byHostname.removeAllIf hostnames fun stored =>
          stored.generation = previous.generation } := by
  induction hostnames generalizing registry with
  | nil => rfl
  | cons hostname hostnames ih =>
    exact ih (perform registry (.dropHostname hostname previous.generation))

theorem after_puts (handle : ConnectorHandle)
    (hostnames : List String) :
    Run.after perform registry (puts handle hostnames) =
      { registry with
        byHostname := registry.byHostname.insertAll hostnames handle } := by
  induction hostnames generalizing registry with
  | nil => rfl
  | cons hostname hostnames ih =>
    exact ih (perform registry (.putHostname hostname handle))

end RegistryStep

namespace ConnectorRegistry

open RegistryStep

/-- The operations of `register`, in their order. -/
def registerSteps (registry : ConnectorRegistry)
    (registration : Registration) : List RegistryStep :=
  match registry.servedByOther registration with
  | some _ => []
  | none =>
    let handle := registry.handleFor registration
    [.nextGeneration, .putTenant handle] ++
      (match registry.byTenant.lookup registration.tenantId with
        | some previous => drops previous previous.hostnames
        | none => []) ++
      puts handle registration.hostnames

/-- All operations together are the registration. -/
theorem after_registerSteps (registry : ConnectorRegistry)
    (registration : Registration) :
    Run.after perform registry (registry.registerSteps registration) =
      (registry.register registration).2 := by
  unfold registerSteps register
  cases registry.servedByOther registration with
  | some hostname => rfl
  | none =>
    simp only [otherHostnames, Run.after_append, after_puts]
    cases registry.byTenant.lookup registration.tenantId with
    | none => rfl
    | some previous =>
      simp only [after_drops]
      rfl

variable {registry : ConnectorRegistry} {registration : Registration}
variable {previous : ConnectorHandle} {hostname : String}

theorem registerSteps_replace
    (free : registry.servedByOther registration = none)
    (replaced : registry.byTenant.lookup registration.tenantId =
      some previous) :
    registry.registerSteps registration =
      [.nextGeneration, .putTenant (registry.handleFor registration)] ++
        (drops previous previous.hostnames ++
          puts (registry.handleFor registration) registration.hostnames) := by
  unfold registerSteps
  rw [free, replaced]
  rfl

theorem lookup_after (names claimed : List String) (handle : ConnectorHandle)
    (stored : registry.byHostname.lookup hostname = some previous) :
    (Run.after perform registry
        (drops previous names ++ puts handle claimed)).getByHostname hostname =
      if hostname ∈ claimed then some handle
      else if hostname ∈ names then none else some previous := by
  rw [Run.after_append, after_drops, after_puts, getByHostname,
    AList.lookup_insertAll, AList.lookup_removeAllIf, stored]
  simp [Option.filter]

theorem take_registerSteps (free : registry.servedByOther registration = none)
    (replaced : registry.byTenant.lookup registration.tenantId = some previous)
    (count : Nat) :
    ∃ first dropped stored, (registry.registerSteps registration).take count =
        first ++ (drops previous dropped ++
          puts (registry.handleFor registration) stored) ∧
      (∀ step ∈ first, step = .nextGeneration ∨
        step = .putTenant (registry.handleFor registration)) := by
  refine ⟨[.nextGeneration, .putTenant (registry.handleFor registration)].take
    count, previous.hostnames.take (count - 2), registration.hostnames.take
      (count - 2 - previous.hostnames.length), ?_, ?_⟩
  · rw [registerSteps_replace free replaced, List.take_append, List.take_append]
    simp [drops, puts, List.map_take]
  · intro step member
    simpa using List.mem_of_mem_take member

theorem byHostname_after {steps : List RegistryStep} {handle : ConnectorHandle}
    (quiet : ∀ step ∈ steps,
      step = .nextGeneration ∨ step = .putTenant handle) :
    (Run.after perform registry steps).byHostname = registry.byHostname := by
  induction steps generalizing registry with
  | nil => rfl
  | cons step steps ih =>
    have first := quiet step List.mem_cons_self
    have rest : (Run.after perform (perform registry step)
        steps).byHostname = (perform registry step).byHostname :=
      ih fun later member => quiet later (.tail _ member)
    refine rest.trans ?_
    rcases first with rfl | rfl <;> rfl

theorem servedByOther_of_ok {registered : Registered}
    (success : (registry.register registration).1 = .ok registered) :
    registry.servedByOther registration = none := by
  unfold register at success
  cases free : registry.servedByOther registration with
  | some hostname => simp [free] at success
  | none => rfl

end ConnectorRegistry

open RegistryStep in
/-- A lookup during a reconnect misses a hostname of both connections exactly
between its removal and its insertion. -/
theorem reconnect_lookup_iff (calls : List RegistryCall) :
    let registry := (RegistryCall.run calls).registry
    ∀ registration registered previous hostname,
      (registry.register registration).1 = .ok registered →
      registered.replaced = some previous →
      hostname ∈ previous.hostnames →
      hostname ∈ registered.handle.hostnames → ∀ count,
      let done := (registry.registerSteps registration).take count
      let found := (Run.after perform registry done).getByHostname hostname
      (found = some previous ∨ found = some registered.handle) ↔
        ¬ (.dropHostname hostname previous.generation ∈ done ∧
          .putHostname hostname registered.handle ∉ done) := by
  intro registry registration registered previous hostname success replaced old
    new count done found
  have consistent : registry.Consistent :=
    (RegistryCall.sound_run calls).consistent
  have free := ConnectorRegistry.servedByOther_of_ok success
  obtain ⟨handle, lookup, _⟩ :=
    ConnectorRegistry.register_ok (Prod.ext success rfl)
  rw [replaced] at lookup
  obtain ⟨first, dropped, stored, split, quiet⟩ :=
    ConnectorRegistry.take_registerSteps free lookup.symm count
  rw [← handle] at split quiet
  have served : registry.byHostname.lookup hostname = some previous := by
    apply (consistent.indexed hostname previous).mpr
    have own := consistent.ownTenant _ previous lookup.symm
    exact ⟨by rw [ConnectorRegistry.IsCurrent, own, ← lookup], old⟩
  have seen : found = if hostname ∈ stored then some registered.handle
      else if hostname ∈ dropped then none else some previous := by
    show (Run.after perform registry done).getByHostname hostname = _
    rw [show done = _ from split, Run.after_append]
    apply ConnectorRegistry.lookup_after
    rw [ConnectorRegistry.byHostname_after quiet]
    exact served
  have isDropped : .dropHostname hostname previous.generation ∈ done ↔
      hostname ∈ dropped := by
    rw [show done = _ from split]
    have other : .dropHostname hostname previous.generation ∉ first := by
      intro member
      rcases quiet _ member with same | same <;> cases same
    simp [drops, puts, other]
  have isStored : .putHostname hostname registered.handle ∈ done ↔
      hostname ∈ stored := by
    rw [show done = _ from split]
    have other : .putHostname hostname registered.handle ∉ first := by
      intro member
      rcases quiet _ member with same | same <;> cases same
    simp [drops, puts, other]
  rw [isDropped, isStored, seen]
  by_cases put : hostname ∈ stored
  · simp [put]
  · by_cases gone : hostname ∈ dropped
    · simp [put, gone]
    · simp [put, gone]

section Runs

open RegistryStep

/-- A connection of one tenant with one hostname. -/
def webConnection (connection : Nat) : Registration where
  tenantId := "tenant-a"
  hostnames := ["web.example.com"]
  services := none
  connection
  udpReplyMap := connection

def webRegistry : ConnectorRegistry :=
  (RegistryCall.run [.register (webConnection 1)]).registry

def webHandle (generation : Nat) : ConnectorHandle where
  tenantId := "tenant-a"
  hostnames := ["web.example.com"]
  services := none
  connection := generation
  udpReplyMap := generation
  generation

theorem reconnect_lookup_finished :
    (Run.after perform webRegistry
        ((webRegistry.registerSteps (webConnection 2)).take
          4)).getByHostname "web.example.com" = some (webHandle 1) ∨
      (Run.after perform webRegistry
        ((webRegistry.registerSteps (webConnection 2)).take
          4)).getByHostname "web.example.com" = some (webHandle 2) :=
  (reconnect_lookup_iff [.register (webConnection 1)] (webConnection 2)
    { handle := webHandle 2, replaced := some (webHandle 1) } (webHandle 1)
    "web.example.com" (by rfl) (by rfl) (by decide) (by decide) 4).mpr
      (by decide)

/-- Both connections serve the name, and it resolves to nothing. -/
theorem reconnect_gap :
    webRegistry.getByHostname "web.example.com" = some (webHandle 1) ∧
      (webRegistry.register (webConnection 2)).2.getByHostname
        "web.example.com" = some (webHandle 2) ∧
      (Run.after perform webRegistry
        ((webRegistry.registerSteps (webConnection 2)).take
          3)).getByHostname "web.example.com" = none := by
  decide

end Runs

end SieveTube
