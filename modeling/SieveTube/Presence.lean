import Mathlib.Data.Finset.Basic
import SieveTube.Registry

/-!
# Presence of a tenant

The task of a connection changes the registry and reports the change to
Valkey in a second step.  The Edge is recorded for the tenant as the registry
has it when the reports are made in the order of the changes; otherwise the
report of an older change can be the last one.
-/

namespace SieveTube

/-- A task between a change of the registry and its report. -/
inductive PresenceReport where
  | registered (handle : ConnectorHandle)
  | removed

/-- Whether the report adds the Edge to the tenant's set. -/
def PresenceReport.adds : PresenceReport → Bool
  | .registered _ => true
  | .removed => false

/-- The tasks of the tenant's connections: those with a change to report, the
oldest change first, and those that wait for their connection to end.
`edges` is the set of the tenant in Valkey. -/
structure PresenceState where
  registry : ConnectorRegistry
  edges : Finset String
  reports : List PresenceReport
  serving : List ConnectorHandle

inductive PresenceEvent where
  | register (registration : Registration)
  | report (index : Nat)
  | remove (index : Nat)

namespace PresenceState

def start : PresenceState :=
  { registry := .new, edges := ∅, reports := [], serving := [] }

section

variable (tenantId edgeId : String)

def registerPresence (state : PresenceState) : Finset String :=
  insert edgeId state.edges

def deregisterPresence (state : PresenceState) : Finset String :=
  state.edges.erase edgeId

def step (state : PresenceState) : PresenceEvent → PresenceState
  | .register registration =>
    match state.registry.register { registration with tenantId } with
    | (.ok registered, registry) =>
      { state with registry, reports := state.reports ++
          [.registered registered.handle] }
    | (.error _, _) => state
  | .report index =>
    match state.reports[index]? with
    | some (.registered handle) =>
      { state with
        edges := state.registerPresence edgeId
        reports := state.reports.eraseIdx index
        serving := handle :: state.serving }
    | some .removed =>
      { state with
        edges := state.deregisterPresence edgeId
        reports := state.reports.eraseIdx index }
    | none => state
  | .remove index =>
    match state.serving[index]? with
    | some handle =>
      let serving := state.serving.eraseIdx index
      match state.registry.remove tenantId handle.generation with
      | (true, registry) =>
        { state with registry, serving, reports := state.reports ++ [.removed] }
      | (false, _) => { state with serving }
    | none => state

/-- Reports are made in the order of the changes. -/
def inOrder : PresenceEvent → Bool
  | .report index => index = 0
  | .register _ | .remove _ => true

/-- Whether the Edge is recorded once all reports are made in order. -/
def recorded (state : PresenceState) : Bool :=
  (state.reports.getLast?.map PresenceReport.adds).getD
    (decide (edgeId ∈ state.edges))

def Tracked (state : PresenceState) : Prop :=
  state.recorded edgeId = (state.registry.byTenant.lookup tenantId).isSome

variable {tenantId edgeId}

theorem tracked_step {state : PresenceState}
    (tracked : state.Tracked tenantId edgeId)
    {event : PresenceEvent} (ordered : inOrder event = true) :
    (state.step tenantId edgeId event).Tracked tenantId edgeId := by
  cases event with
  | register registration =>
    simp only [step]
    split
    · next registered registry success =>
      obtain ⟨-, -, -, current⟩ := ConnectorRegistry.register_ok success
      have there : registry.byTenant.lookup tenantId = _ :=
        (current _).mpr (.inl rfl)
      simp [Tracked, recorded, there, PresenceReport.adds]
    · exact tracked
  | report index =>
    obtain rfl : index = 0 := by simpa [inOrder] using ordered
    obtain ⟨registry, edges, reports, serving⟩ := state
    cases reports with
    | nil => exact tracked
    | cons first rest =>
      cases first <;> cases rest <;>
        simpa [Tracked, recorded, step, List.getLast?_cons, PresenceReport.adds,
          registerPresence, deregisterPresence] using tracked
  | remove index =>
    simp only [step]
    split
    · split
      · next handle _ registry removed =>
        have gone : registry.byTenant.lookup tenantId = none := by
          unfold ConnectorRegistry.remove at removed
          split at removed
          · cases removed
          · split at removed
            · cases removed
              simp
            · cases removed
        simp [Tracked, recorded, gone, PresenceReport.adds]
      · exact tracked
    · exact tracked

theorem tracked_run {events : List PresenceEvent}
    (ordered : ∀ event ∈ events, inOrder event = true)
    {state : PresenceState} (tracked : state.Tracked tenantId edgeId) :
    (Run.after (step tenantId edgeId) state events).Tracked tenantId
      edgeId := by
  induction events generalizing state with
  | nil => exact tracked
  | cons event events ih =>
    rw [List.forall_mem_cons] at ordered
    exact ih ordered.2 (tracked_step tracked ordered.1)

end

/-- When the reports are made in the order of the changes: whenever no task is
between a change and its report, the Edge is recorded for the tenant exactly
if the tenant has a registered Connector. -/
theorem presence_accurate (tenantId edgeId : String)
    (events : List PresenceEvent)
    (ordered : ∀ event ∈ events, inOrder event = true) :
    let state := Run.after (step tenantId edgeId) start events
    state.reports = [] → (edgeId ∈ state.edges ↔
      (state.registry.byTenant.lookup tenantId).isSome = true) := by
  intro state rest
  have tracked : state.Tracked tenantId edgeId := tracked_run ordered rfl
  rw [← tracked, recorded, rest]
  simp

/-- A Connector of the tenant, on the given connection. -/
def connectorOn (connection : Nat) : PresenceEvent :=
  .register
    { tenantId := "tenant", hostnames := ["a.example.com"], services :=
        none, connection
      udpReplyMap := connection }

theorem presence_accurate_reconnect :
    let state := Run.after (step "tenant" "edge-1") start
      [connectorOn 1, .report 0, .remove 0, connectorOn 2, .report 0, .report 0]
    state.reports = [] ∧ ("edge-1" ∈ state.edges ↔
      (state.registry.byTenant.lookup "tenant").isSome = true) :=
  ⟨by decide, presence_accurate "tenant" "edge-1" _ (by decide) (by decide)⟩

/-- A Connector reconnects before the removal of its old connection is
reported: it is registered, but the Edge is not recorded any more. -/
theorem presence_lost :
    let state := Run.after (step "tenant" "edge-1") start
      [connectorOn 1, .report 0, .remove 0, connectorOn 2, .report 1, .report 0]
    state.reports = [] ∧ "edge-1" ∉ state.edges ∧
      (state.registry.byTenant.lookup "tenant").isSome = true := by
  decide

end PresenceState

end SieveTube
