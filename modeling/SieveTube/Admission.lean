import SieveTube.Mesh.Protocol

/-!
# Admission of Connectors

What happens between the verified token of a Connector and its registration:
the hostnames of the token are normalized, the advertised services are
restricted to them, and the ownership of every hostname is confirmed.
-/

namespace SieveTube

open Hostname

/-- The claims of a token that passed verification. -/
structure TunnelClaims where
  sub : String
  hostnames : List String

structure ServiceAdvertisement where
  hostname : String
  protocols : List Protocol

/-- Mesh messages carry the tenant id, and peers refuse ids that are empty
or too long. -/
def checkMeshTenantId (tenantId : String) : Except String Unit :=
  if Mesh.ForwardRequest.validId tenantId then .ok ()
  else
    .error "the token's sub claim must be between 1 and 256 bytes for mesh routing"

def addClaimed (hostnames : List String) (raw : String) :
    Except HostnameError (List String) := do
  let normalized ← normalizeHostname raw
  return if hostnames.contains normalized then hostnames
    else hostnames ++ [normalized]

/-- The hostnames of a token, normalized and without repetitions. -/
def normalizeClaimedHostnames (raw : List String) :
    Except HostnameError (List String) :=
  raw.foldlM addClaimed []

/-- `protocols` with those of `added` it does not have yet. -/
def addProtocols (protocols added : List Protocol) : List Protocol :=
  added.foldl (fun known protocol =>
    if known.contains protocol then known else known ++ [protocol]) protocols

/-- One round of the loop in `servicesFor`. -/
def addService (hostnames : List String) (services : Services)
    (advertisement : ServiceAdvertisement) : Services :=
  match normalizeHostname advertisement.hostname with
  | .error _ => services
  | .ok hostname =>
    if hostnames.contains hostname then
      services.insert hostname
        (addProtocols ((services.lookup hostname).getD
          []) advertisement.protocols)
    else services

/-- Restrict advertised services to hostnames authorized by the token. -/
def servicesFor (hostnames : List String)
    (advertised : List ServiceAdvertisement) : Services :=
  advertised.foldl (addService hostnames) ∅

/-- The answer of the control plane to an ownership claim.  Without a
control plane every claim stands. -/
inductive OwnershipCheck where
  | standalone
  | claimed
  | conflict (hostname : String)
  | unavailable (previouslyConfirmed : Bool)
deriving DecidableEq

/-- Whether a claim lets the Connector in. -/
def OwnershipCheck.confirm : OwnershipCheck → Except String Unit
  | .standalone | .claimed | .unavailable true => .ok ()
  | .conflict hostname =>
    .error ("hostname '" ++ hostname ++
      "' is already claimed by another tenant")
  | .unavailable false =>
    .error "control plane unavailable; hostname ownership cannot be verified"

/-- A Connector that completed the handshake: its verified token, what it
advertised and what the control plane said about its hostnames. -/
structure Arrival where
  claims : TunnelClaims
  services : Option (List ServiceAdvertisement)
  ownership : OwnershipCheck
  connection : Nat

/-- The registration `handle_connector` asks for, or its rejection. -/
def Arrival.registration (arrival : Arrival) (meshEnabled : Bool)
    (udpReplyMap : Nat) : Except String Registration := do
  if meshEnabled then checkMeshTenantId arrival.claims.sub
  let hostnames ← (normalizeClaimedHostnames arrival.claims.hostnames).mapError
    fun error => "invalid hostname in token: " ++ error.message
  arrival.ownership.confirm
  return {
    tenantId := arrival.claims.sub
    hostnames
    services := arrival.services.map (servicesFor hostnames)
    connection := arrival.connection
    udpReplyMap }

variable {hostnames : List String} {hostname : String}

theorem addClaimed_mem {result : List String} {raw : String}
    (added : addClaimed hostnames raw = .ok result)
    (member : hostname ∈ result) :
    hostname ∈ hostnames ∨ normalizeHostname raw = .ok hostname := by
  unfold addClaimed at added
  cases normalized : normalizeHostname raw with
  | error error => simp [normalized, bind, Except.bind] at added
  | ok name =>
    simp only [normalized, bind, Except.bind, pure, Except.pure,
      Except.ok.injEq] at added
    subst result
    split at member
    · exact .inl member
    · rcases List.mem_append.mp member with old | new
      · exact .inl old
      · rw [List.mem_singleton.mp new]
        exact .inr rfl

theorem normalizeClaimedHostnames_mem {raw : List String}
    (normalized : normalizeClaimedHostnames raw = .ok hostnames)
    (member : hostname ∈ hostnames) :
    ∃ listed, listed ∈ raw ∧ normalizeHostname listed = .ok hostname := by
  refine Except.foldlM_invariant (fun known => hostname ∈ known →
    ∃ listed, listed ∈ raw ∧ normalizeHostname listed = .ok hostname)
    ?_ ?_ normalized member
  · intro first listed known next found added inNext
    rcases addClaimed_mem added inNext with old | here
    · exact found old
    · exact ⟨first, listed, here⟩
  · rintro ⟨⟩

theorem mem_of_addClaimed {result : List String} {raw : String}
    (added : addClaimed hostnames raw = .ok result) :
    (∀ hostname ∈ hostnames, hostname ∈ result) ∧ ∀ hostname,
      normalizeHostname raw = .ok hostname → hostname ∈ result := by
  obtain ⟨name, normalized, added⟩ := Except.bind_eq_ok_iff.mp added
  cases added
  refine ⟨?_, ?_⟩
  · intro hostname member
    split
    · exact member
    · exact List.mem_append_left _ member
  · intro hostname equality
    rw [normalized] at equality
    cases equality
    split
    · next present => simpa using present
    · exact List.mem_append_right _ (by simp)

theorem mem_normalizeClaimedHostnames {raw : List String}
    (normalized : normalizeClaimedHostnames raw = .ok hostnames)
    {listed : String} (member : listed ∈ raw)
    (equality : normalizeHostname listed = .ok hostname) :
    hostname ∈ hostnames := by
  have general : ∀ (raw start : List String),
      raw.foldlM addClaimed start = .ok hostnames →
        (∀ name ∈ start, name ∈ hostnames) ∧
          (listed ∈ raw → hostname ∈ hostnames) := by
    intro raw
    induction raw with
    | nil =>
      intro start folded
      cases folded
      simp
    | cons first raw ih =>
      intro start folded
      obtain ⟨next, added, folded⟩ := Except.bind_eq_ok_iff.mp folded
      obtain ⟨kept, new⟩ := mem_of_addClaimed added
      obtain ⟨carried, later⟩ := ih next folded
      refine ⟨fun name old => carried name (kept name old), ?_⟩
      intro inList
      rcases List.mem_cons.mp inList with rfl | rest
      · exact carried hostname (new hostname equality)
      · exact later rest
  exact (general raw [] normalized).2 member

/-- The services have a protocol for a hostname. -/
def Offers (services : Services) (hostname : String) (protocol : Protocol) :
    Prop :=
  (services.lookup hostname).any
    (fun protocols => protocols.contains protocol) = true

variable {protocol : Protocol}

theorem mem_addProtocols {protocols added : List Protocol} :
    protocol ∈ addProtocols protocols added ↔
      protocol ∈ protocols ∨ protocol ∈ added := by
  unfold addProtocols
  induction added generalizing protocols with
  | nil => simp
  | cons first added ih =>
    rw [List.foldl_cons, ih]
    split
    · next present =>
      have known : first ∈ protocols := by simpa using present
      constructor
      · rintro (old | new)
        · exact .inl old
        · exact .inr (List.mem_cons_of_mem _ new)
      · rintro (old | new)
        · exact .inl old
        · rcases List.mem_cons.mp new with rfl | later
          · exact .inl known
          · exact .inr later
    · simp [or_assoc]

theorem offers_addService_iff {services : Services}
    {advertisement : ServiceAdvertisement} :
    Offers (addService hostnames services advertisement) hostname protocol ↔
      Offers services hostname protocol ∨ hostname ∈ hostnames ∧
          normalizeHostname advertisement.hostname = .ok hostname ∧
            protocol ∈ advertisement.protocols := by
  unfold addService
  cases normalized : normalizeHostname advertisement.hostname with
  | error failure => simp
  | ok name =>
    dsimp only
    by_cases claimed : hostnames.contains name = true
    · rw [if_pos claimed]
      have member : name ∈ hostnames := by simpa using claimed
      unfold Offers
      rw [AList.lookup_insert_eq]
      by_cases same : hostname = name
      · subst hostname
        cases services.lookup name <;>
          simp [mem_addProtocols, member]
      · have different : name ≠ hostname := Ne.symm same
        rw [if_neg same]
        simp [different]
    · rw [if_neg claimed]
      have absent : name ∉ hostnames := by simpa using claimed
      constructor
      · exact .inl
      · rintro (offered | ⟨member, equality, -⟩)
        · exact offered
        · cases equality
          exact absurd member absent

theorem offers_servicesFor_iff {advertised : List ServiceAdvertisement} :
    Offers (servicesFor hostnames advertised) hostname protocol ↔
      hostname ∈ hostnames ∧
        ∃ advertisement ∈ advertised,
          normalizeHostname advertisement.hostname = .ok hostname ∧
            protocol ∈ advertisement.protocols := by
  have general : ∀ (advertised : List ServiceAdvertisement)
      (services : Services),
      Offers (advertised.foldl (addService hostnames) services) hostname
        protocol ↔ Offers services hostname protocol ∨ hostname ∈ hostnames ∧
          ∃ advertisement ∈ advertised,
              normalizeHostname advertisement.hostname = .ok hostname ∧
                protocol ∈ advertisement.protocols := by
    intro advertised
    induction advertised with
    | nil => simp
    | cons first advertised ih =>
      intro services
      rw [List.foldl_cons, ih, offers_addService_iff]
      simp only [List.exists_mem_cons_iff]
      tauto
  rw [servicesFor, general]
  simp [Offers]

/-- An arrival is accepted as the tenant and the normalized hostnames of its
token, with the advertised services restricted to them. -/
theorem Arrival.registration_eq_ok_iff {arrival : Arrival}
    {meshEnabled : Bool} {udpReplyMap : Nat} {registration : Registration} :
    arrival.registration meshEnabled udpReplyMap = .ok registration ↔
      (meshEnabled = true → checkMeshTenantId arrival.claims.sub = .ok ()) ∧
      arrival.ownership.confirm = .ok () ∧
      ∃ hostnames, normalizeClaimedHostnames arrival.claims.hostnames =
        .ok hostnames ∧ registration =
          { tenantId := arrival.claims.sub
            hostnames
            services := arrival.services.map (servicesFor hostnames)
            connection := arrival.connection
            udpReplyMap } := by
  unfold Arrival.registration
  cases normalizeClaimedHostnames arrival.claims.hostnames <;>
    cases meshEnabled <;> cases checkMeshTenantId arrival.claims.sub <;>
      cases arrival.ownership.confirm <;>
        simp [Except.mapError, bind, Except.bind, pure, Except.pure, eq_comm]

theorem Arrival.registration_ok {arrival : Arrival} {meshEnabled : Bool}
    {udpReplyMap : Nat} {registration : Registration}
    (accepted : arrival.registration meshEnabled udpReplyMap =
      .ok registration) :
    registration.tenantId = arrival.claims.sub ∧
      normalizeClaimedHostnames arrival.claims.hostnames =
        .ok registration.hostnames ∧
      registration.services =
        arrival.services.map (servicesFor registration.hostnames) ∧
      registration.connection = arrival.connection ∧
      registration.udpReplyMap = udpReplyMap := by
  obtain ⟨-, -, hostnames, normalized, rfl⟩ :=
    Arrival.registration_eq_ok_iff.mp accepted
  exact ⟨rfl, normalized, rfl, rfl, rfl⟩

end SieveTube
