import SieveTube.Admission
import SieveTube.Policy.ClientIp

/-!
# Ingress rules of a Connector

A Connector forwards a request to the target of the first rule that matches
its hostname and protocol.  It advertises what the rules can serve for the
hostnames of its token, as the token spells them; the Edge registers what is
advertised under the normalized names and sends requests under those.
-/

namespace SieveTube

open Inet

def Protocol.display : Protocol → String
  | .http => "http"
  | .tcp => "tcp"
  | .udp => "udp"

structure IngressRule where
  hostname : Option String
  protocol : Option Protocol
  target : String

inductive Target where
  | address (address : SocketAddr)
  | httpStatus (code : Fin 65536)
deriving DecidableEq

def Target.parse (text : String) : Except String Target :=
  match Text.stripStart "http_status:".toList text.toList with
  | some code =>
    match parseU16 code with
    | some status => .ok (.httpStatus status)
    | none => .error ("invalid http status code: " ++ String.ofList code)
  | none =>
    match SocketAddr.parse text.toList with
    | some parsed => .ok (.address parsed)
    | none => .error ("invalid socket address: " ++ text)

/-- The check of one rule when a configuration is loaded. -/
def validateRule (rule : IngressRule) : Except String Unit := do
  match ← Target.parse rule.target with
  | .address _ => return ()
  | .httpStatus code =>
    if code < 100 ∨ 599 < code then
      .error ("http_status:" ++ toString code.val ++
        " is not an HTTP status code")
    else
      match rule.protocol with
      | some .tcp => .error "an http_status target cannot answer tcp traffic"
      | some .udp => .error "an http_status target cannot answer udp traffic"
      | _ => return ()

/-- The loop over the rules, numbered from `index`. -/
def validateRules : Nat → List IngressRule → Except String Unit
  | _, [] => return ()
  | index, rule :: rules => do
      (validateRule rule).mapError fun error =>
        "[[ingress]] rule " ++ toString index ++ ": " ++ error
      validateRules (index + 1) rules

/-- What the configuration of a Connector asks of its rules. -/
def validateIngress (rules : List IngressRule) : Except String Unit :=
  if rules.isEmpty then
    .error "at least one [[ingress]] rule is required"
  else validateRules 1 rules

def eqIgnoreAsciiCase (left right : String) : Bool :=
  Text.toAsciiLowercase left.toList = Text.toAsciiLowercase right.toList

inductive IngressError where
  | config (message : String)
  | noIngressMatch (hostname protocol : String)

def IngressRule.matches (rule : IngressRule) (hostname : String)
    (protocol : Protocol) : Bool :=
  (rule.hostname.map fun name => eqIgnoreAsciiCase name hostname).getD true &&
    (rule.protocol.map fun expected => decide (expected = protocol)).getD true

/-- A status code cannot answer raw traffic. -/
def usable (protocol : Protocol) : Except IngressError Target → Bool
  | .ok (.address _) => true
  | .ok (.httpStatus _) => protocol = .http
  | .error _ => false

structure IngressMatcher where
  rules : List IngressRule

namespace IngressMatcher

/-- The target of the first rule that matches. -/
def matchRequest (matcher : IngressMatcher) (hostname : String)
    (protocol : Protocol) : Except IngressError Target :=
  match matcher.rules.find? fun rule => rule.matches hostname protocol with
  | some rule => (Target.parse rule.target).mapError .config
  | none => .error (.noIngressMatch hostname protocol.display)

/-- What the rules serve for each hostname. -/
def services (matcher : IngressMatcher) (hostnames : List String) :
    List ServiceAdvertisement :=
  hostnames.map fun hostname =>
    { hostname
      protocols := [Protocol.http, .tcp, .udp].filter fun protocol =>
        usable protocol (matcher.matchRequest hostname protocol) }

theorem mem_services {matcher : IngressMatcher} {hostnames : List String}
    {protocol : Protocol} {hostname : String} :
    (∃ advertisement ∈ matcher.services hostnames,
      advertisement.hostname = hostname ∧ protocol ∈ advertisement.protocols) ↔
      hostname ∈ hostnames ∧
        usable protocol (matcher.matchRequest hostname protocol) = true := by
  simp only [services, List.mem_map]
  constructor
  · rintro ⟨_, ⟨listed, member, rfl⟩, rfl, offered⟩
    exact ⟨member, (List.mem_filter.mp offered).2⟩
  · rintro ⟨member, served⟩
    refine ⟨_, ⟨hostname, member, rfl⟩, rfl, List.mem_filter.mpr ⟨?_, served⟩⟩
    cases protocol <;> simp

/-- Spellings that differ in case match the same rules. -/
theorem usable_matchRequest_congr {left right : String}
    (same : eqIgnoreAsciiCase left right = true) (matcher : IngressMatcher)
    (protocol : Protocol) :
    usable protocol (matcher.matchRequest left protocol) =
      usable protocol (matcher.matchRequest right protocol) := by
  have equal : Text.toAsciiLowercase left.toList =
      Text.toAsciiLowercase right.toList := by
    simpa [eqIgnoreAsciiCase] using same
  have rules : (fun rule : IngressRule => rule.matches left protocol) =
      fun rule => rule.matches right protocol := by
    funext rule
    simp [IngressRule.matches, eqIgnoreAsciiCase, equal]
  unfold matchRequest
  rw [rules]
  cases matcher.rules.find? fun rule => rule.matches right protocol <;> rfl

end IngressMatcher

/-- The arrival of a Connector that advertises its rules. -/
def Arrival.advertising (arrival : Arrival) (matcher : IngressMatcher) :
    Arrival :=
  { arrival with
    services := some (matcher.services arrival.claims.hostnames) }

section Registered

variable {arrival : Arrival} {meshEnabled : Bool} {udpReplyMap : Nat}
variable {matcher : IngressMatcher} {registration : Registration}

/-- Whether a Connector is let in does not depend on what it advertises. -/
theorem registration_advertising
    (accepted : (arrival.advertising matcher).registration meshEnabled
      udpReplyMap = .ok registration) (other : IngressMatcher) :
    ∃ registration, (arrival.advertising other).registration meshEnabled
      udpReplyMap = .ok registration := by
  obtain ⟨checked, confirmed, hostnames, normalized, -⟩ :=
    Arrival.registration_eq_ok_iff.mp accepted
  exact ⟨_, Arrival.registration_eq_ok_iff.mpr
    ⟨checked, confirmed, hostnames, normalized, rfl⟩⟩

/-- The Edge takes a protocol as served if the rules serve it for one of the
spellings of the hostname in the token. -/
theorem supports_advertising_iff {registry : ConnectorRegistry}
    (accepted : (arrival.advertising matcher).registration meshEnabled
      udpReplyMap = .ok registration) {hostname : String}
    {protocol : Protocol} :
    (registry.handleFor registration).supports hostname protocol = true ↔
      ∃ listed ∈ arrival.claims.hostnames,
        Hostname.normalizeHostname listed = .ok hostname ∧
          usable protocol (matcher.matchRequest listed protocol) = true := by
  obtain ⟨-, normalized, restricted, -, -⟩ := Arrival.registration_ok accepted
  have supported : (registry.handleFor registration).supports hostname
      protocol = true ↔ Offers (servicesFor registration.hostnames
        (matcher.services arrival.claims.hostnames)) hostname protocol := by
    simp only [ConnectorRegistry.handleFor, restricted,
      Arrival.advertising, Option.map_some]
    rfl
  rw [supported, offers_servicesFor_iff]
  constructor
  · rintro ⟨-, advertisement, member, equality, offered⟩
    obtain ⟨listed, served⟩ :=
      IngressMatcher.mem_services.mp ⟨advertisement, member, rfl, offered⟩
    exact ⟨advertisement.hostname, listed, equality, served⟩
  · rintro ⟨listed, member, equality, served⟩
    obtain ⟨advertisement, advertised, rfl, offered⟩ :=
      IngressMatcher.mem_services.mpr ⟨member, served⟩
    exact ⟨mem_normalizeClaimedHostnames normalized member equality,
      advertisement, advertised, equality, offered⟩

end Registered

/-- The Edge and the Connector agree on what is served. -/
def ServedAlike (registration : Registration) (registry : ConnectorRegistry)
    (matcher : IngressMatcher) : Prop :=
  ∀ hostname ∈ registration.hostnames, ∀ protocol,
    (registry.handleFor registration).supports hostname protocol = true ↔
      usable protocol (matcher.matchRequest hostname protocol) = true

/-- A rule that matches one spelling only. -/
def spelled (listed : String) : IngressMatcher :=
  ⟨[{ hostname := some listed, protocol := none
      target := "127.0.0.1:8080" }]⟩

theorem parse_target_local : Target.parse "127.0.0.1:8080" =
    .ok (.address ⟨.v4 0x7f000001, 8080⟩) := by
  decide +kernel

theorem validateIngress_spelled {listed : String} :
    validateIngress (spelled listed).rules = .ok () := by
  simp [validateIngress, spelled, validateRules, validateRule,
    parse_target_local, Except.mapError, bind, Except.bind, pure, Except.pure]

theorem usable_spelled {listed hostname : String} {protocol : Protocol} :
    usable protocol ((spelled listed).matchRequest hostname protocol) =
      eqIgnoreAsciiCase listed hostname := by
  cases same : eqIgnoreAsciiCase listed hostname <;>
    simp [spelled, IngressMatcher.matchRequest, IngressRule.matches, same,
      parse_target_local, Except.mapError, usable]

/-- For a token that the Edge admits, both sides agree for every accepted
list of rules exactly if every hostname of the token differs from its normal
form in case only. -/
theorem served_alike_iff (registry : ConnectorRegistry) (arrival : Arrival)
    (meshEnabled : Bool) (udpReplyMap : Nat)
    (admitted : ∃ matcher registration,
      (Arrival.advertising arrival matcher).registration meshEnabled
        udpReplyMap = .ok registration) :
    (∀ matcher registration, validateIngress matcher.rules = .ok () →
      (arrival.advertising matcher).registration meshEnabled udpReplyMap =
        .ok registration →
      ServedAlike registration registry matcher) ↔
    ∀ listed ∈ arrival.claims.hostnames, ∀ hostname,
      Hostname.normalizeHostname listed = .ok hostname →
        eqIgnoreAsciiCase listed hostname = true := by
  constructor
  · intro alike listed member hostname normalized
    obtain ⟨matcher, registration, accepted⟩ := admitted
    obtain ⟨spelledRegistration, spelledAccepted⟩ :=
      registration_advertising accepted (spelled listed)
    obtain ⟨-, claimed, -⟩ := Arrival.registration_ok spelledAccepted
    have served : (registry.handleFor spelledRegistration).supports hostname
        .http = true := by
      rw [supports_advertising_iff spelledAccepted]
      refine ⟨listed, member, normalized, ?_⟩
      rw [usable_spelled]
      simp [eqIgnoreAsciiCase]
    rw [← usable_spelled]
    have claims : hostname ∈ spelledRegistration.hostnames :=
      mem_normalizeClaimedHostnames claimed member normalized
    exact (alike (spelled listed) spelledRegistration
      validateIngress_spelled spelledAccepted hostname claims
      .http).mp served
  · intro clean matcher registration _ accepted hostname member protocol
    rw [supports_advertising_iff accepted]
    obtain ⟨-, claimed, -⟩ := Arrival.registration_ok accepted
    constructor
    · rintro ⟨listed, listedMember, normalized, served⟩
      rwa [← IngressMatcher.usable_matchRequest_congr
        (clean listed listedMember hostname normalized)]
    · intro served
      obtain ⟨listed, listedMember, normalized⟩ :=
        normalizeClaimedHostnames_mem claimed member
      refine ⟨listed, listedMember, normalized, ?_⟩
      rwa [IngressMatcher.usable_matchRequest_congr
        (clean listed listedMember hostname normalized)]

/-- A Connector with a token for one hostname. -/
def oneHostname (listed : String) : Arrival :=
  { claims := { sub := "tenant", hostnames := [listed] }
    services := none
    ownership := .standalone
    connection := 1 }

theorem served_alike_mixedCase : ∃ registration,
      ((oneHostname "Web.Test").advertising (spelled "WEB.test")).registration
        false 1 = .ok registration ∧
      registration.hostnames = ["web.test"] ∧
      ServedAlike registration .new (spelled "WEB.test") := by
  refine ⟨_, rfl, by decide +kernel, ?_⟩
  refine (served_alike_iff .new (oneHostname "Web.Test") false 1
    ⟨spelled "WEB.test", _, rfl⟩).mpr ?_
      (spelled "WEB.test") _ validateIngress_spelled rfl
  intro listed member hostname normalized
  obtain rfl : listed = "Web.Test" := by simpa [oneHostname] using member
  obtain rfl : hostname = "web.test" := by
    have normal : Hostname.normalizeHostname "Web.Test" = .ok "web.test" := by
      decide +kernel
    exact (Except.ok.inj normalized).symm
  decide +kernel

/-- The token spells the hostname with a trailing dot.  The Connector has a
target for the requests the Edge would send, but the Edge registers the
hostname without any protocol. -/
theorem trailing_dot_not_served : ∃ registration,
      ((oneHostname "web.test.").advertising (spelled "web.test")).registration
        false 1 = .ok registration ∧
      registration.hostnames = ["web.test"] ∧
      (∀ protocol, (ConnectorRegistry.new.handleFor registration).supports
        "web.test" protocol = false) ∧
      ∀ protocol, usable protocol
        ((spelled "web.test").matchRequest "web.test" protocol) = true := by
  refine ⟨_, rfl, by decide +kernel, ?_, ?_⟩
  · intro protocol
    cases protocol <;> decide +kernel
  · intro protocol
    cases protocol <;> decide +kernel

end SieveTube
