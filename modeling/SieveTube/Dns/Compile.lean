import SieveTube.Dns.Reconciler
import SieveTube.Dns.Txt
import SieveTube.Library.InetAddr
import SieveTube.Wildcards

/-!
# Compilation of the DNS section

The checks the DNS section has to pass, in the order of the source.  What
they establish is kept with the result: zones are normalized, every provider
has its zone inside an allowed one and a name of its own, and every record
lies in the zone of its provider.  How a URL is read is an argument.
-/

namespace SieveTube.Dns

open Hostname

inductive DnsProviderType where
  | cloudflare
  | route53
deriving DecidableEq

inductive RecordState where
  | present
  | absent
deriving DecidableEq

structure DnsProviderConfig where
  name : String
  kind : DnsProviderType
  zone : String
  zoneId : Option String
  apiTokenEnv : Option String
  apiTokenFile : Option String
  apiBaseUrl : Option String
  hostedZoneId : Option String
  endpointUrl : Option String
  region : Option String
  requestTimeoutSecs : Nat

structure DnsRecordConfig where
  provider : String
  name : String
  recordType : RecordType
  values : List String
  ttl : UInt32
  proxied : Option Bool
  importExisting : Bool
  state : RecordState

structure DnsConfig where
  allowedZones : List String
  providers : List DnsProviderConfig
  records : List DnsRecordConfig

/-- The parts of a URL that are looked at. -/
structure Uri where
  scheme : Option String
  host : Option String

/-- The name of a zone, which is a hostname. -/
structure Zone where
  name : String
  normalized : Normalized false false name.toList

structure ProviderSpec (allowedZones : List Zone) where
  name : String
  kind : DnsProviderType
  zone : Zone
  allowed : ∃ allowed ∈ allowedZones, isWithinZone zone.name allowed.name

/-- The providers of a configuration: no two have the same name. -/
structure ProviderTable (allowedZones : List Zone) where
  specs : List (ProviderSpec allowedZones)
  distinct : (specs.map (·.name)).Nodup

/-- The records of a configuration: none is configured twice, and each is in
the zone of its provider. -/
structure RecordTable {allowedZones : List Zone}
    (providers : ProviderTable allowedZones) extends CompiledDns where
  placed : ∀ record ∈ records, ∃ spec ∈ providers.specs,
    spec.name = record.provider ∧ isWithinZone record.set.name spec.zone.name

structure CompiledConfig where
  allowedZones : List Zone
  providers : ProviderTable allowedZones
  records : RecordTable providers

namespace DnsConfig

def acmeChallengeLabel : String := "_acme-challenge"

def compileZone (context zone : String) : Except String Zone :=
  match accepted : normalizeHostname zone with
  | .error error => .error (context ++ ": " ++ error.message)
  | .ok name => .ok ⟨name, normalized_of_normalize accepted⟩

def compileAllowedZones (zones : List String) :
    Except String (List Zone) :=
  zones.mapM fun zone =>
    compileZone ("dns.allowed_zones: invalid zone " ++
      Text.debug zone.toList) zone

def fieldSet (value : Option String) : Bool :=
  value.any fun text => !(Text.trim text.toList).isEmpty

def providerNameChar (char : Char) : Bool :=
  char.isLower || char.isDigit || char = '-' || char = '_'

section Providers

variable (parseUri : String → Except String Uri)

/-- Plain text is accepted only for an endpoint on this host. -/
def validateApiBaseUrl (baseUrl : String) : Except String Unit := do
  let uri ← (parseUri baseUrl).mapError fun error =>
      "invalid Cloudflare api_base_url: " ++ error
  match uri.scheme, uri.host with
  | none, _ => throw "Cloudflare api_base_url must include a scheme"
  | some _, none => throw "Cloudflare api_base_url must include a host"
  | some scheme, some host =>
    let ipHost :=
      ((Text.stripStart ['['] host.toList).bind (Text.stripEnd [']'])).getD
        host.toList
    if scheme = "https" || (scheme = "http" &&
        (Inet.IpAddr.parse ipHost).any Inet.IpAddr.isLoopback) then
      return ()
    else throw ("Cloudflare api_base_url must use https " ++
      "(http is allowed only for a loopback IP address)")

def checkCloudflare (field : String) (provider : DnsProviderConfig) :
    Except String Unit := do
  if !fieldSet provider.zoneId then
    throw (field ++ ": cloudflare requires zone_id")
  if fieldSet provider.apiTokenEnv = fieldSet provider.apiTokenFile then
    throw (field ++ ": set exactly one of api_token_env or api_token_file")
  if let some baseUrl := provider.apiBaseUrl then
    (validateApiBaseUrl parseUri baseUrl).mapError fun error =>
      field ++ ": " ++ error
  if provider.hostedZoneId.isSome || provider.endpointUrl.isSome ||
      provider.region.isSome then
    throw (field ++
      ": hosted_zone_id/endpoint_url/region are Route 53 settings")

def checkRoute53 (field : String) (provider : DnsProviderConfig) :
    Except String Unit := do
  if !fieldSet provider.hostedZoneId then
    throw (field ++ ": route53 requires hosted_zone_id")
  if provider.zoneId.isSome || provider.apiTokenEnv.isSome ||
      provider.apiTokenFile.isSome || provider.apiBaseUrl.isSome then
    throw (field ++ ": zone_id/api_token_*/api_base_url are Cloudflare " ++
      "settings; Route 53 uses the AWS credential chain")

def checkProvider (field : String) (provider : DnsProviderConfig) :
    Except String Unit := do
  match provider.kind with
  | .cloudflare => checkCloudflare parseUri field provider
  | .route53 => checkRoute53 field provider
  if provider.requestTimeoutSecs = 0 then
    throw (field ++ ": request_timeout_secs must be greater than 0")

variable {allowedZones : List Zone}

/-- One round of the loop over the providers. -/
def addProvider (providers : ProviderTable allowedZones)
    (provider : DnsProviderConfig) :
    Except String (ProviderTable allowedZones) := do
  let name := String.ofList (Text.trim provider.name.toList)
  if name.isEmpty || !name.toList.all providerNameChar then
    throw ("dns.providers: name " ++ Text.debug name.toList ++
      " must be lowercase letters, digits, '-' or '_'")
  if known : name ∈ providers.specs.map (·.name) then
    throw ("dns.providers: duplicate provider name " ++ name)
  else do
    let field := "dns.providers[" ++ name ++ "]"
    let zone ← compileZone (field ++ ": invalid zone") provider.zone
    if allowed : ∃ allowed ∈ allowedZones,
        isWithinZone zone.name allowed.name then do
      checkProvider parseUri field provider
      return {
        specs := providers.specs ++
          [{ name, kind := provider.kind, zone, allowed }]
        distinct := by
          rw [List.map_append, List.nodup_append]
          refine ⟨providers.distinct, List.nodup_singleton _, ?_⟩
          rintro other member last same rfl
          rw [List.map_singleton, List.mem_singleton] at same
          subst same
          exact known member }
    else throw (field ++ ": zone " ++ zone.name ++
      " is not inside dns.allowed_zones")

end Providers

section Records

variable {allowedZones : List Zone}

/-- The allowed times to live of each provider. -/
def checkTtl (field : String) (kind : DnsProviderType) (ttl : UInt32) :
    Except String Unit :=
  match kind with
  | .cloudflare =>
    if ttl = 1 || (60 ≤ ttl && ttl ≤ 86400) then .ok ()
    else
      .error (field ++
        ": Cloudflare TTL must be 1 (automatic) or between 60 and 86400")
  | .route53 =>
    if 1 ≤ ttl && ttl ≤ 604800 then .ok ()
    else .error (field ++ ": TTL must be between 1 and 604800")

def checkProxied (field : String) (kind : DnsProviderType)
    (record : DnsRecordConfig) : Except String Unit := do
  if let some proxied := record.proxied then
    if kind ≠ .cloudflare then
      throw (field ++ ": proxied is only supported by Cloudflare")
    if proxied && record.recordType = .txt then
      throw (field ++ ": TXT records cannot be proxied")
    if proxied && record.ttl ≠ 1 then
      throw (field ++ ": proxied records must use ttl = 1")

/-- The checks on a record whose name is in the zone of its provider, which
answer its values. -/
def checkRecord (field name : String) (spec : ProviderSpec allowedZones)
    (record : DnsRecordConfig) : Except String (Finset String) := do
  if (name.toList.splitOn '.').head? = some acmeChallengeLabel.toList then
    throw (field ++ ": " ++ acmeChallengeLabel ++
      " records are reserved for ACME DNS-01")
  let values ← record.values.mapM fun value =>
      (record.recordType.normalizeValue value).mapError
      fun error => field ++ ": " ++ error
  let values := values.toFinset
  if record.state ≠ .absent && values = ∅ then
    throw (field ++ ": at least one value is required")
  if record.recordType = .cname && 1 < values.card then
    throw (field ++ ": CNAME must have exactly one value")
  if record.recordType = .cname && name = spec.zone.name && spec.kind =
      .route53 then
    throw (field ++ ": Route 53 does not allow a CNAME at the zone apex")
  checkTtl field spec.kind record.ttl
  checkProxied field spec.kind record
  return values

variable {providers : ProviderTable allowedZones}

/-- A record joins the table unless one of its kind is there. -/
def RecordTable.push (table : RecordTable providers) (field : String)
    (record : DesiredRecord)
    (placed : ∃ spec ∈ providers.specs, spec.name = record.provider ∧
      isWithinZone record.set.name spec.zone.name) :
    Except String (RecordTable providers) :=
  if known : (record.provider, record.set.name, record.set.recordType) ∈
      table.records.map fun record =>
        (record.provider, record.set.name, record.set.recordType) then
    .error (field ++ ": duplicate record")
  else .ok {
    records := table.records ++ [record]
    nodup := by
      rw [List.map_append, List.nodup_append]
      refine ⟨table.nodup, List.nodup_singleton _, ?_⟩
      rintro other member last same rfl
      rw [List.map_singleton, List.mem_singleton] at same
      subst same
      exact known member
    placed := by
      intro other member
      rcases List.mem_append.mp member with earlier | last
      · exact table.placed other earlier
      · rw [List.mem_singleton.mp last]
        exact placed }

/-- One round of the loop over the records. -/
def addRecord (table : RecordTable providers) (record : DnsRecordConfig) :
    Except String (RecordTable providers) := do
  match found : providers.specs.find? (·.name = record.provider) with
  | none =>
    throw ("dns.records: unknown provider " ++
      Text.debug record.provider.toList)
  | some spec =>
    let name ← (normalizeDnsName record.name).mapError fun error =>
      "dns.records: invalid name " ++ Text.debug record.name.toList ++ ": " ++
        error.message
    let field := "dns.records[" ++ name ++ " " ++ record.recordType.asStr ++ "]"
    if inside : isWithinZone name spec.zone.name then do
      let values ← checkRecord field name spec record
      RecordTable.push table field
        { provider := spec.name
          set :=
            { name
              recordType := record.recordType
              ttl := record.ttl
              values
              proxied := record.proxied }
          importExisting := record.importExisting
          absent := record.state = .absent }
        ⟨spec, List.mem_of_find?_eq_some found, rfl, inside⟩
    else throw (field ++ ": name is outside zone " ++ spec.zone.name ++
      " of provider " ++ spec.name)

/-- The types that are to be present for a name. -/
def presentTypes (records : List DesiredRecord) (provider name : String) :
    List RecordType :=
  (records.filter fun record => !record.absent &&
    record.provider = provider && record.set.name = name).map (·.set.recordType)

/-- A name that is to have a CNAME and other types.  The source goes over a
hash map here, and so may report another one of them. -/
def crowdedName (records : List DesiredRecord) : Option String :=
  (records.find? fun record =>
    let types := presentTypes records record.provider record.set.name
    !record.absent && types.contains .cname && 1 < types.length).map
      (·.set.name)

end Records

/-- Validate the DNS section against the allowed zones and provider
constraints. -/
def compile (parseUri : String → Except String Uri) (config : DnsConfig) :
    Except String CompiledConfig := do
  let allowedZones ← compileAllowedZones config.allowedZones
  if allowedZones.isEmpty then
    throw "dns.allowed_zones must list the zones Sieve Tube may modify"
  let providers ← config.providers.foldlM (addProvider parseUri)
    { specs := ([] : List (ProviderSpec allowedZones))
      distinct := List.nodup_nil }
  let records ← config.records.foldlM addRecord
    ({ records := []
       nodup := List.nodup_nil
       placed := by simp } : RecordTable providers)
  match crowdedName records.records with
  | some name =>
    throw ("dns.records: " ++ name ++ " has a CNAME and other record types")
  | none => return { allowedZones, providers, records }

/-- A provider of the configuration, by the name and the zone it is compiled
to. -/
def Provides (config : DnsConfig) (name zone : String) : Prop :=
  ∃ provider ∈ config.providers,
    name = String.ofList (Text.trim provider.name.toList) ∧
      normalizeHostname provider.zone = .ok zone

section Accepted

variable {parseUri : String → Except String Uri} {config : DnsConfig}
variable {compiled : CompiledConfig}

theorem compileZone_eq_ok {context zone : String} {compiled : Zone}
    (accepted : compileZone context zone = .ok compiled) :
    normalizeHostname zone = .ok compiled.name := by
  unfold compileZone at accepted
  split at accepted
  · cases accepted
  · next name normal =>
    cases accepted
    exact normal

theorem addProvider_eq_ok {allowedZones : List Zone}
    {providers next : ProviderTable allowedZones}
    {provider : DnsProviderConfig}
    (added : addProvider parseUri providers provider = .ok next) :
    ∃ spec, next.specs = providers.specs ++ [spec] ∧
      spec.name = String.ofList (Text.trim provider.name.toList) ∧
      normalizeHostname provider.zone = .ok spec.zone.name := by
  unfold addProvider at added
  simp only at added
  split at added
  · cases added
  · split at added
    · cases added
    · rw [Except.bind_eq_ok_iff] at added
      obtain ⟨zone, named, added⟩ := added
      split at added
      · rw [Except.bind_eq_ok_iff] at added
        obtain ⟨_, _, added⟩ := added
        cases added
        exact ⟨_, rfl, rfl, compileZone_eq_ok named⟩
      · cases added

variable (accepted : config.compile parseUri = .ok compiled)
include accepted

theorem compile_eq_ok :
    compileAllowedZones config.allowedZones = .ok compiled.allowedZones ∧
      config.providers.foldlM (addProvider parseUri)
        { specs := [], distinct := List.nodup_nil } =
          .ok compiled.providers := by
  unfold compile at accepted
  rw [Except.bind_eq_ok_iff] at accepted
  obtain ⟨zones, zonesDone, accepted⟩ := accepted
  simp only at accepted
  split at accepted
  · cases accepted
  · rw [Except.bind_eq_ok_iff] at accepted
    obtain ⟨providers, providersDone, accepted⟩ := accepted
    rw [Except.bind_eq_ok_iff] at accepted
    obtain ⟨records, recordsDone, accepted⟩ := accepted
    split at accepted
    · cases accepted
    · cases accepted
      exact ⟨zonesDone, providersDone⟩

theorem allowedZones_of_compile :
    ∀ allowed ∈ compiled.allowedZones, ∃ zone ∈ config.allowedZones,
      normalizeHostname zone = .ok allowed.name := by
  intro allowed member
  obtain ⟨zone, listed, done⟩ := Except.exists_of_mem_mapM
    (compile_eq_ok accepted).1 allowed member
  exact ⟨zone, listed, compileZone_eq_ok done⟩

theorem provides_of_compile :
    ∀ spec ∈ compiled.providers.specs,
      config.Provides spec.name spec.zone.name := by
  refine Except.foldlM_invariant
    (fun providers : ProviderTable compiled.allowedZones =>
      ∀ spec ∈ providers.specs, config.Provides spec.name spec.zone.name)
    ?_ (by simp) (compile_eq_ok accepted).2
  intro provider member providers next provided added
  obtain ⟨spec, extended, named, zoned⟩ := addProvider_eq_ok added
  rw [extended, List.forall_mem_append, List.forall_mem_singleton]
  exact ⟨provided, provider, member, named, zoned⟩

end Accepted

end DnsConfig

namespace CompiledConfig

/-- The challenge solver of a configuration, which knows its providers by
their places. -/
def solver (compiled : CompiledConfig) (ttl : UInt32)
    (journalPath : String) : TxtSolver :=
  .new (compiled.providers.specs.mapIdx fun provider spec =>
    (spec.zone.name, provider))
    (compiled.allowedZones.map (·.name)) ttl journalPath

end CompiledConfig

end SieveTube.Dns
