import SieveTube.Policy.Tcp

/-!
# Compilation of a policy section

The checks a policy section has to pass when a configuration is loaded, in
the order of the source.  Rates are exact rationals, so that they are always
finite; how a network is read is an argument.
-/

namespace SieveTube

open Inet

structure DomainPolicyConfig where
  hostname : String
  mode : Option PolicyMode
  blockedCidrs : List String
  requestsPerSecond : Option ℚ
  burst : Option Nat

structure TcpPolicyConfig where
  connectionsPerSecond : Option ℚ
  connectionBurst : Option Nat
  maxConcurrentPerIp : Option Nat
  maxConcurrentPerListener : Option Nat

structure UdpPolicyConfig where
  packetsPerSecond : Option ℚ
  packetBurst : Option Nat
  bytesPerSecond : Option ℚ
  byteBurst : Option Nat

structure PluginConfig where
  name : String
  path : String
  sha256 : String
  appliesTo : List String
  maxMemoryBytes : Nat
  fuel : Nat
  timeoutMs : Nat
  maxConcurrent : Nat

structure PolicyConfig where
  enabled : Bool
  mode : PolicyMode
  trustedProxies : List String
  blockedCidrs : List String
  requestsPerSecond : Option ℚ
  burst : Option Nat
  rateLimitKey : RateLimitKey
  maxEntries : Nat
  idleTtlSecs : Nat
  domains : List DomainPolicyConfig
  tcp : TcpPolicyConfig
  udp : UdpPolicyConfig
  plugins : List PluginConfig

structure CompiledUdp where
  packetRate : Option RateLimit
  byteRate : Option RateLimit

/-- A policy with everything that was compiled. -/
structure EdgePolicy extends TransportPolicy where
  trustedProxies : List IpNet
  udp : CompiledUdp

namespace PolicyConfig

def default : PolicyConfig :=
  { enabled := false
    mode := .enforce
    trustedProxies := []
    blockedCidrs := []
    requestsPerSecond := none
    burst := none
    rateLimitKey := .tenantHostnameIp
    maxEntries := 100000
    idleTtlSecs := 600
    domains := []
    tcp :=
      { connectionsPerSecond := none
        connectionBurst := none
        maxConcurrentPerIp := none
        maxConcurrentPerListener := none }
    udp :=
      { packetsPerSecond := none
        packetBurst := none
        bytesPerSecond := none
        byteBurst := none }
    plugins := [] }

section Compile

variable (parseNetwork : List Char → Option IpNet)

def parseNetworks (field : String) (values : List String) :
    Except String (List IpNet) :=
  values.mapM fun value => let value := Text.trim value.toList
    match parseNetwork value with
    | some network => .ok network
    | none => .error (field ++ ": invalid address or CIDR " ++ Text.debug value)

/-- One round of the loop over the domains. -/
def addDomain (domains : AList fun _ : String => CompiledDomain)
    (domain : DomainPolicyConfig) :
    Except String (AList fun _ : String => CompiledDomain) := do
  let name ← (Hostname.normalizeHostnamePattern domain.hostname).mapError
    fun error => "policy.domains: invalid hostname " ++
      Text.debug domain.hostname.toList ++ ": " ++ error.message
  let field := "policy.domains[" ++ name ++ "]"
  let blocked ← parseNetworks parseNetwork field domain.blockedCidrs
  let httpRate ← rateLimit field domain.requestsPerSecond domain.burst
  if (domains.lookup name).isSome then
    .error ("policy.domains: duplicate hostname " ++ name)
  else return domains.insert name { mode := domain.mode, blocked, httpRate }

def compileUdp (udp : UdpPolicyConfig) : Except String CompiledUdp := do
  let packetRate ← rateLimit "policy.udp packets" udp.packetsPerSecond
      udp.packetBurst
  let byteRate ← rateLimit "policy.udp bytes" udp.bytesPerSecond udp.byteBurst
  if byteRate.any fun limit => limit.burst < 65535 then
    .error ("policy.udp.byte_burst must be at least 65535 so that every " ++
      "datagram size can pass")
  else return { packetRate, byteRate }

def pluginNameChar (char : Char) : Bool :=
  char.isLower || char.isDigit || char = '-' || char = '_'

/-- The checks on one plugin; `names` are those of the plugins before it. -/
def checkPlugin (names : List String) (plugin : PluginConfig) :
    Except String (List String) := do
  let field := "policy.plugins[" ++ plugin.name ++ "]"
  if plugin.name.isEmpty || !plugin.name.toList.all pluginNameChar then
    throw (field ++ ": name must be lowercase letters, digits, '-' or '_'")
  if names.contains plugin.name then
    throw (field ++ ": duplicate plugin name")
  if (Text.trim plugin.path.toList).isEmpty then
    throw (field ++ ": path must be set")
  let sha256 := Text.trim plugin.sha256.toList
  if Text.byteLength sha256 ≠ 64 || !sha256.all fun char =>
      (toDigit 16 char).isSome then
    throw (field ++ ": sha256 must be 64 hex characters")
  for pattern in plugin.appliesTo do
    let _ ← (Hostname.normalizeHostnamePattern pattern).mapError fun error =>
      field ++ ": invalid applies_to " ++ Text.debug pattern.toList ++ ": " ++
        error.message
  if plugin.maxMemoryBytes < 64 * 1024 || 1024 * 1024 * 1024 <
      plugin.maxMemoryBytes then
    throw (field ++ ": max_memory_bytes must be between 65536 and 1073741824")
  if plugin.fuel = 0 || plugin.maxConcurrent = 0 || plugin.timeoutMs < 1 ||
      10000 < plugin.timeoutMs then
    throw (field ++ ": fuel and max_concurrent must be > 0 and timeout_ms " ++
      "between 1 and 10000")
  return plugin.name :: names

def compile (config : PolicyConfig) : Except String EdgePolicy := do
  let domains ← config.domains.foldlM (addDomain parseNetwork) ∅
  if config.maxEntries = 0 then
    .error "policy.max_entries must be greater than 0"
  else do
    let udp ← compileUdp config.udp
    let _ ← config.plugins.foldlM checkPlugin []
    let trustedProxies ← parseNetworks parseNetwork "policy.trusted_proxies"
        config.trustedProxies
    let blocked ← parseNetworks parseNetwork "policy.blocked_cidrs"
        config.blockedCidrs
    let httpRate ← rateLimit "policy" config.requestsPerSecond config.burst
    let connectionRate ← rateLimit "policy.tcp"
      config.tcp.connectionsPerSecond config.tcp.connectionBurst
    let maxConcurrentPerIp ← positive "policy.tcp.max_concurrent_per_ip"
      config.tcp.maxConcurrentPerIp
    let maxConcurrentPerListener ←
      positive "policy.tcp.max_concurrent_per_listener"
        config.tcp.maxConcurrentPerListener
    return {
      enabled := config.enabled
      mode := config.mode
      blocked
      httpRate
      key := config.rateLimitKey
      domains
      maxEntries := config.maxEntries
      idleTtl := config.idleTtlSecs
      tcp := { connectionRate, maxConcurrentPerIp, maxConcurrentPerListener }
      trustedProxies
      udp }

end Compile

end PolicyConfig

theorem one_le_burst_of_rateLimit {field : String} {perSecond : Option ℚ}
    {burst : Option Nat} {limit : RateLimit}
    (accepted : rateLimit field perSecond burst = .ok (some limit)) :
    1 ≤ limit.burst := by
  unfold rateLimit at accepted
  split at accepted
  · cases accepted
  · cases accepted
  · dsimp only at accepted
    split at accepted
    · split at accepted
      · next positive =>
        cases accepted
        exact Nat.one_le_cast.mpr positive
      · cases accepted
    · cases accepted

namespace PolicyConfig

variable {parseNetwork : List Char → Option IpNet} {config : PolicyConfig}
variable {policy : EdgePolicy}

/-- What is known of a policy that was compiled. -/
structure Compiled (policy : EdgePolicy) : Prop where
  maxEntries_pos : 0 < policy.maxEntries
  one_le_packetBurst : ∀ limit, policy.udp.packetRate = some limit →
    1 ≤ limit.burst

theorem one_le_packetBurst_of_compileUdp {udp : UdpPolicyConfig}
    {compiled : CompiledUdp} (accepted : compileUdp udp = .ok compiled)
    {limit : RateLimit} (limited : compiled.packetRate = some limit) :
    1 ≤ limit.burst := by
  obtain ⟨packetRate, packets, accepted⟩ := Except.bind_eq_ok_iff.mp accepted
  obtain ⟨byteRate, bytes, accepted⟩ := Except.bind_eq_ok_iff.mp accepted
  split at accepted
  · cases accepted
  · cases accepted
    cases limited
    exact one_le_burst_of_rateLimit packets

theorem compiled_of_compile
    (accepted : config.compile parseNetwork = .ok policy) :
    Compiled policy := by
  obtain ⟨domains, -, accepted⟩ := Except.bind_eq_ok_iff.mp accepted
  split at accepted
  · cases accepted
  · next nonzero =>
    obtain ⟨udp, udpAccepted, accepted⟩ := Except.bind_eq_ok_iff.mp accepted
    obtain ⟨_, -, accepted⟩ := Except.bind_eq_ok_iff.mp accepted
    obtain ⟨_, -, accepted⟩ := Except.bind_eq_ok_iff.mp accepted
    obtain ⟨_, -, accepted⟩ := Except.bind_eq_ok_iff.mp accepted
    obtain ⟨_, -, accepted⟩ := Except.bind_eq_ok_iff.mp accepted
    obtain ⟨_, -, accepted⟩ := Except.bind_eq_ok_iff.mp accepted
    obtain ⟨_, -, accepted⟩ := Except.bind_eq_ok_iff.mp accepted
    obtain ⟨_, -, accepted⟩ := Except.bind_eq_ok_iff.mp accepted
    cases accepted
    exact
      { maxEntries_pos := Nat.pos_of_ne_zero nonzero
        one_le_packetBurst := fun _ limited =>
          one_le_packetBurst_of_compileUdp udpAccepted limited }

end PolicyConfig

end SieveTube
