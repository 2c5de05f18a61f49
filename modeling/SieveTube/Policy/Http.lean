import SieveTube.Hostname
import SieveTube.Library.Inet
import SieveTube.Policy.Bucket

/-!
# Built-in rules for HTTP requests

Blocked networks are looked at first, then the limit in force for the
hostname: the one of its domain, or else the global one.
-/

namespace SieveTube

open Inet

inductive PolicyMode where
  | enforce
  | monitor
deriving DecidableEq

inductive Reason where
  | blockedCidr
  | rateLimit
  | capacity
  | concurrencyLimit
  | plugin
  | pluginFailure
deriving DecidableEq

inductive Decision where
  | allow
  | deny (reason : Reason)
  | rateLimited (reason : Reason) (retryAfterSecs : Nat)
  | unavailable (reason : Reason)
deriving DecidableEq

/-- A decision and whether it is enforced. -/
structure Verdict where
  decision : Decision
  enforced : Bool
deriving DecidableEq

def Verdict.allow : Verdict := { decision := .allow, enforced := true }

def Verdict.rejects (verdict : Verdict) : Bool :=
  verdict.enforced && verdict.decision ≠ .allow

/-- Which requests share a bucket. -/
inductive RateLimitKey where
  | tenantHostnameIp
  | clientIp

/-- The limit that a configuration's rate and burst stand for. -/
def rateLimit (field : String) (perSecond : Option ℚ)
    (burst : Option Nat) : Except String (Option RateLimit) :=
  match perSecond, burst with
  | none, none => .ok none
  | none, some _ => .error (field ++ ": burst requires a rate")
  | some rate, burst =>
    if rate_pos : 0 < rate then
      let tokens := burst.getD (min (max ⌈rate⌉₊ 1) (2 ^ 32 - 1))
      if burst_pos : 0 < tokens then
        .ok (some
          { perSecond := rate
            burst := tokens
            perSecond_pos := rate_pos
            burst_pos := by exact_mod_cast burst_pos })
      else .error (field ++ ": burst must be at least 1")
    else .error (field ++ ": rate must be a positive number")

structure CompiledDomain where
  mode : Option PolicyMode
  blocked : List IpNet
  httpRate : Option RateLimit

/-- The part of a validated configuration that HTTP requests are judged by. -/
structure CompiledPolicy where
  enabled : Bool
  mode : PolicyMode
  blocked : List IpNet
  httpRate : Option RateLimit
  key : RateLimitKey
  domains : AList fun _ : String => CompiledDomain
  maxEntries : Nat
  idleTtl : ℚ≥0

/-- The facts of a request the built-in rules depend on. -/
structure RequestContext where
  tenantId : String
  hostname : String
  clientIp : IpAddr
deriving DecidableEq

/-- The value whose hash names a bucket. -/
inductive LimitKey where
  | tenantHostnameIp (tenantId hostname : String) (clientIp : IpAddr)
  | clientIp (clientIp : IpAddr)
deriving DecidableEq

namespace CompiledPolicy

def domain (policy : CompiledPolicy) (hostname : String) :
    Option CompiledDomain :=
  match policy.domains.lookup hostname with
  | some domain => some domain
  | none => (Hostname.wildcardFor hostname).bind policy.domains.lookup

/-- The limit in force for a hostname. -/
def limitFor (policy : CompiledPolicy) (hostname : String) :
    Option RateLimit :=
  match (policy.domain hostname).bind CompiledDomain.httpRate with
  | some limit => some limit
  | none => policy.httpRate

def limitKey (policy : CompiledPolicy) (request : RequestContext) : LimitKey :=
  match policy.key with
  | .tenantHostnameIp =>
    .tenantHostnameIp request.tenantId request.hostname request.clientIp
  | .clientIp => .clientIp request.clientIp

end CompiledPolicy

def containsIp (networks : List IpNet) (ip : IpAddr) : Bool :=
  networks.any fun network => network.contains ip

def limited : TakeError → Decision
  | .limited waitSecs =>
    .rateLimited .rateLimit (min (max ⌈waitSecs⌉₊ 1) (2 ^ 64 - 1))
  | .capacity => .rateLimited .capacity 1

/-- `decide_http` at clock reading `now`; `hash` is the keyed hash of the
table. -/
def decideHttp (hash : LimitKey → UInt64) (policy : CompiledPolicy)
    (request : RequestContext) (now : ℚ≥0) (buckets : BucketTable) :
    Decision × BucketTable :=
  let domain := policy.domain request.hostname
  if containsIp policy.blocked request.clientIp ||
      domain.any (fun domain => containsIp domain.blocked request.clientIp)
  then (.deny .blockedCidr, buckets)
  else
    match policy.limitFor request.hostname with
    | none => (.allow, buckets)
    | some limit =>
      match buckets.take (hash (policy.limitKey request)) limit 1 now
        policy.maxEntries policy.idleTtl with
      | (.ok _, buckets) => (.allow, buckets)
      | (.error error, buckets) => (limited error, buckets)

/-- `evaluate_http`: the built-in rules and then the plugins, whose answer
is an argument. -/
def evaluateHttp (hash : LimitKey → UInt64) (policy : CompiledPolicy)
    (plugins : RequestContext → Decision) (request : RequestContext)
    (now : ℚ≥0) (buckets : BucketTable) : Verdict × BucketTable :=
  if policy.enabled then
    let mode := ((policy.domain request.hostname).bind CompiledDomain.mode).getD
      policy.mode
    let (builtIn, buckets) := decideHttp hash policy request now buckets
    let decision := if builtIn = .allow then plugins request else builtIn
    ({ decision, enforced := mode = .enforce }, buckets)
  else (.allow, buckets)

/-- What a decision hands out. -/
def Decision.admitted : Decision → ℚ
  | .allow => 1
  | _ => 0

theorem limited_admitted (error : TakeError) :
    (limited error).admitted = 0 := by
  cases error <;> rfl

theorem decideHttp_cases (hash : LimitKey → UInt64) (policy : CompiledPolicy)
    (request : RequestContext) (now : ℚ≥0) (buckets : BucketTable) :
    let judged := decideHttp hash policy request now buckets
    (judged.2 = buckets ∧ judged.1.admitted = 0) ∨
    (judged.2 = buckets ∧ policy.limitFor request.hostname = none) ∨
    ∃ limit, policy.limitFor request.hostname = some limit ∧
      judged.2 = (buckets.take (hash (policy.limitKey request)) limit 1 now
        policy.maxEntries policy.idleTtl).2 ∧
      judged.1.admitted = Bucket.granted
        (buckets.take (hash (policy.limitKey request)) limit 1 now
          policy.maxEntries policy.idleTtl).1 1 := by
  unfold decideHttp
  simp only
  split
  · exact .inl ⟨rfl, rfl⟩
  · split
    · next unlimited => exact .inr (.inl ⟨rfl, unlimited⟩)
    · next limit inForce =>
      right
      right
      refine ⟨limit, inForce, ?_⟩
      split
      · next taken =>
        rw [taken]
        exact ⟨rfl, by simp [Decision.admitted, Bucket.granted]⟩
      · next taken =>
        rw [taken]
        exact ⟨rfl, limited_admitted _⟩

end SieveTube
