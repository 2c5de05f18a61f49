import SieveTube.Policy.Compile

/-!
# Panics of the token-bucket code

`Duration::from_secs_f64` panics for a number of seconds that no `Duration`
holds.  The bucket code is repeated here with that panic; where it does not
occur, the code computes what the model without panics does.
-/

namespace SieveTube

open Inet

inductive Panic where
  | durationOutOfRange

/-- A `Duration` has fewer than `2 ^ 64` seconds. -/
def durationFromSecs (secs : ℚ) : Except Panic ℚ≥0 :=
  if 0 ≤ secs ∧ secs < 2 ^ 64 then .ok secs.toNNRat
  else .error .durationOutOfRange

/-- The time in which a bucket fills up is a `Duration`. -/
def RateLimit.Fills (limit : RateLimit) : Prop :=
  limit.burst / limit.perSecond < 2 ^ 64

instance (limit : RateLimit) : Decidable limit.Fills :=
  inferInstanceAs (Decidable (_ < _))

theorem durationFromSecs_fillTime (limit : RateLimit) :
    durationFromSecs (limit.burst / limit.perSecond) =
      if limit.Fills then .ok limit.fillTime
      else .error .durationOutOfRange := by
  have nonneg : 0 ≤ limit.burst / limit.perSecond :=
    div_nonneg limit.burst_pos.le limit.perSecond_pos.le
  unfold durationFromSecs
  by_cases fills : limit.Fills
  · rw [if_pos ⟨nonneg, fills⟩, if_pos fills, RateLimit.fillTime]
  · rw [if_neg fun both => fills both.2, if_neg fills]

def Bucket.takeOrPanic (bucket : Bucket) (limit : RateLimit)
    (amount now : ℚ≥0) : Except Panic (Except TakeError Unit × Bucket) := do
  let tokens := bucket.refilled limit now
  let fullAfter ← durationFromSecs (limit.burst / limit.perSecond)
  if amount ≤ tokens then
    return (.ok (), { tokens := tokens - amount, updated := now, fullAfter })
  else
    return (.error (.limited ((amount - tokens) / limit.perSecond)),
      { tokens, updated := now, fullAfter })

theorem Bucket.takeOrPanic_eq (bucket : Bucket) (limit : RateLimit)
    (amount now : ℚ≥0) :
    bucket.takeOrPanic limit amount now =
      if limit.Fills then .ok (bucket.take limit amount now)
      else .error .durationOutOfRange := by
  unfold takeOrPanic take
  rw [durationFromSecs_fillTime]
  by_cases fills : limit.Fills
  · simp only [if_pos fills, bind, Except.bind, pure, Except.pure]
    split <;> rfl
  · simp only [if_neg fills, bind, Except.bind]

namespace BucketTable

def takeFromOrPanic (table : BucketTable) (key : UInt64) (bucket : Bucket)
    (limit : RateLimit) (amount now : ℚ≥0) :
    Except Panic (Except TakeError Unit × BucketTable) := do
  let taken ← bucket.takeOrPanic limit amount now
  return (taken.1, { table with buckets := table.buckets.insert key taken.2 })

def takeOrPanic (table : BucketTable) (key : UInt64) (limit : RateLimit)
    (amount now : ℚ≥0) (maxEntries : Nat) (idleTtl : ℚ≥0) :
    Except Panic (Except TakeError Unit × BucketTable) :=
  match table.buckets.lookup key with
  | some bucket => table.takeFromOrPanic key bucket limit amount now
  | none =>
    let room := table.makeRoom now maxEntries idleTtl
    if maxEntries ≤ room.buckets.size then return (.error .capacity, room)
    else room.takeFromOrPanic key (.fresh limit now) limit amount now

variable {table : BucketTable} {key : UInt64} {limit : RateLimit}
variable {amount now : ℚ≥0} {maxEntries : Nat} {idleTtl : ℚ≥0}

theorem takeFromOrPanic_of_fills (fills : limit.Fills) (bucket : Bucket) :
    table.takeFromOrPanic key bucket limit amount now =
      .ok (table.takeFrom key bucket limit amount now) := by
  unfold takeFromOrPanic takeFrom
  rw [Bucket.takeOrPanic_eq, if_pos fills]
  rfl

theorem takeOrPanic_of_fills (fills : limit.Fills) :
    table.takeOrPanic key limit amount now maxEntries idleTtl =
      .ok (table.take key limit amount now maxEntries idleTtl) := by
  unfold takeOrPanic take
  cases table.buckets.lookup key with
  | some bucket => exact takeFromOrPanic_of_fills fills bucket
  | none =>
    dsimp only
    split
    · rfl
    · exact takeFromOrPanic_of_fills fills _

theorem takeOrPanic_new (room : 0 < maxEntries) (slow : ¬ limit.Fills) :
    new.takeOrPanic key limit amount now maxEntries idleTtl =
      .error .durationOutOfRange := by
  have empty : new.buckets.size = 0 := rfl
  have free : ¬ maxEntries ≤ 0 := Nat.not_le.mpr room
  have absent : new.buckets.lookup key = none := rfl
  unfold takeOrPanic
  simp only [absent, makeRoom, empty, free, if_false, takeFromOrPanic,
    Bucket.takeOrPanic_eq, slow]
  rfl

theorem take_new_ok (room : 0 < maxEntries) (one : 1 ≤ limit.burst) :
    (new.take key limit 1 now maxEntries idleTtl).1 = .ok () := by
  have empty : new.buckets.size = 0 := rfl
  have free : ¬ maxEntries ≤ 0 := Nat.not_le.mpr room
  have absent : new.buckets.lookup key = none := rfl
  have full : (Bucket.fresh limit now).refilled limit now = limit.burst := by
    simp [Bucket.refilled, Bucket.fresh]
  unfold take
  simp only [absent, makeRoom, empty, free, if_false, takeFrom,
    Bucket.take, full]
  simp [one]

end BucketTable

/-- The tables of a policy. -/
structure PolicyTables where
  http : BucketTable
  tcp : BucketTable
  udpPackets : BucketTable
  udpBytes : BucketTable

def PolicyTables.new : PolicyTables :=
  { http := .new, tcp := .new, udpPackets := .new, udpBytes := .new }

/-- The keyed hashes of the tables. -/
structure PolicyHasher where
  http : LimitKey → UInt64
  tcp : String → IpAddr → UInt64
  udpPackets : String → IpAddr → UInt64
  udpBytes : String → IpAddr → UInt64

structure Datagram where
  listener : String
  clientIp : IpAddr
  size : Nat

/-- What the policy is asked for, at a clock reading, and the maintenance
sweep. -/
inductive PolicyCall where
  | http (request : RequestContext) (now : ℚ≥0)
  | tcp (connection : TcpConnection) (now : ℚ≥0)
  | udp (datagram : Datagram) (now : ℚ≥0)
  | sweep (now : ℚ≥0)

/-- The decision for the answer of a table, if there was a limit. -/
def decisionFor : Option (Except TakeError Unit) → Decision
  | some (.error error) => limited error
  | _ => .allow

section Calls

variable (hasher : PolicyHasher) (policy : EdgePolicy)

/-- Take from the bucket of a key, if there is a limit. -/
def takeLimited (table : BucketTable) (key : UInt64) (limit : Option RateLimit)
    (amount now : ℚ≥0) :
    Except Panic (Option (Except TakeError Unit) × BucketTable) :=
  match limit with
  | none => return (none, table)
  | some limit => do
      let (taken, table) ← table.takeOrPanic key limit amount now
          policy.maxEntries policy.idleTtl
      return (some taken, table)

/-- `decide_http`. -/
def decideHttpOrPanic (request : RequestContext) (now : ℚ≥0)
    (tables : PolicyTables) : Except Panic (Decision × PolicyTables) :=
  let domain := policy.domain request.hostname
  if containsIp policy.blocked request.clientIp ||
      domain.any (fun domain => containsIp domain.blocked request.clientIp)
  then return (.deny .blockedCidr, tables)
  else do
    let (taken, http) ← takeLimited policy tables.http
        (hasher.http (policy.limitKey request))
      (policy.limitFor request.hostname) 1 now
    return (decisionFor taken, { tables with http })

/-- The rules of `admit_tcp` that come before the concurrency limits. -/
def decideTcpOrPanic (connection : TcpConnection) (now : ℚ≥0)
    (tables : PolicyTables) : Except Panic (Decision × PolicyTables) :=
  let clientIp := connection.clientIp.toCanonical
  if containsIp policy.blocked clientIp then
    return (.deny .blockedCidr, tables)
  else do
    let (taken, tcp) ← takeLimited policy tables.tcp
        (hasher.tcp connection.listener clientIp)
      policy.tcp.connectionRate 1 now
    return (decisionFor taken, { tables with tcp })

/-- `admit_udp`: bytes are taken only if the packet may pass. -/
def decideUdpOrPanic (datagram : Datagram) (now : ℚ≥0)
    (tables : PolicyTables) : Except Panic (Decision × PolicyTables) :=
  let clientIp := datagram.clientIp.toCanonical
  if containsIp policy.blocked clientIp then
    return (.deny .blockedCidr, tables)
  else do
    let (packets, udpPackets) ← takeLimited policy tables.udpPackets
      (hasher.udpPackets datagram.listener clientIp)
      policy.udp.packetRate 1 now
    match packets with
    | some (.error error) => return (limited error, { tables with udpPackets })
    | _ =>
      let (bytes, udpBytes) ← takeLimited policy tables.udpBytes
        (hasher.udpBytes datagram.listener clientIp)
        policy.udp.byteRate datagram.size now
      return (decisionFor bytes, { tables with udpPackets, udpBytes })

def PolicyTables.sweep (tables : PolicyTables) (now idleTtl : ℚ≥0) :
    PolicyTables :=
  { http := tables.http.sweep now idleTtl
    tcp := tables.tcp.sweep now idleTtl
    udpPackets := tables.udpPackets.sweep now idleTtl
    udpBytes := tables.udpBytes.sweep now idleTtl }

def answer (tables : PolicyTables) :
    PolicyCall → Except Panic (Decision × PolicyTables)
  | .http request now =>
    if policy.enabled then decideHttpOrPanic hasher policy request now tables
    else return (.allow, tables)
  | .tcp connection now =>
    if policy.enabled then
      decideTcpOrPanic hasher policy connection now tables
    else return (.allow, tables)
  | .udp datagram now =>
    if policy.enabled then decideUdpOrPanic hasher policy datagram now tables
    else return (.allow, tables)
  | .sweep now => return (.allow, tables.sweep now policy.idleTtl)

/-- The tables after a sequence of calls, none of which panicked. -/
def answerAll (calls : List PolicyCall) : Except Panic PolicyTables :=
  calls.foldlM (fun tables call => do
    let (_, tables) ← answer hasher policy tables call
    return tables) .new

end Calls

/-- The limits a call takes from as long as it is let through. -/
def EdgePolicy.limitsOf (policy : EdgePolicy) : PolicyCall → List RateLimit
  | .http request _ =>
    if !policy.enabled || containsIp policy.blocked request.clientIp ||
        (policy.domain request.hostname).any fun domain =>
          containsIp domain.blocked request.clientIp
    then []
    else (policy.limitFor request.hostname).toList
  | .tcp connection _ =>
    if !policy.enabled || containsIp policy.blocked
        connection.clientIp.toCanonical
    then []
    else policy.tcp.connectionRate.toList
  | .udp datagram _ =>
    if !policy.enabled || containsIp policy.blocked
        datagram.clientIp.toCanonical
    then []
    else policy.udp.packetRate.toList ++ policy.udp.byteRate.toList
  | .sweep _ => []

section Completion

variable {hasher : PolicyHasher} {policy : EdgePolicy}
variable {tables : PolicyTables} {table : BucketTable} {key : UInt64}
variable {limit : Option RateLimit} {amount now : ℚ≥0}

theorem takeLimited_some {inForce : RateLimit} (fills : inForce.Fills) :
    takeLimited policy table key (some inForce) amount now =
      .ok (some
        (table.take key inForce amount now policy.maxEntries policy.idleTtl).1,
        (table.take key inForce amount now policy.maxEntries
          policy.idleTtl).2) := by
  simp only [takeLimited, BucketTable.takeOrPanic_of_fills fills]
  rfl

theorem takeLimited_of_fills (fills : ∀ inForce ∈ limit.toList, inForce.Fills) :
    ∃ taken, takeLimited policy table key limit amount now = .ok taken := by
  cases limit with
  | none => exact ⟨_, rfl⟩
  | some inForce => exact ⟨_, takeLimited_some (fills inForce (by simp))⟩

theorem takeLimited_new_of_slow (room : 0 < policy.maxEntries)
    {slow : RateLimit} (inForce : slow ∈ limit.toList)
    (overlong : ¬ slow.Fills) :
    takeLimited policy .new key limit amount now =
      .error .durationOutOfRange := by
  obtain rfl : limit = some slow := by simpa using inForce
  simp only [takeLimited, BucketTable.takeOrPanic_new room overlong]
  rfl

theorem takeLimited_new_one (room : 0 < policy.maxEntries)
    (fills : ∀ inForce ∈ limit.toList, inForce.Fills)
    (one : ∀ inForce ∈ limit.toList, 1 ≤ inForce.burst) :
    ∃ taken later, takeLimited policy .new key limit 1 now =
      .ok (taken, later) ∧ ∀ error, taken ≠ some (.error error) := by
  cases limit with
  | none => exact ⟨none, .new, rfl, fun _ => by simp⟩
  | some inForce =>
    refine ⟨_, _, takeLimited_some (fills inForce (by simp)), ?_⟩
    intro error
    simp [BucketTable.take_new_ok room (one inForce (by simp))]

/-- Without panics the rules for HTTP are those of the plain model. -/
theorem decideHttpOrPanic_eq (request : RequestContext)
    (fills : ∀ inForce ∈ (policy.limitFor request.hostname).toList,
      inForce.Fills) :
    decideHttpOrPanic hasher policy request now tables =
      .ok ((decideHttp hasher.http policy.toCompiledPolicy request now
        tables.http).1, { tables with
          http := (decideHttp hasher.http policy.toCompiledPolicy request now
            tables.http).2 }) := by
  unfold decideHttpOrPanic decideHttp
  dsimp only
  split
  · rfl
  · cases inForce : policy.limitFor request.hostname with
    | none => rfl
    | some limit =>
      rw [takeLimited_some (fills limit (by simp [inForce]))]
      dsimp only [bind, Except.bind, pure, Except.pure]
      cases tables.http.take (hasher.http (policy.limitKey request)) limit 1
          now policy.maxEntries policy.idleTtl with
      | mk taken later => cases taken <;> rfl

/-- A call completes if the limits it takes from fill up in time. -/
theorem answer_of_fills (call : PolicyCall)
    (fills : ∀ limit ∈ policy.limitsOf call, limit.Fills) :
    ∃ result, answer hasher policy tables call = .ok result := by
  cases enabled : policy.enabled with
  | false => cases call <;> exact ⟨_, by simp [answer, enabled]; rfl⟩
  | true =>
    cases call with
    | http request now =>
      simp only [EdgePolicy.limitsOf, enabled, Bool.not_true,
        Bool.false_or] at fills
      simp only [answer, enabled, if_true, decideHttpOrPanic]
      split
      · exact ⟨_, rfl⟩
      · next free =>
        rw [if_neg free] at fills
        obtain ⟨taken, took⟩ := takeLimited_of_fills fills
        rw [took]
        exact ⟨_, rfl⟩
    | tcp connection now =>
      simp only [EdgePolicy.limitsOf, enabled, Bool.not_true,
        Bool.false_or] at fills
      simp only [answer, enabled, if_true, decideTcpOrPanic]
      split
      · exact ⟨_, rfl⟩
      · next free =>
        rw [if_neg free] at fills
        obtain ⟨taken, took⟩ := takeLimited_of_fills fills
        rw [took]
        exact ⟨_, rfl⟩
    | udp datagram now =>
      simp only [EdgePolicy.limitsOf, enabled, Bool.not_true,
        Bool.false_or] at fills
      simp only [answer, enabled, if_true, decideUdpOrPanic]
      split
      · exact ⟨_, rfl⟩
      · next free =>
        rw [if_neg free] at fills
        obtain ⟨packets, packetsTook⟩ := takeLimited_of_fills
          fun limit member => fills limit (List.mem_append_left _ member)
        obtain ⟨bytes, bytesTook⟩ := takeLimited_of_fills fun limit member =>
            fills limit (List.mem_append_right _ member)
        rw [packetsTook]
        dsimp only [bind, Except.bind]
        split
        · exact ⟨_, rfl⟩
        · rw [bytesTook]
          exact ⟨_, rfl⟩
    | sweep now => exact ⟨_, rfl⟩

theorem answerAll_of_fills (calls : List PolicyCall)
    (fills : ∀ call ∈ calls, ∀ limit ∈ policy.limitsOf call, limit.Fills) :
    ∃ tables, answerAll hasher policy calls = .ok tables := by
  unfold answerAll
  generalize PolicyTables.new = tables
  induction calls generalizing tables with
  | nil => exact ⟨tables, rfl⟩
  | cons call calls ih =>
    obtain ⟨result, answered⟩ : ∃ result,
        answer hasher policy tables call = .ok result :=
      answer_of_fills call (fills call (by simp))
    rw [List.foldlM_cons, answered]
    exact ih (fun later member => fills later (by simp [member])) result.2

/-- The first call that takes from a limit that does not fill up panics. -/
theorem answer_new_of_slow (compiled : PolicyConfig.Compiled policy)
    {call : PolicyCall} {slow : RateLimit}
    (inForce : slow ∈ policy.limitsOf call) (overlong : ¬ slow.Fills) :
    answer hasher policy .new call = .error .durationOutOfRange := by
  have room := compiled.maxEntries_pos
  cases enabled : policy.enabled with
  | false => cases call <;> simp [EdgePolicy.limitsOf, enabled] at inForce
  | true =>
    cases call with
    | http request now =>
      simp only [EdgePolicy.limitsOf, enabled, Bool.not_true,
        Bool.false_or] at inForce
      simp only [answer, enabled, if_true, decideHttpOrPanic]
      split at inForce
      · cases inForce
      · next free =>
        rw [if_neg free, PolicyTables.new,
          takeLimited_new_of_slow room inForce overlong]
        rfl
    | tcp connection now =>
      simp only [EdgePolicy.limitsOf, enabled, Bool.not_true,
        Bool.false_or] at inForce
      simp only [answer, enabled, if_true, decideTcpOrPanic]
      split at inForce
      · cases inForce
      · next free =>
        rw [if_neg free, PolicyTables.new,
          takeLimited_new_of_slow room inForce overlong]
        rfl
    | udp datagram now =>
      simp only [EdgePolicy.limitsOf, enabled, Bool.not_true,
        Bool.false_or] at inForce
      simp only [answer, enabled, if_true, decideUdpOrPanic]
      split at inForce
      · cases inForce
      · next free =>
        rw [if_neg free, PolicyTables.new]
        by_cases fills : ∀ limit ∈ policy.udp.packetRate.toList, limit.Fills
        · obtain ⟨taken, later, took, passed⟩ :=
            takeLimited_new_one room fills fun limit member =>
              compiled.one_le_packetBurst limit (by simpa using member)
          have bytes : slow ∈ policy.udp.byteRate.toList :=
            (List.mem_append.mp inForce).resolve_left fun packets =>
              overlong (fills slow packets)
          rw [took]
          dsimp only [bind, Except.bind]
          split
          · next error => exact absurd rfl (passed error)
          · rw [takeLimited_new_of_slow room bytes overlong]
        · push Not at fills
          obtain ⟨limit, packets, stuck⟩ := fills
          rw [takeLimited_new_of_slow room packets stuck]
          rfl
    | sweep now => cases inForce

/-- No sequence of calls makes the bucket code of an accepted policy panic,
exactly if every limit a call can take from fills up within the range of a
`Duration`. -/
theorem calls_complete_iff {parseNetwork : List Char → Option IpNet}
    {config : PolicyConfig}
    (accepted : config.compile parseNetwork = .ok policy)
    (hasher : PolicyHasher) :
    (∀ calls, ∃ tables, answerAll hasher policy calls = .ok tables) ↔
      ∀ call, ∀ limit ∈ policy.limitsOf call,
        limit.burst / limit.perSecond < 2 ^ 64 := by
  constructor
  · intro complete call limit inForce
    by_contra overlong
    obtain ⟨tables, answered⟩ := complete [call]
    have panics : answer hasher policy .new call = .error .durationOutOfRange :=
      answer_new_of_slow (PolicyConfig.compiled_of_compile accepted) inForce
        overlong
    unfold answerAll at answered
    rw [List.foldlM_cons, panics] at answered
    cases answered
  · intro fills calls
    exact answerAll_of_fills calls fun call _ => fills call

end Completion

/-- A policy section with one limit for HTTP requests. -/
def oneLimit (rate : ℚ) (burst : Nat) : PolicyConfig :=
  { PolicyConfig.default with
    enabled := true
    requestsPerSecond := some rate
    burst := some burst }

/-- What such a section is compiled to. -/
def limitedBy (limit : RateLimit) : EdgePolicy :=
  { enabled := true
    mode := .enforce
    blocked := []
    httpRate := some limit
    key := .tenantHostnameIp
    domains := ∅
    maxEntries := 100000
    idleTtl := (600 : Nat)
    tcp :=
      { connectionRate := none
        maxConcurrentPerIp := none
        maxConcurrentPerListener := none }
    trustedProxies := []
    udp := { packetRate := none, byteRate := none } }

theorem compile_oneLimit {rate : ℚ} {burst : Nat} (rate_pos : 0 < rate)
    (burst_pos : 0 < burst) :
    (oneLimit rate burst).compile (fun _ => none) =
      .ok (limitedBy
        { perSecond := rate
          burst := burst
          perSecond_pos := rate_pos
          burst_pos := Rat.natCast_pos.mpr burst_pos }) := by
  have limit : rateLimit "policy" (some rate) (some burst) = .ok (some
      { perSecond := rate
        burst := burst
        perSecond_pos := rate_pos
        burst_pos := Rat.natCast_pos.mpr burst_pos }) := by
    simp [rateLimit, rate_pos, burst_pos]
  unfold PolicyConfig.compile
  simp only [oneLimit, limit]
  rfl

theorem limitsOf_limitedBy (limit : RateLimit) (request : RequestContext)
    (now : ℚ≥0) :
    (limitedBy limit).limitsOf (.http request now) = [limit] := by
  have unmatched : (limitedBy limit).domain request.hostname = none := by
    unfold CompiledPolicy.domain
    cases Hostname.wildcardFor request.hostname <;> rfl
  have enabled : (limitedBy limit).enabled = true := rfl
  have unblocked : containsIp (limitedBy limit).blocked request.clientIp =
      false := rfl
  have rate : (limitedBy limit).httpRate = some limit := rfl
  simp [EdgePolicy.limitsOf, CompiledPolicy.limitFor, unmatched, enabled,
    unblocked, rate]

def anyHasher : PolicyHasher :=
  { http := fun _ => 0
    tcp := fun _ _ => 0
    udpPackets := fun _ _ => 0
    udpBytes := fun _ _ => 0 }

def firstRequest : PolicyCall :=
  .http { tenantId := "tenant", hostname := "a.example.com"
          clientIp := .v4 1 } 0

theorem calls_complete_hundred :
    ∃ policy, (oneLimit 100 200).compile (fun _ => none) = .ok policy ∧
      ∀ calls, ∃ tables, answerAll anyHasher policy calls = .ok tables := by
  have accepted :=
    compile_oneLimit (show (0 : ℚ) < 100 by norm_num) (show 0 < 200 by norm_num)
  refine ⟨_, accepted, (calls_complete_iff accepted anyHasher).mpr ?_⟩
  intro call limit inForce
  cases call with
  | http request now =>
    rw [limitsOf_limitedBy, List.mem_singleton] at inForce
    rw [inForce]
    norm_num
  | tcp connection now | udp datagram now =>
    simp [EdgePolicy.limitsOf, limitedBy] at inForce
  | sweep now => cases inForce

/-- A rate of one request in `10 ^ 20` seconds is accepted, and the first
request panics. -/
theorem slow_rate_panics :
    ∃ policy, (oneLimit (1 / 10 ^ 20) 1).compile (fun _ => none) =
        .ok policy ∧
      answerAll anyHasher policy [firstRequest] =
        .error .durationOutOfRange := by
  have accepted :=
    compile_oneLimit (show (0 : ℚ) < 1 / 10 ^ 20 by norm_num) Nat.one_pos
  refine ⟨_, accepted, ?_⟩
  unfold answerAll
  rw [List.foldlM_cons,
    answer_new_of_slow (PolicyConfig.compiled_of_compile accepted)
    (by rw [firstRequest, limitsOf_limitedBy]; exact List.mem_singleton_self _)]
  · rfl
  · unfold RateLimit.Fills
    norm_num

end SieveTube
