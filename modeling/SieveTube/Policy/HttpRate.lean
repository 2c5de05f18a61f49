import SieveTube.Library.Run
import SieveTube.Policy.Headroom
import SieveTube.Policy.Http

/-!
# The limit of a hostname

Requests and periodic sweeps reach the HTTP buckets one after the other, with
clock readings that never decrease.  The limit in force for a hostname bounds
its requests whenever the limits sharing its bucket are covered by it, which
is always so when every hostname has buckets of its own.
-/

namespace SieveTube

/-- A request or a periodic sweep, some time after the event before it. -/
inductive HttpEvent where
  | request (elapsed : ℚ≥0) (context : RequestContext)
  | sweep (elapsed : ℚ≥0)

/-- A request with the moment and the outcome of its decision. -/
structure Judged where
  moment : ℚ≥0
  context : RequestContext
  decision : Decision

structure HttpHistory where
  clock : ℚ≥0
  buckets : BucketTable
  log : List Judged

namespace HttpHistory

def start : HttpHistory := { clock := 0, buckets := .new, log := [] }

def step (hash : LimitKey → UInt64) (policy : CompiledPolicy)
    (history : HttpHistory) : HttpEvent → HttpHistory
  | .request elapsed context =>
    let now := history.clock + elapsed
    let (decision, buckets) :=
      decideHttp hash policy context now history.buckets
    { clock := now
      buckets
      log := history.log ++ [{ moment := now, context, decision }] }
  | .sweep elapsed =>
    let now := history.clock + elapsed
    { history with
      clock := now
      buckets := history.buckets.sweep now policy.idleTtl }

def run (hash : LimitKey → UInt64) (policy : CompiledPolicy)
    (events : List HttpEvent) : HttpHistory :=
  Run.after (step hash policy) start events

end HttpHistory

/-- The number of requests like `target` that were allowed from `first` to
`last`. -/
def admittedRequests (target : RequestContext) (first last : ℚ≥0)
    (log : List Judged) : Nat :=
  (log.filter fun judged => judged.context = target ∧ judged.decision = .allow ∧
      first ≤ judged.moment ∧ judged.moment ≤ last).length

/-- What a judged request spends of the limit of `target`. -/
def Judged.spending (target : RequestContext)
    (judged : Judged) : Meter.Spending ℚ :=
  { moment := judged.moment
    amount :=
      if judged.context = target then judged.decision.admitted else 0 }

theorem admittedRequests_cons (target : RequestContext) (first last : ℚ≥0)
    (judged : Judged) (log : List Judged) :
    (admittedRequests target first last (judged :: log) : ℚ) =
      (if judged.context = target ∧ judged.decision = .allow ∧
          first ≤ judged.moment ∧ judged.moment ≤ last then 1 else 0) +
        admittedRequests target first last log := by
  unfold admittedRequests
  by_cases counted : judged.context = target ∧ judged.decision = .allow ∧
      first ≤ judged.moment ∧ judged.moment ≤ last
  · rw [List.filter_cons_of_pos (by simpa using counted), if_pos counted]
    simp only [List.length_cons]
    push_cast
    ring
  · rw [List.filter_cons_of_neg (by simpa using counted),
      if_neg counted, zero_add]

theorem admittedRequests_eq_within (target : RequestContext)
    (first last : ℚ≥0) (log : List Judged) :
    (admittedRequests target first last log : ℚ) =
      Meter.within (first : ℚ) last (log.map (Judged.spending target)) := by
  induction log with
  | nil => rfl
  | cons judged log ih =>
    rw [admittedRequests_cons, List.map_cons, Meter.within_cons, ih]
    congr 1
    simp only [Judged.spending, NNRat.coe_le_coe]
    by_cases same : judged.context = target
    · cases judged.decision <;> simp [same, Decision.admitted]
    · simp [same]

/-- A request that uses another bucket than `target`, or whose limit is
covered by the limit of `target`. -/
def Compatible (hash : LimitKey → UInt64) (policy : CompiledPolicy)
    (target : RequestContext) (limit : RateLimit)
    (context : RequestContext) : Prop :=
  hash (policy.limitKey context) = hash (policy.limitKey target) →
    ∀ other, policy.limitFor context.hostname = some other →
      limit.Covers other policy.idleTtl

def AllCompatible (hash : LimitKey → UInt64) (policy : CompiledPolicy)
    (target : RequestContext) (limit : RateLimit)
    (events : List HttpEvent) : Prop :=
  ∀ elapsed context, .request elapsed context ∈ events →
    Compatible hash policy target limit context

namespace HttpHistory

/-- The requests like `target` are accounted for by the headroom its bucket
has left. -/
def Balanced (hash : LimitKey → UInt64) (policy : CompiledPolicy)
    (target : RequestContext) (limit : RateLimit)
    (history : HttpHistory) : Prop :=
  Account limit policy.idleTtl (hash (policy.limitKey target))
    history.buckets (history.log.map (Judged.spending target)) history.clock

variable {hash : LimitKey → UInt64} {policy : CompiledPolicy}
variable {target : RequestContext} {limit : RateLimit}
variable {history : HttpHistory}

theorem balanced_sweep (balanced : Balanced hash policy target limit history)
    (elapsed : ℚ≥0) :
    Balanced hash policy target limit
      (step hash policy history (.sweep elapsed)) := by
  have later : history.clock ≤ history.clock + elapsed := le_self_add
  have swept := Account.sweep balanced (history.clock + elapsed) le_rfl
  rwa [max_eq_right later] at swept

variable (inForce : policy.limitFor target.hostname = some limit)
include inForce

/-- Judging a request leaves the bucket of `target` with no more headroom
than it had, less what the request was handed. -/
theorem headroom_decideHttp {context : RequestContext}
    (compatible : Compatible hash policy target limit context)
    {now : ℚ≥0} {buckets : BucketTable}
    (settled : Settled limit policy.idleTtl now
      (buckets.buckets.lookup (hash (policy.limitKey target)))) :
    let judged := decideHttp hash policy context now buckets
    let entry := judged.2.buckets.lookup (hash (policy.limitKey target))
    Settled limit policy.idleTtl now entry ∧ headroom limit now entry +
          (if context = target then judged.1.admitted else 0) ≤
        headroom limit now (buckets.buckets.lookup
          (hash (policy.limitKey target))) := by
  intro judged entry
  rcases decideHttp_cases hash policy context now buckets with
    ⟨same, refused⟩ | ⟨same, unlimited⟩ | ⟨other, otherInForce, taken, handed⟩
  · have nothing : (if context = target then judged.1.admitted else 0) = 0 := by
      split
      · exact refused
      · rfl
    rw [nothing, add_zero]
    simp only [entry, judged, same]
    exact ⟨settled, le_refl _⟩
  · have different : context ≠ target := by
      rintro rfl
      rw [unlimited] at inForce
      cases inForce
    rw [if_neg different, add_zero]
    simp only [entry, judged, same]
    exact ⟨settled, le_refl _⟩
  · have covers : hash (policy.limitKey context) =
        hash (policy.limitKey target) → limit.Covers other policy.idleTtl :=
      fun sameBucket => compatible sameBucket other otherInForce
    simp only [entry, judged, taken, handed]
    refine ⟨BucketTable.settled_take settled covers le_rfl 1
      policy.maxEntries policy.idleTtl, ?_⟩
    split
    · next same =>
      subst same
      rw [inForce] at otherInForce
      cases otherInForce
      exact BucketTable.headroom_take_self settled le_rfl 1 policy.maxEntries
    · rw [add_zero]
      exact BucketTable.headroom_take_le settled covers le_rfl (fun _ => rfl)
        le_rfl 1 policy.maxEntries

theorem balanced_request (balanced : Balanced hash policy target limit history)
    {context : RequestContext}
    (compatible : Compatible hash policy target limit context)
    (elapsed : ℚ≥0) :
    Balanced hash policy target limit
      (step hash policy history (.request elapsed context)) := by
  have later : history.clock ≤ history.clock + elapsed := le_self_add
  obtain ⟨after, paid⟩ :=
    headroom_decideHttp inForce compatible (balanced.settled.later later)
  simp only [Balanced, step, List.map_append, List.map_cons, List.map_nil]
  exact Account.spend balanced later after paid

/-- The account can be given as long as all requests were compatible. -/
def Accounted (hash : LimitKey → UInt64) (policy : CompiledPolicy)
    (target : RequestContext) (limit : RateLimit)
    (events : List HttpEvent) (history : HttpHistory) : Prop :=
  AllCompatible hash policy target limit events →
    Balanced hash policy target limit history

theorem accounted_step {events : List HttpEvent}
    (accounted : Accounted hash policy target limit events history)
    (event : HttpEvent) :
    Accounted hash policy target limit (events ++ [event])
      (step hash policy history event) := by
  intro compatible
  have balanced := accounted fun elapsed context member =>
    compatible elapsed context (List.mem_append_left _ member)
  cases event with
  | request elapsed context =>
    have own := compatible elapsed context (by simp)
    exact balanced_request inForce balanced own elapsed
  | sweep elapsed => exact balanced_sweep balanced elapsed

theorem accounted_run (events : List HttpEvent) :
    Accounted hash policy target limit events (run hash policy events) := by
  have initial : Accounted hash policy target limit [] start :=
    fun _ => Account.start
  apply Run.history_invariant initial
  intro earlier event accounted
  exact accounted_step inForce accounted event

end HttpHistory

/-- The number of requests of one tenant, hostname and client that are
allowed in a window of any length is bounded by the limit in force for the
hostname, provided that limit covers the limits of all requests that share
its bucket. -/
theorem admittedRequests_le_of_compatible (hash : LimitKey → UInt64)
    (policy : CompiledPolicy) (events : List HttpEvent)
    (target : RequestContext) (limit : RateLimit)
    (inForce : policy.limitFor target.hostname = some limit)
    (compatible : AllCompatible hash policy target limit events)
    (first length : ℚ≥0) :
    (admittedRequests target first (first + length)
      (HttpHistory.run hash policy events).log : ℚ) ≤
      limit.burst + limit.perSecond * length := by
  have balanced := HttpHistory.accounted_run inForce events compatible
  rw [admittedRequests_eq_within]
  exact balanced.within_le first length

/-- One global limit and one bucket for each client. -/
def globalLimit : CompiledPolicy :=
  { enabled := true
    mode := .enforce
    blocked := []
    httpRate := some (.whole 1 1)
    key := .clientIp
    domains := ∅
    maxEntries := 4
    idleTtl := 600 }

theorem globalLimit_limitFor (hostname : String) :
    globalLimit.limitFor hostname = some (.whole 1 1) := by
  have domain : globalLimit.domain hostname = none := by
    cases wildcard : Hostname.wildcardFor hostname <;>
      simp [CompiledPolicy.domain, globalLimit, wildcard]
  simp only [CompiledPolicy.limitFor, domain, Option.bind_none]
  rfl

theorem admittedRequests_le_of_compatible_global :
    let request : RequestContext :=
      { tenantId := "t", hostname := "a.example.com", clientIp := .v4 1 }
    let events : List HttpEvent :=
      [.request 0 request, .request (1 / 2) request, .request (1 / 2) request]
    let history := HttpHistory.run (fun _ => 7) globalLimit events
    admittedRequests request 0 1 history.log = 2 ∧
      (admittedRequests request 0 (0 + 1) history.log : ℚ) ≤
        (RateLimit.whole 1 1).burst +
          (RateLimit.whole 1 1).perSecond * (1 : ℚ≥0) := by
  intro request events history
  have compatible : AllCompatible (fun _ => 7) globalLimit request
      (.whole 1 1) events := by
    intro elapsed context member sameBucket other inForce
    rw [globalLimit_limitFor] at inForce
    cases inForce
    exact RateLimit.covers_self _ _
  exact ⟨by decide +kernel,
    admittedRequests_le_of_compatible (fun _ => 7) globalLimit events request
      (.whole 1 1) (globalLimit_limitFor _) compatible 0 1⟩

/-- One bucket for each client, and two domains with limits of their own. -/
def sharedBucket : CompiledPolicy :=
  { globalLimit with
    httpRate := none
    domains :=
      ((∅ : AList fun _ : String => CompiledDomain).insert "slow.example.com"
        { mode := none, blocked := [], httpRate := some (.whole 1 1) }).insert
      "fast.example.com"
        { mode := none, blocked := [], httpRate := some (.whole 100 100) } }

/-- A request for the other domain refills the shared bucket at the rate of
that domain, and the next request for the slow one spends the refill. -/
theorem slow_hostname_exceeds_its_limit :
    let slow : RequestContext :=
      { tenantId := "t", hostname := "slow.example.com", clientIp := .v4 1 }
    let fast : RequestContext := { slow with hostname := "fast.example.com" }
    let events : List HttpEvent :=
      [.request 0 slow, .request (1 / 20) fast, .request (1 / 20) slow]
    let history := HttpHistory.run (fun _ => 7) sharedBucket events
    sharedBucket.limitFor "slow.example.com" = some (.whole 1 1) ∧
      ¬ (admittedRequests slow 0 (0 + 1 / 10) history.log : ℚ) ≤
        (RateLimit.whole 1 1).burst +
          (RateLimit.whole 1 1).perSecond * (1 / 10 : ℚ≥0) := by
  decide +kernel

end SieveTube
