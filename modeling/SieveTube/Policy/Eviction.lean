import SieveTube.Policy.Headroom
import SieveTube.Policy.Traffic

/-!
# Eviction is invisible

A table that drops idle buckets and refuses new keys when it is full is
compared with one that keeps every bucket for ever.  An evicted bucket is
full at every later moment, so the bucket its key starts with again behaves
like the one that was kept.
-/

namespace SieveTube

/-- A table that never evicts a bucket and never refuses a key. -/
structure KeepingTable where
  buckets : AList fun _ : UInt64 => Bucket

namespace KeepingTable

def new : KeepingTable := { buckets := ∅ }

def take (table : KeepingTable) (key : UInt64) (limit : RateLimit)
    (amount now : ℚ≥0) : Except TakeError Unit × KeepingTable :=
  let bucket := (table.buckets.lookup key).getD (.fresh limit now)
  let taken := bucket.take limit amount now
  (taken.1, { buckets := table.buckets.insert key taken.2 })

end KeepingTable

/-- A take as it was called. -/
structure TableCall where
  key : UInt64
  amount : ℚ≥0
  now : ℚ≥0

/-- The outcomes of a sequence of calls on a table that keeps everything,
and the table they lead to. -/
def KeepingTable.replay (limit : RateLimit) (calls : List TableCall) :
    List (Except TakeError Unit) × KeepingTable :=
  calls.foldl (fun (outcomes, table) call =>
    let taken := table.take call.key limit call.amount call.now
    (outcomes ++ [taken.1], taken.2)) ([], .new)

theorem KeepingTable.replay_concat (limit : RateLimit) (calls : List TableCall)
    (call : TableCall) :
    let (outcomes, table) := KeepingTable.replay limit calls
    let taken := table.take call.key limit call.amount call.now
    KeepingTable.replay limit (calls ++ [call]) =
      (outcomes ++ [taken.1], taken.2) := by
  simp [replay]

/-- A take or a periodic sweep, some time after the event before it. -/
inductive TableEvent where
  | take (elapsed : ℚ≥0) (key : UInt64) (amount : ℚ≥0)
  | sweep (elapsed : ℚ≥0)

/-- The limit of all takes, and how the table is bounded. -/
structure TableBounds where
  limit : RateLimit
  maxEntries : Nat
  idleTtl : ℚ≥0

/-- The events are traffic that uses each clock reading at once. -/
def TableEvent.steps (bounds : TableBounds) : TableEvent → List TrafficStep
  | .take elapsed key amount =>
    Traffic.atOnce elapsed
      (.take key bounds.limit amount bounds.maxEntries bounds.idleTtl)
  | .sweep elapsed => Traffic.atOnce elapsed (.sweep bounds.idleTtl)

/-- A take that was not rejected for capacity. -/
def AppliedUse.served (applied : AppliedUse) :
    Option (TableCall × Except TakeError Unit) :=
  match applied.use, applied.outcome with
  | .sweep _, _ => none
  | .take _ _ _ _ _, .error .capacity => none
  | .take key _ amount _ _, outcome =>
    some ({ key, amount, now := applied.reading }, outcome)

theorem AppliedUse.served_take {reading amount idleTtl : ℚ≥0} {key : UInt64}
    {limit : RateLimit} {maxEntries : Nat} {outcome : Except TakeError Unit}
    (answered : outcome ≠ .error .capacity) :
    AppliedUse.served
        { reading, outcome
          use := .take key limit amount maxEntries idleTtl } =
      some ({ key, amount, now := reading }, outcome) := by
  rcases outcome with (_ | _) | _
  · rfl
  · exact absurd rfl answered
  · rfl

/-- The entry of a key in the evicting table and in the keeping one: the
same, or evicted while it was full. -/
inductive SameEntry (limit : RateLimit) (now : ℚ≥0) :
    Option Bucket → Option Bucket → Prop where
  | same (entry : Option Bucket) : SameEntry limit now entry entry
  | evicted (kept : Bucket) (full : kept.refilled limit now = limit.burst) :
      SameEntry limit now none (some kept)

/-- The evicting table simulates the keeping one. -/
structure Simulates (limit : RateLimit) (idleTtl now : ℚ≥0)
    (table : BucketTable) (keeping : KeepingTable) : Prop where
  entries : ∀ key,
    SameEntry limit now (table.buckets.lookup key) (keeping.buckets.lookup key)
  settled : ∀ key, Settled limit idleTtl now (keeping.buckets.lookup key)

namespace Simulates

variable {limit : RateLimit} {idleTtl now : ℚ≥0} {table : BucketTable}
variable {keeping : KeepingTable}

theorem initial : Simulates limit idleTtl 0 .new .new := by
  constructor
  · intro key
    exact .same _
  · intro key bucket found
    cases found

variable (simulates : Simulates limit idleTtl now table keeping)
include simulates

theorem later {next : ℚ≥0} (passed : now ≤ next) :
    Simulates limit idleTtl next table keeping := by
  constructor
  · intro key
    have entry := simulates.entries key
    revert entry
    generalize table.buckets.lookup key = evicting
    generalize keeping.buckets.lookup key = kept
    intro entry
    cases entry with
    | same => exact .same _
    | evicted kept full =>
      apply SameEntry.evicted
      apply le_antisymm (kept.refilled_le_burst limit next)
      rw [← full]
      exact kept.refilled_mono limit passed
  · intro key
    exact (simulates.settled key).later passed

theorem sweep :
    Simulates limit idleTtl now (table.sweep now idleTtl) keeping := by
  constructor
  · intro key
    rw [BucketTable.lookup_sweep]
    have entry := simulates.entries key
    have settled := simulates.settled key
    revert entry settled
    generalize table.buckets.lookup key = evicting
    generalize keeping.buckets.lookup key = kept
    intro entry settled
    cases entry with
    | evicted kept full => exact .evicted kept full
    | same =>
      cases evicting with
      | none => exact .same _
      | some bucket =>
        by_cases keeps : BucketTable.keeps now idleTtl bucket
        · simp only [Option.filter, keeps, if_true]
          exact .same _
        · have guarded := settled bucket rfl
          simp only [Option.filter, keeps]
          exact .evicted bucket (Bucket.refilled_of_not_keeps guarded.nonneg
            guarded.kept le_rfl keeps)
  · exact simulates.settled

theorem makeRoom (maxEntries : Nat) :
    Simulates limit idleTtl now (table.makeRoom now maxEntries idleTtl)
      keeping := by
  rcases table.makeRoom_buckets now maxEntries idleTtl with same | swept
  · exact ⟨by rw [same]; exact simulates.entries, simulates.settled⟩
  · exact ⟨by rw [swept]; exact simulates.sweep.entries, simulates.settled⟩

theorem insert (key : UInt64) {bucket : Bucket}
    (guarded : Guarded limit idleTtl now bucket) :
    Simulates limit idleTtl now
      { table with buckets := table.buckets.insert key bucket }
      { buckets := keeping.buckets.insert key bucket } := by
  constructor
  · intro target
    simp only [AList.lookup_insert_eq]
    split
    · exact .same _
    · exact simulates.entries target
  · intro target stored found
    simp only [AList.lookup_insert_eq] at found
    split at found
    · cases found
      exact guarded
    · exact simulates.settled target stored found

/-- A take from a bucket that looks to it like the kept one. -/
theorem takeFrom (key : UInt64) {bucket : Bucket} (nonneg : 0 ≤ bucket.tokens)
    (alike : bucket.refilled limit now =
      ((keeping.buckets.lookup key).getD (.fresh limit now)).refilled limit now)
    (amount : ℚ≥0) :
    (table.takeFrom key bucket limit amount now).1 =
      (keeping.take key limit amount now).1 ∧
      Simulates limit idleTtl now (table.takeFrom key bucket limit amount now).2
        (keeping.take key limit amount now).2 := by
  have sameTake := Bucket.take_congr alike amount
  have guarded := guarded_take (limit.covers_self idleTtl) nonneg amount now
  unfold BucketTable.takeFrom KeepingTable.take
  simp only [← sameTake]
  exact ⟨trivial, simulates.insert key guarded⟩

/-- A take is refused for capacity, and the kept table does not see it, or it
ends as it does on the kept table. -/
theorem take (key : UInt64) (amount : ℚ≥0) (maxEntries : Nat) :
    let taken := table.take key limit amount now maxEntries idleTtl
    (taken.1 = .error .capacity ∧ Simulates limit idleTtl now taken.2 keeping) ∨
    (taken.1 ≠ .error .capacity ∧
      taken.1 = (keeping.take key limit amount now).1 ∧
      Simulates limit idleTtl now taken.2
        (keeping.take key limit amount now).2) := by
  intro taken
  have room := simulates.makeRoom maxEntries
  have entry := simulates.entries key
  have settled := simulates.settled key
  rcases table.take_cases key limit amount now maxEntries idleTtl with
    ⟨bucket, found, equality⟩ | ⟨_, _, equality⟩ | ⟨absent, _, equality⟩
  · right
    have kept : keeping.buckets.lookup key = some bucket := by
      rw [found] at entry
      generalize keeping.buckets.lookup key = stored at entry
      cases entry
      rfl
    simp only [taken, equality]
    refine ⟨bucket.take_ne_capacity limit amount now, ?_⟩
    apply simulates.takeFrom key (settled bucket kept).nonneg
    rw [kept, Option.getD_some]
  · left
    simp only [taken, equality]
    exact ⟨trivial, room⟩
  · right
    have alike : (Bucket.fresh limit now).refilled limit now =
        ((keeping.buckets.lookup key).getD (.fresh limit now)).refilled
          limit now := by
      rw [absent] at entry
      generalize keeping.buckets.lookup key = stored at entry
      cases entry with
      | same => rfl
      | evicted kept full => rw [Bucket.refilled_fresh, Option.getD_some, full]
    simp only [taken, equality]
    refine ⟨Bucket.take_ne_capacity _ limit amount now, ?_⟩
    exact room.takeFrom key limit.burst_pos.le alike amount

end Simulates

namespace BucketTable

variable {table : BucketTable} {maxEntries : Nat}

theorem size_makeRoom_le (table : BucketTable) (now : ℚ≥0) (maxEntries : Nat)
    (idleTtl : ℚ≥0) :
    (table.makeRoom now maxEntries idleTtl).buckets.size ≤
      table.buckets.size := by
  rcases table.makeRoom_buckets now maxEntries idleTtl with same | swept
  · rw [same]
  · rw [swept]
    exact AList.size_retain_le _ _

theorem size_take_le (bounded : table.buckets.size ≤ maxEntries)
    (key : UInt64) (limit : RateLimit) (amount now idleTtl : ℚ≥0) :
    (table.take key limit amount now maxEntries idleTtl).2.buckets.size ≤
      maxEntries := by
  have room := table.size_makeRoom_le now maxEntries idleTtl
  rcases table.take_cases key limit amount now maxEntries idleTtl with
    ⟨bucket, found, equality⟩ | ⟨_, _, equality⟩ | ⟨_, free, equality⟩
  · rw [equality]
    simp only [takeFrom, AList.size_insert_of_lookup_eq_some found]
    exact bounded
  · rw [equality]
    exact room.trans bounded
  · rw [equality]
    exact (AList.size_insert_le ..).trans free

theorem take_of_mem {key : UInt64} (present : (table.buckets.lookup key).isSome)
    {limit : RateLimit} {amount now idleTtl : ℚ≥0} :
    (table.take key limit amount now maxEntries idleTtl).1 ≠
      .error .capacity := by
  rcases table.take_cases key limit amount now maxEntries idleTtl with
    ⟨bucket, _, equality⟩ | ⟨absent, _, _⟩ | ⟨absent, _, _⟩
  · rw [equality]
    exact bucket.take_ne_capacity limit amount now
  · rw [absent] at present
    cases present
  · rw [absent] at present
    cases present

end BucketTable

namespace Traffic

/-- The takes that were not rejected for capacity. -/
def served (log : List AppliedUse) :
    List (TableCall × Except TakeError Unit) :=
  log.filterMap AppliedUse.served

theorem served_concat (log : List AppliedUse) (applied : AppliedUse) :
    served (log ++ [applied]) = served log ++ applied.served.toList := by
  cases last : applied.served <;> simp [served, last]

/-- The served takes end as in a table that keeps everything, and the table
is within its bound. -/
structure Faithful (bounds : TableBounds) (traffic : Traffic) : Prop where
  idle : traffic.waiting = []
  outcomes :
    (KeepingTable.replay bounds.limit ((served traffic.log).map Prod.fst)).1 =
      (served traffic.log).map Prod.snd
  simulates : Simulates bounds.limit bounds.idleTtl traffic.clock
    traffic.table
    (KeepingTable.replay bounds.limit ((served traffic.log).map Prod.fst)).2
  bounded : traffic.table.buckets.size ≤ bounds.maxEntries

variable {bounds : TableBounds} {traffic : Traffic}

theorem faithful_start : Faithful bounds start :=
  { idle := rfl
    outcomes := rfl
    simulates := .initial
    bounded := Nat.zero_le _ }

variable (faithful : Faithful bounds traffic)
include faithful

theorem faithful_take (elapsed : ℚ≥0) (key : UInt64) (amount : ℚ≥0) :
    Faithful bounds (Run.after step traffic
      (TableEvent.steps bounds (.take elapsed key amount))) := by
  have simulates := faithful.simulates.later
    (le_self_add : traffic.clock ≤ traffic.clock + elapsed)
  have bounded := BucketTable.size_take_le faithful.bounded key bounds.limit
    amount (traffic.clock + elapsed) bounds.idleTtl
  rw [TableEvent.steps, after_atOnce faithful.idle]
  simp only [BucketTable.use]
  rcases simulates.take key amount bounds.maxEntries with
    ⟨refused, after⟩ | ⟨answered, same, after⟩
  · refine ⟨rfl, ?_, ?_, bounded⟩ <;>
      simp only [refused, served_concat, AppliedUse.served,
        Option.toList_none, List.append_nil]
    · exact faithful.outcomes
    · exact after
  · have replayed := KeepingTable.replay_concat bounds.limit
      ((served traffic.log).map Prod.fst)
      { key, amount, now := traffic.clock + elapsed }
    refine ⟨rfl, ?_, ?_, bounded⟩ <;>
      simp only [served_concat, AppliedUse.served_take answered,
        Option.toList_some, List.map_append, List.map_cons, List.map_nil,
        replayed]
    · rw [faithful.outcomes, same]
    · exact after

theorem faithful_sweep (elapsed : ℚ≥0) :
    Faithful bounds (Run.after step traffic
      (TableEvent.steps bounds (.sweep elapsed))) := by
  have simulates := faithful.simulates.later
    (le_self_add : traffic.clock ≤ traffic.clock + elapsed)
  rw [TableEvent.steps, after_atOnce faithful.idle]
  refine ⟨rfl, ?_, ?_,
      (AList.size_retain_le _ _).trans faithful.bounded⟩ <;>
    simp only [BucketTable.use, served_concat, AppliedUse.served,
      Option.toList_none, List.append_nil]
  · exact faithful.outcomes
  · exact simulates.sweep

end Traffic

theorem Traffic.faithful_run (bounds : TableBounds)
    (events : List TableEvent) :
    Faithful bounds (run (events.flatMap (TableEvent.steps bounds))) := by
  rw [run, Run.after_flatMap]
  apply Run.invariant faithful_start
  intro traffic event faithful
  cases event with
  | take elapsed key amount => exact faithful_take faithful elapsed key amount
  | sweep elapsed => exact faithful_sweep faithful elapsed

/-- Whatever takes and sweeps a table has seen: the takes it did not reject
for capacity ended as they do, by themselves, in a table that keeps every
bucket; it holds at most `maxEntries` buckets; and a key it holds is not
rejected for capacity. -/
theorem eviction_invisible (bounds : TableBounds)
    (events : List TableEvent) :
    let traffic := Traffic.run (events.flatMap (TableEvent.steps bounds))
    let served := Traffic.served traffic.log
    served.map Prod.snd =
        (KeepingTable.replay bounds.limit (served.map Prod.fst)).1 ∧
      traffic.table.buckets.size ≤ bounds.maxEntries ∧
      ∀ key amount now, (traffic.table.buckets.lookup key).isSome →
        (traffic.table.take key bounds.limit amount now bounds.maxEntries
          bounds.idleTtl).1 ≠ .error .capacity := by
  intro traffic served
  have faithful := Traffic.faithful_run bounds events
  refine ⟨faithful.outcomes.symm, faithful.bounded, ?_⟩
  intro key amount now present
  exact BucketTable.take_of_mem present

end SieveTube
