import SieveTube.Library.Meter
import SieveTube.Policy.Bucket

/-!
# The headroom of a key

The headroom of a key under a limit is what a take at a given moment could
get: the refilled tokens of its bucket, or a full burst when it has none.
Takes and sweeps never create headroom, as long as the other limits used with
the bucket do not refill it faster and do not let it be evicted earlier.
-/

namespace SieveTube

/-- What a key could get at a moment. -/
def headroom (limit : RateLimit) (moment : ℚ≥0) : Option Bucket → ℚ
  | none => limit.burst
  | some bucket => bucket.refilled limit moment

/-- A limit that may share a bucket with `limit` without loosening it. -/
structure RateLimit.Covers (limit other : RateLimit)
    (idleTtl : ℚ≥0) : Prop where
  slower : other.perSecond ≤ limit.perSecond
  keptLonger : limit.fillTime ≤ max other.fillTime idleTtl

/-- What holds of an entry that was only used with covered limits. -/
structure Guarded (limit : RateLimit) (idleTtl moment : ℚ≥0)
    (bucket : Bucket) : Prop where
  nonneg : 0 ≤ bucket.tokens
  updated : bucket.updated ≤ moment
  kept : limit.fillTime ≤ max bucket.fullAfter idleTtl

theorem RateLimit.covers_self (limit : RateLimit) (idleTtl : ℚ≥0) :
    limit.Covers limit idleTtl :=
  ⟨le_refl _, le_max_left _ _⟩

theorem RateLimit.burst_le_fillTime (limit : RateLimit) {elapsed : ℚ≥0}
    (long : limit.fillTime ≤ elapsed) :
    limit.burst ≤ elapsed * limit.perSecond := by
  have ratio : limit.burst / limit.perSecond ≤ elapsed :=
    Rat.toNNRat_le_iff_le_coe.mp long
  exact (div_le_iff₀ limit.perSecond_pos).mp ratio

theorem headroom_le_burst {limit : RateLimit} {moment : ℚ≥0}
    {entry : Option Bucket} : headroom limit moment entry ≤ limit.burst := by
  cases entry with
  | none => exact le_refl _
  | some bucket => exact bucket.refilled_le_burst limit moment

/-- Headroom grows with time no faster than the limit's rate. -/
theorem headroom_later (limit : RateLimit) {moment now : ℚ≥0}
    (later : moment ≤ now) {entry : Option Bucket}
    (updated : ∀ bucket, entry = some bucket → bucket.updated ≤ moment) :
    headroom limit now entry ≤
      headroom limit moment entry + limit.perSecond * (now - moment) := by
  have growth : 0 ≤ limit.perSecond * ((now : ℚ) - moment) := by
    apply mul_nonneg limit.perSecond_pos.le
    exact sub_nonneg.mpr (NNRat.coe_le_coe.mpr later)
  cases entry with
  | none =>
    simp only [headroom]
    linarith
  | some bucket =>
    have before := updated bucket rfl
    have elapsed : ((now - bucket.updated : ℚ≥0) : ℚ) =
        (moment - bucket.updated : ℚ≥0) + ((now : ℚ) - moment) := by
      rw [NNRat.coe_sub (before.trans later), NNRat.coe_sub before]
      ring
    simp only [headroom, Bucket.refilled, elapsed]
    rw [← min_add_add_right]
    apply min_le_min
    · linarith
    · linarith

theorem headroom_nonneg {limit : RateLimit} {moment : ℚ≥0}
    {entry : Option Bucket}
    (nonneg : ∀ bucket, entry = some bucket → 0 ≤ bucket.tokens) :
    0 ≤ headroom limit moment entry := by
  cases entry with
  | none => exact limit.burst_pos.le
  | some bucket => exact Bucket.refilled_nonneg (nonneg bucket rfl) _ _

namespace Bucket

theorem refilled_now {bucket : Bucket} {limit : RateLimit} {now : ℚ≥0}
    (current : bucket.updated = now) :
    bucket.refilled limit now = min bucket.tokens limit.burst := by
  simp [refilled, current]

/-- A take under a covered limit creates no headroom. -/
theorem refilled_take_le {limit other : RateLimit} {idleTtl : ℚ≥0}
    (covers : limit.Covers other idleTtl) (bucket : Bucket)
    {amount now : ℚ≥0} :
    (bucket.take other amount now).2.refilled limit now ≤
      bucket.refilled limit now := by
  rw [refilled_now (take_updated ..)]
  apply min_le_min _ (le_refl _)
  have moved := bucket.take_tokens other amount now
  have handed := granted_nonneg (bucket.take other amount now).1 amount
  have slower : ((now - bucket.updated : ℚ≥0) : ℚ) * other.perSecond ≤
      (now - bucket.updated : ℚ≥0) * limit.perSecond :=
    mul_le_mul_of_nonneg_left covers.slower (NNRat.cast_nonneg _)
  have atMost : bucket.refilled other now ≤
      bucket.tokens + (now - bucket.updated : ℚ≥0) * other.perSecond :=
    min_le_left _ _
  linarith

/-- A take under the limit itself lowers the headroom by what it hands
out. -/
theorem refilled_take_self (limit : RateLimit) (bucket : Bucket)
    (amount now : ℚ≥0) :
    (bucket.take limit amount now).2.refilled limit now +
        granted (bucket.take limit amount now).1 amount =
      bucket.refilled limit now := by
  have moved := bucket.take_tokens limit amount now
  have handed := granted_nonneg (bucket.take limit amount now).1 amount
  have atMost := bucket.refilled_le_burst limit now
  have below : (bucket.take limit amount now).2.tokens ≤ limit.burst := by
    linarith
  rw [refilled_now (take_updated ..), min_eq_left below]
  exact moved

theorem refilled_fresh (limit : RateLimit) (now : ℚ≥0) :
    (fresh limit now).refilled limit now = limit.burst := by
  have current : (fresh limit now).updated = now := rfl
  rw [refilled_now current]
  exact min_self _

theorem refilled_of_not_keeps {limit : RateLimit} {idleTtl ttl now : ℚ≥0}
    {bucket : Bucket} (nonneg : 0 ≤ bucket.tokens)
    (kept : limit.fillTime ≤ max bucket.fullAfter idleTtl)
    (longer : idleTtl ≤ ttl)
    (dropped : ¬ BucketTable.keeps now ttl bucket) :
    bucket.refilled limit now = limit.burst := by
  have idle : max bucket.fullAfter ttl ≤ now - bucket.updated := by
    simpa [BucketTable.keeps] using dropped
  have filled := limit.burst_le_fillTime
    ((kept.trans (max_le_max_left _ longer)).trans idle)
  apply min_eq_right
  linarith

end Bucket

/-- Every bucket stored for a key is guarded. -/
def Settled (limit : RateLimit) (idleTtl moment : ℚ≥0)
    (entry : Option Bucket) : Prop :=
  ∀ bucket, entry = some bucket → Guarded limit idleTtl moment bucket

theorem Settled.later {limit : RateLimit} {idleTtl moment now : ℚ≥0}
    {entry : Option Bucket} (settled : Settled limit idleTtl moment entry)
    (later : moment ≤ now) : Settled limit idleTtl now entry := by
  intro bucket found
  have guarded := settled bucket found
  exact ⟨guarded.nonneg, guarded.updated.trans later, guarded.kept⟩

theorem guarded_take {limit other : RateLimit} {idleTtl : ℚ≥0}
    (covers : limit.Covers other idleTtl) {bucket : Bucket}
    (nonneg : 0 ≤ bucket.tokens) (amount now : ℚ≥0) :
    Guarded limit idleTtl now (bucket.take other amount now).2 := by
  constructor
  · exact Bucket.take_tokens_nonneg nonneg
  · rw [Bucket.take_updated]
  · rw [Bucket.take_fullAfter]
    exact covers.keptLonger

namespace BucketTable

variable {limit other : RateLimit} {idleTtl ttl reading now : ℚ≥0}
variable {table : BucketTable} {key taken : UInt64}

section

variable (settled : Settled limit idleTtl now (table.buckets.lookup key))
include settled

theorem settled_sweep (reading ttl : ℚ≥0) :
    Settled limit idleTtl now
      ((table.sweep reading ttl).buckets.lookup key) := by
  intro bucket found
  rw [lookup_sweep, Option.filter_eq_some_iff] at found
  exact settled bucket found.1

theorem settled_makeRoom (reading ttl : ℚ≥0) (maxEntries : Nat) :
    Settled limit idleTtl now
      ((table.makeRoom reading maxEntries ttl).buckets.lookup key) := by
  rcases table.makeRoom_buckets reading maxEntries ttl with same | swept
  · rw [same]
    exact settled
  · rw [swept]
    exact settled_sweep settled reading ttl

section

variable (past : reading ≤ now) (longer : idleTtl ≤ ttl)
include past longer

/-- A sweep drops a bucket only when the key has its full burst anyway. -/
theorem headroom_sweep :
    headroom limit now ((table.sweep reading ttl).buckets.lookup key) =
      headroom limit now (table.buckets.lookup key) := by
  rw [lookup_sweep]
  cases found : table.buckets.lookup key with
  | none => rfl
  | some bucket =>
    have guarded := settled bucket found
    by_cases kept : keeps reading ttl bucket
    · simp [Option.filter, kept]
    · have full : bucket.refilled limit now = limit.burst := by
        apply le_antisymm (bucket.refilled_le_burst limit now)
        rw [← Bucket.refilled_of_not_keeps guarded.nonneg guarded.kept
          longer kept]
        exact bucket.refilled_mono limit past
      simp [Option.filter, kept, headroom, full]

theorem headroom_makeRoom (maxEntries : Nat) :
    headroom limit now
        ((table.makeRoom reading maxEntries ttl).buckets.lookup key) =
      headroom limit now (table.buckets.lookup key) := by
  rcases table.makeRoom_buckets reading maxEntries ttl with same | swept
  · rw [same]
  · rw [swept]
    exact headroom_sweep settled past longer

end

section

variable (covers : taken = key → limit.Covers other idleTtl)
variable (past : reading ≤ now)
include covers past

theorem settled_takeFrom {bucket : Bucket}
    (nonneg : taken = key → 0 ≤ bucket.tokens) (amount : ℚ≥0) :
    Settled limit idleTtl now
      ((table.takeFrom taken bucket other amount reading).2.buckets.lookup
        key) := by
  intro stored found
  rw [lookup_takeFrom] at found
  split at found
  · next same =>
    cases found
    have guarded := guarded_take (covers same.symm) (nonneg same.symm)
      amount reading
    exact ⟨guarded.nonneg, guarded.updated.trans past, guarded.kept⟩
  · exact settled stored found

/-- Takes under covered limits keep the entry of a key guarded, whichever
key they are on. -/
theorem settled_take (amount : ℚ≥0) (maxEntries : Nat) (ttl : ℚ≥0) :
    Settled limit idleTtl now
      ((table.take taken other amount reading maxEntries
        ttl).2.buckets.lookup key) := by
  have room := settled_makeRoom settled reading ttl maxEntries
  rcases table.take_cases taken other amount reading maxEntries ttl with
    ⟨bucket, found, equality⟩ | ⟨_, _, equality⟩ | ⟨_, _, equality⟩
  · rw [equality]
    apply settled_takeFrom settled covers past
    rintro rfl
    exact (settled bucket found).nonneg
  · rw [equality]
    exact room
  · rw [equality]
    apply settled_takeFrom room covers past
    intro _
    exact other.burst_pos.le

/-- Takes under covered limits create no headroom. -/
theorem headroom_take_le (current : taken = key → reading = now)
    (longer : idleTtl ≤ ttl) (amount : ℚ≥0) (maxEntries : Nat) :
    headroom limit now
        ((table.take taken other amount reading maxEntries
          ttl).2.buckets.lookup key) ≤
      headroom limit now (table.buckets.lookup key) := by
  have room := headroom_makeRoom settled past longer maxEntries
  rcases table.take_cases taken other amount reading maxEntries ttl with
    ⟨bucket, found, equality⟩ | ⟨_, _, equality⟩ | ⟨absent, _, equality⟩
  · rw [equality, lookup_takeFrom]
    split
    · next same =>
      subst same
      obtain rfl := current rfl
      rw [found]
      exact bucket.refilled_take_le (covers rfl)
    · exact le_refl _
  · rw [equality]
    exact room.le
  · rw [equality, lookup_takeFrom]
    split
    · next same =>
      subst same
      rw [absent]
      exact headroom_le_burst
    · exact room.le

end

/-- A take under the limit itself lowers the headroom of its key by what it
hands out. -/
theorem headroom_take_self (longer : idleTtl ≤ ttl) (amount : ℚ≥0)
    (maxEntries : Nat) :
    headroom limit now
          ((table.take key limit amount now maxEntries
            ttl).2.buckets.lookup key) +
        Bucket.granted (table.take key limit amount now maxEntries ttl).1
          amount ≤
      headroom limit now (table.buckets.lookup key) := by
  rcases table.take_cases key limit amount now maxEntries ttl with
    ⟨bucket, found, equality⟩ | ⟨_, _, equality⟩ | ⟨absent, _, equality⟩
  · rw [equality, lookup_takeFrom, if_pos rfl, found]
    exact (bucket.refilled_take_self limit amount now).le
  · rw [equality]
    have room := headroom_makeRoom settled le_rfl longer maxEntries
    simp only [Bucket.granted, add_zero]
    exact room.le
  · rw [equality, lookup_takeFrom, if_pos rfl, absent]
    have whole := (Bucket.fresh limit now).refilled_take_self limit amount now
    rw [Bucket.refilled_fresh] at whole
    exact whole.le

end

end BucketTable

/-- What was handed out is accounted for by the headroom a key has left. -/
structure Account (limit : RateLimit) (idleTtl : ℚ≥0) (key : UInt64)
    (table : BucketTable) (spent : List (Meter.Spending ℚ))
    (moment : ℚ≥0) : Prop where
  settled : Settled limit idleTtl moment (table.buckets.lookup key)
  metered : Meter.Metered limit.perSecond limit.burst spent
    (headroom limit moment (table.buckets.lookup key)) moment

namespace Account

variable {limit other : RateLimit} {idleTtl ttl moment now : ℚ≥0}
variable {key taken : UInt64} {table next : BucketTable}
variable {spent : List (Meter.Spending ℚ)}

theorem start : Account limit idleTtl key .new [] 0 := by
  constructor
  · intro bucket found
    cases found
  · exact .start _ _ limit.burst_pos.le (le_refl _)

variable (account : Account limit idleTtl key table spent moment)
include account

/-- An operation that lowers the headroom by what it hands out is accounted
for. -/
theorem spend (later : moment ≤ now)
    (after : Settled limit idleTtl now (next.buckets.lookup key))
    {amount : ℚ}
    (paid : headroom limit now (next.buckets.lookup key) + amount ≤
      headroom limit now (table.buckets.lookup key)) :
    Account limit idleTtl key next
      (spent ++ [{ moment := (now : ℚ), amount }]) now := by
  have growth := headroom_later limit later fun bucket found =>
    (account.settled bucket found).updated
  refine ⟨after, .spend _ _ account.metered ?_ ?_ ?_ ?_⟩
  · exact NNRat.coe_le_coe.mpr later
  · exact headroom_nonneg fun bucket found => (after bucket found).nonneg
  · exact paid.trans (headroom_le_burst ..)
  · exact paid.trans growth

theorem wait (later : moment ≤ now)
    (after : Settled limit idleTtl now (next.buckets.lookup key))
    (free : headroom limit now (next.buckets.lookup key) ≤
      headroom limit now (table.buckets.lookup key)) :
    Account limit idleTtl key next spent now := by
  have growth := headroom_later limit later fun bucket found =>
    (account.settled bucket found).updated
  refine ⟨after, .wait _ _ account.metered ?_ ?_ ?_ ?_⟩
  · exact NNRat.coe_le_coe.mpr later
  · exact headroom_nonneg fun bucket found => (after bucket found).nonneg
  · exact headroom_le_burst ..
  · exact free.trans growth

/-- A sweep may come with any clock reading. -/
theorem sweep (reading : ℚ≥0) (longer : idleTtl ≤ ttl) :
    Account limit idleTtl key (table.sweep reading ttl) spent
      (max moment reading) := by
  have settled := account.settled.later (le_max_left moment reading)
  exact account.wait (le_max_left ..)
    (BucketTable.settled_sweep settled reading ttl)
    (BucketTable.headroom_sweep settled (le_max_right ..) longer).le

/-- So may the take of another key; another take of the same key must not
come with an older one. -/
theorem take_other (covers : taken = key → limit.Covers other idleTtl)
    {reading : ℚ≥0} (current : taken = key → moment ≤ reading)
    (longer : idleTtl ≤ ttl) {amount : ℚ≥0} {maxEntries : Nat} :
    Account limit idleTtl key
      (table.take taken other amount reading maxEntries ttl).2 spent
      (max moment reading) := by
  have settled := account.settled.later (le_max_left moment reading)
  have past := le_max_right moment reading
  have newest : taken = key → reading = max moment reading :=
    fun same => (max_eq_right (current same)).symm
  exact account.wait (le_max_left ..)
    (BucketTable.settled_take settled covers past amount maxEntries ttl)
    (BucketTable.headroom_take_le settled covers past newest longer amount
      maxEntries)

theorem take_self {reading : ℚ≥0} (later : moment ≤ reading)
    (longer : idleTtl ≤ ttl) (amount : ℚ≥0) (maxEntries : Nat) :
    let taken := table.take key limit amount reading maxEntries ttl
    Account limit idleTtl key taken.2
      (spent ++ [{ moment := (reading : ℚ)
                   amount := Bucket.granted taken.1 amount }]) reading := by
  have settled := account.settled.later later
  exact account.spend later
    (BucketTable.settled_take settled (fun _ => limit.covers_self _) le_rfl
      amount maxEntries ttl)
    (BucketTable.headroom_take_self settled longer amount maxEntries)

theorem within_le (first length : ℚ≥0) :
    Meter.within (first : ℚ) ((first + length : ℚ≥0) : ℚ) spent ≤
      limit.burst + limit.perSecond * length := by
  have window : (first : ℚ) ≤ ((first + length : ℚ≥0) : ℚ) :=
    NNRat.coe_le_coe.mpr le_self_add
  have bound := account.metered.within_le limit.perSecond_pos.le
    limit.burst_pos.le window
  rwa [NNRat.coe_add, add_sub_cancel_left] at bound

end Account

end SieveTube
