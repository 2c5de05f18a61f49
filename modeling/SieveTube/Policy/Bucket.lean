import Mathlib.Algebra.Order.Floor.Semiring
import Mathlib.Data.NNRat.Floor
import Mathlib.Data.PNat.Basic
import Mathlib.Tactic.Linarith
import Mathlib.Tactic.FieldSimp
import SieveTube.Library.KeyedMap

/-!
# Token buckets

Durations and token counts are exact rationals.  A duration is never
negative, so the subtraction of durations saturates at zero as in the
source, and the amounts taken are not negative either.
-/

namespace SieveTube

/-- A limit that passed the checks of the configuration. -/
structure RateLimit where
  perSecond : ℚ
  burst : ℚ
  perSecond_pos : 0 < perSecond
  burst_pos : 0 < burst
deriving DecidableEq

/-- A limit in whole requests. -/
def RateLimit.whole (perSecond burst : ℕ+) : RateLimit :=
  { perSecond := (perSecond : ℕ)
    burst := (burst : ℕ)
    perSecond_pos := Nat.cast_pos.mpr perSecond.pos
    burst_pos := Nat.cast_pos.mpr burst.pos }

structure Bucket where
  tokens : ℚ
  updated : ℚ≥0
  fullAfter : ℚ≥0

inductive TakeError where
  | limited (waitSecs : ℚ)
  | capacity
deriving DecidableEq

/-- How long an empty bucket takes to fill up. -/
def RateLimit.fillTime (limit : RateLimit) : ℚ≥0 :=
  (limit.burst / limit.perSecond).toNNRat

namespace Bucket

/-- The tokens of a bucket at `now`, before anything is taken. -/
def refilled (bucket : Bucket) (limit : RateLimit) (now : ℚ≥0) : ℚ :=
  min (bucket.tokens + (now - bucket.updated : ℚ≥0) * limit.perSecond)
    limit.burst

def take (bucket : Bucket) (limit : RateLimit) (amount now : ℚ≥0) :
    Except TakeError Unit × Bucket :=
  let tokens := bucket.refilled limit now
  if amount ≤ tokens then
    (.ok (), { tokens := tokens - amount
               updated := now
               fullAfter := limit.fillTime })
  else
    (.error (.limited ((amount - tokens) / limit.perSecond)),
      { tokens, updated := now, fullAfter := limit.fillTime })

variable (bucket : Bucket) (limit : RateLimit) (amount now : ℚ≥0)

@[simp]
theorem take_updated : (bucket.take limit amount now).2.updated = now := by
  unfold take
  simp only
  split <;> rfl

@[simp]
theorem take_fullAfter :
    (bucket.take limit amount now).2.fullAfter = limit.fillTime := by
  unfold take
  simp only
  split <;> rfl

/-- The amount a take hands out. -/
def granted (outcome : Except TakeError Unit) (amount : ℚ≥0) : ℚ :=
  match outcome with
  | .ok _ => amount
  | .error _ => 0

theorem take_tokens :
    (bucket.take limit amount now).2.tokens +
      granted (bucket.take limit amount now).1 amount =
      bucket.refilled limit now := by
  unfold take
  simp only
  split
  · exact sub_add_cancel _ _
  · exact add_zero _

theorem take_congr {bucket other : Bucket} {limit : RateLimit} {now : ℚ≥0}
    (same : bucket.refilled limit now = other.refilled limit now)
    (amount : ℚ≥0) :
    bucket.take limit amount now = other.take limit amount now := by
  unfold take
  rw [same]

theorem take_ne_capacity :
    (bucket.take limit amount now).1 ≠ .error .capacity := by
  unfold take
  simp only
  split <;> simp

theorem granted_nonneg (outcome : Except TakeError Unit) (amount : ℚ≥0) :
    0 ≤ granted outcome amount := by
  cases outcome with
  | ok _ => exact amount.cast_nonneg
  | error _ => exact le_refl _

theorem refilled_nonneg {bucket : Bucket} (nonneg : 0 ≤ bucket.tokens)
    (limit : RateLimit) (now : ℚ≥0) : 0 ≤ bucket.refilled limit now := by
  apply le_min _ limit.burst_pos.le
  have growth : 0 ≤ ((now - bucket.updated : ℚ≥0) : ℚ) * limit.perSecond :=
    mul_nonneg (NNRat.cast_nonneg _) limit.perSecond_pos.le
  linarith

theorem refilled_mono
    {now later : ℚ≥0} (passed : now ≤ later) :
    bucket.refilled limit now ≤ bucket.refilled limit later := by
  apply min_le_min _ (le_refl _)
  have longer : ((now - bucket.updated : ℚ≥0) : ℚ) ≤
      (later - bucket.updated : ℚ≥0) :=
    NNRat.coe_le_coe.mpr (tsub_le_tsub_right passed _)
  have growth := mul_le_mul_of_nonneg_right longer limit.perSecond_pos.le
  linarith

theorem take_tokens_nonneg {bucket : Bucket} (nonneg : 0 ≤ bucket.tokens)
    {limit : RateLimit} {amount now : ℚ≥0} :
    0 ≤ (bucket.take limit amount now).2.tokens := by
  unfold take
  simp only
  split
  · next enough => exact sub_nonneg.mpr enough
  · exact refilled_nonneg nonneg limit now

theorem refilled_le_burst : bucket.refilled limit now ≤ limit.burst :=
  min_le_right _ _

/-- The bucket a new key starts with. -/
def fresh (limit : RateLimit) (now : ℚ≥0) : Bucket :=
  { tokens := limit.burst, updated := now, fullAfter := 0 }

end Bucket

/-- Buckets by the hash of their limit key, with the clock time in
milliseconds from which a full table may be swept again. -/
structure BucketTable where
  buckets : AList fun _ : UInt64 => Bucket
  nextFullSweepMs : Nat

namespace BucketTable

def new : BucketTable := { buckets := ∅, nextFullSweepMs := 0 }

def fullSweepIntervalMs : Nat := 1000

def maxMs : Nat := 2 ^ 64 - 1

/-- Whether the full table may be swept now, at most once per interval. -/
def claimFullSweep (table : BucketTable) (now : ℚ≥0) : Bool × BucketTable :=
  let nowMs := min ⌊now * 1000⌋₊ maxMs
  if table.nextFullSweepMs ≤ nowMs then
    (true, { table with
      nextFullSweepMs := min (nowMs + fullSweepIntervalMs) maxMs })
  else (false, table)

/-- Whether a sweep keeps a bucket. -/
def keeps (now idleTtl : ℚ≥0) (bucket : Bucket) : Bool :=
  now - bucket.updated < max bucket.fullAfter idleTtl

def sweep (table : BucketTable) (now idleTtl : ℚ≥0) : BucketTable :=
  { table with buckets := table.buckets.retain fun _ => keeps now idleTtl }

/-- Make room for a new key if the table is full and may be swept. -/
def makeRoom (table : BucketTable) (now : ℚ≥0) (maxEntries : Nat)
    (idleTtl : ℚ≥0) : BucketTable :=
  if maxEntries ≤ table.buckets.size then
    match table.claimFullSweep now with
    | (true, claimed) => claimed.sweep now idleTtl
    | (false, claimed) => claimed
  else table

/-- Store the bucket that `Bucket.take` leaves behind. -/
def takeFrom (table : BucketTable) (key : UInt64) (bucket : Bucket)
    (limit : RateLimit) (amount now : ℚ≥0) :
    Except TakeError Unit × BucketTable :=
  let taken := bucket.take limit amount now
  (taken.1, { table with buckets := table.buckets.insert key taken.2 })

def take (table : BucketTable) (key : UInt64) (limit : RateLimit)
    (amount now : ℚ≥0) (maxEntries : Nat) (idleTtl : ℚ≥0) :
    Except TakeError Unit × BucketTable :=
  match table.buckets.lookup key with
  | some bucket => table.takeFrom key bucket limit amount now
  | none =>
    let room := table.makeRoom now maxEntries idleTtl
    if maxEntries ≤ room.buckets.size then (.error .capacity, room)
    else room.takeFrom key (.fresh limit now) limit amount now

variable (table : BucketTable)
include table

@[simp]
theorem lookup_sweep (now idleTtl : ℚ≥0) (key : UInt64) :
    (table.sweep now idleTtl).buckets.lookup key =
      (table.buckets.lookup key).filter (keeps now idleTtl) :=
  AList.lookup_retain key _ table.buckets

@[simp]
theorem lookup_takeFrom (key : UInt64) (bucket : Bucket) (limit : RateLimit)
    (amount now : ℚ≥0) (target : UInt64) :
    (table.takeFrom key bucket limit amount now).2.buckets.lookup target =
      if target = key then some (bucket.take limit amount now).2
      else table.buckets.lookup target :=
  AList.lookup_insert_eq target key _ table.buckets

@[simp]
theorem claimFullSweep_buckets (now : ℚ≥0) :
    (table.claimFullSweep now).2.buckets = table.buckets := by
  unfold claimFullSweep
  simp only
  split <;> rfl

theorem makeRoom_buckets (now : ℚ≥0) (maxEntries : Nat) (idleTtl : ℚ≥0) :
    (table.makeRoom now maxEntries idleTtl).buckets = table.buckets ∨
      (table.makeRoom now maxEntries idleTtl).buckets =
        (table.sweep now idleTtl).buckets := by
  have claimed := table.claimFullSweep_buckets now
  unfold makeRoom
  split
  · split
    · next claim =>
      right
      rw [claim] at claimed
      simp only at claimed
      simp only [sweep, claimed]
    · next claim =>
      left
      rw [claim] at claimed
      exact claimed
  · exact .inl rfl

theorem take_cases (key : UInt64) (limit : RateLimit)
    (amount now : ℚ≥0) (maxEntries : Nat) (idleTtl : ℚ≥0) :
    let room := table.makeRoom now maxEntries idleTtl
    (∃ bucket, table.buckets.lookup key = some bucket ∧
      table.take key limit amount now maxEntries idleTtl =
        table.takeFrom key bucket limit amount now) ∨
    (table.buckets.lookup key = none ∧ maxEntries ≤ room.buckets.size ∧
      table.take key limit amount now maxEntries idleTtl =
        (.error .capacity, room)) ∨
    (table.buckets.lookup key = none ∧ room.buckets.size < maxEntries ∧
      table.take key limit amount now maxEntries idleTtl =
        room.takeFrom key (.fresh limit now) limit amount now) := by
  intro room
  unfold take
  cases found : table.buckets.lookup key with
  | some bucket => exact .inl ⟨bucket, rfl, rfl⟩
  | none =>
    right
    by_cases full : maxEntries ≤ room.buckets.size
    · left
      exact ⟨rfl, full, if_pos full⟩
    · right
      exact ⟨rfl, not_le.mp full, if_neg full⟩

end BucketTable

end SieveTube
