import SieveTube.Policy.Headroom
import SieveTube.Policy.Traffic

/-!
# Concurrent takes on one bucket

The takes on a bucket keep its limit as long as none of them comes with a
clock reading that is older than that of an earlier take or sweep of the
table, whichever key that take was on: it may have evicted the bucket.
-/

namespace SieveTube

/-- What a use handed out of the bucket of a key. -/
def AppliedUse.spending (target : UInt64) (applied : AppliedUse) :
    Option (Meter.Spending ℚ) :=
  match applied.use with
  | .take key _ amount _ _ =>
    if key = target then
      some
        { moment := applied.reading
          amount := Bucket.granted applied.outcome amount }
    else none
  | .sweep _ => none

/-- The total amount handed out to takes of a key whose clock readings lie
between `first` and `last`. -/
def admittedWithin (key : UInt64) (first last : ℚ≥0)
    (log : List AppliedUse) : ℚ :=
  Meter.within (first : ℚ) last (log.filterMap (AppliedUse.spending key))

/-- Takes of the key are under the limit. -/
def TrafficStep.Under (key : UInt64) (limit : RateLimit) :
    TrafficStep → Prop
  | .use _ (.take taken other _ _ _) => taken = key → other = limit
  | _ => True

namespace Traffic

/-- No take of the key came with a clock reading older than that of a use
before it. -/
def InOrder (key : UInt64) (log : List AppliedUse) : Prop :=
  log.Pairwise fun earlier later =>
    later.use.key = some key → earlier.reading ≤ later.reading

instance InOrder.decidable (key : UInt64) (log : List AppliedUse) :
    Decidable (InOrder key log) :=
  inferInstanceAs (Decidable (log.Pairwise _))

/-- The takes of the key are accounted for at the latest reading used. -/
structure Balanced (key : UInt64) (limit : RateLimit) (traffic : Traffic)
    (moment : ℚ≥0) : Prop where
  latest : ∀ bound, (∀ applied ∈ traffic.log, applied.reading ≤ bound) →
    moment ≤ bound
  account : Account limit 0 key traffic.table
    (traffic.log.filterMap (AppliedUse.spending key)) moment

variable {key : UInt64} {limit : RateLimit} {traffic : Traffic}
variable {moment : ℚ≥0}

/-- A use keeps the account, unless it takes from the key with an older
reading. -/
theorem Balanced.useReading (balanced : Balanced key limit traffic moment)
    {index : Nat} {use : TableUse}
    (under : (TrafficStep.use index use).Under key limit) {reading : ℚ≥0}
    (inOrder : use.key = some key →
      ∀ applied ∈ traffic.log, applied.reading ≤ reading) :
    Balanced key limit (traffic.useReading index reading use)
      (max moment reading) := by
  constructor
  · intro bound all
    rw [Traffic.useReading, List.forall_mem_append] at all
    exact max_le (balanced.latest bound all.1)
      (all.2 _ (List.mem_singleton_self _))
  · rw [Traffic.useReading, List.filterMap_append]
    cases use with
    | sweep idleTtl =>
      have swept := balanced.account.sweep reading
        (zero_le : 0 ≤ idleTtl)
      simpa [AppliedUse.spending, List.filterMap_cons] using swept
    | take taken other amount maxEntries idleTtl =>
      by_cases own : taken = key
      · subst own
        obtain rfl := under rfl
        have later := balanced.latest reading (inOrder rfl)
        rw [max_eq_right later]
        simpa [AppliedUse.spending] using
          balanced.account.take_self later zero_le amount maxEntries
      · simpa [AppliedUse.spending, own] using
          balanced.account.take_other (fun same => absurd same own)
            (fun same => absurd same own) zero_le

/-- The account can be given as long as no take of the key was out of
order. -/
def Accounted (key : UInt64) (limit : RateLimit)
    (steps : List TrafficStep) (traffic : Traffic) : Prop :=
  (∀ step ∈ steps, step.Under key limit) →
    InOrder key traffic.log → ∃ moment, Balanced key limit traffic moment

theorem accounted_step {steps : List TrafficStep}
    (accounted : Accounted key limit steps traffic) (action : TrafficStep) :
    Accounted key limit (steps ++ [action]) (traffic.step action) := by
  intro under inOrder
  have before := accounted fun step member =>
    under step (List.mem_append_left _ member)
  cases action with
  | pass elapsed | readClock =>
    obtain ⟨moment, balanced⟩ := before inOrder
    exact ⟨moment, balanced.latest, balanced.account⟩
  | use index use =>
    simp only [step] at inOrder ⊢
    split at inOrder
    · exact before inOrder
    · next reading _ =>
      obtain ⟨earlier, _, last⟩ := List.pairwise_append.mp inOrder
      obtain ⟨moment, balanced⟩ := before earlier
      refine ⟨_, balanced.useReading (under _ (by simp)) ?_⟩
      intro own applied member
      exact last applied member _ (List.mem_singleton_self _) own

theorem accounted_run (steps : List TrafficStep) :
    Accounted key limit steps (run steps) := by
  have initial : Accounted key limit [] start :=
    fun _ _ => ⟨0, fun _ _ => zero_le, .start⟩
  exact Run.history_invariant initial
    (fun _ action accounted => accounted_step accounted action) steps

end Traffic

/-- Whenever the takes of a key, all under one limit, come with clock
readings that are not older than those of the takes and sweeps before them,
the amount handed out to readings in a window of any length is bounded by
the burst and the refill of that length. -/
theorem admitted_le_of_inOrder (key : UInt64) (limit : RateLimit)
    (steps : List TrafficStep)
    (under : ∀ step ∈ steps, step.Under key limit)
    (inOrder : Traffic.InOrder key (Traffic.run steps).log)
    (first length : ℚ≥0) :
    admittedWithin key first (first + length) (Traffic.run steps).log ≤
      limit.burst + limit.perSecond * length := by
  obtain ⟨moment, balanced⟩ := Traffic.accounted_run steps under inOrder
  exact balanced.account.within_le first length

/-- From a table for two keys, whose buckets may be evicted as soon as they
are full, another key is taken in between, and the table is swept. -/
theorem admitted_le_of_inOrder_swept :
    let takeOne (key : UInt64) : TableUse := .take key (.whole 1 1) 1 2 0
    let steps : List TrafficStep :=
      [.readClock, .use 0 (takeOne 7), .readClock, .use 0 (takeOne 8),
        .pass 2, .readClock, .readClock, .use 0 (.sweep 0),
        .use 0 (takeOne 7)]
    admittedWithin 7 0 2 (Traffic.run steps).log = 2 ∧
      admittedWithin 7 0 (0 + 2) (Traffic.run steps).log ≤
        (RateLimit.whole 1 1).burst +
          (RateLimit.whole 1 1).perSecond * (2 : ℚ≥0) := by
  intro takeOne steps
  have under : ∀ step ∈ steps, step.Under 7 (.whole 1 1) := by
    simp [steps, takeOne, TrafficStep.Under]
  exact ⟨by decide +kernel,
    admitted_le_of_inOrder 7 (.whole 1 1) steps under (by decide +kernel) 0 2⟩

/-- A request that read the clock before two others and takes between them
moves the bucket's `updated` back, and the same second is refilled twice. -/
theorem admitted_twice_in_one_instant :
    let takeOne (key : UInt64) : TableUse := .take key (.whole 1 1) 1 2 0
    let steps : List TrafficStep :=
      [.readClock, .pass 1, .readClock, .readClock, .use 1 (takeOne 7),
        .use 0 (takeOne 7), .use 0 (takeOne 7)]
    ¬ admittedWithin 7 1 (1 + 0) (Traffic.run steps).log ≤
      (RateLimit.whole 1 1).burst +
        (RateLimit.whole 1 1).perSecond * (0 : ℚ≥0) := by
  decide +kernel

end SieveTube
