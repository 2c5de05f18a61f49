import SieveTube.Policy.Headroom
import SieveTube.Policy.Panic
import SieveTube.Policy.Traffic

/-!
# Retry-After

A request that is refused for its rate is told a number of seconds.  It is
the least one, and at least one, after which the same request passes, whatever
happens to other keys meanwhile and whether or not the bucket was swept.
-/

namespace SieveTube

/-- A number that the configuration can hold. -/
def IsDouble (value : ℚ) : Prop :=
  ∃ (mantissa : Nat) (exponent : Int),
    mantissa < 2 ^ 53 ∧ value = mantissa * 2 ^ exponent

/-- A limit that `compile` makes of a configured rate and burst. -/
def Configured (limit : RateLimit) : Prop :=
  ∃ field rate burst, IsDouble rate ∧ (∀ tokens ∈ burst, tokens < 2 ^ 32) ∧
    rateLimit field (some rate) burst = .ok (some limit)

/-- Doubles are too sparse for a time between the last whole second of a
`Duration` and its end. -/
theorem le_of_isDouble {rate : ℚ} (double : IsDouble rate) (positive : 0 < rate)
    {tokens : Nat}
    (small : tokens < 2 ^ 32) (below : tokens / rate < 2 ^ 64) :
    tokens / rate ≤ 2 ^ 64 - 1 := by
  have fraction : ∃ top bottom : Nat,
      0 < bottom ∧ rate * 2 ^ 64 = top / bottom ∧
      (bottom = 1 ∨ top ≤ 2 ^ 64) := by
    obtain ⟨mantissa, exponent, precise, rfl⟩ := double
    have scaled : ((mantissa : ℚ) * 2 ^ exponent) * 2 ^ 64 =
        mantissa * 2 ^ (exponent + 64) := by
      rw [mul_assoc, zpow_add₀ two_ne_zero]
      rfl
    obtain ⟨size, same | same⟩ := Int.eq_nat_or_neg (exponent + 64)
    · exact ⟨mantissa * 2 ^ size, 1, one_pos, by simp [scaled, same], .inl rfl⟩
    · exact ⟨mantissa,
        2 ^ size, by positivity, by simp [scaled, same, div_eq_mul_inv],
        .inr (by omega)⟩
  obtain ⟨top, bottom, bottom_pos, scaled, exact⟩ := fraction
  have bottom_pos : (0 : ℚ) < bottom := by exact_mod_cast bottom_pos
  rw [div_lt_iff₀ positive, mul_comm, scaled, lt_div_iff₀ bottom_pos] at below
  have gap : (tokens * bottom + 1 : ℚ) ≤ top := by exact_mod_cast below
  have rest : (2 ^ 64 - 1) * rate = (2 ^ 64 - 1) * top / (2 ^ 64 * bottom) := by
    rw [eq_div_of_mul_eq (by norm_num) scaled]
    field_simp
  rw [div_le_iff₀ positive, rest, le_div_iff₀ (by positivity)]
  have small : (tokens : ℚ) < 2 ^ 32 := by exact_mod_cast small
  rcases exact with rfl | short
  · rw [Nat.cast_one, mul_one] at gap ⊢
    rcases le_total (top : ℚ) (2 ^ 64) with low | high <;> linarith
  · have short : (top : ℚ) ≤ 2 ^ 64 := by exact_mod_cast short
    linarith

/-- What is known of a configured limit. -/
theorem Configured.spec {limit : RateLimit} (configured : Configured limit) :
    1 ≤ limit.burst ∧
      (limit.Fills → limit.burst / limit.perSecond ≤ 2 ^ 64 - 1) := by
  obtain ⟨field, rate, burst, double, small, accepted⟩ := configured
  refine ⟨one_le_burst_of_rateLimit accepted, ?_⟩
  unfold rateLimit at accepted
  simp only at accepted
  split at accepted
  · next positive =>
    split at accepted
    · cases accepted
      refine le_of_isDouble double positive ?_
      cases burst with
      | none => exact Nat.lt_of_le_of_lt (min_le_right _ _) (by norm_num)
      | some tokens => exact small tokens rfl
    · cases accepted
  · cases accepted

/-- The key a step takes from. -/
def TrafficStep.key : TrafficStep → Option UInt64
  | .use _ made => made.key
  | _ => none

/-- An entry is kept or was idle for as long as it takes to fill up. -/
def Spared (now : ℚ≥0) (before after : Option Bucket) : Prop :=
  after = before ∨ after = none ∧
    ∀ bucket, before = some bucket → bucket.fullAfter ≤ now - bucket.updated

theorem Spared.later {now later : ℚ≥0} {before after : Option Bucket}
    (spared : Spared now before after) (passed : now ≤ later) :
    Spared later before after := by
  rcases spared with kept | ⟨gone, idle⟩
  · exact .inl kept
  · exact .inr ⟨gone, fun bucket found =>
      (idle bucket found).trans (tsub_le_tsub_right passed _)⟩

theorem Spared.trans {now : ℚ≥0} {first second third : Option Bucket}
    (before : Spared now first second) (after : Spared now second third) :
    Spared now first third := by
  rcases before with rfl | ⟨rfl, idle⟩
  · exact after
  · refine .inr ⟨?_, idle⟩
    rcases after with same | ⟨gone, -⟩
    · exact same
    · exact gone

namespace BucketTable

variable (table : BucketTable) (key : UInt64) (reading : ℚ≥0)

theorem spared_sweep (idleTtl : ℚ≥0) :
    Spared reading (table.buckets.lookup key)
      ((table.sweep reading idleTtl).buckets.lookup key) := by
  rw [lookup_sweep]
  cases table.buckets.lookup key with
  | none => exact .inl rfl
  | some bucket =>
    by_cases kept : keeps reading idleTtl bucket = true
    · exact .inl (by simp [Option.filter, kept])
    · refine .inr ⟨by simp [Option.filter, kept], ?_⟩
      rintro _ ⟨⟩
      have idle : max bucket.fullAfter idleTtl ≤ reading - bucket.updated := by
        simpa [keeps] using kept
      exact (le_max_left _ _).trans idle

theorem spared_makeRoom (maxEntries : Nat) (idleTtl : ℚ≥0) :
    Spared reading (table.buckets.lookup key)
      ((table.makeRoom reading maxEntries idleTtl).buckets.lookup key) := by
  rcases table.makeRoom_buckets reading maxEntries idleTtl with kept | swept
  · exact .inl (by rw [kept])
  · rw [swept]
    exact spared_sweep ..

/-- A use takes from the entry of its key and spares the others. -/
theorem spared_use {use : TableUse} (other : use.key ≠ some key) :
    Spared reading (table.buckets.lookup key)
      ((table.use reading use).2.buckets.lookup key) := by
  cases use with
  | sweep idleTtl => exact table.spared_sweep key reading idleTtl
  | take taken limit amount maxEntries idleTtl =>
    have different : key ≠ taken :=
      fun same => other (congrArg some same.symm)
    simp only [use]
    rcases table.take_cases taken limit amount reading maxEntries idleTtl with
      ⟨bucket, -, same⟩ | ⟨-, -, same⟩ | ⟨-, -, same⟩
    · rw [same, lookup_takeFrom, if_neg different]
      exact .inl rfl
    · rw [same]
      exact spared_makeRoom ..
    · rw [same, lookup_takeFrom, if_neg different]
      exact spared_makeRoom ..

/-- No bucket is overdrawn. -/
def Sound (table : BucketTable) : Prop :=
  ∀ key bucket, table.buckets.lookup key = some bucket → 0 ≤ bucket.tokens

variable {table}

theorem Sound.of_spared (sound : table.Sound) {next : BucketTable}
    (spared : Spared reading (table.buckets.lookup key)
      (next.buckets.lookup key)) {bucket : Bucket}
    (found : next.buckets.lookup key = some bucket) : 0 ≤ bucket.tokens := by
  rcases spared with kept | ⟨gone, -⟩
  · exact sound key bucket (kept ▸ found)
  · cases gone.symm.trans found

theorem Sound.use (sound : table.Sound) (use : TableUse) :
    (table.use reading use).2.Sound := by
  intro key bucket found
  by_cases own : use.key = some key
  · cases use with
    | sweep _ => cases own
    | take taken limit amount maxEntries idleTtl =>
      cases own
      simp only [BucketTable.use] at found
      rcases table.take_cases key limit amount reading maxEntries idleTtl with
        ⟨before, present, same⟩ | ⟨-, -, same⟩ | ⟨-, -, same⟩
      · rw [same, lookup_takeFrom, if_pos rfl] at found
        cases found
        exact Bucket.take_tokens_nonneg (sound key before present) ..
      · rw [same] at found
        exact sound.of_spared key reading
          (table.spared_makeRoom key reading maxEntries idleTtl) found
      · rw [same, lookup_takeFrom, if_pos rfl] at found
        cases found
        exact Bucket.take_tokens_nonneg limit.burst_pos.le ..
  · exact sound.of_spared key reading (table.spared_use key reading own) found

end BucketTable

namespace Traffic

/-- No reading lies in the future. -/
def Timely (traffic : Traffic) : Prop :=
  ∀ reading ∈ traffic.waiting, reading ≤ traffic.clock

variable {traffic : Traffic}

theorem timely_step (timely : traffic.Timely) {action : TrafficStep} :
    (traffic.step action).Timely := by
  intro reading member
  cases action with
  | pass elapsed => exact (timely reading member).trans le_self_add
  | readClock =>
    rcases List.mem_append.mp member with old | new
    · exact timely reading old
    · exact (List.mem_singleton.mp new).le
  | use index use =>
    simp only [step] at member ⊢
    split at member
    · exact timely reading member
    · exact timely reading (List.mem_of_mem_eraseIdx member)

theorem sound_step (sound : traffic.table.Sound) (action : TrafficStep) :
    (traffic.step action).table.Sound := by
  cases action with
  | pass elapsed => exact sound
  | readClock => exact sound
  | use index use =>
    simp only [step]
    split
    · exact sound
    · next reading _ => exact sound.use reading use

theorem timely_run (steps : List TrafficStep) : (run steps).Timely := by
  have initial : start.Timely := fun _ member => by cases member
  exact Run.invariant initial (fun _ action timely => timely_step timely) steps

theorem sound_run (steps : List TrafficStep) : (run steps).table.Sound := by
  have initial : start.table.Sound := fun key bucket found => by
    simp [start, BucketTable.new] at found
  exact Run.invariant (motive := fun traffic : Traffic => traffic.table.Sound)
    initial (fun _ action sound => sound_step sound action) steps

theorem spared_step (timely : traffic.Timely) {action : TrafficStep}
    {key : UInt64} (other : action.key ≠ some key) :
    traffic.clock ≤ (traffic.step action).clock ∧
      Spared (traffic.step action).clock (traffic.table.buckets.lookup key)
        ((traffic.step action).table.buckets.lookup key) := by
  cases action with
  | pass elapsed => exact ⟨le_self_add, .inl rfl⟩
  | readClock => exact ⟨le_rfl, .inl rfl⟩
  | use index use =>
    simp only [step]
    split
    · exact ⟨le_rfl, .inl rfl⟩
    · next reading found =>
      exact ⟨le_rfl, (traffic.table.spared_use key reading other).later
        (timely reading (List.mem_of_getElem? found))⟩

theorem spared_run {steps : List TrafficStep} {key : UInt64}
    (others : ∀ step ∈ steps, step.key ≠ some key)
    (timely : traffic.Timely) :
    traffic.clock ≤ (Run.after step traffic steps).clock ∧
      Spared (Run.after step traffic steps).clock
        (traffic.table.buckets.lookup key)
        ((Run.after step traffic steps).table.buckets.lookup key) := by
  induction steps generalizing traffic with
  | nil => exact ⟨le_refl _, .inl rfl⟩
  | cons action steps ih =>
    rw [List.forall_mem_cons] at others
    obtain ⟨now, spared⟩ := spared_step timely others.1
    obtain ⟨passed, rest⟩ := ih others.2 (timely_step timely)
    exact ⟨now.trans passed, (spared.later passed).trans rest⟩

end Traffic

section Refusal

variable {table next : BucketTable} {key : UInt64} {limit : RateLimit}
variable {now idleTtl : ℚ≥0} {maxEntries : Nat} {error : TakeError}

theorem takeFromOrPanic_eq_ok {bucket : Bucket} {amount now : ℚ≥0}
    {result : Except TakeError Unit × BucketTable}
    (done : table.takeFromOrPanic key bucket limit amount now = .ok result) :
    limit.Fills ∧ table.takeFrom key bucket limit amount now = result := by
  by_cases fills : limit.Fills
  · rw [BucketTable.takeFromOrPanic_of_fills fills] at done
    exact ⟨fills, Except.ok.inj done⟩
  · simp [BucketTable.takeFromOrPanic, Bucket.takeOrPanic_eq, fills, bind,
      Except.bind] at done

/-- A refused request left its bucket as it found it, or found no room for
one. -/
theorem refused_cases (sound : table.Sound) (one : 1 ≤ limit.burst)
    (refused : table.takeOrPanic key limit 1 now maxEntries idleTtl =
      .ok (.error error, next)) :
    (error = .capacity ∧ next.buckets.lookup key = none) ∨
    limit.Fills ∧ ∃ tokens, 0 ≤ tokens ∧ tokens < 1 ∧
      error = .limited ((1 - tokens) / limit.perSecond) ∧
      next.buckets.lookup key =
        some { tokens, updated := now, fullAfter := limit.fillTime } := by
  unfold BucketTable.takeOrPanic at refused
  cases found : table.buckets.lookup key with
  | none =>
    left
    simp only [found] at refused
    split at refused
    · cases refused
      refine ⟨rfl, ?_⟩
      rcases table.spared_makeRoom key now maxEntries idleTtl with
        kept | ⟨gone, -⟩
      · exact kept.trans found
      · exact gone
    · have taken := congrArg Prod.fst (takeFromOrPanic_eq_ok refused).2
      simp [BucketTable.takeFrom, Bucket.take, Bucket.refilled_fresh,
        one] at taken
  | some bucket =>
    simp only [found] at refused
    obtain ⟨fills, taken⟩ := takeFromOrPanic_eq_ok refused
    refine .inr ⟨fills, bucket.refilled limit now,
      Bucket.refilled_nonneg (sound key bucket found) .., ?_⟩
    have stored := table.lookup_takeFrom key bucket limit 1 now key
    have answer := congrArg Prod.fst taken
    rw [taken, if_pos rfl] at stored
    simp only [BucketTable.takeFrom, Bucket.take] at answer stored
    split at answer
    · cases answer
    · next short =>
      rw [if_neg short] at stored
      cases answer
      exact ⟨by simpa using short, by simp, stored⟩

/-- A request finds its bucket, or gets a new one where there is room. -/
theorem exists_take (fills : limit.Fills) {now : ℚ≥0}
    (room : (table.buckets.lookup key).isSome = true ∨
      (table.makeRoom now maxEntries idleTtl).buckets.size < maxEntries) :
    ∃ final, table.takeOrPanic key limit 1 now maxEntries idleTtl =
      .ok ((((table.buckets.lookup key).getD (.fresh limit now)).take limit 1
        now).1, final) := by
  rw [BucketTable.takeOrPanic_of_fills fills]
  rcases table.take_cases key limit 1 now maxEntries idleTtl with
    ⟨bucket, found, same⟩ | ⟨absent, full, -⟩ | ⟨absent, -, same⟩
  · exact ⟨_, by rw [same, found]; rfl⟩
  · simp [absent] at room
    omega
  · exact ⟨_, by rw [same, absent]; rfl⟩

theorem fresh_take (configured : Configured limit) :
    ((Bucket.fresh limit now).take limit 1 now).1 = .ok () := by
  simp [Bucket.take, Bucket.refilled_fresh, configured.spec.1]

end Refusal

/-- The seconds that are told are enough to refill what was missing, and one
less is not. -/
theorem secs_spec {limit : RateLimit} (configured : Configured limit)
    (fills : limit.Fills)
    {tokens : ℚ} (nonneg : 0 ≤ tokens) (low : tokens < 1) {reason : Reason}
    {secs : Nat}
    (told : limited (.limited ((1 - tokens) / limit.perSecond)) =
      .rateLimited reason secs) :
    1 ≤ tokens + secs * limit.perSecond ∧
      (1 < secs → tokens + (secs - 1) * limit.perSecond < 1 ∧
        (secs - 1 : ℚ) < limit.burst / limit.perSecond) := by
  obtain ⟨one, bounded⟩ := configured.spec
  have rate := limit.perSecond_pos
  have wait : (1 - tokens) / limit.perSecond ≤ limit.burst / limit.perSecond :=
    div_le_div_of_nonneg_right (by linarith) rate.le
  have ceiling : ⌈(1 - tokens) / limit.perSecond⌉₊ ≤ 2 ^ 64 - 1 :=
    Nat.ceil_le.mpr (by exact_mod_cast wait.trans (bounded fills))
  obtain ⟨-, rfl⟩ := told
  rw [min_eq_left (max_le ceiling (by norm_num))]
  constructor
  · have enough := (Nat.le_ceil ((1 - tokens) / limit.perSecond)).trans
      (Nat.cast_le.mpr (le_max_left _ 1))
    rw [div_le_iff₀ rate] at enough
    linarith
  · intro more
    have told : max ⌈(1 - tokens) / limit.perSecond⌉₊ 1 =
        ⌈(1 - tokens) / limit.perSecond⌉₊ := by
      omega
    rw [told] at more ⊢
    have less : (⌈(1 - tokens) / limit.perSecond⌉₊ - 1 : ℚ) <
        (1 - tokens) / limit.perSecond := by
      have above := Nat.ceil_lt_add_one
        (div_nonneg (sub_nonneg.mpr low.le) rate.le)
      linarith
    refine ⟨?_, less.trans_le wait⟩
    rw [lt_div_iff₀ rate] at less
    linarith

section Retry

variable {table : BucketTable} {key : UInt64} {limit : RateLimit}
variable {now later ttl : ℚ≥0} {room secs : Nat} {tokens : ℚ}

/-- A bucket that was left with too little has enough after the told time. -/
theorem passes_after (configured : Configured limit) (fills : limit.Fills)
    (spared : Spared later
      (some { tokens, updated := now, fullAfter := limit.fillTime })
      (table.buckets.lookup key))
    (enough : 1 ≤ tokens + secs * limit.perSecond)
    (due : now + secs ≤ later)
    (present : (table.buckets.lookup key).isSome = true ∨
      (table.makeRoom later room ttl).buckets.size < room) :
    ∃ final, table.takeOrPanic key limit 1 later room ttl =
      .ok (.ok (), final) := by
  obtain ⟨final, taken⟩ := exists_take fills present
  refine ⟨final, taken.trans ?_⟩
  rcases spared with kept | ⟨gone, -⟩
  · have waited : (secs : ℚ) ≤ (later - now : ℚ≥0) := by
      exact_mod_cast le_tsub_of_add_le_left due
    have grown := mul_le_mul_of_nonneg_right waited limit.perSecond_pos.le
    rw [kept, Option.getD_some, Bucket.take, if_pos]
    exact le_min (enough.trans (add_le_add_right grown tokens))
      configured.spec.1
  · rw [gone, Option.getD_none, fresh_take configured]

/-- One second less is not enough, and too short for an eviction. -/
theorem refused_before (fills : limit.Fills)
    (spared : Spared later
      (some { tokens, updated := now, fullAfter := limit.fillTime })
      (table.buckets.lookup key))
    (short : tokens + (secs - 1) * limit.perSecond < 1)
    (sooner : (secs - 1 : ℚ) < limit.burst / limit.perSecond)
    (passed : now ≤ later) (early : later + 1 = now + secs) :
    ∃ wait final, table.takeOrPanic key limit 1 later room ttl =
      .ok (.error (.limited wait), final) := by
  have elapsed : ((later - now : ℚ≥0) : ℚ) = secs - 1 := by
    have moments : (later : ℚ) + 1 = now + secs := by exact_mod_cast early
    rw [NNRat.coe_sub passed]
    linarith
  rcases spared with kept | ⟨-, idle⟩
  · obtain ⟨final, taken⟩ :
        ∃ final, table.takeOrPanic key limit 1 later room ttl = _ :=
      exists_take fills (.inl (by rw [kept]; rfl))
    have missing : ¬ 1 ≤ Bucket.refilled
        { tokens, updated := now, fullAfter := limit.fillTime } limit
        later := by
      refine not_le.mpr ((min_le_left _ _).trans_lt ?_)
      rwa [elapsed]
    rw [kept, Option.getD_some, Bucket.take, NNRat.cast_one,
      if_neg missing] at taken
    exact ⟨_, final, taken⟩
  · have full := Rat.toNNRat_le_iff_le_coe.mp (idle _ rfl)
    exact absurd (full.trans_eq elapsed) (not_le.mpr sooner)

end Retry

namespace Traffic

/-- A request that is refused for its rate passes from the told time on, if
there is room for its bucket, and is still refused one second earlier unless
it was told to wait a single second.  One that is refused for lack of room is
told to wait a second, and passes once there is room, if its bucket can be
filled at all. -/
theorem retry_after_exact {limit : RateLimit} (configured : Configured limit)
    (before steps : List TrafficStep) (key : UInt64) (maxEntries room : Nat)
    (idleTtl ttl : ℚ≥0) (error : TakeError) (table : BucketTable)
    (reason : Reason) (secs : Nat)
    (refused : (run before).table.takeOrPanic key limit 1 (run before).clock
      maxEntries idleTtl = .ok (.error error, table))
    (told : limited error = .rateLimited reason secs)
    (others : ∀ step ∈ steps, step.key ≠ some key) :
    let now := (run before).clock
    let later := Run.after step { run before with table } steps
    let present := (later.table.buckets.lookup key).isSome = true ∨
      (later.table.makeRoom later.clock room ttl).buckets.size < room
    let passes := ∃ final, later.table.takeOrPanic key limit 1 later.clock
      room ttl = .ok (.ok (), final)
    (reason = .rateLimit →
      (now + secs ≤ later.clock → present → passes) ∧
      (1 < secs → later.clock + 1 = now + secs →
        ∃ wait final, later.table.takeOrPanic key limit 1 later.clock room
          ttl = .ok (.error (.limited wait), final))) ∧
    (reason = .capacity →
      secs = 1 ∧ (limit.Fills → present → passes)) := by
  intro now later present passes
  have timely : { run before with table }.Timely := timely_run before
  obtain ⟨passed, spared⟩ : now ≤ later.clock ∧ Spared later.clock _ _ :=
    spared_run others timely
  rcases refused_cases (sound_run before) configured.spec.1 refused with
    ⟨rfl, absent⟩ | ⟨fills, tokens, nonneg, low, rfl, stored⟩
  · cases told
    refine ⟨fun rate => (by cases rate), fun _ => ⟨rfl, ?_⟩⟩
    intro fills free
    obtain ⟨final, taken⟩ := exists_take fills free
    have gone : later.table.buckets.lookup key = none := by
      rcases spared with kept | ⟨gone, -⟩
      · exact kept.trans absent
      · exact gone
    rw [gone, Option.getD_none, fresh_take configured] at taken
    exact ⟨final, taken⟩
  · have reasons : reason = .rateLimit := by
      cases told
      rfl
    subst reasons
    rw [stored] at spared
    obtain ⟨enough, less⟩ := secs_spec configured fills nonneg low told
    refine ⟨fun _ => ⟨fun due free => ?_, fun more early => ?_⟩,
      fun capacity => (by cases capacity)⟩
    · exact passes_after configured fills spared enough due free
    · obtain ⟨short, sooner⟩ := less more
      exact refused_before fills spared short sooner passed early

/-- One request in four seconds. -/
def quarter : RateLimit :=
  { perSecond := 1 / 4
    burst := (1 : Nat)
    perSecond_pos := by norm_num
    burst_pos := by norm_num }

theorem retry_after_exact_quarter :
    let traffic := run (atOnce 0 (.take 7 quarter 1 10 0))
    ∃ table, traffic.table.takeOrPanic 7 quarter 1 traffic.clock 10 0 =
        .ok (.error (.limited 4), table) ∧
      limited (.limited 4) = .rateLimited .rateLimit 4 ∧
      let later := Run.after step { traffic with table }
        (atOnce 4 (.sweep 0))
      ∃ final, later.table.takeOrPanic 7 quarter 1 later.clock 10 0 =
        .ok (.ok (), final) := by
  intro traffic
  have configured : Configured quarter :=
    ⟨"policy", 1 / 4, some 1, ⟨1, -2, by norm_num, by norm_num⟩, by simp,
      by simp [rateLimit, quarter]⟩
  have fills : quarter.Fills := by norm_num [quarter, RateLimit.Fills]
  have answer : (traffic.table.take 7 quarter 1 traffic.clock 10 0).1 =
      .error (.limited 4) := by
    decide +kernel
  have refused : traffic.table.takeOrPanic 7 quarter 1 traffic.clock 10 0 =
      .ok (.error (.limited 4),
        (traffic.table.take 7 quarter 1 traffic.clock 10 0).2) := by
    rw [BucketTable.takeOrPanic_of_fills fills, ← answer]
  have told : limited (.limited 4) = .rateLimited .rateLimit 4 := by
    decide +kernel
  obtain ⟨rate, -⟩ := retry_after_exact configured _ (atOnce 4 (.sweep 0))
    7 10 10 0 0 _ _ _ 4 refused told
    (by simp [atOnce, TrafficStep.key, TableUse.key])
  exact ⟨_, refused, told, (rate rfl).1 (by decide +kernel)
    (.inr (by decide +kernel))⟩

end Traffic

end SieveTube
