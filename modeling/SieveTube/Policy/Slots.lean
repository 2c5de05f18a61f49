import SieveTube.Policy.Tcp

/-!
# Concurrency slots of TCP connections

A permit remembers the slots it took, so the counters can be compared with
the permits whatever the configuration said in the meantime.
-/

namespace SieveTube

namespace SlotCounts

variable {counts : SlotCounts} {key target : UInt64}

/-- Without an entry for zero, the count says everything about a key. -/
def Positive (counts : SlotCounts) : Prop := ∀ key, counts.lookup key ≠ some 0

theorem lookup_eq (positive : counts.Positive) :
    counts.lookup key =
      if counts.count key = 0 then none else some (counts.count key) := by
  unfold count
  cases found : counts.lookup key with
  | none => rfl
  | some number =>
    have nonzero : number ≠ 0 := by
      rintro rfl
      exact positive key found
    simp [nonzero]

theorem acquire_cases (positive : counts.Positive) (key : UInt64) (limit : ℕ+) :
    ((counts.acquire key limit).1 = true ∧ counts.count key < limit ∧
      (counts.acquire key limit).2.Positive ∧
      ∀ target, (counts.acquire key limit).2.count target =
        counts.count target + if target = key then 1 else 0) ∨
    ((counts.acquire key limit).1 = false ∧
      (counts.acquire key limit).2.Positive ∧
      ∀ target, (counts.acquire key limit).2.count target =
        counts.count target) := by
  by_cases full : (limit : Nat) ≤ counts.count key
  · right
    have nonzero : counts.count key ≠ 0 := by
      have := limit.pos
      omega
    have same : ∀ target, (counts.insert key (counts.count key)).lookup
        target = counts.lookup target := by
      intro target
      rw [AList.lookup_insert_eq]
      split
      · next here =>
        rw [lookup_eq positive, here, if_neg nonzero]
      · rfl
    simp only [acquire, if_pos full, true_and]
    refine ⟨?_, ?_⟩
    · intro target
      rw [same]
      exact positive target
    · intro target
      rw [count, same, count]
  · left
    have free : counts.count key < limit := Nat.lt_of_not_le full
    simp only [acquire, if_neg full, true_and]
    refine ⟨free, ?_, ?_⟩
    · intro target
      rw [AList.lookup_insert_eq]
      split
      · simp
      · next other =>
        rw [AList.lookup_insert_eq, if_neg other]
        exact positive target
    · intro target
      rcases eq_or_ne target key with rfl | other
      · simp [count]
      · simp [count, AList.lookup_insert_ne other, other]

theorem release_spec (positive : counts.Positive) :
    (counts.release key).Positive ∧
      ∀ target, (counts.release key).count target =
        counts.count target - if target = key then 1 else 0 := by
  unfold release
  cases found : counts.lookup key with
  | none =>
    refine ⟨positive, ?_⟩
    intro target
    rcases eq_or_ne target key with rfl | other
    · simp [count, found]
    · simp [other]
  | some number =>
    by_cases last : number - 1 = 0
    · simp only [last, if_true]
      refine ⟨?_, ?_⟩
      · intro target
        rw [AList.lookup_erase_eq]
        split
        · simp
        · exact positive target
      · intro target
        rcases eq_or_ne target key with rfl | other
        · simp [count, found, last]
        · simp [count, AList.lookup_erase_ne other, other]
    · simp only [last, if_false]
      refine ⟨?_, ?_⟩
      · intro target
        rw [AList.lookup_insert_eq]
        split
        · simpa using last
        · exact positive target
      · intro target
        rcases eq_or_ne target key with rfl | other
        · simp [count, found]
        · simp [count, AList.lookup_insert_ne other, other]

end SlotCounts

namespace TcpTask

/-- The slots a task holds. -/
def permit : TcpTask → TcpPermit
  | .listenerTaken _ _ listener | .undoing _ listener | .dropping listener =>
    { ip := none, listener }
  | .admitted _ permit => permit
  | .entered _ | .loaded _ _ | .passed _ _ | .rejected _ | .unlimited _
  | .closed => .empty

/-- The policy of an admission that may still take slots. -/
def policy : TcpTask → Option TransportPolicy
  | .passed _ policy | .listenerTaken _ policy _ => some policy
  | _ => none

/-- A call of `admit_tcp` or a drop is in progress. -/
def inProgress : TcpTask → Bool
  | .entered _ | .loaded _ _ | .passed _ _ | .listenerTaken _ _ _
  | .undoing _ _ | .dropping _ => true
  | .rejected _ | .unlimited _ | .admitted _ _ | .closed => false

/-- The permit of an admitted connection, as long as it lives. -/
def livePermit : TcpTask → Option TcpPermit
  | .admitted _ permit => some permit
  | _ => none

/-- Whether a task holds a slot that passes a test. -/
def holds (kind : SlotKind) (test : TcpSlot → Bool) (task : TcpTask) : Nat :=
  if (task.permit.slot kind).any test then 1 else 0

end TcpTask

namespace TcpCounters

def count (shared : TcpCounters) (kind : SlotKind) (key : UInt64) : Nat :=
  (shared.active kind).count key

def Positive (shared : TcpCounters) : Prop :=
  ∀ kind, (shared.active kind).Positive

/-- Everything a turn can do to the counters and to the slots of its
task. -/
inductive SlotMove (shared : TcpCounters) (task : TcpTask) :
    TcpTask → TcpCounters → Prop where
  | keep {next : TcpTask} {later : TcpCounters}
      (same : ∀ kind, next.permit.slot kind = task.permit.slot kind)
      (counts : ∀ kind key, later.count kind key = shared.count kind key) :
      SlotMove shared task next later
  | take {next : TcpTask} {later : TcpCounters} (kind : SlotKind)
      (slot : TcpSlot) (policy : TransportPolicy)
      (loaded : task.policy = some policy)
      (limited : policy.tcp.limit kind = some slot.limit)
      (free : shared.count kind slot.key < slot.limit)
      (before : task.permit.slot kind = none)
      (after : ∀ other, next.permit.slot other =
        if other = kind then some slot else task.permit.slot other)
      (counts : ∀ other key, later.count other key = shared.count other key +
          if other = kind ∧ key = slot.key then 1 else 0) :
      SlotMove shared task next later
  | give {next : TcpTask} {later : TcpCounters} (kind : SlotKind)
      (slot : TcpSlot) (before : task.permit.slot kind = some slot)
      (after : ∀ other, next.permit.slot other =
        if other = kind then none else task.permit.slot other)
      (counts : ∀ other key, later.count other key = shared.count other key -
          if other = kind ∧ key = slot.key then 1 else 0) :
      SlotMove shared task next later

variable {hasher : TcpHasher} {shared : TcpCounters}

theorem positive_update (positive : shared.Positive) (kind : SlotKind)
    {counts : SlotCounts} (kept : counts.Positive) :
    { shared with active := Function.update shared.active kind counts
      }.Positive := by
  intro other
  rcases eq_or_ne other kind with rfl | different
  · simpa using kept
  · simpa [different] using positive other

theorem count_update (kind other : SlotKind) (counts : SlotCounts)
    (key : UInt64) :
    { shared with active := Function.update shared.active kind counts }.count
      other key =
      if other = kind then counts.count key else shared.count other key := by
  rcases eq_or_ne other kind with rfl | different
  · simp [count]
  · simp [count, different]

/-- How an attempt to take a slot can end. -/
inductive Acquisition (shared : TcpCounters) (kind : SlotKind)
    (policy : TransportPolicy) :
    Option (Option TcpSlot) × TcpCounters → Prop where
  | unlimited : Acquisition shared kind policy (some none, shared)
  | taken (slot : TcpSlot) (later : TcpCounters)
      (limited : policy.tcp.limit kind = some slot.limit)
      (free : shared.count kind slot.key < slot.limit)
      (positive : later.Positive)
      (counts : ∀ other key, later.count other key = shared.count other key +
          if other = kind ∧ key = slot.key then 1 else 0) :
      Acquisition shared kind policy (some (some slot), later)
  | refused (later : TcpCounters) (positive : later.Positive)
      (counts : ∀ other key, later.count other key = shared.count other key) :
      Acquisition shared kind policy (none, later)

theorem acquireSlot_spec (hasher : TcpHasher) (positive : shared.Positive)
    (kind : SlotKind) (policy : TransportPolicy) (connection : TcpConnection) :
    Acquisition shared kind policy
      (shared.acquireSlot hasher kind policy connection) := by
  unfold acquireSlot
  cases limited : policy.tcp.limit kind with
  | none => exact .unlimited
  | some limit =>
    simp only
    rcases (shared.active kind).acquire_cases (positive kind)
      (hasher.slotKey connection kind) limit with
      ⟨acquired, free, kept, counts⟩ | ⟨refused, kept, counts⟩
    · rw [acquired, if_pos rfl]
      refine .taken _ _ limited free (positive_update positive kind kept) ?_
      intro other key
      rw [count_update]
      rcases eq_or_ne other kind with rfl | different
      · simpa [count] using counts key
      · simp [different]
    · rw [refused, if_neg Bool.false_ne_true]
      refine .refused _ (positive_update positive kind kept) ?_
      intro other key
      rw [count_update]
      rcases eq_or_ne other kind with rfl | different
      · simpa [count] using counts key
      · simp [different]

theorem releaseSlot_spec (positive : shared.Positive) {kind : SlotKind}
    {slot : TcpSlot} :
    (shared.releaseSlot kind (some slot)).Positive ∧
      ∀ other key, (shared.releaseSlot kind (some slot)).count other key =
        shared.count other key -
          if other = kind ∧ key = slot.key then 1 else 0 := by
  obtain ⟨kept, counts⟩ := (shared.active kind).release_spec (positive kind)
  refine ⟨positive_update positive kind kept, ?_⟩
  intro other key
  rw [releaseSlot, count_update]
  rcases eq_or_ne other kind with rfl | different
  · simpa [count] using counts key
  · simp [different]

theorem decideTcp_active (hasher : TcpHasher) (shared : TcpCounters)
    (policy : TransportPolicy) (connection : TcpConnection) (now : ℚ≥0) :
    (shared.decideTcp hasher policy connection now).2.active =
      shared.active := by
  unfold decideTcp
  simp only
  split
  · rfl
  · split
    · rfl
    · split <;> rfl

/-- What a turn leaves behind. -/
def Moved (shared : TcpCounters) (task : TcpTask)
    (moved : TcpTask × TcpCounters) : Prop :=
  moved.2.Positive ∧ SlotMove shared task moved.1 moved.2

variable {task next : TcpTask}

theorem moved_keep {later : TcpCounters} (positive : shared.Positive)
    (active : later.active = shared.active) (same : next.permit = task.permit) :
    Moved shared task (next, later) := by
  refine ⟨?_, .keep ?_ ?_⟩
  · simpa only [Positive, active] using positive
  · intro kind
    rw [same]
  · intro kind key
    simp only [count, active]

theorem moved_acquire {kind : SlotKind} {policy : TransportPolicy}
    {outcome : Option (Option TcpSlot)} {later : TcpCounters}
    (positive : shared.Positive)
    (acquisition : Acquisition shared kind policy (outcome, later))
    (loaded : task.policy = some policy) (before : task.permit.slot kind = none)
    (after : ∀ other, next.permit.slot other =
      if other = kind then outcome.join else task.permit.slot other) :
    Moved shared task (next, later) := by
  have unchanged : outcome.join = none → ∀ other,
      next.permit.slot other = task.permit.slot other := by
    intro nothing other
    rw [after, nothing]
    split
    · next same => rw [same, before]
    · rfl
  cases acquisition with
  | unlimited => exact ⟨positive, .keep (unchanged rfl) fun _ _ => rfl⟩
  | taken slot later limited free kept counts =>
    exact ⟨kept, .take kind slot policy loaded limited free before after counts⟩
  | refused later kept counts => exact ⟨kept, .keep (unchanged rfl) counts⟩

theorem moved_release (positive : shared.Positive) {kind : SlotKind}
    (after : ∀ other, next.permit.slot other =
      if other = kind then none else task.permit.slot other) :
    Moved shared task (next,
      shared.releaseSlot kind (task.permit.slot kind)) := by
  cases held : task.permit.slot kind with
  | none =>
    refine ⟨positive, .keep ?_ fun _ _ => rfl⟩
    intro other
    rw [after]
    split
    · next same => rw [same, held]
    · rfl
  | some slot =>
    obtain ⟨kept, counts⟩ := releaseSlot_spec positive
    exact ⟨kept, .give kind slot held after counts⟩

theorem moved_proceed (hasher : TcpHasher) (positive : shared.Positive)
    (now : ℚ≥0) (task : TcpTask) :
    Moved shared task (shared.proceed hasher now task) := by
  cases task with
  | entered connection =>
    simp only [proceed]
    split <;> exact moved_keep positive rfl rfl
  | loaded connection policy =>
    have active := decideTcp_active hasher shared policy connection now
    simp only [proceed]
    split
    · next later decided =>
      rw [decided] at active
      exact moved_keep positive active rfl
    · next decision later _ decided =>
      rw [decided] at active
      exact moved_keep positive active rfl
  | passed connection policy =>
    have spec := acquireSlot_spec hasher positive .listener policy connection
    simp only [proceed]
    split
    · next listener later acquired =>
      rw [acquired] at spec
      refine moved_acquire positive spec rfl rfl ?_
      rintro (_ | _) <;> rfl
    · next later acquired =>
      rw [acquired] at spec
      refine moved_acquire positive spec rfl rfl ?_
      rintro (_ | _) <;> rfl
  | listenerTaken connection policy listener =>
    have spec := acquireSlot_spec hasher positive .ip policy connection
    simp only [proceed]
    split
    · next ip later acquired =>
      rw [acquired] at spec
      refine moved_acquire positive spec rfl rfl ?_
      rintro (_ | _) <;> rfl
    · next later acquired =>
      rw [acquired] at spec
      refine moved_acquire positive spec rfl rfl ?_
      rintro (_ | _) <;> rfl
  | undoing policy listener | dropping listener =>
    apply moved_release positive
    rintro (_ | _) <;> rfl
  | rejected verdict | unlimited verdict | admitted verdict permit | closed =>
    exact moved_keep positive rfl rfl

theorem moved_drop (positive : shared.Positive) (task : TcpTask) :
    Moved shared task (shared.drop task) := by
  cases task with
  | admitted verdict permit =>
    apply moved_release positive
    rintro (_ | _) <;> rfl
  | _ => exact moved_keep positive rfl rfl

end TcpCounters

namespace TcpAdmission

/-- The number of tasks that hold a slot which passes a test. -/
def held (state : TcpAdmission) (kind : SlotKind) (test : TcpSlot → Bool) :
    Nat :=
  Tasks.total (TcpTask.holds kind test) state.tasks

/-- The counters count the slots that are held.  Of the slots of a key, no
more were taken under limits up to a bound than the bound itself. -/
structure Counted (state : TcpAdmission) : Prop where
  positive : state.Positive
  exact : ∀ kind key,
    state.count kind key = state.held kind fun slot => slot.key = key
  few : ∀ kind key (bound : Nat), (state.held kind fun slot =>
    slot.key = key ∧ slot.limit ≤ bound) ≤ bound

variable {hasher : TcpHasher} {compiled : TransportPolicy}
variable {state : TcpAdmission}

theorem counted_start : Counted (start compiled) := by
  refine ⟨?_, ?_, ?_⟩
  · intro kind key
    simp [start]
  · intro kind key
    rfl
  · intro kind key bound
    exact Nat.zero_le bound

variable {kind : SlotKind}

theorem held_le_of_imp {test other : TcpSlot → Bool}
    (implied : ∀ slot, test slot = true → other slot = true) :
    state.held kind test ≤ state.held kind other := by
  apply Tasks.total_mono
  intro task _
  unfold TcpTask.holds
  cases task.permit.slot kind with
  | none => exact Nat.le_refl _
  | some slot =>
    simp only [Option.any_some]
    split
    · next passes => rw [if_pos (implied slot passes)]
    · exact Nat.zero_le _

variable {task : TcpTask}

theorem held_set {index : Nat} (found : state.tasks[index]? = some task)
    (next : TcpTask) (later : TcpCounters) (kind : SlotKind)
    (test : TcpSlot → Bool) :
    ({ toTcpCounters := later, tasks := state.tasks.set index next } :
        TcpAdmission).held kind test + task.holds kind test =
      state.held kind test + next.holds kind test :=
  Tasks.total_set found

theorem counted_move {index : Nat} {next : TcpTask} {later : TcpCounters}
    (counted : Counted state) (found : state.tasks[index]? = some task)
    (positive : later.Positive)
    (effect : TcpCounters.SlotMove state.toTcpCounters task next later) :
    Counted
      { toTcpCounters := later, tasks := state.tasks.set index next } := by
  cases effect with
  | keep same counts =>
    have unchanged : ∀ kind test,
        ({ toTcpCounters := later, tasks := state.tasks.set index next } :
          TcpAdmission).held kind test = state.held kind test := by
      intro kind test
      apply Tasks.total_set_of_eq found
      simp only [TcpTask.holds, same]
    refine ⟨positive, ?_, ?_⟩
    · intro kind key
      rw [unchanged, counts, counted.exact]
    · intro kind key bound
      rw [unchanged]
      exact counted.few kind key bound
  | take kind slot policy loaded limited free before after counts =>
    have gained : ∀ other test, next.holds other test = task.holds other test +
          if other = kind ∧ test slot then 1 else 0 := by
      intro other test
      unfold TcpTask.holds
      rw [after]
      rcases eq_or_ne other kind with rfl | different
      · simp [before]
      · simp [different]
    refine ⟨positive, ?_, ?_⟩
    · intro other key
      have sum := held_set found next later other fun slot => slot.key = key
      rw [counts, counted.exact]
      have gain := gained other fun slot => slot.key = key
      simp only [decide_eq_true_eq] at gain
      simp only [eq_comm (a := key)]
      omega
    · intro other key bound
      have sum := held_set found next later other fun slot => slot.key = key ∧
        slot.limit ≤ bound
      have gain := gained other fun slot => slot.key = key ∧ slot.limit ≤ bound
      have few := counted.few other key bound
      by_cases new : other = kind ∧ slot.key = key ∧ slot.limit ≤ bound
      · obtain ⟨rfl, rfl, small⟩ := new
        have all : (state.held other fun other => other.key = slot.key ∧
            other.limit ≤ bound) ≤ state.count other slot.key := by
          rw [counted.exact]
          apply held_le_of_imp
          intro other passes
          simp only [decide_eq_true_eq] at passes ⊢
          exact passes.1
        simp only [small, and_self, decide_true, if_true] at gain
        omega
      · simp only [decide_eq_true_eq, new, if_false] at gain
        omega
  | give kind slot before after counts =>
    have lost : ∀ other test, task.holds other test = next.holds other test +
          if other = kind ∧ test slot then 1 else 0 := by
      intro other test
      unfold TcpTask.holds
      rw [after]
      rcases eq_or_ne other kind with rfl | different
      · simp [before]
      · simp [different]
    refine ⟨positive, ?_, ?_⟩
    · intro other key
      have sum := held_set found next later other fun slot => slot.key = key
      have loss := lost other fun slot => slot.key = key
      rw [counts, counted.exact]
      simp only [decide_eq_true_eq] at loss
      simp only [eq_comm (a := key)]
      omega
    · intro other key bound
      have sum := held_set found next later other fun slot => slot.key = key ∧
        slot.limit ≤ bound
      have loss := lost other fun slot => slot.key = key ∧ slot.limit ≤ bound
      have few := counted.few other key bound
      omega

theorem counted_turn (counted : Counted state) {index : Nat}
    {move : TcpTask → TcpTask × TcpCounters}
    (moved : ∀ task, TcpCounters.Moved state.toTcpCounters task
      (move task)) : Counted (state.turn index move) := by
  unfold turn
  cases found : state.tasks[index]? with
  | none => exact counted
  | some task => exact counted_move counted found (moved task).1 (moved task).2

theorem counted_step (counted : Counted state) (event : TcpEvent) :
    Counted (step hasher state event) := by
  cases event with
  | reload policy => exact ⟨counted.positive, counted.exact, counted.few⟩
  | arrive connection =>
    have same : ∀ kind test,
        (step hasher state (.arrive connection)).held kind test =
          state.held kind test := by
      intro kind test
      cases kind <;>
        simp [step, held, TcpTask.holds, TcpTask.permit,
          TcpPermit.empty, TcpPermit.slot]
    refine ⟨counted.positive, ?_, ?_⟩
    · intro kind key
      rw [same]
      exact counted.exact kind key
    · intro kind key bound
      rw [same]
      exact counted.few kind key bound
  | proceed index now =>
    exact counted_turn counted
      (TcpCounters.moved_proceed hasher counted.positive now)
  | drop index =>
    exact counted_turn counted (TcpCounters.moved_drop counted.positive)

theorem counted_run (events : List TcpEvent) :
    Counted (run hasher compiled events) := by
  apply Run.invariant counted_start
  intro state event counted
  exact counted_step counted event

/-- No call of `admit_tcp` and no drop is in progress. -/
def AtRest (state : TcpAdmission) : Prop :=
  ∀ task ∈ state.tasks, task.inProgress = false

def livePermits (state : TcpAdmission) : List TcpPermit :=
  state.tasks.filterMap TcpTask.livePermit

/-- The number of live permits recorded for a key. -/
def recorded (state : TcpAdmission) (kind : SlotKind) (key : UInt64) : Nat :=
  state.livePermits.countP fun permit => (permit.slot kind).any fun slot =>
    slot.key = key

theorem held_eq_recorded (atRest : AtRest state)
    {key : UInt64} :
    (state.held kind fun slot => slot.key = key) = state.recorded kind key := by
  apply Tasks.total_eq_countP
  intro task member
  have resting := atRest task member
  cases task with
  | admitted verdict permit => rfl
  | rejected verdict | unlimited verdict | closed => cases kind <;> rfl
  | _ => cases resting

/-- The tasks that may hold a slot: live permits, and calls or drops in
progress.  A rejected admission is not among them. -/
def holders (state : TcpAdmission) : List TcpTask :=
  state.tasks.filter fun task => task.livePermit.isSome || task.inProgress

theorem total_holders {test : TcpSlot → Bool} :
    Tasks.total (TcpTask.holds kind test) state.holders =
      state.held kind test := by
  apply Tasks.total_filter
  intro task _ resting
  cases task with
  | rejected verdict | unlimited verdict | closed => cases kind <;> rfl
  | _ => cases resting

/-- Some slot of a key was taken under a limit that the present count does
not exceed. -/
theorem exists_limit (counted : Counted state) {key : UInt64}
    (active : 0 < state.count kind key) :
    ∃ task ∈ state.holders, ∃ slot, task.permit.slot kind = some slot ∧
      slot.key = key ∧ state.count kind key ≤ slot.limit := by
  by_contra none
  push Not at none
  have all : state.count kind key ≤ state.held kind fun slot =>
      slot.key = key ∧ slot.limit ≤ state.count kind key - 1 := by
    refine (counted.exact kind key).le.trans ?_
    rw [← total_holders, ← total_holders]
    apply Tasks.total_mono
    intro task member
    unfold TcpTask.holds
    cases held : task.permit.slot kind with
    | none => exact Nat.le_refl _
    | some slot =>
      by_cases same : slot.key = key
      · have small : (slot.limit : Nat) ≤ state.count kind key - 1 :=
          Nat.le_sub_one_of_lt (none task member slot held same)
        simp [same, small]
      · simp [same]
  have few := counted.few kind key (state.count kind key - 1)
  omega

/-- A counter that grew in a turn is within the limit of the policy which
the task had loaded. -/
theorem count_move_le {next : TcpTask} {later : TcpCounters} {key : UInt64}
    (effect : TcpCounters.SlotMove state.toTcpCounters task next later)
    (grown : state.count kind key < later.count kind key) :
    ∃ policy limit, task.policy = some policy ∧
      policy.tcp.limit kind = some limit ∧ later.count kind key ≤ limit := by
  cases effect with
  | keep same counts =>
    rw [counts] at grown
    exact absurd grown (Nat.lt_irrefl _)
  | take taken slot policy loaded limited free before after counts =>
    rw [counts] at grown ⊢
    split at grown
    · next here =>
      obtain ⟨rfl, rfl⟩ := here
      refine ⟨policy, slot.limit, loaded, limited, ?_⟩
      rw [if_pos ⟨rfl, rfl⟩]
      exact free
    · exact absurd grown (Nat.lt_irrefl _)
  | give given slot before after counts =>
    rw [counts] at grown
    omega

/-- A counter grows only in a turn of an admission that has loaded its
policy, and stays within the limit of that policy. -/
theorem count_step_le (counted : Counted state) {event : TcpEvent}
    {key : UInt64}
    (grown : state.count kind key < (step hasher state event).count kind key) :
    ∃ index now task policy limit, event = .proceed index now ∧
      state.tasks[index]? = some task ∧ task.policy = some policy ∧
      policy.tcp.limit kind = some limit ∧
      (step hasher state event).count kind key ≤ limit := by
  cases event with
  | reload policy | arrive connection => exact absurd grown (Nat.lt_irrefl _)
  | proceed index now =>
    cases found : state.tasks[index]? with
    | none =>
      simp only [step, turn, found] at grown
      exact absurd grown (Nat.lt_irrefl _)
    | some task =>
      have moved := TcpCounters.moved_proceed hasher counted.positive now task
      simp only [step, turn, found] at grown ⊢
      obtain ⟨policy, limit, loaded, limited, within⟩ :=
        count_move_le moved.2 grown
      exact ⟨index, now, task, policy, limit, rfl, found, loaded,
        limited, within⟩
  | drop index =>
    cases found : state.tasks[index]? with
    | none =>
      simp only [step, turn, found] at grown
      exact absurd grown (Nat.lt_irrefl _)
    | some task =>
      have moved := TcpCounters.moved_drop counted.positive task
      simp only [step, turn, found] at grown
      obtain ⟨policy, limit, loaded, _⟩ := count_move_le moved.2 grown
      cases task with
      | admitted verdict permit => cases loaded
      | _ => exact absurd grown (Nat.lt_irrefl _)

/-- Concurrency slots of raw TCP connections, over every interleaving of
admissions, drops and reloads.  At rest the counters say how many live
permits record a key, and no entry is zero.  A counter is within a limit one
of its slots was granted under, and grows only by an admission, up to the
limit that admission was checked against.  At any time only live permits and
calls in progress are counted. -/
theorem tcp_slots (hasher : TcpHasher) (compiled : TransportPolicy)
    (events : List TcpEvent) (kind : SlotKind) (key : UInt64) :
    ((run hasher compiled events).AtRest →
      ((run hasher compiled events).active kind).lookup key =
        if (run hasher compiled events).recorded kind key = 0 then none
        else some ((run hasher compiled events).recorded kind key)) ∧
    (0 < (run hasher compiled events).count kind key →
      ∃ task ∈ (run hasher compiled events).holders, ∃ slot,
        task.permit.slot kind = some slot ∧ slot.key = key ∧
        (run hasher compiled events).count kind key ≤ slot.limit) ∧
    (∀ event, (run hasher compiled events).count kind key <
        (run hasher compiled (events ++ [event])).count kind key →
      ∃ index now task policy, ∃ limit : ℕ+, event = .proceed index now ∧
        (run hasher compiled events).tasks[index]? = some task ∧
        task.policy = some policy ∧
        policy.tcp.limit kind = some limit ∧
        (run hasher compiled (events ++ [event])).count kind key ≤ limit) ∧
    (run hasher compiled events).count kind key =
      Tasks.total (TcpTask.holds kind fun slot => slot.key = key)
        (run hasher compiled events).holders := by
  have counted : Counted (run hasher compiled events) := counted_run events
  refine ⟨?_, ?_, ?_, ?_⟩
  · intro atRest
    rw [SlotCounts.lookup_eq (counted.positive kind),
      ← held_eq_recorded atRest, ← counted.exact, TcpCounters.count]
  · intro active
    exact exists_limit counted active
  · intro event grown
    simp only [run, Run.after_concat] at grown ⊢
    exact count_step_le counted grown
  · rw [total_holders, counted.exact]

/-- At most two connections of a listener and one of an address. -/
def twoOfListener : TransportPolicy :=
  { enabled := true
    mode := .enforce
    blocked := []
    httpRate := none
    key := .clientIp
    domains := ∅
    maxEntries := 0
    idleTtl := 0
    tcp :=
      { connectionRate := none
        maxConcurrentPerIp := some ⟨1, Nat.one_pos⟩
        maxConcurrentPerListener := some ⟨2, Nat.two_pos⟩ } }

/-- Two connections of one address: the second takes a slot of the listener
and gives it back.  Then the limits are removed. -/
def secondRefused : List TcpEvent :=
  let connection := { listener := "ssh", clientIp := .v4 0xc0000201 }
  [.arrive connection, .proceed 0 0, .proceed 0 0, .proceed 0 0,
    .proceed 0 0, .arrive connection, .proceed 1 0, .proceed 1 0,
    .proceed 1 0, .proceed 1 0, .proceed 1 0,
    .reload { twoOfListener with tcp := ⟨none, none, none⟩ }]

theorem tcp_slots_secondRefused :
    let state := run ⟨fun _ _ => 0, fun _ => 1, fun _ _ => 2⟩
      twoOfListener secondRefused
    state.AtRest ∧ state.recorded .listener 1 = 1 ∧
      (state.active .listener).lookup 1 = some 1 := by
  intro state
  have atRest : state.AtRest := by
    unfold AtRest
    decide +kernel
  have one : state.recorded .listener 1 = 1 := by decide +kernel
  have counted := (tcp_slots _ _ secondRefused .listener 1).1 atRest
  exact ⟨atRest, one, by rw [counted, one]; rfl⟩

end TcpAdmission

end SieveTube
