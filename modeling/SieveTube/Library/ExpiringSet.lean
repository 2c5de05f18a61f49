import SieveTube.Library.KeyedMap

/-!
# Sorted sets and sets that expire

Two kinds of values of a Redis-like store.  A sorted set gives its members a
score.  A set may have a time after which the whole of it is gone; commands
first look at the time and then work on what is left.
-/

/-- Members with their scores. -/
abbrev ScoredSet (Member : Type u)
    [DecidableEq Member] := AList fun _ : Member => Nat

namespace ScoredSet

variable {Member : Type u} [DecidableEq Member] {set : ScoredSet Member}
variable {member : Member}

/-- `ZREM` of one member, with the number of members it removed. -/
def remove (set : ScoredSet Member) (member : Member) :
    Nat × ScoredSet Member :=
  (if (set.lookup member).isSome then 1 else 0, set.erase member)

/-- `ZREMRANGEBYSCORE` from the lowest score. -/
def removeUpTo (set : ScoredSet Member) (score : Nat) : ScoredSet Member :=
  set.retain fun _ stored => score < stored

/-- `ZRANGEBYSCORE` up to the highest score, with scores. -/
def range (set : ScoredSet Member) (least : Nat) : List (Member × Nat) :=
  (set.entries.filter fun entry => least ≤ entry.2).map fun entry =>
    (entry.1, entry.2)

theorem mem_range {least score : Nat} : (member, score) ∈ set.range least ↔
      set.lookup member = some score ∧ least ≤ score := by
  have stored : set.lookup member = some score ↔
      (⟨member, score⟩ : Σ _ : Member, Nat) ∈ set.entries :=
    AList.mem_lookup_iff
  rw [stored]
  simp only [range, List.mem_map, List.mem_filter, decide_eq_true_eq]
  constructor
  · rintro ⟨⟨_, _⟩, ⟨found, enough⟩, same⟩
    obtain ⟨rfl, rfl⟩ := Prod.mk.inj same
    exact ⟨found, enough⟩
  · rintro ⟨found, enough⟩
    exact ⟨⟨member, score⟩, ⟨found, enough⟩, rfl⟩

end ScoredSet

/-- A set without members is the same as no set. -/
structure ExpiringSet (Member : Type u) where
  members : List Member
  expiry : Option Nat

namespace ExpiringSet

variable {Member : Type u} [DecidableEq Member]

def empty : ExpiringSet Member := { members := [], expiry := none }

section

variable (set : ExpiringSet Member) (member : Member)

/-- What is left of a set at a time.  The last moment still belongs to its
life. -/
def current (now : Nat) : ExpiringSet Member :=
  if set.expiry.any (· < now) then empty else set

/-- `SADD` of one member. -/
def add : ExpiringSet Member :=
  if member ∈ set.members then set
  else { set with members := member :: set.members }

/-- `SREM` of one member. -/
def remove :
    ExpiringSet Member :=
  if set.members.filter (· ≠ member) = [] then empty
  else { set with members := set.members.filter (· ≠ member) }

/-- `PEXPIRE`: a set that is to live no longer is deleted. -/
def expire (now ttl : Nat) :
    ExpiringSet Member :=
  if set.members = [] then set
  else if ttl = 0 then empty
  else { set with expiry := some (now + ttl) }

end

variable {set : ExpiringSet Member} {member other : Member}

@[simp]
theorem mem_add :
    other ∈ (set.add member).members ↔
      other = member ∨ other ∈ set.members := by
  unfold add
  split
  · next present =>
    constructor
    · exact .inr
    · rintro (rfl | old)
      · exact present
      · exact old
  · simp

@[simp]
theorem mem_remove : other ∈ (set.remove member).members ↔
      other ∈ set.members ∧ other ≠ member := by
  have kept : other ∈ set.members.filter (· ≠ member) ↔
      other ∈ set.members ∧ other ≠ member := by
    simp
  unfold remove
  split
  · next none =>
    rw [none] at kept
    exact kept
  · exact kept

/-- As long as the set has members, it keeps its time. -/
theorem expiry_remove (left : other ∈ (set.remove member).members) :
    (set.remove member).expiry = set.expiry := by
  unfold remove at left ⊢
  split
  · next none =>
    rw [if_pos none] at left
    cases left
  · rfl

variable {members : List Member}

theorem mem_addAll : other ∈ (members.foldl add set).members ↔
      other ∈ members ∨ other ∈ set.members := by
  induction members generalizing set with
  | nil => simp
  | cons member members ih =>
    rw [List.foldl_cons, ih, mem_add, List.mem_cons]
    tauto

theorem mem_removeAll : other ∈ (members.foldl remove set).members ↔
      other ∈ set.members ∧ other ∉ members := by
  induction members generalizing set with
  | nil => simp
  | cons member members ih =>
    rw [List.foldl_cons, ih, mem_remove, List.mem_cons]
    tauto

theorem expiry_removeAll (left : other ∈ (members.foldl remove set).members) :
    (members.foldl remove set).expiry = set.expiry := by
  induction members generalizing set with
  | nil => rfl
  | cons member members ih =>
    rw [List.foldl_cons] at left ⊢
    rw [ih left]
    exact expiry_remove (mem_removeAll.mp left).1

omit [DecidableEq Member] in
theorem current_eq_self {now expiry : Nat} (timed : set.expiry = some expiry)
    (alive : now ≤ expiry) : set.current now = set := by
  unfold current
  rw [timed, Option.any_some, if_neg]
  simpa using alive

omit [DecidableEq Member] in
theorem mem_of_mem_current {now : Nat}
    (present : other ∈ (set.current now).members) : other ∈ set.members := by
  unfold current at present
  split at present
  · cases present
  · exact present

end ExpiringSet
