import Mathlib.Data.List.AList

/-!
# Conditional updates of finite keyed maps

Mathlib's `AList` is a finite map with at most one entry for each key.  This
file adds the updates concurrent maps offer beside `insert` and `erase`: a
removal guarded by a test of the stored value, the same removal over a list
of keys, and the sweep that keeps only the entries passing a test.  Each one
is characterised by what a lookup returns afterwards.
-/

namespace AList

variable {κ : Type u} {ν : Type v} [DecidableEq κ]
variable (target key : κ) (keys : List κ) (value : ν) (test : ν → Bool)
variable (map : AList fun _ : κ => ν)

/-- Remove the entry of `key` when its value passes `test`. -/
def removeIf : AList fun _ : κ => ν :=
  if (map.lookup key).any test then map.erase key else map

/-- Remove the entries of `keys` whose values pass `test`, one by one. -/
def removeAllIf : AList fun _ : κ => ν :=
  keys.foldl (fun current key => current.removeIf key test) map

/-- Store the same value under every key of a list, one by one. -/
def insertAll : AList fun _ : κ => ν :=
  keys.foldl (fun current key => current.insert key value) map

/-- Keep the entries that pass `test`. -/
def retain (test : κ → ν → Bool) (map : AList fun _ : κ => ν) :
    AList fun _ : κ => ν :=
  { entries := map.entries.filter fun entry => test entry.1 entry.2
    nodupKeys := map.nodupKeys.sublist List.filter_sublist }

/-- The number of entries. -/
def size : Nat := map.entries.length

theorem lookup_insert_eq :
    (map.insert key value).lookup target =
      if target = key then some value else map.lookup target := by
  by_cases same : target = key
  · subst target
    simp
  · simp [same, lookup_insert_ne same]

theorem lookup_erase_eq :
    (map.erase key).lookup target =
      if target = key then none else map.lookup target := by
  by_cases same : target = key
  · subst target
    simp
  · simp [same, lookup_erase_ne same]

theorem lookup_removeIf :
    (map.removeIf key test).lookup target =
      if target = key then (map.lookup target).filter (fun value => !test value)
      else map.lookup target := by
  by_cases same : target = key
  · subst target
    cases found : map.lookup key with
    | none => simp [removeIf, found]
    | some value =>
      cases passes : test value <;>
        simp [removeIf, found, passes, Option.filter]
  · unfold removeIf
    split
    · exact lookup_erase_ne same
    · rfl

theorem lookup_removeAllIf :
    (map.removeAllIf keys test).lookup target =
      if target ∈ keys then
        (map.lookup target).filter (fun value => !test value)
      else map.lookup target := by
  induction keys generalizing map with
  | nil => simp [removeAllIf]
  | cons key keys ih =>
    have step := ih (map.removeIf key test)
    simp only [removeAllIf, List.foldl_cons] at step ⊢
    rw [step, lookup_removeIf]
    by_cases here : target = key <;> by_cases later : target ∈ keys <;>
      cases map.lookup target <;> simp [here, later, Option.filter] <;> grind

theorem lookup_insertAll :
    (map.insertAll keys value).lookup target =
      if target ∈ keys then some value else map.lookup target := by
  induction keys generalizing map with
  | nil => simp [insertAll]
  | cons key keys ih =>
    have step := ih (map.insert key value)
    simp only [insertAll, List.foldl_cons] at step ⊢
    rw [step, lookup_insert_eq]
    by_cases here : target = key <;> by_cases later : target ∈ keys <;>
      simp [here, later]

theorem lookup_retain (test : κ → ν → Bool) (map : AList fun _ : κ => ν) :
    (map.retain test).lookup target =
      (map.lookup target).filter (test target) := by
  have stored : ∀ (other : AList fun _ : κ => ν) (value : ν),
      other.lookup target = some value ↔ ⟨target, value⟩ ∈ other.entries :=
    fun other value => mem_lookup_iff
  apply Option.ext
  intro value
  rw [stored, Option.filter_eq_some_iff, stored]
  simp [retain, List.mem_filter]

omit [DecidableEq κ] in
theorem size_retain_le (test : κ → ν → Bool)
    (map : AList fun _ : κ => ν) : (map.retain test).size ≤ map.size :=
  List.length_filter_le _ _

theorem size_erase_le : (map.erase key).size ≤ map.size :=
  (List.kerase_sublist key map.entries).length_le

theorem size_insert_of_lookup_eq_none {key : κ} {value : ν}
    {map : AList fun _ : κ => ν} (absent : map.lookup key = none) :
    (map.insert key value).size = map.size + 1 := by
  have outside : key ∉ map := lookup_eq_none.mp absent
  simp [size, insert_of_notMem outside]

theorem size_insert_of_lookup_eq_some {key : κ} {value old : ν}
    {map : AList fun _ : κ => ν} (present : map.lookup key = some old) :
    (map.insert key value).size = map.size := by
  have inside : key ∈ map.keys := by
    rw [← mem_keys, ← lookup_isSome, present]
    rfl
  have lengths : ∀ other : AList fun _ : κ => ν,
      other.size = other.keys.length := by
    intro other
    simp [size, keys, List.keys]
  rw [lengths, lengths, keys_insert, List.length_cons,
    List.length_erase_of_mem inside]
  have positive := List.length_pos_of_mem inside
  omega

theorem size_insert_le :
    (map.insert key value).size ≤ map.size + 1 := by
  cases found : map.lookup key with
  | none => rw [size_insert_of_lookup_eq_none found]
  | some old =>
    rw [size_insert_of_lookup_eq_some found]
    exact Nat.le_succ _

end AList
