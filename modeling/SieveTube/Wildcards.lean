import SieveTube.Hostname
import SieveTube.Library.KeyedMap

/-!
# Wildcard patterns

A pattern covers a hostname if it is that name or puts a `*` in the place of
its first label.  Tables keyed by patterns are searched for the name itself
and then for the one wildcard that could cover it.
-/

namespace SieveTube.Hostname

/-- The hostname is the pattern, or the pattern with one label for its
`*`. -/
def Covers (pattern hostname : String) : Prop :=
  pattern = hostname ∨ ∃ first rest : List Char,
      pattern.toList = '*' :: '.' :: rest ∧
      hostname.toList = first ++ '.' :: rest ∧ '.' ∉ first ∧ first ≠ []

/-- The lookup in a table of patterns: the exact name first, then the
wildcard for it. -/
def findPattern {Value : Type u} (table : AList fun _ : String => Value)
    (hostname : String) : Option Value :=
  match table.lookup hostname with
  | some value => some value
  | none => (wildcardFor hostname).bind table.lookup

variable {hostname pattern : String}

theorem wildcardFor_eq_some_iff :
    wildcardFor hostname = some pattern ↔ ∃ first rest : List Char,
        pattern.toList = '*' :: '.' :: rest ∧
        hostname.toList = first ++ '.' :: rest ∧ '.' ∉ first ∧
        '.' ∈ rest := by
  unfold wildcardFor
  constructor
  · intro found
    split at found
    · cases found
    · next first rest split =>
      obtain ⟨shape, clear⟩ := Text.splitOnce_eq_some_iff.mp split
      split at found
      · next dotted =>
        cases found
        exact ⟨first, rest, by simp, shape, clear, by simpa using dotted⟩
      · cases found
  · rintro ⟨first, rest, shape, whole, clear, dotted⟩
    rw [Text.splitOnce_eq_some_iff.mpr ⟨whole, clear⟩]
    simp only [List.contains_eq_mem, dotted, decide_true, if_true]
    rw [← shape, String.ofList_toList]

theorem matchesPattern_iff :
    matchesPattern pattern hostname = true ↔ pattern = hostname ∨
        ∃ first rest : List Char, pattern.toList = '*' :: '.' :: rest ∧
          hostname.toList = first ++ '.' :: rest ∧ '.' ∉ first ∧
          first ≠ [] ∧ first ≠ ['*'] := by
  unfold matchesPattern
  by_cases same : pattern = hostname
  · simp [same]
  · rw [if_neg same]
    constructor
    · intro matched
      right
      split at matched
      · next suffix first rest shape split =>
        obtain ⟨whole, clear⟩ := Text.splitOnce_eq_some_iff.mp split
        simp only [Bool.and_eq_true, Bool.not_eq_true', decide_eq_true_eq,
          List.isEmpty_eq_false_iff] at matched
        obtain ⟨⟨nonempty, label⟩, rfl⟩ := matched
        exact ⟨first, rest, shape, whole, clear, nonempty, label⟩
      · cases matched
    · rintro (equal | ⟨first, rest, shape, whole, clear, nonempty, label⟩)
      · exact absurd equal same
      · rw [shape, Text.splitOnce_eq_some_iff.mpr ⟨whole, clear⟩]
        simp [nonempty, label]

variable {allowUnderscore : Bool}

theorem Normalized.star_notMem {name : List Char}
    (normalized : Normalized false allowUnderscore name) : '*' ∉ name := by
  intro star
  obtain ⟨label, member, found⟩ :=
    Text.exists_part_iff.mpr ⟨star, (show '*' ≠ '.' by decide)⟩
  obtain ⟨_, passed⟩ :=
    checkLabel_of_checkLabels normalized.checked label member
  obtain ⟨-, -, ⟨-, impossible, -⟩ | ⟨-, valid⟩⟩ :=
    checkLabel_eq_ok_iff.mp passed
  · cases impossible
  · have allowed := valid '*' found
    revert allowed
    cases allowUnderscore <;> decide

variable {allowWildcard : Bool}

theorem Normalized.first_ne_nil {first rest : List Char}
    (normalized : Normalized allowWildcard allowUnderscore
      (first ++ '.' :: rest)) : first ≠ [] := by
  rintro rfl
  have checked := normalized.checked
  rw [List.splitOn_append_cons_self] at checked
  exact (label_of_checkLabels checked [] (by simp)).1 rfl

/-- For a normalized hostname the code's rule is the one of `Covers`. -/
theorem matchesPattern_iff_covers
    (normalized : Normalized false allowUnderscore hostname.toList) :
    matchesPattern pattern hostname = true ↔ Covers pattern hostname := by
  rw [matchesPattern_iff]
  refine or_congr_right ⟨?_, ?_⟩
  · rintro ⟨first, rest, shape, whole, clear, nonempty, -⟩
    exact ⟨first, rest, shape, whole, clear, nonempty⟩
  · rintro ⟨first, rest, shape, whole, clear, nonempty⟩
    refine ⟨first, rest, shape, whole, clear, nonempty, ?_⟩
    rintro rfl
    exact normalized.star_notMem (by simp [whole])

theorem covers_of_wildcardFor
    (normalized : Normalized allowWildcard allowUnderscore hostname.toList)
    (wildcard : wildcardFor hostname = some pattern) :
    Covers pattern hostname := by
  obtain ⟨first, rest, shape, whole, clear, -⟩ :=
    wildcardFor_eq_some_iff.mp wildcard
  rw [whole] at normalized
  exact .inr ⟨first, rest, shape, whole, clear, normalized.first_ne_nil⟩

section Table

variable {Value : Type u} {table : AList fun _ : String => Value}
variable {hostname : String}

theorem findPattern_of_lookup {value : Value}
    (exact : table.lookup hostname = some value) :
    findPattern table hostname = some value := by
  simp [findPattern, exact]

theorem key_of_findPattern {value : Value}
    (found : findPattern table hostname = some value) :
    ∃ key, table.lookup key = some value ∧
      (key = hostname ∨ wildcardFor hostname = some key) := by
  unfold findPattern at found
  split at found
  · next exact =>
    cases found
    exact ⟨hostname, exact, .inl rfl⟩
  · obtain ⟨key, wildcard, stored⟩ := Option.bind_eq_some_iff.mp found
    exact ⟨key, stored, .inr wildcard⟩

theorem findPattern_isSome_iff : (findPattern table hostname).isSome ↔
      hostname ∈ table ∨ ∃ key ∈ table, wildcardFor hostname = some key := by
  constructor
  · intro found
    obtain ⟨value, found⟩ := Option.isSome_iff_exists.mp found
    obtain ⟨key, stored, rfl | wildcard⟩ := key_of_findPattern found
    · exact .inl (AList.lookup_isSome.mp (by simp [stored]))
    · exact .inr ⟨key, AList.lookup_isSome.mp (by simp [stored]), wildcard⟩
  · unfold findPattern
    rintro (member | ⟨key, member, wildcard⟩)
    · obtain ⟨value, stored⟩ :=
        Option.isSome_iff_exists.mp (AList.lookup_isSome.mpr member)
      simp [stored]
    · cases table.lookup hostname with
      | some value => rfl
      | none => simpa [wildcard] using AList.lookup_isSome.mpr member

end Table

end SieveTube.Hostname
