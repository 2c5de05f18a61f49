import SieveTube.Library.Fallible
import SieveTube.Library.Text

/-!
# Hostname normalization

Every hostname used as a lookup key passes through `normalizeHostname`, so
that spellings differing in case or in one trailing dot name the same entry.
The checks run in the order of the source and report its error texts.
-/

namespace SieveTube

namespace Hostname

def maxNameLen : Nat := 253

def maxLabelLen : Nat := 63

structure HostnameError where
  message : String
deriving DecidableEq

def err (message : String) : HostnameError := ⟨message⟩

/-- The characters of a label: letters, digits, hyphens and, for DNS owner
names, underscores. -/
def labelChar (allowUnderscore : Bool) (char : Char) : Bool :=
  char.isAlphanum || char = '-' || (allowUnderscore && char = '_')

/-- The checks on one label of the lowercased name `lower`. -/
def checkLabel (lower : List Char) (labelCount : Nat)
    (allowWildcard allowUnderscore : Bool) (index : Nat)
    (label : List Char) : Except HostnameError Unit :=
  if label.isEmpty then
    .error (err ("empty label in " ++ Text.debug lower))
  else if maxLabelLen < Text.byteLength label then
    .error (err s!"label longer than {maxLabelLen} bytes")
  else if label = ['*'] then
    if allowWildcard && index = 0 && 1 < labelCount then .ok ()
    else .error (err ("wildcard not allowed in " ++ Text.debug lower))
  else if label.head? = some '-' || label.getLast? = some '-' then
    .error (err ("label " ++ Text.debug label ++ " starts or ends with '-'"))
  else if label.all (labelChar allowUnderscore) then .ok ()
  else .error (err ("invalid character in label " ++ Text.debug label))

/-- The loop over the labels, numbered from `index`. -/
def checkLabels (lower : List Char) (labelCount : Nat)
    (allowWildcard allowUnderscore : Bool) :
    Nat → List (List Char) → Except HostnameError Unit
  | _, [] => .ok ()
  | index, label :: labels => do
      checkLabel lower labelCount allowWildcard allowUnderscore index label
      checkLabels lower labelCount allowWildcard allowUnderscore
        (index + 1) labels

def normalizeChars (input : List Char) (allowWildcard allowUnderscore : Bool) :
    Except HostnameError (List Char) :=
  let trimmed := Text.trim input
  let name := (Text.stripLast '.' trimmed).getD trimmed
  if name.isEmpty then
    .error (err "empty hostname")
  else if maxNameLen < Text.byteLength name then
    .error (err s!"hostname longer than {maxNameLen} bytes")
  else if !Text.isAscii name then
    .error (err "hostname must be ASCII (use punycode for IDN)")
  else
    let lower := Text.toAsciiLowercase name
    let labels := lower.splitOn '.'
    do
      checkLabels lower labels.length allowWildcard allowUnderscore 0 labels
      return lower

def normalize (input : String) (allowWildcard allowUnderscore : Bool) :
    Except HostnameError String :=
  (normalizeChars input.toList allowWildcard allowUnderscore).map String.ofList

def normalizeHostname (input : String) : Except HostnameError String :=
  normalize input false false

/-- Additionally accepts a single leading `*` label. -/
def normalizeHostnamePattern (input : String) :
    Except HostnameError String :=
  normalize input true false

/-- DNS owner names may contain underscores. -/
def normalizeDnsName (input : String) : Except HostnameError String :=
  normalize input true true

example : (normalizeHostname " Web.Example.COM. ").toOption =
    some "web.example.com" := by
  decide

/-- The wildcard pattern that would cover a hostname. -/
def wildcardFor (hostname : String) : Option String :=
  match Text.splitOnce '.' hostname.toList with
  | none => none
  | some (_, rest) =>
    if rest.contains '.' then some (String.ofList ('*' :: '.' :: rest))
    else none

example : wildcardFor "a.example.com" = some "*.example.com" := by
  decide

/-- Whether a hostname is covered by a pattern: it is the pattern, or the
pattern is a wildcard for its first label. -/
def matchesPattern (pattern hostname : String) : Bool :=
  if pattern = hostname then true
  else
    match pattern.toList, Text.splitOnce '.' hostname.toList with
    | '*' :: '.' :: suffix, some (first, rest) =>
      !first.isEmpty && first ≠ ['*'] && rest = suffix
    | _, _ => false

/-- Whether a name equals a zone or is inside it. -/
def isWithinZone (name zone : String) : Bool :=
  let base := (Text.stripStart ['*', '.'] name.toList).getD name.toList
  base = zone.toList || (Text.stripEnd zone.toList base).any fun labels =>
      labels.getLast? = some '.'

example : isWithinZone "*.a.example.com" "example.com" ∧
    ¬ isWithinZone "badexample.com" "example.com" := by
  decide

variable {allowWildcard allowUnderscore : Bool}

variable {lower : List Char} {labelCount index : Nat}
  {labels : List (List Char)}

theorem checkLabel_eq_ok_iff {label : List Char} :
    checkLabel lower labelCount allowWildcard allowUnderscore index label =
      .ok () ↔ label ≠ [] ∧ Text.byteLength label ≤ maxLabelLen ∧
        (label = ['*'] ∧ allowWildcard = true ∧ index = 0 ∧ 1 < labelCount ∨
          (label.head? ≠ some '-' ∧ label.getLast? ≠ some '-') ∧
            ∀ char ∈ label, labelChar allowUnderscore char = true) := by
  have star : labelChar allowUnderscore '*' = false := by
    cases allowUnderscore <;> decide
  unfold checkLabel
  by_cases empty : label = []
  · simp [empty]
  · by_cases long : maxLabelLen < Text.byteLength label
    · simp [empty, long, Nat.not_le.mpr long]
    · by_cases wildcard : label = ['*']
      · subst wildcard
        by_cases allowed : allowWildcard = true ∧ index = 0 ∧ 1 < labelCount
        · simp [allowed, Nat.not_lt.mp long]
        · simp [long, allowed, star, and_assoc]
      · by_cases hyphen : label.head? = some '-' ∨ label.getLast? = some '-'
        · simp [empty, long, wildcard, hyphen, ← not_or]
        · simp [empty, long, Nat.not_lt.mp long, wildcard, hyphen, ← not_or]

section

variable (checked : checkLabels lower labelCount allowWildcard allowUnderscore
  index labels = .ok ())
include checked

theorem checkLabel_of_checkLabels :
    ∀ label ∈ labels, ∃ number, checkLabel lower labelCount allowWildcard
      allowUnderscore number label = .ok () := by
  induction labels generalizing index with
  | nil => simp
  | cons label labels ih =>
    obtain ⟨_, first, others⟩ := Except.bind_eq_ok_iff.mp checked
    exact List.forall_mem_cons.mpr ⟨⟨index, first⟩, ih others⟩

/-- A label that passes its checks is not empty and has only characters that
need no further treatment. -/
theorem label_of_checkLabels : ∀ label ∈ labels, label ≠ [] ∧
      ∀ char ∈ label, char = '*' ∨ labelChar allowUnderscore char = true := by
  intro label member
  obtain ⟨number, passed⟩ := checkLabel_of_checkLabels checked label member
  obtain ⟨nonempty, -, ⟨rfl, -⟩ | ⟨-, valid⟩⟩ := checkLabel_eq_ok_iff.mp passed
  · simp
  · exact ⟨nonempty, fun char found => .inr (valid char found)⟩

end

theorem labelChar_visible : ∀ code < 128, (Char.ofNat code = '*' ∨
        labelChar allowUnderscore (Char.ofNat code) = true) →
      Text.isWhitespace (Char.ofNat code) = false := by
  cases allowUnderscore <;> decide

/-- A normalized name: nothing is left to trim, strip or lowercase. -/
structure Normalized (allowWildcard allowUnderscore : Bool)
    (name : List Char) : Prop where
  nonempty : name ≠ []
  short : Text.byteLength name ≤ maxNameLen
  ascii : Text.isAscii name = true
  lower : Text.toAsciiLowercase name = name
  checked : checkLabels name (name.splitOn '.').length allowWildcard
    allowUnderscore 0 (name.splitOn '.') = .ok ()

variable {name : List Char}

/-- The name inside an input: without white space around it and without one
final dot. -/
def enclosed (input : List Char) : List Char :=
  (Text.stripLast '.' (Text.trim input)).getD (Text.trim input)

theorem of_normalizeChars {input : List Char}
    (accepted : normalizeChars input allowWildcard allowUnderscore = .ok name) :
    Text.toAsciiLowercase (enclosed input) = name ∧
      Normalized allowWildcard allowUnderscore name := by
  change (if (enclosed input).isEmpty then _ else _) = _ at accepted
  split at accepted
  · cases accepted
  · next nonempty =>
    split at accepted
    · cases accepted
    · next short =>
      split at accepted
      · cases accepted
      · next ascii =>
        obtain ⟨_, labels, same⟩ := Except.bind_eq_ok_iff.mp accepted
        cases same
        obtain ⟨length, still, once⟩ :=
          Text.toAsciiLowercase_of_isAscii (by simpa using ascii)
        refine ⟨rfl, ?_, ?_, still, once, labels⟩
        · simpa [Text.toAsciiLowercase, enclosed] using nonempty
        · exact length ▸ Nat.le_of_not_lt short

section

variable {input name : String}
  (accepted : normalize input allowWildcard allowUnderscore = .ok name)
include accepted

theorem of_normalize :
    Text.toAsciiLowercase (enclosed input.toList) = name.toList ∧
      Normalized allowWildcard allowUnderscore name.toList := by
  obtain ⟨chars, found, rfl⟩ := Except.map_eq_ok_iff.mp accepted
  rw [String.toList_ofList]
  exact of_normalizeChars found

theorem normalized_of_normalize :
    Normalized allowWildcard allowUnderscore name.toList :=
  (of_normalize accepted).2

end

section

variable (normalized : Normalized allowWildcard allowUnderscore name)
include normalized

theorem Normalized.visible :
    ∀ char ∈ name, char ≠ '.' → Text.isWhitespace char = false := by
  intro char member different
  obtain ⟨label, labelMember, found⟩ :=
    Text.exists_part_iff.mpr ⟨member, different⟩
  have allowed :=
    (label_of_checkLabels normalized.checked label labelMember).2 char found
  have visible : ∀ char ∈ name,
      (char = '*' ∨ labelChar allowUnderscore char = true) →
        Text.isWhitespace char = false :=
    Text.forall_of_isAscii normalized.ascii labelChar_visible
  exact visible char member allowed

theorem Normalized.not_dotted : name.getLast? ≠ some '.' := by
  intro dotted
  obtain ⟨before, rfl⟩ := List.getLast?_eq_some_iff.mp dotted
  have checked := normalized.checked
  rw [List.splitOn_append_cons_self] at checked
  have empty := (label_of_checkLabels checked [] (by simp)).1
  exact empty rfl

theorem Normalized.trim : Text.trim name = name := by
  apply Text.trim_eq_self_of_forall
  intro char member
  by_cases dot : char = '.'
  · subst char
    decide
  · exact normalized.visible char member dot

theorem Normalized.normalizeChars_eq :
    normalizeChars name allowWildcard allowUnderscore = .ok name := by
  have stripped : Text.stripLast '.' name = none := by
    simp [Text.stripLast, normalized.not_dotted]
  have short : ¬ maxNameLen < Text.byteLength name :=
    Nat.not_lt.mpr normalized.short
  simp only [normalizeChars, normalized.trim, stripped, Option.getD_none,
    List.isEmpty_iff, normalized.nonempty, if_false, short,
    normalized.ascii, Bool.not_true, Bool.false_eq_true, normalized.lower,
    normalized.checked]
  rfl

end

theorem checkLabel_of_plain {other label : List Char} {count number : Nat}
    (plain : checkLabel lower labelCount false false index label = .ok ()) :
    checkLabel other count allowWildcard allowUnderscore number label =
      .ok () := by
  rw [checkLabel_eq_ok_iff] at plain ⊢
  obtain ⟨nonempty, short, ⟨-, impossible, -⟩ | ⟨inner, valid⟩⟩ := plain
  · cases impossible
  · refine ⟨nonempty, short, .inr ⟨inner, fun char member => ?_⟩⟩
    have allowed := valid char member
    simp only [labelChar, Bool.or_eq_true] at allowed ⊢
    exact allowed.imp_right nofun

theorem checkLabels_of_forall
    (each : ∀ label ∈ labels, ∀ number, checkLabel lower labelCount
      allowWildcard allowUnderscore number label = .ok ()) :
    checkLabels lower labelCount allowWildcard allowUnderscore index labels =
      .ok () := by
  induction labels generalizing index with
  | nil => rfl
  | cons label labels ih =>
    rw [List.forall_mem_cons] at each
    exact Except.bind_eq_ok_iff.mpr ⟨(), each.1 index, ih each.2⟩

/-- A hostname is also a pattern and a DNS name. -/
theorem Normalized.widen (normalized : Normalized false false name) :
    Normalized allowWildcard allowUnderscore name where
  nonempty := normalized.nonempty
  short := normalized.short
  ascii := normalized.ascii
  lower := normalized.lower
  checked := checkLabels_of_forall fun label member number => by
    obtain ⟨_, plain⟩ :=
      checkLabel_of_checkLabels normalized.checked label member
    exact checkLabel_of_plain plain

theorem Normalized.normalize_eq {name : String}
    (normalized : Normalized allowWildcard allowUnderscore name.toList) :
    normalize name allowWildcard allowUnderscore = .ok name := by
  rw [normalize, normalized.normalizeChars_eq, Except.map, String.ofList_toList]

/-- Lowercase letters, digits and hyphens. -/
def keyChar (char : Char) : Bool := char.isLower || char.isDigit || char = '-'

/-- The names that are used as keys. -/
structure IsKey (name : List Char) : Prop where
  length : 1 ≤ Text.byteLength name ∧ Text.byteLength name ≤ 253
  labels : ∀ label ∈ name.splitOn '.', 1 ≤ label.length ∧
    label.length ≤ 63 ∧ label.head? ≠ some '-' ∧ label.getLast? ≠ some '-' ∧
    ∀ char ∈ label, keyChar char = true

theorem keyChar_plain {char : Char} (key : keyChar char = true) :
    char.toNat < 128 ∧ char.toLower = char ∧ labelChar false char = true ∧
      char.utf8Size = 1 := by
  have small : char.toNat < 128 := by
    simp only [keyChar, Char.isDigit, Bool.or_eq_true,
      Bool.and_eq_true, decide_eq_true_eq] at key
    rcases key with (letter | digit) | rfl
    · have bounds := Bool.and_eq_true_iff.mp letter
      have above := of_decide_eq_true bounds.2
      exact Nat.lt_of_le_of_lt (UInt32.le_iff_toNat_le.mp above) (by decide)
    · exact Nat.lt_of_le_of_lt (UInt32.le_iff_toNat_le.mp digit.2) (by decide)
    · decide
  have each : ∀ code < 128, keyChar (Char.ofNat code) = true →
      (Char.ofNat code).toLower = Char.ofNat code ∧
        labelChar false (Char.ofNat code) = true ∧
        (Char.ofNat code).utf8Size = 1 := by
    decide
  have facts := each char.toNat small
  rw [Char.ofNat_toNat] at facts
  exact ⟨small, facts key⟩

/-- The keys are exactly the names that are accepted as they are. -/
theorem normalized_iff_isKey : Normalized false false name ↔ IsKey name := by
  constructor
  · intro normalized
    have narrow : ∀ char ∈ name, char.utf8Size = 1 :=
      Text.forall_of_isAscii normalized.ascii (by decide)
    have lower : ∀ char ∈ name, char.toLower = char →
        labelChar false char = true → keyChar char = true :=
      Text.forall_of_isAscii normalized.ascii (by decide)
    have unchanged : ∀ char ∈ name, char.toLower = char :=
      List.map_inj_left.mp (normalized.lower.trans (List.map_id name).symm)
    refine ⟨⟨?_, normalized.short⟩, fun label member => ?_⟩
    · rw [Text.byteLength_eq_length narrow]
      exact List.length_pos_iff.mpr normalized.nonempty
    · have inside : ∀ char ∈ label, char ∈ name := fun char found =>
        (Text.exists_part_iff.mp ⟨label, member, found⟩).1
      obtain ⟨_, plain⟩ :=
        checkLabel_of_checkLabels normalized.checked label member
      obtain ⟨nonempty, short, ⟨-, impossible, -⟩ | ⟨inner, valid⟩⟩ :=
        checkLabel_eq_ok_iff.mp plain
      · cases impossible
      · rw [Text.byteLength_eq_length fun char found =>
          narrow char (inside char found)] at short
        exact ⟨List.length_pos_iff.mpr nonempty, short, inner.1, inner.2,
          fun char found => lower char (inside char found)
            (unchanged char (inside char found)) (valid char found)⟩
  · intro key
    have chars : ∀ char ∈ name, char.toNat < 128 ∧ char.toLower = char := by
      intro char member
      by_cases dot : char = '.'
      · subst dot
        decide
      · obtain ⟨label, part, found⟩ := Text.exists_part_iff.mpr ⟨member, dot⟩
        obtain ⟨small, lower, -⟩ :=
          keyChar_plain ((key.labels label part).2.2.2.2 char found)
        exact ⟨small, lower⟩
    refine { nonempty := ?_, short := key.length.2, ascii := ?_,
             lower := ?_, checked := checkLabels_of_forall ?_ }
    · rintro rfl
      cases key.length.1
    · simpa [Text.isAscii] using fun char member => (chars char member).1
    · exact (List.map_inj_left.mpr fun char member =>
        (chars char member).2).trans (List.map_id name)
    · intro label member number
      obtain ⟨nonempty, short, first, last, valid⟩ := key.labels label member
      have plain := fun char found => keyChar_plain (valid char found)
      refine checkLabel_eq_ok_iff.mpr ⟨List.length_pos_iff.mp nonempty, ?_,
        .inr ⟨⟨first, last⟩, fun char found => (plain char found).2.2.1⟩⟩
      rw [Text.byteLength_eq_length fun char found => (plain char found).2.2.2]
      exact short

theorem hostname_keys_canonical :
    (∀ first second firstKey secondKey, normalizeHostname first = .ok firstKey →
      normalizeHostname second = .ok secondKey →
      (firstKey = secondKey ↔ Text.toAsciiLowercase (enclosed first.toList) =
          Text.toAsciiLowercase (enclosed second.toList))) ∧
    (∀ input key, normalizeHostname input = .ok key →
      normalizeHostname key = .ok key ∧ normalizeHostnamePattern key = .ok key ∧
        normalizeDnsName key = .ok key) ∧
    ∀ key, (∃ input, normalizeHostname input = .ok key) ↔ IsKey key.toList := by
  refine ⟨fun first second firstKey secondKey firstOk secondOk => ?_,
    fun input key accepted => ?_, fun key => ⟨?_, fun isKey => ⟨key, ?_⟩⟩⟩
  · rw [(of_normalize firstOk).1, (of_normalize secondOk).1, String.toList_inj]
  · have normalized := (of_normalize accepted).2
    exact ⟨normalized.normalize_eq,
      normalized.widen.normalize_eq, normalized.widen.normalize_eq⟩
  · rintro ⟨input, accepted⟩
    exact normalized_iff_isKey.mp (of_normalize accepted).2
  · exact (normalized_iff_isKey.mpr isKey).normalize_eq

end Hostname

end SieveTube
