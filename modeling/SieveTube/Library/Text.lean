import Mathlib.Algebra.GroupWithZero.Nat
import Mathlib.Data.List.DropRight

/-!
# Text as the standard library of Rust sees it

A Rust string is modelled by its list of characters.  The functions here
follow the documented behaviour of `str::trim`, `str::strip_suffix`,
`str::len`, `str::is_ascii` and the `Debug` formatting of strings.
-/

namespace Text

/-- The Unicode property `White_Space`, which `str::trim` removes. -/
def isWhitespace (char : Char) : Bool :=
  let code := char.toNat
  (0x9 ≤ code && code ≤ 0xd) || code = 0x20 || code = 0x85 || code = 0xa0 ||
    code = 0x1680 || (0x2000 ≤ code && code ≤ 0x200a) || code = 0x2028 ||
    code = 0x2029 || code = 0x202f || code = 0x205f || code = 0x3000

def trimStart (text : List Char) : List Char := text.dropWhile isWhitespace

def trimEnd (text : List Char) : List Char := text.rdropWhile isWhitespace

def trim (text : List Char) : List Char := trimEnd (trimStart text)

variable {text : List Char}

/-- Text that neither starts nor ends with white space is left alone. -/
theorem trim_eq_self
    (first : ∀ char, text.head? = some char → isWhitespace char = false)
    (last : ∀ char, text.getLast? = some char → isWhitespace char = false) :
    trim text = text := by
  have start : trimStart text = text := by
    cases text with
    | nil => rfl
    | cons char rest => simp [trimStart, first char rfl]
  rw [trim, start, trimEnd, List.rdropWhile_eq_self_iff]
  intro nonempty
  simp [last _ (List.getLast?_eq_some_getLast nonempty)]

theorem trim_eq_self_of_forall
    (visible : ∀ char ∈ text, isWhitespace char = false) :
    trim text = text :=
  trim_eq_self (fun char head => visible char (List.mem_of_head? head))
    fun char last => visible char (List.mem_of_getLast? last)

/-- The characters of the category `Cc`. -/
def isControl (char : Char) : Bool :=
  char.toNat < 0x20 || (0x7f ≤ char.toNat && char.toNat ≤ 0x9f)

/-- `text.strip_suffix(last)`: the text before a final `last`. -/
def stripLast (last : Char) (text : List Char) : Option (List Char) :=
  if text.getLast? = some last then some text.dropLast else none

/-- `text.strip_prefix(start)` for a string pattern. -/
def stripStart (start text : List Char) : Option (List Char) :=
  if start.isPrefixOf text then some (text.drop start.length) else none

/-- `text.strip_suffix(ending)` for a string pattern. -/
def stripEnd (ending text : List Char) : Option (List Char) :=
  if ending.isSuffixOf text then
    some (text.take (text.length - ending.length))
  else none

/-- `text.split_once(separator)`. -/
def splitOnce (separator : Char) (text : List Char) :
    Option (List Char × List Char) :=
  match text.dropWhile (· ≠ separator) with
  | [] => none
  | _ :: rest => some (text.takeWhile (· ≠ separator), rest)

/-- `text.rsplit_once(separator)`. -/
def rsplitOnce (separator : Char) (text : List Char) :
    Option (List Char × List Char) :=
  match splitOnce separator text.reverse with
  | none => none
  | some (after, before) => some (before.reverse, after.reverse)

/-- The length of the UTF-8 encoding. -/
def byteLength (text : List Char) : Nat :=
  (text.map fun char => char.utf8Size).sum

def isAscii (text : List Char) : Bool := text.all fun char => char.toNat < 128

def toAsciiLowercase (text : List Char) : List Char := text.map Char.toLower

/-- One character inside the `Debug` form of an ASCII string. -/
def debugChar (char : Char) : List Char :=
  match char with
  | '\x00' => ['\\', '0']
  | '\t' => ['\\', 't']
  | '\r' => ['\\', 'r']
  | '\n' => ['\\', 'n']
  | '"' => ['\\', '"']
  | '\\' => ['\\', '\\']
  | other =>
    if other.toNat < 0x20 || other.toNat = 0x7f then
      ['\\', 'u', '\x7b'] ++ (Nat.toDigits 16 other.toNat) ++ ['\x7d']
    else [other]

/-- The `Debug` form of an ASCII string, as `format!("{:?}")` prints it. -/
def debug (text : List Char) : String :=
  String.ofList (['"'] ++ text.flatMap debugChar ++ ['"'])

variable {separator : Char}

theorem splitOnce_append {before : List Char} (clear : separator ∉ before)
    (after : List Char) :
    splitOnce separator (before ++ separator :: after) =
      some (before, after) := by
  have others : ∀ char ∈ before, decide (char ≠ separator) = true := by
    intro char member
    simp only [ne_eq, decide_not, Bool.not_eq_true', decide_eq_false_iff_not]
    rintro rfl
    exact clear member
  unfold splitOnce
  rw [List.dropWhile_append_of_pos others, List.takeWhile_append_of_pos others]
  simp

theorem splitOnce_eq_none (clear : separator ∉ text) :
    splitOnce separator text = none := by
  have others : text.dropWhile (· ≠ separator) = [] := by
    rw [List.dropWhile_eq_nil_iff]
    intro char member
    simp only [ne_eq, decide_not, Bool.not_eq_true', decide_eq_false_iff_not]
    rintro rfl
    exact clear member
  unfold splitOnce
  rw [others]

theorem splitOnce_eq_some_iff {before after : List Char} :
    splitOnce separator text = some (before, after) ↔
      text = before ++ separator :: after ∧ separator ∉ before := by
  constructor
  · intro found
    by_cases member : separator ∈ text
    · obtain ⟨first, rest, rfl, clear⟩ := List.eq_append_cons_of_mem member
      rw [splitOnce_append clear] at found
      cases found
      exact ⟨rfl, clear⟩
    · rw [splitOnce_eq_none member] at found
      cases found
  · rintro ⟨rfl, clear⟩
    exact splitOnce_append clear after

theorem rsplitOnce_append {after : List Char} (clear : separator ∉ after)
    (before : List Char) :
    rsplitOnce separator (before ++ separator :: after) =
      some (before, after) := by
  have reversed : (before ++ separator :: after).reverse =
      after.reverse ++ separator :: before.reverse := by
    simp
  unfold rsplitOnce
  rw [reversed, splitOnce_append (by simpa using clear)]
  simp

theorem rsplitOnce_eq_none (clear : separator ∉ text) :
    rsplitOnce separator text = none := by
  unfold rsplitOnce
  rw [splitOnce_eq_none (by simpa using clear)]

/-- The parts have every character of a text but the separator. -/
theorem exists_part_iff {char : Char} :
    (∃ part ∈ text.splitOn separator, char ∈ part) ↔
      char ∈ text ∧ char ≠ separator := by
  induction length : text.length using Nat.strong_induction_on
    generalizing text with
  | h size ih =>
    by_cases splits : separator ∈ text
    · obtain ⟨before, after, rfl⟩ := List.append_of_mem splits
      have shorter : before.length < size ∧ after.length < size := by
        simp only [List.length_append, List.length_cons] at length
        omega
      simp only [List.splitOn_append_cons_self, List.mem_append,
        or_and_right, exists_or, List.mem_cons,
        ih before.length shorter.1 rfl,
        ih after.length shorter.2 rfl]
      tauto
    · simp only [List.splitOn_eq_singleton splits, List.mem_singleton,
        exists_eq_left, iff_self_and]
      rintro member rfl
      exact splits member

/-- A property of the ASCII characters can be checked for each of them. -/
theorem forall_of_isAscii {Holds : Char → Prop} (ascii : isAscii text = true)
    (each : ∀ code < 128, Holds (Char.ofNat code)) :
    ∀ char ∈ text, Holds char := by
  intro char member
  have small : char.toNat < 128 := by
    simpa using List.all_eq_true.mp ascii char member
  have held := each char.toNat small
  rwa [Char.ofNat_toNat] at held

theorem byteLength_eq_length (narrow : ∀ char ∈ text, char.utf8Size = 1) :
    byteLength text = text.length := by
  induction text with
  | nil => rfl
  | cons char rest ih =>
    simp only [List.forall_mem_cons] at narrow
    have tail := ih narrow.2
    simp only [byteLength] at tail
    simp [byteLength, narrow.1, tail, Nat.add_comm]

theorem toAsciiLowercase_of_isAscii (ascii : isAscii text = true) :
    byteLength (toAsciiLowercase text) = byteLength text ∧
      isAscii (toAsciiLowercase text) = true ∧
      toAsciiLowercase (toAsciiLowercase text) = toAsciiLowercase text := by
  have facts : ∀ char ∈ text, char.utf8Size = 1 ∧
      char.toLower.utf8Size = 1 ∧ char.toLower.toNat < 128 ∧
      char.toLower.toLower = char.toLower :=
    forall_of_isAscii ascii (by decide)
  refine ⟨?_, ?_, ?_⟩
  · rw [byteLength_eq_length fun char member =>
      (facts char member).1, byteLength_eq_length]
    · simp [toAsciiLowercase]
    · intro char member
      obtain ⟨source, sourceMember, rfl⟩ := List.mem_map.mp member
      exact (facts source sourceMember).2.1
  · simp only [isAscii, toAsciiLowercase, List.all_map, List.all_eq_true]
    intro char member
    simpa using (facts char member).2.2.1
  · simp only [toAsciiLowercase, List.map_map]
    exact List.map_congr_left fun char member => (facts char member).2.2.2

end Text
