import Mathlib.Data.Nat.Digits.Defs
import SieveTube.Library.Text

/-!
# Internet addresses as text

How the standard library of Rust reads and writes addresses: `FromStr` and
`Display` of `Ipv4Addr` and `Ipv6Addr`.  What is written is read back.
-/

namespace Inet

structure Ipv4Addr where
  first : Fin 256
  second : Fin 256
  third : Fin 256
  fourth : Fin 256
deriving DecidableEq

structure Ipv6Addr where
  segments : List (Fin 65536)
  length : segments.length = 8
deriving DecidableEq

section

variable (radix : Nat) (char : Char) (address : Ipv4Addr) (text : List Char)

def charValue : Option Nat :=
  if '0' ≤ char ∧ char ≤ '9' then some (char.toNat - '0'.toNat)
  else if 'a' ≤ char ∧ char ≤ 'z' then some (char.toNat - 'a'.toNat + 10)
  else if 'A' ≤ char ∧ char ≤ 'Z' then some (char.toNat - 'A'.toNat + 10)
  else none

/-- The value of a character as a digit of the given radix. -/
def toDigit : Option Nat := (charValue char).filter (· < radix)

def digitsValue (digits : List Char) : Nat :=
  digits.foldl (fun value char => value * radix + (toDigit radix char).getD 0) 0

/-- The parser's `read_number` for a type with `bound` values. -/
def readNumber (maxDigits : Nat) (allowZeroPrefix : Bool)
    (bound : Nat) (text : List Char) : Option (Fin bound × List Char) :=
  let digits := text.takeWhile fun char => (toDigit radix char).isSome
  if maxDigits < digits.length || digits.isEmpty then none
  else if !allowZeroPrefix && text.head? = some '0' && 1 < digits.length then
    none
  else if fits : digitsValue radix digits < bound then
    some (⟨digitsValue radix digits, fits⟩, text.drop digits.length)
  else none

def readGivenChar (expected : Char) : List Char → Option (List Char)
  | [] => none
  | char :: rest => if char = expected then some rest else none

def readOctet : List Char → Option (Fin 256 × List Char) :=
  readNumber 10 3 false 256

def readIpv4Addr : Option (Ipv4Addr × List Char) := do
  let (first, text) ← readOctet text
  let text ← readGivenChar '.' text
  let (second, text) ← readOctet text
  let text ← readGivenChar '.' text
  let (third, text) ← readOctet text
  let text ← readGivenChar '.' text
  let (fourth, text) ← readOctet text
  return (⟨first, second, third, fourth⟩, text)

def parseIpv4 : Option Ipv4Addr :=
  match readIpv4Addr text with
  | some (address, []) => some address
  | _ => none

def readGroup : List Char → Option (Fin 65536 × List Char) :=
  readNumber 16 4 true 65536

/-- Values after the first one follow a separator. -/
def readSeparator {Value : Type} (separator : Char) (index : Nat)
    (read : List Char → Option (Value × List Char)) (text : List Char) :
    Option (Value × List Char) :=
  if 0 < index then (readGivenChar separator text).bind read else read text

/-- The two groups an IPv4 address stands for. -/
def Ipv4Addr.groups : List (Fin 65536) :=
  [⟨address.first * 256 + address.second, by omega⟩,
    ⟨address.third * 256 + address.fourth, by omega⟩]

/-- Up to `remaining` groups, the last two of which may be written as an IPv4
address.  The flag says whether they were. -/
def readGroups :
    (remaining index : Nat) → List Char → List (Fin 65536) × Bool × List Char
  | 0, _, text => ([], false, text)
  | remaining + 1, index, text =>
    let embedded :=
      if 0 < remaining then readSeparator ':' index readIpv4Addr text
      else none
    match embedded with
    | some (address, text) => (address.groups, true, text)
    | none =>
      match readSeparator ':' index readGroup text with
      | none => ([], false, text)
      | some (group, text) =>
        let rest := readGroups remaining (index + 1) text
        (group :: rest.1, rest.2)

instance groupsNeZero : NeZero 65536 := ⟨by decide⟩

def readIpv6Groups : Option (List (Fin 65536) × List Char) :=
  match readGroups 8 0 text with
  | (head, embedded, text) =>
    if head.length = 8 then some (head, text)
    else if embedded then none
    else do
      let text ← readGivenChar ':' text
      let text ← readGivenChar ':' text
      let (tail, _, text) := readGroups (7 - head.length) 0 text
      return (head ++ List.replicate (8 - head.length - tail.length) 0 ++
        tail, text)

def parseIpv6 : Option Ipv6Addr :=
  match readIpv6Groups text with
  | some (segments, []) =>
    if length : segments.length = 8 then some ⟨segments, length⟩ else none
  | _ => none

def Ipv4Addr.display : List Char :=
  Nat.toDigits 10 address.first ++ '.' ::
    (Nat.toDigits 10 address.second ++ '.' ::
      (Nat.toDigits 10 address.third ++ '.' :: Nat.toDigits 10 address.fourth))

end

/-- Groups after the first one in hexadecimal. -/
def separated (groups : List (Fin 65536)) : List Char :=
  groups.flatMap fun group => ':' :: Nat.toDigits 16 group

def displayGroups : List (Fin 65536) → List Char
  | [] => []
  | first :: tail => Nat.toDigits 16 first ++ separated tail

structure Span where
  start : Nat
  len : Nat

/-- The first of the longest runs of zeros. -/
def longestZeroes : Nat → Span → Span → List (Fin 65536) → Span
  | _, longest, _, [] => longest
  | index, longest, current, segment :: rest =>
    if segment = 0 then
      let current : Span :=
        { start := if current.len = 0 then index else current.start
          len := current.len + 1 }
      longestZeroes (index + 1)
        (if longest.len < current.len then current else longest) current rest
    else longestZeroes (index + 1) longest ⟨0, 0⟩ rest

def toIpv4Mapped : List (Fin 65536) → Option Ipv4Addr
  | [0, 0, 0, 0, 0, 0xffff, high, low] =>
    some ⟨⟨high / 256, by omega⟩, ⟨high % 256, by omega⟩,
      ⟨low / 256, by omega⟩, ⟨low % 256, by omega⟩⟩
  | _ => none

def Ipv6Addr.display (address : Ipv6Addr) : List Char :=
  match toIpv4Mapped address.segments with
  | some mapped => "::ffff:".toList ++ mapped.display
  | none =>
    let zeroes := longestZeroes 0 ⟨0, 0⟩ ⟨0, 0⟩ address.segments
    if 1 < zeroes.len then
      displayGroups (address.segments.take zeroes.start) ++ "::".toList ++
        displayGroups (address.segments.drop (zeroes.start + zeroes.len))
    else displayGroups address.segments

example : parseIpv6 "2001:DB8:0::1".toList =
    some ⟨[0x2001, 0xdb8, 0, 0, 0, 0, 0, 1], rfl⟩ := by
  decide +kernel

example : Ipv6Addr.display ⟨[0x2001, 0xdb8, 0, 0, 0, 0, 0, 1], rfl⟩ =
    "2001:db8::1".toList := by
  decide +kernel

section Numbers

variable {radix number : Nat}

theorem charValue_digitChar :
    ∀ digit < 16, charValue (Nat.digitChar digit) = some digit := by
  decide

theorem toDigit_digitChar {digit : Nat} (small : radix ≤ 16)
    (below : digit < radix) :
    toDigit radix (Nat.digitChar digit) = some digit := by
  rw [toDigit, charValue_digitChar digit (by omega)]
  simp [below]

theorem exists_digit_of_mem_toDigits {char : Char} (proper : 1 < radix)
    (member : char ∈ Nat.toDigits radix number) :
    ∃ digit < radix, char = Nat.digitChar digit := by
  induction number using Nat.strong_induction_on with
  | h number ih =>
    by_cases single : number < radix
    · rw [Nat.toDigits_of_lt_base single] at member
      exact ⟨number, single, by simpa using member⟩
    · have least : radix ≤ number := Nat.le_of_not_lt single
      rw [Nat.toDigits_of_base_le proper least] at member
      rcases List.mem_append.mp member with earlier | last
      · exact ih (number / radix) (Nat.div_lt_self (by omega) proper) earlier
      · exact ⟨number % radix, Nat.mod_lt _ (by omega), by simpa using last⟩

theorem digitsValue_toDigits (proper : 1 < radix) (small : radix ≤ 16) :
    digitsValue radix (Nat.toDigits radix number) = number := by
  induction number using Nat.strong_induction_on with
  | h number ih =>
    by_cases single : number < radix
    · rw [Nat.toDigits_of_lt_base single]
      simp [digitsValue, toDigit_digitChar small single]
    · have least : radix ≤ number := Nat.le_of_not_lt single
      have shorter := ih (number / radix) (Nat.div_lt_self (by omega) proper)
      have last : number % radix < radix := Nat.mod_lt _ (by omega)
      rw [Nat.toDigits_of_base_le proper least, digitsValue, List.foldl_append]
      rw [digitsValue] at shorter
      simp [shorter, toDigit_digitChar small last, Nat.div_add_mod']

theorem digitChar_ne_zero :
    ∀ digit < 16, 0 < digit → Nat.digitChar digit ≠ '0' := by
  decide

theorem head_toDigits_ne_zero (proper : 1 < radix) (small : radix ≤ 16)
    (positive : 0 < number) :
    (Nat.toDigits radix number).head? ≠ some '0' := by
  induction number using Nat.strong_induction_on with
  | h number ih =>
    by_cases single : number < radix
    · rw [Nat.toDigits_of_lt_base single]
      simpa using digitChar_ne_zero number (by omega) positive
    · have least : radix ≤ number := Nat.le_of_not_lt single
      have shorter := ih (number / radix) (Nat.div_lt_self (by omega) proper)
        (Nat.div_pos least (by omega))
      rw [Nat.toDigits_of_base_le proper least,
        List.head?_append_of_ne_nil _ Nat.toDigits_ne_nil]
      exact shorter

/-- A number that was written is read back up to the first character that is
no digit. -/
theorem readNumber_toDigits {maxDigits bound : Nat} {allowZeroPrefix : Bool}
    {rest : List Char} (proper : 1 < radix) (small : radix ≤ 16)
    (some_digits : 0 < maxDigits) (short : number < radix ^ maxDigits)
    {fits : number < bound}
    (ends : ∀ char, rest.head? = some char → toDigit radix char = none) :
    readNumber radix maxDigits allowZeroPrefix bound
      (Nat.toDigits radix number ++ rest) = some (⟨number, fits⟩, rest) := by
  have digits : (Nat.toDigits radix number ++ rest).takeWhile
      (fun char => (toDigit radix char).isSome) =
        Nat.toDigits radix number := by
    have written : ∀ char ∈ Nat.toDigits radix number,
        (toDigit radix char).isSome = true := by
      intro char member
      obtain ⟨digit, below, rfl⟩ := exists_digit_of_mem_toDigits proper member
      simp [toDigit_digitChar small below]
    rw [List.takeWhile_append_of_pos written]
    cases rest with
    | nil => simp
    | cons char rest => simp [ends char rfl]
  have count : (Nat.toDigits radix number).length ≤ maxDigits :=
    (Nat.length_toDigits_le_iff proper some_digits).mpr short
  have nonempty : Nat.toDigits radix number ≠ [] := Nat.toDigits_ne_nil
  have head : (Nat.toDigits radix number ++ rest).head? =
      (Nat.toDigits radix number).head? :=
    List.head?_append_of_ne_nil _ nonempty
  have unpadded : ¬ ((Nat.toDigits radix number).head? = some '0' ∧
      1 < (Nat.toDigits radix number).length) := by
    rintro ⟨zero, long⟩
    by_cases positive : 0 < number
    · exact head_toDigits_ne_zero proper small positive zero
    · rw [Nat.toDigits_of_lt_base (by omega)] at long
      simp at long
  unfold readNumber
  simp only [digits, head, digitsValue_toDigits proper small]
  have within : ¬ maxDigits < (Nat.toDigits radix number).length :=
    Nat.not_lt.mpr count
  simp only [within, decide_false, Bool.false_or, List.isEmpty_iff, nonempty,
    if_false, fits, dif_pos, List.drop_left]
  rw [if_neg]
  simp only [Bool.and_eq_true, decide_eq_true_eq, not_and]
  intro zero long
  exact unpadded ⟨zero.2, long⟩

end Numbers

section Addresses

variable {rest : List Char}

theorem readOctet_toDigits (octet : Fin 256)
    (ends : ∀ char, rest.head? = some char → toDigit 10 char = none) :
    readOctet (Nat.toDigits 10 octet ++ rest) = some (octet, rest) :=
  readNumber_toDigits (by decide) (by decide) (by decide) (by omega) ends

theorem readIpv4Addr_display {address : Ipv4Addr}
    (ends : ∀ char, rest.head? = some char → toDigit 10 char = none) :
    readIpv4Addr (address.display ++ rest) = some (address, rest) := by
  have dot : ∀ (text : List Char) char,
      ('.' :: text).head? = some char → toDigit 10 char = none := by
    intro text char head
    obtain rfl : '.' = char := by simpa using head
    rfl
  simp only [readIpv4Addr, Ipv4Addr.display, List.append_assoc,
    List.cons_append, readOctet_toDigits _ (dot _), readOctet_toDigits _ ends,
    readGivenChar, if_true, Option.bind_eq_bind, Option.bind_some]
  rfl

theorem parseIpv4_display (address : Ipv4Addr) :
    parseIpv4 address.display = some address := by
  have read : readIpv4Addr (address.display ++ []) = some (address, []) :=
    readIpv4Addr_display (by simp)
  rw [List.append_nil] at read
  simp [parseIpv4, read]

variable {text : List Char}

/-- What is left after reading a number is the end of the text. -/
theorem readNumber_suffix {radix maxDigits bound : Nat} {allowZeroPrefix : Bool}
    {value : Fin bound}
    (read : readNumber radix maxDigits allowZeroPrefix bound text =
      some (value, rest)) :
    rest <:+ text := by
  unfold readNumber at read
  simp only at read
  split at read
  · cases read
  · split at read
    · cases read
    · split at read
      · obtain ⟨_, rfl⟩ := Prod.mk.inj (Option.some.inj read)
        exact List.drop_suffix _ _
      · cases read

theorem dot_mem_of_readIpv4Addr {address : Ipv4Addr}
    (read : readIpv4Addr text = some (address, rest)) : '.' ∈ text := by
  obtain ⟨⟨first, afterFirst⟩, readFirst, read⟩ :=
    Option.bind_eq_some_iff.mp read
  obtain ⟨afterDot, readDot, _⟩ := Option.bind_eq_some_iff.mp read
  have found : '.' ∈ afterFirst := by
    cases afterFirst with
    | nil => cases readDot
    | cons char afterChar =>
      simp only [readGivenChar, Option.ite_none_right_eq_some] at readDot
      rw [readDot.1]
      exact List.mem_cons_self
  exact (readNumber_suffix readFirst).subset found

variable (group : Fin 65536) (groups : List (Fin 65536))

theorem readGroup_toDigits
    (ends : ∀ char, rest.head? = some char → toDigit 16 char = none) :
    readGroup (Nat.toDigits 16 group ++ rest) = some (group, rest) :=
  readNumber_toDigits (by decide) (by decide) (by decide) (by omega) ends

theorem colon_ends (char : Char)
    (head : (':' :: text).head? = some char) : toDigit 16 char = none := by
  obtain rfl : ':' = char := by simpa using head
  rfl

theorem readGroup_eq_none
    (ends : ∀ char, rest.head? = some char → toDigit 16 char = none) :
    readGroup rest = none := by
  have digits : rest.takeWhile (fun char => (toDigit 16 char).isSome) = [] := by
    cases rest with
    | nil => rfl
    | cons char rest => simp [ends char rfl]
  simp [readGroup, readNumber, digits]

theorem digitChar_ne_dot : ∀ digit < 16, Nat.digitChar digit ≠ '.' := by
  decide

theorem dot_not_mem_toDigits : '.' ∉ Nat.toDigits 16 group := by
  intro member
  obtain ⟨digit, below, same⟩ := exists_digit_of_mem_toDigits (by decide) member
  exact digitChar_ne_dot digit below same.symm

theorem dot_not_mem_separated : '.' ∉ separated groups := by
  simp [separated, dot_not_mem_toDigits]

theorem dot_not_mem_displayGroups : '.' ∉ displayGroups groups := by
  cases groups <;>
    simp [displayGroups, dot_not_mem_toDigits, dot_not_mem_separated]

/-- After the groups comes no digit. -/
theorem separated_ends
    (ends : ∀ char, rest.head? = some char → toDigit 16 char = none) :
    ∀ char, (separated groups ++ rest).head? = some char →
      toDigit 16 char = none := by
  cases groups with
  | nil => exact ends
  | cons group groups =>
    intro char head
    obtain rfl : ':' = char := by simpa [separated] using head
    rfl

theorem readSeparator_ipv4_eq_none {index : Nat} (plain : '.' ∉ text) :
    readSeparator ':' index readIpv4Addr text = none := by
  rw [Option.eq_none_iff_forall_ne_some]
  rintro ⟨address, after⟩ read
  unfold readSeparator at read
  split at read
  · obtain ⟨inner, stripped, found⟩ := Option.bind_eq_some_iff.mp read
    cases text with
    | nil => cases stripped
    | cons char text =>
      simp only [readGivenChar, Option.ite_none_right_eq_some] at stripped
      cases stripped.2
      exact plain (List.mem_cons_of_mem _ (dot_mem_of_readIpv4Addr found))
  · exact plain (dot_mem_of_readIpv4Addr read)

/-- The text of the groups from an index on. -/
def groupsFrom : Nat → List (Fin 65536) → List Char
  | 0 => displayGroups
  | _ + 1 => separated

theorem readGroups_groupsFrom {groups : List (Fin 65536)}
    {remaining index : Nat}
    (room : groups.length ≤ remaining) (plain : '.' ∉ rest)
    (ends : ∀ char, rest.head? = some char → toDigit 16 char = none)
    (stops : groups.length = remaining ∨
      (readGivenChar ':' rest).bind readGroup = none) :
    readGroups remaining index (groupsFrom index groups ++ rest) =
      (groups, false, rest) := by
  induction groups generalizing remaining index with
  | nil =>
    have text : groupsFrom index [] ++ rest = rest := by cases index <;> rfl
    rw [text]
    cases remaining with
    | zero => rfl
    | succ remaining =>
      have stopped : readSeparator ':' index readGroup rest = none := by
        cases index with
        | zero => exact readGroup_eq_none ends
        | succ index => simpa [readSeparator] using stops
      simp [readGroups, readSeparator_ipv4_eq_none plain, stopped]
  | cons group groups ih =>
    cases remaining with
    | zero => simp at room
    | succ remaining =>
      have undotted : '.' ∉ groupsFrom index (group :: groups) ++ rest := by
        cases index <;>
          simp [groupsFrom, dot_not_mem_displayGroups,
            dot_not_mem_separated, plain]
      have first := readGroup_toDigits group (separated_ends groups ends)
      have read : readSeparator ':' index readGroup
          (groupsFrom index (group :: groups) ++ rest) =
          some (group, groupsFrom (index + 1) groups ++ rest) := by
        cases index with
        | zero => simpa [groupsFrom, displayGroups, readSeparator] using first
        | succ index =>
          simpa [groupsFrom, separated, readSeparator,
            readGivenChar] using first
      have others := @ih remaining (index + 1) (by simpa using room)
        (by simpa using stops)
      simp [readGroups, readSeparator_ipv4_eq_none undotted, read, others]

/-- The span marks zeros. -/
def Span.Zeroes (span : Span) (segments : List (Fin 65536)) : Prop :=
  ∃ before after,
    segments = before ++ List.replicate span.len 0 ++ after ∧
      before.length = span.start

variable {segments : List (Fin 65536)}

theorem Span.Zeroes.append {span : Span} (zeroes : span.Zeroes segments)
    (more : List (Fin 65536)) :
    span.Zeroes (segments ++ more) := by
  obtain ⟨before, after, same, start⟩ := zeroes
  exact ⟨before, after ++ more, by simp [same], start⟩

theorem longestZeroes_zeroes (rest : List (Fin 65536)) :
    ∀ {done : List (Fin 65536)} {longest current : Span}, longest.Zeroes done →
      (current.len = 0 ∨ ∃ before,
        done = before ++ List.replicate current.len 0 ∧
          before.length = current.start) →
      (longestZeroes done.length longest current rest).Zeroes
        (done ++ rest) := by
  induction rest with
  | nil =>
    intro done longest current found _
    simpa [longestZeroes] using found
  | cons segment rest ih =>
    intro done longest current found running
    have next : done ++ segment :: rest = done ++ [segment] ++ rest := by simp
    have index : done.length + 1 = (done ++ [segment]).length := by simp
    rw [next, longestZeroes, index]
    by_cases zero : segment = 0
    · subst segment
      have extended : ∃ before,
          done ++ [0] = before ++ List.replicate (current.len + 1) 0 ∧
            before.length =
              if current.len = 0 then done.length else current.start := by
        by_cases fresh : current.len = 0
        · exact ⟨done, by simp [fresh], by simp [fresh]⟩
        · obtain ⟨before, same, start⟩ := running.resolve_left fresh
          refine ⟨before, ?_, by simp [fresh, start]⟩
          rw [List.replicate_succ', ← List.append_assoc, ← same]
      simp only [if_true]
      refine ih ?_ (.inr extended)
      split
      · obtain ⟨before, same, start⟩ := extended
        exact ⟨before, [], by simpa using same, start⟩
      · exact found.append [0]
    · simp only [zero, if_false]
      exact ih (found.append [segment]) (.inl rfl)

theorem readIpv6Groups_displayGroups (length : segments.length = 8) :
    readIpv6Groups (displayGroups segments) = some (segments, []) := by
  have read : readGroups 8 0 (displayGroups segments ++ []) =
      (segments, false, []) :=
    readGroups_groupsFrom length.le (by simp) (by simp) (.inl length)
  rw [List.append_nil] at read
  simp [readIpv6Groups, read, length]

/-- An address with a run of zeros left out is read back. -/
theorem readIpv6Groups_compressed {head tail : List (Fin 65536)}
    (room : head.length + tail.length < 7) :
    readIpv6Groups (displayGroups head ++ "::".toList ++ displayGroups tail) =
      some (head ++ List.replicate (8 - head.length - tail.length) 0 ++ tail,
        []) := by
  have first : readGroups 8 0
      (displayGroups head ++ (':' :: ':' :: displayGroups tail)) =
        (head, false, ':' :: ':' :: displayGroups tail) := by
    apply readGroups_groupsFrom
    · omega
    · simp [dot_not_mem_displayGroups]
    · exact colon_ends
    · exact .inr (readGroup_eq_none colon_ends)
  have second : readGroups (7 - head.length) 0 (displayGroups tail ++ []) =
      (tail, false, []) :=
    readGroups_groupsFrom (by omega) (by simp) (by simp) (.inr rfl)
  rw [List.append_nil] at second
  have shorter : head.length ≠ 8 := by omega
  have colons : "::".toList = [':', ':'] := rfl
  rw [List.append_assoc, colons, List.cons_append, List.cons_append,
    List.nil_append, readIpv6Groups, first]
  simp [shorter, readGivenChar, second]

/-- The segments of a mapped address are those of the address it maps. -/
theorem eq_of_toIpv4Mapped {mapped : Ipv4Addr}
    (found : toIpv4Mapped segments = some mapped) :
    segments = [0, 0, 0, 0, 0, 0xffff] ++ mapped.groups := by
  unfold toIpv4Mapped at found
  split at found
  · next high low =>
    cases found
    simp [Ipv4Addr.groups, Nat.div_add_mod']
  · cases found

theorem readIpv6Groups_mapped (mapped : Ipv4Addr) :
    readIpv6Groups ("::ffff:".toList ++ mapped.display) =
      some ([0, 0, 0, 0, 0, 0xffff] ++ mapped.groups, []) := by
  have text : "::ffff:".toList ++ mapped.display =
      ':' :: ':' :: 'f' :: 'f' :: 'f' :: 'f' :: ':' :: mapped.display := rfl
  have embedded : readIpv4Addr mapped.display = some (mapped, []) := by
    have read : readIpv4Addr (mapped.display ++ []) = some (mapped, []) :=
      readIpv4Addr_display (by simp)
    rwa [List.append_nil] at read
  have group : readGroup ('f' :: 'f' :: 'f' :: 'f' :: ':' :: mapped.display) =
        some (0xffff, ':' :: mapped.display) := by
    have digits : Nat.toDigits 16 (0xffff : Fin 65536) =
        ['f', 'f', 'f', 'f'] := by decide
    have read : readGroup (Nat.toDigits 16 (0xffff : Fin 65536) ++
        ':' :: mapped.display) = some (0xffff, ':' :: mapped.display) :=
      readGroup_toDigits _ colon_ends
    rwa [digits] at read
  have undotted : readIpv4Addr
      ('f' :: 'f' :: 'f' :: 'f' :: ':' :: mapped.display) = none := rfl
  have head : readGroups 8 0
      (':' :: ':' :: 'f' :: 'f' :: 'f' :: 'f' :: ':' :: mapped.display) =
        ([], false, ':' :: ':' :: 'f' :: 'f' :: 'f' :: 'f' :: ':' ::
          mapped.display) := rfl
  have tail : readGroups 7 0
      ('f' :: 'f' :: 'f' :: 'f' :: ':' :: mapped.display) =
        (0xffff :: mapped.groups, true, []) := by
    simp [readGroups, readSeparator, readGivenChar, undotted, group, embedded]
  rw [text, readIpv6Groups, head]
  simp [readGivenChar, tail, Ipv4Addr.groups]

theorem parseIpv6_display (address : Ipv6Addr) :
    parseIpv6 address.display = some address := by
  obtain ⟨segments, length⟩ := address
  have read : readIpv6Groups (Ipv6Addr.display ⟨segments, length⟩) =
      some (segments, []) := by
    unfold Ipv6Addr.display
    cases found : toIpv4Mapped segments with
    | some mapped =>
      simp only [readIpv6Groups_mapped]
      rw [eq_of_toIpv4Mapped found]
    | none =>
      have nothing : Span.Zeroes ⟨0, 0⟩ [] := ⟨[], [], rfl, rfl⟩
      have zeroes : (longestZeroes 0 ⟨0, 0⟩ ⟨0, 0⟩ segments).Zeroes
          segments :=
        longestZeroes_zeroes segments nothing (.inl rfl)
      simp only
      split
      · next long =>
        generalize longestZeroes 0 ⟨0, 0⟩ ⟨0, 0⟩ segments =
          span at zeroes long ⊢
        obtain ⟨before, after, rfl, start⟩ := zeroes
        simp only [List.length_append, List.length_replicate] at length
        have dropped : (before ++ List.replicate span.len 0 ++ after).drop
            (span.start + span.len) = after := by
          rw [← start, List.append_assoc, ← List.drop_drop]
          simp
        have taken : (before ++ List.replicate span.len 0 ++ after).take
            span.start = before := by
          simp [← start]
        have run : 8 - before.length - after.length = span.len := by omega
        rw [dropped, taken, readIpv6Groups_compressed (by omega), run]
      · exact readIpv6Groups_displayGroups length
  simp [parseIpv6, read, length]

/-- The characters that addresses are written with. -/
def AddressChar (char : Char) : Prop :=
  char = '.' ∨ char = ':' ∨ ∃ digit < 16, char = Nat.digitChar digit

/-- A property of these characters can be checked for each of them. -/
theorem AddressChar.elim {motive : Char → Prop} {char : Char}
    (written : AddressChar char) (dot : motive '.') (colon : motive ':')
    (digits : ∀ digit < 16, motive (Nat.digitChar digit)) : motive char := by
  rcases written with rfl | rfl | ⟨digit, below, rfl⟩
  · exact dot
  · exact colon
  · exact digits digit below

theorem addressChar_of_mem_toDigits {radix number : Nat} {char : Char}
    (proper : 1 < radix) (small : radix ≤ 16)
    (member : char ∈ Nat.toDigits radix number) : AddressChar char := by
  obtain ⟨digit, below, rfl⟩ := exists_digit_of_mem_toDigits proper member
  exact .inr (.inr ⟨digit, by omega, rfl⟩)

theorem Ipv4Addr.display_addressChar (address : Ipv4Addr) :
    ∀ char ∈ address.display, AddressChar char := by
  have octet : ∀ (number : Nat) char, char ∈ Nat.toDigits 10 number →
      AddressChar char :=
    fun _ _ => addressChar_of_mem_toDigits (by decide) (by decide)
  intro char member
  simp only [display, List.mem_append, List.mem_cons] at member
  rcases member with found | rfl | found | rfl | found | rfl | found
  all_goals first | exact octet _ _ found | exact .inl rfl

theorem displayGroups_addressChar :
    ∀ char ∈ displayGroups groups, AddressChar char := by
  have group : ∀ (number : Nat) char, char ∈ Nat.toDigits 16 number →
      AddressChar char :=
    fun _ _ => addressChar_of_mem_toDigits (by decide) (by decide)
  intro char member
  cases groups with
  | nil => simp [displayGroups] at member
  | cons first tail =>
    simp only [displayGroups, separated, List.mem_append, List.mem_flatMap,
      List.mem_cons] at member
    rcases member with found | ⟨_, _, rfl | found⟩
    · exact group _ _ found
    · exact .inr (.inl rfl)
    · exact group _ _ found

theorem Ipv6Addr.display_addressChar (address : Ipv6Addr) :
    ∀ char ∈ address.display, AddressChar char := by
  have colon : AddressChar ':' := .inr (.inl rfl)
  have letter : AddressChar 'f' := .inr (.inr ⟨15, by decide, rfl⟩)
  have mapped : ∀ char ∈ "::ffff:".toList, AddressChar char := by
    simp [colon, letter]
  have compressed : ∀ char ∈ "::".toList, AddressChar char := by simp [colon]
  intro char member
  unfold display at member
  split at member
  · rcases List.mem_append.mp member with found | found
    · exact mapped char found
    · exact Ipv4Addr.display_addressChar _ char found
  · simp only at member
    split at member
    · rcases List.mem_append.mp member with found | found
      · rcases List.mem_append.mp found with found | found
        · exact displayGroups_addressChar _ char found
        · exact compressed char found
      · exact displayGroups_addressChar _ char found
    · exact displayGroups_addressChar _ char member

theorem AddressChar.not_whitespace {char : Char}
    (written : AddressChar char) : Text.isWhitespace char = false := by
  apply written.elim <;> decide

end Addresses

end Inet
