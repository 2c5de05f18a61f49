import SieveTube.Library.Text

/-!
# HTTP header fields

Names, values and maps of header fields as the `http` crate has them.  A
name is a token in lower case.  A value is made of bytes, of which only some
can be read as text.
-/

namespace Header

def tokenChar (char : Char) : Bool :=
  ('a' ≤ char && char ≤ 'z') || ('A' ≤ char && char ≤ 'Z') ||
    ('0' ≤ char && char ≤ '9') || "!#$%&'*+-.^_`|~".toList.contains char

def isName (text : List Char) : Bool :=
  !text.isEmpty && text.length ≤ 65535 &&
    text.all fun char => tokenChar char && char.toLower = char

structure HeaderName where
  text : List Char
  wellFormed : isName text = true
deriving DecidableEq

/-- `HeaderName::from_bytes` of an ASCII text. -/
def HeaderName.fromBytes (text : List Char) : Option HeaderName :=
  if wellFormed : isName (Text.toAsciiLowercase text) = true then
    some ⟨Text.toAsciiLowercase text, wellFormed⟩
  else none

def isValid (byte : UInt8) : Bool := (32 ≤ byte && byte ≠ 127) || byte = 9

def isVisible (byte : UInt8) : Bool := (32 ≤ byte && byte < 127) || byte = 9

structure HeaderValue where
  bytes : List UInt8
  valid : bytes.all isValid = true
deriving DecidableEq

/-- The characters of a value that can be read as text. -/
def visibleChar (char : Char) : Bool :=
  (32 ≤ char.toNat && char.toNat < 127) || char.toNat = 9

def decodeByte (byte : UInt8) : Char := Char.ofNat byte.toNat

namespace HeaderValue

def toStr (value : HeaderValue) : Option (List Char) :=
  if value.bytes.all isVisible then some (value.bytes.map decodeByte)
  else none

def fromBytes (bytes : List UInt8) : Option HeaderValue :=
  if valid : bytes.all isValid = true then some ⟨bytes, valid⟩ else none

def fromStr (text : List Char) : Option HeaderValue :=
  fromBytes (text.flatMap String.utf8EncodeChar)

def empty : HeaderValue := ⟨[], rfl⟩

def append (first second : HeaderValue) : HeaderValue :=
  ⟨first.bytes ++ second.bytes, by simp [first.valid, second.valid]⟩

end HeaderValue

/-- The fields of a message; the values of one name are in their order. -/
structure HeaderMap where
  fields : List (HeaderName × HeaderValue)

namespace HeaderMap

section

variable (headers : HeaderMap) (name : HeaderName)

def getAll : List HeaderValue :=
  headers.fields.filterMap fun field =>
    if field.1 = name then some field.2 else none

def get : Option HeaderValue :=
  (headers.getAll name).head?

def containsKey : Bool := (headers.get name).isSome

def remove : HeaderMap :=
  { fields := headers.fields.filter fun field => field.1 ≠ name }

/-- The value becomes the only one of its name. -/
def insert (value : HeaderValue) :
    HeaderMap :=
  { fields := (headers.remove name).fields ++ [(name, value)] }

end

variable (headers : HeaderMap) {name other : HeaderName}

@[simp]
theorem getAll_remove_self : (headers.remove name).getAll name = [] := by
  simp [getAll, remove]

theorem getAll_remove_of_ne (different : other ≠ name) :
    (headers.remove name).getAll other = headers.getAll other := by
  unfold getAll remove
  rw [List.filterMap_filter]
  apply List.filterMap_congr
  intro field _
  by_cases same : field.1 = other
  · simp [same, different]
  · simp [same]

@[simp]
theorem getAll_insert_self (value : HeaderValue) :
    (headers.insert name value).getAll name = [value] := by
  have cleared : (headers.remove name).getAll name = [] :=
    getAll_remove_self headers
  unfold getAll at cleared ⊢
  simp [insert, cleared]

theorem getAll_insert_of_ne (different : other ≠ name) (value : HeaderValue) :
    (headers.insert name value).getAll other = headers.getAll other := by
  have kept := getAll_remove_of_ne headers different
  unfold getAll at kept ⊢
  simp [insert, kept, different.symm]

theorem getAll_foldl_remove {names : List HeaderName} {headers : HeaderMap} :
    (names.foldl remove headers).getAll name =
      if name ∈ names then [] else headers.getAll name := by
  induction names generalizing headers with
  | nil => rfl
  | cons first names ih =>
    rw [List.foldl_cons, ih]
    by_cases later : name ∈ names
    · simp [later]
    · by_cases same : name = first
      · subst same
        simp
      · simp [later, same, getAll_remove_of_ne headers same]

end HeaderMap

theorem toNat_decodeByte (byte : UInt8) :
    (decodeByte byte).toNat = byte.toNat := by
  have bound := byte.toNat_lt
  have valid : byte.toNat.isValidChar := .inl (by omega)
  rw [decodeByte, Char.ofNat, dif_pos valid]
  rfl

theorem visibleChar_decodeByte (byte : UInt8) :
    visibleChar (decodeByte byte) = isVisible byte := by
  simp [visibleChar, isVisible, toNat_decodeByte, UInt8.le_iff_toNat_le,
    UInt8.lt_iff_toNat_lt, ← UInt8.toNat_inj]

theorem HeaderValue.visible_of_toStr {value : HeaderValue} {text : List Char}
    (decoded : value.toStr = some text) : text.all visibleChar = true := by
  unfold toStr at decoded
  split at decoded
  · next visible =>
    cases decoded
    rw [List.all_map, List.all_eq_true]
    intro byte member
    rw [Function.comp_apply, visibleChar_decodeByte]
    exact List.all_eq_true.mp visible byte member
  · cases decoded

theorem encodeChar_of_visible :
    ∀ code < 128, visibleChar (Char.ofNat code) = true →
      ∃ byte, String.utf8EncodeChar (Char.ofNat code) = [byte] ∧
        isVisible byte = true ∧ decodeByte byte = Char.ofNat code := by
  have encoded : ∀ code < 128, visibleChar (Char.ofNat code) = true →
      String.utf8EncodeChar (Char.ofNat code) = [UInt8.ofNat code] ∧
        isVisible (UInt8.ofNat code) = true ∧
        decodeByte (UInt8.ofNat code) = Char.ofNat code := by
    decide +kernel
  intro code small visible
  exact ⟨_, encoded code small visible⟩

theorem isValid_of_isVisible {byte : UInt8} (visible : isVisible byte = true) :
    isValid byte = true := by
  simp only [isVisible, isValid, Bool.or_eq_true, Bool.and_eq_true,
    decide_eq_true_eq] at visible ⊢
  rcases visible with ⟨above, below⟩ | tab
  · refine .inl ⟨above, ?_⟩
    rintro rfl
    exact absurd below (by decide)
  · exact .inr tab

/-- Visible text as bytes, and what each byte stands for. -/
theorem encode_of_visible {text : List Char}
    (visible : text.all visibleChar = true) :
    (text.flatMap String.utf8EncodeChar).all isVisible = true ∧
      (text.flatMap String.utf8EncodeChar).map decodeByte = text := by
  induction text with
  | nil => exact ⟨rfl, rfl⟩
  | cons char text ih =>
    rw [List.all_cons, Bool.and_eq_true] at visible
    obtain ⟨seen, decoded⟩ := ih visible.2
    have small : char.toNat < 128 := by
      have range := visible.1
      simp only [visibleChar, Bool.or_eq_true, Bool.and_eq_true,
        decide_eq_true_eq] at range
      omega
    have first := encodeChar_of_visible char.toNat small
    rw [Char.ofNat_toNat] at first
    obtain ⟨byte, encodes, byteSeen, decodes⟩ := first visible.1
    rw [List.flatMap_cons, encodes]
    exact ⟨by simp [byteSeen, seen], by simp [decodes, decoded]⟩

namespace HeaderValue

/-- The value of a text that is known to be visible. -/
def ofVisible (text : List Char) (visible : text.all visibleChar = true) :
    HeaderValue :=
  { bytes := text.flatMap String.utf8EncodeChar
    valid := by
      have seen := (encode_of_visible visible).1
      rw [List.all_eq_true] at seen ⊢
      exact fun byte member => isValid_of_isVisible (seen byte member) }

variable {text : List Char} (visible : text.all visibleChar = true)

theorem fromStr_of_visible : fromStr text = some (ofVisible text visible) := by
  exact dif_pos (ofVisible text visible).valid

theorem toStr_ofVisible : (ofVisible text visible).toStr = some text := by
  have encoded := encode_of_visible visible
  simp [toStr, ofVisible, encoded.1, encoded.2]

end HeaderValue

end Header
