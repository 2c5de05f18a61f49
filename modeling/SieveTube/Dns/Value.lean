import SieveTube.Dns.Record
import SieveTube.Hostname
import SieveTube.Library.InetText

/-!
# Record values

Values are compared in a canonical form.  A canonical value keeps its form
when it is sent to a provider and read back.
-/

namespace SieveTube.Dns

/-- The loops of `unquote_txt`; the flag tells the inner one. -/
def unquoteChars : Bool → List Char → List Char
  | _, [] => []
  | false, char :: rest => unquoteChars (char = '"') rest
  | true, char :: rest =>
    if char = '\\' then
      match rest with
      | [] => []
      | escaped :: rest => escaped :: unquoteChars true rest
    else if char = '"' then unquoteChars false rest
    else char :: unquoteChars true rest

/-- Decode a TXT value that may be written as one or more quoted strings. -/
def unquoteTxt (raw : List Char) : List Char :=
  let raw := Text.trim raw
  if raw.head? = some '"' then unquoteChars false raw else raw

/-- The loop that cuts a value into chunks of at most 255 bytes. -/
def chunkTxt (chunks : List (List Char)) (current : List Char) :
    List Char → List (List Char)
  | [] =>
    if !current.isEmpty || chunks.isEmpty then chunks ++ [current]
    else chunks
  | char :: rest =>
    if 255 < Text.byteLength current + char.utf8Size then
      chunkTxt (chunks ++ [current]) [char] rest
    else chunkTxt chunks (current ++ [char]) rest

def escapeTxt (chunk : List Char) : List Char :=
  (chunk.flatMap fun char => if char = '\\' then ['\\', '\\'] else [char])
    |>.flatMap fun char => if char = '"' then ['\\', '"'] else [char]

/-- Encode a TXT value as quoted character strings. -/
def quoteTxt (value : List Char) : List Char :=
  [' '].intercalate
    ((chunkTxt [] [] value).map fun chunk => '"' :: (escapeTxt chunk ++ ['"']))

namespace RecordType

def canonicalIpv4 (value : List Char) : Except String String :=
  match Inet.parseIpv4 value with
  | some address => .ok (String.ofList address.display)
  | none => .error ("invalid IPv4 address " ++ Text.debug value)

def canonicalIpv6 (value : List Char) : Except String String :=
  match Inet.parseIpv6 value with
  | some address => .ok (String.ofList address.display)
  | none => .error ("invalid IPv6 address " ++ Text.debug value)

def canonicalTarget (value : List Char) : Except String String :=
  match Hostname.normalizeDnsName (String.ofList value) with
  | .ok name => .ok name
  | .error failure => .error ("invalid CNAME target " ++
      Text.debug value ++ ": " ++ failure.message)

def canonicalTxt (value : List Char) : Except String String :=
  let text := unquoteTxt value
  if 4000 < Text.byteLength text || text.any Text.isControl then
    .error "TXT value must be printable and at most 4000 bytes"
  else .ok (String.ofList text)

/-- Canonical form of a record value, used for comparisons. -/
def normalizeValue (recordType : RecordType) (value : String) :
    Except String String :=
  let value := Text.trim value.toList
  match recordType with
  | .a => canonicalIpv4 value
  | .aaaa => canonicalIpv6 value
  | .cname => canonicalTarget value
  | .txt => canonicalTxt value

/-- How a value is written in the request that creates its record. -/
def content (recordType : RecordType) (value : String) : String :=
  match recordType with
  | .txt => String.ofList (quoteTxt value.toList)
  | _ => value

end RecordType

example : (RecordType.aaaa.normalizeValue "2001:DB8:0::1").toOption =
    some "2001:db8::1" := by
  decide +kernel

section

variable (rest value : List Char) (chunks : List (List Char))

theorem unquoteChars_quote :
    unquoteChars true ('"' :: rest) = unquoteChars false rest := by
  cases rest <;> rfl

theorem unquoteChars_plain {char : Char} (backslash : char ≠ '\\')
    (quote : char ≠ '"') (rest : List Char) :
    unquoteChars true (char :: rest) = char :: unquoteChars true rest := by
  rw [unquoteChars.eq_def]
  simp [backslash, quote]

theorem unquoteChars_escapeTxt (chunk rest : List Char) :
    unquoteChars true (escapeTxt chunk ++ '"' :: rest) =
      chunk ++ unquoteChars false rest := by
  induction chunk with
  | nil => exact unquoteChars_quote rest
  | cons char chunk ih =>
    have split : escapeTxt (char :: chunk) =
      escapeTxt [char] ++ escapeTxt chunk := by simp [escapeTxt]
    rw [split, List.append_assoc]
    by_cases backslash : char = '\\'
    · subst char
      simpa [escapeTxt, unquoteChars] using ih
    · by_cases quote : char = '"'
      · subst char
        simpa [escapeTxt, unquoteChars] using ih
      · have plain : escapeTxt [char] = [char] := by
          simp [escapeTxt, backslash, quote]
        rw [plain, List.singleton_append, unquoteChars_plain backslash quote,
          ih]
        rfl

theorem chunkTxt_ne_nil
    (current value : List Char) : chunkTxt chunks current value ≠ [] := by
  induction value generalizing chunks current with
  | nil =>
    unfold chunkTxt
    split
    · simp
    · next full =>
      simp only [Bool.or_eq_true, List.isEmpty_iff, not_or] at full
      exact full.2
  | cons char rest ih =>
    unfold chunkTxt
    split <;> exact ih _ _

theorem flatten_chunkTxt (current value : List Char) :
    (chunkTxt chunks current value).flatten =
      chunks.flatten ++ current ++ value := by
  induction value generalizing chunks current with
  | nil =>
    unfold chunkTxt
    split
    · simp
    · next full =>
      have empty : current = [] := by simp_all
      simp [empty]
  | cons char rest ih =>
    unfold chunkTxt
    split <;> simp [ih]

/-- Quoted strings are decoded one after the other. -/
theorem unquoteChars_quoted :
    unquoteChars false ([' '].intercalate
      (chunks.map fun chunk => '"' :: (escapeTxt chunk ++ ['"']))) =
        chunks.flatten := by
  induction chunks with
  | nil => simp [unquoteChars]
  | cons chunk chunks ih =>
    cases chunks with
    | nil =>
      have inside := unquoteChars_escapeTxt chunk []
      simpa [unquoteChars] using inside
    | cons next chunks =>
      have inside := unquoteChars_escapeTxt chunk (' ' ::
        [' '].intercalate ((next :: chunks).map fun chunk =>
          '"' :: (escapeTxt chunk ++ ['"'])))
      rw [unquoteChars, decide_eq_false (by decide), ih] at inside
      simpa [unquoteChars] using inside

theorem head_quoteTxt : (quoteTxt value).head? = some '"' := by
  unfold quoteTxt
  cases cut : chunkTxt [] [] value with
  | nil => exact absurd cut (chunkTxt_ne_nil _ _ _)
  | cons chunk chunks => cases chunks <;> simp

theorem getLast_quoteTxt : (quoteTxt value).getLast? = some '"' := by
  have last : ∀ chunks : List (List Char), chunks ≠ [] →
      ([' '].intercalate (chunks.map fun chunk =>
        '"' :: (escapeTxt chunk ++ ['"']))).getLast? = some '"' := by
    intro chunks nonempty
    induction chunks with
    | nil => exact absurd rfl nonempty
    | cons chunk chunks ih =>
      cases chunks with
      | nil =>
        simp only [List.map_cons, List.map_nil, List.intercalate_singleton,
          ← List.cons_append, List.getLast?_concat]
      | cons next chunks =>
        have rest := ih (by simp)
        rw [List.map_cons] at rest
        rw [List.map_cons, List.map_cons, List.intercalate_cons_cons,
          List.getLast?_append, rest]
        rfl
  exact last _ (chunkTxt_ne_nil _ _ _)

theorem trim_quoteTxt : Text.trim (quoteTxt value) = quoteTxt value := by
  have quote : Text.isWhitespace '"' = false := by decide
  apply Text.trim_eq_self
  · intro char head
    obtain rfl : '"' = char := by simpa [head_quoteTxt] using head
    exact quote
  · intro char last
    obtain rfl : '"' = char := by simpa [getLast_quoteTxt] using last
    exact quote

theorem unquoteTxt_quoteTxt : unquoteTxt (quoteTxt value) = value := by
  rw [unquoteTxt, trim_quoteTxt, if_pos (head_quoteTxt value), quoteTxt,
    unquoteChars_quoted, flatten_chunkTxt]
  rfl

end

section Canonical

variable {value : List Char} {canonical : String}

theorem canonicalIpv4_eq_ok
    (accepted : RecordType.canonicalIpv4 value = .ok canonical) :
    ∃ address : Inet.Ipv4Addr, canonical = String.ofList address.display := by
  unfold RecordType.canonicalIpv4 at accepted
  split at accepted
  · next address _ => exact ⟨address, (Except.ok.inj accepted).symm⟩
  · cases accepted

theorem canonicalIpv6_eq_ok
    (accepted : RecordType.canonicalIpv6 value = .ok canonical) :
    ∃ address : Inet.Ipv6Addr, canonical = String.ofList address.display := by
  unfold RecordType.canonicalIpv6 at accepted
  split at accepted
  · next address _ => exact ⟨address, (Except.ok.inj accepted).symm⟩
  · cases accepted

theorem canonicalTarget_eq_ok
    (accepted : RecordType.canonicalTarget value = .ok canonical) :
    ∃ name, Hostname.Normalized true true name ∧
      canonical = String.ofList name := by
  unfold RecordType.canonicalTarget at accepted
  split at accepted
  · next name found =>
    obtain rfl := Except.ok.inj accepted
    exact ⟨name.toList,
      Hostname.normalized_of_normalize found, String.ofList_toList.symm⟩
  · cases accepted

theorem canonicalTarget_of_normalized {name : List Char}
    (normalized : Hostname.Normalized true true name) :
    RecordType.canonicalTarget name = .ok (String.ofList name) := by
  have again : Hostname.normalizeDnsName (String.ofList name) =
      .ok (String.ofList name) := by
    rw [Hostname.normalizeDnsName, Hostname.normalize, String.toList_ofList,
      normalized.normalizeChars_eq]
    rfl
  rw [RecordType.canonicalTarget, again]

theorem canonicalTxt_quoteTxt
    (accepted : RecordType.canonicalTxt value = .ok canonical) :
    RecordType.canonicalTxt (quoteTxt canonical.toList) = .ok canonical := by
  unfold RecordType.canonicalTxt at accepted ⊢
  simp only at accepted
  split at accepted
  · cases accepted
  · next allowed =>
    obtain rfl := Except.ok.inj accepted
    rw [String.toList_ofList, unquoteTxt_quoteTxt]
    exact if_neg allowed

end Canonical

theorem normalizeValue_content {recordType : RecordType} {input value : String}
    (canonical : recordType.normalizeValue input = .ok value) :
    recordType.normalizeValue (recordType.content value) = .ok value := by
  have visible : ∀ {text : List Char},
      (∀ char ∈ text, Text.isWhitespace char = false) →
        Text.trim (String.ofList text).toList = text := by
    intro text printable
    rw [String.toList_ofList]
    exact Text.trim_eq_self_of_forall printable
  have address : ∀ {text : List Char}, (∀ char ∈ text, Inet.AddressChar char) →
        Text.trim (String.ofList text).toList = text :=
    fun written => visible fun char member =>
      (written char member).not_whitespace
  cases recordType <;> simp only [RecordType.normalizeValue] at canonical
  case a =>
    obtain ⟨parsed, rfl⟩ := canonicalIpv4_eq_ok canonical
    simp only [RecordType.normalizeValue, RecordType.content,
      address parsed.display_addressChar, RecordType.canonicalIpv4,
      Inet.parseIpv4_display]
  case aaaa =>
    obtain ⟨parsed, rfl⟩ := canonicalIpv6_eq_ok canonical
    simp only [RecordType.normalizeValue, RecordType.content,
      address parsed.display_addressChar, RecordType.canonicalIpv6,
      Inet.parseIpv6_display]
  case cname =>
    obtain ⟨name, normalized, rfl⟩ := canonicalTarget_eq_ok canonical
    simp only [RecordType.normalizeValue, RecordType.content,
      String.toList_ofList, normalized.trim,
      canonicalTarget_of_normalized normalized]
  case txt =>
    simp only [RecordType.normalizeValue, RecordType.content,
      String.toList_ofList, trim_quoteTxt]
    exact canonicalTxt_quoteTxt canonical

end SieveTube.Dns
