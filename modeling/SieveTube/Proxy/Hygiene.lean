import SieveTube.Proxy.Backend

/-!
# Which fields reach a backend

Fields of the client's connection and fields it names in a `connection` field
are not passed on, cookies are joined, and everything else is kept.  A
`connection` field with a byte that cannot be read as text is overlooked.
-/

namespace SieveTube.Proxy

open Header

def blank (char : Char) : Bool := char = ' ' || char = '\t'

/-- The entries of a field, without the blanks around them. -/
def entries (value : HeaderValue) : List (List Char) :=
  ((value.bytes.map decodeByte).splitOn ',').map fun part =>
    (part.dropWhile blank).rdropWhile blank

/-- The value has the name as an entry, in any case. -/
def Names (value : HeaderValue) (name : HeaderName) : Prop :=
  ∃ entry ∈ entries value, Text.toAsciiLowercase entry = name.text

/-- A `connection` field names the field. -/
def Named (headers : HeaderMap) (name : HeaderName) : Prop :=
  ∃ value ∈ headers.getAll connection, Names value name

/-- The fields that the proxy sets itself. -/
def setFields (request : Request)
    (forwarded : Option Forwarded) : List HeaderName :=
  host :: ((if (upgradeProtocol request).isSome then [connection,
    upgrade] else []) ++
    if forwarded.isSome then [xForwardedFor, xForwardedProto] else [])

/-- Cookies are joined from the first one that is not empty. -/
def joinedCookies : List HeaderValue → List (List UInt8)
  | [] => []
  | values =>
    [cookieSeparator.bytes.intercalate
      ((values.map (·.bytes)).dropWhile List.isEmpty)]

variable {text : List Char} {name : HeaderName}

theorem fromBytes_eq_some_iff :
    HeaderName.fromBytes text = some name ↔
      Text.toAsciiLowercase text = name.text := by
  unfold HeaderName.fromBytes
  constructor
  · intro found
    split at found
    · exact congrArg HeaderName.text (Option.some.inj found)
    · cases found
  · intro same
    simp [same, name.wellFormed]

theorem dropWhile_congr {first second : Char → Bool}
    (same : ∀ char ∈ text, first char = second char) :
    text.dropWhile first = text.dropWhile second := by
  induction text with
  | nil => rfl
  | cons char text ih =>
    rw [List.forall_mem_cons] at same
    rw [List.dropWhile_cons, List.dropWhile_cons, same.1, ih same.2]

/-- Blanks are the only white space that can be read. -/
theorem entries_of_toStr {value : HeaderValue}
    (decoded : value.toStr = some text) :
    entries value = (text.splitOn ',').map Text.trim := by
  have visible := HeaderValue.visible_of_toStr decoded
  have ascii : Text.isAscii text = true := by
    refine List.all_eq_true.mpr fun char member => ?_
    have range := List.all_eq_true.mp visible char member
    simp only [visibleChar, Bool.or_eq_true, Bool.and_eq_true,
      decide_eq_true_eq] at range ⊢
    omega
  have white : ∀ char ∈ text, visibleChar char = true →
      blank char = Text.isWhitespace char :=
    Text.forall_of_isAscii ascii (by decide)
  have same : value.bytes.map decodeByte = text := by
    unfold HeaderValue.toStr at decoded
    split at decoded
    · exact Option.some.inj decoded
    · cases decoded
  rw [entries, same]
  refine List.map_congr_left fun part member => ?_
  have inside : ∀ char ∈ part, blank char = Text.isWhitespace char :=
    fun char found =>
    white char (Text.exists_part_iff.mp ⟨part, member, found⟩).1
      (List.all_eq_true.mp visible char
      (Text.exists_part_iff.mp ⟨part, member, found⟩).1)
  rw [dropWhile_congr inside, List.rdropWhile,
    dropWhile_congr fun char found => inside char
    ((List.dropWhile_sublist _).subset (List.mem_reverse.mp found))]
  rfl

theorem mem_nominated_iff {headers : HeaderMap} : name ∈ nominated headers ↔
      ∃ value ∈ headers.getAll connection,
        value.toStr.isSome = true ∧ Names value name := by
  have nonempty : ∀ token, Text.toAsciiLowercase token = name.text →
      (!token.isEmpty) = true := by
    rintro (_ | _) same
    · have wellFormed := name.wellFormed
      rw [← same] at wellFormed
      cases wellFormed
    · rfl
  simp only [nominated, headerTokens, List.mem_filterMap, List.mem_filter,
    List.mem_map, List.mem_flatMap, fromBytes_eq_some_iff]
  constructor
  · rintro ⟨_, ⟨⟨part, ⟨text, ⟨value, found, decoded⟩, member⟩, rfl⟩, -⟩, same⟩
    refine ⟨value, found, by simp [decoded], _, ?_, same⟩
    rw [entries_of_toStr decoded]
    exact List.mem_map_of_mem member
  · rintro ⟨value, found, readable, entry, member, same⟩
    obtain ⟨text, decoded⟩ := Option.isSome_iff_exists.mp readable
    rw [entries_of_toStr decoded] at member
    obtain ⟨part, inside, rfl⟩ := List.mem_map.mp member
    exact ⟨_, ⟨⟨part, ⟨text, ⟨value, found, decoded⟩, inside⟩, rfl⟩,
      nonempty _ same⟩, same⟩

variable (values : List HeaderValue) (headers : HeaderMap)

theorem foldl_joinCookie_of_ne_nil {joined : HeaderValue}
    (started : joined.bytes ≠ []) :
    (values.foldl joinCookie joined).bytes =
      cookieSeparator.bytes.intercalate
        (joined.bytes :: values.map (·.bytes)) := by
  induction values generalizing joined with
  | nil => simp [List.intercalate]
  | cons value values ih =>
    have next : (joinCookie joined value).bytes =
        joined.bytes ++ cookieSeparator.bytes ++ value.bytes := by
      simp [joinCookie, started, HeaderValue.append]
    rw [List.foldl_cons, ih (by simp [next, started]), next]
    cases values <;> simp [List.intercalate]

theorem foldl_joinCookie (joined : HeaderValue)
    (empty : joined.bytes = []) :
    (values.foldl joinCookie joined).bytes = cookieSeparator.bytes.intercalate
      ((values.map (·.bytes)).dropWhile List.isEmpty) := by
  induction values generalizing joined with
  | nil => simpa [List.intercalate] using empty
  | cons value values ih =>
    have next : (joinCookie joined value).bytes = value.bytes := by
      simp [joinCookie, empty, HeaderValue.append]
    by_cases blank : value.bytes = []
    · simp [ih _ (next.trans blank), blank]
    · simp [foldl_joinCookie_of_ne_nil values (next.trans_ne blank),
        next, blank]

theorem bytes_joinCookieFields :
    ((joinCookieFields headers).getAll cookie).map (·.bytes) =
      joinedCookies (headers.getAll cookie) := by
  unfold joinCookieFields
  split
  · next none => simp [none, joinedCookies]
  · next value single =>
    by_cases blank : value.bytes =
      [] <;> simp [single, joinedCookies, blank, List.intercalate]
  · next none _ =>
    rw [HeaderMap.getAll_insert_self, List.map_singleton]
    obtain ⟨first, rest, found⟩ := List.exists_cons_of_ne_nil none
    rw [found]
    exact congrArg (fun bytes => [bytes])
      (foldl_joinCookie (first :: rest) .empty rfl)

theorem getAll_insert (name other : HeaderName) (value : HeaderValue) :
    (headers.insert name value).getAll other =
      if other = name then [value] else headers.getAll other := by
  split
  · next same => rw [same, HeaderMap.getAll_insert_self]
  · next different => exact headers.getAll_insert_of_ne different value

theorem getAll_applyForwardedHeaders (forwarded : Forwarded)
    (scheme : Scheme) (unset : name ∉ [xForwardedFor, xForwardedProto]) :
    (applyForwardedHeaders headers forwarded scheme).getAll name =
      headers.getAll name := by
  simp only [List.mem_cons, List.not_mem_nil, or_false, not_or] at unset
  unfold applyForwardedHeaders
  simp only
  split <;> simp [getAll_insert, unset]

section Built

variable {parses : String → Bool} {request backend : Request}
  {authority : String}
variable {scheme : Scheme} {forwarded : Option Forwarded}

/-- The proxy sets the host, and passes on what it does not set. -/
theorem getAll_buildBackendRequest
    (built : buildBackendRequest parses request authority scheme
      (upgradeProtocol request) forwarded = .ok backend) :
    (∃ value, HeaderValue.fromStr authority.toList = some value ∧
      backend.headers.getAll host = [value]) ∧
    ∀ name ∉ setFields request forwarded, backend.headers.getAll name =
      (joinCookieFields (stripHopByHop request.headers)).getAll name := by
  have other : host ≠ connection ∧ host ≠ upgrade ∧
      host ∉ [xForwardedFor, xForwardedProto] := by
    decide
  unfold buildBackendRequest at built
  simp only at built
  split at built
  · cases built
  · split at built
    · cases built
    · next value valid =>
      cases built
      refine ⟨⟨value, valid, ?_⟩, fun name unset => ?_⟩
      · cases upgradeProtocol request <;> cases forwarded <;>
          simp [getAll_applyForwardedHeaders, getAll_insert, other]
      · unfold setFields at unset
        generalize upgradeProtocol request = protocol at unset ⊢
        cases protocol <;> cases forwarded <;> simp at unset <;>
          simp [getAll_applyForwardedHeaders, getAll_insert, unset]

theorem getAll_stripHopByHop_hop (hop : name ∈ hopByHopHeaders) :
    (stripHopByHop headers).getAll name = [] := by
  rw [stripHopByHop, HeaderMap.getAll_foldl_remove, if_pos hop]

theorem cookie_passed (request : Request) (forwarded : Option Forwarded) :
    cookie ∉ setFields request forwarded ∧ cookie ∉ hopByHopHeaders := by
  unfold setFields
  generalize (upgradeProtocol request).isSome = upgraded,
    forwarded.isSome = told
  revert upgraded told
  decide

theorem joinedCookies_eq_nil_iff {values : List HeaderValue} :
    joinedCookies values = [] ↔ values = [] := by
  cases values <;> simp [joinedCookies]

/-- The host is the authority, the fields of the connection are gone, cookies
are joined, and what is not named is kept.  The fields that `connection` fields
name are gone exactly if each that was there is named by a field that can be
read as text. -/
theorem backend_fields_iff
    (built : buildBackendRequest parses request authority scheme
      (upgradeProtocol request) forwarded = .ok backend) :
    (∃ value, HeaderValue.fromStr authority.toList = some value ∧
      backend.headers.getAll host = [value]) ∧
    (∀ name ∉ setFields request forwarded, name ∈ hopByHopHeaders →
      backend.headers.getAll name = []) ∧
    (¬ Named request.headers cookie →
      (backend.headers.getAll cookie).map (·.bytes) =
      joinedCookies (request.headers.getAll cookie)) ∧
    (∀ name ∉ setFields request forwarded, name ∉ hopByHopHeaders →
      ¬ Named request.headers name → name ≠ cookie →
      backend.headers.getAll name = request.headers.getAll name) ∧
    ((∀ name ∉ setFields request forwarded, Named request.headers name →
        backend.headers.getAll name = []) ↔
      ∀ name ∉ setFields request forwarded, name ∉ hopByHopHeaders →
        Named request.headers name → request.headers.getAll name ≠ [] →
        ∃ value ∈ request.headers.getAll connection,
          value.toStr.isSome = true ∧ Names value name) := by
  obtain ⟨hosts, others⟩ := getAll_buildBackendRequest built
  have cookies := cookie_passed request forwarded
  have hops : ∀ name ∉ setFields request forwarded, name ∈ hopByHopHeaders →
      backend.headers.getAll name = [] := by
    intro name unset hop
    have different : name ≠ cookie := by
      rintro rfl
      exact cookies.2 hop
    rw [others name unset, getAll_joinCookieFields _ different,
      getAll_stripHopByHop_hop _ hop]
  have kept : ∀ name ∉ setFields request forwarded, name ∉ hopByHopHeaders →
      name ≠ cookie → backend.headers.getAll name =
        if name ∈ nominated request.headers then [] else request.headers.getAll
            name := by
    intro name unset hop different
    rw [others name unset, getAll_joinCookieFields _ different,
      getAll_stripHopByHop _ hop]
  have joined : (backend.headers.getAll cookie).map (·.bytes) = joinedCookies
      (if cookie ∈ nominated request.headers then [] else request.headers.getAll
        cookie) := by
    rw [others cookie cookies.1, bytes_joinCookieFields,
      getAll_stripHopByHop _ cookies.2]
  have unnamed : ∀ name, ¬ Named request.headers name →
      name ∉ nominated request.headers := by
    intro name absent listed
    obtain ⟨value, found, -, names⟩ := mem_nominated_iff.mp listed
    exact absent ⟨value, found, names⟩
  have gone : ∀ name ∉ setFields request forwarded, name ∉ hopByHopHeaders →
      (backend.headers.getAll name = [] ↔
        (request.headers.getAll name ≠ [] →
          name ∈ nominated request.headers)) := by
    intro name unset hop
    by_cases same : name = cookie
    · rw [same, ← List.map_eq_nil_iff, joined, joinedCookies_eq_nil_iff]
      split <;> simp [*]
    · rw [kept name unset hop same]
      split <;> simp [*]
  refine ⟨hosts, hops, ?_, ?_, ?_⟩
  · intro absent
    rw [joined, if_neg (unnamed cookie absent)]
  · intro name unset hop absent different
    rw [kept name unset hop different, if_neg (unnamed name absent)]
  · simp only [← mem_nominated_iff]
    constructor
    · intro holds name unset hop named
      exact (gone name unset hop).mp (holds name unset named)
    · intro listed name unset named
      by_cases hop : name ∈ hopByHopHeaders
      · exact hops name unset hop
      · exact (gone name unset hop).mpr (listed name unset hop named)

end Built

theorem backend_fields_iff_close :
    let request := nominating "close".toList (by decide)
    ∃ backend, buildBackendRequest
      (fun _ => true) request "www.example.com" .https
        (upgradeProtocol request) none = .ok backend ∧
      backend.headers.getAll xForwardedFor =
        request.headers.getAll xForwardedFor := by
  intro request
  have produced : ∃ backend,
      buildBackendRequest (fun _ => true) request "www.example.com" .https
      (upgradeProtocol request) none = .ok backend := ⟨_, rfl⟩
  obtain ⟨backend, built⟩ := produced
  refine ⟨backend, built, ?_⟩
  refine (backend_fields_iff built).2.2.2.1 xForwardedFor (by decide)
    (by decide) ?_ (by decide)
  unfold Named Names
  decide +kernel

def secret : HeaderName := ⟨"x-secret".toList, by decide⟩

/-- The last entry of the `connection` field has a byte that is not text. -/
def illegible : Request :=
  { target := some "/"
    version := .http11
    headers :=
      { fields :=
          [(secret, .ofVisible "1".toList (by decide)),
           (connection,
             (HeaderValue.ofVisible "x-secret, ".toList (by decide)).append
            ⟨[255], by decide⟩)] } }

theorem named_field_passed_on : Named illegible.headers secret ∧
    ∃ backend, buildBackendRequest
      (fun _ => true) illegible "www.example.com" .https
        (upgradeProtocol illegible) none = .ok backend ∧
      backend.headers.getAll secret = [.ofVisible "1".toList (by decide)] := by
  refine ⟨?_, _, rfl, by decide +kernel⟩
  unfold Named Names
  decide +kernel

end SieveTube.Proxy
