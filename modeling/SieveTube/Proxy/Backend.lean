import SieveTube.Policy.ClientIp

/-!
# The request a backend receives

The proxy removes the header fields that concern only its own connection,
joins cookies, and then tells the backend where the request came from.
-/

namespace SieveTube

open Inet Header

namespace Proxy

def connection : HeaderName := ⟨"connection".toList, by decide⟩

def upgrade : HeaderName := ⟨"upgrade".toList, by decide⟩

def host : HeaderName := ⟨"host".toList, by decide⟩

def cookie : HeaderName := ⟨"cookie".toList, by decide⟩

def xForwardedProto : HeaderName := ⟨"x-forwarded-proto".toList, by decide⟩

def hopByHopHeaders : List HeaderName :=
  [connection, ⟨"keep-alive".toList, by decide⟩,
    ⟨"proxy-connection".toList, by decide⟩,
    ⟨"proxy-authenticate".toList, by decide⟩,
    ⟨"proxy-authorization".toList, by decide⟩,
    ⟨"te".toList, by decide⟩,
    ⟨"trailer".toList, by decide⟩,
    ⟨"transfer-encoding".toList, by decide⟩,
    upgrade]

inductive Scheme where
  | http
  | https

def Scheme.value : Scheme → HeaderValue
  | .http => .ofVisible "http".toList (by decide)
  | .https => .ofVisible "https".toList (by decide)

/-- How the forwarding fields of a request are made. -/
structure Forwarded where
  peerIp : IpAddr
  trustedPeer : Bool

structure Rejection where
  status : Nat
  reason : String
  retryAfterSecs : Option Nat

def Rejection.badRequest (reason : String) : Rejection :=
  { status := 400, reason, retryAfterSecs := none }

inductive Version where
  | http09
  | http10
  | http11
  | http2
  | http3
deriving DecidableEq

/-- The head of a request; the target is the path and query of its URI. -/
structure Request where
  target : Option String
  version : Version
  headers : HeaderMap

def headerTokens (headers : HeaderMap) (name : HeaderName) : List (List Char) :=
  ((((headers.getAll name).filterMap HeaderValue.toStr).flatMap
    fun value => value.splitOn ',').map Text.trim).filter fun token =>
      !token.isEmpty

def upgradeProtocol (request : Request) : Option HeaderValue :=
  if request.version ≠ .http11 then none
  else if (headerTokens request.headers connection).any
      fun token => Text.toAsciiLowercase token = "upgrade".toList
  then request.headers.get upgrade
  else none

/-- The names that the `connection` fields nominate. -/
def nominated (headers : HeaderMap) : List HeaderName :=
  (headerTokens headers connection).filterMap HeaderName.fromBytes

def stripHopByHop (headers : HeaderMap) : HeaderMap :=
  hopByHopHeaders.foldl HeaderMap.remove
    ((nominated headers).foldl HeaderMap.remove headers)

def cookieSeparator : HeaderValue := .ofVisible "; ".toList (by decide)

/-- One turn of the loop over the cookies. -/
def joinCookie (joined value : HeaderValue) : HeaderValue :=
  if joined.bytes.isEmpty then joined.append value
  else (joined.append cookieSeparator).append value

def joinCookieFields (headers : HeaderMap) : HeaderMap :=
  match headers.getAll cookie with
  | [] => headers
  | [_] => headers
  | values => headers.insert cookie (values.foldl joinCookie .empty)

theorem visible_of_addressChar {text : List Char}
    (written : ∀ char ∈ text, AddressChar char) :
    text.all visibleChar = true := by
  rw [List.all_eq_true]
  intro char member
  apply (written char member).elim <;> decide

/-- An address as a field value. -/
def ipValue (ip : IpAddr) : HeaderValue :=
  .ofVisible ip.display (visible_of_addressChar ip.display_addressChar)

/-- The chain of addresses that the backend is told. -/
def forwardedChain (headers : HeaderMap) (forwarded : Forwarded) :
    List Char :=
  let peer := forwarded.peerIp.display
  if forwarded.trustedPeer then
    let prior := forwardedFor headers
    if prior.isEmpty then peer
    else ", ".toList.intercalate prior ++ ", ".toList ++ peer
  else peer

def applyForwardedHeaders (headers : HeaderMap) (forwarded : Forwarded)
    (scheme : Scheme) : HeaderMap :=
  let value := (HeaderValue.fromStr (forwardedChain headers forwarded)).getD
    (ipValue forwarded.peerIp)
  let headers := headers.insert xForwardedFor value
  if forwarded.trustedPeer && headers.containsKey xForwardedProto then headers
  else headers.insert xForwardedProto scheme.value

/-- `build_backend_request`; `parses` tells which targets are URIs. -/
def buildBackendRequest (parses : String → Bool) (request : Request)
    (authority : String) (scheme : Scheme) (protocol : Option HeaderValue)
    (forwarded : Option Forwarded) : Except Rejection Request :=
  let target := request.target.getD "/"
  if !parses target then .error (.badRequest "invalid request target")
  else
    let headers := joinCookieFields (stripHopByHop request.headers)
    match HeaderValue.fromStr authority.toList with
    | none => .error (.badRequest "invalid authority")
    | some authority =>
      let headers := headers.insert host authority
      let headers :=
        match protocol with
        | some protocol =>
          (headers.insert connection
            (.ofVisible "upgrade".toList (by decide))).insert upgrade protocol
        | none => headers
      let headers :=
        match forwarded with
        | some forwarded => applyForwardedHeaders headers forwarded scheme
        | none => headers
      .ok { target := some target, version := .http11, headers }

/-- What `proxy_request` sends to the backend for a client it lets pass. -/
def backendRequest (parses : String → Bool) (forwardedHeaders : Bool)
    (trusted : List IpNet) (clientAddr : IpAddr) (authority : String)
    (scheme : Scheme) (request : Request) : Except Rejection Request :=
  let peerIp := clientAddr.toCanonical
  let forwarded :=
    if forwardedHeaders then
      some { peerIp, trustedPeer := isTrustedProxy trusted peerIp : Forwarded }
    else none
  buildBackendRequest parses request authority scheme
    (upgradeProtocol request) forwarded

section Fields

variable (headers : HeaderMap) {name : HeaderName}

theorem getAll_joinCookieFields (other : name ≠ cookie) :
    (joinCookieFields headers).getAll name = headers.getAll name := by
  unfold joinCookieFields
  split
  · rfl
  · rfl
  · exact headers.getAll_insert_of_ne other _

theorem getAll_stripHopByHop (kept : name ∉ hopByHopHeaders) :
    (stripHopByHop headers).getAll name =
      if name ∈ nominated headers then [] else headers.getAll name := by
  rw [stripHopByHop, HeaderMap.getAll_foldl_remove,
    if_neg kept, HeaderMap.getAll_foldl_remove]

end Fields

section Chain

/-- A blank after the separator does not change the entries. -/
theorem map_trim_splitOn_blank (text : List Char) :
    ((' ' :: text).splitOn ',').map Text.trim =
      (text.splitOn ',').map Text.trim := by
  have blank : ∀ part : List Char,
      Text.trim (' ' :: part) = Text.trim part := by
    intro part
    have white : Text.isWhitespace ' ' = true := by decide
    simp [Text.trim, Text.trimStart, white]
  have other : (' ' == ',') = false := by decide
  rw [List.splitOn_cons_eq_if_modifyHead, other]
  cases text.splitOn ',' with
  | nil => rfl
  | cons first parts => simp [blank]

theorem forwardedHops_cons (field : List Char) (fields : List (List Char)) :
    forwardedHops (field :: fields) =
      forwardedHops [field] ++ forwardedHops fields := by
  simp [forwardedHops]

/-- Joining two fields keeps their entries. -/
theorem forwardedHops_joined (first second : List Char) :
    forwardedHops [first ++ ", ".toList ++ second] =
      forwardedHops [first] ++ forwardedHops [second] := by
  have text : first ++ ", ".toList ++ second =
      first ++ ',' :: ' ' :: second := by
    simp
  rw [text]
  simp only [forwardedHops, List.flatMap_cons, List.flatMap_nil,
    List.append_nil, List.splitOn_append_cons_self, List.map_append,
    map_trim_splitOn_blank]

theorem intercalate_cons_cons (first second : List Char)
    (fields : List (List Char)) :
    ", ".toList.intercalate (first :: second :: fields) =
      first ++ ", ".toList ++ ", ".toList.intercalate (second :: fields) := by
  simp [List.intercalate]

theorem forwardedHops_intercalate (first : List Char)
    (fields : List (List Char)) :
    forwardedHops [", ".toList.intercalate (first :: fields)] =
      forwardedHops (first :: fields) := by
  induction fields generalizing first with
  | nil => simp [List.intercalate]
  | cons second fields ih =>
    rw [intercalate_cons_cons, forwardedHops_joined, ih, ← forwardedHops_cons]

theorem visible_intercalate {fields : List (List Char)}
    (visible : ∀ field ∈ fields, field.all visibleChar = true) :
    (", ".toList.intercalate fields).all visibleChar = true := by
  have separator : ", ".toList.all visibleChar = true := by decide
  induction fields with
  | nil => rfl
  | cons first fields ih =>
    rw [List.forall_mem_cons] at visible
    cases fields with
    | nil => simpa [List.intercalate] using visible.1
    | cons second fields =>
      rw [intercalate_cons_cons, List.all_append, List.all_append,
        visible.1, separator, ih visible.2]
      rfl

theorem visible_display (ip : IpAddr) : ip.display.all visibleChar = true :=
  visible_of_addressChar ip.display_addressChar

theorem visible_forwardedChain (headers : HeaderMap) (forwarded : Forwarded) :
    (forwardedChain headers forwarded).all visibleChar = true := by
  have separator : ", ".toList.all visibleChar = true := by decide
  have peer := visible_display forwarded.peerIp
  have prior : (", ".toList.intercalate (forwardedFor headers)).all
      visibleChar = true := by
    apply visible_intercalate
    intro field member
    obtain ⟨value, _, decoded⟩ := List.mem_filterMap.mp member
    exact HeaderValue.visible_of_toStr decoded
  unfold forwardedChain
  simp only
  split
  · split
    · exact peer
    · rw [List.all_append, List.all_append, prior, separator, peer]
      rfl
  · exact peer

/-- The text of an address is one entry. -/
theorem forwardedHops_display (ip : IpAddr) :
    forwardedHops [ip.display] = [ip.display] := by
  have plain : ',' ∉ ip.display := by
    intro member
    have different : ',' ≠ ',' := by
      apply (ip.display_addressChar ',' member).elim (motive := (· ≠ ',')) <;>
        decide
    exact different rfl
  have trimmed : Text.trim ip.display = ip.display :=
    Text.trim_eq_self_of_forall fun char member =>
      (ip.display_addressChar char member).not_whitespace
  simp [forwardedHops, List.splitOn_eq_singleton plain, trimmed]

/-- The chain is what a trusted peer sent, and the peer. -/
theorem forwardedHops_forwardedChain (headers : HeaderMap)
    (forwarded : Forwarded) :
    forwardedHops [forwardedChain headers forwarded] =
      (if forwarded.trustedPeer then forwardedHops (forwardedFor headers)
        else []) ++ [forwarded.peerIp.display] := by
  unfold forwardedChain
  cases forwarded.trustedPeer with
  | false => simp [forwardedHops_display]
  | true =>
    cases forwardedFor headers with
    | nil =>
      simp only [if_true, List.isEmpty_nil, forwardedHops_display]
      rfl
    | cons first fields =>
      simp only [if_true, List.isEmpty_cons, Bool.false_eq_true, if_false]
      rw [forwardedHops_joined,
        forwardedHops_intercalate, forwardedHops_display]

end Chain

section Built

variable {parses : String → Bool}
variable {trusted : List IpNet} {clientAddr : IpAddr} {authority : String}
variable {scheme : Scheme} {request backend : Request}

theorem forwardedFor_applyForwardedHeaders {headers : HeaderMap}
    {forwarded : Forwarded} :
    forwardedFor (applyForwardedHeaders headers forwarded scheme) =
      [forwardedChain headers forwarded] := by
  have visible := visible_forwardedChain headers forwarded
  have values : (applyForwardedHeaders headers forwarded scheme).getAll
      xForwardedFor = [.ofVisible _ visible] := by
    unfold applyForwardedHeaders
    rw [HeaderValue.fromStr_of_visible visible]
    simp only [Option.getD_some]
    split
    · exact HeaderMap.getAll_insert_self _ _
    · rw [HeaderMap.getAll_insert_of_ne _ (by decide)]
      exact HeaderMap.getAll_insert_self _ _
  simp [forwardedFor, values, HeaderValue.toStr_ofVisible]

/-- The chain is built on the fields that the stripping left. -/
theorem forwardedFor_backendRequest
    (built : backendRequest parses true trusted clientAddr authority scheme
      request = .ok backend) :
    ∃ kept : HeaderMap, kept.getAll xForwardedFor =
        (stripHopByHop request.headers).getAll xForwardedFor ∧
      forwardedFor backend.headers = [forwardedChain kept
        { peerIp := clientAddr.toCanonical
          trustedPeer := isTrustedProxy trusted clientAddr.toCanonical }] := by
  unfold backendRequest buildBackendRequest at built
  simp only [if_true] at built
  split at built
  · cases built
  · split at built
    · cases built
    · next value _ =>
      obtain rfl := Except.ok.inj built
      refine ⟨_, ?_, forwardedFor_applyForwardedHeaders⟩
      have kept : ((joinCookieFields (stripHopByHop request.headers)).insert
          host value).getAll xForwardedFor =
            (stripHopByHop request.headers).getAll xForwardedFor := by
        rw [HeaderMap.getAll_insert_of_ne _ (by decide),
          getAll_joinCookieFields _ (by decide)]
      cases upgradeProtocol request with
      | none => exact kept
      | some protocol =>
        rw [HeaderMap.getAll_insert_of_ne _ (by decide),
          HeaderMap.getAll_insert_of_ne _ (by decide)]
        exact kept

/-- What a backend that trusts the Edge makes of the chain. -/
theorem walkHops_forwardedChain (edge : IpAddr) (kept : HeaderMap) :
    walkHops trusted edge (forwardedHops [forwardedChain kept
        { peerIp := clientAddr.toCanonical
          trustedPeer := isTrustedProxy trusted clientAddr.toCanonical
            }]).reverse =
      clientIp trusted clientAddr kept := by
  have parsed : parseForwardedIp clientAddr.toCanonical.display =
      some clientAddr.toCanonical := by
    have own := parseForwardedIp_of_parse
      (IpAddr.parse_display clientAddr.toCanonical)
    rwa [IpAddr.toCanonical_toCanonical] at own
  have same : isTrustedProxy trusted clientAddr.toCanonical =
      isTrustedProxy trusted clientAddr := by
    simp [isTrustedProxy]
  rw [forwardedHops_forwardedChain, List.reverse_append, List.reverse_singleton,
    List.singleton_append, same]
  cases proxy : isTrustedProxy trusted clientAddr with
  | false =>
    rw [walkHops_of_untrusted parsed proxy, clientIp_of_untrusted proxy]
  | true =>
    rw [walkHops_of_trusted parsed proxy, clientIp_of_trusted proxy]
    rfl

/-- With forwarding fields, a backend that takes the Edge for a trusted proxy
and trusts the same networks finds the client the policy judged exactly if
the client did not nominate `x-forwarded-for` in a `connection` field, or was
judged by the address of its peer anyway. -/
theorem backend_client_iff
    (built : backendRequest parses true trusted clientAddr authority scheme
      request = .ok backend) (edge : IpAddr) :
    clientBehind trusted edge backend.headers =
      clientIp trusted clientAddr request.headers ↔
      xForwardedFor ∉ nominated request.headers ∨
        clientIp trusted clientAddr request.headers =
          clientAddr.toCanonical := by
  obtain ⟨kept, fields, chain⟩ := forwardedFor_backendRequest built
  rw [clientBehind, chain, walkHops_forwardedChain]
  rw [getAll_stripHopByHop _ (by decide)] at fields
  by_cases removed : xForwardedFor ∈ nominated request.headers
  · rw [if_pos removed] at fields
    have peer : clientIp trusted clientAddr kept = clientAddr.toCanonical := by
      cases proxy : isTrustedProxy trusted clientAddr with
      | false => exact clientIp_of_untrusted proxy
      | true =>
        rw [clientIp_of_trusted proxy]
        simp [clientBehind, forwardedHops, forwardedFor, fields, walkHops]
    rw [peer]
    simp [removed, eq_comm]
  · rw [if_neg removed] at fields
    have unchanged : clientIp trusted clientAddr kept =
        clientIp trusted clientAddr request.headers := by
      simp [clientIp, forwardedFor, fields]
    simp [unchanged, removed]

/-- A request that a proxy forwarded for `203.0.113.7`, with a `connection`
field. -/
def nominating (token : List Char) (visible : token.all visibleChar = true) :
    Request :=
  { target := some "/"
    version := .http11
    headers :=
      { fields :=
          [(xForwardedFor, .ofVisible "203.0.113.7".toList (by decide)),
           (connection, .ofVisible token visible)] } }

theorem backend_client_iff_close : ∃ backend,
      backendRequest (fun _ => true) true [.v4 0x0a000000 8] (.v4 0x0a000001)
        "www.example.com" .https (nominating "close".toList (by decide)) =
          .ok backend ∧
      clientBehind [.v4 0x0a000000 8] (.v4 0x0a000002) backend.headers =
        .v4 0xcb007107 := by
  have produced : ∃ backend, backendRequest (fun _ => true) true
      [.v4 0x0a000000 8] (.v4 0x0a000001) "www.example.com" .https
      (nominating "close".toList (by decide)) = .ok backend := ⟨_, rfl⟩
  obtain ⟨backend, built⟩ := produced
  refine ⟨backend, built, ?_⟩
  have judged := (backend_client_iff built (.v4 0x0a000002)).mpr
    (.inl (by decide +kernel))
  rw [judged]
  decide +kernel

/-- The policy judges `203.0.113.7`, and the backend is told of the proxy
`10.0.0.1` only. -/
theorem nominated_chain_lost : ∃ backend,
      backendRequest (fun _ => true) true [.v4 0x0a000000 8] (.v4 0x0a000001)
        "www.example.com" .https
        (nominating "X-Forwarded-For".toList (by decide)) = .ok backend ∧
      clientIp [.v4 0x0a000000 8] (.v4 0x0a000001)
        (nominating "X-Forwarded-For".toList (by decide)).headers =
          .v4 0xcb007107 ∧
      clientBehind [.v4 0x0a000000 8] (.v4 0x0a000002) backend.headers =
        .v4 0x0a000001 := by
  refine ⟨_, rfl, ?_⟩
  decide +kernel

end Built

end Proxy

end SieveTube
