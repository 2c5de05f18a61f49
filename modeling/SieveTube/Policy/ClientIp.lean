import SieveTube.Library.Header
import SieveTube.Library.InetAddr
import SieveTube.Policy.Http

/-!
# The address a request is judged by

The client of a request is its peer, unless the peer is a trusted proxy.
Then the addresses of the `x-forwarded-for` fields are walked from the right
up to the first that is not trusted.
-/

namespace SieveTube

open Inet Header

def xForwardedFor : HeaderName := ⟨"x-forwarded-for".toList, by decide⟩

/-- `FromStr` of `u16`, which allows a plus sign. -/
def parseU16 (text : List Char) : Option (Fin 65536) :=
  let digits := (Text.stripStart ['+'] text).getD text
  if digits.isEmpty || !digits.all fun char => (toDigit 10 char).isSome then
    none
  else if fits : digitsValue 10 digits < 65536 then
    some ⟨digitsValue 10 digits, fits⟩
  else none

def parseForwardedIp (value : List Char) : Option IpAddr :=
  match IpAddr.parse value with
  | some ip => some ip.toCanonical
  | none =>
    match Text.stripStart ['['] value with
    | some rest => do
        let (host, _) ← Text.splitOnce ']' rest
        let ip ← IpAddr.parse host
        some ip.toCanonical
    | none => do
        let (host, port) ← Text.rsplitOnce ':' value
        let _ ← parseU16 port
        let ip ← IpAddr.parse host
        some ip.toCanonical

example : parseForwardedIp "[::ffff:192.0.2.1]:443".toList =
    some (.v4 0xc0000201) := by
  decide +kernel

/-- The entries of fields that were read as text, in their order. -/
def forwardedHops (fields : List (List Char)) : List (List Char) :=
  (fields.flatMap fun value => value.splitOn ',').map Text.trim

/-- The walk of `resolve_client_ip` over hops in reverse order. -/
def walkHops (trusted : List IpNet) (client : IpAddr) :
    List (List Char) → IpAddr
  | [] => client
  | hop :: hops =>
    match parseForwardedIp hop with
    | none => client
    | some ip => if containsIp trusted ip then walkHops trusted ip hops else ip

def resolveClientIp (peer : IpAddr) (forwardedFor : List (List Char))
    (trusted : List IpNet) : IpAddr :=
  let peer := peer.toCanonical
  if containsIp trusted peer then
    walkHops trusted peer (forwardedHops forwardedFor).reverse
  else peer

/-- The `x-forwarded-for` fields that can be read as text. -/
def forwardedFor (headers : HeaderMap) : List (List Char) :=
  (headers.getAll xForwardedFor).filterMap HeaderValue.toStr

/-- The client of a request behind a peer that is taken for a trusted
proxy. -/
def clientBehind (trusted : List IpNet) (peer : IpAddr)
    (headers : HeaderMap) : IpAddr :=
  walkHops trusted peer (forwardedHops (forwardedFor headers)).reverse

def isTrustedProxy (trusted : List IpNet) (ip : IpAddr) : Bool :=
  containsIp trusted ip.toCanonical

def clientIp (trusted : List IpNet) (peer : IpAddr) (headers : HeaderMap) :
    IpAddr :=
  resolveClientIp peer (forwardedFor headers) trusted

variable {trusted : List IpNet} {peer address : IpAddr}
variable {headers : HeaderMap} {value : HeaderValue}

theorem clientIp_of_untrusted
    (untrusted : isTrustedProxy trusted peer = false) :
    clientIp trusted peer headers = peer.toCanonical := by
  unfold isTrustedProxy at untrusted
  simp [clientIp, resolveClientIp, untrusted]

theorem clientIp_of_trusted (proxy : isTrustedProxy trusted peer = true) :
    clientIp trusted peer headers =
      clientBehind trusted peer.toCanonical headers := by
  unfold isTrustedProxy at proxy
  simp [clientIp, clientBehind, resolveClientIp, proxy]

theorem parseForwardedIp_of_parse {text : List Char}
    (parsed : IpAddr.parse text = some address) :
    parseForwardedIp text = some address.toCanonical := by
  simp [parseForwardedIp, parsed]

theorem walkHops_of_untrusted {hop : List Char} {client : IpAddr}
    (parsed : parseForwardedIp hop = some address)
    (untrusted : containsIp trusted address = false)
    (hops : List (List Char)) :
    walkHops trusted client (hop :: hops) = address := by
  simp [walkHops, parsed, untrusted]

theorem walkHops_of_trusted {hop : List Char} {client : IpAddr}
    (parsed : parseForwardedIp hop = some address)
    (proxy : containsIp trusted address = true)
    (hops : List (List Char)) :
    walkHops trusted client (hop :: hops) = walkHops trusted address hops := by
  simp [walkHops, parsed, proxy]

/-- The value ends with an entry that is the text of an address, as a proxy
appends it, whatever stands before the entry. -/
def EndsWithHop (value : HeaderValue) (address : IpAddr) : Prop :=
  ∃ before entry, value.bytes = before ++ entry ∧
    (before = [] ∨ ∃ more, before = more ++ [0x2c]) ∧ 0x2c ∉ entry ∧
    IpAddr.parse (Text.trim (entry.map decodeByte)) = some address

/-- The entry is the last hop of the field if the field is read at all. -/
theorem EndsWithHop.splitOn (ends : EndsWithHop value address)
    {text : List Char} (decoded : value.toStr = some text) :
    ∃ before entry, text.splitOn ',' = before ++ [entry] ∧
      IpAddr.parse (Text.trim entry) = some address := by
  obtain ⟨before, entry, bytes, separated, clear, parsed⟩ := ends
  have same : text = value.bytes.map decodeByte := by
    unfold HeaderValue.toStr at decoded
    split at decoded
    · exact (Option.some.inj decoded).symm
    · cases decoded
  have plain : ',' ∉ entry.map decodeByte := by
    intro member
    obtain ⟨byte, byteMember, comma⟩ := List.mem_map.mp member
    have code := congrArg Char.toNat comma
    rw [toNat_decodeByte] at code
    have found : byte = 0x2c := by
      rw [← UInt8.toNat_inj]
      exact code
    exact clear (found ▸ byteMember)
  rw [same, bytes, List.map_append]
  rcases separated with rfl | ⟨more, rfl⟩
  · refine ⟨[], entry.map decodeByte, ?_, parsed⟩
    exact List.splitOn_eq_singleton plain
  · refine ⟨(more.map decodeByte).splitOn ',', entry.map decodeByte, ?_, parsed⟩
    have comma : decodeByte 0x2c = ',' := by decide
    rw [List.map_append, List.map_singleton, comma, List.append_assoc,
      List.singleton_append, List.splitOn_append_cons_self,
      List.splitOn_eq_singleton plain]

theorem clientIp_of_endsWithHop (proxy : isTrustedProxy trusted peer = true)
    (untrusted : isTrustedProxy trusted address = false)
    (ends : EndsWithHop value address)
    (last : (headers.getAll xForwardedFor).getLast? = some value)
    (decodes : value.toStr.isSome) :
    clientIp trusted peer headers = address.toCanonical := by
  obtain ⟨text, decoded⟩ := Option.isSome_iff_exists.mp decodes
  obtain ⟨before, entry, split, parsed⟩ := ends.splitOn decoded
  obtain ⟨earlier, fields⟩ := List.getLast?_eq_some_iff.mp last
  have hops : (forwardedHops (forwardedFor headers)).reverse =
      Text.trim entry :: (before.map Text.trim).reverse ++
        (forwardedHops (earlier.filterMap HeaderValue.toStr)).reverse := by
    simp [forwardedHops, forwardedFor, fields, decoded, split]
  rw [clientIp_of_trusted proxy, clientBehind, hops]
  exact walkHops_of_untrusted (parseForwardedIp_of_parse parsed) untrusted _

/-- A field that cannot be read is as good as absent, and then the trusted
peer itself is taken for the client. -/
theorem clientIp_of_undecodable (proxy : isTrustedProxy trusted peer = true)
    (opaqueValue : value.toStr = none) :
    clientIp trusted peer { fields := [(xForwardedFor, value)] } =
      peer.toCanonical := by
  rw [clientIp_of_trusted proxy]
  simp [clientBehind, forwardedHops, forwardedFor, HeaderMap.getAll,
    opaqueValue, walkHops]

/-- The client of an untrusted peer is the peer.  Behind a trusted peer, two
requests whose last fields end with the text of one untrusted address are
both judged by that address, whatever else their fields hold, exactly if
both last fields can be read as text. -/
theorem clientIp_of_appended_hop_iff (trusted : List IpNet) (peer : IpAddr) :
    (isTrustedProxy trusted peer = false →
      ∀ headers, clientIp trusted peer headers = peer.toCanonical) ∧
    (isTrustedProxy trusted peer = true → ∀ address,
      isTrustedProxy trusted address = false →
      ∀ first second, EndsWithHop first address → EndsWithHop second address →
      ((∀ headers other : HeaderMap,
        (headers.getAll xForwardedFor).getLast? = some first →
          (other.getAll xForwardedFor).getLast? = some second →
          clientIp trusted peer headers = address.toCanonical ∧
            clientIp trusted peer other = address.toCanonical) ↔
        first.toStr.isSome ∧ second.toStr.isSome)) := by
  constructor
  · intro untrusted headers
    exact clientIp_of_untrusted untrusted
  · intro proxy address untrusted first second firstEnds secondEnds
    have decodes : ∀ value : HeaderValue,
        clientIp trusted peer { fields := [(xForwardedFor, value)] } =
          address.toCanonical → value.toStr.isSome := by
      intro value judged
      rw [Option.isSome_iff_ne_none]
      intro opaqueValue
      rw [clientIp_of_undecodable proxy opaqueValue] at judged
      unfold isTrustedProxy at proxy untrusted
      rw [judged, untrusted] at proxy
      cases proxy
    constructor
    · intro judged
      have both := judged { fields := [(xForwardedFor, first)] }
        { fields := [(xForwardedFor, second)] }
        (by simp [HeaderMap.getAll]) (by simp [HeaderMap.getAll])
      exact ⟨decodes first both.1, decodes second both.2⟩
    · rintro ⟨firstDecodes, secondDecodes⟩ headers other firstLast secondLast
      exact ⟨clientIp_of_endsWithHop proxy untrusted firstEnds firstLast
        firstDecodes, clientIp_of_endsWithHop proxy untrusted secondEnds
          secondLast secondDecodes⟩

/-- The text `203.0.113.7` as the second entry, behind a byte that is not
ASCII. -/
def behindOpaque : HeaderValue :=
  ⟨[0xff, 0x2c, 0x20, 0x32, 0x30, 0x33, 0x2e, 0x30, 0x2e, 0x31, 0x31, 0x33,
    0x2e, 0x37], by decide⟩

/-- A field the client made up, followed by the one the proxy appended to. -/
def spoofed (chosen : HeaderValue) : HeaderMap :=
  { fields := [(xForwardedFor, chosen), (xForwardedFor, behindOpaque)] }

/-- Behind the proxy `10.0.0.1` two requests of `203.0.113.7` are judged by
the addresses `1.1.1.1` and `2.2.2.2` of their first fields. -/
theorem client_chooses_address :
    let trusted := [IpNet.v4 0x0a000000 8]
    let first := spoofed
      ⟨[0x31, 0x2e, 0x31, 0x2e, 0x31, 0x2e, 0x31], by decide⟩
    let second := spoofed
      ⟨[0x32, 0x2e, 0x32, 0x2e, 0x32, 0x2e, 0x32], by decide⟩
    isTrustedProxy trusted (.v4 0x0a000001) = true ∧
    isTrustedProxy trusted (.v4 0xcb007107) = false ∧
    EndsWithHop behindOpaque (.v4 0xcb007107) ∧
    (first.getAll xForwardedFor).getLast? = some behindOpaque ∧
    (second.getAll xForwardedFor).getLast? = some behindOpaque ∧
    clientIp trusted (.v4 0x0a000001) first = .v4 0x01010101 ∧
    clientIp trusted (.v4 0x0a000001) second = .v4 0x02020202 := by
  refine ⟨by decide +kernel, by decide +kernel, ?_, by decide +kernel,
    by decide +kernel, by decide +kernel, by decide +kernel⟩
  exact ⟨[0xff, 0x2c], _, rfl, .inr ⟨[0xff], rfl⟩, by decide +kernel,
    by decide +kernel⟩

end SieveTube
