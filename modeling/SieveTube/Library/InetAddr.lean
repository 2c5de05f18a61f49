import SieveTube.Library.Inet
import SieveTube.Library.InetText

/-!
# Addresses of either family as text

`FromStr` and `Display` of `IpAddr`, and the canonical form in which an
address is compared with networks.
-/

namespace Inet

def Ipv4Addr.bits (address : Ipv4Addr) : BitVec 32 :=
  BitVec.ofNat 32
    (((address.first * 256 + address.second) * 256 + address.third) *
      256 + address.fourth)

def Ipv4Addr.ofBits (bits : BitVec 32) : Ipv4Addr :=
  { first := Fin.ofNat 256 (bits.toNat / 256 ^ 3)
    second := Fin.ofNat 256 (bits.toNat / 256 ^ 2)
    third := Fin.ofNat 256 (bits.toNat / 256)
    fourth := Fin.ofNat 256 bits.toNat }

theorem Ipv4Addr.bits_ofBits (bits : BitVec 32) :
    (ofBits bits).bits = bits := by
  apply BitVec.eq_of_toNat_eq
  simp only [Ipv4Addr.bits, ofBits, Fin.ofNat, BitVec.toNat_ofNat]
  omega

def Ipv6Addr.bits (address : Ipv6Addr) : BitVec 128 :=
  BitVec.ofNat 128
    (address.segments.foldl (fun number segment =>
      number * 65536 + segment.val) 0)

def Ipv6Addr.ofBits (bits : BitVec 128) : Ipv6Addr :=
  { segments := [7, 6, 5, 4, 3, 2, 1, 0].map fun place =>
      Fin.ofNat 65536 (bits.toNat / 65536 ^ place)
    length := rfl }

/-- Putting the next segment behind those above it. -/
theorem segment_step (number place : Nat) :
    number / 65536 ^ (place + 1) * 65536 + number / 65536 ^ place % 65536 =
      number / 65536 ^ place := by
  rw [Nat.pow_succ, ← Nat.div_div_eq_div_mul]
  exact Nat.div_add_mod' _ _

theorem Ipv6Addr.bits_ofBits (bits : BitVec 128) :
    (ofBits bits).bits = bits := by
  apply BitVec.eq_of_toNat_eq
  have bound := bits.isLt
  have top : bits.toNat / 65536 ^ 8 = 0 :=
    Nat.div_eq_of_lt (by simpa using bound)
  have last := segment_step bits.toNat 0
  rw [Nat.pow_zero, Nat.div_one] at last
  have folded : (ofBits bits).segments.foldl
      (fun number segment => number * 65536 + segment.val)
      (bits.toNat / 65536 ^ 8) = bits.toNat := by
    simp only [ofBits, List.map_cons, List.map_nil, List.foldl_cons,
      List.foldl_nil, Fin.ofNat, segment_step, Nat.pow_zero, Nat.div_one]
    exact last
  rw [top] at folded
  rw [Ipv6Addr.bits, folded, BitVec.toNat_ofNat, Nat.mod_eq_of_lt bound]

namespace IpAddr

/-- `FromStr` of `IpAddr`: what starts like an IPv4 address is not tried as
an IPv6 address. -/
def parse (text : List Char) : Option IpAddr :=
  match readIpv4Addr text with
  | some (address, []) => some (.v4 address.bits)
  | some (_, _ :: _) => none
  | none => (parseIpv6 text).map fun address => .v6 address.bits

def display : IpAddr → List Char
  | .v4 bits => (Ipv4Addr.ofBits bits).display
  | .v6 bits => (Ipv6Addr.ofBits bits).display

/-- `to_canonical`: an IPv4-mapped address stands for the IPv4 address. -/
def toCanonical : IpAddr → IpAddr
  | .v4 bits => .v4 bits
  | .v6 bits =>
    if bits >>> 32 = 0xffff then .v4 (bits.truncate 32) else .v6 bits

def isLoopback : IpAddr → Bool
  | .v4 bits => bits >>> 24 = 127
  | .v6 bits => bits = 1

@[simp]
theorem toCanonical_toCanonical (ip : IpAddr) :
    ip.toCanonical.toCanonical = ip.toCanonical := by
  cases ip with
  | v4 bits => rfl
  | v6 bits =>
    rw [toCanonical]
    split
    · rfl
    · next plain => rw [toCanonical, if_neg plain]

/-- An IPv6 address is not written like an IPv4 address. -/
theorem readIpv4Addr_ipv6_display (address : Ipv6Addr) :
    readIpv4Addr address.display = none := by
  have plain : ∀ text : List Char, '.' ∉ text → readIpv4Addr text = none := by
    intro text dotless
    rw [Option.eq_none_iff_forall_ne_some]
    rintro ⟨found, rest⟩ read
    exact dotless (dot_mem_of_readIpv4Addr read)
  unfold Ipv6Addr.display
  split
  · rfl
  · simp only
    split
    · exact plain _ (by simp [dot_not_mem_displayGroups])
    · exact plain _ (dot_not_mem_displayGroups _)

theorem parse_display (ip : IpAddr) : parse ip.display = some ip := by
  cases ip with
  | v4 bits =>
    have read : readIpv4Addr ((Ipv4Addr.ofBits bits).display ++ []) =
        some (Ipv4Addr.ofBits bits, []) :=
      readIpv4Addr_display (by simp)
    rw [List.append_nil] at read
    simp [parse, display, read, Ipv4Addr.bits_ofBits]
  | v6 bits =>
    simp [parse, display, readIpv4Addr_ipv6_display,
      parseIpv6_display, Ipv6Addr.bits_ofBits]

theorem display_addressChar (ip : IpAddr) :
    ∀ char ∈ ip.display, AddressChar char := by
  cases ip with
  | v4 bits => exact Ipv4Addr.display_addressChar _
  | v6 bits => exact Ipv6Addr.display_addressChar _

end IpAddr

variable (text : List Char)

def readPort : Option (Fin 65536 × List Char) := do
  let text ← readGivenChar ':' text
  readNumber 10 text.length true 65536 text

/-- A scope is read over and not kept. -/
def readScopeId : List Char :=
  let scope := do
    let text ← readGivenChar '%' text
    readNumber 10 text.length true (2 ^ 32) text
  (scope.map Prod.snd).getD text

def readSocketAddrV4 : Option (SocketAddr × List Char) := do
  let (address, text) ← readIpv4Addr text
  let (port, text) ← readPort text
  return (⟨.v4 address.bits, BitVec.ofNat 16 port⟩, text)

def readSocketAddrV6 : Option (SocketAddr × List Char) := do
  let text ← readGivenChar '[' text
  let (segments, text) ← readIpv6Groups text
  let text ← readGivenChar ']' (readScopeId text)
  let (port, text) ← readPort text
  if length : segments.length = 8 then
    return (⟨.v6 (Ipv6Addr.bits ⟨segments, length⟩),
      BitVec.ofNat 16 port⟩, text)
  else none

/-- `FromStr` of `SocketAddr`. -/
def SocketAddr.parse : Option SocketAddr :=
  match (readSocketAddrV4 text).or (readSocketAddrV6 text) with
  | some (address, []) => some address
  | _ => none

example : SocketAddr.parse "[::1]:19132".toList = some ⟨.v6 1, 19132⟩ := by
  decide +kernel

end Inet
