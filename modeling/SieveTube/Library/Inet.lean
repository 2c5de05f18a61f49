import Mathlib.Data.BitVec

/-!
# Internet addresses

Addresses are kept as the bits of their octets, most significant first.
-/

namespace Inet

inductive IpAddr where
  | v4 (address : BitVec 32)
  | v6 (address : BitVec 128)
deriving DecidableEq

structure SocketAddr where
  ip : IpAddr
  port : BitVec 16
deriving DecidableEq

/-- A network in CIDR notation.  An address of the other family is never in
it. -/
inductive IpNet where
  | v4 (address : BitVec 32) (prefixLen : Nat)
  | v6 (address : BitVec 128) (prefixLen : Nat)

def IpNet.contains : IpNet → IpAddr → Bool
  | .v4 network prefixLen, .v4 address =>
    network >>> (32 - prefixLen) = address >>> (32 - prefixLen)
  | .v6 network prefixLen, .v6 address =>
    network >>> (128 - prefixLen) = address >>> (128 - prefixLen)
  | _, _ => false

end Inet
