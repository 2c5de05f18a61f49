import Mathlib.Data.List.Sort
import SieveTube.Router

/-!
# The route table

Edges advertise what their Connectors serve.  Each Edge rebuilds its table
from the advertisements of the peers it knows to be alive, and ranks the
candidates of a hostname so that all Edges prefer the same peer.
-/

namespace SieveTube

open Inet

namespace Mesh

structure RouteAd where
  hostname : String
  protocol : Protocol
  tenantId : String
  edgeId : String
  generation : Nat
deriving DecidableEq

/-- What an Edge publishes about itself for peers to reach it. -/
structure EdgeInfo where
  advertise : String
  udp : Bool

def rank (hostname edgeId : String) : UInt64 :=
  (utf8Bytes hostname ++ utf8Bytes "|" ++ utf8Bytes edgeId).foldl
    (fun hash byte => (hash ^^^ byte.toUInt64) * 0x00000100000001b3)
    0xcbf29ce484222325

/-- The order of the candidates of a hostname. -/
def Ranked (hostname : String) (first second : RemoteRoute) : Prop :=
  rank hostname first.edgeId < rank hostname second.edgeId ∨
    rank hostname first.edgeId = rank hostname second.edgeId ∧
      first.edgeId ≤ second.edgeId

instance (hostname : String) : DecidableRel (Ranked hostname) :=
  fun _ _ => inferInstanceAs (Decidable (_ ∨ _))

/-- The settings of `RouteSync`; `parseAddr` reads a socket address. -/
structure RouteSync where
  edgeId : String
  allowedPeers : List String
  staticAddrs : AList fun _ : String => SocketAddr
  parseAddr : String → Option SocketAddr

/-- What the control plane answered, with the time of the answer: the
advertisements with their expiry in milliseconds of the system clock, the
live Edges and what they published. -/
structure ControlPlane where
  ads : List (RouteAd × Nat)
  live : List String
  infos : AList fun _ : String => EdgeInfo
  nowMs : Nat
  now : Nat

namespace RouteSync

variable (sync : RouteSync) (plane : ControlPlane)

def isPeer (edgeId : String) : Bool :=
  edgeId ≠ sync.edgeId && sync.allowedPeers.contains edgeId &&
    plane.live.contains edgeId

/-- The route an advertisement stands for, if it can be used. -/
def remoteRoute (ad : RouteAd) (expiryMs : Nat) : Option RemoteRoute :=
  if !sync.isPeer plane ad.edgeId then none
  else
    match plane.infos.lookup ad.edgeId with
    | none => none
    | some info =>
      if ad.protocol = .udp && !info.udp then none
      else
        let addr :=
          match sync.staticAddrs.lookup ad.edgeId with
          | some addr => some addr
          | none => sync.parseAddr info.advertise
        addr.map fun addr =>
          { edgeId := ad.edgeId
            tenantId := ad.tenantId
            generation := ad.generation
            addr
            expiresAt := plane.now + (expiryMs - plane.nowMs) * 1000000 }

/-- The table that `sync` stores. -/
def routes (hostname : String) (protocol : Protocol) : List RemoteRoute :=
  ((plane.ads.filter fun ad => ad.1.hostname = hostname && ad.1.protocol =
    protocol).filterMap
    fun ad => sync.remoteRoute plane ad.1 ad.2).insertionSort (Ranked hostname)

end RouteSync

end Mesh

end SieveTube
