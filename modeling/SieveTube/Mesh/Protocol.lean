import SieveTube.Hostname
import SieveTube.Library.Inet
import SieveTube.Registry

/-!
# Messages between Edges

Forwarding metadata as a receiving Edge sees it, with the structural checks
every receiver performs before authorization, and the header of a datagram
forwarded over the mesh with its binary form.
-/

namespace SieveTube

open Inet

inductive SieveTubeError where
  | auth (message : String)
  | protocol (message : String)

namespace Mesh

def meshVersion : Nat := 1

/-- Maximum length in bytes of identifiers carried in mesh messages. -/
def maxIdLen : Nat := 256

inductive RejectReason where
  | unsupportedVersion
  | hopLimit
  | notAuthorized
  | noRoute
  | overloaded
  | invalid
deriving DecidableEq

def RejectReason.retryable : RejectReason → Bool
  | .noRoute | .overloaded => true
  | _ => false

structure ForwardRequest where
  version : Nat
  ingressEdgeId : String
  tenantId : String
  hostname : String
  protocol : Protocol
  clientAddr : SocketAddr
  requestId : Nat
  hopsRemaining : Nat
  connectionGeneration : Nat
  responseBudgetMs : Option Nat

namespace ForwardRequest

def validId (id : String) : Bool :=
  !id.toList.isEmpty && Text.byteLength id.toList ≤ maxIdLen

/-- Structural checks every receiver performs before authorization. -/
def validate (request : ForwardRequest) : Except RejectReason Unit :=
  if request.version ≠ meshVersion then .error .unsupportedVersion
  else if request.hopsRemaining = 0 then .error .hopLimit
  else
    let idsOk := [request.ingressEdgeId, request.tenantId, request.hostname].all
      validId
    let hostnameOk :=
      (Hostname.normalizeHostname request.hostname).toOption =
        some request.hostname
    if idsOk && hostnameOk then .ok () else .error .invalid

theorem validate_hops {request : ForwardRequest}
    (valid : request.validate = .ok ()) : 1 ≤ request.hopsRemaining := by
  unfold validate at valid
  split at valid
  · cases valid
  · split at valid
    · cases valid
    · omega

end ForwardRequest

structure ForwardResponse where
  accepted : Bool
  reject : Option RejectReason
deriving DecidableEq

def ForwardResponse.accept : ForwardResponse :=
  { accepted := true, reject := none }

def ForwardResponse.rejectWith (reason : RejectReason) : ForwardResponse :=
  { accepted := false, reject := some reason }

inductive MeshDatagramKind where
  | request
  | reply

def MeshDatagramKind.toByte : MeshDatagramKind → UInt8
  | .request => 1
  | .reply => 2

/-- Header of a UDP payload forwarded between Edges. -/
structure MeshDatagramHeader where
  kind : MeshDatagramKind
  requestId : BitVec 64
  connectionGeneration : BitVec 64
  ingressEdgeId : String
  tenantId : String
  hostname : String

end Mesh

/-- `bytes` big-endian bytes of a number. -/
def toBeBytes : Nat → Nat → List UInt8
  | 0, _ => []
  | bytes + 1, value =>
    UInt8.ofNat (value / 256 ^ bytes) :: toBeBytes bytes value

def fromBeBytes (bytes : List UInt8) : Nat :=
  bytes.foldl (fun value byte => value * 256 + byte.toNat) 0

def utf8Bytes (text : String) : List UInt8 := text.toUTF8.data.toList

/-- `str::from_utf8`, which accepts exactly the well-formed byte strings. -/
def fromUtf8 (bytes : List UInt8) : Option String :=
  String.fromUTF8? ⟨bytes.toArray⟩

namespace Mesh.MeshDatagramHeader

def datagramVersion : UInt8 := 1

def fieldBytes (field : String) : List UInt8 :=
  toBeBytes 2 (utf8Bytes field).length ++ utf8Bytes field

/-- The fields `encode` checks, under the names its error gives them. -/
def textFields (header : MeshDatagramHeader) : List (String × String) :=
  [("ingress_edge_id", header.ingressEdgeId), ("tenant_id", header.tenantId),
    ("hostname", header.hostname)]

def encode (header : MeshDatagramHeader) (payload : List UInt8) :
    Except SieveTubeError (List UInt8) :=
  match header.textFields.find? fun field =>
    maxIdLen < (utf8Bytes field.2).length with
  | some (what, field) =>
    .error (.protocol
      s!"mesh datagram {what} of {(utf8Bytes field).length} bytes exceeds {maxIdLen}")
  | none =>
    .ok ([datagramVersion, header.kind.toByte] ++
      toBeBytes 8 header.requestId.toNat ++
      toBeBytes 8 header.connectionGeneration.toNat ++
      fieldBytes header.ingressEdgeId ++ fieldBytes header.tenantId ++
      fieldBytes header.hostname ++ payload)

def invalid (what : String) : SieveTubeError :=
  .protocol ("invalid mesh datagram: " ++ what)

/-- One length-prefixed text field and the bytes after it. -/
def decodeField (rest : List UInt8) :
    Except SieveTubeError (String × List UInt8) :=
  if rest.length < 2 then .error (invalid "truncated field")
  else
    let length := fromBeBytes (rest.take 2)
    if maxIdLen < length || rest.length < 2 + length then
      .error (invalid "field length")
    else
      match fromUtf8 ((rest.drop 2).take length) with
      | none => .error (invalid "field encoding")
      | some value => .ok (value, rest.drop (2 + length))

def decodeKind : UInt8 → Except SieveTubeError MeshDatagramKind
  | 1 => .ok .request
  | 2 => .ok .reply
  | _ => .error (invalid "unknown kind")

def decode (data : List UInt8) :
    Except SieveTubeError (MeshDatagramHeader × List UInt8) :=
  match data with
  | version :: kindByte :: body =>
    if body.length < 16 then .error (invalid "truncated header")
    else if version ≠ datagramVersion then
      .error (invalid "unsupported version")
    else do
      let kind ← decodeKind kindByte
      let (ingressEdgeId, rest) ← decodeField (body.drop 16)
      let (tenantId, rest) ← decodeField rest
      let (hostname, rest) ← decodeField rest
      return (
        { kind
          requestId := BitVec.ofNat 64 (fromBeBytes (body.take 8))
          connectionGeneration :=
            BitVec.ofNat 64 (fromBeBytes ((body.drop 8).take 8))
          ingressEdgeId
          tenantId
          hostname }, rest)
  | _ => .error (invalid "truncated header")

end Mesh.MeshDatagramHeader

/-- Header of a datagram on a Connector connection. -/
structure DatagramHeader where
  requestId : Nat
  hostname : String

def DatagramHeader.encode (header : DatagramHeader)
    (payload : List UInt8) : List UInt8 :=
  toBeBytes 8 header.requestId ++
    toBeBytes 2 (utf8Bytes header.hostname).length ++
    utf8Bytes header.hostname ++ payload

def DatagramHeader.decode (data : List UInt8) :
    Option (DatagramHeader × List UInt8) :=
  if data.length < 10 then none
  else
    let hostnameLen := fromBeBytes ((data.drop 8).take 2)
    if data.length < 10 + hostnameLen then none
    else
      (fromUtf8 ((data.drop 10).take hostnameLen)).map fun hostname =>
        ({ requestId := fromBeBytes (data.take 8), hostname },
          data.drop (10 + hostnameLen))

end SieveTube
