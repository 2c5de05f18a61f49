import Mathlib.Data.Finset.Basic
import SieveTube.Valkey.Scripts

/-!
# HTTP-01 challenges of a cluster

The CA may reach any Edge, so an order publishes its response in Valkey and
waits until every live Edge that answers challenges has confirmed it.  Each
Edge has a loop that takes over what is published, confirms it, and drops what
it took over when it is no longer published.
-/

namespace SieveTube.Http01

open Valkey (Reach)

/-- A domain and a token. -/
abbrev Challenge := String × String

/-- The published key authorizations and who confirmed them.  The member of
the index and the value of a challenge are set and deleted together. -/
structure Board where
  values : AList fun _ : Challenge => String
  acks : Challenge → Finset String

namespace Board

/-- The publisher confirms by itself, and nobody else has. -/
def publishHttp01 (board : Board) (edge : String) (challenge : Challenge)
    (keyAuthorization : String) : Board :=
  { values := board.values.insert challenge keyAuthorization
    acks := Function.update board.acks challenge {edge} }

def unpublishHttp01 (board : Board) (challenge : Challenge) : Board :=
  { values := board.values.erase challenge
    acks := Function.update board.acks challenge ∅ }

def ackHttp01 (board : Board) (edge : String) (challenge : Challenge) :
    Board :=
  { board with
    acks := Function.update board.acks challenge
      (insert edge (board.acks challenge)) }

end Board

/-- How far the loop of an Edge is: it lists the published challenges, reads
them one by one, and serves and confirms one after the other. -/
inductive SyncPhase where
  | sleeping
  | reading (members : List Challenge) (pending : List (Challenge × String))
  | serving (pending : List (Challenge × String)) (current : List Challenge)
  | acking (challenge : Challenge) (pending : List (Challenge × String))
      (current : List Challenge)

/-- How far the order of an Edge is with its challenge. -/
inductive OrderPhase where
  | idle
  | answering (challenge : Challenge) (keyAuthorization : String)
  | published (challenge : Challenge) (keyAuthorization : String)
  | readLive (challenge : Challenge) (keyAuthorization : String)
      (live : Finset String)
  | readResponders (challenge : Challenge) (keyAuthorization : String)
      (live responders : Finset String)
  | distributed (challenge : Challenge) (keyAuthorization : String)
      (live responders : Finset String)
  | withdrawing (challenge : Challenge)
deriving DecidableEq

/-- The challenge an order has in its Edge's table. -/
def OrderPhase.opened : OrderPhase → Option (Challenge × String)
  | .answering challenge keyAuthorization
  | .published challenge keyAuthorization
  | .readLive challenge keyAuthorization _
  | .readResponders challenge keyAuthorization _ _
  | .distributed challenge keyAuthorization _ _ =>
    some (challenge, keyAuthorization)
  | .idle | .withdrawing _ => none

structure Edge where
  responses : AList fun _ : Challenge => String
  synced : Finset Challenge
  sync : SyncPhase
  order : OrderPhase

namespace Edge

def start : Edge :=
  { responses := ∅, synced := ∅, sync := .sleeping, order := .idle }

/-- The next published challenge is served unless there is a response for it
already. -/
def serve (edge : Edge) (challenge : Challenge) (keyAuthorization : String)
    (pending : List (Challenge × String)) (current : List Challenge) : Edge :=
  match edge.responses.lookup challenge with
  | none =>
    { edge with
      responses := edge.responses.insert challenge keyAuthorization
      synced := insert challenge edge.synced
      sync := .acking challenge pending current }
  | some _ => { edge with sync := .acking challenge pending current }

/-- What was taken over and is not published any more is dropped. -/
def drop (edge : Edge) (current : List Challenge) : Edge :=
  { edge with
    responses := edge.responses.retain fun challenge _ =>
      challenge ∉ edge.synced || challenge ∈ current
    synced := edge.synced.filter (· ∈ current)
    sync := .sleeping }

end Edge

/-- The Edges, what Valkey has, and what the CA has handed out: to which Edge,
and the key authorization that goes with it. -/
structure Network where
  board : Board
  live : Finset String
  responders : Finset String
  edges : String → Edge
  handed : Challenge → Option (String × String)

/-- An order that fails, times out or is through is given up.  A call that
cannot be made leaves the board alone. -/
inductive Event where
  | announce (live responders : Finset String)
  | challenge (edge : String) (challenge : Challenge)
      (keyAuthorization : String)
  | publish (edge : String) (reach : Reach)
  | readLive (edge : String)
  | readResponders (edge : String)
  | readAcks (edge : String)
  | giveUp (edge : String)
  | unpublish (edge : String) (reach : Reach)
  | list (edge : String)
  | get (edge : String) (reach : Reach)
  | serve (edge : String)
  | ack (edge : String) (reach : Reach)
  | expire (challenge : Challenge)
  | expireAcks (challenge : Challenge)

namespace Network

def start : Network :=
  { board := { values := ∅, acks := fun _ => ∅ }
    live := ∅
    responders := ∅
    edges := fun _ => .start
    handed := fun _ => none }

def setEdge (network : Network) (name : String) (edge : Edge) : Network :=
  { network with edges := Function.update network.edges name edge }

def setOrder (network : Network) (name : String) (order : OrderPhase) :
    Network :=
  network.setEdge name { network.edges name with order }

def setSync (network : Network) (name : String) (sync : SyncPhase) :
    Network :=
  network.setEdge name { network.edges name with sync }

/-- `cleanup` drops the response of the order first. -/
def withdraw (network : Network) (name : String) (challenge : Challenge) :
    Network :=
  let edge := network.edges name
  network.setEdge name
    { edge with
      responses := edge.responses.erase challenge
      order := .withdrawing challenge }

def step (network : Network) : Event → Network
  | .announce live responders => { network with live, responders }
  | .challenge name challenge keyAuthorization =>
    match (network.edges name).order with
    | .idle =>
      let edge := network.edges name
      let network := network.setEdge name
        { edge with
          responses := edge.responses.insert challenge keyAuthorization
          order := .answering challenge keyAuthorization }
      { network with
        handed := Function.update network.handed challenge
          (some (name, keyAuthorization)) }
    | _ => network
  | .publish name reach =>
    match (network.edges name).order with
    | .answering challenge keyAuthorization =>
      let published :=
        { network with
          board := network.board.publishHttp01 name challenge keyAuthorization }
      match reach with
      | .answered =>
        published.setOrder name (.published challenge keyAuthorization)
      | .answerLost => published.withdraw name challenge
      | .unreachable => network.withdraw name challenge
    | _ => network
  | .readLive name =>
    match (network.edges name).order with
    | .published challenge keyAuthorization =>
      network.setOrder name (.readLive challenge keyAuthorization network.live)
    | _ => network
  | .readResponders name =>
    match (network.edges name).order with
    | .readLive challenge keyAuthorization live =>
      network.setOrder name (.readResponders challenge keyAuthorization
        live network.responders)
    | _ => network
  | .readAcks name =>
    match (network.edges name).order with
    | .readResponders challenge keyAuthorization live responders =>
      if live ∩ responders ⊆ network.board.acks challenge then
        network.setOrder name (.distributed challenge keyAuthorization
          live responders)
      else
        network.setOrder name (.published challenge keyAuthorization)
    | _ => network
  | .giveUp name =>
    match (network.edges name).order.opened with
    | some (challenge, _) => network.withdraw name challenge
    | none => network
  | .unpublish name reach =>
    match (network.edges name).order with
    | .withdrawing challenge =>
      match reach with
      | .unreachable => network.setOrder name .idle
      | .answered | .answerLost =>
        { network with
          board := network.board.unpublishHttp01 challenge }.setOrder name .idle
    | _ => network
  | .list name =>
    match (network.edges name).sync with
    | .sleeping => network.setSync name (.reading network.board.values.keys [])
    | _ => network
  | .get name reach =>
    match (network.edges name).sync with
    | .reading [] pending => network.setSync name (.serving pending [])
    | .reading (challenge :: members) pending =>
      match reach, network.board.values.lookup challenge with
      | .answered, some keyAuthorization =>
        network.setSync name (.reading members
          (pending ++ [(challenge, keyAuthorization)]))
      | .answered, none => network.setSync name (.reading members pending)
      | _, _ => network.setSync name .sleeping
    | _ => network
  | .serve name =>
    match (network.edges name).sync with
    | .serving [] current =>
      network.setEdge name ((network.edges name).drop current)
    | .serving ((challenge, keyAuthorization) :: pending) current =>
      network.setEdge name ((network.edges name).serve challenge
        keyAuthorization pending current)
    | _ => network
  | .ack name reach =>
    match (network.edges name).sync with
    | .acking challenge pending current =>
      match reach with
      | .unreachable =>
        network.setSync name (.serving pending (challenge :: current))
      | .answered | .answerLost =>
        { network with
          board := network.board.ackHttp01 name challenge }.setSync
            name (.serving pending (challenge :: current))
    | _ => network
  | .expire challenge =>
    { network with
      board := { network.board with
        values := network.board.values.erase challenge } }
  | .expireAcks challenge =>
    { network with
      board := { network.board with
        acks := Function.update network.board.acks challenge ∅ } }

/-- The network after a sequence of steps. -/
def run (events : List Event) : Network := Run.after step start events

/-- The CA does not hand out a challenge that it handed out before. -/
def fresh (network : Network) : Event → Bool
  | .challenge _ challenge _ => (network.handed challenge).isNone
  | _ => true

end Network

end SieveTube.Http01
