import SieveTube.Library.Inet
import SieveTube.Library.KeyedMap

/-!
# Pending UDP replies

A request forwarded as a datagram leaves an entry in a bounded table until
its reply arrives or the entry is older than the table's lifetime.  Instants
are counted in nanoseconds from the start of the process.
-/

namespace SieveTube

open Inet

/-- Where the reply to a datagram goes.  Sockets and QUIC connections are
known by their identity. -/
inductive UdpReplyDestination where
  | client (addr : SocketAddr) (socket : Nat)
  | peer (connection : Nat) (ingressEdgeId : String) (requestId : Nat)
      (hostname : String)

structure UdpReplyEntry where
  destination : UdpReplyDestination
  expectPeer : Option String
  created : Nat

namespace UdpReplyEntry

def client (addr : SocketAddr) (socket now : Nat) : UdpReplyEntry :=
  { destination := .client addr socket, expectPeer := none, created := now }

/-- A request sent over the mesh: only `peer` may answer it. -/
def clientViaPeer (addr : SocketAddr) (socket : Nat) (peer : String)
    (now : Nat) : UdpReplyEntry :=
  { destination := .client addr socket
    expectPeer := some peer
    created := now }

def peer (connection : Nat) (ingressEdgeId : String) (requestId : Nat)
    (hostname : String) (now : Nat) : UdpReplyEntry :=
  { destination := .peer connection ingressEdgeId requestId hostname
    expectPeer := none
    created := now }

end UdpReplyEntry

structure UdpReplyTable where
  entries : AList fun _ : Nat => UdpReplyEntry
  maxEntries : Nat
  ttl : Nat

namespace UdpReplyTable

def new (maxEntries ttl : Nat) : UdpReplyTable :=
  { entries := ∅, maxEntries, ttl }

def live (table : UdpReplyTable) (now : Nat) (entry : UdpReplyEntry) :
    Bool :=
  now - entry.created < table.ttl

def purgeExpired (table : UdpReplyTable) (now : Nat) : UdpReplyTable :=
  { table with entries := table.entries.retain fun _ => table.live now }

/-- Answers `false` when the table is full even without its expired
entries. -/
def insert (table : UdpReplyTable) (requestId : Nat)
    (entry : UdpReplyEntry) (now : Nat) : Bool × UdpReplyTable :=
  let room :=
    if table.maxEntries ≤ table.entries.size then table.purgeExpired now
    else table
  if room.maxEntries ≤ room.entries.size then (false, room)
  else (true, { room with entries := room.entries.insert requestId entry })

def take (table : UdpReplyTable) (requestId now : Nat) :
    Option UdpReplyEntry × UdpReplyTable :=
  ((table.entries.lookup requestId).filter (table.live now),
    { table with entries := table.entries.erase requestId })

/-- Like `take`, but an entry that `accept` rejects stays in place. -/
def takeIf (table : UdpReplyTable) (requestId now : Nat)
    (accept : UdpReplyEntry → Bool) : Option UdpReplyEntry × UdpReplyTable :=
  if (table.entries.lookup requestId).any accept then
    table.take requestId now
  else (none, table)

def remove (table : UdpReplyTable) (requestId : Nat) : UdpReplyTable :=
  { table with entries := table.entries.erase requestId }

/-- The table `later` has no entry that `table` does not have, and stays
within its bound. -/
structure Shrinks (table later : UdpReplyTable) : Prop where
  bounded : table.entries.size ≤ table.maxEntries →
    later.entries.size ≤ later.maxEntries
  entries : ∀ {requestId entry}, later.entries.lookup requestId = some entry →
      table.entries.lookup requestId = some entry

variable {table later : UdpReplyTable} {requestId : Nat}
variable {entry : UdpReplyEntry}

theorem Shrinks.refl : table.Shrinks table where
  bounded := id
  entries := id

theorem shrinks_new (maxEntries ttl : Nat) :
    table.Shrinks (new maxEntries ttl) where
  bounded _ := Nat.zero_le _
  entries found := by cases found

theorem shrinks_purgeExpired (now : Nat) :
    table.Shrinks (table.purgeExpired now) where
  bounded := (AList.size_retain_le _ _).trans
  entries found := by
    rw [purgeExpired, AList.lookup_retain] at found
    exact (Option.filter_eq_some_iff.mp found).1

theorem shrinks_remove :
    table.Shrinks (table.remove requestId) where
  bounded := (AList.size_erase_le _ _).trans
  entries found := by
    rw [remove, AList.lookup_erase_eq] at found
    split at found
    · cases found
    · exact found

theorem lookup_remove_self :
    (table.remove requestId).entries.lookup requestId = none :=
  AList.lookup_erase _ _

variable {now : Nat}

theorem take_eq {found : Option UdpReplyEntry}
    (taken : table.take requestId now = (found, later)) :
    later = table.remove requestId ∧ ∀ entry, found = some entry →
        table.entries.lookup requestId = some entry := by
  obtain ⟨rfl, rfl⟩ := Prod.mk.inj taken
  refine ⟨rfl, ?_⟩
  intro entry live
  exact (Option.filter_eq_some_iff.mp live).1

/-- Only an entry that `accept` lets pass is removed. -/
theorem takeIf_eq {accept : UdpReplyEntry → Bool} {found : Option UdpReplyEntry}
    (taken : table.takeIf requestId now accept = (found, later)) :
    found = none ∧ later = table ∨ later = table.remove requestId ∧
        (table.entries.lookup requestId).any accept ∧
        ∀ entry, found = some entry →
        table.entries.lookup requestId = some entry := by
  unfold takeIf at taken
  split at taken
  · next accepted =>
    obtain ⟨removed, live⟩ := take_eq taken
    exact .inr ⟨removed, accepted, live⟩
  · obtain ⟨rfl, rfl⟩ := Prod.mk.inj taken
    exact .inl ⟨rfl, rfl⟩

theorem shrinks_room (now : Nat) : table.Shrinks
      (if table.maxEntries ≤ table.entries.size then table.purgeExpired now
      else table) := by
  split
  · exact shrinks_purgeExpired now
  · exact .refl

theorem insert_false
    (refused : table.insert requestId entry now = (false, later)) :
    table.Shrinks later := by
  have room := table.shrinks_room now
  simp only [insert] at refused
  generalize (if table.maxEntries ≤ table.entries.size then
    table.purgeExpired now else table) = space at refused room
  split at refused
  · obtain ⟨_, rfl⟩ := Prod.mk.inj refused
    exact room
  · cases refused

theorem insert_true
    (inserted : table.insert requestId entry now = (true, later)) :
    later.entries.size ≤ later.maxEntries ∧ ∀ other found,
      later.entries.lookup other = some found →
        other = requestId ∧ found = entry ∨
          table.entries.lookup other = some found := by
  have room := table.shrinks_room now
  simp only [insert] at inserted
  generalize (if table.maxEntries ≤ table.entries.size then
    table.purgeExpired now else table) = space at inserted room
  split at inserted
  · cases inserted
  · next free =>
    obtain ⟨_, rfl⟩ := Prod.mk.inj inserted
    constructor
    · have grown := AList.size_insert_le requestId entry space.entries
      simp only
      omega
    · intro other found stored
      rcases eq_or_ne other requestId with rfl | different
      · rw [AList.lookup_insert] at stored
        exact .inl ⟨rfl, (Option.some.inj stored).symm⟩
      · rw [AList.lookup_insert_ne different] at stored
        exact .inr (room.entries stored)

end UdpReplyTable

end SieveTube
