import SieveTube.Mesh.Datagram

/-!
# What a step of the forwarding tasks can do

One case for each kind of step.  Most steps only take entries out of reply
tables; a task inserts one entry for an attempt, and a reply takes one.
-/

namespace SieveTube

open Inet

namespace Mesh

/-- The connection of a Connector reads the reply table in its handle. -/
def DatagramTarget.Known (loops : Nat → Option Nat) : DatagramTarget → Prop
  | .connector handle => loops handle.udpReplyMap = some handle.connection
  | .peer .. => True

/-- A task that has no id yet can take one for a target. -/
inductive DatagramPhase.Offers :
    DatagramPhase → DatagramTarget → List RemoteRoute → Prop where
  | deliver (connector : ConnectorHandle) : Offers (.deliver connector)
      (.connector connector) []
  | forward (route : RemoteRoute) (rest : List RemoteRoute) (connection : Nat) :
      Offers (.forward (route :: rest)) (.peer route connection) rest

/-- A task leaves an attempt behind, or a candidate. -/
inductive DatagramPhase.Advance : DatagramPhase → DatagramPhase → Prop where
  | exhaust : Advance (.forward []) .finished
  | skip (route : RemoteRoute) (rest : List RemoteRoute) :
      Advance (.forward (route :: rest)) (.forward rest)
  | refuse (target : DatagramTarget) (rest : List RemoteRoute)
      (requestId : Nat) :
      Advance (.numbered target rest requestId) (target.giveUp rest)
  | remove (target : DatagramTarget) (rest : List RemoteRoute)
      (requestId : Nat) :
      Advance (.failed target rest requestId) (target.giveUp rest)

/-- The table and the entry from which a source may be answered. -/
inductive ReplySource.Claims (loops : Nat → Option Nat) :
    ReplySource → Option Nat → UdpReplyEntry → Prop where
  | connector {name connection : Nat} {entry : UdpReplyEntry}
      (reading : loops name = some connection) :
      Claims loops (.connector connection) (some name) entry
  | peer {edgeId : String} {entry : UdpReplyEntry}
      (expected : entry.expectPeer = some edgeId) :
      Claims loops (.peer edgeId) none entry

namespace DatagramState

/-- Every registered Connector has a reply loop for its own table. -/
structure Registered (state : DatagramState) : Prop where
  consistent : state.edge.registry.Consistent
  known : ∀ {handle}, state.edge.registry.IsCurrent handle →
    handle.udpReplyMap < state.edge.nextTable ∧
      state.loops handle.udpReplyMap = some handle.connection
  fresh : ∀ {name connection}, state.loops name = some connection →
    name < state.edge.nextTable

/-- A step that neither inserts an entry nor answers a client. -/
structure Quiet (state later : DatagramState) : Prop where
  tasks : later.tasks = state.tasks
  attempts : later.attempts = state.attempts
  replies : later.replies = state.replies
  tables : ∀ name, (state.edge.table name).Shrinks (later.edge.table name)
  counted : state.edge.nextRequestId ≤ later.edge.nextRequestId
  loops : ∀ {name connection}, state.loops name = some connection →
    later.loops name = some connection
  registered : later.Registered

/-- The account has the outcome of an attempt, and its task moves on. -/
def settle (state : DatagramState) (index : Nat) (task : DatagramTask)
    (target : DatagramTarget) (requestId : Nat) (outcome : AttemptOutcome)
    (phase : DatagramPhase) : DatagramState :=
  (state.setAttempt requestId
    { task := index, origin := task.origin, target, outcome }).setPhase
    index task phase

inductive Move (state : DatagramState) : DatagramState → Prop where
  | quiet {later : DatagramState} (quiet : Quiet state later) : Move state later
  | spawn {task : DatagramTask}
      (fresh : (∃ connector, task.phase = .deliver connector ∧
        state.loops connector.udpReplyMap = some connector.connection) ∨
        ∃ routes, task.phase = .forward routes) :
      Move state (state.spawn task)
  | advance {middle : DatagramState} {index : Nat} {task : DatagramTask}
      {phase : DatagramPhase} (found : state.tasks[index]? = some task)
      (quiet : Quiet state middle) (advance : task.phase.Advance phase) :
      Move state (middle.setPhase index task phase)
  | number {index : Nat} {task : DatagramTask} {target : DatagramTarget}
      {rest : List RemoteRoute} (found : state.tasks[index]? = some task)
      (offers : task.phase.Offers target rest) :
      Move state (state.number index task target rest)
  | insert {index : Nat} {task : DatagramTask} {target : DatagramTarget}
      {rest : List RemoteRoute} {requestId now : Nat}
      {table : UdpReplyTable} (found : state.tasks[index]? = some task)
      (numbered : task.phase = .numbered target rest requestId)
      (inserted : (state.edge.table target.table).insert requestId
        (task.entry target now) now = (true, table)) :
      Move state
        ((state.setTable target.table table).settle index task target
          requestId .underway (.pending target rest requestId))
  | hand {index : Nat} {task : DatagramTask} {target : DatagramTarget}
      {rest : List RemoteRoute} {requestId : Nat}
      (found : state.tasks[index]? = some task)
      (pending : task.phase = .pending target rest requestId) :
      Move state
        (state.settle index task target requestId .handed .finished)
  | fail {index : Nat} {task : DatagramTask} {target : DatagramTarget}
      {rest : List RemoteRoute} {requestId : Nat}
      (found : state.tasks[index]? = some task)
      (pending : task.phase = .pending target rest requestId) :
      Move state
        (state.settle index task target requestId .failed
          (.failed target rest requestId))
  | reply {name : Option Nat} {entry : UdpReplyEntry} {reply : ClientReply}
      (found : (state.edge.table name).entries.lookup reply.requestId =
        some entry)
      (client : entry.destination = .client reply.addr reply.socket)
      (claims : reply.source.Claims state.loops name entry) :
      Move state
        { state.setTable name
            ((state.edge.table name).remove reply.requestId) with
          replies := state.replies ++ [reply] }

variable {state : DatagramState}

section

variable (registered : state.Registered)
include registered

theorem Registered.congr {later : DatagramState}
    (registry : later.edge.registry = state.edge.registry)
    (nextTable : later.edge.nextTable = state.edge.nextTable)
    (loops : later.loops = state.loops) : later.Registered where
  consistent := registry ▸ registered.consistent
  known {handle} current := by
    rw [registry] at current
    rw [nextTable, loops]
    exact registered.known current
  fresh {name connection} reading := by
    rw [loops] at reading
    rw [nextTable]
    exact registered.fresh reading

theorem Registered.reads {hostname : String} {connector : ConnectorHandle}
    (found : state.edge.registry.getByHostname hostname = some connector) :
    state.loops connector.udpReplyMap = some connector.connection :=
  (registered.known
    ((registered.consistent.indexed hostname connector).mp found).1).2

theorem Quiet.refl : Quiet state state where
  tasks := rfl
  attempts := rfl
  replies := rfl
  tables _ := .refl
  counted := Nat.le_refl _
  loops := id
  registered := registered

theorem Quiet.setTable {name : Option Nat} {table : UdpReplyTable}
    (shrinks : (state.edge.table name).Shrinks table) :
    Quiet state (state.setTable name table) where
  tasks := rfl
  attempts := rfl
  replies := rfl
  tables other := by
    rw [DatagramState.setTable, Edge.table_setTable]
    split
    · next same => exact same ▸ shrinks
    · exact .refl
  counted := by simp [DatagramState.setTable]
  loops := id
  registered := by
    refine registered.congr ?_ ?_ rfl <;> simp [DatagramState.setTable]

theorem Quiet.remove (name : Option Nat) (requestId : Nat) :
    Quiet state (state.setTable name
      ((state.edge.table name).remove requestId)) :=
  .setTable registered UdpReplyTable.shrinks_remove

end

theorem shrinks_setReplyTable_new (edge : Edge) (fresh maxEntries ttl : Nat)
    (name : Option Nat) :
    (edge.table name).Shrinks
      ((edge.setReplyTable fresh (.new maxEntries ttl)).table name) := by
  rw [show edge.setReplyTable fresh (.new maxEntries ttl) =
    edge.setTable (some fresh) (.new maxEntries ttl) from rfl,
    Edge.table_setTable]
  split
  · exact UdpReplyTable.shrinks_new _ _
  · exact .refl

section

variable (registered : state.Registered)
include registered

theorem Registered.reject {registration : Registration} {message : String}
    {edge : Edge}
    (answer : state.edge.registry.register registration =
      (.error message, edge.registry))
    (next : edge.nextTable = state.edge.nextTable + 1) :
    Registered { state with edge } := by
  have kept : edge.registry = state.edge.registry := by
    have rejected :=
      ConnectorRegistry.register_rejected (congrArg Prod.fst answer)
    rwa [answer] at rejected
  constructor
  · exact kept ▸ registered.consistent
  · intro handle current
    simp only [kept] at current
    obtain ⟨below, reading⟩ := registered.known current
    simp only [next]
    exact ⟨by omega, reading⟩
  · intro name connection reading
    have below := registered.fresh reading
    rw [next]
    omega

theorem Registered.accept {registration : Registration}
    {accepted : SieveTube.Registered} {edge : Edge}
    (answer : state.edge.registry.register registration =
      (.ok accepted, edge.registry))
    (table : registration.udpReplyMap = state.edge.nextTable)
    (next : edge.nextTable = state.edge.nextTable + 1) :
    Registered { state with
      edge
      loops := Function.update state.loops state.edge.nextTable
        (some accepted.handle.connection) } := by
  obtain ⟨own, _, _, current_iff⟩ := ConnectorRegistry.register_ok answer
  have consistent :=
    ConnectorRegistry.consistent_register registered.consistent registration
  rw [answer] at consistent
  constructor
  · exact consistent
  · intro handle current
    rw [next]
    rcases (current_iff handle).mp current with rfl | ⟨old, _⟩
    · have here : (state.edge.registry.handleFor registration).udpReplyMap =
          state.edge.nextTable := table
      refine ⟨by omega, ?_⟩
      simp only [here, Function.update_self, own]
    · obtain ⟨below, reading⟩ := registered.known old
      refine ⟨by omega, ?_⟩
      simp only
      rw [Function.update_of_ne (Nat.ne_of_lt below), reading]
  · intro name connection reading
    rw [next]
    rcases eq_or_ne name state.edge.nextTable with rfl | other
    · exact Nat.lt_succ_self _
    · simp only [Function.update_of_ne other] at reading
      exact Nat.lt_succ_of_lt (registered.fresh reading)

theorem quiet_connect (arrival : Arrival) :
    Quiet state (state.connect arrival) := by
  simp only [connect, Edge.handleConnector]
  cases requested : arrival.registration state.edge.meshEnabled
    state.edge.nextTable with
  | error reason => exact .refl registered
  | ok registration =>
    simp only
    have tables := shrinks_setReplyTable_new state.edge
      state.edge.nextTable state.edge.udpMaxPendingReplies
      state.edge.udpReplyTimeout
    rcases answer : state.edge.registry.register registration with
      ⟨outcome, registry⟩
    cases outcome with
    | error message =>
      exact
        { tasks := rfl
          attempts := rfl
          replies := rfl
          tables
          counted := Nat.le_refl _
          loops := id
          registered := registered.reject answer rfl }
    | ok accepted =>
      have table := (Arrival.registration_ok requested).2.2.2.2
      exact
        { tasks := rfl
          attempts := rfl
          replies := rfl
          tables
          counted := Nat.le_refl _
          loops := fun {name connection} reading => by
            have below := registered.fresh reading
            simp only
            rw [Function.update_of_ne (Nat.ne_of_lt below), reading]
          registered := registered.accept answer table rfl }

theorem quiet_discharge (tenantId : String) (generation : Nat) :
    Quiet state { state with
      edge := state.edge.discharge tenantId generation } where
  tasks := rfl
  attempts := rfl
  replies := rfl
  tables name := by cases name <;> exact .refl
  counted := Nat.le_refl _
  loops := id
  registered :=
    { consistent := ConnectorRegistry.consistent_remove registered.consistent
        tenantId generation
      known := fun current =>
        registered.known (ConnectorRegistry.isCurrent_remove current)
      fresh := registered.fresh }

theorem move_receive (hostname : String)
    (payload : List UInt8) (addr : SocketAddr) (socket now : Nat)
    (coolingDown : String → Bool) :
    Move state
      (state.receive hostname payload addr socket now coolingDown) := by
  simp only [receive]
  split
  · next connector decided =>
    exact .spawn
      (.inl ⟨connector, rfl,
        registered.reads (Edge.route_localRoute decided).1⟩)
  · next routes decided => exact .spawn (.inr ⟨routes, rfl⟩)
  · exact .quiet (.refl registered)

theorem move_proceed {index : Nat} {task : DatagramTask}
    (found : state.tasks[index]? = some task)
    (connection : Option Nat) (fate : DatagramFate) :
    Move state (state.proceed index task connection fate) := by
  have unchanged : Quiet state state := .refl registered
  simp only [proceed]
  split
  · next connector phase =>
    exact .number found (phase ▸ .deliver connector)
  · next phase => exact .advance found unchanged (phase ▸ .exhaust)
  · next route rest phase =>
    split
    · exact .advance found unchanged (phase ▸ .skip route rest)
    · next connection =>
      exact .number found (phase ▸ .forward route rest connection)
  · next target rest requestId phase =>
    have refuse : task.phase.Advance (target.giveUp rest) :=
      phase ▸ .refuse target rest requestId
    simp only [insertEntry]
    split
    · split
      · next refused =>
        exact .advance found (.setTable registered
          (UdpReplyTable.insert_false refused)) refuse
      · next inserted => exact .insert found phase inserted
    · exact .advance found unchanged refuse
  · next target rest requestId phase =>
    simp only [sendDatagram]
    split
    · exact .hand found phase
    · exact .fail found phase
  · next target rest requestId phase =>
    exact .advance found (.remove registered target.table requestId)
      (phase ▸ .remove target rest requestId)
  · exact .quiet unchanged

end

theorem Quiet.perform {edge : Edge} {effects : List Effect} {requestId : Nat}
    {source : ReplySource} (quiet : Quiet state { state with edge })
    (silent : effects.filterMap (ClientReply.of requestId source) = []) :
    Move state (state.perform requestId source (effects, edge)) := by
  simp only [DatagramState.perform, silent, List.append_nil]
  exact .quiet quiet

theorem move_perform {name : Option Nat} {entry : UdpReplyEntry}
    {requestId : Nat} {source : ReplySource} {addr : SocketAddr}
    {socket : Nat}
    (found : (state.edge.table name).entries.lookup requestId = some entry)
    (client : entry.destination = .client addr socket)
    (claims : source.Claims state.loops name entry) {payload : List UInt8} :
    Move state (state.perform requestId source
      ([.sendToClient addr socket payload], state.edge.setTable name
          ((state.edge.table name).remove requestId))) :=
  @Move.reply state name entry
    ⟨requestId, source, addr, socket, payload⟩ found client claims

variable (registered : state.Registered)
include registered

theorem move_connectorDatagram (name : Nat) (datagram : List UInt8)
    (fate : DatagramFate) :
    Move state (state.connectorDatagram name datagram fate) := by
  simp only [connectorDatagram]
  split
  · next connection header payload reading decoded =>
    simp only [Edge.handleConnectorDatagram, decoded]
    rcases taken : (state.edge.replyTables name).take header.requestId
      fate.now with ⟨found, table⟩
    obtain ⟨rfl, live⟩ := UdpReplyTable.take_eq taken
    have dropped : Quiet state { state with
        edge := state.edge.setReplyTable name
          ((state.edge.replyTables name).remove header.requestId) } :=
      .remove registered (some name) header.requestId
    cases found with
    | none => exact dropped.perform rfl
    | some entry =>
      simp only
      split
      · next addr socket client =>
        exact move_perform (live entry rfl) client (.connector reading)
      · split
        · exact dropped.perform rfl
        · split <;> exact dropped.perform rfl
  · exact .quiet (.refl registered)

variable (peerId : String) (connection : Nat) (header : MeshDatagramHeader)
variable (datagram payload : List UInt8) (fate : DatagramFate)

theorem move_acceptRequest :
    Move state (state.acceptRequest peerId connection header payload) := by
  have unchanged : Quiet state state := .refl registered
  simp only [acceptRequest]
  split
  · split
    · exact .quiet unchanged
    · next connector found =>
      split
      · exact .spawn (.inl ⟨connector, rfl, registered.reads found⟩)
      · exact .quiet unchanged
  · exact .quiet unchanged

theorem move_reply :
    Move state (state.perform header.requestId.toNat (.peer peerId)
      (state.edge.handleDatagramReply peerId header payload fate)) := by
  simp only [Edge.handleDatagramReply]
  split
  · rcases taken : state.edge.udpReplies.takeIf header.requestId.toNat
      fate.now (fun entry => entry.expectPeer = some peerId) with
      ⟨found, table⟩
    rcases UdpReplyTable.takeIf_eq taken with
      ⟨rfl, rfl⟩ | ⟨rfl, accepted, live⟩
    · exact (Quiet.refl registered).perform rfl
    · have dropped : Quiet state { state with
          edge := { state.edge with
            udpReplies := state.edge.udpReplies.remove
              header.requestId.toNat } } :=
        .remove registered none header.requestId.toNat
      cases found with
      | none => exact dropped.perform rfl
      | some entry =>
        rw [live entry rfl] at accepted
        simp only
        split
        · next addr socket client =>
          exact move_perform (live entry rfl) client
            (.peer (by simpa using accepted))
        · exact dropped.perform rfl
  · exact (Quiet.refl registered).perform rfl

theorem move_peerDatagram :
    Move state (state.peerDatagram peerId connection datagram fate) := by
  simp only [peerDatagram]
  split
  · exact .quiet (.refl registered)
  · next header payload decoded =>
    split
    · exact move_acceptRequest registered peerId connection header payload
    · exact move_reply registered peerId header payload fate

theorem step_move (event : DatagramEvent) : Move state (state.step event) := by
  cases event with
  | connect arrival => exact .quiet (quiet_connect registered arrival)
  | discharge tenantId generation =>
    exact .quiet (quiet_discharge registered tenantId generation)
  | setRoutes routes =>
    exact .quiet { Quiet.refl registered with
      tables := fun name => by cases name <;> exact .refl
      registered := registered.congr rfl rfl rfl }
  | openStream =>
    exact .quiet { Quiet.refl registered with
      tables := fun name => by cases name <;> exact .refl
      counted := Nat.le_succ _
      registered := registered.congr rfl rfl rfl }
  | receive hostname payload addr socket now coolingDown =>
    exact move_receive registered hostname payload addr socket now coolingDown
  | proceed index connection fate =>
    simp only [step]
    split
    · exact .quiet (.refl registered)
    · next task found => exact move_proceed registered found connection fate
  | connectorDatagram name datagram fate =>
    exact move_connectorDatagram registered name datagram fate
  | peerDatagram peerId connection datagram fate =>
    exact move_peerDatagram registered peerId connection datagram fate
  | purge name now =>
    exact .quiet (.setTable registered (UdpReplyTable.shrinks_purgeExpired now))

end DatagramState

end Mesh

end SieveTube
