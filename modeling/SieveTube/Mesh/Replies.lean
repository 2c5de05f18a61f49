import SieveTube.Mesh.Attempts

/-!
# Replies to clients

Whatever Connectors and peers send, a reply reaches a client only through the
entry that an attempt left for its datagram.  The entry is inserted before
the datagram is sent: a reply may claim it although the datagram then cannot
be handed over.
-/

namespace SieveTube

open Inet

namespace Mesh

/-- An entry sends a reply to where the datagram of an attempt came from. -/
def Attempt.Describes (attempt : Attempt) (entry : UdpReplyEntry) : Prop :=
  ∃ (task : DatagramTask) (now : Nat), task.origin = attempt.origin ∧
    entry = task.entry attempt.target now

namespace Attempt.Describes

variable {attempt : Attempt} {entry : UdpReplyEntry}

theorem client {addr : SocketAddr} {socket : Nat}
    (describes : attempt.Describes entry)
    (destination : entry.destination = .client addr socket) :
    attempt.origin = .client addr socket := by
  obtain ⟨task, now, same, rfl⟩ := describes
  rw [← same]
  unfold DatagramTask.entry at destination
  split at destination
  · next origin _ =>
    cases destination
    exact origin
  · next origin _ =>
    cases destination
    exact origin
  · cases destination

theorem expected {edgeId : String} (describes : attempt.Describes entry)
    (expects : entry.expectPeer = some edgeId) :
    ∃ route connection,
      attempt.target = .peer route connection ∧ route.edgeId = edgeId := by
  obtain ⟨task, now, same, rfl⟩ := describes
  unfold DatagramTask.entry at expects
  split at expects
  · cases expects
  · next route connection _ target =>
    exact ⟨route, connection, target, Option.some.inj expects⟩
  · cases expects

end Attempt.Describes

/-- Whoever may claim an entry is whom the attempt was meant for. -/
theorem ReplySource.Claims.answers {loops : Nat → Option Nat}
    {source : ReplySource} {name : Option Nat} {entry : UdpReplyEntry}
    {attempt : Attempt} (claims : source.Claims loops name entry)
    (known : attempt.target.Known loops)
    (table : attempt.target.table = name)
    (describes : attempt.Describes entry) :
    source.Answers attempt.target := by
  cases claims with
  | connector reading =>
    cases target : attempt.target with
    | peer => simp [target, DatagramTarget.table] at table
    | connector handle =>
      rw [target] at known table
      cases table
      exact Option.some.inj (known.symm.trans reading)
  | peer expected =>
    obtain ⟨route, connection, target, same⟩ := describes.expected expected
    rw [target]
    exact same

namespace DatagramState

/-- Every entry stands for one attempt that was not answered yet, and every
reply for one attempt of the client it went to. -/
structure Tracked (state : DatagramState) : Prop where
  entries : ∀ {name requestId entry},
    (state.edge.table name).entries.lookup requestId = some entry →
      ∃ attempt, state.attempts requestId = some attempt ∧
        attempt.target.table = name ∧ attempt.Describes entry ∧
        ∀ reply ∈ state.replies, reply.requestId ≠ requestId
  answered : ∀ reply ∈ state.replies, ∃ attempt,
    state.attempts reply.requestId = some attempt ∧
      attempt.origin = .client reply.addr reply.socket ∧
      reply.source.Answers attempt.target
  once : (state.replies.map ClientReply.requestId).Nodup
  bounded : ∀ name,
    (state.edge.table name).entries.size ≤ (state.edge.table name).maxEntries

variable {state later : DatagramState} {index : Nat} {task : DatagramTask}
variable {target : DatagramTarget} {rest : List RemoteRoute}
variable {requestId : Nat}

theorem tracked_start (settings : DatagramSettings) :
    (start settings).Tracked where
  entries {name requestId entry} found := by
    cases name <;> cases found
  answered reply member := by cases member
  once := List.nodup_nil
  bounded name := by cases name <;> exact Nat.zero_le _

namespace Tracked

variable (tracked : state.Tracked)
include tracked

/-- Steps that insert no entry and answer no client. -/
theorem mono
    (tables : ∀ name, (state.edge.table name).Shrinks (later.edge.table name))
    (replies : later.replies = state.replies)
    (attempts : ∀ {requestId attempt}, state.attempts requestId = some attempt →
        ∃ attempt', later.attempts requestId = some attempt' ∧
          attempt'.origin = attempt.origin ∧
          attempt'.target = attempt.target) : later.Tracked where
  entries {name requestId entry} found := by
    obtain ⟨attempt, made, table, describes, unanswered⟩ :=
      tracked.entries ((tables name).entries found)
    obtain ⟨attempt', made', origin, target⟩ := attempts made
    refine ⟨attempt', made', by rw [target, table], ?_, by rwa [replies]⟩
    obtain ⟨task, now, same, rfl⟩ := describes
    exact ⟨task, now, same.trans origin.symm, by rw [target]⟩
  answered reply member := by
    rw [replies] at member
    obtain ⟨attempt, made, client, answers⟩ := tracked.answered reply member
    obtain ⟨attempt', made', origin, target⟩ := attempts made
    exact ⟨attempt', made', origin.trans client, by rwa [target]⟩
  once := by
    rw [replies]
    exact tracked.once
  bounded name := (tables name).bounded (tracked.bounded name)

theorem quiet (quiet : Quiet state later) : later.Tracked := by
  apply tracked.mono quiet.tables quiet.replies
  intro requestId attempt made
  exact ⟨attempt, quiet.attempts ▸ made, rfl, rfl⟩

/-- Steps that concern no entry and no attempt. -/
theorem congr (edge : later.edge.table = state.edge.table)
    (replies : later.replies = state.replies)
    (attempts : later.attempts = state.attempts) : later.Tracked := by
  apply tracked.mono (fun name => edge ▸ .refl) replies
  intro requestId attempt made
  exact ⟨attempt, attempts ▸ made, rfl, rfl⟩

theorem insert {now : Nat} {table : UdpReplyTable} {phase : DatagramPhase}
    (free : state.attempts requestId = none)
    (inserted : (state.edge.table target.table).insert requestId
      (task.entry target now) now = (true, table)) :
    ((state.setTable target.table table).settle index task target requestId
      .underway phase).Tracked := by
  obtain ⟨bounded, stored⟩ := UdpReplyTable.insert_true inserted
  have kept : ∀ {other attempt}, state.attempts other = some attempt →
      Function.update state.attempts requestId
        (some { task := index, origin := task.origin, target
                outcome := .underway }) other = some attempt := by
    intro other attempt made
    rw [Function.update_of_ne _ _ _, made]
    rintro rfl
    cases free.symm.trans made
  have old : ∀ {name other entry},
      (state.edge.table name).entries.lookup other = some entry →
        ∃ attempt, Function.update state.attempts requestId
            (some { task := index, origin := task.origin, target
                    outcome := .underway }) other = some attempt ∧
          attempt.target.table = name ∧ attempt.Describes entry ∧
          ∀ reply ∈ state.replies, reply.requestId ≠ other := by
    intro name other entry found
    obtain ⟨attempt, made, rest⟩ := tracked.entries found
    exact ⟨attempt, kept made, rest⟩
  constructor
  · intro name other entry found
    simp only [settle, setPhase, setAttempt, setTable,
      Edge.table_setTable] at found
    split at found
    · next here =>
      rcases stored other entry found with ⟨rfl, rfl⟩ | before
      · refine ⟨_, Function.update_self .., here.symm, ⟨task, now, rfl, rfl⟩,
          ?_⟩
        rintro reply member rfl
        obtain ⟨attempt, made, _⟩ := tracked.answered reply member
        cases free.symm.trans made
      · exact old (here ▸ before)
    · exact old found
  · intro reply member
    obtain ⟨attempt, made, rest⟩ := tracked.answered reply member
    exact ⟨attempt, kept made, rest⟩
  · exact tracked.once
  · intro name
    simp only [settle, setPhase, setAttempt, setTable, Edge.table_setTable]
    split
    · exact bounded
    · exact tracked.bounded name

/-- The outcome of an attempt enters the account. -/
theorem conclude {phase : DatagramPhase} {outcome : AttemptOutcome}
    (underway : state.attempts requestId =
      some { task := index, origin := task.origin, target
             outcome := .underway }) :
    (state.settle index task target requestId outcome phase).Tracked := by
  refine tracked.mono ?_ rfl ?_
  · exact fun _ => .refl
  · intro other attempt made
    rcases eq_or_ne other requestId with rfl | different
    · cases underway.symm.trans made
      exact ⟨_, Function.update_self .., rfl, rfl⟩
    · exact ⟨attempt, (Function.update_of_ne different _ _).trans made,
        rfl, rfl⟩

theorem reply {name : Option Nat} {entry : UdpReplyEntry}
    {reply : ClientReply} (accounted : state.Accounted)
    (found : (state.edge.table name).entries.lookup reply.requestId =
      some entry)
    (client : entry.destination = .client reply.addr reply.socket)
    (claims : reply.source.Claims state.loops name entry) :
    Tracked { state.setTable name
      ((state.edge.table name).remove reply.requestId) with
      replies := state.replies ++ [reply] } := by
  obtain ⟨attempt, made, table, describes, unanswered⟩ := tracked.entries found
  constructor
  · intro other requestId entry' found'
    simp only [setTable, Edge.table_setTable] at found'
    have before : (state.edge.table other).entries.lookup requestId =
        some entry' ∧ requestId ≠ reply.requestId := by
      split at found'
      · next same =>
        subst other
        refine ⟨UdpReplyTable.shrinks_remove.entries found', ?_⟩
        rintro rfl
        cases UdpReplyTable.lookup_remove_self.symm.trans found'
      · next different =>
        refine ⟨found', ?_⟩
        rintro rfl
        obtain ⟨attempt', made', table', _⟩ := tracked.entries found'
        cases made.symm.trans made'
        exact different (table'.symm.trans table)
    obtain ⟨attempt', made', table', describes', unanswered'⟩ :=
      tracked.entries before.1
    refine ⟨attempt', made', table', describes', ?_⟩
    intro reply' member
    rcases List.mem_append.mp member with old | new
    · exact unanswered' reply' old
    · rw [List.mem_singleton.mp new]
      exact before.2.symm
  · intro reply' member
    rcases List.mem_append.mp member with old | new
    · exact tracked.answered reply' old
    · obtain rfl := List.mem_singleton.mp new
      refine ⟨attempt, made, describes.client client, ?_⟩
      exact claims.answers (accounted.placed made).known table describes
  · rw [List.map_append, List.nodup_append]
    refine ⟨tracked.once, List.nodup_singleton _, ?_⟩
    intro first earlier second new
    obtain ⟨reply', member, rfl⟩ := List.mem_map.mp earlier
    rw [List.mem_singleton.mp new]
    exact unanswered reply' member
  · intro name'
    simp only [setTable, Edge.table_setTable]
    split
    · exact UdpReplyTable.shrinks_remove.bounded (tracked.bounded name)
    · exact tracked.bounded name'

theorem move (accounted : state.Accounted)
    (move : Move state later) : later.Tracked := by
  cases move with
  | quiet quiet => exact tracked.quiet quiet
  | spawn fresh | number found offers => exact tracked.congr rfl rfl rfl
  | advance found quiet advances =>
    exact (tracked.quiet quiet).congr rfl rfl rfl
  | insert found numbered inserted =>
    have fits := accounted.fits found
    unfold Fits at fits
    rw [numbered] at fits
    exact tracked.insert fits.2.2 inserted
  | hand found pending | fail found pending =>
    exact tracked.conclude (accounted.underway found pending)
  | reply found client claims =>
    exact tracked.reply accounted found client claims

end Tracked

structure Sound (state : DatagramState) : Prop where
  registered : state.Registered
  accounted : state.Accounted
  tracked : state.Tracked

theorem Registered.move (registered : state.Registered)
    (move : Move state later) : later.Registered := by
  cases move with
  | quiet quiet => exact quiet.registered
  | advance found quiet advances => exact quiet.registered.congr rfl rfl rfl
  | insert | reply =>
    refine registered.congr ?_ ?_ rfl <;>
      simp [DatagramState.setTable, settle, setAttempt, setPhase]
  | spawn | number | hand | fail => exact registered.congr rfl rfl rfl

theorem sound_start {settings : DatagramSettings} : (start settings).Sound where
  registered :=
    { consistent := ConnectorRegistry.consistent_new
      known := fun current => by cases current
      fresh := fun reading => by cases reading }
  accounted := accounted_start settings
  tracked := tracked_start settings

theorem Sound.step (sound : state.Sound) (event : DatagramEvent) :
    (state.step event).Sound := by
  have move := step_move sound.registered event
  exact ⟨sound.registered.move move, sound.accounted.move move,
    sound.tracked.move sound.accounted move⟩

theorem sound_run (settings : DatagramSettings)
    (events : List DatagramEvent) : (run settings events).Sound :=
  Run.invariant sound_start (fun _ event sound => sound.step event) events

/-- The replies to the datagram of a task. -/
def repliesTo (state : DatagramState) (index : Nat) : List ClientReply :=
  state.replies.filter fun reply =>
    (state.attempts reply.requestId).any fun attempt =>
      attempt.task = index

/-- A reply was accepted for an attempt that failed. -/
def AnsweredInVain (state : DatagramState) (reply : ClientReply) : Prop :=
  ∃ attempt, state.attempts reply.requestId = some attempt ∧
    attempt.outcome = .failed

instance (state : DatagramState) (reply : ClientReply) :
    Decidable (state.AnsweredInVain reply) :=
  decidable_of_iff ((state.attempts reply.requestId).any fun attempt =>
    attempt.outcome = .failed)
    (by cases found : state.attempts reply.requestId <;>
          simp [AnsweredInVain, found])

/-- A step fails no send whose reply was accepted and accepts no reply for a
send that has failed: a reply is in vain after it only if it was before. -/
def Unclaimed (state : DatagramState) (event : DatagramEvent) : Prop :=
  ∀ reply ∈ (state.step event).replies,
    (state.step event).AnsweredInVain reply →
      reply ∈ state.replies ∧ state.AnsweredInVain reply

instance (state : DatagramState) (event : DatagramEvent) :
    Decidable (state.Unclaimed event) :=
  inferInstanceAs (Decidable (∀ reply ∈ _, _ → _ ∧ _))

/-- A datagram of a client is handed over once, and a reply reaches the
client from whom it was meant for.  Other peers leave pending entries alone,
and tables stay within their bounds. -/
structure RightClient (state : DatagramState) : Prop where
  handed : ∀ {requestId other attempt later},
    state.attempts requestId = some attempt →
      state.attempts other = some later → attempt.task = later.task →
        attempt.outcome = .handed → later.outcome = .handed → requestId = other
  sender : ∀ reply ∈ state.replies, ∃ attempt task,
    state.attempts reply.requestId = some attempt ∧
      state.tasks[attempt.task]? = some task ∧
      task.origin = .client reply.addr reply.socket ∧
      reply.source.Answers attempt.target
  others : ∀ {requestId entry attempt route connection},
    state.edge.udpReplies.entries.lookup requestId = some entry →
      state.attempts requestId = some attempt →
        attempt.target = .peer route connection →
          ∀ peerId, peerId ≠ route.edgeId → ∀ connection' datagram fate,
              (state.peerDatagram peerId connection' datagram
                fate).edge.udpReplies.entries.lookup requestId = some entry
  bounded : ∀ name,
    (state.edge.table name).entries.size ≤ (state.edge.table name).maxEntries

/-- A datagram has one reply at most, and only if it was sent to whom
answered or is about to be. -/
structure AnsweredOnce (state : DatagramState) : Prop where
  once : ∀ index, (state.repliesTo index).length ≤ 1
  sent : ∀ reply ∈ state.replies, ∃ attempt,
    state.attempts reply.requestId = some attempt ∧
      (attempt.outcome = .handed ∨ attempt.outcome = .underway)

/-- A peer cannot remove an entry that waits for another peer. -/
theorem lookup_peerDatagram {entry : UdpReplyEntry} {peerId : String}
    (found : state.edge.udpReplies.entries.lookup requestId = some entry)
    (unexpected : entry.expectPeer ≠ some peerId) (connection : Nat)
    (datagram : List UInt8) (fate : DatagramFate) :
    (state.peerDatagram peerId connection datagram
      fate).edge.udpReplies.entries.lookup requestId = some entry := by
  simp only [peerDatagram]
  split
  · exact found
  · split
    · rw [edge_acceptRequest]
      exact found
    · exact Edge.lookup_handleDatagramReply found unexpected ..

theorem rightClient (sound : state.Sound) : state.RightClient where
  handed made made' same first second :=
    sound.accounted.alone made made' same (by simp [first]) (by simp [second])
  sender reply member := by
    obtain ⟨attempt, made, client, answers⟩ :=
      sound.tracked.answered reply member
    obtain ⟨task, found, origin, _⟩ := (sound.accounted.placed made).shown
    exact ⟨attempt, task, made, found, origin.trans client, answers⟩
  others {requestId entry attempt route connection} found made target := by
    intro peerId different
    have pending : (state.edge.table none).entries.lookup requestId =
        some entry := found
    obtain ⟨attempt', made', _, describes, _⟩ := sound.tracked.entries pending
    cases made.symm.trans made'
    apply lookup_peerDatagram found
    intro expected
    obtain ⟨route', _, target', named⟩ := describes.expected expected
    rw [target] at target'
    cases target'
    exact different named.symm
  bounded := sound.tracked.bounded

/-- A reply stays, and so does the failure of its attempt. -/
theorem AnsweredInVain.move {reply : ClientReply}
    (accounted : state.Accounted) (move : Move state later)
    (vain : state.AnsweredInVain reply) (member : reply ∈ state.replies) :
    reply ∈ later.replies ∧ later.AnsweredInVain reply := by
  obtain ⟨attempt, made, failed⟩ := vain
  cases move with
  | quiet quiet | advance found quiet advances =>
    exact ⟨quiet.replies ▸ member, attempt, quiet.attempts ▸ made, failed⟩
  | spawn | number => exact ⟨member, attempt, made, failed⟩
  | reply => exact ⟨List.mem_append_left _ member, attempt, made, failed⟩
  | insert found numbered inserted =>
    have fits := accounted.fits found
    unfold Fits at fits
    rw [numbered] at fits
    refine ⟨member, attempt, (Function.update_of_ne ?_ ..).trans made, failed⟩
    intro same
    cases fits.2.2.symm.trans (same ▸ made)
  | hand found pending | fail found pending =>
    refine ⟨member, attempt, (Function.update_of_ne ?_ ..).trans made, failed⟩
    intro same
    cases (accounted.underway found pending).symm.trans (same ▸ made)
    cases failed

/-- No reply is in vain at the end exactly if no step made it so. -/
theorem along_unclaimed_iff (settings : DatagramSettings)
    (events : List DatagramEvent) :
    (∀ reply ∈ (run settings events).replies,
      ¬ (run settings events).AnsweredInVain reply) ↔
      Run.Along step Unclaimed (start settings) events := by
  let Heeded (state : DatagramState) : Prop :=
    ∀ reply ∈ state.replies, ¬ state.AnsweredInVain reply
  constructor
  · intro heeded
    have back : ∀ state event, state.Sound → Heeded (state.step event) →
        Heeded state ∧ state.Unclaimed event := by
      intro state event sound heeded
      refine ⟨?_, fun reply member vain => absurd vain (heeded reply member)⟩
      intro reply member vain
      obtain ⟨stays, failed⟩ := vain.move sound.accounted
        (step_move sound.registered event) member
      exact heeded reply stays failed
    exact (Run.along_of_after (fun _ event sound => sound.step event) back
      sound_start heeded).2
  · intro along
    refine Run.invariant_along (motive := Heeded) ?_ ?_ along
    · intro reply member
      cases member
    · intro state event heeded unclaimed reply member vain
      obtain ⟨old, before⟩ := unclaimed reply member vain
      exact heeded reply old before

/-- All replies to one datagram have the id of its one attempt that did not
fail. -/
theorem repliesTo_length_le (sound : state.Sound)
    (sent : ∀ reply ∈ state.replies, ¬ state.AnsweredInVain reply)
    (index : Nat) : (state.repliesTo index).length ≤ 1 := by
  have kept : ∀ {reply}, reply ∈ state.repliesTo index →
      ∃ attempt, state.attempts reply.requestId = some attempt ∧
        attempt.task = index ∧ attempt.outcome ≠ .failed := by
    intro reply member
    obtain ⟨replied, own⟩ := List.mem_filter.mp member
    obtain ⟨attempt, made, _⟩ := sound.tracked.answered reply replied
    rw [made] at own
    exact ⟨attempt, made, by simpa using own,
      fun failed => sent reply replied ⟨attempt, made, failed⟩⟩
  have distinct : ((state.repliesTo index).map ClientReply.requestId).Nodup :=
    sound.tracked.once.sublist (List.filter_sublist.map _)
  match replies : state.repliesTo index with
  | [] | [_] => simp
  | first :: second :: rest =>
    rw [replies] at kept distinct
    obtain ⟨attempt, made, own, live⟩ := kept List.mem_cons_self
    obtain ⟨attempt', made', own', live'⟩ :=
      kept (List.mem_cons_of_mem _ List.mem_cons_self)
    have same := sound.accounted.alone made made'
      (own.trans own'.symm) live live'
    simp [same] at distinct

/-- Replies reach the right client.  They reach it once exactly when no send
fails whose reply was accepted, and no reply is accepted after its send has
failed. -/
theorem udp_replies_iff (settings : DatagramSettings)
    (events : List DatagramEvent) :
    (run settings events).RightClient ∧
      ((run settings events).AnsweredOnce ↔
        Run.Along step Unclaimed (start settings) events) := by
  have sound := sound_run settings events
  refine ⟨rightClient sound, ?_⟩
  rw [← along_unclaimed_iff]
  constructor
  · rintro answered reply member ⟨attempt, made, failed⟩
    obtain ⟨attempt', made', sent⟩ := answered.sent reply member
    cases made.symm.trans made'
    simp [failed] at sent
  · intro sent
    refine ⟨repliesTo_length_le sound sent, ?_⟩
    intro reply member
    obtain ⟨attempt, made, _⟩ := sound.tracked.answered reply member
    refine ⟨attempt, made, ?_⟩
    cases outcome : attempt.outcome with
    | handed => exact .inl rfl
    | underway => exact .inr rfl
    | failed => exact absurd ⟨attempt, made, outcome⟩ (sent reply member)

def meshEdge : DatagramSettings :=
  { edgeId := "edge-a", meshEnabled := true, udpMaxPendingReplies := 8
    maxPendingUdpReplies := 8, udpReplyTimeout := 10 }

def clientAddr : SocketAddr := { ip := .v4 0x0a000001#32, port := 4000#16 }

def routeTo (edgeId : String) : RemoteRoute :=
  { edgeId, tenantId := "tenant-a", generation := 1, addr := clientAddr
    expiresAt := 100 }

/-- A reply of a peer with one byte. -/
def replyTo (requestId : BitVec 64) (byte : UInt8) : List UInt8 :=
  let header : MeshDatagramHeader :=
    { kind := .reply, requestId, connectionGeneration := 0
      ingressEdgeId := "edge-a", tenantId := "", hostname := "a.test" }
  (header.encode [byte]).toOption.getD []

def taken : DatagramFate :=
  { now := 0, maxDatagramSize := none, sendFails := false }

/-- A client's datagram has two candidates; the entry for the first of them
is inserted. -/
def pendingAtFirst : List DatagramEvent :=
  [.setRoutes fun _ _ => [routeTo "edge-b", routeTo "edge-c"],
    .receive "a.test" [] clientAddr 0 0 fun _ => false,
    .proceed 0 (some 1) taken,
    .proceed 0 none taken]

/-- The first candidate takes the datagram and answers twice. -/
def answersAgain : List DatagramEvent :=
  pendingAtFirst ++
    [.proceed 0 none taken, .peerDatagram "edge-b" 1 (replyTo 1 7) taken,
      .peerDatagram "edge-b" 1 (replyTo 1 8) taken]

theorem udp_replies_answersAgain :
    (run meshEdge answersAgain).replies.length = 1 ∧
      (run meshEdge answersAgain).AnsweredOnce :=
  ⟨by decide +kernel,
    (udp_replies_iff meshEdge answersAgain).2.mpr (by decide +kernel)⟩

/-- The first candidate guesses the request id and answers before the
datagram is sent.  The connection is lost, and the second candidate takes the
datagram and answers as well. -/
def answersEarly : List DatagramEvent :=
  pendingAtFirst ++
    [.peerDatagram "edge-b" 1 (replyTo 1 7) taken,
      .proceed 0 none { taken with sendFails := true }, .proceed 0 none taken,
      .proceed 0 (some 2) taken,
      .proceed 0 none taken,
      .proceed 0 none taken,
      .peerDatagram "edge-c" 2 (replyTo 2 8) taken]

theorem answered_twice : (run meshEdge answersEarly).tasks.length = 1 ∧
      ((run meshEdge answersEarly).repliesTo 0).map ClientReply.payload =
        [[7], [8]] := by
  decide +kernel

end DatagramState

end Mesh

end SieveTube
