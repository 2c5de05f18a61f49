import SieveTube.Certificate.Http01

/-!
# Distribution of HTTP-01 responses

Who confirmed a published challenge serves it, as long as the CA hands out no
challenge twice: a challenge is then published for one span of time, so a loop
that knows it either lists it again or finds it gone for good.  A challenge
that is handed out again can be dropped by a loop that listed in between.
-/

namespace SieveTube.Http01

/-- What a loop has listed and not yet left behind. -/
def SyncPhase.tracks : SyncPhase → List Challenge
  | .sleeping => []
  | .reading members pending => members ++ pending.map Prod.fst
  | .serving pending current => pending.map Prod.fst ++ current
  | .acking challenge pending current =>
    challenge :: (pending.map Prod.fst ++ current)

/-- What a loop has read. -/
def SyncPhase.pending : SyncPhase → List (Challenge × String)
  | .sleeping => []
  | .reading _ pending | .serving pending _ | .acking _ pending _ => pending

namespace Board

variable (board : Board) (edge : String) (challenge other : Challenge)
variable (value : String)

theorem lookup_publishHttp01 :
    (board.publishHttp01 edge challenge value).values.lookup
      other = if other = challenge then some value
        else board.values.lookup other :=
  AList.lookup_insert_eq ..

theorem acks_publishHttp01 :
    (board.publishHttp01 edge challenge value).acks other =
      if other = challenge then {edge} else board.acks other := by
  simp [publishHttp01, Function.update_apply]

theorem acks_ackHttp01 :
    (board.ackHttp01 edge challenge).acks other =
      if other = challenge then insert edge (board.acks challenge)
      else board.acks other := by
  simp [ackHttp01, Function.update_apply]

theorem acks_unpublishHttp01 :
    (board.unpublishHttp01 challenge).acks other =
      if other = challenge then ∅ else board.acks other := by
  simp [unpublishHttp01, Function.update_apply]

end Board

namespace Network

section

variable (network : Network) (name : String) (challenge : Challenge)

/-- The key authorization the CA handed out. -/
def Valued (value : String) : Prop :=
  ∃ owner, network.handed challenge = some (owner, value)

/-- The challenge is not published, and no loop knows it. -/
def Quiet : Prop :=
  network.board.values.lookup challenge = none ∧ ∀ name,
    challenge ∉ (network.edges name).synced ∧
      challenge ∉ (network.edges name).sync.tracks

/-- The challenge is published for an order that goes on. -/
def Active : Prop :=
  (network.board.values.lookup challenge).isSome = true ∧
    ∃ name value, (network.edges name).order.opened = some (challenge, value)

def Serves : Prop :=
  ((network.edges name).responses.lookup challenge).isSome = true

/-- The Edge confirmed the challenge, is about to, or was relied on. -/
def Committed : Prop :=
  name ∈ network.board.acks challenge ∨
    (∃ pending current,
      (network.edges name).sync = .acking challenge pending current) ∨
    ∃ owner value live responders, (network.edges owner).order =
        .distributed challenge value live responders ∧
      name ∈ live ∩ responders

end

/-- What an Edge has agrees with the rest of the network. -/
structure Fits (network : Network) (name : String) (edge : Edge) : Prop where
  responses : ∀ challenge value,
    edge.responses.lookup challenge = some value →
    network.Valued challenge value
  pending : ∀ challenge value,
    (challenge, value) ∈ edge.sync.pending →
    network.Valued challenge value
  handed : ∀ challenge value,
    edge.order.opened = some (challenge, value) →
    network.handed challenge = some (name, value)
  answering : ∀ challenge value,
    edge.order = .answering challenge value → network.Quiet challenge
  silent : ∀ challenge, network.Quiet challenge →
    challenge ∉ edge.synced ∧ challenge ∉ edge.sync.tracks
  own : ∀ challenge value,
    edge.order.opened = some (challenge, value) →
    edge.responses.lookup challenge = some value ∧
      challenge ∉ edge.synced
  tracked : ∀ challenge,
    (network.board.values.lookup challenge).isSome = true →
    challenge ∈ edge.synced → edge.sync ≠ .sleeping →
    challenge ∈ edge.sync.tracks

/-- What holds in every state while no challenge is handed out twice. -/
structure Tidy (network : Network) : Prop where
  valued : ∀ challenge value,
    network.board.values.lookup challenge = some value →
    network.Valued challenge value
  quiet : ∀ challenge, network.handed challenge = none → network.Quiet challenge
  fits : ∀ name, network.Fits name (network.edges name)
  kept : ∀ name challenge, network.Active challenge →
    network.Committed name challenge → network.Serves name challenge

theorem tidy_start : Tidy start where
  valued := fun _ _ found => nomatch found
  quiet := fun _ _ => ⟨rfl, fun _ => ⟨Finset.notMem_empty _, List.not_mem_nil⟩⟩
  fits := fun _ =>
    { responses := fun _ _ found => nomatch found
      pending := fun _ _ member => nomatch member
      handed := fun _ _ opened => nomatch opened
      answering := fun _ _ found => nomatch found
      silent := fun _ _ => ⟨Finset.notMem_empty _, List.not_mem_nil⟩
      own := fun _ _ opened => nomatch opened
      tracked := fun _ present => nomatch present }
  kept := fun _ _ active => nomatch active.1

section Frame

variable {network : Network} {name : String}

@[simp]
theorem edges_setEdge (network : Network) (name other : String)
    (edge : Edge) : (network.setEdge name edge).edges other =
      if other = name then edge else network.edges other := by
  simp [setEdge, Function.update_apply]

variable {challenge : Challenge}

theorem active_of_setEdge {edge : Edge}
    (opened : ∀ value,
      edge.order.opened = some (challenge, value) →
      (network.board.values.lookup challenge).isSome = true →
      (network.edges name).order.opened = some (challenge, value))
    (active : (network.setEdge name edge).Active challenge) :
    network.Active challenge := by
  obtain ⟨present, other, value, found⟩ := active
  refine ⟨present, ?_⟩
  rw [edges_setEdge] at found
  split at found
  · exact ⟨name, value, opened _ found present⟩
  · exact ⟨other, value, found⟩

section Edge

variable {edge : Edge}
variable (acking : ∀ challenge pending current,
  edge.sync = .acking challenge pending current →
  edge.sync = (network.edges name).sync ∨
    (edge.responses.lookup challenge).isSome = true)
variable (distributed : ∀ challenge value live responders,
  edge.order = .distributed challenge value live responders →
  edge.order = (network.edges name).order ∨
    live ∩ responders ⊆ network.board.acks challenge)
include acking distributed

/-- Whoever is committed was so before, or is the Edge of the step and
serves the challenge. -/
theorem committed_of_setEdge {other : String}
    (committed : (network.setEdge name edge).Committed other challenge) :
    network.Committed other challenge ∨
      other = name ∧ (edge.responses.lookup challenge).isSome = true := by
  rcases committed with acked | ⟨pending, current, found⟩ |
    ⟨owner, value, live, responders, found, member⟩
  · exact .inl (.inl acked)
  · rw [edges_setEdge] at found
    split at found
    · next same =>
      refine (acking _ _ _ found).imp (fun kept => ?_) (⟨same, ·⟩)
      exact .inr (.inl ⟨_, _, same ▸ kept ▸ found⟩)
    · exact .inl (.inr (.inl ⟨_, _, found⟩))
  · rw [edges_setEdge] at found
    split at found
    · next same =>
      refine .inl ?_
      rcases distributed _ _ _ _ found with kept | acked
      · exact .inr (.inr ⟨owner, _, _, _, same ▸ kept ▸ found, member⟩)
      · exact .inl (acked member)
    · exact .inl (.inr (.inr ⟨owner, _, _, _, found, member⟩))

/-- A step of one Edge that leaves the board alone. -/
theorem Tidy.setEdge (tidy : network.Tidy) (fits : network.Fits name edge)
    (opened : ∀ challenge value,
      edge.order.opened = some (challenge, value) →
      (network.board.values.lookup challenge).isSome = true →
      (network.edges name).order.opened = some (challenge, value))
    (serves : ∀ challenge, (network.setEdge name edge).Active challenge →
      network.Serves name challenge →
      (edge.responses.lookup challenge).isSome = true) :
    (network.setEdge name edge).Tidy := by
  have each : ∀ other,
      network.Fits other ((network.setEdge name edge).edges other) := by
    intro other
    rw [edges_setEdge]
    split
    · next same => exact same ▸ fits
    · exact tidy.fits other
  have quiet : ∀ challenge, network.Quiet challenge →
      (network.setEdge name edge).Quiet challenge :=
    fun challenge quiet =>
      ⟨quiet.1, fun other => (each other).silent challenge quiet⟩
  exact
    { valued := tidy.valued
      quiet := fun challenge unknown =>
        quiet challenge (tidy.quiet challenge unknown)
      fits := fun other =>
        { each other with
          answering := fun _ _ found =>
            quiet _ ((each other).answering _ _ found)
          silent := fun _ silent => silent.2 other }
      kept := by
        intro other challenge active committed
        unfold Serves
        rw [edges_setEdge]
        rcases committed_of_setEdge acking distributed committed with
          committed | ⟨same, present⟩
        · have served := tidy.kept other challenge
            (active_of_setEdge (opened challenge) active) committed
          split
          · next same => exact serves challenge active (same ▸ served)
          · exact served
        · rwa [if_pos same] }

end Edge

variable (tidy : network.Tidy)
include tidy

section Order

variable {order : OrderPhase}
variable (answering : ∀ challenge value,
  order ≠ .answering challenge value)
variable (distributed : ∀ challenge value live responders,
  order = .distributed challenge value live responders →
  live ∩ responders ⊆ network.board.acks challenge)
include answering distributed

theorem Tidy.setOrder
    (opened : ∀ challenge value,
      order.opened = some (challenge, value) →
      (network.edges name).order.opened = some (challenge, value)) :
    (network.setOrder name order).Tidy :=
  tidy.setEdge (fun _ _ _ _ => .inl rfl)
    (fun _ _ _ _ found => .inr (distributed _ _ _ _ found))
    { tidy.fits name with
      handed := fun _ _ found => (tidy.fits name).handed _ _ (opened _ _ found)
      answering := fun _ _ same => absurd same (answering _ _)
      own := fun _ _ found => (tidy.fits name).own _ _ (opened _ _ found) }
    (fun _ _ found _ => opened _ _ found) (fun _ _ served => served)

theorem Tidy.moveOrder
    (same : order.opened = (network.edges name).order.opened) :
    (network.setOrder name order).Tidy :=
  tidy.setOrder answering distributed fun _ _ found => same ▸ found

end Order

theorem Tidy.setSync {sync : SyncPhase}
    (pending : ∀ challenge value,
      (challenge, value) ∈ sync.pending →
      network.Valued challenge value)
    (quiet : ∀ challenge, network.Quiet challenge → challenge ∉ sync.tracks)
    (tracked : ∀ challenge,
      (network.board.values.lookup challenge).isSome = true →
      challenge ∈ (network.edges name).synced → sync ≠ .sleeping →
      challenge ∈ sync.tracks)
    (acking : ∀ challenge pending current,
      sync ≠ .acking challenge pending current) :
    (network.setSync name sync).Tidy :=
  tidy.setEdge (fun _ _ _ found => absurd found (acking _ _ _))
    (fun _ _ _ _ _ => .inl rfl)
    { tidy.fits name with
      pending
      silent := fun challenge silent =>
        ⟨(silent.2 name).1, quiet challenge silent⟩
      tracked }
    (fun _ _ found _ => found) (fun _ _ served => served)

/-- The response of an order is dropped, and the order is not open any
more. -/
theorem Tidy.withdraw {keyAuthorization : String}
    (opened : (network.edges name).order.opened =
      some (challenge, keyAuthorization)) :
    (network.withdraw name challenge).Tidy := by
  have owned := (tidy.fits name).handed _ _ opened
  refine tidy.setEdge (fun _ _ _ _ => .inl rfl) nofun
    { tidy.fits name with
      responses := ?_, handed := nofun, answering := nofun, own := nofun }
    nofun ?_
  · intro other value found
    rw [AList.lookup_erase_eq] at found
    split at found
    · cases found
    · exact (tidy.fits name).responses other value found
  · intro other active served
    have different : other ≠ challenge := by
      rintro rfl
      obtain ⟨-, owner, value, found⟩ := active
      rw [edges_setEdge] at found
      split at found
      · cases found
      · next elsewhere =>
        have handed := (tidy.fits owner).handed _ _ found
        cases handed.symm.trans owned
        exact elsewhere rfl
    rw [AList.lookup_erase_eq, if_neg different]
    exact served

/-- The board loses challenges, and gains confirmations of those only who
were committed before. -/
theorem Tidy.setBoard {board : Board}
    (values : ∀ challenge value,
      board.values.lookup challenge = some value →
      network.board.values.lookup challenge = some value)
    (acks : ∀ challenge, ∀ other ∈ board.acks challenge,
      network.Committed other challenge) :
    Tidy { network with board } := by
  have present : ∀ challenge, (board.values.lookup challenge).isSome = true →
      (network.board.values.lookup challenge).isSome = true := by
    intro challenge present
    obtain ⟨value, found⟩ := Option.isSome_iff_exists.mp present
    rw [values _ _ found]
    rfl
  have quiet : ∀ challenge, network.Quiet challenge →
      Quiet { network with board } challenge := by
    intro challenge quiet
    refine ⟨?_, quiet.2⟩
    by_contra some
    have found := present challenge (Option.isSome_iff_ne_none.mpr some)
    rw [quiet.1] at found
    cases found
  exact
    { tidy with
      valued := fun _ _ found => tidy.valued _ _ (values _ _ found)
      quiet := fun challenge unknown =>
        quiet challenge (tidy.quiet challenge unknown)
      fits := fun other =>
        { tidy.fits other with
          answering := fun _ _ found =>
            quiet _ ((tidy.fits other).answering _ _ found)
          silent := fun _ silent => silent.2 other
          tracked := fun _ found =>
            (tidy.fits other).tracked _ (present _ found) }
      kept := by
        intro other challenge active committed
        refine tidy.kept other challenge
          ⟨present challenge active.1, active.2⟩ ?_
        rcases committed with acked | rest
        · exact acks challenge other acked
        · exact .inr rest }

theorem Tidy.shrinkBoard {board : Board}
    (values : ∀ challenge, board.values.lookup challenge = none ∨
      board.values.lookup challenge = network.board.values.lookup challenge)
    (acks : ∀ challenge, board.acks challenge ⊆ network.board.acks challenge) :
    Tidy { network with board } := by
  refine tidy.setBoard ?_ fun challenge other acked => .inl (acks _ acked)
  intro challenge value found
  rcases values challenge with gone | same
  · cases gone.symm.trans found
  · exact same ▸ found

/-- The first publication of a challenge. -/
theorem Tidy.publish {keyAuthorization : String}
    (handed : network.handed challenge = some (name, keyAuthorization))
    (quiet : network.Quiet challenge)
    (unanswered : ∀ other value,
      (network.edges other).order ≠ .answering challenge value)
    (undistributed : ∀ value live responders, (network.edges name).order ≠
      .distributed challenge value live responders) :
    Tidy { network with
      board := network.board.publishHttp01 name challenge keyAuthorization } :=
  have silent : ∀ other, other ≠ challenge → network.Quiet other →
      Quiet { network with
      board := network.board.publishHttp01 name challenge keyAuthorization }
        other := by
    intro other different quiet
    refine ⟨?_, quiet.2⟩
    rw [Board.lookup_publishHttp01, if_neg different]
    exact quiet.1
  { tidy with
    valued := by
      intro other value found
      rw [Board.lookup_publishHttp01] at found
      split at found
      · next same =>
        cases found
        exact ⟨name, same ▸ handed⟩
      · exact tidy.valued other value found
    quiet := by
      intro other unknown
      refine silent other ?_ (tidy.quiet other unknown)
      rintro rfl
      cases unknown.symm.trans handed
    fits := by
      intro other
      refine { tidy.fits other with
        answering := fun known value found => ?_
        silent := fun _ silent => silent.2 other
        tracked := fun known present member awake => ?_ }
      · refine silent known ?_ ((tidy.fits other).answering known value found)
        rintro rfl
        exact unanswered other value found
      · by_cases same : known = challenge
        · subst known
          exact absurd member (quiet.2 other).1
        · refine (tidy.fits other).tracked known ?_ member awake
          rwa [Board.lookup_publishHttp01, if_neg same] at present
    kept := by
      intro other known active committed
      obtain ⟨present, owner, value, opened⟩ := active
      by_cases same : known = challenge
      · subst known
        cases ((tidy.fits owner).handed _ _ opened).symm.trans handed
        rcases committed with acked | ⟨pending, current, acking⟩ |
          ⟨distributor, other, live, responders, found, -⟩
        · have publisher : other ∈ (network.board.publishHttp01 name challenge
              keyAuthorization).acks challenge := acked
          rw [Board.acks_publishHttp01, if_pos rfl,
            Finset.mem_singleton] at publisher
          subst other
          unfold Serves
          rw [((tidy.fits _).own _ _ opened).1]
          rfl
        · refine absurd ?_ (quiet.2 other).2
          rw [show (network.edges other).sync = _ from acking]
          exact List.mem_cons_self
        · have opens : (network.edges distributor).order.opened =
              some (challenge, other) := by
            rw [show (network.edges distributor).order = _ from found]
            rfl
          cases ((tidy.fits _).handed _ _ opens).symm.trans handed
          exact absurd found (undistributed _ _ _)
      · refine tidy.kept other known ⟨?_, owner, value, opened⟩ ?_
        · rwa [Board.lookup_publishHttp01, if_neg same] at present
        · refine committed.imp_left fun acked => ?_
          have before : other ∈ (network.board.publishHttp01 name challenge
              keyAuthorization).acks known := acked
          rwa [Board.acks_publishHttp01, if_neg same] at before }

end Frame

section Steps

variable {network : Network} {name : String}

variable {challenge : Challenge}

theorem Tidy.hand (tidy : network.Tidy)
    (fresh : network.handed challenge = none) (keyAuthorization : String) :
    Tidy { network with
      handed := Function.update network.handed challenge
        (some (name, keyAuthorization)) } := by
  have before : ∀ {other : Challenge} {owner value : String},
      network.handed other = some (owner, value) →
      Function.update network.handed challenge
        (some (name, keyAuthorization)) other = some (owner, value) := by
    intro other owner value handed
    have different : other ≠ challenge := by
      rintro rfl
      cases handed.symm.trans fresh
    rwa [Function.update_of_ne different]
  have valued : ∀ other value, network.Valued other value →
      Valued { network with
        handed := Function.update network.handed challenge
          (some (name, keyAuthorization)) } other value := by
    rintro other value ⟨owner, handed⟩
    exact ⟨owner, before handed⟩
  exact
    { tidy with
      valued := fun _ _ found => valued _ _ (tidy.valued _ _ found)
      fits := fun other =>
        { tidy.fits other with
          responses := fun _ _ found =>
            valued _ _ ((tidy.fits other).responses _ _ found)
          pending := fun _ _ member =>
            valued _ _ ((tidy.fits other).pending _ _ member)
          handed := fun _ _ opened =>
            before ((tidy.fits other).handed _ _ opened) }
      quiet := by
        intro other unknown
        apply tidy.quiet
        by_cases same : other = challenge
        · exact same ▸ fresh
        · exact (Function.update_of_ne same ..).symm.trans unknown }

variable {keyAuthorization : String}

variable (tidy : network.Tidy)
include tidy

theorem Tidy.answer (quiet : network.Quiet challenge)
    (handed : network.handed challenge = some (name, keyAuthorization)) :
    (network.setEdge name
      { network.edges name with
        responses := (network.edges name).responses.insert challenge
          keyAuthorization
        order := .answering challenge keyAuthorization }).Tidy := by
  refine tidy.setEdge (fun _ _ _ _ => .inl rfl) nofun
    { tidy.fits name with responses := ?_, handed := ?_, answering := ?_, own :=
        ?_ }
    ?_ ?_
  · intro other value found
    rw [AList.lookup_insert_eq] at found
    split at found
    · next same =>
      cases found
      exact ⟨name, same ▸ handed⟩
    · exact (tidy.fits name).responses other value found
  · rintro other value ⟨⟩
    exact handed
  · rintro other value ⟨⟩
    exact quiet
  · rintro other value ⟨⟩
    refine ⟨?_, (quiet.2 name).1⟩
    rw [AList.lookup_insert_eq, if_pos rfl]
  · rintro other value ⟨⟩ present
    rw [quiet.1] at present
    cases present
  · intro other active served
    rw [AList.lookup_insert_eq]
    split
    · rfl
    · exact served

theorem Tidy.serve {pending : List (Challenge × String)}
    {current : List Challenge} (serving : (network.edges name).sync =
      .serving ((challenge, keyAuthorization) :: pending) current) :
    (network.setEdge name ((network.edges name).serve challenge
      keyAuthorization pending current)).Tidy := by
  have read := (tidy.fits name).pending
  have known := (tidy.fits name).tracked
  rw [serving] at read known
  have silent : ∀ other, network.Quiet other →
      other ∉ (network.edges name).synced ∧
        other ∉ (SyncPhase.acking challenge pending current).tracks := by
    intro other quiet
    have outside := (quiet.2 name).2
    rw [serving] at outside
    exact ⟨(quiet.2 name).1, outside⟩
  unfold Edge.serve
  split
  · next absent =>
    have unopened : ∀ other value, (network.edges name).order.opened =
        some (other, value) → other ≠ challenge := by
      rintro other value opened rfl
      cases absent.symm.trans ((tidy.fits name).own _ _ opened).1
    refine tidy.setEdge ?_ (fun _ _ _ _ _ => .inl rfl)
      { tidy.fits name with
        responses := ?_
        pending := fun _ _ member => read _ _ (List.mem_cons_of_mem _ member)
        silent := ?_, own := ?_, tracked := ?_ }
      (fun _ _ found _ => found) ?_
    · rintro other _ _ ⟨⟩
      rw [AList.lookup_insert_eq, if_pos rfl]
      exact .inr rfl
    · intro other value found
      rw [AList.lookup_insert_eq] at found
      split at found
      · next same =>
        cases found
        subst other
        exact read _ _ List.mem_cons_self
      · exact (tidy.fits name).responses other value found
    · intro other quiet
      have outside := silent other quiet
      refine ⟨?_, outside.2⟩
      rw [Finset.mem_insert, not_or]
      refine ⟨?_, outside.1⟩
      rintro rfl
      exact outside.2 List.mem_cons_self
    · intro other value opened
      have own := (tidy.fits name).own other value opened
      have different := unopened other value opened
      rw [AList.lookup_insert_eq, if_neg different, Finset.mem_insert]
      exact ⟨own.1, not_or.mpr ⟨different, own.2⟩⟩
    · intro other present member _
      rcases Finset.mem_insert.mp member with rfl | member
      · exact List.mem_cons_self
      · exact known other present member (by rintro ⟨⟩)
    · intro other active served
      rw [AList.lookup_insert_eq]
      split
      · rfl
      · exact served
  · next value present =>
    refine tidy.setEdge ?_ (fun _ _ _ _ _ => .inl rfl)
      { tidy.fits name with
        pending := fun _ _ member => read _ _ (List.mem_cons_of_mem _ member)
        silent
        tracked := fun other found member _ =>
          known other found member (by rintro ⟨⟩) }
      (fun _ _ found _ => found) (fun _ _ served => served)
    rintro other _ _ ⟨⟩
    rw [present]
    exact .inr rfl

theorem Tidy.drop {current : List Challenge}
    (serving : (network.edges name).sync = .serving [] current) :
    (network.setEdge name ((network.edges name).drop current)).Tidy := by
  have known := (tidy.fits name).tracked
  rw [serving] at known
  have retained : ∀ challenge value,
      ((network.edges name).drop current).responses.lookup challenge =
        some value →
      (network.edges name).responses.lookup challenge =
        some value := by
    intro challenge value found
    rw [Edge.drop, AList.lookup_retain] at found
    exact (Option.filter_eq_some_iff.mp found).1
  refine tidy.setEdge nofun (fun _ _ _ _ _ => .inl rfl)
    { tidy.fits name with
      responses := fun _ _ found =>
        (tidy.fits name).responses _ _ (retained _ _ found)
      pending := nofun
      silent := ?_, own := ?_
      tracked := fun _ _ _ awake => absurd rfl awake }
    (fun _ _ found _ => found) ?_
  · intro challenge quiet
    refine ⟨fun member => (quiet.2 name).1 ?_, List.not_mem_nil⟩
    exact (Finset.mem_filter.mp member).1
  · intro challenge value opened
    obtain ⟨found, unsynced⟩ := (tidy.fits name).own challenge _ opened
    constructor
    · rw [Edge.drop, AList.lookup_retain, found]
      simp [Option.filter, unsynced]
    · exact fun member => unsynced (Finset.mem_filter.mp member).1
  · intro challenge active served
    obtain ⟨value, found⟩ := Option.isSome_iff_exists.mp served
    have kept : (challenge ∉ (network.edges name).synced ∨
        challenge ∈ current) := by
      by_cases synced : challenge ∈ (network.edges name).synced
      · exact .inr (known challenge active.1 synced nofun)
      · exact .inl synced
    rw [Edge.drop, AList.lookup_retain, found]
    simp [Option.filter, kept]

theorem Tidy.publishStep
    (answering : (network.edges name).order =
      .answering challenge keyAuthorization) (reach : Valkey.Reach) :
    (network.step (.publish name reach)).Tidy := by
  have opened : (network.edges name).order.opened =
      some (challenge, keyAuthorization) := by
    rw [answering]
    rfl
  have handed := (tidy.fits name).handed _ _ opened
  have quiet := (tidy.fits name).answering _ _ answering
  have moved : ∀ edge : Edge, (network.setEdge name edge).Tidy →
      edge.synced = (network.edges name).synced →
      edge.sync = (network.edges name).sync →
      (∀ value, edge.order ≠ .answering challenge value) →
      (∀ value live responders,
        edge.order ≠ .distributed challenge value live responders) →
      Tidy { network.setEdge name edge with
        board := network.board.publishHttp01 name challenge
          keyAuthorization } := by
    intro edge tidyToo synced sync unanswered undistributed
    refine tidyToo.publish handed ⟨quiet.1, ?_⟩ ?_ ?_
    · intro other
      rw [edges_setEdge]
      split
      · rw [synced, sync]
        exact quiet.2 name
      · exact quiet.2 other
    · intro other value found
      rw [edges_setEdge] at found
      split at found
      · exact unanswered value found
      · next different =>
        have openedToo : (network.edges other).order.opened =
            some (challenge, value) := by
          rw [found]
          rfl
        cases ((tidy.fits _).handed _ _ openedToo).symm.trans handed
        exact different rfl
    · rw [edges_setEdge, if_pos rfl]
      exact undistributed
  simp only [step, answering]
  cases reach with
  | answered =>
    refine moved _ (tidy.setOrder nofun nofun ?_) rfl rfl nofun nofun
    exact fun _ _ found => opened.trans found
  | answerLost => exact moved _ (tidy.withdraw opened) rfl rfl nofun nofun
  | unreachable => exact tidy.withdraw opened

variable (reach : Valkey.Reach)

theorem Tidy.get : (network.step (.get name reach)).Tidy := by
  have asleep : (network.setSync name .sleeping).Tidy :=
    tidy.setSync (fun _ _ none => nomatch none)
      (fun _ _ => List.not_mem_nil) (fun _ _ _ awake => absurd rfl awake)
      nofun
  have read := (tidy.fits name).pending
  have known := (tidy.fits name).tracked
  have silent : ∀ other, network.Quiet other →
      other ∉ (network.edges name).sync.tracks :=
    fun other quiet => (quiet.2 name).2
  simp only [step]
  split
  · next pending reading =>
    rw [reading] at read known silent
    refine tidy.setSync read ?_ ?_ nofun
    · intro other quiet
      simpa [SyncPhase.tracks] using silent other quiet
    · intro other present member _
      simpa [SyncPhase.tracks] using known other present member nofun
  · next challenge members pending reading =>
    rw [reading] at read known silent
    split
    · next keyAuthorization found =>
      refine tidy.setSync ?_ ?_ ?_ nofun
      · intro other value member
        rcases List.mem_append.mp member with earlier | last
        · exact read other value earlier
        · cases List.mem_singleton.mp last
          exact tidy.valued _ _ found
      · intro other quiet member
        refine silent other quiet ?_
        simp only [SyncPhase.tracks, List.map_append, List.mem_append,
          List.cons_append, List.mem_cons, List.map_cons,
          List.map_nil] at member ⊢
        tauto
      · intro other present member _
        have listed := known other present member nofun
        simp only [SyncPhase.tracks, List.map_append, List.mem_append,
          List.cons_append, List.mem_cons, List.map_cons,
          List.map_nil] at listed ⊢
        tauto
    · next absent =>
      refine tidy.setSync read ?_ ?_ nofun
      · intro other quiet member
        exact silent other quiet (List.mem_cons_of_mem _ member)
      · intro other present member _
        rcases List.mem_cons.mp (known other present member nofun) with
          rfl | rest
        · rw [absent] at present
          cases present
        · exact rest
    · exact asleep
  · exact tidy

theorem Tidy.ack : (network.step (.ack name reach)).Tidy := by
  have read := (tidy.fits name).pending
  have known := (tidy.fits name).tracked
  have silent : ∀ other, network.Quiet other →
      other ∉ (network.edges name).sync.tracks :=
    fun other quiet => (quiet.2 name).2
  simp only [step]
  split
  · next challenge pending current acking =>
    rw [acking] at read known silent
    have moved : ∀ earlier : Network, earlier.Tidy →
        earlier.board.values = network.board.values →
        earlier.edges = network.edges →
        earlier.handed = network.handed →
        (earlier.setSync name (.serving pending
          (challenge :: current))).Tidy := by
      intro earlier tidyToo values edges handed
      refine tidyToo.setSync ?_ ?_ ?_ nofun
      · intro other value member
        unfold Valued
        rw [handed]
        exact read other value member
      · intro other quiet member
        refine silent other ?_ ?_
        · unfold Quiet at quiet ⊢
          rwa [values, edges] at quiet
        · simp only [SyncPhase.tracks, List.mem_append,
            List.mem_cons] at member ⊢
          tauto
      · intro other present member _
        rw [values] at present
        rw [edges] at member
        have listed := known other present member nofun
        simp only [SyncPhase.tracks, List.mem_append, List.mem_cons] at listed ⊢
        tauto
    have acked : Tidy { network with
        board := network.board.ackHttp01 name challenge } := by
      refine tidy.setBoard (fun _ _ found => found) ?_
      intro other member confirmed
      rw [Board.acks_ackHttp01] at confirmed
      split at confirmed
      · next same =>
        subst other
        rcases Finset.mem_insert.mp confirmed with rfl | before
        · exact .inr (.inl ⟨pending, current, acking⟩)
        · exact .inl before
      · exact .inl confirmed
    cases reach with
    | unreachable => exact moved network tidy rfl rfl rfl
    | answered | answerLost => exact moved _ acked rfl rfl rfl
  · exact tidy

/-- The order has ended, and its challenge is taken from the board. -/
theorem Tidy.unpublish : (network.step (.unpublish name reach)).Tidy := by
  simp only [step]
  split
  · next challenge withdrawing =>
    have unpublished : Tidy { network with
        board := network.board.unpublishHttp01 challenge } := by
      refine tidy.shrinkBoard ?_ ?_
      · intro other
        rw [Board.unpublishHttp01, AList.lookup_erase_eq]
        exact ite_eq_or_eq _ _ _
      · intro other
        rw [Board.acks_unpublishHttp01]
        split
        · exact Finset.empty_subset _
        · exact subset_rfl
    cases reach with
    | unreachable => exact tidy.setOrder nofun nofun nofun
    | answered | answerLost => exact unpublished.setOrder nofun nofun nofun
  · exact tidy

/-- A loop starts over with the challenges that are on the board. -/
theorem Tidy.list : (network.step (.list name)).Tidy := by
  simp only [step]
  split
  · refine tidy.setSync (fun _ _ none => nomatch none) ?_ ?_ nofun
    · intro other quiet member
      simp only [SyncPhase.tracks, List.map_nil, List.append_nil] at member
      rw [← AList.mem_keys, ← AList.lookup_isSome, quiet.1] at member
      cases member
    · intro other present _ _
      simp only [SyncPhase.tracks, List.map_nil, List.append_nil]
      rwa [← AList.mem_keys, ← AList.lookup_isSome]
  · exact tidy

theorem Tidy.step {event : Event}
    (fresh : network.fresh event = true) : (network.step event).Tidy := by
  cases event with
  | announce live responders =>
    exact ⟨tidy.valued, tidy.quiet,
      fun name => { tidy.fits name with }, tidy.kept⟩
  | challenge name challenge value =>
    have unknown : network.handed challenge = none := by
      simpa [Network.fresh] using fresh
    simp only [Network.step]
    split
    · exact (tidy.hand unknown value).answer
        (tidy.quiet challenge unknown) (Function.update_self ..)
    · exact tidy
  | publish name reach =>
    cases order : (network.edges name).order with
    | answering challenge value => exact tidy.publishStep order reach
    | _ => simpa only [Network.step, order] using tidy
  | readLive name | readResponders name =>
    simp only [Network.step]
    split
    · next found => exact tidy.moveOrder nofun nofun (by rw [found]; rfl)
    · exact tidy
  | readAcks name =>
    simp only [Network.step]
    split
    · next found =>
      split
      · next confirmed =>
        refine tidy.moveOrder nofun ?_ (by rw [found]; rfl)
        rintro _ _ _ _ ⟨⟩
        exact confirmed
      · exact tidy.moveOrder nofun nofun (by rw [found]; rfl)
    · exact tidy
  | giveUp name =>
    simp only [Network.step]
    split
    · next opened => exact tidy.withdraw opened
    · exact tidy
  | unpublish name reach => exact tidy.unpublish reach
  | list name => exact tidy.list
  | get name reach => exact tidy.get reach
  | serve name =>
    simp only [Network.step]
    split
    · next current serving => exact tidy.drop serving
    · next serving => exact tidy.serve serving
    · exact tidy
  | ack name reach => exact tidy.ack reach
  | expire challenge =>
    refine tidy.shrinkBoard (fun other => ?_) fun _ => subset_rfl
    rw [AList.lookup_erase_eq]
    exact ite_eq_or_eq _ _ _
  | expireAcks challenge =>
    refine tidy.shrinkBoard (fun _ => .inr rfl) fun other => ?_
    dsimp only
    rw [Function.update_apply]
    split
    · exact Finset.empty_subset _
    · exact subset_rfl

end Steps

theorem tidy_run {events : List Event}
    (fresh : Run.Along step (fun network event =>
      network.fresh event = true) start events) : (run events).Tidy :=
  Run.invariant_along tidy_start (fun _ _ tidy fresh => tidy.step fresh) fresh

/-- When the CA hands out no challenge twice: from the moment a response
counts as distributed until it is withdrawn or expires, the ordering Edge and
every Edge of both sets it read serve it. -/
theorem distribution_sound (events : List Event) (name : String)
    (challenge : Challenge) (keyAuthorization : String)
    (live responders : Finset String)
    (fresh : Run.Along step (fun network event => network.fresh event = true)
      start events)
    (distributed : ((run events).edges name).order =
      .distributed challenge keyAuthorization live responders)
    (published : ((run events).board.values.lookup challenge).isSome = true) :
    ∀ other ∈ insert name (live ∩ responders),
      ((run events).edges other).responses.lookup challenge =
        some keyAuthorization := by
  have tidy := tidy_run fresh
  have opened : ((run events).edges name).order.opened =
      some (challenge, keyAuthorization) := by
    rw [distributed]
    rfl
  have handed := (tidy.fits name).handed _ _ opened
  intro other member
  rcases Finset.mem_insert.mp member with rfl | member
  · exact ((tidy.fits _).own _ _ opened).1
  · have serves := tidy.kept other challenge ⟨published, name, _, opened⟩
      (.inr (.inr ⟨name, _, _, _, distributed, member⟩))
    obtain ⟨value, found⟩ := Option.isSome_iff_exists.mp serves
    obtain ⟨owner, valued⟩ := (tidy.fits other).responses _ _ found
    cases valued.symm.trans handed
    exact found

end Network

/-- One turn of a loop that finds a single published challenge. -/
def syncTurn (name : String) : List Event :=
  [.list name, .get name .answered, .get name .answered, .serve name,
    .ack name .answered, .serve name]

def distribution (name : String) : List Event :=
  [.readLive name, .readResponders name, .readAcks name]

/-- An order of the first of two Edges. -/
def firstOrder : List Event :=
  [.announce {"edge-1", "edge-2"} {"edge-1", "edge-2"},
    .challenge "edge-1" ("shop.example.com", "token") "token.first",
    .publish "edge-1" .answered] ++ syncTurn "edge-2"

namespace Network

theorem distribution_sound_first :
    ((run (firstOrder ++ distribution "edge-1")).edges
      "edge-2").responses.lookup ("shop.example.com", "token") =
        some "token.first" :=
  distribution_sound (firstOrder ++ distribution "edge-1") "edge-1"
    ("shop.example.com", "token") "token.first" {"edge-1", "edge-2"}
    {"edge-1", "edge-2"} (by decide +kernel) (by decide +kernel)
    (by decide +kernel) "edge-2" (by decide)

/-- The first Edge gives its order up, and the second one gets the same token
while its loop has listed that nothing is published: the loop drops the
response that the order has just put into the table, and nobody else confirms
for the ordering Edge. -/
theorem ordering_edge_drops_response :
    let challenge := ("shop.example.com", "token")
    let events := firstOrder ++
      [.giveUp "edge-1", .unpublish "edge-1" .answered, .list "edge-2",
        .challenge "edge-2" challenge "token.second",
        .get "edge-2" .answered, .serve "edge-2",
        .publish "edge-2" .answered] ++
      syncTurn "edge-1" ++ distribution "edge-2"
    ((run events).edges "edge-2").order =
      .distributed challenge "token.second" {"edge-1", "edge-2"}
          {"edge-1", "edge-2"} ∧
      (run events).board.values.lookup challenge = some "token.second" ∧
      ((run events).edges "edge-2").responses.lookup challenge = none := by
  decide +kernel

end Network

end SieveTube.Http01
