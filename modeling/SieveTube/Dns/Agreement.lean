import SieveTube.Dns.World

/-!
# Agreement of the state with the content

Without edits by others, the content of every record set agrees with what the
state says about it, both in the memory of a pass and in the state file.  An
intent is saved before its change is sent, so the file stays in agreement
whether or not the change is carried out.  The invariant here says so for
every point of a pass, and that it survives what happens outside the pass.
-/

namespace SieveTube.Dns

/-- The content is what the entry leads one to expect.  A change without a
ticket may or may not have been carried out. -/
def Agrees (content : Option Observed) : Option ManagedRecord → Prop
  | none => content = none
  | some entry =>
    match entry.pending with
    | none => sameOptional (content.map (·.set)) entry.applied
    | some pending =>
      sameOptional (content.map (·.set)) pending.desired ∨
        (pending.ticket = none ∧ content.map (·.set) = pending.expected)

theorem agrees_of_pending_none {content : Option Observed}
    {entry : ManagedRecord} (done : entry.pending = none)
    (same : sameOptional (content.map (·.set)) entry.applied) :
    Agrees content (some entry) := by
  simpa [Agrees, done] using same

/-- Content that agrees with its entry is accounted for. -/
theorem decide_of_agrees {desired : DesiredRecord}
    {observed : Option Observed} {managed : Option ManagedRecord}
    {now settleSecs : Int}
    (supported : observed.bind (·.unsupported) = none)
    (agrees : Agrees observed managed) :
    desired.decide observed managed now settleSecs =
      desired.proceed (observed.map (·.set)) managed := by
  cases managed with
  | none =>
    subst observed
    simp [DesiredRecord.decide]
  | some record =>
    apply DesiredRecord.decide_of_accounted supported
    unfold Agrees at agrees
    unfold DesiredRecord.Accounted
    cases intent : record.pending with
    | none => simpa [intent] using agrees
    | some pending =>
      simp only [intent] at agrees ⊢
      rcases agrees with same | ⟨_, same⟩
      · exact isBetween_of_same_target same
      · rw [same]
        exact isBetween_source

/-- Only the entry of one key differs. -/
structure Touches (key : String) (state later : ProviderState) : Prop where
  generation : later.writerGeneration = state.writerGeneration
  elsewhere : ∀ other, other ≠ key →
    later.records.lookup other = state.records.lookup other

section Touches

variable {key : String} {state : ProviderState}

theorem touches_refl : Touches key state state :=
  { generation := rfl, elsewhere := fun _ _ => rfl }

theorem touches_modify {change : ManagedRecord → ManagedRecord} :
    Touches key state (state.modify key change) where
  generation := by
    unfold ProviderState.modify
    split <;> rfl
  elsewhere := fun other different => by simp [different]

theorem touches_insert {entry : ManagedRecord} :
    Touches key state (state.insert key entry) where
  generation := rfl
  elsewhere := fun other different => by simp [different]

theorem touches_remove : Touches key state (state.remove key) where
  generation := rfl
  elsewhere := fun other different => by simp [different]

theorem touches_finishPending {generation : Nat} {now : Int} :
    Touches key state (finishPending state key generation now) := by
  unfold finishPending
  split
  · exact touches_refl
  · exact touches_modify

theorem touches_settleInterrupted {actual : Option RecordSet} {generation : Nat}
    {now : Int} :
    Touches key state (settleInterrupted state key actual generation now) := by
  unfold settleInterrupted
  split
  · exact touches_refl
  · split
    · exact touches_finishPending
    · exact touches_refl

theorem touches_concluded {item : Item} {observed : Option Observed}
    {action : Action} :
    Touches item.key item.state (item.concluded observed action) := by
  cases action with
  | noChange => exact touches_modify
  | adopt _ => exact touches_insert
  | forget => exact touches_remove
  | wait _ | conflict _ | apply _ _ => exact touches_refl

end Touches

section Agreement

variable {key : String} {state : ProviderState} {content : Option Observed}
variable {generation : Nat} {now : Int}

section

variable (agrees : Agrees content (state.records.lookup key))
include agrees

theorem agrees_completeChange {expected desired : Option RecordSet}
    (same : sameOptional (content.map (·.set)) desired) :
    Agrees content ((completeChange state key expected desired generation
      now).records.lookup key) := by
  cases found : state.records.lookup key with
  | none => simpa [completeChange, found] using agrees
  | some entry =>
    simp only [completeChange, ProviderState.lookup_modify, found,
      if_true, Option.map_some]
    exact agrees_of_pending_none rfl same

theorem agrees_finishPending
    (same : ∀ pending, state.pending key = some pending →
      sameOptional (content.map (·.set)) pending.desired) :
    Agrees content
      ((finishPending state key generation now).records.lookup key) := by
  unfold finishPending
  cases found : state.pending key with
  | none => exact agrees
  | some pending => exact agrees_completeChange agrees (same pending found)

theorem agrees_finishTracked {changeId : String}
    (tracked : trackedChange state key = some changeId) :
    Agrees content
      ((finishPending state key generation now).records.lookup key) := by
  apply agrees_finishPending agrees
  intro pending found
  obtain ⟨entry, stored, intent⟩ := Option.bind_eq_some_iff.mp found
  simp only [stored, Agrees, intent] at agrees
  rcases agrees with same | ⟨unticketed, _⟩
  · exact same
  · simp [trackedChange, found, unticketed] at tracked

theorem agrees_settleInterrupted :
    Agrees content ((settleInterrupted state key (content.map (·.set))
      generation now).records.lookup key) := by
  unfold settleInterrupted
  cases found : state.pending key with
  | none => exact agrees
  | some pending =>
    simp only
    split
    · next completed =>
      apply agrees_finishPending agrees
      intro other stored
      obtain rfl : pending = other := by simpa [found] using stored
      simp only [Bool.and_eq_true] at completed
      exact completed.2
    · exact agrees

theorem agrees_recordConverged :
    Agrees content
      ((recordConverged state key (content.map (·.set)) now).records.lookup
        key) := by
  cases found : state.records.lookup key with
  | none => simpa [recordConverged, found] using agrees
  | some entry =>
    simp only [recordConverged, ProviderState.lookup_modify, found,
      if_true, Option.map_some]
    split
    · exact agrees_of_pending_none rfl (sameOptional_refl _)
    · rwa [found] at agrees

end

theorem agrees_withIntent {desired : DesiredRecord}
    {target : Option RecordSet} :
    Agrees content ((withIntent state desired (content.map (·.set)) target
      generation now).records.lookup desired.key) := by
  simp [withIntent, Agrees]

theorem agrees_withTicket {ticket : ChangeTicket} {pending : PendingChange}
    (found : state.pending key = some pending)
    (same : sameOptional (content.map (·.set)) pending.desired) :
    Agrees content ((withTicket state key ticket).records.lookup key) := by
  obtain ⟨entry, stored, intent⟩ := Option.bind_eq_some_iff.mp found
  simp [withTicket, stored, intent, Agrees, same]

end Agreement

/-- No change of the key is under way. -/
def Unsent (key : String) (world : World Unit) : Prop :=
  ∀ flight ∈ world.flights, flight.answer = none → flight.request.key ≠ key

/-- A state agrees with the provider, and knows of every change that is under
way. -/
structure Consistent (state : ProviderState) (world : World Unit) : Prop where
  agrees : ∀ key, Agrees (world.content key) (state.records.lookup key)
  intents : ∀ flight ∈ world.flights, flight.answer = none →
    ∃ pending, state.pending flight.request.key = some pending ∧
      pending.ticket = none ∧ pending.expected = flight.request.expected ∧
      pending.desired = flight.request.desired

variable {state : ProviderState} {world : World Unit}

theorem Consistent.touch {key : String} {later : ProviderState}
    (consistent : Consistent state world) (unsent : Unsent key world)
    (touches : Touches key state later)
    (agrees : Agrees (world.content key) (later.records.lookup key)) :
    Consistent later world where
  agrees := by
    intro other
    by_cases same : other = key
    · subst other
      exact agrees
    · rw [touches.elsewhere other same]
      exact consistent.agrees other
  intents := by
    intro flight member sent
    obtain ⟨pending, found, rest⟩ := consistent.intents flight member sent
    refine ⟨pending, ?_, rest⟩
    rw [ProviderState.pending, touches.elsewhere _ (unsent flight member sent)]
    exact found

variable {later : World Unit}

theorem Consistent.congr (consistent : Consistent state world)
    (content : later.content = world.content)
    (flights : later.flights = world.flights) : Consistent state later where
  agrees := by
    rw [content]
    exact consistent.agrees
  intents := by
    rw [flights]
    exact consistent.intents

variable {provider : AtomicProvider} {handle : Nat} {ticket : ChangeTicket}

/-- A delivered change leads to the content its intent announces. -/
theorem Consistent.deliver (consistent : Consistent state world) :
    Consistent state (world.deliver provider handle ticket) := by
  rcases world.deliver_cases provider handle ticket with
    same | ⟨request, found, ⟨reason, _, refused⟩ | ⟨next, replaced, accepted⟩⟩
  · rwa [same]
  · rw [refused]
    refine { agrees := consistent.agrees, intents := ?_ }
    intro flight member sent
    rcases List.mem_or_eq_of_mem_set member with old | rfl
    · exact consistent.intents flight old sent
    · cases sent
  · rw [accepted]
    refine { agrees := ?_, intents := ?_ }
    · intro key
      by_cases same : key = request.key
      · subst key
        obtain ⟨pending, intent, _, _, aim⟩ :=
          consistent.intents _ (List.mem_of_getElem? found) rfl
        obtain ⟨entry, stored, intentEq⟩ := Option.bind_eq_some_iff.mp intent
        simp only [Function.update_self, stored, Agrees, intentEq]
        left
        rw [aim]
        exact (provider.desired_of_ok replaced).1
      · simp only [Function.update_of_ne same]
        exact consistent.agrees key
    · intro flight member sent
      rcases List.mem_or_eq_of_mem_set member with old | rfl
      · exact consistent.intents flight old sent
      · cases sent

theorem Unsent.deliver {key : String} (unsent : Unsent key world) :
    Unsent key (world.deliver provider handle ticket) := by
  have answered : ∀ {request answer},
      ∀ flight ∈ world.flights.set handle ⟨request, some answer⟩,
        flight.answer = none → flight.request.key ≠ key := by
    intro request answer flight member sent
    rcases List.mem_or_eq_of_mem_set member with old | rfl
    · exact unsent flight old sent
    · cases sent
  rcases world.deliver_cases provider handle ticket with
    same | ⟨request, _, ⟨reason, _, refused⟩ | ⟨next, _, accepted⟩⟩
  · rwa [same]
  · rw [refused]
    exact answered
  · rw [accepted]
    exact answered

theorem content_deliver {key : String} (unsent : Unsent key world) :
    (world.deliver provider handle ticket).content key = world.content key := by
  rcases world.deliver_cases provider handle ticket with
    same | ⟨request, found, ⟨reason, _, refused⟩ | ⟨next, _, accepted⟩⟩
  · rw [same]
  · rw [refused]
  · rw [accepted]
    have different : request.key ≠ key :=
      unsent _ (List.mem_of_getElem? found) rfl
    exact Function.update_of_ne different.symm next world.content

/-- The generation of a pass is the one of its process, or was granted. -/
def Writes (reconciler : Reconciler) (generation : Nat)
    (state : ProviderState) (world : World Unit) : Prop :=
  state.writerGeneration = generation ∧
    match reconciler.writer with
    | .singleWriter => world.generations () = some generation
    | .valkey => generation ≤ world.counter

/-- A pass that starts now is not fenced off by the state file. -/
def Unfenced (reconciler : Reconciler) (world : World Unit) : Prop :=
  match reconciler.writer with
  | .singleWriter => ∀ generation, world.generations () = some generation →
        world.file.writerGeneration ≤ generation
  | .valkey => world.file.writerGeneration ≤ world.counter ∧
      ∀ owner generation, world.lease = some (owner, generation) →
        generation = world.counter

structure RecoveryInvariant (reconciler : Reconciler)
    (world : World Unit) : Prop where
  file : Consistent world.file world
  supported : ∀ key, (world.content key).bind (·.unsupported) = none
  unfenced : Unfenced reconciler world
  unopposed : ∀ decision, .considered decision ∈ world.log →
    ∀ reason, decision.action ≠ .conflict reason

/-- A pass may go on with these records. -/
structure Ready (reconciler : Reconciler) (generation : Nat)
    (state : ProviderState) (rest : List DesiredRecord)
    (world : World Unit) : Prop where
  consistent : Consistent state world
  writes : Writes reconciler generation state world
  nodup : (rest.map DesiredRecord.key).Nodup
  unsent : ∀ desired ∈ rest, Unsent desired.key world

/-- The change of an item is noted in its state. -/
def Intends (item : Item) (expected target : Option RecordSet) : Prop :=
  ∃ pending, item.state.pending item.key = some pending ∧
    pending.ticket = none ∧ pending.expected = expected ∧
    pending.desired = target

/-- The change of an item is under way, and nothing else touches the
record. -/
structure InFlight (item : Item) (expected target : Option RecordSet)
    (handle : Nat) (world : World Unit) : Prop where
  alone : ∀ (other : Nat) flight, world.flights[other]? = some flight →
    flight.answer = none → flight.request.key = item.key → other = handle
  found : ∃ answer,
    world.flights[handle]? = some ⟨item.request expected target, answer⟩ ∧
      match answer with
      | none => (world.content item.key).map (·.set) = expected
      | some (.ok _) =>
        sameOptional ((world.content item.key).map (·.set)) target
      | some (.error _) => False

def RecoveryAt (reconciler : Reconciler) : Phase → World Unit → Prop
  | .start, world => world.flights = []
  | .loaded state, world => world.flights = [] ∧ state = world.file
  | .settled generation state rest, world =>
    Ready reconciler generation state rest world
  | .observed item observed, world =>
    Ready reconciler item.generation item.state
      (item.desired :: item.rest) world ∧ observed = world.content item.key
  | .considered item observed, world =>
    Ready reconciler item.generation item.state
      (item.desired :: item.rest) world ∧ observed = world.content item.key ∧
      observed.bind (·.unsupported) = none
  | .permitted item observed expected _, world =>
    Ready reconciler item.generation item.state
      (item.desired :: item.rest) world ∧ observed = world.content item.key ∧
      observed.map (·.set) = expected
  | .intended item expected target, world =>
    Ready reconciler item.generation item.state
      (item.desired :: item.rest) world ∧
      Intends item expected target ∧ world.file = item.state ∧
      (world.content item.key).map (·.set) = expected
  | .submitted item expected target handle, world =>
    Ready reconciler item.generation item.state item.rest world ∧
      Intends item expected target ∧ InFlight item expected target handle world
  | .answered item expected target result, world =>
    Ready reconciler item.generation item.state item.rest world ∧
      Intends item expected target ∧ match result with
      | .ok _ =>
        Unsent item.key world ∧
          sameOptional ((world.content item.key).map (·.set)) target
      | .error error => error.isConflict = false
  | .stopped generation state, world =>
    Consistent state world ∧ Writes reconciler generation state world
  | .closing generation state, world =>
    Consistent state world ∧ Writes reconciler generation state world
  | .ended, _ => True

/-- Nothing changes that a pass makes assertions about. -/
structure Unmoved (world later : World Unit) : Prop where
  content : later.content = world.content
  flights : later.flights = world.flights
  file : later.file = world.file
  generations : later.generations = world.generations
  counter : world.counter ≤ later.counter

section Moves

variable {reconciler : Reconciler} {generation : Nat}
variable {state : ProviderState} {rest : List DesiredRecord}
variable {world later : World Unit}

theorem Writes.mono (writes : Writes reconciler generation state world)
    (generations : later.generations = world.generations)
    (counter : world.counter ≤ later.counter) :
    Writes reconciler generation state later := by
  refine ⟨writes.1, ?_⟩
  have granted := writes.2
  cases writer : reconciler.writer with
  | singleWriter =>
    simp only [writer] at granted ⊢
    rw [generations]
    exact granted
  | valkey =>
    simp only [writer] at granted ⊢
    exact le_trans granted counter

theorem Ready.congr (ready : Ready reconciler generation state rest world)
    (content : later.content = world.content)
    (flights : later.flights = world.flights)
    (generations : later.generations = world.generations)
    (counter : world.counter ≤ later.counter) :
    Ready reconciler generation state rest later where
  consistent := ready.consistent.congr content flights
  writes := ready.writes.mono generations counter
  nodup := ready.nodup
  unsent := fun desired member => by
    simpa only [Unsent, flights] using ready.unsent desired member

theorem Ready.unmoved (ready : Ready reconciler generation state rest world)
    (unmoved : Unmoved world later) :
    Ready reconciler generation state rest later :=
  ready.congr unmoved.content unmoved.flights unmoved.generations
    unmoved.counter

variable {item : Item} {expected target : Option RecordSet} {handle : Nat}

theorem InFlight.unmoved (inFlight : InFlight item expected target handle world)
    (unmoved : Unmoved world later) :
    InFlight item expected target handle later where
  alone := by
    rw [unmoved.flights]
    exact inFlight.alone
  found := by
    rw [unmoved.flights, unmoved.content]
    exact inFlight.found

theorem Ready.unsent_item
    (ready : Ready reconciler generation state (item.desired :: item.rest)
      world) : Unsent item.key world :=
  ready.unsent item.desired List.mem_cons_self

theorem recoveryAt_unmoved {phase : Phase}
    (holds : RecoveryAt reconciler phase world)
    (unmoved : Unmoved world later) :
    RecoveryAt reconciler phase later := by
  have consistent : ∀ {state}, Consistent state world →
      Consistent state later :=
    fun kept => kept.congr unmoved.content unmoved.flights
  cases phase with
  | start => exact unmoved.flights.trans holds
  | loaded state =>
    exact ⟨unmoved.flights.trans holds.1, holds.2.trans unmoved.file.symm⟩
  | settled generation state rest => exact Ready.unmoved holds unmoved
  | observed item observed =>
    exact ⟨holds.1.unmoved unmoved,
      holds.2.trans (congrFun unmoved.content item.key).symm⟩
  | considered item observed | permitted item observed expected target =>
    exact ⟨holds.1.unmoved unmoved,
      holds.2.1.trans (congrFun unmoved.content item.key).symm, holds.2.2⟩
  | intended item expected target =>
    obtain ⟨ready, intends, file, content⟩ := holds
    refine ⟨ready.unmoved unmoved, intends, unmoved.file.trans file, ?_⟩
    rw [unmoved.content]
    exact content
  | submitted item expected target handle =>
    exact ⟨holds.1.unmoved unmoved, holds.2.1, holds.2.2.unmoved unmoved⟩
  | answered item expected target result =>
    obtain ⟨ready, intends, answered⟩ := holds
    refine ⟨ready.unmoved unmoved, intends, ?_⟩
    rcases result with error | ticket
    · exact answered
    · simp only [Unsent, unmoved.flights, unmoved.content]
      exact answered
  | stopped generation state | closing generation state =>
    exact ⟨consistent holds.1, holds.2.mono unmoved.generations unmoved.counter⟩
  | ended => trivial

variable {provider : AtomicProvider} {ticket : ChangeTicket}

theorem file_deliver :
    (world.deliver provider handle ticket).file = world.file ∧
      (world.deliver provider handle ticket).generations = world.generations ∧
      (world.deliver provider handle ticket).counter = world.counter ∧
      (world.deliver provider handle ticket).lease = world.lease := by
  rcases world.deliver_cases provider handle ticket with
    same | ⟨request, _, ⟨reason, _, refused⟩ | ⟨next, _, accepted⟩⟩
  · rw [same]
    exact ⟨rfl, rfl, rfl, rfl⟩
  · rw [refused]
    exact ⟨rfl, rfl, rfl, rfl⟩
  · rw [accepted]
    exact ⟨rfl, rfl, rfl, rfl⟩

theorem Ready.deliver (ready : Ready reconciler generation state rest world) :
    Ready reconciler generation state rest
      (world.deliver provider handle ticket) where
  consistent := ready.consistent.deliver
  writes := ready.writes.mono file_deliver.2.1 file_deliver.2.2.1.ge
  nodup := ready.nodup
  unsent := fun desired member => (ready.unsent desired member).deliver

theorem InFlight.alone_answered {other : Nat} {request : Request}
    {answer : Except String ChangeTicket}
    (inFlight : InFlight item expected target handle world) (index : Nat)
    (flight : Flight)
    (found : (world.flights.set other ⟨request, some answer⟩)[index]? =
      some flight) (sent : flight.answer = none)
    (about : flight.request.key = item.key) :
    index = handle := by
  rw [List.getElem?_set] at found
  split at found
  · split at found
    · cases found
      cases sent
    · cases found
  · exact inFlight.alone index flight found sent about

/-- Once the provider carries out the change of an item, the content is what
the change aims at. -/
theorem InFlight.deliver_own (provider : AtomicProvider) (ticket : ChangeTicket)
    (supported : (world.content item.key).bind (·.unsupported) = none)
    (inFlight : InFlight item expected target handle world) :
    InFlight item expected target handle
      (world.deliver provider handle ticket) ∧
      ∃ given, (world.deliver provider handle ticket).flights[handle]? =
        some ⟨item.request expected target, some (.ok given)⟩ := by
  obtain ⟨answer, found, content⟩ := inFlight.found
  have bound := (List.getElem?_eq_some_iff.mp found).1
  rcases answer with _ | reason | given
  · have same : sameOptional ((world.content item.key).map (·.set))
        expected := by
      rw [show (world.content item.key).map (·.set) = expected from content]
      exact sameOptional_refl expected
    obtain ⟨next, replaced⟩ := provider.ok_of_expected
      item.desired.set.recordType target supported same
    have delivered : world.deliver provider handle ticket =
        { world with
          content := Function.update world.content item.key next
          flights := world.flights.set handle
            ⟨item.request expected target, some (.ok ticket)⟩
          log := .executed (item.request expected target)
            (world.content item.key) :: world.log } := by
      have request : provider.replace (item.request expected target).recordType
          (world.content (item.request expected target).key)
          (item.request expected target).expected
          (item.request expected target).desired = .ok next :=
        replaced
      simp only [World.deliver, found, request]
      rfl
    rw [delivered]
    refine ⟨{ alone := ?_, found := ⟨some (.ok ticket), ?_, ?_⟩ }, ticket, ?_⟩
    · exact inFlight.alone_answered
    · simp [bound]
    · simp only [Function.update_self]
      exact (provider.desired_of_ok replaced).1
    · simp [bound]
  · exact content.elim
  · have unchanged : world.deliver provider handle ticket = world := by
      simp [World.deliver, found]
    rw [unchanged]
    exact ⟨inFlight, given, found⟩

theorem InFlight.deliver {other : Nat}
    (supported : (world.content item.key).bind (·.unsupported) = none)
    (inFlight : InFlight item expected target handle world) :
    InFlight item expected target handle
      (world.deliver provider other ticket) := by
  by_cases own : other = handle
  · subst other
    exact (inFlight.deliver_own provider ticket supported).1
  · obtain ⟨answer, found, content⟩ := inFlight.found
    rcases world.deliver_cases provider other ticket with
      same | ⟨request, sent, ⟨reason, _, refused⟩ | ⟨next, _, accepted⟩⟩
    · rwa [same]
    · rw [refused]
      refine
        { alone := inFlight.alone_answered
          found := ⟨answer, ?_, content⟩ }
      rw [List.getElem?_set_ne own]
      exact found
    · have different : item.key ≠ request.key := by
        intro same
        exact own (inFlight.alone other _ sent rfl same.symm)
      rw [accepted]
      refine { alone := inFlight.alone_answered, found := ⟨answer, ?_, ?_⟩ }
      · rw [List.getElem?_set_ne own]
        exact found
      · simp only [Function.update_of_ne different]
        exact content

/-- Deliveries of the provider do not invalidate what a pass asserts. -/
theorem recoveryAt_deliver {phase : Phase}
    (supported : ∀ key, (world.content key).bind (·.unsupported) = none)
    (holds : RecoveryAt reconciler phase world) :
    RecoveryAt reconciler phase (world.deliver provider handle ticket) := by
  have empty : world.flights = [] →
      world.deliver provider handle ticket = world := by
    intro flights
    simp [World.deliver, flights]
  have content : ∀ {key}, Unsent key world →
      (world.deliver provider handle ticket).content key = world.content key :=
    content_deliver
  cases phase with
  | start =>
    have flights : world.flights = [] := holds
    rwa [empty flights]
  | loaded state => rwa [empty holds.1]
  | settled generation state rest => exact Ready.deliver holds
  | observed item observed =>
    obtain ⟨ready, same⟩ := holds
    refine ⟨ready.deliver, ?_⟩
    rw [content ready.unsent_item]
    exact same
  | considered item observed | permitted item observed expected target =>
    obtain ⟨ready, same, about⟩ := holds
    refine ⟨ready.deliver, ?_, about⟩
    rw [content ready.unsent_item]
    exact same
  | intended item expected target =>
    obtain ⟨ready, intends, file, same⟩ := holds
    refine ⟨ready.deliver, intends, file_deliver.1.trans file, ?_⟩
    rw [content ready.unsent_item]
    exact same
  | submitted item expected target handle =>
    exact ⟨holds.1.deliver, holds.2.1, holds.2.2.deliver (supported item.key)⟩
  | answered item expected target result =>
    obtain ⟨ready, intends, answered⟩ := holds
    refine ⟨ready.deliver, intends, ?_⟩
    rcases result with error | ticket
    · exact answered
    · refine ⟨answered.1.deliver, ?_⟩
      rw [content answered.1]
      exact answered.2
  | stopped generation state | closing generation state =>
    exact ⟨holds.1.deliver, holds.2.mono file_deliver.2.1 file_deliver.2.2.1.ge⟩
  | ended => trivial

theorem Ready.tail {desired : DesiredRecord}
    (ready : Ready reconciler generation state (desired :: rest) world) :
    Ready reconciler generation state rest world where
  consistent := ready.consistent
  writes := ready.writes
  nodup := (List.nodup_cons.mp ready.nodup).2
  unsent := fun other member =>
    ready.unsent other (List.mem_cons_of_mem desired member)

/-- The entry of a key without a change under way may be replaced by one the
content agrees with. -/
theorem Ready.touch {key : String} {next : ProviderState}
    (ready : Ready reconciler generation state rest world)
    (unsent : Unsent key world) (touches : Touches key state next)
    (agrees : Agrees (world.content key) (next.records.lookup key)) :
    Ready reconciler generation next rest world where
  consistent := ready.consistent.touch unsent touches agrees
  writes := ⟨touches.generation.trans ready.writes.1, ready.writes.2⟩
  nodup := ready.nodup
  unsent := ready.unsent

end Moves

variable {reconciler : Reconciler}

theorem RecoveryInvariant.unmoved (holds : RecoveryInvariant reconciler world)
    (unmoved : Unmoved world later) (unfenced : Unfenced reconciler later)
    (log : ∀ decision, .considered decision ∈ later.log →
      .considered decision ∈ world.log ∨
        ∀ reason, decision.action ≠ .conflict reason) :
    RecoveryInvariant reconciler later where
  file := by
    rw [unmoved.file]
    exact holds.file.congr unmoved.content unmoved.flights
  supported := by
    rw [unmoved.content]
    exact holds.supported
  unfenced := unfenced
  unopposed := by
    intro decision member
    rcases log decision member with old | harmless
    · exact holds.unopposed decision old
    · exact harmless

theorem Unfenced.congr (unfenced : Unfenced reconciler world)
    (file : later.file = world.file)
    (generations : later.generations = world.generations)
    (lease : later.lease = world.lease)
    (counter : later.counter = world.counter) :
    Unfenced reconciler later := by
  unfold Unfenced at *
  rwa [file, generations, lease, counter]

theorem RecoveryInvariant.deliver (holds : RecoveryInvariant reconciler world) :
    RecoveryInvariant reconciler (world.deliver provider handle ticket) where
  file := by
    rw [file_deliver.1]
    exact holds.file.deliver
  supported := by
    intro key
    rcases world.deliver_cases provider handle ticket with
      same | ⟨request, _, ⟨_, _, refused⟩ | ⟨next, replaced, accepted⟩⟩
    · rw [same]
      exact holds.supported key
    · rw [refused]
      exact holds.supported key
    · rw [accepted]
      by_cases same : key = request.key
      · subst key
        simp only [Function.update_self]
        exact (provider.desired_of_ok replaced).2
      · simp only [Function.update_of_ne same]
        exact holds.supported key
  unfenced := holds.unfenced.congr file_deliver.1 file_deliver.2.1
    file_deliver.2.2.2 file_deliver.2.2.1
  unopposed := by
    intro decision member
    rcases world.deliver_cases provider handle ticket with
      same | ⟨request, _, ⟨_, _, refused⟩ | ⟨_, _, accepted⟩⟩
    · rw [same] at member
      exact holds.unopposed decision member
    · rw [refused] at member
      exact holds.unopposed decision member
    · rw [accepted] at member
      simp only [List.mem_cons, reduceCtorEq, false_or] at member
      exact holds.unopposed decision member

end SieveTube.Dns
