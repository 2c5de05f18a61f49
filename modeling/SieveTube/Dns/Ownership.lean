import SieveTube.Dns.World

/-!
# Content that is not owned is left alone

Every change that overwrites or deletes a record set goes back to a decision
in the log, and the log before that decision shows why the content could be
changed: the configuration imports it, the state accounts for it as applied,
or an intent saved for it explains it.  All of this evidence consists of past
events, so neither interleavings nor crashes can take it away.
-/

namespace SieveTube.Dns

variable {Edge : Type}

section

variable (log : List (Event Edge)) (key : String)

/-- A change to `set` was carried out. -/
def Written (set : RecordSet) :
    Prop :=
  ∃ request before,
    .executed request before ∈ log ∧ request.key = key ∧
      request.desired = some set

/-- An intent with this aim was saved for the key. -/
def SavedIntent (pending : PendingChange) : Prop :=
  ∃ edge state current renewal intent, .saved edge state current renewal ∈ log ∧
      state.pending key = some intent ∧
      intent.expected = pending.expected ∧ intent.desired = pending.desired

/-- How a set comes to be recorded as applied: it was written, adopted, or
observed equal to the configured or to the intended data. -/
inductive Applied (log : List (Event Edge)) (key : String)
    (set : RecordSet) : Prop where
  | written (written : Written log key set)
  | adopted (decision : Considered) (member : .considered decision ∈ log)
      (about : decision.desired.key = key)
      (action : decision.action = .adopt set)
  | configured (decision : Considered) (member : .considered decision ∈ log)
      (about : decision.desired.key = key)
      (observed : decision.observed.map (·.set) = some set)
      (reached : decision.desired.reached (some set) = true)
  | intended (observed : Option Observed) (pending : PendingChange)
      (member : .read key observed ∈ log)
      (saved : SavedIntent log key pending)
      (aim : pending.desired = some set)
      (same : sameOptional (observed.map (·.set)) (some set))

/-- Why the content a decision found may be changed. -/
def Owned (decision : Considered) : Prop :=
  match decision.managed with
  | none =>
    decision.desired.importExisting = true ∧ decision.desired.absent = false
  | some record =>
    match record.pending with
    | none => ∃ set, record.applied = some set ∧
        sameOptional (decision.observed.map (·.set)) (some set) ∧
        Applied log decision.desired.key set
    | some pending =>
      isBetween (decision.observed.map (·.set)) pending.expected
        pending.desired ∧ SavedIntent log decision.desired.key pending

end

/-- A request goes back to a decision, and whatever content that decision
found was owned at that time. -/
def Justified (reconciler : Reconciler) (log : List (Event Edge))
    (request : Request) : Prop :=
  ∃ decision now later earlier, log = later ++ .considered decision :: earlier ∧
      decision.desired.key = request.key ∧
      decision.desired.decide decision.observed decision.managed now
        reconciler.settleSecs = .apply request.expected request.desired ∧
      request.expected = decision.observed.map (·.set) ∧
      (request.expected.isSome → Owned earlier decision)

section Monotone

variable {log more : List (Event Edge)} {key : String}

theorem Written.mono (grown : log ⊆ more) {set : RecordSet}
    (written : Written log key set) : Written more key set := by
  obtain ⟨request, before, member, rest⟩ := written
  exact ⟨request, before, grown member, rest⟩

theorem SavedIntent.mono (grown : log ⊆ more) {pending : PendingChange}
    (saved : SavedIntent log key pending) : SavedIntent more key pending := by
  obtain ⟨edge, state, current, renewal, intent, member, rest⟩ := saved
  exact ⟨edge, state, current, renewal, intent, grown member, rest⟩

theorem Applied.mono (grown : log ⊆ more) {set : RecordSet}
    (applied : Applied log key set) : Applied more key set := by
  cases applied with
  | written written => exact .written (written.mono grown)
  | adopted decision member about action =>
    exact .adopted decision (grown member) about action
  | configured decision member about observed reached =>
    exact .configured decision (grown member) about observed reached
  | intended observed pending member saved aim same =>
    exact .intended observed pending (grown member) (saved.mono grown) aim same

theorem Justified.mono {reconciler : Reconciler} {request : Request}
    (grown : log <:+ more) (justified : Justified reconciler log request) :
    Justified reconciler more request := by
  obtain ⟨newer, rfl⟩ := grown
  obtain ⟨decision, now, later, earlier, rfl, rest⟩ := justified
  exact ⟨decision, now, newer ++ later, earlier, by simp, rest⟩

end Monotone

/-- What an entry records has happened. -/
structure Savable (log : List (Event Edge)) (key : String)
    (entry : ManagedRecord) : Prop where
  applied : ∀ set, entry.applied = some set → Applied log key set
  ticket : ∀ pending set, entry.pending = some pending →
    pending.ticket.isSome → pending.desired = some set → Written log key set

/-- In addition, its intent was saved. -/
structure Recorded (log : List (Event Edge)) (key : String)
    (entry : ManagedRecord) : Prop extends Savable log key entry where
  saved : ∀ pending, entry.pending = some pending → SavedIntent log key pending

variable {log : List (Event Edge)}

theorem Savable.mono {more : List (Event Edge)} {key : String}
    {entry : ManagedRecord} (grown : log ⊆ more)
    (savable : Savable log key entry) : Savable more key entry where
  applied := fun set stored => (savable.applied set stored).mono grown
  ticket := fun pending set stored ticketed aim =>
    (savable.ticket pending set stored ticketed aim).mono grown

theorem Recorded.mono {more : List (Event Edge)} {key : String}
    {entry : ManagedRecord} (grown : log ⊆ more)
    (recorded : Recorded log key entry) : Recorded more key entry where
  toSavable := recorded.toSavable.mono grown
  saved := fun pending stored => (recorded.saved pending stored).mono grown

theorem recorded_of_saved {state : ProviderState} {edge : Edge} {current : Bool}
    {renewal : Option Bool} (savable : state.Every (Savable log)) :
    state.Every (Recorded (.saved edge state current renewal :: log)) := by
  intro key entry stored
  have kept := (savable key entry stored).mono
    (List.subset_cons_self (.saved edge state current renewal) log)
  refine { toSavable := kept, saved := ?_ }
  intro pending intent
  refine ⟨edge, state, current, renewal, pending, List.mem_cons_self, ?_,
    rfl, rfl⟩
  simp [ProviderState.pending, stored, intent]

section States

variable {log : List (Event Edge)} {state : ProviderState} {key : String}

variable {generation : Nat} {now : Int}

variable (every : state.Every (Recorded log))
include every

theorem recorded_completeChange {expected desired : Option RecordSet}
    (applied : ∀ set, desired = some set → Applied log key set) :
    (completeChange state key expected desired generation now).Every
      (Recorded log) := by
  apply every.modify
  intro entry _
  exact { applied, ticket := by simp, saved := by simp }

theorem recorded_finishPending
    (applied : ∀ pending set, state.pending key = some pending →
      pending.desired = some set → Applied log key set) :
    (finishPending state key generation now).Every (Recorded log) := by
  unfold finishPending
  cases found : state.pending key with
  | none => exact every
  | some pending =>
    exact recorded_completeChange every fun set => applied pending set found

theorem recorded_settleInterrupted {observed : Option Observed}
    (member : .read key observed ∈ log) :
    (settleInterrupted state key (observed.map (·.set)) generation now).Every
      (Recorded log) := by
  unfold settleInterrupted
  cases found : state.pending key with
  | none => exact every
  | some pending =>
    simp only
    split
    · next completed =>
      apply recorded_finishPending every
      intro other set stored aim
      obtain rfl : pending = other := by simpa [found] using stored
      obtain ⟨entry, entryFound, intent⟩ := Option.bind_eq_some_iff.mp found
      have same : sameOptional (observed.map (·.set)) (some set) := by simp_all
      exact .intended observed pending member
        ((every key entry entryFound).saved pending intent) aim same
    · exact every

theorem recorded_recordConverged {actual : Option RecordSet}
    (applied : ∀ set, actual = some set → Applied log key set) :
    (recordConverged state key actual now).Every (Recorded log) := by
  apply every.modify
  intro entry found
  split
  · exact { applied, ticket := by simp, saved := by simp }
  · exact every key entry found

theorem savable_withIntent {desired : DesiredRecord}
    {expected target : Option RecordSet} :
    (withIntent state desired expected target generation now).Every
      (Savable log) := by
  have savable : state.Every (Savable log) :=
    every.mono fun _ _ recorded => recorded.toSavable
  apply savable.insert
  refine { applied := ?_, ticket := ?_ }
  · intro set stored
    cases found : state.records.lookup desired.key with
    | none => simp [found] at stored
    | some entry =>
      exact (savable desired.key entry found).applied
        set (by simpa [found] using stored)
  · rintro pending set ⟨⟩ ticketed
    simp at ticketed

theorem recorded_withTicket {ticket : ChangeTicket}
    (written : ∀ pending set, state.pending key = some pending →
      pending.desired = some set → Written log key set) :
    (withTicket state key ticket).Every (Recorded log) := by
  apply every.modify
  intro entry found
  have kept := every key entry found
  have pendingEq : state.pending key = entry.pending := by
    simp [ProviderState.pending, found]
  refine { applied := kept.applied, ticket := ?_, saved := ?_ }
  · intro pending set stored _ aim
    obtain ⟨before, intent, rfl⟩ := Option.map_eq_some_iff.mp stored
    exact written before set (pendingEq.trans intent) aim
  · intro pending stored
    obtain ⟨before, intent, rfl⟩ := Option.map_eq_some_iff.mp stored
    exact kept.saved before intent

theorem recorded_dropIntent : (dropIntent state key).Every (Recorded log) := by
  unfold dropIntent
  cases found : state.records.lookup key with
  | none => exact every
  | some entry =>
    simp only
    split
    · exact every.remove
    · apply every.insert
      exact { applied := (every key entry found).applied, ticket := by simp,
              saved := by simp }

end States

/-- The log only grows, and no request under way is exchanged for
another. -/
def Extends (world later : World Edge) : Prop :=
  world.log <:+ later.log ∧
    ∀ (handle : Nat) flight, world.flights[handle]? = some flight →
      ∃ newer, later.flights[handle]? = some newer ∧
        newer.request = flight.request

theorem extends_refl (world : World Edge) : Extends world world :=
  ⟨List.suffix_rfl, fun _ flight found => ⟨flight, found, rfl⟩⟩

theorem extends_trans {first second third : World Edge}
    (former : Extends first second) (latter : Extends second third) :
    Extends first third := by
  refine ⟨former.1.trans latter.1, ?_⟩
  intro handle flight found
  obtain ⟨newer, newerFound, same⟩ := former.2 handle flight found
  obtain ⟨newest, newestFound, again⟩ := latter.2 handle newer newerFound
  exact ⟨newest, newestFound, again.trans same⟩

variable {world later : World Edge}

theorem extends_of_flights_eq (log : world.log <:+ later.log)
    (flights : later.flights = world.flights) :
    Extends world later :=
  ⟨log, fun _ flight found => ⟨flight, flights ▸ found, rfl⟩⟩

theorem extends_of_answered {handle : Nat} {request : Request}
    {answer : Option (Except String ChangeTicket)}
    (log : world.log <:+ later.log)
    (found : world.flights[handle]? = some ⟨request, none⟩)
    (flights : later.flights = world.flights.set handle ⟨request, answer⟩) :
    Extends world later := by
  refine ⟨log, ?_⟩
  intro other flight stored
  rw [flights, List.getElem?_set]
  split
  · next same =>
    subst other
    have bound := (List.getElem?_eq_some_iff.mp found).1
    obtain rfl : ⟨request, none⟩ = flight := by simpa [found] using stored
    exact ⟨⟨request, answer⟩, by simp [bound], rfl⟩
  · exact ⟨flight, stored, rfl⟩

/-- Every executed change was justified before, and found the content its
decision had expected. -/
def OnlyOwned (reconciler : Reconciler) (log : List (Event Edge)) : Prop :=
  ∀ later earlier request content,
    log = later ++ .executed request (some content) :: earlier →
      sameOptional (some content.set) request.expected ∧
        Justified reconciler earlier request

structure OwnershipInvariant (reconciler : Reconciler)
    (world : World Edge) : Prop where
  file : world.file.Every (Recorded world.log)
  justified : ∀ flight ∈ world.flights,
    Justified reconciler world.log flight.request
  executed : ∀ flight ∈ world.flights, ∀ ticket,
    flight.answer = some (.ok ticket) →
      ∃ before, .executed flight.request before ∈ world.log
  owned : OnlyOwned reconciler world.log

variable {reconciler : Reconciler}

theorem onlyOwned_cons {event : Event Edge} (owned : OnlyOwned reconciler log)
    (newest : ∀ request content, event = .executed request (some content) →
      sameOptional (some content.set) request.expected ∧
        Justified reconciler log request) :
    OnlyOwned reconciler (event :: log) := by
  intro later earlier request content split
  cases later with
  | nil =>
    obtain ⟨rfl, rfl⟩ := split
    exact newest request content rfl
  | cons other later =>
    simp only [List.cons_append, List.cons.injEq] at split
    exact owned later earlier request content split.2

theorem onlyOwned_append {events : List (Event Edge)}
    (owned : OnlyOwned reconciler log)
    (unchanged : ∀ event ∈ events, event.isChange = false) :
    OnlyOwned reconciler (events ++ log) := by
  induction events with
  | nil => exact owned
  | cons event events ih =>
    apply onlyOwned_cons
    · exact ih fun other member =>
        unchanged other (List.mem_cons_of_mem event member)
    · rintro request content rfl
      have contradiction := unchanged _ List.mem_cons_self
      simp [Event.isChange] at contradiction

namespace OwnershipInvariant

variable {reconciler : Reconciler} {world later : World Edge}
variable (holds : OwnershipInvariant reconciler world)
include holds

theorem recorded (suffix : world.log <:+ later.log) :
    world.file.Every (Recorded later.log) :=
  holds.file.mono fun _ _ recorded => recorded.mono suffix.subset

/-- What the log shows it keeps showing, so only new requests and answers
matter. -/
theorem grow (suffix : world.log <:+ later.log)
    (file : later.file.Every (Recorded later.log))
    (flights : ∀ flight ∈ later.flights, flight ∈ world.flights ∨
      Justified reconciler world.log flight.request ∧
        ∀ ticket, flight.answer = some (.ok ticket) →
          ∃ before, .executed flight.request before ∈ later.log)
    (owned : OnlyOwned reconciler later.log) :
    OwnershipInvariant reconciler later where
  file := file
  justified := by
    intro flight member
    rcases flights flight member with old | ⟨justified, -⟩
    · exact (holds.justified flight old).mono suffix
    · exact justified.mono suffix
  executed := by
    intro flight member ticket answered
    rcases flights flight member with old | ⟨-, executed⟩
    · obtain ⟨before, happened⟩ := holds.executed flight old ticket answered
      exact ⟨before, suffix.subset happened⟩
    · exact executed ticket answered
  owned := owned

/-- Events that change nothing keep the invariant. -/
theorem of_unchanged (file : later.file = world.file)
    (flights : later.flights = world.flights)
    (log : ∃ events, later.log = events ++ world.log ∧ ∀ event ∈ events,
      event.isChange = false) :
    OwnershipInvariant reconciler later ∧ Extends world later := by
  obtain ⟨events, logEq, unchanged⟩ := log
  have suffix : world.log <:+ later.log := logEq ▸ List.suffix_append _ _
  refine ⟨holds.grow suffix ?_ ?_ ?_, extends_of_flights_eq suffix flights⟩
  · rw [file]
    exact holds.recorded suffix
  · exact fun flight member => .inl (flights ▸ member)
  · rw [logEq]
    exact onlyOwned_append holds.owned unchanged

theorem called [DecidableEq Edge] (edge : Edge) :
    OwnershipInvariant reconciler (world.called edge) ∧
      Extends world (world.called edge) :=
  holds.of_unchanged rfl rfl ⟨[], rfl, by simp⟩

/-- A delivered change overwrites only what its request expected. -/
theorem deliver (provider : AtomicProvider) (handle : Nat)
    (ticket : ChangeTicket) :
    OwnershipInvariant reconciler (world.deliver provider handle ticket) ∧
      Extends world (world.deliver provider handle ticket) := by
  rcases world.deliver_cases provider handle ticket with
    unchanged | ⟨request, found, refused | accepted⟩
  · rw [unchanged]
    exact ⟨holds, extends_refl world⟩
  · obtain ⟨reason, _, deliverEq⟩ := refused
    rw [deliverEq]
    have justified := holds.justified _ (List.mem_of_getElem? found)
    refine ⟨holds.grow List.suffix_rfl holds.file ?_ holds.owned,
      extends_of_answered List.suffix_rfl found rfl⟩
    intro flight changed
    rcases List.mem_or_eq_of_mem_set changed with old | rfl
    · exact .inl old
    · exact .inr ⟨justified, by simp⟩
  · obtain ⟨next, replaced, deliverEq⟩ := accepted
    rw [deliverEq]
    have suffix : world.log <:+
        .executed request (world.content request.key) :: world.log :=
      List.suffix_cons _ _
    have justified := holds.justified _ (List.mem_of_getElem? found)
    refine ⟨holds.grow suffix (holds.recorded suffix) ?_ ?_,
      extends_of_answered suffix found rfl⟩
    · intro flight changed
      rcases List.mem_or_eq_of_mem_set changed with old | rfl
      · exact .inl old
      · exact .inr ⟨justified, fun _ _ => ⟨_, List.mem_cons_self⟩⟩
    · apply onlyOwned_cons holds.owned
      intro other content executed
      simp only [Event.executed.injEq] at executed
      obtain ⟨rfl, before⟩ := executed
      have same := provider.expected_of_ok replaced
      rw [before] at same
      exact ⟨same, justified⟩

theorem disturb [DecidableEq Edge] (provider : AtomicProvider)
    (event : Disturbance) :
    OwnershipInvariant reconciler (world.disturb provider event) ∧
      Extends world (world.disturb provider event) := by
  cases event with
  | deliver handle ticket => exact holds.deliver provider handle ticket
  | edit _ _ | sync _ => exact holds.of_unchanged rfl rfl ⟨[], rfl, by simp⟩
  | expire =>
    simp only [World.disturb, World.expire]
    split
    · exact ⟨holds, extends_refl world⟩
    · exact holds.of_unchanged rfl rfl ⟨[], rfl, by simp⟩

theorem save [DecidableEq Edge] (edge : Edge) {state : ProviderState}
    (savable : state.Every (Savable world.log)) :
    OwnershipInvariant reconciler (world.save edge state) ∧
      Extends world (world.save edge state) := by
  have suffix : world.log <:+ (world.save edge state).log :=
    List.suffix_cons _ _
  refine ⟨?_, extends_of_flights_eq suffix rfl⟩
  exact holds.grow suffix (recorded_of_saved savable) (fun _ => .inl)
    (onlyOwned_cons holds.owned (by simp))

theorem submit {request : Request}
    (justified : Justified reconciler world.log request)
    (log : later.log = .submitted request :: world.log)
    (file : later.file = world.file)
    (flights : later.flights = world.flights ++ [⟨request, none⟩]) :
    OwnershipInvariant reconciler later ∧ Extends world later := by
  have suffix : world.log <:+ later.log := log ▸ List.suffix_cons _ _
  refine ⟨?_, suffix, ?_⟩
  · refine holds.grow suffix ?_ ?_ ?_
    · rw [file]
      exact holds.recorded suffix
    · intro flight member
      rw [flights, List.mem_append, List.mem_singleton] at member
      rcases member with old | rfl
      · exact .inl old
      · exact .inr ⟨justified, by simp⟩
    · rw [log]
      exact onlyOwned_cons holds.owned (by simp)
  · intro handle flight found
    have bound := (List.getElem?_eq_some_iff.mp found).1
    exact ⟨flight, by rw [flights, List.getElem?_append_left bound, found], rfl⟩

end OwnershipInvariant

/-- The intent in the state of an item is the change under way. -/
def Aims (item : Item) (target : Option RecordSet) : Prop :=
  ∀ pending, item.state.pending item.key = some pending →
    pending.desired = target

/-- The evidence a pass holds at each point. -/
def OwnedAt (reconciler : Reconciler) : Phase → World Edge → Prop
  | .start, _ => True
  | .loaded state, world => state.Every (Recorded world.log)
  | .settled _ state _, world => state.Every (Recorded world.log)
  | .observed item observed, world =>
    item.state.Every (Recorded world.log) ∧ .read item.key observed ∈ world.log
  | .considered item observed, world =>
    item.state.Every (Recorded world.log) ∧ .considered
        { desired := item.desired
          observed
          managed := item.managed
          action := reconciler.action item observed } ∈ world.log ∧
      ∀ expected target,
        reconciler.action item observed = .apply expected target →
          Justified reconciler world.log (item.request expected target)
  | .permitted item _ expected target, world =>
    item.state.Every (Recorded world.log) ∧
      Justified reconciler world.log (item.request expected target)
  | .intended item expected target, world =>
    item.state.Every (Recorded world.log) ∧ Aims item target ∧
      Justified reconciler world.log (item.request expected target)
  | .submitted item expected target handle, world =>
    item.state.Every (Recorded world.log) ∧ Aims item target ∧
      ∃ flight, world.flights[handle]? = some flight ∧
        flight.request = item.request expected target
  | .answered item expected target result, world =>
    item.state.Every (Recorded world.log) ∧ Aims item target ∧
      ∀ ticket, result = .ok ticket → ∃ before,
        .executed (item.request expected target) before ∈ world.log
  | .stopped _ state, world => state.Every (Savable world.log)
  | .closing _ state, world => state.Every (Savable world.log)
  | .ended, _ => True

theorem ownedAt_extends {phase : Phase} (holds : OwnedAt reconciler phase world)
    (extended : Extends world later) : OwnedAt reconciler phase later := by
  obtain ⟨suffix, requests⟩ := extended
  have recorded : ∀ {state : ProviderState},
      state.Every (Recorded world.log) → state.Every (Recorded later.log) :=
    fun every => every.mono fun _ _ kept => kept.mono suffix.subset
  have savable : ∀ {state : ProviderState},
      state.Every (Savable world.log) → state.Every (Savable later.log) :=
    fun every => every.mono fun _ _ kept => kept.mono suffix.subset
  cases phase with
  | start | ended => trivial
  | loaded _ | settled _ _ _ => exact recorded holds
  | observed item observed => exact ⟨recorded holds.1, suffix.subset holds.2⟩
  | considered item observed =>
    obtain ⟨every, member, justified⟩ := holds
    exact ⟨recorded every, suffix.subset member, fun expected target decided =>
        (justified expected target decided).mono suffix⟩
  | permitted item observed expected target =>
    exact ⟨recorded holds.1, holds.2.mono suffix⟩
  | intended item expected target =>
    exact ⟨recorded holds.1, holds.2.1, holds.2.2.mono suffix⟩
  | submitted item expected target handle =>
    obtain ⟨every, aims, flight, found, same⟩ := holds
    obtain ⟨newer, newerFound, again⟩ := requests handle flight found
    exact ⟨recorded every, aims, newer, newerFound, again.trans same⟩
  | answered item expected target result =>
    obtain ⟨every, aims, executed⟩ := holds
    refine ⟨recorded every, aims, ?_⟩
    intro ticket accepted
    obtain ⟨before, happened⟩ := executed ticket accepted
    exact ⟨before, suffix.subset happened⟩
  | stopped _ _ | closing _ _ => exact savable holds

section Moves

variable {reconciler : Reconciler}

variable {state : ProviderState} {world : World Edge}

theorem ownedAt_admitted {compiled : CompiledDns} {generation : Nat}
    (loaded : OwnedAt reconciler (.loaded state) world) :
    OwnedAt reconciler (.admitted reconciler compiled state generation)
      world := by
  unfold Phase.admitted
  split
  · trivial
  · exact loaded

theorem ownedAt_afterAcquire {compiled : CompiledDns}
    (answer : Except String (Option Nat))
    (loaded : OwnedAt reconciler (.loaded state) world) :
    OwnedAt reconciler (.afterAcquire reconciler compiled state answer)
      world := by
  rcases answer with error | _ | generation
  · trivial
  · trivial
  · exact ownedAt_admitted loaded

variable {generation : Nat}

theorem ownedAt_renewed {before after : Phase}
    (renews : reconciler.Renews generation before after)
    (holds : OwnedAt reconciler before world) :
    OwnedAt reconciler after world := by
  cases renews with
  | permit decided => exact ⟨holds.1, holds.2.2 _ _ decided⟩
  | intended | submitted | answered | close => exact holds

theorem ownedAt_afterRenew {next : Phase} (answer : Except String (Option Nat))
    (holds : OwnedAt reconciler next world) :
    OwnedAt reconciler (.afterRenew generation next answer) world := by
  rcases answer with error | _ | renewed
  · trivial
  · trivial
  · simp only [Phase.afterRenew]
    split
    · exact holds
    · trivial

theorem ownedAt_finishPending {rest : List DesiredRecord} {key : String}
    {now : Int} {changeId : String}
    (tracked : trackedChange state key = some changeId)
    (holds : OwnedAt reconciler (.settled generation state rest) world) :
    OwnedAt reconciler (.settled generation
      (finishPending state key generation now) rest)
      world := by
  apply recorded_finishPending holds
  intro pending set found aim
  obtain ⟨entry, stored, intent⟩ := Option.bind_eq_some_iff.mp found
  refine .written ((holds key entry stored).ticket pending set intent ?_ aim)
  cases ticket : pending.ticket with
  | none => simp [trackedChange, found, ticket] at tracked
  | some value => rfl

/-- The decision that is being made is justified by the evidence at hand. -/
theorem justified_considered {item : Item} {observed : Option Observed}
    {expected target : Option RecordSet} {log : List (Event Edge)}
    (every : item.state.Every (Recorded log))
    (decided : reconciler.action item observed = .apply expected target) :
    Justified reconciler
      (.considered
        { desired := item.desired
          observed
          managed := item.managed
          action := reconciler.action item observed } :: log)
      (item.request expected target) := by
  obtain ⟨_, expectedEq, _, _, accounted⟩ :=
    DesiredRecord.decide_eq_apply decided
  refine ⟨_, item.now, [], log, rfl, rfl, decided, expectedEq, ?_⟩
  intro present
  unfold Owned
  simp only [Item.request] at present
  cases managed : item.managed with
  | none =>
    simp only [DesiredRecord.Accounted, managed] at accounted
    rcases accounted with missing | imported
    · simp [missing] at present
    · exact imported
  | some record =>
    have recorded := every item.key record managed
    simp only [DesiredRecord.Accounted, managed] at accounted ⊢
    cases intent : record.pending with
    | none =>
      simp only [intent] at accounted
      cases applied : record.applied with
      | none =>
        rw [applied, sameOptional_none_right] at accounted
        simp [accounted] at present
      | some set =>
        rw [applied, expectedEq] at accounted
        exact ⟨set, rfl, accounted, recorded.applied set applied⟩
    | some pending =>
      simp only [intent] at accounted
      rw [expectedEq] at accounted
      exact ⟨accounted, recorded.saved pending intent⟩

theorem ownedAt_rest {item : Item} {observed : Option Observed}
    (holds : OwnedAt reconciler (.considered item observed) world) :
    OwnedAt reconciler (.settled item.generation
      (item.concluded observed (reconciler.action item observed))
      item.rest) world := by
  obtain ⟨every, member, _⟩ := holds
  cases action : reconciler.action item observed with
  | noChange =>
    apply recorded_recordConverged every
    intro set actual
    have reached := DesiredRecord.decide_eq_noChange action
    rw [actual] at reached
    exact .configured _ member rfl actual reached
  | adopt current =>
    apply ProviderState.Every.insert every
    refine { applied := ?_, ticket := by simp, saved := by simp }
    intro set stored
    simp only [Option.some.injEq] at stored
    subst set
    exact .adopted _ member rfl action
  | forget => exact every.remove
  | wait _ | conflict _ | apply _ _ => exact every

theorem ownedAt_conclude {item : Item} {expected target : Option RecordSet}
    {result : Except DnsError ChangeTicket}
    (holds : OwnedAt reconciler (.answered item expected target result) world) :
    OwnedAt reconciler (.settled item.generation
      (reconciler.concludeChange item.desired expected target
        item.generation item.now item.state result).2 item.rest) world := by
  obtain ⟨every, aims, executed⟩ := holds
  rcases result with error | ticket
  · cases error with
    | conflict reason => exact recorded_dropIntent every
    | rateLimited _ | auth _ | timeout | unsupported _ | provider _ =>
      exact every
  · obtain ⟨before, happened⟩ := executed ticket rfl
    have written : ∀ set, target = some set → Written world.log item.key set :=
      fun set aim => ⟨_, before, happened, rfl, aim⟩
    cases ticket with
    | immediate =>
      exact recorded_completeChange every fun set aim =>
        .written (written set aim)
    | route53 changeId =>
      apply recorded_withTicket every
      intro pending set found aim
      exact written set ((aims pending found).symm.trans aim)

end Moves

section Contract

variable [DecidableEq Edge] (provider : AtomicProvider)
variable (reconciler : Reconciler)

def ownershipView (edge : Edge) : View Op Answer Fate (World Edge) where
  perform := fun op fate world => world.perform provider edge op fate
  Allowed := fun _ => True
  Invariant := OwnershipInvariant reconciler
  Rely := Extends
  Guarantee := Extends
  rely_refl := extends_refl
  rely_trans := extends_trans

variable {provider reconciler}

theorem ownership_quiet {edge : Edge} {op : Op}
    {Before : World Edge → Prop} {After : Answer op → World Edge → Prop}
    (quiet : op.isQuiet = true)
    (after : ∀ world fate, OwnershipInvariant reconciler world →
      Before world → Extends world (world.perform provider edge op fate).2 →
      After (world.perform provider edge op fate).1
        (world.perform provider edge op fate).2) :
    (ownershipView provider reconciler edge).Triple Before op After := by
  intro world fate _ holds before
  have unchanged := quiet_perform provider edge quiet fate world
  obtain ⟨kept, extended⟩ :=
    holds.of_unchanged unchanged.file unchanged.flights unchanged.log
  exact ⟨kept, extended, after world fate holds before extended⟩

/-- A save keeps the invariant; its answer tells whether the state is known
to be in the log. -/
theorem ownership_save {edge : Edge} {state : ProviderState}
    {Before : World Edge → Prop}
    {After : Except String Unit → World Edge → Prop}
    (savable : ∀ world, Before world → state.Every (Savable world.log))
    (saved : ∀ world later, Before world → Extends world later →
      state.Every (Recorded later.log) → After (.ok ()) later)
    (failed : ∀ later error, state.Every (Savable later.log) →
      After (.error error) later) :
    (ownershipView provider reconciler edge).Triple Before
      (.saveState state) After := by
  intro world fate _ holds before
  have kept := savable world before
  have quiet := holds.called edge
  obtain ⟨stored, extended⟩ := holds.save edge kept
  have renamed := stored.called edge
  have total := extends_trans extended renamed.2
  have recorded : state.Every
      (Recorded ((world.save edge state).called edge).log) := stored.file
  simp only [ownershipView, World.perform]
  cases fate.ioError with
  | none => exact ⟨renamed.1, total, saved world _ before total recorded⟩
  | some error =>
    cases fate.effective with
    | true =>
      exact ⟨renamed.1, total,
        failed _ error (recorded.mono fun _ _ entry => entry.toSavable)⟩
    | false => exact ⟨quiet.1, quiet.2, failed _ error kept⟩

def ownershipContract (edge : Edge) (compiled : CompiledDns) :
    Contract reconciler compiled
      (ownershipView provider reconciler edge) where
  At := OwnedAt reconciler
  stable := fun _ _ _ holds extended _ => ownedAt_extends holds extended
  load := by
    apply ownership_quiet rfl
    intro world fate holds _ _
    simp only [World.perform]
    split
    · trivial
    · exact holds.file
  generate := fun _ state => ownership_quiet rfl fun _ _ _ loaded extended =>
      ownedAt_admitted (ownedAt_extends loaded extended)
  acquire := fun _ state => ownership_quiet rfl fun _ _ _ loaded extended =>
      ownedAt_afterAcquire _ (ownedAt_extends loaded extended)
  trust := fun _ _ _ _ renews _ holds => ownedAt_renewed renews holds
  renew := fun _ _ _ _ renews => ownership_quiet rfl
    fun _ _ _ holds extended => ownedAt_afterRenew _
      (ownedAt_renewed renews (ownedAt_extends holds extended))
  clock := fun _ _ _ => ownership_quiet rfl
    fun _ _ _ settled extended => ownedAt_extends settled extended
  synced := by
    intro item changeId tracked
    apply ownership_quiet rfl
    intro world fate _ settled extended
    have kept := ownedAt_extends settled extended
    generalize (world.perform provider edge (.changeSynced changeId) fate) =
      answered at kept ⊢
    rcases answered with ⟨error | _ | _, later⟩
    · exact kept
    · exact kept
    · exact ownedAt_finishPending tracked kept
  read := by
    intro item _
    apply ownership_quiet rfl
    intro world fate _ settled extended
    have kept := ownedAt_extends settled extended
    simp only [World.perform] at kept ⊢
    cases fault : fate.fault with
    | some error =>
      simp only [fault] at kept ⊢
      exact kept
    | none =>
      simp only [fault] at kept ⊢
      exact ⟨kept, List.mem_cons_self⟩
  consider := by
    intro item observed
    apply ownership_quiet rfl
    intro world fate _ holds extended
    obtain ⟨every, member⟩ := holds
    have settled : (item.settle observed).state.Every (Recorded world.log) :=
      recorded_settleInterrupted every member
    exact ⟨settled.mono fun _ _ recorded =>
      recorded.mono (List.subset_cons_self _ _), List.mem_cons_self,
      fun _ _ decided => justified_considered settled decided⟩
  rest := fun _ _ _ holds _ => ownedAt_rest holds
  save := by
    intro item observed expected target
    apply ownership_save
    · exact fun world holds => savable_withIntent holds.1
    · intro world later holds extended recorded
      refine ⟨recorded, ?_, holds.2.mono extended.1⟩
      intro pending found
      cases (pending_withIntent ..).symm.trans found
      rfl
    · exact fun later error savable => savable
  submit := by
    intro item expected target world fate _ holds intended
    obtain ⟨every, aims, justified⟩ := intended
    have sent : OwnershipInvariant reconciler
          (world.perform provider edge
            (.replace (item.request expected target)) fate).2 ∧
        Extends world (world.perform provider edge
          (.replace (item.request expected target)) fate).2 :=
      holds.submit justified rfl rfl rfl
    refine ⟨sent.1, sent.2, ?_, aims, ⟨item.request expected target, none⟩,
      ?_, rfl⟩
    · exact every.mono fun _ _ recorded => recorded.mono sent.2.1.subset
    · simp [ownershipView, World.perform]
  timers := fun _ _ _ _ => ownership_quiet rfl
    fun _ _ _ submitted extended => ownedAt_extends submitted extended
  answer := by
    intro item expected target handle world fate _ holds submitted
    simp only [ownershipView, World.perform]
    cases fate.fault with
    | some error =>
      have quiet := holds.called edge
      exact ⟨quiet.1, quiet.2, submitted.1, submitted.2.1, by simp⟩
    | none =>
      obtain ⟨delivered, extended⟩ := holds.deliver provider handle fate.ticket
      have quiet := delivered.called edge
      obtain ⟨every, aims, flight, found, same⟩ :=
        ownedAt_extends submitted extended
      refine ⟨quiet.1, extends_trans extended quiet.2, every, aims, ?_⟩
      intro ticket accepted
      obtain ⟨request, answered⟩ := World.answer_eq_ok accepted
      obtain rfl : ⟨request, some (.ok ticket)⟩ = flight := by
        simpa [found] using answered.symm
      obtain ⟨before, happened⟩ :=
        delivered.executed _ (List.mem_of_getElem? found) ticket rfl
      exact ⟨before, same ▸ happened⟩
  conclude := fun _ _ _ _ _ holds => ownedAt_conclude holds
  halt := fun _ _ _ _ _ holds => holds.1.mono fun _ _ recorded =>
    recorded.toSavable
  finish := fun _ _ _ holds =>
    ProviderState.Every.mono (fun _ _ recorded => recorded.toSavable) holds
  persist := fun generation state => ownership_save
    (fun _ holds => holds) (fun _ _ _ _ _ => trivial) fun _ _ _ => trivial

variable (provider reconciler) in
def ownershipDiscipline : Discipline (edges Edge provider reconciler) where
  Invariant := OwnershipInvariant reconciler
  Rely := fun _ => Extends
  Guarantee := fun _ => Extends
  Idle := fun _ _ => True
  After := fun _ _ _ => True
  rely_refl := fun _ => extends_refl
  rely_trans := fun _ _ _ _ => extends_trans
  idle_stable := fun _ _ _ _ _ => trivial
  guaranteed := fun _ extended => extended
  disturbed := by
    intro event world holds
    obtain ⟨kept, extended⟩ := holds.disturb provider event
    exact ⟨kept, fun _ => extended⟩
  started := fun edge compiled world _ _ =>
    ((ownershipContract edge compiled).sat trivial).mono fun _ _ _ _ => trivial
  finished := fun _ _ world holds _ =>
    ⟨holds, trivial, fun _ _ => extends_refl world⟩
  crashed := by
    intro edge world holds
    have crashed : OwnershipInvariant reconciler (world.crash edge) ∧
        Extends world (world.crash edge) :=
      holds.of_unchanged rfl rfl ⟨[], rfl, by simp⟩
    exact ⟨crashed.1, trivial, fun _ _ => crashed.2⟩

end Contract

theorem ownershipInvariant_initial {content : String → Option Observed} :
    OwnershipInvariant reconciler (World.initial content : World Edge) := by
  constructor
  · intro key entry found
    simp [World.initial, ProviderState.empty] at found
  · simp [World.initial]
  · simp [World.initial]
  · intro later earlier request content split
    simp [World.initial] at split

/-- Whatever the schedule, the crashes, the configurations and the edits of
others: content that a change overwrites or deletes was owned when the change
was decided. -/
theorem overwritten_content_owned [DecidableEq Edge]
    (provider : AtomicProvider) (reconciler : Reconciler)
    (content : String → Option Observed)
    (labels : List (Machine.Label Edge CompiledDns Disturbance Fate)) :
    OnlyOwned reconciler
      (Run.after (edges Edge provider reconciler).step
        (idle Edge content) labels).world.log := by
  have holds : (ownershipDiscipline provider reconciler).Holds
      (idle Edge content) :=
    ⟨ownershipInvariant_initial, fun _ => trivial⟩
  exact (Discipline.sound holds labels).1.owned

end SieveTube.Dns
