import SieveTube.Dns.Recovery

/-!
# What an uninterrupted pass achieves

A pass whose calls succeed leaves every configured record as the
configuration asks for, unless a change of the record is still tracked by the
provider.  It sends nothing where everything was satisfied before.
-/

namespace SieveTube.Dns

/-- The content is what the configuration asks for. -/
def Satisfied (desired : DesiredRecord) (world : World Unit) : Prop :=
  desired.reached ((world.content desired.key).map (·.set)) = true

/-- A change that was tracked before the pass, and not synced then, is tracked
still. -/
def Blocked (start : World Unit) (state : ProviderState)
    (desired : DesiredRecord) : Prop :=
  ∃ changeId, trackedChange start.file desired.key = some changeId ∧
    trackedChange state desired.key = some changeId ∧
    changeId ∉ start.synced

def Event.isSubmission {Edge : Type} : Event Edge → Bool
  | .submitted _ => true
  | _ => false

/-- The number of changes sent to the provider. -/
def submissions (log : List (Event Unit)) : Nat := log.countP Event.isSubmission

/-- How far a pass over `records` has come since `start`: it has dealt with
all but those in `todo`, and has not yet touched those in `fresh`. -/
structure Progress (start : World Unit)
    (records todo fresh : List DesiredRecord) (state : ProviderState)
    (world : World Unit) : Prop where
  distinct : (records.map DesiredRecord.key).Nodup
  scheduled : fresh ⊆ records
  untouched : ∀ desired ∈ fresh,
    world.content desired.key = start.content desired.key
  tracked : ∀ desired ∈ fresh, ∀ changeId,
    trackedChange state desired.key = some changeId →
      trackedChange start.file desired.key = some changeId
  done : ∀ desired ∈ records, desired ∉ todo →
    Satisfied desired world ∨ Blocked start state desired
  stays : ∀ desired ∈ records, desired ∉ todo → Satisfied desired start →
    Satisfied desired world
  unwritten : (∀ desired ∈ records, Satisfied desired start) →
    submissions world.log = submissions start.log
  synced : start.synced ⊆ world.synced

theorem trackedChange_congr {state later : ProviderState} {key : String}
    (same : later.records.lookup key = state.records.lookup key) :
    trackedChange later key = trackedChange state key := by
  simp [trackedChange, ProviderState.pending, same]

namespace Progress

variable {start world later : World Unit}
variable {records todo fresh rest : List DesiredRecord}
variable {state next : ProviderState} {desired : DesiredRecord}

section

variable (progress : Progress start records todo fresh state world)
include progress

/-- The world changes, but no content. -/
theorem carry (content : later.content = world.content)
    (synced : world.synced ⊆ later.synced)
    (unwritten : (∀ desired ∈ records, Satisfied desired start) →
      submissions later.log = submissions start.log) :
    Progress start records todo fresh state later :=
  { progress with
    untouched := by
      rw [content]
      exact progress.untouched
    done := by
      simp only [Satisfied, content]
      exact progress.done
    stays := by
      simp only [Satisfied, content]
      exact progress.stays
    unwritten
    synced := List.Subset.trans progress.synced synced }

theorem congr (content : later.content = world.content)
    (synced : world.synced ⊆ later.synced)
    (log : submissions later.log = submissions world.log) :
    Progress start records todo fresh state later :=
  progress.carry content synced fun satisfied =>
    log.trans (progress.unwritten satisfied)

theorem key_ne {other : DesiredRecord} (member : desired ∈ records)
    (otherMember : other ∈ records) (different : other ≠ desired) :
    other.key ≠ desired.key := by
  intro same
  exact different (List.inj_on_of_nodup_map progress.distinct otherMember
    member same)

theorem key_ne_of_busy {other : DesiredRecord} (member : desired ∈ records)
    (busy : desired ∈ todo)
    (otherMember : other ∈ records) (settled : other ∉ todo) :
    other.key ≠ desired.key := by
  refine progress.key_ne member otherMember ?_
  rintro rfl
  exact settled busy

theorem narrow (fewer : rest ⊆ fresh) :
    Progress start records todo rest state world :=
  { progress with
    scheduled := List.Subset.trans fewer progress.scheduled
    untouched := fun other member => progress.untouched other (fewer member)
    tracked := fun other member => progress.tracked other (fewer member) }

/-- The entry of a record that is being dealt with may change. -/
theorem touch (member : desired ∈ records) (busy : desired ∈ todo)
    (touches : Touches desired.key state next)
    (own : desired ∈ fresh → ∀ changeId,
      trackedChange next desired.key = some changeId →
        trackedChange start.file desired.key = some changeId) :
    Progress start records todo fresh next world :=
  { progress with
    tracked := by
      intro other fresh changeId tracked
      by_cases same : other = desired
      · subst other
        exact own fresh changeId tracked
      · have different := progress.key_ne member (progress.scheduled fresh) same
        rw [trackedChange_congr (touches.elsewhere _ different)] at tracked
        exact progress.tracked other fresh changeId tracked
    done := by
      intro other otherMember settled
      have different := progress.key_ne_of_busy member busy otherMember settled
      rw [Blocked, trackedChange_congr (touches.elsewhere _ different)]
      exact progress.done other otherMember settled }

/-- The content of a record that is being changed may differ. -/
theorem change (member : desired ∈ records) (busy : desired ∈ todo)
    (touched : desired ∉ fresh)
    (content : ∀ key, key ≠ desired.key → later.content key = world.content key)
    (synced : later.synced = world.synced)
    (log : submissions later.log = submissions world.log) :
    Progress start records todo fresh state later :=
  { progress with
    untouched := by
      intro other fresh
      have different : other ≠ desired := by
        rintro rfl
        exact touched fresh
      rw [content _ (progress.key_ne member
        (progress.scheduled fresh) different)]
      exact progress.untouched other fresh
    done := by
      intro other otherMember settled
      rw [Satisfied,
        content _ (progress.key_ne_of_busy member busy otherMember settled)]
      exact progress.done other otherMember settled
    stays := by
      intro other otherMember settled
      rw [Satisfied, Satisfied,
        content _ (progress.key_ne_of_busy member busy otherMember settled)]
      exact progress.stays other otherMember settled
    unwritten := fun satisfied => log.trans (progress.unwritten satisfied)
    synced := synced ▸ progress.synced }

end

/-- One more record is dealt with. -/
theorem complete
    (progress : Progress start records (desired :: rest) fresh state world)
    (done : Satisfied desired world ∨ Blocked start state desired)
    (stays : Satisfied desired start → Satisfied desired world) :
    Progress start records rest fresh state world :=
  { progress with
    done := by
      intro other member settled
      by_cases same : other = desired
      · subst other
        exact done
      · exact progress.done other member (by simp [same, settled])
    stays := by
      intro other member settled
      by_cases same : other = desired
      · subst other
        exact stays
      · exact progress.stays other member (by simp [same, settled]) }

/-- A change is sent. -/
theorem submit (progress : Progress start records todo fresh state world)
    (member : desired ∈ records) (unsatisfied : ¬ Satisfied desired start)
    (content : later.content = world.content)
    (synced : later.synced = world.synced) :
    Progress start records todo fresh state later :=
  progress.carry content (synced ▸ List.Subset.refl _)
    fun satisfied => absurd (satisfied desired member) unsatisfied

theorem satisfied_iff (progress : Progress start records todo fresh state world)
    (member : desired ∈ fresh) :
    Satisfied desired world ↔ Satisfied desired start := by
  rw [Satisfied, Satisfied, progress.untouched desired member]

end Progress

/-- Every change that was sent has been answered. -/
def Landed (world : World Unit) : Prop :=
  ∀ flight ∈ world.flights, flight.answer ≠ none

theorem deliver_landed {provider : AtomicProvider} {handle : Nat}
    {ticket : ChangeTicket} {world : World Unit} (landed : Landed world) :
    world.deliver provider handle ticket = world := by
  rcases world.deliver_cases provider handle ticket with
    same | ⟨request, found, _⟩
  · exact same
  · exact absurd rfl (landed _ (List.mem_of_getElem? found))

def Leased (reconciler : Reconciler) (generation : Nat)
    (world : World Unit) : Prop :=
  reconciler.writer = .valkey → world.lease = some ((), generation)

/-- The change of an item is needed, and aims at the configuration. -/
structure Needed (start : World Unit) (records : List DesiredRecord)
    (item : Item) (expected target : Option RecordSet) : Prop where
  member : item.desired ∈ records
  once : item.desired ∉ item.rest
  unsatisfied : ¬ Satisfied item.desired start
  aim : target = item.desired.target expected

section Phases

variable (reconciler : Reconciler) (start : World Unit)
variable (records : List DesiredRecord)

def ProgressAt : Phase → World Unit → Prop
  | .start, world => world.content = start.content ∧
      world.file = start.file ∧ start.synced ⊆ world.synced ∧
      submissions world.log = submissions start.log
  | .loaded _, world => world.content = start.content ∧
      world.file = start.file ∧ start.synced ⊆ world.synced ∧
      submissions world.log = submissions start.log
  | .settled generation state rest, world =>
    Progress start records rest rest state world ∧ Landed world ∧
      Leased reconciler generation world
  | .observed item _, world =>
    Progress start records (item.desired :: item.rest)
        (item.desired :: item.rest) item.state world ∧
      Landed world ∧ Leased reconciler item.generation world
  | .considered item _, world =>
    Progress start records (item.desired :: item.rest)
        (item.desired :: item.rest) item.state world ∧
      Landed world ∧ Leased reconciler item.generation world
  | .permitted item _ expected target, world =>
    Progress start records (item.desired :: item.rest)
        (item.desired :: item.rest) item.state world ∧
      Landed world ∧ Leased reconciler item.generation world ∧
      Needed start records item expected target
  | .intended item expected target, world =>
    Progress start records (item.desired :: item.rest)
        (item.desired :: item.rest) item.state world ∧
      Landed world ∧ Leased reconciler item.generation world ∧
      Needed start records item expected target
  | .submitted item expected target handle, world =>
    Progress start records (item.desired :: item.rest) item.rest item.state
      world ∧ (∀ (other : Nat) flight, world.flights[other]? = some flight →
        flight.answer = none → other = handle) ∧
      Leased reconciler item.generation world ∧
      Needed start records item expected target
  | .answered item expected target result, world =>
    Progress start records (item.desired :: item.rest) item.rest item.state
      world ∧ Landed world ∧ Leased reconciler item.generation world ∧
      Needed start records item expected target ∧
      result.isOk = true ∧ Satisfied item.desired world
  | .stopped generation state, world =>
    Progress start records [] [] state world ∧ Landed world ∧
      Leased reconciler generation world
  | .closing generation state, world =>
    Progress start records [] [] state world ∧ Landed world ∧
      Leased reconciler generation world
  | .ended, world =>
    Progress start records [] [] world.file world ∧ Landed world

end Phases

/-- Every call succeeds. -/
def Smooth (fate : Fate) : Prop := fate.ioError = none ∧ fate.fault = none

def Disturbance.isCalm : Disturbance → Bool
  | .deliver _ _ => true
  | .sync _ => true
  | _ => false

/-- What the provider does while a pass runs undisturbed. -/
abbrev Calm := { event : Disturbance // event.isCalm = true }

section Contract

variable {provider : AtomicProvider} {reconciler : Reconciler}
variable {start : World Unit} {records : List DesiredRecord}
variable {world later : World Unit} {item : Item}
  {expected target : Option RecordSet}
variable {phase before after : Phase} {handle generation : Nat} {fate : Fate}
  {state : ProviderState}

theorem progressAt_congr
    (holds : ProgressAt reconciler start records phase world)
    (content : later.content = world.content)
    (flights : later.flights = world.flights)
    (file : later.file = world.file) (lease : later.lease = world.lease)
    (synced : world.synced ⊆ later.synced)
    (log : submissions later.log = submissions world.log) :
    ProgressAt reconciler start records phase later := by
  have progress : ∀ {todo fresh state},
      Progress start records todo fresh state world →
        Progress start records todo fresh state later :=
    fun kept => kept.congr content synced log
  have landed : Landed world → Landed later := by
    intro kept
    rwa [Landed, flights]
  have leased : ∀ {generation}, Leased reconciler generation world →
      Leased reconciler generation later :=
    fun kept shared => lease.trans (kept shared)
  cases phase with
  | start | loaded _ =>
    obtain ⟨sameContent, sameFile, sameSynced, sameLog⟩ := holds
    exact ⟨content.trans sameContent, file.trans sameFile,
      List.Subset.trans sameSynced synced, log.trans sameLog⟩
  | settled _ _ _ | observed _ _ | considered _ _ | stopped _ _
  | closing _ _ => exact ⟨progress holds.1, landed holds.2.1, leased holds.2.2⟩
  | permitted _ _ _ _ | intended _ _ _ =>
    exact ⟨progress holds.1, landed holds.2.1, leased holds.2.2.1, holds.2.2.2⟩
  | submitted item expected target handle =>
    refine ⟨progress holds.1, ?_, leased holds.2.2.1, holds.2.2.2⟩
    rw [flights]
    exact holds.2.1
  | answered item expected target result =>
    obtain ⟨kept, answered, held, needed, succeeded, satisfied⟩ := holds
    refine ⟨progress kept, landed answered, leased held, needed, succeeded, ?_⟩
    simpa only [Satisfied, content] using satisfied
  | ended =>
    refine ⟨?_, landed holds.2⟩
    rw [file]
    exact progress holds.1

theorem submissions_deliver (provider : AtomicProvider)
    (world : World Unit) (handle : Nat) (ticket : ChangeTicket) :
    (world.deliver provider handle ticket).synced = world.synced ∧
      submissions (world.deliver provider handle ticket).log =
        submissions world.log := by
  rcases world.deliver_cases provider handle ticket with
    same | ⟨request, _, ⟨reason, _, refused⟩ | ⟨next, _, accepted⟩⟩
  · rw [same]
    exact ⟨rfl, rfl⟩
  · rw [refused]
    exact ⟨rfl, rfl⟩
  · rw [accepted]
    exact ⟨rfl, rfl⟩

theorem open_deliver {index : Nat} {ticket : ChangeTicket}
    {flight : Flight} (sent : flight.answer = none)
    (found : (world.deliver provider handle ticket).flights[index]? =
      some flight) :
    world.flights[index]? = some flight := by
  have answered : ∀ {request answer},
      (world.flights.set handle ⟨request, some answer⟩)[index]? =
        some flight → world.flights[index]? = some flight := by
    intro request answer stored
    rw [List.getElem?_set] at stored
    split at stored
    · split at stored
      · cases stored
        cases sent
      · cases stored
    · exact stored
  rcases world.deliver_cases provider handle ticket with
    same | ⟨request, _, ⟨reason, _, refused⟩ | ⟨next, _, accepted⟩⟩
  · rwa [same] at found
  · rw [refused] at found
    exact answered found
  · rw [accepted] at found
    exact answered found

variable (provider) in
theorem progress_deliver (ticket : ChangeTicket)
    (holds : RecoveryInvariant reconciler world)
    (inFlight : InFlight item expected target handle world)
    (submitted : ProgressAt reconciler start records
      (.submitted item expected target handle) world) :
    ProgressAt reconciler start records (.submitted item expected target handle)
        (world.deliver provider handle ticket) ∧
      Landed (world.deliver provider handle ticket) ∧
      Satisfied item.desired (world.deliver provider handle ticket) := by
  obtain ⟨progress, alone, leased, needed⟩ := submitted
  obtain ⟨arrived, given, answered⟩ :=
    inFlight.deliver_own provider ticket (holds.supported item.key)
  obtain ⟨synced, log⟩ := submissions_deliver provider world handle ticket
  refine ⟨⟨?_, ?_, ?_, needed⟩, ?_, ?_⟩
  · refine progress.change needed.member List.mem_cons_self needed.once ?_
      synced log
    intro key different
    apply content_deliver
    intro flight member sent
    obtain ⟨index, stored⟩ := List.mem_iff_getElem?.mp member
    obtain rfl := alone index flight stored sent
    obtain ⟨answer, found, _⟩ := inFlight.found
    cases found.symm.trans stored
    exact different.symm
  · intro other flight found sent
    exact alone other flight (open_deliver sent found) sent
  · intro shared
    exact file_deliver.2.2.2.trans (leased shared)
  · intro flight member sent
    obtain ⟨index, stored⟩ := List.mem_iff_getElem?.mp member
    obtain rfl := alone index flight (open_deliver sent stored) sent
    cases answered.symm.trans stored
    cases sent
  · obtain ⟨answer, found, content⟩ := arrived.found
    obtain rfl : some (.ok given) = answer := by
      simpa using answered.symm.trans found
    rw [needed.aim] at content
    exact DesiredRecord.reached_of_same_target content

/-- The provider does not undo the progress of a pass. -/
theorem progressAt_calm (event : Calm)
    (holds : RecoveryInvariant reconciler world)
    (asserted : RecoveryAt reconciler phase world)
    (progress : ProgressAt reconciler start records phase world) :
    ProgressAt reconciler start records phase
      (world.disturb provider event.1) := by
  obtain ⟨event, calm⟩ := event
  cases event with
  | edit _ _ | expire => cases calm
  | sync changeId =>
    exact progressAt_congr progress rfl rfl rfl rfl
      (List.subset_cons_self _ _) rfl
  | deliver handle ticket =>
    have unchanged : Landed world → ProgressAt reconciler start records
        phase (world.deliver provider handle ticket) := by
      intro landed
      rwa [deliver_landed landed]
    have empty : world.flights = [] → Landed world := by
      intro flights flight member
      simp [flights] at member
    show ProgressAt reconciler start records phase
      (world.deliver provider handle ticket)
    cases phase with
    | start => exact unchanged (empty asserted)
    | loaded state => exact unchanged (empty asserted.1)
    | settled _ _ _ | observed _ _ | considered _ _ | permitted _ _ _ _
    | intended _ _ _ | answered _ _ _ _ | stopped _ _ | closing _ _ =>
      exact unchanged progress.2.1
    | ended => exact unchanged progress.2
    | submitted item expected target sent =>
      by_cases own : handle = sent
      · subst sent
        exact (progress_deliver provider ticket holds asserted.2.2 progress).1
      · rcases world.deliver_cases provider handle ticket with
          same | ⟨request, found, _⟩
        · rwa [same]
        · exact absurd (progress.2.1 handle _ found rfl) own

/-- A step of the provider. -/
def Serves (provider : AtomicProvider) (reconciler : Reconciler)
    (world later : World Unit) : Prop :=
  RecoveryInvariant reconciler world ∧ ∃ event : Calm,
    later = world.disturb provider event.1

theorem Calm.internal (event : Calm) : event.1.isEdit = false := by
  obtain ⟨event, calm⟩ := event
  cases event with
  | edit _ _ => cases calm
  | deliver _ _ | sync _ | expire => rfl

/-- How an uninterrupted pass sees the world. -/
def smoothView (provider : AtomicProvider) (reconciler : Reconciler) :
    View Op Answer Fate (World Unit) where
  perform := fun op fate world => world.perform provider () op fate
  Allowed := Smooth
  Invariant := RecoveryInvariant reconciler
  Rely := Relation.ReflTransGen (Serves provider reconciler)
  Guarantee := fun _ _ => True
  rely_refl := fun _ => .refl
  rely_trans := Relation.ReflTransGen.trans

/-- A pass is in agreement with the provider and makes progress. -/
def ConvergenceAt (reconciler : Reconciler) (start : World Unit)
    (records : List DesiredRecord) (phase : Phase) (world : World Unit) :
    Prop :=
  RecoveryAt reconciler phase world ∧
    ProgressAt reconciler start records phase world

theorem convergence_stable (phase : Phase) :
    (smoothView provider reconciler).Stable
      (ConvergenceAt reconciler start records phase) := by
  have rely : ∀ world later, (smoothView provider reconciler).Rely world later →
        Relation.ReflTransGen (Serves provider reconciler) world later :=
    fun _ _ relied => relied
  refine View.stable_of_steps rely ?_
  rintro world later ⟨holds, event, rfl⟩ ⟨asserted, progress⟩
  exact ⟨(recovery_disturb ⟨event.1, event.internal⟩ holds).2 phase asserted,
    progressAt_calm event holds asserted progress⟩

/-- It is enough to follow the progress a call makes when it succeeds. -/
theorem smooth_triple {op : Op} {after : Answer op → Phase}
    (recovers : (recoveryView provider reconciler).Triple
      (RecoveryAt reconciler before) op fun answer =>
        RecoveryAt reconciler (after answer))
    (advances : ∀ world fate, Smooth fate → RecoveryInvariant reconciler world →
      RecoveryAt reconciler before world →
      ProgressAt reconciler start records before world →
      ProgressAt reconciler start records
        (after (world.perform provider () op fate).1)
        (world.perform provider () op fate).2) :
    (smoothView provider reconciler).Triple
      (ConvergenceAt reconciler start records before) op fun answer =>
        ConvergenceAt reconciler start records (after answer) := by
  rintro world fate smooth holds ⟨asserted, progress⟩
  obtain ⟨kept, _, next⟩ := recovers world fate trivial holds asserted
  exact ⟨kept, trivial, next,
    advances world fate smooth holds asserted progress⟩

theorem submissions_quiet (quiet : Quiet world later) :
    submissions later.log = submissions world.log := by
  obtain ⟨events, log, unchanged⟩ := quiet.log
  have none_sent : events.countP Event.isSubmission = 0 := by
    rw [List.countP_eq_zero]
    intro event member sent
    have harmless := unchanged event member
    cases event <;> simp_all [Event.isSubmission, Event.isChange]
  simp [submissions, log, none_sent]

theorem progressAt_quiet
    (progress : ProgressAt reconciler start records phase world)
    (quiet : Quiet world later) (lease : later.lease = world.lease) :
    ProgressAt reconciler start records phase later :=
  progressAt_congr progress quiet.content quiet.flights quiet.file lease
    (quiet.synced ▸ List.Subset.refl _) (submissions_quiet quiet)

variable (provider) in
theorem progressAt_plain (op : Op) (plain : op.isPlain = true) (fate : Fate)
    (progress : ProgressAt reconciler start records phase world) :
    ProgressAt reconciler start records phase
      (world.perform provider () op fate).2 := by
  have quiet : op.isQuiet = true := by cases op <;> first | rfl | cases plain
  exact progressAt_quiet progress (quiet_perform provider () quiet fate world)
    (plain_perform provider plain fate world).2.1

theorem progressAt_admitted {compiled : CompiledDns}
    (asserted : RecoveryAt reconciler (.loaded state) world)
    (progress : ProgressAt reconciler start (reconciler.recordsFor compiled)
      (.loaded state) world)
    (unfenced : state.writerGeneration ≤ generation)
    (leased : Leased reconciler generation world) :
    ProgressAt reconciler start (reconciler.recordsFor compiled)
      (.admitted reconciler compiled state generation) world := by
  obtain ⟨flights, rfl⟩ := asserted
  obtain ⟨content, file, synced, log⟩ := progress
  have admitted : ¬ world.file.writerGeneration > generation :=
    Nat.not_lt.mpr unfenced
  simp only [Phase.admitted, admitted, if_false]
  refine ⟨?_, by simp [Landed, flights], leased⟩
  exact
    { distinct := recordsFor_nodup
      scheduled := List.Subset.refl _
      untouched := fun desired _ => by rw [content]
      tracked := fun desired _ changeId tracked => by
        rw [← file]
        exact tracked
      done := fun desired member unscheduled => absurd member unscheduled
      stays := fun desired member unscheduled => absurd member unscheduled
      unwritten := fun _ => log
      synced }

theorem callLease_smooth {minGeneration : Nat} (smooth : Smooth fate) :
    ∃ generation, (world.callLease () minGeneration fate).1 =
      .ok (some generation) := by
  unfold World.callLease World.leaseScript
  simp only [smooth.1]
  cases world.lease with
  | none => exact ⟨_, rfl⟩
  | some holder => exact ⟨holder.2, by simp⟩

theorem progress_acquire {compiled : CompiledDns} {minGeneration : Nat}
    (shared : reconciler.writer = .valkey) (smooth : Smooth fate)
    (holds : RecoveryInvariant reconciler world)
    (asserted : RecoveryAt reconciler (.loaded state) world)
    (progress : ProgressAt reconciler start (reconciler.recordsFor compiled)
      (.loaded state) world) :
    ProgressAt reconciler start (reconciler.recordsFor compiled)
      (.afterAcquire reconciler compiled state
        (world.acquire () minGeneration fate).1)
      (world.acquire () minGeneration fate).2 := by
  obtain ⟨answer, later, called, kept, unmoved, granted⟩ :=
    recovery_lease shared minGeneration fate holds
  obtain ⟨generation, answered⟩ := callLease_smooth smooth
  rw [called] at answered
  obtain rfl : answer = .ok (some generation) := answered
  obtain ⟨lease, newest⟩ := granted generation rfl
  have quiet := quiet_acquire () minGeneration fate world
  have acquired : world.acquire () minGeneration fate =
      (.ok (some generation),
        { later with
          log := .acquired () (later.base () == later.version) ::
            later.log }) := by
    simp only [World.acquire, called]
  rw [acquired] at quiet ⊢
  have fenced := kept.unfenced
  simp only [Unfenced, shared] at fenced
  have stays : RecoveryAt reconciler (.loaded state) later :=
    recoveryAt_unmoved asserted unmoved
  refine progressAt_admitted stays ?_ ?_ fun _ => lease
  · obtain ⟨content, file, synced, log⟩ := progress
    exact ⟨quiet.content.trans content, quiet.file.trans file,
      quiet.synced ▸ synced, (submissions_quiet quiet).trans log⟩
  · rw [stays.2, newest]
    exact fenced.1

theorem leased_of_renews (renews : reconciler.Renews generation before after)
    (progress : ProgressAt reconciler start records before world) :
    Leased reconciler generation world := by
  cases renews with
  | permit _ | close => exact progress.2.2
  | intended | submitted | answered => exact progress.2.2.1

/-- A change that was decided on is needed. -/
theorem progressAt_renewed (renews : reconciler.Renews generation before after)
    (asserted : RecoveryAt reconciler before world)
    (progress : ProgressAt reconciler start records before world) :
    ProgressAt reconciler start records after world := by
  cases renews with
  | intended | submitted | answered | close => exact progress
  | @permit item observed expected target decided =>
    obtain ⟨ready, rfl, _⟩ := asserted
    obtain ⟨kept, landed, leased⟩ := progress
    obtain ⟨_, rfl, aim, unreached, _⟩ := DesiredRecord.decide_eq_apply decided
    have distinct := (List.nodup_cons.mp ready.nodup).1
    refine ⟨kept, landed, leased,
      { member := kept.scheduled List.mem_cons_self
        once := ?_, unsatisfied := ?_, aim }⟩
    · intro again
      exact distinct (List.mem_map_of_mem again)
    · rw [← kept.satisfied_iff List.mem_cons_self, Satisfied]
      simpa [Item.key] using unreached

theorem renew_leased (smooth : Smooth fate)
    (lease : world.lease = some ((), generation)) :
    world.renew () generation fate =
      (.ok (some generation),
        { world.called () with
          renewal := Function.update (world.called ()).renewal ()
            (some false) }) := by
  simp [World.renew, World.callLease, World.leaseScript, smooth.1,
    lease, World.called]

theorem progress_synced {changeId : String}
    (tracked : trackedChange item.state item.key = some changeId)
    (smooth : Smooth fate)
    (progress : ProgressAt reconciler start records
      (.settled item.generation item.state (item.desired :: item.rest))
      world) :
    ProgressAt reconciler start records
      (.afterSynced item (world.perform provider ()
        (.changeSynced changeId) fate).1)
      (world.perform provider () (.changeSynced changeId) fate).2 := by
  obtain ⟨kept, landed, leased⟩ :=
    progressAt_plain provider (.changeSynced changeId) rfl fate progress
  have member := kept.scheduled List.mem_cons_self
  have answer : (world.perform provider () (.changeSynced changeId) fate).1 =
      .ok (world.synced.contains changeId) := by
    simp [World.perform, smooth.2]
  rw [answer]
  cases reported : world.synced.contains changeId with
  | true =>
    refine ⟨kept.touch member List.mem_cons_self touches_finishPending ?_,
      landed, leased⟩
    intro _ other still
    rw [show item.desired.key = item.key from rfl,
      trackedChange_finishPending] at still
    cases still
  | false =>
    refine ⟨(kept.complete (.inr ⟨changeId, ?_, tracked, ?_⟩)
      (kept.satisfied_iff List.mem_cons_self).mpr).narrow
        (List.subset_cons_self _ _), landed, leased⟩
    · exact kept.tracked item.desired List.mem_cons_self changeId tracked
    · intro early
      have late := progress.1.synced early
      simp_all

theorem trackedChange_settleInterrupted {key changeId : String}
    {actual : Option RecordSet} {now : Int}
    (tracked : trackedChange (settleInterrupted state key actual generation now)
      key = some changeId) :
    trackedChange state key = some changeId := by
  unfold settleInterrupted at tracked
  split at tracked
  · exact tracked
  · split at tracked
    · rw [trackedChange_finishPending] at tracked
      cases tracked
    · exact tracked

variable {observed : Option Observed}

theorem progress_settle
    (progress : Progress start records (item.desired :: item.rest)
      (item.desired :: item.rest) item.state world) :
    Progress start records (item.desired :: item.rest)
      (item.desired :: item.rest) (item.settle observed).state world := by
  refine progress.touch (progress.scheduled List.mem_cons_self)
    List.mem_cons_self touches_settleInterrupted ?_
  intro member changeId tracked
  exact progress.tracked item.desired member changeId
    (trackedChange_settleInterrupted tracked)

theorem progress_rest
    (asserted : RecoveryAt reconciler (.considered item observed) world)
    (progress : ProgressAt reconciler start records
      (.considered item observed) world)
    (unsent : ∀ expected target,
      reconciler.action item observed ≠ .apply expected target) :
    ProgressAt reconciler start records (.settled item.generation
      (item.concluded observed (reconciler.action item observed))
      item.rest) world := by
  obtain ⟨ready, rfl, supported⟩ := asserted
  obtain ⟨kept, landed, leased⟩ := progress
  have once : item.desired ∉ item.rest := fun again =>
    (List.nodup_cons.mp ready.nodup).1 (List.mem_map_of_mem again)
  have satisfied : Satisfied item.desired world := by
    by_contra unreached
    apply unsent ((world.content item.key).map (·.set))
      (item.desired.target ((world.content item.key).map (·.set)))
    rw [action_eq_proceed supported ready, DesiredRecord.proceed_eq]
    exact if_neg unreached
  have concluded : Touches item.desired.key item.state
      (item.concluded (world.content item.key)
        (reconciler.action item (world.content item.key))) :=
    touches_concluded
  have noted := (kept.narrow (List.subset_cons_self _ _)).touch
    (kept.scheduled List.mem_cons_self) List.mem_cons_self concluded
    fun again => absurd again once
  exact ⟨noted.complete (.inl satisfied) fun _ => satisfied, landed, leased⟩

theorem progress_save (smooth : Smooth fate)
    (progress : ProgressAt reconciler start records
      (.permitted item observed expected target) world) :
    ProgressAt reconciler start records
      (.afterSave item expected target (world.perform provider ()
        (.saveState (item.intend expected target).state) fate).1)
      (world.perform provider ()
        (.saveState (item.intend expected target).state) fate).2 := by
  obtain ⟨kept, landed, leased, needed⟩ := progress
  simp only [World.perform, smooth.1]
  refine ⟨?_, landed, leased,
    ⟨needed.member, needed.once, needed.unsatisfied, needed.aim⟩⟩
  have noted : Progress start records (item.desired :: item.rest)
      (item.desired :: item.rest) (item.intend expected target).state
      world := by
    refine kept.touch needed.member List.mem_cons_self touches_insert ?_
    intro _ changeId tracked
    have intent := pending_withIntent item.state item.desired expected target
      item.generation item.now
    change trackedChange (withIntent item.state item.desired expected target
      item.generation item.now) item.desired.key = some changeId at tracked
    simp [trackedChange, intent] at tracked
  exact noted.congr rfl (List.Subset.refl _) rfl

theorem progress_submit
    (progress : ProgressAt reconciler start records
      (.intended item expected target) world) :
    ProgressAt reconciler start records
      (.submitted item expected target (world.perform provider ()
        (.replace (item.request expected target)) fate).1)
      (world.perform provider ()
        (.replace (item.request expected target)) fate).2 := by
  obtain ⟨kept, landed, leased, needed⟩ := progress
  refine ⟨?_, ?_, leased, needed⟩
  · exact (kept.narrow (List.subset_cons_self _ _)).submit needed.member
      needed.unsatisfied rfl rfl
  · intro other flight found sent
    by_cases earlier : other < world.flights.length
    · have old : world.flights[other]? = some flight :=
        (List.getElem?_append_left earlier).symm.trans found
      exact absurd sent (landed flight (List.mem_of_getElem? old))
    · have bound := (List.getElem?_eq_some_iff.mp found).1
      simp only [World.perform, List.length_append,
        List.length_singleton] at bound ⊢
      omega

theorem progress_answer (smooth : Smooth fate)
    (holds : RecoveryInvariant reconciler world)
    (asserted : RecoveryAt reconciler
      (.submitted item expected target handle) world)
    (progress : ProgressAt reconciler start records
      (.submitted item expected target handle) world) :
    ProgressAt reconciler start records
      (.answered item expected target
        (world.perform provider () (.outcome handle) fate).1)
      (world.perform provider () (.outcome handle) fate).2 := by
  obtain ⟨⟨kept, _, leased, needed⟩, landed, satisfied⟩ :=
    progress_deliver provider fate.ticket holds asserted.2.2 progress
  obtain ⟨_, given, found⟩ := asserted.2.2.deliver_own provider fate.ticket
    (holds.supported item.key)
  have answer : (world.deliver provider handle fate.ticket).answer handle =
      .ok given := by
    simp [World.answer, found]
  simp only [World.perform, smooth.2, answer]
  exact ⟨kept.congr rfl (List.Subset.refl _) rfl, landed, leased, needed,
    rfl, satisfied⟩

theorem progress_conclude {result : Except DnsError ChangeTicket}
    (progress : ProgressAt reconciler start records
      (.answered item expected target result) world) :
    ProgressAt reconciler start records (.settled item.generation
      (reconciler.concludeChange item.desired expected target
        item.generation item.now item.state result).2 item.rest) world := by
  obtain ⟨kept, landed, leased, needed, succeeded, satisfied⟩ := progress
  have concluded : Touches item.desired.key item.state
      (reconciler.concludeChange item.desired expected target
        item.generation item.now item.state result).2 := by
    rcases result with error | ticket
    · cases succeeded
    · cases ticket <;> exact touches_modify
  have noted := kept.touch needed.member List.mem_cons_self concluded
    fun again => absurd again needed.once
  exact ⟨noted.complete (.inl satisfied) fun _ => satisfied, landed, leased⟩

variable (provider reconciler start) in
def convergenceContract (compiled : CompiledDns) :
    Contract reconciler compiled (smoothView provider reconciler) where
  At := ConvergenceAt reconciler start (reconciler.recordsFor compiled)
  stable := convergence_stable
  load := by
    refine smooth_triple (recoveryContract _ _ compiled).load ?_
    intro world fate smooth _ _ progress
    have kept := progressAt_plain provider .loadState rfl fate progress
    simp only [World.perform, smooth.1] at kept ⊢
    exact kept
  generate := by
    intro single state
    refine smooth_triple ((recoveryContract _ _ compiled).generate single state)
      ?_
    intro world fate _ holds asserted progress
    refine progressAt_admitted asserted progress
      (generation_unfenced single holds asserted.2) ?_
    simp [Leased, single]
  acquire := by
    intro shared state
    refine smooth_triple ((recoveryContract _ _ compiled).acquire shared state)
      ?_
    intro world fate smooth holds asserted progress
    exact progress_acquire shared smooth holds asserted progress
  trust := fun _ _ _ _ renews world holds =>
    ⟨recoveryAt_renewed renews holds.1,
      progressAt_renewed renews holds.1 holds.2⟩
  renew := by
    intro shared generation before after renews
    refine smooth_triple ((recoveryContract _ _ compiled).renew shared renews)
      ?_
    intro world fate smooth _ asserted progress
    simp only [World.perform,
      renew_leased smooth (leased_of_renews renews progress shared),
      Phase.afterRenew, if_true]
    exact progressAt_congr (progressAt_renewed renews asserted progress) rfl
      rfl rfl rfl (List.Subset.refl _) rfl
  clock := fun generation state rest => smooth_triple
    ((recoveryContract _ _ compiled).clock generation state
      rest) fun _ fate _ _ _ progress =>
        progressAt_plain provider _ rfl fate progress
  synced := fun item changeId tracked => smooth_triple
    ((recoveryContract _ _ compiled).synced item changeId
      tracked) fun _ _ smooth _ _ progress =>
        progress_synced tracked smooth progress
  read := by
    intro item untracked
    refine smooth_triple ((recoveryContract _ _ compiled).read item untracked)
      ?_
    intro world fate smooth _ _ progress
    have kept := progressAt_plain provider
      (.get item.desired.set.name item.desired.set.recordType) rfl fate
      progress
    simp only [World.perform, smooth.2] at kept ⊢
    exact kept
  consider := by
    intro item observed
    refine smooth_triple ((recoveryContract _ _ compiled).consider item
      observed) ?_
    intro world fate _ _ _ progress
    obtain ⟨kept, landed, leased⟩ := progress
    exact ⟨(progress_settle kept).congr rfl (List.Subset.refl _) rfl,
      landed, leased⟩
  rest := fun _ _ _ considered unsent =>
    ⟨recovery_rest considered.1, progress_rest considered.1 considered.2 unsent⟩
  save := fun item observed expected target => smooth_triple
    ((recoveryContract _ _ compiled).save item observed
      expected target) fun _ _ smooth _ _ progress =>
        progress_save smooth progress
  submit := fun item expected target => smooth_triple
    ((recoveryContract _ _ compiled).submit item expected
      target) fun _ _ _ _ _ progress => progress_submit progress
  timers := fun item expected target handle => smooth_triple
    ((recoveryContract _ _ compiled).timers item expected
      target handle) fun _ fate _ _ _ progress =>
        progressAt_plain provider _ rfl fate progress
  answer := fun item expected target handle => smooth_triple
    ((recoveryContract _ _ compiled).answer item expected
      target handle) fun _ _ smooth holds asserted progress =>
        progress_answer smooth holds asserted progress
  conclude := fun _ _ _ _ _ holds =>
    ⟨recovery_conclude holds.1, progress_conclude holds.2⟩
  halt := by
    rintro item expected target error world ⟨_, progress⟩
    cases progress.2.2.2.2.1
  finish := fun _ _ _ holds => ⟨⟨holds.1.consistent, holds.1.writes⟩, holds.2⟩
  persist := by
    intro generation state
    refine smooth_triple
      ((recoveryContract _ _ compiled).persist generation state) ?_
    intro world fate smooth _ _ progress
    simp only [World.perform, smooth.1]
    exact ⟨progress.1.congr rfl (List.Subset.refl _) rfl, progress.2.1⟩

end Contract

end SieveTube.Dns
