import SieveTube.Dns.World

/-!
# Saved states and the writer lease

Edges that share a state file save it only right after a successful renewal
of the lease.  A generation is granted once, so while a pass can renew its
own, no other Edge has saved since the lease was granted.  What the lease
cannot tell is whether somebody saved between the load of the state and the
grant: there a pass works on a stale copy and overwrites its successor.
-/

namespace SieveTube.Dns

variable {Edge : Type}

namespace Event

/-- A lease was granted to a pass whose copy of the state is outdated. -/
def acquiresStale : Event Edge → Bool
  | .acquired _ current => !current
  | _ => false

/-- The lease expired between a renewal and the write that followed it. -/
def savesLapsed : Event Edge → Bool
  | .saved _ _ _ renewal => renewal == some true
  | _ => false

/-- A state was saved over one it does not derive from. -/
def overwrites : Event Edge → Bool
  | .saved _ _ current _ => !current
  | _ => false

/-- The events that say something about the lease and the state file. -/
def ofWriter : Event Edge → Bool
  | .acquired _ _ => true
  | .saved _ _ _ _ => true
  | _ => false

end Event

/-- No lease lapses before a write, and every pass acquires the lease with a
current copy of the state. -/
def Fair (log : List (Event Edge)) : Prop :=
  ∀ event ∈ log, event.savesLapsed = false ∧ event.acquiresStale = false

theorem Fair.of_suffix {log more : List (Event Edge)} (grown : log <:+ more)
    (fair : Fair more) : Fair log :=
  fun event member => fair event (grown.subset member)

/-- While the Edge holds the lease under this generation, its copy of the
state is current. -/
def Held (edge : Edge) (generation : Nat) (world : World Edge) : Prop :=
  generation ≤ world.counter ∧
    (world.lease = some (edge, generation) → world.base edge = world.version)

/-- The last call of the Edge renewed its lease. -/
def Renewed (edge : Edge) (generation : Nat) (world : World Edge) : Prop :=
  ∃ expired, world.renewal edge = some expired ∧
    (expired = false → world.lease = some (edge, generation))

/-- What an Edge can count on whatever the others do. -/
structure Undisturbed (edge : Edge) (world later : World Edge) : Prop where
  log : world.log <:+ later.log
  held : Fair later.log → ∀ generation, Held edge generation world →
    Held edge generation later
  renewed : ∀ generation, Renewed edge generation world →
    Renewed edge generation later

theorem undisturbed_refl (edge : Edge) (world : World Edge) :
    Undisturbed edge world world where
  log := List.suffix_rfl
  held := fun _ _ held => held
  renewed := fun _ renewed => renewed

variable {edge : Edge}

theorem undisturbed_trans {first second third : World Edge}
    (former : Undisturbed edge first second)
    (latter : Undisturbed edge second third) :
    Undisturbed edge first third where
  log := former.log.trans latter.log
  held := fun fair generation held => latter.held fair generation
      (former.held (fair.of_suffix latter.log) generation held)
  renewed := fun generation renewed =>
    latter.renewed generation (former.renewed generation renewed)

variable {world later : World Edge}

/-- An Edge is not disturbed where the lease, the state file and what is
noted about the Edge stay as they are. -/
theorem undisturbed_of_eq (log : world.log <:+ later.log)
    (lease : later.lease = world.lease)
    (counter : later.counter = world.counter)
    (version : later.version = world.version)
    (base : later.base edge = world.base edge)
    (renewal : later.renewal edge = world.renewal edge) :
    Undisturbed edge world later where
  log := log
  held := fun _ generation held => by
    simpa only [Held, lease, counter, version, base] using held
  renewed := fun generation renewed => by
    simpa only [Renewed, lease, renewal] using renewed

/-- Every save so far kept the state of its predecessor, unless the run was
not fair, and generations are counted. -/
structure WriterInvariant (world : World Edge) : Prop where
  kept : Fair world.log → ∀ event ∈ world.log, event.overwrites = false
  bound : ∀ owner generation, world.lease = some (owner, generation) →
    generation ≤ world.counter

/-- What a pass knows about its copy of the state at each point. -/
def WriterAt (edge : Edge) : Phase → World Edge → Prop
  | .start, _ => True
  | .loaded _, _ => True
  | .settled generation _ _, world =>
    Fair world.log → Held edge generation world
  | .observed item _, world => Fair world.log → Held edge item.generation world
  | .considered item _, world =>
    Fair world.log → Held edge item.generation world
  | .permitted item _ _ _, world =>
    (Fair world.log → Held edge item.generation world) ∧
      Renewed edge item.generation world
  | .intended item _ _, world =>
    Fair world.log → Held edge item.generation world
  | .submitted item _ _ _, world =>
    Fair world.log → Held edge item.generation world
  | .answered item _ _ _, world =>
    Fair world.log → Held edge item.generation world
  | .stopped generation _, world => Fair world.log → Held edge generation world
  | .closing generation _, world =>
    (Fair world.log → Held edge generation world) ∧
      Renewed edge generation world
  | .ended, _ => True

theorem writerAt_undisturbed {phase : Phase} (holds : WriterAt edge phase world)
    (undisturbed : Undisturbed edge world later) :
    WriterAt edge phase later := by
  have held : ∀ {generation}, (Fair world.log → Held edge generation world) →
        Fair later.log → Held edge generation later :=
    fun held fair =>
      undisturbed.held fair _ (held (fair.of_suffix undisturbed.log))
  cases phase with
  | start | loaded _ | ended => trivial
  | settled _ _ _ | observed _ _ | considered _ _ | intended _ _ _
  | submitted _ _ _ _ | answered _ _ _ _ | stopped _ _ => exact held holds
  | permitted _ _ _ _ | closing _ _ =>
    exact ⟨held holds.1, undisturbed.renewed _ holds.2⟩

section

variable {taker : Edge} {lease : Option (Edge × Nat)} {counter : Nat}
variable (changed : (lease = world.lease ∧ counter = world.counter) ∨
  (world.lease = none ∧ world.counter < counter ∧
  lease = some (taker, counter)))
include changed

/-- Taking a free lease disturbs nobody: nobody held it, and its generation
is new. -/
theorem undisturbed_lease :
    Undisturbed edge world
      { world with lease := lease, counter := counter } := by
  rcases changed with ⟨rfl, rfl⟩ | ⟨free, newer, rfl⟩
  · exact undisturbed_refl edge world
  · refine { log := List.suffix_rfl, held := ?_, renewed := ?_ }
    · intro _ generation held
      refine ⟨le_trans held.1 newer.le, ?_⟩
      intro taken
      simp only [Option.some.injEq, Prod.mk.injEq] at taken
      exact absurd held.1 (taken.2 ▸ Nat.not_le_of_lt newer)
    · rintro generation ⟨expired, renewal, holds⟩
      refine ⟨expired, renewal, ?_⟩
      intro alive
      have held := holds alive
      rw [free] at held
      cases held

theorem writerInvariant_lease (holds : WriterInvariant world) :
    WriterInvariant { world with lease := lease, counter := counter } := by
  refine { kept := holds.kept, bound := ?_ }
  rcases changed with ⟨rfl, rfl⟩ | ⟨_, _, rfl⟩
  · exact holds.bound
  · intro owner generation held
    simp only [Option.some.injEq, Prod.mk.injEq] at held
    exact held.2.ge

end

theorem writerInvariant_of_eq
    (log : ∃ events, later.log = events ++ world.log ∧ ∀ event ∈ events,
      event.ofWriter = false)
    (lease : later.lease = world.lease)
    (counter : later.counter = world.counter) (holds : WriterInvariant world) :
    WriterInvariant later := by
  obtain ⟨events, logEq, others⟩ := log
  constructor
  · intro fair event member
    rw [logEq, List.mem_append] at member
    rcases member with new | old
    · cases event with
      | saved _ _ _ _ => exact absurd (others _ new) (by simp [Event.ofWriter])
      | read _ _ | considered _ | acquired _ _ | submitted _
      | executed _ _ => rfl
    · have suffix : world.log <:+ later.log :=
        logEq ▸ List.suffix_append events world.log
      exact holds.kept (fair.of_suffix suffix) event old
  · rw [lease, counter]
    exact holds.bound

/-- A call that is none of the others' business: the lease and the state
file stay as they are. -/
structure Private (edge : Edge) (world later : World Edge) : Prop where
  lease : later.lease = world.lease
  counter : later.counter = world.counter
  version : later.version = world.version
  base : later.base = world.base
  renewal : ∀ other, other ≠ edge → later.renewal other = world.renewal other
  log : ∃ events, later.log = events ++ world.log ∧ ∀ event ∈ events,
    event.ofWriter = false

namespace Private

variable {edge : Edge} {world later : World Edge}

variable (calls : Private edge world later)
include calls

theorem suffix : world.log <:+ later.log := by
  obtain ⟨events, log, _⟩ := calls.log
  exact log ▸ List.suffix_append events world.log

theorem undisturbed {other : Edge} (different : other ≠ edge) :
    Undisturbed other world later :=
  undisturbed_of_eq calls.suffix calls.lease calls.counter calls.version
    (congrFun calls.base other) (calls.renewal other different)

theorem held {generation : Nat}
    (held : Fair world.log → Held edge generation world) :
    Fair later.log → Held edge generation later := by
  intro fair
  simpa only [Held, calls.lease, calls.counter, calls.version, calls.base]
    using held (fair.of_suffix calls.suffix)

theorem invariant (holds : WriterInvariant world) : WriterInvariant later :=
  writerInvariant_of_eq calls.log calls.lease calls.counter holds

end Private

variable [DecidableEq Edge]

theorem private_called (lease : later.lease = world.lease)
    (counter : later.counter = world.counter)
    (version : later.version = world.version) (base : later.base = world.base)
    (renewal : later.renewal = (world.called edge).renewal)
    (log : ∃ events, later.log = events ++ world.log ∧ ∀ event ∈ events,
      event.ofWriter = false) :
    Private edge world later where
  lease := lease
  counter := counter
  version := version
  base := base
  renewal := fun other different => by
    rw [renewal]
    exact Function.update_of_ne different none world.renewal
  log := log

def Op.isPrivate : Op → Bool
  | .loadState => false
  | .acquireLease _ => false
  | .renewLease _ => false
  | .saveState _ => false
  | _ => true

theorem private_perform (provider : AtomicProvider) (edge : Edge) {op : Op}
    (isPrivate : op.isPrivate = true) (fate : Fate) (world : World Edge) :
    Private edge world (world.perform provider edge op fate).2 := by
  cases op with
  | loadState | acquireLease _ | renewLease _ | saveState _ => cases isPrivate
  | writerGeneration _ | nowUnix | timers =>
    exact private_called rfl rfl rfl rfl rfl ⟨[], rfl, by simp⟩
  | considered decision =>
    exact private_called rfl rfl rfl rfl rfl
      ⟨[.considered decision], rfl, by simp [Event.ofWriter]⟩
  | replace request =>
    exact private_called rfl rfl rfl rfl rfl
      ⟨[.submitted request], rfl, by simp [Event.ofWriter]⟩
  | changeSynced changeId =>
    simp only [World.perform]
    split <;>
      exact private_called rfl rfl rfl rfl rfl ⟨[], rfl, by simp⟩
  | get name recordType =>
    simp only [World.perform]
    split
    · exact private_called rfl rfl rfl rfl rfl ⟨[], rfl, by simp⟩
    · exact private_called rfl rfl rfl rfl rfl
        ⟨[_], rfl, by simp [Event.ofWriter]⟩
  | outcome handle =>
    simp only [World.perform]
    split
    · exact private_called rfl rfl rfl rfl rfl ⟨[], rfl, by simp⟩
    · rcases world.deliver_cases provider handle fate.ticket with
        same | ⟨request, _, ⟨reason, _, refused⟩ | ⟨next, _, accepted⟩⟩
      · simp only [same]
        exact private_called rfl rfl rfl rfl rfl ⟨[], rfl, by simp⟩
      · simp only [refused]
        exact private_called rfl rfl rfl rfl rfl ⟨[], rfl, by simp⟩
      · simp only [accepted]
        exact private_called rfl rfl rfl rfl rfl
          ⟨[_], rfl, by simp [Event.ofWriter]⟩

def writerView (provider : AtomicProvider) (edge : Edge) :
    View Op Answer Fate (World Edge) where
  perform := fun op fate world => world.perform provider edge op fate
  Allowed := fun _ => True
  Invariant := WriterInvariant
  Rely := Undisturbed edge
  Guarantee := fun world later => ∀ other, other ≠ edge →
    Undisturbed other world later
  rely_refl := undisturbed_refl edge
  rely_trans := undisturbed_trans

section Contract

variable {provider : AtomicProvider} {reconciler : Reconciler} {edge : Edge}

theorem private_of_called (edge : Edge) (world : World Edge) :
    Private edge world (world.called edge) :=
  private_called rfl rfl rfl rfl rfl ⟨[], rfl, by simp⟩

theorem private_triple {op : Op} (isPrivate : op.isPrivate = true)
    {Before : World Edge → Prop} {After : Answer op → World Edge → Prop}
    (after : ∀ world fate, Before world →
      Private edge world (world.perform provider edge op fate).2 →
      After (world.perform provider edge op fate).1
        (world.perform provider edge op fate).2) :
    (writerView provider edge).Triple Before op After := by
  intro world fate _ holds before
  have calls := private_perform provider edge isPrivate fate world
  exact ⟨calls.invariant holds, fun _ => calls.undisturbed,
    after world fate before calls⟩

variable {world : World Edge}

/-- What a call of the lease script leaves behind. -/
theorem callLease_keeps (edge : Edge) (minGeneration : Nat) (fate : Fate)
    (holds : WriterInvariant world) :
    ∃ answer later,
      (world.called edge).callLease edge minGeneration fate = (answer, later) ∧
      WriterInvariant later ∧
      (∀ other, other ≠ edge → Undisturbed other world later) ∧
      (∀ generation, (Fair world.log → Held edge generation world) →
        Fair later.log → Held edge generation later) ∧
      ∀ generation, answer = .ok (some generation) →
      later.lease = some (edge, generation) := by
  have calls := private_of_called edge world
  obtain ⟨answer, lease, counter, called, changed, granted⟩ :=
    (world.called edge).callLease_cases edge minGeneration fate
  refine ⟨answer, _, called, ?_, ?_, ?_, granted⟩
  · exact writerInvariant_lease changed (calls.invariant holds)
  · exact fun other different => undisturbed_trans (calls.undisturbed different)
        (undisturbed_lease changed)
  · exact fun generation held fair =>
      (undisturbed_lease changed).held fair generation (calls.held held fair)

theorem acquire_triple {compiled : CompiledDns} {state : ProviderState}
    {minGeneration : Nat} :
    (writerView provider edge).Triple (WriterAt edge (.loaded state))
      (.acquireLease minGeneration) fun answer => WriterAt edge
          (.afterAcquire reconciler compiled state answer) := by
  intro world fate _ holds _
  obtain ⟨answer, later, called, invariant, others, _, granted⟩ :=
    callLease_keeps edge minGeneration fate holds
  simp only [writerView, World.perform, World.acquire, called]
  rcases answer with error | _ | generation
  · exact ⟨invariant, others, trivial⟩
  · exact ⟨invariant, others, trivial⟩
  · have owned := granted generation rfl
    refine ⟨{ kept := ?_, bound := invariant.bound }, ?_, ?_⟩
    · intro fair event member
      rcases List.mem_cons.mp member with rfl | old
      · rfl
      · exact invariant.kept (fair.of_suffix (List.suffix_cons _ _)) event old
    · intro other different
      exact undisturbed_trans (others other different)
        (undisturbed_of_eq (List.suffix_cons _ _) rfl rfl rfl rfl rfl)
    · show WriterAt edge (.admitted reconciler compiled state generation) _
      unfold Phase.admitted
      split
      · trivial
      · intro fair
        refine ⟨invariant.bound edge generation owned, ?_⟩
        intro _
        have current := (fair _ List.mem_cons_self).2
        simpa [Event.acquiresStale] using current

variable {generation : Nat}

/-- A successful renewal confirms the generation of the pass; any other
answer ends it. -/
theorem renew_triple {before after : Phase}
    (renews : reconciler.Renews generation before after) :
    (writerView provider edge).Triple (WriterAt edge before)
      (.renewLease generation) fun answer =>
        WriterAt edge (.afterRenew generation after answer) := by
  intro world fate _ holds asserted
  have held : Fair world.log → Held edge generation world := by
    cases renews <;> exact asserted
  obtain ⟨answer, later, called, invariant, others, keeps, granted⟩ :=
    callLease_keeps edge generation fate holds
  have kept := keeps generation held
  simp only [writerView, World.perform, World.renew, called]
  rcases answer with error | _ | renewed
  · exact ⟨invariant, others, trivial⟩
  · exact ⟨invariant, others, trivial⟩
  · simp only [Phase.afterRenew]
    split
    · next same =>
      subst renewed
      have owned := granted generation rfl
      refine ⟨⟨invariant.kept, invariant.bound⟩, ?_, ?_⟩
      · intro other different
        refine undisturbed_trans (others other different) ?_
        exact undisturbed_of_eq List.suffix_rfl rfl rfl rfl rfl
          (Function.update_of_ne different _ _)
      · cases renews with
        | permit _ | close =>
          exact ⟨kept, false, Function.update_self .., fun _ => owned⟩
        | intended | submitted | answered => exact kept
    · exact ⟨invariant, others, trivial⟩

/-- Right after a renewal the lease is still held, so nobody saved in the
meantime and nobody else works under it. -/
theorem save_keeps (state : ProviderState) (holds : WriterInvariant world)
    (held : Fair world.log → Held edge generation world)
    (renewed : Renewed edge generation world) :
    WriterInvariant (world.save edge state) ∧
      (∀ other, other ≠ edge →
        Undisturbed other world (world.save edge state)) ∧
      (Fair (world.save edge state).log →
        Held edge generation (world.save edge state)) := by
  have suffix : world.log <:+ (world.save edge state).log :=
    List.suffix_cons _ _
  have current : Fair (world.save edge state).log →
      world.lease = some (edge, generation) ∧ Held edge generation world := by
    intro fair
    obtain ⟨expired, renewal, alive⟩ := renewed
    have timely := (fair _ List.mem_cons_self).1
    have unexpired : expired = false := by
      simpa [Event.savesLapsed, renewal] using timely
    exact ⟨alive unexpired, held (fair.of_suffix suffix)⟩
  refine ⟨{ kept := ?_, bound := holds.bound }, ?_, ?_⟩
  · intro fair event member
    rcases List.mem_cons.mp member with rfl | old
    · obtain ⟨lease, own⟩ := current fair
      simp [Event.overwrites, own.2 lease]
    · exact holds.kept (fair.of_suffix suffix) event old
  · intro other different
    refine { log := suffix, held := ?_, renewed := fun _ kept => kept }
    intro fair otherGeneration otherHeld
    refine ⟨otherHeld.1, ?_⟩
    intro otherLease
    have lease := (current fair).1
    rw [show (world.save edge state).lease = world.lease from rfl,
      lease] at otherLease
    simp only [Option.some.injEq, Prod.mk.injEq] at otherLease
    exact absurd otherLease.1.symm different
  · intro fair
    refine ⟨(current fair).2.1, ?_⟩
    intro _
    exact Function.update_self ..

theorem save_triple {state : ProviderState} {Before : World Edge → Prop}
    {After : Except String Unit → World Edge → Prop}
    (renewed : ∀ world, Before world →
      (Fair world.log → Held edge generation world) ∧
        Renewed edge generation world)
    (after : ∀ answer later, (Fair later.log → Held edge generation later) →
      After answer later) :
    (writerView provider edge).Triple Before (.saveState state) After := by
  intro world fate _ holds before
  obtain ⟨held, renewal⟩ := renewed world before
  have calls := private_of_called edge world
  have unsaved := calls.held held
  obtain ⟨invariant, others, kept⟩ := save_keeps state holds held renewal
  have called := private_of_called edge (world.save edge state)
  have savedOthers : ∀ other, other ≠ edge →
      Undisturbed other world ((world.save edge state).called edge) :=
    fun other different =>
      undisturbed_trans (others other different) (called.undisturbed different)
  have savedHeld := called.held kept
  simp only [writerView, World.perform]
  cases fate.ioError with
  | none => exact ⟨called.invariant invariant, savedOthers, after _ _ savedHeld⟩
  | some error =>
    cases fate.effective with
    | true =>
      exact ⟨called.invariant invariant, savedOthers, after _ _ savedHeld⟩
    | false =>
      exact ⟨calls.invariant holds, fun _ => calls.undisturbed,
        after _ _ unsaved⟩

theorem load_triple :
    (writerView provider edge).Triple (WriterAt edge .start) .loadState
      fun answer => WriterAt edge (.afterLoad answer) := by
  intro world fate _ holds _
  have calls := private_of_called edge world
  simp only [writerView, World.perform]
  cases fate.ioError with
  | some error =>
    exact ⟨calls.invariant holds, fun _ => calls.undisturbed, trivial⟩
  | none =>
    refine ⟨⟨holds.kept, holds.bound⟩, ?_, trivial⟩
    intro other different
    exact undisturbed_of_eq List.suffix_rfl rfl rfl rfl
      (Function.update_of_ne different _ _)
      (Function.update_of_ne different _ _)

variable (reconciler) in
def writerContract (shared : reconciler.writer = .valkey)
    (compiled : CompiledDns) :
    Contract reconciler compiled (writerView provider edge) where
  At := WriterAt edge
  stable := fun _ _ _ holds undisturbed _ =>
    writerAt_undisturbed holds undisturbed
  load := load_triple
  generate := fun single => by
    rw [shared] at single
    cases single
  acquire := fun _ state => acquire_triple
  trust := fun single => by
    rw [shared] at single
    cases single
  renew := fun _ _ _ _ renews => renew_triple renews
  clock := fun _ _ _ => private_triple rfl fun _ _ held calls => calls.held held
  synced := by
    intro item changeId _
    apply private_triple rfl
    intro world fate held calls
    have kept := calls.held held
    generalize world.perform provider edge (.changeSynced changeId) fate =
      answered at kept ⊢
    rcases answered with ⟨error | _ | _, later⟩ <;> exact kept
  read := by
    intro item _
    apply private_triple rfl
    intro world fate held calls
    have kept := calls.held held
    generalize world.perform provider edge (.get item.desired.set.name
      item.desired.set.recordType) fate = answered at kept ⊢
    rcases answered with ⟨error | observed, later⟩ <;> exact kept
  consider := fun _ _ => private_triple rfl fun _ _ held calls =>
    calls.held held
  rest := fun _ _ _ held _ => held
  save := by
    intro item observed expected target
    apply save_triple (fun _ asserted => asserted)
    rintro (error | ⟨⟩) later held <;> exact held
  submit := fun _ _ _ => private_triple rfl fun _ _ held calls =>
    calls.held held
  timers := fun _ _ _ _ => private_triple rfl fun _ _ held calls =>
    calls.held held
  answer := fun _ _ _ _ => private_triple rfl fun _ _ held calls =>
    calls.held held
  conclude := fun _ _ _ _ _ held => held
  halt := fun _ _ _ _ _ held => held
  finish := fun _ _ _ held => held
  persist := fun _ _ => save_triple (fun _ asserted => asserted) fun _ _ _ =>
    trivial

/-- Events outside the passes can only end a lease. -/
theorem expire_keeps (holds : WriterInvariant world) :
    WriterInvariant world.expire ∧
      ∀ edge, Undisturbed edge world world.expire := by
  unfold World.expire
  cases lease : world.lease with
  | none => exact ⟨holds, fun edge => undisturbed_refl edge world⟩
  | some holder =>
    obtain ⟨owner, ownerGeneration⟩ := holder
    refine ⟨{ kept := holds.kept, bound := by simp }, ?_⟩
    intro edge
    refine { log := List.suffix_rfl, held := ?_, renewed := ?_ }
    · exact fun _ generation held => ⟨held.1, by simp⟩
    · rintro generation ⟨expired, renewal, alive⟩
      by_cases same : edge = owner
      · subst owner
        exact ⟨true, by simp [renewal], by simp⟩
      · have lapsed : expired = true := by
          cases expired with
          | true => rfl
          | false =>
            have held := alive rfl
            rw [lease] at held
            simp only [Option.some.injEq, Prod.mk.injEq] at held
            exact absurd held.1.symm same
        subst expired
        exact ⟨true, (Function.update_of_ne same _ _).trans renewal, by simp⟩

theorem disturb_keeps (event : Disturbance) (holds : WriterInvariant world) :
    WriterInvariant (world.disturb provider event) ∧
      ∀ edge, Undisturbed edge world (world.disturb provider event) := by
  cases event with
  | expire => exact expire_keeps holds
  | edit _ _ | sync _ =>
    exact ⟨⟨holds.kept, holds.bound⟩, fun _ =>
      undisturbed_of_eq List.suffix_rfl rfl rfl rfl rfl rfl⟩
  | deliver handle ticket =>
    simp only [World.disturb]
    rcases world.deliver_cases provider handle ticket with
      same | ⟨request, _, ⟨reason, _, refused⟩ | ⟨next, _, accepted⟩⟩
    · rw [same]
      exact ⟨holds, fun edge => undisturbed_refl edge world⟩
    · rw [refused]
      exact ⟨⟨holds.kept, holds.bound⟩, fun _ =>
        undisturbed_of_eq List.suffix_rfl rfl rfl rfl rfl rfl⟩
    · rw [accepted]
      refine ⟨writerInvariant_of_eq ⟨[_], rfl, ?_⟩ rfl rfl holds, fun _ =>
        undisturbed_of_eq (List.suffix_cons _ _) rfl rfl rfl rfl rfl⟩
      simp [Event.ofWriter]

variable (provider reconciler) in
def writerDiscipline (shared : reconciler.writer = .valkey) :
    Discipline (edges Edge provider reconciler) where
  Invariant := WriterInvariant
  Rely := Undisturbed
  Guarantee := fun edge world later => ∀ other, other ≠ edge →
    Undisturbed other world later
  Idle := fun _ _ => True
  After := fun _ _ _ => True
  rely_refl := undisturbed_refl
  rely_trans := fun _ _ _ _ => undisturbed_trans
  idle_stable := fun _ _ _ _ _ => trivial
  guaranteed := fun different others => others _ different
  disturbed := fun event _ holds => disturb_keeps event holds
  started := fun edge compiled world _ _ =>
    ((writerContract reconciler shared compiled).sat trivial).mono fun _ _ _
      _ => trivial
  finished := fun _ _ world holds _ =>
    ⟨holds, trivial, fun other _ => undisturbed_refl other world⟩
  crashed := by
    intro edge world holds
    have calls : Private edge world (world.crash edge) :=
      private_called rfl rfl rfl rfl rfl ⟨[], rfl, by simp⟩
    exact ⟨calls.invariant holds, trivial, fun _ => calls.undisturbed⟩

end Contract

/-- In every run in which no lease lapses between a renewal and the write
that follows it, and no pass is granted the lease on an outdated copy of the
state, each saved state derives from the one it replaces. -/
theorem saved_state_current (provider : AtomicProvider)
    (reconciler : Reconciler) (shared : reconciler.writer = .valkey)
    (content : String → Option Observed)
    (labels : List (Machine.Label Edge CompiledDns Disturbance Fate))
    (unlapsed : ∀ event ∈ (Run.after (edges Edge provider reconciler).step
      (idle Edge content) labels).world.log, event.savesLapsed = false)
    (fresh : ∀ event ∈ (Run.after (edges Edge provider reconciler).step
      (idle Edge content) labels).world.log, event.acquiresStale = false) :
    ∀ event ∈ (Run.after (edges Edge provider reconciler).step
      (idle Edge content) labels).world.log, event.overwrites = false := by
  have holds : (writerDiscipline provider reconciler shared).Holds
      (idle Edge content) :=
    ⟨⟨by simp [idle, World.initial], by simp [idle, World.initial]⟩,
      fun _ => trivial⟩
  exact (Discipline.sound holds labels).1.kept fun event member =>
    ⟨unlapsed event member, fresh event member⟩

section Runs

inductive Site where
  | first
  | second
deriving DecidableEq

def sharedZone : Reconciler :=
  { provider := "zone", settleSecs := 60, writer := .valkey }

def website : DesiredRecord :=
  { provider := "zone"
    set :=
      { name := "www.example.com"
        recordType := .a
        ttl := 300
        values := {"192.0.2.1"}
        proxied := none }
    importExisting := false
    absent := false }

def websiteDns : CompiledDns := { records := [website], nodup := by simp }

def smooth : Fate :=
  { now := 0
    timers := 0
    ioError := none
    effective := false
    fault := none
    ticket := .immediate }

def calls (edge : Site) (count : Nat) :
    List (Machine.Label Site CompiledDns Disturbance Fate) :=
  List.replicate count (.call edge smooth)

def runOf (labels : List (Machine.Label Site CompiledDns Disturbance Fate)) :
    World Site :=
  (Run.after (edges Site MemoryProvider.atomic sharedZone).step
    (idle Site fun _ => none) labels).world

/-- One Edge publishes the website, then another one takes over. -/
def orderly : List (Machine.Label Site CompiledDns Disturbance Fate) :=
  .start .first websiteDns :: calls .first 15 ++
    .disturb .expire :: .start .second websiteDns :: calls .second 8

theorem saved_state_current_orderly : (runOf orderly).version = 3 ∧
      ∀ event ∈ (runOf orderly).log, event.overwrites = false :=
  ⟨by decide +kernel,
    saved_state_current MemoryProvider.atomic sharedZone rfl (fun _ => none)
      orderly (by decide +kernel) (by decide +kernel)⟩

/-- The second Edge loads the state before the first one publishes the
website. -/
def published : List (Machine.Label Site CompiledDns Disturbance Fate) :=
  .start .second websiteDns :: calls .second 1 ++
    .start .first websiteDns :: calls .first 15

/-- It acquires the lease afterwards and saves the copy it has. -/
def overtaken : List (Machine.Label Site CompiledDns Disturbance Fate) :=
  published ++ .disturb .expire :: calls .second 7

theorem stale_copy_overwrites_entries :
    (∀ event ∈ (runOf overtaken).log, event.savesLapsed = false) ∧
      (∃ event ∈ (runOf overtaken).log, event.overwrites = true) ∧
      ((runOf published).file.records.lookup website.key).isSome ∧
      (runOf overtaken).file.records.lookup website.key = none := by
  decide +kernel

end Runs

end SieveTube.Dns
