import SieveTube.Dns.Agreement

/-!
# A single writer recovers from interruptions

Content that agrees with the state is never a conflict.  Every step of a pass
of the only writer keeps the agreement, and so does cutting the pass off.
-/

namespace SieveTube.Dns

def Disturbance.isEdit : Disturbance → Bool
  | .edit _ _ => true
  | _ => false

/-- What happens outside the passes when nobody else edits records. -/
abbrev Internal := { event : Disturbance // event.isEdit = false }

/-- One Edge is the only writer; requests do not outlive their pass. -/
def soleWriter (provider : AtomicProvider) (reconciler : Reconciler) :
    Machine Unit CompiledDns Internal Op Answer Fate (List RecordOutcome)
      (World Unit) where
  perform := fun edge op fate world => world.perform provider edge op fate
  disturb := fun event world => world.disturb provider event.1
  program := fun _ compiled => reconciler.reconcileProvider compiled
  finish := fun _ world => { world with flights := [] }
  crash := fun edge world => { world.crash edge with flights := [] }

section Contract

variable {provider : AtomicProvider} {reconciler : Reconciler}

theorem unmoved_expire (world : World Unit) :
    Unmoved world world.expire ∧ world.expire.log = world.log ∧
      (Unfenced reconciler world → Unfenced reconciler world.expire) := by
  unfold World.expire
  split
  · exact ⟨⟨rfl, rfl, rfl, rfl, le_rfl⟩, rfl, id⟩
  · refine ⟨⟨rfl, rfl, rfl, rfl, le_rfl⟩, rfl, ?_⟩
    intro unfenced
    unfold Unfenced at *
    cases writer : reconciler.writer with
    | singleWriter => simpa [writer] using unfenced
    | valkey =>
      simp only [writer] at unfenced ⊢
      exact ⟨unfenced.1, by simp⟩

variable {world : World Unit}

theorem recovery_disturb (event : Internal)
    (holds : RecoveryInvariant reconciler world) :
    RecoveryInvariant reconciler (world.disturb provider event.1) ∧
      ∀ phase, RecoveryAt reconciler phase world →
        RecoveryAt reconciler phase (world.disturb provider event.1) := by
  obtain ⟨event, internal⟩ := event
  cases event with
  | edit _ _ => cases internal
  | deliver handle ticket =>
    exact ⟨holds.deliver, fun _ => recoveryAt_deliver holds.supported⟩
  | sync changeId =>
    have unmoved : Unmoved world (world.disturb provider (.sync changeId)) :=
      ⟨rfl, rfl, rfl, rfl, le_rfl⟩
    exact ⟨holds.unmoved unmoved holds.unfenced fun _ => .inl,
      fun _ kept => recoveryAt_unmoved kept unmoved⟩
  | expire =>
    obtain ⟨unmoved, log, unfenced⟩ := unmoved_expire world
    refine ⟨holds.unmoved unmoved (unfenced holds.unfenced) ?_,
      fun _ kept => recoveryAt_unmoved kept unmoved⟩
    intro decision member
    exact .inl (log ▸ member)

/-- A step of the environment. -/
def Environs (provider : AtomicProvider) (reconciler : Reconciler)
    (world later : World Unit) : Prop :=
  RecoveryInvariant reconciler world ∧ ∃ event : Internal,
    later = world.disturb provider event.1

def recoveryView (provider : AtomicProvider) (reconciler : Reconciler) :
    View Op Answer Fate (World Unit) where
  perform := fun op fate world => world.perform provider () op fate
  Allowed := fun _ => True
  Invariant := RecoveryInvariant reconciler
  Rely := Relation.ReflTransGen (Environs provider reconciler)
  Guarantee := fun _ _ => True
  rely_refl := fun _ => .refl
  rely_trans := Relation.ReflTransGen.trans

theorem recovery_stable (phase : Phase) :
    (recoveryView provider reconciler).Stable
      (RecoveryAt reconciler phase) := by
  have rely : ∀ world later,
      (recoveryView provider reconciler).Rely world later →
        Relation.ReflTransGen (Environs provider reconciler) world later :=
    fun _ _ relied => relied
  refine View.stable_of_steps rely ?_
  rintro world later ⟨holds, event, rfl⟩ kept
  exact (recovery_disturb event holds).2 phase kept

/-- Calls that neither write nor decide anything. -/
def Op.isPlain : Op → Bool
  | .loadState => true
  | .nowUnix => true
  | .changeSynced _ => true
  | .get _ _ => true
  | .timers => true
  | _ => false

variable (provider) in
theorem plain_perform {op : Op} (plain : op.isPlain = true) (fate : Fate)
    (world : World Unit) :
    Unmoved world (world.perform provider () op fate).2 ∧
      (world.perform provider () op fate).2.lease = world.lease ∧
      (world.perform provider () op fate).2.counter = world.counter ∧
      ∀ decision, .considered decision ∈
        (world.perform provider () op fate).2.log →
          .considered decision ∈ world.log := by
  cases op with
  | nowUnix | timers =>
    exact ⟨⟨rfl, rfl, rfl, rfl, le_rfl⟩, rfl, rfl, fun _ old => old⟩
  | loadState | changeSynced _ =>
    simp only [World.perform]
    split <;>
      exact ⟨⟨rfl, rfl, rfl, rfl, le_rfl⟩, rfl, rfl, fun _ old => old⟩
  | get name recordType =>
    simp only [World.perform]
    split
    · exact ⟨⟨rfl, rfl, rfl, rfl, le_rfl⟩, rfl, rfl, fun _ old => old⟩
    · refine ⟨⟨rfl, rfl, rfl, rfl, le_rfl⟩, rfl, rfl, ?_⟩
      intro decision member
      simpa using member
  | writerGeneration _ | acquireLease _ | renewLease _ | considered _
  | saveState _ | replace _ | outcome _ => cases plain

theorem plain_triple {op : Op} (plain : op.isPlain = true)
    {Before : World Unit → Prop} {After : Answer op → World Unit → Prop}
    (after : ∀ world fate, RecoveryInvariant reconciler world → Before world →
      Unmoved world (world.perform provider () op fate).2 →
      After (world.perform provider () op fate).1
        (world.perform provider () op fate).2) :
    (recoveryView provider reconciler).Triple Before op After := by
  intro world fate _ holds before
  obtain ⟨unmoved, lease, counter, log⟩ :=
    plain_perform provider plain fate world
  refine ⟨holds.unmoved unmoved ?_ ?_, trivial,
    after world fate holds before unmoved⟩
  · exact holds.unfenced.congr unmoved.file unmoved.generations lease counter
  · exact fun decision member => .inl (log decision member)

variable {state : ProviderState} {generation : Nat}

theorem recoveryAt_admitted {compiled : CompiledDns}
    (holds : RecoveryInvariant reconciler world)
    (loaded : RecoveryAt reconciler (.loaded state) world)
    (writes : Writes reconciler generation
      { state with writerGeneration := generation } world) :
    RecoveryAt reconciler (.admitted reconciler compiled state generation)
      world := by
  obtain ⟨flights, rfl⟩ := loaded
  unfold Phase.admitted
  split
  · trivial
  · refine
      { consistent := ⟨holds.file.agrees, holds.file.intents⟩
        writes
        nodup := recordsFor_nodup
        unsent := ?_ }
    intro desired _ flight member
    simp [flights] at member

theorem recoveryAt_renewed {before after : Phase}
    (renews : reconciler.Renews generation before after)
    (holds : RecoveryAt reconciler before world) :
    RecoveryAt reconciler after world := by
  cases renews with
  | permit decided =>
    exact ⟨holds.1, holds.2.1, (DesiredRecord.decide_eq_apply decided).2.1.symm⟩
  | intended | submitted | answered | close => exact holds

/-- The generation of a single writer is never behind the state file. -/
theorem generation_unfenced (single : reconciler.writer = .singleWriter)
    (holds : RecoveryInvariant reconciler world) (loaded : state = world.file) :
    state.writerGeneration ≤
      (world.generations ()).getD (state.writerGeneration + 1) := by
  have fenced := holds.unfenced
  simp only [Unfenced, single] at fenced
  cases process : world.generations () with
  | none => exact Nat.le_succ _
  | some generation =>
    rw [loaded]
    exact fenced generation process

theorem recovery_generate {compiled : CompiledDns}
    (single : reconciler.writer = .singleWriter) :
    (recoveryView provider reconciler).Triple
      (RecoveryAt reconciler (.loaded state))
      (.writerGeneration (state.writerGeneration + 1)) fun generation =>
        RecoveryAt reconciler
          (.admitted reconciler compiled state generation) := by
  intro world fate _ holds loaded
  simp only [recoveryView, World.perform]
  have kept : RecoveryInvariant reconciler
      { world.called () with
        generations := Function.update world.generations ()
          (some ((world.generations ()).getD
            (state.writerGeneration + 1))) } := by
    refine { file := holds.file.congr rfl rfl, supported := holds.supported,
             unfenced := ?_, unopposed := holds.unopposed }
    simp only [Unfenced, single, Function.update_self, Option.some.injEq]
    rintro generation rfl
    rw [World.called, ← loaded.2]
    exact generation_unfenced single holds loaded.2
  refine ⟨kept, trivial, recoveryAt_admitted kept loaded ⟨rfl, ?_⟩⟩
  simp [single]

/-- A call of the lease script keeps everything a pass asserts. -/
theorem recovery_lease (shared : reconciler.writer = .valkey)
    (minGeneration : Nat) (fate : Fate)
    (holds : RecoveryInvariant reconciler world) :
    ∃ answer later,
      (world.called ()).callLease () minGeneration fate = (answer, later) ∧
      RecoveryInvariant reconciler later ∧ Unmoved world later ∧
      ∀ generation, answer = .ok (some generation) →
        later.lease = some ((), generation) ∧ generation = later.counter := by
  obtain ⟨answer, lease, counter, called, changed, granted⟩ :=
    (world.called ()).callLease_cases () minGeneration fate
  have fenced := holds.unfenced
  simp only [Unfenced, shared] at fenced
  have bound : ∀ generation, lease = some ((), generation) →
      generation = counter := by
    rcases changed with ⟨rfl, rfl⟩ | ⟨_, _, rfl⟩
    · exact fenced.2 ()
    · intro generation taken
      simp only [Option.some.injEq, Prod.mk.injEq, true_and] at taken
      exact taken.symm
  have grown : world.counter ≤ counter := by
    rcases changed with ⟨_, rfl⟩ | ⟨_, newer, _⟩
    · exact le_rfl
    · exact newer.le
  have unmoved : Unmoved world
      { world.called () with lease := lease, counter := counter } :=
    ⟨rfl, rfl, rfl, rfl, grown⟩
  refine ⟨answer, _, called, holds.unmoved unmoved ?_ fun _ => .inl, unmoved,
    fun generation answered => ⟨granted generation answered,
      bound generation (granted generation answered)⟩⟩
  simp only [Unfenced, shared]
  exact ⟨le_trans fenced.1 grown, fun _ => bound⟩

theorem recovery_acquire {compiled : CompiledDns}
    {minGeneration : Nat} (shared : reconciler.writer = .valkey) :
    (recoveryView provider reconciler).Triple
      (RecoveryAt reconciler (.loaded state))
      (.acquireLease minGeneration) fun answer => RecoveryAt reconciler
          (.afterAcquire reconciler compiled state answer) := by
  intro world fate _ holds loaded
  obtain ⟨answer, later, called, kept, unmoved, granted⟩ :=
    recovery_lease shared minGeneration fate holds
  simp only [recoveryView, World.perform, World.acquire, called]
  rcases answer with error | _ | generation
  · exact ⟨kept, trivial, trivial⟩
  · exact ⟨kept, trivial, trivial⟩
  · have noted : RecoveryInvariant reconciler
        { later with
          log := .acquired () (later.base () == later.version) ::
            later.log } := by
      refine kept.unmoved ⟨rfl, rfl, rfl, rfl, le_rfl⟩ kept.unfenced ?_
      intro decision member
      exact .inl (by simpa using member)
    have stays : RecoveryAt reconciler (.loaded state) later :=
      recoveryAt_unmoved loaded unmoved
    refine ⟨noted, trivial, recoveryAt_admitted noted stays ⟨rfl, ?_⟩⟩
    simp only [shared]
    exact (granted generation rfl).2.le

theorem recovery_renew {before after : Phase}
    (shared : reconciler.writer = .valkey)
    (renews : reconciler.Renews generation before after) :
    (recoveryView provider reconciler).Triple (RecoveryAt reconciler before)
      (.renewLease generation) fun answer =>
        RecoveryAt reconciler (.afterRenew generation after answer) := by
  intro world fate _ holds asserted
  obtain ⟨answer, later, called, kept, unmoved, _⟩ :=
    recovery_lease shared generation fate holds
  have next := recoveryAt_renewed renews (recoveryAt_unmoved asserted unmoved)
  simp only [recoveryView, World.perform, World.renew, called]
  rcases answer with error | _ | renewed
  · exact ⟨kept, trivial, trivial⟩
  · exact ⟨kept, trivial, trivial⟩
  · simp only [Phase.afterRenew]
    split
    · have marked : Unmoved later
          { later with
            renewal := Function.update later.renewal () (some false) } :=
        ⟨rfl, rfl, rfl, rfl, le_rfl⟩
      exact ⟨kept.unmoved marked kept.unfenced fun _ => .inl, trivial,
        recoveryAt_unmoved next marked⟩
    · exact ⟨kept, trivial, trivial⟩

variable {item : Item}

/-- No content a pass finds is a conflict. -/
theorem action_eq_proceed
    (supported : (world.content item.key).bind (·.unsupported) = none)
    (ready : Ready reconciler item.generation item.state
      (item.desired :: item.rest) world) :
    reconciler.action item (world.content item.key) =
      item.desired.proceed ((world.content item.key).map (·.set))
        item.managed :=
  decide_of_agrees supported (ready.consistent.agrees item.key)

theorem proceed_ne_conflict {desired : DesiredRecord}
    {actual : Option RecordSet} {managed : Option ManagedRecord}
    {reason : String} :
    desired.proceed actual managed ≠ .conflict reason := by
  rw [DesiredRecord.proceed_eq]
  split
  · split <;> simp
  · simp

theorem ready_settle
    (ready : Ready reconciler item.generation item.state
      (item.desired :: item.rest) world) :
    Ready reconciler item.generation
      (item.settle (world.content item.key)).state
      (item.desired :: item.rest) world :=
  ready.touch ready.unsent_item touches_settleInterrupted
    (agrees_settleInterrupted (ready.consistent.agrees item.key))

theorem recovery_consider (item : Item) (observed : Option Observed) :
    (recoveryView provider reconciler).Triple
      (RecoveryAt reconciler (.observed item observed)) (.considered
        { desired := item.desired
          observed
          managed := (item.settle observed).managed
          action := reconciler.action (item.settle observed) observed })
      fun _ => RecoveryAt reconciler
        (.considered (item.settle observed) observed) := by
  rintro world fate - holds ⟨ready, rfl⟩
  have settled := ready_settle ready
  have unmoved : Unmoved world (world.perform provider ()
      (.considered
        { desired := item.desired
          observed := world.content item.key
          managed := (item.settle (world.content item.key)).managed
          action := reconciler.action (item.settle (world.content item.key))
            (world.content item.key) }) fate).2 :=
    ⟨rfl, rfl, rfl, rfl, le_rfl⟩
  refine ⟨holds.unmoved unmoved holds.unfenced ?_, trivial,
    settled.unmoved unmoved, rfl, holds.supported item.key⟩
  intro decision member
  rcases List.mem_cons.mp member with same | old
  · right
    simp only [Event.considered.injEq] at same
    subst decision
    intro reason
    have proceeds : reconciler.action (item.settle (world.content item.key))
        (world.content item.key) = _ :=
      action_eq_proceed (holds.supported item.key) settled
    simp only [proceeds]
    exact proceed_ne_conflict
  · exact .inl old

/-- A decision that changes nothing leaves the state in agreement. -/
theorem recovery_rest {observed : Option Observed}
    (considered : RecoveryAt reconciler (.considered item observed) world) :
    RecoveryAt reconciler (.settled item.generation
      (item.concluded observed (reconciler.action item observed))
      item.rest) world := by
  obtain ⟨ready, rfl, supported⟩ := considered
  have agrees := ready.consistent.agrees item.key
  have unsent := ready.unsent_item
  refine ready.tail.touch unsent touches_concluded ?_
  rw [action_eq_proceed supported ready, DesiredRecord.proceed_eq]
  split
  · next reached =>
    split
    · next forgotten =>
      have absent : item.desired.absent = true := by simp_all
      have missing : world.content item.key = none := by
        simpa [DesiredRecord.reached, absent] using reached
      simp [Item.concluded, Agrees, missing]
    · exact agrees_recordConverged agrees
  · exact agrees

/-- A state in agreement may be saved, and a failed write leaves one. -/
theorem recovery_save {Before : World Unit → Prop}
    {After : Except String Unit → World Unit → Prop}
    (asserted : ∀ world, Before world → Consistent state world ∧
      Writes reconciler generation state world)
    (saved : ∀ world later, Before world → later.content = world.content →
      later.flights = world.flights →
      later.generations = world.generations →
      later.counter = world.counter → later.file = state →
      After (.ok ()) later)
    (failed : ∀ world later error, Before world →
      Consistent state later → Writes reconciler generation state later →
      After (.error error) later) :
    (recoveryView provider reconciler).Triple Before (.saveState state)
      After := by
  intro world fate _ holds before
  obtain ⟨consistent, writes⟩ := asserted world before
  have unmoved : Unmoved world (world.called ()) := ⟨rfl, rfl, rfl, rfl, le_rfl⟩
  have kept : RecoveryInvariant reconciler (world.called ()) :=
    holds.unmoved unmoved holds.unfenced fun _ => .inl
  have stored : RecoveryInvariant reconciler
      ((world.save () state).called ()) := by
    refine { file := consistent.congr rfl rfl, supported := holds.supported,
             unfenced := ?_, unopposed := ?_ }
    · have granted := writes.2
      have fenced := holds.unfenced
      unfold Unfenced at fenced ⊢
      cases writer : reconciler.writer with
      | singleWriter =>
        simp only [writer] at granted ⊢
        intro other process
        have same : some generation = some other := granted.symm.trans process
        simp only [Option.some.injEq] at same
        exact (writes.1.trans same).le
      | valkey =>
        simp only [writer] at granted fenced ⊢
        exact ⟨writes.1.le.trans granted, fenced.2⟩
    · intro decision member
      apply holds.unopposed decision
      simpa [World.save, World.called] using member
  simp only [recoveryView, World.perform]
  cases fate.ioError with
  | none => exact ⟨stored, trivial, saved world _ before rfl rfl rfl rfl rfl⟩
  | some error =>
    cases fate.effective with
    | true =>
      exact ⟨stored, trivial, failed world _ error before
        (consistent.congr rfl rfl) (writes.mono rfl le_rfl)⟩
    | false =>
      exact ⟨kept, trivial, failed world _ error before
        (consistent.congr rfl rfl) (writes.mono rfl le_rfl)⟩

theorem ready_intend {observed : Option Observed}
    {expected target : Option RecordSet}
    (holds : RecoveryAt reconciler
      (.permitted item observed expected target) world) :
    Ready reconciler item.generation (item.intend expected target).state
      (item.desired :: item.rest) world := by
  obtain ⟨ready, rfl, rfl⟩ := holds
  exact ready.touch ready.unsent_item touches_insert agrees_withIntent

/-- A change that is sent right after its intent was saved is known to the
state and to the file. -/
theorem recovery_submit (item : Item) (expected target : Option RecordSet) :
    (recoveryView provider reconciler).Triple
      (RecoveryAt reconciler (.intended item expected target))
      (.replace (item.request expected target)) fun handle =>
        RecoveryAt reconciler (.submitted item expected target handle) := by
  rintro world fate - holds ⟨ready, intends, file, content⟩
  have distinct := List.nodup_cons.mp ready.nodup
  have consistent : Consistent item.state
      (world.perform provider ()
        (.replace (item.request expected target)) fate).2 := by
    refine { agrees := ready.consistent.agrees, intents := ?_ }
    intro flight member sent
    rcases List.mem_append.mp member with old | new
    · exact ready.consistent.intents flight old sent
    · obtain rfl := List.mem_singleton.mp new
      exact intends
  refine ⟨?_, trivial, ?_, intends, ?_⟩
  · refine { file := file ▸ consistent, supported := holds.supported,
             unfenced := holds.unfenced, unopposed := ?_ }
    intro decision member
    rcases List.mem_cons.mp member with new | old
    · cases new
    · exact holds.unopposed decision old
  · refine { consistent, writes := ready.writes, nodup := distinct.2,
             unsent := ?_ }
    intro desired member flight sent
    rcases List.mem_append.mp sent with old | new
    · exact ready.unsent desired (List.mem_cons_of_mem _ member) flight old
    · obtain rfl := List.mem_singleton.mp new
      intro _ same
      exact distinct.1 (List.mem_map.mpr ⟨desired, member, same.symm⟩)
  · refine { alone := ?_, found := ⟨none, ?_, content⟩ }
    · intro other flight found sent about
      by_cases earlier : other < world.flights.length
      · have old : world.flights[other]? = some flight :=
          (List.getElem?_append_left earlier).symm.trans found
        exact absurd about (ready.unsent_item flight
          (List.mem_of_getElem? old) sent)
      · have bound := (List.getElem?_eq_some_iff.mp found).1
        simp only [recoveryView, World.perform, List.length_append,
          List.length_singleton] at bound ⊢
        omega
    · simp [recoveryView, World.perform]

theorem recovery_answer (item : Item) (expected target : Option RecordSet)
    (handle : Nat) :
    (recoveryView provider reconciler).Triple
      (RecoveryAt reconciler (.submitted item expected target handle))
      (.outcome handle) fun result => RecoveryAt reconciler
          (.answered item expected target result) := by
  rintro world fate - holds ⟨ready, intends, inFlight⟩
  simp only [recoveryView, World.perform]
  cases fate.fault with
  | some error =>
    have unmoved : Unmoved world (world.called ()) :=
      ⟨rfl, rfl, rfl, rfl, le_rfl⟩
    exact ⟨holds.unmoved unmoved holds.unfenced fun _ => .inl, trivial,
      ready.unmoved unmoved, intends, error.2⟩
  | none =>
    have delivered : RecoveryInvariant reconciler
        (world.deliver provider handle fate.ticket) := holds.deliver
    have unmoved : Unmoved (world.deliver provider handle fate.ticket)
        ((world.deliver provider handle fate.ticket).called ()) :=
      ⟨rfl, rfl, rfl, rfl, le_rfl⟩
    obtain ⟨arrived, given, found⟩ :=
      inFlight.deliver_own provider fate.ticket (holds.supported item.key)
    have answer : (world.deliver provider handle fate.ticket).answer handle =
        .ok given := by
      simp [World.answer, found]
    refine ⟨delivered.unmoved unmoved delivered.unfenced fun _ => .inl,
      trivial, ready.deliver.unmoved unmoved, intends, ?_⟩
    rw [answer]
    constructor
    · intro flight member sent about
      obtain ⟨index, stored⟩ := List.mem_iff_getElem?.mp member
      obtain rfl := arrived.alone index flight stored sent about
      cases found.symm.trans stored
      cases sent
    · obtain ⟨stored, storedFound, content⟩ := arrived.found
      obtain rfl : some (.ok given) = stored := by
        simpa using found.symm.trans storedFound
      exact content

theorem recovery_conclude {expected target : Option RecordSet}
    {result : Except DnsError ChangeTicket}
    (holds : RecoveryAt reconciler
      (.answered item expected target result) world) :
    RecoveryAt reconciler (.settled item.generation
      (reconciler.concludeChange item.desired expected target
        item.generation item.now item.state result).2 item.rest) world := by
  obtain ⟨ready, intends, answered⟩ := holds
  rcases result with error | ticket
  · cases error with
    | conflict reason => cases answered
    | rateLimited _ | auth _ | timeout | unsupported _ | provider _ =>
      exact ready
  · obtain ⟨unsent, same⟩ := answered
    cases ticket with
    | immediate =>
      exact ready.touch unsent touches_modify
        (agrees_completeChange (ready.consistent.agrees item.key) same)
    | route53 changeId =>
      obtain ⟨pending, found, _, _, rfl⟩ := intends
      exact ready.touch unsent touches_modify (agrees_withTicket found same)

variable (provider reconciler) in
def recoveryContract (compiled : CompiledDns) :
    Contract reconciler compiled (recoveryView provider reconciler) where
  At := RecoveryAt reconciler
  stable := recovery_stable
  load := by
    apply plain_triple rfl
    intro world fate _ flights _
    simp only [World.perform]
    cases fate.ioError with
    | some error => trivial
    | none => exact ⟨flights, rfl⟩
  generate := fun single state => recovery_generate single
  acquire := fun shared state => recovery_acquire shared
  trust := fun _ _ _ _ renews _ holds => recoveryAt_renewed renews holds
  renew := fun shared _ _ _ renews => recovery_renew shared renews
  clock := fun _ _ _ => plain_triple rfl fun _ _ _ settled unmoved =>
    recoveryAt_unmoved settled unmoved
  synced := by
    intro item changeId tracked
    apply plain_triple rfl
    intro world fate _ settled unmoved
    have kept : Ready reconciler item.generation item.state
        (item.desired :: item.rest) _ :=
      recoveryAt_unmoved settled unmoved
    generalize world.perform provider () (.changeSynced changeId) fate =
      answered at kept ⊢
    rcases answered with ⟨error | _ | _, later⟩
    · exact kept.tail
    · exact kept.tail
    · exact kept.touch kept.unsent_item touches_finishPending
        (agrees_finishTracked (kept.consistent.agrees item.key) tracked)
  read := by
    intro item _
    apply plain_triple rfl
    intro world fate _ settled unmoved
    have kept : Ready reconciler item.generation item.state
        (item.desired :: item.rest) _ :=
      recoveryAt_unmoved settled unmoved
    simp only [World.perform] at kept ⊢
    cases fault : fate.fault with
    | some error =>
      simp only [fault] at kept
      exact kept.tail
    | none =>
      simp only [fault] at kept
      exact ⟨kept, rfl⟩
  consider := recovery_consider
  rest := fun _ _ _ considered _ => recovery_rest considered
  save := by
    intro item observed expected target
    apply recovery_save
    · intro world holds
      have ready := ready_intend holds
      exact ⟨ready.consistent, ready.writes⟩
    · intro world later holds content flights generations counter file
      refine ⟨(ready_intend holds).congr content flights generations
        counter.ge, ⟨_, pending_withIntent .., rfl, rfl, rfl⟩, file, ?_⟩
      obtain ⟨_, rfl, rfl⟩ := holds
      rw [content]
      rfl
    · exact fun _ _ _ _ consistent writes => ⟨consistent, writes⟩
  submit := recovery_submit
  timers := fun _ _ _ _ => plain_triple rfl fun _ _ _ submitted unmoved =>
    recoveryAt_unmoved submitted unmoved
  answer := recovery_answer
  conclude := fun _ _ _ _ _ holds => recovery_conclude holds
  halt := fun _ _ _ _ _ holds => ⟨holds.1.consistent, holds.1.writes⟩
  finish := fun _ _ _ ready => ⟨ready.consistent, ready.writes⟩
  persist := fun _ _ => recovery_save (fun _ holds => holds)
    (fun _ _ _ _ _ _ _ _ => trivial) fun _ _ _ _ _ _ => trivial

theorem RecoveryInvariant.ended {later : World Unit}
    (holds : RecoveryInvariant reconciler world)
    (content : later.content = world.content) (flights : later.flights = [])
    (file : later.file = world.file) (unfenced : Unfenced reconciler later)
    (log : later.log = world.log) :
    RecoveryInvariant reconciler later where
  file := by
    rw [file]
    refine { agrees := ?_, intents := by simp [flights] }
    rw [content]
    exact holds.file.agrees
  supported := by
    rw [content]
    exact holds.supported
  unfenced := unfenced
  unopposed := by
    rw [log]
    exact holds.unopposed

variable (provider reconciler) in
def recoveryDiscipline : Discipline (soleWriter provider reconciler) where
  Invariant := RecoveryInvariant reconciler
  Rely := fun _ => Relation.ReflTransGen (Environs provider reconciler)
  Guarantee := fun _ _ _ => True
  Idle := fun _ world => world.flights = []
  After := fun _ _ _ => True
  rely_refl := fun _ _ => .refl
  rely_trans := fun _ _ _ _ => Relation.ReflTransGen.trans
  idle_stable := by
    intro _ world later idle relied
    induction relied with
    | refl => exact idle
    | tail _ step kept =>
      obtain ⟨holds, event, rfl⟩ := step
      exact (recovery_disturb event holds).2 .start kept
  guaranteed := fun different => absurd rfl different
  disturbed := fun event _ holds =>
    ⟨(recovery_disturb event holds).1, fun _ => .single ⟨holds, event, rfl⟩⟩
  started := fun _ compiled _ _ idle =>
    ((recoveryContract provider reconciler compiled).sat idle).mono fun _ _ _
      _ => trivial
  finished := by
    intro _ _ world holds _
    refine ⟨holds.ended rfl rfl rfl ?_ rfl, rfl,
      fun _ different => absurd rfl different⟩
    exact holds.unfenced.congr rfl rfl rfl rfl
  crashed := by
    intro _ world holds
    refine ⟨holds.ended rfl rfl rfl ?_ rfl, rfl,
      fun _ different => absurd rfl different⟩
    have fenced := holds.unfenced
    unfold Unfenced at fenced ⊢
    cases writer : reconciler.writer with
    | singleWriter => simp [soleWriter, World.crash]
    | valkey =>
      simp only [writer] at fenced
      exact fenced

end Contract

/-- Where a writer starts that has nothing to recover. -/
def unstarted :
    Machine.Config Unit Op Answer (List RecordOutcome) (World Unit) :=
  idle Unit fun _ => none

theorem recovery_unstarted (provider : AtomicProvider)
    (reconciler : Reconciler) :
    (recoveryDiscipline provider reconciler).Holds unstarted := by
  refine ⟨?_, fun _ => rfl⟩
  refine { file := ?_, supported := fun _ => rfl, unfenced := ?_,
           unopposed := by simp [unstarted, idle, World.initial] }
  · exact { agrees := fun _ => rfl,
            intents := by simp [unstarted, idle, World.initial] }
  · unfold Unfenced
    cases reconciler.writer with
    | singleWriter => simp [unstarted, idle, World.initial]
    | valkey => simp [unstarted, idle, World.initial, ProviderState.empty]

end SieveTube.Dns
