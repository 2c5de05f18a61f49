import SieveTube.Dns.Contract

/-!
# What a pass works against

The world of one provider: its record sets and the changes under way, the
state file, the writer lease and the memory of each Edge process.  A fate
fixes the choices that are not made by the program: how long calls take, which
of them fail, and whether a failed write took effect.  The log, newest event
first, only serves to state properties.
-/

namespace SieveTube.Dns

/-- A provider whose conditional change is one atomic step.  An error is the
reason of a conflict. -/
structure AtomicProvider where
  replace : RecordType → Option Observed → Option RecordSet →
    Option RecordSet → Except String (Option Observed)
  expected_of_ok : ∀ {recordType current expected desired next},
    replace recordType current expected desired = .ok next →
      sameOptional (current.map (·.set)) expected
  desired_of_ok : ∀ {recordType current expected desired next},
    replace recordType current expected desired = .ok next →
      sameOptional (next.map (·.set)) desired ∧ next.bind (·.unsupported) = none
  ok_of_expected : ∀ {current : Option Observed} {expected}
    (recordType desired), current.bind (·.unsupported) = none →
      sameOptional (current.map (·.set)) expected →
      ∃ next, replace recordType current expected desired = .ok next

namespace MemoryProvider

/-- The set that is stored for a desired one. -/
def stored (recordType : RecordType) (current : Option Observed)
    (desired : RecordSet) : RecordSet :=
  if desired.proxied.isNone && recordType ≠ .txt then
    { desired with
      proxied := (current.bind (·.set.proxied)).or (some false) }
  else desired

def replace (recordType : RecordType) (current : Option Observed)
    (expected desired : Option RecordSet) :
    Except String (Option Observed) :=
  match current.bind (·.unsupported) with
  | some reason => .error reason
  | none =>
    if sameOptional (current.map (·.set)) expected then
      .ok (desired.map fun set =>
        { set := stored recordType current set, unsupported := none })
    else .error "record set changed at the provider"

theorem stored_sameData {recordType : RecordType}
    {current : Option Observed} {desired : RecordSet} :
    (stored recordType current desired).sameData desired := by
  unfold stored
  split
  · next filled =>
    have unspecified : desired.proxied = none := by
      simp only [Bool.and_eq_true, Option.isNone_iff_eq_none] at filled
      exact filled.1
    rw [RecordSet.sameData_iff]
    refine ⟨rfl, rfl, rfl, rfl, ?_⟩
    rw [unspecified]
    simp [sameProxied]
  · exact RecordSet.sameData_refl desired

theorem replace_eq_ok {recordType : RecordType} {current : Option Observed}
    {expected desired : Option RecordSet} {next : Option Observed} :
    replace recordType current expected desired = .ok next ↔
      current.bind (·.unsupported) = none ∧
        sameOptional (current.map (·.set)) expected ∧
        next = desired.map fun set =>
          { set := stored recordType current set, unsupported := none } := by
  unfold replace
  cases current.bind (·.unsupported) with
  | some reason => simp
  | none =>
    by_cases same : sameOptional (current.map (·.set)) expected
    · simp [same, eq_comm]
    · simp [same]

/-- The in-memory provider changes a record set in one step. -/
def atomic : AtomicProvider where
  replace := replace
  expected_of_ok := fun accepted => (replace_eq_ok.mp accepted).2.1
  desired_of_ok := by
    intro recordType current expected desired next accepted
    obtain ⟨_, _, rfl⟩ := replace_eq_ok.mp accepted
    cases desired with
    | none => simp [sameOptional]
    | some set =>
      exact ⟨by simpa [sameOptional] using stored_sameData, rfl⟩
  ok_of_expected :=
    fun _ _ supported same => ⟨_, replace_eq_ok.mpr ⟨supported, same, rfl⟩⟩

end MemoryProvider

def Request.key (request : Request) : String :=
  recordKey request.name request.recordType

/-- A change sent to the provider, with the answer once it was carried
out. -/
structure Flight where
  request : Request
  answer : Option (Except String ChangeTicket)

inductive Event (Edge : Type) where
  | read (key : String) (observed : Option Observed)
  | considered (decision : Considered)
  | acquired (edge : Edge) (current : Bool)
  | saved (edge : Edge) (state : ProviderState) (current : Bool)
      (renewal : Option Bool)
  | submitted (request : Request)
  | executed (request : Request) (before : Option Observed)

/-- `base` is the version of the state file an Edge's copy derives from.
`renewal` is set while the last call of an Edge was a successful renewal and
then tells whether the lease has expired since. -/
structure World (Edge : Type) where
  content : String → Option Observed
  synced : List String
  flights : List Flight
  file : ProviderState
  version : Nat
  base : Edge → Nat
  generations : Edge → Option Nat
  lease : Option (Edge × Nat)
  counter : Nat
  renewal : Edge → Option Bool
  log : List (Event Edge)

structure Fate where
  now : Int
  timers : Nat
  ioError : Option String
  effective : Bool
  fault : Option { error : DnsError // error.isConflict = false }
  ticket : ChangeTicket

/-- What happens without a pass doing it. -/
inductive Disturbance where
  | edit (key : String) (content : Option Observed)
  | deliver (handle : Nat) (ticket : ChangeTicket)
  | sync (changeId : String)
  | expire

namespace World

variable {Edge : Type} [DecidableEq Edge]

/-- Nothing is managed yet. -/
def initial (content : String → Option Observed) : World Edge :=
  { content
    synced := []
    flights := []
    file := .empty
    version := 0
    base := fun _ => 0
    generations := fun _ => none
    lease := none
    counter := 0
    renewal := fun _ => none
    log := [] }

/-- Any call of an Edge ends the time right after its renewal. -/
def called (edge : Edge) (world : World Edge) : World Edge :=
  { world with renewal := Function.update world.renewal edge none }

/-- The provider carries out a change that was sent to it. -/
def deliver (provider : AtomicProvider) (handle : Nat)
    (ticket : ChangeTicket) (world : World Edge) : World Edge :=
  match world.flights[handle]? with
  | some ⟨request, none⟩ =>
    match provider.replace request.recordType
        (world.content request.key) request.expected request.desired with
    | .error reason =>
      { world with
        flights := world.flights.set handle ⟨request, some (.error reason)⟩ }
    | .ok next =>
      { world with
        content := Function.update world.content request.key next
        flights := world.flights.set handle ⟨request, some (.ok ticket)⟩
        log := .executed request (world.content request.key) :: world.log }
  | _ => world

omit [DecidableEq Edge] in
/-- A delivery does nothing, is refused, or replaces the content. -/
theorem deliver_cases (provider : AtomicProvider) (handle : Nat)
    (ticket : ChangeTicket) (world : World Edge) :
    world.deliver provider handle ticket = world ∨
      ∃ request, world.flights[handle]? = some ⟨request, none⟩ ∧
        ((∃ reason, provider.replace request.recordType
          (world.content request.key)
              request.expected request.desired = .error reason ∧
            world.deliver provider handle ticket =
              { world with
                flights := world.flights.set handle
                  ⟨request, some (.error reason)⟩ }) ∨
          ∃ next, provider.replace request.recordType
            (world.content request.key)
                request.expected request.desired = .ok next ∧
              world.deliver provider handle ticket =
                { world with
                  content := Function.update world.content request.key next
                  flights := world.flights.set handle
                    ⟨request, some (.ok ticket)⟩
                  log := .executed request (world.content request.key) ::
                    world.log }) := by
  unfold deliver
  split
  · next request found =>
    right
    refine ⟨request, found, ?_⟩
    split
    · next reason refused => exact .inl ⟨reason, refused, rfl⟩
    · next next accepted => exact .inr ⟨next, accepted, rfl⟩
  · exact .inl rfl

/-- The script that takes or extends the lease. -/
def leaseScript (edge : Edge) (minGeneration : Nat) (world : World Edge) :
    Option Nat × World Edge :=
  match world.lease with
  | some (owner, generation) =>
    if owner = edge then (some generation, world) else (none, world)
  | none =>
    let generation := max (world.counter + 1) minGeneration
    (some generation,
      { world with lease := some (edge, generation), counter := generation })

/-- A call of the script whose answer may get lost. -/
def callLease (edge : Edge) (minGeneration : Nat) (fate : Fate)
    (world : World Edge) : Except String (Option Nat) × World Edge :=
  match fate.ioError with
  | none =>
    let granted := world.leaseScript edge minGeneration
    (.ok granted.1, granted.2)
  | some error =>
    (.error error,
      if fate.effective then (world.leaseScript edge minGeneration).2
      else world)

def acquire (edge : Edge) (minGeneration : Nat) (fate : Fate)
    (world : World Edge) : Except String (Option Nat) × World Edge :=
  match (world.called edge).callLease edge minGeneration fate with
  | (.ok (some generation), world) =>
    (.ok (some generation),
      { world with
        log := .acquired edge (world.base edge == world.version) :: world.log })
  | other => other

def renew (edge : Edge) (generation : Nat) (fate : Fate)
    (world : World Edge) : Except String (Option Nat) × World Edge :=
  match (world.called edge).callLease edge generation fate with
  | (.ok (some renewed), world) =>
    (.ok (some renewed),
      if renewed = generation then
        { world with
          renewal := Function.update world.renewal edge (some false) }
      else world)
  | other => other

/-- The state file is replaced. -/
def save (edge : Edge) (state : ProviderState) (world : World Edge) :
    World Edge :=
  { world with
    file := state
    version := world.version + 1
    base := Function.update world.base edge (world.version + 1)
    log := .saved edge state (world.base edge == world.version)
      (world.renewal edge) :: world.log }

def expire (world : World Edge) : World Edge :=
  match world.lease with
  | none => world
  | some (owner, _) =>
    { world with
      lease := none
      renewal := Function.update world.renewal owner
        ((world.renewal owner).map fun _ => true) }

def disturb (provider : AtomicProvider) : Disturbance → World Edge → World Edge
  | .edit key content, world =>
    { world with content := Function.update world.content key content }
  | .deliver handle ticket, world => world.deliver provider handle ticket
  | .sync changeId, world =>
    { world with synced := changeId :: world.synced }
  | .expire, world => world.expire

/-- The answer of the provider to a change, if it reaches the Edge. -/
def answer (handle : Nat) (world : World Edge) :
    Except DnsError ChangeTicket :=
  match world.flights[handle]? with
  | some ⟨_, some (.ok ticket)⟩ => .ok ticket
  | some ⟨_, some (.error reason)⟩ => .error (.conflict reason)
  | _ => .error .timeout

omit [DecidableEq Edge] in
theorem answer_eq_ok {handle : Nat} {world : World Edge}
    {ticket : ChangeTicket} (accepted : world.answer handle = .ok ticket) :
    ∃ request, world.flights[handle]? = some ⟨request, some (.ok ticket)⟩ := by
  unfold answer at accepted
  split at accepted
  · next request stored found =>
    obtain rfl : stored = ticket := by simpa using accepted
    exact ⟨request, found⟩
  · cases accepted
  · cases accepted

def perform (provider : AtomicProvider) (edge : Edge) (world : World Edge) :
    (op : Op) → Fate → Answer op × World Edge
  | .loadState, fate =>
    match fate.ioError with
    | some error => (.error error, world.called edge)
    | none =>
      (.ok world.file,
        { world.called edge with
          base := Function.update world.base edge world.version })
  | .writerGeneration initial, _ =>
    let generation := (world.generations edge).getD initial
    (generation,
      { world.called edge with
        generations := Function.update world.generations edge
          (some generation) })
  | .acquireLease minGeneration, fate => world.acquire edge minGeneration fate
  | .renewLease generation, fate => world.renew edge generation fate
  | .nowUnix, fate => (fate.now, world.called edge)
  | .changeSynced changeId, fate =>
    match fate.fault with
    | some error => (.error error.1, world.called edge)
    | none => (.ok (world.synced.contains changeId), world.called edge)
  | .get name recordType, fate =>
    match fate.fault with
    | some error => (.error error.1, world.called edge)
    | none =>
      let key := recordKey name recordType
      (.ok (world.content key),
        { world.called edge with
          log := .read key (world.content key) :: world.log })
  | .considered decision, _ =>
    ((), { world.called edge with
      log := .considered decision :: world.log })
  | .saveState state, fate =>
    match fate.ioError with
    | none => (.ok (), (world.save edge state).called edge)
    | some error =>
      (.error error,
        if fate.effective then (world.save edge state).called edge
        else world.called edge)
  | .replace request, _ =>
    (world.flights.length,
      { world.called edge with
        flights := world.flights ++ [⟨request, none⟩]
        log := .submitted request :: world.log })
  | .timers, fate => (fate.timers, world.called edge)
  | .outcome handle, fate =>
    match fate.fault with
    | some error => (.error error.1, world.called edge)
    | none =>
      let world := world.deliver provider handle fate.ticket
      (world.answer handle, world.called edge)

/-- A call of the lease script touches the lease only: it leaves it alone or
takes it, if it is free, under a generation that was never granted. -/
theorem callLease_cases (edge : Edge) (minGeneration : Nat) (fate : Fate)
    (world : World Edge) :
    ∃ answer lease counter, world.callLease edge minGeneration fate =
        (answer, { world with lease := lease, counter := counter }) ∧
      ((lease = world.lease ∧ counter = world.counter) ∨
        (world.lease = none ∧ world.counter < counter ∧
          lease = some (edge, counter))) ∧
      ∀ generation, answer = .ok (some generation) →
      lease = some (edge, generation) := by
  have script : ∃ lease counter, (world.leaseScript edge minGeneration).2 =
        { world with lease := lease, counter := counter } ∧
      ((lease = world.lease ∧ counter = world.counter) ∨
        (world.lease = none ∧ world.counter < counter ∧
          lease = some (edge, counter))) ∧
      ∀ generation, (world.leaseScript edge minGeneration).1 = some generation →
          lease = some (edge, generation) := by
    unfold leaseScript
    cases held : world.lease with
    | none =>
      refine ⟨_, _, rfl, .inr ⟨rfl, ?_, rfl⟩, ?_⟩
      · exact Nat.lt_of_lt_of_le (Nat.lt_succ_self _) (Nat.le_max_left _ _)
      · intro generation granted
        simp only [Option.some.injEq] at granted
        rw [granted]
    | some holder =>
      refine ⟨world.lease, world.counter, ?_, .inl ⟨held, rfl⟩, ?_⟩
      · simp only
        split <;> rfl
      · intro generation granted
        simp only at granted
        split at granted
        · next own =>
          rw [held, ← own]
          simpa [Prod.ext_iff] using granted
        · cases granted
  obtain ⟨lease, counter, scriptEq, changed, granted⟩ := script
  unfold callLease
  split
  · refine ⟨_, lease, counter, by simp only [scriptEq]; rfl, changed, ?_⟩
    intro generation answered
    exact granted generation (by simpa using answered)
  · split
    · exact ⟨_, lease, counter, by rw [scriptEq], changed, by simp⟩
    · exact ⟨_, world.lease, world.counter, rfl, .inl ⟨rfl, rfl⟩, by simp⟩

/-- The process of an Edge is restarted. -/
def crash (edge : Edge) (world : World Edge) : World Edge :=
  { world.called edge with
    generations := Function.update world.generations edge none }

end World

def Event.isChange {Edge : Type} : Event Edge → Bool
  | .saved _ _ _ _ => true
  | .submitted _ => true
  | .executed _ _ => true
  | _ => false

/-- Neither the provider nor the state file is touched. -/
structure Quiet {Edge : Type} (world later : World Edge) : Prop where
  content : later.content = world.content
  synced : later.synced = world.synced
  flights : later.flights = world.flights
  file : later.file = world.file
  version : later.version = world.version
  log : ∃ events, later.log = events ++ world.log ∧ ∀ event ∈ events,
    event.isChange = false

def Op.isQuiet : Op → Bool
  | .saveState _ => false
  | .replace _ => false
  | .outcome _ => false
  | _ => true

section Quiet

variable {Edge : Type}

theorem quiet_of_log_eq {world later : World Edge}
    (content : later.content = world.content)
    (synced : later.synced = world.synced)
    (flights : later.flights = world.flights)
    (file : later.file = world.file)
    (version : later.version = world.version)
    (log : later.log = world.log) : Quiet world later :=
  { content, synced, flights, file, version,
    log := ⟨[], by simpa using log, by simp⟩ }

theorem quiet_of_log_cons {world later : World Edge} {event : Event Edge}
    (content : later.content = world.content)
    (synced : later.synced = world.synced)
    (flights : later.flights = world.flights)
    (file : later.file = world.file)
    (version : later.version = world.version)
    (log : later.log = event :: world.log)
    (unchanged : event.isChange = false) : Quiet world later :=
  { content, synced, flights, file, version,
    log := ⟨[event], by simpa using log, by simpa using unchanged⟩ }

variable [DecidableEq Edge]

theorem quiet_acquire (edge : Edge) (minGeneration : Nat) (fate : Fate)
    (world : World Edge) :
    Quiet world (world.acquire edge minGeneration fate).2 := by
  obtain ⟨answer, lease, counter, called, _⟩ :=
    (world.called edge).callLease_cases edge minGeneration fate
  unfold World.acquire
  rw [called]
  rcases answer with error | _ | generation
  · exact quiet_of_log_eq rfl rfl rfl rfl rfl rfl
  · exact quiet_of_log_eq rfl rfl rfl rfl rfl rfl
  · exact quiet_of_log_cons rfl rfl rfl rfl rfl rfl rfl

theorem quiet_renew {edge : Edge} {generation : Nat} {fate : Fate}
    {world : World Edge} :
    Quiet world (world.renew edge generation fate).2 := by
  obtain ⟨answer, lease, counter, called, _⟩ :=
    (world.called edge).callLease_cases edge generation fate
  unfold World.renew
  rw [called]
  rcases answer with error | _ | renewed
  · exact quiet_of_log_eq rfl rfl rfl rfl rfl rfl
  · exact quiet_of_log_eq rfl rfl rfl rfl rfl rfl
  · simp only
    split <;> exact quiet_of_log_eq rfl rfl rfl rfl rfl rfl

theorem quiet_perform (provider : AtomicProvider) (edge : Edge) {op : Op}
    (quiet : op.isQuiet = true) (fate : Fate) (world : World Edge) :
    Quiet world (world.perform provider edge op fate).2 := by
  cases op with
  | saveState _ | replace _ | outcome _ => cases quiet
  | acquireLease minGeneration =>
    exact quiet_acquire edge minGeneration fate world
  | renewLease generation => exact quiet_renew
  | considered decision => exact quiet_of_log_cons rfl rfl rfl rfl rfl rfl rfl
  | get name recordType =>
    simp only [World.perform]
    split
    · exact quiet_of_log_eq rfl rfl rfl rfl rfl rfl
    · exact quiet_of_log_cons rfl rfl rfl rfl rfl rfl rfl
  | loadState | changeSynced _ =>
    simp only [World.perform]
    split <;> exact quiet_of_log_eq rfl rfl rfl rfl rfl rfl
  | writerGeneration _ | nowUnix | timers =>
    exact quiet_of_log_eq rfl rfl rfl rfl rfl rfl

end Quiet

/-- Edges that reconcile one provider over a shared state file. -/
def edges (Edge : Type) [DecidableEq Edge] (provider : AtomicProvider)
    (reconciler : Reconciler) :
    Machine Edge CompiledDns Disturbance Op Answer Fate (List RecordOutcome)
      (World Edge) where
  perform := fun edge op fate world => world.perform provider edge op fate
  disturb := World.disturb provider
  program := fun _ compiled => reconciler.reconcileProvider compiled
  finish := fun _ world => world
  crash := World.crash

/-- The Edges before their first pass. -/
def idle (Edge : Type) (content : String → Option Observed) :
    Machine.Config Edge Op Answer (List RecordOutcome) (World Edge) :=
  { world := World.initial content, running := fun _ => none }

end SieveTube.Dns
