import SieveTube.Certificate.CrashSafety
import SieveTube.Valkey.Holding

/-!
# Coordinated certificate orders

Edges that share a certificate store order the certificate of a domain one at
a time: an attempt reads the newest generation, acquires the lease, orders,
checks that it still holds the lease, and stores the certificate under the
generation of its holding.  Every Edge may crash anywhere and start again
under its own name.
-/

namespace SieveTube.Acme

open Certificate Valkey

/-- `lease_resource`. -/
def leaseResource (domain : String) : String := "acme:" ++ domain

/-- What an attempt read from the store before it asked for the lease. -/
structure Plan where
  highest : Nat
  minGeneration : Nat
deriving DecidableEq

/-- How far an Edge is with its attempt. -/
inductive Phase where
  | idle
  | planned (plan : Plan)
  | leased (plan : Plan) (generation : Nat)
  | checked (plan : Plan) (generation : Nat)
  | leaving (generation : Nat)
deriving DecidableEq

structure Cluster where
  server : Valkey.Server
  directory : Directory
  phases : String → Phase

/-- The steps of the attempts.  An attempt ends early if the certificate is
not due any more or the order fails, and a store call that is cut off is a
crash. -/
inductive Event where
  | plan (edge : String) (readable : Bool)
  | acquire (edge : String) (reach : Reach)
  | giveUp (edge : String)
  | check (edge : String) (reach : Reach)
  | store (edge : String) (call : StoreCall)
  | release (edge : String) (reach : Reach)
  | crash (edge : String)
  | elsewhere (call : Call)

def Event.stores : Event → Bool
  | .store _ _ => true
  | _ => false

/-- The Edge that takes the step. -/
def Event.actor : Event → Option String
  | .plan edge _ | .acquire edge _ | .giveUp edge | .check edge _
  | .store edge _ | .release edge _ | .crash edge => some edge
  | .elsewhere _ => none

/-- The same store call for another generation. -/
def withGeneration (call : StoreCall) (generation : Nat) : StoreCall :=
  { call with request := { call.request with generation } }

namespace Cluster

def start : Cluster :=
  { server := .start, directory := .empty, phases := fun _ => .idle }

def setPhase (cluster : Cluster) (edge : String) (phase : Phase) : Cluster :=
  { cluster with phases := Function.update cluster.phases edge phase }

def call (cluster : Cluster) (call : Call) : Cluster :=
  { cluster with server := cluster.server.step call }

section Step

variable {Entry : Type}
variable (parseAndValidate :
  List UInt8 → List UInt8 → Int → Except String Entry)
variable (domain : String)

def step (cluster : Cluster) : Event → Cluster
  | .plan edge readable =>
    match cluster.phases edge with
    | .idle =>
      if readable then
        cluster.setPhase edge (.planned
          { highest := cluster.directory.highest
            minGeneration := cluster.directory.nextGeneration })
      else cluster
    | _ => cluster
  | .acquire edge reach =>
    match cluster.phases edge with
    | .planned plan =>
      match reach with
      | .unreachable => cluster.setPhase edge .idle
      | .answerLost =>
        (cluster.call (.acquireLease edge (leaseResource domain)
          plan.minGeneration)).setPhase edge .idle
      | .answered =>
        match (acquireLease edge (leaseResource domain)
            plan.minGeneration cluster.server.store).1 with
        | .ok (some generation) =>
          (cluster.call (.acquireLease edge (leaseResource domain)
            plan.minGeneration)).setPhase edge (.leased plan generation)
        | _ =>
          (cluster.call (.acquireLease edge (leaseResource domain)
            plan.minGeneration)).setPhase edge .idle
    | _ => cluster
  | .giveUp edge =>
    match cluster.phases edge with
    | .leased _ generation => cluster.setPhase edge (.leaving generation)
    | _ => cluster
  | .check edge reach =>
    match cluster.phases edge with
    | .leased plan generation =>
      if reach = .answered ∧ checkLease edge (leaseResource domain)
          generation cluster.server.store then
        cluster.setPhase edge (.checked plan generation)
      else cluster.setPhase edge (.leaving generation)
    | _ => cluster
  | .store edge call =>
    match cluster.phases edge with
    | .checked _ generation =>
      let call := withGeneration call generation
      { cluster with
        directory := call.apply parseAndValidate cluster.directory
        phases := Function.update cluster.phases edge
          (if call.cutOff.isSome then .idle else .leaving generation) }
    | _ => cluster
  | .release edge reach =>
    match cluster.phases edge with
    | .leaving generation =>
      match reach with
      | .unreachable => cluster.setPhase edge .idle
      | _ =>
        (cluster.call (.releaseLease edge
          (leaseResource domain) generation)).setPhase edge .idle
    | _ => cluster
  | .crash edge => cluster.setPhase edge .idle
  | .elsewhere call =>
    match call with
    | .acquireLease _ resource _ =>
      if resource = leaseResource domain then cluster
      else cluster.call call
    | _ => cluster.call call

/-- The cluster after a sequence of events. -/
def run (events : List Event) : Cluster :=
  Run.after (step parseAndValidate domain) start events

end Step

end Cluster

/-- What an attempt that read the store knows: if its Edge still holds a
lease, the generation of that holding is taken exactly if it was seen. -/
structure Tracks (cluster : Cluster) (resource edge : String)
    (highest : Nat) : Prop where
  known : highest = 0 ∨ HandedOut cluster.server.log resource highest
  taken : ∀ generation, Holds cluster.server.store resource edge generation →
    (Taken cluster.directory generation ↔ generation ≤ highest)

def PhaseHolds (cluster : Cluster) (resource edge : String) : Phase → Prop
  | .idle => True
  | .planned plan => Tracks cluster resource edge plan.highest
  | .leased plan generation =>
    Tracks cluster resource edge plan.highest ∧
      HandedTo cluster.server.log resource edge generation
  | .checked _ generation =>
    HandedTo cluster.server.log resource edge generation
  | .leaving _ => True

structure Consistent (cluster : Cluster) (resource : String) : Prop where
  ranked : Ranked cluster.server resource
  stored : ∀ number,
    (cluster.directory.generations.lookup number).isSome = true ∨
      cluster.directory.current = some number →
    HandedOut cluster.server.log resource number
  phases : ∀ edge, PhaseHolds cluster resource edge (cluster.phases edge)

section Invariant

variable {resource : String}

/-- A step that keeps what is taken, makes no one a holder and forgets
nothing. -/
structure Keeps (earlier later : Cluster) (resource edge : String) : Prop where
  log : earlier.server.log ⊆ later.server.log
  held : ∀ generation, Holds later.server.store resource edge generation →
    Holds earlier.server.store resource edge generation
  taken : ∀ generation, Holds earlier.server.store resource edge generation →
    (Taken later.directory generation ↔ Taken earlier.directory generation)

variable {earlier cluster : Cluster} {edge : String} {generation : Nat}
  {phase : Phase}

theorem handedTo_mono {earlier later : List (Call × Answer)}
    (log : earlier ⊆ later)
    (handed : HandedTo earlier resource edge generation) :
    HandedTo later resource edge generation := by
  obtain ⟨minGeneration, member⟩ := handed
  exact ⟨minGeneration, log member⟩

theorem handedOut_mono {earlier later : List (Call × Answer)}
    (log : earlier ⊆ later)
    (handedOut : HandedOut earlier resource generation) :
    HandedOut later resource generation := by
  obtain ⟨edge, handed⟩ := handedOut
  exact ⟨edge, handedTo_mono log handed⟩

theorem Tracks.later {later : Cluster}
    {highest : Nat} (tracks : Tracks earlier resource edge highest)
    (keeps : Keeps earlier later resource edge) :
    Tracks later resource edge highest where
  known := by
    rcases tracks.known with zero | handedOut
    · exact .inl zero
    · exact .inr (handedOut_mono keeps.log handedOut)
  taken := by
    intro generation held
    have before := keeps.held generation held
    rw [keeps.taken generation before]
    exact tracks.taken generation before

theorem PhaseHolds.later {later : Cluster}
    (holds : PhaseHolds earlier resource edge phase)
    (keeps : Keeps earlier later resource edge) :
    PhaseHolds later resource edge phase := by
  cases phase with
  | idle => trivial
  | planned plan => exact Tracks.later holds keeps
  | leased plan generation =>
    exact ⟨holds.1.later keeps, handedTo_mono keeps.log holds.2⟩
  | checked plan generation => exact handedTo_mono keeps.log holds
  | leaving generation => trivial

theorem Consistent.update {later : Cluster}
    (consistent : Consistent earlier resource)
    (ranked : Ranked later.server resource)
    (stored : ∀ number,
      (later.directory.generations.lookup number).isSome = true ∨
        later.directory.current = some number →
      HandedOut later.server.log resource number)
    (phases : later.phases = Function.update earlier.phases edge phase)
    (own : PhaseHolds later resource edge phase)
    (others : ∀ other, other ≠ edge → Keeps earlier later resource other) :
    Consistent later resource := by
  refine ⟨ranked, stored, ?_⟩
  intro other
  rw [phases]
  by_cases same : other = edge
  · subst other
    rw [Function.update_self]
    exact own
  · rw [Function.update_of_ne same]
    exact (consistent.phases other).later (others other same)

theorem keeps_setPhase {edge other : String} :
    Keeps cluster (cluster.setPhase edge phase) resource other :=
  ⟨List.Subset.refl _, fun _ => id, fun _ _ => Iff.rfl⟩

theorem Consistent.setPhase
    (consistent : Consistent cluster resource)
    (own : PhaseHolds cluster resource edge phase) :
    Consistent (cluster.setPhase edge phase) resource := by
  refine consistent.update consistent.ranked consistent.stored rfl ?_
    fun other _ => keeps_setPhase
  exact own.later keeps_setPhase

theorem keeps_call {call : Call} (spares : call.Spares resource) :
    Keeps cluster (cluster.call call) resource edge :=
  ⟨List.subset_cons_self _ _, fun _ => holds_before_step spares,
    fun _ _ => Iff.rfl⟩

theorem Consistent.call (consistent : Consistent cluster resource) {call : Call}
    (spares : call.Spares resource) :
    Consistent (cluster.call call) resource where
  ranked := consistent.ranked.spared spares
  stored := by
    intro number present
    exact handedOut_mono (List.subset_cons_self _ _)
      (consistent.stored number present)
  phases := by
    intro edge
    exact (consistent.phases edge).later (keeps_call spares)

theorem Consistent.le_of_stored (consistent : Consistent cluster resource)
    (held : Holds cluster.server.store resource edge generation)
    {number : Nat}
    (present : (cluster.directory.generations.lookup number).isSome = true ∨
        cluster.directory.current = some number) : number ≤ generation :=
  (consistent.ranked.holder edge generation held).2 number
    (consistent.stored number present)

theorem highest_cases (directory : Directory) : directory.highest = 0 ∨
      (directory.generations.lookup directory.highest).isSome = true ∨
      directory.current = some directory.highest := by
  unfold Directory.highest
  rcases Nat.le_total (directory.newestFirst.head?.getD 0)
      (directory.current.getD 0) with lower | higher
  · rw [Nat.max_eq_right lower]
    cases directory.current with
    | none => exact .inl rfl
    | some active => exact .inr (.inr rfl)
  · rw [Nat.max_eq_left higher]
    cases listed : directory.newestFirst with
    | nil => exact .inl rfl
    | cons newest rest =>
      refine .inr (.inl (Directory.mem_newestFirst.mp ?_))
      simp [listed]

section

variable (consistent : Consistent cluster resource)
include consistent

/-- What an Edge reads from the store says whether the generation of its
lease is taken. -/
theorem Consistent.tracks :
    Tracks cluster resource edge cluster.directory.highest where
  known := by
    rcases highest_cases cluster.directory with zero | present
    · exact .inl zero
    · exact .inr (consistent.stored _ present)
  taken := by
    intro generation held
    refine ⟨Directory.le_highest_of_taken, ?_⟩
    intro below
    have positive := consistent.ranked.positive generation
      (consistent.ranked.holder edge generation held).1.handedOut
    rcases highest_cases cluster.directory with zero | present
    · omega
    · have above := consistent.le_of_stored held present
      have same : cluster.directory.highest = generation := by omega
      rw [same] at present
      rcases present with present | current
      · exact .inl present
      · exact .inr ⟨generation, current, Nat.le_refl _⟩

theorem keeps_acquire (edge : String)
    (minGeneration : Nat) {other : String} (different : other ≠ edge)
    (phase : Phase) :
    Keeps cluster ((cluster.call (.acquireLease edge resource
      minGeneration)).setPhase edge phase) resource other := by
  refine ⟨List.subset_cons_self _ _, ?_, fun _ _ => Iff.rfl⟩
  intro generation held
  rcases consistent.ranked.acquire_cases edge minGeneration with
    ⟨-, -, same, -⟩ | ⟨store, -⟩ | ⟨number, -, granted, -⟩
  · exact holds_of_get_eq same held
  · exact holds_of_get_eq (congrArg
      (fun later => later.get (leaseKey resource)) store) held
  · have holder : Holds (cluster.server.step (.acquireLease edge resource
        minGeneration)).store resource edge number :=
      ⟨_, granted, splitLease_leaseText edge number⟩
    exact absurd (holder.inj held).1.symm different

/-- The generation an attempt gets is taken exactly if it was seen before. -/
theorem Consistent.tracks_acquired {plan : Plan}
    (tracks : Tracks cluster resource edge plan.highest)
    (answer : (acquireLease edge resource plan.minGeneration
      cluster.server.store).1 = .ok (some generation)) :
    PhaseHolds ((cluster.call (.acquireLease edge resource
      plan.minGeneration)).setPhase edge (.leased plan generation))
      resource edge (.leased plan generation) := by
  have handed : HandedTo (cluster.server.step (.acquireLease edge resource
      plan.minGeneration)).log resource edge generation := by
    refine ⟨plan.minGeneration, ?_⟩
    rw [← answer]
    exact List.mem_cons_self
  refine ⟨?_, handed⟩
  rcases consistent.ranked.acquire_cases edge plan.minGeneration with
    ⟨number, -, same, -⟩ | ⟨store, result, nothing, log⟩ |
    ⟨number, absent, granted, positive, above, log⟩
  · exact tracks.later ⟨List.subset_cons_self _ _,
      fun _ => holds_of_get_eq same, fun _ _ => Iff.rfl⟩
  · rw [Server.answer_of_log_step log] at answer
    exact absurd answer (nothing generation)
  · have holder : Holds (cluster.server.step (.acquireLease edge resource
        plan.minGeneration)).store resource edge number :=
      ⟨_, granted, splitLease_leaseText edge number⟩
    constructor
    · rcases tracks.known with zero | handedOut
      · exact .inl zero
      · exact .inr (handedOut_mono (List.subset_cons_self _ _) handedOut)
    · intro held holds
      obtain ⟨-, rfl⟩ := holder.inj holds
      have free : ¬ Taken cluster.directory number := by
        rintro (present | ⟨active, current, below⟩)
        · exact Nat.lt_irrefl _ (above number
            (consistent.stored number (.inl present)))
        · have lower := above active (consistent.stored active (.inr current))
          omega
      have unseen : ¬ number ≤ plan.highest := by
        rcases tracks.known with zero | handedOut
        · omega
        · exact Nat.not_le.mpr (above _ handedOut)
      exact iff_of_false free unseen

theorem Consistent.acquire {minGeneration : Nat}
    (own : PhaseHolds ((cluster.call (.acquireLease edge resource
      minGeneration)).setPhase edge phase) resource edge phase) :
    Consistent ((cluster.call (.acquireLease edge resource
      minGeneration)).setPhase edge phase) resource := by
  refine consistent.update consistent.ranked.acquired
    ?_ rfl own fun other different =>
      keeps_acquire consistent edge minGeneration different phase
  intro number present
  exact handedOut_mono (List.subset_cons_self _ _)
    (consistent.stored number present)

end

section Storing

variable {Entry : Type}
variable {parseAndValidate :
  List UInt8 → List UInt8 → Int → Except String Entry}

variable {request : Request} {directory : Directory}

theorem present_of_shrunk {number : Nat} {dir : GenerationDir}
    (shrunk : Shrunk (request.placed directory number) (some dir)) :
    number = request.generation ∨
      (directory.generations.lookup number).isSome = true := by
  cases placed : request.placed directory number with
  | none =>
    rw [placed] at shrunk
    exact shrunk.elim
  | some before =>
    rcases placed_eq_some placed with ⟨same, -⟩ | found
    · exact .inl same
    · exact .inr (by rw [found]; rfl)

section

variable {later : Directory}
  (reached : Reached parseAndValidate request directory later)
include reached

theorem stored_of_reached {number : Nat}
    (present : (later.generations.lookup number).isSome = true ∨
      later.current = some number) :
    number = request.generation ∨
      (directory.generations.lookup number).isSome = true ∨
      directory.current = some number := by
  cases reached with
  | untouched stage =>
    rw [stage.current, stage.generations] at present
    exact .inr present
  | renamed admissible stage =>
    rw [stage.current, stage.generations] at present
    rcases present with placed | current
    · obtain ⟨dir, found⟩ := Option.isSome_iff_exists.mp placed
      have shrunk := Shrunk.refl (request.placed directory number)
      nth_rewrite 2 [found] at shrunk
      exact (present_of_shrunk shrunk).imp_right .inl
    · exact .inr (.inr current)
  | switched admissible stage =>
    rcases present with kept | current
    · obtain ⟨dir, found⟩ := Option.isSome_iff_exists.mp kept
      have shrunk := stage.shrunk number
      rw [found] at shrunk
      exact (present_of_shrunk shrunk).imp_right .inl
    · rw [stage.current] at current
      exact .inl (Option.some.inj current).symm

theorem taken_of_reached {generation : Nat}
    (greater : request.generation < generation) :
    Taken later generation ↔ Taken directory generation := by
  have other : generation ≠ request.generation := Nat.ne_of_gt greater
  unfold Taken
  cases reached with
  | untouched stage => rw [stage.current, stage.generations]
  | renamed admissible stage =>
    rw [stage.current, stage.generations, Request.placed, if_neg other]
  | switched admissible stage =>
    have outside : generation ∉ (directory.older request.generation).drop
        (keptGenerations - 1) := fun member =>
      Nat.lt_asymm greater (Directory.lt_of_mem_drop member)
    rw [stage.kept generation outside, Request.placed,
      if_neg other, stage.current]
    refine or_congr_right ⟨?_, ?_⟩
    · rintro ⟨active, same, below⟩
      cases same
      omega
    · rintro ⟨active, current, below⟩
      have newer := admissible.newer active current
      omega

end

theorem Consistent.store {cluster : Cluster}
    (consistent : Consistent cluster resource) {edge : String}
    {call : StoreCall}
    (handed : HandedTo cluster.server.log resource edge call.request.generation)
    {phase : Phase} (own : ∀ later, PhaseHolds later resource edge phase) :
    Consistent
      { cluster with
        directory := call.apply parseAndValidate cluster.directory
        phases := Function.update cluster.phases edge phase } resource := by
  have reached : Reached parseAndValidate call.request cluster.directory
      (call.apply parseAndValidate cluster.directory) :=
    reached_apply
  refine consistent.update consistent.ranked ?_ rfl (own _) ?_
  · intro number present
    rcases stored_of_reached reached present with rfl | earlier
    · exact handed.handedOut
    · exact consistent.stored number earlier
  · intro other different
    refine ⟨List.Subset.refl _, fun _ => id, ?_⟩
    intro generation held
    obtain ⟨handedToo, topmost⟩ :=
      consistent.ranked.holder other generation held
    apply taken_of_reached reached
    refine Nat.lt_of_le_of_ne (topmost _ handed.handedOut) ?_
    intro same
    rw [same] at handed
    exact different (consistent.ranked.unique _ _ _ handedToo handed)

end Storing

end Invariant

section Run

variable {Entry : Type}
variable {parseAndValidate :
  List UInt8 → List UInt8 → Int → Except String Entry}
variable {domain : String}

section

variable (parseAndValidate) (resource : String)
variable (cluster : Cluster) (event : Event)

/-- What a step does to the cluster, with what its Edge knows afterwards. -/
inductive Moves : Cluster → Prop where
  | nowhere : Moves cluster
  | turned {edge : String} {phase : Phase} (acts : event.actor = some edge)
      (own : Consistent cluster resource →
        PhaseHolds cluster resource edge phase) :
      Moves (cluster.setPhase edge phase)
  | acquired {edge : String} {minGeneration : Nat} {phase : Phase}
      (acts : event.actor = some edge)
      (own : Consistent cluster resource →
        PhaseHolds ((cluster.call (.acquireLease edge resource
          minGeneration)).setPhase edge phase) resource edge phase) :
      Moves ((cluster.call (.acquireLease edge resource
        minGeneration)).setPhase edge phase)
  | released {edge : String} {call : Call} (acts : event.actor = some edge)
      (spares : call.Spares resource) :
      Moves ((cluster.call call).setPhase edge .idle)
  | stored {edge : String} {call : StoreCall} {phase : Phase}
      (acts : event.actor = some edge) (stores : event.stores = true)
      (handed : Consistent cluster resource →
        HandedTo cluster.server.log resource edge call.request.generation)
      (own : ∀ later, PhaseHolds later resource edge phase) :
      Moves
        { cluster with
          directory := call.apply parseAndValidate cluster.directory
          phases := Function.update cluster.phases edge phase }
  | called {call : Call} (spares : call.Spares resource) :
      Moves (cluster.call call)

end

theorem moves_step {cluster : Cluster} {event : Event} :
    Moves parseAndValidate (leaseResource domain) cluster event
      (cluster.step parseAndValidate domain event) := by
  cases event with
  | plan edge readable =>
    simp only [Cluster.step]
    split
    · split
      · exact .turned rfl fun consistent => consistent.tracks
      · exact .nowhere
    · exact .nowhere
  | acquire edge reach =>
    simp only [Cluster.step]
    split
    · next plan planned =>
      cases reach with
      | unreachable => exact .turned rfl fun _ => trivial
      | answerLost => exact .acquired rfl fun _ => trivial
      | answered =>
        dsimp only
        split
        · next generation answer =>
          refine .acquired rfl fun consistent => ?_
          have before := consistent.phases edge
          rw [planned] at before
          exact consistent.tracks_acquired before answer
        · exact .acquired rfl fun _ => trivial
    · exact .nowhere
  | giveUp edge =>
    simp only [Cluster.step]
    split
    · exact .turned rfl fun _ => trivial
    · exact .nowhere
  | check edge reach =>
    simp only [Cluster.step]
    split
    · next plan generation leased =>
      split
      · refine .turned rfl fun consistent => ?_
        have before := consistent.phases edge
        rw [leased] at before
        exact before.2
      · exact .turned rfl fun _ => trivial
    · exact .nowhere
  | store edge call =>
    simp only [Cluster.step]
    split
    · next plan generation checked =>
      refine .stored rfl rfl (fun consistent => ?_) fun later => ?_
      · have before := consistent.phases edge
        rw [checked] at before
        exact before
      · split <;> trivial
    · exact .nowhere
  | release edge reach =>
    simp only [Cluster.step]
    split
    · split
      · exact .turned rfl fun _ => trivial
      · exact .released rfl (by simp [Call.Spares])
    · exact .nowhere
  | crash edge => exact .turned rfl fun _ => trivial
  | elsewhere call =>
    simp only [Cluster.step]
    split
    · split
      · exact .nowhere
      · next other =>
        refine .called fun edge minGeneration same => ?_
        cases same
        exact other rfl
    · next other =>
      refine .called fun edge minGeneration same => ?_
      exact other edge _ minGeneration same

section

variable {resource : String} {cluster later : Cluster} {event : Event}
variable (moves : Moves parseAndValidate resource cluster event later)
include moves

theorem Moves.consistent (consistent : Consistent cluster resource) :
    Consistent later resource := by
  cases moves with
  | nowhere => exact consistent
  | turned _ own => exact consistent.setPhase (own consistent)
  | acquired _ own => exact consistent.acquire (own consistent)
  | released _ spares => exact (consistent.call spares).setPhase trivial
  | stored _ _ handed own => exact consistent.store (handed consistent) own
  | called spares => exact consistent.call spares

theorem Moves.directory (quiet : event.stores = false) :
    later.directory = cluster.directory := by
  cases moves with
  | stored _ stores => cases stores.symm.trans quiet
  | _ => rfl

variable {other : String} (different : event.actor ≠ some other)
include different

/-- Only the Edge of the step goes on. -/
theorem Moves.phases : later.phases other = cluster.phases other := by
  cases moves with
  | nowhere | called => rfl
  | turned acts | acquired acts | released acts | stored acts =>
    exact Function.update_of_ne
      (fun same => different (acts.trans (congrArg some same.symm))) ..

/-- A step makes nobody but its Edge a holder. -/
theorem Moves.held (consistent : Consistent cluster resource) {generation : Nat}
    (held : Holds later.server.store resource other generation) :
    Holds cluster.server.store resource other generation := by
  cases moves with
  | nowhere | turned | stored => exact held
  | acquired acts =>
    have apart : other ≠ _ :=
      fun same => different (acts.trans (congrArg some same.symm))
    exact (keeps_acquire consistent _ _ apart _).held generation held
  | released _ spares | called spares =>
    exact (keeps_call spares).held generation held

end

theorem consistent_run (events : List Event) :
    Consistent (Cluster.run parseAndValidate domain events)
      (leaseResource domain) := by
  apply Run.invariant (motive := fun cluster : Cluster =>
    Consistent cluster (leaseResource domain))
  · constructor
    · exact ranked_start
    · rintro number (present | current)
      · cases present
      · cases current
    · intro edge
      trivial
  · intro cluster event consistent
    exact moves_step.consistent consistent

theorem directory_after {events : List Event}
    (none : ∀ event ∈ events, event.stores = false) :
    (Run.after (Cluster.step parseAndValidate domain) cluster
      events).directory = cluster.directory := by
  induction events generalizing cluster with
  | nil => rfl
  | cons event events ih =>
    simp only [List.forall_mem_cons] at none
    exact (ih none.2).trans (moves_step.directory none.1)

/-- The file system when nothing fails. -/
def smoothView : View Op Certificate.Answer Fate Directory where
  perform := Certificate.perform
  Allowed := fun fate => fate.succeeds = true
  Invariant := fun _ => True
  Rely := Eq
  Guarantee := fun _ _ => True
  rely_refl := fun _ => rfl
  rely_trans := Eq.trans

variable {directory : Directory}

theorem smooth_read {op : Op} {Value : Type}
    {next : Certificate.Answer op → StoreM Value}
    {After : Except StoreError Value → Directory → Prop}
    {answer : Certificate.Answer op}
    (answers : ∀ fate : Fate, fate.succeeds = true →
      Certificate.perform op fate directory = (answer, directory))
    (rest : Program.Sat smoothView After (next answer) directory) :
    Program.Sat smoothView After
      (liftM (Certificate.call op) >>= next : StoreM Value) directory := by
  apply Program.sat_bind_lift
  rintro later rfl _ fate succeeds
  refine ⟨trivial, trivial, ?_⟩
  rintro final rfl _
  show Program.Sat smoothView After
    (next (Certificate.perform op fate directory).1)
    (Certificate.perform op fate directory).2
  rw [answers fate succeeds]
  exact rest

theorem smooth_must {action : Action} {Value : Type}
    {next : Unit → StoreM Value}
    {After : Except StoreError Value → Directory → Prop}
    (answers : ∀ fate : Fate, fate.succeeds = true →
      act action fate directory = (true, directory))
    (rest : Program.Sat smoothView After (next ()) directory) :
    Program.Sat smoothView After (must action >>= next : StoreM Value)
      directory := by
  unfold must
  have read : Program.Sat smoothView After
      (liftM (Certificate.call (.act action)) >>= fun ok : Bool =>
        (if ok then pure () else throw .io) >>= next : StoreM Value)
      directory := smooth_read answers (by simpa using rest)
  exact read

/-- A store call that meets no failure refuses a generation that is taken. -/
theorem refused_of_taken {call : StoreCall}
    (taken : Taken directory call.request.generation)
    (valid : ∃ entry, parseAndValidate call.request.cert call.request.key
      call.request.now = .ok entry)
    (smooth : ∀ index, (call.fates index).succeeds = true) :
    ∃ error, call.result parseAndValidate directory = .error error ∧
      error.refusal = true := by
  have judged : Program.Sat smoothView (fun result _ =>
      ∃ error, result = .error error ∧ error.refusal = true)
      (store parseAndValidate call.request) directory := by
    obtain ⟨entry, valid⟩ := valid
    have refusal : ∀ error, error.refusal = true →
        Program.Sat smoothView (fun result _ =>
          ∃ error, result = .error error ∧ error.refusal = true)
          (.done (.error error : Except StoreError (Nat × Entry)))
          directory := by
      rintro error refuses later rfl _
      exact ⟨error, rfl, refuses⟩
    have present : ∀ next : Unit → StoreM (Nat × Entry),
        (directory.generations.lookup call.request.generation).isSome = true →
        Program.Sat smoothView (fun result _ =>
          ∃ error, result = .error error ∧ error.refusal = true)
          (checkAbsent call.request.generation >>= next : StoreM (Nat × Entry))
            directory := by
      intro next present
      unfold checkAbsent
      apply smooth_read fun fate succeeds => by
        simp only [Certificate.perform, succeeds, present, Bool.and_true]
        rfl
      exact refusal .alreadyExists rfl
    unfold store Request.validate
    rw [valid]
    apply smooth_must fun fate succeeds => by simp [act, succeeds]
    apply smooth_must fun fate succeeds => by simp [act, succeeds]
    unfold checkCurrent
    rw [bind_assoc]
    apply smooth_read fun fate succeeds => by
      simp only [Certificate.perform, succeeds, if_true]
      rfl
    cases current : directory.current with
    | none =>
      apply present
      rcases taken with present | ⟨active, found, -⟩
      · exact present
      · cases current.symm.trans found
    | some active =>
      by_cases below : call.request.generation ≤ active
      · simp only [below, if_true]
        exact refusal (.stale active) rfl
      · simp only [below, if_false]
        apply present
        rcases taken with present | ⟨other, found, taken⟩
        · exact present
        · cases current.symm.trans found
          exact absurd taken below
  exact (judged.run smooth trivial).2

/-- An attempt that passes the lease check stores its certificate, if nobody
stores in between, exactly if the generation of its holding is above all
generations that it found in the store when it asked for the lease. -/
theorem certificate_storable_iff (before middle : List Event)
    (edge : String) (plan : Plan) (generation : Nat) (call : StoreCall)
    (leased : (Cluster.run parseAndValidate domain before).phases edge =
      .leased plan generation)
    (passes : checkLease edge (leaseResource domain) generation
      (Cluster.run parseAndValidate domain before).server.store = true)
    (alone : ∀ event ∈ middle, event.stores = false)
    (valid : ∃ entry, parseAndValidate call.request.cert call.request.key
      call.request.now = .ok entry) :
    (∀ fates error, (withGeneration { call with fates } generation).result
        parseAndValidate (Cluster.run parseAndValidate domain
          (before ++ .check edge .answered :: middle)).directory =
            .error error →
      error.refusal = false) ↔ plan.highest < generation := by
  have consistent : Consistent (Cluster.run parseAndValidate domain before)
      (leaseResource domain) := consistent_run before
  have own := consistent.phases edge
  rw [leased] at own
  have same : (Cluster.run parseAndValidate domain
      (before ++ .check edge .answered :: middle)).directory =
        (Cluster.run parseAndValidate domain before).directory := by
    have quiet : ∀ event ∈ Event.check edge .answered :: middle,
        event.stores = false := by
      simpa [Event.stores] using alone
    unfold Cluster.run Run.after
    rw [List.foldl_append]
    exact directory_after quiet
  have seen := own.1.taken generation (holds_of_checkLease passes)
  rw [same, ← Nat.not_le, ← seen]
  constructor
  · intro accepted taken
    let smooth : Nat → Fate :=
      fun _ => { succeeds := true, written := none, reversed := false }
    have refused : ∃ error, (withGeneration { call with fates := smooth }
        generation).result parseAndValidate _ = .error error ∧
          error.refusal = true :=
      refused_of_taken taken valid fun _ => rfl
    obtain ⟨error, failed, refuses⟩ := refused
    rw [accepted smooth error failed] at refuses
    cases refuses
  · intro free fates error failed
    cases refuses : error.refusal with
    | false => rfl
    | true => exact absurd (taken_of_refused failed refuses) free

end Run

/-- Every certificate is valid. -/
def acceptsAll : List UInt8 → List UInt8 → Int → Except String Unit :=
  fun _ _ _ => .ok ()

/-- An Edge that finds an empty store and an unused lease. -/
theorem certificate_storable_iff_first :
    let events : List Event :=
      [.plan "edge-1" true, .acquire "edge-1" .answered]
    (Cluster.run acceptsAll "example.com" events).phases "edge-1" =
        .leased { highest := 0, minGeneration := 1 } 1 ∧
      ∀ fates error, (withGeneration { smoothCall 0 with fates } 1).result
        acceptsAll (Cluster.run acceptsAll "example.com"
            (events ++ [.check "edge-1" .answered])).directory = .error error →
        error.refusal = false := by
  have leased : (Cluster.run acceptsAll "example.com" [.plan "edge-1" true,
      .acquire "edge-1" .answered]).phases "edge-1" =
        .leased { highest := 0, minGeneration := 1 } 1 := by
    decide +kernel
  refine ⟨leased, ?_⟩
  exact (certificate_storable_iff _ [] "edge-1" _ 1 (smoothCall 0) leased
    (by decide +kernel) (by simp) ⟨(), rfl⟩).mpr (by decide)

/-- An Edge that crashes between the rename of its generation and the update
of the pointer, starts again while its lease is live, and orders once more. -/
theorem restarted_holder_refused :
    let events : List Event :=
      [.plan "edge-1" true, .acquire "edge-1" .answered,
        .check "edge-1" .answered,
        .store "edge-1" { smoothCall 0 with cutOff := some 8 },
        .plan "edge-1" true, .acquire "edge-1" .answered]
    (Cluster.run acceptsAll "example.com" events).phases "edge-1" =
        .leased { highest := 1, minGeneration := 2 } 1 ∧
      checkLease "edge-1" (leaseResource "example.com") 1
        (Cluster.run acceptsAll "example.com" events).server.store = true ∧
      (withGeneration (smoothCall 0) 1).result acceptsAll
        (Cluster.run acceptsAll "example.com"
          (events ++ [.check "edge-1" .answered])).directory =
            .error .alreadyExists := by
  decide +kernel

end SieveTube.Acme
