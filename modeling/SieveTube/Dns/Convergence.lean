import Mathlib.Order.Filter.AtTopBot.Basic
import Mathlib.Order.Filter.Finite
import SieveTube.Dns.Progress

/-!
# Uninterrupted passes converge

Passes over one configuration that are not interrupted reach every configured
record once the provider reports their changes as synced.  From then on they
have nothing to send.
-/

namespace SieveTube.Dns

/-- A pass that runs to its end, some time after the world was as given. -/
def Uninterrupted (provider : AtomicProvider) (reconciler : Reconciler)
    (compiled : CompiledDns) (world later : World Unit) : Prop :=
  ∃ (events : List Internal) (outcomes : List RecordOutcome)
    (final : World Unit), Program.Completes (smoothView provider reconciler)
      (fun event : Calm => World.disturb provider event.1)
      (reconciler.reconcileProvider compiled)
      (Run.after (fun world event => world.disturb provider event.1)
        world events)
      outcomes final ∧
    later = (soleWriter provider reconciler).finish () final

/-- Passes over one configuration.  The provider gets to sync every change
that the state file tracks. -/
structure Settling (provider : AtomicProvider) (reconciler : Reconciler)
    (compiled : CompiledDns) (passes : Nat → World Unit) : Prop where
  pass : ∀ count,
    Uninterrupted provider reconciler compiled (passes count)
      (passes (count + 1))
  synced : ∀ count key changeId,
    trackedChange (passes count).file key = some changeId →
      ∃ later ≥ count, changeId ∈ (passes later).synced

/-- Between two passes the provider can only sync changes. -/
structure Rested (world later : World Unit) : Prop where
  content : later.content = world.content
  flights : later.flights = []
  file : later.file = world.file
  synced : world.synced ⊆ later.synced
  log : later.log = world.log

section Passes

variable {provider : AtomicProvider} {reconciler : Reconciler}
variable {compiled : CompiledDns} {world later : World Unit}

theorem rested_disturb (event : Internal) (rested : Rested world later) :
    Rested world (later.disturb provider event.1) := by
  obtain ⟨event, internal⟩ := event
  cases event with
  | edit _ _ => cases internal
  | deliver handle ticket =>
    have unchanged : later.deliver provider handle ticket = later := by
      simp [World.deliver, rested.flights]
    simpa only [World.disturb, unchanged] using rested
  | sync changeId =>
    exact { rested with
      synced := List.Subset.trans rested.synced (List.subset_cons_self _ _) }
  | expire =>
    simp only [World.disturb, World.expire]
    split
    · exact rested
    · exact { rested with }

variable (provider) in
theorem rested_after (idle : world.flights = [])
    (holds : RecoveryInvariant reconciler world) (events : List Internal) :
    Rested world
      (Run.after (fun world (event : Internal) =>
        world.disturb provider event.1) world events) ∧
      RecoveryInvariant reconciler (Run.after
        (fun world (event : Internal) => world.disturb provider event.1)
        world events) := by
  constructor
  · refine Run.invariant ?_ (fun _ event => rested_disturb event) events
    exact ⟨rfl, idle, rfl, List.Subset.refl _, rfl⟩
  · exact Run.invariant holds
      (fun _ event kept => (recovery_disturb event kept).1) events

theorem progress_of_uninterrupted (holds : RecoveryInvariant reconciler world)
    (idle : world.flights = [])
    (pass : Uninterrupted provider reconciler compiled world later) :
    Progress world (reconciler.recordsFor compiled) [] [] later.file
      later := by
  obtain ⟨events, outcomes, final, completes, rfl⟩ := pass
  obtain ⟨rested, kept⟩ := rested_after provider idle holds events
  have sat := (convergenceContract provider reconciler world compiled).sat
    ⟨rested.flights, rested.content, rested.file, rested.synced,
      congrArg submissions rested.log⟩
  have disturbed : ∀ (event : Calm) (world : World Unit),
      (smoothView provider reconciler).Invariant world →
        (smoothView provider reconciler).Invariant
            (world.disturb provider event.1) ∧
          (smoothView provider reconciler).Rely world
            (world.disturb provider event.1) :=
    fun event _ holds =>
      ⟨(recovery_disturb ⟨event.1, event.internal⟩ holds).1,
        Relation.ReflTransGen.single ⟨holds, event, rfl⟩⟩
  obtain ⟨_, _, progress, _⟩ := completes.after disturbed kept sat
  exact progress.congr rfl (List.Subset.refl _) rfl

/-- A world with no pass under way that the writer can get to. -/
def Reached (provider : AtomicProvider) (reconciler : Reconciler)
    (world : World Unit) : Prop :=
  ∃ labels, Run.after (soleWriter provider reconciler).step unstarted labels =
    { world, running := fun _ => none }

theorem Reached.holds (reached : Reached provider reconciler world) :
    RecoveryInvariant reconciler world ∧ world.flights = [] := by
  obtain ⟨labels, reached⟩ := reached
  have sound := Discipline.sound (recovery_unstarted provider reconciler) labels
  rw [reached] at sound
  exact ⟨sound.1, sound.2 ()⟩

/-- A fate under which every call succeeds at once. -/
def Fate.smooth : Fate :=
  { now := 0, timers := 0, ioError := none, effective := true, fault := none,
    ticket := .immediate }

theorem Reached.pass (reached : Reached provider reconciler world)
    (pass : Uninterrupted provider reconciler compiled world later) :
    Reached provider reconciler later := by
  obtain ⟨labels, reached⟩ := reached
  obtain ⟨events, outcomes, final, completes, rfl⟩ := pass
  have calm : ∀ event : Calm, ∃ label : Internal,
      (soleWriter provider reconciler).disturb label =
        World.disturb provider event.1 :=
    fun event => ⟨⟨event.1, event.internal⟩, rfl⟩
  have perform : (smoothView provider reconciler).perform =
      (soleWriter provider reconciler).perform () := rfl
  obtain ⟨rest, finished⟩ := Machine.exists_run_of_completes perform calm
    Fate.smooth completes fun _ => none
  have waited : ∀ (events : List Internal) (world : World Unit),
      Run.after (soleWriter provider reconciler).step
        { world, running := fun _ => none } (events.map Machine.Label.disturb) =
        { world := Run.after (fun world (event : Internal) =>
            world.disturb provider event.1) world events
          running := fun _ => none } := by
    intro events
    induction events with
    | nil => exact fun _ => rfl
    | cons event events ih =>
      exact fun world => ih (world.disturb provider event.1)
  refine ⟨labels ++ (events.map .disturb ++ .start () compiled :: rest), ?_⟩
  simp only [Run.after, List.foldl_append, List.foldl_cons] at *
  rw [reached, waited, Machine.step]
  exact finished.trans (by simp)

/-- Once a pass satisfies a record, later ones keep it satisfied; until then
the record waits for one and the same change. -/
theorem eventually_satisfied {passes : Nat → World Unit}
    {desired : DesiredRecord}
    (settling : Settling provider reconciler compiled passes)
    (reached : ∀ count, Reached provider reconciler (passes count))
    (member : desired ∈ reconciler.recordsFor compiled) :
    ∃ count, ∀ later ≥ count, Satisfied desired (passes later) := by
  have progress : ∀ count, Progress (passes count)
      (reconciler.recordsFor compiled) [] [] (passes (count + 1)).file
      (passes (count + 1)) := fun count =>
    progress_of_uninterrupted (reached count).holds.1 (reached count).holds.2
      (settling.pass count)
  by_cases some_time : ∃ count, Satisfied desired (passes count)
  · obtain ⟨count, satisfied⟩ := some_time
    refine ⟨count, fun later past => ?_⟩
    induction later, past using Nat.le_induction with
    | base => exact satisfied
    | succ later _ ih =>
      exact (progress later).stays desired member (by simp) ih
  · exfalso
    have blocked : ∀ count,
        Blocked (passes count) (passes (count + 1)).file desired := by
      intro count
      rcases (progress count).done desired member (by simp) with
        satisfied | waiting
      · exact absurd ⟨count + 1, satisfied⟩ some_time
      · exact waiting
    obtain ⟨changeId, tracked, _, _⟩ := blocked 0
    have always : ∀ count,
        trackedChange (passes count).file desired.key = some changeId := by
      intro count
      induction count with
      | zero => exact tracked
      | succ count ih =>
        obtain ⟨other, before, after, _⟩ := blocked count
        rw [after, ← before, ih]
    obtain ⟨count, _, synced⟩ := settling.synced 0 desired.key changeId tracked
    obtain ⟨other, before, _, unsynced⟩ := blocked count
    obtain rfl : changeId = other := by simpa [always count] using before
    exact unsynced synced

/-- The provider reports a number of changes as synced. -/
def syncs (changes : List String) : List Internal :=
  changes.map fun changeId => ⟨.sync changeId, rfl⟩

theorem mem_synced_after_syncs {changes : List String} {changeId : String}
    (member : changeId ∈ changes ∨ changeId ∈ world.synced) :
    changeId ∈
      (Run.after (fun world (event : Internal) =>
        world.disturb provider event.1) world
      (syncs changes)).synced := by
  induction changes generalizing world with
  | nil => simpa [syncs] using member
  | cons first changes ih =>
    apply ih
    rcases member with listed | old
    · rcases List.mem_cons.mp listed with rfl | later
      · exact .inr List.mem_cons_self
      · exact .inl later
    · exact .inr (List.mem_cons_of_mem _ old)

theorem mem_keys_of_tracked {state : ProviderState} {key changeId : String}
    (tracked : trackedChange state key = some changeId) :
    key ∈ state.records.keys := by
  rw [← AList.mem_keys, ← AList.lookup_isSome]
  cases found : state.records.lookup key with
  | none => simp [trackedChange, ProviderState.pending, found] at tracked
  | some entry => rfl

/-- A pass can be made after the provider has synced all tracked changes. -/
theorem Reached.exists_pass (reached : Reached provider reconciler world) :
    ∃ later, Uninterrupted provider reconciler compiled world later ∧
      ∀ key changeId, trackedChange world.file key = some changeId →
      changeId ∈ later.synced := by
  obtain ⟨holds, idle⟩ := reached.holds
  let changes := world.file.records.keys.filterMap (trackedChange world.file)
  obtain ⟨rested, kept⟩ := rested_after provider idle holds (syncs changes)
  have allowed : (smoothView provider reconciler).Allowed Fate.smooth :=
    ⟨rfl, rfl⟩
  obtain ⟨outcomes, final, completes⟩ := Program.exists_completes
    (fun event : Calm => World.disturb provider event.1) allowed
    (reconciler.reconcileProvider compiled) _
  refine ⟨_, ⟨syncs changes, outcomes, final, completes, rfl⟩, ?_⟩
  intro key changeId tracked
  have progress := progress_of_uninterrupted kept rested.flights
    ⟨[], outcomes, final, completes, rfl⟩
  apply progress.synced
  apply mem_synced_after_syncs
  exact .inl (List.mem_filterMap.mpr
    ⟨key, mem_keys_of_tracked tracked, tracked⟩)

/-- There are passes the provider lets settle. -/
theorem exists_settling (reached : Reached provider reconciler world) :
    ∃ passes : Nat → World Unit, passes 0 = world ∧
      Settling provider reconciler compiled passes := by
  have step : ∀ world : { world // Reached provider reconciler world },
      ∃ later : { world // Reached provider reconciler world },
        Uninterrupted provider reconciler compiled world.1 later.1 ∧
          ∀ key changeId, trackedChange world.1.file key = some changeId →
            changeId ∈ later.1.synced := by
    intro world
    obtain ⟨later, pass, synced⟩ := world.2.exists_pass
    exact ⟨⟨later, world.2.pass pass⟩, pass, synced⟩
  choose next pass synced using step
  refine ⟨fun count => (next^[count] ⟨world, reached⟩).1, rfl, ?_, ?_⟩
  · intro count
    rw [Function.iterate_succ_apply']
    exact pass _
  · intro count key changeId tracked
    refine ⟨count + 1, Nat.le_succ count, ?_⟩
    rw [Function.iterate_succ_apply']
    exact synced _ key changeId tracked

end Passes

/-- A single writer never runs into a conflict, wherever its passes are cut
off and however the configuration changes between them.  Once passes are no
longer interrupted and the configuration stays the same, every configured
record is reached and nothing is sent any more. -/
theorem recovers_and_converges (provider : AtomicProvider)
    (reconciler : Reconciler)
    (labels : List (Machine.Label Unit CompiledDns Internal Fate)) :
    let config := Run.after (soleWriter provider reconciler).step unstarted
      labels
    (∀ decision, .considered decision ∈ config.world.log →
      ∀ reason, decision.action ≠ .conflict reason) ∧
    (config.running () = none → ∀ compiled,
      (∃ passes : Nat → World Unit, passes 0 = config.world ∧
        Settling provider reconciler compiled passes) ∧
      ∀ passes : Nat → World Unit, passes 0 = config.world →
        Settling provider reconciler compiled passes →
        (∀ count, Reached provider reconciler (passes count)) ∧
        ∃ count, ∀ later ≥ count,
          (∀ desired ∈ reconciler.recordsFor compiled,
            Satisfied desired (passes later)) ∧
          submissions (passes later).log = submissions (passes count).log) := by
  intro config
  have sound : (recoveryDiscipline provider reconciler).Holds config :=
    Discipline.sound (recovery_unstarted provider reconciler) labels
  refine ⟨sound.1.unopposed, ?_⟩
  intro idle compiled
  have start : Reached provider reconciler config.world := by
    refine ⟨labels, ?_⟩
    have running : config.running = fun _ => none := funext fun _ => idle
    rw [← running]
  refine ⟨exists_settling start, ?_⟩
  intro passes first settling
  have reached : ∀ count, Reached provider reconciler (passes count) := by
    intro count
    induction count with
    | zero => exact first ▸ start
    | succ count ih => exact ih.pass (settling.pass count)
  refine ⟨reached, ?_⟩
  have each : ∀ desired ∈ { record | record ∈ reconciler.recordsFor compiled },
      ∀ᶠ count in Filter.atTop, Satisfied desired (passes count) := by
    intro desired member
    exact Filter.eventually_atTop.mpr
      (eventually_satisfied settling reached member)
  obtain ⟨count, satisfied⟩ := Filter.eventually_atTop.mp
    ((Filter.eventually_all_finite (List.finite_toSet _)).mpr each)
  refine ⟨count, fun later past => ⟨satisfied later past, ?_⟩⟩
  induction later, past using Nat.le_induction with
  | base => rfl
  | succ later past ih =>
    have progress := progress_of_uninterrupted (reached later).holds.1
      (reached later).holds.2 (settling.pass later)
    exact (progress.unwritten (satisfied later past)).trans ih

end SieveTube.Dns
