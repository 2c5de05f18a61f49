import SieveTube.Certificate.Acme
import SieveTube.Dns.ChallengeSafety

/-!
# Cleanup of a shared DNS-01 journal

When an Edge starts, it removes the challenge values that interrupted orders
left in the journal.  Edges share the journal, so it asks first who holds the
leases of the domain and of its wildcard.  Orders of other Edges run at the
same time; each holds its lease until it is over.
-/

namespace SieveTube.Acme

open Dns Valkey

/-- An order with the call that adds its challenge value.  A wildcard order
authorizes the base name. -/
structure Order (host : TxtHost) where
  edge : String
  wildcard : Bool
  domain : String
  value : String
  caller : TxtCaller host
  adds : caller.task = .add domain value
deriving DecidableEq

def Order.resource {host : TxtHost} (order : Order host) : String :=
  leaseResource (if order.wildcard then "*." ++ order.domain else order.domain)

/-- How far the cleanup is.  Both leases of an entry are asked for one after
the other. -/
inductive CleanupPhase (host : TxtHost) where
  | waiting
  | remaining (entries : List TxtHandle)
  | checking (handle : TxtHandle) (domain : String) (checked left : List String)
      (removable : Bool) (entries : List TxtHandle)
  | removing (handle : TxtHandle) (caller : TxtCaller host)
      (entries : List TxtHandle)

namespace CleanupPhase

/-- The call that removes a value. -/
def caller {host : TxtHost} : CleanupPhase host → Option (TxtCaller host)
  | .removing _ caller _ => some caller
  | _ => none

/-- The leases that were found free for the current entry. -/
def relies {host : TxtHost} : CleanupPhase host → List String
  | .waiting | .remaining _ => []
  | .checking _ _ checked _ removable _ => if removable then checked else []
  | .removing handle _ _ =>
    match handle.getDomain with
    | none => []
    | some domain => [domain, "*." ++ domain]

/-- The entries that were read and are not through. -/
def handles {host : TxtHost} : CleanupPhase host → List TxtHandle
  | .waiting => []
  | .remaining entries => entries
  | .checking handle _ _ _ _ entries => handle :: entries
  | .removing handle _ entries => handle :: entries

end CleanupPhase

/-- The solvers and their providers, who owns which lease, the orders that
run, and the cleanup. -/
structure Startup (host : TxtHost) where
  config : host.Config
  leases : String → Option String
  running : List (Order host)
  cleanup : CleanupPhase host

inductive StartupEvent (host : TxtHost) where
  | journalEntries (readable : Bool)
  | entry
  | leaseOwner (reach : Reach)
  | keep
  | cleanupEntry (caller : TxtCaller host)
  | removal (fate : TxtFate host)
  | acquire (order : Order host)
  | finish (order : Order host)
  | free (resource : String)
  | solver (label : host.Label)

/-- The call a label belongs to. -/
def thread {host : TxtHost} : host.Label → Option (TxtCaller host)
  | .disturb _ => none
  | .start caller _ | .call caller _ | .crash caller => some caller

namespace Startup

variable {host : TxtHost}

def start (world : TxtWorld host) (leases : String → Option String) :
    Startup host :=
  { config := host.start world, leases, running := [], cleanup := .waiting }

section Step

variable (edge : String) (solver : TxtSolver)

/-- Whether the answer lets the cleanup go on. -/
def allows (startup : Startup host) (resource : String) : Reach → Bool
  | .answered => (startup.leases (leaseResource resource)).all (· = edge)
  | .answerLost | .unreachable => false

def step (startup : Startup host) : StartupEvent host → Startup host
  | .journalEntries readable =>
    match startup.cleanup with
    | .waiting =>
      { startup with
        cleanup := .remaining (if readable then
          startup.config.world.journals solver.journalPath else []) }
    | _ => startup
  | .entry =>
    match startup.cleanup with
    | .remaining (handle :: entries) =>
      match handle.getDomain with
      | none => { startup with cleanup := .remaining entries }
      | some domain =>
        { startup with
          cleanup := .checking handle domain []
            [domain, "*." ++ domain] true entries }
    | _ => startup
  | .leaseOwner reach =>
    match startup.cleanup with
    | .checking handle domain checked (resource :: left) removable entries =>
        { startup with
          cleanup := .checking handle domain (checked ++ [resource]) left
            (removable && startup.allows edge resource reach) entries }
    | _ => startup
  | .keep =>
    match startup.cleanup with
    | .checking _ _ _ [] false entries =>
      { startup with cleanup := .remaining entries }
    | _ => startup
  | .cleanupEntry caller =>
    match startup.cleanup with
    | .checking handle _ _ [] true entries =>
      if caller.solver = solver ∧ caller.task = .remove handle ∧
          (startup.config.running caller).isNone then
        { startup with
          config := host.machine.step startup.config (.start caller ())
          cleanup := .removing handle caller entries }
      else startup
    | _ => startup
  | .removal fate =>
    match startup.cleanup with
    | .removing _ caller entries =>
      match startup.config.running caller with
      | some (.call _ _) =>
        { startup with
          config := host.machine.step startup.config (.call caller fate) }
      | _ => { startup with cleanup := .remaining entries }
    | _ => startup
  | .acquire order =>
    if (startup.leases order.resource).all (· = order.edge) ∧
        (startup.config.running order.caller).isNone then
      { startup with
        leases := Function.update startup.leases order.resource
          (some order.edge)
        running := order :: startup.running }
    else startup
  | .finish order =>
    { startup with running := startup.running.erase order }
  | .free resource =>
    if startup.running.any (·.resource = resource) then startup
    else
      { startup with
        leases := Function.update startup.leases resource none }
  | .solver label =>
    if startup.cleanup.caller.isSome ∧
        thread label = startup.cleanup.caller then startup
    else
      { startup with config := host.machine.step startup.config label }

/-- What has happened after a sequence of steps. -/
def run (world : TxtWorld host) (leases : String → Option String)
    (events : List (StartupEvent host)) : Startup host :=
  Run.after (step edge solver) (start world leases) events

/-- What the call of an order has returned. -/
def added (startup : Startup host) (order : Order host) :
    Option TxtHandle :=
  match startup.config.running order.caller with
  | some (.done (.ok handle)) => handle
  | _ => none

/-- The value is that of an order that is not over, whether or not its `add`
has finished. -/
def Needs (startup : Startup host) (order : Order host) (key : TxtKey) :
    Prop :=
  order ∈ startup.running ∧ key.value = order.value

instance (startup : Startup host) (order : Order host) (key : TxtKey) :
    Decidable (startup.Needs order key) :=
  inferInstanceAs (Decidable (_ ∧ _))

/-- What the order was handed for the value it added or found present. -/
def addedKey (startup : Startup host) (order : Order host) : Option TxtKey :=
  (startup.added order).bind order.caller.solver.key

/-- Nobody else acquires a lease that the cleanup has just found free, and a
challenge value stands for one domain. -/
def undisturbed (domainOf : String → String) (startup : Startup host) :
    StartupEvent host → Bool
  | .acquire order =>
    order.domain = domainOf order.value &&
      (order.edge = edge || (startup.cleanup.relies.all fun resource =>
        order.resource ≠ leaseResource resource))
  | .journalEntries _ =>
    (startup.config.world.journals solver.journalPath).all fun handle =>
      handle.getDomain.all (· = domainOf handle.value)
  | _ => true

end Step

/-- What holds in every state of an undisturbed cleanup. -/
structure Orderly (edge : String) (domainOf : String → String)
    (world : TxtWorld host) (startup : Startup host) : Prop where
  reached : ∃ labels,
    startup.config = Run.after host.machine.step (host.start world) labels
  leased : ∀ order ∈ startup.running,
    startup.leases order.resource = some order.edge
  owned : ∀ order ∈ startup.running, order.domain = domainOf order.value
  journaled : ∀ handle ∈ startup.cleanup.handles, ∀ domain,
    handle.getDomain = some domain → domain = domainOf handle.value
  checked : ∀ handle domain checked left removable entries, startup.cleanup =
      .checking handle domain checked left removable entries →
    handle.getDomain = some domain ∧ checked ++ left = [domain, "*." ++ domain]
  relied : ∀ resource ∈ startup.cleanup.relies, ∀ owner,
    startup.leases (leaseResource resource) = some owner → owner = edge
  removing : ∀ handle caller entries,
    startup.cleanup = .removing handle caller entries →
    caller.task = .remove handle ∧ handle.getDomain.isSome = true

section Invariant

variable {edge : String} {solver : TxtSolver} {domainOf : String → String}
variable {world : TxtWorld host} {startup : Startup host}

theorem orderly_start (leases : String → Option String) :
    Orderly edge domainOf world (start world leases) where
  reached := ⟨[], rfl⟩
  leased := fun _ none => nomatch none
  owned := fun _ none => nomatch none
  journaled := fun _ none => nomatch none
  checked := fun _ _ _ _ _ _ none => nomatch none
  relied := fun _ none => nomatch none
  removing := fun _ _ _ none => nomatch none

section

variable (orderly : Orderly edge domainOf world startup)
include orderly

theorem Orderly.solve (label : host.Label) : Orderly edge domainOf world
      { startup with config := host.machine.step startup.config label } where
  reached := by
    obtain ⟨labels, same⟩ := orderly.reached
    exact ⟨labels ++ [label], by rw [Run.after_concat, same]⟩
  leased := orderly.leased
  owned := orderly.owned
  journaled := orderly.journaled
  checked := orderly.checked
  relied := orderly.relied
  removing := orderly.removing

theorem Orderly.between {entries : List TxtHandle}
    (journaled : ∀ handle ∈ entries, ∀ domain,
      handle.getDomain = some domain → domain = domainOf handle.value) :
    Orderly edge domainOf world
      { startup with cleanup := .remaining entries } where
  reached := orderly.reached
  leased := orderly.leased
  owned := orderly.owned
  journaled := journaled
  checked := fun _ _ _ _ _ _ none => nomatch none
  relied := fun _ none => nomatch none
  removing := fun _ _ _ none => nomatch none

theorem Orderly.journalEntries {readable : Bool}
    (undisturbed : startup.undisturbed edge solver domainOf
      (.journalEntries readable) = true) :
    Orderly edge domainOf world
      (startup.step edge solver (.journalEntries readable)) := by
  simp only [step]
  split
  · refine orderly.between ?_
    intro handle member domain known
    split at member
    · have journal := List.all_eq_true.mp undisturbed handle member
      rw [known] at journal
      exact of_decide_eq_true journal
    · cases member
  · exact orderly

theorem Orderly.entry :
    Orderly edge domainOf world (startup.step edge solver .entry) := by
  have journaled := orderly.journaled
  simp only [step]
  split
  · next handle entries phase =>
    rw [phase] at journaled
    split
    · exact orderly.between fun handle member =>
        journaled handle (List.mem_cons_of_mem _ member)
    · next domain known =>
      exact
        { reached := orderly.reached
          leased := orderly.leased
          owned := orderly.owned
          journaled := journaled
          checked := by
            rintro _ _ _ _ _ _ ⟨⟩
            exact ⟨known, rfl⟩
          relied := by
            intro _ none
            cases none
          removing := by
            intro _ _ _ none
            cases none }
  · exact orderly

theorem Orderly.leaseOwner (reach : Reach) :
    Orderly edge domainOf world
      (startup.step edge solver (.leaseOwner reach)) := by
  have journaled := orderly.journaled
  have relied := orderly.relied
  simp only [step]
  split
  · next handle domain checked resource left removable entries phase =>
    obtain ⟨known, both⟩ := orderly.checked _ _ _ _ _ _ phase
    rw [phase] at journaled relied
    exact
      { reached := orderly.reached
        leased := orderly.leased
        owned := orderly.owned
        journaled := journaled
        checked := by
          rintro _ _ _ _ _ _ ⟨⟩
          exact ⟨known, by simpa using both⟩
        relied := by
          intro asked member owner found
          simp only [CleanupPhase.relies] at member relied
          split at member
          · next allowed =>
            rw [Bool.and_eq_true] at allowed
            rw [if_pos allowed.1] at relied
            rcases List.mem_append.mp member with earlier | last
            · exact relied asked earlier owner found
            · cases List.mem_singleton.mp last
              cases reach with
              | answered =>
                have free := allowed.2
                simp only [allows] at free
                rw [show startup.leases _ = some owner from found] at free
                exact of_decide_eq_true free
              | answerLost | unreachable => cases allowed.2
          · cases member
        removing := fun _ _ _ none => nomatch none }
  · exact orderly

theorem Orderly.keep :
    Orderly edge domainOf world (startup.step edge solver .keep) := by
  have journaled := orderly.journaled
  simp only [step]
  split
  · next phase =>
    rw [phase] at journaled
    exact orderly.between fun handle member =>
      journaled handle (List.mem_cons_of_mem _ member)
  · exact orderly

theorem Orderly.cleanupEntry (caller : TxtCaller host) :
    Orderly edge domainOf world
      (startup.step edge solver (.cleanupEntry caller)) := by
  have journaled := orderly.journaled
  have relied := orderly.relied
  simp only [step]
  split
  · next handle domain checked entries phase =>
    obtain ⟨known, both⟩ := orderly.checked _ _ _ _ _ _ phase
    rw [phase] at journaled relied
    rw [List.append_nil] at both
    split
    · next call =>
      have started := orderly.solve (.start caller ())
      exact
        { reached := started.reached
          leased := orderly.leased
          owned := orderly.owned
          journaled := journaled
          checked := fun _ _ _ _ _ _ none => nomatch none
          relied := by
            intro resource member
            refine relied resource ?_
            simp only [CleanupPhase.relies, known] at member
            simpa only [CleanupPhase.relies, if_true, both] using member
          removing := by
            rintro _ _ _ ⟨⟩
            exact ⟨call.2.1, by rw [known]; rfl⟩ }
    · exact orderly
  · exact orderly

theorem Orderly.removal (fate : TxtFate host) :
    Orderly edge domainOf world (startup.step edge solver (.removal fate)) := by
  have journaled := orderly.journaled
  simp only [step]
  split
  · next phase =>
    split
    · exact orderly.solve _
    · rw [phase] at journaled
      exact orderly.between fun handle member =>
        journaled handle (List.mem_cons_of_mem _ member)
  · exact orderly

theorem Orderly.acquire {order : Order host}
    (undisturbed : startup.undisturbed edge solver domainOf (.acquire order) =
      true) :
    Orderly edge domainOf world
      (startup.step edge solver (.acquire order)) := by
  simp only [Startup.undisturbed, Bool.and_eq_true, Bool.or_eq_true,
    decide_eq_true_eq, List.all_eq_true] at undisturbed
  simp only [step]
  split
  · next acquired =>
    exact
      { reached := orderly.reached
        leased := by
          intro other member
          dsimp only
          rw [Function.update_apply]
          split
          · next same =>
            rcases List.mem_cons.mp member with rfl | member
            · rfl
            · have held := acquired.1
              rw [← same, orderly.leased other member] at held
              exact congrArg some (of_decide_eq_true held).symm
          · next different =>
            rcases List.mem_cons.mp member with rfl | member
            · exact absurd rfl different
            · exact orderly.leased other member
        owned := by
          intro other member
          rcases List.mem_cons.mp member with rfl | member
          · exact undisturbed.1
          · exact orderly.owned other member
        journaled := orderly.journaled
        checked := orderly.checked
        relied := by
          intro resource member owner found
          dsimp only at found
          rw [Function.update_apply] at found
          split at found
          · next same =>
            cases found
            rcases undisturbed.2 with own | apart
            · exact own
            · exact absurd same.symm (apart resource member)
          · exact orderly.relied resource member owner found
        removing := orderly.removing }
  · exact orderly

theorem Orderly.free (resource : String) :
    Orderly edge domainOf world
      (startup.step edge solver (.free resource)) := by
  simp only [step]
  split
  · exact orderly
  · next unused =>
    rw [List.any_eq_true] at unused
    exact
      { reached := orderly.reached
        leased := by
          intro order member
          have different : order.resource ≠ resource := fun same =>
            unused ⟨order, member, decide_eq_true same⟩
          dsimp only
          rw [Function.update_of_ne different]
          exact orderly.leased order member
        owned := orderly.owned
        journaled := orderly.journaled
        checked := orderly.checked
        relied := by
          intro asked member owner found
          dsimp only at found
          rw [Function.update_apply] at found
          split at found
          · cases found
          · exact orderly.relied asked member owner found
        removing := orderly.removing }

theorem Orderly.step {event : StartupEvent host}
    (undisturbed : startup.undisturbed edge solver domainOf event = true) :
    Orderly edge domainOf world (startup.step edge solver event) := by
  cases event with
  | journalEntries readable => exact orderly.journalEntries undisturbed
  | entry => exact orderly.entry
  | leaseOwner reach => exact orderly.leaseOwner reach
  | keep => exact orderly.keep
  | cleanupEntry caller => exact orderly.cleanupEntry caller
  | removal fate => exact orderly.removal fate
  | acquire order => exact orderly.acquire undisturbed
  | finish order =>
    exact
      { reached := orderly.reached
        leased := fun other member =>
          orderly.leased other (List.mem_of_mem_erase member)
        owned := fun other member =>
          orderly.owned other (List.mem_of_mem_erase member)
        journaled := orderly.journaled
        checked := orderly.checked
        relied := orderly.relied
        removing := orderly.removing }
  | free resource => exact orderly.free resource
  | solver label =>
    simp only [Startup.step]
    split
    · exact orderly
    · exact orderly.solve label

end

theorem orderly_run (leases : String → Option String)
    {events : List (StartupEvent host)}
    (undisturbed : Run.Along (step edge solver) (fun startup event =>
      startup.undisturbed edge solver domainOf event = true)
      (start world leases) events) :
    Orderly edge domainOf world (run edge solver world leases events) :=
  Run.invariant_along (orderly_start leases)
    (fun _ _ orderly undisturbed => orderly.step undisturbed) undisturbed

/-- No order of another Edge needs the value the cleanup removes. -/
theorem Orderly.not_needed (orderly : Orderly edge domainOf world startup)
    {handle : TxtHandle} {caller : TxtCaller host}
    {entries : List TxtHandle}
    (phase : startup.cleanup = .removing handle caller entries)
    {order : Order host} (foreign : order.edge ≠ edge) {key : TxtKey}
    (needs : startup.Needs order key) : caller.removes ≠ some key := by
  obtain ⟨running, value⟩ := needs
  obtain ⟨task, known⟩ := orderly.removing _ _ _ phase
  obtain ⟨domain, known⟩ := Option.isSome_iff_exists.mp known
  intro removes
  have sameValue : key.value = handle.value := by
    simp only [TxtCaller.removes, task, TxtSolver.key,
      Option.map_eq_some_iff] at removes
    obtain ⟨provider, -, rfl⟩ := removes
    rfl
  have sameDomain : order.domain = domain := by
    have journaled := orderly.journaled handle
      (by rw [phase]; exact List.mem_cons_self) domain known
    rw [journaled, orderly.owned order running, ← value, sameValue]
  have relied := orderly.relied
    (if order.wildcard then "*." ++ order.domain else order.domain)
    (by
      rw [phase, sameDomain]
      simp only [CleanupPhase.relies, known]
      cases order.wildcard <;> simp)
    order.edge (orderly.leased order running)
  exact foreign relied

/-- As long as nobody else acquires a lease between the question who owns it
and the end of the removal, and a value stands for one domain, the cleanup
removes no value that an order of another Edge needs. -/
theorem cleanup_spares_orders (lawful : TxtHost.Lawful host) (edge : String)
    (solver : TxtSolver) (domainOf : String → String)
    (world : TxtWorld host) (leases : String → Option String)
    (events : List (StartupEvent host))
    (undisturbed : Run.Along (step edge solver) (fun startup event =>
      startup.undisturbed edge solver domainOf event = true)
      (start world leases) events)
    (order : Order host) (foreign : order.edge ≠ edge) (key : TxtKey)
    (needs : (run edge solver world leases events).Needs order key)
    (present : (run edge solver world leases events).config.world.has key)
    (fate : TxtFate host) :
    ((run edge solver world leases events).step edge solver
      (.removal fate)).config.world.has key := by
  have orderly : Orderly edge domainOf world
      (run edge solver world leases events) := orderly_run leases undisturbed
  simp only [step]
  split
  · next handle caller entries phase =>
    split
    · obtain ⟨labels, reached⟩ := orderly.reached
      have kept := (lawful.neverClobbers world labels).1 caller fate key
      rw [← reached] at kept
      rcases kept present with kept | removes
      · exact kept
      · exact absurd removes (orderly.not_needed phase foreign needs)
    · exact present
  · exact present

end Invariant

/-- A provider that keeps its records in memory. -/
def memory : TxtHost := MemoryProvider.atomic.host

def accepted : TxtFate memory where
  api := { failure := none, effective := true, ticket := .immediate
           synced := true }
  cname := none
  failure := none
  written := true
  polls := 0

/-- A solver for one zone. -/
def oneZone : TxtSolver :=
  TxtSolver.new [("example.com", 0)] ["example.com"] 60 "journal"

/-- What an interrupted order left behind. -/
def leftOver (domain : String) : TxtHandle :=
  { zone := "example.com"
    name := "_acme-challenge." ++ domain
    value := domain
    domain }

def leftOverKey (domain : String) : TxtKey :=
  { provider := 0, name := "_acme-challenge." ++ domain, value := domain }

def leftOverRemoval (domain : String) : TxtCaller memory :=
  { solver := oneZone, task := .remove (leftOver domain), number := 0
    challenge := trivial }

/-- The order of the second Edge gets the value that was left behind. -/
def secondOrder : Order memory :=
  { edge := "edge-2"
    wildcard := false
    domain := "example.com"
    value := "example.com"
    caller :=
      { solver := oneZone, task := .add "example.com" "example.com"
        number := 0, challenge := trivial }
    adds := rfl }

/-- The value of a domain is published and in the journal. -/
def leftOverWorld (domain : String) : TxtWorld memory :=
  { zones := fun _ =>
      Function.update (fun _ => none) ("_acme-challenge." ++ domain, .txt) (some
        { set :=
            { name := "_acme-challenge." ++ domain, recordType := .txt
              ttl := 60, values := {domain}, proxied := none }
          unsupported := none })
    journals := fun _ => [leftOver domain] }

/-- The order of the second Edge, with as many calls as it takes until its
value is there. -/
def secondAdds (calls : Nat) : List (StartupEvent memory) :=
  .acquire secondOrder :: .solver (.start secondOrder.caller ()) ::
    List.replicate calls (.solver (.call secondOrder.caller accepted))

/-- The cleanup of the first Edge up to the removal. -/
def asksOwners : List (StartupEvent memory) :=
  [.journalEntries true, .entry, .leaseOwner .answered, .leaseOwner .answered]

/-- The cleanup removes the value of another domain. -/
def cleansElsewhere : List (StartupEvent memory) :=
  secondAdds 6 ++ asksOwners ++
    [.cleanupEntry (leftOverRemoval "b.example.com"), .removal accepted]

theorem cleanup_spares_orders_elsewhere :
    ((run "edge-1" oneZone (leftOverWorld "b.example.com") (fun _ => none)
      cleansElsewhere).step "edge-1" oneZone
        (.removal accepted)).config.world.has
      (leftOverKey "example.com") = true := by
  have lawful : TxtHost.Lawful memory := MemoryProvider.atomic.lawful
  exact cleanup_spares_orders lawful "edge-1" oneZone id
    (leftOverWorld "b.example.com") (fun _ => none) cleansElsewhere
    (by decide +kernel) secondOrder (by decide) (leftOverKey "example.com")
    (by decide +kernel) (by decide +kernel) accepted

/-- An order of another Edge acquires the lease right after the cleanup has
asked for its owner, finds the value that was left behind, and loses it. -/
theorem cleanup_removes_needed_value :
    let startup := run "edge-1" oneZone (leftOverWorld "example.com")
      (fun _ => none)
      (asksOwners ++ secondAdds 3 ++
        [.cleanupEntry (leftOverRemoval "example.com"), .removal accepted])
    startup.Needs secondOrder (leftOverKey "example.com") ∧
      startup.addedKey secondOrder = some (leftOverKey "example.com") ∧
      startup.config.world.has (leftOverKey "example.com") = true ∧
      (startup.step "edge-1" oneZone (.removal accepted)).config.world.has
        (leftOverKey "example.com") = false := by
  decide +kernel

end Startup

end SieveTube.Acme
