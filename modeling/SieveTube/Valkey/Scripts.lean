import SieveTube.Library.Keyspace
import SieveTube.Library.Run
import SieveTube.Library.Text

/-!
# The control plane's scripts

Hostname owners and leases in Valkey.  A script is one atomic step of the
server, so the calls of all Edges and operators form one sequence, in which
keys with a time to live may expire in between.  The log, newest call first,
only serves to state properties.
-/

namespace SieveTube.Valkey

def ownerKey (hostname : String) : String :=
  "sievetube:hostname:" ++ hostname ++ ":owner"

def leaseKey (resource : String) : String := "sievetube:lease:" ++ resource

def leaseGenerationKey (resource : String) : String :=
  "sievetube:lease:" ++ resource ++ ":generation"

/-- The first pass of `CLAIM_SCRIPT`: the first key another tenant owns, with
its index counted from `index`. -/
def firstConflict (store : Keyspace) (tenant : String) (index : Nat) :
    List String → Option (Nat × String)
  | [] => none
  | key :: keys =>
    match store.get key with
    | some owner =>
      if owner ≠ tenant then some (index, owner)
      else firstConflict store tenant (index + 1) keys
    | none => firstConflict store tenant (index + 1) keys

/-- The second pass of `CLAIM_SCRIPT`. -/
def setOwners (tenant : String) (keys : List String) (store : Keyspace) :
    Keyspace :=
  keys.foldl (fun store key => store.setNx key tenant) store

/-- `CLAIM_SCRIPT`. -/
def claimScript (keys : List String) (tenant : String) (store : Keyspace) :
    (Nat × String) × Keyspace :=
  match firstConflict store tenant 1 keys with
  | some conflict => (conflict, store)
  | none => ((0, ""), setOwners tenant keys store)

inductive ClaimOutcome where
  | claimed
  | conflict (hostname : String)

def claimHostnames (tenant : String) (hostnames : List String)
    (store : Keyspace) : ClaimOutcome × Keyspace :=
  if hostnames.isEmpty then (.claimed, store)
  else
    match claimScript (hostnames.map ownerKey) tenant store with
    | ((index, _), later) =>
      if 0 < index then
        (.conflict (hostnames[index - 1]?.getD ""), later)
      else (.claimed, later)

def hostnameOwner (store : Keyspace) (hostname : String) : Option String :=
  store.get (ownerKey hostname)

/-- `OWNER_RELEASE_SCRIPT` and `LEASE_RELEASE_SCRIPT`. -/
def deleteIfEqual (key expected : String)
    (store : Keyspace) : Bool × Keyspace :=
  if store.get key = some expected then (true, store.del key)
  else (false, store)

def releaseHostnameOwner (hostname expectedTenant : String) :
    Keyspace → Bool × Keyspace :=
  deleteIfEqual (ownerKey hostname) expectedTenant

/-- `OWNER_TRANSFER_SCRIPT`. -/
def transferHostnameOwner (hostname expectedTenant newTenant : String)
    (store : Keyspace) : Bool × Keyspace :=
  if store.get (ownerKey hostname) = some expectedTenant then
    (true, store.set (ownerKey hostname) newTenant)
  else (false, store)

/-- The value of a lease. -/
def leaseText (owner : String) (generation : Nat) : String :=
  owner ++ "|" ++ generation.repr

/-- `string.match(current, '^(.*)|(%d+)$')`: the digits hold no bar, so the
bar that is matched is the last one. -/
def splitLease (current : String) : Option (String × Nat) :=
  match Text.rsplitOnce '|' current.toList with
  | none => none
  | some (owner, digits) =>
    if digits ≠ [] ∧ digits.all Char.isDigit then
      some (String.ofList owner, Nat.ofDigitChars 10 digits 0)
    else none

/-- `LEASE_ACQUIRE_SCRIPT`, or nothing if the counter cannot be
incremented. -/
def leaseAcquireScript (lease counter owner : String)
    (minGeneration : Nat) (store : Keyspace) : Option (Int × Keyspace) :=
  match store.get lease with
  | some current =>
    match splitLease current with
    | some (holder, generation) =>
      if holder = owner then some (generation, store.pexpire lease)
      else some (-1, store)
    | none => some (-1, store)
  | none =>
    match store.incr counter with
    | none => none
    | some (generation, counted) =>
      if generation < minGeneration then
        some (minGeneration,
          (counted.setCounter counter minGeneration).setPx lease
            (leaseText owner minGeneration))
      else
        some (generation, counted.setPx lease (leaseText owner generation))

/-- The error says that the control plane is unavailable. -/
def acquireLease (edge resource : String) (minGeneration : Nat)
    (store : Keyspace) : Except Unit (Option Nat) × Keyspace :=
  match leaseAcquireScript (leaseKey resource) (leaseGenerationKey resource)
      edge minGeneration store with
  | some (generation, later) => (.ok generation.toNat?, later)
  | none => (.error (), store)

/-- `LEASE_CHECK_SCRIPT`. -/
def checkLease (edge resource : String) (generation : Nat)
    (store : Keyspace) : Bool :=
  store.get (leaseKey resource) = some (leaseText edge generation)

def releaseLease (edge resource : String) (generation : Nat) :
    Keyspace → Bool × Keyspace :=
  deleteIfEqual (leaseKey resource) (leaseText edge generation)

/-- The store after a new holding was started. -/
def startedStore (edge resource : String) (generation minGeneration : Nat)
    (counted : Keyspace) : Keyspace :=
  (if generation < minGeneration then
    counted.setCounter (leaseGenerationKey resource) minGeneration
  else counted).setPx (leaseKey resource)
    (leaseText edge (max generation minGeneration))

/-- An acquisition extends the caller's holding, is refused for someone
else's, fails, or starts a new holding. -/
theorem acquireLease_cases (edge resource : String) (minGeneration : Nat)
    (store : Keyspace) :
    (∃ current generation, store.get (leaseKey resource) = some current ∧
      splitLease current = some (edge, generation) ∧
      acquireLease edge resource minGeneration store =
        (.ok (some generation), store.pexpire (leaseKey resource))) ∨
    (∃ current, store.get (leaseKey resource) = some current ∧
      (∀ generation, splitLease current ≠ some (edge, generation)) ∧
      acquireLease edge resource minGeneration store = (.ok none, store)) ∨
    (store.get (leaseKey resource) = none ∧
      store.incr (leaseGenerationKey resource) = none ∧
      acquireLease edge resource minGeneration store = (.error (), store)) ∨
    (store.get (leaseKey resource) = none ∧ ∃ generation counted,
        store.incr (leaseGenerationKey resource) = some (generation, counted) ∧
        acquireLease edge resource minGeneration store =
          (.ok (some (max generation minGeneration)),
            startedStore edge resource generation minGeneration counted)) := by
  unfold acquireLease leaseAcquireScript
  cases held : store.get (leaseKey resource) with
  | some current =>
    cases split : splitLease current with
    | none =>
      exact .inr (.inl ⟨current, rfl, by simp [split],
        by simp [split, show (-1 : Int).toNat? = none from rfl]⟩)
    | some holding =>
      obtain ⟨holder, generation⟩ := holding
      by_cases own : holder = edge
      · subst holder
        exact .inl ⟨current, generation, rfl, split, by
          simp [split, Int.toNat?]⟩
      · refine .inr (.inl ⟨current, rfl, ?_,
          by simp [split, own, show (-1 : Int).toNat? = none from rfl]⟩)
        intro other same
        rw [split] at same
        exact own (Prod.mk.inj (Option.some.inj same)).1
  | none =>
    refine .inr (.inr ?_)
    cases counted : store.incr (leaseGenerationKey resource) with
    | none => exact .inl ⟨rfl, rfl, rfl⟩
    | some result =>
      obtain ⟨generation, later⟩ := result
      refine .inr ⟨rfl, generation, later, rfl, ?_⟩
      unfold startedStore
      by_cases low : generation < minGeneration
      · simp [low, Nat.max_eq_right (Nat.le_of_lt low), Int.toNat?]
      · simp [low, Nat.max_eq_left (Nat.le_of_not_lt low), Int.toNat?]

theorem lookup_acquireLease {key resource : String}
    (lease : key ≠ leaseKey resource)
    (counter : key ≠ leaseGenerationKey resource)
    {edge : String} {minGeneration : Nat} {store : Keyspace} :
    (acquireLease edge resource minGeneration store).2.lookup key =
      store.lookup key := by
  rcases acquireLease_cases edge resource minGeneration store with
    ⟨current, generation, -, -, acquired⟩ | ⟨current, -, -, acquired⟩ |
    ⟨-, -, acquired⟩ | ⟨-, generation, counted, incremented, acquired⟩
  · simp [acquired, lease]
  · rw [acquired]
  · rw [acquired]
  · have others := (Keyspace.incr_eq_some incremented).1 key counter
    rw [acquired]
    unfold startedStore
    split
    · simp [lease, counter, others]
    · simp [lease, others]

theorem lookup_deleteIfEqual (key expected target : String) (store : Keyspace) :
    (deleteIfEqual key expected store).2.lookup target =
      if target = key ∧ store.get key = some expected then none
      else store.lookup target := by
  unfold deleteIfEqual
  by_cases equal : store.get key = some expected
  · by_cases same : target = key <;> simp [equal, same]
  · simp [equal]

theorem get_deleteIfEqual (key expected target : String) (store : Keyspace) :
    (deleteIfEqual key expected store).2.get target =
      if target = key ∧ store.get target = some expected then none
      else store.get target := by
  rw [Keyspace.get, lookup_deleteIfEqual]
  rcases eq_or_ne target key with rfl | other
  · split <;> rfl
  · simp [other, Keyspace.get]

/-- How far a call to the control plane gets. -/
inductive Reach where
  | answered
  | answerLost
  | unreachable
deriving DecidableEq

/-- What reaches the server: the calls of Edges and operators, and the end of
a key's time to live. -/
inductive Call where
  | claim (tenant : String) (hostnames : List String)
  | releaseOwner (hostname expectedTenant : String)
  | transferOwner (hostname expectedTenant newTenant : String)
  | acquireLease (edge resource : String) (minGeneration : Nat)
  | checkLease (edge resource : String) (generation : Nat)
  | releaseLease (edge resource : String) (generation : Nat)
  | expire (key : String)

inductive Answer where
  | claim (outcome : ClaimOutcome)
  | changed (changed : Bool)
  | lease (result : Except Unit (Option Nat))
  | held (held : Bool)
  | expired

def perform (store : Keyspace) : Call → Answer × Keyspace
  | .claim tenant hostnames =>
    match claimHostnames tenant hostnames store with
    | (outcome, later) => (.claim outcome, later)
  | .releaseOwner hostname expectedTenant =>
    match releaseHostnameOwner hostname expectedTenant store with
    | (changed, later) => (.changed changed, later)
  | .transferOwner hostname expectedTenant newTenant =>
    match transferHostnameOwner hostname expectedTenant newTenant store with
    | (changed, later) => (.changed changed, later)
  | .acquireLease edge resource minGeneration =>
    match acquireLease edge resource minGeneration store with
    | (result, later) => (.lease result, later)
  | .checkLease edge resource generation =>
    (.held (checkLease edge resource generation store), store)
  | .releaseLease edge resource generation =>
    match releaseLease edge resource generation store with
    | (changed, later) => (.changed changed, later)
  | .expire key => (.expired, store.expire key)

structure Server where
  store : Keyspace
  log : List (Call × Answer)

namespace Server

def start : Server := { store := .empty, log := [] }

def step (server : Server) (call : Call) : Server :=
  match perform server.store call with
  | (answer, store) => { store, log := (call, answer) :: server.log }

/-- The server after a sequence of calls. -/
def run (calls : List Call) : Server := Run.after step start calls

@[simp]
theorem store_step (server : Server) (call : Call) :
    (server.step call).store = (perform server.store call).2 :=
  rfl

theorem step_acquireLease {server : Server} {edge resource : String}
    {minGeneration : Nat} {result : Except Unit (Option Nat)}
    {later : Keyspace}
    (answer : Valkey.acquireLease edge resource minGeneration server.store =
      (result, later)) :
    server.step (.acquireLease edge resource minGeneration) =
      { store := later
        log := (.acquireLease edge resource minGeneration, .lease result) ::
          server.log } := by
  simp only [step, perform, answer]

theorem answer_of_log_step {server : Server} {edge resource : String}
    {minGeneration : Nat} {result : Except Unit (Option Nat)}
    (log : (server.step (.acquireLease edge resource minGeneration)).log =
      (.acquireLease edge resource minGeneration, .lease result) ::
        server.log) :
    (Valkey.acquireLease edge resource minGeneration server.store).1 =
      result :=
  Answer.lease.inj (Prod.mk.inj (List.cons.inj log).1).2

theorem run_concat (calls : List Call) (call : Call) :
    run (calls ++ [call]) = (run calls).step call :=
  Run.after_concat step start calls call

theorem run_invariant {motive : Server → Prop} (initial : motive start)
    (preserved : ∀ server call, motive server → motive (server.step call))
    (calls : List Call) : motive (run calls) :=
  Run.invariant initial preserved calls

end Server

end SieveTube.Valkey
