import SieveTube.Valkey.Lease

/-!
# Holdings of a lease

The generations of a resource in the order of its holdings: a live lease
carries the highest generation handed out, and no two Edges are ever handed
out the same one.
-/

namespace SieveTube.Valkey

/-- The Edge was answered with the generation. -/
def HandedTo (log : List (Call × Answer)) (resource edge : String)
    (generation : Nat) : Prop :=
  ∃ minGeneration,
    (.acquireLease edge resource minGeneration,
      .lease (.ok (some generation))) ∈ log

variable {log : List (Call × Answer)} {resource edge : String}
variable {generation : Nat}

theorem HandedTo.handedOut (handed : HandedTo log resource edge generation) :
    HandedOut log resource generation :=
  ⟨edge, handed⟩

theorem HandedTo.cons (handed : HandedTo log resource edge generation)
    (entry : Call × Answer) :
    HandedTo (entry :: log) resource edge generation := by
  obtain ⟨minGeneration, member⟩ := handed
  exact ⟨minGeneration, List.mem_cons_of_mem _ member⟩

/-- The lease is live and reads as the Edge's. -/
def Holds (store : Keyspace) (resource edge : String) (generation : Nat) :
    Prop :=
  ∃ current, store.get (leaseKey resource) = some current ∧
    splitLease current = some (edge, generation)

theorem holds_of_checkLease {store : Keyspace}
    (checked : checkLease edge resource generation store = true) :
    Holds store resource edge generation :=
  ⟨_, of_decide_eq_true checked, splitLease_leaseText edge generation⟩

theorem Holds.inj {store : Keyspace} {first second : String} {one two : Nat}
    (held : Holds store resource first one)
    (heldToo : Holds store resource second two) :
    first = second ∧ one = two := by
  obtain ⟨current, found, split⟩ := held
  obtain ⟨other, foundToo, splitToo⟩ := heldToo
  cases found.symm.trans foundToo
  exact Prod.mk.inj (Option.some.inj (split.symm.trans splitToo))

theorem holds_of_get_eq {first second : Keyspace}
    (same : first.get (leaseKey resource) = second.get (leaseKey resource))
    (held : Holds first resource edge generation) :
    Holds second resource edge generation := by
  obtain ⟨current, found, split⟩ := held
  exact ⟨current, same.symm.trans found, split⟩

/-- The call does not acquire the resource. -/
def Call.Spares (call : Call) (resource : String) : Prop :=
  ∀ edge minGeneration, call ≠ .acquireLease edge resource minGeneration

variable {server : Server}

/-- Only an acquisition of the resource makes anyone its holder. -/
theorem holds_before_step {call : Call} (spares : call.Spares resource)
    (held : Holds (server.step call).store resource edge generation) :
    Holds server.store resource edge generation := by
  cases call with
  | claim tenant hostnames =>
    exact holds_of_get_eq (Keyspace.get_eq_of_lookup_eq
      (lookup_claimHostnames (leaseKey_outside resource))) held
  | releaseOwner released expectedTenant =>
    refine holds_of_get_eq (Keyspace.get_eq_of_lookup_eq ?_) held
    show (deleteIfEqual _ _ server.store).2.lookup _ = _
    simp [lookup_deleteIfEqual, leaseKey_outside]
  | transferOwner moved expectedTenant newTenant =>
    exact holds_of_get_eq (Keyspace.get_eq_of_lookup_eq
      (lookup_transferHostnameOwner (leaseKey_outside resource)))
      held
  | acquireLease caller acquired minGeneration =>
    have other : resource ≠ acquired := by
      rintro rfl
      exact spares caller minGeneration rfl
    rcases acquireLease_cases caller acquired minGeneration server.store with
      ⟨current, number, -, -, answer⟩ | ⟨current, -, -, answer⟩ |
      ⟨-, -, answer⟩ | ⟨-, number, counted, incremented, answer⟩
    · rw [Server.step_acquireLease answer] at held
      exact holds_of_get_eq (Keyspace.get_pexpire ..) held
    · rwa [Server.step_acquireLease answer] at held
    · rwa [Server.step_acquireLease answer] at held
    · rw [Server.step_acquireLease answer] at held
      obtain ⟨current, found, split⟩ := held
      by_cases collides : leaseKey resource = leaseGenerationKey acquired
      · obtain ⟨expires, counter, -⟩ := lookup_startedStore_counter incremented
        have unreadable := splitLease_of_counter counter rfl (collides ▸ found)
        cases unreadable.symm.trans split
      · have kept := lookup_startedStore incremented caller minGeneration
          (by simpa using other) collides
        rw [Keyspace.get_eq_of_lookup_eq kept] at found
        exact ⟨current, found, split⟩
  | checkLease caller checked number => exact held
  | releaseLease caller released number =>
    obtain ⟨current, found, split⟩ := held
    have deleted := get_deleteIfEqual (leaseKey released)
      (leaseText caller number) (leaseKey resource) server.store
    rw [show (deleteIfEqual _ _ server.store).2.get _ =
      some current from found] at deleted
    split at deleted
    · cases deleted
    · exact ⟨current, deleted.symm, split⟩
  | expire key =>
    obtain ⟨current, found, split⟩ := held
    exact ⟨current, Keyspace.get_of_expire found, split⟩

theorem handedTo_of_cons {entry : Call × Answer}
    (other : ∀ minGeneration,
      entry ≠ (.acquireLease edge resource minGeneration,
        .lease (.ok (some generation))))
    (handed : HandedTo (entry :: log) resource edge generation) :
    HandedTo log resource edge generation := by
  obtain ⟨minGeneration, member⟩ := handed
  rcases List.mem_cons.mp member with same | member
  · exact absurd same.symm (other minGeneration)
  · exact ⟨minGeneration, member⟩

/-- What holds for the generations of a resource in every state. -/
structure Ranked (server : Server) (resource : String) : Prop where
  fenced : Fenced server resource
  positive : ∀ generation, HandedOut server.log resource generation →
    0 < generation
  holder : ∀ edge generation, Holds server.store resource edge generation →
    HandedTo server.log resource edge generation ∧
      ∀ earlier, HandedOut server.log resource earlier → earlier ≤ generation
  unique : ∀ first second generation,
    HandedTo server.log resource first generation →
    HandedTo server.log resource second generation → first = second

/-- A step that hands out nothing and makes nobody a holder. -/
theorem Ranked.kept (ranked : Ranked server resource) {call : Call}
    (nothing : ∀ edge generation,
      HandedTo (server.step call).log resource edge generation →
        HandedTo server.log resource edge generation)
    (nobody : ∀ edge generation,
      Holds (server.step call).store resource edge generation →
        Holds server.store resource edge generation) :
    Ranked (server.step call) resource where
  fenced := ranked.fenced.step call
  positive := by
    rintro generation ⟨edge, handed⟩
    exact ranked.positive generation (nothing edge generation handed).handedOut
  holder := by
    intro edge generation held
    obtain ⟨handed, topmost⟩ :=
      ranked.holder edge generation (nobody edge generation held)
    refine ⟨handed.cons _, ?_⟩
    rintro earlier ⟨other, handedToo⟩
    exact topmost earlier (nothing other earlier handedToo).handedOut
  unique := by
    intro first second generation handed handedToo
    exact ranked.unique first second generation (nothing _ _ handed)
      (nothing _ _ handedToo)

theorem Ranked.spared (ranked : Ranked server resource) {call : Call}
    (spares : call.Spares resource) : Ranked (server.step call) resource := by
  apply ranked.kept
  · intro edge generation handed
    apply handedTo_of_cons _ handed
    intro minGeneration same
    exact spares edge minGeneration (Prod.mk.inj same).1
  · intro edge generation
    exact holds_before_step spares

/-- What an acquisition of the resource comes to: the extension of the
caller's holding, nothing, or a new holding above all earlier ones. -/
theorem Ranked.acquire_cases (ranked : Ranked server resource) (edge : String)
    (minGeneration : Nat) :
    let later := server.step (.acquireLease edge resource minGeneration)
    (∃ generation, Holds server.store resource edge generation ∧
      later.store.get (leaseKey resource) =
        server.store.get (leaseKey resource) ∧
      later.log = (.acquireLease edge resource minGeneration,
        .lease (.ok (some generation))) :: server.log) ∨
    (later.store = server.store ∧ ∃ result,
      (∀ generation, result ≠ .ok (some generation)) ∧
      later.log = (.acquireLease edge resource minGeneration, .lease result) ::
        server.log) ∨
    (∃ generation, server.store.get (leaseKey resource) = none ∧
      later.store.get (leaseKey resource) = some (leaseText edge generation) ∧
      0 < generation ∧
      (∀ earlier, HandedOut server.log resource earlier →
        earlier < generation) ∧
      later.log = (.acquireLease edge resource minGeneration,
        .lease (.ok (some generation))) :: server.log) := by
  intro later
  rcases acquireLease_cases edge resource minGeneration server.store with
    ⟨current, generation, held, split, answer⟩ | ⟨current, -, -, answer⟩ |
    ⟨-, -, answer⟩ | ⟨absent, number, counted, incremented, answer⟩
  · have stepped := Server.step_acquireLease answer
    refine .inl ⟨generation, ⟨current, held, split⟩, ?_, ?_⟩
    · simp only [later, stepped, Keyspace.get_pexpire]
    · simp only [later, stepped]
  · have stepped := Server.step_acquireLease answer
    exact .inr (.inl ⟨by simp only [later, stepped], .ok none, by simp,
      by simp only [later, stepped]⟩)
  · have stepped := Server.step_acquireLease answer
    exact .inr (.inl ⟨by simp only [later, stepped], .error (), by simp,
      by simp only [later, stepped]⟩)
  · have stepped := Server.step_acquireLease answer
    have positive : 0 < number := by
      rcases (Keyspace.incr_eq_some incremented).2 with
        ⟨-, rfl, -⟩ | ⟨before, expires, -, rfl, -⟩
      · decide
      · exact Nat.succ_pos before
    refine .inr (.inr ⟨max number minGeneration, absent, ?_, ?_, ?_, ?_⟩)
    · simp only [later, stepped, startedStore, Keyspace.get_setPx, if_true]
    · exact Nat.lt_of_lt_of_le positive (Nat.le_max_left _ _)
    · intro earlier handedOut
      exact Nat.lt_of_lt_of_le (ranked.fenced.lt_of_started
        incremented handedOut) (Nat.le_max_left _ _)
    · simp only [later, stepped]

theorem handedTo_cons_cases {caller : String} {answered minGeneration : Nat}
    (handed : HandedTo ((.acquireLease caller resource minGeneration,
      .lease (.ok (some answered))) :: log) resource edge generation) :
    edge = caller ∧ generation = answered ∨
      HandedTo log resource edge generation := by
  obtain ⟨least, member⟩ := handed
  rcases List.mem_cons.mp member with same | member
  · cases same
    exact .inl ⟨rfl, rfl⟩
  · exact .inr ⟨least, member⟩

theorem Ranked.acquired (ranked : Ranked server resource)
    {minGeneration : Nat} :
    Ranked (server.step (.acquireLease edge resource minGeneration))
      resource := by
  rcases ranked.acquire_cases edge minGeneration with
    ⟨generation, held, same, log⟩ | ⟨store, result, nothing, log⟩ |
    ⟨generation, absent, granted, positive, above, log⟩
  · obtain ⟨handed, -⟩ := ranked.holder edge generation held
    apply ranked.kept
    · intro other number handedToo
      rw [log] at handedToo
      rcases handedTo_cons_cases handedToo with ⟨rfl, rfl⟩ | earlier
      · exact handed
      · exact earlier
    · intro other number
      exact holds_of_get_eq same
  · apply ranked.kept
    · intro other number handed
      rw [log] at handed
      apply handedTo_of_cons _ handed
      intro least same
      simp only [Prod.mk.injEq, Answer.lease.injEq] at same
      exact nothing number same.2
    · intro other number
      rw [store]
      exact id
  · have new : ∀ other number,
        HandedTo (server.step (.acquireLease edge resource
          minGeneration)).log resource other number →
        other = edge ∧ number = generation ∨
          number < generation ∧ HandedTo server.log resource other number := by
      intro other number handed
      rw [log] at handed
      rcases handedTo_cons_cases handed with same | earlier
      · exact .inl same
      · exact .inr ⟨above number earlier.handedOut, earlier⟩
    have granted : Holds (server.step (.acquireLease edge resource
        minGeneration)).store resource edge generation :=
      ⟨_, granted, splitLease_leaseText edge generation⟩
    constructor
    · exact ranked.fenced.step _
    · rintro number ⟨other, handed⟩
      rcases new other number handed with ⟨-, rfl⟩ | ⟨-, earlier⟩
      · exact positive
      · exact ranked.positive number earlier.handedOut
    · intro other number held
      obtain ⟨rfl, rfl⟩ := granted.inj held
      refine ⟨⟨minGeneration, by rw [log]; exact List.mem_cons_self⟩, ?_⟩
      rintro earlier ⟨third, handed⟩
      rcases new third earlier handed with ⟨-, rfl⟩ | ⟨below, -⟩
      · exact Nat.le_refl _
      · exact Nat.le_of_lt below
    · intro first second number handed handedToo
      rcases new first number handed with ⟨rfl, rfl⟩ | ⟨below, earlier⟩
      · rcases new second number handedToo with ⟨rfl, -⟩ | ⟨below, -⟩
        · rfl
        · exact absurd below (Nat.lt_irrefl _)
      · rcases new second number handedToo with ⟨-, rfl⟩ | ⟨-, earlierToo⟩
        · exact absurd below (Nat.lt_irrefl _)
        · exact ranked.unique first second number earlier earlierToo

theorem ranked_start : Ranked .start resource where
  fenced := fenced_run [] resource
  positive := by
    rintro generation ⟨edge, minGeneration, member⟩
    cases member
  holder := by
    rintro edge generation ⟨current, found, -⟩
    cases found
  unique := by
    rintro first second generation ⟨minGeneration, member⟩
    cases member

end SieveTube.Valkey
