import SieveTube.Valkey.Ownership

/-!
# Leases

A lease names its holder and the holder's generation.  The generation counter
of a resource has no time to live and is at least every generation handed
out, so a new holding always gets a greater one.
-/

namespace SieveTube.Valkey

theorem bar_not_mem_toDigits {number : Nat} : '|' ∉ Nat.toDigits 10 number := by
  intro member
  have digit := Nat.isDigit_of_mem_toDigits (by decide) (by decide) member
  exact absurd digit (by decide)

theorem splitLease_leaseText (owner : String) (generation : Nat) :
    splitLease (leaseText owner generation) = some (owner, generation) := by
  have chars : (leaseText owner generation).toList =
      owner.toList ++ '|' :: Nat.toDigits 10 generation := by
    simp [leaseText, String.toList_append]
  have digits : (Nat.toDigits 10 generation).all Char.isDigit = true :=
    List.all_eq_true.mpr fun char member =>
      Nat.isDigit_of_mem_toDigits (by decide) (by decide) member
  unfold splitLease
  rw [chars, Text.rsplitOnce_append bar_not_mem_toDigits]
  simp [digits, Nat.toDigits_ne_nil,
    Nat.ofDigitChars_toDigits (b := 10) (by decide) (by decide)]

variable {first second : String}

theorem leaseText_inj {one two : Nat}
    (same : leaseText first one = leaseText second two) :
    first = second ∧ one = two := by
  have split := congrArg splitLease same
  rw [splitLease_leaseText, splitLease_leaseText] at split
  exact Prod.mk.inj (Option.some.inj split)

theorem splitLease_repr (number : Nat) : splitLease number.repr = none := by
  unfold splitLease
  rw [Nat.toList_repr, Text.rsplitOnce_eq_none bar_not_mem_toDigits]

@[simp]
theorem leaseKey_inj : leaseKey first = leaseKey second ↔ first = second := by
  unfold leaseKey
  rw [String.append_right_inj]

@[simp]
theorem leaseGenerationKey_inj :
    leaseGenerationKey first = leaseGenerationKey second ↔
      first = second := by
  unfold leaseGenerationKey
  rw [String.append_left_inj, String.append_right_inj]

@[simp]
theorem leaseGenerationKey_ne_leaseKey (resource : String) :
    leaseGenerationKey resource ≠ leaseKey resource := by
  unfold leaseGenerationKey leaseKey
  intro same
  have lengths := congrArg String.length same
  rw [String.length_append] at lengths
  have positive : ":generation".length = 11 := by decide
  omega

variable {store counted : Keyspace} {resource : String} {generation : Nat}

theorem lookup_startedStore_counter
    (incremented : store.incr (leaseGenerationKey resource) =
      some (generation, counted)) {edge : String} {minGeneration : Nat} :
    ∃ expires,
      (startedStore edge resource generation minGeneration counted).lookup
        (leaseGenerationKey resource) = some
          { value := .counter (max generation minGeneration), expires } ∧
      (expires = true → ∃ number,
        store.lookup (leaseGenerationKey resource) = some
          { value := .counter number, expires }) := by
  unfold startedStore
  by_cases low : generation < minGeneration
  · refine ⟨false, ?_, by simp⟩
    simp [low, Nat.max_eq_right (Nat.le_of_lt low)]
  · have high := Nat.max_eq_left (Nat.le_of_not_lt low)
    rcases (Keyspace.incr_eq_some incremented).2 with ⟨-, rfl, stored⟩ |
      ⟨before, expires, earlier, rfl, stored⟩
    · exact ⟨false, by simp [low, high, stored], by simp⟩
    · exact ⟨expires, by simp [low, high, stored], fun _ => ⟨before, earlier⟩⟩

variable {key : String}

theorem lookup_startedStore
    (incremented : store.incr (leaseGenerationKey resource) =
      some (generation, counted)) (edge : String) (minGeneration : Nat)
    (lease : key ≠ leaseKey resource)
    (counter : key ≠ leaseGenerationKey resource) :
    (startedStore edge resource generation minGeneration counted).lookup
      key = store.lookup key := by
  have unchanged := (Keyspace.incr_eq_some incremented).1 key counter
  unfold startedStore
  split
  · simp [lease, counter, unchanged]
  · simp [lease, unchanged]

/-- An acquisition of the resource was answered with the generation. -/
def HandedOut (log : List (Call × Answer)) (resource : String)
    (generation : Nat) : Prop :=
  ∃ edge minGeneration,
    (.acquireLease edge resource minGeneration,
      .lease (.ok (some generation))) ∈ log

theorem HandedOut.cons {log : List (Call × Answer)}
    (handedOut : HandedOut log resource generation) (entry : Call × Answer) :
    HandedOut (entry :: log) resource generation := by
  obtain ⟨edge, minGeneration, member⟩ := handedOut
  exact ⟨edge, minGeneration, List.mem_cons_of_mem _ member⟩

/-- What holds for a resource in every state: a lease carries a generation
that was handed out, and the counter, once it exists, stays and is at least
every generation handed out. -/
structure Fenced (server : Server) (resource : String) : Prop where
  granted : ∀ current holder generation,
    server.store.get (leaseKey resource) = some current →
    splitLease current = some (holder, generation) →
    HandedOut server.log resource generation
  lasting : ∀ number expires,
    server.store.lookup (leaseGenerationKey resource) =
      some { value := .counter number, expires } → expires = false
  bounded : ∀ generation, HandedOut server.log resource generation →
    ∃ highest expires, server.store.lookup (leaseGenerationKey resource) =
        some { value := .counter highest, expires } ∧
      generation ≤ highest

variable {server : Server}

/-- A call that hands out nothing and leaves the resource's keys alone or
takes its lease away. -/
theorem Fenced.kept (fenced : Fenced server resource) {call : Call}
    (nothing : ∀ generation,
      HandedOut (server.step call).log resource generation →
        HandedOut server.log resource generation)
    (lease : ∀ current,
      (server.step call).store.get (leaseKey resource) = some current →
        server.store.get (leaseKey resource) = some current)
    (counter : ∀ number expires,
      (server.step call).store.lookup (leaseGenerationKey resource) =
          some { value := .counter number, expires } ↔
        server.store.lookup (leaseGenerationKey resource) =
          some { value := .counter number, expires }) :
    Fenced (server.step call) resource where
  granted := by
    intro current holder generation found split
    exact (fenced.granted current holder generation
      (lease current found) split).cons _
  lasting := by
    intro number expires found
    exact fenced.lasting number expires ((counter number expires).mp found)
  bounded := by
    intro generation handedOut
    obtain ⟨highest, expires, found, bound⟩ :=
      fenced.bounded generation (nothing generation handedOut)
    exact ⟨highest, expires, (counter highest expires).mpr found, bound⟩

/-- Keys outside the owner table are left alone by claims. -/
theorem lookup_claimHostnames (outside : ∀ hostname, key ≠ ownerKey hostname)
    {tenant : String} {hostnames : List String} :
    (claimHostnames tenant hostnames store).2.lookup key =
      store.lookup key := by
  rcases claimHostnames_eq store tenant hostnames with
    ⟨-, claimed⟩ | ⟨hostname, -, refused⟩
  · rw [claimed]
    simp only [lookup_setOwners]
    apply if_neg
    intro member
    obtain ⟨hostname, -, same⟩ := List.mem_map.mp member
    exact outside hostname same.symm
  · rw [refused]

theorem lookup_transferHostnameOwner
    (outside : ∀ hostname, key ≠ ownerKey hostname)
    {moved expectedTenant newTenant : String} :
    (transferHostnameOwner moved expectedTenant newTenant store).2.lookup
      key = store.lookup key := by
  unfold transferHostnameOwner
  split
  · simp [outside moved]
  · rfl

theorem leaseKey_outside (resource hostname : String) :
    leaseKey resource ≠ ownerKey hostname :=
  (ownerKey_ne_leaseKey hostname resource).symm

theorem leaseGenerationKey_outside (resource hostname : String) :
    leaseGenerationKey resource ≠ ownerKey hostname :=
  (ownerKey_ne_leaseGenerationKey hostname resource).symm

/-- The answer to anything but an acquisition of the resource hands out
nothing. -/
theorem handedOut_of_cons {log : List (Call × Answer)} {entry : Call × Answer}
    (other : ∀ edge minGeneration,
      entry ≠ (.acquireLease edge resource minGeneration,
        .lease (.ok (some generation))))
    (handedOut : HandedOut (entry :: log) resource generation) :
    HandedOut log resource generation := by
  obtain ⟨edge, minGeneration, member⟩ := handedOut
  rcases List.mem_cons.mp member with same | member
  · exact absurd same.symm (other edge minGeneration)
  · exact ⟨edge, minGeneration, member⟩

/-- A call whose store keeps both keys of the resource. -/
theorem Fenced.untouched (fenced : Fenced server resource) {call : Call}
    (nothing : ∀ edge minGeneration,
      call ≠ .acquireLease edge resource minGeneration)
    (lease : (server.step call).store.lookup (leaseKey resource) =
      server.store.lookup (leaseKey resource))
    (counter : (server.step call).store.lookup (leaseGenerationKey resource) =
      server.store.lookup (leaseGenerationKey resource)) :
    Fenced (server.step call) resource := by
  apply fenced.kept
  · intro generation handedOut
    refine handedOut_of_cons (fun edge minGeneration same => ?_) handedOut
    exact nothing edge minGeneration (Prod.mk.inj same).1
  · intro current found
    rwa [← Keyspace.get_eq_of_lookup_eq lease]
  · intro number expires
    rw [counter]

variable {number : Nat}

/-- A counter does not read as a lease. -/
theorem splitLease_of_counter {current : String} {entry : Keyspace.Entry}
    (found : store.lookup key = some entry)
    (counter : entry.value = .counter number)
    (held : store.get key = some current) : splitLease current = none := by
  simp only [Keyspace.get, found, counter, Option.map_some,
    Keyspace.Value.toText, Option.some.injEq] at held
  rw [← held, splitLease_repr]

section

variable (fenced : Fenced server resource)
include fenced

theorem Fenced.releaseLease (edge released : String) (generation : Nat) :
    Fenced (server.step (.releaseLease edge released generation))
      resource := by
  apply fenced.kept
  · intro other handedOut
    exact handedOut_of_cons (by simp) handedOut
  · intro current found
    have deleted := get_deleteIfEqual (leaseKey released)
      (leaseText edge generation) (leaseKey resource) server.store
    rw [show (deleteIfEqual _ _ server.store).2.get _ =
      some current from found] at deleted
    split at deleted
    · cases deleted
    · exact deleted.symm
  · intro number expires
    show (deleteIfEqual (leaseKey released) (leaseText edge generation)
      server.store).2.lookup _ = _ ↔ _
    rw [lookup_deleteIfEqual]
    split
    · next taken =>
      constructor
      · intro found
        cases found
      · intro counter
        have unreadable := splitLease_of_counter counter rfl (taken.1 ▸ taken.2)
        cases unreadable.symm.trans (splitLease_leaseText edge generation)
    · rfl

theorem Fenced.expire (key : String) :
    Fenced (server.step (.expire key)) resource := by
  apply fenced.kept
  · intro generation handedOut
    exact handedOut_of_cons (by simp) handedOut
  · intro current found
    exact Keyspace.get_of_expire found
  · intro number expires
    show (server.store.expire key).lookup _ = _ ↔ _
    rw [Keyspace.lookup_expire]
    split
    · next same =>
      subst key
      rw [Option.filter_eq_some_iff]
      refine ⟨And.left, fun counter => ⟨counter, ?_⟩⟩
      simp [fenced.lasting number expires counter]
    · rfl

/-- A new holding gets a generation above all that were handed out. -/
theorem Fenced.lt_of_started
    (incremented : server.store.incr (leaseGenerationKey resource) =
      some (number, counted))
    (handedOut : HandedOut server.log resource generation) :
    generation < number := by
  obtain ⟨highest, expires, found, bound⟩ := fenced.bounded generation handedOut
  rcases (Keyspace.incr_eq_some incremented).2 with
    ⟨absent, -, -⟩ | ⟨before, lasts, earlier, rfl, -⟩
  · cases absent.symm.trans found
  · cases earlier.symm.trans found
    omega

/-- An extension answers with a generation that was handed out before. -/
theorem Fenced.extended {edge acquired current : String} {minGeneration : Nat}
    (held : server.store.get (leaseKey acquired) = some current)
    (split : splitLease current = some (edge, generation))
    (answer : acquireLease edge acquired minGeneration server.store =
      (.ok (some generation), server.store.pexpire (leaseKey acquired))) :
    Fenced (server.step (.acquireLease edge acquired minGeneration))
      resource := by
  have later : (server.step (.acquireLease edge acquired
      minGeneration)).store = server.store.pexpire (leaseKey acquired) :=
    congrArg Prod.snd answer
  apply fenced.kept
  · rintro other ⟨caller, least, member⟩
    rcases List.mem_cons.mp member with same | member
    · cases same.trans (congrArg (fun result =>
        (Call.acquireLease edge acquired minGeneration, Answer.lease result.1))
          answer)
      exact fenced.granted current edge generation held split
    · exact ⟨caller, least, member⟩
  · intro found
    rw [later, Keyspace.get_pexpire]
    exact id
  · intro number expires
    rw [later, Keyspace.lookup_pexpire]
    split
    · next same =>
      rw [← same]
      constructor
      · intro extended
        obtain ⟨entry, found, marked⟩ := Option.map_eq_some_iff.mp extended
        have unreadable := splitLease_of_counter found
          (congrArg Keyspace.Entry.value marked) (same ▸ held)
        cases unreadable.symm.trans split
      · intro counter
        have unreadable := splitLease_of_counter counter rfl (same ▸ held)
        cases unreadable.symm.trans split
    · rfl

theorem Fenced.started (edge : String) (minGeneration : Nat)
    (incremented : server.store.incr (leaseGenerationKey resource) =
      some (number, counted)) :
    Fenced
      { store := startedStore edge resource number minGeneration counted
        log := (.acquireLease edge resource minGeneration,
          .lease (.ok (some (max number minGeneration)))) :: server.log }
      resource := by
  obtain ⟨expires, counter, earlier⟩ := lookup_startedStore_counter incremented
  constructor
  · intro current holder generation found split
    simp only [startedStore, Keyspace.get_setPx, if_true,
      Option.some.injEq] at found
    rw [← found, splitLease_leaseText] at split
    cases split
    exact ⟨edge, minGeneration, List.mem_cons_self⟩
  · intro highest lasts found
    cases counter.symm.trans found
    cases expires with
    | false => rfl
    | true =>
      obtain ⟨before, stored⟩ := earlier rfl
      exact fenced.lasting before true stored
  · rintro generation ⟨caller, least, member⟩
    refine ⟨max number minGeneration, expires, counter, ?_⟩
    rcases List.mem_cons.mp member with same | member
    · cases same
      exact Nat.le_refl _
    · have below := fenced.lt_of_started incremented ⟨caller, least, member⟩
      omega

/-- Another resource's new holding cannot take the place of a counter that is
in use. -/
theorem Fenced.startedElsewhere {acquired : String}
    (other : resource ≠ acquired) (edge : String) (minGeneration : Nat)
    (absent : server.store.get (leaseKey acquired) = none)
    (incremented : server.store.incr (leaseGenerationKey acquired) =
      some (number, counted)) :
    Fenced
      { store := startedStore edge acquired number minGeneration counted
        log := (.acquireLease edge acquired minGeneration,
          .lease (.ok (some (max number minGeneration)))) :: server.log }
      resource := by
  have apart : leaseGenerationKey resource ≠ leaseGenerationKey acquired := by
    simpa using other
  constructor
  · intro current holder generation found split
    by_cases collides : leaseKey resource = leaseGenerationKey acquired
    · obtain ⟨expires, counter, -⟩ := lookup_startedStore_counter incremented
      have unreadable := splitLease_of_counter counter rfl (collides ▸ found)
      cases unreadable.symm.trans split
    · have kept := lookup_startedStore incremented edge minGeneration
        (by simpa using other) collides
      rw [Keyspace.get_eq_of_lookup_eq kept] at found
      exact (fenced.granted current holder generation found split).cons _
  · intro highest expires found
    by_cases collides : leaseGenerationKey resource = leaseKey acquired
    · simp [startedStore, collides] at found
    · rw [lookup_startedStore incremented edge minGeneration collides
        apart] at found
      exact fenced.lasting highest expires found
  · intro generation handedOut
    have before : HandedOut server.log resource generation := by
      apply handedOut_of_cons _ handedOut
      intro caller least same
      cases same
      exact other rfl
    obtain ⟨highest, expires, found, bound⟩ := fenced.bounded generation before
    have collides : leaseGenerationKey resource ≠ leaseKey acquired := by
      intro same
      rw [Keyspace.get_eq_none_iff, ← same, found] at absent
      cases absent
    refine ⟨highest, expires, ?_, bound⟩
    rw [lookup_startedStore incremented edge minGeneration collides apart]
    exact found

theorem Fenced.acquireLease (edge acquired : String) (minGeneration : Nat) :
    Fenced (server.step (.acquireLease edge acquired minGeneration))
      resource := by
  have refused : ∀ {result},
      Valkey.acquireLease edge acquired minGeneration server.store =
        (result, server.store) →
      (∀ generation, result ≠ .ok (some generation)) →
      Fenced (server.step (.acquireLease edge acquired minGeneration))
        resource := by
    intro result answer nothing
    apply fenced.kept
    · intro generation handedOut
      rw [Server.step_acquireLease answer] at handedOut
      exact handedOut_of_cons (by simp [nothing generation]) handedOut
    · intro found
      rw [Server.step_acquireLease answer]
      exact id
    · intro number expires
      rw [Server.step_acquireLease answer]
  rcases acquireLease_cases edge acquired minGeneration server.store with
    ⟨current, generation, held, split, answer⟩ | ⟨current, -, -, answer⟩ |
    ⟨-, -, answer⟩ | ⟨absent, number, counted, incremented, answer⟩
  · exact fenced.extended held split answer
  · exact refused answer (by simp)
  · exact refused answer (by simp)
  · rw [Server.step_acquireLease answer]
    by_cases same : resource = acquired
    · subst acquired
      exact fenced.started edge minGeneration incremented
    · exact fenced.startedElsewhere same edge minGeneration absent incremented

theorem Fenced.step (call : Call) : Fenced (server.step call) resource := by
  cases call with
  | claim tenant hostnames =>
    exact fenced.untouched (by simp)
      (lookup_claimHostnames (leaseKey_outside resource))
      (lookup_claimHostnames (leaseGenerationKey_outside resource))
  | releaseOwner released expectedTenant =>
    apply fenced.untouched (by simp)
    · show (deleteIfEqual _ _ server.store).2.lookup _ = _
      simp [lookup_deleteIfEqual, leaseKey_outside]
    · show (deleteIfEqual _ _ server.store).2.lookup _ = _
      simp [lookup_deleteIfEqual, leaseGenerationKey_outside]
  | transferOwner moved expectedTenant newTenant =>
    exact fenced.untouched (by simp)
      (lookup_transferHostnameOwner (leaseKey_outside resource))
      (lookup_transferHostnameOwner (leaseGenerationKey_outside resource))
  | acquireLease edge acquired minGeneration =>
    exact fenced.acquireLease edge acquired minGeneration
  | checkLease edge checked generation =>
    exact fenced.untouched (by simp) rfl rfl
  | releaseLease edge released generation =>
    exact fenced.releaseLease edge released generation
  | expire key => exact fenced.expire key

end

theorem fenced_run (calls : List Call) (resource : String) :
    Fenced (Server.run calls) resource := by
  apply Server.run_invariant (motive := fun server => Fenced server resource)
  · constructor
    · intro current holder generation found
      cases found
    · intro number expires found
      cases found
    · rintro generation ⟨edge, minGeneration, member⟩
      cases member
  · intro server call fenced
    exact fenced.step call

/-- Exclusive and fenced leases.  At most one Edge passes the check for a
resource, with one generation.  An acquisition that finds no lease gets a
generation above all that were handed out, one by the holder returns the
holder's generation and leaves the holding as it is, and one by another Edge
gets nothing.  Only the holder's release changes a lease. -/
theorem lease_exclusive_and_fenced (calls : List Call) :
    (∀ resource edge generation other otherGeneration,
      checkLease edge resource generation (Server.run calls).store →
      checkLease other resource otherGeneration (Server.run calls).store →
      edge = other ∧ generation = otherGeneration) ∧
    (∀ resource edge minGeneration generation,
      (Server.run calls).store.get (leaseKey resource) = none →
      (acquireLease edge resource minGeneration (Server.run calls).store).1 =
        .ok (some generation) →
      minGeneration ≤ generation ∧ ∀ earlier,
        HandedOut (Server.run calls).log resource earlier →
          earlier < generation) ∧
    (∀ resource edge generation,
      checkLease edge resource generation (Server.run calls).store →
      (∀ minGeneration,
        acquireLease edge resource minGeneration (Server.run calls).store =
          (.ok (some generation),
            (Server.run calls).store.pexpire (leaseKey resource))) ∧
      ∀ other minGeneration, other ≠ edge →
        acquireLease other resource minGeneration (Server.run calls).store =
          (.ok none, (Server.run calls).store)) ∧
    (∀ edge resource generation leased,
      (releaseLease edge resource generation (Server.run calls).store).2.get
        (leaseKey leased) ≠ (Server.run calls).store.get (leaseKey leased) →
      leased = resource ∧
        checkLease edge resource generation (Server.run calls).store) := by
  refine ⟨?_, ?_, ?_, ?_⟩
  · intro resource edge generation other otherGeneration held heldToo
    simp only [checkLease, decide_eq_true_eq] at held heldToo
    rw [held] at heldToo
    exact leaseText_inj (Option.some.inj heldToo)
  · intro resource edge minGeneration generation absent granted
    have fenced := fenced_run calls resource
    rcases acquireLease_cases edge resource minGeneration
      (Server.run calls).store with
      ⟨current, -, held, -⟩ | ⟨current, held, -⟩ | ⟨-, -, answer⟩ |
      ⟨-, number, counted, incremented, answer⟩
    · cases absent.symm.trans held
    · cases absent.symm.trans held
    · rw [answer] at granted
      cases granted
    · rw [answer] at granted
      cases granted
      refine ⟨Nat.le_max_right _ _, fun earlier handedOut => ?_⟩
      exact Nat.lt_of_lt_of_le (fenced.lt_of_started incremented handedOut)
        (Nat.le_max_left _ _)
  · intro resource edge generation held
    simp only [checkLease, decide_eq_true_eq] at held
    have split := splitLease_leaseText edge generation
    refine ⟨fun minGeneration => ?_, fun other minGeneration different => ?_⟩
    · simp [acquireLease, leaseAcquireScript, held, split, Int.toNat?]
    · simp [acquireLease, leaseAcquireScript, held, split, different.symm,
        show (-1 : Int).toNat? = none from rfl]
  · intro edge resource generation leased changed
    rw [releaseLease, get_deleteIfEqual] at changed
    by_cases taken : leaseKey leased = leaseKey resource ∧
        (Server.run calls).store.get (leaseKey leased) =
          some (leaseText edge generation)
    · have same : leased = resource := leaseKey_inj.mp taken.1
      subst leased
      exact ⟨rfl, by simpa [checkLease] using taken.2⟩
    · rw [if_neg taken] at changed
      exact absurd rfl changed

end SieveTube.Valkey
