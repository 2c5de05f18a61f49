import SieveTube.Valkey.Scripts

/-!
# Hostname ownership

The owners of the hostnames are a table of their own inside the store: every
call acts on it as a claim, a release or a transfer, and leaves it alone
otherwise.
-/

namespace SieveTube.Valkey

@[simp]
theorem ownerKey_inj {first second : String} :
    ownerKey first = ownerKey second ↔ first = second := by
  unfold ownerKey
  rw [String.append_left_inj, String.append_right_inj]

theorem hostnameSpace_ne_leaseSpace (first second : String) :
    "sievetube:hostname:" ++ first ≠ "sievetube:lease:" ++ second := by
  intro same
  have chars := congrArg (fun text => text.toList[10]?) same
  simp only [String.toList_append] at chars
  rw [List.getElem?_append_left (by decide),
    List.getElem?_append_left (by decide)] at chars
  exact absurd chars (by decide)

@[simp]
theorem ownerKey_ne_leaseKey (hostname resource : String) :
    ownerKey hostname ≠ leaseKey resource := by
  unfold ownerKey leaseKey
  rw [String.append_assoc]
  apply hostnameSpace_ne_leaseSpace

@[simp]
theorem ownerKey_ne_leaseGenerationKey (hostname resource : String) :
    ownerKey hostname ≠ leaseGenerationKey resource := by
  unfold ownerKey leaseGenerationKey
  rw [String.append_assoc, String.append_assoc]
  apply hostnameSpace_ne_leaseSpace

/-- Someone else owns the hostname. -/
def foreign (store : Keyspace) (tenant hostname : String) : Bool :=
  match hostnameOwner store hostname with
  | some owner => owner ≠ tenant
  | none => false

variable {store : Keyspace} {tenant hostname : String}

theorem foreign_eq_false_iff : foreign store tenant hostname = false ↔
      hostnameOwner store hostname = none ∨
        hostnameOwner store hostname = some tenant := by
  unfold foreign
  cases hostnameOwner store hostname with
  | none => simp
  | some owner => simp

theorem firstConflict_eq
    {hostnames : List String} : ∀ index,
      (hostnames.find? (foreign store tenant) = none ∧
        firstConflict store tenant index (hostnames.map ownerKey) = none) ∨
      ∃ offset hostname owner,
        hostnames.find? (foreign store tenant) = some hostname ∧
        hostnames[offset]? = some hostname ∧
        firstConflict store tenant index (hostnames.map ownerKey) =
          some (index + offset, owner) := by
  induction hostnames with
  | nil =>
    intro index
    exact .inl ⟨rfl, rfl⟩
  | cons hostname hostnames ih =>
    intro index
    cases taken : foreign store tenant hostname with
    | true =>
      cases owned : store.get (ownerKey hostname) with
      | none => simp [foreign, hostnameOwner, owned] at taken
      | some owner =>
        have other : owner ≠ tenant := by
          simpa [foreign, hostnameOwner, owned] using taken
        exact .inr ⟨0, hostname, owner, by simp [taken],
          rfl, by simp [firstConflict, owned, other]⟩
    | false =>
      have skipped : firstConflict store tenant index
          ((hostname :: hostnames).map ownerKey) =
            firstConflict store tenant (index + 1)
              (hostnames.map ownerKey) := by
        rcases foreign_eq_false_iff.mp taken with free | own
        · simp [firstConflict,
            show store.get (ownerKey hostname) = none from free]
        · simp [firstConflict,
            show store.get (ownerKey hostname) = some tenant from own]
      have continued : (hostname :: hostnames).find? (foreign store tenant) =
            hostnames.find? (foreign store tenant) := by
        simp [taken]
      rw [skipped, continued]
      rcases ih (index + 1) with
        ⟨none, scanned⟩ | ⟨offset, found, owner, first, named, scanned⟩
      · exact .inl ⟨none, scanned⟩
      · exact .inr ⟨offset + 1, found, owner, first, by simpa using named,
          by simpa [Nat.add_assoc, Nat.add_comm 1] using scanned⟩

/-- A claim takes every hostname or names the first one of someone else. -/
theorem claimHostnames_eq (store : Keyspace) (tenant : String)
    (hostnames : List String) :
    (hostnames.find? (foreign store tenant) = none ∧
      claimHostnames tenant hostnames store =
        (.claimed, setOwners tenant (hostnames.map ownerKey) store)) ∨
    ∃ hostname, hostnames.find? (foreign store tenant) = some hostname ∧
      claimHostnames tenant hostnames store = (.conflict hostname, store) := by
  by_cases empty : hostnames = []
  · subst hostnames
    exact .inl ⟨rfl, rfl⟩
  · rcases firstConflict_eq 1 with
      ⟨none, scanned⟩ | ⟨offset, hostname, owner, first, named, scanned⟩
    · exact .inl ⟨none, by simp [claimHostnames, claimScript, scanned, empty]⟩
    · refine .inr ⟨hostname, first, ?_⟩
      simp [claimHostnames, claimScript, scanned, empty, named]

theorem lookup_setOwners (tenant target : String) (keys : List String) :
    ∀ store : Keyspace,
      (setOwners tenant keys store).lookup target =
        if target ∈ keys then
          some ((store.lookup target).getD
            { value := .text tenant, expires := false })
        else store.lookup target := by
  induction keys with
  | nil =>
    intro store
    simp [setOwners]
  | cons key keys ih =>
    intro store
    have next := ih (store.setNx key tenant)
    simp only [setOwners, List.foldl_cons] at next ⊢
    rw [next]
    by_cases same : target = key
    · subst target
      simp
    · simp [same]

/-- Owners are stored without a time to live. -/
def OwnersLast (store : Keyspace) : Prop :=
  ∀ hostname entry, store.lookup (ownerKey hostname) = some entry →
    entry.expires = false

/-- What a call does to the owners. -/
def ownersAfter (owners : String → Option String) :
    Call → String → Option String
  | .claim tenant hostnames, hostname =>
    if (∀ listed ∈ hostnames,
        owners listed = none ∨ owners listed = some tenant) ∧
        hostname ∈ hostnames then some tenant
    else owners hostname
  | .releaseOwner released expectedTenant, hostname =>
    if hostname = released ∧ owners hostname = some expectedTenant then none
    else owners hostname
  | .transferOwner moved expectedTenant newTenant, hostname =>
    if hostname = moved ∧ owners hostname = some expectedTenant then
      some newTenant
    else owners hostname
  | _, hostname => owners hostname

theorem find?_foreign_eq_none_iff {hostnames : List String} :
    hostnames.find? (foreign store tenant) = none ↔
      ∀ listed ∈ hostnames, hostnameOwner store listed = none ∨
        hostnameOwner store listed = some tenant := by
  simp only [List.find?_eq_none, Bool.not_eq_true, foreign_eq_false_iff]

theorem lookup_ownerKey_claim {hostnames : List String} :
    (claimHostnames tenant hostnames store).2.lookup (ownerKey hostname) =
      if (∀ listed ∈ hostnames, hostnameOwner store listed = none ∨
          hostnameOwner store listed = some tenant) ∧
          hostname ∈ hostnames then
        some ((store.lookup (ownerKey hostname)).getD
          { value := .text tenant, expires := false })
      else store.lookup (ownerKey hostname) := by
  rcases claimHostnames_eq store tenant hostnames with
    ⟨none, claimed⟩ | ⟨taken, found, refused⟩
  · have free := find?_foreign_eq_none_iff.mp none
    rw [claimed]
    simp only [lookup_setOwners]
    by_cases listed : hostname ∈ hostnames
    · have member : ownerKey hostname ∈ hostnames.map ownerKey :=
        List.mem_map_of_mem listed
      rw [if_pos member, if_pos ⟨free, listed⟩]
    · have absent : ownerKey hostname ∉ hostnames.map ownerKey := by
        simpa using listed
      rw [if_neg absent, if_neg fun both => listed both.2]
  · have conflict : ¬ ∀ listed ∈ hostnames, hostnameOwner store listed = none ∨
          hostnameOwner store listed = some tenant := by
      intro free
      rw [find?_foreign_eq_none_iff.mpr free] at found
      cases found
    rw [refused, if_neg fun both => conflict both.1]

theorem lookup_ownerKey_acquireLease
    {hostname edge resource : String} {minGeneration : Nat} :
    (perform store (.acquireLease edge resource minGeneration)).2.lookup
        (ownerKey hostname) = store.lookup (ownerKey hostname) :=
  lookup_acquireLease (ownerKey_ne_leaseKey hostname resource)
    (ownerKey_ne_leaseGenerationKey hostname resource)

theorem lookup_ownerKey_releaseLease
    {hostname edge resource : String} {generation : Nat} :
    (perform store (.releaseLease edge resource generation)).2.lookup
        (ownerKey hostname) = store.lookup (ownerKey hostname) := by
  show (deleteIfEqual (leaseKey resource) _ store).2.lookup _ = _
  rw [lookup_deleteIfEqual]
  simp

/-- The store's owners change as the table does. -/
theorem hostnameOwner_perform (lasting : OwnersLast store) {call : Call} :
    hostnameOwner (perform store call).2 hostname =
      ownersAfter (hostnameOwner store) call hostname := by
  cases call with
  | claim tenant hostnames =>
    show ((claimHostnames tenant hostnames store).2.lookup _).map _ = _
    rw [lookup_ownerKey_claim]
    simp only [ownersAfter]
    split
    · next allowed =>
      rcases allowed.1 hostname allowed.2 with free | own
      · simp [Keyspace.get_eq_none_iff.mp free, Keyspace.Value.toText]
      · obtain ⟨entry, found, named⟩ := Option.map_eq_some_iff.mp own
        simp [found, named]
    · rfl
  | releaseOwner released expectedTenant =>
    show (deleteIfEqual (ownerKey released) expectedTenant store).2.get _ = _
    simp only [get_deleteIfEqual, ownersAfter, hostnameOwner, ownerKey_inj]
    congr
  | transferOwner moved expectedTenant newTenant =>
    show (transferHostnameOwner moved expectedTenant newTenant store).2.get _ =
      _
    simp only [transferHostnameOwner, ownersAfter, hostnameOwner]
    by_cases same : hostname = moved
    · subst moved
      by_cases owned : store.get (ownerKey hostname) = some expectedTenant
      · simp [owned]
      · simp [owned]
    · by_cases owned : store.get (ownerKey moved) = some expectedTenant
      · simp [same, owned]
      · simp [same, owned]
  | acquireLease edge resource minGeneration =>
    apply Keyspace.get_eq_of_lookup_eq
    exact lookup_ownerKey_acquireLease ..
  | checkLease edge resource generation => rfl
  | releaseLease edge resource generation =>
    apply Keyspace.get_eq_of_lookup_eq
    exact lookup_ownerKey_releaseLease ..
  | expire key =>
    apply Keyspace.get_eq_of_lookup_eq
    simp only [perform, Keyspace.lookup_expire]
    split
    · next same =>
      subst key
      cases found : store.lookup (ownerKey hostname) with
      | none => rfl
      | some entry => simp [Option.filter, lasting hostname entry found]
    · rfl

theorem ownersLast_perform (lasting : OwnersLast store) (call : Call) :
    OwnersLast (perform store call).2 := by
  intro hostname entry found
  have kept : ∀ earlier, store.lookup (ownerKey hostname) = some earlier →
      earlier.expires = false := lasting hostname
  cases call with
  | claim tenant hostnames =>
    simp only [perform, lookup_ownerKey_claim] at found
    split at found
    · cases earlier : store.lookup (ownerKey hostname) with
      | none =>
        rw [earlier] at found
        cases found
        rfl
      | some owner =>
        rw [earlier] at found
        cases found
        exact kept _ earlier
    · exact kept entry found
  | releaseOwner released expectedTenant =>
    simp only [perform, releaseHostnameOwner, lookup_deleteIfEqual] at found
    split at found
    · cases found
    · exact kept entry found
  | transferOwner moved expectedTenant newTenant =>
    simp only [perform, transferHostnameOwner] at found
    split at found
    · simp only [Keyspace.lookup_set] at found
      split at found
      · cases found
        rfl
      · exact kept entry found
    · exact kept entry found
  | acquireLease edge resource minGeneration =>
    rw [lookup_ownerKey_acquireLease] at found
    exact kept entry found
  | checkLease edge resource generation => exact kept entry found
  | releaseLease edge resource generation =>
    rw [lookup_ownerKey_releaseLease] at found
    exact kept entry found
  | expire key =>
    simp only [perform, Keyspace.lookup_expire] at found
    split at found
    · next same =>
      subst key
      exact kept entry (Option.filter_eq_some_iff.mp found).1
    · exact kept entry found

theorem ownersLast_run (calls : List Call) :
    OwnersLast (Server.run calls).store := by
  apply Server.run_invariant (motive := fun server => OwnersLast server.store)
  · intro hostname entry found
    cases found
  · intro server call lasting
    exact ownersLast_perform lasting call

/-- A release or a transfer of the hostname that names the tenant as its
current owner. -/
def Call.Relinquishes (call : Call) (hostname tenant : String) : Prop :=
  call = .releaseOwner hostname tenant ∨
    ∃ newTenant, call = .transferOwner hostname tenant newTenant

theorem relinquishes_of_owner_lost {owners : String → Option String}
    {call : Call} (owned : owners hostname = some tenant)
    (lost : ownersAfter owners call hostname ≠ some tenant) :
    call.Relinquishes hostname tenant := by
  cases call with
  | claim claimant hostnames =>
    simp only [ownersAfter] at lost
    split at lost
    · next allowed =>
      rcases allowed.1 hostname allowed.2 with free | own
      · rw [owned] at free
        cases free
      · exact absurd (own.symm.trans owned) lost
    · exact absurd owned lost
  | releaseOwner released expectedTenant =>
    simp only [ownersAfter] at lost
    split at lost
    · next named =>
      obtain ⟨rfl, expected⟩ := named
      cases expected.symm.trans owned
      exact .inl rfl
    · exact absurd owned lost
  | transferOwner moved expectedTenant newTenant =>
    simp only [ownersAfter] at lost
    split at lost
    · next named =>
      obtain ⟨rfl, expected⟩ := named
      cases expected.symm.trans owned
      exact .inr ⟨newTenant, rfl⟩
    · exact absurd owned lost
  | acquireLease edge resource minGeneration
  | checkLease edge resource generation
  | releaseLease edge resource generation | expire key =>
    exact absurd owned lost

/-- An owner that is lost in a run was named by a release or a transfer that
found it. -/
theorem exists_relinquished {earlier later : List Call}
    (owned : hostnameOwner (Server.run earlier).store hostname = some tenant)
    (lost : hostnameOwner (Server.run (earlier ++ later)).store hostname ≠
      some tenant) :
    ∃ before call after,
      later = before ++ call :: after ∧ call.Relinquishes hostname tenant ∧
      hostnameOwner (Server.run (earlier ++ before)).store hostname =
        some tenant := by
  induction later generalizing earlier with
  | nil => exact absurd owned (by simpa using lost)
  | cons call later ih =>
    have moved : earlier ++ call :: later = (earlier ++ [call]) ++ later := by
      simp
    have step : hostnameOwner (Server.run (earlier ++ [call])).store
        hostname = ownersAfter (hostnameOwner (Server.run earlier).store)
          call hostname := by
      rw [Server.run_concat]
      exact hostnameOwner_perform (ownersLast_run earlier)
    by_cases still : hostnameOwner
      (Server.run (earlier ++ [call])).store hostname = some tenant
    · rw [moved] at lost
      obtain ⟨before, found, after, rfl, relinquishes, held⟩ := ih still lost
      exact ⟨call :: before, found, after, rfl,
        relinquishes, by simpa using held⟩
    · rw [step] at still
      exact ⟨[], call, later, rfl,
        relinquishes_of_owner_lost owned still, by simpa using owned⟩

/-- The answer to a claim in the state after the calls. -/
def claimAfter (calls : List Call) (tenant : String)
    (hostnames : List String) : ClaimOutcome :=
  (claimHostnames tenant hostnames (Server.run calls).store).1

theorem claimHostnames_eq_claimed_iff {hostnames : List String} :
    (claimHostnames tenant hostnames store).1 = .claimed ↔
      ∀ hostname ∈ hostnames, hostnameOwner store hostname = none ∨
        hostnameOwner store hostname = some tenant := by
  rw [← find?_foreign_eq_none_iff]
  rcases claimHostnames_eq store tenant hostnames with
    ⟨none, claimed⟩ | ⟨taken, found, refused⟩
  · simp [claimed, none]
  · simp [refused, found]

theorem owner_of_claimed (lasting : OwnersLast store) {hostnames : List String}
    (claimed : (claimHostnames tenant hostnames store).1 = .claimed)
    (listed : hostname ∈ hostnames) :
    hostnameOwner (perform store (.claim tenant hostnames)).2 hostname =
      some tenant := by
  have free := claimHostnames_eq_claimed_iff.mp claimed
  rw [hostnameOwner_perform lasting]
  exact if_pos ⟨free, listed⟩

/-- Hostname ownership.  A claim answers that it holds the hostnames exactly
when none of them belongs to someone else, and then owns all of them;
otherwise it changes nothing and names the first hostname of someone else.
An owner is lost only by a release or a transfer that names it, so one of
these lies between two tenants' claims of one hostname. -/
theorem hostname_ownership (calls : List Call) :
    (∀ tenant hostnames,
      (claimAfter calls tenant hostnames = .claimed ↔ ∀ hostname ∈ hostnames,
          hostnameOwner (Server.run calls).store hostname = none ∨
          hostnameOwner (Server.run calls).store hostname = some tenant) ∧
      (claimAfter calls tenant hostnames = .claimed → ∀ hostname ∈ hostnames,
          hostnameOwner (Server.run (calls ++
            [.claim tenant hostnames])).store hostname = some tenant) ∧
      (claimAfter calls tenant hostnames ≠ .claimed →
        (Server.run (calls ++ [.claim tenant hostnames])).store =
          (Server.run calls).store ∧
        ∃ hostname, claimAfter calls tenant hostnames = .conflict hostname ∧
          hostnames.find? (foreign (Server.run calls).store tenant) =
            some hostname)) ∧
    (∀ call hostname tenant,
      hostnameOwner (Server.run calls).store hostname = some tenant →
      hostnameOwner (Server.run (calls ++ [call])).store hostname ≠
        some tenant →
      call.Relinquishes hostname tenant) ∧
    (∀ tenant hostnames middle other otherHostnames hostname,
      claimAfter calls tenant hostnames = .claimed →
      claimAfter (calls ++ .claim tenant hostnames :: middle) other
        otherHostnames = .claimed →
      tenant ≠ other → hostname ∈ hostnames → hostname ∈ otherHostnames →
      ∃ before call after,
        middle = before ++ call :: after ∧ call.Relinquishes hostname tenant ∧
        hostnameOwner (Server.run (calls ++ .claim tenant hostnames ::
          before)).store hostname = some tenant) := by
  have lasting := ownersLast_run calls
  have owns : ∀ tenant hostnames, claimAfter calls tenant hostnames = .claimed →
      ∀ hostname ∈ hostnames,
        hostnameOwner (Server.run (calls ++
          [.claim tenant hostnames])).store hostname = some tenant := by
    intro tenant hostnames claimed hostname listed
    rw [Server.run_concat]
    exact owner_of_claimed lasting claimed listed
  refine ⟨fun tenant hostnames => ⟨?_, owns tenant hostnames, ?_⟩, ?_, ?_⟩
  · exact claimHostnames_eq_claimed_iff
  · intro conflict
    rcases claimHostnames_eq (Server.run calls).store tenant hostnames with
      ⟨-, claimed⟩ | ⟨hostname, found, refused⟩
    · exact absurd (congrArg Prod.fst claimed) conflict
    · refine ⟨?_, hostname, congrArg Prod.fst refused, found⟩
      rw [Server.run_concat]
      exact congrArg Prod.snd refused
  · intro call hostname tenant owned lost
    rw [Server.run_concat, Server.store_step,
      hostnameOwner_perform lasting] at lost
    exact relinquishes_of_owner_lost owned lost
  · intro tenant hostnames middle other otherHostnames hostname claimed
      claimedLater different listed listedLater
    have owned := owns tenant hostnames claimed hostname listed
    have lost : hostnameOwner (Server.run ((calls ++
        [.claim tenant hostnames]) ++ middle)).store hostname ≠
          some tenant := by
      intro held
      have free := claimHostnames_eq_claimed_iff.mp claimedLater hostname
        listedLater
      rw [List.append_assoc] at held
      rcases free with unowned | taken
      · cases unowned.symm.trans held
      · cases taken.symm.trans held
        exact different rfl
    obtain ⟨before, call, after, split, relinquishes, held⟩ :=
      exists_relinquished owned lost
    exact ⟨before, call, after, split, relinquishes, by simpa using held⟩

end SieveTube.Valkey
