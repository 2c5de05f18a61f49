import SieveTube.Admission
import SieveTube.Valkey.Ownership

/-!
# Ownership during an outage

An Edge remembers for a while which hostnames the control plane confirmed for
which tenant, and lets a tenant reconnect on that memory while the control
plane cannot be reached.
-/

namespace SieveTube.Valkey

structure ConfirmedOwner where
  tenantId : String
  confirmedAt : Nat

/-- `OWNERSHIP_CACHE_TTL` in nanoseconds. -/
def ownershipCacheTtl : Nat := 60 * 10 ^ 9

/-- `owner.confirmed_at.elapsed() <= OWNERSHIP_CACHE_TTL`. -/
def ConfirmedOwner.recent (now : Nat) (owner : ConfirmedOwner) : Bool :=
  now - owner.confirmedAt ≤ ownershipCacheTtl

/-- The control plane together with the memory of one Edge. -/
structure Handle where
  store : Keyspace
  confirmed : AList fun _ : String => ConfirmedOwner
  now : Nat

namespace Handle

def start : Handle := { store := .empty, confirmed := ∅, now := 0 }

/-- `claim_hostnames`; an error says that the control plane is
unavailable. -/
def claimHostnames (reach : Reach) (tenantId : String) (hostnames : List String)
    (handle : Handle) :
    Except Unit ClaimOutcome × Handle :=
  if hostnames.isEmpty then (.ok .claimed, handle)
  else
    match reach with
    | .unreachable => (.error (), handle)
    | .answerLost =>
      (.error (), { handle with
        store := (Valkey.claimHostnames tenantId hostnames handle.store).2 })
    | .answered =>
      match Valkey.claimHostnames tenantId hostnames handle.store with
      | (.conflict hostname, store) =>
        (.ok (.conflict hostname), { handle with store })
      | (.claimed, store) =>
        (.ok .claimed, { handle with
          store
          confirmed := handle.confirmed.insertAll hostnames
            { tenantId, confirmedAt := handle.now } })

def previouslyConfirmed (tenantId : String) (hostnames : List String)
    (handle : Handle) : Bool × Handle :=
  let confirmed :=
    handle.confirmed.retain fun _ owner => owner.recent handle.now
  (hostnames.all fun hostname =>
    (confirmed.lookup hostname).any (·.tenantId = tenantId),
    { handle with confirmed })

/-- The ownership check `handle_connector` makes. -/
def checkOwnership (reach : Reach) (tenantId : String) (hostnames : List String)
    (handle : Handle) :
    OwnershipCheck × Handle :=
  match handle.claimHostnames reach tenantId hostnames with
  | (.ok .claimed, later) => (.claimed, later)
  | (.ok (.conflict hostname), later) => (.conflict hostname, later)
  | (.error _, later) =>
    match later.previouslyConfirmed tenantId hostnames with
    | (confirmed, last) => (.unavailable confirmed, last)

/-- A release or a transfer made through this Edge: only an answer clears the
memory of the hostname. -/
def changeOwner (reach : Reach) (hostname : String)
    (change : Keyspace → Bool × Keyspace) (handle : Handle) : Handle :=
  match reach with
  | .unreachable => handle
  | .answerLost => { handle with store := (change handle.store).2 }
  | .answered =>
    { handle with
      store := (change handle.store).2
      confirmed := handle.confirmed.erase hostname }

def releaseHostnameOwner (reach : Reach)
    (hostname expectedTenant : String) : Handle → Handle :=
  changeOwner reach hostname
    (Valkey.releaseHostnameOwner hostname expectedTenant)

def transferHostnameOwner (reach : Reach)
    (hostname expectedTenant newTenant : String) : Handle → Handle :=
  changeOwner reach hostname
    (Valkey.transferHostnameOwner hostname expectedTenant newTenant)

end Handle

/-- What happens to one Edge and the control plane. -/
inductive OwnershipEvent where
  | connect (reach : Reach) (tenantId : String) (hostnames : List String)
  | release (reach : Reach) (hostname expectedTenant : String)
  | transfer (reach : Reach) (hostname expectedTenant newTenant : String)
  | elsewhere (call : Call)
  | elapse (nanoseconds : Nat)

namespace Handle

def step (handle : Handle) : OwnershipEvent → Handle
  | .connect reach tenantId hostnames =>
    (handle.checkOwnership reach tenantId hostnames).2
  | .release reach hostname expectedTenant =>
    handle.releaseHostnameOwner reach hostname expectedTenant
  | .transfer reach hostname expectedTenant newTenant =>
    handle.transferHostnameOwner reach hostname expectedTenant newTenant
  | .elsewhere call =>
    { handle with store := (perform handle.store call).2 }
  | .elapse nanoseconds => { handle with now := handle.now + nanoseconds }

def run (events : List OwnershipEvent) : Handle := Run.after step start events

/-- The Edge still remembers the tenant as the owner. -/
def confirms (handle : Handle) (tenantId hostname : String) : Bool :=
  (handle.confirmed.lookup hostname).any fun owner =>
    owner.recent handle.now && owner.tenantId = tenantId

theorem previouslyConfirmed_eq (handle : Handle) (tenantId : String)
    (hostnames : List String) :
    (handle.previouslyConfirmed tenantId hostnames).1 =
      hostnames.all (handle.confirms tenantId) := by
  simp only [previouslyConfirmed, AList.lookup_retain, Option.any_filter]
  rfl

theorem confirms_previouslyConfirmed {handle : Handle} (tenantId : String)
    (hostnames : List String) {tenant hostname : String} :
    (handle.previouslyConfirmed tenantId hostnames).2.confirms tenant
      hostname = handle.confirms tenant hostname := by
  simp [previouslyConfirmed, confirms, AList.lookup_retain]

/-- A claim changes what is remembered only if it is answered with
success. -/
theorem confirms_claimHostnames (reach : Reach) (tenantId : String)
    (hostnames : List String) (handle : Handle) (tenant hostname : String) :
    (handle.claimHostnames reach tenantId hostnames).2.confirms tenant
        hostname = handle.confirms tenant hostname ∨
      (handle.claimHostnames reach tenantId hostnames).1 = .ok .claimed ∧
        hostname ∈ hostnames ∧
        ((handle.claimHostnames reach tenantId hostnames).2.confirms tenant
          hostname = true → tenant = tenantId) := by
  unfold claimHostnames
  split
  · exact .inl rfl
  · cases reach with
    | unreachable => exact .inl rfl
    | answerLost => exact .inl rfl
    | answered =>
      simp only
      split
      · exact .inl rfl
      · by_cases listed : hostname ∈ hostnames
        · refine .inr ⟨rfl, listed, ?_⟩
          simp only [confirms, AList.lookup_insertAll, listed, if_true,
            Option.any_some, Bool.and_eq_true, decide_eq_true_eq]
          exact fun both => both.2.symm
        · left
          simp [confirms, AList.lookup_insertAll, listed]

/-- A check does so too. -/
theorem confirms_checkOwnership {reach : Reach} {tenantId : String}
    {hostnames : List String} {handle : Handle} {tenant hostname : String} :
    (handle.checkOwnership reach tenantId hostnames).2.confirms tenant
        hostname = handle.confirms tenant hostname ∨
      (handle.checkOwnership reach tenantId hostnames).1 = .claimed ∧
        hostname ∈ hostnames ∧
        ((handle.checkOwnership reach tenantId hostnames).2.confirms tenant
          hostname = true → tenant = tenantId) := by
  have claim := confirms_claimHostnames reach tenantId hostnames handle tenant
    hostname
  unfold checkOwnership
  cases answer : handle.claimHostnames reach tenantId hostnames with
  | mk result later =>
    rw [answer] at claim
    rcases claim with same | ⟨rfl, listed, owner⟩
    · left
      rcases result with unavailable | _ | conflict
      · exact (confirms_previouslyConfirmed tenantId hostnames).trans same
      · exact same
      · exact same
    · exact .inr ⟨rfl, listed, owner⟩

variable {reach : Reach} {tenantId : String} {hostnames : List String}
variable {handle : Handle} {tenant hostname : String}

theorem confirms_changeOwner {changed : String}
    {change : Keyspace → Bool × Keyspace}
    (confirmed : (handle.changeOwner reach changed change).confirms tenant
      hostname = true) : handle.confirms tenant hostname = true := by
  cases reach with
  | unreachable => exact confirmed
  | answerLost => exact confirmed
  | answered =>
    simp only [changeOwner, confirms, AList.lookup_erase_eq] at confirmed
    split at confirmed
    · cases confirmed
    · exact confirmed

/-- Only a successful claim of the tenant makes the Edge remember it. -/
theorem confirms_step {event : OwnershipEvent}
    (confirmed : (handle.step event).confirms tenant hostname = true) :
    handle.confirms tenant hostname = true ∨
      ∃ reach hostnames,
        event = .connect reach tenant hostnames ∧ hostname ∈ hostnames ∧
        (handle.checkOwnership reach tenant hostnames).1 = .claimed := by
  cases event with
  | connect reach tenantId hostnames =>
    rcases confirms_checkOwnership with same | ⟨claimed, listed, owner⟩
    · exact .inl (same.symm.trans confirmed)
    · obtain rfl := owner confirmed
      exact .inr ⟨reach, hostnames, rfl, listed, claimed⟩
  | release reach released expectedTenant
  | transfer reach moved expectedTenant newTenant =>
    exact .inl (confirms_changeOwner confirmed)
  | elsewhere call => exact .inl confirmed
  | elapse nanoseconds =>
    left
    simp only [step, confirms, Option.any_eq_true, Bool.and_eq_true,
      ConfirmedOwner.recent, decide_eq_true_eq] at confirmed ⊢
    obtain ⟨owner, found, recent, same⟩ := confirmed
    have within := of_decide_eq_true recent
    exact ⟨owner, found, by omega, same⟩

theorem run_concat (events : List OwnershipEvent) (event : OwnershipEvent) :
    run (events ++ [event]) = (run events).step event :=
  Run.after_concat step start events event

/-- The Edge remembers a tenant that it did not remember earlier only by a
successful claim in between. -/
theorem exists_claim {earlier later : List OwnershipEvent}
    (unknown : (run earlier).confirms tenant hostname = false)
    (confirmed : (run (earlier ++ later)).confirms tenant hostname = true) :
    ∃ before reach hostnames after,
      later = before ++ .connect reach tenant hostnames :: after ∧
        hostname ∈ hostnames ∧
        ((run (earlier ++ before)).checkOwnership reach tenant hostnames).1 =
          .claimed := by
  induction later generalizing earlier with
  | nil => simp [unknown] at confirmed
  | cons event later ih =>
    cases remembered : (run (earlier ++ [event])).confirms tenant hostname with
    | false =>
      obtain ⟨before, reach, hostnames, after, rfl, listed, claimed⟩ :=
        ih remembered (by simpa using confirmed)
      exact ⟨event :: before, reach, hostnames, after, rfl,
        listed, by simpa using claimed⟩
    | true =>
      rw [run_concat] at remembered
      rcases confirms_step remembered with
        before | ⟨reach, hostnames, rfl, listed, claimed⟩
      · cases unknown.symm.trans before
      · exact ⟨[], reach, hostnames, later, rfl, listed, by simpa using claimed⟩

theorem confirms_of_conflict {conflict : String}
    (refused : (handle.checkOwnership reach tenantId hostnames).1 =
      .conflict conflict) :
    (handle.step (.connect reach tenantId hostnames)).confirms tenant
      hostname = handle.confirms tenant hostname := by
  rcases confirms_checkOwnership with same | ⟨claimed, -⟩
  · exact same
  · cases claimed.symm.trans refused

/-- An Edge that cannot reach the control plane decides by its memory. -/
theorem checkOwnership_unreachable :
    (handle.checkOwnership .unreachable tenantId [hostname]).1 =
      .unavailable (handle.confirms tenantId hostname) := by
  have decided := previouslyConfirmed_eq handle tenantId [hostname]
  simp only [List.all_cons, List.all_nil, Bool.and_true] at decided
  rw [← decided]
  rfl

theorem confirms_of_unavailable
    (accepted : (handle.checkOwnership reach tenantId hostnames).1 =
      .unavailable true) (listed : hostname ∈ hostnames) :
    handle.confirms tenantId hostname = true := by
  have claim := confirms_claimHostnames reach tenantId hostnames handle tenantId
    hostname
  unfold checkOwnership at accepted
  cases answer : handle.claimHostnames reach tenantId hostnames with
  | mk result later =>
    rw [answer] at claim accepted
    cases result with
    | error unavailable =>
      have decided : (later.previouslyConfirmed tenantId hostnames).1 = true :=
        OwnershipCheck.unavailable.inj accepted
      rw [previouslyConfirmed_eq, List.all_eq_true] at decided
      rcases claim with same | ⟨claimed, -⟩
      · exact same.symm.trans (decided hostname listed)
      · cases claimed
    | ok outcome =>
      cases outcome with
      | claimed => cases accepted
      | conflict first => cases accepted

/-- After a conflict on a hostname, a Connector of the tenant that lists it is
let in during an outage only by a claim that succeeded in between, exactly if
the Edge did not remember the tenant as the owner when it saw the
conflict. -/
theorem offline_admission_after_conflict_iff (events : List OwnershipEvent)
    (reach : Reach) (tenant hostname : String) (hostnames : List String)
    (refused : ((run events).checkOwnership reach tenant hostnames).1 =
      .conflict hostname) :
    (∀ later reachLater listed, hostname ∈ listed →
      ((run (events ++ .connect reach tenant hostnames ::
        later)).checkOwnership reachLater tenant listed).1 = .unavailable true →
      ∃ before reachBetween claimed after,
        later = before ++ .connect reachBetween tenant claimed :: after ∧
        hostname ∈ claimed ∧
        ((run (events ++ .connect reach tenant hostnames ::
          before)).checkOwnership reachBetween tenant claimed).1 = .claimed) ↔
      (run events).confirms tenant hostname = false := by
  have moved : ∀ later : List OwnershipEvent,
      events ++ .connect reach tenant hostnames :: later =
        (events ++ [.connect reach tenant hostnames]) ++ later := by
    simp
  have kept : (run (events ++ [.connect reach tenant hostnames])).confirms
      tenant hostname = (run events).confirms tenant hostname := by
    rw [run_concat]
    exact confirms_of_conflict refused
  constructor
  · intro excluded
    by_contra remembered
    have remembered := Bool.eq_true_of_not_eq_false remembered
    rw [← kept] at remembered
    obtain ⟨before, between, claimed, after, split, -⟩ :=
      excluded [] .unreachable [hostname] (by simp)
        (by rw [checkOwnership_unreachable, remembered])
    simp at split
  · intro unknown later reachLater listed member accepted
    rw [moved] at accepted
    have confirmed := confirms_of_unavailable accepted member
    obtain ⟨before, reachBetween, claimed, after, split, member, succeeded⟩ :=
      exists_claim (kept.trans unknown) confirmed
    exact ⟨before, reachBetween, claimed, after, split,
      member, by rw [moved]; exact succeeded⟩

/-- A tenant whose hostname was given to another one is refused, and is let
in again as soon as the control plane is out of reach. -/
theorem refused_tenant_admitted_offline :
    let events : List OwnershipEvent :=
      [.connect .answered "tenant-a" ["app.example.com"],
        .elsewhere (.transferOwner "app.example.com" "tenant-a" "tenant-b")]
    ((run events).checkOwnership .answered "tenant-a"
      ["app.example.com"]).1 = .conflict "app.example.com" ∧
    ((run (events ++ [.connect .answered "tenant-a"
      ["app.example.com"]])).checkOwnership .unreachable "tenant-a"
        ["app.example.com"]).1 = .unavailable true := by
  decide +kernel

/-- A tenant the Edge does not remember is refused for good. -/
theorem offline_admission_after_conflict_iff_stranger :
    let events : List OwnershipEvent :=
      [.connect .answered "tenant-b" ["app.example.com"]]
    ((run events).checkOwnership .answered "tenant-a"
      ["app.example.com"]).1 = .conflict "app.example.com" ∧
    ∀ later reach listed, "app.example.com" ∈ listed →
      ((run (events ++ .connect .answered "tenant-a" ["app.example.com"] ::
        later)).checkOwnership reach "tenant-a" listed).1 = .unavailable true →
      ∃ before reachBetween claimed after,
        later = before ++ .connect reachBetween "tenant-a" claimed :: after ∧
        "app.example.com" ∈ claimed ∧
        ((run (events ++ .connect .answered "tenant-a"
          ["app.example.com"] :: before)).checkOwnership reachBetween
            "tenant-a" claimed).1 = .claimed := by
  have refused : ((run [.connect .answered "tenant-b"
      ["app.example.com"]]).checkOwnership .answered "tenant-a"
        ["app.example.com"]).1 = .conflict "app.example.com" := by
    decide +kernel
  refine ⟨refused, ?_⟩
  exact (offline_admission_after_conflict_iff
    [.connect .answered "tenant-b" ["app.example.com"]] .answered "tenant-a"
    "app.example.com" ["app.example.com"] refused).mpr (by decide +kernel)

end Handle

end SieveTube.Valkey
