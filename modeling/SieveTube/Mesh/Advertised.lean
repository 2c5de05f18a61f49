import SieveTube.Mesh.Publication

/-!
# Published routes follow the registry

While no connection task is about to publish or withdraw, the published
routes are those of the registry.  A call of `advertise_now` returns only
after a publish that covers the registrations made before it.
-/

namespace SieveTube

namespace Mesh

namespace AdvertiserState

variable {settings : AdvertiserSettings} {state later : AdvertiserState}

theorem returned_toAdvertiser {owner : Owner} :
    (state.returned owner).toAdvertiser = state.toAdvertiser := by
  cases owner <;> rfl

theorem modify_eq_set {index : Nat} {task : ConnectorTask}
    (found : state.tasks[index]? = some task) :
    state.tasks.modify index ConnectorTask.return =
      state.tasks.set index task.return := by
  rw [List.modify_eq_set_getElem?, found]
  rfl

namespace Sound

variable (sound : Sound settings state)
include sound

variable {call : AdvertiseCall}

theorem returned (owner : Owner)
    (holds : state.Holds owner (.advertise call .checking))
    (free : state.lock = none)
    (reached : state.stopped = true ∨ call.before ≤ state.reach) :
    Sound settings (state.returned owner) := by
  cases owner with
  | connector index =>
    obtain ⟨handle, found⟩ := holds
    have own := sound.calls.own ⟨_, List.mem_of_getElem? found, rfl⟩
    have steady : Steady settings state
        { state with
          advertiseRequests := state.advertiseRequests
          tasks := state.tasks.set index (.serving handle) } := by
      refine .task sound.tracked _ found _ id rfl (Nat.le_refl _) nofun
        (.inl free) ?_
      intro other same
      cases same
      exact .inr (reached.imp_right own.trans)
    have result := sound.steady steady
    simp only [AdvertiserState.returned, modify_eq_set found]
    rw [← free]
    exact result
  | ticker =>
    have before : state.ticker = .advertising call := holds
    have steady : Steady settings state
        { state with
          advertiseRequests := state.advertiseRequests
          ticker := .idle } := by
      refine .ticker sound.tracked _ _ (Nat.le_refl _) nofun ?_ nofun
      intro owner work held
      rw [free] at held
      cases held
    have result := sound.steady steady
    simp only [AdvertiserState.returned, before, Ticker.return]
    rw [← free]
    exact result

variable {owner : Owner}

theorem work {work next : Work} (edgeInfo : Option EdgeInfo)
    (held : state.lock = some (owner, work))
    (advanced : WorkMove settings state work next) :
    Sound settings { state with edgeInfo, lock := some (owner, next) } := by
  have holds := sound.holds owner work held
  have prepared := sound.prepared owner work held
  apply sound.relock
  rintro _ _ ⟨⟩
  cases advanced with
  | load call running =>
    refine ⟨by cases owner <;> exact holds, running, Nat.le_refl _,
      Nat.le_refl _, sound.calls.reach, ?_, ?_⟩
    · exact sound.calls.requested (active_of_holds holds)
    · intro other active _
      exact sound.calls.before active
  | begin call covered upTo =>
    refine ⟨by cases owner <;> exact holds, prepared, ?_, ?_⟩
    · intro handle found _ _ read
      cases read
    · intro tenantId handle read
      cases read
  | collect call covered upTo seen =>
    obtain ⟨loaded, fresh, explained⟩ := prepared
    exact ⟨by cases owner <;> exact holds, loaded, covers_of_fresh fresh,
      sound.tracked.adsExplained_snapshot explained⟩
  | collectAll seen =>
    obtain ⟨stopped, fresh⟩ := prepared
    exact ⟨by cases owner <;> exact holds, stopped, covers_of_fresh fresh⟩
  | read work tenantId =>
    cases work with
    | withdraw handle => exact ⟨holds, prepared⟩
    | advertise call stage =>
      cases stage with
      | reading covered upTo seen =>
        obtain ⟨loaded, fresh, explained⟩ := prepared
        exact ⟨by cases owner <;> exact holds, loaded, fresh_read fresh,
          sound.tracked.seenExplained_read explained tenantId⟩
      | _ => exact ⟨holds, prepared⟩
    | stop stage =>
      cases stage with
      | reading seen =>
        obtain ⟨stopped, fresh⟩ := prepared
        exact ⟨by cases owner <;> exact holds, stopped, fresh_read fresh⟩
      | _ => exact ⟨holds, prepared⟩

theorem skip (held : state.lock = some (owner, .advertise call .checking))
    (reason : state.stopped = true ∨ call.request ≤ state.covered) :
    Sound settings (state.returned owner) := by
  have holds := sound.holds owner _ held
  have reached := reason.imp_right (sound.calls.reached (active_of_holds holds))
  have result := sound.unlock.returned owner
    (by cases owner <;> exact holds) rfl reached
  cases owner <;> exact result

theorem publish {covered upTo : Nat} {ads : List RouteAd}
    (held : state.lock =
      some (owner, .advertise call (.publishing covered upTo ads))) :
    Sound settings ({ state with
      published := ads, covered, reach := upTo }.returned owner) := by
  have holds := sound.holds owner _ held
  obtain ⟨loaded, covers, explained⟩ := sound.prepared owner _ held
  have published : Sound settings { state with
      published := ads, covered, reach := upTo, lock := none } :=
    { tracked := sound.tracked.of_registry rfl rfl rfl id id
      calls := ⟨loaded.requests, loaded.generations, sound.calls.requested,
        sound.calls.before, loaded.reached, sound.calls.own⟩
      holds := nofun
      prepared := nofun
      covers := fun _ => covers
      pending := fun running generation beyond =>
        sound.pending running generation (loaded.further.trans_lt beyond)
      explained := explained
      finished := fun done => by
        have stopped := (sound.finished done).1
        rw [loaded.running] at stopped
        cases stopped }
  have result := published.returned owner (by cases owner <;> exact holds) rfl
    (.inr (loaded.reached (active_of_holds holds) loaded.own))
  cases owner <;> exact result

theorem withdraw {handle : ConnectorHandle}
    (held : state.lock = some (owner, .withdraw handle)) :
    Sound settings ({ state with
      published := state.published.filter
        (· ∉ handleAds settings.edgeId handle) }.returned owner) := by
  have holds := sound.holds owner _ held
  cases owner with
  | ticker => cases holds
  | connector index =>
    have found : state.tasks[index]? = some (.withdrawing handle) := holds
    have member := List.mem_of_getElem? found
    have gone := sound.tracked.removed ⟨_, member, rfl⟩
    have known := sound.tracked.handles ⟨_, member, rfl⟩
    have made : ∀ {item},
        Tasks.Has ConnectorTask.made (state.tasks.set index .ended) item →
          Tasks.Has ConnectorTask.made state.tasks item :=
      (Tasks.has_set_iff found .ended rfl).mp
    have active : ∀ {call}, { state with
        tasks := state.tasks.set index .ended }.Active call →
          state.Active call := by
      rintro call (⟨other, has⟩ | ticking)
      · exact .inl ⟨other, made has⟩
      · exact .inr ticking
    simp only [AdvertiserState.returned,
      modify_eq_set found, ConnectorTask.return]
    refine ⟨?_, ?_, nofun, nofun, ?_, ?_, ?_, ?_⟩
    · refine sound.tracked.of_registry rfl rfl rfl ?_ ?_
      · intro other has
        rcases Tasks.has_of_has_set has with own | before
        · cases own
        · exact before
      · intro other has
        rcases Tasks.has_of_has_set has with own | before
        · cases own
        · exact before
    · exact ⟨sound.calls.covered, sound.calls.reach,
        fun has => sound.calls.requested (active has),
        fun has => sound.calls.before (active has),
        fun has => sound.calls.reached (active has),
        fun has => sound.calls.own (made has)⟩
    · intro running other current reached ad own
      rw [List.mem_filter]
      refine ⟨sound.covers running current reached ad own, ?_⟩
      simp only [decide_eq_true_eq]
      intro withdrawn
      have same : other = handle :=
        sound.tracked.unique (sound.tracked.known current) known
        ((generation_of_mem own).symm.trans (generation_of_mem withdrawn))
      exact gone (same ▸ current)
    · intro running generation beyond upTo
      obtain ⟨other, waiting, same⟩ :=
        sound.pending running generation beyond upTo
      exact ⟨other, (Tasks.has_set_iff found .ended rfl).mpr waiting, same⟩
    · intro ad left
      simp only [List.mem_filter, decide_eq_true_eq] at left
      obtain ⟨other, made, own, reason⟩ := sound.explained ad left.1
      refine ⟨other, made, own, ?_⟩
      rcases reason with current | waiting | replaced
      · exact .inl current
      · refine .inr (.inl (Tasks.has_set found ?_ waiting))
        intro same
        cases same
        exact absurd own left.2
      · exact .inr (.inr replaced)
    · intro done
      obtain ⟨stopped, none⟩ := sound.finished done
      refine ⟨stopped, ?_⟩
      rintro other current ⟨ad, own, left⟩
      exact none current ⟨ad, own, List.mem_of_mem_filter left⟩

theorem withdrawAll {ads : List RouteAd}
    (held : state.lock = some (owner, .stop (.withdrawing ads))) :
    Sound settings { state with
      published := state.published.filter (· ∉ ads)
      lock := some (owner, .stop .removingInfo) } := by
  have holds := sound.holds owner _ held
  obtain ⟨stopped, covers⟩ := sound.prepared owner _ held
  have notRunning : state.stopped ≠ false := by
    rw [stopped]
    nofun
  refine ⟨sound.tracked.of_registry rfl rfl rfl id id, ?_, ?_, ?_,
    fun running => absurd running notRunning,
    fun running => absurd running notRunning, ?_, ?_⟩
  · exact ⟨sound.calls.covered, sound.calls.reach, sound.calls.requested,
      sound.calls.before, sound.calls.reached, sound.calls.own⟩
  · rintro _ _ ⟨⟩
    cases owner <;> exact holds
  · rintro _ _ ⟨⟩
    refine ⟨stopped, ?_⟩
    rintro handle current ⟨ad, own, left⟩
    simp only [List.mem_filter, decide_eq_true_eq] at left
    exact left.2 (covers current ⟨ad, own, left.1⟩ ad own)
  · intro ad left
    exact sound.explained ad (List.mem_of_mem_filter left)
  · intro done
    refine ⟨stopped, ?_⟩
    rintro handle current ⟨ad, own, left⟩
    exact (sound.finished done).2 current ⟨ad, own, List.mem_of_mem_filter left⟩

theorem stop (held : state.lock = some (owner, .stop .removingInfo)) :
    Sound settings
      ({ state with edgeInfo := none }.returned owner) := by
  have holds := sound.holds owner _ held
  have prepared := sound.prepared owner _ held
  cases owner with
  | connector index => cases holds
  | ticker =>
    have before : state.ticker = .stopping := holds
    have unlocked : Sound settings
        { state with edgeInfo := none, lock := none } :=
      sound.relock none nofun
    have steady : Steady settings { state with edgeInfo := none, lock := none }
        { state with
          edgeInfo := none
          lock := none
          advertiseRequests := state.advertiseRequests
          ticker := .finished } :=
      .ticker unlocked.tracked _ _ (Nat.le_refl _) nofun nofun fun _ =>
        .inr prepared
    have result := unlocked.steady steady
    simp only [AdvertiserState.returned, before, Ticker.return]
    exact result

theorem halt (free : state.lock = none)
    (unfinished : state.ticker ≠ .finished) :
    Sound settings { state with stopped := true } where
  tracked := sound.tracked.of_registry rfl rfl rfl id id
  calls := ⟨sound.calls.covered, sound.calls.reach, sound.calls.requested,
    sound.calls.before, sound.calls.reached, sound.calls.own⟩
  holds owner work held := by
    rw [free] at held
    cases held
  prepared owner work held := by
    rw [free] at held
    cases held
  covers := nofun
  pending := nofun
  explained := sound.explained
  finished done := absurd done unfinished

theorem lockStop (free : state.lock = none) : Sound settings
      { state with
        stopped := true
        lock := some (.ticker, .stop (.reading ∅))
        ticker := .stopping } := by
  have steady : Steady settings state
      { state with
        advertiseRequests := state.advertiseRequests
        ticker := .stopping } := by
    refine .ticker sound.tracked _ _ (Nat.le_refl _) nofun ?_ nofun
    intro owner work held
    rw [free] at held
    cases held
  have halted := (sound.steady steady).halt free nofun
  apply halted.relock state.edgeInfo
  rintro _ _ ⟨⟩
  refine ⟨rfl, rfl, ?_⟩
  intro handle found _ _ read
  cases read

theorem lock (free : state.lock = none) (moved : LockMove state later) :
    Sound settings later := by
  obtain ⟨middle, owner, work, steady, holds, prepared, rfl⟩ :=
    moved.steady settings sound.tracked free
  apply (sound.steady steady).relock middle.edgeInfo
  rintro _ _ ⟨⟩
  exact ⟨holds, prepared⟩

theorem move (moved : Move settings state later) : Sound settings later := by
  cases moved with
  | task moved => exact sound.steady (moved.steady sound.tracked)
  | lock free moved => exact sound.lock free moved
  | lockStop free before => exact sound.lockStop free
  | work edgeInfo held advanced => exact sound.work edgeInfo held advanced
  | skip held reason => exact sound.skip held reason
  | publish held => exact sound.publish held
  | withdraw held => exact sound.withdraw held
  | withdrawAll held => exact sound.withdrawAll held
  | stop held => exact sound.stop held

end Sound

theorem sound_start : Sound settings start where
  tracked :=
    { consistent := ConnectorRegistry.consistent_new
      known := fun current => by cases current
      handles := fun has => by
        obtain ⟨_, member, _⟩ := has
        cases member
      unique := fun known => by cases known
      bounded := fun known => by cases known
      removed := fun gone => by
        obtain ⟨_, member, _⟩ := gone
        cases member
      replaced := fun known => by cases known }
  calls := by
    have none : ∀ {call}, ¬start.Active call := by
      rintro call (⟨_, _, member, _⟩ | ticking)
      · cases member
      · cases ticking
    refine ⟨Nat.le_refl _, Nat.le_refl _, fun active => absurd active none,
      fun active => absurd active none, fun active => absurd active none, ?_⟩
    rintro _ _ ⟨_, member, _⟩
    cases member
  holds := nofun
  prepared := nofun
  covers _ _ current := by cases current
  pending _ _ beyond upTo := absurd upTo beyond.not_ge
  explained _ published := by cases published
  finished := nofun

theorem sound_run (settings : AdvertiserSettings)
    {events : List AdvertiserEvent}
    (answered : ∀ event ∈ events, event.Answered) :
    Sound settings (run settings events) := by
  suffices ∀ events, (∀ event ∈ events, event.Answered) →
      Sound settings (Run.after (step settings) start events) from
    this events answered
  intro events
  apply Run.history_invariant
    (motive := fun events state =>
      (∀ event ∈ events, AdvertiserEvent.Answered event) → Sound settings state)
  · intro _
    exact sound_start
  · intro earlier event sound answered
    have before := sound fun other member =>
      answered other (List.mem_append_left _ member)
    have now := answered event (List.mem_append_right _ (by simp))
    exact before.move (step_move before.tracked now)

theorem mem_localAds (tracked : Tracked state) {ad : RouteAd}
    {edgeId : String} :
    ad ∈ localAds state.registry edgeId ↔
      ∃ handle, state.Current handle ∧ ad ∈ handleAds edgeId handle := by
  rw [localAds, mem_adsOf]
  refine exists_congr fun handle => and_congr_left fun _ => ?_
  rw [mem_snapshot]
  constructor
  · rintro ⟨tenantId, found⟩
    exact tracked.current_of_lookup found
  · intro current
    exact ⟨handle.tenantId, current⟩

/-- No connection task is between its change of the registry and the end of
the call that follows it. -/
def Quiet (state : AdvertiserState) : Prop :=
  ∀ task ∈ state.tasks, task.unadvertised = none ∧ task.unwithdrawn = none

theorem Quiet.unadvertised (quiet : state.Quiet) {handle : ConnectorHandle} :
    ¬state.Unadvertised handle := by
  rintro ⟨task, member, own⟩
  rw [(quiet task member).1] at own
  cases own

theorem Quiet.unwithdrawn (quiet : state.Quiet) {handle : ConnectorHandle} :
    ¬state.Unwithdrawn handle := by
  rintro ⟨task, member, own⟩
  rw [(quiet task member).2] at own
  cases own

/-- A quiet registry is published as it is. -/
theorem Sound.mem_published (sound : Sound settings state)
    (running : state.stopped = false) (quiet : state.Quiet) (ad : RouteAd) :
    ad ∈ state.published ↔ ad ∈ localAds state.registry settings.edgeId := by
  have covered : state.generation ≤ state.reach := by
    by_contra beyond
    obtain ⟨handle, waiting, _⟩ := sound.pending running state.generation
      (Nat.lt_of_not_le beyond) (Nat.le_refl _)
    exact quiet.unadvertised waiting
  rw [mem_localAds sound.tracked]
  constructor
  · intro published
    obtain ⟨handle, _, own, reason⟩ := sound.explained ad published
    rcases reason with current | waiting | ⟨new, replaced, beyond⟩
    · exact ⟨handle, current, own⟩
    · exact absurd waiting quiet.unwithdrawn
    · have known := (sound.tracked.replaced replaced).2.1
      have past := sound.tracked.bounded known
      omega
  · rintro ⟨handle, current, own⟩
    exact sound.covers running current
      ((sound.tracked.current_le current).trans covered) ad own

variable {call : AdvertiseCall}

/-- When `advertise_now` returns, a publish covers its registrations. -/
theorem Sound.reach_of_return (sound : Sound settings state)
    (moved : Move settings state later) {owner : Owner} {stage : Publishing}
    (held : state.lock = some (owner, .advertise call stage))
    (done : later.lock = none) :
    later.stopped = true ∨ call.before ≤ later.reach := by
  have active := active_of_holds (sound.holds owner _ held)
  cases moved with
  | task moved =>
    have steady : Steady settings state later := moved.steady sound.tracked
    rw [steady.lock, held] at done
    cases done
  | lock free moved | lockStop free before =>
    rw [free] at held
    cases held
  | work edgeInfo locked advanced => cases done
  | skip locked reason =>
    rw [held] at locked
    cases locked
    rw [returned_toAdvertiser]
    exact reason.imp_right (sound.calls.reached active)
  | publish locked =>
    rw [held] at locked
    cases locked
    obtain ⟨loaded, _⟩ := sound.prepared owner _ held
    rw [returned_toAdvertiser]
    exact .inr (loaded.reached active loaded.own)
  | withdraw locked | stop locked =>
    rw [held] at locked
    cases locked
  | withdrawAll locked => cases done

theorem active_of_returned {owner : Owner}
    (active : (state.returned owner).Active call) : state.Active call := by
  cases owner with
  | connector index =>
    rcases active with ⟨handle, has⟩ | ticking
    · refine .inl ⟨handle, ?_⟩
      cases found : state.tasks[index]? with
      | none =>
        simp only [returned, List.modify_eq_set_getElem?, found] at has
        exact has
      | some task =>
        simp only [returned, modify_eq_set found] at has
        rcases Tasks.has_of_has_set has with own | before
        · cases task <;> cases own
          exact ⟨_, List.mem_of_getElem? found, rfl⟩
        · exact before
    · exact .inr ticking
  | ticker =>
    rcases active with tasks | ticking
    · exact .inl tasks
    · refine .inr ?_
      simp only [returned] at ticking
      cases ticker : state.ticker with
      | requested other => simpa [ticker, Ticker.return] using ticking
      | _ => simp [ticker, Ticker.return, Ticker.made] at ticking

/-- A new call of `advertise_now` is to cover the registrations made so
far. -/
theorem Sound.active_of_move (sound : Sound settings state)
    (moved : Move settings state later) (active : later.Active call) :
    state.Active call ∨ call.before = state.generation := by
  cases moved with
  | task moved =>
    have steady : Steady settings state later := moved.steady sound.tracked
    exact (steady.active active).imp_right (·.2.2)
  | lock free moved =>
    obtain ⟨middle, owner, work, steady, _, _, rfl⟩ :=
      moved.steady settings sound.tracked free
    exact (steady.active active).imp_right (·.2.2)
  | lockStop free before =>
    rcases active with tasks | ticking
    · exact .inl (.inl tasks)
    · cases ticking
  | work edgeInfo locked advanced => exact .inl active
  | skip locked reason => exact .inl (active_of_returned active)
  | publish locked | withdraw locked | stop locked =>
    have before := active_of_returned active
    exact .inl before
  | withdrawAll locked => exact .inl active

theorem Sound.generation_le_of_move (sound : Sound settings state)
    (moved : Move settings state later) :
    state.generation ≤ later.generation := by
  cases moved with
  | task moved =>
    have steady : Steady settings state later := moved.steady sound.tracked
    exact steady.evolves.generation
  | lock free moved =>
    obtain ⟨middle, owner, work, steady, _, _, rfl⟩ :=
      moved.steady settings sound.tracked free
    exact steady.evolves.generation
  | lockStop free before | work edgeInfo locked advanced | withdrawAll locked =>
    exact Nat.le_refl _
  | skip locked reason | publish locked | withdraw locked | stop locked =>
    rw [generation, generation, returned_toAdvertiser]

theorem answered_append {first rest : List AdvertiserEvent}
    (answered : ∀ event ∈ first ++ rest, event.Answered) :
    (∀ event ∈ first, event.Answered) ∧ ∀ event ∈ rest, event.Answered :=
  ⟨fun event member => answered event (List.mem_append_left _ member),
    fun event member => answered event (List.mem_append_right _ member)⟩

theorem run_move (settings : AdvertiserSettings)
    {events : List AdvertiserEvent} {event : AdvertiserEvent}
    (answered : ∀ other ∈ events ++ [event], other.Answered) :
    Move settings (run settings events) (run settings (events ++ [event])) := by
  obtain ⟨earlier, now⟩ := answered_append answered
  have sound := sound_run settings earlier
  have next : run settings (events ++ [event]) =
      step settings (run settings events) event :=
    Run.after_concat _ _ _ _
  rw [next]
  exact step_move sound.tracked (now event List.mem_cons_self)

/-- A call that was made after a point of a run is to cover the registrations
made until then. -/
theorem before_of_later {first rest : List AdvertiserEvent}
    (answered : ∀ event ∈ first ++ rest, event.Answered) :
    (run settings first).generation ≤
      (run settings (first ++ rest)).generation ∧
      ∀ {call}, (run settings (first ++ rest)).Active call →
        (run settings first).advertiseRequests < call.request →
          (run settings first).generation ≤ call.before := by
  induction rest using List.reverseRecOn with
  | nil =>
    rw [List.append_nil] at answered ⊢
    refine ⟨Nat.le_refl _, ?_⟩
    intro call active late
    have sound := sound_run settings answered
    exact absurd late (sound.calls.requested active).not_gt
  | append_singleton rest event ih =>
    rw [← List.append_assoc] at answered ⊢
    have earlier := (answered_append answered).1
    obtain ⟨grown, covered⟩ := ih earlier
    have sound : Sound settings (run settings (first ++ rest)) :=
      sound_run settings earlier
    have moved := run_move settings answered
    refine ⟨grown.trans (sound.generation_le_of_move moved), ?_⟩
    intro call active late
    rcases sound.active_of_move moved active with before | new
    · exact covered before late
    · rw [new]
      exact grown

/-- Advertised routes follow the registry until `stop` takes the lock, over
every interleaving in which the control plane answers.  While no connection
task is between its change of the registry and the end of the call that
follows it, the published routes are those of the registry.  When a call of
`advertise_now` returns that was made after the events `first`, the routes of
every registration made until then and still current are published. -/
theorem advertised_routes (settings : AdvertiserSettings)
    (events : List AdvertiserEvent)
    (answered : ∀ event ∈ events, event.Answered)
    (running : (run settings events).stopped = false) :
    ((run settings events).Quiet → ∀ ad, ad ∈ (run settings events).published ↔
        ad ∈ localAds (run settings events).registry settings.edgeId) ∧
    ∀ first rest event owner call stage, events = first ++ rest ++ [event] →
      (run settings (first ++ rest)).lock =
        some (owner, .advertise call stage) →
      (run settings events).lock = none →
      (run settings first).advertiseRequests < call.request →
      ∀ handle, (run settings events).registry.IsCurrent handle →
        handle.generation ≤ (run settings first).registry.nextGeneration →
          ∀ ad ∈ handleAds settings.edgeId handle,
            ad ∈ (run settings events).published := by
  have sound := sound_run settings answered
  refine ⟨sound.mem_published running, ?_⟩
  rintro first rest event owner call stage rfl held done late handle current
    made
  have earlier := (answered_append answered).1
  have before : Sound settings (run settings (first ++ rest)) :=
    sound_run settings earlier
  have moved := run_move settings answered
  have active := active_of_holds (before.holds owner _ held)
  have covers := (before_of_later earlier).2 active late
  rcases before.reach_of_return moved held done with stopped | reached
  · rw [running] at stopped
    cases stopped
  · exact sound.covers running current (made.trans (covers.trans reached))

def edgeA : AdvertiserSettings :=
  { edgeId := "edge-a", info := { advertise := "192.0.2.1:4433", udp := true } }

def registrationOf (tenantId hostname : String) (connection : Nat) :
    Registration :=
  { tenantId, hostnames := [hostname], services := none, connection
    udpReplyMap := connection }

/-- Two Connectors register; the publish for the first one covers the request
of the second. -/
def coalesced : List AdvertiserEvent :=
  let first := .proceed (.connector 0) .answered
  let second := .proceed (.connector 1) .answered
  [.connect (registrationOf "tenant-a" "a.example.com" 1),
    .connect (registrationOf "tenant-b" "b.example.com" 2),
    first, second, first, first, first, .read "tenant-a", first, first,
    second, second]

theorem advertised_routes_coalesced :
    (run edgeA coalesced).published.length = 6 ∧
      ∀ ad, ad ∈ (run edgeA coalesced).published ↔
        ad ∈ localAds (run edgeA coalesced).registry edgeA.edgeId := by
  have quiet : (run edgeA coalesced).Quiet := by
    unfold Quiet
    decide +kernel
  exact ⟨by decide +kernel, (advertised_routes edgeA coalesced
    (by decide +kernel) (by decide +kernel)).1 quiet⟩

end AdvertiserState

end Mesh

end SieveTube
