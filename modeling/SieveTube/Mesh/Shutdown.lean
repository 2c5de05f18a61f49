import SieveTube.Mesh.Advertised

/-!
# Routes that are left after `stop`

`stop` withdraws the routes of the registrations it finds.  A registration
that was replaced is not among them, and its own task does not withdraw it
either; its routes are left if no publish came in between.
-/

namespace SieveTube

namespace Mesh

namespace AdvertiserState

variable {settings : AdvertiserSettings}
variable {origin state later : AdvertiserState} {ads : List RouteAd}

theorem TaskMove.finished (moved : TaskMove state later)
    (done : state.ticker = .finished) : later.ticker = .finished := by
  cases moved with
  | stay | finish found | call found => exact done
  | join joined => exact (congrArg (·.ticker) joined.others).trans done
  | leave left => exact (congrArg (·.ticker) left.others).trans done
  | wake before after | refresh before =>
    rw [before] at done
    cases done

namespace LockMove

variable (moved : LockMove state later)
include moved

theorem finished (done : state.ticker = .finished) :
    later.ticker = .finished := by
  cases moved with
  | advertise found | withdraw found => exact done
  | refresh before =>
    rw [before] at done
    cases done

theorem published : later.published = state.published := by
  cases moved <;> rfl

theorem stopped : later.stopped = state.stopped := by
  cases moved <;> rfl

theorem evolves : Evolves state later := by
  cases moved with
  | advertise found =>
    exact .of_registry rfl rfl rfl (Tasks.has_set found nofun)
  | refresh before => exact .of_registry rfl rfl rfl id
  | withdraw found => exact .of_registry rfl rfl rfl (Tasks.has_set found id)

end LockMove

/-- The run has come to the withdrawal of `stop`, where it was at `origin`.
Since then routes are only withdrawn. -/
structure AfterStop (settings : AdvertiserSettings) (origin : AdvertiserState)
    (ads : List RouteAd) (state : AdvertiserState) : Prop where
  stopped : state.stopped = true
  subset : ∀ {ad}, ad ∈ state.published → ad ∈ origin.published
  kept : ∀ {ad old new}, ad ∈ origin.published → ad ∉ ads →
    (old, new) ∈ origin.replaced → ad ∈ handleAds settings.edgeId old →
      ad ∈ state.published
  replaced : ∀ {pair}, pair ∈ origin.replaced → pair ∈ state.replaced
  gone : ∀ {ad}, ad ∈ state.published → ad ∉ ads →
    ∃ handle ∈ state.registered, ad ∈ handleAds settings.edgeId handle ∧
      (state.Unwithdrawn handle ∨ ∃ new, (handle, new) ∈ origin.replaced)
  phase : state.lock = some (.ticker, .stop (.withdrawing ads)) ∨
    (state.lock = some (.ticker, .stop .removingInfo) ∨
      state.ticker = .finished) ∧ ∀ ad ∈ state.published, ad ∉ ads

theorem Sound.afterStop (sound : Sound settings state)
    (held : state.lock = some (.ticker, .stop (.withdrawing ads))) :
    AfterStop settings state ads state := by
  obtain ⟨stopped, covers⟩ := sound.prepared _ _ held
  refine ⟨stopped, id, fun published _ _ _ => published, id, ?_, .inl held⟩
  intro ad published other
  obtain ⟨handle, known, own, reason⟩ := sound.explained ad published
  refine ⟨handle, known, own, ?_⟩
  rcases reason with current | waiting | ⟨new, replaced, _⟩
  · exact absurd (covers current ⟨ad, own, published⟩ ad own) other
  · exact .inl waiting
  · exact .inr ⟨new, replaced⟩

namespace AfterStop

variable (after : AfterStop settings origin ads state)
include after

theorem frame (published : later.published = state.published)
    (stopped : later.stopped = state.stopped)
    (evolves : Evolves state later)
    (phase : state.lock = some (.ticker, .stop (.withdrawing ads)) →
      later.lock = some (.ticker, .stop (.withdrawing ads)))
    (past : state.lock = some (.ticker, .stop .removingInfo) ∨
      state.ticker = .finished →
      later.lock = some (.ticker, .stop .removingInfo) ∨
        later.ticker = .finished) :
    AfterStop settings origin ads later where
  stopped := stopped.trans after.stopped
  subset left := after.subset (published ▸ left)
  kept was other pair own := by
    rw [published]
    exact after.kept was other pair own
  replaced pair := evolves.replaced (after.replaced pair)
  gone {ad} left other := by
    rw [published] at left
    obtain ⟨handle, known, own, reason⟩ := after.gone left other
    exact ⟨handle, evolves.registered known, own,
      reason.imp_left evolves.unwithdrawn⟩
  phase := by
    rw [published]
    rcases after.phase with before | ⟨done, none⟩
    · exact .inl (phase before)
    · exact .inr ⟨past done, none⟩

theorem not_mem_withdrawn (sound : Sound settings state)
    {handle old new : ConnectorHandle} {ad : RouteAd}
    (waiting : state.Unwithdrawn handle)
    (pair : (old, new) ∈ origin.replaced)
    (own : ad ∈ handleAds settings.edgeId old) :
    ad ∉ handleAds settings.edgeId handle := by
  intro withdrawn
  obtain ⟨known, _, _, done⟩ := sound.tracked.replaced (after.replaced pair)
  have same : old = handle := sound.tracked.unique known
    (sound.tracked.handles (has_handle_of_unwithdrawn waiting))
    ((generation_of_mem own).symm.trans (generation_of_mem withdrawn))
  exact done (same ▸ waiting)

theorem task (sound : Sound settings state) (moved : TaskMove state later) :
    AfterStop settings origin ads later := by
  have steady : Steady settings state later := moved.steady sound.tracked
  apply after.frame steady.published steady.stopped steady.evolves
  · exact steady.lock.trans
  · exact Or.imp steady.lock.trans moved.finished

theorem lock (free : state.lock = none) (moved : LockMove state later) :
    AfterStop settings origin ads later := by
  apply after.frame moved.published moved.stopped moved.evolves
  · intro held
    rw [free] at held
    cases held
  · rintro (held | done)
    · rw [free] at held
      cases held
    · exact .inr (moved.finished done)

variable {owner : Owner}

variable (sound : Sound settings state)
include sound

theorem work {work next : Work} (edgeInfo : Option EdgeInfo)
    (held : state.lock = some (owner, work))
    (advanced : WorkMove settings state work next) :
    AfterStop settings origin ads
      { state with edgeInfo, lock := some (owner, next) } := by
  have prepared := sound.prepared owner work held
  have running : state.stopped ≠ false := by
    rw [after.stopped]
    nofun
  cases advanced with
  | load call now => exact absurd now running
  | begin call covered upTo => exact absurd prepared.running running
  | collect call covered upTo seen => exact absurd prepared.1.running running
  | collectAll seen =>
    have holds := sound.holds owner _ held
    rcases after.phase with before | ⟨before | done, _⟩
    · rw [before] at held
      cases held
    · rw [before] at held
      cases held
    · cases owner with
      | connector index => cases holds
      | ticker =>
        have inside : state.ticker = .stopping := holds
        rw [done] at inside
        cases inside
  | read work tenantId =>
    refine after.frame rfl rfl (.of_registry rfl rfl rfl id) ?_ ?_
    · intro before
      rw [held] at before
      cases before
      rfl
    · rintro (before | done)
      · rw [held] at before
        cases before
        exact .inl rfl
      · exact .inr done

theorem skip {call : AdvertiseCall}
    (held : state.lock = some (owner, .advertise call .checking)) :
    AfterStop settings origin ads (state.returned owner) := by
  have holds := sound.holds owner _ held
  refine after.frame (congrArg (·.published) returned_toAdvertiser)
    (congrArg (·.stopped) returned_toAdvertiser)
    (.of_registry (congrArg (·.registry) returned_toAdvertiser)
      (congrArg (·.registered) returned_toAdvertiser)
      (congrArg (·.replaced) returned_toAdvertiser) ?_) ?_ ?_
  · intro handle waiting
    cases owner with
    | ticker => exact waiting
    | connector index =>
      obtain ⟨other, found⟩ := holds
      simp only [Unwithdrawn, returned, modify_eq_set found]
      exact Tasks.has_set found (by rintro ⟨⟩) waiting
  · intro before
    rw [held] at before
    cases before
  · rintro (before | done)
    · rw [held] at before
      cases before
    · cases owner with
      | connector index => exact .inr done
      | ticker =>
        have inside : state.ticker = .advertising call := holds
        rw [done] at inside
        cases inside

theorem withdraw {handle : ConnectorHandle}
    (held : state.lock = some (owner, .withdraw handle)) :
    AfterStop settings origin ads ({ state with
      published := state.published.filter
        (· ∉ handleAds settings.edgeId handle) }.returned owner) := by
  have holds := sound.holds owner _ held
  cases owner with
  | ticker => cases holds
  | connector index =>
    have found : state.tasks[index]? = some (.withdrawing handle) := holds
    have waiting : state.Unwithdrawn handle :=
      ⟨_, List.mem_of_getElem? found, rfl⟩
    obtain ⟨done, none⟩ : state.ticker = .finished ∧ ∀ ad ∈ state.published,
        ad ∉ ads := by
      rcases after.phase with before | ⟨before | done, none⟩
      · rw [held] at before
        cases before
      · rw [held] at before
        cases before
      · exact ⟨done, none⟩
    simp only [returned, modify_eq_set found, ConnectorTask.return]
    refine ⟨after.stopped, ?_, ?_, after.replaced, ?_, .inr ⟨.inr done, ?_⟩⟩
    · intro ad left
      exact after.subset (List.mem_of_mem_filter left)
    · intro ad old new was other pair own
      simp only [List.mem_filter, decide_eq_true_eq]
      exact ⟨after.kept was other pair own,
        after.not_mem_withdrawn sound waiting pair own⟩
    · intro ad left other
      simp only [List.mem_filter, decide_eq_true_eq] at left
      obtain ⟨made, known, own, reason⟩ := after.gone left.1 other
      refine ⟨made, known, own, reason.imp_left ?_⟩
      refine Tasks.has_set found ?_
      intro same
      cases same
      exact absurd own left.2
    · intro ad left
      exact none ad (List.mem_of_mem_filter left)

theorem withdrawAll {found : List RouteAd}
    (held : state.lock = some (owner, .stop (.withdrawing found))) :
    AfterStop settings origin ads { state with
      published := state.published.filter (· ∉ found)
      lock := some (owner, .stop .removingInfo) } := by
  have holds := sound.holds owner _ held
  rcases after.phase with before | ⟨before | done, _⟩
  · rw [held] at before
    cases before
    refine ⟨after.stopped, ?_, ?_, after.replaced, ?_, .inr ⟨.inl rfl, ?_⟩⟩
    · intro ad left
      exact after.subset (List.mem_of_mem_filter left)
    · intro ad old new was other pair own
      simp only [List.mem_filter, decide_eq_true_eq]
      exact ⟨after.kept was other pair own, other⟩
    · intro ad left other
      exact after.gone (List.mem_of_mem_filter left) other
    · intro ad left
      simpa using (List.mem_filter.mp left).2
  · rw [held] at before
    cases before
  · cases owner with
    | connector index => cases holds
    | ticker =>
      have inside : state.ticker = .stopping := holds
      rw [done] at inside
      cases inside

theorem stop (held : state.lock = some (owner, .stop .removingInfo)) :
    AfterStop settings origin ads
      ({ state with edgeInfo := none }.returned owner) := by
  have holds := sound.holds owner _ held
  cases owner with
  | connector index => cases holds
  | ticker =>
    have inside : state.ticker = .stopping := holds
    refine after.frame rfl rfl (.of_registry rfl rfl rfl id) ?_ ?_
    · intro before
      rw [held] at before
      cases before
    · intro _
      right
      simp only [returned, inside, Ticker.return]

theorem move (moved : Move settings state later) :
    AfterStop settings origin ads later := by
  have running : state.stopped ≠ false := by
    rw [after.stopped]
    nofun
  cases moved with
  | task moved => exact after.task sound moved
  | lock free moved => exact after.lock free moved
  | lockStop free before =>
    rcases after.phase with held | ⟨held | done, _⟩
    · rw [free] at held
      cases held
    · rw [free] at held
      cases held
    · rw [before] at done
      cases done
  | work edgeInfo held advanced => exact after.work sound edgeInfo held advanced
  | skip held reason => exact after.skip sound held
  | publish held =>
    obtain ⟨loaded, _⟩ := sound.prepared _ _ held
    exact absurd loaded.running running
  | withdraw held => exact after.withdraw sound held
  | withdrawAll held => exact after.withdrawAll sound held
  | stop held => exact after.stop sound held

end AfterStop

section

variable {first rest : List AdvertiserEvent}
  (answered : ∀ event ∈ first ++ rest, event.Answered)
include answered

theorem afterStop_run
    (held : (run settings first).lock =
      some (.ticker, .stop (.withdrawing ads))) :
    AfterStop settings (run settings first) ads
      (run settings (first ++ rest)) := by
  induction rest using List.reverseRecOn with
  | nil =>
    rw [List.append_nil] at answered ⊢
    exact (sound_run settings answered).afterStop held
  | append_singleton rest event ih =>
    rw [← List.append_assoc] at answered ⊢
    have earlier := (answered_append answered).1
    exact (ih earlier).move (sound_run settings earlier)
      (run_move settings answered)

/-- The routes that are left are those, published when `stop` withdrew what it
had found, of registrations that a newer connection of their tenant had
replaced. -/
theorem mem_published_after_stop
    (withdrawing : (run settings first).lock =
      some (.ticker, .stop (.withdrawing ads)))
    (finished : (run settings (first ++ rest)).ticker = .finished)
    (quiet : (run settings (first ++ rest)).Quiet) (ad : RouteAd) :
    ad ∈ (run settings (first ++ rest)).published ↔
      ad ∈ (run settings first).published ∧ ad ∉ ads ∧
        ∃ old new, (old, new) ∈ (run settings first).replaced ∧
          ad ∈ handleAds settings.edgeId old := by
  have after := afterStop_run answered withdrawing
  have sound := sound_run settings answered
  constructor
  · intro left
    have other : ad ∉ ads := by
      rcases after.phase with held | ⟨_, none⟩
      · have inside : (run settings (first ++ rest)).ticker = .stopping :=
          sound.holds _ _ held
        rw [finished] at inside
        cases inside
      · exact none ad left
    obtain ⟨handle, _, own, waiting | ⟨new, pair⟩⟩ := after.gone left other
    · exact absurd waiting quiet.unwithdrawn
    · exact ⟨after.subset left, other, handle, new, pair, own⟩
  · rintro ⟨was, other, old, new, pair, own⟩
    exact after.kept was other pair own

end

/-- Once `stop` has returned and every call of `advertise_now` and `withdraw`
has finished, over every interleaving in which the control plane answers, no
route of this Edge is left exactly if, when `stop` withdrew the routes it had
found, no other published route was one of a registration that a newer
connection of its tenant had replaced. -/
theorem no_route_left_iff (settings : AdvertiserSettings)
    (first rest : List AdvertiserEvent)
    (answered : ∀ event ∈ first ++ rest, event.Answered)
    (ads : List RouteAd)
    (withdrawing : (run settings first).lock =
      some (.ticker, .stop (.withdrawing ads)))
    (finished : (run settings (first ++ rest)).ticker = .finished)
    (quiet : (run settings (first ++ rest)).Quiet) :
    (run settings (first ++ rest)).published = [] ↔
      ∀ ad ∈ (run settings first).published, ad ∉ ads →
      ∀ pair ∈ (run settings first).replaced,
          ad ∉ handleAds settings.edgeId pair.1 := by
  have left := mem_published_after_stop answered withdrawing finished quiet
  rw [List.eq_nil_iff_forall_not_mem]
  constructor
  · intro none ad was other pair replaced own
    exact none ad ((left ad).mpr ⟨was, other, pair.1, pair.2, replaced, own⟩)
  · intro condition ad published
    obtain ⟨was, other, old, new, replaced, own⟩ := (left ad).mp published
    exact condition ad was other (old, new) replaced own

/-- A connection is registered and advertised. -/
def advertisedOnce : List AdvertiserEvent :=
  .connect (registrationOf "tenant-a" "a.example.com" 1) ::
    List.replicate 6 (.proceed (.connector 0) .answered)

/-- `stop` takes the lock and reads the registry. -/
def stopCollects : List AdvertiserEvent :=
  [.shutdown, .proceed .ticker .answered, .proceed .ticker .answered]

/-- `stop` withdraws what it found and returns. -/
def stopReturns : List AdvertiserEvent :=
  List.replicate 2 (.proceed .ticker .answered)

theorem no_route_left_advertisedOnce :
    (run edgeA ((advertisedOnce ++ stopCollects) ++ stopReturns)).published =
      [] := by
  have quiet : (run edgeA ((advertisedOnce ++ stopCollects) ++
      stopReturns)).Quiet := by
    unfold Quiet
    decide +kernel
  have unreplaced : (run edgeA (advertisedOnce ++ stopCollects)).replaced =
      [] := by
    decide +kernel
  apply (no_route_left_iff edgeA (advertisedOnce ++ stopCollects) stopReturns
    (by decide +kernel) _ rfl (by decide +kernel) quiet).mpr
  intro ad _ _ pair replaced
  cases replaced

/-- A newer connection of the tenant is registered, but not advertised, when
`stop` runs.  Both connections end afterwards. -/
def replacedBeforeStop : List AdvertiserEvent :=
  advertisedOnce ++ [.connect (registrationOf "tenant-a" "a.example.com" 2)] ++
    stopCollects ++ stopReturns ++
    List.replicate 3 (.proceed (.connector 1) .answered) ++
    [.close 0, .close 1] ++
    List.replicate 2 (.proceed (.connector 1) .answered)

/-- The routes of the replaced registration are left. -/
theorem replaced_routes_left : (∀ event ∈ replacedBeforeStop, event.Answered) ∧
      (run edgeA replacedBeforeStop).ticker = .finished ∧
      (run edgeA replacedBeforeStop).Quiet ∧
      (run edgeA replacedBeforeStop).published.length = 3 := by
  unfold Quiet
  decide +kernel

end AdvertiserState

end Mesh

end SieveTube
