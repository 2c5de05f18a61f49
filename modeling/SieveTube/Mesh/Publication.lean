import SieveTube.Mesh.AdvertiserMove

/-!
# Published routes follow the registry

The number of requests is read before the snapshot, so a publish covers every
registration that was made before one of these requests.
-/

namespace SieveTube

namespace Mesh

namespace AdvertiserState

variable {settings : AdvertiserSettings} {state later : AdvertiserState}

/-- The task of the holder is inside the call it took the lock for. -/
def Holds (state : AdvertiserState) : Owner → Work → Prop
  | .connector index, .advertise call _ =>
    ∃ handle, state.tasks[index]? = some (.advertising handle call)
  | .connector index, .withdraw handle =>
    state.tasks[index]? = some (.withdrawing handle)
  | .ticker, .advertise call _ => state.ticker = .advertising call
  | .ticker, .stop _ => state.ticker = .stopping
  | .connector _, .stop _ | .ticker, .withdraw _ => False

theorem active_of_holds {owner : Owner}
    {call : AdvertiseCall} {stage : Publishing}
    (holds : state.Holds owner (.advertise call stage)) :
    state.Active call := by
  cases owner with
  | connector index =>
    obtain ⟨handle, found⟩ := holds
    exact .inl ⟨handle, _, List.mem_of_getElem? found, rfl⟩
  | ticker =>
    have ticking : state.ticker = .advertising call := holds
    exact .inr (by rw [ticking]; rfl)

/-- A call of `advertise_now` was made after the registrations it is to
cover. -/
structure Calls (state : AdvertiserState) : Prop where
  covered : state.covered ≤ state.advertiseRequests
  reach : state.reach ≤ state.generation
  requested : ∀ {call}, state.Active call →
    call.request ≤ state.advertiseRequests
  before : ∀ {call}, state.Active call → call.before ≤ state.generation
  reached : ∀ {call}, state.Active call → call.request ≤ state.covered →
    call.before ≤ state.reach
  own : ∀ {handle call},
    Tasks.Has ConnectorTask.made state.tasks (handle, call) →
      handle.generation ≤ call.before

/-- The numbers that a publish works with. -/
structure Loaded (state : AdvertiserState) (call : AdvertiseCall)
    (covered upTo : Nat) : Prop where
  running : state.stopped = false
  requests : covered ≤ state.advertiseRequests
  generations : upTo ≤ state.generation
  further : state.reach ≤ upTo
  own : call.request ≤ covered
  reached : ∀ {call}, state.Active call → call.request ≤ covered →
    call.before ≤ upTo

/-- The registration has a published route. -/
def HasRoute (settings : AdvertiserSettings) (state : AdvertiserState)
    (handle : ConnectorHandle) : Prop :=
  ∃ ad ∈ handleAds settings.edgeId handle, ad ∈ state.published

def UpTo (upTo : Nat) (handle : ConnectorHandle) : Prop :=
  handle.generation ≤ upTo

/-- What the holder of the lock knows. -/
def Prepared (settings : AdvertiserSettings) (state : AdvertiserState) :
    Work → Prop
  | .advertise _ .checking | .withdraw _ => True
  | .advertise call (.loaded covered upTo) => state.Loaded call covered upTo
  | .advertise call (.reading covered upTo seen) =>
    state.Loaded call covered upTo ∧ state.Fresh (UpTo upTo) seen ∧
      state.SeenExplained upTo seen
  | .advertise call (.publishing covered upTo ads) =>
    state.Loaded call covered upTo ∧ state.Covers settings (UpTo upTo) ads ∧
      state.AdsExplained settings upTo ads
  | .stop (.reading seen) =>
    state.stopped = true ∧ state.Fresh (HasRoute settings state) seen
  | .stop (.withdrawing ads) =>
    state.stopped = true ∧ state.Covers settings (HasRoute settings state) ads
  | .stop .removingInfo =>
    state.stopped = true ∧ ∀ {handle}, state.Current handle →
      ¬HasRoute settings state handle

/-- What holds after every run in which the control plane answers. -/
structure Sound (settings : AdvertiserSettings)
    (state : AdvertiserState) : Prop where
  tracked : Tracked state
  calls : Calls state
  holds : ∀ owner work, state.lock = some (owner, work) → state.Holds owner work
  prepared : ∀ owner work, state.lock = some (owner, work) →
    state.Prepared settings work
  covers : state.stopped = false →
    state.Covers settings (UpTo state.reach) state.published
  pending : state.stopped = false → ∀ generation, state.reach < generation →
    generation ≤ state.generation → ∃ handle, state.Unadvertised handle ∧
      handle.generation = generation
  explained : state.AdsExplained settings state.reach state.published
  finished : state.ticker = .finished → state.stopped = true ∧
    ∀ {handle}, state.Current handle → ¬HasRoute settings state handle

/-- Tasks and registrations go on while the lock and what is published stay
the same. -/
structure Steady (settings : AdvertiserSettings)
    (state later : AdvertiserState) : Prop where
  tracked : Tracked later
  evolves : Evolves state later
  lock : later.lock = state.lock
  published : later.published = state.published
  covered : later.covered = state.covered
  reach : later.reach = state.reach
  stopped : later.stopped = state.stopped
  requests : state.advertiseRequests ≤ later.advertiseRequests
  active : ∀ {call}, later.Active call → state.Active call ∨
    state.advertiseRequests < call.request ∧
      call.request ≤ later.advertiseRequests ∧ call.before = state.generation
  made : ∀ {handle call},
    Tasks.Has ConnectorTask.made later.tasks (handle, call) →
      Tasks.Has ConnectorTask.made state.tasks (handle, call) ∨
        handle.generation ≤ call.before
  holds : ∀ owner work, state.lock = some (owner, work) →
    state.Holds owner work → later.Holds owner work
  pending : ∀ {handle}, state.Unadvertised handle →
    later.Unadvertised handle ∨ state.stopped = true ∨
      handle.generation ≤ state.reach
  joined : ∀ generation, state.generation < generation →
    generation ≤ later.generation → ∃ handle, later.Unadvertised handle ∧
      handle.generation = generation
  finished : later.ticker = .finished →
    state.ticker = .finished ∨ state.stopped = true ∧
      ∀ {handle}, state.Current handle → ¬HasRoute settings state handle

namespace Steady

theorem loaded (steady : Steady settings state later) {call : AdvertiseCall}
    {covered upTo : Nat} (loaded : Loaded state call covered upTo) :
    Loaded later call covered upTo where
  running := steady.stopped.trans loaded.running
  requests := loaded.requests.trans steady.requests
  generations := loaded.generations.trans steady.evolves.generation
  further := steady.reach.trans_le loaded.further
  own := loaded.own
  reached {other} active asked := by
    rcases steady.active active with before | ⟨new, _⟩
    · exact loaded.reached before asked
    · have old := loaded.requests
      omega

theorem hasRoute (steady : Steady settings state later) :
    HasRoute settings later = HasRoute settings state := by
  funext handle
  rw [HasRoute, HasRoute, steady.published]

end Steady

theorem Loaded.relock {call : AdvertiseCall} {covered upTo : Nat}
    (loaded : Loaded state call covered upTo)
    (edgeInfo : Option EdgeInfo) (lock : Option (Owner × Work)) :
    Loaded { state with edgeInfo, lock } call covered upTo :=
  ⟨loaded.running, loaded.requests, loaded.generations, loaded.further,
    loaded.own, loaded.reached⟩

namespace Sound

variable (sound : Sound settings state)
include sound

theorem generation_le_of_hasRoute {handle : ConnectorHandle}
    (route : HasRoute settings state handle) :
    handle.generation ≤ state.generation := by
  obtain ⟨ad, own, published⟩ := route
  obtain ⟨other, known, from_, _⟩ := sound.explained ad published
  have past := sound.tracked.bounded known
  rw [← generation_of_mem from_, generation_of_mem own] at past
  exact past

theorem calls_steady (steady : Steady settings state later) : Calls later where
  covered := by
    rw [steady.covered]
    exact sound.calls.covered.trans steady.requests
  reach := by
    rw [steady.reach]
    exact sound.calls.reach.trans steady.evolves.generation
  requested active := by
    rcases steady.active active with before | ⟨_, new, _⟩
    · exact (sound.calls.requested before).trans steady.requests
    · exact new
  before active := by
    rcases steady.active active with before | ⟨_, _, new⟩
    · exact (sound.calls.before before).trans steady.evolves.generation
    · exact new.trans_le steady.evolves.generation
  reached active asked := by
    rw [steady.covered] at asked
    rw [steady.reach]
    rcases steady.active active with before | ⟨new, _⟩
    · exact sound.calls.reached before asked
    · have old := sound.calls.covered
      omega
  own has := by
    rcases steady.made has with before | new
    · exact sound.calls.own before
    · exact new

theorem prepared_steady (steady : Steady settings state later) {work : Work}
    (prepared : state.Prepared settings work) :
    later.Prepared settings work := by
  have route : ∀ handle, HasRoute settings state handle →
      handle.generation ≤ state.generation :=
    fun handle => sound.generation_le_of_hasRoute
  cases work with
  | withdraw handle => trivial
  | advertise call stage =>
    cases stage with
    | checking => trivial
    | loaded covered upTo => exact steady.loaded prepared
    | reading covered upTo seen =>
      obtain ⟨loaded, fresh, explained⟩ := prepared
      have past := loaded.generations
      exact ⟨steady.loaded loaded,
        steady.evolves.fresh (fun _ own => own.trans past) fresh,
        steady.evolves.seenExplained past explained⟩
    | publishing covered upTo ads =>
      obtain ⟨loaded, covers, explained⟩ := prepared
      have past := loaded.generations
      exact ⟨steady.loaded loaded,
        steady.evolves.covers (fun _ own => own.trans past) covers,
        steady.evolves.adsExplained past explained⟩
  | stop stage =>
    cases stage with
    | reading seen =>
      obtain ⟨stopped, fresh⟩ := prepared
      refine ⟨steady.stopped.trans stopped, ?_⟩
      rw [steady.hasRoute]
      exact steady.evolves.fresh route fresh
    | withdrawing ads =>
      obtain ⟨stopped, covers⟩ := prepared
      refine ⟨steady.stopped.trans stopped, ?_⟩
      rw [steady.hasRoute]
      exact steady.evolves.covers route covers
    | removingInfo =>
      obtain ⟨stopped, gone⟩ := prepared
      refine ⟨steady.stopped.trans stopped, ?_⟩
      rw [steady.hasRoute]
      intro handle current has
      exact gone (steady.evolves.current_of_past route current has) has

theorem steady (steady : Steady settings state later) :
    Sound settings later where
  tracked := steady.tracked
  calls := sound.calls_steady steady
  holds owner work held := by
    rw [steady.lock] at held
    exact steady.holds owner work held (sound.holds owner work held)
  prepared owner work held := by
    rw [steady.lock] at held
    exact sound.prepared_steady steady (sound.prepared owner work held)
  covers running := by
    rw [steady.reach, steady.published]
    rw [steady.stopped] at running
    exact steady.evolves.covers (fun _ own => own.trans sound.calls.reach)
      (sound.covers running)
  pending running generation beyond made := by
    rw [steady.stopped] at running
    rw [steady.reach] at beyond
    by_cases new : state.generation < generation
    · exact steady.joined generation new made
    · obtain ⟨handle, waiting, rfl⟩ :=
        sound.pending running generation beyond (Nat.le_of_not_lt new)
      rcases steady.pending waiting with still | stopped | reached
      · exact ⟨handle, still, rfl⟩
      · rw [running] at stopped
        cases stopped
      · exact absurd beyond reached.not_gt
  explained := by
    rw [steady.reach, steady.published]
    exact steady.evolves.adsExplained sound.calls.reach sound.explained
  finished done := by
    rw [steady.hasRoute, steady.stopped]
    have gone : state.stopped = true ∧ ∀ {handle}, state.Current handle →
        ¬HasRoute settings state handle := by
      rcases steady.finished done with before | now
      · exact sound.finished before
      · exact now
    refine ⟨gone.1, ?_⟩
    intro handle current has
    exact gone.2 (steady.evolves.current_of_past
      (fun _ => sound.generation_le_of_hasRoute) current has) has

/-- Nothing but what the holder does depends on the lock. -/
theorem relock (edgeInfo : Option EdgeInfo) {lock : Option (Owner × Work)}
    (ready : ∀ owner work, lock = some (owner, work) →
      state.Holds owner work ∧ state.Prepared settings work) :
    Sound settings { state with edgeInfo, lock } where
  tracked := sound.tracked.of_registry rfl rfl rfl id id
  calls := ⟨sound.calls.covered, sound.calls.reach, sound.calls.requested,
    sound.calls.before, sound.calls.reached, sound.calls.own⟩
  holds owner work held := by
    have holds := (ready owner work held).1
    cases owner <;> cases work <;> exact holds
  prepared owner work held := by
    have prepared := (ready owner work held).2
    cases work with
    | withdraw handle => trivial
    | advertise call stage =>
      cases stage with
      | checking => trivial
      | loaded covered upTo => exact Loaded.relock prepared edgeInfo lock
      | reading covered upTo seen | publishing covered upTo ads =>
        exact ⟨prepared.1.relock edgeInfo lock, prepared.2⟩
    | stop stage => cases stage <;> exact prepared
  covers := sound.covers
  pending := sound.pending
  explained := sound.explained
  finished := sound.finished

theorem unlock : Sound settings { state with lock := none } :=
  sound.relock state.edgeInfo nofun

end Sound

theorem holds_set {index : Nat} {old : ConnectorTask}
    (found : state.tasks[index]? = some old) (new : ConnectorTask)
    (tasks : later.tasks = state.tasks.set index new)
    (ticker : later.ticker = state.ticker)
    (outside : old.return = old) {owner : Owner} {work : Work}
    (holds : state.Holds owner work) : later.Holds owner work := by
  have other : ∀ {position : Nat} {task : ConnectorTask},
      state.tasks[position]? = some task → task.return ≠ task →
        later.tasks[position]? = some task := by
    intro position task there inside
    rcases eq_or_ne index position with rfl | different
    · cases found.symm.trans there
      exact absurd outside inside
    · rw [tasks, List.getElem?_set_ne different, there]
  cases owner with
  | connector position =>
    cases work with
    | advertise call stage =>
      obtain ⟨handle, there⟩ := holds
      exact ⟨handle, other there nofun⟩
    | withdraw handle => exact other holds nofun
    | stop stage => exact holds
  | ticker =>
    cases work with
    | advertise call stage | stop stage => exact ticker.trans holds
    | withdraw handle => exact holds

theorem holds_of_ticker (outside : state.ticker.return = state.ticker)
    {ticker : Ticker} (owner : Owner) (work : Work)
    (_ : state.lock = some (owner, work)) (holds : state.Holds owner work) :
    { state with ticker }.Holds owner work := by
  cases owner with
  | connector index => cases work <;> exact holds
  | ticker =>
    cases work with
    | withdraw handle => exact holds
    | advertise call stage =>
      have inside : state.ticker = .advertising call := holds
      rw [inside] at outside
      cases outside
    | stop stage =>
      have inside : state.ticker = .stopping := holds
      rw [inside] at outside
      cases outside

namespace Steady

/-- The number of a call that is made now, and what it is to cover. -/
def New (state : AdvertiserState) (requests : Nat) (call : AdvertiseCall) :
    Prop :=
  state.advertiseRequests < call.request ∧ call.request ≤ requests ∧
    call.before = state.generation

variable (tracked : Tracked state)
include tracked

theorem task (requests : Nat) {index : Nat}
    {old : ConnectorTask} (found : state.tasks[index]? = some old)
    (new : ConnectorTask)
    (handle : ∀ {handle}, new.handle = some handle → old.handle = some handle)
    (unwithdrawn : new.unwithdrawn = old.unwithdrawn)
    (requested : state.advertiseRequests ≤ requests)
    (made : ∀ {handle call}, new.made = some (handle, call) →
      old.made = some (handle, call) ∨
        handle.generation ≤ call.before ∧ New state requests call)
    (holds : state.lock = none ∨ old.return = old)
    (pending : ∀ {handle}, old.unadvertised = some handle →
      new.unadvertised = some handle ∨ state.stopped = true ∨
        handle.generation ≤ state.reach) :
    Steady settings state
      { state with
        advertiseRequests := requests
        tasks := state.tasks.set index new } := by
  have member := List.mem_of_getElem? found
  have same : ∀ {handle}, Tasks.Has ConnectorTask.unwithdrawn
      (state.tasks.set index new) handle ↔ state.Unwithdrawn handle :=
    Tasks.has_set_iff found new unwithdrawn
  have known : ∀ {handle call}, Tasks.Has ConnectorTask.made
      (state.tasks.set index new) (handle, call) →
        Tasks.Has ConnectorTask.made state.tasks (handle, call) ∨
          handle.generation ≤ call.before ∧ New state requests call := by
    intro handle call has
    rcases Tasks.has_of_has_set has with own | before
    · rcases made own with was | isNew
      · exact .inl ⟨old, member, was⟩
      · exact .inr isNew
    · exact .inl before
  refine ⟨?_, ?_, rfl, rfl, rfl, rfl, rfl, requested, ?_, ?_, ?_, ?_, ?_, ?_⟩
  · refine tracked.of_registry rfl rfl rfl ?_ same.mp
    · intro other has
      rcases Tasks.has_of_has_set has with own | before
      · exact ⟨old, member, handle own⟩
      · exact before
  · exact .of_registry rfl rfl rfl same.mpr
  · rintro call (⟨other, has⟩ | ticking)
    · rcases known has with before | isNew
      · exact .inl (.inl ⟨other, before⟩)
      · exact .inr isNew.2
    · exact .inl (.inr ticking)
  · intro other call has
    rcases known has with before | isNew
    · exact .inl before
    · exact .inr isNew.1
  · intro owner work held before
    rcases holds with free | outside
    · rw [free] at held
      cases held
    · refine holds_set found new ?_ ?_ outside before <;> rfl
  · intro other waiting
    by_cases own : old.unadvertised = some other
    · rcases pending own with still | done
      · exact .inl (Tasks.has_set_new found still)
      · exact .inr done
    · exact .inl (Tasks.has_set found (fun was => absurd was own) waiting)
  · intro generation beyond made
    exact absurd made beyond.not_ge
  · exact .inl

theorem ticker (requests : Nat) (ticker : Ticker)
    (requested : state.advertiseRequests ≤ requests)
    (made : ∀ {call}, ticker.made = some call →
      state.ticker.made = some call ∨ New state requests call)
    (holds : ∀ owner work, state.lock = some (owner, work) →
      state.Holds owner work → { state with ticker }.Holds owner work)
    (finished : ticker = .finished →
      state.ticker = .finished ∨ state.stopped = true ∧
        ∀ {handle}, state.Current handle → ¬HasRoute settings state handle) :
    Steady settings state
      { state with advertiseRequests := requests, ticker } := by
  refine ⟨tracked.of_registry rfl rfl rfl id id, .of_registry rfl rfl rfl id,
    rfl, rfl, rfl, rfl, rfl, requested, ?_, ?_, ?_, ?_, ?_, finished⟩
  · rintro call (⟨other, has⟩ | ticking)
    · exact .inl (.inl ⟨other, has⟩)
    · rcases made ticking with before | isNew
      · exact .inl (.inr before)
      · exact .inr isNew
  · intro other call has
    exact .inl has
  · intro owner work held before
    have after := holds owner work held before
    cases owner <;> cases work <;> exact after
  · intro other waiting
    exact .inl waiting
  · intro generation beyond made
    exact absurd made beyond.not_ge

theorem join {handle : ConnectorHandle}
    (joined : Joined state handle later) : Steady settings state later := by
  have others := joined.others
  have ticking : later.ticker = state.ticker := congrArg (·.ticker) others
  have made : ∀ {item}, Tasks.Has ConnectorTask.made later.tasks item →
        Tasks.Has ConnectorTask.made state.tasks item := by
    intro item has
    rw [joined.tasks] at has
    rcases Tasks.has_concat.mp has with before | new
    · exact before
    · cases new
  refine ⟨tracked.join joined, .join joined, congrArg (·.lock) others,
    congrArg (·.published) others, congrArg (·.covered) others,
    congrArg (·.reach) others, congrArg (·.stopped) others,
    (congrArg (·.advertiseRequests) others).ge, ?_, ?_, ?_, ?_, ?_, ?_⟩
  · rintro call (⟨other, has⟩ | active)
    · exact .inl (.inl ⟨other, made has⟩)
    · exact .inl (.inr (ticking ▸ active))
  · intro other call has
    exact .inl (made has)
  · intro owner work held holds
    have kept : ∀ {position : Nat} {task : ConnectorTask},
        state.tasks[position]? = some task →
          later.tasks[position]? = some task := by
      intro position task there
      have inside := (List.getElem?_eq_some_iff.mp there).1
      rw [joined.tasks, List.getElem?_append_left inside, there]
    cases owner <;> cases work
    · obtain ⟨other, there⟩ := holds
      exact ⟨other, kept there⟩
    · exact kept holds
    · exact holds
    · exact ticking.trans holds
    · exact holds
    · exact ticking.trans holds
  · intro other waiting
    left
    rw [Unadvertised, joined.tasks]
    exact Tasks.has_concat.mpr (.inl waiting)
  · intro generation beyond upTo
    rw [joined.generation] at upTo
    refine ⟨handle, ?_, joined.newest.trans (by omega)⟩
    rw [Unadvertised, joined.tasks]
    exact Tasks.has_concat.mpr (.inr rfl)
  · intro finished
    exact .inl (ticking ▸ finished)

theorem leave {index : Nat} {handle : ConnectorHandle}
    (left : Left state index handle later) :
    Steady settings state later := by
  have others := left.others
  have ticking : later.ticker = state.ticker := congrArg (·.ticker) others
  have made : ∀ {item}, Tasks.Has ConnectorTask.made later.tasks item →
        Tasks.Has ConnectorTask.made state.tasks item := by
    intro item has
    rw [left.tasks] at has
    exact (Tasks.has_set_iff left.found (.removed handle) rfl).mp has
  refine ⟨tracked.leave left, .leave left, congrArg (·.lock) others,
    congrArg (·.published) others, congrArg (·.covered) others,
    congrArg (·.reach) others, congrArg (·.stopped) others,
    (congrArg (·.advertiseRequests) others).ge, ?_, ?_, ?_, ?_, ?_, ?_⟩
  · rintro call (⟨other, has⟩ | active)
    · exact .inl (.inl ⟨other, made has⟩)
    · exact .inl (.inr (ticking ▸ active))
  · intro other call has
    exact .inl (made has)
  · intro owner work held holds
    exact holds_set left.found _ left.tasks ticking rfl holds
  · intro other waiting
    left
    rw [Unadvertised, left.tasks]
    exact (Tasks.has_set_iff left.found (.removed handle) rfl).mpr waiting
  · intro generation beyond upTo
    rw [left.generation] at upTo
    exact absurd upTo beyond.not_ge
  · intro finished
    exact .inl (ticking ▸ finished)

end Steady

theorem newCall_new :
    Steady.New state (state.advertiseRequests + 1) state.newCall :=
  ⟨Nat.lt_succ_self _, Nat.le_refl _, rfl⟩

theorem TaskMove.steady (tracked : Tracked state)
    (moved : TaskMove state later) : Steady settings state later := by
  cases moved with
  | stay =>
    exact .ticker tracked state.advertiseRequests state.ticker
      (Nat.le_refl _) .inl (fun _ _ _ holds => holds) .inl
  | join joined => exact .join tracked joined
  | leave left => exact .leave tracked left
  | finish found =>
    exact .task tracked state.advertiseRequests found .ended nofun rfl
      (Nat.le_refl _) nofun (.inr rfl) nofun
  | call found =>
    refine .task tracked _ found _ id rfl (Nat.le_succ _) ?_ (.inr rfl) .inl
    intro other call same
    obtain ⟨rfl, rfl⟩ := Prod.mk.inj (Option.some.inj same)
    have known := tracked.handles ⟨_, List.mem_of_getElem? found, rfl⟩
    exact .inr ⟨tracked.bounded known, newCall_new⟩
  | wake before after =>
    refine .ticker tracked state.advertiseRequests _ (Nat.le_refl _) ?_ ?_ ?_
    · intro call same
      rcases after with rfl | rfl <;> cases same
    · exact holds_of_ticker (by rw [before]; rfl)
    · intro done
      rcases after with rfl | rfl <;> cases done
  | refresh before =>
    refine .ticker tracked _ _ (Nat.le_succ _) ?_ ?_ nofun
    · intro call same
      cases same
      exact .inr newCall_new
    · exact holds_of_ticker (by rw [before]; rfl)

/-- A task that takes the lock moves on first. -/
theorem LockMove.steady (settings : AdvertiserSettings)
    (tracked : Tracked state) (moved : LockMove state later)
    (free : state.lock = none) :
    ∃ middle owner work, Steady settings state middle ∧
      middle.Holds owner work ∧ middle.Prepared settings work ∧
      later = { middle with lock := some (owner, work) } := by
  cases moved with
  | @advertise index handle call found =>
    have inside := (List.getElem?_eq_some_iff.mp found).1
    exact ⟨_, .connector index, .advertise call .checking,
      .task tracked state.advertiseRequests found
      (.advertising handle call) id rfl (Nat.le_refl _) .inl (.inl free)
      .inl, ⟨handle, List.getElem?_set_self inside⟩, trivial, rfl⟩
  | @refresh call before =>
    refine ⟨_, .ticker, .advertise call .checking,
      .ticker tracked state.advertiseRequests (.advertising call)
      (Nat.le_refl _) ?_ ?_ nofun, rfl, trivial, rfl⟩
    · intro other same
      rw [before]
      exact .inl same
    · intro owner work held
      rw [free] at held
      cases held
  | @withdraw index handle found =>
    have inside := (List.getElem?_eq_some_iff.mp found).1
    exact ⟨_, .connector index, .withdraw handle,
      .task tracked state.advertiseRequests found (.withdrawing handle)
      id rfl (Nat.le_refl _) .inl (.inl free) nofun,
      List.getElem?_set_self inside, trivial, rfl⟩

end AdvertiserState

end Mesh

end SieveTube
