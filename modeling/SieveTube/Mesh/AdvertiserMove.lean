import SieveTube.Mesh.Advertisement

/-!
# What a step of the advertiser can do

One case for each thing that can happen while the control plane answers.
-/

namespace SieveTube

open Valkey (Reach)

namespace Mesh

/-- Calls of the control plane succeed. -/
def AdvertiserEvent.Answered : AdvertiserEvent → Prop
  | .proceed _ reach => reach = .answered
  | .connect _ | .close _ | .read _ | .tick | .shutdown => True

instance : DecidablePred AdvertiserEvent.Answered
  | .proceed _ reach => inferInstanceAs (Decidable (reach = .answered))
  | .connect _ | .close _ | .read _ | .tick | .shutdown =>
    inferInstanceAs (Decidable True)

namespace AdvertiserState

/-- What a step under the lock that keeps the lock can do. -/
inductive WorkMove (settings : AdvertiserSettings)
    (state : AdvertiserState) : Work → Work → Prop where
  | load (call : AdvertiseCall) (running : state.stopped = false) :
      WorkMove settings state (.advertise call .checking)
        (.advertise call (.loaded state.advertiseRequests state.generation))
  | begin (call : AdvertiseCall) (covered upTo : Nat) :
      WorkMove settings state (.advertise call (.loaded covered upTo))
        (.advertise call (.reading covered upTo ∅))
  | collect (call : AdvertiseCall) (covered upTo : Nat) (seen : Seen) :
      WorkMove settings state (.advertise call (.reading covered upTo seen))
        (.advertise call (.publishing covered upTo
          (adsOf settings.edgeId (snapshot state.registry seen))))
  | collectAll (seen : Seen) : WorkMove settings state (.stop (.reading seen))
        (.stop (.withdrawing (adsOf settings.edgeId
          (snapshot state.registry seen))))
  | read (work : Work) (tenantId : String) :
      WorkMove settings state work (work.read state.registry tenantId)

/-- What tasks do outside the lock. -/
inductive TaskMove (state : AdvertiserState) : AdvertiserState → Prop where
  | stay : TaskMove state state
  | join {later : AdvertiserState} {handle : ConnectorHandle}
      (joined : Joined state handle later) : TaskMove state later
  | leave {later : AdvertiserState} {index : Nat}
      {handle : ConnectorHandle} (left : Left state index handle later) :
      TaskMove state later
  | finish {index : Nat} {handle : ConnectorHandle}
      (found : state.tasks[index]? = some (.serving handle)) :
      TaskMove state { state with tasks := state.tasks.set index .ended }
  | call {index : Nat} {handle : ConnectorHandle}
      (found : state.tasks[index]? = some (.registered handle)) :
      TaskMove state
        { state with
          advertiseRequests := state.advertiseRequests + 1
          tasks := state.tasks.set index (.requested handle state.newCall) }
  | wake {ticker : Ticker} (before : state.ticker = .idle)
      (after : ticker = .ticked ∨ ticker = .shuttingDown) :
      TaskMove state { state with ticker }
  | refresh (before : state.ticker = .ticked) : TaskMove state
        { state with
          advertiseRequests := state.advertiseRequests + 1
          ticker := .requested state.newCall }

/-- How a task takes the lock for `advertise_now` or `withdraw`. -/
inductive LockMove (state : AdvertiserState) : AdvertiserState → Prop where
  | advertise {index : Nat} {handle : ConnectorHandle} {call : AdvertiseCall}
      (found : state.tasks[index]? = some (.requested handle call)) :
      LockMove state
        { state with
          lock := some (.connector index, .advertise call .checking)
          tasks := state.tasks.set index (.advertising handle call) }
  | refresh {call : AdvertiseCall}
      (before : state.ticker = .requested call) : LockMove state
        { state with
          lock := some (.ticker, .advertise call .checking)
          ticker := .advertising call }
  | withdraw {index : Nat} {handle : ConnectorHandle}
      (found : state.tasks[index]? = some (.removed handle)) :
      LockMove state
        { state with
          lock := some (.connector index, .withdraw handle)
          tasks := state.tasks.set index (.withdrawing handle) }

/-- Everything a step can do while the control plane answers. -/
inductive Move (settings : AdvertiserSettings) (state : AdvertiserState) :
    AdvertiserState → Prop where
  | task {later : AdvertiserState}
      (moved : TaskMove state later) : Move settings state later
  | lock {later : AdvertiserState} (free : state.lock = none)
      (moved : LockMove state later) : Move settings state later
  | lockStop (free : state.lock = none)
      (before : state.ticker = .shuttingDown) : Move settings state
        { state with
          stopped := true
          lock := some (.ticker, .stop (.reading ∅))
          ticker := .stopping }
  | work {owner : Owner} {work next : Work} (edgeInfo : Option EdgeInfo)
      (held : state.lock = some (owner, work))
      (advanced : WorkMove settings state work next) :
      Move settings state { state with edgeInfo, lock := some (owner, next) }
  | skip {owner : Owner} {call : AdvertiseCall}
      (held : state.lock = some (owner, .advertise call .checking))
      (reason : state.stopped = true ∨ call.request ≤ state.covered) :
      Move settings state (state.returned owner)
  | publish {owner : Owner} {call : AdvertiseCall} {covered upTo : Nat}
      {ads : List RouteAd} (held : state.lock =
        some (owner, .advertise call (.publishing covered upTo ads))) :
      Move settings state
        ({ state with published := ads, covered, reach := upTo }.returned owner)
  | withdraw {owner : Owner} {handle : ConnectorHandle}
      (held : state.lock = some (owner, .withdraw handle)) :
      Move settings state
        ({ state with
            published := state.published.filter
              (· ∉ handleAds settings.edgeId handle) }.returned owner)
  | withdrawAll {owner : Owner} {ads : List RouteAd}
      (held : state.lock = some (owner, .stop (.withdrawing ads))) :
      Move settings state
        { state with
          published := state.published.filter (· ∉ ads)
          lock := some (owner, .stop .removingInfo) }
  | stop {owner : Owner} (held : state.lock =
      some (owner, .stop .removingInfo)) :
      Move settings state ({ state with edgeInfo := none }.returned owner)

variable {settings : AdvertiserSettings} {state : AdvertiserState}

theorem connect_move (tracked : Tracked state) {registration : Registration} :
    TaskMove state (state.connect registration) := by
  unfold connect
  split
  · next registered registry success =>
    obtain ⟨handle, previous, next, current⟩ :=
      ConnectorRegistry.register_ok success
    have tenant : registered.handle.tenantId = registration.tenantId := by
      rw [handle]
      rfl
    suffices joined : Joined state registered.handle _ from .join joined
    refine ⟨?_, next, ?_, ?_, rfl, ?_, rfl, rfl⟩
    · rw [handle]
      rfl
    · have kept := ConnectorRegistry.consistent_register tracked.consistent
        registration
      rw [success] at kept
      exact kept
    · intro other
      rw [handle]
      exact current other
    · intro old new
      rw [List.mem_append, Option.mem_toList, Option.map_eq_some_iff,
        previous, tenant]
      refine or_congr_right ⟨?_, ?_⟩
      · rintro ⟨_, was, same⟩
        obtain ⟨rfl, rfl⟩ := Prod.mk.inj same
        exact ⟨rfl, tracked.current_of_lookup was,
          tracked.consistent.ownTenant _ _ was⟩
      · rintro ⟨rfl, isCurrent, own⟩
        exact ⟨old, own ▸ isCurrent, rfl⟩
  · next message registry failure =>
    have same := ConnectorRegistry.register_rejected (congrArg Prod.fst failure)
    rw [failure] at same
    subst same
    exact .stay

theorem close_move (tracked : Tracked state) (index : Nat) :
    TaskMove state (state.close index) := by
  unfold close
  split
  · next handle found =>
    have known : handle ∈ state.registered :=
      tracked.handles ⟨_, List.mem_of_getElem? found, rfl⟩
    split
    · next registry removed =>
      obtain ⟨⟨stored, there, same⟩, current⟩ :=
        ConnectorRegistry.remove_true removed
      have isCurrent := tracked.current_of_lookup there
      obtain rfl : stored = handle :=
        tracked.unique (tracked.known isCurrent) known same
      have next := state.registry.remove_nextGeneration stored.tenantId
        stored.generation
      have kept := ConnectorRegistry.consistent_remove tracked.consistent
        stored.tenantId stored.generation
      rw [removed] at next kept
      exact .leave ⟨found, isCurrent, next, kept, current, rfl, rfl, rfl, rfl⟩
    · next registry kept =>
      have same := ConnectorRegistry.remove_false kept
      subst same
      exact .finish found
  · exact .stay

theorem proceedUnlocked_move {owner : Owner} :
    Move settings state (state.proceedUnlocked owner) := by
  cases owner with
  | connector index =>
    simp only [proceedUnlocked, proceedConnector]
    split
    · next handle found => exact .task (.call found)
    · next handle call found =>
      split
      · next free => exact .lock free (.advertise found)
      · exact .task .stay
    · next handle found =>
      split
      · next free => exact .lock free (.withdraw found)
      · exact .task .stay
    · exact .task .stay
  | ticker =>
    simp only [proceedUnlocked, proceedTicker]
    split
    · next before => exact .task (.refresh before)
    · next call before =>
      split
      · next free => exact .lock free (.refresh before)
      · exact .task .stay
    · next before =>
      split
      · next free => exact .lockStop free before
      · exact .task .stay
    · exact .task .stay

theorem proceedLocked_move {owner : Owner} {work : Work}
    (held : state.lock = some (owner, work)) :
    Move settings state
      (state.proceedLocked settings owner work .answered) := by
  cases work with
  | advertise call stage =>
    cases stage with
    | checking =>
      simp only [proceedLocked, Advertiser.advance]
      by_cases reason : state.stopped = true ∨ call.request ≤ state.covered
      · have skipped : (state.stopped ||
            decide (call.request ≤ state.covered)) = true := by
          simpa using reason
        rw [if_pos skipped]
        exact .skip held reason
      · have running : (state.stopped ||
            decide (call.request ≤ state.covered)) ≠ true := by
          simpa using reason
        rw [if_neg running]
        refine .work state.edgeInfo held (.load call ?_)
        simpa using fun stopped => reason (.inl stopped)
    | loaded covered upTo =>
      exact .work (some settings.info) held (.begin call covered upTo)
    | reading covered upTo seen =>
      exact .work state.edgeInfo held (.collect call covered upTo seen)
    | publishing covered upTo ads => exact .publish held
  | withdraw handle => exact .withdraw held
  | stop stage =>
    cases stage with
    | reading seen => exact .work state.edgeInfo held (.collectAll seen)
    | withdrawing ads => exact .withdrawAll held
    | removingInfo => exact .stop held

theorem step_move (tracked : Tracked state) {event : AdvertiserEvent}
    (answered : event.Answered) :
    Move settings state (step settings state event) := by
  cases event with
  | connect registration => exact .task (connect_move tracked)
  | close index => exact .task (close_move tracked index)
  | proceed owner reach =>
    obtain rfl : reach = .answered := answered
    simp only [step, proceed]
    split
    · exact proceedUnlocked_move
    · next holder work held =>
      split
      · next same =>
        subst same
        exact proceedLocked_move held
      · exact proceedUnlocked_move
  | read tenantId =>
    cases held : state.lock with
    | none =>
      have same : step settings state (.read tenantId) = state := by
        simp only [step, held, Option.map_none]
        rw [← held]
      rw [same]
      exact .task .stay
    | some holder =>
      simp only [step, held, Option.map_some]
      exact .work state.edgeInfo held (.read holder.2 tenantId)
  | tick =>
    simp only [step]
    split
    · next before => exact .task (.wake before (.inl rfl))
    · exact .task .stay
  | shutdown =>
    simp only [step]
    split
    · next before => exact .task (.wake before (.inr rfl))
    · exact .task .stay

end AdvertiserState

end Mesh

end SieveTube
