import SieveTube.Library.Tasks
import SieveTube.Mesh.Advertiser

/-!
# Registrations behind the published routes

Every published route belongs to a registration that is current, waits to be
withdrawn, or was replaced by one that no publish covers yet.
-/

namespace SieveTube

namespace Mesh

namespace ConnectorTask

def handle : ConnectorTask → Option ConnectorHandle
  | .registered handle | .requested handle _ | .advertising handle _
  | .serving handle | .removed handle | .withdrawing handle => some handle
  | .ended => none

/-- The registration whose `advertise_now` has not returned. -/
def unadvertised : ConnectorTask → Option ConnectorHandle
  | .registered handle | .requested handle _ | .advertising handle _ =>
    some handle
  | .serving _ | .removed _ | .withdrawing _ | .ended => none

/-- The registration that is removed and not yet withdrawn. -/
def unwithdrawn : ConnectorTask → Option ConnectorHandle
  | .removed handle | .withdrawing handle => some handle
  | .registered _ | .requested _ _ | .advertising _ _ | .serving _
  | .ended => none

/-- The call of `advertise_now` in progress and the registration it is made
for. -/
def made : ConnectorTask → Option (ConnectorHandle × AdvertiseCall)
  | .requested handle call | .advertising handle call => some (handle, call)
  | .registered _ | .serving _ | .removed _ | .withdrawing _ | .ended => none

end ConnectorTask

def Ticker.made : Ticker → Option AdvertiseCall
  | .requested call | .advertising call => some call
  | .idle | .ticked | .shuttingDown | .stopping | .finished => none

namespace AdvertiserState

section

variable (settings : AdvertiserSettings) (state : AdvertiserState)
variable (kind : ConnectorHandle → Prop) (upTo : Nat) (ads : List RouteAd)
variable (seen : Seen) (handle : ConnectorHandle)

def Current : Prop :=
  state.registry.IsCurrent handle

def Unadvertised :
    Prop :=
  Tasks.Has ConnectorTask.unadvertised state.tasks handle

def Unwithdrawn :
    Prop :=
  Tasks.Has ConnectorTask.unwithdrawn state.tasks handle

/-- A call of `advertise_now` is in progress. -/
def Active (call : AdvertiseCall) : Prop :=
  (∃ handle, Tasks.Has ConnectorTask.made state.tasks (handle, call)) ∨
    state.ticker.made = some call

abbrev generation (state : AdvertiserState) : Nat :=
  state.registry.nextGeneration

/-- The registrations ever made, with what became of them. -/
structure Tracked (state : AdvertiserState) : Prop where
  consistent : state.registry.Consistent
  known : ∀ {handle}, state.Current handle → handle ∈ state.registered
  handles : ∀ {handle}, Tasks.Has ConnectorTask.handle state.tasks handle →
    handle ∈ state.registered
  unique : ∀ {handle other}, handle ∈ state.registered →
    other ∈ state.registered → handle.generation = other.generation →
      handle = other
  bounded : ∀ {handle}, handle ∈ state.registered →
    handle.generation ≤ state.generation
  removed : ∀ {handle}, state.Unwithdrawn handle → ¬state.Current handle
  replaced : ∀ {old new}, (old, new) ∈ state.replaced →
    old ∈ state.registered ∧ new ∈ state.registered ∧ ¬state.Current old ∧
      ¬state.Unwithdrawn old

/-- A Connector has registered. -/
structure Joined (state : AdvertiserState) (handle : ConnectorHandle)
    (later : AdvertiserState) : Prop where
  newest : handle.generation = state.generation + 1
  generation : later.generation = state.generation + 1
  consistent : later.registry.Consistent
  current : ∀ other, later.Current other ↔
    other = handle ∨ state.Current other ∧ other.tenantId ≠ handle.tenantId
  registered : later.registered = state.registered ++ [handle]
  replaced : ∀ old new, (old, new) ∈ later.replaced ↔
    (old, new) ∈ state.replaced ∨
      new = handle ∧ state.Current old ∧ old.tenantId = handle.tenantId
  tasks : later.tasks = state.tasks ++ [.registered handle]
  others : later = { state with
    registry := later.registry
    registered := later.registered
    replaced := later.replaced
    tasks := later.tasks }

/-- The task of a current registration has removed it. -/
structure Left (state : AdvertiserState) (index : Nat)
    (handle : ConnectorHandle) (later : AdvertiserState) : Prop where
  found : state.tasks[index]? = some (.serving handle)
  was : state.Current handle
  generation : later.generation = state.generation
  consistent : later.registry.Consistent
  current : ∀ other, later.Current other ↔
    state.Current other ∧ other.tenantId ≠ handle.tenantId
  registered : later.registered = state.registered
  replaced : later.replaced = state.replaced
  tasks : later.tasks = state.tasks.set index (.removed handle)
  others : later = { state with
    registry := later.registry
    tasks := later.tasks }

/-- What happens to registrations outside a withdrawal: new ones have a new
generation, and one that is no longer current was removed or replaced by a
new one. -/
structure Evolves (state later : AdvertiserState) : Prop where
  generation : state.generation ≤ later.generation
  current : ∀ {handle}, later.Current handle → state.Current handle ∨
    state.generation < handle.generation
  lost : ∀ {handle}, state.Current handle → later.Current handle ∨
    later.Unwithdrawn handle ∨ ∃ new, (handle, new) ∈ later.replaced ∧
      state.generation < new.generation
  unwithdrawn : ∀ {handle}, state.Unwithdrawn handle → later.Unwithdrawn handle
  registered : ∀ {handle}, handle ∈ state.registered → handle ∈ later.registered
  replaced : ∀ {pair}, pair ∈ state.replaced → pair ∈ later.replaced

/-- A registration is current, or something is still to be done about its
routes. -/
def Explained : Prop :=
  state.Current handle ∨ state.Unwithdrawn handle ∨
    ∃ new, (handle, new) ∈ state.replaced ∧ upTo < new.generation

/-- Routes of registrations that are explained. -/
def AdsExplained : Prop :=
  ∀ ad ∈ ads, ∃ handle ∈ state.registered,
    ad ∈ handleAds settings.edgeId handle ∧ state.Explained upTo handle

def SeenExplained :
    Prop :=
  ∀ {tenantId handle}, seen.lookup tenantId = some (some handle) →
    handle ∈ state.registered ∧ state.Explained upTo handle

/-- A tenant whose current registration is of a kind was read as such. -/
def Fresh : Prop :=
  ∀ {handle found}, state.Current handle → kind handle →
    seen.lookup handle.tenantId = some found → found = some handle

/-- Routes include those of the current registrations of a kind. -/
def Covers : Prop :=
  ∀ {handle}, state.Current handle → kind handle →
    ∀ ad ∈ handleAds settings.edgeId handle, ad ∈ ads

end

variable {settings : AdvertiserSettings} {state later : AdvertiserState}
variable {upTo : Nat} {seen : Seen} {ads : List RouteAd}
variable {kind : ConnectorHandle → Prop}

namespace Evolves

variable {handle : ConnectorHandle}

section

variable (evolves : Evolves state later)
include evolves

theorem explained (past : upTo ≤ state.generation)
    (explained : state.Explained upTo handle) :
    later.Explained upTo handle := by
  rcases explained with current | unwithdrawn | ⟨new, replaced, newer⟩
  · rcases evolves.lost current with still | removed | ⟨new, replaced, newer⟩
    · exact .inl still
    · exact .inr (.inl removed)
    · exact .inr (.inr ⟨new, replaced, past.trans_lt newer⟩)
  · exact .inr (.inl (evolves.unwithdrawn unwithdrawn))
  · exact .inr (.inr ⟨new, evolves.replaced replaced, newer⟩)

theorem adsExplained (past : upTo ≤ state.generation)
    (explained : AdsExplained settings state upTo ads) :
    AdsExplained settings later upTo ads := by
  intro ad member
  obtain ⟨handle, known, own, reason⟩ := explained ad member
  exact ⟨handle, evolves.registered known, own, evolves.explained past reason⟩

theorem seenExplained (past : upTo ≤ state.generation)
    (explained : SeenExplained state upTo seen) :
    SeenExplained later upTo seen := by
  intro tenantId handle found
  obtain ⟨known, reason⟩ := explained found
  exact ⟨evolves.registered known, evolves.explained past reason⟩

variable (past : ∀ handle, kind handle → handle.generation ≤ state.generation)
include past

theorem current_of_past (current : later.Current handle) (own : kind handle) :
    state.Current handle := by
  rcases evolves.current current with before | new
  · exact before
  · exact absurd new (past handle own).not_gt

theorem fresh
    (fresh : Fresh state kind seen) : Fresh later kind seen := by
  intro handle found current own read
  exact fresh (evolves.current_of_past past current own) own read

theorem covers (covers : Covers settings state kind ads) :
    Covers settings later kind ads := by
  intro handle current own
  exact covers (evolves.current_of_past past current own) own

end

theorem join (joined : Joined state handle later) : Evolves state later where
  generation := by
    rw [joined.generation]
    exact Nat.le_succ _
  current {other} current := by
    rcases (joined.current other).mp current with rfl | old
    · right
      rw [joined.newest]
      exact Nat.lt_succ_self _
    · exact .inl old.1
  lost {other} current := by
    by_cases own : other.tenantId = handle.tenantId
    · refine .inr (.inr ⟨handle, ?_, ?_⟩)
      · exact (joined.replaced other handle).mpr (.inr ⟨rfl, current, own⟩)
      · rw [joined.newest]
        exact Nat.lt_succ_self _
    · exact .inl ((joined.current other).mpr (.inr ⟨current, own⟩))
  unwithdrawn {other} has := by
    rw [Unwithdrawn, joined.tasks]
    exact Tasks.has_concat.mpr (.inl has)
  registered known := by
    rw [joined.registered]
    exact List.mem_append_left _ known
  replaced {pair} known := (joined.replaced pair.1 pair.2).mpr (.inl known)

theorem leave {index : Nat} (left : Left state index handle later) :
    Evolves state later where
  generation := left.generation.ge
  current {other} current := .inl ((left.current other).mp current).1
  lost {other} current := by
    by_cases own : other.tenantId = handle.tenantId
    · have same : other = handle := by
        have stored := left.was
        unfold Current ConnectorRegistry.IsCurrent at current stored
        rw [own, stored] at current
        exact (Option.some.inj current).symm
      refine .inr (.inl ?_)
      rw [same, Unwithdrawn, left.tasks]
      exact Tasks.has_set_new left.found rfl
    · exact .inl ((left.current other).mpr ⟨current, own⟩)
  unwithdrawn {other} has := by
    rw [Unwithdrawn, left.tasks]
    exact Tasks.has_set left.found nofun has
  registered known := left.registered ▸ known
  replaced known := left.replaced ▸ known

/-- Only tasks outside a withdrawal changed. -/
theorem of_registry (registry : later.registry = state.registry)
    (registered : later.registered = state.registered)
    (replaced : later.replaced = state.replaced)
    (unwithdrawn : ∀ {handle}, state.Unwithdrawn handle →
      later.Unwithdrawn handle) : Evolves state later where
  generation := by simp only [AdvertiserState.generation, registry, le_refl]
  current current := by
    rw [Current, registry] at current
    exact .inl current
  lost current := by
    refine .inl ?_
    rw [Current, registry]
    exact current
  unwithdrawn := unwithdrawn
  registered known := registered ▸ known
  replaced known := replaced ▸ known

end Evolves

variable {edgeId : String}

theorem mem_adsFor {ad : RouteAd} {hostnames : List String}
    {supports : String → Protocol → Bool} {tenantId : String}
    {generation : Nat} :
    ad ∈ adsFor hostnames supports tenantId edgeId generation ↔
      ad.hostname ∈ hostnames ∧ supports ad.hostname ad.protocol = true ∧
        ad.tenantId = tenantId ∧ ad.edgeId = edgeId ∧
        ad.generation = generation := by
  simp only [adsFor, List.mem_flatMap, List.mem_map, List.mem_filter]
  constructor
  · rintro ⟨hostname, listed, protocol, ⟨_, supported⟩, rfl⟩
    exact ⟨listed, supported, rfl, rfl, rfl⟩
  · rintro ⟨listed, supported, rfl, rfl, rfl⟩
    refine ⟨ad.hostname, listed, ad.protocol, ⟨?_, supported⟩, rfl⟩
    cases ad.protocol <;> simp

variable {handle : ConnectorHandle}

theorem generation_of_mem {ad : RouteAd} (own : ad ∈ handleAds edgeId handle) :
    ad.generation = handle.generation :=
  (mem_adsFor.mp own).2.2.2.2

theorem mem_adsOf {ad : RouteAd} {handles : List ConnectorHandle} :
    ad ∈ adsOf edgeId handles ↔
      ∃ handle ∈ handles, ad ∈ handleAds edgeId handle :=
  List.mem_flatMap

theorem mem_snapshot {registry : ConnectorRegistry} {seen : Seen} :
    handle ∈ snapshot registry seen ↔ ∃ tenantId, (seen.lookup tenantId).getD
        (registry.byTenant.lookup tenantId) = some handle := by
  simp only [snapshot, List.mem_append, List.mem_filterMap,
    List.mem_map, List.mem_filter]
  constructor
  · rintro (⟨⟨tenantId, _⟩, member, rfl⟩ | ⟨⟨tenantId, _⟩,
      ⟨member, unread⟩, rfl⟩)
    · have found := AList.mem_lookup_iff.mpr member
      exact ⟨tenantId, by rw [Option.mem_def.mp found]; rfl⟩
    · have found := AList.mem_lookup_iff.mpr member
      refine ⟨tenantId, ?_⟩
      rw [Option.isNone_iff_eq_none.mp unread]
      exact found
  · rintro ⟨tenantId, found⟩
    cases read : seen.lookup tenantId with
    | some value =>
      rw [read, Option.getD_some] at found
      exact .inl ⟨⟨tenantId, value⟩, AList.mem_lookup_iff.mp read, found⟩
    | none =>
      rw [read, Option.getD_none] at found
      exact .inr ⟨⟨tenantId, handle⟩,
        ⟨AList.mem_lookup_iff.mp found, by simp [read]⟩, rfl⟩

theorem has_handle_of_unwithdrawn (unwithdrawn : state.Unwithdrawn handle) :
    Tasks.Has ConnectorTask.handle state.tasks handle := by
  obtain ⟨task, member, own⟩ := unwithdrawn
  refine ⟨task, member, ?_⟩
  cases task <;> first | exact own | cases own

theorem covers_of_fresh (fresh : Fresh state kind seen) :
    Covers settings state kind
      (adsOf settings.edgeId (snapshot state.registry seen)) := by
  intro handle current own ad listed
  refine mem_adsOf.mpr ⟨handle, mem_snapshot.mpr ⟨handle.tenantId, ?_⟩, listed⟩
  cases read : seen.lookup handle.tenantId with
  | none => exact current
  | some found => exact fresh current own read

theorem fresh_read (fresh : Fresh state kind seen) {tenantId : String} :
    Fresh state kind (seen.read state.registry tenantId) := by
  unfold Seen.read
  split
  · exact fresh
  intro handle found current own read
  rw [AList.lookup_insert_eq] at read
  split at read
  · next same =>
    rw [← Option.some.inj read, ← same]
    exact current
  · exact fresh current own read

namespace Tracked

variable (tracked : Tracked state)
include tracked

variable {handle : ConnectorHandle}

theorem current_of_lookup {tenantId : String}
    (found : state.registry.byTenant.lookup tenantId = some handle) :
    state.Current handle := by
  have own := tracked.consistent.ownTenant tenantId handle found
  rw [Current, ConnectorRegistry.IsCurrent, own, found]

theorem current_le (current : state.Current handle) :
    handle.generation ≤ state.generation :=
  tracked.bounded (tracked.known current)

theorem adsExplained_snapshot (explained : SeenExplained state upTo seen) :
    AdsExplained settings state upTo
      (adsOf settings.edgeId (snapshot state.registry seen)) := by
  intro ad member
  obtain ⟨handle, taken, own⟩ := mem_adsOf.mp member
  obtain ⟨tenantId, found⟩ := mem_snapshot.mp taken
  cases read : seen.lookup tenantId with
  | none =>
    rw [read, Option.getD_none] at found
    have current := tracked.current_of_lookup found
    exact ⟨handle, tracked.known current, own, .inl current⟩
  | some value =>
    rw [read, Option.getD_some] at found
    subst found
    obtain ⟨known, reason⟩ := explained read
    exact ⟨handle, known, own, reason⟩

theorem seenExplained_read (explained : SeenExplained state upTo seen)
    (tenantId : String) :
    SeenExplained state upTo (seen.read state.registry tenantId) := by
  unfold Seen.read
  split
  · exact explained
  intro target handle read
  rw [AList.lookup_insert_eq] at read
  split at read
  · have current := tracked.current_of_lookup (Option.some.inj read)
    exact ⟨tracked.known current, .inl current⟩
  · exact explained read

/-- Tasks may change as long as none starts to withdraw. -/
theorem of_registry (registry : later.registry = state.registry)
    (registered : later.registered = state.registered)
    (replaced : later.replaced = state.replaced)
    (handles : ∀ {handle}, Tasks.Has ConnectorTask.handle later.tasks handle →
      Tasks.Has ConnectorTask.handle state.tasks handle)
    (unwithdrawn : ∀ {handle}, later.Unwithdrawn handle →
      state.Unwithdrawn handle) : Tracked later where
  consistent := registry ▸ tracked.consistent
  known current := by
    rw [Current, registry] at current
    rw [registered]
    exact tracked.known current
  handles has := by
    rw [registered]
    exact tracked.handles (handles has)
  unique known other same := by
    rw [registered] at known other
    exact tracked.unique known other same
  bounded known := by
    rw [registered] at known
    rw [generation, registry]
    exact tracked.bounded known
  removed gone := by
    rw [Current, registry]
    exact tracked.removed (unwithdrawn gone)
  replaced pair := by
    rw [replaced] at pair
    obtain ⟨known, newKnown, gone, done⟩ := tracked.replaced pair
    rw [registered, Current, registry]
    exact ⟨known, newKnown, gone, fun has => done (unwithdrawn has)⟩

theorem join (joined : Joined state handle later) :
    Tracked later := by
  have isOld : ∀ {other}, later.Current other → other ∈ state.registered →
      state.Current other ∧ other.tenantId ≠ handle.tenantId := by
    intro other current known
    rcases (joined.current other).mp current with rfl | old
    · have old := tracked.bounded known
      have new := joined.newest
      omega
    · exact old
  have isGone : ∀ {other}, later.Unwithdrawn other →
      state.Unwithdrawn other := by
    intro other has
    rw [Unwithdrawn, joined.tasks] at has
    rcases Tasks.has_concat.mp has with old | new
    · exact old
    · cases new
  refine ⟨joined.consistent, ?_, ?_, ?_, ?_, ?_, ?_⟩
  · intro other current
    rw [joined.registered, List.mem_append, List.mem_singleton]
    rcases (joined.current other).mp current with new | old
    · exact .inr new
    · exact .inl (tracked.known old.1)
  · intro other has
    rw [joined.registered, List.mem_append, List.mem_singleton]
    rw [joined.tasks] at has
    rcases Tasks.has_concat.mp has with old | new
    · exact .inl (tracked.handles old)
    · exact .inr (Option.some.inj new).symm
  · intro first second one two same
    rw [joined.registered, List.mem_append, List.mem_singleton] at one two
    have new := joined.newest
    rcases one with one | rfl <;> rcases two with two | rfl
    · exact tracked.unique one two same
    · have old := tracked.bounded one
      omega
    · have old := tracked.bounded two
      omega
    · rfl
  · intro other known
    rw [joined.registered, List.mem_append, List.mem_singleton] at known
    rw [joined.generation]
    rcases known with old | rfl
    · exact Nat.le_succ_of_le (tracked.bounded old)
    · exact joined.newest.le
  · intro other gone current
    have old := isGone gone
    have known := tracked.handles (has_handle_of_unwithdrawn old)
    exact tracked.removed old (isOld current known).1
  · intro old new pair
    rw [joined.registered]
    rcases (joined.replaced old new).mp pair with
      before | ⟨rfl, current, own⟩
    · obtain ⟨known, newKnown, gone, done⟩ := tracked.replaced before
      exact ⟨List.mem_append_left _ known, List.mem_append_left _ newKnown,
        fun current => gone (isOld current known).1,
        fun has => done (isGone has)⟩
    · have known := tracked.known current
      exact ⟨List.mem_append_left _ known,
        List.mem_append_right _ List.mem_cons_self,
        fun still => (isOld still known).2 own,
        fun has => tracked.removed (isGone has) current⟩

theorem leave {index : Nat} (left : Left state index handle later) :
    Tracked later := by
  have isGone : ∀ {other}, later.Unwithdrawn other →
      other = handle ∨ state.Unwithdrawn other := by
    intro other has
    rw [Unwithdrawn, left.tasks] at has
    rcases Tasks.has_of_has_set has with new | old
    · exact .inl (Option.some.inj new).symm
    · exact .inr old
  refine ⟨left.consistent, ?_, ?_, ?_, ?_, ?_, ?_⟩
  · intro other current
    rw [left.registered]
    exact tracked.known ((left.current other).mp current).1
  · intro other has
    rw [left.registered]
    rw [left.tasks] at has
    rcases Tasks.has_of_has_set has with new | old
    · exact tracked.handles ⟨_, List.mem_of_getElem? left.found, new⟩
    · exact tracked.handles old
  · intro first second one two same
    rw [left.registered] at one two
    exact tracked.unique one two same
  · intro other known
    rw [left.registered] at known
    rw [left.generation]
    exact tracked.bounded known
  · intro other gone current
    obtain ⟨before, different⟩ := (left.current other).mp current
    rcases isGone gone with rfl | old
    · exact different rfl
    · exact tracked.removed old before
  · intro old new pair
    rw [left.replaced] at pair
    rw [left.registered]
    obtain ⟨known, newKnown, gone, done⟩ := tracked.replaced pair
    refine ⟨known, newKnown,
      fun current => gone ((left.current old).mp current).1, ?_⟩
    intro has
    rcases isGone has with rfl | before
    · exact gone left.was
    · exact done before

end Tracked

end AdvertiserState

end Mesh

end SieveTube
