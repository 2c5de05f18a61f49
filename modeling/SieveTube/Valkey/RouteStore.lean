import SieveTube.Library.ExpiringSet
import SieveTube.Mesh.Advertiser

/-!
# The routes in the control plane

All Edges share one sorted set of advertisements, scored by their expiry.
Each Edge has a set of the members it advertised, which expires with them.
The replace script and the withdraw transaction are atomic.  A caller reads
the clock before its script runs.
-/

namespace SieveTube.Valkey

open Mesh

def meshEdgeRoutesKey (edgeId : String) : String :=
  "sievetube:mesh:edge:" ++ edgeId ++ ":routes"

@[simp]
theorem meshEdgeRoutesKey_inj {first second : String} :
    meshEdgeRoutesKey first = meshEdgeRoutesKey second ↔ first = second := by
  unfold meshEdgeRoutesKey
  rw [String.append_left_inj, String.append_right_inj]

/-- Advertisements of one Edge. -/
structure EdgeAds (edgeId : String) where
  ads : List RouteAd
  own : ∀ ad ∈ ads, ad.edgeId = edgeId

/-- What is stored under the key of the routes and under the keys of the
Edges. -/
structure RouteStore where
  routes : ScoredSet RouteAd
  sets : String → ExpiringSet RouteAd

/-- The two keys of the replace script. -/
structure RouteKeys where
  routes : ScoredSet RouteAd
  own : ExpiringSet RouteAd

namespace RouteKeys

/-- Remove a member that is no longer desired, and count it. -/
def dropStale (ads : List RouteAd) (state : Nat × RouteKeys)
    (member : RouteAd) : Nat × RouteKeys :=
  if member ∈ ads then state
  else
    let (removed, routes) := ScoredSet.remove state.2.routes member
    (state.1 + removed, { routes, own := state.2.own.remove member })

def addAd (expiry : Nat) (keys : RouteKeys) (ad : RouteAd) : RouteKeys :=
  { routes := keys.routes.insert ad expiry, own := keys.own.add ad }

/-- The first loop of the script, over the members the Edge advertised. -/
def removeStale (now : Nat) (ads : List RouteAd)
    (keys : RouteKeys) : Nat × RouteKeys :=
  (keys.own.current now).members.foldl (dropStale ads)
    (0, { keys with own := keys.own.current now })

/-- Remove what has expired, of any Edge. -/
def removeExpired (reading : Nat) (keys : RouteKeys) : RouteKeys :=
  { keys with routes := ScoredSet.removeUpTo keys.routes reading }

def refreshOwn (now ttl : Nat) (ads : List RouteAd) (keys : RouteKeys) :
    RouteKeys :=
  if ads.isEmpty then keys
  else { keys with own := keys.own.expire now ttl }

/-- `ROUTES_REPLACE_SCRIPT` at a time of the server: the number of members it
removed, whether it notifies the other Edges, and what it leaves. -/
def replaceScript (now reading expiry ttl : Nat) (changed : Bool)
    (ads : List RouteAd) (keys : RouteKeys) : (Nat × Bool) × RouteKeys :=
  let (removed, keys) := keys.removeStale now ads
  let keys := ads.foldl (addAd expiry) (keys.removeExpired reading)
  ((removed, decide (0 < removed) || changed), keys.refreshOwn now ttl ads)

/-- The transaction of `withdraw_routes`. -/
def withdrawAll (now : Nat) (ads : List RouteAd) (keys : RouteKeys) :
    RouteKeys :=
  { routes := ads.foldl (fun routes ad => (ScoredSet.remove routes ad).2)
      keys.routes
    own := ads.foldl ExpiringSet.remove (keys.own.current now) }

end RouteKeys

/-- The store at a time, with the digest of the set each Edge published
last. -/
structure RoutePlane extends RouteStore where
  time : Nat
  digests : String → Option UInt64

/-- A caller's clock reading is `lag` behind the time at which its script
runs. -/
inductive RouteEvent where
  | publish (edgeId : String) (ads : EdgeAds edgeId) (ttl lag : Nat)
  | withdraw (edgeId : String) (ads : EdgeAds edgeId)
  | elapse (milliseconds : Nat)

/-- The Edge that makes a call. -/
def RouteEvent.caller : RouteEvent → Option String
  | .publish edgeId _ _ _ | .withdraw edgeId _ => some edgeId
  | .elapse _ => none

namespace RoutePlane

variable (digest : List RouteAd → UInt64) (plane : RoutePlane)

def start : RoutePlane :=
  { routes := ∅, sets := fun _ => .empty, time := 0, digests := fun _ => none }

def keys (edgeId : String) : RouteKeys :=
  { routes := plane.routes, own := plane.sets (meshEdgeRoutesKey edgeId) }

def setKeys (edgeId : String) (keys : RouteKeys) : RoutePlane :=
  { plane with
    routes := keys.routes
    sets := Function.update plane.sets (meshEdgeRoutesKey edgeId) keys.own }

def setDigest (edgeId : String) (value : Option UInt64) : RoutePlane :=
  { plane with digests := Function.update plane.digests edgeId value }

def publishRoutes (edgeId : String) (ads : List RouteAd)
    (ttl reading : Nat) : RoutePlane :=
  let changed := plane.digests edgeId ≠ some (digest ads)
  let (_, keys) := (plane.keys edgeId).replaceScript plane.time reading
    (reading + ttl) ttl (changed && !ads.isEmpty) ads
  (plane.setKeys edgeId keys).setDigest edgeId (some (digest ads))

def withdrawRoutes (edgeId : String) (ads : List RouteAd) : RoutePlane :=
  if ads.isEmpty then plane
  else
    (plane.setKeys edgeId
      ((plane.keys edgeId).withdrawAll plane.time ads)).setDigest edgeId none

/-- All advertisements that are unexpired at a clock reading. -/
def fetchRoutes (reading : Nat) : List (RouteAd × Nat) :=
  ScoredSet.range plane.routes reading

def step (plane : RoutePlane) : RouteEvent → RoutePlane
  | .publish edgeId ads ttl lag =>
    plane.publishRoutes digest edgeId ads.ads ttl (plane.time - lag)
  | .withdraw edgeId ads => plane.withdrawRoutes edgeId ads.ads
  | .elapse milliseconds =>
    { plane with time := plane.time + milliseconds }

def run (events : List RouteEvent) : RoutePlane :=
  Run.after (step digest) start events

end RoutePlane

namespace RouteKeys

variable {keys : RouteKeys} {ads members : List RouteAd} {ad : RouteAd}

theorem dropStale_of_mem {count : Nat} {member : RouteAd}
    (desired : member ∈ ads) :
    dropStale ads (count, keys) member = (count, keys) :=
  if_pos desired

theorem dropStale_of_not_mem {count : Nat} {member : RouteAd}
    (stale : member ∉ ads) :
    dropStale ads (count, keys) member =
      (count + (ScoredSet.remove keys.routes member).1,
        { routes := keys.routes.erase member
          own := keys.own.remove member }) :=
  if_neg stale

theorem foldl_dropStale (count : Nat) :
    (members.foldl (dropStale ads) (count, keys)).2.routes.lookup ad =
      (if ad ∈ members ∧ ad ∉ ads then none else keys.routes.lookup ad) ∧
    (ad ∈ (members.foldl (dropStale ads) (count, keys)).2.own.members ↔
      ad ∈ keys.own.members ∧ (ad ∈ members → ad ∈ ads)) := by
  induction members generalizing count keys with
  | nil => simp
  | cons member members ih =>
    rw [List.foldl_cons]
    by_cases desired : member ∈ ads
    · rw [dropStale_of_mem desired, (ih _).1, (ih _).2]
      rcases eq_or_ne ad member with rfl | other
      · simp [desired]
      · simp [other]
    · rw [dropStale_of_not_mem desired, (ih _).1, (ih _).2]
      rcases eq_or_ne ad member with rfl | other
      · simp [desired]
      · simp [other, AList.lookup_erase_ne other]

theorem lookup_foldl_addAd (expiry : Nat) :
    (ads.foldl (addAd expiry) keys).routes.lookup ad =
      if ad ∈ ads then some expiry else keys.routes.lookup ad := by
  induction ads generalizing keys with
  | nil => simp
  | cons first ads ih =>
    rw [List.foldl_cons, ih, addAd]
    rcases eq_or_ne ad first with rfl | other
    · simp
    · simp [other, AList.lookup_insert_ne other]

theorem own_foldl_addAd (expiry : Nat) : (ads.foldl (addAd expiry) keys).own =
      ads.foldl ExpiringSet.add keys.own := by
  induction ads generalizing keys with
  | nil => rfl
  | cons first ads ih => rw [List.foldl_cons, ih]; rfl

section Replace

variable (now reading expiry ttl : Nat) (changed : Bool)

theorem lookup_replaceScript :
    (keys.replaceScript now reading expiry ttl changed ads).2.routes.lookup ad =
      if ad ∈ ads then some expiry
      else if ad ∈ (keys.own.current now).members then none
      else (keys.routes.lookup ad).filter (reading < ·) := by
  have refreshed : ∀ keys : RouteKeys,
      (keys.refreshOwn now ttl ads).routes = keys.routes := by
    intro keys
    unfold refreshOwn
    split <;> rfl
  simp only [replaceScript]
  rw [refreshed, lookup_foldl_addAd]
  by_cases desired : ad ∈ ads
  · rw [if_pos desired, if_pos desired]
  · rw [if_neg desired, if_neg desired, removeExpired, ScoredSet.removeUpTo,
      AList.lookup_retain, removeStale,
      (foldl_dropStale _).1]
    by_cases had : ad ∈ (keys.own.current now).members
    · simp [had, desired]
    · simp [had]

theorem mem_own_addAll :
    ad ∈ (ads.foldl (addAd expiry)
        ((keys.removeStale now ads).2.removeExpired reading)).own.members ↔
      ad ∈ ads := by
  rw [own_foldl_addAd, ExpiringSet.mem_addAll, removeExpired, removeStale,
    (foldl_dropStale _).2]
  constructor
  · rintro (desired | ⟨had, kept⟩)
    · exact desired
    · exact kept had
  · exact .inl

/-- After the script an Edge's set has only members it desires. -/
theorem mem_replaceScript
    (member : ad ∈ (keys.replaceScript now reading expiry ttl changed
      ads).2.own.members) : ad ∈ ads := by
  simp only [replaceScript, refreshOwn] at member
  split at member
  · exact (mem_own_addAll now reading expiry).mp member
  · simp only [ExpiringSet.expire] at member
    split at member
    · exact (mem_own_addAll now reading expiry).mp member
    · split at member
      · cases member
      · exact (mem_own_addAll now reading expiry).mp member

/-- The set of an Edge lives as long as what it advertised. -/
theorem expiry_replaceScript (desired : ad ∈ ads) (lasting : ttl ≠ 0) :
    ad ∈ (keys.replaceScript now reading expiry ttl changed ads).2.own.members ∧
      (keys.replaceScript now reading expiry ttl changed ads).2.own.expiry =
        some (now + ttl) := by
  have added : ad ∈ (ads.foldl (addAd expiry)
      ((keys.removeStale now ads).2.removeExpired reading)).own.members :=
    (mem_own_addAll now reading expiry).mpr desired
  have some : ads.isEmpty = false := by
    cases ads with
    | nil => cases desired
    | cons => rfl
  have filled : (ads.foldl (addAd expiry)
      ((keys.removeStale now ads).2.removeExpired reading)).own.members ≠
        [] := by
    intro none
    rw [none] at added
    cases added
  simp only [replaceScript, refreshOwn, some, Bool.false_eq_true, if_false,
    ExpiringSet.expire, filled, lasting]
  exact ⟨added, trivial⟩

end Replace

theorem lookup_withdrawAll (now : Nat) :
    (keys.withdrawAll now ads).routes.lookup ad =
      if ad ∈ ads then none else keys.routes.lookup ad := by
  simp only [withdrawAll]
  generalize keys.routes = routes
  induction ads generalizing routes with
  | nil => simp
  | cons first ads ih =>
    rw [List.foldl_cons, ih, ScoredSet.remove]
    rcases eq_or_ne ad first with rfl | other
    · simp
    · simp [other, AList.lookup_erase_ne other]

end RouteKeys

namespace RoutePlane

variable {digest : List RouteAd → UInt64} {plane : RoutePlane}
variable {edgeId other : String} {ads : EdgeAds edgeId} {ttl lag : Nat}
variable {ad : RouteAd}

@[simp]
theorem time_publish :
    (plane.step digest (.publish edgeId ads ttl lag)).time = plane.time := rfl

theorem lookup_publish :
    (plane.step digest (.publish edgeId ads ttl lag)).routes.lookup ad =
      if ad ∈ ads.ads then some (plane.time - lag + ttl)
      else if ad ∈
        ((plane.sets (meshEdgeRoutesKey edgeId)).current
          plane.time).members then none
      else (plane.routes.lookup ad).filter (plane.time - lag < ·) := by
  simp only [step, publishRoutes, setKeys, setDigest]
  rw [RouteKeys.lookup_replaceScript, keys]

theorem sets_publish_ne (different : other ≠ edgeId) :
    (plane.step digest (.publish edgeId ads ttl lag)).sets
      (meshEdgeRoutesKey other) = plane.sets (meshEdgeRoutesKey other) :=
  Function.update_of_ne (by simpa using different) _ _

theorem mem_sets_publish
    (member : ad ∈ ((plane.step digest (.publish edgeId ads ttl lag)).sets
      (meshEdgeRoutesKey edgeId)).members) : ad ∈ ads.ads := by
  simp only [step, publishRoutes, setKeys, setDigest,
    Function.update_self] at member
  exact RouteKeys.mem_replaceScript _ _ _ _ _ member

theorem expiry_sets_publish (desired : ad ∈ ads.ads) (lasting : ttl ≠ 0) :
    ad ∈ ((plane.step digest (.publish edgeId ads ttl lag)).sets
        (meshEdgeRoutesKey edgeId)).members ∧
      ((plane.step digest (.publish edgeId ads ttl lag)).sets
        (meshEdgeRoutesKey edgeId)).expiry = some (plane.time + ttl) := by
  simp only [step, publishRoutes, setKeys, setDigest, Function.update_self]
  exact RouteKeys.expiry_replaceScript _ _ _ _ _ desired lasting

@[simp]
theorem time_withdraw :
    (plane.step digest (.withdraw edgeId ads)).time = plane.time := by
  simp only [step, withdrawRoutes]
  split <;> rfl

theorem lookup_withdraw :
    (plane.step digest (.withdraw edgeId ads)).routes.lookup ad =
      if ad ∈ ads.ads then none else plane.routes.lookup ad := by
  simp only [step, withdrawRoutes]
  split
  · next none =>
    rw [List.isEmpty_iff.mp none, if_neg List.not_mem_nil]
  · exact RouteKeys.lookup_withdrawAll plane.time

theorem sets_withdraw_ne (different : other ≠ edgeId) :
    (plane.step digest (.withdraw edgeId ads)).sets (meshEdgeRoutesKey other) =
      plane.sets (meshEdgeRoutesKey other) := by
  simp only [step, withdrawRoutes]
  split
  · rfl
  · exact Function.update_of_ne (by simpa using different) _ _

theorem mem_sets_withdraw
    (member : ad ∈ ((plane.step digest (.withdraw edgeId ads)).sets
      (meshEdgeRoutesKey edgeId)).members) :
    ad ∈ (plane.sets (meshEdgeRoutesKey edgeId)).members := by
  simp only [step, withdrawRoutes] at member
  split at member
  · exact member
  · simp only [setKeys, setDigest, Function.update_self,
      RouteKeys.withdrawAll] at member
    exact ExpiringSet.mem_of_mem_current (ExpiringSet.mem_removeAll.mp member).1

/-- What an Edge does not withdraw stays in its set, with the same time. -/
theorem expiry_sets_withdraw {last : Nat} (kept : ad ∉ ads.ads)
    (member : ad ∈ (plane.sets (meshEdgeRoutesKey edgeId)).members)
    (timed : (plane.sets (meshEdgeRoutesKey edgeId)).expiry = some last)
    (alive : plane.time ≤ last) :
    ad ∈ ((plane.step digest (.withdraw edgeId ads)).sets
      (meshEdgeRoutesKey edgeId)).members ∧
      ((plane.step digest (.withdraw edgeId ads)).sets
        (meshEdgeRoutesKey edgeId)).expiry = some last := by
  simp only [step, withdrawRoutes]
  split
  · exact ⟨member, timed⟩
  · simp only [setKeys, setDigest, Function.update_self,
      RouteKeys.withdrawAll, keys]
    rw [ExpiringSet.current_eq_self timed alive]
    have left := ExpiringSet.mem_removeAll.mpr ⟨member, kept⟩
    exact ⟨left, (ExpiringSet.expiry_removeAll left).trans timed⟩

theorem time_step_of_caller {event : RouteEvent}
    (called : event.caller = some edgeId) :
    (plane.step digest event).time = plane.time := by
  cases event with
  | publish => exact time_publish
  | withdraw => exact time_withdraw
  | elapse => cases called

end RoutePlane

end SieveTube.Valkey
