import SieveTube.Valkey.RouteStore

/-!
# What the routes in the control plane show

A board has, for every Edge, the set it published last without what it has
withdrawn since.  The control plane refines it: what it returns is what the
board has, apart from what has expired.
-/

namespace SieveTube.Valkey

open Mesh

/-- What the routes are for: the advertisements of each Edge's last published
set that it has not withdrawn since, with their expiry. -/
structure RouteBoard where
  time : Nat
  advertised : RouteAd → Option Nat

namespace RouteBoard

def start : RouteBoard := { time := 0, advertised := fun _ => none }

def step (board : RouteBoard) : RouteEvent → RouteBoard
  | .publish edgeId ads ttl lag =>
    { board with
      advertised := fun ad =>
        if ad.edgeId ≠ edgeId then board.advertised ad
        else if ad ∈ ads.ads then some (board.time - lag + ttl)
        else none }
  | .withdraw _ ads =>
    { board with
      advertised := fun ad =>
        if ad ∈ ads.ads then none else board.advertised ad }
  | .elapse milliseconds =>
    { board with time := board.time + milliseconds }

def run (events : List RouteEvent) : RouteBoard := Run.after step start events

theorem advertised_step_other {board : RouteBoard} {event : RouteEvent}
    {edgeId : String} {ad : RouteAd} (called : event.caller = some edgeId)
    (other : ad.edgeId ≠ edgeId) :
    (board.step event).advertised ad = board.advertised ad := by
  cases event with
  | publish named ads ttl lag =>
    obtain rfl : named = edgeId := Option.some.inj called
    exact if_pos other
  | withdraw named ads =>
    obtain rfl : named = edgeId := Option.some.inj called
    exact if_neg fun withdrawn => other (ads.own ad withdrawn)
  | elapse => cases called

end RouteBoard

/-- The store shows the board: what is not yet expired is advertised, and is
in the set of its Edge, which lives at least as long. -/
structure Shows (plane : RoutePlane) (board : RouteBoard) : Prop where
  time : plane.time = board.time
  own : ∀ {edgeId ad}, ad ∈ (plane.sets (meshEdgeRoutesKey edgeId)).members →
    ad.edgeId = edgeId
  tracked : ∀ {ad expiry}, plane.routes.lookup ad = some expiry →
    expiry ≤ plane.time ∨
      ad ∈ (plane.sets (meshEdgeRoutesKey ad.edgeId)).members ∧
        ∃ last, (plane.sets (meshEdgeRoutesKey ad.edgeId)).expiry = some last ∧
          expiry ≤ last
  sound : ∀ {ad expiry}, plane.routes.lookup ad = some expiry →
    expiry ≤ plane.time ∨ board.advertised ad = some expiry
  complete : ∀ {ad expiry}, board.advertised ad = some expiry →
    expiry ≤ plane.time ∨ plane.routes.lookup ad = some expiry

namespace Shows

variable {plane : RoutePlane} {board : RouteBoard}

theorem start : Shows RoutePlane.start RouteBoard.start where
  time := rfl
  own member := by cases member
  tracked found := by cases found
  sound found := by cases found
  complete found := by cases found

variable (shown : Shows plane board)
include shown

variable {ad : RouteAd} {expiry : Nat}

/-- What is not in the live set of its Edge has expired. -/
theorem expired (found : plane.routes.lookup ad = some expiry)
    (unlisted : ad ∉ ((plane.sets (meshEdgeRoutesKey ad.edgeId)).current
      plane.time).members) : expiry ≤ plane.time := by
  rcases shown.tracked found with past | ⟨listed, last, timed, within⟩
  · exact past
  · by_contra future
    have alive : plane.time ≤ last := by omega
    rw [ExpiringSet.current_eq_self timed alive] at unlisted
    exact unlisted listed

/-- Where an advertisement that is found after a publication comes from. -/
theorem of_lookup_publish {digest : List RouteAd → UInt64} {edgeId : String}
    {ads : EdgeAds edgeId} {ttl lag : Nat}
    (found : (plane.step digest (.publish edgeId ads ttl lag)).routes.lookup
      ad = some expiry) :
    ad ∈ ads.ads ∧ expiry = plane.time - lag + ttl ∨ expiry ≤ plane.time ∨
      ad.edgeId ≠ edgeId ∧ plane.routes.lookup ad = some expiry := by
  rw [RoutePlane.lookup_publish] at found
  split at found
  · next desired => exact .inl ⟨desired, (Option.some.inj found).symm⟩
  · split at found
    · cases found
    · next unlisted =>
      obtain ⟨old, _⟩ := Option.filter_eq_some_iff.mp found
      rcases eq_or_ne ad.edgeId edgeId with rfl | other
      · exact .inr (.inl (shown.expired old unlisted))
      · exact .inr (.inr ⟨other, old⟩)

theorem lookup_publish_other {digest : List RouteAd → UInt64}
    {edgeId : String} {ads : EdgeAds edgeId} {ttl lag : Nat}
    (other : ad.edgeId ≠ edgeId) (found : plane.routes.lookup ad = some expiry)
    (future : plane.time < expiry) :
    (plane.step digest (.publish edgeId ads ttl lag)).routes.lookup ad =
      some expiry := by
  have undesired : ad ∉ ads.ads := fun desired => other (ads.own ad desired)
  have unlisted : ad ∉ ((plane.sets (meshEdgeRoutesKey edgeId)).current
      plane.time).members := fun listed =>
    other (shown.own (ExpiringSet.mem_of_mem_current listed))
  have unread : plane.time - lag < expiry := by omega
  rw [RoutePlane.lookup_publish, if_neg undesired, if_neg unlisted, found]
  simpa using unread

section

variable (digest : List RouteAd → UInt64)
include digest

theorem publish (edgeId : String) (ads : EdgeAds edgeId) (ttl lag : Nat) :
    Shows (plane.step digest (.publish edgeId ads ttl lag))
      (board.step (.publish edgeId ads ttl lag)) where
  time := shown.time
  own {named ad} member := by
    rcases eq_or_ne named edgeId with rfl | other
    · exact ads.own ad (RoutePlane.mem_sets_publish member)
    · rw [RoutePlane.sets_publish_ne other] at member
      exact shown.own member
  tracked {ad expiry} found := by
    rcases shown.of_lookup_publish found with
      ⟨desired, rfl⟩ | past | ⟨other, old⟩
    · obtain rfl := ads.own ad desired
      rcases eq_or_ne ttl 0 with rfl | lasting
      · exact .inl (Nat.sub_le _ _)
      · obtain ⟨member, timed⟩ := RoutePlane.expiry_sets_publish desired lasting
        exact .inr ⟨member, _, timed, by omega⟩
    · exact .inl past
    · rw [RoutePlane.sets_publish_ne other]
      exact shown.tracked old
  sound {ad expiry} found := by
    rcases shown.of_lookup_publish found with
      ⟨desired, rfl⟩ | past | ⟨other, old⟩
    · have own := ads.own ad desired
      simp [RouteBoard.step, own, desired, shown.time]
    · exact .inl past
    · simpa [RouteBoard.step, other] using shown.sound old
  complete {ad expiry} advertised := by
    simp only [RouteBoard.step] at advertised
    split at advertised
    · next other =>
      rcases shown.complete advertised with past | found
      · exact .inl past
      · rcases Nat.lt_or_ge plane.time expiry with future | past
        · exact .inr (shown.lookup_publish_other other found future)
        · exact .inl past
    · split at advertised
      · next desired =>
        rw [RoutePlane.lookup_publish, if_pos desired, shown.time]
        exact .inr advertised
      · cases advertised

theorem withdraw (edgeId : String) (ads : EdgeAds edgeId) :
    Shows (plane.step digest (.withdraw edgeId ads))
      (board.step (.withdraw edgeId ads)) where
  time := RoutePlane.time_withdraw.trans shown.time
  own {named ad} member := by
    rcases eq_or_ne named edgeId with rfl | other
    · exact shown.own (RoutePlane.mem_sets_withdraw member)
    · rw [RoutePlane.sets_withdraw_ne other] at member
      exact shown.own member
  tracked {ad expiry} found := by
    rw [RoutePlane.lookup_withdraw] at found
    split at found
    · cases found
    · next kept =>
      rw [RoutePlane.time_withdraw]
      rcases shown.tracked found with past | ⟨listed, last, timed, within⟩
      · exact .inl past
      · rcases eq_or_ne ad.edgeId edgeId with rfl | other
        · rcases Nat.lt_or_ge plane.time expiry with future | past
          · obtain ⟨stays, still⟩ :=
              RoutePlane.expiry_sets_withdraw kept listed timed (by omega)
            exact .inr ⟨stays, last, still, within⟩
          · exact .inl past
        · rw [RoutePlane.sets_withdraw_ne other]
          exact .inr ⟨listed, last, timed, within⟩
  sound {ad expiry} found := by
    rw [RoutePlane.lookup_withdraw] at found
    split at found
    · cases found
    · next kept =>
      simpa [RouteBoard.step, kept] using shown.sound found
  complete {ad expiry} advertised := by
    simp only [RouteBoard.step] at advertised
    split at advertised
    · cases advertised
    · next kept =>
      rw [RoutePlane.lookup_withdraw, if_neg kept, RoutePlane.time_withdraw]
      exact shown.complete advertised

theorem elapse (milliseconds : Nat) :
    Shows (plane.step digest (.elapse milliseconds))
      (board.step (.elapse milliseconds)) where
  time := congrArg (· + milliseconds) shown.time
  own := shown.own
  tracked found := (shown.tracked found).imp_left (Nat.le_add_right_of_le ·)
  sound found := (shown.sound found).imp_left (Nat.le_add_right_of_le ·)
  complete advertised :=
    (shown.complete advertised).imp_left (Nat.le_add_right_of_le ·)

theorem step (event : RouteEvent) :
    Shows (plane.step digest event) (board.step event) := by
  cases event with
  | publish edgeId ads ttl lag => exact shown.publish digest edgeId ads ttl lag
  | withdraw edgeId ads => exact shown.withdraw digest edgeId ads
  | elapse milliseconds => exact shown.elapse digest milliseconds

end

/-- What is to expire after the read is fetched exactly when it is
advertised. -/
theorem mem_fetchRoutes {reading : Nat}
    (read : reading ≤ plane.time) (future : plane.time < expiry) :
    (ad, expiry) ∈ plane.fetchRoutes reading ↔
      board.advertised ad = some expiry := by
  rw [RoutePlane.fetchRoutes, ScoredSet.mem_range]
  constructor
  · rintro ⟨found, _⟩
    exact (shown.sound found).resolve_left (Nat.not_le.mpr future)
  · intro advertised
    exact ⟨(shown.complete advertised).resolve_left
      (Nat.not_le.mpr future), by omega⟩

end Shows

theorem shows_run (digest : List RouteAd → UInt64) (events : List RouteEvent) :
    Shows (RoutePlane.run digest events) (RouteBoard.run events) := by
  induction events using List.reverseRecOn with
  | nil => exact Shows.start
  | append_singleton events event ih =>
    rw [RoutePlane.run, RouteBoard.run, Run.after_concat, Run.after_concat]
    exact ih.step digest event

/-- What is fetched is what each Edge published last and has not withdrawn
since, as far as it expires after the read.  A call does not touch the
advertisements of other Edges. -/
theorem fetched_routes (digest : List RouteAd → UInt64)
    (events : List RouteEvent) (reading : Nat) (ad : RouteAd)
    (expiry : Nat)
    (read : reading ≤ (RoutePlane.run digest events).time) :
    ((ad, expiry) ∈ (RoutePlane.run digest events).fetchRoutes reading →
      reading ≤ expiry) ∧
    ((RoutePlane.run digest events).time < expiry →
      ((ad, expiry) ∈ (RoutePlane.run digest events).fetchRoutes reading ↔
        (RouteBoard.run events).advertised ad = some expiry) ∧
      ∀ event edgeId, RouteEvent.caller event = some edgeId →
      ad.edgeId ≠ edgeId →
        ((ad, expiry) ∈
          ((RoutePlane.run digest events).step digest event).fetchRoutes
            reading ↔
          (ad, expiry) ∈ (RoutePlane.run digest events).fetchRoutes
            reading)) := by
  have shown := shows_run digest events
  constructor
  · exact fun fetched => (ScoredSet.mem_range.mp fetched).2
  · intro future
    refine ⟨shown.mem_fetchRoutes read future, ?_⟩
    intro event edgeId called other
    have unmoved : ((RoutePlane.run digest events).step digest event).time =
        (RoutePlane.run digest events).time :=
      RoutePlane.time_step_of_caller called
    rw [shown.mem_fetchRoutes read future,
      (shown.step digest event).mem_fetchRoutes (by omega) (by omega),
      RouteBoard.advertised_step_other called other]

def adOf (edgeId : String) : RouteAd :=
  { hostname := "a.example.com", protocol := .http, tenantId := "tenant-a",
    edgeId, generation := 1 }

/-- Two Edges advertise the same hostname, and one of them withdraws it. -/
def withdrawnByOne : List RouteEvent :=
  [.publish "edge-a" ⟨[adOf "edge-a"], by simp [adOf]⟩ 30 0, .elapse 10,
    .publish "edge-b" ⟨[adOf "edge-b"], by simp [adOf]⟩ 30 5,
    .withdraw "edge-a" ⟨[adOf "edge-a"], by simp [adOf]⟩]

theorem fetched_routes_withdrawnByOne :
    (RoutePlane.run (fun _ => 0) withdrawnByOne).fetchRoutes 10 =
      [(adOf "edge-b", 35)] ∧
      (RouteBoard.run withdrawnByOne).advertised (adOf "edge-b") =
        some 35 := by
  have fetched : (RoutePlane.run (fun _ => 0) withdrawnByOne).fetchRoutes 10 =
      [(adOf "edge-b", 35)] := by
    decide +kernel
  refine ⟨fetched, ?_⟩
  apply (((fetched_routes (fun _ => 0) withdrawnByOne 10 (adOf "edge-b") 35
    (by decide +kernel)).2 (by decide +kernel)).1).mp
  exact List.mem_singleton_self _

end SieveTube.Valkey
