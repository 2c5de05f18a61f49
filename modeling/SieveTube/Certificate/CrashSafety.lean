import SieveTube.Certificate.Outcome

/-!
# Crash safety of the certificate store

Histories of store calls, each of which may fail or be cut off anywhere.  The
pointer only moves forward, names a complete generation that was valid when it
was stored, and pruning stays behind the two newest older generations.
-/

namespace SieveTube.Certificate

theorem Directory.lt_of_mem_drop {directory : Directory}
    {generation number count : Nat}
    (member : number ∈ (directory.older generation).drop count) :
    number < generation := by
  have listed := List.mem_of_mem_drop member
  simp only [Directory.older, List.mem_filter, decide_eq_true_eq] at listed
  exact listed.2

/-- A generation past the newest two older ones has two newer ones. -/
theorem Directory.older_of_mem_drop {directory : Directory}
    {generation number : Nat}
    (member : number ∈
      (directory.older generation).drop (keptGenerations - 1)) :
    ∃ first second, number < second ∧ second < first ∧ first < generation ∧
      (∀ kept ∈ [first, second],
        (directory.generations.lookup kept).isSome = true ∧
        kept ∉ (directory.older generation).drop (keptGenerations - 1)) := by
  have sorted : (directory.older generation).Pairwise (· > ·) :=
    directory.pairwise_newestFirst.filter _
  have below : ∀ kept ∈ directory.older generation, kept < generation ∧
      (directory.generations.lookup kept).isSome = true := by
    intro kept listed
    simp only [Directory.older, List.mem_filter, decide_eq_true_eq,
      Directory.mem_newestFirst] at listed
    exact ⟨listed.2, listed.1⟩
  rcases found : directory.older generation with _ | ⟨first, _ | ⟨second, rest⟩⟩
  · simp [found] at member
  · simp [found, keptGenerations] at member
  · rw [found] at sorted below member
    simp only [keptGenerations, List.drop_succ_cons, List.drop_zero,
      List.pairwise_cons, List.forall_mem_cons] at member sorted below ⊢
    refine ⟨first, second, sorted.2.1 number member, sorted.1.1,
      below.1.1, ⟨below.1.2, ?_⟩, ⟨below.2.1.2, ?_⟩, by simp⟩
    · intro again
      exact Nat.lt_irrefl first (sorted.1.2 first again)
    · intro again
      exact Nat.lt_irrefl second (sorted.2.1 second again)

section History

variable {Entry : Type}
variable (parseAndValidate :
  List UInt8 → List UInt8 → Int → Except String Entry)

/-- A call of the history stored the directory under the generation. -/
def StoredBy (calls : List StoreCall) (number : Nat)
    (dir : GenerationDir) : Prop :=
  ∃ call ∈ calls, call.request.generation = number ∧
    (∃ entry, parseAndValidate call.request.cert call.request.key
      call.request.now = .ok entry) ∧ call.request.dir = dir

/-- What holds of the directory after every history. -/
structure WellFormed (calls : List StoreCall)
    (directory : Directory) : Prop where
  active : ∀ active, directory.current = some active →
    ∃ dir, directory.generations.lookup active = some dir ∧
      StoredBy parseAndValidate calls active dir
  stored : ∀ number dir, directory.generations.lookup number = some dir →
    ∃ whole, StoredBy parseAndValidate calls number whole ∧
      Shrunk (some whole) (some dir)
  damaged : ∀ number dir, directory.generations.lookup number = some dir →
    dir.cert = none ∨ dir.key = none →
    ∃ active, directory.current = some active ∧ number < active

variable {parseAndValidate}

variable {calls : List StoreCall} {number : Nat} {dir : GenerationDir}

theorem StoredBy.concat (stored : StoredBy parseAndValidate calls number dir)
    {call : StoreCall} :
    StoredBy parseAndValidate (calls ++ [call]) number dir := by
  obtain ⟨earlier, member, facts⟩ := stored
  exact ⟨earlier, List.mem_append_left _ member, facts⟩

variable {directory : Directory} {request : Request}

theorem WellFormed.not_stored
    (wellFormed : WellFormed parseAndValidate calls directory)
    (admissible : Admissible parseAndValidate request directory) :
    directory.generations.lookup request.generation = none := by
  have free := admissible.free
  unfold Directory.renamable at free
  cases found : directory.generations.lookup request.generation with
  | none => rfl
  | some dir =>
    rw [found] at free
    have empty : dir = .empty := of_decide_eq_true free
    obtain ⟨active, current, below⟩ :=
      wellFormed.damaged _ dir found (.inl (by rw [empty]; rfl))
    exact absurd (admissible.newer active current) (Nat.lt_asymm below)

theorem WellFormed.placed_eq
    (wellFormed : WellFormed parseAndValidate calls directory)
    (admissible : Admissible parseAndValidate request directory)
    (found : directory.generations.lookup number = some dir) :
    request.placed directory number = some dir := by
  unfold Request.placed
  rw [if_neg, found]
  rintro rfl
  rw [wellFormed.not_stored admissible] at found
  cases found

variable {later : Directory}

/-- What a store call removes or damages is older than two older generations
that it leaves alone. -/
theorem WellFormed.kept_or_older
    (wellFormed : WellFormed parseAndValidate calls directory)
    (reached : Reached parseAndValidate request directory later)
    (found : directory.generations.lookup number = some dir) :
    later.generations.lookup number = some dir ∨
      later.current ≠ directory.current ∧
      ∃ first second next, later.current = some next ∧ number < second ∧
        second < first ∧ first < next ∧
        ∀ kept ∈ [first, second],
          (directory.generations.lookup kept).isSome = true ∧
          later.generations.lookup kept =
            directory.generations.lookup kept := by
  cases reached with
  | untouched stage =>
    rw [stage.generations]
    exact .inl found
  | renamed admissible stage =>
    rw [stage.generations]
    exact .inl (wellFormed.placed_eq admissible found)
  | switched admissible stage =>
    by_cases member : number ∈
      (directory.older request.generation).drop (keptGenerations - 1)
    · right
      obtain ⟨first, second, below, between, newest, kept⟩ :=
        Directory.older_of_mem_drop member
      refine ⟨?_, first, second, request.generation, stage.current, below,
        between, newest, ?_⟩
      · intro same
        rw [stage.current] at same
        exact Nat.lt_irrefl _ (admissible.newer _ same.symm)
      · intro other listed
        obtain ⟨present, outside⟩ := kept other listed
        obtain ⟨dir, stored⟩ := Option.isSome_iff_exists.mp present
        refine ⟨present, ?_⟩
        rw [stage.kept other outside, stored]
        exact wellFormed.placed_eq admissible stored
    · left
      rw [stage.kept number member]
      exact wellFormed.placed_eq admissible found

theorem current_le_of_reached
    (reached : Reached parseAndValidate request directory later) {active : Nat}
    (current : directory.current = some active) :
    ∃ next, later.current = some next ∧ active ≤ next := by
  cases reached with
  | untouched stage | renamed admissible stage =>
    exact ⟨active, stage.current.trans current, Nat.le_refl _⟩
  | switched admissible stage =>
    exact ⟨request.generation, stage.current,
      Nat.le_of_lt (admissible.newer active current)⟩

theorem placed_eq_some (placed : request.placed directory number = some dir) :
    number = request.generation ∧ dir = request.dir ∨
      directory.generations.lookup number = some dir := by
  unfold Request.placed at placed
  split at placed
  · next same => exact .inl ⟨same, (Option.some.inj placed).symm⟩
  · exact .inr placed

variable {call : StoreCall}

theorem storedBy_last
    (admissible : Admissible parseAndValidate call.request directory) :
    StoredBy parseAndValidate
      (calls ++ [call]) call.request.generation call.request.dir :=
  ⟨call, by simp, rfl, admissible.valid, rfl⟩

theorem WellFormed.stored_placed
    (wellFormed : WellFormed parseAndValidate calls directory)
    (admissible : Admissible parseAndValidate call.request directory)
    (shrunk : Shrunk (call.request.placed directory number) (some dir)) :
    ∃ whole, StoredBy parseAndValidate (calls ++ [call]) number whole ∧
      Shrunk (some whole) (some dir) := by
  cases placed : call.request.placed directory number with
  | none =>
    rw [placed] at shrunk
    exact shrunk.elim
  | some before =>
    rw [placed] at shrunk
    rcases placed_eq_some placed with ⟨rfl, rfl⟩ | found
    · exact ⟨_, storedBy_last admissible, shrunk⟩
    · obtain ⟨whole, stored, less⟩ := wellFormed.stored number before found
      exact ⟨whole, stored.concat, less.trans shrunk⟩

theorem Request.dir_complete (request : Request) :
    ¬ (request.dir.cert = none ∨ request.dir.key = none) := by
  simp [Request.dir]

section

variable (wellFormed : WellFormed parseAndValidate calls directory)
include wellFormed

theorem WellFormed.renamed
    (admissible : Admissible parseAndValidate call.request directory)
    (stage : Renamed call.request directory later) :
    WellFormed parseAndValidate (calls ++ [call]) later where
  active := by
    intro active current
    rw [stage.current] at current
    obtain ⟨dir, found, stored⟩ := wellFormed.active active current
    refine ⟨dir, ?_, stored.concat⟩
    rw [stage.generations]
    exact wellFormed.placed_eq admissible found
  stored := by
    intro number dir found
    rw [stage.generations] at found
    apply wellFormed.stored_placed admissible
    rw [found]
    exact Shrunk.refl _
  damaged := by
    intro number dir found incomplete
    rw [stage.generations] at found
    rcases placed_eq_some found with ⟨-, rfl⟩ | earlier
    · exact absurd incomplete call.request.dir_complete
    · rw [stage.current]
      exact wellFormed.damaged number dir earlier incomplete

theorem WellFormed.switched
    (admissible : Admissible parseAndValidate call.request directory)
    (stage : Switched call.request directory later) :
    WellFormed parseAndValidate (calls ++ [call]) later where
  active := by
    intro active current
    cases stage.current.symm.trans current
    refine ⟨call.request.dir, ?_, storedBy_last admissible⟩
    rw [stage.kept]
    · exact if_pos rfl
    · intro member
      exact Nat.lt_irrefl _ (Directory.lt_of_mem_drop member)
  stored := by
    intro number dir found
    apply wellFormed.stored_placed admissible
    rw [← found]
    exact stage.shrunk number
  damaged := by
    intro number dir found incomplete
    refine ⟨call.request.generation, stage.current, ?_⟩
    by_cases member : number ∈
      (directory.older call.request.generation).drop (keptGenerations - 1)
    · exact Directory.lt_of_mem_drop member
    · rw [stage.kept number member] at found
      rcases placed_eq_some found with ⟨-, rfl⟩ | earlier
      · exact absurd incomplete call.request.dir_complete
      · obtain ⟨active, current, below⟩ :=
          wellFormed.damaged number dir earlier incomplete
        exact Nat.lt_trans below (admissible.newer active current)

theorem WellFormed.untouched (stage : Untouched directory later) :
    WellFormed parseAndValidate (calls ++ [call]) later where
  active := by
    rw [stage.current, stage.generations]
    intro active current
    obtain ⟨dir, found, stored⟩ := wellFormed.active active current
    exact ⟨dir, found, stored.concat⟩
  stored := by
    rw [stage.generations]
    intro number dir found
    obtain ⟨whole, stored, shrunk⟩ := wellFormed.stored number dir found
    exact ⟨whole, stored.concat, shrunk⟩
  damaged := by
    rw [stage.current, stage.generations]
    exact wellFormed.damaged

theorem WellFormed.apply (call : StoreCall) :
    WellFormed parseAndValidate (calls ++ [call])
      (call.apply parseAndValidate directory) := by
  have reached : Reached parseAndValidate call.request directory
      (call.apply parseAndValidate directory) := reached_apply
  cases reached with
  | untouched stage => exact wellFormed.untouched stage
  | renamed admissible stage => exact wellFormed.renamed admissible stage
  | switched admissible stage => exact wellFormed.switched admissible stage

end

theorem wellFormed_after :
    WellFormed parseAndValidate calls
      (Directory.after parseAndValidate calls) := by
  apply Run.history_invariant (motive := WellFormed parseAndValidate)
  · constructor
    · intro active current
      cases current
    · intro number dir found
      cases found
    · intro number dir found
      cases found
  · intro calls call wellFormed
    exact wellFormed.apply call

theorem mem_newestFirst_of_loaded {now : Int} {entry : Entry}
    (loaded : loadGeneration parseAndValidate directory number now =
      some entry) : number ∈ directory.newestFirst := by
  rw [Directory.mem_newestFirst]
  cases found : directory.generations.lookup number with
  | none => simp [loadGeneration, found] at loaded
  | some dir => rfl

/-- The newest generation up to the active one that can be loaded. -/
theorem loadCurrent_eq_some_iff {now : Int} {entry : Entry} :
    loadCurrent parseAndValidate directory now = some (number, entry) ↔
      ∃ active, directory.current = some active ∧ number ≤ active ∧
        loadGeneration parseAndValidate directory number now = some entry ∧
        ∀ newer, number < newer → newer ≤ active →
          loadGeneration parseAndValidate directory newer now = none := by
  unfold loadCurrent
  cases directory.current with
  | none => simp
  | some active =>
    have sorted := directory.pairwise_newestFirst.filter (· ≤ active)
    simp only [Option.bind_eq_bind, Option.bind_some,
      List.findSome?_eq_some_iff, Option.map_eq_some_iff,
      Option.map_eq_none_iff, Prod.mk.injEq, Option.some.injEq,
      exists_eq_left']
    constructor
    · rintro ⟨before, found, after, split, ⟨loaded, answer, rfl, rfl⟩, none⟩
      have member : found ∈ directory.newestFirst.filter (· ≤ active) := by
        simp [split]
      refine ⟨by simpa using (List.mem_filter.mp member).2, answer, ?_⟩
      intro newer above within
      by_contra some
      obtain ⟨other, loadedToo⟩ := Option.ne_none_iff_exists'.mp some
      have listed : newer ∈ directory.newestFirst.filter (· ≤ active) := by
        simp [mem_newestFirst_of_loaded loadedToo, within]
      rw [split] at listed sorted
      rcases List.mem_append.mp listed with earlier | later
      · exact some (none newer earlier)
      · have below := (List.pairwise_append.mp sorted).2.1
        rw [List.pairwise_cons] at below
        rcases List.mem_cons.mp later with rfl | later
        · exact Nat.lt_irrefl _ above
        · exact Nat.lt_asymm above (below.1 newer later)
    · rintro ⟨within, loaded, none⟩
      have listed : number ∈ directory.newestFirst.filter (· ≤ active) := by
        simp [mem_newestFirst_of_loaded loaded, within]
      obtain ⟨before, after, split⟩ := List.append_of_mem listed
      refine ⟨before, number, after, split, ⟨entry, loaded, rfl, rfl⟩, ?_⟩
      intro newer member
      rw [split] at sorted
      apply none newer
      · exact (List.pairwise_append.mp sorted).2.2 newer member number
          List.mem_cons_self
      · have kept : newer ∈ directory.newestFirst.filter (· ≤ active) := by
          simp [split, member]
        simpa using (List.mem_filter.mp kept).2

theorem Directory.le_highest_of_current {active : Nat}
    (current : directory.current = some active) :
    active ≤ directory.highest := by
  simp [Directory.highest, current]

theorem Directory.le_highest_of_lookup
    (present : (directory.generations.lookup number).isSome = true) :
    number ≤ directory.highest := by
  have member := Directory.mem_newestFirst.mpr present
  have sorted := directory.pairwise_newestFirst
  unfold Directory.highest
  cases listed : directory.newestFirst with
  | nil => simp [listed] at member
  | cons newest rest =>
    rw [listed] at member sorted
    apply Nat.le_trans _ (Nat.le_max_left _ _)
    rcases List.mem_cons.mp member with rfl | later
    · exact Nat.le_refl _
    · exact Nat.le_of_lt ((List.pairwise_cons.mp sorted).1 number later)

/-- The store refuses the generation as stale or already existing. -/
def Taken (directory : Directory) (generation : Nat) : Prop :=
  (directory.generations.lookup generation).isSome = true ∨
    ∃ active, directory.current = some active ∧ generation ≤ active

/-- A store call refuses only a generation that is taken. -/
theorem taken_of_refused {error : StoreError}
    (failed : call.result parseAndValidate directory = .error error)
    (refuses : error.refusal = true) :
    Taken directory call.request.generation := by
  have stored : Stored parseAndValidate call.request directory _ _ :=
    stored_result
  rw [failed] at stored
  cases error with
  | invalid message => cases refuses
  | io => cases refuses
  | stale active => exact .inr ⟨active, stored⟩
  | alreadyExists => exact .inl stored

theorem Directory.le_highest_of_taken {generation : Nat}
    (taken : Taken directory generation) :
    generation ≤ directory.highest := by
  rcases taken with present | ⟨active, current, below⟩
  · exact Directory.le_highest_of_lookup present
  · exact Nat.le_trans below (Directory.le_highest_of_current current)

/-- Crash safety, over every history of store calls that succeed, fail or are
cut off anywhere.  The pointer names a complete generation that was valid when
it was stored.  A further call does not move it back, leaves every generation
alone unless it moves it, and removes or damages only generations that are
older than two older ones it leaves alone.  Loading takes the active
generation or else the newest older one that is complete and still valid.  The
next generation is accepted as long as it does not wrap around. -/
theorem store_crash_safe (calls : List StoreCall) :
    (∀ active, (Directory.after parseAndValidate calls).current = some active →
      ∃ dir, (Directory.after parseAndValidate calls).generations.lookup
        active = some dir ∧ StoredBy parseAndValidate calls active dir) ∧
    (∀ call : StoreCall,
      (∀ active, (Directory.after parseAndValidate calls).current =
        some active → ∃ next, (Directory.after parseAndValidate
          (calls ++ [call])).current = some next ∧ active ≤ next) ∧
      ∀ number dir, (Directory.after parseAndValidate calls).generations.lookup
        number = some dir →
        (Directory.after parseAndValidate (calls ++ [call])).generations.lookup
          number = some dir ∨
        (Directory.after parseAndValidate (calls ++ [call])).current ≠
          (Directory.after parseAndValidate calls).current ∧
        ∃ first second next,
          (Directory.after parseAndValidate (calls ++ [call])).current =
            some next ∧
          number < second ∧ second < first ∧ first < next ∧
          ∀ kept ∈ [first, second],
            ((Directory.after parseAndValidate calls).generations.lookup
              kept).isSome = true ∧
            (Directory.after parseAndValidate
              (calls ++ [call])).generations.lookup kept =
              (Directory.after parseAndValidate calls).generations.lookup
                kept) ∧
    (∀ now number entry,
      loadCurrent parseAndValidate (Directory.after parseAndValidate calls)
          now = some (number, entry) ↔
        ∃ active, (Directory.after parseAndValidate calls).current =
          some active ∧ number ≤ active ∧
          loadGeneration parseAndValidate
            (Directory.after parseAndValidate calls) number now = some entry ∧
          ∀ newer, number < newer → newer ≤ active →
          loadGeneration parseAndValidate
              (Directory.after parseAndValidate calls) newer now = none) ∧
    ((Directory.after parseAndValidate calls).highest + 1 < 2 ^ 64 →
      ∀ (call : StoreCall) (error : StoreError), call.request.generation =
          (Directory.after parseAndValidate calls).nextGeneration →
        call.result parseAndValidate (Directory.after parseAndValidate calls) =
          .error error →
        error.refusal = false) := by
  have wellFormed : WellFormed parseAndValidate calls _ := wellFormed_after
  have stepped : ∀ call : StoreCall, Reached parseAndValidate call.request
        (Directory.after parseAndValidate calls)
        (Directory.after parseAndValidate (calls ++ [call])) := by
    intro call
    rw [Directory.after_concat]
    exact reached_apply
  refine ⟨wellFormed.active, fun call => ⟨?_, ?_⟩, ?_, ?_⟩
  · intro active current
    exact current_le_of_reached (stepped call) current
  · intro number dir found
    exact wellFormed.kept_or_older (stepped call) found
  · intro now number entry
    exact loadCurrent_eq_some_iff
  · intro bounded call error next failed
    rw [Directory.nextGeneration, Nat.mod_eq_of_lt bounded] at next
    cases refuses : error.refusal with
    | false => rfl
    | true =>
      have low := Directory.le_highest_of_taken
        (taken_of_refused failed refuses)
      omega

end History

/-- A store call of the generation that meets no failure. -/
def smoothCall (generation : Nat) : StoreCall where
  request :=
    { generation, cert := [], key := [], now := 0, uuid := 0,
      pointerUuid := 0 }
  fates := fun _ => { succeeds := true, written := none, reversed := false }
  cutOff := none

/-- After the largest generation the next one wraps around and is refused. -/
theorem next_generation_wraps :
    let accepts : List UInt8 → List UInt8 → Int → Except String Unit :=
      fun _ _ _ => .ok ()
    let directory := Directory.after accepts [smoothCall (2 ^ 64 - 1)]
    directory.nextGeneration = 0 ∧
      (smoothCall directory.nextGeneration).result accepts directory =
        .error (.stale (2 ^ 64 - 1)) := by
  decide +kernel

end SieveTube.Certificate
