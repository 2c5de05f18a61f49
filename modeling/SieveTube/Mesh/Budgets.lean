import SieveTube.Mesh.Permits

/-!
# No stream budget is exceeded

Every reference to a semaphore was cloned from the entry of its key, and an
entry is only swept while the map holds the last reference.  So the calls of
a key share one semaphore, whose permits are conserved.
-/

namespace SieveTube

namespace Mesh

namespace PermitSlot

/-- The references a slot has to a semaphore. -/
def refs (id : Nat) (slot : PermitSlot) : Nat :=
  if slot.ref = some id then 1 else 0

/-- The permits of a semaphore that a slot holds. -/
def permits (id : Nat) (slot : PermitSlot) : Nat :=
  if slot = .held id then 1 else 0

theorem refs_congr {slot other : PermitSlot} (same : slot.ref = other.ref)
    (id : Nat) : slot.refs id = other.refs id := by
  simp [refs, same]

theorem permits_eq_zero {id target : Nat} {slot : PermitSlot}
    (ref : slot.ref = some id) (other : target ≠ id) :
    slot.permits target = 0 := by
  unfold permits
  split
  · next held =>
    rw [held] at ref
    exact absurd (Option.some.inj ref) other
  · rfl

theorem permits_le_refs (id : Nat) (slot : PermitSlot) :
    slot.permits id ≤ slot.refs id := by
  unfold permits refs
  split
  · next held => simp [held, ref]
  · exact Nat.zero_le _

end PermitSlot

namespace PermitTable

variable (table : PermitTable) (id target : Nat)

theorem strong_put (semaphore : Semaphore Nat) :
    ((table.put id semaphore).semaphores target).strong =
      (table.semaphores target).strong := by
  rcases eq_or_ne target id with rfl | other
  · simp [put]
  · simp [put, other]

theorem semaphore_put (semaphore : Semaphore Nat) :
    ((table.put id semaphore).semaphores target).semaphore =
      if target = id then semaphore
      else (table.semaphores target).semaphore := by
  rcases eq_or_ne target id with rfl | other
  · simp [put]
  · simp [put, other]

theorem strong_retain : ((table.retain id).semaphores target).strong =
      (table.semaphores target).strong + if target = id then 1 else 0 := by
  rcases eq_or_ne target id with rfl | other
  · simp [retain]
  · simp [retain, other]

theorem semaphore_retain : ((table.retain id).semaphores target).semaphore =
      (table.semaphores target).semaphore := by
  rcases eq_or_ne target id with rfl | other
  · simp [retain]
  · simp [retain, other]

theorem strong_release : ((table.release id).semaphores target).strong =
      (table.semaphores target).strong - if target = id then 1 else 0 := by
  rcases eq_or_ne target id with rfl | other
  · simp [release]
  · simp [release, other]

theorem semaphore_release : ((table.release id).semaphores target).semaphore =
      (table.semaphores target).semaphore := by
  rcases eq_or_ne target id with rfl | other
  · simp [release]
  · simp [release, other]

end PermitTable

namespace PermitCall

variable {weight : PermitSlot → Nat}

/-- A weight of slots over both budgets. -/
def sum (weight : PermitSlot → Nat) (call : PermitCall) : Nat :=
  weight (call.slots .tenant) + weight (call.slots .peer)

theorem sum_setSlot (call : PermitCall) {budget : Budget} {slot : PermitSlot} :
    (call.setSlot budget slot).sum weight + weight (call.slots budget) =
      call.sum weight + weight slot := by
  cases budget <;> simp only [sum, setSlot, Function.update_self, ne_eq,
    reduceCtorEq, not_false_eq_true, Function.update_of_ne] <;> omega

/-- Everything a turn can do to the slots of its call and to the
semaphores. -/
inductive Move (limits : MeshLimits) (table : PermitTable)
    (call : PermitCall) : PermitCall → PermitTable → Prop where
  | keep {phase : CallPhase} : Move limits table call { call with phase } table
  | clone (budget : Budget)
      (before : call.slots budget = .absent) : Move limits table call
        (call.setSlot budget (.cloned
          (table.entry limits budget (call.key budget)).1))
        (table.entry limits budget (call.key budget)).2
  | settle (budget : Budget) (id : Nat) (slot : PermitSlot)
      (semaphore : Semaphore Nat) (before : (call.slots budget).ref = some id)
      (after : slot.ref = some id)
      (conserved : semaphore.remaining + slot.permits id =
        (table.semaphores id).semaphore.remaining +
          (call.slots budget).permits id) :
      Move limits table call (call.setSlot budget slot) (table.put id semaphore)
  | unref (budget : Budget) (id : Nat)
      (before : (call.slots budget).ref = some id)
      (free : (call.slots budget).permits id = 0) :
      Move limits table call (call.setSlot budget .absent) (table.release id)

variable {limits : MeshLimits} {table : PermitTable}
variable (index : Nat) (call : PermitCall) (budget : Budget)

theorem setSlot_self :
    call.setSlot budget (call.slots budget) = call := by
  simp [setSlot]

theorem move_poll {call : PermitCall} {budget : Budget} {id : Nat}
    {taken : Bool} {semaphore : Semaphore Nat}
    (before : (call.slots budget).ref = some id)
    (free : (call.slots budget).permits id = 0)
    (spent : semaphore.remaining + (if taken then 1 else 0) =
      (table.semaphores id).semaphore.remaining) :
    Move limits table call (call.setSlot budget
      (if taken then .held id else .waiting id)) (table.put id semaphore) := by
  refine .settle budget id _ semaphore before ?_ ?_
  · cases taken <;> rfl
  · rw [free, ← spent]
    cases taken <;> simp [PermitSlot.permits]

theorem acquire_move : Move limits table call
      (call.setSlot budget (table.acquire limits index budget
        (call.key budget) (call.slots budget)).1)
      (table.acquire limits index budget (call.key budget)
        (call.slots budget)).2 := by
  cases slot : call.slots budget with
  | absent => exact .clone budget slot
  | cloned id =>
    apply move_poll (by rw [slot]; rfl) (by rw [slot]; rfl)
    exact (table.semaphores id).semaphore.remaining_enter index
  | waiting id =>
    apply move_poll (by rw [slot]; rfl) (by rw [slot]; rfl)
    exact (table.semaphores id).semaphore.remaining_wake index
  | held id | returned id =>
    simp only [PermitTable.acquire]
    rw [← slot, setSlot_self]
    exact .keep

theorem drop_move : Move limits table call
      (call.setSlot budget (table.drop index (call.slots budget)).1)
      (table.drop index (call.slots budget)).2 := by
  cases slot : call.slots budget with
  | absent =>
    simp only [PermitTable.drop]
    rw [← slot, setSlot_self]
    exact .keep
  | cloned id | returned id =>
    exact .unref budget id (by rw [slot]; rfl) (by rw [slot]; rfl)
  | waiting id =>
    refine .settle budget id _ _ (by rw [slot]; rfl) rfl ?_
    rw [slot, Semaphore.remaining_leave]
    rfl
  | held id =>
    refine .settle budget id _ _ (by rw [slot]; rfl) rfl ?_
    rw [slot, Semaphore.remaining_addPermit]
    simp [PermitTable.drop, PermitSlot.permits]

theorem proceed_move :
    Move limits table call (proceed limits table index call).1
      (proceed limits table index call).2 := by
  unfold proceed
  split
  · split
    · exact .keep
    · exact acquire_move index call _
  · split
    · exact .keep
    · exact drop_move index call _
  · exact .keep
  · exact .keep
  · exact .keep

theorem timeOut_move : Move limits table call call.timeOut table := by
  unfold timeOut
  split
  · split <;> exact .keep
  · exact .keep

theorem cancel_move : Move limits table call call.cancel table := by
  unfold cancel
  split <;> exact .keep

theorem release_move : Move limits table call call.release table := by
  unfold release
  split <;> exact .keep

end PermitCall

namespace PermitState

/-- The references that calls have to a semaphore. -/
def refs (state : PermitState) (id : Nat) : Nat :=
  Tasks.total (PermitCall.sum (PermitSlot.refs id)) state.calls

/-- The permits of a semaphore that calls hold. -/
def permits (state : PermitState) (id : Nat) : Nat :=
  Tasks.total (PermitCall.sum (PermitSlot.permits id)) state.calls

/-- A stored semaphore is counted in full: its references are the entry and
the calls, and its permits are conserved. -/
structure Sound (limits : MeshLimits) (state : PermitState) : Prop where
  current : ∀ call ∈ state.calls, ∀ budget id,
    (call.slots budget).ref = some id →
      (state.maps budget).lookup (call.key budget) = some id
  single : ∀ {budget other key target id},
    (state.maps budget).lookup key = some id →
      (state.maps other).lookup target = some id → budget = other ∧ key = target
  fresh : ∀ {budget key id}, (state.maps budget).lookup key = some id →
    id < state.allocated
  strong : ∀ {budget key id}, (state.maps budget).lookup key = some id →
    (state.semaphores id).strong = 1 + state.refs id
  conserved : ∀ {budget key id}, (state.maps budget).lookup key = some id →
      (state.semaphores id).semaphore.remaining + state.permits id =
        limits.limit budget

variable {limits : MeshLimits} {state : PermitState}

theorem sound_start : Sound limits start where
  current _ member := by cases member
  single stored := by cases stored
  fresh stored := by cases stored
  strong stored := by cases stored
  conserved stored := by cases stored

theorem ref_ne_of_refs_eq_zero {id : Nat} (unused : state.refs id = 0)
    {call : PermitCall} (member : call ∈ state.calls) (budget : Budget) :
    (call.slots budget).ref ≠ some id := by
  have none := Tasks.total_eq_zero_iff.mp unused call member
  intro ref
  cases budget <;> simp [PermitCall.sum, PermitSlot.refs, ref] at none

theorem refs_eq_zero {id : Nat} (none : ∀ call ∈ state.calls, ∀ budget,
      (call.slots budget).ref ≠ some id) : state.refs id = 0 := by
  rw [refs, Tasks.total_eq_zero_iff]
  intro call member
  simp [PermitCall.sum, PermitSlot.refs, none call member]

theorem permits_le_refs (id : Nat) : state.permits id ≤ state.refs id := by
  apply Tasks.total_mono
  intro call _
  exact Nat.add_le_add (PermitSlot.permits_le_refs id _)
    (PermitSlot.permits_le_refs id _)

theorem sound_calls (sound : Sound limits state) {calls : List PermitCall}
    (current : ∀ call ∈ calls, ∀ budget id, (call.slots budget).ref = some id →
        (state.maps budget).lookup (call.key budget) = some id)
    (same : ∀ weight, weight .absent = 0 →
      Tasks.total (PermitCall.sum weight) calls =
        Tasks.total (PermitCall.sum weight) state.calls) :
    Sound limits { state with calls } := by
  refine ⟨current, sound.single, sound.fresh, ?_, ?_⟩
  · intro budget key id stored
    rw [refs, same _ rfl]
    exact sound.strong stored
  · intro budget key id stored
    rw [permits, same _ rfl]
    exact sound.conserved stored

section Turn

variable {index : Nat} {call : PermitCall} {budget : Budget}
variable {slot : PermitSlot} {later : PermitTable}

/-- The state after a turn that changes one slot. -/
abbrev slotSet (state : PermitState) (index : Nat) (call : PermitCall)
    (budget : Budget) (slot : PermitSlot) (later : PermitTable) :
    PermitState :=
  { toPermitTable := later,
    calls := state.calls.set index (call.setSlot budget slot) }

section

variable (found : state.calls[index]? = some call)
include found

theorem total_slotSet (weight : PermitSlot → Nat) (budget : Budget)
    (slot : PermitSlot) (later : PermitTable) :
    Tasks.total (PermitCall.sum weight)
      (slotSet state index call budget slot later).calls +
        weight (call.slots budget) =
      Tasks.total (PermitCall.sum weight) state.calls + weight slot := by
  have moved : Tasks.total (PermitCall.sum weight)
      (slotSet state index call budget slot later).calls + call.sum weight =
        _ :=
    Tasks.total_set found
  have changed : (call.setSlot budget slot).sum weight +
      weight (call.slots budget) = _ := call.sum_setSlot
  omega

theorem refs_slotSet (budget : Budget) (slot : PermitSlot) (later : PermitTable)
    (id : Nat) :
    (slotSet state index call budget slot later).refs id +
        (call.slots budget).refs id = state.refs id + slot.refs id :=
  total_slotSet found (PermitSlot.refs id) budget slot later

theorem permits_slotSet (budget : Budget) (slot : PermitSlot)
    (later : PermitTable) (id : Nat) :
    (slotSet state index call budget slot later).permits id +
      (call.slots budget).permits id = state.permits id + slot.permits id :=
  total_slotSet found (PermitSlot.permits id) budget slot later

theorem permits_clone (before : call.slots budget = .absent) {id target : Nat} :
    (slotSet state index call budget (.cloned id) later).permits target =
      state.permits target := by
  have permits := permits_slotSet found budget (.cloned id) later target
  rw [before] at permits
  simpa [PermitSlot.permits] using permits

theorem refs_clone (before : call.slots budget = .absent) {id target : Nat} :
    (slotSet state index call budget (.cloned id) later).refs target =
      state.refs target + if target = id then 1 else 0 := by
  have refs := refs_slotSet found budget (.cloned id) later target
  rw [before] at refs
  simpa [PermitSlot.refs, PermitSlot.ref, eq_comm] using refs

end

theorem lookup_insert (maps : Budget → AList fun _ : String => Nat)
    (budget other : Budget) (key target : String) (id : Nat) :
    ((Function.update maps budget ((maps budget).insert key id)) other).lookup
      target = if other = budget ∧ target = key then some id
      else (maps other).lookup target := by
  rcases eq_or_ne other budget with rfl | different
  · simp [AList.lookup_insert_eq]
  · simp [different]

variable (sound : Sound limits state)
include sound

section

variable (found : state.calls[index]? = some call)
include found

theorem current_slotSet
    (kept : ∀ {budget key id}, (state.maps budget).lookup key = some id →
      (later.maps budget).lookup key = some id)
    (new : ∀ id, slot.ref = some id →
      (later.maps budget).lookup (call.key budget) = some id) :
    ∀ other ∈ (slotSet state index call budget slot later).calls,
      ∀ budget id, (other.slots budget).ref = some id →
        (later.maps budget).lookup (other.key budget) = some id := by
  intro other member target id ref
  rcases List.mem_or_eq_of_mem_set member with old | rfl
  · exact kept (sound.current other old target id ref)
  · rcases eq_or_ne target budget with rfl | different
    · exact new id (by simpa [PermitCall.setSlot] using ref)
    · apply kept
      apply sound.current call (List.mem_of_getElem? found)
      simpa [PermitCall.setSlot, different] using ref

theorem sound_settle {id : Nat} {semaphore : Semaphore Nat}
    (before : (call.slots budget).ref = some id) (after : slot.ref = some id)
    (conserved : semaphore.remaining + slot.permits id =
      (state.semaphores id).semaphore.remaining +
        (call.slots budget).permits id) :
    Sound limits (slotSet state index call budget slot
      (state.toPermitTable.put id semaphore)) where
  current := by
    apply current_slotSet sound found (fun stored => stored)
    intro target ref
    cases after.symm.trans ref
    exact sound.current call (List.mem_of_getElem? found) budget _ before
  single := sound.single
  fresh := sound.fresh
  strong {_ _ target} stored := by
    have refs := refs_slotSet found budget slot
      (state.toPermitTable.put id semaphore) target
    rw [PermitSlot.refs_congr (after.trans before.symm)] at refs
    rw [PermitTable.strong_put, sound.strong stored]
    omega
  conserved {_ _ target} stored := by
    have permits :=
      permits_slotSet found budget slot
        (state.toPermitTable.put id semaphore) target
    have kept := sound.conserved stored
    rw [PermitTable.semaphore_put]
    split
    · next same =>
      subst same
      omega
    · next other =>
      rw [PermitSlot.permits_eq_zero before other,
        PermitSlot.permits_eq_zero after other] at permits
      omega

theorem sound_unref {id : Nat} (before : (call.slots budget).ref = some id)
    (free : (call.slots budget).permits id = 0) :
    Sound limits (slotSet state index call budget .absent
      (state.toPermitTable.release id)) where
  current := by
    apply current_slotSet sound found (fun stored => stored)
    intro target ref
    cases ref
  single := sound.single
  fresh := sound.fresh
  strong {_ _ target} stored := by
    have refs := refs_slotSet found budget .absent
      (state.toPermitTable.release id) target
    have counted := sound.strong stored
    rw [PermitTable.strong_release]
    have lost : (call.slots budget).refs target =
        if target = id then 1 else 0 := by
      simp [PermitSlot.refs, before, eq_comm]
    have nothing : PermitSlot.refs target .absent = 0 := by
      simp [PermitSlot.refs, PermitSlot.ref]
    omega
  conserved {_ _ target} stored := by
    have permits :=
      permits_slotSet found budget .absent
        (state.toPermitTable.release id) target
    have kept := sound.conserved stored
    have nothing : PermitSlot.permits target .absent = 0 := by
      simp [PermitSlot.permits]
    have given : (call.slots budget).permits target = 0 := by
      rcases eq_or_ne target id with rfl | other
      · exact free
      · exact PermitSlot.permits_eq_zero before other
    rw [PermitTable.semaphore_release]
    omega

theorem sound_clone_stored (before : call.slots budget = .absent) {id : Nat}
    (stored : (state.maps budget).lookup (call.key budget) = some id) :
    Sound limits (slotSet state index call budget (.cloned id)
      (state.toPermitTable.retain id)) where
  current := by
    apply current_slotSet sound found (fun stored => stored)
    intro target ref
    cases ref
    exact stored
  single := sound.single
  fresh := sound.fresh
  strong stored := by
    rw [PermitTable.strong_retain, refs_clone found before, sound.strong stored]
    omega
  conserved stored := by
    rw [PermitTable.semaphore_retain, permits_clone found before,
      sound.conserved stored]

theorem sound_clone_new (before : call.slots budget = .absent)
    (missing : (state.maps budget).lookup (call.key budget) = none) :
    Sound limits (slotSet state index call budget (.cloned state.allocated)
      { maps := Function.update state.maps budget
          ((state.maps budget).insert (call.key budget) state.allocated)
        semaphores := Function.update state.semaphores state.allocated
          ⟨2, .new (limits.limit budget)⟩
        allocated := state.allocated + 1 }) := by
  have unused : state.refs state.allocated = 0 := by
    apply refs_eq_zero
    intro other member target ref
    exact absurd (sound.fresh (sound.current other member target _ ref))
      (Nat.lt_irrefl _)
  refine ⟨?_, ?_, ?_, ?_, ?_⟩
  · apply current_slotSet sound found
    · intro other target id stored
      rw [lookup_insert, if_neg ?_]
      · exact stored
      · rintro ⟨rfl, rfl⟩
        rw [missing] at stored
        cases stored
    · intro id ref
      cases ref
      rw [lookup_insert, if_pos ⟨rfl, rfl⟩]
  · intro first second key target id stored stored'
    rw [lookup_insert] at stored stored'
    split at stored <;> split at stored'
    · next here there =>
        exact ⟨here.1.trans there.1.symm, here.2.trans there.2.symm⟩
    · cases stored
      exact absurd (sound.fresh stored') (Nat.lt_irrefl _)
    · cases stored'
      exact absurd (sound.fresh stored) (Nat.lt_irrefl _)
    · exact sound.single stored stored'
  · intro other key id stored
    rw [lookup_insert] at stored
    split at stored
    · cases stored
      exact Nat.lt_succ_self _
    · exact Nat.lt_succ_of_lt (sound.fresh stored)
  · intro other key id stored
    rw [lookup_insert] at stored
    rw [refs_clone found before]
    split at stored
    · cases stored
      simp [unused]
    · have small := (sound.fresh stored).ne
      simp [small, sound.strong stored]
  · intro other key id stored
    rw [lookup_insert] at stored
    rw [permits_clone found before]
    split at stored
    · next here =>
      cases stored
      have none := (permits_le_refs _).trans_eq unused
      simp only [Function.update_self, Semaphore.remaining_new, here.1]
      omega
    · have small := (sound.fresh stored).ne
      simpa [small] using sound.conserved stored

theorem sound_clone (before : call.slots budget = .absent) :
    Sound limits (slotSet state index call budget
      (.cloned (state.entry limits budget (call.key budget)).1)
      (state.entry limits budget (call.key budget)).2) := by
  unfold PermitTable.entry
  cases stored : (state.maps budget).lookup (call.key budget) with
  | none => exact sound_clone_new sound found before stored
  | some id => exact sound_clone_stored sound found before stored

theorem sound_keep (phase : CallPhase) :
    Sound limits { state with
      calls := state.calls.set index { call with phase } } := by
  apply sound_calls sound
  · intro other member budget id ref
    rcases List.mem_or_eq_of_mem_set member with old | rfl
    · exact sound.current other old budget id ref
    · exact sound.current call (List.mem_of_getElem? found) budget id ref
  · intro weight _
    exact Tasks.total_set_of_eq found rfl

end

theorem sound_turn {move : PermitCall → PermitCall × PermitTable}
    (moved : ∀ call, PermitCall.Move limits state.toPermitTable call
      (move call).1 (move call).2) :
    Sound limits (state.turn index move) := by
  unfold turn
  cases found : state.calls[index]? with
  | none => exact sound
  | some call =>
    have effect := moved call
    simp only
    generalize move call = result at effect
    obtain ⟨next, later⟩ := result
    cases effect with
    | keep => exact sound_keep sound found _
    | clone budget before => exact sound_clone sound found before
    | settle budget id slot semaphore before after conserved =>
      exact sound_settle sound found before after conserved
    | unref budget id before free => exact sound_unref sound found before free

end Turn

theorem sound_call (sound : Sound limits state) {tenant peer : String} :
    Sound limits (step limits state (.call tenant peer)) := by
  apply sound_calls sound
  · intro call member budget id ref
    rcases List.mem_append.mp member with old | new
    · exact sound.current call old budget id ref
    · obtain rfl := List.mem_singleton.mp new
      cases ref
  · intro weight nothing
    simp [PermitCall.sum, nothing]

theorem lookup_erase (maps : Budget → AList fun _ : String => Nat)
    (budget other : Budget) (key target : String) :
    ((Function.update maps budget ((maps budget).erase key)) other).lookup
      target = if other = budget ∧ target = key then none
      else (maps other).lookup target := by
  rcases eq_or_ne other budget with rfl | different
  · simp [AList.lookup_erase_eq]
  · simp [different]

theorem sound_sweep (sound : Sound limits state) (budget : Budget)
    (key : String) :
    Sound limits { state with
      toPermitTable := state.toPermitTable.sweep limits budget key } := by
  unfold PermitTable.sweep
  cases stored : (state.maps budget).lookup key with
  | none => exact sound
  | some id =>
    simp only
    split
    · exact sound
    next idle =>
      have unused : state.refs id = 0 := by
        have strong := sound.strong stored
        omega
      have left : ∀ {other target found},
          ((Function.update state.maps budget
            ((state.maps budget).erase key)) other).lookup target = some found →
            found ≠ id ∧ (state.maps other).lookup target = some found := by
        intro other target found kept
        rw [lookup_erase] at kept
        split at kept
        · cases kept
        next different =>
          refine ⟨?_, kept⟩
          rintro rfl
          exact different (sound.single kept stored)
      refine ⟨?_, ?_, ?_, ?_, ?_⟩
      · intro call member other found ref
        have current := sound.current call member other found ref
        have different := ref_ne_of_refs_eq_zero unused member other
        rw [lookup_erase, if_neg ?_]
        · exact current
        · rintro ⟨rfl, same⟩
          rw [same, stored] at current
          exact different (ref.trans current.symm)
      · intro first second one two found here there
        exact sound.single (left here).2 (left there).2
      · intro other target found kept
        exact sound.fresh (left kept).2
      · intro other target found kept
        obtain ⟨different, kept⟩ := left kept
        have strong := state.toPermitTable.strong_release id found
        rw [if_neg different] at strong
        exact strong.trans (sound.strong kept)
      · intro other target found kept
        have same := state.toPermitTable.semaphore_release id found
        exact (congrArg (·.remaining + _) same).trans
          (sound.conserved (left kept).2)

theorem sound_step (sound : Sound limits state) (event : PermitEvent) :
    Sound limits (step limits state event) := by
  cases event with
  | call tenant peer => exact sound_call sound
  | proceed index =>
    apply sound_turn sound
    exact PermitCall.proceed_move index
  | timeOut index =>
    simp only [step]
    apply sound_turn sound
    exact PermitCall.timeOut_move
  | cancel index =>
    simp only [step]
    apply sound_turn sound
    exact PermitCall.cancel_move
  | release index =>
    simp only [step]
    apply sound_turn sound
    exact PermitCall.release_move
  | sweep budget key => exact sound_sweep sound budget key

theorem sound_run (limits : MeshLimits) (events : List PermitEvent) :
    Sound limits (run limits events) := by
  apply Run.invariant sound_start
  intro state event sound
  exact sound_step sound event

/-- The number of permits that are out for a peer or tenant. -/
def outstanding (state : PermitState) (budget : Budget) (key : String) :
    Nat :=
  state.calls.countP fun call => call.key budget = key ∧
    (call.slots budget).isHeld

theorem held_current (sound : Sound limits state) {call : PermitCall}
    (member : call ∈ state.calls) {budget : Budget}
    (held : (call.slots budget).isHeld = true) :
    ∃ id, call.slots budget = .held id ∧
      (state.maps budget).lookup (call.key budget) = some id := by
  cases slot : call.slots budget with
  | held id =>
    refine ⟨id, rfl, sound.current call member budget id ?_⟩
    rw [slot]
    rfl
  | _ => simp [slot, PermitSlot.isHeld] at held

theorem outstanding_le (sound : Sound limits state) (budget : Budget)
    (key : String) : state.outstanding budget key ≤ limits.limit budget := by
  cases stored : (state.maps budget).lookup key with
  | none =>
    have nobody : state.outstanding budget key = 0 := by
      rw [outstanding, List.countP_eq_zero]
      intro call member holds
      simp only [decide_eq_true_eq] at holds
      obtain ⟨rfl, held⟩ := holds
      obtain ⟨id, _, current⟩ := held_current sound member held
      rw [stored] at current
      cases current
    omega
  | some id =>
    have conserved := sound.conserved stored
    have counted : state.outstanding budget key ≤ state.permits id := by
      apply Tasks.countP_le_total
      intro call member holds
      simp only [decide_eq_true_eq] at holds
      obtain ⟨rfl, held⟩ := holds
      obtain ⟨other, slot, current⟩ := held_current sound member held
      cases stored.symm.trans current
      cases budget <;> simp [PermitCall.sum, slot, PermitSlot.permits]
    omega

end PermitState

end Mesh

end SieveTube
