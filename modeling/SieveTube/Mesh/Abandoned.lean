import SieveTube.Mesh.Budgets

/-!
# Calls that give up

What a call took is dropped one operation at a time.  When the last one is
done, nothing of the call is left in the table.
-/

namespace SieveTube

namespace Mesh

namespace PermitCall

variable {limits : MeshLimits} {table : PermitTable}
variable (call : PermitCall)

/-- Nothing is left for the budgets that were dropped already. -/
def Tidy : Prop :=
  match call.phase with
  | .acquiring | .granted => True
  | .ending left _ => ∀ budget, budget ∉ left → call.slots budget = .absent
  | .ended _ => ∀ budget, call.slots budget = .absent

theorem tidy_proceed (index : Nat) (call : PermitCall) (tidy : call.Tidy) :
    (proceed limits table index call).1.Tidy := by
  unfold Tidy at tidy
  unfold proceed
  split
  · next acquiring =>
    split <;> simp [Tidy, setSlot, acquiring]
  · next budget left failure ending =>
    rw [ending] at tidy
    split
    · next absent =>
      intro other done
      rcases eq_or_ne other budget with rfl | different
      · exact absent
      · exact tidy other (by simp [different, done])
    · simp only [Tidy, setSlot, ending]
      intro other done
      have different : other ≠ budget := by
        rintro rfl
        exact done List.mem_cons_self
      rw [Function.update_of_ne different]
      exact tidy other done
  · next failure ending =>
    rw [ending] at tidy
    intro budget
    exact tidy budget (by simp)
  · next granted => simp [Tidy, granted]
  · next failure ended =>
    simpa only [Tidy, ended] using tidy

theorem tidy_timeOut (tidy : call.Tidy) : call.timeOut.Tidy := by
  unfold timeOut
  split
  · split
    · intro budget done
      cases budget <;> simp at done
    · exact tidy
  · exact tidy

theorem tidy_cancel (tidy : call.Tidy) : call.cancel.Tidy := by
  unfold cancel
  split
  · intro budget done
    cases budget <;> simp at done
  · exact tidy

theorem tidy_release (tidy : call.Tidy) : call.release.Tidy := by
  unfold release
  split
  · intro budget done
    cases budget <;> simp at done
  · exact tidy

/-- The call failed, was cancelled or gave its permits back. -/
def Dropped (failure : Option String) : Prop :=
  match call.phase with
  | .acquiring | .granted => False
  | .ending _ message | .ended message => message = failure

/-- The operations it takes to drop a slot. -/
def slotCost : PermitSlot → Nat
  | .absent => 0
  | .cloned _ | .returned _ => 1
  | .waiting _ | .held _ => 2

/-- The operations that are left of dropping a call. -/
def unfinished (call : PermitCall) : Nat :=
  match call.phase with
  | .ending left _ => 1 + left.length + call.sum slotCost
  | _ => 0

theorem dropped_proceed {failure : Option String} (limits : MeshLimits)
    (table : PermitTable) (index : Nat) {call : PermitCall}
    (dropped : call.Dropped failure) :
    (proceed limits table index call).1.Dropped failure ∧
      (proceed limits table index call).1.unfinished ≤ call.unfinished - 1 := by
  unfold proceed
  split
  · next acquiring => simp [Dropped, acquiring] at dropped
  · next budget left message ending =>
    split
    · simp only [Dropped, unfinished, ending] at dropped ⊢
      refine ⟨dropped, ?_⟩
      simp only [List.length_cons, sum]
      omega
    · next present =>
      refine ⟨by simpa only [Dropped, setSlot, ending] using dropped, ?_⟩
      have changed : (call.setSlot budget
          (table.drop index (call.slots budget)).1).sum slotCost +
            slotCost (call.slots budget) = _ :=
        call.sum_setSlot
      have cheaper : slotCost (table.drop index (call.slots budget)).1 + 1
          = slotCost (call.slots budget) := by
        cases slot : call.slots budget with
        | absent => exact absurd slot present
        | _ => rfl
      simp only [unfinished, ending]
      have phase : (call.setSlot budget
          (table.drop index (call.slots budget)).1).phase =
            .ending (budget :: left) message := ending
      rw [phase]
      simp only
      omega
  · next message ending =>
    simp only [Dropped, ending] at dropped
    exact ⟨dropped, Nat.zero_le _⟩
  · next granted => simp [Dropped, granted] at dropped
  · next message ended => exact ⟨dropped, by simp [unfinished, ended]⟩

end PermitCall

namespace PermitState

variable {limits : MeshLimits} {state : PermitState}

theorem tidy_step (tidy : ∀ call ∈ state.calls, call.Tidy)
    (event : PermitEvent) :
    ∀ call ∈ (step limits state event).calls, call.Tidy := by
  have turn : ∀ index (move : PermitCall → PermitCall × PermitTable),
      (∀ call : PermitCall, call.Tidy → (move call).1.Tidy) →
        ∀ call ∈ (state.turn index move).calls, call.Tidy := by
    intro index move kept call member
    unfold PermitState.turn at member
    split at member
    · exact tidy call member
    · next old found =>
      rcases List.mem_or_eq_of_mem_set member with other | rfl
      · exact tidy call other
      · exact kept old (tidy old (List.mem_of_getElem? found))
  cases event with
  | call tenant peer =>
    intro call member
    rcases List.mem_append.mp member with old | new
    · exact tidy call old
    · obtain rfl := List.mem_singleton.mp new
      trivial
  | proceed index => exact turn index _ (PermitCall.tidy_proceed index)
  | timeOut index => exact turn index _ PermitCall.tidy_timeOut
  | cancel index => exact turn index _ PermitCall.tidy_cancel
  | release index => exact turn index _ PermitCall.tidy_release
  | sweep budget key => exact tidy

theorem tidy_run {events : List PermitEvent} :
    ∀ call ∈ (run limits events).calls, call.Tidy := by
  apply Run.invariant (motive := fun state : PermitState => ∀ call ∈
    state.calls, call.Tidy)
  · intro call member
    cases member
  · intro state event tidy
    exact tidy_step tidy event

variable {index : Nat} {call : PermitCall}

theorem getElem?_turn (found : state.calls[index]? = some call) (target : Nat)
    (move : PermitCall → PermitCall × PermitTable) :
    (state.turn target move).calls[index]? =
      some (if target = index then (move call).1 else call) := by
  unfold turn
  rcases eq_or_ne target index with rfl | other
  · have inside := (List.getElem?_eq_some_iff.mp found).1
    rw [if_pos rfl, found]
    exact List.getElem?_set_self inside
  · rw [if_neg other]
    split
    · exact found
    · simp [List.getElem?_set_ne other, found]

theorem dropped_step
    (found : state.calls[index]? = some call) {failure : Option String}
    (dropped : call.Dropped failure) {event : PermitEvent} :
    ∃ next, (step limits state event).calls[index]? = some next ∧
      next.Dropped failure ∧
      next.unfinished ≤ call.unfinished - if event =
        .proceed index then 1 else 0 := by
  have unmoved : ∀ target (move : PermitCall → PermitCall),
      move call = call → (state.turn target fun call =>
        (move call, state.toPermitTable)).calls[index]? = some call := by
    intro target move same
    rw [getElem?_turn found]
    simp [same]
  have stays : (step limits state event).calls[index]? = some call →
      event ≠ .proceed index →
        ∃ next, (step limits state event).calls[index]? = some next ∧
          next.Dropped failure ∧ next.unfinished ≤
            call.unfinished - if event = .proceed index then 1 else 0 := by
    intro kept other
    exact ⟨call, kept, dropped, by simp [other]⟩
  have phase := dropped
  unfold PermitCall.Dropped at phase
  cases event with
  | call tenant peer =>
    apply stays _ (by rintro ⟨⟩)
    have inside := (List.getElem?_eq_some_iff.mp found).1
    simp only [step, List.getElem?_append_left inside, found]
  | proceed target =>
    rcases eq_or_ne target index with rfl | other
    · obtain ⟨kept, less⟩ :=
        PermitCall.dropped_proceed limits state.toPermitTable target dropped
      exact ⟨_, by simp [step, getElem?_turn found], kept, by simpa using less⟩
    · apply stays _ (by simpa using other)
      rw [step, getElem?_turn found, if_neg other]
  | timeOut target =>
    apply stays _ (by rintro ⟨⟩)
    apply unmoved
    unfold PermitCall.timeOut
    split <;> simp_all
  | cancel target =>
    apply stays _ (by rintro ⟨⟩)
    apply unmoved
    unfold PermitCall.cancel
    split <;> simp_all
  | release target =>
    apply stays _ (by rintro ⟨⟩)
    apply unmoved
    unfold PermitCall.release
    split <;> simp_all
  | sweep budget key => exact stays found (by rintro ⟨⟩)

/-- A call that is being dropped is done after as many turns as it has
operations left, whatever the other calls do in between. -/
theorem ended_after (found : state.calls[index]? = some call)
    {failure : Option String}
    (dropped : call.Dropped failure) (events : List PermitEvent)
    (turns : call.unfinished ≤ events.count (.proceed index)) :
    ∃ last, (Run.after (step limits) state events).calls[index]? = some last ∧
      last.phase = .ended failure := by
  induction events generalizing state call with
  | nil =>
    refine ⟨call, found, ?_⟩
    unfold PermitCall.Dropped at dropped
    unfold PermitCall.unfinished at turns
    split at dropped
    · cases dropped
    · cases dropped
    · next ending =>
      simp only [ending, List.count_nil] at turns
      omega
    · next ended => rw [ended, dropped]
  | cons event events ih =>
    obtain ⟨next, later, kept, less⟩ := dropped_step found dropped
    apply ih later kept
    rw [List.count_cons] at turns
    split at turns <;> simp_all <;> omega

/-- Stream budgets of the mesh, over every interleaving of calls, timeouts,
cancellations, releases and sweeps.  The permits that are out for a peer or
tenant are within its limit, and every call that waits for one or holds one
refers to the semaphore which is stored for the key.  A call that fails, is
cancelled or gives its permits back ends after its own operations, with
nothing left for either budget. -/
theorem stream_budgets (limits : MeshLimits) (events : List PermitEvent) :
    (∀ budget key, (run limits events).outstanding budget key ≤
      limits.limit budget) ∧
    (∀ call ∈ (run limits events).calls, ∀ budget id,
      (call.slots budget).ref = some id →
        ((run limits events).maps budget).lookup (call.key budget) = some id) ∧
    ∀ index call failure, (run limits events).calls[index]? = some call →
        call.Dropped failure → ∀ later : List PermitEvent,
          call.unfinished ≤ later.count (.proceed index) →
            ∃ last, (run limits (events ++ later)).calls[index]? = some last ∧
              last.phase = .ended failure ∧
              ∀ budget, last.slots budget = .absent := by
  have sound := sound_run limits events
  refine ⟨outstanding_le sound, sound.current, ?_⟩
  intro index call failure found dropped later turns
  have extended : run limits (events ++ later) =
      Run.after (step limits) (run limits events) later := by
    simp [run, Run.after]
  obtain ⟨last, there, ended⟩ := ended_after found dropped later turns
  rw [← extended] at there
  have tidy := tidy_run last (List.mem_of_getElem? there)
  refine ⟨last, there, ended, ?_⟩
  simpa only [PermitCall.Tidy, ended] using tidy

/-- A second call of a tenant gets the last slot of the tenant and waits for
the peer, in vain. -/
def secondTimesOut : List PermitEvent :=
  [.call "tenant" "edge-b", .proceed 0, .proceed 0, .proceed 0, .proceed 0,
    .proceed 0, .call "tenant" "edge-b", .proceed 1, .proceed 1, .proceed 1,
    .proceed 1, .sweep .peer "edge-b", .timeOut 1]

/-- The second call has returned both slots after its own operations. -/
theorem stream_budgets_secondTimesOut :
    ∃ last, (run ⟨1,
      2⟩ (secondTimesOut ++ List.replicate 7 (.proceed 1))).calls[1]? =
        some last ∧
      last.phase = .ended (some "no stream slot for edge") ∧
      ∀ budget, last.slots budget = .absent := by
  have waiting : ((run ⟨1, 2⟩ secondTimesOut).calls[1]?.map fun call =>
      (call.phase, call.slots .tenant, call.slots .peer)) =
      some (.ending [.peer, .tenant] (some "no stream slot for edge"), .held 0,
        .waiting 1) := by
    decide +kernel
  obtain ⟨call, found, shape⟩ := Option.map_eq_some_iff.mp waiting
  obtain ⟨phase, tenant, peer⟩ : _ ∧ _ ∧ _ := by
    simpa only [Prod.mk.injEq] using shape
  apply (stream_budgets ⟨1, 2⟩ secondTimesOut).2.2 1 call _ found
  · simp [PermitCall.Dropped, phase]
  · simp [PermitCall.unfinished, PermitCall.sum, PermitCall.slotCost, phase,
      tenant, peer]

end PermitState

end Mesh

end SieveTube
