import Mathlib.Data.Option.Basic

/-!
# Computations that can fail

How a computation in `Except` can have succeeded: each rule takes one step
of it apart.
-/

namespace Except

variable {Failure : Type u} {Other : Type u} {α β : Type v}

theorem ok_bind (value : α) (next : α → Except Failure β) :
    (ok value >>= next) = next value := rfl

theorem bind_eq_ok_iff {first : Except Failure α} {next : α → Except Failure β}
    {result : β} :
    (first >>= next) = .ok result ↔ ∃ value,
      first = .ok value ∧ next value = .ok result := by
  cases first <;> simp [bind, Except.bind]

variable {computation : Except Failure α}

theorem map_eq_ok_iff {change : α → β} {result : β} :
    computation.map change = .ok result ↔
      ∃ value, computation = .ok value ∧ change value = result := by
  cases computation <;> simp [Except.map]

theorem mapError_eq_ok_iff {change : Failure → Other} {value : α} :
    computation.mapError change = .ok value ↔ computation = .ok value := by
  cases computation <;> simp [Except.mapError]

theorem elim_error_eq_ok_iff {found : Option α} {failure : Failure}
    {value : α} :
    found.elim (.error failure : Except Failure α) .ok = .ok value ↔
      found = some value := by
  cases found <;> simp

theorem exists_of_mem_mapM {compute : α → Except Failure β} {values : List α}
    {results : List β} (done : values.mapM compute = .ok results) :
    ∀ result ∈ results, ∃ value ∈ values, compute value = .ok result := by
  induction values generalizing results with
  | nil =>
    rw [List.mapM_nil] at done
    cases done
    simp
  | cons value values ih =>
    rw [List.mapM_cons, bind_eq_ok_iff] at done
    obtain ⟨first, computed, done⟩ := done
    rw [bind_eq_ok_iff] at done
    obtain ⟨rest, others, done⟩ := done
    cases done
    rw [List.forall_mem_cons]
    refine ⟨⟨value, List.mem_cons_self, computed⟩, fun result member => ?_⟩
    obtain ⟨source, listed, same⟩ := ih others result member
    exact ⟨source, List.mem_cons_of_mem _ listed, same⟩

/-- What every step of a fold keeps holds at its end. -/
theorem foldlM_invariant {step : β → α → Except Failure β} {values : List α}
    (Holds : β → Prop)
    (kept : ∀ value ∈ values, ∀ state next, Holds state →
      step state value = .ok next → Holds next)
    {start final : β} (initial : Holds start)
    (done : values.foldlM step start = .ok final) : Holds final := by
  induction values generalizing start with
  | nil =>
    cases done
    exact initial
  | cons value values ih =>
    rw [List.foldlM_cons, bind_eq_ok_iff] at done
    obtain ⟨next, stepped, rest⟩ := done
    rw [List.forall_mem_cons] at kept
    exact ih kept.2 (kept.1 start next initial stepped) rest

end Except
