import Mathlib.Algebra.Order.BigOperators.Group.List
import Mathlib.Algebra.Order.Ring.Nat

/-!
# Tasks that run side by side

A pool is a list of tasks, and a step replaces one of them.  What the tasks
hold together is the sum of a weight over the pool; a step changes the sum
as it changes the weight of its own task.
-/

namespace Tasks

variable {Task : Type u} {weight : Task → Nat} {tasks : List Task}

/-- The weight of all tasks of a pool together. -/
def total (weight : Task → Nat) (tasks : List Task) : Nat :=
  (tasks.map weight).sum

@[simp]
theorem total_nil : total weight [] = 0 := rfl

@[simp]
theorem total_cons (task : Task) (tasks : List Task) :
    total weight (task :: tasks) = weight task + total weight tasks := by
  simp [total]

@[simp]
theorem total_concat (tasks : List Task) (task : Task) :
    total weight (tasks ++ [task]) = total weight tasks + weight task := by
  simp [total]

variable {index : Nat} {old new : Task}

/-- The sum changes as the weight of the task that is replaced. -/
theorem total_set (found : tasks[index]? = some old) :
    total weight (tasks.set index new) + weight old =
      total weight tasks + weight new := by
  induction tasks generalizing index with
  | nil => simp at found
  | cons task tasks ih =>
    cases index with
    | zero =>
      cases found
      simp only [List.set_cons_zero, total_cons]
      omega
    | succ index =>
      have rest := ih (by simpa using found)
      simp only [List.set_cons_succ, total_cons]
      omega

theorem total_set_of_eq (found : tasks[index]? = some old)
    (same : weight new = weight old) :
    total weight (tasks.set index new) = total weight tasks := by
  have changed : total weight (tasks.set index new) + weight old =
      total weight tasks + weight new := total_set found
  omega

theorem total_eq_zero_iff :
    total weight tasks = 0 ↔ ∀ task ∈ tasks, weight task = 0 := by
  induction tasks with
  | nil => simp
  | cons task tasks ih => simp [ih]

theorem total_mono {other : Task → Nat}
    (below : ∀ task ∈ tasks, weight task ≤ other task) :
    total weight tasks ≤ total other tasks :=
  List.sum_le_sum below

theorem total_filter {keep : Task → Bool}
    (weightless : ∀ task ∈ tasks, keep task = false → weight task = 0) :
    total weight (tasks.filter keep) = total weight tasks := by
  induction tasks with
  | nil => rfl
  | cons task tasks ih =>
    have rest := ih fun other member =>
      weightless other (List.mem_cons_of_mem _ member)
    cases kept : keep task with
    | false =>
      have none := weightless task List.mem_cons_self kept
      simp [kept, rest, none]
    | true => simp [kept, rest]

/-- A weight that is one for the tasks whose item passes a test counts these
items. -/
theorem total_eq_countP {Item : Type v} {item : Task → Option Item}
    {test : Item → Bool}
    (unit : ∀ task ∈ tasks,
      weight task = if (item task).any test then 1 else 0) :
    total weight tasks = (tasks.filterMap item).countP test := by
  induction tasks with
  | nil => rfl
  | cons task tasks ih =>
    have rest := ih fun other member =>
      unit other (List.mem_cons_of_mem _ member)
    rw [total_cons, rest, unit task List.mem_cons_self]
    cases found : item task with
    | none => simp [List.filterMap_cons_none found]
    | some value =>
      simp [List.filterMap_cons_some found, List.countP_cons, Nat.add_comm]

theorem countP_le_total {test : Task → Bool}
    (heavy : ∀ task ∈ tasks, test task = true → 1 ≤ weight task) :
    tasks.countP test ≤ total weight tasks := by
  induction tasks with
  | nil => exact Nat.le_refl 0
  | cons task tasks ih =>
    have rest := ih fun other member =>
      heavy other (List.mem_cons_of_mem _ member)
    have first := heavy task List.mem_cons_self
    rw [List.countP_cons, total_cons]
    split
    · next passes =>
      have one := first passes
      omega
    · omega

theorem getElem?_set_found (found : tasks[index]? = some old) :
    (tasks.set index new)[index]? = some new :=
  List.getElem?_set_self (List.getElem?_eq_some_iff.mp found).1

/-- A task of the new pool is the one that was put there or one from
before. -/
theorem getElem?_set_cases {other : Nat} {task : Task}
    (there : (tasks.set index new)[other]? = some task) :
    other = index ∧ task = new ∨ other ≠ index ∧ tasks[other]? = some task := by
  rcases eq_or_ne other index with rfl | different
  · have inside := (List.getElem?_eq_some_iff.mp there).1
    rw [List.length_set] at inside
    rw [List.getElem?_set_self inside] at there
    exact .inl ⟨rfl, (Option.some.inj there).symm⟩
  · rw [List.getElem?_set_ne different.symm] at there
    exact .inr ⟨different, there⟩

theorem getElem?_concat_cases {other : Nat} {task : Task}
    (there : (tasks ++ [new])[other]? = some task) :
    other = tasks.length ∧ task = new ∨ tasks[other]? = some task := by
  rw [List.getElem?_append] at there
  split at there
  · exact .inr there
  · next outside =>
    rw [List.getElem?_singleton] at there
    split at there
    · exact .inl ⟨by omega, (Option.some.inj there).symm⟩
    · cases there

section Has

variable {Item : Type v} {item : Task → Option Item} {index : Nat}
variable {old new : Task} {value : Item}

/-- Some task of the pool has an item. -/
def Has (item : Task → Option Item) (tasks : List Task) (value : Item) :
    Prop :=
  ∃ task ∈ tasks, item task = some value

theorem has_concat : Has item (tasks ++ [new]) value ↔
      Has item tasks value ∨ item new = some value := by
  simp only [Has, List.mem_append, List.mem_singleton]
  constructor
  · rintro ⟨task, member | rfl, own⟩
    · exact .inl ⟨task, member, own⟩
    · exact .inr own
  · rintro (⟨task, member, own⟩ | own)
    · exact ⟨task, .inl member, own⟩
    · exact ⟨new, .inr rfl, own⟩

/-- The new task brings its own items only. -/
theorem has_of_has_set (has : Has item (tasks.set index new) value) :
    item new = some value ∨ Has item tasks value := by
  obtain ⟨task, member, own⟩ := has
  rcases List.mem_or_eq_of_mem_set member with before | rfl
  · exact .inr ⟨task, before, own⟩
  · exact .inl own

variable (found : tasks[index]? = some old)
include found

theorem has_set_new (own : item new = some value) :
    Has item (tasks.set index new) value := by
  have inside := (List.getElem?_eq_some_iff.mp found).1
  exact ⟨new, List.mem_set inside new, own⟩

/-- The old task takes its own items only. -/
theorem has_set (kept : item old = some value → item new = some value)
    (has : Has item tasks value) : Has item (tasks.set index new) value := by
  obtain ⟨task, member, own⟩ := has
  obtain ⟨position, there⟩ := List.mem_iff_getElem?.mp member
  rcases eq_or_ne index position with rfl | other
  · cases found.symm.trans there
    exact has_set_new found (kept own)
  · refine ⟨task, List.mem_iff_getElem?.mpr ⟨position, ?_⟩, own⟩
    rw [List.getElem?_set_ne other, there]

theorem has_set_iff (new : Task) (same : item new = item old) :
    Has item (tasks.set index new) value ↔ Has item tasks value := by
  constructor
  · intro has
    rcases has_of_has_set has with own | before
    · exact ⟨old, List.mem_of_getElem? found, same ▸ own⟩
    · exact before
  · exact has_set found fun own => same.trans own

end Has

end Tasks
