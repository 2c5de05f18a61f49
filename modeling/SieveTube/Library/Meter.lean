import Mathlib.Algebra.Order.Field.Basic
import Mathlib.Algebra.BigOperators.Group.List.Basic
import Mathlib.Tactic.Linarith
import Mathlib.Tactic.Ring

/-!
# Metered spending

A meter holds a level that grows with time at a fixed rate up to a fixed
burst and is lowered by what is spent.  Whatever keeps such a level keeps the
bound of a token bucket: in a window of length `T` at most
`burst + rate * T` is spent.
-/

namespace Meter

/-- An amount spent at a moment. -/
structure Spending (K : Type u) where
  moment : K
  amount : K

section Log

variable {K : Type u} [Field K] [LinearOrder K]

/-- A sequence of spendings a meter accounts for, with the level it has left
and the moment it was last read. -/
inductive Metered (rate burst : K) : List (Spending K) → K → K → Prop where
  | start (level moment : K) (nonneg : 0 ≤ level) (capped : level ≤ burst) :
      Metered rate burst [] level moment
  | wait {log : List (Spending K)} {level moment : K} (now next : K)
      (metered : Metered rate burst log level moment)
      (ordered : moment ≤ now) (nonneg : 0 ≤ next) (capped : next ≤ burst)
      (grown : next ≤ level + rate * (now - moment)) :
      Metered rate burst log next now
  | spend {log : List (Spending K)} {level moment : K} (spent : Spending K)
      (next : K) (metered : Metered rate burst log level moment)
      (ordered : moment ≤ spent.moment) (nonneg : 0 ≤ next)
      (capped : next + spent.amount ≤ burst)
      (paid : next + spent.amount ≤ level + rate * (spent.moment - moment)) :
      Metered rate burst (log ++ [spent]) next spent.moment

/-- What was spent from `first` to `last`. -/
def within (first last : K) (log : List (Spending K)) : K :=
  ((log.filter fun spent => first ≤ spent.moment ∧ spent.moment ≤ last).map
    Spending.amount).sum

theorem within_cons (first last : K) (spent : Spending K)
    (log : List (Spending K)) :
    within first last (spent :: log) =
      (if first ≤ spent.moment ∧ spent.moment ≤ last then spent.amount
        else 0) + within first last log := by
  by_cases inside : first ≤ spent.moment ∧ spent.moment ≤ last
  · simp [within, inside]
  · simp [within, inside]

theorem within_concat (first last : K) (log : List (Spending K))
    (spent : Spending K) :
    within first last (log ++ [spent]) = within first last log +
        if first ≤ spent.moment ∧ spent.moment ≤ last then spent.amount
        else 0 := by
  by_cases inside : first ≤ spent.moment ∧ spent.moment ≤ last
  · simp [within, List.filter_append, inside]
  · simp [within, List.filter_append, inside]

variable {rate burst : K} {log : List (Spending K)} {level moment : K}

variable (metered : Metered rate burst log level moment)
include metered

theorem Metered.moment_le {spent : Spending K} (member : spent ∈ log) :
    spent.moment ≤ moment := by
  induction metered with
  | start => cases member
  | wait now next metered ordered nonneg capped grown ih =>
    exact (ih member).trans ordered
  | spend latest next metered ordered nonneg capped paid ih =>
    rcases List.mem_append.mp member with earlier | last
    · exact (ih earlier).trans ordered
    · rw [List.mem_singleton.mp last]

/-- Nothing is spent in a window that begins after the last spending. -/
theorem Metered.within_eq_zero {first : K}
    (later : moment < first) (last : K) : within first last log = 0 := by
  have outside : log.filter
      (fun spent => first ≤ spent.moment ∧ spent.moment ≤ last) = [] := by
    apply List.filter_eq_nil_iff.mpr
    intro spent member
    have before := metered.moment_le member
    simp only [decide_eq_true_eq, not_and]
    intro after
    exact absurd (after.trans before) (not_le.mpr later)
  unfold within
  rw [outside, List.map_nil, List.sum_nil]

/-- Where a window ends after the last spending makes no difference. -/
theorem Metered.within_eq_within {first : K}
    {last other : K} (before : moment ≤ last) (beforeOther : moment ≤ other) :
    within first last log = within first other log := by
  have agree : ∀ spent, spent ∈ log →
      (decide (first ≤ spent.moment ∧ spent.moment ≤ last) =
        decide (first ≤ spent.moment ∧ spent.moment ≤ other)) := by
    intro spent member
    have bound := metered.moment_le member
    simp [bound.trans before, bound.trans beforeOther]
  unfold within
  rw [List.filter_congr agree]

end Log

variable {K : Type u} [Field K] [LinearOrder K] [IsStrictOrderedRing K]
variable {rate burst : K} {log : List (Spending K)} {level moment : K}

/-- What is left and what was spent since `first` never exceed the burst and
the growth since then. -/
theorem Metered.level_add_within_le (growing : 0 ≤ rate)
    (metered : Metered rate burst log level moment) {first : K}
    (reached : first ≤ moment) :
    level + within first moment log ≤ burst + rate * (moment - first) := by
  induction metered with
  | start level moment nonneg capped =>
    have growth := mul_nonneg growing (sub_nonneg.mpr reached)
    simp only [within, List.filter_nil, List.map_nil, List.sum_nil]
    linarith
  | @wait log level moment now next metered ordered nonneg capped grown ih =>
      rcases le_or_gt first moment with before | after
      · have earlier := ih before
        have growth : rate * (now - first) =
            rate * (now - moment) + rate * (moment - first) := by
          ring
        rw [metered.within_eq_within ordered (le_refl _), growth]
        linarith
      · have growth := mul_nonneg growing (sub_nonneg.mpr reached)
        rw [metered.within_eq_zero after]
        linarith
  | @spend log level moment spent next metered ordered nonneg capped paid ih =>
      rw [within_concat, if_pos ⟨reached, le_refl _⟩]
      rcases le_or_gt first moment with before | after
      · have earlier := ih before
        have same : within first spent.moment log = within first moment log :=
          metered.within_eq_within ordered (le_refl _)
        have growth : rate * (spent.moment - first) =
            rate * (spent.moment - moment) + rate * (moment - first) := by
          ring
        linarith
      · have growth := mul_nonneg growing (sub_nonneg.mpr reached)
        rw [metered.within_eq_zero after]
        linarith

/-- The bound of a token bucket. -/
theorem Metered.within_le (growing : 0 ≤ rate) (capacity : 0 ≤ burst)
    (metered : Metered rate burst log level moment) {first last : K}
    (window : first ≤ last) :
    within first last log ≤ burst + rate * (last - first) := by
  have growth := mul_nonneg growing (sub_nonneg.mpr window)
  induction metered with
  | start =>
    simp only [within, List.filter_nil, List.map_nil, List.sum_nil]
    linarith
  | wait now next metered ordered nonneg capped grown ih => exact ih
  | @spend log level moment spent next metered ordered nonneg capped paid ih =>
      rw [within_concat]
      split
      · next inside =>
        have whole := (Metered.spend spent next metered ordered nonneg
          capped paid).level_add_within_le growing inside.1
        rw [within_concat, if_pos ⟨inside.1, le_refl _⟩] at whole
        have same : within first last log = within first spent.moment log :=
          metered.within_eq_within (ordered.trans inside.2) ordered
        have longer : rate * (spent.moment - first) ≤ rate * (last - first) :=
          mul_le_mul_of_nonneg_left (by linarith [inside.2]) growing
        linarith
      · linarith

end Meter
