import Mathlib.Algebra.BigOperators.Ring.List
import Mathlib.Algebra.Order.BigOperators.Group.List
import Mathlib.Algebra.Order.Field.Basic
import Mathlib.Tactic.Linarith

/-!
# Weights from scores

Weights are non-negative and sum to one (`Convex`); what they make of several values lies where all of the
values do (`Convex.le_blend`, `Convex.blend_le`).  Scores become weights by `raised`, which lifts all of
them above zero once one is below, and `shares`, which divides by the total and falls back on the divisor
one when the total is zero.  `convex_shares_raised_iff`: the result is weights exactly if some score is
not zero.
-/

namespace Weighting

variable {K : Type} [Field K] [LinearOrder K]

/-- Non-negative, with sum one. -/
def Convex (weights : List K) : Prop := (∀ w ∈ weights, 0 ≤ w) ∧ weights.sum = 1

/-- The sum of the values, each times its weight. -/
def blend (weighted : List (K × K)) : K := (weighted.map fun p => p.1 * p.2).sum

/-- Each part of the total, which is read as one when it is zero. -/
def shares (scores : List K) : List K := scores.map (· / if scores.sum = 0 then 1 else scores.sum)

/-- If the least score is below zero, all of them are lifted until it is `margin`. -/
def raised (margin least : K) (scores : List K) : List K :=
  if least < 0 then scores.map fun score => score - least + margin else scores

variable [IsStrictOrderedRing K] {weights scores : List K} {weighted : List (K × K)} {margin least : K}

/-! ## Between the values -/

lemma Convex.le_blend (h : Convex (weighted.map Prod.fst)) {low : K} (hlow : ∀ p ∈ weighted, low ≤ p.2) :
    low ≤ blend weighted := by
  have hterm : ∀ p ∈ weighted, p.1 * low ≤ p.1 * p.2 := fun p hp =>
    mul_le_mul_of_nonneg_left (hlow p hp) (h.1 p.1 (List.mem_map_of_mem hp))
  calc low = (weighted.map fun p => p.1).sum * low := by rw [h.2, one_mul]
    _ = (weighted.map fun p => p.1 * low).sum := (List.sum_map_mul_right _ _ _).symm
    _ ≤ blend weighted := List.sum_le_sum hterm

lemma Convex.blend_le (h : Convex (weighted.map Prod.fst)) {high : K} (hhigh : ∀ p ∈ weighted, p.2 ≤ high) :
    blend weighted ≤ high := by
  have hterm : ∀ p ∈ weighted, p.1 * p.2 ≤ p.1 * high := fun p hp =>
    mul_le_mul_of_nonneg_left (hhigh p hp) (h.1 p.1 (List.mem_map_of_mem hp))
  calc blend weighted ≤ (weighted.map fun p => p.1 * high).sum := List.sum_le_sum hterm
    _ = (weighted.map fun p => p.1).sum * high := List.sum_map_mul_right _ _ _
    _ = high := by rw [h.2, one_mul]

/-! ## From scores to weights -/

omit [LinearOrder K] [IsStrictOrderedRing K] in
lemma sum_map_div (scores : List K) (total : K) :
    (scores.map (· / total)).sum = scores.sum / total := by
  simp only [div_eq_mul_inv]
  rw [List.sum_map_mul_right, List.map_id']

/-- Scores that are not negative become weights exactly if one of them is not zero. -/
lemma convex_shares_iff (hscores : ∀ score ∈ scores, 0 ≤ score) :
    Convex (shares scores) ↔ ∃ score ∈ scores, score ≠ 0 := by
  constructor
  · intro h
    by_contra hzero
    push Not at hzero
    have hsum : scores.sum = 0 := List.sum_eq_zero hzero
    have hone := h.2
    rw [shares, sum_map_div, hsum, zero_div] at hone
    exact zero_ne_one hone
  · rintro ⟨score, hmem, hne⟩
    have hsum : scores.sum ≠ 0 := fun hsum =>
      hne (List.all_zero_of_le_zero_le_of_sum_eq_zero hscores hsum hmem)
    have hnonneg : 0 ≤ scores.sum := List.sum_nonneg hscores
    refine ⟨?_, ?_⟩
    · intro w hw
      rw [shares, if_neg hsum] at hw
      obtain ⟨score, hmem, rfl⟩ := List.mem_map.mp hw
      exact div_nonneg (hscores score hmem) hnonneg
    · rw [shares, if_neg hsum, sum_map_div, div_self hsum]

/-- **From scores to weights.**  Lifting gives weights in every case but one: all scores are zero. -/
lemma convex_shares_raised_iff (hmargin : 0 < margin) (hmem : least ∈ scores)
    (hleast : ∀ score ∈ scores, least ≤ score) :
    Convex (shares (raised margin least scores)) ↔ ∃ score ∈ scores, score ≠ 0 := by
  by_cases hneg : least < 0
  · have hraised : ∀ score ∈ raised margin least scores, 0 < score := by
      intro raisedScore hin
      rw [raised, if_pos hneg] at hin
      obtain ⟨score, hscore, rfl⟩ := List.mem_map.mp hin
      have hle := hleast score hscore
      linarith
    have hin : margin ∈ raised margin least scores := by
      rw [raised, if_pos hneg]
      exact List.mem_map.mpr ⟨least, hmem, by rw [sub_self, zero_add]⟩
    rw [convex_shares_iff fun score h => (hraised score h).le]
    exact ⟨fun _ => ⟨least, hmem, hneg.ne⟩, fun _ => ⟨margin, hin, hmargin.ne'⟩⟩
  · rw [raised, if_neg hneg]
    exact convex_shares_iff fun score h => (not_lt.mp hneg).trans (hleast score h)

end Weighting
