import Mathlib.Algebra.Order.BigOperators.Group.List
import Mathlib.Algebra.Order.Group.Basic

/-!
# Withdrawals in flight

An account is read when a withdrawal is decided and charged when the withdrawal is executed.  In
between the withdrawal is a claim on the account.  `Covered` says that the claims on every account
together fit into its balance; claims no larger than a slack are let through on any account, for
books that write off small amounts.

A claim may be added when there is none on its account yet (`Covered.decide`); paying the oldest
one keeps the rest covered (`Covered.settle`), and so does every deposit (`Covered.deposit`).
-/

namespace InFlight

variable {κ K : Type} [DecidableEq κ]

/-! ## Claims on accounts -/

section Claims

variable [AddCommMonoid K]

/-- What is claimed of an account. -/
def due (k : κ) (claims : List (κ × K)) : K := ((claims.filter fun c => c.1 = k).map Prod.snd).sum

@[simp] lemma due_nil (k : κ) : due k ([] : List (κ × K)) = 0 := rfl

lemma due_cons (k : κ) (c : κ × K) (claims : List (κ × K)) :
    due k (c :: claims) = (if c.1 = k then c.2 else 0) + due k claims := by
  by_cases h : c.1 = k <;> simp [due, h]

lemma due_append (k : κ) (xs ys : List (κ × K)) : due k (xs ++ ys) = due k xs + due k ys := by
  simp [due]

/-- Nothing is claimed of an account that no claim names. -/
lemma due_of_absent {k : κ} {claims : List (κ × K)} (h : ∀ c ∈ claims, c.1 ≠ k) :
    due k claims = 0 := by
  have hnone : (claims.filter fun c => c.1 = k) = [] := by
    simpa [List.filter_eq_nil_iff] using h
  rw [due, hnone]
  rfl

end Claims

/-! ## Covered claims -/

/-- Every account covers what is claimed of it, or the slack does. -/
def Covered [AddCommMonoid K] [LinearOrder K] (slack : K) (balance : κ → K)
    (claims : List (κ × K)) : Prop := ∀ k, due k claims ≤ max (balance k) slack

section Ordered

variable [AddCommGroup K] [LinearOrder K] {slack : K} {balance balance' : κ → K}
  {claims : List (κ × K)} {k : κ} {a : K}

lemma covered_nil (h : 0 ≤ slack) : Covered slack balance [] :=
  fun k => h.trans (le_max_right (balance k) slack)

/-- A first claim on an account may take all of it. -/
lemma Covered.decide (h : Covered slack balance claims) (hnone : ∀ c ∈ claims, c.1 ≠ k)
    (ha : a ≤ balance k) : Covered slack balance (claims ++ [(k, a)]) := by
  intro j
  rw [due_append, due_cons, due_nil, add_zero]
  split_ifs with hj
  · have hj : k = j := hj
    subst hj
    rw [due_of_absent hnone, zero_add]
    exact ha.trans (le_max_left (balance k) slack)
  · rw [add_zero]
    exact h j

/-- Balances that grow where they count keep every claim covered. -/
lemma Covered.deposit (h : Covered slack balance claims)
    (hgrow : ∀ j, slack < balance j → balance j ≤ balance' j) : Covered slack balance' claims := by
  intro j
  rcases le_or_gt (balance j) slack with hsmall | hlarge
  · exact ((h j).trans (max_le hsmall le_rfl)).trans (le_max_right (balance' j) slack)
  · exact (h j).trans (max_le_max (hgrow j hlarge) le_rfl)

variable [IsOrderedAddMonoid K]

lemma due_nonneg (h : ∀ c ∈ claims, 0 ≤ c.2) : 0 ≤ due k claims := by
  refine List.sum_nonneg fun amount hamount => ?_
  obtain ⟨c, hc, rfl⟩ := List.mem_map.mp hamount
  exact h c (List.mem_of_mem_filter hc)

/-- The oldest claim is no larger than its account, or than the slack. -/
lemma Covered.head_le (h : Covered slack balance ((k, a) :: claims)) (hpos : ∀ c ∈ claims, 0 ≤ c.2) :
    a ≤ max (balance k) slack := by
  have hk := h k
  rw [due_cons, if_pos rfl] at hk
  exact (le_add_of_nonneg_right (due_nonneg hpos)).trans hk

/-- When the oldest claim has been paid out of its account, the rest is still covered. -/
lemma Covered.settle (h : Covered slack balance ((k, a) :: claims)) (ha : 0 ≤ a)
    (hpaid : slack < balance k → balance k - a ≤ max (balance' k) slack)
    (hothers : ∀ j, j ≠ k → balance' j = balance j) : Covered slack balance' claims := by
  intro j
  have hdue := h j
  rw [due_cons] at hdue
  by_cases hj : j = k
  · subst hj
    rw [if_pos rfl] at hdue
    rcases le_or_gt (balance j) slack with hsmall | hlarge
    · rw [max_eq_right hsmall] at hdue
      exact ((le_add_of_nonneg_left ha).trans hdue).trans (le_max_right (balance' j) slack)
    · rw [max_eq_left hlarge.le] at hdue
      exact (le_sub_iff_add_le'.mpr hdue).trans (hpaid hlarge)
  · rw [if_neg (fun heq : k = j => hj heq.symm), zero_add] at hdue
    rw [hothers j hj]
    exact hdue

end Ordered

end InFlight
