import Mathlib.Algebra.BigOperators.Fin
import Mathlib.Algebra.Order.Chebyshev
import Mathlib.Tactic.FieldSimp
import Mathlib.Tactic.Linarith

/-!
# How far an observation can be from the average

`average` and the population variance of a list over any ordered field.  The deviations from the
average cancel out, so the others have to make up for one of them and cannot do so without a
dispersion of their own: `sq_deviation_le` bounds the square of one deviation by the variance, for
a list of any length.  Observations that are all the same have none (`variance_replicate`).
-/

namespace Dispersion

variable {K : Type*} [Field K]

/-- The sum over the count. -/
def average (l : List K) : K := l.sum / l.length

/-- The average of the squared deviations from the average. -/
def variance (l : List K) : K := average (l.map fun x => (x - average l) ^ 2)

variable [LinearOrder K] [IsStrictOrderedRing K] {l : List K} {x : K}

lemma length_mul_average (l : List K) : l.length * average l = l.sum := by
  cases l with
  | nil => simp
  | cons y rest =>
      have hlength : ((y :: rest).length : K) ≠ 0 := by
        rw [List.length_cons]
        exact Nat.cast_ne_zero.mpr (Nat.succ_ne_zero _)
      rw [average, mul_div_cancel₀ _ hlength]

/-- One more value moves the average by its share. -/
lemma average_snoc (l : List K) (x : K) : average (l ++ [x]) = average l + (x - average l) / (l.length + 1) := by
  have hpos : (0 : K) < l.length + 1 := Nat.cast_add_one_pos l.length
  have hnew : average (l ++ [x]) * (l.length + 1) = l.sum + x := by
    have h := length_mul_average (l ++ [x])
    rw [List.length_append, List.length_singleton, List.sum_append, List.sum_singleton] at h
    push_cast at h
    rw [mul_comm]
    exact h
  have hmoved : (average l + (x - average l) / (l.length + 1)) * (l.length + 1) = l.sum + x := by
    rw [add_mul, div_mul_cancel₀ _ hpos.ne', ← length_mul_average l]
    ring
  exact mul_right_cancel₀ hpos.ne' (hnew.trans hmoved.symm)

/-- The deviations cancel out. -/
lemma sum_deviations (l : List K) : (l.map fun x => x - average l).sum = 0 := by
  have hshift : ∀ (a : K) (l : List K), (l.map fun x => x - a).sum = l.sum - l.length * a := by
    intro a l
    induction l with
    | nil => simp
    | cons y rest ih =>
        simp only [List.map_cons, List.sum_cons, ih, List.length_cons, Nat.cast_add, Nat.cast_one]
        ring
  rw [hshift, length_mul_average, sub_self]

/-- The square of a sum is at most the sum of the squares, times their number. -/
lemma sq_sum_le (l : List K) : l.sum ^ 2 ≤ l.length * (l.map fun x => x ^ 2).sum := by
  have hsum : ∑ i : Fin l.length, l[i] = l.sum := by
    have hmap := Fin.sum_univ_fun_getElem l fun x => x
    rwa [List.map_id'] at hmap
  have hsquares : ∑ i : Fin l.length, l[i] ^ 2 = (l.map fun x => x ^ 2).sum :=
    Fin.sum_univ_fun_getElem l fun x => x ^ 2
  have hle : (∑ i : Fin l.length, l[i]) ^ 2 ≤ (Finset.univ : Finset (Fin l.length)).card
      * ∑ i : Fin l.length, l[i] ^ 2 := sq_sum_le_card_mul_sum_sq
  rwa [hsum, hsquares, Finset.card_univ, Fintype.card_fin] at hle

/-- **One observation of many.**  Its squared deviation is at most the variance, times the number of
the others. -/
theorem sq_deviation_le (hx : x ∈ l) : (x - average l) ^ 2 ≤ (l.length - 1) * variance l := by
  obtain ⟨before, after, hsplit⟩ := List.append_of_mem hx
  have hperm : l.Perm (x :: (before ++ after)) := hsplit ▸ List.perm_middle
  -- the others' deviations from the average of all
  set others := (before ++ after).map fun y => y - average l with hothers
  have hlength : (l.length : K) = others.length + 1 := by
    rw [hperm.length_eq, List.length_cons, hothers, List.length_map, Nat.cast_add, Nat.cast_one]
  have hcancel : (x - average l) + others.sum = 0 := by
    have hzero := sum_deviations l
    rw [(hperm.map fun y => y - average l).sum_eq, List.map_cons, List.sum_cons] at hzero
    exact hzero
  have hvariance : (others.length + 1) * variance l
      = (x - average l) ^ 2 + (others.map fun d => d ^ 2).sum := by
    have hall := length_mul_average (l.map fun y => (y - average l) ^ 2)
    rw [List.length_map, hlength, (hperm.map fun y => (y - average l) ^ 2).sum_eq, List.map_cons,
      List.sum_cons] at hall
    rw [variance, hall, hothers, List.map_map]
    rfl
  have hothersLe : others.sum ^ 2 ≤ others.length * (others.map fun d => d ^ 2).sum :=
    sq_sum_le others
  have hopposite : others.sum ^ 2 = (x - average l) ^ 2 := by
    rw [eq_neg_of_add_eq_zero_right hcancel, neg_sq]
  have hcount : (0 : K) ≤ others.length := Nat.cast_nonneg _
  -- `(n + 1) d² ≤ n (d² + rest) = n (n + 1) variance`
  have hscaled : (others.length + 1) * (x - average l) ^ 2
      ≤ (others.length + 1) * (others.length * variance l) := by
    have hexpand : (others.length + 1 : K) * (others.length * variance l)
        = others.length * ((x - average l) ^ 2 + (others.map fun d => d ^ 2).sum) := by
      rw [← hvariance]
      ring
    rw [hexpand, ← hopposite]
    linarith
  rw [hlength, add_sub_cancel_right]
  exact le_of_mul_le_mul_left hscaled (by linarith)

lemma average_replicate {n : ℕ} (hn : 0 < n) (a : K) : average (List.replicate n a) = a := by
  have hcast : (n : K) ≠ 0 := Nat.cast_ne_zero.mpr hn.ne'
  rw [average, List.sum_replicate, List.length_replicate, nsmul_eq_mul, mul_div_cancel_left₀ _ hcast]

lemma variance_replicate {n : ℕ} (a : K) : variance (List.replicate n a) = 0 := by
  cases n with
  | zero => simp [variance, average]
  | succ n =>
      rw [variance, average_replicate n.succ_pos, List.map_replicate, sub_self,
        average_replicate n.succ_pos, zero_pow two_ne_zero]

end Dispersion
