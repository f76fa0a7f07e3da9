import Mathlib.Algebra.Order.Field.Basic
import Mathlib.Tactic.FieldSimp
import Mathlib.Tactic.Linarith
import Mathlib.Tactic.Ring

/-!
# Trading at average cost

A holding carried at its average entry price, and a trade of size `a > 0`.  The holding `x` is counted
in the direction of the trade, so a negative one is what the trade closes.  `closes` is how much of it
is closed, `entryAfter` the entry price of what is held then.

Both are additive in the size: two trades at one price do what one of the whole size does
(`closes_add`, `entryAfter_add`, `profit_add`).  The entry price never leaves the range of the prices
paid (`entryAfter_between`).
-/

namespace AverageCost

variable {K : Type} [Field K] [LinearOrder K] [IsStrictOrderedRing K] {x a b entry price : K}

/-- How much of the holding a trade of this size closes. -/
def closes (x a : K) : K := min a (max (-x) 0)

/-- The entry price after a trade at this price. -/
def entryAfter (x entry a price : K) : K :=
  if 0 ≤ x then (x * entry + a * price) / (x + a) else if x + a < 0 then entry else price

lemma closes_of_nonneg (hx : 0 ≤ x) (ha : 0 ≤ a) : closes x a = 0 := by
  rw [closes, max_eq_right (neg_nonpos.mpr hx), min_eq_right ha]

/-- The trade fits into the holding. -/
lemma closes_of_inside (hx : x ≤ 0) (ha : x + a ≤ 0) : closes x a = a := by
  rw [closes, max_eq_left (neg_nonneg.mpr hx), min_eq_left (by linarith)]

/-- The trade closes the holding. -/
lemma closes_of_outside (hx : x ≤ 0) (ha : 0 ≤ x + a) : closes x a = -x := by
  rw [closes, max_eq_left (neg_nonneg.mpr hx), min_eq_right (by linarith)]

omit [IsStrictOrderedRing K] in
lemma entryAfter_of_nonneg (hx : 0 ≤ x) :
    entryAfter x entry a price = (x * entry + a * price) / (x + a) := if_pos hx

omit [IsStrictOrderedRing K] in
lemma entryAfter_of_inside (hx : x < 0) (ha : x + a < 0) : entryAfter x entry a price = entry := by
  rw [entryAfter, if_neg (not_le.mpr hx), if_pos ha]

omit [IsStrictOrderedRing K] in
lemma entryAfter_of_outside (hx : x < 0) (ha : 0 ≤ x + a) : entryAfter x entry a price = price := by
  rw [entryAfter, if_neg (not_le.mpr hx), if_neg (not_lt.mpr ha)]

omit [IsStrictOrderedRing K] in
/-- A holding that is opened is carried at the price paid. -/
lemma entryAfter_zero (ha : a ≠ 0) : entryAfter 0 entry a price = price := by
  rw [entryAfter_of_nonneg le_rfl, zero_mul, zero_add, zero_add, mul_div_cancel_left₀ _ ha]

/-! ## Two trades at one price -/

lemma closes_add (ha : 0 < a) (hb : 0 < b) : closes x (a + b) = closes x a + closes (x + a) b := by
  rcases le_total 0 x with hx | hx
  · rw [closes_of_nonneg hx (by linarith), closes_of_nonneg hx ha.le,
      closes_of_nonneg (by linarith) hb.le, add_zero]
  rcases le_total (x + a) 0 with hxa | hxa
  · rw [closes_of_inside hx hxa]
    rcases le_total (x + a + b) 0 with hxab | hxab
    · rw [closes_of_inside hx (by linarith), closes_of_inside hxa hxab]
    · rw [closes_of_outside hx (by linarith), closes_of_outside hxa hxab]
      ring
  · rw [closes_of_outside hx (by linarith), closes_of_outside hx hxa, closes_of_nonneg hxa hb.le,
      add_zero]

lemma entryAfter_add (ha : 0 < a) (hb : 0 < b) :
    entryAfter x entry (a + b) price = entryAfter (x + a) (entryAfter x entry a price) b price := by
  rcases le_or_gt 0 x with hx | hx
  · have hxa : x + a ≠ 0 := (add_pos_of_nonneg_of_pos hx ha).ne'
    have hcost : (x + a) * ((x * entry + a * price) / (x + a)) = x * entry + a * price :=
      mul_div_cancel₀ _ hxa
    rw [entryAfter_of_nonneg hx, entryAfter_of_nonneg hx, entryAfter_of_nonneg (by linarith), hcost,
      add_assoc x]
    congr 1
    ring
  rcases lt_trichotomy (x + a) 0 with hxa | hxa | hxa
  · rw [entryAfter_of_inside hx hxa]
    rcases lt_or_ge (x + a + b) 0 with hxab | hxab
    · rw [entryAfter_of_inside hx (by linarith), entryAfter_of_inside hxa hxab]
    · rw [entryAfter_of_outside hx (by linarith), entryAfter_of_outside hxa hxab]
  · rw [entryAfter_of_outside hx (by linarith), hxa, entryAfter_zero hb.ne']
  · have hxab : x + a + b ≠ 0 := (add_pos hxa hb).ne'
    rw [entryAfter_of_outside hx (by linarith), entryAfter_of_outside hx hxa.le,
      entryAfter_of_nonneg hxa.le, ← add_mul, mul_div_cancel_left₀ _ hxab]

/-- **The profit of two trades at one price** is that of one of the whole size. -/
theorem profit_add (ha : 0 < a) (hb : 0 < b) :
    (entry - price) * closes x (a + b)
      = (entry - price) * closes x a
        + (entryAfter x entry a price - price) * closes (x + a) b := by
  rw [closes_add ha hb, mul_add]
  congr 1
  rcases le_or_gt 0 x with hx | hx
  · rw [closes_of_nonneg (by linarith) hb.le, mul_zero, mul_zero]
  rcases lt_or_ge (x + a) 0 with hxa | hxa
  · rw [entryAfter_of_inside hx hxa]
  · rw [closes_of_nonneg hxa hb.le, mul_zero, mul_zero]

/-! ## The range of the entry price -/

/-- Bounds of the entry price and of the price paid bound the new entry price; where nothing was
held, the price paid is enough. -/
lemma entryAfter_between {low high : K} (ha : 0 < a) (hprice : low ≤ price ∧ price ≤ high)
    (hentry : x ≠ 0 → low ≤ entry ∧ entry ≤ high) :
    low ≤ entryAfter x entry a price ∧ entryAfter x entry a price ≤ high := by
  rcases lt_trichotomy x 0 with hx | rfl | hx
  · rcases lt_or_ge (x + a) 0 with hxa | hxa
    · rw [entryAfter_of_inside hx hxa]
      exact hentry hx.ne
    · rw [entryAfter_of_outside hx hxa]
      exact hprice
  · rw [entryAfter_zero ha.ne']
    exact hprice
  · obtain ⟨hlow, hhigh⟩ := hentry hx.ne'
    have hpos : 0 < x + a := add_pos hx ha
    rw [entryAfter_of_nonneg hx.le, le_div_iff₀ hpos, div_le_iff₀ hpos, mul_add, mul_add]
    constructor
    · linarith [mul_le_mul_of_nonneg_left hlow hx.le, mul_le_mul_of_nonneg_left hprice.1 ha.le,
        mul_comm low x, mul_comm low a]
    · linarith [mul_le_mul_of_nonneg_left hhigh hx.le, mul_le_mul_of_nonneg_left hprice.2 ha.le,
        mul_comm high x, mul_comm high a]

end AverageCost
