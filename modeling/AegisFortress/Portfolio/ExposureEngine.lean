import AegisFortress.Portfolio.LedgerSteps
import Mathlib.Algebra.Order.BigOperators.Group.List

/-!
# Exposure

`portfolio/exposure_engine.py`: one pass over the positions accumulates long, short and net
exposure; gross exposure is long plus short, and a symbol's weight is its share of it.

In exact arithmetic the accumulators are sums over the positions (`calculate_net`,
`calculate_gross`), so that a change to one position changes them by that position's term
(`sum_book`).
-/

namespace Aegis

/-- `portfolio.exposure_engine.ExposureSnapshot`. -/
structure ExposureSnapshot (α : Type) where
  grossExposure : α
  netExposure : α
  longExposure : α
  shortExposure : α
  symbolExposure : Dict String α
  symbolWeights : Dict String α

namespace ExposureEngine

section Definitions

variable {α : Type} [Add α] [Sub α] [Mul α] [Div α] [Neg α] [Zero α] [LT α] [LE α]
  [DecidableLT α] [DecidableLE α]

/-- `mark_prices.get(symbol, position.average_entry)`. -/
def markOf (markPrices : Dict String α) (symbol : String) (position : Position α) : α :=
  markPrices.getD symbol position.averageEntry

/-- The signed notional of a position at its mark. -/
def markedNotional (markPrices : Dict String α) (symbol : String) (position : Position α) : α :=
  position.signedNotional (markOf markPrices symbol position)

/-- The three accumulators of the loop. -/
structure Totals (α : Type) where
  long : α
  short : α
  net : α

/-- One turn of the loop. -/
def Totals.add (totals : Totals α) (signedNotional : α) : Totals α :=
  if 0 ≤ signedNotional then
    ⟨totals.long + signedNotional, totals.short, totals.net + signedNotional⟩
  else
    ⟨totals.long, totals.short + pyAbs signedNotional, totals.net + signedNotional⟩

/-- The loop over the positions. -/
def totals (positions : Dict String (Position α)) (markPrices : Dict String α) : Totals α :=
  positions.entries.foldl (fun t e => t.add (markedNotional markPrices e.1 e.2)) ⟨0, 0, 0⟩

/-- `ExposureEngine.calculate`. -/
def calculate (positions : Dict String (Position α)) (markPrices : Dict String α) :
    ExposureSnapshot α :=
  let sums := totals positions markPrices
  let symbolExposure := positions.mapVal fun symbol p => pyAbs (markedNotional markPrices symbol p)
  let grossExposure := sums.long + sums.short
  let symbolWeights :=
    if 0 < grossExposure then symbolExposure.mapVal fun _ exposure => exposure / grossExposure
    else symbolExposure.mapVal fun _ _ => 0
  { grossExposure := grossExposure, netExposure := sums.net
    longExposure := sums.long, shortExposure := sums.short
    symbolExposure := symbolExposure, symbolWeights := symbolWeights }

end Definitions

/-! ## The accumulators are sums -/

section Sums

variable (positions : Dict String (Position ℚ)) (markPrices : Dict String ℚ)

lemma add_net (t : Totals ℚ) (x : ℚ) : (t.add x).net = t.net + x := by
  rw [Totals.add]
  split_ifs <;> rfl

lemma add_gross (t : Totals ℚ) (x : ℚ) : (t.add x).long + (t.add x).short
    = t.long + t.short + |x| := by
  rw [Totals.add]
  split_ifs with h
  · rw [abs_of_nonneg h]; ring
  · rw [pyAbs_rat]; ring

lemma foldl_totals (l : List (String × Position ℚ)) : ∀ t : Totals ℚ,
    (l.foldl (fun t e => t.add (markedNotional markPrices e.1 e.2)) t).net
        = t.net + (l.map fun e => markedNotional markPrices e.1 e.2).sum
      ∧ (l.foldl (fun t e => t.add (markedNotional markPrices e.1 e.2)) t).long
          + (l.foldl (fun t e => t.add (markedNotional markPrices e.1 e.2)) t).short
        = t.long + t.short + (l.map fun e => |markedNotional markPrices e.1 e.2|).sum := by
  induction l with
  | nil => intro t; simp
  | cons e rest ih =>
      intro t
      obtain ⟨hnet, hgross⟩ := ih (t.add (markedNotional markPrices e.1 e.2))
      simp only [List.foldl_cons, List.map_cons, List.sum_cons]
      rw [hnet, hgross, add_net, add_gross]
      constructor <;> ring

theorem calculate_net : (calculate positions markPrices).netExposure
    = positions.sum (markedNotional markPrices) := by
  have h := (foldl_totals markPrices positions.entries ⟨0, 0, 0⟩).1
  rw [zero_add] at h
  exact h

theorem calculate_gross : (calculate positions markPrices).grossExposure
    = positions.sum fun symbol p => |markedNotional markPrices symbol p| := by
  have h := (foldl_totals markPrices positions.entries ⟨0, 0, 0⟩).2
  rw [add_zero, zero_add] at h
  exact h

lemma gross_nonneg : 0 ≤ (calculate positions markPrices).grossExposure := by
  rw [calculate_gross, Dict.sum]
  refine List.sum_nonneg fun x hx => ?_
  obtain ⟨e, -, rfl⟩ := List.mem_map.mp hx
  exact abs_nonneg _

/-- The weight an exposure has in a gross exposure. -/
def weight (exposure gross : ℚ) : ℚ := if 0 < gross then exposure / gross else 0

/-- Comparing a weight with a limit is comparing the exposure with that share of the gross. -/
lemma weight_le_iff {exposure gross limit : ℚ} (hlimit : 0 ≤ limit) (hle : exposure ≤ gross)
    (hgross : 0 ≤ gross) : weight exposure gross ≤ limit ↔ exposure ≤ limit * gross := by
  rw [weight]
  split_ifs with h
  · exact div_le_iff₀ h
  · have hzero : gross = 0 := le_antisymm (not_lt.mp h) hgross
    rw [hzero] at hle ⊢
    rw [mul_zero]
    exact ⟨fun _ => hle, fun _ => hlimit⟩

theorem calculate_weight (symbol : String) :
    (calculate positions markPrices).symbolWeights.get? symbol
      = (positions.get? symbol).map fun p =>
          weight |markedNotional markPrices symbol p|
            (calculate positions markPrices).grossExposure := by
  by_cases h : 0 < (totals positions markPrices).long + (totals positions markPrices).short <;>
    simp only [calculate, weight, h, if_true, if_false, Dict.get?_mapVal, Option.map_map,
      Function.comp_def, pyAbs_rat]

lemma weight_zero (gross : ℚ) : weight 0 gross = 0 := by
  rw [weight]
  split_ifs
  · exact zero_div gross
  · rfl

/-- The weight reported for a symbol, zero when it is not held. -/
lemma calculate_weight_getD (symbol : String) :
    (calculate positions markPrices).symbolWeights.getD symbol 0
      = weight (positions.share (fun s p => |markedNotional markPrices s p|) symbol)
          (calculate positions markPrices).grossExposure := by
  rw [Dict.getD, calculate_weight, Dict.share]
  cases positions.get? symbol with
  | none => exact (weight_zero _).symm
  | some p => rfl

/-- No single position outweighs the gross exposure. -/
lemma notional_le_gross {symbol : String} {p : Position ℚ} (hp : positions.get? symbol = some p) :
    |markedNotional markPrices symbol p| ≤ (calculate positions markPrices).grossExposure := by
  rw [calculate_gross, Dict.sum]
  refine List.single_le_sum ?_ _ (List.mem_map.mpr ⟨(symbol, p), Dict.get?_eq_some.mp hp, rfl⟩)
  intro x hx
  obtain ⟨e, -, rfl⟩ := List.mem_map.mp hx
  exact abs_nonneg _

end Sums

/-! ## Exposure after a fill -/

section AfterFill

variable {ledger : PositionLedger ℚ}

open PositionLedger

/-- What a symbol contributes to a total that only looks at its quantity. -/
lemma share_of_quantity {f : String → Position ℚ → ℚ} {symbol : String} {g : ℚ → ℚ}
    (hf : ∀ p : Position ℚ, f symbol p = g p.quantity) (hg : g 0 = 0) :
    ledger.positions.share f symbol = g (ledger.quantityOf symbol) := by
  rw [Dict.share, quantityOf, getPosition]
  cases ledger.positions.get? symbol with
  | none => exact hg.symm
  | some p => exact hf p

/-- **One fill changes one term.**  A total that looks only at the quantity of the filled symbol
moves by what that quantity contributes. -/
theorem sum_book (hl : ledger.Live) (fill : Fill ℚ) (side : OrderSide) (hq : 0 < fill.quantity)
    (hleft : Settled (ledger.quantityOf fill.symbol + side.signed fill.quantity))
    {f : String → Position ℚ → ℚ} {g : ℚ → ℚ}
    (hf : ∀ p : Position ℚ, f fill.symbol p = g p.quantity) (hg : g 0 = 0) :
    (ledger.book fill side).1.positions.sum f
      = ledger.positions.sum f - g (ledger.quantityOf fill.symbol)
        + g (ledger.quantityOf fill.symbol + side.signed fill.quantity) := by
  have hnew := hl.sweep_filled side hq
  rw [sweep_of_settled hleft] at hnew
  rw [book_positions, ← hnew, sweep]
  split_ifs
  · rw [Dict.sum_erase, share_of_quantity hf hg, hg, add_zero]
  · rw [Dict.sum_set, share_of_quantity hf hg, hf]

end AfterFill

end ExposureEngine

end Aegis
