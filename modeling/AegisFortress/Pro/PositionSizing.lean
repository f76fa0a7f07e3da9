import AegisFortress.Pro.RiskManager
import Mathlib.Tactic.Linarith

/-!
# The size of a position

`calculate_position_size` adjusts the part of the equity to risk eight times, and only then applies its
three caps, so none of them depends on the adjustments.  `position_size_within_caps`: every size it returns
respects them, and its prices are in order.

A range of a half of the price or more puts the stop at or below zero, where no price triggers it: the code
refuses a stop that is too near, and none that is too far.
-/

namespace Aegis.Pro.RiskManager

variable {cfg : AegisConfig} {risk : RiskManager} {price atr equity openRisk mlProb corrMultiplier : ℚ}
  {sizing : Sizing}

/-- The bounds on a size, in the money that is not at risk. -/
structure WithinCaps (cfg : AegisConfig) (price equity openRisk : ℚ) (sizing : Sizing) : Prop where
  minimum : 10 ≤ sizing.amount * price
  allocation : sizing.amount * price ≤ cfg.maxPosAllocation * (equity - openRisk)
  heat : openRisk + sizing.riskDollars ≤ cfg.maxPortfolioHeat * (equity - openRisk)
  riskDollars : sizing.riskDollars = sizing.amount * (price - sizing.stopPrice)

/-- What has been checked when a size is returned: the notional that was asked for is cut to the cap, and
everything else follows from it. -/
lemma calculatePositionSize_returns
    (h : risk.calculatePositionSize cfg price atr equity openRisk mlProb corrMultiplier = .ok (some sizing)) :
    ∃ wanted,
      let liquidEquity := max 0 (equity - openRisk)
      let positionUsd := min wanted (liquidEquity * cfg.maxPosAllocation)
      let stopDistance := cfg.atrStopMult * atr
      price * (1 / 1000) ≤ stopDistance ∧ price ≠ 0 ∧ 10 ≤ positionUsd
        ∧ openRisk + positionUsd / price * stopDistance ≤ liquidEquity * cfg.maxPortfolioHeat
        ∧ sizing =
          { amount := positionUsd / price, stopPrice := price - stopDistance
            tp1Price := price + cfg.atrTp1Mult * atr, tp2Price := price + cfg.atrTp2Mult * atr
            riskDollars := positionUsd / price * stopDistance } := by
  simp only [calculatePositionSize] at h
  generalize (if 0 < cfg.atrStopMult * atr then
    max 0 (equity - openRisk) * riskPct cfg risk equity mlProb corrMultiplier (atr / price)
      / (cfg.atrStopMult * atr) else 0) = units at h
  by_cases hnear : cfg.atrStopMult * atr < price * (1 / 1000)
  · rw [if_pos hnear] at h
    cases h
  · rw [if_neg hnear] at h
    by_cases hzero : price = 0
    · rw [if_pos hzero] at h
      cases h
    · rw [if_neg hzero] at h
      split_ifs at h with hsmall hheat
      · cases h
      · cases h
      · cases h
        exact ⟨_, not_lt.mp hnear, hzero, not_lt.mp hsmall, not_lt.mp hheat, rfl⟩

/-- A notional of ten leaves no room for an equity that is all at risk. -/
lemma liquid_of_minimum {wanted allocation money : ℚ} (h : 10 ≤ min wanted (max 0 money * allocation)) :
    max 0 money = money := by
  by_contra hne
  have hzero : max 0 money = 0 := max_eq_left (le_of_lt (not_le.mp fun hle => hne (max_eq_right hle)))
  have hcap : 10 ≤ max 0 money * allocation := h.trans (min_le_right _ _)
  rw [hzero, zero_mul] at hcap
  linarith

/-- **Position sizing respects every cap**, whatever the adjustments have made of the risk.  The stop is
below the price and the target above it; the stop is a price exactly if its distance is less than the price. -/
theorem position_size_within_caps (cfg : AegisConfig) (risk : RiskManager)
    (price atr equity openRisk mlProb corrMultiplier : ℚ) (hprice : 0 < price) (hatr : 0 < atr)
    (htp1 : 0 < cfg.atrTp1Mult) (sizing : Sizing)
    (h : risk.calculatePositionSize cfg price atr equity openRisk mlProb corrMultiplier
      = .ok (some sizing)) :
    WithinCaps cfg price equity openRisk sizing ∧ sizing.stopPrice < price ∧ price < sizing.tp1Price
      ∧ (0 < sizing.stopPrice ↔ cfg.atrStopMult * atr < price) := by
  obtain ⟨wanted, hnear, hzero, hsmall, hheat, rfl⟩ := calculatePositionSize_returns h
  have hliquid := liquid_of_minimum hsmall
  rw [hliquid] at hsmall hheat ⊢
  have husd : min wanted ((equity - openRisk) * cfg.maxPosAllocation) / price * price
      = min wanted ((equity - openRisk) * cfg.maxPosAllocation) := div_mul_cancel₀ _ hzero
  have hdistance : 0 < cfg.atrStopMult * atr := (mul_pos hprice (by norm_num)).trans_le hnear
  have htarget : 0 < cfg.atrTp1Mult * atr := mul_pos htp1 hatr
  refine ⟨⟨?_, ?_, ?_, ?_⟩, ?_, ?_, sub_pos⟩
  · rw [husd]
    exact hsmall
  · rw [husd, mul_comm cfg.maxPosAllocation]
    exact min_le_right _ _
  · rw [mul_comm cfg.maxPortfolioHeat]
    exact hheat
  · rw [sub_sub_cancel]
  · exact sub_lt_self price hdistance
  · exact lt_add_of_pos_right price htarget

/-- A range of two per cent of the price: the notional is cut to the cap. -/
theorem position_size_within_caps_calm :
    WithinCaps {} 100 10000 0 ⟨12, 96, 103, 105, 48⟩ ∧ (96 : ℚ) < 100 ∧ (100 : ℚ) < 103
      ∧ ((0 : ℚ) < 96 ↔ (2 : ℚ) * 2 < 100) :=
  position_size_within_caps {} {} 100 2 10000 0 (3 / 5) 1 (by norm_num) (by norm_num) (by norm_num)
    ⟨12, 96, 103, 105, 48⟩ (by norm_num [calculatePositionSize, riskPct, getDynamicRisk])

/-- The range is three fifths of the price: the size is returned with a stop at -20. -/
theorem position_size_far_stop :
    ∃ sizing, calculatePositionSize {} {} 100 60 10000 0 (3 / 5) 1 = .ok (some sizing)
      ∧ sizing.stopPrice = -20 ∧ ¬ 0 < sizing.stopPrice := by
  refine ⟨⟨5 / 12, -20, 190, 250, 50⟩, ?_, rfl, by norm_num⟩
  norm_num [calculatePositionSize, riskPct, getDynamicRisk]

end Aegis.Pro.RiskManager
