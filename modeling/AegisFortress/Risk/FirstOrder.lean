import AegisFortress.Risk.Exits

/-!
# Whether trading can start

The weight of a symbol is its share of the exposure there is, and the first order of an empty
portfolio is all of it.  `first_order_allowed_iff`: an order inside every absolute limit is allowed
from the empty portfolio exactly when the weight limit is one.

The settings derive the default weight limit as a share of something else, of the largest gross
exposure, which for the default configuration is `0.4`.
-/

namespace Aegis

/-- The limits in `RuntimeSettings`. -/
structure RiskSettings (α : Type) where
  maxGrossExposure : α
  maxNetExposure : α
  maxSymbolWeight : α
  maxOrderNotional : α

/-- `RuntimeSettings.from_config`: the limits as no environment variable overrides them. -/
def RiskSettings.fromConfig {α : Type} [Zero α] [One α] [Mul α] [Div α] [LT α] [DecidableLT α]
    [PyFloat α] (referenceEquity maxPortfolioHeat maxPosAllocation : α) : RiskSettings α where
  maxGrossExposure := referenceEquity * maxPortfolioHeat
  maxNetExposure := referenceEquity * maxPortfolioHeat
  maxSymbolWeight :=
    if 0 < maxPortfolioHeat then pyMin 1 (maxPosAllocation / maxPortfolioHeat)
    else PyFloat.ofRat (2 / 5)
  maxOrderNotional := referenceEquity * maxPosAllocation

namespace PreTradeRiskValidator

open PositionLedger ExposureEngine

section First

variable (order : Order ℚ) (referencePrice : ℚ) (markPrices : Dict String ℚ)

/-- From nothing, the order's notional is the gross exposure. -/
lemma projectedGross_first (hq : 0 < order.quantity) (hp : 0 < referencePrice) :
    projectedGross order referencePrice ∅ markPrices = orderNotional order referencePrice := by
  have hnotional : 0 < orderNotional order referencePrice := mul_pos hq hp
  rw [projectedGross_rest, rest_of_empty _ _ rfl, projectedSymbolSigned,
    currentSignedNotional_of_empty _ _ rfl, incomingSignedNotional, zero_add, zero_add]
  cases order.side with
  | buy => simp [OrderSide.signed, abs_of_pos hnotional]
  | sell => simp [OrderSide.signed, abs_of_pos hnotional]

/-- From nothing, the order's notional is the size of the net exposure. -/
lemma projectedNet_first (hq : 0 < order.quantity) (hp : 0 < referencePrice) :
    |projectedNet order referencePrice ∅ markPrices| = orderNotional order referencePrice := by
  have hnotional : 0 < orderNotional order referencePrice := mul_pos hq hp
  rw [projectedNet, incomingSignedNotional]
  change |0 + order.side.signed (orderNotional order referencePrice)| = _
  cases order.side with
  | buy => simp [OrderSide.signed, abs_of_pos hnotional]
  | sell => simp [OrderSide.signed, abs_of_pos hnotional]

end First

/-- The notional of an order is inside every limit that is an amount. -/
structure Affordable (validator : PreTradeRiskValidator ℚ) (order : Order ℚ) (referencePrice : ℚ)
    (minOverride : Option ℚ) : Prop where
  quantity_pos : 0 < order.quantity
  price_pos : 0 < referencePrice
  min_le : validator.effectiveMin minOverride ≤ orderNotional order referencePrice
  le_max : orderNotional order referencePrice ≤ validator.maxOrderNotional
  le_gross : orderNotional order referencePrice ≤ validator.portfolioGuard.maxGrossExposure
  le_net : orderNotional order referencePrice ≤ validator.portfolioGuard.maxNetExposure

/-- **Trading starts under a weight limit of one, and under no other.** -/
theorem first_order_allowed_iff (validator : PreTradeRiskValidator ℚ) (order : Order ℚ)
    (referencePrice : ℚ) (markPrices : Dict String ℚ) (minOverride : Option ℚ)
    (h : validator.Affordable order referencePrice minOverride) :
    (validator.validate order referencePrice ∅ markPrices minOverride).allowed = true
      ↔ validator.portfolioGuard.maxSymbolWeight = 1 := by
  have hgross := projectedGross_first order referencePrice markPrices h.quantity_pos h.price_pos
  have hnet := projectedNet_first order referencePrice markPrices h.quantity_pos h.price_pos
  have hweight := projectedSymbolWeight_first order referencePrice ∅ markPrices rfl
    h.quantity_pos h.price_pos
  have hle : validator.portfolioGuard.maxSymbolWeight ≤ 1 :=
    validator.portfolioGuard.weight_checked.2
  rw [allowed_iff]
  constructor
  · intro hin
    have hge := hin.weight_le
    rw [hweight] at hge
    exact le_antisymm hle hge
  · intro hone
    refine ⟨h.price_pos, h.quantity_pos, h.min_le, h.le_max, ?_, ?_, ?_⟩
    · rw [hgross]
      exact h.le_gross
    · rw [hnet]
      exact h.le_net
    · rw [hweight, hone]

/-- One coin at a hundred. -/
def oneCoin : Order ℚ :=
  { symbol := "BTC/USDT", side := .buy, quantity := 1, orderType := .market }

lemma oneCoin_affordable : wideValidator.Affordable oneCoin 100 none := by
  refine ⟨?_, ?_, ?_, ?_, ?_, ?_⟩ <;> decide +kernel

theorem first_order_allowed_wide :
    (wideValidator.validate oneCoin 100 ∅ ∅ none).allowed = true
      ↔ wideValidator.portfolioGuard.maxSymbolWeight = 1 :=
  first_order_allowed_iff wideValidator oneCoin 100 ∅ none oneCoin_affordable

/-- The validator of the default configuration: ten thousand of equity, a heat of `0.30`, an
allocation of `0.12`. -/
def defaultSettings : RiskSettings ℚ := .fromConfig 10000 (3 / 10) (3 / 25)

def defaultValidator : PreTradeRiskValidator ℚ :=
  (build defaultSettings.maxGrossExposure defaultSettings.maxNetExposure
    defaultSettings.maxSymbolWeight defaultSettings.maxOrderNotional (11 / 2)).toOption.getD default

/-- Under the default limits no first order is allowed. -/
theorem default_first_order_rejected :
    ¬ ∀ (validator : PreTradeRiskValidator ℚ) (order : Order ℚ) (referencePrice : ℚ)
        (markPrices : Dict String ℚ) (minOverride : Option ℚ),
        validator.Affordable order referencePrice minOverride →
        (validator.validate order referencePrice ∅ markPrices minOverride).allowed = true := by
  intro h
  have hin : defaultValidator.Affordable oneCoin 100 none := by
    refine ⟨?_, ?_, ?_, ?_, ?_, ?_⟩ <;> decide +kernel
  have hallowed := h defaultValidator oneCoin 100 ∅ none hin
  have hrejected : (defaultValidator.validate oneCoin 100 ∅ ∅ none).allowed = false := by
    decide +kernel
  rw [hrejected] at hallowed
  cases hallowed

end PreTradeRiskValidator

end Aegis
