import AegisFortress.Risk.PortfolioGuard

/-!
# The pre-trade check

`risk/pre_trade_risk.py`.  Before an order is sent, the validator prices it at the reference
price, replaces the symbol's term in the current exposure by the projected one, and compares the
projection with the limits of the portfolio guard.
-/

namespace Aegis

/-- `risk.pre_trade_risk.RiskDecision`. -/
structure RiskDecision (α : Type) where
  allowed : Bool
  reasons : List String
  projectedGrossExposure : α
  projectedNetExposure : α
  projectedSymbolWeight : α

section Definitions

variable {α : Type} [Add α] [Sub α] [Mul α] [Div α] [Neg α] [Zero α] [One α] [LT α] [LE α]
  [DecidableLT α] [DecidableLE α] [PyFloat α]

/-- `risk.pre_trade_risk.PreTradeRiskValidator`, with the constructor's checks. -/
structure PreTradeRiskValidator (α : Type) [Zero α] [One α] [LT α] [LE α] where
  portfolioGuard : PortfolioGuard α
  maxOrderNotional : α
  minOrderNotional : α
  max_checked : ¬ maxOrderNotional ≤ 0
  min_checked : ¬ minOrderNotional < 0
  range_checked : ¬ maxOrderNotional < minOrderNotional

namespace PreTradeRiskValidator

/-- `PreTradeRiskValidator(exposure_engine, portfolio_guard, max_order_notional, ...)`. -/
def init (portfolioGuard : PortfolioGuard α) (maxOrderNotional minOrderNotional : α) :
    Except PyError (PreTradeRiskValidator α) :=
  if hmax : maxOrderNotional ≤ 0 then .error ⟨.valueError, "max_order_notional must be positive"⟩
  else if hmin : minOrderNotional < 0 then
    .error ⟨.valueError, "min_order_notional cannot be negative"⟩
  else if hrange : maxOrderNotional < minOrderNotional then
    .error ⟨.valueError, "min_order_notional cannot exceed max_order_notional"⟩
  else .ok ⟨portfolioGuard, maxOrderNotional, minOrderNotional, hmax, hmin, hrange⟩

/-- The guard and the validator, as `RuntimeContainer.build` makes them of the settings. -/
def build (maxGrossExposure maxNetExposure maxSymbolWeight maxOrderNotional minOrderNotional : α) :
    Except PyError (PreTradeRiskValidator α) := do
  let portfolioGuard ← PortfolioGuard.init maxGrossExposure maxNetExposure maxSymbolWeight
  init portfolioGuard maxOrderNotional minOrderNotional

/-- `effective_min_order_notional`. -/
def effectiveMin (validator : PreTradeRiskValidator α) (minOverride : Option α) : α :=
  match minOverride with
  | none => validator.minOrderNotional
  | some m => pyMax validator.minOrderNotional m

/-- `order_notional`. -/
def orderNotional (order : Order α) (referencePrice : α) : α := order.quantity * referencePrice

/-- `current_signed_notional`: the open position of the order's symbol at its mark. -/
def currentSignedNotional (positions : Dict String (Position α)) (markPrices : Dict String α)
    (symbol : String) : α :=
  match positions.get? symbol with
  | none => 0
  | some position => ExposureEngine.markedNotional markPrices symbol position

/-- `incoming_signed_notional`. -/
def incomingSignedNotional (order : Order α) (referencePrice : α) : α :=
  order.side.signed (orderNotional order referencePrice)

/-- `projected_symbol_signed`. -/
def projectedSymbolSigned (order : Order α) (referencePrice : α)
    (positions : Dict String (Position α)) (markPrices : Dict String α) : α :=
  currentSignedNotional positions markPrices order.symbol
    + incomingSignedNotional order referencePrice

/-- `projected_net`. -/
def projectedNet (order : Order α) (referencePrice : α)
    (positions : Dict String (Position α)) (markPrices : Dict String α) : α :=
  (ExposureEngine.calculate positions markPrices).netExposure
    + incomingSignedNotional order referencePrice

/-- `projected_gross`. -/
def projectedGross (order : Order α) (referencePrice : α)
    (positions : Dict String (Position α)) (markPrices : Dict String α) : α :=
  (ExposureEngine.calculate positions markPrices).grossExposure
    - pyAbs (currentSignedNotional positions markPrices order.symbol)
    + pyAbs (projectedSymbolSigned order referencePrice positions markPrices)

/-- `projected_symbol_weight`. -/
def projectedSymbolWeight (order : Order α) (referencePrice : α)
    (positions : Dict String (Position α)) (markPrices : Dict String α) : α :=
  let gross := projectedGross order referencePrice positions markPrices
  if 0 < gross then
    pyAbs (projectedSymbolSigned order referencePrice positions markPrices) / gross
  else 0

/-- A reason that is reported when a value exceeds its limit. -/
def exceeds (name : String) (digits : ℕ) (value reported limit : α) : List String :=
  if limit < value then
    [s!"{name} {PyFloat.fixed digits reported} exceeds limit {PyFloat.fixed digits limit}"]
  else []

/-- The list of reasons against an order, in the order of the checks. -/
def reasons (validator : PreTradeRiskValidator α) (order : Order α) (referencePrice : α)
    (positions : Dict String (Position α)) (markPrices : Dict String α)
    (minOverride : Option α) : List String :=
  let notional := orderNotional order referencePrice
  let effective := validator.effectiveMin minOverride
  let net := projectedNet order referencePrice positions markPrices
  let gross := projectedGross order referencePrice positions markPrices
  (if referencePrice ≤ 0 then ["Reference price must be positive"] else [])
    ++ (if order.quantity ≤ 0 then ["Order quantity must be positive"] else [])
    ++ (if 0 < effective ∧ notional < effective then
          [s!"Order notional {PyFloat.fixed 8 notional} is below minimum {PyFloat.fixed 8 effective}"]
        else [])
    ++ exceeds "Order notional" 8 notional notional validator.maxOrderNotional
    ++ exceeds "Projected gross exposure" 8 gross gross validator.portfolioGuard.maxGrossExposure
    ++ exceeds "Projected net exposure" 8 (pyAbs net) net validator.portfolioGuard.maxNetExposure
    ++ exceeds "Projected symbol weight" 4
        (projectedSymbolWeight order referencePrice positions markPrices)
        (projectedSymbolWeight order referencePrice positions markPrices)
        validator.portfolioGuard.maxSymbolWeight

/-- `PreTradeRiskValidator.validate`. -/
def validate (validator : PreTradeRiskValidator α) (order : Order α) (referencePrice : α)
    (positions : Dict String (Position α)) (markPrices : Dict String α)
    (minOverride : Option α) : RiskDecision α :=
  let reasons := validator.reasons order referencePrice positions markPrices minOverride
  { allowed := reasons.isEmpty
    reasons := reasons
    projectedGrossExposure := projectedGross order referencePrice positions markPrices
    projectedNetExposure := projectedNet order referencePrice positions markPrices
    projectedSymbolWeight := projectedSymbolWeight order referencePrice positions markPrices }

end PreTradeRiskValidator

end Definitions

namespace PreTradeRiskValidator

instance : Inhabited (PreTradeRiskValidator ℚ) :=
  ⟨⟨⟨1, 1, 1, by decide +kernel, by decide +kernel, by decide +kernel⟩,
    1, 0, by decide +kernel, by decide +kernel, by decide +kernel⟩⟩

variable (validator : PreTradeRiskValidator ℚ) (order : Order ℚ) (referencePrice : ℚ)
  (positions : Dict String (Position ℚ)) (markPrices : Dict String ℚ) (minOverride : Option ℚ)

lemma exceeds_eq_nil {name : String} {digits : ℕ} {value reported limit : ℚ} :
    exceeds name digits value reported limit = [] ↔ value ≤ limit := by
  rw [exceeds]
  split_ifs with h
  · simpa using h
  · simpa using h

lemma ite_singleton_eq_nil {P : Prop} [Decidable P] {s : String} :
    (if P then [s] else []) = [] ↔ ¬ P := by
  split_ifs with h <;> simp [h]

/-- The minimum of an exchange can only raise the configured one. -/
lemma effectiveMin_ge : validator.minOrderNotional ≤ validator.effectiveMin minOverride := by
  cases minOverride with
  | none => exact le_rfl
  | some m =>
      simp only [effectiveMin, pyMax_rat]
      exact le_max_left _ _

/-- The configured minimum is not negative, so the effective one is not either. -/
lemma effectiveMin_nonneg : 0 ≤ validator.effectiveMin minOverride :=
  (not_lt.mp validator.min_checked).trans (validator.effectiveMin_ge minOverride)

/-- The limits an allowed order is inside of. -/
structure WithinLimits : Prop where
  price_pos : 0 < referencePrice
  quantity_pos : 0 < order.quantity
  min_le : validator.effectiveMin minOverride ≤ orderNotional order referencePrice
  le_max : orderNotional order referencePrice ≤ validator.maxOrderNotional
  gross_le : projectedGross order referencePrice positions markPrices
    ≤ validator.portfolioGuard.maxGrossExposure
  net_le : |projectedNet order referencePrice positions markPrices|
    ≤ validator.portfolioGuard.maxNetExposure
  weight_le : projectedSymbolWeight order referencePrice positions markPrices
    ≤ validator.portfolioGuard.maxSymbolWeight

/-- **What `allowed` means**: every check of the validator, on exactly these values. -/
theorem allowed_iff :
    (validator.validate order referencePrice positions markPrices minOverride).allowed = true
      ↔ validator.WithinLimits order referencePrice positions markPrices minOverride := by
  simp only [validate, List.isEmpty_iff, reasons, List.append_eq_nil_iff, ite_singleton_eq_nil,
    exceeds_eq_nil, pyAbs_rat, not_le, not_and, not_lt]
  constructor
  · rintro ⟨⟨⟨⟨⟨⟨hp, hq⟩, hmin⟩, hmax⟩, hgross⟩, hnet⟩, hweight⟩
    refine ⟨hp, hq, ?_, hmax, hgross, hnet, hweight⟩
    rcases (validator.effectiveMin_nonneg minOverride).lt_or_eq with h | h
    · exact hmin h
    · rw [← h]
      exact (mul_pos hq hp).le
  · rintro ⟨hp, hq, hmin, hmax, hgross, hnet, hweight⟩
    exact ⟨⟨⟨⟨⟨⟨hp, hq⟩, fun _ => hmin⟩, hmax⟩, hgross⟩, hnet⟩, hweight⟩

end PreTradeRiskValidator

end Aegis
