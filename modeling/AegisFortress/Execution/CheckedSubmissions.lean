import AegisFortress.Execution.NotANumber

/-!
# What is sent has passed the checks

`submit` rounds the order as the exchange wants it before the risk check, and sends the order it has
checked.  `inLimits_iff` says what the check comes to with floats that may be NaN: the order
is inside every limit exactly if it is allowed, nothing in the projection is NaN, and no limit is.
`submit_checked_iff` is the pipeline with that check, whatever the router and the exchange answer.
-/

namespace Aegis

open WithNan

namespace PreTradeRiskValidator

variable (validator : PreTradeRiskValidator (WithNan ℚ)) (order : Order (WithNan ℚ))
  (referencePrice : WithNan ℚ) (positions : Dict String (Position (WithNan ℚ)))
  (markPrices : Dict String (WithNan ℚ)) (minOverride : Option (WithNan ℚ))

/-- The limits a checked order is inside of; with a NaN on either side a comparison is false. -/
structure InLimits : Prop where
  price_pos : 0 < referencePrice
  quantity_pos : 0 < order.quantity
  min_le : validator.effectiveMin minOverride ≤ orderNotional order referencePrice
  le_max : orderNotional order referencePrice ≤ validator.maxOrderNotional
  gross_le : projectedGross order referencePrice positions markPrices
    ≤ validator.portfolioGuard.maxGrossExposure
  net_le : pyAbs (projectedNet order referencePrice positions markPrices)
    ≤ validator.portfolioGuard.maxNetExposure
  weight_le : projectedSymbolWeight order referencePrice positions markPrices
    ≤ validator.portfolioGuard.maxSymbolWeight

/-- The configured limits are numbers; the weight always is, since the constructor wants it above
zero. -/
structure LimitsGiven : Prop where
  least : validator.minOrderNotional ≠ nan
  most : validator.maxOrderNotional ≠ nan
  gross : validator.portfolioGuard.maxGrossExposure ≠ nan
  net : validator.portfolioGuard.maxNetExposure ≠ nan

variable {validator order referencePrice positions markPrices minOverride}

/-- A minimum of the exchange that is NaN does not replace the configured one. -/
lemma effectiveMin_eq_nan :
    validator.effectiveMin minOverride = nan ↔ validator.minOrderNotional = nan := by
  cases minOverride with
  | none => exact Iff.rfl
  | some m =>
      rw [effectiveMin, pyMax]
      split_ifs with h
      · have hleast : validator.minOrderNotional ≠ nan := (lt_iff_not_le.mp h).2.1
        exact iff_of_false (ne_nan_of_lt h) hleast
      · exact Iff.rfl

lemma InLimits.limitsGiven
    (h : validator.InLimits order referencePrice positions markPrices minOverride) :
    validator.LimitsGiven := by
  refine ⟨fun hnan => ?_, ?_, ?_, ?_⟩
  · exact (le_iff_not_lt.mp h.min_le).2.1 (effectiveMin_eq_nan.mpr hnan)
  · exact (le_iff_not_lt.mp h.le_max).2.2
  · exact (le_iff_not_lt.mp h.gross_le).2.2
  · exact (le_iff_not_lt.mp h.net_le).2.2

lemma InLimits.not_tainted
    (h : validator.InLimits order referencePrice positions markPrices minOverride) :
    ¬ Tainted order referencePrice positions markPrices := by
  intro htainted
  have hnet := (le_iff_not_lt.mp h.net_le).2.1
  exact hnet (pyAbs_eq_nan.mpr (projectedNet_eq_nan.mpr htainted))

/-- An order inside the limits trips none of the checks. -/
lemma InLimits.passes
    (h : validator.InLimits order referencePrice positions markPrices minOverride) :
    validator.Passes order referencePrice minOverride
      ∧ validator.Bounded order referencePrice positions markPrices := by
  refine ⟨⟨?_, ?_, fun hleast => ?_, ?_⟩, ⟨?_, ?_, ?_⟩⟩
  · exact (lt_iff_not_le.mp h.price_pos).1
  · exact (lt_iff_not_le.mp h.quantity_pos).1
  · exact (le_iff_not_lt.mp h.min_le).1 hleast.2
  · exact (le_iff_not_lt.mp h.le_max).1
  · exact (le_iff_not_lt.mp h.gross_le).1
  · exact (le_iff_not_lt.mp h.net_le).1
  · exact (le_iff_not_lt.mp h.weight_le).1

lemma orderNotional_ne_nan (h : ¬ Tainted order referencePrice positions markPrices) :
    orderNotional order referencePrice ≠ nan := by
  rw [orderNotional, Ne, mul_eq_nan]
  rintro (hquantity | hprice)
  · exact h (Or.inl hquantity)
  · exact h (Or.inr (Or.inl hprice))

/-- What costs something is worth more than nothing. -/
lemma orderNotional_pos (hprice : 0 < referencePrice) (hquantity : 0 < order.quantity) :
    0 < orderNotional order referencePrice := by
  rw [orderNotional]
  cases hp : referencePrice with
  | nan => exact absurd hp (ne_nan_of_lt hprice)
  | num p =>
      cases hq : order.quantity with
      | nan => exact absurd hq (ne_nan_of_lt hquantity)
      | num q =>
          rw [hp] at hprice
          rw [hq] at hquantity
          have hpos : 0 < q * p := mul_pos hquantity hprice
          exact hpos

/-- **What the check comes to.**  To be inside every limit is to be allowed, with numbers only. -/
theorem inLimits_iff :
    validator.InLimits order referencePrice positions markPrices minOverride
      ↔ (validator.Passes order referencePrice minOverride
          ∧ validator.Bounded order referencePrice positions markPrices)
        ∧ ¬ Tainted order referencePrice positions markPrices ∧ validator.LimitsGiven := by
  constructor
  · intro h
    exact ⟨h.passes, h.not_tainted, h.limitsGiven⟩
  rintro ⟨⟨hpasses, hbounded⟩, hclean, hgiven⟩
  have hnumbers := numbers_iff.mpr hclean
  have hprice : 0 < referencePrice :=
    lt_iff_not_le.mpr ⟨hpasses.priced, zero_ne_nan, hnumbers.price⟩
  have hquantity : 0 < order.quantity :=
    lt_iff_not_le.mpr ⟨hpasses.sized, zero_ne_nan, hnumbers.quantity⟩
  have hnotional := orderNotional_ne_nan hclean
  have hleast : validator.effectiveMin minOverride ≠ nan :=
    fun hnan => hgiven.least (effectiveMin_eq_nan.mp hnan)
  have hweight : validator.portfolioGuard.maxSymbolWeight ≠ nan :=
    ne_nan_of_lt validator.portfolioGuard.weight_checked.1
  refine ⟨hprice, hquantity, ?_, ?_, ?_, ?_, ?_⟩
  · -- a minimum that is not above zero is not looked at, and is no limit to a positive notional
    refine le_iff_not_lt.mpr ⟨fun hbelow => ?_, hleast, hnotional⟩
    by_cases hmin : 0 < validator.effectiveMin minOverride
    · exact hpasses.least ⟨hmin, hbelow⟩
    · have hpos : 0 < orderNotional order referencePrice := orderNotional_pos hprice hquantity
      exact hmin (lt_chain hpos hbelow)
  · exact le_iff_not_lt.mpr ⟨hpasses.most, hnotional, hgiven.most⟩
  · exact le_iff_not_lt.mpr ⟨hbounded.gross, hnumbers.gross, hgiven.gross⟩
  · refine le_iff_not_lt.mpr ⟨hbounded.net, ?_, hgiven.net⟩
    exact fun hnan => hnumbers.net (pyAbs_eq_nan.mp hnan)
  · exact le_iff_not_lt.mpr ⟨hbounded.weight, hnumbers.weight, hweight⟩

end PreTradeRiskValidator

namespace ExecutionPipeline

open PreTradeRiskValidator

/-- `create_order` is called at most once, with an order that is inside every limit at the router's
price and with the positions held at that moment. -/
def Checked (pipeline : ExecutionPipeline (WithNan ℚ)) (answers : Answers (WithNan ℚ))
    (markPrices : Dict String (WithNan ℚ)) (order : Order (WithNan ℚ))
    (books : Books (WithNan ℚ)) : Prop :=
  let sent := calls (pipeline.submit answers markPrices order books).2.trace
  sent.length ≤ 1
    ∧ ∀ call ∈ sent, ∀ exchange price, selectExchange answers.route = .ok (exchange, price) →
      call.2 = books.ledger.positions
        ∧ pipeline.preTradeRisk.InLimits { order with quantity := call.1.quantity } price call.2
          markPrices (exchange.minNotional order.symbol)

/-- **When nothing is sent unchecked.**  Every order that reaches the exchange is inside every limit
exactly when no order that trips none of the checks has a NaN among the numbers the checks compare:
its quantity, its price, the quantity and the mark of a position, a configured limit. -/
theorem submit_checked_iff (pipeline : ExecutionPipeline (WithNan ℚ))
    (answers : Answers (WithNan ℚ)) (markPrices : Dict String (WithNan ℚ))
    (order : Order (WithNan ℚ)) (books : Books (WithNan ℚ)) :
    pipeline.Checked answers markPrices order books
      ↔ ∀ exchange price quantity limit, Prepared answers order exchange price quantity limit →
        pipeline.preTradeRisk.Passes { order with quantity := quantity } price
          (exchange.minNotional order.symbol) →
        pipeline.preTradeRisk.Bounded { order with quantity := quantity } price
          books.ledger.positions markPrices →
        ¬ Tainted { order with quantity := quantity } price books.ledger.positions markPrices
          ∧ pipeline.preTradeRisk.LimitsGiven := by
  rw [Checked]
  rcases pipeline.calls_submit answers markPrices order books with
    ⟨hno, hcalls⟩ | ⟨exchange, price, quantity, limit, hc, hcalls⟩
  · rw [hcalls]
    constructor
    · intro _ exchange price quantity limit hprepared hpasses hbounded
      have hallowed : (pipeline.decision markPrices order books exchange price quantity
          limit).allowed = true :=
        (allowed_iff_quiet ..).mpr
          ⟨⟨hpasses.priced, hpasses.sized, hpasses.least, hpasses.most⟩,
            ⟨hbounded.gross, hbounded.net, hbounded.weight⟩⟩
      exact absurd ⟨hprepared, hallowed⟩ (hno exchange price quantity limit)
    · intro _
      refine ⟨Nat.zero_le 1, fun call hcall => ?_⟩
      cases hcall
  · obtain ⟨hpassed, hbounded⟩ := (allowed_iff_quiet ..).mp hc.allowed
    have hlimits : pipeline.preTradeRisk.InLimits { order with quantity := quantity } price
          books.ledger.positions markPrices (exchange.minNotional order.symbol)
        ↔ ¬ Tainted { order with quantity := quantity } price books.ledger.positions markPrices
          ∧ pipeline.preTradeRisk.LimitsGiven := by
      rw [inLimits_iff, and_iff_right_iff_imp]
      exact fun _ => ⟨⟨hpassed.priced, hpassed.sized, hpassed.least, hpassed.most⟩,
        ⟨hbounded.gross, hbounded.net, hbounded.weight⟩⟩
    rw [hcalls]
    constructor
    · rintro ⟨-, hchecked⟩ exchange' price' quantity' limit' hprepared _ _
      obtain ⟨rfl, rfl, rfl, -⟩ := hprepared.unique answers order hc.toPrepared
      exact hlimits.mp (hchecked _ List.mem_cons_self _ _ hprepared.routed).2
    · intro hnumbers
      refine ⟨Nat.le_refl 1, fun call hcall exchange' price' hroute => ?_⟩
      have hr := hc.routed.symm.trans hroute
      rw [Except.ok.injEq, Prod.mk.injEq] at hr
      obtain ⟨rfl, rfl⟩ := hr
      rw [List.mem_singleton.mp hcall]
      refine ⟨rfl, hlimits.mpr (hnumbers exchange price quantity limit hc.toPrepared ?_ ?_)⟩
      · exact ⟨hpassed.priced, hpassed.sized, hpassed.least, hpassed.most⟩
      · exact ⟨hbounded.gross, hbounded.net, hbounded.weight⟩

/-- An exchange whose `amount_to_precision` gives NaN, at an ask of 100. -/
def roundingExchange : Exchange (WithNan ℚ) :=
  { id := "SIM", amountToPrecision := some fun _ _ => .ok (.float .nan), priceToPrecision := none
    minOrderNotional := none, createOrder := .ok .none }

def roundingAnswers : Answers (WithNan ℚ) :=
  { recordTrade := none, save := .ok (), recordExecutionReport := none, publish := none
    route := .ok (some (some roundingExchange, some (.num 100))) }

/-- One coin is ordered, and a quantity that is not above zero is sent. -/
theorem nan_quantity_sent :
    (calls (nanPipeline.submit roundingAnswers ∅
        { symbol := "BTC/USDT", side := .buy, quantity := .num 1, orderType := .market }
        ⟨.empty, .none⟩).2.trace).map (fun call => call.1.quantity) = [.nan]
      ∧ ¬ ∀ (pipeline : ExecutionPipeline (WithNan ℚ)) (answers : Answers (WithNan ℚ))
          (markPrices : Dict String (WithNan ℚ)) (order : Order (WithNan ℚ))
          (books : Books (WithNan ℚ)), pipeline.Checked answers markPrices order books := by
  have hsent : (calls (nanPipeline.submit roundingAnswers ∅
        { symbol := "BTC/USDT", side := .buy, quantity := .num 1, orderType := .market }
        ⟨.empty, .none⟩).2.trace).map (fun call => call.1.quantity) = [.nan] := by
    decide +kernel
  refine ⟨hsent, fun h => ?_⟩
  obtain ⟨-, hchecked⟩ := h nanPipeline roundingAnswers ∅ _ ⟨.empty, .none⟩
  obtain ⟨call, hcall, hquantity⟩ := List.mem_map.mp (hsent ▸ List.mem_singleton_self WithNan.nan)
  have hlimits := (hchecked call hcall roundingExchange (.num 100) rfl).2
  exact ne_nan_of_lt hlimits.quantity_pos hquantity

end ExecutionPipeline

end Aegis
