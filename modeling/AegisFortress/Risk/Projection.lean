import AegisFortress.Risk.PreTradeRisk

/-!
# What the pre-trade projection is worth

The validator computes its projection from the current exposure by replacing one term; the ledger
and the exposure engine compute the same figures from scratch after the fill.
`projection_eq_exposure` says the two agree when the order's symbol is marked at the reference
price and the fill leaves no dust.
-/

namespace Aegis

/-- The fill of a whole order at a price. -/
def Order.fullFill (order : Order ℚ) (price : ℚ) (exchange : String) (fee : ℚ) : Fill ℚ :=
  ⟨order.symbol, order.side.value, order.quantity, price, exchange, fee, order.strategyId, none⟩

namespace PreTradeRiskValidator

open PositionLedger ExposureEngine

variable {ledger : PositionLedger ℚ} {order : Order ℚ} {referencePrice : ℚ}
  {markPrices : Dict String ℚ}

/-! ## The order's symbol, marked at the reference price -/

/-- The open position of a symbol, if there is one, is valued at this price. -/
def MarkedAt (ledger : PositionLedger ℚ) (markPrices : Dict String ℚ) (symbol : String)
    (price : ℚ) : Prop :=
  ∀ p, ledger.getPosition symbol = some p → markOf markPrices symbol p = price

lemma markOf_of_get? {symbol : String} {price : ℚ} (h : markPrices.get? symbol = some price)
    (p : Position ℚ) : markOf markPrices symbol p = price := by
  rw [markOf, Dict.getD, h]
  rfl

lemma markOf_set_self (symbol : String) (price : ℚ) (p : Position ℚ) :
    markOf (markPrices.set symbol price) symbol p = price :=
  markOf_of_get? (Dict.get?_set_self _ _ _) p

lemma markOf_set_of_ne {symbol other : String} (h : symbol ≠ other) (price : ℚ) (p : Position ℚ) :
    markOf (markPrices.set symbol price) other p = markOf markPrices other p := by
  rw [markOf, Dict.getD, Dict.get?_set_of_ne _ h, markOf, Dict.getD]

lemma currentSignedNotional_eq {symbol : String} {price : ℚ}
    (h : MarkedAt ledger markPrices symbol price) :
    currentSignedNotional ledger.positions markPrices symbol = ledger.quantityOf symbol * price := by
  rw [currentSignedNotional, quantityOf, getPosition]
  cases hp : ledger.positions.get? symbol with
  | none => exact (zero_mul price).symm
  | some p =>
      change p.quantity * markOf markPrices symbol p = p.quantity * price
      rw [h p hp]

/-- Writing the mark a position already has changes no notional. -/
lemma markedNotional_set {symbol : String} {price : ℚ}
    (h : MarkedAt ledger markPrices symbol price) {e : String × Position ℚ}
    (he : e ∈ ledger.positions.entries) :
    markedNotional (markPrices.set symbol price) e.1 e.2 = markedNotional markPrices e.1 e.2 := by
  simp only [markedNotional]
  by_cases hs : symbol = e.1
  · have hp : ledger.getPosition symbol = some e.2 := by
      rw [getPosition, hs]
      exact Dict.get?_eq_some.mpr he
    rw [← hs, markOf_set_self, h e.2 hp]
  · rw [markOf_set_of_ne hs]

lemma net_set {symbol : String} {price : ℚ} (h : MarkedAt ledger markPrices symbol price) :
    (calculate ledger.positions (markPrices.set symbol price)).netExposure
      = (calculate ledger.positions markPrices).netExposure := by
  rw [calculate_net, calculate_net]
  exact Dict.sum_congr fun e he => markedNotional_set h he

lemma gross_set {symbol : String} {price : ℚ} (h : MarkedAt ledger markPrices symbol price) :
    (calculate ledger.positions (markPrices.set symbol price)).grossExposure
      = (calculate ledger.positions markPrices).grossExposure := by
  rw [calculate_gross, calculate_gross]
  exact Dict.sum_congr fun e he => congrArg _ (markedNotional_set h he)

/-! ## Projection and recomputation agree -/

/-- The signed notional the order's symbol will have: its new quantity at the reference price. -/
lemma projectedSymbolSigned_eq (h : MarkedAt ledger markPrices order.symbol referencePrice) :
    projectedSymbolSigned order referencePrice ledger.positions markPrices
      = (ledger.quantityOf order.symbol + order.side.signed order.quantity) * referencePrice := by
  rw [projectedSymbolSigned, currentSignedNotional_eq h, incomingSignedNotional, orderNotional,
    OrderSide.signed_mul]
  ring

section Fill

variable {exchange : String} {fee : ℚ} {r : PositionLedger ℚ × Trade ℚ}

lemma fullFill_ok {price : ℚ} (h : ledger.applyFill (order.fullFill price exchange fee) = .ok r) :
    0 < order.quantity ∧ 0 < price
      ∧ r = ledger.book (order.fullFill price exchange fee) order.side := by
  obtain ⟨side, hc, hr⟩ := applyFill_ok h
  obtain ⟨-, hq, hp, hside⟩ := checkFill_ok.mp hc
  have heq : side = order.side :=
    Option.some.inj (hside.symm.trans (OrderSide.ofString?_value order.side))
  exact ⟨hq, hp, by rw [hr, heq]⟩

/-- The projections are the figures of the ledger after the fill, whatever price it is marked
at elsewhere. -/
lemma projection_after_fill (hl : ledger.Live)
    (hmark : MarkedAt ledger markPrices order.symbol referencePrice)
    (hfill : ledger.applyFill (order.fullFill referencePrice exchange fee) = .ok r)
    (hleft : Settled (ledger.quantityOf order.symbol + order.side.signed order.quantity)) :
    let after := calculate r.1.positions (markPrices.set order.symbol referencePrice)
    projectedGross order referencePrice ledger.positions markPrices = after.grossExposure
      ∧ projectedNet order referencePrice ledger.positions markPrices = after.netExposure
      ∧ projectedSymbolWeight order referencePrice ledger.positions markPrices
        = after.symbolWeights.getD order.symbol 0 := by
  obtain ⟨hq, -, rfl⟩ := fullFill_ok hfill
  have hnotional : ∀ p : Position ℚ,
      markedNotional (markPrices.set order.symbol referencePrice) order.symbol p
        = p.quantity * referencePrice := fun p => by
    rw [markedNotional, markOf_set_self, Position.signedNotional]
  have habs : ∀ p : Position ℚ,
      |markedNotional (markPrices.set order.symbol referencePrice) order.symbol p|
        = |p.quantity * referencePrice| := fun p => congrArg _ (hnotional p)
  have hzero : |(0 : ℚ) * referencePrice| = 0 := by rw [zero_mul, abs_zero]
  let fill := order.fullFill referencePrice exchange fee
  have hsigned := projectedSymbolSigned_eq hmark
  have hnet : projectedNet order referencePrice ledger.positions markPrices
      = (calculate (ledger.book fill order.side).1.positions
          (markPrices.set order.symbol referencePrice)).netExposure := by
    rw [calculate_net, sum_book hl fill order.side hq hleft (g := fun q => q * referencePrice)
      hnotional (zero_mul _), ← calculate_net, net_set hmark, projectedNet,
      incomingSignedNotional, orderNotional, OrderSide.signed_mul]
    change _ = _ - ledger.quantityOf order.symbol * referencePrice
      + (ledger.quantityOf order.symbol + order.side.signed order.quantity) * referencePrice
    ring
  have hgross : projectedGross order referencePrice ledger.positions markPrices
      = (calculate (ledger.book fill order.side).1.positions
          (markPrices.set order.symbol referencePrice)).grossExposure := by
    rw [calculate_gross, sum_book hl fill order.side hq hleft (g := fun q => |q * referencePrice|)
      habs hzero, ← calculate_gross, gross_set hmark, projectedGross, pyAbs_rat, pyAbs_rat,
      hsigned, currentSignedNotional_eq hmark]
    rfl
  refine ⟨hgross, hnet, ?_⟩
  -- the weight is the same ratio of the same two figures
  have hquantity : (ledger.book fill order.side).1.quantityOf order.symbol
      = ledger.quantityOf order.symbol + order.side.signed order.quantity :=
    (hl.quantityOf_book (show 0 < fill.quantity from hq)).trans (sweep_of_settled hleft)
  rw [calculate_weight_getD, share_of_quantity (g := fun q => |q * referencePrice|) habs hzero,
    hquantity, ← hgross, ← hsigned, projectedSymbolWeight, pyAbs_rat]
  rfl

/-- **The projection is the exposure after the fill.**  When the order's symbol is marked at the
reference price and the fill leaves nothing or more than dust, the projected gross exposure, net
exposure and symbol weight are those of the ledger after `apply_fill` of the whole order. -/
theorem projection_eq_exposure (validator : PreTradeRiskValidator ℚ) (ledger : PositionLedger ℚ)
    (hl : ledger.Live) (order : Order ℚ) (referencePrice : ℚ) (markPrices : Dict String ℚ)
    (minOverride : Option ℚ) (hmark : markPrices.get? order.symbol = some referencePrice)
    (exchange : String) (fee : ℚ) (r : PositionLedger ℚ × Trade ℚ)
    (hfill : ledger.applyFill (order.fullFill referencePrice exchange fee) = .ok r)
    (hleft : Settled (ledger.quantityOf order.symbol + order.side.signed order.quantity)) :
    let decision := validator.validate order referencePrice ledger.positions markPrices minOverride
    let after := calculate r.1.positions markPrices
    decision.projectedGrossExposure = after.grossExposure
      ∧ decision.projectedNetExposure = after.netExposure
      ∧ decision.projectedSymbolWeight = after.symbolWeights.getD order.symbol 0 := by
  have h := projection_after_fill hl (fun p _ => markOf_of_get? hmark p) hfill hleft
  rw [Dict.set_self hmark] at h
  exact h

/-- Three coins long at 100 and two short at 50. -/
def pair : PositionLedger ℚ :=
  ⟨Dict.ofList [("BTC/USDT", ⟨"BTC/USDT", 3, 100, 0, 0⟩), ("ETH/USDT", ⟨"ETH/USDT", -2, 50, 0, 0⟩)],
    [], 0⟩

/-- Selling five where three are held: the fill flips the position. -/
def flipping : Order ℚ :=
  { symbol := "BTC/USDT", side := .sell, quantity := 5, orderType := .market }

def pairMarks : Dict String ℚ := Dict.ofList [("BTC/USDT", 110), ("ETH/USDT", 45)]

def wideValidator : PreTradeRiskValidator ℚ := (build 1000 1000 1 1000 5).toOption.getD default

theorem projection_eq_exposure_flipping :
    ∃ r, pair.applyFill (flipping.fullFill 110 "SIM" 1) = .ok r
      ∧ (wideValidator.validate flipping 110 pair.positions pairMarks none).projectedGrossExposure
        = (calculate r.1.positions pairMarks).grossExposure := by
  have hok : pair.applyFill (flipping.fullFill 110 "SIM" 1)
      = .ok (pair.book (flipping.fullFill 110 "SIM" 1) .sell) :=
    applyFill_of_check (by decide +kernel)
  refine ⟨_, hok, ?_⟩
  exact (projection_eq_exposure wideValidator pair (by decide +kernel) flipping 110 pairMarks none
    (by decide +kernel) "SIM" 1 _ hok (by decide +kernel)).1

end Fill

end PreTradeRiskValidator

end Aegis
