import AegisFortress.Risk.Projection

/-!
# Closing a position through the pre-trade check

The validator has no exemption for exits: the order that closes a position is measured like any
other.  `closing_allowed_iff` says what that comes to on every ledger that allowed orders can
build.  The weight limit never rejects an exit — the first order of an empty portfolio weighs one,
so whoever holds anything trades under a weight limit of one — and the other three limits reject
it exactly when the closing notional, or what the *rest* of the portfolio comes to, is too large.
-/

namespace Aegis

/-- A fill of a whole order that the validator allowed at a reference price. -/
structure AllowedFill where
  order : Order ℚ
  referencePrice : ℚ
  markPrices : Dict String ℚ
  minOverride : Option ℚ
  price : ℚ
  exchange : String
  fee : ℚ

/-- The order closes the position: the opposite side, and the position's whole quantity. -/
def Order.Closes (order : Order ℚ) (p : Position ℚ) : Prop :=
  order.quantity = |p.quantity| ∧ order.side.signed order.quantity = -p.quantity

instance (order : Order ℚ) (p : Position ℚ) : Decidable (order.Closes p) :=
  inferInstanceAs (Decidable (_ ∧ _))

namespace PreTradeRiskValidator

open PositionLedger ExposureEngine

/-- Submit the order; it is filled in full if it is allowed. -/
def trade (validator : PreTradeRiskValidator ℚ) (ledger : PositionLedger ℚ) (t : AllowedFill) :
    Option (PositionLedger ℚ) :=
  if (validator.validate t.order t.referencePrice ledger.positions t.markPrices
      t.minOverride).allowed then
    (ledger.applyFill (t.order.fullFill t.price t.exchange t.fee)).toOption.map Prod.fst
  else none

/-! ## The projection, seen from the rest of the portfolio -/

section Rest

variable (order : Order ℚ) (referencePrice : ℚ) (positions : Dict String (Position ℚ))
  (markPrices : Dict String ℚ)

/-- The exposure of the other symbols. -/
def rest (symbol : String) : ExposureSnapshot ℚ := calculate (positions.erase symbol) markPrices

lemma share_current (g : ℚ → ℚ) (hg : g 0 = 0) (symbol : String) :
    positions.share (fun s p => g (markedNotional markPrices s p)) symbol
      = g (currentSignedNotional positions markPrices symbol) := by
  rw [Dict.share, currentSignedNotional]
  cases positions.get? symbol with
  | none => exact hg.symm
  | some p => rfl

lemma projectedNet_rest : projectedNet order referencePrice positions markPrices
    = (rest positions markPrices order.symbol).netExposure
      + projectedSymbolSigned order referencePrice positions markPrices := by
  have hshare := share_current positions markPrices id rfl order.symbol
  simp only [id] at hshare
  rw [rest, calculate_net, Dict.sum_erase, hshare, projectedNet, calculate_net,
    projectedSymbolSigned]
  ring

lemma projectedGross_rest : projectedGross order referencePrice positions markPrices
    = (rest positions markPrices order.symbol).grossExposure
      + |projectedSymbolSigned order referencePrice positions markPrices| := by
  have hshare := share_current positions markPrices abs abs_zero order.symbol
  rw [rest, calculate_gross, Dict.sum_erase, hshare, projectedGross, calculate_gross, pyAbs_rat,
    pyAbs_rat]

lemma projectedSymbolWeight_eq : projectedSymbolWeight order referencePrice positions markPrices
    = weight |projectedSymbolSigned order referencePrice positions markPrices|
        (projectedGross order referencePrice positions markPrices) := by
  rw [projectedSymbolWeight, pyAbs_rat]
  rfl

/-- No symbol weighs more than the whole portfolio. -/
lemma projectedSymbolWeight_le_one :
    projectedSymbolWeight order referencePrice positions markPrices ≤ 1 := by
  have hrest := gross_nonneg (positions.erase order.symbol) markPrices
  have hgross := projectedGross_rest order referencePrice positions markPrices
  rw [rest] at hgross
  rw [projectedSymbolWeight_eq, weight_le_iff zero_le_one, one_mul] <;>
    linarith [abs_nonneg (projectedSymbolSigned order referencePrice positions markPrices)]

/-- Beside an empty portfolio there is nothing. -/
lemma rest_of_empty (hempty : positions.entries = []) (symbol : String) :
    (rest positions markPrices symbol).grossExposure = 0 := by
  rw [rest, calculate_gross, Dict.sum, Dict.erase]
  simp [hempty]

lemma currentSignedNotional_of_empty (hempty : positions.entries = []) (symbol : String) :
    currentSignedNotional positions markPrices symbol = 0 := by
  rw [currentSignedNotional, Dict.get?, hempty]
  rfl

/-- The first order of an empty portfolio is all of it. -/
lemma projectedSymbolWeight_first (hempty : positions.entries = []) (hq : 0 < order.quantity)
    (hp : 0 < referencePrice) :
    projectedSymbolWeight order referencePrice positions markPrices = 1 := by
  have hsigned : 0 < |projectedSymbolSigned order referencePrice positions markPrices| := by
    rw [projectedSymbolSigned, currentSignedNotional_of_empty _ _ hempty, zero_add, abs_pos,
      incomingSignedNotional, orderNotional]
    exact signed_ne_zero (mul_pos hq hp) order.side
  rw [projectedSymbolWeight_eq, projectedGross_rest, rest_of_empty _ _ hempty, zero_add, weight,
    if_pos hsigned, div_self hsigned.ne']

end Rest

/-! ## Ledgers built by allowed orders -/

/-- What allowed orders leave: a well-formed ledger, and no weight limit below one unless nothing
is held. -/
structure Traded (validator : PreTradeRiskValidator ℚ) (ledger : PositionLedger ℚ) : Prop where
  wellFormed : ledger.WellFormed
  weight_one : ledger.positions.entries ≠ [] → validator.portfolioGuard.maxSymbolWeight = 1

variable {validator : PreTradeRiskValidator ℚ}

lemma traded_empty : Traded validator empty := ⟨wellFormed_empty, fun h => absurd rfl h⟩

/-- One allowed order preserves the shape. -/
lemma Traded.trade {ledger ledger' : PositionLedger ℚ} {t : AllowedFill} (h : Traded validator ledger)
    (hstep : validator.trade ledger t = some ledger') : Traded validator ledger' := by
  rw [PreTradeRiskValidator.trade] at hstep
  split_ifs at hstep with hallowed
  have hin := (allowed_iff ..).mp hallowed
  obtain ⟨side, hc, rfl⟩ := applyFill_toOption hstep
  obtain ⟨-, hq, hprice, -⟩ := checkFill_ok.mp hc
  refine ⟨h.wellFormed.book hq hprice, fun _ => ?_⟩
  by_cases hempty : ledger.positions.entries = []
  · have hone := hin.weight_le
    rw [projectedSymbolWeight_first _ _ _ _ hempty hin.quantity_pos hin.price_pos] at hone
    exact le_antisymm validator.portfolioGuard.weight_checked.2 hone
  · exact h.weight_one hempty

/-- Every run of allowed orders does. -/
theorem traded_run {fills : List AllowedFill} {ledger : PositionLedger ℚ}
    (h : Machine.run validator.trade empty fills = some ledger) : Traded validator ledger :=
  Machine.run_invariant (Traded validator) traded_empty (fun _ _ _ hl hstep => hl.trade hstep) h

/-! ## The closing order -/

/-- A closing order leaves the difference between the mark and the price it is closed at. -/
lemma closing_signed {positions : Dict String (Position ℚ)} {order : Order ℚ} {p : Position ℚ}
    (hp : positions.get? order.symbol = some p) (hclose : order.Closes p) (referencePrice : ℚ)
    (markPrices : Dict String ℚ) :
    projectedSymbolSigned order referencePrice positions markPrices
      = p.quantity * (markOf markPrices order.symbol p - referencePrice) := by
  rw [projectedSymbolSigned, currentSignedNotional, hp, incomingSignedNotional, orderNotional,
    OrderSide.signed_mul, hclose.2]
  change p.quantity * markOf markPrices order.symbol p + -p.quantity * referencePrice = _
  ring

/-- **Which limits an exit can run into.**  On every ledger built by fully filling allowed orders,
an order that closes an open position and is not below the minimum is never rejected for the
symbol's weight; it is allowed exactly when its notional is within the order limit and the rest of
the portfolio, plus the gap between mark and reference price, is within the gross and net
limits. -/
theorem closing_allowed_iff (validator : PreTradeRiskValidator ℚ) (fills : List AllowedFill)
    (ledger : PositionLedger ℚ) (hrun : Machine.run validator.trade empty fills = some ledger)
    (order : Order ℚ) (p : Position ℚ) (hp : ledger.getPosition order.symbol = some p)
    (hclose : order.Closes p) (referencePrice : ℚ) (hprice : 0 < referencePrice)
    (markPrices : Dict String ℚ) (minOverride : Option ℚ)
    (hmin : validator.effectiveMin minOverride ≤ orderNotional order referencePrice) :
    let others := calculate (ledger.positions.erase order.symbol) markPrices
    let gap := p.quantity * (markOf markPrices order.symbol p - referencePrice)
    let decision := validator.validate order referencePrice ledger.positions markPrices minOverride
    decision.projectedSymbolWeight ≤ validator.portfolioGuard.maxSymbolWeight
      ∧ (decision.allowed = true ↔
          |p.quantity| * referencePrice ≤ validator.maxOrderNotional
            ∧ others.grossExposure + |gap| ≤ validator.portfolioGuard.maxGrossExposure
            ∧ |others.netExposure + gap| ≤ validator.portfolioGuard.maxNetExposure) := by
  intro others gap decision
  have htraded := traded_run hrun
  have hmem : (order.symbol, p) ∈ ledger.positions.entries := Dict.get?_eq_some.mp hp
  have hone : validator.portfolioGuard.maxSymbolWeight = 1 :=
    htraded.weight_one (List.ne_nil_of_mem hmem)
  have hweight : projectedSymbolWeight order referencePrice ledger.positions markPrices
      ≤ validator.portfolioGuard.maxSymbolWeight :=
    hone ▸ projectedSymbolWeight_le_one order referencePrice ledger.positions markPrices
  have hquantity : 0 < order.quantity := by
    have hlive : EPSILON < |p.quantity| := htraded.wellFormed.live (order.symbol, p) hmem
    rw [hclose.1]
    exact lt_trans epsilon_pos hlive
  have hsigned := closing_signed hp hclose referencePrice markPrices
  have hgross := projectedGross_rest order referencePrice ledger.positions markPrices
  have hnet := projectedNet_rest order referencePrice ledger.positions markPrices
  rw [hsigned] at hgross hnet
  have hnotional : orderNotional order referencePrice = |p.quantity| * referencePrice := by
    rw [orderNotional, hclose.1]
  have hiff := validator.allowed_iff order referencePrice ledger.positions markPrices minOverride
  refine ⟨hweight, hiff.trans ?_⟩
  constructor
  · intro hin
    have hg := hin.gross_le
    have hn := hin.net_le
    rw [hgross] at hg
    rw [hnet] at hn
    exact ⟨hnotional ▸ hin.le_max, hg, hn⟩
  · rintro ⟨hmax, hg, hn⟩
    refine ⟨hprice, hquantity, hmin, hnotional ▸ hmax, ?_, ?_, hweight⟩
    · rw [hgross]
      exact hg
    · rw [hnet]
      exact hn

/-! ## Exits that are rejected -/

/-- The fills are allowed one after the other, and the order that then closes a position at a later
price is not allowed, although it is not below the minimum. -/
def exitRejected (validator : PreTradeRiskValidator ℚ) (fills : List AllowedFill)
    (order : Order ℚ) (referencePrice : ℚ) (markPrices : Dict String ℚ) : Bool :=
  match Machine.run validator.trade empty fills with
  | none => false
  | some ledger =>
      match ledger.getPosition order.symbol with
      | none => false
      | some p => decide (order.Closes p) && decide (0 < referencePrice)
          && decide (validator.effectiveMin none ≤ orderNotional order referencePrice)
          && !(validator.validate order referencePrice ledger.positions markPrices none).allowed

/-- A market order at a price, marked nowhere else. -/
def marketFill (symbol : String) (side : OrderSide) (quantity price : ℚ) : AllowedFill :=
  ⟨{ symbol, side, quantity, orderType := .market }, price, ∅, none, price, "SIM", 0⟩

def exitOrder (quantity : ℚ) : Order ℚ :=
  { symbol := "BTC/USDT", side := .sell, quantity, orderType := .market }

/-- Orders of at most a hundred, gross exposure of at most two hundred, net of at most sixty. -/
def tightValidator : PreTradeRiskValidator ℚ := (build 200 60 1 100 5).toOption.getD default

/-- Long one coin and short another, built in four orders that keep the net exposure small. -/
def hedged : List AllowedFill :=
  [marketFill "BTC/USDT" .buy 1 50, marketFill "ETH/USDT" .sell 1 50,
    marketFill "BTC/USDT" .buy 1 50, marketFill "ETH/USDT" .sell 1 50]

/-- The price rose past the order limit; closing one leg leaves the other one naked; the other leg
alone has outgrown the gross limit. -/
theorem exits_rejected :
    exitRejected tightValidator [marketFill "BTC/USDT" .buy 1 50] (exitOrder 1) 101 ∅ = true
      ∧ exitRejected tightValidator hedged (exitOrder 2) 50 ∅ = true
      ∧ exitRejected tightValidator hedged (exitOrder 2) 50
          (Dict.ofList [("BTC/USDT", 50), ("ETH/USDT", 150)]) = true := by
  refine ⟨?_, ?_, ?_⟩ <;> decide +kernel

lemma hedged_run : (Machine.run tightValidator.trade empty hedged).isSome := by decide +kernel

def hedgedLedger : PositionLedger ℚ :=
  (Machine.run tightValidator.trade empty hedged).get hedged_run

theorem closing_allowed_hedged :
    (tightValidator.validate (exitOrder 2) 50 hedgedLedger.positions ∅ none).projectedSymbolWeight
      ≤ tightValidator.portfolioGuard.maxSymbolWeight :=
  (closing_allowed_iff tightValidator hedged hedgedLedger (Option.some_get hedged_run).symm
    (exitOrder 2) ⟨"BTC/USDT", 2, 50, 0, 0⟩ (by decide +kernel) (by decide +kernel) 50
    (by decide +kernel) ∅ none (by decide +kernel)).1

end PreTradeRiskValidator

end Aegis
