import AegisFortress.Risk.Projection

/-!
# What an allowed order leaves the guard

The portfolio guard looks at the weight of every symbol, the pre-trade check at the weight of one.
With the projection of `Risk/Projection.lean`, an allowed order keeps the gross and the net limit
and the weight of its own symbol.  The other symbols keep their notionals, and their weights move
with the gross exposure alone: a closing order shrinks it, and the rest of the portfolio can
outgrow the weight limit without a single fill of its own.
-/

namespace Aegis

namespace PreTradeRiskValidator

open PositionLedger ExposureEngine

variable {ledger : PositionLedger ℚ} {order : Order ℚ} {referencePrice : ℚ}
  {markPrices : Dict String ℚ}

/-- The other symbols keep their notionals. -/
lemma markedNotional_other (referencePrice : ℚ) {symbol : String} (hs : symbol ≠ order.symbol)
    (p : Position ℚ) : markedNotional (markPrices.set order.symbol referencePrice) symbol p
      = markedNotional markPrices symbol p := by
  rw [markedNotional, markOf_set_of_ne (Ne.symm hs), markedNotional]

/-- The weight of another symbol after the fill: its old notional over the new gross exposure. -/
lemma weight_other {exchange : String} {fee price : ℚ} {symbol : String}
    (hs : symbol ≠ order.symbol) :
    (calculate (ledger.book (order.fullFill price exchange fee) order.side).1.positions
        (markPrices.set order.symbol referencePrice)).symbolWeights.get? symbol
      = (ledger.getPosition symbol).map fun p => weight |markedNotional markPrices symbol p|
          (calculate (ledger.book (order.fullFill price exchange fee) order.side).1.positions
            (markPrices.set order.symbol referencePrice)).grossExposure := by
  have hne : symbol ≠ (order.fullFill price exchange fee).symbol := hs
  have hp : (ledger.book (order.fullFill price exchange fee) order.side).1.positions.get? symbol
      = ledger.getPosition symbol := getPosition_book_of_ne hne
  rw [calculate_weight, hp]
  simp only [markedNotional_other referencePrice hs]

/-- **What an allowed order leaves the guard.**  The portfolio was quiet, the order's symbol is
marked at the reference price, and the order is filled in full there without leaving dust.  Then
neither exposure limit nor the weight limit of the order's own symbol is exceeded; the guard stays
quiet exactly when no other symbol's notional exceeds its share of the new gross exposure, which
is sure when gross exposure has not shrunk. -/
theorem allowed_order_guard (validator : PreTradeRiskValidator ℚ) (ledger : PositionLedger ℚ)
    (hl : ledger.Live) (order : Order ℚ) (referencePrice : ℚ) (markPrices : Dict String ℚ)
    (minOverride : Option ℚ) (hmark : MarkedAt ledger markPrices order.symbol referencePrice)
    (hquiet : validator.portfolioGuard.validate (calculate ledger.positions markPrices) = [])
    (hallowed : (validator.validate order referencePrice ledger.positions markPrices
      minOverride).allowed = true)
    (exchange : String) (fee : ℚ) (r : PositionLedger ℚ × Trade ℚ)
    (hfill : ledger.applyFill (order.fullFill referencePrice exchange fee) = .ok r)
    (hleft : Settled (ledger.quantityOf order.symbol + order.side.signed order.quantity)) :
    let guard := validator.portfolioGuard
    let before := calculate ledger.positions markPrices
    let after := calculate r.1.positions (markPrices.set order.symbol referencePrice)
    after.grossExposure ≤ guard.maxGrossExposure
      ∧ |after.netExposure| ≤ guard.maxNetExposure
      ∧ after.symbolWeights.getD order.symbol 0 ≤ guard.maxSymbolWeight
      ∧ (guard.validate after = [] ↔ ∀ symbol p, symbol ≠ order.symbol →
          ledger.getPosition symbol = some p →
          |markedNotional markPrices symbol p| ≤ guard.maxSymbolWeight * after.grossExposure)
      ∧ (before.grossExposure ≤ after.grossExposure → guard.validate after = []) := by
  intro guard before after
  obtain ⟨hgross, hnet, hweight⟩ := projection_after_fill hl hmark hfill hleft
  obtain ⟨-, -, rfl⟩ := fullFill_ok hfill
  have hin := (validator.allowed_iff order referencePrice ledger.positions markPrices
    minOverride).mp hallowed
  have hlimit : 0 ≤ guard.maxSymbolWeight := guard.weight_checked.1.le
  have hafterGross : after.grossExposure ≤ guard.maxGrossExposure := hgross ▸ hin.gross_le
  have hafterNet : |after.netExposure| ≤ guard.maxNetExposure := hnet ▸ hin.net_le
  have hafterOwn : after.symbolWeights.getD order.symbol 0 ≤ guard.maxSymbolWeight :=
    hweight ▸ hin.weight_le
  -- a held symbol's notional is part of the gross exposure it is weighed against
  have hpart : ∀ symbol p, symbol ≠ order.symbol → ledger.getPosition symbol = some p →
      |markedNotional markPrices symbol p| ≤ after.grossExposure := by
    intro symbol p hs hp
    have hne : symbol ≠ (order.fullFill referencePrice exchange fee).symbol := hs
    rw [← markedNotional_other referencePrice hs]
    exact notional_le_gross _ _ ((getPosition_book_of_ne hne).trans hp)
  have hrest : guard.validate after = [] ↔ ∀ symbol p, symbol ≠ order.symbol →
      ledger.getPosition symbol = some p →
      |markedNotional markPrices symbol p| ≤ guard.maxSymbolWeight * after.grossExposure := by
    rw [guard.validate_eq_nil]
    constructor
    · rintro ⟨-, -, hall⟩ symbol p hs hp
      refine (weight_le_iff hlimit (hpart symbol p hs hp) (gross_nonneg _ _)).mp ?_
      refine hall symbol _ ?_
      rw [weight_other hs, hp]
      rfl
    · intro hall
      refine ⟨hafterGross, hafterNet, ?_⟩
      intro symbol w hw
      by_cases hs : symbol = order.symbol
      · subst hs
        rwa [Dict.getD, hw] at hafterOwn
      · rw [weight_other hs, Option.map_eq_some_iff] at hw
        obtain ⟨p, hp, rfl⟩ := hw
        exact (weight_le_iff hlimit (hpart symbol p hs hp) (gross_nonneg _ _)).mpr
          (hall symbol p hs hp)
  refine ⟨hafterGross, hafterNet, hafterOwn, hrest, ?_⟩
  intro hgrown
  rw [hrest]
  intro symbol p hs hp
  obtain ⟨-, -, hall⟩ := (guard.validate_eq_nil before).mp hquiet
  have hw := hall symbol (weight |markedNotional markPrices symbol p| before.grossExposure) (by
    rw [calculate_weight, show ledger.positions.get? symbol = some p from hp]
    rfl)
  have hold := (weight_le_iff hlimit (notional_le_gross _ _ hp) (gross_nonneg _ _)).mp hw
  exact hold.trans (mul_le_mul_of_nonneg_left hgrown hlimit)

/-! ## The guard can speak after an allowed order -/

/-- The portfolio is quiet, the order is allowed, and after its full fill at the reference price
the guard reports a breach. -/
def breachesAfterAllowed (validator : PreTradeRiskValidator ℚ) (ledger : PositionLedger ℚ)
    (order : Order ℚ) (referencePrice : ℚ) (markPrices : Dict String ℚ) : Bool :=
  (validator.portfolioGuard.validate (calculate ledger.positions markPrices)).isEmpty
    && (validator.validate order referencePrice ledger.positions markPrices none).allowed
    && match ledger.applyFill (order.fullFill referencePrice "SIM" 0) with
      | .error _ => false
      | .ok r => !(validator.portfolioGuard.validate
          (calculate r.1.positions (markPrices.set order.symbol referencePrice))).isEmpty

/-- Two coins of fifty each, at most half the portfolio in one of them. -/
def halves : PositionLedger ℚ :=
  ⟨Dict.ofList [("BTC/USDT", ⟨"BTC/USDT", 50, 1, 0, 0⟩), ("ETH/USDT", ⟨"ETH/USDT", 50, 1, 0, 0⟩)],
    [], 0⟩

def halfValidator : PreTradeRiskValidator ℚ :=
  (build 1000 1000 (1 / 2) 1000 5).toOption.getD default

def trimming : Order ℚ :=
  { symbol := "BTC/USDT", side := .sell, quantity := 25, orderType := .market }

/-- A hundred coins that were last marked at half the price they trade at now. -/
def stale : PositionLedger ℚ :=
  ⟨Dict.ofList [("BTC/USDT", ⟨"BTC/USDT", 100, 1, 0, 0⟩)], [], 0⟩

def staleValidator : PreTradeRiskValidator ℚ := (build 150 150 1 1000 5).toOption.getD default

def adding : Order ℚ :=
  { symbol := "BTC/USDT", side := .buy, quantity := 10, orderType := .market }

/-- Next to nothing of a coin so dear that half of it still offsets the short in another. -/
def sliver : PositionLedger ℚ :=
  ⟨Dict.ofList [("BTC/USDT", ⟨"BTC/USDT", 2 / 10 ^ 12, 10 ^ 13, 0, 0⟩),
    ("ETH/USDT", ⟨"ETH/USDT", -105, 1, 0, 0⟩)], [], 0⟩

def sliverValidator : PreTradeRiskValidator ℚ := (build 1000 100 1 1000 5).toOption.getD default

def shaving : Order ℚ :=
  { symbol := "BTC/USDT", side := .sell, quantity := 15 / 10 ^ 13, orderType := .market }

/-- Each condition is needed: another symbol outgrows its weight, the order's own mark was stale,
and the dust that is swept away was part of the projection. -/
theorem allowed_orders_breach :
    breachesAfterAllowed halfValidator halves trimming 1 ∅ = true
      ∧ breachesAfterAllowed staleValidator stale adding 2 ∅ = true
      ∧ breachesAfterAllowed sliverValidator sliver shaving (10 ^ 13) ∅ = true := by
  refine ⟨?_, ?_, ?_⟩ <;> decide +kernel

/-- Buying more of a coin the portfolio is small in. -/
def topping : Order ℚ :=
  { symbol := "BTC/USDT", side := .buy, quantity := 3, orderType := .market }

theorem allowed_order_guard_topping :
    ∃ r, pair.applyFill (topping.fullFill 110 "SIM" 0) = .ok r
      ∧ wideValidator.portfolioGuard.validate (calculate r.1.positions (pairMarks.set "BTC/USDT" 110)) = [] := by
  have hok : pair.applyFill (topping.fullFill 110 "SIM" 0)
      = .ok (pair.book (topping.fullFill 110 "SIM" 0) .buy) :=
    applyFill_of_check (by decide +kernel)
  refine ⟨_, hok, ?_⟩
  exact (allowed_order_guard wideValidator pair (by decide +kernel) topping 110 pairMarks none
    (fun p _ => markOf_of_get? (by decide +kernel) p) (by decide +kernel) (by decide +kernel)
    "SIM" 0 _ hok (by decide +kernel)).2.2.2.2 (by decide +kernel)

end PreTradeRiskValidator

end Aegis
