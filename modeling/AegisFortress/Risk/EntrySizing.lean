import AegisFortress.Core.SmartOrderRouter
import AegisFortress.Risk.PreTradeRisk
import AegisFortress.Strategies.MeanReversionImbalance

/-!
# Entries and the limits on an order

The strategy sizes an entry at the mid price and rounds it to eight decimals; the risk check takes
its notional at the price the router returns, the ask of an order to buy and the bid of one to sell.
`entry_fits_iff`: exactly when an entry passes both checks of its notional.
-/

namespace Aegis

open SmartOrderRouter

namespace PreTradeRiskValidator

variable (validator : PreTradeRiskValidator ℚ) (order : Order ℚ) (referencePrice : ℚ)
  (minOverride : Option ℚ)

/-- The reasons against an order that are about its notional. -/
def notionalReasons : List String :=
  let notional := orderNotional order referencePrice
  let effective := validator.effectiveMin minOverride
  (if 0 < effective ∧ notional < effective then
      [s!"Order notional {PyFloat.fixed 8 notional} is below minimum {PyFloat.fixed 8 effective}"]
    else [])
    ++ exceeds "Order notional" 8 notional notional validator.maxOrderNotional

/-- They are among the reasons of the decision. -/
lemma notionalReasons_subset (positions : Dict String (Position ℚ)) (markPrices : Dict String ℚ) :
    validator.notionalReasons order referencePrice minOverride
      ⊆ (validator.validate order referencePrice positions markPrices minOverride).reasons := by
  intro reason hreason
  simp only [notionalReasons, validate, reasons, List.mem_append] at hreason ⊢
  tauto

lemma notionalReasons_eq_nil (hmin : 0 < validator.effectiveMin minOverride) :
    validator.notionalReasons order referencePrice minOverride = []
      ↔ validator.effectiveMin minOverride ≤ orderNotional order referencePrice
        ∧ orderNotional order referencePrice ≤ validator.maxOrderNotional := by
  simp only [notionalReasons, List.append_eq_nil_iff, ite_singleton_eq_nil, exceeds_eq_nil, hmin,
    true_and, not_lt]

end PreTradeRiskValidator

/-! ## Whole units -/

/-- A quantity has eight decimals. -/
def UNITS : ℚ := 10 ^ 8

lemma units_pos : 0 < UNITS := by
  rw [UNITS]
  positivity

/-- The most units whose notional at the price is within the maximum. -/
def mostUnits (maximum price : ℚ) : ℕ := ⌊maximum * UNITS / price⌋₊

/-- The fewest units whose notional at the price reaches the minimum. -/
def leastUnits (minimum price : ℚ) : ℕ := ⌈minimum * UNITS / price⌉₊

lemma notional_le_iff {maximum price : ℚ} (hmax : 0 < maximum) (hprice : 0 < price) (n : ℕ) :
    n / UNITS * price ≤ maximum ↔ n ≤ mostUnits maximum price := by
  have hquotient : 0 ≤ maximum * UNITS / price :=
    div_nonneg (mul_nonneg hmax.le units_pos.le) hprice.le
  rw [mostUnits, Nat.le_floor_iff hquotient, le_div_iff₀ hprice, div_mul_eq_mul_div,
    div_le_iff₀ units_pos]

lemma le_notional_iff {minimum price : ℚ} (hprice : 0 < price) (n : ℕ) :
    minimum ≤ n / UNITS * price ↔ leastUnits minimum price ≤ n := by
  rw [leastUnits, Nat.ceil_le, div_le_iff₀ hprice, div_mul_eq_mul_div, le_div_iff₀ units_pos]

lemma leastUnits_pos {minimum price : ℚ} (hmin : 0 < minimum) (hprice : 0 < price) :
    0 < leastUnits minimum price :=
  Nat.ceil_pos.mpr (div_pos (mul_pos hmin units_pos) hprice)

/-! ## The size of an entry -/

namespace MeanReversionImbalanceStrategy

variable (strategy : MeanReversionImbalanceStrategy ℚ)

/-- What an entry is meant to be worth. -/
def boundedNotional : ℚ :=
  min (max strategy.targetNotional strategy.minOrderNotional) strategy.maxPositionNotional

/-- The units it stands for at a mid price, before they are rounded. -/
def wantedUnits (midPrice : ℚ) : ℚ := strategy.boundedNotional / midPrice * UNITS

lemma boundedNotional_ge : strategy.minOrderNotional ≤ strategy.boundedNotional :=
  le_min (le_max_right _ _) strategy.accepted.covers

lemma entryQuantity_units {midPrice : ℚ} (hmid : 0 < midPrice)
    (hmin : 0 ≤ strategy.minOrderNotional) :
    0 ≤ strategy.wantedUnits midPrice ∧
      strategy.entryQuantity midPrice = roundHalfEven (strategy.wantedUnits midPrice) / UNITS := by
  have hbounded : 0 ≤ strategy.boundedNotional := hmin.trans strategy.boundedNotional_ge
  have hquotient : 0 ≤ strategy.boundedNotional / midPrice := div_nonneg hbounded hmid.le
  refine ⟨mul_nonneg hquotient units_pos.le, ?_⟩
  have hsmall : ¬ strategy.boundedNotional < strategy.minOrderNotional :=
    not_lt.mpr strategy.boundedNotional_ge
  rw [entryQuantity, if_neg (not_le.mpr hmid)]
  simp only [pyMin_rat, pyMax_rat]
  rw [← boundedNotional, if_neg hsmall]
  change roundRat 8 (strategy.boundedNotional / midPrice) = _
  rw [roundRat, if_neg (not_lt.mpr hquotient)]
  simp only [if_neg (not_lt.mpr hquotient)]
  rfl

/-- The units wanted are rounded to a number that fits between the two limits at this price. -/
structure Fits (midPrice price minimum maximum : ℚ) : Prop where
  most : strategy.wantedUnits midPrice < mostUnits maximum price + 1 / 2
    ∨ strategy.wantedUnits midPrice = mostUnits maximum price + 1 / 2
      ∧ mostUnits maximum price % 2 = 0
  least : leastUnits minimum price - 1 / 2 < strategy.wantedUnits midPrice
    ∨ strategy.wantedUnits midPrice = leastUnits minimum price - 1 / 2
      ∧ leastUnits minimum price % 2 = 0

/-- **An entry and the limits.**  The decision on an entry that is routed on the book it was sized
on has nothing against its notional exactly when the units it wants fit at the touch. -/
theorem entry_fits_iff (validator : PreTradeRiskValidator ℚ)
    (hshared : validator.minOrderNotional = strategy.minOrderNotional)
    (hmin : 0 < strategy.minOrderNotional) {bestBid midPrice bestAsk : ℚ} (hbid : 0 < bestBid)
    (hlow : bestBid ≤ midPrice) (hhigh : midPrice ≤ bestAsk) (order : Order ℚ)
    (hsized : order.quantity = strategy.entryQuantity midPrice) {E : Type} (getenv : Environ)
    (registry : List (String × E)) (quotesOf : E → Quotes ℚ)
    (hshows : ∀ entry ∈ registry, Shows bestBid bestAsk (quotesOf entry.2)) (best : E × ℚ)
    (hroute : findBestExchange getenv registry quotesOf order.symbol order.side.value = .ok best)
    (positions : Dict String (Position ℚ)) (markPrices : Dict String ℚ)
    (minOverride : Option ℚ) :
    (∀ reason ∈ (validator.validate order best.2 positions markPrices minOverride).reasons,
        reason ∉ validator.notionalReasons order best.2 minOverride)
      ↔ strategy.Fits midPrice (touch bestBid bestAsk order.side)
        (validator.effectiveMin minOverride) validator.maxOrderNotional := by
  have hmid : 0 < midPrice := hbid.trans_le hlow
  have hask : 0 < bestAsk := hmid.trans_le hhigh
  have hprice : 0 < touch bestBid bestAsk order.side := touch_pos hbid hask
  have hmax : 0 < validator.maxOrderNotional := not_le.mp validator.max_checked
  have heffective : 0 < validator.effectiveMin minOverride :=
    (hshared ▸ hmin).trans_le (validator.effectiveMin_ge minOverride)
  obtain ⟨hwanted, hquantity⟩ := strategy.entryQuantity_units hmid hmin.le
  rw [findBestExchange_quoted hshows hbid hask hroute]
  have hempty : (∀ reason ∈ (validator.validate order (touch bestBid bestAsk order.side) positions
        markPrices minOverride).reasons,
        reason ∉ validator.notionalReasons order (touch bestBid bestAsk order.side) minOverride)
      ↔ validator.notionalReasons order (touch bestBid bestAsk order.side) minOverride = [] := by
    rw [List.eq_nil_iff_forall_not_mem]
    constructor
    · intro h reason hreason
      exact h reason (validator.notionalReasons_subset order _ minOverride positions markPrices
        hreason) hreason
    · exact fun h reason _ => h reason
  rw [hempty, validator.notionalReasons_eq_nil order _ minOverride heffective,
    PreTradeRiskValidator.orderNotional, hsized, hquantity, notional_le_iff hmax hprice,
    le_notional_iff hprice, roundHalfEven_le_iff hwanted,
    le_roundHalfEven_iff hwanted (leastUnits_pos heffective hprice)]
  exact ⟨fun ⟨hleast, hmost⟩ => ⟨hmost, hleast⟩, fun h => ⟨h.least, h.most⟩⟩

lemma weight_one : (0 : ℚ) < 1 ∧ (1 : ℚ) ≤ 1 := ⟨one_pos, le_rfl⟩

/-- The risk check of the low-capital template, with another maximum. -/
def lowCapitalRisk (maximum : ℚ) (hmax : 11 / 2 ≤ maximum) : PreTradeRiskValidator ℚ :=
  { portfolioGuard := ⟨9, 9, 1, by decide +kernel, by decide +kernel, weight_one⟩
    maxOrderNotional := maximum
    minOrderNotional := 11 / 2
    max_checked := not_le.mpr (lt_of_lt_of_le (by norm_num) hmax)
    min_checked := by norm_num
    range_checked := not_lt.mpr hmax }

/-- A client that quotes 99.95 to 100.05. -/
def quoting : Quotes ℚ :=
  ⟨true, some (.ok (.float (2001 / 20))), some (.ok (.float (1999 / 20))), .ok .none⟩

/-- An entry at a mid price of 100. -/
def entryAt (side : OrderSide) : Order ℚ :=
  { symbol := "BTC/USDT", side, quantity := lowCapitalStrategy.entryQuantity 100
    orderType := .market }

lemma routed_quoting (side : OrderSide) :
    findBestExchange (fun _ => none) [("binance", quoting)] id "BTC/USDT" side.value
      = .ok (quoting, touch (1999 / 20) (2001 / 20) side) :=
  findBestExchange_single (by decide +kernel) ⟨rfl, rfl⟩ (by norm_num) (by norm_num)

/-- With a maximum of eight there is room for the spread. -/
theorem entry_fits_roomy :
    lowCapitalStrategy.Fits 100 (2001 / 20) (11 / 2) 8
      ∧ ∀ reason ∈ ((lowCapitalRisk 8 (by norm_num)).validate (entryAt .buy) (2001 / 20) .empty
          .empty none).reasons,
        reason ∉ (lowCapitalRisk 8 (by norm_num)).notionalReasons (entryAt .buy) (2001 / 20)
          none := by
  have hfits : lowCapitalStrategy.Fits 100 (2001 / 20) (11 / 2) 8 :=
    ⟨Or.inl (by decide +kernel), Or.inl (by decide +kernel)⟩
  refine ⟨hfits, ?_⟩
  have hbid : (0 : ℚ) < 1999 / 20 := by norm_num
  have hlow : (1999 / 20 : ℚ) ≤ 100 := by norm_num
  have hhigh : (100 : ℚ) ≤ 2001 / 20 := by norm_num
  have hshows : ∀ entry ∈ [("binance", quoting)],
      Shows (1999 / 20) (2001 / 20) (id entry.2) := by
    intro entry hentry
    rw [List.mem_singleton.mp hentry]
    exact ⟨rfl, rfl⟩
  exact (lowCapitalStrategy.entry_fits_iff (lowCapitalRisk 8 (by norm_num)) rfl (by decide +kernel)
    hbid hlow hhigh (entryAt .buy) rfl (fun _ => none) [("binance", quoting)] id hshows _
    (routed_quoting .buy) .empty .empty none).mpr hfits

/-- At the template's own maximum an entry to buy is refused as soon as there is a spread. -/
theorem entry_refused :
    (lowCapitalRisk (15 / 2) (by norm_num)).minOrderNotional = lowCapitalStrategy.minOrderNotional
      ∧ lowCapitalStrategy.maxPositionNotional
        ≤ (lowCapitalRisk (15 / 2) (by norm_num)).maxOrderNotional
      ∧ 0 < lowCapitalStrategy.minOrderNotional
      ∧ lowCapitalStrategy.minOrderNotional ≤ lowCapitalStrategy.maxPositionNotional
      ∧ 0 < (entryAt .buy).quantity
      ∧ findBestExchange (fun _ => none) [("binance", quoting)] id "BTC/USDT" "BUY"
        = .ok (quoting, 2001 / 20)
      ∧ ((lowCapitalRisk (15 / 2) (by norm_num)).validate (entryAt .buy) (2001 / 20) .empty .empty
          none).reasons = ["Order notional 7.50375000 exceeds limit 7.50000000"] := by
  refine ⟨rfl, le_rfl, by decide +kernel, by decide +kernel, by decide +kernel,
    routed_quoting .buy, by decide +kernel⟩

end MeanReversionImbalanceStrategy

end Aegis
