import AegisFortress.Lib.Dict
import AegisFortress.Lib.Raising
import AegisFortress.Models.Order
import AegisFortress.Python.Builtins
import Mathlib.Algebra.Order.AbsoluteValue.Basic
import Mathlib.Analysis.SpecialFunctions.Log.Basic

/-!
# The market maker

`market_maker.py`: the quotes of the model, and the cycle that places them.

The model shifts the mid price by the inventory, and lays half a spread to each side.  Nothing ties the
shift to the spread: `compute_quotes_straddle_iff` says for which inventories the mid price stays
between the quotes, and when the bid is above zero.
-/

namespace Aegis.Pro

open Raising

/-- The functions of `math` that the quotes need, `round` and the remainder of floats. -/
structure MakerLib (K : Type) where
  log : K → K
  sqrt : K → K
  round : K → ℕ → K
  mod : K → K → K

section Model

variable {K : Type} [Field K] [LinearOrder K]

/-- `MIN_VIABLE_SPREAD_PCT`. -/
def minViableSpreadPct : K := ((3 : ℕ) : K) / ((1000 : ℕ) : K)

/-- `MAX_INVENTORY_USD`. -/
def maxInventoryUsd : K := ((500 : ℕ) : K)

/-- `QUOTE_LIFETIME_SECS`. -/
def quoteLifetimeSecs : K := ((8 : ℕ) : K)

/-! ## The quotes -/

namespace AvellanedaStoikov

def gamma : K := 1 / ((10 : ℕ) : K)

def k : K := ((3 : ℕ) : K) / ((2 : ℕ) : K)

/-- `compute_quotes(mid_price, volatility, inventory, time_left, equity)`: bid and ask. -/
def computeQuotes (lib : MakerLib K) (midPrice volatility inventory timeLeft _equity : K) : K × K :=
  if midPrice ≤ 0 ∨ volatility ≤ 0 then
    let half := midPrice * (1 / ((1000 : ℕ) : K))
    (midPrice - half, midPrice + half)
  else
    let sigma2 := volatility ^ 2
    let dt := max timeLeft (1 / ((100 : ℕ) : K))
    let reservation := midPrice - inventory * gamma * sigma2 * dt
    let spread := gamma * sigma2 * dt + ((2 : ℕ) : K) / gamma * lib.log (1 + gamma / k)
    let spread := max spread (midPrice * minViableSpreadPct)
    let bid := reservation - spread / ((2 : ℕ) : K)
    let ask := reservation + spread / ((2 : ℕ) : K)
    let (bid, ask) :=
      if ask ≤ bid then
        (midPrice * (1 - minViableSpreadPct / ((2 : ℕ) : K)),
          midPrice * (1 + minViableSpreadPct / ((2 : ℕ) : K)))
      else (bid, ask)
    (lib.round bid 8, lib.round ask 8)

/-- What one unit of inventory costs for the rest of the session. -/
def unitRisk (volatility timeLeft : K) : K :=
  gamma * volatility ^ 2 * max timeLeft (1 / ((100 : ℕ) : K))

/-- Half the spread: what the model asks for, or the smallest one that is viable. -/
def halfSpread (lib : MakerLib K) (midPrice volatility timeLeft : K) : K :=
  max (unitRisk volatility timeLeft / ((2 : ℕ) : K) + ((10 : ℕ) : K) * lib.log (1 + gamma / k))
    (midPrice * (minViableSpreadPct / ((2 : ℕ) : K)))

section Straddle

variable [IsStrictOrderedRing K] {lib : MakerLib K} {midPrice volatility inventory timeLeft equity : K}

lemma halfSpread_pos (lib : MakerLib K) (volatility timeLeft : K) (hmid : 0 < midPrice) :
    0 < halfSpread lib midPrice volatility timeLeft := by
  refine lt_max_of_lt_right (mul_pos hmid ?_)
  simp only [minViableSpreadPct]
  positivity

lemma unitRisk_nonneg : 0 ≤ unitRisk volatility timeLeft := by
  have hdt : (0 : K) ≤ max timeLeft (1 / ((100 : ℕ) : K)) := le_max_of_le_right (by positivity)
  have hgamma : (0 : K) ≤ gamma := by
    simp only [gamma]
    positivity
  exact mul_nonneg (mul_nonneg hgamma (sq_nonneg _)) hdt

/-- The two spreads of the code, halved. -/
lemma spread_eq : max (gamma * volatility ^ 2 * max timeLeft (1 / ((100 : ℕ) : K))
      + ((2 : ℕ) : K) / gamma * lib.log (1 + gamma / k)) (midPrice * minViableSpreadPct) / ((2 : ℕ) : K)
    = halfSpread lib midPrice volatility timeLeft := by
  have htwo : (0 : K) ≤ ((2 : ℕ) : K)⁻¹ := by positivity
  rw [div_eq_mul_inv, max_mul_of_nonneg _ _ htwo, halfSpread]
  congr 1
  · simp only [unitRisk, gamma]
    push_cast
    ring
  · rw [mul_assoc, div_eq_mul_inv]

omit [IsStrictOrderedRing K] in
/-- Without volatility the quotes are a thousandth from the mid price. -/
lemma computeQuotes_calm (h : volatility ≤ 0) :
    computeQuotes lib midPrice volatility inventory timeLeft equity
      = (midPrice - midPrice * (1 / ((1000 : ℕ) : K)), midPrice + midPrice * (1 / ((1000 : ℕ) : K))) := by
  simp only [computeQuotes, h, or_true, if_true]

/-- **The quotes**: the price that the inventory asks for, less and plus half the spread. -/
lemma computeQuotes_eq (hround : ∀ x n, lib.round x n = x) (hmid : 0 < midPrice) (h : 0 < volatility) :
    computeQuotes lib midPrice volatility inventory timeLeft equity
      = (midPrice - inventory * unitRisk volatility timeLeft - halfSpread lib midPrice volatility timeLeft,
        midPrice - inventory * unitRisk volatility timeLeft
          + halfSpread lib midPrice volatility timeLeft) := by
  have hactive : ¬ (midPrice ≤ 0 ∨ volatility ≤ 0) := by simp [hmid, h]
  have hshift : inventory * gamma * volatility ^ 2 * max timeLeft (1 / ((100 : ℕ) : K))
      = inventory * unitRisk volatility timeLeft := by
    rw [unitRisk]
    ring
  have hopen : ¬ midPrice - inventory * unitRisk volatility timeLeft
        + halfSpread lib midPrice volatility timeLeft
      ≤ midPrice - inventory * unitRisk volatility timeLeft
        - halfSpread lib midPrice volatility timeLeft := by
    have hpos := halfSpread_pos lib volatility timeLeft hmid
    linarith
  simp only [computeQuotes, hactive, if_false, spread_eq, hshift, hopen, hround]

end Straddle

/-- **Quotes around the mid price.**  Without volatility they are around it.  Otherwise they are if the
inventory costs less than half a spread, and the bid is above zero if that leaves some of the price. -/
theorem compute_quotes_straddle_iff [IsStrictOrderedRing K] (lib : MakerLib K)
    (hround : ∀ x n, lib.round x n = x)
    (midPrice volatility inventory timeLeft equity : K) (hmid : 0 < midPrice) (hvol : 0 ≤ volatility) :
    let (bid, ask) := computeQuotes lib midPrice volatility inventory timeLeft equity
    (0 < bid ∧ bid < midPrice ∧ midPrice < ask)
      ↔ volatility = 0
        ∨ (|inventory| * unitRisk volatility timeLeft < halfSpread lib midPrice volatility timeLeft
          ∧ inventory * unitRisk volatility timeLeft + halfSpread lib midPrice volatility timeLeft
            < midPrice) := by
  rcases hvol.eq_or_lt with rfl | hpos
  · have hhalf : midPrice * (1 / ((1000 : ℕ) : K)) < midPrice :=
      mul_lt_of_lt_one_right hmid (by norm_num)
    have hsome : 0 < midPrice * (1 / ((1000 : ℕ) : K)) := mul_pos hmid (by positivity)
    rw [computeQuotes_calm le_rfl]
    simp only [true_or, iff_true]
    exact ⟨sub_pos.mpr hhalf, sub_lt_self _ hsome, lt_add_of_pos_right _ hsome⟩
  · have hcost : |inventory| * unitRisk volatility timeLeft
        = |inventory * unitRisk volatility timeLeft| := by
      rw [abs_mul inventory, abs_of_nonneg (unitRisk_nonneg (K := K))]
    rw [computeQuotes_eq hround hmid hpos]
    simp only [hpos.ne', false_or, hcost, abs_lt]
    constructor
    · rintro ⟨hbid, hunder, hover⟩
      refine ⟨⟨?_, ?_⟩, ?_⟩ <;> linarith
    · rintro ⟨⟨hlow, hhigh⟩, hleft⟩
      refine ⟨?_, ?_, ?_⟩ <;> linarith

end AvellanedaStoikov

/-! ## The maker -/

/-- `MMQuote`. -/
structure MMQuote (K : Type) where
  symbol : String
  bidPrice : K
  askPrice : K
  bidQty : K
  askQty : K
  bidOrderId : Option String
  askOrderId : Option String
  placedAt : K
  inventory : K

/-- An order at the exchange. -/
structure MMOrder where
  symbol : String
  side : OrderSide
  id : String
  deriving DecidableEq

/-- `MarketMaker`, with what it has sent to the exchange: the orders that stand or stood there, and the
ids it has cancelled. -/
structure MarketMaker (K : Type) where
  quotes : Dict String (MMQuote K)
  sessionStart : K
  placed : List MMOrder
  cancelled : List String

namespace MMQuote

/-- `[quote.bid_order_id, quote.ask_order_id]`. -/
def orderId (quote : MMQuote K) : OrderSide → Option String
  | .buy => quote.bidOrderId
  | .sell => quote.askOrderId

def price (quote : MMQuote K) : OrderSide → K
  | .buy => quote.bidPrice
  | .sell => quote.askPrice

/-- The id that is polled; an empty one is not. -/
def polled (quote : MMQuote K) (side : OrderSide) : Option String :=
  (quote.orderId side).filter (· ≠ "")

end MMQuote

/-- How the exchange answers a new order: it refuses it, accepts it, or has it and fails to say so. -/
inductive Placement
  | refused
  | accepted (id : String)
  | unanswered (id : String)

/-- One order to place: the answer, and the digits of the uuid for an id on paper. -/
structure Placing where
  hex : String
  answer : Placement

/-- One call of `run_cycle`, with its clocks and with what the exchange answers. -/
structure CycleCall (K : Type) where
  symbol : String
  equity : K
  atr : K
  inDirectionalTrade : Bool
  staleAt : K
  book : Option (List (K × K) × List (K × K))
  quotedAt : K
  placedAt : K
  bid : Placing
  ask : Placing

namespace MarketMaker

/-- `MarketMaker.__init__`. -/
def init (sessionStart : K) : MarketMaker K := ⟨∅, sessionStart, [], []⟩

/-- `_cancel_stale(symbol)`. -/
def cancelStale (symbol : String) (now : K) : EStateM PyError (MarketMaker K) Unit :=
  modify fun maker =>
    match maker.quotes.get? symbol with
    | none => maker
    | some quote =>
        if now - quote.placedAt < quoteLifetimeSecs then maker
        else
          { maker with
            quotes := maker.quotes.erase symbol
            cancelled := maker.cancelled ++
              [quote.bidOrderId, quote.askOrderId].filterMap fun id =>
                id.filter fun id => id ≠ "" ∧ ¬ id.startsWith "PAPER" }

/-- `is_viable(symbol, spread_pct, atr_rel, in_directional_trade)`. -/
def isViable (spreadPct atrRel : K) (inDirectionalTrade : Bool) : Bool :=
  if inDirectionalTrade then false
  else if spreadPct < minViableSpreadPct then false
  else if ((2 : ℕ) : K) < atrRel then false
  else true

/-- `_place_limit(symbol, side, qty, price)`: the id of the order, or none. -/
def placeLimit (mode symbol : String) (side : OrderSide) (placing : Placing) :
    EStateM PyError (MarketMaker K) (Option String) :=
  let order (id : String) : EStateM PyError (MarketMaker K) Unit :=
    modify fun maker => { maker with placed := maker.placed ++ [⟨symbol, side, id⟩] }
  if mode = "PAPER" then do
    let id := "PAPER-MM-" ++ placing.hex
    order id
    return some id
  else
    match placing.answer with
    | .refused => return none
    | .accepted id => do
        order id
        return some id
    | .unanswered id => do
        order id
        return none

/-- The second half of `run_cycle`: place both orders and remember them. -/
def quote (mode : String) (call : CycleCall K) (bidPx askPx bidQty askQty inventory : K) :
    EStateM PyError (MarketMaker K) (Option (MMQuote K)) := do
  let bidOrder ← placeLimit mode call.symbol .buy call.bid
  let askOrder ← placeLimit mode call.symbol .sell call.ask
  if (bidOrder.filter (· ≠ "")).isNone ∧ (askOrder.filter (· ≠ "")).isNone then
    return none
  let quote : MMQuote K :=
    { symbol := call.symbol, bidPrice := bidPx, askPrice := askPx, bidQty, askQty
      bidOrderId := bidOrder, askOrderId := askOrder, placedAt := call.placedAt, inventory }
  modify fun maker => { maker with quotes := maker.quotes.set call.symbol quote }
  return some quote

/-- `run_cycle(symbol, equity, atr, in_directional_trade)`. -/
def runCycle (mode : String) (lib : MakerLib K) (call : CycleCall K) :
    EStateM PyError (MarketMaker K) (Option (MMQuote K)) := do
  cancelStale call.symbol call.staleAt
  match call.book with
  | some ((bestBid, _) :: _, (bestAsk, _) :: _) => do
      let midPrice := (bestBid + bestAsk) / ((2 : ℕ) : K)
      raiseIf (midPrice = 0) zeroDivisionError
      let spreadPct := (bestAsk - bestBid) / midPrice
      let sigma := call.atr / midPrice * lib.sqrt ((365 * 96 : ℕ) : K)
      let atrRel := call.atr / midPrice * ((100 : ℕ) : K)
      if ¬ isViable spreadPct atrRel call.inDirectionalTrade then
        return none
      let maker ← get
      let inventory := (maker.quotes.get? call.symbol).elim 0 MMQuote.inventory
      if maxInventoryUsd < |inventory * midPrice| then
        return none
      let elapsed := lib.mod (call.quotedAt - maker.sessionStart) ((3600 : ℕ) : K)
      let timeLeft := max (1 / ((100 : ℕ) : K)) (1 - elapsed / ((3600 : ℕ) : K))
      let (bidPx, askPx) := AvellanedaStoikov.computeQuotes lib midPrice sigma inventory timeLeft call.equity
      let quoteUsd := call.equity * (1 / ((100 : ℕ) : K))
      raiseIf (bidPx = 0) zeroDivisionError
      let bidQty := lib.round (quoteUsd / bidPx) 6
      raiseIf (askPx = 0) zeroDivisionError
      let askQty := lib.round (quoteUsd / askPx) 6
      if bidQty * bidPx < ((10 : ℕ) : K) ∨ askQty * askPx < ((10 : ℕ) : K) then
        return none
      quote mode call bidPx askPx bidQty askQty inventory
  | _ => return none

/-- What one poll of an order adds to the profit and to the inventory. -/
def pollFill (fetchOrder : String → Option K) (quote : MMQuote K) (side : OrderSide) : K × K :=
  match (quote.polled side).bind fetchOrder with
  | none => (0, 0)
  | some filled =>
      if filled ≤ 0 then (0, 0)
      else
        let fee := filled * quote.price side * (1 / ((1000 : ℕ) : K))
        match side with
        | .buy => (-fee, filled)
        | .sell => (filled * quote.price side - fee, -filled)

/-- `check_fills(symbol)`, where `fetchOrder` is the filled quantity that the exchange reports for an
id; none, if that raises. -/
def checkFills (symbol : String) (fetchOrder : String → Option K) :
    EStateM PyError (MarketMaker K) (K × K) := do
  let maker ← get
  match maker.quotes.get? symbol with
  | none => return (0, 0)
  | some quote => do
      let (bidPnl, bought) := pollFill fetchOrder quote .buy
      let (askPnl, sold) := pollFill fetchOrder quote .sell
      let invDelta := bought + sold
      if invDelta ≠ 0 then
        modify fun maker =>
          { maker with
            quotes := maker.quotes.set symbol { quote with inventory := quote.inventory + invDelta } }
      return (bidPnl + askPnl, invDelta)

end MarketMaker

end Model

/-! ## With the logarithm -/

namespace AvellanedaStoikov

/-- The real functions; nothing is rounded. -/
noncomputable def realLib : MakerLib ℝ where
  log := Real.log
  sqrt := Real.sqrt
  round x _ := x
  mod x y := x - y * ⌊x / y⌋

lemma realLib_log_bounds :
    1 / 16 ≤ realLib.log (1 + gamma / k) ∧ realLib.log (1 + gamma / k) ≤ 1 / 15 := by
  have hratio : (1 : ℝ) + gamma / k = 16 / 15 := by norm_num [gamma, k]
  have hlow := Real.one_sub_inv_le_log_of_pos (x := 16 / 15) (by norm_num)
  have hhigh := Real.log_le_sub_one_of_pos (x := 16 / 15) (by norm_num)
  rw [hratio]
  simp only [realLib]
  constructor <;> linarith

/-- Without inventory the quotes of a coin of 100 are around it. -/
theorem compute_quotes_straddle_iff_flat :
    let (bid, ask) := computeQuotes realLib 100 1 0 (1 / 2) 10000
    0 < bid ∧ bid < 100 ∧ 100 < ask := by
  have hspread : halfSpread realLib 100 1 (1 / 2) < 100 := by
    have hlog := realLib_log_bounds.2
    rw [halfSpread, max_lt_iff]
    constructor
    · norm_num [unitRisk, gamma] at hlog ⊢
      linarith
    · norm_num [minViableSpreadPct]
  refine (compute_quotes_straddle_iff realLib (fun _ _ => rfl) 100 1 0 (1 / 2) 10000
    (by norm_num) zero_le_one).mpr (Or.inr ⟨?_, ?_⟩)
  · rw [abs_zero, zero_mul]
    exact halfSpread_pos realLib 1 (1 / 2) (by norm_num)
  · rwa [zero_mul, zero_add]

/-- A coin of half a dollar is bid below zero; a thousand coins of 100 move both quotes below the mid
price. -/
theorem compute_quotes_not_around :
    (computeQuotes realLib (1 / 2) 1 0 (1 / 2) 10000).1 < 0
      ∧ (computeQuotes realLib 100 1 1000 (1 / 2) 10000).2 < 100 := by
  obtain ⟨hlow, hhigh⟩ := realLib_log_bounds
  constructor
  · rw [computeQuotes_eq (fun _ _ => rfl) (by norm_num) one_pos]
    have hspread : 1 / 2 < halfSpread realLib (1 / 2) 1 (1 / 2) := by
      rw [halfSpread, lt_max_iff]
      left
      norm_num [unitRisk, gamma] at hlow ⊢
      linarith
    simp only [zero_mul, sub_zero]
    linarith
  · rw [computeQuotes_eq (fun _ _ => rfl) (by norm_num) one_pos]
    have hspread : halfSpread realLib 100 1 (1 / 2) < 1000 * unitRisk 1 (1 / 2) := by
      rw [halfSpread, max_lt_iff]
      constructor
      · norm_num [unitRisk, gamma] at hhigh ⊢
        linarith
      · norm_num [minViableSpreadPct, unitRisk, gamma]
    simp only
    linarith

end AvellanedaStoikov

end Aegis.Pro
