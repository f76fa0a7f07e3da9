import AegisFortress.Lib.Dict
import AegisFortress.Models.MarketData
import Mathlib.Tactic.Linarith

/-!
# The simulated exchange

`backtesting/simulated_exchange.py` with its fee and slippage models.  The exchange remembers the
latest tick and the latest order book of every symbol, and fills an order at the quote it finds.

It asks the order book first and the tick only if the book has no quote on the side, whichever came
later.  `market_fill_price` says what a market order costs after any sequence of updates, and when
that is the price of the most recent quote.
-/

namespace Aegis

section Definitions

variable {α : Type} [Add α] [Sub α] [Mul α] [Div α] [Zero α] [One α] [LT α] [LE α]
  [DecidableLT α] [DecidableLE α] [PyFloat α]

/-- `PercentageFeeModel`, with the constructor's check. -/
structure PercentageFeeModel (α : Type) [Zero α] [LT α] where
  rate : α
  rate_checked : ¬ rate < 0

/-- `PercentageFeeModel.calculate`. -/
def PercentageFeeModel.calculate (model : PercentageFeeModel α) (quantity price : α) : α :=
  if quantity ≤ 0 ∨ price ≤ 0 then 0 else quantity * price * model.rate

/-- `BasisPointSlippageModel`, with the constructor's check. -/
structure BasisPointSlippageModel (α : Type) [Zero α] [LT α] where
  bps : α
  bps_checked : ¬ bps < 0

/-- `BasisPointSlippageModel.apply`. -/
def BasisPointSlippageModel.apply (model : BasisPointSlippageModel α) (side : String)
    (referencePrice : α) : Except PyError α :=
  if referencePrice ≤ 0 then .error ⟨.valueError, "Reference price must be positive"⟩
  else
    let multiplier := model.bps / PyFloat.ofRat 10000
    if pyUpper side = "BUY" then .ok (referencePrice * (1 + multiplier))
    else if pyUpper side = "SELL" then .ok (referencePrice * (1 - multiplier))
    else .error ⟨.valueError, "side must be BUY or SELL"⟩

/-- `SimulatedExchangeOrder`. -/
structure SimulatedExchangeOrder (α : Type) where
  orderId : String
  symbol : String
  side : String
  orderType : String
  amount : α
  price : Option α
  status : String
  filled : α
  average : α
  fee : α

/-- `SimulatedExchangeOrder.to_ccxt_like_payload()`. -/
def SimulatedExchangeOrder.toCcxtLikePayload (order : SimulatedExchangeOrder α) :
    List (String × PyVal α) :=
  [("id", .str order.orderId), ("symbol", .str order.symbol), ("side", .str order.side),
    ("type", .str order.orderType), ("amount", .float order.amount),
    ("price", order.price.elim .none .float), ("status", .str order.status),
    ("filled", .float order.filled), ("average", .float order.average),
    ("fee", .dict [("cost", .float order.fee)])]

/-- `SimulatedExchange`; `nextId` is what `self._id_counter` yields next. -/
structure SimulatedExchange (α : Type) [Zero α] [LT α] where
  feeModel : PercentageFeeModel α
  slippageModel : BasisPointSlippageModel α
  ticks : Dict String (MarketTick α)
  orderbooks : Dict String (OrderBookSnapshot α)
  orders : Dict String (SimulatedExchangeOrder α)
  nextId : ℕ

namespace SimulatedExchange

/-- `SimulatedExchange(fee_model, slippage_model)`. -/
def init (feeModel : PercentageFeeModel α) (slippageModel : BasisPointSlippageModel α) :
    SimulatedExchange α := ⟨feeModel, slippageModel, ∅, ∅, ∅, 1⟩

/-- `SimulatedExchange.update_tick`. -/
def updateTick (exchange : SimulatedExchange α) (tick : MarketTick α) : SimulatedExchange α :=
  { exchange with ticks := exchange.ticks.set tick.symbol tick }

/-- `SimulatedExchange.update_orderbook`. -/
def updateOrderbook (exchange : SimulatedExchange α) (snapshot : OrderBookSnapshot α) :
    SimulatedExchange α :=
  { exchange with orderbooks := exchange.orderbooks.set snapshot.symbol snapshot }

/-- The body of `get_best_bid` and `get_best_ask`: the book's quote if it is positive, else the
tick's. -/
def bestQuote (exchange : SimulatedExchange α) (ofBook : OrderBookSnapshot α → α)
    (ofTick : MarketTick α → α) (missing : String) (symbol : String) : Except PyError α :=
  let fromTick : Except PyError α :=
    match exchange.ticks.get? symbol with
    | some tick => if 0 < ofTick tick then .ok (ofTick tick) else .error ⟨.runtimeError, missing⟩
    | none => .error ⟨.runtimeError, missing⟩
  match exchange.orderbooks.get? symbol with
  | some snapshot => if 0 < ofBook snapshot then .ok (ofBook snapshot) else fromTick
  | none => fromTick

/-- `SimulatedExchange.get_best_bid`. -/
def getBestBid (exchange : SimulatedExchange α) (symbol : String) : Except PyError α :=
  exchange.bestQuote OrderBookSnapshot.bestBid MarketTick.bid
    s!"No simulated bid available for {symbol}" symbol

/-- `SimulatedExchange.get_best_ask`. -/
def getBestAsk (exchange : SimulatedExchange α) (symbol : String) : Except PyError α :=
  exchange.bestQuote OrderBookSnapshot.bestAsk MarketTick.ask
    s!"No simulated ask available for {symbol}" symbol

/-- `SimulatedExchange._determine_fill_price`; `none` leaves the order open. -/
def determineFillPrice (exchange : SimulatedExchange α) (symbol orderType side : String)
    (limitPrice : Option α) : Except PyError (Option α) :=
  if orderType = "market" then do
    let reference ← if side = "buy" then exchange.getBestAsk symbol else exchange.getBestBid symbol
    (exchange.slippageModel.apply (pyUpper side) reference).map some
  else
    match limitPrice with
    | none => .error ⟨.valueError, "Limit order requires a positive price"⟩
    | some limitPrice =>
        if limitPrice ≤ 0 then .error ⟨.valueError, "Limit order requires a positive price"⟩
        else if side = "buy" then do
          let currentAsk ← exchange.getBestAsk symbol
          .ok (if currentAsk ≤ limitPrice then some (pyMin limitPrice currentAsk) else none)
        else do
          let currentBid ← exchange.getBestBid symbol
          .ok (if limitPrice ≤ currentBid then some (pyMax limitPrice currentBid) else none)

/-- `SimulatedExchange._build_order`. -/
def buildOrder (exchange : SimulatedExchange α) (symbol side orderType : String) (amount : α)
    (price : Option α) (status : String) (filled average fee : α) :
    SimulatedExchangeOrder α × SimulatedExchange α :=
  let orderId := s!"sim-{exchange.nextId}"
  let order := ⟨orderId, symbol, side, orderType, amount, price, status, filled, average, fee⟩
  (order,
    { exchange with orders := exchange.orders.set orderId order, nextId := exchange.nextId + 1 })

/-- `SimulatedExchange.create_order`; the caller gets the order's payload. -/
def createOrder (exchange : SimulatedExchange α) (symbol type side : String) (amount : α)
    (price : Option α) : Except PyError (SimulatedExchangeOrder α × SimulatedExchange α) :=
  if amount ≤ 0 then .error ⟨.valueError, "amount must be positive"⟩
  else if pyLower side ≠ "buy" ∧ pyLower side ≠ "sell" then
    .error ⟨.valueError, "side must be buy or sell"⟩
  else if pyLower type ≠ "market" ∧ pyLower type ≠ "limit" then
    .error ⟨.valueError, "type must be market or limit"⟩
  else do
    let executionPrice ←
      exchange.determineFillPrice symbol (pyLower type) (pyLower side) price
    match executionPrice with
    | none => .ok (exchange.buildOrder symbol (pyLower side) (pyLower type) amount price "open" 0 0 0)
    | some executionPrice =>
        let fee := exchange.feeModel.calculate amount executionPrice
        .ok (exchange.buildOrder symbol (pyLower side) (pyLower type) amount price "closed" amount
          executionPrice fee)

end SimulatedExchange

/-! ## Sequences of updates -/

/-- A call of `update_tick` or `update_orderbook`. -/
inductive MarketUpdate (α : Type)
  | tick (tick : MarketTick α)
  | orderbook (snapshot : OrderBookSnapshot α)

namespace MarketUpdate

def symbol : MarketUpdate α → String
  | .tick t => t.symbol
  | .orderbook b => b.symbol

def isOrderbook : MarketUpdate α → Bool
  | .tick _ => false
  | .orderbook _ => true

/-- What the update quotes on the side an order takes: the ask for a purchase, the bid for a sale. -/
def quote (side : OrderSide) : MarketUpdate α → α
  | .tick t => match side with
    | .buy => t.ask
    | .sell => t.bid
  | .orderbook b => match side with
    | .buy => b.bestAsk
    | .sell => b.bestBid

def apply (exchange : SimulatedExchange α) : MarketUpdate α → SimulatedExchange α
  | .tick t => exchange.updateTick t
  | .orderbook b => exchange.updateOrderbook b

end MarketUpdate

/-- The exchange after these updates, the oldest first. -/
def SimulatedExchange.updated (exchange : SimulatedExchange α) (updates : List (MarketUpdate α)) :
    SimulatedExchange α := updates.foldl MarketUpdate.apply exchange

/-- A positive number. -/
def positive (x : α) : Option α := if 0 < x then some x else none

/-- The latest update of a kind for a symbol. -/
def latest (isOrderbook : Bool) (symbol : String) (updates : List (MarketUpdate α)) :
    Option (MarketUpdate α) :=
  updates.reverse.find? fun u => u.isOrderbook = isOrderbook ∧ u.symbol = symbol

/-- The quote of the latest update of a kind for a symbol, if it is positive. -/
def latestQuote (isOrderbook : Bool) (side : OrderSide) (symbol : String)
    (updates : List (MarketUpdate α)) : Option α :=
  (latest isOrderbook symbol updates).bind fun u => positive (u.quote side)

/-- The quote of the most recent update for a symbol that has a positive one. -/
def mostRecentQuote (side : OrderSide) (symbol : String) (updates : List (MarketUpdate α)) :
    Option α :=
  (updates.reverse.find? fun u => u.symbol = symbol ∧ 0 < u.quote side).map fun u => u.quote side

/-- The quote the exchange goes by: the latest order book's, else the latest tick's. -/
def bookFirstQuote (side : OrderSide) (symbol : String) (updates : List (MarketUpdate α)) :
    Option α :=
  (latestQuote true side symbol updates).or (latestQuote false side symbol updates)

end Definitions

namespace SimulatedExchange

variable (exchange : SimulatedExchange ℚ) (updates : List (MarketUpdate ℚ)) (symbol : String)

lemma updated_concat (u : MarketUpdate ℚ) :
    exchange.updated (updates ++ [u]) = u.apply (exchange.updated updates) := by
  rw [updated, List.foldl_append]
  rfl

lemma updated_slippage : (exchange.updated updates).slippageModel = exchange.slippageModel := by
  induction updates using List.reverseRecOn with
  | nil => rfl
  | append_singleton past u ih =>
      rw [updated_concat, ← ih]
      cases u <;> rfl

lemma latest_concat (isOrderbook : Bool) (u : MarketUpdate ℚ) :
    latest isOrderbook symbol (updates ++ [u])
      = if u.isOrderbook = isOrderbook ∧ u.symbol = symbol then some u
        else latest isOrderbook symbol updates := by
  rw [latest, List.reverse_append, List.reverse_singleton, List.singleton_append, List.find?_cons]
  split_ifs with h
  · simp [h]
  · simp only [h, decide_false]
    rfl

/-- The remembered tick is the latest. -/
lemma updated_ticks (hnone : exchange.ticks = ∅) :
    ((exchange.updated updates).ticks.get? symbol).map MarketUpdate.tick
      = latest false symbol updates := by
  induction updates using List.reverseRecOn with
  | nil =>
      change (exchange.ticks.get? symbol).map MarketUpdate.tick = none
      rw [hnone]
      rfl
  | append_singleton past u ih =>
      rw [updated_concat, latest_concat, ← ih]
      cases u with
      | tick t =>
          by_cases h : t.symbol = symbol
          · subst h
            simp [MarketUpdate.apply, updateTick, MarketUpdate.isOrderbook, MarketUpdate.symbol]
          · simp [MarketUpdate.apply, updateTick, MarketUpdate.symbol, h, Dict.get?_set_of_ne _ h]
      | orderbook b => simp [MarketUpdate.apply, updateOrderbook, MarketUpdate.isOrderbook]

/-- The remembered order book is the latest. -/
lemma updated_orderbooks (hnone : exchange.orderbooks = ∅) :
    ((exchange.updated updates).orderbooks.get? symbol).map MarketUpdate.orderbook
      = latest true symbol updates := by
  induction updates using List.reverseRecOn with
  | nil =>
      change (exchange.orderbooks.get? symbol).map MarketUpdate.orderbook = none
      rw [hnone]
      rfl
  | append_singleton past u ih =>
      rw [updated_concat, latest_concat, ← ih]
      cases u with
      | tick t => simp [MarketUpdate.apply, updateTick, MarketUpdate.isOrderbook]
      | orderbook b =>
          by_cases h : b.symbol = symbol
          · subst h
            simp [MarketUpdate.apply, updateOrderbook, MarketUpdate.isOrderbook,
              MarketUpdate.symbol]
          · simp [MarketUpdate.apply, updateOrderbook, MarketUpdate.symbol, h,
              Dict.get?_set_of_ne _ h]

/-- The text of the error when there is no quote on a side. -/
def missingQuote (side : OrderSide) : PyError :=
  match side with
  | .buy => ⟨.runtimeError, s!"No simulated ask available for {symbol}"⟩
  | .sell => ⟨.runtimeError, s!"No simulated bid available for {symbol}"⟩

/-- The side of a quote, as the code asks for it. -/
def getBest (side : OrderSide) : Except PyError ℚ :=
  match side with
  | .buy => exchange.getBestAsk symbol
  | .sell => exchange.getBestBid symbol

lemma bestQuote_eq (ofBook : OrderBookSnapshot ℚ → ℚ) (ofTick : MarketTick ℚ → ℚ)
    (missing : String) : exchange.bestQuote ofBook ofTick missing symbol
      = match ((exchange.orderbooks.get? symbol).bind fun b => positive (ofBook b)).or
          ((exchange.ticks.get? symbol).bind fun t => positive (ofTick t)) with
        | some quote => .ok quote
        | none => .error ⟨.runtimeError, missing⟩ := by
  cases hbook : exchange.orderbooks.get? symbol with
  | none =>
      cases htick : exchange.ticks.get? symbol with
      | none => simp [bestQuote, hbook, htick]
      | some t => by_cases h : 0 < ofTick t <;> simp [bestQuote, hbook, htick, positive, h]
  | some b =>
      by_cases hquote : 0 < ofBook b
      · simp [bestQuote, hbook, positive, hquote]
      · cases htick : exchange.ticks.get? symbol with
        | none => simp [bestQuote, hbook, htick, positive, hquote]
        | some t =>
            by_cases h : 0 < ofTick t <;> simp [bestQuote, hbook, htick, positive, hquote, h]

/-- The exchange goes by the book first. -/
lemma getBest_updated (hticks : exchange.ticks = ∅) (hbooks : exchange.orderbooks = ∅)
    (side : OrderSide) : (exchange.updated updates).getBest symbol side
      = match bookFirstQuote side symbol updates with
        | some quote => .ok quote
        | none => .error (missingQuote symbol side) := by
  rw [bookFirstQuote, latestQuote, latestQuote, ← updated_ticks exchange updates symbol hticks,
    ← updated_orderbooks exchange updates symbol hbooks, Option.bind_map, Option.bind_map]
  cases side with
  | buy => exact bestQuote_eq _ _ _ _ _
  | sell => exact bestQuote_eq _ _ _ _ _

/-- The lower-case name of a side is what `create_order` compares. -/
lemma pyLower_side (side : OrderSide) : pyLower side.value
    = match side with
      | .buy => "buy"
      | .sell => "sell" := by
  cases side <;> decide +kernel

lemma determineFillPrice_market (side : OrderSide) (limit : Option ℚ) :
    exchange.determineFillPrice symbol "market" (pyLower side.value) limit
      = (exchange.getBest symbol side).bind fun quote =>
          (exchange.slippageModel.apply side.value quote).map some := by
  simp only [determineFillPrice, pyLower_side, ↓reduceIte]
  cases side <;> rfl

/-- A market order is filled at the slipped quote of its side. -/
lemma createOrder_market (side : OrderSide) {amount : ℚ} (hamount : 0 < amount) (limit : Option ℚ) :
    ((exchange.createOrder symbol "market" side.value amount limit).map fun r => r.1.average)
      = (exchange.getBest symbol side).bind (exchange.slippageModel.apply side.value) := by
  have hmarket : pyLower "market" = "market" := by decide +kernel
  have hside : ¬ (pyLower side.value ≠ "buy" ∧ pyLower side.value ≠ "sell") := by
    rw [pyLower_side]
    cases side <;> simp
  rw [createOrder, if_neg (not_le.mpr hamount), if_neg hside, hmarket, if_neg (by simp),
    determineFillPrice_market]
  cases exchange.getBest symbol side with
  | error e => rfl
  | ok quote =>
      simp only [Except.bind]
      cases exchange.slippageModel.apply side.value quote <;> rfl

/-- The first hit from the back is found before what stands in front of it. -/
lemma find_last {p : MarketUpdate ℚ → Bool} {before after : List (MarketUpdate ℚ)}
    {u : MarketUpdate ℚ} (hu : p u = true) (hafter : ∀ v ∈ after, p v = false) :
    (before ++ u :: after).reverse.find? p = some u := by
  have hnone : after.reverse.find? p = none := by
    rw [List.find?_eq_none]
    intro v hv
    rw [hafter v (List.mem_reverse.mp hv)]
    exact Bool.false_ne_true
  rw [List.reverse_append, List.reverse_cons, List.append_assoc, List.find?_append, hnone]
  simp [hu]

/-- **What a market order costs in a backtest.**  The slippage model applied to the quote of the
latest order book of the symbol on that side, if it is positive, and otherwise to that of the
latest tick; the order raises if neither is positive.  That is the most recent positive quote if it
stands in an order book and neither an order book of the symbol nor a positive quote in a tick has
come since. -/
theorem market_fill_price (feeModel : PercentageFeeModel ℚ)
    (slippageModel : BasisPointSlippageModel ℚ) (updates : List (MarketUpdate ℚ)) (symbol : String)
    (side : OrderSide) (amount : ℚ) (hamount : 0 < amount) (limit : Option ℚ) :
    let result := ((init feeModel slippageModel).updated updates).createOrder symbol "market"
      side.value amount limit
    (result.map fun r => r.1.average)
        = (match bookFirstQuote side symbol updates with
          | none => .error (missingQuote symbol side)
          | some quote => slippageModel.apply side.value quote)
      ∧ ∀ before u after, updates = before ++ u :: after → u.isOrderbook = true →
          u.symbol = symbol → 0 < u.quote side →
          (∀ v ∈ after, v.symbol = symbol → v.isOrderbook = false ∧ ¬ 0 < v.quote side) →
          bookFirstQuote side symbol updates = mostRecentQuote side symbol updates := by
  intro result
  refine ⟨?_, ?_⟩
  · change ((((init feeModel slippageModel).updated updates).createOrder symbol "market" side.value
      amount limit).map fun r => r.1.average) = _
    rw [createOrder_market _ symbol side hamount limit, getBest_updated _ _ _ rfl rfl,
      updated_slippage]
    cases bookFirstQuote side symbol updates <;> rfl
  · rintro before u after rfl hbook hsymbol hquote hafter
    have hlatest : latest true symbol (before ++ u :: after) = some u := by
      refine find_last (by simp [hbook, hsymbol]) ?_
      intro v hv
      by_cases hsame : v.symbol = symbol
      · simp [(hafter v hv hsame).1]
      · simp [hsame]
    have hrecent : (before ++ u :: after).reverse.find?
        (fun v => v.symbol = symbol ∧ 0 < v.quote side) = some u := by
      refine find_last (by simp [hsymbol, hquote]) ?_
      intro v hv
      by_cases hsame : v.symbol = symbol
      · simp [(hafter v hv hsame).2]
      · simp [hsame]
    rw [bookFirstQuote, latestQuote, hlatest, mostRecentQuote, hrecent]
    simp [positive, hquote]

def demoFee : PercentageFeeModel ℚ := ⟨1 / 2500, by decide +kernel⟩

def demoSlippage : BasisPointSlippageModel ℚ := ⟨2, by decide +kernel⟩

/-- The book asks 100; later a tick asks 110. -/
def demoUpdates : List (MarketUpdate ℚ) :=
  [.orderbook ⟨"BTC/USDT", "SIM", [⟨99, 1⟩], [⟨100, 1⟩], none, ⟨0⟩⟩,
    .tick ⟨"BTC/USDT", "SIM", 109, 110, 110, 0, ⟨1⟩⟩]

theorem market_fill_price_demo :
    ((((init demoFee demoSlippage).updated demoUpdates).createOrder "BTC/USDT" "market" "BUY" 1
        none).map fun r => r.1.average)
      = (match bookFirstQuote .buy "BTC/USDT" demoUpdates with
        | none => .error (missingQuote "BTC/USDT" .buy)
        | some quote => demoSlippage.apply "BUY" quote) :=
  (market_fill_price demoFee demoSlippage demoUpdates "BTC/USDT" .buy 1 one_pos none).1

/-- The order is filled at the older quote. -/
theorem stale_quote_filled :
    mostRecentQuote .buy "BTC/USDT" demoUpdates = some 110
      ∧ ((((init demoFee demoSlippage).updated demoUpdates).createOrder "BTC/USDT" "market" "BUY" 1
          none).map fun r => r.1.average) = demoSlippage.apply "BUY" 100
      ∧ demoSlippage.apply "BUY" 100 ≠ demoSlippage.apply "BUY" 110 := by
  refine ⟨?_, ?_, ?_⟩ <;> decide +kernel

end SimulatedExchange

end Aegis
