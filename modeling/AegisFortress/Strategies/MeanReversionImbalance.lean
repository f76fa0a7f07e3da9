import AegisFortress.Feeds.MarketDataNormalizer
import AegisFortress.Lib.Dispersion
import AegisFortress.Lib.Raising
import AegisFortress.Models.Signal
import AegisFortress.Portfolio.PositionLedger
import AegisFortress.Python.Builtins
import AegisFortress.Risk.KillSwitch
import Mathlib.Data.Rat.Sqrt

/-!
# The mean reversion strategy

`strategies/mean_reversion_imbalance.py`.  The strategy keeps the last mid prices of every symbol.
When a mid is far below their mean and the order book leans towards buyers it asks for an entry;
when it holds a position it asks for an exit once the position has earned, lost or waited enough.

A call reads the ledger and the kill switch, changes the strategy's own dictionaries and may raise.
The counters that only `metrics` shows are left out.
-/

namespace Aegis

/-! ## The constructor -/

/-- The arguments of the constructor, less the ledger and the kill switch. -/
structure MeanReversionSettings (α : Type) [Zero α] [PyFloat α] where
  targetNotional : α
  maxPositionNotional : α
  rollingWindow : ℤ
  minObservations : ℤ
  entryZscore : α
  exitZscore : α
  imbalanceThreshold : α
  maxSpreadBps : α
  cooldownSeconds : α
  orderTypeText : String := "MARKET"
  minOrderNotional : α := 0
  takeProfitBps : α := PyFloat.ofRat 60
  stopLossBps : α := PyFloat.ofRat 35
  minProfitAfterFeeBps : α := PyFloat.ofRat 18
  maxHoldSeconds : α := PyFloat.ofRat 900
  cooldownAfterExitSeconds : α := PyFloat.ofRat 900
  lossCooldownSeconds : α := PyFloat.ofRat 3600
  badSymbolDropBps : α := PyFloat.ofRat 1200

section Settings

variable {α : Type} [Zero α] [One α] [LT α] [LE α] [DecidableLT α] [DecidableLE α] [PyFloat α]

namespace MeanReversionSettings

variable (settings : MeanReversionSettings α)

/-- The checks of the constructor, each with the text of its `ValueError`. -/
def checks : List (Bool × String) :=
  [(settings.targetNotional ≤ 0, "target_notional must be positive"),
    (settings.maxPositionNotional ≤ 0, "max_position_notional must be positive"),
    (settings.minOrderNotional < 0, "min_order_notional cannot be negative"),
    (settings.maxPositionNotional < settings.minOrderNotional,
      "max_position_notional must cover min_order_notional"),
    (settings.rollingWindow < 5, "rolling_window must be at least 5"),
    (settings.minObservations < 5, "min_observations must be at least 5"),
    (settings.rollingWindow < settings.minObservations,
      "min_observations cannot exceed rolling_window"),
    (settings.entryZscore ≤ 0, "entry_zscore must be positive"),
    (settings.exitZscore < 0, "exit_zscore cannot be negative"),
    (settings.entryZscore ≤ settings.exitZscore, "exit_zscore must be smaller than entry_zscore"),
    (¬ (0 < settings.imbalanceThreshold ∧ settings.imbalanceThreshold ≤ 1),
      "imbalance_threshold must be in (0, 1]"),
    (settings.maxSpreadBps ≤ 0, "max_spread_bps must be positive"),
    (settings.cooldownSeconds < 0, "cooldown_seconds cannot be negative"),
    (settings.takeProfitBps ≤ 0, "take_profit_bps must be positive"),
    (settings.stopLossBps ≤ 0, "stop_loss_bps must be positive"),
    (settings.minProfitAfterFeeBps < 0, "min_profit_after_fee_bps cannot be negative"),
    (settings.maxHoldSeconds < 0, "max_hold_seconds cannot be negative"),
    (settings.cooldownAfterExitSeconds < 0, "cooldown_after_exit_seconds cannot be negative"),
    (settings.lossCooldownSeconds < 0, "loss_cooldown_seconds cannot be negative"),
    (settings.badSymbolDropBps < 0, "bad_symbol_drop_bps cannot be negative"),
    (pyUpper settings.orderTypeText ∉ ["MARKET", "LIMIT"], "order_type must be MARKET or LIMIT")]

/-- The text of the first check that fails. -/
def rejection : Option String := (settings.checks.find? Prod.fst).map Prod.snd

end MeanReversionSettings

/-- `MeanReversionImbalanceStrategy`, less what is state, with the environment it reads its knobs
from and the square root `statistics.pstdev` takes. -/
structure MeanReversionImbalanceStrategy (α : Type) [Zero α] [One α] [LT α] [LE α] [DecidableLT α]
    [DecidableLE α] [PyFloat α] extends MeanReversionSettings α where
  checked : toMeanReversionSettings.rejection = none
  getenv : Environ
  sqrt : α → α

/-- `MeanReversionImbalanceStrategy(...)`. -/
def MeanReversionImbalanceStrategy.init (settings : MeanReversionSettings α) (getenv : Environ)
    (sqrt : α → α) : Except PyError (MeanReversionImbalanceStrategy α) :=
  match h : settings.rejection with
  | none => .ok { settings with checked := h, getenv, sqrt }
  | some message => .error ⟨.valueError, message⟩

end Settings

section Accepted

variable {α : Type} [Zero α] [One α] [LinearOrder α] [PyFloat α]

/-- What the constructor has checked. -/
structure MeanReversionSettings.Accepted (settings : MeanReversionSettings α) : Prop where
  target : 0 < settings.targetNotional
  most : 0 < settings.maxPositionNotional
  least : 0 ≤ settings.minOrderNotional
  covers : settings.minOrderNotional ≤ settings.maxPositionNotional
  window : 5 ≤ settings.rollingWindow
  observations : 5 ≤ settings.minObservations
  observed : settings.minObservations ≤ settings.rollingWindow
  entry : 0 < settings.entryZscore
  exit : 0 ≤ settings.exitZscore
  apart : settings.exitZscore < settings.entryZscore
  imbalance : 0 < settings.imbalanceThreshold ∧ settings.imbalanceThreshold ≤ 1
  spread : 0 < settings.maxSpreadBps
  cooldown : 0 ≤ settings.cooldownSeconds
  takeProfit : 0 < settings.takeProfitBps
  stopLoss : 0 < settings.stopLossBps
  minProfit : 0 ≤ settings.minProfitAfterFeeBps
  maxHold : 0 ≤ settings.maxHoldSeconds
  exitCooldown : 0 ≤ settings.cooldownAfterExitSeconds
  lossCooldown : 0 ≤ settings.lossCooldownSeconds
  drop : 0 ≤ settings.badSymbolDropBps
  orderType : pyUpper settings.orderTypeText ∈ ["MARKET", "LIMIT"]

/-- A strategy that has been constructed has passed every check. -/
lemma MeanReversionImbalanceStrategy.accepted (strategy : MeanReversionImbalanceStrategy α) :
    strategy.toMeanReversionSettings.Accepted := by
  have hpassed : ∀ check ∈ strategy.checks, ¬ check.1 = true := by
    have hchecked := strategy.checked
    rw [MeanReversionSettings.rejection, Option.map_eq_none_iff] at hchecked
    exact List.find?_eq_none.mp hchecked
  simp only [MeanReversionSettings.checks, List.forall_mem_cons, decide_eq_true_eq, not_le, not_lt,
    not_not] at hpassed
  obtain ⟨h1, h2, h3, h4, h5, h6, h7, h8, h9, h10, h11, h12, h13, h14, h15, h16, h17, h18, h19, h20,
    h21, -⟩ := hpassed
  exact ⟨h1, h2, h3, h4, h5, h6, h7, h8, h9, h10, h11, h12, h13, h14, h15, h16, h17, h18, h19, h20,
    h21⟩

end Accepted

/-! ## The state -/

/-- The dictionaries of the strategy; the newest value of a history stands last. -/
structure StrategyState (α : Type) where
  midHistory : Dict String (List α)
  imbalanceHistory : Dict String (List α)
  lastEntrySignalAt : Dict String α
  lastExitSignalAt : Dict String α
  positionSeenAt : Dict String α
  blockedUntil : Dict String α

/-- The state of a new strategy. -/
def StrategyState.init {α : Type} : StrategyState α := ⟨∅, ∅, ∅, ∅, ∅, ∅⟩

/-- What `time.monotonic()` returns while one order book is handled, named after what is done with
it, in the order of the calls. -/
structure Monotonic (α : Type) where
  symbolBlocked : α
  cooldown : α
  seen : α
  age : α
  ageDefault : α
  signal : α
  block : α

/-- The clock readings of a call do not go back, not before the time of the last one either. -/
def Monotonic.Follows {α : Type} [LE α] (now : α) (clock : Monotonic α) : Prop :=
  now ≤ clock.symbolBlocked ∧ clock.symbolBlocked ≤ clock.cooldown ∧ clock.cooldown ≤ clock.seen
    ∧ clock.seen ≤ clock.age ∧ clock.age ≤ clock.ageDefault ∧ clock.ageDefault ≤ clock.signal
    ∧ clock.signal ≤ clock.block

instance {α : Type} [LE α] [DecidableLE α] (now : α) (clock : Monotonic α) :
    Decidable (clock.Follows now) :=
  inferInstanceAs (Decidable (_ ∧ _ ∧ _ ∧ _ ∧ _ ∧ _ ∧ _))

/-- Why a position is to be closed. -/
inductive ExitReason
  | takeProfit
  | stopLoss
  | meanReversionProfit
  | timeStop
  deriving DecidableEq, Repr

def ExitReason.value : ExitReason → String
  | takeProfit => "take_profit"
  | stopLoss => "stop_loss"
  | meanReversionProfit => "mean_reversion_profit"
  | timeStop => "time_stop"

/-- Strategy code: it changes the strategy's dictionaries and may raise. -/
abbrev StrategyCode (α : Type) := EStateM PyError (StrategyState α)

section Definitions

variable {α : Type} [Add α] [Sub α] [Mul α] [Div α] [Neg α] [Zero α] [One α] [LT α] [LE α]
  [DecidableLT α] [DecidableLE α] [DecidableEq α] [PyFloat α] [PyRound α]

/-! ## Statistics of a history -/

/-- `statistics.mean(values)`. -/
def mean (values : List α) : α := values.foldl (· + ·) 0 / PyFloat.ofRat values.length

/-- `statistics.pvariance(values)`. -/
def pvariance (values : List α) : α :=
  mean (values.map fun value => (value - mean values) * (value - mean values))

/-- `_recent_return_bps(history)`. -/
def recentReturnBps (history : List α) : α :=
  match history with
  | first :: second :: rest =>
      if first ≤ 0 then 0
      else ((second :: rest).getLast (List.cons_ne_nil second rest) - first) / first
        * PyFloat.ofRat 10000
  | _ => 0

/-- `_expected_edge_bps(history, mid_price)`. -/
def expectedEdgeBps (history : List α) (midPrice : α) : α :=
  if history.isEmpty ∨ midPrice ≤ 0 then 0
  else if mean history ≤ midPrice then 0
  else (mean history - midPrice) / midPrice * PyFloat.ofRat 10000

/-! ## Reading a payload -/

/-- `str(payload.get("symbol", "")).strip()`. -/
def symbolOf (payload : List (String × PyVal α)) : String :=
  pyStrip ((payload.lookup "symbol").getD (.str "")).toStr

/-- `float(payload.get(key, 0.0))`. -/
def floatOf (payload : List (String × PyVal α)) (key : String) : Except PyError α :=
  ((payload.lookup key).getD (.float 0)).toFloat

/-- The last price of a payload, when it is positive. -/
def extractLast (payload : List (String × PyVal α)) : α :=
  match (PyVal.get payload "last").toFloat with
  | .ok last => if 0 < last then last else 0
  | .error _ => 0

/-- The middle of the two sides of a payload, or its last price. -/
def extractQuote (payload : List (String × PyVal α)) : α :=
  let bid := (PyVal.get payload "bid").orElse (PyVal.get payload "best_bid")
  let ask := (PyVal.get payload "ask").orElse (PyVal.get payload "best_ask")
  match bid.toFloat, ask.toFloat with
  | .ok bid, .ok ask =>
      if 0 < bid ∧ 0 < ask then (bid + ask) / PyFloat.ofRat 2 else extractLast payload
  | _, _ => extractLast payload

/-- `_extract_mid_price(payload)`. -/
def extractMidPrice (payload : List (String × PyVal α)) : α :=
  match (PyVal.get payload "mid_price").number? with
  | some mid => if 0 < mid then mid else extractQuote payload
  | none => extractQuote payload

/-- `_extract_spread_bps(orderbook, mid_price)`. -/
def extractSpreadBps (orderbook : List (String × PyVal α)) (midPrice : α) : α :=
  match (PyVal.get orderbook "spread_bps").number? with
  | some spreadBps => spreadBps
  | none =>
      match (PyVal.get orderbook "spread").toFloat with
      | .ok spread =>
          if 0 ≤ spread ∧ 0 < midPrice then spread / midPrice * PyFloat.ofRat 10000 else 0
      | .error _ => 0

namespace MeanReversionImbalanceStrategy

variable (strategy : MeanReversionImbalanceStrategy α)

/-! ## The knobs -/

/-- `_float_env(name, default)`. -/
def floatEnv (name : String) (default : α) : α :=
  match strategy.getenv name with
  | none => default
  | some raw =>
      if pyStrip raw = "" then default else ((floatOfString raw).map PyFloat.ofRat).getD default

/-- `_int_env(name, default)`. -/
def intEnv (name : String) (default : ℤ) : ℤ :=
  match strategy.getenv name with
  | none => default
  | some raw => if pyStrip raw = "" then default else (intOfFloatString raw).getD default

/-- `_bool_env(name, default)`. -/
def boolEnv (name : String) (default : Bool) : Bool := (strategy.getenv name).elim default isOn

/-- `OrderType(normalized_order_type)`. -/
def orderType : OrderType :=
  if pyUpper strategy.orderTypeText = "LIMIT" then .limit else .market

def takerFeeBps : α := strategy.floatEnv "AEGIS_STRATEGY_TAKER_FEE_BPS" 0

def slippageBps : α := strategy.floatEnv "AEGIS_STRATEGY_SLIPPAGE_BPS" 0

def expectedEdgeMultiplier : α := strategy.floatEnv "AEGIS_STRATEGY_EXPECTED_EDGE_MULTIPLIER" 1

def roundTripCostBps : α :=
  pyMax 0 (strategy.takerFeeBps * PyFloat.ofRat 2 + strategy.slippageBps)

def requiredMinProfitBps : α :=
  pyMax strategy.minProfitAfterFeeBps
    (strategy.roundTripCostBps + strategy.floatEnv "AEGIS_STRATEGY_PROFIT_BUFFER_BPS" 0)

def requiredExpectedEdgeBps : α :=
  pyMax strategy.requiredMinProfitBps (strategy.roundTripCostBps * strategy.expectedEdgeMultiplier)

def imbalanceConfirmSnapshots : ℤ :=
  max 1 (strategy.intEnv "AEGIS_STRATEGY_IMBALANCE_CONFIRM_SNAPSHOTS" 1)

def dynamicStopEnabled : Bool := strategy.boolEnv "AEGIS_STRATEGY_DYNAMIC_STOP_ENABLED" false

def dynamicStopMinBps : α :=
  strategy.floatEnv "AEGIS_STRATEGY_DYNAMIC_STOP_MIN_BPS" strategy.stopLossBps

def dynamicStopMaxBps : α :=
  strategy.floatEnv "AEGIS_STRATEGY_DYNAMIC_STOP_MAX_BPS" strategy.stopLossBps

def dynamicStopMultiplier : α :=
  strategy.floatEnv "AEGIS_STRATEGY_DYNAMIC_STOP_MULTIPLIER" (PyFloat.ofRat (3 / 2))

def dynamicStopLookback : ℤ := max 5 (strategy.intEnv "AEGIS_STRATEGY_DYNAMIC_STOP_LOOKBACK" 20)

def btcFilterEnabled : Bool := strategy.boolEnv "AEGIS_BTC_FILTER_ENABLED" false

def btcFilterRequireData : Bool := strategy.boolEnv "AEGIS_BTC_FILTER_REQUIRE_DATA" false

def btcSymbol : String :=
  let named := pyStrip ((strategy.getenv "AEGIS_BTC_FILTER_SYMBOL").getD "BTC/USDT")
  if named = "" then "BTC/USDT" else named

def tradeBtcSymbol : Bool := strategy.boolEnv "AEGIS_TRADE_BTC_SYMBOL" true

def btcMinObservations : ℤ := max 5 (strategy.intEnv "AEGIS_BTC_FILTER_MIN_OBSERVATIONS" 10)

def btcDangerDropBps : α :=
  strategy.floatEnv "AEGIS_BTC_FILTER_DANGER_DROP_BPS" (PyFloat.ofRat 40)

def btcVolatilityMaxBps : α :=
  strategy.floatEnv "AEGIS_BTC_FILTER_MAX_VOLATILITY_BPS" (PyFloat.ofRat 80)

/-- `allow_short_entries`, asked at every entry. -/
def allowShortEntries : Bool := isOn ((strategy.getenv "AEGIS_ALLOW_SHORT_ENTRIES").getD "false")

/-! ## The figures behind a decision -/

/-- `statistics.pstdev(values)`. -/
def pstdev (values : List α) : α := strategy.sqrt (pvariance values)

/-- `_zscore(history, current_value)`. -/
def zscore (history : List α) (currentValue : α) : α :=
  if strategy.pstdev history ≤ PyFloat.ofRat (1 / 10 ^ 12) then 0
  else (currentValue - mean history) / strategy.pstdev history

/-- `_volatility_bps(history, lookback)`. -/
def volatilityBps (history : Option (List α)) (lookback : ℤ) : α :=
  match history with
  | none => 0
  | some history =>
      let values := history.drop (history.length - (max 2 lookback).toNat)
      if values.length < 2 then 0
      else if mean values ≤ 0 then 0
      else strategy.pstdev values / mean values * PyFloat.ofRat 10000

/-- `_confidence(zscore)`. -/
def confidence (zscore : α) : α :=
  pyMin 1 (pyAbs zscore / pyMax strategy.entryZscore (PyFloat.ofRat (1 / 10 ^ 12)))

/-- `_fee_adjusted_take_profit_bps()`. -/
def feeAdjustedTakeProfitBps : α :=
  pyMax strategy.takeProfitBps (strategy.roundTripCostBps + strategy.requiredMinProfitBps)

/-- `_dynamic_stop_loss_bps(history)`. -/
def dynamicStopLossBps (history : Option (List α)) : α :=
  if strategy.dynamicStopEnabled then
    let raw := strategy.volatilityBps history strategy.dynamicStopLookback
      * strategy.dynamicStopMultiplier
    pyMax strategy.dynamicStopMinBps (pyMin strategy.dynamicStopMaxBps raw)
  else strategy.stopLossBps

/-- `_entry_quantity(mid_price)`. -/
def entryQuantity (midPrice : α) : α :=
  if midPrice ≤ 0 then 0
  else
    let boundedNotional :=
      pyMin (pyMax strategy.targetNotional strategy.minOrderNotional) strategy.maxPositionNotional
    if boundedNotional < strategy.minOrderNotional then 0
    else PyRound.round 8 (boundedNotional / midPrice)

/-- `_entry_price(side, best_bid, best_ask)`. -/
def entryPrice (side : OrderSide) (bestBid bestAsk : α) : Option α :=
  match strategy.orderType, side with
  | .market, _ => none
  | .limit, .buy => if 0 < bestBid then some bestBid else none
  | .limit, .sell => if 0 < bestAsk then some bestAsk else none

/-- `_btc_market_ok()`. -/
def btcMarketOk (state : StrategyState α) : Bool :=
  if strategy.btcFilterEnabled then
    match state.midHistory.get? strategy.btcSymbol with
    | none => !strategy.btcFilterRequireData
    | some history =>
        if history.length < strategy.btcMinObservations then !strategy.btcFilterRequireData
        else if recentReturnBps history ≤ -pyAbs strategy.btcDangerDropBps then false
        else if strategy.btcVolatilityMaxBps
            ≤ strategy.volatilityBps (some history) strategy.btcMinObservations then false
        else true
  else true

/-! ## Cooldowns and blocks -/

/-- `_is_on_cooldown(symbol, store, seconds)`. -/
def isOnCooldown (now : α) (symbol : String) (store : Dict String α) (seconds : α) : Bool :=
  if seconds ≤ 0 then false
  else
    match store.get? symbol with
    | none => false
    | some lastSignalAt => now - lastSignalAt < seconds

/-- `_is_entry_on_cooldown(symbol)`. -/
def isEntryOnCooldown (now : α) (state : StrategyState α) (symbol : String) : Bool :=
  isOnCooldown now symbol state.lastEntrySignalAt strategy.cooldownSeconds

/-- `max(5.0, min(self.cooldown_seconds, 30.0))`. -/
def exitCooldownSeconds : α :=
  pyMax (PyFloat.ofRat 5) (pyMin strategy.cooldownSeconds (PyFloat.ofRat 30))

/-- `_is_exit_on_cooldown(symbol)`. -/
def isExitOnCooldown (now : α) (state : StrategyState α) (symbol : String) : Bool :=
  isOnCooldown now symbol state.lastExitSignalAt strategy.exitCooldownSeconds

/-- `_block_symbol(symbol, seconds, reason)`. -/
def blockSymbol (now : α) (symbol : String) (seconds : α) (state : StrategyState α) :
    StrategyState α :=
  if seconds ≤ 0 then state
  else
    { state with
      blockedUntil := state.blockedUntil.set symbol
        (pyMax (state.blockedUntil.getD symbol 0) (now + seconds)) }

/-- `_is_symbol_blocked(symbol)`: a block that has run out is forgotten. -/
def isSymbolBlocked (now : α) (symbol : String) : StrategyCode α Bool := do
  let state ← get
  match state.blockedUntil.get? symbol with
  | none => pure false
  | some blockedUntil =>
      if blockedUntil ≤ now then do
        modify fun state => { state with blockedUntil := state.blockedUntil.erase symbol }
        pure false
      else pure true

/-! ## Entries -/

/-- The history of imbalances with one more. -/
def imbalances (state : StrategyState α) (symbol : String) (imbalance : α) : List α :=
  dequeAppend strategy.imbalanceConfirmSnapshots (state.imbalanceHistory.getD symbol []) imbalance

/-- `_imbalance_confirmed(symbol, imbalance, positive=True)`, the only way it is called. -/
def imbalanceConfirmed (symbol : String) (imbalance : α) : StrategyCode α Bool := do
  let state ← get
  let history := strategy.imbalances state symbol imbalance
  modify fun state =>
    { state with imbalanceHistory := state.imbalanceHistory.set symbol history }
  pure (¬ (history.length : ℤ) < strategy.imbalanceConfirmSnapshots
    ∧ ∀ value ∈ history, strategy.imbalanceThreshold ≤ value)

/-- The signal of an entry. -/
def entrySignal (side : OrderSide) (symbol : String)
    (midPrice bestBid bestAsk zscore imbalance : α) : TradeSignal α where
  symbol := symbol
  side := side
  quantity := strategy.entryQuantity midPrice
  orderType := strategy.orderType
  price := strategy.entryPrice side bestBid bestAsk
  strategyId := some "mean_reversion_imbalance"
  reason := some (s!"{side.value} entry: zscore={PyFloat.fixed 4 zscore}, "
    ++ s!"imbalance={PyFloat.fixed 4 imbalance}")
  confidence := some (strategy.confidence zscore)

/-- `_build_entry_signal(...)`. -/
def buildEntrySignal (symbol : String)
    (midPrice bestBid bestAsk zscore imbalance expectedEdgeBps : α) :
    StrategyCode α (Option (TradeSignal α)) :=
  if strategy.entryQuantity midPrice ≤ 0 then pure none
  else if zscore ≤ -strategy.entryZscore then
    if expectedEdgeBps < strategy.requiredExpectedEdgeBps then pure none
    else do
      let confirmed ← strategy.imbalanceConfirmed symbol imbalance
      if ¬ confirmed then pure none
      else if imbalance < strategy.imbalanceThreshold then pure none
      else
        pure (some (strategy.entrySignal .buy symbol midPrice bestBid bestAsk zscore imbalance))
  else if strategy.allowShortEntries ∧ strategy.entryZscore ≤ zscore
      ∧ imbalance ≤ -strategy.imbalanceThreshold then
    pure (some (strategy.entrySignal .sell symbol midPrice bestBid bestAsk zscore imbalance))
  else pure none

/-- `on_orderbook` when nothing is held. -/
def onFlat (clock : Monotonic α) (orderbook : List (String × PyVal α)) (symbol : String)
    (history : List α) (midPrice zscore imbalance : α) : StrategyCode α (List (TradeSignal α)) := do
  modify fun state => { state with positionSeenAt := state.positionSeenAt.erase symbol }
  let blocked ← isSymbolBlocked clock.symbolBlocked symbol
  let state ← get
  if blocked then pure []
  else if recentReturnBps history ≤ -strategy.badSymbolDropBps then do
    modify (blockSymbol clock.block symbol strategy.lossCooldownSeconds)
    pure []
  else if strategy.isEntryOnCooldown clock.cooldown state symbol then pure []
  else if ¬ strategy.btcMarketOk state then pure []
  else do
    let bestBid ← Raising.lift (floatOf orderbook "best_bid")
    let bestAsk ← Raising.lift (floatOf orderbook "best_ask")
    let signal ← strategy.buildEntrySignal symbol midPrice bestBid bestAsk zscore imbalance
      (expectedEdgeBps history midPrice)
    match signal with
    | none => pure []
    | some signal => do
        modify fun state =>
          { state with lastEntrySignalAt := state.lastEntrySignalAt.set symbol clock.signal }
        pure [signal]

/-! ## Exits -/

/-- The exit rules, in the order they are tried. -/
def exitReason (stopLossBps pnlBps age : α) (reverted : Prop) [Decidable reverted] :
    Option ExitReason :=
  if strategy.feeAdjustedTakeProfitBps ≤ pnlBps then some .takeProfit
  else if pnlBps ≤ -stopLossBps then some .stopLoss
  else if reverted ∧ strategy.requiredMinProfitBps ≤ pnlBps then some .meanReversionProfit
  else if 0 < strategy.maxHoldSeconds ∧ strategy.maxHoldSeconds ≤ age ∧ 0 ≤ pnlBps then
    some .timeStop
  else none

/-- The signal of an exit. -/
def exitSignal (side : OrderSide) (kind : String) (symbol : String) (reason : ExitReason)
    (quantity bestBid bestAsk pnlBps zscore : α) : TradeSignal α where
  symbol := symbol
  side := side
  quantity := pyAbs quantity
  orderType := strategy.orderType
  price := strategy.entryPrice side bestBid bestAsk
  strategyId := some "mean_reversion_imbalance"
  reason := some (s!"{side.value} exit {kind} ({reason.value}): "
    ++ s!"pnl_bps={PyFloat.fixed 2 pnlBps}, zscore={PyFloat.fixed 4 zscore}")
  confidence := some 1

/-- `_build_exit_signal(...)`. -/
def buildExitSignal (clock : Monotonic α) (state : StrategyState α) (symbol : String)
    (position : Position α) (bestBid bestAsk midPrice zscore : α) :
    Option (TradeSignal α × ExitReason) :=
  let entryPrice := position.averageEntry
  let stopLossBps := strategy.dynamicStopLossBps (state.midHistory.get? symbol)
  let age := clock.age - state.positionSeenAt.getD symbol clock.ageDefault
  if entryPrice ≤ 0 then none
  else if 0 < position.quantity then
    let exitPrice := if 0 < bestBid then bestBid else midPrice
    let pnlBps := (exitPrice - entryPrice) / entryPrice * PyFloat.ofRat 10000
    (strategy.exitReason stopLossBps pnlBps age (-strategy.exitZscore ≤ zscore)).map fun reason =>
      (strategy.exitSignal .sell "long" symbol reason position.quantity bestBid bestAsk pnlBps
        zscore, reason)
  else if position.quantity < 0 then
    let exitPrice := if 0 < bestAsk then bestAsk else midPrice
    let pnlBps := (entryPrice - exitPrice) / entryPrice * PyFloat.ofRat 10000
    (strategy.exitReason stopLossBps pnlBps age (zscore ≤ strategy.exitZscore)).map fun reason =>
      (strategy.exitSignal .buy "short" symbol reason position.quantity bestBid bestAsk pnlBps
        zscore, reason)
  else none

/-- How long a symbol is blocked after an exit. -/
def blockAfter : ExitReason → α
  | .takeProfit => strategy.cooldownAfterExitSeconds
  | .stopLoss => strategy.lossCooldownSeconds
  | .meanReversionProfit => 0
  | .timeStop => strategy.cooldownAfterExitSeconds

/-- `on_orderbook` when a position is open. -/
def onOpen (clock : Monotonic α) (orderbook : List (String × PyVal α)) (symbol : String)
    (position : Position α) (midPrice zscore : α) : StrategyCode α (List (TradeSignal α)) := do
  let state ← get
  if strategy.isExitOnCooldown clock.cooldown state symbol then pure []
  else do
    modify fun state =>
      { state with
        positionSeenAt :=
          state.positionSeenAt.set symbol (state.positionSeenAt.getD symbol clock.seen) }
    let bestBid ← Raising.lift (floatOf orderbook "best_bid")
    let bestAsk ← Raising.lift (floatOf orderbook "best_ask")
    let state ← get
    match strategy.buildExitSignal clock state symbol position bestBid bestAsk midPrice zscore with
    | none => pure []
    | some (signal, reason) => do
        modify fun state =>
          { state with lastExitSignalAt := state.lastExitSignalAt.set symbol clock.signal }
        -- a profit taken by mean reversion blocks nothing
        modify (blockSymbol clock.block symbol (strategy.blockAfter reason))
        pure [signal]

/-! ## Market events -/

/-- `_append_mid(symbol, mid_price)`. -/
def appendMid (symbol : String) (midPrice : α) (state : StrategyState α) : StrategyState α :=
  { state with
    midHistory := state.midHistory.set symbol
      (dequeAppend strategy.rollingWindow (state.midHistory.getD symbol []) midPrice) }

/-- The position the strategy sees in a symbol: none when its quantity is zero. -/
def openPosition (ledger : PositionLedger α) (symbol : String) : Option (Position α) :=
  (ledger.getPosition symbol).filter fun position => position.quantity ≠ 0

/-- `payload.get` of what is no dictionary. -/
def noDictionary (payload : PyVal α) : PyError :=
  ⟨.other, s!"'{payload.typeName}' object has no attribute 'get'"⟩

/-- `on_orderbook` once the payload is known to be a dictionary. -/
def onBook (ledger : PositionLedger α) (clock : Monotonic α)
    (orderbook : List (String × PyVal α)) : StrategyCode α (List (TradeSignal α)) :=
  let symbol := symbolOf orderbook
  let midPrice := extractMidPrice orderbook
  if symbol = "" ∨ midPrice ≤ 0 then pure []
  else do
    modify (strategy.appendMid symbol midPrice)
    let state ← get
    let history := state.midHistory.getD symbol []
    if (history.length : ℤ) < strategy.minObservations then pure []
    else if strategy.maxSpreadBps < extractSpreadBps orderbook midPrice then pure []
    else do
      let zscore := strategy.zscore history midPrice
      let imbalance ← Raising.lift (floatOf orderbook "imbalance")
      -- BTC may be watched without being traded
      if symbol = strategy.btcSymbol ∧ ¬ strategy.tradeBtcSymbol then pure []
      else
        match openPosition ledger symbol with
        | none => strategy.onFlat clock orderbook symbol history midPrice zscore imbalance
        | some position => strategy.onOpen clock orderbook symbol position midPrice zscore

/-- `on_orderbook(orderbook)`. -/
def onOrderbook (ledger : PositionLedger α) (killSwitch : KillSwitch α) (clock : Monotonic α)
    (orderbook : PyVal α) : StrategyCode α (List (TradeSignal α)) :=
  if killSwitch.isActive then
    match orderbook with
    | .dict items => strategy.onBook ledger clock items
    | _ => throw (noDictionary orderbook)
  else pure []

/-- `on_market_tick(tick)`. -/
def onMarketTick (tick : PyVal α) : StrategyCode α Unit :=
  match tick with
  | .dict items =>
      let symbol := symbolOf items
      let midPrice := extractMidPrice items
      if symbol = "" ∨ midPrice ≤ 0 then pure ()
      else modify (strategy.appendMid symbol midPrice)
  | _ => throw (noDictionary tick)

/-- The call returns a signal although nothing is held. -/
def Enters (ledger : PositionLedger α) (killSwitch : KillSwitch α) (clock : Monotonic α)
    (state : StrategyState α) (orderbook : List (String × PyVal α)) : Prop :=
  openPosition ledger (symbolOf orderbook) = none
    ∧ ∃ signals state', (strategy.onOrderbook ledger killSwitch clock (.dict orderbook)).run state
        = .ok signals state' ∧ signals ≠ []

end MeanReversionImbalanceStrategy

end Definitions

/-- A mid price is scored against a history that ends with it. -/
lemma MeanReversionImbalanceStrategy.appendMid_history {α : Type} [Zero α] [One α] [LT α] [LE α]
    [DecidableLT α] [DecidableLE α] [PyFloat α] (strategy : MeanReversionImbalanceStrategy α)
    (symbol : String) (midPrice : α) (state : StrategyState α) :
    (strategy.appendMid symbol midPrice state).midHistory.getD symbol []
      = dequeAppend strategy.rollingWindow (state.midHistory.getD symbol []) midPrice := by
  rw [appendMid, Dict.getD_set_self]

/-! ## The statistics of exact numbers -/

section Exact

variable {α : Type} [Field α] [PyFloat α]

lemma mean_eq (hexact : ∀ x : ℚ, (PyFloat.ofRat x : α) = x) (values : List α) :
    mean values = Dispersion.average values := by
  rw [mean, hexact, Rat.cast_natCast, ← List.sum_eq_foldl, Dispersion.average]

lemma pvariance_eq (hexact : ∀ x : ℚ, (PyFloat.ofRat x : α) = x) (values : List α) :
    pvariance values = Dispersion.variance values := by
  rw [pvariance, mean_eq hexact, mean_eq hexact, Dispersion.variance]
  simp only [sq]

end Exact

/-! ## One strategy -/

/-- The strategy of the low-capital template.  `Rat.sqrt` is the square root of the squares, and the
histories it meets below are such that it is asked for nothing else. -/
def MeanReversionImbalanceStrategy.lowCapitalStrategy : MeanReversionImbalanceStrategy ℚ :=
  { targetNotional := 15 / 2, maxPositionNotional := 15 / 2, minOrderNotional := 11 / 2
    rollingWindow := 30, minObservations := 20, entryZscore := 5 / 4, exitZscore := 1 / 4
    imbalanceThreshold := 1 / 5, maxSpreadBps := 12, cooldownSeconds := 20
    takeProfitBps := 70, stopLossBps := 45, minProfitAfterFeeBps := 22
    checked := by decide +kernel, getenv := fun _ => none, sqrt := Rat.sqrt }

lemma MeanReversionImbalanceStrategy.lowCapitalStrategy_checked :
    lowCapitalStrategy.toMeanReversionSettings.rejection = none := lowCapitalStrategy.checked

/-- A kill switch that has not been triggered. -/
def untriggered : KillSwitch ℚ :=
  ⟨5, 5, by decide +kernel, by decide +kernel, 0, none, false, none⟩

/-- A clock that stands still. -/
def Monotonic.still (time : ℚ) : Monotonic ℚ := ⟨time, time, time, time, time, time, time⟩

/-- A ledger that holds bitcoins. -/
def holding (quantity averageEntry : ℚ) : PositionLedger ℚ :=
  { positions := Dict.empty.set "BTC/USDT" ⟨"BTC/USDT", quantity, averageEntry, 0, 0⟩
    trades := [], realizedPnlTotal := 0 }

end Aegis
