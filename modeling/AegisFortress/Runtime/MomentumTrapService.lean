import AegisFortress.Feeds.MarketStateStore
import AegisFortress.Models.Signal
import AegisFortress.Portfolio.PositionLedger
import AegisFortress.Python.Builtins
import AegisFortress.Risk.KillSwitch

/-!
# The momentum trap scanner

`microservices/momentum_trap_service.py`.  A scan of a symbol passes its gates, waits for the
candles, and publishes a purchase when the analyzer says so.  Other tasks run while it waits, so a
scan is two steps: `beginScan` up to the request for the candles, `finishScan` from their arrival.

The counters that only `metrics` shows are left out, and so are the metrics of a decision.
-/

namespace Aegis

/-- `MomentumTrapDecision`, less the symbol, which is the one that was scanned. -/
structure MomentumTrapDecision (α : Type) where
  shouldBuy : Bool
  reason : String
  signalKey : Option String := none
  confidence : α
  referencePrice : α

/-- `MomentumTrapService`, less what is state: the arguments of the constructor and the
environment it reads its knobs from. -/
structure MomentumTrapService (α : Type) where
  symbolsGiven : List String
  targetNotionalGiven : α
  maxPositionNotional : α
  minOrderNotional : α
  orderTypeText : String
  order_type_checked : pyUpper orderTypeText ∈ ["MARKET", "LIMIT"]
  getenv : Environ

/-- The dictionaries of the service, and the symbol whose candles it is waiting for. -/
structure MomentumTrapState (α : Type) where
  lastSignalAt : Dict String α
  processedSignalKeys : List String
  scanning : Option String

/-- The state of a new service. -/
def MomentumTrapState.init {α : Type} : MomentumTrapState α := ⟨∅, [], none⟩

section Definitions

variable {α : Type} [Add α] [Sub α] [Mul α] [Div α] [Neg α] [Zero α] [One α] [LT α] [LE α]
  [DecidableLT α] [DecidableLE α] [DecidableEq α] [PyFloat α] [PyRound α]

namespace MomentumTrapService

variable (service : MomentumTrapService α)

/-! ## The knobs -/

/-- `os.getenv(name)`, an empty value being no value. -/
def given (name : String) : Option String := (service.getenv name).filter fun raw => raw ≠ ""

/-- `_float_env(name, default)`. -/
def floatEnv (name : String) (default : α) : α :=
  (((service.given name).bind floatOfString).map PyFloat.ofRat).getD default

/-- `_bool_env(name, default)`. -/
def boolEnv (name : String) (default : Bool) : Bool := (service.given name).elim default isOn

/-- `_env_symbols(name, default)`. -/
def envSymbols (name : String) (default : List String) : List String :=
  let raw := pyStrip ((service.getenv name).getD "")
  if raw = "" then default
  else ((raw.splitOn ",").map pyStrip).filter fun item => item ≠ ""

def symbols : List String := service.envSymbols "AEGIS_MOMENTUM_TRAP_SYMBOLS" service.symbolsGiven

def enabled : Bool := service.boolEnv "AEGIS_MOMENTUM_TRAP_ENABLED" false

def targetNotional : α :=
  pyMax service.minOrderNotional (pyMin service.targetNotionalGiven service.maxPositionNotional)

def orderType : OrderType :=
  if pyUpper service.orderTypeText = "LIMIT" then .limit else .market

def cooldownSeconds : α :=
  service.floatEnv "AEGIS_MOMENTUM_TRAP_COOLDOWN_SECONDS" (PyFloat.ofRat 1800)

def maxSpreadBps : α := service.floatEnv "AEGIS_MOMENTUM_TRAP_MAX_SPREAD_BPS" (PyFloat.ofRat 20)

def requireFreshMarkPrice : Bool := service.boolEnv "AEGIS_MOMENTUM_TRAP_REQUIRE_MARK_PRICE" false

def symbolBlocklist : List String := (service.envSymbols "AEGIS_SYMBOL_BLOCKLIST" []).map pyUpper

/-! ## The gates of a scan -/

/-- `_on_cooldown(symbol)`. -/
def onCooldown (now : α) (state : MomentumTrapState α) (symbol : String) : Bool :=
  match state.lastSignalAt.get? symbol with
  | none => false
  | some last => now - last < service.cooldownSeconds

/-- The spread of a stored order book in basis points, when the book has two sides. -/
def spreadBps? (orderbook : OrderBookSnapshot α) : Option α :=
  if orderbook.midPrice ≤ 0 ∨ orderbook.spread < 0 then none
  else some (orderbook.spread / orderbook.midPrice * PyFloat.ofRat 10000)

/-- The least spread of the stored order books of a symbol. -/
def bestSpread (store : MarketStateStore α) (symbol : String) : Option α :=
  store.orderbooks.entries.foldl (fun best e =>
    if (":" ++ symbol).toList <:+ e.1.toList then
      match spreadBps? e.2, best with
      | none, _ => best
      | some spreadBps, none => some spreadBps
      | some spreadBps, some least => some (pyMin least spreadBps)
    else best) none

/-- `_spread_too_wide(symbol)`. -/
def spreadTooWide (store : MarketStateStore α) (symbol : String) : Bool :=
  (bestSpread store symbol).any fun spreadBps => service.maxSpreadBps < spreadBps

/-- The gates of `_scan_symbol`; `hasExchange` says whether there is a client to ask. -/
def passesGates (now : α) (ledger : PositionLedger α) (killSwitch : KillSwitch α)
    (store : MarketStateStore α) (hasExchange : Bool) (state : MomentumTrapState α)
    (symbol : String) : Bool :=
  pyUpper symbol ∉ service.symbolBlocklist
    ∧ killSwitch.isActive
    ∧ ¬ (ledger.getPosition symbol).any (fun position => 0 < pyAbs position.quantity)
    ∧ ¬ service.onCooldown now state symbol
    ∧ ¬ (service.requireFreshMarkPrice ∧ (store.markPrices.get? symbol).isNone)
    ∧ ¬ service.spreadTooWide store symbol
    ∧ hasExchange

/-! ## A scan -/

/-- `_scan_symbol` up to the request for the candles. -/
def beginScan (now : α) (ledger : PositionLedger α) (killSwitch : KillSwitch α)
    (store : MarketStateStore α) (hasExchange : Bool) (symbol : String)
    (state : MomentumTrapState α) : MomentumTrapState α :=
  if service.passesGates now ledger killSwitch store hasExchange state symbol then
    { state with scanning := some symbol }
  else state

/-- The price a purchase is sized from. -/
def sizingPrice (decision : MomentumTrapDecision α) : α :=
  pyMax decision.referencePrice (PyFloat.ofRat (1 / 10 ^ 12))

/-- The signal of `_publish_buy_signal`. -/
def buySignal (symbol : String) (decision : MomentumTrapDecision α) : TradeSignal α where
  symbol := symbol
  side := .buy
  quantity := PyRound.round 8 (service.targetNotional / sizingPrice decision)
  orderType := service.orderType
  price := none
  strategyId := some "momentum_trap_fortress"
  reason := some (s!"{decision.reason}: close={PyFloat.fixed 8 decision.referencePrice}, "
    ++ s!"confidence={PyFloat.fixed 2 decision.confidence}")
  confidence := some decision.confidence

/-- The purchase a decision leads to: none when it is not to buy, when its key has been processed,
or when the signal is no order. -/
def orderOf (stamp : OrderStamp) (symbol : String) (decision : MomentumTrapDecision α)
    (state : MomentumTrapState α) : Option (Order α) :=
  if ¬ decision.shouldBuy then none
  else if decision.signalKey.any fun key => key ≠ "" ∧ key ∈ state.processedSignalKeys then none
  else ((service.buySignal symbol decision).toOrder stamp).toOption

/-- `_scan_symbol` from the answer of the exchange on; an answer that cannot be fetched or analyzed
is an exception.  The order is to be published. -/
def finishScan (now : α) (stamp : OrderStamp) (symbol : String)
    (analysis : Except PyError (MomentumTrapDecision α)) (state : MomentumTrapState α) :
    MomentumTrapState α × Option (Order α) :=
  let state := { state with scanning := none }
  match analysis with
  | .error _ => (state, none)
  | .ok decision =>
      match service.orderOf stamp symbol decision state with
      | none => (state, none)
      | some order =>
          ({ state with
              processedSignalKeys :=
                state.processedSignalKeys ++ (decision.signalKey.filter fun key => key ≠ "").toList
              lastSignalAt := state.lastSignalAt.set symbol now }, some order)

end MomentumTrapService

end Definitions

/-- The scanner's orders are purchases of the symbol it scans, sized from the target. -/
lemma MomentumTrapService.orderOf_some {service : MomentumTrapService ℚ} {stamp : OrderStamp}
    {symbol : String} {decision : MomentumTrapDecision ℚ} {state : MomentumTrapState ℚ}
    {order : Order ℚ} (h : service.orderOf stamp symbol decision state = some order) :
    decision.shouldBuy = true ∧ order.symbol = symbol ∧ order.side = .buy
      ∧ order.quantity = roundRat 8 (service.targetNotional / sizingPrice decision) := by
  rw [orderOf] at h
  split_ifs at h with hbuy hseen
  cases horder : (service.buySignal symbol decision).toOrder stamp with
  | error e =>
      rw [horder] at h
      cases h
  | ok order' =>
      rw [horder] at h
      cases h
      obtain ⟨hsymbol, hside, hquantity, -, -⟩ := TradeSignal.toOrder_ok horder
      exact ⟨hbuy, hsymbol, hside, hquantity⟩

end Aegis
