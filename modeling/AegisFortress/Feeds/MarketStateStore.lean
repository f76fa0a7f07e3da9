import AegisFortress.Lib.Dict
import AegisFortress.Models.MarketData

/-!
# The latest market state

`feeds/market_state_store.py`: the latest tick and the latest order book of every symbol at every
exchange.  The wall-clock stamps that `stale_keys` compares are left out.
-/

namespace Aegis

section Definitions

variable {α : Type} [Add α] [Div α] [Zero α] [LT α] [DecidableLT α] [DecidableEq α] [PyFloat α]

/-- `MarketStateStore`. -/
structure MarketStateStore (α : Type) where
  ticks : Dict String (MarketTick α)
  orderbooks : Dict String (OrderBookSnapshot α)

namespace MarketStateStore

/-- `MarketStateStore()`. -/
def init : MarketStateStore α := ⟨∅, ∅⟩

/-- `MarketStateStore._key`. -/
def key (exchange symbol : String) : String := s!"{exchange}:{symbol}"

/-- `MarketStateStore.update_tick`. -/
def updateTick (store : MarketStateStore α) (tick : MarketTick α) : MarketStateStore α :=
  { store with ticks := store.ticks.set (key tick.exchange tick.symbol) tick }

/-- `MarketStateStore.update_orderbook`. -/
def updateOrderbook (store : MarketStateStore α) (orderbook : OrderBookSnapshot α) :
    MarketStateStore α :=
  { store with
    orderbooks := store.orderbooks.set (key orderbook.exchange orderbook.symbol) orderbook }

/-- `MarketStateStore.mark_prices()`. -/
def markPrices (store : MarketStateStore α) : Dict String α :=
  store.ticks.entries.foldl (fun prices e =>
    prices.set e.2.symbol (if e.2.midPrice = 0 then e.2.last else e.2.midPrice)) ∅

end MarketStateStore

end Definitions

end Aegis
