import AegisFortress.Models.Order

/-!
# Ticks and order books

`models/market_tick.py` and `models/orderbook.py`.  What an exchange quotes, and the figures that
are derived from it.  The raw payload both records keep is never read back and is left out.
-/

namespace Aegis

section Definitions

variable {α : Type} [Add α] [Sub α] [Mul α] [Div α] [Zero α] [LT α] [LE α] [DecidableLT α]
  [DecidableLE α] [PyFloat α]

/-- `models.market_tick.MarketTick`. -/
structure MarketTick (α : Type) where
  symbol : String
  exchange : String
  bid : α
  ask : α
  last : α
  volume : α
  timestamp : DateTime

namespace MarketTick

/-- `MarketTick.mid_price`. -/
def midPrice (tick : MarketTick α) : α :=
  if 0 < tick.bid ∧ 0 < tick.ask then (tick.bid + tick.ask) / PyFloat.ofRat 2
  else if 0 < tick.last then tick.last
  else 0

/-- `MarketTick.spread`. -/
def spread (tick : MarketTick α) : α :=
  if 0 < tick.bid ∧ 0 < tick.ask then tick.ask - tick.bid else 0

/-- `MarketTick.spread_bps`. -/
def spreadBps (tick : MarketTick α) : α :=
  if tick.midPrice ≤ 0 then 0 else tick.spread / tick.midPrice * PyFloat.ofRat 10000

/-- `MarketTick.is_valid()`. -/
def isValid (tick : MarketTick α) : Prop :=
  tick.symbol ≠ "" ∧ tick.exchange ≠ "" ∧ 0 < tick.last ∧ 0 ≤ tick.bid ∧ 0 ≤ tick.ask

instance (tick : MarketTick α) : Decidable tick.isValid :=
  inferInstanceAs (Decidable (_ ∧ _ ∧ _ ∧ _ ∧ _))

/-- `MarketTick.to_dict()`. -/
def toDict (iso : IsoFormat) (tick : MarketTick α) : List (String × PyVal α) :=
  [("symbol", .str tick.symbol), ("exchange", .str tick.exchange), ("bid", .float tick.bid),
    ("ask", .float tick.ask), ("last", .float tick.last), ("volume", .float tick.volume),
    ("mid_price", .float tick.midPrice), ("spread", .float tick.spread),
    ("spread_bps", .float tick.spreadBps), ("timestamp", .str (iso.isoformat tick.timestamp))]

end MarketTick

/-- `models.orderbook.OrderBookLevel`. -/
structure OrderBookLevel (α : Type) where
  price : α
  quantity : α

/-- `OrderBookLevel.to_dict()`. -/
def OrderBookLevel.toDict (level : OrderBookLevel α) : PyVal α :=
  .dict [("price", .float level.price), ("quantity", .float level.quantity)]

/-- `models.orderbook.OrderBookSnapshot`. -/
structure OrderBookSnapshot (α : Type) where
  symbol : String
  exchange : String
  bids : List (OrderBookLevel α)
  asks : List (OrderBookLevel α)
  sequence : Option ℤ
  timestamp : DateTime

namespace OrderBookSnapshot

/-- The price of the first level, zero without one. -/
def bestOf (levels : List (OrderBookLevel α)) : α :=
  match levels with
  | [] => 0
  | level :: _ => level.price

/-- `OrderBookSnapshot.best_bid`. -/
def bestBid (book : OrderBookSnapshot α) : α := bestOf book.bids

/-- `OrderBookSnapshot.best_ask`. -/
def bestAsk (book : OrderBookSnapshot α) : α := bestOf book.asks

/-- `OrderBookSnapshot.spread`. -/
def spread (book : OrderBookSnapshot α) : α :=
  if book.bestBid ≤ 0 ∨ book.bestAsk ≤ 0 then 0 else book.bestAsk - book.bestBid

/-- `OrderBookSnapshot.mid_price`. -/
def midPrice (book : OrderBookSnapshot α) : α :=
  if book.bestBid ≤ 0 ∨ book.bestAsk ≤ 0 then 0
  else (book.bestBid + book.bestAsk) / PyFloat.ofRat 2

/-- The quantities of the levels together. -/
def depthOf (levels : List (OrderBookLevel α)) : α :=
  levels.foldl (fun total level => total + level.quantity) 0

/-- `OrderBookSnapshot.bid_depth`. -/
def bidDepth (book : OrderBookSnapshot α) : α := depthOf book.bids

/-- `OrderBookSnapshot.ask_depth`. -/
def askDepth (book : OrderBookSnapshot α) : α := depthOf book.asks

/-- `OrderBookSnapshot.imbalance`. -/
def imbalance (book : OrderBookSnapshot α) : α :=
  if book.bidDepth + book.askDepth ≤ 0 then 0
  else (book.bidDepth - book.askDepth) / (book.bidDepth + book.askDepth)

/-- `OrderBookSnapshot.is_valid()`. -/
def isValid (book : OrderBookSnapshot α) : Prop :=
  book.symbol ≠ "" ∧ book.exchange ≠ "" ∧ 0 < book.bids.length ∧ 0 < book.asks.length
    ∧ 0 < book.bestBid ∧ 0 < book.bestAsk

instance (book : OrderBookSnapshot α) : Decidable book.isValid :=
  inferInstanceAs (Decidable (_ ∧ _ ∧ _ ∧ _ ∧ _ ∧ _))

/-- `OrderBookSnapshot.to_dict()`. -/
def toDict (iso : IsoFormat) (book : OrderBookSnapshot α) : List (String × PyVal α) :=
  [("symbol", .str book.symbol), ("exchange", .str book.exchange),
    ("bids", .list (book.bids.map OrderBookLevel.toDict)),
    ("asks", .list (book.asks.map OrderBookLevel.toDict)),
    ("sequence", book.sequence.elim .none .int), ("best_bid", .float book.bestBid),
    ("best_ask", .float book.bestAsk), ("spread", .float book.spread),
    ("mid_price", .float book.midPrice), ("bid_depth", .float book.bidDepth),
    ("ask_depth", .float book.askDepth), ("imbalance", .float book.imbalance),
    ("timestamp", .str (iso.isoformat book.timestamp))]

end OrderBookSnapshot

end Definitions

end Aegis
