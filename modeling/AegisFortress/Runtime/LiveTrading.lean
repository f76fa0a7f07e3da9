import AegisFortress.Runtime.MomentumTrapService
import AegisFortress.Runtime.Services
import AegisFortress.Strategies.MeanReversionImbalance

/-!
# Live trading

The services of the event bus together with the strategies that feed them.  `LiveStrategyService`
runs the mean reversion strategy on the ticks and order books it is handed, `MomentumTrapService`
scans beside the bus.  Both decide on the ledger as it is; their orders wait on the bus.

Two things are recorded for the statements alone, and no handler reads them: with a request, the
price an entry was sized from; with the state, the symbols whose purchases since they were last
flat were all entries.
-/

namespace Aegis

/-- The events of a live system: a tick, or an event of the services. -/
inductive LiveEvent (α : Type)
  | marketTick (tick : PyVal α)
  | service (event : Event α) (sizedFrom : Option α)

section Definitions

variable {α : Type} [Add α] [Sub α] [Mul α] [Div α] [Neg α] [Zero α] [One α] [LT α] [LE α]
  [DecidableLT α] [DecidableLE α] [DecidableEq α] [PyFloat α] [PyRound α]

/-- The runtime with its strategies; `RuntimeContainer.build` gives both the same limits. -/
structure LiveTrading (α : Type) [Zero α] [One α] [LT α] [LE α] [DecidableLT α] [DecidableLE α]
    [PyFloat α] extends RuntimeContainer α where
  strategy : MeanReversionImbalanceStrategy α
  trap : MomentumTrapService α
  max_shared : trap.maxPositionNotional = strategy.maxPositionNotional
  min_shared : trap.minOrderNotional = strategy.minOrderNotional

/-- The state of all of them, and the last time the clock showed. -/
structure LiveState (α : Type) [Zero α] [LE α] where
  runtime : RuntimeState α
  strategy : StrategyState α
  trap : MomentumTrapState α
  now : α
  /-- The symbols that nothing but entries has bought since they were last flat. -/
  entered : List String

/-- What the outside world answers while one event is handled; the strategy's own answer is
computed. -/
structure LiveTurn (α : Type) [Zero α] where
  now : DateTime
  answers : Answers α
  clock : Monotonic α
  stamp : ℕ → OrderStamp
  markPrices : Dict String α

/-- What the services see of it when the strategy answers with these orders. -/
def LiveTurn.turn (turn : LiveTurn α) (orders : List (Order α)) : Turn α :=
  { now := turn.now, answers := turn.answers, onOrderbook := fun _ => orders
    markPrices := turn.markPrices }

/-- The orders of the signals, as far as they are orders: the service stops at the first one that
is none. -/
def toOrders (stamp : ℕ → OrderStamp) : List (TradeSignal α) → List (Order α)
  | [] => []
  | signal :: rest =>
      match signal.toOrder (stamp rest.length) with
      | .ok order => order :: toOrders stamp rest
      | .error _ => []

/-- The price an entry of this order book would be sized from. -/
def sizedFrom (ledger : PositionLedger α) : PyVal α → Option α
  | .dict items =>
      match MeanReversionImbalanceStrategy.openPosition ledger (symbolOf items) with
      | none => some (extractMidPrice items)
      | some _ => none
  | _ => none

/-- The entered symbols after an order: a purchase counts when it is an entry and the symbol was
flat or entered, and what is sold changes nothing. -/
def enteredAfter (before after : PositionLedger α) (order : Order α) (sizedFrom : Option α)
    (entered : List String) : List String :=
  if after.trades.length = before.trades.length then entered
  else
    match order.side with
    | .sell => entered
    | .buy =>
        if sizedFrom.isSome ∧ (before.quantityOf order.symbol = 0 ∨ order.symbol ∈ entered) then
          order.symbol :: entered
        else entered.filter fun symbol => symbol ≠ order.symbol

/-- The steps of a live system: of the bus, and of a scan. -/
inductive LiveInput (α : Type) [Zero α]
  | bus (input : EventLoop.Input (LiveEvent α) (LiveTurn α) Command)
  | scan (now : α) (store : MarketStateStore α) (hasExchange : Bool) (symbol : String)
  | candles (now : α) (store : MarketStateStore α) (stamp : OrderStamp)
      (analysis : Except PyError (MomentumTrapDecision α))

/-- The clock does not go back. -/
def LiveInput.InTime (now : α) : LiveInput α → Prop
  | .bus (.dispatch turn) => turn.clock.Follows now
  | .bus _ => True
  | .scan scanned _ _ _ => now ≤ scanned
  | .candles arrived _ _ _ => now ≤ arrived

instance (now : α) (input : LiveInput α) : Decidable (input.InTime now) := by
  cases input with
  | bus input => cases input <;> simp only [LiveInput.InTime] <;> infer_instance
  | scan scanned store hasExchange symbol => exact inferInstanceAs (Decidable (_ ≤ _))
  | candles arrived store stamp analysis => exact inferInstanceAs (Decidable (_ ≤ _))

abbrev Live (α : Type) [Zero α] [LE α] := EventLoop (LiveState α) (LiveEvent α)

namespace LiveTrading

variable (live : LiveTrading α)

/-- The request for an order. -/
def request (markPrices : Dict String α) (order : Order α) : Event α :=
  .orderRequest ⟨order.correlationId, .dict (OrderEventCodec.encode live.iso order), markPrices⟩

/-- The answer of the strategy to an order book. -/
def answer (turn : LiveTurn α) (orderbook : PyVal α) (state : LiveState α) :
    EStateM.Result PyError (StrategyState α) (List (TradeSignal α)) :=
  (live.strategy.onOrderbook state.runtime.books.ledger state.runtime.killSwitch turn.clock
    orderbook).run state.strategy

/-- The orders of that answer; a strategy that raises is logged. -/
def ordersOf (turn : LiveTurn α) (orderbook : PyVal α) (state : LiveState α) : List (Order α) :=
  match live.answer turn orderbook state with
  | .ok signals _ => toOrders turn.stamp signals
  | .error _ _ => []

/-- `LiveStrategyService._on_orderbook_snapshot`. -/
def onOrderbookSnapshot (turn : LiveTurn α) (orderbook : PyVal α) (state : LiveState α) :
    LiveState α × List (LiveEvent α) :=
  let handled := live.handle (turn.turn (live.ordersOf turn orderbook state)) state.runtime
    (.orderbookSnapshot orderbook)
  ({ state with
      runtime := handled.1, strategy := Raising.final (live.answer turn orderbook state) },
    handled.2.map fun event =>
      .service event (sizedFrom state.runtime.books.ledger orderbook))

/-- `LiveStrategyService._on_market_tick`. -/
def onMarketTick (tick : PyVal α) (state : LiveState α) : LiveState α :=
  { state with strategy := Raising.final ((live.strategy.onMarketTick tick).run state.strategy) }

/-- The other services handle their events as before. -/
def onServiceEvent (turn : LiveTurn α) (event : Event α) (sizedFrom : Option α)
    (state : LiveState α) : LiveState α × List (LiveEvent α) :=
  let handled := live.handle (turn.turn []) state.runtime event
  let entered :=
    match event with
    | .orderRequest request =>
        match OrderEventCodec.decode live.iso turn.now request.orderPayload with
        | .ok order =>
            enteredAfter state.runtime.books.ledger handled.1.books.ledger order sizedFrom
              state.entered
        | .error _ => state.entered
    | _ => state.entered
  ({ state with runtime := handled.1, entered }, handled.2.map fun event => .service event none)

/-- The subscribers of an event. -/
def onEvent (turn : LiveTurn α) (event : LiveEvent α) (state : LiveState α) :
    LiveState α × List (LiveEvent α) :=
  let handled :=
    match event with
    | .marketTick tick => (live.onMarketTick tick state, [])
    | .service (.orderbookSnapshot orderbook) _ => live.onOrderbookSnapshot turn orderbook state
    | .service event sizedFrom => live.onServiceEvent turn event sizedFrom state
  ({ handled.1 with now := turn.clock.block }, handled.2)

/-- What an operator does reaches the services. -/
def act (command : Command) (state : LiveState α) : LiveState α :=
  { state with runtime := command.apply state.runtime }

/-- A step of a scan. -/
def scanStep (s : Live α) : LiveInput α → Option (Live α)
  | .bus _ => none
  | .scan now store hasExchange symbol =>
      if live.trap.enabled ∧ symbol ∈ live.trap.symbols ∧ s.state.trap.scanning = none then
        let runtime := s.state.runtime
        let trap := live.trap.beginScan now runtime.books.ledger runtime.killSwitch store hasExchange
          symbol s.state.trap
        some { s with state := { s.state with now, trap } }
      else none
  | .candles now store stamp analysis =>
      s.state.trap.scanning.map fun symbol =>
        let finished := live.trap.finishScan now stamp symbol analysis s.state.trap
        let published := finished.2.toList.map fun order =>
          LiveEvent.service (live.request store.markPrices order)
            (analysis.toOption.map MomentumTrapService.sizingPrice)
        ⟨{ s.state with now, trap := finished.1 }, s.queue ++ published⟩

/-- A live system takes one step. -/
def step (s : Live α) (input : LiveInput α) : Option (Live α) :=
  if input.InTime s.state.now then
    match input with
    | .bus input => EventLoop.step live.onEvent act s input
    | input => live.scanStep s input
  else none

end LiveTrading

end Definitions

end Aegis
