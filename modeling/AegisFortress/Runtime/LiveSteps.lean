import AegisFortress.Execution.SubmitGuarantees
import AegisFortress.Runtime.LiveTrading
import AegisFortress.Runtime.ServiceSteps
import AegisFortress.Strategies.SignalSteps

/-!
# What a step of a live system can do

Seen from the ledger and from the requests that wait on the bus.  `step_moves` lists the ways: the
strategy or the scanner adds a request, the oldest request is submitted, or neither changes.
`ordersOf_cases` and `submit_moves` say what is requested and what a submission does to the ledger.
-/

namespace Aegis

open EventLoop ExecutionPipeline MeanReversionImbalanceStrategy PositionLedger
open ExchangeResponseNormalizer

/-- A request on the bus, as far as the ledger will notice it. -/
structure Request where
  symbol : String
  side : OrderSide
  quantity : ℚ
  sizedFrom : Option ℚ
  deriving DecidableEq

/-- The request for an order. -/
def Request.of (order : Order ℚ) (sizedFrom : Option ℚ) : Request :=
  ⟨order.symbol, order.side, order.quantity, sizedFrom⟩

/-- The ledger of a live system. -/
def ledgerOf (s : Live ℚ) : PositionLedger ℚ := s.state.runtime.books.ledger

namespace LiveTrading

variable (live : LiveTrading ℚ)

/-! ## The requests on the bus -/

/-- The request an event carries, if it carries one that can be read. -/
def requestOf : LiveEvent ℚ → Option Request
  | .service (.orderRequest event) sizedFrom =>
      (OrderEventCodec.decode live.iso ⟨0⟩ event.orderPayload).toOption.map fun order =>
        Request.of order sizedFrom
  | _ => none

/-- The requests that wait, oldest first. -/
def requests (s : Live ℚ) : List Request := s.queue.filterMap live.requestOf

/-- A request is read as it was written. -/
lemma requestOf_request (markPrices : Dict String ℚ) (order : Order ℚ) (sizedFrom : Option ℚ) :
    live.requestOf (.service (live.request markPrices order) sizedFrom)
      = some (Request.of order sizedFrom) := by
  have hdecode := OrderEventCodec.decode_encode live.iso order ⟨0⟩
  rw [request, requestOf, hdecode]
  rfl

/-- Whenever it is read. -/
lemma requestOf_of_decode {now : DateTime} {event : OrderRequestEvent ℚ} {order : Order ℚ}
    (h : OrderEventCodec.decode live.iso now event.orderPayload = .ok order)
    (sizedFrom : Option ℚ) :
    live.requestOf (.service (.orderRequest event) sizedFrom)
      = some (Request.of order sizedFrom) := by
  obtain ⟨createdAt, updatedAt, hdecode⟩ := OrderEventCodec.decode_now live.iso h ⟨0⟩
  rw [requestOf, hdecode]
  rfl

lemma requestOf_of_unread {now : DateTime} {event : OrderRequestEvent ℚ} {e : PyError}
    (h : OrderEventCodec.decode live.iso now event.orderPayload = .error e)
    (sizedFrom : Option ℚ) : live.requestOf (.service (.orderRequest event) sizedFrom) = none := by
  rw [requestOf]
  cases hdecode : OrderEventCodec.decode live.iso ⟨0⟩ event.orderPayload with
  | error e => rfl
  | ok order =>
      obtain ⟨createdAt, updatedAt, hnow⟩ := OrderEventCodec.decode_now live.iso hdecode now
      cases h.symm.trans hnow

/-- What handling anything but an order book publishes is no request. -/
lemma requestOf_handled (turn : Turn ℚ) (state : RuntimeState ℚ) (event : Event ℚ)
    (hbook : ∀ orderbook, event ≠ .orderbookSnapshot orderbook) :
    ((live.handle turn state event).2.map fun event => LiveEvent.service event none).filterMap
      live.requestOf = [] := by
  rw [List.filterMap_eq_nil_iff]
  intro published hpublished
  obtain ⟨inner, hinner, rfl⟩ := List.mem_map.mp hpublished
  cases event with
  | orderbookSnapshot orderbook => exact absurd rfl (hbook orderbook)
  | orderRequest event =>
      rw [RuntimeContainer.handle, RuntimeContainer.onOrderRequest] at hinner
      split at hinner
      · exact absurd hinner List.not_mem_nil
      · obtain ⟨report, -, rfl⟩ := List.mem_map.mp hinner
        rfl
  | executionReport report =>
      rcases RuntimeContainer.foldl_published report (RuntimeContainer.breachesOf report) _ hinner
        with hnil | ⟨risk, rfl⟩
      · exact absurd hnil List.not_mem_nil
      · rfl
  | riskBreach risk => exact absurd hinner List.not_mem_nil
  | other eventType => exact absurd hinner List.not_mem_nil

/-- The ledger changes when an order is submitted, and only then. -/
lemma handle_books (turn : Turn ℚ) (state : RuntimeState ℚ) (event : Event ℚ)
    (h : ∀ request, event = .orderRequest request → ∃ e,
      OrderEventCodec.decode live.iso turn.now request.orderPayload = .error e) :
    (live.handle turn state event).1.books = state.books := by
  cases event with
  | orderbookSnapshot orderbook =>
      rw [RuntimeContainer.handle, RuntimeContainer.onOrderbookSnapshot]
      split_ifs <;> rfl
  | orderRequest request =>
      obtain ⟨e, he⟩ := h request rfl
      rw [RuntimeContainer.handle, RuntimeContainer.onOrderRequest, he]
  | executionReport report => rfl
  | riskBreach risk => rfl
  | other eventType => rfl

/-- The order that a dispatch submits: that of the oldest event, if it is a request that can be
read. -/
def headOrder (turn : LiveTurn ℚ) (s : Live ℚ) : Option (Order ℚ) :=
  match s.queue with
  | .service (.orderRequest event) _ :: _ =>
      (OrderEventCodec.decode live.iso turn.now event.orderPayload).toOption
  | _ => none

/-! ## The ways to move -/

variable (s : Live ℚ)

/-- What a step can do. -/
inductive Moves : LiveInput ℚ → Live ℚ → Prop
  | quiet {input : LiveInput ℚ} {s' : Live ℚ} (hledger : ledgerOf s' = ledgerOf s)
      (hentered : s'.state.entered = s.state.entered)
      (hrequests : live.requests s' = live.requests s) : Moves input s'
  | published {event : LiveEvent ℚ} {s' : Live ℚ} (hledger : ledgerOf s' = ledgerOf s)
      (hentered : s'.state.entered = s.state.entered)
      (hrequests : live.requests s' = live.requests s ++ (live.requestOf event).toList) :
      Moves (.bus (.publish event)) s'
  | answered {turn : LiveTurn ℚ} {orderbook : PyVal ℚ} {sized : Option ℚ} {rest : List (LiveEvent ℚ)}
      {s' : Live ℚ} (hqueue : s.queue = .service (.orderbookSnapshot orderbook) sized :: rest)
      (hledger : ledgerOf s' = ledgerOf s) (hentered : s'.state.entered = s.state.entered)
      (hrequests : live.requests s' = live.requests s
        ++ (live.ordersOf turn orderbook s.state).map fun order =>
          Request.of order (sizedFrom (ledgerOf s) orderbook)) :
      Moves (.bus (.dispatch turn)) s'
  | submitted {turn : LiveTurn ℚ} {event : OrderRequestEvent ℚ} {sized : Option ℚ}
      {rest : List (LiveEvent ℚ)} {order : Order ℚ} {s' : Live ℚ}
      (hqueue : s.queue = .service (.orderRequest event) sized :: rest)
      (hhead : live.headOrder turn s = some order)
      (hrequests : live.requests s = Request.of order sized :: live.requests s')
      (hbooks : s'.state.runtime.books = (live.executionPipeline.submit (turn.turn []).onBus
        event.markPrices order s.state.runtime.books).2.books)
      (hentered : s'.state.entered
        = enteredAfter (ledgerOf s) (ledgerOf s') order sized s.state.entered) :
      Moves (.bus (.dispatch turn)) s'
  | bought {now : ℚ} {store : MarketStateStore ℚ} {stamp : OrderStamp} {symbol : String}
      {decision : MomentumTrapDecision ℚ} {order : Order ℚ} {s' : Live ℚ}
      (hscanning : s.state.trap.scanning = some symbol)
      (horder : live.trap.orderOf stamp symbol decision { s.state.trap with scanning := none }
        = some order)
      (hledger : ledgerOf s' = ledgerOf s) (hentered : s'.state.entered = s.state.entered)
      (hrequests : live.requests s' = live.requests s
        ++ [Request.of order (some (MomentumTrapService.sizingPrice decision))]) :
      Moves (.candles now store stamp (.ok decision)) s'

variable {live s}

/-- With the switch tripped the strategy is not asked. -/
lemma ordersOf_inactive {turn : LiveTurn ℚ} {orderbook : PyVal ℚ} {state : LiveState ℚ}
    (h : ¬ state.runtime.killSwitch.isActive) : live.ordersOf turn orderbook state = [] := by
  unfold ordersOf answer onOrderbook
  rw [if_neg h]
  rfl

/-- The requests of an order book. -/
lemma requests_answered (turn : LiveTurn ℚ) (orderbook : PyVal ℚ) (state : LiveState ℚ) :
    (live.onOrderbookSnapshot turn orderbook state).2.filterMap live.requestOf
      = (live.ordersOf turn orderbook state).map fun order =>
        Request.of order (sizedFrom state.runtime.books.ledger orderbook) := by
  rw [onOrderbookSnapshot, RuntimeContainer.handle, RuntimeContainer.onOrderbookSnapshot]
  by_cases hactive : state.runtime.killSwitch.isActive = true
  · simp only [hactive, if_true, List.map_map, List.filterMap_map]
    rw [← List.filterMap_eq_map]
    refine List.filterMap_congr fun order _ => ?_
    exact live.requestOf_request turn.markPrices order _
  · simp only [hactive, ordersOf_inactive hactive]
    rfl

/-- The requests before a dispatch: that of the event, then the rest. -/
lemma requests_cons {event : LiveEvent ℚ} {rest : List (LiveEvent ℚ)}
    (hqueue : s.queue = event :: rest) :
    live.requests s = (live.requestOf event).toList ++ rest.filterMap live.requestOf := by
  rw [requests, hqueue, List.filterMap_cons]
  cases live.requestOf event <;> rfl

/-- An event of the services that is neither an order book nor an order that can be read. -/
lemma other_moves {turn : LiveTurn ℚ} {inner : Event ℚ} {sized : Option ℚ}
    {rest : List (LiveEvent ℚ)} (hbook : ∀ orderbook, inner ≠ .orderbookSnapshot orderbook)
    (hread : ∀ request, inner = .orderRequest request → ∃ e,
      OrderEventCodec.decode live.iso turn.now request.orderPayload = .error e)
    (hrest : live.requests s = rest.filterMap live.requestOf) :
    live.Moves s (.bus (.dispatch turn))
      ⟨{ (live.onServiceEvent turn inner sized s.state).1 with now := turn.clock.block },
        rest ++ (live.onServiceEvent turn inner sized s.state).2⟩ := by
  refine .quiet ?_ ?_ ?_
  · exact congrArg Books.ledger (live.handle_books (turn.turn []) s.state.runtime inner hread)
  · cases inner with
    | orderRequest request =>
        obtain ⟨e, he⟩ := hread request rfl
        simp only [onServiceEvent, he]
    | _ => rfl
  · rw [hrest, requests, List.filterMap_append]
    exact (congrArg _ (live.requestOf_handled _ _ inner hbook)).trans (List.append_nil _)

/-- A request that can be read. -/
lemma request_moves {turn : LiveTurn ℚ} {request : OrderRequestEvent ℚ} {sized : Option ℚ}
    {rest : List (LiveEvent ℚ)} {order : Order ℚ}
    (hqueue : s.queue = .service (.orderRequest request) sized :: rest)
    (hdecode : OrderEventCodec.decode live.iso turn.now request.orderPayload = .ok order) :
    live.Moves s (.bus (.dispatch turn))
      ⟨(live.onEvent turn (.service (.orderRequest request) sized) s.state).1,
        rest ++ (live.onEvent turn (.service (.orderRequest request) sized) s.state).2⟩ := by
  have hhead : live.headOrder turn s = some order := by
    rw [headOrder, hqueue]
    exact congrArg Except.toOption hdecode
  refine .submitted hqueue hhead ?_ ?_ ?_
  · rw [requests_cons hqueue, live.requestOf_of_decode hdecode, requests, List.filterMap_append]
    refine congrArg _ ((List.append_nil _).symm.trans (congrArg _ ?_))
    exact (live.requestOf_handled (turn.turn []) s.state.runtime
      (.orderRequest request) (fun _ h => by cases h)).symm
  · simp only [onEvent, onServiceEvent, RuntimeContainer.handle,
      RuntimeContainer.onOrderRequest, LiveTurn.turn, hdecode]
  · simp only [onEvent, onServiceEvent, hdecode]
    rfl

lemma dispatch_moves {turn : LiveTurn ℚ} {event : LiveEvent ℚ} {rest : List (LiveEvent ℚ)}
    (hqueue : s.queue = event :: rest) :
    live.Moves s (.bus (.dispatch turn))
      ⟨(live.onEvent turn event s.state).1, rest ++ (live.onEvent turn event s.state).2⟩ := by
  have hrequests : live.requests s
      = (live.requestOf event).toList ++ rest.filterMap live.requestOf := requests_cons hqueue
  cases event with
  | marketTick tick =>
      refine .quiet rfl rfl ?_
      rw [hrequests, requests]
      exact congrArg _ (List.append_nil rest)
  | service inner sized =>
      cases inner with
      | orderbookSnapshot orderbook =>
          refine .answered hqueue ?_ rfl ?_
          · exact congrArg Books.ledger (live.handle_books
              (turn.turn (live.ordersOf turn orderbook s.state)) s.state.runtime
              (.orderbookSnapshot orderbook) (fun _ h => by cases h))
          · rw [hrequests, requests, List.filterMap_append]
            exact congrArg _ (requests_answered turn orderbook s.state)
      | orderRequest request =>
          cases hdecode : OrderEventCodec.decode live.iso turn.now request.orderPayload with
          | ok order => exact request_moves hqueue hdecode
          | error e =>
              refine other_moves (fun _ h => by cases h) ?_ ?_
              · intro request' h
                cases h
                exact ⟨e, hdecode⟩
              · rw [hrequests, live.requestOf_of_unread hdecode]
                rfl
      | executionReport report =>
          exact other_moves (fun _ h => by cases h) (fun _ h => by cases h) hrequests
      | riskBreach risk =>
          exact other_moves (fun _ h => by cases h) (fun _ h => by cases h) hrequests
      | other eventType =>
          exact other_moves (fun _ h => by cases h) (fun _ h => by cases h) hrequests

lemma scanStep_moves {input : LiveInput ℚ} {s' : Live ℚ}
    (h : live.scanStep s input = some s') : live.Moves s input s' := by
  have hquiet : ∀ (now : ℚ) (trap : MomentumTrapState ℚ),
      live.Moves s input ⟨{ s.state with now := now, trap := trap }, s.queue⟩ :=
    fun now trap => .quiet rfl rfl rfl
  cases input with
  | bus input => cases h
  | scan now store hasExchange symbol =>
      rw [scanStep] at h
      split_ifs at h
      cases h
      exact hquiet _ _
  | candles now store stamp analysis =>
      rw [scanStep, Option.map_eq_some_iff] at h
      obtain ⟨symbol, hscanning, rfl⟩ := h
      cases analysis with
      | error e =>
          simp only [MomentumTrapService.finishScan, Option.toList_none, List.map_nil, List.append_nil]
          exact hquiet _ _
      | ok decision =>
          cases horder : live.trap.orderOf stamp symbol decision
              { s.state.trap with scanning := none } with
          | none =>
              simp only [MomentumTrapService.finishScan, horder, Option.toList_none, List.map_nil,
                List.append_nil]
              exact hquiet _ _
          | some order =>
              simp only [MomentumTrapService.finishScan, horder]
              refine .bought hscanning horder rfl rfl ?_
              rw [requests, List.filterMap_append]
              refine congrArg _ ?_
              simp only [Option.toList_some, List.map_cons, List.map_nil, List.filterMap_cons,
                live.requestOf_request, List.filterMap_nil]
              rfl

/-- **Every step is one of these moves.** -/
theorem step_moves {input : LiveInput ℚ} {s' : Live ℚ} (h : live.step s input = some s') :
    live.Moves s input s' := by
  cases input with
  | bus input =>
      simp only [step] at h
      split_ifs at h with htime
      rcases EventLoop.step_cases h with ⟨event, rfl, rfl⟩ | ⟨turn, event, rest, rfl, hqueue, rfl⟩
        | ⟨command, rfl, rfl⟩
      · refine .published rfl rfl ?_
        rw [requests, List.filterMap_append]
        refine congrArg _ ?_
        rw [List.filterMap_cons]
        cases live.requestOf event <;> rfl
      · exact dispatch_moves hqueue
      · cases command
        exact .quiet rfl rfl rfl
  | scan now store hasExchange symbol =>
      simp only [step] at h
      split_ifs at h with htime
      exact scanStep_moves h
  | candles now store stamp analysis =>
      simp only [step] at h
      split_ifs at h with htime
      exact scanStep_moves h

/-! ## What the strategy requests -/

variable (live) in
/-- An order book leads to one order at most, for an entry or an exit that was due. -/
lemma ordersOf_cases (turn : LiveTurn ℚ) (orderbook : PyVal ℚ) (state : LiveState ℚ) :
    live.ordersOf turn orderbook state = []
    ∨ ∃ items symbol midPrice imbalance bestBid bestAsk order,
        orderbook = .dict items ∧ live.ordersOf turn orderbook state = [order]
        ∧ order.symbol = symbol
        ∧ ((∃ side, EntryDue live.strategy state.runtime.books.ledger state.runtime.killSwitch
              turn.clock state.strategy items symbol midPrice imbalance bestBid bestAsk side
            ∧ order.side = side ∧ order.quantity = live.strategy.entryQuantity midPrice)
          ∨ ∃ position signal reason, ExitDue live.strategy state.runtime.books.ledger
              state.runtime.killSwitch turn.clock state.strategy items symbol midPrice imbalance bestBid
              bestAsk position signal reason
            ∧ order.quantity = |position.quantity|
            ∧ (0 < position.quantity ∧ order.side = .sell
              ∨ position.quantity < 0 ∧ order.side = .buy)) := by
  have hspec := onOrderbook_spec live.strategy state.runtime.books.ledger state.runtime.killSwitch
    turn.clock state.strategy orderbook
  rw [ordersOf]
  cases hanswer : live.answer turn orderbook state with
  | error e strategyState => exact Or.inl rfl
  | ok signals strategyState =>
      have hanswered := hspec.ok hanswer
      cases hanswered with
      | quiet => exact Or.inl rfl
      | @entry items symbol midPrice imbalance bestBid bestAsk side _ hdict due =>
          simp only [toOrders]
          split
          · rename_i order horder
            obtain ⟨hsymbol, hside, hquantity, -, -⟩ := TradeSignal.toOrder_ok horder
            exact Or.inr ⟨items, symbol, midPrice, imbalance, bestBid, bestAsk, order, hdict, rfl,
              hsymbol, Or.inl ⟨side, due, hside, hquantity⟩⟩
          · exact Or.inl rfl
      | @exit items symbol midPrice imbalance bestBid bestAsk position signal reason _ hdict due =>
          simp only [toOrders]
          split
          · rename_i order horder
            obtain ⟨hsymbol, hside, hquantity, -, -⟩ := TradeSignal.toOrder_ok horder
            obtain ⟨hfor, hwhole, hagainst⟩ := buildExitSignal_some due.rule
            refine Or.inr ⟨items, symbol, midPrice, imbalance, bestBid, bestAsk, order, hdict, rfl,
              hsymbol.trans hfor, Or.inr ⟨position, signal, reason, due, hquantity.trans hwhole, ?_⟩⟩
            rw [hside]
            exact hagainst
          · exact Or.inl rfl

/-! ## What a submission does to the ledger -/

section Submission

variable {markPrices : Dict String ℚ} {order : Order ℚ} {before : PositionLedger ℚ} {fill : Fill ℚ}
  {books : Books ℚ}

lemma quantityOf_holdsFill (h : HoldsFill markPrices order before fill books)
    (hq : 0 < fill.quantity) (symbol : String) :
    books.ledger.quantityOf symbol
      = if symbol = fill.symbol then
          sweep (sweep (before.quantityOf symbol) + order.side.signed fill.quantity)
        else before.quantityOf symbol := by
  have hbook : books.ledger.quantityOf symbol
      = (before.book fill order.side).1.quantityOf symbol := by
    rcases h with h | h
    · rw [h]
    · rw [h, markPositions_quantityOf]
  rw [hbook]
  split_ifs with hsymbol
  · rw [hsymbol, quantityOf_book hq]
  · rw [quantityOf, getPosition_book_of_ne hsymbol, quantityOf]

lemma getPosition_holdsFill (h : HoldsFill markPrices order before fill books) {symbol : String}
    {position : Position ℚ} (hposition : books.ledger.getPosition symbol = some position) :
    ∃ p, position.quantity = p.quantity ∧ position.averageEntry = p.averageEntry
      ∧ ((symbol ≠ fill.symbol ∧ before.getPosition symbol = some p)
        ∨ (symbol = fill.symbol ∧ p = (before.filled fill order.side).1)) := by
  obtain ⟨p, hp, hquantity, hentry⟩ : ∃ p, (before.book fill order.side).1.getPosition symbol = some p
      ∧ position.quantity = p.quantity ∧ position.averageEntry = p.averageEntry := by
    rcases h with h | h
    · exact ⟨position, h ▸ hposition, rfl, rfl⟩
    · exact getPosition_markPositions (h ▸ hposition)
  refine ⟨p, hquantity, hentry, ?_⟩
  by_cases hsymbol : symbol = fill.symbol
  · refine Or.inr ⟨hsymbol, ?_⟩
    rw [hsymbol, getPosition_book_self] at hp
    split_ifs at hp
    exact (Option.some.inj hp).symm
  · rw [getPosition_book_of_ne hsymbol] at hp
    exact Or.inl ⟨hsymbol, hp⟩

end Submission

/-- A fill that the exchange reports for the order is booked, and nothing else. -/
structure Executed (turn : LiveTurn ℚ) (order : Order ℚ) (before after : PositionLedger ℚ)
    (fill : Fill ℚ) : Prop where
  symbol_eq : fill.symbol = order.symbol
  filled : 0 < fill.quantity
  priced : 0 < fill.price
  reported : ∃ selected ∈ (selectExchange turn.answers.route).toOption,
    ∃ raw ∈ selected.1.createOrder.toOption, fill.quantity = extractFloat (payloadOf raw) FILLED_KEYS
      ∧ fill.price = extractFloat (payloadOf raw) PRICE_KEYS
  recorded : after.trades.length ≠ before.trades.length
  quantities : ∀ symbol, after.quantityOf symbol
    = if symbol = order.symbol then
        sweep (sweep (before.quantityOf symbol) + order.side.signed fill.quantity)
      else before.quantityOf symbol
  positions : ∀ symbol position, after.getPosition symbol = some position →
    ∃ p, position.quantity = p.quantity ∧ position.averageEntry = p.averageEntry
      ∧ ((symbol ≠ order.symbol ∧ before.getPosition symbol = some p)
        ∨ (symbol = order.symbol ∧ p = (before.filled fill order.side).1))

namespace Executed

variable {turn : LiveTurn ℚ} {order : Order ℚ} {before after : PositionLedger ℚ} {fill : Fill ℚ}

lemma quantity_self (h : Executed turn order before after fill) :
    after.quantityOf order.symbol
      = sweep (sweep (before.quantityOf order.symbol) + order.side.signed fill.quantity) := by
  rw [h.quantities, if_pos rfl]

lemma quantity_of_ne (h : Executed turn order before after fill) {symbol : String}
    (hne : symbol ≠ order.symbol) : after.quantityOf symbol = before.quantityOf symbol := by
  rw [h.quantities, if_neg hne]

lemma position_of_ne (h : Executed turn order before after fill) {symbol : String}
    (hne : symbol ≠ order.symbol) {position : Position ℚ}
    (hposition : after.getPosition symbol = some position) :
    ∃ p, before.getPosition symbol = some p ∧ position.quantity = p.quantity
      ∧ position.averageEntry = p.averageEntry := by
  obtain ⟨p, hquantity, hentry, ⟨-, hp⟩ | ⟨heq, -⟩⟩ := h.positions symbol position hposition
  · exact ⟨p, hp, hquantity, hentry⟩
  · exact absurd heq hne

lemma position_self (h : Executed turn order before after fill) {position : Position ℚ}
    (hposition : after.getPosition order.symbol = some position) :
    position.quantity = (before.filled fill order.side).1.quantity
      ∧ position.averageEntry = (before.filled fill order.side).1.averageEntry := by
  obtain ⟨p, hquantity, hentry, ⟨hne, -⟩ | ⟨-, rfl⟩⟩ := h.positions order.symbol position hposition
  · exact absurd rfl hne
  · exact ⟨hquantity, hentry⟩

end Executed

/-- A submission books one fill of its order, or none. -/
lemma submit_moves {turn : LiveTurn ℚ} {markPrices : Dict String ℚ} {order : Order ℚ} {s' : Live ℚ}
    (hbooks : s'.state.runtime.books = (live.executionPipeline.submit (turn.turn []).onBus markPrices
      order s.state.runtime.books).2.books) :
    (∃ fill, Executed turn order (ledgerOf s) (ledgerOf s') fill) ∨ ledgerOf s' = ledgerOf s := by
  rcases live.executionPipeline.submit_books (turn.turn []).onBus markPrices order
    s.state.runtime.books with ⟨exchange, price, quantity, limit, raw, hbooked, hholds, -⟩ | ⟨-, hsame⟩
  · rw [← hbooks] at hholds
    refine Or.inl ⟨fillOf order exchange quantity limit raw, rfl, hbooked.filled, hbooked.priced, ?_,
      hholds.changed markPrices order, quantityOf_holdsFill hholds hbooked.filled, ?_⟩
    · refine ⟨(exchange, price), ?_, raw, ?_, rfl, rfl⟩
      · exact congrArg Except.toOption hbooked.clears.routed
      · exact congrArg Except.toOption hbooked.answered
    · exact fun symbol position hposition => getPosition_holdsFill hholds hposition
  · exact Or.inr (congrArg Books.ledger (hbooks.trans hsame))

/-! ## A system to look at -/

/-- A strategy with ten mids in view, that buys for 90 at most and rests for `cooldownSeconds`. -/
def demoSettings (cooldownSeconds : ℚ) : MeanReversionSettings ℚ :=
  { targetNotional := 90, maxPositionNotional := 90, rollingWindow := 10, minObservations := 10
    entryZscore := 2, exitZscore := 1 / 2, imbalanceThreshold := 1 / 10, maxSpreadBps := 20
    cooldownSeconds }

/-- Nothing is set in the environment; of the square roots, those of the examples are enough. -/
def demoLive : LiveTrading ℚ :=
  { RuntimeContainer.demoContainer with
    strategy :=
      { demoSettings 0 with
        checked := by decide +kernel, getenv := fun _ => none
        sqrt := fun x => if x = 9 then 3 else if x = 16 then 4 else 0 }
    trap :=
      { symbolsGiven := ["BTC/USDT"], targetNotionalGiven := 90, maxPositionNotional := 90
        minOrderNotional := 0, orderTypeText := "MARKET", order_type_checked := by decide +kernel
        getenv := fun _ => none }
    max_shared := rfl
    min_shared := rfl }

/-- A tick at this mid. -/
def demoTick (mid : ℚ) : LiveEvent ℚ :=
  .marketTick (.dict (MarketTick.toDict demoLive.iso
    { symbol := "BTC/USDT", exchange := "SIM", bid := mid - 1 / 100, ask := mid + 1 / 100
      last := mid, volume := 1, timestamp := ⟨0⟩ }))

/-- An order book at this mid, with three times as much to buy as to sell. -/
def demoBook (mid : ℚ) : LiveEvent ℚ :=
  .service (.orderbookSnapshot (.dict (OrderBookSnapshot.toDict demoLive.iso
    { symbol := "BTC/USDT", exchange := "SIM", bids := [⟨mid - 1 / 100, 3⟩]
      asks := [⟨mid + 1 / 100, 1⟩], sequence := none, timestamp := ⟨0⟩ }))) none

/-- A dispatch at this time; the exchange fills this much of what it is sent, at 90. -/
def demoDispatch (time filled : ℚ) : LiveInput ℚ :=
  let payload : List (String × PyVal ℚ) :=
    [("id", .str "7"), ("status", .str "closed"), ("filled", .float filled), ("average", .float 90)]
  let exchange : Exchange ℚ := { demoExchange with createOrder := .ok (.dict payload) }
  .bus (.dispatch
    { now := ⟨0⟩
      answers := { demoAnswers (.ok ()) (.ok ()) with route := .ok (some (some exchange, some 90)) }
      clock := ⟨time, time, time, time, time, time, time⟩
      stamp := fun _ => ⟨"7", ⟨0⟩, ⟨0⟩⟩
      markPrices := ∅ })

/-- The system before its first event, with this ledger. -/
def demoStart (ledger : PositionLedger ℚ) : Live ℚ :=
  { state :=
      { runtime := ⟨⟨ledger, .dict []⟩, RuntimeContainer.demoSwitch, []⟩
        strategy := StrategyState.init, trap := MomentumTrapState.init, now := 0, entered := [] }
    queue := [] }

/-- Nine ticks at 100, then two order books at 90; the second one is handled at `second`. -/
def demoFall (second : ℚ) : List (LiveInput ℚ) :=
  List.replicate 9 (.bus (.publish (demoTick 100))) ++ List.replicate 2 (.bus (.publish (demoBook 90)))
    ++ List.replicate 10 (demoDispatch 0 1) ++ [demoDispatch second 1]

end LiveTrading

end Aegis
