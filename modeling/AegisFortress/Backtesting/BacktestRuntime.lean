import AegisFortress.Backtesting.ReplayOrder
import AegisFortress.Backtesting.SimulatedOrders
import AegisFortress.Core.SmartOrderRouter
import AegisFortress.Execution.SubmitGuarantees
import AegisFortress.Portfolio.LedgerAccounting
import AegisFortress.Portfolio.UnrealizedPnl

/-!
# The backtest

`backtesting/backtest_runtime.py` puts the replayed records, the simulated exchange, the execution pipeline and
the ledger together, and samples the equity while they run.  The tasks take turns: a record is handled, an order
of the strategy goes through the pipeline, or a point of the equity curve is recorded, in any order.

`backtest_reconciles`: the trades of the ledger are the executed orders of the simulated exchange, one for one,
and a recorded equity is the initial one, the cash the executed orders left, and what is held at the current marks.
-/

namespace Aegis

open CashBook PositionLedger Raising

/-! ## The equity curve -/

structure EquityPoint where
  timestamp : DateTime
  equity : ℚ
  realizedPnl : ℚ
  unrealizedPnl : ℚ
  grossExposure : ℚ
  netExposure : ℚ

/-- `EquityCurveTracker`, with the constructor's check. -/
structure EquityCurveTracker where
  initialEquity : ℚ
  points : List EquityPoint
  initial_checked : ¬ initialEquity ≤ 0

/-- `EquityCurveTracker.record`. -/
def EquityCurveTracker.record (curve : EquityCurveTracker) (timestamp : DateTime)
    (realizedPnl unrealizedPnl grossExposure netExposure : ℚ) : EquityCurveTracker :=
  let equity := curve.initialEquity + realizedPnl + unrealizedPnl
  { curve with
    points := curve.points
      ++ [⟨timestamp, equity, realizedPnl, unrealizedPnl, grossExposure, netExposure⟩] }

/-! ## The simulated exchange as a client -/

namespace SimulatedExchange

/-- `SimulatedExchange.fetch_ticker`. -/
def fetchTicker (exchange : SimulatedExchange ℚ) (symbol : String) : Except PyError (PyVal ℚ) :=
  match exchange.ticks.get? symbol with
  | none => .error ⟨.runtimeError, s!"No simulated ticker available for {symbol}"⟩
  | some tick => .ok (.dict [("symbol", .str symbol), ("bid", .float tick.bid), ("ask", .float tick.ask),
      ("last", .float tick.last), ("baseVolume", .float tick.volume),
      ("timestamp", .int (tick.timestamp.micros / 1000))])

/-- What the router sees of it. -/
def quotes (exchange : SimulatedExchange ℚ) (symbol : String) : Quotes ℚ where
  executionEnabled := true
  getBestAsk := some ((exchange.getBestAsk symbol).map .float)
  getBestBid := some ((exchange.getBestBid symbol).map .float)
  fetchTicker := exchange.fetchTicker symbol

/-- The arguments of the `create_order` call. -/
def requestOf (order : Order ℚ) : OrderRequest :=
  ⟨order.symbol, pyLower order.orderType.value, pyLower order.side.value, order.quantity, order.price⟩

/-- What the pipeline sees of it: it rounds nothing and has no minimum. -/
def client (exchange : SimulatedExchange ℚ) (order : Order ℚ) : Exchange ℚ where
  id := "SIMULATED"
  amountToPrecision := none
  priceToPrecision := none
  minOrderNotional := none
  createOrder := (exchange.create (requestOf order)).map fun placed => .dict placed.1.toCcxtLikePayload

/-- The exchange after that call; an order that raises leaves nothing behind. -/
def afterCall (exchange : SimulatedExchange ℚ) (order : Order ℚ) : SimulatedExchange ℚ :=
  match exchange.create (requestOf order) with
  | .ok (_, after) => after
  | .error _ => exchange

end SimulatedExchange

/-! ## The runtime -/

/-- `BacktestRuntime`: the parts of it that do not change, and the environment of the process. -/
structure BacktestRuntime where
  lib : StdLib ℚ
  getenv : Environ
  executionPipeline : ExecutionPipeline ℚ

/-- The parts of it that change. -/
structure Backtest where
  replayService : ReplayMarketDataService ℚ
  books : Books ℚ
  equityCurve : EquityCurveTracker

/-- What the database and the event bus answer to one order, besides the stores. -/
structure BacktestAnswers extends StoreAnswers where
  recordExecutionReport : Option (Except PyError Unit)
  publish : Option (Except PyError Unit)

/-- A turn of one of the tasks. -/
inductive BacktestTurn
  | record (now : DateTime) (record : ReplayRecord ℚ)
  | order (order : Order ℚ) (markPrices : Dict String ℚ) (answers : BacktestAnswers)
  | equityPoint (utcnow : DateTime)

namespace BacktestRuntime

/-- What the router and the others answer to an order. -/
def answersTo (runtime : BacktestRuntime) (exchange : SimulatedExchange ℚ) (order : Order ℚ)
    (answers : BacktestAnswers) : Answers ℚ where
  recordTrade := answers.recordTrade
  save := answers.save
  route := (SmartOrderRouter.findBestExchange runtime.getenv [("SIMULATED", exchange.client order)]
    (fun _ => exchange.quotes order.symbol) order.symbol order.side.value).map
      fun best => some (some best.1, some best.2)
  recordExecutionReport := answers.recordExecutionReport
  publish := answers.publish

/-- `ExecutionPipeline.submit` of an order. -/
def submit (runtime : BacktestRuntime) (b : Backtest) (order : Order ℚ) (markPrices : Dict String ℚ)
    (answers : BacktestAnswers) : Backtest :=
  let exchange := b.replayService.simulatedExchange
  let result := runtime.executionPipeline.submit (runtime.answersTo exchange order answers) markPrices order
    b.books
  { b with
    books := result.2.books
    replayService := { b.replayService with
      simulatedExchange := if calls result.2.trace = [] then exchange else exchange.afterCall order } }

end BacktestRuntime

/-- `BacktestRuntime._record_equity_point`. -/
def Backtest.recordEquityPoint (b : Backtest) (utcnow : DateTime) : Backtest :=
  let markPrices := b.replayService.marketStateStore.markPrices
  let ledger := b.books.ledger.markPositions markPrices
  let exposure := ExposureEngine.calculate ledger.positions markPrices
  let unrealizedPnl := ledger.positions.sum fun _ position => position.unrealizedPnl
  let timestamp := b.replayService.replayClock.currentTime.getD utcnow
  { b with
    books := { b.books with ledger := ledger }
    equityCurve := b.equityCurve.record timestamp ledger.realizedPnl unrealizedPnl exposure.grossExposure
      exposure.netExposure }

namespace BacktestRuntime

variable (runtime : BacktestRuntime)

/-- One turn. -/
def step (b : Backtest) : BacktestTurn → Backtest
  | .record now record =>
      { b with
        replayService := final ((ReplayMarketDataService.processRecord runtime.lib now record).run b.replayService) }
  | .order order markPrices answers => runtime.submit b order markPrices answers
  | .equityPoint utcnow => b.recordEquityPoint utcnow

/-- A backtest that has not begun. -/
def opening (curve : EquityCurveTracker) (feeModel : PercentageFeeModel ℚ)
    (slippageModel : BasisPointSlippageModel ℚ) : Backtest where
  replayService := ReplayMarketDataService.ready MarketStateStore.init (.init feeModel slippageModel)
  books := ⟨PositionLedger.empty, .dict []⟩
  equityCurve := curve

/-- A backtest after these turns. -/
def after (start : Backtest) (turns : List BacktestTurn) : Backtest := turns.foldl runtime.step start

end BacktestRuntime

/-! ## What was executed -/

/-- An executed order, as a fill without a strategy. -/
def SimulatedExchangeOrder.toFill (order : SimulatedExchangeOrder ℚ) : Fill ℚ :=
  { symbol := order.symbol, side := pyUpper order.side, quantity := order.filled, price := order.average
    exchange := "SIMULATED", fee := order.fee, orderId := some order.orderId }

/-- A trade, as a fill without a strategy. -/
def Trade.toFill (trade : Trade ℚ) : Fill ℚ :=
  { symbol := trade.symbol, side := trade.side.value, quantity := trade.quantity, price := trade.price
    exchange := trade.exchange, fee := trade.fee, orderId := trade.orderId }

/-- The executed orders of the exchange, the oldest first. -/
def SimulatedExchange.executed (exchange : SimulatedExchange ℚ) : List (Fill ℚ) :=
  (exchange.orders.values.filter fun order => order.status = "closed").map SimulatedExchangeOrder.toFill

/-- The executed orders so far. -/
def Backtest.executed (b : Backtest) : List (Fill ℚ) := b.replayService.simulatedExchange.executed

namespace SimulatedExchange

variable {exchange after : SimulatedExchange ℚ} {order : Order ℚ} {placed : SimulatedExchangeOrder ℚ}

/-- Every id is one that the counter has yielded. -/
def Numbered (exchange : SimulatedExchange ℚ) : Prop :=
  ∀ id ∈ exchange.orders.keys, ∃ k < exchange.nextId, id = s!"sim-{k}"

/-- The order that is written down. -/
lemma create_names {request : OrderRequest} (h : exchange.create request = .ok (placed, after)) :
    placed.symbol = request.symbol ∧ placed.side = pyLower request.side := by
  rw [create, createOrder] at h
  split_ifs at h
  cases hprice : exchange.determineFillPrice request.symbol (pyLower request.type)
      (pyLower request.side) request.price with
  | error e =>
      rw [hprice] at h
      cases h
  | ok price =>
      rw [hprice] at h
      cases price with
      | none =>
          cases h
          exact ⟨rfl, rfl⟩
      | some price =>
          cases h
          exact ⟨rfl, rfl⟩

/-- A new order is the last one of the exchange. -/
lemma create_orders (hnumbered : exchange.Numbered) {request : OrderRequest}
    (h : exchange.create request = .ok (placed, after)) :
    after.Numbered ∧ after.executed = exchange.executed
      ++ (if placed.status = "closed" then [placed.toFill] else []) := by
  obtain ⟨⟨price, hwritten⟩, rfl⟩ := create_ok h
  have hfresh : placed.orderId ∉ exchange.orders.keys := by
    intro hin
    obtain ⟨k, hk, hname⟩ := hnumbered _ hin
    rw [hwritten.orderId_eq] at hname
    simp only [String.append_right_inj] at hname
    exact absurd (natToString_injective hname.symm) hk.ne
  constructor
  · intro id hid
    rw [Dict.keys_set, if_neg hfresh] at hid
    rcases List.mem_append.mp hid with hold | hnew
    · obtain ⟨k, hk, hname⟩ := hnumbered id hold
      exact ⟨k, Nat.lt_succ_of_lt hk, hname⟩
    · exact ⟨exchange.nextId, Nat.lt_succ_self _, (List.mem_singleton.mp hnew).trans hwritten.orderId_eq⟩
  · rw [executed, executed, Dict.values_set_of_not_mem hfresh, List.filter_append, List.map_append]
    congr 1
    by_cases hclosed : placed.status = "closed" <;> simp [hclosed]

end SimulatedExchange

/-! ## The ledger and what was executed -/

/-- The trades of the ledger are the executed orders, and unless dust was swept away its lots are what they
leave. -/
structure PositionLedger.Reconciles (ledger : PositionLedger ℚ) (executed : List (Fill ℚ)) : Prop where
  wellFormed : ledger.WellFormed
  trades : ledger.trades.map Trade.toFill = executed
  realized : ledger.realizedPnl = (ledger.trades.map Trade.pnl).sum
  posted : NoDust executed → Book.Posted Book.opening (executed.map Fill.toTx) ledger.toBook

namespace PositionLedger

variable {ledger : PositionLedger ℚ} {executed : List (Fill ℚ)} {fill : Fill ℚ} {side : OrderSide}

/-- A mark moves no lot. -/
lemma toBook_markPositions (ledger : PositionLedger ℚ) (prices : Dict String ℚ) :
    (ledger.markPositions prices).toBook = ledger.toBook := by
  have hlot : (ledger.markPositions prices).lotOf = ledger.lotOf := by
    funext symbol
    rw [lotOf, lotOf, getPosition, getPosition, PositionLedger.markPositions, Dict.get?_mapVal]
    cases ledger.positions.get? symbol with
    | none => rfl
    | some p =>
        rw [Option.map_some, Option.map_some]
        cases prices.get? symbol with
        | none => rfl
        | some price =>
            simp only [Option.map_some, Option.getD_some]
            split_ifs with hpositive
            · rw [Position.markToMarket]
              split_ifs <;> rfl
            · rfl
  rw [toBook, toBook, hlot]
  rfl

lemma Reconciles.markPositions (h : ledger.Reconciles executed) (prices : Dict String ℚ) :
    (ledger.markPositions prices).Reconciles executed where
  wellFormed := h.wellFormed.markPositions prices
  trades := h.trades
  realized := h.realized
  posted := by
    rw [toBook_markPositions]
    exact h.posted

/-- One more is executed, and booked. -/
lemma Reconciles.book (h : ledger.Reconciles executed) (hcheck : checkFill fill = .ok side) {order : Fill ℚ}
    (horder : order = { fill with side := side.value, strategyId := none }) :
    (ledger.book fill side).1.Reconciles (executed ++ [order]) := by
  obtain ⟨-, hq, hp, hside⟩ := checkFill_ok.mp hcheck
  have htx : order.toTx = fill.toTx := by
    rw [horder, Fill.toTx, Fill.toTx, Fill.signedQuantity, Fill.signedQuantity, hside,
      OrderSide.ofString?_value]
  refine ⟨h.wellFormed.book hq hp, ?_, ?_, fun hdust => ?_⟩
  · change (ledger.trades ++ [(ledger.book fill side).2]).map Trade.toFill = _
    rw [List.map_append, h.trades, horder]
    rfl
  · change ledger.realizedPnl + (ledger.book fill side).2.pnl
      = ((ledger.trades ++ [(ledger.book fill side).2]).map Trade.pnl).sum
    rw [List.map_append, List.sum_append, h.realized, List.map_singleton, List.sum_singleton]
  · have hposted := h.posted hdust.prefix
    have hleft : Settled (ledger.quantityOf fill.symbol + side.signed fill.quantity) := by
      have hsum := hdust.settled fill.symbol
      rw [signedSum, List.map_append, List.map_singleton, htx, holding_snoc, ← hposted.quantity,
        if_pos (show fill.toTx.instrument = fill.symbol from rfl)] at hsum
      change Settled ((ledger.lotOf fill.symbol).quantity + fill.signedQuantity) at hsum
      rwa [lotOf_quantity, signedQuantity_of_check hcheck] at hsum
    rw [List.map_append, List.map_singleton, htx]
    exact Book.Posted.snoc hposted (book_post h.wellFormed.live hcheck hleft)

/-- Realized and unrealized profit at any marks. -/
lemma Reconciles.equity (h : ledger.Reconciles executed) (hdust : NoDust executed) (mark : String → ℚ) :
    ledger.realizedPnl + ledger.positions.sum (fun symbol p => (mark symbol - p.averageEntry) * p.quantity)
      = cashBalance executed + ∑ symbol ∈ symbols executed, signedSum executed symbol * mark symbol := by
  have hposted := h.posted hdust
  have hcover : ∀ symbol ∈ ledger.positions.keys, symbol ∈ symbols executed := by
    intro symbol hs
    by_contra hout
    have hlot : (ledger.lotOf symbol).quantity = 0 := by
      rw [show ledger.lotOf symbol = ⟨0, 0⟩ from hposted.untouched hout]
    rw [lotOf_quantity, ← h.wellFormed.live.absent_iff, getPosition, Dict.get?_eq_none] at hlot
    exact hlot hs
  rw [Dict.sum_eq_sum_finset _ _ _ hcover]
  simp only [share_unrealized]
  exact equity_eq hposted mark

/-- Every position is marked, if everything that is held has a mark. -/
lemma Reconciles.unrealized (h : ledger.Reconciles executed) (hdust : NoDust executed) {prices : Dict String ℚ}
    (hmarked : ∀ symbol, signedSum executed symbol ≠ 0 → ∃ price, prices.get? symbol = some price ∧ 0 < price) :
    (ledger.markPositions prices).positions.sum (fun _ p => p.unrealizedPnl)
      = (ledger.markPositions prices).positions.sum
        fun symbol p => (prices.getD symbol 0 - p.averageEntry) * p.quantity := by
  refine Dict.sum_congr fun e he => ?_
  have hget := Dict.get?_eq_some.mpr he
  rw [PositionLedger.markPositions, Dict.get?_mapVal, Option.map_eq_some_iff] at hget
  obtain ⟨p, hp, hmark⟩ := hget
  have hheld : signedSum executed e.1 ≠ 0 := by
    have hquantity := (h.posted hdust).quantity e.1
    change (ledger.lotOf e.1).quantity = signedSum executed e.1 at hquantity
    rw [← hquantity, lotOf_quantity]
    intro hzero
    have habsent := (h.wellFormed.live.absent_iff e.1).mpr hzero
    rw [getPosition, hp] at habsent
    cases habsent
  obtain ⟨price, hprice, hpositive⟩ := hmarked e.1 hheld
  rw [hprice] at hmark
  simp only [if_pos hpositive] at hmark
  have hsame : (p.markToMarket price).averageEntry = p.averageEntry
      ∧ (p.markToMarket price).quantity = p.quantity := by
    rw [Position.markToMarket]
    split_ifs <;> exact ⟨rfl, rfl⟩
  rw [← hmark, markToMarket_unrealized, Dict.getD, hprice, Option.getD_some, hsame.1, hsame.2]

end PositionLedger

/-! ## One order -/

section Order

open ExecutionPipeline ExchangeResponseNormalizer SimulatedExchange

variable {runtime : BacktestRuntime} {exchange exchange' : SimulatedExchange ℚ} {order : Order ℚ}
  {placed : SimulatedExchangeOrder ℚ} {markPrices : Dict String ℚ} {answers : BacktestAnswers} {books : Books ℚ}
  {price quantity : ℚ} {limit : Option ℚ} {client : Exchange ℚ}

/-- The answer of the exchange is read back as it was written. -/
lemma read_payload (placed : SimulatedExchangeOrder ℚ) (hid : placed.orderId ≠ "") :
    let payload := placed.toCcxtLikePayload
    extractFloat payload FILLED_KEYS = placed.filled ∧ extractFloat payload PRICE_KEYS = placed.average
      ∧ extractFee payload = placed.fee
      ∧ firstTruthy payload ["id", "orderId", "clientOrderId"] = some placed.orderId := by
  refine ⟨rfl, rfl, ?_, ?_⟩
  · exact zero_add _
  · have htruthy : (PyVal.str placed.orderId : PyVal ℚ).truthy = true := by simp [PyVal.truthy, hid]
    rw [firstTruthy]
    exact if_pos htruthy

lemma roundQuantity_client (order : Order ℚ) :
    (exchange.client order).roundQuantity order.symbol order.quantity = .ok order.quantity := rfl

lemma roundPrice_client (order : Order ℚ) :
    (exchange.client order).roundPrice order.symbol order.price = .ok order.price := by
  cases hprice : order.price <;> rfl

/-- The order is sent as it is. -/
lemma clears_client
    (hc : Clears runtime.executionPipeline (runtime.answersTo exchange order answers) markPrices order books
      client price quantity limit) :
    client = exchange.client order ∧ quantity = order.quantity ∧ limit = order.price := by
  have hclient : client = exchange.client order := by
    have hrouted := hc.routed
    rw [BacktestRuntime.answersTo] at hrouted
    cases hbest : SmartOrderRouter.findBestExchange runtime.getenv [("SIMULATED", exchange.client order)]
        (fun _ => exchange.quotes order.symbol) order.symbol order.side.value with
    | error e =>
        rw [hbest] at hrouted
        cases hrouted
    | ok best =>
        obtain ⟨-, -, name, hmem, -⟩ := SmartOrderRouter.findBestExchange_price hbest
        rw [hbest] at hrouted
        simp only [Except.map, selectExchange] at hrouted
        split_ifs at hrouted
        rw [← (Prod.mk.inj (Except.ok.inj hrouted)).1]
        exact (Prod.mk.inj (List.mem_singleton.mp hmem)).2
  subst hclient
  refine ⟨rfl, ?_, ?_⟩
  · exact (Except.ok.inj ((roundQuantity_client order).symm.trans hc.rounded)).symm
  · exact (Except.ok.inj ((roundPrice_client order).symm.trans hc.limited)).symm

lemma client_answer (hcreate : exchange.create (requestOf order) = .ok (placed, exchange')) :
    (exchange.client order).createOrder = .ok (.dict placed.toCcxtLikePayload) := by
  rw [client, hcreate]
  rfl

/-- The order as it is booked. -/
lemma fillOf_client (hcreate : exchange.create (requestOf order) = .ok (placed, exchange')) :
    placed.toFill = { ExecutionPipeline.fillOf order (exchange.client order) order.quantity order.price
        (.dict placed.toCcxtLikePayload) with side := order.side.value, strategyId := none } := by
  obtain ⟨⟨price, hwritten⟩, -⟩ := create_ok hcreate
  obtain ⟨hsymbol, hside⟩ := create_names hcreate
  have hid : placed.orderId ≠ "" := by
    rw [hwritten.orderId_eq]
    intro hempty
    have hlength := congrArg String.length hempty
    simp [String.length_append] at hlength
  obtain ⟨hfilled, hprice, hfee, hname⟩ := read_payload placed hid
  have hupper : pyUpper placed.side = order.side.value := by
    rw [hside]
    change pyUpper (pyLower (pyLower order.side.value)) = order.side.value
    cases order.side <;> decide +kernel
  rw [SimulatedExchangeOrder.toFill, hupper, hsymbol, ExecutionPipeline.fillOf, reportOn,
    ExchangeResponseNormalizer.normalize, ExecutionReport.toFill]
  simp only [payloadOf, hfilled, hprice, hfee, hname]
  rfl

/-- An executed order has been filled at a positive price, and any other has not been filled. -/
lemma filled_of_create (hbps : exchange.slippageModel.bps < 10000) {request : OrderRequest}
    (hcreate : exchange.create request = .ok (placed, exchange')) :
    if placed.status = "closed" then 0 < placed.filled ∧ 0 < placed.average else placed.filled = 0 := by
  obtain ⟨⟨price, hwritten⟩, -⟩ := create_ok hcreate
  have hstatus := hwritten.status_eq
  have hfilled := hwritten.filled_eq
  cases price with
  | none =>
      rw [if_neg (by rw [hstatus]; decide), hfilled]
      rfl
  | some price =>
      have hclosed : placed.status = "closed" := hstatus
      rw [if_pos hclosed, hfilled]
      exact ⟨hwritten.amount_pos, hwritten.average_pos hclosed (Or.inl hbps)⟩

end Order

/-! ## One turn -/

/-- The ledger and the exchange agree. -/
structure Backtest.Sound (b : Backtest) : Prop where
  numbered : b.replayService.simulatedExchange.Numbered
  bps : b.replayService.simulatedExchange.slippageModel.bps < 10000
  ledger : b.books.ledger.Reconciles b.executed

namespace BacktestRuntime

open ExecutionPipeline SimulatedExchange

variable {runtime : BacktestRuntime} {b : Backtest}

lemma sound_submit (h : b.Sound) (order : Order ℚ) (markPrices : Dict String ℚ) {answers : BacktestAnswers}
    (hrecord : GoesThrough answers.recordExecutionReport) :
    (runtime.submit b order markPrices answers).Sound := by
  have hbooks := runtime.executionPipeline.submit_books
    (runtime.answersTo b.replayService.simulatedExchange order answers) markPrices order b.books
  rw [BacktestRuntime.submit]
  rcases runtime.executionPipeline.calls_submit
      (runtime.answersTo b.replayService.simulatedExchange order answers) markPrices order b.books with
    ⟨hno, hnone⟩ | ⟨client, price, quantity, limit, hc, hone⟩
  · -- nothing is sent
    have hsame := (hbooks.resolve_left fun ⟨_, _, _, _, _, hbooked, _⟩ => hno _ _ _ _ hbooked.clears).2
    rw [if_pos hnone, hsame]
    exact h
  · obtain ⟨rfl, rfl, rfl⟩ := clears_client hc
    rw [if_neg (by rw [hone]; exact List.cons_ne_nil _ _), afterCall]
    cases hcreate : b.replayService.simulatedExchange.create (requestOf order) with
    | error e =>
        have hsame := (hbooks.resolve_left fun ⟨_, _, _, _, _, hbooked, _⟩ => by
          obtain ⟨rfl, -, -⟩ := clears_client hbooked.clears
          have hanswer := hbooked.answered
          rw [client, hcreate] at hanswer
          cases hanswer).2
        rw [hsame]
        exact h
    | ok created =>
        obtain ⟨placed, after⟩ := created
        obtain ⟨hnumbered, hexecuted⟩ := create_orders h.numbered hcreate
        have hfilled := filled_of_create h.bps hcreate
        have hanswer := client_answer hcreate
        have hbps : after.slippageModel.bps < 10000 := by
          rw [(create_ok hcreate).2]
          exact h.bps
        refine ⟨hnumbered, hbps, ?_⟩
        change PositionLedger.Reconciles _ after.executed
        rw [hexecuted]
        by_cases hclosed : placed.status = "closed"
        · -- it is executed, and booked
          rw [if_pos hclosed] at hfilled
          rw [if_pos hclosed]
          have hbooked : Booked runtime.executionPipeline _ markPrices order b.books _ price order.quantity
              order.price (.dict placed.toCcxtLikePayload) :=
            ⟨hc, hanswer, hrecord, hfilled.1, hfilled.2⟩
          rcases hbooks with ⟨client', _, _, _, raw, hbooked', hholds, -⟩ | ⟨hnot, -⟩
          swap
          · exact absurd hbooked (hnot _ _ _ _ _)
          obtain ⟨rfl, rfl, rfl⟩ := clears_client hbooked'.clears
          obtain rfl := Except.ok.inj (hanswer.symm.trans hbooked'.answered)
          have hcheck : checkFill (ExecutionPipeline.fillOf order (b.replayService.simulatedExchange.client order)
              order.quantity order.price (.dict placed.toCcxtLikePayload)) = .ok order.side :=
            checkFill_ok.mpr ⟨symbol_of_valid hc.valid, hfilled.1, hfilled.2, OrderSide.ofString?_value _⟩
          have hledger := h.ledger.book hcheck (fillOf_client hcreate)
          rcases hholds with hheld | hheld
          · rw [hheld]
            exact hledger
          · rw [hheld]
            exact hledger.markPositions markPrices
        · -- it stays open, and nothing is booked
          rw [if_neg hclosed] at hfilled
          rw [if_neg hclosed, List.append_nil]
          have hsame := (hbooks.resolve_left fun ⟨_, _, _, _, _, hbooked, _⟩ => by
            obtain ⟨rfl, rfl, rfl⟩ := clears_client hbooked.clears
            obtain rfl := Except.ok.inj (hanswer.symm.trans hbooked.answered)
            have hpositive : 0 < placed.filled := hbooked.filled
            rw [hfilled] at hpositive
            exact absurd hpositive (lt_irrefl 0)).2
          rw [hsame]
          exact h.ledger

/-- A record moves no order. -/
lemma sound_record (h : b.Sound) (now : DateTime) (record : ReplayRecord ℚ) :
    (runtime.step b (.record now record)).Sound := by
  obtain ⟨_, s', hrun, hhandled⟩ :=
    (ReplayMarketDataService.processRecord_handled runtime.lib now record b.replayService).returns
  have hexchange : s'.simulatedExchange.orders = b.replayService.simulatedExchange.orders
      ∧ s'.simulatedExchange.nextId = b.replayService.simulatedExchange.nextId
      ∧ s'.simulatedExchange.slippageModel = b.replayService.simulatedExchange.slippageModel := by
    cases hhandled <;> exact ⟨rfl, rfl, rfl⟩
  obtain ⟨horders, hnext, hslippage⟩ := hexchange
  rw [step, hrun]
  refine ⟨?_, ?_, ?_⟩
  · change s'.simulatedExchange.Numbered
    rw [Numbered, horders, hnext]
    exact h.numbered
  · change s'.simulatedExchange.slippageModel.bps < 10000
    rw [hslippage]
    exact h.bps
  · change b.books.ledger.Reconciles s'.simulatedExchange.executed
    rw [executed, horders]
    exact h.ledger

/-- The report of every order can be recorded. -/
def Recorded (turns : List BacktestTurn) : Prop :=
  ∀ order markPrices answers, .order order markPrices answers ∈ turns →
    GoesThrough answers.recordExecutionReport

/-- **One turn** keeps the ledger and the exchange in agreement. -/
lemma sound_step (h : b.Sound) {turn : BacktestTurn} (hrecorded : Recorded [turn]) :
    (runtime.step b turn).Sound := by
  cases turn with
  | record now record => exact sound_record h now record
  | order order markPrices answers =>
      exact sound_submit h order markPrices (hrecorded order markPrices answers (List.mem_singleton_self _))
  | equityPoint utcnow => exact ⟨h.numbered, h.bps, h.ledger.markPositions _⟩

lemma sound_after (curve : EquityCurveTracker) (feeModel : PercentageFeeModel ℚ)
    {slippageModel : BasisPointSlippageModel ℚ} (hbps : slippageModel.bps < 10000)
    {turns : List BacktestTurn} (hrecorded : Recorded turns) :
    (runtime.after (opening curve feeModel slippageModel) turns).Sound := by
  induction turns using List.reverseRecOn with
  | nil =>
      refine ⟨fun id hid => absurd hid List.not_mem_nil, hbps, wellFormed_empty, rfl, rfl, fun _ => ?_⟩
      exact Book.Posted.nil
  | append_singleton past turn ih =>
      rw [after, List.foldl_concat]
      refine sound_step (ih fun order markPrices answers hin =>
        hrecorded order markPrices answers (List.mem_append_left _ hin)) ?_
      intro order markPrices answers hin
      exact hrecorded order markPrices answers (List.mem_append_right _ hin)

lemma initialEquity_after (start : Backtest) (turns : List BacktestTurn) :
    (runtime.after start turns).equityCurve.initialEquity = start.equityCurve.initialEquity := by
  induction turns using List.reverseRecOn with
  | nil => rfl
  | append_singleton past turn ih =>
      rw [after, List.foldl_concat, ← ih]
      cases turn <;> rfl

/-- **The backtest reconciles.**  Whatever was replayed, ordered and recorded, the trades of the ledger are the
executed orders of the exchange, one for one and in their order.  The next point of the equity curve is the
initial equity with the profits of these trades and the profit of the open positions; and where no dust was swept
away and everything that is held has a mark, it is the initial equity, the cash the executed orders left, and
what is held, at the marks. -/
theorem backtest_reconciles (runtime : BacktestRuntime) (curve : EquityCurveTracker)
    (feeModel : PercentageFeeModel ℚ) (slippageModel : BasisPointSlippageModel ℚ)
    (hbps : slippageModel.bps < 10000) (turns : List BacktestTurn) (hrecorded : Recorded turns)
    (utcnow : DateTime) :
    let b := runtime.after (opening curve feeModel slippageModel) turns
    let prices := b.replayService.marketStateStore.markPrices
    b.books.ledger.trades.map Trade.toFill = b.executed
      ∧ ∃ point, (b.recordEquityPoint utcnow).equityCurve.points = b.equityCurve.points ++ [point]
        ∧ point.equity = curve.initialEquity + (b.books.ledger.trades.map Trade.pnl).sum + point.unrealizedPnl
        ∧ (NoDust b.executed → (∀ symbol, signedSum b.executed symbol ≠ 0 →
            ∃ price, prices.get? symbol = some price ∧ 0 < price) →
          point.equity = curve.initialEquity + cashBalance b.executed
            + ∑ symbol ∈ symbols b.executed, signedSum b.executed symbol * prices.getD symbol 0) := by
  intro b prices
  have hsound : b.Sound := sound_after curve feeModel hbps hrecorded
  have hinitial : b.equityCurve.initialEquity = curve.initialEquity := initialEquity_after _ turns
  refine ⟨hsound.ledger.trades, _, rfl, ?_, fun hdust hmarked => ?_⟩
  · rw [← hinitial, ← hsound.ledger.realized]
    rfl
  · have hmarks := hsound.ledger.markPositions prices
    have hequity := hmarks.equity hdust fun symbol => prices.getD symbol 0
    rw [← hsound.ledger.unrealized hdust hmarked] at hequity
    rw [← hinitial]
    refine Eq.trans ?_ (add_assoc _ _ _).symm
    rw [← hequity]
    exact add_assoc _ _ _

/-! ## A purchase, and a tick after it -/

def shortRuntime : BacktestRuntime where
  lib := ReplayMarketDataService.demoLib
  getenv := fun _ => none
  executionPipeline := ExecutionPipeline.demoPipeline

/-- A replayed tick at so many seconds. -/
def tickAt (seconds : ℤ) (bid ask : ℚ) : BacktestTurn :=
  .record ⟨0⟩ ⟨"MARKET_TICK", ⟨seconds * 1000000⟩,
    [("symbol", .str "BTC/USDT"), ("bid", .float bid), ("ask", .float ask), ("last", .float bid)]⟩

/-- Two bought at 100, and the price rises to 110. -/
def shortTurns : List BacktestTurn :=
  [tickAt 1 99 100,
    .order ⟨"BTC/USDT", .buy, 2, .market, none, none, .created, 0, 0, none, none, none, ⟨0⟩, ⟨0⟩⟩ ∅
      ⟨⟨some (.ok ()), .ok ()⟩, some (.ok ()), some (.ok ())⟩,
    tickAt 2 110 111]

/-- The backtest after them. -/
def shortBacktest : Backtest :=
  shortRuntime.after (opening ⟨1000, [], by decide +kernel⟩ demoFee demoSlippage) shortTurns

theorem backtest_reconciles_short :
    shortBacktest.books.ledger.trades.map Trade.toFill = shortBacktest.executed
      ∧ ∃ point, (shortBacktest.recordEquityPoint ⟨0⟩).equityCurve.points
          = shortBacktest.equityCurve.points ++ [point]
        ∧ point.equity = 1000 + cashBalance shortBacktest.executed
          + ∑ symbol ∈ symbols shortBacktest.executed, signedSum shortBacktest.executed symbol
            * shortBacktest.replayService.marketStateStore.markPrices.getD symbol 0 := by
  have hrecorded : Recorded shortTurns := by
    intro order markPrices answers hin
    simp only [shortTurns, tickAt, List.mem_cons, List.not_mem_nil, or_false, reduceCtorEq, false_or,
      BacktestTurn.order.injEq] at hin
    rw [hin.2.2]
    intro e he
    cases he
  obtain ⟨htrades, point, hpoint, -, hequity⟩ := backtest_reconciles shortRuntime
    ⟨1000, [], by decide +kernel⟩ demoFee demoSlippage (by decide +kernel) shortTurns hrecorded ⟨0⟩
  refine ⟨htrades, point, hpoint, hequity ?_ ?_⟩
  · change NoDust shortBacktest.executed
    obtain ⟨fill, hfill⟩ := List.length_eq_one_iff.mp
      (by decide +kernel : shortBacktest.executed.length = 1)
    have hsettled : ∀ fill ∈ shortBacktest.executed, Settled (signedSum ([] ++ [fill]) fill.symbol) := by
      decide +kernel
    rw [hfill] at hsettled ⊢
    exact noDust_nil.snoc (hsettled fill (List.mem_singleton_self _))
  · change ∀ symbol, signedSum shortBacktest.executed symbol ≠ 0 → _
    intro symbol hheld
    have hsymbols : ∀ fill ∈ shortBacktest.executed, fill.symbol = "BTC/USDT" := by decide +kernel
    have hsymbol : symbol = "BTC/USDT" := by
      by_contra hne
      refine hheld (List.sum_eq_zero fun x hx => ?_)
      obtain ⟨tx, htx, rfl⟩ := List.mem_map.mp hx
      obtain ⟨fill, hfill, rfl⟩ := List.mem_map.mp htx
      exact if_neg fun heq => hne (heq.symm.trans (hsymbols fill hfill))
    rw [hsymbol]
    exact ⟨221 / 2, by decide +kernel, by decide +kernel⟩

end BacktestRuntime

end Aegis
