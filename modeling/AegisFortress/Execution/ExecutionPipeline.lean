import AegisFortress.Execution.ExchangeResponseNormalizer
import AegisFortress.Execution.FillProcessor
import AegisFortress.Execution.OrderLifecycle
import AegisFortress.Risk.PreTradeRisk

/-!
# The execution pipeline

`execution/execution_pipeline.py`.  One `submit` checks an order, asks the router for an exchange,
lets the exchange round the order, checks it again against the risk limits, sends it, and books
what the exchange reports.  Everything from the first check to the last event stands in one `try`,
whose handler marks the order as failed.

The state is the order (a mutable record), the books, and a trace of what the outside can see:
status changes, `create_order` calls, published events.  The outside world is given by what it
answers to this submission; each answer is a value or an exception.
-/

namespace Aegis

section Definitions

variable {α : Type} [Add α] [Sub α] [Mul α] [Div α] [Neg α] [Zero α] [One α] [LT α] [LE α]
  [DecidableLT α] [DecidableLE α] [DecidableEq α] [PyFloat α]

/-! ## The outside world -/

/-- An exchange client: its name, the methods it may or may not have, and its answer to the order
it is sent. -/
structure Exchange (α : Type) where
  id : String
  amountToPrecision : Option (String → α → Except PyError (PyVal α))
  priceToPrecision : Option (String → α → Except PyError (PyVal α))
  minOrderNotional : Option (String → Except PyError (PyVal α))
  createOrder : Except PyError (PyVal α)

/-- What the outside world answers to one submission.  The router's answer may be nothing, or an
exchange and a price either of which may be missing. -/
structure Answers (α : Type) extends StoreAnswers where
  route : Except PyError (Option (Option (Exchange α) × Option α))
  recordExecutionReport : Option (Except PyError Unit)
  publish : Option (Except PyError Unit)

/-- The arguments of `exchange.create_order`. -/
structure OrderCall (α : Type) where
  symbol : String
  orderType : String
  side : String
  quantity : α
  price : Option α

/-- `ExecutionEvent`, an event of type `EXECUTION_REPORT`. -/
structure ExecutionEvent (α : Type) where
  correlationId : Option String
  report : PyVal α
  fillResult : List (String × PyVal α)

/-- What can be seen of a submission; a call is seen together with the positions held then. -/
inductive Effect (α : Type)
  | status (status : OrderStatus)
  | createOrder (call : OrderCall α) (positions : Dict String (Position α))
  | publish (event : ExecutionEvent α)

/-- The `create_order` calls of a trace, each with the positions held at that moment. -/
def calls (trace : List (Effect α)) : List (OrderCall α × Dict String (Position α)) :=
  trace.filterMap fun e =>
    match e with
    | .createOrder call positions => some (call, positions)
    | _ => none

/-- The published events of a trace. -/
def events (trace : List (Effect α)) : List (ExecutionEvent α) :=
  trace.filterMap fun e =>
    match e with
    | .publish event => some event
    | _ => none

structure World (α : Type) [Zero α] where
  order : Order α
  books : Books α
  trace : List (Effect α)

/-- Pipeline code: it changes the world and may raise. -/
abbrev Exec (α : Type) [Zero α] := EStateM PyError (World α)

/-- `ExecutionPipelineResult`, less the order, which is part of the world. -/
structure ExecutionPipelineResult (α : Type) where
  accepted : Bool
  riskDecision : Option (RiskDecision α) := none
  executionReport : Option (ExecutionReport α) := none
  fillResult : Option (FillProcessingResult α) := none
  error : Option String := none

/-- `ExecutionPipeline`, less the services, which answer through `Answers`. -/
structure ExecutionPipeline (α : Type) [Zero α] [One α] [LT α] [LE α] where
  preTradeRisk : PreTradeRiskValidator α
  fillProcessor : FillProcessor α

namespace World

def setOrder (w : World α) (f : Order α → Order α) : World α := { w with order := f w.order }

/-- `order.status = status`. -/
def setStatus (w : World α) (status : OrderStatus) : World α :=
  { w with order := { w.order with status := status }, trace := w.trace ++ [.status status] }

/-- The `create_order` call for the order as it is now. -/
def orderCall (order : Order α) : OrderCall α :=
  ⟨order.symbol, pyLower order.orderType.value, pyLower order.side.value, order.quantity,
    order.price⟩

def emit (w : World α) (effect : Effect α) : World α := { w with trace := w.trace ++ [effect] }

end World

/-! ## The order on its way to the exchange -/

/-- `OrderStateMachine.transition`. -/
def transition (newState : OrderStatus) : Exec α Unit := do
  let w ← get
  Raising.raiseIf (newState ∉ w.order.status.VALID_TRANSITIONS)
    ⟨.invalidStateTransition, s!"Invalid transition {w.order.status.value} -> {newState.value}"⟩
  modify fun w => w.setStatus newState

/-- The checks of the router's answer. -/
def selectExchange (route : Except PyError (Option (Option (Exchange α) × Option α))) :
    Except PyError (Exchange α × α) :=
  match route with
  | .error e => .error e
  | .ok none => .error ⟨.runtimeError, "Router returned no exchange"⟩
  | .ok (some (none, _)) => .error ⟨.runtimeError, "No exchange available for order"⟩
  | .ok (some (some _, none)) => .error ⟨.runtimeError, "Router returned invalid reference price"⟩
  | .ok (some (some exchange, some referencePrice)) =>
      if referencePrice ≤ 0 then .error ⟨.runtimeError, "Router returned invalid reference price"⟩
      else .ok (exchange, referencePrice)

namespace Exchange

/-- The quantity as the exchange rounds it. -/
def roundQuantity (exchange : Exchange α) (symbol : String) (quantity : α) : Except PyError α :=
  match exchange.amountToPrecision with
  | none => .ok quantity
  | some round => (round symbol quantity).bind PyVal.toFloat

/-- The limit price as the exchange rounds it. -/
def roundPrice (exchange : Exchange α) (symbol : String) (price : Option α) :
    Except PyError (Option α) :=
  match price, exchange.priceToPrecision with
  | some price, some round => ((round symbol price).bind PyVal.toFloat).map some
  | price, _ => .ok price

/-- `ExecutionPipeline._exchange_min_notional`: a minimum that cannot be read is no minimum. -/
def minNotional (exchange : Exchange α) (symbol : String) : Option α :=
  match exchange.minOrderNotional with
  | none => none
  | some minOrderNotional =>
      match minOrderNotional symbol with
      | .error _ => none
      | .ok .none => none
      | .ok value =>
          match value.toFloat with
          | .error _ => none
          | .ok value => if value ≤ 0 then none else some value

end Exchange

/-- `ExecutionPipeline._apply_exchange_precision`. -/
def applyExchangePrecision (exchange : Exchange α) : Exec α Unit := do
  let w ← get
  let quantity ← Raising.lift (exchange.roundQuantity w.order.symbol w.order.quantity)
  modify fun w => w.setOrder fun order => { order with quantity := quantity }
  let price ← Raising.lift (exchange.roundPrice w.order.symbol w.order.price)
  modify fun w => w.setOrder fun order => { order with price := price }

/-- `submit` after the order has passed: `ROUTED`, then `create_order`. -/
def sendOrder (exchange : Exchange α) : Exec α (PyVal α) := do
  transition .routed
  modify fun w => w.setOrder fun order => { order with exchange := some exchange.id }
  modify fun w => w.emit (.createOrder (World.orderCall w.order) w.books.ledger.positions)
  Raising.lift exchange.createOrder

/-! ## The answer on its way to the books -/

/-- `ExecutionPipeline._apply_report_status`: a transition the state machine refuses is made all
the same. -/
def applyReportStatus (report : ExecutionReport α) : Exec α Unit :=
  if report.status = .submitted then pure ()
  else do
    tryCatch (transition report.status) fun _ => modify fun w => w.setStatus report.status
    modify fun w => w.setOrder fun order =>
      { order with
        filledQuantity := report.filledQuantity
        averageFillPrice := report.averageFillPrice
        exchangeOrderId := report.exchangeOrderId }

/-- The `EXECUTION_REPORT` event. -/
def executionEvent (report : ExecutionReport α) (fill : FillProcessingResult α) :
    ExecutionEvent α := ⟨report.correlationId, report.toDict, fill.toDict⟩

/-- `ExecutionPipeline._publish_execution_event`. -/
def publishExecutionEvent (publish : Option (Except PyError Unit)) (report : ExecutionReport α)
    (fill : FillProcessingResult α) : Exec α Unit :=
  match publish with
  | none => pure ()
  | some answer => do
      Raising.lift answer
      modify fun w => w.emit (.publish (executionEvent report fill))

namespace ExecutionPipeline

variable (pipeline : ExecutionPipeline α) (answers : Answers α) (markPrices : Dict String α)

/-- `submit` up to the risk decision. -/
def prepare : Exec α (Exchange α × RiskDecision α) := do
  let w ← get
  Raising.lift w.order.validate
  transition .validated
  let (exchange, referencePrice) ← Raising.lift (selectExchange answers.route)
  applyExchangePrecision exchange
  let w ← get
  pure (exchange, pipeline.preTradeRisk.validate w.order referencePrice w.books.ledger.positions
    markPrices (exchange.minNotional w.order.symbol))

/-- `submit` from the exchange's answer to the published event. -/
def settle (rawResponse : PyVal α) : Exec α (ExecutionReport α × FillProcessingResult α) := do
  transition .submitted
  let w ← get
  let report := ExchangeResponseNormalizer.normalize w.order (w.order.exchange.getD "") rawResponse
  callOptional answers.recordExecutionReport
  applyReportStatus report
  let fill ← Raising.zoom World.books (fun w books => { w with books := books })
    (pipeline.fillProcessor.process answers.toStoreAnswers report markPrices w.order.strategyId)
  publishExecutionEvent answers.publish report fill
  pure (report, fill)

/-- The body of the `try` statement. -/
def attempt : Exec α (ExecutionPipelineResult α) := do
  let (exchange, riskDecision) ← pipeline.prepare answers markPrices
  if riskDecision.allowed then do
    let rawResponse ← sendOrder exchange
    let (report, fill) ← pipeline.settle answers markPrices rawResponse
    pure { accepted := true, riskDecision := some riskDecision, executionReport := some report
           fillResult := some fill }
  else do
    transition .rejected
    pure { accepted := false, riskDecision := some riskDecision }

/-- `ExecutionPipeline.submit`. -/
def submit (order : Order α) (books : Books α) : ExecutionPipelineResult α × World α :=
  match (pipeline.attempt answers markPrices).run ⟨order, books, []⟩ with
  | .ok result world => (result, world)
  | .error e world => ({ accepted := false, error := some e.message }, world.setStatus .failed)

end ExecutionPipeline

end Definitions

end Aegis
