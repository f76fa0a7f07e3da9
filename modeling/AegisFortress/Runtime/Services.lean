import AegisFortress.Execution.ExecutionPipeline
import AegisFortress.Execution.OrderEventCodec
import AegisFortress.Lib.EventLoop
import AegisFortress.Risk.KillSwitch

/-!
# The services on the event bus

`core/event_bus.py` and the three services of `microservices/` that trade.  The strategy service
turns order books into order requests, the execution service submits them, and the risk service
reads the execution reports and trips the kill switch.

The bus hands out one event at a time, to the service that has subscribed to its type, and waits
for it.  A handler that raises is logged and dropped, so a dispatch never fails; what the handler
has done by then stays done.  While a submission waits for the exchange other tasks may publish;
its own event comes last, so theirs may as well have been published before it began.
-/

namespace Aegis

section Definitions

variable {α : Type} [Add α] [Sub α] [Mul α] [Div α] [Neg α] [Zero α] [One α] [LT α] [LE α]
  [DecidableLT α] [DecidableLE α] [DecidableEq α] [PyFloat α]

/-! ## Events -/

/-- `OrderRequestEvent`. -/
structure OrderRequestEvent (α : Type) where
  correlationId : Option String
  orderPayload : PyVal α
  markPrices : Dict String α

/-- `RiskEvent`. -/
structure RiskEvent (α : Type) where
  correlationId : Option String
  severity : String
  code : String
  message : String
  metadata : PyVal α

/-- The events on the bus, by type; nobody here listens to the other types. -/
inductive Event (α : Type)
  | orderbookSnapshot (orderbook : PyVal α)
  | orderRequest (event : OrderRequestEvent α)
  | executionReport (event : ExecutionEvent α)
  | riskBreach (event : RiskEvent α)
  | other (eventType : String)

/-! ## The runtime -/

/-- What `RuntimeContainer.build` wires together, less what is state. -/
structure RuntimeContainer (α : Type) [Zero α] [One α] [LT α] [LE α] where
  executionPipeline : ExecutionPipeline α
  iso : IsoFormat

/-- What the services share, and the `create_order` calls made so far. -/
structure RuntimeState (α : Type) [Zero α] [LE α] where
  books : Books α
  killSwitch : KillSwitch α
  orderCalls : List (OrderCall α)

/-- What the outside world answers while one event is handled: the clock, the exchange and the
stores, the strategy's orders once its kill switch check has passed, and the last mark prices. -/
structure Turn (α : Type) [Zero α] where
  now : DateTime
  answers : Answers α
  onOrderbook : PyVal α → List (Order α)
  markPrices : Dict String α

/-- The bus takes every event. -/
def Turn.onBus (turn : Turn α) : Answers α := { turn.answers with publish := some (.ok ()) }

namespace RuntimeContainer

variable (container : RuntimeContainer α) (turn : Turn α) (state : RuntimeState α)

/-- `LiveStrategyService._on_orderbook_snapshot`; the strategy asks the kill switch first. -/
def onOrderbookSnapshot (orderbook : PyVal α) : RuntimeState α × List (Event α) :=
  if state.killSwitch.isActive then
    (state, (turn.onOrderbook orderbook).map fun order =>
      .orderRequest ⟨order.correlationId, .dict (OrderEventCodec.encode container.iso order),
        turn.markPrices⟩)
  else (state, [])

/-- `ExecutionService._on_order_request`. -/
def onOrderRequest (event : OrderRequestEvent α) : RuntimeState α × List (Event α) :=
  match OrderEventCodec.decode container.iso turn.now event.orderPayload with
  | .error _ => (state, [])
  | .ok order =>
      let world := (container.executionPipeline.submit turn.onBus event.markPrices order
        state.books).2
      ({ state with
          books := world.books
          orderCalls := state.orderCalls ++ (calls world.trace).map Prod.fst },
        (events world.trace).map .executionReport)

/-- `str(breach.get(key, default))`. -/
def breachText (breach : List (String × PyVal α)) (key default : String) : String :=
  ((breach.lookup key).getD (.str default)).toStr

/-- The severity of a breach. -/
def breachSeverity (breach : List (String × PyVal α)) : String :=
  pyUpper (breachText breach "severity" "WARNING")

/-- The breaches that `_on_execution_report` gets through: the loop raises at the first one that
is no dictionary. -/
def breachesOf (event : ExecutionEvent α) : List (List (String × PyVal α)) :=
  match (event.fillResult.lookup "breaches").getD (.list []) with
  | .list breaches => readable breaches
  | _ => []
where
  readable : List (PyVal α) → List (List (String × PyVal α))
    | .dict breach :: rest => breach :: readable rest
    | _ => []

/-- One round of the loop over the breaches. -/
def onBreach (event : ExecutionEvent α) (r : KillSwitch α × List (Event α))
    (breach : List (String × PyVal α)) : KillSwitch α × List (Event α) :=
  let severity := breachSeverity breach
  let message := breachText breach "message" "Risk breach detected"
  let switch := if severity = "CRITICAL" then r.1.trigger message else r.1
  (switch, r.2 ++ [.riskBreach
    { correlationId := event.correlationId, severity
      code := breachText breach "code" "UNKNOWN_RISK_BREACH", message
      metadata := .dict [("execution_report", event.report), ("breach", .dict breach),
        ("kill_switch", switch.status)] }])

/-- `RiskService._on_execution_report`. -/
def onExecutionReport (event : ExecutionEvent α) : RuntimeState α × List (Event α) :=
  let (switch, published) := (breachesOf event).foldl (onBreach event) (state.killSwitch, [])
  ({ state with killSwitch := switch }, published)

/-- The callbacks of the three services. -/
def handle (event : Event α) : RuntimeState α × List (Event α) :=
  match event with
  | .orderbookSnapshot orderbook => container.onOrderbookSnapshot turn state orderbook
  | .orderRequest event => container.onOrderRequest turn state event
  | .executionReport event => onExecutionReport state event
  | .riskBreach _ => (state, [])
  | .other _ => (state, [])

end RuntimeContainer

/-- What an operator can do to the services. -/
inductive Command
  | reset

/-- `KillSwitch.reset()`, called from outside. -/
def Command.apply : Command → RuntimeState α → RuntimeState α
  | .reset, state => { state with killSwitch := state.killSwitch.reset }

abbrev Runtime (α : Type) [Zero α] [LE α] := EventLoop (RuntimeState α) (Event α)

abbrev RuntimeInput (α : Type) [Zero α] := EventLoop.Input (Event α) (Turn α) Command

/-- The event bus with its services takes one step. -/
def RuntimeContainer.step (container : RuntimeContainer α) :
    Runtime α → RuntimeInput α → Option (Runtime α) :=
  EventLoop.step (fun turn event state => container.handle turn state event) Command.apply

end Definitions

end Aegis
