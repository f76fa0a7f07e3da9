import AegisFortress.Portfolio.Snapshot
import AegisFortress.Risk.PortfolioGuard

/-!
# Booking a fill

`execution/fill_processor.py`.  A report with a fill is booked in the ledger, stored as a trade,
marked, measured and saved, in this order; any of the calls to the database and the state store
may raise, and what was done before stays done.

`Books` is the state this touches: the ledger, and the portfolio payload that the state store
would load.
-/

namespace Aegis

section Definitions

variable {α : Type} [Add α] [Sub α] [Mul α] [Div α] [Neg α] [Zero α] [One α] [LT α] [LE α]
  [DecidableLT α] [DecidableLE α] [PyFloat α]

/-- The ledger in memory and the content of the state file. -/
structure Books (α : Type) where
  ledger : PositionLedger α
  saved : PyVal α

/-- `FillProcessor`, less the ledger, which is part of the state. -/
structure FillProcessor (α : Type) [Zero α] [One α] [LT α] [LE α] where
  portfolioGuard : PortfolioGuard α

/-- What the database and the state store answer while one fill is processed; there may be no
database at all. -/
structure StoreAnswers where
  recordTrade : Option (Except PyError Unit)
  save : Except PyError Unit

/-- Call a service that may be missing. -/
def callOptional {σ : Type} (answer : Option (Except PyError Unit)) : EStateM PyError σ Unit :=
  match answer with
  | none => pure ()
  | some answer => Raising.lift answer

/-- `FillProcessingResult`. -/
structure FillProcessingResult (α : Type) where
  processed : Bool
  trade : Option (Trade α) := none
  exposureSnapshot : Option (ExposureSnapshot α) := none
  breaches : List RiskBreach := []

/-! ## Dictionaries -/

/-- A dictionary of floats. -/
def PyVal.ofFloats (d : Dict String α) : PyVal α := .dict (d.entries.map fun e => (e.1, .float e.2))

/-- `Trade.to_dict()`. -/
def Trade.toDict (trade : Trade α) : PyVal α :=
  .dict [("order_id", .ofOption trade.orderId), ("symbol", .str trade.symbol),
    ("side", .str trade.side.value), ("quantity", .float trade.quantity),
    ("price", .float trade.price), ("exchange", .str trade.exchange), ("pnl", .float trade.pnl),
    ("fee", .float trade.fee), ("strategy_id", .ofOption trade.strategyId)]

/-- `ExposureSnapshot.to_dict()`. -/
def ExposureSnapshot.toDict (snapshot : ExposureSnapshot α) : PyVal α :=
  .dict [("gross_exposure", .float snapshot.grossExposure),
    ("net_exposure", .float snapshot.netExposure), ("long_exposure", .float snapshot.longExposure),
    ("short_exposure", .float snapshot.shortExposure),
    ("symbol_exposure", .ofFloats snapshot.symbolExposure),
    ("symbol_weights", .ofFloats snapshot.symbolWeights)]

/-- `RiskBreach.to_dict()`. -/
def RiskBreach.toDict (breach : RiskBreach) : PyVal α :=
  .dict [("code", .str breach.code), ("message", .str breach.message),
    ("severity", .str breach.severity)]

/-- `ExecutionReport.to_dict()`. -/
def ExecutionReport.toDict (report : ExecutionReport α) : PyVal α :=
  .dict [("symbol", .str report.symbol), ("side", .str report.side),
    ("requested_quantity", .float report.requestedQuantity),
    ("filled_quantity", .float report.filledQuantity),
    ("average_fill_price", .float report.averageFillPrice), ("status", .str report.status.value),
    ("exchange", .str report.exchange), ("exchange_order_id", .ofOption report.exchangeOrderId),
    ("correlation_id", .ofOption report.correlationId), ("fee", .float report.fee)]

/-- `FillProcessingResult.to_dict()`. -/
def FillProcessingResult.toDict (result : FillProcessingResult α) : List (String × PyVal α) :=
  [("processed", .bool result.processed), ("trade", result.trade.elim .none Trade.toDict),
    ("exposure_snapshot", result.exposureSnapshot.elim .none ExposureSnapshot.toDict),
    ("breaches", .list (result.breaches.map RiskBreach.toDict))]

/-! ## Processing -/

/-- The arguments of the `apply_fill` call. -/
def ExecutionReport.toFill (report : ExecutionReport α) (strategyId : Option String) : Fill α :=
  { symbol := report.symbol, side := report.side, quantity := report.filledQuantity
    price := report.averageFillPrice, exchange := report.exchange, fee := report.fee
    strategyId := strategyId, orderId := report.exchangeOrderId }

namespace FillProcessor

/-- `state_payload`. -/
def statePayload (ledger : PositionLedger α) (snapshot : ExposureSnapshot α)
    (breaches : List RiskBreach) (report : ExecutionReport α) : PyVal α :=
  .dict [("portfolio", .dict ledger.snapshot), ("exposure", snapshot.toDict),
    ("breaches", .list (breaches.map RiskBreach.toDict)),
    ("last_execution_report", report.toDict)]

/-- `FillProcessor.process`. -/
def process (processor : FillProcessor α) (answers : StoreAnswers) (report : ExecutionReport α)
    (markPrices : Dict String α) (strategyId : Option String) :
    EStateM PyError (Books α) (FillProcessingResult α) :=
  if report.hasFill then do
    Raising.raiseIf (report.averageFillPrice ≤ 0)
      ⟨.valueError, "Execution report has fill quantity but no valid fill price"⟩
    let before ← get
    let (ledger, trade) ← Raising.lift (before.ledger.applyFill (report.toFill strategyId))
    modify fun books => { books with ledger := ledger }
    callOptional answers.recordTrade
    modify fun books => { books with ledger := books.ledger.markPositions markPrices }
    let marked ← get
    let snapshot := ExposureEngine.calculate marked.ledger.positions markPrices
    let breaches := processor.portfolioGuard.validate snapshot
    Raising.lift answers.save
    modify fun books =>
      { books with saved := (statePayload marked.ledger snapshot breaches report).stored }
    pure { processed := true, trade := some trade, exposureSnapshot := some snapshot
           breaches := breaches }
  else pure { processed := false }

end FillProcessor

end Definitions

/-! ## What processing a report can do -/

/-- The call goes through, or there is nobody to call. -/
def GoesThrough (answer : Option (Except PyError Unit)) : Prop := ∀ e, answer ≠ some (.error e)

@[simp] lemma leads_callOptional {σ : Type} {answer : Option (Except PyError Unit)} {s : σ}
    {Q : Unit → σ → Prop} {E : PyError → σ → Prop} :
    Raising.Leads (callOptional answer) s Q E
      ↔ (GoesThrough answer → Q () s) ∧ ∀ e, answer = some (.error e) → E e s := by
  rcases answer with _ | e | u
  · simp [callOptional, GoesThrough]
  · simp [callOptional, GoesThrough]
  · have hgo : GoesThrough (some (.ok u)) := fun e h => by cases h
    rw [callOptional, Raising.leads_lift]
    constructor
    · exact fun h => ⟨fun _ => h.1 u rfl, fun e he => by cases he⟩
    · exact fun h => ⟨fun _ _ => h.1 hgo, fun e he => by cases he⟩

namespace FillProcessor

open Raising

variable {α : Type} [Add α] [Sub α] [Mul α] [Div α] [Neg α] [Zero α] [One α] [LT α] [LE α]
  [DecidableLT α] [DecidableLE α] [PyFloat α]
  (processor : FillProcessor α) (answers : StoreAnswers) (report : ExecutionReport α)
  (markPrices : Dict String α) (strategyId : Option String) (books : Books α)

/-- The result and the books when everything went through. -/
def completed (ledger : PositionLedger α) (trade : Trade α) : FillProcessingResult α × Books α :=
  let marked := ledger.markPositions markPrices
  let snapshot := ExposureEngine.calculate marked.positions markPrices
  let breaches := processor.portfolioGuard.validate snapshot
  (⟨true, some trade, some snapshot, breaches⟩,
    ⟨marked, (statePayload marked snapshot breaches report).stored⟩)

/-- The five ways `process` can end, with the books it leaves. -/
inductive Outcome : EStateM.Result PyError (Books α) (FillProcessingResult α) → Prop
  | noFill (h : ¬ report.hasFill) : Outcome (.ok { processed := false } books)
  | refused (h : report.hasFill) (e : PyError)
      (hr : report.averageFillPrice ≤ 0
        ∨ ∃ e, books.ledger.applyFill (report.toFill strategyId) = .error e) :
      Outcome (.error e books)
  | unrecorded (h : report.hasFill) (hprice : ¬ report.averageFillPrice ≤ 0)
      (r : PositionLedger α × Trade α)
      (hr : books.ledger.applyFill (report.toFill strategyId) = .ok r) (e : PyError)
      (he : answers.recordTrade = some (.error e)) :
      Outcome (.error e { books with ledger := r.1 })
  | unsaved (h : report.hasFill) (hprice : ¬ report.averageFillPrice ≤ 0)
      (r : PositionLedger α × Trade α)
      (hr : books.ledger.applyFill (report.toFill strategyId) = .ok r)
      (hrecord : GoesThrough answers.recordTrade) (e : PyError) (he : answers.save = .error e) :
      Outcome (.error e { books with ledger := r.1.markPositions markPrices })
  | completed (h : report.hasFill) (hprice : ¬ report.averageFillPrice ≤ 0)
      (r : PositionLedger α × Trade α)
      (hr : books.ledger.applyFill (report.toFill strategyId) = .ok r)
      (hrecord : GoesThrough answers.recordTrade) (hsave : answers.save = .ok ()) :
      Outcome (.ok (processor.completed report markPrices r.1 r.2).1
        (processor.completed report markPrices r.1 r.2).2)

theorem process_outcome : Outcome processor answers report markPrices strategyId books
    ((processor.process answers report markPrices strategyId).run books) := by
  refine leads_outcome.mp ?_
  rw [process, leads_ite]
  refine ⟨fun hfill => ?_, fun hno => leads_pure.mpr (.noFill hno)⟩
  simp only [leads_bind, leads_raiseIf, leads_get, leads_lift, leads_modify, leads_callOptional,
    leads_pure]
  refine ⟨fun hle => .refused hfill _ (Or.inl hle), fun hprice => ⟨?_, ?_⟩⟩
  · intro r hr
    refine ⟨fun hrecord => ⟨?_, ?_⟩, ?_⟩
    · intro _ hsave
      exact .completed hfill hprice r hr hrecord hsave
    · intro e he
      exact .unsaved hfill hprice r hr hrecord e he
    · intro e he
      exact .unrecorded hfill hprice r hr e he
  · intro e he
    exact .refused hfill e (Or.inr ⟨e, he⟩)

end FillProcessor

end Aegis
