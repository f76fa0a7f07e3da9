import AegisFortress.Execution.SubmitOutcome

/-!
# What a submission guarantees, and when

Three questions about every submission, whatever the outside world answers.

* `submit_checked` — what reaches the exchange: one order at most, and the very quantity that is
  sent has passed the risk check.
* `fill_booked_iff` — when a fill the exchange reports reaches the ledger.  The database write
  before the booking, a first readable key that reads zero, and dust each lose it.
* `failed_unchanged_iff` — when a submission that failed has left the ledger alone.  Whatever
  raises after `apply_fill` makes it fail with the fill booked.

For the components that listen, `submit_events` says what a submission publishes.
-/

namespace Aegis

namespace ExecutionPipeline

open PositionLedger ExchangeResponseNormalizer

/-! ## What reaches the exchange -/

section Calls

variable {α : Type}

lemma calls_append (xs ys : List (Effect α)) : calls (xs ++ ys) = calls xs ++ calls ys :=
  List.filterMap_append

lemma calls_silent {trace : List (Effect α)} (h : Silent trace) : calls trace = [] := by
  rw [calls, List.filterMap_eq_nil_iff]
  intro e he
  obtain ⟨status, rfl⟩ := h e he
  rfl

lemma calls_published (answers : Answers α) (report : ExecutionReport α) (fill : FillProcessingResult α) :
    calls (published answers report fill) = [] := by
  rw [published]
  split_ifs <;> rfl

variable [Add α] [Sub α] [Mul α] [Div α] [Neg α] [Zero α] [One α] [LT α] [LE α]
  [DecidableLT α] [DecidableLE α] [DecidableEq α] [PyFloat α]
  (pipeline : ExecutionPipeline α) (answers : Answers α) (markPrices : Dict String α)
  (order : Order α) (books : Books α)

/-- A submission that is cleared makes one call, any other makes none. -/
lemma calls_submit :
    ((∀ exchange price quantity limit,
        ¬ Clears pipeline answers markPrices order books exchange price quantity limit)
      ∧ calls (pipeline.submit answers markPrices order books).2.trace = [])
    ∨ ∃ exchange price quantity limit,
        Clears pipeline answers markPrices order books exchange price quantity limit
        ∧ calls (pipeline.submit answers markPrices order books).2.trace
          = [(World.orderCall (sent order exchange quantity limit), books.ledger.positions)] := by
  have h := pipeline.submit_outcome answers markPrices order books
  generalize pipeline.submit answers markPrices order books = result at h
  cases h with
  | unsent r w hr hno hbooks htrace => exact Or.inl ⟨hno, calls_silent htrace⟩
  | unanswered hc e he r w hr hbooks tail htail htrace =>
      refine Or.inr ⟨_, _, _, _, hc, ?_⟩
      rw [htrace, calls_append, calls_silent htail]
      rfl
  | unsettled hc raw hraw e r w hr tail htail htrace =>
      refine Or.inr ⟨_, _, _, _, hc, ?_⟩
      rw [htrace, calls_append, calls_silent htail]
      rfl
  | accepted hc raw hraw hrecord fill r w hr hfill hpublish tail htail htrace =>
      refine Or.inr ⟨_, _, _, _, hc, ?_⟩
      rw [htrace, calls_append, calls_append, calls_silent htail, calls_published]
      rfl

end Calls

variable (pipeline : ExecutionPipeline ℚ) (answers : Answers ℚ) (markPrices : Dict String ℚ)
  (order : Order ℚ) (books : Books ℚ)

/-- **Nothing reaches the exchange unchecked.**  A submission calls `create_order` at most once,
and the order it sends is within every limit at the router's reference price and the positions
held at that moment. -/
theorem submit_checked :
    calls (pipeline.submit answers markPrices order books).2.trace = []
    ∨ ∃ exchange referencePrice order' positions,
        selectExchange answers.route = .ok (exchange, referencePrice)
        ∧ calls (pipeline.submit answers markPrices order books).2.trace
          = [(World.orderCall order', positions)]
        ∧ order'.symbol = order.symbol ∧ order'.side = order.side
        ∧ positions = books.ledger.positions
        ∧ pipeline.preTradeRisk.WithinLimits order' referencePrice positions markPrices
            (exchange.minNotional order.symbol) := by
  rcases pipeline.calls_submit answers markPrices order books with
    ⟨-, hnone⟩ | ⟨exchange, price, quantity, limit, hc, hone⟩
  · exact Or.inl hnone
  · refine Or.inr ⟨exchange, price, sized order quantity limit, _, hc.routed, hone, rfl, rfl, rfl, ?_⟩
    exact (PreTradeRiskValidator.allowed_iff ..).mp hc.allowed

/-! ## What reaches the ledger -/

/-- A report whose fill is booked. -/
def Fills (report : ExecutionReport ℚ) : Prop :=
  0 < report.filledQuantity ∧ 0 < report.averageFillPrice

section Processing

variable {pipeline answers markPrices order books} {report : ExecutionReport ℚ}

/-- A report without a fill leaves the books alone, whether it is refused or not. -/
lemma final_of_not_fills (h : ¬ Fills report) :
    Raising.final (processing pipeline answers markPrices order books report) = books := by
  have hout := pipeline.fillProcessor.process_outcome answers.toStoreAnswers report markPrices
    order.strategyId books
  rw [processing]
  generalize EStateM.run _ books = result at hout ⊢
  cases hout with
  | noFill => rfl
  | refused => rfl
  | unrecorded hfill hprice => exact absurd ⟨hfill, not_le.mp hprice⟩ h
  | unsaved hfill hprice => exact absurd ⟨hfill, not_le.mp hprice⟩ h
  | completed hfill hprice => exact absurd ⟨hfill, not_le.mp hprice⟩ h

/-- A report with a fill is booked, whatever happens next; processing then returns exactly when
the trade can be recorded and the state saved. -/
lemma processing_of_fills {side : OrderSide} (h : Fills report) (hs : report.symbol ≠ "")
    (hside : OrderSide.ofString? report.side = some side) :
    let booked := (books.ledger.book (report.toFill order.strategyId) side).1
    let result := processing pipeline answers markPrices order books report
    ((Raising.final result).ledger = booked
        ∨ (Raising.final result).ledger = booked.markPositions markPrices)
      ∧ ((∃ fill b, result = .ok fill b)
        ↔ GoesThrough answers.recordTrade ∧ answers.save = .ok ()) := by
  intro booked result
  have happly : books.ledger.applyFill (report.toFill order.strategyId)
      = .ok (books.ledger.book (report.toFill order.strategyId) side) :=
    applyFill_of_check (checkFill_ok.mpr ⟨hs, h.1, h.2, hside⟩)
  have hout : FillProcessor.Outcome pipeline.fillProcessor answers.toStoreAnswers report
      markPrices order.strategyId books result :=
    pipeline.fillProcessor.process_outcome answers.toStoreAnswers report markPrices
      order.strategyId books
  generalize result = result at hout ⊢
  cases hout with
  | noFill hno => exact absurd h.1 hno
  | refused hfill e hr =>
      rcases hr with hle | ⟨e', he⟩
      · exact absurd h.2 (not_lt.mpr hle)
      · rw [happly] at he
        cases he
  | unrecorded hfill hprice r hr e he =>
      rw [happly] at hr
      cases hr
      refine ⟨Or.inl rfl, ?_⟩
      constructor
      · rintro ⟨fill, b, hok⟩
        cases hok
      · rintro ⟨hrecord, -⟩
        exact absurd he (hrecord e)
  | unsaved hfill hprice r hr hrecord e he =>
      rw [happly] at hr
      cases hr
      refine ⟨Or.inr rfl, ?_⟩
      constructor
      · rintro ⟨fill, b, hok⟩
        cases hok
      · rintro ⟨-, hsave⟩
        cases he.symm.trans hsave
  | completed hfill hprice r hr hrecord hsave =>
      rw [happly] at hr
      cases hr
      exact ⟨Or.inr rfl, fun _ => ⟨hrecord, hsave⟩, fun _ => ⟨_, _, rfl⟩⟩

end Processing

/-- The order is sent, and the exchange's answer is a fill that nothing keeps from the ledger:
the report can be recorded, and the first quantity and price that can be read are positive. -/
structure Booked (exchange : Exchange ℚ) (price quantity : ℚ) (limit : Option ℚ)
    (raw : PyVal ℚ) : Prop where
  clears : Clears pipeline answers markPrices order books exchange price quantity limit
  answered : exchange.createOrder = .ok raw
  recorded : GoesThrough answers.recordExecutionReport
  filled : 0 < extractFloat (payloadOf raw) FILLED_KEYS
  priced : 0 < extractFloat (payloadOf raw) PRICE_KEYS

/-- The calls after the booking go through. -/
def LateCalls : Prop :=
  GoesThrough answers.recordTrade ∧ answers.save = .ok () ∧ GoesThrough answers.publish

/-- The fill of an answer. -/
def fillOf (exchange : Exchange ℚ) (quantity : ℚ) (limit : Option ℚ) (raw : PyVal ℚ) : Fill ℚ :=
  (reportOn order exchange quantity limit raw).toFill order.strategyId

/-- The ledger with the fill booked, perhaps marked. -/
def HoldsFill (ledger : PositionLedger ℚ) (fill : Fill ℚ) (b : Books ℚ) : Prop :=
  b.ledger = (ledger.book fill order.side).1
    ∨ b.ledger = (ledger.book fill order.side).1.markPositions markPrices

lemma symbol_of_valid {order : Order ℚ} (h : order.validate = .ok ()) : order.symbol ≠ "" := by
  rw [Order.validate] at h
  split_ifs at h with hs
  exact hs

section Answered

variable {pipeline answers markPrices order books} {exchange : Exchange ℚ} {price quantity : ℚ}
  {limit : Option ℚ} {raw : PyVal ℚ}

/-- What processing leaves of an answer that could be recorded. -/
lemma answered_books
    (hc : Clears pipeline answers markPrices order books exchange price quantity limit)
    (hraw : exchange.createOrder = .ok raw) (hrecord : GoesThrough answers.recordExecutionReport) :
    let result := processing pipeline answers markPrices order books
      (reportOn order exchange quantity limit raw)
    (Booked pipeline answers markPrices order books exchange price quantity limit raw
        ∧ HoldsFill markPrices order books.ledger (fillOf order exchange quantity limit raw)
          (Raising.final result)
        ∧ ((∃ fill b, result = .ok fill b) ↔ GoesThrough answers.recordTrade ∧ answers.save = .ok ()))
      ∨ ¬ Fills (reportOn order exchange quantity limit raw) ∧ Raising.final result = books := by
  intro result
  by_cases hfills : Fills (reportOn order exchange quantity limit raw)
  · have hsymbol : order.symbol ≠ "" := symbol_of_valid hc.valid
    obtain ⟨hholds, hok⟩ := processing_of_fills hfills hsymbol
      (OrderSide.ofString?_value order.side)
    exact Or.inl ⟨⟨hc, hraw, hrecord, hfills.1, hfills.2⟩, hholds, hok⟩
  · exact Or.inr ⟨hfills, final_of_not_fills hfills⟩

/-- The answers fix what is booked. -/
lemma Booked.fills {exchange' : Exchange ℚ} {price' quantity' : ℚ} {limit' : Option ℚ}
    {raw' : PyVal ℚ}
    (h : Booked pipeline answers markPrices order books exchange' price' quantity' limit' raw')
    (hc : Clears pipeline answers markPrices order books exchange price quantity limit) :
    exchange.createOrder = .ok raw' ∧ 0 < extractFloat (payloadOf raw') FILLED_KEYS
      ∧ 0 < extractFloat (payloadOf raw') PRICE_KEYS := by
  obtain ⟨rfl, -, -, -⟩ := h.clears.toPrepared.unique answers order hc.toPrepared
  exact ⟨h.answered, h.filled, h.priced⟩

/-- An answer that is no fill leaves nothing to book. -/
lemma not_booked
    (hc : Clears pipeline answers markPrices order books exchange price quantity limit)
    (hraw : exchange.createOrder = .ok raw)
    (hno : ¬ Fills (reportOn order exchange quantity limit raw)) (exchange' : Exchange ℚ)
    (price' quantity' : ℚ) (limit' : Option ℚ) (raw' : PyVal ℚ) :
    ¬ Booked pipeline answers markPrices order books exchange' price' quantity' limit' raw' := by
  intro hbooked
  obtain ⟨hraw', hfilled, hpriced⟩ := hbooked.fills hc
  cases hraw.symm.trans hraw'
  exact hno ⟨hfilled, hpriced⟩

end Answered

/-- **What a submission does to the books.**  It books the fill of the exchange's answer — and is
then accepted exactly when the later calls go through — or it leaves the books as they were. -/
theorem submit_books :
    let result := pipeline.submit answers markPrices order books
    (∃ exchange price quantity limit raw,
        Booked pipeline answers markPrices order books exchange price quantity limit raw
        ∧ HoldsFill markPrices order books.ledger (fillOf order exchange quantity limit raw)
          result.2.books
        ∧ (result.1.accepted = true ↔ LateCalls answers))
    ∨ (∀ exchange price quantity limit raw,
        ¬ Booked pipeline answers markPrices order books exchange price quantity limit raw)
      ∧ result.2.books = books := by
  intro result
  have h : Outcome pipeline answers markPrices order books result :=
    pipeline.submit_outcome answers markPrices order books
  generalize result = result at h ⊢
  cases h with
  | unsent r w hr hno hbooks htrace =>
      exact Or.inr ⟨fun _ _ _ _ _ hb => hno _ _ _ _ hb.clears, hbooks⟩
  | unanswered hc e he r w hr hbooks tail htail htrace =>
      refine Or.inr ⟨fun _ _ _ _ _ hb => ?_, hbooks⟩
      cases (hb.fills hc).1.symm.trans he
  | @unsettled exchange price quantity limit hc raw hraw e r w hr tail htail htrace hcause =>
      rcases hcause with ⟨he, hbooks⟩ | ⟨hrecord, hcause⟩
      · exact Or.inr ⟨fun _ _ _ _ _ hb => hb.recorded e he, hbooks⟩
      have hfinal : Raising.final (processing pipeline answers markPrices order books
          (reportOn order exchange quantity limit raw)) = w.books := by
        rcases hcause with hrun | ⟨fill, hrun, -⟩ <;> rw [hrun] <;> rfl
      have hlate : (∃ fill b, processing pipeline answers markPrices order books
          (reportOn order exchange quantity limit raw) = .ok fill b) → ¬ GoesThrough answers.publish := by
        rintro ⟨fill, b, hok⟩ hpublish
        rcases hcause with hrun | ⟨fill, -, hp⟩
        · cases hrun.symm.trans hok
        · exact hpublish e hp
      rcases answered_books hc hraw hrecord with ⟨hb, hholds, hok⟩ | ⟨hno, hsame⟩
      · refine Or.inl ⟨exchange, price, quantity, limit, raw, hb, hfinal ▸ hholds, ?_⟩
        rw [hr]
        constructor
        · intro hfalse
          cases hfalse
        · rintro ⟨htrade, hsave, hpublish⟩
          exact absurd hpublish (hlate (hok.mpr ⟨htrade, hsave⟩))
      · exact Or.inr ⟨not_booked hc hraw hno, hfinal ▸ hsame⟩
  | @accepted exchange price quantity limit hc raw hraw hrecord fill r w hr hfill hpublish tail htail
      htrace =>
      have hfinal : Raising.final (processing pipeline answers markPrices order books
          (reportOn order exchange quantity limit raw)) = w.books := by rw [hfill]; rfl
      rcases answered_books hc hraw hrecord with ⟨hb, hholds, hok⟩ | ⟨hno, hsame⟩
      · refine Or.inl ⟨exchange, price, quantity, limit, raw, hb, hfinal ▸ hholds, ?_⟩
        obtain ⟨htrade, hsave⟩ := hok.mp ⟨fill, w.books, hfill⟩
        exact ⟨fun _ => ⟨htrade, hsave, hpublish⟩, fun _ => hr⟩
      · exact Or.inr ⟨not_booked hc hraw hno, hfinal ▸ hsame⟩

/-! ## What is published -/

lemma events_append (xs ys : List (Effect ℚ)) : events (xs ++ ys) = events xs ++ events ys :=
  List.filterMap_append

lemma events_silent {trace : List (Effect ℚ)} (h : Silent trace) : events trace = [] := by
  rw [events, List.filterMap_eq_nil_iff]
  intro e he
  obtain ⟨status, rfl⟩ := h e he
  rfl

lemma events_sentTrace (exchange : Exchange ℚ) (quantity : ℚ) (limit : Option ℚ) :
    events (sentTrace order books exchange quantity limit) = [] := rfl

/-- The result of processing a fill that is booked, every call having gone through. -/
def bookedResult (exchange : Exchange ℚ) (quantity : ℚ) (limit : Option ℚ) (raw : PyVal ℚ) :
    FillProcessingResult ℚ :=
  let report := reportOn order exchange quantity limit raw
  let booked := books.ledger.book (fillOf order exchange quantity limit raw) order.side
  (pipeline.fillProcessor.completed report markPrices booked.1 booked.2).1

/-- A processed report had no fill, or its fill is booked. -/
lemma processing_ok {exchange : Exchange ℚ} {price quantity : ℚ} {limit : Option ℚ}
    {raw : PyVal ℚ} {fill : FillProcessingResult ℚ} {b : Books ℚ}
    (hc : Clears pipeline answers markPrices order books exchange price quantity limit)
    (h : processing pipeline answers markPrices order books
      (reportOn order exchange quantity limit raw) = .ok fill b) :
    (¬ Fills (reportOn order exchange quantity limit raw) ∧ fill = { processed := false })
    ∨ Fills (reportOn order exchange quantity limit raw)
      ∧ fill = bookedResult pipeline markPrices order books exchange quantity limit raw := by
  have hout := pipeline.fillProcessor.process_outcome answers.toStoreAnswers
    (reportOn order exchange quantity limit raw) markPrices order.strategyId books
  rw [processing] at h
  rw [h] at hout
  cases hout with
  | noFill hno => exact Or.inl ⟨fun hfills => hno hfills.1, rfl⟩
  | completed hfill hprice r hr hrecord hsave =>
      have hfills : Fills (reportOn order exchange quantity limit raw) := ⟨hfill, not_le.mp hprice⟩
      have hsymbol : order.symbol ≠ "" := symbol_of_valid hc.valid
      have happly : books.ledger.applyFill (fillOf order exchange quantity limit raw)
          = .ok (books.ledger.book (fillOf order exchange quantity limit raw) order.side) :=
        applyFill_of_check (checkFill_ok.mpr ⟨hsymbol, hfills.1, hfills.2,
          OrderSide.ofString?_value order.side⟩)
      cases happly.symm.trans hr
      exact Or.inr ⟨hfills, rfl⟩

/-- **What a submission publishes.**  With a bus to publish on, a fill that is booked and whose
later calls go through is announced, with its breaches, and whatever else is published is about
no fill. -/
theorem submit_events (hbus : answers.publish = some (.ok ())) :
    let trace := (pipeline.submit answers markPrices order books).2.trace
    (∃ exchange price quantity limit raw,
        Booked pipeline answers markPrices order books exchange price quantity limit raw
        ∧ LateCalls answers
        ∧ events trace = [executionEvent (reportOn order exchange quantity limit raw)
            (bookedResult pipeline markPrices order books exchange quantity limit raw)])
    ∨ (∀ exchange price quantity limit raw,
        ¬ (Booked pipeline answers markPrices order books exchange price quantity limit raw
          ∧ LateCalls answers))
      ∧ ∀ event ∈ events trace, ∃ report, event = executionEvent report { processed := false } := by
  have hpublish : GoesThrough answers.publish := by
    intro e he
    cases hbus.symm.trans he
  have h := pipeline.submit_outcome answers markPrices order books
  have hbooks := pipeline.submit_books answers markPrices order books
  generalize pipeline.submit answers markPrices order books = result at h hbooks
  cases h with
  | unsent r w hr hno hb htrace =>
      refine Or.inr ⟨fun _ _ _ _ _ hbooked => hno _ _ _ _ hbooked.1.clears, ?_⟩
      rw [events_silent htrace]
      exact fun _ he => absurd he List.not_mem_nil
  | unanswered hc e he r w hr hb tail htail htrace =>
      refine Or.inr ⟨fun _ _ _ _ _ hbooked => ?_, ?_⟩
      · cases (hbooked.1.fills hc).1.symm.trans he
      · rw [htrace, events_append, events_silent htail, events_sentTrace]
        exact fun _ he => absurd he List.not_mem_nil
  | unsettled hc raw hraw e r w hr tail htail htrace hcause =>
      refine Or.inr ⟨?_, ?_⟩
      · rintro exchange price quantity limit raw' ⟨hbooked, hlate⟩
        rcases hbooks with ⟨_, _, _, _, _, -, -, haccepted⟩ | ⟨hnone, -⟩
        · exact absurd (haccepted.mpr hlate) (by simp [hr])
        · exact hnone _ _ _ _ _ hbooked
      · rw [htrace, events_append, events_silent htail, events_sentTrace]
        exact fun _ he => absurd he List.not_mem_nil
  | @accepted exchange price quantity limit hc raw hraw hrecord fill r w hr hfill hp tail htail
      htrace =>
      have hevents : events w.trace
          = [executionEvent (reportOn order exchange quantity limit raw) fill] := by
        rw [htrace, events_append, events_append, events_silent htail, events_sentTrace, published,
          hbus]
        rfl
      rcases processing_ok pipeline answers markPrices order books hc hfill with
        ⟨hno, rfl⟩ | ⟨hfills, rfl⟩
      · refine Or.inr ⟨?_, ?_⟩
        · rintro exchange' price' quantity' limit' raw' ⟨hbooked, -⟩
          exact not_booked hc hraw hno exchange' price' quantity' limit' raw' hbooked
        · intro event he
          rw [hevents, List.mem_singleton] at he
          exact ⟨_, he⟩
      · have hbooked : Booked pipeline answers markPrices order books exchange price quantity limit
            raw := ⟨hc, hraw, hrecord, hfills.1, hfills.2⟩
        rcases hbooks with ⟨_, _, _, _, _, -, -, haccepted⟩ | ⟨hnone, -⟩
        · exact Or.inl ⟨exchange, price, quantity, limit, raw, hbooked, haccepted.mp hr, hevents⟩
        · exact absurd hbooked (hnone _ _ _ _ _)

/-! ## A fill that is reported reaches the ledger -/

lemma HoldsFill.quantityOf {ledger : PositionLedger ℚ} {fill : Fill ℚ} {b : Books ℚ}
    (h : HoldsFill markPrices order ledger fill b) (hl : ledger.Live) (hq : 0 < fill.quantity) :
    b.ledger.quantityOf fill.symbol
      = sweep (ledger.quantityOf fill.symbol + order.side.signed fill.quantity) := by
  rw [← hl.quantityOf_book hq]
  rcases h with h | h
  · rw [h]
  · rw [h, markPositions_quantityOf]

lemma abs_signed_sub (side : OrderSide) (c g f : ℚ) :
    |c + side.signed g - (c + side.signed f)| = |g - f| := by
  cases side with
  | buy => rw [OrderSide.signed_buy, OrderSide.signed_buy, add_sub_add_left_eq_sub]
  | sell =>
      rw [OrderSide.signed_sell, OrderSide.signed_sell, add_sub_add_left_eq_sub, neg_sub_neg,
        abs_sub_comm]

/-- When booking `g` looks like booking `f`: they are equal and leave no dust, or they differ by
dust and `f` closes the position. -/
lemma sweep_signed_iff (side : OrderSide) (c g f : ℚ) :
    sweep (c + side.signed g) = c + side.signed f
      ↔ g = f ∧ Settled (c + side.signed f) ∨ |g - f| ≤ EPSILON ∧ c + side.signed f = 0 := by
  have hdiff := abs_signed_sub side c g f
  rw [sweep]
  split_ifs with hdust
  · constructor
    · intro hzero
      rw [← hzero, sub_zero] at hdiff
      exact Or.inr ⟨hdiff ▸ hdust, hzero.symm⟩
    · rintro (⟨rfl, hsettled⟩ | ⟨-, hzero⟩)
      · exact (hsettled.resolve_right (not_lt.mpr hdust)).symm
      · exact hzero.symm
  · constructor
    · intro heq
      rw [heq, sub_self, abs_zero] at hdiff
      refine Or.inl ⟨sub_eq_zero.mp (abs_eq_zero.mp hdiff.symm), ?_⟩
      rw [← heq]
      exact Or.inr (not_le.mp hdust)
    · rintro (⟨rfl, -⟩ | ⟨hle, hzero⟩)
      · rfl
      · rw [hzero, sub_zero] at hdiff
        exact absurd (hdiff.trans_le hle) hdust

lemma signed_ne (side : OrderSide) (c : ℚ) {f : ℚ} (hf : 0 < f) : c ≠ c + side.signed f := by
  intro h
  exact signed_ne_zero hf side (left_eq_add.mp h)

/-- **When a reported fill reaches the ledger.**  An order was sent and the exchange answered with
a dictionary that reports `f` executed.  The symbol's quantity changes by exactly `f`, with the
sign of the side, if and only if the database takes the report, the first readable price is
positive, and the first readable quantity is `f` and leaves no dust (or is within dust of `f`,
where `f` closes the position). -/
theorem fill_booked_iff (hl : books.ledger.Live) (exchange : Exchange ℚ) (price : ℚ)
    (hroute : selectExchange answers.route = .ok (exchange, price))
    (hsent : calls (pipeline.submit answers markPrices order books).2.trace ≠ [])
    (payload : List (String × PyVal ℚ)) (hanswer : exchange.createOrder = .ok (.dict payload))
    (f : ℚ) (hf : 0 < f) :
    let held := books.ledger.quantityOf order.symbol
    let read := extractFloat payload FILLED_KEYS
    (pipeline.submit answers markPrices order books).2.books.ledger.quantityOf order.symbol
        = held + order.side.signed f
      ↔ GoesThrough answers.recordExecutionReport ∧ 0 < extractFloat payload PRICE_KEYS
        ∧ (read = f ∧ Settled (held + order.side.signed f)
          ∨ 0 < read ∧ |read - f| ≤ EPSILON ∧ held + order.side.signed f = 0) := by
  intro held read
  rcases pipeline.submit_books answers markPrices order books with
    ⟨exchange', price', quantity, limit, raw, hb, hholds, -⟩ | ⟨hno, hbooks⟩
  · have hr := hb.clears.routed.symm.trans hroute
    rw [Except.ok.injEq, Prod.mk.injEq] at hr
    obtain ⟨rfl, rfl⟩ := hr
    cases hb.answered.symm.trans hanswer
    have hread : 0 < read := hb.filled
    have hbooked := hholds.quantityOf markPrices order hl hread
    change _ = sweep (held + order.side.signed read) at hbooked
    rw [show (pipeline.submit answers markPrices order books).2.books.ledger.quantityOf order.symbol
      = sweep (held + order.side.signed read) from hbooked, sweep_signed_iff]
    constructor
    · intro h
      exact ⟨hb.recorded, hb.priced, h.imp_right fun h => ⟨hread, h⟩⟩
    · rintro ⟨-, -, h⟩
      exact h.imp_right And.right
  · rw [hbooks]
    constructor
    · intro heq
      exact absurd heq (signed_ne order.side held hf)
    · rintro ⟨hrecord, hpriced, hread⟩
      have hpos : 0 < read := by
        rcases hread with ⟨heq, -⟩ | ⟨hpos, -⟩
        · exact heq ▸ hf
        · exact hpos
      rcases pipeline.calls_submit answers markPrices order books with
        ⟨-, hnone⟩ | ⟨exchange', price', quantity, limit, hc, -⟩
      · exact absurd hnone hsent
      · have hr := hc.routed.symm.trans hroute
        rw [Except.ok.injEq, Prod.mk.injEq] at hr
        obtain ⟨rfl, rfl⟩ := hr
        exact absurd ⟨hc, hanswer, hrecord, hpos, hpriced⟩
          (hno exchange' price' quantity limit (.dict payload))

/-- A guard and a validator wide enough for the orders below. -/
def demoPipeline : ExecutionPipeline ℚ :=
  let validator := (PreTradeRiskValidator.build 1000 1000 1 1000 5).toOption.getD default
  ⟨validator, ⟨validator.portfolioGuard⟩⟩

def demoOrder : Order ℚ :=
  { symbol := "BTC/USDT", side := .buy, quantity := 1, orderType := .market }

/-- A whole fill at 100. -/
def demoPayload : List (String × PyVal ℚ) :=
  [("id", .str "7"), ("status", .str "closed"), ("filled", .float 1), ("average", .float 100)]

def demoExchange : Exchange ℚ :=
  { id := "SIM", amountToPrecision := none, priceToPrecision := none, minOrderNotional := none
    createOrder := .ok (.dict demoPayload) }

/-- Everything goes through but, possibly, the execution report and the saved state. -/
def demoAnswers (recordExecutionReport save : Except PyError Unit) : Answers ℚ :=
  { recordTrade := some (.ok ()), save := save, route := .ok (some (some demoExchange, some 100))
    recordExecutionReport := some recordExecutionReport, publish := some (.ok ()) }

def demoBooks : Books ℚ := ⟨PositionLedger.empty, .dict []⟩

def raised : Except PyError Unit := .error ⟨.other, "connection lost"⟩

/-- The database refuses the report: the exchange has filled one coin, the ledger knows of none. -/
theorem fill_lost :
    (calls (demoPipeline.submit (demoAnswers raised (.ok ())) ∅ demoOrder demoBooks).2.trace).length = 1
      ∧ readFloat (PyVal.get demoPayload "filled") = some 1
      ∧ readFloat (PyVal.get demoPayload "average") = some 100
      ∧ (demoPipeline.submit (demoAnswers raised (.ok ())) ∅ demoOrder
          demoBooks).2.books.ledger.quantityOf "BTC/USDT" ≠ 0 + 1 := by
  refine ⟨?_, ?_, ?_, ?_⟩ <;> decide +kernel

theorem fill_booked_demo :
    (demoPipeline.submit (demoAnswers (.ok ()) (.ok ())) ∅ demoOrder
      demoBooks).2.books.ledger.quantityOf "BTC/USDT" = 0 + 1 := by
  have hone : (calls (demoPipeline.submit (demoAnswers (.ok ()) (.ok ())) ∅ demoOrder
      demoBooks).2.trace).length = 1 := by decide +kernel
  refine (fill_booked_iff demoPipeline (demoAnswers (.ok ()) (.ok ())) ∅ demoOrder demoBooks
    (by decide +kernel) demoExchange 100 rfl ?_ demoPayload rfl 1 one_pos).mpr ?_
  · intro hnil
    rw [hnil] at hone
    cases hone
  · exact ⟨fun e he => (by cases he), by decide +kernel, Or.inl (by decide +kernel)⟩

/-! ## A failed submission leaves the ledger untouched -/

lemma HoldsFill.trades {ledger : PositionLedger ℚ} {fill : Fill ℚ} {b : Books ℚ}
    (h : HoldsFill markPrices order ledger fill b) :
    b.ledger.trades = ledger.trades ++ [(ledger.book fill order.side).2] := by
  rcases h with h | h <;> rw [h] <;> rfl

lemma HoldsFill.changed {ledger : PositionLedger ℚ} {fill : Fill ℚ} {b : Books ℚ}
    (h : HoldsFill markPrices order ledger fill b) :
    b.ledger.trades.length ≠ ledger.trades.length := by
  rw [h.trades, List.length_append, List.length_singleton]
  exact Nat.succ_ne_self _

/-- **When a failed submission has left the ledger alone.**  A submission that is not accepted
leaves positions, trades and realized profit as they were, unless the order was sent and its fill
booked, and a later call — recording the trade, saving the state, publishing the event — raised. -/
theorem failed_unchanged_iff :
    ((pipeline.submit answers markPrices order books).1.accepted = false →
        (pipeline.submit answers markPrices order books).2.books.ledger = books.ledger)
      ↔ ¬ ((∃ exchange price quantity limit raw,
          Booked pipeline answers markPrices order books exchange price quantity limit raw)
        ∧ ¬ LateCalls answers) := by
  rcases pipeline.submit_books answers markPrices order books with
    ⟨exchange, price, quantity, limit, raw, hb, hholds, haccepted⟩ | ⟨hno, hbooks⟩
  · by_cases hlate : LateCalls answers
    · rw [haccepted.mpr hlate]
      exact ⟨fun _ h => h.2 hlate, fun _ h => by cases h⟩
    · have hfailed : (pipeline.submit answers markPrices order books).1.accepted = false :=
        Bool.eq_false_iff.mpr fun h => hlate (haccepted.mp h)
      constructor
      · intro h
        exact absurd (congrArg (fun ledger => ledger.trades.length) (h hfailed))
          (hholds.changed markPrices order)
      · intro h
        exact absurd ⟨⟨exchange, price, quantity, limit, raw, hb⟩, hlate⟩ h
  · constructor
    · rintro - ⟨⟨exchange, price, quantity, limit, raw, hb⟩, -⟩
      exact hno exchange price quantity limit raw hb
    · rintro - -
      rw [hbooks]

/-- The state store refuses the state: the submission has failed, and its fill is booked. -/
theorem failed_but_booked :
    (demoPipeline.submit (demoAnswers (.ok ()) raised) ∅ demoOrder demoBooks).1.accepted = false
      ∧ (demoPipeline.submit (demoAnswers (.ok ()) raised) ∅ demoOrder
          demoBooks).2.books.ledger.trades.length ≠ demoBooks.ledger.trades.length := by
  refine ⟨?_, ?_⟩ <;> decide +kernel

end ExecutionPipeline

end Aegis
