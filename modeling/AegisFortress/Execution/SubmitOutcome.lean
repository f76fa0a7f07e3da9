import AegisFortress.Execution.ExecutionPipeline

/-!
# What one submission can do

`submit_outcome` is the one place where the pipeline is unfolded: it lists the ways a submission
can end, each with the answers that lead there, the books it leaves and the trace it writes.
Everything that is proved about `submit` is a case analysis on it.

`Clears` is the condition for an order to be sent: every check before `create_order`, as a
condition on the order, the ledger and the answers.
-/

namespace Aegis

namespace ExecutionPipeline

open Raising

/-! ## The order that is sent -/

section Sending

variable {α : Type}

/-- A trace of nothing but status changes. -/
def Silent (trace : List (Effect α)) : Prop := ∀ e ∈ trace, ∃ status, e = .status status

lemma silent_nil : Silent ([] : List (Effect α)) := fun _ he => absurd he List.not_mem_nil

lemma silent_status (status : OrderStatus) : Silent ([.status status] : List (Effect α)) :=
  fun _ he => ⟨status, List.mem_singleton.mp he⟩

lemma Silent.append {trace trace' : List (Effect α)} (h : Silent trace) (h' : Silent trace') :
    Silent (trace ++ trace') := by
  intro e he
  rcases List.mem_append.mp he with he | he
  · exact h e he
  · exact h' e he

variable [Zero α] (answers : Answers α) (order : Order α) (books : Books α)

/-- The order after the exchange has rounded it. -/
def sized (quantity : α) (limit : Option α) : Order α :=
  { order with quantity := quantity, price := limit, status := .validated }

/-- The order as `create_order` gets it. -/
def sent (exchange : Exchange α) (quantity : α) (limit : Option α) : Order α :=
  { sized order quantity limit with status := .routed, exchange := some exchange.id }

/-- What a submission shows up to the `create_order` call. -/
def sentTrace (exchange : Exchange α) (quantity : α) (limit : Option α) : List (Effect α) :=
  [.status .validated, .status .routed,
    .createOrder (World.orderCall (sent order exchange quantity limit)) books.ledger.positions]

/-- The event that is published, if there is a bus. -/
def published (report : ExecutionReport α) (fill : FillProcessingResult α) : List (Effect α) :=
  if answers.publish.isSome then [.publish (executionEvent report fill)] else []

lemma leads_transition {newState : OrderStatus} {w : World α} {Q : Unit → World α → Prop}
    {E : PyError → World α → Prop} : Leads (transition newState) w Q E
      ↔ (newState ∉ w.order.status.VALID_TRANSITIONS →
          E ⟨.invalidStateTransition,
            s!"Invalid transition {w.order.status.value} -> {newState.value}"⟩ w)
        ∧ (newState ∈ w.order.status.VALID_TRANSITIONS → Q () (w.setStatus newState)) := by
  simp only [transition, leads_bind, leads_get, leads_raiseIf, leads_modify, not_not]

lemma validated_iff {status : OrderStatus} :
    .validated ∈ status.VALID_TRANSITIONS ↔ status = .created := by
  cases status <;> decide

/-- Sending leads to the exchange's answer, with the call in the trace. -/
lemma sendOrder_spec {exchange : Exchange α} {quantity : α} {limit : Option α} :
    Leads (sendOrder exchange) ⟨sized order quantity limit, books, [.status .validated]⟩
      (fun raw w => exchange.createOrder = .ok raw
        ∧ w = ⟨sent order exchange quantity limit, books,
            sentTrace order books exchange quantity limit⟩)
      (fun e w => exchange.createOrder = .error e
        ∧ w = ⟨sent order exchange quantity limit, books,
            sentTrace order books exchange quantity limit⟩) := by
  simp only [sendOrder, leads_bind, leads_transition, leads_modify, leads_lift]
  refine ⟨?_, ?_⟩
  · intro hrefused
    have hvalid : OrderStatus.routed ∈ OrderStatus.validated.VALID_TRANSITIONS := by decide
    exact absurd hvalid hrefused
  · intro _
    exact ⟨fun raw h => ⟨h, rfl⟩, fun e h => ⟨h, rfl⟩⟩

/-- The status of the report reaches the order; the books are not touched. -/
lemma applyReportStatus_spec (report : ExecutionReport α) (w : World α) :
    Leads (applyReportStatus report) w
      (fun _ w' => w'.books = w.books ∧ ∃ tail, Silent tail ∧ w'.trace = w.trace ++ tail)
      (fun _ _ => False) := by
  simp only [applyReportStatus, leads_ite, leads_bind, leads_tryCatch, leads_transition,
    leads_modify, leads_pure]
  refine ⟨?_, ?_⟩
  · intro _
    exact ⟨trivial, [], silent_nil, (List.append_nil _).symm⟩
  · intro _
    have hone : Silent ([.status report.status] : List (Effect α)) := silent_status _
    exact ⟨fun _ => ⟨rfl, _, hone, rfl⟩, fun _ => ⟨rfl, _, hone, rfl⟩⟩

lemma publishExecutionEvent_spec (report : ExecutionReport α) (fill : FillProcessingResult α)
    (w : World α) :
    Leads (publishExecutionEvent answers.publish report fill) w
      (fun _ w' => GoesThrough answers.publish ∧ w'.books = w.books
        ∧ w'.trace = w.trace ++ published answers report fill)
      (fun e w' => answers.publish = some (.error e) ∧ w' = w) := by
  rw [published]
  cases answers.publish with
  | none =>
      simp only [publishExecutionEvent, leads_pure]
      exact ⟨fun e he => (by cases he), trivial, (List.append_nil _).symm⟩
  | some answer =>
      simp only [publishExecutionEvent, leads_bind, leads_lift, leads_modify]
      refine ⟨?_, ?_⟩
      · rintro u rfl
        exact ⟨fun e he => (by cases he), rfl, rfl⟩
      · rintro e rfl
        exact ⟨rfl, trivial⟩

end Sending

section Checks

variable {α : Type} [Zero α] [LE α] [DecidableLE α] [PyFloat α] (answers : Answers α)
  (order : Order α)

/-- The order gets as far as the risk check. -/
structure Prepared (exchange : Exchange α) (price quantity : α) (limit : Option α) : Prop where
  valid : order.validate = .ok ()
  created : order.status = .created
  routed : selectExchange answers.route = .ok (exchange, price)
  rounded : exchange.roundQuantity order.symbol order.quantity = .ok quantity
  limited : exchange.roundPrice order.symbol order.price = .ok limit

/-- The answers fix the exchange and the price. -/
lemma Prepared.same_route {exchange exchange' : Exchange α} {price price' quantity : α}
    {limit : Option α} (h : Prepared answers order exchange price quantity limit)
    (hrouted : selectExchange answers.route = .ok (exchange', price')) :
    exchange = exchange' ∧ price = price' := by
  have hr := h.routed.symm.trans hrouted
  rw [Except.ok.injEq, Prod.mk.injEq] at hr
  exact hr

/-- The answers fix what the order is checked as. -/
lemma Prepared.unique {exchange exchange' : Exchange α} {price price' quantity quantity' : α}
    {limit limit' : Option α} (h : Prepared answers order exchange price quantity limit)
    (h' : Prepared answers order exchange' price' quantity' limit') :
    exchange = exchange' ∧ price = price' ∧ quantity = quantity' ∧ limit = limit' := by
  obtain ⟨rfl, rfl⟩ := h.same_route answers order h'.routed
  have hq := h.rounded.symm.trans h'.rounded
  have hl := h.limited.symm.trans h'.limited
  exact ⟨rfl, rfl, Except.ok.inj hq, Except.ok.inj hl⟩

end Checks

variable {α : Type} [Add α] [Sub α] [Mul α] [Div α] [Neg α] [Zero α] [One α] [LT α] [LE α]
  [DecidableLT α] [DecidableLE α] [PyFloat α] (pipeline : ExecutionPipeline α)
  (answers : Answers α) (markPrices : Dict String α) (order : Order α) (books : Books α)

/-- The risk decision on the rounded order. -/
def decision (exchange : Exchange α) (price quantity : α) (limit : Option α) : RiskDecision α :=
  pipeline.preTradeRisk.validate (sized order quantity limit) price books.ledger.positions
    markPrices (exchange.minNotional order.symbol)

/-- The order passes every check before `create_order`. -/
structure Clears (exchange : Exchange α) (price quantity : α) (limit : Option α) : Prop
    extends Prepared answers order exchange price quantity limit where
  allowed : (pipeline.decision markPrices order books exchange price quantity limit).allowed = true

/-! ## The stages -/

/-- Up to the risk decision: the order is ready to be checked, or it is not cleared and nothing
but its status has changed. -/
lemma prepare_spec : Leads (pipeline.prepare answers markPrices) ⟨order, books, []⟩
    (fun r w => ∃ price quantity limit, Prepared answers order r.1 price quantity limit
      ∧ r.2 = pipeline.decision markPrices order books r.1 price quantity limit
      ∧ w = ⟨sized order quantity limit, books, [.status .validated]⟩)
    (fun _ w => w.books = books ∧ Silent w.trace
      ∧ ∀ exchange price quantity limit, ¬ Prepared answers order exchange price quantity limit) := by
  have hone : Silent ([.status .validated] : List (Effect α)) := silent_status _
  simp only [prepare, leads_bind, leads_get, leads_lift, leads_transition, applyExchangePrecision,
    leads_modify, leads_pure]
  refine ⟨?_, ?_⟩
  · intro _ hvalid
    refine ⟨?_, ?_⟩
    · intro hrefused
      refine ⟨trivial, silent_nil, ?_⟩
      rintro exchange price quantity limit h
      exact hrefused (validated_iff.mpr h.created)
    · intro hcreated
      refine ⟨?_, ?_⟩
      · rintro ⟨exchange, price⟩ hrouted
        refine ⟨?_, ?_⟩
        · intro quantity hrounded
          refine ⟨?_, ?_⟩
          · intro limit hlimited
            exact ⟨price, quantity, limit,
              ⟨hvalid, validated_iff.mp hcreated, hrouted, hrounded, hlimited⟩, rfl, rfl⟩
          · intro e hlimited
            refine ⟨rfl, hone, ?_⟩
            rintro exchange' price' quantity' limit' h
            obtain ⟨rfl, rfl⟩ := h.same_route answers order hrouted
            cases h.limited.symm.trans hlimited
        · intro e hrounded
          refine ⟨rfl, hone, ?_⟩
          rintro exchange' price' quantity' limit' h
          obtain ⟨rfl, rfl⟩ := h.same_route answers order hrouted
          cases h.rounded.symm.trans hrounded
      · intro e hrouted
        refine ⟨rfl, hone, ?_⟩
        rintro exchange price quantity limit h
        cases h.routed.symm.trans hrouted
  · intro e hvalid
    refine ⟨trivial, silent_nil, ?_⟩
    rintro exchange price quantity limit h
    cases h.valid.symm.trans hvalid

variable [DecidableEq α]

/-- The report on the exchange's answer. -/
def reportOn (exchange : Exchange α) (quantity : α) (limit : Option α) (raw : PyVal α) :
    ExecutionReport α :=
  ExchangeResponseNormalizer.normalize (sent order exchange quantity limit) exchange.id raw

/-- Processing the report, on the books as they were. -/
def processing (report : ExecutionReport α) :
    EStateM.Result PyError (Books α) (FillProcessingResult α) :=
  (pipeline.fillProcessor.process answers.toStoreAnswers report markPrices order.strategyId).run books

/-- From the answer on: the report is recorded, processed and published, or one of the three
raises and the rest is not done. -/
lemma settle_spec (exchange : Exchange α) (quantity : α) (limit : Option α) (raw : PyVal α)
    (trace : List (Effect α)) :
    let report := reportOn order exchange quantity limit raw
    let outcome := processing pipeline answers markPrices order books report
    Leads (pipeline.settle answers markPrices raw)
      ⟨sent order exchange quantity limit, books, trace⟩
      (fun r w => ∃ tail, Silent tail ∧ w.trace = trace ++ tail ++ published answers report r.2
        ∧ GoesThrough answers.recordExecutionReport ∧ GoesThrough answers.publish
        ∧ outcome = .ok r.2 w.books)
      (fun e w => ∃ tail, Silent tail ∧ w.trace = trace ++ tail
        ∧ (answers.recordExecutionReport = some (.error e) ∧ w.books = books
          ∨ GoesThrough answers.recordExecutionReport
            ∧ (outcome = .error e w.books
              ∨ ∃ fill, outcome = .ok fill w.books ∧ answers.publish = some (.error e)))) := by
  intro report outcome
  have hone : Silent ([.status .submitted] : List (Effect α)) := silent_status _
  rw [settle]
  simp only [leads_bind, leads_transition, leads_get, leads_callOptional]
  refine ⟨?_, ?_⟩
  · intro hrefused
    have hvalid : OrderStatus.submitted ∈ OrderStatus.routed.VALID_TRANSITIONS := by decide
    exact absurd hvalid hrefused
  · intro _
    refine ⟨?_, ?_⟩
    · intro hrecord
      refine (applyReportStatus_spec _ _).mono ?_ (fun _ _ h => h.elim)
      rintro - w ⟨hbooks, tail, htail, htrace⟩
      rw [leads_zoom]
      refine (leads_run _ _).mono ?_ ?_
      · intro fill b hrun
        rw [hbooks] at hrun
        have hrun : outcome = .ok fill b := hrun
        refine (publishExecutionEvent_spec _ _ _ _).mono ?_ ?_
        · rintro - w' ⟨hpublish, hb, ht⟩
          refine leads_pure.mpr ⟨_, hone.append htail, ?_, hrecord, hpublish, ?_⟩
          · rw [ht, htrace]
            simp only [World.setStatus, List.append_assoc]
            rfl
          · rw [hb]
            exact hrun
        · rintro e w' ⟨he, rfl⟩
          refine ⟨_, hone.append htail, ?_, Or.inr ⟨hrecord, Or.inr ⟨fill, hrun, he⟩⟩⟩
          simp only [htrace, World.setStatus, List.append_assoc]
      · intro e b hrun
        rw [hbooks] at hrun
        have hrun : outcome = .error e b := hrun
        refine ⟨_, hone.append htail, ?_, Or.inr ⟨hrecord, Or.inl hrun⟩⟩
        simp only [htrace, World.setStatus, List.append_assoc]
    · intro e he
      exact ⟨_, hone, rfl, Or.inl ⟨he, rfl⟩⟩

/-! ## The whole submission -/

/-- The ways `submit` can end. -/
inductive Outcome : ExecutionPipelineResult α × World α → Prop
  /-- Not cleared: nothing is sent. -/
  | unsent (r : ExecutionPipelineResult α) (w : World α) (hr : r.accepted = false)
      (hno : ∀ exchange price quantity limit,
        ¬ Clears pipeline answers markPrices order books exchange price quantity limit)
      (hbooks : w.books = books) (htrace : Silent w.trace) : Outcome (r, w)
  /-- `create_order` raises. -/
  | unanswered {exchange : Exchange α} {price quantity : α} {limit : Option α}
      (hc : Clears pipeline answers markPrices order books exchange price quantity limit)
      (e : PyError) (he : exchange.createOrder = .error e)
      (r : ExecutionPipelineResult α) (w : World α) (hr : r.accepted = false)
      (hbooks : w.books = books) (tail : List (Effect α)) (htail : Silent tail)
      (htrace : w.trace = sentTrace order books exchange quantity limit ++ tail) : Outcome (r, w)
  /-- The exchange answers, and the report cannot be recorded, processed or published. -/
  | unsettled {exchange : Exchange α} {price quantity : α} {limit : Option α}
      (hc : Clears pipeline answers markPrices order books exchange price quantity limit)
      (raw : PyVal α) (hraw : exchange.createOrder = .ok raw) (e : PyError)
      (r : ExecutionPipelineResult α) (w : World α) (hr : r.accepted = false)
      (tail : List (Effect α)) (htail : Silent tail)
      (htrace : w.trace = sentTrace order books exchange quantity limit ++ tail)
      (hcause : answers.recordExecutionReport = some (.error e) ∧ w.books = books
        ∨ GoesThrough answers.recordExecutionReport
          ∧ (processing pipeline answers markPrices order books
                (reportOn order exchange quantity limit raw) = .error e w.books
            ∨ ∃ fill, processing pipeline answers markPrices order books
                (reportOn order exchange quantity limit raw) = .ok fill w.books
              ∧ answers.publish = some (.error e))) : Outcome (r, w)
  /-- Everything goes through. -/
  | accepted {exchange : Exchange α} {price quantity : α} {limit : Option α}
      (hc : Clears pipeline answers markPrices order books exchange price quantity limit)
      (raw : PyVal α) (hraw : exchange.createOrder = .ok raw)
      (hrecord : GoesThrough answers.recordExecutionReport) (fill : FillProcessingResult α)
      (r : ExecutionPipelineResult α) (w : World α) (hr : r.accepted = true)
      (hfill : processing pipeline answers markPrices order books
        (reportOn order exchange quantity limit raw) = .ok fill w.books)
      (hpublish : GoesThrough answers.publish) (tail : List (Effect α)) (htail : Silent tail)
      (htrace : w.trace = sentTrace order books exchange quantity limit ++ tail
        ++ published answers (reportOn order exchange quantity limit raw) fill) : Outcome (r, w)

lemma rejected_spec {r : ExecutionPipelineResult α} (hr : r.accepted = false) {w : World α}
    (hw : w.books = books) (ht : Silent w.trace)
    (hno : ∀ exchange price quantity limit,
      ¬ Clears pipeline answers markPrices order books exchange price quantity limit) :
    Leads (do transition .rejected; pure r : Exec α (ExecutionPipelineResult α)) w
      (fun r w => Outcome pipeline answers markPrices order books (r, w))
      (fun e w => Outcome pipeline answers markPrices order books
        ({ accepted := false, error := some e.message }, w.setStatus .failed)) := by
  simp only [leads_bind, leads_transition, leads_pure]
  refine ⟨?_, ?_⟩
  · intro _
    exact .unsent _ _ rfl hno hw (ht.append (silent_status _))
  · intro _
    exact .unsent _ _ hr hno hw (ht.append (silent_status _))

/-- A submission ends as its attempt does; where the attempt raises, the order has failed. -/
lemma submit_of_attempt {Q : ExecutionPipelineResult α → World α → Prop}
    (h : Leads (pipeline.attempt answers markPrices) ⟨order, books, []⟩ Q
      fun e w => Q { accepted := false, error := some e.message } (w.setStatus .failed)) :
    Q (pipeline.submit answers markPrices order books).1
      (pipeline.submit answers markPrices order books).2 := by
  rw [submit]
  cases hrun : (pipeline.attempt answers markPrices).run ⟨order, books, []⟩ with
  | ok r w => exact h.ok hrun
  | error e w => exact h.error hrun

/-- **Every submission ends in one of these ways.** -/
theorem submit_outcome : Outcome pipeline answers markPrices order books
    (pipeline.submit answers markPrices order books) := by
  have hlead : Leads (pipeline.attempt answers markPrices) ⟨order, books, []⟩
      (fun r w => Outcome pipeline answers markPrices order books (r, w))
      (fun e w => Outcome pipeline answers markPrices order books
        ({ accepted := false, error := some e.message }, w.setStatus .failed)) := by
    rw [attempt, leads_bind]
    refine (prepare_spec pipeline answers markPrices order books).mono ?_ ?_
    · rintro ⟨exchange, riskDecision⟩ w ⟨price, quantity, limit, hprepared, hdecision, rfl⟩
      dsimp only at hprepared hdecision ⊢
      subst hdecision
      rw [leads_ite]
      refine ⟨fun hallowed => ?_, fun hrefused => ?_⟩
      · have hc : Clears pipeline answers markPrices order books exchange price quantity limit :=
          ⟨hprepared, hallowed⟩
        rw [leads_bind]
        refine (sendOrder_spec order books).mono ?_ ?_
        · rintro raw w ⟨hraw, rfl⟩
          rw [leads_bind]
          refine (settle_spec pipeline answers markPrices order books exchange quantity limit raw
            _).mono ?_ ?_
          · rintro ⟨report, fill⟩ w ⟨tail, htail, htrace, hrecord, hpublish, hfill⟩
            rw [leads_pure]
            exact .accepted hc raw hraw hrecord fill _ w rfl hfill hpublish tail htail htrace
          · rintro e w ⟨tail, htail, htrace, hcause⟩
            refine .unsettled hc raw hraw e _ (w.setStatus .failed) rfl
              (tail ++ [.status .failed]) (htail.append (silent_status _)) ?_ hcause
            rw [← List.append_assoc, ← htrace]
            rfl
        · rintro e w ⟨he, rfl⟩
          exact .unanswered hc e he _ _ rfl rfl _ (silent_status .failed) rfl
      · refine rejected_spec pipeline answers markPrices order books rfl rfl (silent_status _) ?_
        rintro exchange' price' quantity' limit' hc
        obtain ⟨rfl, rfl, rfl, rfl⟩ := hprepared.unique answers order hc.toPrepared
        exact hrefused hc.allowed
    · rintro e w ⟨hbooks, htrace, hno⟩
      refine .unsent _ _ rfl ?_ hbooks (htrace.append (silent_status _))
      intro exchange price quantity limit hc
      exact hno exchange price quantity limit hc.toPrepared
  exact submit_of_attempt pipeline answers markPrices order books hlead

end ExecutionPipeline

end Aegis
