import AegisFortress.Execution.SubmitGuarantees

/-!
# The order record after a submission

`_apply_report_status` copies the report into the order, but returns early for a report that is
`SUBMITTED`.  `attempt_order` is what an accepted submission makes of the order, and
`order_mirrors_iff` says when it agrees with the report.
-/

namespace Aegis

namespace ExecutionPipeline

open Raising ExchangeResponseNormalizer

variable (pipeline : ExecutionPipeline ℚ) (answers : Answers ℚ) (markPrices : Dict String ℚ)
  (order : Order ℚ) (books : Books ℚ)

/-- What a report makes of a submitted order. -/
def updated (report : ExecutionReport ℚ) (order : Order ℚ) : Order ℚ :=
  if report.status = .submitted then { order with status := .submitted }
  else
    { order with
      status := report.status
      filledQuantity := report.filledQuantity
      averageFillPrice := report.averageFillPrice
      exchangeOrderId := report.exchangeOrderId }

/-! ## What reaches the order, stage by stage -/

lemma applyReportStatus_order (report : ExecutionReport ℚ) {w : World ℚ}
    (hstatus : w.order.status = .submitted) :
    Leads (applyReportStatus report) w
      (fun _ w' => w'.order = updated report w.order) (fun _ _ => False) := by
  simp only [applyReportStatus, leads_ite, leads_bind, leads_tryCatch, leads_transition,
    leads_modify, leads_pure]
  refine ⟨fun hs => ?_, fun hs => ⟨fun _ => ?_, fun _ => ?_⟩⟩
  · rw [updated, if_pos hs, ← hstatus]
  · rw [updated, if_neg hs]
    rfl
  · rw [updated, if_neg hs]
    rfl

lemma publishExecutionEvent_order (publish : Option (Except PyError Unit))
    (report : ExecutionReport ℚ) (fill : FillProcessingResult ℚ) (w : World ℚ) :
    Leads (publishExecutionEvent publish report fill) w (fun _ w' => w'.order = w.order)
      (fun _ _ => True) := by
  cases publish with
  | none => exact leads_pure.mpr rfl
  | some answer =>
      simp only [publishExecutionEvent, leads_bind, leads_lift, leads_modify]
      exact ⟨fun _ _ => rfl, fun _ _ => trivial⟩

lemma settle_order (exchange : Exchange ℚ) (quantity : ℚ) (limit : Option ℚ) (raw : PyVal ℚ)
    (trace : List (Effect ℚ)) :
    Leads (pipeline.settle answers markPrices raw)
      ⟨sent order exchange quantity limit, books, trace⟩
      (fun r w => r.1 = reportOn order exchange quantity limit raw
        ∧ w.order = updated r.1 (sent order exchange quantity limit))
      (fun _ _ => True) := by
  rw [settle]
  simp only [leads_bind, leads_transition, leads_get, leads_callOptional]
  refine ⟨fun _ => trivial, fun _ => ⟨fun _ => ?_, fun _ _ => trivial⟩⟩
  refine (applyReportStatus_order _ rfl).mono ?_ (fun _ _ h => h.elim)
  intro _ w hw
  rw [leads_zoom]
  refine (leads_run _ _).mono ?_ (fun _ _ _ => trivial)
  intro fill b _
  refine (publishExecutionEvent_order _ _ _ _).mono ?_ (fun _ _ h => h)
  intro _ w' hw'
  refine leads_pure.mpr ⟨rfl, ?_⟩
  rw [hw', hw]
  simp only [updated, World.setStatus]

/-- **What an accepted submission makes of the order.** -/
lemma attempt_order : Leads (pipeline.attempt answers markPrices) ⟨order, books, []⟩
    (fun r w => r.accepted = true → ∃ exchange price quantity limit raw,
      Prepared answers order exchange price quantity limit ∧ exchange.createOrder = .ok raw
        ∧ r.executionReport = some (reportOn order exchange quantity limit raw)
        ∧ w.order = updated (reportOn order exchange quantity limit raw)
          (sent order exchange quantity limit))
    (fun _ _ => True) := by
  rw [attempt, leads_bind]
  refine (prepare_spec pipeline answers markPrices order books).mono ?_ (fun _ _ _ => trivial)
  rintro ⟨exchange, riskDecision⟩ w ⟨price, quantity, limit, hprepared, -, rfl⟩
  rw [leads_ite]
  refine ⟨fun _ => ?_, fun _ => ?_⟩
  · rw [leads_bind]
    refine (sendOrder_spec order books).mono ?_ (fun _ _ _ => trivial)
    rintro raw w ⟨hraw, rfl⟩
    rw [leads_bind]
    refine (settle_order pipeline answers markPrices order books exchange quantity limit raw
      _).mono ?_ (fun _ _ h => h)
    rintro ⟨report, fill⟩ w ⟨hreport, hw⟩
    dsimp only at hreport hw
    subst hreport
    refine leads_pure.mpr fun _ => ?_
    exact ⟨exchange, price, quantity, limit, raw, hprepared, hraw, rfl, hw⟩
  · rw [leads_bind, leads_transition]
    exact ⟨fun _ => trivial, fun _ => leads_pure.mpr fun h => (Bool.false_ne_true h).elim⟩

/-! ## Agreement -/

/-- The order says what the report says. -/
structure Mirrors (report : ExecutionReport ℚ) (order : Order ℚ) : Prop where
  exchangeOrderId : order.exchangeOrderId = report.exchangeOrderId
  filledQuantity : order.filledQuantity = report.filledQuantity
  averageFillPrice : order.averageFillPrice = report.averageFillPrice
  status : order.status = report.status

/-- The response is about a resting order: its status is `SUBMITTED`, and nothing of the quantity
that was sent is filled. -/
def Rests (quantity : ℚ) (raw : PyVal ℚ) : Prop :=
  rawStatus (payloadOf raw) = .submitted
    ∧ (extractFloat (payloadOf raw) FILLED_KEYS ≤ 0 ∨ quantity ≤ 0)

/-- The order has what the response says before it is submitted. -/
structure Carries (order : Order ℚ) (raw : PyVal ℚ) : Prop where
  exchangeOrderId :
    order.exchangeOrderId = firstTruthy (payloadOf raw) ["id", "orderId", "clientOrderId"]
  filledQuantity : order.filledQuantity = extractFloat (payloadOf raw) FILLED_KEYS
  averageFillPrice : order.averageFillPrice = extractFloat (payloadOf raw) PRICE_KEYS

lemma statusOf_submitted_iff (status : OrderStatus) (filled quantity : ℚ) :
    statusOf status filled quantity = .submitted
      ↔ status = .submitted ∧ (filled ≤ 0 ∨ quantity ≤ 0) := by
  simp only [statusOf]
  by_cases hdone : quantity ≤ filled ∧ 0 < quantity
  · rw [if_pos hdone]
    refine ⟨fun h => (by cases h), fun h => ?_⟩
    rcases h.2 with hle | hle <;> linarith [hdone.1, hdone.2]
  · rw [if_neg hdone]
    by_cases hpart : 0 < filled ∧ filled < quantity ∧ status = .submitted
    · rw [if_pos hpart]
      refine ⟨fun h => (by cases h), fun h => ?_⟩
      rcases h.2 with hle | hle <;> linarith [hpart.1, hpart.2.1]
    · rw [if_neg hpart]
      refine ⟨fun h => ⟨h, ?_⟩, fun h => h.1⟩
      by_contra hboth
      rw [not_or, not_le, not_le] at hboth
      rcases lt_or_ge filled quantity with hlt | hge
      · exact hpart ⟨hboth.1, hlt, h⟩
      · exact hdone ⟨hge, hboth.2⟩

/-- A submitted order mirrors its report unless the order rests and did not carry the report's
values already. -/
lemma mirrors_updated_iff (exchange : Exchange ℚ) (quantity : ℚ) (limit : Option ℚ)
    (raw : PyVal ℚ) :
    Mirrors (reportOn order exchange quantity limit raw)
        (updated (reportOn order exchange quantity limit raw) (sent order exchange quantity limit))
      ↔ ¬ Rests quantity raw ∨ Carries order raw := by
  have hrests : (reportOn order exchange quantity limit raw).status = .submitted
      ↔ Rests quantity raw := statusOf_submitted_iff _ _ _
  by_cases hstatus : (reportOn order exchange quantity limit raw).status = .submitted
  · have hrest := hrests.mp hstatus
    rw [updated, if_pos hstatus]
    constructor
    · exact fun h => Or.inr ⟨h.exchangeOrderId, h.filledQuantity, h.averageFillPrice⟩
    · intro h
      have hcarries := h.resolve_left (not_not.mpr hrest)
      exact ⟨hcarries.exchangeOrderId, hcarries.filledQuantity, hcarries.averageFillPrice,
        hstatus.symm⟩
  · rw [updated, if_neg hstatus]
    exact ⟨fun _ => Or.inl (mt hrests.mpr hstatus), fun _ => ⟨rfl, rfl, rfl, rfl⟩⟩

/-- An accepted submission leaves an order that mirrors the returned report exactly when the
response is not about a resting order, or says nothing that the order did not say before. -/
theorem order_mirrors_iff
    (haccepted : (pipeline.submit answers markPrices order books).1.accepted = true) :
    ∃ exchange price quantity limit raw report,
      Prepared answers order exchange price quantity limit ∧ exchange.createOrder = .ok raw
        ∧ (pipeline.submit answers markPrices order books).1.executionReport = some report
        ∧ (Mirrors report (pipeline.submit answers markPrices order books).2.order
          ↔ ¬ Rests quantity raw ∨ Carries order raw) := by
  have hlead := attempt_order pipeline answers markPrices order books
  rw [submit] at haccepted ⊢
  cases hrun : (pipeline.attempt answers markPrices).run ⟨order, books, []⟩ with
  | error e w =>
      rw [hrun] at haccepted
      exact (Bool.false_ne_true haccepted).elim
  | ok r w =>
      rw [hrun] at haccepted
      obtain ⟨exchange, price, quantity, limit, raw, hprepared, hraw, hreport, hw⟩ :=
        hlead.ok hrun haccepted
      refine ⟨exchange, price, quantity, limit, raw, _, hprepared, hraw, hreport, ?_⟩
      rw [hw]
      exact mirrors_updated_iff order exchange quantity limit raw

/-- The exchange accepts the order and leaves it in its book. -/
def restingAnswers : Answers ℚ :=
  { demoAnswers (.ok ()) (.ok ()) with
    route := .ok (some (some { demoExchange with
      createOrder := .ok (.dict [("id", .str "42"), ("status", .str "open")]) }, some 100)) }

/-- The order does not know the id it rests under. -/
theorem resting_order_unknown :
    (demoPipeline.submit restingAnswers ∅ demoOrder demoBooks).1.accepted = true
      ∧ (demoPipeline.submit restingAnswers ∅ demoOrder demoBooks).2.order.exchangeOrderId = none
      ∧ ¬ ∀ report, (demoPipeline.submit restingAnswers ∅ demoOrder
          demoBooks).1.executionReport = some report →
        Mirrors report (demoPipeline.submit restingAnswers ∅ demoOrder demoBooks).2.order := by
  have hid : (demoPipeline.submit restingAnswers ∅ demoOrder demoBooks).2.order.exchangeOrderId
      = none := by decide +kernel
  have hreported : (demoPipeline.submit restingAnswers ∅ demoOrder
      demoBooks).1.executionReport.map ExecutionReport.exchangeOrderId = some (some "42") := by
    decide +kernel
  refine ⟨by decide +kernel, hid, fun h => ?_⟩
  obtain ⟨report, hreport, hreportId⟩ := Option.map_eq_some_iff.mp hreported
  have hmirror := (h report hreport).exchangeOrderId
  rw [hid, hreportId] at hmirror
  cases hmirror

/-- A filled order mirrors its report. -/
theorem order_mirrors_filled : ∃ report,
    (demoPipeline.submit (demoAnswers (.ok ()) (.ok ())) ∅ demoOrder
        demoBooks).1.executionReport = some report
      ∧ (Mirrors report
          (demoPipeline.submit (demoAnswers (.ok ()) (.ok ())) ∅ demoOrder demoBooks).2.order
        ↔ ¬ Rests 1 (.dict demoPayload) ∨ Carries demoOrder (.dict demoPayload)) := by
  obtain ⟨exchange, price, quantity, limit, raw, report, hprepared, hraw, hreport, hiff⟩ :=
    order_mirrors_iff demoPipeline (demoAnswers (.ok ()) (.ok ())) ∅ demoOrder demoBooks
      (by decide +kernel)
  have hrouted := hprepared.routed
  have hrounded := hprepared.rounded
  cases hrouted
  cases hrounded
  cases hraw
  exact ⟨report, hreport, hiff⟩

end ExecutionPipeline

end Aegis
