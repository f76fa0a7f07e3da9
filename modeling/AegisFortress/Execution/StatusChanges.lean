import AegisFortress.Execution.SubmitGuarantees

/-!
# The status of an order during a submission

`submit` changes the status in three ways: by `transition`, which asks the state machine; by the
fallback of `_apply_report_status`, which does not; and by the handler of its `try`, which does not
either.  `submit_course` lists the sequences of statuses that come of it, each with what leads
there, and `follows_machine_iff` compares them with the table.

The table has no edge for an order that is invalid, for a rejection by the exchange, and for a
failure after the report has moved the order on; in the last case a terminal status is left.
-/

namespace Aegis

/-- The statuses written, one after the other. -/
def statuses (trace : List (Effect ℚ)) : List OrderStatus :=
  trace.filterMap fun e =>
    match e with
    | .status status => some status
    | _ => none

/-- From `before` on, every change of the status is an edge of the state machine.  Writing the
status that is there changes nothing. -/
def FollowsMachine (before : OrderStatus) : List OrderStatus → Prop
  | [] => True
  | status :: rest =>
      (status = before ∨ status ∈ before.VALID_TRANSITIONS) ∧ FollowsMachine status rest

instance decidableFollowsMachine : (before : OrderStatus) → (past : List OrderStatus) →
    Decidable (FollowsMachine before past)
  | _, [] => inferInstanceAs (Decidable True)
  | _, status :: rest =>
      have := decidableFollowsMachine status rest
      inferInstanceAs (Decidable (_ ∧ _))

namespace ExecutionPipeline

open Raising

variable (pipeline : ExecutionPipeline ℚ) (answers : Answers ℚ) (markPrices : Dict String ℚ)
  (order : Order ℚ) (books : Books ℚ)

/-! ## What is written, stage by stage -/

lemma statuses_append (xs ys : List (Effect ℚ)) :
    statuses (xs ++ ys) = statuses xs ++ statuses ys := List.filterMap_append

/-- These statuses have been written, and the order has the last of them. -/
structure Written (w : World ℚ) (past : List OrderStatus) : Prop where
  statuses_eq : statuses w.trace = past
  status_eq : w.order.status = past.getLastD .created

lemma Written.setStatus {w : World ℚ} {past : List OrderStatus} (h : Written w past)
    (status : OrderStatus) : Written (w.setStatus status) (past ++ [status]) := by
  refine ⟨?_, ?_⟩
  · rw [World.setStatus, statuses_append, h.statuses_eq]
    rfl
  · rw [List.getLastD_concat]
    rfl

/-- What the report makes of a submitted order's status. -/
def reported (report : ExecutionReport ℚ) : List OrderStatus :=
  if report.status = .submitted then [] else [report.status]

/-- Something raises after the report has reached the order. -/
def LateFailure (report : ExecutionReport ℚ) : Prop :=
  (report.hasFill ∧ (report.averageFillPrice ≤ 0 ∨ ¬ GoesThrough answers.recordTrade
    ∨ answers.save ≠ .ok ())) ∨ ¬ GoesThrough answers.publish

lemma prepare_written (hcreated : order.status = .created) :
    Leads (pipeline.prepare answers markPrices) ⟨order, books, []⟩ (fun _ _ => True)
      (fun _ w => (order.validate ≠ .ok () ∧ Written w [])
        ∨ (order.validate = .ok () ∧ Written w [.validated])) := by
  have hedge : OrderStatus.validated ∈ order.status.VALID_TRANSITIONS := validated_iff.mpr hcreated
  simp only [prepare, leads_bind, leads_get, leads_lift, leads_transition, applyExchangePrecision,
    leads_modify, leads_pure]
  refine ⟨?_, ?_⟩
  · intro _ hvalid
    refine ⟨fun hrefused => absurd hedge hrefused, fun _ => ⟨?_, ?_⟩⟩
    · intro route _
      refine ⟨fun quantity _ => ⟨fun _ _ => trivial, ?_⟩, ?_⟩
      · exact fun _ _ => Or.inr ⟨hvalid, rfl, rfl⟩
      · exact fun _ _ => Or.inr ⟨hvalid, rfl, rfl⟩
    · exact fun _ _ => Or.inr ⟨hvalid, rfl, rfl⟩
  · intro e hinvalid
    refine Or.inl ⟨?_, rfl, hcreated⟩
    rw [hinvalid]
    intro h
    cases h

lemma applyReportStatus_written (report : ExecutionReport ℚ) {w : World ℚ}
    {past : List OrderStatus} (h : Written w past) :
    Leads (applyReportStatus report) w
      (fun _ w' => w'.books = w.books ∧ Written w' (past ++ reported report))
      (fun _ _ => False) := by
  simp only [applyReportStatus, leads_ite, leads_bind, leads_tryCatch, leads_transition,
    leads_modify, leads_pure, reported]
  refine ⟨?_, ?_⟩
  · intro hs
    rw [if_pos hs, List.append_nil]
    exact ⟨trivial, h⟩
  · intro hs
    rw [if_neg hs]
    have hset := h.setStatus report.status
    exact ⟨fun _ => ⟨rfl, hset.statuses_eq, hset.status_eq⟩,
      fun _ => ⟨rfl, hset.statuses_eq, hset.status_eq⟩⟩

/-- Publishing writes no status. -/
lemma publishExecutionEvent_written (report : ExecutionReport ℚ) (fill : FillProcessingResult ℚ)
    {w : World ℚ} {past : List OrderStatus} (h : Written w past) :
    Leads (publishExecutionEvent answers.publish report fill) w
      (fun _ w' => GoesThrough answers.publish ∧ Written w' past)
      (fun _ w' => ¬ GoesThrough answers.publish ∧ Written w' past) := by
  cases answers.publish with
  | none =>
      simp only [publishExecutionEvent, leads_pure]
      exact ⟨fun e he => (by cases he), h⟩
  | some answer =>
      simp only [publishExecutionEvent, leads_bind, leads_lift, leads_modify]
      refine ⟨?_, ?_⟩
      · rintro u rfl
        refine ⟨fun e he => (by cases he), ?_, h.status_eq⟩
        rw [World.emit, statuses_append, h.statuses_eq]
        exact List.append_nil _
      · rintro e rfl
        exact ⟨fun hgo => hgo e rfl, h⟩

/-- When processing a report on a valid order raises. -/
lemma processing_raises_iff (hvalid : order.validate = .ok ()) (exchange : Exchange ℚ)
    (quantity : ℚ) (limit : Option ℚ) (raw : PyVal ℚ) :
    let report := reportOn order exchange quantity limit raw
    (∃ e b, processing pipeline answers markPrices order books report = .error e b)
      ↔ report.hasFill ∧ (report.averageFillPrice ≤ 0 ∨ ¬ GoesThrough answers.recordTrade
        ∨ answers.save ≠ .ok ()) := by
  intro report
  have hout := pipeline.fillProcessor.process_outcome answers.toStoreAnswers report markPrices
    order.strategyId books
  rw [processing]
  generalize EStateM.run _ books = result at hout ⊢
  cases hout with
  | noFill hno =>
      refine ⟨?_, fun h => absurd h.1 hno⟩
      rintro ⟨e, b, h⟩
      cases h
  | refused hfill e hr =>
      refine ⟨fun _ => ⟨hfill, Or.inl ?_⟩, fun _ => ⟨_, _, rfl⟩⟩
      rcases hr with hle | ⟨e', he⟩
      · exact hle
      · by_contra hpos
        have hsymbol : order.symbol ≠ "" := symbol_of_valid hvalid
        have happly : books.ledger.applyFill (report.toFill order.strategyId)
            = .ok (books.ledger.book (report.toFill order.strategyId) order.side) :=
          PositionLedger.applyFill_of_check (PositionLedger.checkFill_ok.mpr
            ⟨hsymbol, hfill, not_le.mp hpos, OrderSide.ofString?_value order.side⟩)
        cases happly.symm.trans he
  | unrecorded hfill hprice r hr e he =>
      exact ⟨fun _ => ⟨hfill, Or.inr (Or.inl fun h => h e he)⟩, fun _ => ⟨_, _, rfl⟩⟩
  | unsaved hfill hprice r hr hrecord e he =>
      refine ⟨fun _ => ⟨hfill, Or.inr (Or.inr ?_)⟩, fun _ => ⟨_, _, rfl⟩⟩
      rw [he]
      intro h
      cases h
  | completed hfill hprice r hr hrecord hsave =>
      constructor
      · rintro ⟨e, b, h⟩
        cases h
      · rintro ⟨-, hle | hno | hno⟩
        · exact absurd hle hprice
        · exact absurd hrecord hno
        · exact absurd hsave hno

lemma settle_written (hvalid : order.validate = .ok ()) (exchange : Exchange ℚ) (quantity : ℚ)
    (limit : Option ℚ) (raw : PyVal ℚ) {trace : List (Effect ℚ)}
    (htrace : statuses trace = [.validated, .routed]) :
    let report := reportOn order exchange quantity limit raw
    let past := [OrderStatus.validated, .routed, .submitted]
    Leads (pipeline.settle answers markPrices raw)
      ⟨sent order exchange quantity limit, books, trace⟩
      (fun _ w => GoesThrough answers.recordExecutionReport ∧ ¬ LateFailure answers report
        ∧ Written w (past ++ reported report))
      (fun _ w => (¬ GoesThrough answers.recordExecutionReport ∧ Written w past)
        ∨ (GoesThrough answers.recordExecutionReport ∧ LateFailure answers report
          ∧ Written w (past ++ reported report))) := by
  intro report past
  have hraises := processing_raises_iff pipeline answers markPrices order books hvalid exchange
    quantity limit raw
  have hstart : Written ⟨sent order exchange quantity limit, books, trace⟩ [.validated, .routed] :=
    ⟨htrace, rfl⟩
  have hsubmitted := hstart.setStatus .submitted
  rw [settle]
  simp only [leads_bind, leads_transition, leads_get, leads_callOptional]
  refine ⟨?_, fun _ => ⟨?_, ?_⟩⟩
  · intro hrefused
    have hedge : OrderStatus.submitted ∈ OrderStatus.routed.VALID_TRANSITIONS := by decide
    exact absurd hedge hrefused
  · intro hrecord
    refine (applyReportStatus_written _ hsubmitted).mono ?_ (fun _ _ h => h.elim)
    rintro - w ⟨hbooks, hw⟩
    rw [leads_zoom]
    refine (leads_run _ _).mono ?_ ?_
    · intro fill b hrun
      rw [hbooks] at hrun
      have hquiet : ¬ (report.hasFill ∧ (report.averageFillPrice ≤ 0
          ∨ ¬ GoesThrough answers.recordTrade ∨ answers.save ≠ .ok ())) := by
        intro hlate
        obtain ⟨e, b', herror⟩ := hraises.mpr hlate
        cases hrun.symm.trans herror
      have hw' : Written { w with books := b } (past ++ reported report) :=
        ⟨hw.statuses_eq, hw.status_eq⟩
      refine (publishExecutionEvent_written _ _ _ hw').mono ?_ ?_
      · rintro - w' ⟨hpublish, hw'⟩
        refine leads_pure.mpr ⟨hrecord, ?_, hw'⟩
        rintro (hlate | hlate)
        · exact hquiet hlate
        · exact hlate hpublish
      · rintro e w' ⟨hpublish, hw'⟩
        exact Or.inr ⟨hrecord, Or.inr hpublish, hw'⟩
    · intro e b hrun
      rw [hbooks] at hrun
      exact Or.inr ⟨hrecord, Or.inl (hraises.mp ⟨e, b, hrun⟩), hw.statuses_eq, hw.status_eq⟩
  · intro e he
    exact Or.inl ⟨fun h => h e he, hsubmitted⟩

/-! ## The whole submission -/

/-- The sequences of statuses a submission can write, with what leads to each. -/
inductive Course : List OrderStatus → Prop
  | invalid (hinvalid : order.validate ≠ .ok ()) : Course [.failed]
  | unprepared (hvalid : order.validate = .ok ())
      (hno : ∀ exchange price quantity limit,
        ¬ Prepared answers order exchange price quantity limit) : Course [.validated, .failed]
  | refused {exchange : Exchange ℚ} {price quantity : ℚ} {limit : Option ℚ}
      (hp : Prepared answers order exchange price quantity limit)
      (hrefused : ¬ (pipeline.decision markPrices order books exchange price quantity
        limit).allowed) : Course [.validated, .rejected]
  | unanswered {exchange : Exchange ℚ} {price quantity : ℚ} {limit : Option ℚ}
      (hc : Clears pipeline answers markPrices order books exchange price quantity limit)
      (e : PyError) (he : exchange.createOrder = .error e) :
      Course [.validated, .routed, .failed]
  | unrecorded {exchange : Exchange ℚ} {price quantity : ℚ} {limit : Option ℚ}
      (hc : Clears pipeline answers markPrices order books exchange price quantity limit)
      (raw : PyVal ℚ) (hraw : exchange.createOrder = .ok raw)
      (hrecord : ¬ GoesThrough answers.recordExecutionReport) :
      Course [.validated, .routed, .submitted, .failed]
  | failed {exchange : Exchange ℚ} {price quantity : ℚ} {limit : Option ℚ}
      (hc : Clears pipeline answers markPrices order books exchange price quantity limit)
      (raw : PyVal ℚ) (hraw : exchange.createOrder = .ok raw)
      (hrecord : GoesThrough answers.recordExecutionReport)
      (hlate : LateFailure answers (reportOn order exchange quantity limit raw)) :
      Course ([.validated, .routed, .submitted]
        ++ reported (reportOn order exchange quantity limit raw) ++ [.failed])
  | accepted {exchange : Exchange ℚ} {price quantity : ℚ} {limit : Option ℚ}
      (hc : Clears pipeline answers markPrices order books exchange price quantity limit)
      (raw : PyVal ℚ) (hraw : exchange.createOrder = .ok raw)
      (hrecord : GoesThrough answers.recordExecutionReport)
      (hlate : ¬ LateFailure answers (reportOn order exchange quantity limit raw)) :
      Course ([.validated, .routed, .submitted]
        ++ reported (reportOn order exchange quantity limit raw))

/-- **The course of the status.**  What a submission of a created order writes is one of these
sequences, and the order is left with the last status of it. -/
theorem submit_course (hcreated : order.status = .created) :
    ∃ past, Course pipeline answers markPrices order books past
      ∧ Written (pipeline.submit answers markPrices order books).2 past := by
  let Q : World ℚ → Prop := fun w =>
    ∃ past, Course pipeline answers markPrices order books past ∧ Written w past
  have hlead : Leads (pipeline.attempt answers markPrices) ⟨order, books, []⟩
      (fun _ w => Q w) (fun _ w => Q (w.setStatus .failed)) := by
    rw [attempt, leads_bind]
    refine ((prepare_spec pipeline answers markPrices order books).and
      (prepare_written pipeline answers markPrices order books hcreated)).mono ?_ ?_
    · rintro ⟨exchange, riskDecision⟩ w ⟨⟨price, quantity, limit, hprepared, hdecision, rfl⟩, -⟩
      dsimp only at hprepared hdecision ⊢
      subst hdecision
      rw [leads_ite]
      refine ⟨fun hallowed => ?_, fun hrefused => ?_⟩
      · have hc : Clears pipeline answers markPrices order books exchange price quantity limit :=
          ⟨hprepared, hallowed⟩
        rw [leads_bind]
        refine (sendOrder_spec order books).mono ?_ ?_
        · rintro raw w ⟨hraw, rfl⟩
          rw [leads_bind]
          refine (settle_written pipeline answers markPrices order books hc.valid exchange quantity
            limit raw rfl).mono ?_ ?_
          · rintro ⟨report, fill⟩ w ⟨hrecord, hlate, hw⟩
            exact leads_pure.mpr ⟨_, .accepted hc raw hraw hrecord hlate, hw⟩
          · rintro e w (⟨hrecord, hw⟩ | ⟨hrecord, hlate, hw⟩)
            · exact ⟨_, .unrecorded hc raw hraw hrecord, hw.setStatus .failed⟩
            · exact ⟨_, .failed hc raw hraw hrecord hlate, hw.setStatus .failed⟩
        · rintro e w ⟨he, rfl⟩
          exact ⟨_, .unanswered hc e he, rfl, rfl⟩
      · simp only [leads_bind, leads_transition, leads_pure]
        refine ⟨fun hno => ?_, fun _ => ⟨_, .refused hprepared hrefused, rfl, rfl⟩⟩
        have hedge : OrderStatus.rejected ∈ OrderStatus.validated.VALID_TRANSITIONS := by decide
        exact absurd hedge hno
    · rintro e w ⟨⟨-, -, hno⟩, ⟨hinvalid, hw⟩ | ⟨hvalid, hw⟩⟩
      · exact ⟨_, .invalid hinvalid, hw.setStatus .failed⟩
      · exact ⟨_, .unprepared hvalid hno, hw.setStatus .failed⟩
  exact submit_of_attempt pipeline answers markPrices order books hlead

/-! ## The statuses against the table -/

/-- The statuses a report can have. -/
lemma reportOn_status (exchange : Exchange ℚ) (quantity : ℚ) (limit : Option ℚ) (raw : PyVal ℚ) :
    (reportOn order exchange quantity limit raw).status
      ∈ [OrderStatus.submitted, .partiallyFilled, .filled, .cancelled, .rejected, .failed] := by
  have hraw : ∀ payload : List (String × PyVal ℚ), ExchangeResponseNormalizer.rawStatus payload
      ∈ [OrderStatus.submitted, .partiallyFilled, .filled, .cancelled, .rejected, .failed] := by
    intro payload
    rw [ExchangeResponseNormalizer.rawStatus]
    generalize pyLower _ = name
    cases hfound : ExchangeResponseNormalizer.STATUS_MAP.lookup name with
    | none => simp
    | some status =>
        obtain ⟨l, l', hsplit, -⟩ := List.lookup_eq_some_iff.mp hfound
        have hmem : (name, status) ∈ ExchangeResponseNormalizer.STATUS_MAP := by
          rw [hsplit]
          simp
        simp only [ExchangeResponseNormalizer.STATUS_MAP, List.mem_cons, Prod.mk.injEq,
          List.not_mem_nil] at hmem
        simp only [Option.getD_some]
        aesop
  simp only [reportOn, ExchangeResponseNormalizer.normalize, ExchangeResponseNormalizer.statusOf]
  split_ifs
  · simp
  · simp
  · exact hraw _

/-- Where a submitted order may go by its report, and from there by a failure. -/
lemma follows_reported {status : OrderStatus}
    (h : status ∈ [OrderStatus.submitted, .partiallyFilled, .filled, .cancelled, .rejected, .failed]) :
    let past := [OrderStatus.validated, .routed, .submitted]
      ++ if status = .submitted then [] else [status]
    (FollowsMachine .created past ↔ status ≠ .rejected)
      ∧ (FollowsMachine .created (past ++ [.failed]) ↔ status = .submitted ∨ status = .failed) := by
  simp only [List.mem_cons, List.not_mem_nil, or_false] at h
  rcases h with rfl | rfl | rfl | rfl | rfl | rfl <;> decide

/-- A submission that stays inside the table: the order is valid, and if the exchange is asked,
answers, and its report is recorded, then it does not report a rejection, and what fails after
that finds the order submitted or failed. -/
structure Regular : Prop where
  valid : order.validate = .ok ()
  settled : ∀ exchange price quantity limit raw,
    Clears pipeline answers markPrices order books exchange price quantity limit →
    exchange.createOrder = .ok raw → GoesThrough answers.recordExecutionReport →
    let report := reportOn order exchange quantity limit raw
    report.status ≠ .rejected
      ∧ (LateFailure answers report → report.status = .submitted ∨ report.status = .failed)

variable {pipeline answers markPrices order books} in
/-- The one answer there is decides. -/
lemma regular_of {exchange : Exchange ℚ} {price quantity : ℚ} {limit : Option ℚ} {raw : PyVal ℚ}
    (hc : Clears pipeline answers markPrices order books exchange price quantity limit)
    (hraw : exchange.createOrder = .ok raw)
    (h : (reportOn order exchange quantity limit raw).status ≠ .rejected
      ∧ (LateFailure answers (reportOn order exchange quantity limit raw) →
        (reportOn order exchange quantity limit raw).status = .submitted
          ∨ (reportOn order exchange quantity limit raw).status = .failed)) :
    Regular pipeline answers markPrices order books := by
  refine ⟨hc.valid, fun exchange' price' quantity' limit' raw' hc' hraw' _ => ?_⟩
  obtain ⟨rfl, rfl, rfl, rfl⟩ := hc.toPrepared.unique answers order hc'.toPrepared
  cases hraw.symm.trans hraw'
  exact h

/-- **The status follows the state machine exactly in the regular submissions.** -/
theorem follows_machine_iff (hcreated : order.status = .created) :
    FollowsMachine .created (statuses (pipeline.submit answers markPrices order books).2.trace)
      ↔ Regular pipeline answers markPrices order books := by
  obtain ⟨past, hcourse, hw⟩ := pipeline.submit_course answers markPrices order books hcreated
  rw [hw.statuses_eq]
  cases hcourse with
  | invalid hinvalid =>
      have hno : ¬ FollowsMachine .created [.failed] := by decide
      exact ⟨fun h => absurd h hno, fun h => absurd h.valid hinvalid⟩
  | unprepared hvalid hno =>
      refine ⟨fun _ => ⟨hvalid, ?_⟩, fun _ => by decide⟩
      intro exchange price quantity limit raw hc
      exact absurd hc.toPrepared (hno exchange price quantity limit)
  | refused hp hrefused =>
      refine ⟨fun _ => ⟨hp.valid, ?_⟩, fun _ => by decide⟩
      intro exchange' price' quantity' limit' raw hc
      obtain ⟨rfl, rfl, rfl, rfl⟩ := hp.unique answers order hc.toPrepared
      exact absurd hc.allowed hrefused
  | unanswered hc e he =>
      refine ⟨fun _ => ⟨hc.valid, ?_⟩, fun _ => by decide⟩
      intro exchange' price' quantity' limit' raw hc' hraw
      obtain ⟨rfl, rfl, rfl, rfl⟩ := hc.toPrepared.unique answers order hc'.toPrepared
      cases he.symm.trans hraw
  | unrecorded hc raw hraw hrecord =>
      refine ⟨fun _ => ⟨hc.valid, ?_⟩, fun _ => by decide⟩
      intro exchange' price' quantity' limit' raw' _ _ hrecord'
      exact absurd hrecord' hrecord
  | @failed exchange price quantity limit hc raw hraw hrecord hlate =>
      rw [reported, (follows_reported (reportOn_status order exchange quantity limit raw)).2]
      constructor
      · intro hstatus
        refine regular_of hc hraw ⟨?_, fun _ => hstatus⟩
        intro hrejected
        rcases hstatus with hs | hs <;> cases hrejected.symm.trans hs
      · intro hregular
        exact (hregular.settled exchange price quantity limit raw hc hraw hrecord).2 hlate
  | @accepted exchange price quantity limit hc raw hraw hrecord hlate =>
      rw [reported, (follows_reported (reportOn_status order exchange quantity limit raw)).1]
      constructor
      · intro hstatus
        exact regular_of hc hraw ⟨hstatus, fun h => absurd h hlate⟩
      · intro hregular
        exact (hregular.settled exchange price quantity limit raw hc hraw hrecord).1

theorem follows_machine_demo :
    FollowsMachine .created
        (statuses (demoPipeline.submit (demoAnswers (.ok ()) raised) ∅ demoOrder demoBooks).2.trace)
      ↔ Regular demoPipeline (demoAnswers (.ok ()) raised) ∅ demoOrder demoBooks :=
  follows_machine_iff demoPipeline (demoAnswers (.ok ()) raised) ∅ demoOrder demoBooks rfl

/-- The order is filled, the state cannot be saved, and the filled order becomes a failed one. -/
theorem filled_order_fails :
    statuses (demoPipeline.submit (demoAnswers (.ok ()) raised) ∅ demoOrder demoBooks).2.trace
        = [.validated, .routed, .submitted, .filled, .failed]
      ∧ ¬ ∀ (pipeline : ExecutionPipeline ℚ) (answers : Answers ℚ) (markPrices : Dict String ℚ)
          (order : Order ℚ) (books : Books ℚ), order.status = .created →
          FollowsMachine .created
            (statuses (pipeline.submit answers markPrices order books).2.trace) := by
  have htrace : statuses
      (demoPipeline.submit (demoAnswers (.ok ()) raised) ∅ demoOrder demoBooks).2.trace
        = [.validated, .routed, .submitted, .filled, .failed] := by decide +kernel
  refine ⟨htrace, fun h => ?_⟩
  have hfollows := h demoPipeline (demoAnswers (.ok ()) raised) ∅ demoOrder demoBooks rfl
  rw [htrace] at hfollows
  exact absurd hfollows (by decide)

end ExecutionPipeline

end Aegis
