import AegisFortress.Runtime.ServiceSteps

/-!
# The daily loss limit over a run

Once everything on the bus has been handled, the switch is tripped exactly when some fill has
broken an exposure limit (`drained_triggered_iff`).  The daily loss plays no part: what the switch
compares with its limit is never anything but zero (`dailyPnl_zero`).
-/

namespace Aegis

open EventLoop ExecutionPipeline Machine

namespace RuntimeContainer

/-! ## Reading a report of the pipeline -/

lemma readable_toDict (breaches : List RiskBreach) :
    breachesOf.readable (α := ℚ) (breaches.map RiskBreach.toDict)
      = breaches.map fun breach => [("code", .str breach.code), ("message", .str breach.message),
          ("severity", .str breach.severity)] := by
  induction breaches with
  | nil => rfl
  | cons breach rest ih =>
      rw [List.map_cons, RiskBreach.toDict, breachesOf.readable, ih]
      rfl

lemma critical_executionEvent (report : ExecutionReport ℚ) (fill : FillProcessingResult ℚ) :
    Critical (executionEvent report fill)
      ↔ ∃ breach ∈ fill.breaches, pyUpper breach.severity = "CRITICAL" := by
  have hread : breachesOf (executionEvent report fill)
      = breachesOf.readable (fill.breaches.map RiskBreach.toDict) := rfl
  rw [Critical, hread, readable_toDict]
  simp only [List.mem_map, exists_exists_and_eq_and]
  rfl

lemma upper_critical {guard : PortfolioGuard ℚ} {snapshot : ExposureSnapshot ℚ}
    {breach : RiskBreach} (h : breach ∈ guard.validate snapshot) :
    pyUpper breach.severity = "CRITICAL" ↔ breach.severity = "CRITICAL" := by
  rcases guard.validate_severity snapshot h with hs | hs
  · rw [hs]
    decide
  · rw [hs]
    decide

/-! ## What publishes such a report -/

variable (container : RuntimeContainer ℚ)

/-- The exposure after a fill has been booked and the positions marked. -/
def exposureAfter (markPrices : Dict String ℚ) (ledger : PositionLedger ℚ) (fill : Fill ℚ)
    (side : OrderSide) : ExposureSnapshot ℚ :=
  ExposureEngine.calculate ((ledger.book fill side).1.markPositions markPrices).positions markPrices

/-- The portfolio is over the gross or the net limit. -/
def OverLimit (guard : PortfolioGuard ℚ) (exposure : ExposureSnapshot ℚ) : Prop :=
  guard.maxGrossExposure < exposure.grossExposure ∨ guard.maxNetExposure < |exposure.netExposure|

/-- The step submits an order that is sent, and with its fill, which is booked, the portfolio is
over a limit; the calls after the booking go through. -/
def CriticalFill (s : Runtime ℚ) (input : RuntimeInput ℚ) : Prop :=
  ∃ turn event order exchange price quantity limit raw,
    container.Requested s input turn event order
    ∧ Booked container.executionPipeline turn.onBus event.markPrices order s.state.books exchange
        price quantity limit raw
    ∧ LateCalls turn.onBus
    ∧ OverLimit container.executionPipeline.fillProcessor.portfolioGuard
        (exposureAfter event.markPrices s.state.books.ledger
          (fillOf order exchange quantity limit raw) order.side)

lemma critical_booked (pipeline : ExecutionPipeline ℚ) (markPrices : Dict String ℚ)
    (order : Order ℚ) (books : Books ℚ) (exchange : Exchange ℚ) (quantity : ℚ) (limit : Option ℚ)
    (raw : PyVal ℚ) (report : ExecutionReport ℚ) :
    Critical (executionEvent report
        (bookedResult pipeline markPrices order books exchange quantity limit raw))
      ↔ OverLimit pipeline.fillProcessor.portfolioGuard (exposureAfter markPrices books.ledger
          (fillOf order exchange quantity limit raw) order.side) := by
  have hbreaches :
      (bookedResult pipeline markPrices order books exchange quantity limit raw).breaches
        = pipeline.fillProcessor.portfolioGuard.validate (exposureAfter markPrices books.ledger
            (fillOf order exchange quantity limit raw) order.side) := rfl
  rw [critical_executionEvent, hbreaches, OverLimit, ← PortfolioGuard.critical_iff]
  exact exists_congr fun breach => and_congr_right fun hb => upper_critical hb

lemma not_critical_unfilled (report : ExecutionReport ℚ) :
    ¬ Critical (executionEvent report { processed := false }) := by
  rw [critical_executionEvent]
  rintro ⟨breach, hb, -⟩
  exact absurd hb List.not_mem_nil

/-- A submission publishes a report that trips the switch exactly when it books a critical fill. -/
lemma submit_trips_iff (pipeline : ExecutionPipeline ℚ) (answers : Answers ℚ)
    (markPrices : Dict String ℚ) (order : Order ℚ) (books : Books ℚ)
    (hbus : answers.publish = some (.ok ())) :
    (∃ event ∈ events (pipeline.submit answers markPrices order books).2.trace, Critical event)
      ↔ ∃ exchange price quantity limit raw,
          Booked pipeline answers markPrices order books exchange price quantity limit raw
          ∧ LateCalls answers
          ∧ OverLimit pipeline.fillProcessor.portfolioGuard (exposureAfter markPrices books.ledger
              (fillOf order exchange quantity limit raw) order.side) := by
  rcases pipeline.submit_events answers markPrices order books hbus with
    ⟨exchange, price, quantity, limit, raw, hbooked, hlate, hevents⟩ | ⟨hno, hevents⟩
  · rw [hevents]
    simp only [List.mem_singleton, exists_eq_left, critical_booked]
    constructor
    · intro hover
      exact ⟨exchange, price, quantity, limit, raw, hbooked, hlate, hover⟩
    · rintro ⟨exchange', price', quantity', limit', raw', hbooked', -, hover⟩
      obtain ⟨rfl, -, rfl, rfl⟩ :=
        hbooked.clears.toPrepared.unique answers order hbooked'.clears.toPrepared
      cases hbooked.answered.symm.trans hbooked'.answered
      exact hover
  · constructor
    · rintro ⟨event, he, hcritical⟩
      obtain ⟨report, rfl⟩ := hevents event he
      exact absurd hcritical (not_critical_unfilled report)
    · rintro ⟨exchange, price, quantity, limit, raw, hbooked, hlate, -⟩
      exact absurd ⟨hbooked, hlate⟩ (hno exchange price quantity limit raw)

/-- A dispatch publishes what trips the switch when it books a critical fill. -/
lemma dispatch_trips_iff (s : Runtime ℚ) (turn : Turn ℚ) :
    Emits (ρ := Command) (fun turn event state => container.handle turn state event) Trips s
        (.dispatch turn) ↔ container.CriticalFill s (.dispatch turn) := by
  rcases s with ⟨state, queue⟩
  constructor
  · rintro ⟨event, he, htrips⟩
    cases queue with
    | nil => exact absurd he List.not_mem_nil
    | cons head rest =>
        have he : event ∈ (container.handle turn state head).2 := he
        cases head with
        | orderbookSnapshot orderbook =>
            rw [handle, onOrderbookSnapshot] at he
            split_ifs at he
            · obtain ⟨order, -, rfl⟩ := List.mem_map.mp he
              exact htrips.elim
            · exact absurd he List.not_mem_nil
        | orderRequest request =>
            rw [handle, onOrderRequest] at he
            split at he
            · exact absurd he List.not_mem_nil
            · rename_i order hdecode
              obtain ⟨report, hreport, rfl⟩ := List.mem_map.mp he
              obtain ⟨exchange, price, quantity, limit, raw, hcritical⟩ :=
                (submit_trips_iff container.executionPipeline turn.onBus request.markPrices order
                  state.books rfl).mp ⟨report, hreport, htrips⟩
              exact ⟨turn, request, order, exchange, price, quantity, limit, raw,
                ⟨rfl, rfl, hdecode⟩, hcritical⟩
        | executionReport report =>
            rcases foldl_published report (breachesOf report) _ he with he | ⟨risk, rfl⟩
            · exact absurd he List.not_mem_nil
            · exact htrips.elim
        | riskBreach risk => exact absurd he List.not_mem_nil
        | other eventType => exact absurd he List.not_mem_nil
  · rintro ⟨turn', request, order, exchange, price, quantity, limit, raw,
      ⟨hinput, hhead, hdecode⟩, hcritical⟩
    cases hinput
    cases queue with
    | nil => cases hhead
    | cons head rest =>
        cases hhead
        obtain ⟨report, hreport, htrips⟩ :=
          (submit_trips_iff container.executionPipeline turn.onBus request.markPrices order
            state.books rfl).mpr ⟨exchange, price, quantity, limit, raw, hcritical⟩
        refine ⟨.executionReport report, ?_, htrips⟩
        change .executionReport report ∈ (container.onOrderRequest turn state request).2
        rw [onOrderRequest, hdecode]
        exact List.mem_map_of_mem hreport

/-! ## The daily loss -/

/-- Nobody but the services: no report comes from outside, and nobody resets the switch. -/
def Ordinary : RuntimeInput ℚ → Prop
  | .publish (.executionReport _) => False
  | .act _ => False
  | _ => True

lemma emits_trips_iff (s : Runtime ℚ) {input : RuntimeInput ℚ} (h : Ordinary input) :
    Emits (fun turn event state => container.handle turn state event) Trips s input
      ↔ container.CriticalFill s input := by
  cases input with
  | publish event =>
      refine iff_of_false ?_ ?_
      · rintro ⟨event', he, htrips⟩
        cases List.mem_singleton.mp he
        cases event with
        | executionReport report => exact h
        | _ => exact htrips
      · rintro ⟨_, _, _, _, _, _, _, _, ⟨hinput, -⟩, -⟩
        cases hinput
  | dispatch turn => exact container.dispatch_trips_iff s turn
  | act command => exact h.elim

/-- **What the switch stands for once everything is handled**: some fill has broken a limit. -/
theorem drained_triggered_iff (state : RuntimeState ℚ) (hfresh : state.killSwitch.triggered = false)
    {inputs : List (RuntimeInput ℚ)} (hown : ∀ input ∈ inputs, Ordinary input) {s : Runtime ℚ}
    (hrun : run container.step ⟨state, []⟩ inputs = some s) (hdrained : s.queue = []) :
    s.state.killSwitch.triggered = true
      ↔ Sometime container.step ⟨state, []⟩ container.CriticalFill inputs := by
  have hinit : ¬ FlagOrQueued (fun state => state.killSwitch.triggered = true) Trips
      (⟨state, []⟩ : Runtime ℚ) := by
    rintro (h | ⟨event, he, -⟩)
    · cases hfresh.symm.trans h
    · exact absurd he List.not_mem_nil
  have hquiet : ∀ input ∈ inputs, QuietInput (fun _ : Command => False) input := by
    intro input hi
    cases input with
    | act command => exact hown _ hi
    | _ => trivial
  rw [drained_iff container.trips_governs hinit inputs hquiet hrun hdrained]
  constructor
  · exact Sometime.mono fun input hi s h => (container.emits_trips_iff s (hown input hi)).mp h
  · exact Sometime.mono fun input hi s h => (container.emits_trips_iff s (hown input hi)).mpr h

/-- The daily profit and loss the switch compares with its limit is never anything but zero. -/
theorem dailyPnl_zero {s₀ s : Runtime ℚ} (hinit : s₀.state.killSwitch.dailyPnl = 0)
    {inputs : List (RuntimeInput ℚ)} (hrun : run container.step s₀ inputs = some s) :
    s.state.killSwitch.dailyPnl = 0 := by
  refine run_invariant (fun s => s.state.killSwitch.dailyPnl = 0) hinit ?_ hrun
  intro s input s' hzero hstep
  rcases step_cases hstep with ⟨event, -, rfl⟩ | ⟨turn, event, rest, -, -, rfl⟩
    | ⟨command, -, rfl⟩
  · exact hzero
  · cases event with
    | orderbookSnapshot orderbook =>
        change (container.onOrderbookSnapshot turn s.state orderbook).1.killSwitch.dailyPnl = 0
        rw [onOrderbookSnapshot]
        split_ifs <;> exact hzero
    | orderRequest request =>
        change (container.onOrderRequest turn s.state request).1.killSwitch.dailyPnl = 0
        rw [onOrderRequest]
        split <;> exact hzero
    | executionReport report =>
        exact (foldl_dailyPnl report (breachesOf report) _).trans hzero
    | riskBreach risk => exact hzero
    | other eventType => exact hzero
  · cases command
    rfl

/-- **When a loss at the daily limit has tripped the switch.**  In a run that has been handled to
the end, a realized loss of `max_daily_loss` or more goes with a tripped switch if and only if
there is no such loss, or some fill of the run has put the portfolio over its gross or net
limit. -/
theorem daily_loss_trips_iff (maxDailyLoss maxDrawdownPct : ℚ) (switch : KillSwitch ℚ)
    (hswitch : KillSwitch.init maxDailyLoss maxDrawdownPct = .ok switch) (saved : PyVal ℚ)
    (inputs : List (RuntimeInput ℚ)) (hown : ∀ input ∈ inputs, Ordinary input) (s : Runtime ℚ)
    (hrun : run container.step (started switch saved) inputs = some s) (hdrained : s.queue = []) :
    (s.state.books.ledger.realizedPnl ≤ -maxDailyLoss → s.state.killSwitch.triggered = true)
      ↔ -maxDailyLoss < s.state.books.ledger.realizedPnl
        ∨ Sometime container.step (started switch saved) container.CriticalFill inputs := by
  have hfresh : switch.triggered = false := (KillSwitch.init_ok hswitch).2.1
  rw [container.drained_triggered_iff (started switch saved).state hfresh hown hrun hdrained,
    ← not_le]
  exact imp_iff_not_or

/-- A book arrives, and is answered by an order, which is executed and reported. -/
def trade (turn : Turn ℚ) : List (RuntimeInput ℚ) :=
  [.publish (.orderbookSnapshot (.dict [])), .dispatch turn, .dispatch turn, .dispatch turn]

/-- One coin is bought at 100 and sold at 40. -/
def lossInputs : List (RuntimeInput ℚ) :=
  trade (demoTurn .buy 100 ∅) ++ trade (demoTurn .sell 40 ∅)

lemma lossInputs_ordinary : ∀ input ∈ lossInputs, Ordinary input := by
  intro input hi
  simp only [lossInputs, trade, List.cons_append, List.nil_append, List.mem_cons,
    List.not_mem_nil, or_false] at hi
  rcases hi with rfl | rfl | rfl | rfl | rfl | rfl | rfl | rfl <;> trivial

lemma lossInputs_run : ∃ s, run demoContainer.step (started demoSwitch (.dict [])) lossInputs = some s
    ∧ s.queue = [] ∧ s.state.books.ledger.realizedPnl = -60
    ∧ s.state.killSwitch.triggered = false := by
  have hrun : (run demoContainer.step (started demoSwitch (.dict [])) lossInputs).map
      (fun s => (s.queue.length, s.state.books.ledger.realizedPnl, s.state.killSwitch.triggered))
      = some (0, -60, false) := by decide +kernel
  obtain ⟨s, hs, hobserved⟩ := Option.map_eq_some_iff.mp hrun
  rw [Prod.mk.injEq, Prod.mk.injEq] at hobserved
  exact ⟨s, hs, List.length_eq_zero_iff.mp hobserved.1, hobserved.2⟩

lemma demoSwitch_init : KillSwitch.init 50 10 = .ok demoSwitch := by
  rw [KillSwitch.init, dif_neg (by norm_num), dif_neg (by norm_num)]
  rfl

/-- The ledger has lost sixty against a limit of fifty, and the switch has not tripped. -/
theorem loss_unnoticed : (∀ input ∈ lossInputs, Ordinary input) ∧ ∃ s,
    run demoContainer.step (started demoSwitch (.dict [])) lossInputs = some s ∧ s.queue = []
      ∧ s.state.books.ledger.realizedPnl ≤ -demoSwitch.maxDailyLoss
      ∧ ¬ s.state.killSwitch.triggered = true := by
  obtain ⟨s, hs, hdrained, hlost, hquiet⟩ := lossInputs_run
  refine ⟨lossInputs_ordinary, s, hs, hdrained, ?_, ?_⟩
  · rw [hlost]
    decide +kernel
  · rw [hquiet]
    exact Bool.false_ne_true

/-- None of the two fills has broken a limit. -/
theorem loss_without_breach :
    ¬ Sometime demoContainer.step (started demoSwitch (.dict [])) demoContainer.CriticalFill
      lossInputs := by
  obtain ⟨s, hs, hdrained, hlost, hquiet⟩ := lossInputs_run
  have hiff := demoContainer.daily_loss_trips_iff 50 10 demoSwitch demoSwitch_init (.dict [])
    lossInputs lossInputs_ordinary s hs hdrained
  intro hbreach
  have htripped := hiff.mpr (Or.inr hbreach) (by rw [hlost]; decide +kernel)
  cases hquiet.symm.trans htripped

end RuntimeContainer

end Aegis
