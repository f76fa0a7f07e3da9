import AegisFortress.Runtime.ServiceSteps

/-!
# Orders after the kill switch has tripped

The strategies ask the switch before they request an order; the execution service does not ask it
before it executes one.  So orders stop when the switch trips, except for those that were already
waiting as requests and pass every other check (`orders_stop_iff`).
-/

namespace Aegis

open EventLoop ExecutionPipeline Machine

namespace RuntimeContainer

variable (container : RuntimeContainer ℚ)

/-! ## What a step orders -/

/-- The step calls no `create_order`. -/
def NoOrder (s : Runtime ℚ) (input : RuntimeInput ℚ) : Prop :=
  ∀ s', container.step s input = some s' → s'.state.orderCalls = s.state.orderCalls

/-- The step submits an order that passes every check. -/
def Submits (s : Runtime ℚ) (input : RuntimeInput ℚ) : Prop :=
  ∃ turn event order exchange price quantity limit,
    container.Requested s input turn event order
    ∧ Clears container.executionPipeline turn.onBus event.markPrices order s.state.books exchange
        price quantity limit

/-- Only requests lead to orders. -/
lemma handle_orderCalls (turn : Turn ℚ) (state : RuntimeState ℚ) {event : Event ℚ}
    (h : ∀ request, event ≠ .orderRequest request) :
    (container.handle turn state event).1.orderCalls = state.orderCalls := by
  cases event with
  | orderbookSnapshot orderbook =>
      rw [handle, onOrderbookSnapshot]
      split_ifs <;> rfl
  | orderRequest request => exact absurd rfl (h request)
  | executionReport report => rfl
  | riskBreach risk => rfl
  | other eventType => rfl

/-- The execution service sends an order whenever the pipeline's own checks let it. -/
lemma onOrderRequest_orderCalls (turn : Turn ℚ) (state : RuntimeState ℚ)
    (request : OrderRequestEvent ℚ) :
    (container.onOrderRequest turn state request).1.orderCalls = state.orderCalls
      ↔ ¬ ∃ order exchange price quantity limit,
          OrderEventCodec.decode container.iso turn.now request.orderPayload = .ok order
          ∧ Clears container.executionPipeline turn.onBus request.markPrices order state.books
              exchange price quantity limit := by
  rw [onOrderRequest]
  cases hdecode : OrderEventCodec.decode container.iso turn.now request.orderPayload with
  | error e =>
      refine iff_of_true rfl ?_
      rintro ⟨order, exchange, price, quantity, limit, hok, -⟩
      cases hok
  | ok order =>
      rcases container.executionPipeline.calls_submit turn.onBus request.markPrices order
        state.books with ⟨hno, hnone⟩ | ⟨exchange, price, quantity, limit, hc, hone⟩
      · refine iff_of_true ?_ ?_
        · simp only [hnone, List.map_nil, List.append_nil]
        · rintro ⟨order', exchange, price, quantity, limit, hok, hc⟩
          cases hok
          exact hno exchange price quantity limit hc
      · refine iff_of_false ?_ ?_
        · simp only [hone, List.map_cons, List.map_nil]
          intro hsame
          exact absurd (congrArg List.length hsame) (by simp)
        · exact not_not.mpr ⟨order, exchange, price, quantity, limit, rfl, hc⟩

/-- **A step orders when it submits an order that passes**, tripped or not. -/
theorem noOrder_iff (s : Runtime ℚ) (input : RuntimeInput ℚ) :
    container.NoOrder s input ↔ ¬ container.Submits s input := by
  rcases s with ⟨state, queue⟩
  cases input with
  | publish event =>
      refine iff_of_true ?_ ?_
      · intro s' h
        rw [← Option.some.inj h]
      · rintro ⟨_, _, _, _, _, _, _, ⟨hinput, -⟩, -⟩
        cases hinput
  | dispatch turn =>
      cases queue with
      | nil =>
          refine iff_of_true ?_ ?_
          · intro s' h
            cases h
          · rintro ⟨_, _, _, _, _, _, _, ⟨-, hhead, -⟩, -⟩
            cases hhead
      | cons event rest =>
          have hstep : container.NoOrder ⟨state, event :: rest⟩ (.dispatch turn)
              ↔ (container.handle turn state event).1.orderCalls = state.orderCalls := by
            constructor
            · exact fun h => h _ rfl
            · intro h s' hs'
              rw [← Option.some.inj hs']
              exact h
          rw [hstep]
          by_cases hrequest : ∃ request, event = .orderRequest request
          · obtain ⟨request, rfl⟩ := hrequest
            refine (container.onOrderRequest_orderCalls turn state request).trans (not_congr ?_)
            constructor
            · rintro ⟨order, exchange, price, quantity, limit, hdecode, hc⟩
              exact ⟨turn, request, order, exchange, price, quantity, limit,
                ⟨rfl, rfl, hdecode⟩, hc⟩
            · rintro ⟨turn', request', order, exchange, price, quantity, limit,
                ⟨hinput, hhead, hdecode⟩, hc⟩
              cases hinput
              cases hhead
              exact ⟨order, exchange, price, quantity, limit, hdecode, hc⟩
          · refine iff_of_true ?_ ?_
            · exact container.handle_orderCalls turn state fun request h => hrequest ⟨request, h⟩
            · rintro ⟨turn', request', _, _, _, _, _, ⟨-, hhead, -⟩, -⟩
              cases hhead
              exact hrequest ⟨request', rfl⟩
  | act command =>
      refine iff_of_true ?_ ?_
      · intro s' h
        rw [← Option.some.inj h]
        cases command
        rfl
      · rintro ⟨_, _, _, _, _, _, _, ⟨hinput, -⟩, -⟩
        cases hinput

/-! ## What a schedule leaves behind -/

/-- The schedule leaves no request behind a critical report, and nobody but the strategy requests
orders once the switch has tripped. -/
def Orderly (s : Runtime ℚ) : RuntimeInput ℚ → Prop
  | .publish (.orderRequest _) => s.state.killSwitch.triggered = false
  | .dispatch _ =>
      ∀ report rest, s.queue = .executionReport report :: rest → Critical report →
        ∀ request, .orderRequest request ∉ rest
  | _ => True

/-- No order is on its way once the switch has tripped. -/
def Stopped (s : Runtime ℚ) : Prop :=
  s.state.killSwitch.triggered = true → ∀ request, .orderRequest request ∉ s.queue

/-- What a handler publishes while the switch is tripped is no request. -/
lemma published_not_request (turn : Turn ℚ) (state : RuntimeState ℚ) (event : Event ℚ)
    (h : (container.handle turn state event).1.killSwitch.triggered = true)
    (request : OrderRequestEvent ℚ) :
    .orderRequest request ∉ (container.handle turn state event).2 := by
  intro hmem
  cases event with
  | orderbookSnapshot orderbook =>
      rw [handle, onOrderbookSnapshot] at h hmem
      split_ifs at h hmem with hactive
      · rw [KillSwitch.isActive] at hactive
        rw [h] at hactive
        cases hactive
      · exact absurd hmem List.not_mem_nil
  | orderRequest event =>
      rw [handle, onOrderRequest] at hmem
      split at hmem
      · exact absurd hmem List.not_mem_nil
      · obtain ⟨report, -, hreport⟩ := List.mem_map.mp hmem
        cases hreport
  | executionReport report =>
      rcases foldl_published report (breachesOf report) _ hmem with hnil | ⟨risk, hrisk⟩
      · exact absurd hnil List.not_mem_nil
      · cases hrisk
  | riskBreach risk => exact absurd hmem List.not_mem_nil
  | other eventType => exact absurd hmem List.not_mem_nil

lemma stopped_step {s s' : Runtime ℚ} {input : RuntimeInput ℚ} (hstopped : Stopped s)
    (horderly : Orderly s input) (hstep : container.step s input = some s') : Stopped s' := by
  intro htripped request
  rcases step_cases hstep with ⟨event, rfl, rfl⟩ | ⟨turn, event, rest, rfl, hqueue, rfl⟩
    | ⟨command, rfl, rfl⟩
  · rw [List.mem_append, List.mem_singleton]
    rintro (hmem | rfl)
    · exact hstopped htripped request hmem
    · cases htripped.symm.trans horderly
  · rw [List.mem_append]
    rintro (hmem | hmem)
    · rcases (container.handle_triggered turn event s.state).mp htripped with hbefore | htrips
      · exact hstopped hbefore request (hqueue ▸ List.mem_cons_of_mem event hmem)
      · cases event with
        | executionReport report => exact horderly report rest hqueue htrips request hmem
        | _ => exact htrips
    · exact container.published_not_request turn s.state event htripped request hmem
  · cases command
    cases htripped

/-- **When orders stop with the switch.**  In every run, no `create_order` is called while the
switch is tripped if and only if no request that is handled by then passes the pipeline's own
checks; and that is so when the schedule is orderly. -/
theorem orders_stop_iff (s₀ : Runtime ℚ) (hfresh : s₀.state.killSwitch.triggered = false)
    (inputs : List (RuntimeInput ℚ)) :
    (Along container.step s₀ (fun s input => s.state.killSwitch.triggered = true →
        container.NoOrder s input) inputs
      ↔ Along container.step s₀ (fun s input => s.state.killSwitch.triggered = true →
        ¬ container.Submits s input) inputs)
    ∧ (Along container.step s₀ Orderly inputs →
        Along container.step s₀ (fun s input => s.state.killSwitch.triggered = true →
          container.NoOrder s input) inputs) := by
  refine ⟨?_, ?_⟩
  · simp only [noOrder_iff]
  · intro horderly past input rest s hsplit hrun htripped
    rw [noOrder_iff]
    rintro ⟨turn, request, order, _, _, _, _, ⟨-, hhead, -⟩, -⟩
    have hall : Along container.step s₀ Orderly (past ++ input :: rest) := hsplit ▸ horderly
    have hstopped : Stopped s := by
      refine hall.of_append.invariant Stopped ?_ ?_ hrun
      · intro h
        cases hfresh.symm.trans h
      · exact fun s input s' hs hi hstep => container.stopped_step hs hi hstep
    exact hstopped htripped request (List.mem_of_mem_head? hhead)

/-- The turn of the second order; the first coin is by now worth 100. -/
def secondTurn : Turn ℚ := demoTurn .buy 100 (Dict.empty.set "BTC/USDT" 100)

/-- The second book arrives while the first order is at the exchange, which fills it at 2000; with
that the portfolio is over its limits. -/
def strayInputs : List (RuntimeInput ℚ) :=
  let firstTurn := demoTurn .buy 2000 ∅
  [.publish (.orderbookSnapshot (.dict [])), .dispatch firstTurn,
    .publish (.orderbookSnapshot (.dict [])), .dispatch firstTurn, .dispatch secondTurn,
    .dispatch secondTurn]

lemma strayInputs_run : ∃ s s',
    run demoContainer.step (started demoSwitch (.dict [])) strayInputs = some s
      ∧ s.state.killSwitch.triggered = true
      ∧ demoContainer.step s (.dispatch secondTurn) = some s'
      ∧ s.state.orderCalls.length = 1 ∧ s'.state.orderCalls.length = 2 := by
  have hrun : (run demoContainer.step (started demoSwitch (.dict [])) strayInputs).map
      (fun s => (s.state.killSwitch.triggered, s.state.orderCalls.length,
        (demoContainer.step s (.dispatch secondTurn)).map fun s' => s'.state.orderCalls.length))
      = some (true, 1, some 2) := by decide +kernel
  obtain ⟨s, hs, hobserved⟩ := Option.map_eq_some_iff.mp hrun
  rw [Prod.mk.injEq, Prod.mk.injEq] at hobserved
  obtain ⟨htripped, hone, hlast⟩ := hobserved
  obtain ⟨s', hs', htwo⟩ := Option.map_eq_some_iff.mp hlast
  exact ⟨s, s', hs, htripped, hs', hone, htwo⟩

/-- The second request waits behind the report that trips the switch, and is executed. -/
theorem stray_order : ¬ Along demoContainer.step (started demoSwitch (.dict []))
    (fun s input => s.state.killSwitch.triggered = true → demoContainer.NoOrder s input)
    (strayInputs ++ [.dispatch secondTurn]) := by
  obtain ⟨s, s', hs, htripped, hstep, hone, htwo⟩ := strayInputs_run
  intro hquiet
  have hsame : s'.state.orderCalls = s.state.orderCalls := hquiet.last hs htripped s' hstep
  rw [hsame, hone] at htwo
  cases htwo

/-- The order that gets through is one that passes every check of the pipeline. -/
theorem stray_order_submitted : ¬ Along demoContainer.step (started demoSwitch (.dict []))
    (fun s input => s.state.killSwitch.triggered = true → ¬ demoContainer.Submits s input)
    (strayInputs ++ [.dispatch secondTurn]) := by
  obtain ⟨s, s', hs, htripped, hstep, hone, htwo⟩ := strayInputs_run
  intro hnone
  have hquiet := (demoContainer.orders_stop_iff (started demoSwitch (.dict [])) rfl
    (strayInputs ++ [.dispatch secondTurn])).1.mpr hnone
  have hsame : s'.state.orderCalls = s.state.orderCalls := hquiet.last hs htripped s' hstep
  rw [hsame, hone] at htwo
  cases htwo

end RuntimeContainer

end Aegis
