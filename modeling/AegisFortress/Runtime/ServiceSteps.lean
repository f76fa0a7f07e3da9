import AegisFortress.Execution.SubmitGuarantees
import AegisFortress.Runtime.Services

/-!
# What a step of the services can do to the kill switch

The switch is tripped in one place, when the risk service reads a report with a critical breach,
and asked in one place, when the strategy is about to answer an order book.
-/

namespace Aegis

open EventLoop ExecutionPipeline Machine

namespace RuntimeContainer

/-! ## Reading a report -/

/-- One of the breaches the risk service reads is critical. -/
def Critical (event : ExecutionEvent ℚ) : Prop :=
  ∃ breach ∈ breachesOf event, breachSeverity breach = "CRITICAL"

lemma onBreach_triggered (event : ExecutionEvent ℚ) (r : KillSwitch ℚ × List (Event ℚ))
    (breach : List (String × PyVal ℚ)) :
    (onBreach event r breach).1.triggered = true
      ↔ r.1.triggered = true ∨ breachSeverity breach = "CRITICAL" := by
  rw [onBreach]
  split_ifs with hcritical
  · exact iff_of_true (KillSwitch.trigger_triggered ..) (Or.inr hcritical)
  · exact ⟨Or.inl, fun h => h.resolve_right hcritical⟩

lemma foldl_triggered (event : ExecutionEvent ℚ) (breaches : List (List (String × PyVal ℚ)))
    (r : KillSwitch ℚ × List (Event ℚ)) :
    (breaches.foldl (onBreach event) r).1.triggered = true
      ↔ r.1.triggered = true ∨ ∃ breach ∈ breaches, breachSeverity breach = "CRITICAL" := by
  induction breaches generalizing r with
  | nil => simp
  | cons breach rest ih =>
      rw [List.foldl_cons, ih, onBreach_triggered, or_assoc]
      simp only [List.mem_cons, or_and_right, exists_or, exists_eq_left]

/-- The loop publishes nothing but risk events. -/
lemma foldl_published (event : ExecutionEvent ℚ) (breaches : List (List (String × PyVal ℚ)))
    (r : KillSwitch ℚ × List (Event ℚ)) {e : Event ℚ}
    (he : e ∈ (breaches.foldl (onBreach event) r).2) : e ∈ r.2 ∨ ∃ risk, e = .riskBreach risk := by
  induction breaches generalizing r with
  | nil => exact Or.inl he
  | cons breach rest ih =>
      rw [List.foldl_cons] at he
      rcases ih _ he with he | hrisk
      · rw [onBreach, List.mem_append, List.mem_singleton] at he
        rcases he with he | rfl
        · exact Or.inl he
        · exact Or.inr ⟨_, rfl⟩
      · exact Or.inr hrisk

lemma foldl_dailyPnl (event : ExecutionEvent ℚ) (breaches : List (List (String × PyVal ℚ)))
    (r : KillSwitch ℚ × List (Event ℚ)) :
    (breaches.foldl (onBreach event) r).1.dailyPnl = r.1.dailyPnl := by
  induction breaches generalizing r with
  | nil => rfl
  | cons breach rest ih =>
      rw [List.foldl_cons, ih, onBreach]
      split_ifs
      · exact KillSwitch.trigger_dailyPnl ..
      · rfl

/-! ## What trips the switch -/

variable (container : RuntimeContainer ℚ)

/-- The events that trip the switch when they are handled. -/
def Trips : Event ℚ → Prop
  | .executionReport event => Critical event
  | _ => False

lemma handle_triggered (turn : Turn ℚ) (event : Event ℚ) (state : RuntimeState ℚ) :
    (container.handle turn state event).1.killSwitch.triggered = true
      ↔ state.killSwitch.triggered = true ∨ Trips event := by
  cases event with
  | orderbookSnapshot orderbook =>
      rw [handle, onOrderbookSnapshot]
      split_ifs <;> exact (or_false _).to_iff.symm
  | orderRequest event =>
      rw [handle, onOrderRequest]
      split <;> exact (or_false _).to_iff.symm
  | executionReport event => exact foldl_triggered event (breachesOf event) _
  | riskBreach event => exact (or_false _).to_iff.symm
  | other eventType => exact (or_false _).to_iff.symm

/-- Short of a reset, nothing else moves the switch. -/
lemma trips_governs : Governs (fun turn event state => container.handle turn state event)
    Command.apply (fun state => state.killSwitch.triggered = true) Trips (fun _ => False) :=
  ⟨fun turn event state => container.handle_triggered turn event state, fun _ h => h.elim⟩

/-! ## Runs -/

/-- The step handles an order request that can be read. -/
def Requested (s : Runtime ℚ) (input : RuntimeInput ℚ) (turn : Turn ℚ)
    (event : OrderRequestEvent ℚ) (order : Order ℚ) : Prop :=
  input = .dispatch turn ∧ s.queue.head? = some (.orderRequest event)
    ∧ OrderEventCodec.decode container.iso turn.now event.orderPayload = .ok order

/-- The services as they start: an empty ledger, a new switch, nothing on the bus. -/
def started (switch : KillSwitch ℚ) (saved : PyVal ℚ) : Runtime ℚ :=
  ⟨⟨⟨PositionLedger.empty, saved⟩, switch, []⟩, []⟩

/-- The services of the examples; their clock stands still. -/
def demoContainer : RuntimeContainer ℚ :=
  { executionPipeline := demoPipeline
    iso := { isoformat := fun _ => "1970-01-01T00:00:00", fromisoformat := fun _ => some ⟨0⟩ } }

def demoSwitch : KillSwitch ℚ :=
  { maxDailyLoss := 50, maxDrawdownPct := 10, loss_checked := by decide +kernel
    drawdown_checked := by decide +kernel, dailyPnl := 0, peakBalance := none, triggered := false
    reason := none }

/-- The strategy wants to trade one coin; the exchange fills whatever it is sent at `price`. -/
def demoTurn (side : OrderSide) (price : ℚ) (markPrices : Dict String ℚ) : Turn ℚ :=
  let payload : List (String × PyVal ℚ) :=
    [("id", .str "7"), ("status", .str "closed"), ("filled", .float 1), ("average", .float price)]
  let exchange : Exchange ℚ := { demoExchange with createOrder := .ok (.dict payload) }
  { now := ⟨0⟩
    answers := { demoAnswers (.ok ()) (.ok ()) with route := .ok (some (some exchange, some 100)) }
    onOrderbook := fun _ => [{ demoOrder with side := side }]
    markPrices := markPrices }

end RuntimeContainer

end Aegis
