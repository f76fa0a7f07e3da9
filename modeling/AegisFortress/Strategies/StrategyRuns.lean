import AegisFortress.Lib.Run
import AegisFortress.Strategies.SignalSteps

/-!
# Runs of the strategy

Ticks and order books reach the strategy one after the other, and between them the ledger changes
as it likes; the clock does not go back.  `StrategyRun` is the strategy's own state together with
what has happened so far, which no code reads: the ledgers there have been, the order books and the
signals.  `step_stepped` says what one step does.
-/

namespace Aegis

open MeanReversionImbalanceStrategy Raising

/-! ## What has happened -/

/-- An order book of a symbol, and whether it reached the check of the imbalances. -/
structure SeenBook where
  symbol : String
  imbalance : Option ℚ
  examined : Bool
  deriving DecidableEq

/-- A signal with its recorded time; an exit has a reason. -/
structure Emitted where
  symbol : String
  side : OrderSide
  reason : Option ExitReason
  time : ℚ
  deriving DecidableEq

/-- The strategy and its past, the oldest first. -/
structure StrategyRun where
  state : StrategyState ℚ
  ledger : PositionLedger ℚ
  now : ℚ
  /-- Every ledger up to this one, with the time it came about. -/
  ledgers : List (ℚ × PositionLedger ℚ)
  books : List SeenBook
  signals : List Emitted

/-- A new strategy. -/
def StrategyRun.init (ledger : PositionLedger ℚ) (now : ℚ) : StrategyRun :=
  ⟨.init, ledger, now, [(now, ledger)], [], []⟩

/-- What can happen next. -/
inductive StrategyInput
  | tick (payload : PyVal ℚ)
  | ledger (now : ℚ) (ledger : PositionLedger ℚ)
  | book (killSwitch : KillSwitch ℚ) (clock : Monotonic ℚ) (payload : PyVal ℚ)

/-! ## One step -/

namespace MeanReversionImbalanceStrategy

variable (strategy : MeanReversionImbalanceStrategy ℚ) (ledger : PositionLedger ℚ)
  (killSwitch : KillSwitch ℚ) (clock : Monotonic ℚ) (state : StrategyState ℚ)

/-- Whether the order book reaches the check of the imbalances. -/
def examines (items : List (String × PyVal ℚ)) : Bool :=
  let symbol := symbolOf items
  let midPrice := extractMidPrice items
  let history := strategy.historyWith state symbol midPrice
  killSwitch.isActive && symbol ≠ "" && 0 < midPrice && strategy.minObservations ≤ history.length
    && extractSpreadBps items midPrice ≤ strategy.maxSpreadBps
    && (floatOf items "imbalance").isOk && (floatOf items "best_bid").isOk
    && (floatOf items "best_ask").isOk && ¬ (symbol = strategy.btcSymbol ∧ ¬ strategy.tradeBtcSymbol)
    && (openPosition ledger symbol).isNone
    && (state.blockedUntil.get? symbol).all (fun expiry => expiry ≤ clock.symbolBlocked)
    && -strategy.badSymbolDropBps < recentReturnBps history
    && !strategy.isEntryOnCooldown clock.cooldown state symbol
    && strategy.btcMarketOk (strategy.appendMid symbol midPrice state)
    && 0 < strategy.entryQuantity midPrice
    && strategy.scoreOf state symbol midPrice ≤ -strategy.entryZscore
    && strategy.requiredExpectedEdgeBps ≤ expectedEdgeBps history midPrice

/-- The order book, if it is one. -/
def seen : PyVal ℚ → List SeenBook
  | .dict items => [⟨symbolOf items, (floatOf items "imbalance").toOption,
      strategy.examines ledger killSwitch clock state items⟩]
  | _ => []

/-- Why the strategy exits, when it does. -/
def reasonOf : PyVal ℚ → Option ExitReason
  | .dict items =>
      let symbol := symbolOf items
      let midPrice := extractMidPrice items
      match openPosition ledger symbol, floatOf items "best_bid", floatOf items "best_ask" with
      | some position, .ok bestBid, .ok bestAsk =>
          (strategy.buildExitSignal clock (strategy.watching clock state symbol midPrice) symbol
            position bestBid bestAsk midPrice (strategy.scoreOf state symbol midPrice)).map Prod.snd
      | _, _, _ => none
  | _ => none

/-- The signals of a call; one that raises returns none. -/
def returned : EStateM.Result PyError (StrategyState ℚ) (List (TradeSignal ℚ)) →
    List (TradeSignal ℚ)
  | .ok signals _ => signals
  | .error _ _ => []

/-- The signals of an order book, as they are recorded. -/
def emitted (payload : PyVal ℚ) : List Emitted :=
  (returned ((strategy.onOrderbook ledger killSwitch clock payload).run state)).map fun signal =>
    ⟨signal.symbol, signal.side, strategy.reasonOf ledger clock state payload, clock.signal⟩

/-- What happens next to the strategy. -/
def step (s : StrategyRun) : StrategyInput → Option StrategyRun
  | .tick payload =>
      some { s with state := final ((strategy.onMarketTick payload).run s.state) }
  | .ledger now ledger =>
      if s.now ≤ now then
        some { s with ledger, now, ledgers := s.ledgers ++ [(now, ledger)] }
      else none
  | .book killSwitch clock payload =>
      if clock.Follows s.now then
        some { s with
          state := final ((strategy.onOrderbook s.ledger killSwitch clock payload).run s.state)
          now := clock.block
          books := s.books ++ strategy.seen s.ledger killSwitch clock s.state payload
          signals := s.signals ++ strategy.emitted s.ledger killSwitch clock s.state payload }
      else none

/-! ## What one step does -/

section Spec

variable {strategy ledger killSwitch clock state} {items : List (String × PyVal ℚ)}
  {payload : PyVal ℚ} {signals : List (TradeSignal ℚ)} {s s' : StrategyRun}
  {input : StrategyInput}

lemma isOk_iff {x : Except PyError ℚ} : x.isOk = true ↔ ∃ a, x = .ok a := by
  cases x <;> simp [Except.isOk, Except.toBool]

lemma examines_iff : strategy.examines ledger killSwitch clock state items = true
    ↔ Examines strategy ledger killSwitch clock state (.dict items) := by
  simp only [examines, Bool.and_eq_true, decide_eq_true_eq, isOk_iff, Option.isNone_iff_eq_none,
    Option.all_eq_true, Bool.not_eq_true']
  constructor
  · rintro ⟨⟨⟨⟨⟨⟨⟨⟨⟨⟨⟨⟨⟨⟨⟨⟨hactive, hnamed⟩, hpriced⟩, hobserved⟩, hnarrow⟩, imbalance, himbalance⟩,
      bestBid, hbid⟩, bestAsk, hask⟩, htraded⟩, hflat⟩, hunblocked⟩, htrend⟩, hrested⟩, hmarket⟩,
      hsized⟩, hlow⟩, hedge⟩
    exact ⟨items, symbolOf items, extractMidPrice items, imbalance, bestBid, bestAsk, rfl,
      ⟨hactive, rfl, hnamed, rfl, hpriced, hobserved, hnarrow, himbalance, hbid, hask, htraded⟩,
      hflat, hunblocked, htrend, hrested, hmarket, hsized, hlow, hedge⟩
  · rintro ⟨items, symbol, midPrice, imbalance, bestBid, bestAsk, hdict, h⟩
    cases hdict
    obtain rfl := h.symbol_eq
    obtain rfl := h.mid_eq
    exact ⟨⟨⟨⟨⟨⟨⟨⟨⟨⟨⟨⟨⟨⟨⟨⟨h.active, h.named⟩, h.mid_pos⟩, h.observed⟩, h.narrow⟩, imbalance,
      h.imbalance_read⟩, bestBid, h.bid_read⟩, bestAsk, h.ask_read⟩, h.traded⟩, h.flat⟩,
      h.unblocked⟩, h.trend⟩, h.rested⟩, h.market⟩, h.sized⟩, h.low⟩, h.edge⟩

/-- What a step does to a run. -/
inductive Stepped (strategy : MeanReversionImbalanceStrategy ℚ) (s : StrategyRun) :
    StrategyInput → StrategyRun → Prop
  | tick (payload : PyVal ℚ) (midHistory : Dict String (List ℚ)) :
      Stepped strategy s (.tick payload) { s with state := { s.state with midHistory } }
  | ledger {now : ℚ} {ledger : PositionLedger ℚ} (hnow : s.now ≤ now) :
      Stepped strategy s (.ledger now ledger)
        { s with ledger, now, ledgers := s.ledgers ++ [(now, ledger)] }
  | book {killSwitch : KillSwitch ℚ} {clock : Monotonic ℚ} {payload : PyVal ℚ}
      {signals : List (TradeSignal ℚ)} {state' : StrategyState ℚ} (htime : clock.Follows s.now)
      (handled : Handled strategy s.ledger killSwitch clock s.state payload signals state') :
      Stepped strategy s (.book killSwitch clock payload)
        { s with
          state := state'
          now := clock.block
          books := s.books ++ strategy.seen s.ledger killSwitch clock s.state payload
          signals := s.signals ++ signals.map fun signal =>
            ⟨signal.symbol, signal.side, strategy.reasonOf s.ledger clock s.state payload,
              clock.signal⟩ }

/-- **What one step does.** -/
theorem step_stepped (h : strategy.step s input = some s') : Stepped strategy s input s' := by
  cases input with
  | tick payload =>
      cases h
      cases payload with
      | dict items =>
          simp only [onMarketTick]
          split_ifs
          · exact .tick _ s.state.midHistory
          · exact .tick _ _
      | _ => exact .tick _ s.state.midHistory
  | ledger now ledger =>
      simp only [step, Option.ite_none_right_eq_some, Option.some.injEq] at h
      obtain ⟨hnow, rfl⟩ := h
      exact .ledger hnow
  | book killSwitch clock payload =>
      simp only [step, Option.ite_none_right_eq_some, Option.some.injEq] at h
      obtain ⟨htime, rfl⟩ := h
      have hhandled := onOrderbook_handled strategy s.ledger killSwitch clock s.state payload
      rw [emitted]
      cases hrun : (strategy.onOrderbook s.ledger killSwitch clock payload).run s.state with
      | ok signals state' => exact .book htime (hhandled.ok hrun)
      | error error state' => exact .book htime (hhandled.error hrun)

/-- Nothing is exited when nothing is held. -/
lemma reasonOf_flat (hflat : openPosition ledger (symbolOf items) = none) :
    strategy.reasonOf ledger clock state (.dict items) = none := by
  rw [reasonOf, hflat]

lemma ExitDue.reasonOf {symbol : String} {midPrice imbalance bestBid bestAsk : ℚ}
    {position : Position ℚ} {signal : TradeSignal ℚ} {reason : ExitReason}
    (due : ExitDue strategy ledger killSwitch clock state items symbol midPrice imbalance bestBid
      bestAsk position signal reason) :
    strategy.reasonOf ledger clock state (.dict items) = some reason := by
  obtain rfl := due.symbol_eq
  obtain rfl := due.mid_eq
  simp only [MeanReversionImbalanceStrategy.reasonOf, due.held, due.bid_read, due.ask_read, due.rule,
    Option.map_some]

/-- The ways a signal can be emitted. -/
inductive Emits (strategy : MeanReversionImbalanceStrategy ℚ) (s : StrategyRun) (e : Emitted) :
    StrategyInput → Prop
  | bought {killSwitch : KillSwitch ℚ} {clock : Monotonic ℚ} {items : List (String × PyVal ℚ)}
      {symbol : String} {midPrice imbalance bestBid bestAsk : ℚ} (htime : clock.Follows s.now)
      (h : Examined strategy s.ledger killSwitch clock s.state items symbol midPrice imbalance
        bestBid bestAsk)
      (hconfirmed : Confirmed strategy s.state symbol imbalance)
      (he : e = ⟨symbol, .buy, none, clock.signal⟩) :
      Emits strategy s e (.book killSwitch clock (.dict items))
  | sold {killSwitch : KillSwitch ℚ} {clock : Monotonic ℚ} {items : List (String × PyVal ℚ)}
      {symbol : String} {midPrice imbalance bestBid bestAsk : ℚ} (htime : clock.Follows s.now)
      (due : EntryDue strategy s.ledger killSwitch clock s.state items symbol midPrice imbalance
        bestBid bestAsk .sell)
      (hmarket : strategy.btcMarketOk (strategy.appendMid symbol midPrice s.state) = true)
      (he : e = ⟨symbol, .sell, none, clock.signal⟩) :
      Emits strategy s e (.book killSwitch clock (.dict items))
  | exited {killSwitch : KillSwitch ℚ} {clock : Monotonic ℚ} {items : List (String × PyVal ℚ)}
      {symbol : String} {midPrice imbalance bestBid bestAsk : ℚ} {position : Position ℚ}
      {signal : TradeSignal ℚ} {reason : ExitReason} (htime : clock.Follows s.now)
      (due : ExitDue strategy s.ledger killSwitch clock s.state items symbol midPrice imbalance
        bestBid bestAsk position signal reason)
      (he : e = ⟨symbol, signal.side, some reason, clock.signal⟩) :
      Emits strategy s e (.book killSwitch clock (.dict items))

/-- A signal is emitted in one of these ways. -/
lemma step_emits {e : Emitted} (h : strategy.step s input = some s')
    (hsignals : s'.signals = s.signals ++ [e]) : Emits strategy s e input := by
  cases step_stepped h with
  | tick | ledger => simp at hsignals
  | @book killSwitch clock payload signals state' htime handled =>
      have hone := List.append_cancel_left hsignals
      cases handled with
      | bought hdict hex hconfirmed hlean =>
          subst hdict
          rw [List.map_singleton, List.singleton_inj,
            reasonOf_flat (hex.symbol_eq ▸ hex.flat)] at hone
          exact .bought htime hex hconfirmed hone.symm
      | sold hdict due hmarket hno =>
          subst hdict
          rw [List.map_singleton, List.singleton_inj,
            reasonOf_flat (due.symbol_eq ▸ due.flat)] at hone
          exact .sold htime due hmarket hone.symm
      | exited hdict due hno =>
          subst hdict
          rw [List.map_singleton, List.singleton_inj, due.reasonOf,
            (buildExitSignal_some due.rule).1] at hone
          exact .exited htime due hone.symm
      | _ => cases hone

/-- An exit that is due is emitted with its reason. -/
lemma ExitDue.emitted {symbol : String} {midPrice imbalance bestBid bestAsk : ℚ}
    {position : Position ℚ} {signal : TradeSignal ℚ} {reason : ExitReason}
    (due : ExitDue strategy s.ledger killSwitch clock s.state items symbol midPrice imbalance bestBid
      bestAsk position signal reason) (htime : clock.Follows s.now) :
    ∃ s', strategy.step s (.book killSwitch clock (.dict items)) = some s'
      ∧ s'.signals = s.signals ++ [⟨symbol, signal.side, some reason, clock.signal⟩] := by
  obtain ⟨signals, state', hrun, rfl⟩ := due.returned.returns
  refine ⟨_, if_pos htime, ?_⟩
  rw [MeanReversionImbalanceStrategy.emitted, hrun, due.reasonOf]
  simp only [MeanReversionImbalanceStrategy.returned, List.map_singleton,
    (buildExitSignal_some due.rule).1]

lemma step_books (h : strategy.step s (.book killSwitch clock payload) = some s') :
    s'.books = s.books ++ strategy.seen s.ledger killSwitch clock s.state payload := by
  simp only [step, Option.ite_none_right_eq_some, Option.some.injEq] at h
  rw [← h.2]

end Spec

/-! ## Inputs -/

/-- A tick of the bitcoin. -/
def tickAt (midPrice : ℚ) : StrategyInput :=
  .tick (.dict [("symbol", .str "BTC/USDT"), ("mid_price", .float midPrice)])

/-- An order book of the bitcoin without a spread. -/
def bookAt (time midPrice imbalance : ℚ) : StrategyInput :=
  .book untriggered (.still time) (.dict [("symbol", .str "BTC/USDT"), ("best_bid", .float midPrice),
    ("best_ask", .float midPrice), ("mid_price", .float midPrice), ("imbalance", .float imbalance)])

/-- The bitcoin stands at 100 for longer than the low-capital strategy wants to observe it. -/
def standing : List StrategyInput := List.replicate 25 (tickAt 100)

end MeanReversionImbalanceStrategy

end Aegis
