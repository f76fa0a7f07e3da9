import AegisFortress.Lib.Deadlines
import AegisFortress.Strategies.MeanReversionImbalance

/-!
# What an order book can make the strategy do

`onOrderbook_handled` is the one place where `on_orderbook` is unfolded: `Handled` lists the ways
a call can end, with the signals it returns and the state it leaves.  A call returns at most one
signal.  It is an entry when one was due (`EntryDue`), an exit when one was due (`ExitDue`), and
its time is recorded; a call that returns nothing, or raises, records no signal (`Answered`).
-/

namespace Aegis

/-- What closing a position earns at the side of the book that an exit hits. -/
def Position.exitPnlBps (position : Position ℚ) (bestBid bestAsk midPrice : ℚ) : ℚ :=
  if 0 < position.quantity then
    ((if 0 < bestBid then bestBid else midPrice) - position.averageEntry) / position.averageEntry
      * 10000
  else
    (position.averageEntry - if 0 < bestAsk then bestAsk else midPrice) / position.averageEntry
      * 10000

namespace MeanReversionImbalanceStrategy

open Raising

variable (strategy : MeanReversionImbalanceStrategy ℚ) (ledger : PositionLedger ℚ)
  (killSwitch : KillSwitch ℚ) (clock : Monotonic ℚ) (state : StrategyState ℚ)

/-! ## When a signal is due -/

/-- The mid prices of a symbol, the one of this order book included. -/
def historyWith (symbol : String) (midPrice : ℚ) : List ℚ :=
  (strategy.appendMid symbol midPrice state).midHistory.getD symbol []

/-- The order book passes the checks that entries and exits share. -/
structure Considered (items : List (String × PyVal ℚ)) (symbol : String)
    (midPrice imbalance bestBid bestAsk : ℚ) : Prop where
  active : killSwitch.isActive = true
  symbol_eq : symbolOf items = symbol
  named : symbol ≠ ""
  mid_eq : extractMidPrice items = midPrice
  mid_pos : 0 < midPrice
  observed : strategy.minObservations ≤ (strategy.historyWith state symbol midPrice).length
  narrow : extractSpreadBps items midPrice ≤ strategy.maxSpreadBps
  imbalance_read : floatOf items "imbalance" = .ok imbalance
  bid_read : floatOf items "best_bid" = .ok bestBid
  ask_read : floatOf items "best_ask" = .ok bestAsk
  traded : ¬ (symbol = strategy.btcSymbol ∧ ¬ strategy.tradeBtcSymbol)

/-- The score of this order book's mid price. -/
def scoreOf (symbol : String) (midPrice : ℚ) : ℚ :=
  strategy.zscore (strategy.historyWith state symbol midPrice) midPrice

/-- The side on which the score and the imbalance call for an entry. -/
def Calls (zscore imbalance : ℚ) : OrderSide → Prop
  | .buy => zscore ≤ -strategy.entryZscore ∧ strategy.imbalanceThreshold ≤ imbalance
  | .sell => strategy.allowShortEntries ∧ strategy.entryZscore ≤ zscore
      ∧ imbalance ≤ -strategy.imbalanceThreshold

/-- An entry on this side is due: nothing is held, nothing stops an entry, and the figures call
for it. -/
structure EntryDue (items : List (String × PyVal ℚ)) (symbol : String)
    (midPrice imbalance bestBid bestAsk : ℚ) (side : OrderSide) : Prop
    extends Considered strategy killSwitch state items symbol midPrice imbalance bestBid bestAsk where
  flat : openPosition ledger symbol = none
  unblocked : ∀ expiry, state.blockedUntil.get? symbol = some expiry → expiry ≤ clock.symbolBlocked
  trend : -strategy.badSymbolDropBps < recentReturnBps (strategy.historyWith state symbol midPrice)
  rested : strategy.isEntryOnCooldown clock.cooldown state symbol = false
  sized : 0 < strategy.entryQuantity midPrice
  calls : strategy.Calls (strategy.scoreOf state symbol midPrice) imbalance side

/-- The state in which the exit rules are asked. -/
def watching (symbol : String) (midPrice : ℚ) : StrategyState ℚ :=
  { strategy.appendMid symbol midPrice state with
    positionSeenAt := state.positionSeenAt.set symbol (state.positionSeenAt.getD symbol clock.seen) }

/-- An exit is due: a position is open, the last exit signal is long enough ago, and a rule says
so. -/
structure ExitDue (items : List (String × PyVal ℚ)) (symbol : String)
    (midPrice imbalance bestBid bestAsk : ℚ) (position : Position ℚ) (signal : TradeSignal ℚ)
    (reason : ExitReason) : Prop
    extends Considered strategy killSwitch state items symbol midPrice imbalance bestBid bestAsk where
  held : openPosition ledger symbol = some position
  rested : strategy.isExitOnCooldown clock.cooldown state symbol = false
  rule : strategy.buildExitSignal clock (strategy.watching clock state symbol midPrice) symbol
    position bestBid bestAsk midPrice (strategy.scoreOf state symbol midPrice) = some (signal, reason)

/-- The order book reaches the check of the imbalances. -/
structure Examined (items : List (String × PyVal ℚ)) (symbol : String)
    (midPrice imbalance bestBid bestAsk : ℚ) : Prop
    extends Considered strategy killSwitch state items symbol midPrice imbalance bestBid bestAsk where
  flat : openPosition ledger symbol = none
  unblocked : ∀ expiry, state.blockedUntil.get? symbol = some expiry → expiry ≤ clock.symbolBlocked
  trend : -strategy.badSymbolDropBps < recentReturnBps (strategy.historyWith state symbol midPrice)
  rested : strategy.isEntryOnCooldown clock.cooldown state symbol = false
  market : strategy.btcMarketOk (strategy.appendMid symbol midPrice state) = true
  sized : 0 < strategy.entryQuantity midPrice
  low : strategy.scoreOf state symbol midPrice ≤ -strategy.entryZscore
  edge : strategy.requiredExpectedEdgeBps
    ≤ expectedEdgeBps (strategy.historyWith state symbol midPrice) midPrice

/-- There is an imbalance for it to check. -/
def Examines (orderbook : PyVal ℚ) : Prop :=
  ∃ items symbol midPrice imbalance bestBid bestAsk, orderbook = .dict items
    ∧ Examined strategy ledger killSwitch clock state items symbol midPrice imbalance bestBid bestAsk

/-- The imbalances of the symbol, this one included, are enough and high enough. -/
structure Confirmed (symbol : String) (imbalance : ℚ) : Prop where
  full : strategy.imbalanceConfirmSnapshots ≤ (strategy.imbalances state symbol imbalance).length
  all : ∀ value ∈ strategy.imbalances state symbol imbalance, strategy.imbalanceThreshold ≤ value

/-! ## What a call leaves -/

/-- The state once nothing has been found to be held. -/
def flatState (symbol : String) (midPrice : ℚ) : StrategyState ℚ :=
  { strategy.appendMid symbol midPrice state with
    positionSeenAt := state.positionSeenAt.erase symbol
    blockedUntil := Deadlines.prune state.blockedUntil clock.symbolBlocked symbol }

/-- The state once the imbalances have been checked. -/
def examinedState (symbol : String) (midPrice imbalance : ℚ) : StrategyState ℚ :=
  { strategy.flatState clock state symbol midPrice with
    imbalanceHistory :=
      state.imbalanceHistory.set symbol (strategy.imbalances state symbol imbalance) }

/-- The ways a call can end, with the signals it returns and the state it leaves.  One that raises
leaves a state it could also return nothing in. -/
inductive Handled (orderbook : PyVal ℚ) : List (TradeSignal ℚ) → StrategyState ℚ → Prop
  | skipped (hno : ¬ Examines strategy ledger killSwitch clock state orderbook) :
      Handled orderbook [] state
  | noted (symbol : String) (midPrice : ℚ)
      (hno : ¬ Examines strategy ledger killSwitch clock state orderbook) :
      Handled orderbook [] (strategy.appendMid symbol midPrice state)
  | declined {items : List (String × PyVal ℚ)} {symbol : String} {midPrice : ℚ}
      (hdict : orderbook = .dict items) (hsymbol : symbolOf items = symbol)
      (hflat : openPosition ledger symbol = none)
      (hno : ¬ Examines strategy ledger killSwitch clock state orderbook) :
      Handled orderbook [] (strategy.flatState clock state symbol midPrice)
  | badTrend {items : List (String × PyVal ℚ)} {symbol : String} {midPrice : ℚ}
      (hdict : orderbook = .dict items) (hsymbol : symbolOf items = symbol)
      (hflat : openPosition ledger symbol = none)
      (hno : ¬ Examines strategy ledger killSwitch clock state orderbook) :
      Handled orderbook [] (blockSymbol clock.block symbol strategy.lossCooldownSeconds
        (strategy.flatState clock state symbol midPrice))
  | unconfirmed {items : List (String × PyVal ℚ)} {symbol : String}
      {midPrice imbalance bestBid bestAsk : ℚ} (hdict : orderbook = .dict items)
      (h : Examined strategy ledger killSwitch clock state items symbol midPrice imbalance bestBid
        bestAsk) :
      Handled orderbook [] (strategy.examinedState clock state symbol midPrice imbalance)
  | bought {items : List (String × PyVal ℚ)} {symbol : String}
      {midPrice imbalance bestBid bestAsk : ℚ} (hdict : orderbook = .dict items)
      (h : Examined strategy ledger killSwitch clock state items symbol midPrice imbalance bestBid
        bestAsk)
      (hconfirmed : Confirmed strategy state symbol imbalance)
      (hlean : strategy.imbalanceThreshold ≤ imbalance) :
      Handled orderbook [strategy.entrySignal .buy symbol midPrice bestBid bestAsk
          (strategy.scoreOf state symbol midPrice) imbalance]
        { strategy.examinedState clock state symbol midPrice imbalance with
          lastEntrySignalAt := state.lastEntrySignalAt.set symbol clock.signal }
  | sold {items : List (String × PyVal ℚ)} {symbol : String}
      {midPrice imbalance bestBid bestAsk : ℚ} (hdict : orderbook = .dict items)
      (due : EntryDue strategy ledger killSwitch clock state items symbol midPrice imbalance bestBid
        bestAsk .sell)
      (hmarket : strategy.btcMarketOk (strategy.appendMid symbol midPrice state) = true)
      (hno : ¬ Examines strategy ledger killSwitch clock state orderbook) :
      Handled orderbook [strategy.entrySignal .sell symbol midPrice bestBid bestAsk
          (strategy.scoreOf state symbol midPrice) imbalance]
        { strategy.flatState clock state symbol midPrice with
          lastEntrySignalAt := state.lastEntrySignalAt.set symbol clock.signal }
  | watched {items : List (String × PyVal ℚ)} {symbol : String} {midPrice : ℚ}
      {position : Position ℚ} (hdict : orderbook = .dict items) (hsymbol : symbolOf items = symbol)
      (hheld : openPosition ledger symbol = some position)
      (hno : ¬ Examines strategy ledger killSwitch clock state orderbook) :
      Handled orderbook [] (strategy.watching clock state symbol midPrice)
  | exited {items : List (String × PyVal ℚ)} {symbol : String}
      {midPrice imbalance bestBid bestAsk : ℚ} {position : Position ℚ} {signal : TradeSignal ℚ}
      {reason : ExitReason} (hdict : orderbook = .dict items)
      (due : ExitDue strategy ledger killSwitch clock state items symbol midPrice imbalance bestBid
        bestAsk position signal reason)
      (hno : ¬ Examines strategy ledger killSwitch clock state orderbook) :
      Handled orderbook [signal] (blockSymbol clock.block symbol (strategy.blockAfter reason)
        { strategy.watching clock state symbol midPrice with
          lastExitSignalAt := state.lastExitSignalAt.set symbol clock.signal })

/-! ## The stages -/

section Block

variable (now : ℚ) (symbol : String) (seconds : ℚ)

@[simp] lemma blockSymbol_entries :
    (blockSymbol now symbol seconds state).lastEntrySignalAt = state.lastEntrySignalAt := by
  rw [blockSymbol]
  split_ifs <;> rfl

@[simp] lemma blockSymbol_exits :
    (blockSymbol now symbol seconds state).lastExitSignalAt = state.lastExitSignalAt := by
  rw [blockSymbol]
  split_ifs <;> rfl

@[simp] lemma blockSymbol_imbalances :
    (blockSymbol now symbol seconds state).imbalanceHistory = state.imbalanceHistory := by
  rw [blockSymbol]
  split_ifs <;> rfl

@[simp] lemma blockSymbol_seen :
    (blockSymbol now symbol seconds state).positionSeenAt = state.positionSeenAt := by
  rw [blockSymbol]
  split_ifs <;> rfl

end Block

/-- A symbol is blocked unless its block has run out, which is then forgotten. -/
lemma isSymbolBlocked_spec (now : ℚ) (symbol : String) :
    Leads (isSymbolBlocked now symbol) state
      (fun blocked s => s = { state with blockedUntil := Deadlines.prune state.blockedUntil now symbol }
        ∧ (blocked = false ↔ ∀ expiry, state.blockedUntil.get? symbol = some expiry → expiry ≤ now))
      (fun _ _ => False) := by
  simp only [isSymbolBlocked, leads_bind, leads_get, Deadlines.prune]
  cases hget : state.blockedUntil.get? symbol with
  | none =>
      simp only [leads_pure, true_and, true_iff]
      intro expiry h
      cases h
  | some blockedUntil =>
      simp only [leads_ite, leads_bind, leads_modify, leads_pure]
      refine ⟨fun hover => ⟨by rw [if_pos hover], ?_⟩, fun hlasts => ⟨by rw [if_neg hlasts], ?_⟩⟩
      · simpa using hover
      · simpa using hlasts

/-- What the builder of entries answers. -/
inductive Built (symbol : String) (midPrice bestBid bestAsk zscore imbalance expectedEdgeBps : ℚ) :
    Option (TradeSignal ℚ) → StrategyState ℚ → Prop
  | unbuilt (hno : ¬ (0 < strategy.entryQuantity midPrice ∧ zscore ≤ -strategy.entryZscore
      ∧ strategy.requiredExpectedEdgeBps ≤ expectedEdgeBps)) :
      Built symbol midPrice bestBid bestAsk zscore imbalance expectedEdgeBps none state
  | sell (hsized : 0 < strategy.entryQuantity midPrice)
      (hcalls : strategy.Calls zscore imbalance .sell)
      (hno : ¬ (0 < strategy.entryQuantity midPrice ∧ zscore ≤ -strategy.entryZscore
      ∧ strategy.requiredExpectedEdgeBps ≤ expectedEdgeBps)) :
      Built symbol midPrice bestBid bestAsk zscore imbalance expectedEdgeBps
        (some (strategy.entrySignal .sell symbol midPrice bestBid bestAsk zscore imbalance)) state
  | unconfirmed (hsized : 0 < strategy.entryQuantity midPrice) (hlow : zscore ≤ -strategy.entryZscore)
      (hedge : strategy.requiredExpectedEdgeBps ≤ expectedEdgeBps) :
      Built symbol midPrice bestBid bestAsk zscore imbalance expectedEdgeBps none
        { state with imbalanceHistory :=
            state.imbalanceHistory.set symbol (strategy.imbalances state symbol imbalance) }
  | buy (hsized : 0 < strategy.entryQuantity midPrice) (hlow : zscore ≤ -strategy.entryZscore)
      (hedge : strategy.requiredExpectedEdgeBps ≤ expectedEdgeBps)
      (hconfirmed : Confirmed strategy state symbol imbalance)
      (hlean : strategy.imbalanceThreshold ≤ imbalance) :
      Built symbol midPrice bestBid bestAsk zscore imbalance expectedEdgeBps
        (some (strategy.entrySignal .buy symbol midPrice bestBid bestAsk zscore imbalance))
        { state with imbalanceHistory :=
            state.imbalanceHistory.set symbol (strategy.imbalances state symbol imbalance) }

lemma buildEntrySignal_spec (symbol : String)
    (midPrice bestBid bestAsk zscore imbalance expectedEdgeBps : ℚ) :
    Leads (strategy.buildEntrySignal symbol midPrice bestBid bestAsk zscore imbalance
        expectedEdgeBps) state
      (Built strategy state symbol midPrice bestBid bestAsk zscore imbalance expectedEdgeBps)
      (fun _ _ => False) := by
  simp only [buildEntrySignal, imbalanceConfirmed, leads_ite, leads_bind, leads_get, leads_modify,
    leads_pure]
  refine ⟨fun hsmall => .unbuilt fun h => absurd h.1 (not_lt.mpr hsmall), fun hsized => ?_⟩
  rw [not_le] at hsized
  refine ⟨fun hlow => ⟨fun hedge => .unbuilt fun h => absurd h.2.2 (not_le.mpr hedge), fun hedge => ?_⟩,
    fun hhigh => ?_⟩
  · rw [not_lt] at hedge
    refine ⟨fun _ => .unconfirmed hsized hlow hedge, fun hconfirmed =>
      ⟨fun _ => .unconfirmed hsized hlow hedge, fun hlean => ?_⟩⟩
    rw [not_not, decide_eq_true_eq] at hconfirmed
    exact .buy hsized hlow hedge ⟨not_lt.mp hconfirmed.1, hconfirmed.2⟩ (not_lt.mp hlean)
  · refine ⟨fun hshort => .sell hsized hshort fun h => hhigh h.2.1, fun _ => ?_⟩
    exact .unbuilt fun h => hhigh h.2.1

section Book

variable {strategy ledger killSwitch clock state} {items : List (String × PyVal ℚ)}
  {symbol : String} {midPrice imbalance : ℚ}

/-- The symbol and the mid price are the ones of the order book. -/
lemma not_examines (h : ∀ imbalance bestBid bestAsk, ¬ Examined strategy ledger killSwitch clock
      state items (symbolOf items) (extractMidPrice items) imbalance bestBid bestAsk) :
    ¬ Examines strategy ledger killSwitch clock state (.dict items) := by
  rintro ⟨items, symbol, midPrice, imbalance, bestBid, bestAsk, hdict, hex⟩
  cases hdict
  obtain rfl := hex.symbol_eq
  obtain rfl := hex.mid_eq
  exact h imbalance bestBid bestAsk hex

/-- The checks that have been made when `onFlat` or `onOpen` is called. -/
structure Gated (strategy : MeanReversionImbalanceStrategy ℚ) (killSwitch : KillSwitch ℚ)
    (state : StrategyState ℚ) (items : List (String × PyVal ℚ)) (symbol : String)
    (midPrice imbalance : ℚ) : Prop where
  symbol_eq : symbolOf items = symbol
  mid_eq : extractMidPrice items = midPrice
  considered : ∀ bestBid bestAsk, floatOf items "best_bid" = .ok bestBid →
    floatOf items "best_ask" = .ok bestAsk →
    Considered strategy killSwitch state items symbol midPrice imbalance bestBid bestAsk

/-- The checks that have been made when an entry is built. -/
structure Admitted (strategy : MeanReversionImbalanceStrategy ℚ) (ledger : PositionLedger ℚ)
    (killSwitch : KillSwitch ℚ) (clock : Monotonic ℚ) (state : StrategyState ℚ)
    (items : List (String × PyVal ℚ)) (symbol : String)
    (midPrice imbalance bestBid bestAsk : ℚ) : Prop
    extends Considered strategy killSwitch state items symbol midPrice imbalance bestBid bestAsk where
  flat : openPosition ledger symbol = none
  unblocked : ∀ expiry, state.blockedUntil.get? symbol = some expiry → expiry ≤ clock.symbolBlocked
  trend : -strategy.badSymbolDropBps < recentReturnBps (strategy.historyWith state symbol midPrice)
  rested : strategy.isEntryOnCooldown clock.cooldown state symbol = false
  market : strategy.btcMarketOk (strategy.appendMid symbol midPrice state) = true

section Entry

variable {bestBid bestAsk : ℚ} {signal : TradeSignal ℚ} {s : StrategyState ℚ}

lemma Admitted.not_examines
    (hadmitted : Admitted strategy ledger killSwitch clock state items symbol midPrice imbalance
      bestBid bestAsk)
    (hno : ¬ (0 < strategy.entryQuantity midPrice
      ∧ strategy.scoreOf state symbol midPrice ≤ -strategy.entryZscore
      ∧ strategy.requiredExpectedEdgeBps
        ≤ expectedEdgeBps (strategy.historyWith state symbol midPrice) midPrice)) :
    ¬ Examines strategy ledger killSwitch clock state (.dict items) := by
  obtain rfl := hadmitted.symbol_eq
  obtain rfl := hadmitted.mid_eq
  exact MeanReversionImbalanceStrategy.not_examines fun _ _ _ h => hno ⟨h.sized, h.low, h.edge⟩

lemma Admitted.examined
    (hadmitted : Admitted strategy ledger killSwitch clock state items symbol midPrice imbalance
      bestBid bestAsk) (hsized : 0 < strategy.entryQuantity midPrice)
    (hlow : strategy.scoreOf state symbol midPrice ≤ -strategy.entryZscore)
    (hedge : strategy.requiredExpectedEdgeBps
      ≤ expectedEdgeBps (strategy.historyWith state symbol midPrice) midPrice) :
    Examined strategy ledger killSwitch clock state items symbol midPrice imbalance bestBid
      bestAsk :=
  ⟨hadmitted.toConsidered, hadmitted.flat, hadmitted.unblocked, hadmitted.trend, hadmitted.rested,
    hadmitted.market, hsized, hlow, hedge⟩

/-- An order book that passes the shared checks is handled by what is held. -/
lemma Considered.leads_onOrderbook
    (h : Considered strategy killSwitch state items symbol midPrice imbalance bestBid bestAsk)
    {Q : List (TradeSignal ℚ) → StrategyState ℚ → Prop} {E : PyError → StrategyState ℚ → Prop}
    (hnext : Leads (match openPosition ledger symbol with
        | none => strategy.onFlat clock items symbol (strategy.historyWith state symbol midPrice)
            midPrice (strategy.scoreOf state symbol midPrice) imbalance
        | some position => strategy.onOpen clock items symbol position midPrice
            (strategy.scoreOf state symbol midPrice))
      (strategy.appendMid symbol midPrice state) Q E) :
    Leads (strategy.onOrderbook ledger killSwitch clock (.dict items)) state Q E := by
  obtain rfl := h.symbol_eq
  obtain rfl := h.mid_eq
  simp only [onOrderbook, onBook, leads_ite, leads_bind, leads_get, leads_modify, leads_pure,
    leads_lift]
  refine ⟨fun _ => ⟨fun hunread => ?_, fun _ => ⟨fun hfew => ?_, fun _ => ⟨fun hwide => ?_,
    fun _ => ⟨fun imbalance' himbalance => ⟨fun huntraded => ?_, fun _ => ?_⟩,
      fun error hunread => ?_⟩⟩⟩⟩, fun hstopped => ?_⟩
  · exact (hunread.elim h.named (not_le.mpr h.mid_pos)).elim
  · exact absurd h.observed (not_le.mpr hfew)
  · exact absurd h.narrow (not_le.mpr hwide)
  · exact absurd huntraded h.traded
  · cases h.imbalance_read.symm.trans himbalance
    cases hopen : openPosition ledger (symbolOf items) with
    | none =>
        rw [hopen] at hnext
        exact hnext
    | some position =>
        rw [hopen] at hnext
        exact hnext
  · cases h.imbalance_read.symm.trans hunread
  · exact absurd h.active hstopped

/-- No entry has been built. -/
lemma Built.handled_none
    (hbuilt : Built strategy (strategy.flatState clock state symbol midPrice) symbol midPrice bestBid
      bestAsk (strategy.scoreOf state symbol midPrice) imbalance
      (expectedEdgeBps (strategy.historyWith state symbol midPrice) midPrice) none s)
    (hadmitted : Admitted strategy ledger killSwitch clock state items symbol midPrice imbalance
      bestBid bestAsk) :
    Handled strategy ledger killSwitch clock state (.dict items) [] s := by
  cases hbuilt with
  | unbuilt hno =>
      exact .declined rfl hadmitted.symbol_eq hadmitted.flat (hadmitted.not_examines hno)
  | unconfirmed hsized hlow hedge => exact .unconfirmed rfl (hadmitted.examined hsized hlow hedge)

/-- An entry has been built, and its time is recorded. -/
lemma Built.handled_some
    (hbuilt : Built strategy (strategy.flatState clock state symbol midPrice) symbol midPrice bestBid
      bestAsk (strategy.scoreOf state symbol midPrice) imbalance
      (expectedEdgeBps (strategy.historyWith state symbol midPrice) midPrice) (some signal) s)
    (hadmitted : Admitted strategy ledger killSwitch clock state items symbol midPrice imbalance
      bestBid bestAsk) :
    Handled strategy ledger killSwitch clock state (.dict items) [signal]
      { s with lastEntrySignalAt := s.lastEntrySignalAt.set symbol clock.signal } := by
  cases hbuilt with
  | sell hsized hcalls hno =>
      exact .sold rfl ⟨hadmitted.toConsidered, hadmitted.flat, hadmitted.unblocked, hadmitted.trend,
        hadmitted.rested, hsized, hcalls⟩ hadmitted.market (hadmitted.not_examines hno)
  | buy hsized hlow hedge hconfirmed hlean =>
      exact .bought rfl (hadmitted.examined hsized hlow hedge) ⟨hconfirmed.full, hconfirmed.all⟩ hlean

end Entry

lemma onFlat_handled (hgated : Gated strategy killSwitch state items symbol midPrice imbalance)
    (hflat : openPosition ledger symbol = none) :
    Leads (strategy.onFlat clock items symbol (strategy.historyWith state symbol midPrice) midPrice
        (strategy.scoreOf state symbol midPrice) imbalance)
      (strategy.appendMid symbol midPrice state)
      (Handled strategy ledger killSwitch clock state (.dict items))
      (fun _ s => Handled strategy ledger killSwitch clock state (.dict items) [] s) := by
  obtain ⟨rfl, rfl, hconsidered⟩ := hgated
  -- a call that stops before the imbalances are checked examines none
  have hdeclined (hno : ∀ imbalance bestBid bestAsk, ¬ Examined strategy ledger killSwitch clock
      state items (symbolOf items) (extractMidPrice items) imbalance bestBid bestAsk) :
      Handled strategy ledger killSwitch clock state (.dict items) []
        (strategy.flatState clock state (symbolOf items) (extractMidPrice items)) :=
    .declined rfl rfl hflat (not_examines hno)
  simp only [onFlat, leads_bind, leads_modify]
  refine (isSymbolBlocked_spec _ _ _).mono ?_ (fun _ _ h => h.elim)
  rintro blocked s ⟨rfl, hunblocked⟩
  simp only [leads_bind, leads_get, leads_ite, leads_modify, leads_pure, leads_lift]
  refine ⟨fun hblocked => hdeclined fun _ _ _ h => ?_, fun hfree => ⟨fun htrend => ?_,
    fun htrend => ⟨fun hcooling => hdeclined fun _ _ _ h => ?_, fun hrested =>
      ⟨fun hmarket => hdeclined fun _ _ _ h => hmarket h.market, fun hmarket =>
        ⟨fun bestBid hbid => ⟨fun bestAsk hask => ?_, fun error hask => hdeclined fun _ _ _ h => ?_⟩,
          fun error hbid => hdeclined fun _ _ _ h => ?_⟩⟩⟩⟩⟩
  · exact absurd (hunblocked.mpr h.unblocked) (by rw [hblocked]; exact Bool.true_eq_false_eq_False)
  · refine .badTrend rfl rfl hflat (not_examines fun _ _ _ h => ?_)
    exact absurd h.trend (not_lt.mpr htrend)
  · exact absurd (hcooling.symm.trans h.rested) Bool.true_eq_false_eq_False
  · rw [Bool.not_eq_true] at hfree hrested
    rw [not_not] at hmarket
    have hadmitted : Admitted strategy ledger killSwitch clock state items (symbolOf items)
        (extractMidPrice items) imbalance bestBid bestAsk :=
      ⟨hconsidered bestBid bestAsk hbid hask, hflat, hunblocked.mp hfree, not_le.mp htrend, hrested,
        hmarket⟩
    refine (buildEntrySignal_spec _ _ _ _ _ _ _ _ _).mono ?_ (fun _ _ h => h.elim)
    rintro (_ | signal) s hbuilt
    · simp only [leads_pure]
      exact hbuilt.handled_none hadmitted
    · simp only [leads_bind, leads_modify, leads_pure]
      exact hbuilt.handled_some hadmitted
  · cases hask.symm.trans h.ask_read
  · cases hbid.symm.trans h.bid_read

lemma onOpen_handled {position : Position ℚ}
    (hgated : Gated strategy killSwitch state items symbol midPrice imbalance)
    (hopen : openPosition ledger symbol = some position) :
    Leads (strategy.onOpen clock items symbol position midPrice
        (strategy.scoreOf state symbol midPrice))
      (strategy.appendMid symbol midPrice state)
      (Handled strategy ledger killSwitch clock state (.dict items))
      (fun _ s => Handled strategy ledger killSwitch clock state (.dict items) [] s) := by
  obtain ⟨rfl, rfl, hconsidered⟩ := hgated
  have hno : ¬ Examines strategy ledger killSwitch clock state (.dict items) := by
    refine not_examines fun _ _ _ h => ?_
    cases hopen.symm.trans h.flat
  have hwatched : Handled strategy ledger killSwitch clock state (.dict items) []
      (strategy.watching clock state (symbolOf items) (extractMidPrice items)) :=
    .watched rfl rfl hopen hno
  simp only [onOpen, leads_bind, leads_get, leads_ite, leads_modify, leads_pure, leads_lift]
  refine ⟨fun _ => .noted _ _ hno, fun hrested => ⟨fun bestBid hbid => ⟨fun bestAsk hask => ?_,
    fun _ _ => hwatched⟩, fun _ _ => hwatched⟩⟩
  have hwatching : strategy.watching clock state (symbolOf items) (extractMidPrice items)
      = { strategy.appendMid (symbolOf items) (extractMidPrice items) state with
          positionSeenAt := (strategy.appendMid (symbolOf items) (extractMidPrice items)
            state).positionSeenAt.set (symbolOf items) ((strategy.appendMid (symbolOf items)
              (extractMidPrice items) state).positionSeenAt.getD (symbolOf items) clock.seen) } := rfl
  rw [← hwatching]
  cases hbuild : strategy.buildExitSignal clock
      (strategy.watching clock state (symbolOf items) (extractMidPrice items)) (symbolOf items)
      position bestBid bestAsk (extractMidPrice items)
      (strategy.scoreOf state (symbolOf items) (extractMidPrice items)) with
  | none =>
      simp only [leads_pure]
      exact hwatched
  | some r =>
      obtain ⟨signal, reason⟩ := r
      simp only [leads_bind, leads_modify, leads_pure]
      refine .exited rfl ⟨hconsidered bestBid bestAsk hbid hask, hopen, ?_, hbuild⟩ hno
      exact Bool.eq_false_of_not_eq_true hrested

/-- An exit that is due is returned. -/
lemma ExitDue.returned {bestBid bestAsk : ℚ} {position : Position ℚ} {signal : TradeSignal ℚ}
    {reason : ExitReason}
    (due : ExitDue strategy ledger killSwitch clock state items symbol midPrice imbalance bestBid
      bestAsk position signal reason) :
    Leads (strategy.onOrderbook ledger killSwitch clock (.dict items)) state
      (fun signals _ => signals = [signal]) (fun _ _ => False) := by
  refine due.toConsidered.leads_onOrderbook ?_
  simp only [due.held, onOpen, leads_bind, leads_get, leads_ite, leads_modify, leads_pure, leads_lift]
  refine ⟨fun hcooling => absurd (hcooling.symm.trans due.rested) Bool.true_eq_false_eq_False,
    fun _ => ⟨fun bid hbid => ⟨fun ask hask => ?_, fun error hask => ?_⟩, fun error hbid => ?_⟩⟩
  · cases due.bid_read.symm.trans hbid
    cases due.ask_read.symm.trans hask
    have hrule := due.rule
    simp only [watching, appendMid] at hrule ⊢
    simp only [hrule, leads_bind, leads_modify, leads_pure]
  · cases due.ask_read.symm.trans hask
  · cases due.bid_read.symm.trans hbid

lemma onBook_handled (hactive : killSwitch.isActive = true) :
    Leads (strategy.onBook ledger clock items) state
      (Handled strategy ledger killSwitch clock state (.dict items))
      (fun _ s => Handled strategy ledger killSwitch clock state (.dict items) [] s) := by
  simp only [onBook, leads_ite, leads_bind, leads_get, leads_modify, leads_pure, leads_lift]
  refine ⟨fun hunread => .skipped (not_examines fun _ _ _ h => ?_), fun hread =>
    ⟨fun hfew => .noted _ _ (not_examines fun _ _ _ h => ?_), fun hobserved =>
    ⟨fun hwide => .noted _ _ (not_examines fun _ _ _ h => ?_), fun hnarrow => ⟨fun imbalance
      himbalance => ⟨fun huntraded => .noted _ _ (not_examines fun _ _ _ h => h.traded huntraded),
        fun htraded => ?_⟩, fun error himbalance => .noted _ _ (not_examines fun _ _ _ h => ?_)⟩⟩⟩⟩
  · exact hunread.elim h.named (not_le.mpr h.mid_pos)
  · exact absurd h.observed (not_le.mpr hfew)
  · exact absurd h.narrow (not_le.mpr hwide)
  · rw [not_or, not_le] at hread
    have hgated : Gated strategy killSwitch state items (symbolOf items) (extractMidPrice items)
        imbalance := by
      refine ⟨rfl, rfl, fun bestBid bestAsk hbid hask => ?_⟩
      exact ⟨hactive, rfl, hread.1, rfl, hread.2, not_lt.mp hobserved, not_lt.mp hnarrow, himbalance,
        hbid, hask, htraded⟩
    cases hopen : openPosition ledger (symbolOf items) with
    | none => exact onFlat_handled hgated hopen
    | some position => exact onOpen_handled hgated hopen
  · cases himbalance.symm.trans h.imbalance_read

end Book

/-- **How an order book can be handled.** -/
theorem onOrderbook_handled (orderbook : PyVal ℚ) :
    Leads (strategy.onOrderbook ledger killSwitch clock orderbook) state
      (Handled strategy ledger killSwitch clock state orderbook)
      (fun _ s => Handled strategy ledger killSwitch clock state orderbook [] s) := by
  -- without a dictionary, or with trading stopped, there is nothing to examine
  have hskipped (h : ∀ items, orderbook = .dict items → killSwitch.isActive ≠ true) :
      Handled strategy ledger killSwitch clock state orderbook [] state := by
    refine .skipped ?_
    rintro ⟨items, symbol, midPrice, imbalance, bestBid, bestAsk, hdict, hex⟩
    exact h items hdict hex.active
  cases orderbook with
  | dict items =>
      simp only [onOrderbook, leads_ite, leads_pure]
      exact ⟨fun hactive => onBook_handled hactive, fun hstopped => hskipped fun _ _ => hstopped⟩
  | _ =>
      simp only [onOrderbook, leads_ite, leads_throw, leads_pure]
      refine ⟨fun _ => hskipped ?_, fun hstopped => hskipped fun _ _ => hstopped⟩
      intro items hdict
      cases hdict

/-! ## What a call returns and records -/

/-- No signal is recorded. -/
structure Unsignalled (state' : StrategyState ℚ) : Prop where
  entries : state'.lastEntrySignalAt = state.lastEntrySignalAt
  exits : state'.lastExitSignalAt = state.lastExitSignalAt

/-- The ways a call can return. -/
inductive Answered (orderbook : PyVal ℚ) : List (TradeSignal ℚ) → StrategyState ℚ → Prop
  | quiet {state' : StrategyState ℚ} (h : Unsignalled state state') :
      Answered orderbook [] state'
  | entry {items : List (String × PyVal ℚ)} {symbol : String}
      {midPrice imbalance bestBid bestAsk : ℚ} {side : OrderSide} {state' : StrategyState ℚ}
      (hdict : orderbook = .dict items)
      (due : EntryDue strategy ledger killSwitch clock state items symbol midPrice imbalance bestBid
        bestAsk side)
      (hentry : state'.lastEntrySignalAt = state.lastEntrySignalAt.set symbol clock.signal)
      (hexit : state'.lastExitSignalAt = state.lastExitSignalAt) :
      Answered orderbook [strategy.entrySignal side symbol midPrice bestBid bestAsk
        (strategy.scoreOf state symbol midPrice) imbalance] state'
  | exit {items : List (String × PyVal ℚ)} {symbol : String}
      {midPrice imbalance bestBid bestAsk : ℚ} {position : Position ℚ} {signal : TradeSignal ℚ}
      {reason : ExitReason} {state' : StrategyState ℚ} (hdict : orderbook = .dict items)
      (due : ExitDue strategy ledger killSwitch clock state items symbol midPrice imbalance bestBid
        bestAsk position signal reason)
      (hentry : state'.lastEntrySignalAt = state.lastEntrySignalAt)
      (hexit : state'.lastExitSignalAt = state.lastExitSignalAt.set symbol clock.signal) :
      Answered orderbook [signal] state'

variable {strategy ledger killSwitch clock state} in
/-- What is returned and recorded, whichever way it was handled. -/
lemma Handled.answered {orderbook : PyVal ℚ} {signals : List (TradeSignal ℚ)}
    {state' : StrategyState ℚ}
    (h : Handled strategy ledger killSwitch clock state orderbook signals state') :
    Answered strategy ledger killSwitch clock state orderbook signals state' := by
  cases h with
  | badTrend hdict hsymbol hflat hno =>
      exact .quiet ⟨blockSymbol_entries .., blockSymbol_exits ..⟩
  | bought hdict h hconfirmed hlean =>
      exact .entry hdict ⟨h.toConsidered, h.flat, h.unblocked, h.trend, h.rested, h.sized, h.low,
        hlean⟩ rfl rfl
  | sold hdict due hmarket hno => exact .entry hdict due rfl rfl
  | exited hdict due hno => exact .exit hdict due (blockSymbol_entries ..) (blockSymbol_exits ..)
  | _ => exact .quiet ⟨rfl, rfl⟩

/-- **What an order book can make the strategy do.** -/
theorem onOrderbook_spec (orderbook : PyVal ℚ) :
    Leads (strategy.onOrderbook ledger killSwitch clock orderbook) state
      (Answered strategy ledger killSwitch clock state orderbook)
      (fun _ s => Unsignalled state s) := by
  refine (onOrderbook_handled strategy ledger killSwitch clock state orderbook).mono
    (fun signals s h => h.answered) (fun error s h => ?_)
  cases h.answered with
  | quiet h => exact h

/-! ## What the signals ask for -/

variable {strategy clock state} {symbol : String} {position : Position ℚ}
  {midPrice bestBid bestAsk zscore : ℚ} {signal : TradeSignal ℚ} {reason : ExitReason}

/-- A rule has asked for an exit of the whole position, against its side, knowing what it earns. -/
lemma buildExitSignal_cases
    (h : strategy.buildExitSignal clock state symbol position bestBid bestAsk midPrice zscore
      = some (signal, reason)) :
    ∃ side kind reverted, ∃ _ : Decidable reverted,
      strategy.exitReason (strategy.dynamicStopLossBps (state.midHistory.get? symbol))
          (position.exitPnlBps bestBid bestAsk midPrice)
          (clock.age - state.positionSeenAt.getD symbol clock.ageDefault) reverted = some reason
        ∧ signal = strategy.exitSignal side kind symbol reason position.quantity bestBid bestAsk
          (position.exitPnlBps bestBid bestAsk midPrice) zscore
        ∧ (0 < position.quantity ∧ side = .sell ∨ position.quantity < 0 ∧ side = .buy) := by
  rw [buildExitSignal] at h
  by_cases hentry : position.averageEntry ≤ 0
  · rw [if_pos hentry] at h
    cases h
  rw [if_neg hentry] at h
  by_cases hlong : 0 < position.quantity
  · rw [if_pos hlong] at h
    obtain ⟨reason', hreason, heq⟩ := Option.map_eq_some_iff.mp h
    cases heq
    rw [Position.exitPnlBps, if_pos hlong]
    exact ⟨_, _, _, _, hreason, rfl, Or.inl ⟨hlong, rfl⟩⟩
  rw [if_neg hlong] at h
  by_cases hshort : position.quantity < 0
  · rw [if_pos hshort] at h
    obtain ⟨reason', hreason, heq⟩ := Option.map_eq_some_iff.mp h
    cases heq
    rw [Position.exitPnlBps, if_neg hlong]
    exact ⟨_, _, _, _, hreason, rfl, Or.inr ⟨hshort, rfl⟩⟩
  · rw [if_neg hshort] at h
    cases h

lemma buildExitSignal_some
    (h : strategy.buildExitSignal clock state symbol position bestBid bestAsk midPrice zscore
      = some (signal, reason)) :
    signal.symbol = symbol ∧ signal.quantity = |position.quantity|
      ∧ (0 < position.quantity ∧ signal.side = .sell
        ∨ position.quantity < 0 ∧ signal.side = .buy) := by
  obtain ⟨side, kind, reverted, _, -, rfl, hside⟩ := buildExitSignal_cases h
  exact ⟨rfl, pyAbs_rat _, hside⟩

/-- Short entries have to be allowed. -/
lemma Calls.buy {imbalance : ℚ} {side : OrderSide} (h : strategy.Calls zscore imbalance side)
    (hshort : strategy.allowShortEntries = false) : side = .buy := by
  cases side with
  | buy => rfl
  | sell => exact absurd (hshort.symm.trans h.1) Bool.false_ne_true

lemma openPosition_some {ledger : PositionLedger ℚ} (h : openPosition ledger symbol = some position) :
    ledger.getPosition symbol = some position ∧ position.quantity ≠ 0 := by
  rw [openPosition, Option.filter_eq_some_iff] at h
  exact ⟨h.1, by simpa using h.2⟩

/-- The strategy sees nothing exactly when the quantity is zero. -/
lemma openPosition_none {ledger : PositionLedger ℚ} :
    openPosition ledger symbol = none ↔ ledger.quantityOf symbol = 0 := by
  rw [openPosition, PositionLedger.quantityOf]
  cases ledger.getPosition symbol with
  | none => simp
  | some p => by_cases hp : p.quantity = 0 <;> simp [hp]

end MeanReversionImbalanceStrategy

end Aegis
