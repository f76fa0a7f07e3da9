import AegisFortress.Strategies.SignalSteps

/-!
# The stop loss

A long position whose best bid has fallen through its stop is sold, all of it, provided that the
order book gets as far as the position.  The checks before that were made for entries, but exits
pass through them too: there must be a mid price, enough of them, a narrow spread and an imbalance
that can be read (`stop_sells_iff`).  They do not hold just after a restart, when the position has
been restored and the prices have not, nor while the spread is wide.
-/

namespace Aegis

namespace MeanReversionImbalanceStrategy

open Raising

variable {strategy : MeanReversionImbalanceStrategy ℚ} {ledger : PositionLedger ℚ}
  {killSwitch : KillSwitch ℚ} {clock : Monotonic ℚ} {state : StrategyState ℚ}
  {items : List (String × PyVal ℚ)} {position : Position ℚ} {bestBid bestAsk : ℚ}

/-! ## The stop and the checks before it -/

/-- The best bid is through the stop of a long position, trading goes on and no exit cooldown
runs. -/
structure StopHit (strategy : MeanReversionImbalanceStrategy ℚ) (ledger : PositionLedger ℚ)
    (killSwitch : KillSwitch ℚ) (clock : Monotonic ℚ) (state : StrategyState ℚ)
    (items : List (String × PyVal ℚ)) (position : Position ℚ) (bestBid bestAsk : ℚ) : Prop where
  active : killSwitch.isActive = true
  fixed : strategy.dynamicStopEnabled = false
  traded : ¬ (symbolOf items = strategy.btcSymbol ∧ ¬ strategy.tradeBtcSymbol)
  rested : strategy.isExitOnCooldown clock.cooldown state (symbolOf items) = false
  held : ledger.getPosition (symbolOf items) = some position
  long : 0 < position.quantity
  entered : 0 < position.averageEntry
  bid_read : floatOf items "best_bid" = .ok bestBid
  ask_read : floatOf items "best_ask" = .ok bestAsk
  bid_pos : 0 < bestBid
  uncrossed : bestBid ≤ bestAsk
  through : (bestBid - position.averageEntry) / position.averageEntry * 10000
    ≤ -strategy.stopLossBps

/-- The order book gets as far as the position. -/
structure Reaches (strategy : MeanReversionImbalanceStrategy ℚ) (state : StrategyState ℚ)
    (items : List (String × PyVal ℚ)) : Prop where
  named : symbolOf items ≠ ""
  priced : 0 < extractMidPrice items
  observed : strategy.minObservations
    ≤ (strategy.historyWith state (symbolOf items) (extractMidPrice items)).length
  narrow : extractSpreadBps items (extractMidPrice items) ≤ strategy.maxSpreadBps
  leaning : ∃ imbalance, floatOf items "imbalance" = .ok imbalance

/-- One signal, which sells all of the position. -/
def SellsAll (signals : List (TradeSignal ℚ)) (symbol : String) (quantity : ℚ) : Prop :=
  ∃ signal, signals = [signal] ∧ signal.symbol = symbol ∧ signal.side = .sell
    ∧ signal.quantity = quantity

/-! ## The exit rules at the stop -/

/-- A loss is no profit: the target of the constructor is positive. -/
lemma feeAdjustedTakeProfitBps_pos (strategy : MeanReversionImbalanceStrategy ℚ) :
    0 < strategy.feeAdjustedTakeProfitBps := by
  rw [feeAdjustedTakeProfitBps, pyMax_rat]
  exact lt_max_of_lt_left strategy.accepted.takeProfit

/-- The stop is the rule that applies. -/
lemma exitReason_stop {pnlBps age : ℚ} {reverted : Prop} [Decidable reverted]
    (hloss : pnlBps ≤ -strategy.stopLossBps) :
    strategy.exitReason strategy.stopLossBps pnlBps age reverted = some .stopLoss := by
  have hprofit : ¬ strategy.feeAdjustedTakeProfitBps ≤ pnlBps := by
    have htarget := strategy.feeAdjustedTakeProfitBps_pos
    have hstop := strategy.accepted.stopLoss
    linarith
  rw [exitReason, if_neg hprofit, if_pos hloss]

lemma StopHit.open (hit : StopHit strategy ledger killSwitch clock state items position bestBid
    bestAsk) : openPosition ledger (symbolOf items) = some position := by
  rw [openPosition, hit.held]
  exact Option.filter_some_pos (by simpa using hit.long.ne')

/-- The whole position is asked for. -/
lemma StopHit.exit (hit : StopHit strategy ledger killSwitch clock state items position bestBid
    bestAsk) (state' : StrategyState ℚ) (midPrice zscore : ℚ) :
    ∃ signal, strategy.buildExitSignal clock state' (symbolOf items) position bestBid bestAsk
        midPrice zscore = some (signal, .stopLoss)
      ∧ signal.symbol = symbolOf items ∧ signal.side = .sell
      ∧ signal.quantity = position.quantity := by
  have hstop : strategy.dynamicStopLossBps (state'.midHistory.get? (symbolOf items))
      = strategy.stopLossBps := by
    rw [dynamicStopLossBps, hit.fixed]
    rfl
  have hbuild : strategy.buildExitSignal clock state' (symbolOf items) position bestBid bestAsk
      midPrice zscore
      = some (strategy.exitSignal .sell "long" (symbolOf items) .stopLoss position.quantity bestBid
          bestAsk ((bestBid - position.averageEntry) / position.averageEntry * 10000) zscore,
        .stopLoss) := by
    simp only [buildExitSignal, if_neg (not_le.mpr hit.entered), if_pos hit.long,
      if_pos hit.bid_pos, hstop, ofRat_rat, exitReason_stop hit.through, Option.map_some]
  exact ⟨_, hbuild, rfl, rfl, (pyAbs_rat _).trans (abs_of_pos hit.long)⟩

/-! ## Selling at the stop -/

lemma StopHit.reaches (hit : StopHit strategy ledger killSwitch clock state items position bestBid
      bestAsk)
    {signals : List (TradeSignal ℚ)} {state' : StrategyState ℚ}
    (hrun : (strategy.onOrderbook ledger killSwitch clock (.dict items)).run state
      = .ok signals state')
    (hsells : SellsAll signals (symbolOf items) position.quantity) :
    Reaches strategy state items := by
  obtain ⟨signal, rfl, -⟩ := hsells
  have hhandled := (onOrderbook_handled strategy ledger killSwitch clock state _).ok hrun
  generalize hdict : PyVal.dict items = orderbook at hhandled
  generalize hone : [signal] = signals at hhandled
  cases hhandled with
  | bought hdict' hex =>
      cases hdict.trans hdict'
      cases hit.open.symm.trans (hex.symbol_eq ▸ hex.flat)
  | sold hdict' due =>
      cases hdict.trans hdict'
      cases hit.open.symm.trans (due.symbol_eq ▸ due.flat)
  | exited hdict' due =>
      cases hdict.trans hdict'
      obtain ⟨-, rfl, hnamed, rfl, hpriced, hobserved, hnarrow, himbalance, -, -, -⟩ :=
        due.toConsidered
      exact ⟨hnamed, hpriced, hobserved, hnarrow, _, himbalance⟩
  | _ => cases hone

/-- An order book that gets as far as the position has an exit due. -/
lemma StopHit.sells (hit : StopHit strategy ledger killSwitch clock state items position bestBid
    bestAsk) (hreaches : Reaches strategy state items) :
    Leads (strategy.onOrderbook ledger killSwitch clock (.dict items)) state
      (fun signals _ => SellsAll signals (symbolOf items) position.quantity) (fun _ _ => False) := by
  obtain ⟨imbalance, himbalance⟩ := hreaches.leaning
  obtain ⟨signal, hbuild, hsignal⟩ := hit.exit
    (strategy.watching clock state (symbolOf items) (extractMidPrice items)) (extractMidPrice items)
    (strategy.scoreOf state (symbolOf items) (extractMidPrice items))
  have due : ExitDue strategy ledger killSwitch clock state items (symbolOf items)
      (extractMidPrice items) imbalance bestBid bestAsk position signal .stopLoss :=
    ⟨⟨hit.active, rfl, hreaches.named, rfl, hreaches.priced, hreaches.observed, hreaches.narrow,
      himbalance, hit.bid_read, hit.ask_read, hit.traded⟩, hit.open, hit.rested, hbuild⟩
  exact due.returned.mono (fun signals _ hone => ⟨signal, hone, hsignal⟩) fun _ _ h => h

/-- **The stop loss sells exactly when the order book gets as far as the position.** -/
theorem stop_sells_iff (hit : StopHit strategy ledger killSwitch clock state items position bestBid
    bestAsk) :
    (∃ signals state', (strategy.onOrderbook ledger killSwitch clock (.dict items)).run state
        = .ok signals state' ∧ SellsAll signals (symbolOf items) position.quantity)
      ↔ Reaches strategy state items := by
  constructor
  · rintro ⟨signals, state', hrun, hsells⟩
    exact hit.reaches hrun hsells
  · exact fun hreaches => (hit.sells hreaches).returns

/-! ## A crash -/

/-- The bid has halved. -/
def crashed (bestAsk : ℚ) : List (String × PyVal ℚ) :=
  [("symbol", .str "BTC/USDT"), ("best_bid", .float 50), ("best_ask", .float bestAsk),
    ("mid_price", .float ((50 + bestAsk) / 2)), ("spread", .float (bestAsk - 50)),
    ("imbalance", .float 0)]

/-- The strategy after twenty-five ticks at 100. -/
def watched : StrategyState ℚ :=
  (List.replicate 25 (PyVal.dict [("symbol", .str "BTC/USDT"), ("mid_price", .float 100)])).foldl
    (fun state tick => final ((lowCapitalStrategy.onMarketTick tick).run state)) .init

lemma symbolOf_crashed (bestAsk : ℚ) : symbolOf (crashed bestAsk) = "BTC/USDT" := by
  change pyStrip "BTC/USDT" = "BTC/USDT"
  decide +kernel

lemma stopHit_crashed {state : StrategyState ℚ} {bestAsk : ℚ} (hask : 50 ≤ bestAsk)
    (hrested : state.lastExitSignalAt.get? "BTC/USDT" = none) :
    StopHit lowCapitalStrategy (holding 2 100) untriggered (.still 1000) state (crashed bestAsk)
      ⟨"BTC/USDT", 2, 100, 0, 0⟩ 50 bestAsk where
  active := rfl
  fixed := rfl
  traded := fun huntraded => huntraded.2 (by decide +kernel)
  rested := by
    rw [symbolOf_crashed, isExitOnCooldown, isOnCooldown, hrested, ite_self]
  held := by
    rw [symbolOf_crashed]
    rfl
  long := by norm_num
  entered := by norm_num
  bid_read := rfl
  ask_read := rfl
  bid_pos := by norm_num
  uncrossed := hask
  through := by
    change (50 - 100) / 100 * 10000 ≤ -(45 : ℚ)
    norm_num

/-- With its prices and a narrow spread the strategy sells. -/
theorem stop_sells_watched :
    StopHit lowCapitalStrategy (holding 2 100) untriggered (.still 1000) watched (crashed 50)
        ⟨"BTC/USDT", 2, 100, 0, 0⟩ 50 50
      ∧ ∃ signals state', (lowCapitalStrategy.onOrderbook (holding 2 100) untriggered (.still 1000)
          (.dict (crashed 50))).run watched = .ok signals state' ∧ SellsAll signals "BTC/USDT" 2 := by
  have hit : StopHit lowCapitalStrategy (holding 2 100) untriggered (.still 1000) watched (crashed 50)
      ⟨"BTC/USDT", 2, 100, 0, 0⟩ 50 50 := stopHit_crashed (le_refl 50) (by decide +kernel)
  exact ⟨hit, (stop_sells_iff hit).mpr ⟨by decide +kernel, by decide +kernel, by decide +kernel,
    by decide +kernel, 0, rfl⟩⟩

/-- Just after a restart, and whenever the spread is wide, it does not. -/
theorem stop_missed :
    (StopHit lowCapitalStrategy (holding 2 100) untriggered (.still 1000) .init (crashed 50)
        ⟨"BTC/USDT", 2, 100, 0, 0⟩ 50 50
      ∧ ¬ ∃ signals state', (lowCapitalStrategy.onOrderbook (holding 2 100) untriggered (.still 1000)
          (.dict (crashed 50))).run .init = .ok signals state' ∧ SellsAll signals "BTC/USDT" 2)
    ∧ StopHit lowCapitalStrategy (holding 2 100) untriggered (.still 1000) watched (crashed 51)
        ⟨"BTC/USDT", 2, 100, 0, 0⟩ 50 51
      ∧ ¬ ∃ signals state', (lowCapitalStrategy.onOrderbook (holding 2 100) untriggered (.still 1000)
          (.dict (crashed 51))).run watched = .ok signals state'
          ∧ SellsAll signals "BTC/USDT" 2 := by
  have hfresh : StopHit lowCapitalStrategy (holding 2 100) untriggered (.still 1000) .init (crashed 50)
      ⟨"BTC/USDT", 2, 100, 0, 0⟩ 50 50 := stopHit_crashed (le_refl 50) rfl
  have hwide : StopHit lowCapitalStrategy (holding 2 100) untriggered (.still 1000) watched (crashed 51)
      ⟨"BTC/USDT", 2, 100, 0, 0⟩ 50 51 := stopHit_crashed (by norm_num) (by decide +kernel)
  refine ⟨⟨hfresh, ?_⟩, hwide, ?_⟩
  · rintro ⟨signals, state', hrun, hsells⟩
    exact absurd (hfresh.reaches hrun hsells).observed (by decide +kernel)
  · rintro ⟨signals, state', hrun, hsells⟩
    exact absurd (hwide.reaches hrun hsells).narrow (by decide +kernel)

end MeanReversionImbalanceStrategy

end Aegis
