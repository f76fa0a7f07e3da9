import AegisFortress.Strategies.StopLoss
import AegisFortress.Strategies.StrategyRuns

/-!
# What a profit exit leaves after costs

A position is closed with a profit for one of two reasons.  The target of `take_profit` is raised
to the cost of the round trip and the required profit on top of it; `mean_reversion_profit` asks for
the required profit only, which is the greater of the configured minimum and the cost with its
buffer.  So the second one may leave less than the minimum after the cost, unless there is no cost,
or the buffer is as large as the minimum, or the stop comes first (`profits_after_costs_iff`).
-/

namespace Aegis

open Raising

namespace MeanReversionImbalanceStrategy

variable (strategy : MeanReversionImbalanceStrategy ℚ)

/-- `AEGIS_STRATEGY_PROFIT_BUFFER_BPS`. -/
def profitBufferBps : ℚ := strategy.floatEnv "AEGIS_STRATEGY_PROFIT_BUFFER_BPS" 0

/-- The minimum profit, once the round trip has been paid for. -/
def netProfitBps : ℚ := strategy.roundTripCostBps + strategy.minProfitAfterFeeBps

/-- When a step closes a position with a profit, the minimum is left after the cost. -/
def ProfitLeft (s : StrategyRun) (input : StrategyInput) : Prop :=
  ∀ s' e, strategy.step s input = some s' → s'.signals = s.signals ++ [e] →
    e.reason = some .takeProfit ∨ e.reason = some .meanReversionProfit →
    ∃ killSwitch clock items position bestBid bestAsk,
      input = .book killSwitch clock (.dict items)
        ∧ openPosition s.ledger (symbolOf items) = some position
        ∧ floatOf items "best_bid" = .ok bestBid ∧ floatOf items "best_ask" = .ok bestAsk
        ∧ strategy.minProfitAfterFeeBps
          ≤ position.exitPnlBps bestBid bestAsk (extractMidPrice items) - strategy.roundTripCostBps

/-- The dynamic stop is set so far below zero that it closes every position that earns less. -/
structure StopsFirst : Prop where
  enabled : strategy.dynamicStopEnabled = true
  least : strategy.dynamicStopMinBps ≤ -strategy.netProfitBps
  most : strategy.dynamicStopMaxBps ≤ -strategy.netProfitBps

/-! ## The thresholds -/

lemma roundTripCostBps_nonneg : 0 ≤ strategy.roundTripCostBps := by
  rw [roundTripCostBps, pyMax_rat]
  exact le_max_left _ _

lemma requiredMinProfitBps_eq : strategy.requiredMinProfitBps
    = max strategy.minProfitAfterFeeBps (strategy.roundTripCostBps + strategy.profitBufferBps) := by
  rw [requiredMinProfitBps, pyMax_rat, profitBufferBps]

lemma requiredMinProfitBps_nonneg : 0 ≤ strategy.requiredMinProfitBps := by
  rw [requiredMinProfitBps_eq]
  exact le_max_of_le_left strategy.accepted.minProfit

/-- Taking a profit pays for the round trip. -/
lemma netProfitBps_le_target : strategy.netProfitBps ≤ strategy.feeAdjustedTakeProfitBps := by
  rw [feeAdjustedTakeProfitBps, pyMax_rat, requiredMinProfitBps_eq, netProfitBps]
  refine le_max_of_le_right ?_
  have hmin := le_max_left strategy.minProfitAfterFeeBps
    (strategy.roundTripCostBps + strategy.profitBufferBps)
  linarith

/-- The required profit pays for the round trip in two cases. -/
lemma netProfitBps_le_required : strategy.netProfitBps ≤ strategy.requiredMinProfitBps
    ↔ strategy.roundTripCostBps = 0 ∨ strategy.minProfitAfterFeeBps ≤ strategy.profitBufferBps := by
  rw [requiredMinProfitBps_eq, netProfitBps, le_max_iff, add_le_iff_nonpos_left,
    add_le_add_iff_left, le_antisymm_iff (a := strategy.roundTripCostBps)]
  simp [strategy.roundTripCostBps_nonneg]

variable {strategy}

/-- A stop that comes first is at least that far below zero, whatever the prices have been. -/
lemma StopsFirst.stop_le (h : StopsFirst strategy) (history : Option (List ℚ)) :
    strategy.netProfitBps ≤ -strategy.dynamicStopLossBps history := by
  rw [dynamicStopLossBps, if_pos h.enabled, pyMax_rat, pyMin_rat, le_neg, max_le_iff]
  exact ⟨h.least, (min_le_left _ _).trans h.most⟩

/-! ## The exit rules -/

/-- A profit is taken above the target, or above the required profit when the stop has not been
hit. -/
lemma exitReason_profit {stopLossBps pnlBps age : ℚ} {reverted : Prop} [Decidable reverted]
    {reason : ExitReason}
    (h : strategy.exitReason stopLossBps pnlBps age reverted = some reason)
    (hprofit : reason = .takeProfit ∨ reason = .meanReversionProfit) :
    strategy.feeAdjustedTakeProfitBps ≤ pnlBps
      ∨ strategy.requiredMinProfitBps ≤ pnlBps ∧ -stopLossBps < pnlBps := by
  rw [exitReason] at h
  split_ifs at h with htarget hstop hreverted htime
  · exact Or.inl htarget
  · rcases hprofit with rfl | rfl <;> cases h
  · exact Or.inr ⟨hreverted.2, not_le.mp hstop⟩
  · rcases hprofit with rfl | rfl <;> cases h

/-- A step that closes a position with a profit leaves the minimum, unless the settings allow
less. -/
lemma profitLeft_of_covered (hcovered : strategy.roundTripCostBps = 0
      ∨ strategy.minProfitAfterFeeBps ≤ strategy.profitBufferBps ∨ StopsFirst strategy)
    (s : StrategyRun) (input : StrategyInput) : ProfitLeft strategy s input := by
  intro s' e hstep hsignals hprofit
  cases step_emits hstep hsignals with
  | bought _ _ _ he | sold _ _ _ he =>
      rw [he] at hprofit
      rcases hprofit with hprofit | hprofit <;> cases hprofit
  | @exited killSwitch clock items symbol midPrice imbalance bestBid bestAsk position signal reason
      htime due he =>
      refine ⟨killSwitch, clock, items, position, bestBid, bestAsk, rfl, ?_, due.bid_read,
        due.ask_read, ?_⟩
      · rw [due.symbol_eq]
        exact due.held
      · obtain ⟨side, kind, reverted, _, hreason, -, -⟩ := buildExitSignal_cases due.rule
        rw [he, Option.some.injEq, Option.some.injEq] at hprofit
        have hleft : strategy.netProfitBps ≤ position.exitPnlBps bestBid bestAsk midPrice := by
          rcases exitReason_profit hreason hprofit with htarget | ⟨hrequired, hstop⟩
          · exact strategy.netProfitBps_le_target.trans htarget
          · rcases hcovered with hcost | hbuffer | hfirst
            · exact (strategy.netProfitBps_le_required.mpr (Or.inl hcost)).trans hrequired
            · exact (strategy.netProfitBps_le_required.mpr (Or.inr hbuffer)).trans hrequired
            · exact (hfirst.stop_le _).trans hstop.le
        rw [netProfitBps] at hleft
        rw [due.mid_eq]
        linarith

/-! ## A position that is closed too early -/

section Standing

variable {symbol : String}

/-- A tick of a symbol at 1. -/
def standingTick (symbol : String) : StrategyInput :=
  .tick (.dict [("symbol", .str symbol), ("mid_price", .float 1)])

/-- An order book of a symbol at 1. -/
def standingBook (symbol : String) : List (String × PyVal ℚ) :=
  [("symbol", .str symbol), ("best_bid", .float 1), ("best_ask", .float 1), ("mid_price", .float 1),
    ("imbalance", .float 0)]

/-- A history of one and the same price stays one. -/
lemma dequeAppend_replicate (maxlen : ℤ) (k : ℕ) (a : ℚ) :
    dequeAppend maxlen (List.replicate k a) a = List.replicate (min (k + 1) maxlen.toNat) a := by
  rw [dequeAppend, ← List.replicate_succ', List.drop_replicate, List.length_replicate]
  congr 1
  omega

lemma extractMidPrice_standing (items : List (String × PyVal ℚ))
    (hmid : PyVal.get items "mid_price" = .float 1) : extractMidPrice items = 1 := by
  rw [extractMidPrice, hmid]
  exact if_pos one_pos

lemma step_standing (hsymbol : pyStrip symbol = symbol) (hnamed : symbol ≠ "") (s : StrategyRun) :
    strategy.step s (standingTick symbol)
      = some { s with state := strategy.appendMid symbol 1 s.state } := by
  have hread : symbolOf [("symbol", PyVal.str symbol), ("mid_price", PyVal.float (1 : ℚ))] = symbol :=
    hsymbol
  have hmid : extractMidPrice [("symbol", PyVal.str symbol), ("mid_price", PyVal.float (1 : ℚ))] = 1 :=
    extractMidPrice_standing _ rfl
  have hskip : ¬ (symbol = "" ∨ (1 : ℚ) ≤ 0) := by simp [hnamed]
  simp only [standingTick, step, onMarketTick, hread, hmid, if_neg hskip]
  rfl

variable (strategy) in
/-- Ticks at 1 fill the history and change nothing else. -/
lemma run_standing (hsymbol : pyStrip symbol = symbol) (hnamed : symbol ≠ "")
    (ledger : PositionLedger ℚ) (k : ℕ) :
    ∃ midHistory : Dict String (List ℚ),
      Machine.run strategy.step (.init ledger 0) (List.replicate k (standingTick symbol))
          = some { StrategyRun.init ledger 0 with
            state := { StrategyState.init with midHistory } }
        ∧ midHistory.getD symbol [] = List.replicate (min k strategy.rollingWindow.toNat) 1 := by
  induction k with
  | zero => exact ⟨∅, rfl, by simp [Dict.getD]⟩
  | succ k ih =>
      obtain ⟨midHistory, hrun, hhistory⟩ := ih
      refine ⟨midHistory.set symbol (dequeAppend strategy.rollingWindow
        (midHistory.getD symbol []) 1), ?_, ?_⟩
      · rw [List.replicate_succ', Machine.run_snoc, hrun, Option.bind_some,
          step_standing hsymbol hnamed]
        rfl
      · rw [Dict.getD_set_self, hhistory, dequeAppend_replicate]
        congr 1
        omega

lemma pvariance_standing (n : ℕ) : pvariance (List.replicate n (1 : ℚ)) = 0 := by
  rw [pvariance_eq fun x => ofRat_rat x, Dispersion.variance_replicate]

lemma zscore_standing {n : ℕ} (hn : 0 < n) : strategy.zscore (List.replicate n 1) 1 = 0 := by
  rw [zscore, mean_eq fun x => ofRat_rat x, Dispersion.average_replicate hn, sub_self, zero_div,
    ite_self]

/-- Prices that do not move have no volatility to set a stop by. -/
lemma dynamicStopLossBps_standing (hsqrt : strategy.sqrt 0 = 0) (n : ℕ) :
    strategy.dynamicStopLossBps (some (List.replicate n 1))
      = if strategy.dynamicStopEnabled then
          max strategy.dynamicStopMinBps (min strategy.dynamicStopMaxBps 0)
        else strategy.stopLossBps := by
  have hcalm : ∀ lookback, strategy.volatilityBps (some (List.replicate n 1)) lookback = 0 := by
    intro lookback
    simp only [volatilityBps, List.drop_replicate, pstdev, pvariance_standing, hsqrt, zero_div,
      zero_mul, ite_self]
  rw [dynamicStopLossBps, hcalm, zero_mul, pyMax_rat, pyMin_rat]

/-- A stop that does not come first leaves room below the minimum. -/
lemma stop_below (hsqrt : strategy.sqrt 0 = 0) (hfirst : ¬ StopsFirst strategy)
    (hnet : 0 < strategy.netProfitBps) (n : ℕ) :
    -strategy.dynamicStopLossBps (some (List.replicate n 1)) < strategy.netProfitBps := by
  rw [dynamicStopLossBps_standing hsqrt, neg_lt]
  by_cases henabled : strategy.dynamicStopEnabled = true
  · rw [if_pos henabled, lt_max_iff, lt_min_iff]
    by_contra hlow
    rw [not_or, not_and, not_lt] at hlow
    refine hfirst ⟨henabled, hlow.1, not_lt.mp fun hmost => hlow.2 hmost ?_⟩
    linarith
  · rw [if_neg henabled]
    have hstop := strategy.accepted.stopLoss
    linarith

/-- A position that earns this much at a price of 1. -/
def earning (symbol : String) (pnlBps : ℚ) : Position ℚ :=
  ⟨symbol, 1, 1 / (1 + pnlBps / 10000), 0, 0⟩

lemma earning_pnl (symbol : String) {pnlBps : ℚ} (hpnl : 0 ≤ pnlBps) :
    (earning symbol pnlBps).exitPnlBps 1 1 1 = pnlBps := by
  have hentry : (1 : ℚ) + pnlBps / 10000 ≠ 0 := by positivity
  rw [Position.exitPnlBps, if_pos (by exact one_pos), if_pos one_pos, earning]
  field_simp
  ring

/-- Between the required profit and the target the reverted price closes a position. -/
lemma exitReason_reverted {stopLossBps pnlBps age : ℚ} {reverted : Prop} [Decidable reverted]
    (htarget : pnlBps < strategy.feeAdjustedTakeProfitBps) (hstop : -stopLossBps < pnlBps)
    (hreverted : reverted) (hrequired : strategy.requiredMinProfitBps ≤ pnlBps) :
    strategy.exitReason stopLossBps pnlBps age reverted = some .meanReversionProfit := by
  rw [exitReason, if_neg (not_le.mpr htarget), if_neg (not_le.mpr hstop),
    if_pos ⟨hreverted, hrequired⟩]

/-- The ledger holds this position only. -/
def holdingOnly (position : Position ℚ) : PositionLedger ℚ :=
  { positions := Dict.empty.set position.symbol position, trades := [], realizedPnlTotal := 0 }

/-- The strategy exits although the minimum is not left. -/
lemma standing_exit {midHistory : Dict String (List ℚ)} {pnlBps : ℚ} {n : ℕ}
    (hsymbol : pyStrip symbol = symbol) (hnamed : symbol ≠ "") (hother : symbol ≠ strategy.btcSymbol)
    (hhistory : dequeAppend strategy.rollingWindow (midHistory.getD symbol []) 1 = List.replicate n 1)
    (hobserved : strategy.minObservations ≤ n)
    (hrequired : strategy.requiredMinProfitBps ≤ pnlBps)
    (htarget : pnlBps < strategy.feeAdjustedTakeProfitBps)
    (hstop : -strategy.dynamicStopLossBps (some (List.replicate n 1)) < pnlBps) :
    ∃ signal, ExitDue strategy (holdingOnly (earning symbol pnlBps)) untriggered (.still 0)
      { StrategyState.init with midHistory } (standingBook symbol) symbol 1 0 1 1
      (earning symbol pnlBps) signal .meanReversionProfit := by
  have hpnl : 0 ≤ pnlBps := strategy.requiredMinProfitBps_nonneg.trans hrequired
  have hentered : 0 < (earning symbol pnlBps).averageEntry := by
    rw [earning]
    positivity
  have hmin := strategy.accepted.observations
  have hexit := strategy.accepted.exit
  have hwith : strategy.historyWith { StrategyState.init with midHistory } symbol 1
      = List.replicate n 1 := by
    rw [historyWith, appendMid_history]
    exact hhistory
  have hscore : strategy.scoreOf { StrategyState.init with midHistory } symbol 1 = 0 := by
    rw [scoreOf, hwith]
    exact zscore_standing (by omega)
  have hwatching : (strategy.watching (.still 0) { StrategyState.init with midHistory } symbol
      1).midHistory.get? symbol = some (List.replicate n 1) := by
    rw [watching, appendMid, Dict.get?_set_self, ← hhistory]
  refine ⟨strategy.exitSignal .sell "long" symbol .meanReversionProfit 1 1 1 pnlBps 0, ⟨⟨rfl, hsymbol,
    hnamed, extractMidPrice_standing _ rfl, one_pos, ?_, ?_, rfl, rfl, rfl, fun h => hother h.1⟩,
    ?_, ?_, ?_⟩⟩
  · rw [hwith, List.length_replicate]
    exact hobserved
  · exact strategy.accepted.spread.le
  · rw [openPosition, PositionLedger.getPosition, holdingOnly]
    exact (congrArg _ (Dict.get?_set_self _ _ _)).trans (Option.filter_some_pos (by simp [earning]))
  · rw [isExitOnCooldown, isOnCooldown]
    exact ite_self _
  · have hreverted : -strategy.exitZscore ≤ 0 := by linarith
    have hearned := earning_pnl symbol hpnl
    rw [Position.exitPnlBps, if_pos (by exact one_pos), if_pos one_pos] at hearned
    simp only [buildExitSignal, if_neg (not_le.mpr hentered), hwatching, hscore]
    rw [if_pos (by exact one_pos), if_pos one_pos, ofRat_rat, hearned,
      exitReason_reverted htarget hstop hreverted hrequired]
    rfl

/-- There is a name under which the strategy trades. -/
lemma exists_traded (strategy : MeanReversionImbalanceStrategy ℚ) :
    ∃ symbol, pyStrip symbol = symbol ∧ symbol ≠ "" ∧ symbol ≠ strategy.btcSymbol := by
  by_cases hbtc : strategy.btcSymbol = "BTC/USDT"
  · exact ⟨"ETH/USDT", by decide +kernel, by decide, hbtc ▸ by decide⟩
  · exact ⟨"BTC/USDT", by decide +kernel, by decide, fun h => hbtc h.symm⟩

/-- Without cover for the cost, some run closes a position too early. -/
lemma profit_lost (hsqrt : strategy.sqrt 0 = 0)
    (hopen : ¬ (strategy.roundTripCostBps = 0
      ∨ strategy.minProfitAfterFeeBps ≤ strategy.profitBufferBps ∨ StopsFirst strategy)) :
    ∃ ledger now inputs, ¬ Machine.Along strategy.step (.init ledger now) (ProfitLeft strategy)
      inputs := by
  rw [← or_assoc, ← netProfitBps_le_required, not_or, not_le] at hopen
  obtain ⟨hrequired, hfirst⟩ := hopen
  have hnet : 0 < strategy.netProfitBps := strategy.requiredMinProfitBps_nonneg.trans_lt hrequired
  obtain ⟨symbol, hsymbol, hnamed, hother⟩ := exists_traded strategy
  have hwindow := strategy.accepted.observed
  -- the prices stand still for long enough
  set k := strategy.minObservations.toNat with hk
  set n := min (min k strategy.rollingWindow.toNat + 1) strategy.rollingWindow.toNat with hn
  -- between the required profit, the stop and what the minimum asks for there is room
  have hstop := stop_below hsqrt hfirst hnet n
  obtain ⟨pnlBps, hroom, hbelow⟩ := exists_between (max_lt hrequired hstop)
  rw [max_lt_iff] at hroom
  obtain ⟨midHistory, hrun, hhistory⟩ := run_standing strategy hsymbol hnamed
    (holdingOnly (earning symbol pnlBps)) k
  have hdeque : dequeAppend strategy.rollingWindow (midHistory.getD symbol []) 1
      = List.replicate n 1 := by
    rw [hhistory, dequeAppend_replicate]
  obtain ⟨signal, due⟩ := standing_exit hsymbol hnamed hother hdeque (by omega) hroom.1.le
    (hbelow.trans_le strategy.netProfitBps_le_target) hroom.2
  refine ⟨holdingOnly (earning symbol pnlBps), 0, List.replicate k (standingTick symbol)
    ++ [.book untriggered (.still 0) (.dict (standingBook symbol))], fun halong => ?_⟩
  obtain ⟨s', hstep, hsignals⟩ := ExitDue.emitted (s := { StrategyRun.init (holdingOnly (earning symbol
    pnlBps)) 0 with state := { StrategyState.init with midHistory } }) due
    (show Monotonic.Follows (0 : ℚ) (.still 0) by decide +kernel)
  obtain ⟨killSwitch, clock, items, position, bestBid, bestAsk, hinput, hheld, hbid, hask, hleft⟩ :=
    halong.last hrun s' _ hstep hsignals (Or.inr rfl)
  cases hinput
  rw [due.symbol_eq] at hheld
  cases due.held.symm.trans hheld
  cases due.bid_read.symm.trans hbid
  cases due.ask_read.symm.trans hask
  rw [due.mid_eq, earning_pnl symbol (strategy.requiredMinProfitBps_nonneg.trans hroom.1.le)] at hleft
  rw [netProfitBps] at hbelow
  linarith

end Standing

/-! ## When profits are profits after costs -/

/-- **A profit exit leaves the configured minimum after the cost of the round trip, in every run,
exactly when there is no cost, or the buffer is as large as the minimum, or the stop closes before
it.** -/
theorem profits_after_costs_iff (strategy : MeanReversionImbalanceStrategy ℚ)
    (hsqrt : strategy.sqrt 0 = 0) :
    (∀ ledger now inputs, Machine.Along strategy.step (.init ledger now) (ProfitLeft strategy) inputs)
      ↔ strategy.roundTripCostBps = 0
        ∨ strategy.minProfitAfterFeeBps ≤ strategy.profitBufferBps ∨ StopsFirst strategy := by
  constructor
  · intro halong
    by_contra hopen
    obtain ⟨ledger, now, inputs, hlost⟩ := profit_lost hsqrt hopen
    exact hlost (halong ledger now inputs)
  · intro hcovered ledger now inputs past input rest s _ _
    exact profitLeft_of_covered hcovered s input

/-- The low-capital strategy where a round trip costs 28 basis points and the buffer is 5. -/
def costly : MeanReversionImbalanceStrategy ℚ :=
  { lowCapitalStrategy with
    checked := lowCapitalStrategy_checked
    getenv := fun name =>
      if name = "AEGIS_STRATEGY_TAKER_FEE_BPS" then some "10"
      else if name = "AEGIS_STRATEGY_SLIPPAGE_BPS" then some "8"
      else if name = "AEGIS_STRATEGY_PROFIT_BUFFER_BPS" then some "5"
      else none }

/-- Its minimum of 22 is not always left. -/
theorem profits_after_costs_costly : ¬ ∀ ledger now inputs,
    Machine.Along costly.step (.init ledger now) (ProfitLeft costly) inputs := by
  intro halong
  rcases (profits_after_costs_iff costly rfl).mp halong with hcost | hbuffer | hfirst
  · exact absurd hcost (by decide +kernel)
  · exact absurd hbuffer (by decide +kernel)
  · exact absurd hfirst.enabled (by decide +kernel)

/-- A long position that earns 40 basis points at a bid of 100. -/
def dear : Position ℚ := ⟨"BTC/USDT", 1, 100 / (1 + 40 / 10000), 0, 0⟩

/-- It is closed with 12 basis points left after the cost. -/
theorem profit_too_small :
    (Machine.run costly.step (.init (holdingOnly dear) 0) (standing ++ [bookAt 0 100 0])).map
        StrategyRun.signals = some [⟨"BTC/USDT", .sell, some .meanReversionProfit, 0⟩]
      ∧ dear.exitPnlBps 100 100 100 - costly.roundTripCostBps = 12
      ∧ 12 < costly.minProfitAfterFeeBps :=
  ⟨by decide +kernel, by decide +kernel, by decide +kernel⟩

end MeanReversionImbalanceStrategy

end Aegis
