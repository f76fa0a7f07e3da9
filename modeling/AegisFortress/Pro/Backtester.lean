import AegisFortress.Pro.AegisConfig
import AegisFortress.Lib.History
import AegisFortress.Lib.WithNan
import Mathlib.Algebra.Order.Field.Rat
import Mathlib.Data.List.Basic

/-!
# The backtester

`backtest.py` bar by bar: the open position is checked against the bar, and without one the signal of
the bar may open a position at the next open.  What signals a bar is left open here; it is in
`FeatureEngine`.
-/

namespace Aegis.Pro

open WithNan

/-- A row of a price frame: the time at which the bar opens, in milliseconds, its prices and its
volume. -/
structure Bar where
  ts : ℤ
  o : ℚ
  h : ℚ
  l : ℚ
  c : ℚ
  v : ℚ
  deriving DecidableEq

/-- What a bar signals, with the average true range. -/
structure BarSignal where
  signal : String
  atr : WithNan ℚ

inductive ExitReason
  | stop
  | trailStop
  | timeStop
  | ended
  deriving DecidableEq

/-- The dictionary of an open position. -/
structure Position where
  entryPrice : ℚ
  qty : ℚ
  initialQty : ℚ
  stopLoss : ℚ
  tp1 : ℚ
  tp2 : ℚ
  atr : ℚ
  riskDollars : ℚ
  entryFee : ℚ
  tp1Taken : Bool
  tp2Taken : Bool
  trailActive : Bool
  entryBar : ℕ
  signalType : String

/-- An entry of `result.trades`. -/
structure BacktestTrade where
  i : ℕ
  symbol : Option String
  action : ExitReason
  price : Option ℚ
  pnl : ℚ
  r : Option ℚ

/-- `BacktestResult`. -/
structure BacktestResult where
  symbol : String
  totalTrades : ℕ := 0
  wins : ℕ := 0
  losses : ℕ := 0
  grossPnl : ℚ := 0
  netPnl : ℚ := 0
  totalFees : ℚ := 0
  sharpe : ℚ := 0
  sortino : ℚ := 0
  maxDrawdownPct : ℚ := 0
  profitFactor : ℚ := 0
  winRate : ℚ := 0
  avgWinR : ℚ := 0
  avgLossR : ℚ := 0
  expectancy : ℚ := 0
  trades : List BacktestTrade := []
  equityCurve : List ℚ := []

/-- `_sharpe` and `_sortino`, over the returns of the bars. -/
structure BacktestLib where
  sharpe : List ℚ → ℚ
  sortino : List ℚ → ℚ

namespace Backtester

/-- `TAKER_FEE`. -/
def takerFee : ℚ := 1 / 1000

/-- `SLIPPAGE`. -/
def slippage : ℚ := 1 / 2000

/-- The number that keeps `_check_exit` from a division by zero. -/
def guardEps : ℚ := 1 / 10 ^ 9

/-! ## Exits -/

section Exits

variable (eps : ℚ) (cfg : AegisConfig) (pos : Position) (bar : Bar)

/-- The first target: a part is sold, and the stop moves to the entry price. -/
def takeTp1 (high : ℚ) : Position :=
  if ¬ pos.tp1Taken ∧ pos.tp1 ≤ high then
    { pos with
      tp1Taken := true
      qty := pos.qty * (1 - cfg.atrTp1Frac)
      trailActive := true
      stopLoss := max pos.stopLoss pos.entryPrice }
  else pos

/-- The second target. -/
def takeTp2 (high : ℚ) : Position :=
  if pos.tp1Taken ∧ ¬ pos.tp2Taken ∧ pos.tp2 ≤ high then
    { pos with
      tp2Taken := true
      qty := pos.qty * (1 - cfg.atrTp2Frac / (1 - cfg.atrTp1Frac + eps)) }
  else pos

/-- The trailing stop. -/
def trail (high : ℚ) : Position :=
  if pos.trailActive then { pos with stopLoss := max pos.stopLoss (high - 2 * pos.atr) } else pos

/-- The position after the targets of a bar. -/
def managed (high : ℚ) : Position := trail (takeTp2 eps cfg (takeTp1 cfg pos high) high) high

/-- `_check_exit(pos, bar, bar_idx)`: the exit, if there is one, and what has become of the position. -/
def checkExit (barIdx : ℕ) : Option (ℚ × ExitReason) × Position :=
  if bar.l ≤ pos.stopLoss then (some (pos.stopLoss, .stop), pos)
  else
    let pos := managed eps cfg pos bar.h
    if pos.trailActive ∧ bar.l ≤ pos.stopLoss then (some (pos.stopLoss, .trailStop), pos)
    else if cfg.timeStopCandles ≤ (barIdx : ℤ) - pos.entryBar
        ∧ (bar.c - pos.entryPrice) * pos.qty ≤ 0 then
      (some (bar.c * (1 - slippage), .timeStop), pos)
    else (none, pos)

/-- What the targets and the trailing stop leave as it is. -/
structure SameEntry (before after : Position) : Prop where
  entryPrice : after.entryPrice = before.entryPrice
  entryFee : after.entryFee = before.entryFee
  entryBar : after.entryBar = before.entryBar
  atr : after.atr = before.atr
  tp1 : after.tp1 = before.tp1
  tp2 : after.tp2 = before.tp2

variable {eps cfg pos bar}

lemma SameEntry.trans {first second third : Position} (h : SameEntry first second)
    (h' : SameEntry second third) : SameEntry first third :=
  ⟨h'.entryPrice.trans h.entryPrice, h'.entryFee.trans h.entryFee, h'.entryBar.trans h.entryBar,
    h'.atr.trans h.atr, h'.tp1.trans h.tp1, h'.tp2.trans h.tp2⟩

lemma takeTp1_sameEntry (high : ℚ) : SameEntry pos (takeTp1 cfg pos high) := by
  rw [takeTp1]
  split_ifs <;> exact ⟨rfl, rfl, rfl, rfl, rfl, rfl⟩

lemma takeTp2_sameEntry (high : ℚ) : SameEntry pos (takeTp2 eps cfg pos high) := by
  rw [takeTp2]
  split_ifs <;> exact ⟨rfl, rfl, rfl, rfl, rfl, rfl⟩

lemma trail_sameEntry (high : ℚ) : SameEntry pos (trail pos high) := by
  rw [trail]
  split_ifs <;> exact ⟨rfl, rfl, rfl, rfl, rfl, rfl⟩

lemma managed_sameEntry (high : ℚ) : SameEntry pos (managed eps cfg pos high) :=
  ((takeTp1_sameEntry high).trans (takeTp2_sameEntry high)).trans (trail_sameEntry high)

lemma checkExit_stop {barIdx : ℕ} (h : bar.l ≤ pos.stopLoss) :
    checkExit eps cfg pos bar barIdx = (some (pos.stopLoss, .stop), pos) := if_pos h

lemma checkExit_snd {barIdx : ℕ} (h : ¬ bar.l ≤ pos.stopLoss) :
    (checkExit eps cfg pos bar barIdx).2 = managed eps cfg pos bar.h := by
  simp only [checkExit, if_neg h, apply_ite Prod.snd, ite_self]

/-- A bar that leaves the position open has stayed above its stop. -/
lemma checkExit_open {barIdx : ℕ} {pos' : Position}
    (h : checkExit eps cfg pos bar barIdx = (none, pos')) :
    pos.stopLoss < bar.l ∧ pos' = managed eps cfg pos bar.h := by
  rcases le_or_gt bar.l pos.stopLoss with hstop | hstop
  · rw [checkExit_stop hstop] at h
    cases h
  · rw [← checkExit_snd hstop.not_ge, h]
    exact ⟨hstop, rfl⟩

variable (pos)

/-- The price of the last sale: prices of stops are taken as they are. -/
def fillPrice (price : ℚ) : ExitReason → ℚ
  | .stop | .trailStop => price
  | .timeStop | .ended => price * (1 - slippage)

/-- `_close_position(pos, price, reason, equity)`: the new equity and the profit. -/
def closePosition (price : ℚ) (reason : ExitReason) (equity : ℚ) : ℚ × ℚ :=
  let fillPrice := fillPrice price reason
  let gross := (fillPrice - pos.entryPrice) * pos.qty
  let fee := fillPrice * pos.qty * takerFee
  let net := gross - fee - pos.entryFee
  (equity + net, net)

end Exits

/-! ## A run -/

/-- The variables of the loop of `run`. -/
structure RunState where
  result : BacktestResult
  equity : ℚ
  peakEquity : ℚ
  barReturns : List ℚ
  grossWins : ℚ
  grossLosses : ℚ
  position : Option Position

/-- The variables before the loop. -/
def RunState.init (symbol : String) (initialCapital : ℚ) : RunState where
  result := { symbol, equityCurve := [initialCapital] }
  equity := initialCapital
  peakEquity := initialCapital
  barReturns := []
  grossWins := 0
  grossLosses := 0
  position := none

/-- A bar of the loop with the one after it, and its index. -/
structure LoopBar where
  bar : Bar
  nextOpen : ℚ
  i : ℕ

/-- What `for i in range(warmup, len(df_15m) - 1)` goes through. -/
def loopBars (bars : List Bar) : List LoopBar :=
  (((bars.zip bars.tail).zipIdx).drop 210).map fun e => ⟨e.1.1, e.1.2.o, e.2⟩

lemma mem_loopBars {bars : List Bar} {now : LoopBar} (h : now ∈ loopBars bars) :
    now.bar ∈ bars ∧ ∃ bar ∈ bars, now.nextOpen = bar.o := by
  obtain ⟨⟨⟨bar, next⟩, i⟩, hmem, rfl⟩ := List.mem_map.mp h
  obtain ⟨hbar, hnext⟩ := List.of_mem_zip (List.fst_mem_of_mem_zipIdx (List.mem_of_mem_drop hmem))
  exact ⟨hbar, next, List.mem_of_mem_tail hnext, rfl⟩

section Run

variable (cfg : AegisConfig) (signals : ℕ → Option BarSignal) (bars : List Bar)

/-- A win or a loss, with its multiple of the risk where that is counted. -/
def countTrade (state : RunState) (pnl : ℚ) (r : Option ℚ) : RunState :=
  if 0 < pnl then
    { state with
      grossWins := state.grossWins + pnl
      result.wins := state.result.wins + 1
      result.avgWinR := state.result.avgWinR + r.getD 0 }
  else
    { state with
      grossLosses := state.grossLosses + |pnl|
      result.losses := state.result.losses + 1
      result.avgLossR := state.result.avgLossR + |r.getD 0| }

@[simp] lemma countTrade_equity (state : RunState) (pnl : ℚ) (r : Option ℚ) :
    (countTrade state pnl r).equity = state.equity := by
  rw [countTrade]
  split_ifs <;> rfl

/-- The open position is left at a price. -/
def leave (i : ℕ) (pos : Position) (price : ℚ) (reason : ExitReason) (state : RunState) : RunState :=
  let (equity, pnl) := closePosition pos price reason state.equity
  let r := pnl / max pos.riskDollars (1 / 10 ^ 6)
  let trade : BacktestTrade := ⟨i, some state.result.symbol, reason, some price, pnl, some r⟩
  let state := countTrade { state with equity } pnl (some r)
  let peakEquity := max state.peakEquity equity
  { state with
    peakEquity
    barReturns := state.barReturns ++ [pnl / max equity 1]
    result.totalTrades := state.result.totalTrades + 1
    result.trades := state.result.trades ++ [trade]
    result.maxDrawdownPct := max state.result.maxDrawdownPct ((peakEquity - equity) / peakEquity * 100)
    position := none }

/-- The open position against a bar. -/
def manage (now : LoopBar) (state : RunState) : RunState :=
  match state.position with
  | none => state
  | some pos =>
      match checkExit guardEps cfg pos now.bar now.i with
      | (none, pos) => { state with position := some pos }
      | (some (price, reason), pos) => leave now.i pos price reason state

/-- The position that a signal asks for at the next open. -/
def newPosition (signalType : String) (atr nextOpen : ℚ) (i : ℕ) (equity : ℚ) : Position :=
  let entryPrice := nextOpen * (1 + slippage)
  let stopDist := cfg.atrStopMult * atr
  let riskDollars := equity * cfg.baseRiskPerTrade
  let qty := if 0 < stopDist then riskDollars / stopDist else 0
  { entryPrice, qty, initialQty := qty, stopLoss := entryPrice - stopDist
    tp1 := entryPrice + cfg.atrTp1Mult * atr, tp2 := entryPrice + cfg.atrTp2Mult * atr
    atr, riskDollars, entryFee := qty * entryPrice * takerFee, tp1Taken := false, tp2Taken := false
    trailActive := false, entryBar := i, signalType }

/-- The position that a signal opens, unless it costs too much or too little. -/
def openPosition (signal : BarSignal) (nextOpen : ℚ) (i : ℕ) (equity : ℚ) : Option Position :=
  match signal.atr with
  -- the quantity is zero then, and that costs too little
  | nan => none
  | num atr =>
      let pos := newPosition cfg signal.signal atr nextOpen i equity
      let cost := pos.qty * pos.entryPrice
      if equity * (19 / 20) < cost ∨ cost < 10 then none else some pos

/-- The position that is opened after a bar. -/
def entryAt (n : ℕ) (now : LoopBar) (state : RunState) : Option Position :=
  if state.position.isNone ∧ now.i + 2 < n then
    (signals now.i).bind fun signal => openPosition cfg signal now.nextOpen now.i state.equity
  else none

section Entry

variable {cfg signals}

/-- An entry: no position is open, and the signal of the bar affords one. -/
lemma entryAt_some {n : ℕ} {now : LoopBar} {state : RunState} {pos : Position}
    (h : entryAt cfg signals n now state = some pos) : state.position = none ∧ now.i + 2 < n
      ∧ ∃ signal, signals now.i = some signal
        ∧ openPosition cfg signal now.nextOpen now.i state.equity = some pos := by
  rw [entryAt] at h
  split_ifs at h with hlook
  exact ⟨Option.isNone_iff_eq_none.mp hlook.1, hlook.2, Option.bind_eq_some_iff.mp h⟩

lemma openPosition_some {signal : BarSignal} {nextOpen : ℚ} {i : ℕ} {equity : ℚ} {pos : Position}
    (h : openPosition cfg signal nextOpen i equity = some pos) :
    ∃ atr, signal.atr = num atr ∧ pos = newPosition cfg signal.signal atr nextOpen i equity
      ∧ pos.qty * pos.entryPrice ≤ equity * (19 / 20) ∧ 10 ≤ pos.qty * pos.entryPrice := by
  rw [openPosition] at h
  split at h
  · cases h
  · next atr hatr =>
      simp only at h
      split_ifs at h with hcost
      obtain ⟨hmuch, hlittle⟩ := not_or.mp hcost
      cases h
      exact ⟨atr, hatr, rfl, not_lt.mp hmuch, not_lt.mp hlittle⟩

end Entry

/-- The look for an entry, and the equity curve: a bar that was looked at in vain adds nothing to it. -/
def enter (n : ℕ) (now : LoopBar) (state : RunState) : RunState :=
  match entryAt cfg signals n now state with
  | some pos =>
      let equity := state.equity - pos.entryFee
      { state with
        equity, position := some pos, result.equityCurve := state.result.equityCurve ++ [equity] }
  | none =>
      if state.position.isNone ∧ now.i + 2 < n then state
      else { state with result.equityCurve := state.result.equityCurve ++ [state.equity] }

/-- One turn of the loop. -/
def runBar (n : ℕ) (state : RunState) (now : LoopBar) : RunState :=
  enter cfg signals n now (manage cfg now state)

lemma enter_none {n : ℕ} {now : LoopBar} {state : RunState}
    (h : entryAt cfg signals n now state = none) :
    (enter cfg signals n now state).position = state.position
      ∧ (enter cfg signals n now state).equity = state.equity := by
  rw [enter, h]
  split_ifs <;> exact ⟨rfl, rfl⟩

/-- The position after a bar: the one before it, or a new one. -/
lemma runBar_position {n : ℕ} {state : RunState} {now : LoopBar} {pos' : Position}
    (h : (runBar cfg signals n state now).position = some pos') :
    (∃ pos, state.position = some pos ∧ checkExit guardEps cfg pos now.bar now.i = (none, pos'))
      ∨ ∃ equity signal, signals now.i = some signal
        ∧ openPosition cfg signal now.nextOpen now.i equity = some pos' := by
  rw [runBar] at h
  cases hentry : entryAt cfg signals n now (manage cfg now state) with
  | some pos =>
      rw [enter, hentry, Option.some.injEq] at h
      obtain ⟨-, -, signal, hsignal, hopen⟩ := entryAt_some hentry
      exact Or.inr ⟨_, signal, hsignal, h ▸ hopen⟩
  | none =>
      rw [(enter_none cfg signals hentry).1, manage] at h
      refine Or.inl ?_
      cases hpos : state.position with
      | none => simp [hpos] at h
      | some pos =>
          refine ⟨pos, rfl, ?_⟩
          cases hexit : checkExit guardEps cfg pos now.bar now.i with
          | mk exit after => cases exit <;> simp_all [leave]

/-- The bars of a loop, each with the variables that meet it. -/
def barsMet (symbol : String) (initialCapital : ℚ) : List (RunState × LoopBar) :=
  History.steps (runBar cfg signals bars.length) (.init symbol initialCapital) (loopBars bars)

/-- The loop. -/
def loop (symbol : String) (initialCapital : ℚ) : RunState :=
  (loopBars bars).foldl (runBar cfg signals bars.length) (.init symbol initialCapital)

/-- An open position is closed at the last price. -/
def forceClose (state : RunState) : RunState :=
  match state.position, bars.getLast? with
  | some pos, some last =>
      let (equity, pnl) := closePosition pos last.c .ended state.equity
      let state := countTrade { state with equity } pnl none
      { state with
        position := none
        result.totalTrades := state.result.totalTrades + 1
        result.trades := state.result.trades ++ [⟨bars.length - 1, none, .ended, none, pnl, none⟩] }
  | _, _ => state

/-- The statistics at the end of `run`. -/
def summarise (lib : BacktestLib) (initialCapital : ℚ) (state : RunState) : BacktestResult :=
  let result := state.result
  let netPnl := state.equity - initialCapital
  let grossPnl := state.grossWins - state.grossLosses
  let winRate := if 0 < result.totalTrades then (result.wins : ℚ) / result.totalTrades else result.winRate
  let avgWinR := if 0 < result.wins then result.avgWinR / result.wins else result.avgWinR
  let avgLossR := if 0 < result.losses then result.avgLossR / result.losses else result.avgLossR
  { result with
    netPnl, grossPnl, totalFees := grossPnl - netPnl, winRate, avgWinR, avgLossR
    expectancy :=
      if 0 < result.totalTrades then winRate * avgWinR - (1 - winRate) * avgLossR else result.expectancy
    profitFactor := state.grossWins / max state.grossLosses (1 / 10 ^ 10)
    sharpe := lib.sharpe state.barReturns
    sortino := lib.sortino state.barReturns }

/-- `run(df_15m, symbol, initial_capital, ...)`. -/
def run (lib : BacktestLib) (symbol : String) (initialCapital : ℚ) : BacktestResult :=
  if bars.length < 230 then { symbol, equityCurve := [initialCapital] }
  else
    summarise lib initialCapital (forceClose bars (loop cfg signals bars symbol initialCapital))

end Run

end Backtester

end Aegis.Pro
