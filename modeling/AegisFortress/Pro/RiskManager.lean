import AegisFortress.Lib.Dict
import AegisFortress.Pro.AegisConfig
import AegisFortress.Python.Value
import Mathlib.Algebra.Order.Field.Rat

/-!
# The risk manager

`risk.py`: the record of a trade, the size of a new one, what is counted when one ends, and when trading is
halted.
-/

namespace Aegis.Pro

/-- `Trade`. -/
structure Trade where
  symbol : String
  entryPrice : ℚ
  qty : ℚ
  initialQty : ℚ
  stopLoss : ℚ
  tp1 : ℚ
  tp2 : ℚ
  atrEntry : ℚ
  currentAtr : ℚ
  riskDollars : ℚ
  entryFee : ℚ
  signalType : String
  entryTime : ℚ
  entryBarIndex : ℤ := 0
  tp1Taken : Bool := false
  tp2Taken : Bool := false
  trailActivated : Bool := false
  earlyTrail : Bool := false
  mode : String := "PAPER"

/-- `RiskManager`. -/
structure RiskManager where
  historicalPeak : ℚ := 0
  peakEquity : ℚ := 0
  dailyStartEquity : ℚ := 0
  weeklyStartEquity : ℚ := 0
  tradesToday : ℤ := 0
  wins : ℤ := 0
  losses : ℤ := 0
  consecutiveLosses : ℤ := 0
  dailyStopTriggered : Bool := false
  weeklyReduced : Bool := false
  drawdownLockedUntil : ℚ := 0
  pauseUntil : ℚ := 0
  breakerCount : ℤ := 0
  totalTrades : ℤ := 0
  totalWins : ℤ := 0
  totalLosses : ℤ := 0
  avgWinR : ℚ := 0
  avgLossR : ℚ := 0
  winRate : ℚ := 0
  expectancy : ℚ := 0
  slippageHistory : Dict String (List ℚ) := ∅
  blacklisted : Dict String ℚ := ∅
  barCounter : ℤ := 0

/-- What `calculate_position_size` returns. -/
structure Sizing where
  amount : ℚ
  stopPrice : ℚ
  tp1Price : ℚ
  tp2Price : ℚ
  riskDollars : ℚ

namespace RiskManager

variable (cfg : AegisConfig) (risk : RiskManager)

/-- `check_daily_loss(current_equity)`. -/
def checkDailyLoss (currentEquity : ℚ) : Bool × RiskManager :=
  if risk.dailyStopTriggered then (true, risk)
  else if risk.dailyStartEquity ≤ 0 then (false, risk)
  else
    let dailyLossPct := (risk.dailyStartEquity - currentEquity) / risk.dailyStartEquity * 100
    if cfg.maxDailyLossPct ≤ dailyLossPct then (true, { risk with dailyStopTriggered := true })
    else (false, risk)

/-- `check_historical_drawdown(current_equity)`. -/
def checkHistoricalDrawdown (now currentEquity : ℚ) : Bool × RiskManager :=
  if risk.historicalPeak ≤ 0 then (false, risk)
  else if now < risk.drawdownLockedUntil then (true, risk)
  else
    let ddPct := (risk.historicalPeak - currentEquity) / risk.historicalPeak * 100
    if cfg.maxDrawdownPct ≤ ddPct then
      (true, { risk with drawdownLockedUntil := now + cfg.drawdownLockHours * 3600 })
    else (false, risk)

/-- `is_trading_halted(current_equity)`, without the reason. -/
def isTradingHalted (now currentEquity : ℚ) : Bool × RiskManager :=
  let (locked, risk) := risk.checkHistoricalDrawdown cfg now currentEquity
  if locked then (true, risk)
  else
    let (stopped, risk) := risk.checkDailyLoss cfg currentEquity
    if stopped then (true, risk) else (decide (now < risk.pauseUntil), risk)

/-- `on_loss()`. -/
def onLoss (now : ℚ) : RiskManager :=
  let risk :=
    { risk with
      losses := risk.losses + 1
      totalLosses := risk.totalLosses + 1
      consecutiveLosses := risk.consecutiveLosses + 1 }
  if cfg.maxConsecutiveLosses ≤ risk.consecutiveLosses then
    let breakerCount := risk.breakerCount + 1
    { risk with
      breakerCount
      pauseUntil := now + (min (4 * breakerCount) 48 : ℤ) * 3600
      consecutiveLosses := 0 }
  else risk

/-- `on_win()`. -/
def onWin : RiskManager :=
  { risk with wins := risk.wins + 1, totalWins := risk.totalWins + 1, consecutiveLosses := 0 }

/-- `_get_dynamic_risk(equity)`. -/
def getDynamicRisk (equity : ℚ) : ℚ :=
  let base := cfg.baseRiskPerTrade
  if risk.historicalPeak ≤ 0 then base
  else
    let dd := (risk.historicalPeak - equity) / risk.historicalPeak
    if 7 / 100 < dd then base * (2 / 5)
    else if 5 / 100 < dd then base * (3 / 5)
    else if 3 / 100 < dd then base * (4 / 5)
    else base

/-- `_kelly(win_rate, avg_win_r, avg_loss_r)`. -/
def kelly (winRate avgWinR avgLossR : ℚ) : ℚ :=
  if avgLossR = 0 then 0
  else
    let b := avgWinR / avgLossR
    let kelly := (winRate * b - (1 - winRate)) / max b (1 / 10 ^ 10)
    max 0 (min (kelly * cfg.kellyFraction) (1 / 20))

/-- The part of the equity to risk. -/
def riskPct (equity mlProb corrMultiplier atrRel : ℚ) : ℚ :=
  let pct := risk.getDynamicRisk cfg equity
  let pct :=
    if 20 ≤ risk.totalTrades ∧ 0 < risk.avgLossR ∧ 0 < risk.avgWinR then
      min pct (kelly cfg risk.winRate risk.avgWinR risk.avgLossR)
    else pct
  let pct :=
    if mlProb < cfg.mlProbThreshold then pct * (1 / 2)
    else if 18 / 25 < mlProb then pct * (23 / 20)
    else pct
  let pct := if risk.weeklyReduced then pct * (1 / 2) else pct
  let pct := pct * corrMultiplier
  if 1 / 50 < atrRel then pct * (1 / 2) else pct

/-- `calculate_position_size(price, atr, equity, open_risk, ml_prob, corr_multiplier)`. -/
def calculatePositionSize (price atr equity openRisk mlProb corrMultiplier : ℚ) :
    Except PyError (Option Sizing) :=
  let stopDistance := cfg.atrStopMult * atr
  if stopDistance < price * (1 / 1000) then .ok none
  else if price = 0 then .error zeroDivisionError
  else
    let pct := risk.riskPct cfg equity mlProb corrMultiplier (atr / price)
    let liquidEquity := max 0 (equity - openRisk)
    let riskDollars := liquidEquity * pct
    let positionUnits := if 0 < stopDistance then riskDollars / stopDistance else 0
    let positionUsd := min (positionUnits * price) (liquidEquity * cfg.maxPosAllocation)
    if positionUsd < 10 then .ok none
    else
      let amount := positionUsd / price
      let newRisk := amount * stopDistance
      if liquidEquity * cfg.maxPortfolioHeat < openRisk + newRisk then .ok none
      else
        .ok (some
          { amount, stopPrice := price - stopDistance, tp1Price := price + cfg.atrTp1Mult * atr
            tp2Price := price + cfg.atrTp2Mult * atr, riskDollars := newRisk })

/-- `update_stats(pnl, r_multiple)`. -/
def updateStats (pnl rMultiple : ℚ) : RiskManager :=
  let risk := { risk with totalTrades := risk.totalTrades + 1 }
  let risk :=
    if 0 < pnl then
      { risk with
        avgWinR := risk.avgWinR + (rMultiple - risk.avgWinR) / (max risk.totalWins 1 : ℤ) }
    else
      { risk with
        avgLossR := risk.avgLossR + (|rMultiple| - risk.avgLossR) / (max risk.totalLosses 1 : ℤ) }
  if 0 < risk.totalTrades then
    let winRate := (risk.totalWins : ℚ) / risk.totalTrades
    { risk with winRate, expectancy := winRate * risk.avgWinR - (1 - winRate) * risk.avgLossR }
  else risk

/-- `record_slippage(symbol, expected, actual)`. -/
def recordSlippage (now : ℚ) (symbol : String) (expected actual : ℚ) : RiskManager :=
  let slipPct := |actual - expected| / max expected (1 / 10 ^ 10)
  let hist := risk.slippageHistory.getD symbol [] ++ [slipPct]
  let hist := if 20 < hist.length then hist.tail else hist
  let risk := { risk with slippageHistory := risk.slippageHistory.set symbol hist }
  if cfg.maxSlippageBlacklist < hist.sum / hist.length ∧ 5 ≤ hist.length then
    { risk with blacklisted := risk.blacklisted.set symbol (now + 86400) }
  else risk

/-- `is_blacklisted(symbol)`. -/
def isBlacklisted (now : ℚ) (symbol : String) : Bool × RiskManager :=
  if now < risk.blacklisted.getD symbol 0 then (true, risk)
  else (false, { risk with blacklisted := risk.blacklisted.erase symbol })

/-- `should_time_stop(trade)`. -/
def shouldTimeStop (trade : Trade) : Bool :=
  cfg.timeStopCandles ≤ risk.barCounter - trade.entryBarIndex

/-- `reset_daily(current_equity)`. -/
def resetDaily (currentEquity : ℚ) : RiskManager :=
  { risk with
    tradesToday := 0
    wins := 0
    losses := 0
    dailyStopTriggered := false
    dailyStartEquity := currentEquity
    barCounter := 0 }

/-- `reset_weekly(current_equity)`. -/
def resetWeekly (currentEquity : ℚ) : RiskManager :=
  { risk with weeklyStartEquity := currentEquity, weeklyReduced := false }

/-- `update_equity_peaks(equity)`. -/
def updateEquityPeaks (equity : ℚ) : RiskManager :=
  { risk with
    peakEquity := if risk.peakEquity < equity then equity else risk.peakEquity
    historicalPeak := if risk.historicalPeak < equity then equity else risk.historicalPeak }

end RiskManager

end Aegis.Pro
