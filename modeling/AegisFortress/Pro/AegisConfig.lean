import Mathlib.Data.Rat.Defs

/-!
# The configuration of the bot

`AegisConfig` of `config.py`: the parameters that the trading logic reads, with their defaults.
-/

namespace Aegis.Pro

/-- `AegisConfig`. -/
structure AegisConfig where
  mode : String := "PAPER"
  liveConfirm : String := ""
  watchlist : List String :=
    ["BTC/USDT", "ETH/USDT", "BNB/USDT", "SOL/USDT", "XRP/USDT", "ADA/USDT", "AVAX/USDT", "LINK/USDT",
      "MATIC/USDT", "DOT/USDT", "LTC/USDT", "ATOM/USDT", "NEAR/USDT", "UNI/USDT", "ALGO/USDT", "VET/USDT",
      "DOGE/USDT", "TRX/USDT", "SHIB/USDT", "FIL/USDT"]
  -- indicators
  atrPeriod : ℕ := 14
  adxPeriod : ℕ := 14
  rsiPeriod : ℕ := 14
  emaFast : ℕ := 12
  emaSlow : ℕ := 26
  bbPeriod : ℕ := 20
  bbStd : ℚ := 2
  macdSignal : ℕ := 9
  ichimokuTenkan : ℕ := 9
  ichimokuKijun : ℕ := 26
  ichimokuSenkouB : ℕ := 52
  -- thresholds
  adxThreshold : ℚ := 25
  rsiTrendBullMin : ℚ := 45
  rsiTrendBullMax : ℚ := 70
  rsiRangeBear : ℚ := 32
  volatilityCap : ℚ := 5 / 2
  mlProbThreshold : ℚ := 29 / 50
  fusedThreshold : ℚ := 13 / 20
  pairsZscoreThreshold : ℚ := 5 / 2
  -- multiples of the range, and the parts that are sold
  atrStopMult : ℚ := 2
  atrTp1Mult : ℚ := 3 / 2
  atrTp1Frac : ℚ := 2 / 5
  atrTp2Mult : ℚ := 5 / 2
  atrTp2Frac : ℚ := 2 / 5
  earlyTrailTrigger : ℚ := 1 / 2
  -- risk
  baseRiskPerTrade : ℚ := 1 / 100
  kellyFraction : ℚ := 1 / 4
  maxPortfolioHeat : ℚ := 3 / 10
  maxPosAllocation : ℚ := 3 / 25
  maxConcurrentTrades : ℤ := 6
  maxDailyTrades : ℤ := 10
  maxConsecutiveLosses : ℤ := 4
  maxDailyLossPct : ℚ := 5 / 2
  maxDrawdownPct : ℚ := 12
  drawdownLockHours : ℚ := 48
  -- execution
  simSlippage : ℚ := 1 / 500
  limitAdjustSecs : ℚ := 2
  limitCancelSecs : ℚ := 10
  maxSlippageBlacklist : ℚ := 1 / 500
  correlationUpdateSecs : ℚ := 3600
  mlRetrainIntervalSecs : ℚ := 86400 * 7
  timeStopCandles : ℤ := 3
  symbolCooldownSecs : ℚ := 300
  maxRestartsPerHour : ℤ := 3

end Aegis.Pro
