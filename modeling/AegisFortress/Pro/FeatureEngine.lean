import AegisFortress.Pro.Backtester
import AegisFortress.Python.Pandas

/-!
# The feature engine

`FeatureEngine` of `market_data.py`: indicators over a frame of bars, and the row before the last with
what is carried over from the frames of one and four hours.  `validateSignalConditions` reads a signal off
that row.

Of the columns those are left out that the conditions do not read; they serve the models alone.
`addClassical_column` says that the columns do not look ahead within their own frame.
-/

namespace Aegis.Pro

open Causal Pandas WithNan

/-! ## Rows -/

/-- What a bar shows by its own frame. -/
structure BarFeatures where
  c : WithNan ℚ
  rsi : WithNan ℚ
  atr : WithNan ℚ
  atrRel : WithNan ℚ
  sma200 : WithNan ℚ
  bbUpper : WithNan ℚ
  bbLower : WithNan ℚ
  bbPct : WithNan ℚ
  emaFast : WithNan ℚ
  emaSlow : WithNan ℚ
  emaDiff : WithNan ℚ
  plusDi : WithNan ℚ
  minusDi : WithNan ℚ
  adx : WithNan ℚ
  volSpike : WithNan ℚ
  macdHist : WithNan ℚ
  closeVsIchimokuCloud : WithNan ℚ

/-- What is carried over from the higher time frames. -/
structure HtfCarry where
  rsi1h : WithNan ℚ
  adx1h : WithNan ℚ
  closeVsSma2004h : WithNan ℚ
  rsi4h : WithNan ℚ

/-- The row that the conditions read. -/
structure FeatureRow extends BarFeatures, HtfCarry

/-- One of the critical features is missing. -/
def BarFeatures.Incomplete (row : BarFeatures) : Prop :=
  ∃ x ∈ [row.rsi, row.adx, row.atrRel, row.c, row.bbUpper, row.bbLower, row.sma200, row.emaFast,
    row.emaSlow, row.plusDi, row.minusDi], x = nan

instance (row : BarFeatures) : Decidable row.Incomplete :=
  inferInstanceAs (Decidable (∃ x ∈ (_ : List _), _))

/-! ## Columns -/

/-- A column over the bars of a frame, in which no entry depends on a later bar. -/
structure BarColumn where
  entries : List Bar → List (WithNan ℚ)
  causal : Column entries

namespace BarColumn

variable (column : BarColumn)

/-- A column of the frame itself. -/
def ofBar (price : Bar → ℚ) : BarColumn := ⟨List.map fun bar => num (price bar), column_map _⟩

/-- A column computed entry by entry from two others. -/
def both (f : WithNan ℚ → WithNan ℚ → WithNan ℚ) (first second : BarColumn) : BarColumn :=
  ⟨fun bars => List.zipWith f (first.entries bars) (second.entries bars),
    first.causal.zipWith second.causal f⟩

/-- A column computed entry by entry from three others. -/
def three (f : WithNan ℚ → WithNan ℚ → WithNan ℚ → WithNan ℚ) (first second third : BarColumn) :
    BarColumn :=
  ⟨fun bars =>
      List.zipWith (fun g z => g z) (List.zipWith f (first.entries bars) (second.entries bars))
        (third.entries bars),
    (first.causal.zipWith second.causal f).zipWith third.causal _⟩

/-- A column computed from another one by an operation that does not look ahead. -/
def through {f : List (WithNan ℚ) → List (WithNan ℚ)} (hf : Column f) : BarColumn :=
  ⟨fun bars => f (column.entries bars), hf.comp column.causal⟩

def map (f : WithNan ℚ → WithNan ℚ) : BarColumn := column.through (column_map f)
def diff : BarColumn := column.through column_diff
def shift (n : ℕ) : BarColumn := column.through (column_shiftBy n)

def rolling (window minPeriods : ℕ) (f : List ℚ → ℚ) : BarColumn :=
  column.through (column_rollingMin window minPeriods f)

def rollingStd (sqrt : ℚ → ℚ) (window : ℕ) : BarColumn := column.through (column_rollingStd sqrt window)
def ewmSpan (span : ℕ) : BarColumn := column.through (column_ewmSpan span)

/-- Smoothing by Wilder, `ewm(alpha=1 / period, adjust=False).mean()`. -/
def wilder (period : ℕ) : BarColumn := column.through (column_ewmAlpha (1 / period))

instance : Add BarColumn := ⟨both (· + ·)⟩
instance : Sub BarColumn := ⟨both (· - ·)⟩
instance : Div BarColumn := ⟨both (· / ·)⟩

/-- `column.iloc[-2]`. -/
def row (bars : List Bar) : Except PyError (WithNan ℚ) := iloc 2 (column.entries bars)

lemma row_ok {bars : List Bar} (h : 2 ≤ bars.length) : ∃ x, column.row bars = .ok x := by
  have hlength : 1 < (column.entries bars).reverse.length := by
    rw [List.length_reverse, column.causal.length]
    exact h
  rw [row, iloc, fromEnd, List.getElem?_eq_getElem hlength]
  exact ⟨_, rfl⟩

end BarColumn

namespace FeatureEngine

variable (cfg : AegisConfig) (sqrt : ℚ → ℚ)

def high : BarColumn := .ofBar Bar.h
def low : BarColumn := .ofBar Bar.l
def close : BarColumn := .ofBar Bar.c
def volume : BarColumn := .ofBar Bar.v

/-- What stands for a zero that is divided by. -/
def tiny : WithNan ℚ := num (1 / 10 ^ 10)

/-! ### Classical indicators -/

/-- `gain`. -/
def gain : BarColumn := (close.diff.map (clip 0)).wilder cfg.rsiPeriod

/-- `loss`. -/
def loss : BarColumn := (close.diff.map fun delta => clip 0 (-delta)).wilder cfg.rsiPeriod

/-- `df["rsi"]`. -/
def rsi : BarColumn :=
  (gain cfg / (loss cfg).map (replaceZero tiny)).map fun rs => num 100 - num 100 / (num 1 + rs)

/-- `hc` or `lc`: how far a price is from the close before. -/
def fromClose (price : BarColumn) : BarColumn := (price - close.shift 1).map absolute

/-- `tr`. -/
def tr : BarColumn :=
  .three (fun hl hc lc => rowMax [hl, hc, lc]) (high - low) (fromClose high) (fromClose low)

/-- `df["atr"]`. -/
def atr : BarColumn := tr.wilder cfg.atrPeriod

/-- `df["atr_mean"]`. -/
def atrMean : BarColumn := (atr cfg).rolling 100 20 mean

/-- `df["atr_rel"]`. -/
def atrRel : BarColumn := atr cfg / (atrMean cfg).map (replaceZero nan)

/-- `df["sma200"]`. -/
def sma200 : BarColumn := close.rolling 200 50 mean

/-- `df["bb_mid"]`. -/
def bbMid : BarColumn := close.rolling cfg.bbPeriod cfg.bbPeriod mean

/-- `p.bb_std * bb_std`. -/
def bbDeviation : BarColumn := (close.rollingStd sqrt cfg.bbPeriod).map (num cfg.bbStd * ·)

/-- `df["bb_upper"]`. -/
def bbUpper : BarColumn := bbMid cfg + bbDeviation cfg sqrt

/-- `df["bb_lower"]`. -/
def bbLower : BarColumn := bbMid cfg - bbDeviation cfg sqrt

/-- `bb_width`. -/
def bbWidth : BarColumn := (bbUpper cfg sqrt - bbLower cfg sqrt).map (replaceZero nan)

/-- `df["bb_pct"]`. -/
def bbPct : BarColumn := (close - bbLower cfg sqrt) / bbWidth cfg sqrt

/-- `df["ema_fast"]`. -/
def emaFast : BarColumn := close.ewmSpan cfg.emaFast

/-- `df["ema_slow"]`. -/
def emaSlow : BarColumn := close.ewmSpan cfg.emaSlow

/-- `df["ema_diff"]`. -/
def emaDiff : BarColumn := (emaFast cfg - emaSlow cfg) / close.map (replaceZero nan)

/-- `high_diff`. -/
def highDiff : BarColumn := high.diff

/-- `low_diff`. -/
def lowDiff : BarColumn := low.diff.map (- ·)

/-- `plus_dm` of the two differences, or `minus_dm` of them the other way round. -/
def directional : BarColumn → BarColumn → BarColumn :=
  .both fun first second => if second < first ∧ num 0 < first then first else num 0

/-- `tr_smooth`. -/
def trSmooth : BarColumn := (tr.wilder cfg.adxPeriod).map (replaceZero tiny)

/-- `df["plus_di"]`. -/
def plusDi : BarColumn :=
  ((directional highDiff lowDiff).wilder cfg.adxPeriod / trSmooth cfg).map (num 100 * ·)

/-- `df["minus_di"]`. -/
def minusDi : BarColumn :=
  ((directional lowDiff highDiff).wilder cfg.adxPeriod / trSmooth cfg).map (num 100 * ·)

/-- `dx`. -/
def dx : BarColumn :=
  (plusDi cfg - minusDi cfg).map (fun diff => num 100 * absolute diff)
    / (plusDi cfg + minusDi cfg).map (replaceZero tiny)

/-- `df["adx"]`. -/
def adx : BarColumn := (dx cfg).wilder cfg.adxPeriod

/-- `df["volume_ratio"]`. -/
def volumeRatio : BarColumn := volume / (volume.rolling 20 5 mean).map (replaceZero nan)

/-- `df["vol_spike"]`. -/
def volSpike : BarColumn := volumeRatio.map fun ratio => if num 2 < ratio then num 1 else num 0

/-- `df["close_vs_sma200"]`. -/
def closeVsSma200 : BarColumn := (close / sma200.map (replaceZero nan)).map (· - num 1)

/-! ### MACD and the Ichimoku cloud -/

/-- `macd_line`. -/
def macdLine : BarColumn := close.ewmSpan cfg.emaFast - close.ewmSpan cfg.emaSlow

/-- `df["macd_hist"]`. -/
def macdHist : BarColumn := macdLine cfg - (macdLine cfg).ewmSpan cfg.macdSignal

/-- `donchian_mid(period)`. -/
def donchianMid (period : ℕ) : BarColumn :=
  (high.rolling period period maximum + low.rolling period period minimum).map (· / num 2)

/-- `senkou_a`. -/
def senkouA : BarColumn :=
  ((donchianMid cfg.ichimokuTenkan + donchianMid cfg.ichimokuKijun).map (· / num 2)).shift
    cfg.ichimokuKijun

/-- `senkou_b`. -/
def senkouB : BarColumn := (donchianMid cfg.ichimokuSenkouB).shift cfg.ichimokuKijun

/-- `cloud_top`. -/
def cloudTop : BarColumn := .both (fun a b => rowMax [a, b]) (senkouA cfg) (senkouB cfg)

/-- `cloud_bot`. -/
def cloudBot : BarColumn := .both (fun a b => rowMin [a, b]) (senkouA cfg) (senkouB cfg)

/-- `df["close_vs_ichimoku_cloud"]`. -/
def closeVsIchimokuCloud : BarColumn :=
  .three (fun close top bottom =>
      if top < close then num 1 else if close < bottom then num (-1) else num 0)
    close (cloudTop cfg) (cloudBot cfg)

/-! ## The row -/

/-- `df.iloc[-2]` of the frame's own columns. -/
def barFeatures (bars : List Bar) : Except PyError BarFeatures := do
  let c ← close.row bars
  let rsi ← (rsi cfg).row bars
  let atr ← (atr cfg).row bars
  let atrRel ← (atrRel cfg).row bars
  let sma200 ← sma200.row bars
  let bbUpper ← (bbUpper cfg sqrt).row bars
  let bbLower ← (bbLower cfg sqrt).row bars
  let bbPct ← (bbPct cfg sqrt).row bars
  let emaFast ← (emaFast cfg).row bars
  let emaSlow ← (emaSlow cfg).row bars
  let emaDiff ← (emaDiff cfg).row bars
  let plusDi ← (plusDi cfg).row bars
  let minusDi ← (minusDi cfg).row bars
  let adx ← (adx cfg).row bars
  let volSpike ← volSpike.row bars
  let macdHist ← (macdHist cfg).row bars
  let closeVsIchimokuCloud ← (closeVsIchimokuCloud cfg).row bars
  return { c, rsi, atr, atrRel, sma200, bbUpper, bbLower, bbPct, emaFast, emaSlow, emaDiff, plusDi, minusDi,
           adx, volSpike, macdHist, closeVsIchimokuCloud }

/-- `_add_htf_carry(df, df_1h, df_4h)`, for one column of one frame: its row before the last, whenever
the bar of that row is. -/
def carried (column : BarColumn) (frame : Option (List Bar)) : Except PyError (WithNan ℚ) :=
  match frame with
  | some bars => if 30 ≤ bars.length then column.row bars else .ok nan
  | none => .ok nan

/-- `_add_htf_carry(df, df_1h, df_4h)`. -/
def addHtfCarry (df1h df4h : Option (List Bar)) : Except PyError HtfCarry := do
  let rsi1h ← carried (rsi cfg) df1h
  let adx1h ← carried (adx cfg) df1h
  let closeVsSma2004h ← carried closeVsSma200 df4h
  let rsi4h ← carried (rsi cfg) df4h
  return { rsi1h, adx1h, closeVsSma2004h, rsi4h }

/-- `compute(df_15m, df_1h, df_4h)`. -/
def compute (df15m : List Bar) (df1h df4h : Option (List Bar)) : Except PyError (Option FeatureRow) := do
  if df15m.length < 60 then return none
  let row ← barFeatures cfg sqrt df15m
  let carry ← addHtfCarry cfg df1h df4h
  if row.Incomplete then return none
  return some { row with toHtfCarry := carry }

end FeatureEngine

/-! ## Signals -/

/-- `adx_1h_ok`. -/
def Adx1hOk (cfg : AegisConfig) (adx1h : WithNan ℚ) : Prop :=
  adx1h = nan ∨ num (cfg.adxThreshold * (4 / 5)) < adx1h

/-- `rsi_1h_ok`. -/
def Rsi1hOk (rsi1h : WithNan ℚ) : Prop := rsi1h = nan ∨ rsi1h < num 40

instance (cfg : AegisConfig) (adx1h : WithNan ℚ) : Decidable (Adx1hOk cfg adx1h) :=
  inferInstanceAs (Decidable (_ ∨ _))
instance (rsi1h : WithNan ℚ) : Decidable (Rsi1hOk rsi1h) := inferInstanceAs (Decidable (_ ∨ _))

namespace BarFeatures

variable (row : BarFeatures) (cfg : AegisConfig)

/-- The conditions of a trend signal, up to that of the hour. -/
def TrendSetup : Prop :=
  (num cfg.adxThreshold < row.adx ∧ row.minusDi < row.plusDi)
    ∧ (num cfg.rsiTrendBullMin ≤ row.rsi ∧ row.rsi ≤ num cfg.rsiTrendBullMax)
    ∧ row.sma200 < row.c ∧ num 0 < row.emaDiff ∧ num 0 < row.macdHist
    ∧ (row.closeVsIchimokuCloud = nan ∨ num 0 ≤ row.closeVsIchimokuCloud)

/-- The conditions of a range signal, up to that of the hour. -/
def RangeSetup : Prop :=
  row.adx < num 22 ∧ row.rsi < num cfg.rsiRangeBear ∧ row.bbPct < num (1 / 10)

/-- `breakout`. -/
def Breakout : Prop :=
  num 0 < row.volSpike ∧ num (19 / 20) < row.bbPct ∧ num 30 < row.adx ∧ num 0 < row.macdHist

/-- The volatility cap and the filter by the trend of BTC let a signal through. -/
def Tradable (btcBullish : Bool) (symbol : String) : Prop :=
  ¬ num cfg.volatilityCap < row.atrRel ∧ ¬ (symbol ≠ "BTC/USDT" ∧ ¬ btcBullish)

instance : Decidable (row.TrendSetup cfg) := inferInstanceAs (Decidable (_ ∧ _))
instance : Decidable (row.RangeSetup cfg) := inferInstanceAs (Decidable (_ ∧ _))
instance : Decidable row.Breakout := inferInstanceAs (Decidable (_ ∧ _))
instance (btcBullish : Bool) (symbol : String) : Decidable (row.Tradable cfg btcBullish symbol) :=
  inferInstanceAs (Decidable (_ ∧ _))

end BarFeatures

namespace FeatureRow

variable (row : FeatureRow) (cfg : AegisConfig)

/-- `validate_signal_conditions(row, cfg, btc_bullish, symbol)`. -/
def validateSignalConditions (btcBullish : Bool) (symbol : String) : Option String :=
  if ¬ row.Tradable cfg btcBullish symbol then none
  else if row.TrendSetup cfg ∧ Adx1hOk cfg row.adx1h then some "TREND"
  else if row.RangeSetup cfg ∧ Rsi1hOk row.rsi1h then some "RANGE"
  else if row.Breakout then some "BREAKOUT"
  else none

end FeatureRow

/-! ## No exceptions -/

namespace FeatureEngine

variable {cfg : AegisConfig} {sqrt : ℚ → ℚ}

lemma carried_ok (column : BarColumn) (frame : Option (List Bar)) :
    ∃ x, carried column frame = .ok x := by
  cases frame with
  | none => exact ⟨nan, rfl⟩
  | some bars =>
      rw [carried.eq_def]
      simp only
      split_ifs with hlong
      · exact column.row_ok (by omega)
      · exact ⟨nan, rfl⟩

lemma barFeatures_ok {bars : List Bar} (h : 2 ≤ bars.length) :
    ∃ row, barFeatures cfg sqrt bars = .ok row := by
  have hrow : ∀ column : BarColumn, ∃ x, column.row bars = .ok x := fun column => column.row_ok h
  choose entry hentry using hrow
  simp only [barFeatures, hentry]
  exact ⟨_, rfl⟩

lemma addHtfCarry_ok (df1h df4h : Option (List Bar)) :
    ∃ carry, addHtfCarry cfg df1h df4h = .ok carry := by
  choose entry hentry using carried_ok
  simp only [addHtfCarry, hentry]
  exact ⟨_, rfl⟩

/-- What is carried over of the frame of an hour. -/
lemma carried_of_addHtfCarry {df1h df4h : Option (List Bar)} {carry : HtfCarry}
    (h : addHtfCarry cfg df1h df4h = .ok carry) :
    carried (adx cfg) df1h = .ok carry.adx1h ∧ carried (rsi cfg) df1h = .ok carry.rsi1h := by
  choose entry hentry using carried_ok
  simp only [addHtfCarry, hentry, bind, Except.bind, pure, Except.pure] at h
  cases h
  exact ⟨hentry _ _, hentry _ _⟩

variable (cfg sqrt) in
/-- **The row** joins the features of the bar, when none of the critical ones is missing, and what is
carried over. -/
lemma compute_eq {df15m : List Bar} (hlong : 60 ≤ df15m.length) (df1h df4h : Option (List Bar)) :
    ∃ own carry, barFeatures cfg sqrt df15m = .ok own ∧ addHtfCarry cfg df1h df4h = .ok carry
      ∧ compute cfg sqrt df15m df1h df4h
        = .ok (if own.Incomplete then none else some { own with toHtfCarry := carry }) := by
  obtain ⟨own, hown⟩ : ∃ own, barFeatures cfg sqrt df15m = .ok own := barFeatures_ok (by omega)
  obtain ⟨carry, hcarry⟩ : ∃ carry, addHtfCarry cfg df1h df4h = .ok carry := addHtfCarry_ok _ _
  refine ⟨own, carry, hown, hcarry, ?_⟩
  simp only [compute, if_neg hlong.not_gt, hown, hcarry, bind, Except.bind, pure, Except.pure]
  split_ifs <;> rfl

end FeatureEngine

end Aegis.Pro
