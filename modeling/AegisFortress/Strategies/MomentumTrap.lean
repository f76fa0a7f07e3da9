import AegisFortress.Feeds.MarketDataNormalizer
import AegisFortress.Python.Pandas
import AegisFortress.Runtime.MomentumTrapService

/-!
# The momentum trap analyzer

`strategies/momentum_trap.py`.  `analyze` puts the candles of a symbol into a frame, drops those with a
cell that is no number, and computes ten columns over the rest; it decides by the row before the last,
the last candle being still in the making.

The columns are what pandas documents, in exact arithmetic: a window has a value only when it is full of
numbers, an `ewm` without adjustment is a recursion from its first entry.  A candle has six cells, and a
timestamp that is not a number is `None`.

`analyze_ignores_last`: as long as the last candle is numeric, what it says makes no difference to the
decision, its metrics included.
-/

namespace Aegis

open Causal WithNan

/-! ## Candles -/

/-- A candle as the exchange sends it. -/
structure Candle (α : Type) where
  timestamp : PyVal α
  openPrice : PyVal α
  high : PyVal α
  low : PyVal α
  close : PyVal α
  volume : PyVal α

/-- A candle whose prices and volume are numbers. -/
structure CandleRow (α : Type) where
  timestamp : PyVal α
  openPrice : α
  high : α
  low : α
  close : α
  volume : α

/-- A candle that `dropna` keeps. -/
def Candle.row? {α : Type} (pandas : PandasLib α) (candle : Candle α) : Option (CandleRow α) :=
  match pandas.toNumeric candle.openPrice, pandas.toNumeric candle.high,
    pandas.toNumeric candle.low, pandas.toNumeric candle.close, pandas.toNumeric candle.volume with
  | num openPrice, num high, num low, num close, num volume =>
      some ⟨candle.timestamp, openPrice, high, low, close, volume⟩
  | _, _, _, _, _ => none

section Definitions

variable {α : Type} [Add α] [Sub α] [Mul α] [Div α] [Neg α] [Zero α] [One α] [LT α] [LE α]
  [DecidableLT α] [DecidableLE α] [DecidableEq α] [PyFloat α]

/-- `MomentumTrapConfig`; windows and spans are not negative. -/
structure MomentumTrapConfig (α : Type) [PyFloat α] where
  supportWindow : ℕ := 20
  volumeWindow : ℕ := 20
  minVolumeMultiplier : α := PyFloat.ofRat (3 / 2)
  minWickBodyRatio : α := PyFloat.ofRat (6 / 5)
  emaFast : ℕ := 7
  emaSlow : ℕ := 25
  rsiPeriod : ℕ := 6
  rsiMin : α := PyFloat.ofRat 45
  rsiMax : α := PyFloat.ofRat 68
  macdFast : ℕ := 12
  macdSlow : ℕ := 26
  macdSignal : ℕ := 9
  bollingerWindow : ℕ := 20
  bollingerStd : α := PyFloat.ofRat 2
  pullbackToleranceBps : α := PyFloat.ofRat 85
  minClosedCandles : ℕ := 35

/-! ## Columns -/

open Pandas

namespace MomentumTrapConfig

variable (config : MomentumTrapConfig α) (pandas : PandasLib α) (rows : List (CandleRow α))

def closes : List α := rows.map CandleRow.close

/-- `df["support"]`. -/
def support : List (WithNan α) :=
  shift nan (rollingNumbers config.supportWindow minimum (rows.map fun row => num row.low))

/-- `df["avg_volume"]`. -/
def avgVolume : List (WithNan α) :=
  shift nan (rollingNumbers config.volumeWindow Pandas.mean (rows.map fun row => num row.volume))

/-- `df["macd"]`. -/
def macd : List α :=
  List.zipWith (· - ·) (ewm config.macdFast (closes rows)) (ewm config.macdSlow (closes rows))

/-- `df["bb_mid"]`. -/
def bbMid : List (WithNan α) :=
  rollingNumbers config.bollingerWindow Pandas.mean ((closes rows).map num)

/-- `df["bb_std"]`. -/
def bbStd : List (WithNan α) :=
  rollingNumbers config.bollingerWindow (populationStd pandas) ((closes rows).map num)

/-- `df["bb_upper"]`. -/
def bbUpper : List (WithNan α) :=
  List.zipWith (fun mid std => mid + num config.bollingerStd * std) (config.bbMid rows)
    (config.bbStd pandas rows)

/-- `df["close"].diff()`. -/
def delta : List (WithNan α) :=
  List.zipWith (fun close previous => num close - previous) (closes rows)
    (shift nan ((closes rows).map num))

/-- `delta.clip(lower=0)`. -/
def clipLower : WithNan α → WithNan α
  | nan => nan
  | num x => num (if x < 0 then 0 else x)

/-- `delta.clip(upper=0)`. -/
def clipUpper : WithNan α → WithNan α
  | nan => nan
  | num x => num (if 0 < x then 0 else x)

def gain : List (WithNan α) :=
  rollingNumbers config.rsiPeriod Pandas.mean ((delta rows).map clipLower)

/-- `loss`, with its zeros masked. -/
def loss : List (WithNan α) :=
  (rollingNumbers config.rsiPeriod Pandas.mean ((delta rows).map fun d => -clipUpper d)).map
    fun x => if x = num 0 then nan else x

/-- `df["rsi"]`. -/
def rsi : List α :=
  (List.zipWith (· / ·) (config.gain rows) (config.loss rows)).map fun rs =>
    match num (PyFloat.ofRat 100) - num (PyFloat.ofRat 100) / (num 1 + rs) with
    | num x => x
    | nan => PyFloat.ofRat 50

end MomentumTrapConfig

/-- A row of the frame, its columns included. -/
structure FrameRow (α : Type) where
  candle : CandleRow α
  support : WithNan α
  avgVolume : WithNan α
  emaFast : α
  emaSlow : α
  macd : α
  macdSignal : α
  bbMid : WithNan α
  bbUpper : WithNan α
  rsi : α

/-- `df.iloc[-n]`. -/
def frameRow (config : MomentumTrapConfig α) (pandas : PandasLib α) (rows : List (CandleRow α))
    (n : ℕ) : Except PyError (FrameRow α) := do
  let candle ← iloc n rows
  let support ← iloc n (config.support rows)
  let avgVolume ← iloc n (config.avgVolume rows)
  let emaFast ← iloc n (ewm config.emaFast (MomentumTrapConfig.closes rows))
  let emaSlow ← iloc n (ewm config.emaSlow (MomentumTrapConfig.closes rows))
  let macd ← iloc n (config.macd rows)
  let macdSignal ← iloc n (ewm config.macdSignal (config.macd rows))
  let bbMid ← iloc n (config.bbMid rows)
  let bbUpper ← iloc n (config.bbUpper pandas rows)
  let rsi ← iloc n (config.rsi rows)
  return { candle, support, avgVolume, emaFast, emaSlow, macd, macdSignal, bbMid, bbUpper, rsi }

/-! ## The decision -/

/-- A metric of a decision: a number, or a flag. -/
inductive TrapMetric (α : Type)
  | float (x : WithNan α)
  | flag (b : Bool)

/-- `MomentumTrapDecision` with all its fields. -/
structure MomentumTrapAnalysis (α : Type) where
  symbol : String
  decision : MomentumTrapDecision α
  metrics : List (String × TrapMetric α)

/-- `_within_bps(price, reference, tolerance_bps)`. -/
def withinBps (price reference toleranceBps : α) : Bool :=
  if price ≤ 0 ∨ reference ≤ 0 then false
  else pyAbs (price - reference) / reference * PyFloat.ofRat 10000 ≤ toleranceBps

/-- A decision not to buy for want of candles. -/
def notEnough (symbol reason metric : String) (count : ℕ) : MomentumTrapAnalysis α where
  symbol := symbol
  decision := { shouldBuy := false, reason, confidence := 0, referencePrice := 0 }
  metrics := [(metric, .float (num (PyFloat.ofRat count)))]

/-- The timestamp in the signal key; zero when there is none. -/
def keyTimestamp (lib : StdLib α) (timestamp : PyVal α) : Except PyError ℤ :=
  match timestamp with
  | .none => .ok 0
  | timestamp => do
      let seconds ← timestamp.toFloat
      lib.intOfFloat seconds

/-- What a condition adds to the confidence. -/
def bonus (condition : Bool) (x : ℚ) : α := if condition then PyFloat.ofRat x else 0

/-- The confidence in a purchase. -/
def buyConfidence (trapCore volumeSpike macdBullish : Bool) (rsi : α) : α :=
  pyMin 1 (PyFloat.ofRat (11 / 20) + bonus trapCore (1 / 5) + bonus volumeSpike (2 / 25)
    + bonus macdBullish (7 / 100)
    + bonus (PyFloat.ofRat 50 ≤ rsi ∧ rsi ≤ PyFloat.ofRat 62) (1 / 20))

/-- `analyze` from the completed candle and the one before it. -/
def decideBy (config : MomentumTrapConfig α) (lib : StdLib α) (symbol : String)
    (row previous : FrameRow α) : Except PyError (MomentumTrapAnalysis α) := do
  let candle := row.candle
  let timestamp ← keyTimestamp lib candle.timestamp
  let signalKey := s!"momentum_trap:{symbol}:{timestamp}"
  let close := candle.close
  let bodySize := pyAbs (close - candle.openPrice)
  let lowerWick := pyMin candle.openPrice close - candle.low
  let supportBroken : Bool := 0 < row.support ∧ num candle.low < row.support
  let supportReclaimed : Bool := 0 < row.support ∧ row.support < num close
  let volumeSpike : Bool := 0 < row.avgVolume
    ∧ row.avgVolume * num config.minVolumeMultiplier ≤ num candle.volume
  let wickRejection : Bool :=
    pyMax bodySize (close * PyFloat.ofRat (1 / 10000)) * config.minWickBodyRatio < lowerWick
  let emaBullish : Bool := row.emaSlow < row.emaFast
  let macdBullish : Bool := row.macdSignal < row.macd
  let rsiOk : Bool := config.rsiMin ≤ row.rsi ∧ row.rsi ≤ config.rsiMax
  let notExtended : Bool := row.bbUpper ≤ 0 ∨ num close ≤ row.bbUpper
  let trapCore := supportBroken && supportReclaimed && volumeSpike && wickRejection
  let nearEmaSlow := withinBps close row.emaSlow config.pullbackToleranceBps
  let nearBbMid := match row.bbMid with
    | nan => false
    | num mid => 0 < mid && withinBps close mid config.pullbackToleranceBps
  let higherClose : Bool := previous.candle.close < close
  let pullbackReclaim := (nearEmaSlow || nearBbMid) && higherClose
  let trendConfirmed := emaBullish && macdBullish && rsiOk && notExtended
  let shouldBuy := trendConfirmed && (trapCore || pullbackReclaim)
  let reason :=
    if shouldBuy then if trapCore then "trap_reclaim" else "bullish_pullback_reclaim"
    else if trapCore && !trendConfirmed then "trap_without_trend_confirmation"
    else if !trapCore && !pullbackReclaim then "no_entry_pattern"
    else "trend_filters_failed"
  let confidence := if shouldBuy then buyConfidence trapCore volumeSpike macdBullish row.rsi else 0
  return {
    symbol
    decision := { shouldBuy, reason, signalKey := some signalKey, confidence, referencePrice := close }
    metrics := [("close", .float (num close)), ("support", .float row.support),
      ("volume", .float (num candle.volume)), ("avg_volume", .float row.avgVolume),
      ("volume_spike", .flag volumeSpike), ("lower_wick", .float (num lowerWick)),
      ("body_size", .float (num bodySize)), ("support_broken", .flag supportBroken),
      ("support_reclaimed", .flag supportReclaimed), ("wick_rejection", .flag wickRejection),
      ("ema_fast", .float (num row.emaFast)), ("ema_slow", .float (num row.emaSlow)),
      ("ema_bullish", .flag emaBullish), ("rsi", .float (num row.rsi)), ("rsi_ok", .flag rsiOk),
      ("macd", .float (num row.macd)), ("macd_signal", .float (num row.macdSignal)),
      ("macd_bullish", .flag macdBullish), ("bb_mid", .float row.bbMid),
      ("bb_upper", .float row.bbUpper), ("not_extended", .flag notExtended),
      ("trap_core", .flag trapCore), ("pullback_reclaim", .flag pullbackReclaim)] }

/-- `MomentumTrapAnalyzer(config).analyze(symbol, ohlcv)`. -/
def analyze (config : MomentumTrapConfig α) (lib : StdLib α) (pandas : PandasLib α)
    (symbol : String) (ohlcv : List (Candle α)) : Except PyError (MomentumTrapAnalysis α) :=
  if ohlcv.length < config.minClosedCandles then
    .ok (notEnough symbol "not_enough_candles" "candles" ohlcv.length)
  else
    let rows := ohlcv.filterMap (Candle.row? pandas)
    if rows.length < config.minClosedCandles then
      .ok (notEnough symbol "not_enough_valid_candles" "valid_candles" rows.length)
    else do
      let candle ← frameRow config pandas rows 2
      let previous ← frameRow config pandas rows 3
      decideBy config lib symbol candle previous

end Definitions

/-! ## The columns do not look ahead -/

section Columns

open Pandas MomentumTrapConfig

variable {α : Type}

lemma column_closes : Column (closes (α := α)) := column_map CandleRow.close

lemma column_delta [Sub α] : Column (delta (α := α)) :=
  column_closes.zipWith ((column_shift nan).comp (column_closes.map num)) _

/-- A numeric candle at the end is the last row of the frame. -/
lemma rows_snoc (pandas : PandasLib α) {candle : Candle α}
    (hnumeric : (candle.row? pandas).isSome) (completed : List (Candle α)) :
    ∃ row, (completed ++ [candle]).filterMap (Candle.row? pandas)
      = completed.filterMap (Candle.row? pandas) ++ [row] := by
  obtain ⟨row, hrow⟩ := Option.isSome_iff_exists.mp hnumeric
  refine ⟨row, ?_⟩
  rw [List.filterMap_append, List.filterMap_cons, hrow, List.filterMap_nil]

variable [PyFloat α] (config : MomentumTrapConfig α) (pandas : PandasLib α)

lemma column_macd [Add α] [Sub α] [Mul α] [One α] : Column config.macd :=
  ((column_ewm config.macdFast).comp column_closes).zipWith
    ((column_ewm config.macdSlow).comp column_closes) (· - ·)

lemma column_support [Zero α] [LT α] [DecidableLT α] : Column config.support :=
  (column_shift nan).comp ((column_rollingNumbers config.supportWindow minimum).comp
    (column_map fun row : CandleRow α => num row.low))

variable [Add α] [Div α] [Zero α]

lemma column_avgVolume : Column config.avgVolume :=
  (column_shift nan).comp ((column_rollingNumbers config.volumeWindow Pandas.mean).comp
    (column_map fun row : CandleRow α => num row.volume))

lemma column_bbMid : Column config.bbMid :=
  (column_rollingNumbers config.bollingerWindow Pandas.mean).comp (column_closes.map num)

variable [Sub α]

lemma column_bbUpper [Mul α] : Column (config.bbUpper pandas) :=
  (column_bbMid config).zipWith
    ((column_rollingNumbers config.bollingerWindow (populationStd pandas)).comp
      (column_closes.map num)) _

variable [Neg α] [One α] [LT α] [DecidableLT α] [DecidableEq α]

lemma column_rsi : Column config.rsi := by
  have hgain : Column config.gain :=
    (column_rollingNumbers config.rsiPeriod Pandas.mean).comp (column_delta.map clipLower)
  have hloss : Column config.loss :=
    ((column_rollingNumbers config.rsiPeriod Pandas.mean).comp
      (column_delta.map fun d => -clipUpper d)).map _
  exact (hgain.zipWith hloss (· / ·)).map _

variable [Mul α]

/-- **One row of the frame**, past the last. -/
lemma frameRow_eq (rows : List (CandleRow α)) (last last' : CandleRow α) (n : ℕ) :
    frameRow config pandas (rows ++ [last]) (n + 2)
      = frameRow config pandas (rows ++ [last']) (n + 2) := by
  have hclose : ∀ span, Column fun rows : List (CandleRow α) => ewm span (closes rows) :=
    fun span => (column_ewm span).comp column_closes
  have hsignal : Column fun rows => ewm config.macdSignal (config.macd rows) :=
    (column_ewm config.macdSignal).comp (column_macd config)
  rw [frameRow, frameRow, iloc_eq column_id rows last last' n,
    iloc_eq (column_support config) rows last last' n,
    iloc_eq (column_avgVolume config) rows last last' n,
    iloc_eq (hclose config.emaFast) rows last last' n,
    iloc_eq (hclose config.emaSlow) rows last last' n,
    iloc_eq (column_macd config) rows last last' n, iloc_eq hsignal rows last last' n,
    iloc_eq (column_bbMid config) rows last last' n,
    iloc_eq (column_bbUpper config pandas) rows last last' n,
    iloc_eq (column_rsi config) rows last last' n]

variable [LE α] [DecidableLE α]

/-- **No look-ahead.**  Whatever candles have been completed, and whatever numbers stand in the one that
is still forming, the analysis is the same. -/
theorem analyze_ignores_last (lib : StdLib α) (symbol : String) (completed : List (Candle α))
    (forming forming' : Candle α) (hforming : (forming.row? pandas).isSome)
    (hforming' : (forming'.row? pandas).isSome) :
    analyze config lib pandas symbol (completed ++ [forming])
      = analyze config lib pandas symbol (completed ++ [forming']) := by
  obtain ⟨row, hrow⟩ := rows_snoc pandas hforming completed
  obtain ⟨row', hrow'⟩ := rows_snoc pandas hforming' completed
  simp only [analyze, hrow, hrow', List.length_append, List.length_singleton,
    frameRow_eq config pandas (completed.filterMap (Candle.row? pandas)) row row' 0,
    frameRow_eq config pandas (completed.filterMap (Candle.row? pandas)) row row' 1]

end Columns

/-- Numbers are read as they are; the square root of a square. -/
def demoPandas : PandasLib ℚ where
  toNumeric cell := match cell.number? with
    | some x => num x
    | none => nan
  sqrt x := Nat.sqrt x.num.toNat / Nat.sqrt x.den

/-- A library that cuts floats. -/
def cuttingLib : StdLib ℚ where
  iso := ⟨fun d => toString d.micros, fun _ => none⟩
  loads _ := .error ⟨.valueError, "Expecting value: line 1 column 1 (char 0)"⟩
  fromTimestamp seconds := .ok ⟨⌊seconds * 1000000⌋⟩
  fromIsoformat _ := .error ⟨.valueError, "Invalid isoformat string"⟩
  intOfFloat x := .ok (x.num.tdiv x.den)

/-- A candle that opens at 100. -/
def candleAt (timestamp : ℤ) (close : ℚ) : Candle ℚ :=
  ⟨.int timestamp, .float 100, .float (max 100 close), .float (min 100 close), .float close, .float 1⟩

theorem analyze_ignores_last_flat :
    analyze {} cuttingLib demoPandas "BTC/USDT"
        (List.replicate 39 (candleAt 0 100) ++ [candleAt 900 250])
      = analyze {} cuttingLib demoPandas "BTC/USDT"
        (List.replicate 39 (candleAt 0 100) ++ [candleAt 900 3]) :=
  analyze_ignores_last {} demoPandas cuttingLib "BTC/USDT" (List.replicate 39 (candleAt 0 100))
    (candleAt 900 250) (candleAt 900 3) (by decide +kernel) (by decide +kernel)

end Aegis
