import AegisFortress.Lib.History
import AegisFortress.Strategies.MomentumTrap

/-!
# The purchases of the momentum trap scanner

`_scan_symbol` of `momentum_trap_service.py` over and over, with the analyzer it calls.  The scanner
remembers the key of every signal it has published, which names the symbol and the timestamp of the
completed candle; nothing can fail between the publication and that.

`one_order_per_signal`: no candle of a symbol leads to two orders.  A signal that passes leads to one
exactly if it is a market order: a limit signal is built without a price, and its own validation
rejects it.
-/

namespace Aegis

open Causal WithNan

/-! ## The analysis -/

section Analysis

variable {config : MomentumTrapConfig ℚ} {lib : StdLib ℚ} {pandas : PandasLib ℚ} {symbol : String}
  {ohlcv : List (Candle ℚ)} {analysis : MomentumTrapAnalysis ℚ}

/-- What a sequence of computations returns. -/
lemma exists_of_bind {β γ : Type} {x : Except PyError β} {f : β → Except PyError γ} {c : γ}
    (h : x >>= f = .ok c) : ∃ b, x = .ok b ∧ f b = .ok c := by
  cases x with
  | error e => cases h
  | ok b => exact ⟨b, rfl, h⟩

lemma bonus_nonneg (condition : Bool) {x : ℚ} (hx : 0 ≤ x) : (0 : ℚ) ≤ bonus condition x := by
  rw [bonus]
  split_ifs
  · exact hx
  · exact le_rfl

lemma buyConfidence_bounds (trapCore volumeSpike macdBullish : Bool) (rsi : ℚ) :
    0 ≤ buyConfidence trapCore volumeSpike macdBullish rsi
      ∧ buyConfidence trapCore volumeSpike macdBullish rsi ≤ 1 := by
  have hcore := bonus_nonneg trapCore (x := 1 / 5) (by norm_num)
  have hspike := bonus_nonneg volumeSpike (x := 2 / 25) (by norm_num)
  have hmacd := bonus_nonneg macdBullish (x := 7 / 100) (by norm_num)
  have hrsi := bonus_nonneg (PyFloat.ofRat 50 ≤ rsi ∧ rsi ≤ PyFloat.ofRat 62) (x := 1 / 20)
    (by norm_num)
  rw [buyConfidence, pyMin_rat, ofRat_rat]
  refine ⟨le_min zero_le_one ?_, min_le_left _ _⟩
  linarith

/-- The timestamp of the completed candle, as it stands in the signal key. -/
def completedTimestamp (lib : StdLib ℚ) (pandas : PandasLib ℚ) (ohlcv : List (Candle ℚ)) :
    Option ℤ :=
  (fromEnd 2 (ohlcv.filterMap (Candle.row? pandas))).bind fun candle =>
    (keyTimestamp lib candle.timestamp).toOption

/-- The key of a signal. -/
def signalKeyOf (symbol : String) (timestamp : ℤ) : String := s!"momentum_trap:{symbol}:{timestamp}"

/-- What a decision says of its key and its confidence. -/
structure Decided (symbol : String) (timestamp : ℤ) (decision : MomentumTrapDecision ℚ) : Prop where
  key_eq : decision.signalKey = some (signalKeyOf symbol timestamp)
  confidence : 0 ≤ decision.confidence ∧ decision.confidence ≤ 1

lemma decideBy_ok {row previous : FrameRow ℚ}
    (h : decideBy config lib symbol row previous = .ok analysis) :
    ∃ timestamp, keyTimestamp lib row.candle.timestamp = .ok timestamp
      ∧ Decided symbol timestamp analysis.decision := by
  rw [decideBy] at h
  cases htimestamp : keyTimestamp lib row.candle.timestamp with
  | error e =>
      rw [htimestamp] at h
      cases h
  | ok timestamp =>
      rw [htimestamp] at h
      cases h
      refine ⟨timestamp, rfl, rfl, ?_⟩
      simp only
      split_ifs
      · exact buyConfidence_bounds _ _ _ _
      · exact ⟨le_rfl, zero_le_one⟩

/-- A row of the frame is a row of the candles. -/
lemma frameRow_candle {rows : List (CandleRow ℚ)} {n : ℕ} {row : FrameRow ℚ}
    (h : frameRow config pandas rows n = .ok row) : fromEnd n rows = some row.candle := by
  rw [frameRow] at h
  obtain ⟨candle, hcandle, h⟩ := exists_of_bind h
  have hrow : row.candle = candle := by
    iterate 9
      obtain ⟨_, -, h⟩ := exists_of_bind h
    cases h
    rfl
  rw [iloc] at hcandle
  cases hfrom : fromEnd n rows with
  | none =>
      rw [hfrom] at hcandle
      cases hcandle
  | some candle' =>
      rw [hfrom] at hcandle
      cases hcandle
      rw [hrow]

/-- **One analysis**: a purchase names the completed candle. -/
lemma analyze_decided (h : analyze config lib pandas symbol ohlcv = .ok analysis)
    (hbuy : analysis.decision.shouldBuy = true) :
    ∃ timestamp, completedTimestamp lib pandas ohlcv = some timestamp
      ∧ Decided symbol timestamp analysis.decision := by
  simp only [analyze] at h
  by_cases hfew : ohlcv.length < config.minClosedCandles
  · rw [if_pos hfew] at h
    cases h
    cases hbuy
  rw [if_neg hfew] at h
  by_cases hvalid : (ohlcv.filterMap (Candle.row? pandas)).length < config.minClosedCandles
  · rw [if_pos hvalid] at h
    cases h
    cases hbuy
  rw [if_neg hvalid] at h
  obtain ⟨row, hrow, h⟩ := exists_of_bind h
  obtain ⟨previous, -, h⟩ := exists_of_bind h
  obtain ⟨timestamp, hkey, hdecided⟩ := decideBy_ok h
  refine ⟨timestamp, ?_, hdecided⟩
  rw [completedTimestamp, frameRow_candle hrow, Option.bind_some, hkey]
  rfl

end Analysis

/-! ## Scans -/

/-- One call of `_scan_symbol`, with what it finds: the clocks at its two ends, the books it reads,
and the answer to the request for the candles. -/
structure Scan where
  symbol : String
  now : ℚ
  later : ℚ
  ledger : PositionLedger ℚ
  killSwitch : KillSwitch ℚ
  store : MarketStateStore ℚ
  hasExchange : Bool
  ohlcv : Except PyError (List (Candle ℚ))
  stamp : OrderStamp

namespace MomentumTrapService

variable (service : MomentumTrapService ℚ) (lib : StdLib ℚ) (pandas : PandasLib ℚ)

/-- The configuration of the analyzer. -/
def analyzerConfig : MomentumTrapConfig ℚ where
  minVolumeMultiplier := service.floatEnv "AEGIS_MOMENTUM_TRAP_MIN_VOLUME_MULT" (3 / 2)
  minWickBodyRatio := service.floatEnv "AEGIS_MOMENTUM_TRAP_MIN_WICK_BODY_RATIO" (6 / 5)
  rsiMax := service.floatEnv "AEGIS_MOMENTUM_TRAP_RSI_MAX" 68
  pullbackToleranceBps := service.floatEnv "AEGIS_MOMENTUM_TRAP_PULLBACK_TOLERANCE_BPS" 85

/-- What the analyzer says of the candles a scan has got. -/
def decisionOf (scan : Scan) : Except PyError (MomentumTrapDecision ℚ) := do
  let ohlcv ← scan.ohlcv
  let analysis ← analyze service.analyzerConfig lib pandas scan.symbol ohlcv
  return analysis.decision

/-- `_scan_symbol(symbol)`: the new state, and the order it publishes. -/
def scanSymbol (state : MomentumTrapState ℚ) (scan : Scan) :
    MomentumTrapState ℚ × Option (Order ℚ) :=
  let begun := service.beginScan scan.now scan.ledger scan.killSwitch scan.store scan.hasExchange
    scan.symbol { state with scanning := none }
  match begun.scanning with
  | none => (begun, none)
  | some symbol =>
      service.finishScan scan.later scan.stamp symbol (service.decisionOf lib pandas scan) begun

/-- The scans of a run, each with the state that meets it. -/
def scansMet (scans : List Scan) : List (MomentumTrapState ℚ × Scan) :=
  History.steps (fun state scan => (service.scanSymbol lib pandas state scan).1)
    MomentumTrapState.init scans

/-- The orders of a run, each with the scan that has published it. -/
def published (scans : List Scan) : List (Scan × Order ℚ) :=
  (service.scansMet lib pandas scans).filterMap fun met =>
    (service.scanSymbol lib pandas met.1 met.2).2.map fun order => (met.2, order)

/-- The completed candle of a scan. -/
def candleOf (scan : Scan) : Option ℤ := scan.ohlcv.toOption.bind (completedTimestamp lib pandas)

/-- The scan passes all gates, and its analysis is to buy a positive quantity by a new key. -/
def Qualifies (state : MomentumTrapState ℚ) (scan : Scan) : Prop :=
  service.passesGates scan.now scan.ledger scan.killSwitch scan.store scan.hasExchange state
      scan.symbol = true
    ∧ ∃ decision ∈ (service.decisionOf lib pandas scan).toOption, decision.shouldBuy = true
      ∧ (∀ key ∈ decision.signalKey, key ∉ state.processedSignalKeys)
      ∧ 0 < roundRat 8 (service.targetNotional / sizingPrice decision)

/-- No completed candle of a symbol leads to two orders. -/
def AtMostOnce (scans : List Scan) : Prop :=
  (service.published lib pandas scans).Pairwise fun first second =>
    first.1.symbol = second.1.symbol → candleOf lib pandas first.1 ≠ candleOf lib pandas second.1

/-- Every scan that qualifies publishes an order. -/
def EverySignalOrdered (scans : List Scan) : Prop :=
  ∀ met ∈ service.scansMet lib pandas scans, service.Qualifies lib pandas met.1 met.2 →
    (service.scanSymbol lib pandas met.1 met.2).2.isSome

/-! ## One scan -/

section Step

variable {service lib pandas} {state : MomentumTrapState ℚ} {scan : Scan}
  {decision : MomentumTrapDecision ℚ}

lemma passesGates_scanning (scanning : Option String) :
    service.passesGates scan.now scan.ledger scan.killSwitch scan.store scan.hasExchange
        { state with scanning } scan.symbol
      = service.passesGates scan.now scan.ledger scan.killSwitch scan.store scan.hasExchange state
        scan.symbol := rfl

/-- A scan that does not pass publishes nothing. -/
lemma scanSymbol_gated (h : service.passesGates scan.now scan.ledger scan.killSwitch scan.store
    scan.hasExchange state scan.symbol = false) :
    service.scanSymbol lib pandas state scan = ({ state with scanning := none }, none) := by
  simp only [scanSymbol, beginScan, passesGates_scanning, h, Bool.false_eq_true, if_false]

lemma scanSymbol_passed (h : service.passesGates scan.now scan.ledger scan.killSwitch scan.store
    scan.hasExchange state scan.symbol = true) :
    service.scanSymbol lib pandas state scan
      = service.finishScan scan.later scan.stamp scan.symbol (service.decisionOf lib pandas scan)
        { state with scanning := some scan.symbol } := by
  simp only [scanSymbol, beginScan, passesGates_scanning, h, if_true]

lemma signalKeyOf_ne (symbol : String) (timestamp : ℤ) : signalKeyOf symbol timestamp ≠ "" := by
  intro h
  have hlength : (toString "momentum_trap:" ++ toString symbol ++ toString ":"
      ++ toString timestamp).length = 0 := congrArg String.length h
  rw [String.length_append, String.length_append, String.length_append] at hlength
  have hstart : (toString "momentum_trap:").length = 14 := rfl
  omega

/-- What is analyzed to be bought is named after the symbol and the candle. -/
lemma decisionOf_decided (h : service.decisionOf lib pandas scan = .ok decision)
    (hbuy : decision.shouldBuy = true) :
    ∃ timestamp, candleOf lib pandas scan = some timestamp
      ∧ Decided scan.symbol timestamp decision := by
  obtain ⟨ohlcv, hohlcv, h⟩ := exists_of_bind h
  obtain ⟨analysis, hanalysis, h⟩ := exists_of_bind h
  cases h
  obtain ⟨timestamp, hcompleted, hdecided⟩ := analyze_decided hanalysis hbuy
  refine ⟨timestamp, ?_, hdecided⟩
  rw [candleOf, hohlcv]
  exact hcompleted

/-- **One scan**: it publishes by a new key, and remembers it; or it publishes nothing and remembers
what it did. -/
lemma scanSymbol_keys (service : MomentumTrapService ℚ) (lib : StdLib ℚ) (pandas : PandasLib ℚ)
    (state : MomentumTrapState ℚ) (scan : Scan) :
    ((service.scanSymbol lib pandas state scan).2 = none
        ∧ (service.scanSymbol lib pandas state scan).1.processedSignalKeys
          = state.processedSignalKeys)
      ∨ ∃ timestamp, candleOf lib pandas scan = some timestamp
        ∧ signalKeyOf scan.symbol timestamp ∉ state.processedSignalKeys
        ∧ (service.scanSymbol lib pandas state scan).1.processedSignalKeys
          = state.processedSignalKeys ++ [signalKeyOf scan.symbol timestamp] := by
  cases hgates : service.passesGates scan.now scan.ledger scan.killSwitch scan.store
    scan.hasExchange state scan.symbol with
  | false =>
      rw [scanSymbol_gated hgates]
      exact Or.inl ⟨rfl, rfl⟩
  | true =>
      rw [scanSymbol_passed hgates]
      cases hdecision : service.decisionOf lib pandas scan with
      | error e => exact Or.inl ⟨rfl, rfl⟩
      | ok decision =>
          simp only [finishScan]
          cases horder : service.orderOf scan.stamp scan.symbol decision
            { state with scanning := none } with
          | none => exact Or.inl ⟨rfl, rfl⟩
          | some order =>
              right
              obtain ⟨hbuy, -, -, -⟩ := orderOf_some horder
              obtain ⟨timestamp, hcandle, hdecided⟩ := decisionOf_decided hdecision hbuy
              refine ⟨timestamp, hcandle, ?_, ?_⟩
              · intro hseen
                simp [orderOf, hbuy, hdecided.key_eq, hseen, signalKeyOf_ne] at horder
              · simp [hdecided.key_eq, signalKeyOf_ne]

/-- A purchase is valid exactly if it is one for the market: a limit would want a price. -/
lemma toOrder_buySignal (stamp : OrderStamp) {symbol : String}
    (hquantity : 0 < roundRat 8 (service.targetNotional / sizingPrice decision))
    (hconfidence : 0 ≤ decision.confidence ∧ decision.confidence ≤ 1) :
    ((service.buySignal symbol decision).toOrder stamp).toOption.isSome
      ↔ service.orderType = .market ∧ symbol ≠ "" := by
  have hpositive : ¬ (service.buySignal symbol decision).quantity ≤ 0 := not_le.mpr hquantity
  have hconfident : ¬ ((service.buySignal symbol decision).confidence.any fun confidence =>
      ¬ (0 ≤ confidence ∧ confidence ≤ 1)) = true := by
    simp [buySignal, hconfidence]
  rw [TradeSignal.toOrder, TradeSignal.validate]
  by_cases hsymbol : symbol = ""
  · simp [buySignal, hsymbol, Except.map, Except.toOption]
  rw [if_neg (show ¬ (service.buySignal symbol decision).symbol = "" from hsymbol),
    if_neg hpositive]
  cases htype : service.orderType with
  | limit => simp [buySignal, htype, Except.map, Except.toOption]
  | market =>
      rw [if_neg (by simp [buySignal, htype]), if_neg hconfident]
      simp [Except.map, Except.toOption, hsymbol]

/-- **A scan that qualifies** publishes exactly if its order is one for the market. -/
lemma scanSymbol_qualified (h : service.Qualifies lib pandas state scan) :
    (service.scanSymbol lib pandas state scan).2.isSome
      ↔ service.orderType = .market ∧ scan.symbol ≠ "" := by
  obtain ⟨hgates, decision, hdecision, hbuy, hnew, hquantity⟩ := h
  have hok : service.decisionOf lib pandas scan = .ok decision := by
    cases hanswer : service.decisionOf lib pandas scan with
    | error e =>
        rw [hanswer] at hdecision
        cases hdecision
    | ok decision' =>
        rw [hanswer] at hdecision
        cases hdecision
        rfl
  obtain ⟨timestamp, -, hdecided⟩ := decisionOf_decided hok hbuy
  have hfresh : signalKeyOf scan.symbol timestamp ∉ state.processedSignalKeys :=
    hnew _ hdecided.key_eq
  rw [scanSymbol_passed hgates, hok, ← toOrder_buySignal scan.stamp hquantity hdecided.confidence]
  have horder : service.orderOf scan.stamp scan.symbol decision { state with scanning := none }
      = ((service.buySignal scan.symbol decision).toOrder scan.stamp).toOption := by
    simp [orderOf, hbuy, hdecided.key_eq, hfresh]
  simp only [finishScan, horder]
  cases ((service.buySignal scan.symbol decision).toOrder scan.stamp).toOption <;> rfl

end Step

/-! ## A run -/

section Run

variable {service lib pandas} {scans : List Scan} {scan : Scan}

/-- The state after a run. -/
def afterScans (service : MomentumTrapService ℚ) (lib : StdLib ℚ) (pandas : PandasLib ℚ)
    (scans : List Scan) : MomentumTrapState ℚ :=
  scans.foldl (fun state scan => (service.scanSymbol lib pandas state scan).1)
    MomentumTrapState.init

lemma afterScans_snoc : service.afterScans lib pandas (scans ++ [scan])
    = (service.scanSymbol lib pandas (service.afterScans lib pandas scans) scan).1 := by
  rw [afterScans, List.foldl_append]
  rfl

/-- **One more scan** adds its order, if it publishes one. -/
lemma published_snoc : service.published lib pandas (scans ++ [scan])
    = service.published lib pandas scans
      ++ ((service.scanSymbol lib pandas (service.afterScans lib pandas scans) scan).2.map
        fun order => (scan, order)).toList := by
  rw [published, scansMet, History.steps_snoc, List.filterMap_append, ← scansMet, ← published,
    ← afterScans, List.filterMap_cons, List.filterMap_nil]
  cases (service.scanSymbol lib pandas (service.afterScans lib pandas scans) scan).2 with
  | none => simp only [Option.map_none, Option.toList_none]
  | some order => simp only [Option.map_some, Option.toList_some]

/-- The keys that are remembered are those of the orders, and no two orders have the same. -/
structure Remembered (service : MomentumTrapService ℚ) (lib : StdLib ℚ) (pandas : PandasLib ℚ)
    (scans : List Scan) : Prop where
  keys : ∀ entry ∈ service.published lib pandas scans, ∃ timestamp,
    candleOf lib pandas entry.1 = some timestamp
      ∧ signalKeyOf entry.1.symbol timestamp
        ∈ (service.afterScans lib pandas scans).processedSignalKeys
  once : service.AtMostOnce lib pandas scans

lemma remembered (service : MomentumTrapService ℚ) (lib : StdLib ℚ) (pandas : PandasLib ℚ)
    (scans : List Scan) : service.Remembered lib pandas scans := by
  induction scans using List.reverseRecOn with
  | nil =>
      refine ⟨?_, List.Pairwise.nil⟩
      intro entry hentry
      cases hentry
  | append_singleton scans scan ih =>
      have hpublished : service.published lib pandas (scans ++ [scan]) = _ := published_snoc
      rcases service.scanSymbol_keys lib pandas (service.afterScans lib pandas scans) scan with
        ⟨hnone, hkeys⟩ | ⟨timestamp, hcandle, hnew, hkeys⟩
      · rw [hnone, Option.map_none, Option.toList_none, List.append_nil] at hpublished
        refine ⟨?_, ?_⟩
        · rw [hpublished, afterScans_snoc, hkeys]
          exact ih.keys
        · rw [AtMostOnce, hpublished]
          exact ih.once
      · have hentry : ∀ entry ∈ ((service.scanSymbol lib pandas (service.afterScans lib pandas scans)
            scan).2.map fun order => (scan, order)).toList, entry.1 = scan := by
          simp
        refine ⟨?_, ?_⟩
        · intro entry hmem
          rw [hpublished, List.mem_append] at hmem
          rw [afterScans_snoc, hkeys]
          rcases hmem with hold | hlast
          · obtain ⟨timestamp', hcandle', hkey⟩ := ih.keys entry hold
            exact ⟨timestamp', hcandle', List.mem_append_left _ hkey⟩
          · rw [hentry entry hlast]
            exact ⟨timestamp, hcandle, List.mem_append_right _ (List.mem_singleton_self _)⟩
        · rw [AtMostOnce, hpublished, List.pairwise_append]
          refine ⟨ih.once, ?_, ?_⟩
          · cases (service.scanSymbol lib pandas (service.afterScans lib pandas scans) scan).2 with
            | none => exact List.Pairwise.nil
            | some order => exact List.pairwise_singleton _ _
          · intro entry hold last hlast hsymbol hsame
            rw [hentry last hlast] at hsymbol hsame
            obtain ⟨timestamp', hcandle', hkey⟩ := ih.keys entry hold
            -- a second order of this candle would have needed its key to be new
            rw [hcandle', hcandle, Option.some.injEq] at hsame
            rw [hsymbol, hsame] at hkey
            exact hnew hkey

/-- **One order per signal**, of a scanner that trades at the market.  No candle of a symbol leads to
two orders; and every scan that qualifies leads to one exactly if the orders are market orders, of a
symbol that has a name. -/
theorem one_order_per_signal (service : MomentumTrapService ℚ) (lib : StdLib ℚ)
    (pandas : PandasLib ℚ) (scans : List Scan) :
    service.AtMostOnce lib pandas scans
      ∧ (service.AtMostOnce lib pandas scans ∧ service.EverySignalOrdered lib pandas scans
        ↔ ∀ met ∈ service.scansMet lib pandas scans, service.Qualifies lib pandas met.1 met.2 →
          service.orderType = .market ∧ met.2.symbol ≠ "") := by
  have honce := (remembered service lib pandas scans).once
  refine ⟨honce, ?_, ?_⟩
  · rintro ⟨-, hevery⟩ met hmet hqualifies
    exact (scanSymbol_qualified hqualifies).mp (hevery met hmet hqualifies)
  · intro hmarket
    refine ⟨honce, fun met hmet hqualifies => ?_⟩
    exact (scanSymbol_qualified hqualifies).mpr (hmarket met hmet hqualifies)

/-- A scanner set to limit orders. -/
def limitScanner : MomentumTrapService ℚ where
  symbolsGiven := ["BTC/USDT"]
  targetNotionalGiven := 90
  maxPositionNotional := 90
  minOrderNotional := 0
  orderTypeText := "LIMIT"
  order_type_checked := by decide +kernel
  getenv := fun _ => none

/-- A market that has been quiet, rises, and has just left its averages behind. -/
def risingCloses : List ℚ :=
  List.replicate 16 1000 ++ [1001, 1003, 1002, 1002, 1001, 1002, 1003, 1002, 1003, 1004, 1006, 1006,
    1007, 1008, 1009, 1009, 1011, 1011, 1012, 1013]

/-- A scan of it, with nothing in the way. -/
def risingScan : Scan where
  symbol := "BTC/USDT"
  now := 0
  later := 0
  ledger := .empty
  killSwitch := ⟨50, 1 / 10, by norm_num, by norm_num, 0, none, false, none⟩
  store := .init
  hasExchange := true
  ohlcv := .ok (risingCloses.zipIdx.map fun entry => ⟨.int (900000 * entry.2), .float entry.1,
    .float entry.1, .float entry.1, .float entry.1, .float 1⟩)
  stamp := ⟨"", ⟨0⟩, ⟨0⟩⟩

/-- The limit order of a signal that qualifies is never published. -/
theorem limit_signal_lost :
    ¬ (limitScanner.AtMostOnce cuttingLib demoPandas [risingScan]
      ∧ limitScanner.EverySignalOrdered cuttingLib demoPandas [risingScan]) := by
  rintro ⟨-, hevery⟩
  have hqualifies : limitScanner.Qualifies cuttingLib demoPandas .init risingScan := by
    refine ⟨by decide +kernel, ?_⟩
    have hbuys : (limitScanner.decisionOf cuttingLib demoPandas risingScan).toOption.any
        (fun decision => decision.shouldBuy
          ∧ 0 < roundRat 8 (limitScanner.targetNotional / sizingPrice decision)) = true := by
      decide +kernel
    rw [Option.any_eq_true] at hbuys
    obtain ⟨decision, hdecision, hbuy⟩ := hbuys
    obtain ⟨hbuy, hquantity⟩ := of_decide_eq_true hbuy
    exact ⟨decision, hdecision, hbuy, fun _ _ => List.not_mem_nil, hquantity⟩
  have hpublished := hevery (.init, risingScan) (List.mem_singleton_self _) hqualifies
  have hnone : (limitScanner.scanSymbol cuttingLib demoPandas .init risingScan).2.isSome = false := by
    decide +kernel
  rw [hnone] at hpublished
  cases hpublished

end Run

end MomentumTrapService

end Aegis
