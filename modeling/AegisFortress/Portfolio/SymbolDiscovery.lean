import AegisFortress.Lib.BestFirst
import AegisFortress.Lib.Dict
import AegisFortress.Python.Builtins

/-!
# Symbol discovery

`portfolio/symbol_discovery.py`.  The markets of the exchange are filtered by name, then by what their
tickers say, and the best of them by score are selected.  Floats are any linear order: what is proved
here does not depend on how they round.

`selection_sound_iff`: the selection is what it should be exactly if no market without a two-sided
quote gets into it.  Such a market has a spread of zero, which passes the filter and costs no points.
-/

namespace Aegis

section Definitions

variable {α : Type} [Add α] [Sub α] [Mul α] [Div α] [Zero α] [LinearOrder α] [PyFloat α]

/-! ## The exchange -/

/-- The client of an exchange.  A dictionary that is something else is `none`, and so is a method that
is not there. -/
structure RawExchange (α : Type) where
  markets : Option (Dict String (PyVal α))
  loadMarkets : Except PyError (Option (Dict String (PyVal α)))
  fetchTickers : Option (Option (List String) → Except PyError (Option (Dict String (PyVal α))))
  fetchTicker : Option (String → Except PyError (PyVal α))

/-- What is called from the standard library: `str.upper` and `math.log10`. -/
structure DiscoveryLib (α : Type) where
  upper : String → String
  log10 : α → α

/-- The arguments of `discover_tradeable_symbols`, with their defaults. -/
structure DiscoveryConfig (α : Type) [PyFloat α] where
  quote : String := "USDT"
  maxSymbols : ℤ := 6
  minQuoteVolume : α := PyFloat.ofRat 1000000
  minChangePct : α := PyFloat.ofRat 0
  maxChangePct : α := PyFloat.ofRat 18
  maxSpreadBps : α := PyFloat.ofRat 20
  excludedSymbols : List String := []
  fallbackSymbols : List String := []

/-- `SymbolCandidate`. -/
structure SymbolCandidate (α : Type) where
  symbol : String
  score : α
  quoteVolume : α
  changePct : α
  spreadBps : α
  deriving DecidableEq

namespace SymbolDiscovery

/-- `DEFAULT_EXCLUDED_SYMBOLS`. -/
def defaultExcludedSymbols : List String :=
  ["USDC/USDT", "FDUSD/USDT", "TUSD/USDT", "BUSD/USDT", "DAI/USDT", "USDP/USDT", "EUR/USDT",
    "TRY/USDT", "BRL/USDT"]

/-- `_LEVERAGED_TOKEN_MARKERS`. -/
def leveragedTokenMarkers : List String :=
  ["UP/USDT", "DOWN/USDT", "BULL/USDT", "BEAR/USDT", "3L/USDT", "3S/USDT", "5L/USDT", "5S/USDT"]

/-- `_safe_markets(raw_exchange)`. -/
def safeMarkets (exchange : RawExchange α) : Dict String (PyVal α) :=
  match exchange.markets.filter fun markets => ¬ markets.entries.isEmpty with
  | some markets => markets
  | none => exchange.loadMarkets.toOption.join.getD ∅

/-- The tickers one by one, for the first 60 symbols. -/
def fetchEach (exchange : RawExchange α) (symbols : List String) : Dict String (PyVal α) :=
  match exchange.fetchTicker with
  | none => ∅
  | some fetchTicker =>
      (symbols.take 60).foldl (fun tickers symbol =>
        match fetchTicker symbol with
        | .ok (.dict items) => tickers.set symbol (.dict items)
        | _ => tickers) ∅

/-- `_safe_fetch_tickers(raw_exchange, symbols)`. -/
def safeFetchTickers (exchange : RawExchange α) (symbols : List String) : Dict String (PyVal α) :=
  match exchange.fetchTickers with
  | none => fetchEach exchange symbols
  | some fetchTickers =>
      match fetchTickers (some symbols) with
      | .ok (some payload) => payload
      | .ok none => fetchEach exchange symbols
      | .error e =>
          if e.kind = .typeError then
            match fetchTickers none with
            | .ok (some payload) =>
                Dict.ofList (symbols.map fun symbol => (symbol, payload.getD symbol (.dict [])))
            | _ => fetchEach exchange symbols
          else fetchEach exchange symbols

/-! ## One market -/

/-- `value is False`. -/
def isFalse : PyVal α → Bool
  | .bool false => true
  | _ => false

/-- The market says neither that it is not active nor that it is not a spot market. -/
def isOpen : PyVal α → Bool
  | .dict market => !isFalse (PyVal.get market "active") && !isFalse (PyVal.get market "spot")
  | _ => true

/-- `_is_allowed_symbol(symbol, market, quote=quote, excluded=excluded)`. -/
def isAllowedSymbol (lib : DiscoveryLib α) (quote : String) (excluded : List String)
    (symbol : String) (market : PyVal α) : Bool :=
  let normalized := lib.upper symbol
  normalized ∉ excluded
    ∧ ("/" ++ lib.upper quote).toList <:+ normalized.toList
    ∧ (∀ marker ∈ leveragedTokenMarkers, ¬ marker.toList <:+: normalized.toList)
    ∧ isOpen market

/-- `_safe_float(value)`. -/
def safeFloat (value : PyVal α) : α :=
  match value.number?, value with
  | some x, _ => x
  | none, .str s => ((floatOfString s).map PyFloat.ofRat).getD 0
  | none, _ => 0

/-- `a or b`. -/
def orElse (a b : PyVal α) : PyVal α := if a.truthy then a else b

/-- `_score_candidate(...)`. -/
def scoreCandidate (lib : DiscoveryLib α) (quoteVolume changePct spreadBps : α) : α :=
  let liquidityScore := lib.log10 (pyMax quoteVolume (PyFloat.ofRat 1))
  let momentumScore :=
    pyMin (pyMax changePct (PyFloat.ofRat (-5))) (PyFloat.ofRat 12) / PyFloat.ofRat 3
  let spreadPenalty := pyMax spreadBps 0 / PyFloat.ofRat 4
  let pumpPenalty := pyMax (changePct - PyFloat.ofRat 12) 0 / PyFloat.ofRat 2
  liquidityScore + momentumScore - spreadPenalty - pumpPenalty

/-- The spread of a quote in basis points of its mid. -/
def quoteSpread (bid ask : α) : α :=
  let mid := (bid + ask) / PyFloat.ofRat 2
  (ask - bid) / mid * PyFloat.ofRat 10000

/-- `_candidate_from_ticker(symbol, ticker)`. -/
def candidateFromTicker (lib : DiscoveryLib α) (symbol : String) (ticker : List (String × PyVal α)) :
    Option (SymbolCandidate α) :=
  let get := PyVal.get ticker
  let last := safeFloat (orElse (orElse (get "last") (get "close")) (get "price"))
  let bid := safeFloat (get "bid")
  let ask := safeFloat (get "ask")
  let last? :=
    if last ≤ 0 then if 0 < bid ∧ 0 < ask then some ((bid + ask) / PyFloat.ofRat 2) else none
    else some last
  last?.map fun last =>
    let quoteVolume := safeFloat (orElse (get "quoteVolume") (get "quote_volume"))
    let quoteVolume :=
      if quoteVolume ≤ 0 then safeFloat (orElse (get "baseVolume") (get "volume")) * last
      else quoteVolume
    let changePct := safeFloat (orElse (get "percentage") (get "change_pct"))
    let openPrice := safeFloat (get "open")
    let changePct :=
      if changePct = 0 ∧ 0 < openPrice then (last - openPrice) / openPrice * PyFloat.ofRat 100
      else changePct
    let spreadBps := if 0 < bid ∧ 0 < ask ∧ bid ≤ ask then quoteSpread bid ask else 0
    { symbol, score := scoreCandidate lib quoteVolume changePct spreadBps, quoteVolume, changePct
      spreadBps }

/-! ## The selection -/

variable (lib : DiscoveryLib α) (config : DiscoveryConfig α) (exchange : RawExchange α)

/-- The symbols that are never traded. -/
def excluded : List String :=
  let given := if config.excludedSymbols = [] then defaultExcludedSymbols else config.excludedSymbols
  given.filterMap fun item => if pyStrip item = "" then none else some (lib.upper (pyStrip item))

/-- The markets that are allowed. -/
def allowedSymbols : List String :=
  ((safeMarkets exchange).entries.filter fun entry =>
    isAllowedSymbol lib config.quote (excluded lib config) entry.1 entry.2).map Prod.fst

/-- The tickers of the allowed markets. -/
def tickersOf : Dict String (PyVal α) :=
  safeFetchTickers exchange (allowedSymbols lib config exchange)

/-- The candidate of a market, as its ticker has it. -/
def candidateOf (tickers : Dict String (PyVal α)) (symbol : String) : Option (SymbolCandidate α) :=
  match tickers.get? symbol with
  | some (.dict ticker) => candidateFromTicker lib symbol ticker
  | _ => none

/-- A candidate that no filter drops. -/
def passesFilters (candidate : SymbolCandidate α) : Bool :=
  ¬ candidate.quoteVolume < config.minQuoteVolume
    ∧ ¬ candidate.changePct < config.minChangePct
    ∧ ¬ config.maxChangePct < candidate.changePct
    ∧ ¬ config.maxSpreadBps < candidate.spreadBps

/-- The candidates, in the order of the markets. -/
def candidates : List (SymbolCandidate α) :=
  ((allowedSymbols lib config exchange).filterMap
    (candidateOf lib (tickersOf lib config exchange))).filter (passesFilters config)

/-- A candidate comes before those whose score is not higher. -/
def Outranks (first second : SymbolCandidate α) : Prop := second.score ≤ first.score

instance : DecidableRel (Outranks (α := α)) := fun first second =>
  inferInstanceAs (Decidable (second.score ≤ first.score))

/-- `always_include`. -/
def alwaysInclude (getenv : Environ) : List String :=
  (pySplit ',' ((getenv "AEGIS_SYMBOL_DISCOVERY_ALWAYS_INCLUDE").getD "")).filterMap fun item =>
    if pyStrip item = "" then none else some (lib.upper (pyStrip item))

/-- The selection, and what is always included as far as there is a market for it. -/
def withRequested (markets : Dict String (PyVal α)) (requests selected : List String) :
    List String :=
  let available := Dict.ofList (markets.keys.map fun symbol => (lib.upper symbol, symbol))
  (requests.foldl (fun (list : List String × List String) requested =>
    let actual := available.getD requested requested
    if requested ∉ list.2 ∧ actual ∈ markets.keys then (list.1 ++ [actual], list.2 ++ [requested])
    else list) (selected, selected.map lib.upper)).1

/-- `discover_tradeable_symbols(exchange_manager, ...)`. -/
def discoverTradeableSymbols (getenv : Environ) (primary : Option (RawExchange α)) : List String :=
  if config.maxSymbols ≤ 0 then config.fallbackSymbols
  else match primary with
    | none => config.fallbackSymbols
    | some exchange =>
        if allowedSymbols lib config exchange = [] then config.fallbackSymbols
        else
          let selected := (BestFirst.best Outranks config.maxSymbols.toNat
            (candidates lib config exchange)).map SymbolCandidate.symbol
          let selected := withRequested lib (safeMarkets exchange) (alwaysInclude lib getenv) selected
          if selected = [] then config.fallbackSymbols else selected

/-! ## What a selection should be -/

/-- A ticker with a price to buy and a price to sell, not crossed. -/
def TwoSided (ticker : List (String × PyVal α)) : Prop :=
  0 < safeFloat (PyVal.get ticker "bid")
    ∧ safeFloat (PyVal.get ticker "bid") ≤ safeFloat (PyVal.get ticker "ask")

/-- An allowed market that satisfies all filters, and has a quote that does. -/
structure Eligible (candidate : SymbolCandidate α) : Prop where
  allowed : candidate.symbol ∈ allowedSymbols lib config exchange
  quoted : ∃ ticker, (tickersOf lib config exchange).get? candidate.symbol = some (.dict ticker)
    ∧ candidateFromTicker lib candidate.symbol ticker = some candidate
    ∧ TwoSided ticker
    ∧ quoteSpread (safeFloat (PyVal.get ticker "bid")) (safeFloat (PyVal.get ticker "ask"))
      ≤ config.maxSpreadBps
  volume : config.minQuoteVolume ≤ candidate.quoteVolume
  change : config.minChangePct ≤ candidate.changePct ∧ candidate.changePct ≤ config.maxChangePct

/-- A selection of at most as many symbols as there may be, all eligible, none of them worse than an
eligible one that was left out. -/
structure Sound (selected : List String) : Prop where
  size : (selected.length : ℤ) ≤ config.maxSymbols
  distinct : selected.Nodup
  eligible : ∀ symbol ∈ selected, ∃ candidate, Eligible lib config exchange candidate
    ∧ candidate.symbol = symbol
  best : ∀ chosen missed, Eligible lib config exchange chosen → Eligible lib config exchange missed →
    chosen.symbol ∈ selected → missed.symbol ∉ selected → missed.score ≤ chosen.score

/-- The candidates without a two-sided quote. -/
def Unquoted (candidate : SymbolCandidate α) : Prop :=
  ∀ ticker, (tickersOf lib config exchange).get? candidate.symbol = some (.dict ticker) →
    ¬ TwoSided ticker

/-! ## Candidates -/

section Candidates

variable {lib config exchange} {candidate : SymbolCandidate α} {ticker : List (String × PyVal α)}

omit [Add α] [Sub α] [Mul α] [Div α] [Zero α] [PyFloat α] in
lemma ranking_outranks : BestFirst.Ranking (Outranks (α := α)) where
  trans _ _ _ hab hbc := le_trans hbc hab
  total a b := le_total b.score a.score

/-- What a candidate takes from its ticker: the spread only of a two-sided quote. -/
lemma candidateFromTicker_some {symbol : String}
    (h : candidateFromTicker lib symbol ticker = some candidate) : candidate.symbol = symbol
      ∧ (TwoSided ticker → candidate.spreadBps = quoteSpread (safeFloat (PyVal.get ticker "bid"))
        (safeFloat (PyVal.get ticker "ask"))) := by
  simp only [candidateFromTicker, Option.map_eq_some_iff] at h
  obtain ⟨last, -, rfl⟩ := h
  refine ⟨rfl, fun htwo => ?_⟩
  exact if_pos ⟨htwo.1, htwo.1.trans_le htwo.2, htwo.2⟩

lemma candidateOf_some {tickers : Dict String (PyVal α)} {symbol : String} :
    candidateOf lib tickers symbol = some candidate
      ↔ ∃ ticker, tickers.get? symbol = some (.dict ticker)
        ∧ candidateFromTicker lib symbol ticker = some candidate := by
  rw [candidateOf]
  constructor
  · intro h
    split at h
    · rename_i ticker hget
      exact ⟨ticker, hget, h⟩
    · cases h
  · rintro ⟨ticker, hget, hcandidate⟩
    rw [hget]
    exact hcandidate

omit [Add α] [Sub α] [Mul α] [Div α] [Zero α] in
lemma passesFilters_iff : passesFilters config candidate = true
    ↔ config.minQuoteVolume ≤ candidate.quoteVolume ∧ config.minChangePct ≤ candidate.changePct
      ∧ candidate.changePct ≤ config.maxChangePct ∧ candidate.spreadBps ≤ config.maxSpreadBps := by
  simp only [passesFilters, decide_eq_true_eq, not_lt]

/-- **The candidates** are the allowed markets whose tickers pass. -/
lemma mem_candidates : candidate ∈ candidates lib config exchange
    ↔ candidate.symbol ∈ allowedSymbols lib config exchange
      ∧ (∃ ticker, (tickersOf lib config exchange).get? candidate.symbol = some (.dict ticker)
        ∧ candidateFromTicker lib candidate.symbol ticker = some candidate)
      ∧ passesFilters config candidate = true := by
  simp only [candidates, List.mem_filter, List.mem_filterMap, candidateOf_some]
  constructor
  · rintro ⟨⟨symbol, hsymbol, ticker, hticker, hcandidate⟩, hpasses⟩
    obtain ⟨rfl, -⟩ := candidateFromTicker_some hcandidate
    exact ⟨hsymbol, ⟨ticker, hticker, hcandidate⟩, hpasses⟩
  · rintro ⟨hsymbol, hticker, hpasses⟩
    exact ⟨⟨candidate.symbol, hsymbol, hticker⟩, hpasses⟩

/-- A candidate is eligible exactly if it has a quote: then its spread has been looked at. -/
lemma eligible_iff : Eligible lib config exchange candidate
    ↔ candidate ∈ candidates lib config exchange ∧ ¬ Unquoted lib config exchange candidate := by
  rw [mem_candidates, passesFilters_iff]
  constructor
  · rintro ⟨hallowed, ⟨ticker, hticker, hcandidate, htwo, hspread⟩, hvolume, hlow, hhigh⟩
    rw [← (candidateFromTicker_some hcandidate).2 htwo] at hspread
    refine ⟨⟨hallowed, ⟨ticker, hticker, hcandidate⟩, hvolume, hlow, hhigh, hspread⟩, ?_⟩
    exact fun hunquoted => hunquoted ticker hticker htwo
  · rintro ⟨⟨hallowed, ⟨ticker, hticker, hcandidate⟩, hvolume, hlow, hhigh, hspread⟩, hquoted⟩
    have htwo : TwoSided ticker := by
      by_contra hnot
      refine hquoted fun ticker' hticker' => ?_
      rw [hticker] at hticker'
      cases hticker'
      exact hnot
    rw [(candidateFromTicker_some hcandidate).2 htwo] at hspread
    exact ⟨hallowed, ⟨ticker, hticker, hcandidate, htwo, hspread⟩, hvolume, hlow, hhigh⟩

/-- No market has two candidates. -/
lemma candidates_distinct (lib : DiscoveryLib α) (config : DiscoveryConfig α)
    (exchange : RawExchange α) :
    ((candidates lib config exchange).map SymbolCandidate.symbol).Nodup := by
  have hsymbols : (allowedSymbols lib config exchange).Nodup :=
    (safeMarkets exchange).nodup.sublist (List.filter_sublist.map Prod.fst)
  have hmap : ∀ symbols : List String,
      ((symbols.filterMap (candidateOf lib (tickersOf lib config exchange))).map
        SymbolCandidate.symbol).Sublist symbols := by
    intro symbols
    induction symbols with
    | nil => exact List.Sublist.slnil
    | cons symbol rest ih =>
        cases hcandidate : candidateOf lib (tickersOf lib config exchange) symbol with
        | none =>
            rw [List.filterMap_cons_none hcandidate]
            exact ih.cons symbol
        | some candidate =>
            obtain ⟨ticker, -, hticker⟩ := candidateOf_some.mp hcandidate
            rw [List.filterMap_cons_some hcandidate, List.map_cons,
              (candidateFromTicker_some hticker).1]
            exact ih.cons_cons symbol
  exact ((hsymbols.sublist (hmap _)).sublist (List.filter_sublist.map _))

end Candidates

/-! ## The selection -/

section Selection

variable {lib config exchange} {getenv : Environ}

omit [Add α] [Sub α] [Mul α] [Div α] [Zero α] [LinearOrder α] [PyFloat α] in
lemma withRequested_nil (markets : Dict String (PyVal α)) (selected : List String) :
    withRequested lib markets [] selected = selected := rfl

/-- **The selection**, when there is a candidate and nothing else is asked for. -/
lemma discover_eq (hnothing : alwaysInclude lib getenv = []) (hmax : 0 < config.maxSymbols)
    {candidate : SymbolCandidate α} (hcandidate : candidate ∈ candidates lib config exchange) :
    discoverTradeableSymbols lib config getenv (some exchange)
      = (BestFirst.best Outranks config.maxSymbols.toNat
        (candidates lib config exchange)).map SymbolCandidate.symbol := by
  have hallowed : allowedSymbols lib config exchange ≠ [] :=
    List.ne_nil_of_mem (mem_candidates.mp hcandidate).1
  have hbest := BestFirst.best_best ranking_outranks config.maxSymbols.toNat
    (candidates lib config exchange)
  have hchosen : BestFirst.best Outranks config.maxSymbols.toNat (candidates lib config exchange)
      ≠ [] := by
    rw [ne_eq, hbest.eq_nil_iff (by omega)]
    exact List.ne_nil_of_mem hcandidate
  simp only [discoverTradeableSymbols, not_le.mpr hmax, if_false, if_neg hallowed, hnothing,
    withRequested_nil, List.map_eq_nil_iff, if_neg hchosen]

/-- **The best candidates** are a sound selection exactly if they all have a quote. -/
lemma sound_best_iff (hmax : 0 < config.maxSymbols) :
    Sound lib config exchange ((BestFirst.best Outranks config.maxSymbols.toNat
        (candidates lib config exchange)).map SymbolCandidate.symbol)
      ↔ ∀ candidate ∈ BestFirst.best Outranks config.maxSymbols.toNat
        (candidates lib config exchange), ¬ Unquoted lib config exchange candidate := by
  have hbest := BestFirst.best_best ranking_outranks config.maxSymbols.toNat
    (candidates lib config exchange)
  generalize BestFirst.best Outranks config.maxSymbols.toNat (candidates lib config exchange) = kept
    at hbest ⊢
  have hsame : ∀ first ∈ candidates lib config exchange, ∀ second ∈ candidates lib config exchange,
      first.symbol = second.symbol → first = second :=
    fun first hfirst second hsecond hsymbol =>
      List.inj_on_of_nodup_map (candidates_distinct lib config exchange) hfirst hsecond hsymbol
  constructor
  · intro hsound candidate hkept
    obtain ⟨eligible, heligible, hsymbol⟩ := hsound.eligible _ (List.mem_map_of_mem hkept)
    obtain ⟨hcandidate, hquoted⟩ := eligible_iff.mp heligible
    rw [← hsame eligible hcandidate candidate (hbest.mem hkept) hsymbol]
    exact hquoted
  · intro hquoted
    obtain ⟨dropped, hperm, hbetter⟩ := hbest.selected
    constructor
    · rw [List.length_map, hbest.size]
      omega
    · have hdistinct := ((hperm.map SymbolCandidate.symbol).nodup_iff).mp
        (candidates_distinct lib config exchange)
      rw [List.map_append] at hdistinct
      exact (List.nodup_append.mp hdistinct).1
    · intro symbol hsymbol
      obtain ⟨candidate, hkept, rfl⟩ := List.mem_map.mp hsymbol
      exact ⟨candidate, eligible_iff.mpr ⟨hbest.mem hkept, hquoted candidate hkept⟩, rfl⟩
    · intro chosen missed hchosen hmissed hin hout
      obtain ⟨candidate, hkept, hsymbol⟩ := List.mem_map.mp hin
      rw [hsame candidate (hbest.mem hkept) chosen (eligible_iff.mp hchosen).1 hsymbol] at hkept
      refine hbetter chosen hkept missed ?_
      rcases List.mem_append.mp (hperm.mem_iff.mp (eligible_iff.mp hmissed).1) with hmem | hmem
      · exact absurd (List.mem_map_of_mem hmem) hout
      · exact hmem

/-- **When discovery respects its filters.**  If nothing is asked for besides, and some market is
eligible, the selection is sound exactly if each market that passes without a two-sided quote has as
many candidates before it as are selected.  (With no room for any symbol, the fallback has to be
empty.) -/
theorem selection_sound_iff (hnothing : alwaysInclude lib getenv = [])
    (heligible : ∃ candidate, Eligible lib config exchange candidate) :
    Sound lib config exchange (discoverTradeableSymbols lib config getenv (some exchange))
      ↔ (0 < config.maxSymbols ∧ ∀ candidate ∈ candidates lib config exchange,
          Unquoted lib config exchange candidate → config.maxSymbols
            ≤ BestFirst.standing Outranks (candidates lib config exchange) candidate)
        ∨ (config.maxSymbols = 0 ∧ config.fallbackSymbols = []) := by
  rcases lt_or_ge 0 config.maxSymbols with hmax | hmax
  · obtain ⟨eligible, heligible⟩ := heligible
    have hnodup : (candidates lib config exchange).Nodup :=
      (candidates_distinct lib config exchange).of_map
    rw [discover_eq hnothing hmax (eligible_iff.mp heligible).1, sound_best_iff hmax]
    constructor
    · intro hquoted
      refine Or.inl ⟨hmax, fun candidate hcandidate hunquoted => ?_⟩
      by_contra hroom
      refine hquoted candidate ?_ hunquoted
      rw [BestFirst.mem_best_iff ranking_outranks hnodup hcandidate]
      omega
    · rintro (⟨-, houtranked⟩ | ⟨hzero, -⟩)
      · intro candidate hkept hunquoted
        have hcandidate := (BestFirst.best_best ranking_outranks config.maxSymbols.toNat
          (candidates lib config exchange)).mem hkept
        rw [BestFirst.mem_best_iff ranking_outranks hnodup hcandidate] at hkept
        have hfull := houtranked candidate hcandidate hunquoted
        omega
      · omega
  · have hfallback : discoverTradeableSymbols lib config getenv (some exchange)
        = config.fallbackSymbols := if_pos hmax
    rw [hfallback]
    constructor
    · intro hsound
      have hsize := hsound.size
      refine Or.inr ⟨by omega, List.eq_nil_of_length_eq_zero (by omega)⟩
    · rintro (⟨hpositive, -⟩ | ⟨hzero, hnone⟩)
      · omega
      · rw [hnone]
        refine ⟨by rw [List.length_nil, hzero, Nat.cast_zero], List.nodup_nil, ?_, ?_⟩
        · intro symbol hsymbol
          cases hsymbol
        · intro chosen missed hchosen hmissed hin
          cases hin

end Selection

end SymbolDiscovery

end Definitions

namespace SymbolDiscovery

/-- A logarithm that is right for powers of ten. -/
def digitsLib : DiscoveryLib ℚ := ⟨pyUpper, fun x => (toString ⌊x⌋.toNat).length - 1⟩

/-- A ticker with this volume in millions and these sides. -/
def tickerOf (millions : ℤ) (sides : List (String × PyVal ℚ)) : List (String × PyVal ℚ) :=
  [("last", .float 1), ("quoteVolume", .int (1000000 * millions)), ("percentage", .float 3)] ++ sides

/-- The sides of a tight quote. -/
def tightSides : List (String × PyVal ℚ) := [("bid", .float (999 / 1000)), ("ask", .float 1)]

/-- Two markets; the second trades ten times as much, with these sides. -/
def twoMarkets (sides : List (String × PyVal ℚ)) : RawExchange ℚ where
  markets := some (Dict.ofList [("AAA/USDT", .dict [("active", .bool true), ("spot", .bool true)]),
    ("BBB/USDT", .dict [("active", .bool true), ("spot", .bool true)])])
  loadMarkets := .ok none
  fetchTickers := some fun _ => .ok (some (Dict.ofList
    [("AAA/USDT", .dict (tickerOf 1 tightSides)), ("BBB/USDT", .dict (tickerOf 10 sides))]))
  fetchTicker := none

/-- The first market as a candidate. -/
def firstCandidate : SymbolCandidate ℚ :=
  let spreadBps := quoteSpread (999 / 1000) 1
  ⟨"AAA/USDT", scoreCandidate digitsLib 1000000 3 spreadBps, 1000000, 3, spreadBps⟩

/-- The second one, as if its spread were zero. -/
def secondCandidate : SymbolCandidate ℚ :=
  ⟨"BBB/USDT", scoreCandidate digitsLib 10000000 3 0, 10000000, 3, 0⟩

lemma twoSided_tight : TwoSided (tickerOf 1 tightSides) := by
  constructor <;> decide +kernel

lemma eligible_first {config : DiscoveryConfig ℚ} {sides : List (String × PyVal ℚ)}
    (hallowed : "AAA/USDT" ∈ allowedSymbols digitsLib config (twoMarkets sides))
    (hspread : quoteSpread (999 / 1000) 1 ≤ config.maxSpreadBps)
    (hpasses : passesFilters config firstCandidate = true) :
    Eligible digitsLib config (twoMarkets sides) firstCandidate := by
  obtain ⟨hvolume, hlow, hhigh, -⟩ := passesFilters_iff.mp hpasses
  exact ⟨hallowed, ⟨_, rfl, by decide +kernel, twoSided_tight, hspread⟩, hvolume, hlow, hhigh⟩

/-- The wide quote of the second market is filtered, and the first market is selected. -/
theorem selection_sound_wide : Sound digitsLib {} (twoMarkets [("bid", .float (9 / 10)),
    ("ask", .str "1.10")]) (discoverTradeableSymbols digitsLib {} (fun _ => none)
      (some (twoMarkets [("bid", .float (9 / 10)), ("ask", .str "1.10")]))) := by
  refine (selection_sound_iff (by decide +kernel) ⟨firstCandidate, eligible_first (by decide +kernel)
    (by decide +kernel) (by decide +kernel)⟩).mpr (Or.inl ⟨by decide, fun candidate hmem => ?_⟩)
  have honly : candidates digitsLib {} (twoMarkets [("bid", .float (9 / 10)), ("ask", .str "1.10")])
      = [firstCandidate] := by
    decide +kernel
  rw [honly, List.mem_singleton] at hmem
  intro hunquoted
  rw [hmem] at hunquoted
  exact absurd twoSided_tight (hunquoted _ rfl)

/-- A market that nobody quotes is selected before one with a tight quote. -/
theorem unquoted_market_selected :
    alwaysInclude digitsLib (fun _ => none) = []
      ∧ Eligible digitsLib { maxSymbols := 1 } (twoMarkets []) firstCandidate
      ∧ ¬ Sound digitsLib { maxSymbols := 1 } (twoMarkets []) (discoverTradeableSymbols digitsLib
        { maxSymbols := 1 } (fun _ => none) (some (twoMarkets []))) := by
  have hnothing : alwaysInclude digitsLib (fun _ => none) = [] := by decide +kernel
  have heligible : Eligible digitsLib { maxSymbols := 1 } (twoMarkets []) firstCandidate :=
    eligible_first (by decide +kernel) (by decide +kernel) (by decide +kernel)
  refine ⟨hnothing, heligible, ?_⟩
  have hcandidate : secondCandidate ∈ candidates digitsLib { maxSymbols := 1 } (twoMarkets []) := by
    decide +kernel
  have hstanding : BestFirst.standing Outranks
      (candidates digitsLib { maxSymbols := 1 } (twoMarkets [])) secondCandidate < 1 := by
    decide +kernel
  have hchosen := (BestFirst.mem_best_iff ranking_outranks
    (candidates_distinct digitsLib { maxSymbols := 1 } (twoMarkets [])).of_map hcandidate).mpr hstanding
  rw [discover_eq hnothing (by decide) hcandidate, sound_best_iff (by decide)]
  intro hquoted
  refine hquoted secondCandidate hchosen fun ticker hticker htwo => ?_
  cases hticker
  exact absurd htwo.1 (by decide +kernel)

end SymbolDiscovery

end Aegis
