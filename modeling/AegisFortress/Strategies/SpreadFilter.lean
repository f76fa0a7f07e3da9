import AegisFortress.Feeds.MarketDataRoundTrip
import AegisFortress.Strategies.SignalSteps

/-!
# The spread filter

The strategy reads the spread of a normalized order book from its dictionary.  There it stands as the
best ask less the best bid, and a negative one is taken for none at all: a book that is crossed passes
the filter however far its sides are apart, and is traded on when nothing else stops the entry
(`wide_books_filtered_iff`).  `EntryDemanded` lists all that an entry takes.
-/

namespace Aegis

namespace MeanReversionImbalanceStrategy

open Raising MarketDataNormalizer

variable {strategy : MeanReversionImbalanceStrategy ℚ} {ledger : PositionLedger ℚ}
  {killSwitch : KillSwitch ℚ} {clock : Monotonic ℚ} {state : StrategyState ℚ}
  {items : List (String × PyVal ℚ)} {symbol : String}
  {midPrice imbalance bestBid bestAsk : ℚ} {side : OrderSide}

/-! ## What an entry takes -/

/-- The figures ask for an entry on this side. -/
inductive Demanded (strategy : MeanReversionImbalanceStrategy ℚ) (state : StrategyState ℚ)
    (symbol : String) (midPrice imbalance : ℚ) : OrderSide → Prop
  | buy (low : strategy.scoreOf state symbol midPrice ≤ -strategy.entryZscore)
      (edge : strategy.requiredExpectedEdgeBps
        ≤ expectedEdgeBps (strategy.historyWith state symbol midPrice) midPrice)
      (confirmed : Confirmed strategy state symbol imbalance)
      (lean : strategy.imbalanceThreshold ≤ imbalance) :
      Demanded strategy state symbol midPrice imbalance .buy
  | sell (calls : strategy.Calls (strategy.scoreOf state symbol midPrice) imbalance .sell) :
      Demanded strategy state symbol midPrice imbalance .sell

/-- Nothing stands in the way of an entry, and the figures ask for it. -/
structure EntryDemanded (strategy : MeanReversionImbalanceStrategy ℚ) (ledger : PositionLedger ℚ)
    (killSwitch : KillSwitch ℚ) (clock : Monotonic ℚ) (state : StrategyState ℚ)
    (items : List (String × PyVal ℚ)) (symbol : String)
    (midPrice imbalance bestBid bestAsk : ℚ) (side : OrderSide) : Prop
    extends Admitted strategy ledger killSwitch clock state items symbol midPrice imbalance bestBid
      bestAsk where
  sized : 0 < strategy.entryQuantity midPrice
  demanded : Demanded strategy state symbol midPrice imbalance side

/-- What is demanded is built. -/
lemma Demanded.built (h : Demanded strategy state symbol midPrice imbalance side)
    (hsized : 0 < strategy.entryQuantity midPrice) :
    Leads (strategy.buildEntrySignal symbol midPrice bestBid bestAsk
        (strategy.scoreOf state symbol midPrice) imbalance
        (expectedEdgeBps (strategy.historyWith state symbol midPrice) midPrice))
      (strategy.flatState clock state symbol midPrice)
      (fun signal _ => signal = some (strategy.entrySignal side symbol midPrice bestBid bestAsk
        (strategy.scoreOf state symbol midPrice) imbalance)) (fun _ _ => False) := by
  simp only [buildEntrySignal, imbalanceConfirmed, leads_ite, leads_bind, leads_get, leads_modify,
    leads_pure]
  refine ⟨fun hsmall => absurd hsized (not_lt.mpr hsmall), fun _ => ?_⟩
  cases h with
  | buy low edge confirmed lean =>
      refine ⟨fun _ => ⟨fun hedge => absurd edge (not_le.mpr hedge), fun _ =>
        ⟨fun hunconfirmed => ?_, fun _ => ⟨fun hlean => absurd lean (not_le.mpr hlean), fun _ => rfl⟩⟩⟩,
        fun hhigh => absurd low hhigh⟩
      refine absurd ?_ hunconfirmed
      rw [decide_eq_true_eq]
      exact ⟨not_lt.mpr confirmed.full, confirmed.all⟩
  | sell calls =>
      refine ⟨fun hlow => ?_, fun _ => ⟨fun _ => rfl, fun hno => absurd calls hno⟩⟩
      have hentry := strategy.accepted.entry
      have hhigh := calls.2.1
      linarith

/-- An entry that is demanded is returned. -/
lemma EntryDemanded.returned (h : EntryDemanded strategy ledger killSwitch clock state items symbol
      midPrice imbalance bestBid bestAsk side) :
    Leads (strategy.onOrderbook ledger killSwitch clock (.dict items)) state
      (fun signals _ => signals = [strategy.entrySignal side symbol midPrice bestBid bestAsk
        (strategy.scoreOf state symbol midPrice) imbalance]) (fun _ _ => False) := by
  refine h.toConsidered.leads_onOrderbook ?_
  simp only [h.flat, onFlat, leads_bind, leads_modify]
  refine (isSymbolBlocked_spec _ _ _).mono ?_ (fun _ _ h => h.elim)
  rintro blocked s ⟨rfl, hunblocked⟩
  simp only [leads_bind, leads_get, leads_ite, leads_modify, leads_pure, leads_lift]
  refine ⟨fun hblocked => ?_, fun _ => ⟨fun htrend => ?_, fun _ => ⟨fun hcooling => ?_, fun _ =>
    ⟨fun hmarket => absurd h.market hmarket, fun _ => ⟨fun bid hbid => ⟨fun ask hask => ?_,
      fun error hask => ?_⟩, fun error hbid => ?_⟩⟩⟩⟩⟩
  · exact absurd (hunblocked.mpr h.unblocked) (by rw [hblocked]; exact Bool.true_eq_false_eq_False)
  · exact absurd h.trend (not_lt.mpr htrend)
  · exact absurd (hcooling.symm.trans h.rested) Bool.true_eq_false_eq_False
  · cases h.bid_read.symm.trans hbid
    cases h.ask_read.symm.trans hask
    refine (h.demanded.built h.sized).mono ?_ (fun _ _ h => h.elim)
    rintro _ s rfl
    simp only [leads_bind, leads_modify, leads_pure]
  · cases hask.symm.trans h.ask_read
  · cases hbid.symm.trans h.bid_read

/-- **The strategy enters exactly when an entry is demanded.** -/
theorem enters_iff : strategy.Enters ledger killSwitch clock state items
    ↔ ∃ imbalance bestBid bestAsk side, EntryDemanded strategy ledger killSwitch clock state items
      (symbolOf items) (extractMidPrice items) imbalance bestBid bestAsk side := by
  constructor
  · rintro ⟨hflat, signals, state', hrun, hsome⟩
    have hhandled := (onOrderbook_handled strategy ledger killSwitch clock state _).ok hrun
    generalize hdict : PyVal.dict items = orderbook at hhandled
    cases hhandled with
    | bought hdict' hex hconfirmed hlean =>
        cases hdict.trans hdict'
        obtain rfl := hex.symbol_eq
        obtain rfl := hex.mid_eq
        exact ⟨_, _, _, .buy, ⟨hex.toConsidered, hex.flat, hex.unblocked, hex.trend, hex.rested,
          hex.market⟩, hex.sized, .buy hex.low hex.edge hconfirmed hlean⟩
    | sold hdict' due hmarket =>
        cases hdict.trans hdict'
        obtain rfl := due.symbol_eq
        obtain rfl := due.mid_eq
        exact ⟨_, _, _, .sell, ⟨due.toConsidered, due.flat, due.unblocked, due.trend, due.rested,
          hmarket⟩, due.sized, .sell due.calls⟩
    | exited hdict' due =>
        cases hdict.trans hdict'
        cases hflat.symm.trans (due.symbol_eq ▸ due.held)
    | _ => exact absurd rfl hsome
  · rintro ⟨imbalance, bestBid, bestAsk, side, h⟩
    obtain ⟨signals, state', hrun, hone⟩ := h.returned.returns
    exact ⟨h.flat, signals, state', hrun, by rw [hone]; exact List.cons_ne_nil _ _⟩

/-! ## The spread of a normalized order book -/

variable {lib : StdLib ℚ} {now : DateTime} {exchange : String} {payload : PyVal ℚ} {depth : ℤ}
  {book : OrderBookSnapshot ℚ} {iso : IsoFormat}

/-- The sides of the book are further apart than the strategy accepts, whichever is the higher. -/
def Wide (strategy : MeanReversionImbalanceStrategy ℚ) (book : OrderBookSnapshot ℚ) : Prop :=
  strategy.maxSpreadBps
    < |book.bestAsk - book.bestBid| / ((book.bestBid + book.bestAsk) / 2) * 10000

lemma midPrice_valid (hvalid : book.isValid) :
    book.midPrice = (book.bestBid + book.bestAsk) / 2 ∧ 0 < book.midPrice := by
  obtain ⟨-, -, -, -, hbid, hask⟩ := hvalid
  have hmid : book.midPrice = (book.bestBid + book.bestAsk) / 2 :=
    if_neg (not_or.mpr ⟨not_le.mpr hbid, not_le.mpr hask⟩)
  refine ⟨hmid, ?_⟩
  rw [hmid]
  linarith

lemma spread_valid (hvalid : book.isValid) : book.spread = book.bestAsk - book.bestBid := by
  obtain ⟨-, -, -, -, hbid, hask⟩ := hvalid
  exact if_neg (not_or.mpr ⟨not_le.mpr hbid, not_le.mpr hask⟩)

lemma extractMidPrice_toDict (hvalid : book.isValid) :
    extractMidPrice (book.toDict iso) = book.midPrice := by
  have hget : PyVal.get (book.toDict iso) "mid_price" = .float book.midPrice := rfl
  rw [extractMidPrice, hget]
  exact if_pos (midPrice_valid hvalid).2

/-- A negative spread reads as none. -/
lemma extractSpreadBps_toDict {midPrice : ℚ} (hmid : 0 < midPrice) :
    extractSpreadBps (book.toDict iso) midPrice
      = if 0 ≤ book.spread then book.spread / midPrice * 10000 else 0 := by
  have hbps : PyVal.get (book.toDict iso) "spread_bps" = .none := rfl
  have hget : PyVal.get (book.toDict iso) "spread" = .float book.spread := rfl
  rw [extractSpreadBps, hbps, hget]
  simp [PyVal.number?, PyVal.toFloat, hmid]

variable (iso) in
/-- The filter stops a wide book that is not crossed. -/
lemma crossed_of_narrow (hvalid : book.isValid) (hwide : Wide strategy book)
    (hnarrow : extractSpreadBps (book.toDict iso) (extractMidPrice (book.toDict iso))
      ≤ strategy.maxSpreadBps) : book.bestAsk < book.bestBid := by
  obtain ⟨hmid, hpos⟩ := midPrice_valid hvalid
  by_contra huncrossed
  have hspread : 0 ≤ book.bestAsk - book.bestBid := sub_nonneg.mpr (not_lt.mp huncrossed)
  rw [extractMidPrice_toDict hvalid, extractSpreadBps_toDict hpos, spread_valid hvalid,
    if_pos hspread, hmid] at hnarrow
  rw [Wide, abs_of_nonneg hspread] at hwide
  exact absurd hnarrow (not_le.mpr hwide)

/-- **A wide order book is filtered unless it is crossed and an entry is demanded on it.** -/
theorem wide_books_filtered_iff
    (hbook : normalizeOrderbook lib now exchange symbol payload depth = .ok book) :
    (Wide strategy book → ¬ strategy.Enters ledger killSwitch clock state (book.toDict lib.iso))
      ↔ ¬ (Wide strategy book ∧ book.bestAsk < book.bestBid
        ∧ ∃ side, EntryDemanded strategy ledger killSwitch clock state (book.toDict lib.iso)
          (symbolOf (book.toDict lib.iso)) book.midPrice book.imbalance book.bestBid book.bestAsk
          side) := by
  have hvalid := (normalizeOrderbook_ok hbook).2.2.valid
  rw [enters_iff, extractMidPrice_toDict hvalid]
  constructor
  · rintro hfiltered ⟨hwide, -, side, hdemanded⟩
    exact hfiltered hwide ⟨_, _, _, side, hdemanded⟩
  · rintro hno hwide ⟨imbalance, bestBid, bestAsk, side, hdemanded⟩
    have hcrossed : book.bestAsk < book.bestBid := by
      refine crossed_of_narrow lib.iso hvalid hwide ?_
      rw [extractMidPrice_toDict hvalid]
      exact hdemanded.narrow
    cases hdemanded.imbalance_read
    cases hdemanded.bid_read
    cases hdemanded.ask_read
    exact hno ⟨hwide, hcrossed, side, hdemanded⟩

/-! ## A book a percent wide -/

/-- One bid and one ask, with more to buy than to sell. -/
def oneLevel (bid ask : ℚ) : List (String × PyVal ℚ) :=
  [("bids", .list [.list [.float bid, .float 3]]), ("asks", .list [.list [.float ask, .float 1]])]

/-- What it is normalized to. -/
def oneLevelBook (bid ask : ℚ) : OrderBookSnapshot ℚ :=
  ⟨"BTC/USDT", "binance", [⟨bid, 3⟩], [⟨ask, 1⟩], none, ⟨0⟩⟩

lemma oneLevel_ok {bid ask : ℚ} (hbid : 0 < bid) (hask : 0 < ask) :
    normalizeOrderbook epochLib ⟨0⟩ "binance" "BTC/USDT" (.dict (oneLevel bid ask)) 20
      = .ok (oneLevelBook bid ask) := by
  have htime : extractTimestamp epochLib ⟨0⟩ (timestampOf (oneLevel bid ask)) = .ok ⟨0⟩ := rfl
  have hbids : validLevels (sideOf (oneLevel bid ask) "bids") = [⟨bid, 3⟩] := by
    have hparse : parseLevel (.list [.float bid, .float 3]) = some ⟨bid, (3 : ℚ)⟩ :=
      if_neg (not_or.mpr ⟨not_le.mpr hbid, by norm_num⟩)
    exact List.filterMap_cons_some hparse
  have hasks : validLevels (sideOf (oneLevel bid ask) "asks") = [⟨ask, 1⟩] := by
    have hparse : parseLevel (.list [.float ask, .float 1]) = some ⟨ask, (1 : ℚ)⟩ :=
      if_neg (not_or.mpr ⟨not_le.mpr hask, by norm_num⟩)
    exact List.filterMap_cons_some hparse
  have hbook : bookOf "binance" "BTC/USDT" (oneLevel bid ask) 20 ⟨0⟩ = oneLevelBook bid ask := by
    rw [bookOf, hbids, hasks, BestFirst.best_of_ordered (List.pairwise_singleton _ _) (by simp),
      BestFirst.best_of_ordered (List.pairwise_singleton _ _) (by simp)]
    rfl
  rw [normalizeOrderbook_eq (by decide) htime, hbook]
  exact if_pos (show (oneLevelBook bid ask).isValid from
    ⟨by simp [oneLevelBook], by simp [oneLevelBook], one_pos, one_pos, hbid, hask⟩)

/-- It has seen the bitcoin at 100 for 25 ticks. -/
def settled : StrategyState ℚ :=
  (List.replicate 25 (PyVal.dict [("symbol", .str "BTC/USDT"), ("mid_price", .float 100)])).foldl
    (fun state tick => final ((lowCapitalStrategy.onMarketTick tick).run state)) .init

/-- A bid of 98.5 and an ask of 99.5 are too far apart. -/
theorem wide_books_filtered_uncrossed :
    Wide lowCapitalStrategy (oneLevelBook (197 / 2) (199 / 2))
      ∧ ¬ lowCapitalStrategy.Enters .empty untriggered (.still 0) settled
        ((oneLevelBook (197 / 2) (199 / 2)).toDict epochLib.iso) := by
  have hwide : Wide lowCapitalStrategy (oneLevelBook (197 / 2) (199 / 2)) := by
    rw [Wide]
    decide +kernel
  refine ⟨hwide, (wide_books_filtered_iff (oneLevel_ok (by norm_num) (by norm_num))).mpr ?_ hwide⟩
  rintro ⟨-, hcrossed, -⟩
  exact absurd hcrossed (by decide +kernel)

/-- The other way round they are bought on. -/
theorem crossed_book_entered :
    normalizeOrderbook epochLib ⟨0⟩ "binance" "BTC/USDT" (.dict (oneLevel (199 / 2) (197 / 2))) 20
        = .ok (oneLevelBook (199 / 2) (197 / 2))
      ∧ Wide lowCapitalStrategy (oneLevelBook (199 / 2) (197 / 2))
      ∧ lowCapitalStrategy.Enters .empty untriggered (.still 0) settled
        ((oneLevelBook (199 / 2) (197 / 2)).toDict epochLib.iso) := by
  refine ⟨oneLevel_ok (by norm_num) (by norm_num), ?_, by decide +kernel, ?_⟩
  · rw [Wide]
    decide +kernel
  · have hbought : (match (lowCapitalStrategy.onOrderbook .empty untriggered (.still 0) (.dict
          ((oneLevelBook (199 / 2) (197 / 2)).toDict epochLib.iso))).run settled with
        | .ok signals _ => signals.map TradeSignal.side
        | .error _ _ => []) = [.buy] := by
      decide +kernel
    split at hbought
    · next signals state' hrun =>
        exact ⟨signals, state', hrun, fun hnone => by rw [hnone] at hbought; cases hbought⟩
    · cases hbought

end MeanReversionImbalanceStrategy

end Aegis
