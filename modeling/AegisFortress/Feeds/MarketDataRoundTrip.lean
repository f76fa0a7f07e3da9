import AegisFortress.Feeds.BestLevels

/-!
# Market data as dictionaries

A tick or an order book is written with `to_dict` and read back by the normalizer, which looks for
other keys first and sorts what is sorted already.  What has been normalized once comes back as it
was (`market_data_round_trip`).
-/

namespace Aegis

namespace MarketDataNormalizer

open BestFirst

variable {lib : StdLib ℚ} {now : DateTime} {exchange symbol : String} {payload : PyVal ℚ}

/-- The time of a record that has been written. -/
lemma extractTimestamp_written {items : List (String × PyVal ℚ)} {stamp : DateTime}
    (htext : PyVal.get items "timestamp" = .str (lib.iso.isoformat stamp)) (hreads : lib.Reads stamp)
    (now : DateTime) : extractTimestamp lib now (timestampOf items) = .ok stamp := by
  have htruthy : (PyVal.str (lib.iso.isoformat stamp) : PyVal ℚ).truthy = true :=
    decide_eq_true hreads.text
  simp only [timestampOf, htext, PyVal.orElse, htruthy, if_true, extractTimestamp, PyVal.number?,
    hreads.back]

/-! ## Ticks -/

lemma normalizeTicker_ok {tick : MarketTick ℚ}
    (h : normalizeTicker lib now exchange symbol payload = .ok tick) :
    tick.exchange = exchange ∧ tick.symbol = symbol ∧ tick.isValid := by
  cases payload with
  | dict items =>
      rw [normalizeTicker] at h
      cases htime : extractTimestamp lib now (timestampOf items) with
      | error e => simp [htime, bind, Except.bind] at h
      | ok timestamp =>
          simp only [htime, bind, Except.bind] at h
          split_ifs at h with _ hvalid hvalid
          · cases h
            exact ⟨rfl, rfl, hvalid⟩
          · cases h
            exact ⟨rfl, rfl, hvalid⟩
  | _ => cases h

/-- A valid tick is read as it was written. -/
lemma normalizeTicker_toDict {tick : MarketTick ℚ} (hvalid : tick.isValid)
    (hreads : lib.Reads tick.timestamp) (now : DateTime) :
    normalizeTicker lib now tick.exchange tick.symbol (.dict (tick.toDict lib.iso)) = .ok tick := by
  have htime : extractTimestamp lib now (timestampOf (tick.toDict lib.iso)) = .ok tick.timestamp :=
    extractTimestamp_written rfl hreads now
  have hbid : extractFloat (tick.toDict lib.iso) ["bid", "bestBid", "best_bid"] = tick.bid := rfl
  have hask : extractFloat (tick.toDict lib.iso) ["ask", "bestAsk", "best_ask"] = tick.ask := rfl
  have hlast : extractFloat (tick.toDict lib.iso) ["last", "close", "mark", "price"] = tick.last :=
    rfl
  have hvolume : extractFloat (tick.toDict lib.iso) ["baseVolume", "volume", "quoteVolume"]
      = tick.volume := rfl
  have hpriced : ¬ (tick.last ≤ 0 ∧ 0 < tick.bid ∧ 0 < tick.ask) :=
    fun h => absurd hvalid.2.2.1 (not_lt.mpr h.1)
  simp only [normalizeTicker, htime, hbid, hask, hlast, hvolume, if_neg hpriced, bind, Except.bind]
  exact if_pos hvalid

/-- A normalized tick survives its dictionary. -/
lemma ticker_round_trip {tick : MarketTick ℚ}
    (h : normalizeTicker lib now exchange symbol payload = .ok tick) (hreads : lib.Reads tick.timestamp)
    (later : DateTime) :
    normalizeTicker lib later exchange symbol (.dict (tick.toDict lib.iso)) = .ok tick := by
  obtain ⟨rfl, rfl, hvalid⟩ := normalizeTicker_ok h
  exact normalizeTicker_toDict hvalid hreads later

/-! ## Order books -/

/-- What a normalized order book is like. -/
structure Written (book : OrderBookSnapshot ℚ) : Prop where
  valid : book.isValid
  bids : book.bids.Pairwise bidFirst
  asks : book.asks.Pairwise askFirst
  positive : ∀ level ∈ book.bids ++ book.asks, 0 < level.price ∧ 0 < level.quantity

lemma normalizeOrderbook_ok {depth : ℤ} {book : OrderBookSnapshot ℚ}
    (h : normalizeOrderbook lib now exchange symbol payload depth = .ok book) :
    book.exchange = exchange ∧ book.symbol = symbol ∧ Written book := by
  cases payload with
  | dict items =>
      rw [normalizeOrderbook] at h
      cases htime : extractTimestamp lib now (timestampOf items) with
      | error e => simp [htime, bind, Except.bind] at h
      | ok timestamp =>
          simp only [htime, bind, Except.bind, normalizeLevels_bids, normalizeLevels_asks] at h
          split_ifs at h with hvalid
          cases h
          have hbids := best_best bidFirst_ranking
            (room depth (validLevels (sideOf items "bids")).length) (validLevels (sideOf items "bids"))
          have hasks := best_best askFirst_ranking
            (room depth (validLevels (sideOf items "asks")).length) (validLevels (sideOf items "asks"))
          refine ⟨rfl, rfl, hvalid, hbids.ordered, hasks.ordered, fun level hlevel => ?_⟩
          rcases List.mem_append.mp hlevel with hlevel | hlevel
          · exact validLevels_pos (hbids.mem hlevel)
          · exact validLevels_pos (hasks.mem hlevel)
  | _ => cases h

/-- A level that has been written is read as it was. -/
lemma parseLevel_toDict {level : OrderBookLevel ℚ} (hprice : 0 < level.price)
    (hquantity : 0 < level.quantity) : parseLevel level.toDict = some level := by
  have hgiven : ∀ x : ℚ, 0 < x → (PyVal.float x).truthy = true :=
    fun x hx => decide_eq_true hx.ne'
  refine parseLevel_eq_some.mpr (Or.inr ⟨_, .float level.price, .float level.quantity, rfl, ?_, ?_,
    ⟨rfl, hprice⟩, rfl, hquantity⟩)
  · exact List.find?_cons_of_pos (hgiven level.price hprice)
  · exact List.find?_cons_of_pos (hgiven level.quantity hquantity)

lemma validLevels_toDict {levels : List (OrderBookLevel ℚ)}
    (h : ∀ level ∈ levels, 0 < level.price ∧ 0 < level.quantity) :
    validLevels (.list (levels.map OrderBookLevel.toDict)) = levels := by
  rw [validLevels, List.filterMap_map]
  induction levels with
  | nil => rfl
  | cons level rest ih =>
      obtain ⟨hprice, hquantity⟩ := h level List.mem_cons_self
      have hlevel : (parseLevel ∘ OrderBookLevel.toDict) level = some level :=
        parseLevel_toDict hprice hquantity
      rw [List.filterMap_cons_some hlevel, ih fun other hother => h other (List.mem_cons_of_mem _ hother)]

/-- A book that is in order and fits into the depth is read as it was written. -/
lemma normalizeOrderbook_toDict {book : OrderBookSnapshot ℚ} (hbook : Written book)
    (hreads : lib.Reads book.timestamp) (now : DateTime) {depth : ℤ}
    (hbids : book.bids.length ≤ depth) (hasks : book.asks.length ≤ depth) :
    normalizeOrderbook lib now book.exchange book.symbol (.dict (book.toDict lib.iso)) depth
      = .ok book := by
  have htime : extractTimestamp lib now (timestampOf (book.toDict lib.iso)) = .ok book.timestamp :=
    extractTimestamp_written rfl hreads now
  have hdepth : 0 ≤ depth := (Int.natCast_nonneg _).trans hbids
  have hsequence : extractInt (book.toDict lib.iso) ["nonce", "sequence", "lastUpdateId"]
      = book.sequence := by
    cases hnone : book.sequence with
    | none => simp [extractInt, OrderBookSnapshot.toDict, PyVal.get, List.lookup_cons, hnone]
    | some n => simp [extractInt, OrderBookSnapshot.toDict, PyVal.get, List.lookup_cons, hnone]
  have hbidsKept : validLevels (sideOf (book.toDict lib.iso) "bids") = book.bids :=
    validLevels_toDict fun level h => hbook.positive level (List.mem_append_left _ h)
  have hasksKept : validLevels (sideOf (book.toDict lib.iso) "asks") = book.asks :=
    validLevels_toDict fun level h => hbook.positive level (List.mem_append_right _ h)
  rw [normalizeOrderbook_eq hdepth htime]
  have hsame : bookOf book.exchange book.symbol (book.toDict lib.iso) depth book.timestamp = book := by
    rw [bookOf, hbidsKept, hasksKept, hsequence, best_of_ordered hbook.bids (by omega),
      best_of_ordered hbook.asks (by omega)]
  rw [hsame, if_pos hbook.valid]

/-- A normalized order book survives its dictionary, at any depth it fits into. -/
lemma orderbook_round_trip {depth : ℤ} {book : OrderBookSnapshot ℚ}
    (h : normalizeOrderbook lib now exchange symbol payload depth = .ok book)
    (hreads : lib.Reads book.timestamp) (later : DateTime) {depth' : ℤ}
    (hbids : book.bids.length ≤ depth') (hasks : book.asks.length ≤ depth') :
    normalizeOrderbook lib later exchange symbol (.dict (book.toDict lib.iso)) depth' = .ok book := by
  obtain ⟨rfl, rfl, hbook⟩ := normalizeOrderbook_ok h
  exact normalizeOrderbook_toDict hbook hreads later hbids hasks

/-! ## Both -/

/-- **Market data survives serialization.**  What the normalizer returned for an exchange and a symbol
is returned again when its dictionary is normalized, whenever that is done. -/
theorem market_data_round_trip (lib : StdLib ℚ) (now later : DateTime) (exchange symbol : String)
    (payload : PyVal ℚ) :
    (∀ tick, normalizeTicker lib now exchange symbol payload = .ok tick → lib.Reads tick.timestamp →
        normalizeTicker lib later exchange symbol (.dict (tick.toDict lib.iso)) = .ok tick)
      ∧ ∀ (depth depth' : ℤ) book,
        normalizeOrderbook lib now exchange symbol payload depth = .ok book →
        lib.Reads book.timestamp → book.bids.length ≤ depth' → book.asks.length ≤ depth' →
        normalizeOrderbook lib later exchange symbol (.dict (book.toDict lib.iso)) depth' = .ok book :=
  ⟨fun _ h hreads => ticker_round_trip h hreads later,
    fun _ _ _ h hreads hbids hasks => orderbook_round_trip h hreads later hbids hasks⟩

/-- A ticker without a last price. -/
def quoted : List (String × PyVal ℚ) := [("bestBid", .str "99.5"), ("ask", .float 100)]

/-- What it is normalized to at the beginning of the epoch. -/
def quotedTick : MarketTick ℚ := ⟨"BTC/USDT", "binance", 199 / 2, 100, 399 / 4, 0, ⟨0⟩⟩

lemma quoted_ok :
    normalizeTicker epochLib ⟨0⟩ "binance" "BTC/USDT" (.dict quoted) = .ok quotedTick := by
  have hbid : extractFloat quoted ["bid", "bestBid", "best_bid"] = 199 / 2 := by decide +kernel
  have hask : extractFloat quoted ["ask", "bestAsk", "best_ask"] = 100 := rfl
  have hlast : extractFloat quoted ["last", "close", "mark", "price"] = 0 := rfl
  have hvolume : extractFloat quoted ["baseVolume", "volume", "quoteVolume"] = 0 := rfl
  have htime : extractTimestamp epochLib ⟨0⟩ (timestampOf quoted) = .ok ⟨0⟩ := rfl
  have hmiddle : (199 / 2 + 100) / PyFloat.ofRat 2 = (399 / 4 : ℚ) := by norm_num
  have hpriced : (0 : ℚ) ≤ 0 ∧ (0 : ℚ) < 199 / 2 ∧ (0 : ℚ) < 100 := by norm_num
  have hvalid : quotedTick.isValid := by decide +kernel
  simp only [normalizeTicker, hbid, hask, hlast, hvolume, htime, bind, Except.bind, if_pos hpriced,
    hmiddle]
  exact if_pos hvalid

/-- A tick and a book of the first moment of the epoch, read again at a later one. -/
theorem market_data_round_trip_epoch :
    normalizeTicker epochLib ⟨5⟩ "binance" "BTC/USDT"
        (.dict (quotedTick.toDict epochFormat)) = .ok quotedTick
      ∧ normalizeOrderbook epochLib ⟨5⟩ "binance" "BTC/USDT"
        (.dict ((bookOf "binance" "BTC/USDT" mixed 2 ⟨0⟩).toDict epochFormat)) 2
        = .ok (bookOf "binance" "BTC/USDT" mixed 2 ⟨0⟩) := by
  have hreads : epochLib.Reads ⟨0⟩ := ⟨by decide, rfl⟩
  obtain ⟨htick, -⟩ := market_data_round_trip epochLib ⟨0⟩ ⟨5⟩ "binance" "BTC/USDT" (.dict quoted)
  obtain ⟨-, hbook⟩ := market_data_round_trip epochLib ⟨0⟩ ⟨5⟩ "binance" "BTC/USDT" (.dict mixed)
  refine ⟨htick quotedTick quoted_ok hreads, hbook 2 2 _ (mixed_ok ⟨0⟩) hreads ?_ ?_⟩
  · have hsize := (best_best bidFirst_ranking 2 (validLevels (sideOf mixed "bids"))).size
    exact Nat.cast_le.mpr (hsize.trans_le (min_le_left _ _))
  · have hsize := (best_best askFirst_ranking 2 (validLevels (sideOf mixed "asks"))).size
    exact Nat.cast_le.mpr (hsize.trans_le (min_le_left _ _))

end MarketDataNormalizer

end Aegis
