import AegisFortress.Feeds.MarketStateStore
import Mathlib.Data.List.Find

/-!
# Which tick a mark price comes from

`MarketStateStore.mark_prices()` goes through the ticks in the order in which their keys were first
used and lets later ones win.  A symbol that is quoted at several exchanges is therefore marked by
the exchange that was registered last, however old its tick is (`get?_markPrices`), and the mark is
the latest price only when that tick is the latest one or quotes the same (`marks_current_iff`).
-/

namespace Aegis

namespace MarketStateStore

open Dict

variable {ticks : List (MarketTick ℚ)} {symbol : String} {tick other : MarketTick ℚ}

/-- The store after a sequence of `update_tick` calls. -/
def stored (ticks : List (MarketTick ℚ)) : MarketStateStore ℚ := ticks.foldl updateTick init

/-- Where a tick is stored. -/
def keyOf (tick : MarketTick ℚ) : String := key tick.exchange tick.symbol

/-- The mid price of a two-sided quote, the last price without one. -/
def quote (tick : MarketTick ℚ) : ℚ :=
  if 0 < tick.bid ∧ 0 < tick.ask then (tick.bid + tick.ask) / 2 else tick.last

/-- When a key was used for the first time. -/
def firstUse (ticks : List (MarketTick ℚ)) (key : String) : ℕ := (ticks.map keyOf).idxOf key

/-- Every mark is the price of the latest tick for its symbol, and every symbol has one. -/
structure Current (ticks : List (MarketTick ℚ)) : Prop where
  price : ∀ symbol newest, lastOf MarketTick.symbol ticks symbol = some newest →
    (stored ticks).markPrices.get? symbol = some (quote newest)
  known : ∀ symbol,
    symbol ∈ (stored ticks).markPrices.keys ↔ ∃ tick ∈ ticks, tick.symbol = symbol

/-- The tick has not been replaced under its key, and among those of its symbol that have not it is
the one whose key was registered last. -/
structure Shown (ticks : List (MarketTick ℚ)) (symbol : String) (tick : MarketTick ℚ) : Prop where
  named : tick.symbol = symbol
  stays : lastOf keyOf ticks (keyOf tick) = some tick
  registered : ∀ other : MarketTick ℚ, other.symbol = symbol →
    lastOf keyOf ticks (keyOf other) = some other →
    firstUse ticks (keyOf other) ≤ firstUse ticks (keyOf tick)

/-! ## What the store holds -/

lemma stored_ticks (ticks : List (MarketTick ℚ)) :
    (stored ticks).ticks = ofList (ticks.map fun tick => (keyOf tick, tick)) := by
  induction ticks using List.reverseRecOn with
  | nil => rfl
  | append_singleton ticks tick ih =>
      rw [List.map_append, List.map_singleton, ofList_concat, ← ih, stored, List.foldl_append]
      rfl

lemma mem_stored {k : String} :
    (k, tick) ∈ (stored ticks).ticks.entries ↔ lastOf keyOf ticks k = some tick := by
  rw [← get?_eq_some, stored_ticks, get?_ofList keyOf fun tick => tick, Option.map_id']

/-- The ticks are stored in the order in which their keys were first used. -/
lemma stored_ordered (ticks : List (MarketTick ℚ)) : (stored ticks).ticks.entries.Pairwise
    fun a b => firstUse ticks a.1 < firstUse ticks b.1 := by
  have hkeys := keys_ofList_pairwise (ticks.map fun tick => (keyOf tick, tick))
  rw [← stored_ticks, List.map_map, keys, List.pairwise_map] at hkeys
  exact hkeys

/-- `tick.mid_price or tick.last`. -/
lemma quote_eq (tick : MarketTick ℚ) :
    (if tick.midPrice = 0 then tick.last else tick.midPrice) = quote tick := by
  rw [quote, MarketTick.midPrice]
  by_cases htwo : 0 < tick.bid ∧ 0 < tick.ask
  · have hmid : (tick.bid + tick.ask) / 2 ≠ 0 := by linarith [htwo.1, htwo.2]
    simp [htwo, hmid]
  · by_cases hlast : 0 < tick.last
    · simp [htwo, hlast, hlast.ne']
    · simp [htwo, hlast]

lemma markPrices_eq (store : MarketStateStore ℚ) :
    store.markPrices = ofList (store.ticks.entries.map fun e => (e.2.symbol, quote e.2)) := by
  rw [markPrices, ofList, List.foldl_map]
  simp only [quote_eq]

/-! ## The tick that is shown -/

/-- At most one tick is shown for a symbol. -/
lemma Shown.unique (h : Shown ticks symbol tick) (h' : Shown ticks symbol other) :
    tick = other := by
  have huse : firstUse ticks (keyOf tick) = firstUse ticks (keyOf other) :=
    le_antisymm (h'.registered tick h.named h.stays) (h.registered other h'.named h'.stays)
  have hmem : keyOf tick ∈ ticks.map keyOf := List.mem_map_of_mem (lastOf_mem h.stays)
  have hkey : keyOf tick = keyOf other := (List.idxOf_inj hmem).mp huse
  have hstays := h'.stays
  rw [← hkey, h.stays] at hstays
  exact Option.some.inj hstays

/-- The last stored tick of a symbol is the one that is shown. -/
lemma shown_of_last {e : String × MarketTick ℚ}
    (h : lastOf (fun e => e.2.symbol) (stored ticks).ticks.entries symbol = some e) :
    Shown ticks symbol e.2 := by
  have hstays := mem_stored.mp (show (e.1, e.2) ∈ _ from lastOf_mem h)
  have hkey : keyOf e.2 = e.1 := lastOf_key hstays
  obtain ⟨hnamed, before, after, heq, hafter⟩ := lastOf_eq_some_iff.mp h
  refine ⟨hnamed, hkey ▸ hstays, ?_⟩
  intro other hother hlast
  have hordered := stored_ordered ticks
  rw [heq, List.pairwise_append] at hordered
  rcases List.mem_append.mp (heq ▸ mem_stored.mpr hlast) with hbefore | hrest
  · rw [hkey]
    exact (hordered.2.2 _ hbefore e List.mem_cons_self).le
  · rcases List.mem_cons.mp hrest with rfl | hmem
    · exact le_rfl
    · exact absurd hother (hafter _ hmem)

/-- **A symbol is marked by the exchange that was registered last.** -/
theorem get?_markPrices (ticks : List (MarketTick ℚ)) (symbol : String) (price : ℚ) :
    (stored ticks).markPrices.get? symbol = some price
      ↔ ∃ tick, Shown ticks symbol tick ∧ quote tick = price := by
  rw [markPrices_eq, get?_ofList, Option.map_eq_some_iff]
  constructor
  · rintro ⟨e, hlast, hprice⟩
    exact ⟨e.2, shown_of_last hlast, hprice⟩
  · rintro ⟨tick, hshown, hprice⟩
    have hmem := mem_stored.mpr hshown.stays
    obtain ⟨e, hlast⟩ := lastOf_isSome (f := fun e => e.2.symbol) hmem
    rw [hshown.named] at hlast
    refine ⟨e, hlast, ?_⟩
    rw [(shown_of_last hlast).unique hshown, hprice]

/-! ## When the marks are the latest prices -/

/-- **The marks are current exactly when the tick that is shown for a symbol quotes what the latest
tick of the symbol quotes.** -/
theorem marks_current_iff (ticks : List (MarketTick ℚ)) :
    Current ticks ↔ ∀ symbol newest, lastOf MarketTick.symbol ticks symbol = some newest →
      ∃ shown, Shown ticks symbol shown ∧ quote shown = quote newest := by
  constructor
  · intro hcurrent symbol newest hnewest
    exact (get?_markPrices ticks symbol _).mp (hcurrent.price symbol newest hnewest)
  · intro hshown
    have hprice : ∀ symbol newest, lastOf MarketTick.symbol ticks symbol = some newest →
        (stored ticks).markPrices.get? symbol = some (quote newest) :=
      fun symbol newest hnewest =>
        (get?_markPrices ticks symbol _).mpr (hshown symbol newest hnewest)
    refine ⟨hprice, fun symbol => ?_⟩
    rw [mem_keys]
    constructor
    · rintro ⟨price, hget⟩
      obtain ⟨tick, htick, -⟩ := (get?_markPrices ticks symbol price).mp hget
      exact ⟨tick, lastOf_mem htick.stays, htick.named⟩
    · rintro ⟨tick, hmem, rfl⟩
      obtain ⟨newest, hnewest⟩ := lastOf_isSome (f := MarketTick.symbol) hmem
      exact ⟨_, hprice tick.symbol newest hnewest⟩

/-- A trade at an exchange that quotes no book. -/
def tradeAt (exchange : String) (price : ℚ) : MarketTick ℚ :=
  ⟨"BTC/USDT", exchange, 0, 0, price, 0, ⟨0⟩⟩

/-- Binance speaks first and last, Kraken in between. -/
def interleaved : List (MarketTick ℚ) :=
  [tradeAt "binance" 100, tradeAt "kraken" 101, tradeAt "binance" 105]

/-- Kraken's price stays although Binance has moved on. -/
theorem mark_stays_old :
    (stored interleaved).markPrices.get? "BTC/USDT" = some 101
      ∧ (lastOf MarketTick.symbol interleaved "BTC/USDT").map quote = some 105
      ∧ ¬ Current interleaved := by
  have hmark : (stored interleaved).markPrices.get? "BTC/USDT" = some 101 := by decide +kernel
  have hlast : lastOf MarketTick.symbol interleaved "BTC/USDT" = some (tradeAt "binance" 105) := by
    simp [interleaved, lastOf, tradeAt]
  have hquote : quote (tradeAt "binance" 105) = 105 := by simp [quote, tradeAt]
  refine ⟨hmark, by simp [hlast, hquote], fun hcurrent => ?_⟩
  have hprice := hcurrent.price "BTC/USDT" _ hlast
  rw [hmark, hquote] at hprice
  norm_num at hprice

end MarketStateStore

end Aegis
