import AegisFortress.Models.Order
import AegisFortress.Python.Builtins

/-!
# The smart order router

`core/smart_order_router.py`: among the exchanges that may execute, the one that sells at the lowest
ask or buys at the highest bid.  An exchange that raises is skipped.

`findBestExchange_price` says where the price comes from, `findBestExchange_quoted` what it is when
every exchange quotes the same book.
-/

namespace Aegis

/-- What an exchange client answers to the router; the two `get_best` methods may be missing. -/
structure Quotes (α : Type) where
  executionEnabled : Bool
  getBestAsk : Option (Except PyError (PyVal α))
  getBestBid : Option (Except PyError (PyVal α))
  fetchTicker : Except PyError (PyVal α)

namespace SmartOrderRouter

section Definitions

variable {α : Type} [Zero α] [LT α] [LE α] [DecidableLT α] [DecidableLE α] [DecidableEq α]
  [PyFloat α]

/-- The method the router asks first. -/
def quoteFor (quotes : Quotes α) : OrderSide → Option (Except PyError (PyVal α))
  | .buy => quotes.getBestAsk
  | .sell => quotes.getBestBid

/-- The field of the ticker it falls back to. -/
def fieldFor : OrderSide → String
  | .buy => "ask"
  | .sell => "bid"

/-- The second half of `_extract_execution_price`: the price in the ticker. -/
def tickerPrice (quotes : Quotes α) (side : OrderSide) : Except PyError (Option α) := do
  match ← quotes.fetchTicker with
  | .dict items =>
      match PyVal.get items (fieldFor side) with
      | .none => pure none
      | .str "" => pure none
      | value => value.toFloat.map some
  | _ => pure none

/-- `_extract_execution_price(exchange, symbol, side)`. -/
def extractExecutionPrice (quotes : Quotes α) (side : OrderSide) : Except PyError (Option α) :=
  match quoteFor quotes side with
  | none => tickerPrice quotes side
  | some (.error e) => .error e
  | some (.ok price) => if price.truthy then price.toFloat.map some else tickerPrice quotes side

/-- `price < best_price` for a `BUY`, `price > best_price` for a `SELL`. -/
def better (side : OrderSide) (price bestPrice : α) : Bool :=
  match side with
  | .buy => price < bestPrice
  | .sell => bestPrice < price

/-- `allowed_exchanges`. -/
def allowedExchanges (getenv : Environ) : List String :=
  (pySplit ',' (pyStrip ((getenv "AEGIS_EXECUTION_EXCHANGES").getD ""))).filterMap fun item =>
    if pyStrip item = "" then none else some (pyLower (pyStrip item))

/-- The exchange of that name may execute. -/
def eligible (getenv : Environ) (name : String) (quotes : Quotes α) : Bool :=
  (allowedExchanges getenv = [] ∨ pyLower name ∈ allowedExchanges getenv
    ∨ pyUpper name = "SIMULATED") ∧ quotes.executionEnabled

/-- The body of the loop: the best exchange so far, and this one. -/
def consider {E : Type} (getenv : Environ) (side : OrderSide) (quotesOf : E → Quotes α)
    (best : Option (E × α)) (entry : String × E) : Option (E × α) :=
  if ¬ eligible getenv entry.1 (quotesOf entry.2) then best
  else
    match extractExecutionPrice (quotesOf entry.2) side with
    | .error _ => best
    | .ok none => best
    | .ok (some price) =>
        if price ≤ 0 then best
        else
          match best with
          | none => some (entry.2, price)
          | some (bestExchange, bestPrice) =>
              if better side price bestPrice then some (entry.2, price)
              else some (bestExchange, bestPrice)

/-- `find_best_exchange(symbol, side, quantity)`, with what each exchange quotes for the symbol. -/
def findBestExchange {E : Type} (getenv : Environ) (registry : List (String × E))
    (quotesOf : E → Quotes α) (symbol side : String) : Except PyError (E × α) :=
  match OrderSide.ofString? side with
  | none => .error ⟨.valueError, "side must be BUY or SELL"⟩
  | some normalized =>
      match registry.foldl (consider getenv normalized quotesOf) none with
      | none => .error ⟨.runtimeError,
          s!"No routable exchange price found for {symbol} {normalized.value}"⟩
      | some best => .ok best

end Definitions

variable {E : Type} {getenv : Environ} {registry : List (String × E)} {quotesOf : E → Quotes ℚ}
  {side : OrderSide}

/-- The exchange and the price belong together, and the exchange may be used. -/
def Offered (getenv : Environ) (registry : List (String × E)) (quotesOf : E → Quotes ℚ)
    (side : OrderSide) (best : E × ℚ) : Prop :=
  ∃ name, (name, best.1) ∈ registry ∧ eligible getenv name (quotesOf best.1) = true
    ∧ extractExecutionPrice (quotesOf best.1) side = .ok (some best.2) ∧ 0 < best.2

lemma consider_offered {best : Option (E × ℚ)} {entry : String × E} (hentry : entry ∈ registry)
    (hbest : ∀ b ∈ best, Offered getenv registry quotesOf side b) :
    ∀ b ∈ consider getenv side quotesOf best entry, Offered getenv registry quotesOf side b := by
  intro b hb
  rw [consider] at hb
  by_cases heligible : eligible getenv entry.1 (quotesOf entry.2) = true
  swap
  · rw [if_pos heligible] at hb
    exact hbest b hb
  · rw [if_neg (not_not.mpr heligible)] at hb
    split at hb
    · exact hbest b hb
    · exact hbest b hb
    · rename_i price hprice
      split_ifs at hb with hpositive
      · exact hbest b hb
      · have hnew : Offered getenv registry quotesOf side (entry.2, price) :=
          ⟨entry.1, hentry, heligible, hprice, not_le.mp hpositive⟩
        split at hb
        · cases hb
          exact hnew
        · split_ifs at hb
          · cases hb
            exact hnew
          · exact hbest b hb

lemma foldl_offered : ∀ (entries : List (String × E)), entries ⊆ registry →
    ∀ best : Option (E × ℚ), (∀ b ∈ best, Offered getenv registry quotesOf side b) →
      ∀ b ∈ entries.foldl (consider getenv side quotesOf) best,
        Offered getenv registry quotesOf side b := by
  intro entries
  induction entries with
  | nil =>
      intro _ best hbest
      exact hbest
  | cons entry rest ih =>
      intro hsub best hbest
      obtain ⟨hentry, hrest⟩ := List.cons_subset.mp hsub
      rw [List.foldl_cons]
      exact ih hrest (consider getenv side quotesOf best entry) (consider_offered hentry hbest)

/-- **Where the price comes from**: an exchange that may execute has offered it. -/
theorem findBestExchange_price {symbol text : String} {best : E × ℚ}
    (hfound : findBestExchange getenv registry quotesOf symbol text = .ok best) :
    ∃ side, OrderSide.ofString? text = some side ∧ Offered getenv registry quotesOf side best := by
  rw [findBestExchange] at hfound
  split at hfound
  · cases hfound
  · rename_i side hside
    split at hfound
    · cases hfound
    · rename_i found hbest
      cases hfound
      refine ⟨side, hside, ?_⟩
      exact foldl_offered registry (List.Subset.refl _) none (by simp) best hbest

/-! ## One book -/

/-- The exchange quotes this book. -/
structure Shows (bestBid bestAsk : ℚ) (quotes : Quotes ℚ) : Prop where
  ask : quotes.getBestAsk = some (.ok (.float bestAsk))
  bid : quotes.getBestBid = some (.ok (.float bestBid))

/-- The price at which the book executes. -/
def touch (bestBid bestAsk : ℚ) : OrderSide → ℚ
  | .buy => bestAsk
  | .sell => bestBid

lemma touch_pos {bestBid bestAsk : ℚ} (hbid : 0 < bestBid) (hask : 0 < bestAsk) :
    0 < touch bestBid bestAsk side := by
  cases side with
  | buy => exact hask
  | sell => exact hbid

lemma Shows.price {bestBid bestAsk : ℚ} {quotes : Quotes ℚ} (h : Shows bestBid bestAsk quotes)
    (hbid : 0 < bestBid) (hask : 0 < bestAsk) :
    extractExecutionPrice quotes side = .ok (some (touch bestBid bestAsk side)) := by
  have htruthy : ∀ x : ℚ, 0 < x → (PyVal.float x).truthy = true := by
    intro x hx
    simp [PyVal.truthy, hx.ne']
  cases side with
  | buy =>
      rw [extractExecutionPrice, quoteFor, h.ask]
      simp only [htruthy bestAsk hask, if_true]
      rfl
  | sell =>
      rw [extractExecutionPrice, quoteFor, h.bid]
      simp only [htruthy bestBid hbid, if_true]
      rfl

/-- Every exchange quotes one book: an order to buy is routed at its ask, one to sell at its bid. -/
lemma findBestExchange_quoted {symbol : String} {best : E × ℚ} {bestBid bestAsk : ℚ}
    (hshows : ∀ entry ∈ registry, Shows bestBid bestAsk (quotesOf entry.2)) (hbid : 0 < bestBid)
    (hask : 0 < bestAsk)
    (hfound : findBestExchange getenv registry quotesOf symbol side.value = .ok best) :
    best.2 = touch bestBid bestAsk side := by
  obtain ⟨side', hside, name, hmem, -, hprice, -⟩ := findBestExchange_price hfound
  rw [OrderSide.ofString?_value, Option.some.injEq] at hside
  subst hside
  rw [(hshows _ hmem).price hbid hask] at hprice
  injection hprice with hprice
  injection hprice with hprice
  exact hprice.symm

/-- One exchange that quotes the book is enough to be routed. -/
lemma findBestExchange_single {symbol name : String} {exchange : E} {bestBid bestAsk : ℚ}
    (heligible : eligible getenv name (quotesOf exchange) = true)
    (hshows : Shows bestBid bestAsk (quotesOf exchange)) (hbid : 0 < bestBid) (hask : 0 < bestAsk) :
    findBestExchange getenv [(name, exchange)] quotesOf symbol side.value
      = .ok (exchange, touch bestBid bestAsk side) := by
  have hpositive : ¬ touch bestBid bestAsk side ≤ 0 := not_le.mpr (touch_pos hbid hask)
  have hfirst : consider getenv side quotesOf none (name, exchange)
      = some (exchange, touch bestBid bestAsk side) := by
    rw [consider, if_neg (not_not.mpr heligible), hshows.price hbid hask]
    simp only [if_neg hpositive]
  rw [findBestExchange, OrderSide.ofString?_value]
  simp only [List.foldl_cons, List.foldl_nil, hfirst]

end SmartOrderRouter

end Aegis
