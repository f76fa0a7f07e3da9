import AegisFortress.Backtesting.SimulatedExchange
import AegisFortress.Lib.History

/-!
# The orders of a simulated exchange

What `SimulatedExchange.create_order` answers in the course of a backtest, in which updates and orders
come in any order.

`executions_sane`: an accepted order gets an id of its own, is filled as a whole or not at all, and
never at a better price than the quote of its side.  The slippage model takes any number of basis
points that is not negative; from 10000 on a market sale is closed at a price that is not positive,
which the fill of the order then trips over.
-/

namespace Aegis

/-- What a client passes to `create_order`. -/
structure OrderRequest where
  symbol : String
  type : String
  side : String
  amount : ℚ
  price : Option ℚ

/-- A call on the exchange. -/
inductive ExchangeCall
  | update (update : MarketUpdate ℚ)
  | order (request : OrderRequest)

/-- An accepted order, and the exchange that accepted it. -/
structure Placed where
  request : OrderRequest
  before : SimulatedExchange ℚ
  order : SimulatedExchangeOrder ℚ

namespace SimulatedExchange

/-- `create_order(...)` of a request. -/
def create (exchange : SimulatedExchange ℚ) (request : OrderRequest) :
    Except PyError (SimulatedExchangeOrder ℚ × SimulatedExchange ℚ) :=
  exchange.createOrder request.symbol request.type request.side request.amount request.price

/-- One call: the exchange afterwards, and the orders accepted so far.  An order that raises leaves
nothing behind. -/
def call (state : SimulatedExchange ℚ × List Placed) :
    ExchangeCall → SimulatedExchange ℚ × List Placed
  | .update update => (update.apply state.1, state.2)
  | .order request =>
      match state.1.create request with
      | .ok (order, exchange) => (exchange, state.2 ++ [⟨request, state.1, order⟩])
      | .error _ => state

/-- The calls of a backtest. -/
def calls (feeModel : PercentageFeeModel ℚ) (slippageModel : BasisPointSlippageModel ℚ)
    (made : List ExchangeCall) : SimulatedExchange ℚ × List Placed :=
  made.foldl call (init feeModel slippageModel, [])

/-! ## Quotes -/

variable {exchange after : SimulatedExchange ℚ} {request : OrderRequest} {symbol : String}

lemma bestQuote_pos {ofBook : OrderBookSnapshot ℚ → ℚ} {ofTick : MarketTick ℚ → ℚ}
    {missing : String} {quote : ℚ}
    (h : exchange.bestQuote ofBook ofTick missing symbol = .ok quote) : 0 < quote := by
  rw [bestQuote_eq] at h
  have hpositive : ∀ {x q : ℚ}, positive x = some q → 0 < q := by
    intro x q hx
    rw [positive] at hx
    split_ifs at hx with hpos
    cases hx
    exact hpos
  cases hsome : ((exchange.orderbooks.get? symbol).bind fun b => positive (ofBook b)).or
      ((exchange.ticks.get? symbol).bind fun t => positive (ofTick t)) with
  | none =>
      rw [hsome] at h
      cases h
  | some found =>
      rw [hsome] at h
      cases h
      rcases Option.or_eq_some_iff.mp hsome with hbook | ⟨-, htick⟩
      · obtain ⟨b, -, hb⟩ := Option.bind_eq_some_iff.mp hbook
        exact hpositive hb
      · obtain ⟨t, -, ht⟩ := Option.bind_eq_some_iff.mp htick
        exact hpositive ht

/-! ## What an order costs -/

/-- The price an order is filled at; `none` when it stays open. -/
inductive Prices (exchange : SimulatedExchange ℚ) (request : OrderRequest) : Option ℚ → Prop
  | marketBuy (ask : ℚ) (htype : pyLower request.type = "market")
      (hside : pyLower request.side = "buy") (hask : exchange.getBestAsk request.symbol = .ok ask) :
      Prices exchange request (some (ask * (1 + exchange.slippageModel.bps / 10000)))
  | marketSell (bid : ℚ) (htype : pyLower request.type = "market")
      (hside : pyLower request.side = "sell") (hbid : exchange.getBestBid request.symbol = .ok bid) :
      Prices exchange request (some (bid * (1 - exchange.slippageModel.bps / 10000)))
  | limitBuy (limit ask : ℚ) (htype : pyLower request.type = "limit")
      (hside : pyLower request.side = "buy") (hprice : request.price = some limit)
      (hask : exchange.getBestAsk request.symbol = .ok ask) :
      Prices exchange request (if ask ≤ limit then some ask else none)
  | limitSell (limit bid : ℚ) (htype : pyLower request.type = "limit")
      (hside : pyLower request.side = "sell") (hprice : request.price = some limit)
      (hbid : exchange.getBestBid request.symbol = .ok bid) :
      Prices exchange request (if limit ≤ bid then some bid else none)

lemma apply_buy {quote : ℚ} (hquote : 0 < quote) (model : BasisPointSlippageModel ℚ) :
    model.apply (pyUpper "buy") quote = .ok (quote * (1 + model.bps / 10000)) := by
  have hside : pyUpper (pyUpper "buy") = "BUY" := by decide +kernel
  rw [BasisPointSlippageModel.apply, if_neg hquote.not_ge, hside]
  rfl

lemma apply_sell {quote : ℚ} (hquote : 0 < quote) (model : BasisPointSlippageModel ℚ) :
    model.apply (pyUpper "sell") quote = .ok (quote * (1 - model.bps / 10000)) := by
  have hside : pyUpper (pyUpper "sell") = "SELL" := by decide +kernel
  rw [BasisPointSlippageModel.apply, if_neg hquote.not_ge, hside]
  rfl

lemma determine_marketBuy (limit : Option ℚ) :
    exchange.determineFillPrice symbol "market" "buy" limit = (exchange.getBestAsk symbol).map
      fun ask => some (ask * (1 + exchange.slippageModel.bps / 10000)) := by
  simp only [determineFillPrice, ↓reduceIte]
  cases hask : exchange.getBestAsk symbol with
  | error e => rfl
  | ok ask => exact congrArg (Except.map some) (apply_buy (bestQuote_pos hask) _)

lemma determine_marketSell (limit : Option ℚ) :
    exchange.determineFillPrice symbol "market" "sell" limit = (exchange.getBestBid symbol).map
      fun bid => some (bid * (1 - exchange.slippageModel.bps / 10000)) := by
  have hside : ¬ "sell" = "buy" := by decide
  simp only [determineFillPrice, ↓reduceIte, hside]
  cases hbid : exchange.getBestBid symbol with
  | error e => rfl
  | ok bid => exact congrArg (Except.map some) (apply_sell (bestQuote_pos hbid) _)

lemma determine_limitBuy {limit : ℚ} (hlimit : ¬ limit ≤ 0) :
    exchange.determineFillPrice symbol "limit" "buy" (some limit)
      = (exchange.getBestAsk symbol).map fun ask => if ask ≤ limit then some ask else none := by
  have htype : ¬ "limit" = "market" := by decide
  simp only [determineFillPrice, ↓reduceIte, htype, hlimit]
  cases exchange.getBestAsk symbol with
  | error e => rfl
  | ok ask =>
      have hprice : (if ask ≤ limit then some (pyMin limit ask) else none)
          = if ask ≤ limit then some ask else none := by
        split_ifs with hcrosses
        · rw [pyMin_rat, min_eq_right hcrosses]
        · rfl
      exact congrArg Except.ok hprice

lemma determine_limitSell {limit : ℚ} (hlimit : ¬ limit ≤ 0) :
    exchange.determineFillPrice symbol "limit" "sell" (some limit)
      = (exchange.getBestBid symbol).map fun bid => if limit ≤ bid then some bid else none := by
  have htype : ¬ "limit" = "market" := by decide
  have hside : ¬ "sell" = "buy" := by decide
  simp only [determineFillPrice, ↓reduceIte, htype, hside, hlimit]
  cases exchange.getBestBid symbol with
  | error e => rfl
  | ok bid =>
      have hprice : (if limit ≤ bid then some (pyMax limit bid) else none)
          = if limit ≤ bid then some bid else none := by
        split_ifs with hcrosses
        · rw [pyMax_rat, max_eq_right hcrosses]
        · rfl
      exact congrArg Except.ok hprice

/-- A limit order was accepted with a positive limit. -/
lemma limit_of_determine {side : String} {limit : Option ℚ} {price : Option ℚ}
    (h : exchange.determineFillPrice symbol "limit" side limit = .ok price) :
    ∃ positive, limit = some positive ∧ ¬ positive ≤ 0 := by
  have htype : ¬ "limit" = "market" := by decide
  simp only [determineFillPrice, htype, if_false] at h
  cases limit with
  | none => cases h
  | some positive =>
      refine ⟨positive, rfl, fun hle => ?_⟩
      simp only [hle, if_true] at h
      cases h

lemma map_eq_ok {β γ : Type} {x : Except PyError β} {f : β → γ} {c : γ} (h : x.map f = .ok c) :
    ∃ b, x = .ok b ∧ c = f b := by
  cases x with
  | error e => cases h
  | ok b =>
      cases h
      exact ⟨b, rfl, rfl⟩

/-- **The fill price**, by type and side. -/
lemma prices_of_determine {price : Option ℚ}
    (htype : pyLower request.type = "market" ∨ pyLower request.type = "limit")
    (hside : pyLower request.side = "buy" ∨ pyLower request.side = "sell")
    (h : exchange.determineFillPrice request.symbol (pyLower request.type) (pyLower request.side)
      request.price = .ok price) : Prices exchange request price := by
  rcases htype with htype | htype
  · rcases hside with hside | hside
    · rw [htype, hside, determine_marketBuy] at h
      obtain ⟨ask, hask, rfl⟩ := map_eq_ok h
      exact .marketBuy ask htype hside hask
    · rw [htype, hside, determine_marketSell] at h
      obtain ⟨bid, hbid, rfl⟩ := map_eq_ok h
      exact .marketSell bid htype hside hbid
  · rw [htype] at h
    obtain ⟨limit, hprice, hlimit⟩ := limit_of_determine h
    rcases hside with hside | hside
    · rw [hside, hprice, determine_limitBuy hlimit] at h
      obtain ⟨ask, hask, rfl⟩ := map_eq_ok h
      exact .limitBuy limit ask htype hside hprice hask
    · rw [hside, hprice, determine_limitSell hlimit] at h
      obtain ⟨bid, hbid, rfl⟩ := map_eq_ok h
      exact .limitSell limit bid htype hside hprice hbid

/-- What is written down about an order that is filled at this price. -/
structure Written (exchange : SimulatedExchange ℚ) (request : OrderRequest)
    (price : Option ℚ) (order : SimulatedExchangeOrder ℚ) : Prop where
  amount_pos : 0 < request.amount
  prices : Prices exchange request price
  orderId_eq : order.orderId = s!"sim-{exchange.nextId}"
  status_eq : order.status = if price.isSome then "closed" else "open"
  filled_eq : order.filled = if price.isSome then request.amount else 0
  average_eq : order.average = price.getD 0

/-- **One order**: what is written down, and the exchange afterwards. -/
lemma create_ok {order : SimulatedExchangeOrder ℚ} (h : exchange.create request = .ok (order, after)) :
    (∃ price, Written exchange request price order)
      ∧ after = { exchange with
          orders := exchange.orders.set order.orderId order, nextId := exchange.nextId + 1 } := by
  rw [create, createOrder] at h
  split_ifs at h with hamount hside htype
  have hsides : pyLower request.side = "buy" ∨ pyLower request.side = "sell" := by
    by_contra hneither
    exact hside (not_or.mp hneither)
  have htypes : pyLower request.type = "market" ∨ pyLower request.type = "limit" := by
    by_contra hneither
    exact htype (not_or.mp hneither)
  cases hprice : exchange.determineFillPrice request.symbol (pyLower request.type)
      (pyLower request.side) request.price with
  | error e =>
      rw [hprice] at h
      cases h
  | ok price =>
      rw [hprice] at h
      have hprices := prices_of_determine htypes hsides hprice
      cases price with
      | none =>
          cases h
          exact ⟨⟨none, not_le.mp hamount, hprices, rfl, rfl, rfl, rfl⟩, rfl⟩
      | some price =>
          cases h
          exact ⟨⟨some price, not_le.mp hamount, hprices, rfl, rfl, rfl, rfl⟩, rfl⟩

/-- A market sale that will be accepted. -/
def SellsAtMarket (exchange : SimulatedExchange ℚ) (request : OrderRequest) : Prop :=
  0 < request.amount ∧ pyLower request.type = "market" ∧ pyLower request.side = "sell"
    ∧ ∃ bid, exchange.getBestBid request.symbol = .ok bid

lemma SellsAtMarket.create_ok (h : SellsAtMarket exchange request) :
    ∃ order after, exchange.create request = .ok (order, after) := by
  obtain ⟨hamount, htype, hside, bid, hbid⟩ := h
  rw [create, createOrder, if_neg hamount.not_ge, if_neg (by simp [hside]), if_neg (by simp [htype]),
    htype, hside, determine_marketSell, hbid]
  exact ⟨_, _, rfl⟩

/-! ## All orders -/

variable {feeModel : PercentageFeeModel ℚ} {slippageModel : BasisPointSlippageModel ℚ}
  {made : List ExchangeCall} {placed : Placed}

lemma calls_snoc (c : ExchangeCall) : calls feeModel slippageModel (made ++ [c])
    = call (calls feeModel slippageModel made) c := by
  rw [calls, List.foldl_append]
  rfl

/-- An order is accepted, or leaves nothing behind. -/
lemma call_order (state : SimulatedExchange ℚ × List Placed) (request : OrderRequest) :
    (∃ order after, state.1.create request = .ok (order, after)
        ∧ call state (.order request) = (after, state.2 ++ [⟨request, state.1, order⟩]))
      ∨ (∃ e, state.1.create request = .error e) ∧ call state (.order request) = state := by
  rw [call]
  cases hcreate : state.1.create request with
  | error e => exact Or.inr ⟨⟨e, rfl⟩, rfl⟩
  | ok result => exact Or.inl ⟨result.1, result.2, rfl, rfl⟩

lemma calls_slippage : (calls feeModel slippageModel made).1.slippageModel = slippageModel := by
  induction made using List.reverseRecOn with
  | nil => rfl
  | append_singleton earlier c ih =>
      rw [calls_snoc]
      cases c with
      | update update => cases update <;> exact ih
      | order request =>
          rcases call_order (calls feeModel slippageModel earlier) request with
            ⟨order, after, hcreate, hcall⟩ | ⟨-, hcall⟩
          · rw [hcall]
            obtain ⟨-, rfl⟩ := create_ok hcreate
            exact ih
          · rw [hcall]
            exact ih

/-- The orders that were placed are those that were accepted on the way. -/
lemma mem_placed : placed ∈ (calls feeModel slippageModel made).2
    ↔ ∃ earlier later after, made = earlier ++ .order placed.request :: later
      ∧ placed.before = (calls feeModel slippageModel earlier).1
      ∧ placed.before.create placed.request = .ok (placed.order, after) := by
  induction made using List.reverseRecOn with
  | nil =>
      constructor
      · intro h
        cases h
      · rintro ⟨earlier, later, after, hnil, -⟩
        cases earlier <;> cases hnil
  | append_singleton earlier c ih =>
      have hsplit : (∃ before later after, earlier ++ [c] = before ++ .order placed.request :: later
            ∧ placed.before = (calls feeModel slippageModel before).1
            ∧ placed.before.create placed.request = .ok (placed.order, after))
          ↔ placed ∈ (calls feeModel slippageModel earlier).2
            ∨ c = .order placed.request ∧ placed.before = (calls feeModel slippageModel earlier).1
              ∧ ∃ after, placed.before.create placed.request = .ok (placed.order, after) := by
        rw [ih]
        constructor
        · rintro ⟨before, later, after, heq, hbefore, hcreate⟩
          rcases History.snoc_eq_split.mp heq with ⟨rfl, rfl, -⟩ | ⟨rest, rfl, -⟩
          · exact Or.inr ⟨rfl, hbefore, after, hcreate⟩
          · exact Or.inl ⟨before, rest, after, rfl, hbefore, hcreate⟩
        · rintro (⟨before, rest, after, rfl, hbefore, hcreate⟩ | ⟨rfl, hbefore, after, hcreate⟩)
          · exact ⟨before, rest ++ [c], after, by simp, hbefore, hcreate⟩
          · exact ⟨earlier, [], after, rfl, hbefore, hcreate⟩
      rw [hsplit, calls_snoc]
      cases c with
      | update update => simp [call]
      | order request =>
          rcases call_order (calls feeModel slippageModel earlier) request with
            ⟨order, after, hcreate, hcall⟩ | ⟨⟨e, herror⟩, hcall⟩
          · rw [hcall, List.mem_append, List.mem_singleton]
            refine or_congr Iff.rfl ⟨?_, ?_⟩
            · rintro rfl
              exact ⟨rfl, rfl, after, hcreate⟩
            · rintro ⟨hrequest, hbefore, after', hcreate'⟩
              cases hrequest
              rw [hbefore, hcreate] at hcreate'
              cases hcreate'
              rw [← hbefore]
          · rw [hcall, or_iff_left]
            rintro ⟨hrequest, hbefore, after, hcreate⟩
            cases hrequest
            rw [hbefore, herror] at hcreate
            cases hcreate

lemma natToString_injective {m n : ℕ} (h : toString m = toString n) : m = n := by
  have hdigits : Nat.toDigits 10 m = Nat.toDigits 10 n := String.ofList_injective h
  rw [← Nat.ofDigitChars_ten_toDigits (n := m), hdigits, Nat.ofDigitChars_ten_toDigits]

/-- **Fresh ids**: every accepted order has one of its own. -/
lemma orderIds_nodup : ((calls feeModel slippageModel made).2.map fun p => p.order.orderId).Nodup
    ∧ ∀ p ∈ (calls feeModel slippageModel made).2,
      ∃ k < (calls feeModel slippageModel made).1.nextId, p.order.orderId = s!"sim-{k}" := by
  induction made using List.reverseRecOn with
  | nil => exact ⟨List.nodup_nil, fun p hp => absurd hp List.not_mem_nil⟩
  | append_singleton earlier c ih =>
      obtain ⟨hnodup, hids⟩ := ih
      rw [calls_snoc]
      cases c with
      | update update => cases update <;> exact ⟨hnodup, hids⟩
      | order request =>
          rcases call_order (calls feeModel slippageModel earlier) request with
            ⟨order, after, hcreate, hcall⟩ | ⟨-, hcall⟩
          · obtain ⟨⟨price, hwritten⟩, rfl⟩ := create_ok hcreate
            rw [hcall]
            constructor
            · rw [List.map_append, List.map_singleton]
              refine hnodup.append (List.nodup_singleton _) ?_
              intro id hold hnew
              obtain ⟨p, hp, hid⟩ := List.mem_map.mp hold
              obtain ⟨k, hk, hname⟩ := hids p hp
              rw [← hid, hname, List.mem_singleton, hwritten.orderId_eq] at hnew
              simp only [String.append_right_inj] at hnew
              exact absurd (natToString_injective hnew) hk.ne
            · intro p hp
              rcases List.mem_append.mp hp with hold | hnew
              · obtain ⟨k, hk, hname⟩ := hids p hold
                exact ⟨k, Nat.lt_succ_of_lt hk, hname⟩
              · rw [List.mem_singleton.mp hnew]
                exact ⟨_, Nat.lt_succ_self _, hwritten.orderId_eq⟩
          · rw [hcall]
            exact ⟨hnodup, hids⟩

/-- What an accepted order keeps to, whatever the slippage. -/
structure Sane (placed : Placed) : Prop where
  filled : placed.order.status = "open" ∧ placed.order.filled = 0
    ∨ placed.order.status = "closed" ∧ placed.order.filled = placed.request.amount
  marketBuy : pyLower placed.request.type = "market" → pyLower placed.request.side = "buy" →
    ∃ ask, placed.before.getBestAsk placed.request.symbol = .ok ask
      ∧ placed.order.status = "closed" ∧ ask ≤ placed.order.average
  marketSell : pyLower placed.request.type = "market" → pyLower placed.request.side = "sell" →
    ∃ bid, placed.before.getBestBid placed.request.symbol = .ok bid
      ∧ placed.order.status = "closed" ∧ placed.order.average ≤ bid
  limitBuy : pyLower placed.request.type = "limit" → pyLower placed.request.side = "buy" →
    ∃ limit ask, placed.request.price = some limit
      ∧ placed.before.getBestAsk placed.request.symbol = .ok ask
      ∧ (placed.order.status = "closed" ↔ ask ≤ limit)
      ∧ (placed.order.status = "closed" → placed.order.average = ask)
  limitSell : pyLower placed.request.type = "limit" → pyLower placed.request.side = "sell" →
    ∃ limit bid, placed.request.price = some limit
      ∧ placed.before.getBestBid placed.request.symbol = .ok bid
      ∧ (placed.order.status = "closed" ↔ limit ≤ bid)
      ∧ (placed.order.status = "closed" → placed.order.average = bid)

lemma Written.sane {price : Option ℚ} (h : Written placed.before placed.request price placed.order) :
    Sane placed := by
  have hbps : 0 ≤ placed.before.slippageModel.bps / 10000 :=
    div_nonneg (not_lt.mp placed.before.slippageModel.bps_checked) (by decide +kernel)
  obtain ⟨-, hprices, -, hstatus, hfilled, haverage⟩ := h
  cases hprices with
  | marketBuy ask htype hside hask =>
      refine ⟨Or.inr ⟨hstatus, hfilled⟩, fun _ _ => ⟨ask, hask, hstatus, ?_⟩, ?_, ?_, ?_⟩
      · rw [haverage, Option.getD_some]
        exact le_mul_of_one_le_right (bestQuote_pos hask).le (le_add_of_nonneg_right hbps)
      · simp [hside]
      · simp [htype]
      · simp [htype]
  | marketSell bid htype hside hbid =>
      refine ⟨Or.inr ⟨hstatus, hfilled⟩, ?_, fun _ _ => ⟨bid, hbid, hstatus, ?_⟩, ?_, ?_⟩
      · simp [hside]
      · rw [haverage, Option.getD_some]
        exact mul_le_of_le_one_right (bestQuote_pos hbid).le (sub_le_self _ hbps)
      · simp [htype]
      · simp [htype]
  | limitBuy limit ask htype hside hprice hask =>
      by_cases hcrosses : ask ≤ limit
      · rw [if_pos hcrosses] at hstatus hfilled haverage
        refine ⟨Or.inr ⟨hstatus, hfilled⟩, by simp [htype], by simp [htype], ?_, by simp [hside]⟩
        exact fun _ _ => ⟨limit, ask, hprice, hask, iff_of_true hstatus hcrosses, fun _ => haverage⟩
      · rw [if_neg hcrosses] at hstatus hfilled haverage
        have hopen : ¬ placed.order.status = "closed" := by simp [hstatus]
        refine ⟨Or.inl ⟨hstatus, hfilled⟩, by simp [htype], by simp [htype], ?_, by simp [hside]⟩
        exact fun _ _ => ⟨limit, ask, hprice, hask, iff_of_false hopen hcrosses,
          fun hclosed => absurd hclosed hopen⟩
  | limitSell limit bid htype hside hprice hbid =>
      by_cases hcrosses : limit ≤ bid
      · rw [if_pos hcrosses] at hstatus hfilled haverage
        refine ⟨Or.inr ⟨hstatus, hfilled⟩, by simp [htype], by simp [htype], by simp [hside], ?_⟩
        exact fun _ _ => ⟨limit, bid, hprice, hbid, iff_of_true hstatus hcrosses, fun _ => haverage⟩
      · rw [if_neg hcrosses] at hstatus hfilled haverage
        have hopen : ¬ placed.order.status = "closed" := by simp [hstatus]
        refine ⟨Or.inl ⟨hstatus, hfilled⟩, by simp [htype], by simp [htype], by simp [hside], ?_⟩
        exact fun _ _ => ⟨limit, bid, hprice, hbid, iff_of_false hopen hcrosses,
          fun hclosed => absurd hclosed hopen⟩

/-- Only a market sale is closed at a price that is not positive, and only from 10000 basis points
on. -/
lemma Written.average_pos {price : Option ℚ} {order : SimulatedExchangeOrder ℚ}
    (h : Written exchange request price order) (hclosed : order.status = "closed")
    (hsale : exchange.slippageModel.bps < 10000
      ∨ ¬ (pyLower request.type = "market" ∧ pyLower request.side = "sell")) :
    0 < order.average := by
  have hbps : 0 ≤ exchange.slippageModel.bps / 10000 :=
    div_nonneg (not_lt.mp exchange.slippageModel.bps_checked) (by decide +kernel)
  obtain ⟨-, hprices, -, hstatus, -, haverage⟩ := h
  have hsome : price.isSome = true := by
    by_contra hnone
    rw [if_neg hnone, hclosed] at hstatus
    exact absurd hstatus (by decide)
  rw [haverage]
  cases hprices with
  | marketBuy ask htype hside hask =>
      exact mul_pos (bestQuote_pos hask) (by linarith)
  | marketSell bid htype hside hbid =>
      have hless : exchange.slippageModel.bps / 10000 < 1 := by
        rw [div_lt_one (by decide +kernel)]
        exact hsale.resolve_right fun hno => hno ⟨htype, hside⟩
      exact mul_pos (bestQuote_pos hbid) (sub_pos.mpr hless)
  | limitBuy limit ask htype hside hprice hask =>
      split_ifs at hsome ⊢ with hcrosses
      · exact bestQuote_pos hask
      · cases hsome
  | limitSell limit bid htype hside hprice hbid =>
      split_ifs at hsome ⊢ with hcrosses
      · exact bestQuote_pos hbid
      · cases hsome

/-- A market sale is closed, at what the slippage leaves of the bid. -/
lemma Written.of_sale {price : Option ℚ} {order : SimulatedExchangeOrder ℚ}
    (h : Written exchange request price order) (hsells : SellsAtMarket exchange request) :
    order.status = "closed" ∧ ∃ bid, 0 < bid
      ∧ order.average = bid * (1 - exchange.slippageModel.bps / 10000) := by
  obtain ⟨-, hmarket, hsell, -⟩ := hsells
  obtain ⟨-, hprices, -, hstatus, -, haverage⟩ := h
  cases hprices with
  | marketBuy ask htype hside hask => simp [hside] at hsell
  | marketSell bid htype hside hbid => exact ⟨hstatus, bid, bestQuote_pos hbid, haverage⟩
  | limitBuy limit ask htype hside hprice hask => simp [htype] at hmarket
  | limitSell limit bid htype hside hprice hbid => simp [htype] at hmarket

/-- A market sale that was accepted had a bid. -/
lemma Written.sellsAtMarket {price : Option ℚ} {order : SimulatedExchangeOrder ℚ}
    (h : Written exchange request price order) (hmarket : pyLower request.type = "market")
    (hsell : pyLower request.side = "sell") : SellsAtMarket exchange request := by
  refine ⟨h.amount_pos, hmarket, hsell, ?_⟩
  cases h.prices with
  | marketBuy ask htype hside hask => simp [hside] at hsell
  | marketSell bid htype hside hbid => exact ⟨bid, hbid⟩
  | limitBuy limit ask htype hside hprice hask => simp [htype] at hmarket
  | limitSell limit bid htype hside hprice hbid => simp [htype] at hmarket

/-- No call is a market sale that will be accepted. -/
def SellsNothing (feeModel : PercentageFeeModel ℚ) (slippageModel : BasisPointSlippageModel ℚ)
    (made : List ExchangeCall) : Prop :=
  ∀ earlier request later, made = earlier ++ .order request :: later →
    ¬ SellsAtMarket (calls feeModel slippageModel earlier).1 request

/-- **Simulated executions.**  After any calls, every accepted order has an id of its own, is filled
as a whole or not at all, and is priced by the quote of its side.  What is closed has a positive price
exactly if the slippage is less than everything, or nothing is sold at the market. -/
theorem executions_sane (feeModel : PercentageFeeModel ℚ)
    (slippageModel : BasisPointSlippageModel ℚ) (made : List ExchangeCall) :
    ((calls feeModel slippageModel made).2.map fun p => p.order.orderId).Nodup
      ∧ (∀ p ∈ (calls feeModel slippageModel made).2, Sane p)
      ∧ ((∀ p ∈ (calls feeModel slippageModel made).2,
          p.order.status = "closed" → 0 < p.order.average)
        ↔ slippageModel.bps < 10000 ∨ SellsNothing feeModel slippageModel made) := by
  refine ⟨orderIds_nodup.1, fun p hp => ?_, ?_, ?_⟩
  · obtain ⟨earlier, later, after, -, -, hcreate⟩ := mem_placed.mp hp
    obtain ⟨⟨price, hwritten⟩, -⟩ := create_ok hcreate
    exact hwritten.sane
  · intro hpositive
    by_contra hno
    obtain ⟨hbps, hsome⟩ := not_or.mp hno
    refine hsome fun earlier request later hmade hsells => ?_
    obtain ⟨order, after, hcreate⟩ := hsells.create_ok
    obtain ⟨⟨price, hwritten⟩, -⟩ := create_ok hcreate
    obtain ⟨hclosed, bid, hbid, haverage⟩ := hwritten.of_sale hsells
    have hsold : 0 < order.average :=
      hpositive ⟨request, _, order⟩ (mem_placed.mpr ⟨earlier, later, after, hmade, rfl, hcreate⟩)
        hclosed
    have hall : 1 ≤ slippageModel.bps / 10000 := by
      rw [le_div_iff₀ (by decide +kernel)]
      linarith
    rw [haverage, calls_slippage] at hsold
    exact absurd hsold (mul_nonpos_of_nonneg_of_nonpos hbid.le (sub_nonpos.mpr hall)).not_gt
  · intro hcondition p hp hclosed
    obtain ⟨earlier, later, after, hmade, hbefore, hcreate⟩ := mem_placed.mp hp
    obtain ⟨⟨price, hwritten⟩, -⟩ := create_ok hcreate
    refine hwritten.average_pos hclosed ?_
    rw [hbefore, calls_slippage]
    refine hcondition.imp_right fun hnothing hmarket => ?_
    exact hnothing earlier p.request later hmade
      (hbefore ▸ hwritten.sellsAtMarket hmarket.1 hmarket.2)

/-- The slippage model that takes everything. -/
def allSlippage : BasisPointSlippageModel ℚ := ⟨10000, by decide +kernel⟩

/-- A bid of 99 is sold into. -/
def saleCalls : List ExchangeCall :=
  [.update (.tick ⟨"BTC/USDT", "SIM", 99, 100, 100, 0, ⟨0⟩⟩),
    .order ⟨"BTC/USDT", "market", "sell", 1, none⟩]

/-- The sale is closed at a price of zero. -/
theorem sold_for_nothing : ∃ p ∈ (calls demoFee allSlippage saleCalls).2,
    p.order.status = "closed" ∧ p.order.filled = 1 ∧ ¬ 0 < p.order.average := by
  decide +kernel

end SimulatedExchange

end Aegis
