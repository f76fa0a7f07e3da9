import AegisFortress.Lib.RateLimit
import AegisFortress.Lib.Run
import AegisFortress.Python.Value

/-!
# The rate limit of an exchange

`exchange.py` and `TokenBucket` of `utils.py`.  The wrapper of an exchange client takes a token out
of its bucket before every request, in `_call`; a request that fails is tried again through `_call`.
`create_order` was added later and goes to the client past the bucket.

`requests_limited`: as long as no `create_order` gets through, any window of length `T` sees at most
`capacity + rate * T` requests.

One call is made at a time, and no time passes between a token and its request.  Prices and amounts
are rounded and limits are looked up in what the client has loaded, without a request.
-/

namespace Aegis

section Definitions

variable {α : Type} [Add α] [Sub α] [Mul α] [Zero α] [One α] [LT α] [LE α] [DecidableLT α]
  [DecidableLE α] [PyFloat α]

/-! ## The bucket -/

/-- `TokenBucket`. -/
structure TokenBucket (α : Type) where
  rate : α
  capacity : α
  tokens : α
  lastRefill : α

namespace TokenBucket

/-- `TokenBucket(rate, capacity)`. -/
def init (rate capacity now : α) : TokenBucket α := ⟨rate, capacity, capacity, now⟩

/-- `_refill()`. -/
def refill (bucket : TokenBucket α) (now : α) : TokenBucket α :=
  let elapsed := now - bucket.lastRefill
  { bucket with
    tokens := pyMin bucket.capacity (bucket.tokens + elapsed * bucket.rate), lastRefill := now }

/-- `consume()`: the clock is read until a token is there; the bucket then, and the time.  `none`
when it is not there at the last reading, or the clock goes back. -/
def consume (bucket : TokenBucket α) (now : α) : List α → Option (TokenBucket α × α)
  | [] => none
  | reading :: rest =>
      if reading < now then none
      else
        let filled := bucket.refill reading
        if 1 ≤ filled.tokens then some ({ filled with tokens := filled.tokens - 1 }, reading)
        else filled.consume reading rest

end TokenBucket

/-! ## The wrapper -/

/-- `_RATE_LIMITS.get(exchange_id, ...)`: the rate and the capacity. -/
def rateLimit (exchangeId : String) : α × α :=
  match exchangeId with
  | "binance" => (PyFloat.ofRat 8, PyFloat.ofRat 20)
  | "bybit" => (PyFloat.ofRat 5, PyFloat.ofRat 10)
  | "okx" => (PyFloat.ofRat 5, PyFloat.ofRat 10)
  | _ => (PyFloat.ofRat 3, PyFloat.ofRat 6)

/-- `ExchangeWrapper`, with the last time the clock showed and the requests that have reached the
client, oldest first. -/
structure ExchangeWrapper (α : Type) where
  id : String
  bucket : TokenBucket α
  executionEnabled : Bool
  now : α
  requests : List (α × String)

/-- The methods that are retried. -/
inductive Method
  | fetchTicker
  | fetchOrderBook
  | fetchOhlcv
  | fetchBalance
  | createMarketBuyOrder
  | createMarketSellOrder
  | createLimitBuyOrder
  | createLimitSellOrder
  | cancelOrder
  | fetchOrder
  | fetchOpenOrders
  deriving DecidableEq, Repr

namespace Method

/-- The client's method of that name. -/
def name : Method → String
  | fetchTicker => "fetch_ticker"
  | fetchOrderBook => "fetch_order_book"
  | fetchOhlcv => "fetch_ohlcv"
  | fetchBalance => "fetch_balance"
  | createMarketBuyOrder => "create_market_buy_order"
  | createMarketSellOrder => "create_market_sell_order"
  | createLimitBuyOrder => "create_limit_buy_order"
  | createLimitSellOrder => "create_limit_sell_order"
  | cancelOrder => "cancel_order"
  | fetchOrder => "fetch_order"
  | fetchOpenOrders => "fetch_open_orders"

/-- `max_attempts` of its `@retry`. -/
def maxAttempts : Method → ℕ
  | fetchTicker | fetchOrderBook | fetchOhlcv | fetchBalance => 4
  | createMarketBuyOrder | createMarketSellOrder | createLimitBuyOrder | createLimitSellOrder
  | cancelOrder | fetchOrder | fetchOpenOrders => 3

end Method

/-- What an attempt meets: the readings of the clock while it waits for a token, and the answer of
the client. -/
structure Attempt (α : Type) where
  readings : List α
  answer : Except PyError (PyVal α)

/-- A public call with what its attempts meet; `offline` are the calls that make no request. -/
inductive WrapperCall (α : Type)
  | retried (method : Method) (attempts : List (Attempt α))
  | getBestAsk (attempts : List (Attempt α))
  | getBestBid (attempts : List (Attempt α))
  | createOrder (now : α) (answer : Except PyError (PyVal α))
  | offline

namespace ExchangeWrapper

/-- `ExchangeWrapper(exchange_id, ...)`. -/
def init (exchangeId : String) (executionEnabled : Bool) (now : α) : ExchangeWrapper α :=
  { id := exchangeId
    bucket := .init (rateLimit exchangeId).1 (rateLimit exchangeId).2 now
    executionEnabled, now, requests := [] }

/-- `_call(method, ...)`: the answer, and the wrapper afterwards. -/
def call (method : Method) (attempt : Attempt α) (wrapper : ExchangeWrapper α) :
    Option (Except PyError (PyVal α) × ExchangeWrapper α) :=
  (wrapper.bucket.consume wrapper.now attempt.readings).map fun (bucket, now) =>
    (attempt.answer,
      { wrapper with bucket, now, requests := wrapper.requests ++ [(now, method.name)] })

/-- `@retry(max_attempts=...)` around `_call`: the first answer that is not an exception, or the
last exception. -/
def retried (method : Method) : ℕ → List (Attempt α) → ExchangeWrapper α →
    Option (Except PyError (PyVal α) × ExchangeWrapper α)
  | 0, _, _ => none
  | _ + 1, [], _ => none
  | attemptsLeft + 1, attempt :: rest, wrapper =>
      (wrapper.call method attempt).bind fun (answer, wrapper) =>
        match answer with
        | .ok value => some (.ok value, wrapper)
        | .error e =>
            if attemptsLeft = 0 then some (.error e, wrapper)
            else wrapper.retried method attemptsLeft rest

/-- `float(ob[side][0][0])` when that side has something, `None` when it cannot be read. -/
def bestPrice (side : String) : Except PyError (PyVal α) → Option α
  | .ok (.dict items) =>
      match PyVal.get items side with
      | .list (.list (price :: _) :: _) | .list (.tuple (price :: _) :: _) =>
          price.toFloat.toOption
      | _ => none
  | _ => none

/-- `get_best_ask(symbol)`. -/
def getBestAsk (attempts : List (Attempt α)) (wrapper : ExchangeWrapper α) :
    Option (Option α × ExchangeWrapper α) :=
  (wrapper.retried .fetchOrderBook Method.fetchOrderBook.maxAttempts attempts).map
    fun (answer, wrapper) => (bestPrice "asks" answer, wrapper)

/-- `get_best_bid(symbol)`. -/
def getBestBid (attempts : List (Attempt α)) (wrapper : ExchangeWrapper α) :
    Option (Option α × ExchangeWrapper α) :=
  (wrapper.retried .fetchOrderBook Method.fetchOrderBook.maxAttempts attempts).map
    fun (answer, wrapper) => (bestPrice "bids" answer, wrapper)

/-- `create_order(...)`. -/
def createOrder (now : α) (answer : Except PyError (PyVal α)) (wrapper : ExchangeWrapper α) :
    Option (Except PyError (PyVal α) × ExchangeWrapper α) :=
  if now < wrapper.now then none
  else if ¬ wrapper.executionEnabled then
    some (.error ⟨.runtimeError, s!"Exchange {wrapper.id} is connected for market data only; "
      ++ "order execution is disabled because API credentials are missing."⟩, { wrapper with now })
  else some (answer, { wrapper with now, requests := wrapper.requests ++ [(now, "create_order")] })

/-- A public call is made. -/
def step (wrapper : ExchangeWrapper α) : WrapperCall α → Option (ExchangeWrapper α)
  | .retried method attempts =>
      (wrapper.retried method method.maxAttempts attempts).map Prod.snd
  | .getBestAsk attempts => (wrapper.getBestAsk attempts).map Prod.snd
  | .getBestBid attempts => (wrapper.getBestBid attempts).map Prod.snd
  | .createOrder now answer => (wrapper.createOrder now answer).map Prod.snd
  | .offline => some wrapper

end ExchangeWrapper

end Definitions

namespace ExchangeWrapper

open RateLimit

/-- The times of the requests. -/
def times (wrapper : ExchangeWrapper ℚ) : List ℚ := wrapper.requests.map Prod.fst

/-! ## What a request draws -/

/-- The bucket has let every request through so far. -/
structure Drawn (wrapper : ExchangeWrapper ℚ) : Prop where
  rate_nonneg : 0 ≤ wrapper.bucket.rate
  refilled : wrapper.bucket.lastRefill ≤ wrapper.now
  metered : Metered wrapper.bucket.capacity wrapper.bucket.rate wrapper.times wrapper.bucket.tokens
    wrapper.bucket.lastRefill

/-- What a call leaves alone. -/
structure Same (before after : ExchangeWrapper ℚ) : Prop where
  rate_eq : after.bucket.rate = before.bucket.rate
  capacity_eq : after.bucket.capacity = before.bucket.capacity
  enabled_eq : after.executionEnabled = before.executionEnabled

lemma Same.refl (wrapper : ExchangeWrapper ℚ) : Same wrapper wrapper := ⟨rfl, rfl, rfl⟩

lemma Same.trans {first second third : ExchangeWrapper ℚ} (h : Same first second)
    (h' : Same second third) : Same first third :=
  ⟨h'.rate_eq.trans h.rate_eq, h'.capacity_eq.trans h.capacity_eq,
    h'.enabled_eq.trans h.enabled_eq⟩

lemma metered_refill {times : List ℚ} {bucket : TokenBucket ℚ} {reading : ℚ}
    (h : Metered bucket.capacity bucket.rate times bucket.tokens bucket.lastRefill)
    (hrate : 0 ≤ bucket.rate) (hcapacity : 0 ≤ bucket.capacity)
    (hnow : bucket.lastRefill ≤ reading) :
    Metered bucket.capacity bucket.rate times (bucket.refill reading).tokens reading := by
  have htokens : (bucket.refill reading).tokens
      = min bucket.capacity (bucket.tokens + (reading - bucket.lastRefill) * bucket.rate) := by
    rw [TokenBucket.refill, pyMin_rat]
  rw [htokens]
  exact h.fill hrate hcapacity hnow

/-- The token that is consumed was there. -/
lemma consume_drawn {times : List ℚ} {now : ℚ} {readings : List ℚ} :
    ∀ {bucket bucket' : TokenBucket ℚ} {time : ℚ},
      Metered bucket.capacity bucket.rate times bucket.tokens bucket.lastRefill →
      0 ≤ bucket.rate → 0 ≤ bucket.capacity → bucket.lastRefill ≤ now →
      bucket.consume now readings = some (bucket', time) →
      bucket'.capacity = bucket.capacity ∧ bucket'.rate = bucket.rate ∧ bucket'.lastRefill = time
        ∧ Metered bucket.capacity bucket.rate (times ++ [time]) bucket'.tokens time := by
  induction readings generalizing now with
  | nil =>
      intro bucket bucket' time _ _ _ _ hconsume
      cases hconsume
  | cons reading rest ih =>
      intro bucket bucket' time hmetered hrate hcapacity hnow hconsume
      rw [TokenBucket.consume] at hconsume
      split_ifs at hconsume with hback
      have hforth : bucket.lastRefill ≤ reading := hnow.trans (not_lt.mp hback)
      have hfilled := metered_refill hmetered hrate hcapacity hforth
      simp only at hconsume
      split_ifs at hconsume with htoken
      · cases hconsume
        exact ⟨rfl, rfl, rfl, hfilled.draw hrate htoken⟩
      · exact @ih reading (bucket.refill reading) bucket' time hfilled hrate hcapacity le_rfl
          hconsume

variable {wrapper wrapper' : ExchangeWrapper ℚ}

lemma Drawn.call (h : wrapper.Drawn) (hcapacity : 0 ≤ wrapper.bucket.capacity) {method : Method}
    {attempt : Attempt ℚ} {answer : Except PyError (PyVal ℚ)}
    (hcall : wrapper.call method attempt = some (answer, wrapper')) :
    wrapper'.Drawn ∧ Same wrapper wrapper' := by
  rw [ExchangeWrapper.call, Option.map_eq_some_iff] at hcall
  obtain ⟨⟨bucket, time⟩, hconsume, heq⟩ := hcall
  obtain ⟨hcap, hrate, hrefill, hmetered⟩ :=
    consume_drawn h.metered h.rate_nonneg hcapacity h.refilled hconsume
  cases heq
  refine ⟨⟨hrate ▸ h.rate_nonneg, hrefill.le, ?_⟩, ⟨hrate, hcap, rfl⟩⟩
  rw [times, List.map_append, List.map_singleton, hcap, hrate, hrefill]
  exact hmetered

/-- Every attempt draws a token. -/
lemma Drawn.retried {method : Method} {attempts : List (Attempt ℚ)} :
    ∀ {attemptsLeft : ℕ} {wrapper wrapper' : ExchangeWrapper ℚ}
      {answer : Except PyError (PyVal ℚ)}, wrapper.Drawn → 0 ≤ wrapper.bucket.capacity →
      wrapper.retried method attemptsLeft attempts = some (answer, wrapper') →
      wrapper'.Drawn ∧ Same wrapper wrapper' := by
  induction attempts with
  | nil =>
      intro attemptsLeft wrapper wrapper' answer _ _ hretried
      cases attemptsLeft <;> cases hretried
  | cons attempt rest ih =>
      intro attemptsLeft wrapper wrapper' answer h hcapacity hretried
      cases attemptsLeft with
      | zero => cases hretried
      | succ attemptsLeft =>
          rw [ExchangeWrapper.retried, Option.bind_eq_some_iff] at hretried
          obtain ⟨⟨first, between⟩, hcall, hrest⟩ := hretried
          obtain ⟨hbetween, hsame⟩ := h.call hcapacity hcall
          cases first with
          | ok value =>
              cases hrest
              exact ⟨hbetween, hsame⟩
          | error e =>
              simp only at hrest
              split_ifs at hrest
              · cases hrest
                exact ⟨hbetween, hsame⟩
              · obtain ⟨hafter, hlater⟩ := ih hbetween (hsame.capacity_eq ▸ hcapacity) hrest
                exact ⟨hafter, hsame.trans hlater⟩

/-- The call gets an order past the bucket. -/
def Sends (wrapper : ExchangeWrapper ℚ) : WrapperCall ℚ → Prop
  | .createOrder _ _ => wrapper.executionEnabled = true
  | _ => False

instance (wrapper : ExchangeWrapper ℚ) : DecidablePred wrapper.Sends
  | .createOrder _ _ => inferInstanceAs (Decidable (wrapper.executionEnabled = true))
  | .retried _ _ | .getBestAsk _ | .getBestBid _ | .offline => isFalse fun h => h

/-- **One call**: unless it gets an order past the bucket, every request has drawn a token. -/
lemma Drawn.step (h : wrapper.Drawn) (hcapacity : 0 ≤ wrapper.bucket.capacity)
    {c : WrapperCall ℚ} (hunsent : ¬ wrapper.Sends c) (hstep : wrapper.step c = some wrapper') :
    wrapper'.Drawn ∧ Same wrapper wrapper' := by
  cases c with
  | retried method attempts =>
      obtain ⟨⟨answer, after⟩, hretried, rfl⟩ := Option.map_eq_some_iff.mp hstep
      exact Drawn.retried h hcapacity hretried
  | getBestAsk attempts =>
      obtain ⟨⟨price, after⟩, hask, rfl⟩ := Option.map_eq_some_iff.mp hstep
      obtain ⟨⟨answer, last⟩, hretried, heq⟩ := Option.map_eq_some_iff.mp hask
      cases heq
      exact Drawn.retried h hcapacity hretried
  | getBestBid attempts =>
      obtain ⟨⟨price, after⟩, hbid, rfl⟩ := Option.map_eq_some_iff.mp hstep
      obtain ⟨⟨answer, last⟩, hretried, heq⟩ := Option.map_eq_some_iff.mp hbid
      cases heq
      exact Drawn.retried h hcapacity hretried
  | createOrder now answer =>
      obtain ⟨⟨answer', after⟩, horder, rfl⟩ := Option.map_eq_some_iff.mp hstep
      rw [createOrder] at horder
      split_ifs at horder with hback henabled
      · exact absurd henabled hunsent
      · cases horder
        exact ⟨⟨h.rate_nonneg, h.refilled.trans (not_lt.mp hback), h.metered⟩, ⟨rfl, rfl, rfl⟩⟩
  | offline =>
      cases hstep
      exact ⟨h, .refl wrapper⟩

lemma rateLimit_nonneg (exchangeId : String) :
    (0 : ℚ) ≤ (rateLimit exchangeId).1 ∧ (0 : ℚ) ≤ (rateLimit exchangeId).2 := by
  unfold rateLimit
  split <;> constructor <;> simp

/-- **The rate limit.**  In every run in which no `create_order` gets through to the client, the
requests of any window of length `T` number at most `capacity + rate * T`. -/
theorem requests_limited (exchangeId : String) (executionEnabled : Bool) (start : ℚ)
    (calls : List (WrapperCall ℚ))
    (hunsent : Machine.Along step (init exchangeId executionEnabled start)
      (fun wrapper c => ¬ wrapper.Sends c) calls) (wrapper : ExchangeWrapper ℚ)
    (hrun : Machine.run step (init exchangeId executionEnabled start) calls = some wrapper)
    (a T : ℚ) (hT : 0 ≤ T) :
    (within wrapper.times a (a + T) : ℚ)
      ≤ (rateLimit exchangeId).2 + (rateLimit exchangeId).1 * T := by
  obtain ⟨hrate, hcapacity⟩ := rateLimit_nonneg exchangeId
  have hinit : (init exchangeId executionEnabled start).Drawn :=
    ⟨hrate, le_rfl, metered_full hcapacity hrate⟩
  have hdrawn : wrapper.Drawn ∧ Same (init exchangeId executionEnabled start) wrapper := by
    refine Machine.Along.invariant hunsent
      (fun w => w.Drawn ∧ Same (init exchangeId executionEnabled start) w) ⟨hinit, .refl _⟩ ?_ hrun
    rintro w c w' ⟨hw, hsame⟩ hno hstep
    obtain ⟨hw', hsame'⟩ := hw.step (hsame.capacity_eq ▸ hcapacity) hno hstep
    exact ⟨hw', hsame.trans hsame'⟩
  obtain ⟨hend, hsame⟩ := hdrawn
  have hlimited := hend.metered.limited a T hT
  rwa [hsame.capacity_eq, hsame.rate_eq] at hlimited

/-- A ticker is asked for at time 0, fails, and is asked for again; a balance at time 1. -/
def quietCalls : List (WrapperCall ℚ) :=
  [.retried .fetchTicker [⟨[0], .error ⟨.runtimeError, "timeout"⟩⟩, ⟨[1 / 2], .ok .none⟩],
    .retried .fetchBalance [⟨[1], .ok .none⟩]]

theorem requests_limited_quiet : ∃ wrapper : ExchangeWrapper ℚ,
    wrapper.times = [0, 1 / 2, 1] ∧ (within wrapper.times 0 (0 + 1) : ℚ)
      ≤ (rateLimit "okx").2 + (rateLimit "okx").1 * 1 := by
  have htimes : (Machine.run step (init "okx" true 0) quietCalls).map times
      = some [0, 1 / 2, 1] := by decide +kernel
  obtain ⟨wrapper, hrun, htimes⟩ := Option.map_eq_some_iff.mp htimes
  have hquiet : Machine.Along step (init "okx" true 0) (fun wrapper c => ¬ wrapper.Sends c)
      quietCalls := Machine.along_of_decide (by decide +kernel)
  exact ⟨wrapper, htimes, requests_limited "okx" true 0 quietCalls hquiet wrapper hrun 0 1
    zero_le_one⟩

/-- Twenty-one orders are sent at one moment, when the bucket holds twenty tokens. -/
theorem orders_unlimited : ∃ wrapper : ExchangeWrapper ℚ,
    Machine.run step (init "binance" true 0)
        (List.replicate 21 (.createOrder 0 (.ok .none))) = some wrapper
      ∧ (rateLimit "binance").2 + (rateLimit "binance").1 * 0
        < (within wrapper.times 0 (0 + 0) : ℚ) := by
  have htimes : (Machine.run step (init "binance" true 0)
      (List.replicate 21 (.createOrder 0 (.ok .none)))).map times
        = some (List.replicate 21 0) := by decide +kernel
  obtain ⟨wrapper, hrun, htimes⟩ := Option.map_eq_some_iff.mp htimes
  refine ⟨wrapper, hrun, ?_⟩
  rw [htimes]
  decide +kernel

end ExchangeWrapper

end Aegis
