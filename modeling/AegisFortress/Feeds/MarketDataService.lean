import AegisFortress.Feeds.BestLevels
import AegisFortress.Feeds.ExchangePollingSource
import AegisFortress.Feeds.MarketStateStore
import AegisFortress.Lib.Joined
import AegisFortress.Lib.Run

/-!
# The market data service

`stream` of `feeds/exchange_polling_source.py` and `microservices/market_data_service.py`.  In every round each
exchange is asked for each symbol, all at the same time; the answers are read as they come in, in any order.
A call that fails is logged, and so is an answer that cannot be normalized.

What the service is for is a feed for each market by itself (`MarketView`).  `feeds_apart`: that is what every
market gets, whatever the other exchanges and symbols answer, and in whatever order.
-/

namespace Aegis

section Definitions

variable {α : Type} [Add α] [Sub α] [Mul α] [Div α] [Zero α] [LT α] [LE α] [DecidableLT α]
  [DecidableLE α] [DecidableEq α] [PyFloat α]

/-! ## Polling -/

inductive PacketKind
  | ticker
  | orderbook
  deriving DecidableEq

/-- `MarketDataPacket`. -/
structure MarketDataPacket (α : Type) where
  kind : PacketKind
  exchange : String
  symbol : String
  payload : PyVal α

/-- An exchange client in one round: the methods that it has, and what they answer. -/
structure PolledExchange (α : Type) where
  fetchTicker : Option (String → Except PyError (PyVal α))
  /-- By the name of the method; the depth may be left out. -/
  orderbookMethod : String → Option (String → Option ℤ → Except PyError (PyVal α))

namespace ExchangePollingSource

variable (depth : ℤ) (exchange : PolledExchange α) (exchangeName symbol : String)

/-- `None` for an exception. -/
def orNone : Except PyError (PyVal α) → PyVal α
  | .ok payload => payload
  | .error _ => .none

/-- `_safe_fetch_ticker`. -/
def safeFetchTicker : PyVal α :=
  match exchange.fetchTicker with
  | none => .none
  | some method => orNone (method symbol)

/-- `_call_orderbook_method`: without the depth if the method does not take it. -/
def callOrderbookMethod (method : String → Option ℤ → Except PyError (PyVal α)) : Except PyError (PyVal α) :=
  match method symbol (some depth) with
  | .ok payload => .ok payload
  | .error e => if e.kind = .typeError then method symbol none else .error e

/-- The candidates of `_safe_fetch_orderbook`. -/
def candidates : List String := ["fetch_order_book", "fetch_orderbook", "get_order_book", "get_orderbook"]

/-- `_safe_fetch_orderbook`: the first of the methods that is there. -/
def safeFetchOrderbook : PyVal α :=
  match candidates.findSome? exchange.orderbookMethod with
  | none => .none
  | some method => orNone (callOrderbookMethod depth symbol method)

/-- A packet, unless the payload is `None`. -/
def packetOf (kind : PacketKind) : PyVal α → List (MarketDataPacket α)
  | .none => []
  | payload => [⟨kind, exchangeName, symbol, payload⟩]

/-- `_poll_exchange_symbol`. -/
def pollExchangeSymbol : List (MarketDataPacket α) :=
  packetOf exchangeName symbol .ticker (safeFetchTicker exchange symbol)
    ++ packetOf exchangeName symbol .orderbook (safeFetchOrderbook depth exchange symbol)

end ExchangePollingSource

/-- An exchange and a symbol. -/
abbrev Market := String × String

/-- A round of `stream`: when it begins, what the provider of symbols answers, the exchanges, what the clock
reads when a packet is normalized, and the markets whose answers have come in, in the order of their arrival.
After a stop the service reads no more packets, also none of the market it is at: `handled` is the number of
packets that it has read. -/
structure PollingRound (α : Type) where
  now : α
  answer : Except PyError (List String)
  exchanges : Dict String (PolledExchange α)
  clock : PacketKind → Market → DateTime
  completed : List Market
  handled : ℕ

/-- `jobs`. -/
def ExchangePollingSource.jobs (source : ExchangePollingSource α) (round : PollingRound α) : List Market :=
  round.exchanges.keys.flatMap fun exchangeName => source.symbols.map (Prod.mk exchangeName)

/-- The packets of a market. -/
def PollingRound.poll (round : PollingRound α) (depth : ℤ) (market : Market) : List (MarketDataPacket α) :=
  (round.exchanges.get? market.1).elim [] fun exchange =>
    ExchangePollingSource.pollExchangeSymbol depth exchange market.1 market.2

/-! ## The service -/

/-- The events that the service publishes. -/
inductive MarketEvent (α : Type)
  | marketTick (tick : List (String × PyVal α))
  | orderbookSnapshot (orderbook : List (String × PyVal α))

/-- The market that an event is about. -/
def MarketEvent.market : MarketEvent α → Market
  | .marketTick payload | .orderbookSnapshot payload => (text payload "exchange", text payload "symbol")
where
  text (payload : List (String × PyVal α)) (key : String) : String :=
    match PyVal.get payload key with
    | .str s => s
    | _ => ""

/-- `MarketDataService`, with the store it updates and what it has published. -/
structure MarketDataService (α : Type) where
  store : MarketStateStore α
  published : List (MarketEvent α) := []
  ticksPublished : ℕ := 0
  orderbooksPublished : ℕ := 0
  normalizationFailures : ℕ := 0

/-- What a packet says: a tick, an order book, or nothing that can be normalized. -/
inductive Reading (α : Type)
  | tick (tick : MarketTick α)
  | orderbook (orderbook : OrderBookSnapshot α)
  | failure (error : PyError)

section Packets

variable (lib : StdLib α) (depth : ℤ)

/-- What the normalizer makes of a packet. -/
def MarketDataPacket.read (now : DateTime) (packet : MarketDataPacket α) : Reading α :=
  match packet.kind with
  | .ticker =>
      match MarketDataNormalizer.normalizeTicker lib now packet.exchange packet.symbol packet.payload with
      | .ok tick => .tick tick
      | .error e => .failure e
  | .orderbook =>
      match MarketDataNormalizer.normalizeOrderbook lib now packet.exchange packet.symbol packet.payload depth with
      | .ok orderbook => .orderbook orderbook
      | .error e => .failure e

/-- `_handle_ticker`, `_handle_orderbook` and the handler of exceptions in `run`. -/
def MarketDataService.handle (service : MarketDataService α) : Reading α → MarketDataService α
  | .tick tick =>
      { service with
        store := service.store.updateTick tick
        published := service.published ++ [.marketTick (tick.toDict lib.iso)]
        ticksPublished := service.ticksPublished + 1 }
  | .orderbook orderbook =>
      { service with
        store := service.store.updateOrderbook orderbook
        published := service.published ++ [.orderbookSnapshot (orderbook.toDict lib.iso)]
        orderbooksPublished := service.orderbooksPublished + 1 }
  | .failure _ => { service with normalizationFailures := service.normalizationFailures + 1 }

/-- What a market gives to read in a round. -/
def PollingRound.answers (round : PollingRound α) (market : Market) : List (Market × Reading α) :=
  (round.poll depth market).map fun packet =>
    (market, packet.read lib depth (round.clock packet.kind market))

/-- What the service reads in a round, with the market each reading is of. -/
def PollingRound.readings (round : PollingRound α) : List (Market × Reading α) :=
  (round.completed.flatMap (round.answers lib depth)).take round.handled

end Packets

/-- The source and the service. -/
structure MarketFeed (α : Type) where
  source : ExchangePollingSource α
  service : MarketDataService α

/-- A round; the answers that have come in are to what was asked for. -/
def MarketFeed.step (lib : StdLib α) (depth : ℤ) (feed : MarketFeed α) (round : PollingRound α) :
    Option (MarketFeed α) :=
  let source := feed.source.refreshSymbolsIfNeeded round.now round.answer
  if round.completed.Subperm (source.jobs round) then
    some ⟨source, ((round.readings lib depth).map Prod.snd).foldl (MarketDataService.handle lib)
      feed.service⟩
  else none

/-! ## A market by itself -/

/-- The feed of one market: the latest tick, the latest order book, and the events so far. -/
structure MarketView (α : Type) where
  tick : Option (MarketTick α)
  orderbook : Option (OrderBookSnapshot α)
  published : List (MarketEvent α)

/-- A feed goes on with what it reads; what cannot be read is left out. -/
def MarketView.take (lib : StdLib α) (view : MarketView α) : Reading α → MarketView α
  | .tick tick =>
      { view with tick := some tick, published := view.published ++ [.marketTick (tick.toDict lib.iso)] }
  | .orderbook orderbook =>
      { view with
        orderbook := some orderbook
        published := view.published ++ [.orderbookSnapshot (orderbook.toDict lib.iso)] }
  | .failure _ => view

/-- What the service has of a market. -/
def MarketDataService.view (service : MarketDataService α) (market : Market) : MarketView α where
  tick := service.store.ticks.get? (MarketStateStore.key market.1 market.2)
  orderbook := service.store.orderbooks.get? (MarketStateStore.key market.1 market.2)
  published := service.published.filter fun event => event.market = market

/-- What is read of a market in a round. -/
def PollingRound.own (round : PollingRound α) (lib : StdLib α) (depth : ℤ) (market : Market) :
    List (Reading α) :=
  ((round.readings lib depth).filter fun read => read.1 = market).map Prod.snd

end Definitions

namespace MarketDataService

variable {lib : StdLib ℚ} {depth : ℤ} {service : MarketDataService ℚ} {market other : Market}
  {reading : Reading ℚ} {round : PollingRound ℚ}

/-! ## Readings -/

/-- What a market gives to read is about this market. -/
def Reading.About (market : Market) : Reading ℚ → Prop
  | .tick tick => (tick.exchange, tick.symbol) = market
  | .orderbook orderbook => (orderbook.exchange, orderbook.symbol) = market
  | .failure _ => True

lemma normalizeTicker_market {now : DateTime} {exchange symbol : String} {payload : PyVal ℚ}
    {tick : MarketTick ℚ} (h : MarketDataNormalizer.normalizeTicker lib now exchange symbol payload = .ok tick) :
    (tick.exchange, tick.symbol) = (exchange, symbol) := by
  cases payload with
  | dict items =>
      simp only [MarketDataNormalizer.normalizeTicker] at h
      cases htime : MarketDataNormalizer.extractTimestamp lib now (MarketDataNormalizer.timestampOf items) with
      | error e =>
          rw [htime] at h
          cases h
      | ok timestamp =>
          rw [htime] at h
          simp only [bind, Except.bind] at h
          split_ifs at h <;> cases h <;> rfl
  | _ => cases h

lemma normalizeOrderbook_market {now : DateTime} {exchange symbol : String} {payload : PyVal ℚ}
    {orderbook : OrderBookSnapshot ℚ}
    (h : MarketDataNormalizer.normalizeOrderbook lib now exchange symbol payload depth = .ok orderbook) :
    (orderbook.exchange, orderbook.symbol) = (exchange, symbol) := by
  cases payload with
  | dict items =>
      simp only [MarketDataNormalizer.normalizeOrderbook] at h
      cases htime : MarketDataNormalizer.extractTimestamp lib now (MarketDataNormalizer.timestampOf items) with
      | error e =>
          rw [htime] at h
          cases h
      | ok timestamp =>
          rw [htime] at h
          simp only [bind, Except.bind] at h
          split_ifs at h
          cases h
          rfl
  | _ => cases h

/-- A packet is read as what it is about. -/
lemma about_read (lib : StdLib ℚ) (depth : ℤ) (now : DateTime) (packet : MarketDataPacket ℚ) :
    Reading.About (packet.exchange, packet.symbol) (packet.read lib depth now) := by
  rcases packet with ⟨kind, exchange, symbol, payload⟩
  cases kind with
  | ticker =>
      simp only [MarketDataPacket.read]
      cases h : MarketDataNormalizer.normalizeTicker lib now exchange symbol payload with
      | ok tick => exact normalizeTicker_market h
      | error e => trivial
  | orderbook =>
      simp only [MarketDataPacket.read]
      cases h : MarketDataNormalizer.normalizeOrderbook lib now exchange symbol payload depth with
      | ok orderbook => exact normalizeOrderbook_market h
      | error e => trivial

lemma mem_packetOf {exchange symbol : String} {kind : PacketKind} {payload : PyVal ℚ}
    {packet : MarketDataPacket ℚ} (h : packet ∈ ExchangePollingSource.packetOf exchange symbol kind payload) :
    (packet.exchange, packet.symbol) = (exchange, symbol) := by
  cases payload with
  | none => cases h
  | _ =>
      cases List.mem_singleton.mp h
      rfl

/-- The packets of a market are about this market. -/
lemma mem_poll {packet : MarketDataPacket ℚ} (h : packet ∈ round.poll depth market) :
    (packet.exchange, packet.symbol) = market := by
  rw [PollingRound.poll] at h
  cases hexchange : round.exchanges.get? market.1 with
  | none => simp [hexchange] at h
  | some exchange =>
      rw [hexchange, Option.elim_some, ExchangePollingSource.pollExchangeSymbol, List.mem_append] at h
      exact h.elim mem_packetOf mem_packetOf

/-- What is read in a round is about the market it is of, and that market has answered. -/
lemma about_readings {read : Market × Reading ℚ} (h : read ∈ round.readings lib depth) :
    Reading.About read.1 read.2 ∧ read.1 ∈ round.completed := by
  obtain ⟨market, hmarket, hread⟩ := List.mem_flatMap.mp (List.mem_of_mem_take h)
  obtain ⟨packet, hpacket, rfl⟩ := List.mem_map.mp hread
  have habout := about_read lib depth (round.clock packet.kind market) packet
  rw [mem_poll hpacket] at habout
  exact ⟨habout, hmarket⟩

/-! ## What a reading does to a market -/

lemma market_tick (iso : IsoFormat) (tick : MarketTick ℚ) :
    (MarketEvent.marketTick (tick.toDict iso)).market = (tick.exchange, tick.symbol) := rfl

lemma market_orderbook (iso : IsoFormat) (orderbook : OrderBookSnapshot ℚ) :
    (MarketEvent.orderbookSnapshot (orderbook.toDict iso)).market
      = (orderbook.exchange, orderbook.symbol) := rfl

/-- Its own market goes on with it. -/
lemma view_handle_self (h : Reading.About market reading) :
    (service.handle lib reading).view market = (service.view market).take lib reading := by
  cases reading with
  | tick tick =>
      cases h
      simp [view, handle, MarketView.take, MarketStateStore.updateTick, market_tick]
  | orderbook orderbook =>
      cases h
      simp [view, handle, MarketView.take, MarketStateStore.updateOrderbook, market_orderbook]
  | failure e => rfl

/-- Another market with another key does not notice. -/
lemma view_handle_other (h : Reading.About other reading)
    (hkey : MarketStateStore.key other.1 other.2 ≠ MarketStateStore.key market.1 market.2) :
    (service.handle lib reading).view market = service.view market := by
  have hne : other ≠ market := by
    rintro rfl
    exact hkey rfl
  cases reading with
  | tick tick =>
      cases h
      simp [view, handle, MarketStateStore.updateTick, market_tick, Dict.get?_set_of_ne _ hkey, hne]
  | orderbook orderbook =>
      cases h
      simp [view, handle, MarketStateStore.updateOrderbook, market_orderbook, Dict.get?_set_of_ne _ hkey, hne]
  | failure e => rfl

/-- **A round, seen from a market**: the others can be left out. -/
lemma view_readings (reads : List (Market × Reading ℚ))
    (habout : ∀ read ∈ reads, Reading.About read.1 read.2)
    (hkeys : ∀ read ∈ reads, read.1 ≠ market →
      MarketStateStore.key read.1.1 read.1.2 ≠ MarketStateStore.key market.1 market.2) :
    ((reads.map Prod.snd).foldl (handle lib) service).view market
      = ((reads.filter fun read => read.1 = market).map Prod.snd).foldl (MarketView.take lib)
        (service.view market) := by
  induction reads generalizing service with
  | nil => rfl
  | cons read rest ih =>
      have hrest := @ih (service.handle lib read.2)
        (fun r hr => habout r (List.mem_cons_of_mem _ hr)) fun r hr => hkeys r (List.mem_cons_of_mem _ hr)
      have hread := habout read List.mem_cons_self
      rw [List.map_cons, List.foldl_cons, hrest]
      by_cases hsame : read.1 = market
      · rw [hsame] at hread
        rw [view_handle_self hread, List.filter_cons_of_pos (by simpa using hsame), List.map_cons,
          List.foldl_cons]
      · rw [view_handle_other hread (hkeys read List.mem_cons_self hsame),
          List.filter_cons_of_neg (by simpa using hsame)]

/-! ## Keys -/

/-- The key of a market tells the market, as long as no exchange has a colon in its name. -/
lemma key_inj {a b : Market} (ha : ':' ∉ a.1.toList) (hb : ':' ∉ b.1.toList)
    (h : MarketStateStore.key a.1 a.2 = MarketStateStore.key b.1 b.2) : a = b := by
  obtain ⟨hname, hsymbol⟩ := (Joined.first_inj (show ":".toList = [':'] from rfl) ha hb).mp h
  exact Prod.ext hname hsymbol

/-! ## Counting -/

/-- Every reading is counted once, and everything published is a tick or an order book. -/
structure Counted (service : MarketDataService ℚ) (read : ℕ) : Prop where
  published : service.published.length = service.ticksPublished + service.orderbooksPublished
  read : service.ticksPublished + service.orderbooksPublished + service.normalizationFailures = read

lemma Counted.handle {read : ℕ} (h : service.Counted read) (reading : Reading ℚ) :
    (service.handle lib reading).Counted (read + 1) := by
  obtain ⟨hpublished, hread⟩ := h
  cases reading with
  | tick tick =>
      constructor <;>
        simp only [MarketDataService.handle, List.length_append, List.length_singleton] <;> omega
  | orderbook orderbook =>
      constructor <;> simp only [MarketDataService.handle, List.length_append, List.length_singleton] <;> omega
  | failure e => constructor <;> simp only [MarketDataService.handle] <;> omega

lemma Counted.readings {read : ℕ} (h : service.Counted read) (readings : List (Reading ℚ)) :
    (readings.foldl (MarketDataService.handle lib) service).Counted (read + readings.length) := by
  induction readings generalizing service read with
  | nil => exact h
  | cons reading rest ih =>
      rw [List.foldl_cons, List.length_cons, Nat.add_comm rest.length, ← Nat.add_assoc]
      exact ih (h.handle reading)

end MarketDataService

/-! ## Runs -/

namespace MarketFeed

open MarketDataService MarketDataNormalizer

variable {lib : StdLib ℚ} {depth : ℤ} {feed feed' : MarketFeed ℚ} {round : PollingRound ℚ} {market : Market}

/-- The service as it starts. -/
def started (source : ExchangePollingSource ℚ) : MarketFeed ℚ := ⟨source, { store := .init }⟩

/-- What a round does to the service. -/
lemma step_service (h : step lib depth feed round = some feed') :
    feed'.service = ((round.readings lib depth).map Prod.snd).foldl (handle lib) feed.service
      ∧ ∀ other ∈ round.completed, other.1 ∈ round.exchanges.keys := by
  simp only [step] at h
  split_ifs at h with hasked
  cases h
  refine ⟨rfl, fun other hother => ?_⟩
  obtain ⟨name, hname, hjob⟩ := List.mem_flatMap.mp (hasked.subset hother)
  obtain ⟨symbol, -, rfl⟩ := List.mem_map.mp hjob
  exact hname

/-- **Every market has a feed by itself.**  Whatever the exchanges answer for other markets, in whatever order
the answers of a round come in, and after whichever packet the service is stopped: the latest tick, the latest
order book and the events of a market are those of a feed that reads nothing but the answers for this market.
Everything that is read is counted once, as a tick, as an order book or as a failure. -/
theorem feeds_apart (lib : StdLib ℚ) (depth : ℤ) (source : ExchangePollingSource ℚ)
    (rounds : List (PollingRound ℚ))
    (hnames : ∀ round ∈ rounds, ∀ name ∈ round.exchanges.keys, ':' ∉ name.toList) {feed : MarketFeed ℚ}
    (hrun : Machine.run (step lib depth) (started source) rounds = some feed) :
    (∀ market : Market, ':' ∉ market.1.toList → feed.service.view market
        = (rounds.flatMap fun round => round.own lib depth market).foldl (MarketView.take lib) ⟨none, none, []⟩)
      ∧ feed.service.published.length = feed.service.ticksPublished + feed.service.orderbooksPublished
      ∧ feed.service.ticksPublished + feed.service.orderbooksPublished + feed.service.normalizationFailures
        = (rounds.flatMap fun round => round.readings lib depth).length := by
  have hcounted : feed.service.Counted (rounds.flatMap fun round => round.readings lib depth).length := by
    refine Machine.run_history (fun past feed => feed.service.Counted
      (past.flatMap fun round => round.readings lib depth).length) ⟨rfl, rfl⟩ ?_ rounds feed hrun
    intro past feed round feed' _ ih hstep
    have hlength : ((round.readings lib depth).map Prod.snd).length = (round.readings lib depth).length :=
      List.length_map _
    rw [(step_service hstep).1, List.flatMap_append, List.length_append, List.flatMap_singleton, ← hlength]
    exact ih.readings _
  refine ⟨?_, hcounted.published, hcounted.read⟩
  intro market hmarket
  refine Machine.run_history (fun past feed => (∀ round ∈ past, ∀ name ∈ round.exchanges.keys,
    ':' ∉ name.toList) → feed.service.view market = (past.flatMap fun round =>
      round.own lib depth market).foldl (MarketView.take lib) ⟨none, none, []⟩) ?_ ?_ rounds feed hrun hnames
  · intro _
    rfl
  · intro past feed round feed' _ ih hstep hnames
    obtain ⟨hservice, hexchanges⟩ := step_service hstep
    have hlast := hnames round (List.mem_append_right _ (List.mem_singleton_self round))
    have hkeys : ∀ read ∈ round.readings lib depth, read.1 ≠ market →
        MarketStateStore.key read.1.1 read.1.2 ≠ MarketStateStore.key market.1 market.2 := by
      intro read hread hne hkey
      have hcompleted := (about_readings hread).2
      exact hne (key_inj (hlast read.1.1 (hexchanges read.1 hcompleted)) hmarket hkey)
    rw [hservice, view_readings _ (fun read hread => (about_readings hread).1) hkeys,
      ih fun r hr => hnames r (List.mem_append_left _ hr), List.flatMap_append, List.foldl_append,
      List.flatMap_singleton, PollingRound.own]

/-! ## An exchange that fails -/

/-- Quotes everything at one price, and has no order books. -/
def quotesAt (price : ℚ) : PolledExchange ℚ where
  fetchTicker := some fun _ => .ok (.dict [("last", .float price)])
  orderbookMethod := fun _ => none

/-- Times out. -/
def timesOut : PolledExchange ℚ where
  fetchTicker := some fun _ => .error ⟨.other, "Request timed out"⟩
  orderbookMethod := fun _ => none

/-- The exchange `a` quotes twice; `b` quotes once and then times out. -/
def twoRounds : List (PollingRound ℚ) :=
  [⟨0, .ok [], .ofList [("a", quotesAt 100), ("b", quotesAt 99)], fun _ _ => ⟨0⟩, [("b", "X"), ("a", "X")], 2⟩,
    ⟨1, .ok [], .ofList [("a", quotesAt 101), ("b", timesOut)], fun _ _ => ⟨0⟩, [("a", "X"), ("b", "X")], 2⟩]

theorem feeds_apart_twoRounds : ∃ feed, Machine.run (step epochLib 5) (started ⟨["X"], false, 60, 0⟩) twoRounds
      = some feed
    ∧ ((feed.service.view ("a", "X")).tick.map MarketTick.last, (feed.service.view ("a", "X")).published.length)
      = (some 101, 2)
    ∧ ((feed.service.view ("b", "X")).tick.map MarketTick.last, (feed.service.view ("b", "X")).published.length)
      = (some 99, 1)
    ∧ feed.service.published.length = feed.service.ticksPublished + feed.service.orderbooksPublished := by
  have hsome : (Machine.run (step epochLib 5) (started ⟨["X"], false, 60, 0⟩) twoRounds).isSome := by
    decide +kernel
  obtain ⟨feed, hrun⟩ := Option.isSome_iff_exists.mp hsome
  obtain ⟨hviews, hpublished, -⟩ :=
    feeds_apart epochLib 5 ⟨["X"], false, 60, 0⟩ twoRounds (by decide +kernel) hrun
  refine ⟨feed, hrun, ?_, ?_, hpublished⟩
  · rw [hviews ("a", "X") (by decide)]
    decide +kernel
  · rw [hviews ("b", "X") (by decide)]
    decide +kernel

end MarketFeed

end Aegis
