import AegisFortress.Execution.ExchangeResponseNormalizer
import AegisFortress.Models.MarketData

/-!
# Payloads of market data

`feeds/market_data_normalizer.py`.  A ticker or an order book as an exchange sends it, read into the
records the strategies work with.
-/

namespace Aegis

/-- What the code takes from the standard library and this development does not look into. -/
structure StdLib (α : Type) where
  iso : IsoFormat
  /-- `json.loads`; a value error is a `JSONDecodeError`. -/
  loads : String → Except PyError (PyVal α)
  /-- `datetime.fromtimestamp(seconds, tz=timezone.utc).replace(tzinfo=None)`. -/
  fromTimestamp : α → Except PyError DateTime
  /-- `datetime.fromisoformat(text)`, as naive UTC. -/
  fromIsoformat : String → Except PyError DateTime
  /-- `int(x)` of a float. -/
  intOfFloat : α → Except PyError ℤ

/-- A stamp is written as a text, and read back from it the way a payload is read: with every `Z`,
of which it has none, taken for the zone. -/
structure StdLib.Reads {α : Type} (lib : StdLib α) (stamp : DateTime) : Prop where
  text : lib.iso.isoformat stamp ≠ ""
  back : lib.fromIsoformat ((lib.iso.isoformat stamp).replace "Z" "+00:00") = .ok stamp

/-- `int(s)`; `none` where Python raises `ValueError`. -/
def intOfString (s : String) : Option ℤ :=
  let (neg, cs) := signPart (strip s.toList)
  match digitPart cs 0 0 with
  | (v, n, []) => if n = 0 then none else some (if neg then -v else v)
  | _ => none

/-- `items[:n]`; a negative bound counts from the end. -/
def sliceTo {τ : Type} (items : List τ) (n : ℤ) : List τ :=
  if 0 ≤ n then items.take n.toNat else items.take (items.length - n.natAbs)

section Definitions

variable {α : Type} [Add α] [Sub α] [Mul α] [Div α] [Zero α] [LT α] [LE α] [DecidableLT α]
  [DecidableLE α] [DecidableEq α] [PyFloat α]

/-- `a or b`. -/
def PyVal.orElse (a b : PyVal α) : PyVal α := if a.truthy then a else b

/-- `int(value)`. -/
def PyVal.toInt (lib : StdLib α) : PyVal α → Except PyError ℤ
  | .bool b => .ok (if b then 1 else 0)
  | .int n => .ok n
  | .float x => lib.intOfFloat x
  | .str s => match intOfString s with
    | some n => .ok n
    | Option.none => .error ⟨.valueError, s!"invalid literal for int() with base 10: '{s}'"⟩
  | v => .error ⟨.typeError, s!"int() argument must be a string, a bytes-like object or a real number, not '{v.typeName}'"⟩

namespace MarketDataNormalizer

/-- `MarketDataNormalizer._safe_float`. -/
def safeFloat (value : PyVal α) : Option α := ExchangeResponseNormalizer.readFloat value

/-- `MarketDataNormalizer._extract_float`, with the default zero of all its calls. -/
def extractFloat (payload : List (String × PyVal α)) (keys : List String) : α :=
  ExchangeResponseNormalizer.extractFloat payload keys

/-- `MarketDataNormalizer._extract_int`. -/
def extractInt (payload : List (String × PyVal α)) : List String → Option ℤ
  | [] => none
  | key :: keys =>
      match PyVal.get payload key with
      | .bool b => some (if b then 1 else 0)
      | .int n => some n
      | .str s => match intOfString s with
        | some n => some n
        | none => extractInt payload keys
      | _ => extractInt payload keys

/-- The seconds of a time stamp that may be in milliseconds. -/
def secondsOf (value : α) : α :=
  if PyFloat.ofRat 1000000000000 < value then value / PyFloat.ofRat 1000 else value

/-- `MarketDataNormalizer._extract_timestamp`; `now` is `datetime.utcnow()`. -/
def extractTimestamp (lib : StdLib α) (now : DateTime) (value : PyVal α) :
    Except PyError DateTime :=
  match value.number? with
  | some seconds => lib.fromTimestamp (secondsOf seconds)
  | none =>
      match value with
      | .str s =>
          match lib.fromIsoformat (s.replace "Z" "+00:00") with
          | .ok parsed => .ok parsed
          | .error e => if e.kind = .valueError then .ok now else .error e
      | _ => .ok now

/-- `payload.get("timestamp") or payload.get("datetime")`. -/
def timestampOf (payload : List (String × PyVal α)) : PyVal α :=
  (PyVal.get payload "timestamp").orElse (PyVal.get payload "datetime")

/-- `MarketDataNormalizer.normalize_ticker`. -/
def normalizeTicker (lib : StdLib α) (now : DateTime) (exchange symbol : String)
    (payload : PyVal α) : Except PyError (MarketTick α) :=
  match payload with
  | .dict items => do
      let bid := extractFloat items ["bid", "bestBid", "best_bid"]
      let ask := extractFloat items ["ask", "bestAsk", "best_ask"]
      let last := extractFloat items ["last", "close", "mark", "price"]
      let last := if last ≤ 0 ∧ 0 < bid ∧ 0 < ask then (bid + ask) / PyFloat.ofRat 2 else last
      let volume := extractFloat items ["baseVolume", "volume", "quoteVolume"]
      let timestamp ← extractTimestamp lib now (timestampOf items)
      let tick : MarketTick α := { symbol, exchange, bid, ask, last, volume, timestamp }
      if tick.isValid then .ok tick
      else .error ⟨.valueError, s!"Invalid normalized ticker for {exchange}:{symbol}"⟩
  | _ => .error ⟨.typeError, "Ticker payload must be a dictionary"⟩

/-- The price and the quantity a raw level names. -/
def levelFields : PyVal α → PyVal α × PyVal α
  | .list (price :: quantity :: _) | .tuple (price :: quantity :: _) => (price, quantity)
  | .dict item =>
      ((PyVal.get item "price").orElse (PyVal.get item "p"),
        ((PyVal.get item "quantity").orElse (PyVal.get item "amount")).orElse (PyVal.get item "q"))
  | _ => (.none, .none)

/-- A raw level, if it is a positive quantity at a positive price. -/
def parseLevel (item : PyVal α) : Option (OrderBookLevel α) :=
  let (price, quantity) := levelFields item
  match safeFloat price, safeFloat quantity with
  | some price, some quantity => if price ≤ 0 ∨ quantity ≤ 0 then none else some ⟨price, quantity⟩
  | _, _ => none

/-- `MarketDataNormalizer._normalize_levels`. -/
def normalizeLevels (levels : PyVal α) (reverse : Bool) (depth : ℤ) : List (OrderBookLevel α) :=
  match levels with
  | .list items =>
      let sorted := (items.filterMap parseLevel).mergeSort fun a b =>
        if reverse then b.price ≤ a.price else a.price ≤ b.price
      sliceTo sorted depth
  | _ => []

/-- `MarketDataNormalizer.normalize_orderbook`. -/
def normalizeOrderbook (lib : StdLib α) (now : DateTime) (exchange symbol : String)
    (payload : PyVal α) (depth : ℤ) : Except PyError (OrderBookSnapshot α) :=
  match payload with
  | .dict items => do
      let bids := normalizeLevels ((items.lookup "bids").getD (.list [])) true depth
      let asks := normalizeLevels ((items.lookup "asks").getD (.list [])) false depth
      let sequence := extractInt items ["nonce", "sequence", "lastUpdateId"]
      let timestamp ← extractTimestamp lib now (timestampOf items)
      let book : OrderBookSnapshot α := { symbol, exchange, bids, asks, sequence, timestamp }
      if book.isValid then .ok book
      else .error ⟨.valueError, s!"Invalid normalized order book for {exchange}:{symbol}"⟩
  | _ => .error ⟨.typeError, "Order book payload must be a dictionary"⟩

end MarketDataNormalizer

end Definitions

end Aegis
