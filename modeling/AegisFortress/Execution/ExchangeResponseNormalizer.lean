import AegisFortress.Models.Order

/-!
# The answer of an exchange

`execution/exchange_response_normalizer.py`.  Exchanges report the same facts under different
keys; the normalizer tries them in a fixed order and takes the first one it can read as a number.
-/

namespace Aegis

namespace ExchangeResponseNormalizer

section Definitions

variable {α : Type}

/-- `STATUS_MAP`. -/
def STATUS_MAP : List (String × OrderStatus) :=
  [("open", .submitted), ("new", .submitted), ("submitted", .submitted), ("pending", .submitted),
    ("partial", .partiallyFilled), ("partially_filled", .partiallyFilled),
    ("partiallyfilled", .partiallyFilled), ("closed", .filled), ("filled", .filled),
    ("done", .filled), ("cancelled", .cancelled), ("canceled", .cancelled),
    ("rejected", .rejected), ("failed", .failed)]

/-- The keys an executed quantity is looked for under. -/
def FILLED_KEYS : List String := ["filled", "filled_quantity", "executedQty", "amount_filled"]

/-- The keys an average price is looked for under. -/
def PRICE_KEYS : List String := ["average", "avgPrice", "average_fill_price", "price"]

/-- `payload` of a raw response: the response itself if it is a dictionary. -/
def payloadOf : PyVal α → List (String × PyVal α)
  | .dict items => items
  | _ => []

/-- The status the exchange reports. -/
def rawStatus [PyFloat α] (payload : List (String × PyVal α)) : OrderStatus :=
  let raw := pyLower ((payload.lookup "status").getD (.str "submitted")).toStr
  (STATUS_MAP.lookup raw).getD .submitted

/-- A number, or a string that spells one; `none` where `_extract_float` tries the next key. -/
def readFloat [PyFloat α] (value : PyVal α) : Option α :=
  match value.number? with
  | some x => some x
  | none =>
      match value with
      | .str s => (floatOfString s).map PyFloat.ofRat
      | _ => none

/-- `_extract_float(payload, *keys, default=0.0)`. -/
def extractFloat [Zero α] [PyFloat α] (payload : List (String × PyVal α)) : List String → α
  | [] => 0
  | key :: keys =>
      match readFloat (PyVal.get payload key) with
      | some x => x
      | none => extractFloat payload keys

section Fee

variable [Zero α] [Add α] [PyFloat α]

/-- `add_fee_value(value)` on the running total. -/
def addFeeValue (total : α) (value : PyVal α) : α :=
  match readFloat value with
  | some x => total + x
  | none => total

/-- `add_fee_value` of a key of every dictionary in a list. -/
def addFeesOf (key : String) (total : α) : PyVal α → α
  | .list items => items.foldl (fun t item =>
      match item with
      | .dict fields => addFeeValue t (PyVal.get fields key)
      | _ => t) total
  | _ => total

/-- `_extract_fee(payload)`. -/
def extractFee (payload : List (String × PyVal α)) : α :=
  let afterFee := match PyVal.get payload "fee" with
    | .dict fee => addFeeValue 0 (PyVal.get fee "cost")
    | fee => addFeeValue 0 fee
  let afterFees := addFeesOf "cost" afterFee (PyVal.get payload "fees")
  match PyVal.get payload "info" with
  | .dict info =>
      addFeeValue (addFeesOf "commission" afterFees (PyVal.get info "fills"))
        (PyVal.get info "commission")
  | _ => afterFees

end Fee

/-- `a or b or c` over the keys of a payload, as a string if it is truthy. -/
def firstTruthy [Zero α] [DecidableEq α] [PyFloat α] (payload : List (String × PyVal α)) :
    List String → Option String
  | [] => none
  | key :: keys =>
      let value := PyVal.get payload key
      if value.truthy then some value.toStr else firstTruthy payload keys

variable [Add α] [Zero α] [LT α] [LE α] [DecidableLT α] [DecidableLE α] [DecidableEq α] [PyFloat α]

/-- The status after the executed quantity has been compared with the order's. -/
def statusOf (status : OrderStatus) (filledQuantity quantity : α) : OrderStatus :=
  let status :=
    if 0 < filledQuantity ∧ filledQuantity < quantity ∧ status = .submitted then .partiallyFilled
    else status
  if quantity ≤ filledQuantity ∧ 0 < quantity then .filled else status

/-- `ExchangeResponseNormalizer.normalize`. -/
def normalize (order : Order α) (exchangeName : String) (rawResponse : PyVal α) :
    ExecutionReport α :=
  let payload := payloadOf rawResponse
  let filledQuantity := extractFloat payload FILLED_KEYS
  { symbol := order.symbol
    side := order.side.value
    requestedQuantity := order.quantity
    filledQuantity := filledQuantity
    averageFillPrice := extractFloat payload PRICE_KEYS
    status := statusOf (rawStatus payload) filledQuantity order.quantity
    exchange := exchangeName
    exchangeOrderId := firstTruthy payload ["id", "orderId", "clientOrderId"]
    correlationId := order.correlationId
    fee := extractFee payload
    rawResponse := rawResponse }

end Definitions

end ExchangeResponseNormalizer

end Aegis
