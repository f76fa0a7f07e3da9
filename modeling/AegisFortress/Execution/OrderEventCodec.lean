import AegisFortress.Models.Order

/-!
# Orders as events

`execution/order_event_codec.py`.  An order travels to the execution service as a dictionary.
-/

namespace Aegis

/-- The member of an enumeration whose value is a string. -/
def ofValue {τ : Type} (name : String) (members : List (String × τ)) (value : String) :
    Except PyError τ :=
  match members.lookup value with
  | some member => .ok member
  | none => .error ⟨.valueError, s!"'{value}' is not a valid {name}"⟩

def OrderSide.members : List (String × OrderSide) :=
  [OrderSide.buy, .sell].map fun side => (side.value, side)

def OrderType.members : List (String × OrderType) :=
  [OrderType.market, .limit].map fun orderType => (orderType.value, orderType)

def OrderStatus.members : List (String × OrderStatus) :=
  [OrderStatus.created, .validated, .routed, .submitted, .partiallyFilled, .filled, .cancelled,
    .failed, .rejected].map fun status => (status.value, status)

namespace OrderEventCodec

section Definitions

variable {α : Type} [Zero α] [DecidableEq α] [PyFloat α] (iso : IsoFormat)

/-- `OrderEventCodec.encode`. -/
def encode (order : Order α) : List (String × PyVal α) :=
  [("symbol", .str order.symbol), ("side", .str order.side.value),
    ("quantity", .float order.quantity), ("order_type", .str order.orderType.value),
    ("price", order.price.elim .none .float), ("exchange", .ofOption order.exchange),
    ("status", .str order.status.value), ("filled_quantity", .float order.filledQuantity),
    ("average_fill_price", .float order.averageFillPrice),
    ("exchange_order_id", .ofOption order.exchangeOrderId), ("strategy_id", .ofOption order.strategyId),
    ("correlation_id", .ofOption order.correlationId),
    ("created_at", .str (iso.isoformat order.createdAt)),
    ("updated_at", .str (iso.isoformat order.updatedAt))]

/-- `payload[key]`. -/
def required (items : List (String × PyVal α)) (key : String) : Except PyError (PyVal α) :=
  match items.lookup key with
  | some value => .ok value
  | none => .error ⟨.keyError, s!"'{key}'"⟩

/-- A field that is taken as it is, read as text. -/
def asText : PyVal α → Option String
  | .none => none
  | value => some value.toStr

/-- `_optional_float(value)`. -/
def optionalFloat : PyVal α → Except PyError (Option α)
  | .none => .ok none
  | value => value.toFloat.map some

/-- `_parse_datetime(value)`. -/
def parseDatetime (value : PyVal α) : Except PyError (Option DateTime) :=
  if value.truthy then
    match value with
    | .str s => .ok (iso.fromisoformat s)
    | _ => .error ⟨.typeError, "fromisoformat: argument must be str"⟩
  else .ok none

/-- `OrderEventCodec.decode`; `now` is the clock's time, the default of both stamps. -/
def decode (now : DateTime) (payload : PyVal α) : Except PyError (Order α) :=
  match payload with
  | .dict items => do
      let createdAt ← parseDatetime iso (PyVal.get items "created_at")
      let updatedAt ← parseDatetime iso (PyVal.get items "updated_at")
      let symbol ← required items "symbol"
      let side ← required items "side"
      let side ← ofValue "OrderSide" OrderSide.members (pyUpper side.toStr)
      let quantity ← required items "quantity"
      let quantity ← quantity.toFloat
      let orderType ← required items "order_type"
      let orderType ← ofValue "OrderType" OrderType.members (pyUpper orderType.toStr)
      let price ← optionalFloat (PyVal.get items "price")
      let status ← ofValue "OrderStatus" OrderStatus.members
        (pyUpper ((items.lookup "status").getD (.str "CREATED")).toStr)
      let filledQuantity ← ((items.lookup "filled_quantity").getD (.float 0)).toFloat
      let averageFillPrice ← ((items.lookup "average_fill_price").getD (.float 0)).toFloat
      let correlationId := PyVal.get items "correlation_id"
      .ok { symbol := symbol.toStr, side, quantity, orderType, price
            exchange := asText (PyVal.get items "exchange"), status, filledQuantity
            averageFillPrice, exchangeOrderId := asText (PyVal.get items "exchange_order_id")
            strategyId := asText (PyVal.get items "strategy_id")
            correlationId := if correlationId.truthy then some correlationId.toStr else none
            createdAt := createdAt.getD now, updatedAt := updatedAt.getD now }
  | _ => .error ⟨.typeError, "Order event payload must be a dictionary"⟩

end Definitions

/-! ## Reading an encoded order -/

section RoundTrip

variable {α : Type} (iso : IsoFormat)

lemma ofValue_side (side : OrderSide) :
    ofValue "OrderSide" OrderSide.members (pyUpper side.value) = .ok side := by
  cases side <;> rfl

lemma ofValue_orderType (orderType : OrderType) :
    ofValue "OrderType" OrderType.members (pyUpper orderType.value) = .ok orderType := by
  cases orderType <;> rfl

lemma ofValue_status (status : OrderStatus) :
    ofValue "OrderStatus" OrderStatus.members (pyUpper status.value) = .ok status := by
  cases status <;> rfl

section Fields

variable [PyFloat α]

lemma optionalFloat_price (price : Option α) :
    optionalFloat (price.elim .none .float) = .ok price := by
  cases price <;> rfl

lemma asText_ofOption (text : Option String) : asText (.ofOption text : PyVal α) = text := by
  cases text <;> rfl

end Fields

variable [Zero α] [DecidableEq α]

/-- What is read of a stamp that has been written. -/
def restored (stamp : DateTime) : Option DateTime :=
  if iso.isoformat stamp = "" then none else iso.fromisoformat (iso.isoformat stamp)

/-- The text of a stamp never raises. -/
lemma parseDatetime_isoformat (stamp : DateTime) :
    parseDatetime iso (.str (iso.isoformat stamp) : PyVal α) = .ok (restored iso stamp) := by
  rw [parseDatetime, restored, PyVal.truthy]
  by_cases h : iso.isoformat stamp = ""
  · simp [h]
  · simp [h]

variable [PyFloat α]

/-- What is decoded of an encoded order: that order, up to an empty uuid and what the stamps
come back as. -/
lemma decode_encode (order : Order α) (now : DateTime) :
    decode iso now (.dict (encode iso order))
      = .ok { order with
          correlationId := order.correlationId.filter fun text => text ≠ ""
          createdAt := (restored iso order.createdAt).getD now
          updatedAt := (restored iso order.updatedAt).getD now } := by
  have hread : ∀ key value, (encode iso order).lookup key = some value →
      PyVal.get (encode iso order) key = value ∧ required (encode iso order) key = .ok value := by
    intro key value h
    rw [PyVal.get, required, h]
    exact ⟨rfl, rfl⟩
  have hbind : ∀ {β γ : Type} (b : β) (f : β → Except PyError γ), (Except.ok b >>= f) = f b :=
    fun _ _ => rfl
  have hfloat : ∀ x : α, (PyVal.float x).toFloat = .ok x := fun _ => rfl
  have hid : (if (.ofOption order.correlationId : PyVal α).truthy then
      some (.ofOption order.correlationId : PyVal α).toStr else none)
        = order.correlationId.filter fun text => text ≠ "" := by
    cases order.correlationId with
    | none => rfl
    | some text =>
        change (if decide (text ≠ "") = true then some text else none) = _
        rw [Option.filter_some]
  rw [decode]
  simp only [(hread "created_at" _ rfl).1, (hread "updated_at" _ rfl).1, (hread "symbol" _ rfl).2,
    (hread "side" _ rfl).2, (hread "quantity" _ rfl).2, (hread "order_type" _ rfl).2,
    (hread "price" _ rfl).1, (hread "exchange" _ rfl).1, (hread "exchange_order_id" _ rfl).1,
    (hread "strategy_id" _ rfl).1, (hread "correlation_id" _ rfl).1, parseDatetime_isoformat,
    asText_ofOption, optionalFloat_price, hbind, PyVal.toStr, ofValue_side, ofValue_orderType, hfloat]
  have hstatus : (encode iso order).lookup "status" = some (.str order.status.value) := rfl
  have hfilled : (encode iso order).lookup "filled_quantity" = some (.float order.filledQuantity) :=
    rfl
  have haverage : (encode iso order).lookup "average_fill_price"
      = some (.float order.averageFillPrice) := rfl
  simp only [hstatus, hfilled, haverage, Option.getD_some, ofValue_status, hbind, hfloat]
  rw [← hid]
  rfl

lemma restored_of_reads {stamp : DateTime} (h : iso.Reads stamp) :
    restored iso stamp = some stamp := by
  rw [restored, if_neg h.text, h.back]

/-- **An order survives its event**, every field of it, with a uuid and stamps that can be read
back. -/
theorem order_round_trip (order : Order α) {correlationId : String}
    (hid : order.correlationId = some correlationId) (hnonempty : correlationId ≠ "")
    (hcreated : iso.Reads order.createdAt) (hupdated : iso.Reads order.updatedAt) (now : DateTime) :
    decode iso now (.dict (encode iso order)) = .ok order := by
  rw [decode_encode, restored_of_reads iso hcreated, restored_of_reads iso hupdated, hid]
  have hkept : (some correlationId).filter (fun text => text ≠ "") = some correlationId :=
    Option.filter_some_pos (decide_eq_true hnonempty)
  rw [hkept, ← hid]
  rfl

/-- An order without a price, for nothing, that is still to be sent. -/
def emptyOrder : Order ℚ :=
  { symbol := "", side := .sell, quantity := 0, orderType := .limit, correlationId := some "0" }

theorem order_round_trip_empty :
    decode epochFormat ⟨5⟩ (.dict (encode epochFormat emptyOrder)) = .ok emptyOrder :=
  order_round_trip epochFormat emptyOrder rfl (by decide) ⟨by decide, by decide⟩
    ⟨by decide, by decide⟩ ⟨5⟩

/-- The clock is asked for the stamps alone. -/
lemma decode_now {now : DateTime} {payload : PyVal ℚ} {order : Order ℚ}
    (h : decode iso now payload = .ok order) (now' : DateTime) : ∃ createdAt updatedAt,
    decode iso now' payload = .ok { order with createdAt := createdAt, updatedAt := updatedAt } := by
  cases payload with
  | dict items =>
      have hbind : ∀ {β γ : Type} {x : Except PyError β} {f : β → Except PyError γ} {c : γ},
          (x >>= f) = .ok c ↔ ∃ b, x = .ok b ∧ f b = .ok c := by
        intro β γ x f c
        cases x with
        | error e => exact ⟨fun h => (by cases h), fun ⟨b, hb, _⟩ => (by cases hb)⟩
        | ok b => exact ⟨fun h => ⟨b, rfl, h⟩, fun ⟨b', hb, h⟩ => (by cases hb; exact h)⟩
      simp only [decode, hbind] at h ⊢
      obtain ⟨c, hc, u, hu, sy, hsy, sd, hsd, sd', hsd', q, hq, q', hq', o, ho, o', ho', p, hp, st,
        hst, f, hf, a, ha, hok⟩ := h
      refine ⟨c.getD now', u.getD now', c, hc, u, hu, sy, hsy, sd, hsd, sd', hsd', q, hq, q', hq', o, ho,
        o', ho', p, hp, st, hst, f, hf, a, ha, ?_⟩
      rw [← Except.ok.inj hok]
  | _ => cases h

end RoundTrip
end OrderEventCodec

end Aegis
