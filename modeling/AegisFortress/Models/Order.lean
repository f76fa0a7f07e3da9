import AegisFortress.Python.Value

/-!
# Orders, execution reports and trades

The records the execution pipeline passes on.  A field the code never reads back (a trade's uuid,
the wall-clock stamps of reports and trades) is left out.
-/

namespace Aegis

/-- A naive UTC `datetime`, in microseconds. -/
structure DateTime where
  micros : ℤ
  deriving DecidableEq, Repr

/-- `datetime.isoformat` and `datetime.fromisoformat`; the second is `none` where Python raises
`ValueError`. -/
structure IsoFormat where
  isoformat : DateTime → String
  fromisoformat : String → Option DateTime

/-- A stamp is written as a text, and read back from it. -/
structure IsoFormat.Reads (iso : IsoFormat) (stamp : DateTime) : Prop where
  text : iso.isoformat stamp ≠ ""
  back : iso.fromisoformat (iso.isoformat stamp) = some stamp

/-- The text of the beginning of the epoch; every other stamp is written as a number. -/
def epochFormat : IsoFormat where
  isoformat stamp := if stamp = ⟨0⟩ then "1970-01-01T00:00:00" else toString stamp.micros
  fromisoformat text := if text = "1970-01-01T00:00:00" then some ⟨0⟩ else none

inductive OrderSide
  | buy
  | sell
  deriving DecidableEq, Repr

namespace OrderSide

def value : OrderSide → String
  | buy => "BUY"
  | sell => "SELL"

/-- The side a string names once it is upper-cased. -/
def ofString? (side : String) : Option OrderSide :=
  if pyUpper side = "BUY" then some buy
  else if pyUpper side = "SELL" then some sell
  else none

/-- A quantity with the sign of the side: `quantity if side == "BUY" else -quantity`. -/
def signed {α : Type} [Neg α] : OrderSide → α → α
  | buy, quantity => quantity
  | sell, quantity => -quantity

@[simp] lemma signed_buy {α : Type} [Neg α] (x : α) : buy.signed x = x := rfl
@[simp] lemma signed_sell {α : Type} [Neg α] (x : α) : sell.signed x = -x := rfl

/-- The value of a side names that side. -/
@[simp] lemma ofString?_value (side : OrderSide) : ofString? side.value = some side := by
  cases side <;> decide +kernel

/-! ### Signs -/

section Signs

variable (side : OrderSide) (x y z : ℚ)

lemma signed_add : side.signed (x + y) = side.signed x + side.signed y := by
  cases side with
  | buy => rfl
  | sell => exact neg_add x y

@[simp] lemma signed_signed : side.signed (side.signed x) = x := by
  cases side with
  | buy => rfl
  | sell => exact neg_neg x

lemma signed_mul_signed : side.signed x * side.signed y = x * y := by
  cases side with
  | buy => rfl
  | sell => exact neg_mul_neg x y

lemma signed_mul : side.signed (x * y) = side.signed x * y := by
  cases side with
  | buy => rfl
  | sell => exact (neg_mul x y).symm

lemma signed_mul_comm : side.signed x * y = x * side.signed y := by
  cases side with
  | buy => rfl
  | sell => exact neg_mul_comm x y

lemma sub_mul_signed : (x - y) * side.signed z = side.signed (y - x) * -z := by
  cases side with
  | buy => rw [signed_buy, signed_buy, ← neg_sub x y, neg_mul_neg]
  | sell => rw [signed_sell, signed_sell, neg_sub]

@[simp] lemma abs_signed : |side.signed x| = |x| := by
  cases side with
  | buy => rfl
  | sell => exact abs_neg x

lemma signed_eq_zero : side.signed x = 0 ↔ x = 0 := by
  cases side with
  | buy => exact Iff.rfl
  | sell => exact neg_eq_zero

end Signs

end OrderSide

inductive OrderType
  | market
  | limit
  deriving DecidableEq, Repr

def OrderType.value : OrderType → String
  | market => "MARKET"
  | limit => "LIMIT"

inductive OrderStatus
  | created
  | validated
  | routed
  | submitted
  | partiallyFilled
  | filled
  | cancelled
  | failed
  | rejected
  deriving DecidableEq, Repr

def OrderStatus.value : OrderStatus → String
  | created => "CREATED"
  | validated => "VALIDATED"
  | routed => "ROUTED"
  | submitted => "SUBMITTED"
  | partiallyFilled => "PARTIALLY_FILLED"
  | filled => "FILLED"
  | cancelled => "CANCELLED"
  | failed => "FAILED"
  | rejected => "REJECTED"

/-- `models.order.Order`, with its fourteen fields and their defaults. -/
structure Order (α : Type) [Zero α] where
  symbol : String
  side : OrderSide
  quantity : α
  orderType : OrderType
  price : Option α := none
  exchange : Option String := none
  status : OrderStatus := .created
  filledQuantity : α := 0
  averageFillPrice : α := 0
  exchangeOrderId : Option String := none
  strategyId : Option String := none
  correlationId : Option String := none
  createdAt : DateTime := ⟨0⟩
  updatedAt : DateTime := ⟨0⟩

/-- `models.execution_report.ExecutionReport`. -/
structure ExecutionReport (α : Type) where
  symbol : String
  side : String
  requestedQuantity : α
  filledQuantity : α
  averageFillPrice : α
  status : OrderStatus
  exchange : String
  exchangeOrderId : Option String
  correlationId : Option String
  fee : α
  rawResponse : PyVal α

/-- `ExecutionReport.has_fill`. -/
def ExecutionReport.hasFill {α : Type} [Zero α] [LT α] (report : ExecutionReport α) : Prop :=
  0 < report.filledQuantity

instance {α : Type} [Zero α] [LT α] [DecidableLT α] (report : ExecutionReport α) :
    Decidable report.hasFill := inferInstanceAs (Decidable (_ < _))

/-- `models.trade.Trade`. -/
structure Trade (α : Type) where
  symbol : String
  side : OrderSide
  quantity : α
  price : α
  exchange : String
  pnl : α
  fee : α
  strategyId : Option String
  orderId : Option String

end Aegis
