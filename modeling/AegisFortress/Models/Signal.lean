import AegisFortress.Models.Order

/-!
# Trade signals

`models/signal.py`.  What a strategy wants to trade, before it is an order.  The uuid and the stamp
of a signal are never read back and are left out.
-/

namespace Aegis

/-- `models.signal.TradeSignal`. -/
structure TradeSignal (α : Type) where
  symbol : String
  side : OrderSide
  quantity : α
  orderType : OrderType := .market
  price : Option α := none
  strategyId : Option String := none
  reason : Option String := none
  confidence : Option α := none

/-- What a new order is stamped with: its uuid and the clock's time. -/
structure OrderStamp where
  correlationId : String
  createdAt : DateTime
  updatedAt : DateTime

section Definitions

variable {α : Type} [Zero α] [One α] [LT α] [LE α] [DecidableLT α] [DecidableLE α]

namespace TradeSignal

/-- `TradeSignal.validate()`. -/
def validate (signal : TradeSignal α) : Except PyError Unit :=
  if signal.symbol = "" then .error ⟨.valueError, "Signal symbol is required"⟩
  else if signal.quantity ≤ 0 then .error ⟨.valueError, "Signal quantity must be positive"⟩
  else if signal.orderType = .limit ∧ signal.price.all fun price => price ≤ 0 then
    .error ⟨.valueError, "Limit signal requires a positive price"⟩
  else if signal.confidence.any fun confidence => ¬ (0 ≤ confidence ∧ confidence ≤ 1) then
    .error ⟨.valueError, "Signal confidence must be in [0, 1]"⟩
  else .ok ()

/-- `TradeSignal.to_order()`. -/
def toOrder (stamp : OrderStamp) (signal : TradeSignal α) : Except PyError (Order α) :=
  signal.validate.map fun _ =>
    { symbol := signal.symbol, side := signal.side, quantity := signal.quantity
      orderType := signal.orderType, price := signal.price, strategyId := signal.strategyId
      correlationId := some stamp.correlationId, createdAt := stamp.createdAt
      updatedAt := stamp.updatedAt }

end TradeSignal

end Definitions

/-- An order is what its signal asks for. -/
lemma TradeSignal.toOrder_ok {signal : TradeSignal ℚ} {stamp : OrderStamp} {order : Order ℚ}
    (h : signal.toOrder stamp = .ok order) :
    order.symbol = signal.symbol ∧ order.side = signal.side ∧ order.quantity = signal.quantity
      ∧ signal.symbol ≠ "" ∧ 0 < signal.quantity := by
  rw [toOrder] at h
  cases hv : signal.validate with
  | error e => cases hv ▸ h
  | ok u =>
      rw [hv] at h
      cases h
      rw [validate] at hv
      split_ifs at hv with hsymbol hquantity
      exact ⟨rfl, rfl, rfl, hsymbol, not_le.mp hquantity⟩

end Aegis
