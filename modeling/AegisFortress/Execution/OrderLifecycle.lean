import AegisFortress.Models.Order

/-!
# Checking an order and moving it through its states

`execution/execution_validator.py` and the transition table of `execution/order_state_machine.py`.
-/

namespace Aegis

/-- `OrderStateMachine.VALID_TRANSITIONS`; a terminal state has no entry. -/
def OrderStatus.VALID_TRANSITIONS : OrderStatus → List OrderStatus
  | created => [validated, rejected]
  | validated => [routed, failed, rejected]
  | routed => [submitted, failed, rejected]
  | submitted => [partiallyFilled, filled, cancelled, failed]
  | partiallyFilled => [filled, cancelled]
  | _ => []

/-- `ExecutionValidator.validate`. -/
def Order.validate {α : Type} [Zero α] [LE α] [DecidableLE α] (order : Order α) :
    Except PyError Unit :=
  if order.symbol = "" then .error ⟨.valueError, "Missing symbol"⟩
  else if order.quantity ≤ 0 then .error ⟨.valueError, "Invalid quantity"⟩
  else if order.orderType = .limit ∧ order.price.isNone then
    .error ⟨.valueError, "Limit order requires price"⟩
  else .ok ()

end Aegis
