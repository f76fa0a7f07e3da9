import AegisFortress.Lib.Dict
import AegisFortress.Lib.Run
import AegisFortress.Models.Order
import Mathlib.Tactic.Linarith
import Mathlib.Tactic.FieldSimp

/-!
# The position ledger

`portfolio/position_ledger.py`: a dictionary of open positions, the list of trades, and the
running total of realized profit.  `applySignedFill` is the arithmetic of one fill on one position
— open, add, partial close, exact close, flip — and `applyFill` wraps it with the argument checks,
the removal of a position that has shrunk to dust, and the bookkeeping of the trade.

The definitions are for any type of floats; the theorems are about `ℚ`.
-/

namespace Aegis

/-- `models.position.Position`, less the wall-clock stamp. -/
structure Position (α : Type) where
  symbol : String
  quantity : α
  averageEntry : α
  realizedPnl : α
  unrealizedPnl : α
  deriving DecidableEq

section Definitions

variable {α : Type} [Add α] [Sub α] [Mul α] [Div α] [Neg α] [Zero α] [LT α] [LE α]
  [DecidableLT α] [DecidableLE α] [PyFloat α]

namespace Position

/-- `Position(symbol=symbol)`. -/
def flat (symbol : String) : Position α := ⟨symbol, 0, 0, 0, 0⟩

/-- `Position.side`. -/
def side (p : Position α) : String :=
  if 0 < p.quantity then "LONG" else if p.quantity < 0 then "SHORT" else "FLAT"

/-- `Position.signed_notional(mark_price)`. -/
def signedNotional (p : Position α) (markPrice : α) : α := p.quantity * markPrice

/-- `Position.mark_to_market(mark_price)`. -/
def markToMarket (p : Position α) (markPrice : α) : Position α :=
  if 0 < p.quantity then
    { p with unrealizedPnl := (markPrice - p.averageEntry) * p.quantity }
  else if p.quantity < 0 then
    { p with unrealizedPnl := (p.averageEntry - markPrice) * pyAbs p.quantity }
  else
    { p with unrealizedPnl := 0 }

end Position

namespace PositionLedger

/-- `PositionLedger.EPSILON`. -/
def EPSILON : α := PyFloat.ofRat (1 / 10 ^ 12)

/-- `PositionLedger._apply_signed_fill`: the position after the fill and the profit it realized. -/
def applySignedFill (position : Position α) (signedDelta price fee : α) : Position α × α :=
  let currentQty := position.quantity
  let incomingQty := signedDelta
  if pyAbs currentQty ≤ EPSILON then
    ({ position with quantity := incomingQty, averageEntry := price }, -fee)
  else if (0 < currentQty ∧ 0 < incomingQty) ∨ (currentQty < 0 ∧ incomingQty < 0) then
    let newAbsQty := pyAbs currentQty + pyAbs incomingQty
    let weightedCost := pyAbs currentQty * position.averageEntry + pyAbs incomingQty * price
    ({ position with
        quantity := currentQty + incomingQty
        averageEntry := weightedCost / newAbsQty }, -fee)
  else
    let closeQty := pyMin (pyAbs currentQty) (pyAbs incomingQty)
    let realizedPnl :=
      if 0 < currentQty then (price - position.averageEntry) * closeQty
      else (position.averageEntry - price) * closeQty
    let remainingQty := currentQty + incomingQty
    let resized :=
      if pyAbs remainingQty ≤ EPSILON then
        { position with quantity := 0, averageEntry := 0 }
      else if (0 < currentQty ∧ remainingQty < 0) ∨ (currentQty < 0 ∧ 0 < remainingQty) then
        { position with quantity := remainingQty, averageEntry := price }
      else
        { position with quantity := remainingQty }
    let netRealized := realizedPnl - fee
    ({ resized with realizedPnl := resized.realizedPnl + netRealized }, netRealized)

end PositionLedger

/-- `portfolio.position_ledger.PositionLedger`. -/
structure PositionLedger (α : Type) where
  positions : Dict String (Position α)
  trades : List (Trade α)
  realizedPnlTotal : α

/-- The arguments of one `apply_fill` call. -/
structure Fill (α : Type) where
  symbol : String
  side : String
  quantity : α
  price : α
  exchange : String
  fee : α
  strategyId : Option String := none
  orderId : Option String := none

namespace PositionLedger

/-- `PositionLedger()`. -/
def empty : PositionLedger α := ⟨∅, [], 0⟩

/-- `PositionLedger.get_position(symbol)`. -/
def getPosition (ledger : PositionLedger α) (symbol : String) : Option (Position α) :=
  ledger.positions.get? symbol

/-- The signed quantity held in a symbol, zero when there is no position. -/
def quantityOf (ledger : PositionLedger α) (symbol : String) : α :=
  ((ledger.getPosition symbol).map Position.quantity).getD 0

/-- `PositionLedger.realized_pnl()`. -/
def realizedPnl (ledger : PositionLedger α) : α := ledger.realizedPnlTotal

/-- The argument checks of `apply_fill`; what passes has a side. -/
def checkFill (fill : Fill α) : Except PyError OrderSide :=
  if fill.symbol = "" then .error ⟨.valueError, "symbol is required"⟩
  else if fill.quantity ≤ 0 then .error ⟨.valueError, "quantity must be positive"⟩
  else if fill.price ≤ 0 then .error ⟨.valueError, "price must be positive"⟩
  else match OrderSide.ofString? fill.side with
    | none => .error ⟨.valueError, "side must be BUY or SELL"⟩
    | some side => .ok side

/-- What `apply_fill` does once the arguments have passed: the new ledger and the trade. -/
def book (ledger : PositionLedger α) (fill : Fill α) (side : OrderSide) :
    PositionLedger α × Trade α :=
  let signedDelta := side.signed fill.quantity
  let position := (ledger.positions.get? fill.symbol).getD (Position.flat fill.symbol)
  let (position, realizedPnl) := applySignedFill position signedDelta fill.price fill.fee
  -- a position that has shrunk to dust leaves the dictionary
  let positions :=
    if pyAbs position.quantity ≤ EPSILON then ledger.positions.erase fill.symbol
    else ledger.positions.set fill.symbol position
  let trade : Trade α :=
    { symbol := fill.symbol, side := side, quantity := fill.quantity, price := fill.price
      exchange := fill.exchange, pnl := realizedPnl, fee := fill.fee
      strategyId := fill.strategyId, orderId := fill.orderId }
  (⟨positions, ledger.trades ++ [trade], ledger.realizedPnlTotal + realizedPnl⟩, trade)

/-- `PositionLedger.apply_fill`. -/
def applyFill (ledger : PositionLedger α) (fill : Fill α) :
    Except PyError (PositionLedger α × Trade α) :=
  (checkFill fill).map (book ledger fill)

/-- `PositionLedger.mark_positions(prices)`. -/
def markPositions (ledger : PositionLedger α) (prices : Dict String α) : PositionLedger α :=
  { ledger with
    positions := ledger.positions.mapVal fun symbol position =>
      match prices.get? symbol with
      | none => position
      | some markPrice => if 0 < markPrice then position.markToMarket markPrice else position }

end PositionLedger

end Definitions

end Aegis
