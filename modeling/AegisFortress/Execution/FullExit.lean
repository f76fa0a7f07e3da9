import AegisFortress.Execution.SubmitGuarantees
import AegisFortress.Strategies.SignalSteps

/-!
# Leaving a position

An exit signal asks for the whole position.  The exchange rounds the quantity to its lots before it
is sent, and the ledger forgets a position only when what is left of it is at most `EPSILON`.

`exit_leaves` says what an accepted exit leaves when the exchange fills all that it was sent.
-/

namespace Aegis

namespace PositionLedger

lemma sweep_neg (q : ℚ) : sweep (-q) = -sweep q := by
  rw [sweep, sweep, abs_neg]
  split_ifs
  · exact neg_zero.symm
  · rfl

/-- A fill closes the position exactly when it leaves dust. -/
lemma absent_book_iff {ledger : PositionLedger ℚ} {fill : Fill ℚ} {side : OrderSide}
    (hq : 0 < fill.quantity) : (ledger.book fill side).1.getPosition fill.symbol = none
      ↔ |sweep (ledger.quantityOf fill.symbol) + side.signed fill.quantity| ≤ EPSILON := by
  have hleft : |(ledger.filled fill side).1.quantity| ≤ EPSILON
      ↔ |sweep (ledger.quantityOf fill.symbol) + side.signed fill.quantity| ≤ EPSILON := by
    rw [← sweep_eq_zero_iff, ledger.sweep_filled side hq, sweep_eq_zero_iff]
  rw [getPosition_book_self, ← hleft]
  split_ifs with hdust
  · simp [hdust]
  · simp [hdust]

lemma absent_markPositions_iff {ledger : PositionLedger ℚ} {prices : Dict String ℚ}
    {symbol : String} :
    (ledger.markPositions prices).getPosition symbol = none ↔ ledger.getPosition symbol = none := by
  rw [getPosition, getPosition, markPositions, Dict.get?_mapVal, Option.map_eq_none_iff]

end PositionLedger

namespace ExecutionPipeline

open PositionLedger ExchangeResponseNormalizer MeanReversionImbalanceStrategy

variable (pipeline : ExecutionPipeline ℚ) (answers : Answers ℚ) (markPrices : Dict String ℚ)
  (order : Order ℚ) (books : Books ℚ)

/-- What can be processed with something filled also has a price. -/
lemma processing_fills {report : ExecutionReport ℚ} {fill : FillProcessingResult ℚ} {b : Books ℚ}
    (h : processing pipeline answers markPrices order books report = .ok fill b)
    (hfilled : 0 < report.filledQuantity) : Fills report := by
  have hout := pipeline.fillProcessor.process_outcome answers.toStoreAnswers report markPrices
    order.strategyId books
  rw [processing] at h
  rw [h] at hout
  cases hout with
  | noFill hno => exact absurd hfilled hno
  | completed _ hprice => exact ⟨hfilled, not_le.mp hprice⟩

/-- A submission that is accepted with something filled has booked it. -/
lemma accepted_booked (haccepted : (pipeline.submit answers markPrices order books).1.accepted = true) :
    ∃ exchange price quantity limit raw,
      Clears pipeline answers markPrices order books exchange price quantity limit
      ∧ exchange.createOrder = .ok raw
      ∧ (0 < extractFloat (payloadOf raw) FILLED_KEYS →
        Booked pipeline answers markPrices order books exchange price quantity limit raw) := by
  have h := pipeline.submit_outcome answers markPrices order books
  generalize pipeline.submit answers markPrices order books = result at h haccepted
  cases h with
  | unsent r w hr => cases hr.symm.trans haccepted
  | unanswered hc e he r w hr => cases hr.symm.trans haccepted
  | unsettled hc raw hraw e r w hr => cases hr.symm.trans haccepted
  | @accepted exchange price quantity limit hc raw hraw hrecord fill r w hr hfill =>
      refine ⟨exchange, price, quantity, limit, raw, hc, hraw, fun hfilled => ?_⟩
      have hfills := processing_fills pipeline answers markPrices order books hfill hfilled
      exact ⟨hc, hraw, hrecord, hfills.1, hfills.2⟩

variable {pipeline answers markPrices order books}

/-- What the ledger holds of the symbol after a booked fill. -/
lemma HoldsFill.absent_iff {ledger : PositionLedger ℚ} {fill : Fill ℚ} {b : Books ℚ}
    (h : HoldsFill markPrices order ledger fill b) (hq : 0 < fill.quantity) :
    b.ledger.getPosition fill.symbol = none
      ↔ |sweep (ledger.quantityOf fill.symbol) + order.side.signed fill.quantity| ≤ EPSILON := by
  rw [← absent_book_iff hq]
  rcases h with h | h
  · rw [h]
  · rw [h, absent_markPositions_iff]

/-- Selling what is held, or buying back what is owed, leaves the difference. -/
lemma abs_left {position : Position ℚ} {side : OrderSide} (sent : ℚ)
    (hagainst : 0 < position.quantity ∧ side = .sell ∨ position.quantity < 0 ∧ side = .buy) :
    |sweep position.quantity + side.signed sent| = |sent - sweep (|position.quantity|)| := by
  rcases hagainst with ⟨hlong, rfl⟩ | ⟨hshort, rfl⟩
  · rw [OrderSide.signed_sell, abs_of_pos hlong, abs_sub_comm, sub_eq_add_neg]
  · rw [OrderSide.signed_buy, abs_of_neg hshort, sweep_neg, sub_neg_eq_add, add_comm]

/-- **What a full exit leaves.**  The exit signal for a position is accepted, and the exchange fills
all of what it was sent.  The position is gone exactly when rounding the quantity for the exchange
has moved it by dust at most. -/
theorem exit_flat_iff (pipeline : ExecutionPipeline ℚ) (answers : Answers ℚ)
    (markPrices : Dict String ℚ) (books : Books ℚ) (strategy : MeanReversionImbalanceStrategy ℚ)
    (clock : Monotonic ℚ) (state : StrategyState ℚ) (symbol : String) (position : Position ℚ)
    (hheld : books.ledger.getPosition symbol = some position)
    (bestBid bestAsk midPrice zscore : ℚ) (signal : TradeSignal ℚ) (reason : ExitReason)
    (hexit : strategy.buildExitSignal clock state symbol position bestBid bestAsk midPrice zscore
      = some (signal, reason))
    (stamp : OrderStamp) (order : Order ℚ) (horder : signal.toOrder stamp = .ok order)
    (haccepted : (pipeline.submit answers markPrices order books).1.accepted = true)
    (exchange : Exchange ℚ) (price : ℚ)
    (hroute : selectExchange answers.route = .ok (exchange, price)) (sent : ℚ)
    (hrounded : exchange.roundQuantity symbol |position.quantity| = .ok sent) (raw : PyVal ℚ)
    (hanswer : exchange.createOrder = .ok raw)
    (hfilled : extractFloat (payloadOf raw) FILLED_KEYS = sent) :
    (pipeline.submit answers markPrices order books).2.books.ledger.getPosition symbol = none
      ↔ |sent - sweep (|position.quantity|)| ≤ EPSILON := by
  obtain ⟨hfor, hwhole, hagainst⟩ := buildExitSignal_some hexit
  obtain ⟨hsymbol, hside, hquantity, -, -⟩ := TradeSignal.toOrder_ok horder
  have hsymbol : order.symbol = symbol := hsymbol.trans hfor
  obtain ⟨exchange', price', quantity, limit, raw', hc, hraw, hbooked⟩ :=
    accepted_booked pipeline answers markPrices order books haccepted
  have hr := hc.routed.symm.trans hroute
  rw [Except.ok.injEq, Prod.mk.injEq] at hr
  obtain ⟨rfl, rfl⟩ := hr
  cases hraw.symm.trans hanswer
  have hsent : quantity = sent := by
    have hrounded' := hc.rounded
    rw [hsymbol, hquantity, hwhole, hrounded] at hrounded'
    exact (Except.ok.inj hrounded').symm
  have hpositive : 0 < sent := hsent ▸ ((PreTradeRiskValidator.allowed_iff ..).mp hc.allowed).quantity_pos
  have hb := hbooked (hfilled ▸ hpositive)
  rcases pipeline.submit_books answers markPrices order books with
    ⟨exchange', price', quantity', limit', raw', hb', hholds, -⟩ | ⟨hno, -⟩
  · obtain ⟨rfl, -, rfl, rfl⟩ := hb'.clears.toPrepared.unique answers order hc.toPrepared
    cases hb'.answered.symm.trans hanswer
    have habsent := hholds.absent_iff hb'.filled
    change _ ↔ |sweep (books.ledger.quantityOf order.symbol)
      + order.side.signed (extractFloat (payloadOf raw) FILLED_KEYS)| ≤ EPSILON at habsent
    have hquantityOf : books.ledger.quantityOf symbol = position.quantity := by
      rw [PositionLedger.quantityOf, hheld]
      rfl
    rw [hsymbol, hfilled, hquantityOf, abs_left sent (hside ▸ hagainst)] at habsent
    rw [← habsent, ← hsymbol]
    rfl
  · exact absurd hb (hno _ _ _ _ _)

/-- A client that trades lots of a hundredth, one lot at least, and fills this quantity at 99. -/
def lotExchange (filled : ℚ) : Exchange ℚ :=
  { demoExchange with
    amountToPrecision := some fun _ quantity => .ok (.float ((max 1 ⌊quantity * 100⌋₊ : ℕ) / 100))
    createOrder := .ok (.dict
      [("id", .str "8"), ("status", .str "closed"), ("filled", .float filled),
        ("average", .float 99)]) }

def lotAnswers (filled : ℚ) : Answers ℚ :=
  { demoAnswers (.ok ()) (.ok ()) with route := .ok (some (some (lotExchange filled), some 99)) }

/-- A coin, more or less, bought at 100. -/
def coin (quantity : ℚ) : Position ℚ := ⟨"BTC/USDT", quantity, 100, 0, 0⟩

def coinBooks (quantity : ℚ) : Books ℚ :=
  ⟨⟨(∅ : Dict String (Position ℚ)).set "BTC/USDT" (coin quantity), [], 0⟩, .dict []⟩

/-- The exit at a bid of 99. -/
def coinExit (quantity : ℚ) : Option (TradeSignal ℚ × ExitReason) :=
  lowCapitalStrategy.buildExitSignal ⟨0, 0, 0, 0, 0, 0, 0⟩ ⟨∅, ∅, ∅, ∅, ∅, ∅⟩ "BTC/USDT"
    (coin quantity) 99 101 100 0

def coinOrder (quantity : ℚ) : Option (Order ℚ) :=
  (coinExit quantity).bind fun exit => (exit.1.toOrder ⟨"9", ⟨0⟩, ⟨0⟩⟩).toOption

/-- Whether the exit is accepted, and what is left. -/
def coinLeft (quantity filled : ℚ) : Option (Bool × Option ℚ) :=
  (coinOrder quantity).map fun order =>
    let result := demoPipeline.submit (lotAnswers filled) ∅ order (coinBooks quantity)
    (result.1.accepted, (result.2.books.ledger.getPosition "BTC/USDT").map Position.quantity)

lemma coinLeft_some {quantity filled : ℚ} {accepted : Bool} {left : Option ℚ}
    (h : coinLeft quantity filled = some (accepted, left)) :
    ∃ signal reason order, coinExit quantity = some (signal, reason)
      ∧ signal.toOrder ⟨"9", ⟨0⟩, ⟨0⟩⟩ = .ok order
      ∧ (demoPipeline.submit (lotAnswers filled) ∅ order (coinBooks quantity)).1.accepted = accepted
      ∧ ((demoPipeline.submit (lotAnswers filled) ∅ order
          (coinBooks quantity)).2.books.ledger.getPosition "BTC/USDT").map Position.quantity
        = left := by
  obtain ⟨order, horder, hleft⟩ := Option.map_eq_some_iff.mp h
  obtain ⟨⟨signal, reason⟩, hexit, horder⟩ := Option.bind_eq_some_iff.mp horder
  obtain ⟨haccepted, hquantity⟩ := Prod.mk.inj hleft
  refine ⟨signal, reason, order, hexit, ?_, haccepted, hquantity⟩
  dsimp only at horder
  cases hto : signal.toOrder ⟨"9", ⟨0⟩, ⟨0⟩⟩ with
  | error e =>
      rw [hto] at horder
      cases horder
  | ok order' =>
      rw [hto] at horder
      cases horder
      rfl

/-- A whole coin is a hundred lots. -/
theorem exit_flat_coin :
    ∃ order, (demoPipeline.submit (lotAnswers 1) ∅ order (coinBooks 1)).1.accepted = true
      ∧ (demoPipeline.submit (lotAnswers 1) ∅ order
          (coinBooks 1)).2.books.ledger.getPosition "BTC/USDT" = none := by
  have hleft : coinLeft 1 1 = some (true, none) := by decide +kernel
  obtain ⟨signal, reason, order, hexit, horder, haccepted, -⟩ := coinLeft_some hleft
  have hheld : (coinBooks 1).ledger.getPosition "BTC/USDT" = some (coin 1) := by decide +kernel
  have hsent : (lotExchange 1).roundQuantity "BTC/USDT" |(coin 1).quantity| = .ok 1 := by
    change Except.ok (((max 1 ⌊|(1 : ℚ)| * 100⌋₊ : ℕ) : ℚ) / 100) = .ok 1
    norm_num
  refine ⟨order, haccepted, ?_⟩
  exact (exit_flat_iff demoPipeline (lotAnswers 1) ∅ (coinBooks 1) lowCapitalStrategy _ _ "BTC/USDT"
    (coin 1) hheld 99 101 100 0 signal reason hexit _ order horder haccepted (lotExchange 1) 99 rfl 1
    hsent _ rfl (by decide +kernel)).mpr (by decide +kernel)

/-- Of one coin and half a lot the half lot stays, and is worth too little to be sold. -/
theorem exit_leaves_half_lot :
    (∀ quantity : ℚ, ∃ lots : ℕ, 0 < lots
        ∧ (lotExchange 1).roundQuantity "BTC/USDT" quantity = .ok (lots * (1 / 100)))
      ∧ (lotExchange 1).roundQuantity "BTC/USDT" |(coin (201 / 200)).quantity| = .ok 1
      ∧ ∃ signal reason order, coinExit (201 / 200) = some (signal, reason)
        ∧ signal.toOrder ⟨"9", ⟨0⟩, ⟨0⟩⟩ = .ok order
        ∧ (demoPipeline.submit (lotAnswers 1) ∅ order (coinBooks (201 / 200))).1.accepted = true
        ∧ ((demoPipeline.submit (lotAnswers 1) ∅ order
            (coinBooks (201 / 200))).2.books.ledger.getPosition "BTC/USDT").map Position.quantity
          = some (1 / 200) := by
  have hround : ∀ quantity : ℚ, (lotExchange 1).roundQuantity "BTC/USDT" quantity
      = .ok ((max 1 ⌊quantity * 100⌋₊ : ℕ) / 100) := fun _ => rfl
  refine ⟨fun quantity => ⟨max 1 ⌊quantity * 100⌋₊, by simp, ?_⟩, ?_, ?_⟩
  · rw [hround, div_eq_mul_one_div]
  · rw [hround]
    have hlots : ⌊|(coin (201 / 200)).quantity| * 100⌋₊ = 100 := by decide +kernel
    rw [hlots]
    norm_num
  · exact coinLeft_some (by decide +kernel)

end ExecutionPipeline

end Aegis
