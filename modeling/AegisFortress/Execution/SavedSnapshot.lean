import AegisFortress.Execution.Restart
import AegisFortress.Portfolio.UnrealizedPnl

/-!
# The snapshot that is saved

`process` saves the ledger it has just booked and marked.  Whatever the stores answer, what it does
to the ledger are calls of `apply_fill` and `mark_positions` (`ledger_after`), so what holds of a
ledger after any calls holds of every snapshot in the state file.  A fill whose symbol the mark
prices lack is saved with the unrealized profit of before (`saved_unrealized_iff`).
-/

namespace Aegis

namespace FillProcessor

open PositionLedger

/-! ## The calls on the books -/

/-- The calls that change the books. -/
inductive BooksCall
  | process (answers : StoreAnswers) (call : Call)
  | markPositions (prices : Dict String ℚ)

/-- The fill of a report. -/
def Call.fill (call : Call) : Fill ℚ := call.report.toFill call.strategyId

variable (processor : FillProcessor ℚ)

/-- `process` on these books. -/
def processed (books : Books ℚ) (answers : StoreAnswers) (call : Call) :
    EStateM.Result PyError (Books ℚ) (FillProcessingResult ℚ) :=
  (processor.process answers call.report call.markPrices call.strategyId).run books

/-- The books after a call; a call that raises leaves them as they are then. -/
def onBooks (books : Books ℚ) : BooksCall → Books ℚ
  | .process answers call => Raising.final (processor.processed books answers call)
  | .markPositions prices => { books with ledger := books.ledger.markPositions prices }

/-- The books after these calls on an empty ledger, with no state file. -/
def booksAfter (calls : List BooksCall) : Books ℚ :=
  calls.foldl processor.onBooks ⟨PositionLedger.empty, .dict []⟩

/-- What a call does to the ledger: a fill with a price is applied, and the positions are marked
unless the fill is refused or storing its trade raises. -/
def BooksCall.onLedger : BooksCall → List PositionLedger.Call
  | .process answers call =>
      if call.report.hasFill ∧ ¬ call.report.averageFillPrice ≤ 0 then
        match checkFill call.fill, answers.recordTrade with
        | .error _, _ => [.applyFill call.fill]
        | .ok _, some (.error _) => [.applyFill call.fill]
        | .ok _, _ => [.applyFill call.fill, .markPositions call.markPrices]
      else []
  | .markPositions prices => [.markPositions prices]

variable {processor}

section Calls

variable {answers : StoreAnswers} {call : Call} {books : Books ℚ} {side : OrderSide}

lemma onLedger_of_no_fill (h : ¬ (call.report.hasFill ∧ ¬ call.report.averageFillPrice ≤ 0)) :
    (BooksCall.process answers call).onLedger = [] := if_neg h

lemma onLedger_of_error (hfill : call.report.hasFill ∧ ¬ call.report.averageFillPrice ≤ 0)
    {e : PyError} (hc : checkFill call.fill = .error e) :
    (BooksCall.process answers call).onLedger = [.applyFill call.fill] := by
  simp only [BooksCall.onLedger, if_pos hfill, hc]

lemma onLedger_of_unrecorded (hfill : call.report.hasFill ∧ ¬ call.report.averageFillPrice ≤ 0)
    (hc : checkFill call.fill = .ok side) {e : PyError}
    (he : answers.recordTrade = some (.error e)) :
    (BooksCall.process answers call).onLedger = [.applyFill call.fill] := by
  simp only [BooksCall.onLedger, if_pos hfill, hc, he]

lemma onLedger_of_recorded (hfill : call.report.hasFill ∧ ¬ call.report.averageFillPrice ≤ 0)
    (hc : checkFill call.fill = .ok side) (hrecord : GoesThrough answers.recordTrade) :
    (BooksCall.process answers call).onLedger
      = [.applyFill call.fill, .markPositions call.markPrices] := by
  simp only [BooksCall.onLedger, if_pos hfill, hc]
  cases hr : answers.recordTrade with
  | none => rfl
  | some answer =>
      cases answer with
      | ok _ => rfl
      | error e => exact absurd hr (hrecord e)

/-- A fill whose trade is stored is booked, and the positions are marked. -/
lemma foldl_onLedger_recorded
    (hfill : call.report.hasFill ∧ ¬ call.report.averageFillPrice ≤ 0)
    (hc : checkFill call.fill = .ok side) (hrecord : GoesThrough answers.recordTrade) :
    (BooksCall.process answers call).onLedger.foldl PositionLedger.call books.ledger
      = (books.ledger.book call.fill side).1.markPositions call.markPrices := by
  have hcall : books.ledger.call (.applyFill call.fill) = (books.ledger.book call.fill side).1 :=
    call_of_check books.ledger hc
  rw [onLedger_of_recorded hfill hc hrecord, List.foldl_cons, hcall]
  rfl

lemma ledger_process : (processor.onBooks books (.process answers call)).ledger
    = (BooksCall.process answers call).onLedger.foldl PositionLedger.call books.ledger := by
  have houtcome := processor.process_outcome answers call.report call.markPrices
    call.strategyId books
  rw [onBooks, processed]
  generalize (processor.process answers call.report call.markPrices call.strategyId).run books
    = result at houtcome
  cases houtcome with
  | noFill hno =>
      rw [onLedger_of_no_fill fun h => hno h.1]
      rfl
  | refused hfill e hr =>
      by_cases hprice : call.report.averageFillPrice ≤ 0
      · rw [onLedger_of_no_fill fun h => h.2 hprice]
        rfl
      · obtain ⟨e', he⟩ := hr.resolve_left hprice
        have hc : checkFill call.fill = .error e' := applyFill_error he
        rw [onLedger_of_error ⟨hfill, hprice⟩ hc]
        exact (call_of_error books.ledger hc).symm
  | unrecorded hfill hprice r hr e he =>
      obtain ⟨side, hc, rfl⟩ := applyFill_ok hr
      rw [onLedger_of_unrecorded ⟨hfill, hprice⟩ hc he]
      exact (call_of_check books.ledger hc).symm
  | unsaved hfill hprice r hr hrecord =>
      obtain ⟨side, hc, rfl⟩ := applyFill_ok hr
      exact (foldl_onLedger_recorded ⟨hfill, hprice⟩ hc hrecord).symm
  | completed hfill hprice r hr hrecord =>
      obtain ⟨side, hc, rfl⟩ := applyFill_ok hr
      exact (foldl_onLedger_recorded ⟨hfill, hprice⟩ hc hrecord).symm

end Calls

/-- **The ledger of the books** is a ledger after calls of its own. -/
theorem ledger_after (calls : List BooksCall) :
    (processor.booksAfter calls).ledger = after (calls.flatMap BooksCall.onLedger) := by
  induction calls using List.reverseRecOn with
  | nil => rfl
  | append_singleton past c ih =>
      have hlast : (processor.onBooks (processor.booksAfter past) c).ledger
          = c.onLedger.foldl PositionLedger.call (processor.booksAfter past).ledger := by
        cases c with
        | process answers call => exact ledger_process
        | markPositions prices => rfl
      rw [booksAfter, List.foldl_append, List.flatMap_append, List.flatMap_singleton, after,
        List.foldl_append, ← after, ← ih]
      exact hlast

/-! ## The snapshot -/

/-- A call that goes through saves the ledger it leaves. -/
lemma saved_of_processed {books books' : Books ℚ} {answers : StoreAnswers} {call : Call}
    {result : FillProcessingResult ℚ}
    (h : processor.processed books answers call = .ok result books')
    (hdone : result.processed = true) :
    ∃ snapshot breaches,
      books'.saved = (statePayload books'.ledger snapshot breaches call.report).stored := by
  have houtcome := processor.process_outcome answers call.report call.markPrices
    call.strategyId books
  rw [processed] at h
  rw [h] at houtcome
  cases houtcome with
  | noFill => cases hdone
  | completed => exact ⟨_, _, rfl⟩

/-- Stores that accept everything: a fill that passes its checks is booked, marked and saved. -/
lemma processed_healthy {books : Books ℚ} {call : Call} {side : OrderSide}
    (hfill : call.report.hasFill) (hprice : ¬ call.report.averageFillPrice ≤ 0)
    (hc : checkFill call.fill = .ok side) : ∃ result books',
      processor.processed books healthy call = .ok result books' ∧ result.processed = true := by
  have houtcome := processor.process_outcome healthy call.report call.markPrices
    call.strategyId books
  rw [processed]
  generalize (processor.process healthy call.report call.markPrices call.strategyId).run books
    = result at houtcome
  cases houtcome with
  | noFill hno => exact absurd hfill hno
  | refused _ e hr =>
      obtain ⟨e', he⟩ := hr.resolve_left hprice
      have herror : checkFill call.fill = .error e' := applyFill_error he
      rw [hc] at herror
      cases herror
  | unrecorded _ _ _ _ _ he => cases he
  | unsaved _ _ _ _ _ _ he => cases he
  | completed => exact ⟨_, _, rfl, rfl⟩

lemma ledger_of_processed {calls : List BooksCall} {answers : StoreAnswers} {call : Call}
    {result : FillProcessingResult ℚ} {books : Books ℚ}
    (h : processor.processed (processor.booksAfter calls) answers call = .ok result books) :
    books.ledger = after ((calls ++ [BooksCall.process answers call]).flatMap BooksCall.onLedger) := by
  have hbooks : processor.booksAfter (calls ++ [.process answers call]) = books := by
    rw [booksAfter, List.foldl_append, List.foldl_cons, List.foldl_nil, onBooks, ← booksAfter, h]
    rfl
  rw [← hbooks, ledger_after]

/-- After any calls on the books, a report is processed and the snapshot saved.  A position in it
that has been marked since it was opened from flat shows the value at its last mark exactly when
what the accepted fills of its symbol have shifted since that mark sums to zero. -/
theorem saved_unrealized_iff (processor : FillProcessor ℚ) (calls : List BooksCall)
    (answers : StoreAnswers) (call : Call) (result : FillProcessingResult ℚ) (books : Books ℚ)
    (hprocessed : processor.processed (processor.booksAfter calls) answers call = .ok result books)
    (hdone : result.processed = true) :
    let made := (calls ++ [BooksCall.process answers call]).flatMap BooksCall.onLedger
    (∃ snapshot breaches,
        books.saved = (statePayload books.ledger snapshot breaches call.report).stored)
      ∧ ∀ symbol p mark, books.ledger.getPosition symbol = some p → lastMark symbol made = some mark →
          (p.unrealizedPnl = (mark - p.averageEntry) * p.quantity
            ↔ shifted symbol mark (sinceMark symbol made) = 0) := by
  intro made
  refine ⟨saved_of_processed hprocessed hdone, fun symbol p mark hp hmark => ?_⟩
  rw [ledger_of_processed hprocessed] at hp
  rw [unrealized_after made symbol p mark hp hmark]
  exact left_eq_add

/-- Limits that nothing below comes near. -/
def wideGuard : FillProcessor ℚ :=
  ⟨⟨1000, 1000, 9 / 10, by decide +kernel, by decide +kernel, by decide +kernel⟩⟩

/-- Two bought at 100, marked at 110. -/
def boughtTwo : BooksCall := .process healthy
  ⟨⟨"BTC/USDT", "BUY", 2, 2, 100, .filled, "SIM", none, none, 0, .none⟩,
    .ofList [("BTC/USDT", 110)], none⟩

/-- One of them sold at 110, at these mark prices. -/
def soldOne (markPrices : Dict String ℚ) : Call :=
  ⟨⟨"BTC/USDT", "SELL", 1, 1, 110, .filled, "SIM", none, none, 0, .none⟩, markPrices, none⟩

/-- The calls of both on the ledger. -/
def soldCalls (markPrices : Dict String ℚ) : List PositionLedger.Call :=
  ([boughtTwo] ++ [BooksCall.process healthy (soldOne markPrices)]).flatMap BooksCall.onLedger

lemma processed_soldOne (markPrices : Dict String ℚ) : ∃ result books,
    wideGuard.processed (wideGuard.booksAfter [boughtTwo]) healthy (soldOne markPrices)
        = .ok result books
      ∧ result.processed = true ∧ books.ledger = after (soldCalls markPrices) := by
  have hfill : (soldOne markPrices).report.hasFill := zero_lt_one' ℚ
  have hprice : ¬ (110 : ℚ) ≤ 0 := by decide +kernel
  have hside : OrderSide.ofString? "SELL" = some .sell := by decide
  have hc : checkFill (soldOne markPrices).fill = .ok .sell :=
    checkFill_ok.mpr ⟨by simp [soldOne, Call.fill, ExecutionReport.toFill], hfill,
      not_le.mp hprice, hside⟩
  obtain ⟨result, books, hprocessed, hdone⟩ := processed_healthy hfill hprice hc
  exact ⟨result, books, hprocessed, hdone, ledger_of_processed hprocessed⟩

theorem saved_unrealized_marked : ∃ result books,
    wideGuard.processed (wideGuard.booksAfter [boughtTwo]) healthy
        (soldOne (.ofList [("BTC/USDT", 120)])) = .ok result books
      ∧ ∃ p, books.ledger.getPosition "BTC/USDT" = some p
        ∧ p.unrealizedPnl = (120 - p.averageEntry) * p.quantity := by
  obtain ⟨result, books, hprocessed, hdone, hledger⟩ :=
    processed_soldOne (.ofList [("BTC/USDT", 120)])
  have hp : books.ledger.getPosition "BTC/USDT" = some ⟨"BTC/USDT", 1, 100, 10, 20⟩ := by
    rw [hledger]
    decide +kernel
  obtain ⟨-, hagrees⟩ := saved_unrealized_iff wideGuard [boughtTwo] healthy
    (soldOne (.ofList [("BTC/USDT", 120)])) result books hprocessed hdone
  exact ⟨result, books, hprocessed, _, hp,
    (hagrees "BTC/USDT" _ 120 hp (by decide +kernel)).mpr (by decide +kernel)⟩

/-- Saved with the unrealized profit of two, where one is left. -/
theorem stale_unrealized : ∃ result books,
    wideGuard.processed (wideGuard.booksAfter [boughtTwo]) healthy (soldOne ∅) = .ok result books
      ∧ result.processed = true
      ∧ ∃ p, books.ledger.getPosition "BTC/USDT" = some p
        ∧ lastMark "BTC/USDT" (soldCalls ∅) = some 110
        ∧ p.unrealizedPnl ≠ (110 - p.averageEntry) * p.quantity := by
  obtain ⟨result, books, hprocessed, hdone, hledger⟩ := processed_soldOne ∅
  have hp : books.ledger.getPosition "BTC/USDT" = some ⟨"BTC/USDT", 1, 100, 10, 20⟩ := by
    rw [hledger]
    decide +kernel
  exact ⟨result, books, hprocessed, hdone, _, hp, by decide +kernel, by decide +kernel⟩

end FillProcessor

end Aegis
