import AegisFortress.Portfolio.LedgerSteps
import Mathlib.Algebra.Order.BigOperators.Group.List

/-!
# Profit reports from the trades table

`command_profit` of `main.py` and `scripts/aegis_trade_report.py` add up the rows that were stored,
one for each trade.  The pnl of a trade is net of its fee already, and a short is closed by a
purchase.  The first report subtracts the fees once more, the second one leaves every purchase out.

`reports_agree_iff` says when both still show the ledger's realized profit.
-/

namespace Aegis

section Definitions

variable {α : Type} [Add α] [Sub α] [Mul α] [Div α] [Zero α] [LT α] [DecidableLT α] [PyFloat α]

/-- A row of the `trades` table, as far as the reports read it. -/
structure TradeRow (α : Type) where
  side : String
  pnl : α
  fee : α

/-- What `record_trade` stores of a trade. -/
def Trade.row (trade : Trade α) : TradeRow α := ⟨trade.side.value, trade.pnl, trade.fee⟩

/-- `SELECT COALESCE(SUM(column), 0)`. -/
def columnSum (column : TradeRow α → α) (rows : List (TradeRow α)) : α :=
  rows.foldl (fun total row => total + column row) 0

/-- The rows whose upper-cased side is this one. -/
def rowsOf (side : String) (rows : List (TradeRow α)) : List (TradeRow α) :=
  rows.filter fun row => pyUpper row.side = side

/-- The figures `command_profit` prints. -/
structure CommandProfit (α : Type) where
  tradeCount : ℕ
  buyCount : ℕ
  sellCount : ℕ
  realizedPnl : α
  fees : α
  netRealizedResult : α

/-- `command_profit`. -/
def commandProfit (rows : List (TradeRow α)) : CommandProfit α where
  tradeCount := rows.length
  buyCount := (rowsOf "BUY" rows).length
  sellCount := (rowsOf "SELL" rows).length
  realizedPnl := columnSum TradeRow.pnl rows
  fees := columnSum TradeRow.fee rows
  netRealizedResult := columnSum TradeRow.pnl rows - columnSum TradeRow.fee rows

/-- The figures `aegis_trade_report.py` prints. -/
structure TradeReport (α : Type) where
  buyTrades : ℕ
  completedExits : ℕ
  wins : ℕ
  losses : ℕ
  flat : ℕ
  winRate : α
  realizedPnl : α

/-- `aegis_trade_report.py`. -/
def tradeReport (rows : List (TradeRow α)) : TradeReport α :=
  let sellTrades := rowsOf "SELL" rows
  let wins := (sellTrades.filter fun row => 0 < row.pnl).length
  let losses := (sellTrades.filter fun row => row.pnl < 0).length
  { buyTrades := (rowsOf "BUY" rows).length
    completedExits := sellTrades.length
    wins := wins
    losses := losses
    flat := sellTrades.length - wins - losses
    winRate :=
      if sellTrades.isEmpty then 0
      else PyFloat.ofRat wins / PyFloat.ofRat sellTrades.length * PyFloat.ofRat 100
    realizedPnl := columnSum TradeRow.pnl sellTrades }

end Definitions

namespace PositionLedger

/-! ## What one fill realizes -/

/-- Profit before fees that a fill realizes on the position it finds. -/
def grossProfit (p : Position ℚ) (signedDelta price : ℚ) : ℚ :=
  if p.quantity * signedDelta < 0 then closingProfit p.quantity p.averageEntry signedDelta price
  else 0

lemma FillStep.profit {p : Position ℚ} {signedDelta price fee : ℚ} {r : Position ℚ × ℚ}
    (h : FillStep p signedDelta price fee r) : r.2 = grossProfit p signedDelta price - fee := by
  cases h with
  | opened flat => simp [grossProfit, flat]
  | added same => simp [grossProfit, not_lt.mpr same.le]
  | closed opp dust net hnet => simp [grossProfit, opp, hnet]
  | flipped opp live outside net hnet =>
      simp [grossProfit, opp, hnet, closingProfit, not_le.mpr outside]
  | reduced opp live inside net hnet =>
      simp [grossProfit, opp, hnet, closingProfit, inside.le]

/-- Profit before fees that the purchases among these fills realize: they close shorts. -/
def purchaseProfit (ledger : PositionLedger ℚ) : List (Fill ℚ) → ℚ
  | [] => 0
  | fill :: rest =>
      match checkFill fill with
      | .error _ => purchaseProfit ledger rest
      | .ok side =>
          (if side = .buy then
            grossProfit (ledger.found fill.symbol) (side.signed fill.quantity) fill.price else 0)
            + purchaseProfit (ledger.book fill side).1 rest

/-- The fees of the purchases among these fills. -/
def purchaseFees (fills : List (Fill ℚ)) : ℚ :=
  ((fills.filter fun fill => OrderSide.ofString? fill.side = some .buy).map Fill.fee).sum

/-- The trades of a run of fills: the ledger's profit is theirs, each carries the fee of its fill,
and the purchases realize what they realize before fees, less their fees. -/
lemma applyFills_trades (fills : List (Fill ℚ)) : ∀ {ledger ledger' : PositionLedger ℚ},
    ledger.WellFormed → ledger.applyFills fills = some ledger' →
    ∃ trades, ledger'.trades = ledger.trades ++ trades
      ∧ ledger'.realizedPnl = ledger.realizedPnl + (trades.map Trade.pnl).sum
      ∧ trades.map Trade.fee = fills.map Fill.fee
      ∧ ((trades.filter fun t => t.side = .buy).map Trade.pnl).sum
        = ledger.purchaseProfit fills - purchaseFees fills := by
  induction fills with
  | nil =>
      intro ledger ledger' _ h
      rw [applyFills, Machine.run_nil, Option.some.injEq] at h
      subst h
      exact ⟨[], by simp, by simp, rfl, by simp [purchaseProfit, purchaseFees]⟩
  | cons fill rest ih =>
      intro ledger ledger' hl h
      rw [applyFills, Machine.run_cons, Option.bind_eq_some_iff] at h
      obtain ⟨next, hfill, hrest⟩ := h
      obtain ⟨side, hcheck, rfl⟩ := applyFill_toOption hfill
      obtain ⟨-, hq, hp, hside⟩ := checkFill_ok.mp hcheck
      obtain ⟨trades, htrades, hrealized, hfees, hpurchases⟩ := ih (hl.book hq hp) hrest
      let trade := (ledger.book fill side).2
      have hpnl : trade.pnl
          = grossProfit (ledger.found fill.symbol) (side.signed fill.quantity) fill.price
            - fill.fee := (hl.live.filled_step side hq).profit
      refine ⟨trade :: trades, ?_, ?_, ?_, ?_⟩
      · rw [htrades]
        exact List.append_assoc _ [trade] trades
      · rw [hrealized, List.map_cons, List.sum_cons, ← add_assoc]
        rfl
      · rw [List.map_cons, List.map_cons, hfees]
        rfl
      · have htradeSide : trade.side = side := rfl
        simp only [purchaseProfit, hcheck, purchaseFees, List.filter_cons, htradeSide, hside]
        rw [purchaseFees] at hpurchases
        cases side with
        | buy => simp [hpurchases, hpnl]; ring
        | sell => simp [hpurchases]

end PositionLedger

/-! ## The figures of the reports -/

lemma columnSum_eq_sum (column : TradeRow ℚ → ℚ) (rows : List (TradeRow ℚ)) :
    columnSum column rows = (rows.map column).sum := by
  rw [columnSum, List.sum_eq_foldl, List.foldl_map]

/-- The report reads the side of a stored trade as the ledger wrote it. -/
lemma rowsOf_value (side : OrderSide) (trades : List (Trade ℚ)) :
    rowsOf side.value (trades.map Trade.row)
      = (trades.filter fun t => t.side = side).map Trade.row := by
  rw [rowsOf, List.filter_map]
  congr 1
  refine List.filter_congr fun t _ => ?_
  have hread : (pyUpper t.row.side = side.value) = (t.side = side) := by
    cases ht : t.side <;> cases side <;> simp [Trade.row, ht] <;> decide
  simp only [Function.comp, hread]

/-- Every trade is a purchase or a sale. -/
lemma sum_sales (trades : List (Trade ℚ)) :
    ((trades.filter fun t => t.side = .sell).map Trade.pnl).sum
      = (trades.map Trade.pnl).sum
        - ((trades.filter fun t => t.side = .buy).map Trade.pnl).sum := by
  induction trades with
  | nil => simp
  | cons t rest ih =>
      cases ht : t.side with
      | buy => simp [ht, ih]
      | sell => simp [ht, ih]; ring

lemma sum_fees_eq_zero {fills : List (Fill ℚ)} (hfees : ∀ fill ∈ fills, 0 ≤ fill.fee) :
    (fills.map Fill.fee).sum = 0 ↔ ∀ fill ∈ fills, fill.fee = 0 := by
  induction fills with
  | nil => simp
  | cons fill rest ih =>
      have hrest : ∀ f ∈ rest, 0 ≤ f.fee := fun f hf => hfees f (List.mem_cons_of_mem fill hf)
      have hsum : 0 ≤ (rest.map Fill.fee).sum :=
        List.sum_nonneg (by simpa using hrest)
      rw [List.map_cons, List.sum_cons, add_eq_zero_iff_of_nonneg (hfees fill List.mem_cons_self)
        hsum, ih hrest, List.forall_mem_cons]

/-- What each report shows of the trades of a run of fills. -/
lemma reports_of_applyFills {fills : List (Fill ℚ)} {ledger : PositionLedger ℚ}
    (h : PositionLedger.empty.applyFills fills = some ledger) :
    (commandProfit (ledger.trades.map Trade.row)).netRealizedResult
        = ledger.realizedPnl - (fills.map Fill.fee).sum
      ∧ (tradeReport (ledger.trades.map Trade.row)).realizedPnl
        = ledger.realizedPnl - (PositionLedger.empty.purchaseProfit fills
          - PositionLedger.purchaseFees fills) := by
  obtain ⟨trades, htrades, hrealized, hfees, hpurchases⟩ :=
    PositionLedger.applyFills_trades fills PositionLedger.wellFormed_empty h
  have hall : ledger.trades = trades := htrades
  have htotal : ledger.realizedPnl = (trades.map Trade.pnl).sum := by
    rw [hrealized]
    exact zero_add _
  have hpnl : TradeRow.pnl ∘ Trade.row (α := ℚ) = Trade.pnl := rfl
  have hfee : TradeRow.fee ∘ Trade.row (α := ℚ) = Trade.fee := rfl
  constructor
  · simp only [commandProfit, columnSum_eq_sum, List.map_map, hpnl, hfee]
    rw [hall, hfees, htotal]
  · have hsales : rowsOf "SELL" (trades.map Trade.row)
        = (trades.filter fun t => t.side = .sell).map Trade.row := rowsOf_value .sell trades
    simp only [tradeReport, columnSum_eq_sum, hall, hsales, List.map_map, hpnl]
    rw [sum_sales, hpurchases, htotal]

/-- **When the reports agree with the ledger.**  Exactly when no fill carries a fee and the
purchases that closed shorts realized nothing in total. -/
theorem reports_agree_iff {fills : List (Fill ℚ)} {ledger : PositionLedger ℚ}
    (h : PositionLedger.empty.applyFills fills = some ledger)
    (hfees : ∀ fill ∈ fills, 0 ≤ fill.fee) :
    ((commandProfit (ledger.trades.map Trade.row)).netRealizedResult = ledger.realizedPnl
        ∧ (tradeReport (ledger.trades.map Trade.row)).realizedPnl = ledger.realizedPnl)
      ↔ (∀ fill ∈ fills, fill.fee = 0) ∧ PositionLedger.empty.purchaseProfit fills = 0 := by
  obtain ⟨hnet, hreport⟩ := reports_of_applyFills h
  rw [hnet, hreport, sub_eq_self, sub_eq_self, sum_fees_eq_zero hfees]
  refine and_congr_right fun hzero => ?_
  have hpurchases : PositionLedger.purchaseFees fills = 0 := by
    refine List.sum_eq_zero fun fee hfee => ?_
    obtain ⟨fill, hfill, rfl⟩ := List.mem_map.mp hfee
    exact hzero fill (List.mem_of_mem_filter hfill)
  rw [hpurchases, sub_zero]

/-- A purchase and a sale of one coin, ten dearer, for this fee each. -/
def boughtAndSold (fee : ℚ) : List (Fill ℚ) :=
  [⟨"BTC/USDT", "BUY", 1, 100, "binance", fee, none, none⟩,
    ⟨"BTC/USDT", "SELL", 1, 110, "binance", fee, none, none⟩]

/-- The ledger after such a round trip. -/
def boughtAndSoldLedger (fee : ℚ) : PositionLedger ℚ :=
  (PositionLedger.empty.applyFills (boughtAndSold fee)).getD PositionLedger.empty

/-- Without a fee both reports show the ten. -/
theorem reports_agree_no_fee :
    (commandProfit ((boughtAndSoldLedger 0).trades.map Trade.row)).netRealizedResult
        = (boughtAndSoldLedger 0).realizedPnl
      ∧ (tradeReport ((boughtAndSoldLedger 0).trades.map Trade.row)).realizedPnl
        = (boughtAndSoldLedger 0).realizedPnl := by
  have hrun : PositionLedger.empty.applyFills (boughtAndSold 0) ≠ none := by decide +kernel
  exact (reports_agree_iff (Option.getD_of_ne_none hrun PositionLedger.empty).symm
    (by decide +kernel)).mpr (by decide +kernel)

/-- With a fee of one for each fill the ledger has realized 8; one report shows 6, the other 9. -/
theorem reports_count_fees :
    PositionLedger.empty.applyFills (boughtAndSold 1) = some (boughtAndSoldLedger 1)
      ∧ (∀ fill ∈ boughtAndSold 1, 0 ≤ fill.fee)
      ∧ (boughtAndSoldLedger 1).realizedPnl = 8
      ∧ (commandProfit ((boughtAndSoldLedger 1).trades.map Trade.row)).netRealizedResult = 6
      ∧ (tradeReport ((boughtAndSoldLedger 1).trades.map Trade.row)).realizedPnl = 9 := by
  have hrun : PositionLedger.empty.applyFills (boughtAndSold 1) ≠ none := by decide +kernel
  refine ⟨(Option.getD_of_ne_none hrun PositionLedger.empty).symm, ?_⟩
  decide +kernel

end Aegis
