import AegisFortress.Portfolio.LedgerCalls

/-!
# The profit kept with a position

The profit a fill realizes goes into its trade and into the total.  The position keeps it too, but
only on the branch that closes something: a fill that opens or adds returns before
`realized_pnl += net_realized`, so the fee of such a fill is missing from the position
(`realized_after`).
-/

namespace Aegis

namespace PositionLedger

open History

variable {ledger : PositionLedger ℚ} {fill : Fill ℚ} {side : OrderSide} {symbol : String}

/-! ## What the calls realize and pay -/

/-- The profit of the trades of a symbol that these calls record. -/
def profitOf (symbol : String) (part : List (PositionLedger ℚ × Call)) : ℚ :=
  ((part.filterMap (tradeOf symbol)).map Trade.pnl).sum

/-- The fee of an accepted fill of the symbol that opens a position or adds to it. -/
def openingFee (symbol : String) (s : PositionLedger ℚ × Call) : ℚ :=
  match fillOf symbol s.2 with
  | some (fill, side) =>
      if 0 ≤ s.1.quantityOf symbol * side.signed fill.quantity then fill.fee else 0
  | none => 0

/-- The fees these calls pay for opening a position in the symbol and for adding to it. -/
def openingFees (symbol : String) (part : List (PositionLedger ℚ × Call)) : ℚ :=
  (part.map (openingFee symbol)).sum

lemma profitOf_snoc (part : List (PositionLedger ℚ × Call)) (s : PositionLedger ℚ × Call) :
    profitOf symbol (part ++ [s]) = profitOf symbol part + profitOf symbol [s] := by
  rw [profitOf, List.filterMap_append, List.map_append, List.sum_append]
  rfl

lemma openingFees_snoc (part : List (PositionLedger ℚ × Call)) (s : PositionLedger ℚ × Call) :
    openingFees symbol (part ++ [s]) = openingFees symbol part + openingFees symbol [s] := by
  rw [openingFees, List.map_append, List.sum_append]
  rfl

/-! ## One call -/

/-- What a fill leaves in the position: the profit it realizes, and the fee if it opens or adds. -/
lemma FillStep.kept {p : Position ℚ} {signedDelta price fee : ℚ} {r : Position ℚ × ℚ}
    (h : FillStep p signedDelta price fee r) : r.1.realizedPnl
      = p.realizedPnl + r.2 + if 0 ≤ p.quantity * signedDelta then fee else 0 := by
  cases h with
  | opened flat => simp [flat]
  | added same => simp [same.le]
  | closed opp => simp [not_le.mpr opp]
  | flipped opp => simp [not_le.mpr opp]
  | reduced opp => simp [not_le.mpr opp]

/-- A call that is no fill of the symbol realizes nothing in it. -/
lemma profit_quiet {c : Call} (hfill : fillOf symbol c = none) :
    profitOf symbol [(ledger, c)] + openingFees symbol [(ledger, c)] = 0 := by
  simp [profitOf, tradeOf, openingFees, openingFee, hfill]

/-- **One call** leaves in a position the profit it realizes there, and the fee if it opens or adds. -/
lemma realized_call (hl : ledger.Live) {c : Call} {p : Position ℚ}
    (hp : (ledger.call c).getPosition symbol = some p) :
    p.realizedPnl = (ledger.found symbol).realizedPnl
      + (profitOf symbol [(ledger, c)] + openingFees symbol [(ledger, c)]) := by
  cases position_after_call hp with
  | filled fill side hfill =>
      obtain ⟨rfl, hc, rfl⟩ := fillOf_eq_some.mp hfill
      have hkept := (hl.filled_step side (checkFill_ok.mp hc).2.1).kept
      rw [found_quantity, add_assoc] at hkept
      have hpnl : (ledger.book fill side).2.pnl = (ledger.filled fill side).2 := rfl
      simp only [profitOf, tradeOf, openingFees, openingFee, hfill, List.filterMap_cons,
        List.filterMap_nil, Option.map_some, List.map_singleton, List.sum_singleton, hpnl]
      exact hkept
  | marked p₀ hp₀ hfill price =>
      rw [profit_quiet hfill, add_zero, found_of_some hp₀]
      exact markToMarket_realizedPnl p₀ price
  | kept _ hp₀ hfill => rw [profit_quiet hfill, add_zero, found_of_some hp₀]

/-! ## Any calls -/

/-- **The profit kept with a position** is what its trades realized since the symbol was absent,
and the fees that were paid for opening it and for adding to it. -/
theorem realized_after (calls : List Call) (symbol : String) (p : Position ℚ)
    (hp : (after calls).getPosition symbol = some p) :
    p.realizedPnl = profitOf symbol (sinceAbsent symbol calls)
      + openingFees symbol (sinceAbsent symbol calls) := by
  induction calls using List.reverseRecOn generalizing p with
  | nil => cases hp
  | append_singleton past c ih =>
      rw [after_snoc] at hp
      rw [realized_call (wellFormed_after past).live hp, sinceAbsent_snoc]
      split_ifs with habsent
      · rw [found_of_none habsent, Position.flat, zero_add]
      · obtain ⟨p₀, hp₀⟩ := Option.ne_none_iff_exists'.mp habsent
        rw [found_of_some hp₀, ih p₀ hp₀, profitOf_snoc, openingFees_snoc]
        ring

/-- After any calls on an empty ledger, the realized profit of an open position is the sum of the
pnl of the trades recorded for its symbol since it was last absent exactly when the fees of the
fills that opened it and added to it sum to zero. -/
theorem realized_agrees_iff (calls : List Call) (symbol : String) (p : Position ℚ)
    (hp : (after calls).getPosition symbol = some p) :
    p.realizedPnl = (((sinceAbsent symbol calls).filterMap (tradeOf symbol)).map Trade.pnl).sum
      ↔ openingFees symbol (sinceAbsent symbol calls) = 0 := by
  rw [realized_after calls symbol p hp, profitOf]
  exact add_eq_left

/-- Two bought without a fee, one of them sold with one. -/
def soldWithFee : List Call :=
  [.applyFill ⟨"BTC/USDT", "BUY", 2, 100, "SIM", 0, none, none⟩,
    .applyFill ⟨"BTC/USDT", "SELL", 1, 110, "SIM", 1, none, none⟩]

theorem realized_agrees_sold : ∃ p, (after soldWithFee).getPosition "BTC/USDT" = some p
    ∧ p.realizedPnl = (((sinceAbsent "BTC/USDT" soldWithFee).filterMap
        (tradeOf "BTC/USDT")).map Trade.pnl).sum := by
  have hp : (after soldWithFee).getPosition "BTC/USDT" = some ⟨"BTC/USDT", 1, 100, 9, 0⟩ := by
    decide +kernel
  have hfees : openingFees "BTC/USDT" (sinceAbsent "BTC/USDT" soldWithFee) = 0 := by
    decide +kernel
  exact ⟨_, hp, (realized_agrees_iff soldWithFee "BTC/USDT" _ hp).mpr hfees⟩

/-- One purchase with a fee: the trade has lost it, the position has not. -/
def boughtWithFee : Fill ℚ := ⟨"BTC/USDT", "BUY", 1, 100, "SIM", 1, none, none⟩

theorem opening_fee_left_out : checkFill boughtWithFee = .ok .buy
    ∧ ∃ p, (after [.applyFill boughtWithFee]).getPosition "BTC/USDT" = some p
      ∧ p.realizedPnl ≠ (((sinceAbsent "BTC/USDT" [.applyFill boughtWithFee]).filterMap
        (tradeOf "BTC/USDT")).map Trade.pnl).sum := by
  have hp : (after [.applyFill boughtWithFee]).getPosition "BTC/USDT"
      = some ⟨"BTC/USDT", 1, 100, 0, 0⟩ := by
    decide +kernel
  exact ⟨by decide +kernel, _, hp, by decide +kernel⟩

end PositionLedger

end Aegis
