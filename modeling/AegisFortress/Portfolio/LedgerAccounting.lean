import AegisFortress.Portfolio.LedgerSteps

/-!
# The ledger keeps the books

The abstract book of `Lib/CashBook.lean` — a lot per symbol and the profit realized so far — is
what the ledger is for.  `toBook` reads it off a ledger, `book_post` says that a booked fill is
one posting, and the accounting identity of the abstract book comes back as one about
`realized_pnl()` and the open positions.

The identity is exact only while nothing is swept away: a running quantity between zero and
`EPSILON` in size would be dropped by the ledger and kept by the exchange.
-/

namespace Aegis

/-- The signed quantity of a fill, as its side string says. -/
def Fill.signedQuantity (fill : Fill ℚ) : ℚ :=
  ((OrderSide.ofString? fill.side).map fun side => side.signed fill.quantity).getD 0

/-- A fill as a transaction of the abstract book. -/
def Fill.toTx (fill : Fill ℚ) : CashBook.Tx String ℚ :=
  ⟨fill.symbol, fill.signedQuantity, fill.price, fill.fee⟩

namespace PositionLedger

open CashBook

/-- The signed sum of a symbol's fills. -/
def signedSum (fills : List (Fill ℚ)) (symbol : String) : ℚ :=
  holding (fills.map Fill.toTx) symbol

/-- The cash the fills leave: `-signed_quantity * price - fee`, summed over all of them. -/
def cashBalance (fills : List (Fill ℚ)) : ℚ := cash (fills.map Fill.toTx)

/-- The symbols the fills are about. -/
def symbols (fills : List (Fill ℚ)) : Finset String := instruments (fills.map Fill.toTx)

/-- No running signed sum is dust. -/
def NoDust (fills : List (Fill ℚ)) : Prop :=
  ∀ past rest, fills = past ++ rest → ∀ symbol, Settled (signedSum past symbol)

lemma NoDust.prefix {past : List (Fill ℚ)} {fill : Fill ℚ} (h : NoDust (past ++ [fill])) :
    NoDust past :=
  fun xs rest e => h xs (rest ++ [fill]) (by rw [e, List.append_assoc])

lemma NoDust.settled {fills : List (Fill ℚ)} (h : NoDust fills) (symbol : String) :
    Settled (signedSum fills symbol) :=
  h fills [] (List.append_nil fills).symm symbol

lemma noDust_nil : NoDust [] := by
  intro past rest e symbol
  rw [(List.append_eq_nil_iff.mp e.symm).1]
  exact settled_zero

lemma NoDust.snoc {past : List (Fill ℚ)} {fill : Fill ℚ} (h : NoDust past)
    (hlast : Settled (signedSum (past ++ [fill]) fill.symbol)) : NoDust (past ++ [fill]) := by
  intro xs rest e symbol
  rcases List.eq_nil_or_concat rest with rfl | ⟨rest', last, rfl⟩
  · rw [List.append_nil] at e
    rw [← e]
    by_cases hs : fill.symbol = symbol
    · exact hs ▸ hlast
    · rw [signedSum, List.map_append, List.map_singleton, holding_snoc,
        if_neg (show ¬ fill.toTx.instrument = symbol from hs), add_zero]
      exact h.settled symbol
  · rw [List.concat_eq_append, ← List.append_assoc] at e
    exact h xs rest' (List.append_inj_left' e rfl) symbol

/-! ## The ledger as a book -/

/-- The lot a ledger holds in a symbol. -/
def lotOf (ledger : PositionLedger ℚ) (symbol : String) : Lot ℚ :=
  ((ledger.getPosition symbol).map fun p => ⟨p.quantity, p.averageEntry⟩).getD ⟨0, 0⟩

/-- The abstract book a ledger implements. -/
def toBook (ledger : PositionLedger ℚ) : Book String ℚ := ⟨ledger.lotOf, ledger.realizedPnlTotal⟩

lemma lotOf_quantity (ledger : PositionLedger ℚ) (symbol : String) :
    (ledger.lotOf symbol).quantity = ledger.quantityOf symbol := by
  rw [lotOf, quantityOf]
  cases ledger.getPosition symbol <;> rfl

lemma lotOf_basis (ledger : PositionLedger ℚ) (symbol : String) : (ledger.lotOf symbol).basis
    = (ledger.found symbol).averageEntry * (ledger.found symbol).quantity := by
  rw [lotOf, found, getPosition]
  cases ledger.positions.get? symbol <;> rfl

lemma signedQuantity_of_check {fill : Fill ℚ} {side : OrderSide} (h : checkFill fill = .ok side) :
    fill.signedQuantity = side.signed fill.quantity := by
  rw [Fill.signedQuantity, (checkFill_ok.mp h).2.2.2]
  rfl

lemma lotOf_book_basis {ledger : PositionLedger ℚ} {fill : Fill ℚ} {side : OrderSide}
    (hl : ledger.Live) (hq : 0 < fill.quantity)
    (hleft : Settled (ledger.quantityOf fill.symbol + side.signed fill.quantity)) :
    ((ledger.book fill side).1.lotOf fill.symbol).basis
      = (ledger.filled fill side).1.averageEntry * (ledger.filled fill side).1.quantity := by
  rw [lotOf, getPosition_book_self]
  split_ifs with hdust
  · -- what is swept away is an exact zero
    have hstep := (hl.filled_step side hq).quantity
    rw [found_quantity] at hstep
    have hzero : (ledger.filled fill side).1.quantity = 0 := by
      rcases hstep with hr | ⟨hr, -⟩
      · rw [← hr] at hleft
        exact hleft.resolve_right (not_lt.mpr hdust)
      · exact hr
    simp [Lot.basis, hzero]
  · rfl

/-- **The ledger refines the book.**  A booked fill that leaves no dust is one posting. -/
theorem book_post {ledger : PositionLedger ℚ} {fill : Fill ℚ} {side : OrderSide}
    (hl : ledger.Live) (hc : checkFill fill = .ok side)
    (hleft : Settled (ledger.quantityOf fill.symbol + side.signed fill.quantity)) :
    ledger.toBook.Post fill.toTx (ledger.book fill side).1.toBook := by
  obtain ⟨-, hq, -, -⟩ := checkFill_ok.mp hc
  have hsigned := signedQuantity_of_check hc
  constructor
  · intro symbol hne
    simp only [toBook, lotOf, getPosition_book_of_ne (show symbol ≠ fill.symbol from hne)]
  · constructor
    · change ((ledger.book fill side).1.lotOf fill.symbol).quantity
        = (ledger.lotOf fill.symbol).quantity + fill.signedQuantity
      rw [lotOf_quantity, lotOf_quantity, hl.quantityOf_book hq, sweep_of_settled hleft, hsigned]
    · have hbasis := (hl.filled_step side hq).basis
        (by rw [found_quantity]; exact hleft)
      change (ledger.book fill side).1.realizedPnlTotal - ledger.realizedPnlTotal
        = ((ledger.book fill side).1.lotOf fill.symbol).basis - (ledger.lotOf fill.symbol).basis
          + (-fill.signedQuantity * fill.price - fill.fee)
      rw [lotOf_book_basis hl hq hleft, lotOf_basis, book_realized, hsigned, hbasis]
      ring

/-- **Every run of accepted fills is a run of postings**, on well-formed ledgers throughout. -/
theorem applyFills_posted {fills : List (Fill ℚ)} {ledger : PositionLedger ℚ}
    (h : empty.applyFills fills = some ledger) (hdust : NoDust fills) :
    ledger.WellFormed ∧ Book.Posted Book.opening (fills.map Fill.toTx) ledger.toBook := by
  revert hdust
  refine Machine.run_history (fun past l => NoDust past →
    l.WellFormed ∧ Book.Posted Book.opening (past.map Fill.toTx) l.toBook) ?_ ?_ fills ledger h
  · exact fun _ => ⟨wellFormed_empty, Book.Posted.nil⟩
  · intro past l fill l' _ ih hstep hdust
    obtain ⟨hl, hposted⟩ := ih hdust.prefix
    obtain ⟨side, hc, rfl⟩ := applyFill_toOption hstep
    obtain ⟨-, hq, hp, -⟩ := checkFill_ok.mp hc
    have hleft : Settled (l.quantityOf fill.symbol + side.signed fill.quantity) := by
      have hsum := hdust.settled fill.symbol
      rw [signedSum, List.map_append, List.map_singleton, holding_snoc,
        ← hposted.quantity, if_pos (show fill.toTx.instrument = fill.symbol from rfl)] at hsum
      change Settled ((l.lotOf fill.symbol).quantity + fill.signedQuantity) at hsum
      rwa [lotOf_quantity, signedQuantity_of_check hc] at hsum
    refine ⟨hl.book hq hp, ?_⟩
    rw [List.map_append, List.map_singleton]
    exact Book.Posted.snoc hposted (book_post hl.live hc hleft)

/-! ## The accounting identity -/

lemma share_unrealized (ledger : PositionLedger ℚ) (mark : String → ℚ) (symbol : String) :
    ledger.positions.share (fun s p => (mark s - p.averageEntry) * p.quantity) symbol
      = (mark symbol - (ledger.lotOf symbol).entry) * (ledger.lotOf symbol).quantity := by
  rw [Dict.share, lotOf, getPosition]
  cases ledger.positions.get? symbol with
  | none => simp
  | some p => rfl

/-- After any accepted fills that leave no dust on the way, realized plus unrealized profit is
the cash balance plus the value of the signed sums, at any mark prices; each reported quantity is
its symbol's signed sum, and a symbol is absent exactly when that sum is zero. -/
theorem ledger_accounting_identity (fills : List (Fill ℚ)) (ledger : PositionLedger ℚ)
    (haccepted : empty.applyFills fills = some ledger) (hdust : NoDust fills)
    (mark : String → ℚ) :
    ledger.realizedPnl
        + ledger.positions.sum (fun symbol p => (mark symbol - p.averageEntry) * p.quantity)
      = cashBalance fills + ∑ symbol ∈ symbols fills, signedSum fills symbol * mark symbol
    ∧ (∀ symbol p, ledger.getPosition symbol = some p → p.quantity = signedSum fills symbol)
    ∧ ∀ symbol, ledger.getPosition symbol = none ↔ signedSum fills symbol = 0 := by
  obtain ⟨hl, hposted⟩ := applyFills_posted haccepted hdust
  have hquantity : ∀ symbol, ledger.quantityOf symbol = signedSum fills symbol := fun symbol => by
    rw [← lotOf_quantity]
    exact hposted.quantity symbol
  refine ⟨?_, ?_, ?_⟩
  · have hcover : ∀ symbol ∈ ledger.positions.keys, symbol ∈ symbols fills := by
      intro symbol hs
      by_contra hout
      have hlot : (ledger.lotOf symbol).quantity = 0 := by
        rw [show ledger.lotOf symbol = ⟨0, 0⟩ from hposted.untouched hout]
      rw [lotOf_quantity, ← hl.live.absent_iff, getPosition, Dict.get?_eq_none] at hlot
      exact hlot hs
    rw [Dict.sum_eq_sum_finset _ _ _ hcover]
    simp only [share_unrealized]
    exact equity_eq hposted mark
  · intro symbol p hp
    rw [← hquantity, quantityOf, hp]
    rfl
  · intro symbol
    rw [hl.live.absent_iff, hquantity]

/-- A long opened at 100, half of it sold at 120, the rest flipped short at 90. -/
def roundTrip : List (Fill ℚ) :=
  [] ++ [⟨"BTC/USDT", "BUY", 2, 100, "SIM", 1, none, none⟩]
    ++ [⟨"BTC/USDT", "sell", 1, 120, "SIM", 1, none, none⟩]
    ++ [⟨"BTC/USDT", "SELL", 3, 90, "SIM", 1, none, none⟩]

theorem ledger_accounting_roundTrip : ∃ ledger, empty.applyFills roundTrip = some ledger ∧
    ledger.realizedPnl
        + ledger.positions.sum (fun _ p => (95 - p.averageEntry) * p.quantity)
      = cashBalance roundTrip + ∑ symbol ∈ symbols roundTrip, signedSum roundTrip symbol * 95 :=
  have haccepted : (empty.applyFills roundTrip).isSome := by decide +kernel
  have hdust : NoDust roundTrip :=
    ((noDust_nil.snoc (by decide +kernel)).snoc (by decide +kernel)).snoc (by decide +kernel)
  ⟨_, (Option.some_get haccepted).symm,
    (ledger_accounting_identity roundTrip _ (Option.some_get haccepted).symm hdust fun _ => 95).1⟩

end PositionLedger

end Aegis
