import AegisFortress.Lib.CashBook
import AegisFortress.Portfolio.PositionLedger

/-!
# What one fill does to the ledger

In exact arithmetic.  `WellFormed` is the shape of every reachable ledger: open positions are
larger than dust, their entry prices are positive, and each is filed under its own symbol.  On a
well-formed ledger `_apply_signed_fill` is one of five steps (`applySignedFill_step`), which come
to one rule for the quantity (`Live.quantityOf_book`), one for the entry price
(`FillStep.entry_pos`) and one for the realized profit — the posting law of a cost-basis book
(`FillStep.basis`).
-/

namespace Aegis

namespace PositionLedger

lemma epsilon_pos : (0 : ℚ) < EPSILON := by
  simp [EPSILON]

/-! ## The shape of reachable ledgers -/

/-- Every stored position is larger than dust. -/
def Live (ledger : PositionLedger ℚ) : Prop :=
  ∀ e ∈ ledger.positions.entries, EPSILON < |e.2.quantity|

instance (ledger : PositionLedger ℚ) : Decidable ledger.Live :=
  inferInstanceAs (Decidable (∀ e ∈ ledger.positions.entries, EPSILON < |e.2.quantity|))

/-- The shape of every ledger the code can reach from an empty one. -/
structure WellFormed (ledger : PositionLedger ℚ) : Prop where
  live : ledger.Live
  entry_pos : ∀ e ∈ ledger.positions.entries, 0 < e.2.averageEntry
  keyed : ∀ e ∈ ledger.positions.entries, e.2.symbol = e.1

lemma wellFormed_empty : WellFormed (empty : PositionLedger ℚ) := by
  constructor <;> intro e he <;> simp [empty] at he

/-- A quantity that a well-formed ledger can report: none, or more than dust. -/
def Settled (q : ℚ) : Prop := q = 0 ∨ EPSILON < |q|

instance (q : ℚ) : Decidable (Settled q) := inferInstanceAs (Decidable (_ ∨ _))

lemma settled_zero : Settled 0 := Or.inl rfl

/-- The position a fill finds: the open one, or a flat one. -/
def found (ledger : PositionLedger ℚ) (symbol : String) : Position ℚ :=
  (ledger.positions.get? symbol).getD (Position.flat symbol)

lemma found_quantity (ledger : PositionLedger ℚ) (symbol : String) :
    (ledger.found symbol).quantity = ledger.quantityOf symbol := by
  simp only [found, quantityOf, getPosition]
  cases ledger.positions.get? symbol <;> rfl

lemma found_of_some {ledger : PositionLedger ℚ} {symbol : String} {p : Position ℚ}
    (h : ledger.getPosition symbol = some p) :
    ledger.found symbol = p := by
  rw [getPosition] at h
  rw [found, h, Option.getD_some]

lemma found_of_none {ledger : PositionLedger ℚ} {symbol : String}
    (h : ledger.getPosition symbol = none) :
    ledger.found symbol = Position.flat symbol := by
  rw [getPosition] at h
  rw [found, h, Option.getD_none]

lemma Live.settled {ledger : PositionLedger ℚ} (h : ledger.Live) (symbol : String) :
    Settled (ledger.quantityOf symbol) := by
  rw [quantityOf, getPosition]
  cases hp : ledger.positions.get? symbol with
  | none => exact settled_zero
  | some p => exact Or.inr (h (symbol, p) (Dict.get?_eq_some.mp hp))

/-- A symbol is absent exactly when its quantity is zero. -/
lemma Live.absent_iff {ledger : PositionLedger ℚ} (h : ledger.Live) (symbol : String) :
    ledger.getPosition symbol = none ↔ ledger.quantityOf symbol = 0 := by
  rw [quantityOf, getPosition]
  cases hp : ledger.positions.get? symbol with
  | none => simp
  | some p =>
      have hlive := h (symbol, p) (Dict.get?_eq_some.mp hp)
      have hne : p.quantity ≠ 0 := abs_pos.mp (epsilon_pos.trans hlive)
      simpa using hne

/-! ## The arithmetic of one fill -/

/-- Profit before fees of closing against a position: of the incoming quantity when it fits into
the position, of the whole position otherwise. -/
def closingProfit (quantity entry signedDelta price : ℚ) : ℚ :=
  if |signedDelta| ≤ |quantity| then (entry - price) * signedDelta else (price - entry) * quantity

/-- The five things a fill can do to a position. -/
inductive FillStep (p : Position ℚ) (signedDelta price fee : ℚ) : Position ℚ × ℚ → Prop
  | opened (flat : p.quantity = 0) :
      FillStep p signedDelta price fee
        ({ p with quantity := signedDelta, averageEntry := price }, -fee)
  | added (same : 0 < p.quantity * signedDelta) :
      FillStep p signedDelta price fee
        ({ p with
            quantity := p.quantity + signedDelta
            averageEntry := (|p.quantity| * p.averageEntry + |signedDelta| * price)
              / (|p.quantity| + |signedDelta|) }, -fee)
  | closed (opp : p.quantity * signedDelta < 0) (dust : |p.quantity + signedDelta| ≤ EPSILON)
      (net : ℚ) (hnet : net = closingProfit p.quantity p.averageEntry signedDelta price - fee) :
      FillStep p signedDelta price fee
        ({ p with quantity := 0, averageEntry := 0, realizedPnl := p.realizedPnl + net }, net)
  | flipped (opp : p.quantity * signedDelta < 0) (live : EPSILON < |p.quantity + signedDelta|)
      (outside : |p.quantity| < |signedDelta|) (net : ℚ)
      (hnet : net = (price - p.averageEntry) * p.quantity - fee) :
      FillStep p signedDelta price fee
        ({ p with
            quantity := p.quantity + signedDelta
            averageEntry := price
            realizedPnl := p.realizedPnl + net }, net)
  | reduced (opp : p.quantity * signedDelta < 0) (live : EPSILON < |p.quantity + signedDelta|)
      (inside : |signedDelta| < |p.quantity|) (net : ℚ)
      (hnet : net = (p.averageEntry - price) * signedDelta - fee) :
      FillStep p signedDelta price fee
        ({ p with
            quantity := p.quantity + signedDelta
            realizedPnl := p.realizedPnl + net }, net)

/-- The two closing branches of the source, long and short, are one formula. -/
lemma closing_eq {q d : ℚ} (entry price : ℚ) (opp : q * d < 0) :
    (if 0 < q then (price - entry) * min |q| |d| else (entry - price) * min |q| |d|)
      = closingProfit q entry d price := by
  rcases mul_neg_iff.mp opp with ⟨hq, hd⟩ | ⟨hq, hd⟩
  · rw [if_pos hq, closingProfit, abs_of_pos hq, abs_of_neg hd]
    split_ifs with h
    · rw [min_eq_right h]; ring
    · rw [min_eq_left (not_le.mp h).le]
  · rw [if_neg (not_lt.mpr hq.le), closingProfit, abs_of_neg hq, abs_of_pos hd]
    split_ifs with h
    · rw [min_eq_right h]
    · rw [min_eq_left (not_le.mp h).le]; ring

/-- Opposite quantities: the sum has the sign of the larger one. -/
lemma flips_iff {q d : ℚ} (opp : q * d < 0) :
    ((0 < q ∧ q + d < 0) ∨ (q < 0 ∧ 0 < q + d)) ↔ |q| < |d| := by
  rcases mul_neg_iff.mp opp with ⟨hq, hd⟩ | ⟨hq, hd⟩
  · rw [abs_of_pos hq, abs_of_neg hd]
    constructor
    · rintro (⟨-, h⟩ | ⟨h, -⟩) <;> linarith
    · exact fun h => Or.inl ⟨hq, by linarith⟩
  · rw [abs_of_neg hq, abs_of_pos hd]
    constructor
    · rintro (⟨h, -⟩ | ⟨-, h⟩) <;> linarith
    · exact fun h => Or.inr ⟨hq, by linarith⟩

/-- **What one fill does.**  On a settled position, `_apply_signed_fill` is one of the five
steps. -/
theorem applySignedFill_step {p : Position ℚ} {signedDelta price fee : ℚ} {r : Position ℚ × ℚ}
    (hq : Settled p.quantity) (hd : signedDelta ≠ 0)
    (hr : applySignedFill p signedDelta price fee = r) : FillStep p signedDelta price fee r := by
  subst hr
  rcases hq with hq | hlive
  · have hle : |p.quantity| ≤ EPSILON := by rw [hq, abs_zero]; exact epsilon_pos.le
    simp only [applySignedFill, pyAbs_rat, hle, if_true]
    exact .opened hq
  have hne : p.quantity ≠ 0 := abs_pos.mp (epsilon_pos.trans hlive)
  rcases lt_or_gt_of_ne (mul_ne_zero hne hd) with hopp | hsame
  · have hdir : ¬ ((0 < p.quantity ∧ 0 < signedDelta) ∨ (p.quantity < 0 ∧ signedDelta < 0)) :=
      fun h => absurd (mul_pos_iff.mpr h) (not_lt.mpr hopp.le)
    simp only [applySignedFill, pyAbs_rat, pyMin_rat, not_le.mpr hlive, hdir, if_false,
      closing_eq p.averageEntry price hopp]
    by_cases hdust : |p.quantity + signedDelta| ≤ EPSILON
    · simp only [hdust, if_true]
      exact .closed hopp hdust _ rfl
    · have hrest : EPSILON < |p.quantity + signedDelta| := not_le.mp hdust
      by_cases hout : |p.quantity| < |signedDelta|
      · simp only [hdust, if_false, (flips_iff hopp).mpr hout, if_true]
        refine .flipped hopp hrest hout _ ?_
        rw [closingProfit, if_neg (not_le.mpr hout)]
      · simp only [hdust, if_false, mt (flips_iff hopp).mp hout]
        have hin : |signedDelta| < |p.quantity| := by
          refine lt_of_le_of_ne (not_lt.mp hout) fun e => ?_
          -- equal sizes and opposite signs leave nothing, which is dust
          rcases abs_eq_abs.mp e with h | h
          · rw [h] at hopp
            exact absurd hopp (not_lt.mpr (mul_self_nonneg _))
          · rw [h, add_neg_cancel, abs_zero] at hrest
            exact absurd hrest (not_lt.mpr epsilon_pos.le)
        refine .reduced hopp hrest hin _ ?_
        rw [closingProfit, if_pos hin.le]
  · have hdir : (0 < p.quantity ∧ 0 < signedDelta) ∨ (p.quantity < 0 ∧ signedDelta < 0) :=
      mul_pos_iff.mp hsame
    simp only [applySignedFill, pyAbs_rat, not_le.mpr hlive, if_false, hdir, if_true]
    exact .added hsame

namespace FillStep

variable {p : Position ℚ} {signedDelta price fee : ℚ} {r : Position ℚ × ℚ}

lemma symbol (h : FillStep p signedDelta price fee r) : r.1.symbol = p.symbol := by
  cases h <;> rfl

/-- The new quantity is the old one plus the fill; in the `closed` case, what is left is dust. -/
lemma quantity (h : FillStep p signedDelta price fee r) :
    r.1.quantity = p.quantity + signedDelta
      ∨ r.1.quantity = 0 ∧ |p.quantity + signedDelta| ≤ EPSILON := by
  cases h with
  | opened flat => exact Or.inl (by rw [flat, zero_add])
  | added => exact Or.inl rfl
  | closed _ dust => exact Or.inr ⟨rfl, dust⟩
  | flipped => exact Or.inl rfl
  | reduced => exact Or.inl rfl

/-- A position that stays open keeps a positive entry price. -/
lemma entry_pos (h : FillStep p signedDelta price fee r) (hd : signedDelta ≠ 0)
    (hprice : 0 < price) (hentry : p.quantity ≠ 0 → 0 < p.averageEntry)
    (hopen : r.1.quantity ≠ 0) : 0 < r.1.averageEntry := by
  cases h with
  | opened => exact hprice
  | added same =>
      have hq : p.quantity ≠ 0 := left_ne_zero_of_mul same.ne'
      have hcost : 0 < |p.quantity| * p.averageEntry := mul_pos (abs_pos.mpr hq) (hentry hq)
      have hpaid : 0 < |signedDelta| * price := mul_pos (abs_pos.mpr hd) hprice
      exact div_pos (add_pos hcost hpaid) (add_pos (abs_pos.mpr hq) (abs_pos.mpr hd))
  | closed => exact absurd rfl hopen
  | flipped => exact hprice
  | reduced opp => exact hentry (left_ne_zero_of_mul opp.ne)

/-- A purchase on a flat or short position leaves at most what it bought, at its price. -/
lemma of_bought (h : FillStep p signedDelta price fee r) (hshort : p.quantity ≤ 0)
    (hd : 0 < signedDelta) (hlong : 0 < r.1.quantity) :
    r.1.quantity ≤ signedDelta ∧ r.1.averageEntry = price := by
  cases h with
  | opened => exact ⟨le_rfl, rfl⟩
  | added same => exact absurd (pos_of_mul_pos_left same hd.le) (not_lt.mpr hshort)
  | closed => exact absurd hlong (lt_irrefl _)
  | flipped => exact ⟨by linarith, rfl⟩
  | reduced _ _ inside =>
      rw [abs_of_pos hd, abs_of_nonpos hshort] at inside
      exact absurd hlong (not_lt.mpr (by linarith))

/-- A sale that leaves a long position has made a long one smaller. -/
lemma of_sold (h : FillStep p signedDelta price fee r) (hd : signedDelta < 0)
    (hlong : 0 < r.1.quantity) :
    0 < p.quantity ∧ r.1.quantity ≤ p.quantity ∧ r.1.averageEntry = p.averageEntry := by
  cases h with
  | opened => exact absurd hlong (not_lt.mpr hd.le)
  | added same =>
      have hq : p.quantity < 0 := neg_of_mul_pos_left same hd.le
      exact absurd hlong (not_lt.mpr (add_neg hq hd).le)
  | closed => exact absurd hlong (lt_irrefl _)
  | flipped opp _ outside =>
      have hq : 0 < p.quantity := pos_of_mul_neg_left opp hd.le
      rw [abs_of_pos hq, abs_of_neg hd] at outside
      exact absurd hlong (not_lt.mpr (by linarith))
  | reduced opp => exact ⟨pos_of_mul_neg_left opp hd.le, by linarith, rfl⟩

/-- Cost of adding: the average entry times the new quantity is the old cost plus the new one. -/
lemma added_basis {q d : ℚ} (entry price : ℚ) (same : 0 < q * d) :
    (|q| * entry + |d| * price) / (|q| + |d|) * (q + d) = entry * q + price * d := by
  rcases mul_pos_iff.mp same with ⟨hq, hd⟩ | ⟨hq, hd⟩
  · have hne : q + d ≠ 0 := (add_pos hq hd).ne'
    rw [abs_of_pos hq, abs_of_pos hd, div_mul_cancel₀ _ hne]
    ring
  · have hne : -q + -d ≠ 0 := by
      have : q + d < 0 := add_neg hq hd
      linarith
    rw [abs_of_neg hq, abs_of_neg hd, div_mul_eq_mul_div, div_eq_iff hne]
    ring

/-- **The posting law.**  When nothing but an exact zero is swept away, the profit realized is
the change of cost basis plus the cash moved. -/
lemma basis (h : FillStep p signedDelta price fee r) (hleft : Settled (p.quantity + signedDelta)) :
    r.2 = r.1.averageEntry * r.1.quantity - p.averageEntry * p.quantity
      + (-signedDelta * price - fee) := by
  cases h with
  | opened flat => simp only [flat]; ring
  | added same => simp only [added_basis p.averageEntry price same]; ring
  | closed opp dust net hnet =>
      have hzero : p.quantity + signedDelta = 0 :=
        hleft.resolve_right (not_lt.mpr dust)
      have hd : signedDelta = -p.quantity := by linarith
      rw [closingProfit, hd, abs_neg, if_pos le_rfl] at hnet
      simp only [hnet, hd]
      ring
  | flipped _ _ _ net hnet => simp only [hnet]; ring
  | reduced _ _ _ net hnet => simp only [hnet]; ring

end FillStep

/-! ## The ledger after a fill -/

lemma checkFill_ok {fill : Fill ℚ} {side : OrderSide} :
    checkFill fill = .ok side ↔
      fill.symbol ≠ "" ∧ 0 < fill.quantity ∧ 0 < fill.price
        ∧ OrderSide.ofString? fill.side = some side := by
  unfold checkFill
  split_ifs with hs hq hp
  · simp [hs]
  · simp [hq]
  · simp [hp]
  · rw [not_le] at hq hp
    cases OrderSide.ofString? fill.side <;> simp [hs, hq, hp]

lemma signed_ne_zero {q : ℚ} (hq : 0 < q) (side : OrderSide) : side.signed q ≠ 0 := by
  cases side
  · exact hq.ne'
  · exact neg_ne_zero.mpr hq.ne'

/-- The quantity a ledger keeps of a computed one: dust is swept away. -/
def sweep (q : ℚ) : ℚ := if |q| ≤ EPSILON then 0 else q

lemma sweep_eq_zero_iff {q : ℚ} : sweep q = 0 ↔ |q| ≤ EPSILON := by
  rw [sweep]
  split_ifs with hdust
  · simp [hdust]
  · simp only [hdust, iff_false]
    rintro rfl
    exact hdust (abs_zero.trans_le epsilon_pos.le)

lemma sweep_of_settled {q : ℚ} (h : Settled q) : sweep q = q := by
  rcases h with rfl | h
  · simp [sweep]
  · rw [sweep, if_neg (not_le.mpr h)]

section Book

variable {ledger : PositionLedger ℚ} {fill : Fill ℚ} {side : OrderSide}

/-- The position the fill leaves before dust is swept away, and the profit it realizes. -/
def filled (ledger : PositionLedger ℚ) (fill : Fill ℚ) (side : OrderSide) : Position ℚ × ℚ :=
  applySignedFill (ledger.found fill.symbol) (side.signed fill.quantity) fill.price fill.fee

lemma filled_congr {ledger' : PositionLedger ℚ}
    (h : ledger.getPosition fill.symbol = ledger'.getPosition fill.symbol) :
    ledger.filled fill side = ledger'.filled fill side := by
  rw [getPosition, getPosition] at h
  rw [filled, filled, found, found, h]

lemma book_realized : (ledger.book fill side).1.realizedPnlTotal
    = ledger.realizedPnlTotal + (ledger.filled fill side).2 := rfl

lemma book_positions : (ledger.book fill side).1.positions
    = if |(ledger.filled fill side).1.quantity| ≤ EPSILON then ledger.positions.erase fill.symbol
      else ledger.positions.set fill.symbol (ledger.filled fill side).1 := by
  simp only [book, pyAbs_rat]
  rfl

lemma getPosition_book_of_ne {symbol : String} (h : symbol ≠ fill.symbol) :
    (ledger.book fill side).1.getPosition symbol = ledger.getPosition symbol := by
  simp only [getPosition, book_positions]
  split_ifs
  · exact Dict.get?_erase_of_ne _ (Ne.symm h)
  · exact Dict.get?_set_of_ne _ (Ne.symm h) _

lemma getPosition_book_self : (ledger.book fill side).1.getPosition fill.symbol
    = if |(ledger.filled fill side).1.quantity| ≤ EPSILON then none
      else some (ledger.filled fill side).1 := by
  simp only [getPosition, book_positions]
  split_ifs
  · exact Dict.get?_erase_self _ _
  · exact Dict.get?_set_self _ _ _

/-- A position with dust swept away: what a fill finds of it. -/
def swept (p : Position ℚ) : Position ℚ := { p with quantity := sweep p.quantity }

lemma sweep_settled (q : ℚ) : Settled (sweep q) := by
  rw [sweep]
  split_ifs with h
  · exact settled_zero
  · exact Or.inr (not_le.mp h)

lemma swept_of_settled {p : Position ℚ} (h : Settled p.quantity) : swept p = p := by
  rw [swept, sweep_of_settled h]

lemma applySignedFill_swept (p : Position ℚ) (signedDelta price fee : ℚ) :
    applySignedFill (swept p) signedDelta price fee = applySignedFill p signedDelta price fee := by
  by_cases h : |p.quantity| ≤ EPSILON
  · have hzero : |(swept p).quantity| ≤ EPSILON := by
      simp [swept, sweep, h, epsilon_pos.le]
    simp only [applySignedFill, pyAbs_rat, h, hzero, if_true]
    rfl
  · rw [swept_of_settled (Or.inr (not_le.mp h))]

/-- On any ledger, a fill takes one of the five steps from what it finds. -/
lemma filled_step (ledger : PositionLedger ℚ) (side : OrderSide) (hq : 0 < fill.quantity) :
    FillStep (swept (ledger.found fill.symbol)) (side.signed fill.quantity) fill.price fill.fee
      (ledger.filled fill side) :=
  applySignedFill_step (sweep_settled _) (signed_ne_zero hq side) (applySignedFill_swept _ _ _ _)

lemma Live.filled_step (h : ledger.Live) (side : OrderSide) (hq : 0 < fill.quantity) :
    FillStep (ledger.found fill.symbol) (side.signed fill.quantity) fill.price fill.fee
      (ledger.filled fill side) := by
  have hsettled : Settled (ledger.found fill.symbol).quantity := by
    rw [found_quantity]
    exact h.settled _
  have hstep := ledger.filled_step side hq
  rwa [swept_of_settled hsettled] at hstep

lemma sweep_filled (ledger : PositionLedger ℚ) (side : OrderSide) (hq : 0 < fill.quantity) :
    sweep (ledger.filled fill side).1.quantity
      = sweep (sweep (ledger.quantityOf fill.symbol) + side.signed fill.quantity) := by
  have hstep := (ledger.filled_step side hq).quantity
  rw [swept, found_quantity] at hstep
  rcases hstep with hr | ⟨hr, hdust⟩
  · rw [hr]
  · rw [hr, sweep_of_settled settled_zero]
    exact (if_pos hdust).symm

lemma Live.sweep_filled (h : ledger.Live) (side : OrderSide) (hq : 0 < fill.quantity) :
    sweep (ledger.filled fill side).1.quantity
      = sweep (ledger.quantityOf fill.symbol + side.signed fill.quantity) := by
  rw [PositionLedger.sweep_filled ledger side hq, sweep_of_settled (h.settled _)]

/-- **The quantity rule.**  A fill adds its signed quantity; dust is swept away before and after. -/
theorem quantityOf_book (hq : 0 < fill.quantity) :
    (ledger.book fill side).1.quantityOf fill.symbol
      = sweep (sweep (ledger.quantityOf fill.symbol) + side.signed fill.quantity) := by
  rw [← ledger.sweep_filled side hq, quantityOf, getPosition_book_self, sweep]
  split_ifs <;> rfl

/-- On a ledger without dust there is nothing to sweep away before. -/
lemma Live.quantityOf_book (h : ledger.Live) (hq : 0 < fill.quantity) :
    (ledger.book fill side).1.quantityOf fill.symbol
      = sweep (ledger.quantityOf fill.symbol + side.signed fill.quantity) := by
  rw [PositionLedger.quantityOf_book hq, sweep_of_settled (h.settled _)]

lemma mem_book {e : String × Position ℚ} (he : e ∈ (ledger.book fill side).1.positions.entries) :
    e ∈ ledger.positions.entries
      ∨ e = (fill.symbol, (ledger.filled fill side).1)
        ∧ EPSILON < |(ledger.filled fill side).1.quantity| := by
  rw [← Prod.mk.eta (p := e), ← Dict.get?_eq_some] at he
  by_cases hs : e.1 = fill.symbol
  · rw [hs] at he
    change (ledger.book fill side).1.getPosition fill.symbol = some e.2 at he
    rw [getPosition_book_self] at he
    split_ifs at he with hdust
    exact Or.inr ⟨Prod.ext hs (Option.some.inj he).symm, not_le.mp hdust⟩
  · change (ledger.book fill side).1.getPosition e.1 = some e.2 at he
    rw [getPosition_book_of_ne hs] at he
    exact Or.inl (Dict.get?_eq_some.mp he)

lemma WellFormed.found_symbol (h : ledger.WellFormed) (symbol : String) :
    (ledger.found symbol).symbol = symbol := by
  rw [found]
  cases hp : ledger.positions.get? symbol with
  | none => rfl
  | some p => exact h.keyed (symbol, p) (Dict.get?_eq_some.mp hp)

lemma WellFormed.found_entry (h : ledger.WellFormed) (symbol : String)
    (hne : (ledger.found symbol).quantity ≠ 0) : 0 < (ledger.found symbol).averageEntry := by
  rw [found] at hne ⊢
  cases hp : ledger.positions.get? symbol with
  | none => rw [hp] at hne; exact absurd rfl hne
  | some p => exact h.entry_pos (symbol, p) (Dict.get?_eq_some.mp hp)

/-- **A fill keeps the ledger well formed.** -/
theorem WellFormed.book (h : ledger.WellFormed) (hq : 0 < fill.quantity) (hp : 0 < fill.price) :
    (ledger.book fill side).1.WellFormed := by
  have hstep := h.live.filled_step side hq
  constructor
  · intro e he
    rcases mem_book he with he | ⟨rfl, hlive⟩
    · exact h.live e he
    · exact hlive
  · intro e he
    rcases mem_book he with he | ⟨rfl, hlive⟩
    · exact h.entry_pos e he
    · exact hstep.entry_pos (signed_ne_zero hq side) hp (h.found_entry _)
        (abs_pos.mp (epsilon_pos.trans hlive))
  · intro e he
    rcases mem_book he with he | ⟨rfl, -⟩
    · exact h.keyed e he
    · exact hstep.symbol.trans (h.found_symbol _)

end Book

/-! ## Marking -/

/-- Marking writes nothing but unrealized profits. -/
lemma markToMarket_same (p : Position ℚ) (price : ℚ) :
    (p.markToMarket price).quantity = p.quantity
      ∧ (p.markToMarket price).averageEntry = p.averageEntry
      ∧ (p.markToMarket price).symbol = p.symbol := by
  rw [Position.markToMarket]
  split_ifs <;> exact ⟨rfl, rfl, rfl⟩

lemma mem_markPositions {l : PositionLedger ℚ} {prices : Dict String ℚ} {e : String × Position ℚ}
    (he : e ∈ (l.markPositions prices).positions.entries) :
    ∃ p, (e.1, p) ∈ l.positions.entries ∧ e.2.quantity = p.quantity
      ∧ e.2.averageEntry = p.averageEntry ∧ e.2.symbol = p.symbol := by
  obtain ⟨⟨symbol, p⟩, hp, rfl⟩ := List.mem_map.mp he
  refine ⟨p, hp, ?_⟩
  dsimp only
  cases prices.get? symbol with
  | none => exact ⟨rfl, rfl, rfl⟩
  | some price =>
      dsimp only
      split_ifs
      · exact markToMarket_same p price
      · exact ⟨rfl, rfl, rfl⟩

lemma WellFormed.markPositions {l : PositionLedger ℚ} (h : l.WellFormed)
    (prices : Dict String ℚ) : (l.markPositions prices).WellFormed := by
  constructor
  · intro e he
    obtain ⟨p, hp, hq, -, -⟩ := mem_markPositions he
    rw [hq]
    exact h.live (e.1, p) hp
  · intro e he
    obtain ⟨p, hp, -, hentry, -⟩ := mem_markPositions he
    rw [hentry]
    exact h.entry_pos (e.1, p) hp
  · intro e he
    obtain ⟨p, hp, -, -, hs⟩ := mem_markPositions he
    rw [hs]
    exact h.keyed (e.1, p) hp

lemma getPosition_markPositions {l : PositionLedger ℚ} {prices : Dict String ℚ} {symbol : String}
    {p' : Position ℚ} (h : (l.markPositions prices).getPosition symbol = some p') :
    ∃ p, l.getPosition symbol = some p ∧ p'.quantity = p.quantity
      ∧ p'.averageEntry = p.averageEntry := by
  obtain ⟨p, hp, hquantity, hentry, -⟩ := mem_markPositions (Dict.get?_eq_some.mp h)
  exact ⟨p, Dict.get?_eq_some.mpr hp, hquantity, hentry⟩

lemma markPositions_quantityOf (l : PositionLedger ℚ) (prices : Dict String ℚ) (symbol : String) :
    (l.markPositions prices).quantityOf symbol = l.quantityOf symbol := by
  rw [quantityOf, quantityOf, getPosition, getPosition, markPositions, Dict.get?_mapVal]
  cases l.positions.get? symbol with
  | none => rfl
  | some p =>
      rw [Option.map_some, Option.map_some, Option.map_some]
      cases prices.get? symbol with
      | none => rfl
      | some price =>
          dsimp only
          split_ifs
          · rw [(markToMarket_same p price).1]
          · rfl

/-! ## Ledgers with the same positions -/

/-- The same positions, in whatever order, and the same realized total. -/
structure Same (l l' : PositionLedger ℚ) : Prop where
  positions : l.positions.Equiv l'.positions
  total : l.realizedPnlTotal = l'.realizedPnlTotal

lemma Same.refl (l : PositionLedger ℚ) : l.Same l := ⟨Dict.Equiv.refl _, rfl⟩

lemma Same.trans {l l' l'' : PositionLedger ℚ} (h : l.Same l') (h' : l'.Same l'') : l.Same l'' :=
  ⟨h.positions.trans h'.positions, h.total.trans h'.total⟩

lemma WellFormed.of_same {l l' : PositionLedger ℚ} (h : l.WellFormed) (hs : l'.Same l) :
    l'.WellFormed := by
  constructor
  · intro e he
    exact h.live e (hs.positions.mem_iff.mp he)
  · intro e he
    exact h.entry_pos e (hs.positions.mem_iff.mp he)
  · intro e he
    exact h.keyed e (hs.positions.mem_iff.mp he)

/-- A fill cannot tell them apart. -/
lemma Same.book {l l' : PositionLedger ℚ} (h : l.Same l') (fill : Fill ℚ) (side : OrderSide) :
    (l.book fill side).1.Same (l'.book fill side).1
      ∧ (l.book fill side).2 = (l'.book fill side).2 := by
  have hfilled : l.filled fill side = l'.filled fill side := filled_congr (h.positions fill.symbol)
  refine ⟨⟨?_, ?_⟩, ?_⟩
  · rw [book_positions, book_positions, hfilled]
    split_ifs
    · exact h.positions.erase _
    · exact h.positions.set _ _
  · rw [book_realized, book_realized, hfilled, h.total]
  · simp only [PositionLedger.book, h.positions fill.symbol]

lemma Same.markPositions {l l' : PositionLedger ℚ} (h : l.Same l') (prices : Dict String ℚ) :
    (l.markPositions prices).Same (l'.markPositions prices) := by
  refine ⟨fun symbol => ?_, h.total⟩
  simp only [PositionLedger.markPositions, Dict.get?_mapVal, h.positions symbol]

/-! ## Calls of `apply_fill` -/

lemma applyFill_ok {ledger : PositionLedger ℚ} {fill : Fill ℚ}
    {r : PositionLedger ℚ × Trade ℚ} (h : ledger.applyFill fill = .ok r) :
    ∃ side, checkFill fill = .ok side ∧ r = ledger.book fill side := by
  rw [applyFill] at h
  cases hc : checkFill fill with
  | error e => rw [hc] at h; cases h
  | ok side => rw [hc] at h; cases h; exact ⟨side, rfl, rfl⟩

/-- `apply_fill` raises what its checks raise. -/
lemma applyFill_error {ledger : PositionLedger ℚ} {fill : Fill ℚ} {e : PyError}
    (h : ledger.applyFill fill = .error e) : checkFill fill = .error e := by
  rw [applyFill] at h
  cases hc : checkFill fill with
  | error e' =>
      rw [hc] at h
      cases h
      rfl
  | ok side =>
      rw [hc] at h
      cases h

lemma applyFill_of_check {ledger : PositionLedger ℚ} {fill : Fill ℚ} {side : OrderSide}
    (h : checkFill fill = .ok side) : ledger.applyFill fill = .ok (ledger.book fill side) := by
  rw [applyFill, h]
  rfl

theorem WellFormed.applyFill {ledger : PositionLedger ℚ} (hl : ledger.WellFormed) {fill : Fill ℚ}
    {r : PositionLedger ℚ × Trade ℚ} (h : ledger.applyFill fill = .ok r) : r.1.WellFormed := by
  obtain ⟨side, hc, rfl⟩ := applyFill_ok h
  obtain ⟨-, hq, hp, -⟩ := checkFill_ok.mp hc
  exact hl.book hq hp

/-- `apply_fill` on each fill in turn; `none` as soon as one call raises. -/
def applyFills (ledger : PositionLedger ℚ) (fills : List (Fill ℚ)) : Option (PositionLedger ℚ) :=
  Machine.run (fun l f => (l.applyFill f).toOption.map Prod.fst) ledger fills

lemma applyFill_toOption {ledger ledger' : PositionLedger ℚ} {fill : Fill ℚ}
    (h : (ledger.applyFill fill).toOption.map Prod.fst = some ledger') :
    ∃ side, checkFill fill = .ok side ∧ ledger' = (ledger.book fill side).1 := by
  cases hf : ledger.applyFill fill with
  | error e => rw [hf] at h; cases h
  | ok r =>
      rw [hf] at h
      obtain ⟨side, hc, rfl⟩ := applyFill_ok hf
      exact ⟨side, hc, (Option.some.inj h).symm⟩

end PositionLedger

end Aegis
