import AegisFortress.Lib.AverageCost
import AegisFortress.Portfolio.LedgerAccounting
import Mathlib.Algebra.Order.BigOperators.Group.List

/-!
# One fill or several

An exchange reports one order as several partial fills.  `held_book` and `realized_book` read a
booked fill as a trade at average cost, whose size is additive; so fills of one side at one price
come to the same lot and the same realized total however they are split
(`applyFills_parts`), as long as no dust is swept away in between.
-/

namespace Aegis

namespace PositionLedger

open AverageCost

variable {p : Position ℚ} {side : OrderSide} {a price fee : ℚ} {r : Position ℚ × ℚ}

/-! ## A fill as a trade at average cost -/

/-- The profit a fill realizes is made on what it closes. -/
lemma FillStep.net (h : FillStep p (side.signed a) price fee r) (ha : 0 < a) {x : ℚ}
    (hx : p.quantity = side.signed x) :
    r.2 = side.signed (p.averageEntry - price) * closes x a - fee := by
  cases h with
  | opened flat =>
      rw [hx, OrderSide.signed_eq_zero] at flat
      rw [flat, closes_of_nonneg le_rfl ha.le, mul_zero, zero_sub]
  | added same =>
      rw [hx, OrderSide.signed_mul_signed] at same
      rw [closes_of_nonneg (pos_of_mul_pos_left same ha.le).le ha.le, mul_zero, zero_sub]
  | closed opp _ net hnet =>
      rw [hx, OrderSide.signed_mul_signed] at opp
      have hneg : x < 0 := neg_of_mul_neg_left opp ha.le
      rw [closingProfit, hx, OrderSide.abs_signed, OrderSide.abs_signed, abs_of_pos ha,
        abs_of_neg hneg] at hnet
      simp only [hnet]
      split_ifs with hinside
      · rw [closes_of_inside hneg.le (by linarith), OrderSide.signed_mul_comm]
      · rw [closes_of_outside hneg.le (by linarith), OrderSide.sub_mul_signed]
  | flipped opp _ outside net hnet =>
      rw [hx, OrderSide.signed_mul_signed] at opp
      have hneg : x < 0 := neg_of_mul_neg_left opp ha.le
      rw [hx, OrderSide.abs_signed, OrderSide.abs_signed, abs_of_pos ha, abs_of_neg hneg] at outside
      simp only [hnet]
      rw [hx, closes_of_outside hneg.le (by linarith), OrderSide.sub_mul_signed]
  | reduced opp _ inside net hnet =>
      rw [hx, OrderSide.signed_mul_signed] at opp
      have hneg : x < 0 := neg_of_mul_neg_left opp ha.le
      rw [hx, OrderSide.abs_signed, OrderSide.abs_signed, abs_of_pos ha, abs_of_neg hneg] at inside
      simp only [hnet]
      rw [closes_of_inside hneg.le (by linarith), OrderSide.signed_mul_comm]

/-- The entry price of what is held after a fill. -/
lemma FillStep.entry (h : FillStep p (side.signed a) price fee r) (ha : 0 < a) {x : ℚ}
    (hx : p.quantity = side.signed x) (hopen : r.1.quantity ≠ 0) :
    r.1.averageEntry = entryAfter x p.averageEntry a price := by
  cases h with
  | opened flat =>
      rw [hx, OrderSide.signed_eq_zero] at flat
      rw [flat, entryAfter_zero ha.ne']
  | added same =>
      rw [hx, OrderSide.signed_mul_signed] at same
      have hpos : 0 < x := pos_of_mul_pos_left same ha.le
      rw [entryAfter_of_nonneg hpos.le, hx, OrderSide.abs_signed, OrderSide.abs_signed,
        abs_of_pos hpos, abs_of_pos ha]
  | closed => exact absurd rfl hopen
  | flipped opp _ outside =>
      rw [hx, OrderSide.signed_mul_signed] at opp
      have hneg : x < 0 := neg_of_mul_neg_left opp ha.le
      rw [hx, OrderSide.abs_signed, OrderSide.abs_signed, abs_of_pos ha, abs_of_neg hneg] at outside
      rw [entryAfter_of_outside hneg (by linarith)]
  | reduced opp _ inside =>
      rw [hx, OrderSide.signed_mul_signed] at opp
      have hneg : x < 0 := neg_of_mul_neg_left opp ha.le
      rw [hx, OrderSide.abs_signed, OrderSide.abs_signed, abs_of_pos ha, abs_of_neg hneg] at inside
      rw [entryAfter_of_inside hneg (by linarith)]

/-! ## The lot of a symbol -/

variable {ledger ledger' : PositionLedger ℚ} {fill : Fill ℚ}

/-- What is held in a symbol: the quantity and the average entry, if there is a position. -/
def held (ledger : PositionLedger ℚ) (symbol : String) : Option (ℚ × ℚ) :=
  (ledger.getPosition symbol).map fun p => (p.quantity, p.averageEntry)

lemma quantityOf_eq_held (ledger : PositionLedger ℚ) (symbol : String) :
    ledger.quantityOf symbol = ((ledger.held symbol).map Prod.fst).getD 0 := by
  rw [quantityOf, held, Option.map_map]
  rfl

lemma found_entry_eq_held (ledger : PositionLedger ℚ) (symbol : String) :
    (ledger.found symbol).averageEntry = ((ledger.held symbol).map Prod.snd).getD 0 := by
  rw [found, held, getPosition]
  cases ledger.positions.get? symbol <;> rfl

/-- **What a fill makes of the lot.** -/
lemma held_book (hq : 0 < fill.quantity) {x : ℚ}
    (hx : sweep (ledger.quantityOf fill.symbol) = side.signed x) :
    (ledger.book fill side).1.held fill.symbol
      = if sweep (side.signed (x + fill.quantity)) = 0 then none
        else some (side.signed (x + fill.quantity),
          entryAfter x (ledger.found fill.symbol).averageEntry fill.quantity fill.price) := by
  have hstep := ledger.filled_step side hq
  have hswept : (swept (ledger.found fill.symbol)).quantity = side.signed x := by
    rw [← hx, swept, found_quantity]
  have hsweep : sweep (ledger.filled fill side).1.quantity
      = sweep (side.signed (x + fill.quantity)) := by
    rw [ledger.sweep_filled side hq, hx, OrderSide.signed_add]
  rw [held, getPosition_book_self, ← hsweep]
  simp only [sweep_eq_zero_iff]
  split_ifs with hsmall
  · rfl
  · have hopen : (ledger.filled fill side).1.quantity ≠ 0 := by
      intro hzero
      rw [hzero, abs_zero] at hsmall
      exact hsmall epsilon_pos.le
    have hquantity := hstep.quantity.resolve_right fun h => hopen h.1
    rw [hswept, ← OrderSide.signed_add] at hquantity
    rw [Option.map_some, hquantity, hstep.entry hq hswept hopen]
    rfl

/-- **What a fill realizes.** -/
lemma realized_book (hq : 0 < fill.quantity) {x : ℚ}
    (hx : sweep (ledger.quantityOf fill.symbol) = side.signed x) :
    (ledger.book fill side).1.realizedPnlTotal = ledger.realizedPnlTotal
      + (side.signed ((ledger.found fill.symbol).averageEntry - fill.price)
        * closes x fill.quantity - fill.fee) := by
  have hswept : (swept (ledger.found fill.symbol)).quantity = side.signed x := by
    rw [← hx, swept, found_quantity]
  rw [book_realized, (ledger.filled_step side hq).net hq hswept]
  rfl

/-- The same lot in this symbol, and the same realized total. -/
structure SameLot (ledger ledger' : PositionLedger ℚ) (symbol : String) : Prop where
  held : ledger.held symbol = ledger'.held symbol
  realized : ledger.realizedPnlTotal = ledger'.realizedPnlTotal

lemma SameLot.trans {third : PositionLedger ℚ} {symbol : String}
    (h : SameLot ledger ledger' symbol) (h' : SameLot ledger' third symbol) :
    SameLot ledger third symbol :=
  ⟨h.held.trans h'.held, h.realized.trans h'.realized⟩

section Booking

variable {whole part other : Fill ℚ}

/-- Fills of one size, price and fee make the same of the same lot. -/
lemma SameLot.book (h : SameLot ledger ledger' whole.symbol) (hq : 0 < part.quantity)
    (hsymbol : part.symbol = whole.symbol) (hprice : part.price = whole.price)
    (hquantity : whole.quantity = part.quantity) (hfee : whole.fee = part.fee) :
    SameLot (ledger.book part side).1 (ledger'.book whole side).1 whole.symbol := by
  have hsame : ledger.quantityOf whole.symbol = ledger'.quantityOf whole.symbol := by
    rw [quantityOf_eq_held, quantityOf_eq_held, h.held]
  have hentry : (ledger.found whole.symbol).averageEntry
      = (ledger'.found whole.symbol).averageEntry := by
    rw [found_entry_eq_held, found_entry_eq_held, h.held]
  have hx := (side.signed_signed (sweep (ledger.quantityOf part.symbol))).symm
  have hx' := (side.signed_signed (sweep (ledger'.quantityOf whole.symbol))).symm
  have hq' : 0 < whole.quantity := hquantity ▸ hq
  constructor
  · rw [← hsymbol, held_book hq hx, hsymbol, held_book hq' hx', hsame, hentry, hprice, hquantity]
  · rw [realized_book hq hx, realized_book hq' hx', hsymbol, hsame, hentry, hprice, hquantity, hfee,
      h.realized]

/-- **Two fills at one price make what one of both does**, unless they leave dust in between. -/
lemma sameLot_book_book (ha : 0 < part.quantity) (hb : 0 < other.quantity)
    (hsymbol : part.symbol = whole.symbol) (hsymbol' : other.symbol = whole.symbol)
    (hprice : part.price = whole.price) (hprice' : other.price = whole.price)
    (hquantity : whole.quantity = part.quantity + other.quantity)
    (hfee : whole.fee = part.fee + other.fee)
    (hleft : Settled (sweep (ledger.quantityOf whole.symbol) + side.signed part.quantity)) :
    SameLot ((ledger.book part side).1.book other side).1 (ledger.book whole side).1
      whole.symbol := by
  have hq : 0 < whole.quantity := by
    rw [hquantity]
    exact add_pos ha hb
  obtain ⟨x, hx⟩ : ∃ x, sweep (ledger.quantityOf whole.symbol) = side.signed x :=
    ⟨_, (side.signed_signed _).symm⟩
  have hxa : sweep (ledger.quantityOf part.symbol) = side.signed x := by rw [hsymbol, hx]
  rw [hx, ← OrderSide.signed_add] at hleft
  set between := (ledger.book part side).1 with hbetween
  have hxb : sweep (between.quantityOf other.symbol) = side.signed (x + part.quantity) := by
    rw [hsymbol', ← hsymbol, hbetween, quantityOf_book ha, hxa, ← OrderSide.signed_add,
      sweep_of_settled hleft, sweep_of_settled hleft]
  -- what is not held any more has no entry price
  have hentry : x + part.quantity ≠ 0 → (between.found other.symbol).averageEntry
      = entryAfter x (ledger.found whole.symbol).averageEntry part.quantity whole.price := by
    intro hne
    rw [hsymbol', found_entry_eq_held, hbetween, ← hsymbol, held_book ha hxa,
      sweep_of_settled hleft, if_neg (mt (side.signed_eq_zero _).mp hne), hsymbol, hprice]
    rfl
  have hafter : entryAfter (x + part.quantity) (between.found other.symbol).averageEntry
        other.quantity whole.price
      = entryAfter x (ledger.found whole.symbol).averageEntry whole.quantity whole.price := by
    rw [hquantity, entryAfter_add ha hb]
    rcases eq_or_ne (x + part.quantity) 0 with hzero | hne
    · rw [hzero, entryAfter_zero hb.ne', entryAfter_zero hb.ne']
    · rw [hentry hne]
  have hprofit : ((between.found other.symbol).averageEntry - whole.price)
        * closes (x + part.quantity) other.quantity
      = (entryAfter x (ledger.found whole.symbol).averageEntry part.quantity whole.price
          - whole.price) * closes (x + part.quantity) other.quantity := by
    rcases eq_or_ne (x + part.quantity) 0 with hzero | hne
    · rw [hzero, closes_of_nonneg le_rfl hb.le, mul_zero, mul_zero]
    · rw [hentry hne]
  constructor
  · rw [← hsymbol', held_book hb hxb, hprice', hafter, hsymbol', held_book hq hx, hquantity,
      add_assoc]
  · rw [realized_book hb hxb, hbetween, realized_book ha hxa, ← hbetween, hprice', hprice, hsymbol,
      realized_book hq hx, ← OrderSide.signed_mul, ← OrderSide.signed_mul,
      ← OrderSide.signed_mul, hprofit, hquantity, profit_add ha hb, OrderSide.signed_add, hfee]
    ring

end Booking

/-! ## A fill in parts -/

/-- A part of a fill: of its symbol, on its side, at its price. -/
structure PartOf (fill part : Fill ℚ) : Prop where
  symbol : part.symbol = fill.symbol
  side : OrderSide.ofString? part.side = OrderSide.ofString? fill.side
  price : part.price = fill.price
  quantity_pos : 0 < part.quantity

/-- Parts that come to the fill: its quantity in sum, and its fee. -/
structure Splits (fill : Fill ℚ) (parts : List (Fill ℚ)) : Prop where
  part : ∀ part ∈ parts, PartOf fill part
  quantity : (parts.map Fill.quantity).sum = fill.quantity
  fee : (parts.map Fill.fee).sum = fill.fee

/-- No quantity between two of the parts is dust. -/
def NoDustBetween (ledger : PositionLedger ℚ) (symbol : String) (parts : List (Fill ℚ)) : Prop :=
  ∀ past rest, parts = past ++ rest → past ≠ [] → rest ≠ [] →
    Settled (sweep (ledger.quantityOf symbol) + (past.map Fill.signedQuantity).sum)

lemma NoDustBetween.prefix {symbol : String} {past rest : List (Fill ℚ)}
    (h : NoDustBetween ledger symbol (past ++ rest)) : NoDustBetween ledger symbol past := by
  intro before after hsplit hbefore hafter
  refine h before (after ++ rest) ?_ hbefore (List.append_ne_nil_of_left_ne_nil hafter _)
  rw [hsplit, List.append_assoc]

/-- What these parts come to. -/
def joined (fill : Fill ℚ) (parts : List (Fill ℚ)) : Fill ℚ :=
  { fill with quantity := (parts.map Fill.quantity).sum, fee := (parts.map Fill.fee).sum }

lemma Splits.joined_eq {parts : List (Fill ℚ)} (h : Splits fill parts) :
    joined fill parts = fill := by
  rw [joined, h.quantity, h.fee]

lemma PartOf.check {part : Fill ℚ} (h : PartOf fill part) (hc : checkFill fill = .ok side) :
    checkFill part = .ok side := by
  obtain ⟨hsymbol, -, hprice, hside⟩ := checkFill_ok.mp hc
  refine checkFill_ok.mpr ⟨?_, h.quantity_pos, ?_, h.side.trans hside⟩
  · rwa [h.symbol]
  · rwa [h.price]

lemma sum_quantity_pos {parts : List (Fill ℚ)} (hparts : ∀ part ∈ parts, PartOf fill part)
    (hne : parts ≠ []) : 0 < (parts.map Fill.quantity).sum := by
  refine List.sum_pos _ (fun q hq => ?_) (mt List.map_eq_nil_iff.mp hne)
  obtain ⟨part, hmem, rfl⟩ := List.mem_map.mp hq
  exact (hparts part hmem).quantity_pos

lemma sum_signedQuantity {parts : List (Fill ℚ)} (hc : checkFill fill = .ok side)
    (hparts : ∀ part ∈ parts, PartOf fill part) :
    (parts.map Fill.signedQuantity).sum = side.signed (parts.map Fill.quantity).sum := by
  induction parts with
  | nil => cases side <;> simp
  | cons part rest ih =>
      have hpart := (hparts part (List.mem_cons_self ..)).check hc
      rw [List.map_cons, List.sum_cons, List.map_cons, List.sum_cons, OrderSide.signed_add,
        signedQuantity_of_check hpart, ih fun p hp => hparts p (List.mem_cons_of_mem _ hp)]

lemma applyFills_snoc_of_check {past : List (Fill ℚ)} {part : Fill ℚ}
    (h : ledger.applyFills past = some ledger') (hc : checkFill part = .ok side) :
    ledger.applyFills (past ++ [part]) = some (ledger'.book part side).1 := by
  rw [applyFills, Machine.run_snoc]
  change (ledger.applyFills past).bind _ = _
  rw [h, Option.bind_some, applyFill_of_check hc]
  rfl

/-- **Booking the parts is booking what they come to.** -/
theorem applyFills_parts (hc : checkFill fill = .ok side) (parts : List (Fill ℚ))
    (hne : parts ≠ []) (hparts : ∀ part ∈ parts, PartOf fill part)
    (hdust : NoDustBetween ledger fill.symbol parts) :
    ∃ ledger', ledger.applyFills parts = some ledger'
      ∧ SameLot ledger' (ledger.book (joined fill parts) side).1 fill.symbol := by
  induction parts using List.reverseRecOn with
  | nil => exact absurd rfl hne
  | append_singleton past part ih =>
      have hpast : ∀ p ∈ past, PartOf fill p := fun p hp => hparts p (List.mem_append_left _ hp)
      have hpart : PartOf fill part := hparts part (List.mem_append_right _ (List.mem_singleton_self _))
      rcases eq_or_ne past [] with rfl | hfirst
      · have hlot : SameLot ledger ledger (joined fill [part]).symbol := ⟨rfl, rfl⟩
        exact ⟨_, applyFills_snoc_of_check rfl (hpart.check hc), hlot.book hpart.quantity_pos
          hpart.symbol hpart.price List.sum_singleton List.sum_singleton⟩
      · obtain ⟨between, hbetween, hlot⟩ := ih hfirst hpast hdust.prefix
        have hleft := hdust past [part] rfl hfirst (List.cons_ne_nil _ _)
        rw [sum_signedQuantity hc hpast] at hleft
        rw [← hpart.symbol] at hlot
        have hsame : SameLot (between.book part side).1
            ((ledger.book (joined fill past) side).1.book part side).1 part.symbol :=
          hlot.book hpart.quantity_pos rfl rfl rfl rfl
        rw [hpart.symbol] at hsame
        have htwo : SameLot ((ledger.book (joined fill past) side).1.book part side).1
            (ledger.book (joined fill (past ++ [part])) side).1 fill.symbol := by
          refine sameLot_book_book (sum_quantity_pos hpast hfirst) hpart.quantity_pos rfl
            hpart.symbol rfl hpart.price ?_ ?_ hleft
          · simp [joined]
          · simp [joined]
        exact ⟨_, applyFills_snoc_of_check hbetween (hpart.check hc), hsame.trans htwo⟩

/-! ## Fills of different symbols -/

lemma Same.applyFills (h : ledger.Same ledger') {fills : List (Fill ℚ)}
    {last : PositionLedger ℚ} (hfills : ledger.applyFills fills = some last) :
    ∃ last', ledger'.applyFills fills = some last' ∧ last.Same last' := by
  induction fills generalizing ledger ledger' with
  | nil =>
      cases hfills
      exact ⟨ledger', rfl, h⟩
  | cons fill rest ih =>
      rw [PositionLedger.applyFills, Machine.run_cons, Option.bind_eq_some_iff] at hfills
      obtain ⟨next, hnext, hrest⟩ := hfills
      obtain ⟨side, hc, rfl⟩ := applyFill_toOption hnext
      obtain ⟨last', hlast, hagree⟩ := ih (h.book fill side).1 hrest
      refine ⟨last', ?_, hagree⟩
      rw [PositionLedger.applyFills, Machine.run_cons, applyFill_of_check hc]
      exact hlast

/-- **Fills of different symbols commute.** -/
lemma same_book_book {first second : Fill ℚ} {side' : OrderSide}
    (hne : first.symbol ≠ second.symbol) :
    ((ledger.book first side).1.book second side').1.Same
      ((ledger.book second side').1.book first side).1 := by
  have hfirst : (ledger.book second side').1.filled first side = ledger.filled first side :=
    filled_congr (getPosition_book_of_ne hne)
  have hsecond : (ledger.book first side).1.filled second side' = ledger.filled second side' :=
    filled_congr (getPosition_book_of_ne hne.symm)
  constructor
  · intro symbol
    change ((ledger.book first side).1.book second side').1.getPosition symbol
      = ((ledger.book second side').1.book first side).1.getPosition symbol
    rcases eq_or_ne symbol first.symbol with rfl | hother
    · rw [getPosition_book_of_ne hne, getPosition_book_self, getPosition_book_self, hfirst]
    rcases eq_or_ne symbol second.symbol with rfl | hother'
    · rw [getPosition_book_of_ne hother, getPosition_book_self, getPosition_book_self, hsecond]
    · rw [getPosition_book_of_ne hother', getPosition_book_of_ne hother,
        getPosition_book_of_ne hother, getPosition_book_of_ne hother']
  · rw [book_realized, book_realized, book_realized, book_realized, hfirst, hsecond]
    exact add_right_comm _ _ _

theorem applyFills_exchange {first second : Fill ℚ} {rest : List (Fill ℚ)}
    (hne : first.symbol ≠ second.symbol)
    (h : ledger.applyFills (first :: second :: rest) = some ledger') :
    ∃ exchanged, ledger.applyFills (second :: first :: rest) = some exchanged
      ∧ ledger'.Same exchanged := by
  rw [applyFills, Machine.run_cons, Option.bind_eq_some_iff] at h
  obtain ⟨one, hone, h⟩ := h
  obtain ⟨side, hc, rfl⟩ := applyFill_toOption hone
  rw [Machine.run_cons, Option.bind_eq_some_iff] at h
  obtain ⟨two, htwo, h⟩ := h
  obtain ⟨side', hc', rfl⟩ := applyFill_toOption htwo
  have hswap : PositionLedger.Same _ ((ledger.book second side').1.book first side).1 :=
    same_book_book hne
  obtain ⟨last, hlast, hagree⟩ := hswap.applyFills h
  refine ⟨last, ?_, hagree⟩
  rw [applyFills, Machine.run_cons, applyFill_of_check hc']
  change Machine.run _ (ledger.book second side').1 (first :: rest) = some last
  rw [Machine.run_cons, applyFill_of_check hc]
  exact hlast

/-! ## Splitting and exchanging -/

/-- A fill that is accepted can be booked in parts, if no dust is left between them: the parts are
accepted and come to the same quantity, the same average entry and the same realized total.  Fills
of different symbols that follow each other can be exchanged, whatever comes before and after them,
with the same positions and the same realized total. -/
theorem fills_split_and_commute (ledger : PositionLedger ℚ) :
    (∀ fill parts whole trade, ledger.applyFill fill = .ok (whole, trade) → Splits fill parts →
      NoDustBetween ledger fill.symbol parts →
        ∃ last, ledger.applyFills parts = some last
          ∧ last.held fill.symbol = whole.held fill.symbol
          ∧ last.realizedPnl = whole.realizedPnl)
    ∧ ∀ past first second rest last, first.symbol ≠ second.symbol →
        ledger.applyFills (past ++ first :: second :: rest) = some last →
          ∃ exchanged, ledger.applyFills (past ++ second :: first :: rest) = some exchanged
            ∧ last.positions.Equiv exchanged.positions
            ∧ last.realizedPnl = exchanged.realizedPnl := by
  constructor
  · intro fill parts whole trade hfill hsplits hdust
    obtain ⟨side, hc, hbook⟩ := applyFill_ok hfill
    have hne : parts ≠ [] := by
      rintro rfl
      exact absurd hsplits.quantity (checkFill_ok.mp hc).2.1.ne
    obtain ⟨last, hlast, hlot⟩ := applyFills_parts hc parts hne hsplits.part hdust
    rw [hsplits.joined_eq, ← hbook] at hlot
    exact ⟨last, hlast, hlot.held, hlot.realized⟩
  · intro past first second rest last hne h
    rw [applyFills, Machine.run_append, Option.bind_eq_some_iff] at h
    obtain ⟨before, hbefore, h⟩ := h
    obtain ⟨exchanged, hexchanged, hagree⟩ := applyFills_exchange hne h
    refine ⟨exchanged, ?_, hagree.positions, hagree.total⟩
    rw [applyFills, Machine.run_append, hbefore]
    exact hexchanged

/-- Two held since 100. -/
def longTwo : PositionLedger ℚ :=
  (empty.book ⟨"BTC/USDT", "BUY", 2, 100, "SIM", 1, none, none⟩ .buy).1

/-- Three sold at 120. -/
def soldThree : Fill ℚ := ⟨"BTC/USDT", "SELL", 3, 120, "SIM", 3, none, none⟩

/-- The same in two parts: the first closes the position, the second opens one the other way. -/
def soldInParts : List (Fill ℚ) :=
  [⟨"BTC/USDT", "SELL", 2, 120, "SIM", 1, none, none⟩,
    ⟨"BTC/USDT", "sell", 1, 120, "SIM", 2, none, none⟩]

/-- A purchase of something else. -/
def boughtOther : Fill ℚ := ⟨"ETH/USDT", "BUY", 1, 50, "SIM", 0, none, none⟩

lemma splits_soldInParts : Splits soldThree soldInParts := by
  constructor
  · intro part hpart
    simp only [soldInParts, List.mem_cons, List.not_mem_nil, or_false] at hpart
    rcases hpart with rfl | rfl <;> constructor <;> decide +kernel
  · decide +kernel
  · decide +kernel

lemma noDustBetween_soldInParts : NoDustBetween longTwo soldThree.symbol soldInParts := by
  intro past rest hsplit hpast hrest
  match past, rest, hpast, hrest with
  | [_], _ :: _, _, _ =>
      cases hsplit
      decide +kernel
  | _ :: _ :: _, _ :: _, _, _ =>
      have hlength := congrArg List.length hsplit
      simp [soldInParts] at hlength

theorem fills_split_and_commute_flip :
    (∃ last, longTwo.applyFills soldInParts = some last
      ∧ last.held "BTC/USDT" = some (-1, 120) ∧ last.realizedPnl = 36)
    ∧ ∃ exchanged, longTwo.applyFills [boughtOther, soldThree] = some exchanged
      ∧ exchanged.realizedPnl = 36 := by
  have hc : checkFill soldThree = .ok .sell := by decide +kernel
  obtain ⟨hsplit, hexchange⟩ := fills_split_and_commute longTwo
  constructor
  · obtain ⟨last, hlast, hheld, hrealized⟩ := hsplit soldThree soldInParts _ _
      (applyFill_of_check hc) splits_soldInParts noDustBetween_soldInParts
    refine ⟨last, hlast, hheld.trans ?_, hrealized.trans ?_⟩ <;> decide +kernel
  · obtain ⟨exchanged, hexchanged, -, hrealized⟩ :=
      hexchange [] soldThree boughtOther [] _ (by decide) rfl
    exact ⟨exchanged, hexchanged, hrealized.symm.trans (by decide +kernel)⟩

end PositionLedger

end Aegis
