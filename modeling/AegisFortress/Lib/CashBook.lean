import AegisFortress.Lib.Run
import Mathlib.Algebra.BigOperators.Group.Finset.Basic
import Mathlib.Algebra.BigOperators.Ring.Finset
import Mathlib.Algebra.Field.Basic
import Mathlib.Tactic.LinearCombination
import Mathlib.Tactic.Ring

/-!
# Cash, holdings and cost basis

The accounting a trading book has to agree with, over any instruments `ι` and any commutative
ring of amounts `K`.

A transaction moves cash and a holding (`cash`, `holding`).  A book that averages its entry price
keeps a `Lot` per instrument instead, and a running total of realized profit.  `Lot.Conserves` is
the one law a posting has to satisfy: what it realizes is the change of cost basis plus the cash
it moves.  `equity_eq` is what follows over any run of such postings, at any prices: realized plus
unrealized profit is cash plus the value of the holdings.
-/

namespace CashBook

variable {ι K : Type} [CommRing K]

/-- One trade: a signed quantity of an instrument at a price, and the fee paid for it. -/
structure Tx (ι K : Type) where
  instrument : ι
  signed : K
  price : K
  fee : K

/-- The cash left by the transactions, starting from none. -/
def cash (txs : List (Tx ι K)) : K := (txs.map fun t => -t.signed * t.price - t.fee).sum

@[simp] lemma cash_nil : cash ([] : List (Tx ι K)) = 0 := rfl

lemma cash_snoc (txs : List (Tx ι K)) (t : Tx ι K) :
    cash (txs ++ [t]) = cash txs + (-t.signed * t.price - t.fee) := by
  simp [cash, List.map_append, List.sum_append]

section Holdings

variable [DecidableEq ι]

/-- The signed quantity of an instrument the transactions have left. -/
def holding (txs : List (Tx ι K)) (i : ι) : K :=
  (txs.map fun t => if t.instrument = i then t.signed else 0).sum

@[simp] lemma holding_nil (i : ι) : holding ([] : List (Tx ι K)) i = 0 := rfl

lemma holding_snoc (txs : List (Tx ι K)) (t : Tx ι K) (i : ι) :
    holding (txs ++ [t]) i = holding txs i + if t.instrument = i then t.signed else 0 := by
  simp [holding, List.map_append, List.sum_append]

/-- The instruments the transactions are about. -/
def instruments (txs : List (Tx ι K)) : Finset ι := (txs.map Tx.instrument).toFinset

omit [CommRing K] in
lemma instruments_snoc (txs : List (Tx ι K)) (t : Tx ι K) :
    instruments (txs ++ [t]) = insert t.instrument (instruments txs) := by
  ext i
  simp [instruments]

end Holdings

/-! ## Lots -/

/-- A holding carried at an average entry price. -/
structure Lot (K : Type) where
  quantity : K
  entry : K

/-- What a lot cost. -/
def Lot.basis (l : Lot K) : K := l.entry * l.quantity

/-- **The posting law.**  The lot moves by the signed quantity, and what the posting realizes is
the change of cost basis plus the cash moved. -/
structure Lot.Conserves (before after : Lot K) (t : Tx ι K) (realized : K) : Prop where
  quantity : after.quantity = before.quantity + t.signed
  basis : realized = after.basis - before.basis + (-t.signed * t.price - t.fee)

/-- A book: a lot for each instrument and the profit realized so far. -/
structure Book (ι K : Type) where
  lot : ι → Lot K
  realized : K

/-- One transaction posted to a book: it touches the lot of its instrument only. -/
structure Book.Post (b : Book ι K) (t : Tx ι K) (b' : Book ι K) : Prop where
  frame : ∀ i, i ≠ t.instrument → b'.lot i = b.lot i
  conserves : (b.lot t.instrument).Conserves (b'.lot t.instrument) t (b'.realized - b.realized)

/-- Books reached by posting transactions one after the other. -/
inductive Book.Posted (b₀ : Book ι K) : List (Tx ι K) → Book ι K → Prop
  | nil : Book.Posted b₀ [] b₀
  | snoc {txs : List (Tx ι K)} {b b' : Book ι K} {t : Tx ι K} :
      Book.Posted b₀ txs b → b.Post t b' → Book.Posted b₀ (txs ++ [t]) b'

/-- The book before any transaction. -/
def Book.opening : Book ι K := ⟨fun _ => ⟨0, 0⟩, 0⟩

section Equity

variable [DecidableEq ι]

/-- Every lot holds what the transactions left. -/
lemma Book.Posted.quantity {txs : List (Tx ι K)} {b : Book ι K}
    (h : Book.Posted Book.opening txs b) (i : ι) : (b.lot i).quantity = holding txs i := by
  induction h with
  | nil => rfl
  | @snoc txs b b' t _ hpost ih =>
      rw [holding_snoc]
      by_cases hi : i = t.instrument
      · subst hi
        rw [hpost.conserves.quantity, ih, if_pos rfl]
      · have hne : ¬ t.instrument = i := fun e => hi e.symm
        rw [hpost.frame i hi, ih, if_neg hne, add_zero]

/-- An instrument without a transaction has an empty lot. -/
lemma Book.Posted.untouched {txs : List (Tx ι K)} {b : Book ι K}
    (h : Book.Posted Book.opening txs b) {i : ι} (hi : i ∉ instruments txs) :
    b.lot i = ⟨0, 0⟩ := by
  induction h with
  | nil => rfl
  | @snoc txs b b' t _ hpost ih =>
      rw [instruments_snoc, Finset.mem_insert, not_or] at hi
      rw [hpost.frame i hi.1, ih hi.2]

/-- Realized profit is the cash left plus what the open lots cost. -/
lemma Book.Posted.realized {txs : List (Tx ι K)} {b : Book ι K}
    (h : Book.Posted Book.opening txs b) :
    b.realized = cash txs + ∑ i ∈ instruments txs, (b.lot i).basis := by
  induction h with
  | nil => simp [Book.opening, instruments]
  | @snoc txs b b' t hpast hpost ih =>
      -- both totals range over the instruments seen before, with the new one added
      have hold : ∑ i ∈ instruments txs, (b.lot i).basis
          = ∑ i ∈ insert t.instrument (instruments txs), (b.lot i).basis := by
        refine Finset.sum_subset (Finset.subset_insert _ _) fun i _ hi => ?_
        rw [hpast.untouched hi, Lot.basis, mul_zero]
      have hchange : ∑ i ∈ insert t.instrument (instruments txs), (b'.lot i).basis
          - ∑ i ∈ insert t.instrument (instruments txs), (b.lot i).basis
          = (b'.lot t.instrument).basis - (b.lot t.instrument).basis := by
        rw [← Finset.sum_sub_distrib]
        refine Finset.sum_eq_single_of_mem _ (Finset.mem_insert_self _ _) fun i _ hi => ?_
        rw [hpost.frame i hi, sub_self]
      have hlaw := hpost.conserves.basis
      rw [instruments_snoc, cash_snoc]
      linear_combination ih + hlaw - hchange + hold

/-- **The accounting identity.**  At any prices, realized plus unrealized profit is the cash
plus the value of the holdings. -/
theorem equity_eq {txs : List (Tx ι K)} {b : Book ι K} (h : Book.Posted Book.opening txs b)
    (price : ι → K) :
    b.realized + ∑ i ∈ instruments txs, (price i - (b.lot i).entry) * (b.lot i).quantity
      = cash txs + ∑ i ∈ instruments txs, holding txs i * price i := by
  rw [h.realized, add_assoc, ← Finset.sum_add_distrib]
  congr 1
  refine Finset.sum_congr rfl fun i _ => ?_
  rw [← h.quantity i, Lot.basis]
  ring

end Equity

end CashBook
