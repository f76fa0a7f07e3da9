import AegisFortress.Lib.History
import AegisFortress.Portfolio.LedgerSteps

/-!
# Calls on a ledger

The ledger under any calls, one after the other: fills, accepted or not, and marks.
-/

namespace Aegis

namespace PositionLedger

open History

/-- The calls that change a ledger. -/
inductive Call
  | applyFill (fill : Fill ℚ)
  | markPositions (prices : Dict String ℚ)

/-- The ledger after a call; a call that raises leaves it as it is. -/
def call (ledger : PositionLedger ℚ) : Call → PositionLedger ℚ
  | .applyFill fill =>
      match ledger.applyFill fill with
      | .ok (ledger', _) => ledger'
      | .error _ => ledger
  | .markPositions prices => ledger.markPositions prices

/-- The ledger after these calls on an empty one. -/
def after (calls : List Call) : PositionLedger ℚ := calls.foldl call empty

lemma after_snoc (calls : List Call) (c : Call) : after (calls ++ [c]) = (after calls).call c := by
  rw [after, List.foldl_append]
  rfl

variable {ledger : PositionLedger ℚ} {fill : Fill ℚ} {side : OrderSide} {symbol : String}

lemma call_of_check (ledger : PositionLedger ℚ) (hc : checkFill fill = .ok side) :
    ledger.call (.applyFill fill) = (ledger.book fill side).1 := by
  rw [call, applyFill_of_check hc]

lemma call_of_error (ledger : PositionLedger ℚ) {e : PyError} (hc : checkFill fill = .error e) :
    ledger.call (.applyFill fill) = ledger := by
  rw [call, applyFill, hc]
  rfl

lemma WellFormed.call (h : ledger.WellFormed) (c : Call) : (ledger.call c).WellFormed := by
  cases c with
  | applyFill fill =>
      cases hc : checkFill fill with
      | error e => rwa [call_of_error ledger hc]
      | ok side =>
          obtain ⟨-, hq, hp, -⟩ := checkFill_ok.mp hc
          rw [call_of_check ledger hc]
          exact h.book hq hp
  | markPositions prices => exact h.markPositions prices

lemma wellFormed_after (calls : List Call) : (after calls).WellFormed := by
  induction calls using List.reverseRecOn with
  | nil => exact wellFormed_empty
  | append_singleton past c ih =>
      rw [after_snoc]
      exact ih.call c

/-! ## What a call does to a position -/

/-- The accepted fill of a symbol that a call is, and its side. -/
def fillOf (symbol : String) : Call → Option (Fill ℚ × OrderSide)
  | .applyFill fill =>
      match checkFill fill with
      | .ok side => if fill.symbol = symbol then some (fill, side) else none
      | .error _ => none
  | .markPositions _ => none

/-- The price a call marks a symbol at: there is one, and it is positive. -/
def appliedMark (symbol : String) : Call → Option ℚ
  | .applyFill _ => none
  | .markPositions prices => (prices.get? symbol).filter fun price => 0 < price

variable {c : Call}

lemma fillOf_eq_some : fillOf symbol c = some (fill, side)
    ↔ c = .applyFill fill ∧ checkFill fill = .ok side ∧ fill.symbol = symbol := by
  cases c with
  | markPositions prices => simp [fillOf]
  | applyFill other =>
      cases hc : checkFill other with
      | error e =>
          simp only [fillOf, hc, Call.applyFill.injEq]
          constructor
          · nofun
          · rintro ⟨rfl, hok, -⟩
            rw [hc] at hok
            cases hok
      | ok otherSide =>
          simp only [fillOf, hc, Call.applyFill.injEq, Option.ite_none_right_eq_some,
            Option.some.injEq, Prod.mk.injEq]
          constructor
          · rintro ⟨hs, rfl, rfl⟩
            exact ⟨rfl, hc, hs⟩
          · rintro ⟨rfl, hok, hs⟩
            rw [hc] at hok
            cases hok
            exact ⟨hs, rfl, rfl⟩

/-- The position of a symbol after a call: what a fill of it leaves, or the one there was, marked
or as it was. -/
inductive PositionAfter (ledger : PositionLedger ℚ) (symbol : String) (c : Call) :
    Position ℚ → Prop
  | filled (fill : Fill ℚ) (side : OrderSide) (hfill : fillOf symbol c = some (fill, side))
      (hkept : EPSILON < |(ledger.filled fill side).1.quantity|) :
      PositionAfter ledger symbol c (ledger.filled fill side).1
  | marked (p : Position ℚ) (hp : ledger.getPosition symbol = some p) (hfill : fillOf symbol c = none)
      (price : ℚ) (hmark : appliedMark symbol c = some price) :
      PositionAfter ledger symbol c (p.markToMarket price)
  | kept (p : Position ℚ) (hp : ledger.getPosition symbol = some p) (hfill : fillOf symbol c = none)
      (hmark : appliedMark symbol c = none) : PositionAfter ledger symbol c p

lemma getPosition_marked (ledger : PositionLedger ℚ) (prices : Dict String ℚ) (symbol : String) :
    (ledger.markPositions prices).getPosition symbol
      = (ledger.getPosition symbol).map fun p =>
          (appliedMark symbol (.markPositions prices)).elim p p.markToMarket := by
  rw [getPosition, markPositions, Dict.get?_mapVal, getPosition, appliedMark]
  congr 1
  funext p
  cases prices.get? symbol with
  | none => rfl
  | some price =>
      by_cases hpos : 0 < price <;> simp [Option.filter_some, hpos]

/-- **What a call can do to a position.** -/
theorem position_after_call {p : Position ℚ} (hp : (ledger.call c).getPosition symbol = some p) :
    PositionAfter ledger symbol c p := by
  cases c with
  | markPositions prices =>
      change (ledger.markPositions prices).getPosition symbol = some p at hp
      rw [getPosition_marked, Option.map_eq_some_iff] at hp
      obtain ⟨p₀, hp₀, rfl⟩ := hp
      cases hmark : appliedMark symbol (.markPositions prices) with
      | none => exact .kept p₀ hp₀ rfl hmark
      | some price => exact .marked p₀ hp₀ rfl price hmark
  | applyFill fill =>
      cases hc : checkFill fill with
      | error e =>
          rw [call_of_error ledger hc] at hp
          refine .kept p hp ?_ rfl
          simp only [fillOf, hc]
      | ok side =>
          rw [call_of_check ledger hc] at hp
          rcases eq_or_ne symbol fill.symbol with rfl | hne
          · rw [getPosition_book_self] at hp
            split_ifs at hp with hdust
            cases hp
            exact .filled fill side (fillOf_eq_some.mpr ⟨rfl, hc, rfl⟩) (not_le.mp hdust)
          · rw [getPosition_book_of_ne hne] at hp
            refine .kept p hp ?_ rfl
            simp only [fillOf, hc, if_neg hne.symm]

@[simp] lemma markToMarket_realizedPnl (p : Position ℚ) (price : ℚ) :
    (p.markToMarket price).realizedPnl = p.realizedPnl := by
  rw [Position.markToMarket]
  split_ifs <;> rfl

/-! ## What a call records -/

/-- The trade of a symbol that a call records in the ledger it is made on. -/
def tradeOf (symbol : String) (s : PositionLedger ℚ × Call) : Option (Trade ℚ) :=
  (fillOf symbol s.2).map fun f => (s.1.book f.1 f.2).2

/-! ## Since a symbol was absent -/

/-- The call meets a ledger without a position in the symbol. -/
def Absent (symbol : String) (s : PositionLedger ℚ × Call) : Prop := s.1.getPosition symbol = none

instance (symbol : String) : DecidablePred (Absent symbol) :=
  fun s => inferInstanceAs (Decidable (s.1.getPosition symbol = none))

/-- The calls since the symbol was last absent, each with the ledger it meets. -/
def sinceAbsent (symbol : String) (calls : List Call) : List (PositionLedger ℚ × Call) :=
  sinceLast (Absent symbol) (steps call empty calls)

lemma sinceAbsent_snoc (symbol : String) (calls : List Call) (c : Call) :
    sinceAbsent symbol (calls ++ [c])
      = if (after calls).getPosition symbol = none then [(after calls, c)]
        else sinceAbsent symbol calls ++ [(after calls, c)] := by
  rw [sinceAbsent, steps_snoc, sinceLast_snoc]
  rfl

end PositionLedger

end Aegis
