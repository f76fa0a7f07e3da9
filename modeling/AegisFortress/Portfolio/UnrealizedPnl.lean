import AegisFortress.Portfolio.LedgerCalls

/-!
# The unrealized profit of a position

Only a mark writes `unrealized_pnl`; a fill changes the quantity and the entry price below it and
leaves it as it was.  So the unrealized profit is the value at the last mark of what was held then,
and what the fills since then have shifted is missing from it (`unrealized_after`).
-/

namespace Aegis

namespace PositionLedger

open History

variable {ledger : PositionLedger ℚ} {symbol : String} {mark : ℚ}

/-! ## Marks -/

/-- The last price the position was marked at since it was opened from flat. -/
def lastMark (symbol : String) (calls : List Call) : Option ℚ :=
  ((sinceAbsent symbol calls).filterMap fun s => appliedMark symbol s.2).getLast?

/-- The calls from the last mark of the symbol on, each with the ledger it meets. -/
def sinceMark (symbol : String) (calls : List Call) : List (PositionLedger ℚ × Call) :=
  sinceLast (fun s => (appliedMark symbol s.2).isSome) (steps call empty calls)

lemma lastMark_snoc (symbol : String) (calls : List Call) (c : Call) :
    lastMark symbol (calls ++ [c]) = if (after calls).getPosition symbol = none then appliedMark symbol c
      else (appliedMark symbol c).or (lastMark symbol calls) := by
  rw [lastMark, sinceAbsent_snoc]
  split_ifs
  · cases h : appliedMark symbol c <;> simp [h]
  · rw [List.filterMap_append, List.getLast?_append]
    cases h : appliedMark symbol c <;> simp [h, lastMark]

lemma sinceMark_snoc (symbol : String) (calls : List Call) (c : Call) :
    sinceMark symbol (calls ++ [c])
      = if (appliedMark symbol c).isSome then [(after calls, c)]
        else sinceMark symbol calls ++ [(after calls, c)] := by
  rw [sinceMark, steps_snoc, sinceLast_snoc]
  rfl

/-- A mark writes the value of the position at its price. -/
lemma markToMarket_unrealized (p : Position ℚ) (price : ℚ) :
    (p.markToMarket price).unrealizedPnl = (price - p.averageEntry) * p.quantity := by
  rw [Position.markToMarket]
  split_ifs with hlong hshort
  · rfl
  · simp only [pyAbs_rat, abs_of_neg hshort]
    ring
  · have hflat : p.quantity = 0 := le_antisymm (not_lt.mp hlong) (not_lt.mp hshort)
    simp only [hflat, mul_zero]

/-! ## What fills shift -/

/-- What a fill adds to the value of a position at a mark price: it adds to the position at its own
price, reduces it at the entry price, or closes it and opens another one. -/
def fillShift (p : Position ℚ) (signedDelta price mark : ℚ) : ℚ :=
  if 0 ≤ p.quantity * signedDelta then (mark - price) * signedDelta
  else if |signedDelta| ≤ |p.quantity| then (mark - p.averageEntry) * signedDelta
  else (mark - price) * (p.quantity + signedDelta) - (mark - p.averageEntry) * p.quantity

/-- What a call adds to the value of the position, if it is an accepted fill of the symbol. -/
def valueShift (symbol : String) (mark : ℚ) (s : PositionLedger ℚ × Call) : ℚ :=
  match fillOf symbol s.2 with
  | some (fill, side) =>
      fillShift (s.1.found symbol) (side.signed fill.quantity) fill.price mark
  | none => 0

/-- What these calls add to the value of the position. -/
def shifted (symbol : String) (mark : ℚ) (part : List (PositionLedger ℚ × Call)) : ℚ :=
  (part.map (valueShift symbol mark)).sum

lemma shifted_snoc (part : List (PositionLedger ℚ × Call)) (s : PositionLedger ℚ × Call) :
    shifted symbol mark (part ++ [s]) = shifted symbol mark part + valueShift symbol mark s := by
  rw [shifted, List.map_append, List.sum_append, List.map_singleton, List.sum_singleton]
  rfl

lemma valueShift_quiet {c : Call} (hfill : fillOf symbol c = none) :
    valueShift symbol mark (ledger, c) = 0 := by
  simp only [valueShift, hfill]

section Fill

variable {p : Position ℚ} {signedDelta price fee : ℚ} {r : Position ℚ × ℚ}

lemma FillStep.unrealized (h : FillStep p signedDelta price fee r) :
    r.1.unrealizedPnl = p.unrealizedPnl := by
  cases h <;> rfl

/-- The value of a position at a mark price, before and after a fill that leaves one. -/
lemma FillStep.value (h : FillStep p signedDelta price fee r) (hopen : r.1.quantity ≠ 0)
    (mark : ℚ) : (mark - r.1.averageEntry) * r.1.quantity
      = (mark - p.averageEntry) * p.quantity + fillShift p signedDelta price mark := by
  cases h with
  | opened flat => simp [fillShift, flat]
  | added same =>
      have hcost := added_basis p.averageEntry price same
      simp only [fillShift, same.le, if_true]
      linear_combination -hcost
  | closed => exact absurd rfl hopen
  | flipped opp _ outside =>
      simp only [fillShift, not_le.mpr opp, not_le.mpr outside, if_false]
      ring
  | reduced opp _ inside =>
      simp only [fillShift, not_le.mpr opp, inside.le, if_false, if_true]
      ring

end Fill

/-- **The value of a position at the last mark** is its unrealized profit, and what the fills since
that mark have shifted. -/
theorem unrealized_after (calls : List Call) (symbol : String) (p : Position ℚ) (mark : ℚ)
    (hp : (after calls).getPosition symbol = some p) (hmark : lastMark symbol calls = some mark) :
    (mark - p.averageEntry) * p.quantity
      = p.unrealizedPnl + shifted symbol mark (sinceMark symbol calls) := by
  induction calls using List.reverseRecOn generalizing p with
  | nil => cases hp
  | append_singleton past c ih =>
      rw [after_snoc] at hp
      rw [lastMark_snoc] at hmark
      rw [sinceMark_snoc]
      cases position_after_call hp with
      | filled fill side hfill hkept =>
          obtain ⟨rfl, hc, rfl⟩ := fillOf_eq_some.mp hfill
          have hunmarked : appliedMark fill.symbol (.applyFill fill) = none := rfl
          rw [hunmarked] at hmark ⊢
          -- a position that was opened just now has not been marked
          split_ifs at hmark with habsent
          rw [Option.none_or] at hmark
          obtain ⟨p₀, hp₀⟩ := Option.ne_none_iff_exists'.mp habsent
          have hstep := (wellFormed_after past).live.filled_step side (checkFill_ok.mp hc).2.1
          rw [found_of_some hp₀] at hstep
          have hopen := abs_pos.mp (epsilon_pos.trans hkept)
          rw [hstep.value hopen mark, ih p₀ hp₀ hmark, hstep.unrealized,
            Option.isSome_none, if_neg Bool.false_ne_true, shifted_snoc]
          simp only [valueShift, hfill, found_of_some hp₀]
          ring
      | marked p₀ hp₀ hfill price hprice =>
          have hpresent : (after past).getPosition symbol ≠ none := by
            rw [hp₀]
            exact Option.some_ne_none p₀
          rw [if_neg hpresent, hprice, Option.some_or, Option.some.injEq] at hmark
          obtain ⟨hquantity, hentry, -⟩ := markToMarket_same p₀ price
          rw [hquantity, hentry, markToMarket_unrealized, hprice, Option.isSome_some, if_pos rfl,
            shifted, List.map_singleton, List.sum_singleton, valueShift_quiet hfill, add_zero, hmark]
      | kept _ hp₀ hfill hprice =>
          have hpresent : (after past).getPosition symbol ≠ none := by
            rw [hp₀]
            exact Option.some_ne_none p
          rw [if_neg hpresent, hprice, Option.none_or] at hmark
          rw [hprice, Option.isSome_none, if_neg Bool.false_ne_true, shifted_snoc,
            valueShift_quiet hfill, add_zero]
          exact ih p hp₀ hmark

end PositionLedger

end Aegis
