import AegisFortress.Portfolio.FillSplitting
import AegisFortress.Portfolio.LedgerCalls

/-!
# The range of the entry price

An entry price is an average of the prices paid since the position was opened or flipped, and stays
between the lowest and the highest of them (`entry_between`); with the shape of reachable ledgers
this is the invariant of every ledger the calls can lead to.
-/

namespace Aegis

namespace PositionLedger

open AverageCost History

variable {ledger : PositionLedger ℚ} {fill : Fill ℚ} {side : OrderSide} {symbol : String}

/-! ## The fills since a position was opened -/

/-- The price of an accepted fill of a symbol. -/
def fillPrice (symbol : String) (c : Call) : Option ℚ := (fillOf symbol c).map fun f => f.1.price

/-- The step opens the position from flat, or flips it. -/
def Opens (symbol : String) (s : PositionLedger ℚ × Call) : Prop :=
  let now := (s.1.call s.2).quantityOf symbol
  now ≠ 0 ∧ (s.1.quantityOf symbol = 0 ∨ s.1.quantityOf symbol * now < 0)

instance (symbol : String) : DecidablePred (Opens symbol) :=
  fun _ => inferInstanceAs (Decidable (_ ≠ _ ∧ (_ = _ ∨ _ < _)))

/-- These prices surround the entry price. -/
def Surround (prices : List ℚ) (entry : ℚ) : Prop :=
  (∃ low ∈ prices, low ≤ entry) ∧ ∃ high ∈ prices, entry ≤ high

/-- The prices of the accepted fills since the position was opened or flipped. -/
def pricesSince (symbol : String) (calls : List Call) : List ℚ :=
  (sinceLast (Opens symbol) (steps call empty calls)).filterMap fun s => fillPrice symbol s.2

lemma pricesSince_snoc (symbol : String) (calls : List Call) (c : Call) :
    pricesSince symbol (calls ++ [c])
      = (if Opens symbol (after calls, c) then [] else pricesSince symbol calls)
        ++ (fillPrice symbol c).toList := by
  rw [pricesSince, steps_snoc, sinceLast_snoc]
  change List.filterMap _ (if Opens symbol (after calls, c) then _ else _) = _
  split_ifs
  · cases hp : fillPrice symbol c <;> simp [hp]
  · rw [List.filterMap_append]
    cases hp : fillPrice symbol c <;> simp [hp, pricesSince]

lemma surround_singleton (price : ℚ) : Surround [price] price :=
  ⟨⟨price, List.mem_singleton_self _, le_rfl⟩, price, List.mem_singleton_self _, le_rfl⟩

/-- A trade at one more price keeps the entry price surrounded. -/
lemma Surround.entryAfter {prices : List ℚ} {x entry a price : ℚ} (h : Surround prices entry)
    (ha : 0 < a) : Surround (prices ++ [price]) (entryAfter x entry a price) := by
  obtain ⟨⟨low, hlow, hle⟩, high, hhigh, hge⟩ := h
  have hnew : price ∈ prices ++ [price] := List.mem_append_right _ (List.mem_singleton_self _)
  obtain ⟨hbelow, habove⟩ := entryAfter_between (x := x) ha
    ⟨min_le_right low price, le_max_right high price⟩
    fun _ => ⟨(min_le_left low price).trans hle, hge.trans (le_max_left high price)⟩
  refine ⟨⟨min low price, ?_, hbelow⟩, max high price, ?_, habove⟩
  · rcases min_choice low price with hmin | hmin
    · rw [hmin]
      exact List.mem_append_left _ hlow
    · rw [hmin]
      exact hnew
  · rcases max_choice high price with hmax | hmax
    · rw [hmax]
      exact List.mem_append_left _ hhigh
    · rw [hmax]
      exact hnew

lemma not_opens_of_same {c : Call}
    (hsame : (ledger.call c).quantityOf symbol = ledger.quantityOf symbol) :
    ¬ Opens symbol (ledger, c) := by
  rintro ⟨hopen, hflat | hflipped⟩
  · exact hopen (hsame.trans hflat)
  · simp only [hsame] at hflipped
    exact absurd hflipped (not_lt.mpr (mul_self_nonneg _))

/-- A call that is no fill of the symbol, and leaves its quantity, leaves the prices. -/
lemma pricesSince_quiet {calls : List Call} {c : Call}
    (hsame : ((after calls).call c).quantityOf symbol = (after calls).quantityOf symbol)
    (hfill : fillOf symbol c = none) : pricesSince symbol (calls ++ [c]) = pricesSince symbol calls := by
  rw [pricesSince_snoc, if_neg (not_opens_of_same hsame), fillPrice, hfill, Option.map_none,
    Option.toList_none, List.append_nil]

/-- **One fill**: it opens or flips the position at its price, or it is one more trade at average
cost. -/
lemma surround_filled {prices : List ℚ} (hl : ledger.WellFormed) (hc : checkFill fill = .ok side)
    (hrange : ∀ p, ledger.getPosition fill.symbol = some p → Surround prices p.averageEntry)
    (hkept : EPSILON < |(ledger.filled fill side).1.quantity|) :
    Surround ((if Opens fill.symbol (ledger, .applyFill fill) then [] else prices) ++ [fill.price])
      (ledger.filled fill side).1.averageEntry := by
  obtain ⟨-, hq, -, -⟩ := checkFill_ok.mp hc
  have hstep := hl.live.filled_step side hq
  have hopen : (ledger.filled fill side).1.quantity ≠ 0 := abs_pos.mp (epsilon_pos.trans hkept)
  obtain ⟨x, hx⟩ : ∃ x, (ledger.found fill.symbol).quantity = side.signed x :=
    ⟨_, (side.signed_signed _).symm⟩
  have hbefore : ledger.quantityOf fill.symbol = side.signed x := by
    rw [← found_quantity, hx]
  have hquantity := hstep.quantity.resolve_right fun h => hopen h.1
  have hnow : (ledger.call (.applyFill fill)).quantityOf fill.symbol
      = (ledger.filled fill side).1.quantity := by
    rw [call_of_check ledger hc, quantityOf, getPosition_book_self, if_neg (not_le.mpr hkept),
      Option.map_some, Option.getD_some]
  rw [hstep.entry hq hx hopen]
  split_ifs with hopens
  · have hpaid : AverageCost.entryAfter x (ledger.found fill.symbol).averageEntry
        fill.quantity fill.price = fill.price := by
      obtain ⟨-, hflat | hflipped⟩ := hopens
      · simp only [hbefore, OrderSide.signed_eq_zero] at hflat
        rw [hflat, entryAfter_zero hq.ne']
      · simp only [hnow, hbefore, hquantity, hx, ← OrderSide.signed_add,
          OrderSide.signed_mul_signed] at hflipped
        rcases mul_neg_iff.mp hflipped with ⟨hlong, hneg⟩ | ⟨hshort, hpos⟩
        · exact absurd (add_pos hlong hq) (not_lt.mpr hneg.le)
        · exact entryAfter_of_outside hshort hpos.le
    rw [hpaid, List.nil_append]
    exact surround_singleton fill.price
  · have hheld : ledger.quantityOf fill.symbol ≠ 0 := fun hflat =>
      hopens ⟨hnow.trans_ne hopen, Or.inl hflat⟩
    obtain ⟨p, hp⟩ := Option.ne_none_iff_exists'.mp (mt (hl.live.absent_iff fill.symbol).mp hheld)
    rw [found_of_some hp]
    exact (hrange p hp).entryAfter hq

/-- **The range of the entry price**, after any calls. -/
theorem entry_between (calls : List Call) (symbol : String) (p : Position ℚ)
    (hp : (after calls).getPosition symbol = some p) :
    Surround (pricesSince symbol calls) p.averageEntry := by
  induction calls using List.reverseRecOn generalizing p with
  | nil => cases hp
  | append_singleton past c ih =>
      rw [after_snoc] at hp
      have hsame : ∀ p₀, (after past).getPosition symbol = some p₀ → p.quantity = p₀.quantity →
          ((after past).call c).quantityOf symbol = (after past).quantityOf symbol := by
        intro p₀ hp₀ hquantity
        rw [quantityOf, quantityOf, hp, hp₀, Option.map_some, Option.map_some, hquantity]
      cases position_after_call hp with
      | filled fill side hfill hkept =>
          obtain ⟨rfl, hc, rfl⟩ := fillOf_eq_some.mp hfill
          rw [pricesSince_snoc, fillPrice, hfill, Option.map_some, Option.toList_some]
          exact surround_filled (wellFormed_after past) hc ih hkept
      | marked p₀ hp₀ hfill price =>
          obtain ⟨hquantity, hentry, -⟩ := markToMarket_same p₀ price
          rw [pricesSince_quiet (hsame p₀ hp₀ hquantity) hfill, hentry]
          exact ih p₀ hp₀
      | kept _ hp₀ hfill =>
          rw [pricesSince_quiet (hsame p hp₀ rfl) hfill]
          exact ih p hp₀

/-- After any calls on an empty ledger, every position that is stored is larger than dust, is
filed under its own symbol, and has a positive entry price that the prices of the fills since it
was opened from flat or flipped surround. -/
theorem ledger_representation (calls : List Call) (e : String × Position ℚ)
    (he : e ∈ (after calls).positions.entries) :
    EPSILON < |e.2.quantity| ∧ 0 < e.2.averageEntry ∧ e.1 = e.2.symbol
      ∧ Surround (pricesSince e.1 calls) e.2.averageEntry := by
  have hshape := wellFormed_after calls
  exact ⟨hshape.live e he, hshape.entry_pos e he, (hshape.keyed e he).symm,
    entry_between calls e.1 e.2 (Dict.get?_eq_some.mpr he)⟩

/-- A long built up at 100 and 120, marked, then flipped at 90 and added to at 80; one call raises
on the way. -/
def flippedCalls : List Call :=
  [.applyFill ⟨"BTC/USDT", "BUY", 1, 100, "SIM", 1, none, none⟩,
    .applyFill ⟨"BTC/USDT", "BUY", 1, 120, "SIM", 1, none, none⟩,
    .markPositions (.ofList [("BTC/USDT", 130)]),
    .applyFill ⟨"BTC/USDT", "HOLD", 1, 70, "SIM", 0, none, none⟩,
    .applyFill ⟨"BTC/USDT", "SELL", 3, 90, "SIM", 1, none, none⟩,
    .applyFill ⟨"BTC/USDT", "SELL", 1, 80, "SIM", 1, none, none⟩]

theorem ledger_representation_flipped : ∃ e ∈ (after flippedCalls).positions.entries,
    e.2.quantity = -2 ∧ e.2.averageEntry = 85 ∧ pricesSince "BTC/USDT" flippedCalls = [90, 80]
      ∧ Surround [90, 80] 85 := by
  have he : ("BTC/USDT", ⟨"BTC/USDT", -2, 85, -41, 40⟩)
      ∈ (after flippedCalls).positions.entries := by
    decide +kernel
  have hprices : pricesSince "BTC/USDT" flippedCalls = [90, 80] := by
    decide +kernel
  exact ⟨_, he, rfl, rfl, hprices, hprices ▸ (ledger_representation flippedCalls _ he).2.2.2⟩

end PositionLedger

end Aegis
