import AegisFortress.Lib.BookWalk
import AegisFortress.Models.Order

/-!
# The impact of an order on the price

`websocket_ob.py`.  `price_impact` walks the levels of one side with an amount of dollars and compares
the average of the prices with the mid price.  The average it takes is the one by dollars; the price that
is paid for a unit is the dollars spent over the units traded, which is another one unless all is traded at
one price (`BookWalk.money_mean_eq_iff`).

`price_impact_vwap_iff` says for which orders the two are the same, and in which books a larger order
never has the smaller impact: an order beyond the book counts as two percent, whatever the book is like.
-/

namespace Aegis.Pro

open BookWalk

/-- `OrderBookSnapshot`; a level is a price and a quantity. -/
structure OrderBookSnapshot where
  bids : List (ℚ × ℚ)
  asks : List (ℚ × ℚ)

namespace OrderBookSnapshot

variable (book : OrderBookSnapshot) (side : OrderSide)

def bestBid : Option ℚ := book.bids.head?.map Prod.fst

def bestAsk : Option ℚ := book.asks.head?.map Prod.fst

/-- `mid`; a price of zero is no price. -/
def mid : Option ℚ :=
  match book.bestBid, book.bestAsk with
  | some bid, some ask => if bid ≠ 0 ∧ ask ≠ 0 then some ((bid + ask) / 2) else none
  | _, _ => none

/-- The levels that an order walks. -/
def levels : List (ℚ × ℚ) :=
  match side with
  | .buy => book.asks
  | .sell => book.bids

/-- The loop of `price_impact`, over `remaining` and `wsum`. -/
def walk : List (ℚ × ℚ) → ℚ → ℚ → ℚ × ℚ
  | [], remaining, wsum => (remaining, wsum)
  | (price, qty) :: levels, remaining, wsum =>
      let fill := min remaining (qty * price)
      let wsum := wsum + fill * price
      let remaining := remaining - fill
      if remaining ≤ 0 then (remaining, wsum) else walk levels remaining wsum

/-- `price_impact(side, usd_qty)`. -/
def priceImpact (usdQty : ℚ) : ℚ :=
  match book.mid with
  | none => 0
  | some mid =>
      if mid = 0 then 0
      else
        let (remaining, wsum) := walk (book.levels side) usdQty 0
        if 0 < remaining then 1 / 50
        else
          let avgPrice := wsum / usdQty
          match side with
          | .buy => (avgPrice - mid) / mid
          | .sell => (mid - avgPrice) / mid

/-! ## Books and orders -/

/-- A book that can be traded: both sides quote positive prices and quantities, best price first, and the
best bid is below the best ask. -/
structure Sound : Prop where
  positive : ∀ level ∈ book.bids ++ book.asks, 0 < level.1 ∧ 0 < level.2
  bids : book.bids.Pairwise fun a b => b.1 ≤ a.1
  asks : book.asks.Pairwise fun a b => a.1 ≤ b.1
  uncrossed : ∃ bid ask, book.bestBid = some bid ∧ book.bestAsk = some ask ∧ bid < ask

/-- The levels with the dollars they take. -/
def ladder : List (ℚ × ℚ) := (book.levels side).map fun level => (level.1, level.2 * level.1)

/-- The dollars a side can absorb. -/
def depth : ℚ := BookWalk.depth (book.ladder side)

/-- The dollars a side can absorb at its best price. -/
def depthAtBest : ℚ :=
  match (book.levels side).head? with
  | some best => depthAt best.1 (book.ladder side)
  | none => 0

/-- **The price of a unit**: the dollars spent over the units traded, level by level. -/
def vwap (usd : ℚ) : ℚ := spent (fills (book.ladder side) usd) / units (fills (book.ladder side) usd)

/-- The mean of all prices of a side, by dollars. -/
def meanPrice : ℚ := worth (book.ladder side) / book.depth side

/-! ## The loop -/

variable {book side}

lemma walk_eq {levels : List (ℚ × ℚ)} (hopen : Open (levels.map fun l => (l.1, l.2 * l.1)))
    {remaining : ℚ} (hremaining : 0 < remaining) (wsum : ℚ) : walk levels remaining wsum
      = (remaining - spent (fills (levels.map fun l => (l.1, l.2 * l.1)) remaining),
        wsum + worth (fills (levels.map fun l => (l.1, l.2 * l.1)) remaining)) := by
  induction levels generalizing remaining wsum with
  | nil =>
      rw [walk, List.map_nil, fills, spent, worth, List.map_nil, List.map_nil, List.sum_nil, sub_zero,
        add_zero]
  | cons level rest ih =>
      obtain ⟨price, qty⟩ := level
      rw [List.map_cons] at hopen ⊢
      rcases le_or_gt remaining (qty * price) with hin | hout
      · rw [walk, min_eq_left hin, fills_inside hin]
        simp only [sub_self, le_refl, if_true, spent, worth, List.map_singleton, List.sum_singleton]
      · have hmore : ¬ remaining - qty * price ≤ 0 := not_le.mpr (sub_pos.mpr hout)
        rw [walk, min_eq_right hout.le, fills_beyond hout]
        simp only [hmore, if_false]
        rw [ih hopen.tail (sub_pos.mpr hout)]
        simp only [spent, worth, List.map_cons, List.sum_cons, sub_sub, add_assoc]

namespace Sound

variable (h : book.Sound) (side)

include h

lemma priced : Priced (book.ladder side) := by
  intro entry hentry
  obtain ⟨level, hlevel, rfl⟩ := List.mem_map.mp hentry
  refine (h.positive level ?_).1
  cases side with
  | buy => exact List.mem_append_right _ hlevel
  | sell => exact List.mem_append_left _ hlevel

lemma ladder_open : Open (book.ladder side) := by
  intro entry hentry
  obtain ⟨level, hlevel, rfl⟩ := List.mem_map.mp hentry
  have hpos : 0 < level.1 ∧ 0 < level.2 := by
    refine h.positive level ?_
    cases side with
    | buy => exact List.mem_append_right _ hlevel
    | sell => exact List.mem_append_left _ hlevel
  exact mul_pos hpos.2 hpos.1

/-- The prices around the mid price. -/
lemma exists_mid : ∃ bid ask, book.bestBid = some bid ∧ book.bestAsk = some ask ∧ 0 < bid
    ∧ bid < ask ∧ book.mid = some ((bid + ask) / 2) := by
  obtain ⟨bid, ask, hbid, hask, hlt⟩ := h.uncrossed
  have hpos : 0 < bid := by
    obtain ⟨level, hlevel, rfl⟩ := Option.map_eq_some_iff.mp hbid
    exact (h.positive level (List.mem_append_left _ (List.mem_of_head? hlevel))).1
  refine ⟨bid, ask, hbid, hask, hpos, hlt, ?_⟩
  rw [mid, hbid, hask]
  exact if_pos ⟨hpos.ne', (hpos.trans hlt).ne'⟩

/-- The best price of a side, its levels, and on which side of the mid price they are. -/
lemma exists_best : ∃ best rest mid, book.levels side = best :: rest ∧ book.mid = some mid ∧ 0 < mid
    ∧ ∀ entry ∈ book.ladder side, 0 < side.signed (entry.1 - mid) := by
  obtain ⟨bid, ask, hbid, hask, hpos, hlt, hmid⟩ := h.exists_mid
  obtain ⟨bestBid, hbids, rfl⟩ := Option.map_eq_some_iff.mp hbid
  obtain ⟨bestAsk, hasks, rfl⟩ := Option.map_eq_some_iff.mp hask
  obtain ⟨restBids, hbids⟩ := List.head?_eq_some_iff.mp hbids
  obtain ⟨restAsks, hasks⟩ := List.head?_eq_some_iff.mp hasks
  have hmidpos : 0 < (bestBid.1 + bestAsk.1) / 2 := by linarith
  cases side with
  | buy =>
      refine ⟨bestAsk, restAsks, _, hasks, hmid, hmidpos, ?_⟩
      intro entry hentry
      obtain ⟨level, hlevel, rfl⟩ := List.mem_map.mp hentry
      have hsorted := h.asks
      have hle : bestAsk.1 ≤ level.1 := by
        simp only [levels, hasks, List.pairwise_cons] at hlevel hsorted
        rcases List.mem_cons.mp hlevel with rfl | hrest
        · exact le_rfl
        · exact hsorted.1 level hrest
      simp only [OrderSide.signed]
      linarith
  | sell =>
      refine ⟨bestBid, restBids, _, hbids, hmid, hmidpos, ?_⟩
      intro entry hentry
      obtain ⟨level, hlevel, rfl⟩ := List.mem_map.mp hentry
      have hsorted := h.bids
      have hle : level.1 ≤ bestBid.1 := by
        simp only [levels, hbids, List.pairwise_cons] at hlevel hsorted
        rcases List.mem_cons.mp hlevel with rfl | hrest
        · exact le_rfl
        · exact hsorted.1 level hrest
      simp only [OrderSide.signed]
      linarith

lemma depth_pos : 0 < book.depth side := by
  obtain ⟨best, rest, mid, hlevels, -⟩ := h.exists_best side
  have hopen := h.ladder_open side
  rw [ladder, hlevels, List.map_cons] at hopen
  rw [depth, ladder, hlevels, List.map_cons, depth_cons]
  exact add_pos_of_pos_of_nonneg hopen.head (depth_nonneg hopen.tail)

/-- **The impact of an order**: by the mean of the prices by dollars, and two percent beyond the book. -/
lemma priceImpact_eq {mid : ℚ} (hmid : book.mid = some mid) (hpos : 0 < mid) {usd : ℚ} (husd : 0 < usd) :
    book.priceImpact side usd
      = if usd ≤ book.depth side
        then side.signed (worth (fills (book.ladder side) usd) / usd - mid) / mid else 1 / 50 := by
  have hwalk := walk_eq (h.ladder_open side) husd 0
  rw [show (book.levels side).map (fun l => (l.1, l.2 * l.1)) = book.ladder side from rfl,
    spent_fills (h.ladder_open side) husd.le, zero_add] at hwalk
  simp only [priceImpact, hmid, hpos.ne', if_false, hwalk]
  rcases le_or_gt usd (book.depth side) with hin | hout
  · have hall : min usd (BookWalk.depth (book.ladder side)) = usd := min_eq_left hin
    rw [if_pos hin, hall, sub_self, if_neg (lt_irrefl 0)]
    cases side with
    | buy => rfl
    | sell => simp only [OrderSide.signed, neg_sub]
  · have hsome : min usd (BookWalk.depth (book.ladder side)) = book.depth side := min_eq_right hout.le
    rw [if_neg (not_le.mpr hout), hsome, if_pos (sub_pos.mpr hout)]

lemma spent_eq {usd : ℚ} (husd : 0 < usd) (hdepth : usd ≤ book.depth side) :
    spent (fills (book.ladder side) usd) = usd := by
  rw [spent_fills (h.ladder_open side) husd.le]
  exact min_eq_left hdepth

lemma fills_priced (usd : ℚ) : Priced (fills (book.ladder side) usd) := by
  intro entry hentry
  obtain ⟨level, hlevel, hprice⟩ := mem_fills hentry
  exact hprice ▸ h.priced side level hlevel

lemma ladder_ne_nil : book.ladder side ≠ [] := by
  obtain ⟨best, rest, mid, hlevels, -⟩ := h.exists_best side
  rw [ladder, hlevels]
  exact List.cons_ne_nil _ _

/-- A unit is paid on its side of the mid price. -/
lemma signed_vwap_pos {mid : ℚ} (hside : ∀ entry ∈ book.ladder side, 0 < side.signed (entry.1 - mid))
    {usd : ℚ} (husd : 0 < usd) : 0 < side.signed (book.vwap side usd - mid) := by
  have hopen := fills_pos (h.ladder_open side) husd
  have hpriced := h.fills_priced side usd
  have hne := fills_ne_nil (h.ladder_ne_nil side) usd
  have hunits := units_pos hopen hpriced hne
  have hterm : ∀ entry ∈ fills (book.ladder side) usd,
      0 < side.signed (entry.2 / entry.1 * (entry.1 - mid)) := by
    intro entry hentry
    obtain ⟨level, hlevel, hprice⟩ := mem_fills hentry
    rw [mul_comm, OrderSide.signed_mul]
    exact mul_pos (hprice ▸ hside level hlevel) (div_pos (hopen entry hentry) (hpriced entry hentry))
  have hsum : 0 < side.signed ((fills (book.ladder side) usd).map
      fun e => e.2 / e.1 * (e.1 - mid)).sum := by
    obtain ⟨first, rest, hfills⟩ := List.exists_cons_of_ne_nil hne
    rw [hfills] at hterm ⊢
    cases side with
    | buy =>
        refine List.sum_pos _ ?_ (by simp)
        intro x hx
        obtain ⟨e, he, rfl⟩ := List.mem_map.mp hx
        exact hterm e he
    | sell =>
        rw [OrderSide.signed_sell, List.sum_neg, List.map_map]
        refine List.sum_pos _ ?_ (by simp)
        intro x hx
        obtain ⟨e, he, rfl⟩ := List.mem_map.mp hx
        exact hterm e he
  rw [← spent_sub _ (fun e he => (hpriced e he).ne')] at hsum
  have hsplit : book.vwap side usd - mid
      = (spent (fills (book.ladder side) usd) - mid * units (fills (book.ladder side) usd))
        * (units (fills (book.ladder side) usd))⁻¹ := by
    rw [vwap]
    field_simp
  rw [hsplit, OrderSide.signed_mul]
  exact mul_pos hsum (inv_pos.mpr hunits)

/-- Only the first levels of a side have its best price. -/
lemma best_first {best : ℚ × ℚ} {rest : List (ℚ × ℚ)} (hlevels : book.levels side = best :: rest) :
    (book.ladder side).Pairwise fun a b => a.1 ≠ best.1 → b.1 ≠ best.1 := by
  rw [ladder, List.pairwise_map]
  cases side with
  | buy =>
      have hsorted : (book.levels .buy).Pairwise fun a b => a.1 ≤ b.1 := h.asks
      have hleast : ∀ level ∈ book.levels .buy, best.1 ≤ level.1 := by
        rw [hlevels, List.pairwise_cons] at hsorted
        rw [hlevels]
        intro level hlevel
        rcases List.mem_cons.mp hlevel with rfl | hrest
        · exact le_rfl
        · exact hsorted.1 level hrest
      refine hsorted.imp_of_mem ?_
      intro a b ha _ hab hne heq
      exact hne (le_antisymm (hab.trans heq.le) (hleast a ha))
  | sell =>
      have hsorted : (book.levels .sell).Pairwise fun a b => b.1 ≤ a.1 := h.bids
      have hmost : ∀ level ∈ book.levels .sell, level.1 ≤ best.1 := by
        rw [hlevels, List.pairwise_cons] at hsorted
        rw [hlevels]
        intro level hlevel
        rcases List.mem_cons.mp hlevel with rfl | hrest
        · exact le_rfl
        · exact hsorted.1 level hrest
      refine hsorted.imp_of_mem ?_
      intro a b ha _ hab hne heq
      exact hne (le_antisymm (hmost a ha) (heq.ge.trans hab))

/-- **Which orders are paid the mean price**: those that the best price absorbs. -/
lemma mean_eq_vwap_iff {usd : ℚ} (husd : 0 < usd) (hdepth : usd ≤ book.depth side) :
    worth (fills (book.ladder side) usd) / usd = book.vwap side usd
      ↔ usd ≤ book.depthAtBest side := by
  obtain ⟨best, rest, mid, hlevels, -⟩ := h.exists_best side
  have hopen := fills_pos (h.ladder_open side) husd
  have hne := fills_ne_nil (h.ladder_ne_nil side) usd
  have hiff := money_mean_eq_iff hopen (h.fills_priced side usd) hne
  rw [h.spent_eq side husd hdepth] at hiff
  have hat : book.depthAtBest side = depthAt best.1 (book.ladder side) := by
    simp only [depthAtBest, hlevels, List.head?_cons]
  rw [vwap, h.spent_eq side husd hdepth, hiff, hat,
    ← fills_at_first_iff (h.ladder_open side) husd hdepth (h.best_first side hlevels)]
  constructor
  · rintro ⟨price, hprice⟩
    have hfirst : (best.1, min usd (best.2 * best.1)) ∈ fills (book.ladder side) usd := by
      rw [ladder, hlevels, List.map_cons, fills]
      exact List.mem_cons_self
    rw [hprice _ hfirst]
    exact hprice
  · exact fun hbest => ⟨best.1, hbest⟩

/-- A larger order is paid a worse mean price. -/
lemma signed_mean_mono {usd usd' : ℚ} (husd : 0 < usd) (hle : usd ≤ usd')
    (hdepth : usd' ≤ book.depth side) :
    side.signed (worth (fills (book.ladder side) usd) / usd)
      ≤ side.signed (worth (fills (book.ladder side) usd') / usd') := by
  have husd' := husd.trans_le hle
  cases side with
  | buy =>
      have hsorted : (book.ladder .buy).Pairwise fun a b => a.1 ≤ b.1 := List.pairwise_map.mpr h.asks
      have hmore := worth_mul_le (h.ladder_open .buy) hsorted husd.le hle hdepth
      simp only [OrderSide.signed_buy]
      rwa [div_le_div_iff₀ husd husd']
  | sell =>
      have hsorted : (book.ladder .sell).Pairwise fun a b => b.1 ≤ a.1 := List.pairwise_map.mpr h.bids
      have hmore := worth_mul_ge (h.ladder_open .sell) hsorted husd.le hle hdepth
      simp only [OrderSide.signed_sell, neg_le_neg_iff]
      rwa [div_le_div_iff₀ husd' husd]

end Sound

/-- **The impact of an order.**  It is the deviation of the price of a unit from the mid price exactly
for the orders that the best price absorbs; and a larger order never has the smaller impact exactly
where the impact of the whole side is not above the two percent of an order beyond the book. -/
theorem price_impact_vwap_iff (book : OrderBookSnapshot) (h : book.Sound) (side : OrderSide) :
    ∃ mid, book.mid = some mid
      ∧ (∀ usd, 0 < usd → usd ≤ book.depth side →
        (book.priceImpact side usd = |book.vwap side usd - mid| / mid ↔ usd ≤ book.depthAtBest side))
      ∧ ((∀ usd usd', 0 < usd → usd ≤ usd' →
          book.priceImpact side usd ≤ book.priceImpact side usd')
        ↔ side.signed (book.meanPrice side - mid) / mid ≤ 1 / 50) := by
  obtain ⟨best, rest, mid, hlevels, hmid, hpos, hside⟩ := h.exists_best side
  refine ⟨mid, hmid, ?_, ?_⟩
  · intro usd husd hdepth
    have habs : |book.vwap side usd - mid| = side.signed (book.vwap side usd - mid) := by
      rw [← OrderSide.abs_signed side, abs_of_pos (h.signed_vwap_pos side hside husd)]
    rw [h.priceImpact_eq side hmid hpos husd, if_pos hdepth, habs, div_left_inj' hpos.ne',
      ← h.mean_eq_vwap_iff side husd hdepth]
    constructor
    · intro heq
      have hback := congrArg side.signed heq
      rw [OrderSide.signed_signed, OrderSide.signed_signed] at hback
      exact sub_left_injective hback
    · exact fun heq => by rw [heq]
  · have hwhole : worth (fills (book.ladder side) (book.depth side)) / book.depth side
        = book.meanPrice side := by
      rw [meanPrice, depth, fills_all (h.ladder_open side) (h.ladder_ne_nil side)]
    have hshift : ∀ a b : ℚ, side.signed a ≤ side.signed b →
        side.signed (a - mid) / mid ≤ side.signed (b - mid) / mid := by
      intro a b hab
      rw [div_le_div_iff_of_pos_right hpos, sub_eq_add_neg, sub_eq_add_neg, OrderSide.signed_add,
        OrderSide.signed_add]
      exact add_le_add_left hab _
    constructor
    · intro hmono
      have hnext := hmono (book.depth side) (book.depth side + 1) (h.depth_pos side) (by linarith)
      rw [h.priceImpact_eq side hmid hpos (h.depth_pos side), if_pos le_rfl, hwhole,
        h.priceImpact_eq side hmid hpos (by linarith [h.depth_pos side]),
        if_neg (not_le.mpr (lt_add_one _))] at hnext
      exact hnext
    · intro hfull usd usd' husd hle
      rw [h.priceImpact_eq side hmid hpos husd, h.priceImpact_eq side hmid hpos (husd.trans_le hle)]
      rcases le_or_gt usd' (book.depth side) with hin | hout
      · rw [if_pos (hle.trans hin), if_pos hin]
        exact hshift _ _ (h.signed_mean_mono side husd hle hin)
      · rw [if_neg (not_le.mpr hout)]
        split_ifs with hin
        · refine le_trans ?_ hfull
          rw [← hwhole]
          exact hshift _ _ (h.signed_mean_mono side husd hin le_rfl)
        · exact le_rfl

/-- One unit is offered at 100 and one at 110. -/
def twoLevels : OrderBookSnapshot where
  bids := [(99, 1)]
  asks := [(100, 1), (110, 1)]

lemma twoLevels_sound : twoLevels.Sound where
  positive := by simp [twoLevels]
  bids := by simp [twoLevels]
  asks := by norm_num [twoLevels]
  uncrossed := ⟨99, 100, rfl, rfl, by norm_num⟩

/-- An order of 100 takes the first level, and pays the mean price. -/
theorem price_impact_vwap_iff_two_levels : twoLevels.Sound
    ∧ ∃ mid, twoLevels.mid = some mid
      ∧ twoLevels.priceImpact .buy 100 = |twoLevels.vwap .buy 100 - mid| / mid := by
  obtain ⟨mid, hmid, hvwap, -⟩ := price_impact_vwap_iff twoLevels twoLevels_sound .buy
  refine ⟨twoLevels_sound, mid, hmid, (hvwap 100 (by norm_num) ?_).mpr ?_⟩
  · simp only [depth, BookWalk.depth, ladder, levels, twoLevels]
    norm_num
  · simp only [depthAtBest, depthAt, ladder, levels, twoLevels, BookWalk.depth]
    norm_num

/-- An order of 210 takes both levels: it pays 105 for a unit, and is reported with the mean price
22100 / 210.  An order of 211 is reported with less. -/
theorem price_impact_not_vwap : twoLevels.mid = some (199 / 2)
    ∧ twoLevels.vwap .buy 210 = 105
    ∧ twoLevels.priceImpact .buy 210 ≠ |twoLevels.vwap .buy 210 - 199 / 2| / (199 / 2)
    ∧ twoLevels.priceImpact .buy 211 < twoLevels.priceImpact .buy 210 := by
  decide +kernel

end OrderBookSnapshot

end Aegis.Pro
