import AegisFortress.Feeds.MarketDataNormalizer
import AegisFortress.Lib.BestFirst
import Mathlib.Algebra.Order.BigOperators.Group.List
import Mathlib.Order.Bounds.Basic

/-!
# The levels of an order book

What `normalize_orderbook` makes of a payload of any shape.  A level is valid when it names a positive
price and a positive quantity.  Each side is left with its best valid levels, as many as the depth
allows, and the payload is refused exactly when one side has none (`orderbook_normalized`).
-/

namespace Aegis

/-! ## Depths -/

namespace OrderBookSnapshot

lemma foldl_depth (total : ℚ) (levels : List (OrderBookLevel ℚ)) :
    levels.foldl (fun total level => total + level.quantity) total
      = total + (levels.map OrderBookLevel.quantity).sum := by
  induction levels generalizing total with
  | nil => simp
  | cons level rest ih => simp [ih, add_assoc]

lemma depthOf_nonneg {levels : List (OrderBookLevel ℚ)} (h : ∀ level ∈ levels, 0 < level.quantity) :
    0 ≤ depthOf levels := by
  rw [depthOf, foldl_depth, zero_add]
  refine List.sum_nonneg fun quantity hquantity => ?_
  obtain ⟨level, hlevel, rfl⟩ := List.mem_map.mp hquantity
  exact (h level hlevel).le

/-- The imbalance of a book without negative quantities. -/
lemma imbalance_mem (book : OrderBookSnapshot ℚ) (hbids : 0 ≤ book.bidDepth)
    (hasks : 0 ≤ book.askDepth) : -1 ≤ book.imbalance ∧ book.imbalance ≤ 1 := by
  rw [imbalance]
  split_ifs with htotal
  · constructor <;> norm_num
  · rw [not_le] at htotal
    rw [le_div_iff₀ htotal, div_le_iff₀ htotal]
    constructor <;> linarith

end OrderBookSnapshot

namespace MarketDataNormalizer

open BestFirst

variable {lib : StdLib ℚ} {now : DateTime} {exchange symbol : String}
  {items : List (String × PyVal ℚ)} {depth : ℤ} {levels : PyVal ℚ}

/-! ## Valid levels -/

/-- `payload.get(key, [])`. -/
def sideOf (items : List (String × PyVal ℚ)) (key : String) : PyVal ℚ :=
  (items.lookup key).getD (.list [])

/-- The levels of a side that can be read, in the order they come. -/
def validLevels : PyVal ℚ → List (OrderBookLevel ℚ)
  | .list items => items.filterMap parseLevel
  | _ => []

/-- The side is no list, or none of its levels is valid. -/
def Unusable (levels : PyVal ℚ) : Prop :=
  (∀ items, levels ≠ .list items) ∨ validLevels levels = []

lemma unusable_iff : Unusable levels ↔ validLevels levels = [] := by
  constructor
  · rintro (hlist | hnone)
    · cases levels with
      | list items => exact absurd rfl (hlist items)
      | _ => rfl
    · exact hnone
  · exact Or.inr

/-- A value names a positive number. -/
def Names (value : PyVal ℚ) (x : ℚ) : Prop := safeFloat value = some x ∧ 0 < x

/-- The value under the first of the keys that is neither missing nor empty nor zero. -/
def firstGiven (fields : List (String × PyVal ℚ)) (keys : List String) : Option (PyVal ℚ) :=
  (keys.map (PyVal.get fields)).find? PyVal.truthy

section Names

variable {item value first rest : PyVal ℚ} {values : List (PyVal ℚ)} {level : OrderBookLevel ℚ} {x : ℚ}

/-- What `or` passes over names nothing. -/
lemma Names.truthy (h : Names value x) : value.truthy = true := by
  obtain ⟨hread, hpos⟩ := h
  rw [← Bool.not_eq_false]
  intro hfalse
  have hzero : ∀ y : ℚ, y = 0 → some y = some x → False := by
    rintro y rfl hy
    exact hpos.ne (Option.some.inj hy)
  cases value with
  | bool b =>
      have hb : b = false := hfalse
      exact hzero _ (by rw [hb]; rfl) hread
  | int n =>
      have hn : n = 0 := by simpa [PyVal.truthy] using hfalse
      exact hzero _ (by rw [hn]; rfl) hread
  | float y =>
      have hy : y = 0 := by simpa [PyVal.truthy] using hfalse
      exact hzero y hy hread
  | str s =>
      have hs : s = "" := by simpa [PyVal.truthy] using hfalse
      have hnone : safeFloat (.str "" : PyVal ℚ) = none := by decide +kernel
      rw [hs, hnone] at hread
      cases hread
  | _ => cases hread

lemma names_iff_find : Names value x
    ↔ ∃ given, [value].find? PyVal.truthy = some given ∧ Names given x := by
  constructor
  · intro h
    exact ⟨value, by simp [h.truthy], h⟩
  · rintro ⟨given, hgiven, h⟩
    rwa [← List.mem_singleton.mp (List.mem_of_find?_eq_some hgiven)]

lemma names_orElse (hrest : Names rest x
      ↔ ∃ given, values.find? PyVal.truthy = some given ∧ Names given x) :
    Names (first.orElse rest) x
      ↔ ∃ given, (first :: values).find? PyVal.truthy = some given ∧ Names given x := by
  rw [PyVal.orElse, List.find?_cons]
  cases hfirst : first.truthy with
  | true => simp
  | false => simpa using hrest

lemma orElse_assoc (a b c : PyVal ℚ) : (a.orElse b).orElse c = a.orElse (b.orElse c) := by
  cases ha : a.truthy <;> simp [PyVal.orElse, ha]

/-- What a dictionary names as a price and as a quantity. -/
lemma names_levelFields (fields : List (String × PyVal ℚ)) :
    (Names (levelFields (.dict fields)).1 x
        ↔ ∃ given, firstGiven fields ["price", "p"] = some given ∧ Names given x)
      ∧ (Names (levelFields (.dict fields)).2 x
        ↔ ∃ given, firstGiven fields ["quantity", "amount", "q"] = some given ∧ Names given x) := by
  constructor
  · exact names_orElse names_iff_find
  · rw [levelFields, orElse_assoc]
    exact names_orElse (names_orElse names_iff_find)

lemma parseLevel_iff_fields : parseLevel item = some level
    ↔ Names (levelFields item).1 level.price ∧ Names (levelFields item).2 level.quantity := by
  rw [parseLevel, Names, Names]
  cases hprice : safeFloat (levelFields item).1 with
  | none => simp [hprice]
  | some price =>
      cases hquantity : safeFloat (levelFields item).2 with
      | none => simp [hprice, hquantity]
      | some quantity =>
          obtain ⟨levelPrice, levelQuantity⟩ := level
          simp only [hprice, hquantity, Option.ite_none_left_eq_some, not_or, not_le,
            Option.some.injEq, OrderBookLevel.mk.injEq]
          constructor
          · rintro ⟨⟨hp, hq⟩, rfl, rfl⟩
            exact ⟨⟨rfl, hp⟩, rfl, hq⟩
          · rintro ⟨⟨rfl, hp⟩, rfl, hq⟩
            exact ⟨⟨hp, hq⟩, rfl, rfl⟩

/-- **The levels that can be read**: a list or a tuple that begins with a positive price and a
positive quantity, and a dictionary that has them under the keys an exchange may use. -/
lemma parseLevel_eq_some : parseLevel item = some level ↔
    (∃ price quantity rest,
      (item = .list (price :: quantity :: rest) ∨ item = .tuple (price :: quantity :: rest))
        ∧ Names price level.price ∧ Names quantity level.quantity)
    ∨ ∃ fields price quantity, item = .dict fields
        ∧ firstGiven fields ["price", "p"] = some price
        ∧ firstGiven fields ["quantity", "amount", "q"] = some quantity
        ∧ Names price level.price ∧ Names quantity level.quantity := by
  have hnothing : ∀ x, ¬ Names .none x := fun x h => by cases h.1
  rw [parseLevel_iff_fields]
  constructor
  · rintro ⟨hprice, hquantity⟩
    cases item with
    | list entries =>
        match entries with
        | price :: quantity :: rest => exact Or.inl ⟨price, quantity, rest, Or.inl rfl, hprice, hquantity⟩
        | [] => exact absurd hprice (hnothing _)
        | [_] => exact absurd hprice (hnothing _)
    | tuple entries =>
        match entries with
        | price :: quantity :: rest => exact Or.inl ⟨price, quantity, rest, Or.inr rfl, hprice, hquantity⟩
        | [] => exact absurd hprice (hnothing _)
        | [_] => exact absurd hprice (hnothing _)
    | dict fields =>
        obtain ⟨price, hfirst, hprice⟩ := (names_levelFields fields).1.mp hprice
        obtain ⟨quantity, hsecond, hquantity⟩ := (names_levelFields fields).2.mp hquantity
        exact Or.inr ⟨fields, price, quantity, rfl, hfirst, hsecond, hprice, hquantity⟩
    | _ => exact absurd hprice (hnothing _)
  · rintro (⟨price, quantity, rest, rfl | rfl, hprice, hquantity⟩
      | ⟨fields, price, quantity, rfl, hfirst, hsecond, hprice, hquantity⟩)
    · exact ⟨hprice, hquantity⟩
    · exact ⟨hprice, hquantity⟩
    · exact ⟨(names_levelFields fields).1.mpr ⟨price, hfirst, hprice⟩,
        (names_levelFields fields).2.mpr ⟨quantity, hsecond, hquantity⟩⟩

/-- A level that can be read is a positive quantity at a positive price. -/
lemma parseLevel_pos (h : parseLevel item = some level) : 0 < level.price ∧ 0 < level.quantity := by
  obtain ⟨hprice, hquantity⟩ := parseLevel_iff_fields.mp h
  exact ⟨hprice.2, hquantity.2⟩

end Names

lemma validLevels_pos {level : OrderBookLevel ℚ} (h : level ∈ validLevels levels) :
    0 < level.price ∧ 0 < level.quantity := by
  cases levels with
  | list items =>
      obtain ⟨item, -, hparse⟩ := List.mem_filterMap.mp h
      exact parseLevel_pos hparse
  | _ => exact absurd h List.not_mem_nil

/-! ## The best of them -/

/-- Bids are ranked from the highest price down. -/
def bidFirst (a b : OrderBookLevel ℚ) : Prop := b.price ≤ a.price

/-- Asks are ranked from the lowest price up. -/
def askFirst (a b : OrderBookLevel ℚ) : Prop := a.price ≤ b.price

instance : DecidableRel bidFirst := fun a b => inferInstanceAs (Decidable (b.price ≤ a.price))

instance : DecidableRel askFirst := fun a b => inferInstanceAs (Decidable (a.price ≤ b.price))

lemma bidFirst_ranking : Ranking bidFirst :=
  ⟨fun _ _ _ hab hbc => le_trans hbc hab, fun a b => le_total b.price a.price⟩

lemma askFirst_ranking : Ranking askFirst :=
  ⟨fun _ _ _ hab hbc => le_trans hab hbc, fun a b => le_total a.price b.price⟩

/-- How many of the levels `[:depth]` keeps. -/
def room (depth : ℤ) (count : ℕ) : ℕ := if 0 ≤ depth then depth.toNat else count - depth.natAbs

lemma sliceTo_eq {τ : Type} (l : List τ) (depth : ℤ) :
    sliceTo l depth = l.take (room depth l.length) := by
  rw [sliceTo, room]
  split_ifs <;> rfl

lemma room_of_nonneg (hdepth : 0 ≤ depth) (count : ℕ) : room depth count = depth.toNat :=
  if_pos hdepth

lemma normalizeLevels_bids (levels : PyVal ℚ) (depth : ℤ) : normalizeLevels levels true depth
    = best bidFirst (room depth (validLevels levels).length) (validLevels levels) := by
  cases levels with
  | list items =>
      rw [normalizeLevels, sliceTo_eq, List.length_mergeSort]
      rfl
  | _ => simp [normalizeLevels, validLevels, best]

lemma normalizeLevels_asks (levels : PyVal ℚ) (depth : ℤ) : normalizeLevels levels false depth
    = best askFirst (room depth (validLevels levels).length) (validLevels levels) := by
  cases levels with
  | list items =>
      rw [normalizeLevels, sliceTo_eq, List.length_mergeSort]
      rfl
  | _ => simp [normalizeLevels, validLevels, best]

/-! ## The figures of a book -/

/-- The prices of the valid levels of a side. -/
def prices (levels : PyVal ℚ) : Set ℚ := {price | ∃ level ∈ validLevels levels, level.price = price}

/-- The first level of a side is the first of all its valid levels. -/
lemma bestOf_first {r : OrderBookLevel ℚ → OrderBookLevel ℚ → Prop} [DecidableRel r]
    (hr : Ranking r) {n : ℕ} (hn : 0 < n) {kept : List (OrderBookLevel ℚ)}
    (h : Best r n (validLevels levels) kept) (hsome : validLevels levels ≠ []) :
    ∃ level ∈ validLevels levels, level.price = OrderBookSnapshot.bestOf kept
      ∧ ∀ other ∈ validLevels levels, r level other := by
  cases kept with
  | nil => exact absurd ((h.eq_nil_iff hn).mp rfl) hsome
  | cons level rest => exact ⟨level, h.mem List.mem_cons_self, rfl, h.first_le hr rfl⟩

lemma bestOf_bids {n : ℕ} (hn : 0 < n) {kept : List (OrderBookLevel ℚ)}
    (h : Best bidFirst n (validLevels levels) kept) (hsome : validLevels levels ≠ []) :
    IsGreatest (prices levels) (OrderBookSnapshot.bestOf kept) := by
  obtain ⟨level, hlevel, hprice, hfirst⟩ := bestOf_first bidFirst_ranking hn h hsome
  refine ⟨⟨level, hlevel, hprice⟩, ?_⟩
  rintro _ ⟨other, hother, rfl⟩
  rw [← hprice]
  exact hfirst other hother

lemma bestOf_asks {n : ℕ} (hn : 0 < n) {kept : List (OrderBookLevel ℚ)}
    (h : Best askFirst n (validLevels levels) kept) (hsome : validLevels levels ≠ []) :
    IsLeast (prices levels) (OrderBookSnapshot.bestOf kept) := by
  obtain ⟨level, hlevel, hprice, hfirst⟩ := bestOf_first askFirst_ranking hn h hsome
  refine ⟨⟨level, hlevel, hprice⟩, ?_⟩
  rintro _ ⟨other, hother, rfl⟩
  rw [← hprice]
  exact hfirst other hother

/-- A price of a valid level is positive. -/
lemma prices_pos {price : ℚ} (h : price ∈ prices levels) : 0 < price := by
  obtain ⟨level, hlevel, rfl⟩ := h
  exact (validLevels_pos hlevel).1

/-! ## The book -/

/-- What is known of a book that has been made of a payload. -/
structure Normalized (items : List (String × PyVal ℚ)) (depth : ℤ) (book : OrderBookSnapshot ℚ) :
    Prop where
  bids : Best bidFirst depth.toNat (validLevels (sideOf items "bids")) book.bids
  asks : Best askFirst depth.toNat (validLevels (sideOf items "asks")) book.asks
  bestBid : IsGreatest (prices (sideOf items "bids")) book.bestBid
  bestAsk : IsLeast (prices (sideOf items "asks")) book.bestAsk
  imbalance : -1 ≤ book.imbalance ∧ book.imbalance ≤ 1

/-- The book before it is checked. -/
def bookOf (exchange symbol : String) (items : List (String × PyVal ℚ)) (depth : ℤ)
    (timestamp : DateTime) : OrderBookSnapshot ℚ where
  symbol := symbol
  exchange := exchange
  bids := best bidFirst depth.toNat (validLevels (sideOf items "bids"))
  asks := best askFirst depth.toNat (validLevels (sideOf items "asks"))
  sequence := extractInt items ["nonce", "sequence", "lastUpdateId"]
  timestamp := timestamp

lemma normalizeOrderbook_eq {timestamp : DateTime} (hdepth : 0 ≤ depth)
    (htime : extractTimestamp lib now (timestampOf items) = .ok timestamp) :
    normalizeOrderbook lib now exchange symbol (.dict items) depth
      = if (bookOf exchange symbol items depth timestamp).isValid then
          .ok (bookOf exchange symbol items depth timestamp)
        else .error ⟨.valueError, s!"Invalid normalized order book for {exchange}:{symbol}"⟩ := by
  rw [normalizeOrderbook, htime]
  simp only [normalizeLevels_bids, normalizeLevels_asks, room_of_nonneg hdepth]
  rfl

lemma bookOf_normalized {timestamp : DateTime} (hdepth : 0 < depth)
    (hbids : validLevels (sideOf items "bids") ≠ []) (hasks : validLevels (sideOf items "asks") ≠ []) :
    Normalized items depth (bookOf exchange symbol items depth timestamp) := by
  have hn : 0 < depth.toNat := by omega
  have hbest := best_best bidFirst_ranking depth.toNat (validLevels (sideOf items "bids"))
  have hbest' := best_best askFirst_ranking depth.toNat (validLevels (sideOf items "asks"))
  refine ⟨hbest, hbest', bestOf_bids hn hbest hbids, bestOf_asks hn hbest' hasks, ?_⟩
  refine OrderBookSnapshot.imbalance_mem _ ?_ ?_
  · exact OrderBookSnapshot.depthOf_nonneg fun level h => (validLevels_pos (hbest.mem h)).2
  · exact OrderBookSnapshot.depthOf_nonneg fun level h => (validLevels_pos (hbest'.mem h)).2

/-- The only thing that can be wrong with a book is an empty side. -/
lemma bookOf_valid_iff {timestamp : DateTime} (hexchange : exchange ≠ "") (hsymbol : symbol ≠ "")
    (hdepth : 0 < depth) :
    (bookOf exchange symbol items depth timestamp).isValid
      ↔ validLevels (sideOf items "bids") ≠ [] ∧ validLevels (sideOf items "asks") ≠ [] := by
  constructor
  · rintro ⟨-, -, hbids, hasks, -, -⟩
    refine ⟨fun hnone => ?_, fun hnone => ?_⟩
    · simp [bookOf, best, hnone] at hbids
    · simp [bookOf, best, hnone] at hasks
  · rintro ⟨hbids, hasks⟩
    have hn : 0 < depth.toNat := by omega
    have hnormal : Normalized items depth (bookOf exchange symbol items depth timestamp) :=
      bookOf_normalized hdepth hbids hasks
    refine ⟨hsymbol, hexchange, ?_, ?_, prices_pos hnormal.bestBid.1, prices_pos hnormal.bestAsk.1⟩
    · exact List.length_pos_iff.mpr fun hnil => hbids ((hnormal.bids.eq_nil_iff hn).mp hnil)
    · exact List.length_pos_iff.mpr fun hnil => hasks ((hnormal.asks.eq_nil_iff hn).mp hnil)

/-- **What becomes of an order book.**  A payload whose time can be read is refused exactly when one
side is no list or has no valid level; otherwise its best levels are kept. -/
theorem orderbook_normalized (hexchange : exchange ≠ "") (hsymbol : symbol ≠ "") (hdepth : 1 ≤ depth)
    (htime : ∃ timestamp, extractTimestamp lib now (timestampOf items) = .ok timestamp) :
    ((∃ e, normalizeOrderbook lib now exchange symbol (.dict items) depth = .error e)
        ↔ Unusable (sideOf items "bids") ∨ Unusable (sideOf items "asks"))
      ∧ ∀ book, normalizeOrderbook lib now exchange symbol (.dict items) depth = .ok book →
        Normalized items depth book := by
  obtain ⟨timestamp, htime⟩ := htime
  have hdepth : 0 < depth := hdepth
  have hvalid : (bookOf exchange symbol items depth timestamp).isValid ↔ _ :=
    bookOf_valid_iff hexchange hsymbol hdepth
  rw [normalizeOrderbook_eq hdepth.le htime, unusable_iff, unusable_iff]
  by_cases h : (bookOf exchange symbol items depth timestamp).isValid
  · obtain ⟨hbids, hasks⟩ := hvalid.mp h
    rw [if_pos h]
    refine ⟨by simp [hbids, hasks], fun book hbook => ?_⟩
    cases hbook
    exact bookOf_normalized hdepth hbids hasks
  · rw [if_neg h]
    refine ⟨iff_of_true ⟨_, rfl⟩ ?_, fun book hbook => by cases hbook⟩
    rw [hvalid, not_and_or, not_not, not_not] at h
    exact h

/-- A library that takes every text of a date for the beginning of the epoch. -/
def epochLib : StdLib ℚ where
  iso := epochFormat
  loads text :=
    if text = "null" then .ok .none else .error ⟨.valueError, "Expecting value: line 1 column 1"⟩
  fromTimestamp seconds := .ok ⟨⌊seconds * 1000000⌋⟩
  fromIsoformat _ := .ok ⟨0⟩
  intOfFloat x := .ok (x.num.tdiv x.den)

/-- Bids of every shape, one of them unreadable. -/
def mixed : List (String × PyVal ℚ) :=
  [("bids", .list [.tuple [.float 100, .str "2"], .list [.str "high", .int 1],
      .dict [("p", .int 101), ("amount", .float 1)], .list [.float 99, .float 3]]),
    ("asks", .list [.list [.float 103, .float 1]])]

lemma mixed_ok (now : DateTime) :
    normalizeOrderbook epochLib now "binance" "BTC/USDT" (.dict mixed) 2
      = .ok (bookOf "binance" "BTC/USDT" mixed 2 now) := by
  have hsides : validLevels (sideOf mixed "bids") ≠ [] ∧ validLevels (sideOf mixed "asks") ≠ [] :=
    ⟨fun hnone => absurd (congrArg List.length hnone) (by decide +kernel),
      fun hnone => absurd (congrArg List.length hnone) (by decide +kernel)⟩
  have htime : extractTimestamp epochLib now (timestampOf mixed) = .ok now := rfl
  rw [normalizeOrderbook_eq (by decide) htime,
    if_pos ((bookOf_valid_iff (by decide) (by decide) (by decide)).mpr hsides)]

theorem orderbook_normalized_mixed :
    Normalized mixed 2 (bookOf "binance" "BTC/USDT" mixed 2 ⟨0⟩) :=
  (orderbook_normalized (by decide) (by decide) (by decide) ⟨⟨0⟩, rfl⟩).2 _ (mixed_ok ⟨0⟩)

end MarketDataNormalizer

end Aegis
