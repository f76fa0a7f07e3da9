import Mathlib.Algebra.BigOperators.Group.List.Basic
import Mathlib.Algebra.BigOperators.Ring.List
import Mathlib.Algebra.Order.BigOperators.Group.List
import Mathlib.Algebra.Order.Field.Basic
import Mathlib.Tactic.FieldSimp
import Mathlib.Tactic.Linarith
import Mathlib.Tactic.Ring
import Mathlib.Tactic.LinearCombination

/-!
# Walking a book

A budget is spent level by level; a level has a value and room for some money.  `fills` lists what is
spent where.  When later levels are worth more, a larger budget is worth more on average
(`worth_mul_le`): the step behind it is that more money is worth at least the value of the first
level (`worth_increment`).

Money that is spent at prices buys units.  The mean of the prices by money is never below the money
spent for a unit, and the two agree only when everything is bought at one price
(`money_mean_eq_iff`); in a sorted book that is the first one (`fills_at_first_iff`).
-/

namespace BookWalk

variable {K : Type} [Field K] [LinearOrder K]

/-- What is spent at each level, next to its value. -/
def fills : List (K × K) → K → List (K × K)
  | [], _ => []
  | (value, room) :: rest, budget =>
      (value, min budget room) ::
        if budget - min budget room ≤ 0 then [] else fills rest (budget - min budget room)

/-- The money spent. -/
def spent (entries : List (K × K)) : K := (entries.map Prod.snd).sum

/-- What the money is worth. -/
def worth (entries : List (K × K)) : K := (entries.map fun e => e.2 * e.1).sum

/-- The units that the money buys, where the values are prices. -/
def units (entries : List (K × K)) : K := (entries.map fun e => e.2 / e.1).sum

/-- All the room there is. -/
def depth (levels : List (K × K)) : K := (levels.map Prod.snd).sum

/-- Every level has room. -/
def Open (levels : List (K × K)) : Prop := ∀ level ∈ levels, 0 < level.2

variable {value room budget more : K} {rest levels : List (K × K)}

lemma Open.tail (h : Open ((value, room) :: rest)) : Open rest :=
  fun level hlevel => h level (List.mem_cons_of_mem _ hlevel)

lemma Open.head (h : Open ((value, room) :: rest)) : 0 < room := h _ List.mem_cons_self

omit [LinearOrder K] in
lemma depth_cons : depth ((value, room) :: rest) = room + depth rest := List.sum_cons

lemma fills_ne_nil (h : levels ≠ []) (budget : K) : fills levels budget ≠ [] := by
  obtain ⟨⟨value, room⟩, rest, rfl⟩ := List.exists_cons_of_ne_nil h
  exact List.cons_ne_nil _ _

/-- The budget fits into the first level. -/
lemma fills_inside (h : budget ≤ room) : fills ((value, room) :: rest) budget = [(value, budget)] := by
  rw [fills, min_eq_left h, sub_self, if_pos le_rfl]

lemma worth_inside (h : budget ≤ room) :
    worth (fills ((value, room) :: rest) budget) = budget * value := by
  rw [fills_inside h, worth, List.map_singleton, List.sum_singleton]

/-- Nothing is worth nothing. -/
lemma worth_nothing (h : Open levels) : worth (fills levels 0) = 0 := by
  cases levels with
  | nil => rfl
  | cons level rest =>
      obtain ⟨value, room⟩ := level
      rw [worth_inside h.head.le, zero_mul]

variable [IsStrictOrderedRing K]

lemma depth_nonneg (h : Open levels) : 0 ≤ depth levels := by
  refine List.sum_nonneg fun room hroom => ?_
  obtain ⟨level, hlevel, rfl⟩ := List.mem_map.mp hroom
  exact (h level hlevel).le

/-- The first level is filled, and the rest of the budget goes on. -/
lemma fills_beyond (h : room < budget) : fills ((value, room) :: rest) budget
    = (value, room) :: fills rest (budget - room) := by
  rw [fills, min_eq_right h.le, if_neg (not_le.mpr (sub_pos.mpr h))]

lemma worth_beyond (h : room < budget) : worth (fills ((value, room) :: rest) budget)
    = room * value + worth (fills rest (budget - room)) := by
  rw [fills_beyond h, worth, List.map_cons, List.sum_cons]
  rfl

/-- **All of the budget is spent**, as far as there is room. -/
lemma spent_fills (h : Open levels) (hbudget : 0 ≤ budget) :
    spent (fills levels budget) = min budget (depth levels) := by
  induction levels generalizing budget with
  | nil => exact (min_eq_right hbudget).symm
  | cons level rest ih =>
      obtain ⟨value, room⟩ := level
      rw [depth_cons]
      rcases le_or_gt budget room with hle | hlt
      · rw [fills_inside hle, min_eq_left (hle.trans (le_add_of_nonneg_right (depth_nonneg h.tail)))]
        exact List.sum_singleton
      · rw [fills_beyond hlt, spent, List.map_cons, List.sum_cons]
        change room + spent (fills rest (budget - room)) = _
        rw [ih h.tail (sub_nonneg.mpr hlt.le), ← min_add_add_left, add_sub_cancel]

/-- Something is spent at every level that is reached. -/
lemma fills_pos (h : Open levels) (hbudget : 0 < budget) : Open (fills levels budget) := by
  induction levels generalizing budget with
  | nil => exact fun level hlevel => absurd hlevel List.not_mem_nil
  | cons level rest ih =>
      obtain ⟨value, room⟩ := level
      rcases le_or_gt budget room with hle | hlt
      · rw [fills_inside hle]
        intro entry hentry
        rw [List.mem_singleton.mp hentry]
        exact hbudget
      · rw [fills_beyond hlt]
        intro entry hentry
        rcases List.mem_cons.mp hentry with rfl | hrest
        · exact h.head
        · exact ih h.tail (sub_pos.mpr hlt) entry hrest

/-- What is paid is a price of the book. -/
lemma mem_fills {entry : K × K} (h : entry ∈ fills levels budget) :
    ∃ level ∈ levels, level.1 = entry.1 := by
  induction levels generalizing budget with
  | nil => exact absurd h List.not_mem_nil
  | cons level rest ih =>
      obtain ⟨value, room⟩ := level
      rcases le_or_gt budget room with hle | hlt
      · rw [fills_inside hle, List.mem_singleton] at h
        exact ⟨_, List.mem_cons_self, by rw [h]⟩
      · rw [fills_beyond hlt, List.mem_cons] at h
        rcases h with rfl | hrest
        · exact ⟨_, List.mem_cons_self, rfl⟩
        · obtain ⟨level, hlevel, hvalue⟩ := ih hrest
          exact ⟨level, List.mem_cons_of_mem _ hlevel, hvalue⟩

/-- All the room is taken. -/
lemma fills_all (h : Open levels) (hne : levels ≠ []) : fills levels (depth levels) = levels := by
  induction levels with
  | nil => exact absurd rfl hne
  | cons level rest ih =>
      obtain ⟨value, room⟩ := level
      rw [depth_cons]
      by_cases hrest : rest = []
      · subst hrest
        rw [depth, List.map_nil, List.sum_nil, add_zero, fills_inside le_rfl]
      · have hpos : 0 < depth rest := by
          obtain ⟨next, others, rfl⟩ := List.exists_cons_of_ne_nil hrest
          rw [depth_cons]
          exact add_pos_of_pos_of_nonneg h.tail.head (depth_nonneg h.tail.tail)
        rw [fills_beyond (lt_add_of_pos_right room hpos), add_sub_cancel_left, ih h.tail hrest]

/-! ## A larger budget -/

/-- More money is worth at least the least value. -/
lemma worth_increment (h : Open levels) (hleast : ∀ level ∈ levels, value ≤ level.1)
    (hbudget : 0 ≤ budget) (hmore : budget ≤ more) (hdepth : more ≤ depth levels) :
    (more - budget) * value ≤ worth (fills levels more) - worth (fills levels budget) := by
  induction levels generalizing budget more with
  | nil =>
      have hzero : more = 0 := le_antisymm hdepth (hbudget.trans hmore)
      have hzero' : budget = 0 := le_antisymm (hmore.trans hdepth) hbudget
      rw [hzero, hzero', sub_self, sub_self, zero_mul]
  | cons level rest ih =>
      obtain ⟨first, room⟩ := level
      rw [depth_cons] at hdepth
      have hfirst : value ≤ first := hleast _ List.mem_cons_self
      have hrest : ∀ level ∈ rest, value ≤ level.1 :=
        fun level hlevel => hleast level (List.mem_cons_of_mem _ hlevel)
      rcases le_or_gt more room with hin | hout
      · rw [worth_inside hin, worth_inside (hmore.trans hin), ← sub_mul]
        exact mul_le_mul_of_nonneg_left hfirst (sub_nonneg.mpr hmore)
      · rw [worth_beyond hout]
        rcases le_or_gt budget room with hin' | hout'
        · -- the budget ends in this level, the larger one behind it
          have hstep := ih h.tail hrest le_rfl (sub_nonneg.mpr hout.le) (by linarith)
          have hhere : (room - budget) * value ≤ (room - budget) * first :=
            mul_le_mul_of_nonneg_left hfirst (sub_nonneg.mpr hin')
          rw [worth_nothing h.tail] at hstep
          rw [worth_inside hin']
          linarith
        · rw [worth_beyond hout']
          have hstep := ih h.tail hrest (sub_nonneg.mpr hout'.le) (sub_le_sub_right hmore room)
            (by linarith)
          linarith

/-- **A larger budget is worth more on average**, where the values increase. -/
theorem worth_mul_le (h : Open levels) (hsorted : levels.Pairwise fun a b => a.1 ≤ b.1)
    (hbudget : 0 ≤ budget) (hmore : budget ≤ more) (hdepth : more ≤ depth levels) :
    worth (fills levels budget) * more ≤ worth (fills levels more) * budget := by
  induction levels generalizing budget more with
  | nil => exact le_of_eq (by rw [fills, fills, worth, List.map_nil, List.sum_nil, zero_mul, zero_mul])
  | cons level rest ih =>
      obtain ⟨value, room⟩ := level
      rw [depth_cons] at hdepth
      rw [List.pairwise_cons] at hsorted
      rcases le_or_gt more room with hin | hout
      · rw [worth_inside hin, worth_inside (hmore.trans hin)]
        linarith
      · rw [worth_beyond hout]
        have hleast : ∀ level ∈ rest, value ≤ level.1 := fun level hlevel => hsorted.1 level hlevel
        have hafter : more - room ≤ depth rest := by linarith
        rcases le_or_gt budget room with hin' | hout'
        · have hstep := worth_increment h.tail hleast le_rfl (sub_nonneg.mpr hout.le) hafter
          rw [worth_inside hin']
          rw [worth_nothing h.tail, sub_zero, sub_zero] at hstep
          have hscaled := mul_le_mul_of_nonneg_right hstep hbudget
          linarith
        · rw [worth_beyond hout']
          have hlater : budget - room ≤ more - room := sub_le_sub_right hmore room
          have hstep := ih h.tail hsorted.2 (sub_nonneg.mpr hout'.le) hlater hafter
          have hmoney := worth_increment h.tail hleast (sub_nonneg.mpr hout'.le) hlater hafter
          have hscaled := mul_le_mul_of_nonneg_right hmoney h.head.le
          linarith

/-- Other values for the same levels. -/
lemma fills_map (f : K → K) (levels : List (K × K)) (budget : K) :
    fills (levels.map fun level => (f level.1, level.2)) budget
      = (fills levels budget).map fun entry => (f entry.1, entry.2) := by
  induction levels generalizing budget with
  | nil => rfl
  | cons level rest ih =>
      obtain ⟨value, room⟩ := level
      rcases le_or_gt budget room with hin | hout
      · rw [List.map_cons, fills_inside hin, fills_inside hin]
        rfl
      · rw [List.map_cons, fills_beyond hout, fills_beyond hout, ih]
        rfl

/-- **A larger budget is worth less on average**, where the values decrease. -/
theorem worth_mul_ge (h : Open levels) (hsorted : levels.Pairwise fun a b => b.1 ≤ a.1)
    (hbudget : 0 ≤ budget) (hmore : budget ≤ more) (hdepth : more ≤ depth levels) :
    worth (fills levels more) * budget ≤ worth (fills levels budget) * more := by
  have hworth : ∀ money, worth (fills (levels.map fun level => (-level.1, level.2)) money)
      = -worth (fills levels money) := by
    intro money
    rw [fills_map, worth, List.map_map, worth, List.sum_neg, List.map_map]
    exact congrArg List.sum (List.map_congr_left fun e _ => mul_neg e.2 e.1)
  have hopen : Open (levels.map fun level => (-level.1, level.2)) := by
    intro level hlevel
    obtain ⟨l, hl, rfl⟩ := List.mem_map.mp hlevel
    exact h l hl
  have hroom : depth (levels.map fun level => (-level.1, level.2)) = depth levels := by
    rw [depth, List.map_map]
    rfl
  have hup := worth_mul_le hopen
    (List.pairwise_map.mpr (hsorted.imp fun hab => neg_le_neg hab)) hbudget hmore (hroom ▸ hdepth)
  rw [hworth, hworth, neg_mul, neg_mul] at hup
  exact neg_le_neg_iff.mp hup

/-! ## Prices -/

/-- Every price is positive. -/
def Priced (entries : List (K × K)) : Prop := ∀ entry ∈ entries, 0 < entry.1

omit [LinearOrder K] [IsStrictOrderedRing K] in
/-- How far the prices are from one price, by money. -/
lemma sum_deviation (entries : List (K × K)) (hprices : ∀ entry ∈ entries, entry.1 ≠ 0) (a : K) :
    (entries.map fun e => e.2 * (e.1 - a) ^ 2 / e.1).sum
      = worth entries - 2 * a * spent entries + a ^ 2 * units entries := by
  induction entries with
  | nil => simp [worth, spent, units]
  | cons entry rest ih =>
      have hprice : entry.1 ≠ 0 := hprices entry List.mem_cons_self
      have hrest := ih fun e he => hprices e (List.mem_cons_of_mem _ he)
      have hentry : entry.2 * (entry.1 - a) ^ 2 / entry.1
          = entry.2 * entry.1 - 2 * a * entry.2 + a ^ 2 * (entry.2 / entry.1) := by
        field_simp
        ring
      simp only [worth, spent, units, List.map_cons, List.sum_cons] at hrest ⊢
      rw [hrest, hentry]
      ring

omit [LinearOrder K] [IsStrictOrderedRing K] in
/-- What is paid beyond one price, unit by unit. -/
lemma spent_sub (entries : List (K × K)) (hprices : ∀ entry ∈ entries, entry.1 ≠ 0) (a : K) :
    spent entries - a * units entries = (entries.map fun e => e.2 / e.1 * (e.1 - a)).sum := by
  induction entries with
  | nil => simp [spent, units]
  | cons entry rest ih =>
      have hprice : entry.1 ≠ 0 := hprices entry List.mem_cons_self
      have hrest := ih fun e he => hprices e (List.mem_cons_of_mem _ he)
      have hentry : entry.2 / entry.1 * (entry.1 - a) = entry.2 - a * (entry.2 / entry.1) := by
        field_simp
      simp only [spent, units, List.map_cons, List.sum_cons] at hrest ⊢
      rw [← hrest, hentry]
      ring

lemma spent_pos {entries : List (K × K)} (h : Open entries) (hne : entries ≠ []) :
    0 < spent entries := by
  obtain ⟨entry, rest, rfl⟩ := List.exists_cons_of_ne_nil hne
  rw [spent, List.map_cons, List.sum_cons]
  exact add_pos_of_pos_of_nonneg h.head (depth_nonneg h.tail)

lemma units_pos {entries : List (K × K)} (h : Open entries) (hprices : Priced entries)
    (hne : entries ≠ []) : 0 < units entries := by
  obtain ⟨entry, rest, rfl⟩ := List.exists_cons_of_ne_nil hne
  rw [units, List.map_cons, List.sum_cons]
  refine add_pos_of_pos_of_nonneg
    (div_pos (h _ List.mem_cons_self) (hprices _ List.mem_cons_self)) (List.sum_nonneg ?_)
  intro x hx
  obtain ⟨e, he, rfl⟩ := List.mem_map.mp hx
  exact (div_pos (h e (List.mem_cons_of_mem _ he)) (hprices e (List.mem_cons_of_mem _ he))).le

lemma deviation_nonneg {entries : List (K × K)} (h : Open entries) (hprices : Priced entries)
    (a : K) : ∀ e ∈ entries, 0 ≤ e.2 * (e.1 - a) ^ 2 / e.1 :=
  fun e he => div_nonneg (mul_nonneg (h e he).le (sq_nonneg _)) (hprices e he).le

/-- **The two agree only at one price.** -/
theorem money_mean_eq_iff {entries : List (K × K)} (h : Open entries) (hprices : Priced entries)
    (hne : entries ≠ []) : worth entries / spent entries = spent entries / units entries
      ↔ ∃ price, ∀ entry ∈ entries, entry.1 = price := by
  have hspent := spent_pos h hne
  have hunits := units_pos h hprices hne
  constructor
  · intro heq
    refine ⟨spent entries / units entries, fun entry hentry => ?_⟩
    -- no entry deviates from that price, since the deviations sum to zero
    have hsum := sum_deviation entries (fun e he => (hprices e he).ne')
      (spent entries / units entries)
    have hsquare : (spent entries / units entries) ^ 2 * units entries
        = spent entries / units entries * spent entries := by
      field_simp
    have hworth : worth entries = spent entries / units entries * spent entries := by
      rw [← heq, div_mul_cancel₀ _ hspent.ne']
    have hzero : (entries.map fun e => e.2 * (e.1 - spent entries / units entries) ^ 2 / e.1).sum = 0 := by
      rw [hsum, hsquare, hworth]
      ring
    have hle : entry.2 * (entry.1 - spent entries / units entries) ^ 2 / entry.1 ≤ 0 := by
      rw [← hzero]
      refine List.single_le_sum ?_ _ (List.mem_map.mpr ⟨entry, hentry, rfl⟩)
      intro x hx
      obtain ⟨e, he, rfl⟩ := List.mem_map.mp hx
      exact deviation_nonneg h hprices _ e he
    have hnone := le_antisymm hle (deviation_nonneg h hprices _ entry hentry)
    have hsq : (entry.1 - spent entries / units entries) ^ 2 = 0 := by
      rcases div_eq_zero_iff.mp hnone with hnum | hden
      · exact (mul_eq_zero.mp hnum).resolve_left (h entry hentry).ne'
      · exact absurd hden (hprices entry hentry).ne'
    exact sub_eq_zero.mp (pow_eq_zero_iff two_ne_zero |>.mp hsq)
  · rintro ⟨price, hprice⟩
    have hworth : worth entries = spent entries * price := by
      rw [worth, spent, ← List.sum_map_mul_right]
      exact congrArg List.sum (List.map_congr_left fun e he => by rw [hprice e he])
    have hunit : units entries = spent entries / price := by
      rw [units, spent, div_eq_mul_inv, ← List.sum_map_mul_right]
      exact congrArg List.sum (List.map_congr_left fun e he => by rw [hprice e he, div_eq_mul_inv])
    have hpos : 0 < price := by
      obtain ⟨entry, rest, rfl⟩ := List.exists_cons_of_ne_nil hne
      exact hprice entry List.mem_cons_self ▸ hprices entry List.mem_cons_self
    rw [hworth, hunit, mul_div_cancel_left₀ _ hspent.ne']
    field_simp

/-! ## The first price -/

/-- The room at one price. -/
def depthAt (price : K) (levels : List (K × K)) : K := depth (levels.filter fun level => level.1 = price)

/-- **A budget is spent at one price** when the levels of that price have room for it; no other level
may have a price that comes back later. -/
theorem fills_at_first_iff {price : K} (h : Open levels) (hbudget : 0 < budget)
    (hdepth : budget ≤ depth levels)
    (hsorted : levels.Pairwise fun a b => a.1 ≠ price → b.1 ≠ price) :
    (∀ entry ∈ fills levels budget, entry.1 = price) ↔ budget ≤ depthAt price levels := by
  induction levels generalizing budget with
  | nil => exact absurd (hbudget.trans_le hdepth) (lt_irrefl 0)
  | cons level rest ih =>
      obtain ⟨value, room⟩ := level
      rw [List.pairwise_cons] at hsorted
      rw [depth_cons] at hdepth
      by_cases hvalue : value = price
      · have hat : depthAt price ((value, room) :: rest) = room + depthAt price rest := by
          rw [depthAt, List.filter_cons_of_pos (by simpa using hvalue), depth_cons, depthAt]
        rw [hat]
        rcases le_or_gt budget room with hin | hout
        · rw [fills_inside hin]
          have hnonneg : 0 ≤ depthAt price rest :=
            depth_nonneg fun level hlevel => h.tail level (List.mem_of_mem_filter hlevel)
          exact ⟨fun _ => hin.trans (le_add_of_nonneg_right hnonneg),
            fun _ entry hentry => by rw [List.mem_singleton.mp hentry, hvalue]⟩
        · rw [fills_beyond hout, List.forall_mem_cons,
            ih h.tail (sub_pos.mpr hout) (by linarith) hsorted.2, sub_le_iff_le_add']
          exact and_iff_right hvalue
      · have hnone : depthAt price ((value, room) :: rest) = 0 := by
          rw [depthAt, List.filter_eq_nil_iff.mpr]
          · rfl
          · intro level hlevel
            rcases List.mem_cons.mp hlevel with rfl | hrest
            · simpa using hvalue
            · simpa using hsorted.1 level hrest hvalue
        rw [hnone]
        constructor
        · intro hall
          rcases le_or_gt budget room with hin | hout
          · rw [fills_inside hin] at hall
            exact absurd (hall _ List.mem_cons_self) hvalue
          · rw [fills_beyond hout] at hall
            exact absurd (hall _ List.mem_cons_self) hvalue
        · intro hle
          exact absurd hle (not_le.mpr hbudget)

end BookWalk
