import AegisFortress.Lib.History
import Mathlib.Algebra.Order.Field.Basic
import Mathlib.Order.Bounds.Basic
import Mathlib.Tactic.Linarith

/-!
# Drawdowns

What a curve has lost since its peak, in percent.  `losses` collects it at every point whose peak so
far is positive, and `lossesSince` for every earlier peak as well.  A fall below zero weighs more
against a low peak than against a high one, so an older peak only counts (`Counts`) at a point that is
not negative; `greatest_lossesSince` is why it then makes no difference.

`Follows` is what a loop knows that keeps the peak and the largest loss so far; `Follows.snoc` is one
more point, and `Follows.foldl` the loop.
-/

namespace Drawdown

variable {K : Type} [LinearOrder K] {values : List K} {peak peak' value loss greatest : K}

/-! ## Peaks -/

/-- The highest point. -/
def Peak (values : List K) (peak : K) : Prop := IsGreatest {value | value ∈ values} peak

lemma peak_singleton (value : K) : Peak [value] value := by
  refine ⟨List.mem_singleton_self value, fun v hv => ?_⟩
  rw [List.mem_singleton.mp hv]

lemma Peak.snoc (h : Peak values peak) (value : K) : Peak (values ++ [value]) (max peak value) := by
  constructor
  · rcases max_choice peak value with hmax | hmax
    · rw [hmax]
      exact List.mem_append_left _ h.1
    · rw [hmax]
      exact List.mem_append_right _ (List.mem_singleton_self value)
  · intro v hv
    rcases List.mem_append.mp hv with hv | hv
    · exact (h.2 hv).trans (le_max_left _ _)
    · rw [List.mem_singleton.mp hv]
      exact le_max_right _ _

lemma Peak.mono {earlier : List K} (h : Peak earlier peak) (h' : Peak values peak')
    (hearlier : earlier <+: values) : peak ≤ peak' := h'.2 (hearlier.subset h.1)

lemma exists_peak (h : values ≠ []) : ∃ peak, Peak values peak := by
  induction values using List.reverseRecOn with
  | nil => exact absurd rfl h
  | append_singleton before value ih =>
      by_cases hnil : before = []
      · rw [hnil]
        exact ⟨value, peak_singleton value⟩
      · obtain ⟨peak, hpeak⟩ := ih hnil
        exact ⟨max peak value, hpeak.snoc value⟩

/-! ## Losses -/

variable [Field K]

/-- What has been lost since the peak, in percent. -/
def percentLost (peak value : K) : K := (peak - value) / peak * (100 : ℕ)

omit [LinearOrder K] in
lemma percentLost_eq (peak value : K) : percentLost peak value = (peak - value) / peak * 100 := by
  rw [percentLost, Nat.cast_ofNat]

/-- The loss at a point, given those before it. -/
def Loss (before : List K) (value loss : K) : Prop :=
  ∃ peak, Peak (before ++ [value]) peak ∧ 0 < peak ∧ loss = percentLost peak value

/-- The losses at all points. -/
def losses (values : List K) : Set K :=
  {loss | ∃ before value after, values = before ++ value :: after ∧ Loss before value loss}

/-- An older peak counts at a point that is not negative; otherwise only the peak there. -/
def Counts (before : List K) (value peak : K) : Prop := 0 ≤ value ∨ Peak (before ++ [value]) peak

/-- The losses at all points since all earlier peaks that are such that `P`. -/
def lossesSince (P : List K → K → K → Prop) (values : List K) : Set K :=
  {loss | ∃ before value after earlier peak, values = before ++ value :: after
    ∧ earlier <+: before ++ [value] ∧ Peak earlier peak ∧ 0 < peak ∧ P before value peak
    ∧ loss = percentLost peak value}

lemma mem_losses_snoc : loss ∈ losses (values ++ [value])
    ↔ loss ∈ losses values ∨ Loss values value loss := by
  constructor
  · rintro ⟨before, v, after, hsplit, hloss⟩
    rcases History.snoc_eq_split.mp hsplit with ⟨rfl, rfl, -⟩ | ⟨rest, hvalues, -⟩
    · exact Or.inr hloss
    · exact Or.inl ⟨before, v, rest, hvalues, hloss⟩
  · rintro (⟨before, v, rest, hvalues, hloss⟩ | hloss)
    · exact ⟨before, v, rest ++ [value],
        History.snoc_eq_split.mpr (Or.inr ⟨rest, hvalues, rfl⟩), hloss⟩
    · exact ⟨values, value, [], rfl, hloss⟩

/-- The loss at a point is the only one there. -/
lemma loss_iff (h : Peak (values ++ [value]) peak) :
    Loss values value loss ↔ 0 < peak ∧ loss = percentLost peak value := by
  constructor
  · rintro ⟨peak', hpeak', hpos, hloss⟩
    rw [hpeak'.unique h] at hpos hloss
    exact ⟨hpos, hloss⟩
  · rintro ⟨hpos, hloss⟩
    exact ⟨peak, h, hpos, hloss⟩

/-- Where nothing is negative, all older peaks count. -/
lemma lossesSince_eq (h : ∀ value ∈ values, 0 ≤ value) :
    lossesSince (fun _ _ _ => True) values = lossesSince Counts values := by
  ext loss
  constructor
  · rintro ⟨before, value, after, earlier, peak, rfl, hearlier, hpeak, hpos, -, hloss⟩
    exact ⟨before, value, after, earlier, peak, rfl, hearlier, hpeak, hpos,
      Or.inl (h value List.mem_append_cons_self), hloss⟩
  · rintro ⟨before, value, after, earlier, peak, hsplit, hearlier, hpeak, hpos, -, hloss⟩
    exact ⟨before, value, after, earlier, peak, hsplit, hearlier, hpeak, hpos, trivial, hloss⟩

/-! ## Following a curve -/

/-- The peak and the largest loss of the points seen so far. -/
structure Follows (seen : List K) (peak greatest : K) : Prop where
  peak : Peak seen peak
  greatest : IsGreatest (insert 0 (losses seen)) greatest

lemma follows_singleton (value : K) : Follows [value] value 0 := by
  refine ⟨peak_singleton value, Or.inl rfl, fun loss hloss => ?_⟩
  rcases hloss with hzero | hloss
  · exact hzero.le
  · have hsnoc : loss ∈ losses ([] ++ [value]) := hloss
    rcases mem_losses_snoc.mp hsnoc with ⟨before, v, after, hnil, -⟩ | hloss
    · cases before <;> cases hnil
    · rw [(loss_iff (peak_singleton value)).mp hloss |>.2, percentLost, sub_self, zero_div, zero_mul]

/-- **One more point.** -/
lemma Follows.snoc {seen : List K} (h : Follows seen peak greatest) (value : K) :
    Follows (seen ++ [value]) (max peak value)
      (if max peak value ≤ 0 then greatest
        else max greatest (percentLost (max peak value) value)) := by
  have hpeak := h.peak.snoc value
  refine ⟨hpeak, ?_⟩
  split_ifs with hsunk
  · -- no loss is counted against a peak that is not positive
    have hsame : losses (seen ++ [value]) = losses seen := by
      ext loss
      rw [mem_losses_snoc, loss_iff hpeak, or_iff_left]
      rintro ⟨hpos, -⟩
      exact absurd hpos hsunk.not_gt
    rw [hsame]
    exact h.greatest
  · have hmore : insert 0 (losses (seen ++ [value]))
        = insert (percentLost (max peak value) value) (insert 0 (losses seen)) := by
      ext loss
      simp only [Set.mem_insert_iff, mem_losses_snoc, loss_iff hpeak, not_le.mp hsunk, true_and]
      tauto
    rw [hmore, max_comm greatest]
    exact h.greatest.insert _

/-- The peak so far and the largest loss so far, with one more point. -/
def follow (kept : K × K) (value : K) : K × K :=
  let peak := max kept.1 value
  (peak, if peak ≤ 0 then kept.2 else max kept.2 (percentLost peak value))

lemma le_follow (kept : K × K) (value : K) : kept.2 ≤ (follow kept value).2 := by
  simp only [follow]
  split_ifs
  · exact le_rfl
  · exact le_max_left _ _

/-- The first point is its own peak. -/
lemma follow_first (value : K) : follow (value, 0) value = (value, 0) := by
  simp only [follow, max_self]
  split_ifs
  · rfl
  · rw [percentLost, sub_self, zero_div, zero_mul, max_self]

/-- **The loop** follows the curve. -/
lemma Follows.foldl {rest seen : List K} {kept : K × K} (h : Follows seen kept.1 kept.2) :
    Follows (seen ++ rest) (rest.foldl follow kept).1 (rest.foldl follow kept).2 := by
  induction rest generalizing seen kept with
  | nil => simpa using h
  | cons value rest ih =>
      rw [List.foldl_cons, List.append_cons]
      exact ih (h.snoc value)

/-! ## Older peaks -/

variable [IsStrictOrderedRing K]

/-- Against a higher peak, more has been lost. -/
lemma percentLost_mono (hpos : 0 < peak) (hle : peak ≤ peak') (hvalue : 0 ≤ value) :
    percentLost peak value ≤ percentLost peak' value := by
  have hpos' : 0 < peak' := hpos.trans_le hle
  have hshare : value / peak' ≤ value / peak := div_le_div_of_nonneg_left hvalue hpos hle
  rw [percentLost, percentLost, sub_div, sub_div, div_self hpos.ne', div_self hpos'.ne']
  linarith

/-- What is not negative has not lost more than everything. -/
lemma percentLost_le_hundred (hpos : 0 < peak) (hvalue : 0 ≤ value) :
    percentLost peak value ≤ 100 := by
  have hshare : 0 ≤ value / peak := div_nonneg hvalue hpos.le
  rw [percentLost_eq, sub_div, div_self hpos.ne']
  linarith

/-- **Older peaks**: as far as they count, they add nothing. -/
lemma greatest_lossesSince (h : IsGreatest (insert 0 (losses values)) greatest) :
    IsGreatest (insert 0 (lossesSince Counts values)) greatest := by
  constructor
  · rcases h.1 with hzero | ⟨before, value, after, hsplit, peak, hpeak, hpos, hloss⟩
    · exact Or.inl hzero
    · exact Or.inr ⟨before, value, after, before ++ [value], peak, hsplit, List.prefix_rfl, hpeak,
        hpos, Or.inr hpeak, hloss⟩
  · intro loss hloss
    rcases hloss with hzero
      | ⟨before, value, after, earlier, peak, hsplit, hearlier, hpeak, hpos, hcounts, rfl⟩
    · exact h.2 (Or.inl hzero)
    · obtain ⟨highest, hhighest⟩ : ∃ highest, Peak (before ++ [value]) highest :=
        exists_peak (List.append_ne_nil_of_right_ne_nil _ (List.cons_ne_nil value []))
      have hle : peak ≤ highest := hpeak.mono hhighest hearlier
      have hthere : percentLost highest value ∈ losses values :=
        ⟨before, value, after, hsplit, highest, hhighest, hpos.trans_le hle, rfl⟩
      refine le_trans ?_ (h.2 (Or.inr hthere))
      rcases hcounts with hvalue | hpeak'
      · exact percentLost_mono hpos hle hvalue
      · rw [hpeak'.unique hhighest]

/-- What is never negative never loses more than everything. -/
lemma greatest_le_hundred (h : IsGreatest (insert 0 (losses values)) greatest)
    (hnonneg : ∀ value ∈ values, 0 ≤ value) : greatest ≤ 100 := by
  rcases h.1 with hzero | ⟨before, value, after, rfl, peak, -, hpos, rfl⟩
  · rw [hzero]
    exact Nat.cast_nonneg' 100
  · exact percentLost_le_hundred hpos (hnonneg value List.mem_append_cons_self)

end Drawdown
