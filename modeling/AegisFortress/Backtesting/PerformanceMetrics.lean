import AegisFortress.Lib.Drawdown
import AegisFortress.Python.Value

/-!
# The maximum drawdown

`_max_drawdown_pct` of `performance_metrics.py` and `_max_drawdown` of `report_generator.py`: two
loops over an equity curve that keep its peak so far and the largest fall below it, in percent.  They
disagree on an empty curve only, and on what to do while the peak is not positive: one goes on to the
next value, the other counts nothing.

`max_drawdown_greatest`: both compute the largest loss against the peak at each point.  An older, lower
peak makes a difference at a negative point alone.
-/

namespace Aegis

open Drawdown

namespace PerformanceMetrics

/-- The body of the loop, over `peak` and `max_drawdown`. -/
def drawdownStep (kept : ℚ × ℚ) (value : ℚ) : ℚ × ℚ :=
  let (peak, maxDrawdown) := kept
  let peak := if peak < value then value else peak
  if peak ≤ 0 then (peak, maxDrawdown)
  else
    let drawdown := (peak - value) / peak * 100
    (peak, if maxDrawdown < drawdown then drawdown else maxDrawdown)

/-- `_max_drawdown_pct(values)`. -/
def maxDrawdownPct : List ℚ → Except PyError ℚ
  | [] => .error ⟨.other, "list index out of range"⟩
  | first :: rest => .ok ((first :: rest).foldl drawdownStep (first, 0)).2

end PerformanceMetrics

namespace ReportGenerator

/-- The body of the loop, over `peak` and `max_dd`. -/
def drawdownStep (kept : ℚ × ℚ) (v : ℚ) : ℚ × ℚ :=
  let (peak, maxDd) := kept
  let peak := if peak < v then v else peak
  let dd := if 0 < peak then (peak - v) / peak * 100 else 0
  (peak, if maxDd < dd then dd else maxDd)

/-- `_max_drawdown(equity_vals)`. -/
def maxDrawdown : List ℚ → ℚ
  | [] => 0
  | first :: rest => ((first :: rest).foldl drawdownStep (first, 0)).2

end ReportGenerator

/-! ## One value -/

lemma PerformanceMetrics.drawdownStep_eq (kept : ℚ × ℚ) (value : ℚ) :
    drawdownStep kept value = follow kept value := by
  simp only [drawdownStep, follow, percentLost_eq, ← max_def_lt]
  split_ifs
  · rfl
  · rfl

/-- To count nothing is to go on, once the largest loss is not negative. -/
lemma ReportGenerator.drawdownStep_eq {kept : ℚ × ℚ} (value : ℚ) (hkept : 0 ≤ kept.2) :
    drawdownStep kept value = follow kept value := by
  simp only [drawdownStep, follow, ← max_def_lt]
  by_cases hsunk : max kept.1 value ≤ 0
  · rw [if_pos hsunk, if_neg hsunk.not_gt, max_eq_left hkept]
  · rw [if_neg hsunk, if_pos (not_le.mp hsunk), percentLost_eq]

/-! ## All values -/

lemma ReportGenerator.foldl_eq {values : List ℚ} {kept : ℚ × ℚ} (hkept : 0 ≤ kept.2) :
    values.foldl drawdownStep kept = values.foldl follow kept := by
  induction values generalizing kept with
  | nil => rfl
  | cons value rest ih =>
      rw [List.foldl_cons, List.foldl_cons, drawdownStep_eq value hkept]
      exact ih (hkept.trans (le_follow kept value))

/-- The two loops end alike. -/
lemma maxDrawdowns_eq (first : ℚ) (rest : List ℚ) :
    PerformanceMetrics.maxDrawdownPct (first :: rest) = .ok (rest.foldl follow (first, 0)).2
      ∧ ReportGenerator.maxDrawdown (first :: rest) = (rest.foldl follow (first, 0)).2 := by
  have hstep : PerformanceMetrics.drawdownStep = follow := by
    funext kept value
    exact PerformanceMetrics.drawdownStep_eq kept value
  constructor
  · rw [PerformanceMetrics.maxDrawdownPct, hstep, List.foldl_cons, follow_first]
  · rw [ReportGenerator.maxDrawdown, ReportGenerator.foldl_eq le_rfl, List.foldl_cons, follow_first]

/-- **The maximum drawdown.**  On a curve that is not empty both loops return the largest loss
against the peak at each point, or zero.  Older positive peaks add nothing at points that are not
negative; on a curve that never is, they add nothing, and no more than everything is lost. -/
theorem max_drawdown_greatest (values : List ℚ) (hvalues : values ≠ []) : ∃ drawdown,
    PerformanceMetrics.maxDrawdownPct values = .ok drawdown
      ∧ ReportGenerator.maxDrawdown values = drawdown
      ∧ IsGreatest (insert 0 (losses values)) drawdown
      ∧ IsGreatest (insert 0 (lossesSince Counts values)) drawdown
      ∧ ((∀ value ∈ values, 0 ≤ value) →
        IsGreatest (insert 0 (lossesSince (fun _ _ _ => True) values)) drawdown
          ∧ drawdown ≤ 100) := by
  obtain ⟨first, rest, rfl⟩ := List.exists_cons_of_ne_nil hvalues
  obtain ⟨hmetrics, hreport⟩ := maxDrawdowns_eq first rest
  have hfollows : Follows (first :: rest) (rest.foldl follow (first, 0)).1
      (rest.foldl follow (first, 0)).2 := by
    have hfirst : Follows [first] (first, (0 : ℚ)).1 (first, (0 : ℚ)).2 := follows_singleton first
    exact hfirst.foldl
  have hsince := greatest_lossesSince hfollows.greatest
  refine ⟨_, hmetrics, hreport, hfollows.greatest, hsince, fun hnonneg => ⟨?_, ?_⟩⟩
  · rwa [lossesSince_eq hnonneg]
  · exact greatest_le_hundred hfollows.greatest hnonneg

theorem max_drawdown_greatest_halved : ∃ drawdown,
    PerformanceMetrics.maxDrawdownPct [1, 10, 5, 8] = .ok drawdown
      ∧ ReportGenerator.maxDrawdown [1, 10, 5, 8] = drawdown
      ∧ IsGreatest (insert 0 (losses [1, 10, 5, 8])) drawdown
      ∧ IsGreatest (insert 0 (lossesSince Counts [1, 10, 5, 8])) drawdown
      ∧ ((∀ value ∈ [(1 : ℚ), 10, 5, 8], 0 ≤ value) →
        IsGreatest (insert 0 (lossesSince (fun _ _ _ => True) [1, 10, 5, 8])) drawdown
          ∧ drawdown ≤ 100) :=
  max_drawdown_greatest [1, 10, 5, 8] (List.cons_ne_nil 1 _)

/-- Two hundred percent below the peak of ten, eleven hundred below the peak of one before it. -/
theorem older_peak_loses_more : PerformanceMetrics.maxDrawdownPct [1, 10, -10] = .ok 200
    ∧ ¬ IsGreatest (insert 0 (lossesSince (fun _ _ _ => True) [1, 10, -10])) (200 : ℚ) := by
  refine ⟨by decide +kernel, fun hgreatest => ?_⟩
  have holder : (1100 : ℚ) ∈ lossesSince (fun _ _ _ => True) [1, 10, -10] :=
    ⟨[1, 10], -10, [], [1], 1, rfl, ⟨[10, -10], rfl⟩, peak_singleton 1, zero_lt_one, trivial,
      by decide +kernel⟩
  have hle : (1100 : ℚ) ≤ 200 := hgreatest.2 (Or.inr holder)
  exact absurd hle (by decide +kernel)

end Aegis
