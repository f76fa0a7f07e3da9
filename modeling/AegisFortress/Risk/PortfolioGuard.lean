import AegisFortress.Portfolio.ExposureEngine

/-!
# The portfolio guard

`risk/portfolio_guard.py`.  A guard carries what its constructor has checked, so a guard with a
limit the constructor refuses cannot be built; the checks are written as the source writes them
(`not limit <= 0`), which over `ℚ` is the same as positivity.
-/

namespace Aegis

/-- `risk.portfolio_guard.RiskBreach`. -/
structure RiskBreach where
  code : String
  message : String
  severity : String
  deriving DecidableEq, Repr

section Definitions

variable {α : Type} [Add α] [Sub α] [Mul α] [Div α] [Neg α] [Zero α] [One α] [LT α] [LE α]
  [DecidableLT α] [DecidableLE α] [PyFloat α]

/-- `risk.portfolio_guard.PortfolioGuard`, with the constructor's checks. -/
structure PortfolioGuard (α : Type) [Zero α] [One α] [LT α] [LE α] where
  maxGrossExposure : α
  maxNetExposure : α
  maxSymbolWeight : α
  gross_checked : ¬ maxGrossExposure ≤ 0
  net_checked : ¬ maxNetExposure ≤ 0
  weight_checked : 0 < maxSymbolWeight ∧ maxSymbolWeight ≤ 1

namespace PortfolioGuard

/-- `PortfolioGuard(max_gross_exposure, max_net_exposure, max_symbol_weight)`. -/
def init (maxGrossExposure maxNetExposure maxSymbolWeight : α) :
    Except PyError (PortfolioGuard α) :=
  if hg : maxGrossExposure ≤ 0 then .error ⟨.valueError, "max_gross_exposure must be positive"⟩
  else if hn : maxNetExposure ≤ 0 then .error ⟨.valueError, "max_net_exposure must be positive"⟩
  else if hw : 0 < maxSymbolWeight ∧ maxSymbolWeight ≤ 1 then
    .ok ⟨maxGrossExposure, maxNetExposure, maxSymbolWeight, hg, hn, hw⟩
  else .error ⟨.valueError, "max_symbol_weight must be in (0, 1]"⟩

/-- The two breaches of an absolute limit. -/
def limitBreach (code name : String) (value reported limit : α) : List RiskBreach :=
  if limit < value then
    [⟨code, s!"{name} {PyFloat.fixed 8 reported} exceeds limit {PyFloat.fixed 8 limit}",
      "CRITICAL"⟩]
  else []

/-- The breach of the weight limit by one symbol. -/
def weightBreach (limit : α) (symbol : String) (weight : α) : List RiskBreach :=
  if limit < weight then
    [⟨"SYMBOL_WEIGHT_LIMIT",
      s!"{symbol} exposure weight {PyFloat.fixed 4 weight} exceeds limit {PyFloat.fixed 4 limit}",
      "HIGH"⟩]
  else []

/-- `PortfolioGuard.validate(snapshot)`. -/
def validate (guard : PortfolioGuard α) (snapshot : ExposureSnapshot α) : List RiskBreach :=
  limitBreach "GROSS_EXPOSURE_LIMIT" "Gross exposure"
      snapshot.grossExposure snapshot.grossExposure guard.maxGrossExposure
    ++ limitBreach "NET_EXPOSURE_LIMIT" "Net exposure"
      (pyAbs snapshot.netExposure) snapshot.netExposure guard.maxNetExposure
    ++ snapshot.symbolWeights.entries.flatMap fun e =>
      weightBreach guard.maxSymbolWeight e.1 e.2

end PortfolioGuard

end Definitions

namespace PortfolioGuard

variable (guard : PortfolioGuard ℚ) (snapshot : ExposureSnapshot ℚ)

lemma limitBreach_eq_nil {code name : String} {value reported limit : ℚ} :
    limitBreach code name value reported limit = [] ↔ value ≤ limit := by
  rw [limitBreach]
  split_ifs with h
  · simpa using h
  · simpa using h

lemma weightBreach_eq_nil {limit weight : ℚ} {symbol : String} :
    weightBreach limit symbol weight = [] ↔ weight ≤ limit := by
  rw [weightBreach]
  split_ifs with h
  · simpa using h
  · simpa using h

/-- The guard is silent exactly when both exposures and every weight are within their limits. -/
theorem validate_eq_nil : guard.validate snapshot = [] ↔
    snapshot.grossExposure ≤ guard.maxGrossExposure
      ∧ |snapshot.netExposure| ≤ guard.maxNetExposure
      ∧ ∀ symbol weight, snapshot.symbolWeights.get? symbol = some weight →
          weight ≤ guard.maxSymbolWeight := by
  simp only [validate, List.append_eq_nil_iff, limitBreach_eq_nil, pyAbs_rat,
    List.flatMap_eq_nil_iff, weightBreach_eq_nil, and_assoc]
  refine and_congr_right fun _ => and_congr_right fun _ => ?_
  constructor
  · intro h symbol weight hw
    exact h (symbol, weight) (Dict.get?_eq_some.mp hw)
  · intro h e he
    exact h e.1 e.2 (Dict.get?_eq_some.mpr he)

lemma limitBreach_severity {code name : String} {value reported limit : ℚ} {breach : RiskBreach}
    (h : breach ∈ limitBreach code name value reported limit) : breach.severity = "CRITICAL" := by
  rw [limitBreach] at h
  split_ifs at h
  · rw [List.mem_singleton.mp h]
  · exact absurd h List.not_mem_nil

lemma weightBreach_severity {limit weight : ℚ} {symbol : String} {breach : RiskBreach}
    (h : breach ∈ weightBreach limit symbol weight) : breach.severity = "HIGH" := by
  rw [weightBreach] at h
  split_ifs at h
  · rw [List.mem_singleton.mp h]
  · exact absurd h List.not_mem_nil

/-- The guard knows two severities. -/
lemma validate_severity {breach : RiskBreach} (h : breach ∈ guard.validate snapshot) :
    breach.severity = "CRITICAL" ∨ breach.severity = "HIGH" := by
  rw [validate, List.mem_append, List.mem_append] at h
  rcases h with (h | h) | h
  · exact Or.inl (limitBreach_severity h)
  · exact Or.inl (limitBreach_severity h)
  · obtain ⟨e, -, he⟩ := List.mem_flatMap.mp h
    exact Or.inr (weightBreach_severity he)

/-- A breach is critical exactly when it is one of a gross or net limit. -/
theorem critical_iff : (∃ breach ∈ guard.validate snapshot, breach.severity = "CRITICAL") ↔
    guard.maxGrossExposure < snapshot.grossExposure
      ∨ guard.maxNetExposure < |snapshot.netExposure| := by
  have hlimit : ∀ (code name : String) (value reported limit : ℚ),
      (∃ breach ∈ limitBreach code name value reported limit, breach.severity = "CRITICAL")
        ↔ limit < value := by
    intro code name value reported limit
    rw [limitBreach]
    split_ifs with h <;> simp [h]
  have hweight : ¬ ∃ breach ∈ snapshot.symbolWeights.entries.flatMap fun e =>
      weightBreach guard.maxSymbolWeight e.1 e.2, breach.severity = "CRITICAL" := by
    rintro ⟨breach, hb, hs⟩
    obtain ⟨e, -, he⟩ := List.mem_flatMap.mp hb
    rw [weightBreach_severity he] at hs
    exact absurd hs (by decide)
  simp only [validate, List.mem_append, or_and_right, exists_or, hlimit, pyAbs_rat]
  exact ⟨fun h => h.resolve_right hweight, Or.inl⟩

end PortfolioGuard

end Aegis
