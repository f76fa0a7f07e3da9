import AegisFortress.Lib.Dict
import AegisFortress.Lib.Weighting
import AegisFortress.Pro.AegisConfig
import AegisFortress.Python.Value
import Mathlib.Data.List.DropRight

/-!
# The fusion of the signals

`SignalFusion` of `models.py`: a weight for each model, adjusted by the Sharpe ratio of the trades that
are attributed to it.  What the code takes from numpy and `math` are parameters: the mean, the standard
deviation, the exponential.

`convex_after_every_call_iff`: the weights are a convex combination after every call exactly if no
adjustment finds the ratios of all models at zero.  Only negative ratios are lifted; if none is, and all are
zero, the total falls back to one and every weight is zero.
-/

namespace Aegis.Pro

open Weighting

/-- `safe_div(a, b, default)`. -/
def safeDiv (a b default : ℚ) : ℚ := if b ≠ 0 then a / b else default

/-- `sigmoid(x)`. -/
def sigmoid (exp : ℚ → Except PyError ℚ) (x : ℚ) : Except PyError ℚ := do
  let e ← exp (-x)
  if 1 + e = 0 then .error zeroDivisionError else return 1 / (1 + e)

/-- `SignalFusion`. -/
structure SignalFusion where
  modelPnl : Dict String (List ℚ) := ⟨[("technical", []), ("ml", []), ("ob", [])], by decide⟩
  weights : Dict String ℚ := ⟨[("technical", 2 / 5), ("ml", 9 / 20), ("ob", 3 / 20)], by simp⟩
  /-- There is a model. -/
  tracked : modelPnl.values ≠ [] := by simp [Dict.values]

namespace SignalFusion

section Code

variable (cfg : AegisConfig) (exp : ℚ → Except PyError ℚ) (mean std : List ℚ → ℚ) (fusion : SignalFusion)

/-- The score of a technical signal. -/
def techScore (technicalSignal : Option String) : ℚ :=
  match technicalSignal with
  | some "TREND" => 4 / 5
  | some "BREAKOUT" => 7 / 10
  | some "RANGE" => 13 / 20
  | _ => 0

/-- `w[model]`. -/
def weightOf (model : String) : Except PyError ℚ :=
  match fusion.weights.get? model with
  | some weight => return weight
  | none => .error ⟨.keyError, s!"'{model}'"⟩

/-- A spread that is wide enough for the boost. -/
def pairsBoost (pairsZ : Option ℚ) : Bool := pairsZ.any fun z => z < -cfg.pairsZscoreThreshold

/-- `fuse(technical_signal, ml_prob, ob_imbalance, pairs_z)`. -/
def fuse (technicalSignal : Option String) (mlProb obImbalance : ℚ) (pairsZ : Option ℚ) :
    Except PyError ℚ := do
  let techScore := techScore technicalSignal
  let obScore ← sigmoid exp ((obImbalance - 1) * 2)
  let technical ← fusion.weightOf "technical"
  let ml ← fusion.weightOf "ml"
  let ob ← fusion.weightOf "ob"
  let fused := technical * techScore + ml * mlProb + ob * obScore
  let fused := if pairsBoost cfg pairsZ then min 1 (fused + 1 / 20) else fused
  return min (max fused 0) 1

/-- The Sharpe ratio that `update_weights` finds for the trades of a model. -/
def sharpe (pnlList : List ℚ) : ℚ :=
  if pnlList.length < 5 then 1
  else
    let arr := pnlList.rtake 50
    safeDiv (mean arr) (std arr) 0

/-- `update_weights()`. -/
def updateWeights : SignalFusion :=
  let sharpes := fusion.modelPnl.mapVal fun _ => sharpe mean std
  have hsharpes : sharpes.values ≠ [] := by simpa [sharpes] using fusion.tracked
  let minS := sharpes.values.min hsharpes
  let sharpes := if minS < 0 then sharpes.mapVal fun _ v => v - minS + 1 / 100 else sharpes
  let total := if sharpes.values.sum = 0 then 1 else sharpes.values.sum
  { fusion with weights := sharpes.mapVal fun _ v => v / total }

/-- `record_trade_pnl(model_attribution, pnl)`. -/
def recordTradePnl (attribution : String) (pnl : ℚ) : SignalFusion :=
  let lst := fusion.modelPnl.getD attribution [] ++ [pnl]
  let lst := if 200 < lst.length then lst.tail else lst
  { fusion with
    modelPnl := fusion.modelPnl.set attribution lst
    tracked := by
      have hmem : attribution ∈ (fusion.modelPnl.set attribution lst).keys :=
        Dict.mem_keys.mpr ⟨lst, Dict.get?_set_self _ _ _⟩
      intro hnil
      rw [Dict.values, List.map_eq_nil_iff] at hnil
      rw [Dict.keys, hnil] at hmem
      exact absurd hmem List.not_mem_nil }

end Code

/-! ## The calls -/

/-- The models that trades are attributed to. -/
inductive FusionModel
  | technical
  | ml
  | ob

def FusionModel.key : FusionModel → String
  | .technical => "technical"
  | .ml => "ml"
  | .ob => "ob"

inductive FusionCall
  | recordTradePnl (model : FusionModel) (pnl : ℚ)
  | updateWeights

variable (cfg : AegisConfig) (exp : ℚ → Except PyError ℚ) (mean std : List ℚ → ℚ)

def perform (fusion : SignalFusion) : FusionCall → SignalFusion
  | .recordTradePnl model pnl => fusion.recordTradePnl model.key pnl
  | .updateWeights => fusion.updateWeights mean std

/-- A new fusion after these calls. -/
def afterCalls (calls : List FusionCall) : SignalFusion := calls.foldl (perform mean std) {}

/-- Every model has enough trades for a ratio, and its ratio is zero: the mean of the last fifty is zero, or
they do not deviate from it. -/
def Flat (fusion : SignalFusion) : Prop := ∀ pnlList ∈ fusion.modelPnl.values,
  5 ≤ pnlList.length ∧ (mean (pnlList.rtake 50) = 0 ∨ std (pnlList.rtake 50) = 0)

/-- The weights are a convex combination, and without the boost every fused value lies between the least
and the greatest of the three scores. -/
structure ConvexCombination (fusion : SignalFusion) : Prop where
  weights : Convex fusion.weights.values
  between : ∀ technicalSignal mlProb obImbalance pairsZ obScore, pairsBoost cfg pairsZ = false →
    sigmoid exp ((obImbalance - 1) * 2) = .ok obScore →
    ∃ fused, fusion.fuse cfg exp technicalSignal mlProb obImbalance pairsZ = .ok fused
      ∧ min (techScore technicalSignal) (min mlProb obScore) ≤ fused
      ∧ fused ≤ max (techScore technicalSignal) (max mlProb obScore)

variable {cfg exp mean std} {fusion : SignalFusion}

/-! ## Fused values -/

lemma techScore_mem (technicalSignal : Option String) :
    0 ≤ techScore technicalSignal ∧ techScore technicalSignal ≤ 1 := by
  unfold techScore
  split <;> norm_num

/-- The weights of the three models. -/
lemma entries_of_keys {weights : Dict String ℚ} (h : weights.keys = ["technical", "ml", "ob"]) :
    ∃ technical ml ob, weights.entries = [("technical", technical), ("ml", ml), ("ob", ob)] := by
  rw [Dict.keys] at h
  obtain ⟨⟨_, technical⟩, others, hentries, rfl, hothers⟩ := List.map_eq_cons_iff.mp h
  obtain ⟨⟨_, ml⟩, last, hml, rfl, hlast⟩ := List.map_eq_cons_iff.mp hothers
  obtain ⟨⟨_, ob⟩, beyond, hob, rfl, hbeyond⟩ := List.map_eq_cons_iff.mp hlast
  rw [List.map_eq_nil_iff] at hbeyond
  exact ⟨technical, ml, ob, by rw [hentries, hml, hob, hbeyond]⟩

/-- **Between the scores.**  The clipping keeps a fused value there, since one of the scores is not
negative and at most one. -/
lemma fuse_between (hkeys : fusion.weights.keys = ["technical", "ml", "ob"])
    (hconvex : Convex fusion.weights.values) (technicalSignal : Option String)
    (mlProb obImbalance : ℚ) (pairsZ : Option ℚ) {obScore : ℚ} (hboost : pairsBoost cfg pairsZ = false)
    (hob : sigmoid exp ((obImbalance - 1) * 2) = .ok obScore) :
    ∃ fused, fusion.fuse cfg exp technicalSignal mlProb obImbalance pairsZ = .ok fused
      ∧ min (techScore technicalSignal) (min mlProb obScore) ≤ fused
      ∧ fused ≤ max (techScore technicalSignal) (max mlProb obScore) := by
  obtain ⟨technical, ml, ob, hentries⟩ := entries_of_keys hkeys
  obtain ⟨htech0, htech1⟩ := techScore_mem technicalSignal
  set weighted := [(technical, techScore technicalSignal), (ml, mlProb), (ob, obScore)] with hweighted
  have hvalues : fusion.weights.values = weighted.map Prod.fst := by
    rw [Dict.values, hentries]
    rfl
  have hblend : technical * techScore technicalSignal + ml * mlProb + ob * obScore = blend weighted := by
    simp [blend, hweighted, add_assoc]
  have hlow : min (techScore technicalSignal) (min mlProb obScore) ≤ blend weighted :=
    (hvalues ▸ hconvex).le_blend (by simp [hweighted])
  have hhigh : blend weighted ≤ max (techScore technicalSignal) (max mlProb obScore) :=
    (hvalues ▸ hconvex).blend_le (by simp [hweighted])
  refine ⟨min (max (blend weighted) 0) 1, ?_, ?_, ?_⟩
  · simp [fuse, weightOf, Dict.get?, hentries, hob, hboost, hblend, Dict.lookup_cons, bind, Except.bind,
      pure, Except.pure]
  · exact le_min (hlow.trans (le_max_left _ _)) ((min_le_left _ _).trans htech1)
  · exact (min_le_left _ _).trans (max_le hhigh (htech0.trans (le_max_left _ _)))

/-! ## The weights -/

lemma sharpe_eq_zero_iff (pnlList : List ℚ) : sharpe mean std pnlList = 0
    ↔ 5 ≤ pnlList.length ∧ (mean (pnlList.rtake 50) = 0 ∨ std (pnlList.rtake 50) = 0) := by
  rw [sharpe]
  by_cases hlength : pnlList.length < 5
  · simp [hlength]
  · by_cases hstd : std (pnlList.rtake 50) = 0 <;> simp [hlength, safeDiv, hstd, not_lt.mp hlength]

lemma flat_iff : fusion.Flat mean std
    ↔ ∀ s ∈ fusion.modelPnl.values.map (sharpe mean std), s = 0 := by
  simp only [Flat, List.forall_mem_map, sharpe_eq_zero_iff]

/-- **The adjusted weights** are the ratios, lifted and divided by their total. -/
lemma updateWeights_values (mean std : List ℚ → ℚ) (fusion : SignalFusion) :
    ∃ hne, (fusion.updateWeights mean std).weights.values
      = shares (raised (1 / 100) ((fusion.modelPnl.values.map (sharpe mean std)).min hne)
          (fusion.modelPnl.values.map (sharpe mean std))) := by
  refine ⟨by simpa using fusion.tracked, ?_⟩
  simp only [updateWeights, Dict.values_mapVal, raised]
  split_ifs with hneg hzero hzero <;> simp_all [shares]

lemma updateWeights_convex_iff (fusion : SignalFusion) :
    Convex (fusion.updateWeights mean std).weights.values ↔ ¬ fusion.Flat mean std := by
  obtain ⟨hne, hvalues⟩ := updateWeights_values mean std fusion
  rw [hvalues, convex_shares_raised_iff (by norm_num) (List.min_mem hne)
    (fun _ hmem => List.min_le_of_mem hmem), flat_iff]
  push Not
  rfl

/-- The models keep their places. -/
lemma perform_keys (fusion : SignalFusion) (call : FusionCall)
    (h : fusion.modelPnl.keys = ["technical", "ml", "ob"]
      ∧ fusion.weights.keys = ["technical", "ml", "ob"]) :
    (perform mean std fusion call).modelPnl.keys = ["technical", "ml", "ob"]
      ∧ (perform mean std fusion call).weights.keys = ["technical", "ml", "ob"] := by
  obtain ⟨hpnl, hweights⟩ := h
  cases call with
  | recordTradePnl model pnl =>
      refine ⟨?_, hweights⟩
      simp only [perform, recordTradePnl, Dict.keys_set, hpnl]
      cases model <;> simp [FusionModel.key]
  | updateWeights =>
      refine ⟨hpnl, ?_⟩
      simp only [perform, updateWeights]
      split_ifs <;> simp [hpnl]

lemma afterCalls_snoc (calls : List FusionCall) (call : FusionCall) :
    afterCalls mean std (calls ++ [call]) = perform mean std (afterCalls mean std calls) call := by
  rw [afterCalls, List.foldl_append]
  rfl

lemma afterCalls_keys (calls : List FusionCall) :
    (afterCalls mean std calls).modelPnl.keys = ["technical", "ml", "ob"]
      ∧ (afterCalls mean std calls).weights.keys = ["technical", "ml", "ob"] := by
  induction calls using List.reverseRecOn with
  | nil => exact ⟨rfl, rfl⟩
  | append_singleton calls call ih =>
      rw [afterCalls_snoc]
      exact perform_keys _ call ih

lemma initial_convex : Convex ({} : SignalFusion).weights.values := by
  refine ⟨?_, ?_⟩ <;> norm_num [Dict.values]

/-- Weights that are convex after every call, from adjustments that do not find every ratio at zero. -/
lemma afterCalls_convex (calls : List FusionCall)
    (h : ∀ before, before ++ [.updateWeights] <+: calls → ¬ (afterCalls mean std before).Flat mean std) :
    Convex (afterCalls mean std calls).weights.values := by
  induction calls using List.reverseRecOn with
  | nil => exact initial_convex
  | append_singleton calls call ih =>
      rw [afterCalls_snoc]
      cases call with
      | recordTradePnl model pnl =>
          exact ih fun before hbefore => h before (hbefore.trans (List.prefix_append _ _))
      | updateWeights => exact (updateWeights_convex_iff _).mpr (h calls List.prefix_rfl)

/-- **The weights stay a convex combination** after every call of a sequence exactly if no adjustment in it
meets flat histories of all models. -/
theorem convex_after_every_call_iff (cfg : AegisConfig) (exp : ℚ → Except PyError ℚ)
    (mean std : List ℚ → ℚ) (calls : List FusionCall) :
    (∀ before, before <+: calls → (afterCalls mean std before).ConvexCombination cfg exp)
      ↔ ∀ before, before ++ [.updateWeights] <+: calls → ¬ (afterCalls mean std before).Flat mean std := by
  constructor
  · intro h before hbefore
    have hconvex := (h _ hbefore).weights
    rw [afterCalls_snoc] at hconvex
    exact (updateWeights_convex_iff _).mp hconvex
  · intro h before hbefore
    have hconvex := afterCalls_convex before fun earlier hearlier => h earlier (hearlier.trans hbefore)
    exact ⟨hconvex, fun technicalSignal mlProb obImbalance pairsZ obScore hboost hob =>
      fuse_between (afterCalls_keys before).2 hconvex technicalSignal mlProb obImbalance pairsZ hboost hob⟩

/-- Five equal trades of each model, and an adjustment. -/
def equalTrades : List FusionCall :=
  [FusionModel.technical, .ml, .ob].flatMap (fun model => List.replicate 5 (.recordTradePnl model 1))
    ++ [.updateWeights]

/-- Trades that are all the same have no deviation, whatever they bring: every weight becomes zero. -/
theorem convex_fails_after_equal_trades :
    (afterCalls (fun arr => arr.sum / arr.length) (fun _ => 0) equalTrades).weights.values = [0, 0, 0]
      ∧ ¬ (afterCalls (fun arr => arr.sum / arr.length) (fun _ => 0) equalTrades).ConvexCombination {}
        (fun _ => .ok 1) := by
  have hvalues : (afterCalls (fun arr => arr.sum / arr.length) (fun _ => 0)
      equalTrades).weights.values = [0, 0, 0] := by decide +kernel
  refine ⟨hvalues, fun h => ?_⟩
  have hsum := h.weights.2
  rw [hvalues] at hsum
  norm_num at hsum

end SignalFusion

end Aegis.Pro
