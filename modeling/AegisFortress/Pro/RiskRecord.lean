import AegisFortress.Lib.Dispersion
import AegisFortress.Pro.RiskManager
import Mathlib.Data.List.Infix
import Mathlib.Tactic.FieldSimp
import Mathlib.Tactic.Linarith
import Mathlib.Tactic.LinearCombination
import Mathlib.Tactic.Ring

/-!
# The record of the risk manager

`risk.py` keeps no history of the closed trades: averages are moved by each of them, and a counter of losses in a
row is set back by each win and whenever it fires the circuit breaker.

`risk_record`: after any calls these are the averages over all closed trades, and the breaker has been fired once
for each multiple of `max_consecutive_losses` that a losing streak has reached.  Each time trading is halted for
four hours more than the last time, up to two days, whatever is called in between.
-/

namespace Aegis.Pro

open Dispersion

/-- A trade that is closed. -/
structure Closing where
  now : ℚ
  pnl : ℚ
  riskDollars : ℚ

namespace Closing

/-- `r_multiple` of `_close_trade`. -/
def rMultiple (closing : Closing) : ℚ := closing.pnl / max closing.riskDollars (1 / 10 ^ 6)

/-- It counts as a win. -/
def won (closing : Closing) : Bool := 0 < closing.pnl

lemma rMultiple_nonpos {closing : Closing} (h : closing.won = false) : closing.rMultiple ≤ 0 :=
  div_nonpos_of_nonpos_of_nonneg (not_lt.mp (of_decide_eq_false h))
    (le_max_of_le_right (by decide +kernel))

end Closing

/-- A call on the risk manager. -/
inductive RiskCall
  | close (closing : Closing)
  | isTradingHalted (now currentEquity : ℚ)
  | recordSlippage (now : ℚ) (symbol : String) (expected actual : ℚ)
  | isBlacklisted (now : ℚ) (symbol : String)
  | resetDaily (currentEquity : ℚ)
  | resetWeekly (currentEquity : ℚ)
  | updateEquityPeaks (equity : ℚ)
  | enter
  | nextBar

namespace RiskManager

variable (cfg : AegisConfig)

/-- What `_close_trade` tells the risk manager of a trade. -/
def close (risk : RiskManager) (closing : Closing) : RiskManager :=
  (if 0 < closing.pnl then risk.onWin else risk.onLoss cfg closing.now).updateStats closing.pnl
    closing.rMultiple

/-- One call. -/
def call (risk : RiskManager) : RiskCall → RiskManager
  | .close closing => risk.close cfg closing
  | .isTradingHalted now currentEquity => (risk.isTradingHalted cfg now currentEquity).2
  | .recordSlippage now symbol expected actual => risk.recordSlippage cfg now symbol expected actual
  | .isBlacklisted now symbol => (risk.isBlacklisted now symbol).2
  | .resetDaily currentEquity => risk.resetDaily currentEquity
  | .resetWeekly currentEquity => risk.resetWeekly currentEquity
  | .updateEquityPeaks equity => risk.updateEquityPeaks equity
  | .enter => { risk with tradesToday := risk.tradesToday + 1 }
  | .nextBar => { risk with barCounter := risk.barCounter + 1 }

/-- A risk manager after these calls. -/
def afterCalls (calls : List RiskCall) : RiskManager := calls.foldl (call cfg) {}

/-- The trades that were closed. -/
def closings (calls : List RiskCall) : List Closing :=
  calls.filterMap fun
    | .close closing => some closing
    | _ => none

end RiskManager

/-! ## Of the closed trades -/

/-- What the trades won, in units of risk. -/
def winsR (closed : List Closing) : List ℚ := (closed.filter Closing.won).map Closing.rMultiple

/-- What they lost. -/
def lossesR (closed : List Closing) : List ℚ :=
  (closed.filter fun closing => ¬ closing.won).map fun closing => |closing.rMultiple|

/-- The losses since the last win. -/
def lossStreak (closed : List Closing) : ℕ := (closed.reverse.takeWhile fun closing => ¬ closing.won).length

/-- The losses in a row that fire the breaker; nothing is fired by less than one. -/
def AegisConfig.breakerLosses (cfg : AegisConfig) : ℕ := max cfg.maxConsecutiveLosses.toNat 1

/-- The last of these trades fires the breaker. -/
def AegisConfig.Fires (cfg : AegisConfig) (closed : List Closing) : Prop :=
  0 < lossStreak closed ∧ cfg.breakerLosses ∣ lossStreak closed

instance (cfg : AegisConfig) (closed : List Closing) : Decidable (cfg.Fires closed) :=
  inferInstanceAs (Decidable (_ ∧ _))

/-- How often the breaker has been fired by these trades. -/
def AegisConfig.firings (cfg : AegisConfig) (closed : List Closing) : ℕ :=
  closed.inits.countP fun past => cfg.Fires past

section Closed

variable {cfg : AegisConfig} (closed : List Closing) (closing : Closing)

lemma winsR_snoc : winsR (closed ++ [closing])
    = if closing.won then winsR closed ++ [closing.rMultiple] else winsR closed := by
  rw [winsR, winsR, List.filter_append, List.map_append]
  cases hwon : closing.won <;> simp [hwon]

lemma lossesR_snoc : lossesR (closed ++ [closing])
    = if closing.won then lossesR closed else lossesR closed ++ [|closing.rMultiple|] := by
  rw [lossesR, lossesR, List.filter_append, List.map_append]
  cases hwon : closing.won <;> simp [hwon]

lemma lossStreak_snoc : lossStreak (closed ++ [closing])
    = if closing.won then 0 else lossStreak closed + 1 := by
  rw [lossStreak, lossStreak, List.reverse_append, List.reverse_singleton, List.singleton_append,
    List.takeWhile_cons]
  cases hwon : closing.won <;> simp

lemma firings_snoc : cfg.firings (closed ++ [closing])
    = cfg.firings closed + if cfg.Fires (closed ++ [closing]) then 1 else 0 := by
  rw [AegisConfig.firings, AegisConfig.firings, List.inits_append, List.countP_append]
  congr 1
  by_cases hfires : cfg.Fires (closed ++ [closing]) <;> simp [hfires]

lemma counts_add : (winsR closed).length + (lossesR closed).length = closed.length := by
  induction closed using List.reverseRecOn with
  | nil => rfl
  | append_singleton closed closing ih =>
      rw [winsR_snoc, lossesR_snoc, List.length_append, ← ih, List.length_singleton]
      cases closing.won
      · exact Eq.trans (by rw [if_neg (by decide), if_neg (by decide), List.length_append]; rfl)
          (add_assoc _ _ _).symm
      · rw [if_pos rfl, if_pos rfl, List.length_append, List.length_singleton]
        omega

lemma sums_sub : (winsR closed).sum - (lossesR closed).sum = (closed.map Closing.rMultiple).sum := by
  induction closed using List.reverseRecOn with
  | nil => simp [winsR, lossesR]
  | append_singleton closed closing ih =>
      rw [winsR_snoc, lossesR_snoc, List.map_append, List.sum_append, ← ih, List.map_singleton,
        List.sum_singleton]
      cases hwon : closing.won with
      | false =>
          rw [if_neg (by decide), if_neg (by decide), List.sum_append, List.sum_singleton,
            abs_of_nonpos (Closing.rMultiple_nonpos hwon)]
          ring
      | true =>
          rw [if_pos rfl, if_pos rfl, List.sum_append, List.sum_singleton]
          ring

end Closed

namespace RiskManager

/-- The risk manager knows of these closed trades. -/
structure Records (cfg : AegisConfig) (closed : List Closing) (risk : RiskManager) : Prop where
  totalTrades : risk.totalTrades = closed.length
  totalWins : risk.totalWins = (winsR closed).length
  totalLosses : risk.totalLosses = (lossesR closed).length
  avgWinR : risk.avgWinR = average (winsR closed)
  avgLossR : risk.avgLossR = average (lossesR closed)
  winRate : risk.winRate = (winsR closed).length / closed.length
  expectancy : risk.expectancy = average (closed.map Closing.rMultiple)
  consecutiveLosses : risk.consecutiveLosses = (lossStreak closed % cfg.breakerLosses : ℕ)
  breakerCount : risk.breakerCount = cfg.firings closed

variable {cfg : AegisConfig} {closed : List Closing} {risk : RiskManager}

lemma records_new : Records cfg [] {} where
  totalTrades := rfl
  totalWins := rfl
  totalLosses := rfl
  avgWinR := by simp [winsR, average]
  avgLossR := by simp [lossesR, average]
  winRate := by simp
  expectancy := by simp [average]
  consecutiveLosses := by simp [lossStreak]
  breakerCount := by simp [AegisConfig.firings, AegisConfig.Fires, lossStreak]

/-- A counter that is set back when it fires has got as far as the next multiple. -/
lemma dvd_succ_iff {m : ℕ} (hm : 0 < m) (streak : ℕ) : m ∣ streak + 1 ↔ m ≤ streak % m + 1 := by
  have hlt : streak % m < m := Nat.mod_lt _ hm
  have hrest : m ∣ streak + 1 ↔ m ∣ streak % m + 1 := by
    conv_lhs => rw [← Nat.div_add_mod streak m, add_assoc]
    exact Nat.dvd_add_right (dvd_mul_right m _)
  rw [hrest]
  constructor
  · exact fun hdvd => Nat.le_of_dvd (Nat.succ_pos _) hdvd
  · intro hle
    have hsame : streak % m + 1 = m := le_antisymm hlt hle
    rw [hsame]

lemma fires_iff (cfg : AegisConfig) (closed : List Closing) {closing : Closing} (hlost : closing.won = false) :
    cfg.maxConsecutiveLosses ≤ (lossStreak closed % cfg.breakerLosses : ℕ) + 1
      ↔ cfg.Fires (closed ++ [closing]) := by
  have hpos : 0 < cfg.breakerLosses := lt_max_of_lt_right Nat.one_pos
  rw [AegisConfig.Fires, lossStreak_snoc, hlost, if_neg (by decide), dvd_succ_iff hpos,
    and_iff_right (Nat.succ_pos _)]
  have hlosses : cfg.breakerLosses = max cfg.maxConsecutiveLosses.toNat 1 := rfl
  generalize lossStreak closed % cfg.breakerLosses = counted
  omega

/-- What a win or a loss changes, besides the counters of the day. -/
lemma Records.counted (h : Records cfg closed risk) (closing : Closing) :
    let counted := if 0 < closing.pnl then risk.onWin else risk.onLoss cfg closing.now
    counted.totalTrades = closed.length ∧ counted.totalWins = (winsR (closed ++ [closing])).length
      ∧ counted.totalLosses = (lossesR (closed ++ [closing])).length
      ∧ counted.avgWinR = average (winsR closed) ∧ counted.avgLossR = average (lossesR closed)
      ∧ counted.consecutiveLosses = (lossStreak (closed ++ [closing]) % cfg.breakerLosses : ℕ)
      ∧ counted.breakerCount = cfg.firings (closed ++ [closing]) := by
  intro counted
  cases hwon : closing.won with
  | true =>
      have hcounted : counted = risk.onWin := if_pos (of_decide_eq_true hwon)
      have hnever : ¬ cfg.Fires (closed ++ [closing]) := by
        rw [AegisConfig.Fires, lossStreak_snoc, hwon]
        exact fun hfires => absurd hfires.1 (lt_irrefl 0)
      rw [hcounted, onWin, winsR_snoc, lossesR_snoc, lossStreak_snoc, firings_snoc, if_neg hnever, hwon]
      refine ⟨h.totalTrades, ?_, h.totalLosses, h.avgWinR, h.avgLossR, ?_, h.breakerCount⟩
      · simp [h.totalWins]
      · simp
  | false =>
      have hcounted : counted = risk.onLoss cfg closing.now := if_neg (of_decide_eq_false hwon)
      rw [hcounted, onLoss, winsR_snoc, lossesR_snoc, firings_snoc, hwon]
      have hstreak : lossStreak (closed ++ [closing]) = lossStreak closed + 1 := by
        rw [lossStreak_snoc, hwon]
        rfl
      simp only [h.consecutiveLosses, fires_iff cfg closed hwon]
      by_cases hfires : cfg.Fires (closed ++ [closing])
      · simp only [if_pos hfires]
        refine ⟨h.totalTrades, h.totalWins, ?_, h.avgWinR, h.avgLossR, ?_, ?_⟩
        · simp [h.totalLosses]
        · rw [Nat.mod_eq_zero_of_dvd hfires.2]
          rfl
        · rw [h.breakerCount]
          rfl
      · simp only [if_neg hfires]
        refine ⟨h.totalTrades, h.totalWins, ?_, h.avgWinR, h.avgLossR, ?_, h.breakerCount⟩
        · simp [h.totalLosses]
        · have hpos : 0 < cfg.breakerLosses := lt_max_of_lt_right Nat.one_pos
          have hless : lossStreak closed % cfg.breakerLosses + 1 < cfg.breakerLosses := by
            by_contra hge
            refine hfires ⟨?_, ?_⟩
            · rw [hstreak]
              exact Nat.succ_pos _
            · rw [hstreak, dvd_succ_iff hpos]
              exact not_lt.mp hge
          rw [hstreak, ← Nat.mod_add_mod, Nat.mod_eq_of_lt hless]
          rfl

/-- The two averages, weighted by how often trades win and lose, are the average of all. -/
lemma expectancy_eq (closed : List Closing) (h : closed ≠ []) :
    let winRate := ((winsR closed).length : ℚ) / closed.length
    winRate * average (winsR closed) - (1 - winRate) * average (lossesR closed)
      = average (closed.map Closing.rMultiple) := by
  intro winRate
  have hcount : ((winsR closed).length : ℚ) + (lossesR closed).length = closed.length := by
    exact_mod_cast counts_add closed
  have hpos : (closed.length : ℚ) ≠ 0 := by
    exact_mod_cast fun hzero => h (List.length_eq_zero_iff.mp hzero)
  have hlossRate : 1 - winRate = ((lossesR closed).length : ℚ) / closed.length := by
    rw [eq_div_iff hpos, sub_mul, div_mul_cancel₀ _ hpos]
    linarith
  have hmean : average (closed.map Closing.rMultiple)
      = ((winsR closed).sum - (lossesR closed).sum) / closed.length := by
    rw [average, List.length_map, sums_sub]
  rw [hlossRate, hmean, div_mul_eq_mul_div, div_mul_eq_mul_div, length_mul_average, length_mul_average, sub_div]

/-- One more closed trade. -/
lemma Records.close (h : Records cfg closed risk) (closing : Closing) :
    Records cfg (closed ++ [closing]) (risk.close cfg closing) := by
  obtain ⟨htotal, hwins, hlosses, havgWin, havgLoss, hconsecutive, hbreaker⟩ := h.counted closing
  rw [RiskManager.close]
  generalize (if 0 < closing.pnl then risk.onWin else risk.onLoss cfg closing.now) = counted at *
  have htrades : counted.totalTrades + 1 = ((closed ++ [closing]).length : ℤ) := by
    rw [htotal, List.length_append]
    rfl
  have hnow : 0 < ((closed ++ [closing]).length : ℤ) := by
    rw [List.length_append]
    exact Int.natCast_pos.mpr (Nat.succ_pos _)
  have hexpectancy := expectancy_eq (closed ++ [closing]) (List.concat_ne_nil _ _)
  cases hwon : closing.won with
  | true =>
      have hpositive : 0 < closing.pnl := of_decide_eq_true hwon
      have hlength : (winsR (closed ++ [closing])).length = (winsR closed).length + 1 := by
        rw [winsR_snoc, hwon, if_pos rfl, List.length_append]
        rfl
      have havg : counted.avgWinR + (closing.rMultiple - counted.avgWinR) / (max counted.totalWins 1 : ℤ)
          = average (winsR (closed ++ [closing])) := by
        rw [havgWin, hwins, hlength, winsR_snoc, hwon, if_pos rfl, average_snoc]
        push_cast
        rw [max_eq_left (by linarith [Nat.cast_nonneg (α := ℚ) (winsR closed).length])]
      have hsame : lossesR (closed ++ [closing]) = lossesR closed := by
        rw [lossesR_snoc, hwon, if_pos rfl]
      rw [updateStats]
      simp only [if_pos hpositive, if_pos hnow, havg, htrades]
      refine ⟨rfl, hwins, hlosses, rfl, ?_, ?_, ?_, hconsecutive, hbreaker⟩
      · rw [hsame]
        exact havgLoss
      · rw [hwins]
        push_cast
        rfl
      · rw [← hexpectancy, hwins, havgLoss, hsame]
        push_cast
        rfl
  | false =>
      have hnegative : ¬ 0 < closing.pnl := of_decide_eq_false hwon
      have hlength : (lossesR (closed ++ [closing])).length = (lossesR closed).length + 1 := by
        rw [lossesR_snoc, hwon, if_neg (by decide), List.length_append]
        rfl
      have havg : counted.avgLossR + (|closing.rMultiple| - counted.avgLossR)
          / (max counted.totalLosses 1 : ℤ) = average (lossesR (closed ++ [closing])) := by
        rw [havgLoss, hlosses, hlength, lossesR_snoc, hwon, if_neg (by decide), average_snoc]
        push_cast
        rw [max_eq_left (by linarith [Nat.cast_nonneg (α := ℚ) (lossesR closed).length])]
      have hsame : winsR (closed ++ [closing]) = winsR closed := by
        rw [winsR_snoc, hwon, if_neg (by decide)]
      rw [updateStats]
      simp only [if_neg hnegative, if_pos hnow, havg, htrades]
      refine ⟨rfl, hwins, hlosses, ?_, rfl, ?_, ?_, hconsecutive, hbreaker⟩
      · rw [hsame]
        exact havgWin
      · rw [hwins]
        push_cast
        rfl
      · rw [← hexpectancy, hwins, havgWin, hsame]
        push_cast
        rfl

lemma checkHistoricalDrawdown_state (cfg : AegisConfig) (risk : RiskManager) (now currentEquity : ℚ) :
    ∃ lock, (risk.checkHistoricalDrawdown cfg now currentEquity).2
      = { risk with drawdownLockedUntil := lock } := by
  rw [checkHistoricalDrawdown]
  split_ifs
  · exact ⟨_, rfl⟩
  · exact ⟨_, rfl⟩
  · dsimp only
    split_ifs
    · exact ⟨_, rfl⟩
    · exact ⟨_, rfl⟩

lemma checkDailyLoss_state (cfg : AegisConfig) (risk : RiskManager) (currentEquity : ℚ) :
    ∃ stop, (risk.checkDailyLoss cfg currentEquity).2 = { risk with dailyStopTriggered := stop } := by
  rw [checkDailyLoss]
  split_ifs
  · exact ⟨_, rfl⟩
  · exact ⟨_, rfl⟩
  · dsimp only
    split_ifs
    · exact ⟨_, rfl⟩
    · exact ⟨_, rfl⟩

/-- Asking whether trading is halted may lock it, and may stop it for the day. -/
lemma isTradingHalted_state (cfg : AegisConfig) (risk : RiskManager) (now currentEquity : ℚ) :
    ∃ lock stop, (risk.isTradingHalted cfg now currentEquity).2
      = { risk with drawdownLockedUntil := lock, dailyStopTriggered := stop } := by
  obtain ⟨lock, hlock⟩ := checkHistoricalDrawdown_state cfg risk now currentEquity
  obtain ⟨stop, hstop⟩ := checkDailyLoss_state cfg
    (risk.checkHistoricalDrawdown cfg now currentEquity).2 currentEquity
  rw [isTradingHalted]
  dsimp only
  split_ifs
  · exact ⟨lock, risk.dailyStopTriggered, hlock⟩
  · exact ⟨lock, stop, by rw [hstop, hlock]⟩
  · exact ⟨lock, stop, by rw [hstop, hlock]⟩

/-- Every other call leaves the record as it is. -/
lemma Records.call (h : Records cfg closed risk) (call : RiskCall) :
    Records cfg (closed ++ closings [call]) (risk.call cfg call) := by
  have hother {next : RiskManager} (hnext : next.totalTrades = risk.totalTrades
      ∧ next.totalWins = risk.totalWins ∧ next.totalLosses = risk.totalLosses ∧ next.avgWinR = risk.avgWinR
      ∧ next.avgLossR = risk.avgLossR ∧ next.winRate = risk.winRate ∧ next.expectancy = risk.expectancy
      ∧ next.consecutiveLosses = risk.consecutiveLosses ∧ next.breakerCount = risk.breakerCount) :
      Records cfg (closed ++ []) next := by
    obtain ⟨h1, h2, h3, h4, h5, h6, h7, h8, h9⟩ := hnext
    rw [List.append_nil]
    exact ⟨h1.trans h.totalTrades, h2.trans h.totalWins, h3.trans h.totalLosses, h4.trans h.avgWinR,
      h5.trans h.avgLossR, h6.trans h.winRate, h7.trans h.expectancy, h8.trans h.consecutiveLosses,
      h9.trans h.breakerCount⟩
  cases call with
  | close closing => exact h.close closing
  | isTradingHalted now currentEquity =>
      obtain ⟨lock, stop, hstate⟩ := isTradingHalted_state cfg risk now currentEquity
      rw [RiskManager.call, hstate]
      exact hother ⟨rfl, rfl, rfl, rfl, rfl, rfl, rfl, rfl, rfl⟩
  | recordSlippage now symbol expected actual =>
      refine hother ?_
      simp only [RiskManager.call, recordSlippage]
      split_ifs <;> simp
  | isBlacklisted now symbol =>
      refine hother ?_
      simp only [RiskManager.call, isBlacklisted]
      split_ifs <;> simp
  | resetDaily currentEquity => exact hother ⟨rfl, rfl, rfl, rfl, rfl, rfl, rfl, rfl, rfl⟩
  | resetWeekly currentEquity => exact hother ⟨rfl, rfl, rfl, rfl, rfl, rfl, rfl, rfl, rfl⟩
  | updateEquityPeaks equity => exact hother ⟨rfl, rfl, rfl, rfl, rfl, rfl, rfl, rfl, rfl⟩
  | enter => exact hother ⟨rfl, rfl, rfl, rfl, rfl, rfl, rfl, rfl, rfl⟩
  | nextBar => exact hother ⟨rfl, rfl, rfl, rfl, rfl, rfl, rfl, rfl, rfl⟩

/-- **After any calls** the risk manager knows of the closed trades. -/
lemma records_afterCalls (cfg : AegisConfig) (calls : List RiskCall) :
    Records cfg (closings calls) (afterCalls cfg calls) := by
  induction calls using List.reverseRecOn with
  | nil => exact records_new
  | append_singleton calls call ih =>
      rw [afterCalls, List.foldl_concat, closings, List.filterMap_append]
      exact ih.call call

/-! ## The pause -/

/-- The pause after the breaker has been fired so often. -/
def pauseSeconds (firings : ℕ) : ℚ := (min (4 * firings) 48 : ℕ) * 3600

/-- Trading is paused as long as the breaker asked for when it was fired for the `firings`-th time. -/
structure Paused (firings : ℕ) (since : ℚ) (risk : RiskManager) : Prop where
  count : (firings : ℤ) ≤ risk.breakerCount
  until_le : since + pauseSeconds firings ≤ risk.pauseUntil

variable {firings : ℕ} {since : ℚ}

lemma Paused.halted (h : Paused firings since risk) {now : ℚ} (hnow : now < since + pauseSeconds firings)
    (currentEquity : ℚ) : (risk.isTradingHalted cfg now currentEquity).1 = true := by
  obtain ⟨lock, hlock⟩ := checkHistoricalDrawdown_state cfg risk now currentEquity
  obtain ⟨stop, hstop⟩ := checkDailyLoss_state cfg
    (risk.checkHistoricalDrawdown cfg now currentEquity).2 currentEquity
  rw [isTradingHalted]
  dsimp only
  split_ifs
  · rfl
  · rfl
  · rw [hstop, hlock]
    exact decide_eq_true (hnow.trans_le h.until_le)

/-- A loss that fires the breaker begins the next pause. -/
lemma onLoss_pause (cfg : AegisConfig) (risk : RiskManager) (now : ℚ) :
    let next := risk.onLoss cfg now
    next.breakerCount = risk.breakerCount ∧ next.pauseUntil = risk.pauseUntil
      ∨ next.breakerCount = risk.breakerCount + 1
        ∧ next.pauseUntil = now + (min (4 * next.breakerCount) 48 : ℤ) * 3600 := by
  intro next
  have hnext : next = risk.onLoss cfg now := rfl
  rw [onLoss] at hnext
  dsimp only at hnext
  split_ifs at hnext
  · exact Or.inr (by rw [hnext]; exact ⟨rfl, rfl⟩)
  · exact Or.inl (by rw [hnext]; exact ⟨rfl, rfl⟩)

lemma updateStats_pause (risk : RiskManager) (pnl rMultiple : ℚ) :
    (risk.updateStats pnl rMultiple).breakerCount = risk.breakerCount
      ∧ (risk.updateStats pnl rMultiple).pauseUntil = risk.pauseUntil := by
  rw [updateStats]
  dsimp only
  split_ifs <;> exact ⟨rfl, rfl⟩

lemma Paused.close (h : Paused firings since risk) {closing : Closing} (htime : since ≤ closing.now) :
    Paused firings since (risk.close cfg closing) := by
  obtain ⟨hcount, huntil⟩ := updateStats_pause
    (if 0 < closing.pnl then risk.onWin else risk.onLoss cfg closing.now) closing.pnl closing.rMultiple
  have hpause : Paused firings since (if 0 < closing.pnl then risk.onWin else risk.onLoss cfg closing.now) := by
    split_ifs
    · exact ⟨h.count, h.until_le⟩
    · rcases onLoss_pause cfg risk closing.now with ⟨hsame, hsame'⟩ | ⟨hnext, hpause⟩
      · exact ⟨hsame ▸ h.count, hsame' ▸ h.until_le⟩
      · have hmore : (firings : ℤ) ≤ (risk.onLoss cfg closing.now).breakerCount := by
          rw [hnext]
          exact h.count.trans (by omega)
        refine ⟨hmore, ?_⟩
        rw [hpause]
        have hhours : ((min (4 * firings) 48 : ℕ) : ℤ)
            ≤ min (4 * (risk.onLoss cfg closing.now).breakerCount) 48 := by
          omega
        have hcast : ((min (4 * firings) 48 : ℕ) : ℚ)
            ≤ ((min (4 * (risk.onLoss cfg closing.now).breakerCount) 48 : ℤ) : ℚ) := by
          exact_mod_cast hhours
        rw [pauseSeconds]
        linarith
  exact ⟨hcount ▸ hpause.count, huntil ▸ hpause.until_le⟩

/-- No call cuts the pause short, if the clock does not go back. -/
lemma Paused.call (h : Paused firings since risk) {call : RiskCall}
    (htime : ∀ closing, call = .close closing → since ≤ closing.now) :
    Paused firings since (risk.call cfg call) := by
  have hother {next : RiskManager} (hnext : next.breakerCount = risk.breakerCount
      ∧ next.pauseUntil = risk.pauseUntil) : Paused firings since next :=
    ⟨hnext.1 ▸ h.count, hnext.2 ▸ h.until_le⟩
  cases call with
  | close closing => exact h.close (htime closing rfl)
  | isTradingHalted now currentEquity =>
      obtain ⟨lock, stop, hstate⟩ := isTradingHalted_state cfg risk now currentEquity
      rw [RiskManager.call, hstate]
      exact hother ⟨rfl, rfl⟩
  | recordSlippage now symbol expected actual =>
      refine hother ?_
      simp only [RiskManager.call, recordSlippage]
      split_ifs <;> simp
  | isBlacklisted now symbol =>
      refine hother ?_
      simp only [RiskManager.call, isBlacklisted]
      split_ifs <;> simp
  | resetDaily currentEquity => exact hother ⟨rfl, rfl⟩
  | resetWeekly currentEquity => exact hother ⟨rfl, rfl⟩
  | updateEquityPeaks equity => exact hother ⟨rfl, rfl⟩
  | enter => exact hother ⟨rfl, rfl⟩
  | nextBar => exact hother ⟨rfl, rfl⟩

/-- A loss that fires the breaker. -/
lemma paused_of_fires (h : Records cfg closed risk) {closing : Closing}
    (hfires : cfg.Fires (closed ++ [closing])) :
    Paused (cfg.firings (closed ++ [closing])) closing.now (risk.close cfg closing) := by
  have hcount := (h.close closing).breakerCount
  have hlost : ¬ 0 < closing.pnl := by
    intro hpnl
    have hwon : closing.won = true := decide_eq_true hpnl
    have hstreak := hfires.1
    rw [lossStreak_snoc, if_pos hwon] at hstreak
    exact lt_irrefl 0 hstreak
  have hmore : cfg.firings (closed ++ [closing]) = cfg.firings closed + 1 := by
    rw [firings_snoc, if_pos hfires]
  have hbefore := h.breakerCount
  obtain ⟨hcount', huntil⟩ := updateStats_pause (risk.onLoss cfg closing.now) closing.pnl closing.rMultiple
  rw [RiskManager.close, if_neg hlost] at hcount ⊢
  rw [hcount'] at hcount
  rcases onLoss_pause cfg risk closing.now with ⟨hsame, -⟩ | ⟨-, hpause⟩
  · rw [hsame, hbefore, hmore] at hcount
    omega
  · refine ⟨by rw [hcount', hcount], ?_⟩
    rw [huntil, hpause, hcount, pauseSeconds]
    have hhours : ((min (4 * cfg.firings (closed ++ [closing])) 48 : ℕ) : ℤ)
        = min (4 * (cfg.firings (closed ++ [closing]) : ℤ)) 48 := by
      omega
    rw [← hhours]
    exact le_of_eq (by push_cast; rfl)

/-- **The record.**  After any calls the counters count all closed trades, the averages are taken over them, the
expectancy is the mean of their multiples, and the breaker has been fired by each losing streak whenever it
reached a multiple of `max_consecutive_losses`.  From the loss that fired it on, trading is halted for four hours
for each time it has been fired, up to two days, whatever is called until then, as long as the clock does not go
back. -/
theorem risk_record (cfg : AegisConfig) (calls : List RiskCall) :
    Records cfg (closings calls) (afterCalls cfg calls)
      ∧ ∀ past closing rest, calls = past ++ .close closing :: rest →
        cfg.Fires (closings past ++ [closing]) →
        (∀ later, .close later ∈ rest → closing.now ≤ later.now) → ∀ now currentEquity,
        now < closing.now + pauseSeconds (cfg.firings (closings past ++ [closing])) →
        ((afterCalls cfg calls).isTradingHalted cfg now currentEquity).1 = true := by
  refine ⟨records_afterCalls cfg calls, ?_⟩
  rintro past closing rest rfl hfires hclock now currentEquity hnow
  suffices h : Paused (cfg.firings (closings past ++ [closing])) closing.now
      (afterCalls cfg (past ++ .close closing :: rest)) from h.halted hnow currentEquity
  clear hnow
  induction rest using List.reverseRecOn with
  | nil =>
      rw [afterCalls, List.foldl_concat]
      exact paused_of_fires (records_afterCalls cfg past) hfires
  | append_singleton rest call ih =>
      rw [← List.cons_append, ← List.append_assoc, afterCalls, List.foldl_concat]
      refine (ih fun later hin => hclock later (List.mem_append_left _ hin)).call fun later hlater => ?_
      exact hclock later (hlater ▸ List.mem_append_right _ (List.mem_singleton_self _))

/-- A loss of one unit of risk at this time. -/
def lossAt (now : ℚ) : RiskCall := .close ⟨now, -10, 10⟩

/-- The fourth loss in a row halts trading for four hours. -/
theorem risk_record_fourLosses :
    ((afterCalls {} [lossAt 1, lossAt 2, lossAt 3, lossAt 4]).isTradingHalted {} 14403 0).1 = true := by
  obtain ⟨-, hhalted⟩ := risk_record {} [lossAt 1, lossAt 2, lossAt 3, lossAt 4]
  exact hhalted [lossAt 1, lossAt 2, lossAt 3] ⟨4, -10, 10⟩ [] rfl (by decide +kernel)
    (fun later hin => absurd hin List.not_mem_nil) 14403 0 (by decide +kernel)

end RiskManager

end Aegis.Pro
