import AegisFortress.Lib.History
import AegisFortress.Risk.KillSwitch
import Mathlib.Algebra.BigOperators.Group.List.Basic
import Mathlib.Algebra.Order.Field.Basic
import Mathlib.Order.Bounds.Basic

/-!
# What has tripped the kill switch

The switch keeps a running sum, a running peak and a latch.  `Breach` says without them when a call
trips it: from the calls since the last `reset` alone.  `Tracks` ties the two together
(`Tracks.call`), and `triggered_iff_breach` reads the latch and its reason off the history.
-/

namespace Aegis

/-- A call on a kill switch. -/
inductive KillSwitchCall
  | trigger (reason : String)
  | updateBalance (currentBalance : ℚ)
  | updatePnl (pnl : ℚ)
  | reset

namespace KillSwitch

open History KillSwitchCall

/-- The switch after a call, and what the call returns; `trigger` and `reset` return nothing. -/
def call (switch : KillSwitch ℚ) : KillSwitchCall → KillSwitch ℚ × Option Bool
  | .trigger reason => (switch.trigger reason, none)
  | .updateBalance currentBalance => (switch.updateBalance currentBalance).map id some
  | .updatePnl pnl => (switch.updatePnl pnl).map id some
  | .reset => (switch.reset, none)

/-- The switch after some calls. -/
def after (switch : KillSwitch ℚ) (calls : List KillSwitchCall) : KillSwitch ℚ :=
  calls.foldl (fun s c => (s.call c).1) switch

/-! ## The history -/

/-- The calls since the last `reset`. -/
def sinceReset (calls : List KillSwitchCall) : List KillSwitchCall :=
  calls.rtakeWhile fun c => match c with
    | .reset => false
    | _ => true

/-- The positive balances that have been reported. -/
def balances (calls : List KillSwitchCall) : Set ℚ := {b | 0 < b ∧ .updateBalance b ∈ calls}

/-- The profit of the day. -/
def pnlOf (calls : List KillSwitchCall) : ℚ :=
  (calls.map fun c => match c with
    | .updatePnl pnl => pnl
    | _ => 0).sum

/-- The calls that trip a switch, with the reason they give; `past` is what was called before. -/
inductive Breach (maxDailyLoss maxDrawdownPct : ℚ) (past : List KillSwitchCall) :
    KillSwitchCall → String → Prop
  | explicit (reason : String) : Breach maxDailyLoss maxDrawdownPct past (.trigger reason) reason
  | ruin (b : ℚ) (hb : b ≤ 0) : Breach maxDailyLoss maxDrawdownPct past (.updateBalance b)
      "Current balance is zero or negative"
  | drawdown (b peak : ℚ) (hb : 0 < b)
      (hpeak : IsGreatest (balances (past ++ [.updateBalance b])) peak)
      (h : maxDrawdownPct ≤ (peak - b) / peak * 100) :
      Breach maxDailyLoss maxDrawdownPct past (.updateBalance b)
        (s!"Drawdown {PyFloat.fixed 4 ((peak - b) / peak * 100)}% exceeded "
          ++ s!"limit {PyFloat.fixed 4 maxDrawdownPct}%")
  | loss (pnl : ℚ) (h : pnlOf (past ++ [.updatePnl pnl]) ≤ -maxDailyLoss) :
      Breach maxDailyLoss maxDrawdownPct past (.updatePnl pnl)
        (s!"Daily loss {PyFloat.fixed 8 (pnlOf (past ++ [.updatePnl pnl]))} exceeded "
          ++ s!"limit {PyFloat.fixed 8 (-maxDailyLoss)}")

lemma sinceReset_reset (calls : List KillSwitchCall) : sinceReset (calls ++ [.reset]) = [] := by
  rw [sinceReset, List.rtakeWhile_concat_neg]
  simp

lemma sinceReset_snoc (calls : List KillSwitchCall) {c : KillSwitchCall} (hc : c ≠ .reset) :
    sinceReset (calls ++ [c]) = sinceReset calls ++ [c] := by
  rw [sinceReset, List.rtakeWhile_concat_pos, sinceReset]
  cases c with
  | reset => exact absurd rfl hc
  | _ => rfl

lemma pnlOf_snoc (calls : List KillSwitchCall) (c : KillSwitchCall) :
    pnlOf (calls ++ [c]) = pnlOf calls + pnlOf [c] := by
  rw [pnlOf, List.map_append, List.sum_append]
  rfl

lemma pnlOf_of_ne {c : KillSwitchCall} (hc : ∀ pnl, c ≠ .updatePnl pnl) : pnlOf [c] = 0 := by
  cases c with
  | updatePnl pnl => exact absurd rfl (hc pnl)
  | _ => simp [pnlOf]

/-! ## The accumulators and the latch -/

variable {maxDailyLoss maxDrawdownPct : ℚ} {past : List KillSwitchCall} {c : KillSwitchCall}
  {switch switch' : KillSwitch ℚ} {reason : String}

/-- The running sum and the running peak are those of these calls. -/
structure Counts (maxDailyLoss maxDrawdownPct : ℚ) (past : List KillSwitchCall)
    (switch : KillSwitch ℚ) : Prop where
  loss_limit : switch.maxDailyLoss = maxDailyLoss
  drawdown_limit : switch.maxDrawdownPct = maxDrawdownPct
  pnl : switch.dailyPnl = pnlOf past
  peak_none : switch.peakBalance = none → balances past = ∅
  peak_some : ∀ peak, switch.peakBalance = some peak → IsGreatest (balances past) peak

/-- The switch has tripped when one of these calls was a breach, for the reason of the first. -/
structure Latches (maxDailyLoss maxDrawdownPct : ℚ) (past : List KillSwitchCall)
    (switch : KillSwitch ℚ) : Prop where
  latch : switch.triggered = true ↔ Happened (Breach maxDailyLoss maxDrawdownPct) past
  first : ∀ reason, switch.reason = some reason
    ↔ First (Breach maxDailyLoss maxDrawdownPct) past reason

lemma balances_snoc_of_ne (hc : ∀ b, c = .updateBalance b → ¬ 0 < b) :
    balances (past ++ [c]) = balances past := by
  ext b
  simp only [balances, Set.mem_ofPred_eq, List.mem_append, List.mem_singleton]
  constructor
  · rintro ⟨hb, hmem | heq⟩
    · exact ⟨hb, hmem⟩
    · exact absurd hb (hc b heq.symm)
  · exact fun ⟨hb, hmem⟩ => ⟨hb, Or.inl hmem⟩

lemma mem_balances_snoc {b x : ℚ} (hb : 0 < b) :
    x ∈ balances (past ++ [.updateBalance b]) ↔ x ∈ balances past ∨ x = b := by
  simp only [balances, Set.mem_ofPred_eq, List.mem_append, List.mem_singleton, updateBalance.injEq]
  constructor
  · rintro ⟨hx, hmem | rfl⟩
    · exact Or.inl ⟨hx, hmem⟩
    · exact Or.inr rfl
  · rintro (⟨hx, hmem⟩ | rfl)
    · exact ⟨hx, Or.inl hmem⟩
    · exact ⟨hb, Or.inr rfl⟩

/-- A positive balance makes the peak the greatest balance so far. -/
lemma Counts.peakWith (h : Counts maxDailyLoss maxDrawdownPct past switch) {b : ℚ} (hb : 0 < b) :
    IsGreatest (balances (past ++ [.updateBalance b])) (switch.peakWith b) := by
  rw [KillSwitch.peakWith]
  cases hpeak : switch.peakBalance with
  | none =>
      have hempty := h.peak_none hpeak
      refine ⟨(mem_balances_snoc hb).mpr (Or.inr rfl), fun x hx => ?_⟩
      rcases (mem_balances_snoc hb).mp hx with hx | rfl
      · rw [hempty] at hx
        exact hx.elim
      · exact le_rfl
  | some peak =>
      obtain ⟨hmem, hbound⟩ := h.peak_some peak hpeak
      dsimp only
      split_ifs with hlt
      · refine ⟨(mem_balances_snoc hb).mpr (Or.inr rfl), fun x hx => ?_⟩
        rcases (mem_balances_snoc hb).mp hx with hx | rfl
        · exact (hbound hx).trans hlt.le
        · exact le_rfl
      · refine ⟨(mem_balances_snoc hb).mpr (Or.inl hmem), fun x hx => ?_⟩
        rcases (mem_balances_snoc hb).mp hx with hx | rfl
        · exact hbound hx
        · exact not_lt.mp hlt

/-- The peak is positive, so that the drawdown can be divided by it. -/
lemma Counts.peak_pos (h : Counts maxDailyLoss maxDrawdownPct past switch) {b : ℚ} (hb : 0 < b) :
    0 < switch.peakWith b :=
  (h.peakWith hb).1.1

/-- A call that is no breach leaves the latch as it was. -/
lemma Latches.keep (h : Latches maxDailyLoss maxDrawdownPct past switch)
    (hnone : ∀ reason, ¬ Breach maxDailyLoss maxDrawdownPct past c reason)
    (htriggered : switch'.triggered = switch.triggered) (hreason : switch'.reason = switch.reason) :
    Latches maxDailyLoss maxDrawdownPct (past ++ [c]) switch' := by
  refine ⟨?_, fun reason => ?_⟩
  · rw [htriggered, h.latch, happened_snoc]
    exact ⟨Or.inl, fun hor => hor.resolve_right fun ⟨reason, hbreach⟩ => hnone reason hbreach⟩
  · rw [hreason, h.first, first_snoc]
    exact ⟨Or.inl, fun hor => hor.resolve_right fun hbreach => hnone reason hbreach.1⟩

/-- A breach trips the switch, and gives its reason unless there is one already. -/
lemma Latches.trip (h : Latches maxDailyLoss maxDrawdownPct past switch)
    (hbreach : ∀ r, Breach maxDailyLoss maxDrawdownPct past c r ↔ r = reason)
    (htriggered : switch'.triggered = switch.triggered) (hreason : switch'.reason = switch.reason) :
    Latches maxDailyLoss maxDrawdownPct (past ++ [c]) (switch'.trigger reason) := by
  refine ⟨?_, fun r => ?_⟩
  · simp only [trigger_triggered, true_iff]
    exact happened_snoc.mpr (Or.inr ⟨reason, (hbreach reason).mpr rfl⟩)
  · rw [first_snoc, hbreach, trigger, htriggered]
    split_ifs with htrip
    · rw [hreason, h.first]
      exact ⟨Or.inl, fun hor => hor.resolve_right fun hnew => hnew.2 (h.latch.mp htrip)⟩
    · have hnone : ¬ Happened (Breach maxDailyLoss maxDrawdownPct) past := mt h.latch.mpr htrip
      constructor
      · exact fun hr => Or.inr ⟨(Option.some.inj hr).symm, hnone⟩
      · rintro (hold | ⟨rfl, -⟩)
        · exact absurd hold.happened hnone
        · rfl

/-! ## One call -/

/-- Both parts, after the calls since the last `reset`. -/
structure Tracks (maxDailyLoss maxDrawdownPct : ℚ) (past : List KillSwitchCall)
    (switch : KillSwitch ℚ) : Prop extends Counts maxDailyLoss maxDrawdownPct past switch,
    Latches maxDailyLoss maxDrawdownPct past switch

lemma tracks_nil (hloss : switch.maxDailyLoss = maxDailyLoss)
    (hdrawdown : switch.maxDrawdownPct = maxDrawdownPct) (hpnl : switch.dailyPnl = 0)
    (hpeak : switch.peakBalance = none) (htriggered : switch.triggered = false)
    (hreason : switch.reason = none) : Tracks maxDailyLoss maxDrawdownPct [] switch where
  loss_limit := hloss
  drawdown_limit := hdrawdown
  pnl := hpnl
  peak_none _ := Set.eq_empty_of_forall_notMem fun _ hb => List.not_mem_nil hb.2
  peak_some peak h := by
    rw [hpeak] at h
    cases h
  latch := by
    rw [htriggered]
    exact ⟨fun h => (Bool.false_ne_true h).elim, fun h => (not_happened_nil h).elim⟩
  first reason := by
    rw [hreason]
    exact ⟨fun h => (Option.some_ne_none _ h.symm).elim, fun h => (not_happened_nil h.happened).elim⟩

/-- Tripping touches neither the sum nor the peak. -/
lemma Counts.trigger (h : Counts maxDailyLoss maxDrawdownPct past switch) :
    Counts maxDailyLoss maxDrawdownPct past (switch.trigger reason) := by
  rw [KillSwitch.trigger]
  split_ifs
  · exact h
  · exact ⟨h.loss_limit, h.drawdown_limit, h.pnl, h.peak_none, h.peak_some⟩

/-- A call that is neither a profit nor a positive balance is not counted. -/
lemma Counts.snoc (h : Counts maxDailyLoss maxDrawdownPct past switch)
    (hpnl : ∀ pnl, c ≠ .updatePnl pnl) (hc : ∀ b, c = .updateBalance b → ¬ 0 < b) :
    Counts maxDailyLoss maxDrawdownPct (past ++ [c]) switch := by
  refine ⟨h.loss_limit, h.drawdown_limit, ?_, ?_, ?_⟩
  · rw [pnlOf_snoc, pnlOf_of_ne hpnl, add_zero]
    exact h.pnl
  · rw [balances_snoc_of_ne hc]
    exact h.peak_none
  · rw [balances_snoc_of_ne hc]
    exact h.peak_some

lemma Tracks.trigger (h : Tracks maxDailyLoss maxDrawdownPct past switch) (reason : String) :
    Tracks maxDailyLoss maxDrawdownPct (past ++ [.trigger reason]) (switch.trigger reason) := by
  refine ⟨(h.toCounts.snoc (by simp) (by simp)).trigger,
    h.toLatches.trip (fun r => ?_) rfl rfl⟩
  constructor
  · rintro ⟨⟩
    rfl
  · rintro rfl
    exact .explicit r

lemma Tracks.updateBalance (h : Tracks maxDailyLoss maxDrawdownPct past switch) (b : ℚ) :
    Tracks maxDailyLoss maxDrawdownPct (past ++ [.updateBalance b]) (switch.updateBalance b).1 := by
  have hlimit := h.drawdown_limit
  subst hlimit
  rw [KillSwitch.updateBalance]
  by_cases hb : b ≤ 0
  · rw [if_pos hb]
    refine ⟨(h.toCounts.snoc (by simp) ?_).trigger, h.toLatches.trip (fun r => ?_) rfl rfl⟩
    · rintro _ ⟨⟩
      exact not_lt.mpr hb
    · constructor
      · intro hbreach
        cases hbreach with
        | ruin => rfl
        | drawdown _ _ hpos => exact absurd hpos (not_lt.mpr hb)
      · rintro rfl
        exact .ruin b hb
  · have hpos : 0 < b := not_le.mp hb
    have hpeak := h.toCounts.peakWith hpos
    have hcounts : Counts maxDailyLoss switch.maxDrawdownPct (past ++ [.updateBalance b])
        { switch with peakBalance := some (switch.peakWith b) } := by
      refine ⟨h.loss_limit, rfl, ?_, fun hnone => (Option.some_ne_none _ hnone).elim, ?_⟩
      · rw [pnlOf_snoc, pnlOf_of_ne (by simp), add_zero]
        exact h.pnl
      · rintro peak ⟨⟩
        exact hpeak
    simp only [hb, if_false, ofRat_rat]
    split_ifs with hdrawdown
    · refine ⟨hcounts.trigger, h.toLatches.trip (fun r => ?_) rfl rfl⟩
      constructor
      · intro hbreach
        cases hbreach with
        | ruin _ hruin => exact absurd hruin hb
        | drawdown _ peak _ hgreatest => rw [hgreatest.unique hpeak]
      · rintro rfl
        exact .drawdown b _ hpos hpeak hdrawdown
    · refine ⟨hcounts, h.toLatches.keep (fun r hbreach => ?_) rfl rfl⟩
      cases hbreach with
      | ruin _ hruin => exact hb hruin
      | drawdown _ peak _ hgreatest hlimit =>
          rw [hgreatest.unique hpeak] at hlimit
          exact hdrawdown hlimit

lemma Tracks.updatePnl (h : Tracks maxDailyLoss maxDrawdownPct past switch) (pnl : ℚ) :
    Tracks maxDailyLoss maxDrawdownPct (past ++ [.updatePnl pnl]) (switch.updatePnl pnl).1 := by
  have hlimit : |switch.maxDailyLoss| = maxDailyLoss := by
    rw [abs_of_pos (not_le.mp switch.loss_checked), h.loss_limit]
  have hsum : switch.dailyPnl + pnl = pnlOf (past ++ [.updatePnl pnl]) := by
    rw [pnlOf_snoc, ← h.pnl]
    simp [pnlOf]
  have hsame : balances (past ++ [.updatePnl pnl]) = balances past :=
    balances_snoc_of_ne (by simp)
  have hcounts : Counts maxDailyLoss maxDrawdownPct (past ++ [.updatePnl pnl])
      { switch with dailyPnl := switch.dailyPnl + pnl } := by
    refine ⟨h.loss_limit, h.drawdown_limit, hsum, ?_, ?_⟩
    · rw [hsame]
      exact h.peak_none
    · rw [hsame]
      exact h.peak_some
  simp only [KillSwitch.updatePnl, pyAbs_rat, hlimit]
  split_ifs with hloss
  · refine ⟨hcounts.trigger, h.toLatches.trip (fun r => ?_) rfl rfl⟩
    rw [hsum] at hloss ⊢
    constructor
    · rintro ⟨⟩
      rfl
    · rintro rfl
      exact .loss pnl hloss
  · refine ⟨hcounts, h.toLatches.keep (fun r hbreach => ?_) rfl rfl⟩
    rw [hsum] at hloss
    cases hbreach with
    | loss _ hlimit => exact hloss hlimit

/-- **A call keeps the switch in step with its history.** -/
theorem Tracks.call {calls : List KillSwitchCall}
    (h : Tracks maxDailyLoss maxDrawdownPct (sinceReset calls) switch) (c : KillSwitchCall) :
    Tracks maxDailyLoss maxDrawdownPct (sinceReset (calls ++ [c])) (switch.call c).1 := by
  cases c with
  | trigger reason =>
      rw [sinceReset_snoc calls (by simp)]
      exact h.trigger reason
  | updateBalance b =>
      rw [sinceReset_snoc calls (by simp)]
      exact h.updateBalance b
  | updatePnl pnl =>
      rw [sinceReset_snoc calls (by simp)]
      exact h.updatePnl pnl
  | reset =>
      rw [sinceReset_reset]
      exact tracks_nil h.loss_limit h.drawdown_limit rfl rfl rfl rfl

/-! ## All calls -/

lemma after_snoc (switch : KillSwitch ℚ) (calls : List KillSwitchCall) (c : KillSwitchCall) :
    switch.after (calls ++ [c]) = ((switch.after calls).call c).1 := by
  rw [after, List.foldl_append]
  rfl

theorem tracks_after (h : init maxDailyLoss maxDrawdownPct = .ok switch)
    (calls : List KillSwitchCall) :
    Tracks maxDailyLoss maxDrawdownPct (sinceReset calls) (switch.after calls) := by
  induction calls using List.reverseRecOn with
  | nil =>
      rw [init] at h
      split_ifs at h
      cases h
      exact tracks_nil rfl rfl rfl rfl rfl rfl
  | append_singleton calls c ih =>
      rw [after_snoc]
      exact ih.call c

lemma updateBalance_returns (switch : KillSwitch ℚ) (b : ℚ) :
    (switch.updateBalance b).2 = !(switch.updateBalance b).1.triggered := by
  rw [KillSwitch.updateBalance]
  split_ifs
  · rw [trigger_triggered, Bool.not_true]
  · simp only
    split_ifs
    · rw [trigger_triggered, Bool.not_true]
    · rfl

lemma updatePnl_returns (switch : KillSwitch ℚ) (pnl : ℚ) :
    (switch.updatePnl pnl).2 = !(switch.updatePnl pnl).1.triggered := by
  simp only [KillSwitch.updatePnl]
  split_ifs
  · rw [trigger_triggered, Bool.not_true]
  · rfl

/-- An update returns whether the switch has not tripped. -/
lemma call_returns (switch : KillSwitch ℚ) (c : KillSwitchCall) {returned : Bool}
    (h : (switch.call c).2 = some returned) : returned = !(switch.call c).1.triggered := by
  cases c with
  | trigger reason => cases h
  | reset => cases h
  | updateBalance b => exact (Option.some.inj h).symm.trans (updateBalance_returns switch b)
  | updatePnl pnl => exact (Option.some.inj h).symm.trans (updatePnl_returns switch pnl)

/-- After any calls the switch has tripped exactly when one of those since the last `reset` was a
breach, and its reason is that of the first; an update returns whether it has not tripped, and the
balance it is given is compared with a positive peak. -/
theorem triggered_iff_breach (maxDailyLoss maxDrawdownPct : ℚ) (switch : KillSwitch ℚ)
    (h : init maxDailyLoss maxDrawdownPct = .ok switch) (calls : List KillSwitchCall) :
    ((switch.after calls).triggered = true
        ↔ Happened (Breach maxDailyLoss maxDrawdownPct) (sinceReset calls))
      ∧ (∀ reason, (switch.after calls).reason = some reason
        ↔ First (Breach maxDailyLoss maxDrawdownPct) (sinceReset calls) reason)
      ∧ (∀ c returned, ((switch.after calls).call c).2 = some returned →
        returned = !((switch.after calls).call c).1.triggered)
      ∧ ∀ b, 0 < b → 0 < (switch.after calls).peakWith b := by
  have htracks := tracks_after h calls
  exact ⟨htracks.latch, htracks.first, fun c _ hc => call_returns _ c hc,
    fun b hb => htracks.toCounts.peak_pos hb⟩

/-- A switch with limits 5 and 10, tripped by a balance that has fallen by a tenth. -/
theorem triggered_iff_breach_fallen : ∃ switch, init 5 10 = .ok switch
    ∧ Happened (Breach 5 10) (sinceReset [.reset, .updateBalance 100, .updateBalance 90]) := by
  refine ⟨_, rfl, ?_⟩
  refine (triggered_iff_breach 5 10 _ rfl _).1.mp ?_
  decide +kernel

end KillSwitch

end Aegis
