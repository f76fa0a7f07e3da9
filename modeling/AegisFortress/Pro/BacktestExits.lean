import AegisFortress.Pro.Backtester
import Mathlib.Tactic.Linarith

/-!
# The exits of the backtester

A stop is taken to fill at its own price, although the bar may have opened below it and never been as
high.  `attainable_iff` says for one bar when an exit is a price that the bar has seen, and
`exits_attainable_iff` says it for every bar of a run.  With sensible multiples all that is left of the
condition is that no bar stays below the stop of the position it meets; and as the stop of a position
that is kept is below the low of the bar (`stopLoss_lt_of_kept`), that is a gap.
-/

namespace Aegis.Pro.Backtester

/-- A bar as an exchange reports it. -/
structure WellFormed (bar : Bar) : Prop where
  low_open : bar.l ≤ bar.o
  open_high : bar.o ≤ bar.h
  low_close : bar.l ≤ bar.c
  close_high : bar.c ≤ bar.h

/-- **A price of an exit that the bar has seen**, up to the slippage of a time stop. -/
def Attainable (bar : Bar) (exit : ℚ × ExitReason) : Prop :=
  (if exit.2 = .timeStop then bar.l * (1 - slippage) else bar.l) ≤ exit.1 ∧ exit.1 ≤ bar.h

instance (bar : Bar) (exit : ℚ × ExitReason) : Decidable (Attainable bar exit) :=
  inferInstanceAs (Decidable (_ ∧ _))

variable (cfg : AegisConfig) (signals : ℕ → Option BarSignal) (bars : List Bar)

/-- The exit of a bar, if it has one, is attainable. -/
def ExitAttainable (pos : Position) (bar : Bar) (barIdx : ℕ) : Prop :=
  ∀ exit ∈ (checkExit guardEps cfg pos bar barIdx).1, Attainable bar exit

/-- The open positions of a run, each with the bar that it meets. -/
def positionsMet (symbol : String) (initialCapital : ℚ) : List (Position × LoopBar) :=
  if bars.length < 230 then []
  else
    (barsMet cfg signals bars symbol initialCapital).filterMap fun met =>
      met.1.position.map fun pos => (pos, met.2)

/-- **Every exit of a run is attainable.** -/
def ExitsAttainable (symbol : String) (initialCapital : ℚ) : Prop :=
  ∀ met ∈ positionsMet cfg signals bars symbol initialCapital,
    ExitAttainable cfg met.1 met.2.bar met.2.i

instance (pos : Position) (bar : Bar) (barIdx : ℕ) : Decidable (ExitAttainable cfg pos bar barIdx) :=
  inferInstanceAs (Decidable (∀ exit ∈ (_ : Option _), _))

instance (symbol : String) (initialCapital : ℚ) :
    Decidable (ExitsAttainable cfg signals bars symbol initialCapital) :=
  inferInstanceAs (Decidable (∀ met ∈ (_ : List _), _))

/-! ## The condition -/

/-- The trailing stop of a bar is reached. -/
def Trailed (pos : Position) (bar : Bar) : Prop :=
  (managed guardEps cfg pos bar.h).trailActive ∧ bar.l ≤ (managed guardEps cfg pos bar.h).stopLoss

/-- The position has been open for too long without a profit. -/
def TimedOut (pos : Position) (bar : Bar) (barIdx : ℕ) : Prop :=
  cfg.timeStopCandles ≤ (barIdx : ℤ) - pos.entryBar
    ∧ (bar.c - pos.entryPrice) * (managed guardEps cfg pos bar.h).qty ≤ 0

instance (pos : Position) (bar : Bar) : Decidable (Trailed cfg pos bar) :=
  inferInstanceAs (Decidable (_ ∧ _))

instance (pos : Position) (bar : Bar) (barIdx : ℕ) : Decidable (TimedOut cfg pos bar barIdx) :=
  inferInstanceAs (Decidable (_ ∧ _))

/-- **When the exit of a bar is attainable.**  The bar has been as high as the stop.  If it has stayed above
it: the first target is not below the entry price, a trailing stop is not above the bar, and the close of
a time stop is not so negative that the slippage raises it above the bar. -/
structure Fits (pos : Position) (bar : Bar) (barIdx : ℕ) : Prop where
  stop : pos.stopLoss ≤ bar.h
  target : pos.stopLoss < bar.l → ¬ pos.tp1Taken → pos.tp1 ≤ bar.h → pos.entryPrice ≤ bar.h
  trail : pos.stopLoss < bar.l → (managed guardEps cfg pos bar.h).trailActive → 0 ≤ pos.atr
  time : pos.stopLoss < bar.l → ¬ Trailed cfg pos bar → TimedOut cfg pos bar barIdx →
    bar.c * (1 - slippage) ≤ bar.h

/-! ## One bar -/

section Bar

variable {cfg} {pos pos' : Position} {bar : Bar} {barIdx : ℕ}

/-- The stop after the targets of a bar. -/
lemma managed_stopLoss (high : ℚ) : (managed guardEps cfg pos high).stopLoss
    = if (managed guardEps cfg pos high).trailActive then
        max (takeTp1 cfg pos high).stopLoss (high - 2 * pos.atr)
      else (takeTp1 cfg pos high).stopLoss := by
  have hsecond : (takeTp2 guardEps cfg (takeTp1 cfg pos high) high).stopLoss
      = (takeTp1 cfg pos high).stopLoss := by
    rw [takeTp2]
    split_ifs <;> rfl
  have hatr : (takeTp2 guardEps cfg (takeTp1 cfg pos high) high).atr = pos.atr :=
    ((takeTp1_sameEntry high).trans (takeTp2_sameEntry high)).atr
  simp only [managed, trail]
  split_ifs with hactive
  · rw [hsecond, hatr]
  · exact hsecond

lemma managed_trailActive (high : ℚ) : (managed guardEps cfg pos high).trailActive
    = (takeTp1 cfg pos high).trailActive := by
  rw [managed, trail, takeTp2]
  split_ifs <;> rfl

/-- The first target moves the stop to the entry price, and lets it trail. -/
lemma takeTp1_stopLoss (high : ℚ) : (takeTp1 cfg pos high).stopLoss
    = if ¬ pos.tp1Taken ∧ pos.tp1 ≤ high then max pos.stopLoss pos.entryPrice else pos.stopLoss := by
  rw [takeTp1, apply_ite Position.stopLoss]

lemma takeTp1_trailActive (high : ℚ) : (takeTp1 cfg pos high).trailActive
    = if ¬ pos.tp1Taken ∧ pos.tp1 ≤ high then true else pos.trailActive := by
  rw [takeTp1, apply_ite Position.trailActive]

/-- The exits of a bar that stays above the stop. -/
lemma checkExit_fst (h : pos.stopLoss < bar.l) : (checkExit guardEps cfg pos bar barIdx).1
    = if Trailed cfg pos bar then some ((managed guardEps cfg pos bar.h).stopLoss, .trailStop)
      else if TimedOut cfg pos bar barIdx then some (bar.c * (1 - slippage), .timeStop)
      else none := by
  have hsame : SameEntry pos (managed guardEps cfg pos bar.h) := managed_sameEntry bar.h
  simp only [checkExit, if_neg (not_le.mpr h), apply_ite Prod.fst, hsame.entryPrice, hsame.entryBar]
  rfl

/-- A trailing stop that is not above the bar. -/
lemma trailing_le_iff {high : ℚ} (hstop : pos.stopLoss ≤ high) :
    ((managed guardEps cfg pos high).trailActive → (managed guardEps cfg pos high).stopLoss ≤ high)
      ↔ (¬ pos.tp1Taken → pos.tp1 ≤ high → pos.entryPrice ≤ high)
        ∧ ((managed guardEps cfg pos high).trailActive → 0 ≤ pos.atr) := by
  rw [managed_stopLoss, managed_trailActive, takeTp1_trailActive, takeTp1_stopLoss]
  by_cases htarget : ¬ pos.tp1Taken ∧ pos.tp1 ≤ high
  · simp only [if_pos htarget, if_true, forall_const, max_le_iff, sub_le_self_iff]
    constructor
    · rintro ⟨⟨-, hentry⟩, hatr⟩
      exact ⟨fun _ _ => hentry, by linarith⟩
    · rintro ⟨hentry, hatr⟩
      exact ⟨⟨hstop, hentry htarget.1 htarget.2⟩, by linarith⟩
  · simp only [if_neg htarget]
    constructor
    · intro h
      refine ⟨fun hnot hreached => absurd ⟨hnot, hreached⟩ htarget, fun hactive => ?_⟩
      have hle := h hactive
      rw [if_pos hactive] at hle
      linarith [le_max_right pos.stopLoss (high - 2 * pos.atr)]
    · rintro ⟨-, hatr⟩ hactive
      rw [if_pos hactive]
      exact max_le hstop (by linarith [hatr hactive])

/-- **One bar.** -/
lemma exitAttainable_iff (hbar : WellFormed bar) :
    ExitAttainable cfg pos bar barIdx ↔ Fits cfg pos bar barIdx := by
  have hlow : bar.l ≤ bar.h := hbar.low_open.trans hbar.open_high
  rcases le_or_gt bar.l pos.stopLoss with hstop | hstop
  · simp only [ExitAttainable, checkExit_stop hstop, Option.mem_def, Option.some.injEq, forall_eq',
      Attainable, reduceCtorEq, if_false]
    constructor
    · rintro ⟨-, hhigh⟩
      exact ⟨hhigh, fun h => absurd h hstop.not_gt, fun h => absurd h hstop.not_gt,
        fun h => absurd h hstop.not_gt⟩
    · exact fun h => ⟨hstop, h.stop⟩
  · have hhigh : pos.stopLoss ≤ bar.h := hstop.le.trans hlow
    have hfits : Fits cfg pos bar barIdx
        ↔ ((managed guardEps cfg pos bar.h).trailActive → (managed guardEps cfg pos bar.h).stopLoss ≤ bar.h)
          ∧ (¬ Trailed cfg pos bar → TimedOut cfg pos bar barIdx → bar.c * (1 - slippage) ≤ bar.h) := by
      rw [trailing_le_iff hhigh]
      constructor
      · exact fun h => ⟨⟨h.target hstop, h.trail hstop⟩, h.time hstop⟩
      · rintro ⟨⟨htarget, htrail⟩, htime⟩
        exact ⟨hhigh, fun _ => htarget, fun _ => htrail, fun _ => htime⟩
    rw [hfits, ExitAttainable, checkExit_fst hstop]
    by_cases htrailed : Trailed cfg pos bar
    · simp only [if_pos htrailed, Option.mem_def, Option.some.injEq, forall_eq', Attainable, reduceCtorEq, if_false]
      constructor
      · exact fun h => ⟨fun _ => h.2, fun hnot => absurd htrailed hnot⟩
      · exact fun h => ⟨htrailed.2, h.1 htrailed.1⟩
    · have hbelow : (managed guardEps cfg pos bar.h).trailActive →
          (managed guardEps cfg pos bar.h).stopLoss ≤ bar.h := fun hactive =>
        (not_le.mp fun hle => htrailed ⟨hactive, hle⟩).le.trans hlow
      rw [if_neg htrailed, and_iff_right hbelow]
      by_cases htime : TimedOut cfg pos bar barIdx
      · have hslip : (0 : ℚ) ≤ 1 - slippage := by decide +kernel
        simp only [Option.mem_def, Option.some.injEq, forall_eq', Attainable, if_true, htrailed, htime,
          not_false_eq_true, forall_const]
        exact and_iff_right (mul_le_mul_of_nonneg_right hbar.low_close hslip)
      · simp [htime]

/-- The stop of a position that is kept is below the low of the bar. -/
lemma stopLoss_lt_of_kept (h : checkExit guardEps cfg pos bar barIdx = (none, pos')) :
    pos'.stopLoss < bar.l := by
  obtain ⟨hstop, hafter⟩ := checkExit_open h
  have hnone := congrArg Prod.fst h
  rw [checkExit_fst hstop] at hnone
  split_ifs at hnone with htrailed htime
  rw [hafter]
  by_cases hactive : (managed guardEps cfg pos bar.h).trailActive
  · exact not_le.mp fun hle => htrailed ⟨hactive, hle⟩
  · rw [managed_stopLoss, if_neg hactive, takeTp1_stopLoss]
    rw [managed_trailActive, takeTp1_trailActive] at hactive
    split_ifs at hactive ⊢
    · exact absurd rfl hactive
    · exact hstop

end Bar

/-! ## A run -/

section Run

variable {cfg signals bars} {symbol : String} {initialCapital : ℚ}

/-- A position that was opened with a range that is not negative, and a first target not below its price. -/
structure AboveEntry (pos : Position) : Prop where
  atr : 0 ≤ pos.atr
  tp1 : pos.entryPrice ≤ pos.tp1

/-- A quantity that costs anything has a positive range to the stop. -/
lemma aboveEntry_of_open (hstop : 0 ≤ cfg.atrStopMult) (htp1 : 0 ≤ cfg.atrTp1Mult) {signal : BarSignal}
    {nextOpen equity : ℚ} {i : ℕ} {pos : Position}
    (h : openPosition cfg signal nextOpen i equity = some pos) : AboveEntry pos := by
  obtain ⟨atr, -, rfl, -, hcost⟩ := openPosition_some h
  have hdist : 0 < cfg.atrStopMult * atr := by
    by_contra hnone
    simp only [newPosition, if_neg hnone, zero_mul] at hcost
    exact absurd hcost (by decide +kernel)
  have hatr : 0 < atr := pos_of_mul_pos_right hdist hstop
  exact ⟨hatr.le, le_add_of_nonneg_right (mul_nonneg htp1 hatr.le)⟩

/-- Every position of a run has what each opening establishes and each check against a bar keeps. -/
lemma positionsMet_invariant (Inv : Position → Prop)
    (hopen : ∀ signal nextOpen i equity pos,
      openPosition cfg signal nextOpen i equity = some pos → Inv pos)
    (hkept : ∀ pos high, Inv pos → Inv (managed guardEps cfg pos high)) :
    ∀ met ∈ positionsMet cfg signals bars symbol initialCapital, Inv met.1 ∧ met.2.bar ∈ bars := by
  have hstep : ∀ state, ∀ now ∈ loopBars bars, (∀ pos, state.position = some pos → Inv pos) →
      ∀ pos, (runBar cfg signals bars.length state now).position = some pos → Inv pos := by
    intro state now _ h pos' hpos'
    rcases runBar_position cfg signals hpos' with ⟨pos, hpos, hexit⟩ | ⟨equity, signal, -, hnew⟩
    · rw [(checkExit_open hexit).2]
      exact hkept pos now.bar.h (h pos hpos)
    · exact hopen _ _ _ _ _ hnew
  intro met hmet
  rw [positionsMet] at hmet
  split_ifs at hmet
  · cases hmet
  · obtain ⟨⟨state, now⟩, hin, hmap⟩ := List.mem_filterMap.mp hmet
    obtain ⟨pos, hpos, rfl⟩ := Option.map_eq_some_iff.mp hmap
    obtain ⟨hinv, hnow⟩ := History.steps_invariant _ hstep (by simp [RunState.init]) _ hin
    exact ⟨hinv pos hpos, (mem_loopBars hnow).1⟩

lemma managed_aboveEntry {pos : Position} (h : AboveEntry pos) (high : ℚ) :
    AboveEntry (managed guardEps cfg pos high) := by
  have hsame : SameEntry pos (managed guardEps cfg pos high) := managed_sameEntry high
  exact ⟨hsame.atr ▸ h.atr, hsame.entryPrice ▸ hsame.tp1 ▸ h.tp1⟩

/-- **A stop that is missed** by a bar: the position was opened just before it, or the whole bar is below
the low of the one before. -/
theorem missed_gap : (barsMet cfg signals bars symbol initialCapital).IsChain fun before now =>
    ∀ pos, now.1.position = some pos → now.2.bar.h < pos.stopLoss →
      (before.1.position.isSome ∧ now.2.bar.h < before.2.bar.l)
        ∨ ∃ equity signal, signals before.2.i = some signal
          ∧ openPosition cfg signal before.2.nextOpen before.2.i equity = some pos := by
  refine (History.steps_isChain _ _ _).imp fun before now hnext pos hpos hmissed => ?_
  rw [hnext] at hpos
  rcases runBar_position cfg signals hpos with ⟨pos', hpos', hexit⟩ | hopened
  · exact Or.inl ⟨Option.isSome_iff_exists.mpr ⟨pos', hpos'⟩, hmissed.trans (stopLoss_lt_of_kept hexit)⟩
  · exact Or.inr hopened

end Run

/-- **The exits of a run** are attainable exactly if each bar fits the position that it meets; with sensible
multiples and closes, exactly if no bar stays below the stop of its position. -/
theorem exits_attainable_iff (hbars : ∀ bar ∈ bars, WellFormed bar) (symbol : String)
    (initialCapital : ℚ) :
    (ExitsAttainable cfg signals bars symbol initialCapital
        ↔ ∀ met ∈ positionsMet cfg signals bars symbol initialCapital, Fits cfg met.1 met.2.bar met.2.i)
      ∧ (0 ≤ cfg.atrStopMult → 0 ≤ cfg.atrTp1Mult → (∀ bar ∈ bars, 0 ≤ bar.c) →
        (ExitsAttainable cfg signals bars symbol initialCapital
          ↔ ∀ met ∈ positionsMet cfg signals bars symbol initialCapital,
            met.1.stopLoss ≤ met.2.bar.h)) := by
  have hmet : ∀ met ∈ positionsMet cfg signals bars symbol initialCapital, met.2.bar ∈ bars :=
    fun met h => (positionsMet_invariant (fun _ => True) (fun _ _ _ _ _ _ => trivial)
      (fun _ _ _ => trivial) met h).2
  have hexact : ExitsAttainable cfg signals bars symbol initialCapital
      ↔ ∀ met ∈ positionsMet cfg signals bars symbol initialCapital,
        Fits cfg met.1 met.2.bar met.2.i :=
    forall₂_congr fun met h => exitAttainable_iff (hbars _ (hmet met h))
  refine ⟨hexact, fun hstop htp1 hclose => hexact.trans (forall₂_congr fun met h => ?_)⟩
  obtain ⟨habove, hbar⟩ := positionsMet_invariant AboveEntry
    (fun _ _ _ _ _ hnew => aboveEntry_of_open hstop htp1 hnew)
    (fun _ high hpos => managed_aboveEntry hpos high) met h
  constructor
  · exact fun hfits => hfits.stop
  · intro hhigh
    refine ⟨hhigh, fun _ _ hreached => habove.tp1.trans hreached, fun _ _ => habove.atr, fun _ _ _ => ?_⟩
    have hslip : 1 - slippage ≤ 1 := by decide +kernel
    exact (mul_le_of_le_one_right (hclose _ hbar) hslip).trans (hbars _ hbar).close_high

/-! ## One gap -/

/-- A bar at one price. -/
def levelBar (price : ℚ) : Bar := ⟨0, price, price, price, price, 1⟩

/-- 250 bars at 100, of which the one after the first entry has another price. -/
def gapBars (price : ℚ) : List Bar :=
  List.replicate 212 (levelBar 100) ++ levelBar price :: List.replicate 37 (levelBar 100)

/-- A signal after bar 210, with a range of 2, so that the stop is at 96.05. -/
def rangeSignal (i : ℕ) : Option BarSignal := if i = 210 then some ⟨"RANGE", .num 2⟩ else none

/-- Without a gap the exits are attainable. -/
theorem exits_attainable_iff_level : ExitsAttainable {} rangeSignal (gapBars 100) "BTC/USDT" 10000 := by
  refine ((exits_attainable_iff {} rangeSignal (gapBars 100) ?_ "BTC/USDT" 10000).2 (by decide +kernel)
    (by decide +kernel) (by decide +kernel)).mpr (by decide +kernel)
  intro bar hbar
  have hlevel : bar = levelBar 100 := by
    simp only [gapBars, List.mem_append, List.mem_cons, List.mem_replicate] at hbar
    tauto
  rw [hlevel]
  exact ⟨le_rfl, le_rfl, le_rfl, le_rfl⟩

/-- A bar at 90 that is sold at 96.05. -/
theorem gap_not_attainable :
    ¬ ExitsAttainable {} rangeSignal (gapBars 90) "BTC/USDT" 10000
      ∧ ((positionsMet {} rangeSignal (gapBars 90) "BTC/USDT" 10000).map fun met =>
          ((checkExit guardEps {} met.1 met.2.bar met.2.i).1.map Prod.fst, met.2.bar.h))
        = [(none, 100), (some (9605 / 100), 90)] := by
  decide +kernel

end Aegis.Pro.Backtester
