import AegisFortress.Models.Order
import AegisFortress.Pro.Backtester
import Mathlib.Tactic.FieldSimp
import Mathlib.Tactic.Linarith
import Mathlib.Tactic.Ring

/-!
# The accounts of the backtester

A run buys and sells: the entry of a position, its parts at the targets, and the rest at the exit.  The
equity takes the fee of the entry when the position is opened and once more when it is closed, and it
never gets the money for the parts.

`cash_eq` is the difference over a whole run, and `net_pnl_is_cash_iff` says when there is none.  With
sensible targets each position has lost more by the second fee than its parts could hide, so that the
accounts are right exactly if no position is opened.
-/

namespace Aegis.Pro.Backtester

variable (cfg : AegisConfig) (signals : ℕ → Option BarSignal) (bars : List Bar)

/-! ## Fills -/

/-- A simulated fill. -/
structure SimFill where
  side : OrderSide
  qty : ℚ
  price : ℚ

/-- **The money of a list of fills**: what is sold less what is bought, and the fee of each once. -/
def cashFlow (fills : List SimFill) : ℚ :=
  (fills.map fun fill => -fill.side.signed (fill.price * fill.qty) - takerFee * (fill.price * fill.qty)).sum

/-- The parts of a position sold at the targets of a bar. -/
def targetFills (pos : Position) (high : ℚ) : List SimFill :=
  let first := takeTp1 cfg pos high
  let second := takeTp2 guardEps cfg first high
  (if first.tp1Taken ≠ pos.tp1Taken then [⟨.sell, pos.qty - first.qty, pos.tp1⟩] else [])
    ++ if second.tp2Taken ≠ first.tp2Taken then [⟨.sell, first.qty - second.qty, pos.tp2⟩] else []

/-- The targets that a bar reaches: none if it starts with the stop. -/
def partFills (pos : Position) (now : LoopBar) : List SimFill :=
  if now.bar.l ≤ pos.stopLoss then [] else targetFills cfg pos now.bar.h

/-- What is sold of a position at a bar. -/
def exitFills (pos : Position) (now : LoopBar) : List SimFill :=
  partFills cfg pos now ++
    match checkExit guardEps cfg pos now.bar now.i with
    | (some (price, reason), pos) => [⟨.sell, pos.qty, fillPrice price reason⟩]
    | (none, _) => []

/-- The fills of one bar. -/
def barFills (n : ℕ) (state : RunState) (now : LoopBar) : List SimFill :=
  (state.position.elim [] fun pos => exitFills cfg pos now) ++
    (entryAt cfg signals n now (manage cfg now state)).elim [] fun pos =>
      [⟨.buy, pos.qty, pos.entryPrice⟩]

/-- The fill of the forced sale at the end. -/
def lastFill (state : RunState) : List SimFill :=
  match state.position, bars.getLast? with
  | some pos, some last => [⟨.sell, pos.qty, fillPrice last.c .ended⟩]
  | _, _ => []

/-- **The fills of a run.** -/
def runFills (symbol : String) (initialCapital : ℚ) : List SimFill :=
  if bars.length < 230 then []
  else
    ((barsMet cfg signals bars symbol initialCapital).flatMap fun met =>
        barFills cfg signals bars.length met.1 met.2)
      ++ lastFill bars (loop cfg signals bars symbol initialCapital)

/-! ## What is booked wrongly -/

/-- The profit of parts that is not booked. -/
def unbooked (pos : Position) (parts : List SimFill) : ℚ :=
  (parts.map fun fill => fill.qty * (fill.price * (1 - takerFee) - pos.entryPrice)).sum

/-- What one bar leaves out: the profit of the parts, and the second entry fee at the exit. -/
def barError (state : RunState) (now : LoopBar) : ℚ :=
  state.position.elim 0 fun pos =>
    unbooked pos (partFills cfg pos now)
      + if (checkExit guardEps cfg pos now.bar now.i).1.isSome then pos.entryFee else 0

/-- **What a run leaves out.** -/
def runError (symbol : String) (initialCapital : ℚ) : ℚ :=
  if bars.length < 230 then 0
  else
    ((barsMet cfg signals bars symbol initialCapital).map fun met => barError cfg met.1 met.2).sum
      + (loop cfg signals bars symbol initialCapital).position.elim 0 Position.entryFee

/-- What the open position has cost. -/
def openCost (state : RunState) : ℚ := state.position.elim 0 fun pos => pos.entryPrice * pos.qty

/-! ## One bar -/

section Bar

variable {cfg signals bars} {pos pos' : Position} {now : LoopBar} {state : RunState} {n : ℕ}

lemma cashFlow_append (fills more : List SimFill) :
    cashFlow (fills ++ more) = cashFlow fills + cashFlow more := by
  rw [cashFlow, List.map_append, List.sum_append, ← cashFlow, ← cashFlow]

/-- A target changes the quantity only when it is taken. -/
lemma takeTp1_qty {high : ℚ} (h : (takeTp1 cfg pos high).tp1Taken = pos.tp1Taken) :
    (takeTp1 cfg pos high).qty = pos.qty := by
  rw [takeTp1] at h ⊢
  split_ifs with htaken
  · rw [if_pos htaken] at h
    exact absurd h.symm htaken.1
  · rfl

lemma takeTp2_qty {eps high : ℚ} (h : (takeTp2 eps cfg pos high).tp2Taken = pos.tp2Taken) :
    (takeTp2 eps cfg pos high).qty = pos.qty := by
  rw [takeTp2] at h ⊢
  split_ifs with htaken
  · rw [if_pos htaken] at h
    exact absurd h.symm htaken.2.1
  · rfl

lemma managed_qty (high : ℚ) : (managed guardEps cfg pos high).qty
    = (takeTp2 guardEps cfg (takeTp1 cfg pos high) high).qty := by
  rw [managed, trail]
  split_ifs <;> rfl

/-- A sum over the parts of a bar; a target that is not taken sells nothing. -/
lemma sum_targetFills (pos : Position) (high : ℚ) {gain : SimFill → ℚ}
    (hgain : ∀ price, gain ⟨.sell, 0, price⟩ = 0) :
    let first := takeTp1 cfg pos high
    let second := takeTp2 guardEps cfg first high
    ((targetFills cfg pos high).map gain).sum
      = gain ⟨.sell, pos.qty - first.qty, pos.tp1⟩ + gain ⟨.sell, first.qty - second.qty, pos.tp2⟩ := by
  intro first second
  have hpart : ∀ {taken : Prop} [Decidable taken] {qty rest price : ℚ}, (¬ taken → rest = qty) →
      ((if taken then [⟨.sell, qty - rest, price⟩] else []).map gain).sum
        = gain ⟨.sell, qty - rest, price⟩ := by
    intro taken _ qty rest price hkept
    split_ifs with htaken
    · rw [List.map_singleton, List.sum_singleton]
    · rw [hkept htaken, sub_self, hgain, List.map_nil, List.sum_nil]
  rw [targetFills, List.map_append, List.sum_append, hpart fun h => takeTp1_qty (not_not.mp h),
    hpart fun h => takeTp2_qty (not_not.mp h)]

/-- The parts are what the position loses, at its entry price. -/
lemma cashFlow_targetFills (pos : Position) (high : ℚ) : cashFlow (targetFills cfg pos high)
    = unbooked pos (targetFills cfg pos high)
      + pos.entryPrice * (pos.qty - (managed guardEps cfg pos high).qty) := by
  rw [cashFlow, unbooked, sum_targetFills pos high (fun _ => by simp),
    sum_targetFills pos high (fun _ => by simp), managed_qty]
  simp only [OrderSide.signed_sell]
  ring

/-- **A check against a bar**: what the parts bring, and what has become of the position. -/
lemma cashFlow_partFills (cfg : AegisConfig) (pos : Position) (now : LoopBar) :
    let after := (checkExit guardEps cfg pos now.bar now.i).2
    cashFlow (partFills cfg pos now)
        = unbooked pos (partFills cfg pos now) + pos.entryPrice * (pos.qty - after.qty)
      ∧ after.entryPrice = pos.entryPrice ∧ after.entryFee = pos.entryFee := by
  intro after
  by_cases hstop : now.bar.l ≤ pos.stopLoss
  · have hafter : after = pos := congrArg Prod.snd (checkExit_stop hstop)
    rw [hafter, partFills, if_pos hstop, sub_self, mul_zero, add_zero]
    exact ⟨rfl, rfl, rfl⟩
  · have hafter : after = managed guardEps cfg pos now.bar.h := checkExit_snd hstop
    rw [hafter, partFills, if_neg hstop]
    have hsame : SameEntry pos (managed guardEps cfg pos now.bar.h) := managed_sameEntry now.bar.h
    exact ⟨cashFlow_targetFills pos now.bar.h, hsame.entryPrice, hsame.entryFee⟩

lemma leave_equity (i : ℕ) (price : ℚ) (reason : ExitReason) :
    (leave i pos price reason state).equity = state.equity
      + ((fillPrice price reason - pos.entryPrice) * pos.qty
        - fillPrice price reason * pos.qty * takerFee - pos.entryFee) :=
  countTrade_equity _ _ _

lemma leave_position (i : ℕ) (price : ℚ) (reason : ExitReason) :
    (leave i pos price reason state).position = none := rfl

/-- The money of a bar that meets a position, against what the equity and the cost of the position say. -/
lemma cash_manage (hpos : state.position = some pos) (now : LoopBar) :
    cashFlow (exitFills cfg pos now) - ((manage cfg now state).equity - state.equity)
        + (openCost (manage cfg now state) - openCost state)
      = barError cfg state now := by
  obtain ⟨hparts, hprice, hfee⟩ := cashFlow_partFills cfg pos now
  simp only [exitFills, manage, barError, openCost, hpos, Option.elim_some, cashFlow_append, hparts]
  cases hexit : checkExit guardEps cfg pos now.bar now.i with
  | mk exit after =>
      simp only [hexit] at hprice hfee
      cases exit with
      | none =>
          simp only [hprice, Option.isSome_none, Bool.false_eq_true, if_false, Option.elim_some,
            cashFlow, List.map_nil, List.sum_nil]
          ring
      | some exit =>
          simp only [leave_equity, leave_position, hprice, hfee, Option.isSome_some, if_true,
            Option.elim_none, cashFlow, List.map_singleton, List.sum_singleton, OrderSide.signed_sell]
          ring

/-- The money of an entry: the fee once, and the cost of the position. -/
lemma cash_enter (n : ℕ) (now : LoopBar) (state : RunState) :
    cashFlow ((entryAt cfg signals n now state).elim [] fun pos => [⟨.buy, pos.qty, pos.entryPrice⟩])
      = (enter cfg signals n now state).equity - openCost (enter cfg signals n now state)
        - (state.equity - openCost state) := by
  rw [enter]
  cases hentry : entryAt cfg signals n now state with
  | none =>
      simp only [apply_ite RunState.equity, apply_ite openCost, Option.elim_none]
      split_ifs <;> simp [cashFlow, openCost]
  | some pos =>
      obtain ⟨hnone, -, signal, -, hopen⟩ := entryAt_some hentry
      obtain ⟨atr, -, rfl, -⟩ := openPosition_some hopen
      simp only [Option.elim_some, openCost, hnone, Option.elim_none, cashFlow, List.map_singleton,
        List.sum_singleton, OrderSide.signed_buy, newPosition]
      ring

/-- **One bar**: its money is the change of the equity and of the cost of the position, and what is left
out. -/
lemma cash_runBar (n : ℕ) (state : RunState) (now : LoopBar) :
    cashFlow (barFills cfg signals n state now)
      = barError cfg state now
        + ((runBar cfg signals n state now).equity - openCost (runBar cfg signals n state now)
          - (state.equity - openCost state)) := by
  rw [barFills, cashFlow_append, cash_enter, ← runBar]
  cases hpos : state.position with
  | none =>
      have hkept : manage cfg now state = state := by simp only [manage, hpos]
      simp [hkept, barError, hpos, cashFlow]
  | some pos =>
      rw [Option.elim_some, ← cash_manage hpos now]
      ring

end Bar

/-! ## A run -/

section Accounts

variable {cfg signals bars} {symbol : String} {initialCapital : ℚ}

lemma cashFlow_flatMap {ι : Type} (fills : ι → List SimFill) (l : List ι) :
    cashFlow (l.flatMap fills) = (l.map fun x => cashFlow (fills x)).sum := by
  induction l with
  | nil => rfl
  | cons x rest ih => rw [List.flatMap_cons, cashFlow_append, ih, List.map_cons, List.sum_cons]

/-- The forced sale charges the fee of the entry again. -/
lemma cash_forceClose (state : RunState) (hbars : bars ≠ []) :
    cashFlow (lastFill bars state)
      = state.position.elim 0 Position.entryFee
        + ((forceClose bars state).equity - (state.equity - openCost state)) := by
  rw [lastFill, forceClose, List.getLast?_eq_some_getLast hbars]
  cases hpos : state.position with
  | none => simp [cashFlow, openCost, hpos]
  | some pos =>
      simp only [countTrade_equity, closePosition, openCost, hpos, Option.elim_some, cashFlow,
        List.map_singleton, List.sum_singleton, OrderSide.signed_sell]
      ring

/-- **The accounts of a run.** -/
lemma cash_eq (lib : BacktestLib) : cashFlow (runFills cfg signals bars symbol initialCapital)
    = (run cfg signals bars lib symbol initialCapital).netPnl
      + runError cfg signals bars symbol initialCapital := by
  rw [runFills, run, runError]
  split_ifs with hshort
  · simp [cashFlow]
  · have hbars : bars ≠ [] := by
      rintro rfl
      exact hshort (by decide)
    have hsteps := History.sum_steps (runBar cfg signals bars.length)
      (fun state => state.equity - openCost state) (cash_runBar bars.length)
      (.init symbol initialCapital) (loopBars bars)
    rw [cashFlow_append, cashFlow_flatMap, cash_forceClose _ hbars, summarise, barsMet, hsteps, ← loop]
    simp only [RunState.init, openCost, Option.elim_none]
    ring

end Accounts

/-! ## Sensible targets -/

/-- Targets above the entry price, and parts that leave nothing negative. -/
structure Sensible (cfg : AegisConfig) : Prop where
  stop : 0 < cfg.atrStopMult
  tp1 : 0 < cfg.atrTp1Mult
  tp2 : 0 < cfg.atrTp2Mult
  frac1 : 0 ≤ cfg.atrTp1Frac
  frac2 : 0 ≤ cfg.atrTp2Frac
  fracs : cfg.atrTp1Frac + cfg.atrTp2Frac ≤ 1

/-- **An open position** for which the accounts owe this much: at least the fee of what is left of it at
the entry price. -/
structure Owes (pos : Position) (owed : ℚ) : Prop where
  price : 0 < pos.entryPrice
  tp1 : pos.entryPrice < pos.tp1
  tp2 : pos.entryPrice < pos.tp2
  qty : 0 ≤ pos.qty
  rest : takerFee * (pos.entryPrice * pos.qty) ≤ owed
  owed : 0 < owed

section Owed

variable {cfg signals bars} {pos : Position} {owed : ℚ} {symbol : String} {initialCapital : ℚ}

/-- A part that is sold above the entry price hides less than its own fee. -/
lemma Owes.sell (h : Owes pos owed) {sold : Position} {frac price : ℚ} (hfrac : 0 ≤ frac ∧ frac ≤ 1)
    (hprice : pos.entryPrice < price) (hsame : SameEntry pos sold) (hqty : sold.qty = pos.qty * (1 - frac)) :
    Owes sold (owed + (pos.qty - sold.qty) * (price * (1 - takerFee) - pos.entryPrice)) := by
  have hrest : 0 ≤ sold.qty := hqty ▸ mul_nonneg h.qty (sub_nonneg.mpr hfrac.2)
  have hle : sold.qty ≤ pos.qty := hqty ▸ mul_le_of_le_one_right h.qty (by linarith [hfrac.1])
  have hentry := h.price
  have howed := h.owed
  have hleft := h.rest
  have hleast : 0 ≤ pos.entryPrice * sold.qty := mul_nonneg hentry.le hrest
  have hgain : 0 ≤ (pos.qty - sold.qty) * (price - pos.entryPrice) :=
    mul_nonneg (sub_nonneg.mpr hle) (sub_nonneg.mpr hprice.le)
  have hfee : takerFee = 1 / 1000 := rfl
  rw [hfee] at hleft ⊢
  refine ⟨hsame.entryPrice ▸ h.price, hsame.entryPrice ▸ hsame.tp1 ▸ h.tp1,
    hsame.entryPrice ▸ hsame.tp2 ▸ h.tp2, hrest, ?_, ?_⟩
  · rw [hfee, hsame.entryPrice]
    nlinarith
  · rcases hle.eq_or_lt with heq | hlt
    · rw [heq, sub_self, zero_mul, add_zero]
      exact howed
    · have hmore : 0 < (pos.qty - sold.qty) * (price - pos.entryPrice) :=
        mul_pos (sub_pos.mpr hlt) (sub_pos.mpr hprice)
      nlinarith

lemma takeTp1_owes (hcfg : Sensible cfg) (h : Owes pos owed) (high : ℚ) :
    let first := takeTp1 cfg pos high
    Owes first (owed + (pos.qty - first.qty) * (pos.tp1 * (1 - takerFee) - pos.entryPrice)) := by
  have hfrac : cfg.atrTp1Frac ≤ 1 := by linarith [hcfg.frac2, hcfg.fracs]
  simp only [takeTp1]
  split_ifs
  · exact h.sell ⟨hcfg.frac1, hfrac⟩ h.tp1 ⟨rfl, rfl, rfl, rfl, rfl, rfl⟩ rfl
  · rwa [sub_self, zero_mul, add_zero]

lemma takeTp2_owes (hcfg : Sensible cfg) (h : Owes pos owed) (high : ℚ) :
    let second := takeTp2 guardEps cfg pos high
    Owes second (owed + (pos.qty - second.qty) * (pos.tp2 * (1 - takerFee) - pos.entryPrice)) := by
  have heps : guardEps = 1 / 10 ^ 9 := rfl
  have hleft : 0 < 1 - cfg.atrTp1Frac + guardEps := by
    rw [heps]
    linarith [hcfg.frac2, hcfg.fracs]
  have hfrac : cfg.atrTp2Frac / (1 - cfg.atrTp1Frac + guardEps) ≤ 1 := by
    rw [div_le_one hleft, heps]
    linarith [hcfg.fracs]
  simp only [takeTp2]
  split_ifs
  · exact h.sell ⟨div_nonneg hcfg.frac2 hleft.le, hfrac⟩ h.tp2 ⟨rfl, rfl, rfl, rfl, rfl, rfl⟩ rfl
  · rwa [sub_self, zero_mul, add_zero]

lemma trail_owes (h : Owes pos owed) (high : ℚ) : Owes (trail pos high) owed := by
  rw [trail]
  split_ifs
  · exact ⟨h.price, h.tp1, h.tp2, h.qty, h.rest, h.owed⟩
  · exact h

/-- A check sells parts, and moves the stop. -/
lemma checkExit_owes (hcfg : Sensible cfg) (h : Owes pos owed) (now : LoopBar) :
    Owes (checkExit guardEps cfg pos now.bar now.i).2 (owed + unbooked pos (partFills cfg pos now)) := by
  by_cases hstop : now.bar.l ≤ pos.stopLoss
  · rw [checkExit_stop hstop, partFills, if_pos hstop]
    exact (add_zero owed).symm ▸ h
  · rw [checkExit_snd hstop, partFills, if_neg hstop, unbooked, sum_targetFills pos _ fun _ => zero_mul _,
      ← add_assoc]
    have hkept : SameEntry pos (takeTp1 cfg pos now.bar.h) := takeTp1_sameEntry now.bar.h
    have hsecond := takeTp2_owes hcfg (takeTp1_owes hcfg h now.bar.h) now.bar.h
    rw [hkept.entryPrice, hkept.tp2] at hsecond
    exact trail_owes hsecond now.bar.h

/-- What is left out so far, with the position that is open. -/
def Owing (state : RunState) (left : ℚ) : Prop :=
  state.position.elim (0 < left) fun pos => Owes pos (left + pos.entryFee)

variable {state : RunState} {now : LoopBar} {n : ℕ} {left : ℚ}

/-- An entry costs at least 10, and the fee of that is owed. -/
lemma enter_some (hcfg : Sensible cfg) (hopen : 0 < now.nextOpen) (hleft : 0 ≤ left)
    (h : entryAt cfg signals n now state = some pos) :
    Owing (enter cfg signals n now state) left := by
  rw [Owing, enter, h, Option.elim_some]
  obtain ⟨-, -, signal, -, hnew⟩ := entryAt_some h
  obtain ⟨atr, -, rfl, -, hcost⟩ := openPosition_some hnew
  simp only [newPosition] at hcost ⊢
  have hfee : takerFee = 1 / 1000 := rfl
  have hslip : slippage = 1 / 2000 := rfl
  have hprice : 0 < now.nextOpen * (1 + slippage) := by
    rw [hslip]
    linarith
  split_ifs at hcost ⊢ with hdist
  · have hatr : 0 < atr := pos_of_mul_pos_right hdist hcfg.stop.le
    have hqty : 0 < state.equity * cfg.baseRiskPerTrade / (cfg.atrStopMult * atr) :=
      pos_of_mul_pos_left (by linarith) hprice.le
    exact
      { price := hprice
        tp1 := lt_add_of_pos_right _ (mul_pos hcfg.tp1 hatr)
        tp2 := lt_add_of_pos_right _ (mul_pos hcfg.tp2 hatr)
        qty := hqty.le
        rest := by linarith
        owed := by
          rw [hfee]
          linarith }
  · linarith

/-- A check keeps what is owed, and an exit adds the second fee. -/
lemma manage_owing (hcfg : Sensible cfg) (h : Owing state left) (now : LoopBar) :
    Owing (manage cfg now state) (left + barError cfg state now) := by
  rw [Owing] at h ⊢
  rw [manage, barError]
  cases hpos : state.position with
  | none => simpa [hpos] using h
  | some pos =>
      rw [hpos] at h
      have hchecked := checkExit_owes hcfg h now
      have hfee := (cashFlow_partFills cfg pos now).2.2
      simp only [Option.elim_some]
      cases hexit : checkExit guardEps cfg pos now.bar now.i with
      | mk exit after =>
          simp only [hexit] at hchecked hfee
          cases exit with
          | none =>
              simp only [Option.isSome_none, Bool.false_eq_true, if_false, Option.elim_some, hfee,
                add_zero]
              convert hchecked using 1
              ring
          | some exit =>
              simp only [leave_position, Option.isSome_some, if_true, Option.elim_none]
              linarith [hchecked.owed]

/-- **One bar**: what is owed once is owed for good. -/
lemma runBar_owing (hcfg : Sensible cfg) (hopen : 0 < now.nextOpen) (h : Owing state left) :
    Owing (runBar cfg signals n state now) (left + barError cfg state now) := by
  have hmanaged := manage_owing hcfg h now
  rw [runBar]
  cases hentry : entryAt cfg signals n now (manage cfg now state) with
  | none =>
      rw [Owing, (enter_none cfg signals hentry).1]
      exact hmanaged
  | some pos =>
      rw [Owing, (entryAt_some hentry).1] at hmanaged
      exact enter_some hcfg hopen hmanaged.le hentry

/-- Along a run nothing is left out before the first entry, and something ever after. -/
lemma foldl_owing (hcfg : Sensible cfg) (signals : ℕ → Option BarSignal) (n : ℕ) (symbol : String)
    (initialCapital : ℚ) (loopBars : List LoopBar) (hopen : ∀ now ∈ loopBars, 0 < now.nextOpen) :
    let start := RunState.init symbol initialCapital
    let state := loopBars.foldl (runBar cfg signals n) start
    let left := ((History.steps (runBar cfg signals n) start loopBars).map fun met =>
      barError cfg met.1 met.2).sum
    if ∀ now ∈ loopBars, entryAt cfg signals n now start = none then
      state.position = none ∧ state.equity = initialCapital ∧ left = 0
    else Owing state left := by
  intro start
  induction loopBars using List.reverseRecOn with
  | nil => exact ⟨rfl, rfl, rfl⟩
  | append_singleton before now ih =>
      have hbefore := ih fun now hnow => hopen now (List.mem_append_left _ hnow)
      have hnow := hopen now (List.mem_append_right _ (List.mem_singleton_self now))
      simp only [History.steps_snoc, List.map_append, List.map_singleton, List.sum_append,
        List.sum_singleton, List.foldl_append, List.foldl_cons, List.foldl_nil, List.forall_mem_append,
        List.forall_mem_singleton]
      by_cases hnone : ∀ now ∈ before, entryAt cfg signals n now start = none
      · rw [if_pos hnone] at hbefore
        obtain ⟨hpos, hequity, hleft⟩ := hbefore
        generalize before.foldl (runBar cfg signals n) start = state at hpos hequity ⊢
        have hsame : entryAt cfg signals n now state = entryAt cfg signals n now start := by
          rw [entryAt, entryAt, hpos, hequity]
          rfl
        have herror : barError cfg state now = 0 := by rw [barError, hpos, Option.elim_none]
        have hkept : manage cfg now state = state := by simp only [manage, hpos]
        rw [hleft, herror, add_zero, runBar, hkept]
        cases hentry : entryAt cfg signals n now state with
        | none =>
            rw [if_pos ⟨hnone, hsame ▸ hentry⟩, (enter_none cfg signals hentry).1, (enter_none cfg signals hentry).2]
            exact ⟨hpos, hequity, rfl⟩
        | some pos =>
            rw [if_neg fun h => by rw [hsame, h.2] at hentry; cases hentry]
            exact enter_some hcfg hnow le_rfl hentry
      · rw [if_neg hnone] at hbefore
        rw [if_neg fun h => hnone h.1]
        exact runBar_owing hcfg hnow hbefore

end Owed

/-! ## The profit of a run -/

/-- **The net profit is the money of the fills** exactly if the second fees of the entries make up for the
profit of the parts; with sensible targets, exactly if no position is opened. -/
theorem net_pnl_is_cash_iff (lib : BacktestLib) (symbol : String) (initialCapital : ℚ) :
    ((run cfg signals bars lib symbol initialCapital).netPnl
        = cashFlow (runFills cfg signals bars symbol initialCapital)
      ↔ runError cfg signals bars symbol initialCapital = 0)
      ∧ (Sensible cfg → (∀ bar ∈ bars, 0 < bar.o) →
        ((run cfg signals bars lib symbol initialCapital).netPnl
            = cashFlow (runFills cfg signals bars symbol initialCapital)
          ↔ bars.length < 230 ∨ ∀ now ∈ loopBars bars,
            entryAt cfg signals bars.length now (.init symbol initialCapital) = none)) := by
  have hcash : (run cfg signals bars lib symbol initialCapital).netPnl
      = cashFlow (runFills cfg signals bars symbol initialCapital)
        ↔ runError cfg signals bars symbol initialCapital = 0 := by
    rw [cash_eq lib, left_eq_add]
  refine ⟨hcash, fun hcfg hopen => hcash.trans ?_⟩
  rw [runError]
  by_cases hshort : bars.length < 230
  · simp [hshort]
  · have hopens : ∀ now ∈ loopBars bars, 0 < now.nextOpen := by
      intro now hnow
      obtain ⟨-, bar, hbar, hprice⟩ := mem_loopBars hnow
      rw [hprice]
      exact hopen bar hbar
    have howing := foldl_owing hcfg signals bars.length symbol initialCapital (loopBars bars) hopens
    rw [if_neg hshort, or_iff_right hshort, barsMet]
    simp only at howing
    split_ifs at howing with hnone
    · obtain ⟨hpos, -, hleft⟩ := howing
      rw [loop, hpos, hleft]
      simpa using hnone
    · refine iff_of_false (ne_of_gt ?_) hnone
      rw [Owing] at howing
      rw [loop]
      cases hpos : ((loopBars bars).foldl (runBar cfg signals bars.length)
          (.init symbol initialCapital)).position with
      | none =>
          rw [hpos] at howing
          rw [Option.elim_none, add_zero]
          exact howing
      | some pos =>
          rw [hpos] at howing
          exact howing.owed

/-! ## One entry -/

/-- A bar at 100 that has been as high as this. -/
def barAt (high : ℚ) : Bar := ⟨0, 100, high, 100, 100, 1⟩

/-- 250 bars, of which the one after the first entry may be higher. -/
def barsAt (high : ℚ) : List Bar := List.replicate 212 (barAt 100) ++ barAt high :: List.replicate 37 (barAt 100)

/-- A signal after bar 210, with a range of 2. -/
def oneSignal (i : ℕ) : Option BarSignal := if i = 210 then some ⟨"TREND", .num 2⟩ else none

def noRatios : BacktestLib := ⟨fun _ => 0, fun _ => 0⟩

/-- The default targets are sensible, and on level bars the entry alone makes the difference. -/
theorem net_pnl_is_cash_iff_level :
    (run {} oneSignal (barsAt 100) noRatios "BTC/USDT" 10000).netPnl
        ≠ cashFlow (runFills {} oneSignal (barsAt 100) "BTC/USDT" 10000)
      ∧ (run {} (fun _ => none) (barsAt 100) noRatios "BTC/USDT" 10000).netPnl
        = cashFlow (runFills {} (fun _ => none) (barsAt 100) "BTC/USDT" 10000) := by
  have hcfg : Sensible {} := ⟨by decide +kernel, by decide +kernel, by decide +kernel, by decide +kernel,
    by decide +kernel, by decide +kernel⟩
  have hopen : ∀ bar ∈ barsAt 100, 0 < bar.o := by decide +kernel
  constructor
  · intro hcash
    have hnone := ((net_pnl_is_cash_iff {} oneSignal (barsAt 100) noRatios "BTC/USDT" 10000).2 hcfg
      hopen).mp hcash
    exact absurd hnone (by decide +kernel)
  · exact ((net_pnl_is_cash_iff {} (fun _ => none) (barsAt 100) noRatios "BTC/USDT" 10000).2 hcfg
      hopen).mpr (by decide +kernel)

/-- A time stop on level bars: the fee of the entry, 2.50125, is charged twice.  If the first target is
reached before, the part of 10 that is sold there at 103.05 is not booked either. -/
theorem net_pnl_is_not_cash :
    (run {} oneSignal (barsAt 100) noRatios "BTC/USDT" 10000).netPnl
        = cashFlow (runFills {} oneSignal (barsAt 100) "BTC/USDT" 10000) - 250125 / 100000
      ∧ (run {} oneSignal (barsAt 104) noRatios "BTC/USDT" 10000).netPnl
        = cashFlow (runFills {} oneSignal (barsAt 104) "BTC/USDT" 10000) - 250125 / 100000
          - 10 * (10305 / 100 * (1 - takerFee) - 10005 / 100) := by
  decide +kernel

end Aegis.Pro.Backtester
