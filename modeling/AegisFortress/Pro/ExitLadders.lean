import AegisFortress.Lib.Run
import AegisFortress.Pro.AegisPro
import AegisFortress.Pro.Backtester

/-!
# The exits of the backtester and of the bot

Both ladders sell a part of a trade at the first target and a part at the second one.  After the first
target they agree, and their stops do not.  At the second target the backtester sells a part of the
initial quantity, and the bot the same part of what is left.

`exits_agree_iff` is about any sequence of prices, as long as both trades are open: the two hold the same
part of the initial quantity exactly until the second target is reached.
-/

namespace Aegis.Pro

open Raising Backtester AegisPro

/-! ## A ladder -/

/-- A quantity with two targets. -/
structure Ladder where
  qty : ℚ
  initialQty : ℚ
  tp1 : ℚ
  tp2 : ℚ
  tp1Taken : Bool
  tp2Taken : Bool

/-- A price reaches the second target, at or after a price that reaches the first one. -/
def ReachesTp2 (tp1 tp2 : ℚ) (prices : List ℚ) : Prop :=
  ∃ before price after, prices = before ++ price :: after ∧ tp2 ≤ price
    ∧ ∃ earlier ∈ before ++ [price], tp1 ≤ earlier

lemma reachesTp2_snoc {tp1 tp2 : ℚ} {prices : List ℚ} {price : ℚ} :
    ReachesTp2 tp1 tp2 (prices ++ [price])
      ↔ ReachesTp2 tp1 tp2 prices
        ∨ (tp2 ≤ price ∧ ∃ earlier ∈ prices ++ [price], tp1 ≤ earlier) := by
  constructor
  · rintro ⟨before, p, after, hsplit, hp, hearlier⟩
    rcases History.snoc_eq_split.mp hsplit with ⟨rfl, rfl, -⟩ | ⟨rest, rfl, -⟩
    · exact Or.inr ⟨hp, hearlier⟩
    · exact Or.inl ⟨before, p, rest, rfl, hp, hearlier⟩
  · rintro (⟨before, p, rest, rfl, hp, hearlier⟩ | ⟨hp, hearlier⟩)
    · exact ⟨before, p, rest ++ [price], by simp, hp, hearlier⟩
    · exact ⟨prices, price, [], rfl, hp, hearlier⟩

namespace Ladder

variable (frac left price : ℚ) (l : Ladder)

/-- The first target. -/
def first : Ladder :=
  if ¬ l.tp1Taken ∧ l.tp1 ≤ price then { l with tp1Taken := true, qty := l.qty * (1 - frac) } else l

/-- The second target, behind the first one. -/
def second : Ladder :=
  if l.tp1Taken ∧ ¬ l.tp2Taken ∧ l.tp2 ≤ price then { l with tp2Taken := true, qty := l.qty * left }
  else l

/-- One price. -/
def climb : Ladder := (l.first frac price).second left price

/-- What is known of a ladder after a sequence of prices. -/
structure Climbed (start : Ladder) (prices : List ℚ) (l : Ladder) : Prop where
  initialQty : l.initialQty = start.initialQty
  tp1 : l.tp1 = start.tp1
  tp2 : l.tp2 = start.tp2
  tp1Taken : l.tp1Taken = true ↔ ∃ price ∈ prices, start.tp1 ≤ price
  tp2Taken : l.tp2Taken = true ↔ ReachesTp2 start.tp1 start.tp2 prices
  qty : l.qty = start.qty * (if l.tp1Taken then 1 - frac else 1) * (if l.tp2Taken then left else 1)

variable {frac left price l} {start : Ladder} {prices : List ℚ}

/-- A ladder at its start. -/
lemma climbed_nil (h1 : start.tp1Taken = false) (h2 : start.tp2Taken = false) :
    Climbed frac left start [] start where
  initialQty := rfl
  tp1 := rfl
  tp2 := rfl
  tp1Taken := by simp [h1]
  tp2Taken := by simp [h2, ReachesTp2]
  qty := by simp [h1, h2]

lemma climb_tp1Taken :
    (l.climb frac left price).tp1Taken = (l.tp1Taken || decide (l.tp1 ≤ price)) := by
  have hfirst : (l.first frac price).tp1Taken = (l.tp1Taken || decide (l.tp1 ≤ price)) := by
    rw [first]
    cases ht : l.tp1Taken <;> by_cases hp : l.tp1 ≤ price <;> simp [ht, hp]
  rw [climb, second, ← hfirst]
  split_ifs <;> rfl

lemma climb_tp2Taken : (l.climb frac left price).tp2Taken
    = (l.tp2Taken || (decide (l.tp2 ≤ price) && (l.tp1Taken || decide (l.tp1 ≤ price)))) := by
  rw [climb, second, first]
  cases ht : l.tp1Taken <;> cases ht' : l.tp2Taken <;> by_cases hp : l.tp1 ≤ price <;>
    by_cases hp' : l.tp2 ≤ price <;> simp [ht, ht', hp, hp']

lemma climb_targets (frac left price : ℚ) (l : Ladder) :
    (l.climb frac left price).tp1 = l.tp1 ∧ (l.climb frac left price).tp2 = l.tp2
    ∧ (l.climb frac left price).initialQty = l.initialQty := by
  rw [climb, second, first]
  split_ifs <;> exact ⟨rfl, rfl, rfl⟩

/-- Each target takes its part when it is taken. -/
lemma climb_qty {q : ℚ}
    (h : l.qty = q * (if l.tp1Taken then 1 - frac else 1) * (if l.tp2Taken then left else 1)) :
    (l.climb frac left price).qty
      = q * (if (l.climb frac left price).tp1Taken then 1 - frac else 1)
        * (if (l.climb frac left price).tp2Taken then left else 1) := by
  rw [climb_tp1Taken, climb_tp2Taken, climb, second, first]
  cases ht : l.tp1Taken <;> cases ht' : l.tp2Taken <;> by_cases hp : l.tp1 ≤ price <;>
    by_cases hp' : l.tp2 ≤ price <;> simp [ht, ht', hp, hp', h, mul_right_comm]

/-- **One more price.** -/
lemma Climbed.climb (h : Climbed frac left start prices l) (price : ℚ) :
    Climbed frac left start (prices ++ [price]) (l.climb frac left price) := by
  obtain ⟨htp1, htp2, hinit⟩ := climb_targets frac left price l
  have hearlier : (l.tp1Taken || decide (l.tp1 ≤ price)) = true
      ↔ ∃ p ∈ prices ++ [price], start.tp1 ≤ p := by
    rw [Bool.or_eq_true, h.tp1Taken, decide_eq_true_eq, h.tp1]
    simp [or_and_right, exists_or]
  refine ⟨hinit.trans h.initialQty, htp1.trans h.tp1, htp2.trans h.tp2, ?_, ?_, climb_qty h.qty⟩
  · rw [climb_tp1Taken, hearlier]
  · rw [climb_tp2Taken, Bool.or_eq_true, h.tp2Taken, Bool.and_eq_true, hearlier, decide_eq_true_eq, h.tp2,
      reachesTp2_snoc]

end Ladder

/-! ## The ladder of the backtester -/

/-- The ladder of a position. -/
def Position.ladder (pos : Position) : Ladder :=
  ⟨pos.qty, pos.initialQty, pos.tp1, pos.tp2, pos.tp1Taken, pos.tp2Taken⟩

/-- The ladder of a trade. -/
def Trade.ladder (trade : Trade) : Ladder :=
  ⟨trade.qty, trade.initialQty, trade.tp1, trade.tp2, trade.tp1Taken, trade.tp2Taken⟩

section Sides

variable {cfg : AegisConfig} {symbol : String} {pos pos' : Position} {price : ℚ}

lemma trail_ladder (high : ℚ) : (trail pos high).ladder = pos.ladder := by
  rw [trail]
  split_ifs <;> rfl

/-- **The backtester** leaves a part of the initial quantity at the second target. -/
lemma managed_ladder (eps high : ℚ) : (managed eps cfg pos high).ladder
    = pos.ladder.climb cfg.atrTp1Frac (1 - cfg.atrTp2Frac / (1 - cfg.atrTp1Frac + eps)) high := by
  have hfirst : (takeTp1 cfg pos high).ladder = pos.ladder.first cfg.atrTp1Frac high := by
    rw [takeTp1, apply_ite Position.ladder]
    rfl
  rw [managed, trail_ladder, Ladder.climb, ← hfirst, takeTp2, apply_ite Position.ladder]
  rfl

/-! ## The ladder of the bot -/

/-- A sale that is filled and written to the database. -/
def filledSale (now : ℚ) : SaleWorld := ⟨now, [], .ok ()⟩

variable {bot : AegisPro} {trade : Trade}

/-- A sale of a part. -/
lemma partialClose_filled (hmode : cfg.mode = "PAPER") (now : ℚ)
    (htrade : bot.activeTrades.get? symbol = some trade) (hqty : 0 < trade.qty) {frac : ℚ}
    (hfrac : 0 < frac ∧ frac < 1) :
    Leads (partialClose cfg (filledSale now) symbol (trade.qty * frac) price) bot
      (fun filled later => filled = true ∧ 0 < trade.qty * (1 - frac)
        ∧ later.activeTrades.get? symbol = some { trade with qty := trade.qty * (1 - frac) })
      (fun _ _ => False) := by
  have hpart : 0 < trade.qty * frac := mul_pos hqty hfrac.1
  have hle : trade.qty * frac ≤ trade.qty := mul_le_of_le_one_right hqty.le hfrac.2.le
  have hsome : ¬ (trade.qty * frac ≤ 0 ∨ trade.qty ≤ 0) := by
    push Not
    exact ⟨hpart, hqty⟩
  have hfilled : ∀ fill : PaperFill, ∀ expected,
      (bot.withFill cfg now fill expected).activeTrades.get? symbol = some trade := fun _ _ => htrade
  simp only [partialClose, leads_bind, leads_tradeOf htrade, if_neg hsome, leads_execute hmode,
    filledSale, leads_assign (hfilled _ _), leads_modify, lift, leads_pure, min_eq_left hle, true_and]
  rw [Dict.get?_set_self, mul_sub, mul_one]
  exact ⟨by linarith [mul_lt_of_lt_one_right hqty hfrac.2], rfl⟩

/-- The first target of the bot. -/
lemma exitTp1_filled (hmode : cfg.mode = "PAPER") (hfrac : 0 < cfg.atrTp1Frac ∧ cfg.atrTp1Frac < 1)
    (now : ℚ) (htrade : bot.activeTrades.get? symbol = some trade) (hqty : 0 < trade.qty) :
    Leads (exitTp1 cfg (filledSale now) symbol price) bot
      (fun _ later => ∃ sold, later.activeTrades.get? symbol = some sold ∧ 0 < sold.qty
        ∧ sold.ladder = trade.ladder.first cfg.atrTp1Frac price)
      (fun _ _ => False) := by
  simp only [exitTp1, leads_bind, leads_tradeOf htrade, leads_ite, leads_pure]
  refine ⟨fun hreached => ?_, fun hnot => ⟨trade, htrade, hqty, ?_⟩⟩
  · refine (partialClose_filled hmode now htrade hqty hfrac).mono ?_ (fun _ _ h => h)
    rintro _ later ⟨rfl, hleft, hlater⟩
    simp only [forall_const, not_true, false_imp_iff, and_true, leads_assign hlater, Dict.get?_set_self,
      Option.some.injEq, exists_eq_left']
    have hladder : ¬ trade.ladder.tp1Taken ∧ trade.ladder.tp1 ≤ price := hreached
    rw [Ladder.first, if_pos hladder]
    exact ⟨hleft, rfl⟩
  · have hladder : ¬ (¬ trade.ladder.tp1Taken ∧ trade.ladder.tp1 ≤ price) := hnot
    rw [Ladder.first, if_neg hladder]

/-- The second target of the bot. -/
lemma exitTp2_filled (hmode : cfg.mode = "PAPER") (hfrac : 0 < cfg.atrTp2Frac ∧ cfg.atrTp2Frac < 1)
    (now : ℚ) (htrade : bot.activeTrades.get? symbol = some trade) (hqty : 0 < trade.qty) :
    Leads (exitTp2 cfg (filledSale now) symbol price) bot
      (fun _ later => ∃ sold, later.activeTrades.get? symbol = some sold ∧ 0 < sold.qty
        ∧ sold.ladder = trade.ladder.second (1 - cfg.atrTp2Frac) price)
      (fun _ _ => False) := by
  simp only [exitTp2, leads_bind, leads_tradeOf htrade, leads_ite, leads_pure]
  refine ⟨fun hreached => ?_, fun hnot => ⟨trade, htrade, hqty, ?_⟩⟩
  · refine (partialClose_filled hmode now htrade hqty hfrac).mono ?_ (fun _ _ h => h)
    rintro _ later ⟨rfl, hleft, hlater⟩
    simp only [forall_const, not_true, false_imp_iff, and_true, leads_assign hlater, Dict.get?_set_self,
      Option.some.injEq, exists_eq_left']
    have hladder : trade.ladder.tp1Taken ∧ ¬ trade.ladder.tp2Taken ∧ trade.ladder.tp2 ≤ price :=
      hreached
    rw [Ladder.second, if_pos hladder]
    exact ⟨hleft, rfl⟩
  · have hladder : ¬ (trade.ladder.tp1Taken ∧ ¬ trade.ladder.tp2Taken ∧ trade.ladder.tp2 ≤ price) :=
      hnot
    rw [Ladder.second, if_neg hladder]

lemma stops_ladder (cfg : AegisConfig) (atr price : ℚ) (trade : Trade) :
    (chandelier atr price (earlyTrail cfg price trade)).ladder = trade.ladder := by
  have htrail : ∀ t : Trade, (chandelier atr price t).ladder = t.ladder := by
    intro t
    rw [chandelier]
    split_ifs <;> rfl
  rw [htrail, earlyTrail]
  split_ifs <;> rfl

/-- **The bot** leaves a part of what is left at the second target. -/
lemma checkTradeExits_open (hmode : cfg.mode = "PAPER") (hfrac1 : 0 < cfg.atrTp1Frac ∧ cfg.atrTp1Frac < 1)
    (hfrac2 : 0 < cfg.atrTp2Frac ∧ cfg.atrTp2Frac < 1) (now : ℚ)
    (htrade : bot.activeTrades.get? symbol = some trade) (hqty : 0 < trade.qty) (price : ℚ) :
    Leads (checkTradeExits cfg (filledSale now) (filledSale now) symbol price) bot
      (fun exit later => exit = none → ∃ sold, later.activeTrades.get? symbol = some sold ∧ 0 < sold.qty
        ∧ sold.ladder = trade.ladder.climb cfg.atrTp1Frac (1 - cfg.atrTp2Frac) price)
      (fun _ _ => False) := by
  simp only [checkTradeExits, leads_bind, leads_tradeOf htrade, leads_ite, leads_pure, reduceCtorEq,
    false_imp_iff, implies_true, true_and]
  intro _
  refine (exitTp1_filled hmode hfrac1 now htrade hqty).mono ?_ (fun _ _ h => h)
  rintro _ first ⟨sold1, hsold1, hqty1, hladder1⟩
  refine (exitTp2_filled hmode hfrac2 now hsold1 hqty1).mono ?_ (fun _ _ h => h)
  rintro _ second ⟨sold2, hsold2, hqty2, hladder2⟩
  rw [leads_assign hsold2, leads_tradeOf (Dict.get?_set_self _ _ _)]
  simp only [leads_get, true_imp_iff]
  intro _
  refine ⟨_, Dict.get?_set_self _ _ _, ?_, ?_⟩
  · have hsame := congrArg Ladder.qty (stops_ladder cfg trade.currentAtr price sold2)
    exact hqty2.trans_eq hsame.symm
  · rw [stops_ladder, hladder2, hladder1, Ladder.climb]

end Sides

/-! ## Both sides -/

/-- A price at which all prices of a bar agree. -/
def flatBar (price : ℚ) : Bar := ⟨0, price, price, price, price, 0⟩

/-- A price with the bar counters of both sides and the clock of the bot. -/
structure Tick where
  price : ℚ
  barIdx : ℕ
  barCounter : ℤ
  now : ℚ

/-- A trade that has just been entered. -/
structure Trade.Fresh (trade : Trade) : Prop where
  qty_pos : 0 < trade.qty
  initialQty : trade.initialQty = trade.qty
  tp1Taken : trade.tp1Taken = false
  tp2Taken : trade.tp2Taken = false

/-- The same trade in the backtester. -/
def Trade.asPosition (trade : Trade) (entryBar : ℕ) : Position where
  entryPrice := trade.entryPrice
  qty := trade.qty
  initialQty := trade.initialQty
  stopLoss := trade.stopLoss
  tp1 := trade.tp1
  tp2 := trade.tp2
  atr := trade.atrEntry
  riskDollars := trade.riskDollars
  entryFee := trade.entryFee
  tp1Taken := trade.tp1Taken
  tp2Taken := trade.tp2Taken
  trailActive := trade.trailActivated
  entryBar := entryBar
  signalType := trade.signalType

variable (cfg : AegisConfig) (symbol : String)

/-- A price on both sides; it must leave both trades open. -/
def tickBoth : Position × AegisPro → Tick → Option (Position × AegisPro)
  | (pos, bot), tick =>
      match checkExit 0 cfg pos (flatBar tick.price) tick.barIdx,
        (checkTradeExits cfg (filledSale tick.now) (filledSale tick.now) symbol tick.price).run
          { bot with risk.barCounter := tick.barCounter } with
      | (none, pos), .ok none bot => some (pos, bot)
      | _, _ => none

/-- Both sides hold the same part of the initial quantity. -/
def SameRemaining (pos : Position) (bot : AegisPro) : Prop :=
  ∃ trade ∈ bot.activeTrades.get? symbol, pos.qty / pos.initialQty = trade.qty / trade.initialQty

section Both

variable {cfg symbol} {pos pos' : Position} {bot bot' : AegisPro} {tick : Tick} {start : Ladder}
  {ticks : List Tick}

/-- What both sides have come to. -/
structure BothClimbed (cfg : AegisConfig) (symbol : String) (start : Ladder) (ticks : List Tick)
    (pos : Position) (bot : AegisPro) : Prop where
  position : Ladder.Climbed cfg.atrTp1Frac (1 - cfg.atrTp2Frac / (1 - cfg.atrTp1Frac)) start
    (ticks.map Tick.price) pos.ladder
  trade : ∃ trade, bot.activeTrades.get? symbol = some trade ∧ 0 < trade.qty
    ∧ Ladder.Climbed cfg.atrTp1Frac (1 - cfg.atrTp2Frac) start (ticks.map Tick.price) trade.ladder

lemma tickBoth_climbed (hmode : cfg.mode = "PAPER") (hfrac1 : 0 < cfg.atrTp1Frac ∧ cfg.atrTp1Frac < 1)
    (hfrac2 : 0 < cfg.atrTp2Frac ∧ cfg.atrTp2Frac < 1) (h : BothClimbed cfg symbol start ticks pos bot)
    (htick : tickBoth cfg symbol (pos, bot) tick = some (pos', bot')) :
    BothClimbed cfg symbol start (ticks ++ [tick]) pos' bot' := by
  obtain ⟨hposition, trade, htrade, hqty, hclimbed⟩ := h
  have hnow : ({ bot with risk.barCounter := tick.barCounter } : AegisPro).activeTrades.get? symbol
      = some trade := htrade
  have hlive := checkTradeExits_open hmode hfrac1 hfrac2 tick.now hnow hqty tick.price
  rw [Leads] at hlive
  simp only [tickBoth] at htick
  cases hexit : checkExit 0 cfg pos (flatBar tick.price) tick.barIdx with
  | mk exit next =>
  rw [hexit] at htick
  cases hrun : (checkTradeExits cfg (filledSale tick.now) (filledSale tick.now) symbol tick.price).run
      { bot with risk.barCounter := tick.barCounter } with
  | error e later =>
      rw [hrun] at hlive
      exact hlive.elim
  | ok closed later =>
      rw [hrun] at hlive htick
      cases exit with
      | some _ => cases htick
      | none =>
          cases closed with
          | some _ => cases htick
          | none =>
              cases htick
              obtain ⟨sold, hsold, hpos, hladder⟩ := hlive rfl
              refine ⟨?_, sold, hsold, hpos, ?_⟩
              · have hstep := hposition.climb tick.price
                rw [(checkExit_open hexit).2, managed_ladder, add_zero, List.map_append]
                exact hstep
              · rw [hladder, List.map_append]
                exact hclimbed.climb tick.price

/-- After the same prices the parts that are left are the same until the second target is taken. -/
lemma sameRemaining_iff (hfrac1 : 0 < cfg.atrTp1Frac ∧ cfg.atrTp1Frac < 1) (hfrac2 : 0 < cfg.atrTp2Frac)
    (h : BothClimbed cfg symbol start ticks pos bot) (hqty : 0 < start.qty)
    (hinit : start.initialQty = start.qty) :
    SameRemaining symbol pos bot ↔ ¬ ReachesTp2 start.tp1 start.tp2 (ticks.map Tick.price) := by
  obtain ⟨hposition, trade, htrade, -, hclimbed⟩ := h
  have hne : start.qty ≠ 0 := hqty.ne'
  have htaken1 : pos.ladder.tp1Taken = trade.ladder.tp1Taken := by
    rw [Bool.eq_iff_iff, hposition.tp1Taken, hclimbed.tp1Taken]
  have htaken2 : pos.ladder.tp2Taken = trade.ladder.tp2Taken := by
    rw [Bool.eq_iff_iff, hposition.tp2Taken, hclimbed.tp2Taken]
  have hsame : SameRemaining symbol pos bot ↔ pos.ladder.qty = trade.ladder.qty := by
    have hpos : pos.initialQty = start.qty := hposition.initialQty.trans hinit
    have hlive : trade.initialQty = start.qty := hclimbed.initialQty.trans hinit
    simp only [SameRemaining, htrade, Option.mem_some_iff, exists_eq_left', hpos, hlive,
      div_left_inj' hne]
    exact Iff.rfl
  rw [hsame, hposition.qty, hclimbed.qty, htaken1, htaken2, ← hclimbed.tp2Taken]
  cases htp2 : trade.ladder.tp2Taken with
  | false => simp
  | true =>
      -- behind the first target the second one leaves the initial or the present part
      have htp1 : trade.ladder.tp1Taken = true := by
        obtain ⟨before, price, after, hsplit, -, earlier, hmem, hearlier⟩ := hclimbed.tp2Taken.mp htp2
        refine hclimbed.tp1Taken.mpr ⟨earlier, ?_, hearlier⟩
        rw [hsplit, List.append_cons]
        exact List.mem_append_left _ hmem
      have hleft : 1 - cfg.atrTp1Frac ≠ 0 := (sub_pos.mpr hfrac1.2).ne'
      simp only [htp1, if_true, not_true, iff_false]
      intro heq
      have hpart := mul_left_cancel₀ (mul_ne_zero hne hleft) heq
      have hdiv : cfg.atrTp2Frac / (1 - cfg.atrTp1Frac) = cfg.atrTp2Frac := by linarith
      rw [div_eq_iff hleft, mul_sub, mul_one] at hdiv
      have hzero : cfg.atrTp2Frac * cfg.atrTp1Frac = 0 := by linarith
      exact (mul_pos hfrac2 hfrac1.1).ne' hzero

/-- A run from a trade that has just been entered. -/
lemma run_climbed (hmode : cfg.mode = "PAPER") (hfrac1 : 0 < cfg.atrTp1Frac ∧ cfg.atrTp1Frac < 1)
    (hfrac2 : 0 < cfg.atrTp2Frac ∧ cfg.atrTp2Frac < 1) {trade : Trade} (hfresh : trade.Fresh)
    (htrade : bot.activeTrades.get? symbol = some trade) (entryBar : ℕ)
    (hrun : Machine.run (tickBoth cfg symbol) (trade.asPosition entryBar, bot) ticks = some (pos, bot')) :
    BothClimbed cfg symbol trade.ladder ticks pos bot' := by
  refine Machine.run_history
    (fun past s => BothClimbed cfg symbol trade.ladder past s.1 s.2) ?_ ?_ ticks (pos, bot') hrun
  · have hstart : ∀ left, Ladder.Climbed cfg.atrTp1Frac left trade.ladder [] trade.ladder :=
      fun left => Ladder.climbed_nil hfresh.tp1Taken hfresh.tp2Taken
    exact ⟨hstart _, trade, htrade, hfresh.qty_pos, hstart _⟩
  · rintro past ⟨p, b⟩ tick ⟨p', b'⟩ - hpast hstep
    exact tickBoth_climbed hmode hfrac1 hfrac2 hpast hstep

end Both

/-- **The two ladders.**  As long as neither side has closed, they hold the same part of the initial
quantity, exactly if the second target has not been reached while both were open. -/
theorem exits_agree_iff (hmode : cfg.mode = "PAPER") (hfrac1 : 0 < cfg.atrTp1Frac ∧ cfg.atrTp1Frac < 1)
    (hfrac2 : 0 < cfg.atrTp2Frac ∧ cfg.atrTp2Frac < 1)
    (trade : Trade) (hfresh : trade.Fresh) (bot : AegisPro)
    (htrade : bot.activeTrades.get? symbol = some trade) (entryBar : ℕ) (ticks : List Tick) :
    (∀ past pos bot', past <+: ticks →
      Machine.run (tickBoth cfg symbol) (trade.asPosition entryBar, bot) past = some (pos, bot') →
        SameRemaining symbol pos bot')
      ↔ ∀ past, past <+: ticks →
        (Machine.run (tickBoth cfg symbol) (trade.asPosition entryBar, bot) past).isSome →
          ¬ ReachesTp2 trade.tp1 trade.tp2 (past.map Tick.price) := by
  have hone : ∀ {past pos bot'},
      Machine.run (tickBoth cfg symbol) (trade.asPosition entryBar, bot) past = some (pos, bot') →
        (SameRemaining symbol pos bot' ↔ ¬ ReachesTp2 trade.tp1 trade.tp2 (past.map Tick.price)) := by
    intro past pos bot' hrun
    exact sameRemaining_iff hfrac1 hfrac2.1 (run_climbed hmode hfrac1 hfrac2 hfresh htrade entryBar hrun)
      hfresh.qty_pos hfresh.initialQty
  constructor
  · intro h past hpast hopen
    obtain ⟨⟨pos, bot'⟩, hrun⟩ := Option.isSome_iff_exists.mp hopen
    exact (hone hrun).mp (h past pos bot' hpast hrun)
  · intro h past pos bot' hpast hrun
    exact (hone hrun).mpr (h past hpast (Option.isSome_iff_exists.mpr ⟨_, hrun⟩))

/-! ## One trade -/

/-- A unit bought at 100, with targets at 110 and 120. -/
def oneUnit : Trade where
  symbol := "BTC/USDT"
  entryPrice := 100
  qty := 1
  initialQty := 1
  stopLoss := 90
  tp1 := 110
  tp2 := 120
  atrEntry := 10
  currentAtr := 10
  riskDollars := 10
  entryFee := 1 / 10
  signalType := "TREND"
  entryTime := 0

/-- The bot with that trade. -/
def oneTrade : AegisPro := { activeTrades := (∅ : Dict String Trade).set "BTC/USDT" oneUnit }

lemma oneUnit_fresh : oneUnit.Fresh := ⟨one_pos, rfl, rfl, rfl⟩

/-- At the first target both sell two fifths. -/
theorem exits_agree_iff_first_target : ∃ pos bot,
    Machine.run (tickBoth {} "BTC/USDT") (oneUnit.asPosition 210, oneTrade) [⟨112, 211, 1, 0⟩]
        = some (pos, bot)
      ∧ SameRemaining "BTC/USDT" pos bot := by
  have hopen : (Machine.run (tickBoth {} "BTC/USDT") (oneUnit.asPosition 210, oneTrade)
      [⟨112, 211, 1, 0⟩]).isSome := by decide +kernel
  obtain ⟨⟨pos, bot⟩, hrun⟩ := Option.isSome_iff_exists.mp hopen
  refine ⟨pos, bot, hrun, (exits_agree_iff {} "BTC/USDT" rfl (by norm_num) (by norm_num) oneUnit
    oneUnit_fresh oneTrade rfl 210 [⟨112, 211, 1, 0⟩]).mpr ?_ _ pos bot List.prefix_rfl hrun⟩
  rintro past hpast - ⟨before, price, after, hsplit, hreached, -⟩
  have hmem : price ∈ past.map Tick.price := by
    rw [hsplit]
    simp
  obtain ⟨tick, htick, rfl⟩ := List.mem_map.mp hmem
  obtain rfl := List.mem_singleton.mp (hpast.subset htick)
  norm_num [oneUnit] at hreached

/-- A price of 125 reaches both: the backtester has a fifth left, the bot nine parts of 25. -/
theorem exits_differ : (Machine.run (tickBoth {} "BTC/USDT") (oneUnit.asPosition 210, oneTrade)
      [⟨125, 211, 1, 0⟩]).map (fun s =>
        (s.1.qty / s.1.initialQty, (s.2.activeTrades.get? "BTC/USDT").map fun t => t.qty / t.initialQty))
    = some (1 / 5, some (9 / 25)) := by
  decide +kernel

end Aegis.Pro
