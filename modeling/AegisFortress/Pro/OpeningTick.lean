import AegisFortress.Pro.PaperEquity
import AegisFortress.Pro.PositionSizing
import AegisFortress.Pro.TimeStop
import Mathlib.Algebra.Order.BigOperators.Group.List

/-!
# The tick that opens trades

A tick scans the watchlist if trading is not halted, and an entry is checked against the number of open
trades before it is made.  The number of trades of the day is compared once, before the scan.

`opens_once`: on paper a run that starts without trades opens trades in one tick at most.  They are the
fills of the run, so nothing is ever sold, and from then on every tick only counts its bar.
`exposure_bounded`: what they risk and what they cost, whatever the market does.
-/

namespace Aegis.Pro

open Raising

/-- The order to buy that a trade comes from. -/
def Trade.purchase (trade : Trade) : PaperFill where
  side := .buy
  symbol := trade.symbol
  qty := trade.qty
  price := trade.entryPrice
  fee := trade.entryFee

/-- What a trade has cost, without its fee. -/
def Trade.cost (trade : Trade) : ℚ := trade.entryPrice * trade.qty

/-- Nothing halts trading, at this time and with this equity. -/
structure Permitted (cfg : AegisConfig) (now equity : ℚ) (risk : RiskManager) : Prop where
  unpaused : risk.pauseUntil ≤ now
  unlocked : 0 < risk.historicalPeak → risk.drawdownLockedUntil ≤ now
  drawdown : 0 < risk.historicalPeak →
    (risk.historicalPeak - equity) / risk.historicalPeak * 100 < cfg.maxDrawdownPct
  unstopped : risk.dailyStopTriggered = false
  dailyLoss : 0 < risk.dailyStartEquity →
    (risk.dailyStartEquity - equity) / risk.dailyStartEquity * 100 < cfg.maxDailyLossPct

namespace RiskManager

variable {cfg : AegisConfig} {risk : RiskManager} {now equity : ℚ}

/-- A drawdown that does not lock is below its limit. -/
lemma checkHistoricalDrawdown_unlocked (h : (risk.checkHistoricalDrawdown cfg now equity).1 = false) :
    (risk.checkHistoricalDrawdown cfg now equity).2 = risk
      ∧ (0 < risk.historicalPeak → risk.drawdownLockedUntil ≤ now
        ∧ (risk.historicalPeak - equity) / risk.historicalPeak * 100 < cfg.maxDrawdownPct) := by
  rw [checkHistoricalDrawdown] at h ⊢
  by_cases hpeak : risk.historicalPeak ≤ 0
  · rw [if_pos hpeak]
    exact ⟨rfl, fun hpos => absurd hpeak (not_le.mpr hpos)⟩
  · rw [if_neg hpeak] at h ⊢
    by_cases hlocked : now < risk.drawdownLockedUntil
    · simp [hlocked] at h
    · rw [if_neg hlocked] at h ⊢
      by_cases hover : cfg.maxDrawdownPct ≤ (risk.historicalPeak - equity) / risk.historicalPeak * 100
      · simp [hover] at h
      · simp only [hover, if_false, true_and]
        exact fun _ => ⟨not_lt.mp hlocked, not_le.mp hover⟩

/-- A day that is not stopped has lost less than its limit. -/
lemma checkDailyLoss_unstopped (h : (risk.checkDailyLoss cfg equity).1 = false) :
    (risk.checkDailyLoss cfg equity).2 = risk ∧ risk.dailyStopTriggered = false
      ∧ (0 < risk.dailyStartEquity →
        (risk.dailyStartEquity - equity) / risk.dailyStartEquity * 100 < cfg.maxDailyLossPct) := by
  rw [checkDailyLoss] at h ⊢
  by_cases hstopped : risk.dailyStopTriggered = true
  · simp [hstopped] at h
  · rw [if_neg hstopped] at h ⊢
    by_cases hstart : risk.dailyStartEquity ≤ 0
    · rw [if_pos hstart]
      exact ⟨rfl, by simpa using hstopped, fun hpos => absurd hstart (not_le.mpr hpos)⟩
    · rw [if_neg hstart] at h ⊢
      by_cases hover : cfg.maxDailyLossPct
          ≤ (risk.dailyStartEquity - equity) / risk.dailyStartEquity * 100
      · simp [hover] at h
      · simp only [hover, if_false, true_and]
        exact ⟨by simpa using hstopped, fun _ => not_le.mp hover⟩

/-- **Trading that is not halted** is permitted, and the check has changed nothing. -/
lemma isTradingHalted_permitted (h : (risk.isTradingHalted cfg now equity).1 = false) :
    (risk.isTradingHalted cfg now equity).2 = risk ∧ Permitted cfg now equity risk := by
  simp only [isTradingHalted] at h ⊢
  by_cases hlocked : (risk.checkHistoricalDrawdown cfg now equity).1 = true
  · simp [hlocked] at h
  · rw [if_neg hlocked] at h ⊢
    obtain ⟨hsame, hdrawdown⟩ := checkHistoricalDrawdown_unlocked (Bool.eq_false_iff.mpr hlocked)
    rw [hsame] at h ⊢
    by_cases hstopped : (risk.checkDailyLoss cfg equity).1 = true
    · simp [hstopped] at h
    · rw [if_neg hstopped] at h ⊢
      obtain ⟨hday, hunstopped, hloss⟩ := checkDailyLoss_unstopped (Bool.eq_false_iff.mpr hstopped)
      rw [hday] at h ⊢
      refine ⟨rfl, ⟨?_, fun hpeak => (hdrawdown hpeak).1, fun hpeak => (hdrawdown hpeak).2, hunstopped,
        hloss⟩⟩
      simpa using h

/-- Slippage halts nothing, and opens no trade. -/
lemma recordSlippage_limits (cfg : AegisConfig) (risk : RiskManager) (now equity time : ℚ)
    (symbol : String) (expected actual : ℚ) :
    let recorded := risk.recordSlippage cfg time symbol expected actual
    recorded.tradesToday = risk.tradesToday
      ∧ (Permitted cfg now equity risk → Permitted cfg now equity recorded) := by
  simp only [recordSlippage]
  split_ifs <;>
    exact ⟨rfl, fun h => ⟨h.unpaused, h.unlocked, h.drawdown, h.unstopped, h.dailyLoss⟩⟩

/-- The part of the equity to risk is not negative. -/
lemma riskPct_nonneg (hbase : 0 ≤ cfg.baseRiskPerTrade) (mlProb atrRel : ℚ) :
    0 ≤ risk.riskPct cfg equity mlProb 1 atrRel := by
  have hdynamic : 0 ≤ risk.getDynamicRisk cfg equity := by
    simp only [getDynamicRisk]
    split_ifs <;> positivity
  have hkelly : 0 ≤ kelly cfg risk.winRate risk.avgWinR risk.avgLossR := by
    simp only [kelly]
    split_ifs
    · exact le_rfl
    · exact le_max_left _ _
  simp only [riskPct]
  split_ifs <;> positivity

/-- A size is returned for a positive price only. -/
lemma price_pos_of_sizing (hbase : 0 ≤ cfg.baseRiskPerTrade) {price atr openRisk mlProb : ℚ}
    {sizing : Sizing}
    (h : risk.calculatePositionSize cfg price atr equity openRisk mlProb 1 = .ok (some sizing)) :
    0 < price := by
  by_contra hneg
  have hprice : price ≤ 0 := not_lt.mp hneg
  have hunits : 0 ≤ if 0 < cfg.atrStopMult * atr then
      max 0 (equity - openRisk) * risk.riskPct cfg equity mlProb 1 (atr / price)
        / (cfg.atrStopMult * atr) else 0 := by
    split_ifs with hstop
    · exact div_nonneg (mul_nonneg (le_max_left _ _) (riskPct_nonneg hbase _ _)) hstop.le
    · exact le_rfl
  have hsmall : ∀ cap : ℚ, min ((if 0 < cfg.atrStopMult * atr then
      max 0 (equity - openRisk) * risk.riskPct cfg equity mlProb 1 (atr / price)
        / (cfg.atrStopMult * atr) else 0) * price) cap < 10 := by
    intro cap
    have hnotional := mul_nonpos_of_nonneg_of_nonpos hunits hprice
    exact (min_le_left _ _).trans_lt (by linarith)
  simp only [calculatePositionSize, if_pos (hsmall _)] at h
  split_ifs at h <;> cases h

end RiskManager

namespace AegisPro

variable {cfg : AegisConfig} {world : TickWorld} {start bot : AegisPro} {equity now : ℚ}

/-! ## An entry on paper -/

/-- The trade that an entry on paper records. -/
def paperTrade (cfg : AegisConfig) (scan : EntryScan) (signal : String) (price atr : ℚ) (sizing : Sizing)
    (barCounter : ℤ) : Trade where
  symbol := scan.symbol
  entryPrice := paperPrice cfg .buy price
  qty := sizing.amount
  initialQty := sizing.amount
  stopLoss := sizing.stopPrice
  tp1 := sizing.tp1Price
  tp2 := sizing.tp2Price
  atrEntry := atr
  currentAtr := atr
  riskDollars := sizing.riskDollars
  entryFee := (paperOrder cfg scan.symbol .buy sizing.amount price).fee
  signalType := signal
  entryTime := scan.now
  entryBarIndex := barCounter
  mode := cfg.mode

/-- The bot after an entry on paper. -/
def bought (cfg : AegisConfig) (scan : EntryScan) (price : ℚ) (trade : Trade) (bot : AegisPro) : AegisPro :=
  let filled := bot.withFill cfg scan.now trade.purchase price
  { filled with
    paperBalance := filled.paperBalance - trade.cost
    activeTrades := filled.activeTrades.set trade.symbol trade
    risk.tradesToday := filled.risk.tradesToday + 1 }

/-- **What a scan does on paper**: nothing, or an entry of a size that the risk manager has returned. -/
lemma leads_evaluateSymbol_paper (hmode : cfg.mode = "PAPER") {P : AegisPro → Prop} (h : P bot)
    (scan : EntryScan)
    (hentry : ∀ signal price atr sizing barCounter,
      bot.risk.calculatePositionSize cfg price atr scan.equity bot.openRisk scan.mlProb 1
          = .ok (some sizing) →
        P (bot.bought cfg scan price (paperTrade cfg scan signal price atr sizing barCounter))) :
    Leads (evaluateSymbol cfg scan) bot (fun _ => P) (fun _ => P) := by
  rw [evaluateSymbol]
  split
  · rename_i price atr _ _
    simp only [leads_bind, leads_lift]
    refine ⟨fun _ _ => ?_, fun _ _ => h⟩
    split
    · rw [leads_pure]
      exact h
    · rename_i signal _
      simp only [leads_ite, leads_pure, leads_bind, leads_get, leads_lift]
      refine ⟨fun _ => h, fun _ => ⟨fun sizing hsizing => ?_, fun _ _ => h⟩⟩
      cases sizing with
      | none =>
          simp only [leads_pure]
          exact h
      | some sizing =>
          have hbought := fun barCounter => hentry signal price atr sizing barCounter hsizing
          simp only [leads_bind, leads_execute hmode, leads_modify, leads_lift, if_pos hmode,
            Option.getD_some]
          exact ⟨fun _ _ => hbought _, fun _ _ => hbought _⟩
  · rw [leads_pure]
    exact h

lemma values_bought {scan : EntryScan} {price : ℚ} {trade : Trade}
    (hclosed : bot.activeTrades.get? trade.symbol = none) :
    (bot.bought cfg scan price trade).activeTrades.values = bot.activeTrades.values ++ [trade] :=
  Dict.values_set_of_not_mem (Dict.get?_eq_none.mp hclosed) trade

/-! ## The trades of a run -/

lemma values_of_flat (h : Flat bot) : bot.activeTrades.values = [] := by
  rw [Dict.values, h]
  rfl

/-- What a run has done: its trades are its fills, and they are within the limits. -/
structure Session (cfg : AegisConfig) (now : ℚ) (start bot : AegisPro) : Prop where
  fills : bot.filled = start.filled ++ bot.activeTrades.values.map Trade.purchase
  paid : bot.paperBalance = start.paperBalance - (bot.activeTrades.values.map Trade.cost).sum
  permitted : Permitted cfg now start.paperBalance bot.risk
  daily : bot.risk.tradesToday < cfg.maxDailyTrades + bot.activeTrades.values.length
  concurrent : (bot.activeTrades.values.length : ℤ) ≤ max 0 cfg.maxConcurrentTrades
  listed : ∀ trade ∈ bot.activeTrades.values, trade.symbol ∈ cfg.watchlist

/-- **One more entry.**  The number of open trades has just been compared. -/
lemma Session.bought (h : Session cfg now start bot) {scan : EntryScan} {price : ℚ} {trade : Trade}
    (hclosed : bot.activeTrades.get? trade.symbol = none) (hlisted : trade.symbol ∈ cfg.watchlist)
    (hroom : (bot.activeTrades.entries.length : ℤ) < cfg.maxConcurrentTrades) :
    Session cfg now start (bot.bought cfg scan price trade) := by
  have hvalues : (bot.bought cfg scan price trade).activeTrades.values = bot.activeTrades.values ++ [trade] :=
    values_bought hclosed
  have hlength : (bot.activeTrades.values.length : ℤ) < cfg.maxConcurrentTrades := by
    rw [Dict.values, List.length_map]
    exact hroom
  have hrisk := RiskManager.recordSlippage_limits cfg bot.risk now start.paperBalance scan.now trade.symbol
    price trade.entryPrice
  refine ⟨?_, ?_, ?_, ?_, ?_, ?_⟩
  · rw [hvalues, List.map_append, ← List.append_assoc, ← h.fills]
    rfl
  · rw [hvalues, List.map_append, List.sum_append, ← sub_sub, ← h.paid]
    simp [AegisPro.bought, withFill]
  · exact (fun hp : Permitted cfg now start.paperBalance _ =>
      ⟨hp.unpaused, hp.unlocked, hp.drawdown, hp.unstopped, hp.dailyLoss⟩) (hrisk.2 h.permitted)
  · have hdaily := h.daily
    rw [hvalues, List.length_append, List.length_singleton]
    change (RiskManager.recordSlippage cfg bot.risk scan.now trade.symbol price trade.entryPrice).tradesToday
      + 1 < _
    rw [hrisk.1]
    push_cast
    omega
  · rw [hvalues, List.length_append, List.length_singleton]
    push_cast
    omega
  · intro other hother
    rw [hvalues, List.mem_append, List.mem_singleton] at hother
    rcases hother with hother | rfl
    · exact h.listed other hother
    · exact hlisted

/-! ## What the trades risk -/

/-- The trades cost and risk no more than the configuration allows of the equity. -/
structure WithinExposure (cfg : AegisConfig) (equity : ℚ) (bot : AegisPro) : Prop where
  cost : ∀ trade ∈ bot.activeTrades.values,
    0 ≤ trade.cost ∧ trade.cost ≤ equity * cfg.maxPosAllocation * (1 + cfg.simSlippage)
  heat : bot.openRisk ≤ equity * (cfg.maxPortfolioHeat + cfg.simSlippage * cfg.maxPosAllocation)

/-- The configuration has no negative bounds. -/
structure Sane (cfg : AegisConfig) : Prop where
  slippage : 0 ≤ cfg.simSlippage
  baseRisk : 0 ≤ cfg.baseRiskPerTrade
  allocation : 0 ≤ cfg.maxPosAllocation
  heat : 0 ≤ cfg.maxPortfolioHeat

lemma openRisk_eq (bot : AegisPro) :
    bot.openRisk = (bot.activeTrades.values.map fun trade =>
      max 0 ((trade.entryPrice - trade.stopLoss) * trade.qty)).sum := by
  rw [openRisk, Dict.values, List.map_map]
  rfl

lemma openRisk_nonneg (bot : AegisPro) : 0 ≤ bot.openRisk := by
  rw [openRisk_eq]
  refine List.sum_nonneg fun risk hrisk => ?_
  obtain ⟨trade, _, rfl⟩ := List.mem_map.mp hrisk
  exact le_max_left _ _

/-- **What a size costs and risks**, of an equity that is not negative. -/
lemma sizing_within (hcfg : Sane cfg) (hequity : 0 ≤ equity) {risk : RiskManager}
    {price atr openRisk mlProb : ℚ} {sizing : Sizing} (hopen : 0 ≤ openRisk)
    (h : risk.calculatePositionSize cfg price atr equity openRisk mlProb 1 = .ok (some sizing)) :
    0 ≤ sizing.amount * price ∧ sizing.amount * price ≤ equity * cfg.maxPosAllocation
      ∧ 0 ≤ sizing.amount * (price - sizing.stopPrice)
      ∧ openRisk + sizing.amount * (price - sizing.stopPrice) ≤ equity * cfg.maxPortfolioHeat := by
  have hprice := RiskManager.price_pos_of_sizing hcfg.baseRisk h
  obtain ⟨wanted, hnear, hzero, hsmall, hheat, rfl⟩ := RiskManager.calculatePositionSize_returns h
  have hliquid : max 0 (equity - openRisk) ≤ equity := max_le hequity (by linarith)
  have hcap := (min_le_right wanted _).trans (mul_le_mul_of_nonneg_right hliquid hcfg.allocation)
  have hstop : 0 ≤ cfg.atrStopMult * atr := (mul_nonneg hprice.le (by norm_num)).trans hnear
  simp only [sub_sub_cancel, div_mul_cancel₀ _ hzero]
  refine ⟨by linarith, hcap, ?_, hheat.trans (mul_le_mul_of_nonneg_right hliquid hcfg.heat)⟩
  exact mul_nonneg (div_nonneg (by linarith) hprice.le) hstop

/-- **One more entry** of a size that has been returned.  Its slippage is not part of the check. -/
lemma WithinExposure.bought (hcfg : Sane cfg) (hequity : 0 ≤ equity) (h : WithinExposure cfg equity bot)
    {scan : EntryScan} {signal : String} {price atr : ℚ} {sizing : Sizing} {barCounter : ℤ}
    (hscan : scan.equity = equity) (hclosed : bot.activeTrades.get? scan.symbol = none)
    (hsizing : bot.risk.calculatePositionSize cfg price atr scan.equity bot.openRisk scan.mlProb 1
      = .ok (some sizing)) :
    WithinExposure cfg equity
      (bot.bought cfg scan price (paperTrade cfg scan signal price atr sizing barCounter)) := by
  rw [hscan] at hsizing
  obtain ⟨hpos, hcap, hrisk, hheat⟩ := sizing_within hcfg hequity bot.openRisk_nonneg hsizing
  have hslip := hcfg.slippage
  have hcost : sizing.amount * price * cfg.simSlippage ≤ equity * cfg.maxPosAllocation * cfg.simSlippage :=
    mul_le_mul_of_nonneg_right hcap hslip
  have hslipped : 0 ≤ sizing.amount * price * cfg.simSlippage := mul_nonneg hpos hslip
  have hvalues : (bot.bought cfg scan price
      (paperTrade cfg scan signal price atr sizing barCounter)).activeTrades.values
        = bot.activeTrades.values ++ [paperTrade cfg scan signal price atr sizing barCounter] :=
    values_bought hclosed
  constructor
  · intro other hother
    rw [hvalues, List.mem_append, List.mem_singleton] at hother
    rcases hother with hother | rfl
    · exact h.cost other hother
    · simp only [Trade.cost, paperTrade, paperPrice]
      constructor <;> linarith
  · rw [openRisk_eq, hvalues, List.map_append, List.sum_append, ← openRisk_eq, List.map_singleton,
      List.sum_singleton]
    simp only [paperTrade, paperPrice]
    rw [max_eq_right (by linarith)]
    linarith

/-! ## One tick -/

/-- The bot has no trades, and its money is untouched. -/
structure Idle (start bot : AegisPro) : Prop where
  flat : Flat bot
  filled : bot.filled = start.filled
  balance : bot.paperBalance = start.paperBalance

lemma equity_of_idle (h : Idle start bot) (hmode : cfg.mode = "PAPER") (usdt : ℚ)
    (lastPrice : String → ℚ) : bot.equity cfg usdt lastPrice = .ok start.paperBalance := by
  have hflat : bot.activeTrades.entries = [] := h.flat
  rw [equity_eq hmode, if_pos hflat, h.balance]

lemma maybeDailyReset_idle (h : Idle start bot) (equity : ℚ) :
    Leads (maybeDailyReset world equity) bot (fun _ => Idle start) (fun _ => Idle start) := by
  have hdone : ∀ bot' : AegisPro, bot'.activeTrades = bot.activeTrades → bot'.filled = bot.filled →
      bot'.paperBalance = bot.paperBalance → Idle start bot' := by
    intro bot' htrades hfilled hbalance
    exact ⟨by rw [Flat, htrades]; exact h.flat, hfilled.trans h.filled, hbalance.trans h.balance⟩
  simp only [maybeDailyReset, leads_bind, leads_get, leads_ite, leads_pure, leads_modify, leads_lift]
  exact ⟨fun _ => h, fun _ => ⟨fun _ => ⟨fun _ _ => hdone _ rfl rfl rfl, fun _ _ => hdone _ rfl rfl rfl⟩,
    fun _ => hdone _ rfl rfl rfl⟩⟩

lemma maybeWeeklyReset_idle (h : Idle start bot) (equity : ℚ) :
    Leads (maybeWeeklyReset world equity) bot (fun _ => Idle start) (fun _ _ => False) := by
  simp only [maybeWeeklyReset, leads_bind, leads_get, leads_ite, leads_pure, leads_modify]
  exact ⟨fun _ => h, fun _ => ⟨fun _ => h, fun _ => ⟨h.flat, h.filled, h.balance⟩⟩⟩

/-- Trading that is not halted is permitted at this equity. -/
lemma isTradingHalted_idle (h : Idle start bot) (equity : ℚ) :
    Leads (isTradingHalted cfg world equity) bot
      (fun halted after => Idle start after
        ∧ (halted = false → Permitted cfg world.now equity after.risk)) (fun _ _ => False) := by
  simp only [isTradingHalted, leads_bind, leads_get, leads_modify, leads_pure]
  refine ⟨⟨h.flat, h.filled, h.balance⟩, fun hrunning => ?_⟩
  obtain ⟨hsame, hpermitted⟩ := RiskManager.isTradingHalted_permitted hrunning
  rw [hsame]
  exact hpermitted

/-- Without open trades there is nothing to manage, and nothing changes. -/
lemma manageOpenPositions_idle (h : Flat bot) :
    Leads (manageOpenPositions cfg world) bot (fun _ after => after = bot) (fun _ _ => False) := by
  have hkeys : bot.activeTrades.keys = [] := by
    rw [Dict.keys, h]
    rfl
  simp only [manageOpenPositions, leads_bind, leads_get, hkeys, List.mapM_nil, List.filterMap_nil,
    leads_pure]
  exact leads_pure.mpr rfl

/-- **The scan of the watchlist** keeps what forgetting a blacklist and one more entry keep. -/
lemma leads_scanForEntries {P : AegisPro → Prop} {listed : List String}
    (hforget : ∀ bot (time : ℚ) (symbol : String), P bot →
      P { bot with risk := (bot.risk.isBlacklisted time symbol).2 })
    (hentry : ∀ bot (scan : EntryScan), P bot → scan.symbol ∈ listed → scan.equity = equity →
      bot.activeTrades.get? scan.symbol = none →
      (bot.activeTrades.entries.length : ℤ) < cfg.maxConcurrentTrades →
      Leads (evaluateSymbol cfg scan) bot (fun _ => P) (fun _ => P))
    (watchlist : List String) (hwatch : ∀ symbol ∈ watchlist, symbol ∈ listed) :
    ∀ bot, P bot →
      Leads (scanForEntries cfg world equity watchlist) bot (fun _ => P) (fun _ => P) := by
  induction watchlist with
  | nil =>
      intro bot h
      rw [scanForEntries, leads_pure]
      exact h
  | cons symbol rest ih =>
      intro bot h
      have hrest := ih fun other hother => hwatch other (List.mem_cons_of_mem _ hother)
      simp only [scanForEntries, leads_bind, leads_get, leads_ite, leads_pure, leads_tryCatch, isBlacklisted,
        leads_modify]
      refine ⟨fun _ => h, fun _ => ⟨fun _ => hrest _ h, fun hopen => ?_⟩⟩
      have hforgotten := hforget bot (world.scan symbol).now symbol h
      refine ⟨fun _ => hrest _ hforgotten, fun _ => ⟨fun _ => hrest _ hforgotten, fun _ =>
        ⟨fun _ => hforgotten, fun hroom => ?_⟩⟩⟩
      have hclosed : bot.activeTrades.get? symbol = none := by
        simpa using hopen
      exact (hentry _ _ hforgotten (hwatch symbol List.mem_cons_self) rfl hclosed
        (not_le.mp hroom)).mono (fun _ => hrest) fun _ => hrest

lemma leads_persist {P : AegisPro → Prop} (h : P bot)
    (hbackup : ∀ after : AegisPro, P after → P { after with lastBackup := world.now }) :
    Leads (persist world) bot (fun _ => P) (fun _ => P) := by
  have hdashboard : ∀ after, P after →
      Leads (pushDashboard world) after (fun _ => P) (fun _ => P) := by
    intro after hafter
    simp only [pushDashboard, leads_bind, leads_get, leads_ite, leads_lift]
    exact ⟨fun _ => ⟨fun _ _ => hafter, fun _ _ => hafter⟩, fun _ => ⟨fun _ _ => hafter, fun _ _ => hafter⟩⟩
  simp only [persist, leads_bind, leads_get, leads_lift]
  refine (leads_whenDue h _ _ _ (hbackup bot)).mono (fun _ after hafter => ?_) fun _ _ => id
  exact ⟨fun _ _ => ⟨fun _ _ => hdashboard after hafter, fun _ _ => hafter⟩, fun _ _ => hafter⟩

/-- **A tick that finds no trade open** scans the watchlist only if trading is permitted with the balance
for its equity, and if the day has room for a trade. -/
lemma leads_tick_of_idle (hmode : cfg.mode = "PAPER") (h : Idle start bot) {P : AegisPro → Prop}
    (hidle : ∀ after, Idle start after → P after)
    (hscan : ∀ after, Idle start after → Permitted cfg world.now start.paperBalance after.risk →
      after.risk.tradesToday < cfg.maxDailyTrades →
      Leads (scanForEntries cfg world start.paperBalance cfg.watchlist) after (fun _ => P) (fun _ => P))
    (hbackup : ∀ after : AegisPro, P after → P { after with lastBackup := world.now }) :
    Leads (tick cfg world) bot (fun _ => P) (fun _ => P) := by
  have hraise : PyError → ∀ after, Idle start after → P after := fun _ => hidle
  have hcounted : Idle start { bot with risk.barCounter := bot.risk.barCounter + 1 } :=
    ⟨h.flat, h.filled, h.balance⟩
  simp only [tick, leads_bind, leads_modify, leads_get, leads_lift]
  refine ⟨fun equity hequity => ?_, fun _ _ => hidle _ hcounted⟩
  have hbalance : equity = start.paperBalance := by
    exact Except.ok.inj (hequity.symm.trans (equity_of_idle hcounted hmode world.usdt world.lastPrice))
  subst hbalance
  refine (maybeDailyReset_idle hcounted _).mono (fun _ daily hdaily => ?_) hraise
  refine (maybeWeeklyReset_idle hdaily _).mono (fun _ weekly hweekly => ?_) fun _ _ => False.elim
  have hpeaks : Idle start { weekly with risk := weekly.risk.updateEquityPeaks start.paperBalance } :=
    ⟨hweekly.flat, hweekly.filled, hweekly.balance⟩
  refine ⟨fun _ _ => ?_, fun _ _ => hidle _ hpeaks⟩
  refine (leads_whenDue hpeaks _ _ _ fun h => ⟨h.flat, h.filled, h.balance⟩).mono
    (fun _ trained htrained => ?_) hraise
  refine (leads_whenDue htrained _ _ _ fun h => ⟨h.flat, h.filled, h.balance⟩).mono
    (fun _ paired hpaired => ?_) hraise
  refine ⟨fun _ _ => ?_, fun _ _ => hidle _ hpaired⟩
  refine (isTradingHalted_idle hpaired _).mono (fun halted checked hchecked => ?_) fun _ _ => False.elim
  obtain ⟨hchecked, hpermitted⟩ := hchecked
  simp only [leads_ite, leads_bind]
  refine ⟨fun _ => ?_, fun hrunning => ?_⟩ <;>
    refine (manageOpenPositions_idle hchecked.flat).mono (fun _ managed hmanaged => ?_)
      fun _ _ => False.elim
  · subst hmanaged
    simp only [pushDashboard, leads_bind, leads_get, leads_ite, leads_lift]
    exact ⟨fun _ => ⟨fun _ _ => hidle _ hchecked, fun _ _ => hidle _ hchecked⟩,
      fun _ => ⟨fun _ _ => hidle _ hchecked, fun _ _ => hidle _ hchecked⟩⟩
  · subst hmanaged
    simp only [lookForEntries, leads_bind, leads_get, leads_ite, leads_pure]
    refine ⟨fun hroom => ?_, fun _ => leads_persist (hidle _ hchecked) hbackup⟩
    exact (hscan _ hchecked (hpermitted (by simpa using hrunning)) hroom.2).mono
      (fun _ _ hafter => leads_persist hafter hbackup) fun _ _ => id

/-- No blacklist is part of a limit. -/
lemma Session.forget (h : Session cfg now start bot) (time : ℚ) (symbol : String) :
    Session cfg now start { bot with risk := (bot.risk.isBlacklisted time symbol).2 } := by
  rw [RiskManager.isBlacklisted]
  split_ifs
  · exact h
  · have hp := h.permitted
    exact ⟨h.fills, h.paid, ⟨hp.unpaused, hp.unlocked, hp.drawdown, hp.unstopped, hp.dailyLoss⟩, h.daily,
      h.concurrent, h.listed⟩

/-- A session without trades is idle. -/
lemma Session.idle (h : Session cfg now start bot) (hflat : Flat bot) : Idle start bot := by
  have hvalues := values_of_flat hflat
  have hfills := h.fills
  have hpaid := h.paid
  simp only [hvalues, List.map_nil, List.append_nil, List.sum_nil, sub_zero] at hfills hpaid
  exact ⟨hflat, hfills, hpaid⟩

/-- Bars are counted in no limit. -/
lemma Session.counted (h : Session cfg now start bot) (ticks : ℕ) :
    Session cfg now start (bot.counted ticks) := by
  have hp := h.permitted
  exact ⟨h.fills, h.paid, ⟨hp.unpaused, hp.unlocked, hp.drawdown, hp.unstopped, hp.dailyLoss⟩, h.daily,
    h.concurrent, h.listed⟩

/-- **A tick of an idle bot** leaves it idle, or with the trades it has opened. -/
lemma tick_session (world : TickWorld) (hmode : cfg.mode = "PAPER") (h : Idle start bot) :
    let after := final ((tick cfg world).run bot)
    Idle start after ∨ Session cfg world.now start after := by
  refine Leads.final (leads_tick_of_idle hmode h (fun _ => Or.inl) (fun after hidle hpermitted hroom => ?_)
    fun after hafter => ?_)
  · have hvalues := values_of_flat hidle.flat
    have hsession : Session cfg world.now start after := by
      refine ⟨?_, ?_, hpermitted, ?_, ?_, ?_⟩
      · simpa [hvalues] using hidle.filled
      · simpa [hvalues] using hidle.balance
      · simpa [hvalues] using hroom
      · simp [hvalues]
      · simp [hvalues]
    refine (leads_scanForEntries (fun bot time symbol h => h.forget time symbol) ?_ cfg.watchlist
      (fun _ => id) after hsession).mono (fun _ _ => Or.inr) fun _ _ => Or.inr
    intro bot scan hbot hlisted _ hclosed hlength
    exact leads_evaluateSymbol_paper hmode hbot scan fun _ _ _ _ _ _ =>
      hbot.bought hclosed hlisted hlength
  · refine hafter.imp (fun h => ⟨h.flat, h.filled, h.balance⟩) fun h => ?_
    exact ⟨h.fills, h.paid, h.permitted, h.daily, h.concurrent, h.listed⟩

/-- **A tick of an idle bot** stays within the exposure that its balance allows. -/
lemma tick_exposure (world : TickWorld) (hmode : cfg.mode = "PAPER") (hcfg : Sane cfg)
    (hbalance : 0 ≤ start.paperBalance) (h : Idle start bot) :
    WithinExposure cfg start.paperBalance (final ((tick cfg world).run bot)) := by
  have hidle : ∀ after, Idle start after → WithinExposure cfg start.paperBalance after := by
    intro after hafter
    refine ⟨by simp [values_of_flat hafter.flat], ?_⟩
    rw [openRisk_eq, values_of_flat hafter.flat, List.map_nil, List.sum_nil]
    exact mul_nonneg hbalance (add_nonneg hcfg.heat (mul_nonneg hcfg.slippage hcfg.allocation))
  refine Leads.final (leads_tick_of_idle hmode h hidle (fun after hafter _ _ => ?_)
    fun after hafter => ⟨hafter.cost, hafter.heat⟩)
  refine leads_scanForEntries (fun bot time symbol hbot => ⟨hbot.cost, hbot.heat⟩) ?_ cfg.watchlist
    (fun _ => id) after (hidle after hafter)
  intro bot scan hbot _ hequity hclosed _
  exact leads_evaluateSymbol_paper hmode hbot scan fun _ _ _ _ _ hsizing =>
    hbot.bought hcfg hbalance hequity hclosed hsizing

/-! ## Runs -/

/-- **A run is idle until a tick opens trades**, and after it only counts bars. -/
lemma run_cases (hmode : cfg.mode = "PAPER") (hflat : Flat start) (worlds : List TickWorld) :
    Idle start (afterTicks cfg start worlds)
      ∨ ∃ before opening later, worlds = before ++ [opening] ++ later
        ∧ Idle start (afterTicks cfg start before)
        ∧ ¬ Flat (afterTicks cfg start (before ++ [opening]))
        ∧ afterTicks cfg start worlds
          = (afterTicks cfg start (before ++ [opening])).counted later.length := by
  induction worlds using List.reverseRecOn with
  | nil => exact Or.inl ⟨hflat, rfl, rfl⟩
  | append_singleton worlds world ih =>
      rcases ih with hidle | ⟨before, opening, later, rfl, hidle, hopen, _⟩
      · have htick := tick_session world hmode hidle
        rw [← afterTicks_snoc] at htick
        by_cases hnone : Flat (afterTicks cfg start (worlds ++ [world]))
        · exact Or.inl (htick.elim id fun hsession => hsession.idle hnone)
        · exact Or.inr ⟨worlds, world, [], by simp, hidle, hnone, by simp [counted]⟩
      · refine Or.inr ⟨before, opening, later ++ [world], by simp, hidle, hopen, ?_⟩
        rw [← afterTicks_of_open hopen, List.append_assoc _ later, afterTicks, List.foldl_append]
        rfl

/-- **Trades are opened in one tick.**  On paper, and from a bot without trades, a run has opened no trade
and has filled nothing; or one of its ticks has opened them, with trading permitted and within the limits,
and the later ticks have only counted their bars.  The fills of the run are the entries of its trades:
nothing is ever sold. -/
theorem opens_once (cfg : AegisConfig) (hmode : cfg.mode = "PAPER") (start : AegisPro)
    (hflat : Flat start) (worlds : List TickWorld) :
    let bot := afterTicks cfg start worlds
    Idle start bot
      ∨ ∃ before opening later, worlds = before ++ [opening] ++ later
        ∧ Idle start (afterTicks cfg start before)
        ∧ ¬ Flat (afterTicks cfg start (before ++ [opening]))
        ∧ bot = (afterTicks cfg start (before ++ [opening])).counted later.length
        ∧ Session cfg opening.now start bot := by
  intro bot
  refine (run_cases hmode hflat worlds).imp id ?_
  rintro ⟨before, opening, later, hworlds, hidle, hopen, hbot⟩
  refine ⟨before, opening, later, hworlds, hidle, hopen, hbot, ?_⟩
  have htick := tick_session opening hmode hidle
  rw [← afterTicks_snoc] at htick
  have hsession := htick.resolve_left fun h => hopen h.flat
  rw [show bot = _ from hbot]
  exact hsession.counted later.length

/-- Two days: the first tick opens a trade, and the second counts its bar. -/
theorem opens_once_two_ticks :
    ∃ before opening later,
      ["2024-02-01", "2024-02-02"].map tickOn = before ++ [opening] ++ later
        ∧ Session {} opening.now {} (afterTicks {} {} (["2024-02-01", "2024-02-02"].map tickOn)) := by
  have hopen : (afterTicks {} {} (["2024-02-01", "2024-02-02"].map tickOn)).activeTrades.keys
      = ["BTC/USDT"] := by
    decide +kernel
  obtain ⟨before, opening, later, hworlds, -, -, -, hsession⟩ :=
    (opens_once {} rfl {} rfl (["2024-02-01", "2024-02-02"].map tickOn)).resolve_left fun h => by
      rw [Dict.keys, h.flat] at hopen
      cases hopen
  exact ⟨before, opening, later, hworlds, hsession⟩

/-- **What a run risks.**  From a bot without trades and with a balance that is not negative, the open
trades risk no more than the portfolio heat and the slippage of one allocation, each of them costs no more
than its allocation and the slippage, and the rest of the balance is there. -/
theorem exposure_bounded (cfg : AegisConfig) (hmode : cfg.mode = "PAPER") (hcfg : Sane cfg)
    (start : AegisPro) (hflat : Flat start) (hbalance : 0 ≤ start.paperBalance)
    (worlds : List TickWorld) :
    let bot := afterTicks cfg start worlds
    let allocated := start.paperBalance * cfg.maxPosAllocation * (1 + cfg.simSlippage)
    bot.openRisk
        ≤ start.paperBalance * (cfg.maxPortfolioHeat + cfg.simSlippage * cfg.maxPosAllocation)
      ∧ (∀ trade ∈ bot.activeTrades.values, 0 ≤ trade.cost ∧ trade.cost ≤ allocated)
      ∧ start.paperBalance - (max 0 cfg.maxConcurrentTrades : ℤ) * allocated ≤ bot.paperBalance := by
  intro bot allocated
  have hallocated : 0 ≤ allocated :=
    mul_nonneg (mul_nonneg hbalance hcfg.allocation) (add_nonneg zero_le_one hcfg.slippage)
  have hlimit : (0 : ℚ) ≤ (max 0 cfg.maxConcurrentTrades : ℤ) := by
    exact_mod_cast le_max_left 0 cfg.maxConcurrentTrades
  rcases run_cases hmode hflat worlds with hidle | ⟨before, opening, later, -, hidle, hopen, hbot⟩
  · have hvalues : bot.activeTrades.values = [] := values_of_flat hidle.flat
    refine ⟨?_, by simp [hvalues], ?_⟩
    · rw [openRisk_eq, hvalues, List.map_nil, List.sum_nil]
      exact mul_nonneg hbalance (add_nonneg hcfg.heat (mul_nonneg hcfg.slippage hcfg.allocation))
    · rw [hidle.balance]
      exact sub_le_self _ (mul_nonneg hlimit hallocated)
  · have htick := tick_session opening hmode hidle
    have hexposure := tick_exposure opening hmode hcfg hbalance hidle
    rw [← afterTicks_snoc] at htick hexposure
    have hsession := (htick.resolve_left fun h => hopen h.flat).counted later.length
    rw [← hbot] at hsession
    have hcost : ∀ trade ∈ bot.activeTrades.values, 0 ≤ trade.cost ∧ trade.cost ≤ allocated := by
      rw [show bot = _ from hbot]
      exact hexposure.cost
    refine ⟨?_, hcost, ?_⟩
    · rw [show bot = _ from hbot]
      exact hexposure.heat
    · have hsum : (bot.activeTrades.values.map Trade.cost).sum
          ≤ bot.activeTrades.values.length * allocated := by
        have hcard := List.sum_le_card_nsmul (bot.activeTrades.values.map Trade.cost) allocated
          fun cost hmem => by
            obtain ⟨trade, htrade, rfl⟩ := List.mem_map.mp hmem
            exact (hcost trade htrade).2
        simpa using hcard
      have hcount : (bot.activeTrades.values.length : ℚ) * allocated
          ≤ (max 0 cfg.maxConcurrentTrades : ℤ) * allocated := by
        refine mul_le_mul_of_nonneg_right ?_ hallocated
        exact_mod_cast hsession.concurrent
      rw [hsession.paid]
      linarith

/-- The defaults: a start with 10000 risks at most 3002.4, and each of the trades costs at most 1202.4. -/
theorem exposure_bounded_defaults :
    let bot := afterTicks {} {} (["2024-02-01", "2024-02-02"].map tickOn)
    bot.openRisk ≤ 15012 / 5 ∧ ∀ trade ∈ bot.activeTrades.values, trade.cost ≤ 6012 / 5 := by
  have h := exposure_bounded {} rfl ⟨by norm_num, by norm_num, by norm_num, by norm_num⟩ {} rfl
    (by norm_num) (["2024-02-01", "2024-02-02"].map tickOn)
  refine ⟨h.1.trans (by norm_num), fun trade htrade => (h.2.1 trade htrade).2.trans (by norm_num)⟩

end AegisPro

end Aegis.Pro
