import AegisFortress.Lib.Raising
import AegisFortress.Models.Order
import AegisFortress.Pro.RiskManager

/-!
# The legacy bot

`main_legacy.py` with the paper side of `execution.py`: an entry after a scan, the exits of a trade, and
the equity.  A trade is the entry of its symbol in `activeTrades`; what a program wrote before it raised
stays written.
-/

namespace Aegis.Pro

open Raising

/-- The result of an order: the keys that are read from it. -/
structure FillReport where
  filled : Option ℚ
  average : Option ℚ
  feeCost : Option ℚ

/-- A fill that `_paper_fill` has reported. -/
structure PaperFill where
  side : OrderSide
  symbol : String
  qty : ℚ
  price : ℚ
  fee : ℚ

/-- `AegisPro`, with the fills that the paper side of its execution engine has reported. -/
structure AegisPro where
  activeTrades : Dict String Trade := ∅
  paperBalance : ℚ := 10000
  dailyPnl : ℚ := 0
  cooldowns : Dict String ℚ := ∅
  lastMlTrain : ℚ := 0
  lastPairUpdate : ℚ := 0
  lastBackup : ℚ := 0
  lastDailyReset : String := ""
  lastWeeklyKey : Option String := none
  risk : RiskManager := {}
  filled : List PaperFill := []

/-- What the rest of the world answers to a sale: the clock, the results of live orders, and whether the
trade can be written to the database and told. -/
structure SaleWorld where
  now : ℚ
  live : List (Option FillReport)
  journal : Except PyError Unit

/-- What a scan has found for a symbol, and what the rest of the world answers to an entry. -/
structure EntryScan where
  symbol : String
  equity : ℚ
  enoughBars : Bool
  /-- Close and average true range of the last complete row. -/
  row : Option (ℚ × ℚ)
  signal : Option String
  mlProb : ℚ
  fused : ℚ
  logSignal : Except PyError Unit
  live : Option FillReport
  now : ℚ
  journal : Except PyError Unit

inductive TradeExit
  | stopLoss
  | timeStop
  deriving DecidableEq

namespace AegisPro

variable (cfg : AegisConfig)

/-! ## Execution -/

/-- `_paper_fill(symbol, side, amount, expected_price)`. -/
def paperFill (now : ℚ) (symbol : String) (side : OrderSide) (amount expectedPrice : ℚ) :
    EStateM PyError AegisPro FillReport := do
  let slip := cfg.simSlippage
  let actualPrice := match side with
    | .buy => expectedPrice * (1 + slip)
    | .sell => expectedPrice * (1 - slip)
  let cost := actualPrice * amount
  let fee := cost * (1 / 1000)
  modify fun bot =>
    { bot with
      risk := bot.risk.recordSlippage cfg now symbol expectedPrice actualPrice
      filled := bot.filled ++ [⟨side, symbol, amount, actualPrice, fee⟩] }
  return { filled := some amount, average := some actualPrice, feeCost := some fee }

/-- `execute_buy` and `execute_sell`; a live order is answered by the exchange. -/
def execute (now : ℚ) (live : Option FillReport) (symbol : String) (side : OrderSide)
    (amount expectedPrice : ℚ) : EStateM PyError AegisPro (Option FillReport) :=
  if cfg.mode = "PAPER" then do
    let report ← paperFill cfg now symbol side amount expectedPrice
    return some report
  else if cfg.liveConfirm ≠ "YES_I_ACCEPT_THE_RISK" then return none
  else return live

/-! ## Exits -/

/-- `self.active_trades[symbol]`. -/
def tradeOf (symbol : String) : EStateM PyError AegisPro Trade := do
  let bot ← get
  match bot.activeTrades.get? symbol with
  | some trade => return trade
  | none => throw ⟨.keyError, s!"'{symbol}'"⟩

/-- Attributes of a trade are assigned. -/
def assign (symbol : String) (f : Trade → Trade) : EStateM PyError AegisPro Unit :=
  modify fun bot =>
    match bot.activeTrades.get? symbol with
    | some trade => { bot with activeTrades := bot.activeTrades.set symbol (f trade) }
    | none => bot

/-- `_partial_close(symbol, trade, qty, price, reason)`. -/
def partialClose (world : SaleWorld) (symbol : String) (qty price : ℚ) :
    EStateM PyError AegisPro Bool := do
  let trade ← tradeOf symbol
  if qty ≤ 0 ∨ trade.qty ≤ 0 then return false
  else
    let qty := min qty trade.qty
    let result ← execute cfg world.now world.live.head?.join symbol .sell qty price
    match result with
    | none => return false
    | some report => do
        let fillPrice := report.average.getD price
        let pnl := (fillPrice - trade.entryPrice) * qty - report.feeCost.getD 0
        assign symbol fun trade => { trade with qty := trade.qty - qty }
        modify fun bot =>
          { bot with
            paperBalance :=
              if cfg.mode = "PAPER" then bot.paperBalance + fillPrice * qty else bot.paperBalance
            dailyPnl := bot.dailyPnl + pnl }
        lift world.journal
        return true

/-- The first target of `_check_trade_exits`. -/
def exitTp1 (world : SaleWorld) (symbol : String) (price : ℚ) : EStateM PyError AegisPro Unit := do
  let trade ← tradeOf symbol
  if ¬ trade.tp1Taken ∧ trade.tp1 ≤ price then do
    let sellQty := trade.qty * cfg.atrTp1Frac
    let filled ← partialClose cfg world symbol sellQty price
    if filled then
      assign symbol fun trade =>
        { trade with
          tp1Taken := true
          stopLoss := max trade.stopLoss (trade.entryPrice * (1001 / 1000))
          trailActivated := true }

/-- The second target of `_check_trade_exits`. -/
def exitTp2 (world : SaleWorld) (symbol : String) (price : ℚ) : EStateM PyError AegisPro Unit := do
  let trade ← tradeOf symbol
  if trade.tp1Taken ∧ ¬ trade.tp2Taken ∧ trade.tp2 ≤ price then do
    let sellQty := trade.qty * cfg.atrTp2Frac
    let filled ← partialClose cfg world symbol sellQty price
    if filled then
      assign symbol fun trade => { trade with tp2Taken := true }

/-- The stop is moved to the entry early. -/
def earlyTrail (price : ℚ) (trade : Trade) : Trade :=
  let profitInAtr := (price - trade.entryPrice) / max trade.atrEntry (1 / 10 ^ 10)
  if ¬ trade.earlyTrail ∧ cfg.earlyTrailTrigger ≤ profitInAtr then
    { trade with
      earlyTrail := true
      stopLoss := max trade.stopLoss (trade.entryPrice + 1 / 1000 * trade.entryPrice) }
  else trade

/-- The trailing stop. -/
def chandelier (atr price : ℚ) (trade : Trade) : Trade :=
  if trade.trailActivated then { trade with stopLoss := max trade.stopLoss (price - 2 * atr) } else trade

/-- `_check_trade_exits(trade, price, symbol)`, with the world that meets each of the two sales. -/
def checkTradeExits (first second : SaleWorld) (symbol : String) (price : ℚ) :
    EStateM PyError AegisPro (Option TradeExit) := do
  let trade ← tradeOf symbol
  let atr := trade.currentAtr
  if price ≤ trade.stopLoss then return some .stopLoss
  else do
    exitTp1 cfg first symbol price
    exitTp2 cfg second symbol price
    assign symbol fun trade => chandelier atr price (earlyTrail cfg price trade)
    let trade ← tradeOf symbol
    let bot ← get
    if bot.risk.shouldTimeStop cfg trade ∧ (price - trade.entryPrice) * trade.qty ≤ 0 then
      return some .timeStop
    else return none

/-- The attempts of `_close_trade`: the first answer that is no failure, out of three. -/
def sellAll (world : SaleWorld) (symbol : String) (qty price : ℚ) :
    EStateM PyError AegisPro (Option FillReport) :=
  if cfg.mode = "PAPER" then execute cfg world.now none symbol .sell qty price
  else execute cfg world.now ((world.live.take 3).findSome? id) symbol .sell qty price

/-- `_close_trade(symbol, reason, price)`. -/
def closeTrade (world : SaleWorld) (symbol : String) (price : ℚ) : EStateM PyError AegisPro Unit := do
  let bot ← get
  match bot.activeTrades.get? symbol with
  | none => return ()
  | some trade => do
      let result ← sellAll cfg world symbol trade.qty price
      match result with
      | none => return ()
      | some report => do
          let fillPrice := report.average.getD price
          let fee := report.feeCost.getD 0
          let pnl := (fillPrice - trade.entryPrice) * trade.qty - trade.entryFee - fee
          let rMultiple := pnl / max trade.riskDollars (1 / 10 ^ 6)
          modify fun bot =>
            { bot with
              paperBalance :=
                if cfg.mode = "PAPER" then bot.paperBalance + fillPrice * trade.qty else bot.paperBalance
              dailyPnl := bot.dailyPnl + pnl
              risk :=
                (((if 0 < pnl then bot.risk.onWin else bot.risk.onLoss cfg world.now).updateStats pnl
                  rMultiple).recordSlippage cfg world.now symbol price fillPrice)
              cooldowns :=
                if pnl < 0 then bot.cooldowns.set symbol (world.now + cfg.symbolCooldownSecs)
                else bot.cooldowns }
          lift world.journal
          modify fun bot => { bot with activeTrades := bot.activeTrades.erase symbol }

/-! ## Entries -/

/-- `_open_risk()`. -/
def openRisk (bot : AegisPro) : ℚ :=
  (bot.activeTrades.entries.map fun (_, t) => max 0 ((t.entryPrice - t.stopLoss) * t.qty)).sum

/-- `_evaluate_symbol(symbol, equity, btc_bullish)`. -/
def evaluateSymbol (scan : EntryScan) : EStateM PyError AegisPro Unit := do
  match scan.enoughBars, scan.row with
  | true, some (currentPrice, atr) => do
      lift scan.logSignal
      match scan.signal.filter (· ≠ "") with
      | none => return ()
      | some signal =>
          if scan.fused < cfg.fusedThreshold then return ()
          else do
            let bot ← get
            let sizing ← lift (bot.risk.calculatePositionSize cfg currentPrice atr scan.equity bot.openRisk
              scan.mlProb 1)
            match sizing with
            | none => return ()
            | some sizing => do
                let result ← execute cfg scan.now scan.live scan.symbol .buy sizing.amount currentPrice
                match result with
                | none => return ()
                | some report => do
                    let fillPrice := report.average.getD currentPrice
                    let qty := report.filled.getD sizing.amount
                    let fee := report.feeCost.getD 0
                    modify fun bot =>
                      { bot with
                        paperBalance :=
                          if cfg.mode = "PAPER" then bot.paperBalance - fillPrice * qty
                          else bot.paperBalance
                        activeTrades := bot.activeTrades.set scan.symbol
                          { symbol := scan.symbol, entryPrice := fillPrice, qty, initialQty := qty
                            stopLoss := sizing.stopPrice, tp1 := sizing.tp1Price, tp2 := sizing.tp2Price
                            atrEntry := atr, currentAtr := atr, riskDollars := sizing.riskDollars
                            entryFee := fee, signalType := signal, entryTime := scan.now
                            entryBarIndex := bot.risk.barCounter, mode := cfg.mode }
                        risk.tradesToday := bot.risk.tradesToday + 1 }
                    lift scan.journal
  | _, _ => return ()

/-! ## Equity -/

/-- `_get_base_balance()`; the live balance is what the exchange says. -/
def baseBalance (bot : AegisPro) (usdt : ℚ) : ℚ :=
  if cfg.mode = "PAPER" then bot.paperBalance else if 0 < usdt then usdt else bot.paperBalance

/-- `equity`.  The generator binds `_sym`, and reads `sym`. -/
def equity (bot : AegisPro) (usdt : ℚ) (lastPrice : String → ℚ) : Except PyError ℚ := do
  let base := bot.baseBalance cfg usdt
  let unrealised ← bot.activeTrades.entries.mapM fun (_sym, t) => do
    let sym ← undefinedName "sym"
    return (lastPrice sym - t.entryPrice) * t.qty
  return base + unrealised.sum

/-! ## What the programs do -/

section Programs

variable {cfg} {bot : AegisPro} {symbol : String} {trade : Trade} {α : Type}
  {E : PyError → AegisPro → Prop}

lemma leads_tradeOf {Q : Trade → AegisPro → Prop} (h : bot.activeTrades.get? symbol = some trade) :
    Leads (tradeOf symbol) bot Q E ↔ Q trade bot := by
  simp only [tradeOf, leads_bind, leads_get, h, leads_pure]

lemma leads_assign {f : Trade → Trade} {Q : Unit → AegisPro → Prop}
    (h : bot.activeTrades.get? symbol = some trade) :
    Leads (assign symbol f) bot Q E
      ↔ Q () { bot with activeTrades := bot.activeTrades.set symbol (f trade) } := by
  simp only [assign, leads_modify, h]

/-- The price of a fill on paper. -/
def paperPrice (cfg : AegisConfig) (side : OrderSide) (expectedPrice : ℚ) : ℚ :=
  match side with
  | .buy => expectedPrice * (1 + cfg.simSlippage)
  | .sell => expectedPrice * (1 - cfg.simSlippage)

/-- A fill on paper. -/
def paperOrder (cfg : AegisConfig) (symbol : String) (side : OrderSide) (amount expectedPrice : ℚ) :
    PaperFill where
  side := side
  symbol := symbol
  qty := amount
  price := paperPrice cfg side expectedPrice
  fee := paperPrice cfg side expectedPrice * amount * (1 / 1000)

/-- The bot after a fill on paper. -/
def withFill (cfg : AegisConfig) (now : ℚ) (fill : PaperFill) (expectedPrice : ℚ) (bot : AegisPro) :
    AegisPro :=
  { bot with
    risk := bot.risk.recordSlippage cfg now fill.symbol expectedPrice fill.price
    filled := bot.filled ++ [fill] }

/-- **On paper every order is filled**, and reported with its price and fee. -/
lemma leads_execute (hmode : cfg.mode = "PAPER") {now : ℚ} {live : Option FillReport} {side : OrderSide}
    {amount expectedPrice : ℚ} {Q : Option FillReport → AegisPro → Prop} :
    Leads (execute cfg now live symbol side amount expectedPrice) bot Q E
      ↔ Q (some ⟨some amount, some (paperPrice cfg side expectedPrice),
            some (paperOrder cfg symbol side amount expectedPrice).fee⟩)
          (bot.withFill cfg now (paperOrder cfg symbol side amount expectedPrice) expectedPrice) := by
  rw [execute, if_pos hmode]
  simp only [paperFill, leads_bind, leads_modify, leads_pure]
  rfl

/-- The bot after an order to buy has been reported. -/
def entered (cfg : AegisConfig) (scan : EntryScan) (signal : String) (price atr : ℚ) (sizing : Sizing)
    (report : FillReport) (bot : AegisPro) : AegisPro :=
  { bot with
    paperBalance :=
      if cfg.mode = "PAPER" then
        bot.paperBalance - report.average.getD price * report.filled.getD sizing.amount
      else bot.paperBalance
    activeTrades := bot.activeTrades.set scan.symbol
      { symbol := scan.symbol, entryPrice := report.average.getD price
        qty := report.filled.getD sizing.amount, initialQty := report.filled.getD sizing.amount
        stopLoss := sizing.stopPrice, tp1 := sizing.tp1Price, tp2 := sizing.tp2Price
        atrEntry := atr, currentAtr := atr, riskDollars := sizing.riskDollars
        entryFee := report.feeCost.getD 0, signalType := signal, entryTime := scan.now
        entryBarIndex := bot.risk.barCounter, mode := cfg.mode }
    risk.tradesToday := bot.risk.tradesToday + 1 }

/-- **What a scan does**: nothing, or an order to buy, and an entry if it is reported. -/
lemma leads_evaluateSymbol {P : AegisPro → Prop} (h : P bot) (scan : EntryScan)
    (hbuy : ∀ signal price atr sizing,
      Leads (execute cfg scan.now scan.live scan.symbol .buy sizing.amount price) bot
        (fun result after => P (result.elim after fun report =>
          after.entered cfg scan signal price atr sizing report)) (fun _ => P)) :
    Leads (evaluateSymbol cfg scan) bot (fun _ => P) (fun _ => P) := by
  rw [evaluateSymbol]
  split
  · rename_i price atr _ _
    simp only [leads_bind, leads_lift]
    refine ⟨fun _ _ => ?_, fun _ _ => h⟩
    split
    · rw [leads_pure]
      exact h
    · rename_i signal _
      simp only [leads_ite, leads_pure, leads_bind, leads_get, leads_lift]
      refine ⟨fun _ => h, fun _ => ⟨fun sizing _ => ?_, fun _ _ => h⟩⟩
      cases sizing with
      | none =>
          simp only [leads_pure]
          exact h
      | some sizing =>
          simp only [leads_bind]
          refine (hbuy signal price atr sizing).mono (fun result after hafter => ?_) fun _ _ => id
          cases result with
          | none =>
              simp only [leads_pure]
              exact hafter
          | some report =>
              simp only [leads_bind, leads_modify, leads_lift]
              exact ⟨fun _ _ => hafter, fun _ _ => hafter⟩
  · rw [leads_pure]
    exact h

end Programs

end AegisPro

end Aegis.Pro
