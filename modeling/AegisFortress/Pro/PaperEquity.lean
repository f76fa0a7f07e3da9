import AegisFortress.Pro.AegisPro

/-!
# The paper equity of the bot

On paper an entry takes the price of what is bought from the balance, and a sale adds what it brings.  The
fees are reported and never taken.  The equity should be the balance with the value of the open trades.

`paper_equity_iff`: it is the money that has come in less the money that has gone out, the reported fees
included, exactly if no trade is open and the fees are zero.  With an open trade there is no equity at
all: its generator reads a name that is not defined.
-/

namespace Aegis.Pro.AegisPro

open Raising

/-- A call that opens, reduces or closes a trade. -/
inductive BotCall
  | evaluate (scan : EntryScan)
  | partialClose (world : SaleWorld) (symbol : String) (qty price : ℚ)
  | close (world : SaleWorld) (symbol : String) (price : ℚ)

variable (cfg : AegisConfig)

/-- A call, whatever it returns or raises. -/
def perform : BotCall → EStateM PyError AegisPro Unit
  | .evaluate scan => evaluateSymbol cfg scan
  | .partialClose world symbol qty price => partialClose cfg world symbol qty price >>= fun _ => pure ()
  | .close world symbol price => closeTrade cfg world symbol price

/-- The bot after a sequence of calls. -/
def after (bot : AegisPro) (calls : List BotCall) : AegisPro :=
  calls.foldl (fun bot call => final ((perform cfg call).run bot)) bot

/-- What the fills of one side cost. -/
def notional (side : OrderSide) (fills : List PaperFill) : ℚ :=
  ((fills.filter fun fill => fill.side = side).map fun fill => fill.price * fill.qty).sum

/-- The fees that were reported. -/
def reportedFees (fills : List PaperFill) : ℚ := (fills.map PaperFill.fee).sum

/-- What the open trades are worth. -/
def holdings (bot : AegisPro) (lastPrice : String → ℚ) : ℚ :=
  (bot.activeTrades.entries.map fun (symbol, t) => t.qty * lastPrice symbol).sum

/-- The paper balance is the initial one, less what was paid and with what was received. -/
def Balanced (initial : ℚ) (bot : AegisPro) : Prop :=
  bot.paperBalance = initial - notional .buy bot.filled + notional .sell bot.filled

variable {cfg} {bot : AegisPro} {initial : ℚ}

lemma notional_snoc (side : OrderSide) (fills : List PaperFill) (fill : PaperFill) :
    notional side (fills ++ [fill])
      = notional side fills + if fill.side = side then fill.price * fill.qty else 0 := by
  simp only [notional, List.filter_append, List.map_append, List.sum_append, add_right_inj]
  by_cases h : fill.side = side <;> simp [h]

/-! ## The calls -/

lemma partialClose_balanced (hmode : cfg.mode = "PAPER") (h : Balanced initial bot) (world : SaleWorld)
    (symbol : String) (qty price : ℚ) :
    Leads (partialClose cfg world symbol qty price) bot (fun _ => Balanced initial)
      (fun _ => Balanced initial) := by
  cases htrade : bot.activeTrades.get? symbol with
  | none =>
      simp only [partialClose, tradeOf, leads_bind, leads_get, htrade, leads_throw]
      exact h
  | some trade =>
      have hfilled : ∀ now fill expected,
          (bot.withFill cfg now fill expected).activeTrades.get? symbol = some trade := fun _ _ _ => htrade
      simp only [partialClose, leads_bind, leads_tradeOf htrade, leads_ite, leads_pure,
        leads_execute hmode, leads_assign (hfilled _ _ _), leads_modify, leads_lift]
      refine ⟨fun _ => h, fun _ => ⟨fun _ _ => ?_, fun _ _ => ?_⟩⟩ <;>
      · simp only [Balanced, withFill, paperOrder, notional_snoc, if_pos hmode, Option.getD_some,
          reduceCtorEq, if_false, if_true]
        rw [h]
        ring

lemma closeTrade_balanced (hmode : cfg.mode = "PAPER") (h : Balanced initial bot) (world : SaleWorld)
    (symbol : String) (price : ℚ) :
    Leads (closeTrade cfg world symbol price) bot (fun _ => Balanced initial)
      (fun _ => Balanced initial) := by
  simp only [closeTrade, leads_bind, leads_get]
  split
  · rw [leads_pure]
    exact h
  · simp only [sellAll, if_pos hmode, leads_bind, leads_execute hmode, leads_modify, leads_lift]
    refine ⟨fun _ _ => ?_, fun _ _ => ?_⟩ <;>
    · simp only [Balanced, withFill, paperOrder, notional_snoc, Option.getD_some, reduceCtorEq, if_false,
        if_true]
      rw [h]
      ring

lemma evaluateSymbol_balanced (hmode : cfg.mode = "PAPER") (h : Balanced initial bot) (scan : EntryScan) :
    Leads (evaluateSymbol cfg scan) bot (fun _ => Balanced initial) (fun _ => Balanced initial) := by
  refine leads_evaluateSymbol h scan fun signal price atr sizing => ?_
  rw [leads_execute hmode]
  simp only [Balanced, Option.elim_some, entered, withFill, paperOrder, notional_snoc, if_pos hmode,
    Option.getD_some, reduceCtorEq, if_false, if_true]
  rw [h]
  ring

/-- **The balance** along a sequence of calls. -/
lemma after_balanced (hmode : cfg.mode = "PAPER") (h : Balanced initial bot) (calls : List BotCall) :
    Balanced initial (after cfg bot calls) := by
  induction calls generalizing bot with
  | nil => exact h
  | cons call rest ih =>
      refine ih (Leads.final ?_)
      cases call with
      | evaluate scan => exact evaluateSymbol_balanced hmode h scan
      | partialClose world symbol qty price =>
          simp only [perform, leads_bind, leads_pure]
          exact partialClose_balanced hmode h world symbol qty price
      | close world symbol price => exact closeTrade_balanced hmode h world symbol price

/-! ## The equity -/

/-- On paper the equity is the balance, as long as no trade is open. -/
lemma equity_eq (hmode : cfg.mode = "PAPER") (usdt : ℚ) (lastPrice : String → ℚ) :
    bot.equity cfg usdt lastPrice
      = if bot.activeTrades.entries = [] then .ok bot.paperBalance else undefinedName "sym" := by
  rw [equity, baseBalance, if_pos hmode]
  cases bot.activeTrades.entries with
  | nil => simp [pure, Except.pure, bind, Except.bind]
  | cons entry rest => simp [undefinedName, bind, Except.bind, List.mapM_cons]

/-- **The equity on paper.**  It is the initial balance, less what was bought, with what was sold, less the
reported fees, with the value of the open trades, exactly if no trade is open and the fees are zero. -/
theorem paper_equity_iff (cfg : AegisConfig) (hmode : cfg.mode = "PAPER") (start : AegisPro)
    (hfilled : start.filled = []) (calls : List BotCall) (usdt : ℚ) (lastPrice : String → ℚ) :
    let bot := after cfg start calls
    bot.equity cfg usdt lastPrice
        = .ok (start.paperBalance - notional .buy bot.filled + notional .sell bot.filled
            - reportedFees bot.filled + bot.holdings lastPrice)
      ↔ bot.activeTrades.entries = [] ∧ reportedFees bot.filled = 0 := by
  have hstart : Balanced start.paperBalance start := by
    simp [Balanced, hfilled, notional]
  have hbalance := after_balanced hmode hstart calls
  intro bot
  rw [equity_eq hmode, ← hbalance]
  by_cases hnone : bot.activeTrades.entries = []
  · simp only [hnone, if_true, holdings, List.map_nil, List.sum_nil, add_zero, Except.ok.injEq, true_and,
      bot]
    rw [eq_comm, sub_eq_self]
  · simp only [hnone, if_false, false_and, iff_false]
    exact fun h => by cases h

/-! ## One trade -/

/-- The database and the messages answer. -/
def answering : SaleWorld := ⟨0, [], .ok ()⟩

/-- A scan that finds an entry at 100 with a range of 1. -/
def entryScan : EntryScan where
  symbol := "BTC/USDT"
  equity := 10000
  enoughBars := true
  row := some (100, 1)
  signal := some "TREND"
  mlProb := 3 / 5
  fused := 7 / 10
  logSignal := .ok ()
  live := none
  now := 0
  journal := .ok ()

/-- Before the first entry the equity is the balance. -/
theorem paper_equity_iff_start :
    (after {} {} [.close answering "BTC/USDT" 100]).equity {} 0 (fun _ => 100) = .ok 10000 := by
  have h := (paper_equity_iff {} rfl {} rfl [.close answering "BTC/USDT" 100] 0 fun _ => 100).mpr
    ⟨by decide +kernel, by decide +kernel⟩
  exact h.trans (by decide +kernel)

/-- With a trade open there is no equity; when it is closed, the fees have not been paid. -/
theorem paper_equity_fails :
    (after {} {} [.evaluate entryScan]).equity {} 0 (fun _ => 100) = undefinedName "sym"
      ∧ (let bot := after {} {} [.evaluate entryScan, .close answering "BTC/USDT" 100]
        bot.equity {} 0 (fun _ => 100)
            = .ok (10000 - notional .buy bot.filled + notional .sell bot.filled)
          ∧ 0 < reportedFees bot.filled) := by
  decide +kernel

end Aegis.Pro.AegisPro
