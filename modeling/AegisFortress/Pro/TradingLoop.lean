import AegisFortress.Pro.SavedState

/-!
# The tick of the legacy bot

`_tick` of `main_legacy.py`: one scan cycle, with the resets, the open positions and the entries.  What
the rest of the world answers is its input; `run` catches what a tick raises and goes on to the next one.
-/

namespace Aegis.Pro

open Raising

/-- What the rest of the world answers about an open position: its price (zero if there is none), its
range, and the sales. -/
structure PositionWorld where
  price : ℚ
  currentAtr : Except PyError (Option ℚ)
  first : SaleWorld
  second : SaleWorld
  close : SaleWorld

/-- What meets a symbol of the watchlist. -/
structure SymbolScan where
  running : Bool
  now : ℚ
  entry : EntryScan

/-- What the rest of the world answers to a tick. -/
structure TickWorld where
  now : ℚ
  usdt : ℚ
  lastPrice : String → ℚ
  /-- The date, the key of the week, and whether it is Monday. -/
  today : String
  weekKey : String
  monday : Bool
  performance : Except PyError Unit
  logEquity : Except PyError Unit
  retrainMl : Except PyError Unit
  updatePairs : Except PyError Unit
  updateWeights : Except PyError Unit
  position : String → PositionWorld
  scan : String → SymbolScan
  backup : Except PyError Unit
  savedAt : String
  writeState : Except PyError Unit
  dashboard : Except PyError Unit

namespace AegisPro

variable (cfg : AegisConfig) (world : TickWorld)

/-! ## Resets -/

/-- `_maybe_daily_reset(equity)`. -/
def maybeDailyReset (equity : ℚ) : EStateM PyError AegisPro Unit := do
  let bot ← get
  if world.today = bot.lastDailyReset then return ()
  else do
    modify fun bot => { bot with lastDailyReset := world.today }
    if 0 < bot.risk.totalTrades then lift world.performance
    modify fun bot => { bot with risk := bot.risk.resetDaily equity, dailyPnl := 0 }

/-- `_maybe_weekly_reset(equity)`. -/
def maybeWeeklyReset (equity : ℚ) : EStateM PyError AegisPro Unit := do
  let bot ← get
  if some world.weekKey = bot.lastWeeklyKey then return ()
  else if ¬ world.monday then return ()
  else
    modify fun bot =>
      { bot with lastWeeklyKey := some world.weekKey, risk := bot.risk.resetWeekly equity }

/-! ## Open positions -/

/-- One round of the loop over the open positions; an exception is logged. -/
def managePosition (symbol : String) : EStateM PyError AegisPro (Option (String × ℚ)) :=
  let position := world.position symbol
  tryCatch
    (if position.price ≤ 0 then return none
    else do
      let currentAtr ← lift position.currentAtr
      assign symbol fun trade => { trade with currentAtr := currentAtr.getD trade.currentAtr }
      let action ← checkTradeExits cfg position.first position.second symbol position.price
      return action.map fun _ => (symbol, position.price))
    fun _ => return none

/-- `_manage_open_positions(equity)`. -/
def manageOpenPositions : EStateM PyError AegisPro Unit := do
  let bot ← get
  let toClose ← bot.activeTrades.keys.mapM (managePosition cfg world)
  (toClose.filterMap id).forM fun (symbol, price) =>
    closeTrade cfg (world.position symbol).close symbol price

/-! ## Entries -/

/-- `is_blacklisted(symbol)`, which forgets what is over. -/
def isBlacklisted (now : ℚ) (symbol : String) : EStateM PyError AegisPro Bool := do
  let bot ← get
  let (blacklisted, risk) := bot.risk.isBlacklisted now symbol
  modify fun bot => { bot with risk }
  return blacklisted

/-- `_scan_for_entries(equity)`, on this watchlist. -/
def scanForEntries (equity : ℚ) : List String → EStateM PyError AegisPro Unit
  | [] => return ()
  | symbol :: rest => do
      let scan := world.scan symbol
      let bot ← get
      if ¬ scan.running then return ()
      else if (bot.activeTrades.get? symbol).isSome then scanForEntries equity rest
      else do
        let blacklisted ← isBlacklisted scan.now symbol
        if blacklisted then scanForEntries equity rest
        else if scan.now < bot.cooldowns.getD symbol 0 then scanForEntries equity rest
        else if cfg.maxConcurrentTrades ≤ bot.activeTrades.entries.length then return ()
        else do
          tryCatch (evaluateSymbol cfg { scan.entry with symbol, equity }) fun _ => return ()
          scanForEntries equity rest

/-! ## The tick -/

/-- A job that is done again after an interval. -/
def whenDue (interval : ℚ) (last : AegisPro → ℚ) (job : EStateM PyError AegisPro Unit)
    (done : AegisPro → AegisPro) : EStateM PyError AegisPro Unit := do
  let bot ← get
  if interval < world.now - last bot then do
    job
    modify done
  else return ()

/-- `is_trading_halted(current_equity)`. -/
def isTradingHalted (currentEquity : ℚ) : EStateM PyError AegisPro Bool := do
  let bot ← get
  let (halted, risk) := bot.risk.isTradingHalted cfg world.now currentEquity
  modify fun bot => { bot with risk }
  return halted

/-- `_push_dashboard(equity)`.  The loop binds `_sym`, and reads `sym`. -/
def pushDashboard : EStateM PyError AegisPro Unit := do
  let bot ← get
  if bot.activeTrades.entries ≠ [] then lift (undefinedName "sym")
  else lift world.dashboard

/-- New entries, if another trade is allowed. -/
def lookForEntries (currentEquity : ℚ) : EStateM PyError AegisPro Unit := do
  let bot ← get
  if bot.activeTrades.entries.length < cfg.maxConcurrentTrades
      ∧ bot.risk.tradesToday < cfg.maxDailyTrades then
    scanForEntries cfg world currentEquity cfg.watchlist
  else return ()

/-- The backup, the saved state and the dashboard. -/
def persist : EStateM PyError AegisPro Unit := do
  whenDue world 86400 lastBackup (lift world.backup) fun bot => { bot with lastBackup := world.now }
  let bot ← get
  let _ ← lift (bot.saveState world.savedAt)
  lift world.writeState
  pushDashboard world

/-- `_tick()`. -/
def tick : EStateM PyError AegisPro Unit := do
  modify fun bot => { bot with risk.barCounter := bot.risk.barCounter + 1 }
  let bot ← get
  let currentEquity ← lift (bot.equity cfg world.usdt world.lastPrice)
  maybeDailyReset world currentEquity
  maybeWeeklyReset world currentEquity
  modify fun bot => { bot with risk := bot.risk.updateEquityPeaks currentEquity }
  lift world.logEquity
  whenDue world cfg.mlRetrainIntervalSecs lastMlTrain (lift world.retrainMl)
    fun bot => { bot with lastMlTrain := world.now }
  whenDue world cfg.correlationUpdateSecs lastPairUpdate (lift world.updatePairs)
    fun bot => { bot with lastPairUpdate := world.now }
  lift world.updateWeights
  let halted ← isTradingHalted cfg world currentEquity
  if halted then do
    manageOpenPositions cfg world
    pushDashboard world
  else do
    manageOpenPositions cfg world
    lookForEntries cfg world currentEquity
    persist world

/-- The ticks of `run`: what one of them raises is logged. -/
def afterTicks (bot : AegisPro) (worlds : List TickWorld) : AegisPro :=
  worlds.foldl (fun bot world => final ((tick cfg world).run bot)) bot

end AegisPro

end Aegis.Pro
