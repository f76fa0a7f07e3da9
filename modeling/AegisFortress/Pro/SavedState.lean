import AegisFortress.Feeds.MarketDataNormalizer
import AegisFortress.Lib.Gather
import AegisFortress.Pro.AegisPro

/-!
# The saved state of the bot

`_save_state` and `_load_state` of `main_legacy.py`.  The file keeps what is written to it, so that a new
bot reads back the dictionary that was saved.

`saved_state_restored_iff`: a bot without open trades is restored.  One with an open trade is not even
saved, since the keys of the trades are read from a name that is not defined.
-/

namespace Aegis.Pro

open Raising

/-- The dictionary of a saved trade. -/
def Trade.toDict (t : Trade) : List (String × PyVal ℚ) :=
  [("entry_price", .float t.entryPrice), ("qty", .float t.qty), ("initial_qty", .float t.initialQty),
    ("stop_loss", .float t.stopLoss), ("tp1", .float t.tp1), ("tp2", .float t.tp2),
    ("atr_entry", .float t.atrEntry), ("current_atr", .float t.currentAtr),
    ("risk_dollars", .float t.riskDollars), ("entry_fee", .float t.entryFee),
    ("signal_type", .str t.signalType), ("entry_time", .float t.entryTime),
    ("entry_bar_index", .int t.entryBarIndex), ("tp1_taken", .bool t.tp1Taken),
    ("tp2_taken", .bool t.tp2Taken), ("trail_activated", .bool t.trailActivated),
    ("early_trail", .bool t.earlyTrail), ("mode", .str t.mode)]

namespace AegisPro

/-- `_save_state()`: what it writes.  The comprehension binds `_sym`, and reads `sym`. -/
def saveState (bot : AegisPro) (savedAt : String) : Except PyError (PyVal ℚ) := do
  let trades ← bot.activeTrades.entries.mapM fun (_sym, t) => do
    let sym ← undefinedName "sym"
    return (sym, PyVal.dict t.toDict)
  return .dict
    [("paper_balance", .float bot.paperBalance), ("daily_pnl", .float bot.dailyPnl),
      ("peak_equity", .float bot.risk.historicalPeak), ("total_trades", .int bot.risk.totalTrades),
      ("total_wins", .int bot.risk.totalWins), ("total_losses", .int bot.risk.totalLosses),
      ("avg_win_r", .float bot.risk.avgWinR), ("avg_loss_r", .float bot.risk.avgLossR),
      ("win_rate", .float bot.risk.winRate),
      ("cooldowns", .dict (bot.cooldowns.entries.map fun e => (e.1, .float e.2))),
      ("active_trades", .dict trades), ("saved_at", .str savedAt)]

/-- `float(items.get(key, default))`. -/
def floatOr (items : List (String × PyVal ℚ)) (key : String) (default : ℚ) : Except PyError ℚ :=
  ((items.lookup key).getD (.float default)).toFloat

/-- `int(items.get(key, 0))`. -/
def intOr (lib : StdLib ℚ) (items : List (String × PyVal ℚ)) (key : String) : Except PyError ℤ :=
  ((items.lookup key).getD (.int 0)).toInt lib

/-- `float(items[key])`. -/
def floatAt (items : List (String × PyVal ℚ)) (key : String) : Except PyError ℚ :=
  match items.lookup key with
  | some value => value.toFloat
  | none => .error ⟨.keyError, s!"'{key}'"⟩

/-- `bool(items.get(key, False))`. -/
def flagOf (items : List (String × PyVal ℚ)) (key : String) : Bool :=
  ((items.lookup key).getD (.bool false)).truthy

/-- `items.get(key, default)` of a text. -/
def textOr (items : List (String × PyVal ℚ)) (key default : String) : String :=
  ((items.lookup key).getD (.str default)).toStr

/-- What is not a dictionary has no `get` and no `items`. -/
def itemsOf (value : PyVal ℚ) (method : String) : Except PyError (List (String × PyVal ℚ)) :=
  match value with
  | .dict items => .ok items
  | value => .error ⟨.other, s!"'{value.typeName}' object has no attribute '{method}'"⟩

variable (cfg : AegisConfig) (lib : StdLib ℚ) (now : ℚ)

/-- A trade read from its dictionary. -/
def restoreTrade (symbol : String) (td : PyVal ℚ) : Except PyError Trade := do
  let td ← itemsOf td "get"
  let entryPrice ← floatAt td "entry_price"
  let qty ← floatAt td "qty"
  let initialQty ← floatAt td "initial_qty"
  let stopLoss ← floatAt td "stop_loss"
  let tp1 ← floatAt td "tp1"
  let tp2 ← floatAt td "tp2"
  let atrEntry ← floatAt td "atr_entry"
  let currentAtr ← match td.lookup "current_atr" with
    | some value => value.toFloat
    | none => floatAt td "atr_entry"
  let riskDollars ← floatAt td "risk_dollars"
  let entryFee ← floatOr td "entry_fee" 0
  let entryTime ← floatOr td "entry_time" now
  let entryBarIndex ← intOr lib td "entry_bar_index"
  return {
    symbol, entryPrice, qty, initialQty, stopLoss, tp1, tp2, atrEntry, currentAtr, riskDollars, entryFee
    signalType := textOr td "signal_type" "", entryTime, entryBarIndex
    tp1Taken := flagOf td "tp1_taken", tp2Taken := flagOf td "tp2_taken"
    trailActivated := flagOf td "trail_activated", earlyTrail := flagOf td "early_trail"
    mode := textOr td "mode" cfg.mode }

/-- One turn of the loop over the saved trades: one that cannot be read is left out. -/
def loadTrade (bot : AegisPro) (entry : String × PyVal ℚ) : AegisPro :=
  match restoreTrade cfg lib now entry.1 entry.2 with
  | .ok trade => { bot with activeTrades := bot.activeTrades.set entry.1 trade }
  | .error _ => bot

/-- The equity at the start of day and week, where it is not known. -/
def withBaselines (bot : AegisPro) : AegisPro :=
  let daily :=
    if bot.risk.dailyStartEquity ≤ 0 then
      if bot.paperBalance ≠ 0 then bot.paperBalance
      else if bot.risk.historicalPeak ≠ 0 then bot.risk.historicalPeak
      else 10000
    else bot.risk.dailyStartEquity
  { bot with
    risk.dailyStartEquity := daily
    risk.weeklyStartEquity :=
      if bot.risk.weeklyStartEquity ≤ 0 then daily else bot.risk.weeklyStartEquity }

/-- `_load_state()` of the dictionary in the file. -/
def loadState (data : PyVal ℚ) : EStateM PyError AegisPro Unit :=
  if ¬ data.truthy then pure ()
  else do
    let items ← lift (itemsOf data "get")
    let paperBalance ← lift (floatOr items "paper_balance" 10000)
    modify fun bot => { bot with paperBalance }
    let dailyPnl ← lift (floatOr items "daily_pnl" 0)
    modify fun bot => { bot with dailyPnl }
    let historicalPeak ← lift (floatOr items "peak_equity" 0)
    modify fun bot => { bot with risk.historicalPeak := historicalPeak }
    let totalTrades ← lift (intOr lib items "total_trades")
    modify fun bot => { bot with risk.totalTrades := totalTrades }
    let totalWins ← lift (intOr lib items "total_wins")
    modify fun bot => { bot with risk.totalWins := totalWins }
    let totalLosses ← lift (intOr lib items "total_losses")
    modify fun bot => { bot with risk.totalLosses := totalLosses }
    let avgWinR ← lift (floatOr items "avg_win_r" 0)
    modify fun bot => { bot with risk.avgWinR := avgWinR }
    let avgLossR ← lift (floatOr items "avg_loss_r" 0)
    modify fun bot => { bot with risk.avgLossR := avgLossR }
    let winRate ← lift (floatOr items "win_rate" 0)
    modify fun bot => { bot with risk.winRate := winRate }
    let cooldowns ← lift (itemsOf ((items.lookup "cooldowns").getD (.dict [])) "items")
    let cooldowns ← lift (cooldowns.mapM fun (k, v) => do
      let wait ← v.toFloat
      return (k, wait))
    modify fun bot => { bot with cooldowns := Dict.ofList cooldowns }
    let trades ← lift (itemsOf ((items.lookup "active_trades").getD (.dict [])) "items")
    modify fun bot => withBaselines (trades.foldl (loadTrade cfg lib now) bot)

/-! ## What is restored -/

/-- Everything that `_save_state` saves is as it was. -/
structure Restored (bot later : AegisPro) : Prop where
  paperBalance : later.paperBalance = bot.paperBalance
  dailyPnl : later.dailyPnl = bot.dailyPnl
  cooldowns : later.cooldowns.Equiv bot.cooldowns
  historicalPeak : later.risk.historicalPeak = bot.risk.historicalPeak
  counts : later.risk.totalTrades = bot.risk.totalTrades ∧ later.risk.totalWins = bot.risk.totalWins
    ∧ later.risk.totalLosses = bot.risk.totalLosses
  averages : later.risk.avgWinR = bot.risk.avgWinR ∧ later.risk.avgLossR = bot.risk.avgLossR
    ∧ later.risk.winRate = bot.risk.winRate
  activeTrades : later.activeTrades.Equiv bot.activeTrades

variable {cfg lib now}

/-- A trade comes back from its dictionary. -/
lemma restoreTrade_toDict (t : Trade) : restoreTrade cfg lib now t.symbol (.dict t.toDict) = .ok t := rfl

lemma mapM_toFloat (entries : List (String × ℚ)) :
    ((entries.map fun e => (e.1, PyVal.float e.2)).mapM fun (k, v) => do
      let wait ← v.toFloat
      return (k, wait)) = .ok entries := by
  induction entries with
  | nil => rfl
  | cons entry rest ih =>
      rw [List.map_cons, List.mapM_cons, ih]
      rfl

/-- The file of a bot without trades. -/
def fileOf (bot : AegisPro) (savedAt : String) : List (String × PyVal ℚ) :=
  [("paper_balance", .float bot.paperBalance), ("daily_pnl", .float bot.dailyPnl),
    ("peak_equity", .float bot.risk.historicalPeak), ("total_trades", .int bot.risk.totalTrades),
    ("total_wins", .int bot.risk.totalWins), ("total_losses", .int bot.risk.totalLosses),
    ("avg_win_r", .float bot.risk.avgWinR), ("avg_loss_r", .float bot.risk.avgLossR),
    ("win_rate", .float bot.risk.winRate),
    ("cooldowns", .dict (bot.cooldowns.entries.map fun e => (e.1, .float e.2))),
    ("active_trades", .dict []), ("saved_at", .str savedAt)]

/-- **What is saved**: nothing, as soon as a trade is open. -/
lemma saveState_eq (bot : AegisPro) (savedAt : String) : bot.saveState savedAt
    = if bot.activeTrades.entries = [] then .ok (.dict (fileOf bot savedAt)) else undefinedName "sym" := by
  rw [saveState]
  cases bot.activeTrades.entries with
  | nil => rfl
  | cons entry rest => rfl

/-- A new bot that reads the file of a bot without trades. -/
lemma loadState_fileOf (cfg : AegisConfig) (lib : StdLib ℚ) (now : ℚ) (bot : AegisPro)
    (savedAt : String) (htrades : bot.activeTrades.entries = []) :
    Leads (loadState cfg lib now (.dict (fileOf bot savedAt))) {} (fun _ later => Restored bot later)
      (fun _ _ => False) := by
  have htruthy : (PyVal.dict (fileOf bot savedAt)).truthy = true := rfl
  have hcooldowns : (fileOf bot savedAt).lookup "cooldowns"
      = some (.dict (bot.cooldowns.entries.map fun e => (e.1, .float e.2))) := rfl
  have htradesOf : (fileOf bot savedAt).lookup "active_trades" = some (.dict []) := rfl
  have hequiv : (Dict.ofList bot.cooldowns.entries).Equiv bot.cooldowns := by
    intro symbol
    rw [Dict.get?, Dict.entries_ofList bot.cooldowns.nodup, Dict.get?]
  -- every number is found under its key
  have hfloat : ∀ key x default, (fileOf bot savedAt).lookup key = some (.float x) →
      floatOr (fileOf bot savedAt) key default = .ok x := by
    intro key x default h
    rw [floatOr, h]
    rfl
  have hint : ∀ key n, (fileOf bot savedAt).lookup key = some (.int n) →
      intOr lib (fileOf bot savedAt) key = .ok n := by
    intro key n h
    rw [intOr, h]
    rfl
  simp only [loadState, htruthy, not_true, if_false, itemsOf, lift, leads_bind, leads_pure, leads_modify,
    hfloat "paper_balance" _ _ rfl, hfloat "daily_pnl" _ _ rfl, hfloat "peak_equity" _ _ rfl,
    hint "total_trades" _ rfl, hint "total_wins" _ rfl, hint "total_losses" _ rfl,
    hfloat "avg_win_r" _ _ rfl, hfloat "avg_loss_r" _ _ rfl, hfloat "win_rate" _ _ rfl, hcooldowns,
    htradesOf, Option.getD_some, mapM_toFloat, List.foldl_nil]
  refine ⟨rfl, rfl, hequiv, rfl, ⟨rfl, rfl, rfl⟩, ⟨rfl, rfl, rfl⟩, ?_⟩
  intro symbol
  rw [Dict.get?, Dict.get?, htrades]
  rfl

/-- **A restart.**  What the bot saves is restored by a new one, exactly if it has no open trade. -/
theorem saved_state_restored_iff (cfg : AegisConfig) (lib : StdLib ℚ) (now : ℚ) (savedAt : String)
    (bot : AegisPro) :
    (∃ data later, bot.saveState savedAt = .ok data
      ∧ (loadState cfg lib now data).run {} = .ok () later ∧ Restored bot later)
      ↔ bot.activeTrades.entries = [] := by
  constructor
  · rintro ⟨data, later, hsave, -⟩
    by_contra hopen
    rw [saveState_eq, if_neg hopen] at hsave
    cases hsave
  · intro htrades
    have hload := loadState_fileOf cfg lib now bot savedAt htrades
    rw [Leads] at hload
    refine ⟨.dict (fileOf bot savedAt), ?_⟩
    cases hrun : (loadState cfg lib now (.dict (fileOf bot savedAt))).run {} with
    | error e later =>
        rw [hrun] at hload
        exact hload.elim
    | ok _ later =>
        rw [hrun] at hload
        exact ⟨later, by rw [saveState_eq, if_pos htrades], rfl, hload⟩

/-- A bot with one open trade. -/
def oneOpen : AegisPro where
  activeTrades := (∅ : Dict String Trade).set "BTC/USDT"
    { symbol := "BTC/USDT", entryPrice := 100, qty := 1, initialQty := 1, stopLoss := 90, tp1 := 110
      tp2 := 120, atrEntry := 5, currentAtr := 5, riskDollars := 10, entryFee := 1 / 10
      signalType := "TREND", entryTime := 0 }

/-- It is not saved. -/
theorem saveState_open_trade : oneOpen.saveState "2024-01-15T00:00:00+00:00"
    = .error ⟨.other, "name 'sym' is not defined"⟩ := rfl

end AegisPro

end Aegis.Pro
