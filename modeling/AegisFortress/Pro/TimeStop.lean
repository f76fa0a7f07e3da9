import AegisFortress.Pro.TradingLoop

/-!
# The time stop

A trade stores the bar counter of the tick that opens it, and `should_time_stop` takes the difference.  The
daily reset sets the counter to zero, which would make a trade that is open look younger than it is.

It never meets one.  A tick counts its bar and then reads the equity, and with an open trade that raises
(`tick_of_open`), before the reset: from the tick that opens a trade on, the counter only goes up.  So
`time_stop_counts_ticks`: the time stop is due exactly after as many ticks as it is meant to be.
-/

namespace Aegis.Pro.AegisPro

open Raising

variable {cfg : AegisConfig} {world : TickWorld} {bot : AegisPro}

/-- Every open trade has been opened with the counter as it is. -/
def OpenedNow (bot : AegisPro) : Prop :=
  ∀ symbol trade, bot.activeTrades.get? symbol = some trade → trade.entryBarIndex = bot.risk.barCounter

/-- No trade is open. -/
def Flat (bot : AegisPro) : Prop := bot.activeTrades.entries = []

lemma Flat.openedNow (h : Flat bot) : OpenedNow bot := by
  intro symbol trade htrade
  rw [Dict.get?, h] at htrade
  cases htrade

/-! ## Entries -/

lemma recordSlippage_barCounter (risk : RiskManager) (now : ℚ) (symbol : String) (expected actual : ℚ) :
    (risk.recordSlippage cfg now symbol expected actual).barCounter = risk.barCounter := by
  simp only [RiskManager.recordSlippage]
  split_ifs <;> rfl

lemma execute_openedNow (h : OpenedNow bot) (now : ℚ) (live : Option FillReport) (symbol : String)
    (side : OrderSide) (amount expectedPrice : ℚ) :
    Leads (execute cfg now live symbol side amount expectedPrice) bot (fun _ => OpenedNow)
      (fun _ => OpenedNow) := by
  simp only [execute, paperFill, leads_ite, leads_bind, leads_modify, leads_pure]
  refine ⟨fun _ other trade htrade => ?_, fun _ => ⟨fun _ => h, fun _ => h⟩⟩
  rw [recordSlippage_barCounter]
  exact h other trade htrade

/-- **An entry** stores the counter. -/
lemma OpenedNow.entered (h : OpenedNow bot) (scan : EntryScan) (signal : String) (price atr : ℚ)
    (sizing : Sizing) (report : FillReport) :
    OpenedNow (bot.entered cfg scan signal price atr sizing report) := by
  intro other trade htrade
  rw [AegisPro.entered, Dict.get?_set] at htrade
  split_ifs at htrade with hsymbol
  · cases htrade
    rfl
  · exact h other trade htrade

lemma evaluateSymbol_openedNow (h : OpenedNow bot) (scan : EntryScan) :
    Leads (evaluateSymbol cfg scan) bot (fun _ => OpenedNow) (fun _ => OpenedNow) := by
  refine leads_evaluateSymbol h scan fun signal price atr sizing => ?_
  refine (execute_openedNow h _ _ _ _ _ _).mono (fun result after hafter => ?_) fun _ _ => id
  cases result with
  | none => exact hafter
  | some report => exact hafter.entered scan signal price atr sizing report

lemma isBlacklisted_openedNow (h : OpenedNow bot) (now : ℚ) (symbol : String) :
    Leads (isBlacklisted now symbol) bot (fun _ => OpenedNow) (fun _ _ => False) := by
  simp only [isBlacklisted, RiskManager.isBlacklisted, leads_bind, leads_get, leads_modify, leads_pure]
  split_ifs <;> exact h

/-- **The scan** of a watchlist. -/
lemma scanForEntries_openedNow (equity : ℚ) (watchlist : List String) :
    ∀ {bot}, OpenedNow bot → Leads (scanForEntries cfg world equity watchlist) bot
      (fun _ => OpenedNow) (fun _ => OpenedNow) := by
  induction watchlist with
  | nil =>
      intro bot h
      rw [scanForEntries, leads_pure]
      exact h
  | cons symbol rest ih =>
      intro bot h
      simp only [scanForEntries, leads_bind, leads_get, leads_ite, leads_pure, leads_tryCatch]
      refine ⟨fun _ => h, fun _ => ⟨fun _ => ih h, fun _ => ?_⟩⟩
      refine (isBlacklisted_openedNow h _ _).mono (fun blacklisted after hafter => ?_)
        fun _ _ => False.elim
      refine ⟨fun _ => ih hafter, fun _ => ⟨fun _ => ih hafter, fun _ => ⟨fun _ => hafter, fun _ => ?_⟩⟩⟩
      exact (evaluateSymbol_openedNow hafter _).mono (fun _ _ => ih) fun _ _ => ih

/-! ## Ticks without an open trade -/

/-- Without open trades there is nothing to manage. -/
lemma manageOpenPositions_flat (h : Flat bot) :
    Leads (manageOpenPositions cfg world) bot (fun _ => Flat) (fun _ _ => False) := by
  have hkeys : bot.activeTrades.keys = [] := by
    rw [Dict.keys, h]
    rfl
  simp only [manageOpenPositions, leads_bind, leads_get, hkeys, List.mapM_nil, List.filterMap_nil,
    leads_pure]
  exact leads_pure.mpr h

/-- A job that is due again changes no trade and no bar. -/
lemma leads_whenDue {P : AegisPro → Prop} (h : P bot) (interval : ℚ) (last : AegisPro → ℚ)
    (job : Except PyError Unit) {done : AegisPro → AegisPro} (hdone : P bot → P (done bot)) :
    Leads (whenDue world interval last (lift job) done) bot (fun _ => P) (fun _ => P) := by
  simp only [whenDue, leads_bind, leads_get, leads_ite, leads_lift, leads_modify, leads_pure]
  exact ⟨fun _ => ⟨fun _ _ => hdone h, fun _ _ => h⟩, fun _ => h⟩

lemma maybeDailyReset_flat (h : Flat bot) (equity : ℚ) :
    Leads (maybeDailyReset world equity) bot (fun _ => Flat) (fun _ => Flat) := by
  simp only [maybeDailyReset, leads_bind, leads_get, leads_ite, leads_pure, leads_modify, leads_lift]
  exact ⟨fun _ => h, fun _ => ⟨fun _ => ⟨fun _ _ => h, fun _ _ => h⟩, fun _ => h⟩⟩

lemma maybeWeeklyReset_flat (h : Flat bot) (equity : ℚ) :
    Leads (maybeWeeklyReset world equity) bot (fun _ => Flat) (fun _ _ => False) := by
  simp only [maybeWeeklyReset, leads_bind, leads_get, leads_ite, leads_pure, leads_modify]
  exact ⟨fun _ => h, fun _ => ⟨fun _ => h, fun _ => h⟩⟩

lemma isTradingHalted_flat (h : Flat bot) (equity : ℚ) :
    Leads (isTradingHalted cfg world equity) bot (fun _ => Flat) (fun _ _ => False) := by
  simp only [isTradingHalted, leads_bind, leads_get, leads_modify, leads_pure]
  exact h

lemma pushDashboard_openedNow (h : OpenedNow bot) :
    Leads (pushDashboard world) bot (fun _ => OpenedNow) (fun _ => OpenedNow) := by
  simp only [pushDashboard, leads_bind, leads_get, leads_ite, leads_lift]
  exact ⟨fun _ => ⟨fun _ _ => h, fun _ _ => h⟩, fun _ => ⟨fun _ _ => h, fun _ _ => h⟩⟩

lemma lookForEntries_openedNow (h : OpenedNow bot) (equity : ℚ) :
    Leads (lookForEntries cfg world equity) bot (fun _ => OpenedNow) (fun _ => OpenedNow) := by
  simp only [lookForEntries, leads_bind, leads_get, leads_ite, leads_pure]
  exact ⟨fun _ => scanForEntries_openedNow equity _ h, fun _ => h⟩

lemma persist_openedNow (h : OpenedNow bot) :
    Leads (persist world) bot (fun _ => OpenedNow) (fun _ => OpenedNow) := by
  simp only [persist, leads_bind, leads_get, leads_lift]
  refine (leads_whenDue h _ _ _ id).mono (fun _ after hafter => ?_) fun _ _ => id
  exact ⟨fun _ _ => ⟨fun _ _ => pushDashboard_openedNow hafter, fun _ _ => hafter⟩, fun _ _ => hafter⟩

/-- **A tick that finds no trade open** leaves trades that have stored its counter. -/
lemma tick_of_flat (h : Flat bot) :
    Leads (tick cfg world) bot (fun _ => OpenedNow) (fun _ => OpenedNow) := by
  have hraise : PyError → ∀ bot : AegisPro, Flat bot → OpenedNow bot := fun _ _ h => h.openedNow
  have hcounted : Flat { bot with risk.barCounter := bot.risk.barCounter + 1 } := h
  simp only [tick, leads_bind, leads_modify, leads_get, leads_lift]
  refine ⟨fun equity _ => ?_, fun _ _ => hcounted.openedNow⟩
  refine (maybeDailyReset_flat hcounted equity).mono (fun _ daily hdaily => ?_) hraise
  refine (maybeWeeklyReset_flat hdaily equity).mono (fun _ weekly hweekly => ?_) fun _ _ => False.elim
  have hpeaks : Flat { weekly with risk := weekly.risk.updateEquityPeaks equity } := hweekly
  refine ⟨fun _ _ => ?_, fun _ _ => hpeaks.openedNow⟩
  refine (leads_whenDue hpeaks _ _ _ id).mono (fun _ trained htrained => ?_) hraise
  refine (leads_whenDue htrained _ _ _ id).mono (fun _ paired hpaired => ?_) hraise
  refine ⟨fun _ _ => ?_, fun _ _ => hpaired.openedNow⟩
  refine (isTradingHalted_flat hpaired equity).mono (fun halted checked hchecked => ?_)
    fun _ _ => False.elim
  simp only [leads_ite, leads_bind]
  refine ⟨fun _ => ?_, fun _ => ?_⟩ <;>
    refine (manageOpenPositions_flat hchecked).mono (fun _ managed hmanaged => ?_) fun _ _ => False.elim
  · exact pushDashboard_openedNow hmanaged.openedNow
  · exact (lookForEntries_openedNow hmanaged.openedNow equity).mono (fun _ _ => persist_openedNow)
      fun _ _ => id

/-! ## Ticks with an open trade -/

lemma equity_of_open (cfg : AegisConfig) (h : ¬ Flat bot) (usdt : ℚ) (lastPrice : String → ℚ) :
    bot.equity cfg usdt lastPrice = undefinedName "sym" := by
  rw [Flat] at h
  rw [equity]
  cases hentries : bot.activeTrades.entries with
  | nil => exact absurd hentries h
  | cons entry rest => simp [undefinedName, bind, Except.bind, List.mapM_cons]

/-- The bot after a tick that has only counted its bar. -/
def counted (bot : AegisPro) (ticks : ℕ) : AegisPro :=
  { bot with risk.barCounter := bot.risk.barCounter + ticks }

/-- **A tick that finds a trade open** counts its bar and raises: it does not come to the daily reset. -/
lemma tick_of_open (h : ¬ Flat bot) :
    Leads (tick cfg world) bot (fun _ _ => False) (fun _ after => after = bot.counted 1) := by
  have hopen : ¬ Flat (bot.counted 1) := h
  simp only [tick, leads_bind, leads_modify, leads_get, leads_lift]
  refine ⟨fun equity hok => ?_, fun _ _ => rfl⟩
  change (bot.counted 1).equity cfg world.usdt world.lastPrice = _ at hok
  rw [equity_of_open cfg hopen] at hok
  cases hok

/-! ## Runs -/

lemma afterTicks_snoc (worlds : List TickWorld) (world : TickWorld) :
    afterTicks cfg bot (worlds ++ [world]) = final ((tick cfg world).run (afterTicks cfg bot worlds)) := by
  rw [afterTicks, List.foldl_append]
  rfl

/-- With an open trade every tick of a run counts its bar. -/
lemma afterTicks_of_open (h : ¬ Flat bot) (worlds : List TickWorld) :
    afterTicks cfg bot worlds = bot.counted worlds.length := by
  induction worlds using List.reverseRecOn with
  | nil => simp [afterTicks, counted]
  | append_singleton worlds world ih =>
      have hopen : ¬ Flat (bot.counted worlds.length) := h
      have htick : final ((tick cfg world).run (bot.counted worlds.length))
          = (bot.counted worlds.length).counted 1 :=
        ((tick_of_open hopen).mono (fun _ _ => False.elim) fun _ _ => id).final
      rw [afterTicks_snoc, ih, htick]
      simp [counted, add_assoc]

/-- A tick opens trades only if there is none, and they store its counter. -/
lemma openedNow_of_tick {symbol : String} {opened : Trade}
    (hclosed : bot.activeTrades.get? symbol = none)
    (hopen : (final ((tick cfg world).run bot)).activeTrades.get? symbol = some opened) :
    OpenedNow (final ((tick cfg world).run bot)) := by
  by_cases hflat : Flat bot
  · exact (tick_of_flat hflat).final
  · have htick : final ((tick cfg world).run bot) = bot.counted 1 :=
      ((tick_of_open hflat).mono (fun _ _ => False.elim) fun _ _ => id).final
    rw [htick] at hopen
    change bot.activeTrades.get? symbol = some opened at hopen
    rw [hclosed] at hopen
    cases hopen

/-- **The time stop counts ticks.**  A trade that a tick opens stays open, whatever the later ticks meet
(also a new date in every one of them), and its time stop is due exactly when at least `time_stop_candles`
of them have started. -/
theorem time_stop_counts_ticks (cfg : AegisConfig) (start : AegisPro) (before : List TickWorld)
    (opening : TickWorld) (later : List TickWorld) (symbol : String) (opened : Trade)
    (hclosed : (afterTicks cfg start before).activeTrades.get? symbol = none)
    (hopen : (afterTicks cfg start (before ++ [opening])).activeTrades.get? symbol = some opened) :
    let bot := afterTicks cfg start (before ++ [opening] ++ later)
    bot.activeTrades.get? symbol = some opened
      ∧ (bot.risk.shouldTimeStop cfg opened = true ↔ cfg.timeStopCandles ≤ later.length) := by
  have hnow : OpenedNow (afterTicks cfg start (before ++ [opening])) := by
    rw [afterTicks_snoc] at hopen ⊢
    exact openedNow_of_tick hclosed hopen
  have hindex := hnow symbol opened hopen
  have hnotFlat : ¬ Flat (afterTicks cfg start (before ++ [opening])) := by
    intro hflat
    rw [Dict.get?, hflat] at hopen
    cases hopen
  have hlater : afterTicks cfg start (before ++ [opening] ++ later)
      = (afterTicks cfg start (before ++ [opening])).counted later.length := by
    rw [← afterTicks_of_open hnotFlat, afterTicks, List.foldl_append]
    rfl
  rw [hlater]
  refine ⟨hopen, ?_⟩
  simp only [RiskManager.shouldTimeStop, counted, hindex, decide_eq_true_eq]
  omega

/-- A tick on a date: the first symbol has a signal, and then the loop is stopped. -/
def tickOn (today : String) : TickWorld where
  now := 0
  usdt := 0
  lastPrice := fun _ => 100
  today := today
  weekKey := "1"
  monday := false
  performance := .ok ()
  logEquity := .ok ()
  retrainMl := .ok ()
  updatePairs := .ok ()
  updateWeights := .ok ()
  position := fun _ => ⟨100, .ok none, ⟨0, [], .ok ()⟩, ⟨0, [], .ok ()⟩, ⟨0, [], .ok ()⟩⟩
  scan := fun symbol =>
    { running := symbol = "BTC/USDT"
      now := 0
      entry :=
        { symbol, equity := 0, enoughBars := true, row := some (100, 2), signal := some "TREND"
          mlProb := 3 / 5, fused := 7 / 10, logSignal := .ok (), live := none, now := 0
          journal := .ok () } }
  backup := .ok ()
  savedAt := today
  writeState := .ok ()
  dashboard := .ok ()

/-- A trade that is held over three dates. -/
theorem time_stop_counts_ticks_over_dates :
    ∃ opened,
      let later := ["2024-01-02", "2024-01-03", "2024-01-04"].map tickOn
      let bot := afterTicks {} {} ([] ++ [tickOn "2024-01-01"] ++ later)
      bot.activeTrades.get? "BTC/USDT" = some opened
        ∧ (bot.risk.shouldTimeStop {} opened = true ↔ (3 : ℤ) ≤ later.length) := by
  have hsome : ((afterTicks {} {} ([] ++ [tickOn "2024-01-01"])).activeTrades.get? "BTC/USDT").isSome := by
    decide +kernel
  obtain ⟨opened, hopen⟩ := Option.isSome_iff_exists.mp hsome
  exact ⟨opened, time_stop_counts_ticks {} {} [] _ _ "BTC/USDT" opened rfl hopen⟩

end Aegis.Pro.AegisPro
