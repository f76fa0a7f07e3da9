import AegisFortress.Risk.KillSwitch
import AegisFortress.Risk.PreTradeRisk
import AegisFortress.Strategies.MeanReversionImbalance

/-!
# Settings and the constructors they are for

`RuntimeSettings.validate` of `app/runtime_settings.py`, and the four constructors of
`RuntimeContainer.build` that check their arguments.  `build_ok_iff`: on settings that have been
validated they raise nothing exactly when the settings pass the checks that `validate` lacks
(`Covered`).  Numbers are only compared here, so this holds for whatever they are.
-/

namespace Aegis

/-- `RuntimeSettings`: what `validate` and the constructors read. -/
structure RuntimeSettings (α : Type) where
  maxGrossExposure : α
  maxNetExposure : α
  maxSymbolWeight : α
  maxOrderNotional : α
  maxDailyLoss : α
  maxDrawdownPct : α
  marketPollIntervalSeconds : α
  orderbookDepth : ℤ
  marketFetchConcurrency : ℤ
  marketStaleAfterSeconds : α
  metricsPort : ℤ
  monitoringIntervalSeconds : α
  healthPort : ℤ
  healthSnapshotIntervalSeconds : α
  liveStrategyEnabled : Bool
  strategyTargetNotional : α
  strategyMaxPositionNotional : α
  strategyRollingWindow : ℤ
  strategyMinObservations : ℤ
  strategyEntryZscore : α
  strategyExitZscore : α
  strategyImbalanceThreshold : α
  strategyMaxSpreadBps : α
  strategyCooldownSeconds : α
  strategyOrderType : String
  strategyMinOrderNotional : α
  strategyTakeProfitBps : α
  strategyStopLossBps : α
  strategyMinProfitAfterFeeBps : α
  strategyMaxHoldSeconds : α
  strategySymbolCooldownAfterExitSeconds : α
  strategyLossCooldownSeconds : α
  strategyBadSymbolDropBps : α

/-- What the four constructors have made. -/
structure RuntimeParts (α : Type) [Zero α] [One α] [LT α] [LE α] [DecidableLT α]
    [DecidableLE α] [PyFloat α] where
  preTradeRisk : PreTradeRiskValidator α
  killSwitch : KillSwitch α
  liveStrategy : Option (MeanReversionImbalanceStrategy α)

namespace RuntimeSettings

section Definitions

variable {α : Type} [Zero α] [One α] [LT α] [LE α] [DecidableLT α] [DecidableLE α] [PyFloat α]
  (settings : RuntimeSettings α)

/-! ## Validation -/

/-- The checks of `validate()`, each with the text of its `ValueError`. -/
def checks : List (Bool × String) :=
  [(settings.maxGrossExposure ≤ 0, "max_gross_exposure must be positive"),
    (settings.maxNetExposure ≤ 0, "max_net_exposure must be positive"),
    (¬ (0 < settings.maxSymbolWeight ∧ settings.maxSymbolWeight ≤ 1),
      "max_symbol_weight must be in (0, 1]"),
    (settings.maxOrderNotional ≤ 0, "max_order_notional must be positive"),
    (settings.maxDailyLoss ≤ 0, "max_daily_loss must be positive"),
    (settings.maxDrawdownPct ≤ 0, "max_drawdown_pct must be positive"),
    (settings.marketPollIntervalSeconds ≤ 0, "market_poll_interval_seconds must be positive"),
    (settings.orderbookDepth ≤ 0, "orderbook_depth must be positive"),
    (settings.marketFetchConcurrency ≤ 0, "market_fetch_concurrency must be positive"),
    (settings.marketStaleAfterSeconds ≤ 0, "market_stale_after_seconds must be positive"),
    (settings.metricsPort ≤ 0, "metrics_port must be positive"),
    (settings.healthPort ≤ 0, "health_port must be positive"),
    (settings.monitoringIntervalSeconds ≤ 0, "monitoring_interval_seconds must be positive"),
    (settings.healthSnapshotIntervalSeconds ≤ 0,
      "health_snapshot_interval_seconds must be positive"),
    (settings.strategyTargetNotional ≤ 0, "strategy_target_notional must be positive"),
    (settings.strategyMaxPositionNotional ≤ 0, "strategy_max_position_notional must be positive"),
    (settings.strategyRollingWindow < 5, "strategy_rolling_window must be at least 5"),
    (settings.strategyMinObservations < 5, "strategy_min_observations must be at least 5"),
    (settings.strategyRollingWindow < settings.strategyMinObservations,
      "strategy_min_observations cannot exceed strategy_rolling_window"),
    (settings.strategyEntryZscore ≤ 0, "strategy_entry_zscore must be positive"),
    (settings.strategyExitZscore < 0, "strategy_exit_zscore cannot be negative"),
    (settings.strategyEntryZscore ≤ settings.strategyExitZscore,
      "strategy_exit_zscore must be smaller than strategy_entry_zscore"),
    (¬ (0 < settings.strategyImbalanceThreshold ∧ settings.strategyImbalanceThreshold ≤ 1),
      "strategy_imbalance_threshold must be in (0, 1]"),
    (settings.strategyMaxSpreadBps ≤ 0, "strategy_max_spread_bps must be positive"),
    (settings.strategyCooldownSeconds < 0, "strategy_cooldown_seconds cannot be negative"),
    (settings.strategyOrderType ∉ ["MARKET", "LIMIT"],
      "strategy_order_type must be MARKET or LIMIT")]

/-- `validate()`. -/
def validate : Except PyError Unit :=
  match settings.checks.find? Prod.fst with
  | none => .ok ()
  | some (_, message) => .error ⟨.valueError, message⟩

/-! ## The constructors -/

/-- The arguments of `MeanReversionImbalanceStrategy`. -/
def strategySettings : MeanReversionSettings α where
  targetNotional := settings.strategyTargetNotional
  maxPositionNotional := settings.strategyMaxPositionNotional
  rollingWindow := settings.strategyRollingWindow
  minObservations := settings.strategyMinObservations
  entryZscore := settings.strategyEntryZscore
  exitZscore := settings.strategyExitZscore
  imbalanceThreshold := settings.strategyImbalanceThreshold
  maxSpreadBps := settings.strategyMaxSpreadBps
  cooldownSeconds := settings.strategyCooldownSeconds
  orderTypeText := settings.strategyOrderType
  minOrderNotional := settings.strategyMinOrderNotional
  takeProfitBps := settings.strategyTakeProfitBps
  stopLossBps := settings.strategyStopLossBps
  minProfitAfterFeeBps := settings.strategyMinProfitAfterFeeBps
  maxHoldSeconds := settings.strategyMaxHoldSeconds
  cooldownAfterExitSeconds := settings.strategySymbolCooldownAfterExitSeconds
  lossCooldownSeconds := settings.strategyLossCooldownSeconds
  badSymbolDropBps := settings.strategyBadSymbolDropBps

/-- `RuntimeContainer.build`: the constructors that check the settings they are given. -/
def build (getenv : Environ) (sqrt : α → α) : Except PyError (RuntimeParts α) := do
  let portfolioGuard ← PortfolioGuard.init settings.maxGrossExposure settings.maxNetExposure
    settings.maxSymbolWeight
  let preTradeRisk ← PreTradeRiskValidator.init portfolioGuard settings.maxOrderNotional
    settings.strategyMinOrderNotional
  let killSwitch ← KillSwitch.init settings.maxDailyLoss settings.maxDrawdownPct
  let liveStrategy ←
    if settings.liveStrategyEnabled then
      (MeanReversionImbalanceStrategy.init settings.strategySettings getenv sqrt).map some
    else pure none
  return { preTradeRisk, killSwitch, liveStrategy }

/-! ## What validation leaves open -/

/-- The checks of the strategy's constructor that `validate` lacks. -/
structure StrategyCovered : Prop where
  minimum : ¬ settings.strategyMaxPositionNotional < settings.strategyMinOrderNotional
  takeProfit : ¬ settings.strategyTakeProfitBps ≤ 0
  stopLoss : ¬ settings.strategyStopLossBps ≤ 0
  minProfit : ¬ settings.strategyMinProfitAfterFeeBps < 0
  maxHold : ¬ settings.strategyMaxHoldSeconds < 0
  cooldownAfterExit : ¬ settings.strategySymbolCooldownAfterExitSeconds < 0
  lossCooldown : ¬ settings.strategyLossCooldownSeconds < 0
  badSymbolDrop : ¬ settings.strategyBadSymbolDropBps < 0

/-- The checks of the constructors that `validate` lacks. -/
structure Covered : Prop where
  minimum_nonneg : ¬ settings.strategyMinOrderNotional < 0
  minimum_le : ¬ settings.maxOrderNotional < settings.strategyMinOrderNotional
  strategy : settings.liveStrategyEnabled = true → settings.StrategyCovered

end Definitions

section Constructors

lemma exists_bind_ok {β γ : Type} {x : Except PyError β} {f : β → Except PyError γ} :
    (∃ c, x.bind f = .ok c) ↔ ∃ b, x = .ok b ∧ ∃ c, f b = .ok c := by
  cases x with
  | ok b => simp [Except.bind]
  | error e => simp [Except.bind]

lemma switch_init_ok {α : Type} [Zero α] [LE α] [DecidableLE α] {loss drawdown : α}
    (hloss : ¬ loss ≤ 0) (hdrawdown : ¬ drawdown ≤ 0) :
    ∃ switch, KillSwitch.init loss drawdown = .ok switch := by
  rw [KillSwitch.init, dif_neg hloss, dif_neg hdrawdown]
  exact ⟨_, rfl⟩

variable {α : Type} [Zero α] [One α] [LT α] [LE α] [DecidableLT α] [DecidableLE α]

lemma validate_ok {settings : RuntimeSettings α} :
    settings.validate = .ok () ↔ ∀ check ∈ settings.checks, ¬ check.1 = true := by
  rw [← List.find?_eq_none, validate]
  constructor
  · intro hvalid
    split at hvalid
    · assumption
    · cases hvalid
  · intro hnone
    rw [hnone]

lemma guard_init_ok {gross net weight : α} (hgross : ¬ gross ≤ 0) (hnet : ¬ net ≤ 0)
    (hweight : 0 < weight ∧ weight ≤ 1) :
    ∃ portfolioGuard, PortfolioGuard.init gross net weight = .ok portfolioGuard := by
  rw [PortfolioGuard.init, dif_neg hgross, dif_neg hnet, dif_pos hweight]
  exact ⟨_, rfl⟩

lemma risk_init_ok_iff {portfolioGuard : PortfolioGuard α} {maximum minimum : α}
    (hmax : ¬ maximum ≤ 0) :
    (∃ validator, PreTradeRiskValidator.init portfolioGuard maximum minimum = .ok validator)
      ↔ ¬ minimum < 0 ∧ ¬ maximum < minimum := by
  rw [PreTradeRiskValidator.init, dif_neg hmax]
  split_ifs with hmin hrange
  · simp [hmin]
  · simp [hrange]
  · simp [hmin, hrange]

variable [PyFloat α]

lemma strategy_init_ok_iff {mean : MeanReversionSettings α} {getenv : Environ} {sqrt : α → α} :
    (∃ strategy, MeanReversionImbalanceStrategy.init mean getenv sqrt = .ok strategy)
      ↔ ∀ check ∈ mean.checks, ¬ check.1 = true := by
  rw [← List.find?_eq_none, ← Option.map_eq_none_iff, ← MeanReversionSettings.rejection,
    MeanReversionImbalanceStrategy.init]
  constructor
  · rintro ⟨strategy, hinit⟩
    split at hinit
    · assumption
    · cases hinit
  · intro hnone
    split
    · exact ⟨_, rfl⟩
    · rename_i message hsome
      rw [hnone] at hsome
      cases hsome

variable {settings : RuntimeSettings α}

/-- The strategy's own checks, after those of the settings. -/
lemma strategy_checks_iff (hvalid : settings.validate = .ok ()) :
    (∀ check ∈ settings.strategySettings.checks, ¬ check.1 = true)
      ↔ ¬ settings.strategyMinOrderNotional < 0 ∧ settings.StrategyCovered := by
  have hchecks := validate_ok.mp hvalid
  simp only [checks, List.forall_mem_cons, decide_eq_true_eq, not_not] at hchecks
  obtain ⟨-, -, -, -, -, -, -, -, -, -, -, -, -, -, htarget, hposition, hrolling, hobservations,
    hwindow, hentry, hexit, hscores, himbalance, hspread, hcooldown, htype, -⟩ := hchecks
  have hupper : pyUpper settings.strategyOrderType ∈ ["MARKET", "LIMIT"] := by
    rcases List.mem_cons.mp htype with h | h
    · rw [h]
      decide
    · rw [List.mem_singleton.mp h]
      decide
  simp only [MeanReversionSettings.checks, List.forall_mem_cons, decide_eq_true_eq, not_not]
  constructor
  · rintro ⟨-, -, hmin, hcover, -, -, -, -, -, -, -, -, -, hprofit, hloss, hfee, hhold, hafter,
      hlong, hdrop, -⟩
    exact ⟨hmin, hcover, hprofit, hloss, hfee, hhold, hafter, hlong, hdrop⟩
  · rintro ⟨hmin, hcover, hprofit, hloss, hfee, hhold, hafter, hlong, hdrop⟩
    exact ⟨htarget, hposition, hmin, hcover, hrolling, hobservations, hwindow, hentry, hexit,
      hscores, himbalance, hspread, hcooldown, hprofit, hloss, hfee, hhold, hafter, hlong, hdrop,
      hupper, List.forall_mem_nil _⟩

/-- **What validation leaves open.**  On validated settings the constructors raise nothing exactly
when the settings pass the checks that validation lacks. -/
theorem build_ok_iff (hvalid : settings.validate = .ok ()) (getenv : Environ) (sqrt : α → α) :
    (∃ parts, settings.build getenv sqrt = .ok parts) ↔ settings.Covered := by
  have hchecks := validate_ok.mp hvalid
  simp only [checks, List.forall_mem_cons, decide_eq_true_eq, not_not] at hchecks
  obtain ⟨hgross, hnet, hweight, hmax, hloss, hdrawdown, -⟩ := hchecks
  obtain ⟨portfolioGuard, hguard⟩ := guard_init_ok hgross hnet hweight
  obtain ⟨switch, hswitch⟩ := switch_init_ok hloss hdrawdown
  have hrest : (∃ parts, settings.build getenv sqrt = .ok parts)
      ↔ (∃ validator, PreTradeRiskValidator.init portfolioGuard settings.maxOrderNotional
          settings.strategyMinOrderNotional = .ok validator)
        ∧ (settings.liveStrategyEnabled = true → ∃ strategy,
          MeanReversionImbalanceStrategy.init settings.strategySettings getenv sqrt
            = .ok strategy) := by
    rw [build, hguard]
    simp only [bind, exists_bind_ok, hswitch, Except.ok.injEq, exists_eq_left']
    rw [← exists_and_right]
    refine exists_congr fun validator => and_congr_right fun _ => ?_
    by_cases henabled : settings.liveStrategyEnabled = true
    · rw [if_pos henabled]
      cases MeanReversionImbalanceStrategy.init settings.strategySettings getenv sqrt with
      | ok strategy => simp [henabled, Except.map, Except.bind, pure, Except.pure]
      | error e => simp [henabled, Except.map, Except.bind]
    · simp [henabled, Except.bind, pure, Except.pure]
  rw [hrest, risk_init_ok_iff hmax, strategy_init_ok_iff, strategy_checks_iff hvalid]
  constructor
  · rintro ⟨⟨hmin, hrange⟩, hlive⟩
    exact ⟨hmin, hrange, fun henabled => (hlive henabled).2⟩
  · rintro ⟨hmin, hrange, hlive⟩
    exact ⟨⟨hmin, hrange⟩, fun henabled => ⟨hmin, hlive henabled⟩⟩

/-- The low-capital template with this minimum notional; what it leaves open has its default. -/
def lowCapital (minimum : ℚ) : RuntimeSettings ℚ where
  maxGrossExposure := 9
  maxNetExposure := 9
  maxSymbolWeight := 1
  maxOrderNotional := 15 / 2
  maxDailyLoss := 1
  maxDrawdownPct := 8
  marketPollIntervalSeconds := 3 / 2
  orderbookDepth := 20
  marketFetchConcurrency := 8
  marketStaleAfterSeconds := 20
  metricsPort := 9000
  monitoringIntervalSeconds := 5
  healthPort := 8080
  healthSnapshotIntervalSeconds := 30
  liveStrategyEnabled := true
  strategyTargetNotional := 15 / 2
  strategyMaxPositionNotional := 15 / 2
  strategyRollingWindow := 30
  strategyMinObservations := 20
  strategyEntryZscore := 5 / 4
  strategyExitZscore := 1 / 4
  strategyImbalanceThreshold := 1 / 5
  strategyMaxSpreadBps := 12
  strategyCooldownSeconds := 20
  strategyOrderType := "MARKET"
  strategyMinOrderNotional := minimum
  strategyTakeProfitBps := 70
  strategyStopLossBps := 45
  strategyMinProfitAfterFeeBps := 22
  strategyMaxHoldSeconds := 900
  strategySymbolCooldownAfterExitSeconds := 1800
  strategyLossCooldownSeconds := 3600
  strategyBadSymbolDropBps := 1200

theorem build_ok_low_capital :
    ∃ parts, (lowCapital (11 / 2)).build (fun _ => none) Rat.sqrt = .ok parts := by
  refine (build_ok_iff (by decide +kernel) (fun _ => none) Rat.sqrt).mpr ⟨?_, ?_, fun _ => ?_⟩
  · decide +kernel
  · decide +kernel
  · constructor <;> decide +kernel

/-- Eight is above the largest order, which validation does not look at. -/
theorem validated_build_raises :
    (lowCapital 8).validate = .ok ()
      ∧ (lowCapital 8).build (fun _ => none) Rat.sqrt
        = .error ⟨.valueError, "min_order_notional cannot exceed max_order_notional"⟩ := by
  have hguard : ∃ portfolioGuard, PortfolioGuard.init (lowCapital 8).maxGrossExposure
      (lowCapital 8).maxNetExposure (lowCapital 8).maxSymbolWeight = .ok portfolioGuard :=
    guard_init_ok (by decide +kernel) (by decide +kernel) (by decide +kernel)
  obtain ⟨portfolioGuard, hguard⟩ := hguard
  refine ⟨by decide +kernel, ?_⟩
  rw [build, hguard]
  change (PreTradeRiskValidator.init portfolioGuard _ _).bind _ = _
  rw [PreTradeRiskValidator.init, dif_neg (by decide +kernel), dif_neg (by decide +kernel),
    dif_pos (by decide +kernel)]
  rfl

end Constructors

end RuntimeSettings

end Aegis
