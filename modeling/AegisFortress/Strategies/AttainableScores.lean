import AegisFortress.Strategies.MeanReversionImbalance
import Mathlib.Analysis.Real.Sqrt

/-!
# Which scores can be attained

The score of a mid price is its distance from the mean of a history that ends with it, in standard
deviations of that history.  One of `n` observations is never further away than `√(n - 1)`
(`Dispersion.sq_deviation_le`), so a strategy that wants to see a higher score than its window allows
waits for ever (`scores_attainable`).

The results are about exact arithmetic, with the square root that only real numbers have.
-/

namespace Aegis

/-! ## Exact arithmetic -/

/-- Nearest integer to a real, halves to the even neighbour. -/
noncomputable def nearestEven (x : ℝ) : ℤ :=
  if Int.fract x < 1 / 2 then ⌊x⌋
  else if 1 / 2 < Int.fract x then ⌊x⌋ + 1
  else if Even ⌊x⌋ then ⌊x⌋ else ⌊x⌋ + 1

/-- Reals as floats; what is written of one is the nearest decimal. -/
noncomputable instance : PyFloat ℝ :=
  ⟨fun x => x, fun n x => fixedRat n (nearestEven (x * 10 ^ n) / 10 ^ n),
    fun x => reprRat (nearestEven (x * 10 ^ 17) / 10 ^ 17)⟩

noncomputable instance : PyRound ℝ := ⟨fun n x => nearestEven (x * 10 ^ n) / 10 ^ n⟩

lemma ofRat_real (x : ℚ) : (PyFloat.ofRat x : ℝ) = x := rfl

namespace MeanReversionImbalanceStrategy

open Raising

variable (strategy : MeanReversionImbalanceStrategy ℝ)

/-! ## Calls -/

/-- A call of the strategy, with what it finds. -/
inductive MarketCall
  | onMarketTick (tick : PyVal ℝ)
  | onOrderbook (ledger : PositionLedger ℝ) (killSwitch : KillSwitch ℝ) (clock : Monotonic ℝ)
      (orderbook : PyVal ℝ)

/-- What a call leaves of the state, whether it returns or raises. -/
noncomputable def handle (state : StrategyState ℝ) : MarketCall → StrategyState ℝ
  | .onMarketTick tick => final ((strategy.onMarketTick tick).run state)
  | .onOrderbook ledger killSwitch clock orderbook =>
      final ((strategy.onOrderbook ledger killSwitch clock orderbook).run state)

/-- The state of a new strategy after a sequence of calls. -/
noncomputable def after (calls : List MarketCall) : StrategyState ℝ :=
  calls.foldl strategy.handle .init

/-- The mid prices of a symbol when its next one is scored. -/
noncomputable def scoredHistory (state : StrategyState ℝ) (symbol : String) (midPrice : ℝ) : List ℝ :=
  (strategy.appendMid symbol midPrice state).midHistory.getD symbol []

/-! ## The history -/

section History

variable {strategy} (state : StrategyState ℝ) (symbol : String) (midPrice : ℝ)

/-- The history is no longer than the window. -/
lemma scoredHistory_length :
    ((strategy.scoredHistory state symbol midPrice).length : ℤ) ≤ strategy.rollingWindow := by
  have hwindow := strategy.accepted.window
  rw [scoredHistory, appendMid_history, dequeAppend, List.length_drop, List.length_append, List.length_singleton]
  omega

/-- The history ends with the mid price that is scored. -/
lemma scoredHistory_last :
    (strategy.scoredHistory state symbol midPrice).getLast? = some midPrice := by
  have hwindow := strategy.accepted.window
  rw [scoredHistory, appendMid_history, dequeAppend, List.drop_append_of_le_length (by omega)]
  exact List.getLast?_concat

end History

/-! ## The score -/

section Score

variable {strategy} (hsqrt : strategy.sqrt = Real.sqrt)

include hsqrt

/-- A score is bounded by the number of the other observations. -/
lemma sq_zscore_le {history : List ℝ} {midPrice : ℝ} (hmem : midPrice ∈ history) :
    strategy.zscore history midPrice ^ 2 ≤ history.length - 1 := by
  have hcount : (0 : ℝ) ≤ history.length - 1 := by
    have hpos : 1 ≤ history.length := List.length_pos_of_mem hmem
    have hcast : (1 : ℝ) ≤ history.length := by exact_mod_cast hpos
    linarith
  have hdev : strategy.pstdev history = Real.sqrt (Dispersion.variance history) := by
    rw [pstdev, hsqrt, pvariance_eq ofRat_real]
  rw [zscore, hdev]
  split_ifs with hflat
  · simpa using hcount
  · have hpos : 0 < Real.sqrt (Dispersion.variance history) := by
      refine lt_trans ?_ (not_le.mp hflat)
      rw [ofRat_real]
      norm_num
    have hvariance : 0 < Dispersion.variance history := Real.sqrt_pos.mp hpos
    rw [mean_eq ofRat_real, div_pow, Real.sq_sqrt hvariance.le, div_le_iff₀ hvariance]
    exact Dispersion.sq_deviation_le hmem

/-- A score that no history of the window can have. -/
lemma zscore_lt {history : List ℝ} {midPrice : ℝ} (hmem : midPrice ∈ history)
    (hwindow : (history.length : ℤ) ≤ strategy.rollingWindow)
    (hhigh : (strategy.rollingWindow : ℝ) - 1 < strategy.entryZscore ^ 2) :
    |strategy.zscore history midPrice| < strategy.entryZscore := by
  have hlength : (history.length : ℝ) ≤ strategy.rollingWindow := by exact_mod_cast hwindow
  refine abs_lt_of_sq_lt_sq ?_ strategy.accepted.entry.le
  have hle := sq_zscore_le hsqrt hmem
  linarith

end Score

/-! ## Entries -/

section Entries

variable {strategy} {state : StrategyState ℝ} {symbol : String} {midPrice zscore : ℝ}

/-- Without a score there is no entry to build. -/
lemma buildEntrySignal_none (hlow : |zscore| < strategy.entryZscore)
    (bestBid bestAsk imbalance expectedEdgeBps : ℝ) :
    Leads (strategy.buildEntrySignal symbol midPrice bestBid bestAsk zscore imbalance expectedEdgeBps)
      state (fun signal _ => signal = none) (fun _ _ => True) := by
  obtain ⟨hbuy, hsell⟩ := abs_lt.mp hlow
  simp only [buildEntrySignal, leads_ite, leads_pure]
  refine ⟨fun _ => trivial, fun _ => ⟨fun hreached => absurd hreached (not_le.mpr hbuy), fun _ =>
    ⟨fun hreached => absurd hreached.2.1 (not_le.mpr hsell), fun _ => trivial⟩⟩⟩

/-- With nothing held nothing is asked for. -/
lemma onFlat_nil (hlow : |zscore| < strategy.entryZscore) (clock : Monotonic ℝ)
    (orderbook : List (String × PyVal ℝ)) (history : List ℝ) (imbalance : ℝ) :
    Leads (strategy.onFlat clock orderbook symbol history midPrice zscore imbalance) state
      (fun signals _ => signals = []) (fun _ _ => True) := by
  simp only [onFlat, leads_bind, leads_modify]
  refine (leads_run _ _).mono ?_ (fun _ _ _ => trivial)
  intro blocked s _
  simp only [leads_bind, leads_get, leads_ite, leads_modify, leads_pure, leads_lift]
  refine ⟨fun _ => trivial, fun _ => ⟨fun _ => trivial, fun _ => ⟨fun _ => trivial, fun _ => ⟨fun _ => trivial,
    fun _ => ⟨fun bestBid _ => ⟨fun bestAsk _ => ?_, fun _ _ => trivial⟩, fun _ _ => trivial⟩⟩⟩⟩⟩
  refine (buildEntrySignal_none hlow bestBid bestAsk imbalance _).mono ?_ (fun _ _ _ => trivial)
  rintro _ s rfl
  simp only [leads_pure]

/-- A window that is too short for the score lets no entry through, whatever the state. -/
lemma not_enters (hsqrt : strategy.sqrt = Real.sqrt)
    (hhigh : (strategy.rollingWindow : ℝ) - 1 < strategy.entryZscore ^ 2)
    (ledger : PositionLedger ℝ) (killSwitch : KillSwitch ℝ) (clock : Monotonic ℝ)
    (orderbook : List (String × PyVal ℝ)) :
    ¬ strategy.Enters ledger killSwitch clock state orderbook := by
  rintro ⟨hflat, signals, state', hrun, hsome⟩
  have hnil : Leads (strategy.onOrderbook ledger killSwitch clock (.dict orderbook)) state
      (fun signals _ => signals = []) (fun _ _ => True) := by
    simp only [onOrderbook, onBook, leads_ite, leads_bind, leads_get, leads_modify, leads_pure,
      leads_lift, hflat]
    refine ⟨fun _ => ⟨fun _ => trivial, fun _ => ⟨fun _ => trivial, fun _ => ⟨fun _ => trivial, fun _ =>
      ⟨fun imbalance _ => ⟨fun _ => trivial, fun _ => ?_⟩, fun _ _ => trivial⟩⟩⟩⟩, fun _ => trivial⟩
    refine onFlat_nil (zscore_lt hsqrt ?_ ?_ hhigh) clock orderbook _ imbalance
    · exact List.mem_of_getLast? (scoredHistory_last state _ _)
    · exact scoredHistory_length state _ _
  exact hsome (hnil.ok hrun)

end Entries

/-- **Attainable scores.**  After any calls, the score of the next mid price of any symbol is bounded
by its history, which is no longer than the window and ends with that price; and a strategy whose
entry score is out of the window's reach never enters. -/
theorem scores_attainable (hsqrt : strategy.sqrt = Real.sqrt) (calls : List MarketCall) :
    (∀ symbol midPrice,
      ((strategy.scoredHistory (strategy.after calls) symbol midPrice).length : ℤ)
          ≤ strategy.rollingWindow
        ∧ (strategy.scoredHistory (strategy.after calls) symbol midPrice).getLast? = some midPrice
        ∧ strategy.zscore (strategy.scoredHistory (strategy.after calls) symbol midPrice) midPrice ^ 2
          ≤ (strategy.scoredHistory (strategy.after calls) symbol midPrice).length - 1)
      ∧ ((strategy.rollingWindow : ℝ) - 1 < strategy.entryZscore ^ 2 →
        ∀ ledger killSwitch clock orderbook,
          ¬ strategy.Enters ledger killSwitch clock (strategy.after calls) orderbook) := by
  refine ⟨fun symbol midPrice => ?_, fun hhigh ledger killSwitch clock orderbook => ?_⟩
  · have hlast : (strategy.scoredHistory (strategy.after calls) symbol midPrice).getLast?
        = some midPrice := scoredHistory_last _ symbol midPrice
    exact ⟨scoredHistory_length _ symbol midPrice, hlast,
      sq_zscore_le hsqrt (List.mem_of_getLast? hlast)⟩
  · exact not_enters hsqrt hhigh ledger killSwitch clock orderbook

/-- A strategy that waits for three standard deviations in a window of five. -/
noncomputable def patient : MeanReversionImbalanceStrategy ℝ where
  targetNotional := 10
  maxPositionNotional := 10
  rollingWindow := 5
  minObservations := 5
  entryZscore := 3
  exitZscore := 1
  imbalanceThreshold := 1
  maxSpreadBps := 12
  cooldownSeconds := 20
  takeProfitBps := 60
  stopLossBps := 35
  minProfitAfterFeeBps := 18
  maxHoldSeconds := 900
  cooldownAfterExitSeconds := 900
  lossCooldownSeconds := 3600
  badSymbolDropBps := 1200
  checked := by
    have htype : pyUpper "MARKET" = "MARKET" := by decide +kernel
    norm_num [MeanReversionSettings.rejection, MeanReversionSettings.checks, htype]
  getenv := fun _ => none
  sqrt := Real.sqrt

/-- The bitcoin has been seen four times at 100. -/
def fourTicks : List MarketCall :=
  List.replicate 4 (.onMarketTick (.dict [("symbol", .str "BTC/USDT"), ("mid_price", .float 100)]))

/-- However far the next price falls, it does not enter. -/
theorem scores_attainable_patient : ¬ ∃ ledger killSwitch clock orderbook,
    patient.Enters ledger killSwitch clock (patient.after fourTicks) orderbook := by
  have hhigh : (patient.rollingWindow : ℝ) - 1 < patient.entryZscore ^ 2 := by
    have hscore : patient.entryZscore = 3 := rfl
    have hwindow : patient.rollingWindow = 5 := rfl
    rw [hscore, hwindow]
    norm_num
  rintro ⟨ledger, killSwitch, clock, orderbook, henters⟩
  exact (scores_attainable patient rfl fourTicks).2 hhigh ledger killSwitch clock orderbook henters

end MeanReversionImbalanceStrategy

end Aegis
