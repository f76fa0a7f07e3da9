import AegisFortress.Lib.History
import AegisFortress.Strategies.StrategyRuns

/-!
# The time stop

The strategy times a position from the first order book at which it saw one, and forgets that time
at an order book of the symbol without one.  When every position is opened in a symbol it has
forgotten, a time stop is only ever emitted for a position that has been held for long enough
(`time_stops_held`).  A position that is closed and opened again before such an order book arrives
inherits the age of the one before it (`time_stop_too_soon`).
-/

namespace Aegis

namespace MeanReversionImbalanceStrategy

open History

variable {strategy : MeanReversionImbalanceStrategy ℚ} {s s' : StrategyRun}

/-! ## Positions and their times -/

/-- Something of the symbol is held. -/
abbrev Holds (symbol : String) (ledger : PositionLedger ℚ) : Prop := ledger.quantityOf symbol ≠ 0

/-- No position is opened in a symbol whose last one the strategy still remembers. -/
def Forgotten (s : StrategyRun) : StrategyInput → Prop
  | .ledger _ ledger =>
      ∀ symbol ∈ s.state.positionSeenAt.keys, Holds symbol ledger → Holds symbol s.ledger
  | _ => True

instance (s : StrategyRun) (input : StrategyInput) : Decidable (Forgotten s input) := by
  cases input <;> unfold Forgotten <;> infer_instance

/-- A time stop emitted in this step is for a position held long enough. -/
def StopsHeld (strategy : MeanReversionImbalanceStrategy ℚ) (s : StrategyRun)
    (input : StrategyInput) : Prop :=
  ∀ s', strategy.step s input = some s' → ∀ e, s'.signals = s.signals ++ [e] →
    e.reason = some .timeStop →
      Since (Holds e.symbol) s.ledgers (e.time - strategy.maxHoldSeconds)

/-- A position that the strategy has seen has been held since then. -/
structure Timed (s : StrategyRun) : Prop where
  current : ∃ before time, s.ledgers = before ++ [(time, s.ledger)] ∧ time ≤ s.now
  seen : ∀ symbol since, s.state.positionSeenAt.get? symbol = some since → Holds symbol s.ledger →
    Since (Holds symbol) s.ledgers since

lemma timed_init (ledger : PositionLedger ℚ) (now : ℚ) : Timed (.init ledger now) :=
  ⟨⟨[], now, rfl, le_rfl⟩, fun _ _ hget => by cases hget⟩

/-! ## One step -/

/-- What is held now has been held since the last change at least. -/
lemma Timed.since_now (h : Timed s) {symbol : String} {time : ℚ} (htime : s.now ≤ time)
    (hholds : Holds symbol s.ledger) : Since (Holds symbol) s.ledgers time := by
  obtain ⟨before, changed, hledgers, hchanged⟩ := h.current
  rw [hledgers]
  exact since_last (hchanged.trans htime) hholds

/-- The ledger stays as it is, and what is newly remembered has been seen now. -/
lemma Timed.same_ledger (h : Timed s) (hnow : s.now ≤ s'.now) (hledger : s'.ledger = s.ledger)
    (hledgers : s'.ledgers = s.ledgers)
    (hseen : ∀ symbol since, s'.state.positionSeenAt.get? symbol = some since →
      s.state.positionSeenAt.get? symbol = some since ∨ s.now ≤ since) : Timed s' := by
  refine ⟨?_, fun symbol since hget hholds => ?_⟩
  · obtain ⟨before, changed, hsplit, hchanged⟩ := h.current
    exact ⟨before, changed, by rw [hledgers, hledger, hsplit], hchanged.trans hnow⟩
  · rw [hledger] at hholds
    rw [hledgers]
    rcases hseen symbol since hget with hold | hnew
    · exact h.seen symbol since hold hholds
    · exact h.since_now hnew hholds

/-- **One step keeps the times.** -/
lemma Timed.step {input : StrategyInput} (h : Timed s) (hforgotten : Forgotten s input)
    (hstep : strategy.step s input = some s') : Timed s' := by
  cases step_stepped hstep with
  | tick payload midHistory => exact h.same_ledger le_rfl rfl rfl fun _ _ hget => Or.inl hget
  | @ledger now ledger hnow =>
      refine ⟨⟨s.ledgers, now, rfl, le_rfl⟩, fun symbol since hget hholds => ?_⟩
      have hknown : symbol ∈ s.state.positionSeenAt.keys := by
        rw [← not_not (a := symbol ∈ _), ← Dict.get?_eq_none, hget]
        exact Option.some_ne_none since
      exact (h.seen symbol since hget (hforgotten symbol hknown hholds)).snoc hholds
  | @book killSwitch clock payload signals state' htime handled =>
      obtain ⟨hstart, hcooldown, hseen, hage, hdefault, hsignal, hblock⟩ := htime
      have hnow : s.now ≤ clock.block := by linarith
      have hfirst : s.now ≤ clock.seen := by linarith
      cases handled with
      | skipped | noted => exact h.same_ledger hnow rfl rfl fun _ _ hget => Or.inl hget
      | declined | unconfirmed | bought | sold =>
          exact h.same_ledger hnow rfl rfl fun _ _ hget => Or.inl (Dict.get?_of_erase hget)
      | badTrend =>
          refine h.same_ledger hnow rfl rfl fun _ _ hget => Or.inl ?_
          rw [blockSymbol_seen] at hget
          exact Dict.get?_of_erase hget
      | watched =>
          refine h.same_ledger hnow rfl rfl fun _ _ hget => ?_
          exact (Dict.get?_of_setdefault hget).imp id fun heq => hfirst.trans_eq heq.symm
      | exited =>
          refine h.same_ledger hnow rfl rfl fun _ _ hget => ?_
          rw [blockSymbol_seen] at hget
          exact (Dict.get?_of_setdefault hget).imp id fun heq => hfirst.trans_eq heq.symm

/-! ## The age of a position -/

lemma exitReason_timeStop {stopLossBps pnlBps age : ℚ} {reverted : Prop} [Decidable reverted]
    (h : strategy.exitReason stopLossBps pnlBps age reverted = some .timeStop) :
    strategy.maxHoldSeconds ≤ age := by
  rw [exitReason] at h
  split_ifs at h with hprofit hstop hreverted hold
  · cases h
  · cases h
  · cases h
  · exact hold.2.1

/-- A time stop is for a position that has been held since it was seen, which is long enough ago. -/
lemma Timed.stopsHeld {input : StrategyInput} (h : Timed s) : StopsHeld strategy s input := by
  intro s' hstep e hsignals hreason
  cases step_emits hstep hsignals with
  | bought htime hex hconfirmed he => cases hreason.symm.trans (congrArg Emitted.reason he)
  | sold htime due hmarket he => cases hreason.symm.trans (congrArg Emitted.reason he)
  | @exited killSwitch clock items symbol midPrice imbalance bestBid bestAsk position signal reason
      htime due he =>
      subst he
      cases hreason
      have hholds : Holds symbol s.ledger := by
        rw [Holds, Ne, ← openPosition_none, due.held]
        exact Option.some_ne_none position
      obtain ⟨_, _, _, _, hrule, -, -⟩ := buildExitSignal_cases due.rule
      have hage := exitReason_timeStop hrule
      obtain ⟨hstart, hcooldown, hseen, -, hdefault, hsignal, -⟩ := htime
      have hsince : Since (Holds symbol) s.ledgers
          (s.state.positionSeenAt.getD symbol clock.seen) := by
        rw [Dict.getD]
        cases hget : s.state.positionSeenAt.get? symbol with
        | none => exact h.since_now (show s.now ≤ clock.seen by linarith) hholds
        | some since => exact h.seen symbol since hget hholds
      refine hsince.mono ?_
      rw [watching, Dict.getD_set_self] at hage
      change _ ≤ clock.signal - _
      linarith

/-- **Time stops measure the current holding**, in every run in which no position is opened in a
symbol whose last one is still remembered. -/
theorem time_stops_held (strategy : MeanReversionImbalanceStrategy ℚ) (ledger : PositionLedger ℚ)
    (now : ℚ) (inputs : List StrategyInput)
    (hforgotten : Machine.Along strategy.step (.init ledger now) Forgotten inputs) :
    Machine.Along strategy.step (.init ledger now) (StopsHeld strategy) inputs :=
  hforgotten.of_invariant Timed (timed_init ledger now) (fun _ _ _ h hi hstep => h.step hi hstep)
    fun _ _ h _ => h.stopsHeld

/-- A position seen at 1 and held until 902. -/
def keptOpen : List StrategyInput := standing ++ [bookAt 1 100 0, bookAt 902 100 0]

theorem time_stops_held_kept_open :
    (Machine.run lowCapitalStrategy.step (.init (holding 1 100) 0) keptOpen).map
        StrategyRun.signals = some [⟨"BTC/USDT", .sell, some .timeStop, 902⟩]
      ∧ Machine.Along lowCapitalStrategy.step (.init (holding 1 100) 0)
        (StopsHeld lowCapitalStrategy) keptOpen :=
  ⟨by decide +kernel, time_stops_held lowCapitalStrategy (holding 1 100) 0 keptOpen
    (Machine.along_of_decide (by decide +kernel))⟩

/-- A position seen at 1, closed at 2, and another one opened at 901. -/
def reopened : List StrategyInput :=
  standing ++ [bookAt 1 100 0, .ledger 2 .empty, .ledger 901 (holding 1 100)]

/-- The second position is closed one second after it was opened. -/
theorem time_stop_too_soon :
    ∃ s s', Machine.run lowCapitalStrategy.step (.init (holding 1 100) 0) reopened = some s
      ∧ lowCapitalStrategy.step s (bookAt 902 100 0) = some s'
      ∧ s'.signals = s.signals ++ [⟨"BTC/USDT", .sell, some .timeStop, 902⟩]
      ∧ ¬ Since (Holds "BTC/USDT") s.ledgers (902 - lowCapitalStrategy.maxHoldSeconds) := by
  have hend : (Machine.run lowCapitalStrategy.step (.init (holding 1 100) 0) reopened).bind
      (fun s => (lowCapitalStrategy.step s (bookAt 902 100 0)).map fun s' =>
        (decide (s'.signals = s.signals ++ [⟨"BTC/USDT", .sell, some .timeStop, 902⟩]),
          decide (Since (Holds "BTC/USDT") s.ledgers (902 - lowCapitalStrategy.maxHoldSeconds))))
      = some (true, false) := by
    decide +kernel
  obtain ⟨s, s', hrun, hstep, hs'⟩ := Machine.run_then hend
  obtain ⟨hsignals, hsince⟩ := Prod.mk.inj hs'
  exact ⟨s, s', hrun, hstep, of_decide_eq_true hsignals, of_decide_eq_false hsince⟩

end MeanReversionImbalanceStrategy

end Aegis
