import AegisFortress.Strategies.StrategyRuns

/-!
# Throttling

In every run of the strategy its signals keep their distances: entries of a symbol from each other,
exits from each other, and an entry from the exits before it (`signals_throttled`).  `Throttle` is
the invariant: the times of the past signals are noted in the dictionaries that hold later ones
back, and a block is only forgotten once it is over.
-/

namespace Aegis

namespace MeanReversionImbalanceStrategy

open Deadlines

variable {strategy : MeanReversionImbalanceStrategy ℚ} {s s' : StrategyRun}

/-! ## The distances -/

/-- The distances between two signals of one symbol. -/
structure Throttled (strategy : MeanReversionImbalanceStrategy ℚ) (earlier later : Emitted) :
    Prop where
  entries : earlier.reason = none → later.reason = none →
    earlier.time + strategy.cooldownSeconds ≤ later.time
  exits : earlier.reason ≠ none → later.reason ≠ none →
    earlier.time + max 5 (min strategy.cooldownSeconds 30) ≤ later.time
  after_profit : earlier.reason = some .takeProfit ∨ earlier.reason = some .timeStop →
    later.reason = none → earlier.time + strategy.cooldownAfterExitSeconds ≤ later.time
  after_loss : earlier.reason = some .stopLoss → later.reason = none →
    earlier.time + strategy.lossCooldownSeconds ≤ later.time

/-- What holds the next signals back. -/
structure Throttle (strategy : MeanReversionImbalanceStrategy ℚ) (s : StrategyRun) : Prop where
  past : ∀ e ∈ s.signals, e.time ≤ s.now
  entries : ∀ e ∈ s.signals, e.reason = none → Marked s.state.lastEntrySignalAt e.symbol e.time
  exits : ∀ e ∈ s.signals, e.reason ≠ none → Marked s.state.lastExitSignalAt e.symbol e.time
  blocks : ∀ e ∈ s.signals, ∀ reason, e.reason = some reason →
    Bars s.state.blockedUntil s.now e.symbol (e.time + strategy.blockAfter reason)
  spaced : s.signals.Pairwise fun earlier later =>
    earlier.symbol = later.symbol → Throttled strategy earlier later

lemma throttle_init (ledger : PositionLedger ℚ) (now : ℚ) :
    Throttle strategy (.init ledger now) :=
  ⟨fun _ he => absurd he List.not_mem_nil, fun _ he => absurd he List.not_mem_nil,
    fun _ he => absurd he List.not_mem_nil, fun _ he => absurd he List.not_mem_nil, .nil⟩

/-! ## Cooldowns and blocks -/

lemma exitCooldownSeconds_rat :
    strategy.exitCooldownSeconds = max 5 (min strategy.cooldownSeconds 30) := by
  rw [exitCooldownSeconds, pyMax_rat, pyMin_rat, ofRat_rat, ofRat_rat]

/-- A cooldown that is over. -/
lemma rested_le {now seconds time : ℚ} {symbol : String} {store : Dict String ℚ}
    (hrested : isOnCooldown now symbol store seconds = false) (hmarked : Marked store symbol time)
    (hnow : time ≤ now) : time + seconds ≤ now := by
  obtain ⟨noted, hget, hle⟩ := hmarked
  rw [isOnCooldown, hget] at hrested
  split_ifs at hrested with hseconds
  · linarith
  · have hover := of_decide_eq_false hrested
    linarith

/-- A block only grows. -/
lemma bars_blockSymbol {now start time seconds : ℚ} {symbol key : String}
    {state : StrategyState ℚ} (h : Bars state.blockedUntil start key time) :
    Bars (blockSymbol now symbol seconds state).blockedUntil start key time := by
  rw [blockSymbol]
  split_ifs
  · exact h
  · refine h.extend fun expiry hget => ?_
    rw [Dict.getD, hget, Option.getD_some, pyMax_rat]
    exact le_max_left _ _

/-- A symbol is blocked for the seconds asked for. -/
lemma bars_blocked {now now' time seconds : ℚ} {symbol : String} {state : StrategyState ℚ}
    (htime : time ≤ now) (hnow : now ≤ now') :
    Bars (blockSymbol now symbol seconds state).blockedUntil now' symbol (time + seconds) := by
  rw [blockSymbol]
  split_ifs with hseconds
  · exact Or.inl (by linarith)
  · refine Or.inr ⟨_, Dict.get?_set_self _ _ _, ?_⟩
    rw [pyMax_rat]
    exact le_max_of_le_right (by linarith)

/-! ## One step -/

/-- A step without a signal, after which the dictionaries still hold back what they did. -/
lemma Throttle.quiet (h : Throttle strategy s) (hnow : s.now ≤ s'.now)
    (hsignals : s'.signals = s.signals)
    (hentries : s'.state.lastEntrySignalAt = s.state.lastEntrySignalAt)
    (hexits : s'.state.lastExitSignalAt = s.state.lastExitSignalAt)
    (hblocks : ∀ key time, Bars s.state.blockedUntil s.now key time →
      Bars s'.state.blockedUntil s'.now key time) : Throttle strategy s' := by
  refine ⟨?_, ?_, ?_, ?_, hsignals ▸ h.spaced⟩
  · exact fun e he => (h.past e (hsignals ▸ he)).trans hnow
  · exact fun e he hnone => hentries ▸ h.entries e (hsignals ▸ he) hnone
  · exact fun e he hsome => hexits ▸ h.exits e (hsignals ▸ he) hsome
  · exact fun e he reason hreason => hblocks _ _ (h.blocks e (hsignals ▸ he) reason hreason)

/-- A step with one signal that keeps its distances and is noted. -/
lemma Throttle.signal (h : Throttle strategy s) {e : Emitted} (hafter : s.now ≤ e.time)
    (hnow : e.time ≤ s'.now) (hsignals : s'.signals = s.signals ++ [e])
    (hspaced : ∀ earlier ∈ s.signals, earlier.symbol = e.symbol → Throttled strategy earlier e)
    (hentries : s'.state.lastEntrySignalAt = if e.reason = none then
      s.state.lastEntrySignalAt.set e.symbol e.time else s.state.lastEntrySignalAt)
    (hexits : s'.state.lastExitSignalAt = if e.reason = none then s.state.lastExitSignalAt else
      s.state.lastExitSignalAt.set e.symbol e.time)
    (hblocks : ∀ key time, Bars s.state.blockedUntil s.now key time →
      Bars s'.state.blockedUntil s'.now key time)
    (hblock : ∀ reason, e.reason = some reason →
      Bars s'.state.blockedUntil s'.now e.symbol (e.time + strategy.blockAfter reason)) :
    Throttle strategy s' := by
  have hold (e' : Emitted) (he' : e' ∈ s'.signals) : e' ∈ s.signals ∨ e' = e := by
    rw [hsignals, List.mem_append, List.mem_singleton] at he'
    exact he'
  refine ⟨fun e' he' => ?_, fun e' he' hnone => ?_, fun e' he' hsome => ?_,
    fun e' he' reason hreason => ?_, ?_⟩
  · rcases hold e' he' with hpast | rfl
    · exact (h.past e' hpast).trans (hafter.trans hnow)
    · exact hnow
  · rcases hold e' he' with hpast | rfl
    · rw [hentries]
      split_ifs
      · exact (h.entries e' hpast hnone).set fun _ => (h.past e' hpast).trans hafter
      · exact h.entries e' hpast hnone
    · rw [hentries, if_pos hnone]
      exact marked_set
  · rcases hold e' he' with hpast | rfl
    · rw [hexits]
      split_ifs
      · exact h.exits e' hpast hsome
      · exact (h.exits e' hpast hsome).set fun _ => (h.past e' hpast).trans hafter
    · rw [hexits, if_neg hsome]
      exact marked_set
  · rcases hold e' he' with hpast | rfl
    · exact hblocks _ _ (h.blocks e' hpast reason hreason)
    · exact hblock reason hreason
  · rw [hsignals, List.pairwise_append]
    refine ⟨h.spaced, List.pairwise_singleton _ _, fun earlier hearlier later hlater => ?_⟩
    rw [List.mem_singleton.mp hlater]
    exact hspaced earlier hearlier

section Book

variable {clock : Monotonic ℚ} {symbol : String} {side : OrderSide}

/-- The readings of a call in the order that matters here. -/
lemma follows_le {now : ℚ} (h : clock.Follows now) :
    now ≤ clock.signal ∧ clock.signal ≤ clock.block ∧ clock.symbolBlocked ≤ clock.block := by
  obtain ⟨_, _, _, _, _, _, _⟩ := h
  refine ⟨?_, ?_, ?_⟩ <;> linarith

/-- A block of the symbol is only forgotten when it is over. -/
lemma bars_pruned {now time : ℚ} {table : Dict String ℚ} {key : String}
    (htime : clock.Follows now) (h : Bars table now key time) :
    Bars (prune table clock.symbolBlocked symbol) clock.block key time :=
  (h.prune htime.1).later (follows_le htime).2.2

/-- An entry keeps its distances when its symbol has rested and is not blocked. -/
lemma Throttle.entry_spaced (h : Throttle strategy s) (htime : clock.Follows s.now)
    (hrested : strategy.isEntryOnCooldown clock.cooldown s.state symbol = false)
    (hunblocked : ∀ expiry, s.state.blockedUntil.get? symbol = some expiry →
      expiry ≤ clock.symbolBlocked) (earlier : Emitted) (hearlier : earlier ∈ s.signals)
    (hsame : earlier.symbol = symbol) :
    Throttled strategy earlier ⟨symbol, side, none, clock.signal⟩ := by
  obtain ⟨hstart, hcooldown, hseen, hage, hdefault, hsignal, -⟩ := htime
  have hpast := h.past earlier hearlier
  have hover (reason : ExitReason) (hreason : earlier.reason = some reason) :
      earlier.time + strategy.blockAfter reason ≤ clock.signal := by
    have hbars := h.blocks earlier hearlier reason hreason
    rw [hsame] at hbars
    have hfree := hbars.over hstart hunblocked
    linarith
  refine ⟨fun hnone _ => ?_, fun _ hsome => absurd rfl hsome, fun hprofit _ => ?_,
    fun hloss _ => hover _ hloss⟩
  · have hmarked := h.entries earlier hearlier hnone
    rw [hsame] at hmarked
    have hgap := rested_le hrested hmarked (by linarith)
    change _ ≤ clock.signal
    linarith
  · rcases hprofit with hprofit | hprofit
    · exact hover _ hprofit
    · exact hover _ hprofit

/-- So does an exit when its symbol has rested. -/
lemma Throttle.exit_spaced (h : Throttle strategy s) (htime : clock.Follows s.now)
    (hrested : strategy.isExitOnCooldown clock.cooldown s.state symbol = false)
    {reason : ExitReason} (earlier : Emitted) (hearlier : earlier ∈ s.signals)
    (hsame : earlier.symbol = symbol) :
    Throttled strategy earlier ⟨symbol, side, some reason, clock.signal⟩ := by
  obtain ⟨hstart, hcooldown, hseen, hage, hdefault, hsignal, -⟩ := htime
  have hpast := h.past earlier hearlier
  -- an exit has a reason, so only the distance to earlier exits is asked for
  refine ⟨fun _ hnone => ?_, fun hsome _ => ?_, fun _ hnone => ?_, fun _ hnone => ?_⟩
  · cases hnone
  · have hmarked := h.exits earlier hearlier hsome
    rw [hsame] at hmarked
    have hgap := rested_le hrested hmarked (by linarith)
    rw [exitCooldownSeconds_rat] at hgap
    change _ ≤ clock.signal
    linarith
  · cases hnone
  · cases hnone

/-- A step that emits an entry. -/
lemma Throttle.entry (h : Throttle strategy s) (htime : clock.Follows s.now)
    (hrested : strategy.isEntryOnCooldown clock.cooldown s.state symbol = false)
    (hunblocked : ∀ expiry, s.state.blockedUntil.get? symbol = some expiry →
      expiry ≤ clock.symbolBlocked) (hnow : s'.now = clock.block)
    (hsignals : s'.signals = s.signals ++ [⟨symbol, side, none, clock.signal⟩])
    (hentries : s'.state.lastEntrySignalAt = s.state.lastEntrySignalAt.set symbol clock.signal)
    (hexits : s'.state.lastExitSignalAt = s.state.lastExitSignalAt)
    (hblocks : s'.state.blockedUntil = prune s.state.blockedUntil clock.symbolBlocked symbol) :
    Throttle strategy s' := by
  obtain ⟨hbefore, hafter, -⟩ := follows_le htime
  refine h.signal hbefore (hafter.trans_eq hnow.symm) hsignals
    (h.entry_spaced htime hrested hunblocked) hentries hexits (fun key time hbars => ?_)
    (fun reason hsome => by cases hsome)
  rw [hblocks, hnow]
  exact bars_pruned htime hbars

/-- A step that emits an exit and blocks the symbol. -/
lemma Throttle.exit (h : Throttle strategy s) (htime : clock.Follows s.now)
    (hrested : strategy.isExitOnCooldown clock.cooldown s.state symbol = false)
    {reason : ExitReason} {state : StrategyState ℚ} (hnow : s'.now = clock.block)
    (hsignals : s'.signals = s.signals ++ [⟨symbol, side, some reason, clock.signal⟩])
    (hstate : s'.state = blockSymbol clock.block symbol (strategy.blockAfter reason) state)
    (hentries : state.lastEntrySignalAt = s.state.lastEntrySignalAt)
    (hexits : state.lastExitSignalAt = s.state.lastExitSignalAt.set symbol clock.signal)
    (hblocks : state.blockedUntil = s.state.blockedUntil) : Throttle strategy s' := by
  obtain ⟨hbefore, hafter, -⟩ := follows_le htime
  refine h.signal hbefore (hafter.trans_eq hnow.symm) hsignals (h.exit_spaced htime hrested)
    ?_ ?_ (fun key time hbars => ?_) (fun reason' hsome => ?_)
  · rw [hstate, blockSymbol_entries]
    exact hentries
  · rw [hstate, blockSymbol_exits]
    exact hexits
  · rw [hstate, hnow]
    refine bars_blockSymbol ?_
    rw [hblocks]
    exact hbars.later (hbefore.trans hafter)
  · cases hsome
    rw [hstate, hnow]
    exact bars_blocked hafter le_rfl

end Book

/-- **One step keeps the throttle.** -/
lemma Throttle.step {input : StrategyInput} (h : Throttle strategy s)
    (hstep : strategy.step s input = some s') : Throttle strategy s' := by
  cases step_stepped hstep with
  | tick payload midHistory => exact h.quiet le_rfl rfl rfl rfl fun _ _ hbars => hbars
  | ledger hnow => exact h.quiet hnow rfl rfl rfl fun _ _ hbars => hbars.later hnow
  | @book killSwitch clock payload signals state' htime handled =>
      obtain ⟨hbefore, hafter, -⟩ := follows_le htime
      have hnow : s.now ≤ clock.block := hbefore.trans hafter
      cases handled with
      | skipped | noted | watched =>
          exact h.quiet hnow (List.append_nil _) rfl rfl fun _ _ hbars => hbars.later hnow
      | declined | unconfirmed =>
          exact h.quiet hnow (List.append_nil _) rfl rfl fun _ _ hbars => bars_pruned htime hbars
      | badTrend =>
          exact h.quiet hnow (List.append_nil _) (blockSymbol_entries ..) (blockSymbol_exits ..)
            fun _ _ hbars => bars_blockSymbol (bars_pruned htime hbars)
      | bought hdict hex hconfirmed hlean =>
          subst hdict
          rw [List.map_singleton, reasonOf_flat (hex.symbol_eq ▸ hex.flat)]
          exact h.entry htime hex.rested hex.unblocked rfl rfl rfl rfl rfl
      | sold hdict due hmarket hno =>
          subst hdict
          rw [List.map_singleton, reasonOf_flat (due.symbol_eq ▸ due.flat)]
          exact h.entry htime due.rested due.unblocked rfl rfl rfl rfl rfl
      | exited hdict due hno =>
          subst hdict
          rw [List.map_singleton, due.reasonOf, (buildExitSignal_some due.rule).1]
          exact h.exit htime due.rested rfl rfl rfl rfl rfl rfl

/-- **Signals are throttled.**  In every run of a new strategy, with whatever ledgers in between. -/
theorem signals_throttled (strategy : MeanReversionImbalanceStrategy ℚ) (ledger : PositionLedger ℚ)
    (now : ℚ) (inputs : List StrategyInput) (s : StrategyRun)
    (hrun : Machine.run strategy.step (.init ledger now) inputs = some s) :
    s.signals.Pairwise fun earlier later =>
      earlier.symbol = later.symbol → Throttled strategy earlier later := by
  have hthrottle : Throttle strategy s :=
    Machine.run_invariant (Throttle strategy) (throttle_init ledger now)
      (fun _ _ _ hs hstep => hs.step hstep) hrun
  exact hthrottle.spaced

/-- A position is bought at 90 and stopped out at 89, and the price recovers and falls again. -/
def stoppedOut : List StrategyInput :=
  standing ++ [bookAt 1000 90 (1 / 5), .ledger 1001 (holding 1 90)] ++ List.replicate 30 (tickAt 89)
    ++ [bookAt 1002 89 0, .ledger 1003 .empty] ++ List.replicate 30 (tickAt 100)
    ++ [tickAt 90, tickAt 90, bookAt 4601 90 (1 / 5), tickAt 90, tickAt 90, bookAt 4602 90 (1 / 5)]

/-- The next entry comes an hour after the stop. -/
theorem signals_throttled_stopped_out :
    ∃ s, Machine.run lowCapitalStrategy.step (.init .empty 0) stoppedOut = some s
      ∧ s.signals = [⟨"BTC/USDT", .buy, none, 1000⟩, ⟨"BTC/USDT", .sell, some .stopLoss, 1002⟩,
          ⟨"BTC/USDT", .buy, none, 4602⟩]
      ∧ s.signals.Pairwise fun earlier later =>
        earlier.symbol = later.symbol → Throttled lowCapitalStrategy earlier later := by
  have hend : (Machine.run lowCapitalStrategy.step (.init .empty 0) stoppedOut).map
      StrategyRun.signals = some [⟨"BTC/USDT", .buy, none, 1000⟩,
        ⟨"BTC/USDT", .sell, some .stopLoss, 1002⟩, ⟨"BTC/USDT", .buy, none, 4602⟩] := by
    decide +kernel
  obtain ⟨s, hrun, hsignals⟩ := Option.map_eq_some_iff.mp hend
  exact ⟨s, hrun, hsignals, signals_throttled lowCapitalStrategy .empty 0 stoppedOut s hrun⟩

end MeanReversionImbalanceStrategy

end Aegis
