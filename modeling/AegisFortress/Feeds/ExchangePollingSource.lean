import AegisFortress.Portfolio.LedgerSteps

/-!
# The polled universe

`feeds/exchange_polling_source.py`.  The source polls the symbols of a list, and replaces the list
from time to time by what a provider answers.  The provider ranks markets and does not know the
ledger, so a refresh can drop a symbol that is held; no order book of it arrives after that, and
exits are evaluated on order books.

`polled_iff` says when every open position stays in the list: exactly when every answer that is
adopted lists the symbols held at that moment.
-/

namespace Aegis

section Definitions

variable {α : Type} [Sub α] [Zero α] [LT α] [LE α] [DecidableLT α] [DecidableLE α]

/-- `ExchangePollingSource`, as far as its symbols depend on it. -/
structure ExchangePollingSource (α : Type) where
  symbols : List String
  hasSymbolsProvider : Bool
  symbolRefreshIntervalSeconds : α
  lastSymbolRefreshAt : α

namespace ExchangePollingSource

/-- A refresh is due: none of the first three tests of `_refresh_symbols_if_needed` returns. -/
def due (source : ExchangePollingSource α) (now : α) : Prop :=
  source.hasSymbolsProvider = true ∧ ¬ source.symbolRefreshIntervalSeconds ≤ 0
    ∧ ¬ (0 < source.lastSymbolRefreshAt
        ∧ now - source.lastSymbolRefreshAt < source.symbolRefreshIntervalSeconds)

instance (source : ExchangePollingSource α) (now : α) : Decidable (source.due now) :=
  inferInstanceAs (Decidable (_ ∧ _ ∧ ¬ (_ ∧ _)))

/-- `next_symbols`: blank symbols are left out; nothing if the provider raises. -/
def nextSymbols (answer : Except PyError (List String)) : List String :=
  match answer with
  | .error _ => []
  | .ok symbols => symbols.filter fun symbol => pyStrip symbol ≠ ""

/-- `ExchangePollingSource._refresh_symbols_if_needed`, at a time, with the provider's answer. -/
def refreshSymbolsIfNeeded (source : ExchangePollingSource α) (now : α)
    (answer : Except PyError (List String)) : ExchangePollingSource α :=
  if source.due now then
    let source := { source with lastSymbolRefreshAt := now }
    match nextSymbols answer with
    | [] => source
    | symbol :: rest => { source with symbols := symbol :: rest }
  else source

/-- The answer replaces the list. -/
def Adopts (source : ExchangePollingSource α) (now : α) (answer : Except PyError (List String)) :
    Prop := source.due now ∧ nextSymbols answer ≠ []

end ExchangePollingSource

/-- The polling source and the ledger its order books lead to. -/
structure PollingState (α : Type) where
  source : ExchangePollingSource α
  ledger : PositionLedger α

end Definitions

namespace PollingState

open ExchangePollingSource

/-- What happens: the source looks whether to refresh, or an order is filled. -/
inductive Input
  | refresh (now : ℚ) (answer : Except PyError (List String))
  | fill (fill : Fill ℚ)

/-- One step.  Only polled symbols are traded; a fill the ledger refuses changes nothing. -/
def step (s : PollingState ℚ) : Input → Option (PollingState ℚ)
  | .refresh now answer => some { s with source := s.source.refreshSymbolsIfNeeded now answer }
  | .fill fill =>
      if fill.symbol ∈ s.source.symbols then
        match s.ledger.applyFill fill with
        | .ok (ledger, _) => some { s with ledger := ledger }
        | .error _ => some s
      else none

/-- Every open position is in the polled universe. -/
def Polled (s : PollingState ℚ) : Prop :=
  ∀ symbol p, s.ledger.getPosition symbol = some p → symbol ∈ s.source.symbols

/-- An answer that is adopted lists every symbol that is held. -/
def Covers (s : PollingState ℚ) : Input → Prop
  | .refresh now answer => s.source.Adopts now answer →
      ∀ symbol p, s.ledger.getPosition symbol = some p → symbol ∈ nextSymbols answer
  | .fill _ => True

/-! ## One step -/

lemma refresh_adopts {source : ExchangePollingSource ℚ} {now : ℚ}
    {answer : Except PyError (List String)} (h : source.Adopts now answer) :
    (source.refreshSymbolsIfNeeded now answer).symbols = nextSymbols answer := by
  obtain ⟨hdue, hsome⟩ := h
  rw [refreshSymbolsIfNeeded, if_pos hdue]
  cases hnext : nextSymbols answer with
  | nil => exact absurd hnext hsome
  | cons symbol rest => rfl

lemma refresh_keeps {source : ExchangePollingSource ℚ} {now : ℚ}
    {answer : Except PyError (List String)} (h : ¬ source.Adopts now answer) :
    (source.refreshSymbolsIfNeeded now answer).symbols = source.symbols := by
  rw [refreshSymbolsIfNeeded]
  split_ifs with hdue
  · cases hnext : nextSymbols answer with
    | nil => rfl
    | cons symbol rest =>
        have hsome : nextSymbols answer ≠ [] := by simp [hnext]
        exact absurd ⟨hdue, hsome⟩ h
  · rfl

/-- A fill opens a position in its own symbol only. -/
lemma held_after_fill {ledger : PositionLedger ℚ} {fill : Fill ℚ}
    {r : PositionLedger ℚ × Trade ℚ} (h : ledger.applyFill fill = .ok r) {symbol : String}
    {p : Position ℚ} (hp : r.1.getPosition symbol = some p) :
    symbol = fill.symbol ∨ ledger.getPosition symbol = some p := by
  obtain ⟨side, -, rfl⟩ := PositionLedger.applyFill_ok h
  by_cases hs : symbol = fill.symbol
  · exact Or.inl hs
  · rw [PositionLedger.getPosition_book_of_ne hs] at hp
    exact Or.inr hp

lemma Polled.step {s s' : PollingState ℚ} {input : Input} (h : s.Polled)
    (hcovers : s.Covers input) (hstep : step s input = some s') : s'.Polled := by
  cases input with
  | refresh now answer =>
      cases hstep
      intro symbol p hp
      by_cases hadopts : s.source.Adopts now answer
      · rw [refresh_adopts hadopts]
        exact hcovers hadopts symbol p hp
      · rw [refresh_keeps hadopts]
        exact h symbol p hp
  | fill fill =>
      rw [PollingState.step] at hstep
      split_ifs at hstep with hmem
      cases hfill : s.ledger.applyFill fill with
      | error e =>
          rw [hfill] at hstep
          cases hstep
          exact h
      | ok r =>
          rw [hfill] at hstep
          cases hstep
          intro symbol p hp
          rcases held_after_fill hfill hp with rfl | hheld
          · exact hmem
          · exact h symbol p hheld

/-- A refresh that drops a held symbol leaves it unpolled. -/
lemma covers_of_polled {s s' : PollingState ℚ} {now : ℚ} {answer : Except PyError (List String)}
    (hstep : step s (.refresh now answer) = some s') (h : s'.Polled) :
    s.Covers (.refresh now answer) := by
  cases hstep
  intro hadopts symbol p hp
  have hmem := h symbol p hp
  rw [refresh_adopts hadopts] at hmem
  exact hmem

/-! ## Runs -/

/-- **Open positions stay polled exactly when no refresh drops one.** -/
theorem polled_iff (s₀ : PollingState ℚ) (hinit : s₀.Polled) (inputs : List Input) :
    (∀ past rest s, inputs = past ++ rest → Machine.run step s₀ past = some s → s.Polled)
      ↔ Machine.Along step s₀ Covers inputs := by
  constructor
  · rintro h past input rest s rfl hs
    cases input with
    | fill fill => trivial
    | refresh now answer =>
        have hnext : Machine.run step s₀ (past ++ [.refresh now answer])
            = some { s with source := s.source.refreshSymbolsIfNeeded now answer } := by
          rw [Machine.run_snoc, hs]
          rfl
        exact covers_of_polled rfl (h (past ++ [.refresh now answer]) rest _ (by simp) hnext)
  · rintro halong past rest s rfl hs
    exact halong.of_append.invariant Polled hinit (fun _ _ _ hp hc hst => hp.step hc hst) hs

/-- A source that is refreshed every minute, and an empty ledger. -/
def demoState : PollingState ℚ := ⟨⟨["BTC/USDT", "ETH/USDT"], true, 60, 0⟩, .empty⟩

/-- A coin is bought, and the next ranking leaves it out. -/
def demoRun : List Input :=
  [.fill ⟨"BTC/USDT", "BUY", 1, 100, "SIM", 0, none, none⟩, .refresh 100 (.ok ["ETH/USDT"])]

lemma demoState_polled : demoState.Polled := fun _ _ h => by cases h

theorem polled_demo :
    (∀ past rest s, demoRun = past ++ rest → Machine.run step demoState past = some s → s.Polled)
      ↔ Machine.Along step demoState Covers demoRun :=
  polled_iff demoState demoState_polled demoRun

/-- The position is open and its symbol is not polled any more. -/
theorem position_unpolled :
    ∃ s, Machine.run step demoState demoRun = some s
      ∧ (s.ledger.getPosition "BTC/USDT").isSome ∧ s.source.symbols = ["ETH/USDT"]
      ∧ ¬ s.Polled := by
  have hrun : (Machine.run step demoState demoRun).isSome := by decide +kernel
  obtain ⟨s, hs⟩ := Option.isSome_iff_exists.mp hrun
  have hopen : ((Machine.run step demoState demoRun).map fun s =>
      (s.ledger.getPosition "BTC/USDT").isSome) = some true := by decide +kernel
  have hsymbols : ((Machine.run step demoState demoRun).map fun s => s.source.symbols)
      = some ["ETH/USDT"] := by decide +kernel
  rw [hs, Option.map_some, Option.some.injEq] at hopen hsymbols
  refine ⟨s, hs, hopen, hsymbols, fun h => ?_⟩
  obtain ⟨p, hp⟩ := Option.isSome_iff_exists.mp hopen
  have hmem := h "BTC/USDT" p hp
  rw [hsymbols] at hmem
  exact absurd hmem (by decide)

end PollingState

end Aegis
