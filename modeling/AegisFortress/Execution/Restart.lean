import AegisFortress.Execution.FillProcessor

/-!
# Restarting from the saved portfolio

The process may stop at any moment between two fills.  The next one loads the state file, restores
the ledger from its `portfolio` entry and goes on.  `restart_transparent` compares it with a
process that never stopped, by a simulation: the two ledgers have the same bindings
(`Dict.Equiv` — the file sorts its keys) and the same realized total, and restoring the file would
give that ledger again (`InSync`).
-/

namespace Aegis

namespace FillProcessor

open PositionLedger

/-! ## The process -/

/-- The arguments of one `process` call. -/
structure Call where
  report : ExecutionReport ℚ
  markPrices : Dict String ℚ
  strategyId : Option String

/-- A database and a state store that accept everything. -/
def healthy : StoreAnswers := ⟨some (.ok ()), .ok ()⟩

/-- The books, and the trades that `process` has returned so far. -/
structure Session where
  books : Books ℚ
  returned : List (Trade ℚ)

/-- An empty ledger, and no state file: `load()` returns an empty dictionary. -/
def opening : Session := ⟨⟨PositionLedger.empty, .dict []⟩, []⟩

variable (processor : FillProcessor ℚ)

/-- One call; an exception leaves the books as they are then. -/
def Session.process (s : Session) (call : Call) : Session :=
  match (processor.process healthy call.report call.markPrices call.strategyId).run s.books with
  | .ok result books => ⟨books, s.returned ++ result.trade.toList⟩
  | .error _ books => ⟨books, s.returned⟩

/-- `state_store.load().get("portfolio", {})`. -/
def savedPortfolio (saved : PyVal ℚ) : PyVal ℚ :=
  match saved with
  | .dict items => (items.lookup "portfolio").getD (.dict [])
  | _ => .dict []

/-- The ledger a new process restores from the state file. -/
def reload (saved : PyVal ℚ) : PositionLedger ℚ :=
  Raising.final ((restoreSnapshot (savedPortfolio saved)).run PositionLedger.empty)

/-- Stop, and start again from the state file. -/
def Session.restart (s : Session) : Session := { s with books := ⟨reload s.books.saved, s.books.saved⟩ }

/-- What may happen to a process. -/
inductive Input
  | process (call : Call)
  | restart

/-- The process that is stopped and restarted at the given points. -/
def interrupted (inputs : List Input) : Session :=
  inputs.foldl (fun s input =>
    match input with
    | .process call => s.process processor call
    | .restart => s.restart) opening

/-- The process that is given the same fills and never stops. -/
def uninterrupted (inputs : List Input) : Session :=
  inputs.foldl (fun s input =>
    match input with
    | .process call => s.process processor call
    | .restart => s) opening

/-! ## One call -/

/-- The side the fill of a report is booked on; `none` when nothing is booked. -/
def Call.bookedSide (call : Call) : Option OrderSide :=
  if call.report.hasFill ∧ ¬ call.report.averageFillPrice ≤ 0 then
    (checkFill (call.report.toFill call.strategyId)).toOption
  else none

/-- The session after a fill has been booked, marked and saved. -/
def Session.booked (s : Session) (call : Call) (side : OrderSide) : Session :=
  let r := s.books.ledger.book (call.report.toFill call.strategyId) side
  ⟨(processor.completed call.report call.markPrices r.1 r.2).2, s.returned ++ [r.2]⟩

variable {processor}

/-- With healthy stores a call books its fill completely or not at all, and the report alone
decides which. -/
lemma process_healthy (s : Session) (call : Call) : s.process processor call
    = match call.bookedSide with
      | none => s
      | some side => s.booked processor call side := by
  have h := processor.process_outcome healthy call.report call.markPrices call.strategyId s.books
  rw [Session.process]
  generalize (processor.process healthy call.report call.markPrices call.strategyId).run s.books
    = result at h
  cases h with
  | noFill hno =>
      rw [Call.bookedSide, if_neg fun hand => hno hand.1]
      exact congrArg (Session.mk s.books) (List.append_nil s.returned)
  | refused hfill e hr =>
      have hnone : call.bookedSide = none := by
        rw [Call.bookedSide]
        split_ifs with hboth
        · obtain ⟨e', he⟩ := hr.resolve_left hboth.2
          rw [applyFill_error he]
          rfl
        · rfl
      rw [hnone]
  | unrecorded _ _ _ _ _ he => cases he
  | unsaved _ _ _ _ _ _ he => cases he
  | completed hfill hprice r hr =>
      obtain ⟨side, hc, rfl⟩ := applyFill_ok hr
      rw [Call.bookedSide, if_pos ⟨hfill, hprice⟩, hc]
      rfl

lemma bookedSide_pos {call : Call} {side : OrderSide} (h : call.bookedSide = some side) :
    0 < (call.report.toFill call.strategyId).quantity
      ∧ 0 < (call.report.toFill call.strategyId).price := by
  rw [Call.bookedSide] at h
  split_ifs at h with hboth
  exact ⟨hboth.1, not_le.mp hboth.2⟩

/-- The state file holds what it takes to restore the ledger. -/
lemma reload_statePayload {ledger : PositionLedger ℚ} (h : ledger.WellFormed)
    (snapshot : ExposureSnapshot ℚ) (breaches : List RiskBreach) (report : ExecutionReport ℚ) :
    (reload (statePayload ledger snapshot breaches report).stored).Same ledger := by
  obtain ⟨restored, hr, hpositions, htotal⟩ := restore_stored h
  have hn : ∀ a b c d : PyVal ℚ, ([("portfolio", a), ("exposure", b), ("breaches", c),
      ("last_execution_report", d)].map Prod.fst).Nodup := by
    intro a b c d
    change ["portfolio", "exposure", "breaches", "last_execution_report"].Nodup
    decide
  have hportfolio : savedPortfolio (statePayload ledger snapshot breaches report).stored
      = (PyVal.dict ledger.snapshot).stored := by
    rw [statePayload, PyVal.stored_dict, savedPortfolio, PyVal.lookup_sorted (hn _ _ _ _)]
    rfl
  rw [reload, hportfolio, hr]
  exact ⟨hpositions, htotal⟩

/-! ## The simulation -/

/-- The interrupted process `a` follows the uninterrupted process `b`. -/
structure Follows (a b : Session) : Prop where
  wellFormed : b.books.ledger.WellFormed
  same : a.books.ledger.Same b.books.ledger
  inSync : (reload a.books.saved).Same a.books.ledger
  returned : a.returned = b.returned

lemma follows_opening : Follows opening opening := by
  refine ⟨wellFormed_empty, Same.refl _, ?_, rfl⟩
  exact ⟨fun _ => rfl, rfl⟩

lemma Follows.process {a b : Session} (h : Follows a b) (call : Call) :
    Follows (a.process processor call) (b.process processor call) := by
  rw [process_healthy, process_healthy]
  cases hside : call.bookedSide with
  | none => exact h
  | some side =>
      obtain ⟨hq, hp⟩ := bookedSide_pos hside
      obtain ⟨hsame, htrade⟩ := h.same.book (call.report.toFill call.strategyId) side
      have hbooked : (b.books.ledger.book (call.report.toFill call.strategyId) side).1.WellFormed :=
        h.wellFormed.book hq hp
      have hwell := hbooked.markPositions call.markPrices
      have hmarked := hsame.markPositions call.markPrices
      refine ⟨hwell, hmarked, ?_, ?_⟩
      · exact reload_statePayload (hwell.of_same hmarked) _ _ _
      · exact congrArg₂ (fun l t => l ++ [t]) h.returned htrade

lemma Follows.restart {a b : Session} (h : Follows a b) : Follows a.restart b :=
  ⟨h.wellFormed, h.inSync.trans h.same, Same.refl _, h.returned⟩

/-- **Restarts are transparent.**  Wherever the process is stopped and restarted from the state
file, it ends with the positions, the realized profit and the returned trades of the process that
was given the same fills and never stopped. -/
theorem restart_transparent (processor : FillProcessor ℚ) (inputs : List Input) :
    let resumed := interrupted processor inputs
    let straight := uninterrupted processor inputs
    (∀ symbol, resumed.books.ledger.getPosition symbol = straight.books.ledger.getPosition symbol)
      ∧ resumed.books.ledger.realizedPnl = straight.books.ledger.realizedPnl
      ∧ resumed.returned = straight.returned := by
  intro resumed straight
  have h : Follows resumed straight := by
    refine List.foldl_rel follows_opening ?_
    intro input _ a b hab
    cases input with
    | process call => exact hab.process call
    | restart => exact hab.restart
  exact ⟨h.same.positions, h.same.total, h.returned⟩

end FillProcessor

end Aegis
