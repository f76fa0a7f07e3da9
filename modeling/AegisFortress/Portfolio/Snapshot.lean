import AegisFortress.Lib.Raising
import AegisFortress.Portfolio.LedgerSteps
import AegisFortress.Python.Json

/-!
# Saving and restoring the ledger

`PositionLedger.snapshot` writes the open positions and the realized total as a dictionary;
`restore_snapshot` reads such a dictionary back, whatever has become of it: entries that are no
dictionaries, fields that are no numbers, dust and non-positive entry prices are skipped.

`restore_stored` is the round trip: of a well-formed ledger everything comes back but the trades,
with the positions in whatever order the file has them.
-/

namespace Aegis

section Definitions

variable {α : Type} [Add α] [Sub α] [Mul α] [Div α] [Neg α] [Zero α] [LT α] [LE α]
  [DecidableLT α] [DecidableLE α] [DecidableEq α] [PyFloat α]

/-- `Position.to_dict()`, less the wall-clock stamp. -/
def Position.toDict (p : Position α) : List (String × PyVal α) :=
  [("symbol", .str p.symbol), ("quantity", .float p.quantity),
    ("average_entry", .float p.averageEntry), ("realized_pnl", .float p.realizedPnl),
    ("unrealized_pnl", .float p.unrealizedPnl), ("side", .str p.side)]

namespace PositionLedger

/-- `PositionLedger.snapshot()`. -/
def snapshot (ledger : PositionLedger α) : List (String × PyVal α) :=
  [("positions", .dict (ledger.positions.entries.map fun e => (e.1, .dict e.2.toDict))),
    ("trade_count", .int ledger.trades.length),
    ("realized_pnl_total", .float ledger.realizedPnlTotal)]

/-- `float(items.get(key, 0.0) or 0.0)`. -/
def floatOrZero (items : List (String × PyVal α)) (key : String) : Except PyError α :=
  let value := (items.lookup key).getD (.float 0)
  if value.truthy then value.toFloat else .ok 0

/-- One saved position; `none` where `restore_snapshot` continues with the next one. -/
def restorePosition (symbol : String) (raw : PyVal α) : Option (Position α) :=
  match raw with
  | .dict items =>
      match floatOrZero items "quantity", floatOrZero items "average_entry",
        floatOrZero items "realized_pnl", floatOrZero items "unrealized_pnl" with
      | .ok quantity, .ok averageEntry, .ok realizedPnl, .ok unrealizedPnl =>
          if pyAbs quantity ≤ EPSILON ∨ averageEntry ≤ 0 then none
          else some ⟨symbol, quantity, averageEntry, realizedPnl, unrealizedPnl⟩
      | _, _, _, _ => none
  | _ => none

/-- One turn of the loop over the saved positions. -/
def restoreOne (restored : Dict String (Position α)) (item : String × PyVal α) :
    Dict String (Position α) :=
  match restorePosition item.1 item.2 with
  | none => restored
  | some position => restored.set item.1 position

/-- The dictionary of the positions that could be restored. -/
def restorePositions (items : List (String × PyVal α)) : Dict String (Position α) :=
  items.foldl restoreOne ∅

/-- `PositionLedger.restore_snapshot(payload)`. -/
def restoreSnapshot (payload : PyVal α) : EStateM PyError (PositionLedger α) Unit :=
  match payload with
  | .dict items =>
      match (items.lookup "positions").getD (.dict []) with
      | .dict positions => do
          modify fun ledger => { ledger with positions := restorePositions positions }
          let total ← Raising.lift (floatOrZero items "realized_pnl_total")
          modify fun ledger => { ledger with realizedPnlTotal := total }
      | _ => pure ()
  | _ => pure ()

end PositionLedger

end Definitions

namespace PositionLedger

/-! ## The round trip -/

lemma floatOrZero_stored {items : List (String × PyVal ℚ)} (hn : (items.map Prod.fst).Nodup)
    {key : String} {x : ℚ} (h : items.lookup key = some (.float x)) :
    floatOrZero (PyVal.sorted items) key = .ok x := by
  have hget : (PyVal.sorted items).lookup key = some (.float x) := by
    rw [PyVal.lookup_sorted hn, h, Option.map_some, PyVal.stored_float]
  simp only [floatOrZero, hget, Option.getD_some, PyVal.truthy]
  split_ifs with hx
  · rfl
  · rw [decide_eq_true_eq, not_not] at hx
    rw [hx]

/-- A position that is larger than dust and has a positive entry price is restored as it was. -/
lemma restorePosition_stored {symbol : String} {p : Position ℚ} (hs : p.symbol = symbol)
    (hlive : EPSILON < |p.quantity|) (hentry : 0 < p.averageEntry) :
    restorePosition symbol (PyVal.dict p.toDict).stored = some p := by
  have hn : (p.toDict.map Prod.fst).Nodup := by
    change ["symbol", "quantity", "average_entry", "realized_pnl", "unrealized_pnl", "side"].Nodup
    decide
  have hq : floatOrZero (PyVal.sorted p.toDict) "quantity" = .ok p.quantity :=
    floatOrZero_stored hn rfl
  have he : floatOrZero (PyVal.sorted p.toDict) "average_entry" = .ok p.averageEntry :=
    floatOrZero_stored hn rfl
  have hr : floatOrZero (PyVal.sorted p.toDict) "realized_pnl" = .ok p.realizedPnl :=
    floatOrZero_stored hn rfl
  have hu : floatOrZero (PyVal.sorted p.toDict) "unrealized_pnl" = .ok p.unrealizedPnl :=
    floatOrZero_stored hn rfl
  have hkept : ¬ (|p.quantity| ≤ EPSILON ∨ p.averageEntry ≤ 0) := by
    rw [not_or, not_le, not_le]
    exact ⟨hlive, hentry⟩
  simp only [PyVal.stored_dict, restorePosition, hq, he, hr, hu, pyAbs_rat, hkept, if_false, ← hs]

lemma get?_restorePositions (items : List (String × PyVal ℚ)) (hn : (items.map Prod.fst).Nodup)
    (symbol : String) : (restorePositions items).get? symbol
      = (items.lookup symbol).bind (restorePosition symbol) := by
  suffices h : ∀ (l : List (String × PyVal ℚ)), (l.map Prod.fst).Nodup →
      ∀ restored : Dict String (Position ℚ), (l.foldl restoreOne restored).get? symbol
        = ((l.lookup symbol).bind (restorePosition symbol)).or (restored.get? symbol) by
    have hall := h items hn ∅
    rw [Dict.get?_empty, Option.or_none] at hall
    exact hall
  intro l
  induction l with
  | nil => intro _ restored; rfl
  | cons e rest ih =>
      intro hnodup restored
      obtain ⟨key, raw⟩ := e
      rw [List.map_cons, List.nodup_cons] at hnodup
      rw [List.foldl_cons, ih hnodup.2, Dict.lookup_cons]
      by_cases hk : key = symbol
      · subst hk
        rw [Dict.lookup_eq_none.mpr hnodup.1, if_pos rfl]
        cases hp : restorePosition key raw with
        | none => simp only [restoreOne, hp, Option.bind_none, Option.bind_some]
        | some p => simp only [restoreOne, hp, Option.bind_none, Option.bind_some, Option.none_or,
            Option.some_or, Dict.get?_set_self]
      · rw [if_neg hk]
        cases hp : restorePosition key raw with
        | none => simp only [restoreOne, hp]
        | some p => simp only [restoreOne, hp, Dict.get?_set_of_ne _ hk]

/-- **What comes back from the file**: the positions, whatever their order, and the realized
total. -/
theorem restore_stored {ledger : PositionLedger ℚ} (h : ledger.WellFormed) :
    ∃ restored, (restoreSnapshot (PyVal.dict ledger.snapshot).stored).run empty = .ok () restored
      ∧ restored.positions.Equiv ledger.positions
      ∧ restored.realizedPnlTotal = ledger.realizedPnlTotal := by
  have hn : (ledger.snapshot.map Prod.fst).Nodup := by
    change ["positions", "trade_count", "realized_pnl_total"].Nodup
    decide
  let items := ledger.positions.entries.map fun e => (e.1, PyVal.dict e.2.toDict)
  have hitems : (items.map Prod.fst).Nodup := by
    rw [List.map_map]
    exact ledger.positions.nodup
  have hpositions : (PyVal.sorted ledger.snapshot).lookup "positions"
      = some (.dict (PyVal.sorted items)) := by
    rw [PyVal.lookup_sorted hn, show ledger.snapshot.lookup "positions" = some (.dict items) from rfl,
      Option.map_some, PyVal.stored_dict]
  have htotal : floatOrZero (PyVal.sorted ledger.snapshot) "realized_pnl_total"
      = .ok ledger.realizedPnlTotal := floatOrZero_stored hn rfl
  refine ⟨⟨restorePositions (PyVal.sorted items), [], ledger.realizedPnlTotal⟩, ?_, ?_, rfl⟩
  · rw [PyVal.stored_dict, restoreSnapshot]
    simp only [hpositions, Option.getD_some, htotal]
    rfl
  · intro symbol
    have hlookup : items.lookup symbol
        = (ledger.positions.get? symbol).map fun p => PyVal.dict p.toDict :=
      Dict.lookup_map (fun _ p => PyVal.dict (Position.toDict p)) ledger.positions.entries symbol
    rw [get?_restorePositions _ (PyVal.sorted_nodup hitems), PyVal.lookup_sorted hitems, hlookup]
    cases hp : ledger.positions.get? symbol with
    | none => rfl
    | some p =>
        have he : (symbol, p) ∈ ledger.positions.entries := Dict.get?_eq_some.mp hp
        have hlive : EPSILON < |p.quantity| := h.live (symbol, p) he
        have hentry : 0 < p.averageEntry := h.entry_pos (symbol, p) he
        rw [Option.map_some, Option.map_some, Option.bind_some]
        exact restorePosition_stored (h.keyed (symbol, p) he) hlive hentry

end PositionLedger

end Aegis
