import AegisFortress.Portfolio.Snapshot

/-!
# A snapshot that cannot be restored

`restore_snapshot` replaces the positions before it reads the realized total, and skips a position
it cannot read unless reading it raises an `OverflowError`: an int may be too large for a float.
`restoreSnapshotIn` is the function with that error in it, for floats with infinities and NaNs that a
text can spell, and with the `updated_at` of every position, which is read from the payload or taken
from the clock; `restoreSnapshotIn_exact` ties it to `restoreSnapshot`.
`restore_all_or_nothing_iff` says when a call that raises has left the ledger alone.
-/

namespace Aegis

section Definitions

variable {α : Type} [Add α] [Sub α] [Mul α] [Div α] [Neg α] [Zero α] [LT α] [LE α]
  [DecidableLT α] [DecidableLE α] [DecidableEq α] [PyFloat α]

/-- What `float` makes of the values that exact arithmetic treats differently: which ints have a
float, and what a text such as `"inf"` spells. -/
structure FloatRange (α : Type) where
  fits : ℤ → Bool
  special : String → Option α

/-- Every int has a float, and there is nothing else. -/
def FloatRange.exact : FloatRange α := ⟨fun _ => true, fun _ => none⟩

/-- `float(value)`. -/
def PyVal.toFloatIn (range : FloatRange α) (value : PyVal α) : Except PyError α :=
  match value with
  | .int n =>
      if range.fits n then value.toFloat
      else .error ⟨.other, "int too large to convert to float"⟩
  | .str s =>
      match range.special s with
      | some x => .ok x
      | Option.none => value.toFloat
  | value => value.toFloat

/-- `models.position.Position`, with the wall-clock stamp. -/
structure StampedPosition (α : Type) extends Position α where
  updatedAt : DateTime
  deriving DecidableEq

/-- A ledger of such positions. -/
structure StampedLedger (α : Type) where
  positions : Dict String (StampedPosition α)
  trades : List (Trade α)
  realizedPnlTotal : α

/-- The ledger as the rest of the development has it. -/
def StampedLedger.withoutStamps (ledger : StampedLedger α) : PositionLedger α where
  positions := ledger.positions.mapVal fun _ position => position.toPosition
  trades := ledger.trades
  realizedPnlTotal := ledger.realizedPnlTotal

/-- What `datetime` answers: the clock as the loop reads it for a symbol, and
`fromisoformat(text).replace(tzinfo=None)`, `none` where it raises `ValueError`. -/
structure Clock where
  utcnow : String → DateTime
  fromisoformat : String → Option DateTime

namespace PositionLedger

variable (range : FloatRange α) (clock : Clock)

/-- `float(items.get(key, 0.0) or 0.0)`. -/
def floatOrZeroIn (items : List (String × PyVal α)) (key : String) : Except PyError α :=
  let value := (items.lookup key).getD (.float 0)
  if value.truthy then value.toFloatIn range else .ok 0

/-- The four numbers of a saved position. -/
def readNumbers (symbol : String) (items : List (String × PyVal α)) :
    Except PyError (Position α) := do
  let quantity ← floatOrZeroIn range items "quantity"
  let averageEntry ← floatOrZeroIn range items "average_entry"
  let realizedPnl ← floatOrZeroIn range items "realized_pnl"
  let unrealizedPnl ← floatOrZeroIn range items "unrealized_pnl"
  pure ⟨symbol, quantity, averageEntry, realizedPnl, unrealizedPnl⟩

/-- `updated_at`: what the payload spells, and now if it spells nothing. -/
def readStamp (symbol : String) (items : List (String × PyVal α)) : DateTime :=
  match items.lookup "updated_at" with
  | some (.str s) =>
      if s = "" then clock.utcnow symbol
      else (clock.fromisoformat (s.replace "Z" "+00:00")).getD (clock.utcnow symbol)
  | _ => clock.utcnow symbol

/-- One saved position; `none` where the loop continues with the next one. -/
def readPosition (symbol : String) (raw : PyVal α) :
    Except PyError (Option (StampedPosition α)) :=
  match raw with
  | .dict items =>
      match readNumbers range symbol items with
      | .ok p =>
          .ok (if pyAbs p.quantity ≤ EPSILON ∨ p.averageEntry ≤ 0 then none
            else some { p with updatedAt := readStamp clock symbol items })
      | .error e => if e.kind = .typeError ∨ e.kind = .valueError then .ok none else .error e
  | _ => .ok none

/-- One turn of the loop. -/
def readOne (restored : Dict String (StampedPosition α)) (item : String × PyVal α) :
    Except PyError (Dict String (StampedPosition α)) := do
  match ← readPosition range clock item.1 item.2 with
  | none => pure restored
  | some position => pure (restored.set item.1 position)

/-- The loop over the saved positions. -/
def readPositions (items : List (String × PyVal α)) :
    Except PyError (Dict String (StampedPosition α)) := items.foldlM (readOne range clock) ∅

/-- `restore_snapshot(payload)`. -/
def restoreSnapshotIn (payload : PyVal α) : EStateM PyError (StampedLedger α) Unit :=
  match payload with
  | .dict items =>
      match (items.lookup "positions").getD (.dict []) with
      | .dict positions => do
          let restored ← Raising.lift (readPositions range clock positions)
          modify fun ledger => { ledger with positions := restored }
          let total ← Raising.lift (floatOrZeroIn range items "realized_pnl_total")
          modify fun ledger => { ledger with realizedPnlTotal := total }
      | _ => pure ()
  | _ => pure ()

/-- What the payload says about a symbol: its last entry that is a position. -/
def savedPosition (positions : List (String × PyVal α)) (symbol : String) :
    Option (StampedPosition α) :=
  positions.reverse.findSome? fun e =>
    if e.1 = symbol then (readPosition range clock e.1 e.2).toOption.join else none

end PositionLedger

end Definitions

namespace PositionLedger

open Raising

variable {α : Type} [PyFloat α] {range : FloatRange α} {clock : Clock}

/-! ## Reading -/

/-- `float` raises a `TypeError` or a `ValueError`, as long as every int has a float. -/
lemma toFloat_error {value : PyVal α} {e : PyError} (h : value.toFloat = .error e) :
    e.kind = .typeError ∨ e.kind = .valueError := by
  cases value with
  | str s =>
      simp only [PyVal.toFloat] at h
      split at h
      · cases h
      · cases h
        exact Or.inr rfl
  | bool => cases h
  | int => cases h
  | float => cases h
  | _ =>
      cases h
      exact Or.inl rfl

lemma toFloatIn_exact (value : PyVal α) : value.toFloatIn .exact = value.toFloat := by
  cases value <;> rfl

variable [Zero α] [DecidableEq α]

lemma floatOrZeroIn_exact (items : List (String × PyVal α)) (key : String) :
    floatOrZeroIn .exact items key = floatOrZero items key := by
  simp only [floatOrZeroIn, floatOrZero, toFloatIn_exact]

lemma floatOrZero_error {items : List (String × PyVal α)} {key : String} {e : PyError}
    (h : floatOrZero items key = .error e) : e.kind = .typeError ∨ e.kind = .valueError := by
  simp only [floatOrZero] at h
  split_ifs at h
  exact toFloat_error h

variable [Neg α] [LT α] [LE α] [DecidableLT α] [DecidableLE α]

variable (clock) in
lemma readPosition_exact (symbol : String) (raw : PyVal α) :
    ∃ read, readPosition .exact clock symbol raw = .ok read
      ∧ read.map StampedPosition.toPosition = restorePosition symbol raw := by
  cases raw with
  | dict items =>
      simp only [readPosition, restorePosition, readNumbers, floatOrZeroIn_exact]
      cases hq : floatOrZero items "quantity" with
      | error e => exact ⟨none, if_pos (floatOrZero_error hq), rfl⟩
      | ok quantity =>
      cases ha : floatOrZero items "average_entry" with
      | error e => exact ⟨none, if_pos (floatOrZero_error ha), rfl⟩
      | ok averageEntry =>
      cases hr : floatOrZero items "realized_pnl" with
      | error e => exact ⟨none, if_pos (floatOrZero_error hr), rfl⟩
      | ok realizedPnl =>
      cases hu : floatOrZero items "unrealized_pnl" with
      | error e => exact ⟨none, if_pos (floatOrZero_error hu), rfl⟩
      | ok unrealizedPnl =>
          refine ⟨_, rfl, ?_⟩
          dsimp only
          split_ifs <;> rfl
  | _ => exact ⟨none, rfl, rfl⟩

/-- Over these ledgers a call of `restoreSnapshotIn` and one of `restoreSnapshot` end the same way. -/
def SameEnd (timed : EStateM.Result PyError (StampedLedger α) Unit)
    (plain : EStateM.Result PyError (PositionLedger α) Unit) : Prop :=
  match timed, plain with
  | .ok _ ledger, .ok _ ledger' => ledger.withoutStamps = ledger'
  | .error e ledger, .error e' ledger' => e = e' ∧ ledger.withoutStamps = ledger'
  | _, _ => False

/-- **In exact arithmetic**, and but for the stamps, this is `restoreSnapshot`. -/
theorem restoreSnapshotIn_exact (payload : PyVal α) (ledger : StampedLedger α) :
    SameEnd ((restoreSnapshotIn .exact clock payload).run ledger)
      ((restoreSnapshot payload).run ledger.withoutStamps) := by
  have hloop : ∀ (items : List (String × PyVal α)) (restored : Dict String (StampedPosition α)),
      ∃ restored', items.foldlM (readOne .exact clock) restored = .ok restored'
        ∧ restored'.mapVal (fun _ position => position.toPosition)
          = items.foldl restoreOne (restored.mapVal fun _ position => position.toPosition) := by
    intro items
    induction items with
    | nil => exact fun restored => ⟨restored, rfl, rfl⟩
    | cons item rest ih =>
        intro restored
        obtain ⟨read, hread, hplain⟩ := readPosition_exact clock item.1 item.2
        rw [List.foldlM_cons, List.foldl_cons, readOne, hread, restoreOne, ← hplain]
        cases read with
        | none => exact ih restored
        | some position =>
            obtain ⟨restored', hrest, hsame⟩ := ih (restored.set item.1 position)
            rw [Dict.mapVal_set] at hsame
            exact ⟨restored', hrest, hsame⟩
  cases payload with
  | dict items =>
      simp only [restoreSnapshotIn, restoreSnapshot]
      cases hpositions : (items.lookup "positions").getD (PyVal.dict []) with
      | dict positions =>
          obtain ⟨restored, hread, hsame⟩ := hloop positions ∅
          simp only [readPositions, hread, floatOrZeroIn_exact]
          cases floatOrZero items "realized_pnl_total" with
          | error e =>
              refine ⟨rfl, ?_⟩
              rw [StampedLedger.withoutStamps, hsame]
              rfl
          | ok total =>
              refine Eq.trans (StampedLedger.withoutStamps.eq_1 _) ?_
              rw [hsame]
              rfl
      | _ => exact Eq.refl ledger.withoutStamps
  | _ => exact Eq.refl ledger.withoutStamps

lemma savedPosition_snoc (positions : List (String × PyVal α)) (item : String × PyVal α)
    (symbol : String) : savedPosition range clock (positions ++ [item]) symbol
      = (if item.1 = symbol then (readPosition range clock item.1 item.2).toOption.join else none).or
        (savedPosition range clock positions symbol) := by
  rw [savedPosition, List.reverse_append, List.reverse_singleton, List.singleton_append,
    List.findSome?_cons]
  split_ifs
  · cases (readPosition range clock item.1 item.2).toOption.join <;> rfl
  · rfl

/-- **What the loop leaves**: what the payload says about each symbol; it raises when reading one
of the positions does. -/
lemma readPositions_spec (range : FloatRange α) (clock : Clock) (positions : List (String × PyVal α)) :
    (∃ restored, readPositions range clock positions = .ok restored
        ∧ (∀ item ∈ positions, ∃ p, readPosition range clock item.1 item.2 = .ok p)
        ∧ ∀ symbol, restored.get? symbol = savedPosition range clock positions symbol)
      ∨ (∃ e, readPositions range clock positions = .error e)
        ∧ ∃ item ∈ positions, ∃ e, readPosition range clock item.1 item.2 = .error e := by
  induction positions using List.reverseRecOn with
  | nil => exact Or.inl ⟨∅, rfl, fun _ h => absurd h List.not_mem_nil, fun _ => rfl⟩
  | append_singleton positions item ih =>
      have hsnoc : readPositions range clock (positions ++ [item])
          = (readPositions range clock positions).bind fun restored => readOne range clock restored item := by
        rw [readPositions, List.foldlM_append]
        cases hfold : positions.foldlM (readOne range clock) ∅ with
        | error e =>
            rw [readPositions, hfold]
            rfl
        | ok restored =>
            rw [readPositions, hfold]
            exact bind_pure (readOne range clock restored item)
      rcases ih with ⟨restored, hread, hall, hget⟩ | ⟨⟨e, hread⟩, bad, hbad, hraises⟩
      · rw [hsnoc, hread]
        cases hitem : readPosition range clock item.1 item.2 with
        | error e =>
            refine Or.inr ⟨⟨e, ?_⟩, item, by simp, e, hitem⟩
            simp only [Except.bind, readOne, hitem]
            rfl
        | ok p =>
            have hall' : ∀ item' ∈ positions ++ [item],
                ∃ p, readPosition range clock item'.1 item'.2 = .ok p := by
              intro item' hmem
              rcases List.mem_append.mp hmem with hmem | hmem
              · exact hall item' hmem
              · rw [List.mem_singleton.mp hmem]
                exact ⟨p, hitem⟩
            cases p with
            | none =>
                refine Or.inl ⟨restored, ?_, hall', fun symbol => ?_⟩
                · simp only [Except.bind, readOne, hitem]
                  rfl
                · rw [savedPosition_snoc, hitem, hget]
                  split_ifs <;> rfl
            | some position =>
                refine Or.inl ⟨restored.set item.1 position, ?_, hall', fun symbol => ?_⟩
                · simp only [Except.bind, readOne, hitem]
                  rfl
                · rw [savedPosition_snoc, hitem, Dict.get?_set, hget]
                  split_ifs <;> rfl
      · rw [hsnoc, hread]
        exact Or.inr ⟨⟨e, rfl⟩, bad, List.mem_append_left _ hbad, hraises⟩

/-! ## Restoring -/

/-- A call that raises has left the positions and the realized total as they were. -/
def AllOrNothing (range : FloatRange α) (clock : Clock) (payload : PyVal α) (ledger : StampedLedger α) : Prop :=
  ∀ e ledger', (restoreSnapshotIn range clock payload).run ledger = .error e ledger' →
    ledger'.positions.Equiv ledger.positions ∧ ledger'.realizedPnlTotal = ledger.realizedPnlTotal

/-- The saved positions can be read and are not those of the ledger, and the saved total is
something that `float` refuses. -/
def HalfReadable (range : FloatRange α) (clock : Clock) (payload : PyVal α)
    (ledger : StampedLedger α) : Prop :=
  ∃ items positions, payload = .dict items
    ∧ (items.lookup "positions").getD (.dict []) = .dict positions
    ∧ (∀ item ∈ positions, ∃ p, readPosition range clock item.1 item.2 = .ok p)
    ∧ (∃ symbol, savedPosition range clock positions symbol ≠ ledger.positions.get? symbol)
    ∧ ∃ e, floatOrZeroIn range items "realized_pnl_total" = (.error e : Except PyError α)

/-- How a call can raise: before anything is replaced, or with the positions replaced. -/
lemma restoreSnapshotIn_leads (range : FloatRange α) (clock : Clock) (payload : PyVal α)
    (ledger : StampedLedger α) :
    Leads (restoreSnapshotIn range clock payload) ledger (fun _ _ => True) fun e ledger' =>
      ledger' = ledger ∨ ∃ items positions restored, payload = .dict items
        ∧ (items.lookup "positions").getD (.dict []) = .dict positions
        ∧ readPositions range clock positions = .ok restored
        ∧ floatOrZeroIn range items "realized_pnl_total" = (.error e : Except PyError α)
        ∧ ledger' = { ledger with positions := restored } := by
  cases payload with
  | dict items =>
      rw [restoreSnapshotIn]
      split
      · rename_i positions hpositions
        simp only [leads_bind, leads_lift, leads_modify]
        refine ⟨fun restored hread => ⟨fun _ _ => trivial, fun e htotal => ?_⟩, fun e _ => ?_⟩
        · exact Or.inr ⟨items, positions, restored, rfl, hpositions, hread, htotal, rfl⟩
        · exact Or.inl trivial
      · exact leads_pure.mpr trivial
  | _ => exact leads_pure.mpr trivial

/-- Such a call raises with the positions of the payload in place. -/
lemma HalfReadable.torn {payload : PyVal α} {ledger : StampedLedger α}
    (h : HalfReadable range clock payload ledger) : ¬ AllOrNothing range clock payload ledger := by
  intro hall
  obtain ⟨items, positions, rfl, hpositions, hreadable, ⟨symbol, hdiffers⟩, e, htotal⟩ := h
  rcases readPositions_spec range clock positions with
    ⟨restored, hread, -, hget⟩ | ⟨-, item, hmem, e, he⟩
  · have hrun : (restoreSnapshotIn range clock (.dict items)).run ledger
        = .error e { ledger with positions := restored } := by
      simp only [restoreSnapshotIn, hpositions, hread, htotal]
      rfl
    exact hdiffers ((hget symbol).symm.trans ((hall e _ hrun).1 symbol))
  · obtain ⟨p, hp⟩ := hreadable item hmem
    rw [hp] at he
    cases he

/-- Restoring is all-or-nothing exactly when it is not the total alone that cannot be read. -/
theorem restore_all_or_nothing_iff (range : FloatRange α) (clock : Clock) (payload : PyVal α)
    (ledger : StampedLedger α) :
    AllOrNothing range clock payload ledger ↔ ¬ HalfReadable range clock payload ledger := by
  constructor
  · exact fun hall hhalf => hhalf.torn hall
  · intro hnot e ledger' hrun
    rcases (restoreSnapshotIn_leads range clock payload ledger).error hrun with
      rfl | ⟨items, positions, restored, hpayload, hpositions, hread, htotal, rfl⟩
    · exact ⟨Dict.Equiv.refl _, rfl⟩
    · refine ⟨fun symbol => ?_, rfl⟩
      rcases readPositions_spec range clock positions with
        ⟨restored', hread', hall, hget⟩ | ⟨⟨e, he⟩, -⟩
      · rw [hread, Except.ok.injEq] at hread'
        subst hread'
        by_contra hdiffers
        refine hnot ⟨items, positions, hpayload, hpositions, hall, ⟨symbol, ?_⟩, e, htotal⟩
        rwa [← hget symbol]
      · rw [hread] at he
        cases he

/-- A clock that has stopped. -/
def stoppedClock : Clock := ⟨fun _ => ⟨10⟩, fun _ => none⟩

/-- One bitcoin, in a ledger that has made five. -/
def bitcoinLedger : StampedLedger ℚ :=
  { positions := Dict.ofList [("BTC/USDT", ⟨⟨"BTC/USDT", 1, 100, 0, 0⟩, ⟨3⟩⟩)], trades := []
    realizedPnlTotal := 5 }

/-- A snapshot whose total is a text. -/
def brokenTotal (positions : List (String × PyVal ℚ)) : PyVal ℚ :=
  .dict [("positions", .dict positions), ("realized_pnl_total", .str "n/a")]

/-- Restoring such a snapshot raises.  If it has no positions, the bitcoin is gone; if it has the
bitcoin, without the stamp, the bitcoin is stamped anew. -/
theorem restore_torn :
    ¬ AllOrNothing .exact stoppedClock (brokenTotal []) bitcoinLedger
      ∧ ¬ AllOrNothing .exact stoppedClock
        (brokenTotal [("BTC/USDT", .dict [("quantity", .int 1), ("average_entry", .int 100)])])
        bitcoinLedger := by
  constructor
  · intro hall
    have hkept := (hall _ _ rfl).1 "BTC/USDT"
    exact absurd hkept (by decide +kernel)
  · refine HalfReadable.torn ⟨_, _, rfl, rfl, ?_, ⟨"BTC/USDT", by decide +kernel⟩, _, rfl⟩
    intro item hitem
    rw [List.mem_singleton.mp hitem]
    exact ⟨_, rfl⟩

end PositionLedger

end Aegis
