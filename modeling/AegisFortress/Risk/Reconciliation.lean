import AegisFortress.Execution.ExchangeResponseNormalizer
import AegisFortress.Lib.Dict
import AegisFortress.Python.Value
import Mathlib.Data.Finset.Sort
import Mathlib.Data.String.Basic
import Mathlib.Tactic.Linarith

/-!
# Reconciliation with the exchange

`risk/reconciliation.py`.  `compare` lists the symbols whose quantities differ by more than a
tolerance; `normalizeExchangePositions` reads the quantities an exchange reports, in whatever shape.

`mismatch?_eq_some` is what `compare` says of one symbol, and `mem_symbols_compare` which symbols it
lists; `compare_reconciles` collects what holds for any two maps.
-/

namespace Aegis

/-- `PositionMismatch`. -/
structure PositionMismatch (α : Type) where
  symbol : String
  localQuantity : α
  exchangeQuantity : α
  difference : α
  relativeDifference : α
  severity : String

/-- `ReconciliationReport`, less the time of the check. -/
structure ReconciliationReport (α : Type) where
  mismatches : List (PositionMismatch α)

/-- The mismatch with its two sides exchanged. -/
def PositionMismatch.swapped (m : PositionMismatch ℚ) : PositionMismatch ℚ :=
  { m with
    localQuantity := m.exchangeQuantity
    exchangeQuantity := m.localQuantity
    difference := -m.difference }

namespace ReconciliationReport

variable {α : Type}

/-- `is_clean`. -/
def isClean (report : ReconciliationReport α) : Bool := report.mismatches.length = 0

/-- `critical_count()`. -/
def criticalCount (report : ReconciliationReport α) : ℕ :=
  (report.mismatches.filter fun item => item.severity = "CRITICAL").length

end ReconciliationReport

/-- `PositionReconciler`. -/
structure PositionReconciler (α : Type) where
  absoluteTolerance : α
  criticalRelativeDifference : α

namespace PositionReconciler

section Definitions

variable {α : Type} [Sub α] [Div α] [Neg α] [Zero α] [LT α] [LE α] [DecidableLT α] [DecidableLE α]

/-- `sorted(set(local_positions) | set(exchange_positions))`. -/
def symbols (localPositions exchangePositions : Dict String α) : List String :=
  (localPositions.keys.toFinset ∪ exchangePositions.keys.toFinset).sort

/-- `denominator`. -/
def denominator (reconciler : PositionReconciler α) (localQty exchangeQty : α) : α :=
  pyMax (pyMax (pyAbs localQty) (pyAbs exchangeQty)) reconciler.absoluteTolerance

/-- The body of the loop of `compare`; `none` where it continues with the next symbol. -/
def mismatch? (reconciler : PositionReconciler α) (symbol : String) (localQty exchangeQty : α) :
    Option (PositionMismatch α) :=
  let difference := exchangeQty - localQty
  if pyAbs difference ≤ reconciler.absoluteTolerance then none
  else
    let relativeDifference := pyAbs difference / reconciler.denominator localQty exchangeQty
    let severity :=
      if reconciler.criticalRelativeDifference ≤ relativeDifference then "CRITICAL" else "WARNING"
    some ⟨symbol, localQty, exchangeQty, difference, relativeDifference, severity⟩

/-- `compare(local_positions, exchange_positions)`. -/
def compare (reconciler : PositionReconciler α) (localPositions exchangePositions : Dict String α) :
    ReconciliationReport α :=
  ⟨(symbols localPositions exchangePositions).filterMap fun symbol =>
    reconciler.mismatch? symbol (localPositions.getD symbol 0) (exchangePositions.getD symbol 0)⟩

/-- `candidates`. -/
def CANDIDATES : List String := ["quantity", "size", "contracts", "positionAmt", "amount", "net"]

variable [DecidableEq α] [PyFloat α]

/-- `_extract_quantity(payload)`. -/
def extractQuantity (payload : PyVal α) : Option α :=
  match payload.number? with
  | some x => some x
  | none =>
      match payload with
      | .dict items =>
          CANDIDATES.findSome? fun key => ExchangeResponseNormalizer.readFloat (PyVal.get items key)
      | _ => none

/-- One payload of a list: the symbol it is about, and its quantity. -/
def entryOf (payload : PyVal α) : Option (String × α) :=
  match payload with
  | .dict items =>
      match ExchangeResponseNormalizer.firstTruthy items ["symbol", "pair"],
        extractQuantity payload with
      | some symbol, some quantity => some (symbol, quantity)
      | _, _ => none
  | _ => none

/-- `normalize_exchange_positions(raw_positions)`; a later entry of a key overwrites an earlier
one. -/
def normalizeExchangePositions (rawPositions : PyVal α) : Except PyError (Dict String α) :=
  match rawPositions with
  | .none => .ok ∅
  | .dict items =>
      if items.all fun e => e.2.number?.isSome then
        .ok (Dict.ofList (items.filterMap fun e => e.2.number?.map fun x => (e.1, x)))
      else .ok (Dict.ofList (items.filterMap fun e => (extractQuantity e.2).map fun x => (e.1, x)))
  | .list payloads => .ok (Dict.ofList (payloads.filterMap entryOf))
  | _ => .error ⟨.typeError, "Unsupported exchange positions payload"⟩

/-- `reconcile_with_exchange(exchange, local_positions)`, with what `fetch_positions` answers. -/
def reconcileWithExchange (reconciler : PositionReconciler α)
    (fetchPositions : Except PyError (PyVal α)) (localPositions : Dict String α) :
    Except PyError (ReconciliationReport α) := do
  let rawPositions ← fetchPositions
  let normalized ← normalizeExchangePositions rawPositions
  pure (reconciler.compare localPositions normalized)

end Definitions

/-! ## One symbol -/

variable {reconciler : PositionReconciler ℚ} {symbol : String} {localQty exchangeQty : ℚ}
  {localPositions exchangePositions : Dict String ℚ}

lemma denominator_rat (reconciler : PositionReconciler ℚ) (localQty exchangeQty : ℚ) :
    reconciler.denominator localQty exchangeQty
      = max (max |localQty| |exchangeQty|) reconciler.absoluteTolerance := by
  rw [denominator, pyMax_rat, pyMax_rat, pyAbs_rat, pyAbs_rat]

/-- Quantities that differ are not both zero. -/
lemma denominator_pos (htol : 0 ≤ reconciler.absoluteTolerance)
    (hdiff : reconciler.absoluteTolerance < |exchangeQty - localQty|) :
    0 < reconciler.denominator localQty exchangeQty := by
  rw [denominator_rat]
  by_cases hlocal : localQty = 0
  · have hexchange : 0 < |exchangeQty| := by
      rw [hlocal, sub_zero] at hdiff
      exact htol.trans_lt hdiff
    exact hexchange.trans_le ((le_max_right _ _).trans (le_max_left _ _))
  · exact (abs_pos.mpr hlocal).trans_le ((le_max_left _ _).trans (le_max_left _ _))

/-- The mismatch of a symbol that is listed. -/
def mismatchOf (reconciler : PositionReconciler ℚ) (symbol : String) (localQty exchangeQty : ℚ) :
    PositionMismatch ℚ where
  symbol := symbol
  localQuantity := localQty
  exchangeQuantity := exchangeQty
  difference := exchangeQty - localQty
  relativeDifference := |exchangeQty - localQty| / reconciler.denominator localQty exchangeQty
  severity :=
    if reconciler.criticalRelativeDifference
        ≤ |exchangeQty - localQty| / reconciler.denominator localQty exchangeQty then "CRITICAL"
    else "WARNING"

/-- **What is said of one symbol.** -/
lemma mismatch?_eq_some {m : PositionMismatch ℚ} :
    reconciler.mismatch? symbol localQty exchangeQty = some m
      ↔ reconciler.absoluteTolerance < |exchangeQty - localQty|
        ∧ m = reconciler.mismatchOf symbol localQty exchangeQty := by
  simp only [mismatch?, pyAbs_rat]
  by_cases hle : |exchangeQty - localQty| ≤ reconciler.absoluteTolerance
  · rw [if_pos hle]
    exact ⟨fun h => (by cases h), fun h => absurd hle (not_le.mpr h.1)⟩
  · rw [if_neg hle, Option.some.injEq]
    exact ⟨fun h => ⟨not_le.mp hle, h.symm⟩, fun h => h.2.symm⟩

/-- A difference as large as the larger quantity and the tolerance is critical. -/
lemma severity_critical (htol : 0 ≤ reconciler.absoluteTolerance)
    (hone : reconciler.criticalRelativeDifference ≤ 1)
    (hdiff : reconciler.absoluteTolerance < |exchangeQty - localQty|)
    (hlocal : |localQty| ≤ |exchangeQty - localQty|)
    (hexchange : |exchangeQty| ≤ |exchangeQty - localQty|) :
    (reconciler.mismatchOf symbol localQty exchangeQty).severity = "CRITICAL" := by
  have hpos := denominator_pos htol hdiff
  have hle : reconciler.denominator localQty exchangeQty ≤ |exchangeQty - localQty| := by
    rw [denominator_rat]
    exact max_le (max_le hlocal hexchange) hdiff.le
  exact if_pos (hone.trans ((one_le_div hpos).mpr hle))

lemma abs_sub_of_opposite (h : localQty * exchangeQty ≤ 0) :
    |localQty| ≤ |exchangeQty - localQty| ∧ |exchangeQty| ≤ |exchangeQty - localQty| := by
  rcases mul_nonpos_iff.mp h with ⟨hl, he⟩ | ⟨hl, he⟩
  · rw [abs_of_nonneg hl, abs_of_nonpos he, abs_of_nonpos (by linarith)]
    constructor <;> linarith
  · rw [abs_of_nonpos hl, abs_of_nonneg he, abs_of_nonneg (by linarith)]
    constructor <;> linarith

/-! ## The symbols listed -/

lemma mem_symbols : symbol ∈ symbols localPositions exchangePositions
    ↔ symbol ∈ localPositions.keys ∨ symbol ∈ exchangePositions.keys := by
  rw [symbols, Finset.mem_sort, Finset.mem_union, List.mem_toFinset, List.mem_toFinset]

/-- A symbol that is in neither map is held in neither place. -/
lemma mem_symbols_of_differ (htol : 0 ≤ reconciler.absoluteTolerance)
    (hdiff : reconciler.absoluteTolerance
      < |exchangePositions.getD symbol 0 - localPositions.getD symbol 0|) :
    symbol ∈ symbols localPositions exchangePositions := by
  by_contra hout
  rw [mem_symbols, not_or] at hout
  rw [Dict.getD, Dict.getD, Dict.get?_eq_none.mpr hout.1, Dict.get?_eq_none.mpr hout.2] at hdiff
  simp only [Option.getD_none, sub_zero, abs_zero] at hdiff
  exact absurd hdiff (not_lt.mpr htol)

/-- **What is listed.** -/
lemma mem_compare (htol : 0 ≤ reconciler.absoluteTolerance) {m : PositionMismatch ℚ} :
    m ∈ (reconciler.compare localPositions exchangePositions).mismatches
      ↔ reconciler.absoluteTolerance
          < |exchangePositions.getD m.symbol 0 - localPositions.getD m.symbol 0|
        ∧ m = reconciler.mismatchOf m.symbol (localPositions.getD m.symbol 0)
          (exchangePositions.getD m.symbol 0) := by
  rw [compare, List.mem_filterMap]
  constructor
  · rintro ⟨symbol, -, hm⟩
    obtain ⟨hdiff, rfl⟩ := mismatch?_eq_some.mp hm
    exact ⟨hdiff, rfl⟩
  · rintro ⟨hdiff, hm⟩
    exact ⟨m.symbol, mem_symbols_of_differ htol hdiff, mismatch?_eq_some.mpr ⟨hdiff, hm⟩⟩

lemma listed_of_differ (htol : 0 ≤ reconciler.absoluteTolerance)
    (hdiff : reconciler.absoluteTolerance
      < |exchangePositions.getD symbol 0 - localPositions.getD symbol 0|) :
    reconciler.mismatchOf symbol (localPositions.getD symbol 0) (exchangePositions.getD symbol 0)
      ∈ (reconciler.compare localPositions exchangePositions).mismatches :=
  (mem_compare htol).mpr ⟨hdiff, rfl⟩

lemma mem_symbols_compare (htol : 0 ≤ reconciler.absoluteTolerance) :
    symbol ∈ (reconciler.compare localPositions exchangePositions).mismatches.map
        PositionMismatch.symbol
      ↔ reconciler.absoluteTolerance
        < |exchangePositions.getD symbol 0 - localPositions.getD symbol 0| := by
  rw [List.mem_map]
  constructor
  · rintro ⟨m, hm, rfl⟩
    exact ((mem_compare htol).mp hm).1
  · exact fun hdiff => ⟨_, listed_of_differ htol hdiff, rfl⟩

/-- The symbols are listed in order, each of them once. -/
lemma compare_sorted (reconciler : PositionReconciler ℚ)
    (localPositions exchangePositions : Dict String ℚ) :
    ((reconciler.compare localPositions exchangePositions).mismatches.map
      PositionMismatch.symbol).Pairwise (· < ·) := by
  have hsorted : (symbols localPositions exchangePositions).Pairwise (· < ·) :=
    (Finset.sortedLT_sort _).pairwise
  rw [compare, List.pairwise_map]
  refine List.Pairwise.filterMap _ (fun symbol symbol' hlt m hm m' hm' => ?_) hsorted
  obtain ⟨-, rfl⟩ := mismatch?_eq_some.mp hm
  obtain ⟨-, rfl⟩ := mismatch?_eq_some.mp hm'
  exact hlt

/-- Exchanging the two maps exchanges the two sides of every mismatch. -/
lemma compare_swapped (reconciler : PositionReconciler ℚ)
    (localPositions exchangePositions : Dict String ℚ) :
    (reconciler.compare exchangePositions localPositions).mismatches
      = (reconciler.compare localPositions exchangePositions).mismatches.map
        PositionMismatch.swapped := by
  have hsymbols : symbols exchangePositions localPositions
      = symbols localPositions exchangePositions := by
    rw [symbols, symbols, Finset.union_comm]
  rw [compare, compare, hsymbols, List.map_filterMap]
  refine List.filterMap_congr fun symbol _ => ?_
  generalize localPositions.getD symbol 0 = l
  generalize exchangePositions.getD symbol 0 = e
  have hdenominator : reconciler.denominator e l = reconciler.denominator l e := by
    rw [denominator_rat, denominator_rat, max_comm |e|]
  refine Option.ext fun m => ?_
  rw [mismatch?_eq_some, abs_sub_comm, Option.map_eq_some_iff]
  constructor
  · rintro ⟨hdiff, rfl⟩
    refine ⟨_, mismatch?_eq_some.mpr ⟨hdiff, rfl⟩, ?_⟩
    simp only [PositionMismatch.swapped, mismatchOf, neg_sub, hdenominator, abs_sub_comm l e]
  · rintro ⟨m, hm, rfl⟩
    obtain ⟨hdiff, rfl⟩ := mismatch?_eq_some.mp hm
    refine ⟨hdiff, ?_⟩
    simp only [PositionMismatch.swapped, mismatchOf, neg_sub, hdenominator, abs_sub_comm l e]

/-- For any two maps: the symbols whose quantities differ by more than the tolerance are listed,
once each and in order; exchanging the maps exchanges the sides; what is held on one side only, or
with opposite signs, is critical; and no denominator is zero. -/
theorem compare_reconciles (reconciler : PositionReconciler ℚ)
    (htol : 0 ≤ reconciler.absoluteTolerance)
    (hone : reconciler.criticalRelativeDifference ≤ 1)
    (localPositions exchangePositions : Dict String ℚ) :
    let listed := (reconciler.compare localPositions exchangePositions).mismatches
    (listed.map PositionMismatch.symbol).Pairwise (· < ·)
      ∧ (∀ symbol, symbol ∈ listed.map PositionMismatch.symbol ↔ reconciler.absoluteTolerance
        < |exchangePositions.getD symbol 0 - localPositions.getD symbol 0|)
      ∧ (reconciler.compare exchangePositions localPositions).mismatches
        = listed.map PositionMismatch.swapped
      ∧ (∀ m ∈ listed, localPositions.getD m.symbol 0 * exchangePositions.getD m.symbol 0 ≤ 0 →
        m.severity = "CRITICAL")
      ∧ (∀ symbol, localPositions.getD symbol 0 * exchangePositions.getD symbol 0 ≤ 0 →
        reconciler.absoluteTolerance
          < max |localPositions.getD symbol 0| |exchangePositions.getD symbol 0| →
        ∃ m ∈ listed, m.symbol = symbol ∧ m.severity = "CRITICAL")
      ∧ ∀ symbol, reconciler.absoluteTolerance
          < |exchangePositions.getD symbol 0 - localPositions.getD symbol 0| →
        0 < reconciler.denominator (localPositions.getD symbol 0)
          (exchangePositions.getD symbol 0) := by
  intro listed
  have hcritical : ∀ m ∈ listed,
      localPositions.getD m.symbol 0 * exchangePositions.getD m.symbol 0 ≤ 0 →
        m.severity = "CRITICAL" := by
    intro m hm hopposite
    obtain ⟨hdiff, hmismatch⟩ := (mem_compare htol).mp hm
    obtain ⟨hlocal, hexchange⟩ := abs_sub_of_opposite hopposite
    rw [hmismatch]
    exact severity_critical htol hone hdiff hlocal hexchange
  refine ⟨compare_sorted _ _ _, fun symbol => mem_symbols_compare htol, compare_swapped _ _ _,
    hcritical, fun symbol hopposite hlarge => ?_, fun symbol hdiff => denominator_pos htol hdiff⟩
  obtain ⟨hlocal, hexchange⟩ := abs_sub_of_opposite hopposite
  have hlisted := listed_of_differ htol (hlarge.trans_le (max_le hlocal hexchange))
  exact ⟨_, hlisted, rfl, hcritical _ hlisted hopposite⟩

/-- `PositionReconciler()`. -/
def defaultReconciler : PositionReconciler ℚ := ⟨1 / 10 ^ 8, 1 / 5⟩

/-- A bitcoin that the exchange knows nothing of. -/
theorem compare_reconciles_missing :
    ∃ m ∈ (defaultReconciler.compare (Dict.ofList [("BTC/USDT", 1)]) ∅).mismatches,
      m.symbol = "BTC/USDT" ∧ m.severity = "CRITICAL" :=
  (compare_reconciles defaultReconciler (by decide +kernel) (by decide +kernel)
    (Dict.ofList [("BTC/USDT", 1)]) ∅).2.2.2.2.1 "BTC/USDT" (by decide +kernel) (by decide +kernel)

/-! ## Several entries of one symbol -/

/-- What the entries of one symbol say, in the order in which they come. -/
def quantitiesOf (payloads : List (PyVal ℚ)) (symbol : String) : List ℚ :=
  ((payloads.filterMap entryOf).filter fun e => e.1 = symbol).map Prod.snd

/-- A list with several entries of a symbol is normalized to the last of them. -/
lemma get?_normalized (payloads : List (PyVal ℚ)) (symbol : String) :
    (Dict.ofList (payloads.filterMap entryOf)).get? symbol
      = (quantitiesOf payloads symbol).getLast? := by
  have hlast := Dict.get?_ofList Prod.fst Prod.snd (payloads.filterMap entryOf) symbol
  rw [show ((payloads.filterMap entryOf).map fun e => (e.1, e.2)) = payloads.filterMap entryOf from
    List.map_id _] at hlast
  rw [hlast, quantitiesOf, List.getLast?_map, Dict.lastOf, List.getLast?_eq_head?_reverse,
    ← List.filter_reverse, List.head?_filter]

/-- Each symbol is mapped to the sum of what its entries say. -/
def Aggregates (payloads : List (PyVal ℚ)) (normalized : Dict String ℚ) : Prop :=
  ∀ symbol, normalized.get? symbol
    = if quantitiesOf payloads symbol = [] then none else some (quantitiesOf payloads symbol).sum

/-- The entries of a symbol before its last one sum to zero; so they do when there is one entry. -/
def LastCounts (payloads : List (PyVal ℚ)) (symbol : String) : Prop :=
  (quantitiesOf payloads symbol).dropLast.sum = 0

lemma aggregates_iff (payloads : List (PyVal ℚ)) :
    Aggregates payloads (Dict.ofList (payloads.filterMap entryOf))
      ↔ ∀ symbol, LastCounts payloads symbol := by
  refine forall_congr' fun symbol => ?_
  rw [get?_normalized, LastCounts]
  rcases (quantitiesOf payloads symbol).eq_nil_or_concat with hnil | ⟨earlier, last, hlist⟩
  · simp [hnil]
  · rw [hlist, List.concat_eq_append, List.getLast?_concat, if_neg (by simp), Option.some.injEq,
      List.dropLast_concat, List.sum_append, List.sum_singleton]
    constructor <;> intro h <;> linarith

/-- A report is clean when no quantity is off by more than the tolerance. -/
lemma isClean_compare (htol : 0 ≤ reconciler.absoluteTolerance) :
    (reconciler.compare localPositions exchangePositions).isClean = true
      ↔ ∀ symbol, |exchangePositions.getD symbol 0 - localPositions.getD symbol 0|
        ≤ reconciler.absoluteTolerance := by
  rw [ReconciliationReport.isClean, decide_eq_true_eq, List.length_eq_zero_iff]
  constructor
  · intro hnil symbol
    by_contra hdiff
    have hlisted := listed_of_differ htol (not_le.mp hdiff)
    rw [hnil] at hlisted
    exact List.not_mem_nil hlisted
  · intro hall
    refine List.eq_nil_iff_forall_not_mem.mpr fun m hm => ?_
    exact absurd ((mem_compare htol).mp hm).1 (not_lt.mpr (hall m.symbol))

/-- The positions of the list are aggregated, and a ledger that holds the sums reconciles. -/
def AggregatedClean (payloads : List (PyVal ℚ)) : Prop :=
  ∃ normalized, normalizeExchangePositions (.list payloads) = .ok normalized
    ∧ Aggregates payloads normalized
    ∧ ∀ (reconciler : PositionReconciler ℚ) (localPositions : Dict String ℚ),
      0 ≤ reconciler.absoluteTolerance →
      (∀ symbol, localPositions.getD symbol 0 = (quantitiesOf payloads symbol).sum) →
      ∃ report, reconciler.reconcileWithExchange (.ok (.list payloads)) localPositions = .ok report
        ∧ report.isClean = true

/-- A list of positions is aggregated exactly when, for each symbol, what comes before its last
entry sums to zero. -/
theorem positions_aggregated_iff (payloads : List (PyVal ℚ)) :
    AggregatedClean payloads ↔ ∀ symbol, LastCounts payloads symbol := by
  constructor
  · rintro ⟨normalized, hnormalized, haggregates, -⟩
    cases hnormalized
    exact (aggregates_iff payloads).mp haggregates
  · intro hlast
    have haggregates := (aggregates_iff payloads).mpr hlast
    refine ⟨_, rfl, haggregates, fun reconciler localPositions htol hlocal => ⟨_, rfl, ?_⟩⟩
    refine (isClean_compare htol).mpr fun symbol => ?_
    have hsum : (Dict.ofList (payloads.filterMap entryOf)).getD symbol 0
        = (quantitiesOf payloads symbol).sum := by
      rw [Dict.getD, haggregates symbol]
      split_ifs with hnil
      · rw [hnil, List.sum_nil, Option.getD_none]
      · rfl
    rw [hsum, hlocal, sub_self, abs_zero]
    exact htol

/-- A hedged position: two bitcoins long, half of one short. -/
def hedged : List (PyVal ℚ) :=
  [.dict [("symbol", .str "BTC/USDT"), ("positionAmt", .float 2)],
    .dict [("symbol", .str "BTC/USDT"), ("positionAmt", .float (-1 / 2))]]

/-- Only its short side is kept. -/
theorem hedge_overwritten : ¬ AggregatedClean hedged ∧ ∃ normalized,
    normalizeExchangePositions (.list hedged) = .ok normalized
      ∧ normalized.get? "BTC/USDT" = some (-1 / 2) := by
  refine ⟨?_, _, rfl, by decide +kernel⟩
  rintro ⟨normalized, hnormalized, haggregates, -⟩
  cases hnormalized
  have hsum := haggregates "BTC/USDT"
  exact absurd hsum (by decide +kernel)

end PositionReconciler

end Aegis
