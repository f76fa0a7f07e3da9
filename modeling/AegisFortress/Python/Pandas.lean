import AegisFortress.Lib.Causal
import AegisFortress.Lib.WithNan
import AegisFortress.Python.Value

/-!
# Columns of pandas

What the indicators call from pandas and numpy, as it is documented: a window of `rolling` has a value when
enough of its entries are numbers, an `ewm` without adjustment is a recursion from its first entry, a
`shift` delays.  All of them are causal (`Causal.Column`).
-/

namespace Aegis

open Causal WithNan

/-- What is called from pandas and numpy. -/
structure PandasLib (α : Type) where
  /-- `pd.to_numeric(x, errors="coerce")` of a cell. -/
  toNumeric : PyVal α → WithNan α
  sqrt : α → α

namespace Pandas

section Definitions

variable {α : Type} [Add α] [Sub α] [Mul α] [Div α] [Neg α] [Zero α] [One α] [LT α] [LE α]
  [DecidableLT α] [DecidableLE α] [DecidableEq α] [PyFloat α]

/-- The numbers of a window; `none` when one is missing. -/
def numbers : List (WithNan α) → Option (List α)
  | [] => some []
  | nan :: _ => none
  | num x :: rest => (numbers rest).map fun xs => x :: xs

/-- `rolling(window)` and an aggregate. -/
def rollingNumbers (window : ℕ) (f : List α → α) : List (WithNan α) → List (WithNan α) :=
  rolling window fun entries =>
    if entries.length < window ∨ entries = [] then nan
    else match numbers entries with
      | some xs => num (f xs)
      | none => nan

/-- `mean()`. -/
def mean (xs : List α) : α := xs.foldl (· + ·) 0 / PyFloat.ofRat xs.length

/-- `min()`. -/
def minimum : List α → α
  | [] => 0
  | x :: rest => rest.foldl pyMin x

/-- `max()`. -/
def maximum : List α → α
  | [] => 0
  | x :: rest => rest.foldl pyMax x

/-- `std(ddof=0)`. -/
def populationStd (pandas : PandasLib α) (xs : List α) : α :=
  pandas.sqrt (mean (xs.map fun x => (x - mean xs) * (x - mean xs)))

/-- `ewm(span=span, adjust=False).mean()`. -/
def ewm (span : ℕ) : List α → List α :=
  let smoothing : α := PyFloat.ofRat (2 / (span + 1))
  scan (fun x => x) fun last x => (1 - smoothing) * last + smoothing * x

/-! ## Columns with missing entries -/

def toNumber? : WithNan α → Option α
  | nan => none
  | num x => some x

/-- An aggregate of numbers, where there are enough of them. -/
def aggregate (minPeriods : ℕ) (f : List α → α) (entries : List (WithNan α)) : WithNan α :=
  let xs := entries.filterMap toNumber?
  if xs.length < minPeriods ∨ xs = [] then nan else num (f xs)

/-- `rolling(window, min_periods=minPeriods)` and an aggregate. -/
def rollingMin (window minPeriods : ℕ) (f : List α → α) : List (WithNan α) → List (WithNan α) :=
  rolling window (aggregate minPeriods f)

/-- `rolling(window).std()`; one entry has no deviation. -/
def rollingStd (sqrt : α → α) (window : ℕ) : List (WithNan α) → List (WithNan α) :=
  rollingMin window (max window 2) fun xs =>
    sqrt ((xs.map fun x => (x - mean xs) * (x - mean xs)).foldl (· + ·) 0
      / PyFloat.ofRat (xs.length - 1))

/-- One step of `ewm`: it starts at the first number. -/
def ewmStep (smoothing : α) : WithNan α → WithNan α → WithNan α
  | nan, x => x
  | last, nan => last
  | num last, num x => num ((1 - smoothing) * last + smoothing * x)

/-- `ewm(alpha=alpha, adjust=False).mean()` of a column with no entry missing after its first number. -/
def ewmAlpha (alpha : ℚ) : List (WithNan α) → List (WithNan α) :=
  scan (fun x => x) (ewmStep (PyFloat.ofRat alpha))

/-- `ewm(span=span, adjust=False).mean()`. -/
def ewmSpan (span : ℕ) : List (WithNan α) → List (WithNan α) := ewmAlpha (2 / (span + 1))

/-- `diff()`. -/
def diff (column : List (WithNan α)) : List (WithNan α) :=
  List.zipWith (· - ·) column (shift nan column)

/-- `shift(n)`. -/
def shiftBy (n : ℕ) : List (WithNan α) → List (WithNan α) := (shift nan)^[n]

/-- `clip(lower=lower)` of an entry. -/
def clip (lower : α) : WithNan α → WithNan α
  | nan => nan
  | num x => num (pyMax lower x)

/-- `replace(0, x)` of an entry. -/
def replaceZero (x : WithNan α) : WithNan α → WithNan α
  | nan => nan
  | num y => if y = 0 then x else num y

/-- `abs()` of an entry. -/
def absolute : WithNan α → WithNan α
  | nan => nan
  | num x => num (pyAbs x)

/-- `max(axis=1)` of a row. -/
def rowMax : List (WithNan α) → WithNan α := aggregate 1 maximum

/-- `min(axis=1)` of a row. -/
def rowMin : List (WithNan α) → WithNan α := aggregate 1 minimum

end Definitions

end Pandas

/-- `column.iloc[-n]`. -/
def iloc {β : Type} (n : ℕ) (column : List β) : Except PyError β :=
  match fromEnd n column with
  | some entry => .ok entry
  | none => .error ⟨.other, "single positional indexer is out-of-bounds"⟩

/-! ## They do not look ahead -/

section Columns

open Pandas

variable {α : Type}

lemma column_rollingNumbers (window : ℕ) (f : List α → α) : Column (rollingNumbers window f) :=
  column_rolling window _

lemma column_rollingMin (window minPeriods : ℕ) (f : List α → α) :
    Column (rollingMin window minPeriods f) := column_rolling window _

lemma column_shiftBy (n : ℕ) : Column (shiftBy (α := α) n) := by
  induction n with
  | zero => exact column_id
  | succ n ih => exact ih.comp (column_shift nan)

variable [Sub α]

lemma column_diff : Column (diff (α := α)) := column_id.zipWith (column_shift nan) _

variable [Add α] [Mul α] [PyFloat α]

lemma column_rollingStd [Div α] [Zero α] (sqrt : α → α) (window : ℕ) :
    Column (rollingStd sqrt window) := column_rolling window _

variable [One α]

lemma column_ewm (span : ℕ) : Column (ewm (α := α) span) := column_scan _ _

lemma column_ewmAlpha (alpha : ℚ) : Column (ewmAlpha (α := α) alpha) := column_scan _ _

lemma column_ewmSpan (span : ℕ) : Column (ewmSpan (α := α) span) := column_ewmAlpha _

/-- The row before the last, and those before it, do not depend on what the last is. -/
lemma iloc_eq {β γ : Type} {F : List β → List γ} (h : Column F) (rows : List β) (last last' : β)
    (n : ℕ) : iloc (n + 2) (F (rows ++ [last])) = iloc (n + 2) (F (rows ++ [last'])) := by
  rw [iloc, iloc, h.fromEnd_eq rows last last' n]

end Columns

end Aegis
