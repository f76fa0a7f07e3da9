import Mathlib.Data.List.DropRight
import Mathlib.Data.List.Induction

/-!
# Columns that do not look ahead

A column is computed from a list of rows, one entry a row.  It is `Causal` when one more row adds one
more entry and changes none of those before.  Windows that slide (`rolling`), recursions along the
rows (`scan`) and delays (`shift`) are causal, and so is what is computed entry by entry from causal
columns.

`Causal.fromEnd_eq` is what this is for: read from the end, past the last row, a causal column does not
depend on what the last row is.
-/

namespace Causal

variable {α β γ δ : Type}

/-! ## Columns -/

/-- The last `w` rows at each row, fewer where there are none. -/
def rolling (w : ℕ) (f : List α → β) (rows : List α) : List β :=
  (List.range rows.length).map fun i => f ((rows.take (i + 1)).rtake w)

/-- The entries along a recursion. -/
def scanFrom (step : β → α → β) (last : β) : List α → List β
  | [] => []
  | row :: rest => step last row :: scanFrom step (step last row) rest

/-- A recursion that the first row starts. -/
def scan (first : α → β) (step : β → α → β) : List α → List β
  | [] => []
  | row :: rest => first row :: scanFrom step (first row) rest

/-- Every entry one row later. -/
def shift (missing : α) (entries : List α) : List α := (missing :: entries).dropLast

/-- `l[-n]`. -/
def fromEnd (n : ℕ) (l : List α) : Option α := l.reverse[n - 1]?

/-! ## What is causal -/

/-- One more row adds one more entry. -/
structure Column (column : List α → List β) : Prop where
  nil : column [] = []
  snoc : ∀ rows row, ∃ entry, column (rows ++ [row]) = column rows ++ [entry]

variable {F : List α → List β} {G : List α → List γ}

lemma Column.length (h : Column F) (rows : List α) : (F rows).length = rows.length := by
  induction rows using List.reverseRecOn with
  | nil => rw [h.nil, List.length_nil, List.length_nil]
  | append_singleton rows row ih =>
      obtain ⟨entry, hsnoc⟩ := h.snoc rows row
      rw [hsnoc, List.length_append, List.length_append, ih, List.length_singleton,
        List.length_singleton]

/-- The rows themselves. -/
lemma column_id : Column fun rows : List α => rows := ⟨rfl, fun _ row => ⟨row, rfl⟩⟩

lemma column_map (f : α → β) : Column (List.map f) := by
  refine ⟨rfl, fun rows row => ⟨f row, ?_⟩⟩
  rw [List.map_append, List.map_singleton]

/-- A column of a column. -/
lemma Column.comp {H : List β → List γ} (hH : Column H) (hF : Column F) :
    Column fun rows => H (F rows) := by
  refine ⟨by rw [hF.nil, hH.nil], fun rows row => ?_⟩
  obtain ⟨entry, hsnoc⟩ := hF.snoc rows row
  rw [hsnoc]
  exact hH.snoc (F rows) entry

lemma Column.map (hF : Column F) (f : β → γ) : Column fun rows => (F rows).map f :=
  (column_map f).comp hF

/-- Two columns, entry by entry. -/
lemma Column.zipWith (hF : Column F) (hG : Column G) (f : β → γ → δ) :
    Column fun rows => List.zipWith f (F rows) (G rows) := by
  refine ⟨by rw [hF.nil, List.zipWith_nil_left], fun rows row => ?_⟩
  obtain ⟨b, hb⟩ := hF.snoc rows row
  obtain ⟨c, hc⟩ := hG.snoc rows row
  refine ⟨f b c, ?_⟩
  rw [hb, hc, List.zipWith_append (by rw [hF.length, hG.length])]
  rfl

lemma column_rolling (w : ℕ) (f : List α → β) : Column (rolling w f) := by
  refine ⟨rfl, fun rows row => ⟨f ((rows ++ [row]).rtake w), ?_⟩⟩
  rw [rolling, List.length_append, List.length_singleton, List.range_succ, List.map_append,
    List.map_singleton, rolling]
  congr 1
  · refine List.map_congr_left fun i hi => ?_
    rw [List.take_append_of_le_length (Nat.succ_le_of_lt (List.mem_range.mp hi))]
  · rw [List.take_of_length_le (by simp)]

lemma scanFrom_snoc (step : β → α → β) (last : β) (rows : List α) (row : α) :
    ∃ entry, scanFrom step last (rows ++ [row]) = scanFrom step last rows ++ [entry] := by
  induction rows generalizing last with
  | nil => exact ⟨step last row, rfl⟩
  | cons first rest ih =>
      obtain ⟨entry, hsnoc⟩ := ih (step last first)
      exact ⟨entry, by rw [List.cons_append, scanFrom, hsnoc, scanFrom, List.cons_append]⟩

lemma column_scan (first : α → β) (step : β → α → β) : Column (scan first step) := by
  refine ⟨rfl, fun rows row => ?_⟩
  cases rows with
  | nil => exact ⟨first row, rfl⟩
  | cons start rest =>
      obtain ⟨entry, hsnoc⟩ := scanFrom_snoc step (first start) rest row
      exact ⟨entry, by rw [List.cons_append, scan, hsnoc, scan, List.cons_append]⟩

lemma column_shift (missing : α) : Column (shift missing) := by
  refine ⟨rfl, fun rows row => ?_⟩
  refine ⟨(missing :: rows).getLast (List.cons_ne_nil missing rows), ?_⟩
  rw [shift, shift, ← List.cons_append, List.dropLast_concat,
    List.dropLast_append_getLast (List.cons_ne_nil missing rows)]

/-! ## Past the last row -/

lemma fromEnd_snoc (l : List α) (x : α) (n : ℕ) : fromEnd (n + 2) (l ++ [x]) = fromEnd (n + 1) l := by
  rw [fromEnd, fromEnd, List.reverse_append, List.reverse_singleton, List.singleton_append]
  rfl

/-- **No look-ahead**: what the last row is makes no difference past it. -/
theorem Column.fromEnd_eq (h : Column F) (rows : List α) (a b : α) (n : ℕ) :
    fromEnd (n + 2) (F (rows ++ [a])) = fromEnd (n + 2) (F (rows ++ [b])) := by
  obtain ⟨entry, ha⟩ := h.snoc rows a
  obtain ⟨entry', hb⟩ := h.snoc rows b
  rw [ha, hb, fromEnd_snoc, fromEnd_snoc]

end Causal
