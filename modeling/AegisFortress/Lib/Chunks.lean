import Mathlib.Data.List.Basic
import Mathlib.Data.List.Range

/-!
# Pieces of a fixed length

A list cut every `n` elements, the last piece as long as what is left.  The pieces are what was cut
(`flatten_chunks`), none is empty and none longer than `n` (`length_chunk`).
-/

namespace Chunks

variable {α : Type}

/-- `[l[i : i + n] for i in range(0, len(l), n)]`. -/
def chunks (n : ℕ) (l : List α) : List (List α) :=
  (List.range' 0 ((l.length + n - 1) / n) n).map fun i => (l.drop i).take n

variable {n : ℕ} {l chunk : List α}

/-- The first pieces are the beginning of the list. -/
lemma flatten_first (n count : ℕ) (l : List α) :
    ((List.range' 0 count n).map fun i => (l.drop i).take n).flatten = l.take (n * count) := by
  induction count with
  | zero => simp
  | succ count ih =>
      rw [List.range'_concat, List.map_append, List.flatten_append, ih, Nat.mul_succ, List.take_add]
      simp

theorem flatten_chunks (hn : 0 < n) (l : List α) : (chunks n l).flatten = l := by
  rw [chunks, flatten_first]
  refine List.take_of_length_le ?_
  have hlast : (l.length + n - 1) % n < n := Nat.mod_lt _ hn
  have hsplit := Nat.div_add_mod (l.length + n - 1) n
  omega

theorem length_chunk (hn : 0 < n) (h : chunk ∈ chunks n l) : 0 < chunk.length ∧ chunk.length ≤ n := by
  obtain ⟨i, hi, rfl⟩ := List.mem_map.mp h
  obtain ⟨j, hj, rfl⟩ := List.mem_range'.mp hi
  have hbelow : n * (j + 1) ≤ l.length + n - 1 := by
    rw [Nat.mul_comm]
    exact (Nat.le_div_iff_mul_le hn).mp hj
  rw [Nat.mul_succ] at hbelow
  rw [List.length_take, List.length_drop]
  omega

end Chunks
