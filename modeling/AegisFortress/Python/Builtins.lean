import AegisFortress.Python.Value
import Mathlib.Tactic.Linarith
import Mathlib.Tactic.FieldSimp

/-!
# Rounding, texts and the environment

`round`, `str.split` and `os.getenv`, as the strategies use them.
-/

namespace Aegis

/-! ## Rounding -/

/-- Floats that can be rounded to a number of decimals. -/
class PyRound (α : Type) where
  /-- `round(x, n)`. -/
  round : ℕ → α → α

/-- `round(x, n)` of an exact `x`: halves to the even neighbour, on both sides of zero. -/
def roundRat (n : ℕ) (x : ℚ) : ℚ :=
  let scaled : ℚ := roundHalfEven ((if x < 0 then -x else x) * 10 ^ n)
  (if x < 0 then -scaled else scaled) / 10 ^ n

instance : PyRound ℚ := ⟨roundRat⟩

example : roundRat 2 (-1 / 8) = -3 / 25 := by decide +kernel

lemma toNat_floor_le {x : ℚ} (hx : 0 ≤ x) :
    ((⌊x⌋.toNat : ℕ) : ℚ) ≤ x ∧ x < ((⌊x⌋.toNat : ℕ) : ℚ) + 1 := by
  have hfloor : ((⌊x⌋.toNat : ℕ) : ℚ) = ⌊x⌋ := by
    have hnat : ((⌊x⌋.toNat : ℕ) : ℤ) = ⌊x⌋ := Int.toNat_of_nonneg (Int.floor_nonneg.mpr hx)
    exact_mod_cast hnat
  rw [hfloor]
  exact ⟨Int.floor_le x, Int.lt_floor_add_one x⟩

lemma roundHalfEven_near {x : ℚ} (hx : 0 ≤ x) : |(roundHalfEven x : ℚ) - x| ≤ 1 / 2 := by
  obtain ⟨hle, hlt⟩ := toNat_floor_le hx
  simp only [roundHalfEven]
  rw [abs_le]
  split_ifs with hdown hup
  · constructor <;> linarith
  · push_cast
    constructor <;> linarith
  · constructor <;> linarith
  · push_cast
    constructor <;> linarith

/-- Which numbers are rounded to `n` or less. -/
lemma roundHalfEven_le_iff {x : ℚ} (hx : 0 ≤ x) (n : ℕ) :
    roundHalfEven x ≤ n ↔ x < n + 1 / 2 ∨ x = n + 1 / 2 ∧ n % 2 = 0 := by
  obtain ⟨hle, hlt⟩ := toNat_floor_le hx
  simp only [roundHalfEven]
  generalize ⌊x⌋.toNat = f at hle hlt ⊢
  -- between two whole numbers only the comparison of `f` with `n` is left
  have hbelow : f ≤ n → (f : ℚ) ≤ n := fun h => Nat.cast_le.mpr h
  have habove : n + 1 ≤ f → (n : ℚ) + 1 ≤ f := fun h => by exact_mod_cast h
  have hstrict : f + 1 ≤ n → (f : ℚ) + 1 ≤ n := fun h => by exact_mod_cast h
  rcases Nat.lt_trichotomy f n with hfn | rfl | hfn
  · have hcast := hstrict hfn
    have hleft : x < n + 1 / 2 := by linarith
    simp only [hleft, true_or, iff_true]
    split_ifs
    · exact hfn.le
    · exact hfn
    · exact hfn.le
    · exact hfn
  · split_ifs with hdown hup heven
    · simp only [le_refl, true_iff]
      left
      linarith
    · simp only [Nat.succ_le_iff, lt_irrefl, false_iff, not_or, not_and]
      exact ⟨by linarith, fun h => absurd h (by linarith)⟩
    · simp only [le_refl, heven, and_true, true_iff]
      exact lt_or_eq_of_le (by linarith)
    · simp only [Nat.succ_le_iff, lt_irrefl, heven, and_false, or_false, false_iff, not_lt]
      linarith
  · have hcast := habove hfn
    have hright : ¬ (x < n + 1 / 2 ∨ x = n + 1 / 2 ∧ n % 2 = 0) := by
      rintro (h | ⟨h, -⟩) <;> linarith
    simp only [hright, iff_false, not_le]
    split_ifs <;> omega

/-- Which numbers are rounded to `n` or more. -/
lemma le_roundHalfEven_iff {x : ℚ} (hx : 0 ≤ x) {n : ℕ} (hn : 0 < n) :
    n ≤ roundHalfEven x ↔ (n : ℚ) - 1 / 2 < x ∨ x = n - 1 / 2 ∧ n % 2 = 0 := by
  obtain ⟨m, rfl⟩ : ∃ m, n = m + 1 := ⟨n - 1, by omega⟩
  rw [Nat.succ_le_iff, ← not_le, roundHalfEven_le_iff hx m]
  have hparity : (m + 1) % 2 = 0 ↔ ¬ m % 2 = 0 := by omega
  rw [hparity]
  push_cast
  constructor
  · intro h
    rw [not_or, not_lt, not_and] at h
    rcases h.1.lt_or_eq with hlt | heq
    · left
      linarith
    · exact Or.inr ⟨by linarith, h.2 heq.symm⟩
  · rintro (h | ⟨h, hodd⟩) hle
    · rcases hle with hle | ⟨hle, -⟩ <;> linarith
    · rcases hle with hle | ⟨-, heven⟩
      · linarith
      · exact hodd heven

/-- Rounding moves a number by half a unit of the last decimal at most. -/
lemma roundRat_near (n : ℕ) (x : ℚ) : |roundRat n x - x| ≤ 1 / (2 * 10 ^ n) := by
  have hunit : (0 : ℚ) < 10 ^ n := by positivity
  have hnear := roundHalfEven_near
    (mul_nonneg (show (0 : ℚ) ≤ if x < 0 then -x else x by split_ifs <;> linarith) hunit.le)
  simp only [roundRat]
  have hscale : ∀ r y : ℚ, |r - y * 10 ^ n| ≤ 1 / 2 → |r / 10 ^ n - y| ≤ 1 / (2 * 10 ^ n) := by
    intro r y h
    have hsplit : r / 10 ^ n - y = (r - y * 10 ^ n) / 10 ^ n := by field_simp
    rw [hsplit, abs_div, abs_of_pos hunit, div_le_div_iff₀ hunit (by positivity)]
    linarith [mul_le_mul_of_nonneg_right h hunit.le]
  split_ifs at hnear ⊢ with hneg
  · have hflip : ∀ r : ℚ, -r / 10 ^ n - x = -(r / 10 ^ n - -x) := fun r => by ring
    rw [hflip, abs_neg]
    exact hscale _ _ hnear
  · exact hscale _ _ hnear

/-! ## Texts -/

/-- `s.split(separator)`. -/
def pySplit (separator : Char) (s : String) : List String :=
  (s.toList.splitOn separator).map String.ofList

/-! ## The environment -/

/-- `os.getenv`; the environment does not change while the program runs. -/
abbrev Environ := String → Option String

/-- The words that switch something on. -/
def isOn (raw : String) : Bool := pyLower (pyStrip raw) ∈ ["1", "true", "yes", "y", "on"]

/-- `int(float(raw))`, cut towards zero; `none` where Python raises `ValueError`. -/
def intOfFloatString (raw : String) : Option ℤ :=
  (floatOfString raw).map fun x => x.num.tdiv x.den

/-! ## Queues of bounded length -/

/-- `append` to a `deque(maxlen=maxlen)`: what does not fit falls off the old end. -/
def dequeAppend {τ : Type} (maxlen : ℤ) (items : List τ) (x : τ) : List τ :=
  (items ++ [x]).drop (items.length + 1 - maxlen.toNat)

end Aegis
