import Mathlib.Order.Lattice
import Mathlib.Algebra.Notation.Defs

/-!
# Numbers, and what is not a number

`WithNan K` adds one value to a type of numbers.  Arithmetic with it gives it back, and every
comparison with it is false, so that a number `x` that is not above a limit need not be below it.
-/

/-- A number, or none. -/
inductive WithNan (K : Type)
  | nan
  | num (x : K)
  deriving DecidableEq

namespace WithNan

variable {K : Type}

/-- An operation on numbers gives a number, and on anything else none. -/
def lift (f : K → K → K) : WithNan K → WithNan K → WithNan K
  | num x, num y => num (f x y)
  | _, _ => nan

/-- A comparison of numbers; with anything else it is false. -/
def Both (r : K → K → Prop) : WithNan K → WithNan K → Prop
  | num x, num y => r x y
  | _, _ => False

instance (r : K → K → Prop) [DecidableRel r] : DecidableRel (Both r)
  | num x, num y => inferInstanceAs (Decidable (r x y))
  | nan, _ => isFalse fun h => h
  | num _, nan => isFalse fun h => h

instance [Zero K] : Zero (WithNan K) := ⟨num 0⟩
instance [One K] : One (WithNan K) := ⟨num 1⟩
instance [Add K] : Add (WithNan K) := ⟨lift (· + ·)⟩
instance [Sub K] : Sub (WithNan K) := ⟨lift (· - ·)⟩
instance [Mul K] : Mul (WithNan K) := ⟨lift (· * ·)⟩
instance [Div K] : Div (WithNan K) := ⟨lift (· / ·)⟩
instance [LT K] : LT (WithNan K) := ⟨Both (· < ·)⟩
instance [LE K] : LE (WithNan K) := ⟨Both (· ≤ ·)⟩

instance [Neg K] : Neg (WithNan K) where
  neg
    | num x => num (-x)
    | nan => nan

instance [LT K] [DecidableLT K] : DecidableLT (WithNan K) :=
  inferInstanceAs (DecidableRel (Both (· < ·)))

instance [LE K] [DecidableLE K] : DecidableLE (WithNan K) :=
  inferInstanceAs (DecidableRel (Both (· ≤ ·)))

lemma lift_eq_nan {f : K → K → K} {a b : WithNan K} : lift f a b = nan ↔ a = nan ∨ b = nan := by
  cases a <;> cases b <;> simp [lift]

@[simp] lemma add_eq_nan [Add K] {a b : WithNan K} : a + b = nan ↔ a = nan ∨ b = nan := lift_eq_nan
@[simp] lemma sub_eq_nan [Sub K] {a b : WithNan K} : a - b = nan ↔ a = nan ∨ b = nan := lift_eq_nan
@[simp] lemma mul_eq_nan [Mul K] {a b : WithNan K} : a * b = nan ↔ a = nan ∨ b = nan := lift_eq_nan
@[simp] lemma div_eq_nan [Div K] {a b : WithNan K} : a / b = nan ↔ a = nan ∨ b = nan := lift_eq_nan

@[simp] lemma neg_eq_nan [Neg K] {a : WithNan K} : -a = nan ↔ a = nan := by
  cases a with
  | nan => exact Iff.rfl
  | num x =>
      constructor
      · intro h
        cases h
      · intro h
        cases h

@[simp] lemma zero_ne_nan [Zero K] : (0 : WithNan K) ≠ nan := fun h => by cases h

lemma not_nan_lt [LT K] (a : WithNan K) : ¬ nan < a := fun h => h

lemma not_lt_nan [LT K] (a : WithNan K) : ¬ a < nan := by
  cases a <;> exact fun h => h

/-- What is compared is a number. -/
lemma ne_nan_of_lt [LT K] {a b : WithNan K} (h : a < b) : b ≠ nan := by
  rintro rfl
  exact not_lt_nan a h

/-- Of numbers one is not above the other exactly when it is at most it; this fails for anything
else, for which the comparison is false both ways. -/
lemma le_iff_not_lt [LinearOrder K] {a b : WithNan K} :
    a ≤ b ↔ ¬ b < a ∧ a ≠ nan ∧ b ≠ nan := by
  cases a with
  | nan =>
      constructor
      · intro h
        cases h
      · rintro ⟨-, hnan, -⟩
        exact absurd rfl hnan
  | num x =>
      cases b with
      | nan =>
          constructor
          · intro h
            cases h
          · rintro ⟨-, -, hnan⟩
            exact absurd rfl hnan
      | num y =>
          have hle : num x ≤ num y ↔ x ≤ y := Iff.rfl
          have hlt : num y < num x ↔ y < x := Iff.rfl
          rw [hle, hlt, not_lt]
          simp only [ne_eq, reduceCtorEq, not_false_eq_true, and_self, and_true]

/-- The same of `<`. -/
lemma lt_iff_not_le [LinearOrder K] {a b : WithNan K} :
    a < b ↔ ¬ b ≤ a ∧ a ≠ nan ∧ b ≠ nan := by
  cases a with
  | nan =>
      constructor
      · intro h
        cases h
      · rintro ⟨-, hnan, -⟩
        exact absurd rfl hnan
  | num x =>
      cases b with
      | nan =>
          constructor
          · intro h
            cases h
          · rintro ⟨-, -, hnan⟩
            exact absurd rfl hnan
      | num y =>
          have hlt : num x < num y ↔ x < y := Iff.rfl
          have hle : num y ≤ num x ↔ y ≤ x := Iff.rfl
          rw [hle, hlt, not_le]
          simp only [ne_eq, reduceCtorEq, not_false_eq_true, and_self, and_true]

lemma not_lt_of_lt [Preorder K] {a b : WithNan K} (h : a < b) : ¬ b < a := by
  cases a with
  | nan => exact absurd h (not_nan_lt b)
  | num x =>
      cases b with
      | nan => exact absurd h (not_lt_nan _)
      | num y =>
          have hlt : x < y := h
          exact hlt.not_gt

lemma lt_chain [Preorder K] {a b c : WithNan K} (h : a < b) (h' : b < c) : a < c := by
  cases a with
  | nan => exact absurd h (not_nan_lt b)
  | num x =>
      cases b with
      | nan => exact absurd h (not_lt_nan _)
      | num y =>
          cases c with
          | nan => exact absurd h' (not_lt_nan _)
          | num z =>
              have hxy : x < y := h
              have hyz : y < z := h'
              exact hxy.trans hyz

end WithNan
