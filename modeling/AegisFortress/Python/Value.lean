import Mathlib.Algebra.Order.Ring.Rat
import Mathlib.Data.Rat.Floor

/-!
# Python values

What the code handles before it knows what it has been given: numbers, strings, and the
dictionaries an exchange or a saved file answers with.

The type of floats is a parameter.  `PyFloat` collects what the code asks of it beyond
arithmetic and comparison: a literal, the `.{n}f` format, `str`.  `ℚ` is the instance the
accounting results use — exact arithmetic; a string that spells an infinity or a NaN has no
value there.
-/

namespace Aegis

/-! ## Floats -/

/-- What the code needs of a float besides `+ - * / < ≤`. -/
class PyFloat (α : Type) where
  /-- A literal, or the value of a decimal string. -/
  ofRat : ℚ → α
  /-- `f"{x:.{n}f}"`. -/
  fixed : ℕ → α → String
  /-- `str(x)`. -/
  repr : α → String

/-- Nearest integer to a non-negative rational, halves to the even neighbour. -/
def roundHalfEven (x : ℚ) : ℕ :=
  let n := ⌊x⌋.toNat
  if x - n < 1 / 2 then n
  else if 1 / 2 < x - n then n + 1
  else if n % 2 = 0 then n else n + 1

/-- `f"{x:.{n}f}"` for an exact `x`. -/
def fixedRat (n : ℕ) (x : ℚ) : String :=
  let scaled := roundHalfEven ((if x < 0 then -x else x) * 10 ^ n)
  let digits := toString (scaled % 10 ^ n)
  let fraction := String.ofList (List.replicate (n - digits.length) '0') ++ digits
  let body := toString (scaled / 10 ^ n) ++ (if n = 0 then "" else "." ++ fraction)
  if x < 0 then "-" ++ body else body

/-- Number of decimals of a terminating fraction with this denominator, at most `fuel`. -/
def decimals (den : ℕ) : ℕ → ℕ
  | 0 => 0
  | fuel + 1 => if 10 ^ (17 - (fuel + 1)) % den = 0 then 17 - (fuel + 1) else decimals den fuel

/-- `str(x)` in positional notation; a fraction without a finite expansion is cut at 17 decimals. -/
def reprRat (x : ℚ) : String :=
  let n := if 10 ^ 17 % x.den = 0 then decimals x.den 17 else 17
  fixedRat (max 1 n) x

instance : PyFloat ℚ := ⟨id, fixedRat, reprRat⟩

@[simp] lemma ofRat_rat (x : ℚ) : (PyFloat.ofRat x : ℚ) = x := rfl

section Builtins

variable {α : Type} [Neg α] [Zero α] [LT α] [DecidableLT α]

/-- `abs(x)`. -/
def pyAbs (x : α) : α := if x < 0 then -x else x

/-- `min(a, b)`: the first argument unless the second is smaller. -/
def pyMin (a b : α) : α := if b < a then b else a

/-- `max(a, b)`: the first argument unless the second is larger. -/
def pyMax (a b : α) : α := if a < b then b else a

end Builtins

@[simp] lemma pyAbs_rat (x : ℚ) : pyAbs x = |x| := by
  unfold pyAbs
  split_ifs with h
  · exact (abs_of_neg h).symm
  · exact (abs_of_nonneg (not_lt.mp h)).symm

@[simp] lemma pyMin_rat (a b : ℚ) : pyMin a b = min a b := by
  unfold pyMin
  split_ifs with h
  · exact (min_eq_right h.le).symm
  · exact (min_eq_left (not_lt.mp h)).symm

@[simp] lemma pyMax_rat (a b : ℚ) : pyMax a b = max a b := by
  unfold pyMax
  split_ifs with h
  · exact (max_eq_right h.le).symm
  · exact (max_eq_left (not_lt.mp h)).symm

/-! ## Exceptions -/

/-- The exception classes the code tells apart. -/
inductive ErrorKind
  | valueError
  | typeError
  | runtimeError
  | keyError
  | invalidStateTransition
  | other
  deriving DecidableEq, Repr

/-- A raised exception: its class and `str(exc)`. -/
structure PyError where
  kind : ErrorKind
  message : String
  deriving DecidableEq, Repr

/-- A division of floats by zero. -/
def zeroDivisionError : PyError := ⟨.other, "float division by zero"⟩

/-- A name that is not defined where it is read. -/
def undefinedName {β : Type} (name : String) : Except PyError β :=
  .error ⟨.other, s!"name '{name}' is not defined"⟩

/-! ## Upper and lower case -/

/-- The upper case of a character, as far as it is spelled in ASCII. -/
def upperChar : Char → List Char
  | 'ſ' => ['S']
  | 'ı' => ['I']
  | 'ß' => ['S', 'S']
  | 'ﬀ' => ['F', 'F']
  | 'ﬁ' => ['F', 'I']
  | 'ﬂ' => ['F', 'L']
  | 'ﬃ' => ['F', 'F', 'I']
  | 'ﬄ' => ['F', 'F', 'L']
  | 'ﬅ' => ['S', 'T']
  | 'ﬆ' => ['S', 'T']
  | c => [c.toUpper]

/-- `s.upper()`, exact whenever the result is compared with an ASCII word. -/
def pyUpper (s : String) : String := String.ofList (s.toList.flatMap upperChar)

/-- `s.lower()`, exact whenever the result is compared with an ASCII word: the Kelvin sign is the
one other character whose lower case is an ASCII letter. -/
def pyLower (s : String) : String :=
  String.ofList (s.toList.map fun c => if c = '\u212a' then 'k' else c.toLower)

/-! ## `float(str)` -/

/-- `digit (["_"] digit)*`: the value read, the number of digits, and what follows. -/
def digitPart : List Char → ℕ → ℕ → ℕ × ℕ × List Char
  | [], v, n => (v, n, [])
  | '_' :: rest, v, n =>
      if 0 < n ∧ (rest.head?.map Char.isDigit).getD false then digitPart rest v n
      else (v, n, '_' :: rest)
  | c :: rest, v, n =>
      if c.isDigit then digitPart rest (10 * v + (c.toNat - '0'.toNat)) (n + 1)
      else (v, n, c :: rest)

/-- An optional sign, then the rest. -/
def signPart : List Char → Bool × List Char
  | '-' :: rest => (true, rest)
  | '+' :: rest => (false, rest)
  | cs => (false, cs)

/-- The optional exponent; `none` when an `e` is not followed by digits up to the end. -/
def exponentPart : List Char → Option ℤ
  | [] => some 0
  | c :: rest =>
      if c = 'e' ∨ c = 'E' then
        let (neg, cs) := signPart rest
        match digitPart cs 0 0 with
        | (v, n, []) => if n = 0 then none else some (if neg then -v else v)
        | _ => none
      else none

/-- The characters `str.isspace` accepts. -/
def isSpace (c : Char) : Bool :=
  (9 ≤ c.toNat ∧ c.toNat ≤ 13) ∨ (28 ≤ c.toNat ∧ c.toNat ≤ 32) ∨ c.toNat = 0x85 ∨ c.toNat = 0xa0
    ∨ c.toNat = 0x1680 ∨ (0x2000 ≤ c.toNat ∧ c.toNat ≤ 0x200a) ∨ c.toNat = 0x2028
    ∨ c.toNat = 0x2029 ∨ c.toNat = 0x202f ∨ c.toNat = 0x205f ∨ c.toNat = 0x3000

/-- Blanks are taken off at both ends. -/
def strip (cs : List Char) : List Char :=
  ((cs.dropWhile isSpace).reverse.dropWhile isSpace).reverse

/-- `s.strip()`. -/
def pyStrip (s : String) : String := String.ofList (strip s.toList)

/-- `float(s)` for a decimal literal in ASCII digits; `none` where Python raises `ValueError`.  The
other texts that `float` accepts, those of infinities and NaNs (`"inf"`, `"nan"`) and numbers in the
digits of other scripts, are not covered: no exact number stands for the first, and the second count
as no numbers here. -/
def floatOfString (s : String) : Option ℚ :=
  let (neg, cs) := signPart (strip s.toList)
  let (whole, nWhole, afterWhole) := digitPart cs 0 0
  let (frac, nFrac, rest) := match afterWhole with
    | '.' :: cs' => digitPart cs' 0 0
    | _ => (0, 0, afterWhole)
  if nWhole + nFrac = 0 then none
  else
    (exponentPart rest).map fun e =>
      let magnitude : ℚ := (whole + frac / 10 ^ nFrac) * 10 ^ e
      if neg then -magnitude else magnitude

example : floatOfString " -1_0.25e-1 " = some (-41 / 40) := by decide +kernel

/-! ## Values -/

/-- A value decoded from JSON or handed over by an exchange client. -/
inductive PyVal (α : Type) where
  | none
  | bool (b : Bool)
  | int (n : ℤ)
  | float (x : α)
  | str (s : String)
  | list (items : List (PyVal α))
  | tuple (items : List (PyVal α))
  | dict (items : List (String × PyVal α))

namespace PyVal

variable {α : Type}

/-- `payload.get(key)` on the items of a dictionary. -/
def get (items : List (String × PyVal α)) (key : String) : PyVal α :=
  (items.lookup key).getD .none

/-- A string or `None`. -/
def ofOption (s : Option String) : PyVal α := s.elim .none .str

/-- The name `type(value).__name__`. -/
def typeName : PyVal α → String
  | .none => "NoneType"
  | .bool _ => "bool"
  | .int _ => "int"
  | .float _ => "float"
  | .str _ => "str"
  | .list _ => "list"
  | .tuple _ => "tuple"
  | .dict _ => "dict"

variable [PyFloat α]

/-- `float(value)` when `isinstance(value, (int, float))`; a bool is an int. -/
def number? : PyVal α → Option α
  | .bool b => some (PyFloat.ofRat (if b then 1 else 0))
  | .int n => some (PyFloat.ofRat n)
  | .float x => some x
  | _ => Option.none

/-- `float(value)`. -/
def toFloat : PyVal α → Except PyError α
  | .str s => match floatOfString s with
    | some x => .ok (PyFloat.ofRat x)
    | Option.none => .error ⟨.valueError, s!"could not convert string to float: '{s}'"⟩
  | v => match v.number? with
    | some x => .ok x
    | Option.none => .error ⟨.typeError,
        s!"float() argument must be a string or a real number, not '{v.typeName}'"⟩

/-- `bool(value)`. -/
def truthy [Zero α] [DecidableEq α] : PyVal α → Bool
  | .none => false
  | .bool b => b
  | .int n => n ≠ 0
  | .float x => x ≠ 0
  | .str s => s ≠ ""
  | .list items => !items.isEmpty
  | .tuple items => !items.isEmpty
  | .dict items => !items.isEmpty

/-- `str(value)` of a scalar.  The text of a container is never read by the code. -/
def toStr : PyVal α → String
  | .none => "None"
  | .bool b => if b then "True" else "False"
  | .int n => toString n
  | .float x => PyFloat.repr x
  | .str s => s
  | .list _ => "[...]"
  | .tuple _ => "(...)"
  | .dict _ => "\x7b...\x7d"

end PyVal

end Aegis
