import AegisFortress.Execution.ExchangeResponseNormalizer
import Mathlib.Algebra.BigOperators.Ring.Finset
import Mathlib.Algebra.BigOperators.Group.List.Basic
import Mathlib.Tactic.LinearCombination

/-!
# What a report says

The report on an exchange's answer has a status and a fee that are read off the answer.

**Status.**  The exchange's own word is taken as it is, and corrected only upwards: a quantity that
has been executed in full makes the order `FILLED`, whatever the word.  So a report can say
`FILLED` without a fill, when the exchange says so (`normalize_status`).

**Fee.**  An exchange describes its charges in up to three forms, and each of them is added up
(`extractFee_described`).  The fee is what was charged exactly when one form is used, or nothing was
charged (`fee_counted_once_iff`).
-/

namespace Aegis

namespace ExchangeResponseNormalizer

/-! ## Status -/

section Status

/-- The word the exchange has for the status, in lower case. -/
def statusWord (payload : List (String × PyVal ℚ)) : String :=
  pyLower ((payload.lookup "status").getD (.str "submitted")).toStr

/-- The words for an order that is done. -/
def FILLED_WORDS : List String := ["closed", "filled", "done"]

/-- The words for an order that is partly done. -/
def PARTIAL_WORDS : List String := ["partial", "partially_filled", "partiallyfilled"]

lemma statusMap_words (word : String) :
    ((STATUS_MAP.lookup word).getD .submitted = .filled ↔ word ∈ FILLED_WORDS)
      ∧ ((STATUS_MAP.lookup word).getD .submitted = .partiallyFilled ↔ word ∈ PARTIAL_WORDS) := by
  by_cases hword : word ∈ STATUS_MAP.map Prod.fst
  · -- one case for each word of the table
    simp only [STATUS_MAP, List.map_cons, List.map_nil, List.mem_cons, List.not_mem_nil,
      or_false] at hword
    rcases hword with rfl | rfl | rfl | rfl | rfl | rfl | rfl | rfl | rfl | rfl | rfl | rfl | rfl
      | rfl <;> decide
  · have hnone : STATUS_MAP.lookup word = none := by
      rw [List.lookup_eq_none_iff]
      intro entry hentry
      have hne : word ≠ entry.1 := fun h => hword (List.mem_map.mpr ⟨entry, hentry, h.symm⟩)
      simpa using hne
    have hfilled : word ∉ FILLED_WORDS := fun h => hword ((by decide : FILLED_WORDS ⊆ _) h)
    have hpartial : word ∉ PARTIAL_WORDS := fun h => hword ((by decide : PARTIAL_WORDS ⊆ _) h)
    simp [hnone, hfilled, hpartial]

variable (status : OrderStatus) {filledQuantity quantity : ℚ}

lemma statusOf_filled_iff (hquantity : 0 < quantity) :
    statusOf status filledQuantity quantity = .filled
      ↔ quantity ≤ filledQuantity ∨ status = .filled := by
  by_cases hfull : quantity ≤ filledQuantity
  · simp [statusOf, hfull, hquantity]
  · simp only [statusOf, hfull, false_and, if_false, false_or]
    split_ifs with h
    · simp [h.2.2]
    · rfl

/-- Without a fill the exchange's word stands. -/
lemma statusOf_unfilled (hquantity : 0 < quantity) (hunfilled : filledQuantity ≤ 0) :
    statusOf status filledQuantity quantity = status := by
  have hshort : ¬ quantity ≤ filledQuantity := not_le.mpr (hunfilled.trans_lt hquantity)
  simp [statusOf, hshort, not_lt.mpr hunfilled]

variable (order : Order ℚ) (exchangeName : String) (rawResponse : PyVal ℚ)

/-- **The status of a report.**  It is `FILLED` exactly when everything was executed or the exchange
says so; and with nothing executed, only the exchange's word makes it `FILLED` or
`PARTIALLY_FILLED`. -/
theorem normalize_status (hquantity : 0 < order.quantity) :
    ((normalize order exchangeName rawResponse).status = .filled
        ↔ order.quantity ≤ (normalize order exchangeName rawResponse).filledQuantity
          ∨ statusWord (payloadOf rawResponse) ∈ FILLED_WORDS)
      ∧ ((normalize order exchangeName rawResponse).filledQuantity ≤ 0 →
        ((normalize order exchangeName rawResponse).status = .filled
            ↔ statusWord (payloadOf rawResponse) ∈ FILLED_WORDS)
          ∧ ((normalize order exchangeName rawResponse).status = .partiallyFilled
            ↔ statusWord (payloadOf rawResponse) ∈ PARTIAL_WORDS)) := by
  obtain ⟨hfilled, hpartial⟩ := statusMap_words (statusWord (payloadOf rawResponse))
  refine ⟨?_, fun hunfilled => ?_⟩
  · rw [← hfilled]
    exact statusOf_filled_iff _ hquantity
  · rw [← hfilled, ← hpartial]
    have hword : (normalize order exchangeName rawResponse).status
        = (STATUS_MAP.lookup (statusWord (payloadOf rawResponse))).getD .submitted :=
      statusOf_unfilled _ hquantity hunfilled
    rw [hword]
    exact ⟨Iff.rfl, Iff.rfl⟩

/-- One coin. -/
def oneCoin : Order ℚ := { symbol := "BTC/USDT", side := .buy, quantity := 1, orderType := .market }

/-- An open order of which nothing has been executed is neither. -/
theorem normalize_status_open :
    (normalize oneCoin "binance" (.dict [("status", .str "open"), ("filled", .float 0)])).status
        ≠ .filled
      ∧ (normalize oneCoin "binance" (.dict [("status", .str "open"), ("filled", .float 0)])).status
        ≠ .partiallyFilled := by
  have hstatus := (normalize_status oneCoin "binance"
    (.dict [("status", .str "open"), ("filled", .float 0)]) (by decide +kernel)).2 (by decide +kernel)
  exact ⟨fun h => absurd (hstatus.1.mp h) (by decide +kernel),
    fun h => absurd (hstatus.2.mp h) (by decide +kernel)⟩

/-- A closed order is reported as filled with half of it executed, or nothing, and a partly done one
without any part. -/
theorem filled_without_fill :
    (0 < oneCoin.quantity
      ∧ (normalize oneCoin "binance" (.dict [("status", .str "closed"), ("filled", .float (1 / 2))])).status
        = .filled
      ∧ (normalize oneCoin "binance"
          (.dict [("status", .str "closed"), ("filled", .float (1 / 2))])).filledQuantity
        < oneCoin.quantity)
    ∧ ((normalize oneCoin "binance" (.dict [("status", .str "closed")])).status = .filled
      ∧ (normalize oneCoin "binance" (.dict [("status", .str "closed")])).filledQuantity ≤ 0)
    ∧ (normalize oneCoin "binance" (.dict [("status", .str "partial")])).status = .partiallyFilled
      ∧ (normalize oneCoin "binance" (.dict [("status", .str "partial")])).filledQuantity ≤ 0 := by
  decide +kernel

end Status

/-! ## Fee -/

section Fee

/-- The forms in which an exchange can describe what it charges: one total, a list of fees, or a
commission in every fill. -/
inductive FeeForm
  | fee
  | fees
  | fills
  deriving DecidableEq

instance : Fintype FeeForm :=
  ⟨{.fee, .fees, .fills}, fun form => by cases form <;> decide⟩

/-- `payload.get("info")`, when it is a dictionary. -/
def infoOf (payload : List (String × PyVal ℚ)) : List (String × PyVal ℚ) :=
  payloadOf (PyVal.get payload "info")

/-- What `_extract_fee` reads of a single fee. -/
def costOf : PyVal ℚ → PyVal ℚ
  | .dict fee => PyVal.get fee "cost"
  | fee => fee

/-- A list of dictionaries with the charges under a key. -/
def Lists (key : String) (value : PyVal ℚ) (charges : List ℚ) : Prop :=
  ∃ items, value = .list items ∧ List.Forall₂ (fun item charge =>
    ∃ fields, item = .dict fields ∧ readFloat (PyVal.get fields key) = some charge) items charges

/-- No dictionary of a list has a number under the key. -/
def Lacks (key : String) (value : PyVal ℚ) : Prop :=
  ∀ items, value = .list items → ∀ fields, .dict fields ∈ items →
    readFloat (PyVal.get fields key) = none

/-- The charges in this form. -/
def GivenAs (payload : List (String × PyVal ℚ)) (charges : List ℚ) : FeeForm → Prop
  | .fee => ∃ fee, PyVal.get payload "fee" = .dict fee
      ∧ readFloat (PyVal.get fee "cost") = some charges.sum
  | .fees => Lists "cost" (PyVal.get payload "fees") charges
  | .fills => Lists "commission" (PyVal.get (infoOf payload) "fills") charges

/-- Nothing is said in this form. -/
def MissingAs (payload : List (String × PyVal ℚ)) : FeeForm → Prop
  | .fee => readFloat (costOf (PyVal.get payload "fee")) = none
  | .fees => Lacks "cost" (PyVal.get payload "fees")
  | .fills => Lacks "commission" (PyVal.get (infoOf payload) "fills")

/-- The response describes the charges in these forms and in no other. -/
structure Describes (payload : List (String × PyVal ℚ)) (charges : List ℚ)
    (forms : Finset FeeForm) : Prop where
  given : ∀ form ∈ forms, GivenAs payload charges form
  missing : ∀ form, form ∉ forms → MissingAs payload form
  /-- `info.commission` is none of the forms. -/
  uncommissioned : readFloat (PyVal.get (infoOf payload) "commission") = none

/-- The number a value spells, zero without one. -/
def amount (value : PyVal ℚ) : ℚ := (readFloat value).getD 0

/-- The numbers of the dictionaries of a list. -/
def listed (key : String) : PyVal ℚ → ℚ
  | .list items => (items.map fun item =>
      match item with
      | .dict fields => amount (PyVal.get fields key)
      | _ => 0).sum
  | _ => 0

/-- What is read in a form. -/
def amountAs (payload : List (String × PyVal ℚ)) : FeeForm → ℚ
  | .fee => amount (costOf (PyVal.get payload "fee"))
  | .fees => listed "cost" (PyVal.get payload "fees")
  | .fills => listed "commission" (PyVal.get (infoOf payload) "fills")

variable {payload : List (String × PyVal ℚ)} {charges : List ℚ} {forms : Finset FeeForm}
  {key : String} {value : PyVal ℚ}

lemma addFeeValue_eq (total : ℚ) (value : PyVal ℚ) :
    addFeeValue total value = total + amount value := by
  rw [addFeeValue, amount]
  cases readFloat value <;> simp

lemma addFeesOf_eq (key : String) (total : ℚ) (value : PyVal ℚ) :
    addFeesOf key total value = total + listed key value := by
  cases value with
  | list items =>
      simp only [addFeesOf, listed]
      induction items generalizing total with
      | nil => simp
      | cons item rest ih =>
          rw [List.foldl_cons, ih, List.map_cons, List.sum_cons, ← add_assoc]
          cases item <;> simp [addFeeValue_eq]
  | _ => simp [addFeesOf, listed]

/-- **The forms are added up**, and the commission of `info` with them. -/
theorem extractFee_eq (payload : List (String × PyVal ℚ)) :
    extractFee payload
      = ∑ form, amountAs payload form + amount (PyVal.get (infoOf payload) "commission") := by
  have hforms : (Finset.univ : Finset FeeForm) = {.fee, .fees, .fills} := by decide
  have hfee : extractFee payload
      = let afterFees := addFeesOf "cost" (addFeeValue 0 (costOf (PyVal.get payload "fee")))
          (PyVal.get payload "fees")
        match PyVal.get payload "info" with
        | .dict info =>
            addFeeValue (addFeesOf "commission" afterFees (PyVal.get info "fills"))
              (PyVal.get info "commission")
        | _ => afterFees := by
    rw [extractFee]
    cases PyVal.get payload "fee" <;> cases PyVal.get payload "info" <;> rfl
  -- without a dictionary under `info` nothing is read there
  have hnothing : listed "commission" (PyVal.get [] "fills") = 0
      ∧ amount (PyVal.get [] "commission") = 0 := ⟨rfl, rfl⟩
  rw [hforms, Finset.sum_insert (by decide), Finset.sum_pair (by decide), hfee]
  simp only [addFeesOf_eq, addFeeValue_eq, amountAs, infoOf]
  cases PyVal.get payload "info" with
  | dict info =>
      simp only [payloadOf]
      ring
  | _ => simp [payloadOf, hnothing]

lemma Lists.listed (h : Lists key value charges) : listed key value = charges.sum := by
  obtain ⟨items, rfl, hcharges⟩ := h
  simp only [ExchangeResponseNormalizer.listed]
  induction hcharges with
  | nil => rfl
  | cons hitem _ ih =>
      obtain ⟨fields, rfl, hread⟩ := hitem
      rw [List.map_cons, List.sum_cons, List.sum_cons, ih]
      simp [amount, hread]

lemma Lacks.listed (h : Lacks key value) : listed key value = 0 := by
  cases value with
  | list items =>
      simp only [ExchangeResponseNormalizer.listed]
      refine List.sum_eq_zero fun x hx => ?_
      obtain ⟨item, hitem, rfl⟩ := List.mem_map.mp hx
      cases item with
      | dict fields => simp [amount, h items rfl fields hitem]
      | _ => rfl
  | _ => rfl

lemma amountAs_given {form : FeeForm} (h : GivenAs payload charges form) :
    amountAs payload form = charges.sum := by
  cases form with
  | fee =>
      obtain ⟨fee, hfee, hcost⟩ := h
      simp [amountAs, hfee, costOf, amount, hcost]
  | fees => exact Lists.listed h
  | fills => exact Lists.listed h

lemma amountAs_missing {form : FeeForm} (h : MissingAs payload form) :
    amountAs payload form = 0 := by
  cases form with
  | fee =>
      have hnone : readFloat (costOf (PyVal.get payload "fee")) = none := h
      simp [amountAs, amount, hnone]
  | fees => exact Lacks.listed h
  | fills => exact Lacks.listed h

/-- The charges are counted once for every form. -/
lemma extractFee_described (h : Describes payload charges forms) :
    extractFee payload = forms.card * charges.sum := by
  have hamount : ∀ form, amountAs payload form = if form ∈ forms then charges.sum else 0 := by
    intro form
    by_cases hform : form ∈ forms
    · rw [if_pos hform, amountAs_given (h.given form hform)]
    · rw [if_neg hform, amountAs_missing (h.missing form hform)]
  have hinfo : amount (PyVal.get (infoOf payload) "commission") = 0 := by
    rw [amount, h.uncommissioned, Option.getD_none]
  simp only [extractFee_eq, hamount, hinfo, add_zero, Finset.sum_ite_mem, Finset.univ_inter,
    Finset.sum_const, nsmul_eq_mul]

/-- **Fees are counted once** exactly when one form is used, or nothing is charged. -/
theorem fee_counted_once_iff (h : Describes payload charges forms) :
    extractFee payload = charges.sum ↔ forms.card = 1 ∨ charges.sum = 0 := by
  rw [extractFee_described h]
  constructor
  · intro honce
    have hzero : (forms.card - 1 : ℚ) * charges.sum = 0 := by linear_combination honce
    rcases mul_eq_zero.mp hzero with hcard | hsum
    · left
      exact_mod_cast sub_eq_zero.mp hcard
    · exact Or.inr hsum
  · rintro (hcard | hsum)
    · rw [hcard, Nat.cast_one, one_mul]
    · rw [hsum, mul_zero]

/-- A response that lists two fees. -/
def twoFees : List (String × PyVal ℚ) :=
  [("fees", .list [.dict [("cost", .float (1 / 10))], .dict [("cost", .float (1 / 20))]])]

lemma twoFees_lists : Lists "cost" (PyVal.get twoFees "fees") [1 / 10, 1 / 20] :=
  ⟨_, rfl, .cons ⟨_, rfl, rfl⟩ (.cons ⟨_, rfl, rfl⟩ .nil)⟩

theorem fee_counted_once_listed : extractFee twoFees = 3 / 20 := by
  have hdescribes : Describes twoFees [1 / 10, 1 / 20] {.fees} := by
    refine ⟨fun form hform => ?_, fun form hform => ?_, rfl⟩
    · rw [Finset.mem_singleton.mp hform]
      exact twoFees_lists
    · cases form with
      | fee => rfl
      | fees => exact absurd (Finset.mem_singleton_self _) hform
      | fills =>
          intro items hitems
          cases hitems
  have honce := (fee_counted_once_iff hdescribes).mpr (Or.inl rfl)
  rw [honce]
  norm_num

/-- With the total beside the list, as a unified response has both, the charges count twice. -/
theorem fee_counted_twice :
    Describes (("fee", .dict [("cost", .float (3 / 20))]) :: twoFees) [1 / 10, 1 / 20] {.fee, .fees}
      ∧ extractFee (("fee", .dict [("cost", .float (3 / 20))]) :: twoFees) = 3 / 10
      ∧ ([1 / 10, 1 / 20] : List ℚ).sum = 3 / 20 := by
  refine ⟨⟨fun form hform => ?_, fun form hform => ?_, rfl⟩, by decide +kernel, by norm_num⟩
  · cases form with
    | fee => exact ⟨_, rfl, by norm_num [readFloat, PyVal.get, PyVal.number?]⟩
    | fees => exact twoFees_lists
    | fills => exact absurd hform (by decide)
  · cases form with
    | fills =>
        intro items hitems
        cases hitems
    | _ => exact absurd (by decide) hform

end Fee

end ExchangeResponseNormalizer

end Aegis
