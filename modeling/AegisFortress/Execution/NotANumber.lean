import AegisFortress.Execution.SubmitGuarantees
import AegisFortress.Lib.WithNan

/-!
# Submissions with something that is not a number

The pipeline once more, with floats that may be NaN.  Every check of the risk validator is written
as "reject if above", so that a NaN passes it: `allowed_iff_quiet` says what is left of the checks
when one is involved, and `fails_closed_iff` exactly when nothing with a NaN in it is sent.

A NaN may stand wherever the outside world gives a float; a string that spells one is taken to be
given as that float.
-/

namespace Aegis

instance : PyFloat (WithNan ℚ) where
  ofRat := .num
  fixed n
    | .num x => fixedRat n x
    | .nan => "nan"
  repr
    | .num x => reprRat x
    | .nan => "nan"

open WithNan

lemma pyAbs_eq_nan {x : WithNan ℚ} : pyAbs x = nan ↔ x = nan := by
  rw [pyAbs]
  split_ifs
  · exact neg_eq_nan
  · exact Iff.rfl

/-! ## The exposure -/

namespace ExposureEngine

variable (positions : Dict String (Position (WithNan ℚ))) (markPrices : Dict String (WithNan ℚ))

/-- Some position has no notional. -/
def Unmarked : Prop :=
  ∃ e ∈ positions.entries, e.2.quantity = nan ∨ markOf markPrices e.1 e.2 = nan

lemma markedNotional_eq_nan {symbol : String} {position : Position (WithNan ℚ)} :
    markedNotional markPrices symbol position = nan
      ↔ position.quantity = nan ∨ markOf markPrices symbol position = nan := mul_eq_nan

lemma add_net_eq_nan (t : Totals (WithNan ℚ)) (x : WithNan ℚ) :
    (t.add x).net = nan ↔ t.net = nan ∨ x = nan := by
  rw [Totals.add]
  split_ifs <;> exact add_eq_nan

lemma add_gross_eq_nan (t : Totals (WithNan ℚ)) (x : WithNan ℚ) :
    (t.add x).long + (t.add x).short = nan ↔ t.long + t.short = nan ∨ x = nan := by
  rw [Totals.add]
  split_ifs
  · simp only [add_eq_nan]
    tauto
  · simp only [add_eq_nan, pyAbs_eq_nan]
    tauto

lemma foldl_eq_nan (l : List (String × Position (WithNan ℚ))) : ∀ t : Totals (WithNan ℚ),
    ((l.foldl (fun t e => t.add (markedNotional markPrices e.1 e.2)) t).net = nan
        ↔ t.net = nan ∨ ∃ e ∈ l, markedNotional markPrices e.1 e.2 = nan)
      ∧ ((l.foldl (fun t e => t.add (markedNotional markPrices e.1 e.2)) t).long
          + (l.foldl (fun t e => t.add (markedNotional markPrices e.1 e.2)) t).short = nan
        ↔ t.long + t.short = nan ∨ ∃ e ∈ l, markedNotional markPrices e.1 e.2 = nan) := by
  induction l with
  | nil =>
      intro t
      simp
  | cons e rest ih =>
      intro t
      obtain ⟨hnet, hgross⟩ := ih (t.add (markedNotional markPrices e.1 e.2))
      rw [List.foldl_cons, hnet, hgross, add_net_eq_nan, add_gross_eq_nan]
      simp only [List.exists_mem_cons_iff, or_assoc, and_self]

lemma net_eq_nan : (calculate positions markPrices).netExposure = nan
    ↔ Unmarked positions markPrices := by
  have h := (foldl_eq_nan markPrices positions.entries ⟨0, 0, 0⟩).1
  simp only [zero_ne_nan, false_or, markedNotional_eq_nan] at h
  exact h

lemma gross_eq_nan : (calculate positions markPrices).grossExposure = nan
    ↔ Unmarked positions markPrices := by
  have h := (foldl_eq_nan markPrices positions.entries ⟨0, 0, 0⟩).2
  have hstart : (0 : WithNan ℚ) + 0 ≠ nan := fun h => by cases h
  simp only [hstart, false_or, markedNotional_eq_nan] at h
  exact h

end ExposureEngine

/-! ## The risk check -/

namespace PreTradeRiskValidator

section Checks

variable {α : Type} [LT α] [DecidableLT α] [PyFloat α]

lemma exceeds_eq_nil_iff {name : String} {digits : ℕ} {value reported limit : α} :
    exceeds name digits value reported limit = [] ↔ ¬ limit < value := by
  rw [exceeds]
  split_ifs with h <;> simp [h]

variable [Add α] [Sub α] [Mul α] [Div α] [Neg α] [Zero α] [One α] [LE α] [DecidableLE α]

/-- The checks of an order by itself. -/
structure Passes (validator : PreTradeRiskValidator α) (order : Order α) (referencePrice : α)
    (minOverride : Option α) : Prop where
  priced : ¬ referencePrice ≤ 0
  sized : ¬ order.quantity ≤ 0
  least : ¬ (0 < validator.effectiveMin minOverride
    ∧ orderNotional order referencePrice < validator.effectiveMin minOverride)
  most : ¬ validator.maxOrderNotional < orderNotional order referencePrice

/-- The checks of what is held afterwards. -/
structure Bounded (validator : PreTradeRiskValidator α) (order : Order α) (referencePrice : α)
    (positions : Dict String (Position α)) (markPrices : Dict String α) : Prop where
  gross : ¬ validator.portfolioGuard.maxGrossExposure
    < projectedGross order referencePrice positions markPrices
  net : ¬ validator.portfolioGuard.maxNetExposure
    < pyAbs (projectedNet order referencePrice positions markPrices)
  weight : ¬ validator.portfolioGuard.maxSymbolWeight
    < projectedSymbolWeight order referencePrice positions markPrices

/-- What `allowed` means of any floats. -/
lemma allowed_iff_quiet (validator : PreTradeRiskValidator α) (order : Order α) (referencePrice : α)
    (positions : Dict String (Position α)) (markPrices : Dict String α) (minOverride : Option α) :
    (validator.validate order referencePrice positions markPrices minOverride).allowed = true
      ↔ validator.Passes order referencePrice minOverride
        ∧ validator.Bounded order referencePrice positions markPrices := by
  simp only [validate, List.isEmpty_iff, reasons, List.append_eq_nil_iff, ite_singleton_eq_nil,
    exceeds_eq_nil_iff]
  constructor
  · rintro ⟨⟨⟨⟨⟨⟨hpriced, hsized⟩, hleast⟩, hmost⟩, hgross⟩, hnet⟩, hweight⟩
    exact ⟨⟨hpriced, hsized, hleast, hmost⟩, ⟨hgross, hnet, hweight⟩⟩
  · rintro ⟨⟨hpriced, hsized, hleast, hmost⟩, ⟨hgross, hnet, hweight⟩⟩
    exact ⟨⟨⟨⟨⟨⟨hpriced, hsized⟩, hleast⟩, hmost⟩, hgross⟩, hnet⟩, hweight⟩

end Checks

variable {order : Order (WithNan ℚ)} {referencePrice : WithNan ℚ}
  {positions : Dict String (Position (WithNan ℚ))} {markPrices : Dict String (WithNan ℚ)}

/-- Something that goes into the projection is not a number. -/
def Tainted (order : Order (WithNan ℚ)) (referencePrice : WithNan ℚ)
    (positions : Dict String (Position (WithNan ℚ))) (markPrices : Dict String (WithNan ℚ)) : Prop :=
  order.quantity = nan ∨ referencePrice = nan ∨ ExposureEngine.Unmarked positions markPrices

/-- The order, the price and everything projected are numbers. -/
structure Numbers (order : Order (WithNan ℚ)) (referencePrice : WithNan ℚ)
    (positions : Dict String (Position (WithNan ℚ))) (markPrices : Dict String (WithNan ℚ)) :
    Prop where
  quantity : order.quantity ≠ nan
  price : referencePrice ≠ nan
  gross : projectedGross order referencePrice positions markPrices ≠ nan
  net : projectedNet order referencePrice positions markPrices ≠ nan
  weight : projectedSymbolWeight order referencePrice positions markPrices ≠ nan

lemma incoming_eq_nan : incomingSignedNotional order referencePrice = nan
    ↔ order.quantity = nan ∨ referencePrice = nan := by
  rw [incomingSignedNotional, orderNotional]
  cases order.side with
  | buy => exact mul_eq_nan
  | sell => exact neg_eq_nan.trans mul_eq_nan

/-- The open position of the symbol is one of the positions. -/
lemma unmarked_of_current
    (h : currentSignedNotional positions markPrices order.symbol = nan) :
    ExposureEngine.Unmarked positions markPrices := by
  rw [currentSignedNotional] at h
  split at h
  · exact absurd h zero_ne_nan
  · rename_i position hposition
    exact ⟨(order.symbol, position), Dict.get?_eq_some.mp hposition,
      (ExposureEngine.markedNotional_eq_nan markPrices).mp h⟩

lemma projectedNet_eq_nan : projectedNet order referencePrice positions markPrices = nan
    ↔ Tainted order referencePrice positions markPrices := by
  rw [projectedNet, add_eq_nan, ExposureEngine.net_eq_nan, incoming_eq_nan, Tainted]
  tauto

lemma projectedGross_eq_nan : projectedGross order referencePrice positions markPrices = nan
    ↔ Tainted order referencePrice positions markPrices := by
  rw [projectedGross, projectedSymbolSigned, add_eq_nan, sub_eq_nan, ExposureEngine.gross_eq_nan,
    pyAbs_eq_nan, pyAbs_eq_nan, add_eq_nan, incoming_eq_nan, Tainted]
  have hcurrent : currentSignedNotional positions markPrices order.symbol = nan →
      ExposureEngine.Unmarked positions markPrices := unmarked_of_current
  tauto

/-- A weight is taken of a gross exposure that is above zero, and so a number. -/
lemma projectedSymbolWeight_ne_nan :
    projectedSymbolWeight order referencePrice positions markPrices ≠ nan := by
  simp only [projectedSymbolWeight]
  split_ifs with hgross
  · have hnumber := ne_nan_of_lt hgross
    rw [Ne, div_eq_nan, not_or]
    refine ⟨fun hsigned => hnumber ?_, hnumber⟩
    rw [projectedGross, add_eq_nan]
    exact Or.inr hsigned
  · exact zero_ne_nan

lemma numbers_iff : Numbers order referencePrice positions markPrices
    ↔ ¬ Tainted order referencePrice positions markPrices := by
  constructor
  · intro h htainted
    exact h.net (projectedNet_eq_nan.mpr htainted)
  · intro h
    refine ⟨fun hq => h (Or.inl hq), fun hp => h (Or.inr (Or.inl hp)), ?_, ?_, ?_⟩
    · exact fun hgross => h (projectedGross_eq_nan.mp hgross)
    · exact fun hnet => h (projectedNet_eq_nan.mp hnet)
    · exact projectedSymbolWeight_ne_nan

/-- What is tainted is within every bound. -/
lemma bounded_of_tainted (validator : PreTradeRiskValidator (WithNan ℚ))
    (h : Tainted order referencePrice positions markPrices) :
    validator.Bounded order referencePrice positions markPrices := by
  have hgross := projectedGross_eq_nan.mpr h
  refine ⟨?_, ?_, ?_⟩
  · rw [hgross]
    exact not_lt_nan _
  · rw [pyAbs_eq_nan.mpr (projectedNet_eq_nan.mpr h)]
    exact not_lt_nan _
  · simp only [projectedSymbolWeight, hgross]
    rw [if_neg (not_lt_nan _)]
    exact not_lt_of_lt validator.portfolioGuard.weight_checked.1

end PreTradeRiskValidator

/-! ## What is sent -/

namespace ExecutionPipeline

open PreTradeRiskValidator

/-- **What fails closed.**  Everything that is sent, and everything the risk check has projected for
it, is a number exactly when no order that passes the checks of an order by itself is tainted: by
its quantity, its price, or a position whose quantity or mark is none. -/
theorem fails_closed_iff (pipeline : ExecutionPipeline (WithNan ℚ)) (answers : Answers (WithNan ℚ))
    (markPrices : Dict String (WithNan ℚ)) (order : Order (WithNan ℚ)) (books : Books (WithNan ℚ)) :
    (∀ call ∈ calls (pipeline.submit answers markPrices order books).2.trace, ∀ exchange price,
        selectExchange answers.route = .ok (exchange, price) →
          Numbers { order with quantity := call.1.quantity } price call.2 markPrices)
      ↔ ∀ exchange price quantity limit, Prepared answers order exchange price quantity limit →
        pipeline.preTradeRisk.Passes { order with quantity := quantity } price
          (exchange.minNotional order.symbol) →
        ¬ Tainted { order with quantity := quantity } price books.ledger.positions markPrices := by
  rcases pipeline.calls_submit answers markPrices order books with
    ⟨hno, hcalls⟩ | ⟨exchange, price, quantity, limit, hc, hcalls⟩
  · rw [hcalls]
    refine ⟨fun _ exchange price quantity limit hprepared hpasses htainted => ?_, fun _ call h => ?_⟩
    · have hallowed : (pipeline.decision markPrices order books exchange price quantity
          limit).allowed = true :=
        (allowed_iff_quiet ..).mpr ⟨⟨hpasses.priced, hpasses.sized, hpasses.least, hpasses.most⟩,
          bounded_of_tainted pipeline.preTradeRisk htainted⟩
      exact hno exchange price quantity limit ⟨hprepared, hallowed⟩
    · cases h
  · have hpassed := ((allowed_iff_quiet ..).mp hc.allowed).1
    rw [hcalls]
    constructor
    · intro h exchange' price' quantity' limit' hprepared _
      obtain ⟨rfl, rfl, rfl, -⟩ := hprepared.unique answers order hc.toPrepared
      exact numbers_iff.mp (h _ List.mem_cons_self _ _ hprepared.routed)
    · intro h call hcall exchange' price' hroute
      have hr := hc.routed.symm.trans hroute
      rw [Except.ok.injEq, Prod.mk.injEq] at hr
      obtain ⟨rfl, rfl⟩ := hr
      rw [List.mem_singleton.mp hcall]
      refine numbers_iff.mpr (h exchange price quantity limit hc.toPrepared ?_)
      exact ⟨hpassed.priced, hpassed.sized, hpassed.least, hpassed.most⟩

/-- Orders between 5 and 1000. -/
def nanPipeline : ExecutionPipeline (WithNan ℚ) :=
  let guard : PortfolioGuard (WithNan ℚ) :=
    ⟨.num 1000, .num 1000, .num 1, by decide +kernel, by decide +kernel, by decide +kernel⟩
  ⟨⟨guard, .num 1000, .num 5, by decide +kernel, by decide +kernel, by decide +kernel⟩, ⟨guard⟩⟩

/-- The router finds an ask that is NaN. -/
def nanAnswers : Answers (WithNan ℚ) :=
  { recordTrade := none, save := .ok (), recordExecutionReport := none, publish := none
    route := .ok (some (some
      { id := "SIM", amountToPrecision := none, priceToPrecision := none, minOrderNotional := none
        createOrder := .ok .none }, some nan)) }

/-- An order for a million coins. -/
def millionOrder : Order (WithNan ℚ) :=
  { symbol := "BTC/USDT", side := .buy, quantity := .num (10 ^ 6), orderType := .market }

/-- A million coins are sent at a price that is not a number. -/
theorem nan_sent :
    selectExchange nanAnswers.route = .ok
        ({ id := "SIM", amountToPrecision := none, priceToPrecision := none
           minOrderNotional := none, createOrder := .ok .none }, nan)
      ∧ (calls (nanPipeline.submit nanAnswers ∅ millionOrder ⟨.empty, .none⟩).2.trace).map
          (fun call => call.1.quantity) = [.num (10 ^ 6)] := by
  exact ⟨rfl, by decide +kernel⟩

end ExecutionPipeline

end Aegis
