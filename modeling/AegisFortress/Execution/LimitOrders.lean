import AegisFortress.Execution.SubmitGuarantees

/-!
# What a limit order can cost

Every limit of the risk check is measured at the router's reference price, whatever the order's own
price.  A limit order is therefore within the greatest notional at its limit as long as that is not
above the reference price, and exceeds it by their ratio at most (`limit_orders_bounded`).
-/

namespace Aegis

namespace ExecutionPipeline

variable {pipeline : ExecutionPipeline ℚ} {answers : Answers ℚ} {markPrices : Dict String ℚ}
  {order : Order ℚ} {books : Books ℚ} {exchange : Exchange ℚ} {price quantity : ℚ}
  {limit : Option ℚ}

/-- A fill within the limit costs no more than the reference price and the ratio allow. -/
lemma fill_le {quantity referencePrice limit most filled price : ℚ} (hprice : 0 < referencePrice)
    (hmost : quantity * referencePrice ≤ most) (hfilled : 0 ≤ filled) (hle : filled ≤ quantity)
    (hlimit : price ≤ limit) : filled * price ≤ most * max 1 (limit / referencePrice) := by
  have hratio : limit ≤ referencePrice * max 1 (limit / referencePrice) := by
    rw [← div_le_iff₀' hprice]
    exact le_max_right _ _
  have hone : 0 ≤ max 1 (limit / referencePrice) := zero_le_one.trans (le_max_left _ _)
  calc filled * price ≤ filled * limit := mul_le_mul_of_nonneg_left hlimit hfilled
    _ ≤ filled * (referencePrice * max 1 (limit / referencePrice)) :=
        mul_le_mul_of_nonneg_left hratio hfilled
    _ = filled * referencePrice * max 1 (limit / referencePrice) := by ring
    _ ≤ quantity * referencePrice * max 1 (limit / referencePrice) :=
        mul_le_mul_of_nonneg_right (mul_le_mul_of_nonneg_right hle hprice.le) hone
    _ ≤ most * max 1 (limit / referencePrice) := mul_le_mul_of_nonneg_right hmost hone

/-- A limit order that gets as far as the risk check has its price, as the exchange rounds it. -/
lemma Prepared.priced (h : Prepared answers order exchange price quantity limit)
    (hlimit : order.orderType = .limit) : ∃ own, limit = some own := by
  have hvalid := h.valid
  rw [Order.validate] at hvalid
  have hrounded := h.limited
  simp only [Exchange.roundPrice] at hrounded
  cases hown : order.price with
  | none =>
      simp only [hlimit, hown, Option.isNone_none, and_self, if_true] at hvalid
      split_ifs at hvalid
  | some own =>
      cases hround : exchange.priceToPrecision with
      | none =>
          simp only [hown, hround, Except.ok.injEq] at hrounded
          exact ⟨own, hrounded.symm⟩
      | some round =>
          cases hvalue : (round order.symbol own).bind PyVal.toFloat with
          | error e => simp [hown, hround, hvalue, Except.map] at hrounded
          | ok value =>
              simp only [hown, hround, hvalue, Except.map, Except.ok.injEq] at hrounded
              exact ⟨value, hrounded.symm⟩

/-- **A limit order is within the greatest notional at the reference price.**  At its own limit, and
for every fill within it, the ratio of the two prices is the most it can exceed that by. -/
theorem limit_orders_bounded (pipeline : ExecutionPipeline ℚ) (answers : Answers ℚ)
    (markPrices : Dict String ℚ) (order : Order ℚ) (books : Books ℚ)
    (hlimit : order.orderType = .limit) :
    calls (pipeline.submit answers markPrices order books).2.trace = []
    ∨ ∃ exchange referencePrice call positions limit,
        selectExchange answers.route = .ok (exchange, referencePrice)
        ∧ calls (pipeline.submit answers markPrices order books).2.trace = [(call, positions)]
        ∧ call.price = some limit
        ∧ call.quantity * referencePrice ≤ pipeline.preTradeRisk.maxOrderNotional
        ∧ call.quantity * limit
          ≤ pipeline.preTradeRisk.maxOrderNotional * max 1 (limit / referencePrice)
        ∧ ∀ filled price, 0 ≤ filled → filled ≤ call.quantity → price ≤ limit →
          filled * price ≤ pipeline.preTradeRisk.maxOrderNotional * max 1 (limit / referencePrice) := by
  rcases pipeline.calls_submit answers markPrices order books with
    ⟨-, hnone⟩ | ⟨exchange, referencePrice, quantity, own, hc, hone⟩
  · exact Or.inl hnone
  · obtain ⟨limit, rfl⟩ := hc.priced hlimit
    have hwithin := (PreTradeRiskValidator.allowed_iff ..).mp hc.allowed
    have hmost : quantity * referencePrice ≤ pipeline.preTradeRisk.maxOrderNotional := hwithin.le_max
    have hquantity : 0 < quantity := hwithin.quantity_pos
    have hprice : 0 < referencePrice := hwithin.price_pos
    refine Or.inr ⟨exchange, referencePrice, _, _, limit, hc.routed, hone, rfl, hmost, ?_, ?_⟩
    · exact fill_le hprice hmost hquantity.le le_rfl le_rfl
    · intro filled price hfilled hle hwithinLimit
      exact fill_le hprice hmost hfilled hle hwithinLimit

/-- Nine coins at a limit, where the router sees them at 100. -/
def limitOrder (limit : ℚ) : Order ℚ :=
  { symbol := "BTC/USDT", side := .buy, quantity := 9, orderType := .limit, price := some limit }

theorem limit_orders_bounded_below : ∃ call positions,
    calls (demoPipeline.submit (demoAnswers (.ok ()) (.ok ())) ∅ (limitOrder 99) demoBooks).2.trace
        = [(call, positions)]
      ∧ call.price = some 99 ∧ call.quantity * 99 ≤ 1000 := by
  have hlimits : (calls (demoPipeline.submit (demoAnswers (.ok ()) (.ok ())) ∅ (limitOrder 99)
      demoBooks).2.trace).map (fun sent => sent.1.price) = [some 99] := by decide +kernel
  rcases limit_orders_bounded demoPipeline (demoAnswers (.ok ()) (.ok ())) ∅ (limitOrder 99) demoBooks
    rfl with hnone | ⟨exchange, referencePrice, call, positions, limit, hroute, hcall, hprice, -, hle, -⟩
  · rw [hnone] at hlimits
    cases hlimits
  · cases hroute
    rw [hcall, List.map_singleton, List.singleton_inj, hprice, Option.some.injEq] at hlimits
    subst hlimits
    have hmost : demoPipeline.preTradeRisk.maxOrderNotional = 1000 := by decide +kernel
    have hratio : max 1 ((99 : ℚ) / 100) = 1 := max_eq_left (by norm_num)
    rw [hmost, hratio, mul_one] at hle
    exact ⟨call, positions, hcall, hprice, hle⟩

/-- At a limit of 200 they may cost 1800 where an order may be worth 1000. -/
theorem limit_order_too_large :
    (limitOrder 200).orderType = .limit
      ∧ (calls (demoPipeline.submit (demoAnswers (.ok ()) (.ok ())) ∅ (limitOrder 200)
          demoBooks).2.trace).map (fun sent => (sent.1.side, sent.1.quantity, sent.1.price))
        = [("buy", 9, some 200)]
      ∧ demoPipeline.preTradeRisk.maxOrderNotional < 9 * 200 := by
  refine ⟨rfl, by decide +kernel, by decide +kernel⟩

end ExecutionPipeline

end Aegis
