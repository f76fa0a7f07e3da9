import AegisFortress.Lib.InFlight
import AegisFortress.Runtime.LiveSteps

/-!
# Short positions

With short entries off, a sale is an exit of the whole position that the strategy sees.  It is
sized when the order book is handled and executed when its request comes up, so two exits of one
position may be on their way at once, and the second one opens a short.  Between two exit signals
of a symbol lies the exit cooldown, and nothing says that the first request is executed by then.

`no_short_positions` is the part that holds: as long as no exit is due while a sale of its symbol
waits, no position ever has a negative quantity.
-/

namespace Aegis

open EventLoop ExecutionPipeline MeanReversionImbalanceStrategy PositionLedger InFlight
open ExchangeResponseNormalizer

namespace LiveTrading

variable (live : LiveTrading ℚ)

/-! ## What the claim takes for granted -/

/-- Nobody but the strategies requests orders. -/
def StrategiesOnly : LiveInput ℚ → Prop
  | .bus (.publish event) => live.requestOf event = none
  | _ => True

instance (input : LiveInput ℚ) : Decidable (live.StrategiesOnly input) :=
  match input with
  | .bus (.publish event) => inferInstanceAs (Decidable (live.requestOf event = none))
  | .bus (.dispatch _) => .isTrue trivial
  | .bus (.act _) => .isTrue trivial
  | .scan _ _ _ _ => .isTrue trivial
  | .candles _ _ _ _ => .isTrue trivial

/-- The exchange reports no more filled than was requested. -/
def FillsAtMost (turn : LiveTurn ℚ) (order : Order ℚ) : Prop :=
  ∀ selected ∈ (selectExchange turn.answers.route).toOption,
    ∀ raw ∈ selected.1.createOrder.toOption, extractFloat (payloadOf raw) FILLED_KEYS ≤ order.quantity

instance (turn : LiveTurn ℚ) (order : Order ℚ) : Decidable (FillsAtMost turn order) :=
  inferInstanceAs (Decidable (∀ _ ∈ _, ∀ _ ∈ _, _ ≤ _))

/-- If the step submits an order, the exchange fills no more than was requested. -/
def Modest (s : Live ℚ) : LiveInput ℚ → Prop
  | .bus (.dispatch turn) => ∀ order ∈ live.headOrder turn s, FillsAtMost turn order
  | _ => True

instance (s : Live ℚ) (input : LiveInput ℚ) : Decidable (live.Modest s input) :=
  match input with
  | .bus (.publish _) => .isTrue trivial
  | .bus (.dispatch turn) =>
      inferInstanceAs (Decidable (∀ order ∈ live.headOrder turn s, FillsAtMost turn order))
  | .bus (.act _) => .isTrue trivial
  | .scan _ _ _ _ => .isTrue trivial
  | .candles _ _ _ _ => .isTrue trivial

/-! ## When the second exit is asked for -/

/-- If the step makes the strategy look at an order book, no exit is due while a sale of the symbol
waits. -/
def OneExit (s : Live ℚ) : LiveInput ℚ → Prop
  | .bus (.dispatch turn) => ∀ orderbook sized rest items symbol midPrice imbalance bestBid bestAsk
      position signal reason,
      s.queue = .service (.orderbookSnapshot orderbook) sized :: rest → orderbook = .dict items →
      ExitDue live.strategy (ledgerOf s) s.state.runtime.killSwitch turn.clock s.state.strategy items
        symbol midPrice imbalance bestBid bestAsk position signal reason →
      ∀ request ∈ live.requests s, request.side = .sell → request.symbol ≠ symbol
  | _ => True

/-! ## The sales on their way -/

/-- What a request takes out of the ledger. -/
def saleOf (request : Request) : Option (String × ℚ) :=
  match request.side with
  | .buy => none
  | .sell => some (request.symbol, request.quantity)

/-- The sales that wait, oldest first. -/
def sales (s : Live ℚ) : List (String × ℚ) := (live.requests s).filterMap saleOf

/-- No position is short, and every position covers the sales that wait; dust is written off. -/
structure LongOnly (s : Live ℚ) : Prop where
  nonneg : ∀ symbol, 0 ≤ (ledgerOf s).quantityOf symbol
  positive : ∀ sale ∈ live.sales s, 0 < sale.2
  covered : Covered EPSILON (ledgerOf s).quantityOf (live.sales s)

variable {live} {s s' : Live ℚ}

lemma LongOnly.of_same (h : live.LongOnly s) (hledger : ledgerOf s' = ledgerOf s)
    (hsales : live.sales s' = live.sales s) : live.LongOnly s' :=
  ⟨hledger ▸ h.nonneg, hsales ▸ h.positive, hledger ▸ hsales ▸ h.covered⟩

/-! ## A fill -/

/-- Buying makes no position smaller, dust apart. -/
lemma sweep_bought {q d : ℚ} (hq : 0 ≤ q) (hd : 0 < d) :
    0 ≤ sweep (sweep q + d) ∧ (EPSILON < q → q ≤ sweep (sweep q + d)) := by
  have heps := epsilon_pos
  simp only [sweep]
  split_ifs with hdust hleft hleft
  · exact ⟨le_rfl, fun h => absurd hdust (not_le.mpr (by rwa [abs_of_nonneg hq]))⟩
  · exact ⟨by linarith, fun h => absurd hdust (not_le.mpr (by rwa [abs_of_nonneg hq]))⟩
  · rw [abs_of_nonneg (by linarith)] at hleft
    rw [abs_of_nonneg hq] at hdust
    exact absurd hleft (not_le.mpr (by linarith))
  · exact ⟨by linarith, fun _ => by linarith⟩

/-- Selling no more than the position, or than dust, leaves no short. -/
lemma sweep_sold {q f a : ℚ} (hq : 0 ≤ q) (hf : 0 < f) (hfa : f ≤ a) (ha : a ≤ max q EPSILON) :
    0 ≤ sweep (sweep q + -f) ∧ (EPSILON < q → q - a ≤ max (sweep (sweep q + -f)) EPSILON) := by
  have heps := epsilon_pos
  rcases le_or_gt q EPSILON with hsmall | hlarge
  · have hdust : sweep q = 0 := by rw [sweep, if_pos (by rwa [abs_of_nonneg hq])]
    rw [max_eq_right hsmall] at ha
    have hgone : sweep (sweep q + -f) = 0 := by
      rw [hdust, zero_add, sweep, if_pos]
      rw [abs_neg, abs_of_pos hf]
      exact hfa.trans ha
    exact ⟨hgone.ge, fun h => absurd h (not_lt.mpr hsmall)⟩
  · have hlive : sweep q = q := sweep_of_settled (Or.inr (by rwa [abs_of_nonneg hq]))
    rw [max_eq_left hlarge.le] at ha
    rw [hlive, sweep]
    split_ifs with hleft
    · refine ⟨le_rfl, fun _ => le_trans ?_ (le_max_right 0 EPSILON)⟩
      exact le_trans (by linarith) ((le_abs_self _).trans hleft)
    · exact ⟨by linarith, fun _ => le_trans (by linarith) (le_max_left _ _)⟩

/-! ## The moves -/

lemma sales_append {requests : List Request} (h : live.requests s' = live.requests s ++ requests) :
    live.sales s' = live.sales s ++ requests.filterMap saleOf := by
  rw [sales, h, List.filterMap_append, sales]

/-- Requests to buy change nothing. -/
lemma LongOnly.of_purchases (h : live.LongOnly s) (hledger : ledgerOf s' = ledgerOf s)
    {requests : List Request} (hrequests : live.requests s' = live.requests s ++ requests)
    (hbuy : ∀ request ∈ requests, request.side = .buy) : live.LongOnly s' := by
  refine h.of_same hledger ?_
  have hnone : requests.filterMap saleOf = [] := by
    rw [List.filterMap_eq_nil_iff]
    intro request hrequest
    rw [saleOf, hbuy request hrequest]
  rw [sales_append hrequests, hnone, List.append_nil]

/-- An order book adds one sale at most, of a position that nothing else is to sell. -/
lemma LongOnly.answered (h : live.LongOnly s) (hshort : live.strategy.allowShortEntries = false)
    {turn : LiveTurn ℚ} {orderbook : PyVal ℚ} {sized : Option ℚ} {rest : List (LiveEvent ℚ)}
    (hone : live.OneExit s (.bus (.dispatch turn)))
    (hqueue : s.queue = .service (.orderbookSnapshot orderbook) sized :: rest)
    (hledger : ledgerOf s' = ledgerOf s)
    (hrequests : live.requests s' = live.requests s
      ++ (live.ordersOf turn orderbook s.state).map fun order =>
        Request.of order (sizedFrom (ledgerOf s) orderbook)) : live.LongOnly s' := by
  rcases live.ordersOf_cases turn orderbook s.state with hnone
    | ⟨items, symbol, midPrice, imbalance, bestBid, bestAsk, order, hdict, horders, hsymbol, hcase⟩
  · rw [hnone] at hrequests
    refine h.of_purchases hledger hrequests ?_
    intro request hrequest
    exact absurd hrequest List.not_mem_nil
  rw [horders, List.map_cons, List.map_nil] at hrequests
  rcases hcase with ⟨side, due, hside, -⟩ | ⟨position, signal, reason, due, hwhole, hagainst⟩
  · refine h.of_purchases hledger hrequests ?_
    intro request hrequest
    rw [List.mem_singleton.mp hrequest]
    exact hside.trans (due.calls.buy hshort)
  · obtain ⟨hheld, hopen⟩ := openPosition_some due.held
    have hquantity : (ledgerOf s).quantityOf symbol = position.quantity := by
      rw [PositionLedger.quantityOf]
      exact congrArg (fun p => (Option.map Position.quantity p).getD 0) hheld
    have hlong : 0 < position.quantity :=
      lt_of_le_of_ne (hquantity ▸ h.nonneg symbol) (Ne.symm hopen)
    rcases hagainst with ⟨-, hside⟩ | ⟨hnegative, -⟩
    · have hsales : live.sales s' = live.sales s ++ [(symbol, position.quantity)] := by
        rw [sales_append hrequests]
        simp [saleOf, Request.of, hside, hsymbol, hwhole, abs_of_pos hlong]
      refine ⟨hledger ▸ h.nonneg, ?_, ?_⟩
      · rw [hsales]
        intro sale hsale
        rcases List.mem_append.mp hsale with hsale | hsale
        · exact h.positive sale hsale
        · rw [List.mem_singleton.mp hsale]
          exact hlong
      · rw [hsales, hledger]
        refine h.covered.decide ?_ hquantity.ge
        intro sale hsale
        obtain ⟨request, hrequest, hsold⟩ := List.mem_filterMap.mp hsale
        rw [saleOf] at hsold
        split at hsold
        · cases hsold
        · rename_i hsell
          cases hsold
          exact hone orderbook sized rest items symbol midPrice imbalance bestBid bestAsk position
            signal reason hqueue hdict due request hrequest hsell
    · exact absurd hnegative (not_lt.mpr hlong.le)

lemma Executed.le_requested {turn : LiveTurn ℚ} {order : Order ℚ} {before after : PositionLedger ℚ}
    {fill : Fill ℚ} (h : Executed turn order before after fill) (hmodest : FillsAtMost turn order) :
    fill.quantity ≤ order.quantity := by
  obtain ⟨selected, hselected, raw, hraw, hquantity, -⟩ := h.reported
  rw [hquantity]
  exact hmodest selected hselected raw hraw

/-- The oldest sale leaves the bus with its request. -/
lemma sales_submitted {request : Request}
    (hrequests : live.requests s = request :: live.requests s') :
    live.sales s = (saleOf request).toList ++ live.sales s' := by
  rw [sales, hrequests, List.filterMap_cons]
  cases saleOf request <;> rfl

section Submitted

variable {turn : LiveTurn ℚ} {order : Order ℚ} {sized : Option ℚ} {fill : Fill ℚ}

/-- What is bought is added. -/
lemma LongOnly.bought (h : live.LongOnly s)
    (hrequests : live.requests s = Request.of order sized :: live.requests s')
    (hfill : Executed turn order (ledgerOf s) (ledgerOf s') fill) (hside : order.side = .buy) :
    live.LongOnly s' := by
  have hsales : live.sales s' = live.sales s := by
    have hnone : saleOf (Request.of order sized) = none := by simp [saleOf, Request.of, hside]
    rw [sales_submitted hrequests, hnone]
    rfl
  have hbought := sweep_bought (h.nonneg order.symbol) hfill.filled
  have hself := hfill.quantity_self
  rw [hside, OrderSide.signed_buy] at hself
  rw [← hself] at hbought
  refine ⟨fun symbol => ?_, hsales ▸ h.positive, ?_⟩
  · by_cases hsymbol : symbol = order.symbol
    · exact hsymbol ▸ hbought.1
    · exact hfill.quantity_of_ne hsymbol ▸ h.nonneg symbol
  · rw [hsales]
    refine h.covered.deposit fun symbol hlarge => ?_
    by_cases hsymbol : symbol = order.symbol
    · subst hsymbol
      exact hbought.2 hlarge
    · exact (hfill.quantity_of_ne hsymbol).ge

/-- What is sold was covered. -/
lemma LongOnly.sold (h : live.LongOnly s)
    (hrequests : live.requests s = Request.of order sized :: live.requests s')
    (hfill : Executed turn order (ledgerOf s) (ledgerOf s') fill)
    (hmodest : FillsAtMost turn order) (hside : order.side = .sell) : live.LongOnly s' := by
  have hsales : live.sales s = (order.symbol, order.quantity) :: live.sales s' := by
    have hsale : saleOf (Request.of order sized) = some (order.symbol, order.quantity) := by
      simp [saleOf, Request.of, hside]
    rw [sales_submitted hrequests, hsale]
    rfl
  have hpositive : ∀ sale ∈ live.sales s', 0 < sale.2 := fun sale hsale =>
    h.positive sale (hsales ▸ List.mem_cons_of_mem _ hsale)
  have hcovered := h.covered
  rw [hsales] at hcovered
  have hle := hfill.le_requested hmodest
  have hamount : order.quantity ≤ max ((ledgerOf s).quantityOf order.symbol) EPSILON :=
    hcovered.head_le fun sale hsale => (hpositive sale hsale).le
  have hsold := sweep_sold (h.nonneg order.symbol) hfill.filled hle hamount
  have hself := hfill.quantity_self
  rw [hside, OrderSide.signed_sell] at hself
  rw [← hself] at hsold
  refine ⟨fun symbol => ?_, hpositive, ?_⟩
  · by_cases hsymbol : symbol = order.symbol
    · exact hsymbol ▸ hsold.1
    · exact hfill.quantity_of_ne hsymbol ▸ h.nonneg symbol
  · exact hcovered.settle (hfill.filled.le.trans hle) hsold.2 fun _ hne => hfill.quantity_of_ne hne

/-- A sale that is not executed is no claim any more. -/
lemma LongOnly.dropped (h : live.LongOnly s)
    (hrequests : live.requests s = Request.of order sized :: live.requests s')
    (hledger : ledgerOf s' = ledgerOf s) : live.LongOnly s' := by
  have hsales := sales_submitted hrequests
  refine ⟨hledger ▸ h.nonneg, fun sale hsale => ?_, ?_⟩
  · exact h.positive sale (hsales ▸ List.mem_append_right _ hsale)
  · rw [hledger]
    have hcovered := h.covered
    cases hsale : saleOf (Request.of order sized) with
    | none =>
        rw [hsales, hsale] at hcovered
        exact hcovered
    | some sale =>
        rw [hsale] at hsales
        rw [hsales] at hcovered
        have hamount : 0 < sale.2 := h.positive sale (hsales ▸ List.mem_cons_self)
        refine hcovered.settle hamount.le (fun _ => ?_) fun _ _ => rfl
        exact le_trans (by linarith) (le_max_left _ _)

end Submitted

/-- **A step opens no short.** -/
lemma LongOnly.step (h : live.LongOnly s) (hshort : live.strategy.allowShortEntries = false)
    {input : LiveInput ℚ} (honly : live.StrategiesOnly input) (hmodest : live.Modest s input)
    (hone : live.OneExit s input) (hstep : live.step s input = some s') : live.LongOnly s' := by
  cases step_moves hstep with
  | quiet hledger _ hrequests => exact h.of_same hledger (by rw [sales, hrequests, sales])
  | published hledger _ hrequests =>
      rw [StrategiesOnly] at honly
      rw [honly] at hrequests
      exact h.of_same hledger (by rw [sales_append hrequests]; exact List.append_nil _)
  | answered hqueue hledger _ hrequests =>
      exact h.answered hshort hone hqueue hledger hrequests
  | @submitted turn _ _ _ order _ _ hhead hrequests hbooks _ =>
      have hmost : FillsAtMost turn order := hmodest order hhead
      rcases submit_moves hbooks with ⟨fill, hfill⟩ | hledger
      · cases hside : order.side with
        | buy => exact h.bought hrequests hfill hside
        | sell => exact h.sold hrequests hfill hmost hside
      · exact h.dropped hrequests hledger
  | bought _ horder hledger _ hrequests =>
      refine h.of_purchases hledger hrequests ?_
      intro request hrequest
      rw [List.mem_singleton.mp hrequest]
      exact (MomentumTrapService.orderOf_some horder).2.2.1

/-- **No accidental short position.**  With short entries off and no short to begin with, in every
run in which no exit is due while a sale of its symbol waits, no position ever has a negative
quantity. -/
theorem no_short_positions (live : LiveTrading ℚ)
    (hshort : live.strategy.allowShortEntries = false) (s₀ : Live ℚ)
    (hidle : live.requests s₀ = [])
    (hlong : ∀ symbol position, (ledgerOf s₀).getPosition symbol = some position →
      0 ≤ position.quantity)
    (inputs : List (LiveInput ℚ))
    (honly : Machine.Along live.step s₀ (fun _ input => live.StrategiesOnly input) inputs)
    (hmodest : Machine.Along live.step s₀ live.Modest inputs)
    (hone : Machine.Along live.step s₀ live.OneExit inputs) (s : Live ℚ)
    (hrun : Machine.run live.step s₀ inputs = some s) (symbol : String) (position : Position ℚ)
    (hposition : (ledgerOf s).getPosition symbol = some position) : 0 ≤ position.quantity := by
  have hinit : live.LongOnly s₀ := by
    have hsales : live.sales s₀ = [] := by rw [sales, hidle, List.filterMap_nil]
    refine ⟨fun symbol => ?_, fun sale hsale => ?_, ?_⟩
    · rw [PositionLedger.quantityOf]
      cases hget : (ledgerOf s₀).getPosition symbol with
      | none => exact le_rfl
      | some position => exact hlong symbol position hget
    · rw [hsales] at hsale
      exact absurd hsale List.not_mem_nil
    · rw [hsales]
      exact covered_nil epsilon_pos.le
  have hlongOnly : live.LongOnly s := by
    refine Machine.Along.invariant (honly.and (hmodest.and hone)) live.LongOnly hinit ?_ hrun
    rintro s input s' hs ⟨hi, hm, ho⟩ hstep
    exact hs.step hshort hi hm ho hstep
  have hnonneg := hlongOnly.nonneg symbol
  rw [PositionLedger.quantityOf, hposition] at hnonneg
  exact hnonneg

/-! ## Two exits of one position -/

/-- A ledger with one coin, bought at 100. -/
def oneCoin : PositionLedger ℚ :=
  { positions := Dict.empty.set "BTC/USDT" ⟨"BTC/USDT", 1, 100, 0, 0⟩, trades := []
    realizedPnlTotal := 0 }

/-- A check that no sale waits when an order book is handled. -/
def noSaleWaits (s : Live ℚ) : Bool :=
  match s.queue with
  | .service (.orderbookSnapshot _) _ :: _ => (demoLive.requests s).all fun r => r.side = .buy
  | _ => true

lemma oneExit_of_check (s : Live ℚ) (input : LiveInput ℚ) (h : noSaleWaits s = true) :
    demoLive.OneExit s input := by
  cases input with
  | bus input =>
      cases input with
      | dispatch turn =>
          intro orderbook sized rest items symbol midPrice imbalance bestBid bestAsk position signal
            reason hqueue hdict due request hrequest hsell
          rw [noSaleWaits, hqueue, List.all_eq_true] at h
          have hbuy := of_decide_eq_true (h request hrequest)
          cases hsell.symm.trans hbuy
      | _ => trivial
  | _ => trivial

/-- One exit, half of which is filled. -/
def oneExit : List (LiveInput ℚ) :=
  List.replicate 9 (.bus (.publish (demoTick 100))) ++ [.bus (.publish (demoBook 90))]
    ++ List.replicate 10 (demoDispatch 0 1) ++ [demoDispatch 1 (1 / 2)]

/-- Half of the coin is left. -/
theorem no_short_positions_one_exit :
    ∃ s position, Machine.run demoLive.step (demoStart oneCoin) oneExit = some s
      ∧ (ledgerOf s).getPosition "BTC/USDT" = some position ∧ position.quantity = 1 / 2
      ∧ 0 ≤ position.quantity := by
  have hend : (Machine.run demoLive.step (demoStart oneCoin) oneExit).map
      (fun s => ((ledgerOf s).getPosition "BTC/USDT").map Position.quantity) = some (some (1 / 2)) := by
    decide +kernel
  obtain ⟨s, hrun, hs⟩ := Option.map_eq_some_iff.mp hend
  obtain ⟨position, hposition, hhalf⟩ := Option.map_eq_some_iff.mp hs
  have hlong : ∀ symbol position, (ledgerOf (demoStart oneCoin)).getPosition symbol = some position →
      0 ≤ position.quantity := by
    intro symbol position h
    have hmem := Dict.get?_eq_some.mp h
    rw [show (ledgerOf (demoStart oneCoin)).positions.entries
      = [("BTC/USDT", ⟨"BTC/USDT", 1, 100, 0, 0⟩)] from rfl, List.mem_singleton] at hmem
    rw [(Prod.mk.inj hmem).2]
    exact zero_le_one
  refine ⟨s, position, hrun, hposition, hhalf, ?_⟩
  exact no_short_positions demoLive (by decide +kernel) (demoStart oneCoin) rfl hlong oneExit
    (Machine.along_of_decide (by decide +kernel))
    (Machine.along_of_decide (by decide +kernel))
    (Machine.along_of_check (fun s _ => noSaleWaits s) oneExit_of_check (by decide +kernel))
    s hrun "BTC/USDT" position hposition

/-- The second order book comes six seconds after the first, while the first sale still waits: both
sell the coin, and a short is left. -/
theorem second_exit_short :
    demoLive.strategy.allowShortEntries = false
      ∧ demoLive.requests (demoStart oneCoin) = []
      ∧ (∀ e ∈ (ledgerOf (demoStart oneCoin)).positions.entries, 0 ≤ e.2.quantity)
      ∧ Machine.Along demoLive.step (demoStart oneCoin) (fun _ input => demoLive.StrategiesOnly input)
        (demoFall 6 ++ List.replicate 2 (demoDispatch 7 1))
      ∧ Machine.Along demoLive.step (demoStart oneCoin) demoLive.Modest
        (demoFall 6 ++ List.replicate 2 (demoDispatch 7 1))
      ∧ (Machine.run demoLive.step (demoStart oneCoin)
          (demoFall 6 ++ List.replicate 2 (demoDispatch 7 1))).map
          (fun s => ((ledgerOf s).getPosition "BTC/USDT").map Position.quantity) = some (some (-1)) := by
  refine ⟨by decide +kernel, rfl, by decide +kernel, ?_, ?_, by decide +kernel⟩
  · exact Machine.along_of_decide (by decide +kernel)
  · exact Machine.along_of_decide (by decide +kernel)

end LiveTrading

end Aegis
