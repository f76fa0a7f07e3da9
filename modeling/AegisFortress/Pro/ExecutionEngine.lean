import AegisFortress.Lib.Run
import AegisFortress.Models.Order
import AegisFortress.Pro.RiskManager

/-!
# Live orders

`_live_order` of `execution.py`, with what it calls, as a machine that waits for one answer after the
other: of the clock, the order book, and the exchange.  Every limit order is for the whole amount, also the
one that replaces an order that was filled in part; the market order of the fallback reads a name that is
not defined, and is never submitted.

`live_order_fills_iff`: the orders of a call fill the amount exactly if its limit orders do.
-/

namespace Aegis.Pro

/-- The dictionary of an order, as the exchange sends it; the average may be there and be `None`. -/
structure OrderReply where
  id : Option String
  status : Option String
  average : Option (Option ℚ)

/-- What becomes of a new order: the id under which the exchange has it, unless it does not stand, and what
it answers, unless that raises or is `None`. -/
structure OrderPlacement where
  order : Option String
  answer : Option OrderReply

/-- What the engine waits for. -/
inductive Reply
  | clock (now : ℚ)
  | book (touch : Option ℚ)
  | limit (placement : OrderPlacement)
  | cancel
  | status (answer : Except PyError (Option OrderReply))
  | market (placement : OrderPlacement)

/-- The arguments of `_live_order`. -/
structure OrderCall where
  symbol : String
  side : OrderSide
  amount : ℚ
  expectedPrice : ℚ

/-- An order at the exchange. -/
structure SubmittedOrder where
  id : String
  qty : ℚ
  market : Bool

/-- Where the engine is, and what it remembers there. -/
inductive Phase
  | start
  | loopTop (orderId : Option String)
  | touch (orderId : Option String)
  | cancelOld (price : ℚ)
  | place (price : ℚ)
  | adjustAt (orderId : Option String) (price : ℚ)
  | pollFirst (orderId : Option String) (price adjustDeadline : ℚ)
  | pollSecond (orderId : Option String) (price adjustDeadline : ℚ)
  | check (orderId : Option String) (price adjustDeadline : ℚ) (attempt : ℕ)
  | cancelLast
  | marketPlace (clientId : String)
  | marketCheck (order : OrderReply) (attempt : ℕ)
  | finished (outcome : Except PyError (Option OrderReply))

/-- A call of `_live_order` at work. -/
structure LiveOrder where
  phase : Phase := .start
  deadline : ℚ := 0
  clock : ℚ := 0
  risk : RiskManager := {}
  submitted : List SubmittedOrder := []
  refusedMarket : ℕ := 0

namespace LiveOrder

variable (cfg : AegisConfig) (call : OrderCall)

/-- The client id of a market order.  `_live_market_order` takes none, and defines none. -/
def marketClientId : Except PyError String := undefinedName "client_id"

/-- `_live_market_order`: every exception is caught, and `None` is returned. -/
def fallBack (s : LiveOrder) : LiveOrder :=
  match marketClientId with
  | .ok clientId => { s with phase := .marketPlace clientId }
  | .error _ => { s with phase := .finished (.ok none) }

/-- Behind the loop: the last limit order is cancelled. -/
def leaveLoop (s : LiveOrder) (orderId : Option String) : LiveOrder :=
  if (orderId.filter (· ≠ "")).isSome then { s with phase := .cancelLast } else s.fallBack

/-- An order that the exchange now has. -/
def submit (s : LiveOrder) (order : Option String) (market : Bool) : LiveOrder :=
  { s with submitted := s.submitted ++ order.toList.map fun id => ⟨id, call.amount, market⟩ }

/-- A status of the limit order that has been fetched. -/
def onStatus (s : LiveOrder) (orderId : Option String) (price adjustDeadline : ℚ) :
    Option OrderReply → LiveOrder
  | none => { s with phase := .loopTop orderId }
  | some reply =>
      if reply.status = some "closed" ∨ reply.status = some "filled" then
        match reply.average.getD (some price) with
        | none =>
            { s with
              phase := .finished
                (.error ⟨.typeError, "unsupported format string passed to NoneType.__format__"⟩) }
        | some average =>
            { s with
              risk := s.risk.recordSlippage cfg s.clock call.symbol call.expectedPrice average
              phase := .finished (.ok (some reply)) }
      else if reply.status = some "canceled" then { s with phase := .loopTop none }
      else { s with phase := .pollFirst orderId price adjustDeadline }

/-- The machine takes one answer. -/
def step (s : LiveOrder) : Reply → Option LiveOrder
  | .clock now =>
      let s := { s with clock := now }
      match s.phase with
      | .start => some { s with deadline := now + cfg.limitCancelSecs, phase := .loopTop none }
      | .loopTop orderId =>
          if now < s.deadline then some { s with phase := .touch orderId } else some (s.leaveLoop orderId)
      | .adjustAt orderId price =>
          some { s with phase := .pollFirst orderId price (now + cfg.limitAdjustSecs) }
      | .pollFirst orderId price adjustDeadline =>
          if now < adjustDeadline then some { s with phase := .pollSecond orderId price adjustDeadline }
          else some { s with phase := .loopTop orderId }
      | .pollSecond orderId price adjustDeadline =>
          if now < s.deadline then some { s with phase := .check orderId price adjustDeadline 1 }
          else some { s with phase := .loopTop orderId }
      | _ => none
  | .book touch =>
      match s.phase, touch with
      | .touch orderId, none => some (s.leaveLoop orderId)
      | .touch none, some price => some { s with phase := .place price }
      | .touch (some _), some price => some { s with phase := .cancelOld price }
      | _, _ => none
  | .cancel =>
      match s.phase with
      | .cancelOld price => some { s with phase := .place price }
      | .cancelLast => some s.fallBack
      | _ => none
  | .limit placement =>
      match s.phase with
      | .place price =>
          let s := s.submit call placement.order false
          match placement.answer with
          | none => some (s.leaveLoop none)
          | some reply => some { s with phase := .adjustAt reply.id price }
      | _ => none
  | .status answer =>
      match s.phase, answer with
      | .check orderId price adjustDeadline _, .ok status =>
          some (s.onStatus cfg call orderId price adjustDeadline status)
      | .check orderId price adjustDeadline attempt, .error e =>
          if attempt < 3 then some { s with phase := .check orderId price adjustDeadline (attempt + 1) }
          else some { s with phase := .finished (.error e) }
      | .marketCheck order _, .ok status => some { s with phase := .finished (.ok (status.or (some order))) }
      | .marketCheck order attempt, .error _ =>
          if attempt < 3 then some { s with phase := .marketCheck order (attempt + 1) }
          else some { s with phase := .finished (.ok none) }
      | _, _ => none
  | .market placement =>
      match s.phase with
      | .marketPlace _ =>
          let s := s.submit call placement.order true
          match placement.answer with
          | none => some { s with phase := .finished (.ok none), refusedMarket := s.refusedMarket + 1 }
          | some reply =>
              if reply.id.isSome then some { s with phase := .marketCheck reply 1 }
              else some { s with phase := .finished (.ok none) }
      | _ => none

/-- A call, from its first answer on. -/
def run (replies : List Reply) : Option LiveOrder := Machine.run (step cfg call) {} replies

/-! ## What is filled -/

variable (filled : String → ℚ) (s : LiveOrder)

/-- The quantity filled over all orders. -/
def totalFilled : ℚ := (s.submitted.map fun order => filled order.id).sum

/-- Every market order was accepted, and filled in full. -/
def MarketFilled : Prop :=
  s.refusedMarket = 0 ∧ ∀ order ∈ s.submitted, order.market = true → filled order.id = order.qty

/-- Never more than the amount, and the amount if the market orders are filled. -/
def FillsAmount : Prop :=
  s.totalFilled filled ≤ call.amount ∧ (s.MarketFilled filled → s.totalFilled filled = call.amount)

/-- The limit orders that the exchange has got. -/
def standing (replies : List Reply) : List String :=
  replies.flatMap fun
    | .limit placement => placement.order.toList
    | _ => []

/-! ## No market order -/

variable {cfg call s}

/-- No market order is on its way. -/
def Phase.NoMarket : Phase → Prop
  | .marketPlace _ | .marketCheck _ _ => False
  | _ => True

/-- Only limit orders are submitted, each for the whole amount. -/
structure OnlyLimits (call : OrderCall) (replies : List Reply) (s : LiveOrder) : Prop where
  submitted : s.submitted = (standing replies).map fun id => ⟨id, call.amount, false⟩
  refusedMarket : s.refusedMarket = 0
  noMarket : Phase.NoMarket s.phase

lemma fallBack_eq : s.fallBack = { s with phase := .finished (.ok none) } := rfl

lemma standing_snoc (replies : List Reply) (reply : Reply) :
    standing (replies ++ [reply]) = standing replies ++ standing [reply] := List.flatMap_append

/-- A step that submits nothing and stays among the limit orders. -/
lemma OnlyLimits.later {replies : List Reply} {reply : Reply} {s' : LiveOrder}
    (h : OnlyLimits call replies s) (hreply : standing [reply] = []) (hsame : s'.submitted = s.submitted)
    (hrefused : s'.refusedMarket = s.refusedMarket) (hphase : Phase.NoMarket s'.phase) :
    OnlyLimits call (replies ++ [reply]) s' := by
  refine ⟨?_, hrefused.trans h.refusedMarket, hphase⟩
  rw [hsame, h.submitted, standing_snoc, hreply, List.append_nil]

lemma leaveLoop_spec (orderId : Option String) : (s.leaveLoop orderId).submitted = s.submitted
    ∧ (s.leaveLoop orderId).refusedMarket = s.refusedMarket
    ∧ Phase.NoMarket (s.leaveLoop orderId).phase := by
  rw [leaveLoop, fallBack_eq]
  split_ifs <;> exact ⟨rfl, rfl, trivial⟩

lemma onStatus_spec (cfg : AegisConfig) (call : OrderCall) (s : LiveOrder) (orderId : Option String)
    (price adjustDeadline : ℚ) (status : Option OrderReply) :
    (s.onStatus cfg call orderId price adjustDeadline status).submitted = s.submitted
      ∧ (s.onStatus cfg call orderId price adjustDeadline status).refusedMarket = s.refusedMarket
      ∧ Phase.NoMarket (s.onStatus cfg call orderId price adjustDeadline status).phase := by
  cases status with
  | none => exact ⟨rfl, rfl, trivial⟩
  | some reply =>
      simp only [onStatus]
      split_ifs
      · split <;> exact ⟨rfl, rfl, trivial⟩
      · exact ⟨rfl, rfl, trivial⟩
      · exact ⟨rfl, rfl, trivial⟩

/-- **One answer** leaves only limit orders. -/
lemma step_onlyLimits {replies : List Reply} {reply : Reply} {s' : LiveOrder}
    (h : OnlyLimits call replies s) (hstep : step cfg call s reply = some s') :
    OnlyLimits call (replies ++ [reply]) s' := by
  cases reply with
  | clock now =>
      simp only [step] at hstep
      split at hstep
      · cases hstep
        exact h.later rfl rfl rfl trivial
      · split_ifs at hstep <;> cases hstep
        · exact h.later rfl rfl rfl trivial
        · obtain ⟨hsame, hrefused, hphase⟩ := leaveLoop_spec (s := { s with clock := now }) _
          exact h.later rfl hsame hrefused hphase
      · cases hstep
        exact h.later rfl rfl rfl trivial
      · split_ifs at hstep <;> cases hstep <;> exact h.later rfl rfl rfl trivial
      · split_ifs at hstep <;> cases hstep <;> exact h.later rfl rfl rfl trivial
      · cases hstep
  | book touch =>
      simp only [step] at hstep
      split at hstep
      · cases hstep
        obtain ⟨hsame, hrefused, hphase⟩ := leaveLoop_spec (s := s) _
        exact h.later rfl hsame hrefused hphase
      · cases hstep
        exact h.later rfl rfl rfl trivial
      · cases hstep
        exact h.later rfl rfl rfl trivial
      · cases hstep
  | cancel =>
      simp only [step] at hstep
      split at hstep
      · cases hstep
        exact h.later rfl rfl rfl trivial
      · cases hstep
        exact h.later rfl rfl rfl trivial
      · cases hstep
  | limit placement =>
      have hplaced : OnlyLimits call (replies ++ [.limit placement])
          { s.submit call placement.order false with phase := .start } := by
        refine ⟨?_, h.refusedMarket, trivial⟩
        rw [standing_snoc, List.map_append, ← h.submitted]
        simp [standing, submit]
      simp only [step] at hstep
      split at hstep
      · split at hstep
        · cases hstep
          obtain ⟨hsame, hrefused, hphase⟩ := leaveLoop_spec (s := s.submit call placement.order false) none
          exact ⟨hsame.trans hplaced.submitted, hrefused.trans hplaced.refusedMarket, hphase⟩
        · cases hstep
          exact ⟨hplaced.submitted, hplaced.refusedMarket, trivial⟩
      · cases hstep
  | status answer =>
      simp only [step] at hstep
      split at hstep
      · cases hstep
        obtain ⟨hsame, hrefused, hphase⟩ := onStatus_spec cfg call s _ _ _ _
        exact h.later rfl hsame hrefused hphase
      · split_ifs at hstep <;> cases hstep <;> exact h.later rfl rfl rfl trivial
      · next hphase => exact absurd h.noMarket (by rw [hphase]; exact id)
      · next hphase => exact absurd h.noMarket (by rw [hphase]; exact id)
      · cases hstep
  | market placement =>
      -- nothing waits for the answer to a market order
      simp only [step] at hstep
      split at hstep
      · next hphase => exact absurd h.noMarket (by rw [hphase]; exact id)
      · cases hstep

lemma run_onlyLimits {replies : List Reply} (hrun : run cfg call replies = some s) :
    OnlyLimits call replies s := by
  have hstart : OnlyLimits call [] {} := ⟨rfl, rfl, trivial⟩
  refine Machine.run_history (OnlyLimits call) hstart ?_ replies s hrun
  intro past s reply s' _ h hstep
  exact step_onlyLimits h hstep

/-- **The fills of a call.**  They are never more than the amount, and the amount itself if the market
orders are filled, exactly if the limit orders that the exchange has got fill the amount. -/
theorem live_order_fills_iff (cfg : AegisConfig) (call : OrderCall) (replies : List Reply) (s : LiveOrder)
    (hrun : run cfg call replies = some s) (filled : String → ℚ) :
    s.FillsAmount call filled ↔ ((standing replies).map filled).sum = call.amount := by
  have h := run_onlyLimits hrun
  have htotal : s.totalFilled filled = ((standing replies).map filled).sum := by
    rw [totalFilled, h.submitted, List.map_map]
    rfl
  have hmarket : s.MarketFilled filled := by
    refine ⟨h.refusedMarket, ?_⟩
    intro order horder hkind
    rw [h.submitted] at horder
    obtain ⟨id, -, rfl⟩ := List.mem_map.mp horder
    cases hkind
  rw [FillsAmount, htotal]
  constructor
  · exact fun hfills => hfills.2 hmarket
  · exact fun hsum => ⟨hsum.le, fun _ => hsum⟩

/-! ## Two calls -/

/-- To buy one unit. -/
def buyOne : OrderCall := ⟨"BTC/USDT", .buy, 1, 100⟩

def openStatus : OrderReply := ⟨some "a", some "open", none⟩

def closedStatus (id : String) : OrderReply := ⟨some id, some "closed", some (some 100)⟩

/-- The first limit order is filled. -/
def filledAtOnce : List Reply :=
  [.clock 0, .clock 0, .book (some 100), .limit ⟨some "a", some openStatus⟩, .clock 0, .clock 0, .clock 0,
    .status (.ok (some (closedStatus "a")))]

/-- The first limit order is replaced after two seconds, and the second one is filled. -/
def replacedOnce : List Reply :=
  [.clock 0, .clock 0, .book (some 100), .limit ⟨some "a", some openStatus⟩, .clock 0, .clock 0, .clock 0,
    .status (.ok (some openStatus)), .clock 2, .clock 2, .book (some 100), .cancel,
    .limit ⟨some "b", some openStatus⟩, .clock 2, .clock 2, .clock 2, .status (.ok (some (closedStatus "b")))]

/-- A limit order that is filled at once fills the amount. -/
theorem live_order_fills_iff_at_once : ∃ s, run {} buyOne filledAtOnce = some s
    ∧ s.FillsAmount buyOne fun id => if id = "a" then 1 else 0 := by
  have hsome : (run {} buyOne filledAtOnce).isSome = true := by decide +kernel
  obtain ⟨s, hrun⟩ := Option.isSome_iff_exists.mp hsome
  refine ⟨s, hrun, (live_order_fills_iff {} buyOne filledAtOnce s hrun _).mpr ?_⟩
  decide +kernel

/-- Two fifths filled before the replacement are bought twice; and without an order book nothing is bought,
although no market order was refused. -/
theorem live_order_wrong_amount :
    (run {} buyOne replacedOnce).map
        (fun s => s.totalFilled fun id => if id = "a" then 2 / 5 else if id = "b" then 1 else 0)
      = some (7 / 5)
    ∧ (run {} buyOne [.clock 0, .clock 0, .book none]).map
        (fun s => (s.totalFilled fun _ => 1, s.refusedMarket)) = some (0, 0) := by
  decide +kernel

end LiveOrder

end Aegis.Pro
