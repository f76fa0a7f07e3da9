import AegisFortress.Lib.History
import AegisFortress.Pro.MarketMaker

/-!
# The inventory of the market maker

The maker asks the exchange for the filled quantities of the two orders of its quote, and adds them to
the inventory of the quote.  The exchange reports what an order has filled so far, so a second poll adds
the first one again; the orders of an earlier quote are not asked for, and a quote that is deleted takes
its inventory along.

`tracked_inventory_iff` is about every run.  After every poll the inventory is what the orders have
filled, exactly if before every poll it was what the other orders have filled, those that are not asked
for.
-/

namespace Aegis.Pro

open Raising

variable {K : Type} [Field K] [LinearOrder K]

/-- A call of the maker; the polls come with what the exchange reports. -/
inductive MakerCall (K : Type)
  | cycle (call : CycleCall K)
  | check (symbol : String) (fetchOrder : String → Option K)

namespace MarketMaker

/-- A call, whatever it returns or raises. -/
def perform (mode : String) (lib : MakerLib K) : MakerCall K → EStateM PyError (MarketMaker K) Unit
  | .cycle call => runCycle mode lib call >>= fun _ => pure ()
  | .check symbol fetchOrder => checkFills symbol fetchOrder >>= fun _ => pure ()

/-- The maker after a call. -/
def step (mode : String) (lib : MakerLib K) (maker : MarketMaker K) (call : MakerCall K) :
    MarketMaker K :=
  final ((perform mode lib call).run maker)

/-- The maker after a run. -/
def after (mode : String) (lib : MakerLib K) (maker : MarketMaker K) (calls : List (MakerCall K)) :
    MarketMaker K :=
  calls.foldl (step mode lib) maker

variable (maker : MarketMaker K) (symbol : String) (fetchOrder : String → Option K)

/-- The inventory that the next cycle of a symbol reads. -/
def tracked : K := (maker.quotes.get? symbol).elim 0 MMQuote.inventory

/-- The orders of a symbol placed so far. -/
def ordersOf : List MMOrder := maker.placed.filter fun order => order.symbol = symbol

/-- The order belongs to the quote of its symbol, and is asked for. -/
def isPolled (order : MMOrder) : Bool :=
  (maker.quotes.get? order.symbol).any fun quote => quote.polled order.side = some order.id

/-- **What orders have filled**: the bought less the sold. -/
def netFilled (orders : List MMOrder) : K :=
  (orders.map fun order => order.side.signed ((fetchOrder order.id).getD 0)).sum

/-- The exchange reports the filled quantity of every order. -/
def Reported : Prop := ∀ order ∈ maker.placed, ∃ filled ∈ fetchOrder order.id, 0 ≤ filled

/-- The inventory is what the orders of the symbol have filled. -/
def CountsFills : Prop := maker.tracked symbol = netFilled fetchOrder (maker.ordersOf symbol)

/-- What the orders have filled that are not asked for. -/
def othersFilled : K :=
  netFilled fetchOrder ((maker.ordersOf symbol).filter fun order => ¬ maker.isPolled order)

/-- The ids of a quote are ids of orders of its symbol and their side. -/
def Linked : Prop :=
  ∀ symbol quote, maker.quotes.get? symbol = some quote → ∀ side id, quote.orderId side = some id →
    ⟨symbol, side, id⟩ ∈ maker.placed

/-- The orders at the exchange have different ids. -/
def Fresh : Prop := (maker.placed.map MMOrder.id).Nodup

/-! ## What a call keeps -/

section Keeps

variable {maker symbol fetchOrder} {later : MarketMaker K} {mode : String} {lib : MakerLib K}

/-- Orders are only added, and quotes only know orders that were placed. -/
structure Keeps (maker later : MarketMaker K) : Prop where
  placed : maker.placed <+: later.placed
  linked : maker.Linked → later.Linked

omit [Field K] [LinearOrder K] in
lemma Keeps.refl : Keeps maker maker := ⟨List.prefix_rfl, id⟩

omit [Field K] [LinearOrder K] in
lemma Keeps.trans {last : MarketMaker K} (h : Keeps maker later) (h' : Keeps later last) :
    Keeps maker last :=
  ⟨h.placed.trans h'.placed, fun hlinked => h'.linked (h.linked hlinked)⟩

omit [Field K] [LinearOrder K] in
/-- An order more at the exchange. -/
lemma keeps_order (order : MMOrder) : Keeps maker { maker with placed := maker.placed ++ [order] } := by
  refine ⟨List.prefix_append _ _, ?_⟩
  intro hlinked symbol quote hquote side id hid
  exact List.mem_append_left _ (hlinked symbol quote hquote side id hid)

omit [Field K] [LinearOrder K] in
/-- A quote written over orders that were placed. -/
lemma keeps_set {quote : MMQuote K}
    (h : ∀ side id, quote.orderId side = some id → ⟨symbol, side, id⟩ ∈ maker.placed) :
    Keeps maker { maker with quotes := maker.quotes.set symbol quote } := by
  refine ⟨List.prefix_rfl, ?_⟩
  intro hlinked symbol' quote' hquote side id hid
  simp only [Dict.get?_set] at hquote
  split_ifs at hquote with heq
  · cases hquote
    subst heq
    exact h side id hid
  · exact hlinked symbol' quote' hquote side id hid

lemma cancelStale_keeps (now : K) :
    Leads (cancelStale symbol now) maker (fun _ => Keeps maker) (fun _ => Keeps maker) := by
  rw [cancelStale, leads_modify]
  split
  · exact Keeps.refl
  · split_ifs
    · exact Keeps.refl
    · refine ⟨List.prefix_rfl, ?_⟩
      intro hlinked symbol' quote' hquote side id hid
      exact hlinked symbol' quote' (Dict.get?_of_erase hquote) side id hid

omit [Field K] [LinearOrder K] in
/-- An id that comes back is the id of an order. -/
lemma placeLimit_keeps (side : OrderSide) (placing : Placing) :
    Leads (placeLimit mode symbol side placing) maker
      (fun answer later => Keeps maker later
        ∧ ∀ id, answer = some id → ⟨symbol, side, id⟩ ∈ later.placed)
      (fun _ => Keeps maker) := by
  have hlast : ∀ id id', some id = some id' →
      (⟨symbol, side, id'⟩ : MMOrder) ∈ maker.placed ++ [⟨symbol, side, id⟩] := by
    intro id id' h
    cases h
    exact List.mem_append_right _ (List.mem_singleton.mpr rfl)
  simp only [placeLimit]
  split_ifs
  · simp only [leads_bind, leads_modify, leads_pure]
    exact ⟨keeps_order _, hlast _⟩
  · cases placing.answer with
    | refused =>
        simp only [leads_pure]
        exact ⟨Keeps.refl, fun id h => by cases h⟩
    | accepted id =>
        simp only [leads_bind, leads_modify, leads_pure]
        exact ⟨keeps_order _, hlast id⟩
    | unanswered id =>
        simp only [leads_bind, leads_modify, leads_pure]
        exact ⟨keeps_order _, fun id h => by cases h⟩

omit [Field K] [LinearOrder K] in
lemma quote_keeps (call : CycleCall K) (bidPx askPx bidQty askQty inventory : K) :
    Leads (quote mode call bidPx askPx bidQty askQty inventory) maker (fun _ => Keeps maker)
      (fun _ => Keeps maker) := by
  rw [quote, leads_bind]
  refine (placeLimit_keeps .buy call.bid).mono ?_ (fun _ _ h => h)
  rintro bidOrder first ⟨hfirst, hbid⟩
  rw [leads_bind]
  refine (placeLimit_keeps .sell call.ask).mono ?_ (fun _ _ h => hfirst.trans h)
  rintro askOrder second ⟨hsecond, hask⟩
  have hboth := hfirst.trans hsecond
  simp only [leads_bind, leads_ite, leads_pure, leads_modify]
  refine ⟨fun _ => hboth, fun _ => hboth.trans (keeps_set ?_)⟩
  intro side id hid
  cases side with
  | buy => exact hsecond.placed.subset (hbid id hid)
  | sell => exact hask id hid

lemma runCycle_keeps (call : CycleCall K) :
    Leads (runCycle mode lib call) maker (fun _ => Keeps maker) (fun _ => Keeps maker) := by
  rw [runCycle, leads_bind]
  refine (cancelStale_keeps call.staleAt).mono ?_ (fun _ _ h => h)
  intro _ stale hstale
  split
  · have hquote : ∀ bidPx askPx bidQty askQty inventory,
        Leads (quote mode call bidPx askPx bidQty askQty inventory) stale (fun _ => Keeps maker)
          (fun _ => Keeps maker) := by
      intro bidPx askPx bidQty askQty inventory
      exact (quote_keeps call bidPx askPx bidQty askQty inventory).mono
        (fun _ _ h => hstale.trans h) (fun _ _ h => hstale.trans h)
    simp only [leads_bind, leads_ite, leads_raiseIf, leads_pure, leads_get, hstale, hquote,
      implies_true, and_true]
  · rw [leads_pure]
    exact hstale

lemma checkFills_keeps :
    Leads (checkFills symbol fetchOrder) maker (fun _ => Keeps maker) (fun _ => Keeps maker) := by
  rw [checkFills, leads_bind, leads_get]
  split
  · rw [leads_pure]
    exact Keeps.refl
  · next quote hquote =>
      simp only [leads_bind, leads_ite, leads_pure, leads_modify]
      refine ⟨fun _ => ⟨List.prefix_rfl, fun hlinked => ?_⟩, fun _ => Keeps.refl⟩
      refine (keeps_set ?_).linked hlinked
      intro side id hid
      refine hlinked symbol quote hquote side id ?_
      cases side <;> exact hid

lemma step_keeps (call : MakerCall K) : Keeps maker (step mode lib maker call) := by
  have hleads : Leads (perform mode lib call) maker (fun _ => Keeps maker) (fun _ => Keeps maker) := by
    cases call with
    | cycle call =>
        simp only [perform, leads_bind, leads_pure]
        exact runCycle_keeps call
    | check symbol fetchOrder =>
        simp only [perform, leads_bind, leads_pure]
        exact checkFills_keeps
  exact hleads.final

lemma after_keeps (calls : List (MakerCall K)) : Keeps maker (after mode lib maker calls) := by
  induction calls generalizing maker with
  | nil => exact Keeps.refl
  | cons call rest ih => exact (step_keeps call).trans ih

omit [Field K] [LinearOrder K] in
lemma Fresh.of_prefix (h : later.Fresh) (hplaced : maker.placed <+: later.placed) : maker.Fresh :=
  h.sublist (hplaced.sublist.map _)

end Keeps

/-! ## One poll -/

section Poll

variable {maker symbol fetchOrder}

omit [LinearOrder K] in
lemma netFilled_split (p : MMOrder → Bool) (orders : List MMOrder) :
    netFilled fetchOrder orders
      = netFilled fetchOrder (orders.filter p) + netFilled fetchOrder (orders.filter fun o => ¬ p o) := by
  have hperm := (List.filter_append_perm p orders).map
    fun order => order.side.signed ((fetchOrder order.id).getD 0)
  rw [netFilled, ← hperm.sum_eq, List.map_append, List.sum_append]
  simp only [netFilled, Bool.not_eq_true, Bool.decide_eq_false]

omit [Field K] [LinearOrder K] in
/-- The order of one side that is asked for. -/
lemma filter_polled (hlinked : maker.Linked) (hfresh : maker.Fresh) {quote : MMQuote K}
    (hquote : maker.quotes.get? symbol = some quote) (side : OrderSide) :
    (maker.ordersOf symbol).filter (fun order => order.side = side ∧ maker.isPolled order)
      = (quote.polled side).toList.map fun id => ⟨symbol, side, id⟩ := by
  have hnodup : (maker.ordersOf symbol).Nodup := (List.Nodup.of_map _ hfresh).filter _
  have hpolled : ∀ order ∈ maker.ordersOf symbol, (order.side = side ∧ maker.isPolled order)
      ↔ ∃ id ∈ quote.polled side, order = ⟨symbol, side, id⟩ := by
    rintro ⟨symbol', side', id⟩ horder
    obtain rfl : symbol' = symbol := by simpa [ordersOf] using (List.mem_filter.mp horder).2
    simp only [isPolled, hquote, Option.any_some, decide_eq_true_eq, Option.mem_def,
      MMOrder.mk.injEq, true_and]
    constructor
    · rintro ⟨rfl, hid⟩
      exact ⟨id, hid, rfl, rfl⟩
    · rintro ⟨id', hid, rfl, rfl⟩
      exact ⟨rfl, hid⟩
  cases hid : quote.polled side with
  | none =>
      rw [Option.toList_none, List.map_nil, List.filter_eq_nil_iff]
      intro order horder hkeep
      obtain ⟨id, hmem, -⟩ := (hpolled order horder).mp (by simpa using hkeep)
      rw [hid] at hmem
      cases hmem
  | some id =>
      have hmem : (⟨symbol, side, id⟩ : MMOrder) ∈ maker.ordersOf symbol := by
        refine List.mem_filter.mpr ⟨hlinked symbol quote hquote side id ?_, by simp⟩
        exact (Option.filter_eq_some_iff.mp hid).1
      have hsame : (maker.ordersOf symbol).filter (fun order => order.side = side ∧ maker.isPolled order)
          = (maker.ordersOf symbol).filter fun order => order = ⟨symbol, side, id⟩ := by
        refine List.filter_congr ?_
        intro order horder
        rw [decide_eq_decide, hpolled order horder, hid]
        simp
      rw [hsame, Option.toList_some, List.map_singleton, List.filter_eq,
        List.count_eq_one_of_mem hnodup hmem, List.replicate_one]

/-- What a poll adds for a side is what its order has filled so far. -/
lemma pollFill_eq {quote : MMQuote K} {side : OrderSide}
    (h : ∀ id ∈ quote.polled side, ∃ filled ∈ fetchOrder id, 0 ≤ filled) :
    (pollFill fetchOrder quote side).2
      = netFilled fetchOrder ((quote.polled side).toList.map fun id => ⟨symbol, side, id⟩) := by
  rw [pollFill]
  cases hid : quote.polled side with
  | none => simp [netFilled]
  | some id =>
      obtain ⟨filled, hfilled, hpos⟩ := h id hid
      rw [Option.mem_def] at hfilled
      simp only [Option.bind_some, hfilled, netFilled, Option.toList_some, List.map_singleton,
        List.sum_singleton, Option.getD_some]
      split_ifs with hzero
      · rw [le_antisymm hzero hpos]
        cases side <;> simp
      · cases side <;> rfl

/-- The orders that are asked for, of one side and of the other. -/
lemma netFilled_polled (hlinked : maker.Linked) (hfresh : maker.Fresh)
    (hreported : maker.Reported fetchOrder) {quote : MMQuote K}
    (hquote : maker.quotes.get? symbol = some quote) :
    netFilled fetchOrder ((maker.ordersOf symbol).filter maker.isPolled)
      = (pollFill fetchOrder quote .buy).2 + (pollFill fetchOrder quote .sell).2 := by
  have hpolled : ∀ side, ∀ id ∈ quote.polled side, ∃ filled ∈ fetchOrder id, 0 ≤ filled := by
    intro side id hid
    exact hreported _ (hlinked symbol quote hquote side id (Option.filter_eq_some_iff.mp hid).1)
  have hbuys : ((maker.ordersOf symbol).filter maker.isPolled).filter (fun order => order.side = .buy)
      = (quote.polled .buy).toList.map fun id => ⟨symbol, .buy, id⟩ := by
    rw [List.filter_filter, ← filter_polled hlinked hfresh hquote .buy]
    congr 1
    funext order
    simp
  have hsells : ((maker.ordersOf symbol).filter maker.isPolled).filter
        (fun order => ¬ decide (order.side = .buy))
      = (quote.polled .sell).toList.map fun id => ⟨symbol, .sell, id⟩ := by
    rw [List.filter_filter, ← filter_polled hlinked hfresh hquote .sell]
    congr 1
    funext order
    cases order.side <;> simp
  rw [netFilled_split (fun order => order.side = .buy), hbuys, hsells, ← pollFill_eq (hpolled .buy),
    ← pollFill_eq (hpolled .sell)]

/-- A poll adds what the orders that it asks for have filled so far. -/
lemma tracked_check (hlinked : maker.Linked) (hfresh : maker.Fresh)
    (hreported : maker.Reported fetchOrder) (mode : String) (lib : MakerLib K) (symbol : String) :
    (step mode lib maker (.check symbol fetchOrder)).placed = maker.placed
      ∧ (step mode lib maker (.check symbol fetchOrder)).tracked symbol
        = maker.tracked symbol + netFilled fetchOrder ((maker.ordersOf symbol).filter maker.isPolled) := by
  have hleads : Leads (perform mode lib (.check symbol fetchOrder)) maker
      (fun _ later => later.placed = maker.placed ∧ later.tracked symbol
        = maker.tracked symbol + netFilled fetchOrder ((maker.ordersOf symbol).filter maker.isPolled))
      (fun _ _ => False) := by
    simp only [perform, checkFills, leads_bind, leads_get, leads_pure]
    cases hquote : maker.quotes.get? symbol with
    | none =>
        have hnone : (maker.ordersOf symbol).filter maker.isPolled = [] := by
          rw [List.filter_eq_nil_iff]
          intro order horder
          obtain rfl : order.symbol = symbol := by simpa [ordersOf] using (List.mem_filter.mp horder).2
          simp [isPolled, hquote]
        simp [hnone, netFilled]
    | some quote =>
        simp only [leads_bind, leads_ite, leads_pure, leads_modify,
          netFilled_polled hlinked hfresh hreported hquote, tracked, hquote, Dict.get?_set_self,
          Option.elim_some, true_and, implies_true]
        intro hzero
        rw [not_not.mp hzero, add_zero]
  rw [Leads] at hleads
  rw [step]
  cases hrun : (perform mode lib (.check symbol fetchOrder)).run maker with
  | ok _ later =>
      rw [hrun] at hleads
      exact hleads
  | error _ later =>
      rw [hrun] at hleads
      exact hleads.elim

/-- **One poll**: it leaves the fills of all orders if it met those of the orders it does not ask for. -/
lemma countsFills_check_iff (hlinked : maker.Linked) (hfresh : maker.Fresh)
    (hreported : maker.Reported fetchOrder) (mode : String) (lib : MakerLib K) (symbol : String) :
    (step mode lib maker (.check symbol fetchOrder)).CountsFills symbol fetchOrder
      ↔ maker.othersFilled symbol fetchOrder = maker.tracked symbol := by
  obtain ⟨hplaced, htracked⟩ := tracked_check hlinked hfresh hreported mode lib symbol
  have horders : (step mode lib maker (.check symbol fetchOrder)).ordersOf symbol
      = maker.ordersOf symbol := by
    rw [ordersOf, hplaced, ordersOf]
  rw [CountsFills, htracked, horders, netFilled_split maker.isPolled (maker.ordersOf symbol), add_comm,
    add_right_inj, othersFilled, eq_comm]

/-- A poll of another symbol. -/
lemma tracked_check_of_ne {other : String} (h : other ≠ symbol) (mode : String) (lib : MakerLib K) :
    (step mode lib maker (.check other fetchOrder)).tracked symbol = maker.tracked symbol := by
  have hleads : Leads (perform mode lib (.check other fetchOrder)) maker
      (fun _ later => later.tracked symbol = maker.tracked symbol)
      (fun _ later => later.tracked symbol = maker.tracked symbol) := by
    simp only [perform, checkFills, leads_bind, leads_get, leads_pure]
    split
    · rw [leads_pure]
    · simp only [leads_bind, leads_ite, leads_pure, leads_modify, tracked, Dict.get?_set_of_ne _ h,
        implies_true, and_self]
  exact hleads.final

end Poll

/-! ## A cycle -/

section Cycle

variable {maker symbol} {mode : String} {lib : MakerLib K}

/-- The quote of the symbol is old enough to be deleted. -/
def IsStale (maker : MarketMaker K) (symbol : String) (now : K) : Prop :=
  ∃ quote ∈ maker.quotes.get? symbol, quoteLifetimeSecs ≤ now - quote.placedAt

instance (maker : MarketMaker K) (symbol : String) (now : K) : Decidable (maker.IsStale symbol now) :=
  decidable_of_iff ((maker.quotes.get? symbol).any fun quote => quoteLifetimeSecs ≤ now - quote.placedAt)
    (by simp [IsStale, Option.any_eq_true])

lemma cancelStale_tracked (symbol stale : String) (now : K) :
    Leads (cancelStale stale now) maker
      (fun _ later => later.tracked symbol
        = if stale = symbol ∧ maker.IsStale symbol now then 0 else maker.tracked symbol)
      (fun _ _ => False) := by
  rw [cancelStale, leads_modify]
  cases hquote : maker.quotes.get? stale with
  | none =>
      have hnot : ¬ (stale = symbol ∧ maker.IsStale symbol now) := by
        rintro ⟨rfl, quote, hmem, -⟩
        rw [hquote] at hmem
        cases hmem
      rw [if_neg hnot]
  | some quote =>
      simp only
      by_cases hsymbol : stale = symbol
      · subst hsymbol
        have hiff : maker.IsStale stale now ↔ ¬ now - quote.placedAt < quoteLifetimeSecs := by
          simp [IsStale, hquote]
        simp only [true_and, hiff]
        split_ifs
        · rfl
        · simp [tracked]
      · simp only [hsymbol, false_and, if_false]
        split_ifs
        · rfl
        · simp [tracked, Dict.get?_erase_of_ne _ hsymbol]

omit [Field K] [LinearOrder K] in
lemma placeLimit_quotes (side : OrderSide) (placing : Placing) :
    Leads (placeLimit mode symbol side placing) maker
      (fun _ later => later.quotes = maker.quotes) (fun _ _ => False) := by
  simp only [placeLimit]
  split_ifs
  · simp only [leads_bind, leads_modify, leads_pure]
  · cases placing.answer <;> simp only [leads_bind, leads_modify, leads_pure]

omit [LinearOrder K] in
/-- New orders take the inventory over. -/
lemma quote_tracked (call : CycleCall K) (bidPx askPx bidQty askQty : K) :
    Leads (quote mode call bidPx askPx bidQty askQty (maker.tracked call.symbol)) maker
      (fun _ later => later.tracked symbol = maker.tracked symbol) (fun _ _ => False) := by
  rw [quote, leads_bind]
  refine (placeLimit_quotes .buy call.bid).mono ?_ (fun _ _ h => h)
  intro bidOrder first hfirst
  rw [leads_bind]
  refine (placeLimit_quotes .sell call.ask).mono ?_ (fun _ _ h => h)
  intro askOrder second hsecond
  simp only [leads_bind, leads_ite, leads_pure, leads_modify, tracked, hsecond, hfirst, Dict.get?_set]
  refine ⟨fun _ => trivial, fun _ => ?_⟩
  split_ifs with heq
  · rw [heq]
    rfl
  · rfl

/-- **One cycle** keeps the inventory, unless it deletes the quote. -/
lemma tracked_cycle (call : CycleCall K) :
    (step mode lib maker (.cycle call)).tracked symbol
      = if call.symbol = symbol ∧ maker.IsStale symbol call.staleAt then 0 else maker.tracked symbol := by
  have hleads : Leads (runCycle mode lib call) maker
      (fun _ later => later.tracked symbol
        = if call.symbol = symbol ∧ maker.IsStale symbol call.staleAt then 0 else maker.tracked symbol)
      (fun _ later => later.tracked symbol
        = if call.symbol = symbol ∧ maker.IsStale symbol call.staleAt then 0
          else maker.tracked symbol) := by
    rw [runCycle, leads_bind]
    refine (cancelStale_tracked symbol call.symbol call.staleAt).mono ?_ (fun _ _ h => h.elim)
    intro _ stale hstale
    rw [← hstale]
    split
    · have hquote : ∀ bidPx askPx bidQty askQty,
          Leads (quote mode call bidPx askPx bidQty askQty
              ((stale.quotes.get? call.symbol).elim 0 MMQuote.inventory)) stale
            (fun _ later => later.tracked symbol = stale.tracked symbol)
            (fun _ later => later.tracked symbol = stale.tracked symbol) := by
        intro bidPx askPx bidQty askQty
        exact (quote_tracked call bidPx askPx bidQty askQty).mono (fun _ _ h => h) (fun _ _ h => h.elim)
      simp only [leads_bind, leads_ite, leads_raiseIf, leads_pure, leads_get, hquote, implies_true,
        and_true]
    · rw [leads_pure]
  have hperform : Leads (perform mode lib (.cycle call)) maker
      (fun _ later => later.tracked symbol
        = if call.symbol = symbol ∧ maker.IsStale symbol call.staleAt then 0 else maker.tracked symbol)
      (fun _ later => later.tracked symbol
        = if call.symbol = symbol ∧ maker.IsStale symbol call.staleAt then 0
          else maker.tracked symbol) := by
    simp only [perform, leads_bind, leads_pure]
    exact hleads
  exact hperform.final

end Cycle

/-! ## Runs -/

/-- One call, with what the orders of the symbol had filled at its last poll: nothing, once the quote is
deleted. -/
def withLastPoll (symbol mode : String) (lib : MakerLib K) :
    MarketMaker K × K → MakerCall K → MarketMaker K × K
  | (maker, last), .cycle call =>
      (step mode lib maker (.cycle call),
        if call.symbol = symbol ∧ maker.IsStale symbol call.staleAt then 0 else last)
  | (maker, last), .check symbol' fetchOrder =>
      (step mode lib maker (.check symbol' fetchOrder),
        if symbol' = symbol then netFilled fetchOrder (maker.ordersOf symbol) else last)

/-- Every poll of the symbol in a run is such that `P`. -/
def Polls (mode : String) (lib : MakerLib K) (symbol : String) (start : MarketMaker K × K)
    (calls : List (MakerCall K)) (P : MarketMaker K → K → (String → Option K) → Prop) : Prop :=
  ∀ maker last fetchOrder,
    ((maker, last), .check symbol fetchOrder)
      ∈ History.steps (withLastPoll symbol mode lib) start calls → P maker last fetchOrder

section Runs

variable {maker symbol} {last : K} {mode : String} {lib : MakerLib K} {call : MakerCall K}
  {rest : List (MakerCall K)} {P : MarketMaker K → K → (String → Option K) → Prop}

lemma polls_cons : Polls mode lib symbol (maker, last) (call :: rest) P
    ↔ (∀ fetchOrder, call = .check symbol fetchOrder → P maker last fetchOrder)
      ∧ Polls mode lib symbol (withLastPoll symbol mode lib (maker, last) call) rest P := by
  constructor
  · intro h
    refine ⟨?_, fun maker' last' fetchOrder hmem => h maker' last' fetchOrder ?_⟩
    · rintro fetchOrder rfl
      exact h maker last fetchOrder List.mem_cons_self
    · exact List.mem_cons_of_mem _ hmem
  · rintro ⟨hfirst, hrest⟩ maker' last' fetchOrder hmem
    rw [History.steps, List.mem_cons] at hmem
    rcases hmem with heq | hmem
    · cases heq
      exact hfirst fetchOrder rfl
    · exact hrest maker' last' fetchOrder hmem

lemma withLastPoll_maker (symbol : String) (last : K) (call : MakerCall K) :
    (withLastPoll symbol mode lib (maker, last) call).1 = step mode lib maker call := by
  cases call <;> rfl

/-- A call that is no poll of the symbol keeps what is known of the last one. -/
lemma tracked_withLastPoll (htracked : maker.tracked symbol = last)
    (hother : ∀ fetchOrder, call ≠ .check symbol fetchOrder) :
    (step mode lib maker call).tracked symbol = (withLastPoll symbol mode lib (maker, last) call).2 := by
  cases call with
  | cycle call => rw [tracked_cycle, htracked, withLastPoll]
  | check other fetchOrder =>
      have hne : other ≠ symbol := by
        rintro rfl
        exact hother fetchOrder rfl
      rw [tracked_check_of_ne hne, htracked, withLastPoll, if_neg hne]

/-- As long as the polls of the past have counted all fills, what is tracked is what they have seen. -/
lemma polls_iff {calls : List (MakerCall K)} (hlinked : maker.Linked)
    (hfresh : (after mode lib maker calls).Fresh) (htracked : maker.tracked symbol = last)
    (hreported : Polls mode lib symbol (maker, last) calls fun maker _ fetchOrder =>
      maker.Reported fetchOrder) :
    (Polls mode lib symbol (maker, last) calls fun maker _ fetchOrder =>
      (step mode lib maker (.check symbol fetchOrder)).CountsFills symbol fetchOrder)
      ↔ Polls mode lib symbol (maker, last) calls fun maker last fetchOrder =>
        maker.othersFilled symbol fetchOrder = last := by
  induction calls generalizing maker last with
  | nil => simp [Polls, History.steps]
  | cons call rest ih =>
      rw [polls_cons] at hreported
      rw [polls_cons, polls_cons]
      have hmet : maker.Fresh := hfresh.of_prefix (after_keeps (call :: rest)).placed
      have hnext : ∀ last', (step mode lib maker call).tracked symbol = last' →
          withLastPoll symbol mode lib (maker, last) call = (step mode lib maker call, last') →
          ((Polls mode lib symbol (withLastPoll symbol mode lib (maker, last) call) rest
              fun maker _ fetchOrder =>
                (step mode lib maker (.check symbol fetchOrder)).CountsFills symbol fetchOrder)
            ↔ Polls mode lib symbol (withLastPoll symbol mode lib (maker, last) call) rest
              fun maker last fetchOrder => maker.othersFilled symbol fetchOrder = last) := by
        intro last' hlast heq
        rw [heq] at hreported ⊢
        exact ih ((step_keeps call).linked hlinked) hfresh hlast hreported.2
      by_cases hpoll : ∃ fetchOrder, call = .check symbol fetchOrder
      · obtain ⟨fetchOrder, rfl⟩ := hpoll
        have hone := countsFills_check_iff hlinked hmet (hreported.1 fetchOrder rfl) mode lib symbol
        rw [htracked] at hone
        simp only [MakerCall.check.injEq, true_and, forall_eq']
        rw [hone]
        refine and_congr_right fun hothers => hnext _ (hone.mpr hothers) ?_
        have horders := (tracked_check hlinked hmet (hreported.1 fetchOrder rfl) mode lib symbol).1
        rw [withLastPoll, if_pos rfl, ordersOf, ordersOf, horders]
      · have hother : ∀ fetchOrder, call ≠ .check symbol fetchOrder :=
          fun fetchOrder heq => hpoll ⟨fetchOrder, heq⟩
        refine and_congr ?_ (hnext _ (tracked_withLastPoll htracked hother) ?_)
        · exact ⟨fun _ fetchOrder heq => absurd heq (hother fetchOrder),
            fun _ fetchOrder heq => absurd heq (hother fetchOrder)⟩
        · rw [← withLastPoll_maker symbol last call]

end Runs

/-- **The inventory along a run.**  After every poll of a symbol it is what the orders of the symbol have
filled, exactly if at every poll the orders that are not asked for have filled what all orders had filled
at the poll before, or nothing, if there was none or the quote was deleted since. -/
theorem tracked_inventory_iff (mode : String) (lib : MakerLib K) (sessionStart : K)
    (calls : List (MakerCall K)) (symbol : String)
    (hfresh : (after mode lib (init sessionStart) calls).Fresh)
    (hreported : Polls mode lib symbol (init sessionStart, 0) calls fun maker _ fetchOrder =>
      maker.Reported fetchOrder) :
    (Polls mode lib symbol (init sessionStart, 0) calls fun maker _ fetchOrder =>
      (step mode lib maker (.check symbol fetchOrder)).CountsFills symbol fetchOrder)
      ↔ Polls mode lib symbol (init sessionStart, 0) calls fun maker last fetchOrder =>
        maker.othersFilled symbol fetchOrder = last := by
  have hinit : (init sessionStart).Linked := by
    intro symbol quote hquote
    cases hquote
  exact polls_iff hinit hfresh rfl hreported

/-! ## One quote, polled twice -/

/-- Rational arithmetic.  The market below does not move, so nothing depends on the logarithm and the
square root. -/
def ratLib : MakerLib ℚ where
  log x := x - 1
  sqrt x := x
  round x digits := roundRat digits x
  mod x y := x - y * ⌊x / y⌋

/-- A quote around 100. -/
def firstCycle : MakerCall ℚ :=
  .cycle
    { symbol := "BTC/USDT", equity := 10000, atr := 0, inDirectionalTrade := false, staleAt := 0
      book := some ([(499 / 5, 1)], [(501 / 5, 1)]), quotedAt := 0, placedAt := 0
      bid := ⟨"", .accepted "b1"⟩, ask := ⟨"", .accepted "s1"⟩ }

/-- The bid has filled one unit, the ask nothing. -/
def oneFilled : MakerCall ℚ :=
  .check "BTC/USDT" fun id => if id = "b1" then some 1 else if id = "s1" then some 0 else none

/-- The first poll counts the fill. -/
theorem tracked_inventory_iff_first_poll :
    Polls "LIVE" ratLib "BTC/USDT" (init 0, 0) [firstCycle, oneFilled] fun maker _ fetchOrder =>
      (step "LIVE" ratLib maker (.check "BTC/USDT" fetchOrder)).CountsFills "BTC/USDT" fetchOrder := by
  have hmet : (History.steps (withLastPoll "BTC/USDT" "LIVE" ratLib) (init 0, 0) [firstCycle, oneFilled])
      = [((init 0, 0), firstCycle), ((step "LIVE" ratLib (init 0) firstCycle, 0), oneFilled)] := rfl
  have hpolls : ∀ P : MarketMaker ℚ → ℚ → (String → Option ℚ) → Prop,
      P (step "LIVE" ratLib (init 0) firstCycle) 0
          (fun id => if id = "b1" then some 1 else if id = "s1" then some 0 else none) →
        Polls "LIVE" ratLib "BTC/USDT" (init 0, 0) [firstCycle, oneFilled] P := by
    intro P h maker last fetchOrder hmem
    rw [hmet] at hmem
    simp only [List.mem_cons, List.not_mem_nil, or_false, firstCycle, oneFilled, Prod.mk.injEq,
      reduceCtorEq, and_false, MakerCall.check.injEq, true_and, false_or] at hmem
    obtain ⟨⟨rfl, rfl⟩, rfl⟩ := hmem
    exact h
  have hplaced : (step "LIVE" ratLib (init 0) firstCycle).placed
      = [⟨"BTC/USDT", .buy, "b1"⟩, ⟨"BTC/USDT", .sell, "s1"⟩] := by
    decide +kernel
  refine (tracked_inventory_iff "LIVE" ratLib 0 [firstCycle, oneFilled] "BTC/USDT" ?_ (hpolls _ ?_)).mpr
    (hpolls _ ?_)
  · simp only [Fresh]
    decide +kernel
  · intro order horder
    rw [hplaced] at horder
    fin_cases horder
    · exact ⟨1, rfl, zero_le_one⟩
    · exact ⟨0, rfl, le_rfl⟩
  · decide +kernel

/-- The second poll counts it again: the inventory is two units, and the orders have filled one. -/
theorem tracked_inventory_counted_twice :
    let maker := after "LIVE" ratLib (init 0) [firstCycle, oneFilled, oneFilled]
    maker.tracked "BTC/USDT" = 2
      ∧ netFilled (fun id => if id = "b1" then some (1 : ℚ) else if id = "s1" then some 0 else none)
        (maker.ordersOf "BTC/USDT") = 1 := by
  decide +kernel

end MarketMaker

end Aegis.Pro
