import AegisFortress.Runtime.ShortPositions

/-!
# The position cap

An entry is sized to fit under `max_position_notional` by itself.  Nothing keeps two of them apart:
both strategies look for an open position in the ledger, and an entry that still waits on the bus is
not there yet.  Two entries of one symbol may then be executed one after the other.

`entries_within_cap` is the part that holds: as long as no entry to buy is asked for while another
one of its symbol waits or is held, what the entries build up from flat stays within the cap.
Quantities are rounded to eight decimals, so the cap is met up to half a unit of the last one.
-/

namespace Aegis

open EventLoop ExecutionPipeline MeanReversionImbalanceStrategy PositionLedger
open ExchangeResponseNormalizer

/-! ## The size of an entry -/

/-- What rounding to eight decimals can add to a quantity. -/
def ROUNDING : ℚ := 1 / (2 * 10 ^ 8)

/-- A quantity rounded from a notional comes to that notional, rounding aside. -/
lemma rounded_notional_le {notional cap price : ℚ} (hprice : 0 < price) (hcap : notional ≤ cap) :
    roundRat 8 (notional / price) * price ≤ cap + price * ROUNDING := by
  have hnear : roundRat 8 (notional / price) ≤ notional / price + ROUNDING := by
    have hround := (abs_le.mp (roundRat_near 8 (notional / price))).2
    rw [ROUNDING]
    linarith
  calc roundRat 8 (notional / price) * price
      ≤ (notional / price + ROUNDING) * price := mul_le_mul_of_nonneg_right hnear hprice.le
    _ = notional + price * ROUNDING := by field_simp
    _ ≤ cap + price * ROUNDING := by linarith

namespace MeanReversionImbalanceStrategy

variable (strategy : MeanReversionImbalanceStrategy ℚ)

lemma entryQuantity_notional_le {midPrice : ℚ} (hsized : 0 < strategy.entryQuantity midPrice) :
    0 < midPrice ∧ strategy.entryQuantity midPrice * midPrice
      ≤ strategy.maxPositionNotional + midPrice * ROUNDING := by
  simp only [entryQuantity] at hsized ⊢
  split_ifs at hsized ⊢ with hmid hsmall
  · exact absurd hsized (lt_irrefl 0)
  · exact absurd hsized (lt_irrefl 0)
  · rw [not_le] at hmid
    exact ⟨hmid, rounded_notional_le hmid (by rw [pyMin_rat]; exact min_le_right _ _)⟩

end MeanReversionImbalanceStrategy

/-- The scanner's target is within the cap when the cap covers the least order. -/
lemma MomentumTrapService.notional_le {service : MomentumTrapService ℚ} {cap : ℚ}
    (hmax : service.maxPositionNotional = cap) (hmin : service.minOrderNotional ≤ cap)
    (decision : MomentumTrapDecision ℚ) :
    0 < sizingPrice decision
      ∧ roundRat 8 (service.targetNotional / sizingPrice decision) * sizingPrice decision
        ≤ cap + sizingPrice decision * ROUNDING := by
  have hprice : 0 < sizingPrice decision := by
    rw [sizingPrice, pyMax_rat]
    refine lt_of_lt_of_le ?_ (le_max_right _ _)
    simp
  refine ⟨hprice, rounded_notional_le hprice ?_⟩
  rw [targetNotional, pyMax_rat, pyMin_rat, hmax]
  exact max_le hmin (min_le_right _ _)

/-! ## What a fill does to a position -/

/-- A long position of at most this cost, rounding aside. -/
def WithinCap (cap : ℚ) (position : Position ℚ) : Prop :=
  0 < position.quantity → 0 < position.averageEntry
    ∧ position.quantity * position.averageEntry ≤ cap + position.averageEntry * ROUNDING

section Fill

variable {order : Order ℚ} {fill : Fill ℚ} {ledger : PositionLedger ℚ} {cap : ℚ}

lemma WithinCap.of_same {before after : Position ℚ} (h : WithinCap cap before)
    (hquantity : after.quantity = before.quantity)
    (hentry : after.averageEntry = before.averageEntry) : WithinCap cap after := by
  rw [WithinCap, hquantity, hentry]
  exact h

lemma sweep_nonpos {q : ℚ} (h : q ≤ 0) : sweep q ≤ 0 := by
  rw [sweep]
  split_ifs
  · exact le_rfl
  · exact h

/-- Where nothing long was, an entry leaves what it was sized for. -/
lemma WithinCap.of_bought (hquantity : 0 < fill.quantity) (hprice : 0 < fill.price)
    (hside : order.side = .buy) (hheld : ledger.quantityOf fill.symbol ≤ 0)
    (hsize : fill.quantity * fill.price ≤ cap + fill.price * ROUNDING) :
    WithinCap cap (ledger.filled fill order.side).1 := by
  intro hlong
  have hstep := ledger.filled_step order.side hquantity
  rw [hside, OrderSide.signed_buy] at hstep
  rw [hside] at hlong ⊢
  have hshort : (swept (ledger.found fill.symbol)).quantity ≤ 0 := by
    rw [swept, found_quantity]
    exact sweep_nonpos hheld
  obtain ⟨hle, hentry⟩ := hstep.of_bought hshort hquantity hlong
  rw [hentry]
  exact ⟨hprice, (mul_le_mul_of_nonneg_right hle hprice.le).trans hsize⟩

/-- What is sold leaves a smaller position of the same entry price, or none that is long. -/
lemma WithinCap.of_sold (hquantity : 0 < fill.quantity) (hside : order.side = .sell)
    (hheld : ∀ p, ledger.getPosition fill.symbol = some p → WithinCap cap p) :
    WithinCap cap (ledger.filled fill order.side).1 := by
  intro hlong
  have hstep := ledger.filled_step order.side hquantity
  rw [hside, OrderSide.signed_sell] at hstep
  rw [hside] at hlong ⊢
  obtain ⟨hpositive, hle, hentry⟩ := hstep.of_sold (neg_neg_of_pos hquantity) hlong
  have hfound : ∃ p, ledger.getPosition fill.symbol = some p ∧ ledger.found fill.symbol = p := by
    rw [swept, found_quantity] at hpositive
    rw [PositionLedger.found, ← PositionLedger.getPosition]
    rw [PositionLedger.quantityOf] at hpositive
    cases hget : ledger.getPosition fill.symbol with
    | none =>
        rw [hget] at hpositive
        exact absurd hpositive (by simp [sweep, epsilon_pos.le])
    | some p => exact ⟨p, rfl, rfl⟩
  obtain ⟨p, hp, hfound⟩ := hfound
  rw [hfound] at hpositive hle hentry
  have hlive : sweep p.quantity = p.quantity := by
    rw [swept, sweep] at hpositive
    rw [sweep]
    split_ifs at hpositive ⊢
    · exact absurd hpositive (lt_irrefl 0)
    · rfl
  rw [swept, hlive] at hpositive hle
  obtain ⟨hpos, hcap⟩ := hheld p hp hpositive
  rw [hentry]
  exact ⟨hpos, (mul_le_mul_of_nonneg_right hle hpos.le).trans hcap⟩

end Fill

namespace LiveTrading

variable (live : LiveTrading ℚ)

/-! ## What the claim takes for granted -/

/-- The price that the oldest event, a request for an entry, was sized from. -/
def headPrice (s : Live ℚ) : Option ℚ :=
  match s.queue with
  | .service (.orderRequest _) sized :: _ => sized
  | _ => none

/-- The exchange fills nothing, or all of the order at this price. -/
def FilledAtPrice (turn : LiveTurn ℚ) (order : Order ℚ) (price : ℚ) : Prop :=
  ∀ selected ∈ (selectExchange turn.answers.route).toOption,
    ∀ raw ∈ selected.1.createOrder.toOption, 0 < extractFloat (payloadOf raw) FILLED_KEYS →
      extractFloat (payloadOf raw) FILLED_KEYS = order.quantity
        ∧ extractFloat (payloadOf raw) PRICE_KEYS = price

instance (turn : LiveTurn ℚ) (order : Order ℚ) (price : ℚ) :
    Decidable (FilledAtPrice turn order price) :=
  inferInstanceAs (Decidable (∀ _ ∈ _, ∀ _ ∈ _, _ < _ → _ = _ ∧ _ = _))

/-- If the step submits an entry, it is filled completely at the price it was sized from. -/
def FilledAtMid (s : Live ℚ) : LiveInput ℚ → Prop
  | .bus (.dispatch turn) => ∀ order ∈ live.headOrder turn s, ∀ price ∈ headPrice s,
      FilledAtPrice turn order price
  | _ => True

instance (s : Live ℚ) (input : LiveInput ℚ) : Decidable (live.FilledAtMid s input) :=
  match input with
  | .bus (.publish _) => .isTrue trivial
  | .bus (.dispatch turn) =>
      inferInstanceAs (Decidable (∀ order ∈ live.headOrder turn s, ∀ price ∈ headPrice s,
        FilledAtPrice turn order price))
  | .bus (.act _) => .isTrue trivial
  | .scan _ _ _ _ => .isTrue trivial
  | .candles _ _ _ _ => .isTrue trivial

/-! ## When the second entry is asked for -/

/-- A request to buy that a strategy has sized as an entry. -/
def enters (request : Request) : Bool := request.side = .buy ∧ request.sizedFrom.isSome

/-- The entries to buy that wait, oldest first. -/
def entries (s : Live ℚ) : List Request := (live.requests s).filter enters

/-- Nothing long is held of the symbol that entries have built up. -/
def Unheld (s : Live ℚ) (symbol : String) : Prop :=
  symbol ∈ s.state.entered → (ledgerOf s).quantityOf symbol ≤ 0

/-- If the step makes a strategy ask for an entry to buy, no entry of the symbol waits, and none is
held. -/
def OneEntry (s : Live ℚ) : LiveInput ℚ → Prop
  | .bus (.dispatch turn) => ∀ orderbook sized rest items symbol midPrice imbalance bestBid bestAsk,
      s.queue = .service (.orderbookSnapshot orderbook) sized :: rest → orderbook = .dict items →
      EntryDue live.strategy (ledgerOf s) s.state.runtime.killSwitch turn.clock s.state.strategy items
        symbol midPrice imbalance bestBid bestAsk .buy →
      ∀ request ∈ live.entries s, request.symbol ≠ symbol
  | .candles _ _ _ (.ok decision) => ∀ symbol, s.state.trap.scanning = some symbol →
      decision.shouldBuy = true →
      Unheld s symbol ∧ ∀ request ∈ live.entries s, request.symbol ≠ symbol
  | _ => True

/-! ## The entries on their way -/

/-- The entry fits under the cap. -/
def Sized (request : Request) : Prop :=
  ∃ price, request.sizedFrom = some price ∧ 0 < price
    ∧ request.quantity * price ≤ live.strategy.maxPositionNotional + price * ROUNDING

/-- Every entry that waits is the only one of its symbol and finds nothing to add to; it fits under
the cap, and so does every position that entries have built up. -/
structure Capped (s : Live ℚ) : Prop where
  once : ((live.entries s).map Request.symbol).Nodup
  unheld : ∀ request ∈ live.entries s, Unheld s request.symbol
  sized : ∀ request ∈ live.entries s, live.Sized request
  within : ∀ symbol ∈ s.state.entered, ∀ position, (ledgerOf s).getPosition symbol = some position →
    WithinCap live.strategy.maxPositionNotional position

variable {live} {s s' : Live ℚ}

lemma Unheld.of_same {symbol : String} (h : Unheld s symbol) (hledger : ledgerOf s' = ledgerOf s)
    (hentered : s'.state.entered = s.state.entered) : Unheld s' symbol := by
  rw [Unheld, hledger, hentered]
  exact h

lemma Capped.of_same (h : live.Capped s) (hledger : ledgerOf s' = ledgerOf s)
    (hentered : s'.state.entered = s.state.entered) (hentries : live.entries s' = live.entries s) :
    live.Capped s' := by
  refine ⟨hentries ▸ h.once, ?_, hentries ▸ h.sized, ?_⟩
  · rw [hentries]
    exact fun request hrequest => (h.unheld request hrequest).of_same hledger hentered
  · rw [hledger, hentered]
    exact h.within

lemma entries_append {requests : List Request}
    (h : live.requests s' = live.requests s ++ requests) :
    live.entries s' = live.entries s ++ requests.filter enters := by
  rw [entries, h, List.filter_append, entries]

/-! ## The moves -/

/-- A request that is no entry to buy changes nothing. -/
lemma Capped.of_other (h : live.Capped s) (hledger : ledgerOf s' = ledgerOf s)
    (hentered : s'.state.entered = s.state.entered) {request : Request}
    (hrequests : live.requests s' = live.requests s ++ [request]) (hother : enters request = false) :
    live.Capped s' := by
  refine h.of_same hledger hentered ?_
  rw [entries_append hrequests, List.filter_cons_of_neg (by simp [hother]), List.filter_nil,
    List.append_nil]

/-- An entry of a symbol of which none waits and none is held. -/
lemma Capped.of_entry (h : live.Capped s) (hledger : ledgerOf s' = ledgerOf s)
    (hentered : s'.state.entered = s.state.entered) {request : Request}
    (hrequests : live.requests s' = live.requests s ++ [request])
    (hunheld : Unheld s request.symbol) (hsized : live.Sized request)
    (hone : ∀ other ∈ live.entries s, other.symbol ≠ request.symbol) : live.Capped s' := by
  by_cases henters : enters request = true
  · have hentries : live.entries s' = live.entries s ++ [request] := by
      rw [entries_append hrequests, List.filter_cons_of_pos henters, List.filter_nil]
    have hcases : ∀ other ∈ live.entries s', other ∈ live.entries s ∨ other = request := by
      intro other hother
      rw [hentries] at hother
      exact (List.mem_append.mp hother).imp id List.mem_singleton.mp
    refine ⟨?_, fun other hother => ?_, fun other hother => ?_, ?_⟩
    · rw [hentries, List.map_append, List.map_cons, List.map_nil]
      refine h.once.append (List.nodup_singleton _) ?_
      intro symbol hsymbol hself
      obtain ⟨other, hother, hname⟩ := List.mem_map.mp hsymbol
      exact hone other hother (hname.trans (List.mem_singleton.mp hself))
    · rcases hcases other hother with hother | rfl
      · exact (h.unheld other hother).of_same hledger hentered
      · exact hunheld.of_same hledger hentered
    · rcases hcases other hother with hother | rfl
      · exact h.sized other hother
      · exact hsized
    · rw [hledger, hentered]
      exact h.within
  · exact h.of_other hledger hentered hrequests (Bool.eq_false_of_not_eq_true henters)

/-- An order book adds one request at most. -/
lemma Capped.answered (h : live.Capped s) {turn : LiveTurn ℚ} {orderbook : PyVal ℚ}
    {sized : Option ℚ} {rest : List (LiveEvent ℚ)}
    (hone : live.OneEntry s (.bus (.dispatch turn)))
    (hqueue : s.queue = .service (.orderbookSnapshot orderbook) sized :: rest)
    (hledger : ledgerOf s' = ledgerOf s) (hentered : s'.state.entered = s.state.entered)
    (hrequests : live.requests s' = live.requests s
      ++ (live.ordersOf turn orderbook s.state).map fun order =>
        Request.of order (sizedFrom (ledgerOf s) orderbook)) : live.Capped s' := by
  rcases live.ordersOf_cases turn orderbook s.state with hnone
    | ⟨items, symbol, midPrice, imbalance, bestBid, bestAsk, order, hdict, horders, hsymbol, hcase⟩
  · rw [hnone, List.map_nil] at hrequests
    refine h.of_same hledger hentered ?_
    rw [entries_append hrequests, List.filter_nil, List.append_nil]
  rw [horders, List.map_cons, List.map_nil] at hrequests
  rcases hcase with ⟨side, due, hside, hquantity⟩ | ⟨position, signal, reason, due, -, -⟩
  · have hsizedFrom : sizedFrom (ledgerOf s) orderbook = some midPrice := by
      have hflat : openPosition (ledgerOf s) (symbolOf items) = none :=
        due.symbol_eq.symm ▸ due.flat
      rw [hdict, sizedFrom, hflat]
      exact congrArg some due.mid_eq
    have hunheld : Unheld s symbol := fun _ => (openPosition_none.mp due.flat).le
    obtain ⟨hmid, hcap⟩ := live.strategy.entryQuantity_notional_le due.sized
    cases side with
    | sell =>
        exact h.of_other hledger hentered hrequests (by simp [enters, Request.of, hside])
    | buy =>
        refine h.of_entry hledger hentered hrequests ?_ ?_ ?_
        · rw [Request.of, hsymbol]
          exact hunheld
        · exact ⟨midPrice, hsizedFrom, hmid, by rw [Request.of, hquantity]; exact hcap⟩
        · rw [Request.of, hsymbol]
          exact hone orderbook sized rest items symbol midPrice imbalance bestBid bestAsk hqueue hdict
            due
  · have hsizedFrom : sizedFrom (ledgerOf s) orderbook = none := by
      have hheld : openPosition (ledgerOf s) (symbolOf items) = some position :=
        due.symbol_eq.symm ▸ due.held
      rw [hdict, sizedFrom, hheld]
    exact h.of_other hledger hentered hrequests (by simp [enters, Request.of, hsizedFrom])

/-- The oldest request leaves the bus. -/
lemma entries_submitted {request : Request}
    (hrequests : live.requests s = request :: live.requests s') :
    (live.entries s').Sublist (live.entries s)
      ∧ (enters request = true → live.entries s = request :: live.entries s') := by
  rw [entries, entries, hrequests]
  refine ⟨(List.sublist_cons_self _ _).filter enters, fun henters => ?_⟩
  rw [List.filter_cons_of_pos henters]

section Submitted

variable {turn : LiveTurn ℚ} {order : Order ℚ} {sized : Option ℚ} {fill : Fill ℚ}

lemma Executed.at_price {before after : PositionLedger ℚ} {price : ℚ}
    (h : Executed turn order before after fill) (hmid : FilledAtPrice turn order price) :
    fill.quantity = order.quantity ∧ fill.price = price := by
  obtain ⟨selected, hselected, raw, hraw, hquantity, hprice⟩ := h.reported
  have hfilled := h.filled
  rw [hquantity] at hfilled
  rw [hquantity, hprice]
  exact hmid selected hselected raw hraw hfilled

/-- An execution touches one symbol, for which the rest has to be shown anew. -/
lemma Capped.of_fill (h : live.Capped s) (hentries : (live.entries s').Sublist (live.entries s))
    (hfill : Executed turn order (ledgerOf s) (ledgerOf s') fill)
    (hnames : ∀ other ∈ s'.state.entered, other ≠ order.symbol → other ∈ s.state.entered)
    (hunheld : ∀ request ∈ live.entries s', request.symbol = order.symbol → Unheld s' order.symbol)
    (hwithin : order.symbol ∈ s'.state.entered →
      WithinCap live.strategy.maxPositionNotional ((ledgerOf s).filled fill order.side).1) :
    live.Capped s' := by
  refine ⟨h.once.sublist (hentries.map Request.symbol), fun request hrequest => ?_,
    fun request hrequest => h.sized request (hentries.subset hrequest),
    fun other hother position hposition => ?_⟩
  · by_cases hsymbol : request.symbol = order.symbol
    · exact hsymbol ▸ hunheld request hrequest hsymbol
    · intro hentered
      rw [hfill.quantity_of_ne hsymbol]
      exact h.unheld request (hentries.subset hrequest) (hnames request.symbol hentered hsymbol)
  · by_cases hsymbol : other = order.symbol
    · subst hsymbol
      obtain ⟨hquantity, hentry⟩ := hfill.position_self hposition
      exact (hwithin hother).of_same hquantity hentry
    · obtain ⟨p, hp, hquantity, hentry⟩ := hfill.position_of_ne hsymbol hposition
      exact (h.within other (hnames other hother hsymbol) p hp).of_same hquantity hentry

/-- A sale makes positions smaller. -/
lemma Capped.sold (h : live.Capped s) (hentries : (live.entries s').Sublist (live.entries s))
    (hfill : Executed turn order (ledgerOf s) (ledgerOf s') fill) (hside : order.side = .sell)
    (hentered : s'.state.entered = s.state.entered) : live.Capped s' := by
  refine h.of_fill hentries hfill ?_ ?_ ?_
  · rw [hentered]
    exact fun other hother _ => hother
  · intro request hrequest hsymbol hnamed
    rw [hentered] at hnamed
    have hshort := hsymbol ▸ h.unheld request (hentries.subset hrequest)
    have hswept := sweep_nonpos (hshort hnamed)
    rw [hfill.quantity_self, hside, OrderSide.signed_sell]
    exact sweep_nonpos (by linarith [hfill.filled])
  · rw [hentered]
    intro hnamed
    refine WithinCap.of_sold hfill.filled hside ?_
    rw [hfill.symbol_eq]
    exact h.within order.symbol hnamed

/-- An entry leaves what it was sized for: it was the only one of its symbol, and found nothing to
add to. -/
lemma Capped.entered (h : live.Capped s)
    (hrequests : live.requests s = Request.of order sized :: live.requests s')
    (hfill : Executed turn order (ledgerOf s) (ledgerOf s') fill)
    (hmid : ∀ price ∈ sized, FilledAtPrice turn order price) (hside : order.side = .buy)
    (hsized : sized.isSome) (hfirst : (ledgerOf s).quantityOf order.symbol = 0
      ∨ order.symbol ∈ s.state.entered)
    (hentered : s'.state.entered = order.symbol :: s.state.entered) : live.Capped s' := by
  obtain ⟨hsublist, hhead⟩ := entries_submitted hrequests
  have hentries := hhead (by simp [enters, Request.of, hside, hsized])
  have hmem : Request.of order sized ∈ live.entries s := hentries ▸ List.mem_cons_self
  refine h.of_fill hsublist hfill ?_ ?_ ?_
  · intro other hother hne
    rw [hentered] at hother
    exact (List.mem_cons.mp hother).resolve_left hne
  · have honce := h.once
    rw [hentries, List.map_cons, List.nodup_cons] at honce
    intro request hrequest hsymbol
    exact absurd (List.mem_map.mpr ⟨request, hrequest, hsymbol⟩) honce.1
  · intro _
    obtain ⟨midPrice, hmidPrice, -, hcap⟩ := h.sized _ hmem
    obtain ⟨hall, hat⟩ := hfill.at_price (hmid midPrice hmidPrice)
    have hunheld : (ledgerOf s).quantityOf order.symbol ≤ 0 :=
      hfirst.elim le_of_eq (h.unheld _ hmem)
    refine WithinCap.of_bought hfill.filled hfill.priced hside ?_ ?_
    · rw [hfill.symbol_eq]
      exact hunheld
    · rw [hall, hat]
      exact hcap

/-- What is bought otherwise counts as entered no more. -/
lemma Capped.bought (h : live.Capped s) (hentries : (live.entries s').Sublist (live.entries s))
    (hfill : Executed turn order (ledgerOf s) (ledgerOf s') fill)
    (hentered : s'.state.entered = s.state.entered.filter fun symbol => symbol ≠ order.symbol) :
    live.Capped s' := by
  have hgone : order.symbol ∉ s'.state.entered := by
    rw [hentered]
    simp
  refine h.of_fill hentries hfill ?_ ?_ ?_
  · intro other hother _
    rw [hentered] at hother
    exact List.mem_of_mem_filter hother
  · exact fun _ _ _ hnamed => absurd hnamed hgone
  · exact fun hnamed => absurd hnamed hgone

/-- A submission adds no more than one entry to a symbol that holds none. -/
lemma Capped.submitted (h : live.Capped s)
    (hrequests : live.requests s = Request.of order sized :: live.requests s')
    (hmoves : (∃ fill, Executed turn order (ledgerOf s) (ledgerOf s') fill)
      ∨ ledgerOf s' = ledgerOf s)
    (hmid : ∀ price ∈ sized, FilledAtPrice turn order price)
    (hentered : s'.state.entered
      = enteredAfter (ledgerOf s) (ledgerOf s') order sized s.state.entered) :
    live.Capped s' := by
  have hsublist := (entries_submitted hrequests).1
  rcases hmoves with ⟨fill, hfill⟩ | hledger
  · rw [enteredAfter, if_neg hfill.recorded] at hentered
    cases hside : order.side with
    | sell =>
        rw [hside] at hentered
        exact h.sold hsublist hfill hside hentered
    | buy =>
        rw [hside] at hentered
        dsimp only at hentered
        split_ifs at hentered with hentry
        · exact h.entered hrequests hfill hmid hside hentry.1 hentry.2 hentered
        · exact h.bought hsublist hfill hentered
  · rw [enteredAfter, if_pos (by rw [hledger])] at hentered
    refine ⟨h.once.sublist (hsublist.map Request.symbol), ?_, ?_, ?_⟩
    · exact fun request hrequest =>
        (h.unheld request (hsublist.subset hrequest)).of_same hledger hentered
    · exact fun request hrequest => h.sized request (hsublist.subset hrequest)
    · rw [hledger, hentered]
      exact h.within

end Submitted

/-- **A step builds no position beyond the cap.** -/
lemma Capped.step (h : live.Capped s) {input : LiveInput ℚ} (honly : live.StrategiesOnly input)
    (hmid : live.FilledAtMid s input) (hone : live.OneEntry s input)
    (hstep : live.step s input = some s') : live.Capped s' := by
  cases step_moves hstep with
  | quiet hledger hentered hrequests =>
      exact h.of_same hledger hentered (by rw [entries, hrequests, entries])
  | published hledger hentered hrequests =>
      rw [StrategiesOnly] at honly
      rw [honly] at hrequests
      refine h.of_same hledger hentered ?_
      rw [entries_append hrequests]
      exact List.append_nil _
  | answered hqueue hledger hentered hrequests =>
      exact h.answered hone hqueue hledger hentered hrequests
  | submitted hqueue hhead hrequests hbooks hentered =>
      refine h.submitted hrequests (submit_moves hbooks) (fun price hprice => ?_) hentered
      refine hmid _ hhead price ?_
      rw [headPrice, hqueue]
      exact hprice
  | @bought now store stamp symbol decision order s' hscanning horder hledger hentered hrequests =>
      obtain ⟨hbuy, hsymbol, -, hquantity⟩ := MomentumTrapService.orderOf_some horder
      obtain ⟨hunheld, hnone⟩ := hone symbol hscanning hbuy
      obtain ⟨hpositive, hcap⟩ := MomentumTrapService.notional_le live.max_shared
        (live.min_shared.trans_le live.strategy.accepted.covers) decision
      refine h.of_entry hledger hentered hrequests ?_ ?_ ?_
      · rw [Request.of, hsymbol]
        exact hunheld
      · exact ⟨_, rfl, hpositive, by rw [Request.of, hquantity]; exact hcap⟩
      · rw [Request.of, hsymbol]
        exact hnone

/-- **The position cap.**  In every run in which no entry to buy is asked for while another one of
its symbol waits or is held, a long position that entries have built up from flat comes to the cap at
most, rounding aside. -/
theorem entries_within_cap (live : LiveTrading ℚ) (s₀ : Live ℚ) (hidle : live.requests s₀ = [])
    (hfresh : s₀.state.entered = []) (inputs : List (LiveInput ℚ))
    (honly : Machine.Along live.step s₀ (fun _ input => live.StrategiesOnly input) inputs)
    (hmid : Machine.Along live.step s₀ live.FilledAtMid inputs)
    (hone : Machine.Along live.step s₀ live.OneEntry inputs) (s : Live ℚ)
    (hrun : Machine.run live.step s₀ inputs = some s) (symbol : String)
    (hentered : symbol ∈ s.state.entered) (position : Position ℚ)
    (hposition : (ledgerOf s).getPosition symbol = some position) (hlong : 0 < position.quantity) :
    position.quantity * position.averageEntry
      ≤ live.strategy.maxPositionNotional + position.averageEntry * ROUNDING := by
  have hinit : live.Capped s₀ := by
    have hentries : live.entries s₀ = [] := by rw [entries, hidle, List.filter_nil]
    refine ⟨?_, ?_, ?_, ?_⟩
    · rw [hentries]
      exact List.nodup_nil
    · rw [hentries]
      exact fun request hrequest => absurd hrequest List.not_mem_nil
    · rw [hentries]
      exact fun request hrequest => absurd hrequest List.not_mem_nil
    · rw [hfresh]
      exact fun symbol hsymbol => absurd hsymbol List.not_mem_nil
  have hcapped : live.Capped s := by
    refine Machine.Along.invariant (honly.and (hmid.and hone)) live.Capped hinit ?_ hrun
    rintro s input s' hs ⟨hi, hm, ho⟩ hstep
    exact hs.step hi hm ho hstep
  exact (hcapped.within symbol hentered position hposition hlong).2

/-! ## Two entries of one symbol -/

/-- A check that no entry waits when an order book is handled, and that the scanner finds nothing. -/
def noEntryWaits (s : Live ℚ) : LiveInput ℚ → Bool
  | .bus _ =>
      match s.queue with
      | .service (.orderbookSnapshot _) _ :: _ => (demoLive.entries s).isEmpty
      | _ => true
  | .scan _ _ _ _ => true
  | .candles _ _ _ _ => false

lemma oneEntry_of_check (s : Live ℚ) (input : LiveInput ℚ) (h : noEntryWaits s input = true) :
    demoLive.OneEntry s input := by
  cases input with
  | bus input =>
      cases input with
      | dispatch turn =>
          intro orderbook sized rest items symbol midPrice imbalance bestBid bestAsk hqueue hdict due
            request hrequest
          rw [noEntryWaits, hqueue, List.isEmpty_iff] at h
          exact absurd (h ▸ hrequest) List.not_mem_nil
      | _ => trivial
  | scan => trivial
  | candles => cases h

/-- One entry. -/
def oneEntry : List (LiveInput ℚ) :=
  List.replicate 9 (.bus (.publish (demoTick 100))) ++ [.bus (.publish (demoBook 90))]
    ++ List.replicate 10 (demoDispatch 0 1) ++ [demoDispatch 1 1]

/-- A coin at 90, which is the cap. -/
theorem entries_within_cap_one_entry :
    ∃ s position, Machine.run demoLive.step (demoStart PositionLedger.empty) oneEntry = some s
      ∧ "BTC/USDT" ∈ s.state.entered
      ∧ (ledgerOf s).getPosition "BTC/USDT" = some position
      ∧ position.quantity = 1 ∧ position.averageEntry = 90
      ∧ position.quantity * position.averageEntry
        ≤ demoLive.strategy.maxPositionNotional + position.averageEntry * ROUNDING := by
  have hend : (Machine.run demoLive.step (demoStart PositionLedger.empty) oneEntry).map
      (fun s => (s.state.entered, ((ledgerOf s).getPosition "BTC/USDT").map fun position =>
        (position.quantity, position.averageEntry)))
      = some (["BTC/USDT"], some (1, 90)) := by
    decide +kernel
  obtain ⟨s, hrun, hs⟩ := Option.map_eq_some_iff.mp hend
  obtain ⟨hentered, hheld⟩ := Prod.mk.inj hs
  obtain ⟨position, hposition, hone⟩ := Option.map_eq_some_iff.mp hheld
  obtain ⟨hquantity, hentry⟩ := Prod.mk.inj hone
  have hmem : "BTC/USDT" ∈ s.state.entered := hentered ▸ List.mem_cons_self
  refine ⟨s, position, hrun, hmem, hposition, hquantity, hentry, ?_⟩
  exact entries_within_cap demoLive (demoStart PositionLedger.empty) rfl rfl oneEntry
    (Machine.along_of_decide (by decide +kernel))
    (Machine.along_of_decide (by decide +kernel))
    (Machine.along_of_check noEntryWaits oneEntry_of_check (by decide +kernel))
    s hrun "BTC/USDT" hmem position hposition (hquantity ▸ one_pos)

/-- The second order book is handled while the first entry still waits: both buy a coin, and twice
the cap is held. -/
theorem second_entry_beyond_cap :
    demoLive.requests (demoStart PositionLedger.empty) = []
      ∧ (demoStart PositionLedger.empty).state.entered = []
      ∧ Machine.Along demoLive.step (demoStart PositionLedger.empty)
        (fun _ input => demoLive.StrategiesOnly input)
        (demoFall 6 ++ List.replicate 2 (demoDispatch 7 1))
      ∧ Machine.Along demoLive.step (demoStart PositionLedger.empty) demoLive.FilledAtMid
        (demoFall 6 ++ List.replicate 2 (demoDispatch 7 1))
      ∧ (Machine.run demoLive.step (demoStart PositionLedger.empty)
          (demoFall 6 ++ List.replicate 2 (demoDispatch 7 1))).map
          (fun s => (s.state.entered.contains "BTC/USDT",
            ((ledgerOf s).getPosition "BTC/USDT").map fun position =>
              (position.quantity, position.averageEntry))) = some (true, some (2, 90))
      ∧ demoLive.strategy.maxPositionNotional + 90 * ROUNDING < 2 * 90 := by
  refine ⟨rfl, rfl, ?_, ?_, by decide +kernel, by decide +kernel⟩
  · exact Machine.along_of_decide (by decide +kernel)
  · exact Machine.along_of_decide (by decide +kernel)

end LiveTrading

end Aegis
