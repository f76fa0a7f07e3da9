import AegisFortress.Lib.History
import AegisFortress.Strategies.StrategyRuns

/-!
# Confirmation by consecutive order books

An entry is meant to be confirmed by the imbalances of the last `imbalanceConfirmSnapshots` order
books of its symbol.  The queue of imbalances holds those of the order books that reached the check
(`Queued`); the ones that were stopped before it are missing, and an entry to sell is not checked at
all.  As long as what is missing leans to buyers too, and nothing is sold short, the last order
books do confirm every entry (`entries_confirmed`).
-/

namespace Aegis

namespace MeanReversionImbalanceStrategy

open History

variable {strategy : MeanReversionImbalanceStrategy ℚ} {s s' : StrategyRun}

/-! ## The last order books of a symbol -/

/-- The order books of a symbol. -/
def booksOf (symbol : String) (books : List SeenBook) : List SeenBook :=
  books.filter fun book => book.symbol = symbol

/-- How many order books have to confirm an entry. -/
def confirmations (strategy : MeanReversionImbalanceStrategy ℚ) : ℕ :=
  strategy.imbalanceConfirmSnapshots.toNat

/-- The imbalance speaks for an entry on this side. -/
def Leans (strategy : MeanReversionImbalanceStrategy ℚ) (imbalance : ℚ) : OrderSide → Prop
  | .buy => strategy.imbalanceThreshold ≤ imbalance
  | .sell => imbalance ≤ -strategy.imbalanceThreshold

/-- There are enough order books of the symbol, and the last of them speak for an entry. -/
structure Confirming (strategy : MeanReversionImbalanceStrategy ℚ) (symbol : String)
    (side : OrderSide) (books : List SeenBook) : Prop where
  full : ((booksOf symbol books).rtake strategy.confirmations).length = strategy.confirmations
  all : ∀ book ∈ (booksOf symbol books).rtake strategy.confirmations,
    ∃ imbalance, book.imbalance = some imbalance ∧ strategy.Leans imbalance side

/-- An entry emitted in this step is confirmed by the last order books, this one included. -/
def EntryConfirmed (strategy : MeanReversionImbalanceStrategy ℚ) (s : StrategyRun)
    (input : StrategyInput) : Prop :=
  ∀ s', strategy.step s input = some s' → ∀ e, s'.signals = s.signals ++ [e] → e.reason = none →
    Confirming strategy e.symbol e.side s'.books

/-- When an entry to buy passes the check, the order books before it that did not reach the check
lean to buyers as well; an entry to sell is only due when one order book is enough. -/
def Consecutive (strategy : MeanReversionImbalanceStrategy ℚ) (s : StrategyRun) :
    StrategyInput → Prop
  | .book killSwitch clock (.dict items) => ∀ symbol midPrice imbalance bestBid bestAsk,
      (Examined strategy s.ledger killSwitch clock s.state items symbol midPrice imbalance bestBid
          bestAsk → Confirmed strategy s.state symbol imbalance →
        ∀ book ∈ (booksOf symbol s.books).rtake (strategy.confirmations - 1),
          book.examined = true ∨ ∃ value, book.imbalance = some value ∧ strategy.Leans value .buy)
      ∧ (EntryDue strategy s.ledger killSwitch clock s.state items symbol midPrice imbalance bestBid
          bestAsk .sell → strategy.btcMarketOk (strategy.appendMid symbol midPrice s.state) = true →
        strategy.imbalanceConfirmSnapshots = 1)
  | _ => True

lemma confirmations_pos : 0 < strategy.confirmations := by
  rw [confirmations, imbalanceConfirmSnapshots]
  omega

lemma booksOf_snoc (symbol : String) (books : List SeenBook) (book : SeenBook)
    (h : book.symbol = symbol) : booksOf symbol (books ++ [book]) = booksOf symbol books ++ [book] := by
  rw [booksOf, List.filter_append, List.filter_singleton, decide_eq_true h]
  rfl

/-! ## The queue of imbalances -/

/-- The order books of a symbol that reached the check. -/
def examinedOf (symbol : String) (books : List SeenBook) : List SeenBook :=
  (booksOf symbol books).filter SeenBook.examined

/-- The queue of a symbol holds the imbalances of the last order books that reached the check. -/
def Queued (strategy : MeanReversionImbalanceStrategy ℚ) (s : StrategyRun) : Prop :=
  ∀ symbol, (s.state.imbalanceHistory.getD symbol []).map some
    = ((examinedOf symbol s.books).rtake strategy.confirmations).map SeenBook.imbalance

lemma queued_init (ledger : PositionLedger ℚ) (now : ℚ) : Queued strategy (.init ledger now) := by
  intro symbol
  change [] = (([] : List SeenBook).rtake _).map _
  rw [List.rtake_nil, List.map_nil]

lemma examinedOf_append (symbol : String) (books new : List SeenBook) :
    examinedOf symbol (books ++ new) = examinedOf symbol books ++ examinedOf symbol new := by
  rw [examinedOf, booksOf, List.filter_append, List.filter_append]
  rfl

/-- An order book that does not reach the check leaves the queue alone. -/
lemma Queued.unexamined (h : Queued strategy s) {new : List SeenBook}
    (hhistory : s'.state.imbalanceHistory = s.state.imbalanceHistory)
    (hbooks : s'.books = s.books ++ new) (hnone : ∀ book ∈ new, book.examined = false) :
    Queued strategy s' := by
  intro symbol
  have hnew : examinedOf symbol new = [] := by
    rw [examinedOf, List.filter_eq_nil_iff]
    intro book hbook
    rw [hnone book (List.mem_filter.mp hbook).1]
    exact Bool.false_ne_true
  rw [hhistory, h symbol, hbooks, examinedOf_append, hnew, List.append_nil]

/-- The queue with one more imbalance. -/
lemma Queued.imbalances (h : Queued strategy s) (symbol : String) (imbalance : ℚ) :
    (strategy.imbalances s.state symbol imbalance).map some
      = ((examinedOf symbol (s.books ++ [⟨symbol, some imbalance, true⟩])).rtake
          strategy.confirmations).map SeenBook.imbalance := by
  have hwindow : strategy.imbalances s.state symbol imbalance
      = (s.state.imbalanceHistory.getD symbol [] ++ [imbalance]).rtake strategy.confirmations := by
    rw [MeanReversionImbalanceStrategy.imbalances, dequeAppend, List.rtake, List.length_append,
      List.length_singleton, confirmations]
  have hnew : examinedOf symbol [⟨symbol, some imbalance, true⟩]
      = [⟨symbol, some imbalance, true⟩] := by
    simp [examinedOf, booksOf]
  rw [hwindow, ← rtake_map, List.map_append, h symbol, ← rtake_map, List.map_singleton, ← rtake_map,
    rtake_snoc, examinedOf_append, hnew, List.map_append, List.map_singleton]

/-- An order book that reaches the check joins the queue. -/
lemma Queued.examined (h : Queued strategy s) {symbol : String} {imbalance : ℚ}
    (hhistory : s'.state.imbalanceHistory
      = s.state.imbalanceHistory.set symbol (strategy.imbalances s.state symbol imbalance))
    (hbooks : s'.books = s.books ++ [⟨symbol, some imbalance, true⟩]) : Queued strategy s' := by
  intro symbol'
  rw [hhistory, hbooks]
  rcases eq_or_ne symbol symbol' with rfl | hne
  · rw [Dict.getD_set_self, h.imbalances]
  · have hnew : examinedOf symbol' [⟨symbol, some imbalance, true⟩] = [] := by
      simp [examinedOf, booksOf, hne]
    rw [Dict.getD, Dict.get?_set_of_ne _ hne, examinedOf_append, hnew, List.append_nil]
    exact h symbol'

/-! ## One step -/

section Seen

variable {ledger : PositionLedger ℚ} {killSwitch : KillSwitch ℚ} {clock : Monotonic ℚ}
  {state : StrategyState ℚ} {payload : PyVal ℚ} {items : List (String × PyVal ℚ)}
  {symbol : String} {midPrice imbalance bestBid bestAsk : ℚ}

lemma seen_unexamined (hno : ¬ Examines strategy ledger killSwitch clock state payload) :
    ∀ book ∈ strategy.seen ledger killSwitch clock state payload, book.examined = false := by
  cases payload with
  | dict items =>
      intro book hbook
      rw [List.mem_singleton.mp hbook]
      exact Bool.eq_false_of_not_eq_true fun h => hno (examines_iff.mp h)
  | _ => exact fun book hbook => absurd hbook List.not_mem_nil

lemma Examined.seen (h : Examined strategy ledger killSwitch clock state items symbol midPrice
      imbalance bestBid bestAsk) :
    strategy.seen ledger killSwitch clock state (.dict items)
      = [⟨symbol, some imbalance, true⟩] := by
  have hexamines : strategy.examines ledger killSwitch clock state items = true :=
    examines_iff.mpr ⟨items, symbol, midPrice, imbalance, bestBid, bestAsk, rfl, h⟩
  rw [MeanReversionImbalanceStrategy.seen, hexamines, h.symbol_eq, h.imbalance_read]
  rfl

end Seen

/-- **One step keeps the queue.** -/
lemma Queued.step {input : StrategyInput} (h : Queued strategy s)
    (hstep : strategy.step s input = some s') : Queued strategy s' := by
  cases step_stepped hstep with
  | tick | ledger => exact h
  | @book killSwitch clock payload signals state' htime handled =>
      cases handled with
      | skipped hno => exact h.unexamined rfl rfl (seen_unexamined hno)
      | noted symbol midPrice hno => exact h.unexamined rfl rfl (seen_unexamined hno)
      | declined hdict hsymbol hflat hno => exact h.unexamined rfl rfl (seen_unexamined hno)
      | badTrend hdict hsymbol hflat hno =>
          exact h.unexamined (blockSymbol_imbalances ..) rfl (seen_unexamined hno)
      | sold hdict due hmarket hno => exact h.unexamined rfl rfl (seen_unexamined hno)
      | watched hdict hsymbol hheld hno => exact h.unexamined rfl rfl (seen_unexamined hno)
      | exited hdict due hno =>
          exact h.unexamined (blockSymbol_imbalances ..) rfl (seen_unexamined hno)
      | unconfirmed hdict hex =>
          subst hdict
          rw [hex.seen]
          exact h.examined rfl rfl
      | bought hdict hex hconfirmed hlean =>
          subst hdict
          rw [hex.seen]
          exact h.examined rfl rfl

/-! ## Confirmed entries -/

section Entry

variable {symbol : String} {imbalance : ℚ}

/-- A full queue has been filled by order books. -/
lemma Queued.full (h : Queued strategy s) (hconfirmed : Confirmed strategy s.state symbol imbalance) :
    strategy.confirmations
      ≤ (booksOf symbol (s.books ++ [⟨symbol, some imbalance, true⟩])).length := by
  have hlength := congrArg List.length (h.imbalances symbol imbalance)
  rw [List.length_map, List.length_map, List.rtake, List.length_drop] at hlength
  have hexamined : (examinedOf symbol (s.books ++ [⟨symbol, some imbalance, true⟩])).length
      ≤ (booksOf symbol (s.books ++ [⟨symbol, some imbalance, true⟩])).length :=
    List.length_filter_le _ _
  have hfull : strategy.confirmations ≤ (strategy.imbalances s.state symbol imbalance).length :=
    Int.toNat_le.mpr hconfirmed.full
  omega

/-- An order book that reached the check and is among the last is in the queue. -/
lemma Queued.leans (h : Queued strategy s) (hconfirmed : Confirmed strategy s.state symbol imbalance)
    {book : SeenBook}
    (hbook : book ∈ (booksOf symbol (s.books ++ [⟨symbol, some imbalance, true⟩])).rtake
      strategy.confirmations) (hexamined : book.examined = true) :
    ∃ value, book.imbalance = some value ∧ strategy.Leans value .buy := by
  have hmem : book.imbalance ∈ (strategy.imbalances s.state symbol imbalance).map some := by
    rw [h.imbalances]
    exact List.mem_map.mpr ⟨book, mem_rtake_filter SeenBook.examined hbook hexamined, rfl⟩
  obtain ⟨value, hvalue, heq⟩ := List.mem_map.mp hmem
  exact ⟨value, heq.symm, hconfirmed.all value hvalue⟩

/-- The last order books are the ones before, and this one. -/
lemma mem_last {books : List SeenBook} {book new : SeenBook} (hsymbol : new.symbol = symbol)
    (hbook : book ∈ (booksOf symbol (books ++ [new])).rtake strategy.confirmations) :
    book ∈ (booksOf symbol books).rtake (strategy.confirmations - 1) ∨ book = new := by
  have hpos : 0 < strategy.confirmations := confirmations_pos
  rw [booksOf_snoc symbol books new hsymbol, ← Nat.sub_add_cancel hpos, List.rtake_concat_succ,
    List.mem_append, List.mem_singleton] at hbook
  exact hbook

end Entry

/-- An entry is confirmed when the step meets the condition. -/
lemma Queued.entryConfirmed {input : StrategyInput} (h : Queued strategy s)
    (hconsecutive : Consecutive strategy s input) : EntryConfirmed strategy s input := by
  intro s' hstep e hsignals hreason
  cases step_emits hstep hsignals with
  | @bought killSwitch clock items symbol midPrice imbalance bestBid bestAsk htime hex hconfirmed he =>
      subst he
      have hbooks := step_books hstep
      rw [hex.seen] at hbooks
      rw [hbooks]
      refine ⟨length_rtake_of_le (h.full hconfirmed), fun book hbook => ?_⟩
      by_cases hexamined : book.examined = true
      · exact h.leans hconfirmed hbook hexamined
      have hlast : book ∈ (booksOf symbol s.books).rtake (strategy.confirmations - 1)
          ∨ book = ⟨symbol, some imbalance, true⟩ := mem_last rfl hbook
      rcases hlast with hbefore | rfl
      · exact ((hconsecutive symbol midPrice imbalance bestBid bestAsk).1 hex hconfirmed book
          hbefore).resolve_left hexamined
      · exact absurd rfl hexamined
  | @sold killSwitch clock items symbol midPrice imbalance bestBid bestAsk htime due hmarket he =>
      subst he
      have hone : strategy.confirmations = 1 := by
        rw [confirmations, (hconsecutive symbol midPrice imbalance bestBid bestAsk).2 due hmarket]
        rfl
      have hbooks := step_books hstep
      rw [MeanReversionImbalanceStrategy.seen, due.symbol_eq, due.imbalance_read] at hbooks
      have hlast : (booksOf symbol s'.books).rtake strategy.confirmations
          = [⟨symbol, some imbalance, strategy.examines s.ledger killSwitch clock s.state items⟩] := by
        rw [hbooks, booksOf_snoc symbol _ _ rfl, hone, ← Nat.zero_add 1, List.rtake_concat_succ,
          List.rtake_zero]
        rfl
      refine ⟨by rw [hlast, hone]; rfl, fun book hbook => ?_⟩
      rw [hlast, List.mem_singleton] at hbook
      exact ⟨imbalance, by rw [hbook], due.calls.2.2⟩
  | exited htime due he => cases hreason.symm.trans (congrArg Emitted.reason he)

/-- **Entries are confirmed by consecutive order books**, in every run whose steps meet the
condition. -/
theorem entries_confirmed (strategy : MeanReversionImbalanceStrategy ℚ) (ledger : PositionLedger ℚ)
    (now : ℚ) (inputs : List StrategyInput)
    (hconsecutive : Machine.Along strategy.step (.init ledger now) (Consecutive strategy) inputs) :
    Machine.Along strategy.step (.init ledger now) (EntryConfirmed strategy) inputs :=
  hconsecutive.of_invariant (Queued strategy) (queued_init ledger now)
    (fun _ _ _ h _ hstep => h.step hstep) fun _ _ h hi => h.entryConfirmed hi

/-! ## Two confirmations -/

/-- The low-capital strategy, with two order books to confirm an entry. -/
def twiceConfirmed (shorts : String) : MeanReversionImbalanceStrategy ℚ :=
  { lowCapitalStrategy with
    getenv := fun name =>
      if name = "AEGIS_STRATEGY_IMBALANCE_CONFIRM_SNAPSHOTS" then some "2"
      else if name = "AEGIS_ALLOW_SHORT_ENTRIES" then some shorts
      else none }

/-- A check that all order books before this one have reached the check of the imbalances. -/
def allExamined (s : StrategyRun) : StrategyInput → Bool
  | .book _ _ (.dict items) => (booksOf (symbolOf items) s.books).all SeenBook.examined
  | _ => true

lemma consecutive_of_check (hshort : strategy.allowShortEntries = false) (s : StrategyRun)
    (input : StrategyInput) (h : allExamined s input = true) : Consecutive strategy s input := by
  cases input with
  | book killSwitch clock payload =>
      cases payload with
      | dict items =>
          intro symbol midPrice imbalance bestBid bestAsk
          refine ⟨fun hex _ book hbook => Or.inl ?_, fun due _ => ?_⟩
          · rw [allExamined, hex.symbol_eq, List.all_eq_true] at h
            exact h book (List.mem_of_mem_drop hbook)
          · exact absurd (hshort.symm.trans due.calls.1) Bool.false_ne_true
      | _ => trivial
  | _ => trivial

/-- The price falls twice, and buyers lead twice. -/
def fallingTwice : List StrategyInput :=
  standing ++ [bookAt 1000 99 (1 / 5)] ++ List.replicate 3 (tickAt 100)
    ++ [tickAt 99, bookAt 1001 99 (1 / 5)]

theorem entries_confirmed_falling_twice :
    (Machine.run (twiceConfirmed "false").step (.init .empty 0) fallingTwice).map
        StrategyRun.signals = some [⟨"BTC/USDT", .buy, none, 1001⟩]
      ∧ Machine.Along (twiceConfirmed "false").step (.init .empty 0)
        (EntryConfirmed (twiceConfirmed "false")) fallingTwice :=
  ⟨by decide +kernel, entries_confirmed (twiceConfirmed "false") .empty 0 fallingTwice
    (Machine.along_of_check allExamined (consecutive_of_check (by decide +kernel))
      (by decide +kernel))⟩

/-- Buyers lead, then sellers at a price that calls for nothing. -/
def interrupted : List StrategyInput :=
  standing ++ [bookAt 1000 99 (1 / 5)] ++ List.replicate 3 (tickAt 100)
    ++ [tickAt 99, tickAt 99, bookAt 1001 100 (-1), tickAt 99, tickAt 99]

/-- The strategy buys although sellers led in between, and sells after a single order book. -/
theorem entry_unconfirmed :
    (∃ s s', Machine.run (twiceConfirmed "true").step (.init .empty 0) interrupted = some s
      ∧ (twiceConfirmed "true").step s (bookAt 1002 99 (1 / 5)) = some s'
      ∧ s'.signals = s.signals ++ [⟨"BTC/USDT", .buy, none, 1002⟩]
      ∧ s'.books.map SeenBook.imbalance = [some (1 / 5), some (-1), some (1 / 5)]
      ∧ ¬ Confirming (twiceConfirmed "true") "BTC/USDT" .buy s'.books)
    ∧ ∃ s s', Machine.run (twiceConfirmed "true").step (.init .empty 0) standing = some s
      ∧ (twiceConfirmed "true").step s (bookAt 1000 101 (-1 / 5)) = some s'
      ∧ s'.signals = s.signals ++ [⟨"BTC/USDT", .sell, none, 1000⟩]
      ∧ s'.books.map SeenBook.imbalance = [some (-1 / 5)]
      ∧ ¬ Confirming (twiceConfirmed "true") "BTC/USDT" .sell s'.books := by
  constructor
  · have hend : (Machine.run (twiceConfirmed "true").step (.init .empty 0) interrupted).bind
        (fun s => ((twiceConfirmed "true").step s (bookAt 1002 99 (1 / 5))).map fun s' =>
          (decide (s'.signals = s.signals ++ [⟨"BTC/USDT", .buy, none, 1002⟩]), s'.books))
        = some (true, [⟨"BTC/USDT", some (1 / 5), true⟩, ⟨"BTC/USDT", some (-1), false⟩,
          ⟨"BTC/USDT", some (1 / 5), true⟩]) := by
      decide +kernel
    obtain ⟨s, s', hrun, hstep, hs'⟩ := Machine.run_then hend
    obtain ⟨hsignals, hbooks⟩ := Prod.mk.inj hs'
    refine ⟨s, s', hrun, hstep, of_decide_eq_true hsignals, by rw [hbooks]; rfl, fun h => ?_⟩
    rw [hbooks] at h
    obtain ⟨imbalance, himbalance, hleans⟩ := h.all ⟨"BTC/USDT", some (-1), false⟩ (by decide +kernel)
    cases himbalance
    exact absurd (show (1 / 5 : ℚ) ≤ -1 from hleans) (by norm_num)
  · have hend : (Machine.run (twiceConfirmed "true").step (.init .empty 0) standing).bind
        (fun s => ((twiceConfirmed "true").step s (bookAt 1000 101 (-1 / 5))).map fun s' =>
          (decide (s'.signals = s.signals ++ [⟨"BTC/USDT", .sell, none, 1000⟩]), s'.books))
        = some (true, [⟨"BTC/USDT", some (-1 / 5), false⟩]) := by
      decide +kernel
    obtain ⟨s, s', hrun, hstep, hs'⟩ := Machine.run_then hend
    obtain ⟨hsignals, hbooks⟩ := Prod.mk.inj hs'
    refine ⟨s, s', hrun, hstep, of_decide_eq_true hsignals, by rw [hbooks]; rfl, fun h => ?_⟩
    rw [hbooks] at h
    exact absurd h.full (by decide +kernel)

end MeanReversionImbalanceStrategy

end Aegis
