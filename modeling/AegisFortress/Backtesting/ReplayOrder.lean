import AegisFortress.Backtesting.Replay

/-!
# The order of a replay

What `ReplayMarketDataService.run` does with the records it is given, one after the other.  A record
can fail at the clock, which then has not moved, or while it is normalised, when the clock has; the
queue of the bus takes every event.

`replay_in_order`: time never goes back, a record that is late does nothing but count as failed, the
events come out in the order of their timestamps, and every record is counted once.
-/

namespace Aegis

namespace ReplayMarketDataService

open Raising

section Definitions

variable {α : Type} [Add α] [Sub α] [Mul α] [Div α] [Zero α] [LT α] [LE α] [DecidableLT α]
  [DecidableLE α] [DecidableEq α] [PyFloat α] (lib : StdLib α)

/-- A service that has been prepared and has not processed anything. -/
def ready (store : MarketStateStore α) (exchange : SimulatedExchange α) :
    ReplayMarketDataService α :=
  { running := true, replayClock := ⟨none, none⟩, marketStateStore := store
    simulatedExchange := exchange, published := [], recordsProcessed := 0, ticksPublished := 0
    orderbooksPublished := 0, failedRecords := 0 }

/-- The loop of `run` over records, each with the wall clock while it is processed. -/
def runRecords : List (DateTime × ReplayRecord α) → Replay α Unit
  | [] => clearRunning
  | (now, record) :: rest => do
      let s ← get
      if s.running then do
        processRecord lib now record
        runRecords rest
      else clearRunning

/-- The service when these records have been processed. -/
def reach (service : ReplayMarketDataService α) (records : List (DateTime × ReplayRecord α)) :
    ReplayMarketDataService α :=
  records.foldl (fun s record => final ((processRecord lib record.1 record.2).run s)) service

end Definitions

variable {α : Type} [Add α] [Sub α] [Mul α] [Div α] [Zero α] [LT α] [LE α] [DecidableLT α]
  [DecidableLE α] [PyFloat α] {lib : StdLib α} {record : ReplayRecord α}
  {s s' : ReplayMarketDataService α}

/-! ## One record -/

/-- What becomes of a record: it is late, or the clock advances and it fails, is published, or is of
another type. -/
inductive Handled (lib : StdLib α) (record : ReplayRecord α) (s : ReplayMarketDataService α) :
    ReplayMarketDataService α → Prop
  | late (last : DateTime) (hlast : s.replayClock.lastEventTime = some last)
      (hlate : record.timestamp.micros < last.micros) :
      Handled lib record s { s with failedRecords := s.failedRecords + 1 }
  | failed (clock : ReplayClock) (hclock : s.replayClock.advanceTo record.timestamp = .ok clock) :
      Handled lib record s
        { s with replayClock := clock, failedRecords := s.failedRecords + 1 }
  | tick (clock : ReplayClock) (hclock : s.replayClock.advanceTo record.timestamp = .ok clock)
      (tick : MarketTick α) (htime : tick.timestamp = record.timestamp) :
      Handled lib record s
        { s with
          replayClock := clock
          marketStateStore := s.marketStateStore.updateTick tick
          simulatedExchange := s.simulatedExchange.updateTick tick
          published := s.published ++ [("MARKET_TICK", tick.toDict lib.iso)]
          ticksPublished := s.ticksPublished + 1
          recordsProcessed := s.recordsProcessed + 1 }
  | orderbook (clock : ReplayClock)
      (hclock : s.replayClock.advanceTo record.timestamp = .ok clock)
      (book : OrderBookSnapshot α) (htime : book.timestamp = record.timestamp) :
      Handled lib record s
        { s with
          replayClock := clock
          marketStateStore := s.marketStateStore.updateOrderbook book
          simulatedExchange := s.simulatedExchange.updateOrderbook book
          published := s.published ++ [("ORDERBOOK_SNAPSHOT", book.toDict lib.iso)]
          orderbooksPublished := s.orderbooksPublished + 1
          recordsProcessed := s.recordsProcessed + 1 }
  | other (clock : ReplayClock) (hclock : s.replayClock.advanceTo record.timestamp = .ok clock) :
      Handled lib record s
        { s with replayClock := clock, recordsProcessed := s.recordsProcessed + 1 }

lemma advanceTo_error {clock : ReplayClock} {time : DateTime} {e : PyError}
    (h : clock.advanceTo time = .error e) :
    ∃ last, clock.lastEventTime = some last ∧ time.micros < last.micros := by
  rw [ReplayClock.advanceTo] at h
  cases hlast : clock.lastEventTime with
  | none =>
      rw [hlast] at h
      cases h
  | some last =>
      rw [hlast] at h
      simp only at h
      split_ifs at h with hlate
      exact ⟨last, rfl, hlate⟩

lemma advanceTo_ok {clock clock' : ReplayClock} {time : DateTime}
    (h : clock.advanceTo time = .ok clock') : clock' = ⟨some time, some time⟩
      ∧ ∀ last, clock.lastEventTime = some last → last.micros ≤ time.micros := by
  rw [ReplayClock.advanceTo] at h
  cases hlast : clock.lastEventTime with
  | none =>
      rw [hlast] at h
      cases h
      exact ⟨rfl, fun last hnone => by cases hnone⟩
  | some last =>
      rw [hlast] at h
      simp only at h
      split_ifs at h with hlate
      cases h
      refine ⟨rfl, fun last' hsome => ?_⟩
      cases hsome
      exact not_lt.mp hlate

lemma Handled.running (h : Handled lib record s s') :
    s'.running = s.running := by
  cases h <;> rfl

lemma Handled.counted (h : Handled lib record s s') :
    s'.recordsProcessed + s'.failedRecords = s.recordsProcessed + s.failedRecords + 1 := by
  cases h with
  | late last hlast hlate => rfl
  | failed clock hclock => rfl
  | tick clock hclock tick htime => exact Nat.add_right_comm _ 1 _
  | orderbook clock hclock book htime => exact Nat.add_right_comm _ 1 _
  | other clock hclock => exact Nat.add_right_comm _ 1 _

/-! ## The clock -/

/-- A time of the clock, and one that is not before it. -/
def NotBack (earlier later : Option DateTime) : Prop :=
  ∀ time, earlier = some time → ∃ time', later = some time' ∧ time.micros ≤ time'.micros

lemma NotBack.refl (time : Option DateTime) : NotBack time time :=
  fun time' h => ⟨time', h, le_rfl⟩

lemma NotBack.trans {first second third : Option DateTime} (h : NotBack first second)
    (h' : NotBack second third) : NotBack first third := by
  intro time htime
  obtain ⟨time', htime', hle⟩ := h time htime
  obtain ⟨time'', htime'', hle'⟩ := h' time' htime'
  exact ⟨time'', htime'', hle.trans hle'⟩

/-- The clock lets this record through. -/
def Accepts (s : ReplayMarketDataService α) (record : ReplayRecord α) : Prop :=
  ∃ clock, s.replayClock.advanceTo record.timestamp = .ok clock

/-- After a record that it lets through, the clock shows its time. -/
lemma Handled.accepted (h : Handled lib record s s') (haccepts : Accepts s record) :
    s'.replayClock = ⟨some record.timestamp, some record.timestamp⟩ := by
  obtain ⟨clock', hclock'⟩ := haccepts
  cases h with
  | late last hlast hlate => exact absurd ((advanceTo_ok hclock').2 last hlast) hlate.not_ge
  | failed clock hclock => exact (advanceTo_ok hclock).1
  | tick clock hclock tick htime => exact (advanceTo_ok hclock).1
  | orderbook clock hclock book htime => exact (advanceTo_ok hclock).1
  | other clock hclock => exact (advanceTo_ok hclock).1

/-- A record that is late only counts as failed. -/
lemma Handled.of_late (h : Handled lib record s s') {last : DateTime}
    (hlast : s.replayClock.lastEventTime = some last)
    (hlate : record.timestamp.micros < last.micros) :
    s' = { s with failedRecords := s.failedRecords + 1 } := by
  have hno : ∀ clock, ¬ s.replayClock.advanceTo record.timestamp = .ok clock :=
    fun clock hclock => absurd ((advanceTo_ok hclock).2 last hlast) hlate.not_ge
  cases h with
  | late last' hlast' hlate' => rfl
  | failed clock hclock => exact absurd hclock (hno clock)
  | tick clock hclock tick htime => exact absurd hclock (hno clock)
  | orderbook clock hclock book htime => exact absurd hclock (hno clock)
  | other clock hclock => exact absurd hclock (hno clock)

/-- A record is let through, or only counts as failed. -/
lemma Handled.accepts_or (h : Handled lib record s s') :
    Accepts s record ∨ s' = { s with failedRecords := s.failedRecords + 1 } := by
  cases h with
  | late last hlast hlate => exact Or.inr rfl
  | failed clock hclock => exact Or.inl ⟨clock, hclock⟩
  | tick clock hclock tick htime => exact Or.inl ⟨clock, hclock⟩
  | orderbook clock hclock book htime => exact Or.inl ⟨clock, hclock⟩
  | other clock hclock => exact Or.inl ⟨clock, hclock⟩

/-- **One record** does not take the clock back. -/
lemma Handled.notBack (h : Handled lib record s s') :
    NotBack s.replayClock.lastEventTime s'.replayClock.lastEventTime := by
  rcases h.accepts_or with haccepts | hlate
  · rw [h.accepted haccepts]
    obtain ⟨clock, hclock⟩ := haccepts
    exact fun last hlast => ⟨_, rfl, (advanceTo_ok hclock).2 last hlast⟩
  · rw [hlate]
    exact .refl _

/-! ## The events -/

/-- An event with the timestamp of a tick or a book at this time. -/
def StampedAt (lib : StdLib α) (event : String × List (String × PyVal α)) (time : DateTime) : Prop :=
  event.2.lookup "timestamp" = some (.str (lib.iso.isoformat time))

lemma stampedAt_tick (tick : MarketTick α) :
    StampedAt lib ("MARKET_TICK", tick.toDict lib.iso) tick.timestamp :=
  rfl

omit [Mul α] [LT α] [DecidableLT α] in
lemma stampedAt_orderbook (book : OrderBookSnapshot α) :
    StampedAt lib ("ORDERBOOK_SNAPSHOT", book.toDict lib.iso) book.timestamp :=
  rfl

/-- Nothing is published, or an event of this record, which the clock let through. -/
lemma Handled.published (h : Handled lib record s s') :
    s'.published = s.published
      ∨ Accepts s record
        ∧ ∃ event, s'.published = s.published ++ [event] ∧ StampedAt lib event record.timestamp := by
  cases h with
  | late last hlast hlate => exact Or.inl rfl
  | failed clock hclock => exact Or.inl rfl
  | tick clock hclock tick htime =>
      exact Or.inr ⟨⟨clock, hclock⟩, _, rfl, htime ▸ stampedAt_tick tick⟩
  | orderbook clock hclock book htime =>
      exact Or.inr ⟨⟨clock, hclock⟩, _, rfl, htime ▸ stampedAt_orderbook book⟩
  | other clock hclock => exact Or.inl rfl

/-- The service after this many records: what the clock shows, what has been counted, and when the
events are from. -/
structure InOrder (lib : StdLib α) (count : ℕ) (s : ReplayMarketDataService α) : Prop where
  current : s.replayClock.currentTime = s.replayClock.lastEventTime
  counted : s.recordsProcessed + s.failedRecords = count
  stamped : ∃ times, List.Forall₂ (StampedAt lib) s.published times
    ∧ times.Pairwise (·.micros ≤ ·.micros)
    ∧ ∀ time ∈ times, NotBack (some time) s.replayClock.lastEventTime

/-- **One record** keeps the order. -/
lemma InOrder.handled {count : ℕ} (h : InOrder lib count s)
    (hhandled : Handled lib record s s') : InOrder lib (count + 1) s' := by
  obtain ⟨times, hstamped, hsorted, hpast⟩ := h.stamped
  have hpast' : ∀ time ∈ times, NotBack (some time) s'.replayClock.lastEventTime :=
    fun time htime => (hpast time htime).trans hhandled.notBack
  refine ⟨?_, by rw [hhandled.counted, h.counted], ?_⟩
  · rcases hhandled.accepts_or with haccepts | hlate
    · rw [hhandled.accepted haccepts]
    · rw [hlate]
      exact h.current
  · rcases hhandled.published with hnone | ⟨haccepts, event, hevent, hstamp⟩
    · rw [hnone]
      exact ⟨times, hstamped, hsorted, hpast'⟩
    · have hclock := hhandled.accepted haccepts
      rw [hevent]
      refine ⟨times ++ [record.timestamp], List.rel_append hstamped (.cons hstamp .nil), ?_, ?_⟩
      · refine List.pairwise_append.mpr ⟨hsorted, List.pairwise_singleton _ _, ?_⟩
        intro time htime last hlast
        obtain ⟨last', hlast', hle⟩ := hpast' time htime time rfl
        rw [hclock] at hlast'
        cases hlast'
        rwa [List.mem_singleton.mp hlast]
      · intro time htime
        rcases List.mem_append.mp htime with hold | hnew
        · exact hpast' time hold
        · rw [List.mem_singleton.mp hnew, hclock]
          exact .refl _

/-! ## All records -/

variable [DecidableEq α] {records seen before between after : List (DateTime × ReplayRecord α)}
  {entry : DateTime × ReplayRecord α} {service : ReplayMarketDataService α}

/-- **One record**: nothing else can become of it, and nothing is raised. -/
lemma processRecord_handled (lib : StdLib α) (now : DateTime) (record : ReplayRecord α)
    (s : ReplayMarketDataService α) :
    Leads (processRecord lib now record) s (fun _ s' => Handled lib record s s')
      (fun _ _ => False) := by
  simp only [processRecord, handleTick, handleOrderbook, leads_tryCatch, leads_bind, leads_get,
    leads_lift, leads_modify, leads_ite]
  constructor
  · intro clock hclock
    have hfailed : Handled lib record s
        { s with replayClock := clock, failedRecords := s.failedRecords + 1 } :=
      .failed clock hclock
    refine ⟨fun _ => ?_, fun _ => ⟨fun _ => ?_, fun _ => .other clock hclock⟩⟩
    · exact ⟨fun symbol _ => ⟨fun tick _ => .tick clock hclock _ rfl, fun _ _ => hfailed⟩,
        fun _ _ => hfailed⟩
    · exact ⟨fun symbol _ => ⟨fun depth _ => ⟨fun book _ => .orderbook clock hclock _ rfl,
        fun _ _ => hfailed⟩, fun _ _ => hfailed⟩, fun _ _ => hfailed⟩
  · intro e he
    obtain ⟨last, hlast, hlate⟩ := advanceTo_error he
    exact .late last hlast hlate

lemma reach_snoc : reach lib service (records ++ [entry])
    = final ((processRecord lib entry.1 entry.2).run (reach lib service records)) := by
  rw [reach, List.foldl_append]
  rfl

lemma reach_append : reach lib service (before ++ after)
    = reach lib (reach lib service before) after := List.foldl_append

lemma handled_reach : Handled lib entry.2 (reach lib service records)
    (reach lib service (records ++ [entry])) := by
  obtain ⟨_, s', hrun, hhandled⟩ :=
    (processRecord_handled lib entry.1 entry.2 (reach lib service records)).returns
  rw [reach_snoc, hrun]
  exact hhandled

/-- **The loop** goes through the records and takes the flag down. -/
lemma runRecords_eq (hrunning : service.running = true) : (runRecords lib records).run service
    = .ok () { reach lib service records with running := false } := by
  induction records generalizing service with
  | nil => rfl
  | cons entry rest ih =>
      obtain ⟨now, record⟩ := entry
      obtain ⟨_, s', hrun, hhandled⟩ := (processRecord_handled lib now record service).returns
      have hreach : reach lib service ((now, record) :: rest) = reach lib s' rest := by
        rw [reach, List.foldl_cons, hrun]
        rfl
      rw [hreach, ← ih (hhandled.running.trans hrunning)]
      simp [runRecords, EStateM.run_bind, EStateM.run_get, hrunning, hrun]

lemma reach_notBack : NotBack service.replayClock.lastEventTime
    (reach lib service records).replayClock.lastEventTime := by
  induction records using List.reverseRecOn with
  | nil => exact .refl _
  | append_singleton seen entry ih => exact ih.trans handled_reach.notBack

lemma inOrder_reach (store : MarketStateStore α) (exchange : SimulatedExchange α) :
    InOrder lib records.length (reach lib (ready store exchange) records) := by
  induction records using List.reverseRecOn with
  | nil => exact ⟨rfl, rfl, [], .nil, .nil, fun time htime => absurd htime List.not_mem_nil⟩
  | append_singleton seen entry ih =>
      rw [List.length_append, List.length_singleton]
      exact ih.handled handled_reach

/-- **A replay never goes back in time.**  `run` goes through all records; the clock is not taken
back by any of them; a record that is older than one the clock let through only counts as failed; the
events are published in the order of their timestamps; and every record is counted. -/
theorem replay_in_order (lib : StdLib α) (store : MarketStateStore α)
    (exchange : SimulatedExchange α) (records : List (DateTime × ReplayRecord α)) :
    (runRecords lib records).run (ready store exchange)
        = .ok () { reach lib (ready store exchange) records with running := false }
      ∧ (∀ before entry after, records = before ++ entry :: after →
        NotBack (reach lib (ready store exchange) before).replayClock.currentTime
          (reach lib (ready store exchange) (before ++ [entry])).replayClock.currentTime)
      ∧ (∀ before earlier between late after,
        records = before ++ earlier :: between ++ late :: after →
        Accepts (reach lib (ready store exchange) before) earlier.2 →
        late.2.timestamp.micros < earlier.2.timestamp.micros →
        reach lib (ready store exchange) (before ++ earlier :: between ++ [late])
          = let s := reach lib (ready store exchange) (before ++ earlier :: between)
            { s with failedRecords := s.failedRecords + 1 })
      ∧ (∃ times, times.Pairwise (·.micros ≤ ·.micros) ∧ List.Forall₂ (StampedAt lib)
        (reach lib (ready store exchange) records).published times)
      ∧ (reach lib (ready store exchange) records).recordsProcessed
        + (reach lib (ready store exchange) records).failedRecords = records.length := by
  have hend : InOrder lib records.length (reach lib (ready store exchange) records) :=
    inOrder_reach store exchange
  obtain ⟨times, hstamped, hsorted, -⟩ := hend.stamped
  refine ⟨runRecords_eq rfl, ?_, ?_, ⟨times, hsorted, hstamped⟩, hend.counted⟩
  · intro before entry after _
    rw [(inOrder_reach store exchange).current, (inOrder_reach store exchange).current]
    exact handled_reach.notBack
  · intro before earlier between late after _ haccepts hlate
    have hthen : (reach lib (ready store exchange) (before ++ [earlier])).replayClock
        = ⟨some earlier.2.timestamp, some earlier.2.timestamp⟩ := handled_reach.accepted haccepts
    have hsince : NotBack (some earlier.2.timestamp)
        (reach lib (ready store exchange)
          (before ++ earlier :: between)).replayClock.lastEventTime := by
      have hclock : (reach lib (ready store exchange)
          (before ++ [earlier])).replayClock.lastEventTime = some earlier.2.timestamp := by
        rw [hthen]
      rw [List.append_cons, reach_append, ← hclock]
      exact reach_notBack
    obtain ⟨last, hlast, hle⟩ := hsince _ rfl
    exact handled_reach.of_late hlast (hlate.trans_le hle)

/-- The records a file yields, processed at this time. -/
def recordsOf (lib : StdLib α) (now : DateTime) (lines : List (String × ℕ)) :
    List (DateTime × ReplayRecord α) :=
  lines.filterMap fun line => match ReplaySource.parseLine lib line.1 line.2 with
    | .ok (some record) => some (now, record)
    | _ => none

/-- On a file that can be read, a service that nobody stops processes its records. -/
lemma run_eq_runRecords (now : DateTime) {lines : List (String × ℕ)}
    (hlines : ∀ line ∈ lines, ¬ Malformed lib line) :
    run lib now (fun _ => false) lines = runRecords lib (recordsOf lib now lines) := by
  induction lines with
  | nil => rfl
  | cons line rest ih =>
      obtain ⟨text, number⟩ := line
      obtain ⟨hfirst, hrest⟩ := List.forall_mem_cons.mp hlines
      rw [run, recordsOf, List.filterMap_cons]
      cases hyielded : ReplaySource.parseLine lib text number with
      | error e => exact absurd ⟨e, hyielded⟩ hfirst
      | ok yielded =>
          cases yielded with
          | none => exact ih hrest
          | some record =>
              have hflag : (modify fun s : ReplayMarketDataService α =>
                  { s with running := s.running && !false } : Replay α Unit) = pure () := by
                simp only [Bool.not_false, Bool.and_true]
                rfl
              simp only [lift, pure_bind, runRecords, ih hrest, hflag]
              rfl

end ReplayMarketDataService

end Aegis
