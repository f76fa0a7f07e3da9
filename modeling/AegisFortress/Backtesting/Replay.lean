import AegisFortress.Backtesting.SimulatedExchange
import AegisFortress.Feeds.MarketDataNormalizer
import AegisFortress.Feeds.MarketStateStore
import AegisFortress.Lib.Raising

/-!
# Replaying recorded market data

`backtesting/replay_source.py`, `replay_clock.py` and `replay_market_data_service.py`.  The service
pulls records out of a generator that reads a file line by line, feeds each to the market state and
the simulated exchange, and publishes it.  A record that cannot be processed is counted; a line that
cannot be read raises out of the generator, and out of `run`.

`BacktestRuntime.run` polls the service's `running` flag until it is down.  `flag_cleared_iff` says
when `run` leaves it down.
-/

namespace Aegis

section Definitions

variable {α : Type} [Add α] [Sub α] [Mul α] [Div α] [Zero α] [LT α] [LE α] [DecidableLT α]
  [DecidableLE α] [DecidableEq α] [PyFloat α] (lib : StdLib α)

/-! ## Lines -/

/-- `ReplayRecord`. -/
structure ReplayRecord (α : Type) where
  eventType : String
  timestamp : DateTime
  payload : List (String × PyVal α)

namespace ReplaySource

/-- `ReplaySource._parse_timestamp`. -/
def parseTimestamp (value : PyVal α) (lineNumber : ℕ) : Except PyError DateTime :=
  match value.number? with
  | some seconds => lib.fromTimestamp (MarketDataNormalizer.secondsOf seconds)
  | none =>
      match value with
      | .str s =>
          match lib.fromIsoformat (s.replace "Z" "+00:00") with
          | .ok parsed => .ok parsed
          | .error e =>
              if e.kind = .valueError then
                .error ⟨.valueError, s!"Invalid replay timestamp at line {lineNumber}"⟩
              else .error e
      | _ => .error ⟨.valueError, s!"Missing replay timestamp at line {lineNumber}"⟩

/-- `json.loads(line)` with its handler. -/
def loadRow (line : String) (lineNumber : ℕ) : Except PyError (PyVal α) :=
  match lib.loads line with
  | .ok row => .ok row
  | .error e =>
      if e.kind = .valueError then
        .error ⟨.valueError, s!"Invalid JSON at replay line {lineNumber}"⟩
      else .error e

/-- A row as a record. -/
def recordOf (row : PyVal α) (lineNumber : ℕ) : Except PyError (ReplayRecord α) :=
  match row with
  | .dict items => do
      let eventType := pyUpper ((items.lookup "event_type").getD (.str "")).toStr
      if eventType ≠ "MARKET_TICK" ∧ eventType ≠ "ORDERBOOK_SNAPSHOT" then
        .error ⟨.valueError,
          s!"Unsupported replay event type at line {lineNumber}: '{eventType}'"⟩
      else do
        let timestamp ← parseTimestamp lib (PyVal.get items "timestamp") lineNumber
        match PyVal.get items "payload" with
        | .dict payload => .ok { eventType, timestamp, payload }
        | _ => .error ⟨.valueError, s!"Replay payload must be a dictionary at line {lineNumber}"⟩
  | _ => .error ⟨.other, s!"'{row.typeName}' object has no attribute 'get'"⟩

/-- One turn of the loop in `ReplaySource.records`: a blank line yields nothing. -/
def parseLine (rawLine : String) (lineNumber : ℕ) : Except PyError (Option (ReplayRecord α)) :=
  let line := pyStrip rawLine
  if line = "" then .ok none
  else do
    let row ← loadRow lib line lineNumber
    (recordOf lib row lineNumber).map some

end ReplaySource

/-! ## The clock -/

/-- `ReplayClock`; its speed only decides how long a call sleeps. -/
structure ReplayClock where
  currentTime : Option DateTime
  lastEventTime : Option DateTime

/-- `ReplayClock.advance_to`. -/
def ReplayClock.advanceTo (clock : ReplayClock) (eventTime : DateTime) : Except PyError ReplayClock :=
  match clock.lastEventTime with
  | none => .ok ⟨some eventTime, some eventTime⟩
  | some last =>
      if eventTime.micros < last.micros then
        .error ⟨.valueError, "Replay event timestamp moved backwards"⟩
      else .ok ⟨some eventTime, some eventTime⟩

/-! ## The service -/

/-- `ReplayMarketDataService` with the components it writes to; `published` are the events it has
put on the bus. -/
structure ReplayMarketDataService (α : Type) [Zero α] [LT α] where
  running : Bool
  replayClock : ReplayClock
  marketStateStore : MarketStateStore α
  simulatedExchange : SimulatedExchange α
  published : List (String × List (String × PyVal α))
  recordsProcessed : ℕ
  ticksPublished : ℕ
  orderbooksPublished : ℕ
  failedRecords : ℕ

/-- Service code: it changes the service and may raise. -/
abbrev Replay (α : Type) [Zero α] [LT α] := EStateM PyError (ReplayMarketDataService α)

namespace ReplayMarketDataService

/-- `payload["symbol"]`. -/
def requiredSymbol (payload : List (String × PyVal α)) : Except PyError String :=
  match payload.lookup "symbol" with
  | some symbol => .ok symbol.toStr
  | none => .error ⟨.keyError, "'symbol'"⟩

/-- `payload.get("exchange", "SIMULATED")`. -/
def exchangeOf (payload : List (String × PyVal α)) : String :=
  ((payload.lookup "exchange").getD (.str "SIMULATED")).toStr

/-- `ReplayMarketDataService._handle_tick`. -/
def handleTick (now : DateTime) (record : ReplayRecord α) : Replay α Unit := do
  let symbol ← Raising.lift (requiredSymbol record.payload)
  let tick ← Raising.lift (MarketDataNormalizer.normalizeTicker lib now (exchangeOf record.payload)
    symbol (.dict record.payload))
  let tick := { tick with timestamp := record.timestamp }
  modify fun s =>
    { s with
      marketStateStore := s.marketStateStore.updateTick tick
      simulatedExchange := s.simulatedExchange.updateTick tick
      published := s.published ++ [("MARKET_TICK", tick.toDict lib.iso)]
      ticksPublished := s.ticksPublished + 1 }

/-- `ReplayMarketDataService._handle_orderbook`. -/
def handleOrderbook (now : DateTime) (record : ReplayRecord α) : Replay α Unit := do
  let symbol ← Raising.lift (requiredSymbol record.payload)
  let depth ← Raising.lift (((record.payload.lookup "depth").getD (.int 20)).toInt lib)
  let orderbook ← Raising.lift (MarketDataNormalizer.normalizeOrderbook lib now
    (exchangeOf record.payload) symbol (.dict record.payload) depth)
  let orderbook := { orderbook with timestamp := record.timestamp }
  modify fun s =>
    { s with
      marketStateStore := s.marketStateStore.updateOrderbook orderbook
      simulatedExchange := s.simulatedExchange.updateOrderbook orderbook
      published := s.published ++ [("ORDERBOOK_SNAPSHOT", orderbook.toDict lib.iso)]
      orderbooksPublished := s.orderbooksPublished + 1 }

/-- The `try` statement for one record; `now` is the wall clock. -/
def processRecord (now : DateTime) (record : ReplayRecord α) : Replay α Unit :=
  tryCatch
    (do
      let s ← get
      let clock ← Raising.lift (s.replayClock.advanceTo record.timestamp)
      modify fun s => { s with replayClock := clock }
      if record.eventType = "MARKET_TICK" then handleTick lib now record
      else if record.eventType = "ORDERBOOK_SNAPSHOT" then handleOrderbook lib now record
      else pure ()
      modify fun s => { s with recordsProcessed := s.recordsProcessed + 1 })
    fun _ => modify fun s => { s with failedRecords := s.failedRecords + 1 }

/-- The flag is taken down. -/
def clearRunning : Replay α Unit := modify fun s => { s with running := false }

/-- `ReplayMarketDataService.run`, on the lines of the file with their numbers.  While a record is
being processed, up to the end of its `asyncio.sleep(0)`, somebody else may call `stop()`. -/
def run (now : DateTime) (stopped : ℕ → Bool) : List (String × ℕ) → Replay α Unit
  | [] => clearRunning
  | (line, number) :: rest => do
      let yielded ← Raising.lift (ReplaySource.parseLine lib line number)
      match yielded with
      | none => run now stopped rest
      | some record => do
          let s ← get
          if s.running then do
            processRecord lib now record
            modify fun s => { s with running := s.running && !stopped number }
            run now stopped rest
          else clearRunning

end ReplayMarketDataService

end Definitions

/-! ## What becomes of the flag -/

namespace ReplayMarketDataService

open Raising

variable {α : Type} [Add α] [Sub α] [Mul α] [Div α] [Zero α] [LT α] [LE α] [DecidableLT α]
  [DecidableLE α] [DecidableEq α] [PyFloat α] (lib : StdLib α) (now : DateTime)
  (stopped : ℕ → Bool)

/-- Processing a record never raises and leaves the flag alone. -/
lemma processRecord_running (record : ReplayRecord α) (s : ReplayMarketDataService α) :
    Leads (processRecord lib now record) s (fun _ s' => s'.running = s.running)
      (fun _ _ => False) := by
  simp only [processRecord, handleTick, handleOrderbook, leads_tryCatch, leads_bind, leads_get,
    leads_lift, leads_modify, leads_ite]
  simp

/-- The generator raises at this line. -/
def Malformed (line : String × ℕ) : Prop := ∃ e, ReplaySource.parseLine lib line.1 line.2 = .error e

/-- The line is a record, and `stop()` is called while it is processed. -/
def StopsAt (line : String × ℕ) : Prop :=
  (∃ record, ReplaySource.parseLine lib line.1 line.2 = .ok (some record)) ∧ stopped line.2 = true

/-- In front of every line that raises, the service is stopped. -/
def StoppedInTime (lines : List (String × ℕ)) : Prop :=
  ∀ before line after, lines = before ++ line :: after → Malformed lib line →
    ∃ earlier ∈ before, StopsAt lib stopped earlier

section Lines

variable {lib stopped} {line : String × ℕ} {rest : List (String × ℕ)}

omit [Add α] [Sub α] [Mul α] [Zero α] [LE α] [DecidableLE α] [DecidableEq α]

lemma stoppedInTime_nil : StoppedInTime lib stopped [] := by
  intro before line after hsplit
  cases before <;> cases hsplit

lemma stoppedInTime_malformed (h : Malformed lib line) :
    ¬ StoppedInTime lib stopped (line :: rest) := by
  intro hstops
  obtain ⟨earlier, hmem, -⟩ := hstops [] line rest rfl h
  exact List.not_mem_nil hmem

/-- A line that does not raise is passed, or the service is stopped at it. -/
lemma stoppedInTime_cons (h : ¬ Malformed lib line) : StoppedInTime lib stopped (line :: rest)
    ↔ StopsAt lib stopped line ∨ StoppedInTime lib stopped rest := by
  constructor
  · intro hstops
    by_cases hline : StopsAt lib stopped line
    · exact Or.inl hline
    · refine Or.inr fun before bad after hsplit hbad => ?_
      obtain ⟨earlier, hmem, hearlier⟩ := hstops (line :: before) bad after (by simp [hsplit]) hbad
      rcases List.mem_cons.mp hmem with rfl | hmem
      · exact absurd hearlier hline
      · exact ⟨earlier, hmem, hearlier⟩
  · rintro hstops before bad after hsplit hbad
    cases before with
    | nil =>
        rw [List.nil_append, List.cons.injEq] at hsplit
        exact absurd (hsplit.1 ▸ hbad) h
    | cons first before =>
        rw [List.cons_append, List.cons.injEq] at hsplit
        obtain ⟨rfl, hsplit⟩ := hsplit
        rcases hstops with hline | hstops
        · exact ⟨line, List.mem_cons_self, hline⟩
        · obtain ⟨earlier, hmem, hearlier⟩ := hstops before bad after hsplit hbad
          exact ⟨earlier, List.mem_cons_of_mem _ hmem, hearlier⟩

end Lines

/-- `run`, returning or raising, leaves the flag down exactly then. -/
lemma run_running (lines : List (String × ℕ)) : ∀ s : ReplayMarketDataService α,
    Leads (run lib now stopped lines) s
      (fun _ s' => s'.running = false ↔ s.running = false ∨ StoppedInTime lib stopped lines)
      (fun _ s' => s'.running = false ↔ s.running = false ∨ StoppedInTime lib stopped lines) := by
  induction lines with
  | nil =>
      intro s
      rw [run, clearRunning, leads_modify]
      exact iff_of_true rfl (Or.inr stoppedInTime_nil)
  | cons line rest ih =>
      intro s
      obtain ⟨text, number⟩ := line
      rw [run, leads_bind, leads_lift]
      refine ⟨?_, ?_⟩
      · intro yielded hyielded
        have hsound : ¬ Malformed lib (text, number) := by
          rintro ⟨e, he⟩
          cases hyielded.symm.trans he
        cases yielded with
        | none =>
            have hblank : ¬ StopsAt lib stopped (text, number) := by
              rintro ⟨⟨record, hrecord⟩, -⟩
              cases hyielded.symm.trans hrecord
            rw [stoppedInTime_cons hsound, or_iff_right hblank]
            exact ih s
        | some record =>
            simp only [leads_bind, leads_get, leads_ite, clearRunning, leads_modify]
            refine ⟨?_, ?_⟩
            · intro hrunning
              refine (processRecord_running lib now record s).mono ?_ (fun _ _ h => h.elim)
              intro _ s' hs'
              have hflag : (s'.running && !stopped number) = false
                  ↔ StopsAt lib stopped (text, number) := by
                rw [hs', hrunning, Bool.true_and, Bool.not_eq_false']
                exact ⟨fun hstop => ⟨⟨record, hyielded⟩, hstop⟩, fun h => h.2⟩
              rw [stoppedInTime_cons hsound, ← hflag, or_iff_right (by simp [hrunning])]
              exact ih _
            · intro hstopped
              exact iff_of_true trivial (Or.inl (Bool.eq_false_iff.mpr hstopped))
      · intro e he
        have hno : ¬ StoppedInTime lib stopped ((text, number) :: rest) :=
          stoppedInTime_malformed ⟨e, he⟩
        exact ⟨Or.inl, fun h => h.resolve_right hno⟩

/-- **When the backtest's flag goes down.**  However `run` ends, the flag is down exactly if the
service had been stopped before, or is stopped in front of every line that raises. -/
theorem flag_cleared_iff (lines : List String) (service : ReplayMarketDataService α) :
    (final ((run lib now stopped (lines.zipIdx 1)).run service)).running = false
      ↔ service.running = false ∨ StoppedInTime lib stopped (lines.zipIdx 1) := by
  have h := run_running lib now stopped (lines.zipIdx 1) service
  cases hrun : (run lib now stopped (lines.zipIdx 1)).run service with
  | ok _ s => exact h.ok hrun
  | error e s => exact h.error hrun

/-- A library that can read one text, the JSON `null`. -/
def demoLib : StdLib ℚ where
  iso := ⟨fun d => toString d.micros, fun _ => none⟩
  loads text :=
    if text = "null" then .ok .none else .error ⟨.valueError, "Expecting value: line 1 column 1"⟩
  fromTimestamp seconds := .ok ⟨⌊seconds * 1000000⌋⟩
  fromIsoformat _ := .error ⟨.valueError, "Invalid isoformat string"⟩
  intOfFloat x := .ok ⌊x⌋

/-- A prepared service. -/
def demoService : ReplayMarketDataService ℚ where
  running := true
  replayClock := ⟨none, none⟩
  marketStateStore := .init
  simulatedExchange := .init SimulatedExchange.demoFee SimulatedExchange.demoSlippage
  published := []
  recordsProcessed := 0
  ticksPublished := 0
  orderbooksPublished := 0
  failedRecords := 0

/-- A line that is not JSON ends `run` with the flag up. -/
theorem flag_left_up :
    (final ((run demoLib ⟨0⟩ (fun _ => false) (["oops"].zipIdx 1)).run demoService)).running
      = true := by decide +kernel

end ReplayMarketDataService

end Aegis
