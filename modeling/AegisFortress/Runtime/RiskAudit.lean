import AegisFortress.Core.DatabaseManager
import AegisFortress.Lib.Fifo
import AegisFortress.Runtime.ServiceSteps

/-!
# The audit trail of the risk service

`microservices/risk_event_logger_service.py` next to the services that trade: every risk event that comes off
the bus becomes a line of the log file and a row of the database.  Writing the line may break off anywhere, the
database may be locked; the bus logs what the service raises and goes on.

`risk_audit` follows the breaches from the execution reports to the log file and the database.
-/

namespace Aegis

open EventLoop Machine RuntimeContainer

section Definitions

variable {α : Type} [Add α] [Sub α] [Mul α] [Div α] [Neg α] [Zero α] [One α] [LT α] [LE α]
  [DecidableLT α] [DecidableLE α] [DecidableEq α] [PyFloat α]

structure RiskEventLoggerService (α : Type) where
  logFile : List Char
  database : Option (DatabaseManager α)
  eventsWritten : ℕ

/-- What the service meets when it logs an event: the time the event was made, how much of the line is
written before something raises (`none` is all of it), and what the database connection raises. -/
structure LoggerAnswers where
  timestamp : DateTime
  breaksOff : Option ℕ
  fault : Option PyError

namespace RiskEventLoggerService

variable (iso : IsoFormat) (dumps : PyVal α → String) (logger : RiskEventLoggerService α)

/-- A new service, a new log file, a new database. -/
def new : RiskEventLoggerService α := ⟨[], some .new, 0⟩

/-- The payload of `_on_risk_breach`. -/
def payload (timestamp : DateTime) (event : RiskEvent α) : List (String × PyVal α) :=
  [("event_type", .str "RISK_BREACH"), ("correlation_id", .ofOption event.correlationId),
    ("timestamp", .str (iso.isoformat timestamp)), ("severity", .str event.severity), ("code", .str event.code),
    ("message", .str event.message), ("metadata", event.metadata)]

/-- The line of the log file. -/
def line (timestamp : DateTime) (event : RiskEvent α) : List Char :=
  (dumps (.dict (payload iso timestamp event)) ++ "\n").toList

/-- `_on_risk_breach(event)`; whatever raises ends it. -/
def onRiskBreach (answers : LoggerAnswers) (event : RiskEvent α) : RiskEventLoggerService α :=
  let text := line iso dumps answers.timestamp event
  match answers.breaksOff with
  | some n => { logger with logFile := logger.logFile ++ text.take n }
  | none =>
      let logger := { logger with logFile := logger.logFile ++ text }
      match logger.database with
      | none => { logger with eventsWritten := logger.eventsWritten + 1 }
      | some database =>
          match database.record dumps .riskEvents (.dict (payload iso answers.timestamp event)) answers.fault with
          | .error _ => logger
          | .ok database =>
              { logger with database := some database, eventsWritten := logger.eventsWritten + 1 }

/-- The bus calls the service for risk events. -/
def onEvent (answers : LoggerAnswers) : Event α → RiskEventLoggerService α
  | .riskBreach event => logger.onRiskBreach iso dumps answers event
  | _ => logger

end RiskEventLoggerService

/-- What the services and the logger share. -/
structure AuditedState (α : Type) [Zero α] [LE α] where
  services : RuntimeState α
  logger : RiskEventLoggerService α

abbrev AuditedRuntime (α : Type) [Zero α] [LE α] := EventLoop (AuditedState α) (Event α)

abbrev AuditedInput (α : Type) [Zero α] := EventLoop.Input (Event α) (Turn α × LoggerAnswers) Command

variable (container : RuntimeContainer α) (dumps : PyVal α → String)

/-- The callbacks, the logger's among them. -/
def RuntimeContainer.handleLogged (answers : Turn α × LoggerAnswers) (event : Event α) (state : AuditedState α) :
    AuditedState α × List (Event α) :=
  let (services, published) := container.handle answers.1 state.services event
  (⟨services, state.logger.onEvent container.iso dumps answers.2 event⟩, published)

/-- An operator does nothing to the logger. -/
def Command.applyLogged (command : Command) (state : AuditedState α) : AuditedState α :=
  { state with services := command.apply state.services }

/-- The event bus with its services and the logger takes one step. -/
def RuntimeContainer.stepLogged : AuditedRuntime α → AuditedInput α → Option (AuditedRuntime α) :=
  EventLoop.step (container.handleLogged dumps) Command.applyLogged

/-- The start, with an empty log. -/
def startedLogged (switch : KillSwitch ℚ) (saved : PyVal ℚ) : AuditedRuntime ℚ :=
  ⟨⟨(started switch saved).state, .new⟩, []⟩

/-! ## The breaches -/

/-- What a risk event says of a breach. -/
structure Notice where
  correlationId : Option String
  severity : String
  code : String
  message : String
  deriving DecidableEq

/-- What is to be said of a breach in an execution report. -/
def noticeOf (event : ExecutionEvent α) (breach : List (String × PyVal α)) : Notice :=
  ⟨event.correlationId, breachSeverity breach, breachText breach "code" "UNKNOWN_RISK_BREACH",
    breachText breach "message" "Risk breach detected"⟩

/-- What is to be said when the event is handled: one notice for each breach of an execution report. -/
def Event.notices : Event α → List Notice
  | .executionReport event => (breachesOf event).map (noticeOf event)
  | _ => []

def RiskEvent.notice (event : RiskEvent α) : Notice :=
  ⟨event.correlationId, event.severity, event.code, event.message⟩

def Event.risk? : Event α → Option (RiskEvent α)
  | .riskBreach event => some event
  | _ => none

/-- No risk event comes from outside the services. -/
def FromServices : AuditedInput α → Prop
  | .publish event => event.risk? = none
  | _ => True

/-- The operator does not reset the switch. -/
def NoReset : AuditedInput α → Prop
  | .act _ => False
  | _ => True

/-- The risk events logged in a run, each with what the logger met. -/
def logged (s₀ : AuditedRuntime α) (inputs : List (AuditedInput α)) : List (LoggerAnswers × RiskEvent α) :=
  (outputs (container.stepLogged dumps) served s₀ inputs).filterMap fun e => e.2.risk?.map (Prod.mk e.1.2)

/-- The events handled in a run. -/
def handledIn (s₀ : AuditedRuntime α) (inputs : List (AuditedInput α)) : List (Event α) :=
  (outputs (container.stepLogged dumps) served s₀ inputs).map Prod.snd

end Definitions

/-! ## What is published -/

section Published

variable (container : RuntimeContainer ℚ) (event : ExecutionEvent ℚ)

/-- The loop over the breaches publishes one notice for each. -/
lemma foldl_notices (breaches : List (List (String × PyVal ℚ))) (r : KillSwitch ℚ × List (Event ℚ)) :
    (breaches.foldl (onBreach event) r).2.filterMap (fun e => e.risk?.map RiskEvent.notice)
      = r.2.filterMap (fun e => e.risk?.map RiskEvent.notice) ++ breaches.map (noticeOf event) := by
  induction breaches generalizing r with
  | nil => simp
  | cons breach rest ih =>
      rw [List.foldl_cons, ih, onBreach, List.filterMap_append, List.map_cons, List.append_assoc]
      rfl

lemma handle_notices (turn : Turn ℚ) (event : Event ℚ) (state : RuntimeState ℚ) :
    (container.handle turn state event).2.filterMap (fun e => e.risk?.map RiskEvent.notice)
      = event.notices := by
  cases event with
  | orderbookSnapshot orderbook =>
      rw [handle, onOrderbookSnapshot]
      split_ifs <;> simp [Event.notices, Event.risk?]
  | orderRequest event =>
      rw [handle, onOrderRequest]
      split <;> simp [Event.notices, Event.risk?]
  | executionReport event => exact foldl_notices event (breachesOf event) (state.killSwitch, [])
  | riskBreach event => rfl
  | other eventType => rfl

end Published

/-! ## Runs -/

section Runs

variable {container : RuntimeContainer ℚ} {dumps : PyVal ℚ → String} {s₀ s : AuditedRuntime ℚ}
  {inputs : List (AuditedInput ℚ)}

/-- A step publishes the notices of the execution report it handles. -/
lemma caused (hservices : ∀ input ∈ inputs, FromServices input) :
    Along (container.stepLogged dumps) s₀
      (Caused (container.handleLogged dumps) (fun e => e.risk?.map RiskEvent.notice) Event.notices) inputs := by
  rintro past input rest s rfl -
  have hinput := hservices input (List.mem_append_right _ List.mem_cons_self)
  cases input with
  | publish event =>
      have hrisk : event.risk? = none := hinput
      simp [Caused, emitted, served, hrisk]
  | dispatch answers =>
      rcases s with ⟨state, queue⟩
      cases queue with
      | nil => simp [Caused, emitted, served]
      | cons event rest =>
          simp only [Caused, emitted, served, List.head?_cons, Option.map_some, Option.toList_some,
            List.flatMap_cons, List.flatMap_nil, List.append_nil]
          exact handle_notices container answers.1 event state.services
  | act command => simp [Caused, emitted, served]

/-- The switch is moved by the reports with a critical breach, and nothing else, short of a reset. -/
lemma trips_governs_logged : Governs (container.handleLogged dumps) Command.applyLogged
    (fun state => state.services.killSwitch.triggered = true) Trips (fun _ => False) :=
  ⟨fun answers event state => container.handle_triggered answers.1 event state.services,
    fun _ h => h.elim⟩

/-- A notice says CRITICAL only because of a report that trips the switch. -/
lemma trips_of_notice {event : Event ℚ} {notice : Notice} (h : notice ∈ event.notices)
    (hcritical : notice.severity = "CRITICAL") : Trips event := by
  cases event with
  | executionReport event =>
      obtain ⟨breach, hbreach, rfl⟩ := List.mem_map.mp h
      exact ⟨breach, hbreach, hcritical⟩
  | _ => cases h

/-- The logger is what it makes of the risk events it has handled. -/
lemma logger_eq (hrun : run (container.stepLogged dumps) s₀ inputs = some s) :
    s.state.logger = (logged container dumps s₀ inputs).foldl
      (fun logger e => logger.onRiskBreach container.iso dumps e.1 e.2) s₀.state.logger := by
  have hstep : ∀ (s : AuditedRuntime ℚ) input s', container.stepLogged dumps s input = some s' →
      s'.state.logger = (served s input).foldl (fun logger e =>
        logger.onEvent container.iso dumps e.1.2 e.2) s.state.logger := by
    intro s input s' hs
    rcases step_cases hs with ⟨event, rfl, rfl⟩ | ⟨answers, event, rest, rfl, hqueue, rfl⟩
      | ⟨command, rfl, rfl⟩
    · rfl
    · simp only [served, hqueue]
      rfl
    · rfl
  rw [outputs_foldl served _ (fun s : AuditedRuntime ℚ => s.state.logger) hstep hrun, logged,
    List.foldl_filterMap]
  congr 1
  funext logger e
  rcases e with ⟨answers, event⟩
  cases event <;> rfl

end Runs

/-! ## What the logger makes of them -/

namespace RiskEventLoggerService

variable (iso : IsoFormat) (dumps : PyVal ℚ → String)

/-- What gets into the log file. -/
def written (e : LoggerAnswers × RiskEvent ℚ) : List Char :=
  let text := line iso dumps e.1.timestamp e.2
  e.1.breaksOff.elim text fun n => text.take n

/-- Nothing raises: the event is persisted. -/
def Persisted (e : LoggerAnswers × RiskEvent ℚ) : Prop := e.1.breaksOff = none ∧ e.1.fault = none

instance (e : LoggerAnswers × RiskEvent ℚ) : Decidable (Persisted e) :=
  inferInstanceAs (Decidable (_ ∧ _))

/-- The call the database gets. -/
def call (e : LoggerAnswers × RiskEvent ℚ) : Option (DatabaseManager.Call ℚ) :=
  if e.1.breaksOff = none then
    some ⟨.riskEvents, .dict (payload iso e.1.timestamp e.2), e.1.fault⟩
  else none

variable {iso} {dumps}

/-- **The table takes every risk event.** -/
lemma takes_payload (timestamp : DateTime) (event : RiskEvent ℚ) :
    Table.riskEvents.Takes (payload iso timestamp event) := by
  rcases event with ⟨correlationId, severity, code, message, metadata⟩
  simp only [Table.Takes, Table.columns, List.forall_mem_cons, List.not_mem_nil, false_imp_iff, implies_true,
    and_true]
  cases correlationId <;>
    simp [SchemaColumn.get, SchemaColumn.getOr, payload, PyVal.get, PyVal.ofOption, Dict.lookup_cons, bindable,
      isNull]

/-- A connection that works is enough. -/
lemma record_payload (iso : IsoFormat) (dumps : PyVal ℚ → String) (database : DatabaseManager ℚ)
    (timestamp : DateTime) (event : RiskEvent ℚ) :
    ∃ database', database.record dumps .riskEvents (.dict (payload iso timestamp event)) none = .ok database' :=
  ⟨_, DatabaseManager.insert_ok_iff.mpr ⟨takes_payload timestamp event, rfl⟩⟩

lemma letIn_call (e : LoggerAnswers × RiskEvent ℚ) :
    (call iso e).bind (DatabaseManager.Call.letIn .riskEvents)
      = if Persisted e then some (payload iso e.1.timestamp e.2) else none := by
  rcases e with ⟨⟨timestamp, breaksOff, fault⟩, event⟩
  cases breaksOff <;> cases fault <;>
    simp [call, Persisted, DatabaseManager.Call.letIn, takes_payload timestamp event]

/-- **The logger after some risk events**, each of which met what it met. -/
theorem foldl_onRiskBreach (events : List (LoggerAnswers × RiskEvent ℚ)) :
    events.foldl (fun logger e => logger.onRiskBreach iso dumps e.1 e.2) new
      = ⟨events.flatMap (written iso dumps),
          some (DatabaseManager.afterCalls dumps (events.filterMap (call iso))),
          (events.filter (Persisted ·)).length⟩ := by
  induction events using List.reverseRecOn with
  | nil => rfl
  | append_singleton events e ih =>
      rcases e with ⟨⟨timestamp, breaksOff, fault⟩, event⟩
      rw [List.foldl_append, ih]
      cases breaksOff with
      | some n => simp [onRiskBreach, written, call, Persisted]
      | none =>
          have hlast : DatabaseManager.afterCalls dumps
                ((events ++ [((⟨timestamp, none, fault⟩ : LoggerAnswers), event)]).filterMap (call iso))
              = (DatabaseManager.afterCalls dumps (events.filterMap (call iso))).called dumps
                ⟨.riskEvents, .dict (payload iso timestamp event), fault⟩ := by
            simp [call, DatabaseManager.afterCalls]
          rw [hlast]
          cases fault with
          | some error =>
              have hraises : ∀ database : DatabaseManager ℚ, database.record dumps .riskEvents
                  (.dict (payload iso timestamp event)) (some error) = .error error := fun _ => rfl
              simp [onRiskBreach, written, Persisted, DatabaseManager.called, hraises]
          | none =>
              obtain ⟨database', hrecord⟩ := record_payload iso dumps
                (DatabaseManager.afterCalls dumps (events.filterMap (call iso))) timestamp event
              simp [onRiskBreach, written, Persisted, DatabaseManager.called, hrecord]

/-- **What the database answers** when it is asked for the last risk events. -/
theorem fetchRecent_logged {loads : String → Except PyError (PyVal ℚ)}
    (events : List (LoggerAnswers × RiskEvent ℚ))
    (hjson : ∀ e ∈ events, loads (dumps (.dict (payload iso e.1.timestamp e.2)))
      = .ok (PyVal.dict (payload iso e.1.timestamp e.2)).stored)
    {limit : ℤ} (hlimit : 0 < limit) :
    (DatabaseManager.afterCalls dumps (events.filterMap (call iso))).fetchRecent loads .riskEvents limit
      = .ok (((events.filter (Persisted ·)).reverse.take limit.toNat).map
          fun e => (PyVal.dict (payload iso e.1.timestamp e.2)).stored) := by
  have hin : (events.filterMap (call iso)).filterMap (DatabaseManager.Call.letIn .riskEvents)
      = (events.filter (Persisted ·)).map fun e => payload iso e.1.timestamp e.2 := by
    rw [List.filterMap_filterMap]
    clear hjson
    induction events with
    | nil => rfl
    | cons e rest ih =>
        rw [List.filterMap_cons, letIn_call, ih]
        by_cases h : Persisted e <;> simp [h]
  have hread : ∀ stored ∈ (events.filterMap (call iso)).filterMap (DatabaseManager.Call.letIn .riskEvents),
      loads (dumps (.dict stored)) = .ok (PyVal.dict stored).stored := by
    rw [hin, List.forall_mem_map]
    intro e he
    exact hjson e (List.mem_of_mem_filter he)
  rw [DatabaseManager.fetchRecent_afterCalls (by decide) _ hread hlimit, hin, ← List.map_reverse,
    ← List.map_take, List.map_map]
  rfl

end RiskEventLoggerService

namespace RuntimeContainer

open RiskEventLoggerService

/-- **The audit trail.**  At any moment the risk events logged so far, followed by those still on the bus, say
of every breach in the execution reports handled so far what is to be said of it, once and in order.  The log
file has a line for each logged event, up to where the writing broke off; the database answers with those for
which nothing raised, the last one first, and they are the ones that are counted.  While nobody resets the
switch, it has tripped before a CRITICAL event is on the bus. -/
theorem risk_audit (container : RuntimeContainer ℚ) (dumps : PyVal ℚ → String)
    (loads : String → Except PyError (PyVal ℚ)) (switch : KillSwitch ℚ) (saved : PyVal ℚ)
    (inputs : List (AuditedInput ℚ))
    (hjson : ∀ e ∈ logged container dumps (startedLogged switch saved) inputs,
      loads (dumps (.dict (payload container.iso e.1.timestamp e.2)))
        = .ok (PyVal.dict (payload container.iso e.1.timestamp e.2)).stored)
    (hservices : ∀ input ∈ inputs, FromServices input) {s : AuditedRuntime ℚ}
    (hrun : run (container.stepLogged dumps) (startedLogged switch saved) inputs = some s) :
    let events := logged container dumps (startedLogged switch saved) inputs
    let waiting := s.queue.filterMap Event.risk?
    let persisted := events.filter (Persisted ·)
    events.map (fun e => e.2.notice) ++ waiting.map RiskEvent.notice
        = (handledIn container dumps (startedLogged switch saved) inputs).flatMap Event.notices
      ∧ s.state.logger.logFile = events.flatMap (written container.iso dumps)
      ∧ s.state.logger.eventsWritten = persisted.length
      ∧ (∀ limit : ℤ, 0 < limit →
          s.state.logger.database.map (fun database => database.fetchRecent loads .riskEvents limit)
            = some (.ok ((persisted.reverse.take limit.toNat).map
                fun e => (PyVal.dict (payload container.iso e.1.timestamp e.2)).stored)))
      ∧ ((∀ input ∈ inputs, NoReset input) →
          (∃ event ∈ events.map Prod.snd ++ waiting, event.severity = "CRITICAL") →
          s.state.services.killSwitch.triggered = true) := by
  intro events waiting persisted
  have hlogger : s.state.logger = ⟨events.flatMap (written container.iso dumps),
      some (DatabaseManager.afterCalls dumps (events.filterMap (call container.iso))), persisted.length⟩ :=
    (logger_eq hrun).trans (foldl_onRiskBreach events)
  have hnotices : events.map (fun e => e.2.notice) ++ waiting.map RiskEvent.notice
      = (handledIn container dumps (startedLogged switch saved) inputs).flatMap Event.notices := by
    have hempty : (startedLogged switch saved).queue.filterMap (fun e => e.risk?.map RiskEvent.notice) = [] := rfl
    have h := effects_eq_causes hempty (caused hservices) hrun
    simp only [events, waiting, logged, handledIn, List.map_filterMap, List.flatMap_map, Option.map_map] at h ⊢
    exact h
  refine ⟨hnotices, ?_, ?_, ?_, ?_⟩
  · rw [hlogger]
  · rw [hlogger]
  · intro limit hlimit
    rw [hlogger, Option.map_some, fetchRecent_logged events hjson hlimit]
  · rintro hquiet ⟨event, hevent, hcritical⟩
    -- the event says what is to be said of a breach in a report that has been handled
    have hmem : event.notice ∈ (handledIn container dumps (startedLogged switch saved) inputs).flatMap
        Event.notices := by
      rw [← hnotices]
      simpa using List.mem_map_of_mem (f := RiskEvent.notice) hevent
    obtain ⟨report, hreport, hnotice⟩ := List.mem_flatMap.mp hmem
    obtain ⟨served, hserved, rfl⟩ := List.mem_map.mp hreport
    have hquiet : ∀ input ∈ inputs, QuietInput (fun _ : Command => False) input := by
      intro input hinput
      have h := hquiet input hinput
      cases input <;> exact h
    exact (flag_iff_served trips_governs_logged hquiet hrun).mpr
      (Or.inr ⟨served, hserved, trips_of_notice hnotice hcritical⟩)

/-! ## One critical breach -/

def demoMessage : String := "Gross exposure 1100.00000000 exceeds limit 1000.00000000"

/-- A report of a fill after which the exposure is too high. -/
def demoReport : ExecutionEvent ℚ where
  correlationId := some "c-1"
  report := .dict [("symbol", .str "BTC/USDT")]
  fillResult := [("breaches", .list [.dict [("code", .str "GROSS_EXPOSURE_LIMIT"),
    ("message", .str demoMessage), ("severity", .str "CRITICAL")]])]

/-- The risk event it leads to. -/
def demoRisk : RiskEvent ℚ where
  correlationId := some "c-1"
  severity := "CRITICAL"
  code := "GROSS_EXPOSURE_LIMIT"
  message := demoMessage
  metadata := .dict [("execution_report", demoReport.report),
    ("breach", .dict [("code", .str "GROSS_EXPOSURE_LIMIT"), ("message", .str demoMessage),
      ("severity", .str "CRITICAL")]),
    ("kill_switch", (demoSwitch.trigger demoMessage).status)]

/-- Nothing raises. -/
def demoLogger : LoggerAnswers := ⟨⟨0⟩, none, none⟩

/-- The report comes onto the bus, the risk service reads it, the logger logs what the risk service says. -/
def demoInputs : List (AuditedInput ℚ) :=
  let turn := (demoTurn .buy 100 (.ofList []), demoLogger)
  [.publish (.executionReport demoReport), .dispatch turn, .dispatch turn]

/-- The text of the payload. -/
def demoText : String :=
  "\x7b\"code\": \"GROSS_EXPOSURE_LIMIT\", \"correlation_id\": \"c-1\", \"event_type\": \"RISK_BREACH\", "
    ++ "\"message\": \"" ++ demoMessage ++ "\", \"metadata\": \x7b\"breach\": \x7b\"code\": "
    ++ "\"GROSS_EXPOSURE_LIMIT\", \"message\": \"" ++ demoMessage ++ "\", \"severity\": \"CRITICAL\"\x7d, "
    ++ "\"execution_report\": \x7b\"symbol\": \"BTC/USDT\"\x7d, \"kill_switch\": \x7b\"active\": false, "
    ++ "\"daily_pnl\": 0.0, \"peak_balance\": null, \"reason\": \"" ++ demoMessage ++ "\", "
    ++ "\"triggered\": true\x7d\x7d, \"severity\": \"CRITICAL\", \"timestamp\": \"1970-01-01T00:00:00\"\x7d"

/-- `json.loads` of that text. -/
def demoLoads (text : String) : Except PyError (PyVal ℚ) :=
  if text = demoText then .ok (PyVal.dict (payload demoContainer.iso ⟨0⟩ demoRisk)).stored
  else .error ⟨.valueError, "Expecting value: line 1 column 1 (char 0)"⟩

/-- What one event that goes through leaves in the file. -/
lemma written_demo (iso : IsoFormat) (text : String) (risk : RiskEvent ℚ) :
    [(demoLogger, risk)].flatMap (written iso fun _ => text) = (text ++ "\n").toList := by
  simp [written, line, demoLogger]

theorem risk_audit_critical :
    ∃ s, run (demoContainer.stepLogged fun _ => demoText) (startedLogged demoSwitch .none) demoInputs = some s
      ∧ s.queue.length = 0 ∧ s.state.logger.logFile = (demoText ++ "\n").toList
      ∧ s.state.logger.eventsWritten = 1
      ∧ s.state.logger.database.map (fun database => database.fetchRecent demoLoads .riskEvents 100000)
        = some (.ok [(PyVal.dict (payload demoContainer.iso ⟨0⟩ demoRisk)).stored])
      ∧ s.state.services.killSwitch.triggered = true := by
  have hlogged : logged demoContainer (fun _ => demoText) (startedLogged demoSwitch .none) demoInputs
      = [(demoLogger, demoRisk)] := rfl
  have hservices : ∀ input ∈ demoInputs, FromServices input := by
    simp [demoInputs, FromServices, Event.risk?]
  have hqueue : (run (demoContainer.stepLogged fun _ => demoText) (startedLogged demoSwitch .none)
      demoInputs).map (fun s => s.queue.length) = some 0 := by decide +kernel
  obtain ⟨s, hrun, hempty⟩ := Option.map_eq_some_iff.mp hqueue
  obtain ⟨-, hfile, hcount, hfetch, htripped⟩ := risk_audit demoContainer (fun _ => demoText) demoLoads
    demoSwitch .none demoInputs (by rw [hlogged]; simp [demoLoads, demoLogger]) hservices hrun
  rw [hlogged] at hfile hcount hfetch htripped
  refine ⟨s, hrun, hempty, hfile.trans (written_demo _ _ _), hcount, hfetch 100000 (by decide), htripped ?_ ?_⟩
  · simp [demoInputs, NoReset]
  · simp [demoRisk]

end RuntimeContainer

end Aegis
