import AegisFortress.Lib.Run

/-!
# Starting and stopping the services

`microservices/orchestrator.py` and `microservices/base_service.py`.  A service that has been
prepared once is never prepared again: `stop` takes its `running` flag down and leaves `_prepared`
up, and `prepare` returns at once when `_prepared` is up.  The second start of an orchestrator
leaves every service stopped.

`restarts_iff` says which sequences of calls show that: those in which a start comes after a stop
that comes after a start.  Calls complete; what the hooks `on_start` and `on_stop` do besides
returning does not reach the flags.
-/

namespace Aegis

/-! ## The services -/

/-- The hooks a service can override. -/
inductive Hook
  | onStart
  | onStop
  deriving DecidableEq, Repr

/-- `BaseService`, with the hooks it has called, oldest first. -/
structure BaseService where
  name : String
  running : Bool
  prepared : Bool
  hooks : List Hook
  deriving DecidableEq

namespace BaseService

/-- `BaseService(name)`. -/
def init (name : String) : BaseService := ⟨name, false, false, []⟩

/-- `prepare()`. -/
def prepare (service : BaseService) : BaseService :=
  if service.prepared then service
  else { service with running := true, prepared := true, hooks := service.hooks ++ [.onStart] }

/-- `stop()`. -/
def stop (service : BaseService) : BaseService :=
  if ¬ service.running then service
  else { service with running := false, hooks := service.hooks ++ [.onStop] }

/-- How often `on_start` has been invoked. -/
def onStarts (service : BaseService) : ℕ := service.hooks.count .onStart

end BaseService

/-- `Orchestrator`; the bus and the tasks it hands out are modelled with the event loop. -/
structure Orchestrator where
  services : List BaseService
  running : Bool

/-- The calls of an orchestrator. -/
inductive OrchestratorCall
  | start
  | stop
  deriving DecidableEq, Repr

namespace Orchestrator

/-- A new orchestrator of new services. -/
def init (names : List String) : Orchestrator := ⟨names.map BaseService.init, false⟩

/-- `start()`. -/
def start (orchestrator : Orchestrator) : Orchestrator :=
  if orchestrator.running then orchestrator
  else { running := true, services := orchestrator.services.map BaseService.prepare }

/-- `stop()`. -/
def stop (orchestrator : Orchestrator) : Orchestrator :=
  if ¬ orchestrator.running then orchestrator
  else { running := false, services := orchestrator.services.map BaseService.stop }

/-- A call. -/
def call (orchestrator : Orchestrator) : OrchestratorCall → Orchestrator
  | .start => orchestrator.start
  | .stop => orchestrator.stop

/-- What a sequence of calls makes of a new orchestrator. -/
def after (names : List String) (calls : List OrchestratorCall) : Orchestrator :=
  calls.foldl call (init names)

/-! ## What starting and stopping are for -/

/-- After a start every service runs, after a stop none does. -/
def Obeyed (orchestrator : Orchestrator) : OrchestratorCall → Prop
  | .start => ∀ service ∈ orchestrator.services, service.running = true
  | .stop => ∀ service ∈ orchestrator.services, service.running = false

/-- How many of the calls start what is stopped. -/
def startsFrom : Bool → List OrchestratorCall → ℕ
  | _, [] => 0
  | running, .start :: rest => (if running then 0 else 1) + startsFrom true rest
  | _, .stop :: rest => startsFrom false rest

/-- Every call of the sequence is obeyed, and no service has been set up more often than it was
started. -/
def Restarts (names : List String) (calls : List OrchestratorCall) : Prop :=
  ∀ past call rest, calls = past ++ call :: rest →
    (after names (past ++ [call])).Obeyed call
      ∧ ∀ service ∈ (after names (past ++ [call])).services,
        service.onStarts ≤ startsFrom false (past ++ [call])

/-! ## The phases of an orchestrator -/

/-- Never started, started for the first time, stopped, and started again with its services down. -/
inductive Phase
  | new
  | up
  | down
  | stuck
  deriving DecidableEq, Repr

namespace Phase

def next : Phase → OrchestratorCall → Phase
  | new, .start => up
  | new, .stop => new
  | up, .start => up
  | up, .stop => down
  | down, .start => stuck
  | down, .stop => down
  | stuck, .start => stuck
  | stuck, .stop => down

/-- The phase after a sequence of calls. -/
def after (calls : List OrchestratorCall) : Phase := calls.foldl next new

/-- A service in that phase. -/
def service (name : String) : Phase → BaseService
  | new => ⟨name, false, false, []⟩
  | up => ⟨name, true, true, [.onStart]⟩
  | down => ⟨name, false, true, [.onStart, .onStop]⟩
  | stuck => ⟨name, false, true, [.onStart, .onStop]⟩

/-- The flag of the orchestrator in that phase. -/
def flag : Phase → Bool
  | new => false
  | up => true
  | down => false
  | stuck => true

/-- The orchestrator in that phase. -/
def state (names : List String) (phase : Phase) : Orchestrator :=
  ⟨names.map phase.service, phase.flag⟩

end Phase

lemma after_snoc (names : List String) (calls : List OrchestratorCall) (c : OrchestratorCall) :
    after names (calls ++ [c]) = (after names calls).call c := by
  rw [after, List.foldl_append]
  rfl

lemma Phase.after_snoc (calls : List OrchestratorCall) (c : OrchestratorCall) :
    Phase.after (calls ++ [c]) = (Phase.after calls).next c := by
  rw [Phase.after, List.foldl_append]
  rfl

/-- A call takes the orchestrator from phase to phase. -/
lemma state_call (names : List String) (phase : Phase) (c : OrchestratorCall) :
    (phase.state names).call c = (phase.next c).state names := by
  cases phase <;> cases c <;>
    simp [call, start, stop, Phase.next, Phase.state, Phase.flag, Phase.service,
      BaseService.prepare, BaseService.stop]

/-- **The orchestrator is its phase.** -/
theorem after_eq (names : List String) (calls : List OrchestratorCall) :
    after names calls = (Phase.after calls).state names := by
  induction calls using List.reverseRecOn with
  | nil => rfl
  | append_singleton calls c ih => rw [after_snoc, ih, state_call, Phase.after_snoc]

/-! ## Which calls lead where -/

lemma sublist_snoc {τ : Type} (xs : List τ) {ys : List τ} {x y : τ} :
    (xs ++ [x]).Sublist (ys ++ [y]) ↔ (xs ++ [x]).Sublist ys ∨ x = y ∧ xs.Sublist ys := by
  rw [← List.reverse_sublist, List.reverse_append, List.reverse_append, List.reverse_singleton,
    List.reverse_singleton, List.singleton_append, List.singleton_append]
  constructor
  · intro h
    cases h with
    | cons _ h =>
        refine Or.inl (List.reverse_sublist.mp ?_)
        rw [List.reverse_append]
        exact h
    | cons_cons _ h => exact Or.inr ⟨rfl, List.reverse_sublist.mp h⟩
  · rintro (h | ⟨rfl, h⟩)
    · refine List.Sublist.cons y ?_
      have hrev := List.reverse_sublist.mpr h
      rw [List.reverse_append] at hrev
      exact hrev
    · exact (List.reverse_sublist.mpr h).cons_cons x

/-- A first start leaves the first phase for good. -/
lemma started_iff (calls : List OrchestratorCall) :
    [.start].Sublist calls ↔ Phase.after calls ≠ .new := by
  induction calls using List.reverseRecOn with
  | nil => simp [Phase.after]
  | append_singleton calls c ih =>
      have hsnoc : [OrchestratorCall.start].Sublist (calls ++ [c])
          ↔ [OrchestratorCall.start].Sublist calls ∨ .start = c ∧ [].Sublist calls :=
        sublist_snoc []
      rw [hsnoc, ih, Phase.after_snoc]
      cases c <;> cases Phase.after calls <;> simp [Phase.next]

/-- So does a stop after it. -/
lemma stopped_iff (calls : List OrchestratorCall) :
    [.start, .stop].Sublist calls ↔ Phase.after calls = .down ∨ Phase.after calls = .stuck := by
  induction calls using List.reverseRecOn with
  | nil => simp [Phase.after]
  | append_singleton calls c ih =>
      have hsnoc : [OrchestratorCall.start, .stop].Sublist (calls ++ [c])
          ↔ [OrchestratorCall.start, .stop].Sublist calls ∨ .stop = c ∧ [.start].Sublist calls :=
        sublist_snoc [OrchestratorCall.start]
      rw [hsnoc, ih, started_iff, Phase.after_snoc]
      cases c <;> cases Phase.after calls <;> simp [Phase.next]

/-- A service whose orchestrator was started has been set up once. -/
lemma onStarts_le (names : List String) (calls : List OrchestratorCall) :
    ∀ service ∈ (after names calls).services, service.onStarts ≤ startsFrom false calls := by
  have hstarts : ∀ running calls, [OrchestratorCall.start].Sublist calls →
      1 ≤ startsFrom running calls ∨ running = true := by
    intro running calls
    induction calls generalizing running with
    | nil => exact fun h => absurd h (by simp)
    | cons c rest ih =>
        intro h
        cases running with
        | true => exact Or.inr rfl
        | false =>
            cases c with
            | start => exact Or.inl (Nat.le_add_right 1 _)
            | stop =>
                refine ih false ?_
                cases h with
                | cons _ h => exact h
  intro service hservice
  rw [after_eq] at hservice
  obtain ⟨name, -, rfl⟩ := List.mem_map.mp hservice
  cases hphase : Phase.after calls with
  | new => exact Nat.zero_le _
  | up | down | stuck =>
      have hstarted : [OrchestratorCall.start].Sublist calls := by
        rw [started_iff, hphase]
        exact fun h => by cases h
      exact (hstarts false calls hstarted).resolve_right (by simp)

/-- After a call, the services are as they should be unless they are stuck. -/
lemma obeyed_iff (names : List String) (calls : List OrchestratorCall) (c : OrchestratorCall) :
    (after names (calls ++ [c])).Obeyed c
      ↔ names = [] ∨ Phase.after (calls ++ [c]) ≠ .stuck ∨ c = .stop := by
  rw [after_eq, Phase.after_snoc]
  cases names with
  | nil => cases c <;> simp [Obeyed, Phase.state]
  | cons name rest =>
      cases c <;> cases Phase.after calls <;>
        simp [Obeyed, Phase.state, Phase.next, Phase.service]

/-- The second start after a stop is where services get stuck. -/
lemma stuck_start (calls : List OrchestratorCall) :
    Phase.after (calls ++ [.start]) = .stuck ↔ [.start, .stop].Sublist calls := by
  rw [stopped_iff, Phase.after_snoc]
  cases Phase.after calls <;> simp [Phase.next]

/-- A sequence with a start after a stop after a start has a first part that ends with that
start. -/
lemma restarted_iff (calls : List OrchestratorCall) :
    [.start, .stop, .start].Sublist calls
      ↔ ∃ past rest, calls = past ++ .start :: rest ∧ [.start, .stop].Sublist past := by
  constructor
  · intro h
    have happend : ([.start, .stop] ++ [.start] : List OrchestratorCall).Sublist calls := h
    obtain ⟨past, rest, hsplit, hpast, hrest⟩ := List.append_sublist_iff.mp happend
    obtain ⟨before, after, rfl⟩ := List.append_of_mem (List.singleton_sublist.mp hrest)
    refine ⟨past ++ before, after, ?_, hpast.trans (List.sublist_append_left past before)⟩
    rw [hsplit, List.append_assoc]
  · rintro ⟨past, rest, rfl, hpast⟩
    exact hpast.append ((List.nil_sublist rest).cons_cons OrchestratorCall.start)

/-- **When services can be restarted.**  Exactly when there is none, or no start comes after a stop
that comes after a start. -/
theorem restarts_iff (names : List String) (calls : List OrchestratorCall) :
    Restarts names calls ↔ names = [] ∨ ¬ [.start, .stop, .start].Sublist calls := by
  constructor
  · intro h
    by_contra hno
    rw [not_or, not_not, restarted_iff] at hno
    obtain ⟨hnames, past, rest, hsplit, hpast⟩ := hno
    rcases (obeyed_iff names past .start).mp (h past .start rest hsplit).1 with hnil | hfree | hstop
    · exact hnames hnil
    · exact hfree ((stuck_start past).mpr hpast)
    · cases hstop
  · intro h past c rest hsplit
    refine ⟨(obeyed_iff names past c).mpr ?_, onStarts_le names (past ++ [c])⟩
    rcases h with hnil | hfree
    · exact Or.inl hnil
    · cases c with
      | stop => exact Or.inr (Or.inr rfl)
      | start =>
          refine Or.inr (Or.inl fun hstuck => hfree ?_)
          rw [restarted_iff]
          exact ⟨past, rest, hsplit, (stuck_start past).mp hstuck⟩

/-- Started, stopped and started again, the service does not run. -/
theorem restarted_stays_down :
    ¬ Restarts ["market-data-service"] [.start, .stop, .start] := by
  intro h
  have hobeyed := (h [.start, .stop] .start [] rfl).1
  have hrunning := hobeyed ⟨"market-data-service", false, true, [.onStart, .onStop]⟩
    (by decide)
  exact absurd hrunning Bool.false_ne_true

end Orchestrator

end Aegis
