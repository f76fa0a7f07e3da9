import AegisFortress.Core.EventBus

/-!
# Stopping the event bus

`stop()` puts a sentinel behind the events in the queue, and takes down the flag that the loop
tests.  The sentinel alone would let the queue run empty; with the flag down the loop goes round
once more at most.  `stop_serves_iff` says what that costs, at every moment `stop()` can be called.
-/

namespace Aegis

namespace EventBus

variable {ε κ : Type} (eventType : ε → Option String)

/-- The events that stand in the queue and that the loop, told to stop now, does not get to: a loop
that waits for the queue takes one more item. -/
def leftBehind (bus : EventBus ε κ) : List ε :=
  match bus.loop with
  | .waiting => queued (bus.queue.drop 1)
  | _ => queued bus.queue

/-- The dispatch the loop is in, or will still begin once the flag is down. -/
def due (bus : EventBus ε κ) : List ε :=
  match bus.loop with
  | .stopped => []
  | .waiting => queued (bus.queue.take 1)
  | .calling event _ _ => [event]

/-- After these inputs the calls of these events have all been made, to all that were subscribed,
but for events nobody had subscribed to. -/
def Serves (inputs : List (Input ε κ)) (bus : EventBus ε κ) (subscribers : Dict String (List κ))
    (events : List ε) : Prop :=
  bus.log = served bus.dispatched
    ∧ FoundSubscribed eventType inputs bus
    ∧ ∃ rest, events = bus.dispatched.map Prod.fst ++ rest
      ∧ ∀ event ∈ rest, callbacks eventType subscribers event = []

/-- The flag is down, the sentinel or something before it is there to wake the loop, and these are
the events that will have been dispatched when the loop returns. -/
structure Stopping (bus : EventBus ε κ) (events : List ε) : Prop where
  flag : bus.running = false
  wakes : bus.loop = .waiting → bus.queue ≠ []
  last : bus.dispatched.map Prod.fst ++ due bus = events

section Steps

variable {eventType} {bus bus' : EventBus ε κ} {events : List ε}

lemma test_stopping (hflag : bus.running = false) (hlast : bus.dispatched.map Prod.fst = events) :
    (bus.test eventType).Stopping events := by
  rw [test, if_neg (by simp [hflag])]
  refine ⟨hflag, fun hwaiting => ?_, ?_⟩
  · cases hwaiting
  · simp [due, hlast]

lemma get_stopping (hflag : bus.running = false) (item : QueueItem ε) (rest : List (QueueItem ε))
    (hlast : bus.dispatched.map Prod.fst ++ queued [item] = events) :
    (bus.get eventType (item :: rest)).Stopping events := by
  cases item with
  | stopSentinel =>
      refine ⟨hflag, fun hwaiting => ?_, ?_⟩
      · cases hwaiting
      · rw [← hlast]
        rfl
  | event event =>
      rw [get]
      split
      · rw [hflag]
        refine ⟨hflag, fun hwaiting => ?_, ?_⟩
        · cases hwaiting
        · rw [← hlast]
          simp [complete, due, queued]
      · refine ⟨hflag, fun hwaiting => ?_, ?_⟩
        · cases hwaiting
        · rw [← hlast]
          rfl

/-- Nothing but a new `start()` changes what will have been dispatched. -/
lemma Stopping.step {input : Input ε κ} (h : bus.Stopping events) (hinput : input ≠ .start)
    (hstep : step eventType bus input = some bus') : bus'.Stopping events := by
  cases input with
  | subscribe name callback =>
      cases hstep
      exact ⟨h.flag, h.wakes, h.last⟩
  | publish event =>
      cases hstep
      refine ⟨h.flag, fun _ => by simp, ?_⟩
      rw [← h.last]
      cases hloop : bus.loop with
      | waiting =>
          have hlen : 1 ≤ bus.queue.length := List.length_pos_of_ne_nil (h.wakes hloop)
          simp only [due, hloop, List.take_append_of_le_length hlen]
      | _ => simp only [due, hloop]
  | start => exact absurd rfl hinput
  | stop =>
      simp only [EventBus.step, h.flag] at hstep
      cases hstep
      exact h
  | wake =>
      simp only [EventBus.step] at hstep
      split at hstep
      · rename_i item rest hloop hqueue
        cases hstep
        refine get_stopping h.flag item rest ?_
        rw [← h.last]
        simp only [due, hloop, hqueue]
        rfl
      · cases hstep
  | finish outcome =>
      simp only [EventBus.step] at hstep
      split at hstep
      · rename_i event callback next hloop
        cases hstep
        have hlast := h.last
        simp only [due, hloop] at hlast
        rw [callbackEnded]
        split
        · refine ⟨h.flag, fun hwaiting => ?_, hlast⟩
          cases hwaiting
        · refine test_stopping h.flag ?_
          simpa [complete] using hlast
      · cases hstep

/-- What the loop still does after a stop, and what it leaves behind, is what there was. -/
lemma stop_splits (hloop : bus.loop ≠ .stopped) :
    due { bus with running := false, queue := bus.queue ++ [.stopSentinel] } ++ bus.leftBehind
      = current bus.loop ++ queued bus.queue := by
  cases h : bus.loop with
  | stopped => exact absurd h hloop
  | waiting =>
      simp only [due, leftBehind, current, h]
      cases bus.queue with
      | nil => rfl
      | cons item rest => cases item <;> simp [queued]
  | calling event callback next => simp only [due, leftBehind, current, h]

end Steps

/-- **What a stop leaves behind.**  Let `stop()` be called at any moment at which `start()` runs.
When `start()` returns, everything published before has been dispatched to its subscribers exactly
if nobody has subscribed to the events it leaves behind. -/
theorem stop_serves_iff (past rest : List (Input ε κ)) (bus bus' : EventBus ε κ)
    (hrun : Machine.run (step eventType) init past = some bus) (hrunning : bus.running = true)
    (hloop : bus.loop ≠ .stopped)
    (hrest : Machine.run (step eventType) bus (.stop :: rest) = some bus')
    (hstart : .start ∉ rest) (hreturned : bus'.loop = .stopped) :
    Serves eventType (past ++ .stop :: rest) bus' bus.subscribers (published past)
      ↔ ∀ event ∈ bus.leftBehind, callbacks eventType bus.subscribers event = [] := by
  let stopped : EventBus ε κ :=
    { bus with running := false, queue := bus.queue ++ [.stopSentinel] }
  let events := bus.dispatched.map Prod.fst ++ due stopped
  have hstep : step eventType bus .stop = some stopped := by
    simp only [step]
    rw [if_pos hrunning]
  have hafter : Machine.run (step eventType) stopped rest = some bus' := by
    rw [Machine.run_cons, hstep] at hrest
    exact hrest
  have hstopping : bus'.Stopping events := by
    refine Machine.run_history (fun xs (b : EventBus ε κ) => Input.start ∉ xs → b.Stopping events)
      (fun _ => ⟨rfl, fun _ => by simp [stopped], rfl⟩) ?_ rest bus' hafter hstart
    intro xs b input b' _ ih hb hno
    rw [List.mem_append, not_or, List.mem_singleton] at hno
    exact (ih hno.1).step (fun h => hno.2 h.symm) hb
  have hdispatched : bus'.dispatched.map Prod.fst = events := by
    have hlast := hstopping.last
    rw [due, hreturned, List.append_nil] at hlast
    exact hlast
  have hall : Machine.run (step eventType) init (past ++ .stop :: rest) = some bus' := by
    rw [Machine.run_append, hrun]
    exact hrest
  have hlog : bus'.log = served bus'.dispatched :=
    ((run_ordered hall).idle (by rw [hreturned]; rfl)).1
  have hpublished : published past = events ++ bus.leftBehind := by
    rw [← (run_ordered hrun).seen_eq, seen, List.append_assoc, ← stop_splits hloop,
      ← List.append_assoc]
  rw [Serves, hdispatched, hpublished]
  constructor
  · rintro ⟨-, -, left, heq, hnone⟩
    rw [List.append_cancel_left heq]
    exact hnone
  · intro hnone
    exact ⟨hlog, run_found hall, _, rfl, hnone⟩

/-- One callback, two events: the stop comes during the first dispatch. -/
def stopPast : List (Input String ℕ) :=
  [.subscribe "ORDER_REQUEST" 1, .publish "ORDER_REQUEST", .publish "ORDER_REQUEST", .start]

def stopBefore : EventBus String ℕ := (Machine.run (step some) init stopPast).getD init

def stopAfter : EventBus String ℕ :=
  (Machine.run (step some) stopBefore [.stop, .finish (.ok ())]).getD init

theorem stop_serves_demo :
    Serves some (stopPast ++ [.stop, .finish (.ok ())]) stopAfter stopBefore.subscribers
        (published stopPast)
      ↔ ∀ event ∈ stopBefore.leftBehind, callbacks some stopBefore.subscribers event = [] :=
  stop_serves_iff some stopPast [.finish (.ok ())] stopBefore stopAfter rfl rfl
    (fun h => by cases h) rfl (by simp) rfl

/-- The second order request was published before the stop and is never dispatched. -/
theorem stop_loses_event :
    published stopPast = ["ORDER_REQUEST", "ORDER_REQUEST"]
      ∧ stopAfter.dispatched = [("ORDER_REQUEST", [1])]
      ∧ ¬ ∀ (past rest : List (Input String ℕ)) (bus bus' : EventBus String ℕ),
          Machine.run (step some) init past = some bus → bus.running = true →
          bus.loop ≠ .stopped → Machine.run (step some) bus (.stop :: rest) = some bus' →
          .start ∉ rest → bus'.loop = .stopped →
          Serves some (past ++ .stop :: rest) bus' bus.subscribers (published past) := by
  refine ⟨rfl, rfl, fun h => ?_⟩
  obtain ⟨-, -, left, heq, hnone⟩ := h stopPast [.finish (.ok ())] stopBefore stopAfter rfl rfl
    (fun h => by cases h) rfl (by simp) rfl
  have heq : ["ORDER_REQUEST"] ++ ["ORDER_REQUEST"] = ["ORDER_REQUEST"] ++ left := heq
  have hmem : "ORDER_REQUEST" ∈ left := List.append_cancel_left heq ▸ List.mem_singleton_self _
  have hcalled := hnone "ORDER_REQUEST" hmem
  exact absurd hcalled (by decide)

end EventBus

end Aegis
