import AegisFortress.Lib.Dict
import AegisFortress.Lib.Run
import AegisFortress.Python.Value

/-!
# The event bus

`core/event_bus.py`.  `start()` is a task of its own: it takes events from a queue and awaits the
callbacks subscribed to the type of each, one after the other.  Other tasks run only while it is
suspended, in `queue.get()` or inside a callback; a step of the machine is what happens from one
such point to the next, and between two steps anyone may publish, subscribe or stop.

`delivery_in_order` is the service the bus gives until it is stopped.  Nothing overtakes, nothing
gets lost and nothing is called twice, whatever is published meanwhile and whether the callbacks
return or raise.
-/

namespace Aegis

/-- What stands in the queue. -/
inductive QueueItem (ε : Type)
  | event (event : ε)
  | stopSentinel

/-- Where `start()` is suspended. -/
inductive BusLoop (ε κ : Type)
  /-- It has not been called, or has returned. -/
  | stopped
  /-- In `await self.queue.get()`. -/
  | waiting
  /-- Inside a callback for the event; `next` is where the loop over the callbacks goes on. -/
  | calling (event : ε) (callback : κ) (next : ℕ)

/-- The begin and the end of a call. -/
inductive Mark (ε κ : Type)
  | began (event : ε) (callback : κ)
  | ended (event : ε) (callback : κ)

/-- `EventBus`, with `start()`; the last two fields are what can be seen of it: every call, and
every event whose dispatch is over with the callbacks it found subscribed. -/
structure EventBus (ε κ : Type) where
  subscribers : Dict String (List κ)
  queue : List (QueueItem ε)
  running : Bool
  loop : BusLoop ε κ
  log : List (Mark ε κ)
  dispatched : List (ε × List κ)

namespace EventBus

variable {ε κ : Type} (eventType : ε → Option String)

/-- `EventBus()`. -/
def init : EventBus ε κ := ⟨∅, [], false, .stopped, [], []⟩

/-- `self.subscribers.get(event_type, [])`; an event without a type is discarded. -/
def callbacks (subscribers : Dict String (List κ)) (event : ε) : List κ :=
  match eventType event with
  | none => []
  | some name => if name = "" then [] else subscribers.getD name []

/-- The dispatch of the event is over. -/
def complete (bus : EventBus ε κ) (event : ε) : EventBus ε κ :=
  { bus with dispatched := bus.dispatched ++ [(event, callbacks eventType bus.subscribers event)] }

/-- `callback(event)`, with the place in the list where the loop goes on. -/
def call (bus : EventBus ε κ) (event : ε) (callback : κ) (next : ℕ) : EventBus ε κ :=
  { bus with loop := .calling event callback next, log := bus.log ++ [.began event callback] }

/-- The loop from `await self.queue.get()` on, for this content of the queue.  A queue that is not
empty answers at once; an event that nobody has subscribed to leads back to the test of the loop. -/
def get (bus : EventBus ε κ) : List (QueueItem ε) → EventBus ε κ
  | [] => { bus with queue := [], loop := .waiting }
  | .stopSentinel :: rest => { bus with queue := rest, loop := .stopped }
  | .event event :: rest =>
      match callbacks eventType bus.subscribers event with
      | [] =>
          if bus.running then get (bus.complete eventType event) rest
          else { bus.complete eventType event with queue := rest, loop := .stopped }
      | callback :: _ => { bus with queue := rest }.call event callback 1

/-- `while self.running`. -/
def test (bus : EventBus ε κ) : EventBus ε κ :=
  if bus.running then bus.get eventType bus.queue else { bus with loop := .stopped }

/-- A callback has returned, or has raised, which is logged: on to the next one, which is looked up
in the list as it is now, or back to the test of the loop. -/
def callbackEnded (bus : EventBus ε κ) (event : ε) (callback : κ) (next : ℕ) : EventBus ε κ :=
  let ended : EventBus ε κ := { bus with log := bus.log ++ [.ended event callback] }
  match (callbacks eventType bus.subscribers event)[next]? with
  | some following => ended.call event following (next + 1)
  | none => (ended.complete eventType event).test eventType

/-- What can happen to the bus. -/
inductive Input (ε κ : Type)
  | subscribe (eventType : String) (callback : κ)
  | publish (event : ε)
  | start
  | stop
  /-- `queue.get()` answers to a loop that has been waiting for it. -/
  | wake
  /-- The callback the loop is in returns or raises. -/
  | finish (outcome : Except PyError Unit)

/-- One step.  A second `start()` beside one that has not returned is the first line of `start`
when the flag is up, and no step otherwise. -/
def step (bus : EventBus ε κ) : Input ε κ → Option (EventBus ε κ)
  | .subscribe name callback =>
      some { bus with
        subscribers := bus.subscribers.set name (bus.subscribers.getD name [] ++ [callback]) }
  | .publish event => some { bus with queue := bus.queue ++ [.event event] }
  | .start =>
      if bus.running then some bus
      else
        match bus.loop with
        | .stopped => some ({ bus with running := true }.test eventType)
        | _ => none
  | .stop =>
      if bus.running then some { bus with running := false, queue := bus.queue ++ [.stopSentinel] }
      else some bus
  | .wake =>
      match bus.loop, bus.queue with
      | .waiting, item :: rest => some (bus.get eventType (item :: rest))
      | _, _ => none
  | .finish _ =>
      match bus.loop with
      | .calling event callback next => some (bus.callbackEnded eventType event callback next)
      | _ => none

/-! ## What has been published, and what has become of it -/

/-- The published events of a run. -/
def published (inputs : List (Input ε κ)) : List ε :=
  inputs.filterMap fun input =>
    match input with
    | .publish event => some event
    | _ => none

/-- The callbacks that these inputs have subscribed to the type of the event, in the order of the
subscriptions. -/
def subscribed (inputs : List (Input ε κ)) (event : ε) : List κ :=
  match eventType event with
  | none => []
  | some name =>
      if name = "" then []
      else
        inputs.filterMap fun input =>
          match input with
          | .subscribe subject callback => if subject = name then some callback else none
          | _ => none

/-- The events in a queue. -/
def queued (queue : List (QueueItem ε)) : List ε :=
  queue.filterMap fun item =>
    match item with
    | .event event => some event
    | .stopSentinel => none

/-- The event that is being dispatched. -/
def current : BusLoop ε κ → List ε
  | .calling event _ _ => [event]
  | _ => []

/-- The calls of one event, each begun and ended before the next. -/
def marks (event : ε) (subscribed : List κ) : List (Mark ε κ) :=
  subscribed.flatMap fun callback => [.began event callback, .ended event callback]

/-- The calls of all events whose dispatch is over. -/
def served (dispatched : List (ε × List κ)) : List (Mark ε κ) :=
  dispatched.flatMap fun d => marks d.1 d.2

/-- What the calls come to.  While an event is being dispatched the callbacks before the present one
are done with, the present one has begun, and the list may still grow at its end. -/
def Underway (bus : EventBus ε κ) : Prop :=
  match bus.loop with
  | .calling event callback next =>
      ∃ before after, callbacks eventType bus.subscribers event = before ++ callback :: after
        ∧ before.length + 1 = next
        ∧ bus.log = served bus.dispatched ++ marks event before ++ [.began event callback]
  | _ => bus.log = served bus.dispatched

/-- Every event whose dispatch is over has been given to all the callbacks that were subscribed to
its type by the inputs before the step that ended it. -/
def FoundSubscribed (inputs : List (Input ε κ)) (bus : EventBus ε κ) : Prop :=
  ∀ i d, bus.dispatched[i]? = some d → ∃ past input rest before after,
    inputs = past ++ input :: rest
      ∧ Machine.run (step eventType) init past = some before
      ∧ step eventType before input = some after
      ∧ before.dispatched.length ≤ i ∧ i < after.dispatched.length
      ∧ d.2 = subscribed eventType past d.1

lemma published_append (xs ys : List (Input ε κ)) :
    published (xs ++ ys) = published xs ++ published ys := List.filterMap_append

lemma subscribed_append (xs ys : List (Input ε κ)) (event : ε) :
    subscribed eventType (xs ++ ys) event
      = subscribed eventType xs event ++ subscribed eventType ys event := by
  simp only [subscribed]
  cases eventType event with
  | none => rfl
  | some name =>
      dsimp only
      split_ifs
      · rfl
      · exact List.filterMap_append

lemma marks_concat (event : ε) (before : List κ) (callback : κ) :
    marks event (before ++ [callback])
      = marks event before ++ [.began event callback, .ended event callback] := by
  simp [marks]

lemma served_concat (dispatched : List (ε × List κ)) (event : ε) (subscribed : List κ) :
    served (dispatched ++ [(event, subscribed)]) = served dispatched ++ marks event subscribed := by
  simp [served]

/-- The events the bus has seen, in order: dispatched, being dispatched, waiting. -/
def seen (bus : EventBus ε κ) : List ε :=
  bus.dispatched.map Prod.fst ++ current bus.loop ++ queued bus.queue

/-- The events a bus has seen are these, and it has called what it should have called for them. -/
structure Ordered (bus : EventBus ε κ) (events : List ε) : Prop where
  seen_eq : bus.seen = events
  underway : bus.Underway eventType

/-! ## One step -/

/-- A new callback goes to the end of a list. -/
lemma callbacks_subscribe (subscribers : Dict String (List κ)) (event : ε) (name : String)
    (callback : κ) : callbacks eventType
        (subscribers.set name (subscribers.getD name [] ++ [callback])) event
      = callbacks eventType subscribers event
        ++ subscribed eventType [.subscribe name callback] event := by
  simp only [callbacks, subscribed]
  cases eventType event with
  | none => rfl
  | some subject =>
      dsimp only
      split_ifs with hempty
      · rfl
      · by_cases hsame : name = subject
        · subst hsame
          rw [Dict.getD, Dict.get?_set_self]
          simp
        · rw [Dict.getD, Dict.get?_set_of_ne _ hsame, ← Dict.getD]
          simp [hsame]

section Steps

variable {eventType} {bus : EventBus ε κ} {events : List ε}

/-- Between two dispatches nothing is underway. -/
lemma Ordered.idle (h : bus.Ordered eventType events) (hidle : current bus.loop = []) :
    bus.log = served bus.dispatched
      ∧ bus.dispatched.map Prod.fst ++ queued bus.queue = events := by
  obtain ⟨hseen, hunderway⟩ := h
  rw [seen, hidle, List.append_nil] at hseen
  refine ⟨?_, hseen⟩
  rcases bus with ⟨subscribers, queue, running, loop, log, dispatched⟩
  cases loop with
  | stopped => exact hunderway
  | waiting => exact hunderway
  | calling event callback next => cases hidle

/-- From `queue.get()` on, with every dispatch so far over. -/
lemma get_ordered (queue : List (QueueItem ε)) (hlog : bus.log = served bus.dispatched) :
    (bus.get eventType queue).Ordered eventType
      (bus.dispatched.map Prod.fst ++ queued queue) := by
  induction queue generalizing bus with
  | nil => exact ⟨by simp [get, seen, current], hlog⟩
  | cons item rest ih =>
      cases item with
      | stopSentinel => exact ⟨by simp [get, seen, current, queued], hlog⟩
      | event event =>
          rw [get]
          split
          · rename_i hnone
            have hlog' : (bus.complete eventType event).log
                = served (bus.complete eventType event).dispatched := by
              simp [complete, served_concat, hnone, marks, hlog]
            have hqueued : (bus.complete eventType event).dispatched.map Prod.fst ++ queued rest
                = bus.dispatched.map Prod.fst ++ queued (.event event :: rest) := by
              simp [complete, queued]
            rw [← hqueued]
            split_ifs
            · exact ih hlog'
            · exact ⟨by simp [seen, current], hlog'⟩
          · rename_i callback after hsome
            refine ⟨by simp [seen, call, current, queued], [], after, hsome, rfl, ?_⟩
            simp [call, hlog, marks]

lemma test_ordered (hlog : bus.log = served bus.dispatched) :
    (bus.test eventType).Ordered eventType (bus.dispatched.map Prod.fst ++ queued bus.queue) := by
  rw [test]
  split_ifs
  · exact get_ordered bus.queue hlog
  · exact ⟨by simp [seen, current], hlog⟩

lemma callbackEnded_ordered {event : ε} {callback : κ} {next : ℕ}
    (h : bus.Ordered eventType events) (hloop : bus.loop = .calling event callback next) :
    (bus.callbackEnded eventType event callback next).Ordered eventType events := by
  obtain ⟨hseen, hunderway⟩ := h
  rw [Underway, hloop] at hunderway
  obtain ⟨before, after, hlist, rfl, hlog⟩ := hunderway
  rw [seen, hloop, current] at hseen
  have hfollowing : (callbacks eventType bus.subscribers event)[before.length + 1]?
      = after.head? := by
    rw [hlist]
    cases after <;> simp
  rw [callbackEnded, hfollowing]
  cases after with
  | nil =>
      have hover : bus.log ++ [.ended event callback]
          = served (bus.dispatched ++ [(event, callbacks eventType bus.subscribers event)]) := by
        rw [served_concat, hlist, marks_concat, hlog]
        simp
      let ended : EventBus ε κ := { bus with log := bus.log ++ [.ended event callback] }
      have hafter : ((ended.complete eventType event).test eventType).Ordered eventType
          ((ended.complete eventType event).dispatched.map Prod.fst ++ queued bus.queue) :=
        test_ordered hover
      rw [← hseen]
      rw [complete, List.map_append] at hafter
      exact hafter
  | cons following after =>
      simp only [List.head?_cons]
      refine ⟨hseen, before ++ [callback], after, ?_, ?_, ?_⟩
      · simp [call, hlist]
      · simp
      · simp [call, marks_concat, hlog]

/-- A subscription that comes in the middle of a dispatch lengthens what is still to be called. -/
lemma subscribe_ordered (h : bus.Ordered eventType events) (name : String) (callback : κ) :
    Ordered eventType { bus with
      subscribers := bus.subscribers.set name (bus.subscribers.getD name [] ++ [callback]) } events := by
  refine ⟨h.seen_eq, ?_⟩
  have hunderway := h.underway
  rcases bus with ⟨subscribers, queue, running, loop, log, dispatched⟩
  cases loop with
  | stopped => exact hunderway
  | waiting => exact hunderway
  | calling event current next =>
      obtain ⟨before, after, hlist, hnext, hlog⟩ := hunderway
      refine ⟨before, after ++ subscribed eventType [.subscribe name callback] event, ?_, hnext, hlog⟩
      dsimp only at hlist ⊢
      rw [callbacks_subscribe, hlist, List.append_assoc, List.cons_append]

/-- Only a bus that has stopped is started. -/
lemma start_ordered {bus' : EventBus ε κ} (h : bus.Ordered eventType events)
    (hstep : step eventType bus .start = some bus') : bus'.Ordered eventType events := by
  simp only [EventBus.step] at hstep
  split_ifs at hstep with hrunning
  · cases hstep
    exact h
  · cases hloop : bus.loop with
    | stopped =>
        rw [hloop] at hstep
        cases hstep
        obtain ⟨hlog, hseen⟩ := h.idle (by rw [hloop]; rfl)
        rw [← hseen]
        exact test_ordered hlog
    | waiting =>
        rw [hloop] at hstep
        cases hstep
    | calling event callback next =>
        rw [hloop] at hstep
        cases hstep

/-- **One step**: what is published is seen last, and the calls stay what they should be. -/
lemma Ordered.step {bus' : EventBus ε κ} {input : Input ε κ} (h : bus.Ordered eventType events)
    (hstep : step eventType bus input = some bus') :
    bus'.Ordered eventType (events ++ published [input]) := by
  have hquiet : ∀ input : Input ε κ, published [input] = [] →
      events ++ published [input] = events := fun _ hnone => by rw [hnone, List.append_nil]
  cases input with
  | subscribe name callback =>
      rw [hquiet _ rfl]
      cases hstep
      exact subscribe_ordered h name callback
  | publish event =>
      cases hstep
      refine ⟨?_, h.underway⟩
      rw [← h.seen_eq]
      simp [seen, queued, published]
  | start =>
      rw [hquiet _ rfl]
      exact start_ordered h hstep
  | stop =>
      rw [hquiet _ rfl]
      simp only [EventBus.step] at hstep
      split_ifs at hstep
      · cases hstep
        refine ⟨?_, h.underway⟩
        rw [← h.seen_eq]
        simp [seen, queued]
      · cases hstep
        exact h
  | wake =>
      rw [hquiet _ rfl]
      simp only [EventBus.step] at hstep
      split at hstep
      · rename_i item rest hloop hqueue
        cases hstep
        obtain ⟨hlog, hseen⟩ := h.idle (by rw [hloop]; rfl)
        rw [← hseen, hqueue]
        exact get_ordered _ hlog
      · cases hstep
  | finish outcome =>
      rw [hquiet _ rfl]
      simp only [EventBus.step] at hstep
      split at hstep
      · rename_i event callback next hloop
        cases hstep
        exact callbackEnded_ordered h hloop
      · cases hstep

end Steps

/-! ## The callbacks an event is given to -/

/-- Between these two states the subscriptions stay, and each event that is done with is recorded
with the callbacks it had. -/
structure Records (bus bus' : EventBus ε κ) : Prop where
  subscribers_eq : bus'.subscribers = bus.subscribers
  recorded : ∃ new, bus'.dispatched = bus.dispatched ++ new
    ∧ ∀ d ∈ new, d.2 = callbacks eventType bus.subscribers d.1

section Records

variable {eventType} {bus bus' : EventBus ε κ}

/-- Nothing is done with. -/
lemma Records.of_eq (hsubscribers : bus'.subscribers = bus.subscribers)
    (hdispatched : bus'.dispatched = bus.dispatched) : bus.Records eventType bus' :=
  ⟨hsubscribers, [], by simp [hdispatched], by simp⟩

lemma Records.trans {bus'' : EventBus ε κ} (h : bus.Records eventType bus')
    (h' : bus'.Records eventType bus'') : bus.Records eventType bus'' := by
  obtain ⟨hsubscribers, new, hnew, hd⟩ := h
  obtain ⟨hsubscribers', new', hnew', hd'⟩ := h'
  refine ⟨hsubscribers'.trans hsubscribers, new ++ new', ?_, ?_⟩
  · rw [hnew', hnew, List.append_assoc]
  · intro d hmem
    rcases List.mem_append.mp hmem with hmem | hmem
    · exact hd d hmem
    · rw [← hsubscribers]
      exact hd' d hmem

lemma complete_records (event : ε) : bus.Records eventType (bus.complete eventType event) :=
  ⟨rfl, [_], rfl, by simp⟩

lemma get_records (queue : List (QueueItem ε)) :
    bus.Records eventType (bus.get eventType queue) := by
  induction queue generalizing bus with
  | nil => exact .of_eq rfl rfl
  | cons item rest ih =>
      cases item with
      | stopSentinel => exact .of_eq rfl rfl
      | event event =>
          rw [get]
          split
          · have hcomplete : bus.Records eventType (bus.complete eventType event) :=
              complete_records event
            split_ifs
            · exact hcomplete.trans ih
            · exact hcomplete.trans (.of_eq rfl rfl)
          · exact .of_eq rfl rfl

lemma test_records : bus.Records eventType (bus.test eventType) := by
  rw [test]
  split_ifs
  · exact get_records bus.queue
  · exact .of_eq rfl rfl

lemma callbackEnded_records (event : ε) (callback : κ) (next : ℕ) :
    bus.Records eventType (bus.callbackEnded eventType event callback next) := by
  rw [callbackEnded]
  split
  · exact .of_eq rfl rfl
  · have hended : bus.Records eventType { bus with log := bus.log ++ [.ended event callback] } :=
      .of_eq rfl rfl
    exact hended.trans ((complete_records event).trans test_records)

/-- A step is a subscription or leaves the subscriptions as they are. -/
lemma step_records {input : Input ε κ} (hstep : step eventType bus input = some bus') :
    (∃ name callback, input = .subscribe name callback)
      ∨ (∀ event, subscribed eventType [input] event = []) ∧ bus.Records eventType bus' := by
  have hsubscribed : ∀ input : Input ε κ, (∀ name callback, input ≠ .subscribe name callback) →
      ∀ event, subscribed eventType [input] event = [] := by
    intro input hne event
    rw [subscribed]
    cases input with
    | subscribe name callback => exact absurd rfl (hne name callback)
    | _ => cases eventType event <;> simp
  cases input with
  | subscribe name callback => exact Or.inl ⟨name, callback, rfl⟩
  | publish event =>
      cases hstep
      exact Or.inr ⟨hsubscribed _ (by simp), .of_eq rfl rfl⟩
  | start =>
      refine Or.inr ⟨hsubscribed _ (by simp), ?_⟩
      simp only [EventBus.step] at hstep
      split_ifs at hstep
      · cases hstep
        exact .of_eq rfl rfl
      · split at hstep
        · cases hstep
          have hstarted : bus.Records eventType { bus with running := true } := .of_eq rfl rfl
          exact hstarted.trans test_records
        · cases hstep
  | stop =>
      refine Or.inr ⟨hsubscribed _ (by simp), ?_⟩
      simp only [EventBus.step] at hstep
      split_ifs at hstep
      · cases hstep
        exact .of_eq rfl rfl
      · cases hstep
        exact .of_eq rfl rfl
  | wake =>
      refine Or.inr ⟨hsubscribed _ (by simp), ?_⟩
      simp only [EventBus.step] at hstep
      split at hstep
      · cases hstep
        exact get_records _
      · cases hstep
  | finish outcome =>
      refine Or.inr ⟨hsubscribed _ (by simp), ?_⟩
      simp only [EventBus.step] at hstep
      split at hstep
      · cases hstep
        exact callbackEnded_records _ _ _
      · cases hstep

end Records

/-! ## A bus that nobody stops -/

/-- The loop runs exactly while the flag is up, and nothing in the queue stops it. -/
structure Unstopped (bus : EventBus ε κ) : Prop where
  no_sentinel : .stopSentinel ∉ bus.queue
  running_iff : bus.running = true ↔ bus.loop ≠ .stopped

section Unstopped

variable {bus : EventBus ε κ}

lemma get_unstopped (queue : List (QueueItem ε)) (hno : .stopSentinel ∉ queue)
    (hrunning : bus.running = true) :
    (bus.get eventType queue).Unstopped ∧ (bus.get eventType queue).running = true := by
  induction queue generalizing bus with
  | nil => exact ⟨⟨by simp [get], by simp [get, hrunning]⟩, hrunning⟩
  | cons item rest ih =>
      rw [List.mem_cons, not_or] at hno
      cases item with
      | stopSentinel => exact absurd rfl hno.1
      | event event =>
          rw [get]
          split
          · rw [if_pos hrunning]
            exact ih hno.2 hrunning
          · exact ⟨⟨hno.2, by simp [call, hrunning]⟩, hrunning⟩

lemma test_unstopped (hno : .stopSentinel ∉ bus.queue) (hrunning : bus.running = true) :
    (bus.test eventType).Unstopped ∧ (bus.test eventType).running = true := by
  rw [test, if_pos hrunning]
  exact get_unstopped eventType bus.queue hno hrunning

lemma callbackEnded_unstopped (h : bus.Unstopped) (hrunning : bus.running = true) (event : ε)
    (callback : κ) (next : ℕ) :
    (bus.callbackEnded eventType event callback next).Unstopped
      ∧ (bus.callbackEnded eventType event callback next).running = true := by
  rw [callbackEnded]
  split
  · exact ⟨⟨h.no_sentinel, by simp [call, hrunning]⟩, hrunning⟩
  · exact test_unstopped eventType h.no_sentinel hrunning

variable {eventType}

/-- Whoever does not stop the bus leaves it so. -/
lemma Unstopped.step {bus' : EventBus ε κ} {input : Input ε κ} (h : bus.Unstopped)
    (hinput : input ≠ .stop) (hstep : step eventType bus input = some bus') :
    bus'.Unstopped ∧ (input = .start ∨ bus.running = true → bus'.running = true) := by
  cases input with
  | subscribe name callback =>
      cases hstep
      exact ⟨⟨h.no_sentinel, h.running_iff⟩, by simp⟩
  | publish event =>
      cases hstep
      exact ⟨⟨by simp [h.no_sentinel], h.running_iff⟩, by simp⟩
  | start =>
      simp only [EventBus.step] at hstep
      split_ifs at hstep with hrunning
      · cases hstep
        exact ⟨h, fun _ => hrunning⟩
      · split at hstep
        · cases hstep
          let started : EventBus ε κ := { bus with running := true }
          have hno : .stopSentinel ∉ started.queue := h.no_sentinel
          have hstarted := test_unstopped eventType hno rfl
          exact ⟨hstarted.1, fun _ => hstarted.2⟩
        · cases hstep
  | stop => exact absurd rfl hinput
  | wake =>
      simp only [EventBus.step] at hstep
      split at hstep
      · rename_i item rest hloop hqueue
        cases hstep
        have hrunning : bus.running = true := h.running_iff.mpr (by rw [hloop]; simp)
        have hwoken := get_unstopped eventType (item :: rest) (hqueue ▸ h.no_sentinel) hrunning
        exact ⟨hwoken.1, fun _ => hwoken.2⟩
      · cases hstep
  | finish outcome =>
      simp only [EventBus.step] at hstep
      split at hstep
      · rename_i event callback next hloop
        cases hstep
        have hrunning : bus.running = true := h.running_iff.mpr (by rw [hloop]; simp)
        have hended := callbackEnded_unstopped eventType h hrunning event callback next
        exact ⟨hended.1, fun _ => hended.2⟩
      · cases hstep

end Unstopped

/-! ## The calls that are left -/

section Work

/-- One for taking the event, and one for each of its callbacks. -/
def cost (subscribers : Dict String (List κ)) (event : ε) : ℕ :=
  (callbacks eventType subscribers event).length + 1

/-- What the loop has to do if nothing more is published. -/
def work (bus : EventBus ε κ) : ℕ :=
  ((queued bus.queue).map (cost eventType bus.subscribers)).sum
    + match bus.loop with
      | .calling event _ next =>
          (callbacks eventType bus.subscribers event).length - next + 1
      | _ => 0

variable {eventType} {bus : EventBus ε κ}

lemma get_work (queue : List (QueueItem ε)) : (bus.get eventType queue).work eventType
    ≤ ((queued queue).map (cost eventType bus.subscribers)).sum := by
  induction queue generalizing bus with
  | nil => simp [get, work, queued]
  | cons item rest ih =>
      cases item with
      | stopSentinel => simp [get, work, queued]
      | event event =>
          rw [get]
          split
          · split_ifs
            · refine ih.trans ?_
              simp [queued, complete]
            · simp [work, complete, queued]
          · rename_i callback after hsome
            simp [work, call, queued, cost, hsome]
            omega

lemma get_work_lt (event : ε) (rest : List (QueueItem ε)) :
    (bus.get eventType (.event event :: rest)).work eventType
      < ((queued (.event event :: rest)).map (cost eventType bus.subscribers)).sum := by
  rw [get]
  split
  · split_ifs
    · have hrest := @get_work _ _ eventType (bus.complete eventType event) rest
      refine hrest.trans_lt ?_
      simp [queued, complete, cost]
    · simp [work, complete, queued, cost]
  · rename_i callback after hsome
    simp [work, call, queued, cost, hsome]
    omega

lemma test_work : (bus.test eventType).work eventType
    ≤ ((queued bus.queue).map (cost eventType bus.subscribers)).sum := by
  rw [test]
  split_ifs
  · exact get_work bus.queue
  · simp [work]

lemma callbackEnded_work {event : ε} {callback : κ} {next : ℕ}
    (hloop : bus.loop = .calling event callback next) :
    (bus.callbackEnded eventType event callback next).work eventType < bus.work eventType := by
  rw [callbackEnded]
  split
  · rename_i following hnext
    have hlt : next < (callbacks eventType bus.subscribers event).length :=
      (List.getElem?_eq_some_iff.mp hnext).1
    simp only [work, call, hloop]
    omega
  · refine test_work.trans_lt ?_
    simp [work, complete, hloop]

/-- **The bus gets through its queue.**  If the callbacks come back, with a value or an exception,
and nothing more is published, the loop ends up waiting for an empty queue. -/
theorem drains (outcome : Except PyError Unit) (h : bus.Unstopped) (hrunning : bus.running = true) :
    ∃ more bus', (∀ input ∈ more, input = .wake ∨ input = .finish outcome)
      ∧ Machine.run (step eventType) bus more = some bus'
      ∧ bus'.loop = .waiting ∧ bus'.queue = [] := by
  induction hn : bus.work eventType using Nat.strong_induction_on generalizing bus with
  | _ n ih =>
      -- one step of the loop, then the rest
      have hnext : ∀ (input : Input ε κ) (bus' : EventBus ε κ),
          input = .wake ∨ input = .finish outcome → step eventType bus input = some bus' →
          bus'.work eventType < n →
          ∃ more bus', (∀ input ∈ more, input = .wake ∨ input = .finish outcome)
            ∧ Machine.run (step eventType) bus more = some bus'
            ∧ bus'.loop = .waiting ∧ bus'.queue = [] := by
        intro input bus' hinput hstep hlt
        have hne : input ≠ .stop := by
          rintro rfl
          rcases hinput with h | h <;> cases h
        obtain ⟨hunstopped, hrun⟩ := h.step hne hstep
        obtain ⟨more, last, hmore, hlast, hidle⟩ :=
          ih _ hlt hunstopped (hrun (Or.inr hrunning)) rfl
        refine ⟨input :: more, last, ?_, ?_, hidle⟩
        · intro i hi
          rcases List.mem_cons.mp hi with rfl | hi
          · exact hinput
          · exact hmore i hi
        · rw [Machine.run_cons, hstep]
          exact hlast
      cases hloop : bus.loop with
      | stopped => exact absurd hloop (h.running_iff.mp hrunning)
      | waiting =>
          cases hqueue : bus.queue with
          | nil => exact ⟨[], bus, by simp, rfl, hloop, hqueue⟩
          | cons item rest =>
              cases item with
              | stopSentinel => exact absurd (hqueue ▸ List.mem_cons_self) h.no_sentinel
              | event event =>
                  refine hnext .wake (bus.get eventType (.event event :: rest)) (Or.inl rfl)
                    (by simp only [step, hloop, hqueue]) ?_
                  rw [← hn]
                  refine (get_work_lt event rest).trans_le ?_
                  rw [work, hqueue]
                  exact Nat.le_add_right _ _
      | calling event callback next =>
          refine hnext (.finish outcome) (bus.callbackEnded eventType event callback next)
            (Or.inr rfl) (by simp only [step, hloop]) ?_
          rw [← hn]
          exact callbackEnded_work hloop

end Work

/-! ## Whole runs -/

section Runs

variable {eventType} {inputs : List (Input ε κ)} {bus : EventBus ε κ}

lemma init_ordered : (init : EventBus ε κ).Ordered eventType [] :=
  ⟨rfl, show ([] : List (Mark ε κ)) = served [] from rfl⟩

/-- In every run the bus has seen what was published. -/
lemma run_ordered (hrun : Machine.run (step eventType) init inputs = some bus) :
    bus.Ordered eventType (published inputs) := by
  refine Machine.run_history (fun past (b : EventBus ε κ) => b.Ordered eventType (published past))
    init_ordered ?_ inputs bus hrun
  intro past b input b' _ hb hstep
  rw [published_append]
  exact hb.step hstep

/-- The callbacks the bus looks up are those the run has subscribed. -/
lemma run_callbacks (hrun : Machine.run (step eventType) init inputs = some bus) (event : ε) :
    callbacks eventType bus.subscribers event = subscribed eventType inputs event := by
  refine Machine.run_history (fun past (b : EventBus ε κ) => ∀ event,
    callbacks eventType b.subscribers event = subscribed eventType past event)
    ?_ ?_ inputs bus hrun event
  · intro event
    rw [callbacks, subscribed]
    cases eventType event with
    | none => rfl
    | some name =>
        dsimp only
        split_ifs <;> rfl
  · intro past b input b' _ ih hstep event
    rw [subscribed_append, ← ih]
    rcases step_records hstep with ⟨name, callback, rfl⟩ | ⟨hnone, hrecords⟩
    · cases hstep
      exact callbacks_subscribe eventType b.subscribers event name callback
    · rw [hnone, List.append_nil, hrecords.subscribers_eq]

/-- **Each dispatched event has been given to the callbacks subscribed to it.** -/
lemma run_found (hrun : Machine.run (step eventType) init inputs = some bus) :
    FoundSubscribed eventType inputs bus := by
  refine Machine.run_history (fun past (b : EventBus ε κ) => FoundSubscribed eventType past b)
    (fun i d hd => by cases hd) ?_ inputs bus hrun
  intro past b input b' hb ih hstep i d hd
  -- what was recorded before keeps its step, what is new belongs to this one
  have hold : b.dispatched[i]? = some d → ∃ past' input' rest before after,
      past ++ [input] = past' ++ input' :: rest
        ∧ Machine.run (step eventType) init past' = some before
        ∧ step eventType before input' = some after
        ∧ before.dispatched.length ≤ i ∧ i < after.dispatched.length
        ∧ d.2 = subscribed eventType past' d.1 := by
    intro hbefore
    obtain ⟨past', input', rest, before, after, rfl, hfound⟩ := ih i d hbefore
    exact ⟨past', input', rest ++ [input], before, after, by simp, hfound⟩
  rcases step_records hstep with ⟨name, callback, rfl⟩ | ⟨-, -, new, hnew, hcallbacks⟩
  · cases hstep
    exact hold hd
  · rcases Nat.lt_or_ge i b.dispatched.length with hlt | hge
    · rw [hnew, List.getElem?_append_left hlt] at hd
      exact hold hd
    · have hlast : i < b'.dispatched.length := (List.getElem?_eq_some_iff.mp hd).1
      rw [hnew, List.getElem?_append_right hge] at hd
      refine ⟨past, input, [], b, b', rfl, hb, hstep, hge, hlast, ?_⟩
      rw [hcallbacks d (List.mem_of_getElem? hd)]
      exact run_callbacks hb d.1

lemma run_unstopped (hrun : Machine.run (step eventType) init inputs = some bus)
    (hstop : .stop ∉ inputs) : bus.Unstopped ∧ (.start ∈ inputs → bus.running = true) := by
  refine Machine.run_history (fun past (b : EventBus ε κ) => Input.stop ∉ past →
    b.Unstopped ∧ (Input.start ∈ past → b.running = true)) ?_ ?_ inputs bus hrun hstop
  · exact fun _ => ⟨⟨List.not_mem_nil, by simp [init]⟩, fun h => absurd h List.not_mem_nil⟩
  · intro past b input b' _ ih hstep hno
    rw [List.mem_append, not_or, List.mem_singleton] at hno
    obtain ⟨hb, hstarted⟩ := ih hno.1
    obtain ⟨hb', hrunning⟩ := hb.step (fun h => hno.2 h.symm) hstep
    refine ⟨hb', fun hmem => hrunning ?_⟩
    rw [List.mem_append, List.mem_singleton] at hmem
    rcases hmem with hmem | hmem
    · exact Or.inr (hstarted hmem)
    · exact Or.inl hmem.symm

end Runs

/-- **Events are delivered in order, each to every subscriber once.**  At any moment of a run in
which nobody has stopped the bus, the published events are, in this order, those whose dispatch is
over, the one being dispatched and those in the queue; and the calls are those of the dispatched
events, each callback begun and ended before the next, up to the call that is underway.  The
callbacks called for an event are those subscribed to its type, in the order of the subscriptions.
A started bus gets to the end of them. -/
theorem delivery_in_order (inputs : List (Input ε κ)) (bus : EventBus ε κ)
    (hrun : Machine.run (step eventType) init inputs = some bus) (hstop : .stop ∉ inputs) :
    bus.dispatched.map Prod.fst ++ current bus.loop ++ queued bus.queue = published inputs
      ∧ bus.Underway eventType
      ∧ (∀ event, callbacks eventType bus.subscribers event = subscribed eventType inputs event)
      ∧ FoundSubscribed eventType inputs bus
      ∧ (.start ∈ inputs → ∀ outcome, ∃ more bus',
          (∀ input ∈ more, input = .wake ∨ input = .finish outcome)
          ∧ Machine.run (step eventType) bus more = some bus'
          ∧ bus'.dispatched.map Prod.fst = published inputs
          ∧ bus'.log = served bus'.dispatched
          ∧ FoundSubscribed eventType (inputs ++ more) bus') := by
  obtain ⟨hseen, hunderway⟩ := run_ordered hrun
  refine ⟨hseen, hunderway, run_callbacks hrun, run_found hrun, ?_⟩
  intro hstart outcome
  obtain ⟨hb, hrunning⟩ := run_unstopped hrun hstop
  obtain ⟨more, bus', hmore, hrun', hloop, hqueue⟩ := drains outcome hb (hrunning hstart)
  refine ⟨more, bus', hmore, hrun', ?_⟩
  have hall : Machine.run (step eventType) init (inputs ++ more) = some bus' := by
    rw [Machine.run_append, hrun]
    exact hrun'
  have hquiet : published more = [] := by
    rw [published, List.filterMap_eq_nil_iff]
    intro input hmem
    rcases hmore input hmem with rfl | rfl <;> rfl
  obtain ⟨hlog, hevents⟩ := (run_ordered hall).idle (by rw [hloop]; rfl)
  rw [hqueue, published_append, hquiet, List.append_nil] at hevents
  exact ⟨(List.append_nil _).symm.trans hevents, hlog, run_found hall⟩

/-- Two callbacks, two events; the first call has raised, and the second event is begun with. -/
def demoInputs : List (Input String ℕ) :=
  [.subscribe "TICK" 1, .subscribe "TICK" 2, .publish "TICK", .start, .publish "TICK",
    .finish (.error ⟨.other, "handler failed"⟩), .finish (.ok ())]

def demoBus : EventBus String ℕ := ((Machine.run (step some) init demoInputs).getD init)

theorem delivery_in_order_demo :
    demoBus.dispatched = [("TICK", [1, 2])] ∧ demoBus.loop = .calling "TICK" 1 1
      ∧ demoBus.dispatched.map Prod.fst ++ current demoBus.loop ++ queued demoBus.queue
        = ["TICK", "TICK"]
      ∧ demoBus.Underway some ∧ subscribed some demoInputs "TICK" = [1, 2]
      ∧ FoundSubscribed some demoInputs demoBus
      ∧ ∃ more bus', Machine.run (step some) demoBus more = some bus'
        ∧ bus'.dispatched.map Prod.fst = ["TICK", "TICK"]
        ∧ bus'.log = served bus'.dispatched
        ∧ FoundSubscribed some (demoInputs ++ more) bus' := by
  obtain ⟨hseen, hunderway, hcallbacks, hfound, hdrains⟩ :=
    delivery_in_order some demoInputs demoBus rfl (by simp [demoInputs])
  obtain ⟨more, bus', -, hrun, hdispatched, hlog, hfound'⟩ :=
    hdrains (by simp [demoInputs]) (.ok ())
  exact ⟨rfl, rfl, hseen, hunderway, (hcallbacks "TICK").symm, hfound, more, bus', hrun,
    hdispatched, hlog, hfound'⟩

end EventBus

end Aegis
