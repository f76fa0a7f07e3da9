import AegisFortress.Lib.Run

/-!
# A serial event loop

Handlers share a state and a queue, first in, first out.  A step publishes an event from outside,
handles the oldest event to the end, or changes the state without an event.  What a handler
publishes goes to the back of the queue.

The subject is a flag of the state that some events raise when they are handled.  Until then such
an event waits in the queue, so the flag and the queue together remember whether one was ever
published (`flag_or_queued_iff`); once the queue is empty the flag alone does (`drained_iff`).
-/

/-- The state the handlers share, and the events still to be handled. -/
structure EventLoop (σ ε : Type) where
  state : σ
  queue : List ε

namespace EventLoop

variable {σ ε κ ρ : Type}

/-- One step; a dispatch comes with what the outside world answers to the handler. -/
inductive Input (ε κ ρ : Type)
  | publish (event : ε)
  | dispatch (answers : κ)
  | act (action : ρ)

variable (handle : κ → ε → σ → σ × List ε) (act : ρ → σ → σ)

/-- Nothing can be dispatched from an empty queue. -/
def step (s : EventLoop σ ε) : Input ε κ ρ → Option (EventLoop σ ε)
  | .publish event => some { s with queue := s.queue ++ [event] }
  | .dispatch answers =>
      match s.queue with
      | [] => none
      | event :: rest =>
          let (state, published) := handle answers event s.state
          some ⟨state, rest ++ published⟩
  | .act action => some { s with state := act action s.state }

/-- What the step puts into the queue. -/
def emitted (s : EventLoop σ ε) : Input ε κ ρ → List ε
  | .publish event => [event]
  | .dispatch answers =>
      match s.queue with
      | [] => []
      | event :: _ => (handle answers event s.state).2
  | .act _ => []

variable {handle act} {s s' : EventLoop σ ε}

/-- What a step does to the state and to the queue. -/
lemma step_cases {input : Input ε κ ρ} (h : step handle act s input = some s') :
    (∃ event, input = .publish event ∧ s' = { s with queue := s.queue ++ [event] })
    ∨ (∃ answers event rest, input = .dispatch answers ∧ s.queue = event :: rest
        ∧ s' = ⟨(handle answers event s.state).1, rest ++ (handle answers event s.state).2⟩)
    ∨ ∃ action, input = .act action ∧ s' = { s with state := act action s.state } := by
  rcases s with ⟨state, queue⟩
  cases input with
  | publish event => exact Or.inl ⟨event, rfl, (Option.some.inj h).symm⟩
  | dispatch answers =>
      cases queue with
      | nil => cases h
      | cons event rest =>
          exact Or.inr (Or.inl ⟨answers, event, rest, rfl, rfl, (Option.some.inj h).symm⟩)
  | act action => exact Or.inr (Or.inr ⟨action, rfl, (Option.some.inj h).symm⟩)

section Flag

variable {flag : σ → Prop} {raises : ε → Prop}

/-- The flag is up, or an event that raises it is waiting. -/
def FlagOrQueued (flag : σ → Prop) (raises : ε → Prop) (s : EventLoop σ ε) : Prop :=
  flag s.state ∨ ∃ event ∈ s.queue, raises event

/-- The step puts an event into the queue that raises the flag. -/
def Emits (handle : κ → ε → σ → σ × List ε) (raises : ε → Prop) (s : EventLoop σ ε)
    (input : Input ε κ ρ) : Prop := ∃ event ∈ emitted handle s input, raises event

/-- The events are the only thing that moves the flag. -/
structure Governs (handle : κ → ε → σ → σ × List ε) (act : ρ → σ → σ) (flag : σ → Prop)
    (raises : ε → Prop) (Quiet : ρ → Prop) : Prop where
  handled : ∀ answers event state,
    flag (handle answers event state).1 ↔ flag state ∨ raises event
  acted : ∀ action, Quiet action → ∀ state, flag (act action state) ↔ flag state

/-- The input is not an action that moves the flag. -/
def QuietInput (Quiet : ρ → Prop) : Input ε κ ρ → Prop
  | .act action => Quiet action
  | _ => True

variable {Quiet : ρ → Prop} (hgov : Governs handle act flag raises Quiet)

include hgov

lemma flag_or_queued_step {input : Input ε κ ρ} (hquiet : QuietInput Quiet input)
    (h : step handle act s input = some s') :
    FlagOrQueued flag raises s' ↔ FlagOrQueued flag raises s ∨ Emits handle raises s input := by
  rcases step_cases h with ⟨event, rfl, rfl⟩ | ⟨answers, event, rest, rfl, hqueue, rfl⟩
    | ⟨action, rfl, rfl⟩
  · simp only [FlagOrQueued, Emits, emitted, List.mem_append, or_and_right, exists_or, or_assoc]
  · simp only [FlagOrQueued, Emits, emitted, hqueue, hgov.handled, List.mem_append,
      List.mem_cons, or_and_right, exists_or, exists_eq_left, or_assoc]
  · simp only [FlagOrQueued, Emits, emitted, hgov.acted action hquiet, List.not_mem_nil,
      false_and, exists_false, or_false]

/-- **Nothing that raises the flag gets lost.** -/
theorem flag_or_queued_iff {s₀ : EventLoop σ ε} (hinit : ¬ FlagOrQueued flag raises s₀)
    (inputs : List (Input ε κ ρ)) (hquiet : ∀ input ∈ inputs, QuietInput Quiet input)
    (hrun : Machine.run (step handle act) s₀ inputs = some s) :
    FlagOrQueued flag raises s
      ↔ Machine.Sometime (step handle act) s₀ (Emits handle raises) inputs := by
  refine Machine.run_history (fun past s => (∀ input ∈ past, QuietInput Quiet input) →
    (FlagOrQueued flag raises s
      ↔ Machine.Sometime (step handle act) s₀ (Emits handle raises) past)) ?_ ?_ inputs s hrun hquiet
  · intro _
    exact iff_of_false hinit Machine.not_sometime_nil
  · intro past s i s' hpast ih hstep hquiet
    have hbefore := ih fun input hi => hquiet input (List.mem_append_left _ hi)
    have hlast : QuietInput Quiet i := hquiet i (List.mem_append_right _ (List.mem_singleton_self i))
    rw [flag_or_queued_step hgov hlast hstep, hbefore, Machine.sometime_snoc hpast]

/-- When everything has been handled the flag is up exactly when such an event was published. -/
theorem drained_iff {s₀ : EventLoop σ ε} (hinit : ¬ FlagOrQueued flag raises s₀)
    (inputs : List (Input ε κ ρ)) (hquiet : ∀ input ∈ inputs, QuietInput Quiet input)
    (hrun : Machine.run (step handle act) s₀ inputs = some s) (hdrained : s.queue = []) :
    flag s.state ↔ Machine.Sometime (step handle act) s₀ (Emits handle raises) inputs := by
  rw [← flag_or_queued_iff hgov hinit inputs hquiet hrun, FlagOrQueued, hdrained]
  simp only [List.not_mem_nil, false_and, exists_false, or_false]

end Flag

end EventLoop
