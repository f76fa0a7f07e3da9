import AegisFortress.Lib.EventLoop

/-!
# First in, first out

What goes into the queue of an event loop comes out in the same order, each event once: at any moment the
events handled so far, followed by those that wait, are the events published so far (`handled_then_waiting`).
When events of one kind are published only because an event of another kind is handled, both can be counted
against each other (`effects_eq_causes`).
-/

namespace Machine

variable {σ ι β : Type} {step : σ → ι → Option σ} {out : σ → ι → List β}

/-- What the steps of a run give out, put together. -/
def outputs (step : σ → ι → Option σ) (out : σ → ι → List β) : σ → List ι → List β
  | _, [] => []
  | s, i :: rest => out s i ++ (step s i).elim [] fun s' => outputs step out s' rest

@[simp] lemma outputs_nil (s : σ) : outputs step out s [] = [] := rfl

lemma outputs_snoc {s₀ s : σ} {past : List ι} (hrun : run step s₀ past = some s) (i : ι) :
    outputs step out s₀ (past ++ [i]) = outputs step out s₀ past ++ out s i := by
  induction past generalizing s₀ with
  | nil =>
      rw [run_nil, Option.some.injEq] at hrun
      subst hrun
      simp only [outputs, List.nil_append]
      cases step s₀ i <;> simp
  | cons j past ih =>
      rw [run_cons, Option.bind_eq_some_iff] at hrun
      obtain ⟨s', hs', hrun⟩ := hrun
      simp only [List.cons_append, outputs, hs', Option.elim_some, ih hrun, List.append_assoc]

/-- What every step does to what has been given out so far, the whole run does. -/
theorem outputs_foldl {τ : Type} (out : σ → ι → List β) (f : τ → β → τ) (view : σ → τ) {s₀ s : σ}
    {inputs : List ι}
    (hstep : ∀ s i s', step s i = some s' → view s' = (out s i).foldl f (view s))
    (hrun : run step s₀ inputs = some s) :
    view s = (outputs step out s₀ inputs).foldl f (view s₀) := by
  refine run_history (fun past s => view s = (outputs step out s₀ past).foldl f (view s₀)) rfl ?_
    inputs s hrun
  intro past s i s' hpast ih hs
  rw [outputs_snoc hpast, List.foldl_append, ← ih]
  exact hstep s i s' hs

lemma mem_outputs {b : β} {s₀ : σ} {inputs : List ι} :
    b ∈ outputs step out s₀ inputs ↔ Sometime step s₀ (fun s i => b ∈ out s i) inputs := by
  induction inputs generalizing s₀ with
  | nil => simp [not_sometime_nil]
  | cons i rest ih =>
      rw [outputs, List.mem_append]
      constructor
      · rintro (hb | hb)
        · exact ⟨[], i, rest, s₀, rfl, rfl, hb⟩
        · cases hs : step s₀ i with
          | none => simp [hs] at hb
          | some s' =>
              rw [hs, Option.elim_some, ih] at hb
              obtain ⟨past, j, tail, s, hsplit, hrun, hb⟩ := hb
              refine ⟨i :: past, j, tail, s, by rw [hsplit, List.cons_append], ?_, hb⟩
              rw [run_cons, hs]
              exact hrun
      · rintro ⟨past, j, tail, s, hsplit, hrun, hb⟩
        cases past with
        | nil =>
            cases hsplit
            cases hrun
            exact Or.inl hb
        | cons k past =>
            cases hsplit
            rw [run_cons, Option.bind_eq_some_iff] at hrun
            obtain ⟨s', hs', hrun⟩ := hrun
            rw [hs', Option.elim_some, ih]
            exact Or.inr ⟨past, j, tail, s, rfl, hrun, hb⟩

end Machine

namespace EventLoop

open Machine

variable {σ ε κ ρ τ : Type} {handle : κ → ε → σ → σ × List ε} {act : ρ → σ → σ}
  {s₀ s s' : EventLoop σ ε} {inputs : List (Input ε κ ρ)}

/-- What the step handles, with what it is answered. -/
def served (s : EventLoop σ ε) : Input ε κ ρ → List (κ × ε)
  | .dispatch answers => (s.queue.head?.map fun event => (answers, event)).toList
  | _ => []

/-- The queue after a step. -/
lemma queue_step {input : Input ε κ ρ} (h : step handle act s input = some s') :
    s.queue ++ emitted handle s input = (served s input).map Prod.snd ++ s'.queue := by
  rcases step_cases h with ⟨event, rfl, rfl⟩ | ⟨answers, event, rest, rfl, hqueue, rfl⟩
    | ⟨action, rfl, rfl⟩
  · simp [emitted, served]
  · simp [emitted, served, hqueue]
  · simp [emitted, served]

/-- **Nothing is lost, nothing comes twice, nothing overtakes.** -/
theorem handled_then_waiting (hrun : run (step handle act) s₀ inputs = some s) :
    s₀.queue ++ outputs (step handle act) (emitted handle) s₀ inputs
      = (outputs (step handle act) served s₀ inputs).map Prod.snd ++ s.queue := by
  refine run_history (fun past s => s₀.queue ++ outputs (step handle act) (emitted handle) s₀ past
    = (outputs (step handle act) served s₀ past).map Prod.snd ++ s.queue) ?_ ?_ inputs s hrun
  · simp
  · intro past s i s' hpast ih hs
    rw [outputs_snoc hpast, outputs_snoc hpast, ← List.append_assoc, ih, List.map_append,
      List.append_assoc, queue_step hs, List.append_assoc]

/-- The steps of the run publish events of a kind, as far as `kind` shows it, when they handle what causes
them, and not otherwise. -/
def Caused (handle : κ → ε → σ → σ × List ε) (kind : ε → Option τ) (cause : ε → List τ)
    (s : EventLoop σ ε) (input : Input ε κ ρ) : Prop :=
  (emitted handle s input).filterMap kind = (served s input).flatMap fun e => cause e.2

/-- **The effects handled so far and those that wait are what the causes handled so far call for.** -/
theorem effects_eq_causes {kind : ε → Option τ} {cause : ε → List τ} (hinit : s₀.queue.filterMap kind = [])
    (hcaused : Along (step handle act) s₀ (Caused handle kind cause) inputs)
    (hrun : run (step handle act) s₀ inputs = some s) :
    (outputs (step handle act) served s₀ inputs).filterMap (fun e => kind e.2) ++ s.queue.filterMap kind
      = (outputs (step handle act) served s₀ inputs).flatMap fun e => cause e.2 := by
  have hemitted : (outputs (step handle act) (emitted handle) s₀ inputs).filterMap kind
      = (outputs (step handle act) served s₀ inputs).flatMap fun e => cause e.2 := by
    refine run_history (fun past _ => Along (step handle act) s₀ (Caused handle kind cause) past →
      (outputs (step handle act) (emitted handle) s₀ past).filterMap kind
        = (outputs (step handle act) served s₀ past).flatMap fun e => cause e.2) ?_ ?_ inputs s hrun hcaused
    · intro _
      rfl
    · intro past s i s' hpast ih hs halong
      rw [outputs_snoc hpast, outputs_snoc hpast, List.filterMap_append, List.flatMap_append,
        ih halong.of_append]
      congr 1
      exact halong.last hpast
  have hqueue := congrArg (List.filterMap kind) (handled_then_waiting hrun)
  rw [List.filterMap_append, List.filterMap_append, hinit, hemitted, List.nil_append,
    List.filterMap_map] at hqueue
  exact hqueue.symm

/-- A flag that events raise is up when it was at the start, or when such an event has been handled. -/
theorem flag_iff_served {flag : σ → Prop} {raises : ε → Prop} {Quiet : ρ → Prop}
    (hgov : Governs handle act flag raises Quiet) (hquiet : ∀ input ∈ inputs, QuietInput Quiet input)
    (hrun : run (step handle act) s₀ inputs = some s) :
    flag s.state ↔ flag s₀.state ∨ ∃ e ∈ outputs (step handle act) served s₀ inputs, raises e.2 := by
  refine run_history (fun past s => (∀ input ∈ past, QuietInput Quiet input) → (flag s.state
    ↔ flag s₀.state ∨ ∃ e ∈ outputs (step handle act) served s₀ past, raises e.2)) ?_ ?_ inputs s hrun hquiet
  · simp
  · intro past s i s' hpast ih hs hquiet
    have hbefore := ih fun input hi => hquiet input (List.mem_append_left _ hi)
    have hlast := hquiet i (List.mem_append_right _ (List.mem_singleton_self i))
    simp only [outputs_snoc hpast, List.mem_append, or_and_right, exists_or, ← or_assoc, ← hbefore]
    rcases step_cases hs with ⟨event, rfl, rfl⟩ | ⟨answers, event, rest, rfl, hqueue, rfl⟩
      | ⟨action, rfl, rfl⟩
    · simp [served]
    · simp [served, hqueue, hgov.handled]
    · simp [served, hgov.acted action hlast]

end EventLoop
