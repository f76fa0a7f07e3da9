import AegisFortress.Lib.History
import Mathlib.Data.List.Induction

/-!
# Runs of a partial step function

A machine is a step function `σ → ι → Option σ`; a run feeds it a list of inputs and fails as
soon as one step fails.  `run_history` is the induction every run theorem below uses: a property
of (inputs so far, state) that holds at the start and survives one step holds at the end.

`Along` and `Sometime` speak about the steps of a run, each seen with the state it is taken in.
-/

namespace Machine

variable {σ ι : Type} {step : σ → ι → Option σ}

/-- Feed the inputs to the machine, one after the other. -/
def run (step : σ → ι → Option σ) (s : σ) (inputs : List ι) : Option σ := inputs.foldlM step s

@[simp] lemma run_nil (s : σ) : run step s [] = some s := rfl

lemma run_cons (s : σ) (i : ι) (rest : List ι) :
    run step s (i :: rest) = (step s i).bind fun s' => run step s' rest := rfl

lemma run_append (s : σ) (xs ys : List ι) :
    run step s (xs ++ ys) = (run step s xs).bind fun s' => run step s' ys := by
  simp only [run, List.foldlM_append]
  rfl

lemma run_snoc (s : σ) (xs : List ι) (i : ι) :
    run step s (xs ++ [i]) = (run step s xs).bind fun s' => step s' i := by
  rw [run_append]
  congr 1
  funext s'
  rw [run_cons]
  cases step s' i <;> rfl

/-- A run and the step after it, from what is read off the states before and after that step. -/
lemma run_then {β : Type} {s₀ : σ} {inputs : List ι} {i : ι} {read : σ → σ → β} {seen : β}
    (h : (run step s₀ inputs).bind (fun s => (step s i).map (read s)) = some seen) :
    ∃ s s', run step s₀ inputs = some s ∧ step s i = some s' ∧ read s s' = seen := by
  obtain ⟨s, hrun, hs⟩ := Option.bind_eq_some_iff.mp h
  obtain ⟨s', hstep, hseen⟩ := Option.map_eq_some_iff.mp hs
  exact ⟨s, s', hrun, hstep, hseen⟩

/-- **Induction along a run.**  The property may speak about the inputs consumed so far. -/
theorem run_history (Inv : List ι → σ → Prop) {s₀ : σ} (hinit : Inv [] s₀)
    (hstep : ∀ past s i s', run step s₀ past = some s → Inv past s → step s i = some s' →
      Inv (past ++ [i]) s') :
    ∀ (inputs : List ι) (s : σ), run step s₀ inputs = some s → Inv inputs s := by
  intro inputs
  induction inputs using List.reverseRecOn with
  | nil =>
      intro s h
      rw [run_nil, Option.some.injEq] at h
      exact h ▸ hinit
  | append_singleton past i ih =>
      intro s' h
      rw [run_snoc, Option.bind_eq_some_iff] at h
      obtain ⟨s, hs, hi⟩ := h
      exact hstep past s i s' hs (ih s hs) hi

/-- An invariant of the step function is an invariant of every run. -/
theorem run_invariant (Inv : σ → Prop) {s₀ : σ} (hinit : Inv s₀)
    (hstep : ∀ s i s', Inv s → step s i = some s' → Inv s')
    {inputs : List ι} {s : σ} (h : run step s₀ inputs = some s) : Inv s :=
  run_history (fun _ s => Inv s) hinit (fun _ s i s' _ hs hi => hstep s i s' hs hi) inputs s h

/-! ## The steps of a run -/

variable {s₀ : σ} {P : σ → ι → Prop} {inputs past rest : List ι} {s : σ} {i : ι}

/-- Every step of the run is such that `P`. -/
def Along (step : σ → ι → Option σ) (s₀ : σ) (P : σ → ι → Prop) (inputs : List ι) : Prop :=
  ∀ past i rest s, inputs = past ++ i :: rest → run step s₀ past = some s → P s i

/-- Some step of the run is such that `P`. -/
def Sometime (step : σ → ι → Option σ) (s₀ : σ) (P : σ → ι → Prop) (inputs : List ι) : Prop :=
  ∃ past i rest s, inputs = past ++ i :: rest ∧ run step s₀ past = some s ∧ P s i

lemma Along.of_append (h : Along step s₀ P (inputs ++ rest)) : Along step s₀ P inputs := by
  rintro past i rest' s rfl hs
  refine h past i (rest' ++ rest) s ?_ hs
  rw [List.append_assoc, List.cons_append]

lemma Along.last (h : Along step s₀ P (past ++ [i])) (hs : run step s₀ past = some s) : P s i :=
  h past i [] s rfl hs

/-- An invariant that the steps of this run keep holds at its end. -/
theorem Along.invariant (h : Along step s₀ P inputs) (Inv : σ → Prop) (hinit : Inv s₀)
    (hstep : ∀ s i s', Inv s → P s i → step s i = some s' → Inv s')
    (hs : run step s₀ inputs = some s) : Inv s := by
  refine run_history (fun past s => Along step s₀ P past → Inv s) (fun _ => hinit) ?_ inputs s hs h
  intro past s i s' hrun ih hi halong
  exact hstep s i s' (ih halong.of_append) (halong.last hrun) hi

/-- What an invariant says of the steps of this run. -/
theorem Along.of_invariant {Q : σ → ι → Prop} (h : Along step s₀ P inputs) (Inv : σ → Prop)
    (hinit : Inv s₀) (hstep : ∀ s i s', Inv s → P s i → step s i = some s' → Inv s')
    (himp : ∀ s i, Inv s → P s i → Q s i) : Along step s₀ Q inputs := by
  rintro past i rest s rfl hrun
  exact himp s i (Along.invariant h.of_append Inv hinit hstep hrun) (h past i rest s rfl hrun)

lemma Along.and {Q : σ → ι → Prop} (h : Along step s₀ P inputs) (h' : Along step s₀ Q inputs) :
    Along step s₀ (fun s i => P s i ∧ Q s i) inputs :=
  fun past i rest s hsplit hrun => ⟨h past i rest s hsplit hrun, h' past i rest s hsplit hrun⟩

lemma along_nil : Along step s₀ P [] := by
  intro past i rest s hsplit
  cases past <;> cases hsplit

lemma along_cons : Along step s₀ P (i :: rest)
    ↔ P s₀ i ∧ ∀ s, step s₀ i = some s → Along step s P rest := by
  constructor
  · intro h
    refine ⟨h [] i rest s₀ rfl rfl, fun s hs past j tail s' hsplit hrun => ?_⟩
    refine h (i :: past) j tail s' (by rw [hsplit, List.cons_append]) ?_
    rw [run_cons, hs]
    exact hrun
  · rintro ⟨hfirst, hrest⟩ past j tail s hsplit hrun
    cases past with
    | nil =>
        cases hsplit
        cases hrun
        exact hfirst
    | cons k past =>
        cases hsplit
        rw [run_cons, Option.bind_eq_some_iff] at hrun
        obtain ⟨s', hs', hrun⟩ := hrun
        exact hrest s' hs' past j tail s rfl hrun

/-- Check every step of a run. -/
def checkAlong (step : σ → ι → Option σ) (check : σ → ι → Bool) : σ → List ι → Bool
  | _, [] => true
  | s, i :: rest => check s i && (step s i).elim true fun s' => checkAlong step check s' rest

/-- A check that decides enough, passed by every step. -/
lemma along_of_check (check : σ → ι → Bool) (hcheck : ∀ s i, check s i = true → P s i) :
    ∀ {inputs : List ι} {s₀ : σ}, checkAlong step check s₀ inputs = true → Along step s₀ P inputs
  | [], _, _ => along_nil
  | i :: rest, s₀, h => by
      rw [checkAlong, Bool.and_eq_true] at h
      refine along_cons.mpr ⟨hcheck s₀ i h.1, fun s hs => along_of_check check hcheck ?_⟩
      rw [hs] at h
      exact h.2

/-- A property that can be decided is its own check. -/
lemma along_of_decide [∀ s i, Decidable (P s i)]
    (h : checkAlong step (fun s i => decide (P s i)) s₀ inputs = true) : Along step s₀ P inputs :=
  along_of_check _ (fun _ _ h => of_decide_eq_true h) h

lemma not_sometime_nil : ¬ Sometime step s₀ P [] := by
  rintro ⟨past, i, rest, s, hnil, -, -⟩
  cases past <;> cases hnil

lemma sometime_snoc (hs : run step s₀ past = some s) :
    Sometime step s₀ P (past ++ [i]) ↔ Sometime step s₀ P past ∨ P s i := by
  constructor
  · rintro ⟨past', i', rest, s', heq, hs', hp⟩
    rcases History.snoc_eq_split.mp heq with ⟨rfl, rfl, -⟩ | ⟨rest', hpast, -⟩
    · rw [hs, Option.some.injEq] at hs'
      exact Or.inr (hs' ▸ hp)
    · exact Or.inl ⟨past', i', rest', s', hpast, hs', hp⟩
  · rintro (⟨past', i', rest, s', rfl, hs', hp⟩ | hp)
    · refine ⟨past', i', rest ++ [i], s', ?_, hs', hp⟩
      rw [List.append_assoc, List.cons_append]
    · exact ⟨past, i, [], s, rfl, hs, hp⟩

lemma Sometime.mono {Q : σ → ι → Prop} (himp : ∀ i ∈ inputs, ∀ s, P s i → Q s i)
    (h : Sometime step s₀ P inputs) : Sometime step s₀ Q inputs := by
  obtain ⟨past, i, rest, s, hsplit, hs, hp⟩ := h
  have hmem : i ∈ inputs := hsplit ▸ List.mem_append_cons_self
  exact ⟨past, i, rest, s, hsplit, hs, himp i hmem s hp⟩

end Machine
