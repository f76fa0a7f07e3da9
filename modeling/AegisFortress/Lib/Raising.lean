import Mathlib.Init

/-!
# Computations that change a state and may raise

`EStateM ε σ` with its default instance is the imperative fragment of the code: a statement reads
and writes the state, may raise, and what it wrote before it raised stays written.

`Leads x s Q E` says where `x` leads from `s`: to a return satisfying `Q`, or to an exception
satisfying `E`.  Each way to build a program has one rule that computes it, tagged `@[simp]`;
`Leads.mono` cites the specification of a callee.
-/

namespace Raising

variable {ε σ α β : Type}

/-- From `s`, the program returns with `Q` or raises with `E`. -/
def Leads (x : EStateM ε σ α) (s : σ) (Q : α → σ → Prop) (E : ε → σ → Prop) : Prop :=
  match x.run s with
  | .ok a s' => Q a s'
  | .error e s' => E e s'

/-- The state a program leaves, whether it returned or raised. -/
def final : EStateM.Result ε σ α → σ
  | .ok _ s => s
  | .error _ s => s

/-- Raise the exception when the condition holds. -/
def raiseIf (c : Prop) [Decidable c] (e : ε) : EStateM ε σ Unit := if c then throw e else pure ()

/-- A computation that may raise and touches no state. -/
def lift : Except ε α → EStateM ε σ α
  | .ok a => pure a
  | .error e => throw e

/-- Run a program on a part of the state. -/
def zoom {τ : Type} (part : σ → τ) (put : σ → τ → σ) (x : EStateM ε τ α) : EStateM ε σ α := fun s =>
  match x.run (part s) with
  | .ok a t => .ok a (put s t)
  | .error e t => .error e (put s t)

section Rules

variable {s : σ} {Q : α → σ → Prop} {E : ε → σ → Prop}

@[simp] lemma leads_pure {a : α} : Leads (pure a : EStateM ε σ α) s Q E ↔ Q a s := Iff.rfl

@[simp] lemma leads_throw {e : ε} : Leads (throw e : EStateM ε σ α) s Q E ↔ E e s := Iff.rfl

@[simp] lemma leads_get {Q : σ → σ → Prop} : Leads (get : EStateM ε σ σ) s Q E ↔ Q s s := Iff.rfl

@[simp] lemma leads_modify {f : σ → σ} {Q : Unit → σ → Prop} :
    Leads (modify f : EStateM ε σ Unit) s Q E ↔ Q () (f s) := Iff.rfl

@[simp] lemma leads_bind {x : EStateM ε σ β} {f : β → EStateM ε σ α} :
    Leads (x >>= f) s Q E ↔ Leads x s (fun b s' => Leads (f b) s' Q E) E := by
  simp only [Leads, EStateM.run_bind]
  cases x.run s <;> rfl

/-- What the program wrote before it raised is there for the handler. -/
@[simp] lemma leads_tryCatch {x : EStateM ε σ α} {handler : ε → EStateM ε σ α} :
    Leads (tryCatch x handler) s Q E ↔ Leads x s Q (fun e s' => Leads (handler e) s' Q E) := by
  have hrun : (tryCatch x handler).run s
      = match x s with
        | .ok a s' => .ok a s'
        | .error e s' => (handler e).run s' := by
    change EStateM.tryCatch x handler s = _
    delta EStateM.tryCatch
    cases x s <;> rfl
  rw [Leads, Leads, hrun]
  change _ ↔ match x s with
    | .ok a s' => Q a s'
    | .error e s' => Leads (handler e) s' Q E
  cases x s <;> rfl

@[simp] lemma leads_ite {c : Prop} [Decidable c] {x y : EStateM ε σ α} :
    Leads (if c then x else y) s Q E ↔ (c → Leads x s Q E) ∧ (¬ c → Leads y s Q E) := by
  by_cases h : c <;> simp [h]

@[simp] lemma leads_raiseIf {c : Prop} [Decidable c] {e : ε} {Q : Unit → σ → Prop} :
    Leads (raiseIf c e : EStateM ε σ Unit) s Q E ↔ (c → E e s) ∧ (¬ c → Q () s) := by
  rw [raiseIf, leads_ite, leads_throw, leads_pure]

@[simp] lemma leads_lift {x : Except ε α} :
    Leads (lift x) s Q E ↔ (∀ a, x = .ok a → Q a s) ∧ ∀ e, x = .error e → E e s := by
  cases x <;> simp [lift]

@[simp] lemma leads_zoom {τ : Type} {part : σ → τ} {put : σ → τ → σ} {x : EStateM ε τ α} :
    Leads (zoom part put x) s Q E
      ↔ Leads x (part s) (fun a t => Q a (put s t)) (fun e t => E e (put s t)) := by
  simp only [Leads, zoom, EStateM.run]
  cases x (part s) <;> rfl

end Rules

/-- The strongest thing to say about a program is what it does. -/
lemma leads_run (x : EStateM ε σ α) (s : σ) :
    Leads x s (fun a t => x.run s = .ok a t) (fun e t => x.run s = .error e t) := by
  rw [Leads]
  cases x.run s <;> rfl

/-- Consequence: a specification implies every weaker one. -/
lemma Leads.mono {x : EStateM ε σ α} {s : σ} {Q Q' : α → σ → Prop} {E E' : ε → σ → Prop}
    (h : Leads x s Q E) (hq : ∀ a s', Q a s' → Q' a s') (he : ∀ e s', E e s' → E' e s') :
    Leads x s Q' E' := by
  rw [Leads] at h ⊢
  cases hx : x.run s with
  | ok a s' =>
      rw [hx] at h
      exact hq a s' h
  | error e s' =>
      rw [hx] at h
      exact he e s' h

/-- What holds of the state after a return and after an exception holds of the state left. -/
lemma Leads.final {x : EStateM ε σ α} {s : σ} {P : σ → Prop}
    (h : Leads x s (fun _ => P) (fun _ => P)) : P (final (x.run s)) := by
  rw [Leads] at h
  cases hx : x.run s with
  | ok a s' =>
      rw [hx] at h
      exact h
  | error e s' =>
      rw [hx] at h
      exact h

/-- Two specifications of one program hold together. -/
lemma Leads.and {x : EStateM ε σ α} {s : σ} {Q Q' : α → σ → Prop} {E E' : ε → σ → Prop}
    (h : Leads x s Q E) (h' : Leads x s Q' E') :
    Leads x s (fun a s' => Q a s' ∧ Q' a s') (fun e s' => E e s' ∧ E' e s') := by
  rw [Leads] at h h' ⊢
  cases hx : x.run s with
  | ok a s' =>
      rw [hx] at h h'
      exact ⟨h, h'⟩
  | error e s' =>
      rw [hx] at h h'
      exact ⟨h, h'⟩

/-- A property of the outcome, split into its two kinds. -/
lemma leads_outcome {x : EStateM ε σ α} {s : σ} {P : EStateM.Result ε σ α → Prop} :
    Leads x s (fun a s' => P (.ok a s')) (fun e s' => P (.error e s')) ↔ P (x.run s) := by
  rw [Leads]
  cases x.run s <;> rfl

lemma Leads.ok {x : EStateM ε σ α} {s s' : σ} {Q : α → σ → Prop} {E : ε → σ → Prop} {a : α}
    (h : Leads x s Q E) (hx : x.run s = .ok a s') : Q a s' := by
  rw [Leads, hx] at h
  exact h

/-- A program that cannot raise returns. -/
lemma Leads.returns {x : EStateM ε σ α} {s : σ} {Q : α → σ → Prop}
    (h : Leads x s Q (fun _ _ => False)) : ∃ a s', x.run s = .ok a s' ∧ Q a s' := by
  rw [Leads] at h
  cases hx : x.run s with
  | ok a s' =>
      rw [hx] at h
      exact ⟨a, s', rfl, h⟩
  | error e s' =>
      rw [hx] at h
      exact h.elim

lemma Leads.error {x : EStateM ε σ α} {s s' : σ} {Q : α → σ → Prop} {E : ε → σ → Prop} {e : ε}
    (h : Leads x s Q E) (hx : x.run s = .error e s') : E e s' := by
  rw [Leads, hx] at h
  exact h

-- A specification is cited, never unfolded into the run of the program.
attribute [irreducible] Leads

end Raising
