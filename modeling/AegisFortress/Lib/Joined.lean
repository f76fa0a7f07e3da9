import Mathlib.Data.List.TakeWhile
import Mathlib.Data.String.Basic

/-!
# Texts joined by a separator

Two texts with a separator between them.  They can be told apart again when the separator does not occur in
the first of them (`first_inj`), or when it does not occur in the last (`last_inj`).
-/

namespace Joined

variable {τ : Type} {c : τ} {a a' b b' : List τ}

/-- What comes before the first separator. -/
lemma append_cons_inj [DecidableEq τ] (ha : c ∉ a) (ha' : c ∉ a') (h : a ++ c :: b = a' ++ c :: b') :
    a = a' ∧ b = b' := by
  have hbefore : ∀ {before rest : List τ}, c ∉ before → (before ++ c :: rest).takeWhile (· ≠ c) = before := by
    intro before rest hbefore
    have hother : ∀ x ∈ before, decide (x ≠ c) = true := by
      intro x hx
      exact decide_eq_true fun heq => hbefore (heq ▸ hx)
    rw [List.takeWhile_append_of_pos hother, List.takeWhile_cons_of_neg (by simp), List.append_nil]
  have hfirst : a = a' := by
    rw [← hbefore ha, h, hbefore ha']
  rw [hfirst, List.append_cancel_left_eq, List.cons.injEq] at h
  exact ⟨hfirst, h.2⟩

variable {sep : String} {char : Char} {first first' last last' : String}

/-- The separator is not in the first text. -/
theorem first_inj (hsep : sep.toList = [char]) (h₁ : char ∉ first.toList) (h₂ : char ∉ first'.toList) :
    first ++ sep ++ last = first' ++ sep ++ last' ↔ first = first' ∧ last = last' := by
  constructor
  · intro h
    have hlist := congrArg String.toList h
    simp only [String.toList_append, hsep, List.append_assoc, List.singleton_append] at hlist
    obtain ⟨hfirst, hlast⟩ := append_cons_inj h₁ h₂ hlist
    exact ⟨String.toList_inj.mp hfirst, String.toList_inj.mp hlast⟩
  · rintro ⟨rfl, rfl⟩
    rfl

/-- The separator is not in the last text. -/
theorem last_inj (hsep : sep.toList = [char]) (h₁ : char ∉ last.toList) (h₂ : char ∉ last'.toList) :
    first ++ sep ++ last = first' ++ sep ++ last' ↔ first = first' ∧ last = last' := by
  constructor
  · intro h
    have hlist := congrArg (fun s : String => s.toList.reverse) h
    simp only [String.toList_append, hsep, List.reverse_append, List.reverse_singleton,
      List.singleton_append] at hlist
    obtain ⟨hlast, hfirst⟩ := append_cons_inj (by simpa using h₁) (by simpa using h₂) hlist
    exact ⟨String.toList_inj.mp (List.reverse_injective hfirst),
      String.toList_inj.mp (List.reverse_injective hlast)⟩
  · rintro ⟨rfl, rfl⟩
    rfl

end Joined
