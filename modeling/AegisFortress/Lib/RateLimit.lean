import Mathlib.Algebra.Order.Ring.Defs
import Mathlib.Algebra.Order.Field.Basic
import Mathlib.Data.Nat.Cast.Order.Ring
import Mathlib.Tactic.Linarith

/-!
# Token buckets

A bucket holds tokens up to a capacity and fills at a rate; every event takes one out.  `Metered`
couples what has been taken so far with what is left, and is kept by refilling
(`Metered.refill`, `Metered.fill`) and by taking a token that is there (`Metered.draw`).  It contains the bound a
rate limit promises: in any window of length `T` there are at most `capacity + rate * T` events
(`Limited`).
-/

namespace RateLimit

variable {K : Type} [LinearOrder K]

/-- The events at or after this time. -/
def since (times : List K) (a : K) : ℕ := times.countP fun t => a ≤ t

/-- The events of a window, its ends included. -/
def within (times : List K) (a b : K) : ℕ := times.countP fun t => a ≤ t ∧ t ≤ b

lemma within_le_since (times : List K) (a b : K) : within times a b ≤ since times a :=
  List.countP_mono_left fun _ _ h => by simpa using (of_decide_eq_true h).1

lemma since_eq_zero {times : List K} {a : K} (h : ∀ t ∈ times, t < a) : since times a = 0 := by
  rw [since, List.countP_eq_zero]
  intro t ht
  simpa using h t ht

lemma since_snoc (times : List K) {a t : K} (h : a ≤ t) :
    since (times ++ [t]) a = since times a + 1 := by
  rw [since, List.countP_append, List.countP_singleton, if_pos (by simpa using h), since]

variable [Field K]

/-- No window has more events than a full bucket and what flows into it. -/
def Limited (capacity rate : K) (times : List K) : Prop :=
  ∀ a T, 0 ≤ T → (within times a (a + T) : K) ≤ capacity + rate * T

/-- A bucket with this many tokens now, from which these events have been drawn. -/
structure Metered (capacity rate : K) (times : List K) (tokens now : K) : Prop where
  past : ∀ t ∈ times, t ≤ now
  nonneg : 0 ≤ tokens
  level : ∀ a, a ≤ now → (since times a : K) + tokens ≤ capacity + rate * (now - a)
  limited : Limited capacity rate times

variable [IsStrictOrderedRing K] {capacity rate tokens now : K} {times : List K}

/-- A full bucket from which nothing has been drawn. -/
lemma metered_full (hcapacity : 0 ≤ capacity) (hrate : 0 ≤ rate) :
    Metered capacity rate [] capacity now := by
  refine ⟨fun t ht => absurd ht List.not_mem_nil, hcapacity, fun a ha => ?_, fun a T hT => ?_⟩
  · have hflow : 0 ≤ rate * (now - a) := mul_nonneg hrate (sub_nonneg.mpr ha)
    simp [since, hflow]
  · have hflow : 0 ≤ rate * T := mul_nonneg hrate hT
    simp only [within, List.countP_nil, Nat.cast_zero]
    exact add_nonneg hcapacity hflow

/-- Time passes, and the bucket fills. -/
lemma Metered.refill (h : Metered capacity rate times tokens now) (hrate : 0 ≤ rate)
    {tokens' now' : K} (hnow : now ≤ now') (hnonneg : 0 ≤ tokens') (hfull : tokens' ≤ capacity)
    (hflow : tokens' ≤ tokens + rate * (now' - now)) :
    Metered capacity rate times tokens' now' := by
  refine ⟨fun t ht => (h.past t ht).trans hnow, hnonneg, fun a ha => ?_, h.limited⟩
  rcases le_or_gt a now with hbefore | hafter
  · have hlevel := h.level a hbefore
    have hsplit : rate * (now' - now) + rate * (now - a) = rate * (now' - a) := by
      rw [← mul_add, sub_add_sub_cancel]
    linarith
  · have hnone : since times a = 0 := since_eq_zero fun t ht => (h.past t ht).trans_lt hafter
    have hlater : 0 ≤ rate * (now' - a) := mul_nonneg hrate (sub_nonneg.mpr ha)
    rw [hnone, Nat.cast_zero]
    linarith

/-- The bucket is filled up to its capacity. -/
lemma Metered.fill (h : Metered capacity rate times tokens now) (hrate : 0 ≤ rate)
    (hcapacity : 0 ≤ capacity) {now' : K} (hnow : now ≤ now') :
    Metered capacity rate times (min capacity (tokens + (now' - now) * rate)) now' := by
  have hflow : 0 ≤ (now' - now) * rate := mul_nonneg (sub_nonneg.mpr hnow) hrate
  refine h.refill hrate hnow ?_ (min_le_left _ _) ?_
  · exact le_min hcapacity (add_nonneg h.nonneg hflow)
  · rw [mul_comm rate]
    exact min_le_right _ _

/-- A token that is there is taken out. -/
lemma Metered.draw (h : Metered capacity rate times tokens now) (hrate : 0 ≤ rate)
    (htoken : 1 ≤ tokens) : Metered capacity rate (times ++ [now]) (tokens - 1) now := by
  refine ⟨fun t ht => ?_, sub_nonneg.mpr htoken, fun a ha => ?_, fun a T hT => ?_⟩
  · rcases List.mem_append.mp ht with ht | ht
    · exact h.past t ht
    · exact (List.mem_singleton.mp ht).le
  · have hlevel := h.level a ha
    rw [since_snoc times ha]
    push_cast
    linarith
  · by_cases hin : a ≤ now ∧ now ≤ a + T
    · have hlevel := h.level a hin.1
      have hle : (within times a (a + T) : K) ≤ since times a :=
        Nat.cast_le.mpr (within_le_since times a (a + T))
      have hflow : rate * (now - a) ≤ rate * T :=
        mul_le_mul_of_nonneg_left (by linarith [hin.2]) hrate
      have hsnoc : within (times ++ [now]) a (a + T) = within times a (a + T) + 1 := by
        rw [within, List.countP_append, List.countP_singleton, if_pos (by simpa using hin), within]
      rw [hsnoc]
      push_cast
      linarith
    · have hsnoc : within (times ++ [now]) a (a + T) = within times a (a + T) := by
        rw [within, List.countP_append, List.countP_singleton, if_neg (by simpa using hin), within,
          Nat.add_zero]
      rw [hsnoc]
      exact h.limited a T hT

end RateLimit
