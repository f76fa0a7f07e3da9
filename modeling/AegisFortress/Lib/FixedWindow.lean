import AegisFortress.Lib.RateLimit
import Mathlib.Algebra.Order.Group.Defs
import Mathlib.Tactic.Linarith

/-!
# Counting in fixed windows

A counter that starts again once its window is over: an event is recorded while there are fewer than `limit`
in the window, and the next window begins when more than its length `T` has passed.  `Windowed` couples the
events with the windows, and is kept by opening a window (`Windowed.reopen`) and by an event
(`Windowed.record`).

From the start of a window on there are at most `limit` events within `T`.  A window that slides can meet
the events of two: `limit` of each, or one less if every window begins with an event (`free` is then one).
-/

namespace FixedWindow

open RateLimit

section Within

variable {K : Type} [LinearOrder K] {times more : List K} {a b : K}

lemma within_append (times more : List K) (a b : K) :
    within (times ++ more) a b = within times a b + within more a b := List.countP_append

lemma within_le_length (times : List K) (a b : K) : within times a b ≤ times.length :=
  List.countP_le_length

lemma within_eq_zero (h : ∀ t ∈ times, a ≤ t → b < t) : within times a b = 0 := by
  rw [within, List.countP_eq_zero]
  intro t ht hin
  obtain ⟨hfrom, hto⟩ := of_decide_eq_true hin
  exact hto.not_gt (h t ht hfrom)

end Within

variable {K : Type} [AddCommGroup K] [LinearOrder K]

/-- The events of the windows that are over, those of the current one, and where the windows start. -/
structure Windowed (limit free : ℕ) (T : K) (starts earlier current : List K) (start : K) : Prop where
  room : current.length ≤ limit
  opening : current = [] ∨ current.countP (start < ·) + free ≤ current.length
  inside : ∀ t ∈ current, t ≤ start + T
  -- the first window may have been open before it starts
  begun : (earlier = [] ∧ starts = [start]) ∨ ∀ t ∈ current, start ≤ t
  closed : ∀ t ∈ earlier, t < start
  carried : earlier.countP (start ≤ · + T) ≤ limit - free
  fromStart : ∀ s ∈ starts, (s = start ∨ s + T < start) ∧ within (earlier ++ current) s (s + T) ≤ limit
  sliding : ∀ a, within (earlier ++ current) a (a + T) ≤ limit + (limit - free)

variable [IsOrderedAddMonoid K] {limit free : ℕ} {T start now : K} {starts earlier current : List K}

omit [IsOrderedAddMonoid K] in
lemma windowed_new (start : K) : Windowed limit free T [start] [] [] start where
  room := Nat.zero_le _
  opening := .inl rfl
  inside := fun _ h => absurd h List.not_mem_nil
  begun := .inl ⟨rfl, rfl⟩
  closed := fun _ h => absurd h List.not_mem_nil
  carried := Nat.zero_le _
  fromStart := fun _ h => ⟨.inl (List.mem_singleton.mp h), Nat.zero_le _⟩
  sliding := fun _ => Nat.zero_le _

/-- What is past when a window is over. -/
lemma Windowed.past (h : Windowed limit free T starts earlier current start) (hT : 0 ≤ T)
    (hover : start + T < now) : ∀ t ∈ earlier ++ current, t < now := by
  intro t ht
  rcases List.mem_append.mp ht with ht | ht
  · exact (h.closed t ht).trans ((le_add_of_nonneg_right hT).trans_lt hover)
  · exact (h.inside t ht).trans_lt hover

/-- Of the events that are past, few are so recent that the next window can be seen together with them. -/
lemma Windowed.recent (h : Windowed limit free T starts earlier current start)
    (hover : start + T < now) : (earlier ++ current).countP (now ≤ · + T) ≤ limit - free := by
  have hnone : earlier.countP (now ≤ · + T) = 0 := by
    rw [List.countP_eq_zero]
    intro t ht hrecent
    have hlt : t + T < now := (add_lt_add_left (h.closed t ht) T).trans hover
    exact hlt.not_ge (of_decide_eq_true hrecent)
  have hfew : current.countP (now ≤ · + T) ≤ current.countP (start < ·) := by
    refine List.countP_mono_left fun t _ hrecent => ?_
    have hlt : start + T < t + T := hover.trans_le (of_decide_eq_true hrecent)
    simpa using lt_of_add_lt_add_right hlt
  have hroom := h.room
  rw [List.countP_append, hnone, Nat.zero_add]
  rcases h.opening with rfl | hopening
  · exact Nat.zero_le _
  · omega

/-- **A window is over**, and the next one begins. -/
lemma Windowed.reopen (h : Windowed limit free T starts earlier current start) (hT : 0 ≤ T)
    (hover : start + T < now) :
    Windowed limit free T (starts ++ [now]) (earlier ++ current) [] now where
  room := Nat.zero_le _
  opening := .inl rfl
  inside := fun _ hmem => absurd hmem List.not_mem_nil
  begun := .inr fun _ hmem => absurd hmem List.not_mem_nil
  closed := h.past hT hover
  carried := h.recent hover
  fromStart := by
    intro s hs
    rw [List.append_nil]
    rcases List.mem_append.mp hs with hs | hs
    · obtain ⟨hstart, hfew⟩ := h.fromStart s hs
      refine ⟨.inr ?_, hfew⟩
      rcases hstart with rfl | hstart
      · exact hover
      · exact hstart.trans ((le_add_of_nonneg_right hT).trans_lt hover)
    · rw [List.mem_singleton.mp hs]
      have hnone : within (earlier ++ current) now (now + T) = 0 :=
        within_eq_zero fun t ht hle => absurd (h.past hT hover t ht) hle.not_gt
      exact ⟨.inl rfl, hnone ▸ Nat.zero_le _⟩
  sliding := by
    rw [List.append_nil]
    exact h.sliding

/-- **An event** is recorded in a window that has room for it. -/
lemma Windowed.record (h : Windowed limit free T starts earlier current start)
    (hin : now ≤ start + T) (hbegun : (earlier = [] ∧ starts = [start]) ∨ start ≤ now)
    (hroom : current.length < limit) (hfirst : current = [] → free = 0 ∨ (free ≤ 1 ∧ now = start)) :
    Windowed limit free T starts earlier (current ++ [now]) start := by
  have hlength : (current ++ [now]).length ≤ limit := by
    rw [List.length_append, List.length_singleton]
    exact hroom
  have hbegun' : (earlier = [] ∧ starts = [start]) ∨ (start ≤ now ∧ ∀ t ∈ current, start ≤ t) := by
    rcases hbegun with hfirst | hnow
    · exact .inl hfirst
    · exact h.begun.imp id fun hcurrent => ⟨hnow, hcurrent⟩
  refine ⟨hlength, .inr ?_, ?_, ?_, h.closed, h.carried, ?_, ?_⟩
  · rw [List.countP_append, List.countP_singleton, List.length_append, List.length_singleton]
    rcases h.opening with rfl | hopening
    · rcases hfirst rfl with rfl | ⟨hfree, rfl⟩
      · split_ifs <;> simp
      · simpa using hfree
    · split_ifs <;> omega
  · intro t ht
    rcases List.mem_append.mp ht with ht | ht
    · exact h.inside t ht
    · rw [List.mem_singleton.mp ht]
      exact hin
  · refine hbegun'.imp id fun ⟨hnow, hcurrent⟩ t ht => ?_
    rcases List.mem_append.mp ht with ht | ht
    · exact hcurrent t ht
    · rw [List.mem_singleton.mp ht]
      exact hnow
  · intro s hs
    obtain ⟨hstart, hfew⟩ := h.fromStart s hs
    refine ⟨hstart, ?_⟩
    by_cases hsame : s = start
    · have hnone : within earlier s (s + T) = 0 :=
        within_eq_zero fun t ht hle => absurd (hsame ▸ h.closed t ht) hle.not_gt
      rw [within_append, hnone, Nat.zero_add]
      exact (within_le_length _ _ _).trans hlength
    · rcases hbegun' with ⟨-, hone⟩ | ⟨hnow, -⟩
      · exact absurd (List.mem_singleton.mp (hone ▸ hs)) hsame
      · have hnone : within [now] s (s + T) = 0 := by
          refine within_eq_zero fun t ht _ => ?_
          rw [List.mem_singleton.mp ht]
          exact (hstart.resolve_left hsame).trans_le hnow
        rw [← List.append_assoc, within_append, hnone, Nat.add_zero]
        exact hfew
  · intro a
    have hcurrent := (within_le_length (current ++ [now]) a (a + T)).trans hlength
    rcases hbegun' with ⟨rfl, -⟩ | ⟨hnow, -⟩
    · exact hcurrent.trans (Nat.le_add_right _ _)
    by_cases hbefore : a + T < start
    · have hnone : within [now] a (a + T) = 0 := by
        refine within_eq_zero fun t ht _ => ?_
        rw [List.mem_singleton.mp ht]
        exact hbefore.trans_le hnow
      rw [← List.append_assoc, within_append, hnone, Nat.add_zero]
      exact h.sliding a
    · have hearlier : within earlier a (a + T) ≤ limit - free := by
        refine (List.countP_mono_left fun t _ hin => ?_).trans h.carried
        have hle : start ≤ t + T := (not_lt.mp hbefore).trans
          (add_le_add_left (of_decide_eq_true hin).1 T)
        simpa using hle
      rw [within_append]
      omega

end FixedWindow
