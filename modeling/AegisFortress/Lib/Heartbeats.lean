import Mathlib.Algebra.Order.Group.Defs
import Mathlib.Algebra.Order.Monoid.Unbundled.Basic
import Mathlib.Order.Defs.LinearOrder

/-!
# Heartbeats

Somebody beats from time to time, and somebody else polls.  A poll suspects when the last beat is longer ago
than a timeout.

When there are no more beats and the polls go on, one of them suspects, and the first to do so comes no later
than one interval between polls after the timeout (`suspected_in_time`).
-/

namespace Heartbeats

variable {K : Type}

/-- A beat or a poll, and its time. -/
inductive Signal (K : Type)
  | beat (time : K)
  | poll (time : K)

def Signal.beat? : Signal K → Option K
  | .beat time => some time
  | .poll _ => none

def Signal.poll? : Signal K → Option K
  | .beat _ => none
  | .poll time => some time

/-- The time of the last beat. -/
def lastBeat (signals : List (Signal K)) : Option K := (signals.filterMap Signal.beat?).getLast?

lemma lastBeat_snoc (signals : List (Signal K)) (signal : Signal K) :
    lastBeat (signals ++ [signal]) = signal.beat?.or (lastBeat signals) := by
  cases signal <;> simp [lastBeat, Signal.beat?]

/-- Polls leave the last beat what it is. -/
lemma lastBeat_silence (past : List (Signal K)) (time : K) {silence : List (Signal K)}
    (hsilence : silence.filterMap Signal.beat? = []) :
    lastBeat (past ++ .beat time :: silence) = some time := by
  simp [lastBeat, hsilence, Signal.beat?]

variable [AddCommGroup K] [LinearOrder K]

/-- The last beat is longer ago than the timeout. -/
def Suspects (timeout : K) (past : List (Signal K)) (now : K) : Prop :=
  ∃ time, lastBeat past = some time ∧ timeout < now - time

/-- The polls come one after the other, none much later than the one before or than the start. -/
def Polling (interval : K) : K → List (Signal K) → Prop
  | _, [] => True
  | start, .beat _ :: rest => Polling interval start rest
  | start, .poll time :: rest => time ≤ start + interval ∧ Polling interval time rest

variable {timeout interval start time : K} {silence : List (Signal K)}

/-- The first poll after a time comes within an interval of it. -/
lemma first_poll {due : K} (hstart : start ≤ due) (hpolling : Polling interval start silence)
    (hlate : ∃ now ∈ silence.filterMap Signal.poll?, due < now) :
    ∃ before now after, silence = before ++ .poll now :: after ∧ due < now
      ∧ ∃ s ≤ due, now ≤ s + interval := by
  induction silence generalizing start with
  | nil => simp at hlate
  | cons signal rest ih =>
      cases signal with
      | beat time =>
          obtain ⟨before, now, after, rfl, hdue, hsoon⟩ := ih hstart hpolling hlate
          exact ⟨.beat time :: before, now, after, rfl, hdue, hsoon⟩
      | poll now =>
          obtain ⟨hnow, hrest⟩ := hpolling
          by_cases hdue : due < now
          · exact ⟨[], now, rest, rfl, hdue, start, hstart, hnow⟩
          · have hlate' : ∃ now ∈ rest.filterMap Signal.poll?, due < now := by
              obtain ⟨later, hmem, hlater⟩ := hlate
              rcases List.mem_cons.mp hmem with rfl | hmem
              · exact absurd hlater hdue
              · exact ⟨later, hmem, hlater⟩
            obtain ⟨before, found, after, rfl, hfound, hsoon⟩ := ih (not_lt.mp hdue) hrest hlate'
            exact ⟨.poll now :: before, found, after, rfl, hfound, hsoon⟩

/-- **Silence is noticed**, by a poll that comes at most an interval after the timeout. -/
theorem suspected_in_time [IsOrderedAddMonoid K] (past : List (Signal K)) (htimeout : 0 ≤ timeout)
    (hsilence : silence.filterMap Signal.beat? = []) (hpolling : Polling interval time silence)
    (hlate : ∃ now ∈ silence.filterMap Signal.poll?, time + timeout < now) :
    ∃ before now after, silence = before ++ .poll now :: after
      ∧ Suspects timeout (past ++ .beat time :: before) now ∧ now ≤ time + timeout + interval := by
  obtain ⟨before, now, after, rfl, hdue, s, hs, hsoon⟩ :=
    first_poll (le_add_of_nonneg_right htimeout) hpolling hlate
  rw [List.filterMap_append, List.append_eq_nil_iff] at hsilence
  refine ⟨before, now, after, rfl, ⟨time, lastBeat_silence past time hsilence.1, ?_⟩, ?_⟩
  · exact lt_sub_iff_add_lt'.mpr hdue
  · exact hsoon.trans (add_le_add_left hs interval)

end Heartbeats
