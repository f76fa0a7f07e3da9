import AegisFortress.Lib.Dict
import Mathlib.Order.Defs.LinearOrder

/-!
# Tables of times

A table keeps one time for each key: when something last happened, or until when something is
barred.  `Marked` says that a time has been noted, and stays noted when later ones are
(`Marked.set`).  `Bars` says that a time is over or still noted, which survives forgetting what has
run out (`Bars.prune`) and putting off what has not (`Bars.extend`).
-/

namespace Deadlines

variable {κ K : Type} [DecidableEq κ] [LinearOrder K] {table : Dict κ K} {key key' : κ}
  {time now now' : K}

/-- The table notes this time for the key, or a later one. -/
def Marked (table : Dict κ K) (key : κ) (time : K) : Prop :=
  ∃ noted, table.get? key = some noted ∧ time ≤ noted

lemma marked_set : Marked (table.set key time) key time :=
  ⟨time, Dict.get?_set_self table key time, le_rfl⟩

/-- Noting a later time loses nothing. -/
lemma Marked.set (h : Marked table key time) (hlater : key' = key → time ≤ now) :
    Marked (table.set key' now) key time := by
  obtain ⟨noted, hget, hle⟩ := h
  rcases eq_or_ne key' key with rfl | hne
  · exact ⟨now, Dict.get?_set_self table key' now, hlater rfl⟩
  · exact ⟨noted, by rw [Dict.get?_set_of_ne _ hne, hget], hle⟩

/-- The time is over, or the table still notes it. -/
def Bars (table : Dict κ K) (now : K) (key : κ) (time : K) : Prop :=
  time ≤ now ∨ Marked table key time

lemma Bars.later (h : Bars table now key time) (hnow : now ≤ now') : Bars table now' key time :=
  h.imp (fun hover => hover.trans hnow) id

/-- A key that nothing bars any more. -/
lemma Bars.over (h : Bars table now key time) (hnow : now ≤ now')
    (hfree : ∀ expiry, table.get? key = some expiry → expiry ≤ now') : time ≤ now' := by
  rcases h with hover | ⟨expiry, hget, hle⟩
  · exact hover.trans hnow
  · exact hle.trans (hfree expiry hget)

/-- The table without the time of this key, if that is over. -/
def prune (table : Dict κ K) (now : K) (key : κ) : Dict κ K :=
  match table.get? key with
  | none => table
  | some expiry => if expiry ≤ now then table.erase key else table

lemma Bars.prune (h : Bars table now key time) (hnow : now ≤ now') :
    Bars (prune table now' key') now' key time := by
  rw [Deadlines.prune]
  cases hget : table.get? key' with
  | none => exact h.later hnow
  | some expiry =>
      dsimp only
      split_ifs with hover
      · rcases eq_or_ne key' key with rfl | hne
        · refine Or.inl (h.over hnow fun expiry' hget' => ?_)
          rw [← Option.some.inj (hget.symm.trans hget')]
          exact hover
        · refine (h.later hnow).imp id ?_
          rintro ⟨noted, hnoted, hle⟩
          exact ⟨noted, by rw [Dict.get?_erase_of_ne _ hne, hnoted], hle⟩
      · exact h.later hnow

/-- The time of a key is put off. -/
lemma Bars.extend (h : Bars table now key time)
    (hlater : ∀ expiry, table.get? key' = some expiry → expiry ≤ now') :
    Bars (table.set key' now') now key time := by
  refine h.imp id ?_
  rintro ⟨expiry, hget, hle⟩
  refine Marked.set ⟨expiry, hget, hle⟩ fun heq => hle.trans (hlater expiry ?_)
  rw [heq, hget]

end Deadlines
