import AegisFortress.Lib.Dict
import Mathlib.Algebra.Order.Group.Defs
import Mathlib.Algebra.Order.Sub.Basic

/-!
# Caches with a time to live

A table from keys to values, each with the time when it was stored.  A value is given out while its age is
such that it is fresh; now and then what is older than some horizon is thrown away.

`get_eq`: as long as nothing fresh is beyond the horizon, what a key gives is the last value stored for it, if
that is still fresh.  Throwing away is not noticed.
-/

namespace TtlCache

variable {κ ν K : Type} [DecidableEq κ]

/-- What is done to the table. -/
inductive Op (κ ν K : Type)
  | store (key : κ) (value : ν) (now : K)
  | evict (now : K)

/-- When it is done. -/
def Op.time : Op κ ν K → K
  | .store _ _ now => now
  | .evict now => now

/-- The table. -/
abbrev Table (κ ν K : Type) := Dict κ (ν × K)

/-- The entries that are to stay. -/
def keep (p : ν × K → Bool) (table : Table κ ν K) : Table κ ν K where
  entries := table.entries.filter fun e => p e.2
  nodup := table.nodup.sublist (List.filter_sublist.map _)

lemma get?_keep (p : ν × K → Bool) (table : Table κ ν K) (key : κ) :
    (keep p table).get? key = (table.get? key).filter p := by
  refine Option.ext fun entry => ?_
  rw [Dict.get?_eq_some, Option.filter_eq_some_iff, Dict.get?_eq_some]
  exact List.mem_filter

/-- The last value stored for a key, and when. -/
def lastStored (key : κ) : List (Op κ ν K) → Option (ν × K)
  | [] => none
  | .store key' value now :: rest => (lastStored key rest).or (if key' = key then some (value, now) else none)
  | .evict _ :: rest => lastStored key rest

lemma lastStored_snoc (key : κ) (ops : List (Op κ ν K)) (op : Op κ ν K) :
    lastStored key (ops ++ [op]) = (lastStored key [op]).or (lastStored key ops) := by
  induction ops with
  | nil => simp [lastStored]
  | cons first rest ih =>
      cases first with
      | store key' value now => rw [List.cons_append, lastStored, ih, lastStored, Option.or_assoc]
      | evict now => rw [List.cons_append, lastStored, ih, lastStored]

variable [Sub K] [LT K] [DecidableLT K] (horizon : K) (Fresh : K → Prop) [DecidablePred Fresh]

/-- One operation. -/
def apply (table : Table κ ν K) : Op κ ν K → Table κ ν K
  | .store key value now => table.set key (value, now)
  | .evict now => keep (fun entry => !decide (horizon < now - entry.2)) table

/-- The table after some operations. -/
def after (ops : List (Op κ ν K)) : Table κ ν K := ops.foldl (apply horizon) ∅

/-- What a key gives. -/
def get (table : Table κ ν K) (key : κ) (now : K) : Option ν :=
  match table.get? key with
  | none => none
  | some (value, storedAt) => if Fresh (now - storedAt) then some value else none

end TtlCache

namespace TtlCache

variable {κ ν K : Type} [DecidableEq κ] [AddCommGroup K] [LinearOrder K] [IsOrderedAddMonoid K]
  {horizon now : K} {Fresh : K → Prop} [DecidablePred Fresh] {ops : List (Op κ ν K)}

/-- The table has the last value for a key, or that has become older than the horizon. -/
lemma after_cases (horizon : K) (key : κ) (ops : List (Op κ ν K)) {now : K} (hpast : ∀ op ∈ ops, op.time ≤ now) :
    (after horizon ops).get? key = lastStored key ops
      ∨ ((after horizon ops).get? key = none
        ∧ ∀ value storedAt, lastStored key ops = some (value, storedAt) → horizon < now - storedAt) := by
  induction ops using List.reverseRecOn generalizing now with
  | nil => exact Or.inl rfl
  | append_singleton ops op ih =>
      have hop : op.time ≤ now := hpast op (List.mem_append_right _ (List.mem_singleton_self op))
      have ih := ih fun op' h => hpast op' (List.mem_append_left _ h)
      rw [after, List.foldl_append, List.foldl_cons, List.foldl_nil, lastStored_snoc]
      change (apply horizon (after horizon ops) op).get? key = _ ∨ (apply horizon (after horizon ops) op).get? key
        = none ∧ _
      cases op with
      | store key' value time =>
          rw [apply, Dict.get?_set]
          by_cases hkey : key' = key
          · exact Or.inl (by simp [lastStored, hkey])
          · simpa [lastStored, hkey] using ih
      | evict time =>
          rw [apply, get?_keep]
          simp only [lastStored, Option.none_or]
          rcases ih with hsame | ⟨hnone, hold⟩
          · rw [hsame]
            cases hlast : lastStored key ops with
            | none => exact Or.inl rfl
            | some entry =>
                by_cases hage : horizon < time - entry.2
                · refine Or.inr ⟨by rw [Option.filter_some, decide_eq_true hage]; rfl, fun value storedAt heq => ?_⟩
                  cases heq
                  exact hage.trans_le (sub_le_sub_right hop _)
                · exact Or.inl (by rw [Option.filter_some, decide_eq_false hage]; rfl)
          · exact Or.inr ⟨by rw [hnone]; rfl, hold⟩

/-- **What a key gives**: the last value stored for it, while it is fresh. -/
theorem get_eq (hfresh : ∀ age, Fresh age → age ≤ horizon) (key : κ) (ops : List (Op κ ν K)) {now : K}
    (hpast : ∀ op ∈ ops, op.time ≤ now) (value : ν) :
    get Fresh (after horizon ops) key now = some value
      ↔ ∃ storedAt, lastStored key ops = some (value, storedAt) ∧ Fresh (now - storedAt) := by
  rcases after_cases horizon key ops hpast with hsame | ⟨hnone, hold⟩
  · rw [get, hsame]
    cases hlast : lastStored key ops with
    | none => simp
    | some entry =>
        rcases entry with ⟨value', storedAt⟩
        simp only [Option.ite_none_right_eq_some, Option.some.injEq, Prod.mk.injEq]
        constructor
        · rintro ⟨hage, rfl⟩
          exact ⟨storedAt, ⟨rfl, rfl⟩, hage⟩
        · rintro ⟨storedAt', ⟨rfl, rfl⟩, hage⟩
          exact ⟨hage, rfl⟩
  · rw [get, hnone]
    refine iff_of_false (by simp) ?_
    rintro ⟨storedAt, hlast, hage⟩
    exact absurd (hfresh _ hage) (not_le.mpr (hold value storedAt hlast))

end TtlCache
