import AegisFortress.Lib.Dict
import AegisFortress.Python.Value
import Mathlib.Data.List.Sort
import Mathlib.Data.String.Basic

/-!
# A value that went through a JSON file

`json.dump(..., sort_keys=True)` followed by `json.load`: numbers and texts come back as they were
written, a tuple comes back as a list, the keys of every dictionary come back in alphabetical order.
-/

namespace Aegis

namespace PyVal

variable {α : Type}

mutual

/-- What `json.load` reads back from what `json.dump(value, sort_keys=True)` wrote. -/
def stored : PyVal α → PyVal α
  | .list items => .list (storedList items)
  | .tuple items => .list (storedList items)
  | .dict items => .dict ((storedItems items).insertionSort fun a b => a.1 ≤ b.1)
  | v => v

def storedList : List (PyVal α) → List (PyVal α)
  | [] => []
  | v :: rest => v.stored :: storedList rest

def storedItems : List (String × PyVal α) → List (String × PyVal α)
  | [] => []
  | (k, v) :: rest => (k, v.stored) :: storedItems rest

end

@[simp] lemma stored_float (x : α) : (PyVal.float x).stored = .float x := by
  simp [stored]

lemma storedItems_eq (items : List (String × PyVal α)) :
    storedItems items = items.map fun e => (e.1, e.2.stored) := by
  induction items with
  | nil => rfl
  | cons e rest ih => rw [storedItems, ih, List.map_cons]

/-- The items of a stored dictionary. -/
def sorted (items : List (String × PyVal α)) : List (String × PyVal α) :=
  (storedItems items).insertionSort fun a b => a.1 ≤ b.1

lemma stored_dict (items : List (String × PyVal α)) : (PyVal.dict items).stored = .dict (sorted items) := by
  rw [stored, sorted]

lemma sorted_perm (items : List (String × PyVal α)) :
    (sorted items).Perm (items.map fun e => (e.1, e.2.stored)) := by
  rw [sorted, storedItems_eq]
  exact List.perm_insertionSort _ _

lemma sorted_nodup {items : List (String × PyVal α)} (h : (items.map Prod.fst).Nodup) :
    ((sorted items).map Prod.fst).Nodup := by
  rw [((sorted_perm items).map Prod.fst).nodup_iff, List.map_map]
  exact h

/-- **Sorting the keys loses nothing**: every key of a dictionary is found again. -/
theorem lookup_sorted {items : List (String × PyVal α)} (h : (items.map Prod.fst).Nodup)
    (key : String) : (sorted items).lookup key = (items.lookup key).map stored := by
  have hmap : (items.map fun e => (e.1, e.2.stored)).lookup key = (items.lookup key).map stored :=
    Dict.lookup_map (fun _ v => stored v) items key
  rw [← hmap]
  have hnodup : ((items.map fun e => (e.1, e.2.stored)).map Prod.fst).Nodup := by
    rw [List.map_map]
    exact h
  refine Option.ext fun v => ?_
  rw [Dict.lookup_eq_some (sorted_nodup h), Dict.lookup_eq_some hnodup]
  exact (sorted_perm items).mem_iff

end PyVal

end Aegis
