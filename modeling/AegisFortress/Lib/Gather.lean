import AegisFortress.Lib.Dict
import Mathlib.Data.List.Induction

/-!
# Dictionaries that collect

`accumulate` goes through a list and updates the entry under the key of each element; `gather` puts the
elements with one key into one list, `d.setdefault(key, []).append(x)`.  `get?_accumulate` and
`get?_gather` say what is found under a key, `find?_keys_accumulate` which key comes first, and
`flatMap_gather` that the groups together have all elements once.
-/

namespace Dict

variable {κ ν μ τ : Type} [DecidableEq κ]

/-! ## One entry -/

omit [DecidableEq κ] in
/-- What picks entries under one key only picks the entry there. -/
lemma filter_eq_singleton (d : Dict κ ν) {p : κ × ν → Bool} {e : κ × ν} (he : e ∈ d.entries)
    (hp : p e = true) (honly : ∀ e' ∈ d.entries, p e' = true → e'.1 = e.1) :
    d.entries.filter p = [e] := by
  obtain ⟨entries, hnodup⟩ := d
  simp only at he honly ⊢
  induction entries with
  | nil => cases he
  | cons first rest ih =>
      rw [List.map_cons, List.nodup_cons] at hnodup
      rcases List.mem_cons.mp he with rfl | hrest
      · rw [List.filter_cons_of_pos hp, List.filter_eq_nil_iff.mpr]
        intro e' he' hp'
        have hkey := honly e' (List.mem_cons_of_mem _ he') hp'
        exact hnodup.1 (List.mem_map.mpr ⟨e', he', hkey⟩)
      · have hfirst : ¬ p first = true := by
          intro hp'
          have hkey := honly first List.mem_cons_self hp'
          exact hnodup.1 (List.mem_map.mpr ⟨e, hrest, hkey.symm⟩)
        rw [List.filter_cons_of_neg hfirst]
        exact ih hnodup.2 hrest fun e' he' => honly e' (List.mem_cons_of_mem _ he')

lemma write_of_notMem {k : κ} {v : ν} : ∀ {l : List (κ × ν)}, k ∉ l.map Prod.fst →
    write l k v = l ++ [(k, v)]
  | [], _ => rfl
  | (k', w) :: rest, h => by
      rw [List.map_cons, List.mem_cons, not_or] at h
      rw [write, if_neg fun e => h.1 e.symm, write_of_notMem h.2, List.cons_append]

lemma mem_write {k : κ} {v : ν} {e : κ × ν} : ∀ {l : List (κ × ν)}, e ∈ write l k v →
    e ∈ l ∨ e = (k, v)
  | [], h => Or.inr (List.mem_singleton.mp h)
  | (k', w) :: rest, h => by
      rw [write] at h
      split_ifs at h with hk
      · subst hk
        rcases List.mem_cons.mp h with hfirst | hrest
        · exact Or.inr hfirst
        · exact Or.inl (List.mem_cons_of_mem _ hrest)
      · rcases List.mem_cons.mp h with rfl | hrest
        · exact Or.inl List.mem_cons_self
        · exact (mem_write hrest).imp_left (List.mem_cons_of_mem _)

/-- Every binding is one of those that were written. -/
lemma mem_of_mem_ofList {l : List (κ × ν)} {e : κ × ν} (h : e ∈ (ofList l).entries) : e ∈ l := by
  induction l using List.reverseRecOn with
  | nil => cases h
  | append_singleton l last ih =>
      rw [ofList_concat] at h
      rcases mem_write h with hold | hlast
      · exact List.mem_append_left _ (ih hold)
      · exact List.mem_append_right _ (List.mem_singleton.mpr hlast)

lemma ofList_entries_eq_nil {l : List (κ × ν)} : (ofList l).entries = [] ↔ l = [] := by
  constructor
  · intro h
    rw [List.eq_nil_iff_forall_not_mem]
    intro e he
    have hkey := (mem_keys_ofList l e.1).mpr (List.mem_map_of_mem he)
    rw [keys, h] at hkey
    cases hkey
  · rintro rfl
    rfl

/-- Bindings of different keys are kept as they are. -/
lemma entries_ofList {l : List (κ × ν)} (h : (l.map Prod.fst).Nodup) : (ofList l).entries = l := by
  induction l using List.reverseRecOn with
  | nil => rfl
  | append_singleton l e ih =>
      rw [List.map_append, List.nodup_append] at h
      have hnew : e.1 ∉ l.map Prod.fst := fun hmem => h.2.2 e.1 hmem e.1 (by simp) rfl
      rw [ofList_concat]
      change write (ofList l).entries e.1 e.2 = l ++ [e]
      rw [ih h.1, write_of_notMem hnew]

/-! ## Accumulating -/

section Accumulate

/-- Update the entry under the key of each element. -/
def accumulate (f : Option ν → τ → ν) (key : τ → κ) (l : List τ) : Dict κ ν :=
  l.foldl (fun d x => d.set (key x) (f (d.get? (key x)) x)) ∅

variable (f : Option ν → τ → ν) (key : τ → κ) (l : List τ)

lemma accumulate_concat (x : τ) : accumulate f key (l ++ [x])
    = (accumulate f key l).set (key x) (f ((accumulate f key l).get? (key x)) x) := by
  rw [accumulate, List.foldl_append]
  rfl

/-- **What is under a key** comes from the elements with that key, in their order. -/
theorem get?_accumulate (k : κ) : (accumulate f key l).get? k
    = (l.filter fun x => key x = k).foldl (fun old x => some (f old x)) none := by
  induction l using List.reverseRecOn with
  | nil => rfl
  | append_singleton l x ih =>
      rw [accumulate_concat, get?_set, List.filter_append, List.foldl_append]
      split_ifs with hkey
      · subst hkey
        rw [ih]
        simp
      · simp [hkey, ih]

lemma mem_keys_accumulate (k : κ) : k ∈ (accumulate f key l).keys ↔ ∃ x ∈ l, key x = k := by
  induction l using List.reverseRecOn with
  | nil => simp [accumulate, keys]
  | append_singleton l x ih =>
      have hlast : (∃ y ∈ l ++ [x], key y = k) ↔ (∃ y ∈ l, key y = k) ∨ key x = k := by
        simp [or_and_right, exists_or]
      rw [accumulate_concat, keys_set, hlast, ← ih]
      split_ifs with hmem
      · constructor
        · exact Or.inl
        · rintro (h | rfl)
          · exact h
          · exact hmem
      · rw [List.mem_append, List.mem_singleton]
        exact or_congr_right eq_comm

/-- **The first key of a kind** is that of the first element of the kind. -/
theorem find?_keys_accumulate (p : κ → Bool) : (accumulate f key l).keys.find? p
    = (l.map key).find? p := by
  induction l using List.reverseRecOn with
  | nil => rfl
  | append_singleton l x ih =>
      rw [accumulate_concat, keys_set, List.map_append, List.find?_append, ← ih]
      split_ifs with hmem
      · cases hfound : (accumulate f key l).keys.find? p with
        | some k => rfl
        | none =>
            -- the key has been seen, and was not of the kind
            have hnot := List.find?_eq_none.mp hfound (key x) hmem
            simp [hnot]
      · rw [List.find?_append]
        rfl

end Accumulate

/-! ## Gathering -/

section Gather

/-- The elements with one key, under that key: `d.setdefault(key, []).append(x)`. -/
def gather (key : τ → κ) (val : τ → ν) (l : List τ) : Dict κ (List ν) :=
  accumulate (fun old x => old.getD [] ++ [val x]) key l

variable (key : τ → κ) (val : τ → ν) (l : List τ)

lemma get?_gather (k : κ) : (gather key val l).get? k
    = if (l.filter fun x => key x = k) = [] then none
      else some ((l.filter fun x => key x = k).map val) := by
  rw [gather, get?_accumulate]
  induction (l.filter fun x => key x = k) using List.reverseRecOn with
  | nil => rfl
  | append_singleton l x ih =>
      rw [List.foldl_append, ih, if_neg (List.concat_ne_nil x l)]
      by_cases hnil : l = []
      · subst hnil
        rfl
      · rw [if_neg hnil, List.map_append]
        rfl

lemma write_concat_perm (g : κ → ν → μ) (k : κ) (v : ν) : ∀ groups : List (κ × List ν),
    ((write groups k ((groups.lookup k).getD [] ++ [v])).flatMap fun e => e.2.map (g e.1)).Perm
      ((groups.flatMap fun e => e.2.map (g e.1)) ++ [g k v])
  | [] => by simp [write]
  | (k', group) :: rest => by
      by_cases hk : k' = k
      · subst hk
        simp only [write, lookup_cons, if_true, Option.getD_some, List.flatMap_cons, List.map_append,
          List.map_singleton, List.append_assoc]
        exact List.perm_append_comm.append_left _
      · simp only [write, lookup_cons, hk, if_false, List.flatMap_cons, List.append_assoc]
        exact (write_concat_perm g k v rest).append_left _

/-- **The groups** have every element once. -/
theorem flatMap_gather (g : κ → ν → μ) :
    ((gather key val l).entries.flatMap fun e => e.2.map (g e.1)).Perm
      (l.map fun x => g (key x) (val x)) := by
  induction l using List.reverseRecOn with
  | nil => exact List.Perm.refl _
  | append_singleton l x ih =>
      rw [List.map_append, gather, accumulate_concat, ← gather]
      exact (write_concat_perm g (key x) (val x) (gather key val l).entries).trans
        (ih.append_right _)

end Gather

end Dict
