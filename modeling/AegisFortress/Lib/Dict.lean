import Mathlib.Data.List.Basic
import Mathlib.Data.List.Nodup
import Mathlib.Algebra.BigOperators.Group.Finset.Basic
import Mathlib.Tactic.Abel

/-!
# Insertion-ordered dictionaries

A dictionary is a list of bindings with no key bound twice; the list order is the order of first
insertion, which is what an iteration sees.  Overwriting a key keeps its place, a new key goes to
the end.

* `Dict.keys`, `Dict.values` — in insertion order.
* `Dict.get?`, `Dict.set`, `Dict.erase`, `Dict.mapVal` — the operations, with their lookup
  equations tagged `@[simp]`.
* `Dict.ofList` — a run of writes.  `get?_ofList` is what it leaves under a key,
  `keys_ofList_pairwise` the order of its keys.
* `Dict.Equiv` — same bindings, whatever the order; what is left of a dictionary after a storage
  that sorts its keys.
* `Dict.sum` — a total over the bindings.  `sum_set` and `sum_erase` say what one write does to
  it, `sum_eq_sum_finset` reads it as a sum over any finite set that covers the keys.
-/

/-- A finite map that remembers the order in which its keys were first inserted. -/
structure Dict (κ ν : Type) where
  entries : List (κ × ν)
  nodup : (entries.map Prod.fst).Nodup

namespace Dict

variable {κ ν μ τ : Type}

/-- The empty dictionary. -/
def empty : Dict κ ν := ⟨[], List.nodup_nil⟩

instance : EmptyCollection (Dict κ ν) := ⟨empty⟩

instance : Inhabited (Dict κ ν) := ⟨empty⟩

@[simp] lemma entries_empty : (∅ : Dict κ ν).entries = [] := rfl

/-- The keys, in insertion order. -/
def keys (d : Dict κ ν) : List κ := d.entries.map Prod.fst

/-- The values, in the order of their keys. -/
def values (d : Dict κ ν) : List ν := d.entries.map Prod.snd

/-! ## Lookup -/

section Lookup

variable [DecidableEq κ]

/-- `List.lookup` with the comparison written as a test on keys. -/
lemma lookup_cons (k : κ) (v : ν) (rest : List (κ × ν)) (x : κ) :
    ((k, v) :: rest).lookup x = if k = x then some v else rest.lookup x := by
  by_cases h : k = x
  · subst h; simp
  · have hb : (x == k) = false := beq_eq_false_iff_ne.mpr fun e => h e.symm
    simp [List.lookup_cons, h, hb]

/-- `d.get(k)`. -/
def get? (d : Dict κ ν) (k : κ) : Option ν := d.entries.lookup k

/-- `d.get(k, default)`. -/
def getD (d : Dict κ ν) (k : κ) (default : ν) : ν := (d.get? k).getD default

@[simp] lemma get?_empty (k : κ) : (∅ : Dict κ ν).get? k = none := rfl

lemma lookup_eq_none : ∀ {l : List (κ × ν)} {x : κ}, l.lookup x = none ↔ x ∉ l.map Prod.fst
  | [], x => by simp
  | (k, v) :: rest, x => by
      by_cases h : k = x
      · simp [h]
      · simp only [lookup_cons, h, if_false, List.map_cons, List.mem_cons, not_or,
          lookup_eq_none (l := rest)]
        exact ⟨fun hr => ⟨fun e => h e.symm, hr⟩, fun hr => hr.2⟩

lemma lookup_eq_some : ∀ {l : List (κ × ν)}, (l.map Prod.fst).Nodup →
    ∀ {x : κ} {v : ν}, l.lookup x = some v ↔ (x, v) ∈ l
  | [], _, x, v => by simp
  | (k, w) :: rest, hn, x, v => by
      rw [List.map_cons, List.nodup_cons] at hn
      by_cases h : k = x
      · subst h
        simp only [lookup_cons, if_true, Option.some.injEq, List.mem_cons, Prod.mk.injEq, true_and]
        constructor
        · exact fun e => Or.inl e.symm
        · rintro (e | hm)
          · exact e.symm
          · exact absurd (List.mem_map.mpr ⟨(k, v), hm, rfl⟩) hn.1
      · simp only [lookup_cons, h, if_false, List.mem_cons, Prod.mk.injEq, lookup_eq_some hn.2]
        exact ⟨Or.inr, fun hm => hm.resolve_left fun e => h e.1.symm⟩

lemma get?_eq_none {d : Dict κ ν} {k : κ} : d.get? k = none ↔ k ∉ d.keys := lookup_eq_none

lemma get?_eq_some {d : Dict κ ν} {k : κ} {v : ν} : d.get? k = some v ↔ (k, v) ∈ d.entries :=
  lookup_eq_some d.nodup

lemma mem_keys {d : Dict κ ν} {k : κ} : k ∈ d.keys ↔ ∃ v, d.get? k = some v := by
  rw [← Option.ne_none_iff_exists', ne_eq, get?_eq_none, not_not]

/-- Two dictionaries with the same bindings, in whatever order. -/
def Equiv (d e : Dict κ ν) : Prop := ∀ k, d.get? k = e.get? k

lemma Equiv.refl (d : Dict κ ν) : d.Equiv d := fun _ => rfl

lemma Equiv.trans {d e f : Dict κ ν} (h : d.Equiv e) (h' : e.Equiv f) : d.Equiv f :=
  fun k => (h k).trans (h' k)

lemma Equiv.mem_iff {d e : Dict κ ν} (h : d.Equiv e) {k : κ} {v : ν} :
    (k, v) ∈ d.entries ↔ (k, v) ∈ e.entries := by
  rw [← get?_eq_some, ← get?_eq_some, h k]

end Lookup

/-! ## Writing and removing a key -/

section Update

variable [DecidableEq κ]

/-- `d[k] = v` on the list of bindings: in place when the key is there, at the end otherwise. -/
def write : List (κ × ν) → κ → ν → List (κ × ν)
  | [], x, v => [(x, v)]
  | (k, w) :: rest, x, v => if k = x then (k, v) :: rest else (k, w) :: write rest x v

lemma keys_write : ∀ (l : List (κ × ν)) (x : κ) (v : ν), (write l x v).map Prod.fst
    = if x ∈ l.map Prod.fst then l.map Prod.fst else l.map Prod.fst ++ [x]
  | [], x, v => by simp [write]
  | (k, w) :: rest, x, v => by
      by_cases h : k = x
      · simp [write, h]
      · have hne : x ≠ k := fun e => h e.symm
        simp only [write, h, if_false, List.map_cons, keys_write rest x v, List.mem_cons, hne,
          false_or]
        split_ifs <;> rfl

/-- `d[k] = v`. -/
def set (d : Dict κ ν) (k : κ) (v : ν) : Dict κ ν where
  entries := write d.entries k v
  nodup := by
    rw [keys_write]
    split_ifs with h
    · exact d.nodup
    · exact List.Nodup.append d.nodup (List.nodup_singleton k) (by simpa using h)

/-- `d.pop(k, None)`. -/
def erase (d : Dict κ ν) (k : κ) : Dict κ ν where
  entries := d.entries.filter fun e => e.1 ≠ k
  nodup := d.nodup.sublist (List.filter_sublist.map _)

lemma lookup_write (l : List (κ × ν)) (x : κ) (v : ν) (y : κ) :
    (write l x v).lookup y = if x = y then some v else l.lookup y := by
  induction l with
  | nil => simp [write, lookup_cons]
  | cons e rest ih =>
      obtain ⟨k, w⟩ := e
      by_cases h : k = x
      · subst h
        by_cases hy : k = y <;> simp [write, lookup_cons, hy]
      · simp only [write, h, if_false, lookup_cons, ih]
        by_cases hy : k = y
        · subst hy
          have hne : ¬ x = k := fun e => h e.symm
          simp [hne]
        · simp [hy]

lemma lookup_filter_ne (l : List (κ × ν)) (x y : κ) :
    (l.filter fun e => e.1 ≠ x).lookup y = if x = y then none else l.lookup y := by
  induction l with
  | nil => simp
  | cons e rest ih =>
      obtain ⟨k, w⟩ := e
      by_cases h : k = x
      · subst h
        simp only [ne_eq, not_true_eq_false, decide_false, List.filter_cons, Bool.false_eq_true,
          if_false, lookup_cons]
        rw [ih]
        split_ifs <;> rfl
      · simp only [ne_eq, h, not_false_eq_true, decide_true, List.filter_cons, if_true, lookup_cons]
        rw [ih]
        by_cases hy : k = y
        · subst hy
          have hne : ¬ x = k := fun e => h e.symm
          simp [hne]
        · simp [hy]

lemma get?_set (d : Dict κ ν) (x : κ) (v : ν) (y : κ) :
    (d.set x v).get? y = if x = y then some v else d.get? y := lookup_write d.entries x v y

@[simp] lemma get?_set_self (d : Dict κ ν) (x : κ) (v : ν) : (d.set x v).get? x = some v := by
  rw [get?_set, if_pos rfl]

@[simp] lemma getD_set_self (d : Dict κ ν) (x : κ) (v default : ν) :
    (d.set x v).getD x default = v := by
  rw [getD, get?_set_self, Option.getD_some]

lemma get?_set_of_ne (d : Dict κ ν) {x y : κ} (h : x ≠ y) (v : ν) :
    (d.set x v).get? y = d.get? y := by
  rw [get?_set, if_neg h]

lemma write_self {x : κ} {v : ν} : ∀ {l : List (κ × ν)}, l.lookup x = some v → write l x v = l
  | [], h => by simp at h
  | (k, w) :: rest, h => by
      rw [lookup_cons] at h
      split_ifs at h with hk
      · rw [write, if_pos hk, Option.some.inj h]
      · rw [write, if_neg hk, write_self h]

lemma write_of_not_mem {x : κ} : ∀ {l : List (κ × ν)}, x ∉ l.map Prod.fst → ∀ v, write l x v = l ++ [(x, v)]
  | [], _, _ => rfl
  | (k, w) :: rest, h, v => by
      rw [List.map_cons, List.mem_cons, not_or] at h
      rw [write, if_neg fun e => h.1 e.symm, write_of_not_mem h.2]
      rfl

/-- A new key goes to the end. -/
lemma values_set_of_not_mem {d : Dict κ ν} {k : κ} (h : k ∉ d.keys) (v : ν) :
    (d.set k v).values = d.values ++ [v] := by
  have hentries : (d.set k v).entries = d.entries ++ [(k, v)] := write_of_not_mem h v
  rw [values, values, hentries, List.map_append]
  rfl

/-- Writing the value a key already has changes nothing. -/
lemma set_self {d : Dict κ ν} {k : κ} {v : ν} (h : d.get? k = some v) : d.set k v = d := by
  obtain ⟨entries, hn⟩ := d
  simp only [set, write_self (show entries.lookup k = some v from h)]

lemma get?_erase (d : Dict κ ν) (x y : κ) :
    (d.erase x).get? y = if x = y then none else d.get? y := lookup_filter_ne d.entries x y

@[simp] lemma get?_erase_self (d : Dict κ ν) (x : κ) : (d.erase x).get? x = none := by
  rw [get?_erase, if_pos rfl]

lemma get?_erase_of_ne (d : Dict κ ν) {x y : κ} (h : x ≠ y) : (d.erase x).get? y = d.get? y := by
  rw [get?_erase, if_neg h]

lemma get?_of_erase {d : Dict κ ν} {x y : κ} {v : ν} (h : (d.erase x).get? y = some v) :
    d.get? y = some v := by
  rw [get?_erase] at h
  split_ifs at h
  · exact h

/-- `setdefault` changes no key that is there. -/
lemma get?_of_setdefault {d : Dict κ ν} {x y : κ} {v default : ν}
    (h : (d.set x (d.getD x default)).get? y = some v) : d.get? y = some v ∨ v = default := by
  rw [get?_set] at h
  split_ifs at h with hxy
  · subst hxy
    rw [Option.some.injEq, getD] at h
    cases hget : d.get? x with
    | none =>
        rw [hget] at h
        exact Or.inr h.symm
    | some old =>
        rw [hget] at h
        exact Or.inl (congrArg some h)
  · exact Or.inl h

lemma Equiv.set {d e : Dict κ ν} (h : d.Equiv e) (k : κ) (v : ν) : (d.set k v).Equiv (e.set k v) :=
  fun y => by rw [get?_set, get?_set, h y]

lemma Equiv.erase {d e : Dict κ ν} (h : d.Equiv e) (k : κ) : (d.erase k).Equiv (e.erase k) :=
  fun y => by rw [get?_erase, get?_erase, h y]

/-- Build a dictionary by inserting bindings from left to right, later ones winning. -/
def ofList (l : List (κ × ν)) : Dict κ ν := l.foldl (fun d e => d.set e.1 e.2) ∅

/-- The last of a list's entries with this key. -/
def lastOf (f : τ → κ) (l : List τ) (k : κ) : Option τ := l.reverse.find? fun x => f x = k

@[simp] lemma lastOf_concat (f : τ → κ) (l : List τ) (x : τ) (k : κ) :
    lastOf f (l ++ [x]) k = if f x = k then some x else lastOf f l k := by
  by_cases h : f x = k
  · simp [lastOf, h]
  · simp [lastOf, h]

lemma lastOf_key {f : τ → κ} {l : List τ} {k : κ} {x : τ} (h : lastOf f l k = some x) :
    f x = k := by
  simpa using List.find?_some h

lemma lastOf_mem {f : τ → κ} {l : List τ} {k : κ} {x : τ} (h : lastOf f l k = some x) :
    x ∈ l := List.mem_reverse.mp (List.mem_of_find?_eq_some h)

lemma lastOf_isSome {f : τ → κ} {l : List τ} {x : τ} (h : x ∈ l) :
    ∃ y, lastOf f l (f x) = some y := by
  rw [← Option.isSome_iff_exists, lastOf, List.find?_isSome]
  exact ⟨x, List.mem_reverse.mpr h, by simp⟩

/-- No later entry has the key. -/
lemma lastOf_eq_some_iff {f : τ → κ} {l : List τ} {k : κ} {x : τ} : lastOf f l k = some x
    ↔ f x = k ∧ ∃ before after, l = before ++ x :: after ∧ ∀ y ∈ after, f y ≠ k := by
  rw [lastOf, List.find?_eq_some_iff_append]
  constructor
  · rintro ⟨hkey, after, before, heq, hafter⟩
    refine ⟨by simpa using hkey, before.reverse, after.reverse, ?_, ?_⟩
    · rw [← List.reverse_reverse l, heq]
      simp
    · simpa using hafter
  · rintro ⟨hkey, before, after, rfl, hafter⟩
    exact ⟨by simpa using hkey, after.reverse, before.reverse, by simp, by simpa using hafter⟩

lemma ofList_concat (l : List (κ × ν)) (k : κ) (v : ν) :
    ofList (l ++ [(k, v)]) = (ofList l).set k v := by
  rw [ofList, List.foldl_append]
  rfl

/-- A dictionary has what was written last under each key. -/
lemma get?_ofList (f : τ → κ) (g : τ → ν) (l : List τ) (k : κ) :
    (ofList (l.map fun x => (f x, g x))).get? k = (lastOf f l k).map g := by
  induction l using List.reverseRecOn with
  | nil => rfl
  | append_singleton l x ih =>
      rw [List.map_append, List.map_singleton, ofList_concat, get?_set, lastOf_concat, ih]
      split_ifs <;> rfl

lemma keys_set (d : Dict κ ν) (k : κ) (v : ν) :
    (d.set k v).keys = if k ∈ d.keys then d.keys else d.keys ++ [k] := keys_write d.entries k v

/-- The keys of a dictionary are those that were written. -/
lemma mem_keys_ofList (l : List (κ × ν)) (k : κ) : k ∈ (ofList l).keys ↔ k ∈ l.map Prod.fst := by
  induction l using List.reverseRecOn with
  | nil => exact Iff.rfl
  | append_singleton l x ih =>
      rw [ofList_concat, keys_set, List.map_append, List.mem_append, ← ih]
      split_ifs with hmem
      · simp only [List.map_singleton, List.mem_singleton]
        constructor
        · exact Or.inl
        · rintro (h | rfl)
          · exact h
          · exact hmem
      · rw [List.mem_append]
        rfl

/-- The keys of a dictionary stand in the order in which they were written first. -/
lemma keys_ofList_pairwise (l : List (κ × ν)) : (ofList l).keys.Pairwise fun a b =>
    (l.map Prod.fst).idxOf a < (l.map Prod.fst).idxOf b := by
  induction l using List.reverseRecOn with
  | nil => exact List.Pairwise.nil
  | append_singleton l x ih =>
      have hold : (ofList l).keys.Pairwise fun a b =>
          ((l ++ [x]).map Prod.fst).idxOf a < ((l ++ [x]).map Prod.fst).idxOf b := by
        refine ih.imp_of_mem fun {a b} ha hb hab => ?_
        rw [List.map_append, List.idxOf_append_of_mem ((mem_keys_ofList l a).mp ha),
          List.idxOf_append_of_mem ((mem_keys_ofList l b).mp hb)]
        exact hab
      rw [ofList_concat, keys_set]
      split_ifs with hmem
      · exact hold
      · refine List.pairwise_append.mpr ⟨hold, List.pairwise_singleton _ _, fun a ha b hb => ?_⟩
        rw [List.mem_singleton.mp hb, List.map_append,
          List.idxOf_append_of_mem ((mem_keys_ofList l a).mp ha), List.idxOf_append_of_notMem
            fun h => hmem ((mem_keys_ofList l x.1).mpr h)]
        have hlt := List.idxOf_lt_length_iff.mpr ((mem_keys_ofList l a).mp ha)
        omega

end Update

/-! ## Rewriting the values -/

/-- Replace every value, keys and order unchanged. -/
def mapVal (f : κ → ν → μ) (d : Dict κ ν) : Dict κ μ where
  entries := d.entries.map fun e => (e.1, f e.1 e.2)
  nodup := by
    rw [List.map_map]
    exact d.nodup

lemma lookup_map [DecidableEq κ] (f : κ → ν → μ) : ∀ (l : List (κ × ν)) (k : κ),
    (l.map fun e => (e.1, f e.1 e.2)).lookup k = (l.lookup k).map (f k)
  | [], k => by simp
  | (x, v) :: rest, k => by
      by_cases h : x = k
      · subst h; simp
      · simp only [List.map_cons, lookup_cons, h, if_false, lookup_map f rest k]

@[simp] lemma get?_mapVal [DecidableEq κ] (f : κ → ν → μ) (d : Dict κ ν) (k : κ) :
    (d.mapVal f).get? k = (d.get? k).map (f k) := lookup_map f d.entries k

lemma mapVal_set [DecidableEq κ] (f : κ → ν → μ) (d : Dict κ ν) (k : κ) (v : ν) :
    (d.set k v).mapVal f = (d.mapVal f).set k (f k v) := by
  have hwrite : ∀ l : List (κ × ν), (write l k v).map (fun e => (e.1, f e.1 e.2))
      = write (l.map fun e => (e.1, f e.1 e.2)) k (f k v) := by
    intro l
    induction l with
    | nil => rfl
    | cons e rest ih =>
        rw [write, List.map_cons, write]
        split_ifs with h
        · rw [List.map_cons, h]
        · rw [List.map_cons, ih]
  simp only [mapVal, set, hwrite]

@[simp] lemma values_mapVal (f : ν → μ) (d : Dict κ ν) :
    (d.mapVal fun _ => f).values = d.values.map f := by
  simp only [values, mapVal, List.map_map]
  rfl

@[simp] lemma keys_mapVal (f : κ → ν → μ) (d : Dict κ ν) : (d.mapVal f).keys = d.keys := by
  simp only [keys, mapVal, List.map_map]
  rfl

/-! ## Totals -/

section Sum

variable {M : Type} [AddCommGroup M]

/-- The total of `f` over the bindings. -/
def sum (f : κ → ν → M) (d : Dict κ ν) : M := (d.entries.map fun e => f e.1 e.2).sum

lemma sum_congr {f g : κ → ν → M} {d : Dict κ ν} (h : ∀ e ∈ d.entries, f e.1 e.2 = g e.1 e.2) :
    d.sum f = d.sum g := by
  rw [sum, sum, List.map_congr_left h]

variable [DecidableEq κ]

/-- What one key contributes to a total. -/
def share (f : κ → ν → M) (d : Dict κ ν) (k : κ) : M := (d.get? k).elim 0 (f k)

lemma sum_write (f : κ → ν → M) (x : κ) (v : ν) : ∀ l : List (κ × ν),
    ((write l x v).map fun e => f e.1 e.2).sum
      = (l.map fun e => f e.1 e.2).sum - (l.lookup x).elim 0 (f x) + f x v
  | [] => by simp [write]
  | (k, w) :: rest => by
      by_cases h : k = x
      · subst h; simp only [write, lookup_cons, if_true, List.map_cons, List.sum_cons, Option.elim_some]
        abel
      · simp only [write, lookup_cons, h, if_false, List.map_cons, List.sum_cons, sum_write f x v rest]
        abel

/-- Writing a key replaces its share of the total. -/
lemma sum_set (f : κ → ν → M) (d : Dict κ ν) (x : κ) (v : ν) :
    (d.set x v).sum f = d.sum f - d.share f x + f x v := sum_write f x v d.entries

lemma sum_filter_ne (f : κ → ν → M) (x : κ) : ∀ l : List (κ × ν), (l.map Prod.fst).Nodup →
    ((l.filter fun e => e.1 ≠ x).map fun e => f e.1 e.2).sum
      = (l.map fun e => f e.1 e.2).sum - (l.lookup x).elim 0 (f x)
  | [], _ => by simp
  | (k, w) :: rest, hn => by
      rw [List.map_cons, List.nodup_cons] at hn
      by_cases h : k = x
      · subst h
        have hrest : rest.filter (fun e => e.1 ≠ k) = rest := by
          rw [List.filter_eq_self]
          intro e he
          have hne : e.1 ≠ k := fun e' => hn.1 (List.mem_map.mpr ⟨e, he, e'⟩)
          simpa using hne
        simp only [List.filter_cons, ne_eq, not_true_eq_false, decide_false, Bool.false_eq_true,
          if_false, lookup_cons, if_true, Option.elim_some, List.map_cons, List.sum_cons]
        rw [hrest]
        abel
      · simp only [List.filter_cons, lookup_cons, h, if_false, ne_eq, not_false_eq_true, decide_true,
          if_true, List.map_cons, List.sum_cons]
        rw [sum_filter_ne f x rest hn.2]
        abel

/-- Removing a key removes its share of the total. -/
lemma sum_erase (f : κ → ν → M) (d : Dict κ ν) (x : κ) :
    (d.erase x).sum f = d.sum f - d.share f x := sum_filter_ne f x d.entries d.nodup

/-- A total over the bindings is a sum over any finite set of keys that covers them. -/
lemma sum_eq_sum_finset (f : κ → ν → M) (d : Dict κ ν) (S : Finset κ)
    (hS : ∀ k ∈ d.keys, k ∈ S) : d.sum f = ∑ k ∈ S, d.share f k := by
  have hzero : ∀ k ∈ S, k ∉ d.keys.toFinset → d.share f k = 0 := by
    intro k _ hk
    rw [share, get?_eq_none.mpr (by simpa using hk), Option.elim_none]
  have hsub : d.keys.toFinset ⊆ S := fun k hk => hS k (by simpa using hk)
  rw [← Finset.sum_subset hsub hzero, List.sum_toFinset _ (show d.keys.Nodup from d.nodup), sum,
    keys, List.map_map]
  congr 1
  refine List.map_congr_left fun e he => ?_
  simp only [Function.comp_apply, share, get?_eq_some.mpr (show (e.1, e.2) ∈ d.entries from he),
    Option.elim_some]

end Sum

end Dict
