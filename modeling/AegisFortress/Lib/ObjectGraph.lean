import AegisFortress.Lib.Dict
import Mathlib.Data.List.Infix
import Mathlib.Data.List.Pairwise

/-!
# Dictionaries that can be shared

A heap of dictionaries and lists that refer to each other by address, so that one dictionary can stand
in several places: what is written to it in one place is seen in all of them.  `follow` goes down a
path, and `view` is what a reader sees at its end.

* `load` brings the objects of another heap in, under new addresses: `follow_load`, `disjoint_load`.
* `assign` is one `d[k] = v`.  A dictionary that is `Sole`, reached by one path only, changes behind
  that path and under that key and nowhere else: `follow_assign_below`, `follow_assign_beside`.
-/

namespace ObjectGraph

/-- One step into an object: to what a dictionary has under a key, or a list at a place. -/
inductive Step (κ : Type)
  | key (k : κ)
  | item (i : ℕ)
  deriving DecidableEq

/-- A plain value, or the object at an address. -/
inductive Ref (τ : Type)
  | value (value : τ)
  | object (addr : ℕ)

/-- It is a reference to the object at the address. -/
def Ref.leadsTo (a : ℕ) : Ref τ → Bool
  | value _ => false
  | object b => a = b

/-- A dictionary or a list of references. -/
inductive Obj (κ τ : Type)
  | dict (entries : Dict κ (Ref τ))
  | list (items : List (Ref τ))

/-- The objects, each at its address. -/
abbrev Heap (κ τ : Type) := List (Obj κ τ)

variable {κ τ : Type}

/-! ## Reading -/

/-- What the object refers to. -/
def Obj.refs : Obj κ τ → List (Ref τ)
  | dict entries => entries.values
  | list items => items

def Obj.isDict : Obj κ τ → Bool
  | dict _ => true
  | list _ => false

/-- A value, some dictionary, or some list of a length. -/
inductive Content (τ : Type)
  | value (value : τ)
  | dictionary
  | list (length : ℕ)
  deriving DecidableEq

def Obj.content : Obj κ τ → Content τ
  | dict _ => .dictionary
  | list items => .list items.length

/-- There is a dictionary at the address. -/
def isDict (h : Heap κ τ) (a : ℕ) : Bool := h[a]?.any Obj.isDict

/-- What is seen of a reference. -/
def content (h : Heap κ τ) : Ref τ → Option (Content τ)
  | .value v => some (.value v)
  | .object a => h[a]?.map Obj.content

section Reading

variable [DecidableEq κ]

def Obj.child : Obj κ τ → Step κ → Option (Ref τ)
  | dict entries, .key k => entries.get? k
  | list items, .item i => items[i]?
  | _, _ => none

/-- One step on from a reference. -/
def child (h : Heap κ τ) : Ref τ → Step κ → Option (Ref τ)
  | .value _, _ => none
  | .object a, s => h[a]?.bind fun o => o.child s

/-- What stands at the end of a path. -/
def follow (h : Heap κ τ) (r : Ref τ) : List (Step κ) → Option (Ref τ)
  | [] => some r
  | s :: rest => (child h r s).bind fun r' => follow h r' rest

/-- What a reader sees at the end of a path. -/
def view (h : Heap κ τ) (r : Ref τ) (p : List (Step κ)) : Option (Content τ) :=
  (follow h r p).bind (content h)

lemma follow_append (h : Heap κ τ) (r : Ref τ) (p q : List (Step κ)) :
    follow h r (p ++ q) = (follow h r p).bind fun r' => follow h r' q := by
  induction p generalizing r with
  | nil => rfl
  | cons s p ih =>
      rw [List.cons_append, follow, follow]
      cases child h r s with
      | none => rfl
      | some r' => exact ih r'

lemma follow_of_append {h : Heap κ τ} {r r' : Ref τ} {p q : List (Step κ)}
    (hp : follow h r p = some r') : follow h r (p ++ q) = follow h r' q := by
  rw [follow_append, hp, Option.bind_some]

omit [DecidableEq κ] in
lemma isDict_iff {h : Heap κ τ} {a : ℕ} : isDict h a = true ↔ ∃ d, h[a]? = some (.dict d) := by
  rw [isDict]
  cases h[a]? with
  | none => simp
  | some o => cases o <;> simp [Obj.isDict]

/-- A dictionary shows as such and has nothing at a place. -/
lemma view_dict {h : Heap κ τ} {a : ℕ} (hdict : isDict h a) :
    view h (.object a) [] = some .dictionary
      ∧ ∀ i rest, view h (.object a) (.item i :: rest) = none := by
  obtain ⟨d, hd⟩ := isDict_iff.mp hdict
  simp [view, follow, child, content, hd, Obj.content, Obj.child]

/-- What has something under a key is a dictionary. -/
lemma isDict_of_child {h : Heap κ τ} {r r' : Ref τ} {k : κ} (hchild : child h r (.key k) = some r') :
    ∃ a, r = .object a ∧ isDict h a := by
  cases r with
  | value v => cases hchild
  | object a =>
      refine ⟨a, rfl, isDict_iff.mpr ?_⟩
      rw [child] at hchild
      cases ho : h[a]? with
      | none =>
          rw [ho] at hchild
          cases hchild
      | some o =>
          cases o with
          | dict d => exact ⟨d, rfl⟩
          | list items =>
              rw [ho] at hchild
              cases hchild

end Reading

/-! ## References that lead somewhere -/

/-- It does not point beyond the first `n` addresses. -/
def Ref.Within (n : ℕ) : Ref τ → Prop
  | value _ => True
  | object a => a < n

instance (n : ℕ) (r : Ref τ) : Decidable (r.Within n) := by
  cases r with
  | value v => exact isTrue trivial
  | object a => exact inferInstanceAs (Decidable (a < n))

/-- Every reference of an object leads to an object. -/
def Closed (h : Heap κ τ) : Prop := ∀ o ∈ h, ∀ r ∈ o.refs, r.Within h.length

instance (h : Heap κ τ) : Decidable (Closed h) :=
  inferInstanceAs (Decidable (∀ o ∈ h, ∀ r ∈ o.refs, r.Within h.length))

lemma Ref.Within.mono {n m : ℕ} {r : Ref τ} (hr : r.Within n) (hle : n ≤ m) : r.Within m := by
  cases r with
  | value v => trivial
  | object a => exact lt_of_lt_of_le hr hle

section Closed

variable [DecidableEq κ]

lemma Obj.child_mem {o : Obj κ τ} {s : Step κ} {r : Ref τ} (hchild : o.child s = some r) :
    r ∈ o.refs := by
  cases o with
  | dict d =>
      cases s with
      | key k => exact List.mem_map.mpr ⟨(k, r), Dict.get?_eq_some.mp hchild, rfl⟩
      | item i => cases hchild
  | list items =>
      cases s with
      | key k => cases hchild
      | item i => exact List.mem_of_getElem? hchild

variable {h : Heap κ τ}

lemma Closed.within_of_follow (hclosed : Closed h) {r r' : Ref τ} (hr : r.Within h.length)
    {p : List (Step κ)} (hp : follow h r p = some r') : r'.Within h.length := by
  induction p generalizing r with
  | nil => exact Option.some.inj hp ▸ hr
  | cons s p ih =>
      obtain ⟨x, hx, hrest⟩ := Option.bind_eq_some_iff.mp hp
      refine ih ?_ hrest
      cases r with
      | value v => cases hx
      | object a =>
          obtain ⟨o, ho, hchild⟩ := Option.bind_eq_some_iff.mp hx
          exact hclosed o (List.mem_of_getElem? ho) x (Obj.child_mem hchild)

/-! ### More objects are allocated -/

omit [DecidableEq κ] in
lemma isDict_append (more : Heap κ τ) {a : ℕ} (ha : a < h.length) :
    isDict (h ++ more) a = isDict h a := by rw [isDict, isDict, List.getElem?_append_left ha]

omit [DecidableEq κ] in
lemma content_append (more : Heap κ τ) {r : Ref τ} (hr : r.Within h.length) :
    content (h ++ more) r = content h r := by
  cases r with
  | value v => rfl
  | object a => rw [content, content, List.getElem?_append_left hr]

/-- The old ones do not see the new. -/
lemma follow_append_heap (hclosed : Closed h) (more : Heap κ τ) {r : Ref τ}
    (hr : r.Within h.length) (p : List (Step κ)) : follow (h ++ more) r p = follow h r p := by
  induction p generalizing r with
  | nil => rfl
  | cons s p ih =>
      have hchild : child (h ++ more) r s = child h r s := by
        cases r with
        | value v => rfl
        | object a => rw [child, child, List.getElem?_append_left hr]
      rw [follow, follow, hchild]
      cases hx : child h r s with
      | none => rfl
      | some x =>
          have hone : follow h r [s] = some x := by rw [follow, hx]; rfl
          exact ih (hclosed.within_of_follow hr hone)

lemma view_append_heap (hclosed : Closed h) (more : Heap κ τ) {r : Ref τ}
    (hr : r.Within h.length) : view (h ++ more) r = view h r := by
  funext p
  rw [view, view, follow_append_heap hclosed more hr]
  cases hp : follow h r p with
  | none => rfl
  | some x => exact content_append more (hclosed.within_of_follow hr hp)

end Closed

/-! ## Objects from elsewhere -/

/-- The same reference when all addresses have moved up. -/
def Ref.shift (n : ℕ) : Ref τ → Ref τ
  | value v => value v
  | object a => object (n + a)

def Obj.shift (n : ℕ) : Obj κ τ → Obj κ τ
  | dict entries => dict (entries.mapVal fun _ r => r.shift n)
  | list items => list (items.map (Ref.shift n))

/-- Objects, and the reference to start from. -/
structure Rooted (κ τ : Type) where
  heap : Heap κ τ
  root : Ref τ

/-- Every reference leads to an object. -/
def Rooted.Closed (g : Rooted κ τ) : Prop :=
  ObjectGraph.Closed g.heap ∧ g.root.Within g.heap.length

instance (g : Rooted κ τ) : Decidable g.Closed :=
  inferInstanceAs (Decidable (ObjectGraph.Closed g.heap ∧ g.root.Within g.heap.length))

/-- The objects of the graph are added to the heap, behind those that are there. -/
def load (h : Heap κ τ) (g : Rooted κ τ) : Heap κ τ := h ++ g.heap.map (Obj.shift h.length)

/-- Where the root of the graph is then. -/
def loaded (h : Heap κ τ) (g : Rooted κ τ) : Ref τ := g.root.shift h.length

lemma getElem?_load (h : Heap κ τ) (g : Rooted κ τ) (a : ℕ) :
    (load h g)[h.length + a]? = (g.heap[a]?).map (Obj.shift h.length) := by
  rw [load, List.getElem?_append_right (Nat.le_add_right _ _), Nat.add_sub_cancel_left,
    List.getElem?_map]

lemma Ref.Within.shift {n m : ℕ} {r : Ref τ} (hr : r.Within n) : (r.shift m).Within (m + n) := by
  cases r with
  | value v => trivial
  | object a => exact Nat.add_lt_add_left hr m

lemma Obj.refs_shift (n : ℕ) (o : Obj κ τ) : (o.shift n).refs = o.refs.map (Ref.shift n) := by
  cases o with
  | dict d => exact Dict.values_mapVal _ d
  | list items => rfl

lemma length_load (h : Heap κ τ) (g : Rooted κ τ) :
    (load h g).length = h.length + g.heap.length := by
  rw [load, List.length_append, List.length_map]

lemma closed_load {h : Heap κ τ} {g : Rooted κ τ} (hclosed : Closed h) (hg : g.Closed) :
    Closed (load h g) ∧ (loaded h g).Within (load h g).length := by
  rw [length_load]
  refine ⟨fun o ho r hr => ?_, hg.2.shift⟩
  rw [length_load]
  rcases List.mem_append.mp ho with hold | hnew
  · exact (hclosed o hold r hr).mono (Nat.le_add_right _ _)
  · obtain ⟨o, hmem, rfl⟩ := List.mem_map.mp hnew
    rw [Obj.refs_shift] at hr
    obtain ⟨x, hx, rfl⟩ := List.mem_map.mp hr
    exact (hg.1 o hmem x hx).shift

section Load

variable [DecidableEq κ]

/-- What a reader of the graph sees. -/
def Rooted.view (g : Rooted κ τ) : List (Step κ) → Option (Content τ) := ObjectGraph.view g.heap g.root

lemma Obj.child_shift (n : ℕ) (o : Obj κ τ) (s : Step κ) :
    (o.shift n).child s = (o.child s).map (Ref.shift n) := by
  cases o with
  | dict d =>
      cases s with
      | key k => exact Dict.get?_mapVal _ d k
      | item i => rfl
  | list items =>
      cases s with
      | key k => rfl
      | item i => exact List.getElem?_map

/-- The graph is there as it was. -/
lemma follow_load (h : Heap κ τ) (g : Rooted κ τ) (r : Ref τ) (p : List (Step κ)) :
    follow (load h g) (r.shift h.length) p = (follow g.heap r p).map (Ref.shift h.length) := by
  induction p generalizing r with
  | nil => rfl
  | cons s p ih =>
      have hchild : child (load h g) (r.shift h.length) s
          = (child g.heap r s).map (Ref.shift h.length) := by
        cases r with
        | value v => rfl
        | object a =>
            rw [Ref.shift, child, getElem?_load, child]
            cases g.heap[a]? with
            | none => rfl
            | some o => exact Obj.child_shift _ o s
      rw [follow, follow, hchild]
      cases child g.heap r s with
      | none => rfl
      | some x => exact ih x

omit [DecidableEq κ] in
lemma content_load (h : Heap κ τ) (g : Rooted κ τ) (r : Ref τ) :
    content (load h g) (r.shift h.length) = content g.heap r := by
  cases r with
  | value v => rfl
  | object a =>
      rw [Ref.shift, content, getElem?_load, content]
      cases g.heap[a]? with
      | none => rfl
      | some o =>
          cases o with
          | dict d => rfl
          | list items => simp [Obj.shift, Obj.content]

lemma view_loaded (h : Heap κ τ) (g : Rooted κ τ) : view (load h g) (loaded h g) = g.view := by
  funext p
  rw [view, loaded, follow_load, Rooted.view, view]
  cases follow g.heap g.root p with
  | none => rfl
  | some r => exact content_load h g r

/-! ## Who leads where -/

/-- No path from the reference leads to the object. -/
def Avoids (h : Heap κ τ) (r : Ref τ) (a : ℕ) : Prop := ∀ p, follow h r p ≠ some (.object a)

/-- No object is reached from both. -/
def Disjoint (h : Heap κ τ) (r v : Ref τ) : Prop :=
  ∀ p a, follow h r p = some (.object a) → Avoids h v a

/-- If a dictionary stands at the end of the path, then no other path leads to it. -/
def Sole (h : Heap κ τ) (r : Ref τ) (p : List (Step κ)) : Prop :=
  ∀ a, isDict h a → follow h r p = some (.object a) → ∀ q, follow h r q = some (.object a) → q = p

/-- What has been loaded is out of reach of what was there. -/
lemma disjoint_load {h : Heap κ τ} (hclosed : Closed h) {r : Ref τ} (hr : r.Within h.length)
    (g : Rooted κ τ) : Disjoint (load h g) r (loaded h g) := by
  intro p a hp q hq
  rw [load, follow_append_heap hclosed _ hr] at hp
  have hold : a < h.length := hclosed.within_of_follow hr hp
  rw [loaded, follow_load] at hq
  obtain ⟨x, -, hx⟩ := Option.map_eq_some_iff.mp hq
  cases x with
  | value v => cases hx
  | object b =>
      obtain rfl : h.length + b = a := by simpa only [Ref.shift, Ref.object.injEq] using hx
      omega

lemma sole_append {h : Heap κ τ} (hclosed : Closed h) (more : Heap κ τ) {r : Ref τ}
    (hr : r.Within h.length) {p : List (Step κ)} (hsole : Sole h r p) : Sole (h ++ more) r p := by
  intro a hdict hp q hq
  rw [follow_append_heap hclosed more hr] at hp hq
  rw [isDict_append more (hclosed.within_of_follow hr hp)] at hdict
  exact hsole a hdict hp q hq

end Load

/-! ### Who holds what -/

section Holders

/-- Where the object refers to the address. -/
def Obj.holds (a : ℕ) : Obj κ τ → List (Step κ)
  | dict entries => (entries.entries.filter fun e => e.2.leadsTo a).map fun e => .key e.1
  | list items => (items.zipIdx.filter fun e => e.1.leadsTo a).map fun e => .item e.2

/-- The objects that refer to the address, and where. -/
def holders (h : Heap κ τ) (a : ℕ) : List (ℕ × Step κ) :=
  h.zipIdx.flatMap fun e => (e.1.holds a).map fun s => (e.2, s)

variable [DecidableEq κ] {h : Heap κ τ} {a b : ℕ}

/-- Every reference is found. -/
lemma mem_holders {s : Step κ} (hchild : child h (.object b) s = some (.object a)) :
    (b, s) ∈ holders h a := by
  obtain ⟨o, ho, hs⟩ := Option.bind_eq_some_iff.mp hchild
  refine List.mem_flatMap.mpr ⟨(o, b), List.mem_zipIdx_iff_getElem?.mpr ho, ?_⟩
  refine List.mem_map.mpr ⟨s, ?_, rfl⟩
  cases o with
  | dict d =>
      cases s with
      | item i => cases hs
      | key k =>
          refine List.mem_map.mpr ⟨(k, .object a),
            List.mem_filter.mpr ⟨Dict.get?_eq_some.mp hs, ?_⟩, rfl⟩
          simp [Ref.leadsTo]
  | list items =>
      cases s with
      | key k => cases hs
      | item i =>
          refine List.mem_map.mpr ⟨(.object a, i),
            List.mem_filter.mpr ⟨List.mem_zipIdx_iff_getElem?.mpr hs, ?_⟩, rfl⟩
          simp [Ref.leadsTo]

lemma follow_concat {r : Ref τ} {p : List (Step κ)} {s : Step κ}
    (hp : follow h r (p ++ [s]) = some (.object a)) :
    ∃ b, follow h r p = some (.object b) ∧ child h (.object b) s = some (.object a) := by
  rw [follow_append] at hp
  obtain ⟨x, hx, hs⟩ := Option.bind_eq_some_iff.mp hp
  obtain ⟨y, hy, hnil⟩ := Option.bind_eq_some_iff.mp hs
  obtain rfl : y = .object a := Option.some.inj hnil
  cases x with
  | value v => cases hy
  | object b => exact ⟨b, hx, hy⟩

/-- Nothing refers to the root. -/
lemma sole_nil (hheld : holders h a = []) : Sole h (.object a) [] := by
  intro a' _ ha' q hq
  obtain rfl : a = a' := by simpa [follow] using ha'
  induction q using List.reverseRecOn with
  | nil => rfl
  | append_singleton q s =>
      obtain ⟨b, -, hb⟩ := follow_concat hq
      exact absurd (hheld ▸ mem_holders hb) List.not_mem_nil

/-- A dictionary that nothing else refers to is in as many places as what refers to it. -/
lemma Sole.concat {r : Ref τ} {c : List (Step κ)} (hsole : Sole h r c)
    (hc : follow h r c = some (.object b)) {k : κ}
    (hheld : ∀ a, child h (.object b) (.key k) = some (.object a) → holders h a = [(b, .key k)]) :
    Sole h r (c ++ [.key k]) := by
  intro a hdict ha q hq
  obtain ⟨b', hb', hchild⟩ := follow_concat ha
  obtain rfl : b = b' := by simpa using hc.symm.trans hb'
  obtain ⟨_, ⟨⟩, hdictb⟩ := isDict_of_child hchild
  induction q using List.reverseRecOn with
  | nil =>
      -- around the whole circle there would be a second way to the dictionary that refers to it
      obtain rfl : r = .object a := Option.some.inj hq
      have hagain : follow h (.object a) ((c ++ [.key k]) ++ c) = some (.object b) := by
        rw [follow_of_append ha, hc]
      have hlen := congrArg List.length (hsole b hdictb hc _ hagain)
      simp only [List.length_append, List.length_cons] at hlen
      omega
  | append_singleton q s =>
      obtain ⟨holder, hholder, hs⟩ := follow_concat hq
      have hmem : (holder, s) ∈ [(b, .key k)] := hheld a hchild ▸ mem_holders hs
      obtain ⟨rfl, rfl⟩ : holder = b ∧ s = .key k := by simpa using hmem
      rw [hsole holder hdictb hc q hholder]

end Holders

/-! ## Writing -/

section Writing

variable [DecidableEq κ]

def Obj.assign (k : κ) (v : Ref τ) : Obj κ τ → Obj κ τ
  | dict entries => dict (entries.set k v)
  | list items => list items

/-- `d[k] = v` for the dictionary at the address. -/
def assign (h : Heap κ τ) (a : ℕ) (k : κ) (v : Ref τ) : Heap κ τ := h.modify a (Obj.assign k v)

variable {h : Heap κ τ} {a : ℕ} {k : κ} {v : Ref τ}

@[simp] lemma length_assign : (assign h a k v).length = h.length := List.length_modify _ _ _

lemma getElem?_assign (b : ℕ) :
    (assign h a k v)[b]? = if a = b then h[b]?.map (Obj.assign k v) else h[b]? := by
  rw [assign, List.getElem?_modify]
  split_ifs with hb
  · rfl
  · exact id_map _

@[simp] lemma content_assign (r : Ref τ) : content (assign h a k v) r = content h r := by
  cases r with
  | value v => rfl
  | object b =>
      rw [content, content, getElem?_assign]
      split_ifs with hb
      · cases h[b]? with
        | none => rfl
        | some o => cases o <;> rfl
      · rfl

@[simp] lemma isDict_assign (b : ℕ) : isDict (assign h a k v) b = isDict h b := by
  rw [isDict, isDict, getElem?_assign]
  split_ifs with hb
  · cases h[b]? with
    | none => rfl
    | some o => cases o <;> rfl
  · rfl

lemma child_assign_of_ne {r : Ref τ} (hne : r ≠ .object a) (s : Step κ) :
    child (assign h a k v) r s = child h r s := by
  cases r with
  | value v => rfl
  | object b =>
      have hb : a ≠ b := fun heq => hne (heq ▸ rfl)
      rw [child, child, getElem?_assign, if_neg hb]

lemma child_assign_self (hdict : isDict h a) (s : Step κ) : child (assign h a k v) (.object a) s
    = if s = .key k then some v else child h (.object a) s := by
  obtain ⟨d, hd⟩ := isDict_iff.mp hdict
  rw [child, child, getElem?_assign, if_pos rfl, hd]
  cases s with
  | item i => rfl
  | key j =>
      change (d.set k v).get? j = _
      rw [Dict.get?_set]
      simp only [Step.key.injEq, eq_comm]
      rfl

lemma Obj.refs_assign {o : Obj κ τ} {r : Ref τ} (hr : r ∈ (o.assign k v).refs) :
    r = v ∨ r ∈ o.refs := by
  cases o with
  | list items => exact Or.inr hr
  | dict d =>
      obtain ⟨⟨j, r⟩, hmem, rfl⟩ := List.mem_map.mp hr
      have hget := Dict.get?_eq_some.mpr hmem
      rw [Dict.get?_set] at hget
      split_ifs at hget with hkey
      · exact Or.inl (Option.some.inj hget).symm
      · exact Or.inr (List.mem_map.mpr ⟨(j, r), Dict.get?_eq_some.mp hget, rfl⟩)

lemma closed_assign (hclosed : Closed h) (hv : v.Within h.length) : Closed (assign h a k v) := by
  intro o ho r hr
  rw [length_assign]
  obtain ⟨b, hb⟩ := List.mem_iff_getElem?.mp ho
  rw [getElem?_assign] at hb
  split_ifs at hb with hab
  · obtain ⟨old, hold, rfl⟩ := Option.map_eq_some_iff.mp hb
    rcases Obj.refs_assign hr with rfl | hmem
    · exact hv
    · exact hclosed old (List.mem_of_getElem? hold) r hmem
  · exact hclosed o (List.mem_of_getElem? hb) r hr

/-- A path that does not go through the dictionary leads where it did. -/
lemma follow_assign_of_not_through {r : Ref τ} {p : List (Step κ)}
    (hnot : ∀ q s t, p = q ++ s :: t → follow h r q ≠ some (.object a)) :
    follow (assign h a k v) r p = follow h r p := by
  induction p generalizing r with
  | nil => rfl
  | cons s p ih =>
      have hne : r ≠ .object a := fun heq => hnot [] s p rfl (heq ▸ rfl)
      rw [follow, follow, child_assign_of_ne hne]
      cases hx : child h r s with
      | none => rfl
      | some x =>
          refine ih fun q s' t heq hq => hnot (s :: q) s' t (heq ▸ rfl) ?_
          rw [follow, hx]
          exact hq

lemma follow_assign_of_avoids {r : Ref τ} (havoids : Avoids h r a) (p : List (Step κ)) :
    follow (assign h a k v) r p = follow h r p :=
  follow_assign_of_not_through fun q _ _ _ => havoids q

section Sole

variable {r : Ref τ} {c : List (Step κ)} (hc : follow h r c = some (.object a)) (hdict : isDict h a)
  (hsole : Sole h r c)

include hc hdict hsole

/-- The path to the dictionary does not go through it. -/
lemma follow_assign_here : follow (assign h a k v) r c = some (.object a) := by
  rw [follow_assign_of_not_through, hc]
  intro q s t heq hq
  have hqc : q = c := hsole a hdict hc q hq
  have hlen := congrArg List.length heq
  simp only [hqc, List.length_append, List.length_cons] at hlen
  omega

/-- Behind the key there is what has been written. -/
lemma follow_assign_below (hv : Avoids h v a) (p : List (Step κ)) :
    follow (assign h a k v) r (c ++ .key k :: p) = follow h v p := by
  rw [follow_of_append (follow_assign_here hc hdict hsole), follow, child_assign_self hdict,
    if_pos rfl, Option.bind_some, follow_assign_of_avoids hv]

/-- Everything else is as it was. -/
lemma follow_assign_beside {p : List (Step κ)} (hp : ¬ c ++ [.key k] <+: p) :
    follow (assign h a k v) r p = follow h r p := by
  by_cases hthrough : c <+: p
  · obtain ⟨rest, rfl⟩ := hthrough
    rw [follow_of_append (follow_assign_here hc hdict hsole), follow_of_append hc]
    cases rest with
    | nil => rfl
    | cons s rest =>
        have hs : s ≠ .key k := fun heq => hp (by simp [heq])
        rw [follow, follow, child_assign_self hdict, if_neg hs]
        cases hx : child h (.object a) s with
        | none => rfl
        | some x =>
            refine follow_assign_of_avoids (fun q hq => ?_) rest
            -- a second way to the dictionary, through itself
            have hagain : follow h r (c ++ s :: q) = some (.object a) := by
              rw [follow_of_append hc, follow, hx]
              exact hq
            have hlen := congrArg List.length (hsole a hdict hc _ hagain)
            simp only [List.length_append, List.length_cons] at hlen
            omega
  · refine follow_assign_of_not_through fun q s t heq hq => hthrough ?_
    rw [← hsole a hdict hc q hq, heq]
    exact List.prefix_append q (s :: t)

lemma view_assign_below (hv : Avoids h v a) (p : List (Step κ)) :
    view (assign h a k v) r (c ++ .key k :: p) = view h v p := by
  rw [view, view, follow_assign_below hc hdict hsole hv]
  exact congrArg _ (funext content_assign)

lemma view_assign_beside {p : List (Step κ)} (hp : ¬ c ++ [.key k] <+: p) :
    view (assign h a k v) r p = view h r p := by
  rw [view, view, follow_assign_beside hc hdict hsole hp]
  exact congrArg _ (funext content_assign)

/-- A dictionary beside what is written stays in one place. -/
lemma sole_assign_beside (hdisjoint : Disjoint h r v) {p : List (Step κ)}
    (hp : ¬ c ++ [.key k] <+: p) (hsolep : Sole h r p) : Sole (assign h a k v) r p := by
  intro b hb hpb q hqb
  rw [isDict_assign] at hb
  rw [follow_assign_beside hc hdict hsole hp] at hpb
  by_cases hq : c ++ [.key k] <+: q
  · obtain ⟨rest, rfl⟩ := hq
    rw [List.append_assoc] at hqb
    rw [List.singleton_append, follow_assign_below hc hdict hsole (hdisjoint c a hc)] at hqb
    exact absurd hqb (hdisjoint p b hpb rest)
  · rw [follow_assign_beside hc hdict hsole hq] at hqb
    exact hsolep b hb hpb q hqb

/-- A dictionary of what is written stays in one place. -/
lemma sole_assign_below (hdisjoint : Disjoint h r v) {p : List (Step κ)} (hsolep : Sole h v p) :
    Sole (assign h a k v) r (c ++ .key k :: p) := by
  have havoids := hdisjoint c a hc
  intro b hb hpb q hqb
  rw [isDict_assign] at hb
  rw [follow_assign_below hc hdict hsole havoids] at hpb
  by_cases hq : c ++ [.key k] <+: q
  · obtain ⟨rest, rfl⟩ := hq
    rw [List.append_assoc, List.singleton_append] at hqb ⊢
    rw [follow_assign_below hc hdict hsole havoids] at hqb
    rw [hsolep b hb hpb rest hqb]
  · rw [follow_assign_beside hc hdict hsole hq] at hqb
    exact absurd hpb (hdisjoint q b hqb p)

end Sole

end Writing

end ObjectGraph
