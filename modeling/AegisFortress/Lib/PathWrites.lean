import AegisFortress.Lib.ObjectGraph

/-!
# Writing under paths of keys

`setAt` goes down a path of keys from a dictionary and writes at its end, making the dictionaries that
are missing on the way; what stands in the way and is none gives place to one.

`overwrite` is the same on what a reader sees, as if no dictionary stood in two places.  `setAt_spec`:
it is what happens when none of those on the way does.  Writes under paths that are `Apart`, neither a
prefix of the other, commute, and each is found at the end (`overwriteAll_perm`, `overwriteAll_self`).
-/

namespace ObjectGraph

variable {κ τ : Type}

/-! ## Paths -/

/-- Neither path is a prefix of the other. -/
def Apart (p q : List κ) : Prop := ¬ p <+: q ∧ ¬ q <+: p

instance [DecidableEq κ] (p q : List κ) : Decidable (Apart p q) :=
  inferInstanceAs (Decidable (¬ p <+: q ∧ ¬ q <+: p))

lemma Apart.symm {p q : List κ} (happart : Apart p q) : Apart q p := ⟨happart.2, happart.1⟩

lemma Apart.tail {k : κ} {p q : List κ} (happart : Apart (k :: p) (k :: q)) : Apart p q := by
  simpa only [Apart, List.cons_prefix_cons, true_and] using happart

/-- A path of keys, as steps. -/
def steps (p : List κ) : List (Step κ) := p.map .key

@[simp] lemma steps_append (p q : List κ) : steps (p ++ q) = steps p ++ steps q := List.map_append

lemma steps_prefix {p q : List κ} : steps p <+: steps q ↔ p <+: q := by
  induction p generalizing q with
  | nil => simp [steps]
  | cons k p ih =>
      cases q with
      | nil => simp [steps]
      | cons j q => simpa [steps] using fun _ => ih

/-! ## Writes that a reader sees -/

/-- What there is to see at every path. -/
abbrev View (κ τ : Type) := List (Step κ) → Option (Content τ)

variable [DecidableEq κ]

/-- The value under the path, dictionaries on the way to it, and the rest as before. -/
def overwrite : List κ → View κ τ → View κ τ → View κ τ
  | [], value, _ => value
  | k :: p, value, f => fun
      | [] => some .dictionary
      | .item _ :: _ => none
      | .key j :: rest =>
          if j = k then overwrite p value (fun t => f (.key j :: t)) rest else f (.key j :: rest)

variable {value value' f g : View κ τ}

/-- What has been written is there. -/
lemma overwrite_self (p : List κ) (s : List (Step κ)) :
    overwrite p value f (steps p ++ s) = value s := by
  induction p generalizing f with
  | nil => rfl
  | cons k p ih =>
      simp only [steps, List.map_cons, List.cons_append, overwrite, if_true]
      exact ih

/-- A path that leads elsewhere is left alone, and so is what is behind it. -/
lemma overwrite_apart {p q : List κ} (happart : Apart p q) (s : List (Step κ)) :
    overwrite p value f (steps q ++ s) = f (steps q ++ s) := by
  induction p generalizing q f with
  | nil => exact absurd List.nil_prefix happart.1
  | cons k p ih =>
      cases q with
      | nil => exact absurd List.nil_prefix happart.2
      | cons j q =>
          simp only [steps, List.map_cons, List.cons_append, overwrite]
          split_ifs with hkey
          · subst hkey
            exact ih happart.tail
          · rfl

/-- **Writes that are apart commute.** -/
lemma overwrite_comm {p q : List κ} (happart : Apart p q) :
    overwrite p value (overwrite q value' f) = overwrite q value' (overwrite p value f) := by
  induction p generalizing q f with
  | nil => exact absurd List.nil_prefix happart.1
  | cons k p ih =>
      cases q with
      | nil => exact absurd List.nil_prefix happart.2
      | cons j q =>
          funext s
          cases s with
          | nil => rfl
          | cons step rest =>
              cases step with
              | item i => rfl
              | key i =>
                  by_cases hk : i = k
                  · subst hk
                    by_cases hj : i = j
                    · subst hj
                      simp only [overwrite, if_true]
                      rw [ih happart.tail]
                    · simp only [overwrite, if_true, if_neg hj]
                  · simp only [overwrite, if_neg hk]

/-- A write sees no more of what was there than what is under keys. -/
lemma overwrite_congr {k : κ} {p : List κ} (hkeys : ∀ j rest, f (.key j :: rest) = g (.key j :: rest)) :
    overwrite (k :: p) value f = overwrite (k :: p) value g := by
  funext s
  cases s with
  | nil => rfl
  | cons step rest =>
      cases step with
      | item i => rfl
      | key j =>
          simp only [overwrite, hkeys]

/-- A dictionary made on the way to what is written makes no difference. -/
lemma overwrite_overwrite {c : List κ} {k : κ} {p : List κ}
    (hnone : ∀ j rest, f (steps c ++ .key j :: rest) = none)
    (hempty : ∀ j rest, value' (.key j :: rest) = none) :
    overwrite (c ++ k :: p) value (overwrite c value' f) = overwrite (c ++ k :: p) value f := by
  induction c generalizing f with
  | nil => exact overwrite_congr fun j rest => (hempty j rest).trans (hnone j rest).symm
  | cons i c ih =>
      funext s
      cases s with
      | nil => rfl
      | cons step rest =>
          cases step with
          | item i => rfl
          | key j =>
              simp only [List.cons_append, overwrite]
              split_ifs with hkey
              · subst hkey
                exact congrFun (ih hnone) rest
              · rfl

/-- Where dictionaries stand on the way, a write changes nothing but what is behind it. -/
lemma eq_overwrite {p : List κ}
    (hdicts : ∀ c, c <+: p → c ≠ p →
      f (steps c) = some .dictionary ∧ ∀ i rest, f (steps c ++ .item i :: rest) = none)
    (hbelow : ∀ s, g (steps p ++ s) = value s) (hbeside : ∀ s, ¬ steps p <+: s → g s = f s) :
    g = overwrite p value f := by
  induction p generalizing f g with
  | nil => exact funext hbelow
  | cons k p ih =>
      obtain ⟨hdict, hitem⟩ := hdicts [] List.nil_prefix (List.cons_ne_nil k p).symm
      funext s
      cases s with
      | nil => exact (hbeside [] (by simp [steps])).trans hdict
      | cons step rest =>
          cases step with
          | item i => exact (hbeside _ (by simp [steps])).trans (hitem i rest)
          | key j =>
              simp only [overwrite]
              split_ifs with hkey
              · subst hkey
                refine congrFun (ih (f := fun t => f (.key j :: t)) (g := fun t => g (.key j :: t))
                  (fun c hc hne => ?_) (fun s => hbelow s) fun s hs => hbeside _ ?_) rest
                · exact hdicts (j :: c) (List.cons_prefix_cons.mpr ⟨rfl, hc⟩) fun heq =>
                    hne (List.cons.inj heq).2
                · rw [steps, List.map_cons, List.cons_prefix_cons]
                  exact fun hpre => hs hpre.2
              · refine hbeside _ ?_
                rw [steps, List.map_cons, List.cons_prefix_cons, Step.key.injEq]
                exact fun hpre => hkey hpre.1.symm

/-! ### A run of writes -/

/-- Write one after the other. -/
def overwriteAll (f : View κ τ) (writes : List (List κ × View κ τ)) : View κ τ :=
  writes.foldl (fun f write => overwrite write.1 write.2 f) f

/-- What is written is under paths that are apart. -/
def AllApart {ω : Type} (writes : List (List κ × ω)) : Prop :=
  writes.Pairwise fun w w' => Apart w.1 w'.1

variable {writes writes' : List (List κ × View κ τ)}

/-- A path that all writes lead away from is left alone. -/
lemma overwriteAll_apart {q : List κ} (h : ∀ w ∈ writes, Apart w.1 q) (s : List (Step κ)) :
    overwriteAll f writes (steps q ++ s) = f (steps q ++ s) := by
  induction writes generalizing f with
  | nil => rfl
  | cons w rest ih =>
      rw [List.forall_mem_cons] at h
      exact (ih h.2).trans (overwrite_apart h.1 s)

/-- Every write is there at the end. -/
lemma overwriteAll_self (h : AllApart writes) {w : List κ × View κ τ} (hw : w ∈ writes)
    (s : List (Step κ)) : overwriteAll f writes (steps w.1 ++ s) = w.2 s := by
  induction writes generalizing f with
  | nil => exact absurd hw List.not_mem_nil
  | cons first rest ih =>
      obtain ⟨hfirst, hrest⟩ := List.pairwise_cons.mp h
      rcases List.mem_cons.mp hw with rfl | hlater
      · exact (overwriteAll_apart (fun w' hw' => (hfirst w' hw').symm) s).trans (overwrite_self _ s)
      · exact ih hrest hlater

/-- **The order of writes that are apart makes no difference.** -/
theorem overwriteAll_perm (h : AllApart writes) (hperm : writes.Perm writes') :
    overwriteAll f writes = overwriteAll f writes' := by
  refine hperm.foldl_eq' (fun w hw w' hw' g => ?_) f
  have hcomm : writes.Pairwise fun w w' => ∀ g : View κ τ,
      overwrite w'.1 w'.2 (overwrite w.1 w.2 g) = overwrite w.1 w.2 (overwrite w'.1 w'.2 g) :=
    h.imp fun happart g => overwrite_comm happart.symm
  exact hcomm.forall_of_forall_of_flip (fun _ _ _ => rfl) (hcomm.imp fun hw g => (hw g).symm) hw hw' g

/-! ## Writes in place -/

variable {h : Heap κ τ}

/-- The dictionary under a key of a dictionary, if there is one. -/
def dictUnder (h : Heap κ τ) (a : ℕ) (k : κ) : Option ℕ :=
  match child h (.object a) (.key k) with
  | some (.object b) => if isDict h b then some b else none
  | _ => none

/-- `d[k] = {}`, for the dictionary at the address. -/
def makeDict (h : Heap κ τ) (a : ℕ) (k : κ) : Heap κ τ :=
  assign (h ++ [.dict ∅]) a k (.object h.length)

/-- Write under a path of keys, from the dictionary at the address. -/
def setAt (h : Heap κ τ) (a : ℕ) : List κ → Ref τ → Heap κ τ
  | [], _ => h
  | [k], v => assign h a k v
  | k :: rest, v =>
      match dictUnder h a k with
      | some b => setAt h b rest v
      | none => setAt (makeDict h a k) h.length rest v

/-- What is left behind by a write under a path. -/
structure Written (h : Heap κ τ) (r v : Ref τ) (path : List κ) (h' : Heap κ τ) : Prop where
  closed : Closed h'
  length : h.length ≤ h'.length
  view : view h' r = overwrite path (view h v) (view h r)
  sole : ∀ p, ¬ path <+: p → Sole h r (steps p) → Sole h' r (steps p)

/-! ### What stands on the way -/

lemma view_of_append {r r' : Ref τ} {p : List (Step κ)} (hp : follow h r p = some r')
    (q : List (Step κ)) : view h r (p ++ q) = view h r' q := by
  rw [view, view, follow_of_append hp]

/-- On the way to a dictionary there are dictionaries. -/
lemma isDict_on_way {r : Ref τ} {c : List κ} {a : ℕ} (hc : follow h r (steps c) = some (.object a))
    (hdict : isDict h a) {c' : List κ} (hpre : c' <+: c) :
    ∃ b, follow h r (steps c') = some (.object b) ∧ isDict h b := by
  obtain ⟨rest, rfl⟩ := hpre
  cases rest with
  | nil =>
      rw [List.append_nil] at hc
      exact ⟨a, hc, hdict⟩
  | cons k rest =>
      rw [steps_append, follow_append] at hc
      obtain ⟨x, hx, hrest⟩ := Option.bind_eq_some_iff.mp hc
      obtain ⟨y, hy, -⟩ := Option.bind_eq_some_iff.mp hrest
      obtain ⟨b, rfl, hb⟩ := isDict_of_child hy
      exact ⟨b, hx, hb⟩

lemma dictUnder_eq_some {a b : ℕ} {k : κ} (hunder : dictUnder h a k = some b) :
    child h (.object a) (.key k) = some (.object b) ∧ isDict h b := by
  rw [dictUnder] at hunder
  split at hunder
  · rename_i c hchild
    split_ifs at hunder with hdict
    obtain rfl : c = b := Option.some.inj hunder
    exact ⟨hchild, hdict⟩
  · cases hunder

/-- Where no dictionary stands, there is nothing under any key. -/
lemma view_of_dictUnder_eq_none {a : ℕ} {k : κ} (hunder : dictUnder h a k = none) (j : κ)
    (rest : List (Step κ)) : view h (.object a) (.key k :: .key j :: rest) = none := by
  rw [dictUnder] at hunder
  rw [view, follow]
  cases hx : child h (.object a) (.key k) with
  | none => rfl
  | some x =>
      rw [Option.bind_some, follow]
      cases hy : child h x (.key j) with
      | none => rfl
      | some y =>
          obtain ⟨b, rfl, hb⟩ := isDict_of_child hy
          simp [hx, hb] at hunder

/-! ### A dictionary that has just been made -/

omit [DecidableEq κ] in
lemma closed_fresh (hclosed : Closed h) : Closed (h ++ [.dict ∅]) := by
  intro o ho r hr
  rw [List.length_append]
  rcases List.mem_append.mp ho with hold | hnew
  · exact (hclosed o hold r hr).mono (Nat.le_add_right _ _)
  · obtain rfl := List.mem_singleton.mp hnew
    exact absurd hr List.not_mem_nil

omit [DecidableEq κ] in
lemma isDict_fresh (h : Heap κ τ) : isDict (h ++ [.dict ∅]) h.length := by
  simp [isDict, Obj.isDict]

/-- Nothing is behind it. -/
lemma follow_fresh {p : List (Step κ)} {x : Ref τ}
    (hp : follow (h ++ [.dict ∅]) (.object h.length) p = some x) : p = [] ∧ x = .object h.length := by
  cases p with
  | nil => exact ⟨rfl, (Option.some.inj hp).symm⟩
  | cons s p => cases s <;> simp [follow, child, Obj.child] at hp

lemma sole_fresh (p : List (Step κ)) : Sole (h ++ [.dict ∅]) (.object h.length) p := by
  intro a _ hp q hq
  rw [(follow_fresh hp).1, (follow_fresh hq).1]

lemma disjoint_fresh (hclosed : Closed h) {r : Ref τ} (hr : r.Within h.length) :
    Disjoint (h ++ [.dict ∅]) r (.object h.length) := by
  intro p a hp q hq
  rw [follow_append_heap hclosed _ hr] at hp
  have hold : a < h.length := hclosed.within_of_follow hr hp
  have hnew : a = h.length := by simpa using (follow_fresh hq).2
  omega

/-! ### The write -/

section Write

variable {r v : Ref τ} {c : List κ} {a : ℕ} {k : κ}

/-- The last write. -/
lemma written_assign (hclosed : Closed h) (hv : v.Within h.length)
    (hc : follow h r (steps c) = some (.object a)) (hdict : isDict h a) (hsole : Sole h r (steps c))
    (hdisjoint : Disjoint h r v) : Written h r v (c ++ [k]) (assign h a k v) where
  closed := closed_assign hclosed hv
  length := length_assign.ge
  view := by
    refine eq_overwrite (fun c' hpre hne => ?_) (fun s => ?_) fun s hs => ?_
    · have hway : c' <+: c := (List.prefix_concat_iff.mp hpre).resolve_left hne
      obtain ⟨b, hb, hdictb⟩ := isDict_on_way hc hdict hway
      obtain ⟨hnil, hitem⟩ := view_dict hdictb
      refine ⟨?_, fun i rest => ?_⟩
      · rw [← hnil, ← view_of_append hb, List.append_nil]
      · rw [view_of_append hb, hitem]
    · rw [steps_append, List.append_assoc]
      exact view_assign_below hc hdict hsole (hdisjoint _ _ hc) s
    · rw [steps_append] at hs
      exact view_assign_beside hc hdict hsole hs
  sole := by
    intro p hp hsolep
    rw [← steps_prefix, steps_append] at hp
    exact sole_assign_beside hc hdict hsole hdisjoint hp hsolep

/-- What is to be written has not been touched. -/
lemma follow_made_value (hclosed : Closed h) (hc : follow h r (steps c) = some (.object a))
    (hv : v.Within h.length) (hdisjoint : Disjoint h r v) (p : List (Step κ)) :
    follow (makeDict h a k) v p = follow h v p := by
  rw [makeDict, follow_assign_of_avoids, follow_append_heap hclosed _ hv]
  intro q hq
  rw [follow_append_heap hclosed _ hv] at hq
  exact hdisjoint _ _ hc q hq

lemma view_made_value (hclosed : Closed h) (hc : follow h r (steps c) = some (.object a))
    (hv : v.Within h.length) (hdisjoint : Disjoint h r v) : view (makeDict h a k) v = view h v := by
  funext p
  rw [view, view, follow_made_value hclosed hc hv hdisjoint]
  cases hp : follow h v p with
  | none => rfl
  | some x =>
      rw [Option.bind_some, Option.bind_some, makeDict, content_assign,
        content_append _ (hclosed.within_of_follow hv hp)]

section Made

variable (hclosed : Closed h) (hr : r.Within h.length)
  (hc : follow h r (steps c) = some (.object a)) (hdict : isDict h a) (hsole : Sole h r (steps c))

include hclosed hr hc hdict hsole

/-- What the new dictionary is written to is as it was before there was one. -/
lemma before_made : follow (h ++ [.dict ∅]) r (steps c) = some (.object a)
    ∧ isDict (h ++ [.dict ∅]) a ∧ Sole (h ++ [.dict ∅]) r (steps c)
    ∧ Avoids (h ++ [.dict ∅]) (.object h.length) a := by
  have hbefore : follow (h ++ [.dict ∅]) r (steps c) = some (.object a) := by
    rw [follow_append_heap hclosed _ hr, hc]
  refine ⟨hbefore, ?_, sole_append hclosed _ hr hsole, disjoint_fresh hclosed hr _ _ hbefore⟩
  rw [isDict_append _ (hclosed.within_of_follow hr hc), hdict]

lemma written_made :
    Written (h ++ [.dict ∅]) r (.object h.length) (c ++ [k]) (makeDict h a k) := by
  obtain ⟨hbefore, hdict', hsole', -⟩ := before_made hclosed hr hc hdict hsole
  refine written_assign (closed_fresh hclosed) ?_ hbefore hdict' hsole' (disjoint_fresh hclosed hr)
  rw [List.length_append]
  exact Nat.lt_succ_self h.length

/-- The dictionary is there. -/
lemma follow_made : follow (makeDict h a k) r (steps (c ++ [k])) = some (.object h.length)
    ∧ isDict (makeDict h a k) h.length := by
  obtain ⟨hbefore, hdict', hsole', havoids⟩ := before_made hclosed hr hc hdict hsole
  rw [makeDict, isDict_assign, steps_append]
  exact ⟨follow_assign_below hbefore hdict' hsole' havoids [], isDict_fresh h⟩

/-- No dictionary has come to a second place. -/
lemma sole_made {p : List κ} (hsolep : Sole h r (steps p)) : Sole (makeDict h a k) r (steps p) := by
  obtain ⟨hbefore, hdict', hsole', -⟩ := before_made hclosed hr hc hdict hsole
  by_cases hp : c ++ [k] <+: p
  · obtain ⟨rest, rfl⟩ := hp
    have hsplit : steps (c ++ [k] ++ rest) = steps c ++ .key k :: steps rest := by simp [steps]
    rw [hsplit]
    exact sole_assign_below hbefore hdict' hsole' (disjoint_fresh hclosed hr) (sole_fresh _)
  · exact (written_made hclosed hr hc hdict hsole).sole p hp (sole_append hclosed _ hr hsolep)

variable (hv : v.Within h.length) (hdisjoint : Disjoint h r v)

include hv hdisjoint

lemma disjoint_made : Disjoint (makeDict h a k) r v := by
  obtain ⟨hbefore, hdict', hsole', havoids⟩ := before_made hclosed hr hc hdict hsole
  intro p b hp q hq
  rw [follow_made_value hclosed hc hv hdisjoint] at hq
  by_cases hbelow : steps c ++ [.key k] <+: p
  · obtain ⟨rest, rfl⟩ := hbelow
    rw [makeDict, List.append_assoc] at hp
    have hfresh := follow_fresh ((follow_assign_below hbefore hdict' hsole' havoids rest).symm.trans hp)
    have hold : b < h.length := hclosed.within_of_follow hv hq
    have hnew : b = h.length := by simpa using hfresh.2
    omega
  · rw [makeDict, follow_assign_beside hbefore hdict' hsole' hbelow,
      follow_append_heap hclosed _ hr] at hp
    exact hdisjoint p b hp q hq

end Made

/-- **A write under a path** of which every dictionary stands in one place only. -/
theorem setAt_spec {keys : List κ} (hkeys : keys ≠ []) (hclosed : Closed h)
    (hr : r.Within h.length) (hv : v.Within h.length)
    (hc : follow h r (steps c) = some (.object a)) (hdict : isDict h a)
    (hsole : ∀ p, p <+: c ++ keys → p ≠ c ++ keys → Sole h r (steps p))
    (hdisjoint : Disjoint h r v) : Written h r v (c ++ keys) (setAt h a keys v) := by
  induction keys generalizing h c a with
  | nil => exact absurd rfl hkeys
  | cons k rest ih =>
      have hsolec : Sole h r (steps c) := hsole c (List.prefix_append _ _) (by simp)
      cases rest with
      | nil => exact written_assign hclosed hv hc hdict hsolec hdisjoint
      | cons next rest =>
          have hpath : c ++ k :: next :: rest = (c ++ [k]) ++ next :: rest := by simp
          rw [setAt]
          · rw [hpath] at hsole ⊢
            cases hunder : dictUnder h a k with
            | some b =>
                -- the dictionary that is there is gone into
                obtain ⟨hchild, hdictb⟩ := dictUnder_eq_some hunder
                have hb : follow h r (steps (c ++ [k])) = some (.object b) := by
                  rw [steps_append, follow_of_append hc]
                  simp [steps, follow, hchild]
                exact ih (List.cons_ne_nil _ _) hclosed hr hv hb hdictb hsole hdisjoint
            | none =>
                -- nothing stands there, or something else that gives place to a dictionary
                have hmade := written_made (k := k) hclosed hr hc hdict hsolec
                obtain ⟨hthere, hdictthere⟩ := follow_made (k := k) hclosed hr hc hdict hsolec
                have hwritten := ih (List.cons_ne_nil _ _) hmade.closed (hr.mono (by simp [makeDict]))
                  (hv.mono (by simp [makeDict])) hthere hdictthere
                  (fun p hpre hne => sole_made hclosed hr hc hdict hsolec (hsole p hpre hne))
                  (disjoint_made hclosed hr hc hdict hsolec hv hdisjoint)
                refine ⟨hwritten.closed, le_trans (by simp [makeDict]) hwritten.length, ?_,
                  fun p hp hsolep =>
                    hwritten.sole p hp (sole_made hclosed hr hc hdict hsolec hsolep)⟩
                rw [hwritten.view, view_made_value hclosed hc hv hdisjoint, hmade.view,
                  view_append_heap hclosed _ hr, overwrite_overwrite]
                · intro j tail
                  rw [steps_append, List.append_assoc, view_of_append hc]
                  exact view_of_dictUnder_eq_none hunder j tail
                · intro j tail
                  rw [view, Option.bind_eq_none_iff]
                  intro x hx
                  exact absurd (follow_fresh hx).1 (List.cons_ne_nil _ _)
          · simp

end Write

/-! ### A run of writes -/

/-- What is written is loaded, and then written, one after the other. -/
def writeAll (h : Heap κ τ) (a : ℕ) (writes : List (List κ × Rooted κ τ)) : Heap κ τ :=
  writes.foldl (fun h write => setAt (load h write.2) a write.1 (loaded h write.2)) h

/-- No dictionary on the way to what is written stands in a second place. -/
def SoleOnWay (h : Heap κ τ) (r : Ref τ) (writes : List (List κ × Rooted κ τ)) : Prop :=
  ∀ w ∈ writes, ∀ p, p <+: w.1 → p ≠ w.1 → Sole h r (steps p)

lemma isDict_of_view {a : ℕ} (hview : view h (.object a) [] = some .dictionary) : isDict h a := by
  rw [isDict]
  cases ho : h[a]? with
  | none => simp [view, follow, content, ho] at hview
  | some o => cases o <;> simp_all [view, follow, content, Obj.content, Obj.isDict]

omit [DecidableEq κ] in
lemma within_of_isDict {a : ℕ} (hdict : isDict h a) : (Ref.object a : Ref τ).Within h.length := by
  obtain ⟨d, hd⟩ := isDict_iff.mp hdict
  exact (List.getElem?_eq_some_iff.mp hd).1

/-- **A run of writes** under paths that are apart is the run that a reader sees, when no dictionary on
their way stands in a second place. -/
theorem writeAll_spec {a : ℕ} {writes : List (List κ × Rooted κ τ)} (hclosed : Closed h)
    (hdict : isDict h a) (hwrites : ∀ w ∈ writes, w.1 ≠ [] ∧ w.2.Closed) (hapart : AllApart writes)
    (hsole : SoleOnWay h (.object a) writes) :
    view (writeAll h a writes) (.object a)
      = overwriteAll (view h (.object a)) (writes.map fun w => (w.1, w.2.view)) := by
  induction writes generalizing h with
  | nil => rfl
  | cons w rest ih =>
      obtain ⟨path, g⟩ := w
      obtain ⟨⟨hne, hg⟩, hrest⟩ := List.forall_mem_cons.mp hwrites
      obtain ⟨hfirst, happart⟩ := List.pairwise_cons.mp hapart
      obtain ⟨hsolefirst, hsolerest⟩ := List.forall_mem_cons.mp hsole
      have hr := within_of_isDict hdict
      obtain ⟨hclosed', hv⟩ := closed_load hclosed hg
      have hwritten : Written (load h g) (.object a) (loaded h g) path
          (setAt (load h g) a path (loaded h g)) := by
        refine setAt_spec (c := []) hne hclosed' ?_ hv rfl ?_ (fun p hpre hproper => ?_)
          (disjoint_load hclosed hr g)
        · exact hr.mono (by rw [length_load]; exact Nat.le_add_right _ _)
        · rw [load, isDict_append _ hr, hdict]
        · exact sole_append hclosed _ hr (hsolefirst p hpre hproper)
      have hview : view (setAt (load h g) a path (loaded h g)) (.object a)
          = overwrite path g.view (view h (.object a)) := by
        rw [hwritten.view, view_loaded, load, view_append_heap hclosed _ hr]
      have hdict' : isDict (setAt (load h g) a path (loaded h g)) a := by
        refine isDict_of_view ?_
        rw [hview]
        cases path with
        | nil => exact absurd rfl hne
        | cons k path => rfl
      rw [writeAll, List.foldl_cons, ← writeAll, ih hwritten.closed hdict' hrest happart, hview]
      · rfl
      · intro w' hw' p hpre hproper
        refine hwritten.sole p (fun hpath => (hfirst w' hw').1 (hpath.trans hpre)) ?_
        exact sole_append hclosed _ hr (hsolerest w' hw' p hpre hproper)

end ObjectGraph
