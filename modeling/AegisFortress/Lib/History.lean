import Mathlib.Data.List.DropRight
import Mathlib.Order.Defs.PartialOrder
import Mathlib.Algebra.BigOperators.Group.List.Basic
import Mathlib.Tactic.Abel

/-!
# Histories

A history is a list that grows at its end.  Its last entries are `List.rtake`: a window over it is
slid by `rtake_snoc`, and `mem_rtake_filter` compares the last entries of a kind with the last
entries of any kind.  `Since` reads a history of changes, each with its time: something has held from
some time on until now.  `Happened` and `First` are about events that depend on the entries before
them; `happened_snoc` and `first_snoc` say what one more entry adds.  `steps` is the history of a run,
each input with the state that met it, along which `sum_steps` adds up the changes of a value.
`sinceLast` is the part of a history from the last entry of a kind on.
-/

namespace History

variable {τ : Type}

/-! ## The last entries -/

section Window

variable {n : ℕ}

/-- Sliding a window over one more entry. -/
lemma rtake_snoc (l : List τ) (x : τ) : (l.rtake n ++ [x]).rtake n = (l ++ [x]).rtake n := by
  cases n with
  | zero => rw [List.rtake_zero, List.rtake_zero]
  | succ m =>
      rw [List.rtake_concat_succ, List.rtake_concat_succ]
      simp only [List.rtake_eq_reverse_take_reverse, List.reverse_reverse, List.take_take,
        Nat.min_eq_left (Nat.le_succ m)]

lemma rtake_map {υ : Type} (f : τ → υ) (l : List τ) : (l.map f).rtake n = (l.rtake n).map f := by
  rw [List.rtake, List.rtake, List.length_map, List.map_drop]

lemma length_rtake_of_le {l : List τ} (h : n ≤ l.length) : (l.rtake n).length = n := by
  rw [List.rtake, List.length_drop]
  omega

/-- An entry of a kind that is among the last is among the last of its kind. -/
lemma mem_rtake_filter {l : List τ} (p : τ → Bool) {x : τ} (hx : x ∈ l.rtake n) (hp : p x = true) :
    x ∈ (l.filter p).rtake n := by
  obtain ⟨older, hsplit⟩ := List.drop_suffix (l.length - n) l
  have hfew : ((l.rtake n).filter p).length ≤ n := by
    refine (List.length_filter_le p _).trans ?_
    rw [List.rtake, List.length_drop]
    omega
  have hfilter : l.filter p = older.filter p ++ (l.rtake n).filter p := by
    rw [← List.filter_append, List.rtake, hsplit]
  rw [hfilter, List.rtake, List.length_append, List.drop_append_of_le_length (by omega)]
  exact List.mem_append_right _ (List.mem_filter.mpr ⟨hx, hp⟩)

end Window

/-! ## Since when -/

section Since

variable {K : Type} [Preorder K] {P : τ → Prop} {log : List (K × τ)} {time : K}

/-- From this time at the latest, every entry has been such that `P`. -/
def Since (P : τ → Prop) (log : List (K × τ)) (time : K) : Prop :=
  ∃ before change after, log = before ++ change :: after ∧ change.1 ≤ time
    ∧ ∀ entry ∈ change :: after, P entry.2

/-- The last entry alone. -/
lemma since_last {before : List (K × τ)} {change : K × τ} (htime : change.1 ≤ time)
    (h : P change.2) : Since P (before ++ [change]) time := by
  refine ⟨before, change, [], rfl, htime, fun entry hentry => ?_⟩
  rw [List.mem_singleton.mp hentry]
  exact h

lemma Since.mono {time' : K} (h : Since P log time) (hle : time ≤ time') : Since P log time' := by
  obtain ⟨before, change, after, hsplit, htime, hall⟩ := h
  exact ⟨before, change, after, hsplit, htime.trans hle, hall⟩

lemma Since.snoc (hsince : Since P log time) {change : K × τ} (h : P change.2) :
    Since P (log ++ [change]) time := by
  obtain ⟨before, first, after, rfl, htime, hall⟩ := hsince
  refine ⟨before, first, after ++ [change], by rw [List.append_assoc, List.cons_append], htime,
    fun entry hentry => ?_⟩
  rw [← List.cons_append, List.mem_append, List.mem_singleton] at hentry
  rcases hentry with hold | rfl
  · exact hall entry hold
  · exact h

lemma not_since_nil : ¬ Since P [] time := by
  rintro ⟨before, change, after, hnil, -, -⟩
  cases before <;> cases hnil

lemma since_cons {change : K × τ} : Since P (change :: log) time
    ↔ (change.1 ≤ time ∧ ∀ entry ∈ change :: log, P entry.2) ∨ Since P log time := by
  constructor
  · rintro ⟨before, first, after, hsplit, htime, hall⟩
    cases before with
    | nil =>
        cases hsplit
        exact Or.inl ⟨htime, hall⟩
    | cons _ before =>
        cases hsplit
        exact Or.inr ⟨before, first, after, rfl, htime, hall⟩
  · rintro (⟨htime, hall⟩ | ⟨before, first, after, rfl, htime, hall⟩)
    · exact ⟨[], change, log, rfl, htime, hall⟩
    · exact ⟨change :: before, first, after, rfl, htime, hall⟩

instance decidableSince [DecidableLE K] [DecidablePred P] :
    (log : List (K × τ)) → Decidable (Since P log time)
  | [] => .isFalse not_since_nil
  | _ :: log =>
      have := decidableSince log
      decidable_of_iff _ since_cons.symm

end Since

/-! ## Events -/

section Events

variable {ρ : Type} {R : List τ → τ → ρ → Prop} {l : List τ} {x : τ} {r : ρ}

/-- Splitting a history at an entry: it is the last one, or one of those before. -/
lemma snoc_eq_split {before after : List τ} {y : τ} : l ++ [x] = before ++ y :: after
    ↔ (l = before ∧ x = y ∧ after = []) ∨ ∃ rest, l = before ++ y :: rest ∧ after = rest ++ [x] := by
  constructor
  · intro h
    rcases after.eq_nil_or_concat with rfl | ⟨rest, z, rfl⟩
    · obtain ⟨hl, hx⟩ := List.append_inj' h rfl
      exact Or.inl ⟨hl, List.head_eq_of_cons_eq hx, rfl⟩
    · rw [List.concat_eq_append, ← List.cons_append, ← List.append_assoc] at h
      obtain ⟨hl, hx⟩ := List.append_inj' h rfl
      refine Or.inr ⟨rest, hl, ?_⟩
      rw [List.concat_eq_append, List.head_eq_of_cons_eq hx]
  · rintro (⟨rfl, rfl, rfl⟩ | ⟨rest, rfl, rfl⟩)
    · rfl
    · rw [List.append_assoc, List.cons_append]

/-- Some entry was an event, given the entries before it. -/
def Happened (R : List τ → τ → ρ → Prop) (l : List τ) : Prop :=
  ∃ before x after r, l = before ++ x :: after ∧ R before x r

/-- The first event. -/
def First (R : List τ → τ → ρ → Prop) (l : List τ) (r : ρ) : Prop :=
  ∃ before x after, l = before ++ x :: after ∧ R before x r ∧ ¬ Happened R before

lemma not_happened_nil : ¬ Happened R [] := by
  rintro ⟨before, x, after, r, hnil, -⟩
  cases before <;> cases hnil

lemma First.happened (h : First R l r) : Happened R l := by
  obtain ⟨before, x, after, hsplit, hevent, -⟩ := h
  exact ⟨before, x, after, r, hsplit, hevent⟩

lemma happened_snoc : Happened R (l ++ [x]) ↔ Happened R l ∨ ∃ r, R l x r := by
  constructor
  · rintro ⟨before, y, after, r, hsplit, hevent⟩
    rcases snoc_eq_split.mp hsplit with ⟨rfl, rfl, -⟩ | ⟨rest, hl, -⟩
    · exact Or.inr ⟨r, hevent⟩
    · exact Or.inl ⟨before, y, rest, r, hl, hevent⟩
  · rintro (⟨before, y, rest, r, hl, hevent⟩ | ⟨r, hevent⟩)
    · exact ⟨before, y, rest ++ [x], r, snoc_eq_split.mpr (Or.inr ⟨rest, hl, rfl⟩), hevent⟩
    · exact ⟨l, x, [], r, rfl, hevent⟩

lemma first_snoc : First R (l ++ [x]) r ↔ First R l r ∨ (R l x r ∧ ¬ Happened R l) := by
  constructor
  · rintro ⟨before, y, after, hsplit, hevent, hnone⟩
    rcases snoc_eq_split.mp hsplit with ⟨rfl, rfl, -⟩ | ⟨rest, hl, -⟩
    · exact Or.inr ⟨hevent, hnone⟩
    · exact Or.inl ⟨before, y, rest, hl, hevent, hnone⟩
  · rintro (⟨before, y, rest, hl, hevent, hnone⟩ | ⟨hevent, hnone⟩)
    · exact ⟨before, y, rest ++ [x], snoc_eq_split.mpr (Or.inr ⟨rest, hl, rfl⟩), hevent, hnone⟩
    · exact ⟨l, x, [], rfl, hevent, hnone⟩

end Events

/-! ## The steps of a run -/

section Steps

variable {σ ι : Type} (step : σ → ι → σ)

/-- The inputs of a run, each with the state that meets it. -/
def steps (s : σ) : List ι → List (σ × ι)
  | [] => []
  | i :: rest => (s, i) :: steps (step s i) rest

lemma steps_snoc (s : σ) (inputs : List ι) (i : ι) :
    steps step s (inputs ++ [i]) = steps step s inputs ++ [(inputs.foldl step s, i)] := by
  induction inputs generalizing s with
  | nil => rfl
  | cons j rest ih => rw [List.cons_append, steps, ih, steps, List.cons_append, List.foldl_cons]

/-- What each step preserves holds of every state that an input of the run meets. -/
lemma steps_invariant {Inv : σ → Prop} {inputs : List ι} (hstep : ∀ s, ∀ i ∈ inputs, Inv s → Inv (step s i))
    {s : σ} (hs : Inv s) : ∀ met ∈ steps step s inputs, Inv met.1 ∧ met.2 ∈ inputs := by
  induction inputs generalizing s with
  | nil => exact fun met hmet => absurd hmet List.not_mem_nil
  | cons i rest ih =>
      intro met hmet
      rw [steps, List.mem_cons] at hmet
      rcases hmet with rfl | hmet
      · exact ⟨hs, List.mem_cons_self⟩
      · obtain ⟨hmet, hin⟩ := ih (fun s i hi => hstep s i (List.mem_cons_of_mem _ hi))
          (hstep s i List.mem_cons_self hs) met hmet
        exact ⟨hmet, List.mem_cons_of_mem _ hin⟩

/-- Each input of a run meets the state that the one before has left. -/
lemma steps_isChain (s : σ) (inputs : List ι) :
    (steps step s inputs).IsChain fun before now => now.1 = step before.1 before.2 := by
  induction inputs generalizing s with
  | nil => exact .nil
  | cons i rest ih =>
      cases rest with
      | nil => exact .singleton _
      | cons j rest => exact List.isChain_cons_cons.mpr ⟨rfl, ih (step s i)⟩

/-- Over a run the changes of a value add up. -/
lemma sum_steps {K : Type} [AddCommGroup K] {gain booked : σ → ι → K} (value : σ → K)
    (h : ∀ s i, gain s i = booked s i + (value (step s i) - value s)) (s : σ) (inputs : List ι) :
    ((steps step s inputs).map fun met => gain met.1 met.2).sum
      = ((steps step s inputs).map fun met => booked met.1 met.2).sum
        + (value (inputs.foldl step s) - value s) := by
  induction inputs generalizing s with
  | nil => simp [steps]
  | cons i rest ih =>
      simp only [steps, List.map_cons, List.sum_cons, List.foldl_cons]
      rw [ih, h]
      abel

end Steps

/-! ## Since the last entry of a kind -/

section SinceLast

variable (P : τ → Prop) [DecidablePred P]

/-- The entries from the last one on that is such that `P`; all of them when there is none. -/
def sinceLast (l : List τ) : List τ := l.foldl (fun part x => if P x then [x] else part ++ [x]) []

/-- **One more entry** begins a new part, or is added to the part there is. -/
lemma sinceLast_snoc (l : List τ) (x : τ) :
    sinceLast P (l ++ [x]) = if P x then [x] else sinceLast P l ++ [x] := by
  rw [sinceLast, List.foldl_append]
  rfl

lemma sinceLast_suffix (l : List τ) : sinceLast P l <:+ l := by
  induction l using List.reverseRecOn with
  | nil => exact List.suffix_rfl
  | append_singleton l x ih =>
      rw [sinceLast_snoc]
      split_ifs
      · exact List.suffix_append l [x]
      · obtain ⟨before, hsplit⟩ := ih
        exact ⟨before, by rw [← List.append_assoc, hsplit]⟩

end SinceLast

end History
