import Mathlib.Data.List.Basic
import Mathlib.Data.List.Induction

/-!
# The best of a list

A list is put in order by a stable sort and cut off: `best r n l`.  `Best` says what is left, for any
ranking `r`: the entries in order, as many as there may be, none of them worse than one that was
dropped, and equals in the order they had (`best_best`).  Choosing again changes nothing
(`best_of_ordered`).  `mem_best_iff` says which entries they are, one by one.

`keep` is the loop that goes through a list once and remembers the best offer so far; `foldl_keep`
says that it ends with the first of the best ones.
-/

namespace BestFirst

variable {τ : Type} {r : τ → τ → Prop}

/-- Any two entries can be ranked; equals may rank before each other. -/
structure Ranking (r : τ → τ → Prop) : Prop where
  trans : ∀ a b c, r a b → r b c → r a c
  total : ∀ a b, r a b ∨ r b a

variable [DecidableRel r] {n : ℕ} {l kept : List τ}

/-- The first `n` of a list that has been sorted. -/
def best (r : τ → τ → Prop) [DecidableRel r] (n : ℕ) (l : List τ) : List τ :=
  (l.mergeSort fun a b => decide (r a b)).take n

/-- Each of the two may come before the other. -/
def tied (r : τ → τ → Prop) [DecidableRel r] (x y : τ) : Bool := decide (r x y ∧ r y x)

/-- These are the `n` best entries of a list. -/
structure Best (r : τ → τ → Prop) [DecidableRel r] (n : ℕ) (l kept : List τ) : Prop where
  ordered : kept.Pairwise r
  size : kept.length = min n l.length
  selected : ∃ dropped, l.Perm (kept ++ dropped) ∧ ∀ x ∈ kept, ∀ y ∈ dropped, r x y
  stable : ∀ x, kept.filter (tied r x) <+: l.filter (tied r x)

section Sorting

variable (hr : Ranking r)

include hr

lemma Ranking.decide_trans (a b c : τ) (hab : decide (r a b) = true) (hbc : decide (r b c) = true) :
    decide (r a c) = true := by
  simp only [decide_eq_true_eq] at hab hbc ⊢
  exact hr.trans a b c hab hbc

lemma Ranking.decide_total (a b : τ) : (decide (r a b) || decide (r b a)) = true := by
  simpa using hr.total a b

lemma ordered_mergeSort (l : List τ) : (l.mergeSort fun a b => decide (r a b)).Pairwise r := by
  simpa using List.pairwise_mergeSort hr.decide_trans hr.decide_total l

/-- The sort keeps the order of equals. -/
lemma filter_mergeSort (x : τ) (l : List τ) :
    (l.mergeSort fun a b => decide (r a b)).filter (tied r x) = l.filter (tied r x) := by
  have hequal : (l.filter (tied r x)).Pairwise fun a b => decide (r a b) = true := by
    rw [List.pairwise_iff_forall_sublist]
    intro a b hab
    have ha := (List.mem_filter.mp (hab.subset List.mem_cons_self)).2
    have hb := (List.mem_filter.mp (hab.subset (List.mem_cons_of_mem _ List.mem_cons_self))).2
    simp only [tied, decide_eq_true_eq] at ha hb ⊢
    exact hr.trans a x b ha.2 hb.1
  have hsub : (l.filter (tied r x)).Sublist
      ((l.mergeSort fun a b => decide (r a b)).filter (tied r x)) := by
    simpa [List.filter_filter] using (List.sublist_mergeSort hr.decide_trans hr.decide_total hequal
      List.filter_sublist).filter (tied r x)
  have hperm := (List.mergeSort_perm l fun a b => decide (r a b)).filter (tied r x)
  exact (hsub.eq_of_length hperm.length_eq.symm).symm

/-- **The first entries of a sorted list are the best ones.** -/
theorem best_best (n : ℕ) (l : List τ) : Best r n l (best r n l) where
  ordered := (ordered_mergeSort hr l).sublist (List.take_sublist n _)
  size := by
    rw [best, List.length_take, List.length_mergeSort]
  selected := by
    refine ⟨(l.mergeSort fun a b => decide (r a b)).drop n, ?_, ?_⟩
    · rw [best, List.take_append_drop]
      exact (List.mergeSort_perm l _).symm
    · have hordered := ordered_mergeSort hr l
      rw [← List.take_append_drop n (l.mergeSort _), List.pairwise_append] at hordered
      exact hordered.2.2
  stable := by
    intro x
    rw [← filter_mergeSort hr x l, best]
    exact (List.take_prefix n _).filter (tied r x)

omit hr in
/-- What is in order already is not touched, as long as it fits. -/
lemma best_of_ordered (hordered : l.Pairwise r) (hfits : l.length ≤ n) : best r n l = l := by
  have hsorted : l.Pairwise fun a b => decide (r a b) = true := by simpa using hordered
  rw [best, List.mergeSort_of_pairwise hsorted, List.take_of_length_le hfits]

end Sorting

namespace Best

variable (h : Best r n l kept)

include h

lemma mem {x : τ} (hx : x ∈ kept) : x ∈ l := by
  obtain ⟨dropped, hperm, -⟩ := h.selected
  exact hperm.mem_iff.mpr (List.mem_append_left _ hx)

lemma eq_nil_iff (hn : 0 < n) : kept = [] ↔ l = [] := by
  rw [← List.length_eq_zero_iff, h.size, ← List.length_eq_zero_iff]
  omega

/-- The first entry is before all others. -/
lemma first_le (hr : Ranking r) {x : τ} {rest : List τ} (hkept : kept = x :: rest) :
    ∀ y ∈ l, r x y := by
  obtain ⟨dropped, hperm, hbetter⟩ := h.selected
  have hordered := h.ordered
  subst hkept
  intro y hy
  rcases List.mem_append.mp (hperm.mem_iff.mp hy) with hmem | hmem
  · rcases List.mem_cons.mp hmem with rfl | hmem
    · exact (hr.total y y).elim id id
    · exact (List.pairwise_cons.mp hordered).1 y hmem
  · exact hbetter x List.mem_cons_self y hmem

end Best

/-! ## Who is among them -/

section Standing

lemma mem_take_split {before after : List τ} {x : τ} (hx : x ∉ before) :
    x ∈ (before ++ x :: after).take n ↔ before.length < n := by
  rw [List.take_append, List.mem_append]
  constructor
  · rintro (hmem | hmem)
    · exact absurd (List.mem_of_mem_take hmem) hx
    · by_contra hle
      rw [Nat.sub_eq_zero_of_le (Nat.le_of_not_lt hle), List.take_zero] at hmem
      cases hmem
  · intro hlt
    obtain ⟨m, hm⟩ : ∃ m, n - before.length = m + 1 := ⟨n - before.length - 1, by omega⟩
    rw [hm, List.take_succ_cons]
    exact Or.inr List.mem_cons_self

variable [DecidableEq τ]

/-- How many entries come before this one: the better ones, and its equals that are earlier. -/
def standing (r : τ → τ → Prop) [DecidableRel r] (l : List τ) (x : τ) : ℕ :=
  l.countP (fun y => ¬ r x y) + (l.take (l.idxOf x)).countP (tied r x)

/-- **An entry is chosen** exactly if fewer than `n` come before it. -/
theorem mem_best_iff (hr : Ranking r) (hnodup : l.Nodup) {x : τ} (hx : x ∈ l) :
    x ∈ best r n l ↔ standing r l x < n := by
  have hperm := List.mergeSort_perm l fun a b => decide (r a b)
  have hequals := filter_mergeSort hr x l
  have hordered := ordered_mergeSort hr l
  have hself : r x x := (hr.total x x).elim id id
  rw [best]
  generalize (l.mergeSort fun a b => decide (r a b)) = sorted at hperm hequals hordered ⊢
  obtain ⟨first, last, rfl⟩ := List.append_of_mem (hperm.mem_iff.mpr hx)
  obtain ⟨before, after, rfl⟩ := List.append_of_mem hx
  have hbefore : x ∉ before := fun h =>
    (List.nodup_append.mp hnodup).2.2 x h x List.mem_cons_self rfl
  obtain ⟨-, hnodup', hdisjoint⟩ := List.nodup_append.mp (hperm.nodup_iff.mpr hnodup)
  have hfirst : x ∉ first := fun h => hdisjoint x h x List.mem_cons_self rfl
  have hnotlast : x ∉ last := (List.nodup_cons.mp hnodup').1
  obtain ⟨-, hlast, hcross⟩ := List.pairwise_append.mp hordered
  have hlast := (List.pairwise_cons.mp hlast).1
  -- those in front of `x` are its equals, or better
  have hbetter : (before ++ x :: after).countP (fun y => ¬ r x y)
      = first.countP fun y => ¬ r x y := by
    have hnone : last.countP (fun y => ¬ r x y) = 0 := by
      rw [List.countP_eq_zero]
      intro y hy
      simp [hlast y hy]
    rw [← hperm.countP_eq, List.countP_append, List.countP_cons, hnone]
    simp [hself]
  have htied : before.countP (tied r x) = first.countP (tied r x) := by
    have hkeep : tied r x x = true := by simp [tied, hself]
    rw [List.filter_append, List.filter_append, List.filter_cons_of_pos hkeep,
      List.filter_cons_of_pos hkeep] at hequals
    have hsplit := (List.append_cons_inj_of_notMem
      (fun h => hfirst (List.mem_of_mem_filter h))
      (fun h => hnotlast (List.mem_of_mem_filter h))).mp hequals
    rw [List.countP_eq_length_filter, List.countP_eq_length_filter, hsplit.1]
  have hrest : first.countP (tied r x) = first.countP fun y => ¬ decide (¬ r x y) = true := by
    refine List.countP_congr fun y hy => ?_
    have hyx : r y x := hcross y hy x List.mem_cons_self
    simp [tied, hyx]
  have hlength : first.length = standing r (before ++ x :: after) x := by
    rw [standing, List.idxOf_append_of_notMem hbefore, List.idxOf_cons_self, Nat.add_zero,
      List.take_left, hbetter, htied, hrest]
    exact List.length_eq_countP_add_countP _
  rw [mem_take_split hfirst, hlength]

end Standing

/-! ## The best so far -/

section Scan

variable {κ : Type} {r : κ → κ → Prop} [DecidableRel r] {offer : τ → Option κ} {l : List τ}

/-- One turn of the loop: an offer takes the place of the best one so far unless that may come
before it.  Some entries offer nothing. -/
def keep (r : κ → κ → Prop) [DecidableRel r] (offer : τ → Option κ) (best : Option κ) (x : τ) :
    Option κ :=
  match offer x, best with
  | none, best => best
  | some k, none => some k
  | some k, some b => if r b k then some b else some k

/-- The first of the best offers: before every later offer, and no earlier one before it. -/
def FirstBest (r : κ → κ → Prop) (offer : τ → Option κ) (l : List τ) (k : κ) : Prop :=
  ∃ before x after, l = before ++ x :: after ∧ offer x = some k
    ∧ (∀ y ∈ before, ∀ b, offer y = some b → ¬ r b k) ∧ ∀ y ∈ after, ∀ b, offer y = some b → r k b

omit [DecidableRel r] in
lemma FirstBest.snoc {k : κ} (h : FirstBest r offer l k) {x : τ}
    (hx : ∀ b, offer x = some b → r k b) : FirstBest r offer (l ++ [x]) k := by
  obtain ⟨before, y, after, rfl, hy, hbefore, hafter⟩ := h
  refine ⟨before, y, after ++ [x], by rw [List.append_assoc, List.cons_append], hy, hbefore, ?_⟩
  intro z hz
  rcases List.mem_append.mp hz with hz | hz
  · exact hafter z hz
  · rw [List.mem_singleton.mp hz]
    exact hx

omit [DecidableRel r] in
/-- What is before the first of the best is before all others. -/
lemma FirstBest.beaten (hr : Ranking r) {k k' : κ} (h : FirstBest r offer l k) (hbetter : ¬ r k k')
    {y : τ} (hy : y ∈ l) {b : κ} (hb : offer y = some b) : ¬ r b k' := by
  obtain ⟨before, x, after, rfl, hx, hbefore, hafter⟩ := h
  intro hbk
  rcases List.mem_append.mp hy with hmem | hmem
  · -- an earlier offer is beaten by `k`, which is beaten by `k'`
    have hkb : r k b := (hr.total k b).resolve_right (hbefore y hmem b hb)
    exact hbetter (hr.trans k b k' hkb hbk)
  · rcases List.mem_cons.mp hmem with rfl | hmem
    · rw [hx, Option.some.injEq] at hb
      exact hbetter (hb ▸ hbk)
    · exact hbetter (hr.trans k b k' (hafter y hmem b hb) hbk)

/-- **The loop ends with the first of the best offers**, or without one when there is none. -/
theorem foldl_keep (hr : Ranking r) (offer : τ → Option κ) (l : List τ) :
    (l.foldl (keep r offer) none = none ∧ ∀ x ∈ l, offer x = none)
      ∨ ∃ k, l.foldl (keep r offer) none = some k ∧ FirstBest r offer l k := by
  induction l using List.reverseRecOn with
  | nil => exact Or.inl ⟨rfl, fun x hx => absurd hx List.not_mem_nil⟩
  | append_singleton l x ih =>
      rw [List.foldl_append, List.foldl_cons, List.foldl_nil]
      rcases ih with ⟨hnone, hall⟩ | ⟨b, hbest, hfirst⟩
      · rw [hnone]
        cases hx : offer x with
        | none =>
            refine Or.inl ⟨by simp only [keep, hx], fun y hy => ?_⟩
            rcases List.mem_append.mp hy with hy | hy
            · exact hall y hy
            · rw [List.mem_singleton.mp hy]
              exact hx
        | some k =>
            refine Or.inr ⟨k, by simp only [keep, hx], l, x, [], rfl, hx, ?_, fun y hy => ?_⟩
            · intro y hy b hb
              rw [hall y hy] at hb
              cases hb
            · exact absurd hy List.not_mem_nil
      · rw [hbest]
        cases hx : offer x with
        | none =>
            refine Or.inr ⟨b, by simp only [keep, hx], hfirst.snoc fun k hk => ?_⟩
            rw [hx] at hk
            cases hk
        | some k =>
            by_cases hkeep : r b k
            · refine Or.inr ⟨b, by simp only [keep, hx, if_pos hkeep], hfirst.snoc fun k' hk => ?_⟩
              rw [hx, Option.some.injEq] at hk
              exact hk ▸ hkeep
            · refine Or.inr ⟨k, by simp only [keep, hx, if_neg hkeep], l, x, [], rfl, hx, ?_, ?_⟩
              · exact fun y hy b' hb' => hfirst.beaten hr hkeep hy hb'
              · exact fun y hy => absurd hy List.not_mem_nil

end Scan

end BestFirst
