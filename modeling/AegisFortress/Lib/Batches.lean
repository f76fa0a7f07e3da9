import Mathlib.Algebra.Order.Group.Defs
import Mathlib.Algebra.Order.Monoid.Unbundled.Basic
import Mathlib.Data.List.Basic
import Mathlib.Order.Defs.LinearOrder

/-!
# A queue that is emptied in batches

Items wait in a queue until there are enough of them, or until it is asked for and the queue has not been emptied
for some time, or until it is emptied by force.  What it gives away is always all that waits.

No item is lost, none comes twice and none overtakes another (`added_eq`), no batch is empty or too large
(`length_batch`), and an item goes with the first request that comes late enough after it (`gone_in_time`).
-/

namespace Batches

variable {α K : Type}

/-- The items that wait, and when the queue was emptied last. -/
structure Queue (α K : Type) where
  waiting : List α
  lastFlush : K

/-- A call, and the time; a request looks at the clock, and once more if it empties the queue. -/
inductive Call (α K : Type)
  | add (now : K) (item : α)
  | tick (now flushed : K)
  | flush (now : K)

/-- The item that comes with the call. -/
def Call.added : Call α K → List α
  | .add _ item => [item]
  | _ => []

/-- When the queue is emptied, if the call empties it. -/
def Call.flushed : Call α K → K
  | .add now _ => now
  | .tick _ flushed => flushed
  | .flush now => now

variable (size : ℕ) (interval : K) (q : Queue α K)

/-- The queue emptied, and the batch, if there is one. -/
def Queue.flush (now : K) : Queue α K × List (List α) :=
  if q.waiting.isEmpty then (q, []) else (⟨[], now⟩, [q.waiting])

variable [Sub K] [LE K] [DecidableLE K]

/-- One call: the queue after it, and the batch it gives away, if there is one. -/
def Queue.call : Call α K → Queue α K × List (List α)
  | .add now item =>
      let added : Queue α K := { q with waiting := q.waiting ++ [item] }
      if size ≤ added.waiting.length then added.flush now else (added, [])
  | .tick now flushed =>
      if ¬ q.waiting.isEmpty ∧ interval ≤ now - q.lastFlush then q.flush flushed else (q, [])
  | .flush now => q.flush now

/-- The queue after some calls. -/
def Queue.after (calls : List (Call α K)) : Queue α K := calls.foldl (fun q c => (q.call size interval c).1) q

/-- The batches given away. -/
def Queue.batches : Queue α K → List (Call α K) → List (List α)
  | _, [] => []
  | q, c :: rest => (q.call size interval c).2 ++ Queue.batches (q.call size interval c).1 rest

variable {size interval} {q}

omit [Sub K] [LE K] [DecidableLE K] in
lemma flush_of_some {now : K} (h : q.waiting ≠ []) : q.flush now = (⟨[], now⟩, [q.waiting]) := by
  simp [Queue.flush, h]

/-- A call leaves the items where they are, or gives all of them away. -/
lemma call_cases (size : ℕ) (interval : K) (q : Queue α K) (c : Call α K) :
    (q.call size interval c = (⟨q.waiting ++ c.added, q.lastFlush⟩, [])
        ∧ (c.added ≠ [] → q.waiting.length + 1 < size)
        ∧ ∀ now flushed, c = .tick now flushed → q.waiting = [] ∨ ¬ interval ≤ now - q.lastFlush)
      ∨ q.call size interval c = (⟨[], c.flushed⟩, [q.waiting ++ c.added]) ∧ q.waiting ++ c.added ≠ [] := by
  have hstay : q = ⟨q.waiting ++ [], q.lastFlush⟩ := by simp
  cases c with
  | add now item =>
      have hsome : q.waiting ++ [item] ≠ [] := by simp
      by_cases hfull : size ≤ (q.waiting ++ [item]).length
      · refine Or.inr ⟨?_, hsome⟩
        simp only [Queue.call, if_pos hfull, Call.added]
        exact flush_of_some (q := { q with waiting := q.waiting ++ [item] }) hsome
      · refine Or.inl ⟨by simp only [Queue.call, if_neg hfull, Call.added], fun _ => ?_, nofun⟩
        simpa using hfull
  | tick now flushed =>
      by_cases hdue : ¬ q.waiting.isEmpty ∧ interval ≤ now - q.lastFlush
      · have hsome : q.waiting ≠ [] := by simpa using hdue.1
        refine Or.inr ⟨?_, by simpa [Call.added]⟩
        simp only [Queue.call, if_pos hdue, Call.added, Call.flushed, List.append_nil, flush_of_some hsome]
      · refine Or.inl ⟨?_, by simp [Call.added], fun now' flushed' heq => ?_⟩
        · simp only [Queue.call, if_neg hdue, Call.added, ← hstay]
        · cases heq
          rw [not_and_or, not_not, List.isEmpty_iff] at hdue
          exact hdue
  | flush now =>
      by_cases hnone : q.waiting = []
      · refine Or.inl ⟨?_, by simp [Call.added], nofun⟩
        simp only [Queue.call, Queue.flush, hnone, List.isEmpty_nil, if_true, Call.added]
        rw [hnone] at hstay
        rw [← hstay]
      · refine Or.inr ⟨?_, by simpa [Call.added]⟩
        simp only [Queue.call, flush_of_some hnone, Call.added, Call.flushed, List.append_nil]

lemma after_append (q : Queue α K) (xs ys : List (Call α K)) :
    q.after size interval (xs ++ ys) = (q.after size interval xs).after size interval ys :=
  List.foldl_append

lemma batches_append (q : Queue α K) (xs ys : List (Call α K)) :
    q.batches size interval (xs ++ ys)
      = q.batches size interval xs ++ (q.after size interval xs).batches size interval ys := by
  induction xs generalizing q with
  | nil => rfl
  | cons c xs ih =>
      rw [List.cons_append, Queue.batches, Queue.batches, ih, List.append_assoc]
      rfl

/-- **Nothing is lost, nothing comes twice, nothing overtakes.** -/
theorem added_eq (size : ℕ) (interval : K) (q : Queue α K) (calls : List (Call α K)) :
    q.waiting ++ calls.flatMap Call.added
      = (q.batches size interval calls).flatten ++ (q.after size interval calls).waiting := by
  induction calls generalizing q with
  | nil => simp [Queue.batches, Queue.after]
  | cons c rest ih =>
      have hstep : q.waiting ++ c.added
          = (q.call size interval c).2.flatten ++ (q.call size interval c).1.waiting := by
        rcases call_cases size interval q c with ⟨h, -, -⟩ | ⟨h, -⟩ <;> rw [h] <;> simp
      rw [List.flatMap_cons, ← List.append_assoc, hstep, List.append_assoc, ih, Queue.batches, List.flatten_append,
        List.append_assoc]
      rfl

lemma length_call (hfew : q.waiting.length < size) (c : Call α K) :
    (q.call size interval c).1.waiting.length < size
      ∧ ∀ batch ∈ (q.call size interval c).2, 0 < batch.length ∧ batch.length ≤ size := by
  have hone : c.added.length ≤ 1 := by
    cases c <;> simp [Call.added]
  rcases call_cases size interval q c with ⟨h, hadded, -⟩ | ⟨h, hsome⟩
  · rw [h]
    refine ⟨?_, by simp⟩
    rw [List.length_append]
    by_cases hnone : c.added = []
    · simpa [hnone] using hfew
    · have := hadded hnone
      omega
  · rw [h]
    refine ⟨Nat.zero_lt_of_lt hfew, fun batch hbatch => ?_⟩
    rw [List.mem_singleton] at hbatch
    subst hbatch
    refine ⟨List.length_pos_of_ne_nil hsome, ?_⟩
    rw [List.length_append]
    omega

/-- **The batches are as large as they may be, and so is what waits.** -/
theorem length_batch (hfew : q.waiting.length < size) (calls : List (Call α K)) :
    (q.after size interval calls).waiting.length < size
      ∧ ∀ batch ∈ q.batches size interval calls, 0 < batch.length ∧ batch.length ≤ size := by
  induction calls generalizing q with
  | nil => exact ⟨hfew, by simp [Queue.batches]⟩
  | cons c rest ih =>
      obtain ⟨hleft, hgiven⟩ := length_call hfew c
      obtain ⟨hafter, hbatches⟩ := ih hleft
      refine ⟨hafter, fun batch hbatch => ?_⟩
      rcases List.mem_append.mp hbatch with hfirst | hlater
      · exact hgiven batch hfirst
      · exact hbatches batch hlater

/-- Until a batch is given away the queue has not been emptied, and the first batch has all that waits. -/
lemma kept_or_gone (size : ℕ) (interval : K) (q : Queue α K) (calls : List (Call α K)) :
    (q.batches size interval calls = [] ∧ (q.after size interval calls).lastFlush = q.lastFlush
        ∧ q.waiting <+: (q.after size interval calls).waiting)
      ∨ q.waiting.length ≤ (q.batches size interval calls).flatten.length := by
  induction calls generalizing q with
  | nil => exact Or.inl ⟨rfl, rfl, List.prefix_refl _⟩
  | cons c rest ih =>
      rw [Queue.batches]
      show (_ ∧ ((q.call size interval c).1.after size interval rest).lastFlush = _
        ∧ _ <+: ((q.call size interval c).1.after size interval rest).waiting) ∨ _
      rcases call_cases size interval q c with ⟨h, -, -⟩ | ⟨h, -⟩
      · rw [h]
        rcases ih ⟨q.waiting ++ c.added, q.lastFlush⟩ with ⟨hnone, hsame, hprefix⟩ | hgone
        · exact Or.inl ⟨hnone, hsame, (List.prefix_append _ _).trans hprefix⟩
        · refine Or.inr ((Nat.le_add_right _ c.added.length).trans ?_)
          rw [← List.length_append]
          exact hgone
      · right
        rw [h]
        simp only [List.flatten_append, List.flatten_cons, List.flatten_nil, List.length_append, List.append_nil]
        omega

end Batches

namespace Batches

variable {α K : Type} [AddCommGroup K] [LinearOrder K] [IsOrderedAddMonoid K] {size : ℕ} {interval now : K}
  {q : Queue α K}

omit [AddCommGroup K] [IsOrderedAddMonoid K] in
/-- The queue has not been emptied later than the clock shows. -/
lemma lastFlush_le [Sub K] (hstart : q.lastFlush ≤ now) {calls : List (Call α K)}
    (hcalls : ∀ c ∈ calls, c.flushed ≤ now) : (q.after size interval calls).lastFlush ≤ now := by
  induction calls generalizing q with
  | nil => exact hstart
  | cons c rest ih =>
      refine ih ?_ fun c' hc' => hcalls c' (List.mem_cons_of_mem _ hc')
      show (q.call size interval c).1.lastFlush ≤ now
      rcases call_cases size interval q c with ⟨h, -, -⟩ | ⟨h, -⟩
      · rw [h]
        exact hstart
      · rw [h]
        exact hcalls c List.mem_cons_self

/-- **An item is gone with the first request that comes late enough after it.** -/
theorem gone_in_time (past between : List (Call α K)) (item : α) {late : K} (flushed : K)
    (hpast : (q.after size interval past).lastFlush ≤ now) (hlate : now + interval ≤ late) :
    q.waiting.length + (past.flatMap Call.added).length
      < (q.batches size interval (past ++ .add now item :: between ++ [.tick late flushed])).flatten.length := by
  have hbefore := congrArg List.length (added_eq size interval q past)
  simp only [List.length_append] at hbefore
  rw [List.append_assoc, batches_append, List.cons_append, Queue.batches, hbefore]
  simp only [List.flatten_append, List.length_append]
  rcases call_cases size interval (q.after size interval past) (.add now item) with ⟨h, -, -⟩ | ⟨h, -⟩
  · -- it waits, with all that waited before it
    rw [h, batches_append]
    have hlength : (q.after size interval past).waiting.length
        < ((q.after size interval past).waiting ++ Call.added (.add now item)).length := by
      simp [Call.added]
    rcases kept_or_gone size interval 
      ⟨(q.after size interval past).waiting ++ Call.added (.add now item), (q.after size interval past).lastFlush⟩
      between with ⟨hnone, hsame, hprefix⟩ | hgone
    · -- the request finds it there, and enough time has passed
      have hall := hprefix.length_le
      rw [hnone]
      rcases call_cases size interval (Queue.after size interval
        ⟨(q.after size interval past).waiting ++ Call.added (.add now item), (q.after size interval past).lastFlush⟩
        between) (.tick late flushed) with ⟨-, -, hkept⟩ | ⟨htick, -⟩
      · rcases hkept late flushed rfl with hempty | hearly
        · rw [hempty] at hall
          simp [Call.added] at hall
        · rw [hsame] at hearly
          exact absurd (le_sub_iff_add_le'.mpr ((add_le_add_left hpast interval).trans hlate)) hearly
      · simp only [Queue.batches, htick, List.nil_append, List.append_nil, List.flatten_singleton,
          List.length_append] at hall hlength ⊢
        omega
    · simp only [List.flatten_append, List.length_append] at hgone hlength ⊢
      omega
  · rw [h]
    simp [Call.added]
    omega

end Batches
