import AegisFortress.Lib.History
import AegisFortress.Python.Value
import Mathlib.Tactic.Linarith

/-!
# The circuit breaker

`circuit_breaker.py`.  The breaker counts failures since the last success and keeps the time of the
last one.  `call_allowed` is a question that changes the state: the first call that is let through
after the timeout makes it `HALF_OPEN`, and then every call is let through until the next failure or
success.

`call_refused_iff`: what `call_allowed` answers is a property of the history, and of nothing else; it
never subtracts from a time that is missing.
-/

namespace Aegis

/-- The states of the breaker. -/
inductive CircuitState
  | closed
  | opened
  | halfOpen
  deriving DecidableEq, Repr

/-- `CircuitBreaker`. -/
structure CircuitBreaker where
  failureThreshold : ℤ
  recoveryTimeout : ℚ
  failureCount : ℕ
  lastFailureTime : Option ℚ
  state : CircuitState
  deriving DecidableEq, Repr

/-- What is called on a breaker. -/
inductive BreakerCall
  | recordSuccess
  | recordFailure
  | callAllowed
  deriving DecidableEq, Repr

namespace CircuitBreaker

/-- `CircuitBreaker(failure_threshold, recovery_timeout)`. -/
def init (failureThreshold : ℤ) (recoveryTimeout : ℚ) : CircuitBreaker :=
  ⟨failureThreshold, recoveryTimeout, 0, none, .closed⟩

/-- `time.time() - self.last_failure_time`. -/
def elapsed (now : ℚ) : Option ℚ → Except PyError ℚ
  | some last => .ok (now - last)
  | none => .error ⟨.typeError, "unsupported operand type(s) for -: 'float' and 'NoneType'"⟩

/-- `call_allowed()`. -/
def callAllowed (now : ℚ) (breaker : CircuitBreaker) : Except PyError (Bool × CircuitBreaker) :=
  match breaker.state with
  | .opened => do
      let elapsed ← elapsed now breaker.lastFailureTime
      if breaker.recoveryTimeout ≤ elapsed then return (true, { breaker with state := .halfOpen })
      else return (false, breaker)
  | _ => return (true, breaker)

/-- `record_success()`. -/
def recordSuccess (breaker : CircuitBreaker) : CircuitBreaker :=
  { breaker with failureCount := 0, lastFailureTime := none, state := .closed }

/-- `record_failure()`. -/
def recordFailure (now : ℚ) (breaker : CircuitBreaker) : CircuitBreaker :=
  let failureCount := breaker.failureCount + 1
  { breaker with
    failureCount, lastFailureTime := some now
    state := if breaker.failureThreshold ≤ failureCount ∨ breaker.state = .halfOpen then .opened
      else breaker.state }

/-- A call, and the time at which it is made. -/
def step (breaker : CircuitBreaker) : ℚ × BreakerCall → Except PyError CircuitBreaker
  | (_, .recordSuccess) => .ok breaker.recordSuccess
  | (now, .recordFailure) => .ok (breaker.recordFailure now)
  | (now, .callAllowed) => (breaker.callAllowed now).map Prod.snd

/-! ## What the history says -/

open History

/-- The time of a `record_failure`. -/
def failureTime : ℚ × BreakerCall → Option ℚ
  | (time, .recordFailure) => some time
  | _ => none

/-- The times of the `record_failure` calls since the last `record_success`. -/
def failures (past : List (ℚ × BreakerCall)) : List ℚ :=
  (sinceLast (fun call => call.2 = .recordSuccess) past).filterMap failureTime

/-- The time of the last `record_failure`. -/
def lastFailure (past : List (ℚ × BreakerCall)) : Option ℚ := (past.filterMap failureTime).getLast?

lemma failures_snoc (past : List (ℚ × BreakerCall)) (time : ℚ) (call : BreakerCall) :
    failures (past ++ [(time, call)]) = match call with
      | .recordSuccess => []
      | .recordFailure => failures past ++ [time]
      | .callAllowed => failures past := by
  rw [failures, sinceLast_snoc]
  cases call with
  | recordSuccess => simp [failureTime]
  | recordFailure => simp [failureTime, failures]
  | callAllowed => simp [failureTime, failures]

/-- The last failure since the last success is the last failure. -/
lemma getLast?_failures {past : List (ℚ × BreakerCall)} (h : failures past ≠ []) :
    (failures past).getLast? = lastFailure past := by
  obtain ⟨before, hsplit⟩ :=
    sinceLast_suffix (fun call : ℚ × BreakerCall => call.2 = .recordSuccess) past
  have hall : past.filterMap failureTime = before.filterMap failureTime ++ failures past := by
    rw [failures, ← List.filterMap_append, hsplit]
  rw [lastFailure, hall, List.getLast?_append_of_ne_nil _ h]

/-! ## What the breaker remembers -/

variable {threshold : ℤ} {timeout now : ℚ} {past : List (ℚ × BreakerCall)} {breaker : CircuitBreaker}

/-- The breaker after these calls. -/
structure Tracks (threshold : ℤ) (timeout : ℚ) (past : List (ℚ × BreakerCall))
    (breaker : CircuitBreaker) : Prop where
  threshold_eq : breaker.failureThreshold = threshold
  timeout_eq : breaker.recoveryTimeout = timeout
  count_eq : breaker.failureCount = (failures past).length
  last_eq : breaker.lastFailureTime = (failures past).getLast?
  closed_iff : breaker.state = .closed ↔ ((failures past).length : ℤ) < threshold
  /-- A breaker that is half open was asked after the timeout. -/
  recovered : breaker.state = .halfOpen →
    ∃ call ∈ past, ∀ last ∈ breaker.lastFailureTime, timeout ≤ call.1 - last

lemma tracks_init (hthreshold : 1 ≤ threshold) :
    Tracks threshold timeout [] (init threshold timeout) :=
  ⟨rfl, rfl, rfl, rfl, ⟨fun _ => hthreshold, fun _ => rfl⟩, fun h => by cases h⟩

lemma Tracks.recordSuccess (h : Tracks threshold timeout past breaker)
    (hthreshold : 1 ≤ threshold) :
    Tracks threshold timeout (past ++ [(now, .recordSuccess)]) breaker.recordSuccess := by
  have hnone : failures (past ++ [(now, .recordSuccess)]) = [] := failures_snoc past now _
  refine ⟨h.threshold_eq, h.timeout_eq, ?_, ?_, ?_, fun hhalf => by cases hhalf⟩
  · rw [hnone]
    rfl
  · rw [hnone]
    rfl
  · rw [hnone]
    exact ⟨fun _ => hthreshold, fun _ => rfl⟩

lemma Tracks.recordFailure (h : Tracks threshold timeout past breaker) :
    Tracks threshold timeout (past ++ [(now, .recordFailure)]) (breaker.recordFailure now) := by
  have hone : failures (past ++ [(now, .recordFailure)]) = failures past ++ [now] :=
    failures_snoc past now _
  have hlength : (failures (past ++ [(now, .recordFailure)])).length = breaker.failureCount + 1 := by
    rw [hone, List.length_append, List.length_singleton, h.count_eq]
  refine ⟨h.threshold_eq, h.timeout_eq, hlength.symm, ?_, ?_, fun hhalf => ?_⟩
  · rw [hone, List.getLast?_concat]
    rfl
  · rw [hlength, CircuitBreaker.recordFailure, h.threshold_eq]
    simp only
    split_ifs with hopens
    · simp only [false_iff, not_lt]
      rcases hopens with hmany | hhalf
      · exact_mod_cast hmany
      · have hopen : ¬ breaker.state = .closed := by simp [hhalf]
        have hbefore := not_lt.mp (h.closed_iff.not.mp hopen)
        rw [← h.count_eq] at hbefore
        push_cast
        linarith
    · rw [not_or, not_le] at hopens
      have hfew : ((breaker.failureCount : ℤ)) < threshold := by
        have hlt := hopens.1
        push_cast at hlt
        linarith
      rw [h.count_eq] at hfew
      exact ⟨fun _ => hopens.1, fun _ => h.closed_iff.mpr hfew⟩
  · rw [CircuitBreaker.recordFailure] at hhalf
    simp only at hhalf
    split_ifs at hhalf with hopens
    exact absurd (Or.inr hhalf) hopens

/-- A question adds nothing to what is remembered. -/
lemma Tracks.asked (h : Tracks threshold timeout past breaker) :
    Tracks threshold timeout (past ++ [(now, .callAllowed)]) breaker := by
  have hsame : failures (past ++ [(now, .callAllowed)]) = failures past := failures_snoc past now _
  refine ⟨h.threshold_eq, h.timeout_eq, ?_, ?_, ?_, fun hhalf => ?_⟩
  · rw [hsame, h.count_eq]
  · rw [hsame, h.last_eq]
  · rw [hsame, h.closed_iff]
  · obtain ⟨call, hcall, hlate⟩ := h.recovered hhalf
    exact ⟨call, List.mem_append_left _ hcall, hlate⟩

/-- A breaker that is not closed knows when the last failure was. -/
lemma Tracks.failed (h : Tracks threshold timeout past breaker) (hthreshold : 1 ≤ threshold)
    (hopen : breaker.state ≠ .closed) : threshold ≤ (failures past).length
      ∧ ∃ last, breaker.lastFailureTime = some last ∧ lastFailure past = some last := by
  have hmany : threshold ≤ (failures past).length := not_lt.mp (h.closed_iff.not.mp hopen)
  have hsome : failures past ≠ [] := by
    intro hnil
    rw [hnil, List.length_nil] at hmany
    exact absurd (hthreshold.trans hmany) (by decide)
  refine ⟨hmany, (failures past).getLast hsome, ?_, ?_⟩
  · rw [h.last_eq, List.getLast?_eq_some_getLast hsome]
  · rw [← getLast?_failures hsome, List.getLast?_eq_some_getLast hsome]

/-- **One question**: it is answered, by what the history says. -/
lemma Tracks.callAllowed (h : Tracks threshold timeout past breaker) (hthreshold : 1 ≤ threshold)
    (hnow : ∀ call ∈ past, call.1 ≤ now) : ∃ allowed after,
      breaker.callAllowed now = .ok (allowed, after)
        ∧ Tracks threshold timeout (past ++ [(now, .callAllowed)]) after
        ∧ (allowed = false ↔ threshold ≤ (failures past).length
            ∧ ∃ last, lastFailure past = some last ∧ now - last < timeout) := by
  cases hstate : breaker.state with
  | closed =>
      refine ⟨true, breaker, by rw [CircuitBreaker.callAllowed, hstate]; rfl, h.asked, ?_⟩
      have hfew := h.closed_iff.mp hstate
      simp [hfew]
  | opened =>
      obtain ⟨hmany, last, hlast, hlastFailure⟩ := h.failed hthreshold (by simp [hstate])
      have hanswer : breaker.callAllowed now = if timeout ≤ now - last
          then .ok (true, { breaker with state := .halfOpen }) else .ok (false, breaker) := by
        rw [CircuitBreaker.callAllowed, hstate, hlast, ← h.timeout_eq]
        rfl
      rw [hanswer]
      split_ifs with hlate
      · refine ⟨true, _, rfl, ⟨h.threshold_eq, h.timeout_eq, h.asked.count_eq, h.asked.last_eq, ?_,
          ?_⟩, ?_⟩
        · rw [← h.asked.closed_iff, hstate]
          simp
        · intro _
          refine ⟨(now, .callAllowed), by simp, ?_⟩
          simpa [hlast] using hlate
        · simp [hlastFailure, hlate]
      · refine ⟨false, breaker, rfl, h.asked, ?_⟩
        simpa [hlastFailure, hmany] using hlate
  | halfOpen =>
      obtain ⟨hmany, last, hlast, hlastFailure⟩ := h.failed hthreshold (by simp [hstate])
      refine ⟨true, breaker, by rw [CircuitBreaker.callAllowed, hstate]; rfl, h.asked, ?_⟩
      obtain ⟨call, hcall, hrecovered⟩ := h.recovered hstate
      have hlate : timeout ≤ now - last := by
        have hthen := hrecovered last (Option.mem_def.mpr hlast)
        linarith [hnow call hcall]
      simp [hlastFailure, hlate]

/-- The calls follow one another in time. -/
def InOrder (calls : List (ℚ × BreakerCall)) : Prop :=
  (calls.map Prod.fst).Pairwise (· ≤ ·)

lemma InOrder.of_snoc {calls : List (ℚ × BreakerCall)} {call : ℚ × BreakerCall}
    (h : InOrder (calls ++ [call])) : InOrder calls ∧ ∀ earlier ∈ calls, earlier.1 ≤ call.1 := by
  rw [InOrder, List.map_append, List.pairwise_append] at h
  exact ⟨h.1, fun earlier hearlier => h.2.2 _ (List.mem_map_of_mem hearlier) _ (by simp)⟩

/-- The calls go through, and the breaker is what the history makes it. -/
lemma tracks_run (hthreshold : 1 ≤ threshold) (calls : List (ℚ × BreakerCall))
    (horder : InOrder calls) : ∃ breaker, calls.foldlM step (init threshold timeout) = .ok breaker
      ∧ Tracks threshold timeout calls breaker := by
  induction calls using List.reverseRecOn with
  | nil => exact ⟨_, rfl, tracks_init hthreshold⟩
  | append_singleton past call ih =>
      obtain ⟨hpast, hnow⟩ := horder.of_snoc
      obtain ⟨breaker, hrun, htracks⟩ := ih hpast
      obtain ⟨now, kind⟩ := call
      have hone : (past ++ [(now, kind)]).foldlM step (init threshold timeout)
          = breaker.step (now, kind) := by
        rw [List.foldlM_append, hrun]
        exact bind_pure (breaker.step (now, kind))
      rw [hone]
      cases kind with
      | recordSuccess => exact ⟨_, rfl, htracks.recordSuccess hthreshold⟩
      | recordFailure => exact ⟨_, rfl, htracks.recordFailure⟩
      | callAllowed =>
          obtain ⟨allowed, after, hanswer, hafter, -⟩ := htracks.callAllowed hthreshold hnow
          exact ⟨after, by rw [step, hanswer]; rfl, hafter⟩

/-- **The breaker.**  After any calls, `call_allowed` answers, and it says no exactly when there are
at least `failure_threshold` failures since the last success and the last one is not
`recovery_timeout` ago. -/
theorem call_refused_iff (threshold : ℤ) (timeout : ℚ) (hthreshold : 1 ≤ threshold)
    (calls : List (ℚ × BreakerCall)) (now : ℚ) (horder : InOrder (calls ++ [(now, .callAllowed)])) :
    ∃ breaker allowed after, calls.foldlM step (init threshold timeout) = .ok breaker
      ∧ breaker.callAllowed now = .ok (allowed, after)
      ∧ (allowed = false ↔ threshold ≤ (failures calls).length
          ∧ ∃ last, lastFailure calls = some last ∧ now - last < timeout) := by
  obtain ⟨hcalls, hnow⟩ := horder.of_snoc
  obtain ⟨breaker, hrun, htracks⟩ := tracks_run hthreshold calls hcalls
  obtain ⟨allowed, after, hanswer, -, hiff⟩ := htracks.callAllowed hthreshold hnow
  exact ⟨breaker, allowed, after, hrun, hanswer, hiff⟩

/-- A failure while the breaker is half open. -/
def probedCalls : List (ℚ × BreakerCall) :=
  [(0, .recordFailure), (10, .callAllowed), (11, .recordFailure)]

theorem call_refused_iff_probed : ∃ breaker allowed after,
    probedCalls.foldlM step (init 1 10) = .ok breaker
      ∧ breaker.callAllowed 12 = .ok (allowed, after)
      ∧ (allowed = false ↔ 1 ≤ (failures probedCalls).length
          ∧ ∃ last, lastFailure probedCalls = some last ∧ (12 : ℚ) - last < 10) := by
  have horder : InOrder (probedCalls ++ [(12, .callAllowed)]) := by
    rw [InOrder]
    decide +kernel
  have hwitness := call_refused_iff 1 10 le_rfl probedCalls 12 horder
  exact_mod_cast hwitness

end CircuitBreaker

end Aegis
