import AegisFortress.Exchange.ExchangeWrapper

/-!
# Callers that share a bucket

`RateLimiter` of `rate_limiter.py`, and `consume` of `TokenBucket` in `utils.py` with several
callers.  Whoever finds no token sleeps outside the lock and tries again later, when others may have
been first; a call is therefore a sequence of rounds, and what happens to the bucket is the
sequence of all callers' rounds, in the order in which they held the lock.

`grants_limited`: whatever the callers do, the bucket never holds less than nothing or more than its
capacity, any window of length `T` sees at most `capacity + rate * T` tokens granted, and a caller
is only turned away with less than one token left.
-/

namespace Aegis

/-- What one round comes to: the token is taken, `False` is returned, the caller sleeps, or the
tokens are shown. -/
inductive Round
  | granted
  | refused
  | sleeps (seconds : ℚ)
  | shows (tokens : ℚ)
  deriving DecidableEq, Repr

namespace TokenBucket

/-- One round of `consume(1.0, block)`. -/
def consumeRound (block : Bool) (now : ℚ) (bucket : TokenBucket ℚ) : Round × TokenBucket ℚ :=
  let bucket := bucket.refill now
  if 1 ≤ bucket.tokens then (.granted, { bucket with tokens := bucket.tokens - 1 })
  else if ¬ block then (.refused, bucket)
  else (.sleeps (1 / bucket.rate * (1 / 10) + 1 / 1000), bucket)

/-- A call that nobody interrupts is its rounds. -/
lemma consume_cons (bucket : TokenBucket ℚ) (now reading : ℚ) (rest : List ℚ)
    (hforth : now ≤ reading) : bucket.consume now (reading :: rest)
      = match bucket.consumeRound true reading with
        | (.granted, after) => some (after, reading)
        | (_, after) => after.consume reading rest := by
  rw [consume, if_neg hforth.not_gt, consumeRound]
  simp only [not_true_eq_false, if_false]
  split_ifs <;> rfl

end TokenBucket

/-- `RateLimiter` has the attributes of a `TokenBucket` and the same `_refill()`. -/
abbrev RateLimiter := TokenBucket ℚ

namespace RateLimiter

/-- `float(burst if burst is not None else max(1, int(calls_per_second)))`. -/
def capacityOf (callsPerSecond : ℚ) : Option ℚ → ℚ
  | some burst => burst
  | none => pyMax 1 (callsPerSecond.num.tdiv callsPerSecond.den : ℤ)

/-- `RateLimiter(calls_per_second, burst)`. -/
def init (callsPerSecond : ℚ) (burst : Option ℚ) (now : ℚ) : RateLimiter :=
  let capacity := capacityOf callsPerSecond burst
  ⟨callsPerSecond, capacity, capacity, now⟩

/-- `_wait_time()`. -/
def waitTime (now : ℚ) (limiter : RateLimiter) : ℚ × RateLimiter :=
  let limiter := limiter.refill now
  if 1 ≤ limiter.tokens then (0, limiter) else ((1 - limiter.tokens) / limiter.rate, limiter)

/-- One round of `acquire_sync()`. -/
def acquireSync (now : ℚ) (limiter : RateLimiter) : Round × RateLimiter :=
  let (wait, limiter) := waitTime now limiter
  if wait = 0 then (.granted, { limiter with tokens := limiter.tokens - 1 })
  else (.sleeps wait, limiter)

/-- One round of `acquire()`: the same, but for `asyncio.sleep`. -/
def acquire (now : ℚ) (limiter : RateLimiter) : Round × RateLimiter := acquireSync now limiter

/-- `try_acquire()`. -/
def tryAcquire (now : ℚ) (limiter : RateLimiter) : Round × RateLimiter :=
  let limiter := limiter.refill now
  if 1 ≤ limiter.tokens then (.granted, { limiter with tokens := limiter.tokens - 1 })
  else (.refused, limiter)

/-- `available_tokens`. -/
def availableTokens (now : ℚ) (limiter : RateLimiter) : Round × RateLimiter :=
  let limiter := limiter.refill now
  (.shows limiter.tokens, limiter)

end RateLimiter

/-! ## The callers -/

/-- The methods of `RateLimiter`. -/
inductive Acquisition
  | acquire
  | acquireSync
  | tryAcquire
  | availableTokens
  deriving DecidableEq, Repr

/-- A round of this method. -/
def Acquisition.round : Acquisition → ℚ → RateLimiter → Round × RateLimiter
  | acquire => RateLimiter.acquire
  | acquireSync => RateLimiter.acquireSync
  | tryAcquire => RateLimiter.tryAcquire
  | availableTokens => RateLimiter.availableTokens

/-- A round that has been played: when, what it came to, and the tokens it left. -/
structure Played where
  time : ℚ
  outcome : Round
  left : ℚ
  deriving DecidableEq, Repr

/-- The callers of a bucket: who sleeps until the next round of which method, and all rounds so far,
oldest first. -/
structure Contention (M : Type) where
  bucket : TokenBucket ℚ
  now : ℚ
  sleeping : List (ℕ × M)
  played : List Played

/-- Somebody calls a method, or wakes up. -/
inductive CallerTurn (M : Type)
  | call (caller : ℕ) (method : M)
  | wake (caller : ℕ)

namespace Contention

variable {M : Type}

/-- A bucket nobody has called yet. -/
def idle (bucket : TokenBucket ℚ) : Contention M := ⟨bucket, bucket.lastRefill, [], []⟩

/-- The times at which tokens were granted. -/
def grants (contention : Contention M) : List ℚ :=
  (contention.played.filter fun round => round.outcome = .granted).map Played.time

variable (round : M → ℚ → TokenBucket ℚ → Round × TokenBucket ℚ)

/-- The caller holds the lock for one round. -/
def play (contention : Contention M) (now : ℚ) (caller : ℕ) (method : M) : Contention M :=
  let (outcome, bucket) := round method now contention.bucket
  let others := contention.sleeping.filter fun sleeper => sleeper.1 ≠ caller
  { bucket, now
    sleeping := match outcome with
      | .sleeps _ => others ++ [(caller, method)]
      | _ => others
    played := contention.played ++ [⟨now, outcome, bucket.tokens⟩] }

/-- One turn; `none` when the clock goes back, a caller who sleeps makes a call, or one wakes up who
does not sleep. -/
def step (contention : Contention M) : ℚ × CallerTurn M → Option (Contention M)
  | (now, .call caller method) =>
      if now < contention.now ∨ (contention.sleeping.lookup caller).isSome then none
      else some (contention.play round now caller method)
  | (now, .wake caller) =>
      if now < contention.now then none
      else (contention.sleeping.lookup caller).map (contention.play round now caller)

/-! ## What a round does -/

/-- The bucket is filled; a token is taken if there is one, and nobody is turned away if there
is. -/
inductive Fair (now : ℚ) (bucket : TokenBucket ℚ) : Round × TokenBucket ℚ → Prop
  | grants (h : 1 ≤ (bucket.refill now).tokens) : Fair now bucket
      (.granted, { bucket.refill now with tokens := (bucket.refill now).tokens - 1 })
  | refuses (h : (bucket.refill now).tokens < 1) : Fair now bucket (.refused, bucket.refill now)
  | sleeps (seconds : ℚ) : Fair now bucket (.sleeps seconds, bucket.refill now)
  | shows (tokens : ℚ) : Fair now bucket (.shows tokens, bucket.refill now)

lemma consumeRound_fair (block : Bool) (now : ℚ) (bucket : TokenBucket ℚ) :
    Fair now bucket (bucket.consumeRound block now) := by
  rw [TokenBucket.consumeRound]
  split_ifs with htoken hblock
  · exact .grants htoken
  · exact .sleeps _
  · exact .refuses (not_le.mp htoken)

/-- Nobody waits for a token that is there. -/
lemma waitTime_eq_zero {now : ℚ} {limiter : RateLimiter} (hrate : 0 < limiter.rate) :
    (limiter.waitTime now).1 = 0 ↔ 1 ≤ (limiter.refill now).tokens := by
  rw [RateLimiter.waitTime]
  split_ifs with htoken
  · simp only [htoken]
  · have hshort : 0 < 1 - (limiter.refill now).tokens := sub_pos.mpr (not_le.mp htoken)
    simp only [htoken, iff_false]
    exact (div_pos hshort hrate).ne'

lemma waitTime_snd (now : ℚ) (limiter : RateLimiter) :
    (limiter.waitTime now).2 = limiter.refill now := by
  rw [RateLimiter.waitTime]
  split_ifs <;> rfl

lemma acquisition_fair (method : Acquisition) (now : ℚ) {limiter : RateLimiter}
    (hrate : 0 < limiter.rate) : Fair now limiter (method.round now limiter) := by
  have hsync : Fair now limiter (limiter.acquireSync now) := by
    simp only [RateLimiter.acquireSync, waitTime_snd, waitTime_eq_zero hrate]
    split_ifs with htoken
    · exact .grants htoken
    · exact .sleeps _
  cases method with
  | acquire => exact hsync
  | acquireSync => exact hsync
  | tryAcquire =>
      rw [Acquisition.round, RateLimiter.tryAcquire]
      split_ifs with htoken
      · exact .grants htoken
      · exact .refuses (not_le.mp htoken)
  | availableTokens => exact .shows _

/-! ## What the callers get -/

variable {round : M → ℚ → TokenBucket ℚ → Round × TokenBucket ℚ} {capacity rate : ℚ}
  {contention contention' : Contention M}

open RateLimit

/-- The bucket has kept to its limits in every round so far. -/
structure Bounded (capacity rate : ℚ) (contention : Contention M) : Prop where
  holds : 0 ≤ contention.bucket.tokens ∧ contention.bucket.tokens ≤ capacity
  held : ∀ round ∈ contention.played, 0 ≤ round.left ∧ round.left ≤ capacity
  limited : ∀ a T, 0 ≤ T → (within contention.grants a (a + T) : ℚ) ≤ capacity + rate * T
  refused : ∀ round ∈ contention.played, round.outcome = .refused → round.left < 1

/-- `Bounded`, with what has been drawn so far. -/
structure Kept (capacity rate : ℚ) (contention : Contention M) : Prop where
  rate_eq : contention.bucket.rate = rate
  capacity_eq : contention.bucket.capacity = capacity
  refilled : contention.bucket.lastRefill = contention.now
  metered : Metered capacity rate contention.grants contention.bucket.tokens contention.now
  bounded : Bounded capacity rate contention

lemma kept_idle {bucket : TokenBucket ℚ} (hfull : bucket.tokens = bucket.capacity)
    (hcapacity : 0 ≤ bucket.capacity) (hrate : 0 ≤ bucket.rate) :
    Kept bucket.capacity bucket.rate (idle bucket : Contention M) := by
  have hmetered : Metered bucket.capacity bucket.rate [] bucket.tokens bucket.lastRefill := by
    rw [hfull]
    exact metered_full hcapacity hrate
  refine ⟨rfl, rfl, rfl, hmetered, ⟨hmetered.nonneg, hfull.le⟩, ?_, hmetered.limited, ?_⟩
  · intro round hround
    cases hround
  · intro round hround
    cases hround

/-- One more round is written down. -/
lemma Kept.played (h : Kept capacity rate contention) {bucket : TokenBucket ℚ} {now : ℚ}
    {outcome : Round} {sleeping : List (ℕ × M)} (hrate : bucket.rate = rate)
    (hcapacity : bucket.capacity = capacity) (hrefilled : bucket.lastRefill = now)
    (hmetered : Metered capacity rate
      (contention.grants ++ if outcome = .granted then [now] else []) bucket.tokens now)
    (hfull : bucket.tokens ≤ capacity) (hrefused : outcome = .refused → bucket.tokens < 1) :
    Kept capacity rate
      ⟨bucket, now, sleeping, contention.played ++ [⟨now, outcome, bucket.tokens⟩]⟩ := by
  have hgrants : (⟨bucket, now, sleeping, contention.played ++ [⟨now, outcome, bucket.tokens⟩]⟩
      : Contention M).grants = contention.grants ++ if outcome = .granted then [now] else [] := by
    rw [grants, List.filter_append, List.map_append, grants]
    by_cases hgranted : outcome = .granted <;> simp [hgranted]
  refine ⟨hrate, hcapacity, hrefilled, hgrants ▸ hmetered, ⟨hmetered.nonneg, hfull⟩, ?_,
    hgrants ▸ hmetered.limited, ?_⟩
  · intro round hround
    rcases List.mem_append.mp hround with hold | hnew
    · exact h.bounded.held round hold
    · rw [List.mem_singleton.mp hnew]
      exact ⟨hmetered.nonneg, hfull⟩
  · intro round hround
    rcases List.mem_append.mp hround with hold | hnew
    · exact h.bounded.refused round hold
    · rw [List.mem_singleton.mp hnew]
      exact hrefused

/-- **One round** keeps to the limits. -/
lemma Kept.play (h : Kept capacity rate contention) (hrate : 0 ≤ rate) (hcapacity : 0 ≤ capacity)
    {now : ℚ} (hnow : contention.now ≤ now) (caller : ℕ) (method : M)
    (hfair : Fair now contention.bucket (round method now contention.bucket)) :
    Kept capacity rate (contention.play round now caller method) := by
  have hfill := h.metered.fill hrate hcapacity hnow
  have htokens : (contention.bucket.refill now).tokens
      = min capacity (contention.bucket.tokens + (now - contention.now) * rate) := by
    rw [TokenBucket.refill, pyMin_rat, h.rate_eq, h.capacity_eq, h.refilled]
  rw [← htokens] at hfill
  have hfull : (contention.bucket.refill now).tokens ≤ capacity := htokens ▸ min_le_left _ _
  have hgranted : ∀ outcome : Round, outcome ≠ .granted → Metered capacity rate
      (contention.grants ++ if outcome = .granted then [now] else [])
      (contention.bucket.refill now).tokens now := by
    intro outcome houtcome
    rwa [if_neg houtcome, List.append_nil]
  rw [Contention.play]
  generalize round method now contention.bucket = result at hfair
  cases hfair with
  | grants htoken =>
      refine h.played h.rate_eq h.capacity_eq rfl ?_ ?_ (fun hrefused => by cases hrefused)
      · rw [if_pos rfl]
        exact hfill.draw hrate htoken
      · exact (sub_le_self _ zero_le_one).trans hfull
  | refuses hshort =>
      exact h.played h.rate_eq h.capacity_eq rfl (hgranted _ (by simp)) hfull fun _ => hshort
  | sleeps seconds =>
      exact h.played h.rate_eq h.capacity_eq rfl (hgranted _ (by simp)) hfull
        (fun hrefused => by cases hrefused)
  | shows tokens =>
      exact h.played h.rate_eq h.capacity_eq rfl (hgranted _ (by simp)) hfull
        (fun hrefused => by cases hrefused)

/-- A turn is a round, at a time that has not passed. -/
lemma step_eq_some {turn : ℚ × CallerTurn M}
    (hstep : contention.step round turn = some contention') :
    ∃ now caller method, contention.now ≤ now
      ∧ contention' = contention.play round now caller method := by
  obtain ⟨now, turn⟩ := turn
  cases turn with
  | call caller method =>
      simp only [step] at hstep
      split_ifs at hstep with hback
      cases hstep
      exact ⟨now, caller, method, not_lt.mp fun hlt => hback (Or.inl hlt), rfl⟩
  | wake caller =>
      simp only [step] at hstep
      split_ifs at hstep with hback
      obtain ⟨method, -, rfl⟩ := Option.map_eq_some_iff.mp hstep
      exact ⟨now, caller, method, not_lt.mp hback, rfl⟩

/-- The limits are kept in every run of fair rounds. -/
lemma kept_run {bucket : TokenBucket ℚ} (hfull : bucket.tokens = bucket.capacity)
    (hcapacity : 0 ≤ bucket.capacity) (hrate : 0 ≤ bucket.rate)
    (hfair : ∀ method now (reached : TokenBucket ℚ), reached.rate = bucket.rate →
      Fair now reached (round method now reached)) {turns : List (ℚ × CallerTurn M)}
    (hrun : Machine.run (step round) (idle bucket) turns = some contention) :
    Kept bucket.capacity bucket.rate contention := by
  refine Machine.run_invariant (Kept bucket.capacity bucket.rate)
    (kept_idle hfull hcapacity hrate) ?_ hrun
  intro s turn s' hs hstep
  obtain ⟨now, caller, method, hnow, rfl⟩ := step_eq_some hstep
  exact hs.play hrate hcapacity hnow caller method (hfair method now s.bucket hs.rate_eq)

/-- **Sharing a bucket.**  Whatever calls are made of a `RateLimiter`, or of a `TokenBucket` for one
token each, in whatever order their rounds are played. -/
theorem grants_limited (rate capacity start : ℚ) (hrate : 0 < rate) (hcapacity : 1 ≤ capacity) :
    (∀ burst, RateLimiter.capacityOf rate burst = capacity →
      ∀ turns (contention : Contention Acquisition),
        Machine.run (step Acquisition.round) (idle (RateLimiter.init rate burst start)) turns
          = some contention → Bounded capacity rate contention)
    ∧ ∀ turns (contention : Contention Bool),
        Machine.run (step TokenBucket.consumeRound) (idle (TokenBucket.init rate capacity start))
          turns = some contention → Bounded capacity rate contention := by
  have hpos : 0 ≤ capacity := zero_le_one.trans hcapacity
  refine ⟨fun burst hburst turns contention hrun => ?_, fun turns contention hrun => ?_⟩
  · subst hburst
    exact (kept_run rfl hpos hrate.le
      (fun method now limiter heq => acquisition_fair method now (heq ▸ hrate)) hrun).bounded
  · exact (kept_run rfl hpos hrate.le
      (fun block now bucket _ => consumeRound_fair block now bucket) hrun).bounded

/-- Three callers want the one token; the second sleeps until there is another. -/
def threeCallers : List (ℚ × CallerTurn Acquisition) :=
  [(0, .call 1 .acquire), (1 / 4, .call 2 .acquireSync), (1 / 2, .call 3 .tryAcquire), (1, .wake 2)]

theorem grants_limited_three : ∃ contention : Contention Acquisition,
    Machine.run (step Acquisition.round) (idle (RateLimiter.init 1 none 0)) threeCallers
      = some contention ∧ contention.grants = [0, 1] ∧ Bounded 1 1 contention := by
  have hgrants : (Machine.run (step Acquisition.round) (idle (RateLimiter.init 1 none 0))
      threeCallers).map grants = some [0, 1] := by decide +kernel
  obtain ⟨contention, hrun, hgrants⟩ := Option.map_eq_some_iff.mp hgrants
  exact ⟨contention, hrun, hgrants,
    (grants_limited 1 1 0 zero_lt_one le_rfl).1 none (by decide +kernel) threeCallers contention hrun⟩

end Contention

end Aegis
