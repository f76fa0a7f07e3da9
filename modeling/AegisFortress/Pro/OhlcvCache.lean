import AegisFortress.Lib.Fifo
import AegisFortress.Lib.Joined
import AegisFortress.Lib.TtlCache
import AegisFortress.Python.Value

/-!
# Candles and their cache

`OHLCVCache` and `fetch_ohlcv` of `market_data.py`.  The trading loop and the thread that updates the pairs
share the cache: a call looks into it, and when there is nothing fresh asks the exchange, which takes its time;
meanwhile the other thread may do the same.

`cached_iff` says what a call gets without asking, and where it comes from: the last answer for this symbol and
this timeframe, by whichever thread, however many candles that one asked for.
-/

namespace Aegis.Pro

open TtlCache Machine

namespace OHLCVCache

/-- `_TTL.get(tf, 60)`. -/
def ttl (tf : String) : ℚ :=
  if tf = "1m" then 60
  else if tf = "5m" then 300
  else if tf = "15m" then 900
  else if tf = "1h" then 3600
  else if tf = "4h" then 14400
  else 60

/-- `max(self._TTL.values()) * 2`. -/
def horizon : ℚ := 14400 * 2

/-- The key of an entry. -/
def key (symbol tf : String) : String := s!"{symbol}_{tf}"

end OHLCVCache

/-- `_MIN_BARS.get(tf, 300)`. -/
def minBars (tf : String) : ℤ :=
  if tf = "1m" then 300
  else if tf = "5m" then 300
  else if tf = "15m" then 400
  else if tf = "1h" then 200
  else if tf = "4h" then 100
  else 300

/-- What a call asks the exchange for. -/
structure OhlcvRequest where
  symbol : String
  tf : String
  n : ℤ

/-- `n = limit or _MIN_BARS.get(tf, 300)`. -/
def OhlcvRequest.of (symbol tf : String) (limit : Option ℤ) : OhlcvRequest where
  symbol := symbol
  tf := tf
  n := if limit.getD 0 = 0 then minBars tf else limit.getD 0

/-- What has been asked for, what the answer was made into, and when. -/
structure OhlcvAnswer (Frame : Type) where
  request : OhlcvRequest
  frame : Frame
  time : ℚ

/-- A candle, as the exchange sends it. -/
abbrev Candle := PyVal ℚ

/-- What happens: a thread calls `fetch_ohlcv`, the exchange answers it, or what is old is thrown away. -/
inductive FetchEvent (ι : Type)
  | call (thread : ι) (symbol tf : String) (limit : Option ℤ) (now : ℚ)
  | answer (thread : ι) (raw : Except PyError (List Candle)) (now : ℚ)
  | evictExpired (now : ℚ)

def FetchEvent.time {ι : Type} : FetchEvent ι → ℚ
  | .call _ _ _ _ now => now
  | .answer _ _ now => now
  | .evictExpired now => now

/-- The cache, and the threads that wait for the exchange. -/
structure Fetching (ι Frame : Type) where
  cache : Table String Frame ℚ := ∅
  waiting : ι → Option OhlcvRequest := fun _ => none

namespace Fetching

variable {ι Frame : Type} [DecidableEq ι] (toFrame : List Candle → Except PyError Frame)

/-- `ohlcv_cache.get(symbol, tf)`. -/
def cached (s : Fetching ι Frame) (symbol tf : String) (now : ℚ) : Option Frame :=
  TtlCache.get (· < OHLCVCache.ttl tf) s.cache (OHLCVCache.key symbol tf) now

/-- The frame that is made of an answer, if any; twenty candles are needed. -/
def accepted (raw : Except PyError (List Candle)) : Option Frame :=
  match raw with
  | .error _ => none
  | .ok candles =>
      if candles.length < 20 then none
      else match toFrame candles with
        | .error _ => none
        | .ok frame => some frame

/-- The answers that are put into the cache. -/
def answers (s : Fetching ι Frame) : FetchEvent ι → List (OhlcvAnswer Frame)
  | .answer thread raw now =>
      match s.waiting thread, accepted toFrame raw with
      | some request, some frame => [⟨request, frame, now⟩]
      | _, _ => []
  | _ => []

/-- What the event does to the cache. -/
def cacheOps (s : Fetching ι Frame) (event : FetchEvent ι) : List (Op String Frame ℚ) :=
  match event with
  | .evictExpired now => [.evict now]
  | event => (s.answers toFrame event).map fun answer =>
      .store (OHLCVCache.key answer.request.symbol answer.request.tf) answer.frame answer.time

/-- One step; a thread makes one call at a time. -/
def step (s : Fetching ι Frame) (event : FetchEvent ι) : Option (Fetching ι Frame) :=
  let cache := (s.cacheOps toFrame event).foldl (apply OHLCVCache.horizon) s.cache
  match event with
  | .call thread symbol tf limit now =>
      match s.waiting thread, s.cached symbol tf now with
      | some _, _ => none
      | none, some _ => some s
      | none, none =>
          some ⟨cache, Function.update s.waiting thread (some (OhlcvRequest.of symbol tf limit))⟩
  | .answer thread _ _ =>
      if (s.waiting thread).isSome then some ⟨cache, Function.update s.waiting thread none⟩ else none
  | .evictExpired _ => some { s with cache }

/-! ## Keys -/

/-- The key of an entry tells its symbol and its timeframe, as long as that has no underscore. -/
lemma key_inj {symbol symbol' tf tf' : String} (htf : '_' ∉ tf.toList) (htf' : '_' ∉ tf'.toList) :
    OHLCVCache.key symbol tf = OHLCVCache.key symbol' tf' ↔ symbol = symbol' ∧ tf = tf' :=
  Joined.last_inj (show "_".toList = ['_'] from rfl) htf htf'

/-! ## Runs -/

variable {toFrame} {events past : List (FetchEvent ι)} {s s' : Fetching ι Frame} {event : FetchEvent ι}

/-- What a step does to the cache. -/
lemma step_cache (h : step toFrame s event = some s') :
    s'.cache = (s.cacheOps toFrame event).foldl (apply OHLCVCache.horizon) s.cache := by
  cases event with
  | call thread symbol tf limit now =>
      simp only [step] at h
      split at h <;> cases h <;> rfl
  | answer thread raw now =>
      simp only [step] at h
      split_ifs at h
      cases h
      rfl
  | evictExpired now =>
      cases h
      rfl

/-- What a step does to the threads that wait. -/
lemma step_waiting (h : step toFrame s event = some s') {thread : ι} {request : OhlcvRequest}
    (hwaiting : s'.waiting thread = some request) : s.waiting thread = some request
      ∨ ∃ limit now, event = .call thread request.symbol request.tf limit now := by
  cases event with
  | call caller symbol tf limit now =>
      simp only [step] at h
      split at h
      · cases h
      · cases h
        exact Or.inl hwaiting
      · cases h
        simp only [Function.update_apply] at hwaiting
        split_ifs at hwaiting with hthread
        · cases hwaiting
          exact Or.inr ⟨limit, now, by rw [hthread]; rfl⟩
        · exact Or.inl hwaiting
  | answer caller raw now =>
      simp only [step] at h
      split_ifs at h
      cases h
      simp only [Function.update_apply] at hwaiting
      split_ifs at hwaiting
      exact Or.inl hwaiting
  | evictExpired now =>
      cases h
      exact Or.inl hwaiting

/-- The answers accepted in a run. -/
def answersIn (toFrame : List Candle → Except PyError Frame) (events : List (FetchEvent ι)) :
    List (OhlcvAnswer Frame) := outputs (step toFrame) (answers toFrame) {} events

/-- What has been done to the cache in a run. -/
def opsIn (toFrame : List Candle → Except PyError Frame) (events : List (FetchEvent ι)) :
    List (Op String Frame ℚ) := outputs (step toFrame) (cacheOps toFrame) {} events

lemma cache_of_run (hrun : run (step toFrame) {} events = some s) :
    s.cache = after OHLCVCache.horizon (opsIn toFrame events) :=
  outputs_foldl (cacheOps toFrame) (apply OHLCVCache.horizon) cache (fun _ _ _ h => step_cache h) hrun

/-- The timeframes have no underscore. -/
def Plain (event : FetchEvent ι) : Prop :=
  ∀ thread symbol tf limit now, event = .call thread symbol tf limit now → '_' ∉ tf.toList

lemma waiting_of_run (hplain : ∀ event ∈ events, Plain event) (hrun : run (step toFrame) {} events = some s)
    {thread : ι} {request : OhlcvRequest} (hwaiting : s.waiting thread = some request) :
    '_' ∉ request.tf.toList := by
  refine run_history (fun past s => (∀ event ∈ past, Plain event) → ∀ thread request,
    s.waiting thread = some request → '_' ∉ request.tf.toList) ?_ ?_ events s hrun hplain thread request hwaiting
  · intro _ thread request h
    cases h
  · intro past s event s' _ ih hstep hplain thread request hwaiting
    rcases step_waiting hstep hwaiting with hbefore | ⟨limit, now, hcall⟩
    · exact ih (fun e he => hplain e (List.mem_append_left _ he)) thread request hbefore
    · exact hplain event (List.mem_append_right _ (List.mem_singleton_self event)) _ _ _ _ _ hcall

omit [DecidableEq ι] in
/-- The operations of an event happen when it does. -/
lemma time_of_op {op : Op String Frame ℚ} (h : op ∈ s.cacheOps toFrame event) : op.time = event.time := by
  cases event with
  | call thread symbol tf limit now => simp [cacheOps, answers] at h
  | answer thread raw now =>
      simp only [cacheOps, answers] at h
      split at h
      · simp only [List.map_cons, List.map_nil, List.mem_singleton] at h
        rw [h]
        rfl
      · cases h
  | evictExpired now =>
      rw [List.mem_singleton.mp h]
      rfl

/-- **What has been stored last for a symbol and a timeframe** is the last answer for them. -/
lemma lastStored_opsIn (hplain : ∀ event ∈ events, Plain event) (hrun : run (step toFrame) {} events = some s)
    (symbol : String) {tf : String} (htf : '_' ∉ tf.toList) :
    lastStored (OHLCVCache.key symbol tf) (opsIn toFrame events)
      = (Dict.lastOf (fun answer => (answer.request.symbol, answer.request.tf)) (answersIn toFrame events)
          (symbol, tf)).map fun answer => (answer.frame, answer.time) := by
  refine run_history (fun past s => (∀ event ∈ past, Plain event) →
    lastStored (OHLCVCache.key symbol tf) (opsIn toFrame past)
      = (Dict.lastOf (fun answer => (answer.request.symbol, answer.request.tf)) (answersIn toFrame past)
          (symbol, tf)).map fun answer => (answer.frame, answer.time)) ?_ ?_ events s hrun hplain
  · intro _
    rfl
  · intro past s event s' hpast ih _ hplain
    have ih := ih fun e he => hplain e (List.mem_append_left _ he)
    have hops : opsIn toFrame (past ++ [event]) = opsIn toFrame past ++ s.cacheOps toFrame event :=
      outputs_snoc hpast event
    have hanswers : answersIn toFrame (past ++ [event]) = answersIn toFrame past ++ s.answers toFrame event :=
      outputs_snoc hpast event
    rw [hops, hanswers]
    cases event with
    | call thread symbol tf limit now => simpa [cacheOps, answers] using ih
    | answer thread raw now =>
        simp only [cacheOps, answers]
        split
        · rename_i request frame hwaiting _
          have hrequest := waiting_of_run (fun e he => hplain e (List.mem_append_left _ he)) hpast hwaiting
          rw [List.map_cons, List.map_nil, lastStored_snoc, Dict.lastOf_concat]
          simp only [lastStored, Option.none_or, key_inj hrequest htf, Prod.mk.injEq]
          split_ifs
          · rfl
          · exact ih
        · simpa using ih
    | evictExpired now =>
        rw [cacheOps, lastStored_snoc]
        simpa [answers, lastStored] using ih

/-- The last answer for a symbol and a timeframe. -/
def lastAnswer (toFrame : List Candle → Except PyError Frame) (events : List (FetchEvent ι)) (symbol tf : String) :
    Option (OhlcvAnswer Frame) :=
  Dict.lastOf (fun answer => (answer.request.symbol, answer.request.tf)) (answersIn toFrame events) (symbol, tf)

/-- The exchange has given this answer to a thread that had asked for it, and it was long enough. -/
def Answered (toFrame : List Candle → Except PyError Frame) (events : List (FetchEvent ι))
    (answer : OhlcvAnswer Frame) : Prop :=
  ∃ before thread candles rest s, events = before ++ .answer thread (.ok candles) answer.time :: rest
    ∧ run (step toFrame) {} before = some s ∧ s.waiting thread = some answer.request
    ∧ 20 ≤ candles.length ∧ toFrame candles = .ok answer.frame

lemma accepted_eq {raw : Except PyError (List Candle)} {frame : Frame} (h : accepted toFrame raw = some frame) :
    ∃ candles, raw = .ok candles ∧ 20 ≤ candles.length ∧ toFrame candles = .ok frame := by
  cases raw with
  | error e => cases h
  | ok candles =>
      simp only [accepted] at h
      split_ifs at h with hshort
      cases hframe : toFrame candles with
      | error e => simp [hframe] at h
      | ok frame' =>
          simp only [hframe, Option.some.injEq] at h
          exact ⟨candles, rfl, not_lt.mp hshort, h ▸ hframe⟩

/-- **Nothing is in the cache that the exchange has not answered.** -/
lemma answered_of_mem {answer : OhlcvAnswer Frame} (h : answer ∈ answersIn toFrame events) :
    Answered toFrame events answer := by
  obtain ⟨before, event, rest, s, rfl, hbefore, hmem⟩ := mem_outputs.mp h
  cases event with
  | call thread symbol tf limit now => cases hmem
  | answer thread raw now =>
      simp only [answers] at hmem
      split at hmem
      · rename_i request frame hwaiting haccepted
        obtain ⟨candles, rfl, hlong, hframe⟩ := accepted_eq haccepted
        rw [List.mem_singleton] at hmem
        subst hmem
        exact ⟨before, thread, candles, rest, s, rfl, hbefore, hwaiting, hlong, hframe⟩
      · cases hmem
  | evictExpired now => cases hmem

/-- **What a call gets without asking.**  However the calls of the threads and the answers of the exchange
follow each other: a call for a symbol and a timeframe is answered from the cache when the last answer for
these two is younger than the time to live of the timeframe, and gets what that one was made into, whoever had
asked for it and for however many candles. -/
theorem cached_iff (toFrame : List Candle → Except PyError Frame) (past : List (FetchEvent ι))
    (symbol tf : String) (now : ℚ) (hplain : ∀ event ∈ past, Plain event) (htf : '_' ∉ tf.toList)
    (hclock : ∀ event ∈ past, event.time ≤ now) {s : Fetching ι Frame}
    (hrun : run (step toFrame) {} past = some s) (frame : Frame) :
    s.cached symbol tf now = some frame
      ↔ ∃ answer, lastAnswer toFrame past symbol tf = some answer ∧ Answered toFrame past answer
        ∧ answer.frame = frame ∧ now - answer.time < OHLCVCache.ttl tf := by
  have hfresh : ∀ age, age < OHLCVCache.ttl tf → age ≤ OHLCVCache.horizon := by
    intro age hage
    have httl : OHLCVCache.ttl tf ≤ OHLCVCache.horizon := by
      simp only [OHLCVCache.ttl, OHLCVCache.horizon]
      split_ifs <;> norm_num
    exact hage.le.trans httl
  have htimes : ∀ op ∈ opsIn toFrame past, op.time ≤ now := by
    intro op hop
    obtain ⟨before, event, rest, s', rfl, -, hop⟩ := mem_outputs.mp hop
    rw [time_of_op hop]
    exact hclock event (List.mem_append_right _ List.mem_cons_self)
  rw [cached, cache_of_run hrun, get_eq hfresh _ _ htimes, lastStored_opsIn hplain hrun symbol htf]
  simp only [Option.map_eq_some_iff, Prod.mk.injEq]
  constructor
  · rintro ⟨storedAt, ⟨answer, hlast, rfl, rfl⟩, hage⟩
    exact ⟨answer, hlast, answered_of_mem (Dict.lastOf_mem hlast), rfl, hage⟩
  · rintro ⟨answer, hlast, -, rfl, hage⟩
    exact ⟨answer.time, ⟨answer, hlast, rfl, rfl⟩, hage⟩

/-! ## A short answer -/

/-- The open position is looked after with fifty candles. -/
def lookedAfter : List (FetchEvent Unit) :=
  [.call () "BTC/USDT" "15m" (some 50) 1000, .answer () (.ok (List.replicate 50 (.list []))) 1001]

/-- Five minutes later the search for an entry, which wants four hundred candles, gets the same fifty. -/
theorem cached_iff_lookedAfter : ∃ s, run (step fun candles => .ok candles.length) {} lookedAfter = some s
    ∧ s.cached "BTC/USDT" "15m" 1300 = some 50 ∧ (OhlcvRequest.of "BTC/USDT" "15m" none).n = 400 := by
  have hsome : (run (step fun candles => .ok candles.length) {} lookedAfter).isSome := rfl
  obtain ⟨s, hrun⟩ := Option.isSome_iff_exists.mp hsome
  have hplain : ∀ event ∈ lookedAfter, Plain event := by
    intro event hevent thread symbol tf limit now heq
    rw [heq] at hevent
    simp only [lookedAfter, List.mem_cons, FetchEvent.call.injEq, List.not_mem_nil, reduceCtorEq, or_false] at hevent
    rw [hevent.2.2.1]
    decide
  refine ⟨s, hrun, ?_, by decide +kernel⟩
  rw [cached_iff (fun candles => .ok candles.length) lookedAfter "BTC/USDT" "15m" 1300 hplain (by decide)
    (by simp [lookedAfter, FetchEvent.time]; norm_num) hrun]
  have hlast : lastAnswer (fun candles => .ok candles.length) lookedAfter "BTC/USDT" "15m"
      = some ⟨OhlcvRequest.of "BTC/USDT" "15m" (some 50), 50, 1001⟩ := rfl
  exact ⟨_, hlast, answered_of_mem (Dict.lastOf_mem hlast), rfl, by decide +kernel⟩

end Fetching

end Aegis.Pro
