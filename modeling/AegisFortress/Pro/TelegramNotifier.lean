import AegisFortress.Lib.Batches
import AegisFortress.Lib.Chunks
import AegisFortress.Lib.Fifo
import AegisFortress.Lib.Heartbeats
import AegisFortress.Python.Builtins

/-!
# The Telegram notifier

`TelegramNotifier` of `monitor.py`.  The threads of the bot put messages into a queue, which is emptied when there
are five of them, by a thread that looks every five seconds whether the last time was a minute ago, and when the
bot is shut down.  Each time a thread of its own posts the messages, joined, in chunks of 4000 characters.

`messages_posted` follows a message from `send` to the requests.
-/

namespace Aegis.Pro

open Batches

/-- The notifier; `token` and `chat_id` are empty where it is not configured. -/
structure TelegramNotifier where
  token : String
  chatId : String
  queue : List String := []
  lastFlush : ℚ
  deriving DecidableEq

/-- What `_session.post` is called with. -/
structure TelegramRequest where
  url : String
  chatId : String
  text : String
  parseMode : String
  timeout : ℕ
  deriving DecidableEq

namespace TelegramNotifier

def BATCH_SIZE : ℕ := 5

def FLUSH_INTERVAL : ℚ := 60

/-- The length of a chunk. -/
def CHUNK : ℕ := 4000

variable (notifier : TelegramNotifier)

/-- `token and chat_id`. -/
def configured : Bool := notifier.token ≠ "" ∧ notifier.chatId ≠ ""

/-- `_flush_locked()`, and the text with which it starts a thread, if it does. -/
def flushLocked (now : ℚ) : TelegramNotifier × List String :=
  if notifier.queue.isEmpty then (notifier, [])
  else ({ notifier with queue := [], lastFlush := now }, ["\n\n".intercalate notifier.queue])

/-- `send(msg)`. -/
def send (now : ℚ) (msg : String) : TelegramNotifier × List String :=
  if ¬ notifier.configured then (notifier, [])
  else
    let queued := { notifier with queue := notifier.queue ++ [msg] }
    if BATCH_SIZE ≤ queued.queue.length then queued.flushLocked now else (queued, [])

/-- One round of `_flush_loop()`; the clock is read once more by `_flush_locked`. -/
def flushRound (now flushed : ℚ) : TelegramNotifier × List String :=
  if ¬ notifier.queue.isEmpty ∧ FLUSH_INTERVAL ≤ now - notifier.lastFlush then notifier.flushLocked flushed
  else (notifier, [])

/-- `flush_all()`. -/
def flushAll (now : ℚ) : TelegramNotifier × List String := notifier.flushLocked now

/-- The chunks that `_send_now(text)` posts. -/
def chunksOf (text : String) : List String :=
  if pyStrip text = "" then [] else (Chunks.chunks CHUNK text.toList).map String.ofList

/-- The address to which chunks are posted. -/
def sendMessageUrl (token : String) : String := "https://api.telegram.org/bot" ++ token ++ "/sendMessage"

/-- The request with a chunk. -/
def request (chunk : String) : TelegramRequest where
  url := sendMessageUrl notifier.token
  chatId := notifier.chatId
  text := chunk
  parseMode := "HTML"
  timeout := 10

end TelegramNotifier

/-! ## The threads -/

/-- The notifier, and what each thread that was started has still to post. -/
structure Notifying where
  notifier : TelegramNotifier
  threads : List (List String)
  deriving DecidableEq

/-- What one of the threads does.  A request is answered by whatever it returns or raises. -/
inductive NotifyStep
  | send (now : ℚ) (msg : String)
  | flushRound (now flushed : ℚ)
  | flushAll (now : ℚ)
  | post (thread : ℕ) (answer : Except PyError Unit)

namespace Notifying

open TelegramNotifier Machine

/-- `TelegramNotifier(token, chat_id)`. -/
def new (token chatId : String) (now : ℚ) : Notifying := ⟨{ token, chatId, lastFlush := now }, []⟩

/-- The threads that are started. -/
def start (s : Notifying) (flushed : TelegramNotifier × List String) : Notifying where
  notifier := flushed.1
  threads := s.threads ++ flushed.2.map chunksOf

/-- One step.  The lock is held from the beginning to the end of a step, as far as it touches the queue.  The
thread of the rounds is there only if the notifier is configured; a request that fails is logged, and the next
chunk follows. -/
def step (s : Notifying) : NotifyStep → Option Notifying
  | .send now msg => some (s.start (s.notifier.send now msg))
  | .flushRound now flushed =>
      if s.notifier.configured then some (s.start (s.notifier.flushRound now flushed)) else none
  | .flushAll now => some (s.start (s.notifier.flushAll now))
  | .post thread _ =>
      match s.threads[thread]? with
      | some (_ :: rest) => some { s with threads := s.threads.set thread rest }
      | _ => none

/-- The request of a step, and the thread that makes it. -/
def requests (s : Notifying) : NotifyStep → List (ℕ × TelegramRequest)
  | .post thread _ => ((s.threads[thread]?.bind List.head?).map fun chunk => (thread, s.notifier.request chunk)).toList
  | _ => []

end Notifying

/-! ## The queue of the notifier is emptied in batches -/

namespace TelegramNotifier

/-- The queue, without what the notifier is configured with. -/
def asQueue (notifier : TelegramNotifier) : Queue String ℚ := ⟨notifier.queue, notifier.lastFlush⟩

/-- The text of a batch. -/
def textOf (batch : List String) : String := "\n\n".intercalate batch

/-- The notifier does what a call does to its queue. -/
structure Does (notifier : TelegramNotifier) (call : Call String ℚ) (flushed : TelegramNotifier × List String) :
    Prop where
  queue : flushed.1.asQueue = (notifier.asQueue.call BATCH_SIZE FLUSH_INTERVAL call).1
  texts : flushed.2 = (notifier.asQueue.call BATCH_SIZE FLUSH_INTERVAL call).2.map textOf
  token : flushed.1.token = notifier.token
  chatId : flushed.1.chatId = notifier.chatId

variable {notifier : TelegramNotifier}

lemma flushLocked_eq (notifier : TelegramNotifier) (now : ℚ) :
    (notifier.flushLocked now).1.asQueue = (notifier.asQueue.flush now).1
      ∧ (notifier.flushLocked now).2 = (notifier.asQueue.flush now).2.map textOf
      ∧ (notifier.flushLocked now).1.token = notifier.token
      ∧ (notifier.flushLocked now).1.chatId = notifier.chatId := by
  by_cases hnone : notifier.queue = []
  · simp [flushLocked, Queue.flush, asQueue, hnone]
  · simp [flushLocked, Queue.flush, asQueue, hnone, textOf]

lemma does_send (hconfigured : notifier.configured = true) (now : ℚ) (msg : String) :
    notifier.Does (.add now msg) (notifier.send now msg) := by
  have hflush := flushLocked_eq { notifier with queue := notifier.queue ++ [msg] } now
  have hsend : notifier.send now msg = if BATCH_SIZE ≤ (notifier.queue ++ [msg]).length
      then { notifier with queue := notifier.queue ++ [msg] }.flushLocked now
      else ({ notifier with queue := notifier.queue ++ [msg] }, []) := by
    simp [send, hconfigured]
  by_cases hfull : BATCH_SIZE ≤ (notifier.queue ++ [msg]).length
  · have hcall : notifier.asQueue.call BATCH_SIZE FLUSH_INTERVAL (.add now msg)
        = ({ notifier with queue := notifier.queue ++ [msg] } : TelegramNotifier).asQueue.flush now := if_pos hfull
    rw [hsend, if_pos hfull]
    exact ⟨hcall ▸ hflush.1, hcall ▸ hflush.2.1, hflush.2.2.1, hflush.2.2.2⟩
  · have hcall : notifier.asQueue.call BATCH_SIZE FLUSH_INTERVAL (.add now msg)
        = (({ notifier with queue := notifier.queue ++ [msg] } : TelegramNotifier).asQueue, []) := if_neg hfull
    rw [hsend, if_neg hfull]
    exact ⟨by rw [hcall], by rw [hcall]; rfl, rfl, rfl⟩

lemma does_flushRound (now flushed : ℚ) : notifier.Does (.tick now flushed) (notifier.flushRound now flushed) := by
  have hflush := flushLocked_eq notifier flushed
  by_cases hdue : ¬ notifier.queue.isEmpty ∧ FLUSH_INTERVAL ≤ now - notifier.lastFlush
  · have hcall : notifier.asQueue.call BATCH_SIZE FLUSH_INTERVAL (.tick now flushed) = notifier.asQueue.flush flushed :=
      if_pos hdue
    rw [flushRound, if_pos hdue]
    exact ⟨hcall ▸ hflush.1, hcall ▸ hflush.2.1, hflush.2.2.1, hflush.2.2.2⟩
  · have hcall : notifier.asQueue.call BATCH_SIZE FLUSH_INTERVAL (.tick now flushed) = (notifier.asQueue, []) :=
      if_neg hdue
    rw [flushRound, if_neg hdue]
    exact ⟨by rw [hcall], by rw [hcall]; rfl, rfl, rfl⟩

lemma does_flushAll (now : ℚ) : notifier.Does (.flush now) (notifier.flushAll now) := by
  have hflush := flushLocked_eq notifier now
  have hcall : notifier.asQueue.call BATCH_SIZE FLUSH_INTERVAL (.flush now) = notifier.asQueue.flush now := rfl
  rw [flushAll]
  exact ⟨hcall ▸ hflush.1, hcall ▸ hflush.2.1, hflush.2.2.1, hflush.2.2.2⟩

lemma Does.configured {call : Call String ℚ} {flushed : TelegramNotifier × List String}
    (h : notifier.Does call flushed) : flushed.1.configured = notifier.configured := by
  rw [TelegramNotifier.configured, TelegramNotifier.configured, h.token, h.chatId]

lemma Does.request {call : Call String ℚ} {flushed : TelegramNotifier × List String} (h : notifier.Does call flushed)
    (chunk : String) : flushed.1.request chunk = notifier.request chunk := by
  rw [TelegramNotifier.request, TelegramNotifier.request, h.token, h.chatId]

end TelegramNotifier

/-- The call of the queue that a step makes.  Without a token and a chat nothing is put into it. -/
def NotifyStep.call? (configured : Bool) : NotifyStep → Option (Call String ℚ)
  | .send now msg => if configured then some (.add now msg) else none
  | .flushRound now flushed => some (.tick now flushed)
  | .flushAll now => some (.flush now)
  | .post _ _ => none

/-- The message that a step puts into the queue. -/
def NotifyStep.sent? (configured : Bool) : NotifyStep → Option String
  | .send _ msg => if configured then some msg else none
  | _ => none

/-- What a step reads off the clock. -/
def NotifyStep.readings : NotifyStep → List ℚ
  | .send now _ => [now]
  | .flushRound now flushed => [now, flushed]
  | .flushAll now => [now]
  | .post _ _ => []

/-- The rounds of the flusher are polls. -/
def NotifyStep.poll? : NotifyStep → Option (Heartbeats.Signal ℚ)
  | .flushRound now _ => some (.poll now)
  | _ => none

namespace Notifying

open TelegramNotifier Machine

variable {s s' : Notifying} {event : NotifyStep}

/-- A step empties the queue or puts something into it, or makes a request. -/
lemma step_cases (h : step s event = some s') :
    (∃ call flushed, event.call? s.notifier.configured = some call ∧ s.notifier.Does call flushed
        ∧ s' = s.start flushed ∧ requests s event = [])
      ∨ (event.call? s.notifier.configured = none ∧ s' = s ∧ requests s event = [])
      ∨ ∃ thread chunk rest, event.call? s.notifier.configured = none ∧ s.threads[thread]? = some (chunk :: rest)
        ∧ s' = { s with threads := s.threads.set thread rest }
        ∧ requests s event = [(thread, s.notifier.request chunk)] := by
  cases event with
  | send now msg =>
      obtain rfl := Option.some.inj h
      by_cases hconfigured : s.notifier.configured = true
      · exact Or.inl ⟨_, _, by rw [NotifyStep.call?, if_pos hconfigured], does_send hconfigured now msg, rfl, rfl⟩
      · refine Or.inr (Or.inl ⟨by rw [NotifyStep.call?, if_neg hconfigured], ?_, rfl⟩)
        simp [start, TelegramNotifier.send, hconfigured]
  | flushRound now flushed =>
      simp only [step, Option.ite_none_right_eq_some, Option.some.injEq] at h
      obtain ⟨-, rfl⟩ := h
      exact Or.inl ⟨_, _, rfl, does_flushRound now flushed, rfl, rfl⟩
  | flushAll now =>
      obtain rfl := Option.some.inj h
      exact Or.inl ⟨_, _, rfl, does_flushAll now, rfl, rfl⟩
  | post thread answer =>
      simp only [step] at h
      split at h
      case h_1 chunk rest hthread =>
          obtain rfl := Option.some.inj h
          exact Or.inr (Or.inr ⟨thread, chunk, rest, rfl, hthread, rfl, by simp [requests, hthread]⟩)
      case h_2 => cases h

/-- The calls of the queue in a run. -/
def callsIn (configured : Bool) (events : List NotifyStep) : List (Call String ℚ) :=
  events.filterMap (NotifyStep.call? configured)

/-- The batches given away in a run. -/
def batchesIn (configured : Bool) (created : ℚ) (events : List NotifyStep) : List (List String) :=
  (⟨[], created⟩ : Queue String ℚ).batches BATCH_SIZE FLUSH_INTERVAL (callsIn configured events)

/-- The texts that a thread has posted. -/
def textsOf (thread : ℕ) (posted : List (ℕ × TelegramRequest)) : List String :=
  posted.filterMap fun e => if e.1 = thread then some e.2.text else none

/-- What the queue and the threads have to do with the history. -/
structure Follows (token chatId : String) (created : ℚ) (past : List NotifyStep)
    (posted : List (ℕ × TelegramRequest)) (s : Notifying) : Prop where
  token : s.notifier.token = token
  chatId : s.notifier.chatId = chatId
  queue : s.notifier.asQueue
    = (⟨[], created⟩ : Queue String ℚ).after BATCH_SIZE FLUSH_INTERVAL (callsIn s.notifier.configured past)
  length : s.threads.length = (batchesIn s.notifier.configured created past).length
  threads : ∀ thread, textsOf thread posted ++ (s.threads[thread]?).getD []
    = (((batchesIn s.notifier.configured created past).map fun batch => chunksOf (textOf batch))[thread]?).getD []
  requests : ∀ e ∈ posted, e.2 = s.notifier.request e.2.text

variable {token chatId : String} {created : ℚ} {past : List NotifyStep} {posted : List (ℕ × TelegramRequest)}

lemma follows_new : Follows token chatId created [] [] (new token chatId created) where
  token := rfl
  chatId := rfl
  queue := rfl
  length := rfl
  threads _ := rfl
  requests e h := by cases h

lemma callsIn_snoc (configured : Bool) (past : List NotifyStep) (event : NotifyStep) :
    callsIn configured (past ++ [event]) = callsIn configured past ++ (event.call? configured).toList := by
  rw [callsIn, List.filterMap_append]
  cases h : event.call? configured <;> simp [callsIn, h]

/-- Without a call there is no batch. -/
lemma no_call {configured : Bool} (hcall : event.call? configured = none) (created : ℚ) (past : List NotifyStep) :
    callsIn configured (past ++ [event]) = callsIn configured past
      ∧ batchesIn configured created (past ++ [event]) = batchesIn configured created past := by
  have hcalls : callsIn configured (past ++ [event]) = callsIn configured past := by
    rw [callsIn_snoc, hcall, Option.toList_none, List.append_nil]
  exact ⟨hcalls, by rw [batchesIn, hcalls, batchesIn]⟩

lemma textsOf_append (thread : ℕ) (posted posted' : List (ℕ × TelegramRequest)) :
    textsOf thread (posted ++ posted') = textsOf thread posted ++ textsOf thread posted' :=
  List.filterMap_append

/-- A call starts the threads of its batches. -/
lemma Follows.start (h : Follows token chatId created past posted s) {call : Call String ℚ}
    {flushed : TelegramNotifier × List String} (hcall : event.call? s.notifier.configured = some call)
    (hdoes : s.notifier.Does call flushed) :
    Follows token chatId created (past ++ [event]) posted (s.start flushed) := by
  have hcalls : callsIn s.notifier.configured (past ++ [event]) = callsIn s.notifier.configured past ++ [call] := by
    rw [callsIn_snoc, hcall, Option.toList_some]
  have hbatches : batchesIn s.notifier.configured created (past ++ [event])
      = batchesIn s.notifier.configured created past
        ++ (s.notifier.asQueue.call BATCH_SIZE FLUSH_INTERVAL call).2 := by
    rw [batchesIn, hcalls, batches_append, ← h.queue]
    simp [batchesIn, Queue.batches]
  have hconfigured : (s.start flushed).notifier.configured = s.notifier.configured := hdoes.configured
  refine ⟨hdoes.token.trans h.token, hdoes.chatId.trans h.chatId, ?_, ?_, ?_, ?_⟩
  · rw [hconfigured, hcalls, after_append, ← h.queue]
    exact hdoes.queue
  · rw [hconfigured, hbatches]
    simp [Notifying.start, h.length, hdoes.texts]
  · intro thread
    have hbefore := h.threads thread
    rw [hconfigured, hbatches, List.map_append]
    have hthreads : (s.start flushed).threads = s.threads
        ++ (s.notifier.asQueue.call BATCH_SIZE FLUSH_INTERVAL call).2.map fun batch => chunksOf (textOf batch) := by
      simp [Notifying.start, hdoes.texts]
    rw [hthreads]
    by_cases hold : thread < s.threads.length
    · rw [List.getElem?_append_left hold, List.getElem?_append_left (by simpa [← h.length] using hold)]
      exact hbefore
    · -- a thread that is new has posted nothing
      have hnone : textsOf thread posted = [] := by
        have hempty := hbefore
        rw [List.getElem?_eq_none (by simpa using hold),
          List.getElem?_eq_none (by simpa [← h.length] using hold)] at hempty
        simpa using hempty
      rw [hnone, List.nil_append, List.getElem?_append_right (not_lt.mp hold),
        List.getElem?_append_right (by simpa [← h.length] using hold), List.length_map, ← h.length]
  · intro e he
    rw [h.requests e he]
    exact (hdoes.request _).symm

/-- A message that is not put into the queue changes nothing. -/
lemma Follows.idle (h : Follows token chatId created past posted s)
    (hcall : event.call? s.notifier.configured = none) :
    Follows token chatId created (past ++ [event]) posted s := by
  obtain ⟨hcalls, hbatches⟩ := no_call hcall created past
  refine ⟨h.token, h.chatId, ?_, ?_, ?_, h.requests⟩
  · rw [hcalls]
    exact h.queue
  · rw [hbatches]
    exact h.length
  · rw [hbatches]
    exact h.threads

/-- A request takes the first of the chunks that are left. -/
lemma Follows.post (h : Follows token chatId created past posted s) {thread : ℕ} {chunk : String} {rest : List String}
    (hcall : event.call? s.notifier.configured = none) (hthread : s.threads[thread]? = some (chunk :: rest)) :
    Follows token chatId created (past ++ [event]) (posted ++ [(thread, s.notifier.request chunk)])
      { s with threads := s.threads.set thread rest } := by
  obtain ⟨hcalls, hbatches⟩ := no_call hcall created past
  have hbound : thread < s.threads.length := (List.getElem?_eq_some_iff.mp hthread).1
  refine ⟨h.token, h.chatId, ?_, ?_, ?_, ?_⟩
  · rw [hcalls]
    exact h.queue
  · rw [hbatches, List.length_set]
    exact h.length
  · intro other
    rw [hbatches, ← h.threads other, textsOf_append, List.append_assoc, List.getElem?_set]
    by_cases heq : thread = other
    · subst heq
      rw [if_pos rfl, if_pos hbound, hthread]
      simp [textsOf, TelegramNotifier.request]
    · simp [heq, textsOf]
  · intro e he
    rcases List.mem_append.mp he with he | he
    · exact h.requests e he
    · rw [List.mem_singleton] at he
      subst he
      rfl

/-- After any steps. -/
theorem follows_of_run {events : List NotifyStep} (hrun : run step (new token chatId created) events = some s) :
    Follows token chatId created events (outputs step requests (new token chatId created) events) s := by
  refine run_history (fun past s => Follows token chatId created past
    (outputs step requests (new token chatId created) past) s) follows_new ?_ events s hrun
  intro past s event s' hpast ih hstep
  rw [outputs_snoc hpast]
  rcases step_cases hstep with ⟨call, flushed, hcall, hdoes, rfl, hnone⟩ | ⟨hcall, rfl, hnone⟩
    | ⟨thread, chunk, rest, hcall, hthread, rfl, hone⟩
  · rw [hnone, List.append_nil]
    exact ih.start hcall hdoes
  · rw [hnone, List.append_nil]
    exact ih.idle hcall
  · rw [hone]
    exact ih.post hcall hthread

/-! ## Messages -/

/-- The messages put into the queue in a run. -/
def sentIn (configured : Bool) (events : List NotifyStep) : List String :=
  events.filterMap (NotifyStep.sent? configured)

lemma added_callsIn (configured : Bool) (events : List NotifyStep) :
    (callsIn configured events).flatMap Call.added = sentIn configured events := by
  induction events using List.reverseRecOn with
  | nil => rfl
  | append_singleton past event ih =>
      have hone : (event.call? configured).toList.flatMap Call.added = (event.sent? configured).toList := by
        cases event with
        | send now msg => cases configured <;> rfl
        | _ => rfl
      rw [callsIn_snoc, List.flatMap_append, ih, hone, sentIn, sentIn, List.filterMap_append]
      cases h : event.sent? configured <;> simp [h]

lemma flushed_le {configured : Bool} {events : List NotifyStep} {now : ℚ}
    (hpast : ∀ time ∈ events.flatMap NotifyStep.readings, time ≤ now) :
    ∀ call ∈ callsIn configured events, call.flushed ≤ now := by
  intro call hcall
  obtain ⟨event, hevent, hmade⟩ := List.mem_filterMap.mp hcall
  have hreadings : call.flushed ∈ event.readings := by
    cases event with
    | send now msg =>
        rw [NotifyStep.call?, Option.ite_none_right_eq_some] at hmade
        obtain ⟨-, hmade⟩ := hmade
        cases hmade
        simp [Call.flushed, NotifyStep.readings]
    | post thread answer => cases hmade
    | _ =>
        cases hmade
        simp [Call.flushed, NotifyStep.readings]
  exact hpast _ (List.mem_flatMap.mpr ⟨event, hevent, hreadings⟩)

/-- The batches are the messages, as far as they do not wait. -/
lemma flatten_batchesIn (configured : Bool) (created : ℚ) (events : List NotifyStep) :
    (batchesIn configured created events).flatten
      ++ ((⟨[], created⟩ : Queue String ℚ).after BATCH_SIZE FLUSH_INTERVAL (callsIn configured events)).waiting
      = sentIn configured events := by
  have hadded := added_eq BATCH_SIZE FLUSH_INTERVAL ⟨[], created⟩ (callsIn configured events)
  rw [List.nil_append, added_callsIn] at hadded
  rw [batchesIn]
  exact hadded.symm

lemma batches_small (configured : Bool) (created : ℚ) (events : List NotifyStep) :
    ((⟨[], created⟩ : Queue String ℚ).after BATCH_SIZE FLUSH_INTERVAL (callsIn configured events)).waiting.length
        < BATCH_SIZE
      ∧ ∀ batch ∈ batchesIn configured created events, 0 < batch.length ∧ batch.length ≤ BATCH_SIZE :=
  length_batch (show 0 < BATCH_SIZE by decide) _

/-- The chunks are the text, unless it is blank. -/
lemma flatMap_chunksOf (text : String) :
    (chunksOf text).flatMap String.toList = if pyStrip text = "" then [] else text.toList := by
  rw [chunksOf]
  split_ifs with hblank
  · rfl
  · rw [List.flatMap_map]
    simp [List.flatMap_id', Chunks.flatten_chunks (show 0 < CHUNK by decide)]

lemma length_of_mem_chunksOf {text chunk : String} (h : chunk ∈ chunksOf text) :
    0 < chunk.length ∧ chunk.length ≤ CHUNK := by
  rw [chunksOf] at h
  split_ifs at h with hblank
  · cases h
  · obtain ⟨piece, hpiece, rfl⟩ := List.mem_map.mp h
    simpa using Chunks.length_chunk (show 0 < CHUNK by decide) hpiece

/-- A request is one of a thread that was started. -/
lemma Follows.of_posted (h : Follows token chatId created past posted s) {e : ℕ × TelegramRequest} (he : e ∈ posted) :
    ∃ batch, (batchesIn s.notifier.configured created past)[e.1]? = some batch
      ∧ e.2.text ∈ chunksOf (textOf batch) := by
  have hmem : e.2.text ∈ textsOf e.1 posted := List.mem_filterMap.mpr ⟨e, he, if_pos rfl⟩
  have hthread := h.threads e.1
  rw [List.getElem?_map] at hthread
  have hchunk := List.mem_append_left ((s.threads[e.1]?).getD []) hmem
  rw [hthread] at hchunk
  cases hbatch : (batchesIn s.notifier.configured created past)[e.1]? with
  | none =>
      rw [hbatch] at hchunk
      cases hchunk
  | some batch =>
      rw [hbatch, Option.map_some, Option.getD_some] at hchunk
      exact ⟨batch, rfl, hchunk⟩

lemma Follows.configured (h : Follows token chatId created past posted s) :
    s.notifier.configured = (new token chatId created).notifier.configured := by
  rw [TelegramNotifier.configured, TelegramNotifier.configured, h.token, h.chatId]
  rfl

lemma Follows.request (h : Follows token chatId created past posted s) (chunk : String) :
    s.notifier.request chunk = (new token chatId created).notifier.request chunk := by
  rw [TelegramNotifier.request, TelegramNotifier.request, h.token, h.chatId]
  rfl

/-- The rounds are made by a thread that is there only if the notifier is configured. -/
lemma configured_of_round {before after : List NotifyStep} {late flushed : ℚ}
    (hrun : run step (new token chatId created) (before ++ .flushRound late flushed :: after) = some s) :
    (new token chatId created).notifier.configured = true := by
  rw [run_append, Option.bind_eq_some_iff] at hrun
  obtain ⟨s₁, hbefore, hrest⟩ := hrun
  rw [run_cons, Option.bind_eq_some_iff] at hrest
  obtain ⟨s₂, hround, -⟩ := hrest
  simp only [step, Option.ite_none_right_eq_some] at hround
  rw [← (follows_of_run hbefore).configured]
  exact hround.1

/-- The poll of the flusher is one of its rounds. -/
lemma round_of_poll {events : List NotifyStep} {before after : List (Heartbeats.Signal ℚ)} {late : ℚ}
    (h : events.filterMap NotifyStep.poll? = before ++ .poll late :: after) :
    ∃ before' flushed after', events = before' ++ .flushRound late flushed :: after' := by
  obtain ⟨before', rest, rfl, -, hrest⟩ := List.filterMap_eq_append_iff.mp h
  obtain ⟨quiet, event, after', rfl, -, hevent, -⟩ := List.filterMap_eq_cons_iff.mp hrest
  cases event with
  | flushRound now flushed =>
      cases hevent
      exact ⟨before' ++ quiet, flushed, after', by rw [List.append_assoc]⟩
  | _ => cases hevent

/-- The message that was sent after `past` is in a batch. -/
def Batched (configured : Bool) (created : ℚ) (past : List NotifyStep) (msg : String) (events : List NotifyStep) :
    Prop := (batchesIn configured created events).flatten[(sentIn configured past).length]? = some msg

/-- A message is in a batch with the first round that comes late enough. -/
lemma batched_in_time {configured : Bool} (hconfigured : configured = true) {now late : ℚ} {msg : String}
    (between : List NotifyStep) (flushed : ℚ) (hcreated : created ≤ now)
    (hpast : ∀ time ∈ past.flatMap NotifyStep.readings, time ≤ now) (hlate : now + FLUSH_INTERVAL ≤ late) :
    Batched configured created past msg (past ++ .send now msg :: between ++ [.flushRound late flushed]) := by
  have hcalls : callsIn configured (past ++ .send now msg :: between ++ [.flushRound late flushed])
      = callsIn configured past ++ .add now msg :: callsIn configured between ++ [.tick late flushed] := by
    simp [callsIn, NotifyStep.call?, hconfigured]
  have hclock : ((⟨[], created⟩ : Queue String ℚ).after BATCH_SIZE FLUSH_INTERVAL
      (callsIn configured past)).lastFlush ≤ now :=
    lastFlush_le hcreated (flushed_le hpast)
  have hgone := gone_in_time (callsIn configured past) (callsIn configured between) msg flushed hclock hlate
  rw [← hcalls, added_callsIn, List.length_nil, Nat.zero_add] at hgone
  have hall := flatten_batchesIn configured created (past ++ .send now msg :: between ++ [.flushRound late flushed])
  have hsent : sentIn configured (past ++ .send now msg :: between ++ [.flushRound late flushed])
      = sentIn configured past ++ msg :: sentIn configured (between ++ [.flushRound late flushed]) := by
    simp [sentIn, NotifyStep.sent?, hconfigured]
  rw [Batched, batchesIn, ← List.getElem?_append_left hgone]
  rw [batchesIn] at hall
  rw [hall, hsent]
  simp

/-- **Messages.**  In every run of the threads: the batches, one after the other, and what still waits are the
messages that were sent, each once and in their order; fewer than five wait, and no batch has more than five.  The
thread of a batch posts the text of the batch, in chunks of at most 4000 characters and in their order, each in one
request, whatever the others are answered.  And when the rounds follow each other at most `gap` seconds apart, on a
clock that does not go back, a message is in a batch after a minute and `gap`. -/
theorem messages_posted (token chatId : String) (created : ℚ) (events : List NotifyStep)
    (hrun : run step (new token chatId created) events = some s) :
    let configured := (new token chatId created).notifier.configured
    let batches := batchesIn configured created events
    let posted := outputs step requests (new token chatId created) events
    (batches.flatten ++ s.notifier.queue = sentIn configured events
        ∧ s.notifier.queue.length < BATCH_SIZE
        ∧ ∀ batch ∈ batches, 0 < batch.length ∧ batch.length ≤ BATCH_SIZE)
      ∧ (∀ thread batch, batches[thread]? = some batch → ∃ rest, s.threads[thread]? = some rest
          ∧ (textsOf thread posted ++ rest).flatMap String.toList
            = if pyStrip (textOf batch) = "" then [] else (textOf batch).toList)
      ∧ (∀ e ∈ posted, e.1 < batches.length ∧ e.2 = (new token chatId created).notifier.request e.2.text
          ∧ 0 < e.2.text.length ∧ e.2.text.length ≤ CHUNK)
      ∧ ∀ past now msg rest gap, events = past ++ .send now msg :: rest → created ≤ now →
          (∀ time ∈ past.flatMap NotifyStep.readings, time ≤ now) →
          Heartbeats.Polling gap now (rest.filterMap NotifyStep.poll?) →
          (∃ late ∈ (rest.filterMap NotifyStep.poll?).filterMap Heartbeats.Signal.poll?, now + FLUSH_INTERVAL < late) →
          ∃ between late flushed after, rest = between ++ .flushRound late flushed :: after
            ∧ late ≤ now + FLUSH_INTERVAL + gap
            ∧ Batched configured created past msg (past ++ .send now msg :: between ++ [.flushRound late flushed]) := by
  intro configured batches posted
  have h : Follows token chatId created events posted s := follows_of_run hrun
  have hconfigured : s.notifier.configured = configured := h.configured
  have hlength : s.threads.length = batches.length := by
    rw [h.length, hconfigured]
  refine ⟨?_, ?_, ?_, ?_⟩
  · have hqueue : s.notifier.queue
        = ((⟨[], created⟩ : Queue String ℚ).after BATCH_SIZE FLUSH_INTERVAL (callsIn configured events)).waiting := by
      rw [← hconfigured, ← h.queue]
      rfl
    rw [hqueue]
    exact ⟨flatten_batchesIn configured created events, batches_small configured created events⟩
  · intro thread batch hbatch
    have hthread := h.threads thread
    rw [hconfigured, List.getElem?_map, hbatch] at hthread
    have hbound : thread < s.threads.length := hlength ▸ (List.getElem?_eq_some_iff.mp hbatch).1
    refine ⟨s.threads[thread], List.getElem?_eq_getElem hbound, ?_⟩
    rw [List.getElem?_eq_getElem hbound, Option.getD_some, Option.map_some, Option.getD_some] at hthread
    rw [hthread, flatMap_chunksOf]
  · intro e he
    obtain ⟨batch, hbatch, hchunk⟩ := h.of_posted he
    rw [hconfigured] at hbatch
    exact ⟨(List.getElem?_eq_some_iff.mp hbatch).1, (h.requests e he).trans (h.request _),
      length_of_mem_chunksOf hchunk⟩
  · rintro past now msg rest gap rfl hcreated hpast hpolling hlater
    have hinterval : (0 : ℚ) ≤ FLUSH_INTERVAL := by decide +kernel
    obtain ⟨before, late, after, hsplit, hlate, start, hstart, hsoon⟩ :=
      Heartbeats.first_poll (le_add_of_nonneg_right hinterval) hpolling hlater
    obtain ⟨between, flushed, after', rfl⟩ := round_of_poll hsplit
    have hconf : configured = true :=
      configured_of_round (List.append_assoc past (.send now msg :: between) _ ▸ hrun)
    exact ⟨between, late, flushed, after', rfl, hsoon.trans (add_le_add_left hstart gap),
      batched_in_time hconf between flushed hcreated hpast hlate.le⟩

/-- A message, and a round every five seconds. -/
def oneMessage : List NotifyStep :=
  .send 1 "hi" :: (List.range 13).map fun i => .flushRound (5 + 5 * i) (5 + 5 * i)

/-- It is in a batch after 65 seconds, and one request posts it. -/
theorem messages_posted_one :
    (∃ between late flushed after, oneMessage.tail = between ++ .flushRound late flushed :: after ∧ late ≤ 1 + 60 + 5
        ∧ Batched true 0 [] "hi" (.send 1 "hi" :: between ++ [.flushRound late flushed]))
      ∧ ((run step (new "t" "c" 0) (oneMessage ++ [.post 0 (.ok ())])).map fun s => (s.notifier.queue, s.threads))
        = some ([], [[]]) := by
  obtain ⟨s, hrun⟩ : ∃ s, run step (new "t" "c" 0) oneMessage = some s :=
    Option.isSome_iff_exists.mp (by decide +kernel)
  obtain ⟨-, -, -, hsoon⟩ := messages_posted "t" "c" 0 oneMessage hrun
  have hpolling : Heartbeats.Polling 5 1 (oneMessage.tail.filterMap NotifyStep.poll?) := by
    simp [oneMessage, List.range_succ, NotifyStep.poll?, Heartbeats.Polling]
    norm_num
  exact ⟨hsoon [] 1 "hi" oneMessage.tail 5 rfl (by decide) (by decide +kernel) hpolling
    ⟨65, by decide +kernel, by decide +kernel⟩, by decide +kernel⟩

end Notifying

end Aegis.Pro
