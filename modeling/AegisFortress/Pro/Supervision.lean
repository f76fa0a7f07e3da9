import AegisFortress.Lib.Fifo
import AegisFortress.Lib.Heartbeats
import AegisFortress.Pro.Watchdog

/-!
# The bot and its watchdog

The main loop of `main_legacy.py` and the thread of `watchdog.py`: the loop writes the time into a file, the
thread looks at it every so often and starts the process anew when the time is too old.  The files outlive the
process, so a new process is judged by the last beat of the old one until it has written one of its own.

`watchdog_run`: restarts come only after a silence, a silence is noticed in time unless the restarts of the
hour are used up, and there are only so many of them.
-/

namespace Aegis.Pro

open Heartbeats RateLimit Machine

/-- The parameters of the watchdog. -/
structure WatchdogConfig extends AegisConfig where
  heartbeatTimeoutSecs : ℚ := 360

/-- What happens to the bot.  A check reads the clock, and perhaps once more in `_can_restart`; `spawned` says
whether a new process could be started. -/
inductive BotEvent
  | started
  | beat (now : ℚ)
  | check (now : ℚ) (call : RestartCall) (spawned : Bool)
  -- the loop is left, or the process is killed
  | ended

/-- The two files, what has been granted by them, and whether a process is running. -/
structure SupervisedBot where
  heartbeat : Option ℚ := none
  restarts : RestartRun := {}
  running : Bool := false

/-- How `_check` ends. -/
inductive CheckOutcome
  | quiet
  | restarted
  | limitReached
  | raised
  deriving DecidableEq

namespace SupervisedBot

variable (cfg : WatchdogConfig)

/-- `_check()` as far as the files go: is the heartbeat there, and too old. -/
def stale (bot : SupervisedBot) (now : ℚ) : Prop :=
  let lastBeat := bot.heartbeat.getD 0
  lastBeat ≠ 0 ∧ cfg.heartbeatTimeoutSecs < now - lastBeat

instance (bot : SupervisedBot) (now : ℚ) : Decidable (bot.stale cfg now) :=
  inferInstanceAs (Decidable (_ ∧ _))

/-- How a check ends. -/
def outcome (bot : SupervisedBot) (now : ℚ) (call : RestartCall) : CheckOutcome :=
  if bot.stale cfg now then
    match (Watchdog.canRestart cfg.toAegisConfig call).run bot.restarts.watchdog with
    | .ok true _ => .restarted
    | .ok false _ => .limitReached
    | .error _ _ => .raised
  else .quiet

/-- The call of `_can_restart` in a check, if there is one. -/
def restartCalls (bot : SupervisedBot) : BotEvent → List RestartCall
  | .check now call _ => if bot.stale cfg now then [call] else []
  | _ => []

/-- One step; `_restart` ends the process whether or not there is a new one. -/
def step (bot : SupervisedBot) : BotEvent → Option SupervisedBot
  | .started => if bot.running then none else some { bot with running := true }
  | .beat now => if bot.running then some { bot with heartbeat := some now } else none
  | .check now call spawned =>
      if bot.running then
        some { bot with
          restarts := (bot.restartCalls cfg (.check now call spawned)).foldl
            (RestartRun.perform cfg.toAegisConfig) bot.restarts
          running := if bot.outcome cfg now call = .restarted then spawned else true }
      else none
  | .ended => if bot.running then some { bot with running := false } else none

end SupervisedBot

namespace BotEvent

/-- What the event is for whoever watches the heartbeat. -/
def signal : BotEvent → Option (Signal ℚ)
  | .beat now => some (.beat now)
  | .check now _ _ => some (.poll now)
  | _ => none

/-- The readings of the clock, in order. -/
def readings : BotEvent → List ℚ
  | .beat now => [now]
  | .check now call _ => [now, call.now]
  | _ => []

end BotEvent

/-! ## What has been counted -/

namespace RestartRun

variable {cfg : AegisConfig} {run : RestartRun} {call : RestartCall} {last : ℚ}

/-- The file counts no more restarts than there have been since its window began. -/
structure Counts (run : RestartRun) (last : ℚ) : Prop where
  count : run.watchdog.data.count ≤ run.granted.countP (run.watchdog.data.windowStart ≤ ·)
  past : ∀ time ∈ run.granted, time ≤ last
  begun : run.watchdog.data.windowStart ≤ last

lemma Counts.later (h : Counts run last) {now : ℚ} (hnow : last ≤ now) : Counts run now :=
  ⟨h.count, fun time htime => (h.past time htime).trans hnow, h.begun.trans hnow⟩

lemma Counts.perform (h : Counts run last) (hnow : last ≤ call.now) :
    Counts (perform cfg run call) call.now := by
  rcases perform_cases cfg run call with hsame | ⟨-, hstep⟩
  · rw [hsame]
    exact h.later hnow
  · have hwindow : (Watchdog.window call.now run.watchdog.data).windowStart ≤ call.now
        ∧ (Watchdog.window call.now run.watchdog.data).count
          ≤ run.granted.countP ((Watchdog.window call.now run.watchdog.data).windowStart ≤ ·) := by
      rw [Watchdog.window]
      split_ifs
      · exact ⟨le_rfl, Int.natCast_nonneg _⟩
      · exact ⟨h.begun.trans hnow, h.count⟩
    rw [hstep]
    generalize Watchdog.window call.now run.watchdog.data = data at hwindow
    obtain ⟨hbegun, hcount⟩ := hwindow
    refine ⟨?_, ?_, hbegun⟩
    · show data.count + 1 ≤ ((run.granted ++ [call.now]).countP (data.windowStart ≤ ·) : ℤ)
      rw [List.countP_append, List.countP_singleton, decide_eq_true hbegun, if_pos rfl]
      omega
    · intro time htime
      rcases List.mem_append.mp htime with hold | hnew
      · exact (h.past time hold).trans hnow
      · exact (List.mem_singleton.mp hnew).le

lemma counts_afterCalls {calls : List RestartCall} (hclock : (calls.map RestartCall.now).Pairwise (· ≤ ·))
    (hlast : ∀ time ∈ calls.map RestartCall.now, time ≤ last) (hpos : ∀ time ∈ calls.map RestartCall.now, 0 ≤ time)
    (hzero : 0 ≤ last) : Counts (afterCalls cfg calls) last := by
  induction calls using List.reverseRecOn generalizing last with
  | nil => exact ⟨Int.natCast_nonneg _, by simp [afterCalls], hzero⟩
  | append_singleton calls call ih =>
      rw [List.map_append, List.pairwise_append] at hclock
      simp only [List.map_append, List.map_cons, List.map_nil, List.forall_mem_append, List.forall_mem_cons,
        List.not_mem_nil, false_imp_iff, implies_true, and_true] at hlast hpos
      have hbefore := ih hclock.1 (fun time htime => hclock.2.2 time htime call.now (by simp)) hpos.1 hpos.2
      rw [afterCalls, List.foldl_append]
      exact (hbefore.perform le_rfl).later hlast.2

/-- **When the limit is reached there have been that many restarts in the hour.** -/
lemma Counts.used_up (h : Counts run last) {now : ℚ} (hnow : last ≤ now)
    (hlimit : cfg.maxRestartsPerHour ≤ (Watchdog.window now run.watchdog.data).count) :
    cfg.maxRestartsPerHour ≤ within run.granted (now - 3600) now := by
  by_cases hover : 3600 < now - run.watchdog.data.windowStart
  · rw [Watchdog.window, if_pos hover] at hlimit
    exact hlimit.trans (Int.natCast_nonneg _)
  · rw [Watchdog.window, if_neg hover] at hlimit
    refine (hlimit.trans h.count).trans (Int.ofNat_le.mpr ?_)
    refine List.countP_mono_left fun time htime hstart => ?_
    have hpast := h.past time htime
    have hstart := of_decide_eq_true hstart
    exact decide_eq_true ⟨by linarith, by linarith⟩

end RestartRun

namespace SupervisedBot

variable {cfg : WatchdogConfig} {events past : List BotEvent} {bot s s' : SupervisedBot} {event : BotEvent}
  {now : ℚ} {call : RestartCall}

/-! ## What a step does -/

/-- What a step does to the files. -/
lemma step_files (h : step cfg s event = some s') :
    s'.heartbeat = (event.signal.bind Signal.beat?).or s.heartbeat
      ∧ s'.restarts = (s.restartCalls cfg event).foldl (RestartRun.perform cfg.toAegisConfig) s.restarts := by
  cases event with
  | started =>
      rw [step] at h
      split_ifs at h
      cases h
      exact ⟨rfl, rfl⟩
  | check now call spawned =>
      rw [step] at h
      split_ifs at h <;> cases h <;> exact ⟨rfl, rfl⟩
  | _ =>
      rw [step] at h
      split_ifs at h
      cases h
      exact ⟨rfl, rfl⟩

/-- **The file has the last beat**, whichever process has written it. -/
lemma heartbeat_of_run (hrun : run (step cfg) {} events = some s) :
    s.heartbeat = lastBeat (events.filterMap BotEvent.signal) := by
  refine run_history (fun past s => s.heartbeat = lastBeat (past.filterMap BotEvent.signal)) rfl ?_
    events s hrun
  intro past s event s' _ ih hstep
  rw [(step_files hstep).1, ih, List.filterMap_append]
  cases hsignal : event.signal with
  | none => simp [hsignal]
  | some signal => simp [hsignal, lastBeat_snoc]

/-- The calls of `_can_restart` in a run. -/
def callsIn (cfg : WatchdogConfig) (events : List BotEvent) : List RestartCall :=
  outputs (step cfg) (restartCalls cfg) {} events

lemma restarts_of_run (hrun : run (step cfg) {} events = some s) :
    s.restarts = RestartRun.afterCalls cfg.toAegisConfig (callsIn cfg events) :=
  outputs_foldl (restartCalls cfg) (RestartRun.perform cfg.toAegisConfig) restarts
    (fun _ _ _ h => (step_files h).2) hrun

/-- The calls read the clock where the events do. -/
lemma calls_sublist (hrun : run (step cfg) {} events = some s) :
    ((callsIn cfg events).map RestartCall.now).Sublist (events.flatMap BotEvent.readings) := by
  refine run_history (fun past _ => ((callsIn cfg past).map RestartCall.now).Sublist
    (past.flatMap BotEvent.readings)) (List.Sublist.refl _) ?_ events s hrun
  intro past s event s' hpast ih _
  rw [callsIn, outputs_snoc hpast, List.map_append, List.flatMap_append]
  refine ih.append ?_
  cases event with
  | check now call spawned =>
      simp only [restartCalls, List.flatMap_cons, List.flatMap_nil, List.append_nil, BotEvent.readings]
      split_ifs <;> simp
  | _ => simp [restartCalls]

/-! ## What a check decides -/

/-- `_can_restart()`, computed. -/
lemma canRestart_run (cfg : AegisConfig) (call : RestartCall) (watchdog : Watchdog) :
    (Watchdog.canRestart cfg call).run watchdog
      = if cfg.maxRestartsPerHour ≤ (Watchdog.window call.now watchdog.data).count then .ok false watchdog
        else match call.write with
          | .ok () => .ok true ⟨some { Watchdog.window call.now watchdog.data with
              count := (Watchdog.window call.now watchdog.data).count + 1 }⟩
          | .error e => .error e watchdog := by
  rcases call with ⟨now, write⟩
  by_cases hlimit : cfg.maxRestartsPerHour ≤ (Watchdog.window now watchdog.data).count
  · rw [if_pos hlimit]
    simp only [Watchdog.canRestart, EStateM.run_bind, EStateM.run_get, if_pos hlimit]
    rfl
  · rw [if_neg hlimit]
    simp only [Watchdog.canRestart, EStateM.run_bind, EStateM.run_get, if_neg hlimit]
    cases write <;> rfl

/-- A check does something exactly when the heartbeat is stale. -/
lemma outcome_quiet_iff : bot.outcome cfg now call = .quiet ↔ ¬ bot.stale cfg now := by
  rw [outcome]
  split_ifs with hstale
  · simp only [hstale, not_true_eq_false, iff_false]
    cases (Watchdog.canRestart cfg.toAegisConfig call).run bot.restarts.watchdog with
    | ok granted => cases granted <;> simp
    | error => simp
  · simp [hstale]

/-- What it takes for the limit to be reached. -/
lemma limit_of_outcome (h : bot.outcome cfg now call = .limitReached) :
    cfg.maxRestartsPerHour ≤ (Watchdog.window call.now bot.restarts.watchdog.data).count := by
  rw [outcome, canRestart_run] at h
  split_ifs at h with hstale hlimit
  · exact hlimit
  · cases hwrite : call.write <;> simp [hwrite] at h

/-- With a clock that is past the year zero the file tells what the watchdog wants to know. -/
lemma stale_iff (hheartbeat : bot.heartbeat = lastBeat (past.filterMap BotEvent.signal))
    (hpos : ∀ time ∈ bot.heartbeat, 0 < time) :
    bot.stale cfg now ↔ Suspects cfg.heartbeatTimeoutSecs (past.filterMap BotEvent.signal) now := by
  rw [Suspects, ← hheartbeat, stale]
  cases hfile : bot.heartbeat with
  | none => simp
  | some time => simp [(hpos time hfile).ne']

/-! ## Runs -/

lemma stale_of_run (hrun : run (step cfg) {} past = some bot)
    (hpos : ∀ time ∈ past.flatMap BotEvent.readings, 0 < time) :
    bot.stale cfg now ↔ Suspects cfg.heartbeatTimeoutSecs (past.filterMap BotEvent.signal) now := by
  have hheartbeat := heartbeat_of_run hrun
  refine stale_iff hheartbeat fun time htime => hpos time ?_
  rw [hheartbeat] at htime
  obtain ⟨signal, hsignal, hbeat⟩ := List.mem_filterMap.mp (List.mem_of_getLast? htime)
  obtain ⟨event, hevent, heq⟩ := List.mem_filterMap.mp hsignal
  refine List.mem_flatMap.mpr ⟨event, hevent, ?_⟩
  cases event with
  | beat now =>
      cases heq
      cases hbeat
      exact List.mem_singleton_self _
  | check now call spawned =>
      cases heq
      cases hbeat
  | _ => cases heq

/-- The restarts of a run, at the moment of a later reading of the clock. -/
lemma counts_of_run (hrun : run (step cfg) {} past = some bot) {later : ℚ}
    (hclock : (past.flatMap BotEvent.readings).Pairwise (· ≤ ·))
    (hpos : ∀ time ∈ past.flatMap BotEvent.readings, 0 < time)
    (hlater : ∀ time ∈ past.flatMap BotEvent.readings, time ≤ later) (hzero : 0 ≤ later) :
    bot.restarts.Counts later := by
  have hsub := calls_sublist hrun
  rw [restarts_of_run hrun]
  exact RestartRun.counts_afterCalls (hclock.sublist hsub) (fun time htime => hlater time (hsub.subset htime))
    (fun time htime => (hpos time (hsub.subset htime)).le) hzero

/-- What comes before an event of a run. -/
lemma run_before {rest : List BotEvent} (hrun : run (step cfg) {} (past ++ event :: rest) = some s) :
    ∃ bot, run (step cfg) {} past = some bot := by
  rw [run_append, Option.bind_eq_some_iff] at hrun
  obtain ⟨bot, hpast, -⟩ := hrun
  exact ⟨bot, hpast⟩

/-- The poll of a watchdog is a check. -/
lemma check_of_poll {silence : List BotEvent} {before after : List (Signal ℚ)}
    (h : silence.filterMap BotEvent.signal = before ++ .poll now :: after) :
    ∃ before' call spawned after', silence = before' ++ .check now call spawned :: after'
      ∧ before'.filterMap BotEvent.signal = before := by
  obtain ⟨before', rest, rfl, hbefore, hrest⟩ := List.filterMap_eq_append_iff.mp h
  obtain ⟨quiet, event, after', rfl, hquiet, hevent, -⟩ := List.filterMap_eq_cons_iff.mp hrest
  cases event with
  | check now' call spawned =>
      cases hevent
      refine ⟨before' ++ quiet, call, spawned, after', by rw [List.append_assoc], ?_⟩
      rw [List.filterMap_append, hbefore, List.filterMap_eq_nil_iff.mpr hquiet, List.append_nil]
  | _ => cases hevent

/-- **The watchdog.**  On a clock that does not go back and that is past its first hour, in every run of the
bot and its watchdog: a check acts exactly when the last beat is longer ago than the timeout, and refuses a
restart only when those of the last hour are used up; when the loop falls silent and the checks go on, one acts
within an interval after the timeout; and no hour has more than `2 * max_restarts_per_hour - 1` restarts. -/
theorem watchdog_run (cfg : WatchdogConfig) (htimeout : 0 ≤ cfg.heartbeatTimeoutSecs) (events : List BotEvent)
    (hclock : (events.flatMap BotEvent.readings).Pairwise (· ≤ ·))
    (hlate : ∀ time ∈ events.flatMap BotEvent.readings, 3600 < time)
    {s : SupervisedBot} (hrun : run (step cfg) {} events = some s) :
    (∀ past now call spawned rest, events = past ++ .check now call spawned :: rest →
      ∃ bot, run (step cfg) {} past = some bot
        ∧ (bot.outcome cfg now call ≠ .quiet
          ↔ Suspects cfg.heartbeatTimeoutSecs (past.filterMap BotEvent.signal) now)
        ∧ (bot.outcome cfg now call = .limitReached →
          cfg.maxRestartsPerHour ≤ within bot.restarts.granted (call.now - 3600) call.now))
      ∧ (∀ past time silence rest interval, events = past ++ .beat time :: (silence ++ rest) →
        (silence.filterMap BotEvent.signal).filterMap Signal.beat? = [] →
        Polling interval time (silence.filterMap BotEvent.signal) →
        (∃ now ∈ (silence.filterMap BotEvent.signal).filterMap Signal.poll?,
          time + cfg.heartbeatTimeoutSecs < now) →
        ∃ before now call spawned after bot, silence = before ++ .check now call spawned :: after
          ∧ now ≤ time + cfg.heartbeatTimeoutSecs + interval
          ∧ run (step cfg) {} (past ++ .beat time :: before) = some bot
          ∧ bot.outcome cfg now call ≠ .quiet)
      ∧ ∀ start, within s.restarts.granted start (start + 3600) ≤ 2 * cfg.maxRestartsPerHour.toNat - 1 := by
  have hpos : ∀ time ∈ events.flatMap BotEvent.readings, 0 < time := by
    intro time htime
    linarith [hlate time htime]
  have hacts : ∀ past now call spawned rest, events = past ++ .check now call spawned :: rest →
      ∀ bot, run (step cfg) {} past = some bot → (bot.outcome cfg now call ≠ .quiet
        ↔ Suspects cfg.heartbeatTimeoutSecs (past.filterMap BotEvent.signal) now) := by
    rintro past now call spawned rest rfl bot hbot
    rw [ne_eq, outcome_quiet_iff, not_not]
    refine stale_of_run hbot fun time htime => hpos time ?_
    rw [List.flatMap_append]
    exact List.mem_append_left _ htime
  refine ⟨?_, ?_, ?_⟩
  · rintro past now call spawned rest hevents
    obtain ⟨bot, hbot⟩ := run_before (hevents ▸ hrun)
    refine ⟨bot, hbot, hacts past now call spawned rest hevents bot hbot, fun hlimit => ?_⟩
    subst hevents
    simp only [List.flatMap_append, List.flatMap_cons, BotEvent.readings, List.pairwise_append,
      List.mem_append, List.mem_cons] at hclock hpos
    have hcounts : bot.restarts.Counts call.now := by
      refine counts_of_run hbot hclock.1 (fun time htime => hpos time (Or.inl htime))
        (fun time htime => hclock.2.2 time htime call.now (by simp)) ?_
      exact (hpos call.now (by simp)).le
    exact hcounts.used_up le_rfl (limit_of_outcome hlimit)
  · rintro past time silence rest interval hevents hsilence hpolling hsome
    obtain ⟨before, now, after, hsplit, hsuspects, hsoon⟩ :=
      suspected_in_time (past.filterMap BotEvent.signal) htimeout hsilence hpolling hsome
    obtain ⟨before', call, spawned, after', rfl, rfl⟩ := check_of_poll hsplit
    have hevents' : events = (past ++ .beat time :: before') ++ .check now call spawned :: (after' ++ rest) := by
      simpa using hevents
    obtain ⟨bot, hbot⟩ := run_before (hevents' ▸ hrun)
    refine ⟨before', now, call, spawned, after', bot, rfl, hsoon, hbot, ?_⟩
    rw [hacts _ now call spawned _ hevents' bot hbot]
    simpa [BotEvent.signal] using hsuspects
  · have hsub := calls_sublist hrun
    obtain ⟨_, _, _, _, h⟩ := RestartRun.afterCalls_described cfg.toAegisConfig 1 (callsIn cfg events)
      (hclock.sublist hsub)
      (.inr ⟨le_rfl, fun call hcall => hlate call.now (hsub.subset (List.mem_map_of_mem hcall))⟩)
    intro start
    have hsliding := h.windowed.sliding start
    rw [restarts_of_run hrun, h.granted]
    omega

/-- One beat, and a check every 30 seconds. -/
def frozen : List BotEvent :=
  [.started, .beat 10000] ++ (List.range 14).map fun i =>
    .check (10030 + 30 * i) { now := 10030 + 30 * i } true

/-- The loop freezes, and is started anew after 390 seconds; the new process has written no beat of its own
when the next check comes, and is replaced too. -/
theorem watchdog_run_frozen :
    (∃ before now call spawned after bot, frozen.drop 2 = before ++ .check now call spawned :: after
      ∧ now ≤ 10000 + 360 + 30 ∧ run (step {}) {} ([.started] ++ .beat 10000 :: before) = some bot
      ∧ bot.outcome {} now call ≠ .quiet)
    ∧ (run (step {}) {} frozen).map (fun bot => (bot.restarts.granted, bot.running))
      = some ([10390, 10420], true) := by
  have hrun : ∃ bot, run (step {}) {} frozen = some bot := Option.isSome_iff_exists.mp (by decide +kernel)
  obtain ⟨bot, hrun⟩ := hrun
  obtain ⟨-, hsilence, -⟩ := watchdog_run {} (by decide +kernel) frozen (by decide +kernel) (by decide +kernel) hrun
  have hpolling : Polling 30 10000 ((frozen.drop 2).filterMap BotEvent.signal) := by
    simp [frozen, List.range_succ, BotEvent.signal, Polling]
    norm_num
  exact ⟨hsilence [.started] 10000 (frozen.drop 2) [] 30 (by simp [frozen]) (by decide +kernel) hpolling
    ⟨10390, by decide +kernel, by decide +kernel⟩, by decide +kernel⟩

end SupervisedBot

end Aegis.Pro
