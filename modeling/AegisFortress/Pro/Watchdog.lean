import AegisFortress.Lib.FixedWindow
import AegisFortress.Lib.Raising
import AegisFortress.Pro.AegisConfig
import AegisFortress.Python.Value
import Mathlib.Algebra.Order.Field.Rat

/-!
# The restarts of the watchdog

`_can_restart` of `watchdog.py` counts in fixed windows, and keeps its counter in a file: a call in another
process is one more call.  `restarts_limited`: what is allowed within an hour of a window's start is at most
`max_restarts_per_hour`.  An hour that begins inside a window can see the restarts of the next one too, and
then twice as many (`restarts_of_two_windows`).
-/

namespace Aegis.Pro

open Raising RateLimit FixedWindow

/-- What the file of restarts holds. -/
structure RestartFile where
  count : ℤ
  windowStart : ℚ
  deriving DecidableEq

/-- `Watchdog`: the file that it keeps. -/
structure Watchdog where
  restartFile : Option RestartFile := none

/-- A call meets a reading of the clock, and a disk that can be written or not. -/
structure RestartCall where
  now : ℚ
  write : Except PyError Unit := .ok ()

namespace Watchdog

variable (cfg : AegisConfig)

/-- The file, or the default for one that is missing. -/
def data (watchdog : Watchdog) : RestartFile := watchdog.restartFile.getD ⟨0, 0⟩

/-- The count and the start of the window; it is reset once it is more than an hour old. -/
def window (now : ℚ) (data : RestartFile) : RestartFile :=
  if 3600 < now - data.windowStart then ⟨0, now⟩ else data

/-- `_can_restart()`. -/
def canRestart (call : RestartCall) : EStateM PyError Watchdog Bool := do
  let watchdog ← get
  let data := window call.now watchdog.data
  if cfg.maxRestartsPerHour ≤ data.count then return false
  else do
    lift call.write
    modify fun watchdog => { watchdog with restartFile := some { data with count := data.count + 1 } }
    return true

end Watchdog

/-- A sequence of calls: when they have returned `True`, and the windows that the file has told of. -/
structure RestartRun where
  watchdog : Watchdog := {}
  granted : List ℚ := []
  windowStarts : List ℚ := []

namespace RestartRun

variable (cfg : AegisConfig)

/-- What a call adds by its outcome. -/
def settle (run : RestartRun) (call : RestartCall) :
    EStateM.Result PyError Watchdog Bool → RestartRun
  | .ok true watchdog =>
      { watchdog
        granted := run.granted ++ [call.now]
        windowStarts := run.windowStarts ++ [watchdog.data.windowStart] }
  | .ok false watchdog => { run with watchdog }
  | .error _ watchdog => { run with watchdog }

/-- One more call. -/
def perform (run : RestartRun) (call : RestartCall) : RestartRun :=
  settle run call ((Watchdog.canRestart cfg call).run run.watchdog)

/-- The calls, from a missing file on. -/
def afterCalls (calls : List RestartCall) : RestartRun := calls.foldl (perform cfg) {}

variable {cfg} {free : ℕ} {run : RestartRun} {call : RestartCall} {last : ℚ}

/-- The run after a restart in this window. -/
def counted (run : RestartRun) (call : RestartCall) (data : RestartFile) : RestartRun where
  watchdog := ⟨some { data with count := data.count + 1 }⟩
  granted := run.granted ++ [call.now]
  windowStarts := run.windowStarts ++ [data.windowStart]

/-- What a call does: it is refused or the file cannot be written, and nothing changes, or a restart is
counted. -/
lemma perform_cases (cfg : AegisConfig) (run : RestartRun) (call : RestartCall) :
    let data := Watchdog.window call.now run.watchdog.data
    perform cfg run call = run
      ∨ data.count < cfg.maxRestartsPerHour ∧ perform cfg run call = run.counted call data := by
  refine leads_outcome (P := fun result => settle run call result = run
    ∨ _ ∧ settle run call result = run.counted call _) |>.mp ?_
  simp only [Watchdog.canRestart, leads_bind, leads_get, leads_ite, leads_pure, leads_lift,
    leads_modify]
  exact ⟨fun _ => .inl rfl, fun hroom => ⟨fun _ _ => .inr ⟨not_le.mp hroom, rfl⟩, fun _ _ => .inl rfl⟩⟩

/-- The file describes the current window of the restarts so far. -/
structure Described (cfg : AegisConfig) (free : ℕ) (run : RestartRun) (last : ℚ)
    (starts earlier current : List ℚ) : Prop where
  windowed : Windowed cfg.maxRestartsPerHour.toNat free 3600 starts earlier current
    run.watchdog.data.windowStart
  granted : run.granted = earlier ++ current
  count : run.watchdog.data.count = current.length
  windowStarts : ∀ start ∈ run.windowStarts, start ∈ starts
  begun : (earlier = [] ∧ starts = [run.watchdog.data.windowStart]) ∨ run.watchdog.data.windowStart ≤ last
  missing : current = [] → run.watchdog.restartFile = none
  listed : run.watchdog.data.windowStart ∈ starts

lemma described_new (cfg : AegisConfig) (free : ℕ) (last : ℚ) :
    Described cfg free {} last [0] [] [] where
  windowed := windowed_new 0
  granted := rfl
  count := rfl
  windowStarts := fun _ h => absurd h List.not_mem_nil
  begun := .inl ⟨rfl, rfl⟩
  missing := fun _ => rfl
  listed := List.mem_singleton.mpr rfl

/-- A restart that the window has recorded. -/
lemma Windowed.described (data : RestartFile) {starts earlier current : List ℚ}
    (h : Windowed cfg.maxRestartsPerHour.toNat free 3600 starts earlier (current ++ [call.now])
      data.windowStart) (hgranted : run.granted = earlier ++ current) (hcount : data.count = current.length)
    (hstarts : ∀ start ∈ run.windowStarts, start ∈ starts) (hlisted : data.windowStart ∈ starts)
    (hbegun : (earlier = [] ∧ starts = [data.windowStart]) ∨ data.windowStart ≤ call.now) :
    Described cfg free (run.counted call data) call.now starts earlier (current ++ [call.now]) where
  windowed := h
  granted := by rw [counted, hgranted, List.append_assoc]
  count := by simp [counted, Watchdog.data, hcount]
  windowStarts := by
    intro start hstart
    rcases List.mem_append.mp hstart with hold | hnew
    · exact hstarts start hold
    · rw [List.mem_singleton.mp hnew]
      exact hlisted
  begun := hbegun
  missing := fun hnil => absurd hnil (by simp)
  listed := hlisted

/-- **One more call.** -/
lemma Described.perform {starts earlier current : List ℚ}
    (h : Described cfg free run last starts earlier current) (hlast : last ≤ call.now)
    (hfree : free = 0 ∨ (free ≤ 1 ∧ 3600 < call.now)) :
    ∃ starts earlier current,
      Described cfg free (perform cfg run call) call.now starts earlier current := by
  have hbegun := h.begun.imp id fun hstart => hstart.trans hlast
  rcases perform_cases cfg run call with hsame | ⟨hroom, hstep⟩
  · rw [hsame]
    exact ⟨starts, earlier, current, { h with begun := hbegun }⟩
  rw [hstep]
  by_cases hover : 3600 < call.now - run.watchdog.data.windowStart
  · -- the first restart of the next window
    rw [Watchdog.window, if_pos hover] at hroom ⊢
    have hreopened := h.windowed.reopen (by norm_num) (lt_sub_iff_add_lt'.mp hover)
    have hrecorded := hreopened.record (le_add_of_nonneg_right (by norm_num)) (.inr le_rfl)
      (by simpa using hroom) fun _ => hfree.imp id fun hfree => ⟨hfree.1, rfl⟩
    exact ⟨_, _, _, Windowed.described ⟨0, call.now⟩ hrecorded
      (by rw [h.granted, List.append_nil]) rfl
      (fun start hstart => List.mem_append_left _ (h.windowStarts start hstart))
      (List.mem_append_right _ (List.mem_singleton.mpr rfl)) (.inr le_rfl)⟩
  · -- one more restart of this window
    rw [Watchdog.window, if_neg hover] at hroom ⊢
    have hin : call.now ≤ run.watchdog.data.windowStart + 3600 := by linarith
    have hlength : current.length < cfg.maxRestartsPerHour.toNat := by
      have hcount := h.count
      omega
    have hfirst : current = [] → free = 0 ∨ (free ≤ 1 ∧ call.now = run.watchdog.data.windowStart) := by
      intro hnil
      refine hfree.imp id fun ⟨_, hlate⟩ => ?_
      have hstart : run.watchdog.data.windowStart = 0 := by
        rw [Watchdog.data, h.missing hnil]
        rfl
      linarith
    exact ⟨_, _, _, Windowed.described _ (h.windowed.record hin hbegun hlength hfirst) h.granted h.count
      h.windowStarts h.listed hbegun⟩

/-- The run. -/
lemma Described.calls (calls : List RestartCall)
    (hclock : (calls.map RestartCall.now).Pairwise (· ≤ ·))
    (hfree : free = 0 ∨ (free ≤ 1 ∧ ∀ call ∈ calls, 3600 < call.now)) :
    ∀ {run last starts earlier current}, Described cfg free run last starts earlier current →
      (∀ call ∈ calls, last ≤ call.now) → ∃ last starts earlier current,
        Described cfg free (calls.foldl (RestartRun.perform cfg) run) last starts earlier current := by
  induction calls with
  | nil => exact fun h _ => ⟨_, _, _, _, h⟩
  | cons call rest ih =>
      intro run last starts earlier current h hlast
      rw [List.map_cons, List.pairwise_cons] at hclock
      obtain ⟨_, _, _, hnext⟩ := h.perform (hlast call List.mem_cons_self)
        (hfree.imp id fun hfree => ⟨hfree.1, hfree.2 call List.mem_cons_self⟩)
      exact ih hclock.2
        (hfree.imp id fun hfree => ⟨hfree.1, fun call hmem => hfree.2 call (List.mem_cons_of_mem _ hmem)⟩)
        hnext fun call hmem => hclock.1 _ (List.mem_map_of_mem hmem)

lemma afterCalls_described (cfg : AegisConfig) (free : ℕ) (calls : List RestartCall)
    (hclock : (calls.map RestartCall.now).Pairwise (· ≤ ·))
    (hfree : free = 0 ∨ (free ≤ 1 ∧ ∀ call ∈ calls, 3600 < call.now)) :
    ∃ last starts earlier current,
      Described cfg free (afterCalls cfg calls) last starts earlier current := by
  cases calls with
  | nil => exact ⟨0, _, _, _, described_new cfg free 0⟩
  | cons call rest =>
      refine Described.calls _ hclock hfree (described_new cfg free call.now) fun later hmem => ?_
      rw [List.map_cons, List.pairwise_cons] at hclock
      rcases List.mem_cons.mp hmem with rfl | hmem
      · exact le_rfl
      · exact hclock.1 _ (List.mem_map_of_mem hmem)

/-- **Restarts are limited**, on every clock that does not go back and whatever the disk does: from the start
of a window on to `max_restarts_per_hour` within an hour, and to twice as many in any hour, or one less if
the clock reads more than an hour. -/
theorem restarts_limited (cfg : AegisConfig) (calls : List RestartCall)
    (hclock : (calls.map RestartCall.now).Pairwise (· ≤ ·)) :
    let run := afterCalls cfg calls
    let most := cfg.maxRestartsPerHour.toNat
    (∀ start ∈ run.windowStarts, within run.granted start (start + 3600) ≤ most)
      ∧ (∀ start, within run.granted start (start + 3600) ≤ 2 * most)
      ∧ ((∀ call ∈ calls, 3600 < call.now) →
        ∀ start, within run.granted start (start + 3600) ≤ 2 * most - 1) := by
  refine ⟨?_, ?_, ?_⟩
  · obtain ⟨_, _, _, _, h⟩ := afterCalls_described cfg 0 calls hclock (.inl rfl)
    intro start hstart
    rw [h.granted]
    exact (h.windowed.fromStart start (h.windowStarts start hstart)).2
  · obtain ⟨_, _, _, _, h⟩ := afterCalls_described cfg 0 calls hclock (.inl rfl)
    intro start
    have hsliding := h.windowed.sliding start
    rw [h.granted]
    omega
  · intro hlate start
    obtain ⟨_, _, _, _, h⟩ := afterCalls_described cfg 1 calls hclock (.inr ⟨le_rfl, hlate⟩)
    have hsliding := h.windowed.sliding start
    rw [h.granted]
    omega

/-- Restarts at the end of a window and at the beginning of the next. -/
def twoWindows : List RestartCall := [10000, 13599, 13599, 13601, 13601, 13601].map fun now => { now }

/-- An hour of five restarts, with a limit of three. -/
theorem restarts_of_two_windows :
    (twoWindows.map RestartCall.now).Pairwise (· ≤ ·)
      ∧ within (afterCalls {} twoWindows).granted 10001 (10001 + 3600) = 5
      ∧ ¬ within (afterCalls {} twoWindows).granted 10001 (10001 + 3600) ≤ 3 := by
  decide +kernel

theorem restarts_limited_two_windows :
    let run := afterCalls {} twoWindows
    (∀ start ∈ run.windowStarts, within run.granted start (start + 3600) ≤ 3)
      ∧ (∀ start, within run.granted start (start + 3600) ≤ 6)
      ∧ ((∀ call ∈ twoWindows, 3600 < call.now) →
        ∀ start, within run.granted start (start + 3600) ≤ 5) :=
  restarts_limited {} twoWindows (by decide +kernel)

end RestartRun

end Aegis.Pro
