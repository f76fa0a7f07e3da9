import AegisFortress.Lib.Files

/-!
# The state files of the bot

`atomic_write_json` and `safe_read_json` of `utils.py`.  The trading loop writes its positions and its
heartbeat, the thread of the watchdog its count of restarts; the two may be at it at the same time, may
raise, and the process may be killed at any moment.

For whoever reads them the files are registers (`Registers`): a write takes effect at one moment, when the
temporary file replaces the file, or not at all.  `state_files_whole`.
-/

namespace Aegis.Pro

/-- A path, as `with_suffix` takes it apart. -/
structure FilePath where
  stem : String
  suffix : String
  deriving DecidableEq

/-- `path.with_suffix(suffix)`. -/
def FilePath.withSuffix (path : FilePath) (suffix : String) : FilePath := { path with suffix }

namespace PATHS

def positions : FilePath := ⟨"positions", ".json"⟩

def heartbeat : FilePath := ⟨"heartbeat", ".json"⟩

def restartCount : FilePath := ⟨"restart_count", ".json"⟩

end PATHS

/-- The threads that write state files. -/
inductive BotThread
  | main
  | watchdog
  deriving DecidableEq

/-- The files that a thread writes. -/
def BotThread.files : BotThread → List FilePath
  | .main => [PATHS.positions, PATHS.heartbeat]
  | .watchdog => [PATHS.restartCount]

namespace StateFiles

variable {Data : Type}

/-- What happens in `atomic_write_json`, or to it. -/
inductive Step (Data : Type)
  | begin (thread : BotThread) (path : FilePath) (data : Data)
  | put (thread : BotThread)
  | replace (thread : BotThread)
  | raised (thread : BotThread)
  | killed

/-- The files, with the calls that have begun. -/
abbrev Disk (Data : Type) := Files.Store BotThread FilePath Data Char

/-- `safe_read_json(path, default)`. -/
def safeReadJson (loads : String → Option Data) (disk : FilePath → Option (List Char)) (path : FilePath)
    (default : Data) : Data :=
  ((disk path).bind fun text => loads (String.ofList text)).getD default

/-- What is not a state file. -/
def temporary (path : FilePath) : Bool := path.suffix = ".tmp"

section Writing

variable (dumps : Data → String)

/-- The text of a document. -/
def text (data : Data) : List Char := (dumps data).toList

/-- The event on the disk. -/
def Step.event : Step Data → Files.Event BotThread FilePath Data
  | .begin thread path data => .start thread (path.withSuffix ".tmp") path data
  | .put thread => .write thread
  | .replace thread => .replace thread
  | .raised thread => .fail thread false
  | .killed => .crash

/-- A thread calls `atomic_write_json` on its own files, one call at a time; the rest of a call is what the
disk does. -/
def step (disk : Disk Data) : Step Data → Option (Disk Data)
  | .begin thread path data =>
      if path ∈ thread.files ∧ thread ∉ disk.jobs.keys then
        some (disk.start (text dumps) thread (path.withSuffix ".tmp") path data)
      else none
  | other => Files.step temporary (text dumps) disk other.event

end Writing

/-! ## Registers -/

/-- What the files are for: each has a value, and a thread may be about to write one. -/
structure Registers (Data : Type) where
  values : FilePath → Option Data
  pending : BotThread → Option (FilePath × Data)

namespace Registers

/-- Nothing has been written. -/
def new : Registers Data := ⟨fun _ => none, fun _ => none⟩

/-- A write takes effect when it is complete. -/
def step (registers : Registers Data) : Step Data → Registers Data
  | .begin thread path data =>
      { registers with pending := Function.update registers.pending thread (some (path, data)) }
  | .put _ => registers
  | .replace thread =>
      match registers.pending thread with
      | some (path, data) =>
          { values := Function.update registers.values path (some data)
            pending := Function.update registers.pending thread none }
      | none => registers
  | .raised thread => { registers with pending := Function.update registers.pending thread none }
  | .killed => { registers with pending := fun _ => none }

/-- After these steps. -/
def after (steps : List (Step Data)) : Registers Data := steps.foldl step new

end Registers

/-! ## The files are registers -/

variable {dumps : Data → String} {initial : FilePath → Option (List Char)} {disk disk' : Disk Data}
  {registers : Registers Data} {action : Step Data}

/-- The calls that have begun are those of the threads. -/
def Owned (disk : Disk Data) : Prop := ∀ thread job, disk.jobs.get? thread = some job →
  job.path ∈ thread.files ∧ job.temp = job.path.withSuffix ".tmp"

lemma temporary_withSuffix (path : FilePath) : temporary (path.withSuffix ".tmp") = true := by
  simp [temporary, FilePath.withSuffix]

/-- A state file is not a temporary file, and its temporary file is the thread's own. -/
lemma files_apart : ∀ thread : BotThread, ∀ path ∈ thread.files, temporary path = false
    ∧ ∀ thread' : BotThread, ∀ path' ∈ thread'.files, path'.withSuffix ".tmp" = path.withSuffix ".tmp" →
      thread' = thread := by
  intro thread
  cases thread
  all_goals
    intro path hpath
    refine ⟨?_, fun thread' => ?_⟩
    · revert path
      decide
    · cases thread'
      all_goals
        revert path
        decide

/-- **A thread that is not writing can write.** -/
lemma Owned.free (h : Owned disk) {thread : BotThread} {path : FilePath} (hpath : path ∈ thread.files)
    (hidle : thread ∉ disk.jobs.keys) :
    Files.Free temporary disk thread (path.withSuffix ".tmp") path := by
  obtain ⟨hfile, hother⟩ := files_apart thread path hpath
  refine ⟨hidle, temporary_withSuffix path, by simp [hfile], fun job hjob htemp => ?_⟩
  obtain ⟨⟨thread', job⟩, hin, rfl⟩ := List.mem_map.mp hjob
  have hget := Dict.get?_eq_some.mpr hin
  obtain ⟨hown, heq⟩ := h thread' job hget
  have hsame := hother thread' job.path hown (heq.symm.trans htemp)
  rw [hsame] at hget
  exact hidle (Dict.mem_keys.mpr ⟨job, hget⟩)

/-- A step of the bot is one on the disk. -/
lemma Owned.step_event (h : Owned disk) (hstep : StateFiles.step dumps disk action = some disk') :
    Files.step temporary (text dumps) disk action.event = some disk' := by
  cases action with
  | begin thread path data =>
      simp only [StateFiles.step, Option.ite_none_right_eq_some] at hstep
      rw [Step.event, Files.step, if_pos (h.free hstep.1.1 hstep.1.2)]
      exact hstep.2
  | put thread => exact hstep
  | replace thread => exact hstep
  | raised thread => exact hstep
  | killed => exact hstep

/-- The registers are what the disk implements. -/
structure Implements (disk : Disk Data) (registers : Registers Data) : Prop where
  owned : Owned disk
  pending : ∀ thread, registers.pending thread
    = (disk.jobs.get? thread).map fun job => (job.path, job.document)
  values : ∀ path, registers.values path = Files.lastReplaced disk.replaced path

lemma implements_new (initial : FilePath → Option (List Char)) :
    Implements (Files.onDisk initial : Disk Data) .new where
  owned := fun _ _ h => by cases h
  pending := fun _ => rfl
  values := fun _ => rfl

/-- **One step** of the disk is one of the registers. -/
lemma Implements.step (h : Implements disk registers)
    (hstep : StateFiles.step dumps disk action = some disk') : Implements disk' (registers.step action) := by
  cases action with
  | begin thread path data =>
      simp only [StateFiles.step, Option.ite_none_right_eq_some, Option.some.injEq] at hstep
      obtain ⟨⟨hpath, -⟩, rfl⟩ := hstep
      refine ⟨fun other job hjob => ?_, fun other => ?_, h.values⟩
      · rw [Files.Store.start, Dict.get?_set] at hjob
        split_ifs at hjob with heq
        · obtain rfl := Option.some.inj hjob
          exact ⟨heq ▸ hpath, rfl⟩
        · exact h.owned other job hjob
      · change Function.update registers.pending thread (some (path, data)) other = _
        rw [Files.Store.start, Dict.get?_set]
        by_cases heq : thread = other
        · rw [if_pos heq, heq, Function.update_self]
          rfl
        · rw [if_neg heq, Function.update_of_ne fun hne => heq hne.symm, h.pending]
  | put thread =>
      simp only [StateFiles.step, Step.event, Files.step] at hstep
      split at hstep
      case h_1 temp path document written piece rest hjob =>
          obtain rfl := Option.some.inj hstep
          refine ⟨fun other job hother => ?_, fun other => ?_, h.values⟩
          · rw [Dict.get?_set] at hother
            split_ifs at hother with heq
            · obtain rfl := Option.some.inj hother
              have hown := h.owned thread _ hjob
              exact ⟨heq ▸ hown.1, hown.2⟩
            · exact h.owned other job hother
          · rw [Registers.step, h.pending, Dict.get?_set]
            by_cases heq : thread = other
            · rw [if_pos heq, ← heq, hjob]
              rfl
            · rw [if_neg heq]
      case h_2 => cases hstep
  | replace thread =>
      simp only [StateFiles.step, Step.event, Files.step] at hstep
      split at hstep
      case h_1 temp path document written hjob =>
          obtain rfl := Option.some.inj hstep
          have hpending : registers.pending thread = some (path, document) := by
            rw [h.pending, hjob]
            rfl
          rw [Registers.step, hpending]
          refine ⟨fun other job hother => h.owned other job (Dict.get?_of_erase hother), fun other => ?_,
            fun other => ?_⟩
          · change Function.update registers.pending thread none other = _
            rw [Dict.get?_erase]
            by_cases heq : thread = other
            · rw [if_pos heq, heq, Function.update_self]
              rfl
            · rw [if_neg heq, Function.update_of_ne fun hne => heq hne.symm, h.pending]
          · change Function.update registers.values path (some document) other = _
            rw [Files.lastReplaced_snoc]
            by_cases heq : path = other
            · rw [if_pos heq, heq, Function.update_self]
            · rw [if_neg heq, Function.update_of_ne fun hne => heq hne.symm, h.values]
      case h_2 => cases hstep
  | raised thread =>
      simp only [StateFiles.step, Step.event, Files.step, Option.map_eq_some_iff] at hstep
      obtain ⟨job, -, rfl⟩ := hstep
      refine ⟨fun other job hother => h.owned other job (Dict.get?_of_erase hother), fun other => ?_,
        h.values⟩
      change Function.update registers.pending thread none other = _
      rw [Dict.get?_erase]
      by_cases heq : thread = other
      · rw [if_pos heq, heq, Function.update_self]
        rfl
      · rw [if_neg heq, Function.update_of_ne fun hne => heq hne.symm, h.pending]
  | killed =>
      obtain rfl := Option.some.inj hstep
      exact ⟨fun _ _ hjob => (by cases hjob), fun _ => rfl, h.values⟩

/-- **The state files are whole.**  Whatever the two threads write, in any order, whatever raises and
whenever the process is killed: `safe_read_json` answers with the value of the last write that was complete,
and if there was none with what it would have answered at first. -/
theorem state_files_whole (dumps : Data → String) (loads : String → Option Data)
    (hjson : ∀ data, loads (dumps data) = some data) (initial : FilePath → Option (List Char))
    (steps : List (Step Data)) (disk : Disk Data)
    (hrun : Machine.run (StateFiles.step dumps) (Files.onDisk initial) steps = some disk)
    (path : FilePath) (hpath : path.suffix ≠ ".tmp") (default : Data) :
    safeReadJson loads disk.disk path default
      = ((Registers.after steps).values path).getD (safeReadJson loads initial path default) := by
  obtain ⟨hsound, himplements⟩ := Machine.run_history
    (fun past disk => Files.Sound temporary (text dumps) initial disk
      ∧ Implements disk (Registers.after past))
    ⟨Files.sound_onDisk initial, implements_new initial⟩
    (fun past disk action disk' _ h hstep => by
      refine ⟨h.1.step (h.2.owned.step_event hstep), ?_⟩
      rw [Registers.after, List.foldl_append]
      exact h.2.step hstep) steps disk hrun
  have htemp : ¬ temporary path = true := by simpa [temporary] using hpath
  rw [safeReadJson, hsound.read path htemp, himplements.values]
  cases Files.lastReplaced disk.replaced path with
  | none => rfl
  | some data =>
      have htext : String.ofList (text dumps data) = dumps data := String.ofList_toList
      simp only [Option.map_some, Option.some_or, Option.bind_some, htext, hjson, Option.getD_some]

/-- Two writes at the same time; the one of the watchdog is cut short. -/
def cutShort : List (Step Bool) :=
  [.begin .main PATHS.heartbeat true, .begin .watchdog PATHS.restartCount true, .put .main, .put .watchdog,
    .put .main, .put .main, .put .main, .replace .main, .killed]

/-- A truth value as JSON has it. -/
def dumpsBool (data : Bool) : String := if data then "true" else "false"

def loadsBool (text : String) : Option Bool :=
  if text = "true" then some true else if text = "false" then some false else none

theorem state_files_whole_cut_short :
    ∃ disk, Machine.run (StateFiles.step dumpsBool) (Files.onDisk fun _ => none) cutShort = some disk
      ∧ safeReadJson loadsBool disk.disk PATHS.heartbeat false = true
      ∧ safeReadJson loadsBool disk.disk PATHS.restartCount false = false := by
  have hjson : ∀ data, loadsBool (dumpsBool data) = some data := by decide
  have hrun : (Machine.run (StateFiles.step dumpsBool) (Files.onDisk fun _ => none) cutShort).isSome := by
    decide +kernel
  refine ⟨_, (Option.some_get hrun).symm, ?_, ?_⟩
  · exact state_files_whole dumpsBool loadsBool hjson _ cutShort _ (Option.some_get hrun).symm
      PATHS.heartbeat (by decide) false
  · exact state_files_whole dumpsBool loadsBool hjson _ cutShort _ (Option.some_get hrun).symm
      PATHS.restartCount (by decide) false

end StateFiles

end Aegis.Pro
