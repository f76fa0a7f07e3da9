import AegisFortress.Lib.Dict
import AegisFortress.Lib.Run
import Mathlib.Logic.Function.Basic

/-!
# Files that are replaced

A document goes piece by piece into a temporary file, which then takes the place of the file the document is
for.  Writers take their steps in any order, a writer may fail after any of them, and the machine may stop at
any moment, when all writers are gone and the disk is as it is.

`Sound`: what is not a temporary file always holds all the pieces of the last document that replaced it.
What it takes is that no two writers are at work on one temporary file, and that nobody replaces a temporary
file.
-/

namespace Files

variable {ι Name Doc Piece : Type}

/-- A document on its way to a file. -/
structure Job (Name Doc Piece : Type) where
  temp : Name
  path : Name
  document : Doc
  written : List Piece
  rest : List Piece

/-- The files there are, the documents on their way, and those that have replaced a file so far. -/
structure Store (ι Name Doc Piece : Type) where
  disk : Name → Option (List Piece)
  jobs : Dict ι (Job Name Doc Piece)
  replaced : List (Name × Doc)

/-- What may happen. -/
inductive Event (ι Name Doc : Type)
  | start (i : ι) (temp path : Name) (document : Doc)
  | write (i : ι)
  | replace (i : ι)
  -- an exception, after which the temporary file stays or is removed
  | fail (i : ι) (stays : Bool)
  | crash

/-- A disk and nothing else. -/
def onDisk (disk : Name → Option (List Piece)) : Store ι Name Doc Piece := ⟨disk, ∅, []⟩

variable [DecidableEq ι] [DecidableEq Name] (temporary : Name → Bool) (encode : Doc → List Piece)

/-- A writer may begin: it writes nowhere else, and nobody else writes to its temporary file. -/
def Free (s : Store ι Name Doc Piece) (i : ι) (temp path : Name) : Prop :=
  i ∉ s.jobs.keys ∧ temporary temp ∧ ¬ temporary path ∧ ∀ job ∈ s.jobs.values, job.temp ≠ temp

instance (s : Store ι Name Doc Piece) (i : ι) (temp path : Name) : Decidable (Free temporary s i temp path) :=
  inferInstanceAs (Decidable (_ ∧ _ ∧ _ ∧ ∀ job ∈ s.jobs.values, _))

/-- A writer begins: its temporary file is there, and empty. -/
def Store.start (s : Store ι Name Doc Piece) (i : ι) (temp path : Name) (document : Doc) :
    Store ι Name Doc Piece :=
  { s with
    disk := Function.update s.disk temp (some [])
    jobs := s.jobs.set i ⟨temp, path, document, [], encode document⟩ }

/-- One step. -/
def step (s : Store ι Name Doc Piece) : Event ι Name Doc → Option (Store ι Name Doc Piece)
  | .start i temp path document =>
      if Free temporary s i temp path then some (s.start encode i temp path document) else none
  | .write i =>
      match s.jobs.get? i with
      | some ⟨temp, path, document, written, piece :: rest⟩ =>
          some { s with
            disk := Function.update s.disk temp ((s.disk temp).map (· ++ [piece]))
            jobs := s.jobs.set i ⟨temp, path, document, written ++ [piece], rest⟩ }
      | _ => none
  | .replace i =>
      match s.jobs.get? i with
      | some ⟨temp, path, document, _, []⟩ =>
          some {
            disk := Function.update (Function.update s.disk path (s.disk temp)) temp none
            jobs := s.jobs.erase i
            replaced := s.replaced ++ [(path, document)] }
      | _ => none
  | .fail i stays =>
      (s.jobs.get? i).map fun job =>
        { s with
          disk := if stays then s.disk else Function.update s.disk job.temp none
          jobs := s.jobs.erase i }
  | .crash => some { s with jobs := ∅ }

/-- The last document that replaced a file. -/
def lastReplaced (replaced : List (Name × Doc)) (file : Name) : Option Doc :=
  (Dict.lastOf Prod.fst replaced file).map Prod.snd

@[simp] lemma lastReplaced_nil (file : Name) : lastReplaced ([] : List (Name × Doc)) file = none := rfl

lemma lastReplaced_snoc (replaced : List (Name × Doc)) (path : Name) (document : Doc) (file : Name)
    : lastReplaced (replaced ++ [(path, document)]) file
      = if path = file then some document else lastReplaced replaced file := by
  rw [lastReplaced, lastReplaced, Dict.lastOf_concat]
  split_ifs <;> rfl

/-! ## What holds all the time -/

/-- A job is in order: its temporary file has what has been written, which is the first part of the document. -/
structure Job.InOrder (disk : Name → Option (List Piece)) (job : Job Name Doc Piece) : Prop where
  temp : temporary job.temp
  path : ¬ temporary job.path
  content : disk job.temp = some job.written
  whole : job.written ++ job.rest = encode job.document

/-- The disk was this one, and every file that is not temporary has the last document that replaced it. -/
structure Sound (initial : Name → Option (List Piece)) (s : Store ι Name Doc Piece) : Prop where
  inOrder : ∀ i job, s.jobs.get? i = some job → job.InOrder temporary encode s.disk
  apart : ∀ i j a b, s.jobs.get? i = some a → s.jobs.get? j = some b → a.temp = b.temp → i = j
  read : ∀ file, ¬ temporary file → s.disk file = ((lastReplaced s.replaced file).map encode).or (initial file)

variable {temporary} {encode} {initial : Name → Option (List Piece)} {s s' : Store ι Name Doc Piece}
  {event : Event ι Name Doc}

lemma sound_onDisk (disk : Name → Option (List Piece)) :
    Sound temporary encode disk (onDisk disk : Store ι Name Doc Piece) where
  inOrder := fun _ _ h => by cases h
  apart := fun _ _ _ _ h => by cases h
  read := fun _ _ => rfl

omit [DecidableEq ι] [DecidableEq Name] in
/-- A job does not notice what happens to other files. -/
lemma Job.InOrder.congr {disk disk' : Name → Option (List Piece)} {job : Job Name Doc Piece}
    (h : job.InOrder temporary encode disk) (hsame : disk' job.temp = disk job.temp) :
    job.InOrder temporary encode disk' :=
  ⟨h.temp, h.path, hsame.trans h.content, h.whole⟩

omit [DecidableEq ι] in
/-- A temporary file is no other file. -/
lemma read_update_temp {disk : Name → Option (List Piece)} {temp file : Name} (htemp : temporary temp)
    (hfile : ¬ temporary file) (content : Option (List Piece)) :
    Function.update disk temp content file = disk file := by
  refine Function.update_of_ne (fun heq => hfile ?_) _ _
  rw [heq]
  exact htemp

/-- The jobs that remain when one of them is over. -/
lemma Sound.erase (h : Sound temporary encode initial s) {i : ι} {job : Job Name Doc Piece}
    (hjob : s.jobs.get? i = some job) {disk : Name → Option (List Piece)}
    (hothers : ∀ file, temporary file → file ≠ job.temp → disk file = s.disk file) :
    ∀ j other, (s.jobs.erase i).get? j = some other → other.InOrder temporary encode disk := by
  intro j other hother
  have hold := Dict.get?_of_erase hother
  have hne : other.temp ≠ job.temp := by
    intro heq
    rw [h.apart j i other job hold hjob heq, Dict.get?_erase_self] at hother
    cases hother
  have horder := h.inOrder j other hold
  exact horder.congr (hothers _ horder.temp hne)

/-- One more job, or one that has gone on: the others do not notice. -/
lemma Sound.set (h : Sound temporary encode initial s) {i : ι} {job : Job Name Doc Piece}
    {disk : Name → Option (List Piece)} (hjob : job.InOrder temporary encode disk)
    (hfree : ∀ j other, s.jobs.get? j = some other → j ≠ i → other.temp ≠ job.temp)
    (hothers : ∀ file, file ≠ job.temp → disk file = s.disk file) :
    Sound temporary encode initial { s with disk, jobs := s.jobs.set i job } where
  inOrder := by
    intro j other hother
    rw [Dict.get?_set] at hother
    split_ifs at hother with hij
    · rw [← Option.some.inj hother]
      exact hjob
    · have hold := h.inOrder j other hother
      exact hold.congr (hothers _ (hfree j other hother fun heq => hij heq.symm))
  apart := by
    intro j k a b ha hb htemp
    rw [Dict.get?_set] at ha hb
    split_ifs at ha hb with hj hk hk
    · rw [← hj, ← hk]
    · rw [← Option.some.inj ha] at htemp
      exact absurd htemp.symm (hfree k b hb fun heq => hk heq.symm)
    · rw [← Option.some.inj hb] at htemp
      exact absurd htemp (hfree j a ha fun heq => hj heq.symm)
    · exact h.apart j k a b ha hb htemp
  read := by
    intro file hfile
    have hne : file ≠ job.temp := by
      rintro rfl
      exact hfile hjob.temp
    exact (hothers file hne).trans (h.read file hfile)

/-- **One step** keeps the files sound. -/
theorem Sound.step (h : Sound temporary encode initial s) (hstep : Files.step temporary encode s event = some s') :
    Sound temporary encode initial s' := by
  cases event with
  | start i temp path document =>
      simp only [Files.step, Option.ite_none_right_eq_some, Option.some.injEq] at hstep
      obtain ⟨⟨-, htemp, hpath, hunused⟩, rfl⟩ := hstep
      refine h.set ⟨htemp, hpath, Function.update_self _ _ _, rfl⟩ ?_ fun file hne =>
        Function.update_of_ne hne _ _
      intro j other hother _
      exact hunused other (List.mem_map_of_mem (Dict.get?_eq_some.mp hother))
  | write i =>
      simp only [Files.step] at hstep
      split at hstep
      case h_1 temp path document written piece rest hjob =>
          obtain rfl := Option.some.inj hstep
          have horder := h.inOrder i _ hjob
          refine h.set ⟨horder.temp, horder.path, ?_, ?_⟩ ?_ fun file hne => Function.update_of_ne hne _ _
          · rw [Function.update_self, horder.content, Option.map_some]
          · exact (List.append_cons _ _ _).symm.trans horder.whole
          · intro j other hother hne htemp
            exact hne (h.apart j i other _ hother hjob htemp)
      case h_2 => cases hstep
  | replace i =>
      simp only [Files.step] at hstep
      split at hstep
      case h_1 temp path document written hjob =>
          obtain rfl := Option.some.inj hstep
          have horder := h.inOrder i _ hjob
          refine ⟨h.erase hjob fun file hfile hne => ?_, ?_, fun file hfile => ?_⟩
          · have hpath : file ≠ path := by
              rintro rfl
              exact horder.path hfile
            exact (Function.update_of_ne hne _ _).trans (Function.update_of_ne hpath _ _)
          · exact fun j k a b ha hb => h.apart j k a b (Dict.get?_of_erase ha) (Dict.get?_of_erase hb)
          · refine (read_update_temp horder.temp hfile _).trans ?_
            rw [lastReplaced_snoc]
            by_cases hpath : path = file
            · have hwhole : written = encode document := (List.append_nil written).symm.trans horder.whole
              rw [if_pos hpath, ← hpath, Function.update_self, horder.content, hwhole]
              rfl
            · rw [if_neg hpath, Function.update_of_ne fun heq => hpath heq.symm, h.read file hfile]
      case h_2 => cases hstep
  | fail i stays =>
      simp only [Files.step, Option.map_eq_some_iff] at hstep
      obtain ⟨job, hjob, rfl⟩ := hstep
      have horder := h.inOrder i _ hjob
      refine ⟨h.erase hjob fun file _ hne => ?_, ?_, fun file hfile => ?_⟩
      · cases stays with
        | true => rfl
        | false => exact Function.update_of_ne hne _ _
      · exact fun j k a b ha hb => h.apart j k a b (Dict.get?_of_erase ha) (Dict.get?_of_erase hb)
      · cases stays with
        | true => exact h.read file hfile
        | false => exact (read_update_temp horder.temp hfile _).trans (h.read file hfile)
  | crash =>
      obtain rfl := Option.some.inj hstep
      refine ⟨fun i job hjob => ?_, fun i j a b ha => ?_, h.read⟩
      · cases hjob
      · cases ha

/-! ## One writer -/

section Writer

variable (encode) {i : ι} {temp path : Name} {document : Doc} {written rest : List Piece}

/-- A writer has begun, and has written so many pieces of its document. -/
def partly (i : ι) (temp path : Name) (document : Doc) (pieces : ℕ) : List (Event ι Name Doc) :=
  .start i temp path document :: List.replicate (min pieces (encode document).length) (.write i)

/-- A writer from its beginning to its end. -/
def wholly (i : ι) (temp path : Name) (document : Doc) : List (Event ι Name Doc) :=
  partly encode i temp path document (encode document).length ++ [.replace i]

variable {encode}

lemma run_writes (hjob : s.jobs.get? i = some ⟨temp, path, document, written, rest⟩) (n : ℕ)
    (hn : n ≤ rest.length) :
    ∃ s', Machine.run (step temporary encode) s (List.replicate n (.write i)) = some s'
      ∧ s'.jobs.get? i = some ⟨temp, path, document, written ++ rest.take n, rest.drop n⟩
      ∧ s'.replaced = s.replaced := by
  induction n generalizing s written rest with
  | zero => exact ⟨s, rfl, by simpa using hjob, rfl⟩
  | succ n ih =>
      cases rest with
      | nil => cases hn
      | cons piece rest =>
          have hstep : ∃ next, step temporary encode s (.write i) = some next
              ∧ next.jobs.get? i = some ⟨temp, path, document, written ++ [piece], rest⟩
              ∧ next.replaced = s.replaced := by
            rw [step, hjob]
            exact ⟨_, rfl, Dict.get?_set_self _ _ _, rfl⟩
          obtain ⟨next, hstep, hnext, hsame⟩ := hstep
          obtain ⟨s', hrun, hjob', hreplaced⟩ := ih hnext (Nat.le_of_succ_le_succ hn)
          refine ⟨s', ?_, ?_, hreplaced.trans hsame⟩
          · rw [List.replicate_succ, Machine.run_cons, hstep]
            exact hrun
          · rw [hjob', List.append_assoc]
            rfl

/-- A writer that has begun. -/
theorem run_partly (encode : Doc → List Piece) (hfree : Free temporary s i temp path) (document : Doc) (pieces : ℕ) :
    ∃ s', Machine.run (step temporary encode) s (partly encode i temp path document pieces) = some s'
      ∧ s'.jobs.get? i = some ⟨temp, path, document, (encode document).take pieces,
        (encode document).drop pieces⟩
      ∧ s'.replaced = s.replaced := by
  have hjob : (s.start encode i temp path document).jobs.get? i
      = some ⟨temp, path, document, [], encode document⟩ := Dict.get?_set_self _ _ _
  obtain ⟨s', hrun, hjob', hreplaced⟩ := run_writes hjob _
    (Nat.min_le_right pieces _)
  refine ⟨s', ?_, ?_, hreplaced⟩
  · rw [partly, Machine.run_cons, step, if_pos hfree]
    exact hrun
  · rw [hjob', List.nil_append, ← List.take_eq_take_min, ← List.drop_eq_drop_min]

/-- **A writer that nothing interrupts** replaces the file by its document. -/
theorem run_wholly (encode : Doc → List Piece) (hfree : Free temporary s i temp path) (document : Doc) :
    ∃ s', Machine.run (step temporary encode) s (wholly encode i temp path document) = some s'
      ∧ s'.jobs.get? i = none ∧ s'.replaced = s.replaced ++ [(path, document)] := by
  obtain ⟨s', hrun, hjob, hreplaced⟩ := run_partly encode hfree document
    (encode document).length
  rw [List.drop_length] at hjob
  rw [wholly, Machine.run_snoc, hrun, Option.bind_some, step, hjob]
  exact ⟨_, rfl, Dict.get?_erase_self _ _, by rw [hreplaced]⟩

end Writer

end Files
