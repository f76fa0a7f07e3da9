import AegisFortress.Execution.Restart
import AegisFortress.Lib.Files

/-!
# Crashes

`PortfolioStateStore.save` writes the state to a temporary file and then moves it over the state file.  Here
it does so step by step; it may raise after any of them, and the process may be killed after any of them, and
is started again from what is on the disk.

`crash_recovery`: the process always starts again, and a crash loses at most what was booked since the last
save that was complete.
-/

namespace Aegis

open PositionLedger Raising

/-! ## The state file -/

/-- The files in the directory of the state file. -/
inductive StateName
  | state
  | temp (n : ℕ)
  deriving DecidableEq

namespace PortfolioStateStore

/-- A file that `NamedTemporaryFile` makes. -/
def temporary : StateName → Bool
  | .state => false
  | .temp _ => true

/-- How far a call of `save` gets; `pieces` is how much of the state is in the temporary file then, and
`none` if there is no such file yet. -/
inductive Fate
  | saved
  | raised (pieces : Option ℕ)
  | killed (pieces : Option ℕ)
  | killedAfter

/-- The process does not survive the call. -/
def Fate.kills : Fate → Bool
  | .saved => false
  | .raised _ => false
  | .killed _ => true
  | .killedAfter => true

variable {Piece : Type}

/-- The directory, with the call of `save` that has begun. -/
abbrev Directory (Piece : Type) := Files.Store Unit StateName (PyVal ℚ) Piece

section Save

variable (dump : PyVal ℚ → List Piece)

/-- A save that has got so far. -/
def begun (temp : ℕ) (payload : PyVal ℚ) : Option ℕ → List (Files.Event Unit StateName (PyVal ℚ))
  | none => []
  | some pieces => Files.partly dump () (.temp temp) .state payload pieces

/-- What `save` does: an exception leaves the temporary file where it is. -/
def events (fate : Fate) (temp : ℕ) (payload : PyVal ℚ) : List (Files.Event Unit StateName (PyVal ℚ)) :=
  match fate with
  | .saved => Files.wholly dump () (.temp temp) .state payload
  | .raised none => []
  | .raised (some pieces) => begun dump temp payload (some pieces) ++ [.fail () true]
  | .killed pieces => begun dump temp payload pieces ++ [.crash]
  | .killedAfter => Files.wholly dump () (.temp temp) .state payload ++ [.crash]

/-- `save(payload)`; without a payload it is not called. -/
def save (directory : Directory Piece) (fate : Fate) (temp : ℕ) :
    Option (PyVal ℚ) → Option (Directory Piece)
  | none => if fate.kills then Files.step temporary dump directory .crash else some directory
  | some payload => Machine.run (Files.step temporary dump) directory (events dump fate temp payload)

end Save

/-- `load()`. -/
def load (loads : List Piece → Except PyError (PyVal ℚ)) (directory : Directory Piece) :
    Except PyError (PyVal ℚ) :=
  match directory.disk .state with
  | none => .ok (.dict [])
  | some text => loads text

/-- A new directory. -/
def newDirectory : Directory Piece := Files.onDisk fun _ => none

/-- Nobody is saving, and the state file has been replaced whole each time. -/
structure Ready (dump : PyVal ℚ → List Piece) (directory : Directory Piece) : Prop where
  sound : Files.Sound temporary dump (fun _ => none) directory
  idle : directory.jobs.get? () = none

/-- The save replaces the state file. -/
def Fate.replaces : Fate → Bool
  | .saved => true
  | .raised _ => false
  | .killed _ => false
  | .killedAfter => true

variable {dump : PyVal ℚ → List Piece} {directory : Directory Piece}

lemma ready_new : Ready dump newDirectory := ⟨Files.sound_onDisk _, rfl⟩

lemma Ready.free (h : Ready dump directory) (temp : ℕ) :
    Files.Free temporary directory () (.temp temp) .state := by
  have hidle : () ∉ directory.jobs.keys := Dict.get?_eq_none.mp h.idle
  refine ⟨hidle, rfl, by decide, fun job hjob => ?_⟩
  obtain ⟨⟨⟨⟩, job⟩, hin, rfl⟩ := List.mem_map.mp hjob
  exact absurd (List.mem_map_of_mem hin) hidle

lemma Ready.run (h : Ready dump directory) {fate : List (Files.Event Unit StateName (PyVal ℚ))}
    {next : Directory Piece} (hrun : Machine.run (Files.step temporary dump) directory fate = some next)
    (hidle : next.jobs.get? () = none) : Ready dump next :=
  ⟨Machine.run_invariant (Files.Sound temporary dump fun _ => none) h.sound
    (fun _ _ _ hsound hstep => hsound.step hstep) hrun, hidle⟩

/-- **A save ends**, and has replaced the state file or has left it as it was. -/
lemma Ready.save (h : Ready dump directory) (fate : Fate) (temp : ℕ) (payload : Option (PyVal ℚ)) :
    ∃ next, save dump directory fate temp payload = some next ∧ Ready dump next
      ∧ next.replaced = directory.replaced
        ++ (if fate.replaces then payload.toList.map fun document => (.state, document) else []) := by
  cases payload with
  | none =>
      rw [PortfolioStateStore.save]
      cases fate.kills with
      | true => exact ⟨_, rfl, h.run (rfl : Machine.run _ directory [Files.Event.crash] = _) rfl, by simp⟩
      | false => exact ⟨directory, rfl, h, by simp⟩
  | some payload =>
      rw [PortfolioStateStore.save]
      have hfree := h.free temp
      cases fate with
      | saved =>
          obtain ⟨next, hrun, hidle, hreplaced⟩ := Files.run_wholly dump hfree payload
          exact ⟨next, hrun, h.run hrun hidle, hreplaced⟩
      | raised pieces =>
          cases pieces with
          | none => exact ⟨directory, rfl, h, by simp [Fate.replaces]⟩
          | some pieces =>
              obtain ⟨next, hrun, hjob, hreplaced⟩ :=
                Files.run_partly dump hfree payload pieces
              have hfail : Machine.run (Files.step temporary dump) directory
                  (events dump (.raised (some pieces)) temp payload)
                    = some { next with jobs := next.jobs.erase () } := by
                rw [events, begun, Machine.run_snoc, hrun, Option.bind_some, Files.step, hjob]
                rfl
              exact ⟨_, hfail, h.run hfail (Dict.get?_erase_self _ _), by simp [hreplaced, Fate.replaces]⟩
      | killed pieces =>
          obtain ⟨next, hrun, hreplaced⟩ : ∃ next, Machine.run (Files.step temporary dump) directory
              (begun dump temp payload pieces) = some next ∧ next.replaced = directory.replaced := by
            cases pieces with
            | none => exact ⟨directory, rfl, rfl⟩
            | some pieces =>
                obtain ⟨next, hrun, -, hreplaced⟩ :=
                  Files.run_partly dump hfree payload pieces
                exact ⟨next, hrun, hreplaced⟩
          have hcrash : Machine.run (Files.step temporary dump) directory
              (events dump (.killed pieces) temp payload) = some { next with jobs := ∅ } := by
            rw [events, Machine.run_snoc, hrun]
            rfl
          exact ⟨_, hcrash, h.run hcrash rfl, by simp [hreplaced, Fate.replaces]⟩
      | killedAfter =>
          obtain ⟨next, hrun, -, hreplaced⟩ := Files.run_wholly dump hfree payload
          have hcrash : Machine.run (Files.step temporary dump) directory
              (events dump .killedAfter temp payload) = some { next with jobs := ∅ } := by
            rw [events, Machine.run_snoc, hrun]
            rfl
          exact ⟨_, hcrash, h.run hcrash rfl, hreplaced⟩

/-- What `load` answers. -/
lemma Ready.load (h : Ready dump directory) {loads : List Piece → Except PyError (PyVal ℚ)}
    (hjson : ∀ payload, loads (dump payload) = .ok payload.stored) :
    PortfolioStateStore.load loads directory
      = .ok ((Files.lastReplaced directory.replaced .state).elim (.dict []) PyVal.stored) := by
  rw [PortfolioStateStore.load, h.sound.read .state (by decide)]
  cases Files.lastReplaced directory.replaced .state with
  | none => rfl
  | some payload => exact hjson payload

end PortfolioStateStore

/-! ## The process -/

namespace FillProcessor

open PortfolioStateStore

/-- A fill that is processed: what the database answers, the name of the temporary file, and how far the save
gets. -/
structure Arrival where
  call : Call
  recordTrade : Option (Except PyError Unit) := none
  temp : ℕ := 0
  fate : Fate := .saved

/-- The ledger in memory, and the directory of the state file. -/
structure Server (Piece : Type) where
  ledger : PositionLedger ℚ
  directory : Directory Piece

variable {Piece : Type} (processor : FillProcessor ℚ) (dump : PyVal ℚ → List Piece)
  (loads : List Piece → Except PyError (PyVal ℚ))

/-- `process` as far as the call of `save`; the state that is to be saved, if there is one. -/
def inMemory (arrival : Arrival) : EStateM PyError (PositionLedger ℚ) (Option (PyVal ℚ)) :=
  let report := arrival.call.report
  if report.hasFill then do
    raiseIf (report.averageFillPrice ≤ 0)
      ⟨.valueError, "Execution report has fill quantity but no valid fill price"⟩
    let before ← get
    let (ledger, _) ← lift (before.applyFill (report.toFill arrival.call.strategyId))
    modify fun _ => ledger
    callOptional arrival.recordTrade
    modify fun ledger => ledger.markPositions arrival.call.markPrices
    let marked ← get
    let snapshot := ExposureEngine.calculate marked.positions arrival.call.markPrices
    pure (some (statePayload marked snapshot (processor.portfolioGuard.validate snapshot) report))
  else pure none

/-- What `process` wants to save. -/
def toSave {ε σ β : Type} : EStateM.Result ε σ (Option β) → Option β
  | .ok payload _ => payload
  | .error _ _ => none

/-- `RuntimeContainer.build`: the ledger of a new process; `load` may raise, and then there is none. -/
def restarted (directory : Directory Piece) : Option (Server Piece) :=
  (load loads directory).toOption.map fun saved => ⟨reload saved, directory⟩

/-- One fill; a process that is killed is started again. -/
def Server.step (s : Server Piece) (arrival : Arrival) : Option (Server Piece) :=
  let ran := (processor.inMemory arrival).run s.ledger
  (save dump s.directory arrival.fate arrival.temp (toSave ran)).bind fun directory =>
    if arrival.fate.kills then restarted loads directory else some ⟨final ran, directory⟩

/-- A process that has never run before. -/
def Server.new : Server Piece := ⟨PositionLedger.empty, newDirectory⟩

/-! ## What is remembered -/

/-- The ledger of a process that is given these fills, and never stops. -/
def remembered (arrivals : List Arrival) : PositionLedger ℚ :=
  arrivals.foldl (fun ledger arrival => final ((processor.inMemory arrival).run ledger))
    PositionLedger.empty

/-- The save is called: the fill is booked, and the database accepts the trade. -/
def Arrival.reaches (arrival : Arrival) : Bool :=
  arrival.call.bookedSide.isSome && arrival.recordTrade.elim true fun answer => answer.toBool

/-- The fills of which the memory knows, and those of which the state file knows. -/
structure Known where
  live : List Arrival := []
  durable : List Arrival := []

/-- A save that replaces the file makes durable what the memory knows, and a crash forgets what is not. -/
def Known.step (known : Known) (arrival : Arrival) : Known :=
  let live := known.live ++ [arrival]
  let durable := if arrival.fate.replaces && arrival.reaches then live else known.durable
  if arrival.fate.kills then ⟨durable, durable⟩ else ⟨live, durable⟩

/-- What is known after these fills. -/
def knownAfter (arrivals : List Arrival) : Known := arrivals.foldl Known.step {}

lemma knownAfter_snoc (arrivals : List Arrival) (arrival : Arrival) :
    knownAfter (arrivals ++ [arrival]) = (knownAfter arrivals).step arrival := by
  rw [knownAfter, knownAfter, List.foldl_concat]

/-- The state file is behind the memory, which has each fill at most once and in the order they came. -/
lemma durable_prefix_live (arrivals : List Arrival) :
    (knownAfter arrivals).durable <+: (knownAfter arrivals).live
      ∧ (knownAfter arrivals).live.Sublist arrivals := by
  induction arrivals using List.reverseRecOn with
  | nil => exact ⟨List.prefix_rfl, List.Sublist.refl _⟩
  | append_singleton arrivals arrival ih =>
      obtain ⟨hbehind, hsub⟩ := ih
      have hlive := hsub.append (List.Sublist.refl [arrival])
      have hdurable : (if arrival.fate.replaces && arrival.reaches
          then (knownAfter arrivals).live ++ [arrival] else (knownAfter arrivals).durable)
            <+: (knownAfter arrivals).live ++ [arrival] := by
        split_ifs
        · exact List.prefix_rfl
        · exact hbehind.trans (List.prefix_append _ _)
      rw [knownAfter_snoc, Known.step]
      cases arrival.fate.kills with
      | false => exact ⟨hdurable, hlive⟩
      | true => exact ⟨List.prefix_rfl, hdurable.sublist.trans hlive⟩

/-- What the state file knows is never lost. -/
lemma durable_prefix_durable (past rest : List Arrival) :
    (knownAfter past).durable <+: (knownAfter (past ++ rest)).durable := by
  induction rest using List.reverseRecOn with
  | nil =>
      rw [List.append_nil]
  | append_singleton rest arrival ih =>
      rw [← List.append_assoc, knownAfter_snoc]
      refine ih.trans ?_
      have hdurable : (knownAfter (past ++ rest)).durable <+: (if arrival.fate.replaces && arrival.reaches
          then (knownAfter (past ++ rest)).live ++ [arrival] else (knownAfter (past ++ rest)).durable) := by
        split_ifs
        · exact (durable_prefix_live (past ++ rest)).1.trans (List.prefix_append _ _)
        · exact List.prefix_rfl
      rw [Known.step]
      cases arrival.fate.kills with
      | false => exact hdurable
      | true => exact hdurable

/-! ## In memory -/

variable {processor} {dump} {loads} {arrival : Arrival} {ledger ledger' : PositionLedger ℚ}

/-- The ledger and the payload when everything went through. -/
def Arrival.marked (arrival : Arrival) (ledger : PositionLedger ℚ) (side : OrderSide) : PositionLedger ℚ :=
  (ledger.book (arrival.call.report.toFill arrival.call.strategyId) side).1.markPositions
    arrival.call.markPrices

/-- The three ways the fill goes in memory. -/
inductive Went (processor : FillProcessor ℚ) (arrival : Arrival) (ledger : PositionLedger ℚ) :
    EStateM.Result PyError (PositionLedger ℚ) (Option (PyVal ℚ)) → Prop
  | nothing (hside : arrival.call.bookedSide = none) (ran) (hran : final ran = ledger)
      (hsave : toSave ran = none) : Went processor arrival ledger ran
  | unrecorded (side : OrderSide) (hside : arrival.call.bookedSide = some side) (e : PyError)
      (he : arrival.recordTrade = some (.error e)) : Went processor arrival ledger
        (.error e (ledger.book (arrival.call.report.toFill arrival.call.strategyId) side).1)
  | marked (side : OrderSide) (hside : arrival.call.bookedSide = some side)
      (hrecord : GoesThrough arrival.recordTrade) (snapshot : ExposureSnapshot ℚ)
      (hsnapshot : snapshot = ExposureEngine.calculate (arrival.marked ledger side).positions
        arrival.call.markPrices) : Went processor arrival ledger
        (.ok (some (statePayload (arrival.marked ledger side) snapshot
          (processor.portfolioGuard.validate snapshot) arrival.call.report)) (arrival.marked ledger side))

lemma bookedSide_of_refused (ledger : PositionLedger ℚ) {call : Call}
    (h : call.report.averageFillPrice ≤ 0
      ∨ ∃ e, ledger.applyFill (call.report.toFill call.strategyId) = .error e) : call.bookedSide = none := by
  rw [Call.bookedSide]
  split_ifs with hboth
  · obtain ⟨e, he⟩ := h.resolve_left hboth.2
    rw [applyFill_error he]
    rfl
  · rfl

lemma bookedSide_of_booked {call : Call} (hfill : call.report.hasFill)
    (hprice : ¬ call.report.averageFillPrice ≤ 0) {r : PositionLedger ℚ × Trade ℚ}
    (hr : ledger.applyFill (call.report.toFill call.strategyId) = .ok r) :
    ∃ side, call.bookedSide = some side
      ∧ r = ledger.book (call.report.toFill call.strategyId) side := by
  obtain ⟨side, hc, hbook⟩ := applyFill_ok hr
  refine ⟨side, ?_, hbook⟩
  rw [Call.bookedSide, if_pos ⟨hfill, hprice⟩, hc]
  rfl

lemma went (arrival : Arrival) (ledger : PositionLedger ℚ) :
    Went processor arrival ledger ((processor.inMemory arrival).run ledger) := by
  refine leads_outcome.mp ?_
  rw [inMemory, leads_ite]
  refine ⟨fun hfill => ?_, fun hno => ?_⟩
  · simp only [leads_bind, leads_raiseIf, leads_get, leads_lift, leads_modify,
      leads_callOptional, leads_pure]
    refine ⟨fun hle => .nothing (bookedSide_of_refused ledger (Or.inl hle)) _ rfl rfl,
      fun hprice => ⟨?_, ?_⟩⟩
    · intro r hr
      obtain ⟨side, hside, rfl⟩ := bookedSide_of_booked hfill hprice hr
      refine ⟨fun hrecord => .marked side hside hrecord _ rfl, fun e he => .unrecorded side hside e he⟩
    · intro e he
      exact .nothing (bookedSide_of_refused ledger (Or.inr ⟨e, he⟩)) _ rfl rfl
  · refine leads_pure.mpr (.nothing ?_ _ rfl rfl)
    rw [Call.bookedSide, if_neg fun hboth => hno hboth.1]

variable {ran : EStateM.Result PyError (PositionLedger ℚ) (Option (PyVal ℚ))} {side : OrderSide}

lemma Went.of_none (h : Went processor arrival ledger ran) (hside : arrival.call.bookedSide = none) :
    final ran = ledger ∧ toSave ran = none := by
  cases h with
  | nothing _ _ hran hsave => exact ⟨hran, hsave⟩
  | unrecorded side hside' => exact absurd (hside.symm.trans hside') nofun
  | marked side hside' => exact absurd (hside.symm.trans hside') nofun

lemma Went.of_error (h : Went processor arrival ledger ran) (hside : arrival.call.bookedSide = some side)
    {e : PyError} (he : arrival.recordTrade = some (.error e)) :
    ran = .error e (ledger.book (arrival.call.report.toFill arrival.call.strategyId) side).1 := by
  cases h with
  | nothing hside' => exact absurd (hside.symm.trans hside') nofun
  | unrecorded side' hside' e' he' =>
      obtain rfl := Option.some.inj (hside.symm.trans hside')
      obtain rfl := Except.error.inj (Option.some.inj (he.symm.trans he'))
      rfl
  | marked _ _ hrecord => exact absurd he (hrecord e)

lemma Went.of_through (h : Went processor arrival ledger ran) (hside : arrival.call.bookedSide = some side)
    (hrecord : GoesThrough arrival.recordTrade) :
    let snapshot := ExposureEngine.calculate (arrival.marked ledger side).positions arrival.call.markPrices
    ran = .ok (some (statePayload (arrival.marked ledger side) snapshot
      (processor.portfolioGuard.validate snapshot) arrival.call.report)) (arrival.marked ledger side) := by
  cases h with
  | nothing hside' => exact absurd (hside.symm.trans hside') nofun
  | unrecorded _ _ e he => exact absurd he (hrecord e)
  | marked side' hside' _ snapshot hsnapshot =>
      obtain rfl := Option.some.inj (hside.symm.trans hside')
      rw [← hsnapshot]

/-- `process` is what happens in memory, and then the save. -/
theorem process_inMemory (answers : StoreAnswers) (arrival : Arrival)
    (hanswer : arrival.recordTrade = answers.recordTrade) (books : Books ℚ) :
    let call := arrival.call
    let ran := (processor.inMemory arrival).run books.ledger
    let processed := (processor.process answers call.report call.markPrices call.strategyId).run books
    (final processed).ledger = final ran
      ∧ (answers.save = .ok () →
        (final processed).saved = (toSave ran).elim books.saved PyVal.stored) := by
  intro call ran processed
  have hwent : Went processor arrival books.ledger ran := went arrival books.ledger
  have hout : processor.Outcome answers call.report call.markPrices call.strategyId books processed :=
    processor.process_outcome answers call.report call.markPrices call.strategyId books
  generalize processed = processed at hout
  generalize ran = ran at hwent
  cases hout with
  | noFill hno =>
      obtain ⟨hfinal, hsave⟩ := hwent.of_none (by rw [Call.bookedSide, if_neg fun hboth => hno hboth.1])
      rw [hfinal, hsave]
      exact ⟨rfl, fun _ => rfl⟩
  | refused hfill e hr =>
      obtain ⟨hfinal, hsave⟩ := hwent.of_none (bookedSide_of_refused books.ledger hr)
      rw [hfinal, hsave]
      exact ⟨rfl, fun _ => rfl⟩
  | unrecorded hfill hprice r hr e he =>
      obtain ⟨side, hside, rfl⟩ := bookedSide_of_booked hfill hprice hr
      rw [hwent.of_error hside (hanswer.trans he)]
      exact ⟨rfl, fun _ => rfl⟩
  | unsaved hfill hprice r hr hrecord e he =>
      obtain ⟨side, hside, rfl⟩ := bookedSide_of_booked hfill hprice hr
      rw [hwent.of_through hside (hanswer ▸ hrecord)]
      refine ⟨rfl, fun hsave => ?_⟩
      cases hsave.symm.trans he
  | completed hfill hprice r hr hrecord hsave =>
      obtain ⟨side, hside, rfl⟩ := bookedSide_of_booked hfill hprice hr
      rw [hwent.of_through hside (hanswer ▸ hrecord)]
      exact ⟨rfl, fun _ => rfl⟩

/-- Ledgers that are the same go the same way, and what is saved brings the ledger back. -/
lemma inMemory_same (processor : FillProcessor ℚ) (hwell : ledger'.WellFormed)
    (hsame : ledger.Same ledger') (arrival : Arrival) :
    let ran := (processor.inMemory arrival).run ledger
    let ran' := (processor.inMemory arrival).run ledger'
    (final ran').WellFormed ∧ (final ran).Same (final ran')
      ∧ if arrival.reaches then ∃ payload, toSave ran = some payload
          ∧ (reload payload.stored).Same (final ran) else toSave ran = none := by
  intro ran ran'
  have hwent : Went processor arrival ledger ran := went arrival ledger
  have hwent' : Went processor arrival ledger' ran' := went arrival ledger'
  cases hside : arrival.call.bookedSide with
  | none =>
      obtain ⟨hfinal, hsave⟩ := hwent.of_none hside
      have hreaches : arrival.reaches = false := by rw [Arrival.reaches, hside]; rfl
      rw [hfinal, (hwent'.of_none hside).1, if_neg (by rw [hreaches]; decide)]
      exact ⟨hwell, hsame, hsave⟩
  | some side =>
      obtain ⟨hq, hp⟩ := bookedSide_pos hside
      have hbooked : (ledger'.book (arrival.call.report.toFill arrival.call.strategyId) side).1.WellFormed :=
        hwell.book hq hp
      obtain ⟨hsameBooked, -⟩ := hsame.book (arrival.call.report.toFill arrival.call.strategyId) side
      by_cases hrecord : GoesThrough arrival.recordTrade
      · have hmarked : (arrival.marked ledger' side).WellFormed := hbooked.markPositions _
        have hsameMarked : (arrival.marked ledger side).Same (arrival.marked ledger' side) :=
          hsameBooked.markPositions _
        have hreaches : arrival.reaches = true := by
          rw [Arrival.reaches, hside]
          rcases hanswer : arrival.recordTrade with _ | e | _
          · rfl
          · exact absurd hanswer (hrecord e)
          · rfl
        rw [hwent.of_through hside hrecord, hwent'.of_through hside hrecord, if_pos hreaches]
        exact ⟨hmarked, hsameMarked, _, rfl, reload_statePayload (hmarked.of_same hsameMarked) _ _ _⟩
      · obtain ⟨e, he⟩ := not_forall_not.mp hrecord
        have hreaches : arrival.reaches = false := by rw [Arrival.reaches, hside, he]; rfl
        rw [hwent.of_error hside he, hwent'.of_error hside he, if_neg (by rw [hreaches]; decide)]
        exact ⟨hbooked, hsameBooked, rfl⟩

lemma remembered_snoc (arrivals : List Arrival) (arrival : Arrival) :
    processor.remembered (arrivals ++ [arrival])
      = final ((processor.inMemory arrival).run (processor.remembered arrivals)) := by
  rw [remembered, remembered, List.foldl_concat]

lemma wellFormed_remembered (arrivals : List Arrival) : (processor.remembered arrivals).WellFormed := by
  induction arrivals using List.reverseRecOn with
  | nil => exact wellFormed_empty
  | append_singleton arrivals arrival ih =>
      rw [remembered_snoc]
      exact (inMemory_same processor ih (Same.refl _) arrival).1

/-! ## The memory and the file -/

/-- The ledger in memory is the one that is given the fills of which it knows, and the state file has the one
that is given those of which it knows. -/
structure Server.Knows (dump : PyVal ℚ → List Piece) (loads : List Piece → Except PyError (PyVal ℚ))
    (processor : FillProcessor ℚ) (s : Server Piece) (known : Known) : Prop where
  ready : Ready dump s.directory
  live : s.ledger.Same (processor.remembered known.live)
  durable : ∃ saved, load loads s.directory = .ok saved
    ∧ (reload saved).Same (processor.remembered known.durable)

variable {s : Server Piece} {known : Known}

lemma Server.knows_new : Server.new.Knows dump loads processor {} where
  ready := ready_new
  live := Same.refl _
  durable := ⟨.dict [], rfl, Same.refl _⟩

/-- A new process knows what the file knows. -/
lemma Server.Knows.restarted (h : s.Knows dump loads processor known) :
    ∃ s', FillProcessor.restarted loads s.directory = some s'
      ∧ s'.Knows dump loads processor ⟨known.durable, known.durable⟩ := by
  obtain ⟨saved, hload, hsame⟩ := h.durable
  refine ⟨⟨reload saved, s.directory⟩, ?_, h.ready, hsame, saved, hload, hsame⟩
  rw [FillProcessor.restarted, hload]
  rfl

/-- **One fill**, whatever becomes of the save. -/
lemma Server.Knows.step (hjson : ∀ payload, loads (dump payload) = .ok payload.stored)
    (h : s.Knows dump loads processor known) (arrival : Arrival) :
    ∃ s', Server.step processor dump loads s arrival = some s'
      ∧ s'.Knows dump loads processor (known.step arrival) := by
  obtain ⟨-, hlive, hpayload⟩ := inMemory_same processor
    (wellFormed_remembered known.live) h.live arrival
  rw [← remembered_snoc] at hlive
  obtain ⟨next, hsave, hready, hreplaced⟩ := h.ready.save arrival.fate arrival.temp
    (toSave ((processor.inMemory arrival).run s.ledger))
  have hdurable : ∃ saved, load loads next = .ok saved ∧ (reload saved).Same
      (processor.remembered (if arrival.fate.replaces && arrival.reaches
        then known.live ++ [arrival] else known.durable)) := by
    obtain ⟨saved, hload, hsaved⟩ := h.durable
    have hsame (hno : next.replaced = s.directory.replaced) : load loads next = .ok saved := by
      rw [hready.load hjson, hno, ← h.ready.load hjson, hload]
    cases hreaches : arrival.reaches with
    | false =>
        rw [if_neg (by rw [hreaches]; decide)] at hpayload
        rw [hpayload, Option.toList_none, List.map_nil, ite_self, List.append_nil] at hreplaced
        rw [Bool.and_false]
        exact ⟨saved, hsame hreplaced, hsaved⟩
    | true =>
        rw [if_pos hreaches] at hpayload
        obtain ⟨payload, hpayload, hreload⟩ := hpayload
        cases hreplaces : arrival.fate.replaces with
        | false =>
            rw [hreplaces, if_neg (by decide), List.append_nil] at hreplaced
            exact ⟨saved, hsame hreplaced, hsaved⟩
        | true =>
            rw [hreplaces, if_pos rfl, hpayload] at hreplaced
            refine ⟨payload.stored, ?_, hreload.trans hlive⟩
            rw [hready.load hjson, hreplaced, Option.toList_some, List.map_singleton,
              Files.lastReplaced_snoc, if_pos rfl]
            rfl
  have hknows : (⟨final ((processor.inMemory arrival).run s.ledger), next⟩ : Server Piece).Knows
      dump loads processor ⟨known.live ++ [arrival], if arrival.fate.replaces && arrival.reaches
        then known.live ++ [arrival] else known.durable⟩ := ⟨hready, hlive, hdurable⟩
  rw [Server.step, hsave, Option.bind_some]
  cases hkills : arrival.fate.kills with
  | false =>
      rw [Known.step, hkills]
      exact ⟨_, rfl, hknows⟩
  | true =>
      rw [Known.step, hkills]
      exact hknows.restarted

lemma knows_of_run (processor : FillProcessor ℚ)
    (hjson : ∀ payload, loads (dump payload) = .ok payload.stored) (arrivals : List Arrival) :
    ∃ s, Machine.run (Server.step processor dump loads) Server.new arrivals = some s
      ∧ s.Knows dump loads processor (knownAfter arrivals) := by
  induction arrivals using List.reverseRecOn with
  | nil => exact ⟨Server.new, rfl, Server.knows_new⟩
  | append_singleton arrivals arrival ih =>
      obtain ⟨s, hrun, hknows⟩ := ih
      obtain ⟨s', hstep, hknows'⟩ := hknows.step hjson arrival
      refine ⟨s', ?_, ?_⟩
      · rw [Machine.run_snoc, hrun]
        exact hstep
      · rw [knownAfter_snoc]
        exact hknows'

/-- **A crash loses at most what was booked since the last complete save.**  However far each save gets, the
process can always be started again; its ledger in memory has the fills of which it knows, booked one after the
other and each once, the state file has a first part of them, and never loses one again. -/
theorem crash_recovery (processor : FillProcessor ℚ) (dump : PyVal ℚ → List Piece)
    (loads : List Piece → Except PyError (PyVal ℚ))
    (hjson : ∀ payload, loads (dump payload) = .ok payload.stored) (arrivals : List Arrival) :
    let known := knownAfter arrivals
    (∃ s, Machine.run (Server.step processor dump loads) Server.new arrivals = some s
      ∧ s.ledger.Same (processor.remembered known.live)
      ∧ ∃ saved, load loads s.directory = .ok saved
        ∧ (reload saved).Same (processor.remembered known.durable))
      ∧ known.live.Sublist arrivals ∧ known.durable <+: known.live
      ∧ ∀ past rest, arrivals = past ++ rest → (knownAfter past).durable <+: known.durable := by
  intro known
  obtain ⟨s, hrun, hknows⟩ := knows_of_run processor hjson arrivals
  obtain ⟨hbehind, hsub⟩ := durable_prefix_live arrivals
  refine ⟨⟨s, hrun, hknows.live, hknows.durable⟩, hsub, hbehind, ?_⟩
  rintro past rest rfl
  exact durable_prefix_durable past rest

/-! ## A save that is cut short -/

/-- A payload in three pieces. -/
def inPieces (payload : PyVal ℚ) : List (PyVal ℚ) := [.str "(", payload, .str ")"]

/-- What three pieces say. -/
def fromPieces : List (PyVal ℚ) → Except PyError (PyVal ℚ)
  | [.str "(", payload, .str ")"] => .ok payload.stored
  | _ => .error ⟨.valueError, "Expecting value: line 1 column 1 (char 0)"⟩

/-- Two bought at 100, and saved. -/
def savedFill : Arrival where
  call := ⟨⟨"BTC/USDT", "BUY", 2, 2, 100, .filled, "SIM", none, none, 0, .none⟩, .ofList [], none⟩

/-- One more bought at 110; the process is killed when two of the three pieces are written. -/
def cutFill : Arrival where
  call := ⟨⟨"BTC/USDT", "BUY", 1, 1, 110, .filled, "SIM", none, none, 0, .none⟩, .ofList [], none⟩
  temp := 1
  fate := .killed (some 2)

theorem crash_recovery_cut_short :
    let processor : FillProcessor ℚ :=
      ⟨⟨2000, 2000, 4 / 5, by decide +kernel, by decide +kernel, by decide +kernel⟩⟩
    let known := knownAfter [savedFill, cutFill]
    (∃ s, Machine.run (Server.step processor inPieces fromPieces) Server.new [savedFill, cutFill] = some s
      ∧ s.ledger.Same (processor.remembered known.live)
      ∧ ∃ saved, load fromPieces s.directory = .ok saved
        ∧ (reload saved).Same (processor.remembered known.durable))
      ∧ known.live.length = 1 ∧ (processor.remembered known.live).positions.get? "BTC/USDT"
        = some ⟨"BTC/USDT", 2, 100, 0, 0⟩ := by
  intro processor known
  obtain ⟨hrun, -⟩ := crash_recovery processor inPieces fromPieces (fun _ => rfl) [savedFill, cutFill]
  exact ⟨hrun, by decide +kernel, by decide +kernel⟩

end FillProcessor

end Aegis
