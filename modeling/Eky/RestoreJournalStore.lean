import Eky.RecordFiles
import Eky.RestoreJournal

/-! # The store of the restoration's journal

    `ProfileRestoreActivationJournalStore` of `profileRestoreActivationJournalStore.ts`.
    The journal is kept in three slots, like the other records, but its writes carry the
    authority of their caller: callbacks that say again, before every change, whether
    the caller may still make it.  A write that has such an authority never takes a
    change back and leaves every slot as it is when it fails. -/

namespace ProfileRestoreActivationJournalStore

open RecordFiles

/-- The errors of the store. -/
inductive RestoreJournalError
  | journalInvalid
  | journalUnavailable
  | journalRequired
  | stateInvalid
  | io (error : IoError)
  /-- What a callback of the caller throws. -/
  | authority
  deriving DecidableEq

/-- Their texts. -/
def RestoreJournalError.message : RestoreJournalError → Option String
  | .journalInvalid => some "PROFILE_RESTORE_JOURNAL_INVALID"
  | .journalUnavailable => some "PROFILE_RESTORE_JOURNAL_UNAVAILABLE"
  | .journalRequired => some "PROFILE_RESTORE_JOURNAL_REQUIRED"
  | .stateInvalid => some "PROFILE_RESTORE_ACTIVATION_STATE_INVALID"
  | .io _ | .authority => none

/-- A program over the three files. -/
abbrev JournalProgram (α : Type) : Type := Program Slots Fate RestoreJournalError α

/-- The error of a record file as one of the store. -/
def ofRecordError : RecordError → RestoreJournalError
  | .io error => .io error
  | .invalid => .journalInvalid
  | .conflict | .unavailable _ => .journalUnavailable

/-- A file operation. -/
def file {α : Type} (m : RecordProgram α) : JournalProgram α := Program.mapError ofRecordError m

/-- A callback; whatever it looks at, it changes none of the slots. -/
def callAuthority : JournalProgram Unit := attemptNothing .authority

/-- A part that is left out unless the condition holds. -/
def onlyIf (condition : Bool) (m : JournalProgram Unit) : JournalProgram Unit :=
  if condition then m else pure ()

/-- A callback that need not be there. -/
def callWhen (supplied : Bool) : JournalProgram Unit := onlyIf supplied callAuthority

/-- Bytes of a journal. -/
def maximumJournalBytes : Nat := 64 * 1024

/-- `assertProfileRestoreActivationJournalMatches` -/
def assertMatches (expected : ProfileRestoreActivationJournal)
    (value : Option ProfileRestoreActivationJournal) : JournalProgram Unit :=
  if value = some expected then pure () else throw .stateInvalid

/-- `assertSlotsAbsent`, for one slot. -/
def assertSlotAbsent (slot : Slot) : JournalProgram Unit :=
  attempt (.io .other) fun s =>
    if (s.get slot).isSome then .error .journalUnavailable else .ok ((), s)

/-! ## Authorities -/

/-- What the caller vouches for. -/
inductive AuthorityKind
  | unspecified
  | combined
  | separateContent
  deriving DecidableEq

/-- Which callbacks a write comes with.  Without a previous journal the authority is one
    to create the journal. -/
structure WriteAuthority where
  previous : Option ProfileRestoreActivationJournal
  kind : AuthorityKind
  writeContext : Bool
  assertMutationCurrent : Bool
  deriving DecidableEq

namespace WriteAuthority

/-- The callbacks go together. -/
def wellFormed (authority : WriteAuthority) : Bool :=
  (!authority.writeContext || (authority.previous.isSome &&
    (authority.kind = .separateContent ||
      (authority.kind = .combined && authority.assertMutationCurrent)))) &&
  (authority.kind ≠ .separateContent || authority.previous.isSome)

/-- The content is vouched for apart. -/
def separateContent (authority : WriteAuthority) : Bool := authority.kind = .separateContent

end WriteAuthority

/-- How far a write has come. -/
structure WriteProgress where
  previousMoved : Bool
  nextCreated : Bool
  nextWritten : Bool
  published : Bool
  deriving DecidableEq

namespace WriteProgress

/-- Nothing done. -/
def start : WriteProgress := ⟨false, false, false, false⟩

/-- The next file is there. -/
def created : WriteProgress := ⟨false, true, false, false⟩

/-- The next file is written. -/
def written : WriteProgress := ⟨false, true, true, false⟩

/-- The current file is set aside. -/
def setAside (previousMoved : Bool) : WriteProgress := ⟨previousMoved, true, true, false⟩

/-- The next file has become the current one. -/
def publishedWith (previousMoved : Bool) : WriteProgress := ⟨previousMoved, true, true, true⟩

end WriteProgress

section Store

variable (codec : RecordCodec ProfileRestoreActivationJournal)

/-- The journal in a file. -/
def readJournal (slot : Slot) : JournalProgram (Option ProfileRestoreActivationJournal) :=
  file (readRecord codec maximumJournalBytes slot)

/-! ## Reading -/

/-- The first slot that there is decides, even if it cannot be read. -/
def selectJournal : JournalProgram (Option (ProfileRestoreActivationJournal × Slot)) := do
  match ← readJournal codec .current with
  | some journal => pure (some (journal, .current))
  | none =>
    match ← readJournal codec .backup with
    | some journal => pure (some (journal, .backup))
    | none =>
      match ← readJournal codec .next with
      | some journal => pure (some (journal, .next))
      | none => pure none

/-- The journal that a reader is given. -/
def peek : JournalProgram (Option ProfileRestoreActivationJournal) := do
  let selected ← selectJournal codec
  pure (selected.map (·.1))

/-- With an authority, a slot that is not there needs no removal. -/
def needsRemoval (slot : Slot) (authority : Bool) : JournalProgram Bool :=
  if authority then attempt (.io .other) fun s => .ok ((s.get slot).isSome, s) else pure true

/-- Removes a recovery file that is there. -/
def removePresentRecoverySlot (slot : Slot) (authority mutation : Bool) :
    JournalProgram Unit := do
  if ← needsRemoval slot authority then do
    callWhen authority
    callWhen mutation
    file (rm slot)
  else pure ()

/-- Removes both recovery files. -/
def removeRecoverySlots (authority mutation : Bool) : JournalProgram Unit :=
  if authority then do
    removePresentRecoverySlot .next authority mutation
    removePresentRecoverySlot .backup authority mutation
  else file RecordFiles.removeRecoverySlots

/-- What is expected is what is selected. -/
def assertExpected (expected : Option ProfileRestoreActivationJournal)
    (selected : Option (ProfileRestoreActivationJournal × Slot)) : JournalProgram Unit :=
  match expected, selected with
  | none, _ => pure ()
  | some _, none => throw .journalRequired
  | some expected, some selected => assertMatches expected (some selected.1)

/-- The selected slot is put in place, and the others are removed. -/
def repair (authority mutation : Bool)
    (selected : Option (ProfileRestoreActivationJournal × Slot)) :
    JournalProgram (Option ProfileRestoreActivationJournal) :=
  match selected with
  | none => pure none
  | some (journal, .current) => do
    removeRecoverySlots authority mutation
    pure (some journal)
  | some (journal, slot) => do
    callWhen mutation
    file (rename slot .current)
    onlyIf (slot = .backup) (removePresentRecoverySlot .next authority mutation)
    file housekeeping
    pure (some journal)

/-- Reads the journal and makes its file the current one. -/
def read (expected : Option ProfileRestoreActivationJournal) (authority mutation : Bool) :
    JournalProgram (Option ProfileRestoreActivationJournal) :=
  if mutation ∧ ¬ (expected.isSome ∧ authority) then throw .journalInvalid
  else do
    let selected ← selectJournal codec
    assertExpected expected selected
    callWhen authority
    repair authority mutation selected

/-! ## Removing -/

/-- One round of `clear`: the journal is still the expected one, and the slot goes. -/
def clearSlot (expected : ProfileRestoreActivationJournal) (authority mutation : Bool)
    (slot : Slot) : JournalProgram Unit := do
  callWhen authority
  let selected ← peek codec
  assertMatches expected selected
  callWhen authority
  callWhen mutation
  file (rm slot)

/-- Removes the journal. -/
def clear (expected : Option ProfileRestoreActivationJournal) (authority mutation : Bool) :
    JournalProgram Unit :=
  if mutation ∧ ¬ (expected.isSome ∧ authority) then throw .journalInvalid
  else
    match expected with
    | some expected => do
      clearSlot codec expected authority mutation .next
      clearSlot codec expected authority mutation .backup
      clearSlot codec expected authority mutation .current
      file housekeeping
    | none => if authority then throw .journalInvalid else file clearStored

/-! ## Writing -/

section Write

variable (authority : WriteAuthority) (journal : ProfileRestoreActivationJournal)

/-- `assertContent` -/
def assertContent : JournalProgram Unit :=
  onlyIf authority.separateContent do
    callAuthority
    callAuthority
    callAuthority

/-- What the previous journal is expected to be in. -/
def assertPrevious (previousMoved : Bool) : JournalProgram Unit :=
  match authority.previous with
  | some previous =>
    if previousMoved then do
      let backup ← readJournal codec .backup
      assertMatches previous backup
      assertSlotAbsent .current
    else do
      let current ← readJournal codec .current
      assertMatches previous current
      assertSlotAbsent .backup
  | none => do
    assertSlotAbsent .current
    assertSlotAbsent .backup

/-- The files are as this write has left them, before it is published. -/
def assertSelected (progress : WriteProgress) : JournalProgram Unit := do
  callAuthority
  assertPrevious codec authority progress.previousMoved
  onlyIf (!progress.nextCreated) (assertSlotAbsent .next)
  callAuthority

/-- The next file is the one that was created, and it is still empty. -/
def assertOpenedNext : JournalProgram Unit :=
  attempt (.io .other) fun s =>
    if s.next = some [] then .ok ((), s) else .error .journalUnavailable

/-- The next file holds the new journal. -/
def assertNext : JournalProgram Unit := do
  let next ← readJournal codec .next
  assertMatches journal next

/-- The current file holds the new journal. -/
def assertPublished : JournalProgram Unit := do
  let current ← readJournal codec .current
  assertMatches journal current
  match authority.previous with
  | some previous => do
    let backup ← readJournal codec .backup
    assertMatches previous backup
  | none => pure ()

/-- The next file, as far as it has been written. -/
def assertNextSoFar (progress : WriteProgress) : JournalProgram Unit :=
  if progress.nextWritten then assertNext codec journal
  else onlyIf progress.nextCreated assertOpenedNext

/-- The check before a change of the files. -/
def assertMutation (progress : WriteProgress) : JournalProgram Unit :=
  onlyIf authority.writeContext do
    callAuthority
    if progress.published then do
      assertPublished codec authority journal
      assertSlotAbsent .next
    else do
      assertSelected codec authority progress
      assertNextSoFar codec journal progress

/-- The change is still wanted. -/
def assertMutationCurrent : JournalProgram Unit := do
  callWhen authority.writeContext
  callWhen authority.assertMutationCurrent

/-- Before every change of the files. -/
def beforeMutation (progress : WriteProgress) : JournalProgram Unit := do
  assertMutation codec authority journal progress
  assertMutationCurrent authority

/-- Makes the directory. -/
def prepareDirectory : JournalProgram Unit := do
  assertSelected codec authority .start
  beforeMutation codec authority journal .start
  -- `mkdir`
  file housekeeping
  callAuthority
  beforeMutation codec authority journal .start
  -- `chmod`, `assertPrivateDirectory`
  file housekeeping
  file housekeeping
  assertSelected codec authority .start
  assertSelected codec authority .start
  onlyIf authority.separateContent (assertSelected codec authority .start)
  beforeMutation codec authority journal .start

/-- The handle of the next file is open. -/
def fillNext : JournalProgram Unit := do
  onlyIf authority.previous.isSome (file housekeeping)
  callAuthority
  callWhen authority.separateContent
  onlyIf authority.previous.isSome assertOpenedNext
  callWhen authority.previous.isSome
  beforeMutation codec authority journal .created
  file (writeFile (codec.serialize journal))
  file housekeeping

/-- Writes the next file. -/
def createNext : JournalProgram Unit := do
  file openNext
  -- `close`
  Program.andFinally (fillNext codec authority journal) (file housekeeping)
  callAuthority
  beforeMutation codec authority journal .written
  -- `chmod`
  file housekeeping
  assertSelected codec authority .written
  assertNext codec journal
  assertSelected codec authority .written

/-- Whether there was a previous journal to set aside. -/
def setPreviousAside : JournalProgram Bool :=
  if authority.previous.isSome then do
    callAuthority
    onlyIf authority.separateContent (assertSelected codec authority .written)
    beforeMutation codec authority journal .written
    file (rename .current .backup)
    pure true
  else pure false

/-- The content is vouched for before the rename. -/
def assertContentBeforePublication (previousMoved : Bool) : JournalProgram Unit :=
  onlyIf authority.separateContent do
    assertContent authority
    assertSelected codec authority (.setAside previousMoved)
    assertNext codec journal
    callAuthority

/-- Renames the next file to the current one. -/
def publish (previousMoved : Bool) : JournalProgram Unit := do
  assertSelected codec authority (.setAside previousMoved)
  assertNext codec journal
  assertSelected codec authority (.setAside previousMoved)
  assertContentBeforePublication codec authority journal previousMoved
  beforeMutation codec authority journal (.setAside previousMoved)
  file (rename .next .current)
  file housekeeping

/-- Removes the file that was set aside. -/
def removePrevious (previousMoved : Bool) : JournalProgram Unit :=
  onlyIf previousMoved do
    assertContent authority
    assertPublished codec authority journal
    callAuthority
    assertSlotAbsent .next
    callAuthority
    beforeMutation codec authority journal (.publishedWith previousMoved)
    file (rm .backup)
    file housekeeping

/-- The checks after the rename. -/
def acknowledge (previousMoved : Bool) : JournalProgram Unit := do
  callAuthority
  assertPublished codec authority journal
  callAuthority
  removePrevious codec authority journal previousMoved

/-- The parts of a write. -/
def writeParts : JournalProgram Unit := do
  prepareDirectory codec authority journal
  createNext codec authority journal
  let previousMoved ← setPreviousAside codec authority journal
  publish codec authority journal previousMoved
  acknowledge codec authority journal previousMoved

/-- What a caught error is thrown as. -/
def unavailableOr (error : RestoreJournalError) : RestoreJournalError :=
  if error = .journalInvalid then .journalInvalid else .journalUnavailable

/-- `write` with an authority.  A journal can only be created as one that is prepared. -/
def write : JournalProgram Unit :=
  if !authority.wellFormed then throw .journalInvalid
  else if authority.previous = none ∧ ¬ (journal.phase = .prepared ∧ journal.revision = 0) then
    throw .journalInvalid
  else Program.mapError unavailableOr (writeParts codec authority journal)

end Write

end Store

end ProfileRestoreActivationJournalStore
