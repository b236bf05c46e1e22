import Mathlib.Logic.Function.Basic
import Eky.Fallible
import Eky.FileSlots
import Eky.RestoreJournal

/-! # The activation of a restored profile

    `ProfileRestoreActivationTransaction` of `profileRestoreActivationTransaction.ts`.  A
    profile is a database and the documents beside it.  The activation sets the active
    ones aside in a directory of the operation and puts the staged ones in their place; a
    rollback puts them back and leaves the others in a directory for what has failed.  The
    journal says how far either has come.  What was read of the slots of the files decides
    what is done with them. -/

/-- The two parts of a profile. -/
inductive ProfileSlot
  | database
  | documents
  deriving DecidableEq

/-- A slot held something before. -/
def ProfileRestoreActivationJournal.hadActive (journal : ProfileRestoreActivationJournal) :
    ProfileSlot → Bool
  | .database => journal.hadActiveDatabase
  | .documents => journal.hadActiveDocuments

namespace ProfileRestoreActivation

open Fallible ProfileRestoreActivationPhase

/-- The errors of the activation. -/
inductive ActivationError
  | operationInvalid
  | stateInvalid
  | busy
  | recoveryRequired
  | rollbackRequired
  | acceptInvalid
  | rollbackInvalid
  | rollbackStateInvalid
  | rollbackFailed
  | journalRequired
  | journalInvalid
  | journalUnavailable
  /-- An error of the file system. -/
  | io
  deriving DecidableEq

/-- Their texts. -/
def ActivationError.message : ActivationError → Option String
  | .operationInvalid => some "PROFILE_RESTORE_OPERATION_INVALID"
  | .stateInvalid => some "PROFILE_RESTORE_ACTIVATION_STATE_INVALID"
  | .busy => some "PROFILE_RESTORE_ACTIVATION_BUSY"
  | .recoveryRequired => some "PROFILE_RESTORE_RECOVERY_REQUIRED"
  | .rollbackRequired => some "PROFILE_RESTORE_ROLLBACK_REQUIRED"
  | .acceptInvalid => some "PROFILE_RESTORE_ACCEPT_INVALID"
  | .rollbackInvalid => some "PROFILE_RESTORE_ROLLBACK_INVALID"
  | .rollbackStateInvalid => some "PROFILE_RESTORE_ROLLBACK_STATE_INVALID"
  | .rollbackFailed => some "PROFILE_RESTORE_ROLLBACK_FAILED"
  | .journalRequired => some "PROFILE_RESTORE_JOURNAL_REQUIRED"
  | .journalInvalid => some "PROFILE_RESTORE_JOURNAL_INVALID"
  | .journalUnavailable => some "PROFILE_RESTORE_JOURNAL_UNAVAILABLE"
  | .io => none

/-! ## What is on the disk -/

section Profile

variable {Content : Type}

/-- What a directory has of the two slots. -/
abbrev SlotContents (Content : Type) : Type := ProfileSlot → Option Content

/-- An empty directory. -/
def noContents : SlotContents Content := fun _ => none

/-- `active` is what a rollback moved out of the way, `staging` the whole staging
    directory. -/
structure FailedRoot (Content : Type) where
  active : Option (SlotContents Content)
  staging : Option (SlotContents Content)

/-- The directories of one operation. -/
structure OperationRoots (Content : Type) where
  staging : Option (SlotContents Content)
  rollback : Option (SlotContents Content)
  failed : Option (FailedRoot Content)

/-- The journal and the directories. -/
structure RestoreProfile (Content : Type) where
  journal : Option ProfileRestoreActivationJournal
  active : SlotContents Content
  operations : String → OperationRoots Content

/-- Where a slot can be: `activeDatabasePath`, `rollbackDatabasePath`,
    `stagedDatabasePath`, `failedActiveDatabasePath` and `failedStagedDatabasePath`, and
    the same of the documents. -/
inductive SlotPath
  | active
  | rollback
  | staged
  | failedActive
  | failedStaged
  deriving DecidableEq

namespace RestoreProfile

variable (s : RestoreProfile Content) (operationId : String)

/-- The profile after a change of an operation's directories. -/
def mapRoots (f : OperationRoots Content → OperationRoots Content) : RestoreProfile Content :=
  { s with operations := Function.update s.operations operationId (f (s.operations operationId)) }

/-- The directory that a path is in. -/
def parent : SlotPath → Option (SlotContents Content)
  | .active => some s.active
  | .rollback => (s.operations operationId).rollback
  | .staged => (s.operations operationId).staging
  | .failedActive => (s.operations operationId).failed.bind (·.active)
  | .failedStaged => (s.operations operationId).failed.bind (·.staging)

/-- What stands in a place. -/
def contents (path : SlotPath) (slot : ProfileSlot) : Option Content :=
  (s.parent operationId path).bind fun directory => directory slot

/-- Something stands in a place. -/
def present (path : SlotPath) (slot : ProfileSlot) : Bool :=
  (s.contents operationId path slot).isSome

/-- Whether there is the directory that a path is in. -/
def parentPresent (path : SlotPath) : Bool := (s.parent operationId path).isSome

/-- One entry of a directory is changed, if there is the directory. -/
def put (path : SlotPath) (slot : ProfileSlot) (content : Option Content) :
    RestoreProfile Content :=
  let change (directory : SlotContents Content) := Function.update directory slot content
  match path with
  | .active => { s with active := change s.active }
  | .rollback =>
    s.mapRoots operationId fun roots => { roots with rollback := roots.rollback.map change }
  | .staged =>
    s.mapRoots operationId fun roots => { roots with staging := roots.staging.map change }
  | .failedActive =>
    s.mapRoots operationId fun roots => { roots with
      failed := roots.failed.map fun failed => { failed with active := failed.active.map change } }
  | .failedStaged =>
    s.mapRoots operationId fun roots => { roots with
      failed := roots.failed.map fun failed =>
        { failed with staging := failed.staging.map change } }

/-- The rollback directory is there. -/
def makeRollbackRoot : RestoreProfile Content :=
  s.mapRoots operationId fun roots =>
    { roots with rollback := some (roots.rollback.getD noContents) }

/-- The directory of failed profiles is there. -/
def makeFailedRoot : RestoreProfile Content :=
  s.mapRoots operationId fun roots => { roots with failed := some (roots.failed.getD ⟨none, none⟩) }

/-- The directory of a failed activation is there. -/
def makeFailedActive : RestoreProfile Content :=
  s.mapRoots operationId fun roots =>
    let failed := roots.failed.getD ⟨none, none⟩
    { roots with failed := some { failed with active := some (failed.active.getD noContents) } }

/-- `mkdir` of the directory that a path is in, with the directories above it. -/
def makeParent : SlotPath → RestoreProfile Content
  | .rollback => s.makeRollbackRoot operationId
  | .failedActive => s.makeFailedActive operationId
  | .active | .staged | .failedStaged => s

/-- A slot changes its path.  One that is in the way is replaced. -/
def renameSlot (slot : ProfileSlot) (source destination : SlotPath) :
    Except ActivationError (RestoreProfile Content) :=
  match s.contents operationId source slot, s.parent operationId destination with
  | some content, some _ =>
    .ok ((s.put operationId source slot none).put operationId destination slot (some content))
  | _, _ => .error .io

/-- The staging directory is moved as a whole. -/
def renameStaging : Except ActivationError (RestoreProfile Content) :=
  match (s.operations operationId).staging, (s.operations operationId).failed with
  | some staging, some failed =>
    .ok (s.mapRoots operationId fun roots =>
      { roots with staging := none, failed := some { failed with staging := some staging } })
  | _, _ => .error .io

end RestoreProfile

/-! ## What is checked -/

/-- A program over the profile. -/
abbrev ActivationProgram (Content α : Type) : Type :=
  Program (RestoreProfile Content) Fate ActivationError α

/-- A check of the journal and of the files, which changes nothing. -/
abbrev Check (Content α : Type) : Type := RestoreProfile Content → Except ActivationError α

/-- A check of the profile. -/
def inspect {α : Type} (check : Check Content α) : ActivationProgram Content α := do
  let s ← Program.get
  Program.ofExcept (check s)

/-- `assertJournalMutation`, without an authority of the caller. -/
def assertJournalMutation (journal : ProfileRestoreActivationJournal) : Check Content Unit :=
  fun s => throwIf (s.journal ≠ some journal) .stateInvalid

/-- `read` of the journal's store. -/
def readJournal (expected : Option ProfileRestoreActivationJournal) :
    Check Content ProfileRestoreActivationJournal := fun s =>
  match s.journal with
  | none => .error .journalRequired
  | some journal =>
    if expected = none ∨ expected = some journal then .ok journal else .error .stateInvalid

/-- The journal is at its end. -/
def requireTerminalJournal (expected : Option ProfileRestoreActivationJournal) :
    Check Content ProfileRestoreActivationJournal := fun s =>
  match expected <|> s.journal with
  | none => .error .journalRequired
  | some captured => readJournal (some captured) s

/-- `movingCurrent` of `slotPhases` -/
def movingCurrent : ProfileSlot → ProfileRestoreActivationPhase
  | .database => .movingCurrentDatabase
  | .documents => .movingCurrentDocuments

/-- `activatingStaged` of `slotPhases` -/
def activatingStaged : ProfileSlot → ProfileRestoreActivationPhase
  | .database => .activatingStagedDatabase
  | .documents => .activatingStagedDocuments

/-- Where the staged part may stand. -/
inductive ForwardSlot
  | active
  | staged
  deriving DecidableEq

/-- `readProfileRestoreForwardRecoverySlot`, where `present` says at which paths the slot
    is. -/
def readForwardRecoverySlot (phase : ProfileRestoreActivationPhase) (slot : ProfileSlot)
    (hadActive : Bool) (present : SlotPath → Bool) : Except ActivationError ForwardSlot :=
  match phase.forwardIndex, (movingCurrent slot).forwardIndex,
    (activatingStaged slot).forwardIndex with
  | some current, some moving, some activating =>
    let active := present .active
    let rollback := present .rollback
    let staged := present .staged
    let valid :=
      if current < moving then active = hadActive && !rollback && staged
      else if current = moving then active.toNat + rollback.toNat = hadActive.toNat && staged
      else if current < activating then !active && rollback = hadActive && staged
      else if current = activating then active != staged && rollback = hadActive
      else active && !staged && rollback = hadActive
    if !valid then .error .stateInvalid
    else .ok (if activating ≤ current ∧ active then .active else .staged)
  | _, _, _ => .error .stateInvalid

/-- Where the parts stand, on the way forward. -/
def readForwardRecoverySources (journal : ProfileRestoreActivationJournal) :
    Check Content (ForwardSlot × ForwardSlot) := fun s => do
  assertJournalMutation journal s
  throwIf (s.parentPresent journal.operationId .staged = false ∨
    s.parentPresent journal.operationId .rollback = false ∨
      (s.operations journal.operationId).failed.isSome) .stateInvalid
  let read (slot : ProfileSlot) := readForwardRecoverySlot journal.phase slot
    (journal.hadActive slot) fun path => s.present journal.operationId path slot
  let database ← read .database
  let documents ← read .documents
  assertJournalMutation journal s
  return (database, documents)

/-- Where the original part may stand. -/
inductive OriginalSlot
  | active
  | rollback
  | absent
  deriving DecidableEq

/-- `readProfileRestoreRollbackRecoverySlot` -/
def readRollbackRecoverySlot (rolledBack hadActive active rollback staged failed : Bool) :
    Except ActivationError OriginalSlot := do
  let original ←
    if hadActive then
      if staged != failed && active != rollback then
        .ok (if active then .active else .rollback)
      else if active && rollback && !staged && !failed then .ok .rollback
      else .error .stateInvalid
    else if rollback || active.toNat + staged.toNat + failed.toNat != 1 then .error .stateInvalid
    else .ok .absent
  throwIf (rolledBack ∧ (rollback ∨ active ≠ hadActive)) .stateInvalid
  return original

/-- `readSlot` of `readRollbackRecoverySources` -/
def readOriginalSlot (journal : ProfileRestoreActivationJournal) (failedStagingPresent : Bool)
    (slot : ProfileSlot) : Check Content OriginalSlot := fun s => do
  let present (path : SlotPath) := s.present journal.operationId path slot
  throwIf (present .staged ∧ present .failedStaged) .stateInvalid
  throwIf (journal.phase = .validationStarting ∧ (present .active = false ∨
    present .rollback ≠ journal.hadActive slot ∨ present .staged ∨ present .failedActive ∨
      present .failedStaged)) .stateInvalid
  readRollbackRecoverySlot (failedStagingPresent || journal.phase = .rolledBack)
    (journal.hadActive slot) (present .active) (present .rollback)
    (present .staged || present .failedStaged) (present .failedActive)

/-- The phases in which the sources of a rollback are read. -/
def rollbackPhases : List ProfileRestoreActivationPhase :=
  [.validationStarting, .rollbackStarting, .rolledBack]

/-- The entries of the directory for what has failed are the ones that its type has. -/
def readRollbackRecoverySources (journal : ProfileRestoreActivationJournal) :
    Check Content (OriginalSlot × OriginalSlot) := fun s => do
  throwIf (journal.phase ∉ rollbackPhases) .stateInvalid
  assertJournalMutation journal s
  let staging := s.parentPresent journal.operationId .staged
  let failedStaging := s.parentPresent journal.operationId .failedStaged
  throwIf (staging = failedStaging ∨
    (journal.phase ≠ .rolledBack ∧ s.parentPresent journal.operationId .rollback = false) ∨
    (journal.phase = .rolledBack ∧ staging)) .stateInvalid
  throwIf (journal.phase = .validationStarting ∧
    (failedStaging ∨ s.parentPresent journal.operationId .failedActive)) .stateInvalid
  let database ← readOriginalSlot journal failedStaging .database s
  let documents ← readOriginalSlot journal failedStaging .documents s
  throwIf (failedStaging ∧ (database = .rollback ∨ documents = .rollback)) .stateInvalid
  assertJournalMutation journal s
  return (database, documents)

/-- `assertRollbackMutation`, without an authority of the caller. -/
def assertRollbackMutation (journal : ProfileRestoreActivationJournal) : Check Content Unit :=
  fun s => do
    assertJournalMutation journal s
    let _ ← readRollbackRecoverySources journal s
    assertJournalMutation journal s

/-! ## What is moved -/

/-- The journal takes the place of the previous one; `assertCurrent` is asked before and
    after. -/
def writeJournal (previous : Option ProfileRestoreActivationJournal)
    (assertCurrent : ProfileRestoreActivationJournal → Check Content Unit)
    (journal : ProfileRestoreActivationJournal) : ActivationProgram Content Unit :=
  Program.mapError (fun _ => .journalUnavailable) do
    inspect fun s => previous.elim (.ok ()) fun previous => assertCurrent previous s
    attempt .io fun s =>
      if s.journal = previous then .ok ((), { s with journal := some journal })
      else .error .journalUnavailable
    inspect (assertCurrent journal)

/-- The journal that follows in the given phase. -/
def advanced (journal : ProfileRestoreActivationJournal) (phase : ProfileRestoreActivationPhase)
    (h : journal.revision + 1 ≤ maximumSafeInteger) : ProfileRestoreActivationJournal :=
  { journal with phase := phase, revision := journal.revision + 1, revisionSafe := h }

/-- The journal goes on to a phase. -/
def advanceJournal (journal : ProfileRestoreActivationJournal)
    (phase : ProfileRestoreActivationPhase)
    (assertCurrent : ProfileRestoreActivationJournal → Check Content Unit) :
    ActivationProgram Content ProfileRestoreActivationJournal :=
  if h : journal.revision + 1 ≤ maximumSafeInteger then do
    writeJournal (some journal) assertCurrent (advanced journal phase h)
    pure (advanced journal phase h)
  else throw .journalInvalid

/-- `mkdir` with `recursive` and `chmod`. -/
def createPrivateDirectory (assertAuthority : Check Content Unit)
    (make : RestoreProfile Content → RestoreProfile Content) : ActivationProgram Content Unit := do
  inspect assertAuthority
  attempt .io fun s => .ok ((), make s)
  inspect assertAuthority
  attemptNothing .io
  inspect assertAuthority

/-- `renameProfilePathWithRetry` and `syncDirectories`. -/
def renamePath (assertAuthority : Check Content Unit)
    (rename : RestoreProfile Content → Except ActivationError (RestoreProfile Content)) :
    ActivationProgram Content Unit := do
  inspect assertAuthority
  attempt .io fun s => (rename s).map fun t => ((), t)
  attemptNothing .io

/-- One move of a file or a directory. -/
structure Move (Content : Type) where
  sourceExists : RestoreProfile Content → Bool
  destinationExists : RestoreProfile Content → Bool
  makeParent : RestoreProfile Content → RestoreProfile Content
  rename : RestoreProfile Content → Except ActivationError (RestoreProfile Content)

/-- The move of a part. -/
def slotMove (operationId : String) (slot : ProfileSlot) (source destination : SlotPath) :
    Move Content where
  sourceExists s := s.present operationId source slot
  destinationExists s := s.present operationId destination slot
  makeParent s := s.makeParent operationId destination
  rename s := s.renameSlot operationId slot source destination

/-- The move of the whole staged profile. -/
def stagingMove (operationId : String) : Move Content where
  sourceExists s := s.parentPresent operationId .staged
  destinationExists s := s.parentPresent operationId .failedStaged
  makeParent s := s.makeFailedRoot operationId
  rename s := s.renameStaging operationId

/-- A move, whose source must be there and whose destination must not. -/
def carryOut (assertAuthority : Check Content Unit) (move : Move Content) :
    ActivationProgram Content Unit := do
  createPrivateDirectory assertAuthority move.makeParent
  renamePath assertAuthority move.rename

/-- A move that was made before is not made again. -/
def moveRequiredSlot (assertAuthority : Check Content Unit) (move : Move Content) :
    ActivationProgram Content Unit := do
  let s ← Program.get
  if !move.sourceExists s && move.destinationExists s then pure ()
  else if !move.sourceExists s || move.destinationExists s then throw .stateInvalid
  else carryOut assertAuthority move

/-- Where there was nothing, nothing is moved; else it is `moveRequiredSlot`. -/
def moveOptionalSlot (assertAuthority : Check Content Unit) (expectedSource : Bool)
    (move : Move Content) : ActivationProgram Content Unit := do
  let s ← Program.get
  if !expectedSource then
    if move.sourceExists s || move.destinationExists s then throw .stateInvalid else pure ()
  else moveRequiredSlot assertAuthority move

/-! ## Forward -/

/-- `prepare`, up to the creation of the directory. -/
def assertPreparable (operationId : String) : Check Content Unit := fun s =>
  throwIf (s.present operationId .staged .database = false ∨
    s.present operationId .staged .documents = false ∨
    s.parentPresent operationId .rollback ∨ (s.operations operationId).failed.isSome) .stateInvalid

/-- No activation is under way. -/
def assertAbsent : Check Content Unit := fun s => throwIf s.journal.isSome .busy

/-- The journal of a new operation. -/
def preparedJournal (operationId : String) (h : isOperationId operationId = true)
    (hadActive : ProfileSlot → Bool) : ProfileRestoreActivationJournal :=
  ⟨hadActive .database, hadActive .documents, operationId, .prepared, 0, h, Nat.zero_le _⟩

/-- Begins an activation. -/
def prepare (operationId : String) : ActivationProgram Content Unit :=
  if h : isOperationId operationId = true then do
    inspect assertAbsent
    inspect (assertPreparable operationId)
    let hadActive ← inspect fun s => .ok fun slot => (s.active slot).isSome
    inspect assertAbsent
    createPrivateDirectory (fun _ => .ok ()) (·.makeRollbackRoot operationId)
    inspect assertAbsent
    writeJournal none assertJournalMutation (preparedJournal operationId h hadActive)
  else throw .operationInvalid

/-- `moveCurrentDatabase` and `moveCurrentDocuments` -/
def moveCurrent (slot : ProfileSlot) (journal : ProfileRestoreActivationJournal) :
    ActivationProgram Content Unit :=
  moveOptionalSlot (assertJournalMutation journal) (journal.hadActive slot)
    (slotMove journal.operationId slot .active .rollback)

/-- `activateStagedDatabase` and `activateStagedDocuments` -/
def activateStaged (slot : ProfileSlot) (journal : ProfileRestoreActivationJournal) :
    ActivationProgram Content Unit := do
  moveRequiredSlot (assertJournalMutation journal)
    (slotMove journal.operationId slot .staged .active)
  inspect (assertJournalMutation journal)
  -- `chmod`
  attemptNothing .io

/-- A move with the phases before and after it. -/
structure ActivationStep (Content : Type) where
  completedPhase : ProfileRestoreActivationPhase
  intentPhase : ProfileRestoreActivationPhase
  move : ProfileRestoreActivationJournal → ActivationProgram Content Unit

/-- The four moves. -/
def steps : List (ActivationStep Content) :=
  [⟨.currentDatabaseMoved, .movingCurrentDatabase, moveCurrent .database⟩,
    ⟨.currentDocumentsMoved, .movingCurrentDocuments, moveCurrent .documents⟩,
    ⟨.stagedDatabaseActivated, .activatingStagedDatabase, activateStaged .database⟩,
    ⟨.stagedDocumentsActivated, .activatingStagedDocuments, activateStaged .documents⟩]

/-- The activation has reached a phase. -/
def isAtOrAfter (current expected : ProfileRestoreActivationPhase) : Bool :=
  match current.forwardIndex, expected.forwardIndex with
  | some current, some expected => expected ≤ current
  | _, _ => false

/-- The phase is written, unless the journal is in it. -/
def reachPhase (journal : ProfileRestoreActivationJournal)
    (phase : ProfileRestoreActivationPhase) :
    ActivationProgram Content ProfileRestoreActivationJournal :=
  if journal.phase ≠ phase then advanceJournal journal phase assertJournalMutation
  else pure journal

/-- One round of the loop over the steps. -/
def takeStep (journal : ProfileRestoreActivationJournal) (step : ActivationStep Content) :
    ActivationProgram Content ProfileRestoreActivationJournal :=
  if isAtOrAfter journal.phase step.completedPhase then pure journal
  else do
    let journal ← reachPhase journal step.intentPhase
    step.move journal
    advanceJournal journal step.completedPhase assertJournalMutation

/-- The journal that an expectation of the caller's agrees with. -/
def requireForwardJournal (expected : Option ProfileRestoreActivationJournal) :
    Check Content ProfileRestoreActivationJournal := fun s =>
  match expected with
  | none => readJournal none s
  | some expected => (readJournal (some expected) s).mapError fun _ => .recoveryRequired

/-- All moves, from where the journal stands. -/
def advanceToValidation (expected : Option ProfileRestoreActivationJournal) :
    ActivationProgram Content ProfileRestoreActivationJournal := do
  let journal ← inspect (requireForwardJournal expected)
  if journal.phase ∈ [ProfileRestoreActivationPhase.accepted, .rolledBack, .failedSafe] then
    pure journal
  else if journal.phase = .rollbackStarting then throw .rollbackRequired
  else do
    let journal ← steps.foldlM takeStep journal
    reachPhase journal .validationStarting

/-- `commitAcceptance`; the census of the directories that are cleaned up later changes
    nothing and is left out. -/
def commitAcceptance (expected : Option ProfileRestoreActivationJournal) :
    ActivationProgram Content ProfileRestoreActivationJournal := do
  let journal ← inspect (requireTerminalJournal expected)
  if journal.phase = .accepted then pure journal
  else if journal.phase ≠ .validationStarting then throw .acceptInvalid
  else do
    let _ ← inspect (readForwardRecoverySources journal)
    advanceJournal journal .accepted assertJournalMutation

/-! ## Back -/

/-- What is active and new is moved out of the way. -/
def setNewAside (assertAuthority : Check Content Unit) (operationId : String)
    (slot : ProfileSlot) : ActivationProgram Content Unit := do
  let s ← Program.get
  if !s.present operationId .active slot then pure ()
  else if s.present operationId .failedActive slot then throw .rollbackStateInvalid
  else moveRequiredSlot assertAuthority (slotMove operationId slot .active .failedActive)

/-- Moves the original part back. -/
def restoreSlot (assertAuthority : Check Content Unit) (operationId : String)
    (slot : ProfileSlot) : ActivationProgram Content Unit := do
  createPrivateDirectory assertAuthority (·.makeParent operationId .active)
  renamePath assertAuthority (·.renameSlot operationId slot .rollback .active)

/-- Moves the staged part away and the original back. -/
def rollbackSlot (assertAuthority : Check Content Unit) (operationId : String)
    (hadOriginal : Bool) (slot : ProfileSlot) : ActivationProgram Content Unit := do
  let s ← Program.get
  if !s.present operationId .rollback slot then
    if hadOriginal then
      if !s.present operationId .active slot then throw .rollbackStateInvalid else pure ()
    else if s.present operationId .active slot then
      moveRequiredSlot assertAuthority (slotMove operationId slot .active .failedActive)
    else pure ()
  else if !hadOriginal then throw .rollbackStateInvalid
  else do
    setNewAside assertAuthority operationId slot
    restoreSlot assertAuthority operationId slot

/-- The staging directory becomes a part of what has failed. -/
def moveStaging (assertAuthority : Check Content Unit) (operationId : String) :
    ActivationProgram Content Unit := do
  let s ← Program.get
  if s.parentPresent operationId .staged then do
    moveRequiredSlot assertAuthority (stagingMove operationId)
    inspect assertAuthority
  else pure ()

/-- Moves both parts back. -/
def restorePreviousProfile (journal : ProfileRestoreActivationJournal) :
    ActivationProgram Content Unit := do
  let operationId := journal.operationId
  createPrivateDirectory (assertRollbackMutation journal) (·.makeFailedRoot operationId)
  rollbackSlot (assertRollbackMutation journal) operationId (journal.hadActive .documents)
    .documents
  rollbackSlot (assertRollbackMutation journal) operationId (journal.hadActive .database)
    .database
  moveStaging (assertRollbackMutation journal) operationId

/-- A rollback begins where the forward phases are left. -/
def beginRollback (journal : ProfileRestoreActivationJournal) :
    ActivationProgram Content ProfileRestoreActivationJournal :=
  if journal.phase ≠ .rollbackStarting then do
    inspect (assertJournalMutation journal)
    let _ ← inspect (readForwardRecoverySources journal)
    advanceJournal journal .rollbackStarting assertJournalMutation
  else pure journal

/-- After an error the journal says that nothing more must be done. -/
def failSafe (journal : ProfileRestoreActivationJournal) : ActivationProgram Content Unit := do
  let _ ← advanceJournal journal .failedSafe assertJournalMutation
  pure ()

/-- The moves back, after which the journal is closed. -/
def finishRollback (journal : ProfileRestoreActivationJournal) :
    ActivationProgram Content ProfileRestoreActivationJournal :=
  Program.tryCatch
    (do
      restorePreviousProfile journal
      advanceJournal journal .rolledBack assertRollbackMutation)
    fun _ => do
      Program.ignoreError (failSafe journal)
      throw .rollbackFailed

/-- `rollback`, without a cold authority. -/
def rollback (expected : Option ProfileRestoreActivationJournal) :
    ActivationProgram Content ProfileRestoreActivationJournal := do
  let journal ← inspect (requireTerminalJournal expected)
  if journal.phase = .rolledBack then do
    inspect (assertRollbackMutation journal)
    pure journal
  else if journal.phase = .accepted ∨ journal.phase = .failedSafe then throw .rollbackInvalid
  else do
    let journal ← beginRollback journal
    inspect (assertRollbackMutation journal)
    finishRollback journal

end Profile

end ProfileRestoreActivation
