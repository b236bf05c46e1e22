import Eky.FirstStart

/-! # Rolling an update back

    `UpdateBusinessRollbackCoordinator` of `updateBusinessRollbackCoordinator.ts`
    restores the profile, and `UpdateBinaryRollbackCoordinator` of
    `updateBinaryRollbackCoordinator.ts` launches the old installer afterwards.  They
    share the journal, and nothing else survives the process.

    The journal store is an atomic one here, whose writes may take effect and still fail.
    What happened is recorded in a log that the coordinators do not read. -/

open FirstStartUpdateCoordinator (MigrationStartupInspection ProfileState)
open PreWorkspaceBuildAdmission

/-- What the log records. -/
inductive RollbackEvent
  /-- A validation of the active profile has reported this. -/
  | validated (healthy : Bool) (migrationChainIdentity : String)
  /-- A journal was stored. -/
  | wrote (journal : UpdateJournal)
  /-- The old installer was launched by a build, with this journal in the store. -/
  | launched (running : BuildVersion) (stored : Option UpdateJournal)

/-- The log begins with what happened last. -/
structure RollbackWorld where
  journal : Option UpdateJournal
  log : List RollbackEvent

/-- The world with an event more. -/
def RollbackWorld.logged (world : RollbackWorld) (event : RollbackEvent) : RollbackWorld :=
  { world with log := event :: world.log }

/-- The world after a write of the journal. -/
def RollbackWorld.wrote (world : RollbackWorld) (journal : UpdateJournal) : RollbackWorld :=
  ⟨some journal, .wrote journal :: world.log⟩

/-- The errors of a rollback. -/
inductive RollbackError
  | businessRollback
  | binaryRollback
  | rollbackPackageRequired
  | validation
  | conflict
  | dependency
  deriving DecidableEq

/-- A program over journal and log. -/
abbrev RollbackProgram (α : Type) : Type := Program RollbackWorld Fate RollbackError α

/-- The places at which the clock is read. -/
inductive RollbackClock
  | starting
  | completed
  | packageRequired
  | prepared
  | awaiting
  | registered
  | failure
  deriving DecidableEq

/-- `UpdateActiveProfileValidation`, in so far as it is looked at. -/
structure ActiveProfileValidation where
  healthy : Bool
  migrationChainIdentity : String

/-- The running build and what the dependencies answer in one operation, if they do. -/
structure RollbackEnvironment where
  releaseInfo : DesktopReleaseInfo
  now : RollbackClock → Instant
  validation : ActiveProfileValidation
  hasExpectedJournalPackage : Bool

namespace Rollback

/-! ## Dependencies -/

/-- A call that only answers. -/
def answer {α : Type} (value : α) : RollbackProgram α :=
  attempt .dependency fun world => .ok (value, world)

/-- The journal after a transition. -/
def transition (journal : UpdateJournal) (input : JournalTransition) :
    RollbackProgram UpdateJournal :=
  Program.ofExcept ((transitionUpdateJournal journal input).mapError fun _ => .validation)

/-- `read` and `readForLiveOwner` -/
def readJournal : RollbackProgram (Option UpdateJournal) :=
  attempt .dependency fun world => .ok (world.journal, world)

/-- What the store refuses: another update, an older revision, or, if the caller has
    selected a journal, another one in its place. -/
def refuses (stored selected : Option UpdateJournal) (journal : UpdateJournal) : Bool :=
  (stored.any fun current =>
    current.correlationId ≠ journal.correlationId || journal.revision < current.revision) ||
    (selected.isSome && stored ≠ selected)

/-- Writes the journal, if it is the selected one. -/
def writeJournal (selected : Option UpdateJournal) (journal : UpdateJournal) :
    RollbackProgram Unit :=
  attempt .dependency fun world =>
    if refuses world.journal selected journal then .error .conflict
    else .ok ((), world.wrote journal)

/-- `assertUpdateJournalAuthority`; a caller without an authority has none to lose. -/
def assertAuthority (authorized : Bool) : RollbackProgram Unit :=
  if authorized then attemptNothing .conflict else pure ()

/-- `assertSelectedJournal` -/
def assertSelection (authorized : Bool) (journal : Option UpdateJournal) : RollbackProgram Unit := do
  assertAuthority authorized
  let current ← readJournal
  assertAuthority authorized
  if current ≠ journal then throw .conflict

end Rollback

/-! ## The profile -/

namespace UpdateBusinessRollbackCoordinator

open Rollback

/-- What a start of the new build does. -/
inductive StartStatus
  | notRequired
  | relaunching
  | validationRequired
  deriving DecidableEq

section Coordinator

variable (environment : RollbackEnvironment)

/-- The new build runs. -/
def assertRunningTarget (journal : UpdateJournal) : Except RollbackError Unit :=
  if journalTarget journal ≠ environment.releaseInfo.toBuildVersion ∨
      journal.releaseChannel ≠ environment.releaseInfo.releaseChannel then
    .error .businessRollback
  else .ok ()

/-- Closes the journal. -/
def failSafe (authorized : Bool) (journal : UpdateJournal) : RollbackProgram Unit := do
  if journal.state ≠ .rollbackRequired ∧ journal.state ≠ .businessRollbackStarting then pure ()
  else do
    assertSelection authorized (some journal)
    let failed ← transition journal ⟨environment.now .failure, none, none, none, .failedSafe⟩
    writeJournal (some journal) failed

/-- The journal asks for a recovery. -/
def requireRecovery (authorized : Bool) (journal : UpdateJournal) : RollbackProgram Unit := do
  if journal.state ≠ .businessRollbackStarting ∧ journal.state ≠ .businessRollbackCompleted then
    pure ()
  else do
    assertSelection authorized (some journal)
    let recovery ← transition journal
      ⟨environment.now .failure, none, none, none, .recoveryRequired⟩
    writeJournal (some journal) recovery

/-- The `catch` of the operations: an error of the journal does not change what is
    thrown. -/
def failingWith {α : Type} (mark : RollbackProgram Unit) (m : RollbackProgram α) :
    RollbackProgram α :=
  tryCatch m fun _ => do
    Program.ignoreError mark
    throw .businessRollback

/-- `restoreRecoveryPoint`, which renews the selection on its way. -/
def restoreRecoveryPoint (authorized : Bool) (journal : UpdateJournal) :
    RollbackProgram StartStatus := do
  assertSelection authorized (some journal)
  answer .relaunching

/-- The journal that the restoration begins with. -/
def beginRollback (journal : UpdateJournal) : RollbackProgram UpdateJournal := do
  if journal.state = .businessRollbackStarting then pure journal
  else do
    let starting ← transition journal
      ⟨environment.now .starting, none, none, none, .businessRollbackStarting⟩
    writeJournal (some journal) starting
    pure starting

/-- `input` is the selected journal, if the caller has selected one or selected that there
    is none. -/
def readSelection (input : Option (Option UpdateJournal)) :
    RollbackProgram (Option UpdateJournal) :=
  match input with
  | some selected => pure selected
  | none => readJournal

/-- Begins a rollback of the data. -/
def startIfRequired (inspection : Option MigrationStartupInspection)
    (input : Option (Option UpdateJournal)) : RollbackProgram StartStatus := do
  let selected ← readSelection input
  assertSelection input.isSome selected
  match selected with
  | none => pure .notRequired
  | some journal =>
    if journal.state ≠ .rollbackRequired ∧ journal.state ≠ .businessRollbackStarting then
      pure .notRequired
    else do
      Program.ofExcept (assertRunningTarget environment journal)
      if journal.recoveryPointReference = none ∨ journal.preUpdateMigrationChainIdentity = none then do
        failSafe environment input.isSome journal
        throw .businessRollback
      let starting ← beginRollback environment journal
      assertSelection input.isSome (some starting)
      if inspection.any fun inspection => inspection.profileState = .existing &&
          some inspection.migrationChainIdentity = starting.preUpdateMigrationChainIdentity then
        pure .validationRequired
      else
        failingWith (failSafe environment input.isSome starting) do
          let status ← restoreRecoveryPoint input.isSome starting
          assertSelection input.isSome (some starting)
          pure status

/-- `validateActiveProfileForRollback`, which renews the selection on its way. -/
def validateActiveProfile (authorized : Bool) (journal : UpdateJournal) :
    RollbackProgram ActiveProfileValidation := do
  assertSelection authorized (some journal)
  answer ()
  Program.modify fun world => world.logged
    (.validated environment.validation.healthy environment.validation.migrationChainIdentity)
  pure environment.validation

/-- The profile is the one of before the update, and healthy. -/
def completeRollback (authorized : Bool) (inspection : MigrationStartupInspection)
    (journal : UpdateJournal) : RollbackProgram Unit := do
  assertSelection authorized (some journal)
  if journal.preUpdateMigrationChainIdentity = none ∨ inspection.profileState ≠ .existing ∨
      some inspection.migrationChainIdentity ≠ journal.preUpdateMigrationChainIdentity then
    throw .businessRollback
  let validation ← validateActiveProfile environment authorized journal
  assertSelection authorized (some journal)
  if !validation.healthy ∨
      some validation.migrationChainIdentity ≠ journal.preUpdateMigrationChainIdentity then
    throw .businessRollback
  if journal.state = .businessRollbackStarting then do
    let completed ← transition journal
      ⟨environment.now .completed, none, none, none, .businessRollbackCompleted⟩
    writeJournal (some journal) completed
  assertAuthority authorized

/-- The journal of an operation that goes on with a selected journal, or the stored one. -/
def selectedOrStored (selected : Option UpdateJournal) : RollbackProgram (Option UpdateJournal) :=
  match selected with
  | some journal => pure (some journal)
  | none => readJournal

/-- Ends a rollback of the data. -/
def completeAfterProfileValidation (inspection : MigrationStartupInspection)
    (selectedJournal : Option UpdateJournal) (authorized : Bool) : RollbackProgram Unit := do
  match ← selectedOrStored selectedJournal with
  | none => throw .businessRollback
  | some journal =>
    if journal.state ≠ .businessRollbackStarting ∧ journal.state ≠ .businessRollbackCompleted then
      throw .businessRollback
    Program.ofExcept (assertRunningTarget environment journal)
    failingWith (requireRecovery environment authorized journal)
      (completeRollback environment authorized inspection journal)

/-- The restore was rolled back: the journal asks for a recovery. -/
def requireRecoveryAfterRestoreRollback (selectedJournal : Option UpdateJournal)
    (authorized : Bool) : RollbackProgram Unit := do
  match ← selectedOrStored selectedJournal with
  | none => throw .businessRollback
  | some journal =>
    if journal.state ≠ .businessRollbackStarting then throw .businessRollback
    Program.ofExcept (assertRunningTarget environment journal)
    Program.ignoreError (requireRecovery environment authorized journal)
    throw .businessRollback

end Coordinator

end UpdateBusinessRollbackCoordinator

/-! ## The installer -/

namespace UpdateBinaryRollbackCoordinator

open Rollback

/-- Whether the old installer was launched. -/
inductive LaunchResult
  | launched
  | notRequired
  deriving DecidableEq

/-- Which build of the journal runs. -/
inductive RunningBuild
  | current
  | target
  deriving DecidableEq

section Coordinator

variable (environment : RollbackEnvironment)

/-- Which build of the journal runs, if either. -/
def classifyRunningBuild (journal : UpdateJournal) : Except RollbackError RunningBuild :=
  if journal.releaseChannel ≠ environment.releaseInfo.releaseChannel then .error .binaryRollback
  else if journalTarget journal = environment.releaseInfo.toBuildVersion then .ok .target
  else if journalCurrent journal = environment.releaseInfo.toBuildVersion then .ok .current
  else .error .binaryRollback

/-- The new build runs. -/
def assertRunningFailedTarget (journal : UpdateJournal) : RollbackProgram Unit := do
  if (← Program.ofExcept (classifyRunningBuild environment journal)) ≠ .target then
    throw .binaryRollback

/-- The transition is computed before anything is written; an error of the store is left
    aside. -/
def mark (journal : UpdateJournal) (state : UpdateJournalState) : RollbackProgram Unit := do
  let marked ← transition journal ⟨environment.now .failure, none, none, none, state⟩
  Program.ignoreError (writeJournal none marked)

/-- Closes the journal. -/
def failSafe (journal : UpdateJournal) : RollbackProgram Unit :=
  if journal.state ≠ .businessRollbackCompleted ∧ journal.state ≠ .binaryRollbackPrepared ∧
      journal.state ≠ .awaitingRollbackFirstStart then
    pure ()
  else mark environment journal .failedSafe

/-- The journal asks for a recovery. -/
def requireRecovery (journal : UpdateJournal) : RollbackProgram Unit :=
  mark environment journal .recoveryRequired

/-- `launchInstaller`, which is on record from its call on. -/
def launchInstaller : RollbackProgram Unit := do
  Program.modify fun world =>
    world.logged (.launched environment.releaseInfo.toBuildVersion world.journal)
  answer ()

/-- What fails with the journal as it is at the time. -/
def failingSafe {α : Type} (journal : UpdateJournal) (m : RollbackProgram α) : RollbackProgram α :=
  tryCatch m fun _ => do
    failSafe environment journal
    throw .binaryRollback

/-- From the packages to the launch. -/
def launchRollback (journal : UpdateJournal) : RollbackProgram LaunchResult := do
  let prepared ← failingSafe environment journal do
    -- `normalizeRolledBackPackages` and `revalidateJournalPackage`
    answer ()
    answer ()
    transition journal ⟨environment.now .prepared, some 1, none, none, .binaryRollbackPrepared⟩
  let awaiting ← failingSafe environment prepared do
    writeJournal none prepared
    transition prepared ⟨environment.now .awaiting, none, none, none, .awaitingRollbackFirstStart⟩
  failingSafe environment awaiting do
    writeJournal none awaiting
    launchInstaller environment
  pure .launched

/-- Launches the old installer, where the journal asks for it. -/
def startIfRequired : RollbackProgram LaunchResult := do
  match ← readJournal with
  | none => pure .notRequired
  | some journal =>
    if journal.state = .binaryRollbackPrepared ∨ journal.state = .awaitingRollbackFirstStart then do
      if (← Program.ofExcept (classifyRunningBuild environment journal)) = .current then
        pure .notRequired
      else do
        requireRecovery environment journal
        throw .binaryRollback
    else if journal.state ≠ .businessRollbackCompleted then pure .notRequired
    else do
      assertRunningFailedTarget environment journal
      if !(← answer environment.hasExpectedJournalPackage) then do
        let packageRequired ← transition journal
          ⟨environment.now .packageRequired, none, none, none, .rollbackPackageRequired⟩
        writeJournal none packageRequired
        throw .rollbackPackageRequired
      launchRollback environment journal

/-- Launches it where the user asks for it. -/
def registerAndStartManualRollback : RollbackProgram LaunchResult := do
  match ← readJournal with
  | none => throw .binaryRollback
  | some journal =>
    if journal.state ≠ .rollbackPackageRequired then throw .binaryRollback
    assertRunningFailedTarget environment journal
    -- `registerExactRollbackPackage`
    answer ()
    let registered ← transition journal
      ⟨environment.now .registered, none, none, none, .businessRollbackCompleted⟩
    writeJournal none registered
    match ← startIfRequired environment with
    | .launched => pure .launched
    | .notRequired => throw .binaryRollback

end Coordinator

end UpdateBinaryRollbackCoordinator
