import Eky.BuildAdmission
import Eky.PackageCache

/-! # The first start after an update

    `FirstStartUpdateCoordinator` of `firstStartUpdateCoordinator.ts`, with the
    migration authority `update`.  `beforeMigrations` decides what kind of start this
    is, and `acceptAfterBackendReady` records its outcome; whatever fails on the way
    is recorded as well.

    A process that starts has a coordinator of its own, so that its fields are the
    `StartGate` that the first method hands to the second.  What outlives the process
    are the `InstallationRecords`. -/

namespace FirstStartUpdateCoordinator

open PreWorkspaceBuildAdmission

/-- The records of the installation and the package cache. -/
structure InstallationRecords where
  journal : Option UpdateJournal
  acceptedBuild : Option VersionedAcceptedBuildMetadata
  directSetupRecovery : Option DirectSetupMigrationRecovery
  cache : PackageCache

/-- The errors of a start. -/
inductive StartError
  | firstStart
  | validation
  | dependency
  | conflict
  deriving DecidableEq

/-- A program over the records of the installation. -/
abbrev StartProgram (α : Type) : Type := Program InstallationRecords Fate StartError α

/-- Whether the profile has been used. -/
inductive ProfileState
  | empty
  | existing
  deriving DecidableEq

/-- What is known of the migrations before they run. -/
structure MigrationStartupInspection where
  appliedMigrationCount : Nat
  migrationChainIdentity : String
  pendingMigrationCount : Nat
  profileState : ProfileState
  deriving DecidableEq

/-- The places at which the clock is read. -/
inductive ClockReading
  | directSetupPrepared
  | directSetupRunning
  | validating
  | acceptedBuild
  | accepted
  | failure
  deriving DecidableEq

/-- What the dependencies answer in one start, if they do. -/
structure StartEnvironment where
  releaseInfo : DesktopReleaseInfo
  buildInfo : DesktopBuildInfo
  createExpectedProductCode : String → String
  secretStorageIdentity : Option String
  secretStorageIdentityWhenReady : Option String
  preMigrationPointReference : String
  activeMigrationChainIdentity : String
  operationId : String
  clock : ClockReading → Instant

/-- What kind of start it is. -/
inductive FirstStartMode
  | coordinated (journal : UpdateJournal) (rotated : Bool)
  | installerNotApplied (journal : UpdateJournal)
  | rollback (journal : UpdateJournal)
  | directSetup (recovery : Option DirectSetupMigrationRecovery)
  | initialInstall
  | normal

/-- What the coordinator remembers when the migrations may run. -/
structure StartGate where
  mode : FirstStartMode
  acceptedMetadata : Option VersionedAcceptedBuildMetadata
  secretStorageIdentity : Option String
  preMigrationPointReference : Option String

/-! ## Dependencies -/

/-- A call that only answers. -/
def answer {α : Type} (value : α) : StartProgram α :=
  attempt .dependency fun s => .ok (value, s)

/-- The journal after a transition. -/
def transitionJournal (journal : UpdateJournal) (input : JournalTransition) :
    StartProgram UpdateJournal :=
  Program.ofExcept ((transitionUpdateJournal journal input).mapError fun _ => .validation)

/-- The recovery record after a transition. -/
def transitionRecovery (recovery : DirectSetupMigrationRecovery) (time : Instant)
    (attemptCount : Option Nat) (state : DirectSetupMigrationRecoveryState) :
    StartProgram DirectSetupMigrationRecovery :=
  Program.ofExcept
    ((transitionDirectSetupMigrationRecovery recovery time attemptCount state).mapError
      fun _ => .validation)

/-- Each record is replaced at once; a journal does not fall behind the one in place. -/
def writeJournal (journal : UpdateJournal) : StartProgram Unit :=
  attempt .dependency fun s =>
    if s.journal.any fun current => current.correlationId ≠ journal.correlationId ||
        journal.revision < current.revision then .error .conflict
    else .ok ((), { s with journal := some journal })

/-- Format 1 does not replace format 2. -/
def writeAcceptedBuild (metadata : VersionedAcceptedBuildMetadata) : StartProgram Unit :=
  attempt .dependency fun s =>
    match metadata, s.acceptedBuild with
    | .format1 _, some (.format2 _) => .error .conflict
    | _, _ => .ok ((), { s with acceptedBuild := some metadata })

/-- Writes the recovery record, if the step is allowed. -/
def writeDirectSetupRecovery (recovery : DirectSetupMigrationRecovery) : StartProgram Unit :=
  attempt .dependency fun s =>
    if s.directSetupRecovery.any fun current => current.correlationId ≠ recovery.correlationId ||
        recovery.revision < current.revision then .error .conflict
    else .ok ((), { s with directSetupRecovery := some recovery })

/-- Clears the recovery record. -/
def clearDirectSetupRecovery : StartProgram Unit :=
  attempt .dependency fun s => .ok ((), { s with directSetupRecovery := none })

/-- An operation of the package cache. -/
def onCache {α : Type} (m : CacheProgram α) : StartProgram α :=
  Program.zoom InstallationRecords.cache (fun cache s => { s with cache := cache })
    (Program.mapError (fun _ => .dependency) m)

section Coordinator

variable (environment : StartEnvironment)

/-- The package cache checks a package of the journal. -/
def revalidateJournalPackage (expected : ExpectedPackageIdentity) (role : CacheSlotRole) :
    StartProgram Unit :=
  onCache (PackageCache.revalidateJournalPackage environment.releaseInfo
    environment.createExpectedProductCode expected role)

/-- The package of the old build. -/
def currentIdentity (journal : UpdateJournal) : ExpectedPackageIdentity :=
  toExpectedIdentity journal.currentVersion journal.currentPackageIdentity

/-- The package of the new build. -/
def candidateIdentity (journal : UpdateJournal) : ExpectedPackageIdentity :=
  toExpectedIdentity journal.targetVersion journal.candidatePackageIdentity

/-! ## What is recorded of a failure -/

/-- The transition is computed before anything is written, and if the table does not
    have it, its error is the one that is thrown. -/
def mark (journal : UpdateJournal) (state : UpdateJournalState) : StartProgram Unit := do
  let marked ← transitionJournal journal ⟨environment.clock .failure, none, none, none, state⟩
  Program.ignoreError (writeJournal marked)

/-- The journal asks for a rollback. -/
def markRollbackRequired (journal : UpdateJournal) : StartProgram Unit :=
  if journal.state ≠ .awaitingFirstStart ∧ journal.state ≠ .firstStartValidating then pure ()
  else mark environment journal .rollbackRequired

/-- The installer was not applied: the journal is closed. -/
def markInstallerNotAppliedFailedSafe (journal : UpdateJournal) : StartProgram Unit :=
  if journal.state = .failedSafe ∨ journal.state = .installerNotApplied then pure ()
  else mark environment journal .failedSafe

/-- The rollback failed: the journal asks for a recovery. -/
def markRollbackRecoveryRequired (journal : UpdateJournal) : StartProgram Unit :=
  if journal.state = .recoveryRequired ∨ journal.state = .rolledBack then pure ()
  else mark environment journal .recoveryRequired

/-- The record asks for a recovery. -/
def markDirectSetupRecoveryRequired (recovery : Option DirectSetupMigrationRecovery) :
    StartProgram Unit :=
  match recovery with
  | none => pure ()
  | some recovery =>
    if recovery.state = .accepted ∨ recovery.state = .failedSafe ∨
        recovery.state = .recoveryRequired then pure ()
    else do
      let marked ← transitionRecovery recovery (environment.clock .failure) none .recoveryRequired
      Program.ignoreError (writeDirectSetupRecovery marked)

/-- The `catch` of the two methods. -/
def guarded {α : Type} (marks : StartProgram Unit) (m : StartProgram α) : StartProgram α :=
  tryCatch m fun _ => do
    marks
    throw .firstStart

/-! ## Before the migrations -/

/-- Which build of the journal runs. -/
inductive RunningJournalBuild
  | current
  | target
  deriving DecidableEq

/-- Which build of the journal runs, if either. -/
def classifyRunningJournalBuild (journal : UpdateJournal) : Except StartError RunningJournalBuild :=
  let running := environment.releaseInfo.toBuildVersion
  if running = journalTarget journal then .ok .target
  else if running = journalCurrent journal then .ok .current
  else .error .firstStart

/-- The accepted application build, if there is one, is this one. -/
def accepts (acceptedBuild : Option AcceptedBuildMetadata) (build : BuildVersion) : Bool :=
  acceptedBuild.map AcceptedBuildMetadata.toBuildVersion = some build

/-- The profile is as it was before the update. -/
def profileUnchanged (inspection : MigrationStartupInspection) (journal : UpdateJournal) : Bool :=
  inspection.profileState = .existing && inspection.pendingMigrationCount = 0 &&
    some inspection.migrationChainIdentity = journal.preUpdateMigrationChainIdentity

/-- A start of the old build after an installer that did nothing. -/
def prepareInstallerNotApplied (acceptedBuild : Option AcceptedBuildMetadata)
    (inspection : MigrationStartupInspection) (journal : UpdateJournal) :
    StartProgram FirstStartMode := do
  if (journal.state ≠ .awaitingFirstStart ∧ journal.state ≠ .failed) ∨
      journal.handoffAttemptCount ≠ 1 ∨ journal.recoveryPointReference = none ∨
      !accepts acceptedBuild (journalCurrent journal) ∨ !profileUnchanged inspection journal then
    throw .firstStart
  revalidateJournalPackage environment (currentIdentity journal) .current
  pure (.installerNotApplied journal)

/-- A start of the old build after a rollback. -/
def prepareRollbackFirstStart (acceptedBuild : Option AcceptedBuildMetadata)
    (inspection : MigrationStartupInspection) (journal : UpdateJournal) :
    StartProgram FirstStartMode := do
  if journal.state ≠ .awaitingRollbackFirstStart ∨ journal.handoffAttemptCount ≠ 1 ∨
      journal.binaryRollbackAttemptCount ≠ 1 ∨ journal.recoveryPointReference = none ∨
      (!accepts acceptedBuild (journalCurrent journal) ∧
        !accepts acceptedBuild (journalTarget journal)) ∨
      !profileUnchanged inspection journal then
    throw .firstStart
  onCache (PackageCache.normalizeRolledBackPackages environment.releaseInfo
    environment.createExpectedProductCode (candidateIdentity journal) (currentIdentity journal))
  pure (.rollback journal)

/-- The cache holds the target as the current package and the old one as the previous. -/
def assertAcceptedRotation (journal : UpdateJournal) : StartProgram Unit := do
  revalidateJournalPackage environment (candidateIdentity journal) .current
  revalidateJournalPackage environment (currentIdentity journal) .previous

/-- Whether the packages were already rotated. -/
def findRotation (journal : UpdateJournal) : StartProgram Bool :=
  tryCatch
    (do
      revalidateJournalPackage environment (currentIdentity journal) .current
      revalidateJournalPackage environment (candidateIdentity journal) .candidate
      pure false)
    fun _ => do
      assertAcceptedRotation environment journal
      pure true

/-- The first start of the new build. -/
def prepareCoordinatedFirstStart (journal : UpdateJournal) : StartProgram FirstStartMode := do
  if (journal.state ≠ .awaitingFirstStart ∧ journal.state ≠ .firstStartValidating) ∨
      journalTarget journal ≠ environment.releaseInfo.toBuildVersion ∨
      journal.releaseChannel ≠ environment.releaseInfo.releaseChannel ∨
      journal.recoveryPointReference = none then
    throw .firstStart
  let rotated ← findRotation environment journal
  if journal.state = .firstStartValidating then pure (.coordinated journal rotated)
  else do
    let validatingJournal ← transitionJournal journal
      ⟨environment.clock .validating, none, none, none, .firstStartValidating⟩
    writeJournal validatingJournal
    pure (.coordinated validatingJournal rotated)

/-- A start without journal and record. -/
def resolveDirectSetupMode (acceptedBuild : Option AcceptedBuildMetadata) :
    Except StartError FirstStartMode :=
  match acceptedBuild with
  | none => .ok .initialInstall
  | some acceptedBuild =>
    if acceptedBuild.toBuildVersion = environment.releaseInfo.toBuildVersion then .ok .normal
    else if compareSemanticVersions environment.releaseInfo.appVersion acceptedBuild.appVersion
        environment.releaseInfo.versionValid acceptedBuild.versionValid ≠ .gt then
      .error .firstStart
    else .ok (.directSetup none)

/-- The record is about the accepted build and the running one. -/
def assertDirectSetupRecoveryIdentity (recovery : DirectSetupMigrationRecovery)
    (acceptedBuild : Option AcceptedBuildMetadata) (allowAcceptedTarget : Bool) :
    Except StartError Unit :=
  if (!accepts acceptedBuild recovery.previousAcceptedBuildIdentity &&
      !(allowAcceptedTarget && accepts acceptedBuild recovery.runningTargetBuildIdentity)) ||
      recovery.runningTargetBuildIdentity ≠ environment.releaseInfo.toBuildVersion then
    .error .firstStart
  else .ok ()

/-- A start with a record. -/
def resumeDirectSetupRecovery (recovery : DirectSetupMigrationRecovery)
    (acceptedBuild : Option AcceptedBuildMetadata) (inspection : MigrationStartupInspection) :
    StartProgram DirectSetupMigrationRecovery := do
  Program.ofExcept (assertDirectSetupRecoveryIdentity environment recovery acceptedBuild false)
  if (recovery.state ≠ .prepared ∧ recovery.state ≠ .migrationRunning) ∨
      inspection.profileState ≠ .existing ∨
      inspection.appliedMigrationCount ≠ recovery.appliedMigrationCount ∨
      inspection.migrationChainIdentity ≠ recovery.migrationPrefixIdentity ∨
      inspection.pendingMigrationCount = 0 then
    throw .firstStart
  let running ← transitionRecovery recovery (environment.clock .directSetupRunning)
    (some (recovery.attemptCount + 1)) .migrationRunning
  writeDirectSetupRecovery running
  pure running

/-- The recovery point comes before the first migration, and the record before both. -/
def startDirectSetup (acceptedBuild : AcceptedBuildMetadata)
    (inspection : MigrationStartupInspection) :
    StartProgram (FirstStartMode × Option String) := do
  let recoveryPointReference ← answer environment.preMigrationPointReference
  let prepared ← Program.ofExcept
    ((parseDirectSetupMigrationRecovery
      { appliedMigrationCount := inspection.appliedMigrationCount
        attemptCount := 1
        correlationId := environment.operationId
        createdAt := environment.clock .directSetupPrepared
        migrationPrefixIdentity := inspection.migrationChainIdentity
        previousAcceptedBuildIdentity := acceptedBuild.toBuildVersion
        recoveryPointReference := recoveryPointReference
        revision := 1
        runningTargetBuildIdentity := environment.releaseInfo.toBuildVersion
        state := .prepared
        updatedAt := environment.clock .directSetupPrepared }).mapError fun _ => .validation)
  writeDirectSetupRecovery prepared
  let running ← transitionRecovery prepared (environment.clock .directSetupRunning) none
    .migrationRunning
  writeDirectSetupRecovery running
  pure (.directSetup (some running), some recoveryPointReference)

/-- A start without journal. -/
def prepareUncoordinatedFirstStart (acceptedBuild : Option AcceptedBuildMetadata)
    (directSetupRecovery : Option DirectSetupMigrationRecovery)
    (inspection : MigrationStartupInspection) :
    StartProgram (FirstStartMode × Option String) := do
  match directSetupRecovery with
  | some recovery =>
    if recovery.state = .accepted then do
      Program.ofExcept (assertDirectSetupRecoveryIdentity environment recovery acceptedBuild true)
      if inspection.pendingMigrationCount ≠ 0 then throw .firstStart
      pure (.directSetup (some recovery), some recovery.recoveryPointReference)
    else do
      match ← Program.ofExcept (resolveDirectSetupMode environment acceptedBuild) with
      | .directSetup _ => do
        let running ← resumeDirectSetupRecovery environment recovery acceptedBuild inspection
        pure (.directSetup (some running), some recovery.recoveryPointReference)
      | _ => throw .firstStart
  | none =>
    match ← Program.ofExcept (resolveDirectSetupMode environment acceptedBuild), acceptedBuild with
    | .directSetup recovery, some acceptedBuild =>
      if inspection.profileState ≠ .existing ∨ inspection.pendingMigrationCount = 0 then
        pure (.directSetup recovery, none)
      else startDirectSetup environment acceptedBuild inspection
    | mode, _ => pure (mode, none)

/-- The mode of a start with an update that is not over. -/
def prepareJournalStart (acceptedBuild : Option AcceptedBuildMetadata)
    (inspection : MigrationStartupInspection) (journal : UpdateJournal) :
    StartProgram FirstStartMode := do
  match ← Program.ofExcept (classifyRunningJournalBuild environment journal) with
  | .target => prepareCoordinatedFirstStart environment journal
  | .current =>
    if journal.state = .awaitingRollbackFirstStart then
      prepareRollbackFirstStart environment acceptedBuild inspection journal
    else prepareInstallerNotApplied environment acceptedBuild inspection journal

/-- What is recorded when such a start fails. -/
def journalMarks (journal : UpdateJournal) : StartProgram Unit :=
  match classifyRunningJournalBuild environment journal with
  | .ok .target => markRollbackRequired environment journal
  | .ok .current =>
    if journal.state = .awaitingRollbackFirstStart then
      markRollbackRecoveryRequired environment journal
    else markInstallerNotAppliedFailedSafe environment journal
  | .error _ => markInstallerNotAppliedFailedSafe environment journal

/-- The checks that come before the kind of start is known. -/
def checkStart (journal : Option UpdateJournal)
    (acceptedMetadata : Option VersionedAcceptedBuildMetadata)
    (directSetupRecovery : Option DirectSetupMigrationRecovery) :
    StartProgram (Option String) := do
  if environment.buildInfo.buildDirty ∨
      environment.buildInfo.buildRevision ≠ environment.releaseInfo.buildRevision then
    throw .firstStart
  let secretStorageIdentity ← answer environment.secretStorageIdentity
  if directSetupRecovery.isSome ∧ (activeJournal journal).isSome then throw .firstStart
  if acceptedMetadata.any (fun metadata => decide metadata.IsSelector) then throw .firstStart
  pure secretStorageIdentity

/-- The part of `beforeMigrations` from the kind of start on. -/
def openGate (inspection : MigrationStartupInspection) (journal : Option UpdateJournal)
    (acceptedMetadata : Option VersionedAcceptedBuildMetadata)
    (directSetupRecovery : Option DirectSetupMigrationRecovery) :
    StartProgram (FirstStartMode × Option String) := do
  let acceptedBuild := acceptedMetadata.map VersionedAcceptedBuildMetadata.readAcceptedApplicationBuild
  match activeJournal journal with
  | some active => do
    let mode ← prepareJournalStart environment acceptedBuild inspection active
    match mode with
    | .coordinated _ _ =>
      if inspection.profileState = .existing ∧ 0 < inspection.pendingMigrationCount then do
        let reference ← answer environment.preMigrationPointReference
        pure (mode, some reference)
      else pure (mode, none)
    | _ => pure (mode, none)
  | none => do
    if !journalAgrees journal acceptedBuild then throw .firstStart
    let opened ← prepareUncoordinatedFirstStart environment acceptedBuild directSetupRecovery
      inspection
    match opened.1 with
    | .normal =>
      if 0 < inspection.pendingMigrationCount then throw .firstStart
      else pure opened
    | _ => pure opened

/-- What is recorded when the gate stays closed. -/
def gateMarks (journal : Option UpdateJournal)
    (directSetupRecovery : Option DirectSetupMigrationRecovery) : StartProgram Unit :=
  match activeJournal journal with
  | some active => journalMarks environment active
  | none => markDirectSetupRecoveryRequired environment directSetupRecovery

/-- The three records. -/
def readRecords : StartProgram (Option UpdateJournal × Option VersionedAcceptedBuildMetadata ×
    Option DirectSetupMigrationRecovery) := do
  let journal ← attempt .dependency fun s => .ok (s.journal, s)
  let acceptedMetadata ← attempt .dependency fun s => .ok (s.acceptedBuild, s)
  let directSetupRecovery ← attempt .dependency fun s => .ok (s.directSetupRecovery, s)
  pure (journal, acceptedMetadata, directSetupRecovery)

/-- What is decided before the migrations run. -/
def beforeMigrations (inspection : MigrationStartupInspection) : StartProgram StartGate := do
  let (journal, acceptedMetadata, directSetupRecovery) ← guarded (pure ()) readRecords
  let secretStorageIdentity ← guarded (markDirectSetupRecoveryRequired environment directSetupRecovery)
    (checkStart environment journal acceptedMetadata directSetupRecovery)
  let (mode, preMigrationPointReference) ← guarded
    (gateMarks environment journal directSetupRecovery)
    (openGate environment inspection journal acceptedMetadata directSetupRecovery)
  pure ⟨mode, acceptedMetadata, secretStorageIdentity, preMigrationPointReference⟩

/-! ## After the backend is ready -/

/-- The accepted-build metadata that this build publishes. -/
def published (acceptedMetadata : Option VersionedAcceptedBuildMetadata) :
    VersionedAcceptedBuildMetadata :=
  VersionedAcceptedBuildMetadata.createBusinessAcceptedBuildMetadata acceptedMetadata
    { environment.releaseInfo.toBuildVersion with
      acceptedAt := environment.clock .acceptedBuild
      releaseChannel := .pilot
      versionValid := environment.releaseInfo.versionValid
      revisionValid := environment.releaseInfo.revisionValid }

/-- The profile and the secret storage are those that the start began with. -/
def validateStart (gate : StartGate) : StartProgram Unit := do
  let migrationChainIdentity ← answer environment.activeMigrationChainIdentity
  match gate.mode with
  | .installerNotApplied journal =>
    if some migrationChainIdentity ≠ journal.preUpdateMigrationChainIdentity then throw .firstStart
  | .rollback journal =>
    if some migrationChainIdentity ≠ journal.preUpdateMigrationChainIdentity then throw .firstStart
  | _ => pure ()
  let secretStorageIdentity ← answer environment.secretStorageIdentityWhenReady
  if secretStorageIdentity ≠ gate.secretStorageIdentity then throw .firstStart

/-- The journal is accepted, over the states in between. -/
def acceptJournal (journal : UpdateJournal) (state : UpdateJournalState) : StartProgram Unit := do
  let accepted ← transitionJournal journal
    ⟨environment.clock .accepted, none, none, none, state⟩
  writeJournal accepted

/-- The recovery record is accepted before the build is, and cleared afterwards. -/
def acceptDirectSetup (recovery : DirectSetupMigrationRecovery) (gate : StartGate) :
    StartProgram Unit := do
  if recovery.state ≠ .accepted then do
    let accepted ← transitionRecovery recovery (environment.clock .accepted) none .accepted
    writeDirectSetupRecovery accepted
  writeAcceptedBuild (published environment gate.acceptedMetadata)
  clearDirectSetupRecovery

/-- What is accepted once the backend is ready. -/
def acceptMode (gate : StartGate) : StartProgram Unit := do
  validateStart environment gate
  match gate.mode with
  | .coordinated journal rotated => do
    if !rotated then
      onCache (PackageCache.promoteAcceptedCandidate environment.releaseInfo
        environment.createExpectedProductCode (candidateIdentity journal) (currentIdentity journal))
    assertAcceptedRotation environment journal
    writeAcceptedBuild (published environment gate.acceptedMetadata)
    acceptJournal environment journal .accepted
  | .installerNotApplied journal => acceptJournal environment journal .installerNotApplied
  | .rollback journal => do
    writeAcceptedBuild (published environment gate.acceptedMetadata)
    acceptJournal environment journal .rolledBack
  | .directSetup (some recovery) => acceptDirectSetup environment recovery gate
  | _ => writeAcceptedBuild (published environment gate.acceptedMetadata)

/-- What is recorded when the start is not accepted. -/
def modeMarks (mode : FirstStartMode) : StartProgram Unit :=
  match mode with
  | .coordinated journal _ => markRollbackRequired environment journal
  | .installerNotApplied journal => markInstallerNotAppliedFailedSafe environment journal
  | .rollback journal => markRollbackRecoveryRequired environment journal
  | .directSetup recovery => markDirectSetupRecoveryRequired environment recovery
  | _ => pure ()

/-- The points that are no longer needed; an error is left to a later cleanup. -/
def releaseProtectedPoints : List String → StartProgram Unit
  | [] => pure ()
  | _ :: references => do
    Program.ignoreError (answer ())
    releaseProtectedPoints references

/-- The recovery point of a journal. -/
def requireRecoveryPointReference (journal : UpdateJournal) : Except StartError String :=
  match journal.recoveryPointReference with
  | some reference => .ok reference
  | none => .error .firstStart

/-- The recovery point need not be kept any longer. -/
def releaseRecoveryPointProtectionAfterAcceptance (gate : StartGate) : StartProgram Unit := do
  let ofJournal ← match gate.mode with
    | .coordinated journal _ | .installerNotApplied journal | .rollback journal => do
      let reference ← Program.ofExcept (requireRecoveryPointReference journal)
      pure [reference]
    | _ => pure []
  releaseProtectedPoints (ofJournal ++ gate.preMigrationPointReference.toList)

/-- The end of a start. -/
def acceptAfterBackendReady (gate : StartGate) : StartProgram Unit :=
  match gate.mode with
  | .normal => pure ()
  | _ => do
    guarded (modeMarks environment gate.mode) (acceptMode environment gate)
    releaseRecoveryPointProtectionAfterAcceptance gate

/-- One start of a build, up to the acceptance. -/
def start (inspection : MigrationStartupInspection) : StartProgram Unit := do
  let gate ← beforeMigrations environment inspection
  acceptAfterBackendReady environment gate

end Coordinator

end FirstStartUpdateCoordinator
