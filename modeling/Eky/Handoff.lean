import Eky.PackageCache

/-! # Handing an update over to its installer

    `LocalUpdateHandoffCoordinator` of `localUpdateHandoffCoordinator.ts`: a lease is
    acquired, a journal is written, a recovery point is made, and later the runtime is
    stopped and the installer launched; whatever fails, the preparation is aborted as
    far as that is safe.

    The journal store is an atomic one here, whose writes may take effect and still
    reject; before each call somebody else may change the journal.  What the dependencies
    have been called for is recorded in a log that the coordinator does not read. -/

namespace LocalUpdateHandoffCoordinator

/-! ## The coordinator -/

/-- Where the owner of an update stands. -/
inductive OwnerPhase
  | preparing
  | ready
  | handoff
  | failed
  deriving DecidableEq

/-- The lease itself is left out. -/
structure PreparedUpdateOwner where
  operationId : String
  phase : OwnerPhase
  journal : Option UpdateJournal
  journalUncertain : Bool
  validationUncertain : Bool
  fenceRequested : Bool
  stopStarted : Bool

/-- The fields of the class. -/
structure Coordinator where
  activeOperation : Bool
  owner : Option PreparedUpdateOwner

/-- `LocalUpdateHandoffErrorCode` -/
inductive HandoffErrorCode
  | handoffFailed
  | preparationJournalFailed
  | preparationMaintenanceFailed
  | preparationPackageFailed
  | preparationProfileFailed
  | preparationRecoveryPointFailed
  deriving DecidableEq

/-- The stages of the validation of the active profile. -/
inductive ValidationStage
  | preparation
  | handoff
  deriving DecidableEq

/-! ## What the dependencies see -/

/-- The calls since the lease was acquired. -/
structure LeaseLog where
  operationId : String
  /-- The last write that resolved. -/
  written : Option UpdateJournal
  /-- A write or a clearance was begun that did not resolve. -/
  writePending : Bool
  /-- What was written last has been read since. -/
  readBack : Bool
  validatedPoints : List String
  handoffChain : Option String
  shutdownCalled : Bool
  shutdownResolved : Bool
  maintenanceBegun : Bool
  maintenanceEnded : Bool

/-- The log of a lease that has just been taken. -/
def LeaseLog.acquired (operationId : String) : LeaseLog :=
  ⟨operationId, none, false, false, [], none, false, false, false, false⟩

/-- The store and the log at the time of a call. -/
structure Snapshot where
  stored : Option UpdateJournal
  changedByOther : Bool
  lease : LeaseLog

/-- What has happened so far. -/
structure HandoffLog where
  lease : LeaseLog
  launches : List Snapshot
  releases : List Snapshot

/-- `changedByOther`: since the owner last wrote the journal, or last read what it had
    written. -/
structure HandoffWorld where
  journal : Option UpdateJournal
  changedByOther : Bool
  coordinator : Coordinator
  log : HandoffLog

namespace HandoffWorld

/-- The world after a change of the lease's log. -/
def modifyLease (world : HandoffWorld) (f : LeaseLog → LeaseLog) : HandoffWorld :=
  { world with log := { world.log with lease := f world.log.lease } }

/-- What stands when the installer is launched. -/
def snapshot (world : HandoffWorld) : Snapshot :=
  ⟨world.journal, world.changedByOther, world.log.lease⟩

/-- Somebody else has changed the journal. -/
def changed (world : HandoffWorld) (journal : Option UpdateJournal) : HandoffWorld :=
  { world with journal := journal, changedByOther := true }

end HandoffWorld

/-- What becomes of one call: what somebody else does before it, how it ends, and
    whether a call that fails took effect. -/
structure HandoffFate where
  change : Option (Option UpdateJournal)
  ending : Ending
  takesEffect : Bool

instance : Inhabited HandoffFate := ⟨⟨none, .completes, true⟩⟩

/-- The world when the call is made. -/
def HandoffFate.meet (fate : HandoffFate) (world : HandoffWorld) : HandoffWorld :=
  match fate.change with
  | some journal => world.changed journal
  | none => world

/-- A program over the world of the handoff. -/
abbrev HandoffProgram (α : Type) : Type :=
  Program HandoffWorld HandoffFate HandoffErrorCode α

/-- The places at which the clock is read. -/
inductive HandoffClock
  | prepared
  | recoveryPointValidated
  | runtimeStopping
  | awaitingFirstStart
  | failed
  deriving DecidableEq

/-- What the dependencies answer in one operation, if they do. -/
structure HandoffEnvironment where
  operationId : String
  currentIdentity : ExpectedPackageIdentity
  candidateIdentity : ExpectedPackageIdentity
  migrationChainIdentity : ValidationStage → String
  confirmsCleanup : ValidationStage → Bool
  recoveryPointReference : String
  cleanupUnverified : Bool
  now : HandoffClock → Instant

/-! ## Calls -/

/-- A call that `act` describes: with the fate and the world at the time, the answer and
    the world afterwards. -/
def call {α : Type} (act : HandoffFate → HandoffWorld → α × HandoffWorld) : HandoffProgram α :=
  Program.effect fun fate world =>
    let (answer, after) := act fate (fate.meet world)
    match fate.ending with
    | .completes => (.returned answer, after)
    | .fails => (.threw .handoffFailed, after)
    | .crashes => (.stopped, after)

/-- A call that the log does not mention. -/
def callFor {α : Type} (answer : α) : HandoffProgram α := call fun _ world => (answer, world)

/-- A call that is logged when it is made, and once more when it resolves. -/
def callLogged (made resolved : LeaseLog → LeaseLog) : HandoffProgram Unit :=
  call fun fate world =>
    ((), if fate.ending = .completes then (world.modifyLease made).modifyLease resolved
      else world.modifyLease made)

/-- The journal after a transition. -/
def transition (journal : UpdateJournal) (input : JournalTransition) :
    HandoffProgram UpdateJournal :=
  Program.ofExcept ((transitionUpdateJournal journal input).mapError fun _ => .handoffFailed)

/-- `journalStore.read` -/
def readJournal : HandoffProgram (Option UpdateJournal) := call fun _ world => (world.journal, world)

/-- `journalStore.readForLiveOwner` -/
def readForLiveOwner : HandoffProgram (Option UpdateJournal) :=
  call fun fate world =>
    if fate.ending = .completes ∧ world.journal = world.log.lease.written then
      (world.journal, { world.modifyLease (fun lease => { lease with readBack := true }) with
        changedByOther := false })
    else (world.journal, world)

/-- `journalStore.clear` -/
def clearJournal : HandoffProgram Unit :=
  call fun fate world =>
    let begun := world.modifyLease fun lease => { lease with writePending := true }
    if fate.ending = .completes then
      ((), { begun.modifyLease (fun lease => { lease with writePending := false }) with
        journal := none })
    else ((), if fate.takesEffect then { begun with journal := none } else begun)

/-- The store refuses a journal of another update, and one that falls behind. -/
def conflicts (stored : Option UpdateJournal) (journal : UpdateJournal) : Bool :=
  stored.any fun current =>
    current.correlationId ≠ journal.correlationId || journal.revision < current.revision

/-- `journalStore.write` -/
def writeJournal (journal : UpdateJournal) : HandoffProgram Unit :=
  Program.effect fun fate world =>
    let begun := (fate.meet world).modifyLease fun lease => { lease with writePending := true }
    match fate.ending with
    | .completes =>
      if conflicts begun.journal journal then (.threw .handoffFailed, begun)
      else
        (.returned (),
          { begun.modifyLease (fun lease =>
              { lease with writePending := false, written := some journal, readBack := false }) with
            journal := some journal
            changedByOther := false })
    | .fails =>
      (.threw .handoffFailed,
        if fate.takesEffect && !conflicts begun.journal journal then
          { begun with journal := some journal }
        else begun)
    | .crashes =>
      (.stopped,
        if fate.takesEffect && !conflicts begun.journal journal then
          { begun with journal := some journal }
        else begun)

/-- `maintenanceLease.acquire` -/
def acquireLease (operationId : String) : HandoffProgram Unit :=
  call fun fate world =>
    ((), if fate.ending = .completes then world.modifyLease fun _ => .acquired operationId
      else world)

/-- `lease.release` -/
def releaseLease : HandoffProgram Unit :=
  call fun _ world =>
    ((), { world with log := { world.log with releases := world.snapshot :: world.log.releases } })

/-- Launches the installer. -/
def launchInstaller : HandoffProgram Unit :=
  call fun _ world =>
    ((), { world with log := { world.log with launches := world.snapshot :: world.log.launches } })

/-- Maintenance begins. -/
def beginUpdateMaintenance : HandoffProgram Unit :=
  callLogged (fun lease => { lease with maintenanceBegun := true }) id

/-- Maintenance ends. -/
def endUpdateMaintenance : HandoffProgram Unit :=
  callLogged id fun lease => { lease with maintenanceEnded := true }

/-- Maintenance is on. -/
def assertUpdateMaintenance : HandoffProgram Unit := callFor ()

/-- The runtime is shut down. -/
def shutdownRuntime : HandoffProgram Unit :=
  callLogged (fun lease => { lease with shutdownCalled := true })
    fun lease => { lease with shutdownResolved := true }

/-- The identity of a package. -/
def readExpectedPackageIdentity (identity : ExpectedPackageIdentity) :
    HandoffProgram ExpectedPackageIdentity :=
  callFor identity

/-- The package is what the journal says. -/
def revalidateJournalPackage : HandoffProgram Unit := callFor ()

/-! ## Owned journals -/

/-- Changes the owner, if there is one. -/
def modifyOwner (f : PreparedUpdateOwner → PreparedUpdateOwner) : HandoffProgram Unit :=
  Program.modify fun world =>
    { world with coordinator :=
        { world.coordinator with owner := world.coordinator.owner.map f } }

/-- Sets the owner. -/
def setOwner (owner : Option PreparedUpdateOwner) : HandoffProgram Unit :=
  Program.modify fun world => { world with coordinator := { world.coordinator with owner := owner } }

/-- The owner, if there is one. -/
def getOwner : HandoffProgram (Option PreparedUpdateOwner) := do
  return (← Program.get).coordinator.owner

/-- The owner. -/
def requireOwner : HandoffProgram PreparedUpdateOwner := do
  match ← getOwner with
  | some owner => pure owner
  | none => throw .handoffFailed

/-- Notes that a write of the journal may not have ended. -/
def setJournalUncertain (journalUncertain : Bool) : HandoffProgram Unit :=
  modifyOwner fun owner => { owner with journalUncertain := journalUncertain }

/-- The journal on disk is the one of the owner. -/
def assertOwnedJournal : HandoffProgram Unit := do
  let owner ← requireOwner
  if owner.journalUncertain then throw .handoffFailed
  tryCatch
    (do
      let current ← readForLiveOwner
      if current ≠ owner.journal then throw .handoffFailed)
    fun _ => do
      setJournalUncertain true
      throw .handoffFailed

/-- Writes the owner's journal. -/
def writeOwnedJournal (journal : UpdateJournal) : HandoffProgram Unit := do
  assertOwnedJournal
  setJournalUncertain true
  writeJournal journal
  modifyOwner fun owner => { owner with journal := some journal, journalUncertain := false }

/-- A finished update makes room for the next one. -/
def assertJournalCanBeReplaced : HandoffProgram Unit := do
  match ← readJournal with
  | none => pure ()
  | some current =>
    if current.state ≠ .accepted ∧ current.state ≠ .failed ∧
        current.state ≠ .installerNotApplied ∧ current.state ≠ .rolledBack then
      throw .handoffFailed
    setJournalUncertain true
    clearJournal
    setJournalUncertain false

section Operations

variable (environment : HandoffEnvironment)

/-- `assertCurrent` of a validation; its owner is the one there is. -/
def isCurrentValidation (stage : ValidationStage) (owner : PreparedUpdateOwner) : Bool :=
  !owner.journalUncertain && !owner.stopStarted &&
    owner.phase = match stage with
      | .preparation => .preparing
      | .handoff => .handoff

/-- `validateActiveProfileForUpdate` -/
def validateActiveProfile (stage : ValidationStage) : HandoffProgram String :=
  call fun fate world =>
    let chain := environment.migrationChainIdentity stage
    (chain,
      if fate.ending = .completes ∧ stage = .handoff then
        world.modifyLease fun lease => { lease with handoffChain := some chain }
      else world)

/-- The cleanup is confirmed in the course of the validation, whether or not it succeeds
    in the end. -/
def validateOwnedProfile (stage : ValidationStage) : HandoffProgram String := do
  modifyOwner fun owner => { owner with validationUncertain := true }
  let owner ← requireOwner
  let cleanupConfirmed := environment.confirmsCleanup stage && isCurrentValidation stage owner
  Program.andFinally
    (do
      let chain ← validateActiveProfile environment stage
      let owner ← requireOwner
      if !isCurrentValidation stage owner then throw .handoffFailed
      if !cleanupConfirmed then throw .handoffFailed
      pure chain)
    (modifyOwner fun owner => { owner with validationUncertain := !cleanupConfirmed })

/-- The part of the abortion whose errors leave everything as it is. -/
def abandon : HandoffProgram Unit := do
  let owner ← requireOwner
  if owner.journalUncertain || owner.validationUncertain then pure ()
  else do
    match owner.journal with
    | some journal => do
      let failed ← transition journal ⟨environment.now .failed, none, none, none, .failed⟩
      writeOwnedJournal failed
      assertOwnedJournal
    | none => pure ()
    if owner.stopStarted then pure ()
    else do
      if owner.fenceRequested then do
        assertUpdateMaintenance
        endUpdateMaintenance
      releaseLease
      setOwner none

/-- Gives a preparation up. -/
def abortOwnedPreparation : HandoffProgram Unit := do
  modifyOwner fun owner => { owner with phase := .failed }
  Program.ignoreError (abandon environment)

/-- `runExclusive` -/
def runExclusive {α : Type} (unavailableCode : HandoffErrorCode) (operation : HandoffProgram α) :
    HandoffProgram α := do
  if (← Program.get).coordinator.activeOperation then throw unavailableCode
  Program.modify fun world =>
    { world with coordinator := { world.coordinator with activeOperation := true } }
  Program.andFinally operation
    (Program.modify fun world =>
      { world with coordinator := { world.coordinator with activeOperation := false } })

/-! ## Preparation -/

/-- The identity as the journal stores it. -/
def toJournalIdentity (identity : ExpectedPackageIdentity) : PackageIdentity :=
  identity.toPackageIdentity

/-- The journal of a new update. -/
def createPreparedJournal (correlationId : String)
    (currentIdentity candidateIdentity : ExpectedPackageIdentity)
    (preUpdateMigrationChainIdentity : String) (now : Instant) :
    Except UpdateJournalValidationError UpdateJournal :=
  parseUpdateJournal
    { binaryRollbackAttemptCount := 0
      candidatePackageIdentity := toJournalIdentity candidateIdentity
      correlationId := correlationId
      createdAt := now
      currentPackageIdentity := toJournalIdentity currentIdentity
      currentVersion := currentIdentity.appVersion
      handoffAttemptCount := 0
      preUpdateMigrationChainIdentity := some preUpdateMigrationChainIdentity
      recoveryPointReference := none
      releaseChannel := .pilot
      revision := 1
      state := .prepared
      targetVersion := candidateIdentity.appVersion
      updatedAt := now }

/-- `createValidatedPreUpdatePoint`; an error may say that its cleanup is unverified. -/
def createValidatedPreUpdatePoint : HandoffProgram String :=
  tryCatch
    (call fun fate world =>
      (environment.recoveryPointReference,
        if fate.ending = .completes then
          world.modifyLease fun lease => { lease with
            validatedPoints := environment.recoveryPointReference :: lease.validatedPoints }
        else world))
    fun error => do
      if environment.cleanupUnverified then
        modifyOwner fun owner => { owner with validationUncertain := true }
      throw error

/-- What fails now, fails with this code. -/
def failingWith {α : Type} (failureCode : HandoffErrorCode) (m : HandoffProgram α) :
    HandoffProgram α :=
  Program.mapError (fun _ => failureCode) m

/-- The preparation of an owner. -/
def prepareOwned : HandoffProgram UpdateJournal := do
  failingWith .preparationJournalFailed assertJournalCanBeReplaced
  let (currentIdentity, candidateIdentity) ← failingWith .preparationPackageFailed do
    let currentIdentity ← readExpectedPackageIdentity environment.currentIdentity
    let candidateIdentity ← readExpectedPackageIdentity environment.candidateIdentity
    pure (currentIdentity, candidateIdentity)
  let prepared ← failingWith .preparationProfileFailed do
    let chain ← validateOwnedProfile environment .preparation
    Program.ofExcept ((createPreparedJournal environment.operationId currentIdentity
      candidateIdentity chain (environment.now .prepared)).mapError fun _ => .handoffFailed)
  failingWith .preparationJournalFailed (writeOwnedJournal prepared)
  failingWith .preparationMaintenanceFailed do
    modifyOwner fun owner => { owner with fenceRequested := true }
    beginUpdateMaintenance
  let validated ← failingWith .preparationRecoveryPointFailed do
    let recoveryPointReference ← createValidatedPreUpdatePoint environment
    transition prepared ⟨environment.now .recoveryPointValidated, none, none,
      some recoveryPointReference, .recoveryPointValidated⟩
  failingWith .preparationJournalFailed (writeOwnedJournal validated)
  failingWith .preparationMaintenanceFailed assertUpdateMaintenance
  modifyOwner fun owner => { owner with phase := .ready }
  pure validated

/-- The `catch` of the two operations. -/
def abortingOnError {α : Type} (m : HandoffProgram α) : HandoffProgram α :=
  tryCatch m fun failureCode => do
    abortOwnedPreparation environment
    throw failureCode

/-- `isOperationId` -/
def isOperationId : String → Bool := JavaScript.isUuid ['1', '2', '3', '4', '5']

/-- Prepares an update that the user has confirmed. -/
def prepareConfirmedUpdate : HandoffProgram UpdateJournal :=
  runExclusive .preparationMaintenanceFailed do
    if (← getOwner).isSome then throw .preparationMaintenanceFailed
    if !isOperationId environment.operationId then throw .preparationMaintenanceFailed
    failingWith .preparationMaintenanceFailed (acquireLease environment.operationId)
    setOwner (some ⟨environment.operationId, .preparing, none, false, false, false, false⟩)
    abortingOnError environment (prepareOwned environment)

/-! ## Handoff -/

/-- The prepared journal, if it is the one that can be handed off. -/
def requirePreparedJournal : HandoffProgram UpdateJournal := do
  match (← requireOwner).journal with
  | some journal =>
    if journal.state ≠ .recoveryPointValidated ∨ journal.handoffAttemptCount ≠ 0 then
      throw .handoffFailed
    pure journal
  | none => throw .handoffFailed

/-- The handoff of an owner. -/
def handoffOwned : HandoffProgram Unit := do
  assertOwnedJournal
  let journal ← requirePreparedJournal
  assertUpdateMaintenance
  revalidateJournalPackage
  assertUpdateMaintenance
  let chain ← validateOwnedProfile environment .handoff
  assertUpdateMaintenance
  if some chain ≠ journal.preUpdateMigrationChainIdentity then throw .handoffFailed
  let stopping ← transition journal
    ⟨environment.now .runtimeStopping, none, none, none, .runtimeStopping⟩
  writeOwnedJournal stopping
  assertUpdateMaintenance
  modifyOwner fun owner => { owner with stopStarted := true }
  shutdownRuntime
  let awaiting ← transition stopping
    ⟨environment.now .awaitingFirstStart, none, some 1, none, .awaitingFirstStart⟩
  writeOwnedJournal awaiting
  launchInstaller

/-- Hands a prepared update to the installer. -/
def handoffPreparedUpdate : HandoffProgram Unit :=
  runExclusive .handoffFailed do
    let owner ← getOwner
    if !owner.any (fun owner => owner.phase = .ready) then throw .handoffFailed
    modifyOwner fun owner => { owner with phase := .handoff }
    failingWith .handoffFailed (abortingOnError environment (handoffOwned environment))

end Operations

end LocalUpdateHandoffCoordinator
