import Mathlib.Logic.Function.Basic
import Eky.BuildIdentity
import Eky.WorkspaceDirectory
import Eky.WorkspacePublication

/-! # Creating an empty workspace

    `emptyWorkspaceCreationCoordinator.ts` and `emptyWorkspaceCreationRecovery.ts`, with
    the root store and the journal.  A workspace is set up as a candidate in the
    directory of the operation, renamed to its place, and then entered in the registry;
    the journal says how far this has come, and a recovery goes by the journal and by
    what it finds.  A write or a removal of the journal or of the registry is one
    effect.  The identifiers are taken to be what their validators let through. -/

/-- The stage that an error names. -/
inductive CreationStage
  | inputValidation
  | lease
  | activeRuntimeQuiesce
  | activeRuntimeStop
  | identityGeneration
  | journal
  | candidateRoot
  | bootstrap
  | candidateValidation
  | rootPublish
  | registryPublish
  | activeRuntimeRestart
  | cleanup
  | recovery
  deriving DecidableEq

/-- The code of an error. -/
inductive CreationErrorCode
  | invalid
  | busy
  | conflict
  | labelExists
  | capacityExceeded
  | lifecycleFailed
  | journalFailed
  | storageFailed
  | bootstrapFailed
  | registryFailed
  | recoveryRequired
  deriving DecidableEq

/-- An `EmptyWorkspaceCreationError`, a `WorkspaceManagementRecoveryRequiredError`, or an
    error of something else. -/
inductive CreationError
  | creation (code : CreationErrorCode) (stage : CreationStage)
  | managementRecoveryRequired
  | other
  deriving DecidableEq

/-- `mapEmptyWorkspaceCreationError` -/
def mapCreationError (code : CreationErrorCode) (stage : CreationStage) :
    CreationError → CreationError
  | .creation code stage => .creation code stage
  | .managementRecoveryRequired | .other => .creation code stage

/-- The two formats of the journal. -/
inductive CreationJournalFormat
  | v1
  | v2
  deriving DecidableEq

/-- How far a creation has come. -/
inductive CreationJournalState
  | prepared
  | candidateRootCreated
  | bootstrapCompleted
  | candidateValidated
  | rootPublished
  | registryPublished
  deriving DecidableEq

/-- `getWorkspaceCreationStateIndex` -/
def CreationJournalState.index : CreationJournalState → Nat
  | .prepared => 0
  | .candidateRootCreated => 1
  | .bootstrapCompleted => 2
  | .candidateValidated => 3
  | .rootPublished => 4
  | .registryPublished => 5

/-- Of the lineage there is only the profile. -/
structure WorkspaceCreationJournal where
  formatVersion : CreationJournalFormat
  operationId : String
  workspaceId : WorkspaceId
  workspaceLabel : String
  previousActiveWorkspaceId : Option WorkspaceId
  state : CreationJournalState
  createdAt : String
  profileId : Option String
  deriving DecidableEq

namespace WorkspaceCreationJournal

/-- What `validateWorkspaceCreationJournal` asks of the lineage. -/
def lineageValid (journal : WorkspaceCreationJournal) : Bool :=
  journal.profileId.isSome = decide (CreationJournalState.bootstrapCompleted.index ≤
    journal.state.index)

/-- `assertWorkspaceCreationJournalTransition` -/
def transitionAllowed (current : Option WorkspaceCreationJournal)
    (next : WorkspaceCreationJournal) : Bool :=
  match current with
  | none => next.state = .prepared
  | some current =>
    current.formatVersion = next.formatVersion && current.operationId = next.operationId &&
      current.workspaceId = next.workspaceId && current.workspaceLabel = next.workspaceLabel &&
      current.previousActiveWorkspaceId = next.previousActiveWorkspaceId &&
      current.createdAt = next.createdAt &&
      (next.state.index = current.state.index || next.state.index = current.state.index + 1) &&
      (current.profileId = none || next.profileId = current.profileId)

/-- The journal has reached a state. -/
def isAtOrAfter (journal : WorkspaceCreationJournal) (state : CreationJournalState) : Bool :=
  state.index ≤ journal.state.index

end WorkspaceCreationJournal

/-- `EmptyWorkspaceBootstrapResult` -/
structure EmptyWorkspaceBootstrapResult where
  actorId : String
  artifactRootHealth : String
  companyId : String
  databaseHealth : String
  foreignKeyHealth : String
  handlesClosed : Bool
  profileId : String
  migrationChainIdentity : String
  migrationState : String
  deriving DecidableEq

/-- `freshCompanyIdPattern` -/
def isFreshCompanyId (value : String) : Bool :=
  let characters := value.toList
  let stem := "local-company-".toList
  characters.take stem.length = stem && (characters.drop stem.length).length = 32 &&
    (characters.drop stem.length).all JavaScript.isLowerHexDigit

/-- `validateEmptyWorkspaceBootstrapResult` -/
def validateBootstrapResult (value : EmptyWorkspaceBootstrapResult) :
    Except CreationError EmptyWorkspaceBootstrapResult :=
  if value.actorId ≠ "local-owner" ∨ value.artifactRootHealth ≠ "ready" ∨
      ¬ isFreshCompanyId value.companyId ∨ value.databaseHealth ≠ "healthy" ∨
      value.foreignKeyHealth ≠ "healthy" ∨ ¬ value.handlesClosed ∨
      ¬ isSha256 value.migrationChainIdentity ∨ value.migrationState ≠ "current" ∨
      ¬ isSha256 value.profileId then
    .error (.creation .bootstrapFailed .bootstrap)
  else .ok value

/-- The two stores, `workspace-operations` and `workspaces`. -/
structure CreationWorld where
  journal : Option WorkspaceCreationJournal
  registry : Option StoredRegistry
  operations : String → Option OperationDirectory
  workspaces : WorkspaceId → Option WorkspaceDirectory

/-- A program over the files of the creation. -/
abbrev CreationProgram (α : Type) : Type := Program CreationWorld Fate CreationError α

namespace CreationWorld

/-- The world with another directory for an operation. -/
def withOperation (world : CreationWorld) (operationId : String)
    (directory : Option OperationDirectory) : CreationWorld :=
  { world with operations := Function.update world.operations operationId directory }

/-- The world with another directory for a workspace. -/
def withWorkspace (world : CreationWorld) (workspaceId : WorkspaceId)
    (directory : Option WorkspaceDirectory) : CreationWorld :=
  { world with workspaces := Function.update world.workspaces workspaceId directory }

end CreationWorld

namespace EmptyWorkspaceCreation

open Fallible

/-! ## The ports -/

/-- Something is read, and checked. -/
def look {α : Type} (check : CreationWorld → Except CreationError α) : CreationProgram α :=
  attempt .other fun world => (check world).map fun answer => (answer, world)

/-- A call of the lease, of the runtime or of `assertRecoveryAdmission`. -/
def callPort : CreationProgram Unit := attemptNothing .other

/-- The error that asks for a recovery. -/
def recoveryRequired : CreationError := .creation .recoveryRequired .recovery

/-- No runtime holds the files. -/
def assertRuntimeAbsent : CreationProgram Unit :=
  Program.mapError (mapCreationError .recoveryRequired .recovery) callPort

/-- What the journal store reads. -/
def readStoredJournal : CreationProgram (Option WorkspaceCreationJournal) :=
  look fun world => .ok world.journal

/-- The journal store takes the next journal, if the step is allowed. -/
def writeStoredJournal (next : WorkspaceCreationJournal) : CreationProgram Unit :=
  attempt .other fun world =>
    if next.lineageValid && WorkspaceCreationJournal.transitionAllowed world.journal next then
      .ok ((), { world with journal := some next })
    else .error .other

/-- `remove` and `discardBeforePublication`, with the states in which they are allowed. -/
def removeStoredJournal (operationId : String) (allowed : CreationJournalState → Bool) :
    CreationProgram Unit :=
  attempt .other fun world =>
    match world.journal with
    | some current =>
      if current.operationId = operationId ∧ allowed current.state then
        .ok ((), { world with journal := none })
      else .error .other
    | none => .error .other

/-- Clears the journal of a published operation. -/
def removeJournal (operationId : String) : CreationProgram Unit :=
  removeStoredJournal operationId fun state => state = .registryPublished

/-- Clears the journal of an operation without a published root. -/
def discardJournalBeforePublication (operationId : String) : CreationProgram Unit :=
  removeStoredJournal operationId fun state =>
    !(state = .rootPublished || state = .registryPublished)

/-- What the registry store reads. -/
def readStoredRegistry : CreationProgram (Option WorkspaceRegistry) :=
  look fun world => .ok (world.registry.map (·.toWorkspaceRegistry))

/-- The registry store takes a valid registry, whose format does not go back. -/
def writeStoredRegistry (value : WorkspaceRegistry) : CreationProgram Unit :=
  attempt .other fun world =>
    if hvalid : value.Valid then
      if world.registry.map (·.formatVersion) = some .v2 ∧ value.formatVersion = .v1 then
        .error .other
      else .ok ((), { world with registry := some ⟨value, hvalid⟩ })
    else .error .other

/-- `readStoredJournal` with the errors of the service. -/
def readJournal : CreationProgram (Option WorkspaceCreationJournal) :=
  Program.mapError (mapCreationError .journalFailed .journal) readStoredJournal

/-- `writeStoredJournal` with the errors of the service. -/
def writeJournal (next : WorkspaceCreationJournal) : CreationProgram Unit :=
  Program.mapError (mapCreationError .journalFailed .journal) (writeStoredJournal next)

/-- `readStoredRegistry` with the errors of the service. -/
def readRegistry : CreationProgram (Option WorkspaceRegistry) :=
  Program.mapError (mapCreationError .registryFailed .registryPublish) readStoredRegistry

/-- `writeStoredRegistry` with the errors of the service. -/
def writeRegistry (value : WorkspaceRegistry) : CreationProgram Unit :=
  Program.mapError (mapCreationError .registryFailed .registryPublish) (writeStoredRegistry value)

/-! ## The root store -/

/-- `WorkspaceCreationPaths`: the directories of the operation and of the workspace. -/
structure CreationPaths where
  operationId : String
  workspaceId : WorkspaceId
  deriving DecidableEq

namespace CreationPaths

variable (paths : CreationPaths) (world : CreationWorld)

/-- The directory of the operation. -/
def operationRoot : Option OperationDirectory := world.operations paths.operationId

/-- The candidate in it. -/
def candidateRoot : Option WorkspaceDirectory :=
  (paths.operationRoot world).bind fun directory => directory.candidate

/-- The published directory. -/
def finalRoot : Option WorkspaceDirectory := world.workspaces paths.workspaceId

end CreationPaths

/-- The errors of the root store. -/
def storageFailed (stage : CreationStage) {α : Type} (m : CreationProgram α) : CreationProgram α :=
  Program.mapError (mapCreationError .storageFailed stage) m

/-- Nothing is published under the workspace's id. -/
def assertFinalMissing (paths : CreationPaths) : CreationProgram Unit :=
  look fun world => throwIf (paths.finalRoot world).isSome (.creation .conflict .candidateRoot)

/-- Makes the directory of the operation, which must be missing. -/
def makeOperationRoot (paths : CreationPaths) : CreationProgram Unit :=
  attempt .other fun world =>
    match paths.operationRoot world with
    | some _ => .error .other
    | none => .ok ((), world.withOperation paths.operationId (some ⟨none⟩))

/-- `createPrivateDirectory` of a directory of the candidate. -/
def makeDirectory (paths : CreationPaths) (path : CandidatePath) : CreationProgram Unit :=
  attempt .other fun world =>
    match (paths.operationRoot world).bind (·.makeDirectory path) with
    | some directory => .ok ((), world.withOperation paths.operationId (some directory))
    | none => .error .other

/-- Makes the directories of the candidate. -/
def createCandidate (paths : CreationPaths) : CreationProgram Unit :=
  storageFailed .candidateRoot do
    -- `ensurePrivateDirectory(paths.userDataRoot, paths.operationsRoot)`
    callPort
    assertFinalMissing paths
    makeOperationRoot paths
    makeDirectory paths .candidate
    makeDirectory paths .runtime
    makeDirectory paths .data
    makeDirectory paths .storage
    makeDirectory paths .invoices

/-- The candidate has the layout of a finished workspace. -/
def inspectCandidate (paths : CreationPaths) : CreationProgram Unit :=
  storageFailed .candidateValidation <| look fun world =>
    throwIf (¬ (paths.candidateRoot world).any (·.inspectLayout)) .other

/-- `rename(paths.candidateRoot, paths.finalRoot)` -/
def renameCandidate (paths : CreationPaths) : CreationProgram Unit :=
  attempt .other fun world =>
    match paths.candidateRoot world, paths.finalRoot world with
    | some candidate, none =>
      .ok ((), (world.withOperation paths.operationId (some ⟨none⟩)).withWorkspace
        paths.workspaceId (some candidate))
    | _, _ => .error .other

/-- Renames the candidate to its published place. -/
def publishCandidate (paths : CreationPaths) : CreationProgram Unit :=
  storageFailed .rootPublish do
    inspectCandidate paths
    -- `ensurePrivateDirectory(paths.userDataRoot, paths.workspacesRoot)`
    callPort
    assertFinalMissing paths
    renameCandidate paths

/-- Removes the directory of the operation, which must be empty. -/
def removeEmptyOperationRoot (paths : CreationPaths) : CreationProgram Unit :=
  attempt .other fun world =>
    match paths.operationRoot world with
    | some ⟨none⟩ => .ok ((), world.withOperation paths.operationId none)
    | _ => .error .other

/-- The directory of the operation is there. -/
def operationRootPresent (paths : CreationPaths) : CreationProgram Bool :=
  look fun world => .ok (paths.operationRoot world).isSome

/-- Removes what a publication has left. -/
def cleanupPublishedOperation (paths : CreationPaths) : CreationProgram Unit :=
  storageFailed .cleanup do
    if ← operationRootPresent paths then removeEmptyOperationRoot paths

/-- The published directory has the layout of a workspace. -/
def inspectPublished (paths : CreationPaths) : CreationProgram Unit :=
  Program.mapError (mapCreationError .recoveryRequired .recovery) <| look fun world =>
    throwIf (¬ (paths.finalRoot world).any (·.inspectLayout)) .other

/-- Which of the two directories are there. -/
structure RootPresence where
  candidateExists : Bool
  finalExists : Bool
  deriving DecidableEq

/-- Looks for both directories. -/
def readPresence (paths : CreationPaths) : CreationProgram RootPresence :=
  Program.mapError (mapCreationError .recoveryRequired .recovery) <| look fun world =>
    .ok ⟨(paths.candidateRoot world).isSome, (paths.finalRoot world).isSome⟩

/-- Removes one item of the operation's tree. -/
def removeItem (paths : CreationPaths) (item : TreeItem) : CreationProgram Unit :=
  attempt .other fun world =>
    .ok ((), world.withOperation paths.operationId
      ((paths.operationRoot world).map fun directory => directory.remove item))

/-- What `rm` removes before the directory itself, in the order in which it comes to it. -/
def removeItems (paths : CreationPaths) : List TreeItem → CreationProgram Unit
  | [] => pure ()
  | item :: rest => do
    removeItem paths item
    removeItems paths rest

/-- Removes the operation's tree, item by item, then its directory. -/
def removeOperationRoot (paths : CreationPaths) (removal : List TreeItem) :
    CreationProgram Unit := do
  removeItems paths removal
  attempt .other fun world => .ok ((), world.withOperation paths.operationId none)

/-- The tree holds nothing that a creation would not have made. -/
def assertSafePartialOperationTree (paths : CreationPaths) : CreationProgram Unit :=
  look fun world => throwIf (¬ (paths.operationRoot world).all (·.safePartialTree)) .other

/-- Checks the tree and removes it. -/
def discardPresentCandidate (paths : CreationPaths) (removal : List TreeItem) :
    CreationProgram Unit := do
  assertSafePartialOperationTree paths
  removeOperationRoot paths removal

/-- Removes the candidate, if there is one. -/
def discardCandidate (paths : CreationPaths) (removal : List TreeItem) : CreationProgram Unit :=
  storageFailed .cleanup do
    if ← operationRootPresent paths then discardPresentCandidate paths removal

/-! ## The command -/

/-- What the bootstrap makes of the data directory: what it has left there when it is cut
    off, and what it leaves when it returns. -/
structure EmptyWorkspaceBootstrap where
  left : Nat → DataDirectory
  finished : DataDirectory
  result : EmptyWorkspaceBootstrapResult

/-- What `create` is called with, what is generated for it, and what its ports answer. -/
structure CreationCall where
  workspaceLabel : String
  operationId : String
  workspaceId : WorkspaceId
  createdAt : String
  comparisonKey : String → String
  handlesClosed : Bool
  bootstrap : EmptyWorkspaceBootstrap
  removal : List TreeItem

/-- The paths of a creation. -/
def CreationCall.paths (call : CreationCall) : CreationPaths :=
  ⟨call.operationId, call.workspaceId⟩

/-- The journal of a creation in a state. -/
def journalOf (call : CreationCall) (registry : WorkspaceRegistry) (state : CreationJournalState)
    (profileId : Option String) : WorkspaceCreationJournal where
  formatVersion := .v2
  operationId := call.operationId
  workspaceId := call.workspaceId
  workspaceLabel := call.workspaceLabel
  previousActiveWorkspaceId := registry.activeWorkspaceId
  state := state
  createdAt := call.createdAt
  profileId := profileId

/-- The registry entry of a creation. -/
def entryOf (call : CreationCall) (profileId : String) : WorkspaceEntry :=
  WorkspaceRegistry.createReadyWorkspaceEntry call.workspaceId call.workspaceLabel profileId
    call.createdAt

/-- The id is not in the registry. -/
def assertWorkspaceIdAvailable (registry : WorkspaceRegistry) (workspaceId : WorkspaceId) :
    Except CreationError Unit :=
  (registry.assertWorkspaceIdAvailable workspaceId).mapError fun failure =>
    .creation (if failure = .capacityExceeded then .capacityExceeded else .conflict)
      .identityGeneration

/-- No other workspace has the profile. -/
def assertLineageAvailable (registry : WorkspaceRegistry) (profileId : String) :
    Except CreationError Unit :=
  (registry.assertWorkspaceLineageAvailable profileId).mapError fun _ =>
    .creation .conflict .bootstrap

/-- No other workspace has the label. -/
def assertCreationWorkspaceLabelAvailable (call : CreationCall) (registry : WorkspaceRegistry)
    (stage : CreationStage) : Except CreationError Unit :=
  (registry.assertWorkspaceLabelAvailable call.comparisonKey call.workspaceLabel).mapError fun _ =>
    .creation .labelExists stage

/-- The pointer has not moved since the creation began. -/
def assertRegistryStillAtPreviousActive (registry : WorkspaceRegistry)
    (previousActiveWorkspaceId : Option WorkspaceId) : Except CreationError Unit :=
  throwIf (registry.activeWorkspaceId ≠ previousActiveWorkspaceId) recoveryRequired

/-- The registry with the new entry. -/
def publishWorkspaceEntry (call : CreationCall) (registry : WorkspaceRegistry)
    (profileId : String) : Except CreationError WorkspaceRegistry :=
  (registry.appendReadyWorkspaceEntry call.comparisonKey (entryOf call profileId)).mapError
    fun
    | .workspaceLabelExists => .creation .labelExists .registryPublish
    | .capacityExceeded => .creation .capacityExceeded .identityGeneration
    | _ => .creation .conflict .bootstrap

/-- The bootstrap, which may stop with part of its files written. -/
def runBootstrap (call : CreationCall) : CreationProgram EmptyWorkspaceBootstrapResult :=
  attemptParts .other fun fate world =>
    let data := if fate.ending = .completes then call.bootstrap.finished
      else call.bootstrap.left (fate.progress.getD 0)
    (call.bootstrap.result, world.withOperation call.operationId
      ((call.paths.operationRoot world).map (·.withData data)))

/-- The bootstrap and the checks of its result. -/
def validatedBootstrap (call : CreationCall) : CreationProgram EmptyWorkspaceBootstrapResult :=
  Program.mapError (mapCreationError .bootstrapFailed .bootstrap) do
    let result ← runBootstrap call
    Program.ofExcept (validateBootstrapResult result)

/-- Starts the previous workspace again. -/
def ensurePreviousWorkspaceRunning : CreationProgram Unit :=
  Program.mapError (fun _ => .creation .recoveryRequired .activeRuntimeRestart) callPort

/-! ### After an error -/

/-- The journal of this operation is there, and nothing has been published. -/
def discardBeforePublication (call : CreationCall) : CreationProgram Unit :=
  Program.mapError (fun _ => .creation .recoveryRequired .cleanup) do
    discardCandidate call.paths call.removal
    discardJournalBeforePublication call.operationId

/-- What a failed creation does about the directories it finds. -/
def handlePresence (call : CreationCall) (persisted : Option WorkspaceCreationJournal)
    (presence : RootPresence) : CreationProgram Unit :=
  match persisted with
  | none =>
    if presence.finalExists then throw recoveryRequired
    else Program.mapError (fun _ => .creation .recoveryRequired .cleanup)
      (discardCandidate call.paths call.removal)
  | some journal =>
    if presence.finalExists || journal.state = .rootPublished ||
        journal.state = .registryPublished then pure ()
    else discardBeforePublication call

/-- What a failed creation undoes. -/
def handleFailure (call : CreationCall) : CreationProgram Unit := do
  assertRuntimeAbsent
  let persisted ← Program.mapError (fun _ => recoveryRequired) readStoredJournal
  if persisted.any fun journal => journal.operationId ≠ call.operationId then
    throw recoveryRequired
  else do
    let presence ← readPresence call.paths
    handlePresence call persisted presence

/-- What is known when an error is caught: whether there is a `journal` yet, whether the
    writes were stopped, and whether the runtime was told to go on. -/
structure FailureContext where
  journaled : Bool
  writesQuiesced : Bool
  ensureAttempted : Bool
  deriving DecidableEq

/-- The error of the step, if it threw. -/
def errorOf (step : CreationProgram Unit) : CreationProgram (Option CreationError) :=
  tryCatch (step >>= fun _ => pure none) fun error => pure (some error)

/-- Starts the previous workspace again, where it was stopped. -/
def restartAfterFailure (context : FailureContext) : CreationProgram Unit :=
  if context.writesQuiesced && !context.ensureAttempted then
    if context.journaled then do
      assertRuntimeAbsent
      ensurePreviousWorkspaceRunning
    else ensurePreviousWorkspaceRunning
  else pure ()

/-- A part of the command; an error of it is handled before it is thrown on. -/
def handling {α : Type} (call : CreationCall) (context : FailureContext)
    (part : CreationProgram α) : CreationProgram α :=
  tryCatch part fun error => do
    let recoveryFailure ← errorOf (if context.journaled then handleFailure call else pure ())
    restartAfterFailure context
    throw (mapCreationError .recoveryRequired .recovery (recoveryFailure.getD error))

/-! ### The parts -/

/-- The first part: no open journal, writes stopped, the checks of the registry. -/
def quiesceWrites (call : CreationCall) : CreationProgram WorkspaceRegistry := do
  if (← readJournal).isSome then throw (.creation .recoveryRequired .journal)
  else do
    let registry := WorkspaceRegistry.readWorkspaceRegistry (← readRegistry)
    Program.ofExcept (assertCreationWorkspaceLabelAvailable call registry .inputValidation)
    Program.mapError (mapCreationError .lifecycleFailed .activeRuntimeQuiesce) callPort
    pure registry

/-- The second part: the runtime is stopped. -/
def stopRuntime (call : CreationCall) (registry : WorkspaceRegistry) : CreationProgram Unit := do
  Program.mapError (mapCreationError .lifecycleFailed .activeRuntimeStop) callPort
  Program.ofExcept (throwIf (¬ call.handlesClosed) (.creation .lifecycleFailed .activeRuntimeStop))
  assertRuntimeAbsent
  Program.ofExcept (assertWorkspaceIdAvailable registry call.workspaceId)

/-- The candidate is made and started for the first time; the answer is its profile. -/
def prepareCandidate (call : CreationCall) (registry : WorkspaceRegistry) :
    CreationProgram String := do
  writeJournal (journalOf call registry .prepared none)
  createCandidate call.paths
  writeJournal (journalOf call registry .candidateRootCreated none)
  let result ← validatedBootstrap call
  Program.ofExcept (assertLineageAvailable registry result.profileId)
  assertRuntimeAbsent
  writeJournal (journalOf call registry .bootstrapCompleted (some result.profileId))
  pure result.profileId

/-- The checks before the publication, against a registry that is read again. -/
def readPublicationRegistry (call : CreationCall) (registry : WorkspaceRegistry)
    (profileId : String) : CreationProgram WorkspaceRegistry := do
  let publicationRegistry := WorkspaceRegistry.readWorkspaceRegistry (← readRegistry)
  Program.ofExcept do
    assertRegistryStillAtPreviousActive publicationRegistry registry.activeWorkspaceId
    assertWorkspaceIdAvailable publicationRegistry call.workspaceId
    assertLineageAvailable publicationRegistry profileId
    assertCreationWorkspaceLabelAvailable call publicationRegistry .registryPublish
  pure publicationRegistry

/-- The last part: root, then registry, then cleanup. -/
def publishWorkspace (call : CreationCall) (registry : WorkspaceRegistry) (profileId : String) :
    CreationProgram Unit := do
  inspectCandidate call.paths
  writeJournal (journalOf call registry .candidateValidated (some profileId))
  let publicationRegistry ← readPublicationRegistry call registry profileId
  publishCandidate call.paths
  writeJournal (journalOf call registry .rootPublished (some profileId))
  cleanupPublishedOperation call.paths
  let extended ← Program.ofExcept (publishWorkspaceEntry call publicationRegistry profileId)
  writeRegistry extended
  writeJournal (journalOf call registry .registryPublished (some profileId))

/-- The parts of a creation, each with its failure handling. -/
def performCreation (call : CreationCall) : CreationProgram Unit := do
  let registry ← handling call ⟨false, false, false⟩ (quiesceWrites call)
  handling call ⟨false, true, false⟩ (stopRuntime call registry)
  handling call ⟨true, true, false⟩ do
    let profileId ← prepareCandidate call registry
    publishWorkspace call registry profileId
  handling call ⟨true, true, true⟩ do
    ensurePreviousWorkspaceRunning
    removeJournal call.operationId

/-- Gives the lease of the session back. -/
def releaseLease : CreationProgram Unit :=
  Program.mapError (mapCreationError .lifecycleFailed .lease) callPort

/-- Takes the lease of the session. -/
def acquireLease : CreationProgram Unit :=
  Program.mapError (mapCreationError .busy .lease) callPort

/-- `create`, for a label that has been validated. -/
def create (call : CreationCall) : CreationProgram Unit := do
  acquireLease
  Program.andFinally (performCreation call) releaseLease

/-! ## The recovery -/

/-- A recovery of the running application, or one before its start. -/
inductive CompletionMode
  | running
  | beforeRuntimeStart
  deriving DecidableEq

/-- What a recovery has done. -/
inductive CreationRecoveryResult
  | nothingToRecover
  | discardedBeforePublication
  | completedPublication
  deriving DecidableEq

/-- How the recovery is completed, and what `validatePublished` answers; `none` is an error. -/
structure RecoveryCall where
  mode : CompletionMode
  validation : Option EmptyWorkspaceBootstrapResult
  removal : List TreeItem

/-- The paths of a journal. -/
def pathsOf (journal : WorkspaceCreationJournal) : CreationPaths :=
  ⟨journal.operationId, journal.workspaceId⟩

/-- `assertColdWorkspaceRecoveryRegistryUnchanged` -/
def assertRegistryUnchanged (expected : Option WorkspaceRegistry) : CreationProgram Unit :=
  look fun world => throwIf (world.registry.map (·.toWorkspaceRegistry) ≠ expected) .other

/-- `inspectWorkspaceRoot` -/
def inspectWorkspaceRoot (workspaceId : WorkspaceId) : CreationProgram Unit :=
  look fun world => throwIf (world.workspaces workspaceId = none) .other

/-- `assertColdWorkspaceRecoveryContinuation` -/
def assertContinuation (expectedWorkspaceId : Option WorkspaceId)
    (expected : WorkspaceRegistry) : CreationProgram Unit := do
  Program.ofExcept (throwIf (¬ expected.Valid) .other)
  match expectedWorkspaceId with
  | none => do
    Program.ofExcept
      (throwIf (expected.formatVersion ≠ .v2 ∨ expected.activeWorkspaceId ≠ none) .other)
    assertRegistryUnchanged (some expected)
  | some workspaceId => do
    Program.ofExcept (throwIf (expected.activeWorkspaceId ≠ some workspaceId ∨
      (expected.find workspaceId).map (·.lifecycleState) ≠ some .ready) .other)
    assertRegistryUnchanged (some expected)
    inspectWorkspaceRoot workspaceId
    assertRegistryUnchanged (some expected)

/-- Before the start nothing runs and the registry is as expected. -/
def assertColdContinuation (expectedWorkspaceId : Option WorkspaceId)
    (expected : WorkspaceRegistry) : CreationProgram Unit := do
  assertRuntimeAbsent
  assertContinuation expectedWorkspaceId expected
  assertRuntimeAbsent

/-- The end of a recovery: the journal is cleared. -/
def completeRecovery (mode : CompletionMode) (journal : WorkspaceCreationJournal)
    (expected : WorkspaceRegistry) (published : Bool) : CreationProgram Unit :=
  match mode with
  | .beforeRuntimeStart =>
    assertColdContinuation
      (if published then WorkspaceRegistry.workspaceSelectionAfterPublication
        expected.formatVersion journal.previousActiveWorkspaceId journal.workspaceId
      else journal.previousActiveWorkspaceId) expected
  | .running => ensurePreviousWorkspaceRunning

/-- The published workspace passes the checks of its profile. -/
def validatePublishedWorkspace (call : RecoveryCall) (profileId : String) :
    CreationProgram Unit := do
  assertRuntimeAbsent
  -- `validatePublished`
  Program.mapError (mapCreationError .recoveryRequired .recovery) callPort
  match call.validation with
  | none => throw recoveryRequired
  | some validation => Program.ofExcept do
    let validated ← validateBootstrapResult validation
    throwIf (validated.profileId ≠ profileId) recoveryRequired

/-- `inspectPublished`, the validation, and the end of the directory of the operation. -/
def settlePublishedRoot (call : RecoveryCall) (journal : WorkspaceCreationJournal)
    (profileId : String) : CreationProgram Unit := do
  inspectPublished (pathsOf journal)
  validatePublishedWorkspace call profileId
  assertRuntimeAbsent
  cleanupPublishedOperation (pathsOf journal)

/-- The journal goes on to a state. -/
def advance (journal : WorkspaceCreationJournal) (state : CreationJournalState) :
    CreationProgram WorkspaceCreationJournal := do
  writeStoredJournal { journal with state := state }
  pure { journal with state := state }

/-- `advance`, if the journal is in the state before. -/
def advanceFrom (journal : WorkspaceCreationJournal) (before after : CreationJournalState) :
    CreationProgram WorkspaceCreationJournal :=
  if journal.state = before then advance journal after else pure journal

/-- The registry entry of a journal. -/
def recoveredEntry (journal : WorkspaceCreationJournal) (profileId : String) : WorkspaceEntry :=
  WorkspaceRegistry.createReadyWorkspaceEntry journal.workspaceId journal.workspaceLabel profileId
    journal.createdAt

/-- The registry with the entry of a journal. -/
def recoveredRegistry (registry : WorkspaceRegistry) (journal : WorkspaceCreationJournal)
    (profileId : String) : Except CreationError WorkspaceRegistry := do
  assertWorkspaceIdAvailable registry journal.workspaceId
  (registry.appendRecoveredWorkspaceEntry (recoveredEntry journal profileId)).mapError fun _ =>
    .other

/-- The registry is unchanged since it was read, as far as this is checked. -/
def assertSnapshotUnchanged (mode : CompletionMode) (snapshot : Option WorkspaceRegistry) :
    CreationProgram Unit :=
  match mode with
  | .beforeRuntimeStart => assertRegistryUnchanged snapshot
  | .running => pure ()

/-- Takes a published root into the registry. -/
def enterPublishedRoot (call : RecoveryCall) (journal : WorkspaceCreationJournal)
    (snapshot : Option WorkspaceRegistry) (profileId : String) : CreationProgram Unit := do
  let current ← advanceFrom journal .candidateValidated .rootPublished
  let expected ← Program.ofExcept
    (recoveredRegistry (WorkspaceRegistry.readWorkspaceRegistry snapshot) current profileId)
  assertSnapshotUnchanged call.mode snapshot
  writeRegistry expected
  let current ← advance current .registryPublished
  completeRecovery call.mode current expected true
  removeJournal current.operationId

/-- Goes on from a root that is published and not yet registered. -/
def completeFromPublishedRoot (call : RecoveryCall) (journal : WorkspaceCreationJournal)
    (snapshot : Option WorkspaceRegistry) : CreationProgram Unit :=
  match journal.profileId with
  | none => throw recoveryRequired
  | some profileId =>
    if journal.state ≠ .candidateValidated ∧ journal.state ≠ .rootPublished then
      throw recoveryRequired
    else do
      let registry := WorkspaceRegistry.readWorkspaceRegistry snapshot
      Program.ofExcept do
        assertRegistryStillAtPreviousActive registry journal.previousActiveWorkspaceId
        assertLineageAvailable registry profileId
      settlePublishedRoot call journal profileId
      enterPublishedRoot call journal snapshot profileId

/-- What the entry of a published workspace has to be. -/
def EntryMatches (registry : WorkspaceRegistry) (entry : WorkspaceEntry)
    (journal : WorkspaceCreationJournal) (profileId : String) : Prop :=
  journal.isAtOrAfter .rootPublished ∧ entry.workspaceLabel = journal.workspaceLabel ∧
    entry.createdAt = journal.createdAt ∧ entry.lifecycleState = .ready ∧
    entry.profileId = profileId ∧
    registry.activeWorkspaceId = WorkspaceRegistry.workspaceSelectionAfterPublication
      registry.formatVersion journal.previousActiveWorkspaceId journal.workspaceId

instance (registry : WorkspaceRegistry) (entry : WorkspaceEntry)
    (journal : WorkspaceCreationJournal) (profileId : String) :
    Decidable (EntryMatches registry entry journal profileId) :=
  inferInstanceAs (Decidable (_ ∧ _))

/-- Goes on from a registered workspace. -/
def completeFromPublishedRegistry (call : RecoveryCall) (journal : WorkspaceCreationJournal)
    (registry : WorkspaceRegistry) (entry : WorkspaceEntry) (presence : RootPresence) :
    CreationProgram Unit :=
  match journal.profileId with
  | none => throw recoveryRequired
  | some profileId =>
    if presence.candidateExists ∨ ¬ presence.finalExists ∨
        ¬ EntryMatches registry entry journal profileId then throw recoveryRequired
    else do
      settlePublishedRoot call journal profileId
      let current ← advanceFrom journal .rootPublished .registryPublished
      completeRecovery call.mode current registry true
      removeJournal current.operationId

/-- Before the publication, a cold recovery makes sure that it can go on. -/
def beginDiscard (mode : CompletionMode) (journal : WorkspaceCreationJournal)
    (registry : WorkspaceRegistry) : CreationProgram Unit :=
  match mode with
  | .beforeRuntimeStart => assertColdContinuation journal.previousActiveWorkspaceId registry
  | .running => pure ()

/-- Undoes a creation that has published nothing. -/
def discardUnpublished (call : RecoveryCall) (journal : WorkspaceCreationJournal)
    (registry : WorkspaceRegistry) : CreationProgram Unit := do
  beginDiscard call.mode journal registry
  discardCandidate (pathsOf journal) call.removal
  completeRecovery call.mode journal registry false
  discardJournalBeforePublication journal.operationId

/-- What to do is decided by the directories and by the entry. -/
def recoverPresent (call : RecoveryCall) (journal : WorkspaceCreationJournal)
    (snapshot : Option WorkspaceRegistry) (presence : RootPresence) :
    CreationProgram CreationRecoveryResult :=
  let registry := WorkspaceRegistry.readWorkspaceRegistry snapshot
  if presence.candidateExists && presence.finalExists then throw recoveryRequired
  else
    match registry.find journal.workspaceId with
    | some entry => do
      completeFromPublishedRegistry call journal registry entry presence
      pure .completedPublication
    | none =>
      if presence.finalExists then do
        completeFromPublishedRoot call journal snapshot
        pure .completedPublication
      else if journal.isAtOrAfter .rootPublished then throw recoveryRequired
      else do
        discardUnpublished call journal registry
        pure .discardedBeforePublication

/-- Decides between going on and undoing. -/
def recoverJournal (call : RecoveryCall) (journal : WorkspaceCreationJournal) :
    CreationProgram CreationRecoveryResult := do
  if call.mode = .beforeRuntimeStart ∧ journal.formatVersion ≠ .v2 then
    throw .managementRecoveryRequired
  else do
    let snapshot ← readRegistry
    if call.mode = .beforeRuntimeStart ∧ snapshot = none then throw .managementRecoveryRequired
    else do
      let presence ← readPresence (pathsOf journal)
      recoverPresent call journal snapshot presence

/-- `assertRuntimeAbsent` and `assertRecoveryAdmission` of a cold recovery. -/
def admitRecovery (mode : CompletionMode) : CreationProgram Unit :=
  match mode with
  | .beforeRuntimeStart => do
    assertRuntimeAbsent
    callPort
  | .running => pure ()

/-- Reads the journal and recovers it. -/
def performRecovery (call : RecoveryCall) : CreationProgram CreationRecoveryResult := do
  admitRecovery call.mode
  match ← readJournal with
  | none => pure .nothingToRecover
  | some journal => recoverJournal call journal

/-- The errors of a recovery. -/
def mapRecoveryError (mode : CompletionMode) (error : CreationError) : CreationError :=
  if mode = .beforeRuntimeStart ∧ error = .managementRecoveryRequired then error
  else mapCreationError .recoveryRequired .recovery error

/-- A recovery under the lease. -/
def recover (call : RecoveryCall) : CreationProgram CreationRecoveryResult := do
  acquireLease
  Program.andFinally (Program.mapError (mapRecoveryError call.mode) (performRecovery call))
    releaseLease

end EmptyWorkspaceCreation
