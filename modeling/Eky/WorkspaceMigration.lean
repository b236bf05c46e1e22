import Mathlib.Data.String.Basic
import Eky.BuildAdmission
import Eky.WorkspaceRegistry

/-! # The first start of a build and the other workspaces

    `resolveWorkspaceFirstStartMigrationPlan.ts`,
    `workspaceFirstStartMigrationRegistryTransitions.ts`,
    `workspaceFirstStartMigrationTransitionCoordinator.ts` and
    `workspaceFirstStartMigrationOrchestrator.ts`, for the first start that is not
    deferred.  A workspace whose history the new build does not know is marked in the
    registry; a journal holds the digests of the registry before and after, and the
    accepted build decides which of the two it has to be. -/

/-- The errors of the migration. -/
inductive MigrationFailure
  /-- A transition that is invalid, or that the registry does not allow. -/
  | invalidTransition
  | transitionRecoveryRequired
  /-- `WorkspaceFirstStartMigrationOrchestratorError` -/
  | failed
  | recoveryRequired
  | rollbackRequired
  | other
  deriving DecidableEq

/-! ## The plan -/

/-- How the migrations of a workspace stand. -/
inductive WorkspaceMigrationInventoryStatus
  | current
  | compatiblePending
  | invalidHistory
  deriving DecidableEq

/-- The migrations of a workspace. -/
structure WorkspaceMigrationInventoryEntry where
  workspaceId : WorkspaceId
  isActive : Bool
  status : WorkspaceMigrationInventoryStatus
  appliedMigrationCount : Nat
  pendingMigrationCount : Nat
  deriving DecidableEq

/-- The migrations of all workspaces. -/
structure WorkspaceMigrationInventory where
  activeWorkspaceId : Option WorkspaceId
  entries : List WorkspaceMigrationInventoryEntry
  deriving DecidableEq

/-- Whether there is anything to migrate. -/
inductive MigrationPlanKind
  | notRequired
  | required
  deriving DecidableEq

/-- What a first start migrates and what it marks. -/
structure WorkspaceFirstStartMigrationPlan where
  activeWorkspace : Option WorkspaceMigrationInventoryEntry
  kind : MigrationPlanKind
  passiveRecoveryWorkspaceIds : List WorkspaceId
  deriving DecidableEq

namespace WorkspaceMigration

/-- The counts agree with the status. -/
def countsMatchStatus (entry : WorkspaceMigrationInventoryEntry) : Bool :=
  match entry.status with
  | .current => entry.pendingMigrationCount = 0
  | .compatiblePending => 0 < entry.pendingMigrationCount
  | .invalidHistory => entry.appliedMigrationCount = 0 && entry.pendingMigrationCount = 0

/-- `validateInventory` -/
def inventoryValid (inventory : WorkspaceMigrationInventory) : Bool :=
  inventory.entries.length ≤ 64 && inventory.entries.all fun entry =>
    entry.appliedMigrationCount ≤ maximumSafeInteger &&
      entry.pendingMigrationCount ≤ maximumSafeInteger && countsMatchStatus entry

/-- `validateBuildIdentity` -/
def buildValid (build : BuildVersion) : Bool :=
  isSemVer build.appVersion && isBuildRevision build.buildRevision

/-- The target comes after the source. -/
def isNewer (target source : BuildVersion) : Bool :=
  if h : isSemVer target.appVersion = true ∧ isSemVer source.appVersion = true then
    compareSemanticVersions target.appVersion source.appVersion h.1 h.2 = .gt
  else false

/-- The workspaces that are ready are the ones that were inspected. -/
def inventoryCovers (registry : WorkspaceRegistry) (inventory : WorkspaceMigrationInventory) :
    Bool :=
  let ready := (registry.workspaces.filter (·.lifecycleState = .ready)).map (·.workspaceId)
  inventory.activeWorkspaceId = registry.activeWorkspaceId &&
    inventory.entries.length = ready.length &&
    (inventory.entries.map (·.workspaceId)).Nodup &&
    inventory.entries.all fun entry => ready.contains entry.workspaceId &&
      entry.isActive = (registry.activeWorkspaceId = some entry.workspaceId : Bool)

/-- The passive workspaces with an invalid history. -/
def passiveInvalid (inventory : WorkspaceMigrationInventory) : List WorkspaceId :=
  (inventory.entries.filter fun entry => !entry.isActive && entry.status = .invalidHistory).map
    (·.workspaceId)

/-- Nothing to migrate. -/
def notRequiredPlan : WorkspaceFirstStartMigrationPlan := ⟨none, .notRequired, []⟩

/-- The plan of an update. -/
def createUpdatePlan (registry : WorkspaceRegistry) (inventory : WorkspaceMigrationInventory) :
    Except MigrationFailure WorkspaceFirstStartMigrationPlan :=
  if !inventoryCovers registry inventory then .error .other
  else
    match registry.activeWorkspaceId with
    | none => if inventory.entries = [] then .ok notRequiredPlan else .error .other
    | some active =>
      match inventory.entries.find? fun entry => entry.workspaceId = active with
      | none => .error .other
      | some activeEntry =>
        if activeEntry.status = .invalidHistory then .error .other
        else
          let passive := (passiveInvalid inventory).mergeSort fun left right => left ≤ right
          if 63 < passive.length then .error .other
          else
            let required := activeEntry.status = .compatiblePending ∨ 0 < passive.length
            .ok ⟨some activeEntry, if required then .required else .notRequired, passive⟩

/-- The build is newer than the accepted one. -/
def isUpdateAdmission : PreWorkspaceBuildAdmission → Bool
  | .authorizedNewerBuild | .coordinatedUpdateTarget => true
  | .exactAcceptedBuild | .initialInstall => false

/-- `validateNoMigrationAdmission` -/
def noMigrationValid (admission : PreWorkspaceBuildAdmission) (sourceBuild : Option BuildVersion)
    (targetBuild : BuildVersion) : Bool :=
  match admission with
  | .initialInstall => sourceBuild = none
  | .exactAcceptedBuild => sourceBuild = some targetBuild
  | _ => false

/-- The plan of a start. -/
def resolveWorkspaceFirstStartMigrationPlan (admission : PreWorkspaceBuildAdmission)
    (inventory : Option WorkspaceMigrationInventory) (registry : WorkspaceRegistry)
    (sourceBuild : Option BuildVersion) (targetBuild : BuildVersion) :
    Except MigrationFailure WorkspaceFirstStartMigrationPlan :=
  if ¬ registry.Valid ∨ !buildValid targetBuild ∨ !sourceBuild.all buildValid then .error .other
  else if !isUpdateAdmission admission then
    if noMigrationValid admission sourceBuild targetBuild && inventory.isNone then
      .ok notRequiredPlan
    else .error .other
  else
    match sourceBuild, inventory with
    | some source, some inventory =>
      if isNewer targetBuild source && inventoryValid inventory then
        createUpdatePlan registry inventory
      else .error .other
    | _, _ => .error .other

/-! ## Marking the registry, and taking the marks back -/

/-- `validatePassiveWorkspaceIds`: in order, without the active one. -/
def PassiveIdsValid (ids : List WorkspaceId) (active : WorkspaceId) : Prop :=
  ids.length ≤ 63 ∧ ids.Pairwise (· < ·) ∧ active ∉ ids

instance (ids : List WorkspaceId) (active : WorkspaceId) : Decidable (PassiveIdsValid ids active) :=
  inferInstanceAs (Decidable (_ ∧ _))

/-- The listed workspaces are in the lifecycle state. -/
def allInState (registry : WorkspaceRegistry) (ids : List WorkspaceId)
    (state : WorkspaceLifecycleState) : Bool :=
  ids.all fun id => (registry.find id).map (·.lifecycleState) = some state

/-- The listed workspaces are put into the lifecycle state. -/
def withLifecycle (registry : WorkspaceRegistry) (ids : List WorkspaceId)
    (state : WorkspaceLifecycleState) : WorkspaceRegistry :=
  { registry with workspaces := registry.workspaces.map fun entry =>
      if ids.contains entry.workspaceId then { entry with lifecycleState := state } else entry }

/-- Marks passive workspaces. -/
def markPassiveWorkspacesRecoveryRequired (registry : WorkspaceRegistry)
    (expectedActiveWorkspaceId : WorkspaceId) (passiveRecoveryWorkspaceIds : List WorkspaceId) :
    Except MigrationFailure WorkspaceRegistry :=
  if ¬ registry.Valid ∨ ¬ PassiveIdsValid passiveRecoveryWorkspaceIds expectedActiveWorkspaceId ∨
      registry.activeWorkspaceId ≠ some expectedActiveWorkspaceId then
    .error .invalidTransition
  else if passiveRecoveryWorkspaceIds = [] then .ok registry
  else if !allInState registry passiveRecoveryWorkspaceIds .ready then .error .invalidTransition
  else
    let marked := withLifecycle registry passiveRecoveryWorkspaceIds .recoveryRequired
    if marked.Valid then .ok marked else .error .invalidTransition

section Digests

/-! The digest, `calculateWorkspaceRegistrySha256`, is SHA-256 of the serialized registry. -/

variable {Digest : Type} [DecidableEq Digest]
  (registrySha256 : WorkspaceRegistry → Digest)

/-- Takes the marks back. -/
def restoreJournaledPassiveWorkspacesReady (registry : WorkspaceRegistry)
    (expectedActiveWorkspaceId : WorkspaceId) (passiveRecoveryWorkspaceIds : List WorkspaceId)
    (sourceRegistrySha256 transitionedRegistrySha256 : Digest) :
    Except MigrationFailure WorkspaceRegistry :=
  if ¬ registry.Valid ∨
      ¬ PassiveIdsValid passiveRecoveryWorkspaceIds expectedActiveWorkspaceId then
    .error .invalidTransition
  else if registry.activeWorkspaceId ≠ some expectedActiveWorkspaceId ∨
      registrySha256 registry ≠ transitionedRegistrySha256 then
    .error .transitionRecoveryRequired
  else if !allInState registry passiveRecoveryWorkspaceIds .recoveryRequired then
    .error .transitionRecoveryRequired
  else
    let restored := withLifecycle registry passiveRecoveryWorkspaceIds .ready
    if ¬ restored.Valid then .error .invalidTransition
    else if registrySha256 restored ≠ sourceRegistrySha256 then
      .error .transitionRecoveryRequired
    else .ok restored

end Digests

/-! ## The journal -/

/-- How far the marking has come. -/
inductive MigrationJournalState
  | prepared
  | registryTransitioned
  deriving DecidableEq

/-- `WorkspaceFirstStartMigrationJournalV1` -/
structure MigrationJournal (Digest : Type) where
  operationId : String
  state : MigrationJournalState
  sourceBuild : BuildVersion
  targetBuild : BuildVersion
  activeWorkspaceId : WorkspaceId
  passiveRecoveryWorkspaceIds : List WorkspaceId
  sourceRegistrySha256 : Digest
  transitionedRegistrySha256 : Digest
  createdAt : Instant
  updatedAt : Instant
  deriving DecidableEq

section Journal

variable {Digest : Type} [DecidableEq Digest]

/-- `validateWorkspaceFirstStartMigrationJournal` -/
def journalValid (journal : MigrationJournal Digest) : Bool :=
  buildValid journal.sourceBuild && buildValid journal.targetBuild &&
    isNewer journal.targetBuild journal.sourceBuild &&
    PassiveIdsValid journal.passiveRecoveryWorkspaceIds journal.activeWorkspaceId &&
    journal.createdAt ≤ journal.updatedAt

/-- `assertWorkspaceFirstStartMigrationJournalTransition` -/
def transitionAllowed (current : Option (MigrationJournal Digest))
    (next : MigrationJournal Digest) : Bool :=
  match current with
  | none => next.state = .prepared
  | some current =>
    -- What identifies the journal is everything besides its state and its last update.
    if { current with state := next.state, updatedAt := next.updatedAt } ≠ next then false
    else if current.state = next.state then current = next
    else current.state = .prepared && next.state = .registryTransitioned &&
      current.updatedAt ≤ next.updatedAt

end Journal

end WorkspaceMigration

/-- What the first start reads and writes, and the inventory by which the accepted
    build was accepted. -/
structure MigrationWorld (Digest : Type) where
  registry : Option StoredRegistry
  journal : Option (WorkspaceMigration.MigrationJournal Digest)
  accepted : Option VersionedAcceptedBuildMetadata
  acceptedBy : Option WorkspaceMigrationInventory

/-- A program over registry, journal and record. -/
abbrev MigrationProgram (Digest α : Type) : Type :=
  Program (MigrationWorld Digest) Fate MigrationFailure α

namespace WorkspaceMigration

open VersionedAcceptedBuildMetadata

variable {Digest : Type} [DecidableEq Digest]
  (registrySha256 : WorkspaceRegistry → Digest)

/-! ## The ports -/

/-- `inspect` of the registry reads the same. -/
def readRegistry : MigrationProgram Digest (Option WorkspaceRegistry) :=
  attempt .other fun world => .ok (world.registry.map (·.toWorkspaceRegistry), world)

/-- The registry store takes a valid registry. -/
def writeRegistry (value : WorkspaceRegistry) : MigrationProgram Digest Unit :=
  attempt .other fun world =>
    if hvalid : value.Valid then
      if world.registry.map (·.formatVersion) = some .v2 ∧ value.formatVersion = .v1 then
        .error .other
      else .ok ((), { world with registry := some ⟨value, hvalid⟩ })
    else .error .other

/-- What the journal store reads. -/
def readJournal : MigrationProgram Digest (Option (MigrationJournal Digest)) :=
  attempt .other fun world => .ok (world.journal, world)

/-- The journal store takes the next journal, if the step is allowed. -/
def writeJournal (next : MigrationJournal Digest) : MigrationProgram Digest Unit :=
  attempt .other fun world =>
    if journalValid next && transitionAllowed world.journal next then
      .ok ((), { world with journal := some next })
    else .error .other

/-- `discardPrepared` and `removeTransitioned` -/
def removeMatching (operationId : String) (expectedState : MigrationJournalState) :
    MigrationProgram Digest Unit :=
  attempt .other fun world =>
    match world.journal with
    | some current =>
      if current.operationId = operationId ∧ current.state = expectedState then
        .ok ((), { world with journal := none })
      else .error .other
    | none => .error .other

/-- The record of the accepted build. -/
def readAccepted : MigrationProgram Digest (Option VersionedAcceptedBuildMetadata) :=
  attempt .other fun world => .ok (world.accepted, world)

/-- The write of the accepted metadata in `acceptAfterBackendReady`. -/
def writeAccepted (target : AcceptedBuildMetadata)
    (inventory : Option WorkspaceMigrationInventory) : MigrationProgram Digest Unit :=
  attempt .other fun world => .ok ((), { world with
    accepted := some (createBusinessAcceptedBuildMetadata world.accepted target)
    acceptedBy := inventory })

/-- A call of something that keeps none of this. -/
def callRuntime : MigrationProgram Digest Unit := attemptNothing .other

/-! ## The transition coordinator -/

/-- The registry, which must be there. -/
def readRequiredRegistry : MigrationProgram Digest WorkspaceRegistry := do
  match ← readRegistry with
  | none => throw .invalidTransition
  | some registry => pure registry

/-- The journal of an operation, which must be there. -/
def readRequiredJournal (operationId : String) :
    MigrationProgram Digest (MigrationJournal Digest) := do
  match ← readJournal with
  | none => throw .invalidTransition
  | some journal =>
    if journal.operationId ≠ operationId then throw .invalidTransition else pure journal

/-- What `prepare` is given, besides the plan. -/
structure PreparationInput where
  operationId : String
  sourceBuild : BuildVersion
  targetBuild : BuildVersion
  createdAt : Instant
  deriving DecidableEq

/-- The journal that `prepare` writes. -/
def preparedJournal (input : PreparationInput) (active : WorkspaceId) (passive : List WorkspaceId)
    (registry transitioned : WorkspaceRegistry) : MigrationJournal Digest where
  operationId := input.operationId
  state := .prepared
  sourceBuild := input.sourceBuild
  targetBuild := input.targetBuild
  activeWorkspaceId := active
  passiveRecoveryWorkspaceIds := passive
  sourceRegistrySha256 := registrySha256 registry
  transitionedRegistrySha256 := registrySha256 transitioned
  createdAt := input.createdAt
  updatedAt := input.createdAt

/-- Writes the journal of a plan. -/
def prepare (input : PreparationInput) (plan : WorkspaceFirstStartMigrationPlan) :
    MigrationProgram Digest (MigrationJournal Digest) :=
  match plan.kind, plan.activeWorkspace with
  | .required, some active => do
    let registry ← readRequiredRegistry
    if registry.activeWorkspaceId ≠ some active.workspaceId then throw .invalidTransition
    else do
      let transitioned ← Program.ofExcept (markPassiveWorkspacesRecoveryRequired registry
        active.workspaceId plan.passiveRecoveryWorkspaceIds)
      let journal := preparedJournal registrySha256 input active.workspaceId
        plan.passiveRecoveryWorkspaceIds registry transitioned
      writeJournal journal
      pure journal
  | _, _ => throw .invalidTransition

/-- The registry is brought to what the journal says; nothing is written if the journal
    marks no workspace. -/
def transitionStoredRegistry (journal : MigrationJournal Digest) (registry : WorkspaceRegistry) :
    MigrationProgram Digest Unit :=
  if registrySha256 registry = journal.sourceRegistrySha256 then do
    let transitioned ← Program.ofExcept (markPassiveWorkspacesRecoveryRequired registry
      journal.activeWorkspaceId journal.passiveRecoveryWorkspaceIds)
    if registrySha256 transitioned ≠ journal.transitionedRegistrySha256 then
      throw .transitionRecoveryRequired
    else if journal.sourceRegistrySha256 ≠ journal.transitionedRegistrySha256 then
      writeRegistry transitioned
    else pure ()
  else if registrySha256 registry ≠ journal.transitionedRegistrySha256 then
    throw .transitionRecoveryRequired
  else pure ()

/-- Marks the registry, then the journal. -/
def transitionRegistry (operationId : String) (sourceBuild targetBuild : BuildVersion)
    (updatedAt : Instant) : MigrationProgram Digest (MigrationJournal Digest) := do
  let journal ← readRequiredJournal operationId
  if journal.sourceBuild ≠ sourceBuild ∨ journal.targetBuild ≠ targetBuild then
    throw .invalidTransition
  else do
    let registry ← readRequiredRegistry
    if journal.state = .registryTransitioned then
      if registrySha256 registry ≠ journal.transitionedRegistrySha256 then
        throw .transitionRecoveryRequired
      else pure journal
    else do
      transitionStoredRegistry registrySha256 journal registry
      let transitioned := { journal with state := .registryTransitioned, updatedAt := updatedAt }
      writeJournal transitioned
      pure transitioned

/-- Clears a journal that has marked nothing. -/
def cancelPrepared (operationId : String) : MigrationProgram Digest Unit := do
  let journal ← readRequiredJournal operationId
  if journal.state ≠ .prepared then throw .invalidTransition
  else do
    let registry ← readRequiredRegistry
    if registrySha256 registry ≠ journal.sourceRegistrySha256 then
      throw .transitionRecoveryRequired
    else removeMatching operationId .prepared

/-- Clears the journal of an accepted update. -/
def completeAcceptedTarget (operationId : String) (sourceBuild targetBuild : BuildVersion) :
    MigrationProgram Digest Unit := do
  let journal ← readRequiredJournal operationId
  if journal.state ≠ .registryTransitioned ∨ journal.sourceBuild ≠ sourceBuild ∨
      journal.targetBuild ≠ targetBuild then throw .invalidTransition
  else do
    let registry ← readRequiredRegistry
    if registrySha256 registry ≠ journal.transitionedRegistrySha256 then
      throw .transitionRecoveryRequired
    else do
      let metadata ← readAccepted
      let acceptedBuild := metadata.bind readAcceptedBusinessBuild
      if acceptedBuild.map (·.toBuildVersion) ≠ some journal.targetBuild then
        throw .transitionRecoveryRequired
      else removeMatching journal.operationId .registryTransitioned

/-! ### The recovery -/

/-- What a recovery has done. -/
inductive MigrationRecoveryKind
  | noJournal
  | resumable
  | recoveredSource
  | acceptedTarget
  | recoveryRequired
  deriving DecidableEq

/-- Which build of the journal is accepted. -/
inductive AcceptedSide
  | source
  | target
  | other
  deriving DecidableEq

/-- Which build of the journal is accepted, if either. -/
def classifyAcceptedBuild (metadata : Option VersionedAcceptedBuildMetadata)
    (journal : MigrationJournal Digest) : AcceptedSide :=
  match metadata.bind readAcceptedBusinessBuild with
  | none => .other
  | some acceptedBuild =>
    if acceptedBuild.toBuildVersion = journal.sourceBuild then .source
    else if acceptedBuild.toBuildVersion = journal.targetBuild then .target
    else .other

/-- Takes the marks back. -/
def restoreSourceRegistry (registry : WorkspaceRegistry) (journal : MigrationJournal Digest) :
    MigrationProgram Digest Unit := do
  let restored ← Program.ofExcept (restoreJournaledPassiveWorkspacesReady
    registrySha256 registry journal.activeWorkspaceId
    journal.passiveRecoveryWorkspaceIds journal.sourceRegistrySha256
    journal.transitionedRegistrySha256)
  if registrySha256 registry ≠ journal.sourceRegistrySha256 then
    writeRegistry restored
  else pure ()

/-- The recovery with a journal that only announces the transition. -/
def recoverPrepared (runningBuild : BuildVersion) (registry : WorkspaceRegistry)
    (side : AcceptedSide) (journal : MigrationJournal Digest) :
    MigrationProgram Digest MigrationRecoveryKind :=
  let digest := registrySha256 registry
  if side = .source ∧ digest = journal.sourceRegistrySha256 then pure .resumable
  else if side = .source ∧ digest = journal.transitionedRegistrySha256 then do
    restoreSourceRegistry registrySha256 registry journal
    removeMatching journal.operationId .prepared
    pure .recoveredSource
  else if side = .target ∧ runningBuild = journal.targetBuild ∧
      digest = journal.transitionedRegistrySha256 then do
    removeMatching journal.operationId .prepared
    pure .acceptedTarget
  else pure .recoveryRequired

/-- The recovery with a journal of a transition that was carried out. -/
def recoverTransitioned (runningBuild : BuildVersion) (registry : WorkspaceRegistry)
    (side : AcceptedSide) (journal : MigrationJournal Digest) :
    MigrationProgram Digest MigrationRecoveryKind :=
  let digest := registrySha256 registry
  if side = .source ∧ digest = journal.transitionedRegistrySha256 then do
    restoreSourceRegistry registrySha256 registry journal
    removeMatching journal.operationId .registryTransitioned
    pure .recoveredSource
  else if side = .source ∧ digest = journal.sourceRegistrySha256 then do
    removeMatching journal.operationId .registryTransitioned
    pure .recoveredSource
  else if side = .target ∧ runningBuild = journal.targetBuild ∧
      digest = journal.transitionedRegistrySha256 then do
    removeMatching journal.operationId .registryTransitioned
    pure .acceptedTarget
  else pure .recoveryRequired

/-- What a recovery does with a journal. -/
def recoverWith (runningBuild : BuildVersion) (journal : MigrationJournal Digest) :
    MigrationProgram Digest MigrationRecoveryKind :=
  if runningBuild ≠ journal.sourceBuild ∧ runningBuild ≠ journal.targetBuild then
    pure .recoveryRequired
  else do
    match ← readRegistry with
    | none => pure .recoveryRequired
    | some registry => do
      let side := classifyAcceptedBuild (← readAccepted) journal
      match journal.state with
      | .prepared =>
        recoverPrepared registrySha256 runningBuild registry side journal
      | .registryTransitioned =>
        recoverTransitioned registrySha256 runningBuild registry side journal

/-- The result names the operation of the journal, if there is one. -/
def recover (runningBuild : BuildVersion) :
    MigrationProgram Digest (MigrationRecoveryKind × Option String) := do
  match ← readJournal with
  | none => pure (.noJournal, none)
  | some journal => do
    let kind ← recoverWith registrySha256 runningBuild journal
    pure (kind, some journal.operationId)

/-! ## The orchestration of one first start

    The orchestrator is used once; that its parts are called in their order is the
    order of `firstStart`. -/

/-- What a start finds: the build that runs, how it was admitted, what the inspection of
    the workspaces yields, if it does, and the identifiers and times that it draws. -/
structure StartInput where
  running : AcceptedBuildMetadata
  admission : PreWorkspaceBuildAdmission
  inventory : Option WorkspaceMigrationInventory
  operationId : String
  createdAt : Instant
  updatedAt : Instant
  /-- What a failure before the backend is reported as. -/
  reported : MigrationFailure

/-- The build that starts. -/
def StartInput.runningBuild (input : StartInput) : BuildVersion := input.running.toBuildVersion

/-- What a recovery tells the start. -/
inductive WorkspaceFirstStartRecoveryOutcome
  | noJournal
  | recoveredSource
  | acceptedTarget
  | resumable
  | preparedCancelled
  deriving DecidableEq

/-- What a recovery that found a journal means for this start. -/
def recoveryOutcome (input : StartInput) (kind : MigrationRecoveryKind)
    (before : MigrationJournal Digest) :
    MigrationProgram Digest
      (WorkspaceFirstStartRecoveryOutcome × Option (MigrationJournal Digest)) :=
  match kind with
  | .noJournal => pure (.noJournal, none)
  | .recoveryRequired => throw .recoveryRequired
  | .recoveredSource => pure (.recoveredSource, none)
  | .acceptedTarget =>
    if input.runningBuild ≠ before.targetBuild then throw .recoveryRequired
    else pure (.acceptedTarget, none)
  | .resumable =>
    if input.runningBuild = before.targetBuild ∧ isUpdateAdmission input.admission then
      pure (.resumable, some before)
    else if input.runningBuild = before.sourceBuild ∧ input.admission = .exactAcceptedBuild then do
      tryCatch (cancelPrepared registrySha256 before.operationId)
        fun _ => throw .recoveryRequired
      pure (.preparedCancelled, none)
    else throw .recoveryRequired

/-- The outcome, with the journal that is to be resumed. -/
def recoverBeforeWorkspaceResolution (input : StartInput) :
    MigrationProgram Digest
      (WorkspaceFirstStartRecoveryOutcome × Option (MigrationJournal Digest)) := do
  let journalBeforeRecovery ← readJournal
  let result ← tryCatch (recover registrySha256 input.runningBuild)
    fun _ => throw .recoveryRequired
  if result.1 = .noJournal then pure (.noJournal, none)
  else
    match journalBeforeRecovery with
    | none => throw .recoveryRequired
    | some before =>
      if result.2 ≠ some before.operationId then throw .recoveryRequired
      else recoveryOutcome registrySha256 input result.1 before

/-- `notRequired`, or the operation that was prepared or resumed. -/
inductive Preparation (Digest : Type)
  | notRequired
  | required (journal : MigrationJournal Digest)

/-- `assertResumedPlan` -/
def resumedPlanValid (input : StartInput) (journal : MigrationJournal Digest)
    (plan : WorkspaceFirstStartMigrationPlan) (registry : WorkspaceRegistry)
    (sourceBuild : BuildVersion) : Bool :=
  sourceBuild = journal.sourceBuild && input.runningBuild = journal.targetBuild &&
    plan.activeWorkspace.map (·.workspaceId) = some journal.activeWorkspaceId &&
    plan.passiveRecoveryWorkspaceIds = journal.passiveRecoveryWorkspaceIds &&
    registrySha256 registry = journal.sourceRegistrySha256 &&
    (match markPassiveWorkspacesRecoveryRequired registry journal.activeWorkspaceId
        journal.passiveRecoveryWorkspaceIds with
      | .ok transitioned =>
        registrySha256 transitioned = journal.transitionedRegistrySha256
      | .error _ => false)

/-- `inventory.inspect` -/
def inspectInventory (input : StartInput) :
    MigrationProgram Digest WorkspaceMigrationInventory := do
  callRuntime
  match input.inventory with
  | none => throw .other
  | some inventory => pure inventory

/-- `resolveSourceBuild`, for an update. -/
def resolveSourceBuild : MigrationProgram Digest BuildVersion := do
  match ← readAccepted with
  | none => throw .failed
  | some acceptedBuild => pure acceptedBuild.readAcceptedBusinessBaseline.toBuildVersion

/-- What is prepared once the plan has been made. -/
def prepareWith (input : StartInput) (resumed : Option (MigrationJournal Digest))
    (registry : WorkspaceRegistry) (sourceBuild : BuildVersion)
    (plan : WorkspaceFirstStartMigrationPlan) : MigrationProgram Digest (Preparation Digest) :=
  match resumed with
  | some journal =>
    if resumedPlanValid registrySha256 input journal plan registry
        sourceBuild then
      pure (.required journal)
    else throw .failed
  | none =>
    if plan.kind = .notRequired then pure .notRequired
    else do
      let journal ← prepare registrySha256
        ⟨input.operationId, sourceBuild, input.runningBuild, input.createdAt⟩ plan
      pure (.required journal)

/-- Prepares what the plan says. -/
def preparePlanned (input : StartInput) (resumed : Option (MigrationJournal Digest)) :
    MigrationProgram Digest (Preparation Digest) := do
  match ← readRegistry with
  | none => throw .failed
  | some registry => do
    let sourceBuild ← resolveSourceBuild
    let inventory ← inspectInventory input
    let plan ← Program.ofExcept (resolveWorkspaceFirstStartMigrationPlan input.admission
      (some inventory) registry (some sourceBuild) input.runningBuild)
    prepareWith registrySha256 input resumed registry sourceBuild plan

/-- `failBeforeBackend`: the failure is recorded, and it is thrown as what it came to. -/
def failBeforeBackend {α : Type} (input : StartInput) : MigrationProgram Digest α := do
  tryCatch callRuntime fun _ => throw .failed
  throw input.reported

/-- Prepares a start of a newer build. -/
def prepareBeforeBackend (input : StartInput) (resumed : Option (MigrationJournal Digest)) :
    MigrationProgram Digest (Preparation Digest) :=
  if !isUpdateAdmission input.admission then pure .notRequired
  else tryCatch (preparePlanned registrySha256 input resumed) fun _ =>
    failBeforeBackend input

/-- Marks the registry. -/
def transitionRegistryAfterActiveWorkspaceAcceptance (input : StartInput)
    (preparation : Preparation Digest) : MigrationProgram Digest Unit :=
  match preparation with
  | .notRequired => pure ()
  | .required journal => do
    let _ ← transitionRegistry registrySha256 journal.operationId
      journal.sourceBuild journal.targetBuild input.updatedAt
    pure ()

/-- `acceptAfterBackendReady`, for a build that is not the accepted one yet. -/
def acceptTarget (input : StartInput) : MigrationProgram Digest Unit :=
  if isUpdateAdmission input.admission then writeAccepted input.running input.inventory
  else pure ()

/-- Clears the journal. -/
def completeAfterTargetAcceptance (preparation : Preparation Digest) :
    MigrationProgram Digest Unit :=
  match preparation with
  | .notRequired => pure ()
  | .required journal =>
    completeAcceptedTarget registrySha256 journal.operationId
      journal.sourceBuild journal.targetBuild

/-- A first start. -/
def firstStart (input : StartInput) : MigrationProgram Digest Unit := do
  let recovered ← recoverBeforeWorkspaceResolution registrySha256 input
  -- The workspace is resolved.
  callRuntime
  let preparation ← prepareBeforeBackend registrySha256 input recovered.2
  -- The backend is started, and the active workspace is accepted.
  callRuntime
  transitionRegistryAfterActiveWorkspaceAcceptance registrySha256 input
    preparation
  acceptTarget input
  completeAfterTargetAcceptance registrySha256 preparation

end WorkspaceMigration
