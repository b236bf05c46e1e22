import Eky.WorkspaceRegistry

/-! # Switching between workspaces

    `workspaceSwitchCoordinator.ts` and `workspaceSwitchStartup.ts`, for journals of
    the first format: a switch is recorded in a journal before the active workspace
    is changed, and the start that follows accepts the workspace or goes back.  The
    registry and the journal are behind ports whose calls can fail before they have
    taken effect, or after. -/

/-- The errors of a switch. -/
inductive WorkspaceSwitchErrorCode
  | busy
  | invalid
  | recoveryRequired
  | storageFailed
  deriving DecidableEq

/-- A `WorkspaceSwitchError`, or an error of something else. -/
inductive SwitchFailure
  | switch (code : WorkspaceSwitchErrorCode)
  | other
  deriving DecidableEq

/-- `mapWorkspaceSwitchError` -/
def mapWorkspaceSwitchError : SwitchFailure → WorkspaceSwitchErrorCode
  | .switch code => code
  | .other => .storageFailed

/-- How far a switch has come. -/
inductive WorkspaceSwitchJournalState
  | prepared
  | targetSelected
  | rollbackSelected
  | recoveryRequired
  deriving DecidableEq

/-- `WorkspaceSwitchJournalV1` -/
structure WorkspaceSwitchJournal where
  operationId : String
  sourceWorkspaceId : WorkspaceId
  targetWorkspaceId : WorkspaceId
  state : WorkspaceSwitchJournalState
  createdAt : String
  deriving DecidableEq

namespace WorkspaceSwitchJournal

/-- The journal in another state. -/
def withState (journal : WorkspaceSwitchJournal) (state : WorkspaceSwitchJournalState) :
    WorkspaceSwitchJournal :=
  { journal with state := state }

section

variable (journal : WorkspaceSwitchJournal) (state : WorkspaceSwitchJournalState)

@[simp] theorem withState_operationId :
    (journal.withState state).operationId = journal.operationId := rfl
@[simp] theorem withState_source :
    (journal.withState state).sourceWorkspaceId = journal.sourceWorkspaceId := rfl
@[simp] theorem withState_target :
    (journal.withState state).targetWorkspaceId = journal.targetWorkspaceId := rfl
@[simp] theorem withState_state : (journal.withState state).state = state := rfl
@[simp] theorem withState_withState (state' : WorkspaceSwitchJournalState) :
    (journal.withState state).withState state' = journal.withState state' := rfl

end

/-- The table of `assertWorkspaceSwitchTransition`. -/
def transitions : WorkspaceSwitchJournalState → List WorkspaceSwitchJournalState
  | .prepared => [.prepared, .targetSelected, .rollbackSelected, .recoveryRequired]
  | .targetSelected => [.targetSelected, .rollbackSelected, .recoveryRequired]
  | .rollbackSelected => [.rollbackSelected, .recoveryRequired]
  | .recoveryRequired => [.recoveryRequired]

/-- `assertWorkspaceSwitchTransition` -/
def transitionAllowed (current : Option WorkspaceSwitchJournal) (next : WorkspaceSwitchJournal) :
    Bool :=
  match current with
  | none => next.state = .prepared
  | some current =>
    current.operationId = next.operationId && current.sourceWorkspaceId = next.sourceWorkspaceId &&
      current.targetWorkspaceId = next.targetWorkspaceId && current.createdAt = next.createdAt &&
      (transitions current.state).contains next.state

end WorkspaceSwitchJournal

/-- The two stores, and what has been accepted so far: the workspaces with the profiles
    that they were accepted with, the last one first. -/
structure SwitchWorld where
  registry : Option StoredRegistry
  journal : Option WorkspaceSwitchJournal
  accepted : List (WorkspaceId × String)
  deriving DecidableEq

/-- A program over registry and journal. -/
abbrev SwitchProgram (α : Type) : Type := Program SwitchWorld Fate SwitchFailure α

namespace WorkspaceSwitch

/-! ## The ports -/

/-- What the registry store reads. -/
def readRegistry : SwitchProgram (Option WorkspaceRegistry) :=
  attempt .other fun world => .ok (world.registry.map (·.toWorkspaceRegistry), world)

/-- The registry store takes a valid registry. -/
def writeRegistry (value : WorkspaceRegistry) : SwitchProgram Unit :=
  attempt .other fun world =>
    if hvalid : value.Valid then
      if world.registry.map (·.formatVersion) = some .v2 ∧ value.formatVersion = .v1 then
        .error .other
      else .ok ((), { world with registry := some ⟨value, hvalid⟩ })
    else .error .other

/-- What the journal store reads. -/
def readJournal : SwitchProgram (Option WorkspaceSwitchJournal) :=
  attempt (.switch .storageFailed) fun world => .ok (world.journal, world)

/-- The journal store takes the next journal, if the step is allowed. -/
def writeJournal (next : WorkspaceSwitchJournal) : SwitchProgram Unit :=
  attempt (.switch .storageFailed) fun world =>
    if next.sourceWorkspaceId ≠ next.targetWorkspaceId ∧
        WorkspaceSwitchJournal.transitionAllowed world.journal next then
      .ok ((), { world with journal := some next })
    else .error (.switch .invalid)

/-- `clear`, together with what the removal of the journal settles. -/
def clearJournal (operationId : String) (settles : List (WorkspaceId × String)) :
    SwitchProgram Unit :=
  attempt (.switch .storageFailed) fun world =>
    match world.journal with
    | some current =>
      if current.operationId = operationId then
        .ok ((), { world with journal := none, accepted := settles ++ world.accepted })
      else .error (.switch .invalid)
    | none => .error (.switch .invalid)

/-- A call of the lease or of the runtime. -/
def callRuntime : SwitchProgram Unit := attemptNothing .other

/-- A check of `selectActiveWorkspace` or of its like. -/
def mutate (mutation : Except WorkspaceRegistry.MutationFailure WorkspaceRegistry) :
    SwitchProgram WorkspaceRegistry :=
  Program.ofExcept (mutation.mapError fun _ => .other)

/-! ## The command -/

/-- What a switch is given, and what the runtime answers. -/
structure SwitchRequest where
  targetWorkspaceId : WorkspaceId
  operationId : String
  createdAt : String
  handlesClosed : Bool
  deriving DecidableEq

/-- Takes a switch back before the relaunch. -/
def rollbackBeforeRelaunch (journal : WorkspaceSwitchJournal) : SwitchProgram Unit := do
  match ← readRegistry with
  | none => throw (.switch .recoveryRequired)
  | some registry =>
    match ← readJournal with
    | none => throw (.switch .recoveryRequired)
    | some current =>
      if current.operationId ≠ journal.operationId then throw (.switch .recoveryRequired)
      else if registry.activeWorkspaceId = some journal.targetWorkspaceId then do
        let selected ← mutate (registry.selectActiveWorkspace journal.targetWorkspaceId
          journal.sourceWorkspaceId)
        writeRegistry selected
        writeJournal (current.withState .rollbackSelected)
      else if registry.activeWorkspaceId ≠ some journal.sourceWorkspaceId then
        throw (.switch .recoveryRequired)
      else if current.state = .prepared then clearJournal journal.operationId []
      else writeJournal (current.withState .rollbackSelected)

/-- The journal asks for a recovery. -/
def markRecoveryRequired (journal : Option WorkspaceSwitchJournal) : SwitchProgram Unit :=
  match journal with
  | none => pure ()
  | some journal => Program.ignoreError do
    match ← readJournal with
    | none => pure ()
    | some current =>
      if current.operationId ≠ journal.operationId then pure ()
      else writeJournal (current.withState .recoveryRequired)

/-- `true` if the step threw. -/
def failed (step : SwitchProgram Unit) : SwitchProgram Bool :=
  tryCatch (step >>= fun _ => pure false) fun _ => pure true

/-- The rollback, once there is a journal to roll back. -/
def rollbackFails (journal : Option WorkspaceSwitchJournal) : SwitchProgram Bool :=
  match journal with
  | none => pure false
  | some journal => failed (rollbackBeforeRelaunch journal)

/-- `ensurePreviousWorkspaceRunning`, once the workspace has been told to stop. -/
def restartFails (lifecycleTransitionStarted : Bool) : SwitchProgram Bool :=
  if lifecycleTransitionStarted then failed callRuntime else pure false

/-- What a failed switch does before it returns its error. -/
def recoverBeforeReturning (originalError : WorkspaceSwitchErrorCode)
    (journal : Option WorkspaceSwitchJournal) (lifecycleTransitionStarted : Bool) :
    SwitchProgram WorkspaceSwitchErrorCode := do
  let rollbackFailed ← rollbackFails journal
  let restartFailed ← restartFails lifecycleTransitionStarted
  if rollbackFailed || restartFailed then do
    markRecoveryRequired journal
    pure .recoveryRequired
  else pure originalError

/-- A part of the command; after an error the recovery decides what is thrown. -/
def recovering {α : Type} (journal : Option WorkspaceSwitchJournal)
    (lifecycleTransitionStarted : Bool) (part : SwitchProgram α) : SwitchProgram α :=
  tryCatch part fun error => do
    let code ← recoverBeforeReturning (mapWorkspaceSwitchError error) journal
      lifecycleTransitionStarted
    throw (.switch code)

/-- The registry, with its active workspace, when no switch is pending. -/
def readSwitchSource : SwitchProgram (WorkspaceRegistry × WorkspaceId) := do
  if (← readJournal).isSome then throw (.switch .recoveryRequired)
  else
    match ← readRegistry with
    | none => throw (.switch .invalid)
    | some registry =>
      match registry.activeWorkspaceId with
      | none => throw (.switch .invalid)
      | some source => pure (registry, source)

/-- Stops the source. -/
def stopSource (request : SwitchRequest) : SwitchProgram Unit := do
  -- `quiesceWrites`, `stopAndProveHandlesClosed`
  callRuntime
  callRuntime
  if !request.handlesClosed then throw (.switch .storageFailed)

/-- The journal of a new switch. -/
def preparedJournal (request : SwitchRequest) (source : WorkspaceId) : WorkspaceSwitchJournal where
  operationId := request.operationId
  sourceWorkspaceId := source
  targetWorkspaceId := request.targetWorkspaceId
  state := .prepared
  createdAt := request.createdAt

/-- The parts of a switch. -/
def performSwitch (request : SwitchRequest) : SwitchProgram Unit := do
  let (registry, source) ← recovering none false readSwitchSource
  if source ≠ request.targetWorkspaceId then do
    let selected ← recovering none false
      (mutate (registry.selectActiveWorkspace source request.targetWorkspaceId))
    recovering none true (stopSource request)
    let journal := preparedJournal request source
    recovering (some journal) true do
      writeJournal journal
      writeRegistry selected
      writeJournal (journal.withState .targetSelected)
      -- `relaunchApplication`
      callRuntime

/-- `switchTo`, once the lease is held. -/
def switchTo (request : SwitchRequest) : SwitchProgram Unit := do
  callRuntime
  let operationError ← tryCatch (performSwitch request >>= fun _ => pure none)
    fun error => pure (some error)
  -- `lease.release`
  let releaseFailed ← failed callRuntime
  match operationError with
  | some error => throw error
  | none => if releaseFailed then throw (.switch .storageFailed) else pure ()

/-! ## The startup -/

/-- What a startup has to prove. -/
inductive WorkspaceSwitchStartupMode
  | normal
  | targetValidation
  | rollbackValidation
  deriving DecidableEq

/-- What follows a failed startup. -/
inductive WorkspaceSwitchFailureRecoveryOutcome
  | relaunchRequired
  | recoveryRequired
  | notRecovered
  deriving DecidableEq

/-- The workspace that a startup offers. -/
structure WorkspaceSwitchStartupSelection where
  journal : Option WorkspaceSwitchJournal
  mode : WorkspaceSwitchStartupMode
  workspace : WorkspaceEntry
  deriving DecidableEq

/-- Writes that a recovery is required. -/
def persistRecoveryRequired (journal : WorkspaceSwitchJournal) : SwitchProgram Unit :=
  tryCatch (do
      match ← readJournal with
      | none => throw (.switch .recoveryRequired)
      | some current =>
        if current.operationId ≠ journal.operationId then throw (.switch .recoveryRequired)
        else writeJournal (current.withState .recoveryRequired))
    fun _ => throw (.switch .recoveryRequired)

/-- The registry is what an interrupted rollback leaves. -/
def registryMatchesInterruptedRollbackSelection (registry : WorkspaceRegistry)
    (journal : WorkspaceSwitchJournal) : Bool :=
  if journal.sourceWorkspaceId = journal.targetWorkspaceId ∨
      registry.activeWorkspaceId ≠ some journal.sourceWorkspaceId then false
  else
    match registry.workspaces.filter fun entry => entry.workspaceId = journal.sourceWorkspaceId,
        registry.workspaces.filter fun entry => entry.workspaceId = journal.targetWorkspaceId with
    | [source], [target] => source.lifecycleState = .ready &&
        (target.lifecycleState = .ready || target.lifecycleState = .recoveryRequired)
    | _, _ => false

/-- Brings journal and registry together. -/
def reconcileInterruptedRollbackSelection (registry : WorkspaceRegistry)
    (journal : WorkspaceSwitchJournal) : SwitchProgram WorkspaceSwitchJournal :=
  if !registryMatchesInterruptedRollbackSelection registry journal then
    throw (.switch .recoveryRequired)
  else do
    let reconciled := journal.withState .rollbackSelected
    tryCatch (writeJournal reconciled) fun _ => do
      persistRecoveryRequired journal
      throw (.switch .recoveryRequired)
    pure reconciled

/-- What becomes of a journal that is only prepared. -/
def settlePrepared (registry : WorkspaceRegistry) (journal : Option WorkspaceSwitchJournal) :
    SwitchProgram (Option WorkspaceSwitchJournal) :=
  match journal with
  | none => pure none
  | some journal =>
    if journal.state ≠ .prepared then pure (some journal)
    else if registry.activeWorkspaceId = some journal.sourceWorkspaceId then do
      clearJournal journal.operationId []
      pure none
    else if registry.activeWorkspaceId = some journal.targetWorkspaceId then do
      writeJournal (journal.withState .targetSelected)
      pure (some (journal.withState .targetSelected))
    else throw (.switch .recoveryRequired)

/-- What becomes of a journal whose selection was taken back. -/
def settleTargetSelected (registry : WorkspaceRegistry)
    (journal : Option WorkspaceSwitchJournal) : SwitchProgram (Option WorkspaceSwitchJournal) :=
  match journal with
  | none => pure none
  | some journal =>
    if journal.state = .targetSelected ∧
        registry.activeWorkspaceId = some journal.sourceWorkspaceId then do
      let reconciled ← reconcileInterruptedRollbackSelection registry journal
      pure (some reconciled)
    else pure (some journal)

/-- The mode of a startup. -/
def resolveMode (registry : WorkspaceRegistry) (journal : Option WorkspaceSwitchJournal) :
    Except SwitchFailure WorkspaceSwitchStartupMode :=
  match journal with
  | none => .ok .normal
  | some journal =>
    if journal.state = .targetSelected ∧
        registry.activeWorkspaceId = some journal.targetWorkspaceId then .ok .targetValidation
    else if journal.state = .rollbackSelected ∧
        registry.activeWorkspaceId = some journal.sourceWorkspaceId then .ok .rollbackValidation
    else .error (.switch .recoveryRequired)

/-- The workspace at the pointer, which must be ready. -/
def requireActiveReadyWorkspace (registry : WorkspaceRegistry) (active : WorkspaceId) :
    Except SwitchFailure WorkspaceEntry :=
  match registry.find active with
  | none => .error (.switch .recoveryRequired)
  | some workspace =>
    if workspace.lifecycleState ≠ .ready then .error (.switch .recoveryRequired)
    else .ok workspace

/-- The registry has been read, and it has an active workspace. -/
def resolveWith (registry : WorkspaceRegistry) (active : WorkspaceId) :
    SwitchProgram WorkspaceSwitchStartupSelection := do
  let stored ← readJournal
  if stored.map (·.state) = some .recoveryRequired then throw (.switch .recoveryRequired)
  else do
    let prepared ← settlePrepared registry stored
    let journal ← settleTargetSelected registry prepared
    let mode ← Program.ofExcept (resolveMode registry journal)
    let workspace ← Program.ofExcept (requireActiveReadyWorkspace registry active)
    pure ⟨journal, mode, workspace⟩

/-- What a startup offers. -/
def resolveWorkspaceSwitchStartup : SwitchProgram WorkspaceSwitchStartupSelection := do
  match ← readRegistry with
  | none => throw (.switch .invalid)
  | some registry =>
    match registry.activeWorkspaceId with
    | none => throw (.switch .invalid)
    | some active => resolveWith registry active

/-! ## What follows it -/

/-- The workspace has been validated: the switch is over. -/
def accept (selection : WorkspaceSwitchStartupSelection) (profileId : String) :
    SwitchProgram Unit := do
  if profileId ≠ selection.workspace.profileId then throw (.switch .invalid)
  else
    match selection.journal with
    | none => pure ()
    | some journal =>
      clearJournal journal.operationId [(selection.workspace.workspaceId, profileId)]

/-- The recovery was not possible; `persistRecoveryRequired` says so. -/
def giveUp (journal : WorkspaceSwitchJournal) :
    SwitchProgram WorkspaceSwitchFailureRecoveryOutcome := do
  persistRecoveryRequired journal
  pure .recoveryRequired

/-- The registry is what the recovery of an invalid target leaves. -/
def registryMatchesInvalidTargetRecovery (registry : Option WorkspaceRegistry)
    (journal : WorkspaceSwitchJournal) : Bool :=
  match registry with
  | none => false
  | some registry =>
    registry.activeWorkspaceId = some journal.sourceWorkspaceId &&
      (registry.find journal.sourceWorkspaceId).map (·.lifecycleState) = some .ready &&
      (registry.find journal.targetWorkspaceId).map (·.lifecycleState) = some .recoveryRequired

/-- The pointer is at the source. -/
def registryMatchesSource (registry : Option WorkspaceRegistry)
    (journal : WorkspaceSwitchJournal) : Bool :=
  match registry with
  | none => false
  | some registry => registry.activeWorkspaceId = some journal.sourceWorkspaceId

/-- After a write that failed, what the registry says decides. -/
def observeAfter (writeFailed : Bool) (observedMatches : Option WorkspaceRegistry → Bool) :
    SwitchProgram Bool :=
  if writeFailed then
    tryCatch (readRegistry >>= fun observed => pure (observedMatches observed))
      fun _ => pure false
  else pure true

/-- The registry is written, or was written although the write failed; then the journal
    follows.  Both recoveries end so. -/
def writeRecovered (journal : WorkspaceSwitchJournal) (recovered : WorkspaceRegistry)
    (observedMatches : Option WorkspaceRegistry → Bool) :
    SwitchProgram WorkspaceSwitchFailureRecoveryOutcome := do
  let writeFailed ← failed (writeRegistry recovered)
  let selected ← observeAfter writeFailed observedMatches
  if !selected then giveUp journal
  else do
    let journalFailed ← failed (writeJournal (journal.withState .rollbackSelected))
    if journalFailed then giveUp journal
    else pure .relaunchRequired

/-- The registry, as far as the recoveries can read it. -/
def readForRecovery : SwitchProgram (Option WorkspaceRegistry) :=
  tryCatch readRegistry fun _ => pure none

/-- Moves the pointer back and marks the target. -/
def recoverInvalidTarget (journal : WorkspaceSwitchJournal) :
    SwitchProgram WorkspaceSwitchFailureRecoveryOutcome := do
  match ← readForRecovery with
  | none => giveUp journal
  | some current =>
    match current.selectSourceAndRequireTargetRecovery journal.sourceWorkspaceId
        journal.targetWorkspaceId with
    | .error _ => giveUp journal
    | .ok recovered =>
      writeRecovered journal recovered (registryMatchesInvalidTargetRecovery · journal)

/-- Moves the pointer back. -/
def recoverTargetValidationFailure (journal : WorkspaceSwitchJournal) :
    SwitchProgram WorkspaceSwitchFailureRecoveryOutcome := do
  match ← readForRecovery with
  | none => giveUp journal
  | some current =>
    if current.activeWorkspaceId ≠ some journal.targetWorkspaceId then giveUp journal
    else
      match current.selectActiveWorkspace journal.targetWorkspaceId journal.sourceWorkspaceId with
      | .error _ => giveUp journal
      | .ok source => writeRecovered journal source (registryMatchesSource · journal)

/-- The target is not valid. -/
def rejectInvalidTarget (selection : WorkspaceSwitchStartupSelection) :
    SwitchProgram WorkspaceSwitchFailureRecoveryOutcome :=
  match selection.journal with
  | none => pure .notRecovered
  | some journal =>
    if selection.mode ≠ .targetValidation then pure .notRecovered
    else recoverInvalidTarget journal

/-- The startup cannot go on. -/
def requireRecovery (selection : WorkspaceSwitchStartupSelection) :
    SwitchProgram WorkspaceSwitchFailureRecoveryOutcome :=
  match selection.journal with
  | none => pure .notRecovered
  | some journal =>
    if selection.mode = .normal then pure .notRecovered
    else giveUp journal

/-- The startup has failed. -/
def recoverFromFailure (selection : WorkspaceSwitchStartupSelection) :
    SwitchProgram WorkspaceSwitchFailureRecoveryOutcome :=
  match selection.journal with
  | none => pure .notRecovered
  | some journal =>
    match selection.mode with
    | .normal => pure .notRecovered
    | .rollbackValidation => giveUp journal
    | .targetValidation => recoverTargetValidationFailure journal

end WorkspaceSwitch
