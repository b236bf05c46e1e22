import Eky.BuildIdentity

/-! # The update journal

    `updateJournal.ts`: the states of one update, what a journal must say in each of
    them, and which state may follow which.  A journal that exists has been parsed,
    so `UpdateJournal` carries the checks of `parseUpdateJournal`. -/

/-- Milliseconds; the source keeps the ISO text, which says the same. -/
abbrev Instant := Int

/-- The channels. -/
inductive ReleaseChannel
  | pilot
  deriving DecidableEq

/-- How far an update has come. -/
inductive UpdateJournalState
  | prepared
  | recoveryPointValidated
  | runtimeStopping
  | awaitingFirstStart
  | firstStartValidating
  | installerNotApplied
  | accepted
  | rollbackRequired
  | businessRollbackStarting
  | businessRollbackCompleted
  | rollbackPackageRequired
  | binaryRollbackPrepared
  | awaitingRollbackFirstStart
  | rolledBack
  | failed
  | failedSafe
  | recoveryRequired
  deriving DecidableEq

namespace UpdateJournalState

/-- `recoveryPointRequiredStates` -/
def requiresRecoveryPoint : List UpdateJournalState :=
  [recoveryPointValidated, runtimeStopping, awaitingFirstStart, firstStartValidating, accepted,
    installerNotApplied, rollbackRequired, businessRollbackStarting, businessRollbackCompleted,
    rollbackPackageRequired, binaryRollbackPrepared, awaitingRollbackFirstStart, rolledBack,
    recoveryRequired]

/-- The installer was not yet handed off. -/
def beforeHandoff : List UpdateJournalState :=
  [prepared, recoveryPointValidated, runtimeStopping]

/-- The states in which the installer has been launched. -/
def afterHandoff : List UpdateJournalState :=
  [awaitingFirstStart, firstStartValidating, accepted, installerNotApplied, rollbackRequired,
    businessRollbackStarting, businessRollbackCompleted, rollbackPackageRequired,
    binaryRollbackPrepared, awaitingRollbackFirstStart, rolledBack]

/-- The one binary rollback was not yet attempted. -/
def beforeBinaryRollback : List UpdateJournalState :=
  [prepared, recoveryPointValidated, runtimeStopping, awaitingFirstStart, firstStartValidating,
    installerNotApplied, accepted, rollbackRequired, businessRollbackStarting,
    businessRollbackCompleted, rollbackPackageRequired]

/-- The states in which the old installer may have been launched. -/
def afterBinaryRollback : List UpdateJournalState :=
  [binaryRollbackPrepared, awaitingRollbackFirstStart, rolledBack]

/-- The states that may follow. -/
def allowedTransitions : UpdateJournalState → List UpdateJournalState
  | accepted => [accepted]
  | awaitingFirstStart =>
    [awaitingFirstStart, failed, firstStartValidating, installerNotApplied, failedSafe,
      rollbackRequired, businessRollbackStarting]
  | awaitingRollbackFirstStart =>
    [awaitingRollbackFirstStart, failedSafe, recoveryRequired, rolledBack]
  | binaryRollbackPrepared =>
    [awaitingRollbackFirstStart, binaryRollbackPrepared, failedSafe, recoveryRequired]
  | businessRollbackCompleted =>
    [binaryRollbackPrepared, businessRollbackCompleted, failedSafe, recoveryRequired,
      rollbackPackageRequired]
  | businessRollbackStarting =>
    [businessRollbackCompleted, businessRollbackStarting, failedSafe, recoveryRequired]
  | failed => [failed, failedSafe, installerNotApplied]
  | failedSafe => [failedSafe]
  | firstStartValidating =>
    [accepted, failed, firstStartValidating, rollbackRequired, businessRollbackStarting]
  | prepared => [failed, prepared, recoveryPointValidated]
  | recoveryRequired => [recoveryRequired]
  | rollbackPackageRequired =>
    [businessRollbackCompleted, failedSafe, recoveryRequired, rollbackPackageRequired]
  | recoveryPointValidated => [failed, recoveryPointValidated, runtimeStopping]
  | rolledBack => [rolledBack]
  | installerNotApplied => [installerNotApplied]
  | rollbackRequired =>
    [businessRollbackStarting, failedSafe, recoveryRequired, rollbackRequired]
  | runtimeStopping =>
    [awaitingFirstStart, failed, failedSafe, installerNotApplied, rollbackRequired,
      runtimeStopping]

end UpdateJournalState

/-- `UpdateJournalPackageIdentity` -/
structure PackageIdentity where
  buildRevision : String
  msiProductVersion : String
  packageSha256 : String
  packageSize : Nat
  deriving DecidableEq

/-- The checks of a package's identity. -/
def isPackageIdentity (value : PackageIdentity) : Bool :=
  isBuildRevision value.buildRevision && isMsiProductVersion value.msiProductVersion &&
    isSha256 value.packageSha256 && value.packageSize ≤ maximumSafeInteger &&
    0 < value.packageSize

/-- The counters are numbers below two. -/
instance neZero_two : NeZero 2 := ⟨by decide⟩

/-- The fields of a journal, before they are checked. -/
structure UpdateJournalFields where
  binaryRollbackAttemptCount : Fin 2
  candidatePackageIdentity : PackageIdentity
  correlationId : String
  createdAt : Instant
  currentPackageIdentity : PackageIdentity
  currentVersion : String
  handoffAttemptCount : Fin 2
  preUpdateMigrationChainIdentity : Option String
  recoveryPointReference : Option String
  releaseChannel : ReleaseChannel
  revision : Nat
  state : UpdateJournalState
  targetVersion : String
  updatedAt : Instant
  deriving DecidableEq

namespace UpdateJournalFields

open UpdateJournalState

/-- The checks that do not depend on the state. -/
def WellFormed (value : UpdateJournalFields) : Prop :=
  isCorrelationId value.correlationId ∧ isSemVer value.currentVersion ∧
    isSemVer value.targetVersion ∧ value.currentVersion ≠ value.targetVersion ∧
    value.revision ≤ maximumSafeInteger ∧ 1 ≤ value.revision ∧
    value.createdAt ≤ value.updatedAt ∧ isPackageIdentity value.currentPackageIdentity ∧
    isPackageIdentity value.candidatePackageIdentity ∧
    value.preUpdateMigrationChainIdentity.all isSha256 ∧
    value.recoveryPointReference.all isRecoveryPointReference

/-- The checks that depend on it. -/
def FitsState (value : UpdateJournalFields) : Prop :=
  (value.state = installerNotApplied → value.preUpdateMigrationChainIdentity.isSome) ∧
    (value.state ∈ requiresRecoveryPoint → value.recoveryPointReference.isSome) ∧
    (value.state ∈ beforeHandoff → value.handoffAttemptCount = 0) ∧
    (value.state ∈ afterHandoff → value.handoffAttemptCount = 1) ∧
    (value.state ∈ afterBinaryRollback → value.binaryRollbackAttemptCount = 1) ∧
    (value.state ∈ beforeBinaryRollback → value.binaryRollbackAttemptCount = 0)

instance (value : UpdateJournalFields) : Decidable value.WellFormed :=
  inferInstanceAs (Decidable (_ ∧ _))

instance (value : UpdateJournalFields) : Decidable value.FitsState :=
  inferInstanceAs (Decidable (_ ∧ _))

end UpdateJournalFields

/-- A journal that passes its checks. -/
structure UpdateJournal extends UpdateJournalFields where
  wellFormed : toUpdateJournalFields.WellFormed
  fitsState : toUpdateJournalFields.FitsState
  deriving DecidableEq

/-- The one error of these checks. -/
inductive UpdateJournalValidationError
  | invalid
  deriving DecidableEq

/-- The journal, if it passes its checks. -/
def parseUpdateJournal (value : UpdateJournalFields) :
    Except UpdateJournalValidationError UpdateJournal :=
  if hwellFormed : value.WellFormed then
    if hfitsState : value.FitsState then .ok ⟨value, hwellFormed, hfitsState⟩
    else .error .invalid
  else .error .invalid

/-- What a transition says; what it leaves out stays as it is. -/
structure JournalTransition where
  time : Instant
  binaryRollbackAttemptCount : Option (Fin 2) := none
  handoffAttemptCount : Option (Fin 2) := none
  recoveryPointReference : Option String := none
  state : UpdateJournalState

namespace UpdateJournal

/-- The fields that a transition makes of a journal. -/
def changed (current : UpdateJournal) (input : JournalTransition) : UpdateJournalFields :=
  { current.toUpdateJournalFields with
    handoffAttemptCount := input.handoffAttemptCount.getD current.handoffAttemptCount
    binaryRollbackAttemptCount :=
      input.binaryRollbackAttemptCount.getD current.binaryRollbackAttemptCount
    recoveryPointReference := input.recoveryPointReference <|> current.recoveryPointReference
    revision := if input.state = current.state then current.revision else current.revision + 1
    state := input.state
    updatedAt := input.time }

end UpdateJournal

/-- The journal after an allowed step. -/
def transitionUpdateJournal (current : UpdateJournal) (input : JournalTransition) :
    Except UpdateJournalValidationError UpdateJournal :=
  if input.state ∈ current.state.allowedTransitions then parseUpdateJournal (current.changed input)
  else .error .invalid

section Lemmas

variable {value : UpdateJournalFields} {current next : UpdateJournal} {input : JournalTransition}

theorem parseUpdateJournal_ok (h : parseUpdateJournal value = .ok next) :
    next.toUpdateJournalFields = value := by
  rw [parseUpdateJournal] at h
  split at h
  · split at h
    · cases h
      rfl
    · cases h
  · cases h

section

variable (h : transitionUpdateJournal current input = .ok next)
include h

/-- What a transition that succeeds has done. -/
theorem transitionUpdateJournal_ok : input.state ∈ current.state.allowedTransitions ∧
      next.toUpdateJournalFields = current.changed input := by
  rw [transitionUpdateJournal] at h
  split at h
  · rename_i hallowed
    exact ⟨hallowed, parseUpdateJournal_ok h⟩
  · cases h

/-- A transition keeps what identifies the update. -/
theorem transition_correlationId : next.correlationId = current.correlationId := by
  rw [(transitionUpdateJournal_ok h).2]
  rfl

theorem transition_state : next.state = input.state := by
  rw [(transitionUpdateJournal_ok h).2]
  rfl

/-- A transition to another state is a later revision. -/
theorem transition_revision (hstate : input.state ≠ current.state) :
    next.revision = current.revision + 1 := by
  rw [(transitionUpdateJournal_ok h).2]
  exact if_neg hstate

/-- The revisions run out in the end. -/
theorem transition_revision_lt (hstate : input.state ≠ current.state) :
    current.revision < maximumSafeInteger := by
  have hbound : next.revision ≤ maximumSafeInteger := next.wellFormed.2.2.2.2.1
  rw [transition_revision h hstate] at hbound
  exact hbound

end

/-- A transition succeeds if the table has it and its journal passes the checks. -/
theorem transition_total (hallowed : input.state ∈ current.state.allowedTransitions)
    (hwellFormed : (current.changed input).WellFormed)
    (hfitsState : (current.changed input).FitsState) :
    transitionUpdateJournal current input = .ok ⟨current.changed input, hwellFormed, hfitsState⟩ := by
  rw [transitionUpdateJournal, if_pos hallowed, parseUpdateJournal, dif_pos hwellFormed,
    dif_pos hfitsState]

end Lemmas

/-! ## One update

    From 0.2.6 to 0.2.7, in the states that the fixed cases of the other files begin
    with. -/

namespace SampleUpdate

/-- A package. -/
def oldPackage : PackageIdentity :=
  ⟨"aaaaaaaaaaaa", "0.2.6",
    "aaaaaaaaaaaaaaaaaaaaaaaaaaaaaaaaaaaaaaaaaaaaaaaaaaaaaaaaaaaaaaaa", 1024⟩

/-- The package after it. -/
def newPackage : PackageIdentity :=
  ⟨"bbbbbbbbbbbb", "0.2.7",
    "bbbbbbbbbbbbbbbbbbbbbbbbbbbbbbbbbbbbbbbbbbbbbbbbbbbbbbbbbbbbbbbb", 1024⟩

/-- The identity of a chain of migrations. -/
def migrationChain : String :=
  "cccccccccccccccccccccccccccccccccccccccccccccccccccccccccccccccc"

/-- The fields of a journal in a state. -/
def fields (state : UpdateJournalState) (handoffs rollbacks : Fin 2) : UpdateJournalFields where
  binaryRollbackAttemptCount := rollbacks
  candidatePackageIdentity := newPackage
  correlationId := "11111111-1111-4111-8111-111111111111"
  createdAt := 0
  currentPackageIdentity := oldPackage
  currentVersion := "0.2.6"
  handoffAttemptCount := handoffs
  preUpdateMigrationChainIdentity := some migrationChain
  recoveryPointReference := some "22222222-2222-4222-8222-222222222222"
  releaseChannel := .pilot
  revision := 1
  state := state
  targetVersion := "0.2.7"
  updatedAt := 0

/-- A journal after the handoff. -/
def awaitingFirstStart : UpdateJournal :=
  ⟨fields .awaitingFirstStart 1 0, by decide, by decide⟩

/-- A journal during the first start. -/
def firstStartValidating : UpdateJournal :=
  ⟨fields .firstStartValidating 1 0, by decide, by decide⟩

/-- A journal after the rollback. -/
def awaitingRollbackFirstStart : UpdateJournal :=
  ⟨fields .awaitingRollbackFirstStart 1 1, by decide, by decide⟩

end SampleUpdate
