import Eky.UpdateJournal

/-! # The build that runs and the build that was accepted

    `desktopReleaseInfo.ts`, `acceptedBuildMetadata.ts` and
    `directSetupMigrationRecovery.ts`: what a packaged build says of itself, which
    build the installation has accepted, and how far a direct upgrade by Setup has
    come.  As for the journal, a record that exists has been parsed. -/

/-- Version and revision of a build. -/
structure BuildVersion where
  appVersion : String
  buildRevision : String
  deriving DecidableEq

/-- The packaged release, in so far as updates depend on it. -/
structure DesktopReleaseInfo extends BuildVersion where
  msiProductVersion : String
  releaseChannel : ReleaseChannel
  upgradeCode : String
  versionValid : isSemVer appVersion = true
  revisionValid : isBuildRevision buildRevision = true

/-- The running build. -/
structure DesktopBuildInfo extends BuildVersion where
  buildDirty : Bool

/-- The packaged build is clean and what the release says. -/
def DesktopBuildInfo.IsCleanBuild (buildInfo : DesktopBuildInfo)
    (releaseInfo : DesktopReleaseInfo) : Prop :=
  buildInfo.buildDirty = false ∧ buildInfo.toBuildVersion = releaseInfo.toBuildVersion

/-! ## Accepted builds -/

/-- A build that was accepted. -/
structure AcceptedBuildMetadata extends BuildVersion where
  acceptedAt : Instant
  releaseChannel : ReleaseChannel
  versionValid : isSemVer appVersion = true
  revisionValid : isBuildRevision buildRevision = true
  deriving DecidableEq

/-- What a build was accepted for. -/
inductive AcceptanceScope
  | selector
  | business
  deriving DecidableEq

/-- A selector may be ahead of the business baseline; otherwise the two are the same. -/
structure ScopedAcceptedBuildMetadata where
  acceptanceScope : AcceptanceScope
  acceptedBuild : AcceptedBuildMetadata
  businessBaseline : AcceptedBuildMetadata
  scopeValid :
    match acceptanceScope with
    | .business => acceptedBuild = businessBaseline
    | .selector =>
      compareSemanticVersions acceptedBuild.appVersion businessBaseline.appVersion
          acceptedBuild.versionValid businessBaseline.versionValid = .gt ∧
        acceptedBuild.releaseChannel = businessBaseline.releaseChannel

/-- The record in both formats. -/
inductive VersionedAcceptedBuildMetadata
  | format1 (value : AcceptedBuildMetadata)
  | format2 (value : ScopedAcceptedBuildMetadata)

namespace VersionedAcceptedBuildMetadata

/-- The accepted build of the application. -/
def readAcceptedApplicationBuild : VersionedAcceptedBuildMetadata → AcceptedBuildMetadata
  | .format1 value => value
  | .format2 value => value.acceptedBuild

/-- The build that the data is at. -/
def readAcceptedBusinessBaseline : VersionedAcceptedBuildMetadata → AcceptedBuildMetadata
  | .format1 value => value
  | .format2 value => value.businessBaseline

/-- The build accepted for the data, if any. -/
def readAcceptedBusinessBuild : VersionedAcceptedBuildMetadata → Option AcceptedBuildMetadata
  | .format1 value => some value
  | .format2 value =>
    match value.acceptanceScope with
    | .business => some value.acceptedBuild
    | .selector => none

/-- Format 2 is not left again. -/
def createBusinessAcceptedBuildMetadata (previous : Option VersionedAcceptedBuildMetadata)
    (target : AcceptedBuildMetadata) : VersionedAcceptedBuildMetadata :=
  match previous with
  | some (.format2 _) => .format2 ⟨.business, target, target, rfl⟩
  | _ => .format1 target

/-- Accepted for the selector alone. -/
def IsSelector (metadata : VersionedAcceptedBuildMetadata) : Prop :=
  metadata.readAcceptedBusinessBuild = none

instance (metadata : VersionedAcceptedBuildMetadata) : Decidable metadata.IsSelector :=
  inferInstanceAs (Decidable (_ = none))

theorem businessBuild_of_not_selector {metadata : VersionedAcceptedBuildMetadata}
    (h : ¬ metadata.IsSelector) :
    metadata.readAcceptedBusinessBuild = some metadata.readAcceptedApplicationBuild ∧
      metadata.readAcceptedBusinessBaseline = metadata.readAcceptedApplicationBuild := by
  cases metadata with
  | format1 value => exact ⟨rfl, rfl⟩
  | format2 value =>
      obtain ⟨scope, accepted, baseline, hvalid⟩ := value
      cases scope with
      | selector => exact absurd rfl h
      | business => exact ⟨rfl, Eq.symm hvalid⟩

end VersionedAcceptedBuildMetadata

/-! ## Direct Setup upgrades -/

/-- The states of the recovery record. -/
inductive DirectSetupMigrationRecoveryState
  | prepared
  | migrationRunning
  | recoveryRequired
  | accepted
  | failedSafe
  deriving DecidableEq

/-- The states that may follow. -/
def DirectSetupMigrationRecoveryState.transitions :
    DirectSetupMigrationRecoveryState → List DirectSetupMigrationRecoveryState
  | .accepted => [.accepted]
  | .failedSafe => [.failedSafe]
  | .migrationRunning => [.accepted, .failedSafe, .migrationRunning, .recoveryRequired]
  | .prepared => [.failedSafe, .migrationRunning, .prepared, .recoveryRequired]
  | .recoveryRequired => [.failedSafe, .recoveryRequired]

/-- A version and a revision. -/
def isBuildIdentity (value : BuildVersion) : Bool :=
  isSemVer value.appVersion && isBuildRevision value.buildRevision

/-- The fields of the recovery record. -/
structure DirectSetupMigrationRecoveryFields where
  appliedMigrationCount : Nat
  attemptCount : Nat
  correlationId : String
  createdAt : Instant
  migrationPrefixIdentity : String
  previousAcceptedBuildIdentity : BuildVersion
  recoveryPointReference : String
  revision : Nat
  runningTargetBuildIdentity : BuildVersion
  state : DirectSetupMigrationRecoveryState
  updatedAt : Instant
  deriving DecidableEq

/-- The checks of the recovery record. -/
def DirectSetupMigrationRecoveryFields.WellFormed (value : DirectSetupMigrationRecoveryFields) :
    Prop :=
  isCorrelationId value.correlationId ∧ isBuildIdentity value.previousAcceptedBuildIdentity ∧
    isBuildIdentity value.runningTargetBuildIdentity ∧
    value.previousAcceptedBuildIdentity.appVersion ≠
      value.runningTargetBuildIdentity.appVersion ∧
    isRecoveryPointReference value.recoveryPointReference ∧
    isSha256 value.migrationPrefixIdentity ∧
    1 ≤ value.appliedMigrationCount ∧ value.appliedMigrationCount ≤ maximumSafeInteger ∧
    1 ≤ value.attemptCount ∧ value.attemptCount ≤ maximumSafeInteger ∧
    1 ≤ value.revision ∧ value.revision ≤ maximumSafeInteger ∧
    value.createdAt ≤ value.updatedAt

instance (value : DirectSetupMigrationRecoveryFields) : Decidable value.WellFormed :=
  inferInstanceAs (Decidable (_ ∧ _))

/-- A record that passes its checks. -/
structure DirectSetupMigrationRecovery extends DirectSetupMigrationRecoveryFields where
  wellFormed : toDirectSetupMigrationRecoveryFields.WellFormed
  deriving DecidableEq

/-- The one error of these checks. -/
inductive DirectSetupMigrationRecoveryValidationError
  | invalid
  deriving DecidableEq

/-- The record, if it passes its checks. -/
def parseDirectSetupMigrationRecovery (value : DirectSetupMigrationRecoveryFields) :
    Except DirectSetupMigrationRecoveryValidationError DirectSetupMigrationRecovery :=
  if h : value.WellFormed then .ok ⟨value, h⟩ else .error .invalid

/-- Every transition is a new revision, also one to the same state. -/
def transitionDirectSetupMigrationRecovery (current : DirectSetupMigrationRecovery)
    (time : Instant) (attemptCount : Option Nat) (state : DirectSetupMigrationRecoveryState) :
    Except DirectSetupMigrationRecoveryValidationError DirectSetupMigrationRecovery :=
  if state ∈ current.state.transitions then
    parseDirectSetupMigrationRecovery
      { current.toDirectSetupMigrationRecoveryFields with
        attemptCount := attemptCount.getD current.attemptCount
        revision := current.revision + 1
        state := state
        updatedAt := time }
  else .error .invalid

namespace SampleUpdate

/-- A release. -/
def oldRelease : DesktopReleaseInfo :=
  ⟨⟨"0.2.6", "aaaaaaaaaaaa"⟩, "0.2.6", .pilot, "33333333-3333-4333-8333-333333333333", by decide,
    by decide⟩

/-- The release after it. -/
def newRelease : DesktopReleaseInfo :=
  ⟨⟨"0.2.7", "bbbbbbbbbbbb"⟩, "0.2.7", .pilot, "33333333-3333-4333-8333-333333333333", by decide,
    by decide⟩

/-- A build without local changes. -/
def cleanBuild (releaseInfo : DesktopReleaseInfo) : DesktopBuildInfo :=
  ⟨releaseInfo.toBuildVersion, false⟩

/-- The record of an accepted release. -/
def accepted (releaseInfo : DesktopReleaseInfo) : VersionedAcceptedBuildMetadata :=
  .format1 ⟨releaseInfo.toBuildVersion, 0, .pilot, releaseInfo.versionValid,
    releaseInfo.revisionValid⟩

end SampleUpdate
