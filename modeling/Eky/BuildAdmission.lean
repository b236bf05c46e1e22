import Eky.InstalledBuild

/-! # Whether a build may start at all

    `classifyPreWorkspaceBuildAdmission` of `preWorkspaceBuildAdmission.ts`: the gate
    that is passed before a workspace is opened.  It compares the running build with
    the accepted one first, and looks at the records of an update afterwards. -/

/-- Why a build may start. -/
inductive PreWorkspaceBuildAdmission
  | authorizedNewerBuild
  | coordinatedUpdateTarget
  | exactAcceptedBuild
  | initialInstall
  deriving DecidableEq

/-- Why a build may not start. -/
inductive PreWorkspaceBuildRejection
  | downgrade
  | mixedOrUnknownUpdateIdentity
  | sameVersionDifferentRevision
  deriving DecidableEq

/-- The status `rejected` is the error. -/
abbrev AdmissionResult := Except PreWorkspaceBuildRejection PreWorkspaceBuildAdmission

namespace PreWorkspaceBuildAdmission

open DirectSetupMigrationRecoveryState VersionedAcceptedBuildMetadata

/-- The build that an update starts from. -/
def journalCurrent (journal : UpdateJournal) : BuildVersion :=
  ⟨journal.currentVersion, journal.currentPackageIdentity.buildRevision⟩

/-- The build that an update leads to. -/
def journalTarget (journal : UpdateJournal) : BuildVersion :=
  ⟨journal.targetVersion, journal.candidatePackageIdentity.buildRevision⟩

/-- A direct setup from the accepted build to the running one. -/
def matchesAcceptedDirectSetupRecovery (recovery : DirectSetupMigrationRecovery)
    (acceptedBuild : Option AcceptedBuildMetadata) (running : BuildVersion) : Bool :=
  match acceptedBuild with
  | none => false
  | some acceptedBuild =>
    recovery.state = .accepted && recovery.runningTargetBuildIdentity = running &&
      acceptedBuild.toBuildVersion = running

/-- A direct setup whose source or target is the accepted build. -/
def matchesDirectSetupRecovery (recovery : DirectSetupMigrationRecovery)
    (acceptedBuild : AcceptedBuildMetadata) (running : BuildVersion) : Bool :=
  recovery.previousAcceptedBuildIdentity = acceptedBuild.toBuildVersion &&
    recovery.runningTargetBuildIdentity = running

/-- A journal that was accepted is no longer active. -/
def activeJournal (journal : Option UpdateJournal) : Option UpdateJournal :=
  journal.filter fun journal => journal.state ≠ .accepted

/-- An accepted journal belongs to the accepted build. -/
def journalAgrees (journal : Option UpdateJournal)
    (acceptedApplication : Option AcceptedBuildMetadata) : Bool :=
  match journal with
  | none => true
  | some journal =>
    if journal.state = .accepted then
      acceptedApplication.map AcceptedBuildMetadata.toBuildVersion = some (journalTarget journal)
    else true

/-- The accepted build is the one that runs. -/
def classifySameVersion (acceptedBuild : VersionedAcceptedBuildMetadata)
    (directSetupRecovery : Option DirectSetupMigrationRecovery) (journal : Option UpdateJournal)
    (running : BuildVersion) : AdmissionResult :=
  if (activeJournal journal).any (fun active => journalCurrent active ≠ running ||
      journalCurrent active ≠ acceptedBuild.readAcceptedApplicationBuild.toBuildVersion) then
    .error .mixedOrUnknownUpdateIdentity
  else if directSetupRecovery.any (fun recovery => !matchesAcceptedDirectSetupRecovery recovery
      acceptedBuild.readAcceptedBusinessBuild running) then
    .error .mixedOrUnknownUpdateIdentity
  else .ok exactAcceptedBuild

/-- The running build is newer than the accepted one. -/
def classifyNewerVersion (acceptedBuild : VersionedAcceptedBuildMetadata)
    (directSetupRecovery : Option DirectSetupMigrationRecovery) (journal : Option UpdateJournal)
    (running : BuildVersion) : AdmissionResult :=
  match activeJournal journal with
  | some active =>
    if journalTarget active = running ∧
        journalCurrent active = acceptedBuild.readAcceptedApplicationBuild.toBuildVersion ∧
        directSetupRecovery = none then
      .ok coordinatedUpdateTarget
    else .error .mixedOrUnknownUpdateIdentity
  | none =>
    if directSetupRecovery.any (fun recovery => !matchesDirectSetupRecovery recovery
        acceptedBuild.readAcceptedBusinessBaseline running) then
      .error .mixedOrUnknownUpdateIdentity
    else .ok authorizedNewerBuild

/-- The decision against an accepted build. -/
def classifyAgainst (acceptedBuild : VersionedAcceptedBuildMetadata)
    (directSetupRecovery : Option DirectSetupMigrationRecovery) (journal : Option UpdateJournal)
    (releaseInfo : DesktopReleaseInfo) : AdmissionResult :=
  let acceptedApplication := acceptedBuild.readAcceptedApplicationBuild
  match compareSemanticVersions releaseInfo.appVersion acceptedApplication.appVersion
      releaseInfo.versionValid acceptedApplication.versionValid with
  | .lt => .error .downgrade
  | .eq =>
    if acceptedApplication.buildRevision ≠ releaseInfo.buildRevision then
      .error .sameVersionDifferentRevision
    else
      classifySameVersion acceptedBuild directSetupRecovery journal releaseInfo.toBuildVersion
  | .gt =>
    classifyNewerVersion acceptedBuild directSetupRecovery journal releaseInfo.toBuildVersion

end PreWorkspaceBuildAdmission

open PreWorkspaceBuildAdmission in
/-- The decision before a workspace is opened. -/
def classifyPreWorkspaceBuildAdmission (acceptedBuild : Option VersionedAcceptedBuildMetadata)
    (buildInfo : DesktopBuildInfo) (directSetupRecovery : Option DirectSetupMigrationRecovery)
    (journal : Option UpdateJournal) (releaseInfo : DesktopReleaseInfo) : AdmissionResult :=
  if buildInfo.buildDirty || buildInfo.appVersion ≠ releaseInfo.appVersion ||
      buildInfo.buildRevision ≠ releaseInfo.buildRevision then
    .error .mixedOrUnknownUpdateIdentity
  else if !journalAgrees journal
      (acceptedBuild.map VersionedAcceptedBuildMetadata.readAcceptedApplicationBuild) then
    .error .mixedOrUnknownUpdateIdentity
  else
    match acceptedBuild with
    | none =>
      if activeJournal journal = none ∧ directSetupRecovery = none then .ok initialInstall
      else .error .mixedOrUnknownUpdateIdentity
    | some acceptedBuild => classifyAgainst acceptedBuild directSetupRecovery journal releaseInfo
