import Eky.FirstStartRuns

/-! # The two gates of a start

    A start passes `classifyPreWorkspaceBuildAdmission` and then `beforeMigrations`.
    Both look at the same records, and the second gate is meant to open only for
    starts that the first one allows.  Three kinds of start pass the second gate and
    not the first: the ones of `TargetNotAhead`, `CandidateStillAccepted` and
    `SetupNotAhead`. -/

namespace StartGates

open Program FirstStartUpdateCoordinator PreWorkspaceBuildAdmission PackageCache
open VersionedAcceptedBuildMetadata

variable {releaseInfo : DesktopReleaseInfo} {buildInfo : DesktopBuildInfo}
  {journal : Option UpdateJournal} {active : UpdateJournal}
  {acceptedMetadata : Option VersionedAcceptedBuildMetadata}
  {metadata : VersionedAcceptedBuildMetadata} {recovery : DirectSetupMigrationRecovery}
  {directSetupRecovery : Option DirectSetupMigrationRecovery} {build : BuildVersion}

/-- The first gate. -/
def Allowed (releaseInfo : DesktopReleaseInfo) (buildInfo : DesktopBuildInfo)
    (journal : Option UpdateJournal) (acceptedMetadata : Option VersionedAcceptedBuildMetadata)
    (directSetupRecovery : Option DirectSetupMigrationRecovery) : Prop :=
  ∃ admission, classifyPreWorkspaceBuildAdmission acceptedMetadata buildInfo directSetupRecovery
    journal releaseInfo = .ok admission

/-- The second gate, for some profile, some packages and some answers of the
    dependencies. -/
def Opens (releaseInfo : DesktopReleaseInfo) (buildInfo : DesktopBuildInfo)
    (journal : Option UpdateJournal) (acceptedMetadata : Option VersionedAcceptedBuildMetadata)
    (directSetupRecovery : Option DirectSetupMigrationRecovery) : Prop :=
  ∃ environment inspection cache gate t, environment.releaseInfo = releaseInfo ∧
    environment.buildInfo = buildInfo ∧
    Ends (beforeMigrations environment inspection)
      ⟨journal, acceptedMetadata, directSetupRecovery, cache⟩ (.returned gate) t

/-- The metadata name the build. -/
def Names (metadata : VersionedAcceptedBuildMetadata) (build : BuildVersion) : Prop :=
  metadata.readAcceptedApplicationBuild.toBuildVersion = build

/-- The running build is newer than the one that the metadata name. -/
def Ahead (releaseInfo : DesktopReleaseInfo) (metadata : VersionedAcceptedBuildMetadata) : Prop :=
  IsNewer releaseInfo metadata.readAcceptedApplicationBuild

/-! ## The three kinds of start -/

/-- The target of the update starts, but the metadata do not name an older build, the one
    that the update began with: they name the target already, for example. -/
def TargetNotAhead (releaseInfo : DesktopReleaseInfo) (journal : Option UpdateJournal)
    (acceptedMetadata : Option VersionedAcceptedBuildMetadata)
    (directSetupRecovery : Option DirectSetupMigrationRecovery) : Prop :=
  ∃ active, activeJournal journal = some active ∧ directSetupRecovery = none ∧
    TargetCanStart releaseInfo active ∧
    (∀ metadata, acceptedMetadata = some metadata →
      ¬ metadata.IsSelector ∧ ¬ (Names metadata (journalCurrent active) ∧ Ahead releaseInfo metadata))

/-- The old build starts after a rollback, and the metadata still name the candidate. -/
def CandidateStillAccepted (releaseInfo : DesktopReleaseInfo) (journal : Option UpdateJournal)
    (acceptedMetadata : Option VersionedAcceptedBuildMetadata)
    (directSetupRecovery : Option DirectSetupMigrationRecovery) : Prop :=
  ∃ active metadata, activeJournal journal = some active ∧ acceptedMetadata = some metadata ∧
    directSetupRecovery = none ∧ active.state = .awaitingRollbackFirstStart ∧
    active.preUpdateMigrationChainIdentity.isSome ∧
    releaseInfo.toBuildVersion = journalCurrent active ∧
    ¬ metadata.IsSelector ∧ Names metadata (journalTarget active)

/-- A direct upgrade was accepted, the metadata name the build before it, and the running
    build is not a newer one. -/
def SetupNotAhead (releaseInfo : DesktopReleaseInfo) (journal : Option UpdateJournal)
    (acceptedMetadata : Option VersionedAcceptedBuildMetadata)
    (directSetupRecovery : Option DirectSetupMigrationRecovery) : Prop :=
  ∃ recovery metadata, activeJournal journal = none ∧ directSetupRecovery = some recovery ∧
    acceptedMetadata = some metadata ∧
    journalAgrees journal (some metadata.readAcceptedApplicationBuild) = true ∧
    recovery.state = .accepted ∧ recovery.runningTargetBuildIdentity = releaseInfo.toBuildVersion ∧
    ¬ metadata.IsSelector ∧ Names metadata recovery.previousAcceptedBuildIdentity ∧
    ¬ Ahead releaseInfo metadata

/-! ## The first gate -/

theorem journalCurrent_ne_journalTarget (active : UpdateJournal) :
    journalCurrent active ≠ journalTarget active := fun h =>
  active.wellFormed.2.2.2.1 (congrArg BuildVersion.appVersion h)

theorem previous_ne_target (recovery : DirectSetupMigrationRecovery) :
    recovery.previousAcceptedBuildIdentity ≠ recovery.runningTargetBuildIdentity := fun h =>
  recovery.wellFormed.2.2.2.1 (congrArg BuildVersion.appVersion h)

theorem activeJournal_some (h : activeJournal journal = some active) :
    journal = some active ∧ active.state ≠ .accepted := by
  obtain ⟨hjournal, hstate⟩ := Option.filter_eq_some_iff.mp h
  exact ⟨hjournal, of_decide_eq_true hstate⟩

theorem journalAgrees_of_active (h : activeJournal journal = some active)
    (acceptedApplication : Option AcceptedBuildMetadata) :
    journalAgrees journal acceptedApplication = true := by
  obtain ⟨rfl, hstate⟩ := activeJournal_some h
  exact if_neg hstate

/-- A clean build with records that agree is compared with the accepted one. -/
theorem allowed_iff (hclean : buildInfo.IsCleanBuild releaseInfo)
    (hagrees : journalAgrees journal (some metadata.readAcceptedApplicationBuild) = true) :
    Allowed releaseInfo buildInfo journal (some metadata) directSetupRecovery ↔
      ∃ admission, classifyAgainst metadata directSetupRecovery journal releaseInfo =
        .ok admission := by
  have hversion : buildInfo.appVersion = releaseInfo.appVersion :=
    congrArg BuildVersion.appVersion hclean.2
  have hrevision : buildInfo.buildRevision = releaseInfo.buildRevision :=
    congrArg BuildVersion.buildRevision hclean.2
  rw [Allowed, classifyPreWorkspaceBuildAdmission, if_neg (by simp [hclean.1, hversion, hrevision]),
    if_neg (by simp [hagrees])]

/-- The accepted build itself. -/
theorem classifyAgainst_names (h : Names metadata releaseInfo.toBuildVersion) :
    classifyAgainst metadata directSetupRecovery journal releaseInfo =
      classifySameVersion metadata directSetupRecovery journal releaseInfo.toBuildVersion := by
  have hversion : metadata.readAcceptedApplicationBuild.appVersion = releaseInfo.appVersion :=
    congrArg BuildVersion.appVersion h
  have hrevision : metadata.readAcceptedApplicationBuild.buildRevision = releaseInfo.buildRevision :=
    congrArg BuildVersion.buildRevision h
  have hself : ∀ (other : String) (hvalid : isSemVer other = true), other = releaseInfo.appVersion →
      compareSemanticVersions releaseInfo.appVersion other releaseInfo.versionValid hvalid = .eq := by
    rintro _ hvalid rfl
    exact compareSemanticVersions_self _ _ _
  rw [classifyAgainst]
  simp only [hself _ _ hversion]
  rw [if_neg (not_not.mpr hrevision)]

/-- A newer build. -/
theorem classifyAgainst_ahead (h : Ahead releaseInfo metadata) :
    classifyAgainst metadata directSetupRecovery journal releaseInfo =
      classifyNewerVersion metadata directSetupRecovery journal releaseInfo.toBuildVersion := by
  rw [classifyAgainst]
  simp only [show compareSemanticVersions _ _ _ _ = .gt from h]

/-- What the comparison with the accepted build does not tell apart, the records of an
    update do. -/
theorem classifyAgainst_neither {admission : PreWorkspaceBuildAdmission}
    (hbusiness : ¬ metadata.IsSelector) (hnames : ¬ Names metadata releaseInfo.toBuildVersion)
    (hahead : ¬ Ahead releaseInfo metadata)
    (h : classifyAgainst metadata directSetupRecovery journal releaseInfo = .ok admission) :
    activeJournal journal = none ∧ directSetupRecovery = none := by
  rw [classifyAgainst] at h
  cases hcompare : compareSemanticVersions releaseInfo.appVersion
      metadata.readAcceptedApplicationBuild.appVersion releaseInfo.versionValid
      metadata.readAcceptedApplicationBuild.versionValid with
  | lt =>
      simp only [hcompare] at h
      cases h
  | gt => exact absurd hcompare hahead
  | eq =>
      simp only [hcompare] at h
      split at h
      · cases h
      · rw [classifySameVersion, (businessBuild_of_not_selector hbusiness).1] at h
        split at h
        · cases h
        · rename_i hactive
          split at h
          · cases h
          · rename_i hsetup
            constructor
            · cases hjournal : activeJournal journal with
              | none => rfl
              | some active =>
                  rw [hjournal] at hactive
                  simp only [Option.any_some, Bool.or_eq_true, decide_eq_true_eq, not_or,
                    not_not] at hactive
                  exact absurd (hactive.2.symm.trans hactive.1) hnames
            · cases directSetupRecovery with
              | none => rfl
              | some recovery =>
                  simp only [Option.any_some, matchesAcceptedDirectSetupRecovery, Bool.not_eq_true',
                    Bool.not_eq_false, Bool.and_eq_true, decide_eq_true_eq] at hsetup
                  exact absurd hsetup.2 hnames

theorem not_ahead_of_names (h : Names metadata releaseInfo.toBuildVersion) :
    ¬ Ahead releaseInfo metadata := by
  have hversion : metadata.readAcceptedApplicationBuild.appVersion = releaseInfo.appVersion :=
    congrArg BuildVersion.appVersion h
  have hself : ∀ (other : String) (hvalid : isSemVer other = true), other = releaseInfo.appVersion →
      compareSemanticVersions releaseInfo.appVersion other releaseInfo.versionValid hvalid ≠ .gt := by
    rintro _ hvalid rfl
    rw [compareSemanticVersions_self]
    exact nofun
  exact hself _ _ hversion

/-- With an update that is not over, the first gate lets two builds through: the one that
    the update began with, and the newer one that it leads to; and the metadata have to
    name the former. -/
theorem allowed_active_iff (hclean : buildInfo.IsCleanBuild releaseInfo)
    (hactive : activeJournal journal = some active) (hbusiness : ¬ metadata.IsSelector) :
    Allowed releaseInfo buildInfo journal (some metadata) none ↔
      Names metadata (journalCurrent active) ∧
        (releaseInfo.toBuildVersion = journalCurrent active ∨
          (releaseInfo.toBuildVersion = journalTarget active ∧ Ahead releaseInfo metadata)) := by
  rw [allowed_iff hclean (journalAgrees_of_active hactive _)]
  by_cases hnames : Names metadata releaseInfo.toBuildVersion
  · rw [classifyAgainst_names hnames, classifySameVersion, hactive]
    constructor
    · rintro ⟨admission, h⟩
      split at h
      · cases h
      · rename_i hsame
        simp only [Option.any_some, Bool.or_eq_true, decide_eq_true_eq, not_or, not_not] at hsame
        exact ⟨hsame.2.symm, .inl hsame.1.symm⟩
    · rintro ⟨hcurrent, hrunning | ⟨_, hahead⟩⟩
      · refine ⟨.exactAcceptedBuild, ?_⟩
        rw [if_neg, if_neg (by simp)]
        simp [hrunning, show _ = _ from hcurrent]
      · exact absurd hahead (not_ahead_of_names hnames)
  · by_cases hahead : Ahead releaseInfo metadata
    · rw [classifyAgainst_ahead hahead, classifyNewerVersion, hactive]
      constructor
      · rintro ⟨admission, h⟩
        simp only at h
        split at h
        · rename_i hcoordinated
          exact ⟨hcoordinated.2.1.symm, .inr ⟨hcoordinated.1.symm, hahead⟩⟩
        · cases h
      · rintro ⟨hcurrent, hrunning | ⟨hrunning, _⟩⟩
        · exact absurd (hcurrent.trans hrunning.symm) hnames
        · exact ⟨_, if_pos ⟨hrunning.symm, Eq.symm hcurrent, rfl⟩⟩
    · constructor
      · rintro ⟨admission, h⟩
        have hnone := (classifyAgainst_neither hbusiness hnames hahead h).1
        rw [hactive] at hnone
        cases hnone
      · rintro ⟨hcurrent, hrunning | ⟨_, hnewer⟩⟩
        · exact absurd (hcurrent.trans hrunning.symm) hnames
        · exact absurd hnewer hahead

section

variable (hclean : buildInfo.IsCleanBuild releaseInfo) (hinactive : activeJournal journal = none)
include hclean hinactive

/-- With a direct upgrade, it lets its target through: once the metadata name it, if the
    upgrade was accepted, and before, if it is newer than the build that they name. -/
theorem allowed_setup_iff (hbusiness : ¬ metadata.IsSelector)
    (hagrees : journalAgrees journal (some metadata.readAcceptedApplicationBuild) = true) :
    Allowed releaseInfo buildInfo journal (some metadata) (some recovery) ↔
      recovery.runningTargetBuildIdentity = releaseInfo.toBuildVersion ∧
        ((recovery.state = .accepted ∧ Names metadata releaseInfo.toBuildVersion) ∨
          (Names metadata recovery.previousAcceptedBuildIdentity ∧ Ahead releaseInfo metadata)) := by
  rw [allowed_iff hclean hagrees]
  by_cases hnames : Names metadata releaseInfo.toBuildVersion
  · rw [classifyAgainst_names hnames, classifySameVersion, hinactive,
      (businessBuild_of_not_selector hbusiness).1]
    simp only [Option.any_none, Bool.false_eq_true, if_false, Option.any_some,
      matchesAcceptedDirectSetupRecovery, Bool.not_eq_true']
    constructor
    · rintro ⟨admission, h⟩
      split at h
      · cases h
      · rename_i hmatches
        simp only [Bool.not_eq_false, Bool.and_eq_true, decide_eq_true_eq] at hmatches
        exact ⟨hmatches.1.2, .inl ⟨hmatches.1.1, hnames⟩⟩
    · rintro ⟨hrunning, ⟨hstate, _⟩ | ⟨_, hahead⟩⟩
      · exact ⟨_, if_neg (by simp [hstate, hrunning, show _ = _ from hnames])⟩
      · exact absurd hahead (not_ahead_of_names hnames)
  · by_cases hahead : Ahead releaseInfo metadata
    · rw [classifyAgainst_ahead hahead, classifyNewerVersion, hinactive,
        (businessBuild_of_not_selector hbusiness).2]
      simp only [Option.any_some, matchesDirectSetupRecovery, Bool.not_eq_true']
      constructor
      · rintro ⟨admission, h⟩
        split at h
        · cases h
        · rename_i hmatches
          simp only [Bool.not_eq_false, Bool.and_eq_true, decide_eq_true_eq] at hmatches
          exact ⟨hmatches.2, .inr ⟨hmatches.1.symm, hahead⟩⟩
      · rintro ⟨hrunning, ⟨_, hname⟩ | ⟨hprevious, _⟩⟩
        · exact absurd hname hnames
        · exact ⟨_, if_neg (by simp [hrunning, show _ = _ from hprevious])⟩
    · constructor
      · rintro ⟨admission, h⟩
        cases (classifyAgainst_neither hbusiness hnames hahead h).2
      · rintro ⟨_, ⟨_, hname⟩ | ⟨_, hnewer⟩⟩
        · exact absurd hname hnames
        · exact absurd hnewer hahead

/-- Without any record of an update, it lets the accepted build through, and a newer one. -/
theorem allowed_uncoordinated
    (hagrees : journalAgrees journal (some metadata.readAcceptedApplicationBuild) = true)
    (h : Names metadata releaseInfo.toBuildVersion ∨ Ahead releaseInfo metadata) :
    Allowed releaseInfo buildInfo journal (some metadata) none := by
  rw [allowed_iff hclean hagrees]
  rcases h with hnames | hahead
  · rw [classifyAgainst_names hnames, classifySameVersion, hinactive]
    exact ⟨_, rfl⟩
  · rw [classifyAgainst_ahead hahead, classifyNewerVersion, hinactive]
    exact ⟨_, rfl⟩

/-- Nor does a first installation need any. -/
theorem allowed_initialInstall (hagrees : journalAgrees journal none = true) :
    Allowed releaseInfo buildInfo journal none none := by
  have hversion : buildInfo.appVersion = releaseInfo.appVersion :=
    congrArg BuildVersion.appVersion hclean.2
  have hrevision : buildInfo.buildRevision = releaseInfo.buildRevision :=
    congrArg BuildVersion.buildRevision hclean.2
  refine ⟨.initialInstall, ?_⟩
  rw [classifyPreWorkspaceBuildAdmission, if_neg (by simp [hclean.1, hversion, hrevision]),
    if_neg (by simp [hagrees])]
  exact if_pos ⟨hinactive, rfl⟩

end

/-! ## The second gate -/

/-- Whatever the second gate lets through, is one of the kinds of start. -/
theorem startable_of_opens
    (h : Opens releaseInfo buildInfo journal acceptedMetadata directSetupRecovery) :
    ∃ environment inspection, environment.releaseInfo = releaseInfo ∧
      Startable environment inspection journal acceptedMetadata directSetupRecovery := by
  obtain ⟨environment, inspection, cache, gate, t, hrelease, -, hends⟩ := h
  exact ⟨environment, inspection, hrelease, wp_beforeMigrations.ends hends⟩

/-- Dependencies that all answer. -/
def calmEnvironment (releaseInfo : DesktopReleaseInfo) (buildInfo : DesktopBuildInfo)
    (time : Instant) : StartEnvironment where
  releaseInfo := releaseInfo
  buildInfo := buildInfo
  createExpectedProductCode := id
  secretStorageIdentity := none
  secretStorageIdentityWhenReady := none
  preMigrationPointReference := ""
  activeMigrationChainIdentity := ""
  operationId := ""
  clock := fun _ => time

/-- A profile without migrations to come. -/
def migratedProfile (migrationChainIdentity : String) : MigrationStartupInspection :=
  ⟨1, migrationChainIdentity, 0, .existing⟩

/-- The two packages of an update, before they change places. -/
def waitingPackages (releaseInfo : DesktopReleaseInfo)
    (createExpectedProductCode : String → String) (active : UpdateJournal) : PackageCache :=
  .ofDirectories fun
    | .slot .current => some (packageDirectory releaseInfo createExpectedProductCode
        (currentIdentity active) .current)
    | .slot .candidate => some (packageDirectory releaseInfo createExpectedProductCode
        (candidateIdentity active) .candidate)
    | _ => none

theorem contents_waitingPackages_current {createExpectedProductCode : String → String} :
    contents releaseInfo createExpectedProductCode
        (waitingPackages releaseInfo createExpectedProductCode active) .current =
      some (currentIdentity active, .current) := by
  have hslot : waitingPackages releaseInfo createExpectedProductCode active .current =
    some (packageDirectory releaseInfo createExpectedProductCode (currentIdentity active)
      .current) := rfl
  rw [contents, hslot, Option.bind_some, readDirectory_packageDirectory]

theorem contents_waitingPackages_candidate {createExpectedProductCode : String → String} :
    contents releaseInfo createExpectedProductCode
        (waitingPackages releaseInfo createExpectedProductCode active) .candidate =
      some (candidateIdentity active, .candidate) := by
  have hslot : waitingPackages releaseInfo createExpectedProductCode active .candidate =
    some (packageDirectory releaseInfo createExpectedProductCode (candidateIdentity active)
      .candidate) := rfl
  rw [contents, hslot, Option.bind_some, readDirectory_packageDirectory]

section

variable (hclean : buildInfo.IsCleanBuild releaseInfo)
include hclean

theorem opens_target (hactive : activeJournal journal = some active)
    (hbusiness : ∀ metadata, acceptedMetadata = some metadata → ¬ metadata.IsSelector)
    (hstart : TargetCanStart releaseInfo active) :
    Opens releaseInfo buildInfo journal acceptedMetadata none := by
  let environment := calmEnvironment releaseInfo buildInfo active.updatedAt
  let s : InstallationRecords := ⟨journal, acceptedMetadata, none,
    waitingPackages releaseInfo id active⟩
  have hjournal : s.journal = some active := (activeJournal_some hactive).1
  have hrotated : Quietly (findRotation environment active) s (.returned false) s :=
    quietly_findRotation_initial contents_waitingPackages_current
      contents_waitingPackages_candidate
  have hgate : ∃ mode t, Quietly (prepareCoordinatedFirstStart environment active) s
      (.returned mode) t := by
    obtain ⟨hrunning, ⟨hstate, hrevision⟩ | hstate⟩ := hstart
    · obtain ⟨next, hnext⟩ := transition_firstStart (.inl hstate) (.inl rfl)
        (by rw [hstate]; decide) hrevision active.wellFormed.2.2.2.2.2.2.1
      exact ⟨_, _, quietly_prepareCoordinated_awaiting hrotated hjournal hrunning hstate hnext⟩
    · exact ⟨_, _, quietly_prepareCoordinated_validating hrotated hrunning hstate⟩
  obtain ⟨mode, t, hmode⟩ := hgate
  exact ⟨environment, migratedProfile "", _, _, _, rfl, rfl,
    (quietly_beforeMigrations hclean (fun h => by cases h) hbusiness (quietly_openGate_active hactive rfl
      (quietly_prepareJournalStart_target hstart.1 hmode))).ends⟩

theorem opens_rollback {chain : String} (hactive : activeJournal journal = some active)
    (hbusiness : ¬ metadata.IsSelector) (hstate : active.state = .awaitingRollbackFirstStart)
    (hchain : active.preUpdateMigrationChainIdentity = some chain)
    (hrunning : releaseInfo.toBuildVersion = journalCurrent active)
    (hnames : Names metadata (journalTarget active)) :
    Opens releaseInfo buildInfo journal (some metadata) none := by
  let environment := calmEnvironment releaseInfo buildInfo active.updatedAt
  let s : InstallationRecords := ⟨journal, some metadata, none,
    waitingPackages releaseInfo id active⟩
  obtain ⟨cache, hnormalize⟩ : ∃ cache, Quietly (normalizeRolledBackPackages releaseInfo id
      (candidateIdentity active) (currentIdentity active)) s.cache (.returned ()) cache :=
    quietly_normalizeRolledBackPackages contents_waitingPackages_current
      contents_waitingPackages_candidate rfl rfl
  have hmode : Quietly (prepareRollbackFirstStart environment
      (some metadata.readAcceptedApplicationBuild) (migratedProfile chain) active) s
      (.returned (.rollback active)) { s with cache := cache } :=
    quietly_prepareRollback hstate (.inr (accepts_iff.mpr (congrArg some hnames)))
      (by simp [profileUnchanged, migratedProfile, hchain]) hnormalize
  refine ⟨environment, migratedProfile chain, _, _, _, rfl, rfl,
    (quietly_beforeMigrations hclean (fun h => by cases h) ?_ (quietly_openGate_active hactive rfl
      (quietly_prepareJournalStart_rollback hrunning hstate hmode))).ends⟩
  rintro _ ⟨⟩
  exact hbusiness

theorem opens_setup (hinactive : activeJournal journal = none)
    (hagrees : journalAgrees journal (some metadata.readAcceptedApplicationBuild) = true)
    (hstate : recovery.state = .accepted)
    (hrunning : recovery.runningTargetBuildIdentity = releaseInfo.toBuildVersion)
    (hbusiness : ¬ metadata.IsSelector)
    (hnames : Names metadata recovery.previousAcceptedBuildIdentity) :
    Opens releaseInfo buildInfo journal (some metadata) (some recovery) := by
  let environment := calmEnvironment releaseInfo buildInfo 0
  let s : InstallationRecords := ⟨journal, some metadata, some recovery,
    .ofDirectories fun _ => none⟩
  have haccepts : accepts (some metadata.readAcceptedApplicationBuild)
      recovery.previousAcceptedBuildIdentity = true := accepts_iff.mpr (congrArg some hnames)
  have hidentity : assertDirectSetupRecoveryIdentity environment recovery
      (some metadata.readAcceptedApplicationBuild) true = .ok () := by
    refine if_neg ?_
    simp [environment, calmEnvironment, hrunning, haccepts]
  have hprepare : Quietly (prepareUncoordinatedFirstStart environment
      (some metadata.readAcceptedApplicationBuild) (some recovery) (migratedProfile "")) s
      (.returned (.directSetup (some recovery), some recovery.recoveryPointReference)) s := by
    show Quietly (if recovery.state = .accepted then _ else _) _ _ _
    rw [if_pos hstate]
    exact quietly_bind (quietly_ofExcept hidentity)
      (quietly_check (by simp [migratedProfile]) quietly_pure)
  have hgate : Quietly (openGate environment (migratedProfile "") s.journal s.acceptedBuild
      s.directSetupRecovery) s
      (.returned (.directSetup (some recovery), some recovery.recoveryPointReference)) s := by
    rw [openGate, hinactive]
    exact quietly_check (by simp [s, hagrees]) (quietly_bind hprepare quietly_pure)
  refine ⟨environment, migratedProfile "", _, _, _, rfl, rfl,
    (quietly_beforeMigrations hclean (fun _ => hinactive) ?_ hgate).ends⟩
  rintro _ ⟨⟩
  exact hbusiness

/-! ## Both gates -/

theorem not_allowed_target
    (h : TargetNotAhead releaseInfo journal acceptedMetadata directSetupRecovery) :
    ¬ Allowed releaseInfo buildInfo journal acceptedMetadata directSetupRecovery := by
  obtain ⟨active, hactive, rfl, ⟨hrunning, -⟩, hmetadata⟩ := h
  cases acceptedMetadata with
  | none =>
      rintro ⟨admission, h⟩
      rw [classifyPreWorkspaceBuildAdmission] at h
      split at h
      · cases h
      · split at h
        · cases h
        · simp [hactive] at h
  | some metadata =>
      obtain ⟨hbusiness, hahead⟩ := hmetadata metadata rfl
      rw [allowed_active_iff hclean hactive hbusiness]
      rintro ⟨hnames, hcurrent | ⟨-, hnewer⟩⟩
      · exact journalCurrent_ne_journalTarget active (hcurrent.symm.trans hrunning)
      · exact hahead ⟨hnames, hnewer⟩

theorem not_allowed_rollback
    (h : CandidateStillAccepted releaseInfo journal acceptedMetadata directSetupRecovery) :
    ¬ Allowed releaseInfo buildInfo journal acceptedMetadata directSetupRecovery := by
  obtain ⟨active, metadata, hactive, rfl, rfl, -, -, -, hbusiness, hcandidate⟩ := h
  rw [allowed_active_iff hclean hactive hbusiness]
  rintro ⟨hnames, -⟩
  exact journalCurrent_ne_journalTarget active (Eq.trans (Eq.symm hnames) hcandidate)

theorem not_allowed_setup
    (h : SetupNotAhead releaseInfo journal acceptedMetadata directSetupRecovery) :
    ¬ Allowed releaseInfo buildInfo journal acceptedMetadata directSetupRecovery := by
  obtain ⟨recovery, metadata, hinactive, rfl, rfl, hagrees, -, hrunning, hbusiness, hprevious,
    hahead⟩ := h
  rw [allowed_setup_iff hclean hinactive hbusiness hagrees]
  rintro ⟨-, ⟨-, hnames⟩ | ⟨-, hnewer⟩⟩
  · exact previous_ne_target recovery (Eq.trans (Eq.symm hprevious) (Eq.trans hnames hrunning.symm))
  · exact hahead hnewer

/-- What the second gate lets through, the first one does as well, the three kinds of
    start apart. -/
theorem allowed_of_opens
    (htarget : ¬ TargetNotAhead releaseInfo journal acceptedMetadata directSetupRecovery)
    (hcandidate : ¬ CandidateStillAccepted releaseInfo journal acceptedMetadata
      directSetupRecovery)
    (hsetup : ¬ SetupNotAhead releaseInfo journal acceptedMetadata directSetupRecovery)
    (hopens : Opens releaseInfo buildInfo journal acceptedMetadata directSetupRecovery) :
    Allowed releaseInfo buildInfo journal acceptedMetadata directSetupRecovery := by
  obtain ⟨environment, inspection, rfl, hbusiness, hstart⟩ := startable_of_opens hopens
  cases hactive : activeJournal journal with
  | some active =>
      rw [hactive] at hstart
      obtain ⟨rfl, hstart⟩ := hstart
      cases acceptedMetadata with
      | none =>
          rcases hstart with hstart | ⟨-, -, ⟨-, haccepts | haccepts⟩ | ⟨-, -, haccepts⟩⟩
          · exact absurd ⟨active, hactive, rfl, hstart, nofun⟩ htarget
          all_goals cases accepts_iff.mp haccepts
      | some metadata =>
          have hscope := hbusiness metadata rfl
          rcases hstart with hstart | ⟨hrunning, hprofile, ⟨hstate, haccepts | haccepts⟩ |
            ⟨-, -, haccepts⟩⟩
          · by_contra hrefused
            refine htarget ⟨active, hactive, rfl, hstart, ?_⟩
            rintro _ ⟨⟩
            refine ⟨hscope, fun ⟨hnames, hahead⟩ => hrefused ?_⟩
            exact (allowed_active_iff hclean hactive hscope).mpr ⟨hnames, .inr ⟨hstart.1, hahead⟩⟩
          · exact (allowed_active_iff hclean hactive hscope).mpr
              ⟨Option.some.inj (accepts_iff.mp haccepts), .inl hrunning⟩
          · have hchain : active.preUpdateMigrationChainIdentity.isSome := by
              simp only [profileUnchanged, Bool.and_eq_true, decide_eq_true_eq] at hprofile
              rw [← hprofile.2]
              rfl
            exact absurd ⟨active, metadata, hactive, rfl, rfl, hstate, hchain, hrunning, hscope,
              Option.some.inj (accepts_iff.mp haccepts)⟩ hcandidate
          · exact (allowed_active_iff hclean hactive hscope).mpr
              ⟨Option.some.inj (accepts_iff.mp haccepts), .inl hrunning⟩
  | none =>
      rw [hactive] at hstart
      obtain ⟨hagrees, hstart⟩ := hstart
      cases acceptedMetadata with
      | none =>
          cases directSetupRecovery with
          | none => exact allowed_initialInstall hclean hactive hagrees
          | some recovery =>
              rcases hstart with ⟨-, ⟨-, haccepts | haccepts⟩ | ⟨haccepts, -⟩⟩
              all_goals cases accepts_iff.mp haccepts
      | some metadata =>
          have hscope := hbusiness metadata rfl
          cases directSetupRecovery with
          | none =>
              rcases hstart with hnone | haccepts | ⟨_, ⟨⟩, hnewer⟩
              · cases hnone
              · exact allowed_uncoordinated hclean hactive hagrees
                  (.inl (Option.some.inj (accepts_iff.mp haccepts)))
              · exact allowed_uncoordinated hclean hactive hagrees (.inr hnewer)
          | some recovery =>
              rw [allowed_setup_iff hclean hactive hscope hagrees]
              obtain ⟨hrunning, ⟨hstate, haccepts | haccepts⟩ | ⟨haccepts, _, ⟨⟩, hnewer⟩⟩ := hstart
              · have hprevious := Option.some.inj (accepts_iff.mp haccepts)
                refine ⟨hrunning, .inr ⟨hprevious, ?_⟩⟩
                by_contra hahead
                exact hsetup ⟨recovery, metadata, hactive, rfl, rfl, hagrees, hstate, hrunning, hscope,
                  hprevious, hahead⟩
              · have hnames := Option.some.inj (accepts_iff.mp haccepts)
                exact ⟨hrunning, .inl ⟨hstate, Eq.trans hnames hrunning⟩⟩
              · exact ⟨hrunning, .inr ⟨Option.some.inj (accepts_iff.mp haccepts), hnewer⟩⟩

end

/-- **WHEN THE GATES AGREE**: a start of a clean build that the second gate lets through
    is allowed by the first one, if and only if it is none of the three kinds. -/
theorem gates_agree_iff (hclean : buildInfo.IsCleanBuild releaseInfo) :
    (Opens releaseInfo buildInfo journal acceptedMetadata directSetupRecovery →
        Allowed releaseInfo buildInfo journal acceptedMetadata directSetupRecovery) ↔
      ¬ TargetNotAhead releaseInfo journal acceptedMetadata directSetupRecovery ∧
        ¬ CandidateStillAccepted releaseInfo journal acceptedMetadata directSetupRecovery ∧
        ¬ SetupNotAhead releaseInfo journal acceptedMetadata directSetupRecovery := by
  constructor
  · intro hagree
    refine ⟨fun h => ?_, fun h => ?_, fun h => ?_⟩
    · obtain ⟨active, hactive, rfl, hstart, hmetadata⟩ := id h
      exact not_allowed_target hclean h
        (hagree (opens_target hclean hactive (fun metadata hm => (hmetadata metadata hm).1) hstart))
    · obtain ⟨active, metadata, hactive, rfl, rfl, hstate, hchain, hrunning, hbusiness, hnames⟩ :=
        id h
      obtain ⟨chain, hchain⟩ := Option.isSome_iff_exists.mp hchain
      exact not_allowed_rollback hclean h
        (hagree (opens_rollback hclean hactive hbusiness hstate hchain hrunning hnames))
    · obtain ⟨recovery, metadata, hinactive, rfl, rfl, hagrees, hstate, hrunning, hbusiness, hnames,
        -⟩ := id h
      exact not_allowed_setup hclean h
        (hagree (opens_setup hclean hinactive hagrees hstate hrunning hbusiness hnames))
  · rintro ⟨htarget, hcandidate, hsetup⟩
    exact allowed_of_opens hclean htarget hcandidate hsetup

open SampleUpdate in
/-- After a rollback with metadata that name the candidate, and when the first start of a
    target is resumed whose metadata were written already, the gates disagree. -/
theorem gates_disagree :
    (Opens oldRelease (cleanBuild oldRelease) (some awaitingRollbackFirstStart)
        (some (accepted newRelease)) none ∧
      ¬ Allowed oldRelease (cleanBuild oldRelease) (some awaitingRollbackFirstStart)
        (some (accepted newRelease)) none) ∧
    (Opens newRelease (cleanBuild newRelease) (some firstStartValidating)
        (some (accepted newRelease)) none ∧
      ¬ Allowed newRelease (cleanBuild newRelease) (some firstStartValidating)
        (some (accepted newRelease)) none) := by
  have hnewer : ¬ Ahead newRelease (accepted newRelease) := not_ahead_of_names rfl
  refine ⟨⟨?_, ?_⟩, ?_, ?_⟩
  · exact opens_rollback ⟨rfl, rfl⟩ rfl nofun rfl rfl rfl rfl
  · exact not_allowed_rollback ⟨rfl, rfl⟩
      ⟨awaitingRollbackFirstStart, _, rfl, rfl, rfl, rfl, rfl, rfl, nofun, rfl⟩
  · refine opens_target ⟨rfl, rfl⟩ rfl ?_ ⟨rfl, .inr rfl⟩
    rintro _ ⟨⟩
    exact nofun
  · refine not_allowed_target ⟨rfl, rfl⟩
      ⟨firstStartValidating, rfl, rfl, ⟨rfl, .inr rfl⟩, ?_⟩
    rintro _ ⟨⟩
    exact ⟨nofun, fun h => hnewer h.2⟩

open SampleUpdate in
theorem gates_agree_for_first_start :
    (cleanBuild newRelease).IsCleanBuild newRelease ∧
      (Opens newRelease (cleanBuild newRelease) (some awaitingFirstStart)
          (some (accepted oldRelease)) none →
        Allowed newRelease (cleanBuild newRelease) (some awaitingFirstStart)
          (some (accepted oldRelease)) none) := by
  refine ⟨⟨rfl, rfl⟩, (gates_agree_iff ⟨rfl, rfl⟩).mpr ⟨?_, ?_, ?_⟩⟩
  · rintro ⟨_, ⟨⟩, -, -, hmetadata⟩
    refine (hmetadata _ rfl).2 ⟨rfl, ?_⟩
    show compareSemanticVersions _ _ _ _ = _
    decide
  · rintro ⟨_, _, ⟨⟩, -, -, hstate, -⟩
    cases hstate
  · rintro ⟨_, _, hinactive, -⟩
    cases hinactive

end StartGates
