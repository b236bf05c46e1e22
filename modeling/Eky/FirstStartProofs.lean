import Eky.FirstStart

/-! # When a first start goes on

    `beforeMigrations` returns only for the records that `Startable` describes: one
    case for each kind of start, with what was compared on the way. -/

namespace FirstStartUpdateCoordinator

open Program PreWorkspaceBuildAdmission

variable {environment : StartEnvironment} {inspection : MigrationStartupInspection}
  {acceptedBuild : Option AcceptedBuildMetadata} {journal : UpdateJournal}
  {directSetupRecovery : Option DirectSetupMigrationRecovery} {s : InstallationRecords}

/-- The running build is newer than the accepted one. -/
def IsNewer (releaseInfo : DesktopReleaseInfo) (acceptedBuild : AcceptedBuildMetadata) : Prop :=
  compareSemanticVersions releaseInfo.appVersion acceptedBuild.appVersion
    releaseInfo.versionValid acceptedBuild.versionValid = .gt

theorem accepts_iff {build : BuildVersion} :
    accepts acceptedBuild build = true ↔
      acceptedBuild.map AcceptedBuildMetadata.toBuildVersion = some build := by
  rw [accepts, decide_eq_true_iff]

/-- The build runs that the update leads to, and its first start can begin, or has begun. -/
def TargetCanStart (releaseInfo : DesktopReleaseInfo) (journal : UpdateJournal) : Prop :=
  releaseInfo.toBuildVersion = journalTarget journal ∧
    ((journal.state = .awaitingFirstStart ∧ journal.revision < maximumSafeInteger) ∨
      journal.state = .firstStartValidating)

/-- The starts with an update that is not over: of the target, of the old build after a
    rollback, and of the old build after an installation that did not take place. -/
def JournalStarts (environment : StartEnvironment) (inspection : MigrationStartupInspection)
    (acceptedBuild : Option AcceptedBuildMetadata) (journal : UpdateJournal) : Prop :=
  TargetCanStart environment.releaseInfo journal ∨
  (environment.releaseInfo.toBuildVersion = journalCurrent journal ∧
    profileUnchanged inspection journal = true ∧
    ((journal.state = .awaitingRollbackFirstStart ∧
        (accepts acceptedBuild (journalCurrent journal) = true ∨
          accepts acceptedBuild (journalTarget journal) = true)) ∨
      ((journal.state = .awaitingFirstStart ∨ journal.state = .failed) ∧
        journal.handoffAttemptCount = 1 ∧
        accepts acceptedBuild (journalCurrent journal) = true)))

/-- The starts without one. -/
def UncoordinatedStarts (environment : StartEnvironment)
    (acceptedBuild : Option AcceptedBuildMetadata)
    (directSetupRecovery : Option DirectSetupMigrationRecovery) : Prop :=
  match directSetupRecovery with
  | some recovery =>
    recovery.runningTargetBuildIdentity = environment.releaseInfo.toBuildVersion ∧
      ((recovery.state = .accepted ∧
          (accepts acceptedBuild recovery.previousAcceptedBuildIdentity = true ∨
            accepts acceptedBuild recovery.runningTargetBuildIdentity = true)) ∨
        (accepts acceptedBuild recovery.previousAcceptedBuildIdentity = true ∧
          ∃ build, acceptedBuild = some build ∧ IsNewer environment.releaseInfo build))
  | none =>
    acceptedBuild = none ∨ accepts acceptedBuild environment.releaseInfo.toBuildVersion = true ∨
      ∃ build, acceptedBuild = some build ∧ IsNewer environment.releaseInfo build

/-- The records with which a start goes on. -/
def Startable (environment : StartEnvironment) (inspection : MigrationStartupInspection)
    (journal : Option UpdateJournal) (acceptedMetadata : Option VersionedAcceptedBuildMetadata)
    (directSetupRecovery : Option DirectSetupMigrationRecovery) : Prop :=
  let acceptedBuild :=
    acceptedMetadata.map VersionedAcceptedBuildMetadata.readAcceptedApplicationBuild
  (∀ metadata, acceptedMetadata = some metadata → ¬ metadata.IsSelector) ∧
    match activeJournal journal with
    | some active =>
      directSetupRecovery = none ∧ JournalStarts environment inspection acceptedBuild active
    | none =>
      journalAgrees journal acceptedBuild = true ∧
        UncoordinatedStarts environment acceptedBuild directSetupRecovery

variable {α : Type}

/-! ## Rules -/

theorem wp_answer {value : α} {Q : α → InstallationRecords → Prop} (h : Q value s) :
    wp AnyFate (answer value) (.partially Q) s :=
  wp_attempt (I := fun _ => True) trivial trivial fun a t hanswer => by
    cases hanswer
    exact ⟨trivial, h⟩

/-- Effects that what is returned does not depend on. -/
theorem wp_whatever {β : Type} {m : StartProgram α} {k : α → StartProgram β}
    {Q : β → InstallationRecords → Prop} (h : ∀ a t, wp AnyFate (k a) (.partially Q) t) :
    wp AnyFate (m >>= k) (.partially Q) s :=
  wp_bind (wp_anything.mono (fun a t _ => h a t) (fun _ _ ht => ht) fun _ ht => ht)

theorem wp_guarded {marks : StartProgram Unit} {m : StartProgram α}
    {Q : α → InstallationRecords → Prop} (h : wp AnyFate m (.partially Q) s) :
    wp AnyFate (guarded marks m) (.partially Q) s :=
  wp_rethrow h

theorem wp_readRecords :
    wp AnyFate readRecords
      (.partially fun read t => t = s ∧ read = (s.journal, s.acceptedBuild, s.directSetupRecovery))
      s := by
  have hread : ∀ {α β : Type} (f : InstallationRecords → α) (k : α → StartProgram β)
      (Q : β → InstallationRecords → Prop), wp AnyFate (k (f s)) (.partially Q) s →
      wp AnyFate (attempt .dependency (fun s => .ok (f s, s)) >>= k) (.partially Q) s := by
    intro α β f k Q h
    refine wp_bind (wp_attempt (I := fun _ => True) trivial trivial fun a t hread => ?_)
    cases hread
    exact ⟨trivial, h⟩
  exact hread _ _ _ (hread _ _ _ (hread _ _ _ (wp_pure ⟨rfl, rfl⟩)))

/-! ## The kinds of start -/

theorem wp_prepareCoordinatedFirstStart :
    wp AnyFate (prepareCoordinatedFirstStart environment journal)
      (.partially fun _ _ => TargetCanStart environment.releaseInfo journal) s := by
  refine wp_check (fun _ => trivial) fun hcheck => wp_whatever fun rotated t => ?_
  simp only [not_or, not_and_or, not_not] at hcheck
  obtain ⟨hstate, hrunning, -⟩ := hcheck
  split
  · rename_i hvalidating
    exact wp_pure ⟨hrunning.symm, .inr hvalidating⟩
  · rename_i hvalidating
    have hawaiting := hstate.resolve_right hvalidating
    refine wp_bind (wp_ofExcept (fun validating htransition => ?_) fun _ _ => trivial)
    have hrevision : journal.revision < maximumSafeInteger := by
      cases hnext : transitionUpdateJournal journal
          ⟨environment.clock .validating, none, none, none, .firstStartValidating⟩ with
      | error e =>
          rw [hnext] at htransition
          cases htransition
      | ok next => exact transition_revision_lt hnext (by simp [hawaiting])
    exact wp_whatever fun _ _ => wp_pure ⟨hrunning.symm, .inl ⟨hawaiting, hrevision⟩⟩

theorem wp_prepareInstallerNotApplied {Q : FirstStartMode → InstallationRecords → Prop}
    (h : (journal.state = .awaitingFirstStart ∨ journal.state = .failed) →
      journal.handoffAttemptCount = 1 → accepts acceptedBuild (journalCurrent journal) = true →
      profileUnchanged inspection journal = true → ∀ mode t, Q mode t) :
    wp AnyFate (prepareInstallerNotApplied environment acceptedBuild inspection journal)
      (.partially Q) s := by
  refine wp_check (fun _ => trivial) fun hcheck => ?_
  simp only [not_or, not_and_or, not_not, Bool.not_eq_true', Bool.not_eq_false] at hcheck
  obtain ⟨hstate, hcount, _, haccepts, hprofile⟩ := hcheck
  exact wp_anything.mono (fun _ _ _ => h hstate hcount haccepts hprofile _ _) (fun _ _ ht => ht)
    fun _ ht => ht

theorem wp_prepareRollbackFirstStart {Q : FirstStartMode → InstallationRecords → Prop}
    (h : (accepts acceptedBuild (journalCurrent journal) = true ∨
        accepts acceptedBuild (journalTarget journal) = true) →
      profileUnchanged inspection journal = true → ∀ mode t, Q mode t) :
    wp AnyFate (prepareRollbackFirstStart environment acceptedBuild inspection journal)
      (.partially Q) s := by
  refine wp_check (fun _ => trivial) fun hcheck => ?_
  simp only [not_or, not_and_or, not_not, Bool.not_eq_true', Bool.not_eq_false] at hcheck
  obtain ⟨_, _, _, _, haccepts, hprofile⟩ := hcheck
  exact wp_anything.mono (fun _ _ _ => h haccepts hprofile _ _) (fun _ _ ht => ht) fun _ ht => ht

theorem classifyRunningJournalBuild_ok {running : RunningJournalBuild}
    (h : classifyRunningJournalBuild environment journal = .ok running) :
    environment.releaseInfo.toBuildVersion =
      match running with
      | .target => journalTarget journal
      | .current => journalCurrent journal := by
  by_cases htarget : environment.releaseInfo.toBuildVersion = journalTarget journal
  · rw [classifyRunningJournalBuild, if_pos htarget] at h
    cases h
    exact htarget
  · by_cases hcurrent : environment.releaseInfo.toBuildVersion = journalCurrent journal
    · rw [classifyRunningJournalBuild, if_neg htarget, if_pos hcurrent] at h
      cases h
      exact hcurrent
    · rw [classifyRunningJournalBuild, if_neg htarget, if_neg hcurrent] at h
      cases h

theorem wp_prepareJournalStart :
    wp AnyFate (prepareJournalStart environment acceptedBuild inspection journal)
      (.partially fun _ _ => JournalStarts environment inspection acceptedBuild journal) s := by
  refine wp_bind (wp_ofExcept (fun running hrunning => ?_) fun _ _ => trivial)
  have hsame := classifyRunningJournalBuild_ok hrunning
  cases running with
  | target =>
      exact wp_prepareCoordinatedFirstStart.mono (fun _ _ hstart => .inl hstart) (fun _ _ ht => ht)
        fun _ ht => ht
  | current =>
      by_cases hstate : journal.state = .awaitingRollbackFirstStart
      · show wp AnyFate (if journal.state = .awaitingRollbackFirstStart then _ else _) _ s
        rw [if_pos hstate]
        exact wp_prepareRollbackFirstStart fun haccepts hprofile _ _ =>
          .inr ⟨hsame, hprofile, .inl ⟨hstate, haccepts⟩⟩
      · show wp AnyFate (if journal.state = .awaitingRollbackFirstStart then _ else _) _ s
        rw [if_neg hstate]
        exact wp_prepareInstallerNotApplied fun hstate hcount haccepts hprofile _ _ =>
          .inr ⟨hsame, hprofile, .inr ⟨hstate, hcount, haccepts⟩⟩

theorem resolveDirectSetupMode_ok {mode : FirstStartMode}
    (h : resolveDirectSetupMode environment acceptedBuild = .ok mode) :
    UncoordinatedStarts environment acceptedBuild none ∧
      ((∃ recovery, mode = .directSetup recovery) →
        ∃ build, acceptedBuild = some build ∧ IsNewer environment.releaseInfo build) := by
  cases acceptedBuild with
  | none =>
      cases h
      exact ⟨.inl rfl, nofun⟩
  | some build =>
      simp only [resolveDirectSetupMode] at h
      split at h
      · rename_i hsame
        cases h
        refine ⟨.inr (.inl (accepts_iff.mpr (congrArg some hsame))), ?_⟩
        rintro ⟨_, hmode⟩
        cases hmode
      · split at h
        · cases h
        · rename_i hnewer
          rw [not_ne_iff] at hnewer
          exact ⟨.inr (.inr ⟨build, rfl, hnewer⟩), fun _ => ⟨build, rfl, hnewer⟩⟩

theorem assertDirectSetupRecoveryIdentity_ok {recovery : DirectSetupMigrationRecovery}
    {allowAcceptedTarget : Bool}
    (h : assertDirectSetupRecoveryIdentity environment recovery acceptedBuild
      allowAcceptedTarget = .ok ()) :
    recovery.runningTargetBuildIdentity = environment.releaseInfo.toBuildVersion ∧
      (accepts acceptedBuild recovery.previousAcceptedBuildIdentity = true ∨
        (allowAcceptedTarget = true ∧
          accepts acceptedBuild recovery.runningTargetBuildIdentity = true)) := by
  rw [assertDirectSetupRecoveryIdentity] at h
  split at h
  · cases h
  · rename_i hmatches
    simp only [Bool.or_eq_true, not_or, decide_eq_true_eq, not_not, Bool.and_eq_true,
      Bool.not_eq_true', Bool.not_eq_false, not_and_or, Bool.and_eq_false_iff] at hmatches
    exact ⟨hmatches.2, hmatches.1.imp_right fun h => by simpa using h⟩

theorem wp_prepareUncoordinatedFirstStart :
    wp AnyFate
      (prepareUncoordinatedFirstStart environment acceptedBuild directSetupRecovery inspection)
      (.partially fun _ _ => UncoordinatedStarts environment acceptedBuild directSetupRecovery)
      s := by
  cases directSetupRecovery with
  | none =>
      refine wp_bind (wp_ofExcept (fun mode hmode => ?_) fun _ _ => trivial)
      exact wp_anything.mono (fun _ _ _ => (resolveDirectSetupMode_ok hmode).1)
        (fun _ _ ht => ht) fun _ ht => ht
  | some recovery =>
      show wp AnyFate (if recovery.state = .accepted then _ else _) _ s
      split
      · rename_i hstate
        refine wp_bind (wp_ofExcept (fun _ hidentity => ?_) fun _ _ => trivial)
        obtain ⟨hrunning, haccepts⟩ := assertDirectSetupRecoveryIdentity_ok hidentity
        exact wp_anything.mono (fun _ _ _ => ⟨hrunning, .inl ⟨hstate, haccepts.imp_right And.right⟩⟩)
          (fun _ _ ht => ht) fun _ ht => ht
      · refine wp_bind (wp_ofExcept (fun mode hmode => ?_) fun _ _ => trivial)
        have hnewer := (resolveDirectSetupMode_ok hmode).2
        cases mode with
        | directSetup resumed =>
            refine wp_bind (wp_bind (wp_ofExcept (fun _ hidentity => ?_) fun _ _ => trivial))
            obtain ⟨hrunning, haccepts⟩ := assertDirectSetupRecoveryIdentity_ok hidentity
            have hprevious := haccepts.resolve_right fun h => Bool.noConfusion h.1
            have hstarts : UncoordinatedStarts environment acceptedBuild (some recovery) :=
              ⟨hrunning, .inr ⟨hprevious, hnewer ⟨resumed, rfl⟩⟩⟩
            exact wp_anything.mono
              (fun _ _ _ => wp_pure hstarts) (fun _ _ ht => ht) fun _ ht => ht
        | coordinated _ _ => exact wp_throw trivial
        | installerNotApplied _ => exact wp_throw trivial
        | rollback _ => exact wp_throw trivial
        | initialInstall => exact wp_throw trivial
        | normal => exact wp_throw trivial

/-- **ONLY STARTABLE RECORDS**: a gate that opens has found one of the kinds of start. -/
theorem wp_beforeMigrations :
    wp AnyFate (beforeMigrations environment inspection)
      (.partially fun _ _ =>
        Startable environment inspection s.journal s.acceptedBuild s.directSetupRecovery) s := by
  refine wp_bind ((wp_guarded wp_readRecords).mono ?_ (fun _ _ ht => ht) fun _ ht => ht)
  rintro _ s ⟨rfl, rfl⟩
  refine wp_bind ((wp_guarded (?_ : wp AnyFate _ (.partially fun _ _ =>
    (s.directSetupRecovery.isSome → activeJournal s.journal = none) ∧
      ∀ metadata, s.acceptedBuild = some metadata → ¬ metadata.IsSelector) s)).mono ?_
    (fun _ _ ht => ht) fun _ ht => ht)
  · refine wp_check (fun _ => trivial) fun _ => wp_bind (wp_answer ?_)
    refine wp_check (fun _ => trivial) fun hboth => wp_check (fun _ => trivial) fun hselector => ?_
    refine wp_pure ⟨fun hrecovery => ?_, fun metadata hmetadata hscope => hselector ?_⟩
    · by_contra hactive
      exact hboth ⟨hrecovery, Option.isSome_iff_ne_none.mpr hactive⟩
    · rw [hmetadata]
      exact decide_eq_true hscope
  · rintro _ t ⟨hexclusive, hselector⟩
    refine wp_bind ((wp_guarded (?_ : wp AnyFate _ (.partially fun _ _ =>
      Startable environment inspection s.journal s.acceptedBuild s.directSetupRecovery) t)).mono
      (fun _ _ ht => wp_pure ht) (fun _ _ ht => ht) fun _ ht => ht)
    simp only [openGate, Startable]
    cases hactive : activeJournal s.journal with
    | some active =>
        have hnone : s.directSetupRecovery = none := by
          cases hrecovery : s.directSetupRecovery with
          | none => rfl
          | some recovery => exact absurd (hexclusive (by rw [hrecovery]; rfl)) (by simp [hactive])
        refine wp_bind (wp_prepareJournalStart.mono (fun mode u hstarts => ?_) (fun _ _ ht => ht)
          fun _ ht => ht)
        exact wp_anything.mono (fun _ _ _ => ⟨hselector, hnone, hstarts⟩) (fun _ _ ht => ht)
          fun _ ht => ht
    | none =>
        refine wp_check (fun _ => trivial) fun hagrees => ?_
        refine wp_bind (wp_prepareUncoordinatedFirstStart.mono (fun mode u hstarts => ?_)
          (fun _ _ ht => ht) fun _ ht => ht)
        exact wp_anything.mono (fun _ _ _ => ⟨hselector, by simpa using hagrees, hstarts⟩)
          (fun _ _ ht => ht) fun _ ht => ht

end FirstStartUpdateCoordinator
