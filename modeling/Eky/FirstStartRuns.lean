import Eky.FirstStartProofs
import Eky.PackageCacheProofs

/-! # First starts that nothing disturbs

    What a start returns when every dependency answers and every record is written at
    once.  The lemmas follow the functions of the coordinator, one for each way in which
    they go on. -/

namespace FirstStartUpdateCoordinator

open Program PreWorkspaceBuildAdmission PackageCache

variable {environment : StartEnvironment} {inspection : MigrationStartupInspection}
  {acceptedBuild : Option AcceptedBuildMetadata} {journal next : UpdateJournal}
  {acceptedMetadata : Option VersionedAcceptedBuildMetadata}
  {directSetupRecovery : Option DirectSetupMigrationRecovery} {s t : InstallationRecords}
  {mode : FirstStartMode} {reference : Option String} {outcome : Outcome StartError Unit}

/-- The package and the role in a directory of the cache, as the coordinator sees it. -/
abbrev packageAt (environment : StartEnvironment) (cache : PackageCache) (entry : CacheEntry) :
    Option (ExpectedPackageIdentity × CacheSlotRole) :=
  contents environment.releaseInfo environment.createExpectedProductCode cache entry

/-- A first start that goes on, or is accepted, has what its journal must say. -/
theorem transition_firstStart {state : UpdateJournalState} {time : Instant}
    (hfrom : journal.state = .awaitingFirstStart ∨ journal.state = .firstStartValidating)
    (hto : state = .firstStartValidating ∨ state = .accepted)
    (hallowed : state ∈ journal.state.allowedTransitions)
    (hrevision : journal.revision < maximumSafeInteger) (htime : journal.createdAt ≤ time) :
    ∃ next, transitionUpdateJournal journal ⟨time, none, none, none, state⟩ = .ok next := by
  obtain ⟨hid, hcurrent, htarget, hdiffer, hbound, hpositive, -, hidentities⟩ := journal.wellFormed
  obtain ⟨-, hpoint, -, hhandoff, -, hbinary⟩ := journal.fitsState
  have hnext : (journal.changed ⟨time, none, none, none, state⟩).revision ≤
        maximumSafeInteger ∧
      1 ≤ (journal.changed ⟨time, none, none, none, state⟩).revision := by
    simp only [UpdateJournal.changed]
    split <;> omega
  have hpoint : journal.recoveryPointReference.isSome :=
    hpoint (by rcases hfrom with h | h <;> rw [h] <;> decide)
  have hhandoff : journal.handoffAttemptCount = 1 :=
    hhandoff (by rcases hfrom with h | h <;> rw [h] <;> decide)
  have hbinary : journal.binaryRollbackAttemptCount = 0 :=
    hbinary (by rcases hfrom with h | h <;> rw [h] <;> decide)
  refine ⟨_, transition_total hallowed
    ⟨hid, hcurrent, htarget, hdiffer, hnext.1, hnext.2, htime, hidentities⟩ ?_⟩
  have hother : state ≠ .installerNotApplied ∧ state ∉ UpdateJournalState.beforeHandoff ∧
      state ∉ UpdateJournalState.afterBinaryRollback := by
    rcases hto with rfl | rfl <;> decide
  exact ⟨fun h => absurd h hother.1, fun _ => hpoint, fun h => absurd h hother.2.1,
    fun _ => hhandoff, fun h => absurd h hother.2.2, fun _ => hbinary⟩

variable {α : Type}

/-! ## Dependencies -/

theorem quietly_answer {value : α} : Quietly (answer value) s (.returned value) s := by
  rw [answer]
  exact quietly_attempt rfl

theorem quietly_transitionJournal {input : JournalTransition}
    (h : transitionUpdateJournal journal input = .ok next) :
    Quietly (transitionJournal journal input) s (.returned next) s := by
  rw [transitionJournal, h]
  exact quietly_pure

/-- The next revision of the journal in place. -/
theorem quietly_writeJournal (hjournal : s.journal = some journal)
    (hid : next.correlationId = journal.correlationId) (hrevision : journal.revision ≤ next.revision) :
    Quietly (writeJournal next) s (.returned ()) { s with journal := some next } := by
  rw [writeJournal]
  refine quietly_attempt (if_neg ?_)
  simp [hjournal, hid, hrevision]

theorem quietly_onCache {m : CacheProgram α} {a : α} {cache : PackageCache}
    (h : Quietly m s.cache (.returned a) cache) :
    Quietly (onCache m) s (.returned a) { s with cache := cache } := by
  rw [onCache]
  exact quietly_zoom (quietly_mapError h)

theorem quietly_guarded {marks : StartProgram Unit} {m : StartProgram α} {a : α}
    (h : Quietly m s (.returned a) t) : Quietly (guarded marks m) s (.returned a) t := by
  rw [guarded]
  exact quietly_tryCatch h

theorem quietly_revalidate {expected : ExpectedPackageIdentity} {role : CacheSlotRole}
    (h : packageAt environment s.cache (.slot role) = some (expected, role)) :
    Quietly (revalidateJournalPackage environment expected role) s (.returned ()) s := by
  rw [FirstStartUpdateCoordinator.revalidateJournalPackage]
  exact quietly_onCache (quietly_revalidateJournalPackage h)

/-! ## The kinds of start -/

theorem quietly_findRotation_initial
    (hcurrent : packageAt environment s.cache .current = some (currentIdentity journal, .current))
    (hcandidate : packageAt environment s.cache .candidate =
      some (candidateIdentity journal, .candidate)) :
    Quietly (findRotation environment journal) s (.returned false) s :=
  quietly_tryCatch (quietly_bind (quietly_revalidate hcurrent)
    (quietly_bind (quietly_revalidate hcandidate) quietly_pure))

/-- The first start of the target begins, and its journal says so. -/
theorem quietly_prepareCoordinated_awaiting {rotated : Bool}
    (hrotated : Quietly (findRotation environment journal) s (.returned rotated) s)
    (hjournal : s.journal = some journal)
    (hrunning : environment.releaseInfo.toBuildVersion = journalTarget journal)
    (hstate : journal.state = .awaitingFirstStart)
    (htransition : transitionUpdateJournal journal
      ⟨environment.clock .validating, none, none, none, .firstStartValidating⟩ = .ok next) :
    Quietly (prepareCoordinatedFirstStart environment journal) s
      (.returned (.coordinated next rotated)) { s with journal := some next } := by
  have hpoint : journal.recoveryPointReference ≠ none :=
    Option.isSome_iff_ne_none.mp (journal.fitsState.2.1 (by rw [hstate]; decide))
  have hrevision : journal.revision ≤ next.revision := by
    rw [transition_revision htransition (by simp [hstate])]
    exact Nat.le_succ _
  refine quietly_check (by simp [hstate, hrunning, hpoint]) (quietly_bind hrotated ?_)
  rw [if_neg (by simp [hstate])]
  exact quietly_bind (quietly_transitionJournal htransition)
    (quietly_bind (quietly_writeJournal hjournal (transition_correlationId htransition) hrevision)
      quietly_pure)

/-- A first start that began before is resumed. -/
theorem quietly_prepareCoordinated_validating {rotated : Bool}
    (hrotated : Quietly (findRotation environment journal) s (.returned rotated) s)
    (hrunning : environment.releaseInfo.toBuildVersion = journalTarget journal)
    (hstate : journal.state = .firstStartValidating) :
    Quietly (prepareCoordinatedFirstStart environment journal) s
      (.returned (.coordinated journal rotated)) s := by
  have hpoint : journal.recoveryPointReference ≠ none :=
    Option.isSome_iff_ne_none.mp (journal.fitsState.2.1 (by rw [hstate]; decide))
  refine quietly_check (by simp [hstate, hrunning, hpoint]) (quietly_bind hrotated ?_)
  rw [if_pos hstate]
  exact quietly_pure

theorem quietly_prepareRollback {cache : PackageCache}
    (hstate : journal.state = .awaitingRollbackFirstStart)
    (haccepts : accepts acceptedBuild (journalCurrent journal) = true ∨
      accepts acceptedBuild (journalTarget journal) = true)
    (hprofile : profileUnchanged inspection journal = true)
    (hnormalize : Quietly (normalizeRolledBackPackages environment.releaseInfo
      environment.createExpectedProductCode (candidateIdentity journal) (currentIdentity journal))
      s.cache (.returned ()) cache) :
    Quietly (prepareRollbackFirstStart environment acceptedBuild inspection journal) s
      (.returned (.rollback journal)) { s with cache := cache } := by
  have hpoint : journal.recoveryPointReference ≠ none :=
    Option.isSome_iff_ne_none.mp (journal.fitsState.2.1 (by rw [hstate]; decide))
  have hhandoff : journal.handoffAttemptCount = 1 :=
    journal.fitsState.2.2.2.1 (by rw [hstate]; decide)
  have hbinary : journal.binaryRollbackAttemptCount = 1 :=
    journal.fitsState.2.2.2.2.1 (by rw [hstate]; decide)
  refine quietly_check ?_ (quietly_bind (quietly_onCache hnormalize) quietly_pure)
  simp only [hstate, hhandoff, hbinary, hpoint, hprofile, ne_eq, not_true_eq_false, Bool.not_true,
    Bool.false_eq_true, or_false, false_or, not_and_or, Bool.not_eq_true', Bool.not_eq_false]
  exact haccepts

theorem quietly_prepareJournalStart_target
    (hrunning : environment.releaseInfo.toBuildVersion = journalTarget journal)
    (h : Quietly (prepareCoordinatedFirstStart environment journal) s (.returned mode) t) :
    Quietly (prepareJournalStart environment acceptedBuild inspection journal) s (.returned mode)
      t := by
  have hclass : classifyRunningJournalBuild environment journal = .ok .target := by
    rw [classifyRunningJournalBuild, if_pos hrunning]
  exact quietly_bind (quietly_ofExcept hclass) h

theorem quietly_prepareJournalStart_rollback
    (hrunning : environment.releaseInfo.toBuildVersion = journalCurrent journal)
    (hstate : journal.state = .awaitingRollbackFirstStart)
    (h : Quietly (prepareRollbackFirstStart environment acceptedBuild inspection journal) s
      (.returned mode) t) :
    Quietly (prepareJournalStart environment acceptedBuild inspection journal) s (.returned mode)
      t := by
  have hdiffer : environment.releaseInfo.toBuildVersion ≠ journalTarget journal := by
    rw [hrunning]
    exact fun hsame => journal.wellFormed.2.2.2.1 (congrArg BuildVersion.appVersion hsame)
  have hclass : classifyRunningJournalBuild environment journal = .ok .current := by
    rw [classifyRunningJournalBuild, if_neg hdiffer, if_pos hrunning]
  refine quietly_bind (quietly_ofExcept hclass) ?_
  show Quietly (if journal.state = .awaitingRollbackFirstStart then _ else _) _ _ _
  rw [if_pos hstate]
  exact h

/-- No migration is pending, so that no recovery point has to be made. -/
theorem quietly_openGate_active (hactive : activeJournal s.journal = some journal)
    (hpending : inspection.pendingMigrationCount = 0)
    (h : Quietly (prepareJournalStart environment
      (acceptedMetadata.map VersionedAcceptedBuildMetadata.readAcceptedApplicationBuild) inspection
      journal) s (.returned mode) t) :
    Quietly (openGate environment inspection s.journal acceptedMetadata directSetupRecovery) s
      (.returned (mode, none)) t := by
  rw [openGate, hactive]
  refine quietly_bind h ?_
  cases mode with
  | coordinated journal rotated =>
      show Quietly (if _ then _ else _) _ _ _
      rw [if_neg (by simp [hpending])]
      exact quietly_pure
  | _ => exact quietly_pure

theorem quietly_readRecords :
    Quietly readRecords s (.returned (s.journal, s.acceptedBuild, s.directSetupRecovery)) s := by
  have hread : ∀ {α : Type} (f : InstallationRecords → α),
      Quietly (attempt .dependency fun s => .ok (f s, s) : StartProgram α) s (.returned (f s)) s :=
    fun f => quietly_attempt rfl
  exact quietly_bind (hread _) (quietly_bind (hread _) (quietly_bind (hread _) quietly_pure))

/-- A clean build, with records of one kind of update only. -/
theorem quietly_beforeMigrations
    (hclean : environment.buildInfo.IsCleanBuild environment.releaseInfo)
    (hexclusive : s.directSetupRecovery.isSome → activeJournal s.journal = none)
    (hbusiness : ∀ metadata, s.acceptedBuild = some metadata → ¬ metadata.IsSelector)
    (h : Quietly (openGate environment inspection s.journal s.acceptedBuild s.directSetupRecovery) s
      (.returned (mode, reference)) t) :
    Quietly (beforeMigrations environment inspection) s
      (.returned ⟨mode, s.acceptedBuild, environment.secretStorageIdentity, reference⟩) t := by
  have hrevision : environment.buildInfo.buildRevision = environment.releaseInfo.buildRevision :=
    congrArg BuildVersion.buildRevision hclean.2
  have hcheck : Quietly (checkStart environment s.journal s.acceptedBuild s.directSetupRecovery) s
      (.returned environment.secretStorageIdentity) s := by
    refine quietly_check (by simp [hclean.1, hrevision]) (quietly_bind quietly_answer ?_)
    refine quietly_check ?_ (quietly_check ?_ quietly_pure)
    · rintro ⟨hsetup, hactive⟩
      rw [hexclusive hsetup] at hactive
      cases hactive
    · cases hmetadata : s.acceptedBuild with
      | none => exact nofun
      | some metadata => simpa using hbusiness metadata hmetadata
  exact quietly_bind (quietly_guarded quietly_readRecords)
    (quietly_bind (quietly_guarded hcheck) (quietly_bind (quietly_guarded h) quietly_pure))

end FirstStartUpdateCoordinator
