import Eky.HandoffHistory
import Eky.StartGates

/-! # Starts after an update that is over

    A handoff and the starts after it share the journal.  A journal of an update that
    has ended without a new build is no longer one that a start goes on with, and it is
    not `accepted` either: no start gets past it. -/

namespace FinishedUpdate

open Program FirstStartUpdateCoordinator PreWorkspaceBuildAdmission LocalUpdateHandoffCoordinator

variable {environment : StartEnvironment} {inspection : MigrationStartupInspection}
  {journal : UpdateJournal} {s : InstallationRecords}

/-- Runs of a handoff coordinator, in the course of an operation or between two of them,
    and then starts, each of them up to its end or to a crash. -/
def updateSystem : TransitionSystem InstallationRecords where
  initial s := ∃ world t, handoffSystem.Reachable world ∧ (t = world ∨ UnderWay world t) ∧
    s.journal = t.journal
  step s t := ∃ environment inspection outcome, Ends (start environment inspection) s outcome t

/-- The update is over, and the accepted build is still the old one. -/
def Ended (journal : UpdateJournal) : Prop :=
  journal.state = .installerNotApplied ∨ journal.state = .rolledBack ∨
    (journal.state = .failed ∧ journal.handoffAttemptCount = 0)

theorem not_journalStarts_of_ended {acceptedBuild : Option AcceptedBuildMetadata}
    (h : Ended journal) : ¬ JournalStarts environment inspection acceptedBuild journal := by
  have hstates : journal.state ≠ .awaitingFirstStart ∧ journal.state ≠ .firstStartValidating ∧
      journal.state ≠ .awaitingRollbackFirstStart := by
    rcases h with h | h | ⟨h, -⟩ <;> rw [h] <;> decide
  rintro (⟨-, ⟨hstate, -⟩ | hstate⟩ | ⟨-, -, ⟨hstate, -⟩ | ⟨hstate | hstate, hcount, -⟩⟩)
  · exact hstates.1 hstate
  · exact hstates.2.1 hstate
  · exact hstates.2.2 hstate
  · exact hstates.1 hstate
  · rcases h with h | h | ⟨-, hnone⟩
    · cases h.symm.trans hstate
    · cases h.symm.trans hstate
    · rw [hcount] at hnone
      cases hnone

theorem activeJournal_of_ended (h : Ended journal) : activeJournal (some journal) = some journal := by
  refine Option.filter_eq_some_iff.mpr ⟨rfl, decide_eq_true ?_⟩
  rcases h with h | h | ⟨h, -⟩ <;> rw [h] <;> decide

/-- **NO LATER START**: once an update has ended without a new build, no start of any
    build is accepted, whatever the profile and the dependencies are like. -/
theorem finished_update_blocks (hjournal : s.journal = some journal) (hended : Ended journal)
    (environment : StartEnvironment) (inspection : MigrationStartupInspection)
    (fates : List Fate) : (start environment inspection s fates).1 ≠ .returned () := by
  have hblocked : wp AnyFate (start environment inspection) (.partially fun _ _ => False) s := by
    refine wp_bind (wp_beforeMigrations.mono (fun _ _ hstartable => ?_) (fun _ _ ht => ht)
      fun _ ht => ht)
    obtain ⟨-, hstart⟩ := hstartable
    rw [hjournal, activeJournal_of_ended hended] at hstart
    exact absurd hstart.2 (not_journalStarts_of_ended hended)
  intro hreturned
  have hpost := (hblocked fates fun _ _ => trivial).1
  rw [hreturned] at hpost
  exact hpost

/-! ## Two updates that have ended -/

open SampleUpdate

/-- The old build starts, with the profile of before. -/
def oldStart : StartEnvironment :=
  { StartGates.calmEnvironment oldRelease (cleanBuild oldRelease) 0 with
    activeMigrationChainIdentity := migrationChain }

/-- The profile as the old build finds it. -/
def oldProfile : MigrationStartupInspection := StartGates.migratedProfile migrationChain

/-- An installation in which the old build is accepted. -/
def oldInstallation (journal : Option UpdateJournal) : InstallationRecords :=
  ⟨journal, some (accepted oldRelease), none,
    StartGates.waitingPackages oldRelease id SampleUpdate.awaitingFirstStart⟩

/-- A recovery point that fails. -/
def failingPoint : List HandoffFate := List.replicate 8 default ++ [⟨none, .fails, false⟩]

/-- What a preparation leaves behind that was aborted for it. -/
def abortedJournal : UpdateJournal :=
  ⟨{ fields .failed 0 0 with recoveryPointReference := none, revision := 2 }, by decide, by decide⟩

/-- What a handoff leaves behind. -/
def handedOffJournal : UpdateJournal :=
  ⟨{ fields .awaitingFirstStart 1 0 with revision := 4 }, by decide, by decide⟩

theorem aborted_journal :
    (prepareConfirmedUpdate sampleEnvironment (newCoordinator none) failingPoint).1 ≠ .stopped ∧
      (afterPreparation (newCoordinator none) failingPoint).journal = some abortedJournal := by
  decide +kernel

theorem handedOff_journal : handedOff.journal = some handedOffJournal := by
  decide +kernel

/-- The first start of the old build, after an installer that has not done anything. -/
def firstStart : Outcome StartError Unit × InstallationRecords × List Fate :=
  start oldStart oldProfile (oldInstallation (some handedOffJournal)) []

theorem firstStart_journal :
    firstStart.2.1.journal.map (fun journal => journal.state) = some .installerNotApplied ∧
      (start oldStart oldProfile firstStart.2.1 []).1 = .threw .firstStart := by
  decide +kernel

theorem aborted_start :
    (start oldStart oldProfile (oldInstallation (some abortedJournal)) []).1 = .threw .firstStart ∧
      (start oldStart oldProfile (oldInstallation (some abortedJournal)) []).2.1.journal.map
        (fun journal => journal.state) = some .failedSafe := by
  decide +kernel

/-- After a preparation that was aborted, and after an installer that was not applied, the
    old build does not start any more; and the first of the two journals is moved to
    `failedSafe`. -/
theorem old_build_is_locked_out :
    (updateSystem.Reachable (oldInstallation (some abortedJournal)) ∧ Ended abortedJournal ∧
      (start oldStart oldProfile (oldInstallation (some abortedJournal)) []).1 =
        .threw .firstStart ∧
      (start oldStart oldProfile (oldInstallation (some abortedJournal)) []).2.1.journal.map
        (fun journal => journal.state) = some .failedSafe) ∧
    (updateSystem.Reachable firstStart.2.1 ∧
      firstStart.2.1.journal.map (fun journal => journal.state) = some .installerNotApplied ∧
      (start oldStart oldProfile firstStart.2.1 []).1 = .threw .firstStart) := by
  have haborted : handoffSystem.Reachable (afterPreparation (newCoordinator none) failingPoint) :=
    reachable_afterPreparation (reachable_newCoordinator none) aborted_journal.1
  refine ⟨⟨.initial ⟨_, _, haborted, .inl rfl, aborted_journal.2.symm⟩, ?_, aborted_start⟩, ?_,
    firstStart_journal⟩
  · exact .inr (.inr ⟨rfl, rfl⟩)
  · exact .step (.initial ⟨_, _, reachable_handedOff, .inl rfl, handedOff_journal.symm⟩)
      ⟨_, _, _, [], rfl, rfl⟩

theorem finished_update_blocks_after_abortion :
    Ended abortedJournal ∧
      (start oldStart oldProfile (oldInstallation (some abortedJournal)) []).1 ≠ .returned () :=
  have hended : Ended abortedJournal := .inr (.inr ⟨rfl, rfl⟩)
  ⟨hended, finished_update_blocks rfl hended _ _ _⟩

end FinishedUpdate
