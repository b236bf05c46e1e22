import Eky.Rollback
import Eky.TransitionSystem

/-! # The runs of a rollback

    Both coordinators, in any order, in any number of processes, each operation up to
    its end or to a crash.  What is stored says how far the rollback has come, and the
    log never says less: `Inv`.  It survives every call, so that an operation may fail
    or stop wherever it likes. -/

namespace Rollback

open Program PreWorkspaceBuildAdmission
open FirstStartUpdateCoordinator (MigrationStartupInspection)

/-! ## Safe logs -/

/-- The event is a launch. -/
def IsLaunch : RollbackEvent → Bool
  | .launched _ _ => true
  | _ => false

/-- Nothing was launched so far. -/
def NoLaunch (log : List RollbackEvent) : Prop := ∀ event ∈ log, IsLaunch event = false

/-- The restored profile of the update was found healthy, and thereupon a journal of it
    stored that says so. -/
def Validated (log : List RollbackEvent) (journal : UpdateJournal) : Prop :=
  ∃ later earlier completed chain,
    log = later ++ .wrote completed :: .validated true chain :: earlier ∧
      completed.state = .businessRollbackCompleted ∧
      completed.correlationId = journal.correlationId ∧
      completed.preUpdateMigrationChainIdentity = some chain ∧
      journal.preUpdateMigrationChainIdentity = some chain

/-- A launch, after what the log says of the time before it. -/
def LaunchSafe (running : BuildVersion) (stored : Option UpdateJournal)
    (earlier : List RollbackEvent) : Prop :=
  NoLaunch earlier ∧ ∃ journal, stored = some journal ∧
    journal.state = .awaitingRollbackFirstStart ∧ journal.binaryRollbackAttemptCount = 1 ∧
    running = journalTarget journal ∧ Validated earlier journal

/-- Every launch of the log is safe. -/
def SafeLog : List RollbackEvent → Prop
  | [] => True
  | .launched running stored :: earlier => LaunchSafe running stored earlier ∧ SafeLog earlier
  | _ :: earlier => SafeLog earlier

theorem SafeLog.launches {log later earlier : List RollbackEvent} {running : BuildVersion}
    {stored : Option UpdateJournal} (h : SafeLog log)
    (hlog : log = later ++ .launched running stored :: earlier) :
    LaunchSafe running stored earlier := by
  subst hlog
  induction later with
  | nil => exact h.1
  | cons event later ih =>
      cases event with
      | validated healthy chain => exact ih h
      | wrote journal => exact ih h
      | launched other otherStored => exact ih h.2

theorem countP_of_noLaunch {log : List RollbackEvent} (h : NoLaunch log) :
    log.countP IsLaunch = 0 := by
  rw [List.countP_eq_zero]
  intro event hevent
  rw [h event hevent]
  exact Bool.false_ne_true

theorem SafeLog.once {log : List RollbackEvent} (h : SafeLog log) : log.countP IsLaunch ≤ 1 := by
  induction log with
  | nil => exact Nat.zero_le 1
  | cons event log ih =>
      cases event with
      | validated healthy chain =>
          rw [List.countP_cons_of_neg (by simp [IsLaunch])]
          exact ih h
      | wrote journal =>
          rw [List.countP_cons_of_neg (by simp [IsLaunch])]
          exact ih h
      | launched running stored =>
          refine Nat.le_of_eq ?_
          rw [List.countP_cons_of_pos rfl, countP_of_noLaunch h.1.1]

/-! ## The stored journal -/

/-- The states that come after the restoration, as long as all is well. -/
def afterCompletion : List UpdateJournalState :=
  [.businessRollbackCompleted, .rollbackPackageRequired, .binaryRollbackPrepared,
    .awaitingRollbackFirstStart]

/-- The states that a journal may be in after the launch. -/
def afterLaunch : List UpdateJournalState :=
  [.awaitingRollbackFirstStart, .failedSafe, .recoveryRequired]

/-- What a stored journal says of the log. -/
def Tells (log : List RollbackEvent) (journal : UpdateJournal) : Prop :=
  (journal.state ∈ afterCompletion → Validated log journal) ∧
    (journal.state ∉ afterLaunch → NoLaunch log)

/-- **INVARIANT**: the launches were safe, and the stored journal tells the truth. -/
structure Inv (world : RollbackWorld) : Prop where
  safe : SafeLog world.log
  stored : ∃ journal, world.journal = some journal ∧ Tells world.log journal

variable {α β : Type} {world : RollbackWorld} {journal next : UpdateJournal}
  {log : List RollbackEvent} {event : RollbackEvent} {environment : RollbackEnvironment}
  {Q : α → RollbackWorld → Prop} {R : Unit → RollbackWorld → Prop} {m : RollbackProgram α}

theorem Validated.cons (h : Validated log journal) : Validated (event :: log) journal := by
  obtain ⟨later, earlier, completed, chain, rfl, h⟩ := h
  exact ⟨event :: later, earlier, completed, chain, rfl, h⟩

variable {selected : Option UpdateJournal} {input : JournalTransition}

/-- It is about the update, and not about one of its journals. -/
theorem Validated.transition (h : Validated log journal)
    (htransition : transitionUpdateJournal journal input = .ok next) : Validated log next := by
  obtain ⟨later, earlier, completed, chain, rfl, hstate, hid, hchain, hjournal⟩ := h
  refine ⟨later, earlier, completed, chain, rfl, hstate, ?_, hchain, ?_⟩
  · rw [transition_correlationId htransition]
    exact hid
  · rw [(transitionUpdateJournal_ok htransition).2]
    exact hjournal

theorem NoLaunch.cons (h : NoLaunch log) (hevent : IsLaunch event = false) :
    NoLaunch (event :: log) := by
  intro other hother
  rcases List.mem_cons.mp hother with rfl | hother
  · exact hevent
  · exact h other hother

/-- A journal that is stored has to tell the truth. -/
theorem Inv.wrote (h : Inv world) (hnext : Tells (.wrote next :: world.log) next) :
    Inv (world.wrote next) :=
  ⟨h.safe, next, rfl, hnext⟩

/-- In two states it has nothing to tell. -/
theorem Inv.wrote_over (h : Inv world)
    (hstate : next.state = .failedSafe ∨ next.state = .recoveryRequired) :
    Inv (world.wrote next) := by
  have hover : next.state ∉ afterCompletion ∧ next.state ∈ afterLaunch := by
    rcases hstate with hstate | hstate <;> rw [hstate] <;> decide
  exact h.wrote ⟨fun hafter => absurd hafter hover.1, fun hafter => absurd hover.2 hafter⟩

/-! ## Rules -/

/-- `m` keeps the invariant, whatever happens, and returns to `Q`. -/
def Keeps (m : RollbackProgram α) (Q : α → RollbackWorld → Prop) (world : RollbackWorld) : Prop :=
  wp AnyFate m ⟨Q, fun _ => Inv, Inv⟩ world

theorem keeps_ofExcept {r : Except RollbackError α} (hinv : Inv world)
    (h : ∀ a, r = .ok a → Q a world) : Keeps (Program.ofExcept r) Q world :=
  wp_ofExcept h fun _ _ => hinv

theorem keeps_check {c : Prop} [Decidable c] {e : RollbackError} (hinv : Inv world)
    (h : ¬ c → Keeps m Q world) :
    Keeps (do
      if c then throw e
      m) Q world :=
  wp_check (fun _ => hinv) h

theorem keeps_answer {a : α} (hinv : Inv world) (h : Q a world) : Keeps (answer a) Q world :=
  wp_attempt trivial hinv fun _ _ hanswer => by
    cases hanswer
    exact ⟨hinv, h⟩

theorem keeps_transition {Q : UpdateJournal → RollbackWorld → Prop} (hinv : Inv world)
    (h : ∀ next, transitionUpdateJournal journal input = .ok next → Q next world) :
    Keeps (Rollback.transition journal input) Q world :=
  keeps_ofExcept hinv fun next hnext => h next (ok_of_mapError hnext)

theorem keeps_readJournal {Q : Option UpdateJournal → RollbackWorld → Prop} (hinv : Inv world)
    (h : Q world.journal world) : Keeps readJournal Q world :=
  wp_attempt trivial hinv fun _ _ hread => by
    cases hread
    exact ⟨hinv, h⟩

theorem keeps_writeJournal (hinv : Inv world) (hnext : Inv (world.wrote next))
    (h : R () (world.wrote next)) : Keeps (writeJournal selected next) R world := by
  refine wp_attempt trivial hinv fun _ _ hwrite => ?_
  split at hwrite
  · cases hwrite
  · cases hwrite
    exact ⟨hnext, h⟩

theorem keeps_assertAuthority {authorized : Bool} (hinv : Inv world) (h : R () world) :
    Keeps (assertAuthority authorized) R world := by
  rw [assertAuthority]
  split
  · exact wp_attemptNothing trivial hinv h
  · exact wp_pure h

/-- What is selected is what is stored. -/
theorem keeps_assertSelection {authorized : Bool} (hinv : Inv world)
    (h : world.journal = selected → R () world) :
    Keeps (assertSelection authorized selected) R world := by
  refine wp_bind (keeps_assertAuthority hinv (wp_bind (keeps_readJournal hinv (wp_bind
    (keeps_assertAuthority hinv ?_)))))
  show Keeps (if world.journal ≠ selected then throw _ else pure ()) R world
  split
  · exact wp_throw hinv
  · rename_i hselected
    exact wp_pure (h (not_not.mp hselected))

/-- An error that is left aside. -/
theorem keeps_ignoreError {m : RollbackProgram Unit} (h : Keeps m (fun _ => Inv) world) :
    Keeps (ignoreError m) (fun _ => Inv) world :=
  wp_ignoreError h

/-- The handlers write a journal that has nothing to tell, and throw. -/
theorem keeps_handled {handler : RollbackProgram Unit} {e : RollbackError}
    (h : Keeps m Q world) (hhandler : ∀ t, Inv t → Keeps handler (fun _ => Inv) t) :
    Keeps (tryCatch m fun _ => handler >>= fun _ => throw e) Q world :=
  wp_tryCatch (h.mono (fun _ _ ht => ht)
    (fun _ t ht => wp_bind ((hhandler t ht).mono (fun _ _ hu => wp_throw hu) (fun _ _ hu => hu)
      fun _ hu => hu)) fun _ ht => ht)

/-- The store's journal, and what it tells. -/
theorem Inv.tells (h : Inv world) (hjournal : world.journal = some journal) :
    Tells world.log journal := by
  obtain ⟨stored, hstored, htells⟩ := h.stored
  rw [hjournal] at hstored
  cases hstored
  exact htells

/-- A transition to a state in which the journal has nothing to tell, selected or not. -/
theorem keeps_over (hinv : Inv world)
    (hstate : input.state = .failedSafe ∨ input.state = .recoveryRequired) : Keeps (do
      let marked ← Rollback.transition journal input
      writeJournal selected marked) (fun _ => Inv) world := by
  refine wp_bind (keeps_transition hinv fun marked hmarked => ?_)
  have hover : Inv (world.wrote marked) := by
    refine hinv.wrote_over ?_
    rwa [transition_state hmarked]
  exact keeps_writeJournal hinv hover hover

/-- From the completion of the restoration to the launch, and back to it when the package
    is missing, every journal that is stored tells the truth. -/
theorem Inv.wrote_transition (hinv : Inv world) (hjournal : world.journal = some journal)
    (hstate : journal.state = .businessRollbackCompleted ∨ journal.state = .rollbackPackageRequired)
    (htransition : transitionUpdateJournal journal input = .ok next) : Inv (world.wrote next) := by
  obtain ⟨hafter, hbefore⟩ := hinv.tells hjournal
  have hvalidated : Validated world.log journal :=
    hafter (by rcases hstate with hstate | hstate <;> rw [hstate] <;> decide)
  have hnone : NoLaunch world.log :=
    hbefore (by rcases hstate with hstate | hstate <;> rw [hstate] <;> decide)
  exact hinv.wrote ⟨fun _ => (hvalidated.transition htransition).cons, fun _ => hnone.cons rfl⟩

/-! ## The profile -/

namespace Business

open UpdateBusinessRollbackCoordinator

variable {authorized : Bool} {inspection : MigrationStartupInspection}

theorem keeps_failSafe (hinv : Inv world) :
    Keeps (failSafe environment authorized journal) (fun _ => Inv) world := by
  rw [failSafe]
  split
  · exact wp_pure hinv
  · exact wp_bind (keeps_assertSelection hinv fun _ => keeps_over hinv (.inl rfl))

theorem keeps_requireRecovery (hinv : Inv world) :
    Keeps (UpdateBusinessRollbackCoordinator.requireRecovery environment authorized journal)
      (fun _ => Inv) world := by
  rw [UpdateBusinessRollbackCoordinator.requireRecovery]
  split
  · exact wp_pure hinv
  · exact wp_bind (keeps_assertSelection hinv fun _ => keeps_over hinv (.inr rfl))

theorem keeps_failingWith {mark : RollbackProgram Unit} (h : Keeps m Q world)
    (hmark : ∀ t, Inv t → Keeps mark (fun _ => Inv) t) : Keeps (failingWith mark m) Q world :=
  keeps_handled h fun t ht => keeps_ignoreError (hmark t ht)

/-- A rollback that starts has launched nothing yet. -/
theorem keeps_beginRollback {Q : UpdateJournal → RollbackWorld → Prop} (hinv : Inv world)
    (hjournal : world.journal = some journal)
    (hstate : journal.state = .rollbackRequired ∨ journal.state = .businessRollbackStarting)
    (h : ∀ starting t, Inv t → Q starting t) :
    Keeps (beginRollback environment journal) Q world := by
  rw [beginRollback]
  split
  · exact wp_pure (h _ _ hinv)
  · refine wp_bind (keeps_transition hinv fun starting hstarting => ?_)
    have hbefore : NoLaunch world.log :=
      (hinv.tells hjournal).2 (by rcases hstate with hstate | hstate <;> rw [hstate] <;> decide)
    have hstarting : starting.state = .businessRollbackStarting := transition_state hstarting
    have hwrote : Inv (world.wrote starting) := by
      refine hinv.wrote ⟨fun hafter => ?_, fun _ => hbefore.cons rfl⟩
      rw [hstarting] at hafter
      exact absurd hafter (by decide)
    exact wp_bind (keeps_writeJournal hinv hwrote (wp_pure (h _ _ hwrote)))

theorem keeps_readSelection {input : Option (Option UpdateJournal)}
    {Q : Option UpdateJournal → RollbackWorld → Prop} (hinv : Inv world)
    (h : ∀ selected, Q selected world) : Keeps (readSelection input) Q world := by
  cases input with
  | none => exact keeps_readJournal hinv (h _)
  | some selected => exact wp_pure (h _)

theorem keeps_startIfRequired {requested : Option MigrationStartupInspection}
    {input : Option (Option UpdateJournal)} (hinv : Inv world) :
    Keeps (startIfRequired environment requested input) (fun _ => Inv) world := by
  refine wp_bind (keeps_readSelection hinv fun selected => ?_)
  refine wp_bind (keeps_assertSelection hinv fun hjournal => ?_)
  cases selected with
  | none => exact wp_pure hinv
  | some journal =>
      show Keeps (if journal.state ≠ .rollbackRequired ∧ journal.state ≠ .businessRollbackStarting
        then _ else _) _ _
      split
      · exact wp_pure hinv
      · rename_i hstate
        rw [not_and_or, not_ne_iff, not_ne_iff] at hstate
        refine wp_bind (keeps_ofExcept hinv fun _ _ => ?_)
        show Keeps (if _ then _ else _) _ _
        split
        · exact wp_bind ((keeps_failSafe hinv).mono (fun _ _ ht => wp_bind (wp_throw ht))
            (fun _ _ ht => ht) fun _ ht => ht)
        · refine wp_bind (keeps_beginRollback hinv hjournal hstate fun starting t ht => ?_)
          refine wp_bind (keeps_assertSelection ht fun _ => ?_)
          show Keeps (if _ then _ else _) _ _
          split
          · exact wp_pure ht
          · refine keeps_failingWith ?_ fun u hu => keeps_failSafe hu
            refine wp_bind (wp_bind (keeps_assertSelection ht fun _ => keeps_answer ht ?_))
            exact wp_bind (keeps_assertSelection ht fun _ => wp_pure ht)

theorem keeps_validateActiveProfile {Q : ActiveProfileValidation → RollbackWorld → Prop}
    (hinv : Inv world) (hjournal : world.journal = some journal)
    (h : ∀ t : RollbackWorld, Inv t → t.journal = some journal →
      t.log = .validated environment.validation.healthy
        environment.validation.migrationChainIdentity :: world.log → Q environment.validation t) :
    Keeps (validateActiveProfile environment authorized journal) Q world := by
  obtain ⟨hafter, hlaunch⟩ := hinv.tells hjournal
  refine wp_bind (keeps_assertSelection hinv fun _ => wp_bind (keeps_answer hinv ?_))
  refine wp_bind (wp_modify (wp_pure (h _ ?_ hjournal rfl)))
  exact ⟨hinv.safe, journal, hjournal, fun hstate => (hafter hstate).cons,
    fun hstate => (hlaunch hstate).cons rfl⟩

/-- The journal that says so is stored right after the validation. -/
theorem keeps_completeRollback (hinv : Inv world) :
    Keeps (completeRollback environment authorized inspection journal) (fun _ => Inv) world := by
  refine wp_bind (keeps_assertSelection hinv fun hjournal => keeps_check hinv fun _ => ?_)
  refine wp_bind (keeps_validateActiveProfile hinv hjournal fun t ht hstored hlog => ?_)
  refine wp_bind (keeps_assertSelection ht fun _ => keeps_check ht fun hvalidation => ?_)
  simp only [not_or, Bool.not_eq_true', Bool.not_eq_false, not_not] at hvalidation
  obtain ⟨hhealthy, hchain⟩ := hvalidation
  show Keeps (if journal.state = .businessRollbackStarting then _ else _) _ _
  split
  · rename_i hstate
    refine wp_bind (keeps_transition ht fun completed hcompleted => ?_)
    have hbefore : NoLaunch t.log := (ht.tells hstored).2 (by rw [hstate]; decide)
    have hwrote : Inv (t.wrote completed) := by
      refine ht.wrote ⟨fun _ => ?_, fun _ => hbefore.cons rfl⟩
      have hidentity : completed.preUpdateMigrationChainIdentity =
          some environment.validation.migrationChainIdentity := by
        rw [(transitionUpdateJournal_ok hcompleted).2]
        exact hchain.symm
      rw [hlog, hhealthy]
      exact ⟨[], _, completed, _, rfl, transition_state hcompleted, rfl, hidentity, hidentity⟩
    exact wp_bind (keeps_writeJournal ht hwrote (keeps_assertAuthority hwrote hwrote))
  · exact keeps_assertAuthority ht ht

theorem keeps_selectedOrStored (hinv : Inv world) :
    Keeps (selectedOrStored selected) (fun _ => Inv) world := by
  cases selected with
  | none => exact keeps_readJournal hinv hinv
  | some journal => exact wp_pure hinv

theorem keeps_completeAfterProfileValidation (hinv : Inv world) :
    Keeps (completeAfterProfileValidation environment inspection selected authorized)
      (fun _ => Inv) world := by
  refine wp_bind ((keeps_selectedOrStored hinv).mono ?_ (fun _ _ ht => ht) fun _ ht => ht)
  intro read t ht
  cases read with
  | none => exact wp_throw ht
  | some journal =>
      refine keeps_check ht fun _ => wp_bind (keeps_ofExcept ht fun _ _ => ?_)
      exact keeps_failingWith (keeps_completeRollback ht) fun u hu => keeps_requireRecovery hu

theorem keeps_requireRecoveryAfterRestoreRollback (hinv : Inv world) :
    Keeps (requireRecoveryAfterRestoreRollback environment selected authorized) (fun _ => Inv)
      world := by
  refine wp_bind ((keeps_selectedOrStored hinv).mono ?_ (fun _ _ ht => ht) fun _ ht => ht)
  intro read t ht
  cases read with
  | none => exact wp_throw ht
  | some journal =>
      refine keeps_check ht fun _ => wp_bind (keeps_ofExcept ht fun _ _ => ?_)
      exact wp_bind ((keeps_ignoreError (keeps_requireRecovery ht)).mono (fun _ _ hu => wp_throw hu)
        (fun _ _ hu => hu) fun _ hu => hu)

end Business

/-! ## The installer -/

namespace Binary

open UpdateBinaryRollbackCoordinator

theorem keeps_mark {state : UpdateJournalState} (hinv : Inv world)
    (hstate : state = .failedSafe ∨ state = .recoveryRequired) :
    Keeps (mark environment journal state) (fun _ => Inv) world := by
  refine wp_bind (keeps_transition hinv fun marked hmarked => keeps_ignoreError ?_)
  have hover : Inv (world.wrote marked) := by
    refine hinv.wrote_over ?_
    rwa [transition_state hmarked]
  exact keeps_writeJournal hinv hover hover

theorem keeps_failingSafe (h : Keeps m Q world) : Keeps (failingSafe environment journal m) Q world := by
  refine keeps_handled h fun t ht => ?_
  rw [UpdateBinaryRollbackCoordinator.failSafe]
  split
  · exact wp_pure ht
  · exact keeps_mark ht (.inl rfl)

theorem classifyRunningBuild_target
    (h : classifyRunningBuild environment journal = .ok .target) :
    journalTarget journal = environment.releaseInfo.toBuildVersion := by
  rw [classifyRunningBuild] at h
  split at h
  · cases h
  · split at h
    · assumption
    · split at h <;> cases h

theorem keeps_assertRunningFailedTarget (hinv : Inv world)
    (h : journalTarget journal = environment.releaseInfo.toBuildVersion → R () world) :
    Keeps (assertRunningFailedTarget environment journal) R world := by
  refine wp_bind (keeps_ofExcept hinv fun running hrunning => ?_)
  cases running with
  | current => exact wp_throw hinv
  | target => exact wp_pure (h (classifyRunningBuild_target hrunning))

theorem transition_target (h : transitionUpdateJournal journal input = .ok next) :
    journalTarget next = journalTarget journal := by
  rw [journalTarget, (transitionUpdateJournal_ok h).2]
  rfl

/-- The launch is the first one, and its journal is stored. -/
theorem keeps_launchInstaller (hinv : Inv world) (hjournal : world.journal = some journal)
    (hbefore : NoLaunch world.log) (hstate : journal.state = .awaitingRollbackFirstStart)
    (hcount : journal.binaryRollbackAttemptCount = 1)
    (hrunning : journalTarget journal = environment.releaseInfo.toBuildVersion) :
    Keeps (launchInstaller environment) (fun _ => Inv) world := by
  have hvalidated : Validated world.log journal :=
    (hinv.tells hjournal).1 (by rw [hstate]; decide)
  have hlaunched : Inv (world.logged
      (.launched environment.releaseInfo.toBuildVersion world.journal)) := by
    refine ⟨⟨⟨hbefore, journal, hjournal, hstate, hcount, hrunning.symm, hvalidated⟩, hinv.safe⟩,
      journal, hjournal, fun _ => hvalidated.cons, fun hafter => ?_⟩
    rw [hstate] at hafter
    exact absurd hafter (by decide)
  exact wp_bind (wp_modify (keeps_answer hlaunched hlaunched))

theorem keeps_launchRollback (hinv : Inv world) (hjournal : world.journal = some journal)
    (hstate : journal.state = .businessRollbackCompleted)
    (hrunning : journalTarget journal = environment.releaseInfo.toBuildVersion) :
    Keeps (launchRollback environment journal) (fun _ => Inv) world := by
  obtain ⟨hafter, hbefore⟩ := hinv.tells hjournal
  have hvalidated : Validated world.log journal := hafter (by rw [hstate]; decide)
  have hnone : NoLaunch world.log := hbefore (by rw [hstate]; decide)
  refine wp_bind (keeps_failingSafe (wp_bind (keeps_answer hinv (wp_bind (keeps_answer hinv
    (keeps_transition hinv fun prepared hprepared => ?_))))))
  have hpreparedInv : Inv (world.wrote prepared) :=
    hinv.wrote_transition hjournal (.inl hstate) hprepared
  refine wp_bind (keeps_failingSafe (wp_bind (keeps_writeJournal hinv hpreparedInv
    (keeps_transition hpreparedInv fun awaiting hawaiting => ?_))))
  have hawaitingInv : Inv ((world.wrote prepared).wrote awaiting) :=
    hpreparedInv.wrote ⟨fun _ => ((hvalidated.transition hprepared).transition hawaiting).cons.cons,
      fun _ => (hnone.cons rfl).cons rfl⟩
  have hcount : awaiting.binaryRollbackAttemptCount = 1 := by
    rw [(transitionUpdateJournal_ok hawaiting).2]
    show prepared.binaryRollbackAttemptCount = 1
    rw [(transitionUpdateJournal_ok hprepared).2]
    rfl
  refine wp_bind (keeps_failingSafe (wp_bind (keeps_writeJournal hpreparedInv hawaitingInv ?_)))
  refine (keeps_launchInstaller hawaitingInv rfl ((hnone.cons rfl).cons rfl)
    (transition_state hawaiting) hcount ?_).mono (fun _ _ ht => wp_pure ht) (fun _ _ ht => ht)
    fun _ ht => ht
  rw [transition_target hawaiting, transition_target hprepared, hrunning]

theorem keeps_startIfRequired (hinv : Inv world) :
    Keeps (startIfRequired environment) (fun _ => Inv) world := by
  refine wp_bind (keeps_readJournal hinv ?_)
  cases hjournal : world.journal with
  | none => exact wp_pure hinv
  | some journal =>
      show Keeps (if _ then _ else (if _ then _ else _)) _ _
      split
      · refine wp_bind (keeps_ofExcept hinv fun running _ => ?_)
        split
        · exact wp_pure hinv
        · exact wp_bind ((keeps_mark hinv (.inr rfl)).mono (fun _ _ ht => wp_throw ht)
            (fun _ _ ht => ht) fun _ ht => ht)
      · split
        · exact wp_pure hinv
        · rename_i hstate
          rw [not_ne_iff] at hstate
          refine wp_bind (keeps_assertRunningFailedTarget hinv fun hrunning => ?_)
          refine wp_bind (keeps_answer hinv ?_)
          show Keeps (if _ then _ else _) _ _
          split
          · refine wp_bind (keeps_transition hinv fun required hrequired => ?_)
            have hwrote := hinv.wrote_transition hjournal (.inl hstate) hrequired
            exact wp_bind (keeps_writeJournal hinv hwrote (wp_bind (wp_throw hwrote)))
          · exact keeps_launchRollback hinv hjournal hstate hrunning

theorem keeps_registerAndStartManualRollback (hinv : Inv world) :
    Keeps (registerAndStartManualRollback environment) (fun _ => Inv) world := by
  refine wp_bind (keeps_readJournal hinv ?_)
  cases hjournal : world.journal with
  | none => exact wp_throw hinv
  | some journal =>
      refine keeps_check hinv fun hstate => ?_
      rw [not_ne_iff] at hstate
      refine wp_bind (keeps_assertRunningFailedTarget hinv fun _ => ?_)
      refine wp_bind (keeps_answer hinv (wp_bind (keeps_transition hinv fun registered hregistered => ?_)))
      have hwrote := hinv.wrote_transition hjournal (.inr hstate) hregistered
      refine wp_bind (keeps_writeJournal hinv hwrote ?_)
      refine wp_bind ((keeps_startIfRequired hwrote).mono (fun result t ht => ?_) (fun _ _ ht => ht)
        fun _ ht => ht)
      cases result with
      | launched => exact wp_pure ht
      | notRequired => exact wp_throw ht

end Binary

/-! ## Runs -/

/-- One operation of one of the coordinators, in whatever build and whatever becomes of
    it. -/
inductive Operation
  | businessStartIfRequired (inspection : Option MigrationStartupInspection)
      (input : Option (Option UpdateJournal))
  | completeAfterProfileValidation (inspection : MigrationStartupInspection)
      (selectedJournal : Option UpdateJournal) (authorized : Bool)
  | requireRecoveryAfterRestoreRollback (selectedJournal : Option UpdateJournal)
      (authorized : Bool)
  | binaryStartIfRequired
  | registerAndStartManualRollback

/-- Some run of the operation leads from `world` to `t`. -/
def Operation.Leads (operation : Operation) (environment : RollbackEnvironment)
    (world t : RollbackWorld) : Prop :=
  match operation with
  | .businessStartIfRequired inspection input =>
    ∃ outcome, Ends (UpdateBusinessRollbackCoordinator.startIfRequired environment inspection input)
      world outcome t
  | .completeAfterProfileValidation inspection selectedJournal authorized =>
    ∃ outcome, Ends (UpdateBusinessRollbackCoordinator.completeAfterProfileValidation environment
      inspection selectedJournal authorized) world outcome t
  | .requireRecoveryAfterRestoreRollback selectedJournal authorized =>
    ∃ outcome, Ends (UpdateBusinessRollbackCoordinator.requireRecoveryAfterRestoreRollback
      environment selectedJournal authorized) world outcome t
  | .binaryStartIfRequired =>
    ∃ outcome, Ends (UpdateBinaryRollbackCoordinator.startIfRequired environment) world outcome t
  | .registerAndStartManualRollback =>
    ∃ outcome, Ends (UpdateBinaryRollbackCoordinator.registerAndStartManualRollback environment)
      world outcome t

/-- A rollback that is required or was started, and then operations one after the other,
    each of them up to its end or to a crash. -/
def rollbackSystem : TransitionSystem RollbackWorld where
  initial world := world.log = [] ∧ ∃ journal, world.journal = some journal ∧
    (journal.state = .rollbackRequired ∨ journal.state = .businessRollbackStarting)
  step world t :=
    ∃ (operation : Operation) (environment : RollbackEnvironment), operation.Leads environment world t

theorem inv_of_ends {outcome : Outcome RollbackError α} {t : RollbackWorld}
    (h : Keeps m (fun _ => Inv) world) (hends : Ends m world outcome t) : Inv t := by
  have hpost := wp.ends h hends
  cases outcome with
  | returned a => exact hpost
  | threw e => exact hpost
  | stopped => exact hpost

/-- Every operation keeps the invariant. -/
theorem inv_of_leads {operation : Operation} {t : RollbackWorld} (hinv : Inv world)
    (h : operation.Leads environment world t) : Inv t := by
  cases operation with
  | businessStartIfRequired inspection input =>
      obtain ⟨outcome, hends⟩ := h
      exact inv_of_ends (Business.keeps_startIfRequired hinv) hends
  | completeAfterProfileValidation inspection selectedJournal authorized =>
      obtain ⟨outcome, hends⟩ := h
      exact inv_of_ends (Business.keeps_completeAfterProfileValidation hinv) hends
  | requireRecoveryAfterRestoreRollback selectedJournal authorized =>
      obtain ⟨outcome, hends⟩ := h
      exact inv_of_ends (Business.keeps_requireRecoveryAfterRestoreRollback hinv) hends
  | binaryStartIfRequired =>
      obtain ⟨outcome, hends⟩ := h
      exact inv_of_ends (Binary.keeps_startIfRequired hinv) hends
  | registerAndStartManualRollback =>
      obtain ⟨outcome, hends⟩ := h
      exact inv_of_ends (Binary.keeps_registerAndStartManualRollback hinv) hends

theorem inv_of_reachable (h : rollbackSystem.Reachable world) : Inv world := by
  refine h.invariant ?_ ?_
  · rintro ⟨stored, log⟩ ⟨rfl, journal, rfl, hstate⟩
    refine ⟨trivial, journal, rfl, fun hafter => ?_, fun _ event hevent => ?_⟩
    · rcases hstate with hstate | hstate <;> rw [hstate] at hafter <;>
        exact absurd hafter (by decide)
    · exact absurd hevent List.not_mem_nil
  · rintro world t - hinv ⟨operation, environment, hleads⟩
    exact inv_of_leads hinv hleads

/-- **ONE LAUNCH**: in every run the old installer is launched at most once, by the build
    that the update led to, while the store holds a journal that waits for the start of
    the old build, and after the profile was found to be the one of before the update. -/
theorem rollback_launches_once (h : rollbackSystem.Reachable world) :
    world.log.countP IsLaunch ≤ 1 ∧
      ∀ later running stored earlier, world.log = later ++ .launched running stored :: earlier →
        LaunchSafe running stored earlier :=
  have hsafe := (inv_of_reachable h).safe
  ⟨hsafe.once, fun _ _ _ _ hlog => hsafe.launches hlog⟩

/-! ## A run with a launch -/

open SampleUpdate

/-- A journal that asks for a rollback. -/
def requiredRollback : UpdateJournal := ⟨fields .rollbackRequired 1 0, by decide, by decide⟩

/-- The new build, with its package. -/
def sampleEnvironment : RollbackEnvironment :=
  ⟨newRelease, fun _ => 0, ⟨true, migrationChain⟩, true⟩

/-- The profile of the old build. -/
def restoredProfile : MigrationStartupInspection := ⟨1, migrationChain, 0, .existing⟩

/-- The world after the start of the rollback. -/
def started : RollbackWorld :=
  (UpdateBusinessRollbackCoordinator.startIfRequired sampleEnvironment (some restoredProfile) none
    ⟨some requiredRollback, []⟩ []).2.1

/-- The world after its end. -/
def completed : RollbackWorld :=
  (UpdateBusinessRollbackCoordinator.completeAfterProfileValidation sampleEnvironment
    restoredProfile none false started []).2.1

/-- The world after the launch. -/
def launchedRollback : RollbackWorld :=
  (UpdateBinaryRollbackCoordinator.startIfRequired sampleEnvironment completed []).2.1

theorem launches_once_of_sample :
    rollbackSystem.Reachable launchedRollback ∧ launchedRollback.log.countP IsLaunch = 1 ∧
      launchedRollback.log.countP IsLaunch ≤ 1 := by
  have hstarted : rollbackSystem.Reachable started :=
    .step (.initial ⟨rfl, requiredRollback, rfl, .inl rfl⟩)
      ⟨.businessStartIfRequired (some restoredProfile) none, sampleEnvironment, _, [], rfl, rfl⟩
  have hcompleted : rollbackSystem.Reachable completed :=
    .step hstarted
      ⟨.completeAfterProfileValidation restoredProfile none false, sampleEnvironment, _, [], rfl, rfl⟩
  have hlaunched : rollbackSystem.Reachable launchedRollback :=
    .step hcompleted ⟨.binaryStartIfRequired, sampleEnvironment, _, [], rfl, rfl⟩
  exact ⟨hlaunched, by decide +kernel, (rollback_launches_once hlaunched).1⟩

end Rollback
