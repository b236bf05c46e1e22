import Eky.EmptyWorkspaceCreationProofs
import Eky.TransitionSystem

/-! # Creating an empty workspace — whole histories

    A creation that anything may go wrong with, and the recoveries that follow it, any
    number of them and each with anything going wrong; and what one more recovery makes
    of what they leave. -/

namespace EmptyWorkspaceCreation

open Program Fallible CreationWorld WorkspaceRegistry TransitionSystem

variable {start s t : CreationWorld} {call : CreationCall} {state : CreationJournalState}
  {operation : Option OperationDirectory} {root : WorkspaceDirectory}

/-- Anything may go wrong. -/
abbrev Keeps {α : Type} (start : CreationWorld) (call : CreationCall) (m : CreationProgram α)
    (Q : α → CreationWorld → Prop) (s : CreationWorld) : Prop :=
  wp (Fate.Disturbed True) m (careful True True (Creating start call) Q) s

variable {α : Type} {Q : α → CreationWorld → Prop}

theorem Keeps.mono {m : CreationProgram α} {R : α → CreationWorld → Prop}
    (h : Keeps start call m Q s) (hQ : ∀ a t, Q a t → R a t) : Keeps start call m R s :=
  wp.mono h hQ (fun _ _ ht => ht) fun _ ht => ht

theorem keeps_throw {e : CreationError} (h : Creating start call s) :
    Keeps start call (throw e) Q s :=
  wp_throw ⟨h, .inl trivial⟩

/-! ## After an error -/

theorem creating_unpublished (h : Admitted start call state)
    (hstate : state.index < CreationJournalState.rootPublished.index)
    (hcreated : ∀ directory ∈ operation, directory.CreatedOnly) :
    Creating start call (unpublished start call state operation) :=
  .unpublished state operation h hstate hcreated

theorem unpublished_withOperation_other {left : Option OperationDirectory} :
    (unpublished start call state operation).withOperation call.operationId left =
      unpublished start call state left := by
  simp [unpublished, withOperation]

theorem keeps_discardBeforePublication (hfresh : Fresh start call)
    (h : Admitted start call state)
    (hstate : state.index < CreationJournalState.rootPublished.index)
    (hcreated : ∀ directory ∈ operation, directory.CreatedOnly) :
    Keeps start call (discardBeforePublication call) (fun _ t => Creating start call t)
      (unpublished start call state operation) := by
  have hroot : call.paths.operationRoot (unpublished start call state operation) = operation :=
    operationRoot_unpublished
  have hdiscard : Keeps start call (discardCandidate call.paths call.removal)
      (fun _ t => t = unpublished start call state none)
      (unpublished start call state operation) := by
    refine (wp_discardCandidate (fun left hleft => ?_) ?_ fun _ _ _ => trivial).mono
      (fun _ t ht => ?_) (fun _ _ ht => ht) fun _ ht => ht
    · rw [show call.paths.operationId = call.operationId from rfl,
        unpublished_withOperation_other]
      exact creating_unpublished h hstate hleft
    · rw [hroot]
      exact hcreated
    · obtain ⟨rfl, _⟩ := ht
      exact unpublished_withOperation_other
  refine wp_mapError_careful (wp_bind (hdiscard.mono fun _ t ht => ?_))
  cases ht
  refine wp_removeStoredJournal (creating_unpublished h hstate nofun) rfl
    ⟨rfl, isDiscardable_of_index hstate⟩ ?_
  rw [hfresh.unpublished_discarded]
  exact ⟨.settled .discarded, .settled .discarded⟩

/-- Without a directory of the operation there is nothing to discard. -/
theorem keeps_discardAbsent (hcreating : Creating start call s)
    (hroot : call.paths.operationRoot s = none) :
    Keeps start call (discardCandidate call.paths call.removal)
      (fun _ t => Creating start call t) s := by
  refine wp_mapError_careful (wp_bind (wp_operationRootPresent hcreating ?_))
  rw [hroot]
  exact wp_pure hcreating

theorem keeps_handlePresence (hfresh : Fresh start call) (h : Creating start call s) :
    Keeps start call
      (handlePresence call s.journal
        ⟨(call.paths.candidateRoot s).isSome, (call.paths.finalRoot s).isSome⟩)
      (fun _ t => Creating start call t) s := by
  cases h with
  | settled h =>
      rw [h.journal hfresh]
      unfold handlePresence
      dsimp only
      split
      · exact keeps_throw (.settled h)
      · refine wp_mapError_careful (keeps_discardAbsent (.settled h) ?_)
        cases h with
        | discarded => exact hfresh.operation
        | completed => exact Function.update_self ..
  | unpublished state operation hadmitted hstate hcreated =>
      have hfinal : call.paths.finalRoot (unpublished start call state operation) = none :=
        hfresh.workspace
      have hbefore := isDiscardable_of_index hstate
      show Keeps start call (handlePresence call (some (journalAt start call state)) _) _ _
      unfold handlePresence
      rw [hfinal]
      dsimp only
      rw [Option.isSome_none, Bool.false_or, if_neg]
      · exact keeps_discardBeforePublication hfresh hadmitted hstate hcreated
      · intro hpublished
        rw [show (journalAt start call state).state = state from rfl] at hpublished
        rw [hpublished] at hbefore
        cases hbefore
  | rootPublished state operation root hadmitted hstate hoperation hroot =>
      rw [presence_published hoperation]
      exact wp_pure (.rootPublished state operation root hadmitted hstate hoperation hroot)
  | registered state registry root hadmitted hstate hextended hroot =>
      rw [presence_published (.inl rfl)]
      exact wp_pure (.registered state registry root hadmitted hstate hextended hroot)

theorem keeps_handleFailure (hfresh : Fresh start call) (h : Creating start call s) :
    Keeps start call (handleFailure call) (fun _ t => Creating start call t) s := by
  refine wp_bind (wp_assertRuntimeAbsent h (wp_bind (wp_mapError_careful
    (wp_readStoredJournal h ?_))))
  split
  · exact keeps_throw h
  · exact wp_bind (wp_readPresence h (keeps_handlePresence hfresh h))

theorem keeps_errorOf {step : CreationProgram Unit}
    (h : Keeps start call step (fun _ t => Creating start call t) s) :
    Keeps start call (errorOf step) (fun _ t => Creating start call t) s :=
  wp_tryCatch (wp_bind (wp.mono h (fun _ _ ht => wp_pure ht) (fun _ _ ht => wp_pure ht.1)
    fun _ ht => ht))

theorem keeps_restartAfterFailure {context : FailureContext} (h : Creating start call s) :
    Keeps start call (restartAfterFailure context) (fun _ t => Creating start call t) s := by
  unfold restartAfterFailure
  split
  · split
    · exact wp_bind (wp_assertRuntimeAbsent h (wp_ensurePreviousWorkspaceRunning h h))
    · exact wp_ensurePreviousWorkspaceRunning h h
  · exact wp_pure h

/-- Whatever is done about an error, the creation stays in its states. -/
theorem keeps_handling {context : FailureContext} {part : CreationProgram α}
    (hfresh : Fresh start call) (h : Keeps start call part Q s) :
    Keeps start call (handling call context part) Q s := by
  refine wp_tryCatch (wp.mono h (fun _ _ ht => ht) (fun e t ht => ?_) fun _ ht => ht)
  have hfailure : Keeps start call (if context.journaled then handleFailure call else pure ())
      (fun _ u => Creating start call u) t := by
    split
    · exact keeps_handleFailure hfresh ht.1
    · exact wp_pure ht.1
  exact wp_bind ((keeps_errorOf hfailure).mono fun _ u hu => wp_bind
    ((keeps_restartAfterFailure hu).mono fun _ v hv => keeps_throw hv))

/-! ## The command -/

theorem keeps_quiesceWrites (hfresh : Fresh start call) :
    Keeps start call (quiesceWrites call)
      (fun registry t => registry = foundRegistry start ∧ t = start) start := by
  have hstart : Creating start call start := .settled .discarded
  refine wp_bind (wp_mapError_careful (wp_readStoredJournal hstart ?_))
  rw [hfresh.journal]
  refine wp_bind (wp_readRegistry hstart (wp_bind (wp_ofExcept_careful hstart
    (fun _ _ => trivial) fun _ _ => ?_)))
  exact wp_bind (wp_mapError_careful (wp_callPort hstart (wp_pure ⟨rfl, rfl⟩)))

theorem idAvailable_of_ok {registry : WorkspaceRegistry} {workspaceId : WorkspaceId} {u : Unit}
    (h : assertWorkspaceIdAvailable registry workspaceId = .ok u) :
    registry.IdAvailable workspaceId :=
  assertWorkspaceIdAvailable_eq_ok.mp (ok_of_mapError h)

theorem keeps_stopRuntime :
    Keeps start call (stopRuntime call (foundRegistry start))
      (fun _ t => t = start ∧ (foundRegistry start).IdAvailable call.workspaceId) start := by
  have hstart : Creating start call start := .settled .discarded
  refine wp_bind (wp_mapError_careful (wp_callPort hstart (wp_bind (wp_throwIf hstart
    (fun _ => trivial) fun _ => wp_bind (wp_assertRuntimeAbsent hstart ?_)))))
  exact wp_ofExcept_careful hstart (fun _ _ => trivial) fun _ hok => ⟨rfl, idAvailable_of_ok hok⟩

section

variable (h : Admitted start call state)
  (hstate : state.index < CreationJournalState.rootPublished.index)
include h hstate

theorem keeps_makeDirectory {path : CandidatePath}
    (hcreated : ∀ directory ∈ operation, directory.CreatedOnly) :
    Keeps start call (makeDirectory call.paths path)
      (fun _ t => ∃ left : Option OperationDirectory,
        (∀ directory ∈ left, directory.CreatedOnly) ∧ t = unpublished start call state left)
      (unpublished start call state operation) := by
  refine wp_attempt_careful (creating_unpublished h hstate hcreated) (fun _ _ => trivial)
    fun a t hok => ?_
  rw [operationRoot_unpublished] at hok
  cases hmade : operation.bind (·.makeDirectory path) with
  | none =>
      rw [hmade] at hok
      cases hok
  | some directory =>
      rw [hmade] at hok
      cases hok
      obtain ⟨before, hbefore, hdirectory⟩ := Option.bind_eq_some_iff.mp hmade
      have hleft : ∀ d ∈ some directory, d.CreatedOnly := by
        rintro _ ⟨⟩
        exact (hcreated before hbefore).makeDirectory hdirectory
      rw [show call.paths.operationId = call.operationId from rfl,
        unpublished_withOperation_other]
      exact ⟨creating_unpublished h hstate hleft, some directory, hleft, rfl⟩

theorem keeps_createCandidate : Keeps start call (createCandidate call.paths)
      (fun _ t => ∃ left : Option OperationDirectory,
        (∀ directory ∈ left, directory.CreatedOnly) ∧ t = unpublished start call state left)
      (unpublished start call state none) := by
  have hbefore : Creating start call (unpublished start call state none) :=
    creating_unpublished h hstate nofun
  refine wp_mapError_careful (wp_bind (wp_callPort hbefore (wp_bind (wp_lookIf hbefore
    (fun _ => trivial) fun _ => wp_bind ?_))))
  have hempty : ∀ d ∈ some (⟨none⟩ : OperationDirectory), d.CreatedOnly := by
    rintro _ ⟨⟩
    exact OperationDirectory.createdOnly_empty
  refine wp_attempt_careful hbefore (fun _ _ => trivial) fun a t hok => ?_
  rw [operationRoot_unpublished] at hok
  cases hok
  rw [show call.paths.operationId = call.operationId from rfl, unpublished_withOperation_other]
  refine ⟨creating_unpublished h hstate hempty, ?_⟩
  -- Each directory is made where the one before has left off.
  refine wp_bind ((keeps_makeDirectory h hstate hempty).mono ?_)
  rintro _ _ ⟨left, hleft, rfl⟩
  refine wp_bind ((keeps_makeDirectory h hstate hleft).mono ?_)
  rintro _ _ ⟨left, hleft, rfl⟩
  refine wp_bind ((keeps_makeDirectory h hstate hleft).mono ?_)
  rintro _ _ ⟨left, hleft, rfl⟩
  refine wp_bind ((keeps_makeDirectory h hstate hleft).mono ?_)
  rintro _ _ ⟨left, hleft, rfl⟩
  exact keeps_makeDirectory h hstate hleft

theorem keeps_validatedBootstrap (hcreated : ∀ directory ∈ operation, directory.CreatedOnly) :
    Keeps start call (validatedBootstrap call)
      (fun result t => result = call.bootstrap.result ∧ ∃ left : Option OperationDirectory,
        (∀ directory ∈ left, directory.CreatedOnly) ∧ t = unpublished start call state left)
      (unpublished start call state operation) := by
  have hwith : ∀ data, ∀ directory ∈ operation.map (·.withData data), directory.CreatedOnly := by
    intro data directory hdirectory
    obtain ⟨before, hbefore, rfl⟩ := Option.map_eq_some_iff.mp hdirectory
    exact (hcreated before hbefore).withData
  have hleaves : ∀ data, (unpublished start call state operation).withOperation call.operationId
      ((call.paths.operationRoot (unpublished start call state operation)).map (·.withData data)) =
        unpublished start call state (operation.map (·.withData data)) := by
    intro data
    rw [operationRoot_unpublished, unpublished_withOperation_other]
  refine wp_mapError_careful (wp_bind (wp_attemptParts_careful (fun fate => ?_) fun fate _ => ?_))
  · dsimp only
    rw [hleaves]
    exact creating_unpublished h hstate (hwith _)
  · dsimp only
    rw [hleaves]
    refine wp_ofExcept_careful (creating_unpublished h hstate (hwith _)) (fun _ _ => trivial)
      fun result hresult => ⟨?_, _, hwith _, rfl⟩
    unfold validateBootstrapResult at hresult
    split at hresult
    · cases hresult
    · exact (Except.ok.inj hresult).symm

end

theorem keeps_prepareCandidate (hfresh : Fresh start call)
    (hid : (foundRegistry start).IdAvailable call.workspaceId) :
    Keeps start call (prepareCandidate call (foundRegistry start))
      (fun profileId t => profileId = call.bootstrap.result.profileId ∧
        Admitted start call .bootstrapCompleted ∧ ∃ left : Option OperationDirectory,
          (∀ directory ∈ left, directory.CreatedOnly) ∧
          t = unpublished start call .bootstrapCompleted left) start := by
  have hprepared : Admitted start call .prepared := ⟨hid, fun hindex => absurd hindex (by decide)⟩
  have hcreated : Admitted start call .candidateRootCreated :=
    ⟨hid, fun hindex => absurd hindex (by decide)⟩
  have hallowed : (journalAt start call .prepared).lineageValid &&
      WorkspaceCreationJournal.transitionAllowed start.journal
        (journalAt start call .prepared) := by
    rw [hfresh.journal]
    rfl
  refine wp_bind (wp_mapError_careful (wp_writeStoredJournal (.settled .discarded) hallowed ?_))
  rw [show { start with journal := some (journalOf call (foundRegistry start) .prepared none) } =
    unpublished start call .prepared none from hfresh.start_unpublished]
  refine ⟨creating_unpublished hprepared (by decide) nofun, ?_⟩
  refine wp_bind ((keeps_createCandidate hprepared (by decide)).mono ?_)
  rintro _ _ ⟨left, hleft, rfl⟩
  refine wp_bind (wp_mapError_careful (wp_writeStoredJournal
    (creating_unpublished hprepared (by decide) hleft)
    (journalAt_allowed (rfl : CreationJournalState.candidateRootCreated.index =
      CreationJournalState.prepared.index + 1))
    ⟨creating_unpublished hcreated (by decide) hleft, ?_⟩))
  refine wp_bind ((keeps_validatedBootstrap hcreated (by decide) hleft).mono ?_)
  rintro _ _ ⟨rfl, left, hleft, rfl⟩
  have hcreating := creating_unpublished hcreated (by decide) hleft
  refine wp_bind (wp_ofExcept_careful hcreating (fun _ _ => trivial) fun _ hlineage => ?_)
  have hcompleted : Admitted start call .bootstrapCompleted :=
    ⟨hid, fun _ => assertWorkspaceLineageAvailable_eq_ok.mp (ok_of_mapError hlineage)⟩
  refine wp_bind (wp_assertRuntimeAbsent hcreating (wp_bind (wp_mapError_careful
    (wp_writeStoredJournal hcreating
      (journalAt_allowed (rfl : CreationJournalState.bootstrapCompleted.index =
        CreationJournalState.candidateRootCreated.index + 1))
      ⟨creating_unpublished hcompleted (by decide) hleft, ?_⟩))))
  exact wp_pure ⟨rfl, hcompleted, left, hleft, rfl⟩

theorem keeps_readPublicationRegistry {profileId : String} (hs : Creating start call s)
    (hregistry : s.registry = start.registry) :
    Keeps start call (readPublicationRegistry call (foundRegistry start) profileId)
      (fun registry t => registry = foundRegistry start ∧ t = s) s := by
  refine wp_bind (wp_readRegistry hs (wp_bind (wp_ofExcept_careful hs (fun _ _ => trivial)
    fun _ _ => wp_pure ⟨?_, rfl⟩)))
  rw [hregistry]
  rfl

/-- The candidate is checked once more, and becomes the workspace. -/
theorem keeps_publishCandidate (hfresh : Fresh start call)
    (h : Admitted start call .candidateValidated)
    (hcreated : ∀ directory ∈ operation, directory.CreatedOnly) :
    Keeps start call (publishCandidate call.paths)
      (fun _ t => ∃ root : WorkspaceDirectory, root.Complete ∧
        t = published start call (some (journalAt start call .candidateValidated)) start.registry
          (some ⟨none⟩) root)
      (unpublished start call .candidateValidated operation) := by
  have hcreating := creating_unpublished h (by decide) hcreated
  have hcandidate : call.paths.candidateRoot (unpublished start call .candidateValidated operation)
      = operation.bind fun directory => directory.candidate := by
    rw [CreationPaths.candidateRoot, operationRoot_unpublished]
  have hfinal : call.paths.finalRoot (unpublished start call .candidateValidated operation) =
      none := hfresh.workspace
  refine wp_mapError_careful (wp_bind (wp_mapError_careful (wp_lookIf hcreating
    (fun _ => trivial) fun hlayout => wp_bind (wp_callPort hcreating (wp_bind (wp_lookIf hcreating
      (fun _ => trivial) fun _ => ?_))))))
  refine wp_attempt_careful hcreating (fun _ _ => trivial) fun a t hok => ?_
  cases hroot : operation.bind fun directory => directory.candidate with
  | none =>
      rw [hcandidate, hroot] at hok
      cases hok
  | some root =>
      rw [hcandidate, hroot, hfinal] at hok
      cases hok
      have hcomplete : root.Complete := by
        rw [hcandidate, hroot, Classical.not_not] at hlayout
        exact WorkspaceDirectory.inspectLayout_iff.mp hlayout
      have hmoved : ((unpublished start call .candidateValidated operation).withOperation
          call.paths.operationId (some ⟨none⟩)).withWorkspace call.paths.workspaceId (some root) =
          published start call (some (journalAt start call .candidateValidated)) start.registry
            (some ⟨none⟩) root := by
        rw [show call.paths.operationId = call.operationId from rfl,
          unpublished_withOperation_other]
        rfl
      rw [hmoved]
      exact ⟨.rootPublished _ _ root (h.mono fun _ => by decide) (.inl rfl) (.inr rfl) hcomplete,
        root, hcomplete, rfl⟩

/-- All has been published, and the journal says so. -/
def Registered (start : CreationWorld) (call : CreationCall) (s : CreationWorld) : Prop :=
  Admitted start call .registryPublished ∧
    ∃ (registry : StoredRegistry) (root : WorkspaceDirectory), Extended start call registry ∧
      root.Complete ∧ s = published start call
        (some (journalAt start call .registryPublished)) (some registry) none root

/-- The publication, whatever fails. -/
theorem keeps_publishWorkspace (hfresh : Fresh start call)
    (h : Admitted start call .bootstrapCompleted)
    (hcreated : ∀ directory ∈ operation, directory.CreatedOnly) :
    Keeps start call
      (publishWorkspace call (foundRegistry start) call.bootstrap.result.profileId)
      (fun _ t => Registered start call t)
      (unpublished start call .bootstrapCompleted operation) := by
  have hvalidated : Admitted start call .candidateValidated := h.mono fun _ => by decide
  have hmoved : Admitted start call .rootPublished := h.mono fun _ => by decide
  have hentered : Admitted start call .registryPublished := h.mono fun _ => by decide
  refine wp_bind (wp_mapError_careful (wp_lookIf (creating_unpublished h (by decide) hcreated)
    (fun _ => trivial) fun _ => wp_bind (wp_mapError_careful (wp_writeStoredJournal
      (creating_unpublished h (by decide) hcreated)
      (journalAt_allowed (rfl : CreationJournalState.candidateValidated.index =
        CreationJournalState.bootstrapCompleted.index + 1))
      ⟨creating_unpublished hvalidated (by decide) hcreated, ?_⟩))))
  refine wp_bind ((keeps_readPublicationRegistry
    (creating_unpublished hvalidated (by decide) hcreated) rfl).mono ?_)
  rintro _ _ ⟨rfl, rfl⟩
  refine wp_bind ((keeps_publishCandidate hfresh hvalidated hcreated).mono ?_)
  rintro _ _ ⟨root, hroot, rfl⟩
  have hpublished : ∀ (state : CreationJournalState) (left : Option OperationDirectory),
      state = .candidateValidated ∨ state = .rootPublished → left = none ∨ left = some ⟨none⟩ →
        Creating start call
          (published start call (some (journalAt start call state)) start.registry left root) :=
    fun state left hstate hleft => .rootPublished state left root hmoved hstate hleft hroot
  refine wp_bind (wp_mapError_careful (wp_writeStoredJournal
    (hpublished _ _ (.inl rfl) (.inr rfl))
    (journalAt_allowed (rfl : CreationJournalState.rootPublished.index =
      CreationJournalState.candidateValidated.index + 1))
    ⟨hpublished _ _ (.inr rfl) (.inr rfl), ?_⟩))
  have hcleaned : (published start call (some (journalAt start call .rootPublished)) start.registry
      (some ⟨none⟩) root).withOperation call.operationId none =
        published start call (some (journalAt start call .rootPublished)) start.registry none
          root := by
    simp [published, withWorkspace, withOperation]
  have hcleanup : Keeps start call (cleanupPublishedOperation call.paths)
      (fun _ t => t = published start call (some (journalAt start call .rootPublished))
        start.registry none root)
      (published start call (some (journalAt start call .rootPublished)) start.registry
        (some ⟨none⟩) root) := by
    have hstays : call.paths.operationRoot (published start call
        (some (journalAt start call .rootPublished)) start.registry (some ⟨none⟩) root) =
          some ⟨none⟩ := Function.update_self ..
    rw [← hcleaned]
    refine wp_cleanupPublishedOperation (.inr hstays) (hpublished _ _ (.inr rfl) (.inr rfl)) ?_
    rw [show call.paths.operationId = call.operationId from rfl, hcleaned]
    exact hpublished _ _ (.inr rfl) (.inl rfl)
  refine wp_bind (hcleanup.mono fun _ t ht => ?_)
  cases ht
  refine wp_bind (wp_ofExcept_careful (hpublished _ _ (.inr rfl) (.inl rfl)) (fun _ _ => trivial)
    fun extended hextended => ?_)
  obtain ⟨_, _, rfl⟩ := appendRecoveredWorkspaceEntry_eq_ok.mp
    (appendRecovered_of_appendReady (ok_of_mapError hextended))
  have hregistered : ∀ state : CreationJournalState,
      state = .rootPublished ∨ state = .registryPublished → Creating start call
        (published start call (some (journalAt start call state))
          (some ⟨_, valid_extended hentered⟩) none root) :=
    fun state hstate => .registered state _ root hentered hstate rfl hroot
  refine wp_bind (wp_writeRegistry start (hpublished _ _ (.inr rfl) (.inl rfl))
    (valid_extended hentered) rfl rfl ⟨hregistered _ (.inl rfl), ?_⟩)
  exact wp_mapError_careful (wp_writeStoredJournal (hregistered _ (.inl rfl))
    (journalAt_allowed (rfl : CreationJournalState.registryPublished.index =
      CreationJournalState.rootPublished.index + 1))
    ⟨hregistered _ (.inr rfl), hentered, ⟨_, valid_extended hentered⟩, root, rfl, hroot, rfl⟩)

theorem keeps_setUp (hfresh : Fresh start call)
    (hid : (foundRegistry start).IdAvailable call.workspaceId) :
    Keeps start call
      (prepareCandidate call (foundRegistry start) >>= publishWorkspace call (foundRegistry start))
      (fun _ t => Registered start call t) start := by
  refine wp_bind ((keeps_prepareCandidate hfresh hid).mono ?_)
  rintro _ _ ⟨rfl, hadmitted, left, hleft, rfl⟩
  exact keeps_publishWorkspace hfresh hadmitted hleft

/-- **THE COMMAND** keeps to the states of a creation, and if it returns, all is done. -/
theorem keeps_create (hfresh : Fresh start call) :
    Keeps start call (create call) (fun _ t => Settled start call t) start := by
  have hstart : Creating start call start := .settled .discarded
  have hperform : Keeps start call (performCreation call) (fun _ t => Settled start call t)
      start := by
    refine wp_bind ((keeps_handling hfresh (keeps_quiesceWrites hfresh)).mono ?_)
    rintro registry t ⟨hregistry, ht⟩
    rw [hregistry, ht]
    refine wp_bind ((keeps_handling hfresh keeps_stopRuntime).mono ?_)
    rintro _ t ⟨ht, hid⟩
    rw [ht]
    refine wp_bind ((keeps_handling hfresh (keeps_setUp hfresh hid)).mono ?_)
    rintro _ _ ⟨hadmitted, registry, root, hextended, hroot, rfl⟩
    have hregistered : Creating start call (published start call
        (some (journalAt start call .registryPublished)) (some registry) none root) :=
      .registered _ _ _ hadmitted (.inr rfl) hextended hroot
    have hcompleted : Settled start call (published start call none (some registry) none root) :=
      .completed _ _ hadmitted hextended hroot
    exact keeps_handling hfresh (wp_bind (wp_ensurePreviousWorkspaceRunning hregistered
      (wp_removeStoredJournal hregistered rfl ⟨rfl, rfl⟩ ⟨.settled hcompleted, hcompleted⟩)))
  refine wp_bind (wp_mapError_careful (wp_callPort hstart ?_))
  exact wp_andFinally_careful hperform (fun _ ht => wp_releaseLease ht) fun _ _ ht => .settled ht

/-! ## Histories -/

/-- A creation from `start`, and then recoveries; anything may go wrong with any of them. -/
def creationRuns (start : CreationWorld) (call : CreationCall) :
    TransitionSystem CreationWorld where
  initial s := ∃ fates, s = (create call start fates).2.1
  step s t := ∃ recovery fates, t = (recover recovery s fates).2.1

theorem creating_of_reachable (hfresh : Fresh start call)
    (h : Reachable (creationRuns start call) s) : Creating start call s := by
  refine h.invariant ?_ ?_
  · rintro _ ⟨fates, rfl⟩
    exact ended_careful (keeps_create hfresh) (fun _ _ ht => .settled ht) fates
  · rintro s _ _ hs ⟨recovery, fates, rfl⟩
    have hrecover : Keeps start call (recover recovery)
        (fun _ t => Settled start call t ∧ ¬ LeavesSideFile call s) s :=
      wp_recover hfresh hs (fun hno => absurd trivial hno) fun _ => trivial
    exact ended_careful hrecover (fun _ _ ht => .settled ht.1) fates

/-- What is there of other operations and of other workspaces is as it was. -/
def TouchesNothingElse (start : CreationWorld) (call : CreationCall) (s : CreationWorld) : Prop :=
  (∀ operationId, operationId ≠ call.operationId →
    s.operations operationId = start.operations operationId) ∧
  ∀ workspaceId, workspaceId ≠ call.workspaceId →
    s.workspaces workspaceId = start.workspaces workspaceId

/-- The registry is the one that there was, or it has the workspace as one more entry and
    the active workspace that `workspaceSelectionAfterPublication` selects. -/
def RegistryFits (start : CreationWorld) (call : CreationCall) (s : CreationWorld) : Prop :=
  s.registry = start.registry ∨
    ∃ registry, s.registry = some registry ∧ Extended start call registry

/-- Nothing is left of the operation.  There is no workspace and no entry, or there are
    both. -/
def AllOrNothing (start : CreationWorld) (call : CreationCall) (s : CreationWorld) : Prop :=
  s.journal = none ∧ s.operations call.operationId = none ∧
    ((s.registry = start.registry ∧ s.workspaces call.workspaceId = none) ∨
      ∃ registry root, s.registry = some registry ∧ Extended start call registry ∧
        s.workspaces call.workspaceId = some root ∧ root.Complete)

theorem Creating.touchesNothingElse (h : Creating start call s) :
    TouchesNothingElse start call s := by
  have hpublished : ∀ {journal registry operation root}, TouchesNothingElse start call
      (published start call journal registry operation root) := by
    intro journal registry operation root
    exact ⟨fun _ hne => Function.update_of_ne hne .., fun _ hne => Function.update_of_ne hne ..⟩
  cases h with
  | settled h =>
      cases h with
      | discarded => exact ⟨fun _ _ => rfl, fun _ _ => rfl⟩
      | completed => exact hpublished
  | unpublished => exact ⟨fun _ hne => Function.update_of_ne hne .., fun _ _ => rfl⟩
  | rootPublished => exact hpublished
  | registered => exact hpublished

theorem Creating.registryFits (h : Creating start call s) : RegistryFits start call s := by
  cases h with
  | settled h =>
      cases h with
      | discarded => exact .inl rfl
      | completed registry _ _ hextended => exact .inr ⟨registry, rfl, hextended⟩
  | unpublished | rootPublished => exact .inl rfl
  | registered _ registry _ _ _ hextended => exact .inr ⟨registry, rfl, hextended⟩

theorem Settled.allOrNothing (hfresh : Fresh start call) (h : Settled start call s) :
    AllOrNothing start call s := by
  cases h with
  | discarded => exact ⟨hfresh.journal, hfresh.operation, .inl ⟨rfl, hfresh.workspace⟩⟩
  | completed registry root _ hextended hroot =>
      exact ⟨rfl, Function.update_self .., .inr ⟨registry, root, rfl, hextended,
        Function.update_self .., hroot⟩⟩

/-- **ALL OR NOTHING, UNLESS SQLITE HAS LEFT SOMETHING.**  Whatever a creation and the
    recoveries after it have left, nothing of another operation or workspace has been
    touched, and the registry is the old one or has the one new entry.  One more recovery,
    left to itself, returns and leaves all or nothing if and only if there is no side file
    of SQLite in the directory of the operation. -/
theorem creation_all_or_nothing (hfresh : Fresh start call)
    (h : Reachable (creationRuns start call) s) :
    TouchesNothingElse start call s ∧ RegistryFits start call s ∧
      ∀ recovery, Recoverable start call recovery s →
        ((∃ result, (recover recovery s []).1 = .returned result ∧
            AllOrNothing start call (recover recovery s []).2.1 ∧
            TouchesNothingElse start call (recover recovery s []).2.1) ↔
          ¬ LeavesSideFile call s) := by
  have hcreating := creating_of_reachable hfresh h
  refine ⟨hcreating.touchesNothingElse, hcreating.registryFits, fun recovery hrecoverable => ?_⟩
  have hrun := undisturbed_careful (wp_recover hfresh hcreating (fun _ => hrecoverable) id)
  constructor
  · rintro ⟨result, hreturned, _⟩
    rcases hrun with ⟨_, _, _, hnone⟩ | ⟨_, e, hthrew⟩
    · exact hnone
    · rw [hreturned] at hthrew
      cases hthrew
  · intro hnone
    rcases hrun with ⟨result, hreturned, hsettled, _⟩ | ⟨hleaves, _⟩
    · exact ⟨result, hreturned, hsettled.allOrNothing hfresh,
        (Creating.settled hsettled).touchesNothingElse⟩
    · exact absurd hleaves hnone

/-! ## Runs on fixed inputs -/

namespace SampleCreation

/-- A text of 64 characters. -/
def sixtyFour (c : Char) : String := String.ofList (List.replicate 64 c)

/-- What the bootstrap answers. -/
def result : EmptyWorkspaceBootstrapResult where
  actorId := "local-owner"
  artifactRootHealth := "ready"
  companyId := "local-company-" ++ String.ofList (List.replicate 32 'a')
  databaseHealth := "healthy"
  foreignKeyHealth := "healthy"
  handlesClosed := true
  profileId := sixtyFour 'b'
  migrationChainIdentity := sixtyFour 'c'
  migrationState := "current"

/-- Cut off in a transaction, the bootstrap has left its journal. -/
def bootstrap : EmptyWorkspaceBootstrap where
  left
    | 0 => ⟨none, []⟩
    | _ => ⟨some 4096, [.journal]⟩
  finished := ⟨some 8192, []⟩
  result := result

/-- A call that creates a bakery. -/
def bakery : CreationCall where
  workspaceLabel := "Bakery"
  operationId := "operation"
  workspaceId := "bakery"
  createdAt := "2026-02-01T00:00:00.000Z"
  comparisonKey := id
  handlesClosed := true
  bootstrap := bootstrap
  removal := [.database, .directory .data]

/-- The files of the workspace that is there. -/
def shopRoot : WorkspaceDirectory := ⟨none, some ⟨some ⟨some 4096, []⟩, some ⟨some []⟩⟩⟩

/-- A world with one workspace. -/
def installed : CreationWorld where
  journal := none
  registry := some SampleWorkspaces.registry
  operations := fun _ => none
  workspaces workspaceId := if workspaceId = "shop" then some shopRoot else none

/-- A recovery before the start. -/
def recovery : RecoveryCall := ⟨.beforeRuntimeStart, some result, []⟩

theorem fresh : Fresh installed bakery := ⟨rfl, rfl, rfl⟩

/-- The process ends in the bootstrap, where that has got to a part. -/
def interruptedAt (part : Nat) : CreationWorld :=
  (create bakery installed (List.replicate 16 default ++ [⟨.crashes, some part⟩])).2.1

theorem reachable_interruptedAt (part : Nat) :
    Reachable (creationRuns installed bakery) (interruptedAt part) :=
  .initial ⟨_, rfl⟩

theorem recoverable (s : CreationWorld) : Recoverable installed bakery recovery s where
  continues _ := by
    refine ⟨SampleWorkspaces.registry, rfl, fun hnone => absurd hnone (by decide), ?_⟩
    rintro _ ⟨⟩
    exact Option.some_ne_none shopRoot
  validates _ := ⟨result, rfl, by decide +kernel, rfl⟩

/-- The journal of the database makes the recovery throw, and the next one as well. -/
theorem journal_blocks_recovery :
    Fresh installed bakery ∧ Reachable (creationRuns installed bakery) (interruptedAt 1) ∧
      Recoverable installed bakery recovery (interruptedAt 1) ∧
      (recover recovery (interruptedAt 1) []).1 = .threw (.creation .storageFailed .cleanup) ∧
      (recover recovery (recover recovery (interruptedAt 1) []).2.1 []).1 =
        .threw (.creation .storageFailed .cleanup) :=
  ⟨fresh, reachable_interruptedAt 1, recoverable _, by decide +kernel, by decide +kernel⟩

/-- Without it, the candidate is discarded. -/
theorem recovers_without_journal :
    ∃ result, (recover recovery (interruptedAt 0) []).1 = .returned result ∧
      AllOrNothing installed bakery (recover recovery (interruptedAt 0) []).2.1 ∧
      TouchesNothingElse installed bakery (recover recovery (interruptedAt 0) []).2.1 := by
  have hdirectory : (interruptedAt 0).operations bakery.operationId =
      some ⟨some ⟨none, some ⟨some ⟨none, []⟩, some ⟨some []⟩⟩⟩⟩ := by
    decide +kernel
  refine ((creation_all_or_nothing fresh (reachable_interruptedAt 0)).2.2 recovery
    (recoverable _)).mpr ?_
  rintro ⟨directory, hmem, hfiles⟩
  rw [hdirectory] at hmem
  cases hmem
  exact hfiles rfl

end SampleCreation

end EmptyWorkspaceCreation
