import Eky.EmptyWorkspaceCreation

/-! # Creating an empty workspace — proofs

    Every state of a creation is one of a few: nothing has been done, there is a
    candidate and nothing else, the candidate has become the workspace, the workspace
    has been entered in the registry, or all is done.  Whatever goes wrong, neither the
    command nor the recovery leaves these states, and of a recovery it is said what it
    throws for. -/

namespace CreationWorld

variable {world : CreationWorld} {operationId : String} {workspaceId : WorkspaceId}
  {journal : Option WorkspaceCreationJournal} {directory other : Option OperationDirectory}
  {root : Option WorkspaceDirectory}

@[simp] theorem withOperation_operations_self :
    (world.withOperation operationId directory).operations operationId = directory :=
  Function.update_self ..

@[simp] theorem withOperation_withOperation :
    (world.withOperation operationId directory).withOperation operationId other =
      world.withOperation operationId other := by
  simp [withOperation]

theorem withOperation_self (h : world.operations operationId = directory) :
    world.withOperation operationId directory = world := by
  subst h
  simp [withOperation]

end CreationWorld

namespace EmptyWorkspaceCreation

open Program Fallible CreationWorld WorkspaceRegistry

variable {disturbed excuse : Prop} {start s t : CreationWorld} {call : CreationCall}
  {state : CreationJournalState} {operation : Option OperationDirectory}
  {root : WorkspaceDirectory} {I : CreationWorld → Prop}

/-! ## The states of a creation -/

/-- The registry that the creation finds. -/
def foundRegistry (start : CreationWorld) : WorkspaceRegistry :=
  readWorkspaceRegistry (start.registry.map (·.toWorkspaceRegistry))

/-- The journal of the creation in a state. -/
def journalAt (start : CreationWorld) (call : CreationCall) (state : CreationJournalState) :
    WorkspaceCreationJournal :=
  journalOf call (foundRegistry start) state
    (if CreationJournalState.bootstrapCompleted.index ≤ state.index
      then some call.bootstrap.result.profileId else none)

/-- Nothing of the operation is there yet. -/
structure Fresh (start : CreationWorld) (call : CreationCall) : Prop where
  journal : start.journal = none
  operation : start.operations call.operationId = none
  workspace : start.workspaces call.workspaceId = none

/-- The registry has room for the workspace, as far as the state has it checked. -/
structure Admitted (start : CreationWorld) (call : CreationCall) (state : CreationJournalState) :
    Prop where
  id : (foundRegistry start).IdAvailable call.workspaceId
  lineage : CreationJournalState.bootstrapCompleted.index ≤ state.index →
    (foundRegistry start).LineageAvailable call.bootstrap.result.profileId

/-- Before the candidate is renamed. -/
def unpublished (start : CreationWorld) (call : CreationCall) (state : CreationJournalState)
    (operation : Option OperationDirectory) : CreationWorld :=
  { start.withOperation call.operationId operation with
    journal := some (journalAt start call state) }

/-- After it; the workspace is at its place. -/
def published (start : CreationWorld) (call : CreationCall)
    (journal : Option WorkspaceCreationJournal) (registry : Option StoredRegistry)
    (operation : Option OperationDirectory) (root : WorkspaceDirectory) : CreationWorld :=
  { (start.withOperation call.operationId operation).withWorkspace call.workspaceId (some root) with
    journal := journal
    registry := registry }

/-- The registry with the workspace. -/
def Extended (start : CreationWorld) (call : CreationCall) (registry : StoredRegistry) : Prop :=
  registry.toWorkspaceRegistry =
    (foundRegistry start).extendedWith (entryOf call call.bootstrap.result.profileId)

/-- All is done. -/
inductive Settled (start : CreationWorld) (call : CreationCall) : CreationWorld → Prop
  | discarded : Settled start call start
  | completed (registry : StoredRegistry) (root : WorkspaceDirectory)
      (hadmitted : Admitted start call .registryPublished)
      (hextended : Extended start call registry) (hroot : root.Complete) :
      Settled start call (published start call none (some registry) none root)

/-- Whatever has happened to a creation. -/
inductive Creating (start : CreationWorld) (call : CreationCall) : CreationWorld → Prop
  | settled {s : CreationWorld} (h : Settled start call s) : Creating start call s
  | unpublished (state : CreationJournalState) (operation : Option OperationDirectory)
      (hadmitted : Admitted start call state)
      (hstate : state.index < CreationJournalState.rootPublished.index)
      (hcreated : ∀ directory ∈ operation, directory.CreatedOnly) :
      Creating start call (unpublished start call state operation)
  | rootPublished (state : CreationJournalState) (operation : Option OperationDirectory)
      (root : WorkspaceDirectory) (hadmitted : Admitted start call .rootPublished)
      (hstate : state = .candidateValidated ∨ state = .rootPublished)
      (hoperation : operation = none ∨ operation = some ⟨none⟩) (hroot : root.Complete) :
      Creating start call
        (published start call (some (journalAt start call state)) start.registry operation root)
  | registered (state : CreationJournalState) (registry : StoredRegistry)
      (root : WorkspaceDirectory) (hadmitted : Admitted start call .registryPublished)
      (hstate : state = .rootPublished ∨ state = .registryPublished)
      (hextended : Extended start call registry) (hroot : root.Complete) :
      Creating start call
        (published start call (some (journalAt start call state)) (some registry) none root)

theorem Fresh.start_unpublished (h : Fresh start call) :
    { start with journal := some (journalAt start call state) } =
      unpublished start call state none := by
  rw [unpublished, withOperation_self h.operation]

theorem Fresh.unpublished_discarded (h : Fresh start call) :
    { unpublished start call state none with journal := none } = start := by
  rw [unpublished, withOperation_self h.operation, ← h.journal]

theorem unpublished_withOperation :
    (unpublished start call state operation).withOperation call.operationId none =
      unpublished start call state none := by
  simp [unpublished, withOperation]

theorem operationRoot_unpublished :
    call.paths.operationRoot (unpublished start call state operation) = operation :=
  withOperation_operations_self

/-! ## The ports -/

section Ports

variable {α : Type} {check : CreationWorld → Except CreationError α} {Q : α → CreationWorld → Prop}

/-- What is read leaves everything as it is. -/
theorem wp_look (hI : I s) (hrefused : ∀ e, check s = .error e → excuse)
    (h : ∀ a, check s = .ok a → Q a s) :
    wp (Fate.Disturbed disturbed) (look check) (careful disturbed excuse I Q) s := by
  refine wp_attempt_careful hI (fun e he => ?_) fun a t hanswer => ?_
  · cases hcheck : check s with
    | error refusal => exact hrefused refusal hcheck
    | ok a =>
        rw [hcheck] at he
        cases he
  · cases hcheck : check s with
    | error refusal =>
        rw [hcheck] at hanswer
        cases hanswer
    | ok b =>
        rw [hcheck] at hanswer
        cases hanswer
        exact ⟨hI, h _ hcheck⟩

theorem wp_throwIf {c : Prop} [Decidable c] {e : CreationError} {Q : Unit → CreationWorld → Prop}
    (hI : I s) (hexcuse : c → excuse) (h : ¬ c → Q () s) :
    wp (Fate.Disturbed disturbed) (Program.ofExcept (throwIf c e))
      (careful disturbed excuse I Q) s := by
  refine wp_ofExcept_careful hI (fun refusal hrefused => ?_) fun _ hok => h (throwIf_eq_ok.mp hok)
  by_cases hc : c
  · exact hexcuse hc
  · rw [throwIf_of_not hc] at hrefused
    cases hrefused

theorem wp_lookIf {c : CreationWorld → Prop} [∀ world, Decidable (c world)] {e : CreationError}
    {Q : Unit → CreationWorld → Prop} (hI : I s) (hexcuse : c s → excuse) (h : ¬ c s → Q () s) :
    wp (Fate.Disturbed disturbed) (look fun world => throwIf (c world) e)
      (careful disturbed excuse I Q) s := by
  refine wp_look hI (fun refusal hrefused => ?_) fun _ hok => h (throwIf_eq_ok.mp hok)
  by_cases hc : c s
  · exact hexcuse hc
  · rw [throwIf_of_not hc] at hrefused
    cases hrefused

theorem wp_callPort {Q : Unit → CreationWorld → Prop} (hI : I s) (hQ : Q () s) :
    wp (Fate.Disturbed disturbed) callPort (careful disturbed excuse I Q) s :=
  wp_attemptNothing_careful hI hQ

theorem wp_assertRuntimeAbsent {Q : Unit → CreationWorld → Prop} (hI : I s) (hQ : Q () s) :
    wp (Fate.Disturbed disturbed) assertRuntimeAbsent (careful disturbed excuse I Q) s :=
  wp_mapError_careful (wp_callPort hI hQ)

theorem wp_ensurePreviousWorkspaceRunning {Q : Unit → CreationWorld → Prop} (hI : I s)
    (hQ : Q () s) : wp (Fate.Disturbed disturbed) ensurePreviousWorkspaceRunning
      (careful disturbed excuse I Q) s :=
  wp_mapError_careful (wp_callPort hI hQ)

theorem wp_releaseLease (hI : I s) :
    wp (Fate.Disturbed disturbed) releaseLease (careful disturbed excuse I fun _ t => t = s) s :=
  wp_mapError_careful (wp_callPort hI rfl)

theorem wp_readStoredJournal {Q : Option WorkspaceCreationJournal → CreationWorld → Prop}
    (hI : I s) (hQ : Q s.journal s) :
    wp (Fate.Disturbed disturbed) readStoredJournal (careful disturbed excuse I Q) s :=
  wp_look hI nofun fun _ h => by
    cases h
    exact hQ

theorem wp_readRegistry {Q : Option WorkspaceRegistry → CreationWorld → Prop}
    (hI : I s) (hQ : Q (s.registry.map (·.toWorkspaceRegistry)) s) :
    wp (Fate.Disturbed disturbed) readRegistry (careful disturbed excuse I Q) s :=
  wp_mapError_careful (wp_look hI nofun fun _ h => by
    cases h
    exact hQ)

/-- A journal is written unless it is not allowed. -/
theorem wp_writeStoredJournal {next : WorkspaceCreationJournal} {Q : Unit → CreationWorld → Prop}
    (hI : I s)
    (hallowed : next.lineageValid && WorkspaceCreationJournal.transitionAllowed s.journal next)
    (h : I { s with journal := some next } ∧ Q () { s with journal := some next }) :
    wp (Fate.Disturbed disturbed) (writeStoredJournal next) (careful disturbed excuse I Q) s := by
  refine wp_attempt_careful hI (fun e he => ?_) fun a t hok => ?_
  · rw [if_pos hallowed] at he
    cases he
  · rw [if_pos hallowed] at hok
    cases hok
    exact h

theorem wp_removeStoredJournal {operationId : String} {allowed : CreationJournalState → Bool}
    {journal : WorkspaceCreationJournal} {Q : Unit → CreationWorld → Prop} (hI : I s)
    (hjournal : s.journal = some journal)
    (hallowed : journal.operationId = operationId ∧ allowed journal.state)
    (h : I { s with journal := none } ∧ Q () { s with journal := none }) :
    wp (Fate.Disturbed disturbed) (removeStoredJournal operationId allowed)
      (careful disturbed excuse I Q) s := by
  refine wp_attempt_careful hI (fun e he => ?_) fun a t hok => ?_
  · rw [hjournal] at he
    simp only [if_pos hallowed] at he
    cases he
  · rw [hjournal] at hok
    simp only [if_pos hallowed] at hok
    cases hok
    exact h

end Ports

/-! ## The root store -/

section RootStore

variable {paths : CreationPaths} {removal : List TreeItem}

theorem wp_removeItems {items : List TreeItem} {base : CreationWorld}
    (hI : ∀ directory : Option OperationDirectory, (∀ d ∈ directory, d.CreatedOnly) →
      I (base.withOperation paths.operationId directory))
    (hcreated : ∀ d ∈ operation, d.CreatedOnly) :
    wp (Fate.Disturbed disturbed) (removeItems paths items)
      (careful disturbed excuse I fun _ t => ∃ directory : Option OperationDirectory,
        (∀ d ∈ directory, d.CreatedOnly) ∧ t = base.withOperation paths.operationId directory)
      (base.withOperation paths.operationId operation) := by
  induction items generalizing operation with
  | nil => exact wp_pure ⟨operation, hcreated, rfl⟩
  | cons item rest ih =>
      have hremoved : ∀ d ∈ operation.map fun directory => directory.remove item,
          d.CreatedOnly := by
        intro d hd
        obtain ⟨before, hbefore, rfl⟩ := Option.map_eq_some_iff.mp hd
        exact (hcreated before hbefore).remove
      refine wp_bind (wp_attempt_careful (hI _ hcreated) nofun fun a t hok => ?_)
      cases hok
      rw [CreationPaths.operationRoot, withOperation_operations_self, withOperation_withOperation]
      exact ⟨hI _ hremoved, ih hremoved⟩

theorem wp_operationRootPresent {Q : Bool → CreationWorld → Prop} (hI : I s)
    (hQ : Q (paths.operationRoot s).isSome s) :
    wp (Fate.Disturbed disturbed) (operationRootPresent paths) (careful disturbed excuse I Q) s :=
  wp_look hI nofun fun _ h => by
    cases h
    exact hQ

/-- The candidate is discarded with the directory, unless SQLite has left something there. -/
theorem wp_discardCandidate
    (hI : ∀ directory : Option OperationDirectory, (∀ d ∈ directory, d.CreatedOnly) →
      I (s.withOperation paths.operationId directory))
    (hcreated : ∀ d ∈ paths.operationRoot s, d.CreatedOnly)
    (hexcuse : ∀ d ∈ paths.operationRoot s, d.sideFiles ≠ [] → excuse) :
    wp (Fate.Disturbed disturbed) (discardCandidate paths removal)
      (careful disturbed excuse I fun _ t => t = s.withOperation paths.operationId none ∧
        ∀ d ∈ paths.operationRoot s, d.sideFiles = []) s := by
  have hs : I s := by
    have hself := hI _ hcreated
    rwa [CreationPaths.operationRoot, withOperation_self rfl] at hself
  refine wp_mapError_careful (wp_bind (wp_operationRootPresent hs ?_))
  cases hroot : paths.operationRoot s with
  | none =>
      refine wp_pure ⟨?_, nofun⟩
      rw [withOperation_self hroot]
  | some directory =>
      have hdirectory := hcreated directory hroot
      refine wp_bind (wp_lookIf hs (fun hunsafe => ?_) fun hsafe => ?_)
      · refine hexcuse directory hroot fun hfiles => hunsafe ?_
        rw [hroot]
        exact (OperationDirectory.safePartialTree_iff hdirectory).mpr hfiles
      · have hfiles : directory.sideFiles = [] := by
          rw [hroot, Classical.not_not] at hsafe
          exact (OperationDirectory.safePartialTree_iff hdirectory).mp hsafe
        have hitems : wp (Fate.Disturbed disturbed) (removeItems paths removal)
            (careful disturbed excuse I fun _ t => ∃ directory : Option OperationDirectory,
              (∀ d ∈ directory, d.CreatedOnly) ∧ t = s.withOperation paths.operationId directory)
            (s.withOperation paths.operationId (paths.operationRoot s)) :=
          wp_removeItems hI hcreated
        rw [show s.withOperation paths.operationId (paths.operationRoot s) = s from
          withOperation_self rfl] at hitems
        refine wp_bind (hitems.mono (fun _ t ht => ?_) (fun _ _ ht => ht) fun _ ht => ht)
        obtain ⟨left, hleft, rfl⟩ := ht
        refine wp_attempt_careful (hI left hleft) nofun fun a t hok => ?_
        cases hok
        rw [withOperation_withOperation]
        refine ⟨hI none nofun, rfl, ?_⟩
        rintro d ⟨⟩
        exact hfiles

/-- What is left of the directory after a publication is empty. -/
theorem wp_cleanupPublishedOperation (hroot : paths.operationRoot s = none ∨
      paths.operationRoot s = some ⟨none⟩) (hI : I s)
    (hcleaned : I (s.withOperation paths.operationId none)) :
    wp (Fate.Disturbed disturbed) (cleanupPublishedOperation paths)
      (careful disturbed excuse I fun _ t => t = s.withOperation paths.operationId none) s := by
  refine wp_mapError_careful (wp_bind (wp_operationRootPresent hI ?_))
  rcases hroot with hroot | hroot
  · rw [hroot]
    exact wp_pure (withOperation_self hroot).symm
  · rw [hroot]
    refine wp_attempt_careful hI (fun e he => ?_) fun a t hok => ?_
    · rw [hroot] at he
      cases he
    · rw [hroot] at hok
      cases hok
      exact ⟨hcleaned, rfl⟩

end RootStore

/-! ## The recovery -/

/-- A cold recovery can go on with the workspace, or with the selection of one. -/
structure ContinuesWith (s : CreationWorld) (expectedWorkspaceId : Option WorkspaceId)
    (expected : WorkspaceRegistry) : Prop where
  valid : expected.Valid
  unchanged : s.registry.map (·.toWorkspaceRegistry) = some expected
  active : expected.activeWorkspaceId = expectedWorkspaceId
  selector : expectedWorkspaceId = none → expected.formatVersion = .v2
  root : ∀ workspaceId, expectedWorkspaceId = some workspaceId → s.workspaces workspaceId ≠ none

theorem wp_assertRegistryUnchanged {expected : Option WorkspaceRegistry} (hI : I s)
    (hgood : ¬ excuse → s.registry.map (·.toWorkspaceRegistry) = expected) :
    wp (Fate.Disturbed disturbed) (assertRegistryUnchanged expected)
      (careful disturbed excuse I fun _ t => t = s) s :=
  wp_lookIf hI (fun hchanged => by_contra fun hne => hchanged (hgood hne)) fun _ => rfl

variable {registry : Option StoredRegistry} {expected : WorkspaceRegistry}

theorem wp_assertContinuation {expectedWorkspaceId : Option WorkspaceId} (hI : I s)
    (hgood : ¬ excuse → ContinuesWith s expectedWorkspaceId expected) :
    wp (Fate.Disturbed disturbed) (assertContinuation expectedWorkspaceId expected)
      (careful disturbed excuse I fun _ t => t = s) s := by
  have hunchanged : wp (Fate.Disturbed disturbed) (assertRegistryUnchanged (some expected))
      (careful disturbed excuse I fun _ t => t = s) s :=
    wp_assertRegistryUnchanged hI fun hne => (hgood hne).unchanged
  refine wp_bind (wp_throwIf hI (fun hinvalid => by_contra fun hne => hinvalid (hgood hne).valid)
    fun _ => ?_)
  cases expectedWorkspaceId with
  | none =>
      refine wp_bind (wp_throwIf hI (fun hbad => by_contra fun hne => ?_) fun _ => hunchanged)
      have hcontinues := hgood hne
      exact hbad.elim (fun hformat => hformat (hcontinues.selector rfl))
        fun hactive => hactive hcontinues.active
  | some workspaceId =>
      refine wp_bind (wp_throwIf hI (fun hbad => by_contra fun hne => ?_) fun _ => ?_)
      · have hcontinues := hgood hne
        have hready : expected.IsReady workspaceId :=
          hcontinues.valid.active_isReady hcontinues.active
        obtain ⟨entry, hfound, hstate⟩ := hcontinues.valid.isReady_iff.mp hready
        refine hbad.elim (fun hactive => hactive hcontinues.active) fun hlifecycle => hlifecycle ?_
        rw [hfound, Option.map_some, hstate]
      · refine wp_bind (hunchanged.mono (fun _ t ht => ?_) (fun _ _ ht => ht) fun _ ht => ht)
        cases ht
        refine wp_bind (wp_lookIf hI (fun hmissing => by_contra fun hne => ?_) fun _ => hunchanged)
        exact (hgood hne).root workspaceId rfl hmissing

theorem wp_assertColdContinuation {expectedWorkspaceId : Option WorkspaceId} (hI : I s)
    (hgood : ¬ excuse → ContinuesWith s expectedWorkspaceId expected) :
    wp (Fate.Disturbed disturbed) (assertColdContinuation expectedWorkspaceId expected)
      (careful disturbed excuse I fun _ t => t = s) s := by
  refine wp_bind (wp_assertRuntimeAbsent hI (wp_bind ((wp_assertContinuation hI hgood).mono
    (fun _ t ht => ?_) (fun _ _ ht => ht) fun _ ht => ht)))
  cases ht
  exact wp_assertRuntimeAbsent hI rfl

theorem wp_completeRecovery {mode : CompletionMode} {journal : WorkspaceCreationJournal}
    {isPublished : Bool} (hI : I s) (hgood : ¬ excuse → mode = .beforeRuntimeStart → ContinuesWith s
      (if isPublished then workspaceSelectionAfterPublication expected.formatVersion
        journal.previousActiveWorkspaceId journal.workspaceId
      else journal.previousActiveWorkspaceId) expected) :
    wp (Fate.Disturbed disturbed) (completeRecovery mode journal expected isPublished)
      (careful disturbed excuse I fun _ t => t = s) s := by
  cases mode with
  | running => exact wp_ensurePreviousWorkspaceRunning hI rfl
  | beforeRuntimeStart => exact wp_assertColdContinuation hI fun hne => hgood hne rfl

/-- What a recovery needs: a cold one has a workspace to go on with, or the selection of
    one, and what has been published validates. -/
structure Recoverable (start : CreationWorld) (call : CreationCall) (recovery : RecoveryCall)
    (s : CreationWorld) : Prop where
  continues : recovery.mode = .beforeRuntimeStart → ∃ registry, start.registry = some registry ∧
    (registry.activeWorkspaceId = none → registry.formatVersion = .v2) ∧
    ∀ active, registry.activeWorkspaceId = some active → start.workspaces active ≠ none
  validates : s.workspaces call.workspaceId ≠ none → ∃ validation,
    recovery.validation = some validation ∧ validateBootstrapResult validation = .ok validation ∧
    validation.profileId = call.bootstrap.result.profileId

variable {recovery : RecoveryCall}

theorem wp_validatePublishedWorkspace {profileId : String} (hI : I s)
    (hgood : ¬ excuse → ∃ validation, recovery.validation = some validation ∧
      validateBootstrapResult validation = .ok validation ∧ validation.profileId = profileId) :
    wp (Fate.Disturbed disturbed) (validatePublishedWorkspace recovery profileId)
      (careful disturbed excuse I fun _ t => t = s) s := by
  refine wp_bind (wp_assertRuntimeAbsent hI (wp_bind (wp_mapError_careful (wp_callPort hI ?_))))
  cases hvalidation : recovery.validation with
  | none =>
      refine wp_throw ⟨hI, .inr (by_contra fun hne => ?_)⟩
      obtain ⟨validation, hsome, _⟩ := hgood hne
      rw [hvalidation] at hsome
      cases hsome
  | some given =>
      refine wp_ofExcept_careful hI (fun e he => by_contra fun hne => ?_) fun _ _ => rfl
      obtain ⟨validation, hsome, hvalid, hprofile⟩ := hgood hne
      rw [hvalidation] at hsome
      cases hsome
      rw [hvalid, ok_bind, throwIf_of_not (not_not_intro hprofile)] at he
      cases he

/-! ### What the branches of a recovery do -/

theorem journalAt_allowed {next : CreationJournalState} (h : next.index = state.index + 1) :
    (journalAt start call next).lineageValid && WorkspaceCreationJournal.transitionAllowed
      (some (journalAt start call state)) (journalAt start call next) := by
  cases state <;> cases next <;> first
    | exact absurd h (by decide)
    | simp [journalAt, journalOf, WorkspaceCreationJournal.lineageValid,
        WorkspaceCreationJournal.transitionAllowed, CreationJournalState.index]

theorem wp_settlePublishedRoot {journal : WorkspaceCreationJournal} {profileId : String}
    (hpaths : pathsOf journal = call.paths)
    (hoperation : operation = none ∨ operation = some ⟨none⟩) (hroot : root.Complete)
    (hgood : ¬ excuse → ∃ validation, recovery.validation = some validation ∧
      validateBootstrapResult validation = .ok validation ∧ validation.profileId = profileId)
    (hI : I (published start call (some journal) registry operation root))
    (hcleaned : I (published start call (some journal) registry none root)) :
    wp (Fate.Disturbed disturbed) (settlePublishedRoot recovery journal profileId)
      (careful disturbed excuse I fun _ t =>
        t = published start call (some journal) registry none root)
      (published start call (some journal) registry operation root) := by
  have hfinal : call.paths.finalRoot (published start call (some journal) registry operation root) =
      some root := Function.update_self ..
  have hremoved : (published start call (some journal) registry operation root).withOperation
      call.operationId none = published start call (some journal) registry none root := by
    simp [published, withWorkspace, withOperation]
  have hstays : call.paths.operationRoot
      (published start call (some journal) registry operation root) = operation :=
    Function.update_self ..
  unfold settlePublishedRoot
  rw [hpaths]
  refine wp_bind (wp_mapError_careful (wp_lookIf hI (fun hbad => ?_) fun _ => ?_))
  · refine absurd ?_ hbad
    rw [hfinal]
    exact WorkspaceDirectory.inspectLayout_iff.mpr hroot
  refine wp_bind ((wp_validatePublishedWorkspace hI hgood).mono (fun _ t ht => ?_)
    (fun _ _ ht => ht) fun _ ht => ht)
  cases ht
  refine wp_bind (wp_assertRuntimeAbsent hI ?_)
  have hcleanup : wp (Fate.Disturbed disturbed) (cleanupPublishedOperation call.paths)
      (careful disturbed excuse I fun _ t =>
        t = (published start call (some journal) registry operation root).withOperation
          call.paths.operationId none)
      (published start call (some journal) registry operation root) := by
    refine wp_cleanupPublishedOperation ?_ hI ?_
    · rw [hstays]
      exact hoperation
    · rw [show call.paths.operationId = call.operationId from rfl, hremoved]
      exact hcleaned
  rw [← hremoved]
  exact hcleanup

/-- The registry is one that the recovery can go on with. -/
theorem Recoverable.continuesWith_found (h : Recoverable start call recovery s)
    (hmode : recovery.mode = .beforeRuntimeStart) (hregistry : t.registry = start.registry)
    (hworkspaces : ∀ id, start.workspaces id ≠ none → t.workspaces id ≠ none) :
    ContinuesWith t (foundRegistry start).activeWorkspaceId (foundRegistry start) := by
  obtain ⟨registry, hstored, hselector, hroot⟩ := h.continues hmode
  have hfound : foundRegistry start = registry.toWorkspaceRegistry := by
    rw [foundRegistry, hstored]
    rfl
  refine ⟨valid_readWorkspaceRegistry, ?_, rfl, ?_, ?_⟩
  · rw [hregistry, hstored, hfound]
    rfl
  · rw [hfound]
    exact hselector
  · intro active hactive
    rw [hfound] at hactive
    exact hworkspaces active (hroot active hactive)

/-- And so is the one with the workspace. -/
theorem Recoverable.continuesWith_extended {registry : StoredRegistry}
    (h : Recoverable start call recovery s)
    (hmode : recovery.mode = .beforeRuntimeStart) (hextended : Extended start call registry)
    (hregistry : t.registry = some registry)
    (hworkspaces : ∀ id, start.workspaces id ≠ none → t.workspaces id ≠ none) :
    ContinuesWith t (workspaceSelectionAfterPublication registry.formatVersion
      (foundRegistry start).activeWorkspaceId call.workspaceId) registry.toWorkspaceRegistry := by
  obtain ⟨stored, hstored, hselector, hroot⟩ := h.continues hmode
  have hfound : foundRegistry start = stored.toWorkspaceRegistry := by
    rw [foundRegistry, hstored]
    rfl
  have hformat : registry.formatVersion = (foundRegistry start).formatVersion := by
    rw [show registry.formatVersion = registry.toWorkspaceRegistry.formatVersion from rfl,
      show registry.toWorkspaceRegistry = _ from hextended]
    rfl
  refine ⟨registry.valid, ?_, ?_, ?_, ?_⟩
  · rw [hregistry]
    rfl
  · rw [hformat, show registry.toWorkspaceRegistry = _ from hextended]
    rfl
  · intro hnone
    rw [show registry.toWorkspaceRegistry.formatVersion = registry.formatVersion from rfl]
    cases hversion : registry.formatVersion with
    | v2 => rfl
    | v1 =>
        rw [hversion] at hnone
        cases hnone
  · intro active hselected
    refine hworkspaces active (hroot active ?_)
    rw [← hfound]
    cases hactive : (foundRegistry start).activeWorkspaceId with
    | some previous =>
        rw [hactive] at hselected
        cases hversion : registry.formatVersion <;> rw [hversion] at hselected <;> exact hselected
    | none =>
        have hversion : registry.formatVersion = .v2 := by
          rw [hformat, hfound]
          exact hselector (by rw [← hfound]; exact hactive)
        rw [hactive, hversion] at hselected
        cases hselected

theorem workspace_published {journal : Option WorkspaceCreationJournal} :
    (published start call journal registry operation root).workspaces call.workspaceId =
      some root :=
  Function.update_self ..

theorem workspaces_published {journal : Option WorkspaceCreationJournal} {id : WorkspaceId}
    (h : start.workspaces id ≠ none) :
    (published start call journal registry operation root).workspaces id ≠ none := by
  by_cases hid : id = call.workspaceId
  · rw [hid, workspace_published]
    exact Option.some_ne_none root
  · rw [show (published start call journal registry operation root).workspaces id =
      start.workspaces id from Function.update_of_ne hid ..]
    exact h

/-- The workspace is in the registry: what is left to do is to remove the journal. -/
theorem wp_finishRegistered {registry : StoredRegistry}
    (hgood : ¬ excuse → Recoverable start call recovery s)
    (hadmitted : Admitted start call .registryPublished) (hextended : Extended start call registry)
    (hroot : root.Complete) :
    wp (Fate.Disturbed disturbed)
      (completeRecovery recovery.mode (journalAt start call .registryPublished)
          registry.toWorkspaceRegistry true >>= fun _ => removeJournal call.operationId)
      (careful disturbed excuse (Creating start call) fun _ t => Settled start call t)
      (published start call (some (journalAt start call .registryPublished)) (some registry) none
        root) := by
  have hregistered : Creating start call (published start call
      (some (journalAt start call .registryPublished)) (some registry) none root) :=
    .registered _ _ _ hadmitted (.inr rfl) hextended hroot
  have hcompleted : Settled start call (published start call none (some registry) none root) :=
    .completed _ _ hadmitted hextended hroot
  refine wp_bind ((wp_completeRecovery hregistered fun hne hmode => ?_).mono (fun _ t ht => ?_)
    (fun _ _ ht => ht) fun _ ht => ht)
  · exact (hgood hne).continuesWith_extended hmode hextended rfl fun id hid =>
      workspaces_published hid
  · cases ht
    exact wp_removeStoredJournal hregistered rfl ⟨rfl, rfl⟩ ⟨.settled hcompleted, hcompleted⟩

theorem Admitted.mono {next : CreationJournalState} (h : Admitted start call state)
    (hnext : CreationJournalState.bootstrapCompleted.index ≤ next.index →
      CreationJournalState.bootstrapCompleted.index ≤ state.index) : Admitted start call next :=
  ⟨h.id, fun hindex => h.lineage (hnext hindex)⟩

/-- The registry with the workspace can be written. -/
theorem wp_writeRegistry (start : CreationWorld) {registry : WorkspaceRegistry}
    {Q : Unit → CreationWorld → Prop} (hI : I s) (hvalid : registry.Valid)
    (hformat : registry.formatVersion = (foundRegistry start).formatVersion)
    (hstored : s.registry = start.registry)
    (h : I { s with registry := some ⟨registry, hvalid⟩ } ∧
      Q () { s with registry := some ⟨registry, hvalid⟩ }) :
    wp (Fate.Disturbed disturbed) (writeRegistry registry) (careful disturbed excuse I Q) s := by
  have hkeeps : ¬ (s.registry.map (·.formatVersion) = some .v2 ∧ registry.formatVersion = .v1) := by
    rintro ⟨hbefore, hafter⟩
    rw [hformat, foundRegistry, ← hstored] at hafter
    cases hregistry : s.registry with
    | none =>
        rw [hregistry] at hbefore
        cases hbefore
    | some before =>
        rw [hregistry] at hbefore hafter
        have hsecond : before.formatVersion = .v2 := Option.some.inj hbefore
        rw [show (readWorkspaceRegistry ((some before).map (·.toWorkspaceRegistry))).formatVersion =
          before.formatVersion from rfl, hsecond] at hafter
        cases hafter
  refine wp_mapError_careful (wp_attempt_careful hI (fun e he => ?_) fun a t hok => ?_)
  · rw [dif_pos hvalid, if_neg hkeeps] at he
    cases he
  · rw [dif_pos hvalid, if_neg hkeeps] at hok
    cases hok
    exact h

theorem valid_extended (h : Admitted start call .registryPublished) :
    ((foundRegistry start).extendedWith (entryOf call call.bootstrap.result.profileId)).Valid :=
  valid_readWorkspaceRegistry.extendedWith h.id (h.lineage (by decide)) rfl

theorem recoveredRegistry_eq (h : Admitted start call .registryPublished) :
    recoveredRegistry (foundRegistry start) (journalAt start call .rootPublished)
        call.bootstrap.result.profileId =
      .ok ((foundRegistry start).extendedWith (entryOf call call.bootstrap.result.profileId)) := by
  have hid : assertWorkspaceIdAvailable (foundRegistry start) call.workspaceId = .ok () := by
    rw [assertWorkspaceIdAvailable, assertWorkspaceIdAvailable_eq_ok.mpr h.id]
    rfl
  have happend : (foundRegistry start).appendRecoveredWorkspaceEntry
      (entryOf call call.bootstrap.result.profileId) = .ok _ :=
    appendRecoveredWorkspaceEntry_eq_ok.mpr ⟨h.id, h.lineage (by decide), rfl⟩
  show (assertWorkspaceIdAvailable (foundRegistry start) call.workspaceId >>= fun _ =>
    ((foundRegistry start).appendRecoveredWorkspaceEntry
      (entryOf call call.bootstrap.result.profileId)).mapError fun _ => CreationError.other) = _
  rw [hid, happend]
  rfl

/-- The journal goes from `candidateValidated` to `rootPublished`, unless it is there. -/
theorem wp_advance_rootPublished (hadmitted : Admitted start call .rootPublished)
    (hstate : state = .candidateValidated ∨ state = .rootPublished) (hroot : root.Complete) :
    wp (Fate.Disturbed disturbed)
      (advanceFrom (journalAt start call state) .candidateValidated .rootPublished)
      (careful disturbed excuse (Creating start call) fun current t =>
        current = journalAt start call .rootPublished ∧
          t = published start call (some (journalAt start call .rootPublished)) start.registry none
            root)
      (published start call (some (journalAt start call state)) start.registry none root) := by
  rcases hstate with rfl | rfl
  · have hcreating : ∀ state : CreationJournalState,
        state = .candidateValidated ∨ state = .rootPublished → Creating start call
          (published start call (some (journalAt start call state)) start.registry none root) :=
      fun state hstate => .rootPublished state none root hadmitted hstate (.inl rfl) hroot
    exact wp_bind (wp_writeStoredJournal (hcreating _ (.inl rfl)) (journalAt_allowed rfl)
      ⟨hcreating _ (.inr rfl), wp_pure ⟨rfl, rfl⟩⟩)
  · exact wp_pure ⟨rfl, rfl⟩

theorem wp_assertSnapshotUnchanged {mode : CompletionMode} (hI : I s) :
    wp (Fate.Disturbed disturbed)
      (assertSnapshotUnchanged mode (s.registry.map (·.toWorkspaceRegistry)))
      (careful disturbed excuse I fun _ t => t = s) s := by
  cases mode with
  | running => exact wp_pure rfl
  | beforeRuntimeStart => exact wp_assertRegistryUnchanged hI fun _ => rfl

section

variable (hgood : ¬ excuse → Recoverable start call recovery s)
include hgood

/-- The workspace is entered in the registry, and what is left to do is done. -/
theorem wp_enterRegistry (hadmitted : Admitted start call .registryPublished)
    (hroot : root.Complete) (expected : StoredRegistry) (hextended : Extended start call expected)
    (hpublished : Creating start call (published start call
      (some (journalAt start call .rootPublished)) start.registry none root)) :
    wp (Fate.Disturbed disturbed)
      (writeRegistry expected.toWorkspaceRegistry >>= fun _ =>
        advance (journalAt start call .rootPublished) .registryPublished >>= fun current =>
          completeRecovery recovery.mode current expected.toWorkspaceRegistry true >>= fun _ =>
            removeJournal current.operationId)
      (careful disturbed excuse (Creating start call) fun _ t => Settled start call t)
      (published start call (some (journalAt start call .rootPublished)) start.registry none
        root) := by
  have hregistered : ∀ state : CreationJournalState,
      state = .rootPublished ∨ state = .registryPublished → Creating start call
        (published start call (some (journalAt start call state)) (some expected) none root) :=
    fun state hstate => .registered state _ root hadmitted hstate hextended hroot
  have hformat : expected.toWorkspaceRegistry.formatVersion =
      (foundRegistry start).formatVersion := by
    rw [show expected.toWorkspaceRegistry = _ from hextended]
    rfl
  refine wp_bind (wp_writeRegistry start hpublished expected.valid hformat rfl
    ⟨hregistered _ (.inl rfl), ?_⟩)
  refine wp_bind (wp_bind (wp_writeStoredJournal (hregistered _ (.inl rfl)) (journalAt_allowed rfl)
    ⟨hregistered _ (.inr rfl), wp_pure ?_⟩))
  exact wp_finishRegistered hgood hadmitted hextended hroot

theorem wp_enterPublishedRoot (hadmitted : Admitted start call .rootPublished)
    (hstate : state = .candidateValidated ∨ state = .rootPublished) (hroot : root.Complete) :
    wp (Fate.Disturbed disturbed)
      (enterPublishedRoot recovery (journalAt start call state)
        (start.registry.map (·.toWorkspaceRegistry)) call.bootstrap.result.profileId)
      (careful disturbed excuse (Creating start call) fun _ t => Settled start call t)
      (published start call (some (journalAt start call state)) start.registry none root) := by
  have hadmitted' : Admitted start call .registryPublished := hadmitted.mono fun _ => by decide
  have hpublished : Creating start call (published start call
      (some (journalAt start call .rootPublished)) start.registry none root) :=
    .rootPublished _ _ _ hadmitted (.inr rfl) (.inl rfl) hroot
  have hrecovered := recoveredRegistry_eq hadmitted'
  refine wp_bind ((wp_advance_rootPublished hadmitted hstate hroot).mono (fun current t ht => ?_)
    (fun _ _ ht => ht) fun _ ht => ht)
  obtain ⟨rfl, rfl⟩ := ht
  refine wp_bind (wp_ofExcept_careful hpublished (fun e he => ?_) fun expected hexpected => ?_)
  · rw [← foundRegistry, hrecovered] at he
    cases he
  rw [← foundRegistry, hrecovered] at hexpected
  refine wp_bind ((wp_assertSnapshotUnchanged hpublished).mono (fun _ t ht => ?_)
    (fun _ _ ht => ht) fun _ ht => ht)
  rw [ht, ← Except.ok.inj hexpected]
  exact wp_enterRegistry hgood hadmitted' hroot ⟨_, valid_extended hadmitted'⟩ rfl hpublished

theorem wp_completeFromPublishedRoot (hworkspace : s.workspaces call.workspaceId ≠ none)
    (hadmitted : Admitted start call .rootPublished)
    (hstate : state = .candidateValidated ∨ state = .rootPublished)
    (hoperation : operation = none ∨ operation = some ⟨none⟩) (hroot : root.Complete) :
    wp (Fate.Disturbed disturbed)
      (completeFromPublishedRoot recovery (journalAt start call state)
        (start.registry.map (·.toWorkspaceRegistry)))
      (careful disturbed excuse (Creating start call) fun _ t => Settled start call t)
      (published start call (some (journalAt start call state)) start.registry operation root) := by
  have hcreating : ∀ left : Option OperationDirectory, left = none ∨ left = some ⟨none⟩ →
      Creating start call (published start call (some (journalAt start call state)) start.registry
        left root) :=
    fun left hleft => .rootPublished state left root hadmitted hstate hleft hroot
  have hprofile : (journalAt start call state).profileId =
      some call.bootstrap.result.profileId := by
    rcases hstate with rfl | rfl <;> rfl
  have hnot : ¬ ((journalAt start call state).state ≠ .candidateValidated ∧
      (journalAt start call state).state ≠ .rootPublished) :=
    fun hboth => hstate.elim hboth.1 hboth.2
  unfold completeFromPublishedRoot
  rw [hprofile]
  dsimp only
  rw [if_neg hnot]
  refine wp_bind (wp_ofExcept_careful (hcreating _ hoperation) (fun e he => ?_) fun _ _ => ?_)
  · have hlineage : assertLineageAvailable (foundRegistry start)
        call.bootstrap.result.profileId = .ok () := by
      rw [assertLineageAvailable, assertWorkspaceLineageAvailable_eq_ok.mpr
        (hadmitted.lineage (by decide))]
      rfl
    have hprevious : assertRegistryStillAtPreviousActive (foundRegistry start)
        (journalAt start call state).previousActiveWorkspaceId = .ok () :=
      throwIf_of_not (not_not_intro rfl)
    rw [show readWorkspaceRegistry (start.registry.map (·.toWorkspaceRegistry)) =
      foundRegistry start from rfl, hprevious, ok_bind, hlineage] at he
    cases he
  refine wp_bind ((wp_settlePublishedRoot rfl hoperation hroot
    (fun hne => (hgood hne).validates hworkspace) (hcreating _ hoperation)
    (hcreating _ (.inl rfl))).mono (fun _ t ht => ?_) (fun _ _ ht => ht) fun _ ht => ht)
  cases ht
  exact wp_enterPublishedRoot hgood hadmitted hstate hroot

theorem wp_completeFromPublishedRegistry {registry : StoredRegistry}
    (hworkspace : s.workspaces call.workspaceId ≠ none)
    (hadmitted : Admitted start call .registryPublished)
    (hstate : state = .rootPublished ∨ state = .registryPublished)
    (hextended : Extended start call registry) (hroot : root.Complete) :
    wp (Fate.Disturbed disturbed)
      (completeFromPublishedRegistry recovery (journalAt start call state)
        registry.toWorkspaceRegistry (entryOf call call.bootstrap.result.profileId) ⟨false, true⟩)
      (careful disturbed excuse (Creating start call) fun _ t => Settled start call t)
      (published start call (some (journalAt start call state)) (some registry) none root) := by
  have hregistered : ∀ state : CreationJournalState,
      state = .rootPublished ∨ state = .registryPublished → Creating start call
        (published start call (some (journalAt start call state)) (some registry) none root) :=
    fun state hstate => .registered state _ root hadmitted hstate hextended hroot
  have hprofile : (journalAt start call state).profileId =
      some call.bootstrap.result.profileId := by
    rcases hstate with rfl | rfl <;> rfl
  have hmatches : EntryMatches registry.toWorkspaceRegistry
      (entryOf call call.bootstrap.result.profileId) (journalAt start call state)
      call.bootstrap.result.profileId := by
    refine ⟨?_, rfl, rfl, rfl, rfl, ?_⟩
    · rcases hstate with rfl | rfl <;> rfl
    · rw [show registry.toWorkspaceRegistry = _ from hextended]
      rfl
  unfold completeFromPublishedRegistry
  rw [hprofile]
  dsimp only
  rw [if_neg (by simp [hmatches])]
  refine wp_bind ((wp_settlePublishedRoot rfl (.inl rfl) hroot
    (fun hne => (hgood hne).validates hworkspace) (hregistered _ hstate)
    (hregistered _ hstate)).mono (fun _ t ht => ?_) (fun _ _ ht => ht) fun _ ht => ht)
  cases ht
  have hfinish : wp (Fate.Disturbed disturbed) _ _ _ :=
    wp_finishRegistered hgood hadmitted hextended hroot
  rcases hstate with rfl | rfl
  · exact wp_bind (wp_bind (wp_writeStoredJournal (hregistered _ (.inl rfl))
      (journalAt_allowed rfl) ⟨hregistered _ (.inr rfl), wp_pure hfinish⟩))
  · exact wp_bind (wp_pure hfinish)

end

/-- SQLite has left something in the directory of the operation. -/
def LeavesSideFile (call : CreationCall) (s : CreationWorld) : Prop :=
  ∃ directory ∈ s.operations call.operationId, directory.sideFiles ≠ []

theorem isDiscardable_of_index (h : state.index < CreationJournalState.rootPublished.index) :
    (!(decide (state = .rootPublished) || decide (state = .registryPublished))) = true := by
  revert h
  cases state <;> decide

/-- An unpublished candidate is removed. -/
theorem wp_discardUnpublished (hfresh : Fresh start call)
    (hgood : ¬ excuse → Recoverable start call recovery s)
    (hexcuse : ∀ directory ∈ operation, directory.sideFiles ≠ [] → excuse)
    (hadmitted : Admitted start call state)
    (hstate : state.index < CreationJournalState.rootPublished.index)
    (hcreated : ∀ directory ∈ operation, directory.CreatedOnly) :
    wp (Fate.Disturbed disturbed)
      (discardUnpublished recovery (journalAt start call state) (foundRegistry start))
      (careful disturbed excuse (Creating start call) fun _ t => Settled start call t ∧
        ∀ directory ∈ operation, directory.sideFiles = [])
      (unpublished start call state operation) := by
  have hunpublished : ∀ left : Option OperationDirectory,
      (∀ directory ∈ left, directory.CreatedOnly) →
        Creating start call (unpublished start call state left) :=
    fun left hleft => .unpublished state left hadmitted hstate hleft
  have hbegin : wp (Fate.Disturbed disturbed)
      (beginDiscard recovery.mode (journalAt start call state) (foundRegistry start))
      (careful disturbed excuse (Creating start call) fun _ t =>
        t = unpublished start call state operation)
      (unpublished start call state operation) := by
    cases hmode : recovery.mode with
    | running => exact wp_pure rfl
    | beforeRuntimeStart =>
        exact wp_assertColdContinuation (hunpublished _ hcreated) fun hne =>
          (hgood hne).continuesWith_found hmode rfl fun _ hid => hid
  refine wp_bind (hbegin.mono (fun _ t ht => ?_) (fun _ _ ht => ht) fun _ ht => ht)
  cases ht
  have hdiscard : wp (Fate.Disturbed disturbed) (discardCandidate call.paths recovery.removal)
      (careful disturbed excuse (Creating start call) fun _ t =>
        t = (unpublished start call state operation).withOperation call.operationId none ∧
          ∀ directory ∈ operation, directory.sideFiles = [])
      (unpublished start call state operation) := by
    have hroot : call.paths.operationRoot (unpublished start call state operation) = operation :=
      operationRoot_unpublished
    refine (wp_discardCandidate (fun left hleft => ?_) ?_ ?_).mono (fun _ t ht => ?_)
      (fun _ _ ht => ht) fun _ ht => ht
    rotate_left
    · rw [hroot]
      exact hcreated
    · rw [hroot]
      exact hexcuse
    · rwa [hroot] at ht
    have hwith : (unpublished start call state operation).withOperation call.paths.operationId
        left = unpublished start call state left := by
      simp [unpublished, withOperation, CreationCall.paths]
    rw [hwith]
    exact hunpublished left hleft
  refine wp_bind (hdiscard.mono (fun _ t ht => ?_) (fun _ _ ht => ht) fun _ ht => ht)
  obtain ⟨rfl, hfiles⟩ := ht
  rw [unpublished_withOperation]
  refine wp_bind ((wp_completeRecovery (hunpublished none nofun) fun hne hmode => ?_).mono
    (fun _ t ht => ?_) (fun _ _ ht => ht) fun _ ht => ht)
  · exact (hgood hne).continuesWith_found hmode rfl fun _ hid => hid
  cases ht
  refine wp_removeStoredJournal (hunpublished none nofun) rfl
    ⟨rfl, isDiscardable_of_index hstate⟩ ?_
  · rw [hfresh.unpublished_discarded]
    exact ⟨.settled .discarded, .discarded, hfiles⟩

theorem Creating.notSideFile_published {journal : Option WorkspaceCreationJournal}
    (hoperation : operation = none ∨ operation = some ⟨none⟩) :
    ¬ LeavesSideFile call (published start call journal registry operation root) := by
  rintro ⟨directory, hdirectory, hfiles⟩
  have hroot : (published start call journal registry operation root).operations
      call.operationId = operation := Function.update_self ..
  rw [hroot] at hdirectory
  rcases hoperation with rfl | rfl
  · cases hdirectory
  · cases hdirectory
    exact hfiles rfl

theorem Settled.notSideFile (hfresh : Fresh start call) (h : Settled start call s) :
    ¬ LeavesSideFile call s := by
  cases h with
  | discarded =>
      rintro ⟨directory, hdirectory, _⟩
      rw [hfresh.operation] at hdirectory
      cases hdirectory
  | completed => exact Creating.notSideFile_published (.inl rfl)

theorem Settled.journal (hfresh : Fresh start call) (h : Settled start call s) :
    s.journal = none := by
  cases h with
  | discarded => exact hfresh.journal
  | completed => rfl

theorem wp_readPresence {paths : CreationPaths} {Q : RootPresence → CreationWorld → Prop}
    (hI : I s) (hQ : Q ⟨(paths.candidateRoot s).isSome, (paths.finalRoot s).isSome⟩ s) :
    wp (Fate.Disturbed disturbed) (readPresence paths) (careful disturbed excuse I Q) s :=
  wp_mapError_careful (wp_look hI nofun fun _ h => by
    cases h
    exact hQ)

theorem foundRegistry_find (h : Admitted start call state) :
    (foundRegistry start).find call.workspaceId = none :=
  find_eq_none h.id

/-- What the directories say, once the candidate is at its place. -/
theorem presence_published {journal : Option WorkspaceCreationJournal}
    (hoperation : operation = none ∨ operation = some ⟨none⟩) :
    (⟨(call.paths.candidateRoot (published start call journal registry operation root)).isSome,
      (call.paths.finalRoot (published start call journal registry operation root)).isSome⟩ :
      RootPresence) = ⟨false, true⟩ := by
  have hfinal : call.paths.finalRoot (published start call journal registry operation root) =
      some root := Function.update_self ..
  have hstays : call.paths.operationRoot (published start call journal registry operation root) =
      operation := Function.update_self ..
  rw [hfinal, CreationPaths.candidateRoot, hstays]
  rcases hoperation with rfl | rfl <;> rfl

section

variable (hfresh : Fresh start call) (h : Creating start call s)
include hfresh h

/-- The recovery from a journal settles the creation. -/
theorem wp_recoverPresent {journal : WorkspaceCreationJournal} (hjournal : s.journal = some journal)
    (hgood : ¬ excuse → Recoverable start call recovery s)
    (hexcuse : LeavesSideFile call s → excuse) : wp (Fate.Disturbed disturbed)
      (recoverPresent recovery journal (s.registry.map (·.toWorkspaceRegistry))
        ⟨(call.paths.candidateRoot s).isSome, (call.paths.finalRoot s).isSome⟩)
      (careful disturbed excuse (Creating start call) fun _ t =>
        Settled start call t ∧ ¬ LeavesSideFile call s) s := by
  cases h with
  | settled h =>
      rw [h.journal hfresh] at hjournal
      cases hjournal
  | unpublished state operation hadmitted hstate hcreated =>
      cases hjournal
      have hroot : call.paths.operationRoot (unpublished start call state operation) = operation :=
        operationRoot_unpublished
      have hfinal : call.paths.finalRoot (unpublished start call state operation) = none :=
        hfresh.workspace
      have hbefore : ¬ (journalAt start call state).isAtOrAfter .rootPublished := fun hafter =>
        Nat.not_le.mpr hstate (of_decide_eq_true hafter)
      have hdiscard : wp (Fate.Disturbed disturbed)
          (discardUnpublished recovery (journalAt start call state) (foundRegistry start))
          (careful disturbed excuse (Creating start call) fun _ t => Settled start call t ∧
            ∀ directory ∈ operation, directory.sideFiles = [])
          (unpublished start call state operation) :=
        wp_discardUnpublished hfresh hgood
          (fun directory hdirectory hfiles => hexcuse ⟨directory, by
            rw [show (unpublished start call state operation).operations call.operationId =
              operation from hroot]
            exact hdirectory, hfiles⟩) hadmitted hstate hcreated
      unfold recoverPresent
      rw [show readWorkspaceRegistry ((unpublished start call state operation).registry.map
        (·.toWorkspaceRegistry)) = foundRegistry start from rfl, hfinal]
      dsimp only
      rw [show (journalAt start call state).workspaceId = call.workspaceId from rfl,
        foundRegistry_find hadmitted, Option.isSome_none, Bool.and_false, if_neg Bool.false_ne_true]
      dsimp only
      rw [if_neg Bool.false_ne_true, if_neg hbefore]
      refine wp_bind (hdiscard.mono (fun _ t ht => wp_pure ⟨ht.1, ?_⟩) (fun _ _ ht => ht)
        fun _ ht => ht)
      rintro ⟨directory, hdirectory, hfiles⟩
      rw [show (unpublished start call state operation).operations call.operationId =
        operation from hroot] at hdirectory
      exact hfiles (ht.2 directory hdirectory)
  | rootPublished state operation root hadmitted hstate hoperation hroot =>
      cases hjournal
      have hworkspace : (published start call (some (journalAt start call state)) start.registry
          operation root).workspaces call.workspaceId ≠ none := by
        rw [workspace_published]
        exact Option.some_ne_none root
      have hcomplete : wp (Fate.Disturbed disturbed) _ _ _ :=
        wp_completeFromPublishedRoot hgood hworkspace hadmitted hstate hoperation hroot
      rw [presence_published hoperation]
      unfold recoverPresent
      rw [show readWorkspaceRegistry ((published start call (some (journalAt start call state))
        start.registry operation root).registry.map (·.toWorkspaceRegistry)) =
          foundRegistry start from rfl]
      dsimp only
      rw [show (journalAt start call state).workspaceId = call.workspaceId from rfl,
        foundRegistry_find hadmitted, Bool.false_and, if_neg Bool.false_ne_true]
      dsimp only
      rw [if_pos rfl]
      exact wp_bind (hcomplete.mono (fun _ t ht => wp_pure
        ⟨ht, Creating.notSideFile_published hoperation⟩) (fun _ _ ht => ht) fun _ ht => ht)
  | registered state registry root hadmitted hstate hextended hroot =>
      cases hjournal
      have hworkspace : (published start call (some (journalAt start call state)) (some registry)
          none root).workspaces call.workspaceId ≠ none := by
        rw [workspace_published]
        exact Option.some_ne_none root
      have hcomplete : wp (Fate.Disturbed disturbed) _ _ _ :=
        wp_completeFromPublishedRegistry hgood hworkspace hadmitted hstate hextended hroot
      have hfind : registry.toWorkspaceRegistry.find call.workspaceId =
          some (entryOf call call.bootstrap.result.profileId) := by
        rw [show registry.toWorkspaceRegistry = _ from hextended]
        exact find_extendedWith hadmitted.id
      rw [presence_published (.inl rfl)]
      unfold recoverPresent
      rw [show readWorkspaceRegistry ((published start call (some (journalAt start call state))
        (some registry) none root).registry.map (·.toWorkspaceRegistry)) =
          registry.toWorkspaceRegistry from rfl]
      dsimp only
      rw [show (journalAt start call state).workspaceId = call.workspaceId from rfl, hfind,
        Bool.false_and, if_neg Bool.false_ne_true]
      exact wp_bind (hcomplete.mono (fun _ t ht => wp_pure
        ⟨ht, Creating.notSideFile_published (.inl rfl)⟩) (fun _ _ ht => ht) fun _ ht => ht)

/-- What a journal of the creation says of itself, and of the registry. -/
theorem Creating.ofJournal {journal : WorkspaceCreationJournal}
    (hjournal : s.journal = some journal) :
    journal.formatVersion = .v2 ∧ pathsOf journal = call.paths ∧
      (start.registry ≠ none → s.registry ≠ none) := by
  cases h with
  | settled h =>
      rw [h.journal hfresh] at hjournal
      cases hjournal
  | unpublished | rootPublished =>
      cases hjournal
      exact ⟨rfl, rfl, id⟩
  | registered =>
      cases hjournal
      exact ⟨rfl, rfl, fun _ => Option.some_ne_none _⟩

/-- The recovery of a journal that is there. -/
theorem wp_recoverJournal {journal : WorkspaceCreationJournal} (hjournal : s.journal = some journal)
    (hgood : ¬ excuse → Recoverable start call recovery s)
    (hexcuse : LeavesSideFile call s → excuse) :
    wp (Fate.Disturbed disturbed) (recoverJournal recovery journal)
      (careful disturbed excuse (Creating start call) fun _ t =>
        Settled start call t ∧ ¬ LeavesSideFile call s) s := by
  obtain ⟨hformat, hpaths, hregistry⟩ := h.ofJournal hfresh hjournal
  unfold recoverJournal
  rw [if_neg fun hboth => hboth.2 hformat]
  refine wp_bind (wp_readRegistry h ?_)
  by_cases hmissing : recovery.mode = .beforeRuntimeStart ∧
      s.registry.map (·.toWorkspaceRegistry) = none
  · rw [if_pos hmissing]
    refine wp_throw ⟨h, .inr (by_contra fun hne => ?_)⟩
    obtain ⟨registry, hstored, _⟩ := (hgood hne).continues hmissing.1
    exact hregistry (by rw [hstored]; exact Option.some_ne_none registry)
      (Option.map_eq_none_iff.mp hmissing.2)
  · rw [if_neg hmissing, hpaths]
    exact wp_bind (wp_readPresence h (wp_recoverPresent hfresh h hjournal hgood hexcuse))

/-- **THE RECOVERY** keeps to the states of a creation.  If it returns, all is done and
    nothing of SQLite was in the way; and nothing else makes it throw. -/
theorem wp_recover (hgood : ¬ excuse → Recoverable start call recovery s)
    (hexcuse : LeavesSideFile call s → excuse) : wp (Fate.Disturbed disturbed) (recover recovery)
      (careful disturbed excuse (Creating start call) fun _ t =>
        Settled start call t ∧ ¬ LeavesSideFile call s) s := by
  have hadmission : wp (Fate.Disturbed disturbed) (admitRecovery recovery.mode)
      (careful disturbed excuse (Creating start call) fun _ t => t = s) s := by
    cases recovery.mode with
    | running => exact wp_pure rfl
    | beforeRuntimeStart => exact wp_bind (wp_assertRuntimeAbsent h (wp_callPort h rfl))
  have hperform : wp (Fate.Disturbed disturbed) (performRecovery recovery)
      (careful disturbed excuse (Creating start call) fun _ t =>
        Settled start call t ∧ ¬ LeavesSideFile call s) s := by
    refine wp_bind (hadmission.mono (fun _ t ht => ?_) (fun _ _ ht => ht) fun _ ht => ht)
    cases ht
    refine wp_bind (wp_mapError_careful (wp_readStoredJournal h ?_))
    cases hjournal : s.journal with
    | some journal => exact wp_recoverJournal hfresh h hjournal hgood hexcuse
    | none =>
        cases h with
        | settled h => exact wp_pure ⟨h, h.notSideFile hfresh⟩
        | unpublished | rootPublished | registered => cases hjournal
  refine wp_bind (wp_mapError_careful (wp_callPort h ?_))
  exact wp_andFinally_careful (wp_mapError_careful hperform) (fun _ ht => wp_releaseLease ht)
    fun _ _ ht => .settled ht.1

end

end EmptyWorkspaceCreation
