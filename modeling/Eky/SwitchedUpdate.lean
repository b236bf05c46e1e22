import Eky.MigrationHistory
import Eky.SwitchHistory

/-! # A switch and an update that are pending together

    `startDesktopComposition` of `desktopComposition.ts`, for the first start of a newer
    build while a switch has not been validated, when the backend does not become
    ready: the switch goes back to its source, and the application is relaunched.
    Whether the next start gets past its recovery depends on the journal of the
    update's own migration, which holds digests of the registry that the switch
    rewrites. -/

/-- The stores of the switch and of the migration; the registry belongs to both. -/
structure StartupWorld (Digest : Type) where
  registry : Option StoredRegistry
  switchJournal : Option WorkspaceSwitchJournal
  acceptedWorkspaces : List (WorkspaceId × String)
  migrationJournal : Option (WorkspaceMigration.MigrationJournal Digest)
  acceptedBuild : Option VersionedAcceptedBuildMetadata
  acceptedBy : Option WorkspaceMigrationInventory

namespace StartupWorld

variable {Digest : Type}

/-- The part that the switch works on. -/
def switching (world : StartupWorld Digest) : SwitchWorld :=
  ⟨world.registry, world.switchJournal, world.acceptedWorkspaces⟩

/-- The world after a change by the switch. -/
def withSwitching (part : SwitchWorld) (world : StartupWorld Digest) : StartupWorld Digest :=
  { world with
    registry := part.registry
    switchJournal := part.journal
    acceptedWorkspaces := part.accepted }

/-- The part that the migration works on. -/
def migrating (world : StartupWorld Digest) : MigrationWorld Digest :=
  ⟨world.registry, world.migrationJournal, world.acceptedBuild, world.acceptedBy⟩

/-- The world after a change by the migration. -/
def withMigrating (part : MigrationWorld Digest) (world : StartupWorld Digest) :
    StartupWorld Digest :=
  { world with
    registry := part.registry
    migrationJournal := part.journal
    acceptedBuild := part.accepted
    acceptedBy := part.acceptedBy }

end StartupWorld

/-- The errors of both parts. -/
inductive StartupFailure
  | migration (failure : MigrationFailure)
  | workspace (failure : SwitchFailure)
  deriving DecidableEq

/-- A program over both parts. -/
abbrev StartupProgram (Digest α : Type) : Type :=
  Program (StartupWorld Digest) Fate StartupFailure α

namespace WorkspaceStartup

open Program WorkspaceMigration

variable {Digest α : Type}

/-- A program of the migration. -/
def inMigration (m : MigrationProgram Digest α) : StartupProgram Digest α :=
  zoom StartupWorld.migrating StartupWorld.withMigrating (mapError .migration m)

/-- A program of the switch. -/
def inSwitch (m : SwitchProgram α) : StartupProgram Digest α :=
  zoom StartupWorld.switching StartupWorld.withSwitching (mapError .workspace m)

section Start

variable [DecidableEq Digest] (registrySha256 : WorkspaceRegistry → Digest)

/-- The recovery, and then the workspace that is offered. -/
def resolveWorkspace (input : StartInput) :
    StartupProgram Digest
      (Option (MigrationJournal Digest) × WorkspaceSwitch.WorkspaceSwitchStartupSelection) := do
  let recovered ← inMigration
    (recoverBeforeWorkspaceResolution registrySha256 input)
  let selection ← inSwitch WorkspaceSwitch.resolveWorkspaceSwitchStartup
  pure (recovered.2, selection)

/-- A start whose backend does not become ready, with what comes of it. -/
def failingStart (input : StartInput) :
    StartupProgram Digest WorkspaceSwitch.WorkspaceSwitchFailureRecoveryOutcome := do
  let resolved ← resolveWorkspace registrySha256 input
  let _ ← inMigration
    (prepareBeforeBackend registrySha256 input resolved.1)
  inSwitch (WorkspaceSwitch.recoverFromFailure resolved.2)

end Start

/-! ## What is pending -/

section Pending

variable [DecidableEq Digest] (sha256 : WorkspaceRegistry → Digest)

/-- The migration of this registry was announced by an earlier start. -/
def Announced (world : MigrationWorld Digest) : Prop :=
  ∃ journal registry, world.journal = some journal ∧ journal.state = .prepared ∧
    classifyAcceptedBuild world.accepted journal = .source ∧
    registryOf world = some registry ∧ sha256 registry = journal.sourceRegistrySha256

/-- The registry without the marks of a transition whose target was not accepted. -/
def recoveredRegistry (world : MigrationWorld Digest) (registry : WorkspaceRegistry) :
    WorkspaceRegistry :=
  match world.journal with
  | none => registry
  | some journal =>
    if classifyAcceptedBuild world.accepted journal = .source ∧
        sha256 registry = journal.transitionedRegistrySha256 then
      withLifecycle registry journal.passiveRecoveryWorkspaceIds .ready
    else registry

/-- The plan that a start makes for the registry. -/
def startPlan (input : StartInput) (accepted : Option VersionedAcceptedBuildMetadata)
    (registry : WorkspaceRegistry) :
    Except MigrationFailure WorkspaceFirstStartMigrationPlan :=
  match accepted, input.inventory with
  | some accepted, some inventory =>
    resolveWorkspaceFirstStartMigrationPlan input.admission (some inventory) registry
      (some accepted.readAcceptedBusinessBaseline.toBuildVersion) input.runningBuild
  | _, _ => .error .failed

/-- There is nothing to migrate: no migration was announced, and none is planned. -/
structure NothingToMigrate (input : StartInput) (world : MigrationWorld Digest) : Prop where
  notAnnounced : ¬ Announced sha256 world
  notPlanned : ∀ registry plan, registryOf world = some registry →
    startPlan input world.accepted (recoveredRegistry sha256 world registry) = .ok plan →
    plan.kind = .notRequired

end Pending

variable {state : MigrationJournalState}

/-! ## What the recovery leaves

    Only what a part returns matters here: a part that throws ends the start before
    the switch is taken back. -/

section Recovery

variable [DecidableEq Digest] {sha256 : WorkspaceRegistry → Digest}
  {world t : MigrationWorld Digest} {journal : MigrationJournal Digest}
  {registry : WorkspaceRegistry} {input : StartInput} {running : BuildVersion}

omit [DecidableEq Digest] in
theorem wp_observed {f : MigrationWorld Digest → α} {Q : α → MigrationWorld Digest → Prop}
    (h : Q (f world) world) :
    wp AnyFate (attempt MigrationFailure.other fun world => .ok (f world, world)) (.partially Q)
      world := by
  refine wp_attempt_partially fun a t hread => ?_
  cases hread
  exact h

omit [DecidableEq Digest] in
theorem wp_removed {operationId : String} : wp AnyFate (removeMatching operationId state)
      (.partially fun _ t => t = { world with journal := none }) world := by
  refine wp_attempt_partially fun a t hremove => ?_
  cases hjournal : world.journal with
  | none => simp [hjournal] at hremove
  | some journal =>
      simp only [hjournal] at hremove
      split at hremove
      · cases hremove
        rfl
      · cases hremove

/-- The migration is not announced any more, and the registry has lost its marks. -/
structure Cleared (sha256 : WorkspaceRegistry → Digest) (world t : MigrationWorld Digest) :
    Prop where
  journal : t.journal = none
  accepted : t.accepted = world.accepted
  registry : registryOf t = (registryOf world).map (recoveredRegistry sha256 world)

/-- What the recovery of a journal may return. -/
def RecoversTo (sha256 : WorkspaceRegistry → Digest) (world : MigrationWorld Digest)
    (kind : MigrationRecoveryKind) (t : MigrationWorld Digest) : Prop :=
  match kind with
  | .noJournal | .recoveryRequired => True
  | .resumable => t = world ∧ Announced sha256 world
  | .recoveredSource | .acceptedTarget => ¬ Announced sha256 world ∧ Cleared sha256 world t

theorem recoveredRegistry_of_not (hjournal : world.journal = some journal)
    (hnot : ¬ (classifyAcceptedBuild world.accepted journal = .source ∧
      sha256 registry = journal.transitionedRegistrySha256)) :
    recoveredRegistry sha256 world registry = registry := by
  rw [recoveredRegistry, hjournal]
  exact if_neg hnot

/-- The registry is restored, and then the journal is removed. -/
theorem wp_restored (hinjective : Function.Injective sha256)
    (hjournal : world.journal = some journal) (hregistry : registryOf world = some registry)
    (hside : classifyAcceptedBuild world.accepted journal = .source)
    (hdigest : sha256 registry = journal.transitionedRegistrySha256) : wp AnyFate (do
        restoreSourceRegistry sha256 registry journal
        removeMatching journal.operationId state
        pure MigrationRecoveryKind.recoveredSource)
      (.partially fun kind t => kind = .recoveredSource ∧ Cleared sha256 world t) world := by
  have hrecovered : recoveredRegistry sha256 world registry =
      withLifecycle registry journal.passiveRecoveryWorkspaceIds .ready := by
    rw [recoveredRegistry, hjournal]
    exact if_pos ⟨hside, hdigest⟩
  have hrestored : ∀ restored, restoreJournaledPassiveWorkspacesReady sha256 registry
      journal.activeWorkspaceId journal.passiveRecoveryWorkspaceIds journal.sourceRegistrySha256
      journal.transitionedRegistrySha256 = .ok restored →
      restored = recoveredRegistry sha256 world registry ∧
        sha256 restored = journal.sourceRegistrySha256 := by
    intro restored h
    rw [restoreJournaledPassiveWorkspacesReady] at h
    split at h
    · cases h
    split at h
    · cases h
    split at h
    · cases h
    · dsimp only at h
      split at h
      · cases h
      split at h
      · cases h
      · cases h
        exact ⟨hrecovered.symm, not_not.mp ‹_›⟩
  -- Whether or not it is written, the registry is the recovered one.
  have hrestore : wp AnyFate (restoreSourceRegistry sha256 registry journal)
      (.partially fun _ t => t.accepted = world.accepted ∧
        registryOf t = some (recoveredRegistry sha256 world registry)) world := by
    refine wp_bind (wp_ofExcept (fun restored h => ?_) fun _ _ => trivial)
    show wp AnyFate (if sha256 registry ≠ journal.sourceRegistrySha256 then _ else _) _ _
    obtain ⟨hsame, hsource⟩ := hrestored restored h
    by_cases hwrite : sha256 registry ≠ journal.sourceRegistrySha256
    · rw [if_pos hwrite]
      refine wp_attempt_partially fun a t h => ?_
      split at h
      · split at h
        · cases h
        · cases h
          exact ⟨rfl, congrArg some hsame⟩
      · cases h
    · rw [if_neg hwrite]
      have hregistrySame : registry = restored :=
        hinjective ((not_not.mp hwrite).trans hsource.symm)
      exact wp_pure ⟨rfl, by rw [hregistry, ← hsame, hregistrySame]⟩
  refine wp_bind_partially hrestore ?_
  rintro _ t ⟨haccepted, hregistryT⟩
  refine wp_bind_partially wp_removed ?_
  rintro _ _ rfl
  refine wp_pure ⟨rfl, rfl, haccepted, ?_⟩
  rw [hregistry]
  exact hregistryT

/-- The journal is removed, and nothing else. -/
theorem wp_dropped {kind : MigrationRecoveryKind} (hjournal : world.journal = some journal)
    (hregistry : registryOf world = some registry)
    (hnot : ¬ (classifyAcceptedBuild world.accepted journal = .source ∧
      sha256 registry = journal.transitionedRegistrySha256)) : wp AnyFate (do
        removeMatching journal.operationId state
        pure kind)
      (.partially fun kind' t => kind' = kind ∧ Cleared sha256 world t) world := by
  refine wp_bind_partially wp_removed ?_
  rintro _ _ rfl
  refine wp_pure ⟨rfl, rfl, rfl, ?_⟩
  rw [hregistry, Option.map_some, recoveredRegistry_of_not hjournal hnot]
  exact hregistry

/-- The recovery with a journal, whatever fails. -/
theorem wp_recoveredWith (hinjective : Function.Injective sha256)
    (hjournal : world.journal = some journal) :
    wp AnyFate (recoverWith sha256 running journal)
      (.partially fun kind t => kind ≠ .noJournal ∧ RecoversTo sha256 world kind t) world := by
  rw [recoverWith]
  split
  · exact wp_pure ⟨(fun h => by cases h), trivial⟩
  refine wp_bind (wp_observed ?_)
  cases hregistry : registryOf world with
  | none =>
      rw [registryOf] at hregistry
      rw [hregistry]
      exact wp_pure ⟨(fun h => by cases h), trivial⟩
  | some registry =>
      rw [show world.registry.map (·.toWorkspaceRegistry) = some registry from hregistry]
      refine wp_bind (wp_observed ?_)
      have hpending : Announced sha256 world → journal.state = .prepared ∧
          classifyAcceptedBuild world.accepted journal = .source ∧
          sha256 registry = journal.sourceRegistrySha256 := by
        rintro ⟨other, registry', hother, hstate, hside, hregistry', hdigest⟩
        rw [hjournal] at hother
        cases hother
        rw [hregistry] at hregistry'
        cases hregistry'
        exact ⟨hstate, hside, hdigest⟩
      cases hstate : journal.state with
      | prepared =>
          show wp _ (recoverPrepared sha256 running registry
            (classifyAcceptedBuild world.accepted journal) journal) _ _
          rw [recoverPrepared]
          by_cases hsource : classifyAcceptedBuild world.accepted journal = .source ∧
              sha256 registry = journal.sourceRegistrySha256
          · rw [if_pos hsource]
            exact wp_pure ⟨(fun h => by cases h), rfl, journal, registry, hjournal, hstate,
              hsource.1, hregistry, hsource.2⟩
          rw [if_neg hsource]
          have hnot : ¬ Announced sha256 world := fun h => hsource (hpending h).2
          split
          · rename_i hmarked
            refine (wp_restored hinjective hjournal hregistry hmarked.1 hmarked.2).partially_mono ?_
            rintro _ t ⟨rfl, ht⟩
            exact ⟨(fun h => by cases h), hnot, ht⟩
          · rename_i hmarked
            split
            · refine (wp_dropped hjournal hregistry hmarked).partially_mono ?_
              rintro _ t ⟨rfl, ht⟩
              exact ⟨(fun h => by cases h), hnot, ht⟩
            · exact wp_pure ⟨(fun h => by cases h), trivial⟩
      | registryTransitioned =>
          show wp _ (recoverTransitioned sha256 running registry
            (classifyAcceptedBuild world.accepted journal) journal) _ _
          rw [recoverTransitioned]
          have hnot : ¬ Announced sha256 world := fun h => by
            rw [(hpending h).1] at hstate
            cases hstate
          split
          · rename_i hmarked
            refine (wp_restored hinjective hjournal hregistry hmarked.1 hmarked.2).partially_mono ?_
            rintro _ t ⟨rfl, ht⟩
            exact ⟨(fun h => by cases h), hnot, ht⟩
          rename_i hmarked
          split
          · refine (wp_dropped hjournal hregistry hmarked).partially_mono ?_
            rintro _ t ⟨rfl, ht⟩
            exact ⟨(fun h => by cases h), hnot, ht⟩
          split
          · refine (wp_dropped hjournal hregistry hmarked).partially_mono ?_
            rintro _ t ⟨rfl, ht⟩
            exact ⟨(fun h => by cases h), hnot, ht⟩
          · exact wp_pure ⟨(fun h => by cases h), trivial⟩

/-- What the recovery hands on: the journal that is to be resumed, or none. -/
inductive Recovers (sha256 : WorkspaceRegistry → Digest) (world : MigrationWorld Digest) :
    Option (MigrationJournal Digest) → MigrationWorld Digest → Prop
  | cleared {t : MigrationWorld Digest} (hnot : ¬ Announced sha256 world)
      (hcleared : Cleared sha256 world t) : Recovers sha256 world none t
  | resumed {journal : MigrationJournal Digest} (hjournal : world.journal = some journal)
      (hannounced : Announced sha256 world) : Recovers sha256 world (some journal) world

theorem wp_recoveryOutcome (hupdate : isUpdateAdmission input.admission = true)
    {kind : MigrationRecoveryKind} (hkind : kind ≠ .noJournal)
    (hjournal : world.journal = some journal) (h : RecoversTo sha256 world kind t) :
    wp AnyFate (recoveryOutcome sha256 input kind journal)
      (.partially fun recovered u => Recovers sha256 world recovered.2 u) t := by
  cases kind with
  | noJournal => exact absurd rfl hkind
  | recoveryRequired => exact wp_throw trivial
  | recoveredSource => exact wp_pure (.cleared h.1 h.2)
  | acceptedTarget =>
      show wp _ (if input.runningBuild ≠ journal.targetBuild then _ else _) _ _
      split
      · exact wp_throw trivial
      · exact wp_pure (.cleared h.1 h.2)
  | resumable =>
      obtain ⟨rfl, hannounced⟩ := h
      rw [recoveryOutcome]
      split
      · exact wp_pure (.resumed hjournal hannounced)
      split
      · -- A start of the accepted build is not an update.
        rename_i hexact
        rw [hexact.2] at hupdate
        cases hupdate
      · exact wp_throw trivial

theorem wp_recovers (hinjective : Function.Injective sha256)
    (hupdate : isUpdateAdmission input.admission = true) :
    wp AnyFate (recoverBeforeWorkspaceResolution sha256 input)
      (.partially fun recovered t => Recovers sha256 world recovered.2 t) world := by
  refine wp_bind (wp_observed ?_)
  have hrecover : wp AnyFate (recover sha256 input.runningBuild)
      (.partially fun result t => (result.1 = .noJournal → t = world ∧ world.journal = none) ∧
        RecoversTo sha256 world result.1 t) world := by
    refine wp_bind (wp_observed ?_)
    cases hjournal : world.journal with
    | none => exact wp_pure ⟨fun _ => ⟨rfl, rfl⟩, trivial⟩
    | some journal =>
        refine wp_bind_partially (wp_recoveredWith hinjective hjournal) fun kind t ht => ?_
        exact wp_pure ⟨fun hnone => absurd hnone ht.1, ht.2⟩
  refine wp_bind (wp_tryCatch (hrecover.mono (fun result t ht => ?_)
    (fun _ _ _ => wp_throw trivial) fun _ _ => trivial))
  show wp AnyFate (if result.1 = .noJournal then _ else _) _ _
  split
  · rename_i hnone
    obtain ⟨rfl, hjournal⟩ := ht.1 hnone
    refine wp_pure (.cleared ?_ ⟨hjournal, rfl, ?_⟩)
    · rintro ⟨journal, registry, hsome, _⟩
      rw [hjournal] at hsome
      cases hsome
    · have hsame : recoveredRegistry sha256 t = id := by
        funext registry
        rw [recoveredRegistry, hjournal]
        rfl
      rw [hsame, Option.map_id]
      rfl
  · rename_i hkind
    cases hjournal : world.journal with
    | none => exact wp_throw trivial
    | some before =>
        show wp AnyFate (if result.2 ≠ some before.operationId then _ else _) _ _
        split
        · exact wp_throw trivial
        · exact wp_recoveryOutcome hupdate hkind hjournal ht.2

/-- A journal that fits neither digest of the registry blocks the start. -/
theorem wp_blocked (hjournal : world.journal = some journal) (hstate : journal.state = .prepared)
    (hregistry : registryOf world = some registry)
    (hsource : sha256 registry ≠ journal.sourceRegistrySha256)
    (htransitioned : sha256 registry ≠ journal.transitionedRegistrySha256) :
    wp AnyFate (recoverBeforeWorkspaceResolution sha256 input) (.partially fun _ _ => False)
      world := by
  refine wp_bind (wp_observed ?_)
  have hrecover : wp AnyFate (recover sha256 input.runningBuild)
      (.partially fun result t => result.1 = .recoveryRequired) world := by
    refine wp_bind (wp_observed ?_)
    rw [hjournal]
    suffices hwith : wp AnyFate (recoverWith sha256 input.runningBuild journal)
        (.partially fun kind _ => kind = .recoveryRequired) world from
      wp_bind_partially hwith fun kind _ hkind => wp_pure hkind
    rw [recoverWith]
    split
    · exact wp_pure rfl
    refine wp_bind (wp_observed ?_)
    rw [show world.registry.map (·.toWorkspaceRegistry) = some registry from hregistry]
    refine wp_bind (wp_observed ?_)
    rw [hstate]
    show wp _ (recoverPrepared _ _ _ _ _) _ _
    rw [recoverPrepared, if_neg fun h => hsource h.2, if_neg fun h => htransitioned h.2,
      if_neg fun h => htransitioned h.2.2]
    exact wp_pure rfl
  refine wp_bind (wp_tryCatch (hrecover.mono ?_ (fun _ _ _ => wp_throw trivial)
    fun _ _ => trivial))
  rintro ⟨_, operationId⟩ t rfl
  show wp AnyFate (if MigrationRecoveryKind.recoveryRequired = .noJournal then _ else _) _ _
  rw [if_neg (fun h => by cases h), hjournal]
  show wp AnyFate (if operationId ≠ some journal.operationId then _ else _) _ _
  split
  · exact wp_throw trivial
  · exact wp_throw trivial

end Recovery

/-! ## What the preparation leaves -/

section Preparing

variable [DecidableEq Digest] {sha256 : WorkspaceRegistry → Digest}
  {world t : MigrationWorld Digest} {registry : WorkspaceRegistry} {input : StartInput}
  {resumed : Option (MigrationJournal Digest)}

/-- A journal with the digests of the registry, as it is and with its marks. -/
structure DigestsOf (sha256 : WorkspaceRegistry → Digest) (registry : WorkspaceRegistry)
    (journal : MigrationJournal Digest) : Prop where
  source : journal.sourceRegistrySha256 = sha256 registry
  transitioned : ∃ marked, journal.transitionedRegistrySha256 = sha256 marked ∧
    marked.activeWorkspaceId = registry.activeWorkspaceId

theorem active_of_markPassive {active : WorkspaceId} {ids : List WorkspaceId}
    {marked : WorkspaceRegistry}
    (h : markPassiveWorkspacesRecoveryRequired registry active ids = .ok marked) :
    marked.activeWorkspaceId = registry.activeWorkspaceId := by
  obtain ⟨-, rfl⟩ := markPassive_eq_ok.mp h
  rfl

theorem digestsOf_of_resumedPlanValid {journal : MigrationJournal Digest}
    {plan : WorkspaceFirstStartMigrationPlan} {sourceBuild : BuildVersion}
    (h : resumedPlanValid sha256 input journal plan registry sourceBuild = true) :
    DigestsOf sha256 registry journal := by
  simp only [resumedPlanValid, Bool.and_eq_true, decide_eq_true_eq] at h
  obtain ⟨⟨-, hsource⟩, hmarks⟩ := h
  cases hmark : markPassiveWorkspacesRecoveryRequired registry journal.activeWorkspaceId
      journal.passiveRecoveryWorkspaceIds with
  | error _ =>
      rw [hmark] at hmarks
      cases hmarks
  | ok marked =>
      rw [hmark] at hmarks
      exact ⟨hsource.symm, marked, (of_decide_eq_true hmarks).symm, active_of_markPassive hmark⟩

/-- What is prepared for the registry: nothing, or a journal. -/
inductive Prepares (sha256 : WorkspaceRegistry → Digest) (input : StartInput)
    (world : MigrationWorld Digest) (registry : WorkspaceRegistry) :
    Option (MigrationJournal Digest) → MigrationWorld Digest → Prop
  | nothing {plan : WorkspaceFirstStartMigrationPlan}
      (hplan : startPlan input world.accepted registry = .ok plan)
      (hkind : plan.kind = .notRequired) : Prepares sha256 input world registry none world
  | resumed {journal : MigrationJournal Digest} (hdigests : DigestsOf sha256 registry journal) :
      Prepares sha256 input world registry (some journal) world
  | announced {journal : MigrationJournal Digest} {plan : WorkspaceFirstStartMigrationPlan}
      (hplan : startPlan input world.accepted registry = .ok plan)
      (hkind : plan.kind = .required) (hstate : journal.state = .prepared)
      (hdigests : DigestsOf sha256 registry journal) :
      Prepares sha256 input world registry none { world with journal := some journal }

theorem wp_prepare {preparation : PreparationInput} {plan : WorkspaceFirstStartMigrationPlan}
    (hregistry : registryOf world = some registry) :
    wp AnyFate (prepare sha256 preparation plan)
      (.partially fun journal t => t = { world with journal := some journal } ∧
        plan.kind = .required ∧ journal.state = .prepared ∧ DigestsOf sha256 registry journal)
      world := by
  rw [prepare]
  split
  · rename_i active hkind _
    refine wp_bind_partially (Q := fun read t => t = world ∧ read = registry)
      (wp_bind (wp_observed ?_)) ?_
    · rw [show world.registry.map (·.toWorkspaceRegistry) = some registry from hregistry]
      exact wp_pure ⟨rfl, rfl⟩
    rintro _ _ ⟨rfl, rfl⟩
    refine wp_check (fun _ => trivial) fun _ => ?_
    refine wp_bind (wp_ofExcept (fun marked hmarked => ?_) fun _ _ => trivial)
    refine wp_bind (wp_attempt_partially fun _ t hwrite => ?_)
    split at hwrite
    · cases hwrite
      exact wp_pure ⟨rfl, hkind, rfl, rfl, marked, rfl, active_of_markPassive hmarked⟩
    · cases hwrite
  · exact wp_throw trivial

/-- The preparation, whatever fails. -/
theorem wp_prepares (hupdate : isUpdateAdmission input.admission = true)
    (hregistry : registryOf world = some registry) :
    wp AnyFate (prepareBeforeBackend sha256 input resumed)
      (.partially fun _ t => Prepares sha256 input world registry resumed t) world := by
  rw [prepareBeforeBackend, if_neg (by simp [hupdate])]
  have hfails : ∀ t, wp AnyFate (failBeforeBackend input : MigrationProgram Digest _)
      (.partially fun (_ : Preparation Digest) t => Prepares sha256 input world registry resumed t)
      t := by
    intro t
    exact wp_bind_partially (Q := fun _ _ => True) wp_anything fun _ _ _ => wp_throw trivial
  suffices hplanned : wp AnyFate (preparePlanned sha256 input resumed)
      (.partially fun _ t => Prepares sha256 input world registry resumed t) world from
    wp_tryCatch (hplanned.mono (fun _ _ ht => ht) (fun _ t _ => hfails t) fun _ _ => trivial)
  refine wp_bind (wp_observed ?_)
  rw [show world.registry.map (·.toWorkspaceRegistry) = some registry from hregistry]
  refine wp_bind_partially (Q := fun sourceBuild t => t = world ∧ ∃ accepted,
    world.accepted = some accepted ∧
      sourceBuild = accepted.readAcceptedBusinessBaseline.toBuildVersion)
    (wp_bind (wp_observed ?_)) ?_
  · cases haccepted : world.accepted with
    | none => exact wp_throw trivial
    | some accepted => exact wp_pure ⟨rfl, accepted, rfl, rfl⟩
  rintro _ world ⟨rfl, accepted, haccepted, rfl⟩
  refine wp_bind_partially (Q := fun inventory u => u = world ∧ input.inventory = some inventory)
    (wp_bind (wp_attempt_partially fun _ u hcall => ?_)) ?_
  · cases hcall
    cases hinventory : input.inventory with
    | none => exact wp_throw trivial
    | some inventory => exact wp_pure ⟨rfl, rfl⟩
  rintro inventory world ⟨rfl, hinventory⟩
  refine wp_bind (wp_ofExcept (fun plan hplan => ?_) fun _ _ => trivial)
  have hstart : startPlan input world.accepted registry = .ok plan := by
    simp only [startPlan, haccepted, hinventory]
    exact hplan
  cases resumed with
  | some journal =>
      show wp AnyFate (if _ then _ else _) _ _
      split
      · exact wp_pure (.resumed (digestsOf_of_resumedPlanValid ‹_›))
      · exact wp_throw trivial
  | none =>
      show wp AnyFate (if _ then _ else _) _ _
      split
      · exact wp_pure (.nothing hstart ‹_›)
      · refine wp_bind_partially (wp_prepare hregistry) ?_
        rintro journal _ ⟨rfl, hkind, hstate, hdigests⟩
        exact wp_pure (.announced hstart hkind hstate hdigests)

end Preparing

/-! ## What the switch leaves -/

section Switch

open WorkspaceSwitch

variable {world t : SwitchWorld} {journal own : WorkspaceSwitchJournal}
  {registry : StoredRegistry}

theorem wp_observedSwitch {failure : SwitchFailure} {f : SwitchWorld → α}
    {Q : α → SwitchWorld → Prop} (h : Q (f world) world) :
    wp AnyFate (attempt failure fun world => .ok (f world, world)) (.partially Q) world := by
  refine wp_attempt_partially fun a t hread => ?_
  cases hread
  exact h

theorem wp_writtenJournal :
    wp AnyFate (WorkspaceSwitch.writeJournal own)
      (.partially fun _ t => t = { world with journal := some own }) world := by
  refine wp_attempt_partially fun a t hwrite => ?_
  split at hwrite
  · cases hwrite
    rfl
  · cases hwrite

/-- The journal of a startup: it has been cleared, or it is the one that was stored, in
    the state that is stored now. -/
def Carried (journal : WorkspaceSwitchJournal) (world : SwitchWorld)
    (carried : Option WorkspaceSwitchJournal) (t : SwitchWorld) : Prop :=
  carried = none ∨ ∃ state, carried = some (journal.withState state) ∧
    t = { world with journal := some (journal.withState state) }

theorem wp_settledPrepared (hjournal : world.journal = some journal)
    {active : WorkspaceRegistry} :
    wp AnyFate (settlePrepared active (some journal)) (.partially (Carried journal world))
      world := by
  have hsame : world = { world with journal := some (journal.withState journal.state) } := by
    rw [WorkspaceSwitchJournal.withState, ← hjournal]
  rw [settlePrepared]
  split
  · exact wp_pure (.inr ⟨_, rfl, hsame⟩)
  split
  · exact wp_bind_partially (Q := fun _ _ => True) wp_anything fun _ _ _ => wp_pure (.inl rfl)
  split
  · refine wp_bind_partially wp_writtenJournal ?_
    rintro _ _ rfl
    exact wp_pure (.inr ⟨_, rfl, rfl⟩)
  · exact wp_throw trivial

theorem wp_settledTarget {active : WorkspaceRegistry} {carried : Option WorkspaceSwitchJournal}
    (h : Carried journal world carried t) :
    wp AnyFate (settleTargetSelected active carried)
      (.partially fun carried u => Carried journal world carried u ∧
        (carried.map (·.state) = some .targetSelected →
          active.activeWorkspaceId ≠ some journal.sourceWorkspaceId)) t := by
  rcases h with rfl | ⟨state, rfl, rfl⟩
  · exact wp_pure ⟨.inl rfl, (fun h => by cases h)⟩
  show wp AnyFate (if state = .targetSelected ∧
    active.activeWorkspaceId = some journal.sourceWorkspaceId then _ else _) _ _
  split
  · -- The source was selected again before the journal learned of it.
    refine wp_bind_partially (Q := fun reconciled u => reconciled =
      (journal.withState state).withState .rollbackSelected ∧
        u = { world with journal := some reconciled }) ?_ ?_
    · rw [reconcileInterruptedRollbackSelection]
      split
      · exact wp_throw trivial
      refine wp_bind (wp_tryCatch (wp_writtenJournal.mono ?_ (fun _ _ _ => ?_) fun _ _ => trivial))
      · rintro _ _ rfl
        exact wp_pure ⟨rfl, rfl⟩
      · exact wp_bind_partially (Q := fun _ _ => True) wp_anything
          fun _ _ _ => wp_throw trivial
    · rintro _ _ ⟨rfl, rfl⟩
      exact wp_pure ⟨.inr ⟨.rollbackSelected, rfl, rfl⟩, (fun h => by cases h)⟩
  · rename_i hnot
    refine wp_pure ⟨.inr ⟨state, rfl, rfl⟩, fun htarget hactive => hnot ⟨?_, hactive⟩⟩
    exact Option.some.inj htarget

/-- A target that is offered for validation is the active workspace, and another one than
    the source. -/
theorem wp_resolvesTarget (hjournal : world.journal = some journal) :
    wp AnyFate resolveWorkspaceSwitchStartup
      (.partially fun selection t => selection.mode = .targetValidation →
        selection.journal = some (journal.withState .targetSelected) ∧
        t = { world with journal := some (journal.withState .targetSelected) } ∧
        ∃ registry, world.registry = some registry ∧
          registry.activeWorkspaceId = some journal.targetWorkspaceId ∧
          registry.activeWorkspaceId ≠ some journal.sourceWorkspaceId) world := by
  refine wp_bind (wp_observedSwitch ?_)
  cases hregistry : world.registry with
  | none => exact wp_throw trivial
  | some registry =>
      dsimp only [Option.map_some]
      cases hactive : registry.activeWorkspaceId with
      | none => exact wp_throw trivial
      | some active =>
          refine wp_bind (wp_observedSwitch ?_)
          rw [hjournal]
          show wp AnyFate (if some journal.state = some .recoveryRequired then _ else _) _ _
          split
          · exact wp_throw trivial
          refine wp_bind_partially (wp_settledPrepared hjournal) fun prepared t ht => ?_
          refine wp_bind_partially (wp_settledTarget ht) fun carried u hu => ?_
          obtain ⟨hcarried, hsource⟩ := hu
          refine wp_bind (wp_ofExcept (fun mode hmode => ?_) fun _ _ => trivial)
          refine wp_bind (wp_ofExcept (fun workspace _ => ?_) fun _ _ => trivial)
          refine wp_pure fun htarget => ?_
          obtain rfl : mode = .targetValidation := htarget
          rcases hcarried with rfl | ⟨state, rfl, rfl⟩
          · cases hmode
          rw [resolveMode] at hmode
          split at hmode
          · rename_i hselected
            obtain ⟨hstate, htargetActive⟩ := hselected
            obtain rfl : state = .targetSelected := hstate
            exact ⟨rfl, by rw [hregistry], registry, rfl, htargetActive, hsource rfl⟩
          · split at hmode <;> cases hmode

theorem wp_givesUp :
    wp AnyFate (giveUp own) (.partially fun outcome _ => outcome = .recoveryRequired) world :=
  wp_bind_partially (Q := fun _ _ => True) wp_anything fun _ _ _ => wp_pure rfl

theorem wp_failed_partially {step : SwitchProgram Unit} {Q : Bool → SwitchWorld → Prop}
    (h : wp AnyFate step ⟨fun _ t => Q false t, fun _ t => Q true t, fun _ => True⟩ world) :
    wp AnyFate (failed step) (.partially Q) world :=
  wp_tryCatch (wp_bind (h.mono (fun _ _ ht => wp_pure ht) (fun _ _ ht => wp_pure ht)
    fun _ _ => trivial))

/-- The registry with the source selected. -/
def SourceSelected (registry : StoredRegistry) (own : WorkspaceSwitchJournal)
    (t : SwitchWorld) : Prop :=
  ∃ source : StoredRegistry, t.registry = some source ∧ source.toWorkspaceRegistry =
    { registry.toWorkspaceRegistry with activeWorkspaceId := some own.sourceWorkspaceId }

/-- Whether or not the write says so, the registry is as it was, or it has the source
    selected. -/
theorem wp_writesSource (hregistry : world.registry = some registry) :
    wp AnyFate (failed (WorkspaceSwitch.writeRegistry
        { registry.toWorkspaceRegistry with activeWorkspaceId := some own.sourceWorkspaceId }))
      (.partially fun writeFailed t => (writeFailed = false → SourceSelected registry own t) ∧
        (t.registry = some registry ∨ SourceSelected registry own t)) world := by
  have hwrite : wp AnyFate (WorkspaceSwitch.writeRegistry
      { registry.toWorkspaceRegistry with activeWorkspaceId := some own.sourceWorkspaceId })
      ⟨fun _ => SourceSelected registry own,
        fun _ t => t.registry = some registry ∨ SourceSelected registry own t,
        fun t => t.registry = some registry ∨ SourceSelected registry own t⟩ world := by
    refine wp_attempt trivial (.inl hregistry) fun _ t hwrite => ?_
    split at hwrite
    · split at hwrite
      · cases hwrite
      · cases hwrite
        have hsource : SourceSelected registry own { world with registry := some ⟨_, ‹_›⟩ } :=
          ⟨_, rfl, rfl⟩
        exact ⟨.inr hsource, hsource⟩
    · cases hwrite
  exact wp_failed_partially (hwrite.mono (fun _ _ ht => ⟨fun _ => ht, .inr ht⟩)
    (fun _ _ ht => ⟨(fun h => by cases h), ht⟩) fun _ _ => trivial)

/-- What is read after a failure tells the two apart. -/
theorem wp_observesSource {writeFailed : Bool}
    (hne : registry.activeWorkspaceId ≠ some own.sourceWorkspaceId)
    (hwritten : writeFailed = false → SourceSelected registry own world)
    (heither : world.registry = some registry ∨ SourceSelected registry own world) :
    wp AnyFate (observeAfter writeFailed (registryMatchesSource · own))
      (.partially fun selected t => selected = true → SourceSelected registry own t) world := by
  cases writeFailed with
  | false => exact wp_pure fun _ => hwritten rfl
  | true =>
      refine wp_tryCatch (wp_bind ((wp_observedSwitch (Q := fun read t => t = world ∧
        read = world.registry.map (·.toWorkspaceRegistry)) ⟨rfl, rfl⟩).mono ?_
        (fun _ _ _ => wp_pure nofun) fun _ _ => trivial))
      rintro _ t ⟨rfl, rfl⟩
      refine wp_pure fun hmatches => ?_
      rcases heither with hbefore | hafter
      · rw [hbefore] at hmatches
        exact absurd (of_decide_eq_true hmatches) hne
      · exact hafter

/-- A failed target leads back to the source. -/
theorem wp_goesBack (hregistry : world.registry = some registry)
    (hactive : registry.activeWorkspaceId = some own.targetWorkspaceId)
    (hne : registry.activeWorkspaceId ≠ some own.sourceWorkspaceId) :
    wp AnyFate (recoverTargetValidationFailure own)
      (.partially fun outcome t => outcome = .relaunchRequired → SourceSelected registry own t ∧
        t.journal = some (own.withState .rollbackSelected)) world := by
  have hgivesUp : ∀ u : SwitchWorld, wp AnyFate (giveUp own)
      (.partially fun outcome t => outcome = .relaunchRequired → SourceSelected registry own t ∧
        t.journal = some (own.withState .rollbackSelected)) u :=
    fun u => wp_givesUp.partially_mono fun outcome _ houtcome hrelaunch => by
      rw [houtcome] at hrelaunch
      cases hrelaunch
  refine wp_bind_partially (Q := fun read t => read = none ∨
    (read = some registry.toWorkspaceRegistry ∧ t = world)) (wp_tryCatch ?_) ?_
  · exact (wp_observedSwitch (Q := fun read t => read = some registry.toWorkspaceRegistry ∧
      t = world) ⟨by rw [hregistry]; rfl, rfl⟩).mono (fun _ _ ht => .inr ht)
      (fun _ _ _ => wp_pure (.inl rfl)) fun _ _ => trivial
  rintro _ world (rfl | ⟨rfl, rfl⟩)
  · exact hgivesUp _
  show wp AnyFate (if registry.activeWorkspaceId ≠ some own.targetWorkspaceId then _ else _) _ _
  rw [if_neg (not_not.mpr hactive)]
  cases hselect : registry.toWorkspaceRegistry.selectActiveWorkspace own.targetWorkspaceId
      own.sourceWorkspaceId with
  | error _ => exact hgivesUp _
  | ok selected =>
      obtain rfl : selected = { registry.toWorkspaceRegistry with
          activeWorkspaceId := some own.sourceWorkspaceId } :=
        ((WorkspaceRegistry.selectActiveWorkspace_eq_ok registry.valid).mp hselect).2.2
      refine wp_bind_partially (wp_writesSource hregistry) fun writeFailed t ht => ?_
      refine wp_bind_partially (wp_observesSource hne ht.1 ht.2) fun chosen u hu => ?_
      cases chosen with
      | false => exact hgivesUp _
      | true =>
          refine wp_bind_partially (wp_failed_partially (Q := fun journalFailed v =>
            journalFailed = false → SourceSelected registry own v ∧
              v.journal = some (own.withState .rollbackSelected)) ?_) ?_
          · refine wp_writtenJournal.mono ?_ (fun _ _ _ => nofun) fun _ _ => trivial
            rintro _ _ rfl
            exact fun _ => ⟨hu rfl, rfl⟩
          · intro journalFailed v hv
            cases journalFailed with
            | true => exact hgivesUp _
            | false => exact wp_pure fun _ => hv rfl

/-- Only a target that was offered for validation is left for the source. -/
theorem wp_otherModes {selection : WorkspaceSwitchStartupSelection}
    (hmode : selection.mode ≠ .targetValidation) :
    wp AnyFate (recoverFromFailure selection)
      (.partially fun outcome _ => outcome ≠ .relaunchRequired) world := by
  rw [recoverFromFailure]
  cases selection.journal with
  | none => exact wp_pure (fun h => by cases h)
  | some journal =>
      cases hselected : selection.mode with
      | normal => exact wp_pure (fun h => by cases h)
      | targetValidation => exact absurd hselected hmode
      | rollbackValidation =>
          refine wp_givesUp.partially_mono fun outcome _ houtcome hrelaunch => ?_
          rw [houtcome] at hrelaunch
          cases hrelaunch

end Switch

/-! ## The start that fails -/

section FailingStart

variable [DecidableEq Digest] {sha256 : WorkspaceRegistry → Digest}
  {world failed : StartupWorld Digest} {journal : WorkspaceSwitchJournal}
  {input next : StartInput}

omit [DecidableEq Digest] in
theorem wp_inMigration {m : MigrationProgram Digest α} {Q : α → MigrationWorld Digest → Prop}
    (h : wp AnyFate m (.partially Q) world.migrating) :
    wp AnyFate (inMigration m)
      (.partially fun a t => ∃ part, t = world.withMigrating part ∧ Q a part) world :=
  wp_zoom (wp_mapError (h.partially_mono fun _ part hpart => ⟨part, rfl, hpart⟩))

omit [DecidableEq Digest] in
theorem wp_inSwitch {m : SwitchProgram α} {Q : α → SwitchWorld → Prop}
    (h : wp AnyFate m (.partially Q) world.switching) :
    wp AnyFate (inSwitch m)
      (.partially fun a t => ∃ part, t = world.withSwitching part ∧ Q a part) world :=
  wp_zoom (wp_mapError (h.partially_mono fun _ part hpart => ⟨part, rfl, hpart⟩))

/-- The start has gone back to the source, and `registry` was the registry until then. -/
structure WentBack (sha256 : WorkspaceRegistry → Digest) (journal : WorkspaceSwitchJournal)
    (migration : Option (MigrationJournal Digest)) (registry : StoredRegistry)
    (failed : StartupWorld Digest) : Prop where
  target : registry.activeWorkspaceId = some journal.targetWorkspaceId
  ne : registry.activeWorkspaceId ≠ some journal.sourceWorkspaceId
  source : SourceSelected registry journal failed.switching
  switchJournal : failed.switchJournal = some (journal.withState .rollbackSelected)
  migrationJournal : failed.migrationJournal = migration
  digests : ∀ pending, migration = some pending →
    pending.state = .prepared ∧ DigestsOf sha256 registry.toWorkspaceRegistry pending

/-- What is left of the migration decides, and what there was to migrate decides that. -/
theorem nothingToMigrate_iff {resumed : Option (MigrationJournal Digest)}
    {before t u : MigrationWorld Digest} {registry : WorkspaceRegistry}
    (hrecovers : Recovers sha256 before resumed t) (hregistry : registryOf t = some registry)
    (hprepares : Prepares sha256 input t registry resumed u) :
    (NothingToMigrate sha256 input before ↔ u.journal = none) ∧
      registryOf u = some registry ∧ ∀ pending, u.journal = some pending →
        pending.state = .prepared ∧ DigestsOf sha256 registry pending := by
  cases hrecovers with
  | cleared hnot hcleared =>
      have hrecovered := hcleared.registry
      rw [hregistry] at hrecovered
      obtain ⟨original, horiginal, hsame⟩ := Option.map_eq_some_iff.mp hrecovered.symm
      -- The plan that is carried out is the one that has to require nothing.
      have hplanned : startPlan input before.accepted (recoveredRegistry sha256 before original) =
          startPlan input t.accepted registry := by
        rw [hsame, hcleared.accepted]
      cases hprepares with
      | nothing hplan hkind =>
          refine ⟨⟨fun _ => hcleared.journal, fun _ => ⟨hnot, fun other plan hother hplan' => ?_⟩⟩,
            hregistry, fun pending hpending => ?_⟩
          · rw [horiginal] at hother
            cases hother
            rw [hplanned, hplan] at hplan'
            cases hplan'
            exact hkind
          · rw [hcleared.journal] at hpending
            cases hpending
      | announced hplan hkind hstate hdigests =>
          refine ⟨⟨fun h => ?_, nofun⟩, hregistry, fun pending hpending => ?_⟩
          · have hnothing := h.notPlanned original _ horiginal (hplanned.trans hplan)
            rw [hkind] at hnothing
            cases hnothing
          · cases hpending
            exact ⟨hstate, hdigests⟩
  | resumed hjournal hannounced =>
      cases hprepares with
      | resumed hdigests =>
          refine ⟨⟨fun h => absurd hannounced h.notAnnounced, fun hnone => ?_⟩, hregistry,
            fun pending hpending => ?_⟩
          · rw [hjournal] at hnone
            cases hnone
          · obtain ⟨announced, _, hsome, hstate, _⟩ := hannounced
            rw [hjournal] at hpending hsome
            cases hpending
            cases hsome
            exact ⟨hstate, hdigests⟩

/-- **GOING BACK**: a start that asks for a relaunch has selected the source again, and it
    leaves a migration announced unless there was nothing to migrate. -/
theorem wp_failingStart (hinjective : Function.Injective sha256)
    (hupdate : isUpdateAdmission input.admission = true)
    (hjournal : world.switchJournal = some journal) :
    wp AnyFate (failingStart sha256 input)
      (.partially fun outcome failed => outcome = .relaunchRequired →
        ∃ migration registry, WentBack sha256 journal migration registry failed ∧
          (NothingToMigrate sha256 input world.migrating ↔ migration = none)) world := by
  refine wp_bind_partially (Q := fun resolved t => resolved.2.mode = .targetValidation →
    ∃ recovered registry, Recovers sha256 world.migrating resolved.1 recovered ∧
      t.migrating = recovered ∧ t.registry = some registry ∧
      registry.activeWorkspaceId = some journal.targetWorkspaceId ∧
      registry.activeWorkspaceId ≠ some journal.sourceWorkspaceId ∧
      resolved.2.journal = some (journal.withState .targetSelected)) ?_ ?_
  · refine wp_bind_partially (wp_inMigration (wp_recovers hinjective hupdate)) ?_
    rintro recovered _ ⟨part, rfl, hrecovers⟩
    have hswitching : (world.withMigrating part).switching.journal = some journal := hjournal
    refine wp_bind_partially (wp_inSwitch (wp_resolvesTarget hswitching)) ?_
    rintro selection _ ⟨switched, rfl, hresolves⟩
    refine wp_pure fun hmode => ?_
    obtain ⟨hselected, rfl, registry, hregistry, hactive, hne⟩ := hresolves hmode
    exact ⟨part, registry, hrecovers, rfl, hregistry, hactive, hne, hselected⟩
  rintro ⟨resumed, selection⟩ t ht
  by_cases hmode : selection.mode = .targetValidation
  · obtain ⟨_, registry, hrecovers, rfl, hregistry, hactive, hne, hselected⟩ := ht hmode
    have hregistryOf : registryOf t.migrating = some registry.toWorkspaceRegistry :=
      congrArg (Option.map _) hregistry
    refine wp_bind_partially (wp_inMigration (wp_prepares hupdate hregistryOf)) ?_
    rintro _ _ ⟨part, rfl, hprepares⟩
    obtain ⟨hiff, hpart, hdigests⟩ := nothingToMigrate_iff hrecovers hregistryOf hprepares
    have hstored : part.registry = some registry := by
      cases hprepares <;> exact hregistry
    have hgoesBack := @wp_goesBack (t.withMigrating part).switching
      (journal.withState .targetSelected) registry hstored hactive hne
    rw [WorkspaceSwitch.recoverFromFailure, hselected, hmode]
    refine (wp_inSwitch hgoesBack).partially_mono ?_
    rintro outcome _ ⟨switched, rfl, hback⟩ hrelaunch
    obtain ⟨hsource, hrollback⟩ := hback hrelaunch
    exact ⟨part.journal, registry, ⟨hactive, hne, hsource, hrollback, rfl, hdigests⟩, hiff⟩
  · refine wp_bind_partially (Q := fun _ _ => True) wp_anything fun _ u _ => ?_
    refine (wp_inSwitch (wp_otherModes hmode)).partially_mono ?_
    rintro outcome _ ⟨_, _, hnot⟩ hrelaunch
    exact absurd hrelaunch hnot

/-! ## The start that follows -/

/-- A start that is not disturbed offers the source, for the validation of a rollback. -/
def OffersSource (sha256 : WorkspaceRegistry → Digest) (input : StartInput)
    (source : WorkspaceId) (world : StartupWorld Digest) : Prop :=
  ∃ resolved, (resolveWorkspace sha256 input world []).1 = .returned resolved ∧
    resolved.2.mode = .rollbackValidation ∧ resolved.2.workspace.workspaceId = source

theorem quietly_recovers {part : MigrationWorld Digest} (hjournal : part.journal = none) :
    Quietly (recoverBeforeWorkspaceResolution sha256 input) part (.returned (.noJournal, none))
      part := by
  have hrecover : Quietly (recover sha256 input.runningBuild) part
      (.returned (.noJournal, none)) part := by
    refine quietly_bind (quietly_attempt rfl) ?_
    rw [hjournal]
    exact quietly_pure
  exact quietly_bind (quietly_attempt rfl) (quietly_bind (quietly_tryCatch hrecover) quietly_pure)

omit [DecidableEq Digest] in
open WorkspaceSwitch in
theorem quietly_resolves {part : SwitchWorld} {registry : StoredRegistry}
    (hregistry : part.registry = some registry)
    (hjournal : part.journal = some (journal.withState .rollbackSelected))
    (hactive : registry.activeWorkspaceId = some journal.sourceWorkspaceId) :
    ∃ selection, Quietly resolveWorkspaceSwitchStartup part (.returned selection) part ∧
      selection.mode = .rollbackValidation ∧
      selection.workspace.workspaceId = journal.sourceWorkspaceId := by
  obtain ⟨workspace, _, hid, hfound⟩ := requireActiveReadyWorkspace_eq hactive
  refine ⟨⟨some (journal.withState .rollbackSelected), .rollbackValidation, workspace⟩, ?_, rfl,
    hid⟩
  refine quietly_bind (quietly_attempt rfl) ?_
  rw [hregistry]
  dsimp only [Option.map_some]
  rw [hactive]
  refine quietly_bind (quietly_attempt rfl) ?_
  rw [hjournal]
  have hmode : resolveMode registry.toWorkspaceRegistry
      (some (journal.withState .rollbackSelected)) = .ok .rollbackValidation := by
    rw [resolveMode, if_neg (by simp), if_pos ⟨rfl, hactive⟩]
  refine quietly_bind quietly_pure (quietly_bind quietly_pure ?_)
  exact quietly_bind (quietly_ofExcept hmode) (quietly_bind (quietly_ofExcept hfound)
    quietly_pure)

/-- Without a journal of a migration the source is offered. -/
theorem WentBack.offersSource {registry : StoredRegistry}
    (h : WentBack sha256 journal none registry failed) :
    OffersSource sha256 next journal.sourceWorkspaceId failed := by
  obtain ⟨source, hstored, hsource⟩ := h.source
  have hactive : source.activeWorkspaceId = some journal.sourceWorkspaceId := by rw [hsource]
  obtain ⟨selection, hresolves, hmode, hid⟩ := quietly_resolves hstored h.switchJournal hactive
  refine ⟨(none, selection), ?_, hmode, hid⟩
  have hquietly : Quietly (resolveWorkspace sha256 next) failed (.returned (none, selection))
      failed := by
    have hrecovers : Quietly (inMigration (recoverBeforeWorkspaceResolution sha256 next)) failed
        (.returned (.noJournal, none)) failed :=
      quietly_zoom (quietly_mapError (quietly_recovers h.migrationJournal))
    exact quietly_bind hrecovers (quietly_bind (quietly_zoom (quietly_mapError hresolves))
      quietly_pure)
  rw [hquietly]

/-- A journal with the digests from before the switch went back blocks the start. -/
theorem WentBack.not_offersSource (hinjective : Function.Injective sha256)
    {registry : StoredRegistry} {pending : MigrationJournal Digest}
    (h : WentBack sha256 journal (some pending) registry failed) :
    ¬ OffersSource sha256 next journal.sourceWorkspaceId failed := by
  obtain ⟨source, hstored, hsource⟩ := h.source
  obtain ⟨hstate, hdigests⟩ := h.digests pending rfl
  have hactive : source.activeWorkspaceId = some journal.sourceWorkspaceId := by rw [hsource]
  -- Both digests are of registries with the target as their active workspace.
  have hother : ∀ other : WorkspaceRegistry, other.activeWorkspaceId = registry.activeWorkspaceId →
      sha256 source.toWorkspaceRegistry ≠ sha256 other := by
    intro other hsame hdigest
    rw [← hinjective hdigest, hactive] at hsame
    exact h.ne hsame.symm
  obtain ⟨marked, hmarked, hsame⟩ := hdigests.transitioned
  have hblocked := @wp_blocked Digest _ sha256 failed.migrating pending source.toWorkspaceRegistry
    next h.migrationJournal hstate (congrArg (Option.map _) hstored)
    (by rw [hdigests.source]; exact hother _ rfl) (by rw [hmarked]; exact hother _ hsame)
  have hnever : wp AnyFate (resolveWorkspace sha256 next) (.partially fun _ _ => False) failed :=
    wp_bind_partially (wp_inMigration hblocked) fun _ _ ⟨_, _, hfalse⟩ => hfalse.elim
  rintro ⟨resolved, hreturned, _⟩
  have hpost := (hnever [] nofun).1
  rw [hreturned] at hpost
  exact hpost

/-- **LOCKED OUT**: after a start of a newer build has gone back from a workspace that was
    switched to, the next start of the build offers the source if and only if there was
    nothing to migrate. -/
theorem next_start_offers_source_iff (hinjective : Function.Injective sha256)
    (hupdate : isUpdateAdmission input.admission = true)
    (hjournal : world.switchJournal = some journal)
    (hfails : Ends (failingStart sha256 input) world (.returned .relaunchRequired) failed) :
    OffersSource sha256 next journal.sourceWorkspaceId failed ↔
      NothingToMigrate sha256 input world.migrating := by
  obtain ⟨migration, registry, hback, hiff⟩ :=
    wp.ends (wp_failingStart hinjective hupdate hjournal) hfails rfl
  rw [hiff]
  cases migration with
  | none => exact ⟨fun _ => rfl, fun _ => hback.offersSource⟩
  | some pending =>
      constructor
      · intro hoffers
        exact absurd hoffers (hback.not_offersSource hinjective)
      · nofun

end FailingStart

end WorkspaceStartup

/-! ### An update of the workspace that was switched to -/

namespace WorkspaceStartup.Sample

open Program SampleWorkspaces WorkspaceMigration

/-- The registry after a switch. -/
def switched : StoredRegistry :=
  ⟨{ registry.toWorkspaceRegistry with activeWorkspaceId := some "workshop" }, by decide⟩

/-- The journal of that switch. -/
def journal : WorkspaceSwitchJournal :=
  ⟨"operation-1", "shop", "workshop", .targetSelected, "2026-02-01T00:00:00.000Z"⟩

/-- The world before the new build starts. -/
def world : StartupWorld WorkspaceRegistry :=
  ⟨some switched, some journal, [], none, some (SampleUpdate.accepted SampleUpdate.oldRelease),
    none⟩

/-- The new build brings a migration for the workshop. -/
def migrating : StartInput :=
  { WorkspaceMigration.Sample.newer with
    inventory := some ⟨some "workshop", [⟨"shop", false, .current, 3, 0⟩,
      ⟨"workshop", true, .compatiblePending, 3, 1⟩]⟩ }

/-- The new build brings no migration. -/
def settled : StartInput :=
  { WorkspaceMigration.Sample.newer with
    inventory := some ⟨some "workshop", [⟨"shop", false, .current, 3, 0⟩,
      ⟨"workshop", true, .current, 3, 0⟩]⟩ }

/-- The start goes back to the shop, and the next one throws before it offers anything. -/
theorem migrating_locked_out :
    (failingStart id migrating world []).1 = .returned .relaunchRequired ∧
      (resolveWorkspace id migrating (failingStart id migrating world []).2.1 []).1 =
        .threw (.migration .recoveryRequired) ∧
      ¬ OffersSource id migrating "shop" (failingStart id migrating world []).2.1 := by
  have hthrows : (resolveWorkspace id migrating
      (failingStart id migrating world []).2.1 []).1 =
        .threw (.migration .recoveryRequired) := by decide +kernel
  refine ⟨by decide +kernel, hthrows, ?_⟩
  rintro ⟨resolved, hreturned, _⟩
  rw [hthrows] at hreturned
  cases hreturned

theorem nothingToMigrate_settled : NothingToMigrate id settled world.migrating where
  notAnnounced := by
    rintro ⟨journal, registry, hjournal, _⟩
    cases hjournal
  notPlanned := by
    rintro registry plan hregistry hplan
    cases hregistry
    have hstart : startPlan settled world.acceptedBuild switched.toWorkspaceRegistry =
        .ok ⟨some ⟨"workshop", true, .current, 3, 0⟩, .notRequired, []⟩ := by decide +kernel
    have hsame := hstart.symm.trans hplan
    cases hsame
    rfl

/-- Without a migration the next start offers the shop. -/
theorem settled_offers_source :
    OffersSource id settled "shop" (failingStart id settled world []).2.1 :=
  have hfails : Ends (failingStart id settled) world (.returned .relaunchRequired)
      (failingStart id settled world []).2.1 := ⟨[], by decide +kernel, rfl⟩
  (next_start_offers_source_iff Function.injective_id rfl rfl hfails).mpr nothingToMigrate_settled

end WorkspaceStartup.Sample
