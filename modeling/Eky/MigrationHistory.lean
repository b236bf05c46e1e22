import Eky.TransitionSystem
import Eky.WorkspaceMigrationProofs

/-! # The first start of a build and the other workspaces — whole runs

    First starts of the newer build, and starts of the older one while it is still
    the accepted one, in any order and cut off anywhere.  A start moves the three
    stores through the stages; a recovery that nothing disturbs ends at the original
    registry, or at the marked one if the newer build has been accepted. -/

namespace WorkspaceMigration

open Program VersionedAcceptedBuildMetadata

variable {Digest : Type} {update : Update Digest}
  {world next : MigrationWorld Digest} {journal : MigrationJournal Digest} {input : StartInput}
  {disturbed : Prop}

/-! ## The recovery of a start -/

/-- The starts that there are: the gate before the workspaces lets the newer build start
    for the update or as the accepted build, and the older one as the accepted build. -/
structure Admitted (update : Update Digest) (world : MigrationWorld Digest)
    (input : StartInput) : Prop where
  running : input.runningBuild = update.source ∨ input.runningBuild = update.target
  exact_of_accepted : acceptedBuild world = some input.runningBuild →
    input.admission = .exactAcceptedBuild
  newer_of_not_accepted : acceptedBuild world ≠ some input.runningBuild →
    input.runningBuild = update.target ∧ isUpdateAdmission input.admission = true

/-- What a start goes on with: no journal, or the one that it resumes. -/
inductive Resumes (update : Update Digest) (input : StartInput) (next : MigrationWorld Digest) :
    Option (MigrationJournal Digest) → Prop
  | nothing (haccepted : acceptedBuild next = some update.source) (hjournal : next.journal = none)
      (hregistry : registryOf next = some update.original.toWorkspaceRegistry) :
      Resumes update input next none
  | journal {journal : MigrationJournal Digest}
      (haccepted : acceptedBuild next = some update.source)
      (hjournal : next.journal = some journal) (hfits : update.Fits journal)
      (hstate : journal.state = .prepared)
      (hregistry : registryOf next = some update.original.toWorkspaceRegistry)
      (hnewer : isUpdateAdmission input.admission = true) :
      Resumes update input next (some journal)
  | accepted (haccepted : acceptedBuild next = some update.target) (hjournal : next.journal = none)
      (hstage : Stage update next) : Resumes update input next none

variable {preparation : Preparation Digest} {resumed : Option (MigrationJournal Digest)}
  {active : WorkspaceId}

theorem Resumes.stage (h : Resumes update input next resumed) : Stage update next := by
  cases h with
  | nothing haccepted hjournal hregistry => exact .idle haccepted hjournal hregistry
  | journal haccepted hjournal hfits _ hregistry _ =>
      exact .pending _ haccepted hjournal hfits (.inl hregistry)
  | accepted _ _ hstage => exact hstage

variable [DecidableEq Digest]

theorem wp_cancelPrepared (haccepted : acceptedBuild world = some update.source)
    (hjournal : world.journal = some journal) (hfits : update.Fits journal)
    (hstate : journal.state = .prepared)
    (hregistry : registryOf world = some update.original.toWorkspaceRegistry) :
    wp (Fate.Disturbed disturbed) (cancelPrepared update.sha256 journal.operationId)
      ⟨fun _ next => acceptedBuild next = some update.source ∧ next.journal = none ∧
          registryOf next = some update.original.toWorkspaceRegistry,
        fun _ => Midway disturbed (Stage update), Midway disturbed (Stage update)⟩ world := by
  have hstage : Stage update world := .pending journal haccepted hjournal hfits (.inl hregistry)
  refine wp_bind (wp_readRequiredJournal hstage hjournal ?_)
  rw [if_neg (not_not.mpr hstate)]
  refine wp_bind (wp_readRequiredRegistry hstage hregistry ?_)
  rw [if_neg (by rw [hfits.sourceDigest]; exact not_not.mpr rfl)]
  exact wp_removeMatching hjournal hstate hstage (.idle haccepted rfl hregistry)
    ⟨haccepted, rfl, hregistry⟩

/-- A recovery ends where a start can begin; disturbed, it stops in a stage. -/
abbrev Recovers (disturbed : Prop) (update : Update Digest) (input : StartInput)
    (world : MigrationWorld Digest) : Post (MigrationWorld Digest) MigrationFailure
      (WorkspaceFirstStartRecoveryOutcome × Option (MigrationJournal Digest)) :=
  ⟨fun result last => acceptedBuild last = acceptedBuild world ∧
      Resumes update input last result.2,
    fun _ => Midway disturbed (Stage update), Midway disturbed (Stage update)⟩

/-- What a recovery with a journal means for a start. -/
theorem wp_recoveryOutcome {kind : MigrationRecoveryKind} (hadmitted : Admitted update world input)
    (hsource : journal.sourceBuild = update.source) (htarget : journal.targetBuild = update.target)
    (hjournal : world.journal = some journal) (h : Recovered update world journal kind next) :
    wp (Fate.Disturbed disturbed) (recoveryOutcome update.sha256 input kind journal)
      (Recovers disturbed update input world) next := by
  cases h with
  | resumable hbefore hstate hfits hregistry =>
      by_cases hrunning : input.runningBuild = update.target
      · have hnewer := hadmitted.newer_of_not_accepted
          (by rw [hbefore, hrunning]; exact fun h => update.ne (Option.some.inj h))
        rw [recoveryOutcome, if_pos ⟨hrunning.trans htarget.symm, hnewer.2⟩]
        exact wp_pure ⟨rfl, .journal hbefore hjournal hfits hstate hregistry hnewer.2⟩
      · have hsourceRuns := hadmitted.running.resolve_right hrunning
        have hexact := hadmitted.exact_of_accepted (by rw [hbefore, hsourceRuns])
        rw [recoveryOutcome, if_neg (by rw [htarget]; exact fun h => hrunning h.1),
          if_pos ⟨hsourceRuns.trans hsource.symm, hexact⟩]
        refine wp_bind (wp_tryCatch ((wp_cancelPrepared hbefore hjournal hfits hstate
          hregistry).mono ?_ (fun _ _ ht => wp_throw ht) fun _ ht => ht))
        rintro _ last ⟨haccepted', hnone, hregistry'⟩
        exact wp_pure ⟨haccepted'.trans hbefore.symm, .nothing haccepted' hnone hregistry'⟩
  | recoveredSource hbefore haccepted hnone hregistry =>
      exact wp_pure ⟨haccepted.trans hbefore.symm, .nothing haccepted hnone hregistry⟩
  | acceptedTarget hbefore haccepted hnone htargetBuild hstage =>
      have hrunning : input.runningBuild = update.target := by
        by_contra hnot
        exact hnot (hadmitted.newer_of_not_accepted
          (by rw [hbefore]; exact fun h => hnot (Option.some.inj h).symm)).1
      rw [recoveryOutcome, if_neg (by rw [htargetBuild]; exact not_not.mpr hrunning)]
      exact wp_pure ⟨haccepted.trans hbefore.symm, .accepted haccepted hnone hstage⟩

theorem wp_recoverBefore_noJournal (hjournal : world.journal = none)
    (hresumes : Resumes update input world none) :
    wp (Fate.Disturbed disturbed) (recoverBeforeWorkspaceResolution update.sha256 input)
      (Recovers disturbed update input world) world := by
  have hrecover : wp (Fate.Disturbed disturbed) (recover update.sha256 input.runningBuild)
      ⟨fun result next => next = world ∧ result = (.noJournal, none),
        fun _ => Midway disturbed (Stage update), Midway disturbed (Stage update)⟩ world := by
    refine wp_bind (wp_observe hresumes.stage ?_)
    rw [hjournal]
    exact wp_pure ⟨rfl, rfl⟩
  refine wp_bind (wp_observe hresumes.stage (wp_bind (wp_tryCatch (hrecover.mono ?_
    (fun _ _ ht => wp_throw ht) fun _ ht => ht))))
  rintro _ _ ⟨rfl, rfl⟩
  exact wp_pure ⟨rfl, hresumes⟩

theorem wp_recoverBefore_journal (hstage : Stage update world)
    (hadmitted : Admitted update world input) (hjournal : world.journal = some journal)
    (hsource : journal.sourceBuild = update.source) (htarget : journal.targetBuild = update.target)
    (hrecover : wp (Fate.Disturbed disturbed)
      (recoverWith update.sha256 input.runningBuild journal)
      ⟨Recovered update world journal, fun _ => Midway disturbed (Stage update),
        Midway disturbed (Stage update)⟩ world) :
    wp (Fate.Disturbed disturbed) (recoverBeforeWorkspaceResolution update.sha256 input)
      (Recovers disturbed update input world) world := by
  have hresult : wp (Fate.Disturbed disturbed) (recover update.sha256 input.runningBuild)
      ⟨fun result next => result.2 = some journal.operationId ∧
          Recovered update world journal result.1 next,
        fun _ => Midway disturbed (Stage update), Midway disturbed (Stage update)⟩ world := by
    refine wp_bind (wp_observe hstage ?_)
    rw [hjournal]
    exact wp_bind (hrecover.mono (fun _ _ ht => wp_pure ⟨rfl, ht⟩) (fun _ _ ht => ht)
      fun _ ht => ht)
  refine wp_bind (wp_observe hstage ?_)
  rw [hjournal]
  refine wp_bind (wp_tryCatch (hresult.mono ?_ (fun _ _ ht => wp_throw ht) fun _ ht => ht))
  rintro ⟨kind, operationId⟩ next ⟨rfl, hrecovered⟩
  have hkind : kind ≠ .noJournal := by
    cases hrecovered <;> nofun
  dsimp only
  rw [if_neg hkind, if_neg (not_not.mpr rfl)]
  exact wp_recoveryOutcome hadmitted hsource htarget hjournal hrecovered

/-- **A RECOVERY SUCCEEDS** unless it is disturbed, and it ends where a start can begin. -/
theorem wp_recoverBefore (hstage : Stage update world) (hadmitted : Admitted update world input) :
    wp (Fate.Disturbed disturbed) (recoverBeforeWorkspaceResolution update.sha256 input)
      (Recovers disturbed update input world) world := by
  cases hstage with
  | idle haccepted hjournal hregistry =>
      exact wp_recoverBefore_noJournal hjournal (.nothing haccepted hjournal hregistry)
  | pending journal haccepted hjournal hfits hregistry =>
      exact wp_recoverBefore_journal (.pending journal haccepted hjournal hfits hregistry)
        hadmitted hjournal hfits.source hfits.target
        (wp_recoverWith_pending haccepted hjournal hfits hregistry hadmitted.running)
  | completing journal haccepted hjournal hfits hstate hregistry hmarks =>
      have hrunning : input.runningBuild = update.target := by
        by_contra hnot
        exact hnot (hadmitted.newer_of_not_accepted
          (by rw [haccepted]; exact fun h => hnot (Option.some.inj h).symm)).1
      have hrecover := @wp_recoverWith_completing _ _ _ _ disturbed _ haccepted hjournal hfits
        hstate hregistry hmarks
      rw [← hrunning] at hrecover
      exact wp_recoverBefore_journal
        (.completing journal haccepted hjournal hfits hstate hregistry hmarks) hadmitted hjournal
        hfits.source hfits.target hrecover
  | completed active ids haccepted hjournal hmarkable hregistry hmarks =>
      exact wp_recoverBefore_noJournal hjournal (.accepted haccepted hjournal
        (.completed active ids haccepted hjournal hmarkable hregistry hmarks))

/-! ## From the preparation to the acceptance -/

/-- The inventory of the start covers the original registry and says what is to be marked. -/
def Lists (update : Update Digest) (input : StartInput) (ids : List WorkspaceId) : Prop :=
  ∃ inventory, input.inventory = some inventory ∧
    inventoryCovers update.original.toWorkspaceRegistry inventory = true ∧
    ∀ id, id ∈ ids ↔ id ∈ passiveInvalid inventory

/-- What a start has prepared: nothing, if it is the accepted build or if nothing is to be
    done, or a journal. -/
inductive Prepared (update : Update Digest) (input : StartInput) (next : MigrationWorld Digest) :
    Preparation Digest → Prop
  | exact (hexact : isUpdateAdmission input.admission = false) (hjournal : next.journal = none)
      (hstage : Stage update next) : Prepared update input next .notRequired
  | notRequired (hlists : Lists update input [])
      (haccepted : acceptedBuild next = some update.source)
      (hjournal : next.journal = none)
      (hregistry : registryOf next = some update.original.toWorkspaceRegistry) :
      Prepared update input next .notRequired
  | required {journal : MigrationJournal Digest}
      (hnewer : isUpdateAdmission input.admission = true)
      (hlists : Lists update input journal.passiveRecoveryWorkspaceIds)
      (haccepted : acceptedBuild next = some update.source)
      (hjournal : next.journal = some journal) (hstate : journal.state = .prepared)
      (hfits : update.Fits journal)
      (hregistry : registryOf next = some update.original.toWorkspaceRegistry) :
      Prepared update input next (.required journal)

/-- The same, once the registry has been transitioned. -/
inductive Transitioned (update : Update Digest) (input : StartInput)
    (next : MigrationWorld Digest) : Preparation Digest → Prop
  | notRequired (h : Prepared update input next .notRequired) :
      Transitioned update input next .notRequired
  | required {journal stored : MigrationJournal Digest}
      (hnewer : isUpdateAdmission input.admission = true)
      (hlists : Lists update input stored.passiveRecoveryWorkspaceIds)
      (haccepted : acceptedBuild next = some update.source)
      (hjournal : next.journal = some stored)
      (hoperation : stored.operationId = journal.operationId)
      (hsource : stored.sourceBuild = journal.sourceBuild)
      (htarget : stored.targetBuild = journal.targetBuild)
      (hstate : stored.state = .registryTransitioned) (hfits : update.Fits stored)
      (hregistry : registryOf next = some (update.marked stored.passiveRecoveryWorkspaceIds)) :
      Transitioned update input next (.required journal)

omit [DecidableEq Digest] in
theorem Prepared.stage (h : Prepared update input next preparation) : Stage update next := by
  cases h with
  | exact _ _ hstage => exact hstage
  | notRequired _ haccepted hjournal hregistry => exact .idle haccepted hjournal hregistry
  | required _ _ haccepted hjournal _ hfits hregistry =>
      exact .pending _ haccepted hjournal hfits (.inl hregistry)

omit [DecidableEq Digest] in
theorem Transitioned.stage (h : Transitioned update input next preparation) :
    Stage update next := by
  cases h with
  | notRequired h => exact h.stage
  | required _ _ haccepted hjournal _ _ _ _ hfits hregistry =>
      exact .pending _ haccepted hjournal hfits (.inr hregistry)

omit [DecidableEq Digest] in
/-- The rules of the ports, for any fate. -/
theorem wp_read {α : Type} {f : MigrationWorld Digest → α} {Q : α → MigrationWorld Digest → Prop}
    (hstage : Stage update world) (hQ : Q (f world) world) :
    wp AnyFate (attempt MigrationFailure.other fun world => .ok (f world, world))
      ⟨Q, fun _ => Stage update, Stage update⟩ world :=
  wp_of_disturbed (wp_observe hstage hQ)

omit [DecidableEq Digest] in
theorem wp_call {Q : Unit → MigrationWorld Digest → Prop} (hstage : Stage update world)
    (hQ : Q () world) :
    wp AnyFate callRuntime ⟨Q, fun _ => Stage update, Stage update⟩ world :=
  wp_of_disturbed (wp_callRuntime hstage hQ)

theorem wp_writeJournal {Q : Unit → MigrationWorld Digest → Prop} (hstage : Stage update world)
    (hnext : Stage update { world with journal := some journal })
    (hQ : Q () { world with journal := some journal }) :
    wp AnyFate (writeJournal journal) ⟨Q, fun _ => Stage update, Stage update⟩ world := by
  refine wp_attempt trivial hstage fun _ _ hwrite => ?_
  split at hwrite
  · cases hwrite
    exact ⟨hnext, hQ⟩
  · cases hwrite

/-- The journal that is written for a plan. -/
theorem wp_prepare {source : BuildVersion} {inventory : WorkspaceMigrationInventory}
    {plan : WorkspaceFirstStartMigrationPlan} (haccepted : acceptedBuild world = some update.source)
    (hjournal : world.journal = none)
    (hregistry : registryOf world = some update.original.toWorkspaceRegistry)
    (hnewer : isUpdateAdmission input.admission = true) (hsource : source = update.source)
    (hrunning : input.runningBuild = update.target) (hinventory : input.inventory = some inventory)
    (hplan : PlanFor update.original.toWorkspaceRegistry active inventory plan) :
    wp AnyFate (prepare update.sha256
        ⟨input.operationId, source, input.runningBuild, input.createdAt⟩ plan)
      ⟨fun journal next => Prepared update input next (.required journal),
        fun _ => Stage update, Stage update⟩ world := by
  have hstage : Stage update world := .idle haccepted hjournal hregistry
  rw [prepare]
  split
  swap
  · exact wp_throw hstage
  rename_i entry _ hentry
  refine wp_bind (wp_of_disturbed (wp_readRequiredRegistry hstage hregistry ?_))
  split
  · exact wp_throw hstage
  refine wp_bind (wp_ofExcept (fun transitioned hmark => ?_) fun _ _ => hstage)
  obtain ⟨hmarkable, rfl⟩ := markPassive_eq_ok.mp hmark
  subst hsource
  have hfits : update.Fits (preparedJournal update.sha256
      ⟨input.operationId, update.source, input.runningBuild, input.createdAt⟩ entry.workspaceId
      plan.passiveRecoveryWorkspaceIds update.original.toWorkspaceRegistry
      (update.marked plan.passiveRecoveryWorkspaceIds)) := ⟨rfl, hrunning, hmarkable, rfl, rfl⟩
  have hprepared : Prepared update input { world with journal := some _ } (.required _) :=
    .required hnewer ⟨inventory, hinventory, hplan.covers, hplan.passive⟩ haccepted rfl rfl
      hfits hregistry
  exact wp_bind (wp_writeJournal hstage hprepared.stage (wp_pure hprepared))

/-- The journal that is resumed is the one that the plan would make. -/
theorem lists_of_resumed {source : BuildVersion} {inventory : WorkspaceMigrationInventory}
    {plan : WorkspaceFirstStartMigrationPlan} {registry : WorkspaceRegistry}
    (hinventory : input.inventory = some inventory)
    (hplan : PlanFor update.original.toWorkspaceRegistry active inventory plan)
    (h : resumedPlanValid update.sha256 input journal plan registry source = true) :
    Lists update input journal.passiveRecoveryWorkspaceIds := by
  simp only [resumedPlanValid, Bool.and_eq_true, decide_eq_true_eq] at h
  obtain ⟨⟨⟨_, hids⟩, _⟩, _⟩ := h
  refine ⟨inventory, hinventory, hplan.covers, ?_⟩
  rw [← hids]
  exact hplan.passive

omit [DecidableEq Digest] in
/-- The business baseline, when the business is at an accepted build. -/
theorem baseline_of_accepted {build : BuildVersion} {metadata : VersionedAcceptedBuildMetadata}
    (hmetadata : world.accepted = some metadata) (haccepted : acceptedBuild world = some build) :
    metadata.readAcceptedBusinessBaseline.toBuildVersion = build := by
  rw [acceptedBuild, hmetadata, Option.bind_some] at haccepted
  have hscope : ¬ metadata.IsSelector := by
    intro hselector
    rw [show metadata.readAcceptedBusinessBuild = none from hselector] at haccepted
    cases haccepted
  obtain ⟨hbusiness, hbaseline⟩ := businessBuild_of_not_selector hscope
  rw [hbusiness] at haccepted
  rw [hbaseline]
  exact Option.some.inj haccepted

/-- The preparation, first or resumed. -/
theorem wp_preparePlanned (hactive : update.original.activeWorkspaceId = some active)
    (hnewer : isUpdateAdmission input.admission = true)
    (hrunning : input.runningBuild = update.target)
    (haccepted : acceptedBuild world = some update.source)
    (h : Resumes update input world resumed) :
    wp AnyFate (preparePlanned update.sha256 input resumed)
      ⟨fun preparation next => Prepared update input next preparation,
        fun _ => Stage update, Stage update⟩ world := by
  have hstage := h.stage
  have hregistry : registryOf world = some update.original.toWorkspaceRegistry := by
    cases h with
    | nothing _ _ hregistry => exact hregistry
    | journal _ _ _ _ hregistry _ => exact hregistry
    | accepted htarget _ _ =>
        rw [haccepted] at htarget
        exact absurd (Option.some.inj htarget) update.ne
  refine wp_bind (wp_read hstage ?_)
  rw [show world.registry.map (·.toWorkspaceRegistry) = some _ from hregistry]
  refine wp_bind (wp_bind (wp_read hstage ?_))
  cases hmetadata : world.accepted with
  | none => exact wp_throw hstage
  | some metadata =>
      have hsource := baseline_of_accepted hmetadata haccepted
      refine wp_pure (wp_bind (wp_bind (wp_call hstage ?_)))
      cases hinventory : input.inventory with
      | none => exact wp_throw hstage
      | some inventory =>
          refine wp_pure (wp_bind (wp_ofExcept (fun plan hresolve => ?_) fun _ _ => hstage))
          have hplan := planFor_of_resolve hnewer hactive hresolve
          cases h with
          | journal _ hjournal hfits hstate _ _ =>
              show wp _ (if resumedPlanValid _ _ _ _ _ _ = true then _ else _) _ _
              split
              · rename_i hvalid
                exact wp_pure (.required hnewer (lists_of_resumed hinventory hplan hvalid)
                  haccepted hjournal hstate hfits hregistry)
              · exact wp_throw hstage
          | nothing _ hjournal _ =>
              show wp _ (if plan.kind = .notRequired then _ else _) _ _
              split
              · rename_i hkind
                refine wp_pure (.notRequired ⟨inventory, hinventory, hplan.covers, ?_⟩ haccepted
                  hjournal hregistry)
                rw [← hplan.notRequired hkind]
                exact hplan.passive
              · refine wp_bind ((wp_prepare haccepted hjournal hregistry hnewer hsource
                  hrunning hinventory hplan).mono (fun _ _ ht => wp_pure ht) (fun _ _ ht => ht)
                  fun _ ht => ht)
          | accepted htarget _ _ =>
              rw [haccepted] at htarget
              exact absurd (Option.some.inj htarget) update.ne

theorem wp_prepareBeforeBackend (hactive : update.original.activeWorkspaceId = some active)
    (hadmitted : Admitted update world input) (h : Resumes update input world resumed) :
    wp AnyFate (prepareBeforeBackend update.sha256 input resumed)
      ⟨fun preparation next => Prepared update input next preparation,
        fun _ => Stage update, Stage update⟩ world := by
  rw [prepareBeforeBackend]
  split
  · rename_i hexact
    have hadmission : isUpdateAdmission input.admission = false := by simpa using hexact
    refine wp_pure (.exact hadmission ?_ h.stage)
    cases h with
    | nothing _ hjournal _ => exact hjournal
    | journal _ _ _ _ _ hnewer =>
        rw [hnewer] at hadmission
        cases hadmission
    | accepted _ hjournal _ => exact hjournal
  · rename_i hnot
    have hnewer : isUpdateAdmission input.admission = true := by simpa using hnot
    have hnotAccepted : acceptedBuild world ≠ some input.runningBuild := by
      intro haccepted
      rw [hadmitted.exact_of_accepted haccepted] at hnewer
      cases hnewer
    have hrunning := (hadmitted.newer_of_not_accepted hnotAccepted).1
    have haccepted : acceptedBuild world = some update.source := by
      cases h with
      | nothing haccepted _ _ => exact haccepted
      | journal haccepted _ _ _ _ _ => exact haccepted
      | accepted htarget _ _ => exact absurd (by rw [htarget, hrunning]) hnotAccepted
    refine wp_tryCatch_maintained (wp_preparePlanned hactive hnewer hrunning haccepted h)
      fun _ t ht => wp_bind (wp_tryCatch_maintained (wp_call ht ?_) fun _ t' ht' => wp_throw ht')
    exact wp_throw ht

/-- The registry is marked before the journal says so. -/
theorem wp_transitionStoredRegistry (haccepted : acceptedBuild world = some update.source)
    (hjournal : world.journal = some journal) (hfits : update.Fits journal)
    (hregistry : registryOf world = some update.original.toWorkspaceRegistry) :
    wp AnyFate (transitionStoredRegistry update.sha256 journal
        update.original.toWorkspaceRegistry)
      ⟨fun _ next => acceptedBuild next = some update.source ∧ next.journal = some journal ∧
          registryOf next = some (update.marked journal.passiveRecoveryWorkspaceIds),
        fun _ => Stage update, Stage update⟩ world := by
  have hstage : Stage update world := .pending journal haccepted hjournal hfits (.inl hregistry)
  rw [transitionStoredRegistry, if_pos hfits.sourceDigest.symm,
    markPassive_eq_ok.mpr ⟨hfits.markable, rfl⟩]
  refine wp_bind (wp_pure ?_)
  dsimp only
  rw [if_neg (by rw [hfits.transitionedDigest]; exact not_not.mpr rfl)]
  split
  · refine wp_of_disturbed (wp_writeRegistry hfits.markable.valid_marked ?_ hstage ?_)
    · rw [hregistry]
      rfl
    · intro stored hstored
      have hnext : registryOf { world with registry := some stored } =
          some (update.marked journal.passiveRecoveryWorkspaceIds) := congrArg some hstored
      exact ⟨.pending journal haccepted hjournal hfits (.inr hnext), haccepted, hjournal, hnext⟩
  · rename_i hsame
    rw [hfits.sourceDigest, hfits.transitionedDigest, not_not] at hsame
    exact wp_pure ⟨haccepted, hjournal, by rw [hregistry, update.injective hsame]⟩

theorem wp_transition (h : Prepared update input world preparation) :
    wp AnyFate (transitionRegistryAfterActiveWorkspaceAcceptance update.sha256 input preparation)
      ⟨fun _ next => Transitioned update input next preparation, fun _ => Stage update,
        Stage update⟩ world := by
  have hstage := h.stage
  cases h with
  | exact hexact hjournal hstage => exact wp_pure (.notRequired (.exact hexact hjournal hstage))
  | notRequired hlists haccepted hjournal hregistry =>
      exact wp_pure (.notRequired (.notRequired hlists haccepted hjournal hregistry))
  | @required journal hnewer hlists haccepted hjournal hstate hfits hregistry =>
      refine wp_bind (wp_bind (wp_of_disturbed (wp_readRequiredJournal hstage hjournal ?_)))
      rw [if_neg (by simp)]
      refine wp_bind (wp_of_disturbed (wp_readRequiredRegistry hstage hregistry ?_))
      rw [if_neg (by rw [hstate]; nofun)]
      refine wp_bind ((wp_transitionStoredRegistry haccepted hjournal hfits hregistry).mono ?_
        (fun _ _ ht => ht) fun _ ht => ht)
      rintro _ next ⟨haccepted', hjournal', hregistry'⟩
      have hnext : ∀ stored : MigrationJournal Digest, stored = { journal with
          state := .registryTransitioned, updatedAt := input.updatedAt } →
          Transitioned update input { next with journal := some stored } (.required journal) := by
        rintro stored rfl
        refine .required hnewer ?_ haccepted' rfl rfl rfl rfl rfl ?_ ?_
        · exact hlists
        · exact hfits.withState
        · exact hregistry'
      exact wp_bind (wp_writeJournal (.pending journal haccepted' hjournal' hfits (.inr hregistry'))
        (hnext _ rfl).stage (wp_pure (wp_pure (hnext _ rfl))))

/-- After the acceptance the target is the accepted build. -/
inductive Accepted (update : Update Digest) (next : MigrationWorld Digest) :
    Preparation Digest → Prop
  | notRequired (hjournal : next.journal = none) (hstage : Stage update next) :
      Accepted update next .notRequired
  | required {journal stored : MigrationJournal Digest}
      (haccepted : acceptedBuild next = some update.target)
      (hjournal : next.journal = some stored)
      (hoperation : stored.operationId = journal.operationId)
      (hsource : stored.sourceBuild = journal.sourceBuild)
      (htarget : stored.targetBuild = journal.targetBuild)
      (hstate : stored.state = .registryTransitioned) (hfits : update.Fits stored)
      (hregistry : registryOf next = some (update.marked stored.passiveRecoveryWorkspaceIds))
      (hmarks : MarksInvalid update next stored.passiveRecoveryWorkspaceIds) :
      Accepted update next (.required journal)

omit [DecidableEq Digest] in
theorem Accepted.stage (h : Accepted update next preparation) : Stage update next := by
  cases h with
  | notRequired _ hstage => exact hstage
  | required haccepted hjournal _ _ _ hstate hfits hregistry hmarks =>
      exact .completing _ haccepted hjournal hfits hstate hregistry hmarks

omit [DecidableEq Digest] in
/-- The acceptance of the target. -/
theorem wp_acceptTarget (hactive : update.original.activeWorkspaceId = some active)
    (hrunning : isUpdateAdmission input.admission = true → input.runningBuild = update.target)
    (h : Transitioned update input world preparation) : wp AnyFate (acceptTarget input)
      ⟨fun _ next => Accepted update next preparation, fun _ => Stage update,
        Stage update⟩ world := by
  -- The metadata is written in one step; before it the source is accepted.
  have hwrite : isUpdateAdmission input.admission = true →
      (acceptedBuild { world with
        accepted := some (createBusinessAcceptedBuildMetadata world.accepted input.running)
        acceptedBy := input.inventory } = some update.target →
        Accepted update { world with
          accepted := some (createBusinessAcceptedBuildMetadata world.accepted input.running)
          acceptedBy := input.inventory } preparation) →
      wp AnyFate (acceptTarget input)
        ⟨fun _ next => Accepted update next preparation, fun _ => Stage update,
          Stage update⟩ world := by
    intro hnewer hnext
    have haccepted := hnext (by
      rw [acceptedBuild, ← hrunning hnewer]
      rcases world.accepted with _ | ⟨_ | _⟩ <;> rfl)
    rw [acceptTarget, if_pos hnewer]
    refine wp_attempt trivial h.stage fun _ _ hperform => ?_
    cases hperform
    exact ⟨haccepted.stage, haccepted⟩
  cases h with
  | required hnewer hlists haccepted hjournal hoperation hsource htarget hstate hfits hregistry =>
      exact hwrite hnewer fun haccepted' => .required haccepted' hjournal hoperation hsource
        htarget hstate hfits hregistry hlists
  | notRequired h =>
      cases h with
      | exact hexact hjournal hstage =>
          rw [acceptTarget, if_neg (by rw [hexact]; exact fun h => by cases h)]
          exact wp_pure (.notRequired hjournal hstage)
      | notRequired hlists haccepted hjournal hregistry =>
          by_cases hnewer : isUpdateAdmission input.admission = true
          · have hmarkable : Markable update.original.toWorkspaceRegistry active [] :=
              ⟨update.original.valid, hactive, ⟨Nat.zero_le _, .nil, (fun h => by cases h)⟩, rfl⟩
            refine hwrite hnewer fun haccepted' => .notRequired hjournal
              (.completed active [] haccepted' hjournal hmarkable ?_ hlists)
            rw [show update.marked [] = _ from withLifecycle_nil _ _]
            exact hregistry
          · rw [acceptTarget, if_neg hnewer]
            exact wp_pure (.notRequired hjournal (.idle haccepted hjournal hregistry))

theorem wp_complete (h : Accepted update world preparation) :
    wp AnyFate (completeAfterTargetAcceptance update.sha256 preparation)
      ⟨fun _ => Stage update, fun _ => Stage update, Stage update⟩ world := by
  have hstage := h.stage
  cases h with
  | notRequired _ hstage => exact wp_pure hstage
  | required haccepted hjournal hoperation hsource htarget hstate hfits hregistry hmarks =>
      rw [completeAfterTargetAcceptance, ← hoperation, ← hsource, ← htarget]
      refine wp_bind (wp_of_disturbed (wp_readRequiredJournal hstage hjournal ?_))
      rw [if_neg (by simp [hstate])]
      refine wp_bind (wp_of_disturbed (wp_readRequiredRegistry hstage hregistry ?_))
      rw [if_neg (by rw [hfits.transitionedDigest]; exact not_not.mpr rfl)]
      refine wp_bind (wp_read hstage ?_)
      rw [if_neg (by
        rw [hfits.target]
        exact not_not.mpr haccepted)]
      exact wp_of_disturbed (wp_removeMatching hjournal hstate hstage
        (.completed _ _ haccepted rfl hfits.markable hregistry hmarks)
        (.completed _ _ haccepted rfl hfits.markable hregistry hmarks))

/-! ## Starts in any order -/

omit [DecidableEq Digest] in
theorem Admitted.of_same (h : Admitted update world input)
    (hsame : acceptedBuild next = acceptedBuild world) : Admitted update next input :=
  ⟨h.running, fun haccepted => h.exact_of_accepted (hsame.symm.trans haccepted),
    fun hnot => h.newer_of_not_accepted fun haccepted => hnot (hsame.trans haccepted)⟩

/-- **STEP**: a start leaves the stores at a stage, however it ends. -/
theorem wp_firstStart (hactive : update.original.activeWorkspaceId = some active)
    (hstage : Stage update world) (hadmitted : Admitted update world input) :
    wp AnyFate (firstStart update.sha256 input)
      ⟨fun _ => Stage update, fun _ => Stage update, Stage update⟩ world := by
  have hnewerRuns : isUpdateAdmission input.admission = true →
      input.runningBuild = update.target := by
    intro hnewer
    refine (hadmitted.newer_of_not_accepted fun haccepted => ?_).1
    rw [hadmitted.exact_of_accepted haccepted] at hnewer
    cases hnewer
  refine wp_bind ((wp_of_disturbed (wp_recoverBefore hstage hadmitted)).mono ?_
    (fun _ _ ht => ht) fun _ ht => ht)
  rintro ⟨_, resumed⟩ next ⟨hsame, hresumes⟩
  refine wp_bind (wp_call hresumes.stage ?_)
  refine wp_bind ((wp_prepareBeforeBackend hactive (hadmitted.of_same hsame) hresumes).mono ?_
    (fun _ _ ht => ht) fun _ ht => ht)
  rintro preparation prepared hprepared
  refine wp_bind (wp_call hprepared.stage ?_)
  refine wp_bind ((wp_transition hprepared).mono ?_ (fun _ _ ht => ht) fun _ ht => ht)
  rintro _ transitioned htransitioned
  refine wp_bind ((wp_acceptTarget hactive hnewerRuns htransitioned).mono ?_ (fun _ _ ht => ht)
    fun _ ht => ht)
  rintro _ accepted haccepted
  exact wp_complete haccepted

/-- First starts in any order, from a registry with an active workspace while the source is
    the accepted build. -/
def system (update : Update Digest) : TransitionSystem (MigrationWorld Digest) where
  initial world := acceptedBuild world = some update.source ∧ world.journal = none ∧
    world.registry = some update.original
  step world next := ∃ input, Admitted update world input ∧
    ∃ outcome, Ends (firstStart update.sha256 input) world outcome next

theorem stage_of_reachable (hactive : update.original.activeWorkspaceId = some active)
    (h : (system update).Reachable world) : Stage update world := by
  refine h.invariant (fun world hinitial => ?_) fun world next _ hstage hstep => ?_
  · obtain ⟨haccepted, hjournal, hregistry⟩ := hinitial
    exact .idle haccepted hjournal (by rw [registryOf, hregistry]; rfl)
  · obtain ⟨input, hadmitted, outcome, hends⟩ := hstep
    have hpost := wp.ends (wp_firstStart hactive hstage hadmitted) hends
    cases outcome <;> exact hpost

omit [DecidableEq Digest] in
/-- The registry is always the original one, up to marks at ready passive workspaces. -/
theorem Stage.marks (hactive : update.original.activeWorkspaceId = some active)
    (h : Stage update world) : ∃ ids, Markable update.original.toWorkspaceRegistry active ids ∧
      registryOf world = some (update.marked ids) := by
  have hnone : Markable update.original.toWorkspaceRegistry active [] :=
    ⟨update.original.valid, hactive, ⟨Nat.zero_le _, .nil, nofun⟩, rfl⟩
  have hunmarked : update.marked [] = update.original.toWorkspaceRegistry := withLifecycle_nil _ _
  have hsame : ∀ {other ids}, Markable update.original.toWorkspaceRegistry other ids →
      Markable update.original.toWorkspaceRegistry active ids := by
    intro other ids hmarkable
    have hother := hmarkable.isActive
    rw [hactive] at hother
    cases hother
    exact hmarkable
  cases h with
  | idle _ _ hregistry => exact ⟨[], hnone, by rw [hunmarked]; exact hregistry⟩
  | pending journal _ _ hfits hregistry =>
      rcases hregistry with hregistry | hregistry
      · exact ⟨[], hnone, by rw [hunmarked]; exact hregistry⟩
      · exact ⟨_, hsame hfits.markable, hregistry⟩
  | completing journal _ _ hfits _ hregistry _ => exact ⟨_, hsame hfits.markable, hregistry⟩
  | completed other ids _ _ hmarkable hregistry _ => exact ⟨ids, hsame hmarkable, hregistry⟩

/-- What a recovery leaves, by the build that is accepted. -/
structure RecoveredTo (update : Update Digest) (world next : MigrationWorld Digest) : Prop where
  sameBuild : acceptedBuild next = acceptedBuild world
  original : acceptedBuild world = some update.source →
    registryOf next = some update.original.toWorkspaceRegistry
  marked : acceptedBuild world ≠ some update.source →
    ∃ inventory, next.acceptedBy = some inventory ∧
      inventoryCovers update.original.toWorkspaceRegistry inventory = true ∧
      registryOf next = some (update.marked (passiveInvalid inventory))

omit [DecidableEq Digest] in
theorem recoveredTo_of_resumes (hsame : acceptedBuild next = acceptedBuild world)
    (h : Resumes update input next resumed) : RecoveredTo update world next := by
  refine ⟨hsame, fun hsource => ?_, fun hnot => ?_⟩
  · cases h with
    | nothing _ _ hregistry => exact hregistry
    | journal _ _ _ _ hregistry _ => exact hregistry
    | accepted htarget _ _ =>
        rw [hsame, hsource] at htarget
        exact absurd (Option.some.inj htarget) update.ne
  · rw [← hsame] at hnot
    cases h with
    | nothing haccepted _ _ => exact absurd haccepted hnot
    | journal haccepted _ _ _ _ _ => exact absurd haccepted hnot
    | accepted _ hjournal hstage =>
        cases hstage with
        | idle haccepted _ _ => exact absurd haccepted hnot
        | pending _ haccepted _ _ _ => exact absurd haccepted hnot
        | completing _ _ hsome _ _ _ _ =>
            rw [hjournal] at hsome
            cases hsome
        | completed _ ids _ _ _ hregistry hmarks =>
            obtain ⟨inventory, hby, hcovers, hids⟩ := hmarks
            refine ⟨inventory, hby, hcovers, hregistry.trans ?_⟩
            rw [Update.marked, Update.marked, markedBy, markedBy, withLifecycle_congr hids]

/-- **ALL OR NOTHING**, in every state that first starts reach: the registry differs from the
    original in marks at ready passive workspaces only; and every start whose recovery is
    not disturbed recovers, to the original registry while the source is the accepted build,
    and else to the one in which the passive workspaces with an invalid history are
    marked. -/
theorem first_start_all_or_nothing {active : WorkspaceId}
    (hactive : update.original.activeWorkspaceId = some active)
    (h : (system update).Reachable world) :
    (∃ ids, Markable update.original.toWorkspaceRegistry active ids ∧
      registryOf world = some (update.marked ids)) ∧
    ∀ input, Admitted update world input →
      ∃ recovered,
        (recoverBeforeWorkspaceResolution update.sha256 input world []).1 = .returned recovered ∧
        RecoveredTo update world
          (recoverBeforeWorkspaceResolution update.sha256 input world []).2.1 := by
  have hstage := stage_of_reachable hactive h
  refine ⟨hstage.marks hactive, fun input hadmitted => ?_⟩
  obtain ⟨recovered, hreturned, hsame, hresumes⟩ :=
    undisturbed (wp_recoverBefore hstage hadmitted)
  exact ⟨recovered, hreturned, recoveredTo_of_resumes hsame hresumes⟩

end WorkspaceMigration

/-! ### A start that was cut off -/

namespace WorkspaceMigration.Sample

open SampleWorkspaces

/-- Registries that differ have digests that differ. -/
def update : Update WorkspaceRegistry where
  sha256 := id
  injective := Function.injective_id
  original := registry
  source := SampleUpdate.oldRelease.toBuildVersion
  target := SampleUpdate.newRelease.toBuildVersion
  ne := by decide

/-- The new build does not know the history of the workshop. -/
def inventory : WorkspaceMigrationInventory :=
  ⟨some "shop", [⟨"shop", true, .compatiblePending, 3, 1⟩,
    ⟨"workshop", false, .invalidHistory, 0, 0⟩]⟩

/-- A start of the new build. -/
def newer : StartInput where
  running := ⟨SampleUpdate.newRelease.toBuildVersion, 1, .pilot,
    SampleUpdate.newRelease.versionValid, SampleUpdate.newRelease.revisionValid⟩
  admission := .authorizedNewerBuild
  inventory := some inventory
  operationId := "operation-1"
  createdAt := 1
  updatedAt := 2
  reported := .rollbackRequired

/-- An installation in which the old build is accepted. -/
def installed : MigrationWorld WorkspaceRegistry :=
  ⟨some registry, none, some (SampleUpdate.accepted SampleUpdate.oldRelease), none⟩

/-- The process stops right after the registry was marked. -/
def fates : List Fate := List.replicate 11 default ++ [⟨.crashes, none⟩]

/-- What a first start that was cut off has left. -/
def cutOff : MigrationWorld WorkspaceRegistry := (firstStart id newer installed fates).2.1

theorem admitted_of_source {world : MigrationWorld WorkspaceRegistry}
    (haccepted : acceptedBuild world = some update.source) : Admitted update world newer where
  running := .inr rfl
  exact_of_accepted := fun h => by
    rw [haccepted] at h
    exact absurd (Option.some.inj h) update.ne
  newer_of_not_accepted := fun _ => ⟨rfl, rfl⟩

theorem acceptedBuild_installed : acceptedBuild installed = some update.source := rfl

theorem reachable_cutOff : (system update).Reachable cutOff :=
  .step (.initial ⟨acceptedBuild_installed, rfl, rfl⟩)
    ⟨newer, admitted_of_source acceptedBuild_installed, (firstStart id newer installed fates).1,
      fates, rfl, rfl⟩

/-- The workshop is marked, and the next start of the build takes the mark back. -/
theorem cutOff_recovers :
    registryOf cutOff = some (update.marked ["workshop"]) ∧
      ∃ recovered, (recoverBeforeWorkspaceResolution id newer cutOff []).1 = .returned recovered ∧
        registryOf (recoverBeforeWorkspaceResolution id newer cutOff []).2.1 =
          some registry.toWorkspaceRegistry := by
  have hmarked : registryOf cutOff = some (update.marked ["workshop"]) := by decide +kernel
  have haccepted : acceptedBuild cutOff = some update.source := by decide +kernel
  obtain ⟨recovered, hreturned, hrecovered⟩ :=
    (first_start_all_or_nothing rfl reachable_cutOff).2 newer (admitted_of_source haccepted)
  exact ⟨hmarked, recovered, hreturned, hrecovered.original haccepted⟩

end WorkspaceMigration.Sample
