import Eky.WorkspaceMigration

/-! # The first start of a build and the other workspaces — what is marked

    Marks in a registry can be taken back, so that the registry is what it was; and a
    journal that fits the registry tells the two apart by their digests. -/

namespace WorkspaceMigration

open Program

variable {registry transitioned : WorkspaceRegistry} {ids : List WorkspaceId} {active : WorkspaceId}

/-! ## Marks -/

theorem withLifecycle_nil (registry : WorkspaceRegistry) (state : WorkspaceLifecycleState) :
    withLifecycle registry [] state = registry := by
  simp [withLifecycle]

variable {state : WorkspaceLifecycleState} {running : BuildVersion}

/-- Only which workspaces are listed matters. -/
theorem withLifecycle_congr {ids' : List WorkspaceId} (h : ∀ id, id ∈ ids ↔ id ∈ ids') :
    withLifecycle registry ids state = withLifecycle registry ids' state := by
  have hcontains : ∀ id, ids.contains id = ids'.contains id := by
    intro id
    rw [Bool.eq_iff_iff, List.contains_iff_mem, List.contains_iff_mem, h]
  simp only [withLifecycle, hcontains]

theorem withLifecycle_twice (registry : WorkspaceRegistry) (ids : List WorkspaceId)
    (state state' : WorkspaceLifecycleState) :
    withLifecycle (withLifecycle registry ids state) ids state' =
      withLifecycle registry ids state' := by
  simp only [withLifecycle, List.map_map]
  congr 1
  refine List.map_congr_left fun entry _ => ?_
  dsimp only [Function.comp]
  split <;> rfl

theorem lifecycleState_of_allInState {entry : WorkspaceEntry} (hvalid : registry.Valid)
    (h : allInState registry ids state = true) (hentry : entry ∈ registry.workspaces)
    (hlisted : entry.workspaceId ∈ ids) : entry.lifecycleState = state := by
  have hstate := List.all_eq_true.mp h entry.workspaceId hlisted
  rw [hvalid.find_of_mem hentry] at hstate
  simpa using hstate

/-- To put workspaces into the state that they are in changes nothing. -/
theorem withLifecycle_same (hvalid : registry.Valid) (h : allInState registry ids state = true) :
    withLifecycle registry ids state = registry := by
  have hsame : (registry.workspaces.map fun entry =>
      if ids.contains entry.workspaceId then { entry with lifecycleState := state } else entry) =
      registry.workspaces := by
    refine (List.map_congr_left fun entry hentry => ?_).trans (List.map_id _)
    split
    · rename_i hlisted
      rw [← lifecycleState_of_allInState hvalid h hentry (List.contains_iff_mem.mp hlisted)]
      rfl
    · rfl
  rw [withLifecycle, hsame]

theorem mem_withLifecycle {entry : WorkspaceEntry} :
    entry ∈ (withLifecycle registry ids state).workspaces ↔
      ∃ before ∈ registry.workspaces,
        entry = if before.workspaceId ∈ ids then { before with lifecycleState := state }
          else before := by
  simp [withLifecycle, eq_comm]

theorem map_withLifecycle {β : Type} {f : WorkspaceEntry → β}
    (hf : ∀ entry state, f { entry with lifecycleState := state } = f entry) :
    (withLifecycle registry ids state).workspaces.map f = registry.workspaces.map f := by
  rw [withLifecycle, List.map_map]
  refine List.map_congr_left fun entry _ => ?_
  dsimp only [Function.comp]
  split
  · exact hf _ _
  · rfl

/-- As long as the active workspace is not listed, the registry stays valid. -/
theorem valid_withLifecycle (hvalid : registry.Valid)
    (hactive : registry.activeWorkspaceId = some active) (hunlisted : active ∉ ids) :
    (withLifecycle registry ids state).Valid where
  bounded := by
    rw [withLifecycle, List.length_map]
    exact hvalid.bounded
  uniqueIds := by
    rw [map_withLifecycle fun _ _ => rfl]
    exact hvalid.uniqueIds
  uniqueProfiles := by
    rw [map_withLifecycle fun _ _ => rfl]
    exact hvalid.uniqueProfiles
  active := by
    obtain ⟨entry, hentry, hid, hready⟩ := hvalid.active_isReady hactive
    have hkept : entry ∈ (withLifecycle registry ids state).workspaces := by
      rw [mem_withLifecycle]
      refine ⟨entry, hentry, ?_⟩
      rw [if_neg (by rw [hid]; exact hunlisted)]
    have hready' : (withLifecycle registry ids state).IsReady active :=
      ⟨entry, hkept, hid, hready⟩
    have hselected : (withLifecycle registry ids state).activeWorkspaceId = some active := hactive
    rw [WorkspaceRegistry.ActiveValid, hselected]
    exact hready'

/-- What can be marked in a registry. -/
structure Markable (registry : WorkspaceRegistry) (active : WorkspaceId)
    (ids : List WorkspaceId) : Prop where
  valid : registry.Valid
  isActive : registry.activeWorkspaceId = some active
  idsValid : PassiveIdsValid ids active
  ready : allInState registry ids .ready = true

/-- The registry with its marks. -/
def markedBy (registry : WorkspaceRegistry) (ids : List WorkspaceId) : WorkspaceRegistry :=
  withLifecycle registry ids .recoveryRequired

theorem Markable.valid_marked (h : Markable registry active ids) : (markedBy registry ids).Valid :=
  valid_withLifecycle h.valid h.isActive h.idsValid.2.2

/-- When workspaces can be marked, and how. -/
theorem markPassive_eq_ok :
    markPassiveWorkspacesRecoveryRequired registry active ids = .ok transitioned ↔
      Markable registry active ids ∧ transitioned = markedBy registry ids := by
  rw [markPassiveWorkspacesRecoveryRequired]
  split
  · rename_i hnot
    constructor
    · nofun
    · rintro ⟨h, _⟩
      rcases hnot with hnot | hnot | hnot
      · exact absurd h.valid hnot
      · exact absurd h.idsValid hnot
      · exact absurd h.isActive hnot
  rename_i hgood
  obtain ⟨hvalid, hids, hactive⟩ : registry.Valid ∧ PassiveIdsValid ids active ∧
      registry.activeWorkspaceId = some active := by tauto
  split
  · rename_i hnil
    subst hnil
    rw [markedBy, withLifecycle_nil]
    constructor
    · rintro ⟨⟩
      exact ⟨⟨hvalid, hactive, hids, rfl⟩, rfl⟩
    · rintro ⟨_, rfl⟩
      rfl
  split
  · rename_i hnot
    constructor
    · nofun
    · rintro ⟨h, _⟩
      rw [h.ready] at hnot
      cases hnot
  · rename_i hready
    have h : Markable registry active ids := ⟨hvalid, hactive, hids, by simpa using hready⟩
    rw [if_pos (show (withLifecycle registry ids .recoveryRequired).Valid from h.valid_marked)]
    constructor
    · rintro ⟨⟩
      exact ⟨h, rfl⟩
    · rintro ⟨_, rfl⟩
      rfl

/-! ## Plans -/

/-- What a plan for an update says. -/
structure PlanFor (registry : WorkspaceRegistry) (active : WorkspaceId)
    (inventory : WorkspaceMigrationInventory) (plan : WorkspaceFirstStartMigrationPlan) :
    Prop where
  covers : inventoryCovers registry inventory = true
  activeWorkspace : plan.activeWorkspace.map (·.workspaceId) = some active
  passive : ∀ id, id ∈ plan.passiveRecoveryWorkspaceIds ↔ id ∈ passiveInvalid inventory
  notRequired : plan.kind = .notRequired → plan.passiveRecoveryWorkspaceIds = []

theorem planFor_of_createUpdatePlan {inventory : WorkspaceMigrationInventory}
    {plan : WorkspaceFirstStartMigrationPlan} (hactive : registry.activeWorkspaceId = some active)
    (h : createUpdatePlan registry inventory = .ok plan) :
    PlanFor registry active inventory plan := by
  rw [createUpdatePlan] at h
  split at h
  · cases h
  rename_i hcovers
  rw [hactive] at h
  dsimp only at h
  cases hfound : inventory.entries.find? fun entry => entry.workspaceId = active with
  | none =>
      rw [hfound] at h
      cases h
  | some activeEntry =>
      have hid := List.find?_some hfound
      rw [hfound] at h
      dsimp only at h
      split at h
      · cases h
      split at h
      · cases h
      cases h
      refine ⟨by simpa using hcovers, by simpa using hid, fun id => List.mem_mergeSort,
        fun hkind => ?_⟩
      -- A plan that marks something is required.
      by_contra hnonempty
      rw [if_pos (.inr (List.length_pos_iff.mpr hnonempty))] at hkind
      cases hkind

theorem planFor_of_resolve {inventory : WorkspaceMigrationInventory}
    {plan : WorkspaceFirstStartMigrationPlan} {admission : PreWorkspaceBuildAdmission}
    {source target : BuildVersion} (hupdate : isUpdateAdmission admission = true)
    (hactive : registry.activeWorkspaceId = some active)
    (h : resolveWorkspaceFirstStartMigrationPlan admission (some inventory) registry (some source)
      target = .ok plan) :
    PlanFor registry active inventory plan := by
  rw [resolveWorkspaceFirstStartMigrationPlan] at h
  split at h
  · cases h
  rw [hupdate] at h
  rw [if_neg (by simp)] at h
  split at h
  · exact planFor_of_createUpdatePlan hactive h
  · cases h

section Digests

variable {Digest : Type} [DecidableEq Digest] {sha256 : WorkspaceRegistry → Digest}

/-- **MARKS CAN BE TAKEN BACK**. -/
theorem restore_marked (h : Markable registry active ids) :
    restoreJournaledPassiveWorkspacesReady sha256 (markedBy registry ids) active ids
      (sha256 registry) (sha256 (markedBy registry ids)) = .ok registry := by
  have hrestored : withLifecycle (markedBy registry ids) ids .ready = registry := by
    rw [markedBy, withLifecycle_twice, withLifecycle_same h.valid h.ready]
  have hmarked : allInState (markedBy registry ids) ids .recoveryRequired = true := by
    refine List.all_eq_true.mpr fun id hid => ?_
    have hready := List.all_eq_true.mp h.ready id hid
    cases hfound : registry.find id with
    | none => simp [hfound] at hready
    | some entry =>
        obtain ⟨hentry, rfl⟩ := WorkspaceRegistry.find_eq_some hfound
        have hmem : { entry with lifecycleState := .recoveryRequired } ∈
            (markedBy registry ids).workspaces := by
          rw [markedBy, mem_withLifecycle]
          exact ⟨entry, hentry, by rw [if_pos hid]⟩
        have hagain := h.valid_marked.find_of_mem hmem
        rw [show (markedBy registry ids).find entry.workspaceId = _ from hagain]
        simp
  rw [restoreJournaledPassiveWorkspacesReady,
    if_neg (by simp only [not_or, not_not]; exact ⟨h.valid_marked, h.idsValid⟩),
    if_neg (by simp only [not_or, not_not]; exact ⟨h.isActive, trivial⟩), hmarked, hrestored]
  simp [h.valid]

/-! ## Journals that fit -/

/-- The journal is about the update from the one build to the other, and its digests are
    those of the registry without and with the marks. -/
structure Fits (sha256 : WorkspaceRegistry → Digest) (original : WorkspaceRegistry)
    (source target : BuildVersion) (journal : MigrationJournal Digest) : Prop where
  source : journal.sourceBuild = source
  target : journal.targetBuild = target
  markable : Markable original journal.activeWorkspaceId journal.passiveRecoveryWorkspaceIds
  sourceDigest : journal.sourceRegistrySha256 = sha256 original
  transitionedDigest : journal.transitionedRegistrySha256 =
    sha256 (markedBy original journal.passiveRecoveryWorkspaceIds)

omit [DecidableEq Digest] in
theorem Fits.withState {source target : BuildVersion} {journal : MigrationJournal Digest}
    (h : Fits sha256 registry source target journal) {state : MigrationJournalState}
    {updatedAt : Instant} :
    Fits sha256 registry source target { journal with state := state, updatedAt := updatedAt } :=
  ⟨h.source, h.target, h.markable, h.sourceDigest, h.transitionedDigest⟩

end Digests

/-! ## Where a migration stands -/

/-- The update, and the registry that it began with. -/
structure Update (Digest : Type) where
  sha256 : WorkspaceRegistry → Digest
  injective : Function.Injective sha256
  original : StoredRegistry
  source : BuildVersion
  target : BuildVersion
  ne : source ≠ target

section Stages

open VersionedAcceptedBuildMetadata

variable {Digest : Type} {update : Update Digest}
  {world : MigrationWorld Digest} {journal : MigrationJournal Digest} {disturbed : Prop}
  {I : MigrationWorld Digest → Prop} {Q : Unit → MigrationWorld Digest → Prop}

/-- The journal belongs to the update. -/
abbrev Update.Fits (update : Update Digest) (journal : MigrationJournal Digest) : Prop :=
  WorkspaceMigration.Fits update.sha256 update.original.toWorkspaceRegistry update.source
    update.target journal

/-- The original registry with marks. -/
abbrev Update.marked (update : Update Digest) (ids : List WorkspaceId) : WorkspaceRegistry :=
  markedBy update.original.toWorkspaceRegistry ids

/-- The registry, if there is one. -/
def registryOf (world : MigrationWorld Digest) : Option WorkspaceRegistry :=
  world.registry.map (·.toWorkspaceRegistry)

/-- The build that the business is at. -/
def acceptedBuild (world : MigrationWorld Digest) : Option BuildVersion :=
  (world.accepted.bind readAcceptedBusinessBuild).map (·.toBuildVersion)

/-- The marked workspaces are the passive ones with an invalid history, in the inventory of
    the start by which the target was accepted. -/
def MarksInvalid (update : Update Digest) (world : MigrationWorld Digest)
    (ids : List WorkspaceId) : Prop :=
  ∃ inventory, world.acceptedBy = some inventory ∧
    inventoryCovers update.original.toWorkspaceRegistry inventory = true ∧
    ∀ id, id ∈ ids ↔ id ∈ passiveInvalid inventory

/-- Where the three stores stand.  Only while the source is accepted can the registry be
    either of the two. -/
inductive Stage (update : Update Digest) (world : MigrationWorld Digest) : Prop
  | idle (haccepted : acceptedBuild world = some update.source) (hjournal : world.journal = none)
      (hregistry : registryOf world = some update.original.toWorkspaceRegistry)
  | pending (journal : MigrationJournal Digest)
      (haccepted : acceptedBuild world = some update.source)
      (hjournal : world.journal = some journal) (hfits : update.Fits journal)
      (hregistry : registryOf world = some update.original.toWorkspaceRegistry ∨
        registryOf world = some (update.marked journal.passiveRecoveryWorkspaceIds))
  | completing (journal : MigrationJournal Digest)
      (haccepted : acceptedBuild world = some update.target)
      (hjournal : world.journal = some journal) (hfits : update.Fits journal)
      (hstate : journal.state = .registryTransitioned)
      (hregistry : registryOf world = some (update.marked journal.passiveRecoveryWorkspaceIds))
      (hmarks : MarksInvalid update world journal.passiveRecoveryWorkspaceIds)
  | completed (active : WorkspaceId) (ids : List WorkspaceId)
      (haccepted : acceptedBuild world = some update.target) (hjournal : world.journal = none)
      (hmarkable : Markable update.original.toWorkspaceRegistry active ids)
      (hregistry : registryOf world = some (update.marked ids))
      (hmarks : MarksInvalid update world ids)

/-! ### The ports -/

theorem wp_observe {α : Type} {f : MigrationWorld Digest → α} {Q : α → MigrationWorld Digest → Prop}
    (hI : I world) (hQ : Q (f world) world) :
    wp (Fate.Disturbed disturbed) (attempt MigrationFailure.other fun world => .ok (f world, world))
      ⟨Q, fun _ => Midway disturbed I, Midway disturbed I⟩ world :=
  wp_attempt_disturbed rfl hI hI hQ

theorem wp_callRuntime (hI : I world) (hQ : Q () world) : wp (Fate.Disturbed disturbed) callRuntime
      ⟨Q, fun _ => Midway disturbed I, Midway disturbed I⟩ world :=
  wp_attempt_disturbed rfl hI hI hQ

/-- The registry is written over one of the same format. -/
theorem wp_writeRegistry {value : WorkspaceRegistry} (hvalid : value.Valid)
    (hformat : (registryOf world).map (·.formatVersion) = some value.formatVersion) (hI : I world)
    (hnext : ∀ stored : StoredRegistry, stored.toWorkspaceRegistry = value →
      I { world with registry := some stored } ∧ Q () { world with registry := some stored }) :
    wp (Fate.Disturbed disturbed) (writeRegistry value)
      ⟨Q, fun _ => Midway disturbed I, Midway disturbed I⟩ world := by
  obtain ⟨hstored, hQ⟩ := hnext ⟨value, hvalid⟩ rfl
  refine wp_attempt_disturbed ?_ hI hstored hQ
  rw [registryOf, Option.map_map] at hformat
  rw [dif_pos hvalid]
  refine if_neg ?_
  rintro ⟨hsecond, hfirst⟩
  rw [show world.registry.map (·.formatVersion) = some value.formatVersion from hformat,
    hfirst] at hsecond
  cases hsecond

theorem wp_removeMatching {state : MigrationJournalState} (hjournal : world.journal = some journal)
    (hstate : journal.state = state) (hI : I world) (hnext : I { world with journal := none })
    (hQ : Q () { world with journal := none }) :
    wp (Fate.Disturbed disturbed) (removeMatching journal.operationId state)
      ⟨Q, fun _ => Midway disturbed I, Midway disturbed I⟩ world := by
  refine wp_attempt_disturbed ?_ hI hnext hQ
  rw [hjournal]
  exact if_pos ⟨rfl, hstate⟩

theorem wp_readRequiredRegistry {registry : WorkspaceRegistry}
    {Q : WorkspaceRegistry → MigrationWorld Digest → Prop} (hI : I world)
    (hregistry : registryOf world = some registry) (hQ : Q registry world) :
    wp (Fate.Disturbed disturbed) readRequiredRegistry
      ⟨Q, fun _ => Midway disturbed I, Midway disturbed I⟩ world := by
  refine wp_bind (wp_observe hI ?_)
  rw [show world.registry.map (·.toWorkspaceRegistry) = some registry from hregistry]
  exact wp_pure hQ

theorem wp_readRequiredJournal {Q : MigrationJournal Digest → MigrationWorld Digest → Prop}
    (hI : I world) (hjournal : world.journal = some journal) (hQ : Q journal world) :
    wp (Fate.Disturbed disturbed) (readRequiredJournal journal.operationId)
      ⟨Q, fun _ => Midway disturbed I, Midway disturbed I⟩ world := by
  refine wp_bind (wp_observe hI ?_)
  rw [hjournal]
  show wp _ (if journal.operationId ≠ journal.operationId then _ else _) _ _
  rw [if_neg (not_not.mpr rfl)]
  exact wp_pure hQ

/-! ### The recovery -/

theorem classify_source (hfits : update.Fits journal)
    (haccepted : acceptedBuild world = some update.source) :
    classifyAcceptedBuild world.accepted journal = .source := by
  rw [acceptedBuild] at haccepted
  rw [classifyAcceptedBuild]
  obtain ⟨build, hbuild, hsource⟩ := Option.map_eq_some_iff.mp haccepted
  rw [hbuild]
  exact if_pos (by rw [hsource, hfits.source])

theorem classify_target (hfits : update.Fits journal)
    (haccepted : acceptedBuild world = some update.target) :
    classifyAcceptedBuild world.accepted journal = .target := by
  rw [acceptedBuild] at haccepted
  rw [classifyAcceptedBuild]
  obtain ⟨build, hbuild, htarget⟩ := Option.map_eq_some_iff.mp haccepted
  rw [hbuild]
  refine (if_neg ?_).trans (if_pos ?_)
  · rw [htarget, hfits.source]
    exact update.ne.symm
  · rw [htarget, hfits.target]

variable [DecidableEq Digest]

/-- The marks are taken back, or there were none. -/
theorem wp_restoreSourceRegistry (haccepted : acceptedBuild world = some update.source)
    (hjournal : world.journal = some journal) (hfits : update.Fits journal)
    (hregistry : registryOf world = some (update.marked journal.passiveRecoveryWorkspaceIds)) :
    wp (Fate.Disturbed disturbed)
      (restoreSourceRegistry update.sha256
        (update.marked journal.passiveRecoveryWorkspaceIds) journal)
      ⟨fun _ next => acceptedBuild next = some update.source ∧ next.journal = some journal ∧
          registryOf next = some update.original.toWorkspaceRegistry,
        fun _ => Midway disturbed (Stage update), Midway disturbed (Stage update)⟩ world := by
  have hstage : Stage update world := .pending journal haccepted hjournal hfits (.inr hregistry)
  have hrestored := @restore_marked _ _ _ _ _ update.sha256 hfits.markable
  rw [restoreSourceRegistry, hfits.sourceDigest, hfits.transitionedDigest, hrestored]
  refine wp_bind (wp_pure ?_)
  split
  · refine wp_writeRegistry update.original.valid ?_ hstage ?_
    · rw [hregistry]
      rfl
    · intro stored hstored
      have hnext : registryOf { world with registry := some stored } =
          some update.original.toWorkspaceRegistry := by rw [← hstored]; rfl
      exact ⟨.pending journal haccepted hjournal hfits (.inl hnext), haccepted, hjournal, hnext⟩
  · rename_i hsame
    have hequal := update.injective (not_not.mp hsame)
    exact wp_pure ⟨haccepted, hjournal, by rw [hregistry, hequal]⟩

/-- What a recovery with a journal comes to, by what is accepted. -/
inductive Recovered (update : Update Digest) (world : MigrationWorld Digest)
    (journal : MigrationJournal Digest) : MigrationRecoveryKind → MigrationWorld Digest → Prop
  | resumable (hbefore : acceptedBuild world = some update.source)
      (hstate : journal.state = .prepared) (hfits : update.Fits journal)
      (hregistry : registryOf world = some update.original.toWorkspaceRegistry) :
      Recovered update world journal .resumable world
  | recoveredSource {next : MigrationWorld Digest}
      (hbefore : acceptedBuild world = some update.source)
      (haccepted : acceptedBuild next = some update.source) (hjournal : next.journal = none)
      (hregistry : registryOf next = some update.original.toWorkspaceRegistry) :
      Recovered update world journal .recoveredSource next
  | acceptedTarget {next : MigrationWorld Digest}
      (hbefore : acceptedBuild world = some update.target)
      (haccepted : acceptedBuild next = some update.target) (hjournal : next.journal = none)
      (htarget : journal.targetBuild = update.target) (hstage : Stage update next) :
      Recovered update world journal .acceptedTarget next

section

variable (haccepted : acceptedBuild world = some update.source)
  (hjournal : world.journal = some journal)
  (hfits : update.Fits journal)
include haccepted hjournal hfits

theorem wp_recoverPrepared (hstate : journal.state = .prepared) {registry : WorkspaceRegistry}
    (hregistry : registryOf world = some registry)
    (hwhich : registry = update.original.toWorkspaceRegistry ∨
      registry = update.marked journal.passiveRecoveryWorkspaceIds) : wp (Fate.Disturbed disturbed)
      (recoverPrepared update.sha256 running registry .source journal)
      ⟨Recovered update world journal, fun _ => Midway disturbed (Stage update),
        Midway disturbed (Stage update)⟩ world := by
  rw [recoverPrepared, hfits.sourceDigest, hfits.transitionedDigest]
  by_cases horiginal : registry = update.original.toWorkspaceRegistry
  · rw [if_pos ⟨rfl, congrArg update.sha256 horiginal⟩]
    exact wp_pure (.resumable haccepted hstate hfits (by rw [hregistry, horiginal]))
  · obtain rfl := hwhich.resolve_left horiginal
    rw [if_neg fun h => horiginal (update.injective h.2), if_pos ⟨rfl, rfl⟩]
    refine wp_bind ((wp_restoreSourceRegistry haccepted hjournal hfits hregistry).mono ?_
      (fun _ _ ht => ht) fun _ ht => ht)
    rintro _ next ⟨haccepted', hjournal', hregistry'⟩
    have hidle : Stage update { next with journal := none } := .idle haccepted' rfl hregistry'
    exact wp_bind (wp_removeMatching hjournal' hstate
      (.pending journal haccepted' hjournal' hfits (.inl hregistry')) hidle
      (wp_pure (.recoveredSource haccepted haccepted' rfl hregistry')))

theorem wp_recoverTransitioned (hstate : journal.state = .registryTransitioned)
    {registry : WorkspaceRegistry} (hregistry : registryOf world = some registry)
    (hwhich : registry = update.original.toWorkspaceRegistry ∨
      registry = update.marked journal.passiveRecoveryWorkspaceIds) : wp (Fate.Disturbed disturbed)
      (recoverTransitioned update.sha256 running registry .source journal)
      ⟨Recovered update world journal, fun _ => Midway disturbed (Stage update),
        Midway disturbed (Stage update)⟩ world := by
  have hremove : ∀ next : MigrationWorld Digest, acceptedBuild next = some update.source →
      next.journal = some journal →
      registryOf next = some update.original.toWorkspaceRegistry →
      wp (Fate.Disturbed disturbed) (removeMatching journal.operationId .registryTransitioned >>=
          fun _ => pure MigrationRecoveryKind.recoveredSource)
        ⟨Recovered update world journal, fun _ => Midway disturbed (Stage update),
          Midway disturbed (Stage update)⟩ next := by
    intro next haccepted' hjournal' hregistry'
    exact wp_bind (wp_removeMatching hjournal' hstate
      (.pending journal haccepted' hjournal' hfits (.inl hregistry'))
      (.idle haccepted' rfl hregistry')
      (wp_pure (.recoveredSource haccepted haccepted' rfl hregistry')))
  rw [recoverTransitioned, hfits.sourceDigest, hfits.transitionedDigest]
  by_cases hmarked : registry = update.marked journal.passiveRecoveryWorkspaceIds
  · rw [if_pos ⟨rfl, congrArg update.sha256 hmarked⟩, hmarked]
    refine wp_bind ((wp_restoreSourceRegistry haccepted hjournal hfits
      (hregistry.trans (congrArg some hmarked))).mono ?_ (fun _ _ ht => ht) fun _ ht => ht)
    rintro _ next ⟨haccepted', hjournal', hregistry'⟩
    exact hremove next haccepted' hjournal' hregistry'
  · obtain rfl := hwhich.resolve_right hmarked
    rw [if_neg fun h => hmarked (update.injective h.2), if_pos ⟨rfl, rfl⟩]
    exact hremove world haccepted hjournal hregistry

/-- While the source is accepted, a recovery goes back, or it resumes what has not begun. -/
theorem wp_recoverWith_pending
    (hregistry : registryOf world = some update.original.toWorkspaceRegistry ∨
      registryOf world = some (update.marked journal.passiveRecoveryWorkspaceIds))
    (hrunning : running = update.source ∨ running = update.target) :
    wp (Fate.Disturbed disturbed) (recoverWith update.sha256 running journal)
      ⟨Recovered update world journal, fun _ => Midway disturbed (Stage update),
        Midway disturbed (Stage update)⟩ world := by
  have hstage : Stage update world := .pending journal haccepted hjournal hfits hregistry
  obtain ⟨registry, hstored, hwhich⟩ : ∃ registry, registryOf world = some registry ∧
      (registry = update.original.toWorkspaceRegistry ∨
        registry = update.marked journal.passiveRecoveryWorkspaceIds) := by
    rcases hregistry with hregistry | hregistry
    · exact ⟨_, hregistry, .inl rfl⟩
    · exact ⟨_, hregistry, .inr rfl⟩
  rw [recoverWith, if_neg (by rw [hfits.source, hfits.target]; tauto)]
  refine wp_bind (wp_observe hstage ?_)
  rw [show world.registry.map (·.toWorkspaceRegistry) = some registry from hstored]
  refine wp_bind (wp_observe hstage ?_)
  rw [classify_source hfits haccepted]
  cases hstate : journal.state with
  | prepared => exact wp_recoverPrepared haccepted hjournal hfits hstate hstored hwhich
  | registryTransitioned =>
      exact wp_recoverTransitioned haccepted hjournal hfits hstate hstored hwhich

end

/-- Once the target is accepted, what is left is to remove the journal. -/
theorem wp_recoverWith_completing (haccepted : acceptedBuild world = some update.target)
    (hjournal : world.journal = some journal) (hfits : update.Fits journal)
    (hstate : journal.state = .registryTransitioned)
    (hregistry : registryOf world = some (update.marked journal.passiveRecoveryWorkspaceIds))
    (hmarks : MarksInvalid update world journal.passiveRecoveryWorkspaceIds) :
    wp (Fate.Disturbed disturbed) (recoverWith update.sha256 update.target journal)
      ⟨Recovered update world journal, fun _ => Midway disturbed (Stage update),
        Midway disturbed (Stage update)⟩ world := by
  have hstage : Stage update world :=
    .completing journal haccepted hjournal hfits hstate hregistry hmarks
  have hdone : Stage update { world with journal := none } :=
    .completed _ _ haccepted rfl hfits.markable hregistry hmarks
  rw [recoverWith, if_neg (by rw [hfits.target]; tauto)]
  refine wp_bind (wp_observe hstage ?_)
  rw [show world.registry.map (·.toWorkspaceRegistry) = some _ from hregistry]
  refine wp_bind (wp_observe hstage ?_)
  rw [classify_target hfits haccepted, hstate]
  show wp _ (recoverTransitioned _ _ _ _ _) _ _
  rw [recoverTransitioned, if_neg (by simp), if_neg (by simp),
    if_pos ⟨rfl, hfits.target.symm, hfits.transitionedDigest.symm⟩]
  exact wp_bind (wp_removeMatching hjournal hstate hstage hdone
    (wp_pure (.acceptedTarget haccepted haccepted rfl hfits.target hdone)))

end Stages

end WorkspaceMigration
