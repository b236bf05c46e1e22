import Eky.WorkspacePublication
import Eky.WorkspaceRegistryBytes

/-! # Mutations of the registry, one after the other

    `removeWorkspaceEntry` and `renameWorkspaceLabel` stand beside the mutations that publish
    and switch.  A run of mutations none of which throws keeps the registry storable
    (`storable_of_run`), and no two labels come to conflict that did not before, unless a
    recovered workspace was appended (`conflict_of_run`).

    The workspace that is to be recovered and the one that takes its place have to be two: with
    one and the same the registry would be left with an active workspace that is not ready. -/

namespace WorkspaceRegistry

open Fallible

/-! ## Mutations -/

/-- Why a change is refused. -/
inductive RegistryRejection
  | registryInvalid
  | mutation (failure : MutationFailure)
  | publication (failure : PublicationFailure)
  deriving DecidableEq

/-- `hasWorkspaceLabelConflict` -/
def HasLabelConflict (comparisonKey : String → String) (registry : WorkspaceRegistry)
    (workspaceLabel : String) (exceptWorkspaceId : WorkspaceId) : Prop :=
  ∃ entry ∈ registry.workspaces, entry.workspaceId ≠ exceptWorkspaceId
    ∧ comparisonKey entry.workspaceLabel = comparisonKey workspaceLabel

instance (comparisonKey : String → String) (registry : WorkspaceRegistry)
    (workspaceLabel : String) (exceptWorkspaceId : WorkspaceId) :
    Decidable (registry.HasLabelConflict comparisonKey workspaceLabel exceptWorkspaceId) :=
  inferInstanceAs (Decidable (∃ entry ∈ registry.workspaces, _))

/-- The registry without the workspace. -/
def without (registry : WorkspaceRegistry) (workspaceId : WorkspaceId) : WorkspaceRegistry where
  formatVersion := registry.formatVersion
  activeWorkspaceId :=
    if registry.activeWorkspaceId = some workspaceId then none else registry.activeWorkspaceId
  workspaces := registry.workspaces.filter fun entry => entry.workspaceId ≠ workspaceId

/-- Removes a workspace. -/
def removeWorkspaceEntry (registry : WorkspaceRegistry)
    (expectedActiveWorkspaceId : Option WorkspaceId) (targetWorkspaceId : WorkspaceId) :
    Except RegistryRejection WorkspaceRegistry := do
  throwIf (registry.formatVersion ≠ .v2) .registryInvalid
  (registry.assertActiveWorkspaceUnchanged expectedActiveWorkspaceId).mapError .mutation
  throwIf (registry.find targetWorkspaceId = none) (.mutation .workspaceNotFound)
  return registry.without targetWorkspaceId

/-- The registry with another label of the workspace. -/
def relabelled (registry : WorkspaceRegistry) (workspaceId : WorkspaceId)
    (workspaceLabel : String) : WorkspaceRegistry :=
  { registry with
    workspaces := registry.workspaces.modify
      (registry.workspaces.findIdx fun entry => entry.workspaceId = workspaceId)
      fun entry => { entry with workspaceLabel := workspaceLabel } }

/-- Renames a workspace. -/
def renameWorkspaceLabel (comparisonKey : String → String) (registry : WorkspaceRegistry)
    (workspaceId : WorkspaceId) (workspaceLabel : String) :
    Except RegistryRejection WorkspaceRegistry := do
  throwIf (isWorkspaceLabel workspaceLabel = false) .registryInvalid
  let current ← orThrow (registry.find workspaceId) (.mutation .workspaceNotFound)
  if current.workspaceLabel = workspaceLabel then return registry
  else
    throwIf (registry.HasLabelConflict comparisonKey workspaceLabel workspaceId)
      (.publication .workspaceLabelExists)
    return registry.relabelled workspaceId workspaceLabel

/-- The changes of a registry. -/
inductive Mutation
  | appendReadyWorkspaceEntry (entry : WorkspaceEntry)
  | appendRecoveredWorkspaceEntry (entry : WorkspaceEntry)
  | removeWorkspaceEntry (expected : Option WorkspaceId) (target : WorkspaceId)
  | selectActiveWorkspace (expected target : WorkspaceId)
  | selectSourceAndRequireTargetRecovery (source target : WorkspaceId)
  | renameWorkspaceLabel (workspaceId : WorkspaceId) (workspaceLabel : String)
  deriving DecidableEq

/-- The registry after a change. -/
def mutate (comparisonKey : String → String) (registry : WorkspaceRegistry) :
    Mutation → Except RegistryRejection WorkspaceRegistry
  | .appendReadyWorkspaceEntry entry =>
      (registry.appendReadyWorkspaceEntry comparisonKey entry).mapError .publication
  | .appendRecoveredWorkspaceEntry entry =>
      (registry.appendRecoveredWorkspaceEntry entry).mapError .publication
  | .removeWorkspaceEntry expected target => registry.removeWorkspaceEntry expected target
  | .selectActiveWorkspace expected target =>
      (registry.selectActiveWorkspace expected target).mapError .mutation
  | .selectSourceAndRequireTargetRecovery source target =>
      (registry.selectSourceAndRequireTargetRecovery source target).mapError .mutation
  | .renameWorkspaceLabel workspaceId workspaceLabel =>
      registry.renameWorkspaceLabel comparisonKey workspaceId workspaceLabel

/-- What the callers see to: a workspace that is appended is ready and its texts are valid,
    and nothing takes the place of itself. -/
def Mutation.Proper : Mutation → Prop
  | .appendReadyWorkspaceEntry entry => ValidTexts entry ∧ entry.lifecycleState = .ready
  | .appendRecoveredWorkspaceEntry entry => ValidTexts entry ∧ entry.lifecycleState = .ready
  | .selectSourceAndRequireTargetRecovery source target => source ≠ target
  | _ => True

/-- The change appends a recovered workspace. -/
def Mutation.isRecovery : Mutation → Bool
  | .appendRecoveredWorkspaceEntry _ => true
  | _ => false

/-- Mutations one after the other. -/
def run (comparisonKey : String → String) (registry : WorkspaceRegistry)
    (mutations : List Mutation) : Except RegistryRejection WorkspaceRegistry :=
  mutations.foldlM (mutate comparisonKey) registry

/-! ## What they keep -/

variable {registry next : WorkspaceRegistry} {comparisonKey : String → String}
  {workspaceId : WorkspaceId}

theorem ok_of_mapError {ε ε' α : Type} {f : ε → ε'} {result : Except ε α} {a : α}
    (h : result.mapError f = .ok a) : result = .ok a := by
  cases result with
  | error e => exact nomatch h
  | ok b => exact congrArg Except.ok (Except.ok.inj h)

theorem relabelled_eq (h : registry.Valid) (workspaceLabel : String) :
    (registry.relabelled workspaceId workspaceLabel).workspaces
      = registry.workspaces.map fun entry =>
        if entry.workspaceId = workspaceId then { entry with workspaceLabel := workspaceLabel }
        else entry :=
  modify_findIdx_eq_map h.uniqueIds

/-- Nothing but the label is changed. -/
theorem map_relabelled {β : Type} {f : WorkspaceEntry → β} (h : registry.Valid)
    (workspaceLabel : String)
    (hf : ∀ entry, f { entry with workspaceLabel := workspaceLabel } = f entry) :
    (registry.relabelled workspaceId workspaceLabel).workspaces.map f
      = registry.workspaces.map f := by
  rw [relabelled_eq h, List.map_map]
  refine List.map_congr_left fun entry _ => ?_
  show f (if entry.workspaceId = workspaceId then _ else entry) = f entry
  split
  · exact hf entry
  · rfl

theorem isReady_iff_mem {id : WorkspaceId} :
    registry.IsReady id ↔ (id, WorkspaceLifecycleState.ready) ∈
      registry.workspaces.map fun entry => (entry.workspaceId, entry.lifecycleState) := by
  simp only [IsReady, List.mem_map, Prod.mk.injEq]

theorem noneReady_iff : (∀ entry ∈ registry.workspaces, entry.lifecycleState ≠ .ready) ↔
    ∀ id, ¬ registry.IsReady id := by
  constructor
  · rintro h id ⟨entry, hentry, -, hready⟩
    exact h entry hentry hready
  · intro h entry hentry hready
    exact h entry.workspaceId ⟨entry, hentry, rfl, hready⟩

theorem valid_relabelled (h : registry.Valid) (workspaceLabel : String) :
    (registry.relabelled workspaceId workspaceLabel).Valid := by
  have hready : ∀ id, (registry.relabelled workspaceId workspaceLabel).IsReady id
      ↔ registry.IsReady id := by
    intro id
    rw [isReady_iff_mem, isReady_iff_mem, map_relabelled h workspaceLabel fun _ => rfl]
  have hactive := h.active
  refine ⟨?_, ?_, ?_, ?_⟩
  · rw [relabelled_eq h, List.length_map]
    exact h.bounded
  · rw [map_relabelled h workspaceLabel fun _ => rfl]
    exact h.uniqueIds
  · rw [map_relabelled h workspaceLabel fun _ => rfl]
    exact h.uniqueProfiles
  · unfold ActiveValid at hactive ⊢
    have hselected : (registry.relabelled workspaceId workspaceLabel).activeWorkspaceId
        = registry.activeWorkspaceId := rfl
    rw [hselected]
    cases hprevious : registry.activeWorkspaceId with
    | some active =>
        rw [hprevious] at hactive
        exact (hready active).mpr hactive
    | none =>
        rw [hprevious] at hactive
        refine hactive.imp_right fun hnone => ?_
        rw [noneReady_iff] at hnone ⊢
        exact fun id hid => hnone id ((hready id).mp hid)

theorem valid_without (h : registry.Valid) (hformat : registry.formatVersion = .v2) :
    (registry.without workspaceId).Valid := by
  have hsublist : (registry.without workspaceId).workspaces.Sublist registry.workspaces :=
    List.filter_sublist
  refine ⟨hsublist.length_le.trans h.bounded, h.uniqueIds.sublist (hsublist.map _),
    h.uniqueProfiles.sublist (hsublist.map _), ?_⟩
  unfold ActiveValid without
  dsimp only
  by_cases hactive : registry.activeWorkspaceId = some workspaceId
  · rw [if_pos hactive]
    exact .inl hformat
  · rw [if_neg hactive]
    cases hprevious : registry.activeWorkspaceId with
    | none => exact .inl hformat
    | some active =>
        obtain ⟨entry, hentry, hid, hready⟩ := h.active_isReady hprevious
        have hne : entry.workspaceId ≠ workspaceId := by
          rintro rfl
          exact hactive (hprevious.trans (congrArg some hid.symm))
        exact ⟨entry, List.mem_filter.mpr ⟨hentry, decide_eq_true hne⟩, hid, hready⟩

variable {entry : WorkspaceEntry} {workspaceLabel : String} {first second : WorkspaceId}

theorem storable_extendedWith (h : registry.Storable)
    (hentry : ValidTexts entry ∧ entry.lifecycleState = .ready)
    (happend : registry.appendRecoveredWorkspaceEntry entry = .ok next) : next.Storable := by
  obtain ⟨hid, hlineage, rfl⟩ := appendRecoveredWorkspaceEntry_eq_ok.mp happend
  refine ⟨h.valid.extendedWith hid hlineage hentry.2, fun other hother => ?_⟩
  rcases List.mem_append.mp hother with hold | hnew
  · exact h.texts other hold
  · rw [List.mem_singleton.mp hnew]
    exact hentry.1

/-- Texts are valid whatever the state of their entry. -/
theorem ValidTexts.withState (h : ValidTexts entry) (state : WorkspaceLifecycleState) :
    ValidTexts { entry with lifecycleState := state } :=
  ⟨h.workspaceId, h.workspaceLabel, h.profileId, h.createdAt⟩

theorem removeWorkspaceEntry_eq_ok {expected : Option WorkspaceId}
    (h : registry.removeWorkspaceEntry expected workspaceId = .ok next) :
    registry.formatVersion = .v2 ∧ next = registry.without workspaceId := by
  simp only [removeWorkspaceEntry, bind_eq_ok, throwIf_eq_ok, pure_eq_ok, not_not] at h
  obtain ⟨_, hformat, _, -, _, -, rfl⟩ := h
  exact ⟨hformat, rfl⟩

theorem renameWorkspaceLabel_eq_ok
    (h : registry.renameWorkspaceLabel comparisonKey workspaceId workspaceLabel = .ok next) :
    next = registry ∨ (isWorkspaceLabel workspaceLabel = true
      ∧ ¬ registry.HasLabelConflict comparisonKey workspaceLabel workspaceId
      ∧ next = registry.relabelled workspaceId workspaceLabel) := by
  simp only [renameWorkspaceLabel, bind_eq_ok, throwIf_eq_ok, Bool.not_eq_false] at h
  obtain ⟨_, hlabel, current, -, h⟩ := h
  split at h
  · exact .inl (pure_eq_ok.mp h).symm
  · simp only [bind_eq_ok, throwIf_eq_ok, pure_eq_ok] at h
    obtain ⟨_, hconflict, rfl⟩ := h
    exact .inr ⟨hlabel, hconflict, rfl⟩

theorem storable_relabelled (h : registry.Storable)
    (hlabel : isWorkspaceLabel workspaceLabel = true) :
    (registry.relabelled workspaceId workspaceLabel).Storable := by
  refine ⟨valid_relabelled h.valid workspaceLabel, fun entry hentry => ?_⟩
  rw [relabelled_eq h.valid] at hentry
  obtain ⟨before, hbefore, rfl⟩ := List.mem_map.mp hentry
  have htexts := h.texts before hbefore
  split
  · exact ⟨htexts.workspaceId, hlabel, htexts.profileId, htexts.createdAt⟩
  · exact htexts

theorem storable_without (h : registry.Storable) (hformat : registry.formatVersion = .v2) :
    (registry.without workspaceId).Storable :=
  ⟨valid_without h.valid hformat, fun entry hentry => h.texts entry (List.mem_of_mem_filter hentry)⟩

/-- **ONE MUTATION** -/
theorem storable_of_mutate (h : registry.Storable) {mutation : Mutation}
    (hproper : mutation.Proper) (hnext : registry.mutate comparisonKey mutation = .ok next) :
    next.Storable := by
  cases mutation with
  | appendReadyWorkspaceEntry entry =>
      exact storable_extendedWith h hproper (appendRecovered_of_appendReady (ok_of_mapError hnext))
  | appendRecoveredWorkspaceEntry entry =>
      exact storable_extendedWith h hproper (ok_of_mapError hnext)
  | removeWorkspaceEntry expected target =>
      obtain ⟨hformat, rfl⟩ := removeWorkspaceEntry_eq_ok hnext
      exact storable_without h hformat
  | selectActiveWorkspace expected target =>
      obtain ⟨-, hready, rfl⟩ := (selectActiveWorkspace_eq_ok h.valid).mp (ok_of_mapError hnext)
      exact ⟨valid_selected h.valid hready, h.texts⟩
  | selectSourceAndRequireTargetRecovery source target =>
      obtain ⟨-, hsource, -, rfl⟩ := (selectSource_eq_ok h.valid).mp (ok_of_mapError hnext)
      refine ⟨valid_rejected h.valid hproper hsource, fun entry hentry => ?_⟩
      have hentry' : entry ∈ setLifecycleState registry.workspaces target .recoveryRequired :=
        hentry
      rw [setLifecycleState_eq_map h.valid.uniqueIds] at hentry'
      obtain ⟨before, hbefore, rfl⟩ := List.mem_map.mp hentry'
      split
      · exact (h.texts before hbefore).withState .recoveryRequired
      · exact h.texts before hbefore
  | renameWorkspaceLabel workspaceId workspaceLabel =>
      rcases renameWorkspaceLabel_eq_ok hnext with rfl | ⟨hlabel, -, rfl⟩
      · exact h
      · exact storable_relabelled h hlabel

theorem storable_of_run (h : registry.Storable) {mutations : List Mutation}
    (hproper : ∀ mutation ∈ mutations, mutation.Proper)
    (hrun : registry.run comparisonKey mutations = .ok next) : next.Storable := by
  induction mutations generalizing registry with
  | nil =>
      obtain rfl := pure_eq_ok.mp hrun
      exact h
  | cons mutation mutations ih =>
      obtain ⟨middle, hmiddle, hrest⟩ := bind_eq_ok.mp hrun
      rw [List.forall_mem_cons] at hproper
      exact ih (storable_of_mutate h hproper.1 hmiddle) hproper.2 hrest

/-! ## Conflicts of labels -/

/-- The labels of two workspaces have one comparison key. -/
def Conflict (comparisonKey : String → String) (registry : WorkspaceRegistry)
    (first second : WorkspaceId) : Prop :=
  first ≠ second ∧ ∃ x ∈ registry.workspaces, ∃ y ∈ registry.workspaces,
    x.workspaceId = first ∧ y.workspaceId = second
      ∧ comparisonKey x.workspaceLabel = comparisonKey y.workspaceLabel

/-- A state that is set changes no label. -/
theorem conflict_of_setLifecycleState (hvalid : registry.Valid) {state : WorkspaceLifecycleState}
    {active : Option WorkspaceId} (h : Conflict comparisonKey { registry with
      activeWorkspaceId := active
      workspaces := setLifecycleState registry.workspaces workspaceId state } first second) :
    registry.Conflict comparisonKey first second := by
  obtain ⟨hne, x, hx, y, hy, hfirst, hsecond, hkey⟩ := h
  dsimp only at hx hy
  rw [setLifecycleState_eq_map hvalid.uniqueIds] at hx hy
  obtain ⟨x', hx', rfl⟩ := List.mem_map.mp hx
  obtain ⟨y', hy', rfl⟩ := List.mem_map.mp hy
  refine ⟨hne, x', hx', y', hy', ?_, ?_, ?_⟩
  · rw [← hfirst]
    split <;> rfl
  · rw [← hsecond]
    split <;> rfl
  · have hlabel : ∀ entry : WorkspaceEntry, WorkspaceEntry.workspaceLabel
        (if entry.workspaceId = workspaceId then { entry with lifecycleState := state } else entry)
          = entry.workspaceLabel := by
      intro entry
      split <;> rfl
    rwa [hlabel, hlabel] at hkey

theorem conflict_of_extendedWith (hlabel : ∀ other ∈ registry.workspaces,
      comparisonKey other.workspaceLabel ≠ comparisonKey entry.workspaceLabel)
    (h : (registry.extendedWith entry).Conflict comparisonKey first second) :
    registry.Conflict comparisonKey first second := by
  obtain ⟨hne, x, hx, y, hy, hfirst, hsecond, hkey⟩ := h
  rcases List.mem_append.mp hx with hx | hx
  · rcases List.mem_append.mp hy with hy | hy
    · exact ⟨hne, x, hx, y, hy, hfirst, hsecond, hkey⟩
    · rw [List.mem_singleton.mp hy] at hkey
      exact absurd hkey (hlabel x hx)
  · rw [List.mem_singleton.mp hx] at hfirst hkey
    rcases List.mem_append.mp hy with hy | hy
    · exact absurd hkey.symm (hlabel y hy)
    · rw [List.mem_singleton.mp hy] at hsecond
      exact absurd (hfirst.symm.trans hsecond) hne

theorem conflict_of_relabelled (hvalid : registry.Valid)
    (hlabel : ¬ registry.HasLabelConflict comparisonKey workspaceLabel workspaceId)
    (h : (registry.relabelled workspaceId workspaceLabel).Conflict comparisonKey first second) :
    registry.Conflict comparisonKey first second := by
  obtain ⟨hne, x, hx, y, hy, hfirst, hsecond, hkey⟩ := h
  rw [relabelled_eq hvalid] at hx hy
  obtain ⟨x', hx', rfl⟩ := List.mem_map.mp hx
  obtain ⟨y', hy', rfl⟩ := List.mem_map.mp hy
  by_cases hxid : x'.workspaceId = workspaceId
  · rw [if_pos hxid] at hfirst hkey
    by_cases hyid : y'.workspaceId = workspaceId
    · rw [if_pos hyid] at hsecond
      have hsame : first = second := by
        rw [← hfirst, ← hsecond]
        exact hxid.trans hyid.symm
      exact absurd hsame hne
    · rw [if_neg hyid] at hkey
      exact absurd ⟨y', hy', hyid, hkey.symm⟩ hlabel
  · rw [if_neg hxid] at hfirst hkey
    by_cases hyid : y'.workspaceId = workspaceId
    · rw [if_pos hyid] at hkey
      exact absurd ⟨x', hx', hxid, hkey⟩ hlabel
    · rw [if_neg hyid] at hsecond hkey
      exact ⟨hne, x', hx', y', hy', hfirst, hsecond, hkey⟩

theorem conflict_of_mutate (h : registry.Storable) {mutation : Mutation}
    (hrecovery : mutation.isRecovery = false)
    (hnext : registry.mutate comparisonKey mutation = .ok next)
    (hconflict : next.Conflict comparisonKey first second) :
    registry.Conflict comparisonKey first second := by
  cases mutation with
  | appendReadyWorkspaceEntry entry =>
      have happend := ok_of_mapError hnext
      obtain ⟨-, -, rfl⟩ := appendRecoveredWorkspaceEntry_eq_ok.mp
        (appendRecovered_of_appendReady happend)
      obtain ⟨_, _, happend⟩ := bind_eq_ok.mp happend
      obtain ⟨_, hlabel, _⟩ := bind_eq_ok.mp happend
      simp only [assertWorkspaceLabelAvailable, throwIf_eq_ok, not_exists, not_and] at hlabel
      exact conflict_of_extendedWith hlabel hconflict
  | appendRecoveredWorkspaceEntry entry => exact nomatch hrecovery
  | removeWorkspaceEntry expected target =>
      obtain ⟨-, rfl⟩ := removeWorkspaceEntry_eq_ok hnext
      obtain ⟨hne, x, hx, y, hy, hrest⟩ := hconflict
      exact ⟨hne, x, List.mem_of_mem_filter hx, y, List.mem_of_mem_filter hy, hrest⟩
  | selectActiveWorkspace expected target =>
      obtain ⟨-, -, rfl⟩ := (selectActiveWorkspace_eq_ok h.valid).mp (ok_of_mapError hnext)
      exact hconflict
  | selectSourceAndRequireTargetRecovery source target =>
      obtain ⟨-, -, -, rfl⟩ := (selectSource_eq_ok h.valid).mp (ok_of_mapError hnext)
      exact conflict_of_setLifecycleState h.valid hconflict
  | renameWorkspaceLabel workspaceId workspaceLabel =>
      rcases renameWorkspaceLabel_eq_ok hnext with rfl | ⟨-, hlabel, rfl⟩
      · exact hconflict
      · exact conflict_of_relabelled h.valid hlabel hconflict

theorem conflict_of_run (h : registry.Storable) {mutations : List Mutation}
    (hproper : ∀ mutation ∈ mutations, mutation.Proper)
    (hrecovery : ∀ mutation ∈ mutations, mutation.isRecovery = false)
    (hrun : registry.run comparisonKey mutations = .ok next)
    (hconflict : next.Conflict comparisonKey first second) :
    registry.Conflict comparisonKey first second := by
  induction mutations generalizing registry with
  | nil =>
      obtain rfl := pure_eq_ok.mp hrun
      exact hconflict
  | cons mutation mutations ih =>
      obtain ⟨middle, hmiddle, hrest⟩ := bind_eq_ok.mp hrun
      rw [List.forall_mem_cons] at hproper hrecovery
      have hstorable := storable_of_mutate h hproper.1 hmiddle
      exact conflict_of_mutate h hrecovery.1 hmiddle (ih hstorable hproper.2 hrecovery.2 hrest)

/-- **THE REGISTRY STAYS WRITABLE** -/
theorem mutations_stay_writable {value : Json.Value} {mutations : List Mutation}
    (hvalue : validateWorkspaceRegistry value = some registry)
    (hproper : ∀ mutation ∈ mutations, mutation.Proper)
    (hrun : registry.run comparisonKey mutations = .ok next) :
    validateWorkspaceRegistry next.toValue = some next
      ∧ (∃ bytes, serializeWorkspaceRegistry next.toValue = some bytes
        ∧ bytes.size ≤ maximumBytes ∧ parseWorkspaceRegistryBytes bytes = some next)
      ∧ ((∀ mutation ∈ mutations, mutation.isRecovery = false) →
        ∀ first second, next.Conflict comparisonKey first second →
          registry.Conflict comparisonKey first second) := by
  have hstorable := storable_of_validate hvalue
  have hnext := storable_of_run hstorable hproper hrun
  refine ⟨validateWorkspaceRegistry_toValue hnext, parse_of_serialize hnext, ?_⟩
  intro hrecovery first second hconflict
  exact conflict_of_run hstorable hproper hrecovery hrun hconflict

/-- A ready workspace. -/
def sampleEntry (workspaceId label profileId : String) : WorkspaceEntry where
  workspaceId := workspaceId
  workspaceLabel := label
  profileId := profileId
  lifecycleState := .ready
  createdAt := "2024-02-29T10:00:00.000Z"

/-- An id. -/
def sampleId : WorkspaceId := "0a1b2c3d-0000-4000-8000-000000000001"

/-- Another id. -/
def otherSampleId : WorkspaceId := "0a1b2c3d-0000-4000-9000-000000000002"

/-- One workspace that is active, in the first format. -/
def sampleRegistry : WorkspaceRegistry where
  formatVersion := .v1
  activeWorkspaceId := some sampleId
  workspaces := [sampleEntry sampleId "Büro \"A\""
    "00000000000000000000000000000000000000000000000000000000000000aa"]

/-- Another workspace. -/
def otherSampleEntry : WorkspaceEntry := sampleEntry otherSampleId "Lager"
  "00000000000000000000000000000000000000000000000000000000000000bb"

theorem sample_validated :
    validateWorkspaceRegistry sampleRegistry.toValue = some sampleRegistry := by
  decide +kernel

/-- A second workspace comes, is selected, fails and gets another label. -/
theorem sample_run_stays_writable : ∃ next,
    sampleRegistry.run id [.appendReadyWorkspaceEntry otherSampleEntry,
      .selectActiveWorkspace sampleId otherSampleId,
      .selectSourceAndRequireTargetRecovery sampleId otherSampleId,
      .renameWorkspaceLabel otherSampleId "Altes Lager"] = .ok next
    ∧ validateWorkspaceRegistry next.toValue = some next
    ∧ ∃ bytes, serializeWorkspaceRegistry next.toValue = some bytes
      ∧ bytes.size ≤ maximumBytes ∧ parseWorkspaceRegistryBytes bytes = some next := by
  have hentry : ValidTexts otherSampleEntry :=
    ⟨by decide +kernel, by decide +kernel, by decide +kernel, by decide +kernel⟩
  have hids : sampleId ≠ otherSampleId := by decide +kernel
  have hrun : sampleRegistry.run id [.appendReadyWorkspaceEntry otherSampleEntry,
      .selectActiveWorkspace sampleId otherSampleId,
      .selectSourceAndRequireTargetRecovery sampleId otherSampleId,
      .renameWorkspaceLabel otherSampleId "Altes Lager"] = .ok
        ⟨.v1, some sampleId, sampleRegistry.workspaces ++ [{ otherSampleEntry with
          workspaceLabel := "Altes Lager", lifecycleState := .recoveryRequired }]⟩ := by
    decide +kernel
  have hproper : ∀ mutation ∈ [Mutation.appendReadyWorkspaceEntry otherSampleEntry,
      .selectActiveWorkspace sampleId otherSampleId,
      .selectSourceAndRequireTargetRecovery sampleId otherSampleId,
      .renameWorkspaceLabel otherSampleId "Altes Lager"], mutation.Proper := by
    simp only [List.forall_mem_cons]
    exact ⟨⟨hentry, rfl⟩, trivial, hids, trivial, fun _ h => nomatch h⟩
  obtain ⟨hvalidated, hbytes, -⟩ := mutations_stay_writable sample_validated hproper hrun
  exact ⟨_, hrun, hvalidated, hbytes⟩

/-- A workspace that takes its own place is active and not ready. -/
theorem own_place_not_writable :
    validateWorkspaceRegistry sampleRegistry.toValue = some sampleRegistry
      ∧ ∃ next, sampleRegistry.run id [.selectSourceAndRequireTargetRecovery sampleId sampleId]
          = .ok next
        ∧ validateWorkspaceRegistry next.toValue = none
        ∧ serializeWorkspaceRegistry next.toValue = none := by
  have hrun : sampleRegistry.run id [.selectSourceAndRequireTargetRecovery sampleId sampleId]
      = .ok ⟨.v1, some sampleId, sampleRegistry.workspaces.map fun entry =>
        { entry with lifecycleState := .recoveryRequired }⟩ := by
    decide +kernel
  have hnone : validateWorkspaceRegistry (toValue ⟨.v1, some sampleId,
      sampleRegistry.workspaces.map fun entry =>
        { entry with lifecycleState := .recoveryRequired }⟩) = none := by
    decide +kernel
  refine ⟨sample_validated, _, hrun, hnone, ?_⟩
  rw [serializeWorkspaceRegistry, hnone]
  rfl

end WorkspaceRegistry
