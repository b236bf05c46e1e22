import Eky.WorkspaceRegistry

/-! # Publishing a workspace in the registry

    `appendReadyWorkspaceEntry` and `appendRecoveredWorkspaceEntry` of
    `workspaceRegistryMutations.ts`.  Two labels conflict if they have the same
    comparison key; what Unicode makes of a label is a parameter. -/

namespace WorkspaceRegistry

open Fallible

/-- The rest of `WorkspaceRegistryMutationFailure`. -/
inductive PublicationFailure
  | capacityExceeded
  | lineageExists
  | workspaceLabelExists
  | workspaceIdExists
  deriving DecidableEq

/-- An installation without a registry has one without workspaces. -/
def readWorkspaceRegistry (value : Option WorkspaceRegistry) : WorkspaceRegistry :=
  value.getD ⟨.v1, none, []⟩

/-- The id is free, and there is room. -/
def assertWorkspaceIdAvailable (registry : WorkspaceRegistry) (workspaceId : WorkspaceId) :
    Except PublicationFailure Unit := do
  throwIf (registry.workspaces.length ≥ maximumEntries) .capacityExceeded
  throwIf (∃ entry ∈ registry.workspaces, entry.workspaceId = workspaceId) .workspaceIdExists

/-- No other workspace has the profile. -/
def assertWorkspaceLineageAvailable (registry : WorkspaceRegistry) (profileId : String) :
    Except PublicationFailure Unit :=
  throwIf (∃ entry ∈ registry.workspaces, entry.profileId = profileId) .lineageExists

/-- `hasWorkspaceLabelConflict`, of a workspace that is not in the registry. -/
def assertWorkspaceLabelAvailable (comparisonKey : String → String)
    (registry : WorkspaceRegistry) (workspaceLabel : String) : Except PublicationFailure Unit :=
  throwIf (∃ entry ∈ registry.workspaces,
    comparisonKey entry.workspaceLabel = comparisonKey workspaceLabel) .workspaceLabelExists

/-- In the first format the first workspace becomes the active one. -/
def workspaceSelectionAfterPublication (formatVersion : RegistryFormat)
    (previousActiveWorkspaceId : Option WorkspaceId) (publishedWorkspaceId : WorkspaceId) :
    Option WorkspaceId :=
  match formatVersion with
  | .v1 => some (previousActiveWorkspaceId.getD publishedWorkspaceId)
  | .v2 => previousActiveWorkspaceId

/-- The registry with one more workspace. -/
def extendedWith (registry : WorkspaceRegistry) (entry : WorkspaceEntry) : WorkspaceRegistry where
  formatVersion := registry.formatVersion
  activeWorkspaceId := workspaceSelectionAfterPublication registry.formatVersion
    registry.activeWorkspaceId entry.workspaceId
  workspaces := registry.workspaces ++ [entry]

/-- The registry with an entry whose id and profile are free. -/
def appendIdentityCheckedWorkspaceEntry (registry : WorkspaceRegistry) (entry : WorkspaceEntry) :
    Except PublicationFailure WorkspaceRegistry := do
  registry.assertWorkspaceIdAvailable entry.workspaceId
  registry.assertWorkspaceLineageAvailable entry.profileId
  return registry.extendedWith entry

/-- The same, if the label is free. -/
def appendReadyWorkspaceEntry (comparisonKey : String → String) (registry : WorkspaceRegistry)
    (entry : WorkspaceEntry) : Except PublicationFailure WorkspaceRegistry := do
  let next ← registry.appendIdentityCheckedWorkspaceEntry entry
  registry.assertWorkspaceLabelAvailable comparisonKey entry.workspaceLabel
  return next

/-- What was published under a label before is not stranded by a conflict of labels. -/
def appendRecoveredWorkspaceEntry (registry : WorkspaceRegistry) (entry : WorkspaceEntry) :
    Except PublicationFailure WorkspaceRegistry :=
  registry.appendIdentityCheckedWorkspaceEntry entry

/-- The entry of a new workspace. -/
def createReadyWorkspaceEntry (workspaceId : WorkspaceId)
    (workspaceLabel profileId createdAt : String) : WorkspaceEntry :=
  ⟨workspaceId, workspaceLabel, profileId, .ready, createdAt⟩

/-! ## When they succeed -/

/-- There is room for a workspace, and none has the identifier. -/
structure IdAvailable (registry : WorkspaceRegistry) (workspaceId : WorkspaceId) : Prop where
  room : registry.workspaces.length < maximumEntries
  fresh : ∀ entry ∈ registry.workspaces, entry.workspaceId ≠ workspaceId

/-- No workspace has the profile. -/
def LineageAvailable (registry : WorkspaceRegistry) (profileId : String) : Prop :=
  ∀ entry ∈ registry.workspaces, entry.profileId ≠ profileId

variable {registry extended : WorkspaceRegistry} {entry : WorkspaceEntry}
  {workspaceId : WorkspaceId} {profileId : String} {comparisonKey : String → String}

theorem assertWorkspaceIdAvailable_eq_ok {u : Unit} :
    registry.assertWorkspaceIdAvailable workspaceId = .ok u ↔ registry.IdAvailable workspaceId := by
  rw [assertWorkspaceIdAvailable, bind_eq_ok]
  simp only [throwIf_eq_ok, Nat.not_le, ge_iff_le, not_exists, not_and]
  constructor
  · rintro ⟨_, hroom, hfresh⟩
    exact ⟨hroom, hfresh⟩
  · intro h
    exact ⟨(), h.room, h.fresh⟩

theorem assertWorkspaceLineageAvailable_eq_ok {u : Unit} :
    registry.assertWorkspaceLineageAvailable profileId = .ok u ↔
      registry.LineageAvailable profileId := by
  rw [assertWorkspaceLineageAvailable, throwIf_eq_ok]
  simp only [not_exists, not_and, LineageAvailable]

theorem appendRecoveredWorkspaceEntry_eq_ok :
    registry.appendRecoveredWorkspaceEntry entry = .ok extended ↔
      registry.IdAvailable entry.workspaceId ∧ registry.LineageAvailable entry.profileId ∧
        extended = registry.extendedWith entry := by
  rw [appendRecoveredWorkspaceEntry, appendIdentityCheckedWorkspaceEntry]
  simp only [bind_eq_ok, pure_eq_ok, assertWorkspaceIdAvailable_eq_ok,
    assertWorkspaceLineageAvailable_eq_ok]
  constructor
  · rintro ⟨_, hid, _, hlineage, rfl⟩
    exact ⟨hid, hlineage, rfl⟩
  · rintro ⟨hid, hlineage, rfl⟩
    exact ⟨(), hid, (), hlineage, rfl⟩

/-- What is appended to a registry is appended in a recovery as well. -/
theorem appendRecovered_of_appendReady
    (h : registry.appendReadyWorkspaceEntry comparisonKey entry = .ok extended) :
    registry.appendRecoveredWorkspaceEntry entry = .ok extended := by
  rw [appendReadyWorkspaceEntry, bind_eq_ok] at h
  obtain ⟨next, hnext, h⟩ := h
  obtain ⟨_, _, h⟩ := bind_eq_ok.mp h
  rw [pure_eq_ok.mp h] at hnext
  exact hnext

theorem find_eq_none (h : registry.IdAvailable workspaceId) : registry.find workspaceId = none := by
  refine List.find?_eq_none.mpr fun entry hentry => ?_
  simpa using h.fresh entry hentry

theorem find_extendedWith (h : registry.IdAvailable entry.workspaceId) :
    (registry.extendedWith entry).find entry.workspaceId = some entry := by
  have hnone : registry.workspaces.find? (fun other => other.workspaceId = entry.workspaceId) =
      none := find_eq_none h
  show (registry.workspaces ++ [entry]).find? _ = _
  rw [List.find?_append, hnone]
  simp

/-- A ready workspace stays ready, and so is the new one. -/
theorem isReady_extendedWith (h : registry.IsReady workspaceId) :
    (registry.extendedWith entry).IsReady workspaceId := by
  obtain ⟨other, hother, hid, hready⟩ := h
  exact ⟨other, List.mem_append_left _ hother, hid, hready⟩

theorem isReady_published (hready : entry.lifecycleState = .ready) :
    (registry.extendedWith entry).IsReady entry.workspaceId :=
  ⟨entry, List.mem_append_right _ List.mem_cons_self, rfl, hready⟩

theorem activeValid_extendedWith (h : registry.Valid) (hready : entry.lifecycleState = .ready) :
    (registry.extendedWith entry).ActiveValid := by
  have hactive := h.active
  cases hprevious : registry.activeWorkspaceId with
  | some previous =>
      have hselected : (registry.extendedWith entry).activeWorkspaceId = some previous := by
        show workspaceSelectionAfterPublication _ _ _ = _
        rw [hprevious]
        cases registry.formatVersion <;> rfl
      rw [ActiveValid, hselected]
      exact isReady_extendedWith (h.active_isReady hprevious)
  | none =>
      cases hformat : registry.formatVersion with
      | v1 =>
          have hselected : (registry.extendedWith entry).activeWorkspaceId =
              some entry.workspaceId := by
            show workspaceSelectionAfterPublication _ _ _ = _
            rw [hprevious, hformat]
            rfl
          rw [ActiveValid, hselected]
          exact isReady_published hready
      | v2 =>
          have hselected : (registry.extendedWith entry).activeWorkspaceId = none := by
            show workspaceSelectionAfterPublication _ _ _ = _
            rw [hprevious, hformat]
            rfl
          rw [ActiveValid, hselected]
          exact .inl hformat

theorem nodup_append_map {β : Type} {f : WorkspaceEntry → β}
    (h : (registry.workspaces.map f).Nodup) (hfresh : ∀ other ∈ registry.workspaces,
      f other ≠ f entry) : ((registry.workspaces ++ [entry]).map f).Nodup := by
  rw [List.map_append, List.map_singleton, List.nodup_append]
  refine ⟨h, List.nodup_singleton _, fun value hvalue other hother => ?_⟩
  obtain ⟨before, hbefore, rfl⟩ := List.mem_map.mp hvalue
  rw [List.mem_singleton.mp hother]
  exact hfresh before hbefore

/-- A valid registry to which a workspace can be added stays valid. -/
theorem Valid.extendedWith (h : registry.Valid) (hid : registry.IdAvailable entry.workspaceId)
    (hlineage : registry.LineageAvailable entry.profileId)
    (hready : entry.lifecycleState = .ready) : (registry.extendedWith entry).Valid where
  bounded := by
    show (registry.workspaces ++ [entry]).length ≤ maximumEntries
    rw [List.length_append, List.length_singleton]
    exact hid.room
  uniqueIds := nodup_append_map h.uniqueIds hid.fresh
  uniqueProfiles := nodup_append_map h.uniqueProfiles hlineage
  active := activeValid_extendedWith h hready

theorem valid_readWorkspaceRegistry {value : Option StoredRegistry} :
    (readWorkspaceRegistry (value.map (·.toWorkspaceRegistry))).Valid := by
  cases value with
  | none => exact ⟨by decide, List.nodup_nil, List.nodup_nil, .inr nofun⟩
  | some stored => exact stored.valid

end WorkspaceRegistry
