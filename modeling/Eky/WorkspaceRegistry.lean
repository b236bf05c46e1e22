import Mathlib.Data.List.Nodup
import Eky.Fallible
import Eky.FileSlots
import Eky.Buffers

/-! # The registry of the workspaces

    `workspaceRegistryTypes.ts`, `workspaceRegistryValidation.ts` and
    `workspaceRegistryMutations.ts`: the workspaces of an installation, with the one
    that is active.  The texts of an entry are taken to be what their validators let
    through. -/

/-- The id of a workspace. -/
abbrev WorkspaceId := String

/-- Whether a workspace may be opened. -/
inductive WorkspaceLifecycleState
  | ready
  | recoveryRequired
  deriving DecidableEq

/-- `LocalWorkspaceRegistryEntryV1`; of the lineage there is only the profile. -/
structure WorkspaceEntry where
  workspaceId : WorkspaceId
  workspaceLabel : String
  profileId : String
  lifecycleState : WorkspaceLifecycleState
  createdAt : String
  deriving DecidableEq

/-- The two formats of the registry. -/
inductive RegistryFormat
  | v1
  | v2
  deriving DecidableEq

/-- A registry as the mutations make it; only a valid one is stored. -/
structure WorkspaceRegistry where
  formatVersion : RegistryFormat
  activeWorkspaceId : Option WorkspaceId
  workspaces : List WorkspaceEntry
  deriving DecidableEq

namespace WorkspaceRegistry

/-- Workspaces of a registry. -/
def maximumEntries : Nat := 64

/-- `findWorkspaceEntry` -/
def find (registry : WorkspaceRegistry) (workspaceId : WorkspaceId) : Option WorkspaceEntry :=
  registry.workspaces.find? fun entry => entry.workspaceId = workspaceId

/-- The workspace is there, and it is ready. -/
def IsReady (registry : WorkspaceRegistry) (workspaceId : WorkspaceId) : Prop :=
  ∃ entry ∈ registry.workspaces, entry.workspaceId = workspaceId ∧ entry.lifecycleState = .ready

instance (registry : WorkspaceRegistry) (workspaceId : WorkspaceId) :
    Decidable (registry.IsReady workspaceId) :=
  inferInstanceAs (Decidable (∃ entry ∈ registry.workspaces, _))

/-- `validateActiveWorkspaceId`: in the first format there is no active workspace only
    if none is ready. -/
def ActiveValid (registry : WorkspaceRegistry) : Prop :=
  match registry.activeWorkspaceId with
  | some active => registry.IsReady active
  | none => registry.formatVersion = .v2 ∨ ∀ entry ∈ registry.workspaces,
      entry.lifecycleState ≠ .ready

instance (registry : WorkspaceRegistry) : Decidable registry.ActiveValid := by
  unfold ActiveValid
  split <;> infer_instance

/-- `validateWorkspaceRegistry` -/
structure Valid (registry : WorkspaceRegistry) : Prop where
  bounded : registry.workspaces.length ≤ maximumEntries
  uniqueIds : (registry.workspaces.map WorkspaceEntry.workspaceId).Nodup
  uniqueProfiles : (registry.workspaces.map WorkspaceEntry.profileId).Nodup
  active : registry.ActiveValid

instance (registry : WorkspaceRegistry) : Decidable registry.Valid :=
  decidable_of_iff (registry.workspaces.length ≤ maximumEntries ∧
      (registry.workspaces.map WorkspaceEntry.workspaceId).Nodup ∧
      (registry.workspaces.map WorkspaceEntry.profileId).Nodup ∧ registry.ActiveValid)
    ⟨fun ⟨h, hids, hprofiles, hactive⟩ => ⟨h, hids, hprofiles, hactive⟩,
      fun h => ⟨h.bounded, h.uniqueIds, h.uniqueProfiles, h.active⟩⟩

variable {registry : WorkspaceRegistry} {workspaceId : WorkspaceId} {entry other : WorkspaceEntry}

theorem find_eq_some (h : registry.find workspaceId = some entry) :
    entry ∈ registry.workspaces ∧ entry.workspaceId = workspaceId := by
  have hid := List.find?_some h
  exact ⟨List.mem_of_find?_eq_some h, by simpa using hid⟩

theorem Valid.eq_of_id (h : registry.Valid) (hentry : entry ∈ registry.workspaces)
    (hother : other ∈ registry.workspaces) (hid : entry.workspaceId = other.workspaceId) :
    entry = other :=
  List.inj_on_of_nodup_map h.uniqueIds hentry hother hid

theorem Valid.find_of_mem (h : registry.Valid) (hentry : entry ∈ registry.workspaces) :
    registry.find entry.workspaceId = some entry := by
  cases hfound : registry.find entry.workspaceId with
  | none =>
      have hnone := List.find?_eq_none.mp hfound entry hentry
      simp at hnone
  | some found =>
      obtain ⟨hmem, hid⟩ := find_eq_some hfound
      rw [h.eq_of_id hmem hentry hid]

theorem Valid.filter_of_mem (h : registry.Valid) (hentry : entry ∈ registry.workspaces) :
    (registry.workspaces.filter fun other => other.workspaceId = entry.workspaceId) = [entry] := by
  have hnodup : (registry.workspaces.filter
      fun other => other.workspaceId = entry.workspaceId).Nodup :=
    (List.Nodup.of_map _ h.uniqueIds).filter _
  have hmem : ∀ other, other ∈ (registry.workspaces.filter
      fun other => other.workspaceId = entry.workspaceId) ↔ other = entry := by
    intro other
    rw [List.mem_filter]
    constructor
    · rintro ⟨hother, hid⟩
      exact h.eq_of_id hother hentry (of_decide_eq_true hid)
    · rintro rfl
      exact ⟨hentry, by simp⟩
  exact List.perm_singleton.mp ((List.perm_ext_iff_of_nodup hnodup (List.nodup_singleton _)).mpr
    fun other => by rw [hmem, List.mem_singleton])

/-- In a valid registry, being ready is a matter of the entry that is found. -/
theorem Valid.isReady_iff (h : registry.Valid) :
    registry.IsReady workspaceId ↔
      ∃ entry, registry.find workspaceId = some entry ∧ entry.lifecycleState = .ready := by
  constructor
  · rintro ⟨entry, hentry, rfl, hready⟩
    exact ⟨entry, h.find_of_mem hentry, hready⟩
  · rintro ⟨entry, hfound, hready⟩
    obtain ⟨hentry, hid⟩ := find_eq_some hfound
    exact ⟨entry, hentry, hid, hready⟩

theorem Valid.active_isReady (h : registry.Valid)
    (hactive : registry.activeWorkspaceId = some workspaceId) : registry.IsReady workspaceId := by
  have hvalid := h.active
  rw [ActiveValid, hactive] at hvalid
  exact hvalid

/-! ## Mutations -/

/-- `WorkspaceRegistryMutationFailure`, as far as it is used here. -/
inductive MutationFailure
  | activeWorkspaceChanged
  | workspaceNotFound
  | workspaceNotReady
  deriving DecidableEq

/-- The pointer is as expected. -/
def assertActiveWorkspaceUnchanged (registry : WorkspaceRegistry)
    (expectedActiveWorkspaceId : Option WorkspaceId) : Except MutationFailure Unit :=
  if registry.activeWorkspaceId = expectedActiveWorkspaceId then .ok ()
  else .error .activeWorkspaceChanged

/-- Moves the pointer to a ready workspace. -/
def selectActiveWorkspace (registry : WorkspaceRegistry)
    (expectedActiveWorkspaceId targetWorkspaceId : WorkspaceId) :
    Except MutationFailure WorkspaceRegistry := do
  assertActiveWorkspaceUnchanged registry (some expectedActiveWorkspaceId)
  match registry.find targetWorkspaceId with
  | none => .error .workspaceNotFound
  | some target =>
    if target.lifecycleState ≠ .ready then .error .workspaceNotReady
    else .ok { registry with activeWorkspaceId := some target.workspaceId }

/-- The first entry with the identifier gets the lifecycle state. -/
def setLifecycleState (workspaces : List WorkspaceEntry) (workspaceId : WorkspaceId)
    (lifecycleState : WorkspaceLifecycleState) : List WorkspaceEntry :=
  workspaces.modify (workspaces.findIdx fun entry => entry.workspaceId = workspaceId)
    fun entry => { entry with lifecycleState := lifecycleState }

/-- Moves the pointer back and marks the target. -/
def selectSourceAndRequireTargetRecovery (registry : WorkspaceRegistry)
    (sourceWorkspaceId targetWorkspaceId : WorkspaceId) :
    Except MutationFailure WorkspaceRegistry := do
  assertActiveWorkspaceUnchanged registry (some targetWorkspaceId)
  match registry.find sourceWorkspaceId, registry.find targetWorkspaceId with
  | some source, some target =>
    if source.lifecycleState ≠ .ready ∨ target.lifecycleState ≠ .ready then
      .error .workspaceNotReady
    else .ok { registry with
      activeWorkspaceId := some sourceWorkspaceId
      workspaces := setLifecycleState registry.workspaces targetWorkspaceId .recoveryRequired }
  | _, _ => .error .workspaceNotFound

/-! ### What they do -/

/-- The other registry differs in the active workspace and in the lifecycle state of
    one workspace, if at all. -/
structure ChangesOnly (workspaceId : WorkspaceId) (registry other : WorkspaceRegistry) : Prop where
  format : other.formatVersion = registry.formatVersion
  workspaces : List.Forall₂ (fun before after => after = before ∨
      (before.workspaceId = workspaceId ∧
        ∃ state, after = { before with lifecycleState := state }))
    registry.workspaces other.workspaces

variable {target : WorkspaceId}

theorem selectActiveWorkspace_eq_ok {expected : WorkspaceId} {selected : WorkspaceRegistry}
    (h : registry.Valid) : registry.selectActiveWorkspace expected target = .ok selected ↔
      registry.activeWorkspaceId = some expected ∧ registry.IsReady target ∧
        selected = { registry with activeWorkspaceId := some target } := by
  rw [h.isReady_iff, selectActiveWorkspace, assertActiveWorkspaceUnchanged]
  by_cases hactive : registry.activeWorkspaceId = some expected
  · rw [if_pos hactive]
    show (match registry.find target with
      | none => _
      | some target => _) = Except.ok selected ↔ _
    cases hfound : registry.find target with
    | none => simp
    | some entry =>
        have hid := (find_eq_some hfound).2
        by_cases hready : entry.lifecycleState = .ready
        · simp [hactive, hready, hid, eq_comm]
        · simp [hready]
  · rw [if_neg hactive]
    constructor
    · intro herror
      cases herror
    · rintro ⟨hexpected, _⟩
      exact absurd hexpected hactive

/-- Only one entry has the identifier, so changing the first is changing it wherever it is. -/
theorem modify_findIdx_eq_map {workspaces : List WorkspaceEntry}
    {change : WorkspaceEntry → WorkspaceEntry}
    (h : (workspaces.map WorkspaceEntry.workspaceId).Nodup) :
    workspaces.modify (workspaces.findIdx fun entry => entry.workspaceId = workspaceId) change =
      workspaces.map fun entry =>
        if entry.workspaceId = workspaceId then change entry else entry := by
  induction workspaces with
  | nil => rfl
  | cons first rest ih =>
      rw [List.map_cons, List.nodup_cons] at h
      rw [List.findIdx_cons, List.map_cons]
      by_cases hfirst : first.workspaceId = workspaceId
      · -- No other entry has the identifier.
        have hrest : ∀ entry ∈ rest, entry.workspaceId ≠ workspaceId := by
          intro entry hentry hid
          exact h.1 (List.mem_map.mpr ⟨entry, hentry, hid.trans hfirst.symm⟩)
        rw [List.map_congr_left fun entry hentry => if_neg (hrest entry hentry)]
        simp [hfirst]
      · rw [if_neg hfirst, ← ih h.2]
        simp [hfirst]

theorem setLifecycleState_eq_map (h : (registry.workspaces.map WorkspaceEntry.workspaceId).Nodup)
    {state : WorkspaceLifecycleState} :
    setLifecycleState registry.workspaces workspaceId state =
      registry.workspaces.map fun entry =>
        if entry.workspaceId = workspaceId then { entry with lifecycleState := state }
        else entry :=
  modify_findIdx_eq_map h

theorem ChangesOnly.refl : ChangesOnly workspaceId registry registry :=
  ⟨rfl, List.forall₂_same.mpr fun _ _ => .inl rfl⟩

theorem ChangesOnly.of_workspaces {other : WorkspaceRegistry}
    (hformat : other.formatVersion = registry.formatVersion)
    (hworkspaces : other.workspaces = registry.workspaces) :
    ChangesOnly workspaceId registry other :=
  ⟨hformat, by rw [hworkspaces]; exact ChangesOnly.refl.workspaces⟩

theorem ChangesOnly.trans {next last : WorkspaceRegistry}
    (h : ChangesOnly workspaceId registry next) (h' : ChangesOnly workspaceId next last) :
    ChangesOnly workspaceId registry last := by
  refine ⟨h'.format.trans h.format, ?_⟩
  have hchange := h.workspaces
  have hchange' := h'.workspaces
  generalize registry.workspaces = first at hchange
  generalize next.workspaces = second at hchange hchange'
  generalize last.workspaces = third at hchange'
  induction hchange generalizing third with
  | nil =>
      cases hchange'
      exact .nil
  | cons hfirst _ ih =>
      cases hchange' with
      | cons hsecond hrest =>
          refine .cons ?_ (ih _ hrest)
          rcases hfirst with rfl | ⟨hid, state, rfl⟩
          · exact hsecond
          · rcases hsecond with rfl | ⟨_, state', rfl⟩
            · exact .inr ⟨hid, state, rfl⟩
            · exact .inr ⟨hid, state', rfl⟩

theorem changesOnly_setLifecycleState
    (h : (registry.workspaces.map WorkspaceEntry.workspaceId).Nodup)
    {state : WorkspaceLifecycleState} {active : Option WorkspaceId} :
    ChangesOnly workspaceId registry { registry with
      activeWorkspaceId := active
      workspaces := setLifecycleState registry.workspaces workspaceId state } := by
  refine ⟨rfl, ?_⟩
  rw [setLifecycleState_eq_map h, List.forall₂_map_right_iff]
  refine List.forall₂_same.mpr fun entry _ => ?_
  split
  · rename_i hid
    exact .inr ⟨hid, state, rfl⟩
  · exact .inl rfl

/-- What identifies the entries is not changed. -/
theorem ChangesOnly.map_eq {β : Type} {f : WorkspaceEntry → β} {other : WorkspaceRegistry}
    (h : ChangesOnly workspaceId registry other)
    (hf : ∀ entry state, f { entry with lifecycleState := state } = f entry) :
    other.workspaces.map f = registry.workspaces.map f := by
  have hchange := h.workspaces
  generalize registry.workspaces = first at hchange
  generalize other.workspaces = second at hchange
  induction hchange with
  | nil => rfl
  | cons hfirst _ ih =>
      rw [List.map_cons, List.map_cons, ih]
      rcases hfirst with rfl | ⟨_, state, rfl⟩
      · rfl
      · rw [hf]

/-- Another workspace that was ready still is. -/
theorem ChangesOnly.isReady {other : WorkspaceRegistry} {id : WorkspaceId}
    (h : ChangesOnly workspaceId registry other) (hne : id ≠ workspaceId)
    (hready : registry.IsReady id) : other.IsReady id := by
  obtain ⟨entry, hentry, rfl, hstate⟩ := hready
  obtain ⟨after, hafter, hchange⟩ := Fallible.exists_right_of_forall₂ h.workspaces hentry
  rcases hchange with rfl | ⟨hid, _⟩
  · exact ⟨after, hafter, rfl, hstate⟩
  · exact absurd hid hne

/-- A valid registry in which something was changed is valid if its active workspace is. -/
theorem ChangesOnly.valid {other : WorkspaceRegistry} (h : registry.Valid)
    (hchange : ChangesOnly workspaceId registry other) (hactive : other.ActiveValid) :
    other.Valid where
  bounded := by
    rw [← hchange.workspaces.length_eq]
    exact h.bounded
  uniqueIds := by
    rw [hchange.map_eq fun _ _ => rfl]
    exact h.uniqueIds
  uniqueProfiles := by
    rw [hchange.map_eq fun _ _ => rfl]
    exact h.uniqueProfiles
  active := hactive

theorem ChangesOnly.exists_entry {other : WorkspaceRegistry} {id : WorkspaceId}
    (h : ChangesOnly workspaceId registry other)
    (hentry : ∃ entry ∈ registry.workspaces, entry.workspaceId = id) :
    ∃ entry ∈ other.workspaces, entry.workspaceId = id := by
  obtain ⟨entry, hmem, rfl⟩ := hentry
  obtain ⟨after, hafter, hchange⟩ := Fallible.exists_right_of_forall₂ h.workspaces hmem
  rcases hchange with rfl | ⟨_, state, rfl⟩
  · exact ⟨after, hafter, rfl⟩
  · exact ⟨_, hafter, rfl⟩

theorem valid_selected (h : registry.Valid) (htarget : registry.IsReady target) :
    Valid { registry with activeWorkspaceId := some target } :=
  ⟨h.bounded, h.uniqueIds, h.uniqueProfiles, htarget⟩

theorem selectSource_eq_ok {source : WorkspaceId} {recovered : WorkspaceRegistry}
    (h : registry.Valid) :
    registry.selectSourceAndRequireTargetRecovery source target = .ok recovered ↔
      registry.activeWorkspaceId = some target ∧ registry.IsReady source ∧
        registry.IsReady target ∧ recovered = { registry with
          activeWorkspaceId := some source
          workspaces := setLifecycleState registry.workspaces target .recoveryRequired } := by
  rw [h.isReady_iff, h.isReady_iff, selectSourceAndRequireTargetRecovery,
    assertActiveWorkspaceUnchanged]
  by_cases hactive : registry.activeWorkspaceId = some target
  · rw [if_pos hactive]
    show (match registry.find source, registry.find target with
      | some source, some target => _
      | _, _ => _) = Except.ok recovered ↔ _
    cases hsource : registry.find source with
    | none => simp
    | some sourceEntry =>
        cases htarget : registry.find target with
        | none => simp
        | some targetEntry =>
            by_cases hready : sourceEntry.lifecycleState = .ready ∧
                targetEntry.lifecycleState = .ready
            · simp [hactive, hready, eq_comm]
            · have hnot : sourceEntry.lifecycleState ≠ .ready ∨
                  targetEntry.lifecycleState ≠ .ready := not_and_or.mp hready
              simp [hnot, hactive]
              tauto
  · rw [if_neg hactive]
    constructor
    · intro herror
      cases herror
    · rintro ⟨hexpected, _⟩
      exact absurd hexpected hactive

theorem valid_rejected {source : WorkspaceId} (h : registry.Valid) (hne : source ≠ target)
    (hsource : registry.IsReady source) : Valid { registry with
      activeWorkspaceId := some source
      workspaces := setLifecycleState registry.workspaces target .recoveryRequired } := by
  have hchange : ChangesOnly target registry { registry with
      activeWorkspaceId := some source
      workspaces := setLifecycleState registry.workspaces target .recoveryRequired } :=
    changesOnly_setLifecycleState h.uniqueIds
  exact hchange.valid h (hchange.isReady hne hsource)

end WorkspaceRegistry

/-- A registry in the store has been validated. -/
structure StoredRegistry extends WorkspaceRegistry where
  valid : toWorkspaceRegistry.Valid
  deriving DecidableEq

namespace SampleWorkspaces

/-- A workspace. -/
def shop : WorkspaceEntry := ⟨"shop", "Shop", "profile-shop", .ready, "2026-01-01T00:00:00.000Z"⟩

/-- Another workspace. -/
def workshop : WorkspaceEntry :=
  ⟨"workshop", "Workshop", "profile-workshop", .ready, "2026-01-02T00:00:00.000Z"⟩

/-- A registry of both. -/
def registry : StoredRegistry := ⟨⟨.v1, some "shop", [shop, workshop]⟩, by decide⟩

end SampleWorkspaces
