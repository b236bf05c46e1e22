import Eky.TransitionSystem
import Eky.WorkspaceSwitchProofs

/-! # Switching between workspaces — whole runs

    Switches and startups in any order, each of which may fail in any of its effects
    or be cut off.  The invariant says where the pointer and the journal stand; from
    it follows which workspace the next startup offers, and that it offers one. -/

namespace WorkspaceSwitch

open Program

variable {kept : WorkspaceRegistry → Prop} {base journal : WorkspaceSwitchJournal}
  {accepted : List (WorkspaceId × String)} {registry : StoredRegistry}
  {state : Option WorkspaceSwitchJournalState} {world : SwitchWorld} {disturbed : Prop}

/-! ## What a startup offers -/

/-- There is a switch that can be taken back: the source is ready, and the target is
    another workspace of the registry. -/
structure Pending (base : WorkspaceSwitchJournal) (registry : WorkspaceRegistry) : Prop where
  ne : base.sourceWorkspaceId ≠ base.targetWorkspaceId
  source : registry.IsReady base.sourceWorkspaceId
  target : ∃ entry ∈ registry.workspaces, entry.workspaceId = base.targetWorkspaceId

/-- The mode for a journal that is neither prepared nor in need of a recovery. -/
def modeOf : Option WorkspaceSwitchJournalState → WorkspaceSwitchStartupMode
  | none => .normal
  | some .rollbackSelected => .rollbackValidation
  | some _ => .targetValidation

/-- What a startup offers. -/
structure Offers (base : WorkspaceSwitchJournal) (registry : StoredRegistry)
    (state : Option WorkspaceSwitchJournalState) (selection : WorkspaceSwitchStartupSelection) :
    Prop where
  journal : selection.journal = state.map base.withState
  workspace : selection.workspace ∈ registry.workspaces
  active : registry.activeWorkspaceId = some selection.workspace.workspaceId
  mode : selection.mode = modeOf state

theorem matchesInterruptedRollback (h : Pending base registry.toWorkspaceRegistry)
    (hactive : registry.activeWorkspaceId = some base.sourceWorkspaceId) :
    registryMatchesInterruptedRollbackSelection registry.toWorkspaceRegistry base = true := by
  obtain ⟨source, hsource, hsourceId, hready⟩ := h.source
  obtain ⟨target, htarget, htargetId⟩ := h.target
  have hsources := registry.valid.filter_of_mem hsource
  have htargets := registry.valid.filter_of_mem htarget
  rw [hsourceId] at hsources
  rw [htargetId] at htargets
  rw [registryMatchesInterruptedRollbackSelection, if_neg (by simp [h.ne, hactive]), hsources,
    htargets]
  cases hstate : target.lifecycleState <;> simp [hready, hstate]

/-- What is known between the parts of a startup. -/
def Settled (kept : WorkspaceRegistry → Prop) (base : WorkspaceSwitchJournal)
    (accepted : List (WorkspaceId × String)) (registry : StoredRegistry)
    (P : Option WorkspaceSwitchJournalState → Prop)
    (journal : Option WorkspaceSwitchJournal) (world : SwitchWorld) : Prop :=
  ∃ state, journal = state.map base.withState ∧
    world = standing base accepted registry state ∧ Stands kept base registry state ∧ P state

/-- After the first part no journal is only prepared. -/
def NotPrepared (state : Option WorkspaceSwitchJournalState) : Prop :=
  state ≠ some .prepared ∧ state ≠ some .recoveryRequired

variable {selection : WorkspaceSwitchStartupSelection} {own : WorkspaceSwitchJournalState}
  {f : FollowUp}

theorem wp_clearJournal_disturbed {settles : List (WorkspaceId × String)} {I : SwitchWorld → Prop}
    {Q : Unit → SwitchWorld → Prop} (h : I (standing base accepted registry (some own)))
    (hnext : I (standing base (settles ++ accepted) registry none))
    (hQ : Q () (standing base (settles ++ accepted) registry none)) :
    wp (Fate.Disturbed disturbed) (clearJournal base.operationId settles)
      ⟨Q, fun _ => Midway disturbed I, Midway disturbed I⟩
      (standing base accepted registry (some own)) := by
  refine wp_attempt_disturbed ?_ h hnext hQ
  show (if base.operationId = base.operationId then _ else _) = _
  rw [if_pos rfl]
  rfl

theorem wp_writeJournal_disturbed {next : WorkspaceSwitchJournalState}
    {Q : Unit → SwitchWorld → Prop} (hne : base.sourceWorkspaceId ≠ base.targetWorkspaceId)
    (hallowed : (WorkspaceSwitchJournal.transitions own).contains next = true)
    (h : Stands kept base registry (some own)) (hnext : Stands kept base registry (some next))
    (hQ : Q () (standing base accepted registry (some next))) :
    wp (Fate.Disturbed disturbed) (writeJournal (base.withState next))
      ⟨Q, fun _ => Midway disturbed (Between kept base accepted),
        Midway disturbed (Between kept base accepted)⟩
      (standing base accepted registry (some own)) := by
  have hperform : (if (base.withState next).sourceWorkspaceId ≠
        (base.withState next).targetWorkspaceId ∧
      WorkspaceSwitchJournal.transitionAllowed (some (base.withState own)) (base.withState next)
    then Except.ok ((), standing base accepted registry (some next))
    else .error (.switch .invalid)) =
      (.ok ((), standing base accepted registry (some next)) :
        Except SwitchFailure (Unit × SwitchWorld)) := by
    refine if_pos ⟨hne, ?_⟩
    have hmem : next ∈ WorkspaceSwitchJournal.transitions own := List.contains_iff_mem.mp hallowed
    simp [WorkspaceSwitchJournal.transitionAllowed, WorkspaceSwitchJournal.withState, hmem]
  exact wp_attempt_disturbed hperform h.between hnext.between hQ

theorem wp_settlePrepared (hpending : state ≠ none → Pending base registry.toWorkspaceRegistry)
    (h : Stands kept base registry state) (hstate : state ≠ some .recoveryRequired) :
    wp (Fate.Disturbed disturbed)
      (settlePrepared registry.toWorkspaceRegistry (state.map base.withState))
      ⟨Settled kept base accepted registry fun state' =>
          NotPrepared state' ∧ (state' ≠ none → state ≠ none),
        fun _ => Midway disturbed (Between kept base accepted),
        Midway disturbed (Between kept base accepted)⟩
      (standing base accepted registry state) := by
  cases state with
  | none => exact wp_pure ⟨none, rfl, rfl, h, ⟨nofun, nofun⟩, fun hnone => hnone⟩
  | some own =>
      show wp _ (if own ≠ .prepared then _ else _) _ _
      split
      · rename_i hown
        exact wp_pure ⟨some own, rfl, rfl, h, ⟨by simpa using hown, hstate⟩, fun _ => nofun⟩
      · rename_i hown
        obtain rfl := not_not.mp hown
        split
        · rename_i hactive
          exact wp_bind (wp_clearJournal_disturbed h.between (h.atSource hactive).between
            (wp_pure ⟨none, rfl, rfl, h.atSource hactive, ⟨nofun, nofun⟩, fun _ => nofun⟩))
        · rename_i hnot
          rw [WorkspaceSwitchJournal.withState_source] at hnot
          rw [if_pos (show _ = some (base.withState .prepared).targetWorkspaceId from
            h.active.resolve_left hnot)]
          have hnext : Stands kept base registry (some .targetSelected) := h.forward nofun
          have hne := (hpending (by simp)).ne
          exact wp_bind (wp_writeJournal_disturbed hne (by decide) h hnext
            (wp_pure ⟨some .targetSelected, rfl, rfl, hnext, ⟨nofun, nofun⟩, fun _ => nofun⟩))

/-- After the second part a selection that is recorded stands. -/
def Resolved (base : WorkspaceSwitchJournal) (registry : StoredRegistry)
    (state : Option WorkspaceSwitchJournalState) : Prop :=
  NotPrepared state ∧
    (state = some .targetSelected → registry.activeWorkspaceId = some base.targetWorkspaceId)

/-- The journal learns that the source was selected again. -/
theorem wp_reconcile (hpending : Pending base registry.toWorkspaceRegistry)
    (h : Stands kept base registry (some .targetSelected))
    (hactive : registry.activeWorkspaceId = some base.sourceWorkspaceId) :
    wp (Fate.Disturbed disturbed)
      (reconcileInterruptedRollbackSelection registry.toWorkspaceRegistry
        (base.withState .targetSelected))
      ⟨fun journal t => journal = base.withState .rollbackSelected ∧
          t = standing base accepted registry (some .rollbackSelected),
        fun _ => Midway disturbed (Between kept base accepted),
        Midway disturbed (Between kept base accepted)⟩
      (standing base accepted registry (some .targetSelected)) := by
  have hmatches : registryMatchesInterruptedRollbackSelection registry.toWorkspaceRegistry
      (base.withState .targetSelected) = true :=
    matchesInterruptedRollback ⟨hpending.ne, hpending.source, hpending.target⟩ hactive
  rw [reconcileInterruptedRollbackSelection, hmatches]
  refine wp_bind (wp_tryCatch ?_)
  refine (wp_writeJournal_disturbed hpending.ne (by decide) h (h.atSource hactive)
    (Q := fun _ t => t = standing base accepted registry (some .rollbackSelected)) rfl).mono
    ?_ ?_ fun _ ht => ht
  · rintro _ _ rfl
    exact wp_pure ⟨rfl, rfl⟩
  · -- The write has failed, and so the run is disturbed.
    rintro e t ⟨hdisturbed, ht⟩
    exact wp_disturbed hdisturbed (wp_bind ((maintains_persistRecoveryRequired t ht).mono
      (fun _ _ hu => wp_throw ⟨hdisturbed, hu⟩) (fun _ _ hu => ⟨hdisturbed, hu⟩)
      fun _ hu => ⟨hdisturbed, hu⟩))

theorem wp_settleTargetSelected
    (hpending : state ≠ none → Pending base registry.toWorkspaceRegistry)
    (h : Stands kept base registry state) (hstate : NotPrepared state) :
    wp (Fate.Disturbed disturbed)
      (settleTargetSelected registry.toWorkspaceRegistry (state.map base.withState))
      ⟨Settled kept base accepted registry (Resolved base registry),
        fun _ => Midway disturbed (Between kept base accepted),
        Midway disturbed (Between kept base accepted)⟩
      (standing base accepted registry state) := by
  cases state with
  | none => exact wp_pure ⟨none, rfl, rfl, h, hstate, nofun⟩
  | some own =>
      show wp _ (if own = .targetSelected ∧
        registry.activeWorkspaceId = some base.sourceWorkspaceId then _ else _) _ _
      split
      · rename_i htaken
        obtain ⟨rfl, hactive⟩ := htaken
        refine wp_bind ((wp_reconcile (hpending (by simp)) h hactive).mono ?_ (fun _ _ ht => ht)
          fun _ ht => ht)
        rintro _ _ ⟨rfl, rfl⟩
        exact wp_pure ⟨some .rollbackSelected, rfl, rfl, h.atSource hactive, ⟨nofun, nofun⟩,
          nofun⟩
      · rename_i hnot
        refine wp_pure ⟨some own, rfl, rfl, h, hstate, ?_⟩
        rintro ⟨⟩
        exact h.active.resolve_left fun hactive => hnot ⟨rfl, hactive⟩

theorem resolveMode_eq (h : Stands kept base registry state)
    (hresolved : Resolved base registry state) :
    resolveMode registry.toWorkspaceRegistry (state.map base.withState) =
      .ok (modeOf state) := by
  obtain ⟨⟨hprepared, hrecovery⟩, htarget⟩ := hresolved
  cases state with
  | none => rfl
  | some own =>
      cases own with
      | prepared => exact absurd rfl hprepared
      | recoveryRequired => exact absurd rfl hrecovery
      | targetSelected => exact if_pos ⟨rfl, htarget rfl⟩
      | rollbackSelected =>
          have hactive : registry.activeWorkspaceId = some base.sourceWorkspaceId := by
            obtain ⟨active, hactive, hfits⟩ := h.fits
            cases hfits with
            | source => exact hactive
            | target hstate => exact absurd rfl hstate
          simp [resolveMode, hactive, modeOf]

theorem requireActiveReadyWorkspace_eq {active : WorkspaceId}
    (hactive : registry.activeWorkspaceId = some active) :
    ∃ workspace ∈ registry.workspaces, workspace.workspaceId = active ∧
      requireActiveReadyWorkspace registry.toWorkspaceRegistry active = .ok workspace := by
  obtain ⟨workspace, hfound, hready⟩ := registry.valid.isReady_iff.mp
    (registry.valid.active_isReady hactive)
  obtain ⟨hmem, hid⟩ := WorkspaceRegistry.find_eq_some hfound
  refine ⟨workspace, hmem, hid, ?_⟩
  rw [requireActiveReadyWorkspace, hfound]
  exact if_neg (not_not.mpr hready)

/-- **A STARTUP RESOLVES**: unless the journal says that a recovery is required, only a
    disturbed startup throws. -/
theorem wp_resolve (hpending : state ≠ none → Pending base registry.toWorkspaceRegistry)
    (h : Stands kept base registry state) (hstate : state ≠ some .recoveryRequired) :
    wp (Fate.Disturbed disturbed) resolveWorkspaceSwitchStartup
      ⟨fun selection world => ∃ state, world = standing base accepted registry state ∧
          Stands kept base registry state ∧ Offers base registry state selection,
        fun _ => Midway disturbed (Between kept base accepted),
        Midway disturbed (Between kept base accepted)⟩
      (standing base accepted registry state) := by
  obtain ⟨active, hactive, _⟩ := h.fits
  refine wp_bind (wp_attempt_disturbed rfl h.between h.between ?_)
  dsimp only [standing, Option.map_some]
  rw [hactive]
  refine wp_bind (wp_attempt_disturbed rfl h.between h.between ?_)
  have hnot : (state.map base.withState).map (·.state) ≠ some .recoveryRequired := by
    cases state with
    | none => exact fun h => by cases h
    | some own => exact hstate
  show wp _ (if (state.map base.withState).map (·.state) = some .recoveryRequired then _
    else _) _ _
  rw [if_neg hnot]
  refine wp_bind ((wp_settlePrepared hpending h hstate).mono ?_ (fun _ _ ht => ht)
    fun _ ht => ht)
  rintro _ _ ⟨state', rfl, rfl, h', hprepared⟩
  refine wp_bind ((wp_settleTargetSelected (fun hsome => hpending (hprepared.2 hsome)) h'
    hprepared.1).mono ?_ (fun _ _ ht => ht) fun _ ht => ht)
  rintro _ _ ⟨state'', rfl, rfl, h'', hresolved⟩
  obtain ⟨workspace, hmem, rfl, hworkspace⟩ := requireActiveReadyWorkspace_eq hactive
  have hmode : ofExcept (resolveMode registry.toWorkspaceRegistry (state''.map base.withState)) =
      (pure (modeOf state'') : SwitchProgram WorkspaceSwitchStartupMode) := by
    rw [resolveMode_eq h'' hresolved]
    rfl
  have hfound : ofExcept (requireActiveReadyWorkspace registry.toWorkspaceRegistry
      workspace.workspaceId) = (pure workspace : SwitchProgram WorkspaceEntry) := by
    rw [hworkspace]
    rfl
  dsimp only
  rw [hmode, hfound]
  exact wp_bind (wp_pure (wp_bind (wp_pure (wp_pure
    ⟨state'', rfl, h'', rfl, hmem, hactive, rfl⟩))))

/-! ## Switches and startups -/

/-- What is done with what a startup offers. -/
inductive FollowUp
  | nothing
  | accept (profileId : String)
  | rejectInvalidTarget
  | requireRecovery
  | recoverFromFailure
  deriving DecidableEq

/-- What follows a startup. -/
def followUp (selection : WorkspaceSwitchStartupSelection) : FollowUp → SwitchProgram Unit
  | .nothing => pure ()
  | .accept profileId => WorkspaceSwitch.accept selection profileId
  | .rejectInvalidTarget => WorkspaceSwitch.rejectInvalidTarget selection >>= fun _ => pure ()
  | .requireRecovery => WorkspaceSwitch.requireRecovery selection >>= fun _ => pure ()
  | .recoverFromFailure => WorkspaceSwitch.recoverFromFailure selection >>= fun _ => pure ()

/-- A switch or a startup. -/
inductive SwitchAction
  | switchTo (request : SwitchRequest)
  | start (next : FollowUp)
  deriving DecidableEq

/-- The program of an action. -/
def perform : SwitchAction → SwitchProgram Unit
  | .switchTo request => WorkspaceSwitch.switchTo request
  | .start next => resolveWorkspaceSwitchStartup >>= fun selection => followUp selection next

/-- Runs that begin with an active workspace and without a journal. -/
def system (first : WorkspaceId) : TransitionSystem SwitchWorld where
  initial world := world.journal = none ∧ world.accepted = [] ∧
    ∃ registry, world.registry = some registry ∧ registry.activeWorkspaceId = some first
  step world next := ∃ action outcome, Ends (perform action) world outcome next

/-- The workspace that was accepted last. -/
def settled (first : WorkspaceId) (accepted : List (WorkspaceId × String)) : WorkspaceId :=
  (accepted.head?.map Prod.fst).getD first

/-- The workspace that was accepted last is the source of what is pending, and it was
    accepted with its own profile. -/
structure Inv (first : WorkspaceId) (base : WorkspaceSwitchJournal) (registry : StoredRegistry)
    (state : Option WorkspaceSwitchJournalState) (accepted : List (WorkspaceId × String)) :
    Prop where
  stands : Stands (fun registry => registry.IsReady base.sourceWorkspaceId) base registry state
  pending : state ≠ none → Pending base registry.toWorkspaceRegistry
  settled : base.sourceWorkspaceId = settled first accepted
  profile : ∀ last, accepted.head? = some last →
    ∃ entry ∈ registry.workspaces, entry.workspaceId = last.1 ∧ entry.profileId = last.2

/-- The invariant of a world. -/
def Holds (first : WorkspaceId) (world : SwitchWorld) : Prop :=
  ∃ registry base state, world = standing base world.accepted registry state ∧
    Inv first base registry state world.accepted

variable {first : WorkspaceId} {next : SwitchWorld} {outcome : Outcome SwitchFailure Unit}

/-- What the rest of a startup may leave of the registry. -/
def KeptFrom (base : WorkspaceSwitchJournal) (registry other : WorkspaceRegistry) : Prop :=
  registry.ChangesOnly base.targetWorkspaceId other ∧ other.IsReady base.sourceWorkspaceId

theorem switchable_keptFrom : Switchable (KeptFrom base registry.toWorkspaceRegistry) base where
  select := fun _ _ hother =>
    ⟨hother.1.trans (WorkspaceRegistry.ChangesOnly.of_workspaces rfl rfl), hother.2⟩
  source := fun _ hother => hother.2

theorem Inv.stands_kept (h : Inv first base registry state accepted) :
    Stands (KeptFrom base registry.toWorkspaceRegistry) base registry state :=
  ⟨⟨.refl, h.stands.kept⟩, h.stands.fits⟩

theorem profile_kept {other : StoredRegistry} {last : WorkspaceId × String}
    (hmap : other.workspaces.map (fun entry => (entry.workspaceId, entry.profileId)) =
      registry.workspaces.map fun entry => (entry.workspaceId, entry.profileId))
    (h : ∃ entry ∈ registry.workspaces, entry.workspaceId = last.1 ∧ entry.profileId = last.2) :
    ∃ entry ∈ other.workspaces, entry.workspaceId = last.1 ∧ entry.profileId = last.2 := by
  obtain ⟨entry, hentry, hid, hprofile⟩ := h
  have hmem : last ∈ other.workspaces.map fun entry => (entry.workspaceId, entry.profileId) := by
    rw [hmap]
    exact List.mem_map.mpr ⟨entry, hentry, by rw [hid, hprofile]⟩
  obtain ⟨after, hafter, hlast⟩ := List.mem_map.mp hmem
  exact ⟨after, hafter, congrArg Prod.fst hlast, congrArg Prod.snd hlast⟩

/-- What is between the effects of a startup has the invariant. -/
theorem Inv.of_between (h : Inv first base registry state accepted)
    (hpending : Pending base registry.toWorkspaceRegistry)
    (hnext : Between (KeptFrom base registry.toWorkspaceRegistry) base accepted next) :
    ∃ other state', next = standing base accepted other state' ∧
      Inv first base other state' accepted := by
  obtain ⟨other, state', rfl, hstands⟩ := hnext
  refine ⟨other, state', rfl, ⟨hstands.kept.2, hstands.fits⟩, fun _ => ?_, h.settled, ?_⟩
  · exact ⟨hpending.ne, hstands.kept.2, hstands.kept.1.exists_entry hpending.target⟩
  · intro last hlast
    exact profile_kept (hstands.kept.1.map_eq fun _ _ => rfl) (h.profile last hlast)

/-- What a step may do to the registry. -/
def Preserves (world next : SwitchWorld) : Prop :=
  ∃ registry other : StoredRegistry, world.registry = some registry ∧
    next.registry = some other ∧
    match world.journal with
    | none => SelectsOnly registry.toWorkspaceRegistry other.toWorkspaceRegistry
    | some journal => registry.ChangesOnly journal.targetWorkspaceId other.toWorkspaceRegistry ∧
        other.IsReady journal.sourceWorkspaceId

theorem Inv.holds (h : Inv first base registry state accepted) :
    Holds first (standing base accepted registry state) :=
  ⟨registry, base, state, rfl, h⟩

/-! ### A switch -/

theorem Between.mono {kept' : WorkspaceRegistry → Prop} (h : Between kept base accepted world)
    (hkept : ∀ registry, kept registry → kept' registry) : Between kept' base accepted world := by
  obtain ⟨registry, state, rfl, hstands⟩ := h
  exact ⟨registry, state, rfl, hkept _ hstands.kept, hstands.fits⟩

theorem isReady_of_selectsOnly {other : WorkspaceRegistry} {workspaceId : WorkspaceId}
    (h : SelectsOnly registry.toWorkspaceRegistry other) (hready : registry.IsReady workspaceId) :
    other.IsReady workspaceId := by
  rw [h]
  exact hready

theorem changesOnly_of_selectsOnly {other : WorkspaceRegistry} {workspaceId : WorkspaceId}
    (h : SelectsOnly registry.toWorkspaceRegistry other) :
    registry.ChangesOnly workspaceId other :=
  .of_workspaces (by rw [h]) (by rw [h])

/-- A switch keeps the way back. -/
theorem switched_step {request : SwitchRequest} (h : Holds first world)
    (hnext : Switched request world next) : Holds first next ∧ Preserves world next := by
  obtain ⟨registry, base, state, hworld, hinv⟩ := h
  have hregistry : world.registry = some registry := by rw [hworld]; rfl
  rcases hnext with rfl | ⟨registry', source, hregistry', hjournal, hactive, hne, htarget, hnext⟩
  · refine ⟨⟨registry, base, state, hworld, hinv⟩, registry, registry, hregistry, hregistry, ?_⟩
    cases hjournal : next.journal with
    | none => exact rfl
    | some journal =>
        refine ⟨.refl, ?_⟩
        rw [hworld] at hjournal
        obtain ⟨own, rfl, rfl⟩ := Option.map_eq_some_iff.mp hjournal
        exact hinv.stands.kept
  · obtain rfl : registry = registry' := by
      rw [hregistry] at hregistry'
      exact Option.some.inj hregistry'
    obtain rfl : state = none := by
      rw [hworld] at hjournal
      exact Option.map_eq_none_iff.mp hjournal
    have hsource : source = base.sourceWorkspaceId := by
      rw [hinv.stands.settled] at hactive
      exact (Option.some.inj hactive).symm
    have hready := registry.valid.active_isReady hactive
    have hstart : Inv first (preparedJournal request source) registry none world.accepted :=
      ⟨⟨hready, source, hactive, .source⟩, nofun, hsource.trans hinv.settled, hinv.profile⟩
    have hpending : Pending (preparedJournal request source) registry.toWorkspaceRegistry := by
      obtain ⟨entry, hentry, hid, _⟩ := htarget
      exact ⟨hne, hready, entry, hentry, hid⟩
    have hkept : Between (KeptFrom (preparedJournal request source) registry.toWorkspaceRegistry)
        (preparedJournal request source) world.accepted next :=
      hnext.mono fun other hother =>
        ⟨changesOnly_of_selectsOnly hother, isReady_of_selectsOnly hother hready⟩
    obtain ⟨other, state', hother, hinv'⟩ := hstart.of_between hpending hkept
    obtain ⟨other', _, hnext, hselects⟩ := hnext
    refine ⟨by rw [hother]; exact hinv'.holds, registry, other', hregistry, ?_, ?_⟩
    · rw [hnext]
      rfl
    · rw [hjournal]
      exact hselects.kept

/-! ### A startup -/

theorem wp_resolve_idle (hjournal : world.journal = none) :
    wp AnyFate resolveWorkspaceSwitchStartup
      ⟨fun selection t => t = world ∧ selection.journal = none, fun _ t => t = world,
        fun t => t = world⟩ world := by
  refine wp_bind (wp_observe rfl ?_)
  split
  · exact wp_throw rfl
  split
  · exact wp_throw rfl
  refine wp_bind (wp_observe rfl ?_)
  rw [hjournal]
  refine wp_bind (wp_pure (wp_bind (wp_pure (wp_bind (wp_pure (wp_bind ?_))))))
  exact wp_ofExcept (fun _ _ => wp_pure ⟨rfl, rfl⟩) fun _ _ => rfl

theorem wp_resolve_blocked {journal : WorkspaceSwitchJournal}
    (hjournal : world.journal = some journal) (hstate : journal.state = .recoveryRequired) :
    wp AnyFate resolveWorkspaceSwitchStartup
      ⟨fun _ _ => False, fun _ t => t = world, fun t => t = world⟩ world := by
  refine wp_bind (wp_observe rfl ?_)
  split
  · exact wp_throw rfl
  split
  · exact wp_throw rfl
  refine wp_bind (wp_observe rfl ?_)
  rw [hjournal, if_pos (by rw [Option.map_some, hstate])]
  exact wp_throw rfl

theorem wp_followUp_idle (hselection : selection.journal = none) : wp AnyFate (followUp selection f)
      ⟨fun _ t => t = world, fun _ t => t = world, fun t => t = world⟩ world := by
  cases f with
  | nothing => exact wp_pure rfl
  | accept profileId =>
      show wp AnyFate (if profileId ≠ selection.workspace.profileId then _ else _) _ _
      split
      · exact wp_throw rfl
      · rw [hselection]
        exact wp_pure rfl
  | rejectInvalidTarget =>
      rw [followUp, rejectInvalidTarget, hselection]
      exact wp_bind (wp_pure (wp_pure rfl))
  | requireRecovery =>
      rw [followUp, requireRecovery, hselection]
      exact wp_bind (wp_pure (wp_pure rfl))
  | recoverFromFailure =>
      rw [followUp, recoverFromFailure, hselection]
      exact wp_bind (wp_pure (wp_pure rfl))

/-- What a startup with a pending switch comes to: the switch is still pending, or the
    workspace of the pointer has been accepted. -/
def Started (base : WorkspaceSwitchJournal) (registry : StoredRegistry)
    (accepted : List (WorkspaceId × String)) (next : SwitchWorld) : Prop :=
  Between (KeptFrom base registry.toWorkspaceRegistry) base accepted next ∨
    ∃ workspace ∈ registry.workspaces,
      registry.activeWorkspaceId = some workspace.workspaceId ∧
      next = standing base ((workspace.workspaceId, workspace.profileId) :: accepted) registry none

/-- What follows the selection leaves a started switch. -/
theorem wp_followUp (hpending : Pending base registry.toWorkspaceRegistry)
    (h : Stands (KeptFrom base registry.toWorkspaceRegistry) base registry state)
    (hoffers : Offers base registry state selection) : wp AnyFate (followUp selection f)
      ⟨fun _ => Started base registry accepted, fun _ => Started base registry accepted,
        Started base registry accepted⟩ (standing base accepted registry state) := by
  have hstarted : ∀ m : SwitchProgram WorkspaceSwitchFailureRecoveryOutcome,
      Maintains AnyFate (Between (KeptFrom base registry.toWorkspaceRegistry) base accepted) m →
      wp AnyFate (m >>= fun _ => pure ()) ⟨fun _ => Started base registry accepted,
        fun _ => Started base registry accepted, Started base registry accepted⟩
        (standing base accepted registry state) := by
    intro m hm
    exact wp_bind ((hm _ h.between).mono (fun _ _ ht => wp_pure (.inl ht))
      (fun _ _ ht => .inl ht) fun _ ht => .inl ht)
  obtain ⟨selected, mode, workspace⟩ := selection
  obtain ⟨rfl, hmem, hactive, rfl⟩ := hoffers
  cases f with
  | nothing => exact wp_pure (.inl h.between)
  | accept profileId =>
      show wp AnyFate (if profileId ≠ workspace.profileId then _ else _) _ _
      split
      · exact wp_throw (.inl h.between)
      rename_i hprofile
      obtain rfl := not_not.mp hprofile
      cases state with
      | none => exact wp_pure (.inl h.between)
      | some own =>
          have hcleared : Started base registry accepted (standing base
              ((workspace.workspaceId, workspace.profileId) :: accepted) registry none) :=
            .inr ⟨workspace, hmem, hactive, rfl⟩
          exact wp_of_disturbed (wp_clearJournal_disturbed (.inl h.between) hcleared hcleared)
  | rejectInvalidTarget =>
      refine hstarted _ ?_
      cases state with
      | none => exact maintains_pure
      | some own =>
          refine maintains_ite (fun _ => maintains_pure) fun _ =>
            maintains_recoverInvalidTarget fun other hother => ?_
          have hchange : other.ChangesOnly base.targetWorkspaceId
              { other.toWorkspaceRegistry with
                activeWorkspaceId := some base.sourceWorkspaceId
                workspaces := WorkspaceRegistry.setLifecycleState other.workspaces
                  base.targetWorkspaceId .recoveryRequired } :=
            WorkspaceRegistry.changesOnly_setLifecycleState other.valid.uniqueIds
          exact ⟨hother.1.trans hchange, hchange.isReady hpending.ne hother.2⟩
  | requireRecovery =>
      refine hstarted _ ?_
      cases state with
      | none => exact maintains_pure
      | some own => exact maintains_ite (fun _ => maintains_pure) fun _ => maintains_giveUp
  | recoverFromFailure =>
      refine hstarted _ ?_
      cases state with
      | none => exact maintains_pure
      | some own =>
          dsimp only [recoverFromFailure, Option.map_some]
          split
          · exact maintains_pure
          · exact maintains_giveUp
          · exact maintains_recoverTargetValidationFailure switchable_keptFrom

/-- A startup that finds nothing to do with the journal changes nothing. -/
theorem start_unchanged
    (hjournal : ∀ journal, world.journal = some journal → journal.state = .recoveryRequired) :
    wp AnyFate (perform (.start f))
      ⟨fun _ t => t = world, fun _ t => t = world, fun t => t = world⟩ world := by
  cases hstored : world.journal with
  | none =>
      refine wp_bind ((wp_resolve_idle hstored).mono ?_ (fun _ _ ht => ht) fun _ ht => ht)
      rintro selection _ ⟨rfl, hselection⟩
      exact wp_followUp_idle hselection
  | some journal =>
      exact wp_bind ((wp_resolve_blocked hstored (hjournal journal hstored)).mono
        (fun _ _ ht => ht.elim) (fun _ _ ht => ht) fun _ ht => ht)

theorem wp_start (h : Inv first base registry (some own) accepted)
    (hstate : own ≠ .recoveryRequired) : wp AnyFate (perform (.start f))
      ⟨fun _ => Started base registry accepted, fun _ => Started base registry accepted,
        Started base registry accepted⟩ (standing base accepted registry (some own)) := by
  have hresolve := wp_of_disturbed (@wp_resolve _ _ accepted _ _ True h.pending h.stands_kept
    (by simpa using hstate))
  refine wp_bind (hresolve.mono ?_ (fun _ _ ht => .inl ht) fun _ ht => .inl ht)
  rintro selection _ ⟨state', rfl, hstands, hoffers⟩
  exact wp_followUp (h.pending nofun) hstands hoffers

theorem unchanged_step (h : Holds first world) : Holds first world ∧ Preserves world world :=
  @switched_step _ _ _ ⟨"", "", "", true⟩ h (.inl rfl)

theorem started_step (h : Inv first base registry (some own) accepted)
    (hnext : Started base registry accepted next) :
    Holds first next ∧ Preserves (standing base accepted registry (some own)) next := by
  rcases hnext with hnext | ⟨workspace, hmem, hactive, rfl⟩
  · obtain ⟨other, state', rfl, hinv⟩ := h.of_between (h.pending nofun) hnext
    refine ⟨hinv.holds, registry, other, rfl, rfl, ?_⟩
    obtain ⟨other', _, hworld, hstands⟩ := hnext
    obtain rfl : other = other' := Option.some.inj (congrArg SwitchWorld.registry hworld)
    exact hstands.kept
  · -- The workspace of the pointer is the one that was accepted last.
    have hinv : Inv first { base with sourceWorkspaceId := workspace.workspaceId } registry none
        ((workspace.workspaceId, workspace.profileId) :: accepted) := by
      refine ⟨⟨registry.valid.active_isReady hactive, _, hactive, .source⟩, nofun, rfl, ?_⟩
      rintro last ⟨⟩
      exact ⟨workspace, hmem, rfl, rfl⟩
    exact ⟨hinv.holds, registry, registry, rfl, rfl, .refl, h.stands.kept⟩

/-- **STEP**: whatever happens in a switch or a startup. -/
theorem step_holds {action : SwitchAction} (h : Holds first world)
    (hends : Ends (perform action) world outcome next) :
    Holds first next ∧ Preserves world next := by
  have hsame : next = world → Holds first next ∧ Preserves world next := by
    rintro rfl
    exact unchanged_step h
  cases action with
  | switchTo request =>
      have hswitched : Switched request world next := by
        have hpost := wp.ends wp_switchTo hends
        cases outcome <;> exact hpost
      exact switched_step h hswitched
  | start f =>
      by_cases hjournal : ∀ journal, world.journal = some journal →
          journal.state = .recoveryRequired
      · have hpost := wp.ends (start_unchanged hjournal) hends
        cases outcome <;> exact hsame hpost
      · obtain ⟨registry, base, state, hworld, hinv⟩ := h
        cases state with
        | none =>
            refine absurd (fun journal hstored => ?_) hjournal
            rw [hworld] at hstored
            cases hstored
        | some own =>
            have hstate : own ≠ .recoveryRequired := by
              rintro rfl
              refine hjournal fun journal hstored => ?_
              rw [hworld] at hstored
              cases hstored
              rfl
            have hstart : wp AnyFate (perform (.start f))
                ⟨fun _ => Started base registry world.accepted,
                  fun _ => Started base registry world.accepted,
                  Started base registry world.accepted⟩ world := by
              have hwp := wp_start (f := f) hinv hstate
              rwa [← hworld] at hwp
            have hstarted : Started base registry world.accepted next := by
              have hpost := wp.ends hstart hends
              cases outcome <;> exact hpost
            have hstep := started_step hinv hstarted
            rwa [← hworld] at hstep

theorem holds_of_reachable (h : (system first).Reachable world) : Holds first world := by
  refine h.invariant (fun world hinitial => ?_) fun world next _ hworld hstep => ?_
  · obtain ⟨hjournal, haccepted, registry, hregistry, hactive⟩ := hinitial
    obtain ⟨_, _, _⟩ := world
    obtain rfl : _ = none := hjournal
    obtain rfl : _ = [] := haccepted
    obtain rfl : _ = some registry := hregistry
    have hinv : Inv first ⟨"", first, first, .prepared, ""⟩ registry none [] :=
      ⟨⟨registry.valid.active_isReady hactive, first, hactive, .source⟩, nofun, rfl, nofun⟩
    exact hinv.holds
  · obtain ⟨action, outcome, hends⟩ := hstep
    exact (step_holds hworld hends).1

/-! ## What can be relied on -/

theorem Holds.resolves (h : Holds first world)
    (hstored : ∀ journal, world.journal = some journal → journal.state ≠ .recoveryRequired) :
    ∃ registry base accepted, world.registry = some registry ∧
      wp (Fate.Disturbed disturbed) resolveWorkspaceSwitchStartup
        ⟨fun selection next => ∃ state, next = standing base accepted registry state ∧
            Stands (KeptFrom base registry.toWorkspaceRegistry) base registry state ∧
            Offers base registry state selection,
          fun _ => Midway disturbed (Between (KeptFrom base registry.toWorkspaceRegistry) base
            accepted),
          Midway disturbed (Between (KeptFrom base registry.toWorkspaceRegistry) base accepted)⟩
        world ∧ base.sourceWorkspaceId = settled first world.accepted := by
  obtain ⟨registry, base, state, hworld, hinv⟩ := h
  have hstate : state ≠ some .recoveryRequired := by
    rintro rfl
    exact hstored (base.withState .recoveryRequired) (by rw [hworld]; rfl) rfl
  refine ⟨registry, base, world.accepted, by rw [hworld]; rfl, ?_, hinv.settled⟩
  have hwp := @wp_resolve _ _ world.accepted _ _ disturbed hinv.pending hinv.stands_kept hstate
  rwa [← hworld] at hwp

/-- A startup without a pending switch offers the workspace that was accepted last, and it
    was accepted with that workspace's profile. -/
theorem Holds.normal_mode (h : Holds first world)
    (hends : Ends resolveWorkspaceSwitchStartup world (.returned selection) next)
    (hmode : selection.mode = .normal) :
    (world.accepted = [] ∧ selection.workspace.workspaceId = first) ∨
      world.accepted.head? =
        some (selection.workspace.workspaceId, selection.workspace.profileId) := by
  have hstored : ∀ journal, world.journal = some journal →
      journal.state ≠ .recoveryRequired := by
    intro journal hjournal hstate
    exact wp.ends (wp_resolve_blocked hjournal hstate) hends
  obtain ⟨registry, base, accepted, hregistry, hwp, hsettled⟩ :=
    @Holds.resolves _ True _ h hstored
  obtain ⟨state, _, hstands, hoffers⟩ := wp.ends (wp_of_disturbed hwp) hends
  have hnone : state = none := by
    have hmodeOf := hoffers.mode
    rw [hmode] at hmodeOf
    cases state with
    | none => rfl
    | some own => cases own <;> cases hmodeOf
  subst hnone
  have hid : selection.workspace.workspaceId = settled first world.accepted := by
    have hactive := hoffers.active
    rw [hstands.settled, hsettled] at hactive
    exact (Option.some.inj hactive).symm
  cases hlast : world.accepted.head? with
  | none =>
      rw [settled, hlast] at hid
      exact .inl ⟨List.head?_eq_none_iff.mp hlast, hid⟩
  | some last =>
      rw [settled, hlast] at hid
      obtain ⟨registry', _, _, hworld, hinv⟩ := h
      obtain rfl : registry = registry' := by
        rw [hworld] at hregistry
        exact (Option.some.inj hregistry).symm
      obtain ⟨entry, hentry, hentryId, hprofile⟩ := hinv.profile last hlast
      have heq := registry.valid.eq_of_id hentry hoffers.workspace (hentryId.trans hid.symm)
      rw [← heq, hentryId, hprofile]
      exact .inr rfl

/-- The pointer is where the journal allows it to be. -/
theorem Holds.pointer (h : Holds first world) :
    ∃ registry active, world.registry = some registry ∧
      registry.activeWorkspaceId = some active ∧
      ∀ journal, world.journal = some journal →
        (active = journal.sourceWorkspaceId ∨ active = journal.targetWorkspaceId) ∧
          registry.IsReady journal.sourceWorkspaceId := by
  obtain ⟨registry, base, state, hworld, hinv⟩ := h
  obtain ⟨active, hactive, hfits⟩ := hinv.stands.fits
  refine ⟨registry, active, by rw [hworld]; rfl, hactive, fun journal hjournal => ?_⟩
  rw [hworld] at hjournal
  obtain ⟨own, rfl, rfl⟩ := Option.map_eq_some_iff.mp hjournal
  refine ⟨?_, hinv.stands.kept⟩
  cases hfits with
  | source => exact .inl rfl
  | target _ => exact .inr rfl

/-- **A SWITCH KEEPS THE WAY BACK**, in every state that switches and startups reach: the
    pointer is at the source or at the target of the pending journal, and the source is
    ready; a step changes nothing of the registry besides the pointer and the target's
    lifecycle state; a startup in mode `normal` offers the workspace that was accepted
    last, with its profile; and the next undisturbed startup offers the pointer's
    workspace, unless the journal asks for a recovery. -/
theorem switch_keeps_way_back (h : (system first).Reachable world) :
    (∃ registry active, world.registry = some registry ∧
      registry.activeWorkspaceId = some active ∧
      (∀ journal, world.journal = some journal →
        (active = journal.sourceWorkspaceId ∨ active = journal.targetWorkspaceId) ∧
          registry.IsReady journal.sourceWorkspaceId) ∧
      ((∀ journal, world.journal = some journal → journal.state ≠ .recoveryRequired) →
        ∃ selection, (resolveWorkspaceSwitchStartup world []).1 = .returned selection ∧
          selection.workspace.workspaceId = active)) ∧
    (∀ action outcome next, Ends (perform action) world outcome next → Preserves world next) ∧
    (∀ selection next, Ends resolveWorkspaceSwitchStartup world (.returned selection) next →
      selection.mode = .normal →
      (world.accepted = [] ∧ selection.workspace.workspaceId = first) ∨
        world.accepted.head? =
          some (selection.workspace.workspaceId, selection.workspace.profileId)) := by
  have hholds := holds_of_reachable h
  obtain ⟨registry, active, hregistry, hactive, hpointer⟩ := hholds.pointer
  refine ⟨⟨registry, active, hregistry, hactive, hpointer, fun hstored => ?_⟩,
    fun action outcome next hends => (step_holds hholds hends).2,
    fun selection next => hholds.normal_mode⟩
  obtain ⟨registry', base, accepted, hregistry', hwp, _⟩ :=
    @Holds.resolves _ False _ hholds hstored
  obtain rfl : registry = registry' := by
    rw [hregistry] at hregistry'
    exact Option.some.inj hregistry'
  obtain ⟨selection, hreturned, state, _, _, hoffers⟩ := undisturbed hwp
  refine ⟨selection, hreturned, ?_⟩
  have hoffered := hoffers.active
  rw [hactive] at hoffered
  exact (Option.some.inj hoffered).symm

end WorkspaceSwitch

/-! ### A switch that was cut off -/

namespace WorkspaceSwitch.Sample

open SampleWorkspaces

/-- A switch to the workshop. -/
def request : SwitchRequest := ⟨"workshop", "operation-1", "2026-02-01T00:00:00.000Z", true⟩

/-- The process stops right after the pointer was moved. -/
def fates : List Fate :=
  [default, default, default, default, default, default, ⟨.crashes, none⟩]

/-- What a switch that was cut off has left. -/
def cutOff : SwitchWorld := (switchTo request ⟨some registry, none, []⟩ fates).2.1

theorem reachable_cutOff : (system "shop").Reachable cutOff :=
  .step (.initial ⟨rfl, rfl, registry, rfl, rfl⟩)
    ⟨.switchTo request, (switchTo request ⟨some registry, none, []⟩ fates).1, fates, rfl, rfl⟩

/-- The pointer is at the target, and the next startup offers the target. -/
theorem cutOff_offers_target :
    cutOff.registry.map (·.activeWorkspaceId) = some (some "workshop") ∧
      ∃ selection, (resolveWorkspaceSwitchStartup cutOff []).1 = .returned selection ∧
        selection.workspace.workspaceId = "workshop" := by
  have hpointer : cutOff.registry.map (·.activeWorkspaceId) = some (some "workshop") := by
    decide +kernel
  have hstored : ∀ journal, cutOff.journal = some journal →
      journal.state ≠ .recoveryRequired := by
    have hjournal : cutOff.journal =
        some ((preparedJournal request "shop").withState .prepared) := by decide +kernel
    rintro journal hstored hstate
    rw [hjournal] at hstored
    cases hstored
    cases hstate
  obtain ⟨⟨registry, active, hregistry, hactive, _, hresolves⟩, _⟩ :=
    switch_keeps_way_back reachable_cutOff
  obtain ⟨selection, hreturned, hid⟩ := hresolves hstored
  refine ⟨hpointer, selection, hreturned, ?_⟩
  rw [hregistry] at hpointer
  rw [hid]
  simpa [hactive] using hpointer

end WorkspaceSwitch.Sample
