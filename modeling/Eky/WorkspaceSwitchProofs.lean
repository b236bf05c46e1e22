import Eky.WorkspaceSwitch

/-! # Switching between workspaces — what every part keeps

    Between two effects of a switch, whether it goes forward or back, the pointer and
    the journal's state fit together: `Between` says how.  Each part of the command,
    of the startup and of the recoveries is shown to keep it, however it ends. -/

namespace WorkspaceSwitch

open Program

variable {kept : WorkspaceRegistry → Prop} {base journal : WorkspaceSwitchJournal}
  {accepted : List (WorkspaceId × String)} {registry : StoredRegistry}
  {state : Option WorkspaceSwitchJournalState} {world : SwitchWorld} {α : Type}

/-- The pointer that goes with a state of the journal, or with its absence: a switch is
    in its way to the target, or it is at the source. -/
inductive Fits (base : WorkspaceSwitchJournal) :
    WorkspaceId → Option WorkspaceSwitchJournalState → Prop
  | source {state : Option WorkspaceSwitchJournalState} : Fits base base.sourceWorkspaceId state
  | target {state : WorkspaceSwitchJournalState} (h : state ≠ .rollbackSelected) :
      Fits base base.targetWorkspaceId (some state)

/-- The world with the registry and with the switch's journal in a state. -/
def standing (base : WorkspaceSwitchJournal) (accepted : List (WorkspaceId × String))
    (registry : StoredRegistry) (state : Option WorkspaceSwitchJournalState) : SwitchWorld :=
  ⟨some registry, state.map base.withState, accepted⟩

/-- A registry that is kept, with a pointer that fits the journal. -/
structure Stands (kept : WorkspaceRegistry → Prop) (base : WorkspaceSwitchJournal)
    (registry : StoredRegistry) (state : Option WorkspaceSwitchJournalState) : Prop where
  kept : kept registry.toWorkspaceRegistry
  fits : ∃ active, registry.activeWorkspaceId = some active ∧ Fits base active state

/-- The worlds of one switch. -/
def Between (kept : WorkspaceRegistry → Prop) (base : WorkspaceSwitchJournal)
    (accepted : List (WorkspaceId × String)) (world : SwitchWorld) : Prop :=
  ∃ registry state, world = standing base accepted registry state ∧
    Stands kept base registry state

/-- What a kept registry has to be for a switch between the two workspaces. -/
structure Switchable (kept : WorkspaceRegistry → Prop) (base : WorkspaceSwitchJournal) :
    Prop where
  select : ∀ (registry : WorkspaceRegistry) (active : Option WorkspaceId), kept registry →
    kept { registry with activeWorkspaceId := active }
  source : ∀ registry, kept registry → registry.IsReady base.sourceWorkspaceId

theorem Stands.between (h : Stands kept base registry state) :
    Between kept base accepted (standing base accepted registry state) :=
  ⟨registry, state, rfl, h⟩

/-- At the source, the journal can be in any state. -/
theorem Stands.atSource {state' : Option WorkspaceSwitchJournalState}
    (h : Stands kept base registry state)
    (hactive : registry.activeWorkspaceId = some base.sourceWorkspaceId) :
    Stands kept base registry state' :=
  ⟨h.kept, _, hactive, .source⟩

/-- A journal that does not say that the selection was taken back can be in any state
    that does not say so either. -/
theorem Stands.forward {state state' : WorkspaceSwitchJournalState}
    (h : Stands kept base registry (some state)) (hstate : state' ≠ .rollbackSelected) :
    Stands kept base registry (some state') := by
  obtain ⟨hkept, active, hactive, hfits⟩ := h
  refine ⟨hkept, active, hactive, ?_⟩
  cases hfits with
  | source => exact .source
  | target _ => exact .target hstate

theorem Stands.active (h : Stands kept base registry state) :
    registry.activeWorkspaceId = some base.sourceWorkspaceId ∨
      registry.activeWorkspaceId = some base.targetWorkspaceId := by
  obtain ⟨active, hactive, hfits⟩ := h.fits
  cases hfits with
  | source => exact .inl hactive
  | target _ => exact .inr hactive

/-- Without a journal the pointer is at the source. -/
theorem Stands.settled (h : Stands kept base registry none) :
    registry.activeWorkspaceId = some base.sourceWorkspaceId := by
  obtain ⟨active, hactive, hfits⟩ := h.fits
  cases hfits
  exact hactive

variable {value : WorkspaceRegistry} {request : SwitchRequest}
  {own : WorkspaceSwitchJournalState} {I : SwitchWorld → Prop} {started : Bool}
  {Q : α → SwitchWorld → Prop}

/-! ## The ports -/

theorem wp_observe {failure : SwitchFailure} {f : SwitchWorld → α} (hI : I world)
    (hQ : Q (f world) world) :
    wp AnyFate (attempt failure fun world => .ok (f world, world)) ⟨Q, fun _ => I, I⟩ world := by
  refine wp_attempt trivial hI fun a t hread => ?_
  cases hread
  exact ⟨hI, hQ⟩

/-- A program that first reads something. -/
theorem maintains_observe {failure : SwitchFailure} {f : SwitchWorld → α} {β : Type}
    {k : α → SwitchProgram β}
    (h : ∀ world, I world → wp AnyFate (k (f world)) ⟨fun _ => I, fun _ => I, I⟩ world) :
    Maintains AnyFate I (attempt failure (fun world => .ok (f world, world)) >>= k) :=
  fun world hworld => wp_bind (wp_observe hworld (h world hworld))

theorem wp_writeRegistry {Q : Unit → SwitchWorld → Prop} (h : Stands kept base registry state)
    (hnext : ∀ next : StoredRegistry, next.toWorkspaceRegistry = value →
      Stands kept base next state ∧ Q () (standing base accepted next state)) :
    wp AnyFate (writeRegistry value)
      ⟨Q, fun _ => Between kept base accepted, Between kept base accepted⟩
      (standing base accepted registry state) := by
  refine wp_attempt trivial h.between fun a t hwrite => ?_
  split at hwrite
  · split at hwrite
    · cases hwrite
    · cases hwrite
      obtain ⟨hstands, hQ⟩ := hnext ⟨value, ‹_›⟩ rfl
      exact ⟨hstands.between, hQ⟩
  · cases hwrite

theorem wp_writeJournal {next : WorkspaceSwitchJournalState} {Q : Unit → SwitchWorld → Prop}
    (h : Stands kept base registry state) (hnext : Stands kept base registry (some next))
    (hQ : Q () (standing base accepted registry (some next))) :
    wp AnyFate (writeJournal (base.withState next))
      ⟨Q, fun _ => Between kept base accepted, Between kept base accepted⟩
      (standing base accepted registry state) := by
  refine wp_attempt trivial h.between fun a t hwrite => ?_
  split at hwrite
  · cases hwrite
    exact ⟨hnext.between, hQ⟩
  · cases hwrite

theorem wp_clearJournal {operationId : String} {Q : Unit → SwitchWorld → Prop}
    (h : Stands kept base registry state) (hnext : Stands kept base registry none)
    (hQ : Q () (standing base accepted registry none)) :
    wp AnyFate (clearJournal operationId [])
      ⟨Q, fun _ => Between kept base accepted, Between kept base accepted⟩
      (standing base accepted registry state) := by
  refine wp_attempt trivial h.between fun a t hclear => ?_
  split at hclear
  · split at hclear
    · cases hclear
      exact ⟨hnext.between, hQ⟩
    · cases hclear
  · cases hclear

theorem maintains_callRuntime : Maintains AnyFate I callRuntime :=
  fun _ hworld => wp_attemptNothing trivial hworld hworld

theorem maintains_failed {step : SwitchProgram Unit} (h : Maintains AnyFate I step) :
    Maintains AnyFate I (failed step) :=
  maintains_tryCatch (maintains_bind h fun _ => maintains_pure) fun _ => maintains_pure

/-! ## Going back -/

/-- Where a recovery looks at the journal that is stored, it finds the switch's own, and
    it can record that the recovery is required. -/
theorem maintains_recordRecovery {otherwise : SwitchProgram Unit} {operationId : String}
    (hotherwise : Maintains AnyFate (Between kept base accepted) otherwise) :
    Maintains AnyFate (Between kept base accepted) (do
      match ← readJournal with
      | none => otherwise
      | some current =>
        if current.operationId ≠ operationId then otherwise
        else writeJournal (current.withState .recoveryRequired)) := by
  refine maintains_observe fun world hworld => ?_
  obtain ⟨registry, state, rfl, hstands⟩ := hworld
  cases state with
  | none => exact hotherwise _ hstands.between
  | some state =>
      show wp AnyFate (if base.operationId ≠ operationId then otherwise
        else writeJournal (base.withState .recoveryRequired)) _ _
      split
      · exact hotherwise _ hstands.between
      · have hnext : Stands kept base registry (some .recoveryRequired) := hstands.forward nofun
        exact wp_writeJournal hstands hnext hnext.between

theorem maintains_persistRecoveryRequired :
    Maintains AnyFate (Between kept base accepted) (persistRecoveryRequired journal) :=
  maintains_tryCatch (maintains_recordRecovery maintains_throw) fun _ => maintains_throw

theorem maintains_giveUp : Maintains AnyFate (Between kept base accepted) (giveUp journal) :=
  maintains_bind maintains_persistRecoveryRequired fun _ => maintains_pure

theorem maintains_markRecoveryRequired {journal : Option WorkspaceSwitchJournal} :
    Maintains AnyFate (Between kept base accepted) (markRecoveryRequired journal) := by
  cases journal with
  | none => exact maintains_pure
  | some journal => exact maintains_ignoreError (maintains_recordRecovery maintains_pure)

/-- The source is selected, and then the journal says so. -/
theorem wp_selectSource (h : Stands kept base registry state) (hvalue : kept value)
    (hactive : value.activeWorkspaceId = some base.sourceWorkspaceId) :
    wp AnyFate (writeRegistry value)
      ⟨fun _ world => ∃ next, world = standing base accepted next state ∧
          next.toWorkspaceRegistry = value ∧ ∀ state', Stands kept base next state',
        fun _ => Between kept base accepted, Between kept base accepted⟩
      (standing base accepted registry state) := by
  refine wp_writeRegistry h ?_
  rintro next rfl
  have hnext : ∀ state', Stands kept base next state' := fun _ => ⟨hvalue, _, hactive, .source⟩
  exact ⟨hnext state, next, rfl, rfl, hnext⟩

theorem maintains_rollbackBeforeRelaunch (hswitch : Switchable kept base)
    (hsource : journal.sourceWorkspaceId = base.sourceWorkspaceId)
    (htarget : journal.targetWorkspaceId = base.targetWorkspaceId) :
    Maintains AnyFate (Between kept base accepted) (rollbackBeforeRelaunch journal) := by
  refine maintains_observe fun world hworld => ?_
  obtain ⟨registry, state, rfl, hstands⟩ := hworld
  refine wp_bind (wp_observe hstands.between ?_)
  cases state with
  | none => exact wp_throw hstands.between
  | some state =>
      show wp AnyFate (if base.operationId ≠ journal.operationId then _ else _) _ _
      rw [hsource, htarget]
      split
      · exact wp_throw hstands.between
      split
      · rename_i hactive
        refine wp_bind (wp_ofExcept (fun selected hselected => ?_) fun _ _ => hstands.between)
        rw [WorkspaceRegistry.selectActiveWorkspace_eq_ok registry.valid |>.mp
          (ok_of_mapError hselected) |>.2.2]
        refine wp_bind ((wp_selectSource hstands (hswitch.select _ _ hstands.kept) rfl).mono ?_
          (fun _ _ h => h) fun _ h => h)
        rintro _ _ ⟨next, rfl, _, hnext⟩
        exact wp_writeJournal (hnext _) (hnext _) (hnext _).between
      · split
        · exact wp_throw hstands.between
        · rename_i hnot
          have hactive := not_not.mp hnot
          split
          · exact wp_clearJournal hstands (hstands.atSource hactive)
              (hstands.atSource hactive).between
          · exact wp_writeJournal hstands (hstands.atSource hactive)
              (hstands.atSource hactive).between

theorem maintains_recoverBeforeReturning (hswitch : Switchable kept base)
    {journal : Option WorkspaceSwitchJournal} {code : WorkspaceSwitchErrorCode}
    (hjournal : ∀ j, journal = some j → j.sourceWorkspaceId = base.sourceWorkspaceId ∧
      j.targetWorkspaceId = base.targetWorkspaceId) : Maintains AnyFate (Between kept base accepted)
      (recoverBeforeReturning code journal started) := by
  refine maintains_bind ?_ fun rollbackFailed => maintains_bind
    (maintains_ite (fun _ => maintains_failed maintains_callRuntime) fun _ => maintains_pure)
    fun restartFailed => ?_
  · cases journal with
    | none => exact maintains_pure
    | some journal =>
        obtain ⟨hsource, htarget⟩ := hjournal journal rfl
        exact maintains_failed (maintains_rollbackBeforeRelaunch hswitch hsource htarget)
  · exact maintains_ite (fun _ => maintains_bind maintains_markRecoveryRequired
      fun _ => maintains_pure) fun _ => maintains_pure

/-- The recovery of a part keeps what the part has left. -/
theorem wp_recovering (hswitch : Switchable kept base) {journal : Option WorkspaceSwitchJournal}
    {part : SwitchProgram α}
    (hjournal : ∀ j, journal = some j → j.sourceWorkspaceId = base.sourceWorkspaceId ∧
      j.targetWorkspaceId = base.targetWorkspaceId) (h : wp AnyFate part
      ⟨Q, fun _ => Between kept base accepted, Between kept base accepted⟩ world) :
    wp AnyFate (recovering journal started part)
      ⟨Q, fun _ => Between kept base accepted, Between kept base accepted⟩ world :=
  wp_tryCatch_maintained h fun _ t ht => wp_bind
    ((maintains_recoverBeforeReturning hswitch hjournal t ht).mono (fun _ _ hu => wp_throw hu)
      (fun _ _ hu => hu) fun _ hu => hu)

/-! ## The recoveries of a startup -/

/-- The source has been selected again, whatever the journal says. -/
def AtSource (kept : WorkspaceRegistry → Prop) (base : WorkspaceSwitchJournal)
    (accepted : List (WorkspaceId × String)) (world : SwitchWorld) : Prop :=
  ∃ registry state, world = standing base accepted registry state ∧
    ∀ state', Stands kept base registry state'

theorem wp_failed_writeRegistry (h : Stands kept base registry state) (hvalue : kept value)
    (hactive : value.activeWorkspaceId = some base.sourceWorkspaceId) :
    wp AnyFate (failed (writeRegistry value))
      ⟨fun writeFailed world => Between kept base accepted world ∧
          (writeFailed = false → AtSource kept base accepted world),
        fun _ => Between kept base accepted, Between kept base accepted⟩
      (standing base accepted registry state) := by
  refine wp_tryCatch_maintained (wp_bind ((wp_selectSource h hvalue hactive).mono ?_
    (fun _ _ ht => ht) fun _ ht => ht)) fun _ t ht => wp_pure ⟨ht, nofun⟩
  rintro _ _ ⟨next, rfl, _, hnext⟩
  exact wp_pure ⟨(hnext _).between, fun _ => ⟨next, _, rfl, hnext⟩⟩

theorem wp_observeAfter {writeFailed : Bool} {observedMatches : Option WorkspaceRegistry → Bool}
    (hmatches : ∀ registry, observedMatches (some registry) = true →
      registry.activeWorkspaceId = some base.sourceWorkspaceId)
    (h : Between kept base accepted world)
    (hwritten : writeFailed = false → AtSource kept base accepted world) :
    wp AnyFate (observeAfter writeFailed observedMatches)
      ⟨fun selected world => Between kept base accepted world ∧
          (selected = true → AtSource kept base accepted world),
        fun _ => Between kept base accepted, Between kept base accepted⟩ world := by
  cases writeFailed with
  | false => exact wp_pure ⟨h, fun _ => hwritten rfl⟩
  | true =>
      refine wp_tryCatch_maintained (wp_bind (wp_observe h (wp_pure ⟨h, fun hselected => ?_⟩)))
        fun _ t ht => wp_pure ⟨ht, nofun⟩
      obtain ⟨registry, state, rfl, hstands⟩ := h
      exact ⟨registry, state, rfl, fun _ => hstands.atSource (hmatches _ hselected)⟩

theorem wp_writeRecovered {observedMatches : Option WorkspaceRegistry → Bool}
    (hmatches : ∀ registry, observedMatches (some registry) = true →
      registry.activeWorkspaceId = some base.sourceWorkspaceId)
    (h : Stands kept base registry state) (hvalue : kept value)
    (hactive : value.activeWorkspaceId = some base.sourceWorkspaceId) :
    wp AnyFate (writeRecovered (base.withState own) value observedMatches)
      ⟨fun _ => Between kept base accepted, fun _ => Between kept base accepted,
        Between kept base accepted⟩ (standing base accepted registry state) := by
  refine wp_bind ((wp_failed_writeRegistry h hvalue hactive).mono ?_ (fun _ _ ht => ht)
    fun _ ht => ht)
  rintro writeFailed t ⟨ht, hwritten⟩
  refine wp_bind ((wp_observeAfter hmatches ht hwritten).mono ?_ (fun _ _ hu => hu)
    fun _ hu => hu)
  rintro selected u ⟨hu, hselected⟩
  cases selected with
  | false => exact maintains_giveUp u hu
  | true =>
      obtain ⟨next, state', rfl, hnext⟩ := hselected rfl
      -- Only now is the journal told that the source is selected.
      have hjournal : wp AnyFate (writeJournal ((base.withState own).withState .rollbackSelected))
          ⟨fun _ => Between kept base accepted, fun _ => Between kept base accepted,
            Between kept base accepted⟩ (standing base accepted next state') := by
        rw [WorkspaceSwitchJournal.withState_withState]
        exact wp_writeJournal (hnext _) (hnext _) (hnext _).between
      refine wp_bind (wp_tryCatch_maintained (wp_bind (hjournal.mono
        (fun _ _ hv => wp_pure ?_) (fun _ _ hv => hv) fun _ hv => hv))
        fun _ v hv => wp_pure ?_)
      · exact wp_pure hv
      · exact maintains_giveUp v hv

/-- What a recovery does with the registry that it has read. -/
theorem maintains_readForRecovery {k : Option WorkspaceRegistry → SwitchProgram α}
    (hnone : Maintains AnyFate (Between kept base accepted) (k none))
    (hsome : ∀ registry state, Stands kept base registry state →
      wp AnyFate (k (some registry.toWorkspaceRegistry))
        ⟨fun _ => Between kept base accepted, fun _ => Between kept base accepted,
          Between kept base accepted⟩ (standing base accepted registry state)) :
    Maintains AnyFate (Between kept base accepted) (readForRecovery >>= k) := by
  intro world hworld
  refine wp_bind (wp_tryCatch_maintained (wp_observe hworld ?_) fun _ t ht => wp_pure ?_)
  · obtain ⟨registry, state, rfl, hstands⟩ := hworld
    exact hsome registry state hstands
  · exact hnone t ht

theorem maintains_recoverInvalidTarget
    (hreject : ∀ registry : StoredRegistry, kept registry.toWorkspaceRegistry →
      kept { registry.toWorkspaceRegistry with
        activeWorkspaceId := some base.sourceWorkspaceId
        workspaces := WorkspaceRegistry.setLifecycleState registry.workspaces
          base.targetWorkspaceId .recoveryRequired }) :
    Maintains AnyFate (Between kept base accepted)
      (recoverInvalidTarget (base.withState own)) := by
  refine maintains_readForRecovery maintains_giveUp fun registry state hstands => ?_
  dsimp only
  split
  · exact maintains_giveUp _ hstands.between
  · rename_i recovered hrecovered
    have hvalue := ((WorkspaceRegistry.selectSource_eq_ok registry.valid).mp hrecovered).2.2.2
    rw [hvalue]
    refine wp_writeRecovered (fun other hmatches => ?_) hstands (hreject _ hstands.kept) rfl
    simp only [registryMatchesInvalidTargetRecovery, Bool.and_eq_true, decide_eq_true_eq]
      at hmatches
    exact hmatches.1.1

theorem maintains_recoverTargetValidationFailure (hswitch : Switchable kept base) :
    Maintains AnyFate (Between kept base accepted)
      (recoverTargetValidationFailure (base.withState own)) := by
  refine maintains_readForRecovery maintains_giveUp fun registry state hstands => ?_
  dsimp only
  split
  · exact maintains_giveUp _ hstands.between
  split
  · exact maintains_giveUp _ hstands.between
  · rename_i recovered hrecovered
    have hvalue := ((WorkspaceRegistry.selectActiveWorkspace_eq_ok registry.valid).mp
      hrecovered).2.2
    rw [hvalue]
    refine wp_writeRecovered (fun other hmatches => ?_) hstands
      (hswitch.select _ _ hstands.kept) rfl
    exact of_decide_eq_true hmatches

/-! ## The command -/

/-- Nothing but the active workspace may differ. -/
def SelectsOnly (registry other : WorkspaceRegistry) : Prop :=
  other = { registry with activeWorkspaceId := other.activeWorkspaceId }

/-- What a switch to a workspace has come to: nothing at all, or a switch between the
    two workspaces. -/
def Switched (request : SwitchRequest) (world : SwitchWorld) (after : SwitchWorld) : Prop :=
  after = world ∨ ∃ (registry : StoredRegistry) (source : WorkspaceId),
    world.registry = some registry ∧ world.journal = none ∧
    registry.activeWorkspaceId = some source ∧ source ≠ request.targetWorkspaceId ∧
    registry.IsReady request.targetWorkspaceId ∧
    Between (SelectsOnly registry.toWorkspaceRegistry) (preparedJournal request source)
      world.accepted after

theorem switchable_selectsOnly (hready : registry.IsReady base.sourceWorkspaceId) :
    Switchable (SelectsOnly registry.toWorkspaceRegistry) base where
  select := fun other active hother => by
    rw [SelectsOnly] at hother ⊢
    rw [hother]
  source := fun other hother => by
    rw [hother]
    exact hready

/-- Before there is a journal, the recovery changes nothing. -/
theorem maintains_recovering_none {part : SwitchProgram α}
    (h : wp AnyFate part ⟨Q, fun _ => I, I⟩ world) :
    wp AnyFate (recovering none started part) ⟨Q, fun _ => I, I⟩ world := by
  refine wp_tryCatch_maintained h fun error t ht => ?_
  have hrecover : Maintains AnyFate I
      (recoverBeforeReturning (mapWorkspaceSwitchError error) none started) :=
    maintains_bind maintains_pure fun _ => maintains_bind
      (maintains_ite (fun _ => maintains_failed maintains_callRuntime) fun _ => maintains_pure)
      fun _ => maintains_ite (fun _ => maintains_bind maintains_pure fun _ => maintains_pure)
        fun _ => maintains_pure
  exact wp_bind ((hrecover t ht).mono (fun _ _ hu => wp_throw hu) (fun _ _ hu => hu)
    fun _ hu => hu)

theorem maintains_stopSource : Maintains AnyFate I (stopSource request) :=
  maintains_bind maintains_callRuntime fun _ => maintains_bind maintains_callRuntime fun _ =>
    maintains_ite (fun _ => maintains_throw) fun _ => maintains_pure

theorem wp_readSwitchSource :
    wp AnyFate readSwitchSource
      ⟨fun read t => t = world ∧ world.journal = none ∧ ∃ registry : StoredRegistry,
          world.registry = some registry ∧ read.1 = registry.toWorkspaceRegistry ∧
          registry.activeWorkspaceId = some read.2,
        fun _ t => t = world, fun t => t = world⟩ world := by
  refine wp_bind (wp_observe rfl ?_)
  cases hjournal : world.journal with
  | some journal => exact wp_throw rfl
  | none =>
      refine wp_bind (wp_observe rfl ?_)
      cases hregistry : world.registry with
      | none => exact wp_throw rfl
      | some registry =>
          dsimp only [Option.map_some]
          cases hactive : registry.activeWorkspaceId with
          | none => exact wp_throw rfl
          | some source => exact wp_pure ⟨rfl, rfl, registry, rfl, rfl, hactive⟩

/-- The writes of a switch, with the rollback that follows an error. -/
theorem wp_commitSwitch {source : WorkspaceId} (hready : registry.IsReady source)
    (hactive : registry.activeWorkspaceId = some source) :
    wp AnyFate (recovering (some (preparedJournal request source)) true do
        writeJournal (preparedJournal request source)
        writeRegistry { registry.toWorkspaceRegistry with
          activeWorkspaceId := some request.targetWorkspaceId }
        writeJournal ((preparedJournal request source).withState .targetSelected)
        callRuntime)
      ⟨fun _ => Between (SelectsOnly registry.toWorkspaceRegistry)
          (preparedJournal request source) accepted,
        fun _ => Between (SelectsOnly registry.toWorkspaceRegistry)
          (preparedJournal request source) accepted,
        Between (SelectsOnly registry.toWorkspaceRegistry) (preparedJournal request source)
          accepted⟩ ⟨some registry, none, accepted⟩ := by
  have hswitch : Switchable (SelectsOnly registry.toWorkspaceRegistry)
      (preparedJournal request source) := switchable_selectsOnly hready
  have hstart : ∀ state, Stands (SelectsOnly registry.toWorkspaceRegistry)
      (preparedJournal request source) registry state :=
    fun state => ⟨rfl, _, hactive, .source⟩
  refine wp_recovering hswitch (fun j hj => by cases hj; exact ⟨rfl, rfl⟩) ?_
  -- The journal says that the switch is prepared before the pointer moves.
  refine wp_bind (wp_writeJournal (hstart none) (hstart (some .prepared)) ?_)
  refine wp_bind (wp_writeRegistry (hstart _) fun selected hselected => ?_)
  have htarget : ∀ state : WorkspaceSwitchJournalState, state ≠ .rollbackSelected →
      Stands (SelectsOnly registry.toWorkspaceRegistry) (preparedJournal request source)
        selected (some state) := by
    intro state hstate
    refine ⟨by rw [hselected]; exact hswitch.select _ _ rfl, request.targetWorkspaceId, ?_,
      .target hstate⟩
    rw [hselected]
  refine ⟨htarget _ nofun, wp_bind (wp_writeJournal (htarget _ nofun) (htarget _ nofun) ?_)⟩
  exact maintains_callRuntime _ (htarget .targetSelected nofun).between

theorem wp_performSwitch : wp AnyFate (performSwitch request)
      ⟨fun _ => Switched request world, fun _ => Switched request world,
        Switched request world⟩ world := by
  refine wp_bind ((maintains_recovering_none wp_readSwitchSource).mono ?_
    (fun _ _ ht => .inl ht) fun _ ht => .inl ht)
  rintro ⟨_, source⟩ world ⟨rfl, hjournal, registry, hregistry, rfl, hactive⟩
  show wp AnyFate (if source ≠ request.targetWorkspaceId then _ else pure ()) _ _
  split
  swap
  · exact wp_pure (.inl rfl)
  rename_i hne
  refine wp_bind (maintains_recovering_none (I := Switched request _)
    (wp_ofExcept (fun selected hselected => ?_) fun _ _ => .inl rfl))
  obtain ⟨-, htarget, rfl⟩ := (WorkspaceRegistry.selectActiveWorkspace_eq_ok
    registry.valid).mp (ok_of_mapError hselected)
  refine wp_bind ((maintains_recovering_none (maintains_stopSource (I := (· = _)) _ rfl)).mono
    ?_ (fun _ _ ht => .inl ht) fun _ ht => .inl ht)
  rintro _ world rfl
  have hcommit := @wp_commitSwitch world.accepted registry request source
    (registry.valid.active_isReady hactive) hactive
  rw [← hregistry, ← hjournal] at hcommit
  have hswitched : ∀ t, Between (SelectsOnly registry.toWorkspaceRegistry)
      (preparedJournal request source) world.accepted t → Switched request world t :=
    fun t ht => .inr ⟨registry, source, hregistry, hjournal, hactive, hne, htarget, ht⟩
  exact hcommit.mono (fun _ t ht => hswitched t ht) (fun _ t ht => hswitched t ht) hswitched

theorem wp_switchTo : wp AnyFate (switchTo request)
      ⟨fun _ => Switched request world, fun _ => Switched request world,
        Switched request world⟩ world := by
  refine wp_bind ((maintains_callRuntime (I := (· = world)) world rfl).mono ?_
    (fun _ _ ht => .inl ht) fun _ ht => .inl ht)
  rintro _ world rfl
  refine wp_bind (wp_tryCatch_maintained (wp_bind (wp_performSwitch.mono
    (fun _ _ ht => wp_pure ?_) (fun _ _ ht => ht) fun _ ht => ht)) fun error t ht => wp_pure ?_)
  · exact maintains_bind (maintains_failed maintains_callRuntime)
      (fun _ => maintains_ite (fun _ => maintains_throw) fun _ => maintains_pure) _ ht
  · exact maintains_bind (maintains_failed maintains_callRuntime)
      (fun _ => maintains_throw) t ht

end WorkspaceSwitch
