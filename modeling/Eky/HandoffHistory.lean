import Eky.HandoffProofs

/-! # The runs of a handoff coordinator

    Preparations and handoffs in any order, and other changes of the journal between
    them and between their calls.  An operation that is called while another one is
    under way is refused at once, so that the operations of a run follow each other. -/

namespace LocalUpdateHandoffCoordinator

open Program

variable {α : Type} {m : HandoffProgram α} {coordinator : Coordinator} {log : HandoffLog}
  {owner : PreparedUpdateOwner} {environment : HandoffEnvironment} {world : HandoffWorld}

/-! ## Whole operations -/

/-- An operation that is over, before it says so. -/
def Closing (world : HandoffWorld) : Prop :=
  world.Fresh ∧ Over world.coordinator world.log

theorem Follows.failed (h : Follows owner log) : Follows { owner with phase := .failed } log :=
  ⟨h.operation, h.certain, h.correlation, h.point, h.stop, h.fence, h.launched, nofun⟩

/-- **ABORTION**: however an operation fails, and whatever happens to its abortion, the
    owner that is left does not claim too much. -/
theorem wp_abortOwnedPreparation (hfresh : world.Fresh)
    (hbusy : Busy world.coordinator world.log) :
    wp AnyFate (abortOwnedPreparation environment)
      ⟨fun _ t => Closing t, fun _ t => Closing t, MidOperation⟩ world := by
  obtain ⟨owner, howner, hfollows⟩ := hbusy.owned
  have habort : Runs (modifyOwner fun owner => { owner with phase := .failed }) world.coordinator
      world.log fun _ c l => Busy c l :=
    runs_modifyOwner howner (hfollows.failed.busy hbusy.active hbusy.safe)
  refine wp_bind ((habort world hfresh rfl rfl).mono ?_ (fun _ t ht => ⟨ht.1, ht.2.over⟩)
    fun _ ht => ht)
  rintro - t ⟨hfresh, hbusy⟩
  exact wp_ignoreError ((runs_abandon hbusy t hfresh rfl rfl).mono (fun _ _ ht => ht)
    (fun _ t ht => ⟨ht.1, ht.2.over⟩) fun _ ht => ht)

theorem wp_abortingOnError
    (h : Runs m world.coordinator world.log fun _ c l => Busy c l) (hfresh : world.Fresh) :
    wp AnyFate (abortingOnError environment m)
      ⟨fun _ t => Closing t, fun _ t => Closing t, MidOperation⟩ world := by
  refine wp_tryCatch ((h world hfresh rfl rfl).mono (fun _ t ht => ⟨ht.1, ht.2.over⟩) ?_
    fun _ ht => ht)
  rintro code t ⟨hfresh, hbusy⟩
  exact wp_bind ((wp_abortOwnedPreparation hfresh hbusy).mono (fun _ _ ht => wp_throw ht)
    (fun _ _ ht => ht) fun _ ht => ht)

/-- The coordinator is free again after an operation that leaves it in order. -/
theorem wp_runExclusive {code : HandoffErrorCode} (hidle : Idle world)
    (h : ∀ busy : HandoffWorld, busy.Fresh → busy.coordinator.activeOperation = true →
      busy.coordinator.owner = world.coordinator.owner → busy.log = world.log →
      wp AnyFate m ⟨fun _ t => Closing t, fun _ t => Closing t, MidOperation⟩ busy) :
    wp AnyFate (runExclusive code m)
      ⟨fun _ t => Idle t, fun _ t => Idle t, MidOperation⟩ world := by
  have hfree : ∀ t : HandoffWorld, Closing t → Idle { t with
      coordinator := { t.coordinator with activeOperation := false } } := by
    rintro t ⟨hfresh, -, hsettled⟩
    exact ⟨hfresh, rfl, hsettled.safe, hsettled.free, hsettled.owned⟩
  refine wp_bind (wp_get (wp_check (fun hactive => ?_) fun _ => ?_))
  · rw [hidle.inactive] at hactive
    cases hactive
  · let busy : HandoffWorld :=
      { world with coordinator := { world.coordinator with activeOperation := true } }
    refine wp_bind (wp_modify (wp_andFinally ?_))
    refine (h busy hidle.fresh rfl rfl rfl).mono ?_ ?_ fun _ ht => ht
    · exact fun _ t ht => wp_modify (hfree t ht)
    · exact fun _ t ht => wp_modify (hfree t ht)

theorem wp_getOwner {Q : Option PreparedUpdateOwner → HandoffWorld → Prop}
    {threw : HandoffErrorCode → HandoffWorld → Prop} {stopped : HandoffWorld → Prop}
    (h : Q world.coordinator.owner world) : wp AnyFate getOwner ⟨Q, threw, stopped⟩ world :=
  wp_bind (wp_get (wp_pure h))

/-- The lease of a new owner. -/
theorem wp_acquireLease {operationId : String} (hfresh : world.Fresh)
    (hactive : world.coordinator.activeOperation = true)
    (hsettled : Settled world.coordinator world.log)
    {post : Post HandoffWorld HandoffErrorCode Unit}
    (hacquired : ∀ t : HandoffWorld, t.Fresh → t.coordinator = world.coordinator →
      t.log = { world.log with lease := .acquired operationId } → post.returned () t)
    (hfailed : ∀ code t, Closing t → post.threw code t)
    (hstopped : ∀ t, MidOperation t → post.stopped t) :
    wp AnyFate (acquireLease operationId) post world := by
  have hclosing : ∀ fate : HandoffFate, Closing (fate.meet world) := by
    intro fate
    obtain ⟨hmet, hcoordinator, hlog⟩ := @meet_fresh fate _ hfresh
    rw [Closing, hcoordinator, hlog]
    exact ⟨hmet, hactive, hsettled⟩
  refine wp_call (fun fate hending => ?_) (fun fate hending => ?_) fun fate hending => ?_
  · obtain ⟨-, hcoordinator, hlog⟩ := @meet_fresh fate _ hfresh
    simp only [hending, if_true]
    refine hacquired _ (fun _ _ journal hwritten => ?_) hcoordinator (by rw [← hlog]; rfl)
    cases hwritten
  · simp only [hending]
    exact hfailed _ _ (hclosing fate)
  · simp only [hending]
    exact hstopped _ ⟨(hclosing fate).2.1, (hclosing fate).2.2.safe⟩

theorem wp_prepareConfirmedUpdate (hidle : Idle world) :
    wp AnyFate (prepareConfirmedUpdate environment)
      ⟨fun _ t => Idle t, fun _ t => Idle t, MidOperation⟩ world := by
  refine wp_runExclusive hidle fun busy hfresh hactive howner hlog => ?_
  have hsettled : Settled busy.coordinator busy.log := by
    obtain ⟨hsafe, hfree, howned⟩ := hidle.settled
    rw [← howner, ← hlog] at hfree
    rw [← hlog] at hsafe
    refine ⟨hsafe, hfree, fun owner hown => ?_⟩
    rw [hlog]
    exact howned owner (howner ▸ hown)
  have hover : Closing busy := ⟨hfresh, hactive, hsettled⟩
  refine wp_bind (wp_getOwner (wp_check (fun _ => hover) fun hretained =>
    wp_check (fun _ => hover) fun _ => ?_))
  have hnone : busy.coordinator.owner = none := by simpa using hretained
  refine wp_bind (wp_mapError (wp_acquireLease hfresh hactive hsettled ?_
    (fun _ _ ht => ht) fun _ ht => ht))
  intro t hacquired hcoordinator ht
  refine wp_bind (wp_modify ?_)
  have hlaunches : t.log.launches = [] := by
    rw [ht]
    exact hsettled.free hnone
  have hfollows : Follows (.acquired environment.operationId) t.log := by
    rw [ht]
    refine ⟨rfl, fun _ => ⟨rfl, rfl⟩, fun _ h => ?_, fun _ _ h => ?_, fun h => ?_, fun h => ?_,
      fun hlaunched => ?_, fun h => ?_⟩
    · cases h
    · cases h
    · cases h
    · cases h
    · rw [ht] at hlaunches
      exact absurd hlaunches hlaunched
    · cases h
  have hsafe : t.log.Safe := by
    rw [ht]
    exact ⟨hsettled.safe.launches, hsettled.safe.once, hsettled.safe.releases⟩
  refine wp_abortingOnError (runs_prepareOwned (hfollows.busy ?_ hsafe) rfl ?_) hacquired
  · rw [hcoordinator]
    exact hactive
  · show t.log.lease.written = none
    rw [ht]
    rfl

theorem Follows.handingOff (h : Follows owner log) :
    Follows { owner with phase := .handoff } log :=
  ⟨h.operation, h.certain, h.correlation, h.point, h.stop, h.fence, h.launched, nofun⟩

theorem wp_handoffPreparedUpdate (hidle : Idle world) :
    wp AnyFate (handoffPreparedUpdate environment)
      ⟨fun _ t => Idle t, fun _ t => Idle t, MidOperation⟩ world := by
  refine wp_runExclusive hidle fun busy hfresh hactive howner hlog => ?_
  have howned : ∀ owner, busy.coordinator.owner = some owner → Follows owner busy.log := by
    intro owner hown
    rw [hlog]
    exact hidle.settled.owned owner (howner ▸ hown)
  refine wp_bind (wp_getOwner (wp_check (fun _ => ?_) fun hready => ?_))
  · refine ⟨hfresh, hactive, ?_, fun hnone => ?_, howned⟩
    · rw [hlog]
      exact hidle.settled.safe
    · rw [hlog]
      exact hidle.settled.free (howner ▸ hnone)
  · cases hown : busy.coordinator.owner with
    | none => simp [hown] at hready
    | some owner =>
        have hphase : owner.phase = .ready := by simpa [hown] using hready
        have hfollows := howned owner hown
        have hsafe : busy.log.Safe := by
          rw [hlog]
          exact hidle.settled.safe
        refine wp_bind (wp_modify (wp_mapError ?_))
        refine wp_abortingOnError ?_ hfresh
        simp only [hown, Option.map_some]
        exact runs_handoffOwned (hfollows.handingOff.busy hactive hsafe) rfl rfl
          (hfollows.ready hphase)

/-! ## Runs -/

/-- A new coordinator, whatever journal there is; an operation from its call to its end,
    and a change of the journal by somebody else. -/
def handoffSystem : TransitionSystem HandoffWorld where
  initial world := world.coordinator = ⟨false, none⟩ ∧ world.log = ⟨.acquired "", [], []⟩
  step world t :=
    (∃ environment outcome, outcome ≠ .stopped ∧
      Ends (prepareConfirmedUpdate environment) world outcome t) ∨
    (∃ environment outcome, outcome ≠ .stopped ∧
      Ends (handoffPreparedUpdate environment) world outcome t) ∨
    ∃ journal, t = world.changed journal

/-- An operation that was called in `world` has come to `t`. -/
def UnderWay (world t : HandoffWorld) : Prop :=
  (∃ environment, Ends (prepareConfirmedUpdate environment) world .stopped t) ∨
    ∃ environment, Ends (handoffPreparedUpdate environment) world .stopped t

theorem idle_of_ends {outcome : Outcome HandoffErrorCode α} {t : HandoffWorld}
    (h : wp AnyFate m ⟨fun _ t => Idle t, fun _ t => Idle t, MidOperation⟩ world)
    (hends : Ends m world outcome t) (houtcome : outcome ≠ .stopped) : Idle t := by
  have hpost := h.ends hends
  cases outcome with
  | returned a => exact hpost
  | threw e => exact hpost
  | stopped => exact absurd rfl houtcome

theorem idle_of_reachable (h : handoffSystem.Reachable world) : Idle world := by
  refine h.invariant ?_ ?_
  · rintro ⟨journal, changed, coordinator, log⟩ ⟨rfl, rfl⟩
    refine ⟨fun _ _ _ hwritten => ?_, rfl, ⟨?_, Nat.zero_le 1, ?_⟩, fun _ => rfl, fun _ howner => ?_⟩
    · cases hwritten
    · exact fun launch hlaunch => absurd hlaunch List.not_mem_nil
    · exact fun release hrelease => absurd hrelease List.not_mem_nil
    · cases howner
  · rintro world t - hidle (⟨environment, outcome, houtcome, hends⟩ |
      ⟨environment, outcome, houtcome, hends⟩ | ⟨journal, rfl⟩)
    · exact idle_of_ends (wp_prepareConfirmedUpdate hidle) hends houtcome
    · exact idle_of_ends (wp_handoffPreparedUpdate hidle) hends houtcome
    · refine ⟨fun hchanged => ?_, hidle.inactive, hidle.settled⟩
      cases hchanged

theorem midOperation_of_underWay {t : HandoffWorld} (hidle : Idle world) (h : UnderWay world t) :
    MidOperation t := by
  rcases h with ⟨environment, hends⟩ | ⟨environment, hends⟩
  · exact (wp_prepareConfirmedUpdate hidle).ends hends
  · exact (wp_handoffPreparedUpdate hidle).ends hends

/-- While an operation is under way, another one is refused before it calls anything. -/
theorem runExclusive_refused {code : HandoffErrorCode} (hactive : world.coordinator.activeOperation = true)
    (fates : List HandoffFate) : runExclusive code m world fates = (.threw code, world, fates) := by
  obtain ⟨journal, changed, ⟨active, owner⟩, log⟩ := world
  obtain rfl : active = true := hactive
  rfl

/-- And so is a preparation as long as there is an owner. -/
theorem prepareConfirmedUpdate_refused (hinactive : world.coordinator.activeOperation = false)
    (howner : world.coordinator.owner.isSome) (fates : List HandoffFate) :
    prepareConfirmedUpdate environment world fates =
      (.threw .preparationMaintenanceFailed, world, fates) := by
  obtain ⟨journal, changed, ⟨active, owner⟩, log⟩ := world
  obtain rfl : active = false := hinactive
  obtain ⟨owner, rfl⟩ := Option.isSome_iff_exists.mp howner
  rfl

/-- **SAFE HANDOFFS**: in every run, at the end of each operation and in its course,
    there is at most one launch, and it and the releases of the lease are safe; an
    operation that overlaps with another one is refused, and as long as the lease is
    retained, so is every preparation, before they have called anything. -/
theorem handoff_safe (h : handoffSystem.Reachable world) :
    world.log.Safe ∧
      (∀ t, UnderWay world t → t.log.Safe ∧ ∀ environment fates,
        prepareConfirmedUpdate environment t fates =
            (.threw .preparationMaintenanceFailed, t, fates) ∧
          handoffPreparedUpdate environment t fates = (.threw .handoffFailed, t, fates)) ∧
      (world.coordinator.owner.isSome → ∀ environment fates,
        prepareConfirmedUpdate environment world fates =
          (.threw .preparationMaintenanceFailed, world, fates)) := by
  have hidle := idle_of_reachable h
  refine ⟨hidle.settled.safe, fun t ht => ?_, fun howner environment fates => ?_⟩
  · have hmid := midOperation_of_underWay hidle ht
    exact ⟨hmid.safe, fun environment fates =>
      ⟨runExclusive_refused hmid.active fates, runExclusive_refused hmid.active fates⟩⟩
  · exact prepareConfirmedUpdate_refused hidle.inactive howner fates

/-! ## Particular runs -/

open SampleUpdate in
/-- An update from one release to the next. -/
def sampleEnvironment : HandoffEnvironment where
  operationId := "11111111-1111-4111-8111-111111111111"
  currentIdentity := ⟨oldPackage, "0.2.6"⟩
  candidateIdentity := ⟨newPackage, "0.2.7"⟩
  migrationChainIdentity := fun _ => migrationChain
  confirmsCleanup := fun _ => true
  recoveryPointReference := "22222222-2222-4222-8222-222222222222"
  cleanupUnverified := false
  now := fun _ => 0

/-- A coordinator that has done nothing. -/
def newCoordinator (journal : Option UpdateJournal) : HandoffWorld :=
  ⟨journal, false, ⟨false, none⟩, ⟨.acquired "", [], []⟩⟩

/-- The world after a preparation. -/
def afterPreparation (world : HandoffWorld) (fates : List HandoffFate) : HandoffWorld :=
  (prepareConfirmedUpdate sampleEnvironment world fates).2.1

/-- The world after a handoff. -/
def afterHandoff (world : HandoffWorld) (fates : List HandoffFate) : HandoffWorld :=
  (handoffPreparedUpdate sampleEnvironment world fates).2.1

theorem reachable_newCoordinator (journal : Option UpdateJournal) :
    handoffSystem.Reachable (newCoordinator journal) :=
  .initial ⟨rfl, rfl⟩

theorem reachable_afterPreparation {fates : List HandoffFate} (h : handoffSystem.Reachable world)
    (hends : (prepareConfirmedUpdate sampleEnvironment world fates).1 ≠ .stopped) :
    handoffSystem.Reachable (afterPreparation world fates) :=
  .step h (.inl ⟨_, _, hends, fates, rfl, rfl⟩)

theorem reachable_afterHandoff {fates : List HandoffFate} (h : handoffSystem.Reachable world)
    (hends : (handoffPreparedUpdate sampleEnvironment world fates).1 ≠ .stopped) :
    handoffSystem.Reachable (afterHandoff world fates) :=
  .step h (.inr (.inl ⟨_, _, hends, fates, rfl, rfl⟩))

/-- An update that is prepared and handed off. -/
def handedOff : HandoffWorld := afterHandoff (afterPreparation (newCoordinator none) []) []

theorem sample_prepared :
    (prepareConfirmedUpdate sampleEnvironment (newCoordinator none) []).1 ≠ .stopped := by
  decide +kernel

theorem reachable_prepared : handoffSystem.Reachable (afterPreparation (newCoordinator none) []) :=
  reachable_afterPreparation (reachable_newCoordinator none) sample_prepared

theorem sample_handedOff :
    (handoffPreparedUpdate sampleEnvironment (afterPreparation (newCoordinator none) []) []).1 =
        .returned () ∧
      handedOff.log.launches.length = 1 := by
  decide +kernel

theorem reachable_handedOff : handoffSystem.Reachable handedOff :=
  reachable_afterHandoff reachable_prepared (by rw [sample_handedOff.1]; exact nofun)

theorem handoff_safe_of_sample :
    handoffSystem.Reachable handedOff ∧ handedOff.log.launches.length = 1 ∧ handedOff.log.Safe :=
  ⟨reachable_handedOff, sample_handedOff.2, (handoff_safe reachable_handedOff).1⟩

/-- Somebody else may take the journal away right before the launch. -/
def changeBeforeLaunch : List HandoffFate :=
  List.replicate 12 default ++ [⟨some none, .completes, true⟩]

theorem sample_changed :
    (handoffPreparedUpdate sampleEnvironment (afterPreparation (newCoordinator none) [])
        changeBeforeLaunch).1 = .returned () ∧
      (afterHandoff (afterPreparation (newCoordinator none) []) changeBeforeLaunch).log.launches.map
        Snapshot.stored = [none] := by
  decide +kernel

theorem sample_refused :
    (prepareConfirmedUpdate sampleEnvironment
        (newCoordinator (some SampleUpdate.awaitingFirstStart)) []).1 ≠ .stopped ∧
      (afterPreparation (newCoordinator (some SampleUpdate.awaitingFirstStart)) []).log.releases.map
        (fun release => (release.stored, release.lease.written)) =
          [(some SampleUpdate.awaitingFirstStart, none)] := by
  decide +kernel

/-- The store need not hold the journal that the installer is launched on, and a lease is
    released by an owner that has not written a journal at all, whatever there is. -/
theorem launch_and_release_over_other_journals :
    (handoffSystem.Reachable
        (afterHandoff (afterPreparation (newCoordinator none) []) changeBeforeLaunch) ∧
      (afterHandoff (afterPreparation (newCoordinator none) []) changeBeforeLaunch).log.launches.map
        Snapshot.stored = [none]) ∧
    (handoffSystem.Reachable
        (afterPreparation (newCoordinator (some SampleUpdate.awaitingFirstStart)) []) ∧
      (afterPreparation (newCoordinator (some SampleUpdate.awaitingFirstStart)) []).log.releases.map
        (fun release => (release.stored, release.lease.written)) =
          [(some SampleUpdate.awaitingFirstStart, none)]) :=
  ⟨⟨reachable_afterHandoff reachable_prepared (by rw [sample_changed.1]; exact nofun),
      sample_changed.2⟩,
    reachable_afterPreparation (reachable_newCoordinator _) sample_refused.1, sample_refused.2⟩

end LocalUpdateHandoffCoordinator
