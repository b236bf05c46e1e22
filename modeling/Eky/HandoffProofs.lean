import Eky.Handoff
import Eky.TransitionSystem

/-! # What an owner of the lease knows

    The flags of the owner say less than what the dependencies have seen, and never
    something else: `Follows`.  Somebody else changes the journal only, so that the
    coordinator and the log are the same whatever happens to it; the rules of `Runs` are
    about these two, and keep the journal out of sight. -/

namespace LocalUpdateHandoffCoordinator

open Program

/-! ## Safe logs -/

/-- The store holds what was written last, unless somebody else has been there. -/
def HandoffWorld.Fresh (world : HandoffWorld) : Prop :=
  world.changedByOther = false → world.log.lease.writePending = false →
    ∀ journal, world.log.lease.written = some journal → world.journal = some journal

/-- The installer was launched on a journal that says so, after everything that has to
    come before. -/
def Snapshot.LaunchSafe (snapshot : Snapshot) : Prop :=
  ∃ journal, snapshot.lease.written = some journal ∧ snapshot.lease.writePending = false ∧
    journal.state = .awaitingFirstStart ∧ journal.handoffAttemptCount = 1 ∧
    journal.correlationId = snapshot.lease.operationId ∧
    (∃ reference ∈ snapshot.lease.validatedPoints, journal.recoveryPointReference = some reference) ∧
    (∃ chain, snapshot.lease.handoffChain = some chain ∧
      journal.preUpdateMigrationChainIdentity = some chain) ∧
    snapshot.lease.shutdownResolved = true ∧
    (snapshot.changedByOther = false → snapshot.stored = some journal)

/-- The lease was released by an owner that leaves nothing behind but a failed journal. -/
def Snapshot.ReleaseSafe (snapshot : Snapshot) : Prop :=
  snapshot.lease.writePending = false ∧ snapshot.lease.shutdownCalled = false ∧
    (snapshot.lease.maintenanceBegun = true → snapshot.lease.maintenanceEnded = true) ∧
    ∀ journal, snapshot.lease.written = some journal →
      journal.state = .failed ∧ snapshot.lease.readBack = true ∧
        (snapshot.changedByOther = false → snapshot.stored = some journal)

/-- Every launch and every release so far was safe. -/
structure HandoffLog.Safe (log : HandoffLog) : Prop where
  launches : ∀ launch ∈ log.launches, launch.LaunchSafe
  once : log.launches.length ≤ 1
  releases : ∀ release ∈ log.releases, release.ReleaseSafe

/-! ## Owners -/

/-- The owner does not claim more than the log says. -/
structure Follows (owner : PreparedUpdateOwner) (log : HandoffLog) : Prop where
  operation : log.lease.operationId = owner.operationId
  certain : owner.journalUncertain = false →
    log.lease.written = owner.journal ∧ log.lease.writePending = false
  correlation : ∀ journal, owner.journal = some journal → journal.correlationId = owner.operationId
  point : ∀ journal reference, owner.journal = some journal →
    journal.recoveryPointReference = some reference → reference ∈ log.lease.validatedPoints
  stop : log.lease.shutdownCalled = true → owner.stopStarted = true
  fence : log.lease.maintenanceBegun = true → owner.fenceRequested = true
  launched : log.launches ≠ [] → owner.stopStarted = true
  ready : owner.phase = .ready → owner.stopStarted = false

/-- In the course of an operation that has a lease. -/
structure Busy (coordinator : Coordinator) (log : HandoffLog) : Prop where
  active : coordinator.activeOperation = true
  safe : log.Safe
  owned : ∃ owner, coordinator.owner = some owner ∧ Follows owner log

/-- At its end: the lease may be gone, but not after a launch. -/
structure Settled (coordinator : Coordinator) (log : HandoffLog) : Prop where
  safe : log.Safe
  free : coordinator.owner = none → log.launches = []
  owned : ∀ owner, coordinator.owner = some owner → Follows owner log

theorem Busy.settled {coordinator : Coordinator} {log : HandoffLog} (h : Busy coordinator log) :
    Settled coordinator log := by
  obtain ⟨owner, howner, hfollows⟩ := h.owned
  refine ⟨h.safe, fun hnone => ?_, fun other hother => ?_⟩
  · rw [howner] at hnone
    cases hnone
  · rw [howner] at hother
    cases hother
    exact hfollows

/-- Between two operations. -/
structure Idle (world : HandoffWorld) : Prop where
  fresh : world.Fresh
  inactive : world.coordinator.activeOperation = false
  settled : Settled world.coordinator world.log

/-- In the middle of one. -/
structure MidOperation (world : HandoffWorld) : Prop where
  active : world.coordinator.activeOperation = true
  safe : world.log.Safe

/-! ## Rules -/

variable {α β : Type} {m : HandoffProgram α} {k : α → HandoffProgram β}
  {coordinator : Coordinator} {log : HandoffLog} {owner : PreparedUpdateOwner}
  {Q : α → Coordinator → HandoffLog → Prop} {R : Unit → Coordinator → HandoffLog → Prop}
  {environment : HandoffEnvironment}

/-- From this coordinator and this log, `m` returns to `Q` and throws in the course of an
    operation only. -/
def Runs (m : HandoffProgram α) (coordinator : Coordinator) (log : HandoffLog)
    (Q : α → Coordinator → HandoffLog → Prop) : Prop :=
  ∀ world : HandoffWorld, world.Fresh → world.coordinator = coordinator → world.log = log →
    wp AnyFate m
      ⟨fun a t => t.Fresh ∧ Q a t.coordinator t.log,
        fun _ t => t.Fresh ∧ Busy t.coordinator t.log,
        MidOperation⟩ world

theorem runs_pure {a : α} (h : Q a coordinator log) : Runs (pure a) coordinator log Q := by
  rintro world hfresh rfl rfl
  exact wp_pure ⟨hfresh, h⟩

variable {journal : UpdateJournal} {stage : ValidationStage} {code : HandoffErrorCode}

theorem runs_throw (h : Busy coordinator log) : Runs (throw code) coordinator log Q := by
  rintro world hfresh rfl rfl
  exact wp_throw ⟨hfresh, h⟩

theorem runs_bind {Q : β → Coordinator → HandoffLog → Prop}
    (h : Runs m coordinator log fun a c l => Runs (k a) c l Q) :
    Runs (m >>= k) coordinator log Q := by
  intro world hfresh hc hl
  exact wp_bind ((h world hfresh hc hl).mono (fun a t ht => ht.2 t ht.1 rfl rfl)
    (fun _ _ ht => ht) fun _ ht => ht)

theorem runs_check {c : Prop} [Decidable c] (hbusy : Busy coordinator log)
    (h : ¬ c → Runs m coordinator log Q) : Runs (do
      if c then throw code
      m) coordinator log Q := by
  rintro world hfresh rfl rfl
  exact wp_check (fun _ => ⟨hfresh, hbusy⟩) fun hpassed => h hpassed world hfresh rfl rfl

theorem runs_failingWith (h : Runs m coordinator log Q) :
    Runs (failingWith code m) coordinator log Q :=
  fun world hfresh hc hl => wp_mapError (h world hfresh hc hl)

theorem runs_ofExcept {r : Except HandoffErrorCode α} (hbusy : Busy coordinator log)
    (h : ∀ a, r = .ok a → Q a coordinator log) : Runs (Program.ofExcept r) coordinator log Q := by
  rintro world hfresh rfl rfl
  exact wp_ofExcept (fun a ha => ⟨hfresh, h a ha⟩) fun _ _ => ⟨hfresh, hbusy⟩

theorem runs_transition {input : JournalTransition}
    {Q : UpdateJournal → Coordinator → HandoffLog → Prop} (hbusy : Busy coordinator log)
    (h : ∀ next, transitionUpdateJournal journal input = .ok next → Q next coordinator log) :
    Runs (transition journal input) coordinator log Q := by
  exact runs_ofExcept hbusy fun next hnext => h next (ok_of_mapError hnext)

theorem runs_modifyOwner {f : PreparedUpdateOwner → PreparedUpdateOwner}
    (howner : coordinator.owner = some owner)
    (h : R () { coordinator with owner := some (f owner) } log) :
    Runs (modifyOwner f) coordinator log R := by
  rintro world hfresh rfl rfl
  refine wp_modify ⟨hfresh, ?_⟩
  simpa [howner] using h

theorem runs_requireOwner {Q : PreparedUpdateOwner → Coordinator → HandoffLog → Prop}
    (howner : coordinator.owner = some owner) (h : Q owner coordinator log) :
    Runs requireOwner coordinator log Q := by
  rintro world hfresh rfl rfl
  refine wp_bind (wp_bind (wp_get (wp_pure ?_)))
  simp only [howner]
  exact wp_pure ⟨hfresh, h⟩

/-- Whoever changes the journal, changes neither the coordinator nor the log. -/
theorem meet_fresh {fate : HandoffFate} {world : HandoffWorld} (h : world.Fresh) :
    (fate.meet world).Fresh ∧ (fate.meet world).coordinator = world.coordinator ∧
      (fate.meet world).log = world.log := by
  rw [HandoffFate.meet]
  split
  · exact ⟨nofun, rfl, rfl⟩
  · exact ⟨h, rfl, rfl⟩

theorem wp_call {act : HandoffFate → HandoffWorld → α × HandoffWorld} {world : HandoffWorld}
    {post : Post HandoffWorld HandoffErrorCode α}
    (hreturned : ∀ fate : HandoffFate, fate.ending = .completes →
      post.returned (act fate (fate.meet world)).1 (act fate (fate.meet world)).2)
    (hthrew : ∀ fate : HandoffFate, fate.ending = .fails →
      post.threw .handoffFailed (act fate (fate.meet world)).2)
    (hstopped : ∀ fate : HandoffFate, fate.ending = .crashes →
      post.stopped (act fate (fate.meet world)).2) : wp AnyFate (call act) post world := by
  refine wp_effect trivial fun fate _ => ?_
  have hreturned := hreturned fate
  have hthrew := hthrew fate
  have hstopped := hstopped fate
  rcases hended : act fate (fate.meet world) with ⟨answer, after⟩
  rw [hended] at hreturned hthrew hstopped
  cases hending : fate.ending with
  | completes => exact hreturned hending
  | fails => exact hthrew hending
  | crashes => exact hstopped hending

/-- **CALLS**: the rule for each of them. -/
theorem runs_call {act : HandoffFate → HandoffWorld → α × HandoffWorld}
    (h : ∀ fate world, world.Fresh → world.coordinator = coordinator → world.log = log →
      (act fate world).2.Fresh ∧ Busy (act fate world).2.coordinator (act fate world).2.log ∧
        (fate.ending = .completes →
          Q (act fate world).1 (act fate world).2.coordinator (act fate world).2.log)) :
    Runs (call act) coordinator log Q := by
  intro world hfresh hc hl
  have hact : ∀ fate : HandoffFate, _ := fun fate =>
    h fate (fate.meet world) (meet_fresh hfresh).1 ((meet_fresh hfresh).2.1.trans hc)
      ((meet_fresh hfresh).2.2.trans hl)
  exact wp_call (fun fate hending => ⟨(hact fate).1, (hact fate).2.2 hending⟩)
    (fun fate _ => ⟨(hact fate).1, (hact fate).2.1⟩)
    fun fate _ => ⟨(hact fate).2.1.active, (hact fate).2.1.safe⟩

theorem runs_tryCatch {handler : HandoffErrorCode → HandoffProgram α}
    (h : Runs m coordinator log Q)
    (hhandler : ∀ code c l, Busy c l → Runs (handler code) c l Q) :
    Runs (tryCatch m handler) coordinator log Q := by
  intro world hfresh hc hl
  exact wp_tryCatch ((h world hfresh hc hl).mono (fun _ _ ht => ht)
    (fun code t ht => hhandler code _ _ ht.2 t ht.1 rfl rfl) fun _ ht => ht)

/-! ## The calls -/

/-- The log when something is noted in it. -/
def HandoffLog.modifyLease (log : HandoffLog) (f : LeaseLog → LeaseLog) : HandoffLog :=
  { log with lease := f log.lease }

/-- A write of the journal has begun. -/
def LeaseLog.begun (lease : LeaseLog) : LeaseLog := { lease with writePending := true }

/-- The journal has been read back. -/
def LeaseLog.read (lease : LeaseLog) : LeaseLog := { lease with readBack := true }

/-- A write of the journal has ended. -/
def LeaseLog.wrote (journal : UpdateJournal) (lease : LeaseLog) : LeaseLog :=
  { lease with writePending := false, written := some journal, readBack := false }

theorem HandoffLog.Safe.modifyLease {f : LeaseLog → LeaseLog} (h : log.Safe) :
    (log.modifyLease f).Safe :=
  ⟨h.launches, h.once, h.releases⟩

theorem Busy.modifyLease {f : LeaseLog → LeaseLog} (h : Busy coordinator log)
    (hf : ∀ owner, coordinator.owner = some owner → Follows owner log →
      Follows owner (log.modifyLease f)) : Busy coordinator (log.modifyLease f) := by
  obtain ⟨owner, howner, hfollows⟩ := h.owned
  exact ⟨h.active, h.safe.modifyLease, owner, howner, hf owner howner hfollows⟩

theorem Busy.setOwner (h : Busy coordinator log) (hfollows : Follows owner log) :
    Busy { coordinator with owner := some owner } log :=
  ⟨h.active, h.safe, owner, rfl, hfollows⟩

theorem Follows.busy (h : Follows owner log) (hactive : coordinator.activeOperation = true)
    (hsafe : log.Safe) : Busy { coordinator with owner := some owner } log :=
  ⟨hactive, hsafe, owner, rfl, h⟩

theorem Busy.follows (h : Busy coordinator log) (howner : coordinator.owner = some owner) :
    Follows owner log :=
  h.settled.owned owner howner

theorem runs_callFor {a : α} (hbusy : Busy coordinator log) (h : Q a coordinator log) :
    Runs (callFor a) coordinator log Q := by
  refine runs_call ?_
  rintro fate world hfresh rfl rfl
  exact ⟨hfresh, hbusy, fun _ => h⟩

/-- A call that is noted, and says nothing about the journal. -/
theorem runs_callLogged {made resolved : LeaseLog → LeaseLog}
    (hmade : ∀ lease, (made lease).written = lease.written ∧
      (made lease).writePending = lease.writePending)
    (hresolved : ∀ lease, (resolved lease).written = lease.written ∧
      (resolved lease).writePending = lease.writePending)
    (hbusy : Busy coordinator (log.modifyLease made))
    (hdone : Busy coordinator ((log.modifyLease made).modifyLease resolved))
    (h : R () coordinator ((log.modifyLease made).modifyLease resolved)) :
    Runs (callLogged made resolved) coordinator log R := by
  refine runs_call ?_
  rintro fate world hfresh rfl rfl
  have hmadeFresh : (world.modifyLease made).Fresh := by
    intro hchanged hpending journal hwritten
    refine hfresh hchanged ?_ journal ?_
    · rw [← (hmade _).2]
      exact hpending
    · rw [← (hmade _).1]
      exact hwritten
  by_cases hending : fate.ending = .completes
  · simp only [hending, if_true]
    refine ⟨?_, hdone, fun _ => h⟩
    intro hchanged hpending journal hwritten
    refine hmadeFresh hchanged ?_ journal ?_
    · rw [← (hresolved _).2]
      exact hpending
    · rw [← (hresolved _).1]
      exact hwritten
  · simp only [hending, if_false]
    exact ⟨hmadeFresh, hbusy, fun hcompletes => absurd hcompletes (by simp)⟩

theorem runs_readJournal {Q : Option UpdateJournal → Coordinator → HandoffLog → Prop}
    (hbusy : Busy coordinator log) (h : ∀ stored, Q stored coordinator log) :
    Runs readJournal coordinator log Q := by
  refine runs_call ?_
  rintro fate world hfresh rfl rfl
  exact ⟨hfresh, hbusy, fun _ => h _⟩

theorem Follows.read (h : Follows owner log) : Follows owner (log.modifyLease .read) :=
  ⟨h.operation, h.certain, h.correlation, h.point, h.stop, h.fence, h.launched, h.ready⟩

/-- What is read is what was written last, and that is noted, or it is something else. -/
theorem runs_readForLiveOwner {Q : Option UpdateJournal → Coordinator → HandoffLog → Prop}
    (hbusy : Busy coordinator log)
    (hsame : Q log.lease.written coordinator (log.modifyLease .read))
    (hother : ∀ stored, stored ≠ log.lease.written → Q stored coordinator log) :
    Runs readForLiveOwner coordinator log Q := by
  refine runs_call ?_
  rintro fate world hfresh rfl rfl
  by_cases hread : fate.ending = .completes ∧ world.journal = world.log.lease.written
  · simp only [hread, and_self, if_true]
    refine ⟨?_, hbusy.modifyLease fun _ _ hfollows => hfollows.read, fun _ => hsame⟩
    rintro - - journal hwritten
    exact hread.2.trans hwritten
  · simp only [hread, if_false]
    exact ⟨hfresh, hbusy, fun hending => hother _ fun hsame => hread ⟨hending, hsame⟩⟩

/-- As long as the owner is uncertain, nothing is expected of the journal. -/
theorem Follows.begun (h : Follows owner log) (huncertain : owner.journalUncertain = true) :
    Follows owner (log.modifyLease .begun) :=
  ⟨h.operation, fun hcertain => absurd (huncertain.symm.trans hcertain) (by simp), h.correlation,
    h.point, h.stop, h.fence, h.launched, h.ready⟩

theorem runs_writeJournal (hbegun : Busy coordinator (log.modifyLease .begun))
    (h : R () coordinator (log.modifyLease (.wrote journal))) :
    Runs (writeJournal journal) coordinator log R := by
  intro world hfresh hc hl
  refine wp_effect trivial fun fate _ => ?_
  obtain ⟨-, hcoordinator, hlog⟩ := @meet_fresh fate _ hfresh
  generalize fate.meet world = met at hcoordinator hlog
  obtain rfl : met.coordinator = coordinator := hcoordinator.trans hc
  obtain rfl : met.log = log := hlog.trans hl
  cases hending : fate.ending with
  | completes =>
      by_cases hconflict : conflicts met.journal journal = true
      · simp only [HandoffWorld.modifyLease, hconflict, if_true]
        exact ⟨nofun, hbegun⟩
      · simp only [HandoffWorld.modifyLease, hconflict]
        refine ⟨?_, h⟩
        rintro - - _ ⟨⟩
        rfl
  | fails =>
      by_cases heffect : (fate.takesEffect && !conflicts met.journal journal) = true
      · simp only [HandoffWorld.modifyLease, heffect, if_true]
        exact ⟨nofun, hbegun⟩
      · simp only [HandoffWorld.modifyLease, heffect]
        exact ⟨nofun, hbegun⟩
  | crashes =>
      by_cases heffect : (fate.takesEffect && !conflicts met.journal journal) = true
      · simp only [HandoffWorld.modifyLease, heffect, if_true]
        exact ⟨hbegun.active, hbegun.safe⟩
      · simp only [HandoffWorld.modifyLease, heffect]
        exact ⟨hbegun.active, hbegun.safe⟩

/-- Before anything was written, a clearance leaves no trace. -/
theorem runs_clearJournal (hbegun : Busy coordinator (log.modifyLease .begun))
    (hbusy : Busy coordinator log) (hpending : log.lease.writePending = false)
    (hwritten : log.lease.written = none) (h : R () coordinator log) :
    Runs clearJournal coordinator log R := by
  have hsame : ({ log with lease := { log.lease with writePending := false } } : HandoffLog) = log := by
    rw [← hpending]
  refine runs_call ?_
  rintro fate world hfresh rfl rfl
  by_cases hending : fate.ending = .completes
  · simp only [hending, if_true, HandoffWorld.modifyLease]
    rw [hsame]
    refine ⟨?_, hbusy, fun _ => h⟩
    rintro - - journal hjournal
    rw [hwritten] at hjournal
    cases hjournal
  · simp only [hending, if_false]
    split
    · exact ⟨nofun, hbegun, fun hcompletes => absurd hcompletes (by simp)⟩
    · exact ⟨nofun, hbegun, fun hcompletes => absurd hcompletes (by simp)⟩

/-! ## The journal of the owner -/

theorem Follows.uncertain (h : Follows owner log) :
    Follows { owner with journalUncertain := true } log :=
  ⟨h.operation, nofun, h.correlation, h.point, h.stop, h.fence, h.launched, h.ready⟩

/-- The journal in place is the one that the owner has written, or the owner is not sure
    of it any longer. -/
theorem runs_assertOwnedJournal (hbusy : Busy coordinator log)
    (howner : coordinator.owner = some owner)
    (h : owner.journalUncertain = false → R () coordinator (log.modifyLease .read)) :
    Runs assertOwnedJournal coordinator log R := by
  refine runs_bind (runs_requireOwner howner (runs_check hbusy fun hcertain => ?_))
  rw [Bool.not_eq_true] at hcertain
  obtain ⟨hwritten, -⟩ := (hbusy.follows howner).certain hcertain
  refine runs_tryCatch (runs_bind (runs_readForLiveOwner hbusy ?_ fun stored hstored => ?_)) ?_
  · rw [if_neg (not_not.mpr hwritten)]
    exact runs_pure (h hcertain)
  · rw [if_pos (hwritten ▸ hstored)]
    exact runs_throw hbusy
  · intro code c l hfailed
    obtain ⟨other, hother, hfollows⟩ := hfailed.owned
    exact runs_bind (runs_modifyOwner hother (runs_throw (hfailed.setOwner hfollows.uncertain)))

theorem Follows.wrote (h : Follows owner log)
    (hcorrelation : journal.correlationId = owner.operationId)
    (hpoint : ∀ reference, journal.recoveryPointReference = some reference →
      reference ∈ log.lease.validatedPoints) :
    Follows { owner with journal := some journal, journalUncertain := false }
      (log.modifyLease (.wrote journal)) := by
  refine ⟨h.operation, fun _ => ⟨rfl, rfl⟩, ?_, ?_, h.stop, h.fence, h.launched, h.ready⟩
  · rintro _ ⟨⟩
    exact hcorrelation
  · rintro _ reference ⟨⟩
    exact hpoint reference

/-- A journal that was written is the one of the owner from then on. -/
theorem runs_writeOwnedJournal (hbusy : Busy coordinator log)
    (howner : coordinator.owner = some owner) (h : R () { coordinator with
        owner := some { owner with journal := some journal, journalUncertain := false } }
      (log.modifyLease (.wrote journal))) : Runs (writeOwnedJournal journal) coordinator log R := by
  have hfollows := hbusy.follows howner
  refine runs_bind (runs_assertOwnedJournal hbusy howner fun hcertain => ?_)
  refine runs_bind (runs_modifyOwner howner (runs_bind (runs_writeJournal ?_ ?_)))
  · exact ⟨hbusy.active, hbusy.safe.modifyLease.modifyLease, _, rfl,
      hfollows.read.uncertain.begun rfl⟩
  · exact runs_modifyOwner rfl h

/-- The finished update of a journal in place is over with. -/
theorem runs_assertJournalCanBeReplaced (hbusy : Busy coordinator log)
    (howner : coordinator.owner = some owner) (hcertain : owner.journalUncertain = false)
    (hwritten : log.lease.written = none) (h : R () coordinator log) :
    Runs assertJournalCanBeReplaced coordinator log R := by
  have hfollows := hbusy.follows howner
  have hrestored : ({ coordinator with owner := some { owner with journalUncertain := false } } :
      Coordinator) = coordinator := by
    rw [← hcertain, ← howner]
  refine runs_bind (runs_readJournal hbusy fun stored => ?_)
  cases stored with
  | none => exact runs_pure h
  | some current =>
      refine runs_check hbusy fun _ => ?_
      refine runs_bind (runs_modifyOwner howner (runs_bind (runs_clearJournal ?_ ?_ ?_ hwritten ?_)))
      · exact (hbusy.setOwner hfollows.uncertain).modifyLease fun _ _ _ => by
          rename_i hsame _
          cases hsame
          exact hfollows.uncertain.begun rfl
      · exact hbusy.setOwner hfollows.uncertain
      · exact (hfollows.certain hcertain).2
      · refine runs_modifyOwner rfl ?_
        rw [hrestored]
        exact h

/-! ## The profile -/

theorem Follows.validating {validationUncertain : Bool} (h : Follows owner log) :
    Follows { owner with validationUncertain := validationUncertain } log :=
  ⟨h.operation, h.certain, h.correlation, h.point, h.stop, h.fence, h.launched, h.ready⟩

/-- The migrations have been checked. -/
def LeaseLog.validated (stage : ValidationStage) (chain : String) (lease : LeaseLog) : LeaseLog :=
  if stage = .handoff then { lease with handoffChain := some chain } else lease

theorem Follows.validated {chain : String} (h : Follows owner log) :
    Follows owner (log.modifyLease (.validated stage chain)) := by
  cases stage with
  | preparation => exact h
  | handoff =>
      exact ⟨h.operation, h.certain, h.correlation, h.point, h.stop, h.fence, h.launched, h.ready⟩

theorem runs_validateActiveProfile {Q : String → Coordinator → HandoffLog → Prop}
    (hbusy : Busy coordinator log) (h : Q (environment.migrationChainIdentity stage) coordinator
      (log.modifyLease (.validated stage (environment.migrationChainIdentity stage)))) :
    Runs (validateActiveProfile environment stage) coordinator log Q := by
  refine runs_call ?_
  rintro fate world hfresh rfl rfl
  by_cases hnoted : fate.ending = .completes ∧ stage = .handoff
  · obtain ⟨hending, rfl⟩ := hnoted
    simp only [hending, and_self, if_true]
    have hvalidated : Busy world.coordinator (world.log.modifyLease
        (.validated .handoff (environment.migrationChainIdentity .handoff))) :=
      hbusy.modifyLease fun _ _ hfollows => hfollows.validated
    exact ⟨hfresh, hvalidated, fun _ => h⟩
  · simp only [hnoted, if_false]
    refine ⟨hfresh, hbusy, fun hending => ?_⟩
    have hstage : ¬ stage = .handoff := fun hstage => hnoted ⟨hending, hstage⟩
    have hsame : world.log.modifyLease (.validated stage (environment.migrationChainIdentity stage)) =
        world.log := by
      simp [HandoffLog.modifyLease, LeaseLog.validated, hstage]
    rwa [hsame] at h

theorem runs_andFinally {f : PreparedUpdateOwner → PreparedUpdateOwner}
    (hf : ∀ owner l, Follows owner l → Follows (f owner) l)
    (h : Runs m coordinator log fun a c l =>
      ∃ owner, c.owner = some owner ∧ Q a { c with owner := some (f owner) } l) :
    Runs (Program.andFinally m (modifyOwner f)) coordinator log Q := by
  intro world hfresh hc hl
  refine wp_andFinally ((h world hfresh hc hl).mono ?_ ?_ fun _ ht => ht)
  · rintro a t ⟨hfresh, owner, howner, hQ⟩
    refine wp_modify ⟨hfresh, ?_⟩
    simpa [howner] using hQ
  · rintro e t ⟨hfresh, hbusy⟩
    obtain ⟨owner, howner, hfollows⟩ := hbusy.owned
    refine wp_modify ⟨hfresh, hbusy.active, hbusy.safe, f owner, ?_, hf owner _ hfollows⟩
    simp [howner]

/-- A validation that is returned from was confirmed to have cleaned up. -/
theorem runs_validateOwnedProfile {Q : String → Coordinator → HandoffLog → Prop}
    (hbusy : Busy coordinator log) (howner : coordinator.owner = some owner)
    (h : Q (environment.migrationChainIdentity stage)
      { coordinator with owner := some { owner with validationUncertain := false } }
      (log.modifyLease (.validated stage (environment.migrationChainIdentity stage)))) :
    Runs (validateOwnedProfile environment stage) coordinator log Q := by
  have hfollows := hbusy.follows howner
  have hvalidating : Busy { coordinator with owner := some { owner with validationUncertain := true } }
      log := hbusy.setOwner hfollows.validating
  refine runs_bind (runs_modifyOwner howner (runs_bind (runs_requireOwner rfl ?_)))
  refine runs_andFinally (fun _ _ hother => hother.validating) ?_
  refine runs_bind (runs_validateActiveProfile hvalidating ?_)
  have hvalidated : Busy { coordinator with owner := some { owner with validationUncertain := true } }
      (log.modifyLease (.validated stage (environment.migrationChainIdentity stage))) :=
    hvalidating.modifyLease fun _ _ hother => hother.validated
  refine runs_bind (runs_requireOwner rfl (runs_check hvalidated fun _ =>
    runs_check hvalidated fun hconfirmed => runs_pure ⟨_, rfl, ?_⟩))
  rw [Bool.not_eq_true, Bool.not_eq_false'] at hconfirmed
  simpa only [hconfirmed, Bool.not_true] using h

/-! ## Abortion -/

/-- What is left when an operation is over, whatever became of it. -/
def Over (coordinator : Coordinator) (log : HandoffLog) : Prop :=
  coordinator.activeOperation = true ∧ Settled coordinator log

theorem Busy.over (h : Busy coordinator log) : Over coordinator log := ⟨h.active, h.settled⟩

theorem runs_setOwner {next : Option PreparedUpdateOwner}
    (h : R () { coordinator with owner := next } log) : Runs (setOwner next) coordinator log R := by
  rintro world hfresh rfl rfl
  exact wp_modify ⟨hfresh, h⟩

/-- The lease is released by an owner that knows what it leaves behind. -/
theorem runs_releaseLease (hbusy : Busy coordinator log) (howner : coordinator.owner = some owner)
    (hcertain : owner.journalUncertain = false) (hstop : owner.stopStarted = false)
    (hended : log.lease.maintenanceBegun = true → log.lease.maintenanceEnded = true)
    (hfailed : ∀ journal, log.lease.written = some journal →
      journal.state = .failed ∧ log.lease.readBack = true) :
    Runs (releaseLease >>= fun _ => setOwner none) coordinator log fun _ c l => Over c l := by
  have hfollows := hbusy.follows howner
  have hcalled : log.lease.shutdownCalled = false := by
    by_contra hcalled
    have hstopped := hfollows.stop (by simpa using hcalled)
    rw [hstop] at hstopped
    cases hstopped
  have hlaunches : log.launches = [] := by
    by_contra hlaunched
    have hstopped := hfollows.launched hlaunched
    rw [hstop] at hstopped
    cases hstopped
  rw [releaseLease]
  refine runs_bind (runs_call ?_)
  rintro fate world hfresh rfl rfl
  have hsafe : world.snapshot.ReleaseSafe := by
    refine ⟨(hfollows.certain hcertain).2, hcalled, hended, fun journal hwritten => ?_⟩
    obtain ⟨hstate, hread⟩ := hfailed journal hwritten
    exact ⟨hstate, hread, fun hchanged =>
      hfresh hchanged (hfollows.certain hcertain).2 journal hwritten⟩
  have hreleased : HandoffLog.Safe { world.log with
      releases := world.snapshot :: world.log.releases } := by
    refine ⟨hbusy.safe.launches, hbusy.safe.once, fun release hrelease => ?_⟩
    rcases List.mem_cons.mp hrelease with rfl | hrelease
    · exact hsafe
    · exact hbusy.safe.releases release hrelease
  have hkept : Follows owner { world.log with
      releases := world.snapshot :: world.log.releases } :=
    ⟨hfollows.operation, hfollows.certain, hfollows.correlation, hfollows.point, hfollows.stop,
      hfollows.fence, hfollows.launched, hfollows.ready⟩
  have hover : Over { world.coordinator with owner := none } { world.log with
      releases := world.snapshot :: world.log.releases } :=
    ⟨hbusy.active, hreleased, fun _ => hlaunches, fun _ hother => by cases hother⟩
  exact ⟨hfresh, ⟨hbusy.active, hreleased, owner, howner, hkept⟩, fun _ => runs_setOwner hover⟩

theorem runs_endUpdateMaintenance (hbusy : Busy coordinator log)
    (h : Busy coordinator (log.modifyLease fun lease => { lease with maintenanceEnded := true }) →
      R () coordinator (log.modifyLease fun lease => { lease with maintenanceEnded := true })) :
    Runs endUpdateMaintenance coordinator log R := by
  have hending : Busy coordinator (log.modifyLease fun lease =>
      { lease with maintenanceEnded := true }) :=
    hbusy.modifyLease fun _ _ hother => ⟨hother.operation, hother.certain, hother.correlation,
      hother.point, hother.stop, hother.fence, hother.launched, hother.ready⟩
  rw [endUpdateMaintenance]
  exact runs_callLogged (fun _ => ⟨rfl, rfl⟩) (fun _ => ⟨rfl, rfl⟩) hbusy hending (h hending)

/-- The rest of an abortion, once the journal is settled. -/
theorem runs_endMaintenance (hbusy : Busy coordinator log) (howner : coordinator.owner = some owner)
    (hcertain : owner.journalUncertain = false)
    (hfailed : ∀ journal, log.lease.written = some journal →
      journal.state = .failed ∧ log.lease.readBack = true) :
    Runs (if owner.stopStarted then pure ()
      else do
        if owner.fenceRequested then do
          assertUpdateMaintenance
          endUpdateMaintenance
        releaseLease
        setOwner none) coordinator log fun _ c l => Over c l := by
  have hfollows := hbusy.follows howner
  cases hstop : owner.stopStarted with
  | true => exact runs_pure hbusy.over
  | false =>
      cases hfence : owner.fenceRequested with
      | true =>
          refine runs_bind (runs_callFor hbusy (runs_bind (runs_endUpdateMaintenance hbusy fun hended =>
            ?_)))
          exact runs_releaseLease hended howner hcertain hstop (fun _ => rfl) hfailed
      | false =>
          refine runs_releaseLease hbusy howner hcertain hstop (fun hbegun => ?_) hfailed
          have hrequested := hfollows.fence hbegun
          rw [hfence] at hrequested
          cases hrequested

/-- Giving up ends the operation. -/
theorem runs_abandon (hbusy : Busy coordinator log) :
    Runs (abandon environment) coordinator log fun _ c l => Over c l := by
  obtain ⟨owner, howner, hfollows⟩ := hbusy.owned
  refine runs_bind (runs_requireOwner howner ?_)
  cases huncertain : owner.journalUncertain with
  | true => exact runs_pure hbusy.over
  | false =>
      cases hvalidation : owner.validationUncertain with
      | true => exact runs_pure hbusy.over
      | false =>
          obtain ⟨hwritten, -⟩ := hfollows.certain huncertain
          cases hjournal : owner.journal with
          | none =>
              refine runs_bind (runs_pure ?_)
              refine runs_endMaintenance hbusy howner huncertain fun journal hstored => ?_
              rw [hwritten, hjournal] at hstored
              cases hstored
          | some journal =>
              refine runs_bind (runs_transition hbusy fun failed hfailed => ?_)
              obtain ⟨-, hfields⟩ := transitionUpdateJournal_ok hfailed
              have hcorrelation : failed.correlationId = owner.operationId :=
                (transition_correlationId hfailed).trans (hfollows.correlation journal hjournal)
              have hpoint : ∀ reference, failed.recoveryPointReference = some reference →
                  reference ∈ log.lease.validatedPoints := by
                intro reference hreference
                rw [hfields] at hreference
                exact hfollows.point journal reference hjournal hreference
              have hwrote := hfollows.wrote hcorrelation hpoint
              have hfailedBusy : Busy { coordinator with
                  owner := some { owner with journal := some failed, journalUncertain := false } }
                  (log.modifyLease (.wrote failed)) :=
                ⟨hbusy.active, hbusy.safe.modifyLease, _, rfl, hwrote⟩
              refine runs_bind (runs_writeOwnedJournal hbusy howner ?_)
              refine runs_bind (runs_assertOwnedJournal hfailedBusy rfl fun _ => ?_)
              have hread := hfailedBusy.modifyLease fun _ _ h => h.read
              let settled : PreparedUpdateOwner :=
                { owner with journal := some failed, journalUncertain := false }
              have hsettled : ({ coordinator with owner := some settled } : Coordinator).owner =
                some settled := rfl
              refine @runs_endMaintenance _ _ settled hread hsettled rfl ?_
              rintro _ ⟨⟩
              exact ⟨transition_state hfailed, rfl⟩

/-! ## Preparation -/

theorem Follows.fenced (h : Follows owner log) :
    Follows { owner with fenceRequested := true } log :=
  ⟨h.operation, h.certain, h.correlation, h.point, h.stop, fun _ => rfl, h.launched, h.ready⟩

theorem runs_beginUpdateMaintenance (hbusy : Busy coordinator log)
    (howner : coordinator.owner = some owner) (hfence : owner.fenceRequested = true)
    (h : Busy coordinator (log.modifyLease fun lease => { lease with maintenanceBegun := true }) →
      R () coordinator (log.modifyLease fun lease => { lease with maintenanceBegun := true })) :
    Runs beginUpdateMaintenance coordinator log R := by
  have hbegun : Busy coordinator (log.modifyLease fun lease =>
      { lease with maintenanceBegun := true }) := by
    have hfollows := hbusy.follows howner
    exact ⟨hbusy.active, hbusy.safe.modifyLease, owner, howner, hfollows.operation, hfollows.certain,
      hfollows.correlation, hfollows.point, hfollows.stop, fun _ => hfence, hfollows.launched,
      hfollows.ready⟩
  rw [beginUpdateMaintenance]
  exact runs_callLogged (fun _ => ⟨rfl, rfl⟩) (fun _ => ⟨rfl, rfl⟩) hbegun hbegun (h hbegun)

/-- A recovery point has been checked. -/
def LeaseLog.pointed (reference : String) (lease : LeaseLog) : LeaseLog :=
  { lease with validatedPoints := reference :: lease.validatedPoints }

theorem Follows.pointed {reference : String} (h : Follows owner log) :
    Follows owner (log.modifyLease (.pointed reference)) :=
  ⟨h.operation, h.certain, h.correlation,
    fun journal other hjournal hother => List.mem_cons_of_mem _ (h.point journal other hjournal hother),
    h.stop, h.fence, h.launched, h.ready⟩

theorem runs_createValidatedPreUpdatePoint {Q : String → Coordinator → HandoffLog → Prop}
    (hbusy : Busy coordinator log)
    (h : Busy coordinator (log.modifyLease (.pointed environment.recoveryPointReference)) →
      Q environment.recoveryPointReference coordinator
        (log.modifyLease (.pointed environment.recoveryPointReference))) :
    Runs (createValidatedPreUpdatePoint environment) coordinator log Q := by
  have hpointed : Busy coordinator
      (log.modifyLease (.pointed environment.recoveryPointReference)) :=
    hbusy.modifyLease fun _ _ hfollows => hfollows.pointed
  refine runs_tryCatch (runs_call ?_) ?_
  · rintro fate world hfresh rfl rfl
    by_cases hending : fate.ending = .completes
    · simp only [hending, if_true]
      exact ⟨hfresh, hpointed, fun _ => h hpointed⟩
    · simp only [hending, if_false]
      exact ⟨hfresh, hbusy, nofun⟩
  · intro code c l hfailed
    obtain ⟨other, hother, hfollows⟩ := hfailed.owned
    show Runs (if environment.cleanupUnverified then _ else _) c l Q
    split
    · exact runs_bind (runs_modifyOwner hother
        (runs_throw (hfailed.setOwner hfollows.validating)))
    · exact runs_throw hfailed

/-- The owner of a lease that was just acquired. -/
def PreparedUpdateOwner.acquired (operationId : String) : PreparedUpdateOwner :=
  ⟨operationId, .preparing, none, false, false, false, false⟩

/-- A preparation stays within its lease. -/
theorem runs_prepareOwned (hbusy : Busy coordinator log)
    (howner : coordinator.owner = some (.acquired environment.operationId))
    (hwritten : log.lease.written = none) :
    Runs (prepareOwned environment) coordinator log fun _ c l => Busy c l := by
  have hfollows := hbusy.follows howner
  refine runs_bind (runs_failingWith
    (runs_assertJournalCanBeReplaced hbusy howner rfl hwritten ?_))
  refine runs_bind (runs_failingWith (runs_bind (runs_callFor hbusy (runs_bind
    (runs_callFor hbusy (runs_pure ?_))))))
  refine runs_bind (runs_failingWith (runs_bind (runs_validateOwnedProfile hbusy howner ?_)))
  have hvalidated : Busy { coordinator with owner := some (.acquired environment.operationId) }
      (log.modifyLease (.validated .preparation (environment.migrationChainIdentity .preparation))) :=
    (hbusy.setOwner hfollows).modifyLease fun _ _ hother => hother.validated
  refine runs_ofExcept hvalidated fun prepared hprepared => ?_
  have hfields := parseUpdateJournal_ok (ok_of_mapError hprepared)
  have hcorrelation : prepared.correlationId = environment.operationId := by rw [hfields]
  have hpoint : prepared.recoveryPointReference = none := by rw [hfields]
  -- the first journal of this owner
  refine runs_bind (runs_failingWith (runs_writeOwnedJournal hvalidated rfl ?_))
  have hwrote : Follows { PreparedUpdateOwner.acquired environment.operationId with
      journal := some prepared, journalUncertain := false } _ :=
    (hvalidated.follows rfl).wrote hcorrelation fun reference hreference => by
      rw [hpoint] at hreference
      cases hreference
  refine runs_bind (runs_failingWith (runs_bind (runs_modifyOwner rfl
    (runs_beginUpdateMaintenance
      (hwrote.fenced.busy hbusy.active hbusy.safe.modifyLease.modifyLease) rfl rfl
      fun hbegun => ?_))))
  refine runs_bind (runs_failingWith (runs_bind
    (runs_createValidatedPreUpdatePoint hbegun fun hpointed => ?_)))
  refine runs_transition hpointed fun validated htransition => ?_
  -- the second journal, with the point that was validated
  have hpoints := hpointed.follows rfl
  have hrewrote := hpoints.wrote
    ((transition_correlationId htransition).trans (hpoints.correlation prepared rfl))
    fun reference hreference => by
      rw [(transitionUpdateJournal_ok htransition).2] at hreference
      cases hreference
      exact List.mem_cons_self
  refine runs_bind (runs_failingWith (runs_writeOwnedJournal hpointed rfl ?_))
  have hready := hrewrote.busy hpointed.active hpointed.safe.modifyLease
  refine runs_bind (runs_failingWith (runs_callFor hready ?_))
  refine runs_bind (runs_modifyOwner rfl (runs_pure ?_))
  exact ⟨hpointed.active, hpointed.safe.modifyLease, _, rfl, hrewrote.operation, hrewrote.certain,
    hrewrote.correlation, hrewrote.point, hrewrote.stop, hrewrote.fence, hrewrote.launched,
    fun _ => rfl⟩

/-! ## Handoff -/

theorem Follows.stopping (h : Follows owner log) (hphase : owner.phase = .handoff) :
    Follows { owner with stopStarted := true } log := by
  refine ⟨h.operation, h.certain, h.correlation, h.point, fun _ => rfl, h.fence, fun _ => rfl, ?_⟩
  intro hready
  cases hphase.symm.trans hready

theorem runs_shutdownRuntime (hbusy : Busy coordinator log)
    (howner : coordinator.owner = some owner) (hstop : owner.stopStarted = true)
    (h : Busy coordinator (log.modifyLease fun lease =>
        { lease with shutdownCalled := true, shutdownResolved := true }) →
      R () coordinator (log.modifyLease fun lease =>
        { lease with shutdownCalled := true, shutdownResolved := true })) :
    Runs shutdownRuntime coordinator log R := by
  have hfollows := hbusy.follows howner
  have hcalled : Busy coordinator (log.modifyLease fun lease =>
      { lease with shutdownCalled := true }) :=
    ⟨hbusy.active, hbusy.safe.modifyLease, owner, howner, hfollows.operation, hfollows.certain,
      hfollows.correlation, hfollows.point, fun _ => hstop, hfollows.fence, hfollows.launched,
      hfollows.ready⟩
  have hresolved : Busy coordinator (log.modifyLease fun lease =>
      { lease with shutdownCalled := true, shutdownResolved := true }) :=
    ⟨hbusy.active, hbusy.safe.modifyLease, owner, howner, hfollows.operation, hfollows.certain,
      hfollows.correlation, hfollows.point, fun _ => hstop, hfollows.fence, hfollows.launched,
      hfollows.ready⟩
  rw [shutdownRuntime]
  exact runs_callLogged (fun _ => ⟨rfl, rfl⟩) (fun _ => ⟨rfl, rfl⟩) hcalled hresolved (h hresolved)

/-- The launch: the one there is, of a journal that is as it has to be. -/
theorem runs_launchInstaller (hbusy : Busy coordinator log)
    (howner : coordinator.owner = some owner) (hcertain : owner.journalUncertain = false)
    (hjournal : owner.journal = some journal) (hstop : owner.stopStarted = true)
    (hlaunches : log.launches = []) (hstate : journal.state = .awaitingFirstStart)
    (hcount : journal.handoffAttemptCount = 1)
    (hchain : ∃ chain, log.lease.handoffChain = some chain ∧
      journal.preUpdateMigrationChainIdentity = some chain)
    (hresolved : log.lease.shutdownResolved = true) :
    Runs launchInstaller coordinator log fun _ c l => Busy c l := by
  have hfollows := hbusy.follows howner
  obtain ⟨hwritten, hpending⟩ := hfollows.certain hcertain
  rw [hjournal] at hwritten
  have hpoint : journal.recoveryPointReference.isSome :=
    journal.fitsState.2.1 (by rw [hstate]; decide)
  obtain ⟨reference, hreference⟩ := Option.isSome_iff_exists.mp hpoint
  rw [launchInstaller]
  refine runs_call ?_
  rintro fate world hfresh rfl rfl
  have hsafe : world.snapshot.LaunchSafe :=
    ⟨journal, hwritten, hpending, hstate, hcount,
      (hfollows.correlation journal hjournal).trans hfollows.operation.symm,
      ⟨reference, hfollows.point journal reference hjournal hreference, hreference⟩, hchain,
      hresolved, fun hchanged => hfresh hchanged hpending journal hwritten⟩
  have hlaunched : HandoffLog.Safe { world.log with
      launches := world.snapshot :: world.log.launches } := by
    refine ⟨fun launch hlaunch => ?_, ?_, hbusy.safe.releases⟩
    · rcases List.mem_cons.mp hlaunch with rfl | hlaunch
      · exact hsafe
      · exact hbusy.safe.launches launch hlaunch
    · rw [hlaunches]
      exact Nat.le_refl 1
  have hkept : Follows owner { world.log with
      launches := world.snapshot :: world.log.launches } :=
    ⟨hfollows.operation, hfollows.certain, hfollows.correlation, hfollows.point, hfollows.stop,
      hfollows.fence, fun _ => hstop, hfollows.ready⟩
  have hafter : Busy world.coordinator { world.log with
      launches := world.snapshot :: world.log.launches } :=
    ⟨hbusy.active, hlaunched, owner, howner, hkept⟩
  exact ⟨hfresh, hafter, fun _ => hafter⟩

theorem runs_requirePreparedJournal {Q : UpdateJournal → Coordinator → HandoffLog → Prop}
    (hbusy : Busy coordinator log) (howner : coordinator.owner = some owner)
    (h : ∀ journal, owner.journal = some journal → Q journal coordinator log) :
    Runs requirePreparedJournal coordinator log Q := by
  refine runs_bind (runs_requireOwner howner ?_)
  cases hjournal : owner.journal with
  | none => exact runs_throw hbusy
  | some journal => exact runs_check hbusy fun _ => runs_pure (h journal hjournal)

/-- A transition without a new recovery point is one that the owner can write. -/
theorem Follows.wrote_transition {next : UpdateJournal} {input : JournalTransition}
    (h : Follows owner log) (hjournal : owner.journal = some journal)
    (htransition : transitionUpdateJournal journal input = .ok next)
    (hinput : input.recoveryPointReference = none) :
    Follows { owner with journal := some next, journalUncertain := false }
      (log.modifyLease (.wrote next)) := by
  refine h.wrote ((transition_correlationId htransition).trans (h.correlation journal hjournal)) ?_
  intro reference hreference
  rw [(transitionUpdateJournal_ok htransition).2] at hreference
  change (input.recoveryPointReference <|> journal.recoveryPointReference) = _ at hreference
  rw [hinput] at hreference
  exact h.point journal reference hjournal hreference

/-- A handoff stays within its lease. -/
theorem runs_handoffOwned (hbusy : Busy coordinator log) (howner : coordinator.owner = some owner)
    (hphase : owner.phase = .handoff) (hstop : owner.stopStarted = false) :
    Runs (handoffOwned environment) coordinator log fun _ c l => Busy c l := by
  have hlaunches : log.launches = [] := by
    by_contra hlaunched
    have hstopped := (hbusy.follows howner).launched hlaunched
    rw [hstop] at hstopped
    cases hstopped
  refine runs_bind (runs_assertOwnedJournal hbusy howner fun _ => ?_)
  have hread := hbusy.modifyLease fun _ _ h => h.read
  refine runs_bind (runs_requirePreparedJournal hread howner fun journal hjournal => ?_)
  refine runs_bind (runs_callFor hread (runs_bind (runs_callFor hread (runs_bind
    (runs_callFor hread ?_)))))
  refine runs_bind (runs_validateOwnedProfile hread howner ?_)
  have hvalidated : Busy { coordinator with owner := some { owner with validationUncertain := false } }
      ((log.modifyLease .read).modifyLease
        (.validated .handoff (environment.migrationChainIdentity .handoff))) :=
    ((hread.follows howner).validating.validated).busy hbusy.active
      hbusy.safe.modifyLease.modifyLease
  refine runs_bind (runs_callFor hvalidated (runs_check hvalidated fun hchain => ?_))
  rw [not_ne_iff] at hchain
  -- the runtime is stopped under a journal that says so
  refine runs_bind (runs_transition hvalidated fun stopping hstopping => ?_)
  refine runs_bind (runs_writeOwnedJournal hvalidated rfl ?_)
  have hwrote := ((hvalidated.follows rfl).wrote_transition hjournal hstopping rfl)
  have hstoppingBusy := hwrote.busy hbusy.active hvalidated.safe.modifyLease
  refine runs_bind (runs_callFor hstoppingBusy (runs_bind (runs_modifyOwner rfl ?_)))
  refine runs_bind (runs_shutdownRuntime
    ((hwrote.stopping hphase).busy hbusy.active hvalidated.safe.modifyLease) rfl rfl fun hstopped => ?_)
  -- the installer is launched on a journal that waits for its first start
  refine runs_bind (runs_transition hstopped fun awaiting hawaiting => ?_)
  refine runs_bind (runs_writeOwnedJournal hstopped rfl ?_)
  have hrewrote := (hstopped.follows rfl).wrote_transition rfl hawaiting rfl
  refine runs_launchInstaller (hrewrote.busy hbusy.active hstopped.safe.modifyLease) rfl rfl rfl rfl
    hlaunches (transition_state hawaiting) ?_ ⟨_, rfl, ?_⟩ rfl
  · rw [(transitionUpdateJournal_ok hawaiting).2]
    rfl
  · rw [(transitionUpdateJournal_ok hawaiting).2]
    show stopping.preUpdateMigrationChainIdentity = _
    rw [(transitionUpdateJournal_ok hstopping).2]
    exact hchain.symm

end LocalUpdateHandoffCoordinator
