import Eky.RestoreActivationForward

/-! # The activation of a restored profile — back

    `rollback`, cut off anywhere.  The documents and the database get back to where they
    were, one after the other, and what was staged ends up with what has failed. -/

namespace ProfileRestoreActivation

open Fallible Program RestoreProfile

variable {Content : Type} {start s t : RestoreProfile Content} {crashes : Prop}
  {journal : ProfileRestoreActivationJournal} {slot : ProfileSlot} {operationId : String}
  {expected : Option ProfileRestoreActivationJournal} {w : Whereabouts}

/-- The original of a slot is where it was. -/
def Back (start s : RestoreProfile Content) (operationId : String) (slot : ProfileSlot) : Prop :=
  ∃ w : Whereabouts, w.original = .active ∧
    Located s operationId slot (start.active slot) (start.contents operationId .staged slot) w

theorem Back.unmoved (h : Back start s operationId slot) (hsame : Unmoved s t operationId slot) :
    Back start t operationId slot := by
  obtain ⟨w, hw, hlocated⟩ := h
  exact ⟨w, hw, fun path => (hsame path).trans (hlocated path)⟩

/-- What a rollback leaves when it is cut off. -/
abbrev RollingBack (start : RestoreProfile Content) (journal : ProfileRestoreActivationJournal)
    (s : RestoreProfile Content) : Prop :=
  Consistent start s journal .rollbackStarting

/-- A slot has been restored, and the other one was left alone. -/
def Restored (start s : RestoreProfile Content) (journal : ProfileRestoreActivationJournal)
    (slot : ProfileSlot) (t : RestoreProfile Content) : Prop :=
  RollingBack start journal t ∧ Back start t journal.operationId slot ∧
    ∀ other, other ≠ slot → Unmoved s t journal.operationId other

theorem Consistent.assertRollbackMutation (h : Consistent start s journal journal.phase)
    (hphase : journal.phase = .rollbackStarting ∨ journal.phase = .rolledBack) :
    ProfileRestoreActivation.assertRollbackMutation journal s = .ok () := by
  obtain ⟨sources, hsources⟩ := h.readRollbackRecoverySources hphase
  simp only [ProfileRestoreActivation.assertRollbackMutation, h.assertJournalMutation, hsources,
    ok_bind]

variable {R : ActivationError → RestoreProfile Content → Prop}

section Starting

variable (hphase : journal.phase = .rollbackStarting)

include hphase

section

variable (h : RollingBack start journal s)
include h

theorem rollingBack_authority : assertRollbackMutation journal s = .ok () := by
  have hconsistent : Consistent start s journal journal.phase := by
    rw [hphase]
    exact h
  exact hconsistent.assertRollbackMutation (.inl hphase)

theorem rollingBack_activation : Activation start s := by
  refine .selected journal ?_
  rw [hphase]
  exact h

/-! ## One slot -/

theorem steady_restoreSlot {w' : Whereabouts}
    (hw : Located s journal.operationId slot (start.active slot)
      (start.contents journal.operationId .staged slot) w)
    (hmoves : @Whereabouts.Moves Content w .rollback .active w')
    (hsource : w.present (journal.hadActive slot) .rollback = true)
    (hallowed : w'.allowed (s.parentPresent journal.operationId .failedStaged)
      .rollbackStarting slot = true) (hback : w'.original = .active) : wp (Fate.Steady crashes)
      (restoreSlot (assertRollbackMutation journal) journal.operationId slot)
      ⟨fun _ => Restored start s journal slot, R, Midway crashes (RollingBack start journal)⟩ s := by
  have hauthority := rollingBack_authority hphase h
  obtain ⟨t, hrename, ht, htlocated, hothers⟩ := h.rename hw hmoves
    ((h.present hw).trans hsource) rfl (by decide) hallowed
  refine wp_bind (steady_createPrivateDirectory h hauthority h hauthority ?_)
  exact steady_renamePath h hauthority hrename ht ⟨ht, ⟨w', hback, htlocated⟩, hothers⟩

/-- What is active and new gets out of the way, if it is there. -/
theorem steady_setNewAside (hw : Located s journal.operationId slot (start.active slot)
      (start.contents journal.operationId .staged slot) .activated)
    (hallowed : Whereabouts.activated.allowed
      (s.parentPresent journal.operationId .failedStaged) .rollbackStarting slot = true)
    {Q : Unit → RestoreProfile Content → Prop} (hQ : ∀ t, RollingBack start journal t →
      Located t journal.operationId slot (start.active slot)
        (start.contents journal.operationId .staged slot) .setAside →
      (∀ other, other ≠ slot → Unmoved s t journal.operationId other) → Q () t) :
    wp (Fate.Steady crashes)
      (moveRequiredSlot (assertRollbackMutation journal)
        (slotMove journal.operationId slot .active .failedActive))
      ⟨Q, R, Midway crashes (RollingBack start journal)⟩ s := by
  refine h.steady_move hw moves_out ?_ ?_ (.inr (.inr ⟨rfl, ?_⟩))
    (fun failed => by cases failed <;> cases slot <;> decide) hallowed
    (fun t ht => rollingBack_authority hphase ht) hQ
  · cases journal.hadActive slot <;> rfl
  · cases journal.hadActive slot <;> rfl
  · rintro (hahead | hahead) <;> cases hahead

/-- Where there was no original, only what is new has to go. -/
theorem steady_rollbackSlot_absent (hhad : journal.hadActive slot = false) :
    wp (Fate.Steady crashes) (rollbackSlot (assertRollbackMutation journal) journal.operationId
        false slot)
      ⟨fun _ => Restored start s journal slot, fun _ _ => False,
        Midway crashes (RollingBack start journal)⟩ s := by
  obtain ⟨w, hallowed, hw⟩ := h.located slot
  have hpresent : ∀ path, s.present journal.operationId path slot = w.present false path := by
    intro path
    rw [h.present hw, hhad]
  have hnone : start.active slot = none := by
    have hactive := h.hadActive slot
    rw [hhad] at hactive
    exact Option.not_isSome_iff_eq_none.mp (by rw [← hactive]; nofun)
  have hback : ∀ (t : RestoreProfile Content) (u v : Whereabouts), v.original = .active →
      v.staged = u.staged → Located t journal.operationId slot (start.active slot)
        (start.contents journal.operationId .staged slot) u →
      Back start t journal.operationId slot := by
    intro t u v hv hstaged ht
    refine ⟨v, hv, ?_⟩
    rw [hnone] at ht ⊢
    exact ht.of_none hstaged
  have hrollback : s.present journal.operationId .rollback slot = false := by
    rw [hpresent]
    cases w <;> rfl
  refine wp_bind (wp_get ?_)
  dsimp only
  rw [hrollback]
  by_cases hactivated : w = .activated
  · subst hactivated
    rw [hpresent .active]
    refine steady_setNewAside hphase h hw hallowed fun t ht htlocated hothers => ?_
    exact ⟨ht, hback t .setAside .restored rfl rfl htlocated, hothers⟩
  · have hactive : s.present journal.operationId .active slot = false := by
      rw [hpresent]
      cases w <;> first | rfl | (exact absurd rfl hactivated)
    rw [hactive]
    refine wp_pure ⟨h, ?_, fun _ _ _ => rfl⟩
    cases w with
    | untouched => exact hback s .untouched .untouched rfl rfl hw
    | moved => exact hback s .moved .untouched rfl rfl hw
    | activated => exact absurd rfl hactivated
    | setAside => exact hback s .setAside .restored rfl rfl hw
    | restored => exact hback s .restored .restored rfl rfl hw
    | returned => exact hback s .returned .returned rfl rfl hw

/-- Set aside, the original is moved back. -/
theorem steady_restore_setAside (hhad : journal.hadActive slot = true)
    (hw : Located s journal.operationId slot (start.active slot)
      (start.contents journal.operationId .staged slot) .setAside) : wp (Fate.Steady crashes)
      (restoreSlot (assertRollbackMutation journal) journal.operationId slot)
      ⟨fun _ => Restored start s journal slot, R, Midway crashes (RollingBack start journal)⟩ s := by
  refine steady_restoreSlot hphase h hw moves_back_setAside (by rw [hhad]; rfl) ?_ rfl
  cases s.parentPresent journal.operationId .failedStaged <;> cases slot <;> rfl

theorem steady_rollbackSlot_present (hhad : journal.hadActive slot = true) :
    wp (Fate.Steady crashes) (rollbackSlot (assertRollbackMutation journal) journal.operationId
        true slot)
      ⟨fun _ => Restored start s journal slot, fun _ _ => False,
        Midway crashes (RollingBack start journal)⟩ s := by
  obtain ⟨w, hallowed, hw⟩ := h.located slot
  have hpresent : ∀ path, s.present journal.operationId path slot = w.present true path := by
    intro path
    rw [h.present hw, hhad]
  have hkept : w.original = .active → Restored start s journal slot s := fun hback =>
    ⟨h, ⟨w, hback, hw⟩, fun _ _ _ => rfl⟩
  refine wp_bind (wp_get ?_)
  dsimp only
  rw [hpresent .rollback]
  cases w with
  | untouched | restored | returned =>
      rw [hpresent .active]
      exact wp_pure (hkept rfl)
  | moved =>
      refine wp_bind (wp_bind (wp_get ?_))
      dsimp only
      rw [hpresent .active]
      refine wp_pure (steady_restoreSlot hphase h hw moves_back_moved (by rw [hhad]; rfl) ?_ rfl)
      revert hallowed
      cases s.parentPresent journal.operationId .failedStaged <;> cases slot <;> decide
  | activated =>
      refine wp_bind (wp_bind (wp_get ?_))
      dsimp only
      rw [hpresent .active, hpresent .failedActive]
      refine steady_setNewAside hphase h hw hallowed fun t ht htlocated hothers => ?_
      refine (steady_restore_setAside hphase ht hhad htlocated).mono (fun _ u hu => ?_)
        (fun _ _ hfalse => hfalse) fun _ hu => hu
      obtain ⟨hrolling, hback, hothersLater⟩ := hu
      exact ⟨hrolling, hback, fun other hother path =>
        (hothersLater other hother path).trans (hothers other hother path)⟩
  | setAside =>
      refine wp_bind (wp_bind (wp_get ?_))
      dsimp only
      rw [hpresent .active]
      exact wp_pure (steady_restore_setAside hphase h hhad hw)

/-- **SLOT**: wherever the original is, a rollback brings it back. -/
theorem steady_rollbackSlot :
    wp (Fate.Steady crashes) (rollbackSlot (assertRollbackMutation journal) journal.operationId
        (journal.hadActive slot) slot)
      ⟨fun _ => Restored start s journal slot, fun _ _ => False,
        Midway crashes (RollingBack start journal)⟩ s := by
  cases hhad : journal.hadActive slot with
  | false => exact steady_rollbackSlot_absent hphase h hhad
  | true => exact steady_rollbackSlot_present hphase h hhad

end

end Starting

/-! ## The staging directory -/

/-- What is at the paths of a slot after the staging directory has been moved. -/
def stagingMoved (before : SlotPath → Option Content) : SlotPath → Option Content
  | .staged => none
  | .failedStaged => before .staged
  | path => before path

theorem renameStaging_ok (hstaging : s.parentPresent operationId .staged = true)
    (hfailed : (s.operations operationId).failed.isSome) :
    ∃ t, s.renameStaging operationId = .ok t ∧ t.journal = s.journal ∧
      (∀ slot path, t.contents operationId path slot =
        stagingMoved (fun path => s.contents operationId path slot) path) ∧
      t.parentPresent operationId .rollback = s.parentPresent operationId .rollback ∧
      t.parentPresent operationId .staged = false ∧
      t.parentPresent operationId .failedStaged = true := by
  obtain ⟨staging, hstaging⟩ := Option.isSome_iff_exists.mp hstaging
  obtain ⟨failed, hfailed⟩ := Option.isSome_iff_exists.mp hfailed
  have hstaging : (s.operations operationId).staging = some staging := hstaging
  refine ⟨s.mapRoots operationId fun roots =>
      { roots with staging := none, failed := some { failed with staging := some staging } },
    ?_, rfl, fun slot path => ?_, ?_, ?_, ?_⟩
  · rw [renameStaging, hstaging, hfailed]
  · cases path <;> simp [stagingMoved, contents, parent, hstaging, hfailed]
  · simp [parentPresent, parent]
  · simp [parentPresent, parent]
  · simp [parentPresent, parent]

theorem not_ahead_rollbackStarting : ¬ ahead .rollbackStarting := by
  rintro (hahead | hahead) <;> cases hahead

theorem rollingBack_makeFailedRoot (h : RollingBack start journal s) :
    RollingBack start journal (s.makeFailedRoot journal.operationId) := by
  refine h.congr rfl (fun _ _ => contents_makeFailedRoot) (fun path hpath => ?_)
    fun hahead => absurd hahead not_ahead_rollbackStarting
  cases path with
  | failedActive => exact absurd rfl hpath
  | failedStaged =>
      simp only [makeFailedRoot, parentPresent, parent, mapRoots_self]
      cases (s.operations journal.operationId).failed <;> rfl
  | active | rollback | staged => simp [makeFailedRoot, parentPresent, parent]

/-- The staging directory has been moved, and both slots are back. -/
theorem rolledBack_of_failedStaged (h : RollingBack start journal s)
    (hstaging : s.parentPresent journal.operationId .failedStaged = true) :
    Consistent start s journal .rolledBack := by
  refine h.weaken (fun hroots => ⟨hroots.1, hroots.2.1, ?_, fun _ => hstaging⟩) fun slot w hw => ?_
  · rintro (hahead | hahead) <;> cases hahead
  · rw [hstaging] at hw ⊢
    revert hw
    cases slot <;> cases w <;> decide

/-- What was staged and not activated, is in the directory for what has failed. -/
theorem rollingBack_returned (h : RollingBack start journal s)
    (hback : ∀ slot, Back start s journal.operationId slot)
    (hjournal : t.journal = s.journal)
    (hcontents : ∀ slot path, t.contents journal.operationId path slot =
      stagingMoved (fun path => s.contents journal.operationId path slot) path)
    (hrollback : t.parentPresent journal.operationId .rollback =
      s.parentPresent journal.operationId .rollback)
    (hstaged : t.parentPresent journal.operationId .staged = false)
    (hfailed : t.parentPresent journal.operationId .failedStaged = true)
    (hbefore : s.parentPresent journal.operationId .failedStaged = false) :
    RollingBack start journal t where
  selected := hjournal.trans h.selected
  revision := h.revision
  hadActive := h.hadActive
  staged := h.staged
  roots := ⟨hrollback.trans h.roots.1, by rw [hstaged, hfailed]; rfl,
    fun hahead => absurd hahead not_ahead_rollbackStarting, (fun h => by cases h)⟩
  located slot := by
    rw [hfailed]
    obtain ⟨w, hw, hlocated⟩ := hback slot
    have hplace : ∀ w' : Whereabouts, (∀ (original staged : Option Content) (path : SlotPath),
        w'.contents original staged path = stagingMoved (w.contents original staged) path) →
        Located t journal.operationId slot (start.active slot)
          (start.contents journal.operationId .staged slot) w' := by
      intro w' hw' path
      rw [hcontents, hw', show (fun path => s.contents journal.operationId path slot) = _ from
        funext hlocated]
    cases w with
    | untouched => exact ⟨.returned, by cases slot <;> rfl, hplace .returned fun _ _ path => by
        cases path <;> rfl⟩
    | restored => exact ⟨.restored, by cases slot <;> rfl, hplace .restored fun _ _ path => by
        cases path <;> rfl⟩
    | returned =>
        -- There was no such directory before.
        have hsome : (s.contents journal.operationId .failedStaged slot).isSome := by
          rw [hlocated .failedStaged]
          exact h.staged slot
        have hnone : s.parent journal.operationId .failedStaged = none :=
          Option.not_isSome_iff_eq_none.mp (by rw [← parentPresent, hbefore]; exact Bool.false_ne_true)
        rw [contents, hnone] at hsome
        cases hsome
    | moved => cases hw
    | activated => cases hw
    | setAside => cases hw

theorem steady_moveStaging (hphase : journal.phase = .rollbackStarting)
    (h : RollingBack start journal s) (hback : ∀ slot, Back start s journal.operationId slot) :
    wp (Fate.Steady crashes) (moveStaging (assertRollbackMutation journal) journal.operationId)
      ⟨fun _ t => RollingBack start journal t ∧
          t.parentPresent journal.operationId .failedStaged = true,
        fun _ _ => False, Midway crashes (RollingBack start journal)⟩ s := by
  refine wp_bind (wp_get ?_)
  dsimp only
  have hroots := h.roots.2.1
  cases hfailed : s.parentPresent journal.operationId .failedStaged with
  | true =>
      -- It was moved before.
      rw [hroots, hfailed]
      exact wp_pure ⟨h, hfailed⟩
  | false =>
      rw [hfailed] at hroots
      rw [hroots]
      have hmade := rollingBack_makeFailedRoot h
      have hmadeBack : ∀ slot,
          Back start (s.makeFailedRoot journal.operationId) journal.operationId slot :=
        fun slot => (hback slot).unmoved fun _ => contents_makeFailedRoot
      have hmadeFailed : (s.makeFailedRoot journal.operationId).parentPresent
          journal.operationId .failedStaged = false := by
        rw [← hfailed]
        simp only [makeFailedRoot, parentPresent, parent, mapRoots_self]
        cases (s.operations journal.operationId).failed <;> rfl
      have hmadeStaged : (s.makeFailedRoot journal.operationId).parentPresent
          journal.operationId .staged = true := by
        rw [hmade.roots.2.1, hmadeFailed]
        rfl
      obtain ⟨t, hrename, hjournal, hcontents, hrollback, hstaged, hfailedStaged⟩ :=
        renameStaging_ok hmadeStaged (by simp [makeFailedRoot])
      have ht := rollingBack_returned hmade hmadeBack hjournal hcontents hrollback hstaged
        hfailedStaged hmadeFailed
      refine wp_bind (steady_moveRequiredSlot hroots hfailed h (rollingBack_authority hphase h)
        hmade (rollingBack_authority hphase hmade) hrename ht ?_)
      exact steady_inspect (rollingBack_authority hphase ht) ⟨ht, hfailedStaged⟩

/-- **RESTORATION**: both slots are back, and the staging directory is with what has
    failed. -/
theorem steady_restorePreviousProfile (hphase : journal.phase = .rollbackStarting)
    (h : RollingBack start journal s) :
    wp (Fate.Steady crashes) (restorePreviousProfile journal)
      ⟨fun _ t => RollingBack start journal t ∧
          t.parentPresent journal.operationId .failedStaged = true,
        fun _ _ => False, Midway crashes (RollingBack start journal)⟩ s := by
  have hmade := rollingBack_makeFailedRoot h
  refine wp_bind (steady_createPrivateDirectory h (rollingBack_authority hphase h) hmade
    (rollingBack_authority hphase hmade) ?_)
  refine wp_bind ((steady_rollbackSlot hphase hmade).mono (fun _ t ht => ?_)
    (fun _ _ hfalse => hfalse) fun _ ht => ht)
  obtain ⟨ht, hdocuments, _⟩ := ht
  refine wp_bind ((steady_rollbackSlot hphase ht).mono (fun _ u hu => ?_)
    (fun _ _ hfalse => hfalse) fun _ hu => hu)
  obtain ⟨hu, hdatabase, hothers⟩ := hu
  refine steady_moveStaging hphase hu fun slot => ?_
  cases slot with
  | database => exact hdatabase
  | documents => exact hdocuments.unmoved (hothers .documents nofun)

/-! ## The whole rollback -/

theorem steady_finishRollback (hphase : journal.phase = .rollbackStarting)
    (h : RollingBack start journal s) :
    wp (Fate.Steady crashes) (finishRollback journal)
      ⟨Arrived start journal.operationId .rolledBack, fun _ _ => False,
        Midway crashes (Activation start)⟩ s := by
  refine wp_tryCatch (wp_bind ((steady_restorePreviousProfile hphase h).mono (fun _ t ht => ?_)
    (fun _ _ hfalse => hfalse.elim) fun t ht => ⟨ht.1, rollingBack_activation hphase ht.2⟩))
  obtain ⟨ht, hfailed⟩ := ht
  have hready := rolledBack_of_failedStaged ht hfailed
  refine steady_advanceJournal hready (by rw [hphase]; rfl) (rollingBack_activation hphase ht)
    (rollingBack_authority hphase ht) (fun u next hnext hu => ?_) fun u next hnext hsame hu => ?_
  · rw [← hnext] at hu
    exact hu.assertRollbackMutation (.inr hnext)
  · rw [← hnext] at hu
    exact ⟨.selected next hu, hnext, hsame, hu⟩

/-- A rollback can begin in every forward phase. -/
theorem steady_beginRollback (h : Consistent start s journal journal.phase)
    (hphase : journal.phase.forwardIndex.isSome ∨ journal.phase = .rollbackStarting) :
    wp (Fate.Steady crashes) (beginRollback journal)
      ⟨fun next t => next.phase = .rollbackStarting ∧ next.operationId = journal.operationId ∧
          RollingBack start next t,
        fun _ _ => False, Midway crashes (Activation start)⟩ s := by
  rw [beginRollback]
  by_cases hstarting : journal.phase = .rollbackStarting
  · rw [if_neg (not_not_intro hstarting)]
    rw [hstarting] at h
    exact wp_pure ⟨hstarting, rfl, h⟩
  rw [if_pos hstarting]
  have hforward := hphase.resolve_right hstarting
  obtain ⟨sources, hsources⟩ := h.readForwardRecoverySources hforward
  refine wp_bind (steady_inspect h.assertJournalMutation (wp_bind (steady_inspect hsources ?_)))
  have hnone := h.roots.2.2.1 (.inl hforward)
  have hready : RollingBack start journal s := by
    refine h.weaken (fun hroots => ⟨hroots.1, hroots.2.1, fun hahead =>
      absurd hahead not_ahead_rollbackStarting, nofun⟩) fun slot w hw => ?_
    have hfailed : s.parentPresent journal.operationId .failedStaged = false := by
      rw [parentPresent, parent, hnone]
      rfl
    rw [hfailed] at hw ⊢
    revert hw hforward
    cases journal.phase <;> cases slot <;> cases w <;> decide
  refine (steady_advance hready ?_ (.selected journal h) fun _ hactive => hactive).mono
    (fun _ _ ht => ht) (fun _ _ hfalse => hfalse) fun _ ht => ht
  revert hforward
  cases journal.phase <;> decide

/-- **BACK**: a rollback that may be made reaches its end. -/
theorem steady_rollback (h : Consistent start s journal journal.phase)
    (hphase : journal.phase.forwardIndex.isSome ∨ journal.phase = .rollbackStarting) :
    wp (Fate.Steady crashes) (do
        let journal ← beginRollback journal
        inspect (assertRollbackMutation journal)
        finishRollback journal)
      ⟨Arrived start journal.operationId .rolledBack, fun _ _ => False,
        Midway crashes (Activation start)⟩ s := by
  refine wp_bind ((steady_beginRollback h hphase).mono (fun next t ht => ?_)
    (fun _ _ hfalse => hfalse) fun _ ht => ht)
  obtain ⟨hstarting, hsame, ht⟩ := ht
  rw [← hsame]
  exact wp_bind (steady_inspect (rollingBack_authority hstarting ht)
    (steady_finishRollback hstarting ht))

theorem keeps_rollback (h : Activation start s) : KeepsActivation start (rollback expected) s := by
  refine wp_bind (wp_inspect (fun journal hjournal => ?_) fun _ _ => h)
  have hconsistent := h.consistent (requireTerminalJournal_ok hjournal)
  dsimp only
  by_cases hback : journal.phase = .rolledBack
  · rw [if_pos hback]
    exact wp_bind (steady_inspect (hconsistent.assertRollbackMutation (.inr hback)) (wp_pure h))
  rw [if_neg hback]
  by_cases hended : journal.phase = .accepted ∨ journal.phase = .failedSafe
  · rw [if_pos hended]
    exact wp_throw h
  rw [if_neg hended]
  have hphase : journal.phase.forwardIndex.isSome ∨ journal.phase = .rollbackStarting := by
    rcases hconsistent.phase_cases with hphase | hphase | hphase | hphase
    · exact .inl hphase
    · exact absurd (.inl hphase) hended
    · exact .inr hphase
    · exact absurd hphase hback
  exact (steady_rollback hconsistent hphase).mono (fun next t ht => .selected next ht.2.2)
    (fun _ _ hfalse => hfalse.elim) fun _ ht => ht

/-- Resumed, or begun in a forward phase, the rollback reaches its end. -/
theorem rollback_resumed (h : Consistent start s journal journal.phase)
    (hphase : journal.phase ≠ .accepted) (hexpected : Expects expected s) :
    wp (Fate.Steady crashes) (rollback expected)
      ⟨Arrived start journal.operationId .rolledBack, fun _ _ => False,
        Midway crashes (Activation start)⟩ s := by
  refine wp_bind (steady_inspect (requireTerminalJournal_expected h.selected hexpected) ?_)
  dsimp only
  by_cases hback : journal.phase = .rolledBack
  · rw [if_pos hback]
    exact wp_bind (steady_inspect (h.assertRollbackMutation (.inr hback)) (wp_pure ⟨hback, rfl, h⟩))
  rw [if_neg hback]
  rcases h.phase_cases with hforward | haccepted | hstarting | hrolledBack
  · have hended : ¬ (journal.phase = .accepted ∨ journal.phase = .failedSafe) := by
      revert hforward
      cases journal.phase <;> decide
    rw [if_neg hended]
    exact steady_rollback h (.inl hforward)
  · exact absurd haccepted hphase
  · rw [if_neg (by rw [hstarting]; decide)]
    exact steady_rollback h (.inr hstarting)
  · exact absurd hrolledBack hback

end ProfileRestoreActivation
