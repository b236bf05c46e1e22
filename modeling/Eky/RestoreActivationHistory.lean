import Eky.RestoreActivationRollback
import Eky.TransitionSystem

/-! # The activation of a restored profile — whole histories

    Preparations, activations, acceptances and rollbacks in any order, each of them cut
    off anywhere and run again. -/

namespace ProfileRestoreActivation

open Program RestoreProfile TransitionSystem

variable {Content : Type} {start s t : RestoreProfile Content}
  {journal : ProfileRestoreActivationJournal}

/-- A run of an operation, cut off somewhere or not at all. -/
def CutOff {α : Type} (m : ActivationProgram Content α) (s after : RestoreProfile Content) :
    Prop :=
  ∃ fates : List Fate, (∀ fate ∈ fates, fate.ending ≠ .fails) ∧ (m s fates).2.1 = after

/-- What a process that starts again may call. -/
inductive RestoreStep (s t : RestoreProfile Content) : Prop
  | prepare (operationId : String) (h : CutOff (prepare operationId) s t)
  | advanceToValidation (expected : Option ProfileRestoreActivationJournal)
      (h : CutOff (advanceToValidation expected) s t)
  | commitAcceptance (expected : Option ProfileRestoreActivationJournal)
      (h : CutOff (commitAcceptance expected) s t)
  | rollback (expected : Option ProfileRestoreActivationJournal)
      (h : CutOff (rollback expected) s t)

/-- Histories that begin without a journal, whatever else is on the disk. -/
def activationRuns (start : RestoreProfile Content) : TransitionSystem (RestoreProfile Content)
    where
  initial s := s = start ∧ s.journal = none
  step := RestoreStep

theorem KeepsActivation.cutOff {α : Type} {m : ActivationProgram Content α}
    (h : KeepsActivation start m s) (hrun : CutOff m s t) : Activation start t := by
  obtain ⟨fates, hfates, rfl⟩ := hrun
  rcases ended_steady h hfates with ⟨_, ht⟩ | ⟨_, ht⟩ | ht
  · exact ht
  · exact ht
  · exact ht

theorem activation_of_reachable (h : Reachable (activationRuns start) s) : Activation start s := by
  refine h.invariant (fun s hinitial => ?_) fun s t _ hs hstep => ?_
  · obtain ⟨rfl, hjournal⟩ := hinitial
    exact .unprepared hjournal rfl fun _ _ => rfl
  · cases hstep with
    | prepare operationId hrun => exact (keeps_prepare hs).cutOff hrun
    | advanceToValidation expected hrun => exact (keeps_advanceToValidation hs).cutOff hrun
    | commitAcceptance expected hrun => exact (keeps_commitAcceptance hs).cutOff hrun
    | rollback expected hrun => exact (keeps_rollback hs).cutOff hrun

/-- The original of a slot, if there was one, and the staged one are in one place each,
    and nothing else is in any of the places. -/
def InOnePlace (start s : RestoreProfile Content) (operationId : String) (slot : ProfileSlot) :
    Prop :=
  ∃ originalAt ∈ [SlotPath.active, .rollback],
    ∃ stagedAt ∈ [SlotPath.staged, .active, .failedActive, .failedStaged],
      originalAt ≠ stagedAt ∧ (start.contents operationId .staged slot).isSome ∧
      ∀ path, s.contents operationId path slot =
        if path = stagedAt then start.contents operationId .staged slot
        else if path = originalAt then start.active slot
        else none

theorem Consistent.inOnePlace {phase : ProfileRestoreActivationPhase}
    (h : Consistent start s journal phase) (slot : ProfileSlot) :
    InOnePlace start s journal.operationId slot := by
  obtain ⟨w, _, hw⟩ := h.located slot
  refine ⟨w.original, ?_, w.staged, ?_, ?_, h.staged slot, hw⟩
  · cases w <;> decide
  · cases w <;> decide
  · cases w <;> decide

/-- Left to itself, an operation returns a journal, and leaves what it is for. -/
def Completes (m : ActivationProgram Content ProfileRestoreActivationJournal)
    (P : ProfileRestoreActivationJournal → RestoreProfile Content → Prop)
    (s : RestoreProfile Content) : Prop :=
  ∃ next, (m s []).1 = .returned next ∧ P next (m s []).2.1

/-- The staged profile is active. -/
def Activated (start : RestoreProfile Content) (operationId : String)
    (journal : ProfileRestoreActivationJournal) (s : RestoreProfile Content) : Prop :=
  s.journal = some journal ∧ journal.phase = .validationStarting ∧
    journal.operationId = operationId ∧
    ∀ slot, (s.active slot).isSome ∧ s.active slot = start.contents operationId .staged slot

/-- The profile is the one that it was, and there is no copy of it. -/
def RolledBack (start : RestoreProfile Content) (operationId : String)
    (journal : ProfileRestoreActivationJournal) (s : RestoreProfile Content) : Prop :=
  s.journal = some journal ∧ journal.phase = .rolledBack ∧ journal.operationId = operationId ∧
    ∀ slot, s.active slot = start.active slot ∧ s.contents operationId .rollback slot = none

theorem Arrived.activated {operationId : String}
    (h : Arrived start operationId .validationStarting journal s) :
    Activated start operationId journal s := by
  obtain ⟨hphase, rfl, h⟩ := h
  refine ⟨h.selected, hphase, rfl, fun slot => ?_⟩
  obtain ⟨w, hw, hlocated⟩ := h.located slot
  rw [hphase] at hw
  have hactivated : w = .activated := by
    revert hw
    cases s.parentPresent journal.operationId .failedStaged <;> cases slot <;> cases w <;> decide
  have hactive : s.active slot = start.contents journal.operationId .staged slot := by
    rw [hactivated] at hlocated
    exact hlocated .active
  exact ⟨by rw [hactive]; exact h.staged slot, hactive⟩

theorem Arrived.rolledBack {operationId : String}
    (h : Arrived start operationId .rolledBack journal s) :
    RolledBack start operationId journal s := by
  obtain ⟨hphase, rfl, h⟩ := h
  refine ⟨h.selected, hphase, rfl, fun slot => ?_⟩
  obtain ⟨w, hw, hlocated⟩ := h.located slot
  rw [hphase] at hw
  have hback : w = .restored ∨ w = .returned := by
    revert hw
    cases s.parentPresent journal.operationId .failedStaged <;> cases slot <;> cases w <;> decide
  rcases hback with rfl | rfl
  · exact ⟨hlocated .active, hlocated .rollback⟩
  · exact ⟨hlocated .active, hlocated .rollback⟩

theorem completes_of_steady {m : ActivationProgram Content ProfileRestoreActivationJournal}
    {P : ProfileRestoreActivationJournal → RestoreProfile Content → Prop}
    {I : RestoreProfile Content → Prop}
    (h : wp (Fate.Steady False) m ⟨P, fun _ _ => False, Midway False I⟩ s) : Completes m P s := by
  rcases undisturbed_steady h with ⟨next, hreturned, hP⟩ | ⟨_, _, hfalse⟩
  · exact ⟨next, hreturned, hP⟩
  · exact hfalse.elim

theorem Completes.mono {m : ActivationProgram Content ProfileRestoreActivationJournal}
    {P Q : ProfileRestoreActivationJournal → RestoreProfile Content → Prop}
    (h : Completes m P s) (hPQ : ∀ next t, P next t → Q next t) : Completes m Q s := by
  obtain ⟨next, hreturned, hP⟩ := h
  exact ⟨next, hreturned, hPQ _ _ hP⟩

/-- **THE ORIGINAL IS NEVER LOST**, in every history:

    - before there is a journal, the active profile is the original one;
    - with a journal, the original of each slot is in one place, active or set aside, and
      the staged one in another;
    - what the files are read for before they are moved on or back is accepted;
    - an activation that is resumed in a forward phase makes the staged profile active;
    - a rollback that is resumed, or begun in a forward phase, makes the original active. -/
theorem activation_keeps_original (h : Reachable (activationRuns start) s) :
    (s.journal = none → s.active = start.active) ∧
    ∀ journal, s.journal = some journal →
      (∀ slot, InOnePlace start s journal.operationId slot) ∧
      (journal.phase.forwardIndex.isSome →
        (∃ sources, readForwardRecoverySources journal s = .ok sources) ∧
        ∀ expected, Expects expected s → Completes (advanceToValidation expected)
          (Activated start journal.operationId) s) ∧
      (journal.phase = .rollbackStarting ∨ journal.phase = .rolledBack →
        ∃ sources, readRollbackRecoverySources journal s = .ok sources) ∧
      (journal.phase ≠ .accepted → ∀ expected, Expects expected s →
        Completes (rollback expected) (RolledBack start journal.operationId) s) := by
  have hactivation := activation_of_reachable h
  refine ⟨fun hnone => ?_, fun journal hjournal => ?_⟩
  · cases hactivation with
    | unprepared _ hactive _ => exact hactive
    | selected journal h =>
        rw [h.selected] at hnone
        cases hnone
  have hconsistent := hactivation.consistent hjournal
  refine ⟨hconsistent.inOnePlace, fun hforward => ⟨hconsistent.readForwardRecoverySources hforward,
    fun expected hexpected => ?_⟩, hconsistent.readRollbackRecoverySources,
    fun hphase expected hexpected => ?_⟩
  · exact (completes_of_steady (advance_resumed hconsistent hforward hexpected)).mono
      fun _ _ hnext => hnext.activated
  · exact (completes_of_steady (rollback_resumed hconsistent hphase hexpected)).mono
      fun _ _ hnext => hnext.rolledBack

/-! ## A run on fixed inputs -/

namespace SampleRestore

/-- The id of an operation. -/
def operationId : String := "11111111-1111-5111-8111-111111111111"

/-- There is a database, and no documents. -/
def original : RestoreProfile Nat where
  journal := none
  active
    | .database => some 1
    | .documents => none
  operations _ := ⟨some fun
    | .database => some 2
    | .documents => some 3, none, none⟩

/-- A profile whose activation has begun. -/
def prepared : RestoreProfile Nat := (prepare operationId original []).2.1

/-- The activation is cut off after the database was moved, before the journal says so. -/
def moving : RestoreProfile Nat :=
  (advanceToValidation none prepared (List.replicate 3 default ++ [⟨.crashes, none⟩])).2.1

theorem reachable_moving : Reachable (activationRuns original) moving :=
  .step (.step (.initial ⟨rfl, rfl⟩) (.prepare operationId ⟨[], nofun, rfl⟩))
    (.advanceToValidation none ⟨_, by decide, rfl⟩)

/-- The original database is in the directory of the rollback, and a rollback brings it
    back. -/
theorem keeps_original_moving :
    moving.contents operationId .rollback .database = some 1 ∧
      Completes (rollback none) (RolledBack original operationId) moving := by
  refine ⟨by decide +kernel, ?_⟩
  have hjournal : moving.journal = some
      ⟨true, false, operationId, .movingCurrentDatabase, 1, by decide +kernel, by decide⟩ := by
    decide +kernel
  exact ((activation_keeps_original reachable_moving).2 _ hjournal).2.2.2 (by decide)
    none (.inl rfl)

end SampleRestore

end ProfileRestoreActivation
