import Eky.UpdateJournal

/-! # The journal of a profile's restoration

    `profileRestoreActivationJournal.ts`: what one record of the journal says, and which
    record may follow which. -/

/-- The phases of an activation, in their order, and the ways in which it ends. -/
inductive ProfileRestoreActivationPhase
  | prepared
  | movingCurrentDatabase
  | currentDatabaseMoved
  | movingCurrentDocuments
  | currentDocumentsMoved
  | activatingStagedDatabase
  | stagedDatabaseActivated
  | activatingStagedDocuments
  | stagedDocumentsActivated
  | validationStarting
  | accepted
  | rollbackStarting
  | rolledBack
  | failedSafe
  deriving DecidableEq

namespace ProfileRestoreActivationPhase

/-- `profileRestoreForwardActivationPhases` -/
def forwardActivationPhases : List ProfileRestoreActivationPhase :=
  [.prepared, .movingCurrentDatabase, .currentDatabaseMoved, .movingCurrentDocuments,
    .currentDocumentsMoved, .activatingStagedDatabase, .stagedDatabaseActivated,
    .activatingStagedDocuments, .stagedDocumentsActivated, .validationStarting]

/-- `indexOf` in the forward phases; the other phases have no index. -/
def forwardIndex (phase : ProfileRestoreActivationPhase) : Option Nat :=
  forwardActivationPhases.idxOf? phase

/-- The forward phase that comes next, if there is one. -/
def nextForward (phase : ProfileRestoreActivationPhase) : Option ProfileRestoreActivationPhase :=
  phase.forwardIndex.bind fun index => forwardActivationPhases[index + 1]?

/-- What may follow a phase. -/
def follows (previous next : ProfileRestoreActivationPhase) : Bool :=
  (previous.forwardIndex.isSome &&
    (previous.nextForward = some next || next = .rollbackStarting ||
      (previous = .validationStarting && next = .accepted))) ||
  (previous = .rollbackStarting && (next = .rolledBack || next = .failedSafe))

end ProfileRestoreActivationPhase

/-- A UUID of version 1 to 5. -/
def isOperationId : String → Bool := JavaScript.isUuid ['1', '2', '3', '4', '5']

/-- A journal that `parseProfileRestoreActivationJournal` has let through. -/
structure ProfileRestoreActivationJournal where
  hadActiveDatabase : Bool
  hadActiveDocuments : Bool
  operationId : String
  phase : ProfileRestoreActivationPhase
  revision : Nat
  operationIdValid : isOperationId operationId = true
  revisionSafe : revision ≤ maximumSafeInteger
  deriving DecidableEq

namespace ProfileRestoreActivationJournal

/-- Everything is the same besides the phase and the revision. -/
def sameOperation (previous next : ProfileRestoreActivationJournal) : Bool :=
  previous.operationId = next.operationId &&
    previous.hadActiveDatabase = next.hadActiveDatabase &&
    previous.hadActiveDocuments = next.hadActiveDocuments

/-- `assertProfileRestoreActivationJournalStep` does not throw. -/
def journalStep (previous next : ProfileRestoreActivationJournal) : Bool :=
  if next.revision = previous.revision then previous = next
  else next.revision = previous.revision + 1 && previous.phase.follows next.phase &&
    previous.sameOperation next

theorem revision_of_journalStep {previous next : ProfileRestoreActivationJournal}
    (h : journalStep previous next = true) : previous.revision ≤ next.revision := by
  rw [journalStep] at h
  split at h
  · rename_i hsame
    exact Nat.le_of_eq hsame.symm
  · simp only [Bool.and_eq_true, decide_eq_true_eq] at h
    rw [h.1.1]
    exact Nat.le_succ _

end ProfileRestoreActivationJournal
