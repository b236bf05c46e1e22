import Eky.RecordFiles

/-! # The store of the update journal

    `UpdateJournalStore` of `updateJournalStore.ts`.  It reads and clears like the
    other record files.  A write may carry a selection: the journal that its caller
    expects to replace, renewed before every change by the authority of the caller,
    which may be lost at any time. -/

namespace UpdateJournalStore

open RecordFiles

variable {T : Type}

/-- Bytes of a journal. -/
def maximumUpdateJournalBytes : Nat := 32 * 1024

/-- A conflict stays one; all else is unavailable. -/
def conflictOr (error : RecordError) : RecordError :=
  if error = .conflict then .conflict else .unavailable false

/-- `assertUpdateJournalAuthority`; without a selection there is no authority to lose. -/
def assertAuthority (selected : Bool) : RecordProgram Unit :=
  if selected then attemptNothing .conflict else pure ()

/-- `assertSlotsAbsent`, for one slot. -/
def assertSlotAbsent (slot : Slot) : RecordProgram Unit :=
  attempt (.unavailable false) fun s =>
    if (s.get slot).isSome then .error .conflict else .ok ((), s)

section Write

variable (codec : RecordCodec T) (correlationId : T → String) (revision : T → Nat)

/-- The current slot holds the expected journal and, except for the next file that
    this write has created, there is no other. -/
def assertSelected [DecidableEq T] (expected : T) (ownedNext : Bool) : RecordProgram Unit := do
  assertAuthority true
  assertSlotAbsent .backup
  if ownedNext then pure () else assertSlotAbsent .next
  let selected ← readRecord codec maximumUpdateJournalBytes .current
  if selected ≠ some expected then throw .conflict
  assertAuthority true

/-- Whether there was a current file to set aside; a selection requires one. -/
def setAside (selected : Bool) : RecordProgram Bool :=
  tryCatch
    (do
      assertAuthority selected
      rename .current .backup
      pure true)
    fun error =>
      if error ≠ .io .noEntry then throw error
      else if selected then throw .conflict
      else pure false

/-- A restoration that fails as well makes one error of the two. -/
def restorePrevious (previousMoved : Bool) : RecordProgram Unit :=
  if previousMoved then
    Program.mapError (fun _ => .unavailable false) (rename .backup .current)
  else pure ()

/-- Renames the next file to the current one. -/
def publish (selected : Bool) : RecordProgram Unit := do
  let previousMoved ← setAside selected
  Program.onError
    (do
      assertAuthority selected
      rename .next .current
      housekeeping)
    (restorePrevious previousMoved)
  if previousMoved then do
    assertAuthority selected
    rm .backup
    housekeeping

/-- `writeCrashSafe` without a selection: the leftovers are removed first. -/
def writeUnselected (content : Bytes) : RecordProgram Unit :=
  Program.andFinally
    (Program.mapError conflictOr do
      housekeeping
      rm .next
      rm .backup
      createNext content
      housekeeping
      publish false)
    (Program.ignoreError (rm .next))

/-- `writeCrashSafe` with a selection: only a next file that it has created itself is
    removed in the end. -/
def writeSelected [DecidableEq T] (expected : T) (content : Bytes) : RecordProgram Unit := do
  Program.mapError conflictOr do
    assertSelected codec expected false
    housekeeping
    openNext
  Program.andFinally
    (Program.mapError conflictOr do
      fillNext content
      housekeeping
      assertSelected codec expected true
      publish true)
    (Program.ignoreError (rm .next))

/-- Writes a journal over the selected one. -/
def write [DecidableEq T] (journal : T) (selection : Option T) : RecordProgram Unit := do
  let current ← readRecord codec maximumUpdateJournalBytes .current
  refuseConflict correlationId revision current journal
  match selection with
  | none => writeUnselected (codec.serialize journal)
  | some expected => writeSelected codec expected (codec.serialize journal)

/-- Reads the journal. -/
def read : RecordProgram (Option T) := readStored codec maximumUpdateJournalBytes

/-- Removes the journal. -/
def clear : RecordProgram Unit := clearStored

end Write

end UpdateJournalStore
