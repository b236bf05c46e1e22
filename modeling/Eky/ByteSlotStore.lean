import Eky.FileSlots

/-! # The crash-safe byte slot store

    The file operations of `crashSafeFileSlot.ts` and the operations of
    `crashSafeByteSlotStore.ts` that carry no selection: `inspect`,
    `recoverAndRead`, `replace` and `clear`.  A directory or file that is not what
    it should be (a link, a second name, a foreign owner) is one of the ways in
    which an operation fails. -/

namespace CrashSafe

/-- The errors of the slot files. -/
inductive FileSlotFailure
  | invalid
  | unavailable
  deriving DecidableEq

/-- What the store throws; a validator has errors of its own. -/
inductive StoreError (ε : Type)
  | fileSlot (failure : FileSlotFailure)
  | byteSlotUnavailable
  | validation (error : ε)
  deriving DecidableEq

variable {ε T : Type}

/-- A program over the slots. -/
abbrev SlotProgram (ε α : Type) : Type := Program Slots Fate (StoreError ε) α

/-! ## File operations -/

/-- Makes the directory. -/
def prepareDirectory : SlotProgram ε Unit := attemptNothing (.fileSlot .unavailable)

/-- Reads a slot of at most that many bytes. -/
def readSlot (maximumBytes : Nat) (slot : Slot) : SlotProgram ε (Option Bytes) :=
  attempt (.fileSlot .invalid) fun s =>
    match s.get slot with
    | none => .ok (none, s)
    | some bytes =>
      if ReadableSize maximumBytes bytes then .ok (some bytes, s)
      else .error (.fileSlot .invalid)

/-- The next file is created with the flag `wx`: it must not exist. -/
def createNextWriter : SlotProgram ε Unit :=
  attempt (.fileSlot .unavailable) fun s =>
    if s.next.isSome then .error (.fileSlot .unavailable)
    else .ok ((), { s with next := some [] })

/-- The bytes written are a prefix of `bytes`, also when the write completes. -/
def writerWrite (bytes : Bytes) : SlotProgram ε Nat :=
  attemptParts (.fileSlot .unavailable) fun fate s =>
    let written := bytes.take (fate.progress.getD bytes.length)
    (written.length, { s with next := some written })

/-- Flushes the new file. -/
def writerSync : SlotProgram ε Unit := attemptNothing (.fileSlot .unavailable)

/-- Closes the new file. -/
def writerClose : SlotProgram ε Unit := attemptNothing (.fileSlot .unavailable)

/-- Renames a slot to one that must be empty. -/
def moveSlot (source destination : Slot) : SlotProgram ε Unit :=
  attempt (.fileSlot .unavailable) fun s =>
    if (s.get source).isNone || (s.get destination).isSome then .error (.fileSlot .unavailable)
    else .ok ((), (s.set destination (s.get source)).set source none)

/-- Whether there was a file to remove. -/
def removeSlot (slot : Slot) : SlotProgram ε Bool :=
  attempt (.fileSlot .unavailable) fun s =>
    if (s.get slot).isNone then .ok (false, s) else .ok (true, s.set slot none)

/-- Flushes the directory. -/
def syncDirectory : SlotProgram ε Unit := attemptNothing (.fileSlot .unavailable)

/-! ## The store -/

section Store

variable (maximumBytes : Nat) (validateBytes : Bytes → Except ε T)

/-- The first of these slots that holds something. -/
def inspectSlots : List Slot → SlotProgram ε (Option (Slot × T))
  | [] => pure none
  | slot :: slots => do
    match ← readSlot maximumBytes slot with
    | some bytes => do
      let value ← Program.ofExcept ((validateBytes bytes).mapError StoreError.validation)
      pure (some (slot, value))
    | none => inspectSlots slots

/-- The slot that is read: current, then backup, then next. -/
def inspect : SlotProgram ε (Option (Slot × T)) :=
  inspectSlots maximumBytes validateBytes [.current, .backup, .next]

/-- The repairs that make the selected slot the only one. -/
def repair : Slot → SlotProgram ε Unit
  | .current => do
    let removedNext ← removeSlot .next
    let removedBackup ← removeSlot .backup
    if removedNext || removedBackup then syncDirectory else pure ()
  | .backup => do
    let _ ← removeSlot .next
    moveSlot .backup .current
    syncDirectory
  | .next => do
    moveSlot .next .current
    syncDirectory

/-- Reads a slot and makes it the current one. -/
def recoverAndRead : SlotProgram ε (Option T) := do
  match ← inspect maximumBytes validateBytes with
  | none => pure none
  | some (slot, value) => do
    repair slot
    pure (some value)

/-- Puts the backup back, if that works. -/
def restoreBackupBestEffort : SlotProgram ε Unit :=
  Program.ignoreError do
    moveSlot .backup .current
    syncDirectory

/-- Creating, writing and closing the next file. -/
def writeNext (bytes : Bytes) : SlotProgram ε Unit := do
  createNextWriter
  -- The `finally` of the source closes a writer that is still open.
  Program.onError
    (do
      let bytesWritten ← writerWrite bytes
      if bytesWritten ≠ bytes.length then throw .byteSlotUnavailable
      writerSync
      writerClose)
    (Program.ignoreError writerClose)

/-- Putting the next file in place, the current one aside.  The answer is
    `currentMovedToBackup`. -/
def publishNext (hadCurrentValue : Bool) : SlotProgram ε Bool := do
  if hadCurrentValue then moveSlot .current .backup
  Program.onError (moveSlot .next .current)
    (if hadCurrentValue then restoreBackupBestEffort else pure ())
  pure hadCurrentValue

/-- The `finally` of the source removes the next file unless it was published, so
    it belongs to the steps up to the publication. -/
def replace (bytes : Bytes) (hadCurrentValue : Bool) : SlotProgram ε Unit := do
  prepareDirectory
  let currentMovedToBackup ← Program.onError
    (do
      writeNext bytes
      publishNext hadCurrentValue)
    (Program.ignoreError (do let _ ← removeSlot .next))
  syncDirectory
  if currentMovedToBackup then do
    let _ ← removeSlot .backup
    syncDirectory

/-- Removes the slots, the current one last. -/
def clear : SlotProgram ε Unit := do
  let _ ← removeSlot .next
  let _ ← removeSlot .backup
  let _ ← removeSlot .current
  syncDirectory

end Store

end CrashSafe
