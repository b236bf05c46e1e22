import Eky.StoredValue

/-! # The record files that are written by hand

    `AcceptedBuildMetadataStore`, `DirectSetupMigrationRecoveryStore`,
    `UpdateJournalStore` and `InvoicePdfArchiveAtomicJsonFile` each keep one JSON
    record in a file with a `.next` and a `.backup` beside it.  They share the way
    in which a record is read and removed; each has its own way of writing it. -/

namespace RecordFiles

variable {T : Type}

/-- A record and its JSON text, with the line feed that ends the file.  An object's
    text has no proper prefix that is JSON, except for the one without line feed. -/
structure RecordCodec (T : Type) where
  parse : Bytes → Option T
  serialize : T → Bytes
  parse_serialize : ∀ record, parse (serialize record) = some record
  parse_prefix : ∀ record n other, parse ((serialize record).take n) = some other →
    other = record
  serialize_pos : ∀ record, 1 ≤ (serialize record).length

/-- What the code can tell of a file error. -/
inductive IoError
  | noEntry
  | other
  deriving DecidableEq

/-- `completionUncertain` is the mark of an archive error after which the file
    handle may still be open. -/
inductive RecordError
  | io (error : IoError)
  | invalid
  | conflict
  | unavailable (completionUncertain : Bool)
  deriving DecidableEq

/-- The texts of the errors of the three update stores. -/
def RecordError.message (store : String) : RecordError → Option String
  | .io _ => none
  | .invalid => some (store ++ "_INVALID")
  | .conflict => some (store ++ "_CONFLICT")
  | .unavailable _ => some (store ++ "_UNAVAILABLE")

/-- A program over the three files. -/
abbrev RecordProgram (α : Type) : Type := Program Slots Fate RecordError α

/-! ## File operations -/

/-- Making, narrowing and checking the directory, flushes, `chmod` and closing. -/
def housekeeping : RecordProgram Unit := attemptNothing (.io .other)

/-- Renames a file. -/
def rename (source destination : Slot) : RecordProgram Unit :=
  attempt (.io .other) fun s =>
    match s.get source with
    | none => .error (.io .noEntry)
    | some bytes => .ok ((), (s.set destination (some bytes)).set source none)

/-- `rm` with `force`: there need not be a file. -/
def rm (slot : Slot) : RecordProgram Unit :=
  attempt (.io .other) fun s => .ok ((), s.set slot none)

/-- `open` with the flag `wx`. -/
def openNext : RecordProgram Unit :=
  attempt (.io .other) fun s =>
    if s.next.isSome then .error (.io .other) else .ok ((), s.set .next (some []))

/-- `writeFile` writes everything, or it does not complete. -/
def writeFile (content : Bytes) : RecordProgram Unit :=
  attemptParts (.io .other) fun fate s =>
    match fate.ending with
    | .completes => ((), s.set .next (some content))
    | _ => ((), s.set .next (some (content.take (fate.progress.getD content.length))))

/-! ## Reading and removing -/

section Record

variable (codec : RecordCodec T) (maximumBytes : Nat)

/-- Only a missing file is not an error. -/
def readRecord (slot : Slot) : RecordProgram (Option T) :=
  attempt .invalid fun s =>
    match s.get slot with
    | none => .ok (none, s)
    | some bytes =>
      if ReadableSize maximumBytes bytes then
        match codec.parse bytes with
        | some record => .ok (some record, s)
        | none => .error .invalid
      else .error .invalid

/-- Removes backup and next file. -/
def removeRecoverySlots : RecordProgram Unit := do
  if ← Program.allSettled [rm .next, rm .backup] then pure ()
  else throw (.unavailable false)

/-- `read` of the three update stores. -/
def readStored : RecordProgram (Option T) := do
  match ← readRecord codec maximumBytes .current with
  | some current => do
    removeRecoverySlots
    pure (some current)
  | none =>
    match ← readRecord codec maximumBytes .backup with
    | some backup => do
      rename .backup .current
      rm .next
      housekeeping
      pure (some backup)
    | none =>
      match ← readRecord codec maximumBytes .next with
      | some next => do
        rename .next .current
        housekeeping
        pure (some next)
      | none => pure none

/-- The removal of all three files, in whatever order. -/
def removeAll : RecordProgram Unit := do
  if ← Program.allSettled [rm .current, rm .next, rm .backup] then pure ()
  else throw (.unavailable false)

/-- `clear` of the three update stores. -/
def clearStored : RecordProgram Unit := do
  removeAll
  housekeeping

/-! ## Writing -/

/-- Whether there was a current file to set aside. -/
def setAside : RecordProgram Bool :=
  tryCatch
    (do
      rename .current .backup
      pure true)
    fun error => if error = .io .noEntry then pure false else throw error

/-- Writing and closing the next file. -/
def fillNext (content : Bytes) : RecordProgram Unit :=
  Program.andFinally
    (do
      writeFile content
      housekeeping)
    housekeeping

/-- Writes the next file. -/
def createNext (content : Bytes) : RecordProgram Unit := do
  openNext
  fillNext content

/-- Putting the next file in place.  If that fails, the file set aside is put back. -/
def publish : RecordProgram Unit := do
  let previousMoved ← setAside
  Program.onError
    (do
      rename .next .current
      housekeeping)
    (if previousMoved then Program.ignoreError (rename .backup .current) else pure ())
  if previousMoved then do
    rm .backup
    housekeeping

/-- What is caught while a record is written. -/
def unavailable : RecordError → RecordError := fun _ => .unavailable false

/-- The writing of `AcceptedBuildMetadataStore` and, with the `chmod` of the next
    file, of `DirectSetupMigrationRecoveryStore`. -/
def writeCrashSafe (narrowsNext : Bool) (content : Bytes) : RecordProgram Unit :=
  Program.andFinally
    (Program.mapError unavailable do
      housekeeping
      rm .next
      rm .backup
      createNext content
      if narrowsNext then housekeeping
      publish)
    (Program.ignoreError (rm .next))

/-- A record goes on with the correlation and does not fall behind the revision of the
    one in place. -/
def refuseConflict (correlationId : T → String) (revision : T → Nat) (current : Option T)
    (validated : T) : RecordProgram Unit :=
  match current with
  | none => pure ()
  | some current =>
    if correlationId current ≠ correlationId validated ∨ revision validated < revision current then
      throw .conflict
    else pure ()

end Record

/-- What can be done with the record of one store. -/
structure RecordOperations (T : Type) where
  maximumBytes : Nat
  read : RecordProgram (Option T)
  write : T → RecordProgram Unit
  clear : RecordProgram Unit

end RecordFiles

namespace AcceptedBuildMetadataStore

open RecordFiles

variable {T : Type} (codec : RecordCodec T) (formatVersion : T → Nat)

/-- Bytes of the accepted build's record. -/
def maximumBytes : Nat := 4 * 1024

/-- Version 1 does not replace version 2, whichever slot that is in. -/
def refuseDowngrade (slot : Slot) : RecordProgram Unit := do
  let stored ← readRecord codec maximumBytes slot
  if stored.map formatVersion = some 2 then throw .invalid

/-- Writes a record, whose format does not go back. -/
def writeStored (validated : T) : RecordProgram Unit := do
  if formatVersion validated = 1 then do
    refuseDowngrade codec formatVersion .current
    refuseDowngrade codec formatVersion .backup
    refuseDowngrade codec formatVersion .next
  writeCrashSafe false (codec.serialize validated)

/-- The operations of the store. -/
def operations : RecordOperations T where
  maximumBytes := maximumBytes
  read := readStored codec maximumBytes
  write := writeStored codec formatVersion
  clear := clearStored

end AcceptedBuildMetadataStore

namespace DirectSetupMigrationRecoveryStore

open RecordFiles

variable {T : Type} (codec : RecordCodec T) (correlationId : T → String) (revision : T → Nat)

/-- Bytes of the recovery record. -/
def maximumDirectSetupMigrationRecoveryBytes : Nat := 16 * 1024

/-- Writes a record, if the step is allowed. -/
def write (validated : T) : RecordProgram Unit := do
  let current ← readRecord codec maximumDirectSetupMigrationRecoveryBytes .current
  refuseConflict correlationId revision current validated
  writeCrashSafe true (codec.serialize validated)

/-- The operations of the store. -/
def operations : RecordOperations T where
  maximumBytes := maximumDirectSetupMigrationRecoveryBytes
  read := readStored codec maximumDirectSetupMigrationRecoveryBytes
  write := write codec correlationId revision
  clear := clearStored

end DirectSetupMigrationRecoveryStore

namespace InvoicePdfArchiveAtomicJsonFile

open RecordFiles

variable {T : Type} (codec : RecordCodec T)

/-- Bytes of a file. -/
def maximumJsonFileBytes : Nat := 2 * 1024 * 1024

/-- Removes a file. -/
def removeFile (slot : Slot) : RecordProgram Unit := Program.mapError unavailable (rm slot)

/-- Makes a file the current one. -/
def restore (source : Slot) : RecordProgram Unit :=
  Program.mapError unavailable (rename source .current)

/-- Reads the record and makes its file the current one. -/
def read : RecordProgram (Option T) := do
  match ← readRecord codec maximumJsonFileBytes .current with
  | some current => do
    removeFile .next
    removeFile .backup
    pure (some current)
  | none =>
    match ← readRecord codec maximumJsonFileBytes .backup with
    | some backup => do
      restore .backup
      removeFile .next
      pure (some backup)
    | none =>
      match ← readRecord codec maximumJsonFileBytes .next with
      | some next => do
        restore .next
        pure (some next)
      | none => pure none

/-- A handle that cannot be closed leaves the next file alone. -/
def createNext (content : Bytes) : RecordProgram Unit := do
  openNext
  Program.andFinally
    (do
      writeFile content
      housekeeping)
    (Program.mapError (fun _ => .unavailable true) housekeeping)

/-- The rename alone is guarded by the restoration; there is no flush of the
    directory. -/
def publish : RecordProgram Unit := do
  let currentMoved ← setAside
  Program.onError (rename .next .current)
    (if currentMoved then Program.ignoreError (rename .backup .current) else pure ())
  if currentMoved then removeFile .backup

/-- Writes a record through the next file. -/
def write (value : T) : RecordProgram Unit := do
  if maximumJsonFileBytes < (codec.serialize value).length then throw (.unavailable false)
  tryCatch
    (do
      housekeeping
      removeFile .next
      removeFile .backup
      createNext (codec.serialize value)
      housekeeping
      publish)
    fun error =>
      if error = .unavailable true then throw error
      else do
        Program.ignoreError (rm .next)
        throw (.unavailable false)
  Program.ignoreError (rm .next)

/-- The operations of the store. -/
def operations : RecordOperations T where
  maximumBytes := maximumJsonFileBytes
  read := read codec
  write := write codec
  clear := removeAll

end InvoicePdfArchiveAtomicJsonFile
