import Eky.BoundedPages
import Eky.AsciiLines
import Eky.BuildIdentity
import Eky.TransitionSystem
import Mathlib.Data.List.Lex

/-! # What a deletion goes over, page by page

    Deleting a workspace needs every entry of its directories and every remnant that belongs
    to it.  Neither may be held at once: both sources are read anew for every page of 64.

    - `Entries.next` is one step of `observeWorkspaceDeletionDirectoryEntries`; between two of
      them the purge may remove the names it has seen (`observation`);
    - `captureSources` and `Sources.records` are the inventory of a workspace, which stops at
      a page that is not full. -/

namespace DeletionPages

open Fallible BoundedPages TransitionSystem

/-- A text as its UTF-16 code units, which is how `<` compares texts. -/
def CodeUnits : Type := List Nat

instance : LinearOrder CodeUnits := inferInstanceAs (LinearOrder (List Nat))

/-- The code units of a text. -/
def codeUnits (text : String) : CodeUnits :=
  text.toList.flatMap fun c => JavaScript.codeUnits c.toNat

/-- The name contains a character. -/
def CodeUnits.has (text : CodeUnits) (c : Char) : Bool := List.elem c.toNat text

/-- Entries of a page. -/
def workspaceDeletionDirectoryEntryPageSize : Nat := 64

/-! ## Directories -/

/-- The error of the inventory. -/
def inventoryInvalidCode : String := "WORKSPACE_DELETE_INVENTORY_INVALID"

/-- A name that no directory entry can have. -/
def invalidName (win32 : Bool) (name : CodeUnits) : Prop :=
  name = codeUnits "" ∨ name = codeUnits "." ∨ name = codeUnits ".." ∨ name.has '\x00' = true
    ∨ name.has '/' = true ∨ (win32 = true ∧ name.has '\\' = true)

instance (win32 : Bool) (name : CodeUnits) : Decidable (invalidName win32 name) :=
  inferInstanceAs (Decidable (_ ∨ _ ∨ _ ∨ _ ∨ _ ∨ _))

/-- What a pass does with an entry of the directory. -/
def considerName (win32 : Bool) (cursor : Option CodeUnits) (page : List CodeUnits)
    (name : CodeUnits) : Except String (List CodeUnits) := do
  throwIf (invalidName win32 name) inventoryInvalidCode
  consider id workspaceDeletionDirectoryEntryPageSize inventoryInvalidCode cursor page name

/-- One pass over the directory, which delivers its entries in any order. -/
def readNames (win32 : Bool) (cursor : Option CodeUnits) (delivered : List CodeUnits) :
    Except String (List CodeUnits) :=
  delivered.foldlM (considerName win32 cursor) []

/-- The generator between two calls: the last name it has yielded, and the names of its page
    that are left. -/
structure Entries where
  cursor : Option CodeUnits := none
  page : List CodeUnits := []

/-- The next name, or none at the end.  Only a call at the end of a page reads the
    directory. -/
def Entries.next (win32 : Bool) (entries : Entries) (delivered : List CodeUnits) :
    Except String (Option CodeUnits × Entries) :=
  match entries.page with
  | name :: page => .ok (some name, { cursor := some name, page })
  | [] => do
      let page ← readNames win32 entries.cursor delivered
      match page with
      | [] => .ok (none, entries)
      | name :: page => .ok (some name, { cursor := some name, page })

/-- A directory while it is read. -/
structure Observation where
  directory : List CodeUnits
  entries : Entries
  yielded : List CodeUnits

/-- A consumer that takes one name after the other and removes some of those it has. -/
def observation (win32 : Bool) (names : List CodeUnits) : TransitionSystem Observation where
  initial s := s = { directory := names, entries := {}, yielded := [] }
  step s t :=
    (∃ delivered name entries, delivered.Perm s.directory
      ∧ s.entries.next win32 delivered = .ok (some name, entries)
      ∧ t = { s with entries, yielded := s.yielded ++ [name] })
    ∨ ∃ name ∈ s.yielded, t = { s with directory := s.directory.filter (· ≠ name) }

/-! ## Records of the inventory -/

/-- The error of a record. -/
def invalidCode : String := "WORKSPACE_REMNANT_BINDING_INVALID"

/-- What a record is about. -/
inductive Role
  | workspace
  | legacyEntry
  | replacementImport
  | activationStaging
  | activationRollback
  | activationFailed
  | importCandidate
  | adoptionCandidate
  | inspection
  | inspectionEvidence
  deriving DecidableEq

/-- The text of a role. -/
def Role.text : Role → String
  | .workspace => "workspace"
  | .legacyEntry => "legacyEntry"
  | .replacementImport => "replacementImport"
  | .activationStaging => "activationStaging"
  | .activationRollback => "activationRollback"
  | .activationFailed => "activationFailed"
  | .importCandidate => "importCandidate"
  | .adoptionCandidate => "adoptionCandidate"
  | .inspection => "inspection"
  | .inspectionEvidence => "inspectionEvidence"

/-- The fields of a record. -/
structure RecordValue where
  role : Role
  ownerOperationId : Option String
  generationId : Option String
  member : Option String
  rootIdentity : String
  parentIdentity : String
  bindingSha256 : Option String
  deriving DecidableEq

/-- The entries that belong to a workspace. -/
def workspaceOwnedEntryNames : List String :=
  ["data", "storage", "profile-backup-state", "recovery-points", "recovery-point-state",
    "private-backup-staging", "profile-restore-rollback", "failed-profile-restores",
    "private-backup-quarantine", "profile-restore-state", "secrets", "settings", "archive"]

/-- `isProfileInspectionOperationId`: the versions 1 to 5. -/
def isProfileInspectionOperationId : String → Bool :=
  JavaScript.isLowerUuid ['1', '2', '3', '4', '5']

/-- `isBackupReplacementOperationId`: random UUIDs only. -/
def isBackupReplacementOperationId : String → Bool := JavaScript.isLowerUuid ['4']

/-- The owner and the generation that a role asks for. -/
def ownerFits (value : RecordValue) : Bool :=
  match value.role with
  | .workspace | .legacyEntry => value.ownerOperationId.isNone && value.generationId.isNone
  | .inspection | .inspectionEvidence =>
      value.ownerOperationId.any isProfileInspectionOperationId
        && value.generationId.any isProfileInspectionOperationId
  | _ =>
      value.ownerOperationId.any isBackupReplacementOperationId && value.generationId.isNone

/-- The member fits the role. -/
def memberFits (value : RecordValue) : Bool :=
  match value.role with
  | .legacyEntry => value.member.any workspaceOwnedEntryNames.contains
  | _ => value.member.isNone

/-- Only the workspace itself has no binding. -/
def bindingFits (value : RecordValue) : Bool :=
  match value.role with
  | .workspace => value.bindingSha256.isNone
  | _ => value.bindingSha256.any isSha256

/-- The checks of a record. -/
def Captured (value : RecordValue) : Bool :=
  ownerFits value && memberFits value && bindingFits value && isSha256 value.rootIdentity
    && isSha256 value.parentIdentity

/-- A record that has been captured. -/
structure WorkspaceDeletionInventoryRecord extends RecordValue where
  captured : Captured toRecordValue = true

/-- The record, if it passes them. -/
def captureDeletionInventoryRecord (value : RecordValue) :
    Except String WorkspaceDeletionInventoryRecord :=
  if h : Captured value = true then .ok { toRecordValue := value, captured := h }
  else .error inventoryInvalidCode

/-- The key that records are ordered by. -/
def deletionInventoryRecordKey (value : WorkspaceDeletionInventoryRecord) : CodeUnits :=
  codeUnits ("/".intercalate [value.role.text, value.ownerOperationId.getD "",
    value.generationId.getD "", value.member.getD ""])

theorem capture_captured (record : WorkspaceDeletionInventoryRecord) :
    captureDeletionInventoryRecord record.toRecordValue = .ok record := by
  rw [captureDeletionInventoryRecord, dif_pos record.captured]

/-! ## The inventory -/

/-- Adds a record to the page. -/
def considerRecord (cursor : Option CodeUnits) (page : List WorkspaceDeletionInventoryRecord)
    (value : WorkspaceDeletionInventoryRecord) :
    Except String (List WorkspaceDeletionInventoryRecord) := do
  let row ← captureDeletionInventoryRecord value.toRecordValue
  consider deletionInventoryRecordKey workspaceDeletionDirectoryEntryPageSize invalidCode cursor
    page row

/-- The first page, of the workspace alone. -/
def createPage (workspace : WorkspaceDeletionInventoryRecord) (cursor : Option CodeUnits) :
    Except String (List WorkspaceDeletionInventoryRecord) :=
  considerRecord cursor [] workspace

/-- One pass over the remnants, whose records come in any order. -/
def readRecords (workspace : WorkspaceDeletionInventoryRecord) (cursor : Option CodeUnits)
    (delivered : List WorkspaceDeletionInventoryRecord) :
    Except String (List WorkspaceDeletionInventoryRecord) := do
  let page ← createPage workspace cursor
  delivered.foldlM (considerRecord cursor) page

/-- `firstPage` is there until the first call of `records`, `expectedPage` only if the page is
    not full. -/
structure Sources where
  workspace : WorkspaceDeletionInventoryRecord
  firstPage : Option (List WorkspaceDeletionInventoryRecord)
  expectedPage : Option (List WorkspaceDeletionInventoryRecord)

/-- Takes in all records that are delivered. -/
def captureSources (workspace : WorkspaceDeletionInventoryRecord)
    (delivered : List WorkspaceDeletionInventoryRecord) : Except String Sources := do
  let page ← readRecords workspace none delivered
  .ok {
    workspace
    firstPage := some page
    expectedPage :=
      if page.length < workspaceDeletionDirectoryEntryPageSize then some page else none }

/-- The page after a cursor. -/
def pageOf (workspace : WorkspaceDeletionInventoryRecord) (cursor : Option CodeUnits)
    (delivered : List WorkspaceDeletionInventoryRecord) :
    Option (List WorkspaceDeletionInventoryRecord) →
      Except String (List WorkspaceDeletionInventoryRecord)
  | some page => .ok page
  | none => readRecords workspace cursor delivered

/-- The loop over the pages, with what each of its passes delivers; `none` when it has not come
    to its end within so many pages. -/
def recordsFrom (workspace : WorkspaceDeletionInventoryRecord)
    (deliver : Nat → List WorkspaceDeletionInventoryRecord) :
    Nat → Nat → Option (List WorkspaceDeletionInventoryRecord) → Option CodeUnits →
      Except String (Option (List WorkspaceDeletionInventoryRecord))
  | 0, _, _, _ => .ok none
  | pages + 1, pass, captured, cursor => do
      let page ← pageOf workspace cursor (deliver pass) captured
      match page.getLast? with
      | none => .ok (some [])
      | some last =>
          if page.length < workspaceDeletionDirectoryEntryPageSize then .ok (some page)
          else do
            let rest ← recordsFrom workspace deliver pages (pass + 1) none
              (some (deletionInventoryRecordKey last))
            .ok (rest.map (page ++ ·))

/-- Everything that `records()` yields. -/
def Sources.records (sources : Sources) (deliver : Nat → List WorkspaceDeletionInventoryRecord)
    (pages : Nat) : Except String (Option (List WorkspaceDeletionInventoryRecord)) :=
  recordsFrom sources.workspace deliver pages 0 (sources.expectedPage <|> sources.firstPage) none

/-- What a call of `records()` leaves for the next one. -/
def Sources.afterRecords (sources : Sources) : Sources := { sources with firstPage := none }

end DeletionPages
